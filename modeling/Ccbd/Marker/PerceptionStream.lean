import Ccbd.Db.StateMachine
import Ccbd.Lib.Utf8

/-!
# The perception stream

The reader task of an agent hands on what it reads from the pane, chunk by chunk;
`process_perception_stream` stores each chunk as an `output_chunk` event and looks for the
marker on the screen. A marker counts at once, or, where the provider has a stability
period, after that period without output.

A chunk is decoded on its own, so what is recorded depends on where the stream is cut. The
timers of the marker registry are left out; the answers of the screen come with each chunk.
-/

namespace Ccbd

open Lib Lib.Utf8

/-- What the surroundings answer while a chunk is processed. -/
structure ChunkAnswers where
  /-- The screen's mutex is poisoned. -/
  parserPoisoned : Bool := false
  idleScanEnabled : Bool := true
  /-- Whether the marker is on the screen. -/
  scanMatched : Bool := false
  env : CompletionEnv
  now : Int

/-- What the loop receives: a chunk, or the end of the stability period without one. -/
inductive StreamInput where
  | chunk (bytes : List UInt8) (answers : ChunkAnswers)
  | stabilityElapsed (env : CompletionEnv) (now : Int)

/-- The database and the variables of the loop. -/
structure StreamState where
  db : Db
  pendingStabilityMatch : Bool := false
  skipScanAfterStabilityNoise : Bool := false

def markIdleAfterMarkerMatch (db : Db) (env : CompletionEnv) (agentId : String) (now : Int) : Db :=
  commit (markAgentIdleMatchedOutcomeSync env db agentId now) db

/-- A chunk that cannot be stored is dropped. -/
def persistOutputChunk (db : Db) (agentId : String) (bytes : List UInt8) (now : Int) : Db :=
  commit (insertEventSync db agentId none "output_chunk"
    (.obj [("text", .str (String.ofList (decodeLossy bytes)))]) now) db

/-- The look for the marker: switched off, skipped once after output within the stability
period, or made. -/
def scanForMarker (s : StreamState) (answers : ChunkAnswers) : Bool × StreamState :=
  if !answers.idleScanEnabled then (false, s)
  else if s.skipScanAfterStabilityNoise then
    (false, { s with skipScanAfterStabilityNoise := false })
  else (answers.scanMatched, s)

def processChunk (stabilityMs : Nat) (agentId : String) (s : StreamState) (bytes : List UInt8)
    (answers : ChunkAnswers) : StreamState :=
  -- output within the stability period takes the match back
  let s := if s.pendingStabilityMatch && 0 < stabilityMs then
      { s with pendingStabilityMatch := false, skipScanAfterStabilityNoise := true }
    else s
  if answers.parserPoisoned then s
  else
    let s := { s with db := persistOutputChunk s.db agentId bytes answers.now }
    match scanForMarker s answers with
    | (true, s) =>
      if 0 < stabilityMs then { s with pendingStabilityMatch := true }
      else { s with db := markIdleAfterMarkerMatch s.db answers.env agentId answers.now }
    | (false, s) => { s with pendingStabilityMatch := false }

/-- One turn of the loop. -/
def streamTurn (stabilityMs : Nat) (agentId : String) (s : StreamState) : StreamInput → StreamState
  | .chunk bytes answers => processChunk stabilityMs agentId s bytes answers
  | .stabilityElapsed env now =>
    if s.pendingStabilityMatch && 0 < stabilityMs then
      { s with db := markIdleAfterMarkerMatch s.db env agentId now, pendingStabilityMatch := false }
    else s

def processPerceptionStream (stabilityMs : Nat) (agentId : String) (s : StreamState)
    (inputs : List StreamInput) : StreamState :=
  inputs.foldl (streamTurn stabilityMs agentId) s

/-! ## What is recorded -/

/-- The text fields of the output chunks of the agent, one after the other. -/
def Db.recordedText (db : Db) (agentId : String) : List Char :=
  ((outputChunksSince db agentId 0).filterMap (·.strField? "text")).flatMap String.toList

/-- The agent is still there, with the same output. -/
structure SameOutput (agentId : String) (db db' : Db) : Prop where
  present : (db.agents.get? agentId).isSome → (db'.agents.get? agentId).isSome
  text : db'.recordedText agentId = db.recordedText agentId

theorem SameOutput.refl (agentId : String) (db : Db) : SameOutput agentId db db := ⟨id, rfl⟩

variable {db db' : Db} {now : Int} {s : StreamState} {agentId : String}

theorem SameOutput.trans (h : SameOutput agentId db db₁) (h' : SameOutput agentId db₁ db₂) :
    SameOutput agentId db db₂ :=
  ⟨h'.present ∘ h.present, h'.text.trans h.text⟩

theorem outputChunksSince_append (db : Db) (a b ty : String) (r : Option String) (p : Json)
    (now : Int) :
    outputChunksSince { db with events := db.events.append ⟨a, r, ty, p, now⟩ } b 0 =
      outputChunksSince db b 0 ++ if a = b ∧ ty = "output_chunk" then [p] else [] := by
  unfold outputChunksSince AutoTable.select AutoTable.append
  by_cases hit : a = b ∧ ty = "output_chunk"
  · simp [hit]
  · have off : (a = b && ty = "output_chunk") = false := by simpa using hit
    simp [hit]

theorem SameOutput.appendEvent (agentId a : String) (other : ty ≠ "output_chunk")
    (db : Db) (p : Json) (now : Int) : SameOutput agentId db (db.appendEvent a ty p now) := by
  refine ⟨id, ?_⟩
  simp only [Db.recordedText, Db.appendEvent]
  rw [outputChunksSince_append, if_neg (by simp [other]), List.append_nil]

theorem SameOutput.of_tables
    (present : (db.agents.get? agentId).isSome → (db'.agents.get? agentId).isSome)
    (events : db'.events = db.events) : SameOutput agentId db db' := by
  refine ⟨present, ?_⟩
  simp [Db.recordedText, outputChunksSince, events]

theorem SameOutput.modifyAgent (agentId a : String) (db : Db) (f : Agent → Agent) :
    SameOutput agentId db (db.modifyAgent a f) := by
  refine .of_tables ?_ rfl
  simp only [Db.modifyAgent_agents, Table.get?_modify]
  split_ifs <;> simp

theorem markIdleAndSettle_sameOutput {s : Option Settlement}
    (h : markIdleAndSettle db a states version subState s payload now = .ok (n, db')) :
    SameOutput agentId db db' := by
  unfold markIdleAndSettle at h
  split_ifs at h
  · obtain ⟨db₁, settled, h⟩ := bind_eq_ok.mp h
    cases h
    obtain ⟨agents, events⟩ := settleIfAny_tables settled
    have idle := SameOutput.modifyAgent agentId a db (·.enterSub .idle subState now)
    have after : SameOutput agentId _ db₁ := .of_tables (by simp [agents]) events
    exact (idle.trans after).trans (.appendEvent agentId a (by decide) _ _ _)
  · cases h
    exact .refl ..

theorem CompletionCase.sameOutput {checks : Agent → String → Job → Prop}
    (h : CompletionCase env db agentId states version subState payload checks reply now db') :
    SameOutput agentId db db' := by
  cases h with
  | untouched => exact .refl ..
  | denied => exact .appendEvent agentId agentId (by decide) _ _ _
  | deferred =>
    unfold handleCompletionDeferralSync
    dsimp only
    have noted : ∀ jobId reason hash, SameOutput agentId db
        (insertCompletionDeferredEvent db agentId jobId reason hash now) :=
      fun _ _ _ => .appendEvent agentId agentId (by decide) _ _ _
    split
    · exact ((noted ..).trans (.modifyAgent ..)).trans
        (.appendEvent agentId agentId (by decide) _ _ _)
    · exact noted ..
  | vacated found free source finish | settled found dispatched checked source finish =>
    exact markIdleAndSettle_sameOutput finish

theorem markIdleAfterMarkerMatch_sameOutput (db : Db) (env : CompletionEnv) (agentId : String)
    (now : Int) : SameOutput agentId db (markIdleAfterMarkerMatch db env agentId now) :=
  commit_induction (.refl ..) fun _ _ h =>
    (markAgentIdleMatchedOutcomeSyncInner_cases h).sameOutput

/-! ## One turn -/

/-- The screen can be locked. -/
def StreamInput.Unpoisoned : StreamInput → Prop
  | chunk _ answers => answers.parserPoisoned = false
  | stabilityElapsed _ _ => True

/-- The agent is still there and `text` was added to its output. -/
structure AddsOutput (agentId : String) (db : Db) (text : List Char) (db' : Db) : Prop where
  present : (db'.agents.get? agentId).isSome
  text : db'.recordedText agentId = db.recordedText agentId ++ text

theorem AddsOutput.trans_same {text : List Char} (h : AddsOutput agentId db text db₁)
    (h' : SameOutput agentId db₁ db₂) : AddsOutput agentId db text db₂ :=
  ⟨h'.present h.present, h'.text.trans h.text⟩

theorem persistOutputChunk_addsOutput (present : (db.agents.get? agentId).isSome)
    (bytes : List UInt8) (now : Int) :
    AddsOutput agentId db (decodeLossy bytes) (persistOutputChunk db agentId bytes now) := by
  have inserted : persistOutputChunk db agentId bytes now = db.appendEvent agentId "output_chunk"
        (.obj [("text", .str (String.ofList (decodeLossy bytes)))]) now := by
    simp [persistOutputChunk, insertEventSync, Option.isSome_iff_ne_none.mp present, commit,
      Db.appendEvent]
  rw [inserted]
  refine ⟨present, ?_⟩
  simp only [Db.recordedText, Db.appendEvent]
  rw [outputChunksSince_append, if_pos ⟨rfl, rfl⟩, List.filterMap_append, List.flatMap_append]
  simp [Json.strField?, Json.get?, Json.asStr?]

theorem processChunk_addsOutput (stabilityMs : Nat) (present : (s.db.agents.get? agentId).isSome)
    (unpoisoned : answers.parserPoisoned = false) (bytes : List UInt8) :
    AddsOutput agentId s.db (decodeLossy bytes)
      (processChunk stabilityMs agentId s bytes answers).db := by
  have stored := persistOutputChunk_addsOutput present bytes answers.now
  have after := stored.trans_same
    (markIdleAfterMarkerMatch_sameOutput _ answers.env agentId answers.now)
  unfold processChunk scanForMarker
  grind

/-! ## The whole stream -/

/-- The chunks that the reader delivers. -/
def chunksOf (inputs : List StreamInput) : List (List UInt8) :=
  inputs.filterMap fun
    | .chunk bytes _ => some bytes
    | .stabilityElapsed _ _ => none

/-- Every chunk is recorded as it is decoded on its own. -/
theorem processPerceptionStream_addsOutput (stabilityMs : Nat)
    (present : (s.db.agents.get? agentId).isSome)
    (unpoisoned : ∀ input ∈ inputs, input.Unpoisoned) :
    AddsOutput agentId s.db ((chunksOf inputs).flatMap decodeLossy)
      (processPerceptionStream stabilityMs agentId s inputs).db := by
  induction inputs generalizing s with
  | nil => exact ⟨present, by simp [processPerceptionStream, chunksOf]⟩
  | cons input inputs ih =>
    simp only [List.forall_mem_cons] at unpoisoned
    cases input with
    | chunk bytes answers =>
      have first := processChunk_addsOutput stabilityMs present unpoisoned.1 bytes
      have rest := ih first.present unpoisoned.2
      refine ⟨rest.present, rest.text.trans ?_⟩
      rw [first.text, List.append_assoc]
      rfl
    | stabilityElapsed env now =>
      have first : SameOutput agentId s.db
          (streamTurn stabilityMs agentId s (.stabilityElapsed env now)).db := by
        simp only [streamTurn]
        split
        · exact markIdleAfterMarkerMatch_sameOutput ..
        · exact .refl ..
      have rest := ih (first.present present) unpoisoned.2
      exact ⟨rest.present, rest.text.trans (by rw [first.text]; rfl)⟩

/-- The stream `text`, cut into the chunks of `inputs`, is recorded as it is. -/
def RecordsStream (stabilityMs : Nat) (agentId : String) (s : StreamState)
    (inputs : List StreamInput) (text : List Char) : Prop :=
  (processPerceptionStream stabilityMs agentId s inputs).db.recordedText agentId =
    s.db.recordedText agentId ++ text

/-- While the screen can be locked, a stream is recorded as it is exactly if no chunk begins
within a character. -/
theorem recordsStream_iff (present : (s.db.agents.get? agentId).isSome)
    (stream : (chunksOf inputs).flatten = encode text) (nonempty : ∀ c ∈ chunksOf inputs, c ≠ [])
    (unpoisoned : ∀ input ∈ inputs, input.Unpoisoned) :
    RecordsStream stabilityMs agentId s inputs text ↔
      ∀ c ∈ chunksOf inputs, beginsInside c = false := by
  have records := processPerceptionStream_addsOutput stabilityMs present unpoisoned
  rw [RecordsStream, records.text, List.append_cancel_left_eq]
  exact flatMap_decodeLossy_iff stream nonempty

/-- A database with the agent `a1`. -/
def streamStart : StreamState where
  db := { Db.oneSession with
    agents := Table.empty.insert "a1"
      { sessionId := "s1", provider := "claude", state := .busy, createdAt := 0, updatedAt := 0 } }

/-- The chunks, with no marker in sight. -/
def plainChunks (chunks : List (List UInt8)) : List StreamInput :=
  chunks.map fun bytes => .chunk bytes { env := .blank, now := 1 }

/-- The two bytes of `é` in one chunk. -/
theorem recordsStream_whole :
    RecordsStream 0 "a1" streamStart (plainChunks [[0x61], [0xC3, 0xA9]]) ['a', 'é'] := by
  refine (recordsStream_iff rfl rfl (by decide) ?_).mpr (by decide)
  simp [plainChunks, StreamInput.Unpoisoned]

/-- The two bytes of `é` in two chunks are recorded as two replacement characters. -/
theorem not_recordsStream_cut :
    ¬∀ (stabilityMs : Nat) (agentId : String) (s : StreamState) (inputs : List StreamInput)
      (text : List Char), (s.db.agents.get? agentId).isSome →
      (chunksOf inputs).flatten = encode text → (∀ c ∈ chunksOf inputs, c ≠ []) →
      (∀ input ∈ inputs, input.Unpoisoned) →
      RecordsStream stabilityMs agentId s inputs text := by
  intro recorded
  have same := recorded 0 "a1" streamStart (plainChunks [[0xC3], [0xA9]]) ['é'] rfl rfl (by decide)
    (by simp [plainChunks, StreamInput.Unpoisoned])
  have length := congrArg List.length same
  exact absurd length (by decide +kernel)

end Ccbd
