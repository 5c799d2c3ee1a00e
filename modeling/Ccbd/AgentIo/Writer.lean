import Ccbd.Lib.Table
import Mathlib.Logic.Function.Basic

/-!
# Texts for a pane

`send_text_to_pane_with_options` loads its text into a named buffer of the tmux server,
pastes the buffer into the pane and deletes it. The name is made of the agent's id, in which
other characters become underscores. Calls share the buffers, and nothing keeps two with one
name apart: each paste inserts its own text just if calls with one name have one text.
-/

namespace Ccbd

open Lib

/-- A call, with the environment it reads: whether a second Enter is sent. -/
structure SendCall where
  agentId : String
  text : String
  pressEnterAfterPaste : Bool := true
  secondEnter : Bool := false
deriving DecidableEq, Repr

def sanitizeBufferName (agentId : String) : String :=
  String.ofList (agentId.toList.map fun c => if c.isAlphanum || c = '_' || c = '-' then c else '_')

def SendCall.bufferName (call : SendCall) : String :=
  "ccbd-buf-" ++ sanitizeBufferName call.agentId

def isSingleLineSlashCommand (text : String) : Bool :=
  text.toList.head? = some '/' && !text.toList.contains '\n' && !text.toList.contains '\r'

/-- How far a call has come. -/
inductive SendPhase where
  | start
  | typing (rest : List Char)
  | loaded
  | pasted (succeeded : Bool)
  | entering (more : Bool)
  | returned (succeeded : Bool)
deriving DecidableEq, Repr

/-- The buffers of the server, the calls and what they have pasted. -/
structure SendState (ι : Type) where
  buffers : Table String String
  phase : ι → SendPhase := fun _ => .start
  pasted : List (ι × String) := []

namespace SendState

variable {ι : Type} [DecidableEq ι]

def setPhase (s : SendState ι) (i : ι) (phase : SendPhase) : SendState ι :=
  { s with phase := Function.update s.phase i phase }

/-- The next command of the call `i`; `succeeds` says whether tmux carries it out. A paste also
fails if there is no such buffer, and a failed deletion is only logged. -/
def step (calls : ι → SendCall) (s : SendState ι) (i : ι) (succeeds : Bool) : SendState ι :=
  let call := calls i
  match s.phase i with
  | .start =>
    if isSingleLineSlashCommand call.text then s.setPhase i (.typing call.text.toList)
    else if succeeds then
      { s with buffers := s.buffers.upsert call.bufferName call.text }.setPhase i .loaded
    else s.setPhase i (.returned false)
  | .typing [] => s.setPhase i (.returned succeeds)
  | .typing (_ :: rest) => s.setPhase i (if succeeds then .typing rest else .returned false)
  | .loaded =>
    match if succeeds then s.buffers.get? call.bufferName else none with
    | some text => { s with pasted := s.pasted ++ [(i, text)] }.setPhase i (.pasted true)
    | none => s.setPhase i (.pasted false)
  | .pasted good =>
    let s := if succeeds then { s with buffers := s.buffers.delete call.bufferName } else s
    s.setPhase i (if good && call.pressEnterAfterPaste then .entering call.secondEnter
      else .returned good)
  | .entering more =>
    s.setPhase i (if succeeds && more then .entering false else .returned succeeds)
  | .returned _ => s

/-- The commands of the calls in the order in which tmux gets them. -/
def run (calls : ι → SendCall) (s : SendState ι) (commands : List (ι × Bool)) : SendState ι :=
  commands.foldl (fun s command => s.step calls command.1 command.2) s

end SendState

/-- The call goes through a buffer. -/
def SendCall.Pastes (call : SendCall) : Prop := isSingleLineSlashCommand call.text = false

/-- Calls that share a buffer share their text. -/
def OneTextPerBuffer {ι : Type} (calls : ι → SendCall) : Prop :=
  ∀ i j, (calls i).Pastes → (calls j).Pastes → (calls i).bufferName = (calls j).bufferName →
    (calls i).text = (calls j).text

namespace SendState

variable {ι : Type} {calls : ι → SendCall} {s : SendState ι}

/-- A call that has loaded its buffer finds none there or the text of a call with its name;
and every paste so far inserted the text of such a call. -/
structure Shared (calls : ι → SendCall) (s : SendState ι) : Prop where
  pastes : ∀ i, s.phase i = .loaded → (calls i).Pastes
  loaded : ∀ i, s.phase i = .loaded → ∀ text, s.buffers.get? (calls i).bufferName = some text →
    ∃ j, (calls j).Pastes ∧ (calls j).bufferName = (calls i).bufferName ∧ (calls j).text = text
  pasted : ∀ entry ∈ s.pasted, (calls entry.1).Pastes ∧ ∃ j, (calls j).Pastes ∧
    (calls j).bufferName = (calls entry.1).bufferName ∧ (calls j).text = entry.2

theorem Shared.delete (h : Shared calls s) (name : String) :
    Shared calls { s with buffers := s.buffers.delete name } where
  pastes := h.pastes
  loaded j at_ text found := by
    simp only [Table.get?_delete] at found
    split_ifs at found
    exact h.loaded j at_ text found
  pasted := h.pasted

theorem Shared.paste (h : Shared calls s) (loaded : s.phase i = .loaded)
    (found : s.buffers.get? (calls i).bufferName = some text) :
    Shared calls { s with pasted := s.pasted ++ [(i, text)] } where
  pastes := h.pastes
  loaded := h.loaded
  pasted entry here := by
    rcases List.mem_append.mp here with before | last
    · exact h.pasted entry before
    · rw [List.mem_singleton.mp last]
      exact ⟨h.pastes i loaded, h.loaded i loaded text found⟩

variable [DecidableEq ι]

theorem Shared.setPhase (h : Shared calls s) (i : ι) {phase : SendPhase} (other : phase ≠ .loaded) :
    Shared calls (s.setPhase i phase) := by
  have before (j : ι) (at_ : (s.setPhase i phase).phase j = .loaded) : s.phase j = .loaded := by
    by_cases e : j = i
    · subst e
      simp [SendState.setPhase] at at_
      exact absurd at_ other
    · simpa [SendState.setPhase, e] using at_
  exact ⟨fun j at_ => h.pastes j (before j at_), fun j at_ => h.loaded j (before j at_), h.pasted⟩

theorem Shared.load (h : Shared calls s) (pastes : (calls i).Pastes) :
    Shared calls
      ({ s with buffers := s.buffers.upsert (calls i).bufferName (calls i).text }.setPhase i
        .loaded) where
  pastes j at_ := by
    by_cases e : j = i
    · exact e ▸ pastes
    · exact h.pastes j (by simpa [SendState.setPhase, e] using at_)
  loaded j at_ text found := by
    simp only [SendState.setPhase, Table.get?_upsert] at found
    split_ifs at found with same
    · cases found
      exact ⟨i, pastes, same.symm, rfl⟩
    · have e : j ≠ i := fun e => same (by rw [e])
      exact h.loaded j (by simpa [SendState.setPhase, e] using at_) text found
  pasted := h.pasted

theorem Shared.step (h : Shared calls s) (i : ι) (succeeds : Bool) :
    Shared calls (s.step calls i succeeds) := by
  cases phase : s.phase i with
  | start =>
    simp only [SendState.step, phase]
    split_ifs with slash
    · exact h.setPhase i (by simp)
    · exact h.load (eq_false_of_ne_true slash)
    · exact h.setPhase i (by simp)
  | typing rest =>
    cases rest with
    | nil =>
      simp only [SendState.step, phase]
      exact h.setPhase i (by simp)
    | cons c rest =>
      simp only [SendState.step, phase]
      exact h.setPhase i (by split_ifs <;> simp)
  | loaded =>
    simp only [SendState.step, phase]
    split
    · rename_i text found
      split_ifs at found
      exact (h.paste phase found).setPhase i (by simp)
    · exact h.setPhase i (by simp)
  | pasted good =>
    simp only [SendState.step, phase]
    have deleted : Shared calls
        (if succeeds then { s with buffers := s.buffers.delete (calls i).bufferName } else s) := by
      split_ifs
      · exact h.delete _
      · exact h
    exact deleted.setPhase i (by split_ifs <;> simp)
  | entering more =>
    simp only [SendState.step, phase]
    exact h.setPhase i (by split_ifs <;> simp)
  | returned =>
    simp only [SendState.step, phase]
    exact h

theorem Shared.run (h : Shared calls s) (commands : List (ι × Bool)) :
    Shared calls (s.run calls commands) := by
  refine List.foldlRecOn (motive := Shared calls) commands _ h ?_
  intro s h command _
  exact h.step command.1 command.2

end SendState

/-- In every interleaving of the calls each paste inserts the text of its own call, just if
calls with one buffer have one text. -/
theorem pastes_ownText_iff {ι : Type} [DecidableEq ι] (calls : ι → SendCall)
    (buffers : Table String String) :
    (∀ commands, ∀ entry ∈ (SendState.run calls ⟨buffers, fun _ => .start, []⟩ commands).pasted,
      entry.2 = (calls entry.1).text) ↔ OneTextPerBuffer calls := by
  constructor
  · intro own i j pastes pastes' same
    by_contra differ
    -- both load, and the first pastes what the second loaded
    have distinct : j ≠ i := fun e => differ (by rw [e])
    have slash : isSingleLineSlashCommand (calls i).text = false := pastes
    have slash' : isSingleLineSlashCommand (calls j).text = false := pastes'
    have mixed : (i, (calls j).text) ∈ (SendState.run calls ⟨buffers, fun _ => .start, []⟩
        [(i, true), (j, true), (i, true)]).pasted := by
      simp [SendState.run, SendState.step, SendState.setPhase, slash, slash', distinct,
        distinct.symm, Table.get?_upsert, same]
    exact differ (own _ _ mixed).symm
  · intro one commands entry here
    have start : SendState.Shared calls ⟨buffers, fun _ => .start, []⟩ :=
      ⟨by simp, by simp, by simp⟩
    obtain ⟨pastes, j, pastes', same, text⟩ := (start.run commands).pasted entry here
    rw [← text]
    exact one j entry.1 pastes' pastes same

/-- Whatever calls run at the same time, each paste inserts the text of its own call. -/
def PastesOwnText : Prop :=
  ∀ (ι : Type) [DecidableEq ι] (calls : ι → SendCall) (buffers : Table String String)
    (commands : List (ι × Bool)),
    ∀ entry ∈ (SendState.run calls ⟨buffers, fun _ => .start, []⟩ commands).pasted,
      entry.2 = (calls entry.1).text

/-- Two agents whose ids differ in a character that is replaced. -/
def twoSends (second : Bool) : SendCall :=
  if second then { agentId := "a_b", text := "two" } else { agentId := "a/b", text := "one" }

theorem not_pastesOwnText : ¬PastesOwnText := by
  intro own
  have mixed := own Bool twoSends .empty [(false, true), (true, true), (false, true)] (false, "two")
    (by decide +kernel)
  exact absurd mixed (by decide)

end Ccbd
