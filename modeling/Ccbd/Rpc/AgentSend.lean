import Ccbd.Dispatch.Operations

/-!
# Text sent to an agent past the queue

`handle_agent_send` looks for an earlier call with its request id, takes an IDLE agent to
WAITING_FOR_ACK by compare-and-swap, stores the request as an event, under an index that is
unique per agent and request id, and only then writes to the pane. Several calls run at the
same time, and anything may happen between two of their steps.
-/

namespace Ccbd

open Lib

/-! ## The call -/

structure SendParams where
  agentId : String
  text : String
  requestId : Option String

/-- What the surroundings answer in a step. -/
structure SendAnswers where
  /-- SQLite refuses the statement. -/
  refused : Option CcbdError := none
  paneRegistered : Bool := true
  captured : Bool := true
  writeError : Option String := none
  parserRegistered : Bool := true

/-- `duplicate` tells the two return statements with an earlier event from the last one. -/
structure SendReply where
  state : AgentState
  seqId : Nat
  duplicate : Bool

/-- Before which access to the database or the pane a call stands. -/
inductive SendPc where
  | lookup
  | readState (seqId : Nat) (status : String)
  | queryAgent
  | compareAndSwap (state : AgentState) (version : Int)
  | readCurrent (state : AgentState)
  | lookupPane (state : AgentState)
  | insert (state : AgentState)
  | readExisting (state : AgentState) (existingSeqId : Nat)
  | write (seqId : Nat)
  | progress (seqId : Nat) (captured : Bool) (writeError : Option String)
  | watch (seqId : Nat) (captured : Bool)
  | returned (result : Except CcbdError SendReply)

structure SendTask where
  pc : SendPc := .lookup
  /-- The version that the compare-and-swap found, once it has gone through. -/
  moved : Option Int := none
  /-- The text was written to the pane; whether the write succeeded. -/
  wrote : Option Bool := none
  /-- The watcher of the acknowledgement was started. -/
  watched : Bool := false

def queryEventByRequestIdSync (db : Db) (agentId requestId : String) : Option (Nat × Event) :=
  (db.events.select fun _ e => e.agentId = agentId && e.requestId = some requestId).head?

def sendStatus (e : Event) : String := (e.payload.strField? "status").getD "PENDING"

/-- The answer to a request that has an event already. -/
def duplicateReply (state : AgentState) (seqId existingSeqId : Nat) (status : String) :
    Except CcbdError SendReply :=
  if status = "SENT" ∨ status = "PENDING" then .ok ⟨state, seqId, true⟩
  else if status = "FAILED" then
    .error (.ptyIoError
      s!"previous attempt seq_id={existingSeqId} failed; retry with new request_id")
  else .error (.ipcInvalidRequest s!"unknown command_received status: {status}")

namespace SendTask

/-- From one access to the next, with the database it leaves. -/
def step (p : SendParams) (ans : SendAnswers) (now : Int) (db : Db) (t : SendTask) :
    SendTask × Db :=
  let goes (pc : SendPc) : SendTask × Db := ({ t with pc := pc }, db)
  let ends (result : Except CcbdError SendReply) : SendTask × Db := goes (.returned result)
  let query (k : SendTask × Db) : SendTask × Db :=
    match ans.refused with
    | some e => ends (.error e)
    | none => k
  match t.pc with
  | .lookup =>
    match p.requestId with
    | none => goes .queryAgent
    | some r => query <|
      match queryEventByRequestIdSync db p.agentId r with
      | some (seq, e) => goes (.readState seq (sendStatus e))
      | none => goes .queryAgent
  | .readState seq status => query <|
    match db.agents.get? p.agentId with
    | none => ends (.error (.agentNotFound p.agentId))
    | some agent => ends (duplicateReply agent.state seq seq status)
  | .queryAgent => query <|
    match db.agents.get? p.agentId with
    | none => ends (.error (.agentNotFound p.agentId))
    | some agent => goes (.compareAndSwap agent.state agent.stateVersion)
  | .compareAndSwap state version => query <|
    match markAgentWaitingForAckSync db p.agentId version now with
    | .error e => ends (.error e)
    | .ok (false, db') => ({ t with pc := .readCurrent state }, db')
    | .ok (true, db') => ({ t with pc := .lookupPane state, moved := some version }, db')
  | .readCurrent state => query <|
    ends (.error (.agentWrongState (((db.agents.get? p.agentId).map (·.state)).getD state).asDbStr))
  | .lookupPane state =>
    if ans.paneRegistered then goes (.insert state)
    else ends (.error (.ptyIoError s!"tmux pane not registered for {p.agentId}"))
  | .insert state => query <|
    match insertEventSync db p.agentId p.requestId "command_received"
      (.obj [("cmd", .str p.text), ("status", .str "PENDING")]) now with
    | .ok (seq, db') => ({ t with pc := .write seq }, db')
    | .error (.duplicateRequest existing) =>
      if p.requestId.isSome then goes (.readExisting state existing)
      else ends (.error (.ipcInvalidRequest "duplicate request without request_id"))
    | .error e => ends (.error e)
  | .readExisting state existing => query <|
    match p.requestId.bind (queryEventByRequestIdSync db p.agentId) with
    | none => ends (.error (.dbConstraintViolation s!"duplicate event seq_id={existing} not found"))
    | some (seq, e) => ends (duplicateReply state seq existing (sendStatus e))
  | .write seq =>
    ({ t with
      pc := .progress seq ans.captured ans.writeError
      wrote := some ans.writeError.isNone }, db)
  | .progress seq captured writeError => query <|
    let db' := recordSendProgressSync db seq (.obj [("cmd", .str p.text),
      ("status", .str (if writeError.isNone then "SENT" else "FAILED"))])
    match writeError with
    | some e => ({ t with pc := .returned (.error (.ptyIoError e)) }, db')
    | none => ({ t with pc := .watch seq captured }, db')
  | .watch seq captured =>
    if ans.parserRegistered then
      ({ t with pc := .returned (.ok ⟨.waitingForAck, seq, false⟩), watched := captured }, db)
    else ends (.error (.ptyIoError s!"parser not in PARSER_REGISTRY for {p.agentId}"))
  | .returned _ => (t, db)

end SendTask

structure SendWorld (ι : Type) where
  db : Db
  tasks : ι → SendTask

/-- The next step of a call, or whatever another task leaves in the database. -/
inductive SendAct (ι : Type) where
  | call (i : ι) (ans : SendAnswers) (now : Int)
  | other (db : Db)

namespace SendWorld

variable {ι : Type} [DecidableEq ι]

/-- No call has taken a step. -/
def begin (db : Db) : SendWorld ι := ⟨db, fun _ => {}⟩

def apply (params : ι → SendParams) (w : SendWorld ι) : SendAct ι → SendWorld ι
  | .call i ans now =>
    let r := (w.tasks i).step (params i) ans now w.db
    ⟨r.2, Function.update w.tasks i r.1⟩
  | .other db => { w with db := db }

def Step (params : ι → SendParams) (w : SendWorld ι) (a : SendAct ι) (w' : SendWorld ι) : Prop :=
  w' = w.apply params a

end SendWorld

/-! ## What a call leaves behind -/

theorem insertEventSync_error (h : insertEventSync db a request ty payload now = .error e) :
    db.agents.get? a = none ∨ request.isSome = true ∧ ∃ seq, e = .duplicateRequest seq := by
  unfold insertEventSync at h
  split at h
  · rename_i seq found
    cases h
    obtain ⟨r, named, -⟩ := Option.bind_eq_some_iff.mp found
    exact .inr ⟨by rw [named]; rfl, seq, rfl⟩
  · split_ifs at h with absent
    exact .inl (Option.isNone_iff_eq_none.mp absent)

open SendTask

namespace SendTask

variable {p : SendParams} {ans : SendAnswers} {now : Int} {db : Db} {t : SendTask}

/-- The agent is still as the compare-and-swap of the call has left it. -/
def Holds (p : SendParams) (db : Db) (t : SendTask) : Prop :=
  ∃ version agent, t.moved = some version ∧ db.agents.get? p.agentId = some agent ∧
    agent.state = .waitingForAck ∧ agent.stateVersion = version + 1

/-- The call has returned an error or the answer to a duplicate. -/
def gaveUp (t : SendTask) : Bool :=
  match t.pc with
  | .returned (.ok reply) => reply.duplicate
  | .returned (.error _) => true
  | _ => false

def isReturned (t : SendTask) : Bool :=
  match t.pc with
  | .returned _ => true
  | _ => false

/-- The agent waits for an acknowledgement of nothing, and nobody watches for it. -/
def Strands (p : SendParams) (db : Db) (t : SendTask) : Prop :=
  t.gaveUp = true ∧ t.wrote ≠ some true ∧ t.watched = false ∧ t.Holds p db

/-- The step gives up an agent that the call still holds. -/
def Abandons (p : SendParams) (ans : SendAnswers) (db : Db) (t : SendTask) : Prop :=
  t.Holds p db ∧
    match t.pc with
    | .lookupPane _ => ans.paneRegistered = false
    | .insert _ => ans.refused.isSome
    | .readExisting .. => True
    | .progress _ _ writeError => writeError.isSome
    | _ => False

/-- What a call has done so far, by where it stands. -/
def Sound (t : SendTask) : Prop :=
  match t.pc with
  | .lookup | .readState .. | .queryAgent | .compareAndSwap .. | .readCurrent _ =>
    t.moved = none ∧ t.wrote = none ∧ t.watched = false
  | .lookupPane _ | .insert _ | .readExisting .. | .write _ => t.wrote = none ∧ t.watched = false
  | .progress _ _ writeError => t.wrote = some writeError.isNone ∧ t.watched = false
  | .watch .. => t.wrote = some true ∧ t.watched = false
  | .returned _ => True

theorem Sound.step (sound : t.Sound) (p : SendParams) (ans : SendAnswers) (now : Int) (db : Db) :
    (t.step p ans now db).1.Sound := by
  obtain ⟨pc, moved, wrote, watched⟩ := t
  cases pc with
  | write seq => exact ⟨rfl, sound.2⟩
  | progress seq captured writeError =>
    cases writeError <;> simp only [step] <;> split <;> trivial
  | returned => trivial
  | _ =>
    simp only [step]
    repeat' split
    all_goals first | trivial | exact sound | exact sound.2

theorem gaveUp_duplicateReply (t : SendTask) (state : AgentState) (seqId existing : Nat)
    (status : String) :
    gaveUp { t with pc := .returned (duplicateReply state seqId existing status) } = true := by
  unfold duplicateReply
  split_ifs <;> rfl

theorem strands_iff (sound : t.Sound) (stands : t.isReturned = false) (now : Int) :
    (t.step p ans now db).1.Strands p (t.step p ans now db).2 ↔ t.Abandons p ans db := by
  obtain ⟨pc, moved, wrote, watched⟩ := t
  cases pc with
  | lookupPane state =>
    obtain ⟨rfl, rfl⟩ := sound
    simp only [step]
    split_ifs with registered <;> simp [Strands, gaveUp, Abandons, registered, Holds]
  | insert state =>
    obtain ⟨rfl, rfl⟩ := sound
    simp only [step]
    split
    · rename_i e refused
      simp [Strands, gaveUp, Abandons, refused, Holds]
    rename_i accepted
    refine iff_of_false ?_ (by simp [Abandons, accepted])
    split
    · simp [Strands, gaveUp]
    · rename_i existing failed
      rcases insertEventSync_error failed with absent | ⟨named, -⟩
      · split_ifs <;> simp [Strands, Holds, absent]
      · simp [Strands, gaveUp, named]
    · rename_i e other failed
      rcases insertEventSync_error failed with absent | ⟨-, seq, rfl⟩
      · simp [Strands, Holds, absent]
      · exact absurd rfl (other seq)
  | readExisting state existing =>
    obtain ⟨rfl, rfl⟩ := sound
    have gives : ∀ result, gaveUp ⟨.returned result, moved, none, false⟩ = true →
        (Strands p db ⟨.returned result, moved, none, false⟩ ↔
          Abandons p ans db ⟨.readExisting state existing, moved, none, false⟩) := by
      intro result gaveUp
      simp [Strands, gaveUp, Abandons, Holds]
    simp only [step]
    split
    · exact gives _ rfl
    split
    · exact gives _ rfl
    · exact gives _ (gaveUp_duplicateReply ⟨.lookup, moved, none, false⟩ ..)
  | write seq => simp [step, Strands, gaveUp, Abandons]
  | progress seq captured writeError =>
    obtain ⟨rfl, rfl⟩ := sound
    cases writeError <;> simp only [step] <;> split <;>
      simp [Strands, gaveUp, Abandons, Holds, recordSendProgressSync]
  | watch seq captured =>
    obtain ⟨rfl, rfl⟩ := sound
    simp only [step]
    split_ifs <;> simp [Strands, Abandons]
  | returned => cases stands
  | _ =>
    -- the agent is not moved yet
    obtain ⟨rfl, rfl, rfl⟩ := sound
    simp only [step]
    repeat' split
    all_goals simp [Strands, gaveUp, Abandons, Holds]

end SendTask

section Stranded

variable {ι : Type} [DecidableEq ι]

/-- A call returns in the step, and leaves its agent stranded. -/
def LeavesStranded (params : ι → SendParams) (t : Transition (SendWorld ι) (SendAct ι)) : Prop :=
  ∃ i, (t.pre.tasks i).isReturned = false ∧ (t.post.tasks i).Strands (params i) t.post.db

/-- In every run of calls among other tasks no call strands its agent, just if none abandons
it in a step. -/
theorem send_strandsNone_iff (params : ι → SendParams)
    (run : Run (SendWorld.Step params) (.begin db) ts w) :
    (∀ t ∈ ts, ¬LeavesStranded params t) ↔
      ∀ t ∈ ts, ∀ i ans now, t.act = .call i ans now →
        (t.pre.tasks i).isReturned = false → ¬(t.pre.tasks i).Abandons (params i) ans t.pre.db := by
  refine run.forall_iff_of_keeps (I := fun w => ∀ i, (w.tasks i).Sound)
    (C := fun w act => ∀ i ans now, act = .call i ans now →
      (w.tasks i).isReturned = false → ¬(w.tasks i).Abandons (params i) ans w.db)
    ?_ ?_ fun i => ⟨rfl, rfl, rfl⟩
  · rintro w act w' sound rfl -
    cases act with
    | other d => exact sound
    | call j ans now =>
      intro i
      by_cases same : i = j
      · subst same
        simpa [SendWorld.apply] using (sound i).step (params i) ans now w.db
      · simpa [SendWorld.apply, same] using sound i
  · rintro w act w' sound rfl
    have waits : ∀ {t : SendTask} {p : SendParams} {d : Db}, t.isReturned = false →
        ¬t.Strands p d := by
      rintro ⟨pc, _⟩ p d stands ⟨gaveUp, -⟩
      cases pc <;> first | cases gaveUp | cases stands
    cases act with
    | other d =>
      refine iff_of_true ?_ (by simp)
      rintro ⟨i, stands, strands⟩
      exact waits stands strands
    | call j ans now =>
      constructor
      · rintro none i ans' now' same stands abandons
        cases same
        refine none ⟨j, stands, ?_⟩
        simpa [SendWorld.apply] using (strands_iff (sound j) stands now).mpr abandons
      · rintro none ⟨i, stands, strands⟩
        by_cases same : i = j
        · subst same
          refine none i ans now rfl stands ((strands_iff (sound i) stands now).mp ?_)
          simpa [SendWorld.apply] using strands
        · simp only [SendWorld.apply, Function.update_of_ne same] at strands
          exact waits stands strands

end Stranded

/-- The request of the runs below. -/
def hello (requestId : String) : SendParams := ⟨"a1", "hello", some requestId⟩

/-- Two calls of one request, and one of another. -/
def threeSends (i : Fin 3) : SendParams := hello (if i = 2 then "r2" else "r1")

/-- One call up to its end, its duplicate, and one that finds the agent waiting and fails. -/
theorem send_strandsNone_watched :
    ∃ (ts : List (Transition (SendWorld (Fin 3)) (SendAct (Fin 3)))) (w : SendWorld (Fin 3)),
      Run (SendWorld.Step threeSends) (.begin idleAgentDb) ts w ∧
        ((w.tasks 0).watched = true ∧ (w.tasks 1).gaveUp = true ∧ (w.tasks 2).gaveUp = true) ∧
        ∀ t ∈ ts, ¬LeavesStranded threeSends t := by
  have run := Run.of_list (f := SendWorld.apply threeSends) (.begin idleAgentDb)
    (List.replicate 8 (.call 0 {} 1) ++ List.replicate 2 (.call 1 {} 2) ++
      List.replicate 4 (.call 2 {} 3))
  refine ⟨_, _, run, by decide +kernel, (send_strandsNone_iff _ run).mpr ?_⟩
  simp only [List.replicate, List.cons_append, List.nil_append, trace, List.forall_mem_cons,
    List.not_mem_nil, false_implies, implies_true, and_true]
  refine ⟨?_, ?_, ?_, ?_, ?_, ?_, ?_, ?_, ?_, ?_, ?_, ?_, ?_, ?_⟩ <;>
    rintro i ans now same - ⟨-, gives⟩ <;> cases same <;> cases gives

/-- The pane is not registered, which is found after the agent was moved. -/
theorem not_send_strandsNone :
    ¬∀ (ι : Type) [DecidableEq ι] (params : ι → SendParams) (db : Db) (w : SendWorld ι)
      (ts : List (Transition (SendWorld ι) (SendAct ι))),
      Run (SendWorld.Step params) (.begin db) ts w → ∀ t ∈ ts, ¬LeavesStranded params t := by
  intro all
  have last := all Unit (fun _ => hello "r1") idleAgentDb _ _ (Run.of_list _
    [.call () {} 1, .call () {} 2, .call () {} 3, .call () { paneRegistered := false } 4])
    _ (List.mem_of_getElem? (i := 3) rfl)
  refine last ⟨(), rfl, rfl, ?_, rfl, 1, _, rfl, rfl, rfl, rfl⟩
  intro wrote
  cases wrote

/-! ## One request -/

/-- An event of the agent carries the request id. -/
def Db.Requested (db : Db) (a r : String) : Prop :=
  ∃ row ∈ db.events.rows, row.2.agentId = a ∧ row.2.requestId = some r

section Requested

variable {db db' : Db} {a b r ty : String} {request : Option String} {payload : Json} {now : Int}
  {n : Nat}

theorem Db.Requested.append (h : db.Requested a r)
    (events : db'.events = db.events.append e) : db'.Requested a r := by
  obtain ⟨row, stored, named⟩ := h
  exact ⟨row, events ▸ AutoTable.mem_append_of_mem stored e, named⟩

/-- The unique index: the insert goes through for the first event of a request only. -/
theorem insertEventSync_requested (h : insertEventSync db b request ty payload now = .ok (n, db')) :
    ¬(b = a ∧ request = some r ∧ db.Requested a r) ∧ (db.Requested a r → db'.Requested a r) ∧
      (b = a → request = some r → db'.Requested a r) := by
  unfold insertEventSync at h
  split at h
  · cases h
  rename_i free
  split_ifs at h
  cases h
  refine ⟨?_, fun before => before.append rfl, ?_⟩
  · rintro ⟨rfl, rfl, row, stored, agent, named⟩
    have listed : row ∈ db.events.select fun _ e => e.agentId = b && e.requestId = some r :=
      AutoTable.mem_select.mpr ⟨stored, by simp [agent, named]⟩
    simp [queryEventByRequestId, List.eq_nil_iff_forall_not_mem] at free
    exact free _ _ listed
  · rintro rfl rfl
    exact ⟨_, AutoTable.mem_append_new db.events _, rfl, rfl⟩

end Requested

namespace SendTask

variable {p : SendParams} {ans : SendAnswers} {now : Int} {db : Db} {t : SendTask} {a r : String}

/-- The call has stored its request. -/
def stored (t : SendTask) : Bool :=
  match t.pc with
  | .write _ => true
  | _ => t.wrote.isSome

theorem requested_step (requested : db.Requested a r) (p : SendParams) (ans : SendAnswers)
    (now : Int) (t : SendTask) : (t.step p ans now db).2.Requested a r := by
  obtain ⟨pc, moved, wrote, watched⟩ := t
  cases pc with
  | compareAndSwap state version =>
    have keeps : ∀ {b db'}, markAgentWaitingForAckSync db p.agentId version now = .ok (b, db') →
        db'.Requested a r := by
      intro b db' h
      rcases transitAgentStateConnInner_ok h with ⟨-, rfl⟩ | ⟨agent, payload, -, -, rfl⟩
      · exact requested
      · exact requested.append rfl
    simp only [step]
    split
    · exact requested
    split
    · exact requested
    · exact keeps ‹_›
    · exact keeps ‹_›
  | insert state =>
    simp only [step]
    split
    · exact requested
    split
    · exact (insertEventSync_requested ‹_›).2.1 requested
    · split_ifs <;> exact requested
    · exact requested
  | progress seq captured writeError =>
    have keeps : ∀ payload, (recordSendProgressSync db seq payload).Requested a r := by
      intro payload
      obtain ⟨row, stored, named⟩ := requested
      refine ⟨_, AutoTable.mem_updateWhere stored _ _, ?_⟩
      split_ifs <;> exact named
    cases writeError <;> simp only [step] <;> split
    · exact requested
    · exact keeps _
    · exact requested
    · exact keeps _
  | _ =>
    simp only [step]
    repeat' split
    all_goals exact requested

theorem stored_step (free : t.stored = false) (done : (t.step p ans now db).1.stored = true) :
    ∃ n payload, insertEventSync db p.agentId p.requestId "command_received" payload now =
      .ok (n, (t.step p ans now db).2) := by
  obtain ⟨pc, moved, wrote, watched⟩ := t
  have none : wrote.isSome = false := by
    cases pc <;> first | exact free | cases free
  cases pc with
  | insert state =>
    simp only [step] at done ⊢
    split at done
    · simp [stored, none] at done
    split at done
    · exact ⟨_, _, ‹_›⟩
    · split_ifs at done <;> simp [stored, none] at done
    · simp [stored, none] at done
  | write => cases free
  | _ =>
    simp only [step] at done
    repeat' split at done
    all_goals simp [stored, none] at done

end SendTask

/-- Among calls with one request id for one agent, at most one writes to the pane, as long as
the events of the agent stay, which go with its row only. -/
theorem send_writes_once {ι : Type} [DecidableEq ι] {params : ι → SendParams} {a r : String}
    (same : ∀ i, (params i).agentId = a ∧ (params i).requestId = some r) {db : Db}
    {w : SendWorld ι} {ts : List (Transition (SendWorld ι) (SendAct ι))}
    (run : Run (SendWorld.Step params) (.begin db) ts w)
    (row : ∀ t ∈ ts, ∀ d, t.act = .other d → t.pre.db.Requested a r → d.Requested a r) {i j : ι}
    (wrote : (w.tasks i).wrote ≠ none) (wrote' : (w.tasks j).wrote ≠ none) : i = j := by
  have once := run.invariant
    (I := fun w => (∀ i, (w.tasks i).stored = true → w.db.Requested a r) ∧
      ∀ i j, (w.tasks i).stored = true → (w.tasks j).stored = true → i = j)
    (C := fun w act => ∀ d, act = .other d → w.db.Requested a r → d.Requested a r)
    ?_ ⟨by simp [SendWorld.begin, stored], by simp [SendWorld.begin, stored]⟩ row
  · have stored : ∀ {i}, (w.tasks i).wrote ≠ none → (w.tasks i).stored = true := by
      intro i wrote
      unfold stored
      split
      · rfl
      · exact Option.isSome_iff_ne_none.mpr wrote
    exact once.2 i j (stored wrote) (stored wrote')
  · rintro w act w' ⟨requested, unique⟩ keeps rfl
    cases act with
    | other d => exact ⟨fun i stored => keeps d rfl (requested i stored), unique⟩
    | call k ans now =>
      have kept : ∀ i, i ≠ k → ((w.apply params (.call k ans now)).tasks i).stored =
          (w.tasks i).stored := fun i other => by simp [SendWorld.apply, other]
      have mine : ((w.apply params (.call k ans now)).tasks k).stored =
          ((w.tasks k).step (params k) ans now w.db).1.stored := by simp [SendWorld.apply]
      by_cases stores : (w.tasks k).stored = false ∧
          ((w.tasks k).step (params k) ans now w.db).1.stored = true
      · obtain ⟨n, payload, inserted⟩ := stored_step stores.1 stores.2
        obtain ⟨first, -, names⟩ := insertEventSync_requested inserted
        -- no call had stored the request, or the index would have refused this one
        have only : ∀ i, ((w.apply params (.call k ans now)).tasks i).stored = true → i = k := by
          intro i stored
          by_contra other
          exact first ⟨(same k).1, (same k).2, requested i (kept i other ▸ stored)⟩
        refine ⟨fun i _ => names (same k).1 (same k).2, fun i j hi hj => ?_⟩
        rw [only i hi, only j hj]
      · have before : ∀ i, ((w.apply params (.call k ans now)).tasks i).stored = true →
            (w.tasks i).stored = true := by
          intro i stored
          by_cases e : i = k
          · subst e
            by_contra free
            exact stores ⟨eq_false_of_ne_true free, mine ▸ stored⟩
          · exact kept i e ▸ stored
        exact ⟨fun i stored => requested_step (requested i (before i stored)) ..,
          fun i j hi hj => unique i j (before i hi) (before j hj)⟩

/-- Two calls of one request; the first has written when the second looks for its event. -/
theorem send_writes_once_two :
    ∃ w : SendWorld Bool, (w.tasks true).wrote = some true ∧
      ∀ j, (w.tasks j).wrote ≠ none → true = j := by
  have run := Run.of_list (f := SendWorld.apply fun _ : Bool => hello "r1") (.begin idleAgentDb)
    ((List.replicate 8 (.call true {} 1)) ++ [.call false {} 2, .call false {} 3])
  refine ⟨_, by decide +kernel, fun j wrote' => send_writes_once (fun _ => ⟨rfl, rfl⟩) run ?_
    (by decide +kernel) wrote'⟩
  intro t mem d other
  have listed := act_mem_of_trace mem
  simp [other] at listed

end Ccbd
