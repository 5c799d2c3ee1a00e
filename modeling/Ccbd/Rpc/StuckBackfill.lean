import Ccbd.Rpc.EventWakeups

/-!
# Looking for the last change to STUCK

`stuck_frame_for_filter` pages backwards through the state changes of an agent: it asks for the
latest one before the last that it has seen, until one is a change to STUCK of the filter's job.
`LIKE` on the text of a payload lets rows pass that the loop then refuses, but holds back none
that it is after.
-/

namespace Ccbd

open Lib SubscribeWorld

section

variable (params : Json) (payloadLike : Json → Bool) (db : Db)

theorem seq_lt_of_query {before : Option Nat}
    (latest : queryLastEventOfTypeMatchingPayloadSync db agentId eventType payloadLike before =
      some (seq, e)) : before.all (seq < ·) = true := by
  have sat := (AutoTable.latest?_eq_some latest).2.1
  rw [Bool.and_eq_true] at sat
  exact sat.2

/-- The loop: each round but the first looks before a smaller sequence id. -/
def stuckScan (agentId : String) (nowUnixMicro : Int) (beforeSeqId : Option Nat) :
    Option EventFrame :=
  match _latest : queryLastEventOfTypeMatchingPayloadSync db agentId "state_change" payloadLike
      beforeSeqId with
  | none => none
  | some (seq, event) =>
    if event.payload.strField? "to" ≠ some "STUCK" then
      stuckScan agentId nowUnixMicro (some seq)
    else if (params.strField? "job_id").any (event.payload.strField? "job_id" ≠ some ·) then
      stuckScan agentId nowUnixMicro (some seq)
    else some (stuckFrame agentId seq event.payload nowUnixMicro)
termination_by (beforeSeqId.isNone.toNat, beforeSeqId.getD 0)
decreasing_by all_goals
  have less := seq_lt_of_query _ _ _latest
  cases beforeSeqId <;> simp_all [Prod.lex_def]

def stuckFrameForFilter (nowUnixMicro : Int) : Except CcbdError (Option EventFrame) :=
  match params.strField? "agent_id" with
  | some agentId => .ok (stuckScan params payloadLike db agentId nowUnixMicro none)
  | none =>
    match params.strField? "job_id" with
    | none => .ok none
    | some jobId =>
      match db.jobs.get? jobId with
      | none => .error (.ipcInvalidRequest s!"job_id not found: {jobId}")
      | some job => .ok (stuckScan params payloadLike db job.agentId nowUnixMicro none)

/-- The agent of the filter: the one it names, or that of the job it names. -/
def filterAgent? : Option String :=
  (params.strField? "agent_id").or
    ((params.strField? "job_id").bind fun jobId => (db.jobs.get? jobId).map (·.agentId))

/-- A stored change of the agent to STUCK, of the filter's job if the filter names one. -/
structure IsStuckEvent (agentId : String) (seq : Nat) (e : Event) : Prop where
  stored : (seq, e) ∈ db.events.rows
  agent : e.agentId = agentId
  type : e.eventType = "state_change"
  stuck : e.payload.strField? "to" = some "STUCK"
  job : (params.strField? "job_id").all (e.payload.strField? "job_id" = some ·) = true

/-- `LIKE` finds the word in every stored payload that has it. -/
def FindsWord : Prop :=
  ∀ seq e, (seq, e) ∈ db.events.rows → e.payload.strField? "to" = some "STUCK" →
    payloadLike e.payload = true

end

variable {params : Json} {payloadLike : Json → Bool} {db : Db}

theorem FindsWord.hasStuck_iff (h : FindsWord payloadLike db) :
    db.HasStuck params payloadLike agentId none seq e ↔ IsStuckEvent params db agentId seq e := by
  constructor
  · rintro ⟨stored, agent, type, -, -, stuck, job⟩
    exact ⟨stored, agent, type, stuck, job⟩
  · rintro ⟨stored, agent, type, stuck, job⟩
    exact ⟨stored, agent, type, h seq e stored stuck, rfl, stuck, job⟩

/-- A scan that answers with nothing has passed nothing; what it answers with is the latest. -/
theorem stuckScan_latest (params : Json) (payloadLike : Json → Bool) (db : Db) (agentId : String)
    (now : Int) (before : Option Nat) :
    (stuckScan params payloadLike db agentId now before = none →
        ∀ seq e, ¬db.HasStuck params payloadLike agentId before seq e) ∧
      ∀ frame, stuckScan params payloadLike db agentId now before = some frame →
        ∃ seq e, db.HasStuck params payloadLike agentId before seq e ∧
          (∀ seq' e', db.HasStuck params payloadLike agentId before seq' e' → seq' ≤ seq) ∧
          frame = stuckFrame agentId seq e.payload now := by
  fun_induction stuckScan params payloadLike db agentId now before with
  | case1 before latest =>
    exact ⟨fun _ seq e found => not_findsStuck_of_none latest ⟨seq, e, found⟩, nofun⟩
  | case2 before seq e latest other ih =>
    simpa only [hasStuck_of_some params latest, other, false_and, and_false, false_or] using ih
  | case3 before seq e latest _ other ih =>
    have refused : ¬(params.strField? "job_id").all (e.payload.strField? "job_id" = some ·) := by
      cases job : params.strField? "job_id" <;> simp_all
    simpa [hasStuck_of_some params latest, refused] using ih
  | case4 before seq e latest stuck same =>
    have job : (params.strField? "job_id").all (e.payload.strField? "job_id" = some ·) := by
      cases job : params.strField? "job_id" <;> simp_all
    refine ⟨nofun, ?_⟩
    rintro frame ⟨⟩
    refine ⟨seq, e, (hasStuck_of_some params latest).mpr (.inl ⟨rfl, not_not.mp stuck, job⟩),
      fun seq' e' found => ?_, rfl⟩
    rcases (hasStuck_of_some params latest).mp found with ⟨⟨⟩, -⟩ | earlier
    · exact Nat.le_refl seq
    · exact Nat.le_of_lt (of_decide_eq_true earlier.before)

theorem stuckFrameForFilter_eq (agent : filterAgent? params db = some agentId) (now : Int) :
    stuckFrameForFilter params payloadLike db now =
      .ok (stuckScan params payloadLike db agentId now none) := by
  unfold filterAgent? at agent
  unfold stuckFrameForFilter
  cases named : params.strField? "agent_id" <;> grind

/-- For a filter that has an agent the answer is the latest change to STUCK, and nothing only if
there is none. A filter that names neither an agent nor a job has no answer, and one that names
only a job that is not there is refused. -/
theorem stuckFrameForFilter_latest (params : Json) (payloadLike : Json → Bool) (db : Db)
    (now : Int) (like : FindsWord payloadLike db) :
    (∀ agentId, filterAgent? params db = some agentId →
      ∃ found, stuckFrameForFilter params payloadLike db now = .ok found ∧
        (found = none ↔ ∀ seq e, ¬IsStuckEvent params db agentId seq e) ∧
        ∀ frame, found = some frame → ∃ seq e, IsStuckEvent params db agentId seq e ∧
          (∀ seq' e', IsStuckEvent params db agentId seq' e' → seq' ≤ seq) ∧
          frame = stuckFrame agentId seq e.payload now) ∧
      (filterAgent? params db = none → stuckFrameForFilter params payloadLike db now =
        (params.strField? "job_id").elim (.ok none) fun jobId =>
          .error (.ipcInvalidRequest s!"job_id not found: {jobId}")) := by
  refine ⟨fun agentId agent => ⟨_, stuckFrameForFilter_eq agent now, ?_⟩, fun agent => ?_⟩
  · have scan := stuckScan_latest params payloadLike db agentId now none
    simp only [like.hasStuck_iff] at scan
    refine ⟨⟨scan.1, fun none => ?_⟩, scan.2⟩
    rw [Option.eq_none_iff_forall_ne_some]
    intro frame answers
    obtain ⟨seq, e, found, -⟩ := scan.2 frame answers
    exact none seq e found
  · unfold filterAgent? at agent
    unfold stuckFrameForFilter
    cases job : params.strField? "job_id" <;> grind

/-- One agent that became STUCK twice and came back both times. -/
def stuckDb : Db :=
  ["STUCK", "IDLE", "STUCK", "IDLE"].foldl
    (fun db state => db.appendEvent "a1" "state_change" (.obj [("to", .str state)]) 1) Db.oneSession

/-- A filter that names the agent is answered with the second change to STUCK. -/
theorem stuckFrameForFilter_latest_agent :
    ∃ payload, stuckFrameForFilter (.obj [("agent_id", .str "a1")]) (fun _ => true) stuckDb 2 =
      .ok (some (stuckFrame "a1" 3 payload 2)) := by
  obtain ⟨found, answers, none, latest⟩ := (stuckFrameForFilter_latest
    (.obj [("agent_id", .str "a1")]) (fun _ => true) stuckDb 2 (fun _ _ _ _ => rfl)).1 "a1" rfl
  obtain ⟨e, second⟩ : ∃ e, IsStuckEvent (.obj [("agent_id", .str "a1")]) stuckDb "a1" 3 e :=
    ⟨_, .tail _ (.tail _ (.head _)), rfl, rfl, rfl, rfl⟩
  have last : ∀ row ∈ stuckDb.events.rows, row.2.payload.strField? "to" = some "STUCK" →
      3 ≤ row.1 → row.1 = 3 := by decide +kernel
  obtain ⟨frame, rfl⟩ := Option.ne_none_iff_exists'.mp fun absent => none.mp absent 3 e second
  obtain ⟨seq, e', stuck, greatest, rfl⟩ := latest frame rfl
  obtain rfl : seq = 3 := last (seq, e') stuck.stored stuck.stuck (greatest 3 e second)
  exact ⟨e'.payload, answers⟩

/-- A filter with a job that is not there is an error, not the answer that there is no event. -/
theorem not_stuckFrameForFilter_everyFilter :
    ¬∀ (params : Json) (payloadLike : Json → Bool) (db : Db) (now : Int), FindsWord payloadLike db →
      (∀ agentId seq e, ¬IsStuckEvent params db agentId seq e) →
      stuckFrameForFilter params payloadLike db now = .ok none := by
  intro claim
  have none := claim (.obj [("job_id", .str "j1")]) (fun _ => true) Db.empty 0 (fun _ _ _ _ => rfl)
    fun _ _ _ h => List.not_mem_nil h.stored
  cases none

end Ccbd
