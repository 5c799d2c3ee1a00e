import Ccbd.Rpc.EventSubscribe

/-!
# Wakeups of the event subscription

`Finds` says of a state what the looks which the call has still to make will find, and what
its receiver holds. No step of the call changes it, nothing takes it away, and a call
without it falls asleep. So a publisher wakes the call exactly if its notice comes when the
call listens, or when a look that is still to come finds something.
-/

namespace Ccbd

open Lib SubscribeAct

/-! ## What the call will find -/

namespace Db

/-- An event that the scan for a change to STUCK answers with. -/
structure HasStuck (db : Db) (params : Json) (payloadLike : Json → Bool) (agentId : String)
    (beforeSeqId : Option Nat) (seq : Nat) (e : Event) : Prop where
  stored : (seq, e) ∈ db.events.rows
  agent : e.agentId = agentId
  type : e.eventType = "state_change"
  like : payloadLike e.payload = true
  before : beforeSeqId.all (seq < ·) = true
  stuck : e.payload.strField? "to" = some "STUCK"
  job : (params.strField? "job_id").all (e.payload.strField? "job_id" = some ·) = true

end Db

variable {now : Int} {publishers : List Publisher} {before : Option Nat} {what : Publication}
    {a : String}

theorem Publication.ne_ready_of_due {next : PublisherPhase}
    (due : what.afterNotice phase = some next) : phase ≠ .ready := by
  rintro rfl
  cases what with
  | event => cases due
  | jobStatus j source target reason again => cases again <;> cases due

namespace SubscribeWorld

variable (params : Json) (payloadLike : Json → Bool)

/-- The look at the status of the job is still to come, and the job is not open. -/
def FindsSettled (db : Db) : Prop :=
  ∃ j, afterLooks params = .readJob j ∧ db.isOpen j = false

def FindsStuck (db : Db) (agentId : String) (beforeSeqId : Option Nat) : Prop :=
  ∃ seq e, db.HasStuck params payloadLike agentId beforeSeqId seq e

/-- The scan for a change to STUCK, from the choice of the agent on. -/
def StuckAnswers (db : Db) : Prop :=
  match params.strField? "agent_id", params.strField? "job_id" with
  | some a, _ => FindsStuck params payloadLike db a none ∨ FindsSettled params db
  | none, none => False
  | none, some j => ∀ job, db.jobs.get? j = some job →
      FindsStuck params payloadLike db job.agentId none ∨ FindsSettled params db

/-- A look that the call has still to make finds something, or its receiver holds a notice
of its filter. -/
def Finds (w : SubscribeWorld) : Prop :=
  match w.pc with
  | .backfill => subscriptionBackfill w.db params ≠ [] ∨
      if eventKindIncludes params "stuck" && (params.get? "since_seq_id").isNone then
        StuckAnswers params payloadLike w.db
      else FindsSettled params w.db
  | .stuckAgent => StuckAnswers params payloadLike w.db
  | .stuckScan a before => FindsStuck params payloadLike w.db a before ∨ FindsSettled params w.db
  | .readJob j | .checkJob j _ => w.db.isOpen j = false
  | .subscribeEvents | .subscribeJobs _ => False
  | .waitEvents inbox => ∃ frame ∈ inbox, eventFrameMatchesFilter frame params = true
  | .waitJobs j inbox => j ∈ inbox ∧ w.db.isOpen j = false
  | .done _ => True

/-- The call waits on an empty channel. -/
def Asleep (w : SubscribeWorld) : Prop := w.pc = .waitEvents [] ∨ ∃ j, w.pc = .waitJobs j []

/-- The receiver of the call gets the notice. -/
def Hears (w : SubscribeWorld) (what : Publication) : Prop :=
  match w.pc, what with
  | .waitEvents _, .event .. => True
  | .waitJobs .., .jobStatus .. | .checkJob .., .jobStatus .. => True
  | _, _ => False

variable {params payloadLike}

theorem lookAtJob_eq (w : SubscribeWorld) (j : String) (next : SubscribePc) (now : Int) :
    (w.db.isOpen j = true ∧ w.lookAtJob j next now = next) ∨
      w.db.isOpen j = false ∧ ∃ r, w.lookAtJob j next now = .done r := by
  unfold lookAtJob eventFrameForJob Db.isOpen
  cases found : w.db.jobs.get? j with
  | none => exact .inr ⟨rfl, _, rfl⟩
  | some job =>
    cases settled : job.status.isSettled with
    | false => exact .inl ⟨by simp [settled], by simp [settled]⟩
    | true => exact .inr ⟨by simp [settled], by simp [settled]⟩

/-- The scan looks at the latest event that it has not seen: either that one answers, or an
earlier one does. -/
theorem hasStuck_of_some (params : Json) {db : Db}
    (latest : queryLastEventOfTypeMatchingPayloadSync db a "state_change" payloadLike before =
      some (seq, e)) :
    db.HasStuck params payloadLike a before seq' e' ↔
      ((seq', e') = (seq, e) ∧ e.payload.strField? "to" = some "STUCK" ∧
          (params.strField? "job_id").all (e.payload.strField? "job_id" = some ·) = true) ∨
        db.HasStuck params payloadLike a (some seq) seq' e' := by
  obtain ⟨stored, sat, others⟩ := AutoTable.latest?_eq_some latest
  simp only [Bool.and_eq_true, decide_eq_true_eq] at sat others
  obtain ⟨⟨⟨agent, type⟩, like⟩, earlier⟩ := sat
  constructor
  · intro found
    rcases others seq' e' found.stored
      ⟨⟨⟨found.agent, found.type⟩, found.like⟩, found.before⟩ with same | less
    · cases same
      exact .inl ⟨rfl, found.stuck, found.job⟩
    · exact .inr { found with before := by simpa using less }
  · rintro (⟨⟨⟩, stuck, job⟩ | found)
    · exact ⟨stored, agent, type, like, earlier, stuck, job⟩
    · have less : seq' < seq := by simpa using found.before
      refine { found with before := ?_ }
      cases before with
      | none => rfl
      | some b =>
        simp only [Option.all_some, decide_eq_true_eq] at earlier ⊢
        omega

theorem findsStuck_of_some (params : Json) {db : Db}
    (latest : queryLastEventOfTypeMatchingPayloadSync db a "state_change" payloadLike before =
      some (seq, e)) :
    FindsStuck params payloadLike db a before ↔
      (e.payload.strField? "to" = some "STUCK" ∧
          (params.strField? "job_id").all (e.payload.strField? "job_id" = some ·) = true) ∨
        FindsStuck params payloadLike db a (some seq) := by
  simp only [FindsStuck, hasStuck_of_some params latest]
  grind

theorem not_findsStuck_of_none {db : Db}
    (none : queryLastEventOfTypeMatchingPayloadSync db a "state_change" payloadLike before =
      none) : ¬FindsStuck params payloadLike db a before := by
  rintro ⟨seq, e, found⟩
  have unsat := AutoTable.latest?_eq_none none found.stored
  simp [found.agent, found.type, found.like, found.before] at unsat

theorem finds_afterLooks {w : SubscribeWorld} (h : w.pc = afterLooks params) :
    w.Finds params payloadLike ↔ FindsSettled params w.db := by
  unfold FindsSettled
  cases job : afterLooks params with
  | readJob j | subscribeEvents => simp [Finds, h, job]
  | _ =>
    unfold afterLooks at job
    split at job
    · split at job <;> cases job
    · cases job

theorem finds_lookAtJob (w : SubscribeWorld) (j : String) (next : SubscribePc) (now : Int)
    (waits : w.db.isOpen j = true → ¬Finds params payloadLike { w with pc := next }) :
    Finds params payloadLike { w with pc := w.lookAtJob j next now } ↔ w.db.isOpen j = false := by
  rcases w.lookAtJob_eq j next now with ⟨isOpen, eq⟩ | ⟨settled, r, eq⟩
  · rw [eq]
    exact iff_of_false (waits isOpen) (by simp [isOpen])
  · rw [eq]
    exact iff_of_true trivial settled

theorem finds_call (w : SubscribeWorld) (now : Int) :
    (w.apply params payloadLike (.call now)).Finds params payloadLike ↔
      w.Finds params payloadLike := by
  obtain ⟨d, publishers, pc⟩ := w
  have looked : ∀ pc', Finds params payloadLike ⟨d, publishers, afterLooks params⟩ ↔
      FindsSettled params (SubscribeWorld.mk d publishers pc').db :=
    fun _ => finds_afterLooks rfl
  simp only [apply]
  cases pc with
  | backfill =>
    simp only [proceed]
    cases hits : subscriptionBackfill d params with
    | cons frame rest => exact iff_of_true trivial (.inl (by simp [hits]))
    | nil =>
      simp only [List.head?_nil]
      by_cases stuck : (eventKindIncludes params "stuck" && (params.get? "since_seq_id").isNone) =
          true
      · simp [Finds, hits, stuck]
      · simp only [stuck, Bool.false_eq_true, if_false, looked .backfill]
        simp [Finds, hits, stuck]
  | stuckAgent =>
    simp only [proceed]
    cases agent : params.strField? "agent_id" with
    | some a => simp [Finds, StuckAnswers, agent]
    | none =>
      cases job : params.strField? "job_id" with
      | none =>
        simp [Finds, StuckAnswers, agent, job, afterLooks]
      | some j =>
        cases found : d.jobs.get? j with
        | none | some row => simp [Finds, StuckAnswers, agent, job, found]
  | stuckScan a before =>
    simp only [proceed]
    cases latest :
      queryLastEventOfTypeMatchingPayloadSync d a "state_change" payloadLike before with
    | none =>
      simp only [looked (.stuckScan a before)]
      exact (or_iff_right (not_findsStuck_of_none latest)).symm
    | some row =>
      obtain ⟨seq, e⟩ := row
      have scan := findsStuck_of_some params latest
      dsimp only
      split_ifs with other alien
      · simp [Finds, scan, other]
      · cases job : params.strField? "job_id" with
        | none => simp [job] at alien
        | some j =>
          have apart : e.payload.strField? "job_id" ≠ some j := by simpa [job] using alien
          simp [Finds, scan, job, apart]
      · refine iff_of_true trivial (.inl (scan.mpr (.inl ⟨not_not.mp other, ?_⟩)))
        cases job : params.strField? "job_id" with
        | none => rfl
        | some j => simpa [job] using alien
  | subscribeEvents | subscribeJobs j => simp [proceed, Finds]
  | waitEvents inbox =>
    cases inbox with
    | nil => rfl
    | cons frame rest =>
      simp only [proceed]
      split_ifs with hit
      · simp [Finds, hit]
      · simp [Finds, hit]
  | waitJobs j inbox =>
    cases inbox with
    | nil => rfl
    | cons k rest =>
      simp only [proceed]
      split_ifs with hit
      · simp [Finds, hit]
      · simp [Finds, Ne.symm hit]
  | readJob j => exact finds_lookAtJob _ j _ now fun _ => id
  | checkJob j rest =>
    refine finds_lookAtJob _ j _ now fun isOpen finds => ?_
    simp [Finds, isOpen] at finds
  | done r => rfl

/-- What the publishers do to the database: events are added and jobs are settled. -/
structure Grows (d d' : Db) : Prop where
  agents : d'.agents = d.agents
  events : ∀ row ∈ d.events.rows, row ∈ d'.events.rows
  closed : ∀ j, d.isOpen j = false → d'.isOpen j = false
  owner : ∀ j, (d'.jobs.get? j).map (·.agentId) = (d.jobs.get? j).map (·.agentId)

theorem mem_subscriptionBackfill :
    frame ∈ subscriptionBackfill d params ↔
      ∃ since, (params.get? "since_seq_id").bind Json.asI64? = some since ∧
        ∃ seq e agent, (seq, e) ∈ d.events.rows ∧ since < (seq : Int) ∧
          (params.strField? "agent_id").all (e.agentId = ·) = true ∧
          d.agents.get? e.agentId = some agent ∧
          frame = eventFrameFromParts seq e.eventType e.agentId (some agent.state.asDbStr)
            e.createdAt e.payload ∧
          (requestedEventKinds params).all (·.contains frame.kind) = true ∧
          (params.strField? "job_id").all (frame.jobId = some ·) = true := by
  unfold subscriptionBackfill queryEventsBackfillSync
  cases (params.get? "since_seq_id").bind Json.asI64? with
  | none => simp
  | some since =>
    simp only [List.mem_filter, List.mem_filterMap, Prod.exists, AutoTable.mem_select,
      Option.map_eq_some_iff, Bool.and_eq_true, decide_eq_true_eq, Option.some.injEq,
      exists_eq_left']
    constructor
    · rintro ⟨⟨⟨seq, e, ⟨stored, later, agent⟩, row, found, rfl⟩, kind⟩, job⟩
      exact ⟨seq, e, row, stored, later, agent, found, rfl, kind, job⟩
    · rintro ⟨seq, e, row, stored, later, agent, found, rfl, kind, job⟩
      exact ⟨⟨⟨seq, e, ⟨stored, later, agent⟩, row, found, rfl⟩, kind⟩, job⟩

namespace Grows

theorem backfill (grows : Grows d d') (hits : subscriptionBackfill d params ≠ []) :
    subscriptionBackfill d' params ≠ [] := by
  obtain ⟨frame, mem⟩ := List.exists_mem_of_ne_nil _ hits
  obtain ⟨since, given, seq, e, agent, stored, rest⟩ := mem_subscriptionBackfill.mp mem
  refine List.ne_nil_of_mem (a := frame) (mem_subscriptionBackfill.mpr ?_)
  exact ⟨since, given, seq, e, agent, grows.events _ stored, by rwa [grows.agents]⟩

theorem findsStuck (grows : Grows d d') (finds : FindsStuck params payloadLike d a before) :
    FindsStuck params payloadLike d' a before := by
  obtain ⟨seq, e, found⟩ := finds
  exact ⟨seq, e, { found with stored := grows.events _ found.stored }⟩

theorem findsSettled (grows : Grows d d') (finds : FindsSettled params d) :
    FindsSettled params d' := by
  obtain ⟨j, look, closed⟩ := finds
  exact ⟨j, look, grows.closed j closed⟩

theorem stuckAnswers (grows : Grows d d') (finds : StuckAnswers params payloadLike d) :
    StuckAnswers params payloadLike d' := by
  unfold StuckAnswers at finds ⊢
  split at finds
  · exact finds.imp grows.findsStuck grows.findsSettled
  · exact finds.elim
  · rename_i j _ _
    intro job' found'
    have owner := grows.owner j
    rw [found', Option.map_some, eq_comm, Option.map_eq_some_iff] at owner
    obtain ⟨job, found, same⟩ := owner
    rw [← same]
    exact (finds job found).imp grows.findsStuck grows.findsSettled

theorem finds (grows : Grows d d') {pc : SubscribePc}
    (finds : Finds params payloadLike ⟨d, publishers, pc⟩) :
    Finds params payloadLike ⟨d', publishers', pc⟩ := by
  cases pc with
  | backfill =>
    refine finds.imp grows.backfill fun later => ?_
    split_ifs at later ⊢
    · exact grows.stuckAnswers later
    · exact grows.findsSettled later
  | stuckAgent => exact grows.stuckAnswers finds
  | stuckScan a before => exact finds.imp grows.findsStuck grows.findsSettled
  | readJob j | checkJob j rest => exact grows.closed j finds
  | waitJobs j inbox => exact ⟨finds.1, grows.closed j finds.2⟩
  | waitEvents inbox => exact finds
  | subscribeEvents => exact finds
  | subscribeJobs j => exact finds
  | done r => trivial

end Grows

/-- The publication of a job's status has settled the job. -/
def Stands (d : Db) : Publication → Prop
  | .event .. => True
  | .jobStatus j .. => d.isOpen j = false

theorem Grows.stands (grows : Grows d d') (stands : Stands d what) : Stands d' what := by
  cases what with
  | event => trivial
  | jobStatus j => exact grows.closed j stands

theorem commit_grows (matching : what.matchesFilter params = true)
    (h : what.commit d now = .ok d') : Grows d d' ∧ Stands d' what := by
  cases what with
  | event a request ty payload frame =>
    obtain ⟨⟨n, d₁⟩, h₁, rfl⟩ := map_eq_ok.mp h
    unfold insertEventSync at h₁
    split at h₁
    · cases h₁
    split_ifs at h₁
    cases h₁
    refine ⟨⟨rfl, fun row mem => ?_, fun _ => id, fun _ => rfl⟩, trivial⟩
    exact List.mem_append_left _ mem
  | jobStatus j source target reason again =>
    obtain ⟨job, t, found, rfl⟩ := transitJobState_ok h
    simp only [Publication.matchesFilter, Bool.and_eq_true] at matching
    have stands : Db.isOpen ((d.modifyJob j (·.enter target now)).appendJobTransition t) j =
        false := by
      simp [Db.isOpen, found, matching.2]
    refine ⟨⟨rfl, fun _ => id, fun k closed => ?_, fun k => ?_⟩, stands⟩
    · by_cases same : k = j
      · rw [same]
        exact stands
      · simpa [Db.isOpen, Table.get?_modify_of_ne, same] using closed
    · by_cases same : k = j
      · simp [same, found]
      · simp [Table.get?_modify_of_ne, same]

/-! ## The notices -/

/-- The job that the call is about at this place is the one of the filter. -/
def FilterJob (params : Json) : SubscribePc → Prop
  | .readJob j | .subscribeJobs j | .waitJobs j _ | .checkJob j _ =>
    params.strField? "job_id" = some j
  | _ => True

theorem filterJob_afterLooks : FilterJob params (afterLooks params) := by
  unfold afterLooks
  split
  · rename_i j job
    split_ifs
    · exact job
    · trivial
  · trivial

theorem filterJob_lookAtJob {w : SubscribeWorld}
    (keeps : FilterJob params next) : FilterJob params (w.lookAtJob j next now) := by
  rcases w.lookAtJob_eq j next now with ⟨-, eq⟩ | ⟨-, r, eq⟩
  · rwa [eq]
  · rw [eq]
    trivial

theorem filterJob_proceed {w : SubscribeWorld} (keeps : FilterJob params w.pc) (now : Int) :
    FilterJob params (w.proceed params payloadLike now) := by
  obtain ⟨d, publishers, pc⟩ := w
  cases pc with
  | readJob j | checkJob j rest => exact filterJob_lookAtJob keeps
  | backfill =>
    simp only [proceed]
    split
    · trivial
    · split_ifs
      · trivial
      · exact filterJob_afterLooks
  | stuckAgent =>
    simp only [proceed]
    split
    · trivial
    split
    · exact filterJob_afterLooks
    split <;> trivial
  | stuckScan a before =>
    simp only [proceed]
    split
    · exact filterJob_afterLooks
    · split_ifs <;> trivial
  | waitEvents inbox =>
    cases inbox with
    | nil => trivial
    | cons frame rest =>
      simp only [proceed]
      split_ifs <;> trivial
  | waitJobs j inbox =>
    cases inbox with
    | nil => exact keeps
    | cons k rest =>
      simp only [proceed]
      split_ifs <;> exact keeps
  | _ => exact keeps

theorem filterJob_notice {w : SubscribeWorld} (keeps : FilterJob params w.pc) (what : Publication) :
    FilterJob params (w.notice what) := by
  obtain ⟨d, publishers, pc⟩ := w
  cases what <;> cases pc <;> exact keeps

theorem notice_eq_of_not_hears {w : SubscribeWorld} (deaf : ¬w.Hears what) :
    w.notice what = w.pc := by
  obtain ⟨d, publishers, pc⟩ := w
  cases what <;> cases pc <;> first | rfl | exact absurd trivial deaf

theorem finds_notice_of_hears {w : SubscribeWorld} (filtered : FilterJob params w.pc)
    (matching : what.matchesFilter params = true) (stands : Stands w.db what)
    (hears : w.Hears what) :
    Finds params payloadLike ⟨w.db, publishers, w.notice what⟩ := by
  obtain ⟨d, others, pc⟩ := w
  cases what with
  | event a request ty payload frame =>
    cases pc with
    | waitEvents inbox => exact ⟨frame, by simp, matching⟩
    | _ => exact hears.elim
  | jobStatus k source target reason again =>
    simp only [Publication.matchesFilter, Bool.and_eq_true, decide_eq_true_eq] at matching
    have job : ∀ {j}, params.strField? "job_id" = some j → j = k :=
      fun filtered => Option.some.inj (filtered.symm.trans matching.1.2)
    cases pc with
    | waitJobs j inbox =>
      obtain rfl := job filtered
      exact ⟨by simp, stands⟩
    | checkJob j inbox =>
      obtain rfl := job filtered
      exact stands
    | _ => exact hears.elim

theorem finds_notice {w : SubscribeWorld} (finds : w.Finds params payloadLike) :
    Finds params payloadLike ⟨w.db, publishers, w.notice what⟩ := by
  obtain ⟨d, others, pc⟩ := w
  cases what with
  | event a request ty payload frame =>
    cases pc with
    | waitEvents inbox =>
      obtain ⟨hit, mem, good⟩ := finds
      exact ⟨hit, List.mem_append_left _ mem, good⟩
    | _ => exact finds
  | jobStatus k source target reason again =>
    cases pc with
    | waitJobs j inbox => exact ⟨List.mem_append_left _ finds.1, finds.2⟩
    | _ => exact finds

theorem finds_otherFrame {w : SubscribeWorld}
    (foreign : eventFrameMatchesFilter frame params = false) :
    Finds params payloadLike { w with pc := w.notifyEvent frame } ↔ w.Finds params payloadLike := by
  obtain ⟨d, others, pc⟩ := w
  cases pc with
  | waitEvents inbox => simp [Finds, notifyEvent, foreign]
  | _ => rfl

theorem finds_otherJob {w : SubscribeWorld} (filtered : FilterJob params w.pc)
    (foreign : params.strField? "job_id" = some k → w.db.isOpen k = true) :
    Finds params payloadLike { w with pc := w.notifyJobUpdate k } ↔ w.Finds params payloadLike := by
  obtain ⟨d, others, pc⟩ := w
  cases pc with
  | waitJobs j inbox =>
    by_cases same : j = k
    · subst same
      have isOpen : d.isOpen j = true := foreign filtered
      simp [Finds, notifyJobUpdate, isOpen]
    · simp [Finds, notifyJobUpdate, same]
  | _ => rfl

/-! ## Steps and runs -/

/-- What a step can do. -/
inductive Moves (params : Json) (payloadLike : Json → Bool) (w : SubscribeWorld) :
    SubscribeAct → SubscribeWorld → Prop
  | call (now : Int) :
      Moves params payloadLike w (.call now) (w.apply params payloadLike (.call now))
  | commit {i : Nat} {now : Int} {what : Publication} {d : Db}
      (ready : w.publishers[i]? = some ⟨what, .ready⟩) (commits : what.commit w.db now = .ok d) :
      Moves params payloadLike w (.commit i now)
        { w with db := d, publishers := w.publishers.set i ⟨what, .committed⟩ }
  | notify {i : Nat} {what : Publication} {phase next : PublisherPhase}
      (publisher : w.publishers[i]? = some ⟨what, phase⟩)
      (due : what.afterNotice phase = some next) :
      Moves params payloadLike w (.notify i)
        { w with publishers := w.publishers.set i ⟨what, next⟩, pc := w.notice what }
  | idleCommit (i : Nat) (now : Int) : Moves params payloadLike w (.commit i now) w
  | idleNotify {i : Nat}
      (idle : ∀ what phase, w.publishers[i]? = some ⟨what, phase⟩ → what.afterNotice phase = none) :
      Moves params payloadLike w (.notify i) w
  | otherFrame {frame : EventFrame} (foreign : eventFrameMatchesFilter frame params = false) :
      Moves params payloadLike w (.otherFrame frame) { w with pc := w.notifyEvent frame }
  | otherJob {j : String} (foreign : params.strField? "job_id" = some j → w.db.isOpen j = true) :
      Moves params payloadLike w (.otherJob j) { w with pc := w.notifyJobUpdate j }

theorem moves_of_step
    (step : Step params payloadLike w act w') : Moves params payloadLike w act w' := by
  obtain ⟨foreign, rfl⟩ := step
  cases act with
  | call now => exact .call now
  | commit i now =>
    simp only [apply]
    split
    · rename_i what ready
      split
      · exact .commit ready ‹_›
      · exact .idleCommit i now
    · exact .idleCommit i now
  | notify i =>
    simp only [apply]
    split
    · rename_i what phase publisher
      cases due : what.afterNotice phase with
      | some next => exact .notify publisher due
      | none =>
        refine .idleNotify fun what' phase' publisher' => ?_
        cases publisher.symm.trans publisher'
        exact due
    · rename_i absent
      exact .idleNotify fun what phase publisher => by cases absent.symm.trans publisher
  | otherFrame frame => exact .otherFrame foreign
  | otherJob j => exact .otherJob foreign

/-- The publishers publish what the filter asks for, and what they have committed stands. -/
structure Sound (params : Json) (w : SubscribeWorld) : Prop where
  filtered : FilterJob params w.pc
  matching : ∀ p ∈ w.publishers, p.what.matchesFilter params = true
  stands : ∀ p ∈ w.publishers, p.phase ≠ .ready → Stands w.db p.what

theorem sound_begin (d : Db) (matching : ∀ what ∈ publications, what.matchesFilter params = true) :
    Sound params (begin d publications) := by
  refine ⟨trivial, ?_, ?_⟩
  · simpa [begin] using matching
  · simp [begin]

variable {w w' : SubscribeWorld}

theorem Sound.step (sound : Sound params w) (step : Step params payloadLike w act w') :
    Sound params w' := by
  obtain ⟨filtered, matching, stands⟩ := sound
  cases moves_of_step step with
  | call now => exact ⟨filterJob_proceed filtered now, matching, stands⟩
  | @commit i now what d ready commits =>
    have own := matching _ (List.mem_of_getElem? ready)
    obtain ⟨grows, done⟩ := commit_grows own commits
    refine ⟨filtered, fun p hp => ?_, fun p hp late => ?_⟩
    · rcases List.mem_or_eq_of_mem_set hp with old | rfl
      · exact matching p old
      · exact own
    · rcases List.mem_or_eq_of_mem_set hp with old | rfl
      · exact grows.stands (stands p old late)
      · exact done
  | @notify i what phase next publisher due =>
    have mem := List.mem_of_getElem? publisher
    have own := matching _ mem
    have done := stands _ mem (Publication.ne_ready_of_due due)
    refine ⟨filterJob_notice filtered what, fun p hp => ?_, fun p hp late => ?_⟩
    · rcases List.mem_or_eq_of_mem_set hp with old | rfl
      · exact matching p old
      · exact own
    · rcases List.mem_or_eq_of_mem_set hp with old | rfl
      · exact stands p old late
      · exact done
  | idleCommit | idleNotify => exact ⟨filtered, matching, stands⟩
  | otherFrame =>
    refine ⟨?_, matching, stands⟩
    exact filterJob_notice filtered (.event "" none "" .null _)
  | otherJob =>
    refine ⟨?_, matching, stands⟩
    exact filterJob_notice filtered (.jobStatus _ .queued .queued "" false)

/-- What the call will find it finds after any step. -/
theorem Finds.step (sound : Sound params w) (step : Step params payloadLike w act w')
    (finds : w.Finds params payloadLike) : w'.Finds params payloadLike := by
  cases moves_of_step step with
  | call now => exact (finds_call w now).mpr finds
  | commit ready commits =>
    exact (commit_grows (sound.matching _ (List.mem_of_getElem? ready)) commits).1.finds finds
  | notify => exact finds_notice finds
  | idleCommit | idleNotify => exact finds
  | otherFrame foreign => exact (finds_otherFrame foreign).mpr finds
  | otherJob foreign => exact (finds_otherJob sound.filtered foreign).mpr finds

theorem Finds.run (sound : Sound params w) (run : Run (Step params payloadLike) w ts w')
    (finds : w.Finds params payloadLike) : w'.Finds params payloadLike := by
  have both : Sound params w' ∧ w'.Finds params payloadLike :=
    run.invariant (I := fun w => Sound params w ∧ w.Finds params payloadLike) (C := fun _ _ => True)
      (fun _ _ _ h _ step => ⟨h.1.step step, h.2.step h.1 step⟩) ⟨sound, finds⟩ fun _ _ => trivial
  exact both.2

theorem not_finds_of_asleep (asleep : w.Asleep) : ¬w.Finds params payloadLike := by
  obtain ⟨d, publishers, pc⟩ := w
  rcases asleep with e | ⟨j, e⟩ <;> cases e <;> simp [Finds]

def AllFinished (w : SubscribeWorld) : Prop := ∀ p ∈ w.publishers, p.phase = .finished

/-- The step is a notice that is not in vain: the receiver gets it, or a look of the call
that is still to come finds something anyway. -/
def InTime (params : Json) (payloadLike : Json → Bool)
    (t : Transition SubscribeWorld SubscribeAct) : Prop :=
  ∃ i what phase next, t.act = .notify i ∧ t.pre.publishers[i]? = some ⟨what, phase⟩ ∧
    what.afterNotice phase = some next ∧ (t.pre.Hears what ∨ t.pre.Finds params payloadLike)

theorem InTime.finds (sound : Sound params w) (step : Step params payloadLike w act w')
    (inTime : InTime params payloadLike ⟨w, act, w'⟩) : w'.Finds params payloadLike := by
  obtain ⟨i, what, phase, next, rfl, publisher, due, hears | finds⟩ := inTime
  · cases moves_of_step step with
    | notify same =>
      cases publisher.symm.trans same
      have mem := List.mem_of_getElem? publisher
      exact finds_notice_of_hears sound.filtered (sound.matching _ mem)
        (sound.stands _ mem (Publication.ne_ready_of_due due)) hears
    | idleNotify idle => cases (idle what phase publisher).symm.trans due
  · exact finds.step sound step

/-- Where no notice is in time, a call that will find something once all publishers have
finished would have found it at the start, with all publishers finished. -/
theorem finds_of_no_inTime (run : Run (Step params payloadLike) w ts w') (sound : Sound params w)
    (late : ∀ t ∈ ts, ¬InTime params payloadLike t) (finished : w'.AllFinished)
    (finds : w'.Finds params payloadLike) : w.Finds params payloadLike ∧ w.AllFinished := by
  induction run with
  | nil => exact ⟨finds, finished⟩
  | @cons s s' s'' act ts first rest ih =>
    rw [List.forall_mem_cons] at late
    obtain ⟨finds, finished⟩ := ih (sound.step first) late.2 finished finds
    have late := late.1
    cases moves_of_step first with
    | call now => exact ⟨(finds_call s now).mp finds, finished⟩
    | @commit i now what d ready commits =>
      have mem : ⟨what, .committed⟩ ∈ s.publishers.set i ⟨what, .committed⟩ :=
        List.mem_set (List.getElem?_eq_some_iff.mp ready).1 _
      cases finished _ mem
    | @notify i what phase next publisher due =>
      have deaf : ¬s.Hears what :=
        fun hears => late ⟨i, what, phase, next, rfl, publisher, due, .inl hears⟩
      rw [notice_eq_of_not_hears deaf] at finds
      exact absurd ⟨i, what, phase, next, rfl, publisher, due, .inr finds⟩ late
    | idleCommit | idleNotify => exact ⟨finds, finished⟩
    | otherFrame foreign => exact ⟨(finds_otherFrame foreign).mp finds, finished⟩
    | otherJob foreign => exact ⟨(finds_otherJob sound.filtered foreign).mp finds, finished⟩

/-! ## A call that finds nothing falls asleep -/

/-- A bound on the steps to the end of the looks and of the notices at hand. -/
def left (w : SubscribeWorld) : Nat :=
  match w.pc with
  | .backfill => w.db.events.last + 7
  | .stuckAgent => w.db.events.last + 6
  | .stuckScan _ before => before.getD (w.db.events.last + 1) + 4
  | .readJob _ => 3
  | .subscribeEvents | .subscribeJobs _ => 1
  | .waitEvents inbox => inbox.length
  | .waitJobs _ inbox => 2 * inbox.length
  | .checkJob _ inbox => 2 * inbox.length + 1
  | .done _ => 0

theorem left_afterLooks_le (params : Json) (d : Db) (publishers : List Publisher) :
    left ⟨d, publishers, afterLooks params⟩ ≤ 3 := by
  unfold afterLooks
  split
  · split_ifs <;> simp [left]
  · simp [left]

theorem left_lookAtJob (closed : ¬w.db.isOpen j = false) :
    left { w with pc := w.lookAtJob j next now } = left { w with pc := next } := by
  rcases w.lookAtJob_eq j next now with ⟨-, eq⟩ | ⟨settled, -⟩
  · rw [eq]
  · exact absurd settled closed

theorem left_call (awake : ¬w.Asleep) (finds : ¬w.Finds params payloadLike) (now : Int) :
    left (w.apply params payloadLike (.call now)) < left w := by
  obtain ⟨d, publishers, pc⟩ := w
  have looked := left_afterLooks_le params d publishers
  simp only [apply]
  cases pc with
  | backfill =>
    simp only [proceed]
    split
    · simp [left]
    · split_ifs
      · simp [left]
      · simp only [left] at looked ⊢
        omega
  | stuckAgent =>
    simp only [proceed]
    split
    · simp [left]
    split
    · simp only [left] at looked ⊢
      omega
    split <;> simp [left]
  | stuckScan a before =>
    simp only [proceed]
    cases latest :
      queryLastEventOfTypeMatchingPayloadSync d a "state_change" payloadLike before with
    | none =>
      simp only [left] at looked ⊢
      omega
    | some row =>
      obtain ⟨seq, e⟩ := row
      obtain ⟨stored, sat, -⟩ := AutoTable.latest?_eq_some latest
      have less : seq < before.getD (d.events.last + 1) := by
        cases before with
        | none => exact Nat.lt_succ_of_le (d.events.bounded _ stored)
        | some b => simpa using (Bool.and_eq_true_iff.mp sat).2
      dsimp only
      split_ifs <;> simp [left, less]
  | subscribeEvents | subscribeJobs j => simp [proceed, left]
  | waitEvents inbox =>
    cases inbox with
    | nil => exact absurd (.inl rfl) awake
    | cons frame rest =>
      simp only [proceed]
      split_ifs <;> simp [left]
  | waitJobs j inbox =>
    cases inbox with
    | nil => exact absurd (.inr ⟨j, rfl⟩) awake
    | cons k rest =>
      simp only [proceed]
      split_ifs
      · simp only [left, List.length_cons]
        omega
      · simp only [left, List.length_cons]
        omega
  | readJob j | checkJob j rest =>
    simp only [proceed]
    rw [left_lookAtJob finds]
    simp [left]
  | done r => exact absurd trivial finds

theorem exists_asleep (finds : ¬w.Finds params payloadLike) :
    ∃ ts w', Run (Step params payloadLike) w ts w' ∧ w'.Asleep := by
  -- by induction on the steps that are left, all of them steps of the call
  induction steps : left w using Nat.strong_induction_on generalizing w with
  | _ n ih =>
    by_cases asleep : w.Asleep
    · exact ⟨[], w, .nil w, asleep⟩
    · have less := left_call asleep finds 0
      rw [steps] at less
      obtain ⟨ts, w', run, asleep⟩ := ih _ less (mt (finds_call w 0).mp finds) rfl
      have first : Step params payloadLike w (.call 0)
          (w.apply params payloadLike (.call 0)) := ⟨trivial, rfl⟩
      exact ⟨_, w', .cons first run, asleep⟩

/-- Once all publishers have finished, the call never sleeps exactly if one of their
notices was in time. -/
theorem neverAsleep_iff {db : Db} {publications : List Publication}
    {ts : List (Transition SubscribeWorld SubscribeAct)} (some : publications ≠ [])
    (matching : ∀ what ∈ publications, what.matchesFilter params = true)
    (run : Run (Step params payloadLike) (begin db publications) ts w)
    (finished : w.AllFinished) :
    (∀ ts' w', Run (Step params payloadLike) w ts' w' → ¬w'.Asleep) ↔
      ∃ t ∈ ts, InTime params payloadLike t := by
  have start := sound_begin db matching
  have sound : Sound params w :=
    run.invariant (C := fun _ _ => True) (fun _ _ _ h _ step => h.step step) start
      fun _ _ => trivial
  constructor
  · intro never
    by_contra late
    have finds : w.Finds params payloadLike := by
      by_contra finds
      obtain ⟨ts', w', rest, asleep⟩ := exists_asleep finds
      exact never ts' w' rest asleep
    obtain ⟨-, all⟩ := finds_of_no_inTime run start (fun t mem h => late ⟨t, mem, h⟩) finished finds
    obtain ⟨what, mem⟩ := List.exists_mem_of_ne_nil _ some
    cases all _ (List.mem_map_of_mem mem)
  · rintro ⟨t, mem, inTime⟩ ts' w' rest asleep
    have sounds : ∀ t ∈ ts, InTime params payloadLike t → Sound params t.post ∧
        t.post.Finds params payloadLike := by
      refine run.forall_transition (I := Sound params) (C := fun _ _ => True)
        (fun _ _ _ h _ step => h.step step) ?_ start fun _ _ => trivial
      intro s act s' sound _ step inTime
      exact ⟨sound.step step, inTime.finds sound step⟩
    obtain ⟨sound', finds⟩ := sounds t mem inTime
    obtain ⟨-, ts'', on⟩ := run.rest_of_mem mem
    exact not_finds_of_asleep asleep ((finds.run sound' on).run sound rest)

/-! ## A prompt nobody knows -/

/-- The filter asks for the unknown prompts of an agent. -/
def promptsOfA1 : Json := .obj [("agent_id", .str "a1"), ("kind", .str "unknown_prompt")]

/-- `insert_event_and_notify` of an unknown prompt. -/
def promptDetected : Publication :=
  .event "a1" none "UNKNOWN_PROMPT_DETECTED" .null
    (eventFrameFromParts 1 "UNKNOWN_PROMPT_DETECTED" "a1" (some "IDLE") 0 .null)

def promptWorld (acts : List SubscribeAct) : SubscribeWorld :=
  acts.foldl (apply promptsOfA1 fun _ => true) (begin idleAgentDb [promptDetected])

theorem promptWorld_run (own : ∀ act ∈ acts, ∀ db, act.Foreign promptsOfA1 db) :
    Run (Step promptsOfA1 fun _ => true) (begin idleAgentDb [promptDetected])
      (trace (apply promptsOfA1 fun _ => true) (begin idleAgentDb [promptDetected]) acts)
      (promptWorld acts) :=
  Run.of_list_guarded _ acts fun act mem w => own act mem w.db

/-- The call subscribes between the commit and the notice. -/
def heardPrompt : List SubscribeAct := [.call 0, .commit 0 0, .call 1, .notify 0]

theorem neverAsleep_heardPrompt :
    (promptWorld heardPrompt).AllFinished ∧
      ∀ ts w, Run (Step promptsOfA1 fun _ => true) (promptWorld heardPrompt) ts w → ¬w.Asleep := by
  have finished : (promptWorld heardPrompt).AllFinished := by
    unfold AllFinished
    decide +kernel
  refine ⟨finished, (neverAsleep_iff (by simp) (by decide +kernel)
    (promptWorld_run ?_) finished).mpr ⟨_, List.mem_of_getElem? (i := 3) rfl, 0, promptDetected,
      .committed, .finished, rfl, rfl, rfl, .inl trivial⟩⟩
  simp [heardPrompt, Foreign]

/-- The commit and the notice come between the look and the subscription. -/
def missedPrompt : List SubscribeAct := [.call 0, .commit 0 0, .notify 0, .call 1]

theorem not_neverAsleep_missedPrompt :
    ¬∀ (params : Json) (payloadLike : Json → Bool) (db : Db) (publications : List Publication)
      (ts : List (Transition SubscribeWorld SubscribeAct)) (w : SubscribeWorld),
      publications ≠ [] → (∀ what ∈ publications, what.matchesFilter params = true) →
      Run (Step params payloadLike) (begin db publications) ts w →
      w.AllFinished → ¬w.Asleep := by
  intro never
  refine never promptsOfA1 (fun _ => true) idleAgentDb [promptDetected] _
    (promptWorld missedPrompt) (by simp) (by decide +kernel) (promptWorld_run ?_) ?_ (.inl rfl)
  · simp [missedPrompt, Foreign]
  · unfold AllFinished
    decide +kernel

end SubscribeWorld

end Ccbd
