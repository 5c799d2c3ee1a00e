import Ccbd.Dispatch.Operations

/-!
# Process watchers

`spawn_agent_pidfd_watch_task` waits until the process of an agent is dead. It then marks
the agent CRASHED and takes down what is registered for it, in separate steps that all go
by the agent id, while other tasks kill, delete and respawn the agent.

Each step of a spawn (the sandbox, the `agents` row with the new pid, the pidfd, the reader
and the watcher) is an action of its own here and may come at any time.
-/

namespace Ccbd

open Lib

/-- The parts of an entry of `TMUX_PANE_MAP` that the cleanup reads. -/
structure AgentIoEntry where
  sessionId : String
  expectedPid : Option Int
deriving DecidableEq, Repr

/-- Where a call of `cleanup_agent_runtime_resources` stands. The lock of `TMUX_PANE_MAP` is
held for the first step only; `sandbox` comes with the session of the entry it took. -/
inductive CleanupPc where
  | reader (expectedSessionId : Option String)
  | sandbox (sessionId : String)
  | pidfd
deriving DecidableEq, Repr

/-- Where a watcher stands. -/
inductive WatchPc where
  | watching
  | confirmedDead (exitCode : Option Int)
  | marking (exitCode : Option Int)
  | crashCleanup (step : CleanupPc)
  | shuttingDown (step : CleanupPc)
  | removing
  | done
deriving DecidableEq, Repr

/-- The task of a watcher, with the incarnation of the agent it was started for. -/
structure ProcWatcher where
  agentId : String
  sessionId : String
  pid : Int
  pc : WatchPc := .watching
deriving DecidableEq, Repr

/-- What the wait on the pidfd and `kill_zero_check` answer, or that a database call
fails. -/
inductive WatchOutcome where
  | fdError
  | alive
  | unknown
  | dead (exitCode : Option Int)
  | dbError
deriving DecidableEq, Repr

/-- The database, the reader and pidfd registries and the sandbox directories under
their session and agent. A pidfd and a sandbox are known by the pid of the process they
were made for. -/
structure ProcWorld where
  db : Db
  readers : Table String AgentIoEntry := .empty
  pidfds : Table String Int := .empty
  sandboxes : Table (String × String) Int := .empty
  watchers : List ProcWatcher := []

inductive WatchAct where
  | other (op : DbOp)
  | deleteAgent (agentId : String)
  | insertAgent (agentId sessionId provider : String) (pid now : Int)
  | replaceKilled (sessionId : String) (spec : AgentSpawnSpec) (configHash : String) (pid : Int)
      (capturedIntent : Option AgentRecoveryIntent) (now : Int)
  | prepareSandbox (sessionId agentId : String) (pid : Int)
  | registerPidfd (agentId : String) (pid : Int)
  | registerReader (agentId : String) (entry : AgentIoEntry)
  | watch (agentId sessionId : String) (pid : Int)
  | removeReader (agentId : String) (expectedSessionId : Option String)
  | removeSandbox (sessionId agentId : String)
  | removePidfd (agentId : String)
  | advance (i : Nat) (outcome : WatchOutcome) (now : Int)

namespace ProcWorld

variable (w : ProcWorld) (x : ProcWatcher)

def removePidfd (agentId : String) : ProcWorld :=
  { w with pidfds := w.pidfds.delete agentId }

def removeSandbox (sessionId agentId : String) : ProcWorld :=
  { w with sandboxes := w.sandboxes.delete (sessionId, agentId) }

/-- What a cleanup does under the lock, and its next step. -/
def removeReader (agentId : String) (expectedSessionId : Option String) :
    ProcWorld × Option CleanupPc :=
  match w.readers.get? agentId with
  | some entry =>
    -- the entry of another session is left alone, with everything else
    if expectedSessionId.any (· ≠ entry.sessionId) then (w, none)
    else ({ w with readers := w.readers.delete agentId }, some (.sandbox entry.sessionId))
  | none => (w, some .pidfd)

/-- One step of a cleanup. Both policies remove the sandbox; they differ in the home
directory, which is not modelled. -/
def cleanupAgentRuntimeResources (agentId : String) : CleanupPc → ProcWorld × Option CleanupPc
  | .reader expectedSessionId => w.removeReader agentId expectedSessionId
  | .sandbox sessionId => (w.removeSandbox sessionId agentId, some .pidfd)
  | .pidfd => (w.removePidfd agentId, none)

def goto (i : Nat) (pc : WatchPc) : ProcWorld :=
  { w with watchers := w.watchers.modify i ({ · with pc := pc }) }

/-- The cleanup of `shutdown_reader`, for the session the watcher was started with. -/
def shutdownReader (i : Nat) (x : ProcWatcher) : ProcWorld :=
  w.goto i (.shuttingDown (.reader (some x.sessionId)))

/-- `mark_agent_crashed_with_exit`: the transaction, and whether its own cleanup follows. -/
def markCrashed (i : Nat) (x : ProcWatcher) (exitCode : Option Int) (now : Int) : ProcWorld :=
  let r := markAgentCrashedWithExitSync w.db x.agentId exitCode now
  let changes := match r with
    | .ok (changes, _) => changes
    | .error _ => 0
  let w' := { w with db := commit r w.db }
  if 0 < changes then
    w'.goto i (.crashCleanup (.reader ((w.db.agents.get? x.agentId).map Agent.sessionId)))
  else w'.shutdownReader i x

/-- The next step of watcher `i`. -/
def advance (i : Nat) (x : ProcWatcher) (outcome : WatchOutcome) (now : Int) : ProcWorld :=
  match x.pc with
  | .watching =>
    match outcome with
    | .fdError => w.shutdownReader i x
    | .alive | .unknown | .dbError => w
    | .dead exitCode => w.goto i (.confirmedDead exitCode)
  | .confirmedDead exitCode =>
    -- a failed query of the state is logged, and the crash is marked
    if outcome ≠ .dbError ∧ w.db.stateOf x.agentId = some .promptPending then w.goto i .done
    else w.goto i (.marking exitCode)
  | .marking exitCode =>
    if outcome = .dbError then w.shutdownReader i x else w.markCrashed i x exitCode now
  | .crashCleanup step =>
    match w.cleanupAgentRuntimeResources x.agentId step with
    | (w', some next) => w'.goto i (.crashCleanup next)
    | (w', none) => w'.shutdownReader i x
  | .shuttingDown step =>
    let (w', next) := w.cleanupAgentRuntimeResources x.agentId step
    w'.goto i (next.elim .removing .shuttingDown)
  | .removing => (w.removePidfd x.agentId).goto i .done
  | .done => w

def apply : WatchAct → ProcWorld
  | .other op => { w with db := op.apply w.db }
  | .deleteAgent agentId =>
    { w with db := commit ((deleteAgentSync w.db agentId).map ((), ·)) w.db }
  | .insertAgent agentId sessionId provider pid now =>
    { w with db := (insertAgentSync w.db agentId sessionId provider .spawning (some pid) now).2 }
  | .replaceKilled sessionId spec configHash pid intent now =>
    { w with
      db := commit
        (replaceKilledAgentAndRequeueJobSync w.db sessionId spec configHash pid intent now) w.db }
  | .prepareSandbox sessionId agentId pid =>
    { w with sandboxes := w.sandboxes.upsert (sessionId, agentId) pid }
  | .registerPidfd agentId pid => { w with pidfds := w.pidfds.upsert agentId pid }
  | .registerReader agentId entry => { w with readers := w.readers.upsert agentId entry }
  | .watch agentId sessionId pid =>
    { w with
      watchers := w.watchers ++ [{ agentId := agentId, sessionId := sessionId, pid := pid }] }
  | .removeReader agentId expectedSessionId => (w.removeReader agentId expectedSessionId).1
  | .removeSandbox sessionId agentId => w.removeSandbox sessionId agentId
  | .removePidfd agentId => w.removePidfd agentId
  | .advance i outcome now =>
    match w.watchers[i]? with
    | some x => w.advance i x outcome now
    | none => w

def Step (a : WatchAct) (w' : ProcWorld) : Prop := w' = w.apply a

/-- From `w` to `w'` something of another incarnation of the agent of `x` was changed: the
state of its row, or its pidfd, reader entry or sandbox is gone. -/
inductive DisturbsOther (w w' : ProcWorld) (x : ProcWatcher) : Prop
  | state (agent : Agent) (row : w.db.agents.get? x.agentId = some agent)
      (other : agent.pid ≠ some x.pid)
      (changed : w'.db.stateOf x.agentId ≠ w.db.stateOf x.agentId)
  | pidfd (pid : Int) (found : w.pidfds.get? x.agentId = some pid) (other : pid ≠ x.pid)
      (gone : w'.pidfds.get? x.agentId ≠ some pid)
  | reader (entry : AgentIoEntry) (found : w.readers.get? x.agentId = some entry)
      (other : entry.expectedPid ≠ some x.pid) (gone : w'.readers.get? x.agentId ≠ some entry)
  | sandbox (sessionId : String) (pid : Int)
      (found : w.sandboxes.get? (sessionId, x.agentId) = some pid) (other : pid ≠ x.pid)
      (gone : w'.sandboxes.get? (sessionId, x.agentId) ≠ some pid)

/-- The pidfd registered for the agent of `x`, if any, is the one `x` watches. -/
def OwnPidfd : Prop :=
  ∀ pid ∈ w.pidfds.get? x.agentId, pid = x.pid

/-- What a step of the cleanup finds under the id belongs to the incarnation of `x`, or the
entry names another session. -/
def OwnResource : CleanupPc → Prop
  | .reader expectedSessionId => ∀ entry ∈ w.readers.get? x.agentId,
    expectedSessionId.any (· ≠ entry.sessionId) = true ∨ entry.expectedPid = some x.pid
  | .sandbox sessionId => ∀ pid ∈ w.sandboxes.get? (sessionId, x.agentId), pid = x.pid
  | .pidfd => w.OwnPidfd x

/-- The row under the id has the pid of `x`, or a state the crash does not leave. -/
def OwnRow : Prop :=
  ∀ agent ∈ w.db.agents.get? x.agentId, agent.pid = some x.pid ∨
    agent.state = .crashed ∨ agent.state = .killed ∨ agent.state = .promptPending

/-- What the next step of `x` looks up by the agent id is its own incarnation's. -/
def FindsOwn (outcome : WatchOutcome) : Prop :=
  match x.pc with
  | .marking _ => outcome = .dbError ∨ w.OwnRow x
  | .crashCleanup step | .shuttingDown step => w.OwnResource x step
  | .removing => w.OwnPidfd x
  | .watching | .confirmedDead _ | .done => True

variable {w x}

instance (w : ProcWorld) (x : ProcWatcher) : Decidable (w.OwnPidfd x) :=
  inferInstanceAs (Decidable (∀ pid ∈ w.pidfds.get? x.agentId, pid = x.pid))

instance (w : ProcWorld) (x : ProcWatcher) : Decidable (w.OwnRow x) :=
  inferInstanceAs (Decidable (∀ agent ∈ w.db.agents.get? x.agentId, agent.pid = some x.pid ∨
    agent.state = .crashed ∨ agent.state = .killed ∨ agent.state = .promptPending))

instance (w : ProcWorld) (x : ProcWatcher) : DecidablePred (w.OwnResource x)
  | .reader expected => inferInstanceAs (Decidable (∀ entry ∈ w.readers.get? x.agentId,
      expected.any (· ≠ entry.sessionId) = true ∨ entry.expectedPid = some x.pid))
  | .sandbox sessionId =>
    inferInstanceAs (Decidable (∀ pid ∈ w.sandboxes.get? (sessionId, x.agentId), pid = x.pid))
  | .pidfd => inferInstanceAs (Decidable (w.OwnPidfd x))

instance (w : ProcWorld) (x : ProcWatcher) : DecidablePred (w.FindsOwn x) := by
  intro outcome; unfold FindsOwn; split <;> infer_instance

/-! ## One step -/

variable {w w' : ProcWorld} {x : ProcWatcher}

theorem not_disturbsOther_of_eq (db : w'.db = w.db) (readers : w'.readers = w.readers)
    (pidfds : w'.pidfds = w.pidfds) (sandboxes : w'.sandboxes = w.sandboxes) :
    ¬w.DisturbsOther w' x := by
  rintro (⟨_, _, _, h⟩ | ⟨_, found, _, h⟩ | ⟨_, found, _, h⟩ | ⟨_, _, found, _, h⟩)
  · exact h (by rw [db])
  · exact h (by rw [pidfds, found])
  · exact h (by rw [readers, found])
  · exact h (by rw [sandboxes, found])

theorem disturbsOther_goto (i : Nat) (pc : WatchPc) :
    w.DisturbsOther (w'.goto i pc) x ↔ w.DisturbsOther w' x := by
  constructor
  all_goals
    rintro (⟨_, h₁, h₂, h₃⟩ | ⟨_, h₁, h₂, h₃⟩ | ⟨_, h₁, h₂, h₃⟩ | ⟨_, _, h₁, h₂, h₃⟩)
    · exact .state _ h₁ h₂ h₃
    · exact .pidfd _ h₁ h₂ h₃
    · exact .reader _ h₁ h₂ h₃
    · exact .sandbox _ _ h₁ h₂ h₃

theorem disturbsOther_shutdownReader (i : Nat) :
    w.DisturbsOther (w'.shutdownReader i x) x ↔ w.DisturbsOther w' x :=
  disturbsOther_goto ..

theorem disturbsOther_removePidfd :
    ¬w.DisturbsOther (w.removePidfd x.agentId) x ↔ w.OwnPidfd x := by
  constructor
  · intro h pid found
    by_contra other
    exact h (.pidfd pid found other (by simp [removePidfd, Table.get?_delete]))
  · rintro own (⟨_, _, _, h⟩ | ⟨pid, found, other, _⟩ | ⟨_, found, _, h⟩ | ⟨_, _, found, _, h⟩)
    · exact h rfl
    · exact other (own pid found)
    · exact h found
    · exact h found

theorem disturbsOther_removeSandbox (sessionId : String) :
    ¬w.DisturbsOther (w.removeSandbox sessionId x.agentId) x ↔
      ∀ pid ∈ w.sandboxes.get? (sessionId, x.agentId), pid = x.pid := by
  constructor
  · intro h pid found
    by_contra other
    exact h (.sandbox sessionId pid found other (by simp [removeSandbox, Table.get?_delete]))
  · rintro own (⟨_, _, _, h⟩ | ⟨_, found, _, h⟩ | ⟨_, found, _, h⟩ |
      ⟨sessionId', pid, found, other, h⟩)
    · exact h rfl
    · exact h found
    · exact h found
    · by_cases e : sessionId' = sessionId
      · subst e
        exact other (own pid found)
      · exact h (by simpa [removeSandbox, Table.get?_delete, e] using found)

theorem disturbsOther_removeReader (expected : Option String) :
    ¬w.DisturbsOther (w.removeReader x.agentId expected).1 x ↔
      ∀ entry ∈ w.readers.get? x.agentId,
        expected.any (· ≠ entry.sessionId) = true ∨ entry.expectedPid = some x.pid := by
  unfold removeReader
  cases hr : w.readers.get? x.agentId with
  | none => exact iff_of_true (not_disturbsOther_of_eq rfl rfl rfl rfl) nofun
  | some entry =>
    simp only [Option.mem_some_iff, forall_eq']
    split_ifs with skip
    · exact iff_of_true (not_disturbsOther_of_eq rfl rfl rfl rfl) (.inl skip)
    · rw [or_iff_right skip]
      constructor
      · intro h
        by_contra other
        exact h (.reader entry hr other (by simp [Table.get?_delete]))
      · rintro own (⟨_, _, _, h⟩ | ⟨_, found, _, h⟩ | ⟨_, found, other, _⟩ | ⟨_, _, found, _, h⟩)
        · exact h rfl
        · exact h found
        · cases hr.symm.trans found
          exact other own
        · exact h found

theorem disturbsOther_cleanup (step : CleanupPc) :
    ¬w.DisturbsOther (w.cleanupAgentRuntimeResources x.agentId step).1 x ↔
      w.OwnResource x step := by
  cases step with
  | reader expected => exact disturbsOther_removeReader expected
  | sandbox sessionId => exact disturbsOther_removeSandbox sessionId
  | pidfd => exact disturbsOther_removePidfd

/-- The crash leaves the state of an existing row alone exactly if it is CRASHED, KILLED or
PROMPT_PENDING. -/
theorem stateOf_markAgentCrashedWithExitSync {db : Db}
    (row : db.agents.get? agentId = some agent) (exitCode : Option Int) (now : Int) :
    (commit (markAgentCrashedWithExitSync db agentId exitCode now) db).stateOf agentId =
        db.stateOf agentId ↔
      agent.state = .crashed ∨ agent.state = .killed ∨ agent.state = .promptPending := by
  obtain ⟨⟨n, db'⟩, h⟩ := markAgentCrashedSync_succeeds db agentId exitCode
    "AGENT_UNEXPECTED_EXIT" now
  rw [markAgentCrashedWithExitSync, h]
  rcases markAgentCrashedSync_ok h with ⟨-, rfl, down⟩ |
    ⟨-, agent', reason, row', notCrashed, notKilled, notPending, goes⟩
  · exact iff_of_true rfl (down agent row)
  · obtain rfl : agent' = agent := Option.some.inj (row'.symm.trans row)
    refine iff_of_false ?_ (by simp [notCrashed, notKilled, notPending])
    simpa [commit, Db.stateOf, goes.agents, row] using Ne.symm notCrashed

theorem disturbsOther_markCrashed (i : Nat) (exitCode : Option Int) (now : Int) :
    ¬w.DisturbsOther (w.markCrashed i x exitCode now) x ↔ w.OwnRow x := by
  -- where the watcher goes from here changes nothing it can disturb
  have moves : w.DisturbsOther (w.markCrashed i x exitCode now) x ↔
      w.DisturbsOther
        { w with db := commit (markAgentCrashedWithExitSync w.db x.agentId exitCode now) w.db }
        x := by
    unfold markCrashed
    dsimp only
    split_ifs <;> exact disturbsOther_goto ..
  rw [moves]
  constructor
  · intro h agent row
    by_contra other
    obtain ⟨otherPid, leaves⟩ := not_or.mp other
    rw [← stateOf_markAgentCrashedWithExitSync row exitCode now] at leaves
    exact h (.state agent row otherPid leaves)
  · rintro own (⟨agent, row, other, h⟩ | ⟨_, found, _, h⟩ | ⟨_, found, _, h⟩ | ⟨_, _, found, _, h⟩)
    · exact h ((stateOf_markAgentCrashedWithExitSync row exitCode now).mpr
        ((own agent row).resolve_left other))
    · exact h found
    · exact h found
    · exact h found

/-- A step of a watcher disturbs no other incarnation exactly if it finds its own. -/
theorem disturbsOther_advance (w : ProcWorld) (i : Nat) (x : ProcWatcher) (outcome : WatchOutcome)
    (now : Int) : ¬w.DisturbsOther (w.advance i x outcome now) x ↔ w.FindsOwn x outcome := by
  have waits : ∀ w' : ProcWorld, w'.db = w.db → w'.readers = w.readers →
      w'.pidfds = w.pidfds → w'.sandboxes = w.sandboxes → (¬w.DisturbsOther w' x ↔ True) :=
    fun w' h₁ h₂ h₃ h₄ => iff_true_intro (not_disturbsOther_of_eq h₁ h₂ h₃ h₄)
  unfold advance FindsOwn
  cases x.pc with
  | watching => cases outcome <;> exact waits _ rfl rfl rfl rfl
  | confirmedDead exitCode =>
    split_ifs <;> exact waits _ rfl rfl rfl rfl
  | marking exitCode =>
    dsimp only
    split_ifs with refused
    · exact iff_of_true (not_disturbsOther_of_eq rfl rfl rfl rfl) (.inl refused)
    · exact (disturbsOther_markCrashed i exitCode now).trans (or_iff_right refused).symm
  | crashCleanup step =>
    refine Iff.trans ?_ (disturbsOther_cleanup step)
    dsimp only
    rcases w.cleanupAgentRuntimeResources x.agentId step with ⟨w', _ | next⟩
    · exact not_congr (disturbsOther_shutdownReader i)
    · exact not_congr (disturbsOther_goto ..)
  | shuttingDown step =>
    exact (not_congr (disturbsOther_goto ..)).trans (disturbsOther_cleanup step)
  | removing => exact (not_congr (disturbsOther_goto ..)).trans disturbsOther_removePidfd
  | done => exact waits _ rfl rfl rfl rfl

end ProcWorld

/-! ## Whole runs -/

/-- A watcher's step changes something of another incarnation of its agent. -/
def DisturbsOtherIncarnation (t : Transition ProcWorld WatchAct) : Prop :=
  ∃ i outcome now x, t.act = .advance i outcome now ∧ t.pre.watchers[i]? = some x ∧
    t.pre.DisturbsOther t.post x

/-- The condition on a step: a watcher finds its own incarnation. -/
def WatchAct.FindsOwn (w : ProcWorld) : WatchAct → Prop
  | advance i outcome _ => ∀ x ∈ w.watchers[i]?, w.FindsOwn x outcome
  | _ => True

instance (w : ProcWorld) : DecidablePred (WatchAct.FindsOwn w)
  | .advance i outcome _ =>
    inferInstanceAs (Decidable (∀ x ∈ w.watchers[i]?, w.FindsOwn x outcome))
  | .other _ | .deleteAgent _ | .insertAgent .. | .replaceKilled .. | .prepareSandbox ..
  | .registerPidfd .. | .registerReader .. | .watch .. | .removeReader .. | .removeSandbox ..
  | .removePidfd _ => inferInstanceAs (Decidable True)

theorem disturbsOtherIncarnation_step (step : w.Step a w') :
    ¬DisturbsOtherIncarnation ⟨w, a, w'⟩ ↔ a.FindsOwn w := by
  rw [step]
  cases a with
  | advance i outcome now =>
    simp only [DisturbsOtherIncarnation, WatchAct.advance.injEq]
    constructor
    · intro h x found
      rw [Option.mem_def] at found
      rw [← ProcWorld.disturbsOther_advance w i x outcome now]
      intro disturbs
      exact h ⟨i, outcome, now, x, ⟨rfl, rfl, rfl⟩, found, by simpa [ProcWorld.apply, found]⟩
    · rintro own ⟨_, _, _, x, ⟨rfl, rfl, rfl⟩, found, disturbs⟩
      have alone := (ProcWorld.disturbsOther_advance w i x outcome now).mpr (own x found)
      exact alone (by simpa [ProcWorld.apply, found] using disturbs)
  | _ => simp [DisturbsOtherIncarnation, WatchAct.FindsOwn]

/-- In a run no watcher disturbs another incarnation of its agent exactly when every step
of a watcher finds, under the agent id, only what belongs to its own pid, a row the crash
does not change, or a reader entry of another session. -/
theorem disturbsOtherIncarnation_run {w w' : ProcWorld} {ts : List (Transition ProcWorld WatchAct)}
    (run : Run ProcWorld.Step w ts w') :
    (∀ t ∈ ts, ¬DisturbsOtherIncarnation t) ↔ ∀ t ∈ ts, t.act.FindsOwn t.pre :=
  run.forall_transition_iff (fun _ _ _ _ _ => trivial)
    (fun _ _ _ _ step => disturbsOtherIncarnation_step step) trivial

/-- An agent is spawned with a pid. -/
def spawnWith (agentId : String) (pid now : Int) : List WatchAct :=
  [.prepareSandbox "s1" agentId pid, .insertAgent agentId "s1" "claude" pid now,
    .registerPidfd agentId pid, .registerReader agentId ⟨"s1", some pid⟩, .watch agentId "s1" pid]

def diesFirst : List (Transition ProcWorld WatchAct) :=
  trace ProcWorld.apply { db := .oneSession }
    (spawnWith "a1" 10 0 ++ List.replicate 9 (.advance 0 (.dead (some 1)) 1) ++
      .deleteAgent "a1" :: spawnWith "a1" 20 2)

/-- Its process dies and the watcher finishes before the next spawn. -/
theorem disturbsOtherIncarnation_run_alone :
    (∀ t ∈ diesFirst, t.act.FindsOwn t.pre) ∧ ∀ t ∈ diesFirst, ¬DisturbsOtherIncarnation t := by
  rw [diesFirst, disturbsOtherIncarnation_run (Run.of_list _ _), and_self]
  decide

/-- Realign kills and respawns the agent before the watcher of the first process marks the
crash: the new row becomes CRASHED. -/
theorem disturbsOtherIncarnation_respawned :
    ¬∀ (w w' : ProcWorld) (ts : List (Transition ProcWorld WatchAct)),
      Run ProcWorld.Step w ts w' → ∀ t ∈ ts, ¬DisturbsOtherIncarnation t := by
  intro h
  have none := h _ _ _ (Run.of_list { db := .oneSession } (spawnWith "a1" 10 0 ++
    [.other (.markKilled "a1" "DRIFT_REALIGN" false 1), .removeReader "a1" (some "s1"),
      .removeSandbox "s1" "a1", .removePidfd "a1", .deleteAgent "a1"] ++ spawnWith "a1" 20 2 ++
    [.advance 0 (.dead none) 3, .advance 0 (.dead none) 3, .advance 0 (.dead none) 3]))
  simp only [spawnWith, List.cons_append, List.nil_append, trace, List.forall_mem_cons] at none
  exact none.2.2.2.2.2.2.2.2.2.2.2.2.2.2.2.2.2.1
    ⟨0, _, _, _, rfl, rfl, .state _ rfl (by decide) (by decide)⟩

end Ccbd
