import Ccbd.Dispatch.Operations

/-!
# Delayed hook notifications

An agent's stop hook sends `agent.notify`, with the agent id but nothing of the dispatch
it belongs to, and it may arrive at any later time. The handler checks provider and event
and completes whatever job is DISPATCHED then; `mark_agent_idle_hook_event` passes no
expected version. So a late notification completes a later job exactly when the
completion's own checks let it through.
-/

namespace Ccbd

open Lib

def canonicalizeProviderName (raw : String) : String :=
  if raw = "gemini" then "antigravity" else raw

def normalizeHookEvent (event : String) : String :=
  String.ofList (event.toList.map Char.toLower)

/-- A fired hook. `producedFor` is the job that was DISPATCHED for the agent when it
fired; the message itself does not have it. -/
structure Notification where
  agentId : String
  event : String
  provider : Option String
  eventId : Option String
  reply : Option String
  producedFor : Option String
deriving Repr

/-- The first half of `handle_agent_notify` for a worker: the provider under which the
stop event is processed, or `none` for an event that is ignored. A master's notification
never reaches the job tables. -/
def handleAgentNotify (db : Db) (n : Notification) : Except CcbdError (Option String) :=
  let provider := n.provider.map canonicalizeProviderName
  if "master:".toList.isPrefixOf n.agentId.toList then .ok none
  else match db.agents.get? n.agentId with
  | none => .error (.agentNotFound n.agentId)
  | some agent =>
    match provider with
    | some p =>
      if p ≠ agent.provider then
        .error (.ipcInvalidRequest
          s!"provider mismatch for agent {n.agentId}: expected {agent.provider}, got {p}")
      else .ok (if normalizeHookEvent n.event ≠ "stop" then none else some p)
    | none => .ok (if normalizeHookEvent n.event ≠ "stop" then none else some agent.provider)

/-- The database, the notifications under way, and those a handler has looked up the
agent for. -/
structure HookWorld where
  db : Db
  underWay : List Notification := []
  handled : List (Notification × String) := []

inductive HookAct where
  | other (op : DbOp)
  | fire (agentId event : String) (provider eventId reply : Option String)
  | receive (i : Nat)
  | complete (i : Nat) (env : CompletionEnv) (now : Int)

namespace HookWorld

def apply (w : HookWorld) : HookAct → HookWorld
  | .other op => { w with db := op.apply w.db }
  | .fire agentId event provider eventId reply =>
    let producedFor := (queryDispatchedJobForAgentSync w.db agentId).map Prod.fst
    { w with underWay := w.underWay ++ [⟨agentId, event, provider, eventId, reply, producedFor⟩] }
  | .receive i =>
    match w.underWay[i]? with
    | none => w
    | some n =>
      let w := { w with underWay := w.underWay.eraseIdx i }
      match handleAgentNotify w.db n with
      | .ok (some provider) => { w with handled := w.handled ++ [(n, provider)] }
      | _ => w
  | .complete i env now =>
    match w.handled[i]? with
    | none => w
    | some (n, provider) =>
      { w with
        handled := w.handled.eraseIdx i
        db := commit (markAgentIdleHookEventSync env w.db n.agentId provider
          (normalizeHookEvent n.event) n.eventId n.reply now) w.db }

def Step (w : HookWorld) (a : HookAct) (w' : HookWorld) : Prop := w' = w.apply a

end HookWorld

/-- A notification produced for one job completes or cancels another. -/
def CompletesLater (t : Transition HookWorld HookAct) : Prop :=
  ∃ i env now n provider j₁ j₂, t.act = .complete i env now ∧
    t.pre.handled[i]? = some (n, provider) ∧ n.producedFor = some j₁ ∧ j₂ ≠ j₁ ∧
    t.pre.db.statusOf j₂ = some .dispatched ∧
    (t.post.db.statusOf j₂ = some .completed ∨ t.post.db.statusOf j₂ = some .cancelled)

/-- The condition on a step: at the completion, a job the notification was not produced
for does not pass the checks. -/
def HookAct.IgnoresLate (w : HookWorld) : HookAct → Prop
  | complete i env _ => ∀ n provider j₁ agent j₂ job, w.handled[i]? = some (n, provider) →
      n.producedFor = some j₁ → j₂ ≠ j₁ →
      ¬EventSettles env w.db n.agentId provider n.reply agent j₂ job
  | _ => True

theorem hookEvent_settles_iff
    (hdb' : db' = commit (markAgentIdleHookEventSync env db agentId provider event eventId reply
      now) db) (j : String) :
    (db.statusOf j = some .dispatched ∧
      (db'.statusOf j = some .completed ∨ db'.statusOf j = some .cancelled)) ↔
      ∃ agent job, EventSettles env db agentId provider reply agent j job := by
  rw [markAgentIdleHookEventSync, markAgentIdleHookEventOutcomeSync_eq] at hdb'
  exact eventCompletion_settles_iff _ _ _ _ _ _ _ _ _ j hdb'

theorem completesLater_complete
    (found : w.handled[i]? = some (n, provider)) (env : CompletionEnv) (now : Int) :
    CompletesLater ⟨w, .complete i env now, w.apply (.complete i env now)⟩ ↔
      ∃ j₁ agent j₂ job, n.producedFor = some j₁ ∧ j₂ ≠ j₁ ∧
        EventSettles env w.db n.agentId provider n.reply agent j₂ job := by
  have post : (w.apply (.complete i env now)).db = commit (markAgentIdleHookEventSync env w.db
      n.agentId provider (normalizeHookEvent n.event) n.eventId n.reply now) w.db := by
    simp [HookWorld.apply, found]
  have settles := hookEvent_settles_iff post
  constructor
  · rintro ⟨i', env', now', n', provider', j₁, j₂, hact, found', produced, ne, pre, post⟩
    obtain ⟨rfl, rfl, rfl⟩ : i = i' ∧ env = env' ∧ now = now' := by simpa using hact
    rw [found, Option.some.injEq, Prod.mk.injEq] at found'
    obtain ⟨rfl, rfl⟩ := found'
    obtain ⟨agent, job, h⟩ := (settles j₂).mp ⟨pre, post⟩
    exact ⟨j₁, agent, j₂, job, produced, ne, h⟩
  · rintro ⟨j₁, agent, j₂, job, produced, ne, h⟩
    obtain ⟨pre, post⟩ := (settles j₂).mpr ⟨agent, job, h⟩
    exact ⟨i, env, now, n, provider, j₁, j₂, rfl, found, produced, ne, pre, post⟩

theorem completesLater_step (step : w.Step a w') :
    ¬CompletesLater ⟨w, a, w'⟩ ↔ a.IgnoresLate w := by
  rw [step]
  cases a with
  | complete i env now =>
    cases found : w.handled[i]? with
    | none =>
      refine iff_of_true ?_ (by simp [HookAct.IgnoresLate, found])
      rintro ⟨i', env', now', n, provider, j₁, j₂, hact, found', -⟩
      obtain ⟨rfl, -, -⟩ : i = i' ∧ env = env' ∧ now = now' := by simpa using hact
      simp [found] at found'
    | some handled =>
      obtain ⟨n, provider⟩ := handled
      rw [completesLater_complete found]
      constructor
      · intro h n' provider' j₁ agent j₂ job found' produced ne settles
        rw [found, Option.some.injEq, Prod.mk.injEq] at found'
        obtain ⟨rfl, rfl⟩ := found'
        exact h ⟨j₁, agent, j₂, job, produced, ne, settles⟩
      · rintro h ⟨j₁, agent, j₂, job, produced, ne, settles⟩
        exact h n provider j₁ agent j₂ job found produced ne settles
  | other | fire | receive =>
    refine iff_of_true ?_ trivial
    rintro ⟨_, _, _, _, _, _, _, hact, -⟩
    cases hact

/-- In a run no notification completes or cancels a job it was not produced for exactly
when, at every completion, the checks turn such a job away. -/
theorem completesLater_run {w w' : HookWorld} {ts : List (Transition HookWorld HookAct)}
    (run : Run HookWorld.Step w ts w') :
    (∀ t ∈ ts, ¬CompletesLater t) ↔ ∀ t ∈ ts, t.act.IgnoresLate t.pre :=
  run.forall_transition_iff (fun _ _ _ _ _ => trivial)
    (fun _ _ _ _ step => completesLater_step step) trivial

/-- The stop hook of the first job fires while the marker on the screen completes it;
then the second job is dispatched. -/
def lateStop : List HookAct :=
  [.other (.dispatchQueuedJob "a1" 1), .other (.insertJob "j2" "a1" none "next" 2),
    .fire "a1" "Stop" (some "claude") (some "ev1") (some "done"),
    .other (.markerMatched .blank "a1" 3), .other (.dispatchQueuedJob "a1" 4), .receive 0]

def lateStopFailed : List (Transition HookWorld HookAct) :=
  trace HookWorld.apply { db := idleAgentDb }
    (lateStop ++ [.other (.markJobFailed "j2" "send failed" 5), .complete 0 .blank 6])

/-- The second job fails before the late notification is processed. -/
theorem completesLater_run_failed :
    (∀ t ∈ lateStopFailed, t.act.IgnoresLate t.pre) ∧ ∀ t ∈ lateStopFailed, ¬CompletesLater t := by
  rw [lateStopFailed, completesLater_run (Run.of_list _ _), and_self]
  simp only [lateStop, List.cons_append, List.nil_append, trace, List.forall_mem_cons]
  refine ⟨trivial, trivial, trivial, trivial, trivial, trivial, trivial, ?_, by simp⟩
  intro n provider j₁ agent j₂ job _ _ _ settles
  exact Db.not_owns (by decide) _ _ ⟨job, queryDispatchedJobForAgentSync_some settles.dispatched⟩

/-- The late notification of the first job completes the second. -/
theorem completesLater_stale_stop :
    ¬∀ (w w' : HookWorld) (ts : List (Transition HookWorld HookAct)),
      Run HookWorld.Step w ts w' → ∀ t ∈ ts, ¬CompletesLater t := by
  intro h
  have none := h _ _ _ (Run.of_list { db := idleAgentDb } (lateStop ++ [.complete 0 .blank 5]))
  simp only [lateStop, List.cons_append, List.nil_append, trace, List.forall_mem_cons] at none
  refine none.2.2.2.2.2.2.1 ⟨0, .blank, 5, _, _, "j1", "j2", rfl, rfl, rfl, by decide, ?_, ?_⟩
  · decide
  · exact .inl (by decide)

end Ccbd
