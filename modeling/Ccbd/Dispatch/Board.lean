import Ccbd.Db.Schema
import Mathlib.Logic.Function.Basic

/-!
# The dispatch board

What dispatching is about, without the database: agents in states, jobs with an
owner and a status. `Dispatch` hands a queued job to an idle agent, a `Move` is any
other change the protocol allows. No move makes an agent hold a job it did not hold,
and both keep the board exclusive: an agent holds at most one dispatched job, an idle
agent none. The database operations are connected to this level in
`Ccbd.Dispatch.Refinement`.
-/

set_option linter.unusedSectionVars false

namespace Ccbd

/-- What the board knows of a job. -/
structure Slot (α : Type) where
  owner : α
  status : JobStatus
  cancelRequested : Bool

/-- Agents with their states, jobs with their slots. -/
@[ext] structure Board (α β : Type) where
  agent : α → Option AgentState
  job : β → Option (Slot α)

namespace Board

variable {α β : Type} [DecidableEq α] [DecidableEq β] {b b' : Board α β} {a : α} {j j' : β}

/-- Agent `a` holds the dispatched job `j`. -/
def Holds (b : Board α β) (a : α) (j : β) : Prop :=
  ∃ s, b.job j = some s ∧ s.owner = a ∧ s.status = .dispatched

/-- No agent holds two jobs, an idle agent holds none. -/
structure Exclusive (b : Board α β) : Prop where
  atMostOne : ∀ a, (b.agent a).isSome → ∀ j j', b.Holds a j → b.Holds a j' → j = j'
  idleFree : ∀ a, b.agent a = some .idle → ∀ j, ¬b.Holds a j

/-! ## Changes of the board -/

def setAgent (b : Board α β) (a : α) (st : AgentState) : Board α β :=
  { b with agent := fun x => if x = a then (b.agent x).map fun _ => st else b.agent x }

def updateJob (b : Board α β) (j : β) (f : Slot α → Slot α) : Board α β :=
  { b with job := fun x => if x = j then (b.job x).map f else b.job x }

def setStatus (b : Board α β) (j : β) (st : JobStatus) : Board α β :=
  b.updateJob j ({ · with status := st })

def requestCancel (b : Board α β) (j : β) : Board α β :=
  b.updateJob j ({ · with cancelRequested := true })

def putJob (b : Board α β) (j : β) (s : Slot α) : Board α β :=
  { b with job := fun x => if x = j then some s else b.job x }

def failHeld (b : Board α β) (a : α) : Board α β :=
  { b with
    job := fun x => (b.job x).map fun s =>
      if s.owner = a ∧ s.status = .dispatched then { s with status := .failed } else s }

/-- The idle agent `a` takes its queued job `j`. -/
structure Dispatch (a : α) (j : β) (b b' : Board α β) : Prop where
  idle : b.agent a = some .idle
  queued : ∃ s, b.job j = some s ∧ s.owner = a ∧ s.status = .queued
  result : b' = (b.setAgent a .waitingForAck).setStatus j .dispatched

/-- The other changes the protocol makes. -/
inductive Move : Board α β → Board α β → Prop
  | stay (b : Board α β) : Move b b
  | submit {b : Board α β} {j : β} {s : Slot α} (fresh : b.job j = none)
      (queued : s.status = .queued) : Move b (b.putJob j s)
  | occupy {b : Board α β} (a : α) {st : AgentState} (working : st ≠ .idle) :
      Move b (b.setAgent a st)
  | vacate {b : Board α β} {a : α} (st : AgentState) (free : ∀ j, ¬b.Holds a j) :
      Move b (b.setAgent a st)
  | release {b : Board α β} {a : α} {j : β} (st : AgentState) {next : JobStatus}
      (held : b.Holds a j) (left : next ≠ .dispatched) : Move b ((b.setAgent a st).setStatus j next)
  | settle {b : Board α β} (j : β) {next : JobStatus} (left : next ≠ .dispatched) :
      Move b (b.setStatus j next)
  | down {b : Board α β} (a : α) (st : AgentState) : Move b ((b.setAgent a st).failHeld a)
  | askCancel {b : Board α β} (j : β) : Move b (b.requestCancel j)

/-! ## Who holds what after a change -/

@[simp] theorem agent_setAgent (a' : α) (st : AgentState) :
    (b.setAgent a st).agent a' = if a' = a then (b.agent a').map fun _ => st else b.agent a' := rfl
@[simp] theorem agent_setStatus (st : JobStatus) : (b.setStatus j st).agent = b.agent := rfl
@[simp] theorem agent_putJob (s : Slot α) : (b.putJob j s).agent = b.agent := rfl
@[simp] theorem agent_failHeld : (b.failHeld a).agent = b.agent := rfl
@[simp] theorem agent_requestCancel : (b.requestCancel j).agent = b.agent := rfl
@[simp] theorem holds_setAgent (st : AgentState) :
    (b.setAgent a' st).Holds a j ↔ b.Holds a j := Iff.rfl

theorem holds_setStatus (h : st ≠ .dispatched) :
    (b.setStatus j st).Holds a j' ↔ b.Holds a j' ∧ j' ≠ j := by
  by_cases e : j' = j <;> simp [Holds, setStatus, updateJob, e, h]

theorem holds_setStatus_dispatched (found : b.job j = some s) :
    (b.setStatus j .dispatched).Holds a j' ↔ b.Holds a j' ∧ j' ≠ j ∨ j' = j ∧ s.owner = a := by
  by_cases e : j' = j
  · subst e; simp [Holds, setStatus, updateJob, found]
  · simp [Holds, setStatus, updateJob, e]

theorem holds_putJob (fresh : b.job j = none) (h : s.status = .queued) :
    (b.putJob j s).Holds a j' ↔ b.Holds a j' := by
  by_cases e : j' = j
  · subst e; simp [Holds, putJob, fresh, h]
  · simp [Holds, putJob, e]

theorem holds_requestCancel : (b.requestCancel j).Holds a j' ↔ b.Holds a j' := by
  by_cases e : j' = j
  · subst e
    cases h : b.job j' <;> simp [Holds, requestCancel, updateJob]
  · simp [Holds, requestCancel, updateJob, e]

theorem holds_failHeld : (b.failHeld a).Holds a' j ↔ b.Holds a' j ∧ a' ≠ a := by
  cases h : b.job j with
  | none => simp [Holds, failHeld, h]
  | some s =>
    by_cases e : s.owner = a ∧ s.status = .dispatched
    · simp only [Holds, failHeld]
      aesop
    · simp only [Holds, failHeld]
      aesop

/-! ## Exclusiveness -/

theorem Exclusive.setAgent_free (hb : b.Exclusive) (st : AgentState)
    (free : st = .idle → ∀ j, ¬b.Holds a j) : (b.setAgent a st).Exclusive where
  atMostOne x hx := hb.atMostOne x (by
    by_cases e : x = a <;> simpa [e] using hx)
  idleFree x hx := by
    by_cases e : x = a
    · subst e
      have hst : st = .idle := by
        simp only [agent_setAgent, if_true, Option.map_eq_some_iff] at hx
        exact hx.choose_spec.2
      exact free hst
    · simp only [agent_setAgent, e] at hx
      exact hb.idleFree x hx

/-- No move makes an agent hold a job it did not hold. -/
theorem Move.holds_of_holds (move : Move b b') (h : b'.Holds a j) : b.Holds a j := by
  cases move with
  | stay => exact h
  | submit fresh queued => exact (holds_putJob fresh queued).mp h
  | occupy => exact h
  | vacate => exact h
  | release st held left | settle j left => exact ((holds_setStatus left).mp h).1
  | down => exact (holds_failHeld.mp h).1
  | askCancel => exact holds_requestCancel.mp h

theorem Move.isSome_of_isSome (move : Move b b') (h : (b'.agent a).isSome) :
    (b.agent a).isSome := by
  have set : ∀ (x : α) (st : AgentState), ((b.setAgent x st).agent a).isSome →
      (b.agent a).isSome := by
    intro x st hx
    by_cases e : a = x <;> simpa [e] using hx
  cases move with
  | stay => exact h
  | submit => exact h
  | occupy x => exact set x _ h
  | vacate | release => exact set _ _ h
  | settle => exact h
  | down x => exact set x _ h
  | askCancel => exact h

/-- Every move keeps the board exclusive. -/
theorem Move.exclusive (move : Move b b') (hb : b.Exclusive) : b'.Exclusive := by
  refine ⟨fun x hx j₁ j₂ h₁ h₂ => ?_, ?_⟩
  · exact hb.atMostOne x (move.isSome_of_isSome hx) j₁ j₂ (move.holds_of_holds h₁)
      (move.holds_of_holds h₂)
  cases move with
  | stay => exact hb.idleFree
  | submit fresh queued =>
    exact fun x hx j h => hb.idleFree x hx j ((holds_putJob fresh queued).mp h)
  | occupy a working => exact (hb.setAgent_free _ fun e => absurd e working).idleFree
  | vacate st free => exact (hb.setAgent_free _ fun _ => free).idleFree
  | @release a j st next held left =>
    -- the only job the agent holds is the one that leaves
    intro x hx j' h
    obtain ⟨h, hne⟩ := (holds_setStatus left).mp h
    by_cases e : x = a
    · subst e
      have known : (b.agent x).isSome := by
        cases hbx : b.agent x
        · simp [hbx] at hx
        · rfl
      exact hne (hb.atMostOne x known _ _ h held)
    · simp only [agent_setStatus, agent_setAgent, e] at hx
      exact hb.idleFree x hx j' h
  | settle j left => exact fun x hx j' h => hb.idleFree x hx j' ((holds_setStatus left).mp h).1
  | down a st =>
    intro x hx j' h
    obtain ⟨h, hne⟩ := holds_failHeld.mp h
    simp only [agent_failHeld, agent_setAgent, hne] at hx
    exact hb.idleFree x hx j' h
  | askCancel j => exact fun x hx j' h => hb.idleFree x hx j' (holds_requestCancel.mp h)

theorem Dispatch.holds_iff (h : Dispatch a j b b') :
    b'.Holds a' j' ↔ b.Holds a' j' ∨ j' = j ∧ a' = a := by
  obtain ⟨s, found, owned, queued⟩ := h.queued
  have free : ¬b.Holds a' j := by
    rintro ⟨s', found', -, dispatched⟩
    rw [found, Option.some.injEq] at found'
    simp [← found', queued] at dispatched
  rw [h.result, holds_setStatus_dispatched (b := b.setAgent a .waitingForAck) found, holds_setAgent]
  constructor
  · rintro (h | ⟨rfl, e⟩)
    · exact .inl h.1
    · exact .inr ⟨rfl, e ▸ owned⟩
  · rintro (h | ⟨rfl, rfl⟩)
    · exact .inl ⟨h, fun e => free (e ▸ h)⟩
    · exact .inr ⟨rfl, owned⟩

theorem Dispatch.exclusive (h : Dispatch a j b b') (hb : b.Exclusive) : b'.Exclusive := by
  have free := hb.idleFree a h.idle
  refine ⟨fun x hx j₁ j₂ h₁ h₂ => ?_, fun x hx j' hj => ?_⟩
  · rcases h.holds_iff.mp h₁ with g₁ | ⟨e₁, x₁⟩ <;> rcases h.holds_iff.mp h₂ with g₂ | ⟨e₂, x₂⟩
    · have known : (b.agent x).isSome := by
        rw [h.result] at hx
        by_cases e : x = a <;> simpa [e] using hx
      exact hb.atMostOne x known _ _ g₁ g₂
    · exact absurd (x₂ ▸ g₁) (free _)
    · exact absurd (x₁ ▸ g₂) (free _)
    · exact e₁.trans e₂.symm
  · rw [h.result] at hx
    by_cases e : x = a
    · subst e; simp [h.idle] at hx
    · simp only [agent_setStatus, agent_setAgent, e] at hx
      rcases h.holds_iff.mp hj with g | ⟨-, e'⟩
      · exact hb.idleFree x hx j' g
      · exact e e'

end Board

end Ccbd
