import Ccbd.Audit.Trails

/-!
# Evidence and the events it cites

A row of `evidence` names an event, and `evidence.event_seq_id` has no referential action. So
the deletion of an agent goes through only if no evidence that survives it cites an event that
does not. Evidence is written together with the event it cites, for one agent, and both stay
with that agent: no operation of the daemon leaves evidence that cites the event of another.
-/

namespace Ccbd

open Lib

/-- Every piece of evidence cites an event of its own agent. -/
def Db.EvidenceOwned (d : Db) : Prop :=
  ∀ r ∈ d.evidence.rows, d.ownsEvent r.2.agentId r.2.eventSeqId = true

/-- Events stay with their agents, and evidence that is not as before, up to its review, cites
an event of its own agent. -/
structure Db.Logs (d d' : Db) : Prop where
  events : ∀ a seq, d.ownsEvent a seq = true → d'.ownsEvent a seq = true
  evidence : ∀ r ∈ d'.evidence.rows,
    (∃ r₀ ∈ d.evidence.rows, r₀.2.agentId = r.2.agentId ∧ r₀.2.eventSeqId = r.2.eventSeqId) ∨
      d'.ownsEvent r.2.agentId r.2.eventSeqId = true

/-! ## Rules -/

namespace Db.Logs

theorem owned (h : Logs d d') (owned : d.EvidenceOwned) : d'.EvidenceOwned := by
  intro r stored
  rcases h.evidence r stored with ⟨r₀, before, agent, seq⟩ | own
  · rw [← agent, ← seq]
    exact h.events _ _ (owned r₀ before)
  · exact own

theorem of_evidence (events : ∀ a seq, d.ownsEvent a seq = true → d'.ownsEvent a seq = true)
    (evidence : d'.evidence = d.evidence) : Logs d d' where
  events := events
  evidence r stored := .inl ⟨r, evidence ▸ stored, rfl, rfl⟩

theorem of_tables (events : d'.events = d.events) (evidence : d'.evidence = d.evidence) :
    Logs d d' :=
  of_evidence (fun a seq own => by rwa [Db.ownsEvent, events]) evidence

theorem of_append (events : d'.events = d.events.append e)
    (evidence : d'.evidence = d.evidence) : Logs d d' := by
  refine of_evidence (fun a seq own => ?_) evidence
  obtain ⟨e', stored, agent⟩ := ownsEvent_iff.mp own
  exact ownsEvent_iff.mpr ⟨e', events ▸ AutoTable.mem_append_of_mem stored e, agent⟩

theorem of_review (events : d'.events = d.events)
    (evidence : d'.evidence = d.evidence.updateWhere p f) (agent : ∀ e, (f e).agentId = e.agentId)
    (seq : ∀ e, (f e).eventSeqId = e.eventSeqId) : Logs d d' where
  events a s own := by rwa [Db.ownsEvent, events]
  evidence r stored := by
    rw [evidence] at stored
    obtain ⟨r₀, before, rfl⟩ := List.mem_map.mp stored
    refine .inl ⟨r₀, before, ?_⟩
    split_ifs
    · exact ⟨(agent _).symm, (seq _).symm⟩
    · exact ⟨rfl, rfl⟩

end Db.Logs

/-! ## The operations -/

theorem SideWrite.logs (h : SideWrite S d d') : d.Logs d' := by
  cases h with
  | move | create | ask | mark | intent => exact .of_tables rfl rfl
  | note => exact .of_append rfl rfl
  | review p agent seq => exact .of_review rfl rfl agent seq
  | cite key own =>
    refine ⟨fun _ _ => id, fun r stored => ?_⟩
    rcases Table.mem_insert stored with before | rfl
    · exact .inl ⟨r, before, rfl, rfl⟩
    · exact .inr own

theorem Db.EvidenceOwned.event {d : Db} (owned : d.EvidenceOwned) (e : Event) :
    ({ d with events := d.events.append e } : Db).EvidenceOwned := by
  have logs : d.Logs { d with events := d.events.append e } := .of_append rfl rfl
  exact logs.owned owned

/-! ## The deletion of an agent -/

section Deletion

variable {d : Db} {a : String}

/-- The events of an agent go with the evidence that cites them. -/
theorem Db.EvidenceOwned.cascadeAgent (owned : d.EvidenceOwned) (a : String) :
    (d.cascadeAgent a).EvidenceOwned := by
  intro r stored
  obtain ⟨before, kept⟩ := List.mem_filter.mp stored
  have other : r.2.agentId ≠ a := by
    intro mine
    simp [mine] at kept
  obtain ⟨e, logged, agent⟩ := Db.ownsEvent_iff.mp (owned r before)
  refine Db.ownsEvent_iff.mpr ⟨e, AutoTable.mem_deleteWhere.mpr ⟨logged, ?_⟩, agent⟩
  exact decide_eq_false (agent ▸ other)

/-- A learned rule cites an event of the agent. -/
def Db.citedByRule (d : Db) (a : String) : Bool :=
  d.learnedRules.rows.any fun r => r.2.sourceEventSeqId.any (d.ownsEvent a)

/-- Evidence never stands in the way of a deletion; a learned rule may. -/
theorem Db.EvidenceOwned.cascadeBlocked_eq (owned : d.EvidenceOwned) (a : String) :
    d.cascadeBlocked a = d.citedByRule a := by
  have free : (d.cascadeAgent a).evidence.rows.any (fun r => d.ownsEvent a r.2.eventSeqId) =
      false := by
    rw [List.any_eq_false]
    intro r stored cites
    -- the event would be of two agents
    obtain ⟨e, logged, agent⟩ := Db.ownsEvent_iff.mp (owned.cascadeAgent a r stored)
    obtain ⟨e', logged', agent'⟩ := Db.ownsEvent_iff.mp cites
    obtain ⟨before, survives⟩ := AutoTable.mem_deleteWhere.mp logged
    have same := (AutoTable.lookup_eq_some.mpr before).symm.trans
      (AutoTable.lookup_eq_some.mpr logged')
    cases same
    exact of_decide_eq_false survives agent'
  rw [Db.cascadeBlocked, free, Bool.false_or, Db.citedByRule]

theorem DaemonOp.Writes.evidenceOwned (h : Writes op d d') : d.EvidenceOwned → d'.EvidenceOwned :=
  h.keeps (fun _ _ _ write => write.logs.owned) (fun _ _ _ _ => id)
    (fun _ e owned => owned.event e) fun _ a owned => owned.cascadeAgent a

end Deletion

end Ccbd
