import Mathlib.Algebra.Order.Ring.Int
import Mathlib.Data.List.Basic

/-!
# Runs of a labelled transition system

A run is a finite sequence of transitions that fit together. The rules below
reduce a property of every run to a property of one step: an invariant of the
states, and a property of the transitions themselves, both for the runs whose
steps all meet a condition.
-/

namespace Ccbd.Lib

/-- One transition: the state before, the action and the state after. -/
structure Transition (σ α : Type) where
  pre : σ
  act : α
  post : σ

/-- The finite runs of `step`, with the transitions they make. -/
inductive Run {σ α : Type} (step : σ → α → σ → Prop) : σ → List (Transition σ α) → σ → Prop
  | nil (s : σ) : Run step s [] s
  | cons {s s' s'' : σ} {a : α} {ts : List (Transition σ α)} (first : step s a s')
      (rest : Run step s' ts s'') : Run step s (⟨s, a, s'⟩ :: ts) s''

/-- The transitions of a list of actions under a transition function. -/
def trace {σ α : Type} (f : σ → α → σ) : σ → List α → List (Transition σ α)
  | _, [] => []
  | s, a :: as => ⟨s, a, f s a⟩ :: trace f (f s a) as

theorem act_mem_of_trace {σ α : Type} {f : σ → α → σ} {s : σ} {as : List α} {t : Transition σ α}
    (h : t ∈ trace f s as) : t.act ∈ as := by
  induction as generalizing s with
  | nil => cases h
  | cons a as ih =>
    rcases List.mem_cons.mp h with rfl | h
    · exact List.mem_cons_self
    · exact List.mem_cons_of_mem _ (ih h)

namespace Run

variable {σ α : Type} {step : σ → α → σ → Prop} {s s' : σ} {ts : List (Transition σ α)}
  {I : σ → Prop} {C : σ → α → Prop} {P : Transition σ α → Prop} {f : σ → α → σ}

/-- An invariant that every step under the condition `C` keeps holds at the end
of every run whose steps all meet `C`. -/
theorem invariant (keeps : ∀ s a s', I s → C s a → step s a s' → I s')
    (run : Run step s ts s') (start : I s) (cond : ∀ t ∈ ts, C t.pre t.act) : I s' := by
  induction run with
  | nil s => exact start
  | cons first rest ih =>
    have hc := cond _ List.mem_cons_self
    exact ih (keeps _ _ _ start hc first) fun t ht => cond t (List.mem_cons_of_mem _ ht)

/-- A property of single transitions that the invariant and the condition give
holds of every transition of a run whose steps all meet the condition. -/
theorem forall_transition (keeps : ∀ s a s', I s → C s a → step s a s' → I s')
    (gives : ∀ s a s', I s → C s a → step s a s' → P ⟨s, a, s'⟩) (run : Run step s ts s')
    (start : I s) (cond : ∀ t ∈ ts, C t.pre t.act) : ∀ t ∈ ts, P t := by
  induction run with
  | nil s => simp
  | cons first rest ih =>
    have hc := cond _ List.mem_cons_self
    intro t ht
    rcases List.mem_cons.mp ht with rfl | ht
    · exact gives _ _ _ start hc first
    · exact ih (keeps _ _ _ start hc first) (fun t ht => cond t (List.mem_cons_of_mem _ ht)) t ht

theorem rest_of_mem {t : Transition σ α} (run : Run step s ts s') (mem : t ∈ ts) :
    step t.pre t.act t.post ∧ ∃ ts', Run step t.post ts' s' := by
  induction run with
  | nil s => cases mem
  | cons first rest ih =>
    rcases List.mem_cons.mp mem with rfl | mem
    · exact ⟨first, _, rest⟩
    · exact ih mem

/-- A run that starts in a good state and enters only good ones takes all its steps from them. -/
theorem forall_pre (run : Run step s ts s') (start : I s) (enters : ∀ t ∈ ts, I t.post) :
    ∀ t ∈ ts, I t.pre := by
  induction run with
  | nil s => simp
  | cons first rest ih =>
    rw [List.forall_mem_cons] at enters ⊢
    exact ⟨start, ih enters.1 enters.2⟩

theorem append {ts' : List (Transition σ α)} {s'' : σ} (run : Run step s ts s')
    (later : Run step s' ts' s'') : Run step s (ts ++ ts') s'' := by
  induction run with
  | nil s => exact later
  | cons first rest ih => exact .cons first (ih later)

/-- A run is the run up to one of its transitions, that step, and the run from its end. -/
theorem split {before after : List (Transition σ α)} {t : Transition σ α}
    (run : Run step s (before ++ t :: after) s') :
    Run step s before t.pre ∧ step t.pre t.act t.post ∧ Run step t.post after s' := by
  induction before generalizing s with
  | nil =>
    cases run with
    | cons first rest => exact ⟨.nil _, first, rest⟩
  | cons t' before ih =>
    cases run with
    | cons first rest =>
      obtain ⟨front, here, back⟩ := ih rest
      exact ⟨.cons first front, here, back⟩

/-- An invariant that may speak of the transitions made so far, as may the condition on the
next step. -/
theorem invariant_history {I : List (Transition σ α) → σ → Prop}
    {C : List (Transition σ α) → σ → α → Prop}
    (keeps : ∀ past s a s', I past s → C past s a → step s a s' → I (past ++ [⟨s, a, s'⟩]) s')
    (run : Run step s ts s') (start : I [] s)
    (cond : ∀ before t after, ts = before ++ t :: after → C before t.pre t.act) : I ts s' := by
  suffices h : ∀ past, I past s →
      (∀ before t after, ts = before ++ t :: after → C (past ++ before) t.pre t.act) →
      I (past ++ ts) s' from h [] start cond
  clear start cond
  induction run with
  | nil s =>
    intro past holds _
    simpa using holds
  | cons first rest ih =>
    intro past holds cond
    have now := cond [] _ _ rfl
    rw [List.append_nil] at now
    have later := ih _ (keeps past _ _ _ holds now first) fun before t after e => by
      have next := cond (_ :: before) t after (by rw [e, List.cons_append])
      simpa using next
    simpa using later

theorem invariant_past {I : List (Transition σ α) → σ → Prop}
    (keeps : ∀ past s a s', I past s → C s a → step s a s' → I (past ++ [⟨s, a, s'⟩]) s')
    (run : Run step s ts s') (start : I [] s) (cond : ∀ t ∈ ts, C t.pre t.act) : I ts s' :=
  invariant_history keeps run start fun _ t _ e => cond t (by simp [e])

theorem forall_split_concat {β : Type*} {P : List β → β → Prop} {xs : List β} {x : β} :
    (∀ before y after, xs ++ [x] = before ++ y :: after → P before y) ↔
      (∀ before y after, xs = before ++ y :: after → P before y) ∧ P xs x := by
  constructor
  · intro h
    refine ⟨fun before y after e => h before y (after ++ [x]) ?_, h xs x [] rfl⟩
    rw [e, List.append_assoc, List.cons_append]
  · rintro ⟨earlier, last⟩ before y after e
    rcases List.eq_nil_or_concat' after with rfl | ⟨after, z, rfl⟩
    · obtain ⟨rfl, same⟩ := List.append_inj' e rfl
      cases same
      exact last
    · rw [← List.cons_append, ← List.append_assoc] at e
      exact earlier before y after (List.append_inj' e rfl).1

/-- A preorder that every step follows relates all states of a run in their order. -/
theorem relates {R : σ → σ → Prop} (refl : ∀ s, R s s)
    (trans : ∀ s s' s'', R s s' → R s' s'' → R s s'')
    (follows : ∀ s a s', step s a s' → R s s') (run : Run step s ts s') :
    R s s' ∧ (∀ t ∈ ts, R s t.pre ∧ R t.pre t.post) ∧ ts.Pairwise fun t t' => R t.post t'.pre := by
  induction run with
  | nil s => exact ⟨refl s, by simp, List.Pairwise.nil⟩
  | cons first rest ih =>
    have step := follows _ _ _ first
    obtain ⟨whole, each, pairs⟩ := ih
    refine ⟨trans _ _ _ step whole, fun t ht => ?_, List.pairwise_cons.mpr ⟨?_, pairs⟩⟩
    · rcases List.mem_cons.mp ht with rfl | ht
      · exact ⟨refl _, step⟩
      · exact ⟨trans _ _ _ step (each t ht).1, (each t ht).2⟩
    · exact fun t ht => (each t ht).1

/-- A quantity that single transitions add at most one of, none once `P` holds, and that
brings `P` about: a run adds at most one of it. -/
theorem sum_le_one {P : σ → Prop} {f : Transition σ α → Nat}
    (stays : ∀ s a s', step s a s' → P s → P s')
    (none : ∀ s a s', step s a s' → P s → f ⟨s, a, s'⟩ = 0)
    (one : ∀ s a s', step s a s' → f ⟨s, a, s'⟩ = 0 ∨ f ⟨s, a, s'⟩ = 1 ∧ P s')
    (run : Run step s ts s') : (ts.map f).sum ≤ 1 ∧ (P s → (ts.map f).sum = 0) := by
  induction run with
  | nil s => simp
  | @cons s₁ s₂ s₃ a ts first rest ih =>
    rw [List.map_cons, List.sum_cons]
    refine ⟨?_, fun done => ?_⟩
    · rcases one _ _ _ first with zero | ⟨added, done⟩
      · omega
      · have later := ih.2 done
        omega
    · have now := none _ _ _ first done
      have later := ih.2 (stays _ _ _ first done)
      omega

/-- A budget that every step under the condition `C` pays from: what the run spends and what
is left of the budget at its end is no more than the budget at its start. -/
theorem sum_add_le {f : Transition σ α → Nat} {budget : σ → Nat}
    (pays : ∀ s a s', C s a → step s a s' → f ⟨s, a, s'⟩ + budget s' ≤ budget s)
    (run : Run step s ts s') (cond : ∀ t ∈ ts, C t.pre t.act) :
    (ts.map f).sum + budget s' ≤ budget s := by
  induction run with
  | nil s => simp
  | @cons s₁ s₂ s₃ a ts first rest ih =>
    have now := pays s₁ a s₂ (cond _ List.mem_cons_self) first
    have later := ih fun t ht => cond t (List.mem_cons_of_mem _ ht)
    rw [List.map_cons, List.sum_cons]
    omega

theorem of_list (s : σ) (as : List α) :
    Run (fun s a s' => s' = f s a) s (trace f s as) (as.foldl f s) := by
  induction as generalizing s with
  | nil => exact .nil s
  | cons a as ih => exact .cons rfl (ih (f s a))

theorem of_list_guarded (s : σ) (as : List α) (allowed : ∀ a ∈ as, ∀ s, C s a) :
    Run (fun s a s' => C s a ∧ s' = f s a) s (trace f s as) (as.foldl f s) := by
  induction as generalizing s with
  | nil => exact .nil s
  | cons a as ih =>
    rw [List.forall_mem_cons] at allowed
    exact .cons ⟨allowed.1 s, rfl⟩ (ih (f s a) allowed.2)

/-- A property `P` of single transitions that a step from a good state has exactly when it
meets `C`, and that leads to a good state again: the transitions of a run from a good
state all have it exactly when all its steps meet `C`. -/
theorem forall_iff_of_keeps (keeps : ∀ s a s', I s → step s a s' → P ⟨s, a, s'⟩ → I s')
    (exact : ∀ s a s', I s → step s a s' → (P ⟨s, a, s'⟩ ↔ C s a)) (run : Run step s ts s')
    (start : I s) : (∀ t ∈ ts, P t) ↔ ∀ t ∈ ts, C t.pre t.act := by
  induction run with
  | nil s => simp
  | cons first rest ih =>
    have hstep := exact _ _ _ start first
    simp only [List.forall_mem_cons]
    constructor
    · rintro ⟨hp, hps⟩
      exact ⟨hstep.mp hp, (ih (keeps _ _ _ start first hp)).mp hps⟩
    · rintro ⟨hc, hcs⟩
      have hp := hstep.mpr hc
      exact ⟨hp, (ih (keeps _ _ _ start first hp)).mpr hcs⟩

/-- If a step from a good state ends in a good state exactly when it meets `C`, then a
run from a good state visits only good states exactly when all its steps meet `C`. -/
theorem forall_post_iff
    (exact : ∀ s a s', I s → step s a s' → (I s' ↔ C s a)) (run : Run step s ts s') (start : I s) :
    (∀ t ∈ ts, I t.post) ↔ ∀ t ∈ ts, C t.pre t.act :=
  forall_iff_of_keeps (fun _ _ _ _ _ good => good) exact run start

theorem forall_transition_iff (keeps : ∀ s a s', I s → step s a s' → I s')
    (exact : ∀ s a s', I s → step s a s' → (P ⟨s, a, s'⟩ ↔ C s a)) (run : Run step s ts s')
    (start : I s) : (∀ t ∈ ts, P t) ↔ ∀ t ∈ ts, C t.pre t.act :=
  forall_iff_of_keeps (fun s a s' good first _ => keeps s a s' good first) exact run start

end Run

end Ccbd.Lib
