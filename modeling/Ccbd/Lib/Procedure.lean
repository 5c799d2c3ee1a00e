import Mathlib.Data.List.Basic

/-!
# Procedures over a store

A procedure runs several steps on a store and may fail between them; what its earlier
steps did then stays. A step that is a transaction takes effect as a whole or not at all.

`Ends m s Q` says that `m`, started on the store `s`, ends in a result and a store that
satisfy `Q`, whether it returns or fails. There is a rule for every way to build a
procedure. `Returns m s R` says that it returns, `Preserves I m` that `I` is an invariant of
`m`. `Keeps obs m` says that `m` changes nothing that `obs` sees of the store, and
`SeenAs obs m m'` that all `obs` sees of `m` is the procedure `m'`.
-/

namespace Ccbd.Lib

variable {ε σ α β : Type}

/-- A transaction as a step: its error leaves the store alone. -/
def atomic (t : σ → Except ε (α × σ)) : EStateM ε σ α := fun s =>
  match t s with
  | .ok (a, s') => .ok a s'
  | .error e => .error e s

/-- A step whose error may leave a changed store. -/
def ofStep (f : σ → Except ε α × σ) : EStateM ε σ α := fun s =>
  match f s with
  | (.ok a, s') => .ok a s'
  | (.error e, s') => .error e s'

/-- A result that does not depend on the store. -/
def ofResult (r : Except ε α) : EStateM ε σ α := ofStep fun s => (r, s)

/-- The result of a procedure as a value, an error included. -/
def attempt (m : EStateM ε σ α) : EStateM ε σ (Except ε α) := fun s =>
  match m s with
  | .ok a s' => .ok (.ok a) s'
  | .error e s' => .ok (.error e) s'

/-- Runs `f` on the elements in turn up to the first error. -/
def forEach (f : α → EStateM ε σ β) : List α → EStateM ε σ (List β)
  | [] => pure []
  | a :: as => do
    let b ← f a
    let bs ← forEach f as
    return b :: bs

/-- `m` ends, from `s`, in a result and a store that satisfy `Q`. -/
def Ends (m : EStateM ε σ α) (s : σ) (Q : Except ε α → σ → Prop) : Prop :=
  match m s with
  | .ok a s' => Q (.ok a) s'
  | .error e s' => Q (.error e) s'

section Rules

variable {m : EStateM ε σ α} {f g : α → EStateM ε σ β} {s s' : σ} {Q Q' : Except ε α → σ → Prop}
  {a : α} {as : List α} {bs : List β} {I : σ → Prop} {P : α → σ → Prop}

@[simp] theorem ends_pure : Ends (pure a) s Q ↔ Q (.ok a) s := Iff.rfl

@[simp] theorem ends_get {Q : Except ε σ → σ → Prop} : Ends get s Q ↔ Q (.ok s) s := Iff.rfl

@[simp] theorem ends_modify {g : σ → σ} {Q : Except ε Unit → σ → Prop} :
    Ends (modify g) s Q ↔ Q (.ok ()) (g s) := Iff.rfl

theorem ends_bind {Q : Except ε β → σ → Prop} :
    Ends (m >>= f) s Q ↔ Ends m s fun r s' =>
      match r with
      | .ok a => Ends (f a) s' Q
      | .error e => Q (.error e) s' := by
  show Ends (EStateM.bind m f) s Q ↔ _
  unfold Ends EStateM.bind
  cases m s <;> rfl

theorem ends_atomic {t : σ → Except ε (α × σ)} :
    Ends (atomic t) s Q ↔
      match t s with
      | .ok (a, s') => Q (.ok a) s'
      | .error e => Q (.error e) s := by
  unfold Ends atomic
  cases t s <;> rfl

theorem ends_ofStep {g : σ → Except ε α × σ} : Ends (ofStep g) s Q ↔ Q (g s).1 (g s).2 := by
  unfold Ends ofStep
  obtain ⟨r, s'⟩ := g s
  cases r <;> rfl

@[simp] theorem ends_ofResult {r : Except ε α} : Ends (ofResult r) s Q ↔ Q r s := ends_ofStep

theorem ends_attempt {Q : Except ε (Except ε α) → σ → Prop} :
    Ends (attempt m) s Q ↔ Ends m s fun r s' => Q (.ok r) s' := by
  unfold Ends attempt
  cases m s <;> rfl

theorem Ends.mono (h : Ends m s Q) (imp : ∀ r s', Q r s' → Q' r s') : Ends m s Q' := by
  unfold Ends at *
  cases hm : m s <;> rw [hm] at h <;> exact imp _ _ h

theorem Ends.and (h : Ends m s Q) (h' : Ends m s Q') : Ends m s fun r s' => Q r s' ∧ Q' r s' := by
  unfold Ends at *
  cases hm : m s <;> rw [hm] at h h' <;> exact ⟨h, h'⟩

instance [∀ r s', Decidable (Q r s')] : Decidable (Ends m s Q) :=
  match hm : m s with
  | .ok a s' => decidable_of_iff (Q (.ok a) s') (by rw [Ends, hm])
  | .error e s' => decidable_of_iff (Q (.error e) s') (by rw [Ends, hm])

theorem ends_iff_of_eq_ok (e : m s = .ok a s') : Ends m s Q ↔ Q (.ok a) s' := by
  rw [Ends, e]

theorem Ends.of_eq_ok (h : Ends m s Q) (e : m s = .ok a s') : Q (.ok a) s' :=
  (ends_iff_of_eq_ok e).mp h

theorem Ends.exists_ok {P : σ → Prop} (h : Ends m s fun r s' => r.isOk = true ∧ P s') :
    ∃ a s', m s = .ok a s' ∧ P s' := by
  unfold Ends at h
  cases hm : m s with
  | ok a s' =>
    rw [hm] at h
    exact ⟨a, s', rfl, h.2⟩
  | error e s' =>
    rw [hm] at h
    cases h.1

theorem Ends.exists_eq (h : Ends m s Q) :
    ∃ r s', Ends m s (fun r' t => r' = r ∧ t = s') ∧ Q r s' := by
  unfold Ends at *
  cases hm : m s <;> rw [hm] at h <;> exact ⟨_, _, ⟨rfl, rfl⟩, h⟩

theorem bind_eq_ok_iff {b : β} :
    (m >>= f) s = .ok b s' ↔ ∃ a s₁, m s = .ok a s₁ ∧ f a s₁ = .ok b s' := by
  show EStateM.bind m f s = .ok b s' ↔ _
  unfold EStateM.bind
  cases m s <;> simp

theorem atomic_eq_ok_iff {t : σ → Except ε (α × σ)} :
    atomic t s = .ok a s' ↔ t s = .ok (a, s') := by
  unfold atomic
  cases t s <;> simp [Prod.ext_iff]

theorem ends_congr (same : Ends m s fun r s' => Q r s' ↔ Q' r s') : Ends m s Q ↔ Ends m s Q' := by
  unfold Ends at *
  cases hm : m s <;> rw [hm] at same <;> exact same

@[simp] theorem ends_const {p : Prop} : Ends m s (fun _ _ => p) ↔ p := by
  unfold Ends
  cases m s <;> rfl

theorem forEach_pure (g : α → β) (as : List α) :
    forEach (fun a => (pure (g a) : EStateM ε σ β)) as = pure (as.map g) := by
  induction as with
  | nil => rfl
  | cons a as ih =>
    rw [forEach, ih]
    rfl

/-- An invariant of every turn of a loop is one of the loop. -/
theorem ends_forEach (turn : ∀ a ∈ as, ∀ s, I s → Ends (g a) s fun _ s' => I s') (start : I s) :
    Ends (forEach g as) s fun _ s' => I s' := by
  induction as generalizing s with
  | nil => exact start
  | cons a as ih =>
    refine ends_bind.mpr ((turn a List.mem_cons_self s start).mono fun r s₁ h₁ => ?_)
    cases r with
    | error => exact h₁
    | ok b =>
      have rest := ih (fun a' ha' => turn a' (List.mem_cons_of_mem _ ha')) h₁
      refine ends_bind.mpr (rest.mono fun r s₂ h₂ => ?_)
      cases r <;> exact h₂

theorem forEach_invariant (turn : ∀ a ∈ as, ∀ s b s', I s → g a s = .ok b s' → I s')
    (h : forEach g as s = .ok bs s') (start : I s) : I s' := by
  induction as generalizing s bs with
  | nil =>
    cases h
    exact start
  | cons a as ih =>
    obtain ⟨b, s₁, hb, h⟩ := bind_eq_ok_iff.mp h
    obtain ⟨bs', s₂, hrest, h⟩ := bind_eq_ok_iff.mp h
    cases h
    exact ih (fun a' ha' => turn a' (List.mem_cons_of_mem _ ha')) hrest
      (turn a List.mem_cons_self s b s₁ start hb)

/-- A loop that returned has run the body on each element: the loop up to it returned, then
the body did, then the rest of the loop. -/
theorem forEach_eq_ok (h : forEach g as s = .ok bs s') (ha : a ∈ as) :
    ∃ before after bs₁ b bs₂ s₁ s₂, as = before ++ a :: after ∧
      forEach g before s = .ok bs₁ s₁ ∧ g a s₁ = .ok b s₂ ∧ forEach g after s₂ = .ok bs₂ s' := by
  induction as generalizing s bs with
  | nil => cases ha
  | cons first rest ih =>
    obtain ⟨b, s₁, hb, h⟩ := bind_eq_ok_iff.mp h
    obtain ⟨bs', s₂, hrest, h⟩ := bind_eq_ok_iff.mp h
    cases h
    by_cases e : a = first
    · subst e
      exact ⟨[], rest, [], b, bs', s, s₁, rfl, rfl, hb, hrest⟩
    · obtain ⟨before, after, bs₁, b', bs₂, t₁, t₂, split, h₁, h₂, h₃⟩ :=
        ih hrest ((List.mem_cons.mp ha).resolve_left e)
      refine ⟨first :: before, after, b :: bs₁, b', bs₂, t₁, t₂, by rw [split]; rfl, ?_, h₂, h₃⟩
      exact bind_eq_ok_iff.mpr ⟨b, s₁, hb, bind_eq_ok_iff.mpr ⟨bs₁, t₁, h₁, rfl⟩⟩

theorem forEach_getElem? (h : forEach g as s = .ok bs s') {i : Nat} (ha : as[i]? = some a) :
    ∃ b s₁ s₂, bs[i]? = some b ∧ g a s₁ = .ok b s₂ := by
  induction as generalizing s bs i with
  | nil => cases ha
  | cons first rest ih =>
    obtain ⟨b, s₁, hb, h⟩ := bind_eq_ok_iff.mp h
    obtain ⟨bs', s₂, hrest, h⟩ := bind_eq_ok_iff.mp h
    cases h
    cases i with
    | zero =>
      cases ha
      exact ⟨b, s, s₁, rfl, hb⟩
    | succ i => exact ih hrest ha

/-- The loop over `as` that starts in `s` comes to the turn of `x`, in `s₁`. -/
inductive Reached (g : α → EStateM ε σ β) : List α → σ → α → σ → Prop
  | head {a : α} {as : List α} {s : σ} : Reached g (a :: as) s a s
  | tail {a x : α} {as : List α} {b : β} {s s' s₁ : σ} (turn : g a s = .ok b s')
      (rest : Reached g as s' x s₁) : Reached g (a :: as) s x s₁

theorem forall_reached_cons_of_ok {b : β} {s₁ : σ} (turn : g a s = .ok b s₁) :
    (∀ x s₂, Reached g (a :: as) s x s₂ → P x s₂) ↔
      P a s ∧ ∀ x s₂, Reached g as s₁ x s₂ → P x s₂ := by
  constructor
  · exact fun h => ⟨h a s .head, fun x s₂ rest => h x s₂ (.tail turn rest)⟩
  · rintro ⟨first, others⟩ x s₂ reached
    cases reached with
    | head => exact first
    | tail turn' rest =>
      rw [turn] at turn'
      cases turn'
      exact others x s₂ rest

theorem forall_reached_cons_of_error {e : ε} {s₁ : σ} (turn : g a s = .error e s₁) :
    (∀ x s₂, Reached g (a :: as) s x s₂ → P x s₂) ↔ P a s := by
  refine ⟨fun h => h a s .head, fun first x s₂ reached => ?_⟩
  cases reached with
  | head => exact first
  | tail turn' =>
    rw [turn] at turn'
    cases turn'

/-- A turn that returns meets `P` and keeps the invariant; one that fails keeps `K` just if it
met `P`. Then the loop keeps `K` just if every turn it came to met `P`. -/
theorem ends_forEach_iff {K : σ → Prop}
    (done : ∀ s, I s → K s) (turn : ∀ a ∈ as, ∀ s, I s → Ends (g a) s fun r s' =>
      (r.isOk → P a s ∧ I s') ∧ (r.isOk = false → (K s' ↔ P a s))) (start : I s) :
    Ends (forEach g as) s fun r s' =>
      (r.isOk → I s') ∧ (K s' ↔ ∀ a s₁, Reached g as s a s₁ → P a s₁) := by
  induction as generalizing s with
  | nil => exact ⟨fun _ => start, fun _ _ _ => nofun, fun _ => done s start⟩
  | cons a as ih =>
    have first := turn a List.mem_cons_self s start
    rw [forEach, ends_bind]
    cases hg : g a s with
    | error e s₁ =>
      unfold Ends at first ⊢
      rw [hg] at first ⊢
      exact ⟨nofun, (first.2 rfl).trans (forall_reached_cons_of_error hg).symm⟩
    | ok b s₁ =>
      rw [ends_iff_of_eq_ok hg] at first ⊢
      obtain ⟨met, kept⟩ := first.1 rfl
      have rest := ih (fun a' ha' => turn a' (List.mem_cons_of_mem _ ha')) kept
      refine ends_bind.mpr (rest.mono fun r s₂ h => ?_)
      rw [forall_reached_cons_of_ok hg, and_iff_right met]
      cases r <;> exact h

end Rules

/-- `m` leaves what `obs` sees of the store as it was. -/
def Keeps {τ : Type} (obs : σ → τ) (m : EStateM ε σ α) : Prop :=
  ∀ s, Ends m s fun _ s' => obs s' = obs s

namespace Keeps

variable {τ : Type} {obs : σ → τ} {m : EStateM ε σ α} {f : α → EStateM ε σ β}

theorem pure (a : α) : Keeps obs (Pure.pure a : EStateM ε σ α) := fun _ => rfl

theorem modify {g : σ → σ} (h : ∀ s, obs (g s) = obs s) :
    Keeps obs (modifyGet fun s => ((), g s) : EStateM ε σ Unit) := h

theorem atomic {t : σ → Except ε (α × σ)} (h : ∀ s a s', t s = .ok (a, s') → obs s' = obs s) :
    Keeps obs (Lib.atomic t) := by
  intro s
  rw [ends_atomic]
  cases ht : t s with
  | ok r => exact h s r.1 r.2 ht
  | error => rfl

theorem ofStep {g : σ → Except ε α × σ} (h : ∀ s, obs (g s).2 = obs s) : Keeps obs (Lib.ofStep g) :=
  fun s => ends_ofStep.mpr (h s)

theorem attempt (hm : Keeps obs m) : Keeps obs (Lib.attempt m) :=
  fun s => ends_attempt.mpr ((hm s).mono fun _ _ h => h)

theorem bind (hm : Keeps obs m) (hf : ∀ a, Keeps obs (f a)) : Keeps obs (m >>= f) := by
  intro s
  refine ends_bind.mpr ((hm s).mono fun r s' h => ?_)
  cases r with
  | ok a => exact (hf a s').mono fun _ _ h' => h'.trans h
  | error => exact h

/-- A procedure that keeps `obs` does not decide a property that `obs` decides. -/
theorem ends_iff (h : Keeps obs m) {s : σ} {P : σ → Prop}
    (decides : ∀ s', obs s' = obs s → (P s' ↔ P s)) : Ends m s (fun _ s' => P s') ↔ P s := by
  rw [ends_congr ((h s).mono fun _ s' => decides s'), ends_const]

end Keeps

/-! ## Procedures that return -/

section Returns

variable {m : EStateM ε σ α} {f : α → EStateM ε σ β} {s : σ} {R : α → σ → Prop}

/-- `m` returns, from `s`, a result and a store that satisfy `R`. -/
def Returns (m : EStateM ε σ α) (s : σ) (R : α → σ → Prop) : Prop :=
  ∃ a s', m s = .ok a s' ∧ R a s'

theorem Returns.pure {a : α} (h : R a s) : Returns (Pure.pure a : EStateM ε σ α) s R :=
  ⟨a, s, rfl, h⟩

theorem Returns.bind {R' : β → σ → Prop} (h : Returns m s R)
    (next : ∀ a s', R a s' → Returns (f a) s' R') : Returns (m >>= f) s R' := by
  obtain ⟨a, s', e, r⟩ := h
  obtain ⟨b, s'', e', r'⟩ := next a s' r
  exact ⟨b, s'', bind_eq_ok_iff.mpr ⟨a, s', e, e'⟩, r'⟩

theorem Returns.ends_bind {Q : Except ε β → σ → Prop} (h : Returns m s R)
    (next : ∀ a s', R a s' → Ends (f a) s' Q) : Ends (m >>= f) s Q := by
  obtain ⟨a, s', e, r⟩ := h
  rw [Lib.ends_bind, ends_iff_of_eq_ok e]
  exact next a s' r

theorem Returns.and_ends {P : σ → Prop} (h : Returns m s R) (h' : Ends m s fun _ s' => P s') :
    Returns m s fun a s' => R a s' ∧ P s' := by
  obtain ⟨a, s', e, r⟩ := h
  exact ⟨a, s', e, r, h'.of_eq_ok e⟩

theorem Returns.and (h : Returns m s R) (h' : Returns m s R') :
    Returns m s fun a s' => R a s' ∧ R' a s' := by
  obtain ⟨a, s', e, r⟩ := h
  obtain ⟨a', s'', e', r'⟩ := h'
  rw [e] at e'
  cases e'
  exact ⟨a, s', e, r, r'⟩

theorem returns_forEach {I : σ → Prop} {g : α → EStateM ε σ β} {as : List α}
    (turn : ∀ a ∈ as, ∀ s, I s → Returns (g a) s fun _ s' => I s') (start : I s) :
    Returns (forEach g as) s fun _ s' => I s' := by
  induction as generalizing s with
  | nil => exact .pure start
  | cons a as ih =>
    refine (turn a List.mem_cons_self s start).bind fun b s₁ h₁ => ?_
    refine (ih (fun a' ha' => turn a' (List.mem_cons_of_mem _ ha')) h₁).bind fun bs s₂ h₂ => ?_
    exact .pure h₂

end Returns

/-! ## Invariants -/

/-- `m` leads from the stores in `I` to such stores, also when it fails. -/
def Preserves (I : σ → Prop) (m : EStateM ε σ α) : Prop := ∀ s, I s → Ends m s fun _ s' => I s'

namespace Preserves

variable {I : σ → Prop} {m : EStateM ε σ α} {f : α → EStateM ε σ β}

theorem pure (a : α) : Preserves I (Pure.pure a : EStateM ε σ α) := fun _ h => h

theorem ofResult (r : Except ε α) : Preserves I (Lib.ofResult r) :=
  fun _ h => ends_ofResult.mpr h

theorem attempt (h : Preserves I m) : Preserves I (Lib.attempt m) :=
  fun s start => ends_attempt.mpr (h s start)

theorem forEach {g : α → EStateM ε σ β} {as : List α} (turn : ∀ a ∈ as, Preserves I (g a)) :
    Preserves I (Lib.forEach g as) :=
  fun _ start => ends_forEach (fun a mem s h => turn a mem s h) start

theorem bind (hm : Preserves I m) (hf : ∀ a, Preserves I (f a)) : Preserves I (m >>= f) := by
  intro s start
  refine ends_bind.mpr ((hm s start).mono fun r s' h => ?_)
  cases r with
  | ok a => exact hf a s' h
  | error => exact h

end Preserves

/-- The store a procedure leaves, whether it returns or fails. -/
def final (m : EStateM ε σ α) (s : σ) : σ :=
  match m s with
  | .ok _ s' => s'
  | .error _ s' => s'

theorem ends_iff_final {m : EStateM ε σ α} {s : σ} {P : σ → Prop} :
    Ends m s (fun _ s' => P s') ↔ P (final m s) := by
  unfold Ends final
  cases m s <;> rfl

/-! ## Parts of a store -/

section Parts

variable {τ : Type} {get : σ → τ} {put : σ → τ → σ} {s : σ} {Q : Except ε α → σ → Prop}

/-- A procedure on the part of the store that `get` reads and `put` writes. -/
def zoom (get : σ → τ) (put : σ → τ → σ) (m : EStateM ε τ α) : EStateM ε σ α := fun s =>
  match m (get s) with
  | .ok a t => .ok a (put s t)
  | .error e t => .error e (put s t)

theorem ends_zoom {m : EStateM ε τ α} :
    Ends (zoom get put m) s Q ↔ Ends m (get s) fun r t => Q r (put s t) := by
  unfold Ends zoom
  cases m (get s) <;> rfl

theorem zoom_eq_ok_iff {m : EStateM ε τ α} {s' : σ} {a : α} :
    zoom get put m s = .ok a s' ↔ ∃ t, m (get s) = .ok a t ∧ put s t = s' := by
  unfold zoom
  cases m (get s) <;> grind

end Parts

end Ccbd.Lib
