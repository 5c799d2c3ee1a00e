import Mathlib.Data.List.Nodup
import Mathlib.Data.List.Perm.Basic
import Mathlib.Data.List.Sort

/-!
# Keyed tables

A table is a list of rows in insertion order, no two of which share a key. The
uniqueness of the key is a field of the structure, so every update below keeps
it. Updates are the relational ones: insert, update where, delete where.

## Main definitions

* `Table`: the rows with the proof that their keys are distinct.
* `Table.get?`, `Table.select`, `Table.selectOrderBy`: lookup by key and selection of rows.
* `Table.insert`, `Table.updateWhere`, `Table.modify`, `Table.deleteWhere`.
-/

namespace Ccbd.Lib

/-- Rows in insertion order with distinct keys. -/
@[ext] structure Table (κ ρ : Type) where
  rows : List (κ × ρ)
  nodup : (rows.map Prod.fst).Nodup

namespace Table

variable {κ ρ : Type} [DecidableEq κ]

instance [DecidableEq ρ] : DecidableEq (Table κ ρ) := fun s t =>
  decidable_of_iff (s.rows = t.rows) ⟨fun h => by cases s; cases t; simp_all, fun h => by rw [h]⟩

/-- The table without rows. -/
def empty : Table κ ρ := ⟨[], List.nodup_nil⟩

variable (t : Table κ ρ) (k : κ)

/-- The row with key `k`. -/
def get? : Option ρ := t.rows.lookup k

/-- The rows that satisfy `p`, in insertion order. -/
def select (p : κ → ρ → Bool) : List (κ × ρ) :=
  t.rows.filter fun r => p r.1 r.2

/-- The rows that satisfy `p`, ordered by `le`; rows `le` does not tell apart stay in
insertion order. -/
def selectOrderBy (p : κ → ρ → Bool) (le : κ × ρ → κ × ρ → Bool) : List (κ × ρ) :=
  (t.select p).insertionSort fun x y => le x y = true

/-- Appends a row; a table that has the key already is unchanged. -/
def insert (r : ρ) : Table κ ρ :=
  if h : k ∈ t.rows.map Prod.fst then t
  else ⟨t.rows ++ [(k, r)], by
    rw [List.map_append, List.nodup_append]
    exact ⟨t.nodup, by simp, by rintro a ha b hb rfl; exact h (by simp_all)⟩⟩

/-- Rewrites every row that satisfies `p`. -/
def updateWhere (p : κ → ρ → Bool) (f : ρ → ρ) : Table κ ρ :=
  ⟨t.rows.map fun r => (r.1, if p r.1 r.2 then f r.2 else r.2), by
    simpa [List.map_map, Function.comp_def] using t.nodup⟩

/-- Rewrites the row with key `k`. -/
def modify (f : ρ → ρ) : Table κ ρ :=
  t.updateWhere (fun k' _ => k' = k) f

/-- Removes every row that satisfies `p`. -/
def deleteWhere (p : κ → ρ → Bool) : Table κ ρ :=
  ⟨t.rows.filter fun r => !p r.1 r.2, t.nodup.sublist (List.filter_sublist.map _)⟩

/-- Removes the row with key `k`. -/
def delete : Table κ ρ := t.deleteWhere fun k' _ => k' = k

/-- Inserts the row, or replaces the one that has the key. -/
def upsert (r : ρ) : Table κ ρ :=
  if (t.get? k).isSome then t.modify k fun _ => r else t.insert k r

variable {t k} {r : ρ} {p : κ → ρ → Bool} {le : κ × ρ → κ × ρ → Bool}

/-! ## Lookups after updates -/

theorem lookup_eq_none {l : List (κ × ρ)} : l.lookup k = none ↔ k ∉ l.map Prod.fst := by
  rw [List.lookup_eq_none_iff]
  simp only [List.mem_map, not_exists, not_and, bne_iff_ne]
  exact ⟨fun h p hp e => h p hp e.symm, fun h p hp e => h p hp e.symm⟩

theorem get?_eq_none : t.get? k = none ↔ k ∉ t.rows.map Prod.fst := lookup_eq_none

theorem lookup_eq_some_iff {l : List (κ × ρ)} (hl : (l.map Prod.fst).Nodup) :
    l.lookup k = some r ↔ (k, r) ∈ l := by
  induction l with
  | nil => simp
  | cons hd tl ih =>
    obtain ⟨k', r'⟩ := hd
    have htl := (List.nodup_cons.mp hl).2
    by_cases e : k = k'
    · subst e
      have hk : (k, r) ∉ tl := fun h =>
        (List.nodup_cons.mp hl).1 (List.mem_map.mpr ⟨(k, r), h, rfl⟩)
      simp [hk, eq_comm]
    · have eb : (k == k') = false := by simpa using e
      simp [List.lookup_cons, eb, e, ih htl]

theorem get?_eq_some_iff : t.get? k = some r ↔ (k, r) ∈ t.rows := lookup_eq_some_iff t.nodup

theorem mem_select : (k, r) ∈ t.select p ↔ t.get? k = some r ∧ p k r = true := by
  simp [select, get?_eq_some_iff]

theorem mem_selectOrderBy : (k, r) ∈ t.selectOrderBy p le ↔ t.get? k = some r ∧ p k r = true := by
  rw [selectOrderBy, List.mem_insertionSort, mem_select]

omit [DecidableEq κ] in
theorem nodup_selectOrderBy (t : Table κ ρ) (p : κ → ρ → Bool) (le : κ × ρ → κ × ρ → Bool) :
    ((t.selectOrderBy p le).map Prod.fst).Nodup := by
  have selected : ((t.select p).map Prod.fst).Nodup := t.nodup.sublist (List.filter_sublist.map _)
  have sorted := (List.perm_insertionSort (fun x y => le x y = true) (t.select p)).map Prod.fst
  exact sorted.nodup_iff.mpr selected

theorem lookup_selectOrderBy :
    (t.selectOrderBy p le).lookup k = some r ↔ t.get? k = some r ∧ p k r = true :=
  (lookup_eq_some_iff (nodup_selectOrderBy t p le)).trans mem_selectOrderBy

theorem filter_orderedInsert {α : Type} {le : α → α → Prop} [DecidableRel le] [IsTrans α le]
    (p : α → Bool) (a : α) {l : List α} (sorted : l.Pairwise le) :
    (l.orderedInsert le a).filter p =
      if p a then (l.filter p).orderedInsert le a else l.filter p := by
  induction l with
  | nil => cases h : p a <;> simp [h]
  | cons b l ih =>
    rw [List.pairwise_cons] at sorted
    by_cases before : le a b
    · -- Everything in the list follows `a`, so `a` comes first in what is left of it as well.
      have first : ∀ c ∈ (b :: l).filter p, le a c := by
        intro c mem
        rcases List.mem_cons.mp (List.mem_filter.mp mem).1 with rfl | mem
        · exact before
        · exact IsTrans.trans a b c before (sorted.1 c mem)
      rw [List.orderedInsert_cons_of_le le l before, List.filter_cons]
      cases kept : (b :: l).filter p with
      | nil => rfl
      | cons c rest =>
        rw [List.orderedInsert_cons_of_le le rest (first c (by rw [kept]; exact List.mem_cons_self))]
    · rw [List.orderedInsert_of_not_le le l before, List.filter_cons, ih sorted.2, List.filter_cons]
      cases p a <;> cases p b <;> simp [before]

theorem filter_insertionSort {α : Type} (le : α → α → Prop) [DecidableRel le] [IsTrans α le]
    [Std.Total le] (p : α → Bool) (l : List α) :
    (l.insertionSort le).filter p = (l.filter p).insertionSort le := by
  induction l with
  | nil => rfl
  | cons a l ih =>
    rw [List.insertionSort_cons, filter_orderedInsert p a (List.pairwise_insertionSort le l), ih,
      List.filter_cons]
    split <;> rfl

/-- The first `n` elements of a list in strict order are those that fewer than `n` precede. -/
theorem mem_take_iff_countP_lt {α : Type} {lt : α → α → Bool} {l : List α} {x : α}
    (asymm : ∀ a b, lt a b = true → lt b a = false) (sorted : l.Pairwise (lt · ·)) (mem : x ∈ l)
    (n : Nat) : x ∈ l.take n ↔ l.countP (lt · x) < n := by
  have irrefl (a : α) : lt a a = false := by
    cases h : lt a a with
    | false => rfl
    | true => exact h.symm.trans (asymm a a h)
  induction l generalizing n with
  | nil => cases mem
  | cons a l ih =>
    obtain ⟨first, sorted⟩ := List.pairwise_cons.mp sorted
    cases n with
    | zero => simp
    | succ n =>
      rcases List.mem_cons.mp mem with rfl | mem
      · have none : l.countP (lt · x) = 0 :=
          List.countP_eq_zero.mpr fun b hb => by simp [asymm x b (first b hb)]
        simp [irrefl, none]
      · have before := first x mem
        have other : x ≠ a := by
          rintro rfl
          simp [irrefl] at before
        simp [before, other, ih sorted mem]

theorem head?_selectOrderBy_eq_none :
    (t.selectOrderBy p le).head? = none ↔ ∀ k r, t.get? k = some r → p k r = false := by
  rw [List.head?_eq_none_iff, List.eq_nil_iff_forall_not_mem]
  constructor
  · intro h k r hk
    simpa [hk] using mt mem_selectOrderBy.mpr (h (k, r))
  · rintro h ⟨k, r⟩ hm
    obtain ⟨hk, hp⟩ := mem_selectOrderBy.mp hm
    rw [h k r hk] at hp
    cases hp

@[simp] theorem get?_empty (k : κ) : (empty : Table κ ρ).get? k = none := rfl

theorem lookup_map_snd (l : List (κ × ρ)) (f : κ → ρ → ρ) (k : κ) :
    (l.map fun r => (r.1, f r.1 r.2)).lookup k = (l.lookup k).map (f k) := by
  induction l with
  | nil => rfl
  | cons hd tl ih =>
    obtain ⟨k', r'⟩ := hd
    by_cases e : k = k'
    · simp [e]
    · have eb : (k == k') = false := by simpa using e
      simp [List.lookup_cons, eb, ih]

@[simp] theorem get?_updateWhere (t : Table κ ρ) (p : κ → ρ → Bool) (f : ρ → ρ) (k : κ) :
    (t.updateWhere p f).get? k = (t.get? k).map fun r => if p k r then f r else r :=
  lookup_map_snd t.rows (fun k r => if p k r then f r else r) k

theorem get?_modify (t : Table κ ρ) (k k' : κ) (f : ρ → ρ) :
    (t.modify k f).get? k' = if k' = k then (t.get? k').map f else t.get? k' := by
  by_cases e : k' = k <;> simp [modify, e]

@[simp] theorem get?_modify_self (t : Table κ ρ) (k : κ) (f : ρ → ρ) :
    (t.modify k f).get? k = (t.get? k).map f := by
  simp [get?_modify]

theorem get?_modify_of_ne (t : Table κ ρ) {k' : κ} (f : ρ → ρ) (h : k' ≠ k) :
    (t.modify k f).get? k' = t.get? k' := by
  simp [get?_modify, h]

theorem modify_eq_self {f : ρ → ρ} : t.modify k f = t ↔ ∀ r, t.get? k = some r → f r = r := by
  constructor
  · intro same r found
    have written := get?_modify_self t k f
    rw [same, found, Option.map_some, Option.some.injEq] at written
    exact written.symm
  · intro same
    refine Table.ext ((List.map_congr_left fun row mem => ?_).trans (List.map_id _))
    obtain ⟨k', r⟩ := row
    by_cases e : k' = k
    · subst e
      simp [same r (get?_eq_some_iff.mpr mem)]
    · simp [e]

theorem modify_modify (t : Table κ ρ) (k : κ) (f g : ρ → ρ) :
    (t.modify k f).modify k g = t.modify k (g ∘ f) := by
  refine Table.ext ((List.map_map ..).trans (List.map_congr_left fun row _ => ?_))
  by_cases e : row.1 = k <;> simp [e]

@[simp] theorem get?_deleteWhere (t : Table κ ρ) (p : κ → ρ → Bool) (k : κ) :
    (t.deleteWhere p).get? k = (t.get? k).filter fun r => !p k r := by
  ext r
  rw [get?_eq_some_iff, Option.filter_eq_some_iff, get?_eq_some_iff]
  simp [deleteWhere]

theorem get?_delete (t : Table κ ρ) (k k' : κ) :
    (t.delete k).get? k' = if k' = k then none else t.get? k' := by
  cases h : t.get? k' <;> by_cases e : k' = k <;> simp [delete, h, e]

theorem rows_insert (h : t.get? k = none) (r : ρ) : (t.insert k r).rows = t.rows ++ [(k, r)] := by
  have fresh : k ∉ t.rows.map Prod.fst := get?_eq_none.mp h
  rw [insert, dif_neg fresh]

theorem mem_insert {x : κ × ρ} (h : x ∈ (t.insert k r).rows) : x ∈ t.rows ∨ x = (k, r) := by
  unfold insert at h
  split at h
  · exact .inl h
  · simpa using h

theorem get?_insert (h : t.get? k = none) (r : ρ) (k' : κ) :
    (t.insert k r).get? k' = if k' = k then some r else t.get? k' := by
  have hk : k ∉ t.rows.map Prod.fst := get?_eq_none.mp h
  rw [insert, dif_neg hk]
  simp only [get?, List.lookup_append]
  by_cases e : k' = k
  · subst e
    have : t.rows.lookup k' = none := h
    simp [this]
  · have eb : (k' == k) = false := by simpa using e
    simp [List.lookup_cons, eb, e]

theorem get?_upsert (t : Table κ ρ) (k : κ) (r : ρ) (k' : κ) :
    (t.upsert k r).get? k' = if k' = k then some r else t.get? k' := by
  unfold upsert
  split_ifs with hk e e
  · obtain ⟨s, hs⟩ := Option.isSome_iff_exists.mp hk
    simp [e, hs]
  · exact get?_modify_of_ne t _ e
  · rw [get?_insert (by simpa using hk), if_pos e]
  · rw [get?_insert (by simpa using hk), if_neg e]

theorem upsert_of_get? (h : t.get? k = some r) : t.upsert k r = t := by
  rw [upsert, if_pos (by simp [h])]
  have same : ∀ row ∈ t.rows, (row.1, if row.1 = k then r else row.2) = row := by
    rintro ⟨k', r'⟩ hm
    by_cases e : k' = k
    · subst e
      rw [get?_eq_some_iff.mpr hm] at h
      simpa using h.symm
    · simp [e]
  obtain ⟨rows, nodup⟩ := t
  simp only [modify, updateWhere, mk.injEq, decide_eq_true_eq]
  exact (List.map_congr_left same).trans (List.map_id _)

end Table

/-! ## Tables with generated keys -/

/-- Rows keyed by a counter that never goes back: keys grow along the list and
none exceeds `last`, the last key handed out. -/
structure AutoTable (ρ : Type) where
  rows : List (Nat × ρ)
  last : Nat
  sorted : rows.Pairwise fun a b => a.1 < b.1
  bounded : ∀ r ∈ rows, r.1 ≤ last

namespace AutoTable

variable {ρ : Type}

/-- The table without rows, whose first key will be `1`. -/
def empty : AutoTable ρ := ⟨[], 0, List.Pairwise.nil, by simp⟩

variable (t : AutoTable ρ) (p : Nat → ρ → Bool)

/-- Appends a row under the next key. -/
def append (r : ρ) : AutoTable ρ :=
  ⟨t.rows ++ [(t.last + 1, r)], t.last + 1, by
    rw [List.pairwise_append]
    refine ⟨t.sorted, by simp, ?_⟩
    intro a ha b hb
    rw [List.mem_singleton.mp hb]
    exact Nat.lt_succ_of_le (t.bounded a ha), by
    intro r' hr'
    rcases List.mem_append.mp hr' with h | h
    · exact Nat.le_succ_of_le (t.bounded r' h)
    · simp_all⟩

/-- Removes every row that satisfies `p`; the counter stays. -/
def deleteWhere : AutoTable ρ :=
  ⟨t.rows.filter fun r => !p r.1 r.2, t.last, t.sorted.sublist List.filter_sublist,
    fun r hr => t.bounded r (List.mem_of_mem_filter hr)⟩

/-- Rewrites every row that satisfies `p`. -/
def updateWhere (f : ρ → ρ) : AutoTable ρ :=
  ⟨t.rows.map fun r => (r.1, if p r.1 r.2 then f r.2 else r.2), t.last,
    List.pairwise_map.mpr t.sorted, by
      intro r hr
      obtain ⟨r₀, stored, rfl⟩ := List.mem_map.mp hr
      exact t.bounded r₀ stored⟩

/-- The rows that satisfy `p`, oldest first. -/
def select : List (Nat × ρ) :=
  t.rows.filter fun r => p r.1 r.2

/-- The row with the greatest key among those that satisfy `p`. -/
def latest? : Option (Nat × ρ) := (t.select p).getLast?

variable {t p} {k : Nat} {r : ρ} {x : Nat × ρ}

theorem lookup_eq_some : t.rows.lookup k = some r ↔ (k, r) ∈ t.rows := by
  refine Table.lookup_eq_some_iff ?_
  rw [List.Nodup, List.pairwise_map]
  exact t.sorted.imp fun less => Nat.ne_of_lt less

theorem mem_append_of_mem (stored : x ∈ t.rows) (r : ρ) : x ∈ (t.append r).rows :=
  List.mem_append_left _ stored

theorem mem_append_new (t : AutoTable ρ) (r : ρ) : (t.last + 1, r) ∈ (t.append r).rows :=
  List.mem_append_right _ (List.mem_singleton_self _)

theorem mem_updateWhere (stored : x ∈ t.rows) (p : Nat → ρ → Bool) (f : ρ → ρ) :
    (x.1, if p x.1 x.2 then f x.2 else x.2) ∈ (t.updateWhere p f).rows :=
  List.mem_map.mpr ⟨x, stored, rfl⟩

theorem mem_deleteWhere : x ∈ (t.deleteWhere p).rows ↔ x ∈ t.rows ∧ p x.1 x.2 = false := by
  simp [deleteWhere]

theorem mem_select : (k, r) ∈ t.select p ↔ (k, r) ∈ t.rows ∧ p k r = true := by
  simp [select]

theorem latest?_eq_none (h : t.latest? p = none) (stored : (k, r) ∈ t.rows) : p k r = false := by
  have none : t.select p = [] := List.getLast?_eq_none_iff.mp h
  by_contra sat
  have mem : (k, r) ∈ t.select p := mem_select.mpr ⟨stored, by simpa using sat⟩
  rw [none] at mem
  cases mem

theorem latest?_eq_some (h : t.latest? p = some (k, r)) :
    (k, r) ∈ t.rows ∧ p k r = true ∧
      ∀ k' r', (k', r') ∈ t.rows → p k' r' = true → (k', r') = (k, r) ∨ k' < k := by
  obtain ⟨earlier, split⟩ := List.getLast?_eq_some_iff.mp h
  have mem : (k, r) ∈ t.select p := by simp [split]
  obtain ⟨stored, sat⟩ := mem_select.mp mem
  refine ⟨stored, sat, fun k' r' stored' sat' => ?_⟩
  have mem' : (k', r') ∈ earlier ++ [(k, r)] := split ▸ mem_select.mpr ⟨stored', sat'⟩
  have sorted : (earlier ++ [(k, r)]).Pairwise fun x y => x.1 < y.1 :=
    split ▸ t.sorted.sublist List.filter_sublist
  rcases List.mem_append.mp mem' with before | last
  · exact .inr ((List.pairwise_append.mp sorted).2.2 _ before _ (List.mem_singleton_self _))
  · exact .inl (List.mem_singleton.mp last)

variable {t' t'' : AutoTable ρ}

/-- The table is a later one: no key was given out twice, and a row that is left is as it was. -/
def Ages (t t' : AutoTable ρ) : Prop :=
  t.last ≤ t'.last ∧ ∀ x ∈ t'.rows, x.1 ≤ t.last → x ∈ t.rows

theorem Ages.refl (t : AutoTable ρ) : Ages t t := ⟨le_rfl, fun _ stored _ => stored⟩

theorem Ages.trans (h : Ages t t') (h' : Ages t' t'') : Ages t t'' :=
  ⟨h.1.trans h'.1, fun x stored old => h.2 x (h'.2 x stored (old.trans h.1)) old⟩

theorem ages_append (t : AutoTable ρ) (r : ρ) : Ages t (t.append r) := by
  refine ⟨Nat.le_succ _, fun x stored old => ?_⟩
  rcases List.mem_append.mp stored with before | new
  · exact before
  · rw [List.mem_singleton.mp new] at old
    exact absurd old (Nat.not_succ_le_self _)

theorem ages_deleteWhere (t : AutoTable ρ) (p : Nat → ρ → Bool) : Ages t (t.deleteWhere p) :=
  ⟨le_rfl, fun _ stored _ => (mem_deleteWhere.mp stored).1⟩

end AutoTable

end Ccbd.Lib
