import Mathlib.Data.List.Basic

/-!
# Reading a file line by line

A loop over the lines of a list from an offset on. The last line may lack its separator. A
reader that comes back later resumes at the offset it has read to: inside a line it skips to
the next one.

Reading a prefix first and resuming afterwards is the same as reading everything at once,
unless the prefix ends inside a line whose beginning is read: its rest is skipped.
-/

namespace Ccbd.Lib.Lines

variable {β σ : Type} [DecidableEq β]

/-- Where the line that contains the offset ends, without its separator. -/
def lineEnd (sep : β) (xs : List β) (start : Nat) : Nat :=
  start + (xs.drop start).findIdx (· = sep)

/-- Where the line after it begins. -/
def nextLine (sep : β) (xs : List β) (start : Nat) : Nat :=
  if lineEnd sep xs start < xs.length then lineEnd sep xs start + 1 else lineEnd sep xs start

def slice (xs : List β) (start stop : Nat) : List β := (xs.take stop).drop start

variable {m n start : Nat}

theorem lineEnd_le {sep : β} {xs : List β} (h : start ≤ xs.length) :
    lineEnd sep xs start ≤ xs.length := by
  have found : (xs.drop start).findIdx (· = sep) ≤ (xs.drop start).length :=
    List.findIdx_le_length
  rw [List.length_drop] at found
  unfold lineEnd
  omega

theorem le_lineEnd (sep : β) (xs : List β) (start : Nat) : start ≤ lineEnd sep xs start :=
  Nat.le_add_right ..

theorem lt_nextLine {sep : β} {xs : List β} (h : start < xs.length) :
    start < nextLine sep xs start := by
  have after := le_lineEnd sep xs start
  unfold nextLine
  split_ifs <;> omega

/-- What the loop does with the line at the offset. `handle` gets the list up to the end of
the line, the line, and where the next one begins; empty lines are passed over. -/
def visit (sep : β) (handle : List β → List β → Nat → σ → σ) (xs : List β) (start : Nat)
    (acc : σ) : σ :=
  if lineEnd sep xs start = start then acc
  else
    handle (xs.take (lineEnd sep xs start)) (slice xs start (lineEnd sep xs start))
      (nextLine sep xs start) acc

def foldLines (sep : β) (handle : List β → List β → Nat → σ → σ) (xs : List β) (start : Nat)
    (acc : σ) : σ :=
  if h : start < xs.length then
    have : xs.length - nextLine sep xs start < xs.length - start := by
      have : start < nextLine sep xs start := lt_nextLine h
      omega
    foldLines sep handle xs (nextLine sep xs start) (visit sep handle xs start acc)
  else acc
termination_by xs.length - start

/-- Where a reader that has read up to `consumed` goes on. -/
def resume (sep : β) (xs : List β) (consumed : Nat) : Nat :=
  let start := min consumed xs.length
  if 0 < start ∧ start < xs.length ∧ xs[start - 1]? ≠ some sep then nextLine sep xs start else start

/-- A line begins at the offset. -/
def AtStart (sep : β) (xs : List β) (n : Nat) : Prop := n = 0 ∨ xs[n - 1]? = some sep

section

variable {sep : β} {xs : List β}

/-! ## Where lines end -/

theorem getElem?_lineEnd (h : lineEnd sep xs start < xs.length) :
    xs[lineEnd sep xs start]? = some sep := by
  unfold lineEnd at h ⊢
  have within : (xs.drop start).findIdx (· = sep) < (xs.drop start).length := by
    rw [List.length_drop]
    omega
  have found := List.findIdx_getElem (w := within)
  rw [← List.getElem?_drop, List.getElem?_eq_getElem within]
  simpa using found

theorem ne_of_lt_lineEnd {i : Nat} (after : start ≤ i) (before : i < lineEnd sep xs start) :
    xs[i]? ≠ some sep := by
  unfold lineEnd at before
  have early : i - start < (xs.drop start).findIdx (· = sep) := by omega
  have other := List.not_of_lt_findIdx early
  intro same
  rw [show i = start + (i - start) by omega, ← List.getElem?_drop,
    List.getElem?_eq_some_iff] at same
  obtain ⟨_, same⟩ := same
  simp [same] at other

theorem lineEnd_eq {stop : Nat} (after : start ≤ stop) (within : stop ≤ xs.length)
    (none : ∀ i, start ≤ i → i < stop → xs[i]? ≠ some sep)
    (here : stop = xs.length ∨ xs[stop]? = some sep) : lineEnd sep xs start = stop := by
  have low := le_lineEnd sep xs start
  have high : lineEnd sep xs start ≤ xs.length := lineEnd_le (by omega)
  rcases Nat.lt_trichotomy (lineEnd sep xs start) stop with less | same | more
  · exact absurd (getElem?_lineEnd (by omega)) (none _ low less)
  · exact same
  · rcases here with last | found
    · omega
    · exact absurd found (ne_of_lt_lineEnd after more)

theorem lineEnd_of_inside (after : start ≤ m) (inside : m ≤ lineEnd sep xs start)
    (within : start ≤ xs.length) : lineEnd sep xs m = lineEnd sep xs start := by
  refine lineEnd_eq inside (lineEnd_le within) ?_ ?_
  · intro i low high
    exact ne_of_lt_lineEnd (by omega) high
  · have bound : lineEnd sep xs start ≤ xs.length := lineEnd_le within
    by_cases last : lineEnd sep xs start = xs.length
    · exact .inl last
    · exact .inr (getElem?_lineEnd (by omega))

theorem lineEnd_take (after : start ≤ m) :
    lineEnd sep (xs.take m) start = min m (lineEnd sep xs start) := by
  unfold lineEnd
  rw [List.drop_take, List.findIdx_take]
  omega

/-! ## Where lines begin -/

theorem AtStart.lineEnd_lt (h : AtStart sep xs m) (after : start < m) :
    lineEnd sep xs start < m := by
  rcases h with zero | found
  · omega
  · by_contra late
    exact ne_of_lt_lineEnd (show start ≤ m - 1 by omega) (by omega) found

omit [DecidableEq β] in
theorem atStart_take (within : n ≤ m) : AtStart sep (xs.take m) n ↔ AtStart sep xs n := by
  unfold AtStart
  rw [List.getElem?_take]
  by_cases zero : n = 0
  · simp [zero]
  · rw [if_pos (by omega)]

theorem exists_atStart (within : m ≤ xs.length) :
    ∃ a ≤ m, AtStart sep xs a ∧ m ≤ lineEnd sep xs a := by
  induction m with
  | zero => exact ⟨0, Nat.le_refl 0, .inl rfl, Nat.zero_le _⟩
  | succ m ih =>
    by_cases here : AtStart sep xs (m + 1)
    · exact ⟨m + 1, Nat.le_refl _, here, le_lineEnd ..⟩
    · obtain ⟨a, low, start, high⟩ := ih (by omega)
      refine ⟨a, by omega, start, ?_⟩
      -- The line goes on: what precedes `m + 1` is no separator.
      by_contra ends
      have last : lineEnd sep xs a = m := by omega
      have found : xs[lineEnd sep xs a]? = some sep := getElem?_lineEnd (by omega)
      rw [last] at found
      exact here (.inr found)

theorem nextLine_of_inside (after : start ≤ m) (inside : m ≤ lineEnd sep xs start)
    (within : start ≤ xs.length) : nextLine sep xs m = nextLine sep xs start := by
  rw [nextLine, nextLine, lineEnd_of_inside after inside within]

/-! ## Resuming -/

theorem resume_of_atStart (within : n ≤ xs.length) (h : AtStart sep xs n) :
    resume sep xs n = n := by
  unfold resume
  rw [Nat.min_eq_left within]
  rcases h with zero | found
  · simp [zero]
  · simp [found]

theorem resume_length : resume sep xs xs.length = xs.length := by
  simp [resume]

theorem resume_of_inside (within : n < xs.length) (h : ¬ AtStart sep xs n) :
    resume sep xs n = nextLine sep xs n := by
  unfold AtStart at h
  rw [not_or] at h
  unfold resume
  rw [Nat.min_eq_left (by omega), if_pos ⟨by omega, within, h.2⟩]

theorem resume_take {c : Nat} (before : c ≤ m) (within : m ≤ xs.length) {a : Nat}
    (start : AtStart sep xs a) (low : c ≤ a) (high : a ≤ m) :
    resume sep (xs.take m) c = resume sep xs c ∧ resume sep xs c ≤ a := by
  have length : (xs.take m).length = m := by simp [within]
  by_cases here : AtStart sep xs c
  · rw [resume_of_atStart (by omega) here,
      resume_of_atStart (by omega) ((atStart_take before).mpr here)]
    exact ⟨rfl, low⟩
  · -- The line that `c` is in ends before `a`, in the prefix as well.
    have ends : lineEnd sep xs c < a := start.lineEnd_lt (Nat.lt_of_le_of_ne low (by
      rintro rfl
      exact here start))
    have after := le_lineEnd sep xs c
    rw [resume_of_inside (by omega) here,
      resume_of_inside (by omega) (mt (atStart_take before).mp here), nextLine, nextLine,
      lineEnd_take before, length]
    split_ifs <;> omega

end

section

variable {sep : β} {handle : List β → List β → Nat → σ → σ} {xs : List β}

/-! ## The loop -/

theorem foldLines_of_le (h : xs.length ≤ start) (acc : σ) :
    foldLines sep handle xs start acc = acc := by
  rw [foldLines, dif_neg (by omega)]

theorem foldLines_of_lt (h : start < xs.length) (acc : σ) :
    foldLines sep handle xs start acc =
      foldLines sep handle xs (nextLine sep xs start) (visit sep handle xs start acc) := by
  rw [foldLines, dif_pos h]

theorem foldLines_comm {f : σ → σ}
    (comm : ∀ upto line next acc, handle upto line next (f acc) = f (handle upto line next acc))
    (start : Nat) (acc : σ) :
    foldLines sep handle xs start (f acc) = f (foldLines sep handle xs start acc) := by
  fun_induction foldLines sep handle xs start acc with
  | case1 start acc h _ ih =>
    rw [foldLines_of_lt h, ← ih]
    congr 1
    unfold visit
    split_ifs
    · rfl
    · exact comm ..
  | case2 start acc h => rw [foldLines, dif_neg h]

theorem foldLines_keeps {P : σ → Prop}
    (keeps : ∀ upto line next acc, P acc → P (handle upto line next acc)) (start : Nat) {acc : σ}
    (h : P acc) : P (foldLines sep handle xs start acc) := by
  fun_induction foldLines sep handle xs start acc with
  | case1 start acc _ _ ih =>
    refine ih ?_
    unfold visit
    split_ifs
    · exact h
    · exact keeps _ _ _ _ h
  | case2 => exact h

/-- Reading up to the beginning of a line and going on there. -/
theorem foldLines_take (after : start ≤ m) (within : m ≤ xs.length)
    (boundary : m = start ∨ AtStart sep xs m) (acc : σ) :
    foldLines sep handle xs start acc =
      foldLines sep handle xs m (foldLines sep handle (xs.take m) start acc) := by
  have length : (xs.take m).length = m := by simp [within]
  induction gap : m - start using Nat.strongRecOn generalizing start acc with
  | ind gap ih =>
    rcases Nat.eq_or_lt_of_le after with rfl | before
    · have nothing : foldLines sep handle (xs.take start) start acc = acc :=
        foldLines_of_le (by omega) acc
      rw [nothing]
    · have here : AtStart sep xs m := boundary.resolve_left (by omega)
      have ends : lineEnd sep xs start < m := here.lineEnd_lt before
      have low := le_lineEnd sep xs start
      have same : lineEnd sep (xs.take m) start = lineEnd sep xs start := by
        rw [lineEnd_take after]
        omega
      have next : nextLine sep xs start = lineEnd sep xs start + 1 := if_pos (by omega)
      have next' : nextLine sep (xs.take m) start = lineEnd sep xs start + 1 := by
        rw [nextLine, same, length, if_pos ends]
      have visited : visit sep handle (xs.take m) start acc = visit sep handle xs start acc := by
        unfold visit slice
        rw [same, next, next', List.take_take, Nat.min_eq_left (by omega)]
      have step : foldLines sep handle (xs.take m) start acc =
          foldLines sep handle (xs.take m) (lineEnd sep xs start + 1)
            (visit sep handle xs start acc) := by
        rw [foldLines_of_lt (by omega), next', visited]
      rw [foldLines_of_lt (by omega), next, step]
      exact ih _ (by omega) (by omega) (.inr here) _ rfl

theorem foldLines_take_inside {a : Nat} (after : a < m) (within : m ≤ xs.length)
    (inside : m ≤ lineEnd sep xs a) (acc : σ) :
    foldLines sep handle (xs.take m) a acc = handle (xs.take m) (slice xs a m) m acc := by
  have length : (xs.take m).length = m := by simp [within]
  have stop : lineEnd sep (xs.take m) a = m := by
    rw [lineEnd_take (by omega)]
    omega
  have next : nextLine sep (xs.take m) a = m := by
    rw [nextLine, stop, length, if_neg (by omega)]
  rw [foldLines_of_lt (by omega), next, foldLines_of_le (by omega)]
  unfold visit slice
  rw [stop, next, if_neg (by omega), List.take_take, Nat.min_self]

/-- The line that is cut off at `m` is handled alike in part and as a whole. -/
def CutAlike (sep : β) (handle : List β → List β → Nat → σ → σ) (xs : List β) (c m : Nat) : Prop :=
  ∀ a, c ≤ a → a < m → AtStart sep xs a → m ≤ lineEnd sep xs a → ∀ acc,
    handle (xs.take m) (slice xs a m) m acc =
      handle (xs.take (lineEnd sep xs a)) (slice xs a (lineEnd sep xs a)) (nextLine sep xs a) acc

theorem foldLines_resume {c : Nat} (before : c ≤ m) (within : m ≤ xs.length)
    (alike : m < xs.length → CutAlike sep handle xs c m) (acc : σ) :
    foldLines sep handle xs (resume sep xs m)
        (foldLines sep handle (xs.take m) (resume sep (xs.take m) c) acc) =
      foldLines sep handle xs (resume sep xs c) acc := by
  have length : (xs.take m).length = m := by simp [within]
  rcases Nat.eq_or_lt_of_le within with rfl | more
  · rw [resume_length, List.take_length, foldLines_of_le (Nat.le_refl _)]
  by_cases here : AtStart sep xs m
  · -- The prefix ends with a line.
    obtain ⟨same, low⟩ := resume_take before within here before (Nat.le_refl m)
    rw [same, resume_of_atStart within here, ← foldLines_take low within (.inr here)]
  obtain ⟨a, below, start, inside⟩ : ∃ a ≤ m, AtStart sep xs a ∧ m ≤ lineEnd sep xs a :=
    exists_atStart within
  have skipped : resume sep xs m = nextLine sep xs a := by
    rw [resume_of_inside more here, nextLine_of_inside below inside (by omega)]
  have cut : a < m := Nat.lt_of_le_of_ne below (by
    rintro rfl
    exact here start)
  rcases Nat.lt_or_ge a c with entered | fresh
  · -- The line was entered before: nothing of it is read any more.
    have inner : ¬ AtStart sep xs c := fun other => by
      have := other.lineEnd_lt entered
      omega
    have ends : lineEnd sep xs c = lineEnd sep xs a :=
      lineEnd_of_inside (by omega) (by omega) (by omega)
    have nothing : resume sep (xs.take m) c = m := by
      rcases Nat.eq_or_lt_of_le before with rfl | early
      · have whole : resume sep (xs.take c) (xs.take c).length = (xs.take c).length := resume_length
        rwa [length] at whole
      · rw [resume_of_inside (by omega) (mt (atStart_take before).mp inner), nextLine,
          lineEnd_take before, length]
        split_ifs <;> omega
    have unread : foldLines sep handle (xs.take m) m acc = acc := foldLines_of_le (by omega) acc
    have next : nextLine sep xs c = nextLine sep xs a :=
      nextLine_of_inside (by omega) (by omega) (by omega)
    rw [nothing, unread, skipped, resume_of_inside (by omega) inner, next]
  · -- Its visible part was handled, its rest is skipped.
    obtain ⟨same, low⟩ := resume_take before within start fresh below
    have visible : foldLines sep handle (xs.take m) (resume sep xs c) acc =
        handle (xs.take m) (slice xs a m) m
          (foldLines sep handle (xs.take a) (resume sep xs c) acc) := by
      rw [foldLines_take low (by omega) (.inr ((atStart_take below).mpr start)), List.take_take,
        Nat.min_eq_left below, foldLines_take_inside cut within inside]
    rw [same, skipped, visible, alike more a fresh cut start inside,
      foldLines_take low (by omega) (.inr start), foldLines_of_lt (show a < xs.length by omega),
      visit, if_neg (by omega)]

end

end Ccbd.Lib.Lines
