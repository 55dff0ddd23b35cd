import Mathlib.Data.List.MinMax
import Mathlib.Data.List.Sort

/-!
# Ranks with ties

The rank of an element of a list is the number of elements whose value is at
least its own: the greatest has rank `1`, unless it is tied, in which case all
the tied elements have the rank of the last of them. So the elements of rank at
most `n` are at most `n` (`countP_rank_le`), and they are `n` exactly when the list
can be cut between its `n` greatest values and the others (`exists_cut`).

A *page* of a list is the start of the list in an order, up to a limit if there is one
(`IsPage`): what is left out comes after all of it, and nothing is left out of a page that
is not full.
-/

namespace Ranking

variable {α β : Type*} [LinearOrder β] (f : α → β) (l : List α)

/-- The number of elements with a value at least that of `x`. -/
def rank (x : α) : ℕ := l.countP fun y => f x ≤ f y

variable {f l} {x y : α} {n : ℕ} {τ : β}

theorem exists_forall_le (h : l ≠ []) : ∃ x ∈ l, ∀ y ∈ l, f y ≤ f x := by
  obtain ⟨x, hx⟩ := Option.ne_none_iff_exists'.1 (mt (List.argmax_eq_none (f := f)).1 h)
  exact ⟨x, List.argmax_mem hx, fun y hy => List.le_of_mem_argmax hy hx⟩

/-- Disjoint conditions that imply a third. -/
theorem countP_add_le {p p' q : α → Bool} (hdisj : ∀ y ∈ l, p y → ¬p' y) (hp : ∀ y ∈ l, p y → q y)
    (hp' : ∀ y ∈ l, p' y → q y) : l.countP p + l.countP p' ≤ l.countP q := by
  have hnot : l.countP p' ≤ l.countP fun y => q y && !p y := by
    refine List.countP_mono_left fun y hy hpy => ?_
    simp only [Bool.and_eq_true, Bool.not_eq_true', hp' y hy hpy, true_and]
    exact Bool.eq_false_iff.2 fun h => hdisj y hy h hpy
  have hand : l.countP p ≤ l.countP fun y => q y && p y := by
    refine List.countP_mono_left fun y hy hpy => ?_
    rw [hp y hy hpy, hpy, Bool.and_self]
  have hsplit := List.countP_eq_countP_filter_add l q p
  rw [List.countP_filter, List.countP_filter] at hsplit
  omega

theorem rank_le_rank (h : f x ≤ f y) : rank f l y ≤ rank f l x := by
  refine List.countP_mono_left fun z _ hz => ?_
  simp only [decide_eq_true_eq] at hz ⊢
  exact h.trans hz

/-- At most `n` elements have rank at most `n`. -/
theorem countP_rank_le : l.countP (fun x => rank f l x ≤ n) ≤ n := by
  by_cases hnil : l.filter (fun x => rank f l x ≤ n) = []
  · rw [List.countP_eq_length_filter, hnil]
    exact Nat.zero_le n
  · -- All of them are at least the least, which counts them in its rank.
    obtain ⟨x, hx, hmin⟩ := exists_forall_le (f := OrderDual.toDual ∘ f) hnil
    have hx : x ∈ l ∧ rank f l x ≤ n := by simpa using hx
    refine le_trans (List.countP_mono_left fun y hy hyn => ?_) hx.2
    exact decide_eq_true (hmin y (List.mem_filter.2 ⟨hy, hyn⟩))

/-- Where `n` elements are above the cut, they are the ones of rank at most `n`. -/
theorem rank_le_iff (hτ : l.countP (fun x => τ < f x) = n) (hx : x ∈ l) :
    rank f l x ≤ n ↔ τ < f x := by
  constructor
  · intro hrank
    by_contra hle
    -- `x` and the `n` elements above the cut.
    have hadd : l.countP (fun y => τ < f y) + l.countP (fun y => ¬τ < f y ∧ f x ≤ f y) ≤
        rank f l x := by
      refine countP_add_le ?_ ?_ ?_
      · intro y _ hy
        simpa using fun h => absurd (of_decide_eq_true hy) (not_lt.2 h)
      · intro y _ hy
        simpa using (not_lt.1 hle).trans (of_decide_eq_true hy).le
      · intro y _ hy
        simpa using (of_decide_eq_true hy).2
    have hpos : 0 < l.countP (fun y => ¬τ < f y ∧ f x ≤ f y) :=
      List.countP_pos_iff.2 ⟨x, hx, by simpa using hle⟩
    omega
  · intro hlt
    rw [← hτ]
    refine List.countP_mono_left fun y _ hy => ?_
    simp only [decide_eq_true_eq] at hy ⊢
    exact hlt.trans_le hy

/-- Where `n` of more elements have rank at most `n`, there is a cut below them. -/
theorem exists_cut (h : l.countP (fun x => rank f l x ≤ n) = n) (hn : n < l.length) :
    ∃ τ, l.countP (fun x => τ < f x) = n := by
  have hnil : l.filter (fun x => n < rank f l x) ≠ [] := by
    intro hnil
    have hall : l.countP (fun x => rank f l x ≤ n) = l.length := by
      refine List.countP_eq_length.2 fun x hx => ?_
      simpa using List.filter_eq_nil_iff.1 hnil x hx
    omega
  obtain ⟨x, hx, hmax⟩ := exists_forall_le (f := f) hnil
  have hx : x ∈ l ∧ n < rank f l x := by simpa using hx
  refine ⟨f x, Eq.trans (List.countP_congr fun y hy => ?_) h⟩
  simp only [decide_eq_true_eq]
  constructor
  · intro hlt
    by_contra hrank
    exact absurd (hmax y (by simpa using ⟨hy, not_le.1 hrank⟩)) (not_le.2 hlt)
  · intro hrank
    by_contra hle
    exact absurd (hx.2.trans_le (rank_le_rank (not_lt.1 hle))) (not_lt.2 hrank)

/-! ## Pages -/

/-- The start of a list, up to a limit if there is one. -/
def cut (limit : Option ℕ) (l : List α) : List α :=
  match limit with
  | some n => l.take n
  | none => l

/-- The list is sorted by `r`, and cut into a page `kept` and the rest. -/
structure IsPage (r : α → α → Prop) (limit : Option ℕ) (l kept left : List α) : Prop where
  perm : (kept ++ left).Perm l
  sorted : kept.Pairwise r
  length_le : ∀ n ∈ limit, kept.length ≤ n
  before : ∀ a ∈ kept, ∀ b ∈ left, r a b
  nothing_left : (∀ n ∈ limit, kept.length < n) → left = []

section

variable {r : α → α → Prop} {limit : Option ℕ} {kept left : List α}

/-- A sorted list, cut anywhere. -/
theorem isPage_of_append (hperm : (kept ++ left).Perm l) (hsorted : (kept ++ left).Pairwise r)
    (hlength : ∀ n ∈ limit, kept.length ≤ n) (hleft : (∀ n ∈ limit, kept.length < n) → left = []) :
    IsPage r limit l kept left := by
  rw [List.pairwise_append] at hsorted
  exact ⟨hperm, hsorted.1, hlength, hsorted.2.2, hleft⟩

theorem exists_isPage [DecidableRel r] [Std.Total r] [IsTrans α r] (limit : Option ℕ) (l : List α) :
    ∃ left, IsPage r limit l (cut limit (l.insertionSort r)) left := by
  have hperm := List.perm_insertionSort r l
  have hsorted := List.pairwise_insertionSort r l
  cases limit with
  | some n =>
    refine ⟨(l.insertionSort r).drop n, isPage_of_append ?_ ?_ ?_ ?_⟩
    · rwa [cut, List.take_append_drop]
    · rwa [cut, List.take_append_drop]
    · rintro _ ⟨⟩
      exact List.length_take_le n _
    · intro hlt
      have hlt : ((l.insertionSort r).take n).length < n := hlt n rfl
      rw [List.length_take, min_lt_iff, or_iff_right (lt_irrefl n)] at hlt
      exact List.drop_eq_nil_of_le hlt.le
  | none =>
    refine ⟨[], isPage_of_append ?_ ?_ ?_ fun _ => rfl⟩
    · rwa [cut, List.append_nil]
    · rwa [cut, List.append_nil]
    · exact fun n h => by cases h

/-- How many elements a page has. -/
theorem length_cut (limit : Option ℕ) (l : List α) :
    (cut limit l).length = limit.elim l.length (min · l.length) := by
  cases limit with
  | some n => exact List.length_take
  | none => rfl

end

end Ranking
