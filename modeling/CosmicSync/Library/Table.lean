import Mathlib.Data.List.Sort
import Mathlib.Data.List.Perm.Basic
import Mathlib.Data.List.Forall2

/-!
# Tables and statements

A table is the list of its rows in the order they were inserted, and the
statements of a relational store are functions on such lists: `updateWhere`,
`deleteWhere`, appending a row, and the queries.

A query that states no order hands out the matching rows in an order of the
engine's choosing. The choice is a `Planner`: for every number of matching rows,
a permutation of their positions. A result proved for every planner holds
whatever order the engine returns; and since a planner only sees positions, two
tables whose matching rows correspond position by position give corresponding
answers (`fetchOptional_rel`, `fetchAllBy_rel`).

* `fetchOptional`, `fetchAll`: a query without an order, its first row or all of them.
* `fetchAllBy`, `fetchFirstBy`: `ORDER BY`, all the rows or the first one.
* `maxOf`: `MAX` of a column over the matching rows.
* `Keyed`, `upsert`: unique keys, and the statement that inserts a row or updates the
  one that has its key.
-/

namespace Table

variable {α β : Type*}

/-! ## Planners -/

/-- The order in which the matching rows are handed out: for `n` of them, a
    permutation of the positions `0, …, n - 1`. -/
structure Planner where
  order : ℕ → List ℕ
  order_perm : ∀ n, (order n).Perm (List.range n)

namespace Planner

/-- The planner that keeps the order of insertion. -/
def insertion : Planner := ⟨List.range, fun _ => .rfl⟩

/-- The rows `l` in the order of the planner. -/
def arrange (pl : Planner) (l : List α) : List α := (pl.order l.length).filterMap (l[·]?)

theorem range_filterMap_getElem? (l : List α) : (List.range l.length).filterMap (l[·]?) = l := by
  induction l with
  | nil => rfl
  | cons a l ih =>
    rw [List.length_cons, List.range_succ_eq_map,
      List.filterMap_cons_some (List.getElem?_cons_zero), List.filterMap_map]
    simpa [Function.comp_def] using ih

theorem arrange_perm (pl : Planner) (l : List α) : (pl.arrange l).Perm l := by
  have h := (pl.order_perm l.length).filterMap (l[·]?)
  rwa [range_filterMap_getElem?] at h

@[simp]
theorem mem_arrange {pl : Planner} {l : List α} {a : α} : a ∈ pl.arrange l ↔ a ∈ l :=
  (pl.arrange_perm l).mem_iff

@[simp]
theorem arrange_eq_nil {pl : Planner} {l : List α} : pl.arrange l = [] ↔ l = [] := by
  rw [← List.length_eq_zero_iff, (pl.arrange_perm l).length_eq, List.length_eq_zero_iff]

/-- The planner that hands out the row at the position `i` first. -/
def startingAt (i : ℕ) : Planner where
  order n := if i < n then i :: (List.range n).erase i else List.range n
  order_perm n := by
    split
    next h => exact (List.perm_cons_erase (List.mem_range.2 h)).symm
    next => exact .rfl

theorem head?_arrange_startingAt {l : List α} {i : ℕ} {a : α} (h : l[i]? = some a) :
    ((startingAt i).arrange l).head? = some a := by
  obtain ⟨hi, -⟩ := List.getElem?_eq_some_iff.1 h
  rw [arrange, startingAt]
  dsimp only
  rw [if_pos hi, List.filterMap_cons_some h, List.head?_cons]

/-- A planner sees positions only: it keeps a correspondence of rows. -/
theorem arrange_rel {R : α → β → Prop} (pl : Planner) {l : List α} {l' : List β}
    (h : List.Forall₂ R l l') : List.Forall₂ R (pl.arrange l) (pl.arrange l') := by
  have key : ∀ o : List ℕ, List.Forall₂ R (o.filterMap (l[·]?)) (o.filterMap (l'[·]?)) := by
    intro o
    induction o with
    | nil => exact .nil
    | cons i o ih =>
      -- Both lists have a row at the position `i`, or neither has.
      rcases lt_or_ge i l.length with hi | hi
      · have hi' : i < l'.length := h.length_eq ▸ hi
        rw [List.filterMap_cons_some (List.getElem?_eq_getElem hi),
          List.filterMap_cons_some (List.getElem?_eq_getElem hi')]
        exact .cons (h.get hi hi') ih
      · rw [List.filterMap_cons_none (List.getElem?_eq_none hi),
          List.filterMap_cons_none (List.getElem?_eq_none (h.length_eq ▸ hi))]
        exact ih
  rw [arrange, arrange, ← h.length_eq]
  exact key _

end Planner

/-! ## Statements -/

/-- `UPDATE … SET f WHERE p`. -/
def updateWhere (p : α → Prop) [DecidablePred p] (f : α → α) (t : List α) : List α :=
  t.map fun r => if p r then f r else r

/-- `DELETE … WHERE p`. -/
def deleteWhere (p : α → Prop) [DecidablePred p] (t : List α) : List α := t.filter fun r => ¬p r

section Update

variable {p : α → Prop} [DecidablePred p] {f : α → α} {t : List α} {r r' : α}

theorem mem_updateWhere :
    r ∈ updateWhere p f t ↔ ∃ r₀ ∈ t, (if p r₀ then f r₀ else r₀) = r := List.mem_map

/-- A row after an update is an untouched row, or an updated one. -/
theorem mem_updateWhere_cases (h : r ∈ updateWhere p f t) :
    (r ∈ t ∧ ¬p r) ∨ ∃ r₀ ∈ t, p r₀ ∧ r = f r₀ := by
  obtain ⟨r₀, h₀, rfl⟩ := mem_updateWhere.1 h
  by_cases hp : p r₀
  · exact .inr ⟨r₀, h₀, hp, if_pos hp⟩
  · exact .inl (by rw [if_neg hp]; exact ⟨h₀, hp⟩)

/-- An untouched row stays. -/
theorem mem_updateWhere_of_not (h : r ∈ t) (hp : ¬p r) : r ∈ updateWhere p f t :=
  mem_updateWhere.2 ⟨r, h, if_neg hp⟩

/-- An update that touches no row changes nothing. -/
theorem updateWhere_eq_self (h : ∀ r ∈ t, ¬p r) : updateWhere p f t = t := by
  rw [updateWhere, List.map_congr_left fun r hr => if_neg (h r hr), List.map_id']

/-- Columns in which an update makes no difference. -/
theorem map_updateWhere_of_mem {π : α → β} (h : ∀ r ∈ t, p r → π (f r) = π r) :
    (updateWhere p f t).map π = t.map π := by
  rw [updateWhere, List.map_map]
  refine List.map_congr_left fun r hr => ?_
  by_cases hp : p r
  · rw [Function.comp_apply, if_pos hp, h r hr hp]
  · rw [Function.comp_apply, if_neg hp]

/-- Columns that an update does not write. -/
theorem map_updateWhere {π : α → β} (h : ∀ r, π (f r) = π r) :
    (updateWhere p f t).map π = t.map π :=
  map_updateWhere_of_mem fun r _ _ => h r

/-- Rows that a query does not match before or after an update. -/
theorem filter_updateWhere {q : α → Prop} [DecidablePred q] (h : ∀ r ∈ t, p r → ¬q r ∧ ¬q (f r)) :
    (updateWhere p f t).filter q = t.filter q := by
  induction t with
  | nil => rfl
  | cons r t ih =>
    have ih := ih fun r' hr' => h r' (List.mem_cons_of_mem _ hr')
    rw [updateWhere] at ih ⊢
    by_cases hp : p r
    · obtain ⟨hq, hq'⟩ := h r List.mem_cons_self hp
      rw [List.map_cons, if_pos hp, List.filter_cons_of_neg (by simpa using hq'),
        List.filter_cons_of_neg (by simpa using hq), ih]
    · rw [List.map_cons, if_neg hp, List.filter_cons, List.filter_cons, ih]

/-- Rows that a query does not match before a deletion. -/
theorem filter_deleteWhere {q : α → Prop} [DecidablePred q] (h : ∀ r ∈ t, p r → ¬q r) :
    (deleteWhere p t).filter q = t.filter q := by
  rw [deleteWhere, List.filter_filter]
  refine List.filter_congr fun r hr => ?_
  by_cases hq : q r
  · have hp : ¬p r := fun hp => h r hr hp hq
    simp [hp]
  · simp [hq]

/-- Rows that a query does not match. -/
theorem filter_append_of_forall {q : α → Prop} [DecidablePred q] {t' : List α}
    (h : ∀ r ∈ t', ¬q r) :
    (t ++ t').filter q = t.filter q := by
  have hnone : t'.filter q = [] := List.filter_eq_nil_iff.2 fun r hr => by simpa using h r hr
  rw [List.filter_append, hnone, List.append_nil]

@[simp]
theorem updateWhere_append (t₁ t₂ : List α) :
    updateWhere p f (t₁ ++ t₂) = updateWhere p f t₁ ++ updateWhere p f t₂ := List.map_append

@[simp]
theorem mem_deleteWhere : r ∈ deleteWhere p t ↔ r ∈ t ∧ ¬p r := by simp [deleteWhere]

end Update

/-! ## Queries -/

section Queries

variable (pl : Planner) (p : α → Prop) [DecidablePred p] (t : List α)

/-- `SELECT … WHERE p`, of which only the first row is taken. -/
def fetchOptional : Option α := (pl.arrange (t.filter p)).head?

/-- `SELECT … WHERE p`. -/
def fetchAll : List α := pl.arrange (t.filter p)

/-- `SELECT … WHERE p ORDER BY r`: the planner decides between the rows that the
    order does not tell apart. -/
def fetchAllBy (r : α → α → Prop) [DecidableRel r] : List α :=
  (pl.arrange (t.filter p)).insertionSort r

/-- `SELECT … WHERE p ORDER BY r LIMIT 1`. -/
def fetchFirstBy (r : α → α → Prop) [DecidableRel r] : Option α := (fetchAllBy pl p t r).head?

/-- `SELECT MAX(f) … WHERE p`: `none` (that is, `NULL`) when no row matches. -/
def maxOf (p : α → Prop) [DecidablePred p] (f : α → ℤ) (t : List α) : Option ℤ :=
  ((t.filter p).map f).max?

end Queries

section Specs

variable {pl : Planner} {p : α → Prop} [DecidablePred p] {t t' : List α} {a : α}

theorem fetchOptional_some (h : fetchOptional pl p t = some a) : a ∈ t ∧ p a := by
  have := List.mem_of_mem_head? (Option.mem_def.2 h)
  simpa using this

theorem fetchOptional_eq_none : fetchOptional pl p t = none ↔ ∀ r ∈ t, ¬p r := by
  simp [fetchOptional]

theorem isSome_fetchOptional : (fetchOptional pl p t).isSome ↔ ∃ r ∈ t, p r := by
  rw [Option.isSome_iff_ne_none, Ne, fetchOptional_eq_none]
  push Not
  rfl

/-- Each of the matching rows is found by some planner. -/
theorem exists_planner_fetchOptional (ha : a ∈ t) (hp : p a) :
    ∃ pl, fetchOptional pl p t = some a := by
  have hmatch : a ∈ t.filter p := by simp [ha, hp]
  obtain ⟨i, hi⟩ := List.mem_iff_getElem?.1 hmatch
  exact ⟨.startingAt i, Planner.head?_arrange_startingAt hi⟩

/-- When some row matches, a row is found. -/
theorem exists_fetchOptional (pl : Planner) (h : a ∈ t) (hp : p a) :
    ∃ r, fetchOptional pl p t = some r := by
  refine Option.ne_none_iff_exists'.1 fun hn => ?_
  exact fetchOptional_eq_none.1 hn a h hp

/-- The only matching row is the one found. -/
theorem fetchOptional_eq_some_of_unique (h : t.filter p = [a]) : fetchOptional pl p t = some a := by
  have := (pl.arrange_perm (t.filter p)).trans (List.Perm.of_eq h)
  rw [fetchOptional, List.perm_singleton.1 this, List.head?_cons]

/-- Of two rows, only one matches. -/
theorem filter_eq_singleton_of_perm {b : α} (h : t.Perm [a, b]) (ha : p a) (hb : ¬p b) :
    t.filter p = [a] := by
  refine List.perm_singleton.1 ((h.filter _).trans (List.Perm.of_eq ?_))
  rw [List.filter_cons_of_pos (by simpa using ha), List.filter_cons_of_neg (by simpa using hb),
    List.filter_nil]

theorem fetchOptional_nil : fetchOptional pl p [] = none := fetchOptional_eq_none.2 (by simp)

theorem fetchOptional_singleton (hp : p a) : fetchOptional pl p [a] = some a :=
  fetchOptional_eq_some_of_unique (by simp [hp])

theorem fetchOptional_congr {q : α → Prop} [DecidablePred q] (h : t.filter p = t'.filter q) :
    fetchOptional pl p t = fetchOptional pl q t' := by rw [fetchOptional, fetchOptional, h]

/-- Conditions that mean the same select the same. -/
theorem filter_eq_of_iff {q : α → Prop} [DecidablePred q] (h : ∀ a, p a ↔ q a) (t : List α) :
    t.filter p = t.filter q :=
  List.filter_congr fun a _ => decide_eq_decide.2 (h a)

/-- Tables that agree on some rows agree on fewer. -/
theorem filter_congr_of_imp {q : α → Prop} [DecidablePred q] (hpq : ∀ a, p a → q a)
    (h : t.filter q = t'.filter q) : t.filter p = t'.filter p := by
  have key : ∀ l : List α, l.filter p = (l.filter q).filter p := by
    intro l
    rw [List.filter_filter]
    refine List.filter_congr fun a _ => ?_
    by_cases hp : p a
    · simp [hp, hpq a hp]
    · simp [hp]
  rw [key t, key t', h]

@[simp]
theorem mem_fetchAll : a ∈ fetchAll pl p t ↔ a ∈ t ∧ p a := by simp [fetchAll]

theorem fetchAllBy_perm {r : α → α → Prop} [DecidableRel r] :
    (fetchAllBy pl p t r).Perm (t.filter p) :=
  (List.perm_insertionSort r _).trans (pl.arrange_perm _)

@[simp]
theorem mem_fetchAllBy {r : α → α → Prop} [DecidableRel r] :
    a ∈ fetchAllBy pl p t r ↔ a ∈ t ∧ p a := by simp [fetchAllBy_perm.mem_iff]

theorem fetchAllBy_congr {q : α → Prop} [DecidablePred q] {r : α → α → Prop} [DecidableRel r]
    (h : t.filter p = t'.filter q) : fetchAllBy pl p t r = fetchAllBy pl q t' r := by
  rw [fetchAllBy, fetchAllBy, h]

theorem fetchFirstBy_congr {q : α → Prop} [DecidablePred q] {r : α → α → Prop} [DecidableRel r]
    (h : t.filter p = t'.filter q) : fetchFirstBy pl p t r = fetchFirstBy pl q t' r := by
  rw [fetchFirstBy, fetchFirstBy, fetchAllBy_congr h]

theorem fetchFirstBy_some {r : α → α → Prop} [DecidableRel r] (h : fetchFirstBy pl p t r = some a) :
    a ∈ t ∧ p a :=
  mem_fetchAllBy.1 (List.mem_of_mem_head? (Option.mem_def.2 h))

/-- The only matching row is the first one. -/
theorem fetchFirstBy_eq_some_of_unique {r : α → α → Prop} [DecidableRel r] (h : t.filter p = [a]) :
    fetchFirstBy pl p t r = some a := by
  have hall : (fetchAllBy pl p t r).Perm [a] := fetchAllBy_perm.trans (List.Perm.of_eq h)
  rw [fetchFirstBy, List.perm_singleton.1 hall, List.head?_cons]

theorem fetchFirstBy_eq_none {r : α → α → Prop} [DecidableRel r] :
    fetchFirstBy pl p t r = none ↔ ∀ a ∈ t, ¬p a := by
  rw [fetchFirstBy, List.head?_eq_none_iff, ← List.length_eq_zero_iff, fetchAllBy_perm.length_eq,
    List.length_eq_zero_iff, List.filter_eq_nil_iff]
  simp

/-- No matching row comes before the one found. -/
theorem rel_of_fetchFirstBy {r : α → α → Prop} [DecidableRel r] [Std.Total r] [IsTrans α r] {b : α}
    (h : fetchFirstBy pl p t r = some a) (hb : b ∈ t) (hp : p b) : r a b := by
  have hsorted : (fetchAllBy pl p t r).Pairwise r := List.pairwise_insertionSort r _
  have hmem : b ∈ fetchAllBy pl p t r := mem_fetchAllBy.2 ⟨hb, hp⟩
  rw [fetchFirstBy] at h
  rcases hrows : fetchAllBy pl p t r with _ | ⟨a', rows⟩
  · rw [hrows] at h
    cases h
  · rw [hrows, List.head?_cons] at h
    rw [hrows] at hsorted hmem
    cases h
    rcases List.mem_cons.1 hmem with rfl | hmem
    · exact (Std.Total.total b b).elim id id
    · exact (List.pairwise_cons.1 hsorted).1 b hmem

/-- Of the matching rows that none comes before, each is found by some planner. -/
theorem exists_planner_fetchFirstBy {r : α → α → Prop} [DecidableRel r] (ha : a ∈ t) (hp : p a)
    (hfirst : ∀ b ∈ t, p b → r a b) : ∃ pl, fetchFirstBy pl p t r = some a := by
  have hmatch : a ∈ t.filter p := by simp [ha, hp]
  obtain ⟨i, hi⟩ := List.mem_iff_getElem?.1 hmatch
  refine ⟨.startingAt i, ?_⟩
  have hhead := Planner.head?_arrange_startingAt hi
  rcases hrows : (Planner.startingAt i).arrange (t.filter p) with _ | ⟨a', rows⟩
  · rw [hrows] at hhead
    cases hhead
  · rw [hrows, List.head?_cons] at hhead
    cases hhead
    have hrest : ∀ b ∈ rows, r a b := by
      intro b hb
      have hmem : b ∈ (Planner.startingAt i).arrange (t.filter p) :=
        hrows ▸ List.mem_cons_of_mem _ hb
      obtain ⟨hbt, hbp⟩ := List.mem_filter.1 (Planner.mem_arrange.1 hmem)
      exact hfirst b hbt (of_decide_eq_true hbp)
    rw [fetchFirstBy, fetchAllBy, hrows, List.insertionSort_cons_of_forall_rel r hrest,
      List.head?_cons]

theorem isSome_fetchFirstBy {r : α → α → Prop} [DecidableRel r] :
    (fetchFirstBy pl p t r).isSome ↔ ∃ a ∈ t, p a := by
  rw [Option.isSome_iff_ne_none, Ne, fetchFirstBy_eq_none]
  push Not
  rfl

/-- What holds of the first row, whatever the planner, holds of the matching rows that none
    comes before. -/
theorem forall_fetchFirstBy_iff {r : α → α → Prop} [DecidableRel r] [Std.Total r] [IsTrans α r]
    {P : α → Prop} :
    (∀ pl a, fetchFirstBy pl p t r = some a → P a) ↔
      ∀ a ∈ t, p a → (∀ b ∈ t, p b → r a b) → P a := by
  constructor
  · intro h a ha hp hfirst
    obtain ⟨pl, hpl⟩ := exists_planner_fetchFirstBy ha hp hfirst
    exact h pl a hpl
  · intro h pl a ha
    obtain ⟨hmem, hp⟩ := fetchFirstBy_some ha
    exact h a hmem hp fun b hb hpb => rel_of_fetchFirstBy ha hb hpb

/-- If a row matches, one does that none comes before. -/
theorem exists_forall_rel {r : α → α → Prop} [DecidableRel r] [Std.Total r] [IsTrans α r]
    (h : ∃ a ∈ t, p a) : ∃ a ∈ t, p a ∧ ∀ b ∈ t, p b → r a b := by
  obtain ⟨a, ha⟩ := Option.isSome_iff_exists.1
    ((isSome_fetchFirstBy (r := r)).2 h : (fetchFirstBy .insertion p t r).isSome)
  obtain ⟨hmem, hp⟩ := fetchFirstBy_some ha
  exact ⟨a, hmem, hp, fun b hb hpb => rel_of_fetchFirstBy ha hb hpb⟩

theorem maxOf_eq_none {f : α → ℤ} : maxOf p f t = none ↔ ∀ r ∈ t, ¬p r := by
  simp [maxOf]

theorem le_maxOf {f : α → ℤ} {m : ℤ} (h : maxOf p f t = some m) (ha : a ∈ t) (hp : p a) :
    f a ≤ m :=
  (List.max?_eq_some_iff.1 h).2 _ (List.mem_map_of_mem (by simp [ha, hp]))

/-- `COALESCE(MAX(f), 0)` bounds `f` on the matching rows. -/
theorem le_maxOf_getD {f : α → ℤ} (ha : a ∈ t) (hp : p a) : f a ≤ (maxOf p f t).getD 0 := by
  rcases h : maxOf p f t with _ | m
  · exact absurd hp (maxOf_eq_none.1 h a ha)
  · exact le_maxOf h ha hp

end Specs

/-! ## Unique keys -/

section Keys

variable {κ : Type*} {k : α → κ} {p : α → Prop} [DecidablePred p] {f : α → α} {t : List α}
  {a b r : α}

/-- A key of the table: no two rows have the same value of `k`. -/
def Keyed (k : α → κ) (t : List α) : Prop := (t.map k).Nodup

instance [DecidableEq κ] (k : α → κ) (t : List α) : Decidable (Keyed k t) :=
  inferInstanceAs (Decidable (List.Nodup _))

namespace Keyed

theorem nil : Keyed k [] := List.nodup_nil

theorem eq_of_mem (h : Keyed k t) (ha : a ∈ t) (hb : b ∈ t) (hab : k a = k b) : a = b :=
  List.inj_on_of_nodup_map h ha hb hab

/-- A key that tells apart at least as much. -/
theorem of_imp {κ' : Type*} {k' : α → κ'} (h : Keyed k t)
    (himp : ∀ a ∈ t, ∀ b ∈ t, k' a = k' b → k a = k b) : Keyed k' t := by
  refine List.Nodup.map_on (fun a ha b hb hab => ?_) (List.Nodup.of_map k h)
  exact h.eq_of_mem ha hb (himp a ha b hb hab)

theorem append (h : Keyed k t) (hr : ∀ a ∈ t, k a ≠ k r) : Keyed k (t ++ [r]) := by
  rw [Keyed, List.map_append, List.map_singleton, ← List.concat_eq_append]
  refine h.concat fun hmem => ?_
  obtain ⟨a, ha, hk⟩ := List.mem_map.1 hmem
  exact hr a ha hk

theorem updateWhere (h : Keyed k t) (hf : ∀ r, k (f r) = k r) : Keyed k (updateWhere p f t) := by
  rwa [Keyed, map_updateWhere hf]

theorem deleteWhere (h : Keyed k t) : Keyed k (deleteWhere p t) :=
  List.Nodup.sublist (List.filter_sublist.map k) h

/-- A query by the key finds the row that has it. -/
theorem fetchOptional_eq_some (h : Keyed k t) (pl : Planner) (ha : a ∈ t) (hp : p a)
    (hk : ∀ b ∈ t, p b → k b = k a) : fetchOptional pl p t = some a := by
  obtain ⟨b, hb⟩ := exists_fetchOptional pl ha hp
  obtain ⟨hmem, hpb⟩ := fetchOptional_some hb
  rw [hb, h.eq_of_mem hmem ha (hk b hmem hpb)]

end Keyed

/-- `INSERT … ON DUPLICATE KEY UPDATE f`, for a row `r` whose key the rows with `p` have:
    these are updated, or the row is inserted. -/
def upsert (p : α → Prop) [DecidablePred p] (f : α → α) (r : α) (t : List α) : List α :=
  if ∃ a ∈ t, p a then updateWhere p f t else t ++ [r]

theorem upsert_of_exists (ha : a ∈ t) (hp : p a) : upsert p f r t = updateWhere p f t :=
  if_pos ⟨a, ha, hp⟩

theorem upsert_of_forall (h : ∀ a ∈ t, ¬p a) : upsert p f r t = t ++ [r] :=
  if_neg fun ⟨a, ha, hp⟩ => h a ha hp

/-- A row afterwards is an untouched row, an updated one, or the one inserted. -/
theorem mem_upsert_cases (h : a ∈ upsert p f r t) :
    (a ∈ t ∧ ¬p a) ∨ (∃ b ∈ t, p b ∧ a = f b) ∨ ((∀ b ∈ t, ¬p b) ∧ a = r) := by
  by_cases hex : ∃ b ∈ t, p b
  · rw [upsert, if_pos hex] at h
    rcases mem_updateWhere_cases h with h | h
    · exact .inl h
    · exact .inr (.inl h)
  · have hno : ∀ b ∈ t, ¬p b := fun b hb hp => hex ⟨b, hb, hp⟩
    rw [upsert_of_forall hno, List.mem_append, List.mem_singleton] at h
    rcases h with h | h
    · exact .inl ⟨h, hno a h⟩
    · exact .inr (.inr ⟨hno, h⟩)

/-- An untouched row stays. -/
theorem mem_upsert_of_not (h : a ∈ t) (hp : ¬p a) : a ∈ upsert p f r t := by
  by_cases hex : ∃ b ∈ t, p b
  · rw [upsert, if_pos hex]
    exact mem_updateWhere_of_not h hp
  · rw [upsert, if_neg hex]
    exact List.mem_append_left _ h

/-- Rows that a query does not match before or after the statement. -/
theorem filter_upsert {q : α → Prop} [DecidablePred q] (h : ∀ a ∈ t, p a → ¬q a ∧ ¬q (f a))
    (hr : ¬q r) :
    (upsert p f r t).filter q = t.filter q := by
  by_cases hex : ∃ a ∈ t, p a
  · rw [upsert, if_pos hex]
    exact filter_updateWhere h
  · rw [upsert, if_neg hex]
    exact filter_append_of_forall fun a ha => List.mem_singleton.1 ha ▸ hr

/-- A key that the update does not write is still one, if the row inserted has a new value
    of it. -/
theorem Keyed.upsert (h : Keyed k t) (hf : ∀ r, k (f r) = k r)
    (hr : (∀ a ∈ t, ¬p a) → ∀ a ∈ t, k a ≠ k r) : Keyed k (upsert p f r t) := by
  by_cases hex : ∃ a ∈ t, p a
  · rw [Table.upsert, if_pos hex]
    exact h.updateWhere hf
  · rw [Table.upsert, if_neg hex]
    exact h.append (hr fun a ha hp => hex ⟨a, ha, hp⟩)

/-- Executed once more, the statement changes nothing. -/
theorem upsert_upsert (hp : p r) (hpf : ∀ a, p a → p (f a)) (hff : ∀ a, f (f a) = f a)
    (hfr : f r = r) :
    upsert p f r (upsert p f r t) = upsert p f r t := by
  have hid : ∀ t : List α, (∀ a ∈ t, p a → f a = a) → updateWhere p f t = t := by
    intro t ht
    refine (List.map_congr_left fun a ha => ?_).trans (List.map_id t)
    by_cases hp : p a
    · rw [if_pos hp, ht a ha hp, id]
    · rw [if_neg hp, id]
  have hex : ∃ a ∈ upsert p f r t, p a := by
    by_cases hex : ∃ a ∈ t, p a
    · obtain ⟨a, ha, hpa⟩ := hex
      rw [upsert_of_exists ha hpa]
      exact ⟨f a, mem_updateWhere.2 ⟨a, ha, if_pos hpa⟩, hpf a hpa⟩
    · rw [upsert, if_neg hex]
      exact ⟨r, List.mem_append_right _ (List.mem_singleton_self r), hp⟩
  obtain ⟨a, ha, hpa⟩ := hex
  rw [upsert_of_exists ha hpa]
  refine hid _ fun b hb hpb => ?_
  rcases mem_upsert_cases hb with ⟨-, hno⟩ | ⟨c, -, -, rfl⟩ | ⟨-, rfl⟩
  · exact absurd hpb hno
  · exact hff c
  · exact hfr

end Keys

/-! ## Corresponding tables -/

section Rel

variable {R : α → β → Prop} {p : α → Prop} {q : β → Prop} [DecidablePred p] [DecidablePred q]
  {t : List α} {t' : List β}

/-- Corresponding tables, queried by corresponding conditions, match
    corresponding rows. -/
theorem filter_rel (h : List.Forall₂ R t t') (hpq : ∀ a b, a ∈ t → b ∈ t' → R a b → (p a ↔ q b)) :
    List.Forall₂ R (t.filter p) (t'.filter q) := by
  induction h with
  | nil => exact .nil
  | @cons a b l l' hab _ ih =>
    have ih := ih fun a b ha hb => hpq a b (List.mem_cons_of_mem _ ha) (List.mem_cons_of_mem _ hb)
    have hiff := hpq a b List.mem_cons_self List.mem_cons_self hab
    by_cases hp : p a
    · rw [List.filter_cons_of_pos (by simpa using hp),
        List.filter_cons_of_pos (by simpa using hiff.1 hp)]
      exact .cons hab ih
    · rw [List.filter_cons_of_neg (by simpa using hp),
        List.filter_cons_of_neg (by simpa using fun hq => hp (hiff.2 hq))]
      exact ih

omit [DecidablePred p] [DecidablePred q] in
theorem rel_and_mem (h : List.Forall₂ R t t') :
    List.Forall₂ (fun a b => R a b ∧ a ∈ t ∧ b ∈ t') t t' := by
  rw [List.forall₂_iff_zip] at h ⊢
  exact ⟨h.1, fun hab => ⟨h.2 hab, List.of_mem_zip hab⟩⟩

omit [DecidablePred p] [DecidablePred q] in
/-- Every row corresponds to one. -/
theorem exists_rel {b : β} (h : List.Forall₂ R t t') (hb : b ∈ t') : ∃ a ∈ t, R a b := by
  induction h with
  | nil => exact absurd hb List.not_mem_nil
  | cons hab _ ih =>
    rcases List.mem_cons.1 hb with rfl | hb
    · exact ⟨_, List.mem_cons_self, hab⟩
    · obtain ⟨a, ha, hab⟩ := ih hb
      exact ⟨a, List.mem_cons_of_mem _ ha, hab⟩

/-- No more rows match afterwards, if none begins to. -/
theorem countP_le_of_rel (h : List.Forall₂ R t t') (hqp : ∀ a b, R a b → q b → p a) :
    t'.countP q ≤ t.countP p := by
  induction h with
  | nil => exact le_rfl
  | @cons a b l l' hab _ ih =>
    rw [List.countP_cons, List.countP_cons]
    refine Nat.add_le_add ih ?_
    by_cases hq : q b
    · rw [if_pos (decide_eq_true hq), if_pos (decide_eq_true (hqp a b hab hq))]
    · rw [if_neg (by simpa using hq)]
      exact Nat.zero_le _

/-- Fewer rows match afterwards, if one that matched before does not, and no other one begins
    to. -/
theorem countP_lt_of_rel (h : List.Forall₂ R t t') (hqp : ∀ a b, R a b → q b → p a)
    (hex : ∃ a ∈ t, p a ∧ ∀ b, R a b → ¬q b) : t'.countP q < t.countP p := by
  induction h with
  | nil =>
    obtain ⟨a, ha, -⟩ := hex
    exact absurd ha List.not_mem_nil
  | @cons a b l l' hab hl ih =>
    rw [List.countP_cons, List.countP_cons]
    obtain ⟨a', ha', hp, hnot⟩ := hex
    rcases List.mem_cons.1 ha' with rfl | ha'
    · rw [if_neg (by simpa using hnot b hab), if_pos (decide_eq_true hp)]
      exact Nat.lt_succ_of_le (countP_le_of_rel hl hqp)
    · have hlt := ih ⟨a', ha', hp, hnot⟩
      have hcons := countP_le_of_rel (.cons hab .nil) hqp
      rw [List.countP_cons, List.countP_cons, List.countP_nil, List.countP_nil] at hcons
      omega

omit [DecidablePred p] [DecidablePred q] in
theorem forall_mem_rel (h : List.Forall₂ R t t') (hpq : ∀ a b, R a b → (p a ↔ q b)) :
    (∀ a ∈ t, p a) ↔ ∀ b ∈ t', q b := by
  induction h with
  | nil => simp
  | cons hab _ ih => rw [List.forall_mem_cons, List.forall_mem_cons, ih, hpq _ _ hab]

theorem head?_rel {l : List α} {l' : List β} (h : List.Forall₂ R l l') :
    Option.Rel R l.head? l'.head? := by
  rcases h with _ | ⟨hab, _⟩
  · exact .none
  · exact .some hab

omit [DecidablePred p] [DecidablePred q] in
theorem option_map_eq_of_rel {γ : Type*} {f : α → γ} {g : β → γ} {a : Option α} {b : Option β}
    (h : Option.Rel R a b) (hfg : ∀ a b, R a b → f a = g b) : a.map f = b.map g := by
  rcases h with hab | _
  · exact congrArg some (hfg _ _ hab)
  · rfl

theorem fetchOptional_rel (pl : Planner) (h : List.Forall₂ R t t')
    (hpq : ∀ a b, a ∈ t → b ∈ t' → R a b → (p a ↔ q b)) :
    Option.Rel R (fetchOptional pl p t) (fetchOptional pl q t') :=
  head?_rel (pl.arrange_rel (filter_rel h hpq))

omit [DecidablePred q] in
/-- Of two matching rows, either is found first in some table. -/
theorem exists_perm_fetchOptional (pl : Planner) {a b : α} (ha : p a) (hb : p b) :
    ∃ t, t.Perm [a, b] ∧ fetchOptional pl p t = some b := by
  obtain ⟨r, hr⟩ := exists_fetchOptional pl (t := [a, b]) List.mem_cons_self ha
  rcases List.mem_cons.1 (fetchOptional_some hr).1 with rfl | hmem
  · -- The first of the rows is chosen, so they are exchanged.
    have hswap : List.Forall₂ (fun x y => (x = r ∧ y = b) ∨ (x = b ∧ y = r)) [r, b] [b, r] :=
      .cons (.inl ⟨rfl, rfl⟩) (.cons (.inr ⟨rfl, rfl⟩) .nil)
    have hpq : ∀ x y, x ∈ [r, b] → y ∈ [b, r] → (x = r ∧ y = b) ∨ (x = b ∧ y = r) →
        (p x ↔ p y) := by
      rintro x y - - (⟨rfl, rfl⟩ | ⟨rfl, rfl⟩)
      · exact iff_of_true ha hb
      · exact iff_of_true hb ha
    have hfetch := fetchOptional_rel pl hswap hpq
    rw [hr] at hfetch
    rcases hb' : fetchOptional pl p [b, r] with _ | y
    · rw [hb'] at hfetch
      cases hfetch
    · rw [hb'] at hfetch
      rcases hfetch with ⟨⟨-, rfl⟩ | ⟨rfl, rfl⟩⟩
      · exact ⟨[y, r], .swap .., hb'⟩
      · exact ⟨_, .refl _, hb'⟩
  · rw [List.mem_singleton.1 hmem] at hr
    exact ⟨[a, b], .refl _, hr⟩

omit [DecidablePred q] in
/-- A query whose condition an update does not touch finds the same row, updated. -/
theorem fetchOptional_updateWhere (pl : Planner) {q : α → Prop} [DecidablePred q] {f : α → α}
    (hq : ∀ r, q (f r) ↔ q r) :
    fetchOptional pl q (updateWhere p f t) =
      (fetchOptional pl q t).map fun r => if p r then f r else r := by
  set g : α → α := fun r => if p r then f r else r
  have hg : ∀ r, q (g r) ↔ q r := by
    intro r
    by_cases hp : p r
    · simp [g, hp, hq]
    · simp [g, hp]
  have hrel : List.Forall₂ (fun r r' => g r = r') t (updateWhere p f t) :=
    List.forall₂_map_right_iff.2 (List.forall₂_same.2 fun _ _ => rfl)
  have hfetch := fetchOptional_rel (p := q) (q := q) pl hrel fun r r' _ _ h => h ▸ (hg r).symm
  have hmap := option_map_eq_of_rel (f := g) (g := id) hfetch fun _ _ h => h
  rw [hmap, Option.map_id, id_eq]

theorem orderedInsert_rel {r : α → α → Prop} {r' : β → β → Prop} [DecidableRel r] [DecidableRel r']
    {a : α} {b : β} {l : List α} {l' : List β}
    (hr : ∀ a b a' b', R a b → R a' b' → (r a a' ↔ r' b b'))
    (hab : R a b) (h : List.Forall₂ R l l') :
    List.Forall₂ R (l.orderedInsert r a) (l'.orderedInsert r' b) := by
  induction h with
  | nil => exact .cons hab .nil
  | @cons c d l l' hcd hl ih =>
    by_cases hac : r a c
    · rw [List.orderedInsert_cons_of_le r l hac,
        List.orderedInsert_cons_of_le r' l' ((hr _ _ _ _ hab hcd).1 hac)]
      exact .cons hab (.cons hcd hl)
    · rw [List.orderedInsert_cons, if_neg hac, List.orderedInsert_cons,
        if_neg fun hbd => hac ((hr _ _ _ _ hab hcd).2 hbd)]
      exact .cons hcd ih

theorem insertionSort_rel {r : α → α → Prop} {r' : β → β → Prop} [DecidableRel r] [DecidableRel r']
    {l : List α} {l' : List β} (hr : ∀ a b a' b', R a b → R a' b' → (r a a' ↔ r' b b'))
    (h : List.Forall₂ R l l') : List.Forall₂ R (l.insertionSort r) (l'.insertionSort r') := by
  induction h with
  | nil => exact .nil
  | cons hab _ ih => exact orderedInsert_rel hr hab ih

theorem fetchAllBy_rel {r : α → α → Prop} {r' : β → β → Prop} [DecidableRel r] [DecidableRel r']
    (pl : Planner) (hr : ∀ a b a' b', R a b → R a' b' → (r a a' ↔ r' b b'))
    (h : List.Forall₂ R t t') (hpq : ∀ a b, a ∈ t → b ∈ t' → R a b → (p a ↔ q b)) :
    List.Forall₂ R (fetchAllBy pl p t r) (fetchAllBy pl q t' r') :=
  insertionSort_rel hr (pl.arrange_rel (filter_rel h hpq))

theorem fetchFirstBy_rel {r : α → α → Prop} {r' : β → β → Prop} [DecidableRel r] [DecidableRel r']
    (pl : Planner) (hr : ∀ a b a' b', R a b → R a' b' → (r a a' ↔ r' b b'))
    (h : List.Forall₂ R t t') (hpq : ∀ a b, a ∈ t → b ∈ t' → R a b → (p a ↔ q b)) :
    Option.Rel R (fetchFirstBy pl p t r) (fetchFirstBy pl q t' r') :=
  head?_rel (fetchAllBy_rel pl hr h hpq)

theorem updateWhere_rel {f : α → α} {g : β → β} (h : List.Forall₂ R t t')
    (hpq : ∀ a b, R a b → (p a ↔ q b)) (hfg : ∀ a b, R a b → R (f a) (g b)) :
    List.Forall₂ R (updateWhere p f t) (updateWhere q g t') := by
  refine List.forall₂_map_left_iff.2 (List.forall₂_map_right_iff.2 (h.imp fun a b hab => ?_))
  by_cases hp : p a
  · rw [if_pos hp, if_pos ((hpq a b hab).1 hp)]
    exact hfg a b hab
  · rw [if_neg hp, if_neg fun hq => hp ((hpq a b hab).2 hq)]
    exact hab

end Rel

end Table
