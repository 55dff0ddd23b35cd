import Mathlib.Data.List.Nodup
import Mathlib.Order.Lattice

/-!
# The newest wins

A register takes a value only if it is newer than the one it holds (`newest`). Where the
times of the values are distinct, what it holds after a list of them is the one with the
greatest time, in whatever order they came (`foldl_newest_eq`).
-/

namespace Newest

variable {α τ : Type*} [LinearOrder τ] (time : α → τ)

/-- What a register with the value `a` holds after it is offered `b`. -/
def newest (a b : α) : α := if time b ≤ time a then a else b

variable {time} {a b : α} {l : List α}

theorem apply_newest {β : Type*} (f : α → β) :
    f (newest time a b) = if time b ≤ time a then f a else f b :=
  apply_ite f _ _ _

theorem time_le_newest : time a ≤ time (newest time a b) := by
  rw [newest]
  split
  next => exact le_rfl
  next h => exact (not_le.1 h).le

theorem offered_le_newest : time b ≤ time (newest time a b) := by
  rw [newest]
  split
  next h => exact h
  next => exact le_rfl

theorem newest_mem (time : α → τ) (a b : α) : newest time a b = a ∨ newest time a b = b := by
  rw [newest]
  split
  next => exact .inl rfl
  next => exact .inr rfl

/-- A register holds its first value, or one it was offered. -/
theorem foldl_newest_mem : l.foldl (newest time) a ∈ a :: l := by
  induction l generalizing a with
  | nil => exact List.mem_cons_self
  | cons b l ih =>
    rcases List.mem_cons.1 (ih (a := newest time a b)) with h | h
    · rw [List.foldl_cons, h]
      rcases newest_mem time a b with h | h <;> simp [h]
    · exact List.mem_cons_of_mem _ (List.mem_cons_of_mem _ h)

/-- It holds none older than what it has held, or was offered. -/
theorem le_foldl_newest : ∀ b ∈ a :: l, time b ≤ time (l.foldl (newest time) a) := by
  induction l generalizing a with
  | nil =>
    intro b hb
    rw [List.mem_singleton.1 hb, List.foldl_nil]
  | cons c l ih =>
    intro b hb
    have hhead := ih (a := newest time a c) _ List.mem_cons_self
    rcases List.mem_cons.1 hb with rfl | hb
    · exact time_le_newest.trans hhead
    · rcases List.mem_cons.1 hb with rfl | hb
      · exact offered_le_newest.trans hhead
      · exact ih b (List.mem_cons_of_mem _ hb)

/-- Where no two times are equal, a register ends with the newest of all. -/
theorem foldl_newest_eq {m : α} (hdistinct : ((a :: l).map time).Nodup) (hm : m ∈ a :: l)
    (hmax : ∀ b ∈ a :: l, time b ≤ time m) : l.foldl (newest time) a = m := by
  refine List.inj_on_of_nodup_map hdistinct foldl_newest_mem hm ?_
  exact le_antisymm (hmax _ foldl_newest_mem) (le_foldl_newest m hm)

end Newest
