import Mathlib.Data.List.Basic
import Mathlib.Logic.Function.Basic

/-!
# Topic exchanges and queues

A broker holds queues, which are bound to exchanges by patterns (`Topology`). A message
that is published to an exchange is copied to every queue that is bound to it with a
pattern that the routing key of the message matches (`publish`). One that expires in a
queue is published again, under its routing key, to the exchange that takes the dead
letters of the queue (`expire`).

A queue that is bound to the exchange of its own dead letters never loses a message by
expiry (`mem_expire_of_bound`).
-/

namespace Broker

/-- A pattern, word by word: `*` stands for one word, `#` for any number of them. -/
def matchWords : List (List Char) → List (List Char) → Bool
  | [], words => words.isEmpty
  | p :: ps, words =>
    if p = ['#'] then words.tails.any (matchWords ps)
    else
      match words with
      | [] => false
      | w :: words => (p = ['*'] || p = w) && matchWords ps words

/-- The routing key matches the pattern. -/
def Matches (pattern key : String) : Prop :=
  matchWords (pattern.toList.splitOn '.') (key.toList.splitOn '.')

instance (pattern key : String) : Decidable (Matches pattern key) :=
  inferInstanceAs (Decidable (_ = true))

/-- A pattern that starts with a word only matches keys that start with it. -/
theorem head?_of_matchWords {p : List Char} {ps words : List (List Char)} (hrest : p ≠ ['#'])
    (hany : p ≠ ['*']) (h : matchWords (p :: ps) words = true) : words.head? = some p := by
  rcases words with - | ⟨w, words⟩
  · rw [matchWords.eq_def] at h
    simp [hrest] at h
  · rw [matchWords.eq_def] at h
    simp only [if_neg hrest] at h
    have hp : p = w := by simpa [hany] using (Bool.and_eq_true_iff.1 h).1
    rw [List.head?_cons, hp]

/-- A message: what it says, and the key under which it was published. -/
structure Message (α : Type*) where
  routingKey : String
  content : α
  deriving DecidableEq

/-- How the queues are bound, and where their dead letters go. -/
structure Topology (Exchange Queue : Type*) where
  bindings : List (Exchange × String × Queue)
  deadLetter : Queue → Option Exchange

variable {Exchange Queue α : Type*}

namespace Topology

/-- A message under the key is copied from the exchange to the queue. -/
def Bound (t : Topology Exchange Queue) (e : Exchange) (key : String) (q : Queue) : Prop :=
  ∃ b ∈ t.bindings, b.1 = e ∧ b.2.2 = q ∧ Matches b.2.1 key

instance [DecidableEq Exchange] [DecidableEq Queue] (t : Topology Exchange Queue) (e : Exchange)
    (key : String) (q : Queue) : Decidable (t.Bound e key q) :=
  inferInstanceAs (Decidable (∃ b ∈ t.bindings, _))

end Topology

variable [DecidableEq Exchange] [DecidableEq Queue] (t : Topology Exchange Queue)

/-- A message is published to an exchange. -/
def publish (e : Exchange) (m : Message α) (s : Queue → List (Message α)) :
    Queue → List (Message α) :=
  fun q => if t.Bound e m.routingKey q then s q ++ [m] else s q

/-- The message at the place `i` is taken from a queue. -/
def take (q : Queue) (i : ℕ) (s : Queue → List (Message α)) : Queue → List (Message α) :=
  Function.update s q ((s q).eraseIdx i)

/-- The message at the place `i` of a queue expires. -/
def expire (q : Queue) (i : ℕ) (s : Queue → List (Message α)) : Queue → List (Message α) :=
  match (s q)[i]?, t.deadLetter q with
  | some m, some e => publish t e m (take q i s)
  | some _, none => take q i s
  | none, _ => s

variable {t} {e : Exchange} {m m' : Message α} {q q' : Queue} {i : ℕ} {s : Queue → List (Message α)}

@[simp]
theorem mem_publish :
    m' ∈ publish t e m s q ↔ m' ∈ s q ∨ (t.Bound e m.routingKey q ∧ m' = m) := by
  rw [publish]
  split
  next hbound => simp [hbound]
  next hbound => simp [hbound]

theorem mem_of_mem_take (h : m ∈ take q i s q') : m ∈ s q' := by
  rw [take] at h
  by_cases hq : q' = q
  · subst hq
    rw [Function.update_self] at h
    exact List.mem_of_mem_eraseIdx h
  · rwa [Function.update_of_ne hq] at h

theorem mem_take_of_ne (hq : q' ≠ q) : m ∈ take q i s q' ↔ m ∈ s q' := by
  rw [take, Function.update_of_ne hq]

/-- What is in a queue stays there, or is what was taken from it. -/
theorem mem_take_or (h : m ∈ s q') : m ∈ take q i s q' ∨ (q' = q ∧ (s q)[i]? = some m) := by
  by_cases hq : q' = q
  · subst hq
    rw [take, Function.update_self]
    obtain ⟨j, hj, rfl⟩ := List.mem_iff_getElem.1 h
    by_cases hji : j = i
    · exact .inr ⟨rfl, by rw [← hji, List.getElem?_eq_getElem hj]⟩
    · exact .inl (List.mem_eraseIdx_iff_getElem?.2 ⟨j, hji, List.getElem?_eq_getElem hj⟩)
  · exact .inl ((mem_take_of_ne hq).2 h)

/-- What an expiry can do. -/
theorem expire_cases (t : Topology Exchange Queue) (q : Queue) (i : ℕ)
    (s : Queue → List (Message α)) :
    (∃ m e, (s q)[i]? = some m ∧ t.deadLetter q = some e ∧
        expire t q i s = publish t e m (take q i s)) ∨
      (t.deadLetter q = none ∧ expire t q i s = take q i s) ∨ expire t q i s = s := by
  rw [expire]
  split
  next m e hm he => exact .inl ⟨m, e, hm, he, rfl⟩
  next he => exact .inr (.inl ⟨he, rfl⟩)
  next => exact .inr (.inr rfl)

/-- A message in a queue after an expiry was there, or expired in a queue whose dead letters
    come to it. -/
theorem mem_expire_cases (h : m ∈ expire t q i s q') :
    m ∈ s q' ∨ (m ∈ s q ∧ ∃ e, t.deadLetter q = some e ∧ t.Bound e m.routingKey q') := by
  rcases expire_cases t q i s with ⟨m₀, e, hm₀, he, heq⟩ | ⟨-, heq⟩ | heq <;> rw [heq] at h
  · rcases mem_publish.1 h with h | ⟨hbound, rfl⟩
    · exact .inl (mem_of_mem_take h)
    · exact .inr ⟨List.mem_of_getElem? hm₀, e, he, hbound⟩
  · exact .inl (mem_of_mem_take h)
  · exact .inl h

/-- A queue to which its own dead letters come keeps its messages. -/
theorem mem_expire_of_bound (he : t.deadLetter q = some e) (hbound : t.Bound e m.routingKey q)
    (h : m ∈ s q) : m ∈ expire t q i s q := by
  rcases expire_cases t q i s with ⟨m₀, e₀, hm₀, he₀, heq⟩ | ⟨he₀, -⟩ | heq
  · obtain rfl : e = e₀ := Option.some_inj.1 (he.symm.trans he₀)
    rw [heq, mem_publish]
    rcases mem_take_or h with h | ⟨-, hm⟩
    · exact .inl h
    · obtain rfl : m₀ = m := Option.some_inj.1 (hm₀.symm.trans hm)
      exact .inr ⟨hbound, rfl⟩
  · rw [he] at he₀
    cases he₀
  · rwa [heq]

/-- An expiry takes nothing from other queues. -/
theorem mem_expire_of_ne (hq : q' ≠ q) (h : m ∈ s q') : m ∈ expire t q i s q' := by
  rcases expire_cases t q i s with ⟨m₀, e, -, -, heq⟩ | ⟨-, heq⟩ | heq <;> rw [heq]
  · exact mem_publish.2 (.inl ((mem_take_of_ne hq).2 h))
  · exact (mem_take_of_ne hq).2 h
  · exact h

end Broker
