import CosmicSync.Library.Table

/-!
# Hash maps

A hash map holds a value for each of its keys. It is the list of its entries, no two of
which have the same key. A loop over a hash map meets the entries in no particular order,
and so does a query of a table: it takes a `Planner`.
-/

namespace Table

/-- A hash map: entries with unique keys. -/
structure HashMap (κ α : Type*) where
  entries : List (κ × α)
  keyed : Keyed Prod.fst entries

namespace HashMap

variable {κ α : Type*}

/-- No entries. -/
def empty : HashMap κ α := ⟨[], .nil⟩

section

variable [DecidableEq κ] (m : HashMap κ α) (k : κ)

/-- The value of a key. -/
def get? : Option α := (m.entries.find? (·.1 = k)).map Prod.snd

/-- The entry is added, or takes the place of the one with its key. -/
def insert (a : α) : HashMap κ α where
  entries := upsert (·.1 = k) (fun e => (e.1, a)) (k, a) m.entries
  keyed := m.keyed.upsert (fun _ => rfl) fun h => h

/-- The value of a key is changed in its place. -/
def modify (f : α → α) : HashMap κ α where
  entries := updateWhere (·.1 = k) (fun e => (e.1, f e.2)) m.entries
  keyed := m.keyed.updateWhere fun _ => rfl

end

/-- Only the entries whose values have `p` stay. -/
def retain (m : HashMap κ α) (p : κ → α → Prop) [∀ k a, Decidable (p k a)] : HashMap κ α where
  entries := m.entries.filter fun e => p e.1 e.2
  keyed := List.Nodup.sublist (List.filter_sublist.map Prod.fst) m.keyed

/-- The entry of a key goes. -/
def remove [DecidableEq κ] (m : HashMap κ α) (k : κ) : HashMap κ α := m.retain fun k' _ => k' ≠ k

/-- The first entry with `p` that a loop meets. -/
def findEntry (pl : Planner) (m : HashMap κ α) (p : α → Prop) [DecidablePred p] : Option (κ × α) :=
  fetchOptional pl (fun e => p e.2) m.entries

/-- The key after the largest one, 1 if there is none. -/
def nextKey (m : HashMap ℤ α) : ℤ := (m.entries.map Prod.fst).max?.elim 1 (· + 1)

/-! ## What they hold -/

variable {m : HashMap κ α} {k k' : κ} {a : α} {e : κ × α}

theorem get?_eq_some [DecidableEq κ] : m.get? k = some a ↔ (k, a) ∈ m.entries := by
  rw [get?, Option.map_eq_some_iff]
  constructor
  · rintro ⟨e, he, rfl⟩
    have hk : e.1 = k := by simpa using List.find?_some he
    rw [← hk]
    exact List.mem_of_find?_eq_some he
  · intro hmem
    rcases hfind : m.entries.find? fun e => e.1 = k with _ | e
    · exact absurd (List.find?_eq_none.1 hfind (k, a) hmem) (by simp)
    · have hk : e.1 = k := by simpa using List.find?_some hfind
      have heq : e = (k, a) := m.keyed.eq_of_mem (List.mem_of_find?_eq_some hfind) hmem hk
      exact ⟨e, hfind, by rw [heq]⟩

@[simp]
theorem mem_insert [DecidableEq κ] :
    e ∈ (m.insert k a).entries ↔ e = (k, a) ∨ (e ∈ m.entries ∧ e.1 ≠ k) := by
  constructor
  · intro h
    rcases mem_upsert_cases h with ⟨hmem, hne⟩ | ⟨e₀, -, rfl, rfl⟩ | ⟨-, rfl⟩
    · exact .inr ⟨hmem, hne⟩
    · exact .inl rfl
    · exact .inl rfl
  · rintro (rfl | ⟨hmem, hne⟩)
    · by_cases hex : ∃ e ∈ m.entries, e.1 = k
      · obtain ⟨e, he, hk⟩ := hex
        dsimp only [insert]
        rw [upsert, if_pos ⟨e, he, hk⟩]
        exact mem_updateWhere.2 ⟨e, he, by rw [if_pos hk, hk]⟩
      · dsimp only [insert]
        rw [upsert, if_neg hex]
        exact List.mem_append_right _ (List.mem_singleton_self _)
    · exact mem_upsert_of_not hmem hne

@[simp]
theorem mem_retain {p : κ → α → Prop} [∀ k a, Decidable (p k a)] :
    e ∈ (m.retain p).entries ↔ e ∈ m.entries ∧ p e.1 e.2 := by
  simp [retain]

@[simp]
theorem mem_remove [DecidableEq κ] : e ∈ (m.remove k).entries ↔ e ∈ m.entries ∧ e.1 ≠ k :=
  mem_retain

theorem get?_insert [DecidableEq κ] :
    (m.insert k a).get? k' = if k' = k then some a else m.get? k' := by
  ext b
  rw [get?_eq_some, mem_insert, Prod.mk.injEq]
  split
  next hk => simp [hk, eq_comm]
  next hk => simp [hk, get?_eq_some]

theorem get?_modify [DecidableEq κ] {f : α → α} :
    (m.modify k f).get? k' = if k' = k then (m.get? k').map f else m.get? k' := by
  ext b
  rw [get?_eq_some]
  by_cases hk : k' = k
  · subst hk
    rw [if_pos rfl, Option.map_eq_some_iff]
    constructor
    · intro h
      rcases mem_updateWhere_cases h with ⟨-, hne⟩ | ⟨⟨k₀, b₀⟩, he, -, heq⟩
      · exact absurd rfl hne
      · cases heq
        exact ⟨b₀, get?_eq_some.2 he, rfl⟩
    · rintro ⟨b₀, hb₀, rfl⟩
      exact mem_updateWhere.2 ⟨(k', b₀), get?_eq_some.1 hb₀, if_pos rfl⟩
  · rw [if_neg hk, get?_eq_some]
    constructor
    · intro h
      rcases mem_updateWhere_cases h with ⟨he, -⟩ | ⟨e₀, -, hk₀, heq⟩
      · exact he
      · cases heq
        exact absurd hk₀ hk
    · exact fun he => mem_updateWhere_of_not he hk

theorem get?_retain [DecidableEq κ] {p : κ → α → Prop} [∀ k a, Decidable (p k a)] :
    (m.retain p).get? k = (m.get? k).filter (p k ·) := by
  ext b
  rw [get?_eq_some, mem_retain, Option.filter_eq_some_iff, get?_eq_some]
  simp

theorem get?_remove [DecidableEq κ] :
    (m.remove k).get? k' = if k' = k then none else m.get? k' := by
  ext b
  rw [get?_eq_some, mem_remove]
  split
  next hk => simp [hk]
  next hk => simp [hk, get?_eq_some]

@[simp]
theorem length_modify [DecidableEq κ] {f : α → α} :
    (m.modify k f).entries.length = m.entries.length := List.length_map _

theorem length_insert_le [DecidableEq κ] :
    (m.insert k a).entries.length ≤ m.entries.length + 1 := by
  dsimp only [insert]
  rw [upsert]
  split
  · rw [updateWhere, List.length_map]
    exact Nat.le_succ _
  · rw [List.length_append, List.length_singleton]

/-- Properties of the values that a change keeps. -/
theorem mem_modify_iff [DecidableEq κ] {f : α → α} {P : κ → α → Prop}
    (hf : ∀ k a, P k (f a) ↔ P k a) :
    (∃ e ∈ (m.modify k f).entries, P e.1 e.2) ↔ ∃ e ∈ m.entries, P e.1 e.2 := by
  constructor
  · rintro ⟨e, he, hP⟩
    rcases mem_updateWhere_cases he with ⟨he, -⟩ | ⟨e₀, he₀, -, rfl⟩
    · exact ⟨e, he, hP⟩
    · exact ⟨e₀, he₀, (hf _ _).1 hP⟩
  · rintro ⟨e, he, hP⟩
    by_cases hk : e.1 = k
    · exact ⟨(e.1, f e.2), mem_updateWhere.2 ⟨e, he, if_pos hk⟩, (hf _ _).2 hP⟩
    · exact ⟨e, mem_updateWhere_of_not he hk, hP⟩

theorem findEntry_some {pl : Planner} {p : α → Prop} [DecidablePred p]
    (h : m.findEntry pl p = some e) :
    e ∈ m.entries ∧ p e.2 := fetchOptional_some h

theorem lt_nextKey {m : HashMap ℤ α} {e : ℤ × α} (h : e ∈ m.entries) : e.1 < m.nextKey := by
  rw [nextKey]
  rcases hmax : (m.entries.map Prod.fst).max? with _ | k
  · rw [List.max?_eq_none_iff, List.map_eq_nil_iff] at hmax
    exact absurd h (hmax ▸ List.not_mem_nil)
  · have hle := (List.max?_eq_some_iff.1 hmax).2 _ (List.mem_map_of_mem (f := Prod.fst) h)
    rw [Option.elim_some]
    omega

/-- An entry with the next key is a new one. -/
theorem entries_insert_nextKey (m : HashMap ℤ α) (a : α) :
    (m.insert m.nextKey a).entries = m.entries ++ [(m.nextKey, a)] :=
  upsert_of_forall fun _ he => (lt_nextKey he).ne

end HashMap

end Table
