import CosmicSync.Storage.Schema

/-!
# What the statements of a migration do

A statement that is not refused has an effect on its table (`effect_of_apply`); from it follows
which columns there are afterwards, what is in them, and which answers of `information_schema`
the statement establishes and which it leaves. `evidence` and `absence` put this together for
the scripts.
-/

namespace CosmicSync.Schema

open Scripts Run

/-! ## What a statement does to its table -/

variable {db db' : Database} {a : Statement} {q : Query} {t t' : SqlTable} {c : String}

/-- What has happened to the table if the statement was not refused. -/
def Statement.Effect (db : Database) (t t' : SqlTable) : Statement → Prop
  | createTable _ ifNotExists .. => ifNotExists ∧ t' = t
  | addColumn _ c _ =>
    c.name ∉ t.names ∧ t'.columns = t.columns ++ [c] ∧ t'.indexes = t.indexes ∧
      t'.rows = t.rows.map fun r => Function.update r c.name c.initial
  | changeColumn _ old c =>
    old ∈ t.names ∧ (c.name = old ∨ c.name ∉ t.names) ∧
      t'.columns = SqlTable.renamed t.columns old c ∧
      (t'.indexes = t.indexes.map fun ix =>
        { ix with columns := ix.columns.map (SqlTable.rename old c.name) }) ∧
      t'.rows = t.rows.map fun r => Function.update r c.name (r old)
  | modifyColumn _ c =>
    c.name ∈ t.names ∧ t'.columns = SqlTable.renamed t.columns c.name c ∧
      t'.indexes = t.indexes ∧ t'.foreignKeys = t.foreignKeys ∧ t'.rows = t.rows
  | createIndex _ ix =>
    (∀ ix' ∈ t.indexes, ix'.name ≠ ix.name) ∧ t'.columns = t.columns ∧
      t'.indexes = t.indexes ++ [ix] ∧ t'.rows = t.rows
  | addForeignKey .. => t'.columns = t.columns ∧ t'.indexes = t.indexes ∧ t'.rows = t.rows
  | fill _ column blank source =>
    t'.columns = t.columns ∧ t'.indexes = t.indexes ∧
      t'.rows = t.rows.map fun r =>
        if r column = blank then (source.read db r).elim r (Function.update r column) else r

theorem SqlTable.effect_of_apply (h : t.apply db a = some t') : a.Effect db t t' := by
  cases a with
  | createTable =>
    simp only [apply, Option.ite_none_right_eq_some, Option.some.injEq] at h
    exact ⟨h.1, h.2.symm⟩
  | addColumn =>
    simp only [apply, addColumn, Option.dite_none_right_eq_some, Option.some.injEq] at h
    obtain ⟨⟨hc, -⟩, rfl⟩ := h
    exact ⟨hc, rfl, rfl, rfl⟩
  | changeColumn =>
    simp only [apply, changeColumn, Option.dite_none_right_eq_some, Option.some.injEq] at h
    obtain ⟨⟨hold, hnew, -⟩, rfl⟩ := h
    exact ⟨hold, hnew, rfl, rfl, rfl⟩
  | modifyColumn =>
    simp only [apply, modifyColumn, Option.ite_none_right_eq_some, Option.some.injEq] at h
    obtain ⟨⟨hc, -⟩, rfl⟩ := h
    exact ⟨hc, rfl, rfl, rfl, rfl⟩
  | createIndex =>
    simp only [apply, createIndex, Option.ite_none_right_eq_some, Option.some.injEq] at h
    obtain ⟨⟨hname, -⟩, rfl⟩ := h
    exact ⟨hname, rfl, rfl, rfl⟩
  | addForeignKey =>
    simp only [apply, addForeignKey, Option.ite_none_right_eq_some, Option.some.injEq] at h
    obtain ⟨-, rfl⟩ := h
    exact ⟨rfl, rfl, rfl⟩
  | fill =>
    simp only [apply, fill, Option.ite_none_right_eq_some, Option.some.injEq] at h
    obtain ⟨-, rfl⟩ := h
    exact ⟨rfl, rfl, rfl⟩

def Statement.namesAfter (names : List String) : Statement → List String
  | addColumn _ c .. => names ++ [c.name]
  | changeColumn _ old c => names.map (SqlTable.rename old c.name)
  | _ => names

theorem SqlTable.names_apply (h : t.apply db a = some t') : t'.names = a.namesAfter t.names := by
  have hspec := effect_of_apply h
  cases a with
  | createTable => exact congrArg names hspec.2
  | addColumn => simp [names, Statement.namesAfter, hspec.2.1]
  | changeColumn => rw [names, hspec.2.2.1, names_renamed, names, Statement.namesAfter]
  | modifyColumn t c' =>
    rw [names, hspec.2.1, names_renamed]
    exact List.map_id'' (fun c => by simp only [rename]; split <;> simp [*]) _
  | createIndex => exact congrArg (List.map _) hspec.2.1
  | addForeignKey => exact congrArg (List.map _) hspec.1
  | fill => exact congrArg (List.map _) hspec.1

namespace Statement

/-- The column is there after the statement. -/
def makes (c : String) : Statement → Bool
  | createTable _ ifNotExists columns .. => !ifNotExists && columns.any (·.name = c)
  | addColumn _ c' .. | changeColumn _ _ c' | modifyColumn _ c' => c'.name = c
  | _ => false

/-- The columns that may be new after the statement. -/
def added : Statement → List String
  | createTable _ _ columns .. => columns.map (·.name)
  | addColumn _ c .. | changeColumn _ _ c => [c.name]
  | _ => []

/-- The column is no longer there after the statement. -/
def drops (c : String) : Statement → Bool
  | changeColumn _ old c' => old = c ∧ c'.name ≠ c
  | _ => false

/-- The statement is refused if the column is there. -/
def collides (c : String) : Statement → Bool
  | createTable _ ifNotExists .. => !ifNotExists
  | addColumn _ c' .. => c'.name = c
  | changeColumn _ old c' => old ≠ c ∧ c'.name = c
  | _ => false

/-- The values in the column may be others after the statement. -/
def touches (c : String) : Statement → Bool
  | addColumn _ c' .. => c'.name = c
  | changeColumn _ old c' => old = c ∨ c'.name = c
  | fill _ column .. => column = c
  | _ => false

end Statement

theorem SqlTable.mem_names_of_makes (h : t.apply db a = some t') (ha : a.makes c) :
    c ∈ t'.names := by
  have hspec := effect_of_apply h
  have hnames := names_apply h
  cases a with
  | createTable => simp [Statement.makes, hspec.1] at ha
  | addColumn _ c' =>
    rw [hnames, ← of_decide_eq_true ha]
    exact List.mem_append_right _ (List.mem_singleton_self _)
  | changeColumn _ old c' =>
    rw [hnames, ← of_decide_eq_true ha]
    exact List.mem_map.2 ⟨old, hspec.1, by simp [rename]⟩
  | modifyColumn _ c' =>
    rw [hnames, ← of_decide_eq_true ha]
    exact hspec.1
  | _ => cases ha

theorem SqlTable.mem_names_of_not_drops (h : t.apply db a = some t') (ha : ¬a.drops c)
    (hc : c ∈ t.names) : c ∈ t'.names := by
  rw [names_apply h]
  cases a with
  | addColumn => exact List.mem_append_left _ hc
  | changeColumn _ old c' =>
    simp only [Statement.drops, decide_eq_true_eq, not_and, not_not] at ha
    refine List.mem_map.2 ⟨c, hc, ?_⟩
    simp only [rename]
    split
    · next h => exact ha h.symm
    · rfl
  | _ => exact hc

theorem SqlTable.mem_names_or_added (h : t.apply db a = some t') (hc : c ∈ t'.names) :
    c ∈ t.names ∨ c ∈ a.added := by
  rw [names_apply h] at hc
  cases a with
  | addColumn => exact List.mem_append.1 hc
  | changeColumn _ old c' =>
    obtain ⟨c₀, hc₀, hc⟩ := List.mem_map.1 hc
    simp only [rename] at hc
    split at hc
    · exact .inr (hc ▸ List.mem_singleton_self _)
    · exact .inl (hc ▸ hc₀)
  | _ => exact .inl hc

theorem SqlTable.not_mem_names_of_drops (h : t.apply db a = some t') (ha : a.drops c) :
    c ∉ t'.names := by
  have hnames := names_apply h
  cases a with
  | changeColumn _ old c' =>
    obtain ⟨rfl, hne⟩ := of_decide_eq_true ha
    rw [hnames, Statement.namesAfter, List.mem_map]
    rintro ⟨c, -, hc⟩
    simp only [rename] at hc
    split at hc
    · exact hne hc
    · next h => exact h hc
  | _ => cases ha

theorem SqlTable.apply_eq_none (ha : a.collides c) (hc : c ∈ t.names) : t.apply db a = none := by
  refine Option.eq_none_iff_forall_ne_some.2 fun t' h => ?_
  have hspec := effect_of_apply h
  cases a with
  | createTable => simp [Statement.collides, hspec.1] at ha
  | addColumn => exact hspec.1 (of_decide_eq_true ha ▸ hc)
  | changeColumn =>
    obtain ⟨hne, rfl⟩ := of_decide_eq_true ha
    exact hspec.2.1.elim (fun h => hne h.symm) fun h => h hc
  | _ => cases ha

theorem SqlTable.values_apply (h : t.apply db a = some t') (ha : ¬a.touches c) :
    t'.rows.map (· c) = t.rows.map (· c) := by
  have hspec := effect_of_apply h
  cases a with
  | createTable => rw [hspec.2]
  | addColumn =>
    have hne := of_decide_eq_false (Bool.eq_false_iff.2 ha)
    rw [hspec.2.2.2, List.map_map]
    exact List.map_congr_left fun r _ => Function.update_of_ne (Ne.symm hne) _ _
  | changeColumn =>
    have hne := of_decide_eq_false (Bool.eq_false_iff.2 ha)
    rw [hspec.2.2.2.2, List.map_map]
    exact List.map_congr_left fun r _ => Function.update_of_ne (fun h => hne (.inr h.symm)) _ _
  | modifyColumn => rw [hspec.2.2.2.2]
  | createIndex => rw [hspec.2.2.2]
  | addForeignKey => rw [hspec.2.2]
  | fill =>
    have hne := of_decide_eq_false (Bool.eq_false_iff.2 ha)
    rw [hspec.2.2, List.map_map]
    refine List.map_congr_left fun r _ => ?_
    simp only [Function.comp_apply]
    split
    · cases Source.read db r _ with
      | none => rfl
      | some v => exact Function.update_of_ne (Ne.symm hne) _ _
    · rfl

/-! ## Facts that statements establish -/

namespace Statement

/-- The answer is `true` after the statement. -/
def gives : Query → Statement → Bool
  | .hasTable _, _ => true
  | .hasColumn _ c, a => a.makes c
  | .isVarbinary _ c, modifyColumn _ c' => c'.name = c ∧ c'.dataType = "varbinary"
  | .hasUniqueIndex _ name, createIndex _ ix => ix.name = name ∧ ix.unique
  | .isUnique _ c, createIndex _ ix => ix.unique ∧ c ∈ ix.columns
  | .isUnique _ c, createTable _ ifNotExists _ indexes _ =>
    !ifNotExists && indexes.any fun ix => ix.unique ∧ c ∈ ix.columns
  | _, _ => false

/-- The answer stays `true`. -/
def spares : Query → Statement → Bool
  | .hasColumn _ c, a => !a.drops c
  | .isVarbinary _ c, changeColumn _ old _ => old ≠ c
  | .isVarbinary _ c, modifyColumn _ c' => c'.name ≠ c ∨ c'.dataType = "varbinary"
  | .isIndexed _ c, changeColumn _ old _ | .isUnique _ c, changeColumn _ old _ => old ≠ c
  | _, _ => true

end Statement

/-- If the second query is answered with `true`, so is the first. -/
def Query.follows (q : Query) : Query → Bool
  | isVarbinary t c => q = isVarbinary t c ∨ q = hasColumn t c
  | q' => q = q'

theorem SqlTable.answer_of_gives (h : t.apply db a = some t') (ha : a.gives q) : t'.answer q := by
  have heffect := effect_of_apply h
  cases q with
  | hasTable => rfl
  | hasColumn _ c => exact decide_eq_true (mem_names_of_makes h ha)
  | isVarbinary _ c =>
    cases a with
    | modifyColumn _ c' =>
      obtain ⟨c₀, hc₀, hname⟩ := List.mem_map.1 heffect.1
      rw [answer, heffect.2.1, List.any_eq_true]
      exact ⟨c', List.mem_map.2 ⟨c₀, hc₀, if_pos hname⟩, ha⟩
    | _ => cases ha
  | hasUniqueIndex _ name =>
    cases a with
    | createIndex _ ix =>
      rw [answer, heffect.2.2.1, List.any_eq_true]
      exact ⟨ix, List.mem_append_right _ (List.mem_singleton_self _), ha⟩
    | _ => cases ha
  | isUnique _ c =>
    cases a with
    | createIndex _ ix =>
      rw [answer, heffect.2.2.1, List.any_eq_true]
      exact ⟨ix, List.mem_append_right _ (List.mem_singleton_self _), ha⟩
    | createTable => simp [Statement.gives, heffect.1] at ha
    | _ => cases ha
  | isIndexed => cases ha

/-- An index whose columns keep their names is there, with them, whatever the statement. -/
theorem SqlTable.index_apply (h : t.apply db a = some t') {ix : Index} (hix : ix ∈ t.indexes) :
    ∃ ix' ∈ t'.indexes, ix'.name = ix.name ∧ ix'.unique = ix.unique ∧
      ∀ c ∈ ix.columns, (∀ T old c', a = .changeColumn T old c' → old ≠ c) → c ∈ ix'.columns := by
  have heffect := effect_of_apply h
  cases a with
  | changeColumn T old c' =>
    rw [heffect.2.2.2.1]
    refine ⟨_, List.mem_map_of_mem hix, rfl, rfl, fun c hc hne => ?_⟩
    exact List.mem_map.2 ⟨c, hc, if_neg (Ne.symm (hne T old c' rfl))⟩
  | createTable =>
    rw [heffect.2]
    exact ⟨ix, hix, rfl, rfl, fun c hc _ => hc⟩
  | addColumn =>
    rw [heffect.2.2.1]
    exact ⟨ix, hix, rfl, rfl, fun c hc _ => hc⟩
  | modifyColumn =>
    rw [heffect.2.2.1]
    exact ⟨ix, hix, rfl, rfl, fun c hc _ => hc⟩
  | createIndex =>
    rw [heffect.2.2.1]
    exact ⟨ix, List.mem_append_left _ hix, rfl, rfl, fun c hc _ => hc⟩
  | addForeignKey =>
    rw [heffect.2.1]
    exact ⟨ix, hix, rfl, rfl, fun c hc _ => hc⟩
  | fill =>
    rw [heffect.2.1]
    exact ⟨ix, hix, rfl, rfl, fun c hc _ => hc⟩

theorem SqlTable.varbinary_apply (h : t.apply db a = some t') {T : TableName}
    (ha : a.spares (.isVarbinary T c)) (hc : t.answer (.isVarbinary T c)) :
    t'.answer (.isVarbinary T c) := by
  have heffect := effect_of_apply h
  obtain ⟨c₀, hc₀, hdata⟩ := List.any_eq_true.1 hc
  rw [answer, List.any_eq_true]
  obtain ⟨hname, hvarbinary⟩ := of_decide_eq_true hdata
  cases a with
  | changeColumn _ old c' =>
    have hne : old ≠ c := of_decide_eq_true ha
    rw [heffect.2.2.1]
    exact ⟨c₀, List.mem_map.2 ⟨c₀, hc₀, if_neg (hname ▸ Ne.symm hne)⟩, hdata⟩
  | modifyColumn _ c' =>
    rw [heffect.2.1]
    by_cases hsame : c'.name = c
    · refine ⟨c', List.mem_map.2 ⟨c₀, hc₀, if_pos (hname.trans hsame.symm)⟩, ?_⟩
      exact decide_eq_true ⟨hsame, (of_decide_eq_true ha).resolve_left (not_not_intro hsame)⟩
    · exact ⟨c₀, List.mem_map.2 ⟨c₀, hc₀, if_neg (hname ▸ Ne.symm hsame)⟩, hdata⟩
  | createTable => exact ⟨c₀, heffect.2 ▸ hc₀, hdata⟩
  | addColumn => exact ⟨c₀, heffect.2.1 ▸ List.mem_append_left _ hc₀, hdata⟩
  | createIndex => exact ⟨c₀, heffect.2.1 ▸ hc₀, hdata⟩
  | addForeignKey => exact ⟨c₀, heffect.1 ▸ hc₀, hdata⟩
  | fill => exact ⟨c₀, heffect.1 ▸ hc₀, hdata⟩

theorem SqlTable.answer_of_spares (h : t.apply db a = some t') (ha : a.spares q)
    (hq : t.answer q) : t'.answer q := by
  cases q with
  | hasTable => rfl
  | hasColumn _ c =>
    refine decide_eq_true (mem_names_of_not_drops h ?_ (of_decide_eq_true hq))
    rw [Bool.not_eq_true]
    exact Bool.not_eq_true' _ ▸ ha
  | isVarbinary => exact varbinary_apply h ha hq
  | hasUniqueIndex _ name =>
    obtain ⟨ix, hix, hdata⟩ := List.any_eq_true.1 hq
    obtain ⟨ix', hix', hname, hunique, -⟩ := index_apply h hix
    exact List.any_eq_true.2 ⟨ix', hix', by rwa [hname, hunique]⟩
  | isIndexed _ c =>
    obtain ⟨ix, hix, hdata⟩ := List.any_eq_true.1 hq
    obtain ⟨ix', hix', -, -, hcolumns⟩ := index_apply h hix
    refine List.any_eq_true.2 ⟨ix', hix', decide_eq_true ?_⟩
    refine hcolumns c (of_decide_eq_true hdata) fun T old c' hchange => ?_
    subst hchange
    exact of_decide_eq_true ha
  | isUnique _ c =>
    obtain ⟨ix, hix, hdata⟩ := List.any_eq_true.1 hq
    obtain ⟨ix', hix', -, hunique, hcolumns⟩ := index_apply h hix
    obtain ⟨hdata, hc⟩ := of_decide_eq_true hdata
    refine List.any_eq_true.2 ⟨ix', hix', decide_eq_true ⟨hunique ▸ hdata, ?_⟩⟩
    refine hcolumns c hc fun T old c' hchange => ?_
    subst hchange
    exact of_decide_eq_true ha

/-! ## Statements on a database -/

theorem apply_of_ne (h : apply db a = some db') {T : TableName} (hne : a.table ≠ T) :
    db' T = db T := by
  obtain ⟨t', -, rfl⟩ := Option.map_eq_some_iff.1 h
  exact Function.update_of_ne (Ne.symm hne) _ _

theorem answer_of_ne (h : apply db a = some db') (hne : a.table ≠ q.table) :
    answer db' q = answer db q := by
  rw [answer, apply_of_ne h hne, answer]

/-- The table was created, or there was one. -/
theorem apply_table (h : apply db a = some db') :
    ∃ t', db' a.table = some t' ∧
      ((db a.table = none ∧ a.create db = some t') ∨
        ∃ t, db a.table = some t ∧ t.apply db a = some t') := by
  obtain ⟨t', ht', rfl⟩ := Option.map_eq_some_iff.1 h
  refine ⟨t', Function.update_self .., ?_⟩
  cases ht : db a.table with
  | none => exact .inl ⟨rfl, by rwa [ht] at ht'⟩
  | some t => exact .inr ⟨t, rfl, by rwa [ht] at ht'⟩

theorem apply_eq_self (ht : db a.table = some t) (h : t.apply db a = some t) :
    apply db a = some db := by
  rw [apply, ht, Option.elim, h, Option.map_some, ← ht, Function.update_eq_self]

theorem apply_eq_none (ht : db a.table = some t) (h : t.apply db a = none) : apply db a = none := by
  rw [apply, ht, Option.elim, h, Option.map_none]

theorem answer_iff : answer db q ↔ ∃ t, db q.table = some t ∧ t.answer q := by
  rw [answer]
  cases db q.table with
  | none => simp
  | some t => simp

theorem Statement.create_eq_some (h : a.create db = some t) :
    ∃ T ifNotExists columns indexes foreignKeys,
      a = createTable T ifNotExists columns indexes foreignKeys ∧ t.columns = columns ∧
        t.indexes = indexes ∧ t.rows = [] := by
  cases a with
  | createTable T ifNotExists columns indexes foreignKeys =>
    simp only [create, SqlTable.create, Option.dite_none_right_eq_some, Option.some.injEq] at h
    obtain ⟨-, rfl⟩ := h
    exact ⟨T, ifNotExists, columns, indexes, foreignKeys, rfl, rfl, rfl, rfl⟩
  | _ => cases h

theorem SqlTable.answer_of_create (h : a.create db = some t) (ha : a.gives q) : t.answer q := by
  obtain ⟨T, ifNotExists, columns, indexes, foreignKeys, rfl, rfl, rfl, -⟩ :=
    Statement.create_eq_some h
  cases q with
  | hasTable => rfl
  | hasColumn _ c =>
    simp only [Statement.gives, Statement.makes, Bool.and_eq_true, List.any_eq_true,
      decide_eq_true_eq] at ha
    exact decide_eq_true (List.mem_map.2 ha.2)
  | isUnique _ c =>
    simp only [Statement.gives, Bool.and_eq_true] at ha
    exact ha.2
  | isVarbinary => cases ha
  | isIndexed => cases ha
  | hasUniqueIndex => cases ha

/-- How the answer `true` to a query is found or made. -/
def evidence (q : Query) : Evidence Statement Query where
  gives a := a.table = q.table && a.gives q
  keeps a := a.table ≠ q.table || a.spares q
  tells q' b := q.follows q' && b

theorem evidence_sound (q : Query) : (evidence q).Sound engine (answer · q) where
  gives := by
    intro db db' a ha h
    obtain ⟨htable, hgives⟩ := Bool.and_eq_true _ _ ▸ ha
    obtain ⟨t', ht', hcases⟩ := apply_table h
    rw [answer, ← of_decide_eq_true htable, ht']
    rcases hcases with ⟨-, hcreate⟩ | ⟨t, -, happly⟩
    · exact SqlTable.answer_of_create hcreate hgives
    · exact SqlTable.answer_of_gives happly hgives
  keeps := by
    intro db db' a ha hq h
    by_cases htable : a.table = q.table
    · have hspares : a.spares q := by simpa [evidence, htable] using ha
      obtain ⟨t', ht', hcases⟩ := apply_table h
      rw [answer, ← htable, ht']
      rw [answer, ← htable] at hq
      rcases hcases with ⟨hnone, -⟩ | ⟨t, ht, happly⟩
      · rw [hnone] at hq
        cases hq
      · rw [ht] at hq
        exact SqlTable.answer_of_spares happly hspares hq
    · rwa [answer_of_ne h htable]
  tells := by
    intro db q' b ha h
    obtain ⟨hfollows, rfl⟩ := Bool.and_eq_true _ _ ▸ ha
    cases q' with
    | isVarbinary T c =>
      rcases of_decide_eq_true hfollows with rfl | rfl
      · exact h
      · simp only [engine, answer, Query.table] at h ⊢
        cases ht : db T with
        | none => simp [ht] at h
        | some t =>
          rw [ht] at h
          obtain ⟨c', hc', hdata⟩ := List.any_eq_true.1 h
          exact decide_eq_true (List.mem_map.2 ⟨c', hc', (of_decide_eq_true hdata).1⟩)
    | _ => exact of_decide_eq_true hfollows ▸ h

/-- How a column comes to be missing. -/
def absence (T : TableName) (c : String) : Evidence Statement Query where
  gives a := a.table = T && a.drops c
  keeps a := a.table ≠ T || c ∉ a.added
  tells q b := q = .hasColumn T c && !b

theorem absence_sound (T : TableName) (c : String) :
    (absence T c).Sound engine (answer · (.hasColumn T c) = false) where
  gives := by
    intro db db' a ha h
    obtain ⟨htable, hdrops⟩ := Bool.and_eq_true _ _ ▸ ha
    obtain ⟨t', ht', hcases⟩ := apply_table h
    rw [answer, Query.table, ← of_decide_eq_true htable, ht']
    rcases hcases with ⟨-, hcreate⟩ | ⟨t, -, happly⟩
    · obtain ⟨_, _, _, _, _, rfl, -⟩ := Statement.create_eq_some hcreate
      cases hdrops
    · exact decide_eq_false (SqlTable.not_mem_names_of_drops happly hdrops)
  keeps := by
    intro db db' a ha hq h
    by_cases htable : a.table = T
    · subst htable
      have hadded : c ∉ a.added := by simpa [absence] using ha
      obtain ⟨t', ht', hcases⟩ := apply_table h
      rw [answer, Query.table, ht']
      rw [answer, Query.table] at hq
      refine decide_eq_false fun hc => ?_
      rcases hcases with ⟨-, hcreate⟩ | ⟨t, ht, happly⟩
      · obtain ⟨_, _, _, _, _, rfl, rfl, -⟩ := Statement.create_eq_some hcreate
        exact hadded hc
      · rw [ht] at hq
        exact (SqlTable.mem_names_or_added happly hc).elim (of_decide_eq_false hq) hadded
    · rw [answer_of_ne (q := .hasColumn T c) h htable]
      exact hq
  tells := by
    intro db q b ha h
    obtain ⟨hquery, hb⟩ := Bool.and_eq_true _ _ ▸ ha
    obtain rfl := of_decide_eq_true hquery
    rw [Bool.not_eq_true'] at hb
    exact h.trans hb

end CosmicSync.Schema
