import CosmicSync.Storage.SchemaFacts

/-!
# What a start makes of the schema

Any number of servers start on a database, at the same time or after one another, and each may
stop anywhere.

* `started_iff`: the columns that a server which has come through finds, whatever database it
  was given.
* `created_iff`: on a database that began empty, the columns of each table.
* `settled_run`: once a server has come through without a failure, later ones can only declare two
  columns of `files` anew.
* `values_run`, `presets_run`: the rows that were there keep what is in them.
-/

namespace CosmicSync.Schema

open Scripts Run Interleaving

variable {db : Database} {ops : List Op} {server : Progress Statement Query}

/-! ## What every start makes sure of -/

/-- Both ways to start execute scripts that come from `initSchema` and `migrateSchema`. -/
theorem Start.within_scripts {K : Knowledge Statement Query} (hinit : initSchema.within K)
    (hmigrate : migrateSchema.within K) (start : Start) :
    ∀ script ∈ start.scripts, script.within K := by
  intro script hscript
  cases start with
  | initializeStorage =>
    rw [List.mem_singleton.1 hscript]
    exact Script.within_seq hinit hmigrate
  | createMysqlStorage =>
    rcases List.mem_cons.1 hscript with rfl | hscript
    · exact hinit
    · rwa [List.mem_singleton.1 hscript]

theorem Start.establishes_scripts {V : Evidence Statement Query} {heed : Bool}
    (h : (initSchema.seq migrateSchema).establishes V heed) (start : Start) :
    ∃ script ∈ start.scripts, script.establishes V heed := by
  cases start with
  | initializeStorage => exact ⟨_, List.mem_singleton_self _, h⟩
  | createMysqlStorage =>
    rw [Script.establishes_seq, Bool.or_eq_true] at h
    rcases h with h | h
    · exact ⟨_, List.mem_cons_self, h⟩
    · exact ⟨_, List.mem_cons_of_mem _ (List.mem_singleton_self _), h⟩

/-- A fact that the functions keep and establish holds once a server has come through. -/
theorem fact_run {V : Evidence Statement Query} {fact : Database → Prop} {heed : Bool}
    (hV : V.Sound engine fact) (hinit : initSchema.within (.keeping V.keeps))
    (hmigrate : migrateSchema.within (.keeping V.keeps))
    (h : (initSchema.seq migrateSchema).establishes V heed)
    (hserver : server ∈ (run system.step (idle db) ops).requests)
    (hsucceeded : server.Succeeded) (hheed : heed → server.warned = false) :
    fact (run system.step (idle db) ops).shared :=
  establishes_run hV (Start.within_scripts hinit hmigrate) (Start.establishes_scripts h) hserver
    hsucceeded hheed

/-- An invariant that no statement breaks which the functions can get to holds after every run,
    if the servers that are there have ended. -/
theorem invariant_run {K : Knowledge Statement Query} {I : Database → Prop} {s : State}
    (hK : K.Sound engine I) (hinit : initSchema.within K) (hmigrate : migrateSchema.within K)
    (hended : ∀ server ∈ s.requests, server.Ended) (hI : I s.shared) :
    I (run system.step s ops).shared := by
  refine (within_run hK (Start.within_scripts hinit hmigrate) ⟨hI, fun server hserver => ?_⟩).1
  obtain ⟨hscript, hrest⟩ := hended server hserver
  refine ⟨by rw [hscript]; rfl, fun script hmem => ?_⟩
  rw [hrest] at hmem
  cases hmem

theorem mem_columnsOf {T : TableName} {c : String} :
    c ∈ db.columnsOf T ↔ answer db (.hasColumn T c) := by
  rw [answer, Database.columnsOf, Query.table]
  cases db T with
  | none => simp
  | some t => exact decide_eq_true_iff.symm

/-- The columns that are looked for, and made if they are not there, such that a failure is
    returned. -/
def guaranteed : TableName → List String
  | .files => ["is_encrypted", "operation_type", "eq_index", "key_id", "server_group_id",
      "server_watcher_id", "file_path", "filename"]
  | .watcherConditions => ["account_hash"]
  | .watchers => ["watcher_id"]
  | _ => []

/-- An old database with no more than these; a table that none of them is of has one other
    column. -/
def leastDatabase (spare : String) : Database
  | .fileData | .fileNotices => none
  | .files => some ⟨(guaranteed .files).map (varbinary · 32), [], [], [], by decide +kernel⟩
  | .watcherConditions =>
    some ⟨(guaranteed .watcherConditions).map (varchar · 255), [], [], [], by decide +kernel⟩
  | .watchers => some ⟨(guaranteed .watchers).map int, [], [], [], by decide +kernel⟩
  | _ => some ⟨[int spare], [], [], [], List.nodup_singleton _⟩

/-- A start in which everything fails whose failure is passed over. -/
def leastStart : List Op :=
  .start .createMysqlStorage :: ([(12, false), (3, true), (10, false), (1, true), (1, false),
    (8, true), (2, false), (1, true), (1, false), (1, true)].flatMap fun (n, fails) =>
      List.replicate n (.next 0 fails))

theorem least_run {spare : String} (hspare : spare ∈ ["first", "second"]) :
    (∃ server ∈ (run system.step (idle (leastDatabase spare)) leastStart).requests,
      server.Succeeded) ∧
      ∀ T, (run system.step (idle (leastDatabase spare)) leastStart).shared.columnsOf T ⊆
        spare :: guaranteed T := by
  constructor
  · revert spare
    decide +kernel
  · intro T
    revert spare
    cases T <;> decide +kernel

theorem guaranteed_run {T : TableName} {c : String} (hc : c ∈ guaranteed T)
    (hserver : server ∈ (run system.step (idle db) ops).requests)
    (hsucceeded : server.Succeeded) :
    c ∈ (run system.step (idle db) ops).shared.columnsOf T := by
  have hclosed : initSchema.within (.keeping (evidence (.hasColumn T c)).keeps) ∧
      migrateSchema.within (.keeping (evidence (.hasColumn T c)).keeps) ∧
        (initSchema.seq migrateSchema).establishes (evidence (.hasColumn T c)) false := by
    revert c
    cases T <;> decide +kernel
  obtain ⟨hinit, hmigrate, h⟩ := hclosed
  exact mem_columnsOf.2
    (fact_run (evidence_sound _) hinit hmigrate h hserver hsucceeded fun h => nomatch h)

/-- Exactly these columns are there, whatever the database was, once a server has come
    through. -/
theorem started_iff (T : TableName) (c : String) :
    (∀ db ops, ∀ server ∈ (run system.step (idle db) ops).requests,
      server.Succeeded → c ∈ (run system.step (idle db) ops).shared.columnsOf T) ↔
        c ∈ guaranteed T := by
  refine ⟨fun h => ?_, fun hc db ops server => guaranteed_run hc⟩
  have hleast : ∀ spare ∈ ["first", "second"], c ∈ spare :: guaranteed T := fun spare hspare => by
    obtain ⟨⟨server, hserver, hsucceeded⟩, hcolumns⟩ := least_run hspare
    exact hcolumns T (h _ leastStart server hserver hsucceeded)
  -- The other column has one name or another.
  rcases List.mem_cons.1 (hleast "first" (by decide)) with rfl | hc
  · exact (List.mem_cons.1 (hleast "second" (by decide))).resolve_left (by decide)
  · exact hc

/-! ## A database that began empty -/

def Statement.isCreation : Statement → Bool
  | createTable .. => true
  | _ => false

/-- The columns of the `CREATE TABLE` of a table. -/
def created (T : TableName) : List String :=
  ((initSchema.seq migrateSchema).statements.find? fun a => a.isCreation ∧ a.table = T).elim []
    Statement.added

/-- One column is only ever added. -/
def freshColumns (T : TableName) : List String :=
  created T ++ if T = .files then ["operation_type"] else []

theorem mem_columnsOf_or_added {a : Statement} {db' : Database} {T : TableName} {c : String}
    (h : apply db a = some db') (hc : c ∈ db'.columnsOf T) :
    c ∈ db.columnsOf T ∨ (a.table = T ∧ c ∈ a.added) := by
  by_contra hnot
  obtain ⟨hcolumn, hadded⟩ := not_or.1 hnot
  have habsent : answer db (.hasColumn T c) = false :=
    Bool.eq_false_iff.2 (mt mem_columnsOf.2 hcolumn)
  have hkeeps : (absence T c).keeps a := by
    simpa [absence, Classical.or_iff_not_imp_left] using hadded
  have := (absence_sound T c).keeps hkeeps habsent h
  rw [mem_columnsOf, this] at hc
  cases hc

theorem columnsOf_subset_run {T : TableName} {c : String}
    (hc : c ∈ (run system.step (idle fun _ => none) ops).shared.columnsOf T) :
    c ∈ freshColumns T := by
  refine invariant_run (s := idle fun _ => none)
    (I := fun db => ∀ T, ∀ c ∈ db.columnsOf T, c ∈ freshColumns T)
    (K := .keeping fun a => a.added.all (· ∈ freshColumns a.table))
    (Knowledge.keeping_sound fun db db' a hallowed hI h T c hc => ?_) (by decide +kernel)
    (by decide +kernel) (fun _ h => nomatch h) (fun _ _ h => nomatch h) T c hc
  rcases mem_columnsOf_or_added h hc with hc | ⟨rfl, hadded⟩
  · exact hI T c hc
  · exact of_decide_eq_true (List.all_eq_true.1 hallowed c hadded)

/-- A table that is there has the columns with which it was created. -/
theorem created_subset_run {T : TableName} {c : String} (hc : c ∈ created T)
    (htable : answer (run system.step (idle fun _ => none) ops).shared (.hasTable T)) :
    c ∈ (run system.step (idle fun _ => none) ops).shared.columnsOf T := by
  refine invariant_run (s := idle fun _ => none)
    (I := fun db => ∀ T, answer db (.hasTable T) → ∀ c ∈ created T, c ∈ db.columnsOf T)
    (K := .keeping fun a => (!a.isCreation || (created a.table).all (· ∈ a.added)) &&
      (created a.table).all (!a.drops ·))
    (Knowledge.keeping_sound ?_) (by decide +kernel) (by decide +kernel)
    (fun _ h => nomatch h) (fun _ h => nomatch h) T htable c hc
  intro db db' a hallowed hI h T htable c hc
  obtain ⟨hcreation, hdrops⟩ := Bool.and_eq_true _ _ ▸ hallowed
  by_cases hne : a.table = T
  · subst hne
    have hdrops : ¬a.drops c := by simpa using List.all_eq_true.1 hdrops c hc
    obtain ⟨t', ht', ⟨-, hcreate⟩ | ⟨t, ht, happly⟩⟩ := apply_table h
    · obtain ⟨_, _, _, _, _, rfl, hcolumns, -⟩ := Statement.create_eq_some hcreate
      rw [Database.columnsOf, ht', Option.elim, SqlTable.names, hcolumns]
      exact of_decide_eq_true (List.all_eq_true.1 hcreation c hc)
    · rw [Database.columnsOf, ht']
      refine SqlTable.mem_names_of_not_drops happly hdrops ?_
      have := hI a.table (by rw [answer, Query.table, ht]; rfl) c hc
      rwa [Database.columnsOf, ht] at this
  · rw [answer_of_ne (q := .hasTable T) h hne] at htable
    rw [mem_columnsOf, answer_of_ne (q := .hasColumn T c) h hne, ← mem_columnsOf]
    exact hI T htable c hc

theorem created_iff (hserver : server ∈ (run system.step (idle fun _ => none) ops).requests)
    (hsucceeded : server.Succeeded) (T : TableName) (c : String) :
    c ∈ (run system.step (idle fun _ => none) ops).shared.columnsOf T ↔ c ∈ freshColumns T := by
  refine ⟨columnsOf_subset_run, fun hc => ?_⟩
  rcases List.mem_append.1 hc with hc | hc
  · have hclosed : created T = [] ∨ initSchema.within (.keeping (evidence (.hasTable T)).keeps) ∧
        migrateSchema.within (.keeping (evidence (.hasTable T)).keeps) ∧
          (initSchema.seq migrateSchema).establishes (evidence (.hasTable T)) false := by
      cases T <;> decide +kernel
    rcases hclosed with hnil | ⟨hinit, hmigrate, h⟩
    · rw [hnil] at hc
      cases hc
    · exact created_subset_run hc
        (fact_run (evidence_sound _) hinit hmigrate h hserver hsucceeded fun h => nomatch h)
  · by_cases hfiles : T = .files
    · subst hfiles
      obtain rfl := List.mem_singleton.1 hc
      exact guaranteed_run (by decide +kernel) hserver hsucceeded
    · rw [if_neg hfiles] at hc
      cases hc

/-- A start on an empty database, with a second one beside it that fails. -/
def sampleStarts : List Op :=
  [.start .createMysqlStorage, .start .initializeStorage, .next 1 false, .next 1 true] ++
    List.replicate 40 (.next 0 false)

/-! ## A database that a start has settled -/

/-- What `migrate_schema` finds if it has nothing to do; and the tables of `init_schema`. -/
def settledQueries : List Query :=
  [.accounts, .authTokens, .devices, .files, .encryptionKeys].map .hasTable ++
    migrateSchema.queries.filter fun q =>
      q ≠ .hasColumn .watcherPresets "presets" ∧ q ≠ .isIndexed .files "eq_index"

def Settled (db : Database) : Prop :=
  (∀ q ∈ settledQueries, answer db q) ∧ answer db (.hasColumn .watcherPresets "presets") = false

/-- Nothing is to be done after a start in which nothing has failed. -/
theorem settled_start (hserver : server ∈ (run system.step (idle db) ops).requests)
    (hsucceeded : server.Succeeded) (hwarned : server.warned = false) :
    Settled (run system.step (idle db) ops).shared := by
  constructor
  · have hclosed : ∀ q ∈ settledQueries, initSchema.within (.keeping (evidence q).keeps) ∧
        migrateSchema.within (.keeping (evidence q).keeps) ∧
          (initSchema.seq migrateSchema).establishes (evidence q) true := by decide +kernel
    intro q hq
    obtain ⟨hinit, hmigrate, h⟩ := hclosed q hq
    exact fact_run (evidence_sound q) hinit hmigrate h hserver hsucceeded fun _ => hwarned
  · have h :
        (initSchema.seq migrateSchema).establishes (absence .watcherPresets "presets") true := by
      decide +kernel
    exact fact_run (absence_sound .watcherPresets "presets") (by decide +kernel)
      (by decide +kernel) h hserver hsucceeded fun _ => hwarned

/-- The columns as `MODIFY COLUMN` declares them. -/
def modifiedColumns : List Column := [varbinary "file_path" 2048, varbinary "filename" 512]

/-- A column, perhaps declared anew. -/
def Column.Redeclared (c c' : Column) : Prop := c' = c ∨ (c' ∈ modifiedColumns ∧ c'.name = c.name)

structure SqlTable.Redeclared (t t' : SqlTable) : Prop where
  columns : ∃ f : Column → Column, (∀ c : Column, c.Redeclared (f c)) ∧ t'.columns = t.columns.map f
  indexes : t'.indexes = t.indexes
  foreignKeys : t'.foreignKeys = t.foreignKeys
  rows : t'.rows = t.rows

/-- The database with these columns of `files` perhaps declared anew, and else the same. -/
def Redeclared (db db' : Database) : Prop :=
  ∀ T, db' T = db T ∨ (T = .files ∧ ∃ t t', db T = some t ∧ db' T = some t' ∧ t.Redeclared t')

/-- `MODIFY COLUMN` makes no difference to the columns of `files`. -/
def AsModified (db : Database) : Prop :=
  ∀ c ∈ modifiedColumns, ∃ t, db .files = some t ∧ c ∈ t.columns

section

variable {t t' : SqlTable} {db db' : Database}

theorem SqlTable.Redeclared.names (h : t.Redeclared t') : t'.names = t.names := by
  obtain ⟨f, hf, hcolumns⟩ := h.columns
  rw [SqlTable.names, hcolumns, List.map_map]
  refine List.map_congr_left fun c _ => ?_
  rcases hf c with hc | ⟨-, hc⟩
  · exact congrArg Column.name hc
  · exact hc

theorem SqlTable.Redeclared.answer {q : Query} (h : t.Redeclared t') (hq : t.answer q) :
    t'.answer q := by
  cases q with
  | hasTable => rfl
  | hasColumn _ c => exact decide_eq_true (h.names ▸ of_decide_eq_true hq)
  | isVarbinary _ c =>
    obtain ⟨c₀, hc₀, hdata⟩ := List.any_eq_true.1 hq
    obtain ⟨hname, htype⟩ := of_decide_eq_true hdata
    obtain ⟨f, hf, hcolumns⟩ := h.columns
    refine List.any_eq_true.2 ⟨f c₀, hcolumns ▸ List.mem_map_of_mem hc₀, decide_eq_true ?_⟩
    rcases hf c₀ with hc | ⟨hmem, hc⟩
    · rw [hc]
      exact ⟨hname, htype⟩
    · exact ⟨hc.trans hname, (by decide : ∀ c ∈ modifiedColumns, c.dataType = "varbinary") _ hmem⟩
  | isIndexed _ c => rwa [SqlTable.answer, h.indexes]
  | hasUniqueIndex _ name => rwa [SqlTable.answer, h.indexes]
  | isUnique _ c => rwa [SqlTable.answer, h.indexes]

theorem Redeclared.refl (db : Database) : Redeclared db db := fun _ => .inl rfl

/-- Nothing that was found is missing in a database with columns declared anew. -/
theorem Redeclared.settled (h : Redeclared db db') (hdb : Settled db) : Settled db' := by
  constructor
  · intro q hq
    have hold := hdb.1 q hq
    rcases h q.table with hsame | ⟨-, t, t', ht, ht', htable⟩
    · rwa [answer, hsame]
    · rw [answer, ht] at hold
      rw [answer, ht']
      exact htable.answer hold
  · have hsame := (h .watcherPresets).resolve_right fun h => absurd h.1 (by decide)
    rw [answer, Query.table, hsame]
    exact hdb.2

theorem SqlTable.Redeclared.modify {t₁ : SqlTable} {c : Column} (h : t.Redeclared t')
    (hc : c ∈ modifiedColumns) (happly : t'.apply db (.modifyColumn .files c) = some t₁) :
    t.Redeclared t₁ := by
  obtain ⟨-, hcolumns₁, hindexes, hforeignKeys, hrows⟩ := effect_of_apply happly
  obtain ⟨f, hf, hcolumns⟩ := h.columns
  refine ⟨⟨fun c' => if (f c').name = c.name then c else f c', fun c' => ?_, ?_⟩,
    hindexes.trans h.indexes, hforeignKeys.trans h.foreignKeys, hrows.trans h.rows⟩
  · dsimp only
    split
    · next hname =>
      refine .inr ⟨hc, hname.symm.trans ?_⟩
      rcases hf c' with hc' | ⟨-, hc'⟩
      · exact congrArg Column.name hc'
      · exact hc'
    · exact hf c'
  · rw [hcolumns₁, hcolumns, renamed, List.map_map]
    rfl

theorem Redeclared.modify {db₁ : Database} {c : Column} (h : Redeclared db db')
    (hc : c ∈ modifiedColumns) (happly : apply db' (.modifyColumn .files c) = some db₁) :
    Redeclared db db₁ := by
  intro T
  by_cases hT : T = .files
  · subst hT
    obtain ⟨t₁, ht₁, ⟨-, hcreate⟩ | ⟨t', ht', htable⟩⟩ := apply_table happly
    · cases hcreate
    · change db' .files = some t' at ht'
      rcases h .files with hsame | ⟨-, t, t'', ht, ht'', hredeclared⟩
      · have hrefl : t'.Redeclared t' :=
          ⟨⟨id, fun _ => .inl rfl, (List.map_id _).symm⟩, rfl, rfl, rfl⟩
        exact .inr ⟨rfl, t', t₁, hsame ▸ ht', ht₁, hrefl.modify hc htable⟩
      · cases ht''.symm.trans ht'
        exact .inr ⟨rfl, t, t₁, ht, ht₁, hredeclared.modify hc htable⟩
  · rw [apply_of_ne happly (Ne.symm hT)]
    exact h T

/-- `MODIFY COLUMN` makes no difference to a column that is declared so. -/
theorem SqlTable.modifyColumn_eq {c : Column} (hc : c ∈ t.columns)
    (h : t.modifyColumn c = some t') : t' = t := by
  have hsame : renamed t.columns c.name c = t.columns := by
    refine (List.map_congr_left fun c' hc' => ?_).trans (List.map_id _)
    split
    · -- Names are unique.
      next hname => exact List.inj_on_of_nodup_map t.nodup hc hc' hname.symm
    · rfl
  simp only [modifyColumn, Option.ite_none_right_eq_some, Option.some.injEq, hsame] at h
  exact h.2.symm

theorem AsModified.modify {db₁ : Database} {c : Column} (h : AsModified db)
    (hc : c ∈ modifiedColumns) (happly : apply db (.modifyColumn .files c) = some db₁) :
    db₁ = db := by
  obtain ⟨t, ht, hcolumn⟩ := h c hc
  obtain ⟨t', ht', rfl⟩ := Option.map_eq_some_iff.1 happly
  change (db .files).elim _ _ = some t' at ht'
  rw [ht] at ht'
  obtain rfl := SqlTable.modifyColumn_eq hcolumn ht'
  exact ht ▸ Function.update_eq_self _ _

end

/-- What is known of a settled database, and whether a type may be asked for in vain. -/
def settledKnowledge (modifies : Bool) : Knowledge Statement Query where
  allowed
    | .createTable T ifNotExists .. => ifNotExists && .hasTable T ∈ settledQueries
    | .modifyColumn T c => modifies && (T = .files ∧ c ∈ modifiedColumns)
    | _ => false
  rejected
    | .createTable T ifNotExists .. => !ifNotExists && .hasTable T ∈ settledQueries
    | .addColumn T c .. => .hasColumn T c.name ∈ settledQueries
    | .changeColumn T old _ => T = .watcherPresets ∧ old = "presets"
    | .createIndex T ix => ix.unique ∧ .hasUniqueIndex T ix.name ∈ settledQueries
    | _ => false
  excluded q b :=
    (q ∈ settledQueries ∧ b = false) ∨ (q = .hasColumn .watcherPresets "presets" ∧ b = true)

theorem settledKnowledge_sound {modifies : Bool} {I : Database → Prop}
    (hsettled : ∀ db, I db → Settled db)
    (hmodify : modifies → ∀ db db' c, c ∈ modifiedColumns → I db →
      apply db (.modifyColumn .files c) = some db' → I db') :
    (settledKnowledge modifies).Sound engine I where
  keeps := by
    intro db db' a hallowed hI h
    cases a with
    | createTable T ifNotExists columns indexes foreignKeys =>
      obtain ⟨rfl, hq⟩ := Bool.and_eq_true _ _ ▸ hallowed
      obtain ⟨t, ht, -⟩ := answer_iff.1 ((hsettled db hI).1 _ (of_decide_eq_true hq))
      obtain rfl := Option.some.inj (h.symm.trans (apply_eq_self ht rfl))
      exact hI
    | modifyColumn T c =>
      obtain ⟨hmodifies, hcolumn⟩ := Bool.and_eq_true _ _ ▸ hallowed
      obtain ⟨rfl, hc⟩ := of_decide_eq_true hcolumn
      exact hmodify hmodifies db db' c hc hI h
    | _ => cases hallowed
  rejects := by
    intro db a hrejected hI
    have hdb := hsettled db hI
    cases a with
    | createTable T ifNotExists columns indexes foreignKeys =>
      obtain ⟨hfalse, hq⟩ := Bool.and_eq_true _ _ ▸ hrejected
      obtain rfl : ifNotExists = false := by simpa using hfalse
      obtain ⟨t, ht, -⟩ := answer_iff.1 (hdb.1 _ (of_decide_eq_true hq))
      exact apply_eq_none ht rfl
    | addColumn T c after =>
      obtain ⟨t, ht, hc⟩ := answer_iff.1 (hdb.1 _ (of_decide_eq_true hrejected))
      exact apply_eq_none ht
        (SqlTable.apply_eq_none (c := c.name) (decide_eq_true rfl) (of_decide_eq_true hc))
    | changeColumn T old c =>
      obtain ⟨rfl, rfl⟩ := of_decide_eq_true hrejected
      obtain ⟨t, ht, -⟩ := answer_iff.1 (hdb.1 (.hasTable .watcherPresets) (by decide +kernel))
      refine apply_eq_none ht (Option.eq_none_iff_forall_ne_some.2 fun t' h => ?_)
      have hpresets : answer _ (.hasColumn .watcherPresets "presets") :=
        answer_iff.2 ⟨t, ht, decide_eq_true (SqlTable.effect_of_apply h).1⟩
      exact Bool.noConfusion (hdb.2.symm.trans hpresets)
    | createIndex T ix =>
      obtain ⟨-, hq⟩ := of_decide_eq_true hrejected
      obtain ⟨t, ht, hindex⟩ := answer_iff.1 (hdb.1 _ hq)
      refine apply_eq_none ht (Option.eq_none_iff_forall_ne_some.2 fun t' h => ?_)
      obtain ⟨ix', hix', hname⟩ := List.any_eq_true.1 hindex
      exact (SqlTable.effect_of_apply h).1 ix' hix' (of_decide_eq_true hname).1
    | _ => cases hrejected
  excludes := by
    intro db q b hexcluded hI h
    rcases of_decide_eq_true hexcluded with ⟨hq, rfl⟩ | ⟨rfl, rfl⟩
    · exact Bool.noConfusion (h.symm.trans ((hsettled db hI).1 q hq))
    · exact Bool.noConfusion (h.symm.trans (hsettled db hI).2)

/-- `CREATE TABLE IF NOT EXISTS` is all that is executed; the rest need not be accepted. -/
def isAccepted : Statement → Bool
  | .createTable T ifNotExists .. => ifNotExists && .hasTable T ∈ settledQueries
  | _ => false

theorem isSome_apply {a : Statement} (hdb : Settled db) (ha : isAccepted a) :
    (apply db a).isSome := by
  cases a with
  | createTable T ifNotExists columns indexes foreignKeys =>
    obtain ⟨rfl, hq⟩ := Bool.and_eq_true _ _ ▸ ha
    obtain ⟨t, ht, -⟩ := answer_iff.1 (hdb.1 _ (of_decide_eq_true hq))
    rw [apply_eq_self ht rfl]
    rfl
  | _ => cases ha

theorem redeclared_starts (hdb : Settled db) :
    Redeclared db (run system.step (idle db) ops).shared :=
  have hK : (settledKnowledge true).Sound engine (Redeclared db) :=
    settledKnowledge_sound (fun _ h => h.settled hdb) fun _ _ _ _ hc h => h.modify hc
  invariant_run (s := idle db) hK (by decide +kernel) (by decide +kernel) (fun _ h => nomatch h)
    (.refl db)

theorem unchanged_starts (hdb : Settled db) (hmodified : AsModified db) :
    (run system.step (idle db) ops).shared = db :=
  have hK : (settledKnowledge true).Sound engine (· = db) :=
    settledKnowledge_sound (fun _ h => h ▸ hdb) fun _ _ _ _ hc h happly =>
      hmodified.modify hc (h ▸ happly)
  invariant_run (s := idle db) hK (by decide +kernel) (by decide +kernel) (fun _ h => nomatch h) rfl

/-- Where nothing fails, no type is asked for in vain. -/
theorem smooth_starts (hdb : Settled db)
    (hfails : ∀ i fails, .next i fails ∈ ops → fails = false) :
    (run system.step (idle db) ops).shared = db ∧
      ∀ server ∈ (run system.step (idle db) ops).requests,
        server.failed = false ∧ server.warned = false := by
  have hstart : ∀ start : Start, ∀ script ∈ start.scripts,
      script.smooth (settledKnowledge false) isAccepted := by
    intro start
    cases start <;> decide +kernel
  have hK : (settledKnowledge false).Sound engine (· = db) :=
    settledKnowledge_sound (fun _ h => h ▸ hdb) fun h => nomatch h
  have hsmooth := smooth_run hK (fun ha hI => hI ▸ isSome_apply hdb ha) hstart hfails rfl
  exact ⟨hsmooth.1, fun server hserver => ⟨(hsmooth.2 server hserver).1,
    (hsmooth.2 server hserver).2.1⟩⟩

/-- After a start in which nothing has failed, once all starts have ended or stopped: whatever
    fails in later starts, they can only declare two columns anew; they change nothing if these are
    declared so or if nothing fails of itself, and in the latter case come through. -/
theorem settled_run {ops' : List Op}
    (hserver : server ∈ (run system.step (idle db) ops).requests)
    (hsucceeded : server.Succeeded) (hwarned : server.warned = false) :
    Redeclared (run system.step (idle db) ops).shared
        (run system.step (idle (run system.step (idle db) ops).shared) ops').shared ∧
      (AsModified (run system.step (idle db) ops).shared ∨
          (∀ i fails, .next i fails ∈ ops' → fails = false) →
        (run system.step (idle (run system.step (idle db) ops).shared) ops').shared =
          (run system.step (idle db) ops).shared) ∧
      ((∀ i fails, .next i fails ∈ ops' → fails = false) →
        ∀ later ∈
            (run system.step (idle (run system.step (idle db) ops).shared) ops').requests,
          later.failed = false ∧ later.warned = false) := by
  have hsettled := settled_start hserver hsucceeded hwarned
  refine ⟨redeclared_starts hsettled, fun h => ?_, fun hfails => (smooth_starts hsettled hfails).2⟩
  rcases h with hmodified | hfails
  · exact unchanged_starts hsettled hmodified
  · exact (smooth_starts hsettled hfails).1

theorem settled_sampleStarts :
    (run system.step (idle (run system.step (idle fun _ => none) sampleStarts).shared)
      sampleStarts).shared = (run system.step (idle fun _ => none) sampleStarts).shared := by
  have h : ∃ server ∈ (run system.step (idle fun _ => none) sampleStarts).requests,
      server.Succeeded ∧ server.warned = false := by decide +kernel
  obtain ⟨server, hserver, hsucceeded, hwarned⟩ := h
  refine (settled_run hserver hsucceeded hwarned).2.1 (.inl ?_)
  have hcolumns : ∀ c ∈ modifiedColumns, ((run system.step (idle fun _ => none)
      sampleStarts).shared .files).any (c ∈ ·.columns) := by decide +kernel
  exact fun c hc => (Option.any_eq_true _ _).1 (hcolumns c hc) |>.imp fun t ht =>
    ⟨ht.1, of_decide_eq_true ht.2⟩

/-- A table of files whose paths are shorter, and may be missing. -/
def sampleNarrow : Database
  | .files =>
    some ⟨[bigint "id", accountHash, (varbinary "file_path" 1024).null, varbinary "filename" 512,
      (varchar "token_path" 4096).null, (varchar "key_id" 64).null], [primary "id"], [], [],
      by decide +kernel⟩
  | _ => none

/-- A start that leaves the paths so, and a later one that asks for their type in vain. -/
example :
    let first := run system.step (idle sampleNarrow)
      (.start .createMysqlStorage :: List.replicate 50 (.next 0 false))
    let later := run system.step (idle first.shared)
      (.start .createMysqlStorage :: (List.replicate 15 (.next 0 false) ++
        [.next 0 true, .next 0 false]))
    (∃ server ∈ first.requests, server.Succeeded ∧ server.warned = false) ∧
      (later.shared .files).map (·.columns) ≠ (first.shared .files).map (·.columns) := by
  decide +kernel

/-! ## The rows -/

/-- What is known of a table with a certain column. -/
def columnKnowledge (T : TableName) (c : String) : Knowledge Statement Query where
  allowed a := a.table ≠ T ∨ a.touches c = false
  rejected a := a.table = T ∧ a.collides c
  excluded q b := (q = .hasColumn T c ∨ q = .hasTable T) ∧ b = false

theorem initSchema_within {T : TableName} {c : String} :
    initSchema.within (columnKnowledge T c) := by
  simp [initSchema, must, Script.within, columnKnowledge, Statement.touches]

/-- A column is filled only where it has been added just before. -/
theorem migrateSchema_within {T : TableName} {c : String}
    (hne : ¬(T = .watcherPresets ∧ c = "presets")) :
    migrateSchema.within (columnKnowledge T c) := by
  cases T with
  | watcherPresets =>
    have hpresets : ¬"presets" = c := fun h => hne ⟨rfl, h.symm⟩
    by_cases hjson : "preset_json" = c <;>
      simp [migrateSchema, migrateFiles, migrateConditions, migrateGroups, migrateWatchers,
        migratePresets, must, attempt, unlessColumn, unlessTable, ifLacking, Script.within,
        columnKnowledge, Statement.touches, Statement.table, Statement.collides, accountHash,
        serverGroupId, isActive, varchar, boolean, int, varbinary, bigint, text, hpresets, hjson]
  | _ =>
    simp [migrateSchema, migrateFiles, migrateConditions, migrateGroups, migrateWatchers,
      migratePresets, must, attempt, unlessColumn, unlessTable, ifLacking, Script.within,
      columnKnowledge, Statement.touches, Statement.table, Statement.collides, accountHash,
      serverGroupId, isActive, varchar, boolean, int, varbinary, bigint, text] <;>
    grind

theorem drops_of_touches {a : Statement} {c : String} (h : a.touches c = false) : ¬a.drops c := by
  intro hdrops
  cases a with
  | changeColumn T old c' =>
    exact of_decide_eq_false h (.inl (of_decide_eq_true hdrops).1)
  | _ => cases hdrops

/-- A statement that does not touch a column leaves it, with what is in it. -/
theorem column_apply {a : Statement} {db' : Database} {T : TableName} {c : String}
    (h : apply db a = some db') (ha : a.table ≠ T ∨ a.touches c = false)
    (hc : c ∈ db.columnsOf T) : c ∈ db'.columnsOf T ∧ db'.valuesOf T c = db.valuesOf T c := by
  by_cases hne : a.table = T
  · subst hne
    have htouches : a.touches c = false := ha.resolve_left (not_not_intro rfl)
    obtain ⟨t', ht', ⟨hnone, -⟩ | ⟨t, ht, happly⟩⟩ := apply_table h
    · rw [Database.columnsOf, hnone] at hc
      cases hc
    · rw [Database.columnsOf, ht] at hc
      rw [Database.columnsOf, Database.valuesOf, Database.valuesOf, Database.rowsOf,
        Database.rowsOf, ht', ht]
      exact ⟨SqlTable.mem_names_of_not_drops happly (drops_of_touches htouches) hc,
        SqlTable.values_apply happly (Bool.eq_false_iff.1 htouches)⟩
  · rw [Database.columnsOf, Database.valuesOf, Database.rowsOf, apply_of_ne h hne]
    exact ⟨hc, rfl⟩

theorem collides_apply {a : Statement} {c : String} (ha : a.collides c)
    (hc : c ∈ db.columnsOf a.table) : apply db a = none := by
  obtain ⟨t, ht, hc⟩ := answer_iff.1 (mem_columnsOf.1 hc)
  exact apply_eq_none ht (SqlTable.apply_eq_none ha (of_decide_eq_true hc))

theorem columnKnowledge_sound (T : TableName) (c : String) (values : List Value) :
    (columnKnowledge T c).Sound engine
      fun db => c ∈ db.columnsOf T ∧ db.valuesOf T c = values where
  keeps hallowed hI h := by
    obtain ⟨hc, hvalues⟩ := column_apply h (of_decide_eq_true hallowed) hI.1
    exact ⟨hc, hvalues.trans hI.2⟩
  rejects hrejected hI := by
    obtain ⟨rfl, hcollides⟩ := of_decide_eq_true hrejected
    exact collides_apply hcollides hI.1
  excludes hexcluded hI h := by
    obtain ⟨rfl | rfl, rfl⟩ := of_decide_eq_true hexcluded
    · exact Bool.noConfusion (h.symm.trans (mem_columnsOf.1 hI.1))
    · obtain ⟨t, ht, -⟩ := answer_iff.1 (mem_columnsOf.1 hI.1)
      exact Bool.noConfusion (h.symm.trans (answer_iff.2 ⟨t, ht, rfl⟩))

/-- The presets are under one of the names. -/
def HasPresets (values : List Value) (db : Database) : Prop :=
  ("presets" ∈ db.columnsOf .watcherPresets ∧ db.valuesOf .watcherPresets "presets" = values) ∨
    ("presets" ∉ db.columnsOf .watcherPresets ∧ "preset_json" ∈ db.columnsOf .watcherPresets ∧
      db.valuesOf .watcherPresets "preset_json" = values)

/-- The statements on `watcher_presets`, but that which renames the column. -/
def sparesPresets (a : Statement) : Bool :=
  a.table ≠ .watcherPresets ∨ (a.touches "presets" = false ∧ "presets" ∉ a.added ∧
    (a.touches "preset_json" = false ∨ a.collides "preset_json"))

theorem hasPresets_apply {a : Statement} {db' : Database} {values : List Value}
    (ha : sparesPresets a) (hI : HasPresets values db) (h : apply db a = some db') :
    HasPresets values db' := by
  have ha := of_decide_eq_true ha
  rcases hI with ⟨hc, hvalues⟩ | ⟨hnot, hc, hvalues⟩
  · obtain ⟨hc, hkept⟩ := column_apply h (ha.imp_right (·.1)) hc
    exact .inl ⟨hc, hkept.trans hvalues⟩
  · have htouches : a.table ≠ .watcherPresets ∨ a.touches "preset_json" = false := by
      by_cases htable : a.table = .watcherPresets
      · refine .inr ((ha.resolve_left (not_not_intro htable)).2.2.resolve_right fun hcollides => ?_)
        rw [collides_apply hcollides (htable ▸ hc)] at h
        cases h
      · exact .inl htable
    obtain ⟨hc, hkept⟩ := column_apply h htouches hc
    refine .inr ⟨fun hpresets => ?_, hc, hkept.trans hvalues⟩
    rcases mem_columnsOf_or_added h hpresets with hpresets | ⟨htable, hadded⟩
    · exact hnot hpresets
    · exact ha.elim (fun hne => hne htable) fun ha => ha.2.1 hadded

theorem hasPresets_rename {db' : Database} {values : List Value} (hI : HasPresets values db)
    (h : apply db (.changeColumn .watcherPresets "presets" (text "preset_json")) = some db') :
    HasPresets values db' := by
  obtain ⟨t', ht', ⟨-, hcreate⟩ | ⟨t, ht, happly⟩⟩ := apply_table h
  · cases hcreate
  · obtain ⟨hold, -, -, -, hrows⟩ := SqlTable.effect_of_apply happly
    have hdrops := SqlTable.not_mem_names_of_drops (c := "presets") happly (by decide +kernel)
    have hmakes := SqlTable.mem_names_of_makes (c := "preset_json") happly (by decide +kernel)
    change db .watcherPresets = some t at ht
    change db' .watcherPresets = some t' at ht'
    rcases hI with ⟨-, hvalues⟩ | ⟨hnot, -⟩
    · refine .inr ⟨?_, ?_, ?_⟩
      · rwa [Database.columnsOf, ht']
      · rwa [Database.columnsOf, ht']
      · rw [Database.valuesOf, Database.rowsOf, ht] at hvalues
        rw [Database.valuesOf, Database.rowsOf, ht', ← hvalues, Option.elim, hrows, List.map_map]
        exact List.map_congr_left fun r _ => Function.update_self "preset_json" _ r
    · rw [Database.columnsOf, ht] at hnot
      exact absurd hold hnot

theorem presets_run (ops : List Op) (hc : "presets" ∈ db.columnsOf .watcherPresets) :
    HasPresets (db.valuesOf .watcherPresets "presets") (run system.step (idle db) ops).shared := by
  refine invariant_run (s := idle db)
    (K := .keeping fun a => sparesPresets a ∨
      a = .changeColumn .watcherPresets "presets" (text "preset_json"))
    (Knowledge.keeping_sound fun db db' a ha hI h => ?_) (by decide +kernel) (by decide +kernel)
    (fun _ h => nomatch h) (.inl ⟨hc, rfl⟩)
  rcases of_decide_eq_true ha with ha | rfl
  · exact hasPresets_apply ha hI h
  · exact hasPresets_rename hI h

/-- The name under which a column is found later. -/
def IsNameOf (T : TableName) (c c' : String) : Prop :=
  c' = c ∨ (T = .watcherPresets ∧ c = "presets" ∧ c' = "preset_json")

/-- Whatever starts there are, and wherever they stop: a column that is there stays, the presets
    perhaps under their new name, and the rows keep what they have in it. -/
theorem values_run {T : TableName} {c : String} (hc : c ∈ db.columnsOf T) :
    ∃ c', IsNameOf T c c' ∧ c' ∈ (run system.step (idle db) ops).shared.columnsOf T ∧
      (run system.step (idle db) ops).shared.valuesOf T c' = db.valuesOf T c := by
  by_cases hpresets : T = .watcherPresets ∧ c = "presets"
  · obtain ⟨rfl, rfl⟩ := hpresets
    rcases presets_run ops hc with ⟨hc, hvalues⟩ | ⟨-, hc, hvalues⟩
    · exact ⟨_, .inl rfl, hc, hvalues⟩
    · exact ⟨_, .inr ⟨rfl, rfl, rfl⟩, hc, hvalues⟩
  · exact ⟨c, .inl rfl, invariant_run (s := idle db) (columnKnowledge_sound T c _)
      initSchema_within (migrateSchema_within hpresets) (fun _ h => nomatch h) ⟨hc, rfl⟩⟩

/-- Conditions from before they had an account, and the watcher they are of. -/
def sampleLegacy : Database
  | .accounts =>
    some ⟨[accountHash], [primary "account_hash"], [], [fun _ => .text "a1"],
      by decide +kernel⟩
  | .watchers =>
    some ⟨[int "id", accountHash, int "group_id", varchar "folder" 2048, text "extra_json"],
      [primary "id"], [], [fun c => if c = "account_hash" then .text "a1" else .int 7],
      by decide +kernel⟩
  | .watcherConditions =>
    some ⟨[bigint "id", int "watcher_id"], [primary "id"], [], [fun _ => .int 7],
      by decide +kernel⟩
  | _ => none

/-- A start that gets as far as the new column `account_hash`, and fails to fill it. -/
def sampleInterrupted : Database :=
  (run system.step (idle sampleLegacy)
    (.start .initializeStorage :: List.replicate 21 (.next 0 false) ++ [.next 0 true])).shared

/-- The next start comes through, and the condition is still without an account. -/
theorem values_sampleInterrupted :
    (∃ server ∈ (run system.step (idle sampleInterrupted)
        (.start .initializeStorage :: List.replicate 60 (.next 0 false))).requests,
      server.Succeeded) ∧
    sampleInterrupted.valuesOf .watcherConditions "account_hash" = [.text ""] ∧
    ∃ c', IsNameOf .watcherConditions "account_hash" c' ∧
      c' ∈ (run system.step (idle sampleInterrupted)
        (.start .initializeStorage :: List.replicate 60 (.next 0 false))).shared.columnsOf
          .watcherConditions ∧
      (run system.step (idle sampleInterrupted)
        (.start .initializeStorage :: List.replicate 60 (.next 0 false))).shared.valuesOf
          .watcherConditions c' = sampleInterrupted.valuesOf .watcherConditions "account_hash" :=
  ⟨by decide +kernel, by decide +kernel, values_run (by decide +kernel)⟩

end CosmicSync.Schema
