import CosmicSync.Library.Scripts
import Mathlib.Data.List.Nodup
import Mathlib.Logic.Function.Basic

/-!
# The schema of the database

`init_schema` and `migrate_schema` of `storage/mysql.rs`, which a server executes whenever it
starts: they create the tables that are missing, ask `information_schema` for columns and
indices, and alter the tables accordingly. DDL statements commit at once, so that a start which
stops halfway leaves what it has done; and nothing keeps two servers from starting at the same
time. The SQL mode is a strict one, as is the default: no statement cuts a value short or puts
another in its place.

* `Database`, `apply`, `answer`: tables with their columns, indices, foreign keys and rows, and
  what the statements and queries of the two functions do.
* `initSchema`, `migrateSchema`: the functions, as scripts.
* `system`: servers that start, with `initialize_storage` or with `create_mysql_storage`.
-/

namespace CosmicSync.Schema

open Scripts

/-! ## Databases -/

/-- The tables that the statements of the server name. -/
inductive TableName
  | accounts
  | authTokens
  | devices
  | files
  | encryptionKeys
  | watcherConditions
  | watcherGroups
  | watchers
  | watcherPresets
  | fileData
  | fileNotices
  deriving DecidableEq

inductive Value
  | null
  | int (n : Int)
  | text (s : String)
  deriving DecidableEq

/-- A column: its `DATA_TYPE`, the length of a text, whether it takes nulls, and its default. Signs,
    `AUTO_INCREMENT` and the members of an `ENUM` are left out. -/
structure Column where
  name : String
  dataType : String
  length : Option ℕ
  nullable : Bool
  default : Option Value
  deriving DecidableEq

namespace Column

variable (c : Column)

def null : Column := { c with nullable := true }

def withDefault (v : Value) : Column := { c with default := some v }

@[simp]
theorem name_null : c.null.name = c.name := rfl

@[simp]
theorem name_withDefault (v : Value) : (c.withDefault v).name = c.name := rfl

/-- What the rows that are there have in a column that is added. -/
def initial : Value :=
  c.default.getD (if c.nullable then .null
    else if c.length.isSome ∨ c.dataType = "text" then .text "" else .int 0)

/-- A value that the column can hold. In strict mode another one is refused. -/
def Admits : Value → Prop
  | .null => c.nullable
  | .int _ => True
  | .text s =>
    ∀ n ∈ c.length, (if c.dataType = "varbinary" then s.utf8ByteSize else s.length) ≤ n

instance : DecidablePred c.Admits := fun v => by
  cases v <;> unfold Admits <;> infer_instance

end Column

/-- An index, without the lengths of its prefixes. -/
structure Index where
  name : String
  unique : Bool
  columns : List String
  deriving DecidableEq

/-- A foreign key, without the index that it makes for itself and its `ON DELETE`. -/
structure ForeignKey where
  name : Option String
  column : String
  table : TableName
  references : String
  deriving DecidableEq

/-- The values of a row, of which those of the table's columns count. -/
abbrev Row := String → Value

structure SqlTable where
  columns : List Column
  indexes : List Index
  foreignKeys : List ForeignKey
  rows : List Row
  nodup : (columns.map (·.name)).Nodup

def SqlTable.names (t : SqlTable) : List String := t.columns.map (·.name)

abbrev Database := TableName → Option SqlTable

namespace Database

def rowsOf (db : Database) (t : TableName) : List Row := (db t).elim [] (·.rows)

def columnsOf (db : Database) (t : TableName) : List String := (db t).elim [] SqlTable.names

/-- The values in a column. -/
def valuesOf (db : Database) (t : TableName) (c : String) : List Value := (db.rowsOf t).map (· c)

end Database

/-! ## Statements and queries -/

/-- What a blank column is set to: a value, another column of the row, or a column of the row of
    another table that it is joined with. -/
inductive Source
  | value (v : Value)
  | column (c : String)
  | joined (key : String) (other : TableName) (otherKey c : String)
  deriving DecidableEq

inductive Statement
  | createTable (t : TableName) (ifNotExists : Bool) (columns : List Column)
    (indexes : List Index) (foreignKeys : List ForeignKey)
  | addColumn (t : TableName) (c : Column) (after : Option String)
  | changeColumn (t : TableName) (old : String) (c : Column)
  | modifyColumn (t : TableName) (c : Column)
  | createIndex (t : TableName) (ix : Index)
  | addForeignKey (t : TableName) (fk : ForeignKey)
  | fill (t : TableName) (column : String) (blank : Value) (source : Source)
  deriving DecidableEq

def Statement.table : Statement → TableName
  | createTable t .. | addColumn t .. | changeColumn t .. | modifyColumn t _ | createIndex t _
  | addForeignKey t _ | fill t .. => t

/-- What is asked of `information_schema`. -/
inductive Query
  | hasTable (t : TableName)
  | hasColumn (t : TableName) (c : String)
  | isVarbinary (t : TableName) (c : String)
  | isIndexed (t : TableName) (c : String)
  | hasUniqueIndex (t : TableName) (name : String)
  | isUnique (t : TableName) (c : String)
  deriving DecidableEq

def Query.table : Query → TableName
  | hasTable t | hasColumn t _ | isVarbinary t _ | isIndexed t _ | hasUniqueIndex t _
  | isUnique t _ => t

namespace Source

/-- The columns that are read are there. -/
def Resolves (db : Database) (names : List String) : Source → Prop
  | value _ => True
  | column c => c ∈ names
  | joined key other otherKey c =>
    key ∈ names ∧ otherKey ∈ db.columnsOf other ∧ c ∈ db.columnsOf other

instance (db : Database) (names : List String) : DecidablePred (Resolves db names) := fun s => by
  cases s <;> unfold Resolves <;> infer_instance

/-- A row that finds none to be joined with is not updated. -/
def read (db : Database) (r : Row) : Source → Option Value
  | value v => some v
  | column c => some (r c)
  | joined key other otherKey c =>
    ((db.rowsOf other).find? fun r' => r key ≠ .null ∧ r' otherKey = r key).map (· c)

end Source

/-- The referenced column is there. -/
def ForeignKey.Resolves (fk : ForeignKey) (db : Database) : Prop :=
  fk.references ∈ db.columnsOf fk.table

instance (fk : ForeignKey) (db : Database) : Decidable (fk.Resolves db) :=
  inferInstanceAs (Decidable (_ ∈ _))

namespace SqlTable

/-- `CREATE TABLE`, where there is none of the name. -/
def create (db : Database) (columns : List Column) (indexes : List Index)
    (foreignKeys : List ForeignKey) : Option SqlTable :=
  if h : (columns.map (·.name)).Nodup ∧ ∀ fk ∈ foreignKeys, fk.Resolves db then
    some ⟨columns, indexes, foreignKeys, [], h.1⟩
  else none

/-- A `TEXT` cannot have a default. -/
def addColumn (t : SqlTable) (c : Column) (after : Option String) : Option SqlTable :=
  if h : c.name ∉ t.names ∧ (∀ a ∈ after, a ∈ t.names) ∧
      (c.dataType = "text" → c.default = none) then
    some { t with
      columns := t.columns ++ [c]
      rows := t.rows.map fun r => Function.update r c.name c.initial
      nodup := by
        rw [List.map_append]
        exact t.nodup.append (List.nodup_singleton _) (by simpa [names] using h.1) }
  else none

def rename (old new c : String) : String := if c = old then new else c

theorem nodup_rename {l : List String} {old new : String} (h : l.Nodup)
    (hnew : new = old ∨ new ∉ l) : (l.map (rename old new)).Nodup := by
  refine h.map_on fun x hx y hy hxy => ?_
  simp only [rename] at hxy
  grind

/-- The columns after `CHANGE COLUMN`. -/
def renamed (columns : List Column) (old : String) (c : Column) : List Column :=
  columns.map fun c' => if c'.name = old then c else c'

theorem names_renamed {columns : List Column} {old : String} {c : Column} :
    (renamed columns old c).map (·.name) = (columns.map (·.name)).map (rename old c.name) := by
  simp only [renamed, List.map_map]
  refine List.map_congr_left fun c' _ => ?_
  simp only [Function.comp_apply, rename]
  split <;> rfl

/-- `CHANGE COLUMN`: the column has its new name in the indices and foreign keys, too. -/
def changeColumn (t : SqlTable) (old : String) (c : Column) : Option SqlTable :=
  if h : old ∈ t.names ∧ (c.name = old ∨ c.name ∉ t.names) ∧ ∀ r ∈ t.rows, c.Admits (r old) then
    some
      { columns := renamed t.columns old c
        indexes := t.indexes.map fun ix =>
          { ix with columns := ix.columns.map (rename old c.name) }
        foreignKeys := t.foreignKeys.map fun fk =>
          { fk with column := rename old c.name fk.column }
        rows := t.rows.map fun r => Function.update r c.name (r old)
        nodup := names_renamed ▸ nodup_rename t.nodup h.2.1 }
  else none

def modifyColumn (t : SqlTable) (c : Column) : Option SqlTable :=
  if c.name ∈ t.names ∧ ∀ r ∈ t.rows, c.Admits (r c.name) then
    some { t with
      columns := renamed t.columns c.name c
      nodup := names_renamed ▸ nodup_rename t.nodup (.inl rfl) }
  else none

/-- A unique index takes rows with a null for distinct. -/
def createIndex (t : SqlTable) (ix : Index) : Option SqlTable :=
  if (∀ ix' ∈ t.indexes, ix'.name ≠ ix.name) ∧ (∀ c ∈ ix.columns, c ∈ t.names) ∧
      (ix.unique → ((t.rows.map fun r => ix.columns.map r).filter (Value.null ∉ ·)).Nodup) then
    some { t with indexes := t.indexes ++ [ix] }
  else none

/-- Every row that is there must find the one it refers to. -/
def addForeignKey (db : Database) (t : SqlTable) (fk : ForeignKey) : Option SqlTable :=
  if (∀ fk' ∈ t.foreignKeys, fk'.name = none ∨ fk'.name ≠ fk.name) ∧ fk.column ∈ t.names ∧
      fk.Resolves db ∧ ∀ r ∈ t.rows,
        r fk.column = .null ∨ ∃ r' ∈ db.rowsOf fk.table, r' fk.references = r fk.column then
    some { t with foreignKeys := t.foreignKeys ++ [fk] }
  else none

/-- `UPDATE … SET column = source WHERE column = blank`. -/
def fill (db : Database) (t : SqlTable) (column : String) (blank : Value) (source : Source) :
    Option SqlTable :=
  if column ∈ t.names ∧ source.Resolves db t.names ∧ ∀ r ∈ t.rows, r column = blank →
      ∀ v ∈ source.read db r, ∀ c ∈ t.columns, c.name = column → c.Admits v then
    some { t with
      rows := t.rows.map fun r =>
        if r column = blank then (source.read db r).elim r (Function.update r column) else r }
  else none

/-- What a statement makes of its table. -/
def apply (db : Database) (t : SqlTable) : Statement → Option SqlTable
  | .createTable _ ifNotExists .. => if ifNotExists then some t else none
  | .addColumn _ c after => t.addColumn c after
  | .changeColumn _ old c => t.changeColumn old c
  | .modifyColumn _ c => t.modifyColumn c
  | .createIndex _ ix => t.createIndex ix
  | .addForeignKey _ fk => t.addForeignKey db fk
  | .fill _ column blank source => t.fill db column blank source

def answer (t : SqlTable) : Query → Bool
  | .hasTable _ => true
  | .hasColumn _ c => c ∈ t.names
  | .isVarbinary _ c => t.columns.any fun c' => c'.name = c ∧ c'.dataType = "varbinary"
  | .isIndexed _ c => t.indexes.any fun ix => c ∈ ix.columns
  | .hasUniqueIndex _ name => t.indexes.any fun ix => ix.name = name ∧ ix.unique
  | .isUnique _ c => t.indexes.any fun ix => ix.unique ∧ c ∈ ix.columns

end SqlTable

/-- What a statement makes where there is no table. -/
def Statement.create (db : Database) : Statement → Option SqlTable
  | createTable _ _ columns indexes foreignKeys => SqlTable.create db columns indexes foreignKeys
  | _ => none

def apply (db : Database) (a : Statement) : Option Database :=
  ((db a.table).elim (a.create db) (·.apply db a)).map fun table =>
    Function.update db a.table (some table)

def answer (db : Database) (q : Query) : Bool := (db q.table).elim false (·.answer q)

def engine : Engine Database Statement Query := ⟨apply, answer⟩

/-! ## The functions -/

def varchar (name : String) (n : ℕ) : Column := ⟨name, "varchar", some n, false, none⟩
def varbinary (name : String) (n : ℕ) : Column := ⟨name, "varbinary", some n, false, none⟩
def bigint (name : String) : Column := ⟨name, "bigint", none, false, none⟩
def int (name : String) : Column := ⟨name, "int", none, false, none⟩
def boolean (name : String) : Column := ⟨name, "tinyint", none, false, none⟩
def text (name : String) : Column := ⟨name, "text", none, false, none⟩

/-- `account_hash VARCHAR(255) NOT NULL`. -/
def accountHash : Column := varchar "account_hash" 255

/-- `is_active BOOLEAN NOT NULL DEFAULT TRUE`. -/
def isActive : Column := (boolean "is_active").withDefault (.int 1)

def primary (c : String) : Index := ⟨"PRIMARY", true, [c]⟩
def uniqueKey (name : String) (columns : List String) : Index := ⟨name, true, columns⟩
def index (name : String) (columns : List String) : Index := ⟨name, false, columns⟩

/-- `FOREIGN KEY (account_hash) REFERENCES accounts(account_hash)`. -/
def accountKey (name : Option String) : ForeignKey :=
  ⟨name, "account_hash", .accounts, "account_hash"⟩

/-- A statement whose failure is returned. -/
def must (a : Statement) (next : Script Statement Query) : Script Statement Query :=
  .exec a false next

/-- A statement whose failure is dropped (`.ok()`) or logged. -/
def attempt (a : Statement) (next : Script Statement Query) : Script Statement Query :=
  .exec a true next

/-- `CREATE TABLE IF NOT EXISTS` for the five tables; an unnamed index is named after its first
    column. -/
def initSchema : Script Statement Query :=
  must (.createTable .accounts true
    [varchar "id" 36, varchar "email" 255, accountHash, varchar "name" 255,
      (varchar "password_hash" 255).null, (varchar "salt" 255).null, bigint "created_at",
      bigint "updated_at", (bigint "last_login").null, isActive]
    [primary "account_hash"] []) <|
  must (.createTable .authTokens true
    [varchar "id" 36, varchar "token" 255, accountHash, bigint "created_at", bigint "expires_at",
      isActive]
    [primary "token", index "account_hash" ["account_hash"]] [accountKey none]) <|
  must (.createTable .devices true
    [varchar "id" 36, accountHash, varchar "device_hash" 255, varchar "device_name" 255,
      (varchar "device_type" 50).null, (varchar "os_type" 50).null, (varchar "os_version" 50).null,
      (varchar "app_version" 50).null, (bigint "last_sync").null, bigint "created_at",
      bigint "updated_at", isActive]
    [primary "device_hash", index "account_hash" ["account_hash"]] [accountKey none]) <|
  must (.createTable .files true
    [bigint "id", bigint "file_id", accountHash, varchar "device_hash" 255,
      varbinary "file_path" 2048, varbinary "filename" 512, varchar "file_hash" 255,
      (bigint "size").withDefault (.int 0), (boolean "is_deleted").withDefault (.int 0),
      (boolean "is_encrypted").withDefault (.int 0), (bigint "revision").withDefault (.int 1),
      bigint "modified_time", bigint "upload_time", (int "group_id").withDefault (.int 0),
      (int "watcher_id").withDefault (.int 0), (int "server_group_id").withDefault (.int 0),
      (int "server_watcher_id").withDefault (.int 0), varbinary "eq_index" 32,
      varchar "token_path" 4096, (varchar "key_id" 64).null]
    [primary "id", index "account_hash" ["account_hash"], index "file_id" ["file_id"],
      index "file_hash" ["file_hash"], index "account_hash_2" ["account_hash", "group_id"],
      index "eq_index" ["eq_index"], index "token_path_prefix" ["token_path"],
      index "account_hash_3" ["account_hash", "key_id"]] [accountKey none]) <|
  must (.createTable .encryptionKeys true
    [bigint "id", accountHash, varchar "encryption_key" 255, bigint "created_at",
      bigint "updated_at"]
    [primary "id", uniqueKey "account_hash" ["account_hash"]] [accountKey none])
  .done

/-- `if !has_… { … }`, where the error of the query is returned. -/
def unlessColumn (t : TableName) (c : String) (body next : Script Statement Query) :
    Script Statement Query :=
  .ask (.hasColumn t c) none .done body next

def unlessTable (t : TableName) (body next : Script Statement Query) : Script Statement Query :=
  .ask (.hasTable t) none .done body next

/-- `if need_… { … }`: after a query that fails, nothing is needed. -/
def ifLacking (t : TableName) (c : String) (body next : Script Statement Query) :
    Script Statement Query :=
  .ask (.hasColumn t c) (some true) .done body next

/-- `server_group_id INT NOT NULL DEFAULT 0`. -/
def serverGroupId : Column := (int "server_group_id").withDefault (.int 0)

/-- The columns of `files`, and the types of `file_path` and `filename`. -/
def migrateFiles (next : Script Statement Query) : Script Statement Query :=
  unlessColumn .files "is_encrypted"
    (must (.addColumn .files ((boolean "is_encrypted").withDefault (.int 0)) none) .done) <|
  unlessColumn .files "operation_type"
    (must (.addColumn .files ((varchar "operation_type" 20).withDefault (.text "UPLOAD")) none) <|
      must (.fill .files "operation_type" (.text "") (.value (.text "UPLOAD"))) .done) <|
  unlessColumn .files "eq_index"
    (must (.addColumn .files (varbinary "eq_index" 32).null none) <|
      .ask (.isIndexed .files "eq_index") none .done
        (must (.createIndex .files (index "idx_files_eq_index" ["eq_index"])) .done) .done) <|
  unlessColumn .files "token_path"
    (attempt (.addColumn .files (varchar "token_path" 4096).null none) <|
      attempt (.createIndex .files (index "idx_files_account_keyid" ["account_hash", "key_id"])) <|
      attempt (.addColumn .files serverGroupId none) .done) <|
  unlessColumn .files "key_id"
    (must (.addColumn .files (varchar "key_id" 64).null none) <|
      attempt (.createIndex .files (index "idx_files_account_keyid" ["account_hash", "key_id"]))
        .done) <|
  unlessColumn .files "server_group_id" (must (.addColumn .files serverGroupId none) .done) <|
  unlessColumn .files "server_watcher_id"
    (must (.addColumn .files ((int "server_watcher_id").withDefault (.int 0)) none) .done) <|
  .ask (.isVarbinary .files "file_path") (some false) .done
    (must (.modifyColumn .files (varbinary "file_path" 2048)) .done) <|
  .ask (.isVarbinary .files "filename") (some false) .done
    (must (.modifyColumn .files (varbinary "filename" 512)) .done) next

/-- The table `watcher_conditions`, or its column `account_hash`, which is filled from the
    watchers. -/
def migrateConditions (next : Script Statement Query) : Script Statement Query :=
  .ask (.hasTable .watcherConditions) none
    (unlessColumn .watcherConditions "account_hash"
      (must (.addColumn .watcherConditions (accountHash.withDefault (.text "")) none) <|
        must (.fill .watcherConditions "account_hash" (.text "")
          (.joined "watcher_id" .watchers "id" "account_hash")) <|
        must (.addForeignKey .watcherConditions
          (accountKey (some "fk_watcher_conditions_account"))) <|
        must (.createIndex .watcherConditions
          (index "idx_watcher_conditions_account_hash" ["account_hash"])) <|
        must (.createIndex .watcherConditions
          (index "idx_watcher_conditions_account_watcher" ["account_hash", "watcher_id"]))
          .done) .done)
    (must (.createTable .watcherConditions false
      [bigint "id", accountHash, int "watcher_id", ⟨"condition_type", "enum", none, false, none⟩,
        varchar "key" 255, ⟨"value", "json", none, false, none⟩,
        (varchar "operator" 50).withDefault (.text "equals"), bigint "created_at",
        bigint "updated_at"]
      [primary "id", index "account_hash" ["account_hash"], index "watcher_id" ["watcher_id"],
        index "account_hash_2" ["account_hash", "watcher_id"]] [accountKey none]) .done) next

def migrateGroups (next : Script Statement Query) : Script Statement Query :=
  unlessTable .watcherGroups
    (must (.createTable .watcherGroups false
      [int "id", accountHash, int "group_id", varchar "title" 255, bigint "created_at",
        bigint "updated_at", isActive]
      [primary "id", uniqueKey "uniq_account_group" ["account_hash", "group_id"],
        index "account_hash" ["account_hash"]] [accountKey none]) .done) next

/-- The table `watchers`, its unique index and its columns. -/
def migrateWatchers (next : Script Statement Query) : Script Statement Query :=
  unlessTable .watchers
    (must (.createTable .watchers false
      [int "id", (int "watcher_id").withDefault (.int 0), accountHash, int "group_id",
        int "local_group_id", varchar "folder" 2048, varchar "title" 255,
        (boolean "is_recursive").withDefault (.int 1), bigint "created_at", bigint "updated_at",
        isActive, text "extra_json"]
      [primary "id", index "account_hash" ["account_hash"], index "group_id" ["group_id"],
        index "account_hash_2" ["account_hash", "local_group_id", "watcher_id"]]
      [accountKey none, ⟨none, "group_id", .watcherGroups, "id"⟩]) <|
      attempt (.addForeignKey .watcherConditions
        ⟨some "fk_watcher_conditions_watcher", "watcher_id", .watchers, "id"⟩) .done) <|
  .ask (.hasUniqueIndex .watchers "uniq_watchers_acc_local_wid") (some false) .done
    (attempt (.createIndex .watchers (uniqueKey "uniq_watchers_acc_local_wid"
      ["account_hash", "local_group_id", "watcher_id"])) .done) <|
  unlessColumn .watchers "watcher_id"
    (must (.addColumn .watchers ((int "watcher_id").withDefault (.int 0)) (some "id")) <|
      must (.fill .watchers "watcher_id" (.int 0) (.column "id")) .done) <|
  ifLacking .watchers "local_group_id"
    (must (.addColumn .watchers ((int "local_group_id").withDefault (.int 0))
        (some "group_id")) <|
      attempt (.createIndex .watchers (index "idx_watchers_account_local_wid"
        ["account_hash", "local_group_id", "watcher_id"])) .done) <|
  ifLacking .watchers "is_recursive"
    (must (.addColumn .watchers ((boolean "is_recursive").withDefault (.int 1)) none) .done) <|
  ifLacking .watchers "extra_json"
    (must (.addColumn .watchers ((text "extra_json").withDefault (.text "")) none) .done) <|
  ifLacking .watchers "title"
    (must (.addColumn .watchers ((varchar "title" 255).withDefault (.text "Watcher"))
      (some "folder")) .done) <|
  ifLacking .watchers "folder"
    (must (.addColumn .watchers ((varchar "folder" 2048).withDefault (.text ""))
      (some "local_group_id")) .done) <|
  ifLacking .watchers "created_at"
    (attempt (.addColumn .watchers ((bigint "created_at").withDefault (.int 0)) none) .done) <|
  ifLacking .watchers "updated_at"
    (attempt (.addColumn .watchers ((bigint "updated_at").withDefault (.int 0)) none) .done) <|
  ifLacking .watchers "is_active"
    (attempt (.addColumn .watchers isActive none) .done) next

/-- The table `watcher_presets`, or its column `preset_json` and its unique index. -/
def migratePresets (next : Script Statement Query) : Script Statement Query :=
  .ask (.hasTable .watcherPresets) none
    (.ask (.hasColumn .watcherPresets "preset_json") (some false) .done
      (attempt (.addColumn .watcherPresets (text "preset_json") none) .done) <|
      .ask (.isUnique .watcherPresets "account_hash") none .done
        (attempt (.createIndex .watcherPresets (uniqueKey "uniq_account_hash" ["account_hash"]))
          .done) .done)
    (must (.createTable .watcherPresets false
      [bigint "id", accountHash, text "preset_json", bigint "created_at", bigint "updated_at"]
      [primary "id", uniqueKey "account_hash" ["account_hash"]] [accountKey none]) .done) next

def migrateSchema : Script Statement Query :=
  .ask (.hasColumn .watcherPresets "presets") none
    (must (.changeColumn .watcherPresets "presets" (text "preset_json")) .done) .done <|
  migrateFiles <| migrateConditions <| migrateGroups <| migrateWatchers <| migratePresets .done

/-! ## Starts -/

/-- `initialize_storage` returns the first error; `create_mysql_storage` logs that of either
    function and goes on. -/
inductive Start
  | initializeStorage
  | createMysqlStorage
  deriving DecidableEq

def Start.scripts : Start → List (Script Statement Query)
  | .initializeStorage => [initSchema.seq migrateSchema]
  | .createMysqlStorage => [initSchema, migrateSchema]

abbrev State := Interleaving.State Database (Progress Statement Query)

/-- A server starts, or the server `i` executes its next statement, which fails or not. -/
abbrev Op := Interleaving.Op Start Bool

def system : Interleaving.System Database (Progress Statement Query) Start Bool :=
  engine.system Start.scripts

/-- No server has started yet. -/
def idle (db : Database) : State := ⟨db, []⟩

end CosmicSync.Schema
