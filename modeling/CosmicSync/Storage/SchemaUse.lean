import CosmicSync.Storage.SchemaMigration

/-!
# What the storage needs of the schema

The calls of `MySqlStorage` (`storage/mysql.rs` and the files `storage/mysql_*.rs` that extend
it), with the columns that each of their statements names. A statement that names a column which
is not there is refused.

* `resolves_iff`: on a database that began empty, the columns that are named and are not there,
  and so the statements that are not refused for want of a column.
-/

namespace CosmicSync.Schema

open Run Interleaving

/-! ## The statements -/

/-- What a statement names of a table. -/
structure Access where
  table : TableName
  columns : List String

/-- A statement that joins tables, or has a subquery, names something of each. -/
abbrev Dml := List Access

def Dml.Resolves (db : Database) (s : Dml) : Prop :=
  ∀ a ∈ s, ∀ c ∈ a.columns, c ∈ db.columnsOf a.table

/-- The calls that execute statements of their own, in the order of the source. What
    `create_account` does about a refused `INSERT` (it creates the table if there is none) names no
    columns. -/
inductive Call
  | ensureServerIdsFor | migrateEncryptPaths | getClientWatcherId | getWatcherCondition
  | checkDuplicateWatcherGroup | checkDuplicateWatcher
  | storeFileNotice | getFileNotices | deleteFileNotice
  | getFileHistory | getFileVersionsById | getFileByRevision | storeFile
  | createAccount | getAccountByEmail | getAccountByHash | updateAccount
  | createAuthToken | getAuthToken | validateAuthToken | deleteAuthToken
  | registerDevice | getDevice | listDevices | updateDevice | deleteDevice | validateDevice
  | storeFileInfo | getFileInfo | getFileInfoIncludeDeleted | getFileInfoByPath | getFileByHash
  | findFileByPathAndName | deleteFile | listFiles | listFilesExceptDevice
  | storeFileData | getFileData | getEncryptionKey | storeEncryptionKey
  | findFileByCriteria | checkFileExists | purgeDeletedFilesOlderThan | trimOldRevisions
  | getWatcher | registerWatcherGroup | getWatcherGroups | getUserWatcherGroup
  | updateWatcherGroup | deleteWatcherGroup | getWatcherGroupByAccountAndId
  | getWatcherPreset | registerWatcherPresetProto
  | findWatcherByFolder | createWatcherWithConditions | getWatcherByGroupAndId
  | createWatcherCondition | getWatcherConditions | updateWatcherCondition
  | deleteWatcherCondition | deleteAllWatcherConditions | saveWatcherConditions
  | getServerGroupId | getServerIds

namespace Call

/-- The columns that the lookups of files have in common. -/
def fileColumns : List String :=
  ["file_id", "account_hash", "device_hash", "file_path", "filename", "file_hash",
    "created_time", "updated_time", "group_id", "watcher_id", "revision", "size"]

def accountColumns : List String :=
  ["account_hash", "id", "email", "name", "password_hash", "salt", "created_at", "updated_at",
    "last_login", "is_active"]

def deviceColumns : List String :=
  ["account_hash", "device_hash", "device_name", "device_type", "os_type", "os_version",
    "app_version", "last_sync", "created_at", "updated_at", "is_active"]

def groupColumns : List String :=
  ["id", "group_id", "account_hash", "title", "created_at", "updated_at", "is_active"]

/-- The columns of `INSERT INTO watcher_groups`. -/
def newGroupColumns : List String :=
  ["group_id", "account_hash", "device_hash", "title", "created_at", "updated_at", "is_active"]

/-- The columns of `INSERT INTO watchers`. -/
def newWatcherColumns : List String :=
  ["watcher_id", "account_hash", "group_id", "local_group_id", "folder", "title",
    "is_recursive", "created_at", "updated_at", "is_active", "extra_json"]

/-- The columns of `INSERT INTO watcher_conditions`. -/
def newConditionColumns : List String :=
  ["account_hash", "watcher_id", "local_watcher_id", "local_group_id", "condition_type", "key",
    "value", "operator", "created_at", "updated_at"]

def noticeColumns : List String :=
  ["account_hash", "device_hash", "path", "action", "timestamp", "file_id", "group_id",
    "watcher_id", "revision"]

/-- The statements of a call. -/
def statements : Call → List Dml
  | ensureServerIdsFor =>
    [[⟨.watcherGroups, ["id", "account_hash", "group_id"]⟩], [⟨.watcherGroups, newGroupColumns⟩],
      [⟨.watcherGroups, ["id", "account_hash", "group_id"]⟩],
      [⟨.watchers, ["id", "account_hash", "local_group_id", "watcher_id"]⟩],
      [⟨.watchers, newWatcherColumns⟩]]
  | migrateEncryptPaths =>
    [[⟨.files, ["file_id", "account_hash", "group_id", "watcher_id", "file_path", "filename",
        "eq_index", "token_path"]⟩],
      [⟨.files, ["file_path", "filename", "eq_index", "token_path", "file_id"]⟩]]
  | getClientWatcherId => [[⟨.watchers, ["local_group_id", "watcher_id", "id", "account_hash"]⟩]]
  | getWatcherCondition =>
    [[⟨.watcherConditions, ["id", "account_hash", "watcher_id", "condition_type", "key", "value",
      "operator", "created_at", "updated_at"]⟩]]
  | checkDuplicateWatcherGroup => [[⟨.watcherGroups, ["id", "account_hash", "group_id"]⟩]]
  | checkDuplicateWatcher => [[⟨.watchers, ["id", "account_hash", "watcher_id"]⟩]]
  | storeFileNotice | getFileNotices => [[⟨.fileNotices, noticeColumns⟩]]
  | deleteFileNotice => [[⟨.fileNotices, ["account_hash", "device_hash", "file_id"]⟩]]
  | getFileHistory | getFileVersionsById | getFileByRevision =>
    [[⟨.files, fileColumns ++ ["is_deleted"]⟩]]
  | storeFile =>
    [[⟨.files, ["key_id", "account_hash", "file_id", "updated_time"]⟩],
      [⟨.files, fileColumns ++ ["is_deleted", "server_group_id", "server_watcher_id", "key_id"]⟩]]
  | createAccount =>
    [[⟨.accounts, accountColumns⟩],
      [⟨.accounts, ["account_hash", "email", "name", "id", "created_at", "updated_at",
        "last_login", "is_active"]⟩]]
  | getAccountByEmail | getAccountByHash => [[⟨.accounts, accountColumns⟩]]
  | updateAccount =>
    [[⟨.accounts, ["name", "email", "password_hash", "salt", "updated_at", "last_login",
      "is_active", "account_hash"]⟩]]
  | createAuthToken | getAuthToken =>
    [[⟨.authTokens, ["id", "account_hash", "access_token", "refresh_token", "token_type",
      "expires_at", "created_at"]⟩]]
  | validateAuthToken => [[⟨.authTokens, ["account_hash", "access_token", "expires_at"]⟩]]
  | deleteAuthToken => [[⟨.authTokens, ["access_token"]⟩]]
  | registerDevice =>
    [[⟨.devices, ["device_hash", "account_hash"]⟩],
      [⟨.devices, ["device_name", "device_type", "os_type", "os_version", "app_version",
        "last_sync", "updated_at", "is_active", "account_hash", "device_hash"]⟩],
      [⟨.devices, "id" :: deviceColumns⟩]]
  | getDevice | listDevices => [[⟨.devices, deviceColumns⟩]]
  | updateDevice =>
    [[⟨.devices, ["device_name", "os_version", "app_version", "last_sync", "updated_at",
      "is_active", "account_hash", "device_hash"]⟩]]
  | deleteDevice => [[⟨.devices, ["account_hash", "device_hash"]⟩]]
  | validateDevice => [[⟨.devices, ["device_hash", "account_hash", "is_active"]⟩]]
  | storeFileInfo =>
    [[⟨.files, ["file_id", "revision", "is_deleted"]⟩],
      [⟨.files, ["file_hash", "device_hash", "updated_time", "size", "revision", "key_id",
        "file_id"]⟩],
      [⟨.files, ["revision", "account_hash", "file_path", "filename", "server_group_id"]⟩],
      [⟨.files, ["file_id", "account_hash", "file_path", "filename", "server_group_id",
        "is_deleted"]⟩],
      [⟨.files, ["is_deleted", "file_id"]⟩],
      [⟨.files, fileColumns ++ ["is_deleted", "server_group_id", "server_watcher_id", "eq_index",
        "token_path", "key_id"]⟩]]
  | getFileInfo | getFileInfoIncludeDeleted | getFileByHash =>
    [[⟨.files, fileColumns ++ ["is_deleted", "key_id"]⟩]]
  | getFileInfoByPath =>
    [[⟨.files, fileColumns ++ ["key_id", "eq_index", "server_group_id", "is_deleted"]⟩]]
  | findFileByPathAndName =>
    -- With a revision, and without one.
    List.replicate 2 [⟨.files, fileColumns ++ ["key_id", "eq_index", "is_deleted"]⟩]
  | deleteFile =>
    [[⟨.files, ["file_id", "revision", "file_path", "filename", "device_hash", "group_id",
        "watcher_id", "account_hash"]⟩],
      [⟨.files, ["is_deleted", "file_id"]⟩],
      [⟨.files, ["is_deleted", "account_hash", "file_path", "filename", "group_id"]⟩],
      [⟨.files, ["file_id", "account_hash", "device_hash", "file_path", "filename", "file_hash",
        "size"]⟩],
      [⟨.files, ["is_deleted", "revision", "created_time", "updated_time", "group_id",
        "watcher_id", "file_id"]⟩]]
  | listFiles | listFilesExceptDevice =>
    [[⟨.files, fileColumns ++ ["key_id", "server_group_id", "is_deleted"]⟩]]
  | storeFileData =>
    [[⟨.fileData, ["file_id"]⟩], [⟨.fileData, ["data", "updated_at", "file_id"]⟩],
      [⟨.fileData, ["file_id", "data", "created_at", "updated_at"]⟩]]
  | getFileData => [[⟨.fileData, ["data", "file_id"]⟩]]
  | getEncryptionKey => [[⟨.encryptionKeys, ["encryption_key", "account_hash"]⟩]]
  | storeEncryptionKey =>
    [[⟨.encryptionKeys, ["account_hash"]⟩],
      [⟨.encryptionKeys, ["encryption_key", "updated_at", "account_hash"]⟩],
      [⟨.encryptionKeys, ["account_hash", "encryption_key", "created_at", "updated_at"]⟩]]
  | findFileByCriteria =>
    [[⟨.files, fileColumns ++ ["key_id", "server_group_id", "server_watcher_id", "is_deleted"]⟩]]
  | checkFileExists => [[⟨.files, ["is_deleted", "file_id"]⟩]]
  | purgeDeletedFilesOlderThan => [[⟨.files, ["is_deleted", "updated_time"]⟩]]
  | trimOldRevisions =>
    [[⟨.files, ["account_hash", "file_path", "server_group_id", "file_id", "revision",
      "is_deleted", "updated_time"]⟩]]
  | getWatcher => [[⟨.watchers, ["id", "watcher_id", "account_hash", "folder", "is_recursive"]⟩]]
  | registerWatcherGroup =>
    [[⟨.watcherGroups, ["updated_at", "account_hash", "group_id"]⟩],
      [⟨.watcherGroups, newGroupColumns⟩], [⟨.watcherGroups, newGroupColumns⟩]]
  | getWatcherGroups | getUserWatcherGroup =>
    [[⟨.watcherGroups, groupColumns⟩], [⟨.watchers, ["id", "group_id", "account_hash"]⟩]]
  | updateWatcherGroup =>
    [[⟨.watcherGroups, ["updated_at", "id", "account_hash"]⟩],
      [⟨.watcherGroups, ["title", "updated_at", "is_active", "id", "account_hash"]⟩]]
  | deleteWatcherGroup =>
    [[⟨.watcherGroups, ["id", "account_hash", "group_id"]⟩],
      [⟨.watcherConditions, ["watcher_id"]⟩, ⟨.watchers, ["id", "account_hash", "group_id"]⟩],
      [⟨.watchers, ["account_hash", "group_id"]⟩],
      [⟨.watcherGroups, ["id", "account_hash"]⟩]]
  | getWatcherGroupByAccountAndId =>
    [[⟨.watcherGroups, ["id", "group_id", "title", "updated_at", "account_hash"]⟩],
      [⟨.watchers, ["id", "group_id", "account_hash"]⟩]]
  | getWatcherPreset => [[⟨.watcherPresets, ["preset_json", "account_hash", "updated_at"]⟩]]
  | registerWatcherPresetProto =>
    [[⟨.accounts, ["account_hash", "created_at", "updated_at"]⟩],
      [⟨.watcherPresets, ["account_hash", "preset_json", "created_at", "updated_at"]⟩]]
  | findWatcherByFolder => [[⟨.watchers, ["id", "account_hash", "group_id", "folder"]⟩]]
  | createWatcherWithConditions =>
    [[⟨.watcherGroups, ["id", "group_id", "account_hash"]⟩],
      [⟨.watchers, ["updated_at", "watcher_id", "account_hash", "local_group_id"]⟩],
      [⟨.watchers, ["id", "watcher_id", "account_hash", "local_group_id"]⟩],
      [⟨.watchers, newWatcherColumns⟩],
      [⟨.watcherConditions, newConditionColumns⟩], [⟨.watcherConditions, newConditionColumns⟩]]
  | getWatcherByGroupAndId =>
    [[⟨.watchers, ["id", "watcher_id", "folder", "is_recursive", "account_hash",
      "local_group_id"]⟩]]
  | createWatcherCondition =>
    [[⟨.watchers, ["watcher_id", "id"]⟩], [⟨.watcherConditions, newConditionColumns⟩]]
  | getWatcherConditions => [[⟨.watcherConditions, "id" :: newConditionColumns⟩]]
  | updateWatcherCondition =>
    [[⟨.watcherConditions, ["local_watcher_id", "local_group_id", "condition_type", "key",
      "value", "operator", "updated_at", "id"]⟩]]
  | deleteWatcherCondition => [[⟨.watcherConditions, ["id"]⟩]]
  | deleteAllWatcherConditions => [[⟨.watcherConditions, ["watcher_id"]⟩]]
  | saveWatcherConditions =>
    [[⟨.watcherConditions, ["watcher_id"]⟩],
      [⟨.watcherConditions, ["account_hash", "watcher_id", "local_group_id", "condition_type",
        "key", "value", "operator", "created_at", "updated_at"]⟩]]
  | getServerGroupId => [[⟨.watcherGroups, ["id", "account_hash", "group_id"]⟩]]
  | getServerIds =>
    [[⟨.watcherGroups, ["id", "account_hash", "group_id"]⟩],
      [⟨.watchers, ["id", "account_hash", "local_group_id", "watcher_id"]⟩]]

/-- Some statement of the call names the column. -/
def Names (call : Call) (T : TableName) (c : String) : Prop :=
  ∃ s ∈ call.statements, ∃ a ∈ s, a.table = T ∧ c ∈ a.columns

instance (call : Call) (T : TableName) (c : String) : Decidable (call.Names T c) :=
  inferInstanceAs (Decidable (∃ s ∈ _, ∃ a ∈ s, _))

end Call

/-! ## A database that began empty -/

/-- The columns that statements name and that a new database does not have. -/
def missing : TableName → List String
  | .authTokens => ["access_token", "refresh_token", "token_type"]
  | .files => ["created_time", "updated_time"]
  | .watcherGroups => ["device_hash"]
  | .watcherConditions => ["local_watcher_id", "local_group_id"]
  | .fileData => ["file_id", "data", "created_at", "updated_at"]
  | .fileNotices => Call.noticeColumns
  | _ => []

theorem mem_freshColumns_iff (call : Call) :
    ∀ s ∈ call.statements, ∀ a ∈ s, ∀ c ∈ a.columns,
      c ∈ freshColumns a.table ↔ c ∉ missing a.table := by
  cases call <;> decide +kernel

theorem not_mem_freshColumns {T : TableName} {c : String} (h : c ∈ missing T) :
    c ∉ freshColumns T := by
  revert c
  cases T <;> decide +kernel

/-- One call for each table with missing columns names them all. -/
theorem exists_names {T : TableName} {c : String} (h : c ∈ missing T) :
    ∃ call : Call, call.Names T c := by
  cases T with
  | authTokens => exact ⟨.createAuthToken, by revert c; decide⟩
  | files => exact ⟨.storeFile, by revert c; decide⟩
  | watcherGroups => exact ⟨.registerWatcherGroup, by revert c; decide⟩
  | watcherConditions => exact ⟨.createWatcherCondition, by revert c; decide⟩
  | fileData => exact ⟨.storeFileData, by revert c; decide⟩
  | fileNotices => exact ⟨.storeFileNotice, by revert c; decide⟩
  | _ => cases h

section

variable {ops : List Op} {server : Scripts.Progress Statement Query}

/-- Whatever starts there have been on a database that began empty, once one has come through
    exactly these columns are named in vain. So no login token is ever stored or found, no upload,
    no watcher group and no condition inserted. -/
theorem resolves_iff (hserver : server ∈ (run system.step (idle fun _ => none) ops).requests)
    (hsucceeded : server.Succeeded) :
    (∀ T c, (c ∉ (run system.step (idle fun _ => none) ops).shared.columnsOf T ∧
      ∃ call : Call, call.Names T c) ↔ c ∈ missing T) ∧
    ∀ call : Call, ∀ s ∈ call.statements,
      s.Resolves (run system.step (idle fun _ => none) ops).shared ↔
        ∀ a ∈ s, ∀ c ∈ a.columns, c ∉ missing a.table := by
  simp only [Dml.Resolves, created_iff hserver hsucceeded]
  refine ⟨fun T c => ⟨fun h => ?_, fun h => ⟨not_mem_freshColumns h, exists_names h⟩⟩,
    fun call s hs => ?_⟩
  · obtain ⟨hfresh, call, s, hs, a, ha, rfl, hc⟩ := h
    exact not_not.1 fun hnot => hfresh ((mem_freshColumns_iff call s hs a ha c hc).2 hnot)
  · exact forall₂_congr fun a ha => forall₂_congr (mem_freshColumns_iff call s hs a ha)

end

/-- A device is registered there, and no token is found. -/
theorem resolves_sampleStarts :
    (∀ s ∈ Call.registerDevice.statements,
      s.Resolves (run system.step (idle fun _ => none) sampleStarts).shared) ∧
    ∀ s ∈ Call.getAuthToken.statements,
      ¬s.Resolves (run system.step (idle fun _ => none) sampleStarts).shared := by
  have h : ∃ server ∈ (run system.step (idle fun _ => none) sampleStarts).requests,
      server.Succeeded := by decide +kernel
  obtain ⟨server, hserver, hsucceeded⟩ := h
  have hresolves := (resolves_iff hserver hsucceeded).2
  have hthere : ∀ s ∈ Call.registerDevice.statements, ∀ a ∈ s, ∀ c ∈ a.columns,
      c ∉ missing a.table := by decide
  have hnamed : ∀ s ∈ Call.getAuthToken.statements, ¬∀ a ∈ s, ∀ c ∈ a.columns,
      c ∉ missing a.table := by decide
  exact ⟨fun s hs => (hresolves _ s hs).2 (hthere s hs),
    fun s hs => mt (hresolves _ s hs).1 (hnamed s hs)⟩

end CosmicSync.Schema
