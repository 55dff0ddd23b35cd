import CosmicSync.Models.File
import CosmicSync.Storage.Basic

/-!
# The file table

`storage/mysql_file.rs`, and `get_file_by_revision` and `store_file` of
`storage/mysql.rs`: the table of files, and the calls that read and change it.

A row is a version of a file. An upload (`storeFileInfo`) either updates the rows
of its file id, when one of them is active, or retires the active row of the same
path and name and inserts a new one with the next revision. A deletion
(`deleteFile`) marks the rows of a file as deleted and inserts a tombstone. The
retention pass marks old revisions as deleted (`trimOldRevisions`) and removes
deleted rows after a while (`purgeDeletedFilesOlderThan`).

The clock, the random file ids and the nonces are arguments. A call that fails
leaves the table as it is.

* `storeFileInfo_ok`: what an upload does, one case for each branch.
* `deleteFile_ok`: what a deletion does.
-/

namespace CosmicSync

open Table

/-! ## Rows -/

/-- A row of the table `files`. -/
structure FileRow where
  fileId : ℕ
  accountHash : String
  deviceHash : String
  filePath : ByteArray
  filename : ByteArray
  fileHash : String
  size : ℤ
  isDeleted : Bool
  revision : ℤ
  createdTime : ℤ
  updatedTime : ℤ
  groupId : ℤ
  watcherId : ℤ
  serverGroupId : ℤ
  serverWatcherId : ℤ
  eqIndex : Option ByteArray
  tokenPath : Option String
  keyId : Option String
  deriving DecidableEq

/-- What makes rows versions of one file: the account, the path and the name as
    they are stored, and a group. -/
structure LogicalFile where
  accountHash : String
  filePath : ByteArray
  filename : ByteArray
  groupId : ℤ
  deriving DecidableEq

/-- The logical file of a row, by the column `server_group_id`. -/
def FileRow.logical (r : FileRow) : LogicalFile :=
  ⟨r.accountHash, r.filePath, r.filename, r.serverGroupId⟩

/-- The logical file of a row, by the column `group_id`. -/
def FileRow.logicalByGroup (r : FileRow) : LogicalFile :=
  ⟨r.accountHash, r.filePath, r.filename, r.groupId⟩

/-- The logical file of an upload, its path and name in plain text. -/
def FileInfo.logical (info : FileInfo) : LogicalFile :=
  ⟨info.accountHash, info.filePath.toByteArray, info.filename.toByteArray, info.groupId⟩

/-! ## Paths and names in the table -/

namespace Env

variable (env : Env)

/-- The associated data under which path and name are encrypted. -/
def aad (accountHash : String) (groupId watcherId : ℤ) : ByteArray :=
  (accountHash ++ ":" ++ toString groupId ++ ":" ++ toString watcherId).toByteArray

/-- The salt of an account's indices. -/
def metaSalt (accountHash : String) : ByteArray :=
  match env.config.encodeKey with
  | some key => env.crypto.deriveSalt key "meta-index" accountHash
  | none => accountHash.toByteArray

/-- The index of a path. -/
def eqIndex (accountHash filePath : String) : ByteArray :=
  env.crypto.makeEqIndex (env.metaSalt accountHash) filePath

/-- A path or a name, as it is stored: encrypted if there is a key. -/
def encodeText (nonce : Nonce) (info : FileInfo) (text : String) : ByteArray :=
  match env.config.encodeKey with
  | some key =>
    env.crypto.aeadEncrypt key nonce text.toByteArray
      (aad info.accountHash info.groupId info.watcherId)
  | none => text.toByteArray

/-- `decrypt_text`: what cannot be decrypted is taken as plain text. -/
def decryptText (accountHash : String) (groupId watcherId : ℤ) (data : ByteArray) : String :=
  match env.config.encodeKey with
  | some key =>
    match env.crypto.aeadDecrypt key data (aad accountHash groupId watcherId) with
    | .ok pt => fromUtf8Lossy pt
    | .error _ => fromUtf8Lossy data
  | none => fromUtf8Lossy data

/-- A text that was encoded is read back. -/
theorem decryptText_encodeText (hC : env.crypto.Lawful) (nonce : Nonce) (info : FileInfo)
    (text : String) :
    env.decryptText info.accountHash info.groupId info.watcherId (env.encodeText nonce info text) =
      text := by
  rcases h : env.config.encodeKey with _ | key
  · simp [decryptText, encodeText, h]
  · simp [decryptText, encodeText, h, hC]

end Env

/-- The conversion of a row that the lookups share. The table does not record
    whether the file is encrypted. -/
def FileRow.toFileInfo (env : Env) (r : FileRow) : FileInfo where
  fileId := r.fileId
  filename := env.decryptText r.accountHash r.groupId r.watcherId r.filename
  fileHash := r.fileHash
  deviceHash := r.deviceHash
  groupId := r.groupId
  watcherId := r.watcherId
  isEncrypted := false
  filePath := env.decryptText r.accountHash r.groupId r.watcherId r.filePath
  updatedTime := ⟨r.updatedTime, 0⟩
  revision := r.revision
  accountHash := r.accountHash
  size := (env.driver.unsigned r.size).getD 0
  keyId := r.keyId

/-! ## Uploads -/

/-- `UPDATE files SET is_deleted = TRUE WHERE p`. -/
def markDeleted (p : FileRow → Prop) [DecidablePred p] (t : List FileRow) : List FileRow :=
  updateWhere p (fun r => { r with isDeleted := true }) t

/-- An upload to a file id in use: the row keeps its path, name and group. -/
def FileRow.overwrite (info : FileInfo) (r : FileRow) : FileRow :=
  { r with
    fileHash := info.fileHash
    deviceHash := info.deviceHash
    updatedTime := info.updatedTime.seconds
    size := asI64 info.size
    revision := r.revision + 1
    keyId := info.keyId <|> r.keyId }

/-- The row of a new version. -/
def Env.newRow (env : Env) (now : ℤ) (nonces : Nonce × Nonce) (info : FileInfo) (newRevision : ℤ) :
    FileRow where
  fileId := info.fileId
  accountHash := info.accountHash
  deviceHash := info.deviceHash
  filePath := env.encodeText nonces.1 info info.filePath
  filename := env.encodeText nonces.2 info info.filename
  fileHash := info.fileHash
  size := asI64 info.size
  isDeleted := false
  revision := newRevision
  createdTime := now
  updatedTime := info.updatedTime.seconds
  groupId := info.groupId
  watcherId := info.watcherId
  serverGroupId := info.groupId
  serverWatcherId := info.watcherId
  eqIndex := some (env.eqIndex info.accountHash info.filePath)
  tokenPath := some (env.crypto.makeTokenPath (env.metaSalt info.accountHash) info.filePath)
  keyId := info.keyId

/-- The next revision of a logical file: `COALESCE(MAX(revision), 0) + 1`. -/
def nextRevision (k : LogicalFile) (t : List FileRow) : ℤ :=
  (maxOf (fun r => r.logical = k) FileRow.revision t).getD 0 + 1

/-- Retires the active row of a logical file, if there is one: of several, the rows
    of the file id found first. -/
def retire (pl : Planner) (k : LogicalFile) (t : List FileRow) : List FileRow :=
  match fetchOptional pl (fun r => r.logical = k ∧ r.isDeleted = false) t with
  | some existing => markDeleted (fun r => r.fileId = existing.fileId) t
  | none => t

/-- `store_file_info`. Where there is a key, the stored path and name are compared
    in plain text all the same. -/
def storeFileInfo (env : Env) (now : ℤ) (nonces : Nonce × Nonce) (info : FileInfo)
    (t : List FileRow) : Except StorageError (ℕ × List FileRow) :=
  match fetchOptional env.planner (fun r => r.fileId = info.fileId ∧ r.isDeleted = false) t with
  | some _ =>
    -- All rows of the id, the deleted ones too.
    .ok (info.fileId, updateWhere (fun r => r.fileId = info.fileId) (FileRow.overwrite info) t)
  | none =>
    -- The id is bound as a signed number, and the column is unsigned.
    if info.fileId < 2 ^ 63 then
      .ok (info.fileId, retire env.planner info.logical t ++
        [env.newRow now nonces info (nextRevision info.logical t)])
    else .error (.database ("새 파일 정보 삽입 실패: " ++ env.driver.rangeError))

/-! ## Deletions -/

/-- The tombstone as it is inserted: the hash of the file is its path, and the
    columns that are not named have their defaults. -/
def insertedTombstone (now : ℤ) (newFileId : ℕ) (accountHash filePath filename : String)
    (r : FileRow) : FileRow where
  fileId := newFileId
  accountHash := accountHash
  deviceHash := r.deviceHash
  filePath := filePath.toByteArray
  filename := filename.toByteArray
  fileHash := filePath
  size := 0
  isDeleted := false
  revision := 1
  createdTime := now
  updatedTime := now
  groupId := 0
  watcherId := 0
  serverGroupId := 0
  serverWatcherId := 0
  eqIndex := none
  tokenPath := none
  keyId := none

/-- The second statement of the tombstone: the remaining columns. -/
def FileRow.finishTombstone (now newRevision groupId watcherId : ℤ) (r : FileRow) : FileRow :=
  { r with
    isDeleted := true
    revision := newRevision
    createdTime := now
    updatedTime := now
    groupId := groupId
    watcherId := watcherId }

/-- `delete_file`. The row found need not be active, nor the latest one. -/
def deleteFile (env : Env) (now : ℤ) (newFileId : ℕ) (accountHash : String) (fileId : ℕ)
    (t : List FileRow) : Except StorageError (Unit × List FileRow) :=
  match fetchOptional env.planner (fun r => r.fileId = fileId ∧ r.accountHash = accountHash) t with
  | none => .error (.notFound ("파일을 찾을 수 없음: " ++ toString fileId))
  | some r =>
    match env.driver.text r.filePath, env.driver.text r.filename with
    | some filePath, some filename =>
      let k : LogicalFile := ⟨accountHash, filePath.toByteArray, filename.toByteArray, r.groupId⟩
      -- The first statement does not name the account, the second goes by `group_id`.
      let t₁ := markDeleted (fun f => f.fileId = fileId) t
      let t₂ := markDeleted (fun f => f.logicalByGroup = k) t₁
      let t₃ := t₂ ++ [insertedTombstone now newFileId accountHash filePath filename r]
      .ok ((), updateWhere (fun f => f.fileId = newFileId)
        (FileRow.finishTombstone now (r.revision + 1) r.groupId r.watcherId) t₃)
    | _, _ => .error (.database ("파일 존재 여부 확인 실패(sqlx): " ++ env.driver.decodeError))

/-! ## Retention -/

/-- The columns that `trim_old_revisions` groups by: the name is not one of them. -/
def FileRow.pathGroup (r : FileRow) : String × ByteArray × ℤ :=
  (r.accountHash, r.filePath, r.serverGroupId)

/-- The number of active rows in the path group of `t` that are as recent. -/
def newerInPath (t : FileRow) (table : List FileRow) : ℕ :=
  table.countP fun i =>
    i.pathGroup = t.pathGroup ∧ i.isDeleted = false ∧ t.updatedTime ≤ i.updatedTime

/-- The rows that the subquery of `trim_old_revisions` selects. -/
def beyondLimit (maxRevisions : ℤ) (table : List FileRow) : List FileRow :=
  table.filter fun t => t.isDeleted = false ∧ maxRevisions < newerInPath t table

/-- The join finds a selected row with the columns of `f`. -/
def IsTrimmed (maxRevisions : ℤ) (table : List FileRow) (f : FileRow) : Prop :=
  ∃ x ∈ beyondLimit maxRevisions table,
    f.pathGroup = x.pathGroup ∧ f.fileId = x.fileId ∧ f.revision = x.revision

instance (maxRevisions : ℤ) (table : List FileRow) : DecidablePred (IsTrimmed maxRevisions table) :=
  fun _ => List.decidableBEx _ _

/-- `trim_old_revisions`. -/
def trimOldRevisions (maxRevisions : ℤ) (table : List FileRow) : List FileRow :=
  markDeleted (IsTrimmed maxRevisions table) table

/-- `purge_deleted_files_older_than`, at the time `now`. -/
def purgeDeletedFilesOlderThan (now ttlSecs : ℤ) (table : List FileRow) : List FileRow :=
  deleteWhere (fun r => r.isDeleted = true ∧ r.updatedTime < now - ttlSecs) table

/-! ## Lookups -/

/-- The order of a query `ORDER BY revision DESC`. -/
def byRevision (r r' : FileRow) : Prop := r'.revision ≤ r.revision

instance : DecidableRel byRevision :=
  fun r r' => inferInstanceAs (Decidable (r'.revision ≤ r.revision))

instance : Std.Total byRevision := ⟨fun r r' => le_total r'.revision r.revision⟩

instance : IsTrans FileRow byRevision := ⟨fun _ _ _ h h' => le_trans h' h⟩

/-- The order of a query `ORDER BY updated_time DESC`. -/
def byUpdatedTime (r r' : FileRow) : Prop := r'.updatedTime ≤ r.updatedTime

instance : DecidableRel byUpdatedTime :=
  fun r r' => inferInstanceAs (Decidable (r'.updatedTime ≤ r.updatedTime))

section Lookups

variable (env : Env) (t : List FileRow)

/-- `get_file_info`: whoever the account, the active row of a file id. -/
def getFileInfo (fileId : ℕ) : Option FileInfo :=
  (fetchOptional env.planner (fun r => r.fileId = fileId ∧ r.isDeleted = false) t).map
    (FileRow.toFileInfo env)

/-- `get_file_info_include_deleted`. -/
def getFileInfoIncludeDeleted (fileId : ℕ) : Option (FileInfo × Bool) :=
  (fetchOptional env.planner (fun r => r.fileId = fileId) t).map fun r =>
    (r.toFileInfo env, r.isDeleted)

/-- `get_file_info_by_path`: by the index of the path. A row without an index is
    not found. -/
def getFileInfoByPath (accountHash filePath : String) (groupId : ℤ) : Option FileInfo :=
  (fetchFirstBy env.planner (fun r => r.accountHash = accountHash ∧
    r.eqIndex = some (env.eqIndex accountHash filePath) ∧ r.serverGroupId = groupId ∧
    r.isDeleted = false) t byRevision).map (FileRow.toFileInfo env)

/-- `find_file_by_path_and_name`: the name plays no part. -/
def findFileByPathAndName (accountHash filePath _filename : String) (revision : ℤ) :
    Option FileInfo :=
  (fetchFirstBy env.planner (fun r => r.accountHash = accountHash ∧
    r.eqIndex = some (env.eqIndex accountHash filePath) ∧ r.isDeleted = false ∧
    (0 < revision → r.revision = revision)) t byRevision).map (FileRow.toFileInfo env)

/-- `list_files`: the time from which files are asked for plays no part. -/
def listFiles (accountHash : String) (groupId : ℤ) (_uploadTimeFrom : Option ℤ) : List FileInfo :=
  (fetchAllBy env.planner (fun r => r.accountHash = accountHash ∧ r.serverGroupId = groupId ∧
    r.isDeleted = false) t byUpdatedTime).map (FileRow.toFileInfo env)

/-- `list_files_except_device`. -/
def listFilesExceptDevice (accountHash : String) (groupId : ℤ) (excludeDeviceHash : String)
    (_uploadTimeFrom : Option ℤ) : List FileInfo :=
  (fetchAllBy env.planner (fun r => r.accountHash = accountHash ∧ r.serverGroupId = groupId ∧
    r.deviceHash ≠ excludeDeviceHash ∧ r.isDeleted = false) t byUpdatedTime).map
      (FileRow.toFileInfo env)

/-- `check_file_exists`: whether there is a row, and whether it is deleted. -/
def checkFileExists (fileId : ℕ) : Bool × Bool :=
  match fetchOptional env.planner (fun r => r.fileId = fileId ∧ fileId < 2 ^ 63) t with
  | some r => (true, r.isDeleted)
  | none => (false, false)

end Lookups

/-! ### By criteria -/

/-- A path that ends in the name is taken apart at its last slash. -/
def searchCriteria (filePath filename : String) : String × String :=
  let path := filePath.toList
  if ("/" ++ filename).toList <:+ path ∨ filename.toList <:+ path then
    if '/' ∈ path then
      (String.ofList (path.rdropWhile (· ≠ '/')).dropLast,
        String.ofList (path.rtakeWhile (· ≠ '/')))
    else ("", filePath)
  else (filePath, filename)

/-- The row is the active one that `find_file_by_criteria` asks for. -/
def FileRow.MatchesCriteria (accountHash : String) (groupId watcherId : ℤ)
    (filePath filename : String) (r : FileRow) : Prop :=
  let search := searchCriteria filePath filename
  r.accountHash = accountHash ∧ r.serverGroupId = groupId ∧ r.serverWatcherId = watcherId ∧
    r.isDeleted = false ∧
      ((r.filePath = search.1.toByteArray ∧ r.filename = search.2.toByteArray) ∨
        (r.filePath = filePath.toByteArray ∧ r.filename = filename.toByteArray))

instance (accountHash : String) (groupId watcherId : ℤ) (filePath filename : String) :
    DecidablePred (FileRow.MatchesCriteria accountHash groupId watcherId filePath filename) :=
  fun _ => inferInstanceAs (Decidable (_ ∧ _))

/-- `find_file_by_criteria`: path and name are compared, and read, in plain text. -/
def findFileByCriteria (env : Env) (t : List FileRow) (accountHash : String)
    (groupId watcherId : ℤ) (filePath filename : String) : Option FileInfo :=
  (fetchFirstBy env.planner
    (FileRow.MatchesCriteria accountHash groupId watcherId filePath filename)
    t byRevision).map fun r =>
      { r.toFileInfo env with
        filePath := (env.driver.text r.filePath).getD ""
        filename := (env.driver.text r.filename).getD "" }

/-! ### Versions -/

/-- The conversion of a row that the calls for versions share: path and name are
    read as text, and are empty if the driver refuses. -/
def FileRow.toVersion (env : Env) (r : FileRow) : SyncFile where
  id := toString r.fileId ++ "_" ++ toString r.revision
  userId := r.accountHash
  deviceHash := r.deviceHash
  groupId := r.groupId
  watcherId := r.watcherId
  fileId := r.fileId
  filename := (env.driver.text r.filename).getD ""
  fileHash := r.fileHash
  filePath := (env.driver.text r.filePath).getD ""
  fileSize := r.size
  mimeType := "application/octet-stream"
  modifiedTime := r.updatedTime
  isEncrypted := false
  uploadTime := ⟨r.createdTime, 0⟩
  lastUpdated := ⟨r.updatedTime, 0⟩
  isDeleted := r.isDeleted
  revision := r.revision

/-- `get_file_by_revision`. -/
def getFileByRevision (env : Env) (t : List FileRow) (accountHash : String) (fileId : ℕ)
    (revision : ℤ) : Except StorageError SyncFile :=
  match fetchOptional env.planner (fun r => r.accountHash = accountHash ∧
    (r.fileId = fileId ∧ fileId < 2 ^ 63) ∧ r.revision = revision) t with
  | some r => .ok (r.toVersion env)
  | none => .error (.notFound
      ("File not found: file_id=" ++ toString fileId ++ ", revision=" ++ toString revision))

/-- `get_file_history`: of a path, whatever the name. -/
def getFileHistory (env : Env) (t : List FileRow) (accountHash filePath : String) (groupId : ℤ) :
    List SyncFile :=
  (fetchAllBy env.planner (fun r => r.accountHash = accountHash ∧
    r.filePath = filePath.toByteArray ∧ r.groupId = groupId) t byRevision).map
      (FileRow.toVersion env)

/-- The row that `store_file` inserts: it has no index of its path. -/
def versionRow (file : SyncFile) (keyId : Option String) : FileRow where
  fileId := file.fileId
  accountHash := file.userId
  deviceHash := file.deviceHash
  filePath := file.filePath.toByteArray
  filename := file.filename.toByteArray
  fileHash := file.fileHash
  size := file.fileSize
  isDeleted := file.isDeleted
  revision := file.revision
  createdTime := file.uploadTime.seconds
  updatedTime := file.lastUpdated.seconds
  groupId := file.groupId
  watcherId := file.watcherId
  serverGroupId := file.groupId
  serverWatcherId := file.watcherId
  eqIndex := none
  tokenPath := none
  keyId := keyId

/-- `store_file`: the key id is carried over from the latest row of the file id. -/
def storeFile (env : Env) (file : SyncFile) (t : List FileRow) : List FileRow :=
  let prevKeyId := (fetchFirstBy env.planner (fun r => r.accountHash = file.userId ∧
    r.fileId = file.fileId) t byUpdatedTime).bind FileRow.keyId
  t ++ [versionRow file prevKeyId]

theorem exists_storeFile (env : Env) (file : SyncFile) (t : List FileRow) :
    ∃ keyId, storeFile env file t = t ++ [versionRow file keyId] := ⟨_, rfl⟩

/-! ## What the statements do -/

section Specs

variable {env : Env} {now : ℤ} {nonces : Nonce × Nonce} {info : FileInfo} {t t' : List FileRow}
  {id newFileId fileId : ℕ} {accountHash : String} {r : FileRow}

/-- Marking rows as deleted changes nothing else. -/
theorem mem_markDeleted {p : FileRow → Prop} [DecidablePred p] (h : r ∈ markDeleted p t) :
    (r ∈ t ∧ ¬p r) ∨ ∃ r₀ ∈ t, p r₀ ∧ r = { r₀ with isDeleted := true } :=
  mem_updateWhere_cases h

/-- A row that is active after some were marked was active, and not marked. -/
theorem active_of_mem_markDeleted {p : FileRow → Prop} [DecidablePred p] (h : r ∈ markDeleted p t)
    (hr : r.isDeleted = false) : r ∈ t ∧ ¬p r := by
  obtain h | ⟨r₀, -, -, rfl⟩ := mem_markDeleted h
  · exact h
  · cases hr

/-- An upload to an active file id. -/
theorem storeFileInfo_of_active (h : ∃ r ∈ t, r.fileId = info.fileId ∧ r.isDeleted = false) :
    storeFileInfo env now nonces info t =
      .ok (info.fileId,
        updateWhere (fun r => r.fileId = info.fileId) (FileRow.overwrite info) t) := by
  obtain ⟨r, hr, hp⟩ := h
  obtain ⟨r', hf⟩ := exists_fetchOptional env.planner
    (p := fun r => r.fileId = info.fileId ∧ r.isDeleted = false) hr hp
  simp only [storeFileInfo, hf]

/-- An upload to another one. -/
theorem storeFileInfo_of_not_active (h : ∀ r ∈ t, ¬(r.fileId = info.fileId ∧ r.isDeleted = false)) :
    storeFileInfo env now nonces info t =
      if info.fileId < 2 ^ 63 then
        .ok (info.fileId, retire env.planner info.logical t ++
          [env.newRow now nonces info (nextRevision info.logical t)])
      else .error (.database ("새 파일 정보 삽입 실패: " ++ env.driver.rangeError)) := by
  simp only [storeFileInfo, fetchOptional_eq_none.2 h]

/-- What an upload does: it updates the rows of a file id in use; or it retires the
    active row and inserts the next revision. -/
theorem storeFileInfo_ok (h : storeFileInfo env now nonces info t = .ok (id, t')) :
    id = info.fileId ∧
      (((∃ r ∈ t, r.fileId = info.fileId ∧ r.isDeleted = false) ∧
          t' = updateWhere (fun r => r.fileId = info.fileId) (FileRow.overwrite info) t) ∨
        ((∀ r ∈ t, ¬(r.fileId = info.fileId ∧ r.isDeleted = false)) ∧ info.fileId < 2 ^ 63 ∧
          t' = retire env.planner info.logical t ++
            [env.newRow now nonces info (nextRevision info.logical t)])) := by
  by_cases hactive : ∃ r ∈ t, r.fileId = info.fileId ∧ r.isDeleted = false
  · rw [storeFileInfo_of_active hactive] at h
    cases h
    exact ⟨rfl, .inl ⟨hactive, rfl⟩⟩
  · have hnot : ∀ r ∈ t, ¬(r.fileId = info.fileId ∧ r.isDeleted = false) :=
      fun r hr hp => hactive ⟨r, hr, hp⟩
    rw [storeFileInfo_of_not_active hnot] at h
    split at h
    next hlt =>
      cases h
      exact ⟨rfl, .inr ⟨hnot, hlt, rfl⟩⟩
    next => cases h

/-- What a deletion does. -/
theorem deleteFile_ok (h : deleteFile env now newFileId accountHash fileId t = .ok ((), t')) :
    ∃ r filePath filename,
      fetchOptional env.planner (fun r => r.fileId = fileId ∧ r.accountHash = accountHash) t =
        some r ∧
      r.filePath = filePath.toByteArray ∧ r.filename = filename.toByteArray ∧
      t' = updateWhere (fun f => f.fileId = newFileId)
        (FileRow.finishTombstone now (r.revision + 1) r.groupId r.watcherId)
        (markDeleted (fun f => f.logicalByGroup = r.logicalByGroup)
            (markDeleted (fun f => f.fileId = fileId) t) ++
          [insertedTombstone now newFileId accountHash filePath filename r]) := by
  unfold deleteFile at h
  split at h
  next => cases h
  next r hf =>
    obtain ⟨-, -, hacc⟩ := fetchOptional_some hf
    split at h
    next filePath filename hpath hname =>
      -- The texts that the driver reads have the bytes of the columns.
      have hpath := env.driver.text_sound _ _ hpath
      have hname := env.driver.text_sound _ _ hname
      refine ⟨r, filePath, filename, hf, hpath, hname, ?_⟩
      cases h
      rw [FileRow.logicalByGroup, hacc, hpath, hname]
    next => cases h

theorem getFileInfo_isSome :
    (getFileInfo env t fileId).isSome ↔ ∃ r ∈ t, r.fileId = fileId ∧ r.isDeleted = false := by
  rw [getFileInfo, Option.isSome_map, isSome_fetchOptional]

/-- An id from `2 ^ 63` on is bound as a negative number. -/
theorem checkFileExists_of_le (h : 2 ^ 63 ≤ fileId) (t : List FileRow) :
    checkFileExists env t fileId = (false, false) := by
  have hnone : fetchOptional env.planner (fun r => r.fileId = fileId ∧ fileId < 2 ^ 63) t = none :=
    fetchOptional_eq_none.2 fun _ _ hr => absurd hr.2 (not_lt.2 h)
  rw [checkFileExists, hnone]

/-- Retiring finds no active row, or marks the rows of the file id it found. -/
theorem retire_cases (pl : Planner) (k : LogicalFile) (t : List FileRow) :
    ((∀ r ∈ t, r.logical = k → r.isDeleted = true) ∧ retire pl k t = t) ∨
      ∃ r ∈ t, r.logical = k ∧ r.isDeleted = false ∧
        retire pl k t = markDeleted (fun f => f.fileId = r.fileId) t := by
  unfold retire
  split
  next r hf =>
    obtain ⟨hmem, hk, hlive⟩ := fetchOptional_some hf
    exact .inr ⟨r, hmem, hk, hlive, rfl⟩
  next hf =>
    rw [fetchOptional_eq_none] at hf
    exact .inl ⟨fun r hr hk => by simpa [hk] using hf r hr, rfl⟩

theorem active_of_mem_retire {pl : Planner} {k : LogicalFile} (h : r ∈ retire pl k t)
    (hr : r.isDeleted = false) : r ∈ t := by
  obtain ⟨-, heq⟩ | ⟨e, -, -, -, heq⟩ := retire_cases pl k t
  · exact heq ▸ h
  · exact (active_of_mem_markDeleted (heq ▸ h) hr).1

/-- The columns other than the mark. -/
theorem map_markDeleted {β : Type*} {π : FileRow → β} {p : FileRow → Prop} [DecidablePred p]
    (h : ∀ r, π { r with isDeleted := true } = π r) : (markDeleted p t).map π = t.map π :=
  map_updateWhere h

theorem map_retire {β : Type*} {π : FileRow → β} {pl : Planner} {k : LogicalFile}
    (h : ∀ r, π { r with isDeleted := true } = π r) : (retire pl k t).map π = t.map π := by
  obtain ⟨-, heq⟩ | ⟨e, -, -, -, heq⟩ := retire_cases pl k t
  · rw [heq]
  · rw [heq, map_markDeleted h]

/-- Nothing to retire, and the first revision: the logical file is new. -/
theorem retire_of_forall_ne {pl : Planner} {k : LogicalFile} (h : ∀ r ∈ t, r.logical ≠ k) :
    retire pl k t = t := by
  obtain ⟨-, heq⟩ | ⟨r, hr, hk, -⟩ := retire_cases pl k t
  · exact heq
  · exact absurd hk (h r hr)

theorem nextRevision_of_forall_ne {k : LogicalFile} (h : ∀ r ∈ t, r.logical ≠ k) :
    nextRevision k t = 1 := by
  rw [nextRevision, maxOf_eq_none.2 h]
  rfl

/-- Without a key, path and name are stored as they are. -/
theorem newRow_logical (h : env.config.encodeKey = none) (n : ℤ) :
    (env.newRow now nonces info n).logical = info.logical := by
  simp [FileRow.logical, Env.newRow, Env.encodeText, h, FileInfo.logical]

theorem newRow_logicalByGroup (h : env.config.encodeKey = none) (n : ℤ) :
    (env.newRow now nonces info n).logicalByGroup = info.logical := newRow_logical h n

end Specs

/-! ## Runs -/

/-- The calls by which clients change the table. -/
inductive FileOp where
  | store (now : ℤ) (nonces : Nonce × Nonce) (info : FileInfo)
  | delete (now : ℤ) (newFileId : ℕ) (accountHash : String) (fileId : ℕ)

/-- The table after a call. -/
def FileOp.apply (env : Env) (t : List FileRow) : FileOp → List FileRow
  | store now nonces info => committed t (storeFileInfo env now nonces info t)
  | delete now newFileId accountHash fileId =>
    committed t (deleteFile env now newFileId accountHash fileId t)

/-- The upload of an empty file, for the examples. -/
def sampleInfo (fileId : ℕ) (revision updatedTime : ℤ) : FileInfo where
  fileId := fileId
  filename := "a.txt"
  fileHash := "h"
  deviceHash := "d"
  groupId := 1
  watcherId := 1
  isEncrypted := false
  filePath := "~/a.txt"
  updatedTime := ⟨updatedTime, 0⟩
  revision := revision
  accountHash := "alice"
  size := 0
  keyId := none

end CosmicSync
