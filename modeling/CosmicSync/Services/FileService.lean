import CosmicSync.Server.NotificationManager
import CosmicSync.Storage.MySqlFile

/-!
# The file service

`services/file_service.rs`, over the MySQL storage: the table of files, the data of
the files by their ids, and the cache in memory that is asked first. Where data is
stored depends on the configured file storage; it is read from the cache and from
the table of the database only. Uploads and deletions are made known to the other
devices of the account.

* `storeFileWithUpdateType_ok`: what a successful upload does.
-/

namespace CosmicSync

/-- The file storage of the service: the table `file_data`, which is also used if none
    is configured, or objects in S3. -/
inductive FileStorageKind where
  | database
  | s3
  deriving DecidableEq, Repr

/-- What the service works on. -/
structure Store where
  files : List FileRow
  /-- The table `file_data`. -/
  fileData : ℕ → Option ByteArray
  /-- The cache `files` of the service. -/
  cache : ℕ → Option ByteArray

/-- Who tells the other devices of an account: the notification manager, if there is
    one, and the table of the keys of the accounts. -/
structure Notifier where
  manager : Option NotificationManager
  encryptionKeys : String → Option String

/-- What a change of a file meets: the clock of the table, the nonces of path and name,
    whether the data can be written, and the time and the nonces of the notification. -/
structure StoreInputs where
  now : ℤ
  nonces : Nonce × Nonce
  fault : Option StorageError
  timestamp : ℤ
  transportNonces : String → Nonce × Nonce

/-- `send_file_update_notification_with_options`: what is sent to the devices of the
    account. -/
def Notifier.sendFileUpdateNotificationWithOptions (notifier : Notifier) (C : Crypto)
    (i : StoreInputs) (info : FileInfo) (updateType : UpdateType) (includeSourceDevice : Bool) :
    List (String × FileUpdateNotification) :=
  match notifier.manager with
  | some nm =>
    let notification : FileUpdateNotification :=
      ⟨info.accountHash, info.deviceHash, some info.toSyncFile, updateType, i.timestamp⟩
    let accountKey := notifier.encryptionKeys info.accountHash
    if includeSourceDevice then
      nm.broadcastFileUpdateIncludingSource C accountKey i.transportNonces notification
    else nm.broadcastFileUpdate C accountKey i.transportNonces notification
  | none => []

/-- `send_file_update_notification`: the source is left out. -/
def Notifier.sendFileUpdateNotification (notifier : Notifier) (C : Crypto) (i : StoreInputs)
    (info : FileInfo) (updateType : UpdateType) : List (String × FileUpdateNotification) :=
  notifier.sendFileUpdateNotificationWithOptions C i info updateType false

namespace Store

variable (st : Store)

/-- `get_file_data`: the id is bound as a signed number in the query. -/
def getFileData (fileId : ℕ) : Option ByteArray :=
  match st.cache fileId with
  | some data => some data
  | none => if fileId < 2 ^ 63 then st.fileData fileId else none

/-- Insertion into the cache. -/
def insertCache (fileId : ℕ) (data : ByteArray) : Store :=
  { st with cache := Function.update st.cache fileId (some data) }

/-- `store_file_data_internal`: writing may fail with `fault`. -/
def storeFileDataInternal (kind : FileStorageKind) (fault : Option StorageError) (fileId : ℕ)
    (data : ByteArray) : Except StorageError Store :=
  match fault, kind with
  | some e, _ => .error e
  | none, .database => .ok { st with fileData := Function.update st.fileData fileId (some data) }
  -- An object in S3 is not read back by `get_file_data`.
  | none, .s3 => .ok st

/-- `copy_file_data`. -/
def copyFileData (kind : FileStorageKind) (fault : Option StorageError)
    (sourceFileId targetFileId : ℕ) : Except StorageError Store :=
  match st.getFileData sourceFileId with
  | some data => do
    let st ← st.storeFileDataInternal kind fault targetFileId data
    return st.insertCache targetFileId data
  | none => .error (.notFound ("Source file data not found: " ++ toString sourceFileId))

/-- `store_file_with_update_type`: the notifications sent. If the data cannot be written,
    the table has been changed all the same. -/
def storeFileWithUpdateType (env : Env) (kind : FileStorageKind) (notifier : Notifier)
    (i : StoreInputs) (info : FileInfo) (data : ByteArray) (updateType : UpdateType) :
    Except StorageError (List (String × FileUpdateNotification)) × Store :=
  match storeFileInfo env i.now i.nonces info st.files with
  | .error e => (.error e, st)
  | .ok (_, files) =>
    let st := { st with files := files }
    match st.storeFileDataInternal kind i.fault info.fileId data with
    | .error e => (.error e, st)
    | .ok st =>
      (.ok (notifier.sendFileUpdateNotification env.crypto i info updateType),
        st.insertCache info.fileId data)

/-- `delete_file`: of the account of the row that is found. A file that is deleted
    already is left as it is. -/
def deleteFile (env : Env) (notifier : Notifier) (i : StoreInputs) (newFileId fileId : ℕ) :
    Except StorageError (List (String × FileUpdateNotification)) × Store :=
  match getFileInfoIncludeDeleted env st.files fileId with
  | some (_, true) => (.ok [], st)
  | some (info, false) =>
    match CosmicSync.deleteFile env i.now newFileId info.accountHash fileId st.files with
    | .error e => (.error e, st)
    | .ok (_, files) =>
      (.ok (notifier.sendFileUpdateNotification env.crypto i info .deleted),
        { st with files := files, cache := Function.update st.cache fileId none })
  | none => (.error (.notFound ("파일을 찾을 수 없음: " ++ toString fileId)), st)

/-- `find_file_by_local_path`. -/
def findFileByLocalPath (env : Env) (accountHash filePath filename : String) (revision : ℤ) :
    Option FileInfo :=
  findFileByPathAndName env st.files accountHash (normalizePathPreserveTilde filePath)
    filename revision

/-- The path that `find_file_by_criteria` asks the storage for: the name is appended,
    unless the path ends in it. -/
def searchPath (filePath fileName : String) : String :=
  let path := (normalizePathPreserveTilde filePath).toList
  if ("/" ++ fileName).toList <:+ path ∨ fileName.toList <:+ path then String.ofList path
  else if ['/'] <:+ path then String.ofList (path ++ fileName.toList)
  else if path ≠ [] then String.ofList (path ++ '/' :: fileName.toList)
  else fileName

/-- `find_file_by_criteria`. -/
def findFileByCriteria (env : Env) (accountHash : String) (groupId watcherId : ℤ)
    (filePath fileName : String) : Option FileInfo :=
  CosmicSync.findFileByCriteria env st.files accountHash groupId watcherId
    (searchPath filePath fileName) fileName

/-- `restore_file_version`: the data only, not the table of files. -/
def restoreFileVersion (kind : FileStorageKind) (fault : Option StorageError)
    (source target : FileInfo) : Except StorageError Store := do
  let st ← st.copyFileData kind fault source.fileId target.fileId
  return st.insertCache target.fileId ((st.getFileData target.fileId).getD .empty)

variable {st} {st' : Store} {kind : FileStorageKind} {fault : Option StorageError}

@[simp]
theorem files_insertCache (st : Store) {fileId : ℕ} {data : ByteArray} :
    (st.insertCache fileId data).files = st.files := rfl

theorem files_storeFileDataInternal {fileId : ℕ} {data : ByteArray}
    (h : st.storeFileDataInternal kind fault fileId data = .ok st') : st'.files = st.files := by
  unfold storeFileDataInternal at h
  split at h
  · cases h
  · cases h; rfl
  · cases h; rfl

theorem files_copyFileData {source target : ℕ}
    (h : st.copyFileData kind fault source target = .ok st') : st'.files = st.files := by
  unfold copyFileData at h
  split at h
  next data _ =>
    obtain ⟨st₁, hst, h⟩ := bind_eq_ok h
    cases h
    exact (files_insertCache st₁).trans (files_storeFileDataInternal hst)
  next => cases h

/-- A file is stored if the table takes it and its data can be written. -/
theorem storeFileWithUpdateType_ok {env : Env} {notifier : Notifier} {i : StoreInputs}
    {info : FileInfo} {data : ByteArray} {updateType : UpdateType}
    {sent : List (String × FileUpdateNotification)}
    (h : st.storeFileWithUpdateType env kind notifier i info data updateType = (.ok sent, st')) :
    ∃ id files, storeFileInfo env i.now i.nonces info st.files = .ok (id, files) ∧
      st'.files = files ∧ st'.cache info.fileId = some data ∧
      sent = notifier.sendFileUpdateNotification env.crypto i info updateType := by
  unfold storeFileWithUpdateType at h
  split at h
  next => cases h
  next id files hinfo =>
    simp only at h
    split at h
    next => cases h
    next st₁ hdata =>
      cases h
      have hfiles : st₁.files = files := files_storeFileDataInternal hdata
      exact ⟨id, files, hinfo, hfiles, Function.update_self .., rfl⟩

/-- A deletion leaves the table as it is, or is one of an account. -/
theorem files_deleteFile (st : Store) (env : Env) (notifier : Notifier) (i : StoreInputs)
    (newFileId fileId : ℕ) :
    (st.deleteFile env notifier i newFileId fileId).2.files = st.files ∨
      ∃ accountHash files,
        CosmicSync.deleteFile env i.now newFileId accountHash fileId st.files = .ok ((), files) ∧
        (st.deleteFile env notifier i newFileId fileId).2.files = files := by
  rw [deleteFile]
  split
  next => exact .inl rfl
  next info _ =>
    split
    next => exact .inl rfl
    next files hdelete => exact .inr ⟨info.accountHash, files, hdelete, rfl⟩
  next => exact .inl rfl

/-- Restoring data leaves the table of files as it is. -/
theorem files_restoreFileVersion {source target : FileInfo}
    (h : st.restoreFileVersion kind fault source target = .ok st') : st'.files = st.files := by
  unfold restoreFileVersion at h
  obtain ⟨st₁, hst, h⟩ := bind_eq_ok h
  cases h
  exact (files_insertCache st₁).trans (files_copyFileData hst)

end Store

end CosmicSync
