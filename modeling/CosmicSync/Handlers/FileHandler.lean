import CosmicSync.Services.FileService
import CosmicSync.Storage.MySqlWatcher

/-!
# The file handlers

`handlers/file_handler.rs` and `handlers/file/*.rs`: the requests by which a client
uploads, downloads, lists, finds, checks and deletes files, each with its checks, its
conversions between the ids of the client and those of the server, and its answers.

The result of `verify_token` is an argument of every handler: it names the account of
the token. An upload goes by this account; the other handlers only ask whether the
token is valid.

* `prepareUpload`: an upload up to the file info that is stored.
* `handleUploadFile_success`: what an accepted upload has done.
* `handleUploadFile_success_iff`: which uploads are accepted.
-/

namespace CosmicSync

open Table

/-! ## What the handlers work on -/

/-- The state of the server, as the file handlers see it. -/
structure AppState extends Store where
  watchers : WatcherTables
  encryptionKeys : String → Option String
  manager : Option NotificationManager

def AppState.notifier (s : AppState) : Notifier := ⟨s.manager, s.encryptionKeys⟩

/-- `VerificationResult`. -/
structure VerificationResult where
  valid : Bool
  accountHash : String
  deriving DecidableEq, Repr

/-- The account of a valid token; `none` stands for an error of `verify_token`. -/
def verifiedAccount (auth : Option VerificationResult) : Option String :=
  match auth with
  | some v => if v.valid then some v.accountHash else none
  | none => none

/-- A message on the event bus. Its JSON payload is written out; a field that the
    message lacks is `none`. -/
structure Event where
  routingKey : String
  type : String
  id : String
  accountHash : String
  deviceHash : String
  groupId : Option ℤ
  watcherId : Option ℤ
  filePath : String
  filename : String
  fileId : ℕ
  fileSize : Option ℕ
  revision : Int64
  timestamp : ℤ

/-- What is drawn for the two events of a request: their ids and times. -/
structure EventInputs where
  id : String
  timestamp : ℤ
  versionId : String
  versionTimestamp : ℤ

/-! ## Uploads -/

/-- A `Vec<u8>`: its length fits an `isize`. -/
abbrev Bytes := { b : ByteArray // b.size < 2 ^ 63 }

/-- `UploadFileRequest`, without its `updated_time`, which plays no part, and the token. -/
structure UploadFileRequest where
  accountHash : String
  deviceHash : String
  filename : String
  filePath : String
  fileData : Bytes
  fileHash : String
  groupId : ℤ
  watcherId : ℤ
  isEncrypted : Bool
  revision : Int64
  fileSize : ℕ
  keyId : String

structure UploadFileResponse where
  success : Bool
  fileId : ℕ
  newRevision : Int64
  returnMessage : String
  deriving DecidableEq

/-- `file_upload_error`. -/
def fileUploadError (message : String) : UploadFileResponse := ⟨false, 0, 0, message⟩

/-- `file_upload_success`. -/
def fileUploadSuccess (fileId : ℕ) (newRevision : Int64) : UploadFileResponse :=
  ⟨true, fileId, newRevision, "OK"⟩

/-- What comes of an upload: the answer, the events, and the notifications with the
    keys of their recipients. -/
structure UploadResult where
  response : UploadFileResponse
  events : List Event
  sent : List (String × FileUpdateNotification)

/-- `trim().is_empty()`. -/
def isBlank (s : String) : Bool := trim s.toList = []

/-- `validate_upload_input`. -/
def validateUploadInput (req : UploadFileRequest) : Except String Unit :=
  if req.accountHash = "" ∨ req.deviceHash = "" ∨ req.fileHash = "" then
    .error "Missing required fields: account_hash/device_hash/file_hash"
  else if req.groupId ≤ 0 ∨ req.watcherId ≤ 0 then .error "Invalid group_id/watcher_id"
  else if isBlank req.filename ∨ isBlank req.filePath then
    .error "filename/file_path must not be empty"
  else if req.isEncrypted ∧ isBlank req.keyId then
    .error "key_id is required when is_encrypted is true"
  else if ¬req.isEncrypted ∧ ¬isBlank req.keyId then
    .error "key_id must be empty when is_encrypted is false"
  else .ok ()

/-- `normalize_file_path`. -/
def normalizeFilePath (filePath : String) : Except String String :=
  let normalized := if filePath = "" then "~/" else normalizePathPreserveTilde filePath
  if 1024 < normalized.utf8ByteSize then .error "File path too long" else .ok normalized

/-- `build_file_info_for_upload`, of the account of the token. -/
def buildFileInfoForUpload (req : UploadFileRequest) (accountHash : String) (fileId : ℕ)
    (normalizedFilePath : String) (serverGroupId serverWatcherId now : ℤ) : FileInfo where
  fileId := fileId
  filename := req.filename
  fileHash := req.fileHash
  deviceHash := req.deviceHash
  groupId := serverGroupId
  watcherId := serverWatcherId
  isEncrypted := req.isEncrypted
  filePath := normalizedFilePath
  updatedTime := ⟨now, 0⟩
  revision := req.revision.toInt
  accountHash := accountHash
  size := req.fileSize
  keyId := if req.keyId = "" then none else some req.keyId

/-- What an upload meets: the value its file id is made of, what the conversion of the
    ids and the storage meet, the clock, and what is drawn for the events. -/
structure UploadInputs where
  fileIdValue : UInt64
  ids : WatcherTables.EnsureInputs
  now : ℤ
  store : StoreInputs
  events : EventInputs

/-- The steps of an upload before it is stored: the checks, and the file info with the
    ids of the server. The check of the path against the folder of the watcher is
    logged only. -/
def prepareUpload (env : Env) (i : UploadInputs) (auth : Option VerificationResult)
    (req : UploadFileRequest) (s : AppState) : Except String (FileInfo × WatcherTables) :=
  if req.fileData.1.size ≠ req.fileSize then .error "File data size mismatch"
  else
    match verifiedAccount auth with
    | none => .error "Authentication failed"
    | some accountHash => do
      validateUploadInput req
      let path ← normalizeFilePath req.filePath
      match s.watchers.ensureServerIdsFor env.planner i.ids accountHash req.deviceHash req.groupId
        req.watcherId (some path) with
      | .error e => .error ("Failed to ensure server IDs: " ++ e.display)
      | .ok ((groupId, watcherId), tables) =>
        .ok (buildFileInfoForUpload req accountHash
          (Crypto.generateFileId i.fileIdValue) path groupId
          watcherId i.now, tables)

/-- The events of an upload: both have the revision after the client's. -/
def uploadEvents (i : EventInputs) (req : UploadFileRequest) (info : FileInfo) : List Event :=
  let uploaded : Event :=
    { routingKey := "file.uploaded." ++ info.accountHash ++ "." ++ toString info.groupId ++ "." ++
        toString info.watcherId
      type := "file_uploaded"
      id := i.id
      accountHash := info.accountHash
      deviceHash := req.deviceHash
      groupId := some info.groupId
      watcherId := some info.watcherId
      filePath := "***"
      filename := "***"
      fileId := info.fileId
      fileSize := some req.fileSize
      revision := req.revision + 1
      timestamp := i.timestamp }
  let created : Event :=
    { uploaded with
      routingKey := "version.created." ++ info.accountHash ++ "." ++ toString info.fileId
      type := "version_created"
      id := i.versionId
      fileSize := none
      timestamp := i.versionTimestamp }
  [uploaded, created]

/-- `handle_upload_file`. -/
def handleUploadFile (env : Env) (kind : FileStorageKind) (i : UploadInputs)
    (auth : Option VerificationResult) (req : UploadFileRequest) (s : AppState) :
    UploadResult × AppState :=
  match prepareUpload env i auth req s with
  | .error msg => (⟨fileUploadError msg, [], []⟩, s)
  | .ok (info, tables) =>
    match s.toStore.storeFileWithUpdateType env kind s.notifier i.store info req.fileData.1
        .uploaded with
    | (.error e, st) =>
      -- The ids were ensured in a transaction of their own, and stay.
      (⟨fileUploadError ("File storage failed: " ++ e.display), [], []⟩,
        { s with toStore := st, watchers := tables })
    | (.ok sent, st) =>
      (⟨fileUploadSuccess info.fileId (req.revision + 1), uploadEvents i.events req info, sent⟩,
        { s with toStore := st, watchers := tables })

/-! ## Downloads -/

structure DownloadFileRequest where
  accountHash : String
  deviceHash : String
  groupId : ℤ
  watcherId : ℤ
  fileId : ℕ
  revision : Int64

structure DownloadFileResponse where
  success : Bool
  fileData : ByteArray
  fileHash : String
  isEncrypted : Bool
  returnMessage : String
  filename : String
  filePath : String
  updatedTime : Option Timestamp
  fileSize : ℕ
  keyId : String
  deriving DecidableEq

/-- `file_download_error`. -/
def fileDownloadError (message : String) : DownloadFileResponse :=
  ⟨false, .empty, "", false, message, "", "", none, 0, ""⟩

/-- The answer of `handle_download_file` to a file that is found. Path and name are
    encrypted under the key of the account of the file. -/
def downloadResponse (env : Env) (nonces : Nonce × Nonce) (deviceHash : String)
    (accountKey : Option String) (info : FileInfo) (data : ByteArray) : DownloadFileResponse :=
  let key :=
    if env.config.transportEncryptMetadata then accountKey.bind
      env.crypto.parseAccountKeyHex else none
  let aad := info.accountHash ++ ":" ++ deviceHash
  { success := true
    fileData := data
    fileHash := info.fileHash
    isEncrypted := info.isEncrypted
    returnMessage := ""
    filename := env.crypto.transportText key nonces.2 aad info.filename
    filePath := env.crypto.transportText key nonces.1 aad info.filePath
    updatedTime := some ⟨info.updatedTime.seconds, 0⟩
    fileSize := info.size
    keyId := info.keyId.getD "" }

/-- `handle_download_file`: whoever the account of the file. -/
def handleDownloadFile (env : Env) (nonces : Nonce × Nonce) (auth : Option VerificationResult)
    (req : DownloadFileRequest) (s : AppState) : DownloadFileResponse :=
  match verifiedAccount auth with
  | none => fileDownloadError "Authentication failed"
  | some _ =>
    match getFileInfo env s.files req.fileId with
    | none => fileDownloadError "File not found"
    | some info =>
      match s.getFileData req.fileId with
      | none => fileDownloadError "File data not found"
      | some data =>
        downloadResponse env nonces req.deviceHash (s.encryptionKeys info.accountHash) info data

/-! ## Listings -/

structure ListFilesRequest where
  accountHash : String
  deviceHash : String
  groupId : ℤ
  uploadTimeFrom : Option Timestamp

structure ListFilesResponse where
  success : Bool
  files : List SyncFileInfo
  returnMessage : String
  deriving DecidableEq

/-- What a listing meets: the clock, as often as it is asked, and the nonces of the files. -/
structure ListInputs where
  now : ℕ → DateTime
  nonces : ℕ → Nonce × Nonce

/-- The file was changed after the time that is asked for. -/
def changedSince (now : DateTime) : Option DateTime → FileInfo → Prop
  | some filterTime, file =>
    ¬((⟨file.updatedTime.seconds, 0⟩ : Timestamp).toDatetime now).le filterTime
  | none, _ => True

instance (now : DateTime) :
    (filterTime : Option DateTime) → (file : FileInfo) →
      Decidable (changedSince now filterTime file)
  | some _, _ => inferInstanceAs (Decidable (¬_))
  | none, _ => isTrue trivial

/-- A file as it is listed, with the ids of the client. -/
def listedFile (env : Env) (nonces : Nonce × Nonce) (key : Option Key32) (req : ListFilesRequest)
    (clientWatcherId : Option (ℤ × ℤ)) (file : FileInfo) : SyncFileInfo :=
  let aad := req.accountHash ++ ":" ++ req.deviceHash
  { fileId := file.fileId
    filename := env.crypto.transportText key nonces.2 aad file.filename
    fileHash := file.fileHash
    deviceHash := file.deviceHash
    groupId := req.groupId
    watcherId := (clientWatcherId.map Prod.snd).getD file.watcherId
    isEncrypted := file.isEncrypted
    filePath := env.crypto.transportText key nonces.1 aad file.filePath
    updatedTime := some ⟨file.updatedTime.seconds, 0⟩
    revision := file.revision
    fileSize := file.size }

/-- `handle_list_files`: of the account that the request names. -/
def handleListFiles (env : Env) (i : ListInputs) (auth : Option VerificationResult)
    (req : ListFilesRequest) (s : AppState) : ListFilesResponse :=
  match verifiedAccount auth with
  | none => ⟨false, [], "Authentication failed"⟩
  | some _ =>
    match s.watchers.getServerGroupId env.planner req.accountHash req.groupId with
    | none => ⟨true, [], "No files found"⟩
    | some serverGroupId =>
      let filterTime := req.uploadTimeFrom.map (Timestamp.toDatetime (i.now 0))
      let key :=
        if env.config.transportEncryptMetadata then
          (s.encryptionKeys req.accountHash).bind env.crypto.parseAccountKey
        else none
      -- The time is not passed on to the storage, but compared below.
      let files := listFilesExceptDevice env s.files req.accountHash serverGroupId
        req.deviceHash none
      let listed := files.zipIdx.filterMap fun (file, n) =>
        if changedSince (i.now (n + 1)) filterTime file then
          some (listedFile env (i.nonces n) key req
            (s.watchers.getClientWatcherId env.planner req.accountHash serverGroupId file.watcherId)
              file)
        else none
      ⟨true, listed, ""⟩

/-! ## Searches -/

structure FindFileRequest where
  accountHash : String
  deviceHash : String
  groupId : ℤ
  watcherId : ℤ
  filePath : String
  fileName : String

structure FindFileResponse where
  success : Bool
  returnMessage : String
  fileId : ℕ
  revision : ℤ
  fileInfo : Option SyncFileInfo
  deriving DecidableEq

def findFileError (message : String) : FindFileResponse := ⟨false, message, 0, 0, none⟩

/-- A file as it is found, with the ids of the request. -/
def foundFile (req : FindFileRequest) (info : FileInfo) : FindFileResponse :=
  ⟨true, "File found", info.fileId, info.revision, some { info.toSyncFile with
    groupId := req.groupId
    watcherId := req.watcherId
    updatedTime := some ⟨info.updatedTime.seconds, 0⟩ }⟩

/-- The ids of the server that a search goes by: without ids of the client, zero. -/
def searchIds (env : Env) (req : FindFileRequest) (s : AppState) : Option (ℤ × ℤ) :=
  if 0 < req.groupId ∧ 0 < req.watcherId then
    s.watchers.getServerIds env.planner req.accountHash req.groupId req.watcherId
  else some (0, 0)

/-- `handle_find_file_by_criteria`: of the account that the request names. -/
def handleFindFileByCriteria (env : Env) (auth : Option VerificationResult) (req : FindFileRequest)
    (s : AppState) : FindFileResponse :=
  match verifiedAccount auth with
  | none => findFileError "Authentication failed"
  | some _ =>
    match searchIds env req s with
    | none => findFileError "Group or watcher not found"
    | some (groupId, watcherId) =>
      match s.toStore.findFileByCriteria env req.accountHash groupId watcherId
        (normalizePathPreserveTilde req.filePath) req.fileName with
      | some info => foundFile req info
      | none => findFileError "File not found"

/-! ## Checks -/

structure CheckFileExistsRequest where
  accountHash : String
  deviceHash : String
  fileId : ℕ

structure CheckFileExistsResponse where
  success : Bool
  exists_ : Bool
  isDeleted : Bool
  returnMessage : String
  deriving DecidableEq

/-- `handle_check_file_exists`: whoever the account of the file. -/
def handleCheckFileExists (env : Env) (auth : Option VerificationResult)
    (req : CheckFileExistsRequest) (s : AppState) : CheckFileExistsResponse :=
  match verifiedAccount auth with
  | none => ⟨false, false, false, "Authentication failed"⟩
  | some _ =>
    match checkFileExists env s.files req.fileId with
    | (true, true) => ⟨true, true, true, "File exists but is deleted"⟩
    | (true, false) => ⟨true, true, false, "File exists and is active"⟩
    | (false, isDeleted) => ⟨true, false, isDeleted, "File does not exist"⟩

/-! ## Deletions -/

structure DeleteFileRequest where
  accountHash : String
  deviceHash : String
  filename : String
  filePath : String
  fileId : ℕ
  groupId : ℤ
  watcherId : ℤ
  revision : Int64

structure DeleteFileResponse where
  success : Bool
  returnMessage : String
  deriving DecidableEq

/-- What a deletion meets: what the storage meets, the id of the tombstone, and what is
    drawn for the events. -/
structure DeleteInputs where
  store : StoreInputs
  newFileId : ℕ
  events : EventInputs

/-- `validate_file_for_deletion`. -/
def validateFileForDeletion (env : Env) (fileId : ℕ) (s : AppState) : Except DeleteFileResponse ℕ :=
  match checkFileExists env s.files fileId with
  | (false, _) => .error ⟨false, "File not found"⟩
  | (true, true) => .error ⟨true, "File already deleted"⟩
  | (true, false) => .ok fileId

/-- `find_file_by_path`: the path is normalised here, and again by the service. -/
def findFileByPath (env : Env) (req : DeleteFileRequest) (s : AppState) :
    Except DeleteFileResponse ℕ :=
  match s.toStore.findFileByLocalPath env req.accountHash (normalizePathPreserveTilde req.filePath)
    req.filename req.revision.toInt with
  | some info => .ok info.fileId
  | none => .error ⟨false, "File not found: " ++ req.filename⟩

/-- The file that a deletion is about: by its id, or else by its path. -/
def fileForDeletion (env : Env) (req : DeleteFileRequest) (s : AppState) :
    Except DeleteFileResponse ℕ :=
  if 0 < req.fileId then validateFileForDeletion env req.fileId s else findFileByPath env req s

/-- The events of a deletion: they go to the account that the request names. -/
def deleteEvents (i : EventInputs) (req : DeleteFileRequest) (fileId : ℕ) : List Event :=
  let deleted : Event :=
    { routingKey := "file.deleted." ++ req.accountHash
      type := "file_deleted"
      id := i.id
      accountHash := req.accountHash
      deviceHash := req.deviceHash
      groupId := none
      watcherId := none
      filePath := req.filePath
      filename := req.filename
      fileId := fileId
      fileSize := none
      revision := req.revision + 1
      timestamp := i.timestamp }
  let version : Event :=
    { deleted with
      routingKey := "version.deleted." ++ req.accountHash ++ "." ++ toString fileId
      type := "version_deleted"
      id := i.versionId
      timestamp := i.versionTimestamp }
  [deleted, version]

/-- What comes of a deletion. -/
structure DeleteResult where
  response : DeleteFileResponse
  events : List Event
  sent : List (String × FileUpdateNotification)

/-- `handle_delete_file`. -/
def handleDeleteFile (env : Env) (i : DeleteInputs) (auth : Option VerificationResult)
    (req : DeleteFileRequest) (s : AppState) : DeleteResult × AppState :=
  match verifiedAccount auth with
  | none => (⟨⟨false, "Authentication failed"⟩, [], []⟩, s)
  | some _ =>
    match fileForDeletion env req s with
    | .error response => (⟨response, [], []⟩, s)
    | .ok fileId =>
      match s.toStore.deleteFile env s.notifier i.store i.newFileId fileId with
      | (.error e, st) =>
        (⟨⟨false, "File deletion failed: " ++ e.display⟩, [], []⟩, { s with toStore := st })
      | (.ok sent, st) =>
        (⟨⟨true, "File deleted successfully"⟩, deleteEvents i.events req fileId, sent⟩,
          { s with toStore := st })

/-! ## What uploads and downloads do -/

section

variable {env : Env} {kind : FileStorageKind} {i : UploadInputs} {auth : Option VerificationResult}
  {req : UploadFileRequest} {s s' : AppState} {result : UploadResult} {info : FileInfo}
  {tables : WatcherTables}

/-- A path that is not blank is normalised. -/
theorem normalizeFilePath_ok {path : String} (hblank : ¬isBlank req.filePath)
    (h : normalizeFilePath req.filePath = .ok path) :
      path = normalizePathPreserveTilde req.filePath := by
  have hne : req.filePath ≠ "" := by
    intro heq
    rw [heq] at hblank
    exact hblank (by decide)
  unfold normalizeFilePath at h
  simp only [if_neg hne] at h
  split at h
  next => cases h
  next =>
    cases h
    rfl

theorem not_isBlank_of_validate (h : validateUploadInput req = .ok ()) : ¬isBlank req.filePath := by
  intro hblank
  unfold validateUploadInput at h
  split at h
  next => cases h
  next =>
    split at h
    next => cases h
    next => simp [hblank] at h

/-- An upload that is prepared has passed the checks: what is to be stored is a matter of
    the request, the account of its token, and the ids of the server. -/
theorem prepareUpload_ok (h : prepareUpload env i auth req s = .ok (info, tables)) :
    req.fileData.1.size = req.fileSize ∧ ∃ accountHash watcherId,
      verifiedAccount auth = some accountHash ∧
      info = buildFileInfoForUpload req accountHash (Crypto.generateFileId i.fileIdValue)
        (normalizePathPreserveTilde req.filePath)
        (s.watchers.ensuredGroupId env.planner i.ids accountHash req.groupId) watcherId i.now := by
  unfold prepareUpload at h
  split at h
  next => cases h
  next hsize =>
    split at h
    next => cases h
    next accountHash hauth =>
      obtain ⟨⟨⟩, hvalid, h⟩ := bind_eq_ok h
      obtain ⟨path, hpath, h⟩ := bind_eq_ok h
      split at h
      next => cases h
      next groupId watcherId tables' hids =>
        cases h
        rw [normalizeFilePath_ok (not_isBlank_of_validate hvalid) hpath,
          WatcherTables.ensureServerIdsFor_ok hids]
        exact ⟨not_not.1 hsize, accountHash, watcherId, hauth, rfl⟩

/-- The table takes whatever is prepared: an id that was generated fits its column. -/
theorem exists_storeFileInfo_of_prepareUpload
    (h : prepareUpload env i auth req s = .ok (info, tables))
    (now : ℤ) (nonces : Nonce × Nonce) (t : List FileRow) :
    ∃ t', storeFileInfo env now nonces info t = .ok (info.fileId, t') := by
  obtain ⟨-, accountHash, watcherId, -, rfl⟩ := prepareUpload_ok h
  by_cases hactive : ∃ r ∈ t, r.fileId = Crypto.generateFileId i.fileIdValue ∧ r.isDeleted = false
  · exact ⟨_, storeFileInfo_of_active hactive⟩
  · have hnot : ∀ r ∈ t, ¬(r.fileId = Crypto.generateFileId i.fileIdValue ∧ r.isDeleted = false) :=
      fun r hr hp => hactive ⟨r, hr, hp⟩
    exact ⟨_, (storeFileInfo_of_not_active hnot).trans (if_pos (Crypto.generateFileId_lt _))⟩

/-- What an accepted upload has done: the table has taken its file info, the data is in
    the cache, and the revision after the client's is reported. -/
theorem handleUploadFile_success
    (h : handleUploadFile env kind i auth req s = (result, s'))
    (hok : result.response.success = true) :
    ∃ info tables id, prepareUpload env i auth req s = .ok (info, tables) ∧
      storeFileInfo env i.store.now i.store.nonces info s.files = .ok (id, s'.files) ∧
      s'.cache info.fileId = some req.fileData.1 ∧
      result = ⟨fileUploadSuccess info.fileId (req.revision + 1), uploadEvents i.events req info,
        s.notifier.sendFileUpdateNotification env.crypto i.store info .uploaded⟩ := by
  unfold handleUploadFile at h
  split at h
  next =>
    cases h
    cases hok
  next info tables hprepare =>
    split at h
    next =>
      cases h
      cases hok
    next sent st hstore =>
      cases h
      obtain ⟨id, files, hinfo, rfl, hcache, rfl⟩ := Store.storeFileWithUpdateType_ok hstore
      exact ⟨info, tables, id, hprepare, hinfo, hcache, rfl⟩

/-- An upload is accepted if and only if it passes the checks and its data can be
    written. -/
theorem handleUploadFile_success_iff :
    (handleUploadFile env kind i auth req s).1.response.success = true ↔
      i.store.fault = none ∧ ∃ info tables, prepareUpload env i auth req s =
        .ok (info, tables) := by
  unfold handleUploadFile
  rcases hprepare : prepareUpload env i auth req s with msg | ⟨info, tables⟩
  · simp [fileUploadError]
  · obtain ⟨files, hstore⟩ :=
      exists_storeFileInfo_of_prepareUpload hprepare i.store.now i.store.nonces
      s.files
    rcases hfault : i.store.fault with _ | e
    · rcases kind with _ | _
      · simp [Store.storeFileWithUpdateType, hstore, Store.storeFileDataInternal, hfault,
          fileUploadSuccess]
      · simp [Store.storeFileWithUpdateType, hstore, Store.storeFileDataInternal, hfault,
          fileUploadSuccess]
    · simp [Store.storeFileWithUpdateType, hstore, Store.storeFileDataInternal, hfault,
        fileUploadError]

end

/-! ## Samples -/

def sampleUploadInputs : UploadInputs where
  fileIdValue := 7
  ids := ⟨10, 1, 1, none, none⟩
  now := 10
  store := ⟨10, (Crypto.nonceSample 1, Crypto.nonceSample 2), none, 10,
    fun _ => (Crypto.nonceSample 3, Crypto.nonceSample 4)⟩
  events := ⟨"e1", 10, "e2", 10⟩

/-- An upload of one byte, with a key id if it is encrypted. -/
def sampleUploadRequest (isEncrypted : Bool) (revision : Int64) : UploadFileRequest where
  accountHash := "alice"
  deviceHash := "d"
  filename := "a.txt"
  filePath := "/home/alice/a.txt"
  fileData := ⟨⟨#[42]⟩, by decide⟩
  fileHash := "h"
  groupId := 1
  watcherId := 1
  isEncrypted := isEncrypted
  revision := revision
  fileSize := 1
  keyId := if isEncrypted then "k" else ""

def AppState.empty : AppState where
  files := []
  fileData _ := none
  cache _ := none
  watchers := ⟨[], []⟩
  encryptionKeys _ := none
  manager := none

def sampleAuth : Option VerificationResult := some ⟨true, "alice"⟩

end CosmicSync
