import CosmicSync.Handlers.FileHandler
import CosmicSync.Library.Interleaving
import CosmicSync.Services.VersionService

/-!
# Requests about files, statement by statement

An upload, a download, a deletion and a restoration each ask the storage several times, and the
cache of the file service in between. Each call of the storage is a statement here, or a
transaction, and so is each lock of the cache; what a handler does between two of them is a part
of the first. The statements of all requests interleave, with the passes of the retention task,
and with restarts, after which the cache is empty.

A statement may fail with the error that is its input. The notifications and the events that a
request sends play no part in what is stored, and are left out, as is `notified_devices`; so is
a restoration with an empty token, which is refused before its token is verified.

* `Pc`: where a request is; `exec`: its next statement.
* `system`: the requests as a system of interleaved statements.
-/

namespace CosmicSync

open Table Run

namespace FileRequests

/-! ## Requests -/

/-- A request with the result of `verify_token`, a pass of the retention task, or a restart. -/
inductive Request where
  | upload (draws : UploadInputs) (auth : Option VerificationResult) (req : UploadFileRequest)
  | download (auth : Option VerificationResult) (req : DownloadFileRequest)
  | delete (auth : Option VerificationResult) (req : DeleteFileRequest)
  | restore (auth : Option VerificationResult) (req : RestoreFileVersionRequest)
  | trimOldRevisions (maxRevisions : ℤ)
  | purgeDeletedFiles (ttlSecs : ℤ)
  | restart

/-- What a statement meets: the error it fails with, if it does, the clock, also as it is read
    for a restoration, and what is drawn: nonces, and the id of a tombstone. -/
structure Inputs where
  fault : Option StorageError
  now : ℤ
  uploadTime : Timestamp
  lastUpdated : Timestamp
  nonces : Nonce × Nonce
  newFileId : ℕ

/-- What a request is told. -/
inductive Answer where
  | upload (draws : UploadInputs) (req : UploadFileRequest) (response : UploadFileResponse)
  | download (req : DownloadFileRequest) (response : DownloadFileResponse)
  | delete (response : DeleteFileResponse)
  | restore (response : RestoreFileVersionResponse)
  /-- A pass of the retention task, or a restart. -/
  | done

/-- Who stores data: an upload, or a restoration, which has read it. -/
inductive Writer where
  | upload (draws : UploadInputs) (req : UploadFileRequest) (info : FileInfo)
  | restore (restored : SyncFile) (data : ByteArray)

/-- Who reads data: a download; a restoration, to copy it, and once more when it is copied. -/
inductive Reader where
  | download (req : DownloadFileRequest) (info : FileInfo) (accountKey : Option String)
  | copy (restored : SyncFile)
  | reread (restored : SyncFile)

/-- The next statement of a request. -/
inductive Pc where
  /-- The checks, and `ensure_server_ids_for`. -/
  | upload (draws : UploadInputs) (auth : Option VerificationResult) (req : UploadFileRequest)
  | storeFileInfo (draws : UploadInputs) (req : UploadFileRequest) (info : FileInfo)
  /-- `SELECT file_id FROM file_data`, or the object is put in S3. -/
  | storeFileData (w : Writer)
  /-- `UPDATE file_data` if there was a row, otherwise `INSERT`. -/
  | writeFileData (w : Writer) (rowExists : Bool)
  | insertCache (w : Writer)
  /-- `get_file_info`. -/
  | download (auth : Option VerificationResult) (req : DownloadFileRequest)
  /-- `get_encryption_key`. -/
  | accountKey (req : DownloadFileRequest) (info : FileInfo)
  | lookupCache (rd : Reader)
  /-- `SELECT data FROM file_data`. -/
  | selectFileData (rd : Reader)
  /-- `check_file_exists`, or `find_file_by_path_and_name`. -/
  | delete (auth : Option VerificationResult) (req : DeleteFileRequest)
  /-- `get_file_info_include_deleted`. -/
  | fileToDelete (fileId : ℕ)
  | deleteFile (accountHash : String) (fileId : ℕ)
  | removeCache (fileId : ℕ)
  /-- `get_file_by_revision`. -/
  | restore (auth : Option VerificationResult) (req : RestoreFileVersionRequest)
  /-- `get_file_history`. -/
  | fileHistory (req : RestoreFileVersionRequest) (target : SyncFile)
  | recache (restored : SyncFile) (data : ByteArray)
  /-- The key id of the version before, in `store_file`. -/
  | selectKeyId (restored : SyncFile)
  | insertVersion (restored : SyncFile) (keyId : Option String)
  | trimOldRevisions (maxRevisions : ℤ)
  | purgeDeletedFiles (ttlSecs : ℤ)
  | restart
  | answered (answer : Answer)

def Request.start : Request → Pc
  | .upload draws auth req => .upload draws auth req
  | .download auth req => .download auth req
  | .delete auth req => .delete auth req
  | .restore auth req => .restore auth req
  | .trimOldRevisions maxRevisions => .trimOldRevisions maxRevisions
  | .purgeDeletedFiles ttlSecs => .purgeDeletedFiles ttlSecs
  | .restart => .restart

/-! ## Answers -/

/-- A restoration that is refused, or fails. -/
def restoreError (message : String) : Pc := .answered (.restore ⟨false, message, 0, none, 0⟩)

/-- The text of an error of the version service, as its handler reports it. -/
def serviceError (what : String) (e : StorageError) : Pc :=
  restoreError ("Failed to restore file version: Storage error: " ++ what ++ e.display)

def downloadError (req : DownloadFileRequest) (message : String) : Pc :=
  .answered (.download req (fileDownloadError message))

def deleteAnswer (success : Bool) (message : String) : Pc := .answered (.delete ⟨success, message⟩)

/-- An upload whose file info or data cannot be stored. -/
def uploadFailed (draws : UploadInputs) (req : UploadFileRequest) (e : StorageError) : Pc :=
  .answered (.upload draws req (fileUploadError ("File storage failed: " ++ e.display)))

namespace Writer

/-- The file whose data is stored. -/
def fileId : Writer → ℕ
  | upload _ _ info => info.fileId
  | restore restored _ => restored.fileId

def data : Writer → ByteArray
  | upload _ req _ => req.fileData.1
  | restore _ data => data

/-- The data cannot be stored. -/
def failed (e : StorageError) : Writer → Pc
  | upload draws req _ => uploadFailed draws req e
  | restore _ _ => serviceError "Failed to restore file data: " e

/-- The data is stored, and cached: a restoration reads it again. -/
def cached : Writer → Pc
  | upload draws req info =>
    .answered (.upload draws req (fileUploadSuccess info.fileId (req.revision + 1)))
  | restore restored _ => .lookupCache (.reread restored)

end Writer

namespace Reader

def fileId : Reader → ℕ
  | download req _ _ => req.fileId
  | copy restored => restored.fileId
  | reread restored => restored.fileId

/-- The data cannot be read. -/
def failed (e : StorageError) : Reader → Pc
  | download req _ _ => downloadError req ("Failed to get file data: " ++ e.display)
  | copy _ | reread _ => serviceError "Failed to restore file data: " e

/-- What becomes of data that was read. -/
def read (env : Env) (nonces : Nonce × Nonce) (data : Option ByteArray) : Reader → Pc
  | download req info accountKey =>
    match data with
    | some data => .answered (.download req
        (downloadResponse env nonces req.deviceHash accountKey info data))
    | none => downloadError req "File data not found"
  | copy restored =>
    match data with
    | some data => .storeFileData (.restore restored data)
    | none => serviceError "Failed to restore file data: "
        (.notFound ("Source file data not found: " ++ toString restored.fileId))
  -- Data that has gone meanwhile is taken to be empty.
  | reread restored => .recache restored (data.getD .empty)

end Reader

/-! ## Statements -/

/-- The next statement of a request, on the state that the requests share. -/
def exec (env : Env) (kind : FileStorageKind) (s : AppState) (i : Inputs) : Pc → AppState × Pc
  | .upload draws auth req =>
    match prepareUpload env draws auth req s with
    | .error msg => (s, .answered (.upload draws req (fileUploadError msg)))
    | .ok (info, tables) => ({ s with watchers := tables }, .storeFileInfo draws req info)
  | .storeFileInfo draws req info =>
    match i.fault with
    | some e => (s, uploadFailed draws req e)
    | none =>
      match CosmicSync.storeFileInfo env i.now i.nonces info s.files with
      | .error e => (s, uploadFailed draws req e)
      | .ok (_, files) => ({ s with files := files }, .storeFileData (.upload draws req info))
  | .storeFileData w =>
    match i.fault, kind with
    | some e, _ => (s, w.failed e)
    | none, .database => (s, .writeFileData w (s.fileData w.fileId).isSome)
    -- The objects in S3 are not read by `get_file_data`.
    | none, .s3 => (s, .insertCache w)
  | .writeFileData w rowExists =>
    match i.fault with
    | some e => (s, w.failed e)
    | none =>
      -- An `UPDATE` changes the row that is there, an `INSERT` adds it.
      let row := if rowExists then (s.fileData w.fileId).map fun _ => w.data else some w.data
      ({ s with fileData := Function.update s.fileData w.fileId row }, .insertCache w)
  | .insertCache w =>
    ({ s with cache := Function.update s.cache w.fileId (some w.data) }, w.cached)
  | .download auth req =>
    match verifiedAccount auth, i.fault with
    | none, _ => (s, downloadError req "Authentication failed")
    | some _, some e => (s, downloadError req ("Failed to get file info: " ++ e.display))
    | some _, none =>
      match getFileInfo env s.files req.fileId with
      | none => (s, downloadError req "File not found")
      | some info => (s, .accountKey req info)
  | .accountKey req info =>
    match i.fault with
    -- Without the key, path and name are sent in plain text.
    | some _ => (s, .lookupCache (.download req info none))
    | none => (s, .lookupCache (.download req info (s.encryptionKeys info.accountHash)))
  | .lookupCache rd =>
    match s.cache rd.fileId with
    | some data => (s, rd.read env i.nonces (some data))
    | none => (s, .selectFileData rd)
  | .selectFileData rd =>
    match i.fault with
    | some e => (s, rd.failed e)
    | none =>
      -- The id is bound as a signed number.
      let data := if rd.fileId < 2 ^ 63 then s.fileData rd.fileId else none
      (s, rd.read env i.nonces data)
  | .delete auth req =>
    match verifiedAccount auth, i.fault with
    | none, _ => (s, deleteAnswer false "Authentication failed")
    | some _, some e =>
      let what := if 0 < req.fileId then
          "Failed to check file status: Failed to check file existence: "
        else "Failed to search file: "
      (s, deleteAnswer false (what ++ e.display))
    | some _, none =>
      match fileForDeletion env req s with
      | .error response => (s, .answered (.delete response))
      | .ok fileId => (s, .fileToDelete fileId)
  | .fileToDelete fileId =>
    match i.fault with
    | some e => (s, deleteAnswer false ("File deletion failed: " ++ e.display))
    | none =>
      match getFileInfoIncludeDeleted env s.files fileId with
      | some (_, true) => (s, deleteAnswer true "File deleted successfully")
      | some (info, false) => (s, .deleteFile info.accountHash fileId)
      | none => (s, deleteAnswer false ("File deletion failed: " ++
          (StorageError.notFound ("파일을 찾을 수 없음: " ++ toString fileId)).display))
  | .deleteFile accountHash fileId =>
    match i.fault with
    | some e => (s, deleteAnswer false ("File deletion failed: " ++ e.display))
    | none =>
      match CosmicSync.deleteFile env i.now i.newFileId accountHash fileId s.files with
      | .error e => (s, deleteAnswer false ("File deletion failed: " ++ e.display))
      | .ok (_, files) => ({ s with files := files }, .removeCache fileId)
  | .removeCache fileId =>
    ({ s with cache := Function.update s.cache fileId none },
      deleteAnswer true "File deleted successfully")
  | .restore auth req =>
    match auth with
    | none => (s, restoreError "Authentication failed")
    | some v =>
      if v.valid = false ∨ v.accountHash ≠ req.accountHash then
        (s, restoreError "Account authentication failed")
      else if req.accountHash = "" ∨ req.fileId = 0 then
        (s, restoreError "Account hash and file ID are required")
      else
        match i.fault with
        | some e => (s, serviceError "Failed to get file version: " e)
        | none =>
          match getFileByRevision env s.files req.accountHash req.fileId req.targetRevision with
          | .error e => (s, serviceError "Failed to get file version: " e)
          | .ok target => (s, .fileHistory req target)
  | .fileHistory req target =>
    match i.fault with
    | some e => (s, serviceError "Failed to get current file versions: " e)
    | none =>
      let history := getFileHistory env s.files req.accountHash target.filePath target.groupId
      -- The copy has the file id of its target, so that data is copied onto itself.
      (s, .lookupCache (.copy (restoredFile target (historyRevision history) req.deviceHash
        i.uploadTime i.lastUpdated)))
  | .recache restored data =>
    ({ s with cache := Function.update s.cache restored.fileId (some data) },
      .selectKeyId restored)
  | .selectKeyId restored =>
    match i.fault with
    | some e => (s, serviceError "Failed to store restored file version: " e)
    | none => (s, .insertVersion restored ((fetchFirstBy env.planner (fun r =>
        r.accountHash = restored.userId ∧ r.fileId = restored.fileId) s.files
          byUpdatedTime).bind FileRow.keyId))
  | .insertVersion restored keyId =>
    match i.fault with
    | some e => (s, serviceError "Failed to store restored file version: " e)
    | none =>
      ({ s with files := s.files ++ [versionRow restored keyId] },
        .answered (.restore ⟨true, "File restored to revision " ++ toString restored.revision,
          restored.revision, some restored.toSyncFileInfo, 0⟩))
  | .trimOldRevisions maxRevisions =>
    match i.fault with
    | some _ => (s, .answered .done)
    | none =>
      ({ s with files := CosmicSync.trimOldRevisions maxRevisions s.files }, .answered .done)
  | .purgeDeletedFiles ttlSecs =>
    match i.fault with
    | some _ => (s, .answered .done)
    | none =>
      ({ s with files := purgeDeletedFilesOlderThan i.now ttlSecs s.files }, .answered .done)
  | .restart => ({ s with cache := fun _ => none }, .answered .done)
  | .answered answer => (s, .answered answer)

/-- The requests, and the statements that they execute. -/
def system (env : Env) (kind : FileStorageKind) :
    Interleaving.System AppState Pc Request Inputs :=
  ⟨Request.start, exec env kind⟩

/-- An event: a request comes, or one of the requests goes on. -/
abbrev Op := Interleaving.Op Request Inputs

end FileRequests

end CosmicSync
