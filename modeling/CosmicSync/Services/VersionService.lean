import CosmicSync.Services.FileService
import CosmicSync.Storage.Retention

/-!
# Restoring a version

`restore_file_version` of `services/version_service.rs` copies an old version of a
file to a new row, with the next revision of its path. The row should then be the
live version of the file. But it is inserted by another statement than an upload's:
the rows that were active stay so, and the new row has no index of its path, by
which `get_file_info_by_path` would find it.

* `restoreFileVersion_ok`: what a restoration that succeeds inserts.
* `not_supersedes_restore`: whatever the table, the restored row does not supersede
  the live one.
-/

namespace CosmicSync

open Table

/-! ## The service -/

/-- The fields of a `RestoreFileVersionRequest` that the service reads. -/
structure RestoreFileVersionRequest where
  accountHash : String
  deviceHash : String
  fileId : ℕ
  targetRevision : ℤ
  broadcastToAllDevices : Bool

/-- `RestoreFileVersionResponse`. -/
structure RestoreFileVersionResponse where
  success : Bool
  returnMessage : String
  newRevision : ℤ
  restoredFileInfo : Option SyncFileInfo
  notifiedDevices : ℕ

/-- `AppError`, the error the service returns. -/
inductive AppError where
  | storage (msg : String)

/-- `n as u64`, for a signed `n`. -/
def asU64 (n : ℤ) : ℕ := (n % 2 ^ 64).toNat

/-- `sync_file_to_file_info`. -/
def SyncFile.toSyncFileInfo (file : SyncFile) : SyncFileInfo where
  fileId := file.fileId
  filename := file.filename
  fileHash := file.fileHash
  updatedTime := some file.lastUpdated
  deviceHash := file.deviceHash
  groupId := file.groupId
  watcherId := file.watcherId
  isEncrypted := file.isEncrypted
  filePath := file.filePath
  revision := file.revision
  fileSize := asU64 file.fileSize

/-- `sync_file_to_file_info_model`. -/
def SyncFile.toFileInfoModel (file : SyncFile) : FileInfo where
  fileId := file.fileId
  filename := file.filename
  fileHash := file.fileHash
  filePath := file.filePath
  size := asU64 file.fileSize
  updatedTime := file.lastUpdated
  accountHash := file.userId
  deviceHash := file.deviceHash
  groupId := file.groupId
  watcherId := file.watcherId
  revision := file.revision
  isEncrypted := file.isEncrypted
  keyId := none

/-- `broadcast_file_restore`: the devices that are counted as notified, all of the
    account's but the source. An error is logged only. -/
def broadcastFileRestore (devices : Except StorageError (List String)) (sourceDeviceHash : String) :
    ℕ :=
  match devices with
  | .ok hashes => (hashes.filter (· ≠ sourceDeviceHash)).length
  | .error _ => 0

/-- The next revision, after those of a history. -/
def historyRevision (files : List SyncFile) : ℤ := ((files.map SyncFile.revision).max?).getD 0 + 1

/-- The version that is stored: a copy of the target. -/
def restoredFile (target : SyncFile) (newRevision : ℤ) (deviceHash : String)
    (uploadTime lastUpdated : Timestamp) : SyncFile :=
  { target with
    revision := newRevision
    deviceHash := deviceHash
    uploadTime := uploadTime
    lastUpdated := lastUpdated
    isDeleted := false }

/-- What a restoration meets: the clock, whether its data can be written, and the
    devices of the account. -/
structure RestoreInputs where
  uploadTime : Timestamp
  lastUpdated : Timestamp
  fault : Option StorageError
  devices : Except StorageError (List String)

/-- `restore_file_version`. The notification that it sends is not part of the
    result. -/
def restoreFileVersion (env : Env) (kind : FileStorageKind) (inputs : RestoreInputs)
    (request : RestoreFileVersionRequest) (st : Store) :
    Except AppError (RestoreFileVersionResponse × Store) :=
  if request.accountHash = "" ∨ request.fileId = 0 then
    .ok (⟨false, "Account hash and file ID are required", 0, none, 0⟩, st)
  else
    match getFileByRevision env st.files request.accountHash request.fileId
        request.targetRevision with
    | .error e => .error (.storage ("Failed to get file version: " ++ e.display))
    | .ok target =>
      let history := getFileHistory env st.files request.accountHash target.filePath target.groupId
      let newRevision := historyRevision history
      let restored := restoredFile target newRevision request.deviceHash inputs.uploadTime
        inputs.lastUpdated
      -- The copy has the file id of its target, so that data is copied onto itself.
      match st.restoreFileVersion kind inputs.fault target.toFileInfoModel
          restored.toFileInfoModel with
      | .error e => .error (.storage ("Failed to restore file data: " ++ e.display))
      | .ok st =>
        let notified :=
          if request.broadcastToAllDevices then broadcastFileRestore inputs.devices
            request.deviceHash
          else 0
        .ok (⟨true, "File restored to revision " ++ toString newRevision, newRevision,
          some restored.toSyncFileInfo, notified⟩,
            { st with files := storeFile env restored st.files })

/-! ## What a restoration inserts -/

section

variable {env : Env} {kind : FileStorageKind} {inputs : RestoreInputs}
  {request : RestoreFileVersionRequest} {st st' : Store} {response : RestoreFileVersionResponse}

/-- The revision after a history is greater than all of it. -/
theorem lt_historyRevision (env : Env) {t : List FileRow} {accountHash filePath : String}
    {groupId : ℤ} {r : FileRow} (hr : r ∈ t) (hacc : r.accountHash = accountHash)
    (hpath : r.filePath = filePath.toByteArray) (hgroup : r.groupId = groupId) :
    r.revision < historyRevision (getFileHistory env t accountHash filePath groupId) := by
  have hmem : r.revision ∈
      (getFileHistory env t accountHash filePath groupId).map SyncFile.revision := by
    rw [getFileHistory, List.map_map]
    exact List.mem_map.2 ⟨r, mem_fetchAllBy.2 ⟨hr, hacc, hpath, hgroup⟩, rfl⟩
  rw [historyRevision]
  rcases hmax : ((getFileHistory env t accountHash filePath groupId).map SyncFile.revision).max?
    with _ | m
  · rw [List.max?_eq_none_iff.1 hmax] at hmem
    cases hmem
  · exact Int.lt_add_one_of_le ((List.max?_eq_some_iff.1 hmax).2 _ hmem)

/-- A request is refused; or it inserts an active row of the path of its target, with
    the next revision of the path and without an index. -/
theorem restoreFileVersion_ok
    (h : restoreFileVersion env kind inputs request st = .ok (response, st')) :
    (response.success = false ∧ st' = st) ∨
      ∃ (r : FileRow) (filePath : String), response.success = true ∧ st'.files = st.files ++ [r] ∧
        r.accountHash = request.accountHash ∧ r.filePath = filePath.toByteArray ∧
        r.eqIndex = none ∧ r.revision = response.newRevision ∧
        r.revision = historyRevision
          (getFileHistory env st.files request.accountHash filePath r.groupId) := by
  unfold restoreFileVersion at h
  split at h
  next =>
    cases h
    exact .inl ⟨rfl, rfl⟩
  next =>
    split at h
    next => cases h
    next target htarget =>
      have hacc : target.userId = request.accountHash := by
        unfold getFileByRevision at htarget
        split at htarget
        next r hr =>
          cases htarget
          exact (fetchOptional_some hr).2.1
        next => cases htarget
      simp only at h
      split at h
      next => cases h
      next st₁ hst =>
        have hfiles := Store.files_restoreFileVersion hst
        cases h
        set restored := restoredFile target (historyRevision
          (getFileHistory env st.files request.accountHash target.filePath target.groupId))
          request.deviceHash inputs.uploadTime inputs.lastUpdated
        obtain ⟨keyId, hstore⟩ := exists_storeFile env restored st.files
        refine .inr ⟨versionRow restored keyId, target.filePath, rfl, ?_, hacc, rfl, rfl, rfl, rfl⟩
        exact (congrArg (storeFile env _) hfiles).trans hstore

end

/-! ## Reachable tables -/

/-- The tables that uploads, deletions and restorations lead to, whatever the data of
    the files. -/
inductive Reachable (env : Env) : List FileRow → Prop
  | empty : Reachable env []
  | file {t : List FileRow} (op : FileOp) : Reachable env t → Reachable env (op.apply env t)
  | restore {kind : FileStorageKind} {inputs : RestoreInputs} {request : RestoreFileVersionRequest}
      {st st' : Store} {response : RestoreFileVersionResponse} : Reachable env st.files →
        restoreFileVersion env kind inputs request st = .ok (response, st') →
          Reachable env st'.files

/-- The stored paths are texts. -/
def TextPaths (t : List FileRow) : Prop :=
  ∀ b ∈ t.map FileRow.filePath, ∃ path : String, b = path.toByteArray

section

variable {env : Env} {t : List FileRow}

theorem TextPaths.append (ht : TextPaths t) {r : FileRow} {path : String}
    (hr : r.filePath = path.toByteArray) : TextPaths (t ++ [r]) := by
  intro b hb
  rw [List.map_append, List.mem_append, List.map_singleton, List.mem_singleton] at hb
  obtain hb | rfl := hb
  · exact ht b hb
  · exact ⟨path, hr⟩

theorem TextPaths.of_map_eq {t' : List FileRow} (ht : TextPaths t)
    (h : t'.map FileRow.filePath = t.map FileRow.filePath) : TextPaths t' := by
  rwa [TextPaths, h]

theorem TextPaths.apply (ht : TextPaths t) (hkey : env.config.encodeKey = none) (op : FileOp) :
    TextPaths (op.apply env t) := by
  rcases op with ⟨now, nonces, info⟩ | ⟨now, newFileId, accountHash, fileId⟩
  · refine committed_of ht fun id t' h => ?_
    obtain ⟨-, ⟨-, rfl⟩ | ⟨-, -, rfl⟩⟩ := storeFileInfo_ok h
    · exact ht.of_map_eq (map_updateWhere fun _ => rfl)
    · have hpath : (env.newRow now nonces info (nextRevision info.logical t)).filePath =
          info.filePath.toByteArray := by simp [Env.newRow, Env.encodeText, hkey]
      exact (ht.of_map_eq (map_retire fun _ => rfl)).append hpath
  · refine committed_of ht fun _ t' h => ?_
    obtain ⟨r, filePath, filename, -, -, -, rfl⟩ := deleteFile_ok h
    have hmarked : TextPaths (markDeleted (fun f => f.logicalByGroup = r.logicalByGroup)
        (markDeleted (fun f => f.fileId = fileId) t)) :=
      ht.of_map_eq ((map_markDeleted fun _ => rfl).trans (map_markDeleted fun _ => rfl))
    exact (hmarked.append (r := insertedTombstone now newFileId accountHash filePath filename r)
      rfl).of_map_eq (map_updateWhere fun _ => rfl)

theorem Reachable.textPaths (h : Reachable env t) (hkey : env.config.encodeKey = none) :
    TextPaths t := by
  induction h with
  | empty => exact fun b hb => absurd hb List.not_mem_nil
  | file op _ ih => exact ih.apply hkey op
  | restore _ hok ih =>
    obtain ⟨-, rfl⟩ | ⟨r, path, -, hfiles, -, hpath, -⟩ := restoreFileVersion_ok hok
    · exact ih
    · exact hfiles ▸ ih.append hpath

end

/-! ## The restored version and the live one -/

/-- The row `r`, inserted into the table `t`, supersedes the live version of its file:
    it is the only active row and the one of the greatest revision, the file is
    listed once, and a lookup by its path returns the row. -/
structure Supersedes (env : Env) (t : List FileRow) (r : FileRow) : Prop where
  live : liveRows r.logical (t ++ [r]) = [r]
  greatest : ∀ r' ∈ t, r'.logical = r.logical → r'.revision < r.revision
  listed : ((listFiles env (t ++ [r]) r.accountHash r.serverGroupId none).filter fun info =>
    info.filePath = (r.toFileInfo env).filePath ∧
      info.filename = (r.toFileInfo env).filename).length = 1
  found : getFileInfoByPath env (t ++ [r]) r.accountHash (r.toFileInfo env).filePath
    r.serverGroupId =
    some (r.toFileInfo env)

/-- Without a key, a text is read from its bytes. -/
theorem decryptText_toByteArray {env : Env} (hkey : env.config.encodeKey = none)
    (accountHash : String) (groupId watcherId : ℤ) (text : String) :
    env.decryptText accountHash groupId watcherId text.toByteArray = text := by
  simp [Env.decryptText, hkey]

/-- In no reachable table does a restored version supersede the live one: a lookup by
    path only returns rows with an index, and these have lower revisions. -/
theorem not_supersedes_restore {env : Env} (hkey : env.config.encodeKey = none)
    (kind : FileStorageKind) (inputs : RestoreInputs) (request : RestoreFileVersionRequest)
    {st st' : Store} {response : RestoreFileVersionResponse} (hreach : Reachable env st.files)
    (hok : restoreFileVersion env kind inputs request st = .ok (response, st'))
    (hsuccess : response.success = true) :
    ∃ r, st'.files = st.files ++ [r] ∧ r.revision = response.newRevision ∧
      ¬Supersedes env st.files r := by
  obtain ⟨hfail, -⟩ | ⟨r, path, -, hfiles, hacc, hpath, hindex, hrev, hnext⟩ :=
    restoreFileVersion_ok hok
  · rw [hsuccess] at hfail
    cases hfail
  refine ⟨r, hfiles, hrev, fun h => ?_⟩
  obtain ⟨r₁, hr₁, hinfo⟩ := Option.map_eq_some_iff.1 h.found
  obtain ⟨hmem, hacc₁, hindex₁, -⟩ := fetchFirstBy_some hr₁
  -- The row found has an index, so it is an older one.
  have hold : r₁ ∈ st.files := by
    rcases List.mem_append.1 hmem with hmem | hmem
    · exact hmem
    · rw [List.mem_singleton.1 hmem, hindex] at hindex₁
      cases hindex₁
  -- And it is in the history that the new revision was counted from.
  obtain ⟨path₁, hpath₁⟩ := hreach.textPaths hkey _ (List.mem_map_of_mem hold)
  have hsame : path₁ = path := by
    have := congrArg FileInfo.filePath hinfo
    simpa [FileRow.toFileInfo, hpath, hpath₁, decryptText_toByteArray hkey] using this
  have hlt := lt_historyRevision env hold (hacc₁.trans hacc) (hsame ▸ hpath₁)
    (congrArg FileInfo.groupId hinfo)
  have heq : r₁.revision = r.revision := congrArg FileInfo.revision hinfo
  exact absurd hnext (heq ▸ hlt.ne)

/-! ## An upload and the restoration of its only version -/

def sampleUpload : FileOp :=
  .store 10 (Crypto.nonceSample 1, Crypto.nonceSample 2) (sampleInfo 1 0 10)

/-- The store after an upload, its data in the cache. -/
def sampleStore : Store where
  files := sampleUpload.apply .plain []
  fileData _ := none
  cache fileId := if fileId = 1 then some .empty else none

def sampleRestoreInputs : RestoreInputs := ⟨⟨20, 0⟩, ⟨20, 0⟩, none, .ok []⟩

def sampleRestoreRequest : RestoreFileVersionRequest := ⟨"alice", "d", 1, 1, false⟩

def sampleRestore : Except AppError (RestoreFileVersionResponse × Store) :=
  restoreFileVersion .plain .database sampleRestoreInputs sampleRestoreRequest sampleStore

/-- The restoration succeeds; the file then has two active rows, and a lookup by its
    path returns the first. -/
theorem restore_leaves_two_live :
    ∃ response st', sampleRestore = .ok (response, st') ∧ response.success = true ∧
      (st'.files.map fun r => (r.revision, r.isDeleted)) = [(1, false), (2, false)] ∧
      ((getFileInfoByPath .plain st'.files "alice" "~/a.txt" 1).map FileInfo.revision) = some 1 ∧
      ∃ r, st'.files = sampleStore.files ++ [r] ∧ ¬Supersedes .plain sampleStore.files r := by
  refine ⟨_, _, rfl, rfl, by decide, by decide, _, rfl, fun h => ?_⟩
  exact absurd (congrArg List.length h.live) (by decide)

theorem not_supersedes_sampleRestore :
    ∃ response st', sampleRestore = .ok (response, st') ∧ response.success = true ∧
      ∃ r, st'.files = sampleStore.files ++ [r] ∧ r.revision = response.newRevision ∧
        ¬Supersedes .plain sampleStore.files r :=
  ⟨_, _, rfl, rfl, not_supersedes_restore rfl .database sampleRestoreInputs sampleRestoreRequest
    (Reachable.file sampleUpload .empty : Reachable .plain (sampleUpload.apply .plain [])) rfl rfl⟩

end CosmicSync
