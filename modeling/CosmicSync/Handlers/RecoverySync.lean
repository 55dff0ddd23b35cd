import CosmicSync.Handlers.FileHandler

/-!
# Recovery sync

A device that comes back asks for the files that others have changed since a time, which it
gives in nanoseconds. The time of an upload is kept in whole seconds, and a file is listed if
that time is later: a file that was uploaded in the second of the request's time, later than
it, is not listed.
-/

namespace CosmicSync

open Table

/-- The instants of `chrono`. -/
def DateTime.IsInstant (d : DateTime) : Prop := DateTime.fromTimestamp d.seconds d.nanos = some d

instance (d : DateTime) : Decidable d.IsInstant := inferInstanceAs (Decidable (_ = _))

/-- The later of two instants. -/
def DateTime.lt (d d' : DateTime) : Prop := ¬d'.le d

instance (d d' : DateTime) : Decidable (d.lt d') := inferInstanceAs (Decidable (¬_))

/-- `datetime_to_timestamp`. -/
def DateTime.toTimestamp (d : DateTime) : Timestamp := ⟨d.seconds, d.nanos⟩

/-- The file was uploaded last at the instant `u`, of which the row has the seconds. -/
def FileRow.UploadedAt (u : DateTime) (r : FileRow) : Prop := r.updatedTime = u.seconds

/-- The response has the version of the file that is in the row. -/
def ListFilesResponse.Contains (res : ListFilesResponse) (r : FileRow) : Prop :=
  ∃ f ∈ res.files, f.fileId = r.fileId ∧ f.fileHash = r.fileHash ∧ f.deviceHash = r.deviceHash ∧
    f.revision = r.revision ∧ f.updatedTime = some ⟨r.updatedTime, 0⟩

instance (res : ListFilesResponse) (r : FileRow) : Decidable (res.Contains r) :=
  inferInstanceAs (Decidable (∃ f ∈ res.files, _))

section

variable {env : Env} {auth : Option VerificationResult} {s s' : AppState}

/-- An upload that is accepted leaves its time, in seconds, in the active rows of its file. -/
theorem uploadedAt_of_handleUploadFile {kind : FileStorageKind} {i : UploadInputs}
    {req : UploadFileRequest} {result : UploadResult} {u : DateTime}
    (h : handleUploadFile env kind i auth req s = (result, s'))
    (hok : result.response.success = true) (hnow : i.now = u.seconds) {r : FileRow}
    (hr : r ∈ s'.files) (hid : r.fileId = result.response.fileId) (hactive : r.isDeleted = false) :
    r.UploadedAt u ∧ r.deviceHash = req.deviceHash := by
  obtain ⟨info, tables, id, hprepare, hstore, -, rfl⟩ := handleUploadFile_success h hok
  obtain ⟨-, accountHash, watcherId, -, rfl⟩ := prepareUpload_ok hprepare
  obtain ⟨-, ⟨-, hfiles⟩ | ⟨hnone, -, hfiles⟩⟩ := storeFileInfo_ok hstore <;> rw [hfiles] at hr
  · rcases mem_updateWhere_cases hr with ⟨-, hne⟩ | ⟨r₀, -, -, rfl⟩
    · exact absurd hid hne
    · exact ⟨hnow, rfl⟩
  · rcases List.mem_append.1 hr with hr | hr
    · exact absurd ⟨hid, hactive⟩ (hnone r (active_of_mem_retire hr hactive))
    · rw [List.mem_singleton.1 hr]
      exact ⟨hnow, rfl⟩

/-- An instant that is sent is read back. -/
theorem toDatetime_toTimestamp {t : DateTime} (ht : t.IsInstant) (now : DateTime) :
    t.toTimestamp.toDatetime now = t := by
  have hnanos : ((t.nanos : ℤ) % 2 ^ 32).toNat = t.nanos := by
    rw [DateTime.IsInstant, DateTime.fromTimestamp] at ht
    split at ht
    next hrange => omega
    next => cases ht
  rw [Timestamp.toDatetime, DateTime.toTimestamp, hnanos, ht, Option.getD_some]

/-- The seconds of an instant are one. -/
theorem toDatetime_seconds {u : DateTime} (hu : u.IsInstant) (now : DateTime) :
    (⟨u.seconds, 0⟩ : Timestamp).toDatetime now = ⟨u.seconds, 0⟩ := by
  rw [DateTime.IsInstant, DateTime.fromTimestamp] at hu
  split at hu
  next hrange =>
    have hseconds : DateTime.fromTimestamp u.seconds 0 = some ⟨u.seconds, 0⟩ :=
      if_pos ⟨hrange.1, hrange.2.1, by omega, by omega⟩
    rw [Timestamp.toDatetime]
    exact congrArg (Option.getD · now) hseconds
  next => cases hu

/-- A file was changed since a time, for a listing, if the second of its upload is a later one. -/
theorem changedSince_iff {u t now : DateTime} {file : FileInfo} (hu : u.IsInstant)
    (hfile : file.updatedTime.seconds = u.seconds) :
    changedSince now (some t) file ↔ t.seconds < u.seconds := by
  rw [changedSince, hfile, toDatetime_seconds hu]
  simp only [DateTime.le]
  omega

/-- A file that another device uploaded later than the time of the request is listed, exactly if
    it was not in the same second. -/
theorem contains_handleListFiles_iff {i : ListInputs} {req : ListFilesRequest}
    {accountHash : String} {serverGroupId : ℤ} {r : FileRow} {t u : DateTime}
    (hauth : verifiedAccount auth = some accountHash)
    (hgroup : s.watchers.getServerGroupId env.planner req.accountHash req.groupId =
      some serverGroupId)
    (hr : r ∈ s.files) (haccount : r.accountHash = req.accountHash)
    (hserver : r.serverGroupId = serverGroupId)
    (hactive : r.isDeleted = false) (hdevice : r.deviceHash ≠ req.deviceHash)
    (hupload : r.UploadedAt u)
    (hu : u.IsInstant) (ht : t.IsInstant) (hfrom : req.uploadTimeFrom = some t.toTimestamp)
    (hlt : t.lt u) :
    (handleListFiles env i auth req s).Contains r ↔ t.seconds ≠ u.seconds := by
  have hseconds : t.seconds ≤ u.seconds := by
    simp only [DateTime.lt, DateTime.le] at hlt
    omega
  have hchanged {file : FileInfo} {now : DateTime}
    (hfile : file.updatedTime.seconds = r.updatedTime) :
      changedSince now (req.uploadTimeFrom.map (Timestamp.toDatetime (i.now 0))) file ↔
        t.seconds ≠ u.seconds := by
    rw [hfrom, Option.map_some, toDatetime_toTimestamp ht,
      changedSince_iff hu (hfile.trans hupload)]
    exact hseconds.lt_iff_ne
  rw [handleListFiles, hauth]
  dsimp only
  rw [hgroup]
  dsimp only
  constructor
  · -- What is listed has the time of the row, and has passed the comparison by it; which file
    -- of the listing it is makes no difference.
    rintro ⟨f, hf, -, -, -, -, htime⟩
    obtain ⟨⟨file, n⟩, -, hfile⟩ := List.mem_filterMap.1 hf
    dsimp only at hfile
    split at hfile
    next hsince =>
      cases hfile
      exact (hchanged (congrArg Timestamp.seconds (Option.some_inj.1 htime))).1 hsince
    next => cases hfile
  · intro hne
    have hmem : r.toFileInfo env ∈
        listFilesExceptDevice env s.files req.accountHash serverGroupId req.deviceHash none :=
      List.mem_map_of_mem (mem_fetchAllBy.2 ⟨hr, haccount, hserver, hdevice, hactive⟩)
    obtain ⟨n, hn⟩ := List.getElem?_of_mem hmem
    refine ⟨_, List.mem_filterMap.2 ⟨(r.toFileInfo env, n), ?_, if_pos ((hchanged rfl).2 hne)⟩,
      rfl, rfl, rfl, rfl, rfl⟩
    exact List.mem_zipIdx_iff_getElem?.2 hn

end

/-- A file of a group, uploaded by a phone in the second 100. -/
def uploadedRow : FileRow where
  fileId := 5
  accountHash := "alice"
  deviceHash := "phone"
  filePath := "~/docs/a.txt".toByteArray
  filename := "a.txt".toByteArray
  fileHash := "h"
  size := 1
  isDeleted := false
  revision := 1
  createdTime := 100
  updatedTime := 100
  groupId := 1
  watcherId := 1
  serverGroupId := 1
  serverWatcherId := 1
  eqIndex := none
  tokenPath := none
  keyId := none

def uploadedState : AppState :=
  { AppState.empty with
    files := [uploadedRow]
    watchers := ⟨[⟨1, 7, "alice", "phone", "Documents", 10, 10, true⟩], []⟩ }

def sampleListInputs : ListInputs :=
  ⟨fun _ => ⟨200, 0⟩, fun _ => (Crypto.nonceSample 1, Crypto.nonceSample 2)⟩

/-- The phone has uploaded half a second after the second began; the laptop asks for what came
    after its first fifth, and is told of nothing. -/
theorem not_contains_sameSecond :
    uploadedRow.UploadedAt ⟨100, 500000000⟩ ∧ (⟨100, 200000000⟩ : DateTime).lt ⟨100, 500000000⟩ ∧
      ¬(handleListFiles .plain sampleListInputs sampleAuth
        ⟨"alice", "laptop", 7, some (⟨100, 200000000⟩ : DateTime).toTimestamp⟩
          uploadedState).Contains
        uploadedRow := ⟨rfl, by decide, by decide +kernel⟩

theorem contains_laterSecond :
    (99 : ℤ) ≠ 100 ∧ (handleListFiles .plain sampleListInputs sampleAuth
      ⟨"alice", "laptop", 7, some (⟨99, 900000000⟩ : DateTime).toTimestamp⟩ uploadedState).Contains
      uploadedRow := by
  have hne : (99 : ℤ) ≠ 100 := by decide
  have hgroup : uploadedState.watchers.getServerGroupId Env.plain.planner "alice" 7 = some 1 := by
    decide +kernel
  refine ⟨hne, (contains_handleListFiles_iff (r := uploadedRow) (t := ⟨99, 900000000⟩)
    (u := ⟨100, 500000000⟩) rfl hgroup List.mem_cons_self rfl rfl rfl ?_ rfl ?_ ?_ rfl ?_).2
      hne⟩ <;> decide

end CosmicSync
