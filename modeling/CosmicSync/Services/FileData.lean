import CosmicSync.Library.Run
import CosmicSync.Services.FileService

/-!
# Where the bytes of a file are

The bytes of a file are kept in up to three places: in the cache of the file service, in
the file storage, and in the table `file_data`. With S3 as the file storage these are
three; if the file storage is the database, or none is configured, the last two are
one. An upload and a copy write the file storage and the cache, `store_file_data` writes
the table; `get_file_data` reads the cache and the table, `get_file` the cache and the
file storage.

* `failsClean_iff`: a failed upload leaves everything as it was iff it is not the write of
  the data that failed.
* `returnsLast_run`: reads return what was stored last, with and without the cache, in
  every run whose stores leave the three places alike.
-/

namespace CosmicSync

/-- The store of the service, the objects in S3, and the notifications that were sent. -/
structure DataStore extends Store where
  objects : ℕ → Option ByteArray
  sent : List (String × FileUpdateNotification)

namespace DataStore

variable (st : DataStore)

/-- The objects, after data was written to the file storage. -/
def putObject (kind : FileStorageKind) (fileId : ℕ) (data : ByteArray) : ℕ → Option ByteArray :=
  match kind with
  | .database => st.objects
  | .s3 => Function.update st.objects fileId (some data)

/-- The table, after data was written to the file storage. -/
def putRow (kind : FileStorageKind) (fileId : ℕ) (data : ByteArray) : ℕ → Option ByteArray :=
  match kind with
  | .database => Function.update st.fileData fileId (some data)
  | .s3 => st.fileData

/-- `get_file_data` of the storage. -/
def tableData (fileId : ℕ) : Option ByteArray :=
  if fileId < 2 ^ 63 then st.fileData fileId else none

/-- `get_file_data` of the file storage. -/
def fileStorageData (kind : FileStorageKind) (fileId : ℕ) : Option ByteArray :=
  match kind with
  | .database => st.tableData fileId
  | .s3 => st.objects fileId

/-- `store_file_with_update_type`. The transaction of the metadata may fail with
    `infoFault`, and is rolled back. -/
def storeFileWithUpdateType (env : Env) (kind : FileStorageKind) (notifier : Notifier)
    (i : StoreInputs) (infoFault : Option StorageError) (info : FileInfo) (data : ByteArray)
    (updateType : UpdateType) : Except StorageError Unit × DataStore :=
  match infoFault with
  | some e => (.error e, st)
  | none =>
    match st.toStore.storeFileWithUpdateType env kind notifier i info data updateType with
    | (.error e, s) => (.error e, { st with toStore := s })
    | (.ok sent, s) =>
      (.ok (), { toStore := s, objects := st.putObject kind info.fileId data, sent :=
        st.sent ++ sent })

/-- `store_file`. -/
def storeFile (env : Env) (kind : FileStorageKind) (notifier : Notifier) (i : StoreInputs)
    (infoFault : Option StorageError) (info : FileInfo) (data : ByteArray) :
    Except StorageError Unit × DataStore :=
  st.storeFileWithUpdateType env kind notifier i infoFault info data .uploaded

/-- `store_file_data`: neither the file storage nor the cache. -/
def storeFileData (fault : Option StorageError) (fileId : ℕ) (data : ByteArray) :
    Except StorageError DataStore :=
  match fault with
  | some e => .error e
  | none => .ok { st with fileData := Function.update st.fileData fileId (some data) }

/-- `copy_file_data`. -/
def copyFileData (kind : FileStorageKind) (fault : Option StorageError)
    (sourceFileId targetFileId : ℕ) : Except StorageError DataStore := do
  let s ← st.toStore.copyFileData kind fault sourceFileId targetFileId
  return { st with
    toStore := s
    objects := st.putObject kind targetFileId ((st.getFileData sourceFileId).getD .empty) }

/-- `restore_file_version`. -/
def restoreFileVersion (kind : FileStorageKind) (fault : Option StorageError)
    (source target : FileInfo) : Except StorageError DataStore := do
  let s ← st.toStore.restoreFileVersion kind fault source target
  return { st with
    toStore := s
    objects := st.putObject kind target.fileId ((st.getFileData source.fileId).getD .empty) }

/-- `delete_file`: the bytes stay, except in the cache. -/
def deleteFile (env : Env) (notifier : Notifier) (i : StoreInputs) (newFileId fileId : ℕ) :
    Except StorageError Unit × DataStore :=
  match st.toStore.deleteFile env notifier i newFileId fileId with
  | (.error e, s) => (.error e, { st with toStore := s })
  | (.ok sent, s) => (.ok (), { st with toStore := s, sent := st.sent ++ sent })

/-- `get_file`: data that is not cached is read from the file storage, and cached. -/
def getFile (env : Env) (kind : FileStorageKind) (fileId : ℕ) :
    Except StorageError (FileInfo × ByteArray) × DataStore :=
  match getFileInfo env st.files fileId, st.cache fileId with
  | some info, some data => (.ok (info, data), st)
  | some info, none =>
    match st.fileStorageData kind fileId with
    | some data => (.ok (info, data), { st with toStore := st.toStore.insertCache fileId data })
    | none => (.error (.notFound "File not found"), st)
  | none, _ => (.error (.notFound "File not found"), st)

/-- The service after a restart. -/
def dropCache : DataStore := { st with cache := fun _ => none }

end DataStore

/-! ## Uploads that fail -/

section

variable {env : Env} {now : ℤ} {nonces : Nonce × Nonce} {info : FileInfo} {t t' : List FileRow}
  {storedId : ℕ}

/-- Metadata that is stored changes the table: a revision grows, or a row is added. -/
theorem storeFileInfo_ne_self (h : storeFileInfo env now nonces info t = .ok (storedId, t')) :
    t' ≠ t := by
  intro heq
  obtain ⟨-, ⟨⟨r, hr, hid, -⟩, ht'⟩ | ⟨-, -, ht'⟩⟩ := storeFileInfo_ok h
  · have hmap : t.map (fun r => if r.fileId = info.fileId then r.overwrite info else r) =
        t.map id :=
      (ht'.symm.trans heq).trans (List.map_id t).symm
    have hrow := List.map_inj_left.1 hmap r hr
    rw [if_pos hid] at hrow
    have := congrArg FileRow.revision hrow
    simp [FileRow.overwrite] at this
  · have hlen := congrArg List.length (ht'.symm.trans heq)
    have hret : ((retire env.planner info.logical t).map FileRow.fileId).length =
        (t.map FileRow.fileId).length := congrArg List.length (map_retire fun _ => rfl)
    simp only [List.length_map, List.length_append, List.length_singleton] at hlen hret
    omega

/-- The metadata is refused: a new id is beyond the signed numbers. -/
theorem storeFileInfo_error :
    (∃ e, storeFileInfo env now nonces info t = .error e) ↔
      2 ^ 63 ≤ info.fileId ∧ ∀ r ∈ t, r.fileId = info.fileId → r.isDeleted = true := by
  by_cases hactive : ∃ r ∈ t, r.fileId = info.fileId ∧ r.isDeleted = false
  · rw [storeFileInfo_of_active hactive]
    obtain ⟨r, hr, hid, hlive⟩ := hactive
    refine ⟨fun ⟨e, he⟩ => (nomatch he), fun ⟨_, h⟩ => ?_⟩
    rw [h r hr hid] at hlive
    cases hlive
  · have hnot : ∀ r ∈ t, ¬(r.fileId = info.fileId ∧ r.isDeleted = false) :=
      fun r hr hp => hactive ⟨r, hr, hp⟩
    rw [storeFileInfo_of_not_active hnot]
    split
    next hlt => exact ⟨fun ⟨e, he⟩ => (nomatch he), fun ⟨hge, _⟩ => absurd hlt (by omega)⟩
    next hge =>
      refine ⟨fun _ => ⟨by omega, fun r hr hid => ?_⟩, fun _ => ⟨_, rfl⟩⟩
      simpa [hid] using hnot r hr

end

section

variable (env : Env) (kind : FileStorageKind) (notifier : Notifier) (i : StoreInputs)
  (infoFault : Option StorageError) (info : FileInfo) (data : ByteArray) (updateType : UpdateType)
  (st : DataStore)

/-- If the upload fails, the table, the data, the cache and the notifications are what
    they were. -/
def FailsClean : Prop :=
  ∀ e st', st.storeFileWithUpdateType env kind notifier i infoFault info data updateType =
    (.error e, st') →
    st' = st

variable {env kind notifier i infoFault info data updateType st}

/-- The upload, when the metadata is stored and the data is not. -/
theorem storeFileWithUpdateType_of_fault {e : StorageError} {storedId : ℕ} {files : List FileRow}
    (hfault : i.fault = some e)
    (hinfo : storeFileInfo env i.now i.nonces info st.files = .ok (storedId, files)) :
    st.storeFileWithUpdateType env kind notifier i none info data updateType =
      (.error e, { st with files := files }) := by
  simp [DataStore.storeFileWithUpdateType, Store.storeFileWithUpdateType, hinfo,
    Store.storeFileDataInternal, hfault]

/-- The upload, when nothing fails. -/
theorem storeFileWithUpdateType_of_ok {storedId : ℕ} {files : List FileRow}
    (hfault : i.fault = none)
    (hinfo : storeFileInfo env i.now i.nonces info st.files = .ok (storedId, files)) :
    st.storeFileWithUpdateType env kind notifier i none info data updateType =
      (.ok (), {
        files := files
        fileData := st.putRow kind info.fileId data
        cache := Function.update st.cache info.fileId (some data)
        objects := st.putObject kind info.fileId data
        sent := st.sent ++ notifier.sendFileUpdateNotification env.crypto i info updateType }) := by
  rcases kind <;>
    simp [DataStore.storeFileWithUpdateType, Store.storeFileWithUpdateType, hinfo,
      Store.storeFileDataInternal, hfault, Store.insertCache, DataStore.putRow]

/-- The upload, when the metadata is refused. -/
theorem storeFileWithUpdateType_of_info_error {e : StorageError}
    (hinfo : storeFileInfo env i.now i.nonces info st.files = .error e) :
    st.storeFileWithUpdateType env kind notifier i none info data updateType = (.error e, st) := by
  simp [DataStore.storeFileWithUpdateType, Store.storeFileWithUpdateType, hinfo]

/-- A failed upload leaves everything as it was iff the data can be written, or the
    metadata was not stored: its transaction fails, or a new id is not a signed number. -/
theorem failsClean_iff :
    FailsClean env kind notifier i infoFault info data updateType st ↔
      i.fault = none ∨ infoFault ≠ none ∨
        (2 ^ 63 ≤ info.fileId ∧ ∀ r ∈ st.files, r.fileId = info.fileId → r.isDeleted = true) := by
  have hrefused := @storeFileInfo_error env i.now i.nonces info st.files
  rw [← hrefused]
  rcases infoFault with _ | e
  · rcases hinfo : storeFileInfo env i.now i.nonces info st.files with e | ⟨storedId, files⟩
    · simp [FailsClean, storeFileWithUpdateType_of_info_error hinfo]
    · rcases hfault : i.fault with _ | e
      · simp [FailsClean, storeFileWithUpdateType_of_ok hfault hinfo]
      · refine ⟨fun h => ?_, by simp⟩
        have := h e _ (storeFileWithUpdateType_of_fault hfault hinfo)
        exact absurd (congrArg (fun s => s.files) this) (storeFileInfo_ne_self hinfo)
  · simp [FailsClean, DataStore.storeFileWithUpdateType]

end

/-- No files, no data, nothing sent. -/
def DataStore.empty : DataStore := ⟨⟨[], fun _ => none, fun _ => none⟩, fun _ => none, []⟩

/-- A change at the time 10, the data of which is written, or not. -/
def StoreInputs.sample (fault : Option StorageError) : StoreInputs where
  now := 10
  nonces := (Crypto.nonceSample 1, Crypto.nonceSample 2)
  fault := fault
  timestamp := 10
  transportNonces := fun _ => (Crypto.nonceSample 1, Crypto.nonceSample 2)

/-- The file `~/a.txt` has been uploaded, and then is again, under another id: if the data
    cannot be written, the first version is retired all the same. -/
theorem failed_upload_retires :
    ¬FailsClean .plain .database ⟨none, fun _ => none⟩ (.sample (some (.database "disk full"))) none
      (sampleInfo 2 0 20) ⟨#[2]⟩ .uploaded
      (DataStore.empty.storeFile .plain .database ⟨none, fun _ => none⟩ (.sample none) none
        (sampleInfo 1 0 10) ⟨#[1]⟩).2 := by
  intro h
  exact absurd (congrArg (fun st => st.files.map FileRow.isDeleted) (h _ _ rfl)) (by decide)

/-! ## Runs -/

namespace FileData

open Run

/-- The calls of the service, with the faults that they meet, and a restart. -/
inductive Op where
  | storeFile (i : StoreInputs) (infoFault : Option StorageError) (info : FileInfo)
    (data : ByteArray)
  | storeFileData (fault : Option StorageError) (fileId : ℕ) (data : ByteArray)
  | copyFileData (fault : Option StorageError) (sourceFileId targetFileId : ℕ)
  | restoreFileVersion (fault : Option StorageError) (source target : FileInfo)
  | deleteFile (i : StoreInputs) (newFileId fileId : ℕ)
  | getFile (fileId : ℕ)
  | getFileData (fileId : ℕ)
  | restart

/-- The stores, and for each file the bytes that were stored last by a call that
    succeeded. -/
structure State where
  store : DataStore
  last : ℕ → Option ByteArray

namespace State

variable (env : Env) (kind : FileStorageKind) (notifier : Notifier) (s : State)

/-- A call has stored the data of a file. -/
def record (fileId : ℕ) (data : ByteArray) (st : DataStore) : State :=
  ⟨st, Function.update s.last fileId (some data)⟩

/-- A copy stores what is read of its source. -/
def recordCopy (source target : ℕ) : Except StorageError DataStore → State
  | .ok st => ⟨st, Function.update s.last target (s.store.getFileData source)⟩
  | .error _ => s

def step : Op → State
  | .storeFile i infoFault info data =>
    match s.store.storeFile env kind notifier i infoFault info data with
    | (.ok _, st) => s.record info.fileId data st
    | (.error _, st) => { s with store := st }
  | .storeFileData fault fileId data =>
    match s.store.storeFileData fault fileId data with
    | .ok st => s.record fileId data st
    | .error _ => s
  | .copyFileData fault source target =>
    s.recordCopy source target (s.store.copyFileData kind fault source target)
  | .restoreFileVersion fault source target =>
    s.recordCopy source.fileId target.fileId (s.store.restoreFileVersion kind fault source target)
  | .deleteFile i newFileId fileId =>
    { s with store := (s.store.deleteFile env notifier i newFileId fileId).2 }
  | .getFile fileId => { s with store := (s.store.getFile env kind fileId).2 }
  | .getFileData _ => s
  | .restart => { s with store := s.store.dropCache }

end State

/-- What the two reads return: the bytes stored last, if the file is active also by
    `get_file`. -/
structure Reads (env : Env) (kind : FileStorageKind) (last : ℕ → Option ByteArray)
    (st : DataStore) : Prop where
  getFileData : ∀ fileId, st.getFileData fileId = last fileId
  getFile : ∀ fileId info, getFileInfo env st.files fileId = some info →
    (st.getFile env kind fileId).1 =
      match last fileId with
      | some data => .ok (info, data)
      | none => .error (.notFound "File not found")

/-- The reads return the bytes stored last, whatever is in the cache. -/
def ReturnsLast (env : Env) (kind : FileStorageKind) (s : State) : Prop :=
  Reads env kind s.last s.store ∧ Reads env kind s.last s.store.dropCache

/-! ## Active files -/

section

variable {env : Env} {t t' : List FileRow} {fileId : ℕ}

/-- Storing metadata makes no other file active. -/
theorem active_of_storeFileInfo {now : ℤ} {nonces : Nonce × Nonce} {info : FileInfo} {storedId : ℕ}
    (h : storeFileInfo env now nonces info t = .ok (storedId, t'))
    (hactive : (getFileInfo env t' fileId).isSome) :
    fileId = info.fileId ∨ (getFileInfo env t fileId).isSome := by
  simp only [getFileInfo_isSome] at hactive ⊢
  obtain ⟨r, hr, hid, hlive⟩ := hactive
  obtain ⟨-, ⟨-, rfl⟩ | ⟨-, -, rfl⟩⟩ := storeFileInfo_ok h
  · obtain ⟨hr, -⟩ | ⟨r₀, -, hid₀, rfl⟩ := Table.mem_updateWhere_cases hr
    · exact .inr ⟨r, hr, hid, hlive⟩
    · exact .inl (hid.symm.trans hid₀)
  · rcases List.mem_append.1 hr with hr | hr
    · exact .inr ⟨r, active_of_mem_retire hr hlive, hid, hlive⟩
    · cases List.mem_singleton.1 hr
      exact .inl hid.symm

/-- Deleting makes no file active. -/
theorem active_of_deleteFile {now : ℤ} {newFileId : ℕ} {accountHash : String} {fileId' : ℕ}
    (h : deleteFile env now newFileId accountHash fileId' t = .ok ((), t'))
    (hactive : (getFileInfo env t' fileId).isSome) : (getFileInfo env t fileId).isSome := by
  rw [getFileInfo_isSome] at hactive ⊢
  obtain ⟨r, hr, hid, hlive⟩ := hactive
  obtain ⟨found, filePath, filename, -, -, -, rfl⟩ := deleteFile_ok h
  obtain ⟨hr, hnot⟩ | ⟨r₀, -, -, rfl⟩ := Table.mem_updateWhere_cases hr
  · rcases List.mem_append.1 hr with hr | hr
    · have hr := (active_of_mem_markDeleted hr hlive).1
      exact ⟨r, (active_of_mem_markDeleted hr hlive).1, hid, hlive⟩
    · cases List.mem_singleton.1 hr
      exact absurd rfl hnot
  · cases hlive

end

/-! ## Stores that leave the places alike -/

/-- The bytes in the table, in the file storage of an active file, and in the cache are
    those stored last. -/
structure Coherent (env : Env) (kind : FileStorageKind) (s : State) : Prop where
  table : ∀ fileId, s.store.tableData fileId = s.last fileId
  fileStorage : ∀ fileId, (getFileInfo env s.store.files fileId).isSome →
    s.store.fileStorageData kind fileId = s.last fileId
  cache : ∀ fileId data, s.store.cache fileId = some data → s.last fileId = some data

section

variable {env : Env} {kind : FileStorageKind} {notifier : Notifier} {s : State} {st : DataStore}
  {last : ℕ → Option ByteArray} {fileId : ℕ} {data : ByteArray}

theorem getFileData_eq :
    st.getFileData fileId =
      match st.cache fileId with
      | some data => some data
      | none => st.tableData fileId := rfl

theorem Coherent.reads (h : Coherent env kind ⟨st, last⟩) : Reads env kind last st where
  getFileData fileId := by
    rw [getFileData_eq]
    split
    next data hdata => exact (h.cache fileId data hdata).symm
    next => exact h.table fileId
  getFile fileId info hinfo := by
    have hstorage := h.fileStorage fileId (by rw [hinfo]; rfl)
    rcases hcache : st.cache fileId with _ | data
    · rcases hlast : last fileId with _ | data <;>
        simp [DataStore.getFile, hinfo, hcache, hstorage, hlast]
    · have hlast : last fileId = some data := h.cache fileId data hcache
      simp [DataStore.getFile, hinfo, hcache, hlast]

theorem Coherent.dropCache (h : Coherent env kind s) :
    Coherent env kind { s with store := s.store.dropCache } where
  table := h.table
  fileStorage := by rcases kind <;> exact h.fileStorage
  cache _ _ hdata := nomatch hdata

theorem returnsLast_iff : ReturnsLast env kind s ↔ Coherent env kind s := by
  constructor
  · rintro ⟨hwarm, hcold⟩
    refine ⟨hcold.getFileData, fun fileId hactive => ?_, fun fileId data hdata => ?_⟩
    · obtain ⟨info, hinfo⟩ := Option.isSome_iff_exists.1 hactive
      have hread := hcold.getFile fileId info hinfo
      have hdrop : s.store.dropCache.fileStorageData kind fileId =
          s.store.fileStorageData kind fileId := by
        rcases kind <;> rfl
      rw [← hdrop]
      rcases hdata : s.store.dropCache.fileStorageData kind fileId with _ | data <;>
        rcases hlast : s.last fileId with _ | data' <;>
        simp_all [DataStore.getFile, DataStore.dropCache]
    · rw [← hwarm.getFileData, getFileData_eq, hdata]
  · exact fun h => ⟨h.reads, h.dropCache.reads⟩

end

/-- Data written to the file storage is in the table, too: the two are one and the id is a
    signed number, or the table has it already. -/
def WrittenAlike (kind : FileStorageKind) (st : DataStore) (fileId : ℕ) (data : ByteArray) : Prop :=
  match kind with
  | .database => fileId < 2 ^ 63
  | .s3 => st.tableData fileId = some data

/-- What a call must not do. An upload whose metadata is stored must write alike, or if
    its data is not written, find the file storage and the table alike; data for the table
    must be what the cache has, and S3 if the file is active; copies must write alike. -/
def StoresAlike (env : Env) (kind : FileStorageKind) (s : State) : Op → Prop
  | .storeFile i infoFault info data =>
    infoFault = none →
      (info.fileId < 2 ^ 63 ∨ ∃ r ∈ s.store.files, r.fileId = info.fileId ∧ r.isDeleted = false) →
      (i.fault = none → WrittenAlike kind s.store info.fileId data) ∧
      (i.fault ≠ none →
        s.store.fileStorageData kind info.fileId = s.store.tableData info.fileId)
  | .storeFileData fault fileId data =>
    fault = none → fileId < 2 ^ 63 ∧ (∀ cached ∈ s.store.cache fileId, cached = data) ∧
      (kind = .s3 → (getFileInfo env s.store.files fileId).isSome →
        s.store.objects fileId = some data)
  | .copyFileData fault source target =>
    fault = none → ∀ data ∈ s.store.getFileData source, WrittenAlike kind s.store target data
  | .restoreFileVersion fault source target =>
    fault = none →
      ∀ data ∈ s.store.getFileData source.fileId, WrittenAlike kind s.store target.fileId data
  | _ => True

instance (kind : FileStorageKind) (st : DataStore) (fileId : ℕ) (data : ByteArray) :
    Decidable (WrittenAlike kind st fileId data) :=
  match kind with
  | .database => inferInstanceAs (Decidable (fileId < 2 ^ 63))
  | .s3 => inferInstanceAs (Decidable (st.tableData fileId = some data))

instance (env : Env) (kind : FileStorageKind) (s : State) :
    (o : Op) → Decidable (StoresAlike env kind s o)
  | .storeFile .. => inferInstanceAs (Decidable (_ → _ → _ ∧ _))
  | .storeFileData .. => inferInstanceAs (Decidable (_ → _ ∧ _ ∧ _))
  | .copyFileData .. => inferInstanceAs (Decidable (_ → ∀ data ∈ _, WrittenAlike _ _ _ _))
  | .restoreFileVersion .. => inferInstanceAs (Decidable (_ → ∀ data ∈ _, WrittenAlike _ _ _ _))
  | .deleteFile .. => .isTrue trivial
  | .getFile _ => .isTrue trivial
  | .getFileData _ => .isTrue trivial
  | .restart => .isTrue trivial

section

variable {env : Env} {kind : FileStorageKind} {notifier : Notifier} {s : State} {st : DataStore}
  {last : ℕ → Option ByteArray} {fileId : ℕ} {data : ByteArray}

/-- Data is written to the file storage and to the cache, and no other file gets active. -/
theorem Coherent.put (h : Coherent env kind ⟨st, last⟩) (halike : WrittenAlike kind st fileId data)
    {files : List FileRow} {sent : List (String × FileUpdateNotification)}
    (hfiles : ∀ fileId', (getFileInfo env files fileId').isSome →
      fileId' = fileId ∨ (getFileInfo env st.files fileId').isSome) :
    Coherent env kind ⟨{
      files := files
      fileData := st.putRow kind fileId data
      cache := Function.update st.cache fileId (some data)
      objects := st.putObject kind fileId data
      sent := sent }, Function.update last fileId (some data)⟩ := by
  refine ⟨fun f => ?_, fun f hactive => ?_, fun f d hd => ?_⟩
  · rcases eq_or_ne f fileId with rfl | hne
    · rcases kind <;> simpa [DataStore.tableData, DataStore.putRow, WrittenAlike] using halike
    · rcases kind <;>
        simpa [DataStore.tableData, DataStore.putRow, Function.update_of_ne hne] using h.table f
  · rcases eq_or_ne f fileId with rfl | hne
    · rcases kind
      · simpa [DataStore.fileStorageData, DataStore.tableData, DataStore.putRow,
          WrittenAlike] using halike
      · simp [DataStore.fileStorageData, DataStore.putObject]
    · have hold := h.fileStorage f ((hfiles f hactive).resolve_left hne)
      rcases kind <;>
        simpa [DataStore.fileStorageData, DataStore.tableData, DataStore.putRow,
          DataStore.putObject,
          Function.update_of_ne hne] using hold
  · rcases eq_or_ne f fileId with rfl | hne
    · simpa using hd
    · simp only [Function.update_of_ne hne] at hd ⊢
      exact h.cache f d hd

theorem Coherent.storeFile {i : StoreInputs} {infoFault : Option StorageError} {info : FileInfo}
    (h : Coherent env kind s) (hop : StoresAlike env kind s (.storeFile i infoFault info data)) :
    Coherent env kind (s.step env kind notifier (.storeFile i infoFault info data)) := by
  rw [State.step, DataStore.storeFile]
  rcases infoFault with _ | e
  · rcases hinfo : storeFileInfo env i.now i.nonces info s.store.files with e | ⟨storedId, files⟩
    · rw [storeFileWithUpdateType_of_info_error hinfo]
      exact h
    · have hmeta : info.fileId < 2 ^ 63 ∨
          ∃ r ∈ s.store.files, r.fileId = info.fileId ∧ r.isDeleted = false := by
        obtain ⟨-, ⟨hactive, -⟩ | ⟨-, hlt, -⟩⟩ := storeFileInfo_ok hinfo
        · exact .inr hactive
        · exact .inl hlt
      obtain ⟨hwritten, hfailed⟩ := hop rfl hmeta
      rcases hfault : i.fault with _ | e
      · rw [storeFileWithUpdateType_of_ok hfault hinfo]
        exact h.put (hwritten hfault) fun _ hactive => active_of_storeFileInfo hinfo hactive
      · -- The file is active now, and may not have been.
        rw [storeFileWithUpdateType_of_fault hfault hinfo]
        refine ⟨h.table, fun f hactive => ?_, h.cache⟩
        rcases active_of_storeFileInfo hinfo hactive with rfl | hactive
        · have hlike := (hfailed (by rw [hfault]; simp)).trans (h.table info.fileId)
          rcases kind <;> exact hlike
        · have hold := h.fileStorage f hactive
          rcases kind <;> exact hold
  · exact h

theorem Coherent.storeFileData {fault : Option StorageError} (h : Coherent env kind s)
    (hop : StoresAlike env kind s (.storeFileData fault fileId data)) :
    Coherent env kind (s.step env kind notifier (.storeFileData fault fileId data)) := by
  rcases fault with _ | e
  · obtain ⟨hlt, hcache, hobject⟩ := hop rfl
    change Coherent env kind
      ⟨{ s.store with fileData := Function.update s.store.fileData fileId (some data) },
      Function.update s.last fileId (some data)⟩
    refine ⟨fun f => ?_, fun f hactive => ?_, fun f d hd => ?_⟩
    · rcases eq_or_ne f fileId with rfl | hne
      · simpa [DataStore.tableData] using hlt
      · simpa [DataStore.tableData, Function.update_of_ne hne] using h.table f
    · have hold := h.fileStorage f hactive
      rcases eq_or_ne f fileId with rfl | hne
      · rcases kind
        · simpa [DataStore.fileStorageData, DataStore.tableData] using hlt
        · simpa [DataStore.fileStorageData] using hobject rfl hactive
      · rcases kind <;>
          simpa [DataStore.fileStorageData, DataStore.tableData,
            Function.update_of_ne hne] using hold
    · rcases eq_or_ne f fileId with rfl | hne
      · simp [hcache d hd]
      · simpa [Function.update_of_ne hne] using h.cache f d hd
  · exact h

/-- What a copy does. -/
theorem copyFileData_ok {fault : Option StorageError} {source target : ℕ} {st' : DataStore}
    (h : st.copyFileData kind fault source target = .ok st') :
    ∃ data, fault = none ∧ st.getFileData source = some data ∧ st' = {
      files := st.files
      fileData := st.putRow kind target data
      cache := Function.update st.cache target (some data)
      objects := st.putObject kind target data
      sent := st.sent } := by
  unfold DataStore.copyFileData Store.copyFileData at h
  rcases hdata : st.getFileData source with _ | data
  · rw [hdata] at h
    cases h
  · rw [hdata] at h
    rcases fault with _ | e
    · refine ⟨data, rfl, rfl, ?_⟩
      rcases kind <;> cases h <;> rfl
    · cases h

/-- Restoring a version is copying it: the cache is then written with what it has. -/
theorem restoreFileVersion_eq {fault : Option StorageError} {source target : FileInfo} :
    st.restoreFileVersion kind fault source target =
      st.copyFileData kind fault source.fileId target.fileId := by
  unfold DataStore.restoreFileVersion DataStore.copyFileData Store.restoreFileVersion
  rcases hcopy : st.toStore.copyFileData kind fault source.fileId target.fileId with e | s'
  · rfl
  · have hcache : ∃ data, s'.cache target.fileId = some data := by
      unfold Store.copyFileData at hcopy
      split at hcopy
      next data _ =>
        obtain ⟨s₁, -, h⟩ := bind_eq_ok hcopy
        cases h
        exact ⟨data, Function.update_self ..⟩
      next => cases hcopy
    obtain ⟨data, hdata⟩ := hcache
    have hread : s'.getFileData target.fileId = some data := by rw [Store.getFileData, hdata]
    have hinsert : s'.insertCache target.fileId data = s' := by
      rw [Store.insertCache, ← hdata, Function.update_eq_self]
    change Except.ok _ = Except.ok _
    rw [hread, Option.getD_some, hinsert]

theorem Coherent.recordCopy {fault : Option StorageError} {source target : ℕ}
    (h : Coherent env kind s)
    (hop : fault = none → ∀ data ∈ s.store.getFileData source,
      WrittenAlike kind s.store target data) :
    Coherent env kind
      (s.recordCopy source target (s.store.copyFileData kind fault source target)) := by
  rcases hcopy : s.store.copyFileData kind fault source target with e | st
  · exact h
  · obtain ⟨data, hfault, hdata, rfl⟩ := copyFileData_ok hcopy
    rw [State.recordCopy, hdata]
    exact h.put (hop hfault data hdata) fun _ hactive => .inr hactive

/-- A deletion changes nothing, or the metadata, and the entry of the cache is removed. -/
theorem deleteFile_cases (env : Env) (notifier : Notifier) (i : StoreInputs) (newFileId fileId : ℕ)
    (st : DataStore) :
    (st.deleteFile env notifier i newFileId fileId).2 = st ∨
      ∃ accountHash files sent,
        CosmicSync.deleteFile env i.now newFileId accountHash fileId st.files = .ok ((), files) ∧
        (st.deleteFile env notifier i newFileId fileId).2 =
          { st with files := files, cache := Function.update st.cache fileId none, sent :=
            sent } := by
  rcases hfound : getFileInfoIncludeDeleted env st.files fileId with _ | ⟨info, isDeleted⟩
  · exact .inl (by simp [DataStore.deleteFile, Store.deleteFile, hfound])
  · rcases isDeleted
    · rcases hdelete :
          CosmicSync.deleteFile env i.now newFileId info.accountHash fileId st.files with
        e | ⟨_, files⟩
      · exact .inl (by simp [DataStore.deleteFile, Store.deleteFile, hfound, hdelete])
      · exact .inr ⟨info.accountHash, files, _, hdelete,
          by simp [DataStore.deleteFile, Store.deleteFile, hfound, hdelete]; rfl⟩
    · exact .inl (by simp [DataStore.deleteFile, Store.deleteFile, hfound])

theorem Coherent.deleteFile {i : StoreInputs} {newFileId : ℕ} (h : Coherent env kind s) :
    Coherent env kind (s.step env kind notifier (.deleteFile i newFileId fileId)) := by
  rw [State.step]
  obtain hsame | ⟨accountHash, files, sent, hdelete, hst⟩ :=
    deleteFile_cases env notifier i newFileId fileId s.store
  · rw [hsame]
    exact h
  · rw [hst]
    refine ⟨h.table, fun f hactive => ?_, fun f d hd => ?_⟩
    · have hold := h.fileStorage f (active_of_deleteFile hdelete hactive)
      rcases kind <;> exact hold
    · rcases eq_or_ne f fileId with rfl | hne
      · simp at hd
      · simp only [Function.update_of_ne hne] at hd
        exact h.cache f d hd

theorem Coherent.getFile (h : Coherent env kind s) :
    Coherent env kind (s.step env kind notifier (.getFile fileId)) := by
  rw [State.step, DataStore.getFile]
  split
  next => exact h
  next info hinfo _ =>
    split
    next data hdata =>
      -- What is read from the file storage of an active file was stored last.
      have hlast := (h.fileStorage fileId (by rw [hinfo]; rfl)).symm.trans hdata
      refine ⟨h.table, fun f hactive => ?_, fun f d hd => ?_⟩
      · have hold := h.fileStorage f hactive
        rcases kind <;> exact hold
      · rcases eq_or_ne f fileId with rfl | hne
        · simp only [Store.insertCache, Function.update_self] at hd
          exact hlast.trans hd
        · simp only [Store.insertCache, Function.update_of_ne hne] at hd
          exact h.cache f d hd
    next => exact h
  next => exact h

theorem Coherent.step {o : Op} (ho : StoresAlike env kind s o) (h : Coherent env kind s) :
    Coherent env kind (s.step env kind notifier o) := by
  rcases o with ⟨i, infoFault, info, data⟩ | ⟨fault, fileId, data⟩ | ⟨fault, source, target⟩ |
    ⟨fault, source, target⟩ | ⟨i, newFileId, fileId⟩ | fileId | fileId | _
  case storeFile => exact h.storeFile ho
  case storeFileData => exact h.storeFileData ho
  case copyFileData => exact h.recordCopy ho
  case restoreFileVersion =>
    rw [State.step, restoreFileVersion_eq]
    exact h.recordCopy ho
  case deleteFile => exact h.deleteFile
  case getFile => exact h.getFile
  case getFileData => exact h
  case restart => exact h.dropCache

/-- In every run whose stores leave the places alike, the reads return the bytes stored
    last, whatever is in the cache. -/
theorem returnsLast_run {ops : List Op} (hs : ReturnsLast env kind s)
    (h : Guarded (State.step env kind notifier) (StoresAlike env kind) s ops) :
    ReturnsLast env kind (run (State.step env kind notifier) s ops) :=
  returnsLast_iff.2 (h.invariant (fun _ _ => Coherent.step) (returnsLast_iff.1 hs))

end

/-- Nothing is stored. -/
def State.init : State := ⟨.empty, fun _ => none⟩

theorem returnsLast_init : ReturnsLast .plain .database .init :=
  returnsLast_iff.2 ⟨fun _ => by simp [State.init, DataStore.tableData, DataStore.empty],
    fun _ _ => by simp [State.init, DataStore.fileStorageData, DataStore.tableData,
      DataStore.empty],
    fun _ _ h => nomatch h⟩

/-- An upload, a restart, a read that fills the cache, a copy, and a deletion. -/
def sampleOps : List Op :=
  [.storeFile (.sample none) none (sampleInfo 1 0 10) ⟨#[1]⟩, .restart, .getFile 1,
    .copyFileData none 1 2, .storeFileData none 3 ⟨#[3]⟩, .deleteFile (.sample none) 4 1,
      .getFileData 1]

theorem returnsLast_sampleOps :
    ReturnsLast .plain .database
      (run (State.step .plain .database ⟨none, fun _ => none⟩) .init sampleOps) :=
  returnsLast_run returnsLast_init (by decide)

/-- Data that is stored for an uploaded file is not read back: the cache has the old. -/
theorem cache_hides_stored :
    ¬ReturnsLast .plain .database
      (run (State.step .plain .database ⟨none, fun _ => none⟩) .init
        [.storeFile (.sample none) none (sampleInfo 1 0 10) ⟨#[1]⟩,
          .storeFileData none 1 ⟨#[2]⟩]) := by
  intro h
  exact absurd (h.1.getFileData 1) (by decide)

end FileData

end CosmicSync
