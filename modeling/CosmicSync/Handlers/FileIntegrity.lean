import CosmicSync.Handlers.FileRequests

/-!
# What a download delivers

A download reads the row of the file and then its data, and an upload writes them in the same
order, as does a restoration; deletions, passes of the retention task and restarts come in
between. All the same, the hash and the data that a download delivers are those of one upload.

With the objects in S3 there is an exception: a restoration that finds its data in the cache
reads it a second time, and takes it to be empty if it has gone from the cache by then.

* `downloaded_run`: what a download delivers, in every interleaving.
* `stored_run`: a file that has a row has its data, unless its upload is still to write it, or
  has failed.
-/

namespace CosmicSync

open Table Run

namespace FileRequests

/-! ## Uploads -/

/-- An upload has come that draws this file id. -/
def Uploads (ops : List Op) (fileId : ℕ) (req : UploadFileRequest) : Prop :=
  ∃ draws auth, .start (.upload draws auth req) ∈ ops ∧
    Crypto.generateFileId draws.fileIdValue = fileId

/-- Different uploads draw different ids. -/
def DrawnOnce (U : ℕ → UploadFileRequest → Prop) : Prop :=
  ∀ fileId req req', U fileId req → U fileId req' → req = req'

section

variable (kind : FileStorageKind) (U : ℕ → UploadFileRequest → Prop)

/-- The data is that of the upload of the file. -/
def IsData (fileId : ℕ) (data : ByteArray) : Prop :=
  ∃ req, U fileId req ∧ (data = req.fileData.1 ∨ (kind = .s3 ∧ data = .empty))

/-- Hash and size are those of the upload of the file. -/
def IsInfo (fileId : ℕ) (fileHash : String) (size : ℤ) : Prop :=
  ∀ req, U fileId req → fileHash = req.fileHash ∧ size = req.fileSize

/-- What is stored is what was uploaded. -/
structure Stored (s : AppState) : Prop where
  files : ∀ r ∈ s.files, IsInfo U r.fileId r.fileHash r.size
  fileData : ∀ fileId data, s.fileData fileId = some data → IsData kind U fileId data
  cache : ∀ fileId data, s.cache fileId = some data → IsData kind U fileId data

/-- The data is in the database, if it is to be there. -/
def Present (s : AppState) (fileId : ℕ) : Prop := kind = .database → s.fileData fileId ≠ none

/-- A download tells the hash, the size and the data of one upload. Where the driver refuses the
    size, it is 0. -/
def Delivers (env : Env) (fileId : ℕ) (response : DownloadFileResponse) : Prop :=
  ∃ req, U fileId req ∧ response.fileHash = req.fileHash ∧
    response.fileSize = (env.driver.unsigned req.fileSize).getD 0 ∧
    (response.fileData = req.fileData.1 ∨ (kind = .s3 ∧ response.fileData = .empty))

/-- The file info is that of the upload. -/
def IsUpload (draws : UploadInputs) (req : UploadFileRequest) (info : FileInfo) : Prop :=
  info.fileId = Crypto.generateFileId draws.fileIdValue ∧ U info.fileId req ∧
    info.fileHash = req.fileHash ∧ info.size = req.fileSize ∧ req.fileSize < 2 ^ 63

/-- The version has the hash and the size of the upload of its file. -/
def IsVersion (restored : SyncFile) : Prop :=
  IsInfo U restored.fileId restored.fileHash restored.fileSize

def Writer.Outline : Writer → Prop
  | .upload draws req info => IsUpload U draws req info
  | .restore restored data => IsVersion U restored ∧ IsData kind U restored.fileId data

def Reader.Outline (env : Env) (s : AppState) : Reader → Prop
  | .download req info _ => ∀ up, U req.fileId up → info.fileHash = up.fileHash ∧
      info.size = (env.driver.unsigned up.fileSize).getD 0
  | .copy restored => IsVersion U restored
  | .reread restored => IsVersion U restored ∧ (∃ req, U restored.fileId req) ∧
      Present kind s restored.fileId

/-- What a request knows, at each of its statements. -/
def Pc.Outline (env : Env) (s : AppState) : Pc → Prop
  | .upload draws _ req => U (Crypto.generateFileId draws.fileIdValue) req
  | .storeFileInfo draws req info => IsUpload U draws req info
  | .storeFileData w => w.Outline kind U
  | .writeFileData w rowExists => w.Outline kind U ∧ (rowExists = true → Present kind s w.fileId)
  | .insertCache w => w.Outline kind U ∧ Present kind s w.fileId
  | .accountKey req info => Reader.Outline kind U env s (.download req info none)
  | .lookupCache rd | .selectFileData rd => rd.Outline kind U env s
  | .fileHistory _ target => IsVersion U target
  | .recache restored data => IsVersion U restored ∧ IsData kind U restored.fileId data ∧
      Present kind s restored.fileId
  | .selectKeyId restored | .insertVersion restored _ =>
    IsVersion U restored ∧ Present kind s restored.fileId
  | .answered (.upload draws req response) =>
    response.success = true → U (Crypto.generateFileId draws.fileIdValue) req ∧
      Present kind s (Crypto.generateFileId draws.fileIdValue)
  | .answered (.download req response) =>
    response.success = true → Delivers kind U env req.fileId response
  | _ => True

end

section

variable {kind : FileStorageKind} {U : ℕ → UploadFileRequest → Prop} {env : Env} {s s' : AppState}
  {i : Inputs} {pc pc' : Pc} {fileId : ℕ} {draws : UploadInputs} {req : UploadFileRequest}
  {info : FileInfo} {restored : SyncFile} {data : ByteArray}

/-! ## What statements leave alone -/

theorem cache_exec (hinsert : ∀ w, pc ≠ .insertCache w)
    (hremove : ∀ fileId, pc ≠ .removeCache fileId)
    (hrecache : ∀ restored data, pc ≠ .recache restored data) (hrestart : pc ≠ .restart) :
    (exec env kind s i pc).1.cache = s.cache := by
  cases pc <;> dsimp only [exec] <;> (repeat' split) <;> first
    | rfl
    | exact absurd rfl (hinsert _)
    | exact absurd rfl (hremove _)
    | exact absurd rfl (hrecache _ _)
    | exact absurd rfl hrestart

/-- What a statement does to the table of data: it writes the row of one file, and no row goes. -/
theorem fileData_exec_cases :
    (exec env kind s i pc).1.fileData = s.fileData ∨
      ∃ w rowExists row, pc = .writeFileData w rowExists ∧
        (exec env kind s i pc).1.fileData = Function.update s.fileData w.fileId row ∧
        (∀ data ∈ row, data = w.data) ∧ (s.fileData w.fileId ≠ none ∨ rowExists = false →
          row ≠ none) := by
  cases pc with
  | writeFileData w rowExists =>
    dsimp only [exec]
    split
    next => exact .inl rfl
    next =>
      refine .inr ⟨w, rowExists, _, rfl, rfl, ?_, ?_⟩
      · intro data hdata
        split at hdata
        next =>
          obtain ⟨-, -, rfl⟩ := Option.map_eq_some_iff.1 hdata
          rfl
        next => exact (Option.some.inj hdata).symm
      · rintro (hrow | rfl)
        · split
          next => exact fun hnone => hrow (Option.map_eq_none_iff.1 hnone)
          next => exact Option.some_ne_none _
        · exact Option.some_ne_none _
  | _ => exact .inl (by dsimp only [exec] <;> (repeat' split) <;> rfl)

/-- What a statement does to the table of files. -/
theorem files_exec_cases :
    (exec env kind s i pc).1.files = s.files ∨
      (∃ draws req info id files, pc = .storeFileInfo draws req info ∧
        CosmicSync.storeFileInfo env i.now i.nonces info s.files = .ok (id, files) ∧
        exec env kind s i pc =
          ({ s with files := files }, .storeFileData (.upload draws req info))) ∨
      (∃ accountHash fileId files, pc = .deleteFile accountHash fileId ∧
        CosmicSync.deleteFile env i.now i.newFileId accountHash fileId s.files = .ok ((), files) ∧
        (exec env kind s i pc).1.files = files) ∨
      (∃ restored keyId, pc = .insertVersion restored keyId ∧
        (exec env kind s i pc).1.files = s.files ++ [versionRow restored keyId]) ∨
      (∃ maxRevisions, pc = .trimOldRevisions maxRevisions ∧
        (exec env kind s i pc).1.files = CosmicSync.trimOldRevisions maxRevisions s.files) ∨
      ∃ ttlSecs, pc = .purgeDeletedFiles ttlSecs ∧
        (exec env kind s i pc).1.files = purgeDeletedFilesOlderThan i.now ttlSecs s.files := by
  cases pc with
  | storeFileInfo draws req info =>
    dsimp only [exec]
    split
    next => exact .inl rfl
    next =>
      split
      next => exact .inl rfl
      next id files hfiles => exact .inr (.inl ⟨draws, req, info, id, files, rfl, hfiles, rfl⟩)
  | deleteFile accountHash fileId =>
    dsimp only [exec]
    split
    next => exact .inl rfl
    next =>
      split
      next => exact .inl rfl
      next files hfiles =>
        exact .inr (.inr (.inl ⟨accountHash, fileId, files, rfl, hfiles, rfl⟩))
  | insertVersion restored keyId =>
    dsimp only [exec]
    split
    next => exact .inl rfl
    next => exact .inr (.inr (.inr (.inl ⟨restored, keyId, rfl, rfl⟩)))
  | trimOldRevisions maxRevisions =>
    dsimp only [exec]
    split
    next => exact .inl rfl
    next => exact .inr (.inr (.inr (.inr (.inl ⟨maxRevisions, rfl, rfl⟩))))
  | purgeDeletedFiles ttlSecs =>
    dsimp only [exec]
    split
    next => exact .inl rfl
    next => exact .inr (.inr (.inr (.inr (.inr ⟨ttlSecs, rfl, rfl⟩))))
  | _ => exact .inl (by dsimp only [exec] <;> (repeat' split) <;> rfl)

/-! ## What is stored -/

/-- What a row tells of the data: the file id, the hash and the size. -/
def content (r : FileRow) : ℕ × String × ℤ := (r.fileId, r.fileHash, r.size)

theorem content_markDeleted {t : List FileRow} {p : FileRow → Prop} [DecidablePred p] {r : FileRow}
    (hr : r ∈ markDeleted p t) : ∃ r₀ ∈ t, content r₀ = content r := by
  obtain ⟨hr, -⟩ | ⟨r₀, hr₀, -, rfl⟩ := mem_markDeleted hr
  · exact ⟨r, hr, rfl⟩
  · exact ⟨r₀, hr₀, rfl⟩

/-- After an upload, a row tells what it did, or what the upload says of its id. -/
theorem content_storeFileInfo {t t' : List FileRow} {now : ℤ} {nonces : Nonce × Nonce} {id : ℕ}
    (h : CosmicSync.storeFileInfo env now nonces info t = .ok (id, t')) {r : FileRow}
    (hr : r ∈ t') :
    (∃ r₀ ∈ t, content r₀ = content r) ∨
      content r = (info.fileId, info.fileHash, asI64 info.size) := by
  obtain ⟨-, ⟨-, rfl⟩ | ⟨-, -, rfl⟩⟩ := storeFileInfo_ok h
  · obtain ⟨hr, -⟩ | ⟨r₀, -, hid, rfl⟩ := mem_updateWhere_cases hr
    · exact .inl ⟨r, hr, rfl⟩
    · refine .inr ?_
      dsimp only [content, FileRow.overwrite]
      rw [hid]
  · rcases List.mem_append.1 hr with hr | hr
    · -- Retiring changes the mark only.
      have hcontent : content r ∈ (retire env.planner info.logical t).map content :=
        List.mem_map_of_mem hr
      rw [map_retire fun _ => rfl] at hcontent
      obtain ⟨r₀, hr₀, heq⟩ := List.mem_map.1 hcontent
      exact .inl ⟨r₀, hr₀, heq⟩
    · rw [List.mem_singleton.1 hr]
      exact .inr (by dsimp only [content, Env.newRow])

/-- After a deletion, a row tells what it did, or is the tombstone. -/
theorem content_deleteFile {t t' : List FileRow} {now : ℤ} {newFileId : ℕ} {accountHash : String}
    (h : CosmicSync.deleteFile env now newFileId accountHash fileId t = .ok ((), t'))
    {r : FileRow} (hr : r ∈ t') :
    (∃ r₀ ∈ t, content r₀ = content r) ∨ r.fileId = newFileId := by
  obtain ⟨r₀, filePath, filename, -, -, -, rfl⟩ := deleteFile_ok h
  have hfinish : ∃ r₁ ∈ markDeleted (fun f => f.logicalByGroup = r₀.logicalByGroup)
      (markDeleted (fun f => f.fileId = fileId) t) ++
        [insertedTombstone now newFileId accountHash filePath filename r₀],
      content r₁ = content r := by
    obtain ⟨hr, -⟩ | ⟨r₁, hr₁, -, rfl⟩ := mem_updateWhere_cases hr
    · exact ⟨r, hr, rfl⟩
    · exact ⟨r₁, hr₁, rfl⟩
  obtain ⟨r₁, hr₁, heq⟩ := hfinish
  rcases List.mem_append.1 hr₁ with hr₁ | hr₁
  · obtain ⟨r₂, hr₂, heq₂⟩ := content_markDeleted hr₁
    obtain ⟨r₃, hr₃, heq₃⟩ := content_markDeleted hr₂
    exact .inl ⟨r₃, hr₃, heq₃.trans (heq₂.trans heq)⟩
  · rw [List.mem_singleton.1 hr₁] at heq
    exact .inr (congrArg Prod.fst heq).symm

/-- After a statement, a row tells what it did; or an upload has stored it, a deletion, or a
    restoration. -/
theorem content_exec {r : FileRow} (hr : r ∈ (exec env kind s i pc).1.files) :
    (∃ r₀ ∈ s.files, content r₀ = content r) ∨
      (∃ draws req info, pc = .storeFileInfo draws req info ∧
        (exec env kind s i pc).2 = .storeFileData (.upload draws req info) ∧
        content r = (info.fileId, info.fileHash, asI64 info.size)) ∨
      r.fileId = i.newFileId ∨
      ∃ restored keyId, pc = .insertVersion restored keyId ∧
        content r = (restored.fileId, restored.fileHash, restored.fileSize) := by
  have hcases := @files_exec_cases kind env s i pc
  obtain heq | ⟨draws, req, info, id, files, rfl, hfiles, heq⟩ | ⟨accountHash, fileId, files, rfl,
    hfiles, heq⟩ | ⟨restored, keyId, rfl, heq⟩ | ⟨maxRevisions, rfl, heq⟩ | ⟨ttlSecs, rfl, heq⟩ :=
      hcases
  · exact .inl ⟨r, heq ▸ hr, rfl⟩
  · rw [heq] at hr
    rcases content_storeFileInfo hfiles hr with h | h
    · exact .inl h
    · exact .inr (.inl ⟨draws, req, info, rfl, by rw [heq], h⟩)
  · rw [heq] at hr
    rcases content_deleteFile hfiles hr with h | h
    · exact .inl h
    · exact .inr (.inr (.inl h))
  · rw [heq] at hr
    rcases List.mem_append.1 hr with hr | hr
    · exact .inl ⟨r, hr, rfl⟩
    · rw [List.mem_singleton.1 hr]
      exact .inr (.inr (.inr ⟨restored, keyId, rfl, rfl⟩))
  · rw [heq] at hr
    exact .inl (content_markDeleted hr)
  · rw [heq] at hr
    exact .inl ⟨r, (mem_deleteWhere.1 hr).1, rfl⟩

theorem isInfo_of_content {r : FileRow} {fileHash : String} {size : ℤ}
    (h : IsInfo U fileId fileHash size) (heq : content r = (fileId, fileHash, size)) :
    IsInfo U r.fileId r.fileHash r.size := by
  obtain ⟨rfl, rfl, rfl⟩ : r.fileId = fileId ∧ r.fileHash = fileHash ∧ r.size = size := by
    simpa [content] using heq
  exact h

theorem IsUpload.isInfo (h : IsUpload U draws req info) (hdrawn : DrawnOnce U) :
    IsInfo U info.fileId info.fileHash (asI64 info.size) := by
  obtain ⟨-, hU, hhash, hsize, hlt⟩ := h
  intro req' hreq'
  obtain rfl := hdrawn _ _ _ hU hreq'
  exact ⟨hhash, by rw [hsize, asI64_of_lt hlt]⟩

theorem Writer.Outline.isData {w : Writer} (h : w.Outline kind U) :
    IsData kind U w.fileId w.data := by
  cases w with
  | upload draws req info => exact ⟨req, h.2.1, .inl rfl⟩
  | restore restored data => exact h.2

theorem Stored.files_exec (hs : Stored kind U s) (hpc : pc.Outline kind U env s)
    (hnew : ∀ req, ¬U i.newFileId req) (hdrawn : DrawnOnce U) :
    ∀ r ∈ (exec env kind s i pc).1.files, IsInfo U r.fileId r.fileHash r.size := by
  intro r hr
  obtain ⟨r₀, hr₀, heq⟩ | ⟨draws, req, info, rfl, -, heq⟩ | hid | ⟨restored, keyId, rfl, heq⟩ :=
    content_exec hr
  · exact isInfo_of_content (hs.files r₀ hr₀) heq.symm
  · exact isInfo_of_content (IsUpload.isInfo hpc hdrawn) heq
  · exact fun req hreq => absurd (hid ▸ hreq) (hnew req)
  · exact isInfo_of_content hpc.1 heq

theorem isData_update {cache : ℕ → Option ByteArray} {fileId' : ℕ} {cached : Option ByteArray}
    (hcache : ∀ fileId data, cache fileId = some data → IsData kind U fileId data)
    (hcached : ∀ data ∈ cached, IsData kind U fileId' data)
    (h : Function.update cache fileId' cached fileId = some data) : IsData kind U fileId data := by
  by_cases hid : fileId = fileId'
  · subst hid
    rw [Function.update_self] at h
    exact hcached data h
  · rw [Function.update_of_ne hid] at h
    exact hcache fileId data h

theorem Stored.fileData_exec (hs : Stored kind U s) (hpc : pc.Outline kind U env s)
    (h : (exec env kind s i pc).1.fileData fileId = some data) : IsData kind U fileId data := by
  have hcases := @fileData_exec_cases kind env s i pc
  obtain heq | ⟨w, rowExists, row, rfl, heq, hrow, -⟩ := hcases
  · exact hs.fileData fileId data (heq ▸ h)
  · rw [heq] at h
    exact isData_update hs.fileData (fun data hdata => hrow data hdata ▸ hpc.1.isData) h

theorem Stored.cache_exec (hs : Stored kind U s) (hpc : pc.Outline kind U env s)
    (h : (exec env kind s i pc).1.cache fileId = some data) : IsData kind U fileId data := by
  cases pc with
  | insertCache w =>
    exact isData_update hs.cache (fun data hdata => Option.some.inj hdata ▸ hpc.1.isData) h
  | removeCache fileId' => exact isData_update hs.cache (fun data hdata => by cases hdata) h
  | recache restored data' =>
    exact isData_update hs.cache (fun data hdata => Option.some.inj hdata ▸ hpc.2.1) h
  | restart => cases h
  | _ =>
    rw [FileRequests.cache_exec (by simp) (by simp) (by simp) (by simp)] at h
    exact hs.cache fileId data h

/-- Data that is in the database stays there. -/
theorem Present.exec (h : Present kind s fileId) :
    Present kind (exec env kind s i pc).1 fileId := by
  intro hkind
  have hcases := @fileData_exec_cases kind env s i pc
  obtain heq | ⟨w, rowExists, row, rfl, heq, -, hrow⟩ := hcases
  · exact heq ▸ h hkind
  · rw [heq]
    by_cases hid : fileId = w.fileId
    · subst hid
      rw [Function.update_self]
      exact hrow (.inl (h hkind))
    · rw [Function.update_of_ne hid]
      exact h hkind

/-! ## What the requests know -/

/-- What a request knows stays so, if no data goes from the database. -/
theorem Pc.Outline.mono (h : pc.Outline kind U env s)
    (hpresent : ∀ fileId, Present kind s fileId → Present kind s' fileId) :
    pc.Outline kind U env s' := by
  cases pc with
  | writeFileData w rowExists => exact ⟨h.1, fun hrow => hpresent _ (h.2 hrow)⟩
  | insertCache w => exact ⟨h.1, hpresent _ h.2⟩
  | lookupCache rd | selectFileData rd =>
    cases rd with
    | download | copy => exact h
    | reread restored => exact ⟨h.1, h.2.1, hpresent _ h.2.2⟩
  | recache restored data => exact ⟨h.1, h.2.1, hpresent _ h.2.2⟩
  | selectKeyId restored | insertVersion restored => exact ⟨h.1, hpresent _ h.2⟩
  | answered answer =>
    cases answer with
    | upload draws req response => exact fun hok => ⟨(h hok).1, hpresent _ (h hok).2⟩
    | download req response => exact h
    | _ => trivial
  | _ => exact h

theorem Writer.outline_failed {w : Writer} {e : StorageError} :
    (w.failed e).Outline kind U env s := by
  cases w with
  | upload => exact fun h => absurd h Bool.false_ne_true
  | restore => trivial

theorem Reader.outline_failed {rd : Reader} {e : StorageError} :
    (rd.failed e).Outline kind U env s := by
  cases rd with
  | download => exact fun h => absurd h Bool.false_ne_true
  | copy | reread => trivial

/-- What becomes of data that was read: it is that of the upload. -/
theorem Reader.Outline.read {rd : Reader} {nonces : Nonce × Nonce} {found : Option ByteArray}
    (h : rd.Outline kind U env s) (hfound : ∀ data ∈ found, IsData kind U rd.fileId data)
    (hnone : found = none → ∀ req, U rd.fileId req → s.fileData rd.fileId = none) :
    (rd.read env nonces found).Outline kind U env s := by
  cases rd with
  | download req info accountKey =>
    cases found with
    | none => exact fun h => absurd h Bool.false_ne_true
    | some data =>
      obtain ⟨up, hup, hdata⟩ := hfound data rfl
      exact fun _ => ⟨up, hup, (h up hup).1, (h up hup).2, hdata⟩
  | copy restored =>
    cases found with
    | none => trivial
    | some data => exact ⟨h, hfound data rfl⟩
  | reread restored =>
    obtain ⟨hversion, ⟨req, hU⟩, hpresent⟩ := h
    refine ⟨hversion, ?_, hpresent⟩
    cases found with
    | some data => exact hfound data rfl
    | none =>
      cases kind with
      | database => exact absurd (hnone rfl req hU) (hpresent rfl)
      | s3 => exact ⟨req, hU, .inr ⟨rfl, rfl⟩⟩

/-- An upload that is prepared. -/
theorem isUpload_of_prepareUpload {auth : Option VerificationResult} {tables : WatcherTables}
    (hU : U (Crypto.generateFileId draws.fileIdValue) req)
    (h : prepareUpload env draws auth req s = .ok (info, tables)) : IsUpload U draws req info := by
  obtain ⟨hsize, accountHash, watcherId, -, rfl⟩ := prepareUpload_ok h
  exact ⟨rfl, hU, rfl, rfl, hsize ▸ req.fileData.2⟩

theorem Stored.getFileInfo (hs : Stored kind U s) (h : getFileInfo env s.files fileId = some info) :
    ∀ up, U fileId up → info.fileHash = up.fileHash ∧
      info.size = (env.driver.unsigned up.fileSize).getD 0 := by
  obtain ⟨r, hr, rfl⟩ := Option.map_eq_some_iff.1 h
  obtain ⟨hmem, rfl, -⟩ := fetchOptional_some hr
  intro up hup
  obtain ⟨hhash, hsize⟩ := hs.files r hmem up hup
  exact ⟨hhash, by rw [← hsize]; rfl⟩

theorem Stored.getFileByRevision (hs : Stored kind U s) {accountHash : String} {revision : ℤ}
    {target : SyncFile}
    (h : getFileByRevision env s.files accountHash fileId revision = .ok target) :
    IsVersion U target := by
  unfold CosmicSync.getFileByRevision at h
  split at h
  next r hr =>
    cases h
    exact hs.files r (fetchOptional_some hr).1
  next => cases h

/-- What a request knows after its next statement. -/
theorem Stored.outline_exec (hs : Stored kind U s) (hpc : pc.Outline kind U env s)
    (hbound : ∀ fileId req, U fileId req → fileId < 2 ^ 63) :
    (exec env kind s i pc).2.Outline kind U env (exec env kind s i pc).1 := by
  cases pc with
  | upload draws auth req =>
    dsimp only [exec]
    split
    next => exact fun h => absurd h Bool.false_ne_true
    next info tables hprepare => exact isUpload_of_prepareUpload hpc hprepare
  | storeFileInfo draws req info =>
    dsimp only [exec]
    split
    next => exact fun h => absurd h Bool.false_ne_true
    next =>
      split
      next => exact fun h => absurd h Bool.false_ne_true
      next => exact hpc
  | storeFileData w =>
    dsimp only [exec]
    split
    next => exact Writer.outline_failed
    next => exact ⟨hpc, fun hrow _ => Option.isSome_iff_ne_none.1 hrow⟩
    next => exact ⟨hpc, fun hkind => by cases hkind⟩
  | writeFileData w rowExists =>
    dsimp only [exec]
    split
    next => exact Writer.outline_failed
    next =>
      refine ⟨hpc.1, fun hkind => ?_⟩
      dsimp only
      rw [Function.update_self]
      split
      next hrow => exact fun hnone => hpc.2 hrow hkind (Option.map_eq_none_iff.1 hnone)
      next => exact Option.some_ne_none _
  | insertCache w =>
    cases w with
    | upload draws req info =>
      obtain ⟨⟨hid, hU, -⟩, hpresent⟩ := hpc
      exact fun _ => ⟨hid ▸ hU, hid ▸ hpresent⟩
    | restore restored data =>
      obtain ⟨⟨hversion, req, hU, -⟩, hpresent⟩ := hpc
      exact ⟨hversion, ⟨req, hU⟩, hpresent⟩
  | download auth req =>
    dsimp only [exec]
    split
    next => exact fun h => absurd h Bool.false_ne_true
    next => exact fun h => absurd h Bool.false_ne_true
    next =>
      split
      next => exact fun h => absurd h Bool.false_ne_true
      next info hinfo => exact hs.getFileInfo hinfo
  | accountKey req info =>
    dsimp only [exec]
    split <;> exact hpc
  | lookupCache rd =>
    dsimp only [exec]
    split
    next data hdata =>
      refine Reader.Outline.read hpc (fun data' hdata' => ?_)
        fun hnone => absurd hnone (Option.some_ne_none _)
      exact Option.some.inj hdata' ▸ hs.cache _ _ hdata
    next => exact hpc
  | selectFileData rd =>
    dsimp only [exec]
    split
    next => exact Reader.outline_failed
    next =>
      refine Reader.Outline.read hpc (fun data hdata => ?_) fun hnone req hU => ?_
      · split at hdata
        next => exact hs.fileData _ _ hdata
        next => cases hdata
      · rwa [if_pos (hbound _ _ hU)] at hnone
  | restore auth req =>
    dsimp only [exec]
    split
    next => trivial
    next =>
      split_ifs
      any_goals trivial
      split
      next => trivial
      next =>
        split
        next => trivial
        next target htarget => exact hs.getFileByRevision htarget
  | fileHistory req target =>
    dsimp only [exec]
    split
    next => trivial
    next => exact hpc
  | recache restored data => exact ⟨hpc.1, hpc.2.2⟩
  | selectKeyId restored =>
    dsimp only [exec]
    split
    next => trivial
    next => exact hpc
  | answered answer => exact hpc
  | _ =>
    dsimp only [exec]
    (repeat' split) <;> trivial

/-- The data of a file that is in the database. -/
theorem Stored.getFileData (hs : Stored .database U s) (hdrawn : DrawnOnce U)
    (hbound : ∀ fileId req, U fileId req → fileId < 2 ^ 63) (hU : U fileId req)
    (h : s.fileData fileId ≠ none) : s.getFileData fileId = some req.fileData.1 := by
  have hdata : ∀ data, IsData .database U fileId data → data = req.fileData.1 := by
    rintro data ⟨req', hU', rfl | ⟨hkind, -⟩⟩
    · rw [hdrawn _ _ _ hU' hU]
    · cases hkind
  rw [Store.getFileData]
  cases hcache : s.cache fileId with
  | some data => exact congrArg some (hdata data (hs.cache _ _ hcache))
  | none =>
    obtain ⟨data, hrow⟩ := Option.ne_none_iff_exists'.1 h
    dsimp only
    rw [if_pos (hbound _ _ hU), hrow, hdata data (hs.fileData _ _ hrow)]

/-! ## Who owes data -/

/-- The file has a row, and no data in the database. -/
def Lacks (U : ℕ → UploadFileRequest → Prop) (fileId : ℕ) (s : AppState) : Prop :=
  (∃ r ∈ s.files, r.fileId = fileId) ∧ (∃ req, U fileId req) ∧ s.fileData fileId = none

/-- The upload of the file is still to write its data, or has failed. -/
def Pc.Owes (fileId : ℕ) : Pc → Prop
  | .storeFileData (.upload _ _ info) | .writeFileData (.upload _ _ info) _ => info.fileId = fileId
  | .answered (.upload draws _ response) =>
    response.success = false ∧ Crypto.generateFileId draws.fileIdValue = fileId
  | _ => False

theorem Writer.owes_failed {w : Writer} {e : StorageError} (hw : w.Outline .database U)
    (h : (Pc.storeFileData w).Owes fileId) : (w.failed e).Owes fileId := by
  cases w with
  | upload draws req info => exact ⟨rfl, hw.1.symm.trans h⟩
  | restore => exact h

/-- An upload that owes its data and goes on still owes it, if the data is not there then. -/
theorem owes_exec_of_owes (hpc : pc.Outline .database U env s) (howes : pc.Owes fileId)
    (hdata : (exec env .database s i pc).1.fileData fileId = none) :
    (exec env .database s i pc).2.Owes fileId := by
  cases pc with
  | storeFileData w =>
    dsimp only [exec]
    split
    next => exact Writer.owes_failed hpc howes
    next => cases w <;> exact howes
    next heq => cases heq
  | writeFileData w rowExists =>
    dsimp only [exec] at hdata ⊢
    split
    next => cases w <;> exact Writer.owes_failed hpc.1 howes
    next hfault =>
      rw [hfault] at hdata
      obtain rfl : w.fileId = fileId := by cases w <;> first | exact howes | exact howes.elim
      dsimp only at hdata
      rw [Function.update_self] at hdata
      split at hdata
      next hrow => exact absurd (Option.map_eq_none_iff.1 hdata) (hpc.2 hrow rfl)
      next => cases hdata
  | answered answer => exact howes
  | _ => exact howes.elim

/-- A file that lacks its data after a statement lacked it before, or is that of an upload that
    goes on to write it. -/
theorem owes_exec (hpc : pc.Outline .database U env s) (hnew : ∀ req, ¬U i.newFileId req)
    (h : Lacks U fileId (exec env .database s i pc).1) :
    (exec env .database s i pc).2.Owes fileId ∨ (Lacks U fileId s ∧ ¬pc.Owes fileId) := by
  obtain ⟨⟨r, hr, rfl⟩, ⟨req, hU⟩, hdata⟩ := h
  have hbefore : s.fileData r.fileId = none := by
    by_contra hne
    have hpresent : Present .database s r.fileId := fun _ => hne
    exact hpresent.exec rfl hdata
  obtain ⟨r₀, hr₀, heq⟩ | ⟨draws, req, info, rfl, hnext, heq⟩ | hid | ⟨restored, keyId, rfl, heq⟩ :=
    content_exec hr
  · by_cases howes : pc.Owes r.fileId
    · exact .inl (owes_exec_of_owes hpc howes hdata)
    · exact .inr ⟨⟨⟨r₀, hr₀, congrArg Prod.fst heq⟩, ⟨req, hU⟩, hbefore⟩, howes⟩
  · rw [hnext]
    exact .inl (congrArg Prod.fst heq).symm
  · exact absurd (hid ▸ hU) (hnew req)
  · -- A restoration has found the data, and written it.
    have hid : r.fileId = restored.fileId := congrArg Prod.fst heq
    exact absurd (hid ▸ hbefore) (hpc.2 rfl)

end

/-! ## Runs -/

section

variable {kind : FileStorageKind} {env : Env} {s : AppState} {ops : List Op}

theorem uploads_lt (fileId : ℕ) (req : UploadFileRequest) (h : Uploads ops fileId req) :
    fileId < 2 ^ 63 := by
  obtain ⟨draws, auth, -, rfl⟩ := h
  exact Crypto.generateFileId_lt _

/-- Nothing is stored, and no request has come. -/
def NoFiles (s : AppState) : Prop :=
  s.files = [] ∧ (∀ fileId, s.fileData fileId = none) ∧ ∀ fileId, s.cache fileId = none

theorem NoFiles.stored {U : ℕ → UploadFileRequest → Prop} (h : NoFiles s) : Stored kind U s where
  files r hr := absurd (h.1 ▸ hr) List.not_mem_nil
  fileData fileId data hdata := by cases (h.2.1 fileId).symm.trans hdata
  cache fileId data hdata := by cases (h.2.2 fileId).symm.trans hdata

theorem outline_start {r : Request} (hr : .start r ∈ ops) :
    (Request.start r).Outline kind (Uploads ops) env s := by
  cases r with
  | upload draws auth req => exact ⟨draws, auth, hr, rfl⟩
  | _ => trivial

theorem outlined_exec {U : ℕ → UploadFileRequest → Prop} {i : Inputs} {pc : Pc}
    (hdrawn : DrawnOnce U) (hbound : ∀ fileId req, U fileId req → fileId < 2 ^ 63)
    (hnew : ∀ req, ¬U i.newFileId req) (hs : Stored kind U s) (hpc : pc.Outline kind U env s) :
    Stored kind U (exec env kind s i pc).1 ∧
      (exec env kind s i pc).2.Outline kind U env (exec env kind s i pc).1 :=
  ⟨⟨hs.files_exec hpc hnew hdrawn, fun _ _ => hs.fileData_exec hpc,
    fun _ _ => hs.cache_exec hpc⟩, hs.outline_exec hpc hbound⟩

/-- What is stored, and what the requests know, after every run. -/
theorem outlined_run (hs : NoFiles s) (hdrawn : DrawnOnce (Uploads ops))
    (hnew : ∀ k input, .next k input ∈ ops → ∀ req, ¬Uploads ops input.newFileId req) :
    Interleaving.System.Outlined (Stored kind (Uploads ops))
      (fun s pc => pc.Outline kind (Uploads ops) env s)
      (run (system env kind).step ⟨s, []⟩ ops) :=
  Interleaving.System.outline_run (G := fun i => ∀ req, ¬Uploads ops i.newFileId req)
    (fun _ _ => outline_start) hnew
    (fun _ _ _ hnew hs hpc => outlined_exec hdrawn uploads_lt hnew hs hpc)
    (fun _ _ _ _ _ _ _ hpc' => hpc'.mono fun _ => Present.exec)
    ⟨hs.stored, fun _ hpc => absurd hpc List.not_mem_nil⟩

/-- In every interleaving of uploads, downloads, deletions, restorations, passes of the retention
    task and restarts, whatever fails, a download that succeeds delivers the hash, the size (as
    far as the driver reads it) and the data of one and the same upload, that of its file id: or
    no data, if the objects are in S3. -/
theorem downloaded_run (hs : NoFiles s) (hdrawn : DrawnOnce (Uploads ops))
    (hnew : ∀ k input, .next k input ∈ ops → ∀ req, ¬Uploads ops input.newFileId req)
    {req : DownloadFileRequest} {response : DownloadFileResponse}
    (h : .answered (.download req response) ∈ (run (system env kind).step ⟨s, []⟩ ops).requests)
    (hok : response.success = true) : Delivers kind (Uploads ops) env req.fileId response :=
  (outlined_run hs hdrawn hnew).2 _ h hok

/-- A statement that does not fail, at the time 20. -/
def sampleInputs : Inputs where
  fault := none
  now := 20
  uploadTime := ⟨20, 0⟩
  lastUpdated := ⟨20, 0⟩
  nonces := (Crypto.nonceSample 5, Crypto.nonceSample 6)
  newFileId := 9

/-- An upload of the file 7. -/
def sampleUploadOps : List Op :=
  .start (.upload sampleUploadInputs sampleAuth (sampleUploadRequest false 0)) ::
    List.replicate 5 (.next 0 sampleInputs)

/-- The upload, a restart, and a download. -/
def sampleDownloadOps : List Op :=
  sampleUploadOps ++ [.start .restart, .next 1 sampleInputs,
    .start (.download sampleAuth ⟨"alice", "e", 1, 1, 7, 0⟩), .next 2 sampleInputs,
    .next 2 sampleInputs, .next 2 sampleInputs, .next 2 sampleInputs]

/-- The run has the one upload. -/
theorem uploads_iff_of_sample {rest : List Op}
    (hrest : ∀ draws auth req, .start (.upload draws auth req) ∉ rest) {fileId : ℕ}
    {req : UploadFileRequest} :
    Uploads (sampleUploadOps ++ rest) fileId req ↔
      fileId = 7 ∧ req = sampleUploadRequest false 0 := by
  constructor
  · rintro ⟨draws, auth, h, rfl⟩
    rcases List.mem_append.1 h with h | h
    · rcases List.mem_cons.1 h with h | h
      · cases h
        exact ⟨rfl, rfl⟩
      · cases List.eq_of_mem_replicate h
    · exact absurd h (hrest draws auth req)
  · rintro ⟨rfl, rfl⟩
    exact ⟨sampleUploadInputs, sampleAuth, List.mem_append_left _ List.mem_cons_self, rfl⟩

theorem drawnOnce_sampleDownloadOps : DrawnOnce (Uploads sampleDownloadOps) := by
  intro fileId req req' h h'
  rw [sampleDownloadOps, uploads_iff_of_sample (by simp)] at h h'
  exact h.2.trans h'.2.symm

theorem newFileId_sampleDownloadOps (k : ℕ) (input : Inputs)
    (hinput : .next k input ∈ sampleDownloadOps) (req : UploadFileRequest) :
    ¬Uploads sampleDownloadOps input.newFileId req := by
  intro h
  rw [sampleDownloadOps, uploads_iff_of_sample (by simp)] at h
  have hall : ∀ o ∈ sampleDownloadOps, ∀ k input, o = .next k input → input.newFileId = 9 := by
    simp [sampleDownloadOps, sampleUploadOps, sampleInputs]
  rw [hall _ hinput k input rfl] at h
  exact absurd h.1 (by decide)

/-- A request was told what `p` asks for. -/
def Pc.wasTold (p : Answer → Bool) : Pc → Bool
  | .answered answer => p answer
  | _ => false

theorem exists_of_wasTold {requests : List Pc} {p : Answer → Bool}
    (h : requests.any (Pc.wasTold p) = true) :
    ∃ answer, .answered answer ∈ requests ∧ p answer := by
  obtain ⟨pc, hpc, htold⟩ := List.any_eq_true.1 h
  cases pc with
  | answered answer => exact ⟨answer, hpc, htold⟩
  | _ => cases htold

/-- A download of the file 7 has succeeded. -/
def Answer.isDownload : Answer → Bool
  | download req response => response.success && req.fileId = 7
  | _ => false

/-- The upload has succeeded. -/
def Answer.isUpload : Answer → Bool
  | upload draws req response =>
    response.success && draws.fileIdValue = 7 && req.fileData.1 = ⟨#[42]⟩
  | _ => false

theorem delivered_sampleDownloadOps :
    ∃ req response, .answered (.download req response) ∈
        (run (system .plain .database).step ⟨.empty, []⟩ sampleDownloadOps).requests ∧
      req.fileId = 7 ∧
      Delivers .database (Uploads sampleDownloadOps) .plain req.fileId response := by
  have hsample : (run (system .plain .database).step ⟨.empty, []⟩ sampleDownloadOps).requests.any
      (Pc.wasTold Answer.isDownload) = true := by decide +kernel
  obtain ⟨answer, hanswer, htold⟩ := exists_of_wasTold hsample
  cases answer with
  | download req response =>
    obtain ⟨hok, hid⟩ := Bool.and_eq_true_iff.1 htold
    exact ⟨req, response, hanswer, of_decide_eq_true hid, downloaded_run
      ⟨rfl, fun _ => rfl, fun _ => rfl⟩ drawnOnce_sampleDownloadOps newFileId_sampleDownloadOps
      hanswer hok⟩
  | _ => cases htold

/-- The file is restored, and deleted between the two reads of the restoration. -/
def sampleRestoreOps : List Op :=
  sampleUploadOps ++ .start (.restore sampleAuth ⟨"alice", "d", 7, 1, false⟩) ::
    List.replicate 5 (.next 1 sampleInputs) ++
      .start (.delete sampleAuth ⟨"alice", "d", "a.txt", "~/a.txt", 7, 1, 1, 1⟩) ::
        List.replicate 4 (.next 2 sampleInputs) ++ List.replicate 5 (.next 1 sampleInputs) ++
          .start (.download sampleAuth ⟨"alice", "e", 1, 1, 7, 0⟩) ::
            List.replicate 4 (.next 3 sampleInputs)

/-- A download of the file 7 has succeeded, and delivered nothing. -/
def Answer.isEmpty : Answer → Bool
  | download req response =>
    response.success && req.fileId = 7 && response.fileData = .empty
  | _ => false

-- The data is in the cache only, and the deletion takes it away.
example : (run (system .plain .s3).step ⟨.empty, []⟩ sampleRestoreOps).requests.any
    (Pc.wasTold Answer.isEmpty) = true := by decide +kernel

/-- With the data in the database, in every such interleaving: the data of an upload that was
    accepted is there, and stays; and so is that of every file that has a row, unless its upload
    is still to write it, or was answered with an error. -/
theorem stored_run (hs : NoFiles s) (hdrawn : DrawnOnce (Uploads ops))
    (hnew : ∀ k input, .next k input ∈ ops → ∀ req, ¬Uploads ops input.newFileId req) :
    (∀ draws req response, .answered (.upload draws req response) ∈
        (run (system env .database).step ⟨s, []⟩ ops).requests → response.success = true →
      (run (system env .database).step ⟨s, []⟩ ops).shared.getFileData
        (Crypto.generateFileId draws.fileIdValue) = some req.fileData.1) ∧
    ∀ r ∈ (run (system env .database).step ⟨s, []⟩ ops).shared.files,
      ∀ req, Uploads ops r.fileId req →
        (run (system env .database).step ⟨s, []⟩ ops).shared.getFileData r.fileId =
            some req.fileData.1 ∨
          ∃ pc ∈ (run (system env .database).step ⟨s, []⟩ ops).requests, pc.Owes r.fileId := by
  have houtlined : Interleaving.System.Outlined (Stored .database (Uploads ops))
      (fun s pc => pc.Outline .database (Uploads ops) env s)
      (run (system env .database).step ⟨s, []⟩ ops) := outlined_run hs hdrawn hnew
  obtain ⟨hstored, hrequests⟩ := houtlined
  have howed : Interleaving.System.Owed (Lacks (Uploads ops)) Pc.Owes
      (run (system env .database).step ⟨s, []⟩ ops) :=
    Interleaving.System.owed_run (I := Stored .database (Uploads ops))
      (Q := fun s pc => pc.Outline .database (Uploads ops) env s)
      (G := fun i => ∀ req, ¬Uploads ops i.newFileId req)
      (fun _ _ => outline_start) hnew
      (fun _ _ _ hnew hs hpc => outlined_exec hdrawn uploads_lt hnew hs hpc)
      (fun _ _ _ _ _ _ _ hpc' => hpc'.mono fun _ => Present.exec)
      (fun _ _ _ _ hnew _ hpc hlacks => owes_exec hpc hnew hlacks)
      ⟨hs.stored, fun _ hpc => absurd hpc List.not_mem_nil⟩
      (fun fileId ⟨⟨r, hr, _⟩, _⟩ => absurd (hs.1 ▸ hr) List.not_mem_nil)
  refine ⟨fun draws req response h hok => ?_, fun r hr req hU => ?_⟩
  · obtain ⟨hU, hpresent⟩ := hrequests _ h hok
    exact hstored.getFileData hdrawn uploads_lt hU (hpresent rfl)
  · by_cases hdata : (run (system env .database).step ⟨s, []⟩ ops).shared.fileData r.fileId = none
    · exact .inr (howed r.fileId ⟨⟨r, hr, rfl⟩, ⟨req, hU⟩, hdata⟩)
    · exact .inl (hstored.getFileData hdrawn uploads_lt hU hdata)

theorem stored_sampleDownloadOps :
    (run (system .plain .database).step ⟨.empty, []⟩ sampleDownloadOps).shared.getFileData 7 =
      some ⟨#[42]⟩ := by
  have hsample : (run (system .plain .database).step ⟨.empty, []⟩ sampleDownloadOps).requests.any
      (Pc.wasTold Answer.isUpload) = true := by decide +kernel
  obtain ⟨answer, hanswer, htold⟩ := exists_of_wasTold hsample
  cases answer with
  | upload draws req response =>
    obtain ⟨hok, hdata⟩ := Bool.and_eq_true_iff.1 htold
    obtain ⟨hok, hid⟩ := Bool.and_eq_true_iff.1 hok
    have h := (stored_run ⟨rfl, fun _ => rfl, fun _ => rfl⟩ drawnOnce_sampleDownloadOps
      newFileId_sampleDownloadOps).1 draws req response hanswer hok
    rwa [of_decide_eq_true hid, of_decide_eq_true hdata] at h
  | _ => cases htold

end

end FileRequests

end CosmicSync
