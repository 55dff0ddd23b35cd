import CosmicSync.Handlers.FileHandler

/-!
# A file is downloaded as it was uploaded

Between an upload and the download of its file lie the table of files and its two
sets of statements. Most fields come back: the data from the cache, path and name
after decryption. But the column `is_encrypted` is neither written nor read, so that
an encrypted file is served as a plain one (`download_of_encrypted`), and a client
does not know that it has to decrypt the data.

Two more conditions concern cases that hardly occur, or depend on the driver: the size
has to be read from its signed column; and if the id that was drawn is that of an
active file, this file keeps its path and name, and its key id if the upload has none.

* `DownloadsAsUploaded`: the fields that have to come back.
* `KeepsFields`: the condition on the upload and the table.
* `downloadsAsUploaded_iff`: they are equivalent, for every accepted upload.
-/

namespace CosmicSync

open Table

/-- The answer to the download has the fields of the upload. -/
structure DownloadsAsUploaded (req : UploadFileRequest) (response : DownloadFileResponse) :
    Prop where
  success : response.success = true
  fileData : response.fileData = req.fileData.1
  fileHash : response.fileHash = req.fileHash
  isEncrypted : response.isEncrypted = req.isEncrypted
  keyId : response.keyId = req.keyId
  filename : response.filename = req.filename
  fileSize : response.fileSize = req.fileSize
  filePath : response.filePath = normalizePathPreserveTilde req.filePath

/-- The upload, and the table `t` it finds, are such that no field is lost: the data is
    not encrypted, the driver reads its size from a signed column, and a file that has
    the id already has the same path and name, and no key id that the upload lacks. -/
structure KeepsFields (env : Env) (i : UploadInputs) (req : UploadFileRequest) (t : List FileRow) :
    Prop where
  plain : req.isEncrypted = false
  size : (env.driver.unsigned req.fileSize).getD 0 = req.fileSize
  overwritten : ∀ info, getFileInfo env t (Crypto.generateFileId i.fileIdValue) = some info →
    info.filePath = normalizePathPreserveTilde req.filePath ∧ info.filename = req.filename ∧
      (req.keyId = "" → info.keyId.getD "" = "")

section

variable {env : Env} {kind : FileStorageKind} {i : UploadInputs}
  {auth auth' : Option VerificationResult} {req : UploadFileRequest} {s s' : AppState}
  {result : UploadResult} {nonces : Nonce × Nonce} {dreq : DownloadFileRequest}

/-- The info that is read after an upload to a file id in use: of the row found before,
    with the new hash, size and key id. -/
theorem getFileInfo_overwrite {info : FileInfo} {t : List FileRow} :
    getFileInfo env (updateWhere (fun r => r.fileId = info.fileId) (FileRow.overwrite info) t)
        info.fileId =
      (fetchOptional env.planner (fun r => r.fileId = info.fileId ∧ r.isDeleted = false) t).map
        fun r => (r.overwrite info).toFileInfo env := by
  have hquery : ∀ r : FileRow, ((r.overwrite info).fileId = info.fileId ∧
      (r.overwrite info).isDeleted = false) ↔ (r.fileId = info.fileId ∧ r.isDeleted = false) :=
    fun _ => Iff.rfl
  rw [getFileInfo, fetchOptional_updateWhere env.planner hquery, Option.map_map]
  refine Option.map_congr fun r hr => ?_
  rw [Function.comp_apply, if_pos (fetchOptional_some hr).2.1]

/-- The info that is read after another upload: of the new row. -/
theorem getFileInfo_append_newRow {now n : ℤ} {nonces : Nonce × Nonce} {info : FileInfo}
    {t : List FileRow} (h : ∀ r ∈ t, ¬(r.fileId = info.fileId ∧ r.isDeleted = false)) :
    getFileInfo env (retire env.planner info.logical t ++ [env.newRow now nonces info n])
      info.fileId =
      some ((env.newRow now nonces info n).toFileInfo env) := by
  have hold : (retire env.planner info.logical t).filter
      (fun r => r.fileId = info.fileId ∧ r.isDeleted = false) = [] := by
    refine List.filter_eq_nil_iff.2 fun r hr => ?_
    rw [decide_eq_true_eq]
    rintro ⟨hid, hlive⟩
    exact h r (active_of_mem_retire hr hlive) ⟨hid, hlive⟩
  have hone : (retire env.planner info.logical t ++ [env.newRow now nonces info n]).filter
      (fun r => r.fileId = info.fileId ∧ r.isDeleted = false) = [env.newRow now nonces info n] := by
    rw [List.filter_append, hold, List.nil_append, List.filter_singleton]
    simp [Env.newRow]
  rw [getFileInfo, fetchOptional_eq_some_of_unique hone, Option.map_some]

/-- What is read after an upload: the hash and the size of the upload, and that the file
    is not encrypted; path, name and key id too, if they are not those of a file that
    had the id before. -/
theorem getFileInfo_storeFileInfo (hC : env.crypto.Lawful) {now : ℤ} {info : FileInfo} {id : ℕ}
    {t t' : List FileRow} (hlt : info.size < 2 ^ 63)
    (h : storeFileInfo env now nonces info t = .ok (id, t')) :
    ∃ info', getFileInfo env t' info.fileId = some info' ∧ info'.isEncrypted = false ∧
      info'.fileHash = info.fileHash ∧ info'.size = (env.driver.unsigned info.size).getD 0 ∧
      ((∃ old, getFileInfo env t info.fileId = some old ∧ info'.filePath = old.filePath ∧
          info'.filename = old.filename ∧ info'.keyId = (info.keyId <|> old.keyId)) ∨
        (getFileInfo env t info.fileId = none ∧ info'.filePath = info.filePath ∧
          info'.filename = info.filename ∧ info'.keyId = info.keyId)) := by
  obtain ⟨-, ⟨⟨r, hr, hp⟩, rfl⟩ | ⟨hnot, -, rfl⟩⟩ := storeFileInfo_ok h
  · -- The row that was found before is the one found now.
    obtain ⟨r₀, hfetch⟩ := exists_fetchOptional env.planner
      (p := fun r => r.fileId = info.fileId ∧ r.isDeleted = false) hr hp
    refine ⟨(r₀.overwrite info).toFileInfo env, ?_, rfl, rfl, ?_, .inl ⟨r₀.toFileInfo env, ?_⟩⟩
    · rw [getFileInfo_overwrite, hfetch, Option.map_some]
    · rw [FileRow.toFileInfo, FileRow.overwrite, asI64_of_lt hlt]
    · exact ⟨by rw [getFileInfo, hfetch, Option.map_some], rfl, rfl, rfl⟩
  · refine ⟨_, getFileInfo_append_newRow hnot, rfl, rfl, ?_, .inr ⟨?_, ?_, ?_, rfl⟩⟩
    · rw [FileRow.toFileInfo, Env.newRow, asI64_of_lt hlt]
    · rw [getFileInfo, fetchOptional_eq_none.2 hnot, Option.map_none]
    · exact env.decryptText_encodeText hC _ info info.filePath
    · exact env.decryptText_encodeText hC _ info info.filename

/-- The answer to the download of a file whose data is in the cache, its path and name
    not encrypted on the way. -/
theorem handleDownloadFile_of_cached {accountHash : String} {info : FileInfo} {data : ByteArray}
    (htransport : env.config.transportEncryptMetadata = false)
    (hauth : verifiedAccount auth' = some accountHash)
    (hinfo : getFileInfo env s.files dreq.fileId = some info)
    (hcache : s.cache dreq.fileId = some data) :
    handleDownloadFile env nonces auth' dreq s =
      ⟨true, data, info.fileHash, info.isEncrypted, "", info.filename, info.filePath,
        some ⟨info.updatedTime.seconds, 0⟩, info.size, info.keyId.getD ""⟩ := by
  have hdata : s.getFileData dreq.fileId = some data := by rw [Store.getFileData, hcache]
  simp [handleDownloadFile, hauth, hinfo, hdata, downloadResponse, htransport, Crypto.transportText]

/-- The key id of an upload is read as it was sent, the empty one for none. -/
theorem uploadedKeyId_getD {keyId : String} :
    (if keyId = "" then none else some keyId : Option String).getD "" = keyId := by
  by_cases hempty : keyId = ""
  · simp [hempty]
  · simp [hempty]

/-- An upload without a key id leaves that of the row. -/
theorem uploadedKeyId_or {keyId : String} {old : Option String} :
    ((if keyId = "" then none else some keyId : Option String) <|> old).getD "" = keyId ↔
      (keyId = "" → old.getD "" = "") := by
  by_cases hempty : keyId = ""
  · simp [hempty]
  · simp [hempty]

/-- Whoever downloads the file of an accepted upload gets what was uploaded, if and only
    if the upload and the table are such that no field is lost. -/
theorem downloadsAsUploaded_iff (hC : env.crypto.Lawful)
    (htransport : env.config.transportEncryptMetadata = false)
    (h : handleUploadFile env kind i auth req s = (result, s'))
    (hok : result.response.success = true)
    (hauth : (verifiedAccount auth').isSome) (hid : dreq.fileId = result.response.fileId) :
    DownloadsAsUploaded req (handleDownloadFile env nonces auth' dreq s') ↔
      KeepsFields env i req s.files := by
  obtain ⟨info, tables, id, hprepare, hstore, hcache, rfl⟩ := handleUploadFile_success h hok
  obtain ⟨hsize, accountHash, watcherId, -, rfl⟩ := prepareUpload_ok hprepare
  obtain ⟨account', hauth⟩ := Option.isSome_iff_exists.1 hauth
  have hlt : req.fileSize < 2 ^ 63 := by
    rw [← hsize]
    exact req.fileData.2
  obtain ⟨info', hread, hplain, hhash, hsize', hrest⟩ := getFileInfo_storeFileInfo hC hlt hstore
  have hid : dreq.fileId = Crypto.generateFileId i.fileIdValue := hid
  rw [handleDownloadFile_of_cached htransport hauth (by rw [hid]; exact hread)
    (by rw [hid]; exact hcache)]
  rcases hrest with ⟨old, hold, hpath, hname, hkey⟩ | ⟨hnone, hpath, hname, hkey⟩
  · -- A file that had the id keeps its path and name.
    refine ⟨fun hd => ⟨hd.isEncrypted.symm.trans hplain, hsize'.symm.trans hd.fileSize, ?_⟩,
      fun hk => ?_⟩
    · intro info hinfo
      obtain rfl : old = info := Option.some.inj (hold.symm.trans hinfo)
      refine ⟨hpath.symm.trans hd.filePath, hname.symm.trans hd.filename, ?_⟩
      exact uploadedKeyId_or.1 ((congrArg (·.getD "") hkey).symm.trans hd.keyId)
    · obtain ⟨hpath', hname', hkey'⟩ := hk.overwritten old hold
      exact ⟨rfl, rfl, hhash, hplain.trans hk.plain.symm,
        (congrArg (·.getD "") hkey).trans (uploadedKeyId_or.2 hkey'), hname.trans hname',
        hsize'.trans hk.size, hpath.trans hpath'⟩
  · refine ⟨fun hd => ⟨hd.isEncrypted.symm.trans hplain, hsize'.symm.trans hd.fileSize, ?_⟩,
      fun hk => ?_⟩
    · intro info hinfo
      cases hnone.symm.trans hinfo
    · exact ⟨rfl, rfl, hhash, hplain.trans hk.plain.symm,
        (congrArg (·.getD "") hkey).trans uploadedKeyId_getD, hname, hsize'.trans hk.size, hpath⟩

end

/-! ## The upload of an encrypted file -/

def sampleDownloadRequest : DownloadFileRequest := ⟨"alice", "d", 1, 1, 7, 0⟩

/-- The upload of an encrypted file is accepted, and its download says that it is not
    encrypted. -/
theorem download_of_encrypted :
    ∃ result s', handleUploadFile .plain .database sampleUploadInputs sampleAuth
        (sampleUploadRequest true 0) .empty = (result, s') ∧
      result.response.success = true ∧ result.response.fileId = sampleDownloadRequest.fileId ∧
      (handleDownloadFile .plain (Crypto.nonceSample 5, Crypto.nonceSample 6) sampleAuth
        sampleDownloadRequest s').isEncrypted = false ∧
      ¬DownloadsAsUploaded (sampleUploadRequest true 0) (handleDownloadFile .plain
        (Crypto.nonceSample 5, Crypto.nonceSample 6) sampleAuth sampleDownloadRequest s') := by
  refine ⟨_, _, rfl, by decide, by decide, by decide, fun h => ?_⟩
  exact absurd h.isEncrypted (by decide)

/-- The upload of an empty file in plain text: its size is read as zero by any driver. -/
def sampleEmptyUpload : UploadFileRequest :=
  { sampleUploadRequest false 0 with fileData := ⟨.empty, by decide⟩, fileSize := 0 }

theorem keepsFields_sample :
    KeepsFields .plain sampleUploadInputs sampleEmptyUpload AppState.empty.files :=
  ⟨rfl, rfl, fun _ h => nomatch h⟩

/-- It is downloaded as it was. -/
theorem downloadsAsUploaded_sample :
    ∃ result s', handleUploadFile .plain .database sampleUploadInputs sampleAuth sampleEmptyUpload
        .empty = (result, s') ∧ result.response.success = true ∧
      DownloadsAsUploaded sampleEmptyUpload (handleDownloadFile .plain
        (Crypto.nonceSample 5, Crypto.nonceSample 6) sampleAuth sampleDownloadRequest s') := by
  have hresponse :
      (handleUploadFile .plain .database sampleUploadInputs sampleAuth sampleEmptyUpload
        .empty).1.response = fileUploadSuccess 7 1 := by decide
  rcases hupload : handleUploadFile .plain .database sampleUploadInputs sampleAuth sampleEmptyUpload
    .empty with ⟨result, s'⟩
  rw [hupload] at hresponse
  have hok : result.response.success = true := by rw [hresponse]; rfl
  have hid : sampleDownloadRequest.fileId = result.response.fileId := by rw [hresponse]; rfl
  refine ⟨result, s', rfl, hok, ?_⟩
  exact (downloadsAsUploaded_iff Crypto.sample_lawful rfl hupload hok rfl hid).2 keepsFields_sample

end CosmicSync
