import CosmicSync.Handlers.FileHandler

/-!
# What a token gives access to

A request carries a token, and most requests name an account besides. For an account
to be isolated from the others, the answer to a request must depend on the data of the
account of its token only, and the request must leave the rows of the other accounts
as they are. An upload replaces the account that it names by that of its token. The
other file handlers do not: a listing, a search or a deletion by path goes by the
account that the request names, and a download, a check or a deletion by id takes the
file of any account.

* `Isolated`: two servers that agree on the data of an account answer alike.
* `StaysInside`: the requests for which this is so. They are the listings and searches
  that name the account of their token, and the checks and deletions of ids that are
  too large for any file to be found.
* `isolated_iff`: they are the only ones.

A deletion by path is not among them even if it names the account of its token: it
looks for the file by the account and the path, and then deletes by the id of the file
alone, so that it takes the file of another account if that has the same id.
-/

namespace CosmicSync

open Table

/-! ## Requests and states -/

/-- The requests about files, uploads apart. -/
inductive FileRequest where
  | list (req : ListFilesRequest)
  | find (req : FindFileRequest)
  | download (req : DownloadFileRequest)
  | check (req : CheckFileExistsRequest)
  | delete (req : DeleteFileRequest)

inductive FileResponse where
  | list (response : ListFilesResponse)
  | find (response : FindFileResponse)
  | download (response : DownloadFileResponse)
  | check (response : CheckFileExistsResponse)
  | delete (response : DeleteFileResponse)

def FileResponse.succeeds : FileResponse → Bool
  | list response => response.success
  | find response => response.success
  | download response => response.success
  | check response => response.success
  | delete response => response.success

/-- What any of the requests meets. -/
structure RequestInputs where
  list : ListInputs
  nonces : Nonce × Nonce
  delete : DeleteInputs

/-- The answer to a request, and the server afterwards. -/
def FileRequest.handle (env : Env) (i : RequestInputs) (auth : Option VerificationResult)
    (s : AppState) : FileRequest → FileResponse × AppState
  | list req => (.list (handleListFiles env i.list auth req s), s)
  | find req => (.find (handleFindFileByCriteria env auth req s), s)
  | download req => (.download (handleDownloadFile env i.nonces auth req s), s)
  | check req => (.check (handleCheckFileExists env auth req s), s)
  | delete req =>
    let (result, s') := handleDeleteFile env i.delete auth req s
    (.delete result.response, s')

/-- Two servers have the same data of an account. -/
structure AppState.AgreeOn (accountHash : String) (s s' : AppState) : Prop where
  files : s.files.filter (·.accountHash = accountHash) =
    s'.files.filter (·.accountHash = accountHash)
  fileData : ∀ r ∈ s.files, r.accountHash = accountHash →
    s.fileData r.fileId = s'.fileData r.fileId ∧ s.cache r.fileId = s'.cache r.fileId
  watchers : s.watchers.AgreeOn accountHash s'.watchers
  encryptionKey : s.encryptionKeys accountHash = s'.encryptionKeys accountHash

/-- The server `s'` has the rows of the other accounts that `s` has. -/
structure AppState.KeepsOthers (accountHash : String) (s s' : AppState) : Prop where
  files : s'.files.filter (·.accountHash ≠ accountHash) =
    s.files.filter (·.accountHash ≠ accountHash)
  fileData : ∀ r ∈ s.files, r.accountHash ≠ accountHash → s'.fileData r.fileId = s.fileData r.fileId
  groups : s'.watchers.groups.filter (·.accountHash ≠ accountHash) =
    s.watchers.groups.filter (·.accountHash ≠ accountHash)
  watchers : s'.watchers.watchers.filter (·.accountHash ≠ accountHash) =
    s.watchers.watchers.filter (·.accountHash ≠ accountHash)
  encryptionKeys : ∀ b ≠ accountHash, s'.encryptionKeys b = s.encryptionKeys b

theorem AppState.KeepsOthers.refl (accountHash : String) (s : AppState) :
    s.KeepsOthers accountHash s :=
  ⟨rfl, fun _ _ _ => rfl, rfl, rfl, fun _ _ => rfl⟩

/-- With a token of the account, the request sees the data of the account only, and
    changes no other. -/
def Isolated (env : Env) (accountHash : String) (req : FileRequest) : Prop :=
  ∀ i auth s s', verifiedAccount auth = some accountHash → s.AgreeOn accountHash s' →
    (req.handle env i auth s).1 = (req.handle env i auth s').1 ∧
      s.KeepsOthers accountHash (req.handle env i auth s).2

/-- The requests that stay inside the account: they name it, or an id that no file is
    found by. -/
def StaysInside (accountHash : String) : FileRequest → Prop
  | .list req => req.accountHash = accountHash
  | .find req => req.accountHash = accountHash
  | .download _ => False
  | .check req => 2 ^ 63 ≤ req.fileId
  | .delete req => 2 ^ 63 ≤ req.fileId

/-! ## Requests that stay inside -/

section

variable {env : Env} {auth : Option VerificationResult} {s s' : AppState}

theorem handleListFiles_congr {i : ListInputs} {req : ListFilesRequest}
    (h : s.AgreeOn req.accountHash s') :
    handleListFiles env i auth req s = handleListFiles env i auth req s' := by
  have hfiles : ∀ g, listFilesExceptDevice env s.files req.accountHash g req.deviceHash none =
      listFilesExceptDevice env s'.files req.accountHash g req.deviceHash none := fun g =>
    congrArg _ (fetchAllBy_congr (filter_congr_of_imp (fun _ hr => hr.1) h.files))
  simp only [handleListFiles, WatcherTables.getServerGroupId_congr h.watchers,
    WatcherTables.getClientWatcherId_congr h.watchers, h.encryptionKey, hfiles]

theorem handleFindFileByCriteria_congr {req : FindFileRequest} (h : s.AgreeOn req.accountHash s') :
    handleFindFileByCriteria env auth req s = handleFindFileByCriteria env auth req s' := by
  have hids : searchIds env req s = searchIds env req s' := by
    rw [searchIds, searchIds, WatcherTables.getServerIds_congr h.watchers]
  have hfile : ∀ g w path, s.toStore.findFileByCriteria env req.accountHash g w path req.fileName =
      s'.toStore.findFileByCriteria env req.accountHash g w path req.fileName := fun g w path =>
    congrArg _ (fetchFirstBy_congr (filter_congr_of_imp (fun _ hr => hr.1) h.files))
  simp only [handleFindFileByCriteria, hids, hfile]

/-- An id is bound as a signed number, and no row has a negative one. -/
theorem handleCheckFileExists_of_le {req : CheckFileExistsRequest} (h : 2 ^ 63 ≤ req.fileId) :
    handleCheckFileExists env auth req s = handleCheckFileExists env auth req s' := by
  rw [handleCheckFileExists, handleCheckFileExists, checkFileExists_of_le h,
    checkFileExists_of_le h]

theorem handleDeleteFile_of_le {i : DeleteInputs} {req : DeleteFileRequest} {accountHash : String}
    (hauth : verifiedAccount auth = some accountHash) (h : 2 ^ 63 ≤ req.fileId) (s : AppState) :
    handleDeleteFile env i auth req s = (⟨⟨false, "File not found"⟩, [], []⟩, s) := by
  have hpos : 0 < req.fileId := by omega
  have hfile : fileForDeletion env req s = .error ⟨false, "File not found"⟩ := by
    rw [fileForDeletion, if_pos hpos, validateFileForDeletion, checkFileExists_of_le h]
  rw [handleDeleteFile, hauth, hfile]

/-- These requests are isolated. -/
theorem isolated_of_staysInside {accountHash : String} {req : FileRequest}
    (h : StaysInside accountHash req) : Isolated env accountHash req := by
  intro i auth s s' hauth hagree
  rcases req with req | req | req | req | req
  · obtain rfl : req.accountHash = accountHash := h
    exact ⟨congrArg FileResponse.list (handleListFiles_congr hagree), .refl ..⟩
  · obtain rfl : req.accountHash = accountHash := h
    exact ⟨congrArg FileResponse.find (handleFindFileByCriteria_congr hagree), .refl ..⟩
  · exact absurd h id
  · exact ⟨congrArg FileResponse.check (handleCheckFileExists_of_le h), .refl ..⟩
  · simp only [FileRequest.handle, handleDeleteFile_of_le hauth h]
    exact ⟨trivial, .refl ..⟩

end

/-! ## Requests that do not

Each is refuted by servers that differ in the rows of another account. -/

/-- A row with nothing in it, to start from. -/
def blankRow (accountHash : String) (fileId : ℕ) : FileRow where
  fileId := fileId
  accountHash := accountHash
  deviceHash := ""
  filePath := .empty
  filename := .empty
  fileHash := ""
  size := 0
  isDeleted := false
  revision := 0
  createdTime := 0
  updatedTime := 0
  groupId := 0
  watcherId := 0
  serverGroupId := 0
  serverWatcherId := 0
  eqIndex := none
  tokenPath := none
  keyId := none

def AppState.ofFiles (files : List FileRow) : AppState := { AppState.empty with files := files }

/-- An account other than the given one. -/
def otherAccount (accountHash : String) : String := accountHash ++ "!"

theorem otherAccount_ne (accountHash : String) : otherAccount accountHash ≠ accountHash := by
  intro h
  have hlen := congrArg String.length h
  simp [otherAccount] at hlen

def tokenOf (accountHash : String) : Option VerificationResult := some ⟨true, accountHash⟩

def someInputs : RequestInputs where
  list := ⟨fun _ => ⟨0, 0⟩, fun _ => (Crypto.nonceSample 1, Crypto.nonceSample 2)⟩
  nonces := (Crypto.nonceSample 1, Crypto.nonceSample 2)
  delete := ⟨⟨0, (Crypto.nonceSample 1, Crypto.nonceSample 2), none, 0,
    fun _ => (Crypto.nonceSample 1, Crypto.nonceSample 2)⟩, 2, ⟨"", 0, "", 0⟩⟩

section

variable {env : Env} {accountHash : String}

/-- Tables of files with the same rows of an account, and nothing else. -/
theorem agreeOn_ofFiles {t t' : List FileRow}
    (h : t.filter (·.accountHash = accountHash) = t'.filter (·.accountHash = accountHash)) :
    (AppState.ofFiles t).AgreeOn accountHash (.ofFiles t') :=
  ⟨h, fun _ _ _ => ⟨rfl, rfl⟩, ⟨rfl, rfl⟩, rfl⟩

/-- A table without rows of the account, and an empty one. -/
theorem agreeOn_ofFiles_nil {t : List FileRow} (h : ∀ r ∈ t, r.accountHash ≠ accountHash) :
    (AppState.ofFiles t).AgreeOn accountHash (.ofFiles []) :=
  agreeOn_ofFiles (List.filter_eq_nil_iff.2 fun r hr => by simpa using h r hr)

/-- A row of another account, and no row, have to be answered alike. -/
theorem Isolated.eq_nil {req : FileRequest} (h : Isolated env accountHash req) {t : List FileRow}
    (ht : ∀ r ∈ t, r.accountHash ≠ accountHash) :
    (req.handle env someInputs (tokenOf accountHash) (.ofFiles t)).1 =
      (req.handle env someInputs (tokenOf accountHash) (.ofFiles [])).1 :=
  (h someInputs (tokenOf accountHash) _ _ rfl (agreeOn_ofFiles_nil ht)).1

/-- A listing reveals whether an account has a group. -/
theorem not_isolated_list {req : ListFilesRequest} (hne : req.accountHash ≠ accountHash) :
    ¬Isolated env accountHash (.list req) := by
  intro h
  set group : WatcherGroupRow := ⟨1, req.groupId, req.accountHash, "", "", 0, 0, true⟩
  set s : AppState := { AppState.empty with watchers := ⟨[group], []⟩ }
  have hagree : s.AgreeOn accountHash .empty := by
    refine ⟨rfl, fun r hr => absurd hr List.not_mem_nil, ⟨?_, rfl⟩, rfl⟩
    exact List.filter_eq_nil_iff.2 (by simpa [s, group] using hne)
  have heq := (h someInputs (tokenOf accountHash) s .empty rfl hagree).1
  have hgroup : s.watchers.getServerGroupId env.planner req.accountHash req.groupId = some 1 := by
    rw [WatcherTables.getServerGroupId, fetchOptional_singleton ⟨rfl, rfl⟩]
    rfl
  have hnone : AppState.empty.watchers.getServerGroupId env.planner req.accountHash req.groupId =
      none := by
    rw [WatcherTables.getServerGroupId]
    exact congrArg _ fetchOptional_nil
  simp [FileRequest.handle, handleListFiles, verifiedAccount, tokenOf, hgroup, hnone] at heq

/-- A check reveals whether an account has a file. -/
theorem not_isolated_check {req : CheckFileExistsRequest} (hlt : req.fileId < 2 ^ 63) :
    ¬Isolated env accountHash (.check req) := by
  intro h
  have heq := h.eq_nil (t := [blankRow (otherAccount accountHash) req.fileId])
    (by simpa [blankRow] using otherAccount_ne accountHash)
  have hfound : checkFileExists env (AppState.ofFiles
      [blankRow (otherAccount accountHash) req.fileId]).files req.fileId = (true, false) := by
    rw [checkFileExists, AppState.ofFiles, fetchOptional_singleton ⟨rfl, hlt⟩]
    rfl
  have hnone : checkFileExists env (AppState.ofFiles []).files req.fileId = (false, false) := by
    rw [checkFileExists, AppState.ofFiles, fetchOptional_nil]
  simp [FileRequest.handle, handleCheckFileExists, verifiedAccount, tokenOf, hfound, hnone] at heq

/-- So does a download, even of a file without data. -/
theorem not_isolated_download (req : DownloadFileRequest) :
    ¬Isolated env accountHash (.download req) := by
  intro h
  have heq := h.eq_nil (t := [blankRow (otherAccount accountHash) req.fileId])
    (by simpa [blankRow] using otherAccount_ne accountHash)
  have hfound : getFileInfo env (AppState.ofFiles
      [blankRow (otherAccount accountHash) req.fileId]).files req.fileId =
        some ((blankRow (otherAccount accountHash) req.fileId).toFileInfo env) := by
    rw [getFileInfo, AppState.ofFiles, fetchOptional_singleton ⟨rfl, rfl⟩]
    rfl
  have hnone : getFileInfo env (AppState.ofFiles []).files req.fileId = none := by
    rw [getFileInfo, AppState.ofFiles, fetchOptional_nil]
    rfl
  have hdata : ∀ t, (AppState.ofFiles t).getFileData req.fileId = none := fun t => by
    simp [AppState.ofFiles, AppState.empty, Store.getFileData]
  simp [FileRequest.handle, handleDownloadFile, verifiedAccount, tokenOf, hfound, hnone, hdata,
    fileDownloadError] at heq

/-- A search reveals whether an account has a watcher; one without ids, whether it has a
    file. -/
theorem not_isolated_find {req : FindFileRequest} (hne : req.accountHash ≠ accountHash) :
    ¬Isolated env accountHash (.find req) := by
  intro h
  have hempty : ∀ g w path, (AppState.ofFiles []).toStore.findFileByCriteria env req.accountHash g w
      path req.fileName = none := fun g w path => by
    rw [Store.findFileByCriteria, AppState.ofFiles, findFileByCriteria,
      fetchFirstBy_eq_none.2 fun r hr => absurd hr List.not_mem_nil]
    rfl
  by_cases hids : 0 < req.groupId ∧ 0 < req.watcherId
  · -- The ids of the client are converted: servers with and without the watcher.
    set group : WatcherGroupRow := ⟨1, req.groupId, req.accountHash, "", "", 0, 0, true⟩
    set watcher : WatcherRow :=
      ⟨1, req.watcherId, req.accountHash, 1, req.groupId, "", "", true, 0, 0, true, ""⟩
    set s : AppState := { AppState.ofFiles [] with watchers := ⟨[group], [watcher]⟩ } with hs
    have hagree : s.AgreeOn accountHash (.ofFiles []) := by
      refine ⟨rfl, fun r hr => absurd hr List.not_mem_nil, ⟨?_, ?_⟩, rfl⟩
      · exact List.filter_eq_nil_iff.2 (by simpa [s, group] using hne)
      · exact List.filter_eq_nil_iff.2 (by simpa [s, watcher] using hne)
    have heq := (h someInputs (tokenOf accountHash) s (.ofFiles []) rfl hagree).1
    have hfound : searchIds env req s = some (1, 1) := by
      rw [searchIds, if_pos hids, WatcherTables.getServerIds, WatcherTables.getServerGroupId,
        WatcherTables.getServerWatcherId, fetchOptional_singleton ⟨rfl, rfl⟩,
        fetchOptional_singleton ⟨rfl, rfl, rfl⟩]
      rfl
    have hnone : searchIds env req (.ofFiles []) = none := by
      have hgroup : (AppState.ofFiles []).watchers.getServerGroupId env.planner req.accountHash
          req.groupId = none := congrArg _ fetchOptional_nil
      rw [searchIds, if_pos hids, WatcherTables.getServerIds, hgroup]
      rfl
    have hfile : ∀ path,
        s.toStore.findFileByCriteria env req.accountHash 1 1 path req.fileName = none :=
      hempty 1 1
    simp [FileRequest.handle, handleFindFileByCriteria, verifiedAccount, tokenOf,
      hfound, hnone, hfile,
      findFileError] at heq
  · -- The ids are zero: servers with and without a file under the path.
    set path := Store.searchPath (normalizePathPreserveTilde req.filePath) req.fileName
    set row : FileRow := { blankRow req.accountHash 1 with
      filePath := path.toByteArray, filename := req.fileName.toByteArray }
    have heq := h.eq_nil (t := [row]) (by simpa [row, blankRow] using hne)
    have hids' : ∀ s, searchIds env req s = some (0, 0) := fun s => by rw [searchIds, if_neg hids]
    have hmatch : row.MatchesCriteria req.accountHash 0 0 path req.fileName :=
      ⟨rfl, rfl, rfl, rfl, .inr ⟨rfl, rfl⟩⟩
    have hfound : ((AppState.ofFiles [row]).toStore.findFileByCriteria env req.accountHash 0 0
        (normalizePathPreserveTilde req.filePath) req.fileName).isSome := by
      rw [Store.findFileByCriteria, AppState.ofFiles, findFileByCriteria, Option.isSome_map,
        fetchFirstBy_eq_some_of_unique (a := row) (by simpa using hmatch)]
      rfl
    obtain ⟨info, hinfo⟩ := Option.isSome_iff_exists.1 hfound
    simp [FileRequest.handle, handleFindFileByCriteria, verifiedAccount, tokenOf, hids',
      hinfo, hempty,
      findFileError, foundFile] at heq

/-! ### Deletions -/

/-- A row that the path of the request leads to. -/
def namedRow (env : Env) (req : DeleteFileRequest) : FileRow :=
  { blankRow req.accountHash 1 with
    revision := req.revision.toInt
    eqIndex := some (env.eqIndex req.accountHash
      (normalizePathPreserveTilde (normalizePathPreserveTilde req.filePath))) }

/-- The file is found by its path. -/
theorem fileForDeletion_of_unique {req : DeleteFileRequest} {t : List FileRow}
    (hid : req.fileId = 0)
    (h : t.filter (fun r => r.accountHash = req.accountHash ∧ r.isDeleted = false) =
      [namedRow env req]) :
    fileForDeletion env req (.ofFiles t) = .ok 1 := by
  set path := normalizePathPreserveTilde (normalizePathPreserveTilde req.filePath)
  have hone : t.filter (fun r => r.accountHash = req.accountHash ∧
      r.eqIndex = some (env.eqIndex req.accountHash path) ∧ r.isDeleted = false ∧
      (0 < req.revision.toInt → r.revision = req.revision.toInt)) = [namedRow env req] := by
    have hrow : [namedRow env req].filter
        (fun r => r.accountHash = req.accountHash ∧ r.isDeleted = false) = [namedRow env req] := by
      simp [namedRow, blankRow]
    rw [filter_congr_of_imp (fun r hr => ⟨hr.1, hr.2.2.1⟩) (h.trans hrow.symm)]
    simp [namedRow, blankRow, path]
  rw [fileForDeletion, if_neg (by omega), findFileByPath, Store.findFileByLocalPath,
    AppState.ofFiles, findFileByPathAndName, fetchFirstBy_eq_some_of_unique hone]
  rfl

/-- A deletion by path finds the file, and then takes another row of its id for it. -/
theorem exists_perm_getFileInfo (env : Env) (req : DeleteFileRequest) {b : FileRow}
    (hb : b.fileId = 1) :
    ∃ t, t.Perm [namedRow env req, b] ∧
      getFileInfoIncludeDeleted env t 1 = some (b.toFileInfo env, b.isDeleted) := by
  obtain ⟨t, hperm, hfetch⟩ := exists_perm_fetchOptional (p := fun r => r.fileId = 1) env.planner
    (a := namedRow env req) rfl hb
  refine ⟨t, hperm, ?_⟩
  rw [getFileInfoIncludeDeleted, hfetch]
  rfl

/-- If that row is deleted, the deletion has nothing to do, and succeeds. -/
theorem handleDeleteFile_of_deleted (accountHash : String) (i : DeleteInputs)
    {req : DeleteFileRequest} {t : List FileRow} {b : FileRow} (hid : req.fileId = 0)
    (hperm : t.Perm [namedRow env req, b]) (hb : b.isDeleted = true)
    (hinfo : getFileInfoIncludeDeleted env t 1 = some (b.toFileInfo env, b.isDeleted)) :
    (handleDeleteFile env i (tokenOf accountHash) req (.ofFiles t)).1.response.success = true := by
  have hfile := fileForDeletion_of_unique hid
    (filter_eq_singleton_of_perm hperm ⟨rfl, rfl⟩ fun hr => by simp [hb] at hr)
  have hdelete : (AppState.ofFiles t).toStore.deleteFile env (AppState.ofFiles t).notifier i.store
      i.newFileId 1 = (.ok [], (AppState.ofFiles t).toStore) := by
    rw [hb] at hinfo
    rw [Store.deleteFile, AppState.ofFiles, hinfo]
  simp [handleDeleteFile, verifiedAccount, tokenOf, hfile, hdelete]

/-- A deletion inserts a row of the account. -/
theorem map_accountHash_deleteFile {now : ℤ} {newFileId fileId : ℕ} {t t' : List FileRow}
    (h : deleteFile env now newFileId accountHash fileId t = .ok ((), t')) :
    t'.map FileRow.accountHash = t.map FileRow.accountHash ++ [accountHash] := by
  obtain ⟨r, filePath, filename, -, -, -, rfl⟩ := deleteFile_ok h
  have hfinish : ∀ r₀ : FileRow, (r₀.finishTombstone now (r.revision + 1) r.groupId
      r.watcherId).accountHash = r₀.accountHash := fun _ => rfl
  rw [map_updateWhere hfinish, List.map_append,
    map_markDeleted (π := FileRow.accountHash) fun _ => rfl,
    map_markDeleted (π := FileRow.accountHash) fun _ => rfl]
  rfl

/-- So that it changes the rows of another account. -/
theorem filter_ne_deleteFile {now : ℤ} {newFileId fileId : ℕ} {b : String} {t t' : List FileRow}
    (h : deleteFile env now newFileId b fileId t = .ok ((), t')) (hb : b ≠ accountHash) :
    t'.filter (·.accountHash ≠ accountHash) ≠ t.filter (·.accountHash ≠ accountHash) := by
  intro heq
  have hcount : ∀ l : List FileRow, (l.filter (·.accountHash ≠ accountHash)).length =
      (l.map FileRow.accountHash).countP (· ≠ accountHash) := fun l => by
    rw [← List.countP_eq_length_filter, List.countP_map]
    rfl
  have hlen := congrArg List.length heq
  rw [hcount, hcount, map_accountHash_deleteFile h, List.countP_append] at hlen
  simp [hb] at hlen

/-- A deletion by path that names another account reveals whether it has the file. -/
theorem not_isolated_delete_other {req : DeleteFileRequest} (hid : req.fileId = 0)
    (hne : req.accountHash ≠ accountHash) : ¬Isolated env accountHash (.delete req) := by
  intro h
  set b : FileRow := { blankRow req.accountHash 1 with isDeleted := true }
  obtain ⟨t, hperm, hinfo⟩ := exists_perm_getFileInfo env req (b := b) rfl
  have ht : ∀ r ∈ t, r.accountHash ≠ accountHash := by
    intro r hr
    rcases List.mem_cons.1 (hperm.subset hr) with rfl | hr
    · exact hne
    · rw [List.mem_singleton.1 hr]
      exact hne
  have heq := congrArg FileResponse.succeeds (h.eq_nil ht)
  have hsuccess := handleDeleteFile_of_deleted accountHash someInputs.delete hid hperm rfl hinfo
  have hnone : fileForDeletion env req (.ofFiles []) =
      .error ⟨false, "File not found: " ++ req.filename⟩ := by
    rw [fileForDeletion, if_neg (by omega), findFileByPath, Store.findFileByLocalPath,
      findFileByPathAndName, AppState.ofFiles,
      fetchFirstBy_eq_none.2 fun r hr => absurd hr List.not_mem_nil]
    rfl
  have hfail : (handleDeleteFile env someInputs.delete (tokenOf accountHash) req
      (.ofFiles [])).1.response.success = false := by
    simp [handleDeleteFile, verifiedAccount, tokenOf, hnone]
  exact Bool.noConfusion (hsuccess.symm.trans (heq.trans hfail))

/-- If the driver refuses to delete the file, the deletion fails; unless it takes a deleted
    row of another account for the file. -/
theorem not_isolated_delete_of_none {req : DeleteFileRequest} (hid : req.fileId = 0)
    (htext : env.driver.text .empty = none) : ¬Isolated env req.accountHash (.delete req) := by
  intro h
  set b : FileRow := { blankRow (otherAccount req.accountHash) 1 with isDeleted := true }
  obtain ⟨t, hperm, hinfo⟩ := exists_perm_getFileInfo env req (b := b) rfl
  have hmine : t.filter (·.accountHash = req.accountHash) =
      [namedRow env req].filter (·.accountHash = req.accountHash) := by
    rw [filter_eq_singleton_of_perm (p := fun r => r.accountHash = req.accountHash) hperm rfl
      (otherAccount_ne req.accountHash)]
    simp [namedRow, blankRow]
  have hagree : (AppState.ofFiles t).AgreeOn req.accountHash (.ofFiles [namedRow env req]) :=
    agreeOn_ofFiles hmine
  have heq := congrArg FileResponse.succeeds (h someInputs (tokenOf _) _ _ rfl hagree).1
  have hsuccess := handleDeleteFile_of_deleted req.accountHash someInputs.delete hid hperm rfl hinfo
  have hfile : fileForDeletion env req (.ofFiles [namedRow env req]) = .ok 1 :=
    fileForDeletion_of_unique hid (by simp [namedRow, blankRow])
  have hread : getFileInfoIncludeDeleted env [namedRow env req] 1 =
      some ((namedRow env req).toFileInfo env, false) := by
    rw [getFileInfoIncludeDeleted,
      fetchOptional_singleton (p := fun r : FileRow => r.fileId = 1) rfl]
    rfl
  have hdelete : deleteFile env someInputs.delete.store.now someInputs.delete.newFileId
      ((namedRow env req).toFileInfo env).accountHash 1 [namedRow env req] =
        .error (.database ("파일 존재 여부 확인 실패(sqlx): " ++ env.driver.decodeError)) := by
    rw [deleteFile, fetchOptional_singleton ⟨rfl, rfl⟩]
    simp [namedRow, blankRow, htext]
  have hfail : (handleDeleteFile env someInputs.delete (tokenOf req.accountHash) req
      (.ofFiles [namedRow env req])).1.response.success = false := by
    simp only [handleDeleteFile, verifiedAccount, tokenOf, hfile, Store.deleteFile]
    simp [AppState.ofFiles, hread, hdelete]
  exact Bool.noConfusion (hsuccess.symm.trans (heq.trans hfail))

/-- Otherwise it deletes the file of the other account, if that has the same id. -/
theorem not_isolated_delete_of_some {req : DeleteFileRequest} {text : String} (hid : req.fileId = 0)
    (htext : env.driver.text .empty = some text) : ¬Isolated env req.accountHash (.delete req) := by
  intro h
  set b : FileRow := blankRow (otherAccount req.accountHash) 1 with hb
  obtain ⟨t, hperm, hinfo⟩ := exists_perm_getFileInfo env req (b := b) rfl
  have hfetch : fetchOptional env.planner
      (fun r => r.fileId = 1 ∧ r.accountHash = otherAccount req.accountHash) t = some b :=
    fetchOptional_eq_some_of_unique (filter_eq_singleton_of_perm (hperm.trans (.swap ..)) ⟨rfl, rfl⟩
      fun hr => otherAccount_ne _ hr.2.symm)
  have hfile := fileForDeletion_of_unique hid
    (filter_eq_singleton_of_perm hperm ⟨rfl, rfl⟩ fun hr => otherAccount_ne _ hr.1)
  obtain ⟨t', hdelete⟩ :
      ∃ t', deleteFile env someInputs.delete.store.now someInputs.delete.newFileId
        (otherAccount req.accountHash) 1 t = .ok ((), t') := by
    rw [deleteFile, hfetch]
    simp [hb, blankRow, htext]
  have hkeep := (h someInputs (tokenOf _) (.ofFiles t) (.ofFiles t) rfl
    (agreeOn_ofFiles rfl)).2.files
  refine filter_ne_deleteFile hdelete (otherAccount_ne _) ?_
  have hread : getFileInfoIncludeDeleted env (AppState.ofFiles t).files 1 =
      some (b.toFileInfo env, false) := hinfo
  have hdelete' : deleteFile env someInputs.delete.store.now someInputs.delete.newFileId
      (b.toFileInfo env).accountHash 1 (AppState.ofFiles t).files = .ok ((), t') := hdelete
  have hafter : ((FileRequest.delete req).handle env someInputs (tokenOf req.accountHash)
      (.ofFiles t)).2.files = t' := by
    simp [FileRequest.handle, handleDeleteFile, verifiedAccount, tokenOf, hfile,
      Store.deleteFile, hread,
      hdelete']
  rw [hafter] at hkeep
  exact hkeep

/-- A deletion by id reveals whether an account had the file. -/
theorem not_isolated_delete_of_pos {req : DeleteFileRequest} (hpos : 0 < req.fileId)
    (hlt : req.fileId < 2 ^ 63) : ¬Isolated env accountHash (.delete req) := by
  intro h
  set b : FileRow := { blankRow (otherAccount accountHash) req.fileId with isDeleted := true }
  have heq := h.eq_nil (t := [b]) (by simpa [b, blankRow] using otherAccount_ne accountHash)
  have hfound : checkFileExists env (AppState.ofFiles [b]).files req.fileId = (true, true) := by
    rw [checkFileExists, AppState.ofFiles, fetchOptional_singleton ⟨rfl, hlt⟩]
  have hnone : checkFileExists env (AppState.ofFiles []).files req.fileId = (false, false) := by
    rw [checkFileExists, AppState.ofFiles, fetchOptional_nil]
  simp [FileRequest.handle, handleDeleteFile, verifiedAccount, tokenOf, fileForDeletion, hpos,
    validateFileForDeletion, hfound, hnone] at heq

theorem not_isolated_delete {req : DeleteFileRequest} (hlt : req.fileId < 2 ^ 63) :
    ¬Isolated env accountHash (.delete req) := by
  rcases Nat.eq_zero_or_pos req.fileId with hid | hpos
  · by_cases hacc : req.accountHash = accountHash
    · subst hacc
      rcases htext : env.driver.text .empty with _ | text
      · exact not_isolated_delete_of_none hid htext
      · exact not_isolated_delete_of_some hid htext
    · exact not_isolated_delete_other hid hacc
  · exact not_isolated_delete_of_pos hpos hlt

/-! ## The requests that are isolated -/

/-- A request is isolated if and only if it stays inside the account of its token. -/
theorem isolated_iff (env : Env) (accountHash : String) (req : FileRequest) :
    Isolated env accountHash req ↔ StaysInside accountHash req := by
  refine ⟨fun h => ?_, isolated_of_staysInside⟩
  rcases req with req | req | req | req | req
  · exact not_imp_not.1 (fun hne => not_isolated_list hne) h
  · exact not_imp_not.1 (fun hne => not_isolated_find hne) h
  · exact not_isolated_download req h
  · exact not_lt.1 fun hlt => not_isolated_check hlt h
  · exact not_lt.1 fun hlt => not_isolated_delete hlt h

end

/-- A server with a file of `bob`. -/
def bobServer : AppState where
  files := [{ blankRow "bob" 3 with
    filePath := "~/b.txt".toByteArray, filename := "b.txt".toByteArray, serverGroupId := 1 }]
  fileData _ := none
  cache _ := none
  watchers := ⟨[⟨1, 5, "bob", "", "", 0, 0, true⟩], []⟩
  encryptionKeys _ := none
  manager := none

/-- The files of `bob`, as `alice` asks for them. -/
def bobListing : ListFilesRequest := ⟨"bob", "d", 5, none⟩

/-- With a token of `alice`, the files of `bob` are listed. -/
theorem token_lists_other_account :
    verifiedAccount (tokenOf "alice") = some "alice" ∧ bobServer.AgreeOn "alice" .empty ∧
      ((handleListFiles .plain someInputs.list (tokenOf "alice") bobListing bobServer).files.map
        fun f => (f.filePath, f.filename)) = [("~/b.txt", "b.txt")] ∧
      (handleListFiles .plain someInputs.list (tokenOf "alice") bobListing .empty).files = [] ∧
      ¬Isolated .plain "alice" (.list bobListing) := by
  have hagree : bobServer.AgreeOn "alice" .empty :=
    ⟨by decide, by decide, ⟨by decide, by decide⟩, rfl⟩
  refine ⟨rfl, hagree, by decide, by decide, fun h => ?_⟩
  have heq := (h someInputs (tokenOf "alice") bobServer .empty rfl hagree).1
  have hfiles := congrArg ListFilesResponse.files (FileResponse.list.inj heq)
  exact absurd (congrArg List.length hfiles) (by decide)

end CosmicSync
