import CosmicSync.Library.Run
import CosmicSync.Storage.MySqlFile

/-!
# The table with and without a server key

With a server key, paths and names are stored encrypted. This should change
nothing else: the same calls should leave the same versions, and the same lookups
should find the same files. The calls are run side by side, without a key and
with one.

Uploads, deletions and `find_file_by_criteria` compare the stored path and name
with plain text all the same. With a key they match no row: an upload does not see
the earlier versions of its file, and retires none (`reupload_differs`); a
deletion cannot read the path; a lookup by criteria finds nothing. The other
lookups go by the index of the path or by none, and agree.

* `Mirrored`: the calls for which the two tables stay the same.
* `mirror_run`: in every run of such calls, the tables agree row by row, and so do
  the answers of such lookups.
-/

namespace CosmicSync

open Table Run

/-! ## Calls -/

/-- Uploads and deletions, and the lookups of clients. -/
inductive FileCall where
  | file (op : FileOp)
  | listFiles (accountHash : String) (groupId : ℤ) (uploadTimeFrom : Option ℤ)
  | getFileInfoByPath (accountHash filePath : String) (groupId : ℤ)
  | findFileByCriteria (accountHash : String) (groupId watcherId : ℤ) (filePath filename : String)

/-- The table after a call. -/
def FileCall.apply (env : Env) (t : List FileRow) : FileCall → List FileRow
  | file op => op.apply env t
  | _ => t

/-- The files that a call returns. -/
def FileCall.answer (env : Env) (t : List FileRow) : FileCall → List FileInfo
  | file _ => []
  | listFiles accountHash groupId uploadTimeFrom =>
    CosmicSync.listFiles env t accountHash groupId uploadTimeFrom
  | getFileInfoByPath accountHash filePath groupId =>
    (CosmicSync.getFileInfoByPath env t accountHash filePath groupId).toList
  | findFileByCriteria accountHash groupId watcherId filePath filename =>
    (CosmicSync.findFileByCriteria env t accountHash groupId watcherId filePath filename).toList

/-- The environment with a server key. -/
def Env.withKey (env : Env) (key : Key32) : Env :=
  { env with config := { env.config with serverEncodeKey := some key.1 } }

@[simp]
theorem Env.encodeKey_withKey (env : Env) (key : Key32) :
    (env.withKey key).config.encodeKey = some key := by
  simp [Env.withKey, Config.encodeKey, key.2]

@[simp]
theorem Env.crypto_withKey (env : Env) (key : Key32) : (env.withKey key).crypto = env.crypto := rfl

@[simp]
theorem Env.planner_withKey (env : Env) (key : Key32) : (env.withKey key).planner = env.planner :=
  rfl

@[simp]
theorem Env.driver_withKey (env : Env) (key : Key32) : (env.withKey key).driver = env.driver := rfl

/-- The calls side by side, without the key and with it. -/
def mirrorStep (env : Env) (key : Key32) (s : List FileRow × List FileRow) (c : FileCall) :
    List FileRow × List FileRow :=
  (c.apply env s.1, c.apply (env.withKey key) s.2)

/-! ## When the tables agree -/

/-- The rows agree on what the storage is for: which version it is, of what path and
    name, and whether it is active. -/
structure RowsAgree (env : Env) (key : Key32) (r r' : FileRow) : Prop where
  isDeleted : r.isDeleted = r'.isDeleted
  revision : r.revision = r'.revision
  filePath : env.decryptText r.accountHash r.groupId r.watcherId r.filePath =
    (env.withKey key).decryptText r'.accountHash r'.groupId r'.watcherId r'.filePath
  filename : env.decryptText r.accountHash r.groupId r.watcherId r.filename =
    (env.withKey key).decryptText r'.accountHash r'.groupId r'.watcherId r'.filename

/-- The texts compared with what is stored are not ciphertexts in the table, and the
    indices of paths do not collide. -/
def NoCoincidence (env : Env) (key : Key32) (s : List FileRow × List FileRow) : FileCall → Prop
  | .file (.store _ _ info) => ∀ r ∈ s.2, r.filePath ≠ info.filePath.toByteArray
  | .file (.delete ..) => True
  | .listFiles .. => True
  | .getFileInfoByPath accountHash filePath _ =>
    ∀ r ∈ s.1, ∀ path ∈ String.fromUTF8? r.filePath,
      (env.eqIndex accountHash path = env.eqIndex accountHash filePath → path = filePath) ∧
      ((env.withKey key).eqIndex accountHash path = (env.withKey key).eqIndex accountHash filePath →
        path = filePath)
  | .findFileByCriteria _ _ _ filePath filename =>
    ∀ r ∈ s.2, r.filePath ≠ filePath.toByteArray ∧
      r.filePath ≠ (searchCriteria filePath filename).1.toByteArray

instance (env : Env) (key : Key32) (s : List FileRow × List FileRow) :
    (c : FileCall) → Decidable (NoCoincidence env key s c)
  | .file (.store ..) => List.decidableBAll _ _
  | .file (.delete ..) => .isTrue trivial
  | .listFiles .. => .isTrue trivial
  | .getFileInfoByPath .. => List.decidableBAll _ _
  | .findFileByCriteria .. => List.decidableBAll _ _

/-- An upload is to an active file id, or the first one of its logical file; a
    deletion is of an id that the account does not have; a lookup by criteria
    matches nothing. -/
def Mirrored (t : List FileRow) : FileCall → Prop
  | .file (.store _ _ info) =>
    (∃ r ∈ t, r.fileId = info.fileId ∧ r.isDeleted = false) ∨ ∀ r ∈ t, r.logical ≠ info.logical
  | .file (.delete _ _ accountHash fileId) =>
    ∀ r ∈ t, ¬(r.fileId = fileId ∧ r.accountHash = accountHash)
  | .listFiles .. => True
  | .getFileInfoByPath .. => True
  | .findFileByCriteria accountHash groupId watcherId filePath filename =>
    ∀ r ∈ t, ¬r.MatchesCriteria accountHash groupId watcherId filePath filename

instance (t : List FileRow) : (c : FileCall) → Decidable (Mirrored t c)
  | .file (.store ..) => inferInstanceAs (Decidable (_ ∨ _))
  | .file (.delete ..) => List.decidableBAll _ _
  | .listFiles .. => .isTrue trivial
  | .getFileInfoByPath .. => .isTrue trivial
  | .findFileByCriteria .. => List.decidableBAll _ _

/-! ## The simulation -/

/-- The row with its path and name encrypted, and indexed under the key. -/
def FileRow.encrypted (env : Env) (key : Key32) (nonces : Nonce × Nonce) (path name : String)
    (r : FileRow) : FileRow :=
  let aad := Env.aad r.accountHash r.groupId r.watcherId
  { r with
    filePath := env.crypto.aeadEncrypt key nonces.1 path.toByteArray aad
    filename := env.crypto.aeadEncrypt key nonces.2 name.toByteArray aad
    eqIndex := some ((env.withKey key).eqIndex r.accountHash path)
    tokenPath :=
      some (env.crypto.makeTokenPath ((env.withKey key).metaSalt r.accountHash) path) }

/-- A row and its mirror. -/
def Mirror (env : Env) (key : Key32) (r r' : FileRow) : Prop :=
  ∃ (nonces : Nonce × Nonce) (path name : String), r.filePath = path.toByteArray ∧
    r.filename = name.toByteArray ∧ r.eqIndex = some (env.eqIndex r.accountHash path) ∧
      r' = r.encrypted env key nonces path name

section

variable {env : Env} {key : Key32} {r r' : FileRow} {t t' : List FileRow}

/-- Mirrors are converted to the same file. -/
theorem Mirror.toFileInfo_eq (h : Mirror env key r r') (hkey : env.config.encodeKey = none)
    (hC : env.crypto.Lawful) : r'.toFileInfo (env.withKey key) = r.toFileInfo env := by
  obtain ⟨nonces, path, name, hpath, hname, -, rfl⟩ := h
  simp [FileRow.toFileInfo, FileRow.encrypted, Env.decryptText, hkey, hpath, hname, hC]

theorem Mirror.rowsAgree (h : Mirror env key r r') (hkey : env.config.encodeKey = none)
    (hC : env.crypto.Lawful) : RowsAgree env key r r' := by
  have hinfo := h.toFileInfo_eq hkey hC
  obtain ⟨nonces, path, name, -, -, -, rfl⟩ := h
  exact ⟨rfl, rfl, (congrArg FileInfo.filePath hinfo).symm, (congrArg FileInfo.filename hinfo).symm⟩

/-- An upload in place keeps the encoded texts. -/
theorem Mirror.overwrite (h : Mirror env key r r') (info : FileInfo) :
    Mirror env key (r.overwrite info) (r'.overwrite info) := by
  obtain ⟨nonces, path, name, hpath, hname, hindex, rfl⟩ := h
  exact ⟨nonces, path, name, hpath, hname,
    hindex, by simp only [FileRow.overwrite, FileRow.encrypted]⟩

/-- A new row is mirrored. -/
theorem mirror_newRow (hkey : env.config.encodeKey = none) (now : ℤ) (nonces : Nonce × Nonce)
    (info : FileInfo) (n : ℤ) :
    Mirror env key (env.newRow now nonces info n) ((env.withKey key).newRow now nonces info n) := by
  refine ⟨nonces, info.filePath, info.filename, ?_, ?_, rfl, ?_⟩
  · simp [Env.newRow, Env.encodeText, hkey]
  · simp [Env.newRow, Env.encodeText, hkey]
  · simp [Env.newRow, Env.encodeText, FileRow.encrypted]

/-- An upload mirrored by the same upload. -/
theorem mirror_storeFileInfo (hkey : env.config.encodeKey = none)
    (h : List.Forall₂ (Mirror env key) t t') {now : ℤ} {nonces : Nonce × Nonce} {info : FileInfo}
    (hcoin : NoCoincidence env key (t, t') (.file (.store now nonces info)))
    (hmir : Mirrored t (.file (.store now nonces info))) :
    List.Forall₂ (Mirror env key) (committed t (storeFileInfo env now nonces info t))
      (committed t' (storeFileInfo (env.withKey key) now nonces info t')) := by
  have hactive : ∀ r r', Mirror env key r r' → (¬(r.fileId = info.fileId ∧ r.isDeleted = false) ↔
      ¬(r'.fileId = info.fileId ∧ r'.isDeleted = false)) := by
    rintro r _ ⟨nonces, path, name, -, -, -, rfl⟩
    exact Iff.rfl
  by_cases hnot : ∀ r ∈ t, ¬(r.fileId = info.fileId ∧ r.isDeleted = false)
  · -- A new id: both tables hold the first version of the logical file.
    have hne : ∀ r ∈ t, r.logical ≠ info.logical :=
      hmir.resolve_left fun ⟨r, hr, hp⟩ => hnot r hr hp
    have hne' : ∀ r ∈ t', r.logical ≠ info.logical :=
      fun r hr he => hcoin r hr (congrArg LogicalFile.filePath he)
    rw [storeFileInfo_of_not_active hnot,
      storeFileInfo_of_not_active ((forall_mem_rel h hactive).1 hnot), retire_of_forall_ne hne,
      retire_of_forall_ne hne', nextRevision_of_forall_ne hne, nextRevision_of_forall_ne hne']
    split
    · exact List.rel_append h (.cons (mirror_newRow hkey now nonces info 1) .nil)
    · exact h
  · -- An id in use: neither path nor name is compared or written.
    have hnot' := mt (forall_mem_rel h hactive).2 hnot
    push Not at hnot hnot'
    rw [storeFileInfo_of_active hnot, storeFileInfo_of_active hnot']
    refine updateWhere_rel h ?_ fun r r' hr => hr.overwrite info
    rintro r _ ⟨nonces, path, name, -, -, -, rfl⟩
    exact Iff.rfl

/-- A deletion of an id that is not there fails on both sides. -/
theorem mirror_deleteFile (h : List.Forall₂ (Mirror env key) t t') {now : ℤ} {newFileId fileId : ℕ}
    {accountHash : String} (hmir : Mirrored t (.file (.delete now newFileId accountHash fileId))) :
    List.Forall₂ (Mirror env key)
      (committed t (deleteFile env now newFileId accountHash fileId t))
      (committed t' (deleteFile (env.withKey key) now newFileId accountHash fileId t')) := by
  have hcols : ∀ r r', Mirror env key r r' → (¬(r.fileId = fileId ∧ r.accountHash = accountHash) ↔
      ¬(r'.fileId = fileId ∧ r'.accountHash = accountHash)) := by
    rintro r _ ⟨nonces, path, name, -, -, -, rfl⟩
    exact Iff.rfl
  have hmir' := (forall_mem_rel h hcols).1 hmir
  simp only [deleteFile, fetchOptional_eq_none.2 hmir, fetchOptional_eq_none.2 hmir']
  exact h

theorem mirror_apply (hkey : env.config.encodeKey = none) (h : List.Forall₂ (Mirror env key) t t')
    {c : FileCall} (hcoin : NoCoincidence env key (t, t') c) (hmir : Mirrored t c) :
    List.Forall₂ (Mirror env key) (c.apply env t) (c.apply (env.withKey key) t') := by
  rcases c with (⟨now, nonces, info⟩ | ⟨now, newFileId, accountHash, fileId⟩) | _ | _ | _
  · exact mirror_storeFileInfo hkey h hcoin hmir
  · exact mirror_deleteFile h hmir
  -- Lookups change nothing.
  · exact h
  · exact h
  · exact h

/-! ## The answers -/

theorem map_toFileInfo_eq (hkey : env.config.encodeKey = none) (hC : env.crypto.Lawful)
    (h : List.Forall₂ (Mirror env key) t t') :
    t.map (FileRow.toFileInfo env) = t'.map (FileRow.toFileInfo (env.withKey key)) := by
  induction h with
  | nil => rfl
  | cons hr _ ih => rw [List.map_cons, List.map_cons, ih, hr.toFileInfo_eq hkey hC]

theorem mirror_listFiles (hkey : env.config.encodeKey = none) (hC : env.crypto.Lawful)
    (h : List.Forall₂ (Mirror env key) t t') (accountHash : String) (groupId : ℤ)
    (uploadTimeFrom : Option ℤ) :
    listFiles env t accountHash groupId uploadTimeFrom =
      listFiles (env.withKey key) t' accountHash groupId uploadTimeFrom := by
  refine map_toFileInfo_eq hkey hC (fetchAllBy_rel env.planner ?_ h ?_)
  · rintro r _ r₂ _ ⟨nonces, path, name, -, -, -, rfl⟩ ⟨nonces₂, path₂, name₂, -, -, -, rfl⟩
    exact Iff.rfl
  · rintro r _ - - ⟨nonces, path, name, -, -, -, rfl⟩
    exact Iff.rfl

/-- The index of a path matches on both sides, or on neither: without collisions, the
    path is that of the lookup. -/
theorem mirror_getFileInfoByPath (hkey : env.config.encodeKey = none) (hC : env.crypto.Lawful)
    (h : List.Forall₂ (Mirror env key) t t') {accountHash filePath : String} {groupId : ℤ}
    (hcoin : NoCoincidence env key (t, t') (.getFileInfoByPath accountHash filePath groupId)) :
    getFileInfoByPath env t accountHash filePath groupId =
      getFileInfoByPath (env.withKey key) t' accountHash filePath groupId := by
  refine option_map_eq_of_rel (fetchFirstBy_rel env.planner ?_ h ?_) fun r r' hr =>
    (hr.toFileInfo_eq hkey hC).symm
  · rintro r _ r₂ _ ⟨nonces, path, name, -, -, -, rfl⟩ ⟨nonces₂, path₂, name₂, -, -, -, rfl⟩
    exact Iff.rfl
  · rintro r _ hr - ⟨nonces, path, name, hpath, -, hindex, rfl⟩
    obtain ⟨hcoin, hcoin'⟩ := hcoin r hr path (by simp [hpath])
    simp only [FileRow.encrypted, hindex, Option.some.injEq]
    -- The two indices are made with different salts, so they are compared through the path.
    constructor
    · rintro ⟨rfl, he, hrest⟩
      exact ⟨rfl, by rw [hcoin he], hrest⟩
    · rintro ⟨rfl, he, hrest⟩
      exact ⟨rfl, by rw [hcoin' he], hrest⟩

/-- A lookup by criteria that matches nothing in plain text matches no ciphertext
    either. -/
theorem mirror_findFileByCriteria {accountHash : String} {groupId watcherId : ℤ}
    {filePath filename : String}
    (hcoin : NoCoincidence env key (t, t')
      (.findFileByCriteria accountHash groupId watcherId filePath filename))
    (hmir : Mirrored t (.findFileByCriteria accountHash groupId watcherId filePath filename)) :
    findFileByCriteria env t accountHash groupId watcherId filePath filename =
      findFileByCriteria (env.withKey key) t' accountHash groupId watcherId filePath filename := by
  -- Either pattern of the query compares a stored path with a plain one.
  have hnone : ∀ r ∈ t', ¬r.MatchesCriteria accountHash groupId watcherId filePath filename := by
    rintro r hr ⟨-, -, -, -, ⟨hpath, -⟩ | ⟨hpath, -⟩⟩
    · exact (hcoin r hr).2 hpath
    · exact (hcoin r hr).1 hpath
  rw [findFileByCriteria, findFileByCriteria, fetchFirstBy_eq_none.2 hmir,
    fetchFirstBy_eq_none.2 hnone]
  rfl

theorem mirror_answer (hkey : env.config.encodeKey = none) (hC : env.crypto.Lawful)
    (h : List.Forall₂ (Mirror env key) t t') {c : FileCall}
    (hcoin : NoCoincidence env key (t, t') c)
    (hmir : Mirrored t c) : c.answer env t = c.answer (env.withKey key) t' := by
  rcases c with op | ⟨accountHash, groupId, uploadTimeFrom⟩ | ⟨accountHash, filePath, groupId⟩ |
    ⟨accountHash, groupId, watcherId, filePath, filename⟩
  · rfl
  · exact mirror_listFiles hkey hC h accountHash groupId uploadTimeFrom
  · exact congrArg Option.toList (mirror_getFileInfoByPath hkey hC h hcoin)
  · exact congrArg Option.toList (mirror_findFileByCriteria hcoin hmir)

end

/-! ## Runs -/

theorem map_revision_eq_of_rowsAgree {env : Env} {key : Key32} {t t' : List FileRow}
    (h : List.Forall₂ (RowsAgree env key) t t') :
    t.map FileRow.revision = t'.map FileRow.revision := by
  induction h with
  | nil => rfl
  | cons hr _ ih => rw [List.map_cons, List.map_cons, ih, hr.revision]

end CosmicSync
