import CosmicSync.Library.Run
import CosmicSync.Library.Segments
import CosmicSync.Storage.MySqlFile
import CosmicSync.Utils.TokenPaths

/-!
# Encrypting the paths that are stored already

`migrate_encrypt_paths` of `storage/mysql.rs`: once there is a server key, the rows without an
index are encrypted and indexed, a batch at a time. A row is taken as plain text if its path or
its name does not decrypt. The batch is read first, and written back by `file_id`, so that a row
may be written several times, from what another row of its file was before.

A ciphertext is 28 bytes longer than its text, and the tokens of a path have 44 characters for a
segment; but the columns are as wide as they were. A row that does not fit is refused, and the
batch with it, every time.

* `migrateEncryptPaths`: a call, with a batch of the engine's choosing.
* `Migratable`: the tables that the migration is for.
* `migrates_iff`: the texts stay, the indices are set, and the last call finds nothing to do,
  exactly if everything fits.
-/

namespace CosmicSync

open Table Run Segments

/-! ## The call -/

namespace FileRow

/-- `(eq_index IS NULL OR LENGTH(eq_index)=0) OR (token_path IS NULL OR token_path='')`. -/
def IsUnindexed (r : FileRow) : Prop :=
  (r.eqIndex = none ∨ r.eqIndex = some ByteArray.empty) ∨
    (r.tokenPath = none ∨ r.tokenPath = some "")

instance : DecidablePred IsUnindexed := fun _ => inferInstanceAs (Decidable (_ ∨ _))

/-- The associated data of a row. -/
def aad (r : FileRow) : ByteArray := Env.aad r.accountHash r.groupId r.watcherId

end FileRow

/-- The columns that the call writes. -/
structure PathColumns where
  filePath : ByteArray
  filename : ByteArray
  eqIndex : ByteArray
  tokenPath : String
  deriving DecidableEq

namespace PathColumns

/-- `VARBINARY(2048)`, `VARBINARY(512)`, `VARBINARY(32)` and `VARCHAR(4096)`. -/
def Fits (v : PathColumns) : Prop :=
  v.filePath.size ≤ 2048 ∧ v.filename.size ≤ 512 ∧ v.eqIndex.size ≤ 32 ∧ v.tokenPath.length ≤ 4096

instance : DecidablePred Fits := fun _ => inferInstanceAs (Decidable (_ ∧ _))

/-- `UPDATE files SET file_path = ?, filename = ?, eq_index = ?, token_path = ?`. -/
def write (v : PathColumns) (r : FileRow) : FileRow :=
  { r with
    filePath := v.filePath
    filename := v.filename
    eqIndex := some v.eqIndex
    tokenPath := some v.tokenPath }

/-- What is written for a row. -/
def migrate (C : Crypto) (key : Key32) (nonces : Nonce × Nonce) (r : FileRow) : PathColumns :=
  let salt := C.deriveSalt key "meta-index" r.accountHash
  match C.aeadDecrypt key r.filePath r.aad, C.aeadDecrypt key r.filename r.aad with
  | .ok plainPath, .ok _ =>
    ⟨r.filePath, r.filename, C.makeEqIndex salt (fromUtf8Lossy plainPath),
      C.makeTokenPath salt (fromUtf8Lossy plainPath)⟩
  | _, _ =>
    let plainPath := fromUtf8Lossy r.filePath
    let plainName := fromUtf8Lossy r.filename
    ⟨C.aeadEncrypt key nonces.1 plainPath.toByteArray r.aad,
      C.aeadEncrypt key nonces.2 plainName.toByteArray r.aad,
      C.makeEqIndex salt plainPath, C.makeTokenPath salt plainPath⟩

end PathColumns

/-- What a call does not determine: the order in which the rows are read, and the nonces of the
    row at each position of the batch. -/
structure MigrationChoice where
  planner : Planner
  nonces : ℕ → Nonce × Nonce

/-- One row of the batch, as it was read: all rows of its file are written. -/
def migrateRow (env : Env) (key : Key32) (nonces : ℕ → Nonce × Nonce) (t : List FileRow)
    (x : FileRow × ℕ) : Except StorageError (List FileRow) :=
  let v := PathColumns.migrate env.crypto key (nonces x.2) x.1
  if v.Fits then .ok (updateWhere (fun f => f.fileId = x.1.fileId) v.write t)
  else .error (.database env.driver.rangeError)

/-- The batch. -/
def migrationBatch (choice : MigrationChoice) (batchSize : UInt64) (t : List FileRow) :
    List FileRow :=
  (fetchAll choice.planner FileRow.IsUnindexed t).take batchSize.toNat

/-- `migrate_encrypt_paths`: the number of rows of the batch. A limit that is negative as an
    `i64` is refused. -/
def migrateEncryptPaths (env : Env) (choice : MigrationChoice) (batchSize : UInt64)
    (t : List FileRow) : Except StorageError (ℕ × List FileRow) :=
  match env.config.encodeKey with
  | none => .ok (0, t)
  | some key =>
    if 0 ≤ asI64 batchSize.toNat then
      let rows := migrationBatch choice batchSize t
      (rows.zipIdx.foldlM (migrateRow env key choice.nonces) t).map fun t' => (rows.length, t')
    else .error (.database env.driver.rangeError)

/-- The table after a call. -/
def migrationStep (env : Env) (batchSize : UInt64) (t : List FileRow) (choice : MigrationChoice) :
    List FileRow := committed t (migrateEncryptPaths env choice batchSize t)

/-- The table after the first `n` calls. -/
def migratedTable (env : Env) (batchSize : UInt64) (choices : ℕ → MigrationChoice)
    (t : List FileRow) (n : ℕ) : List FileRow :=
  run (migrationStep env batchSize) t ((List.range n).map choices)

/-! ## What it is for -/

/-- The path of a row, in plain text. -/
def FileRow.pathText (env : Env) (r : FileRow) : String :=
  env.decryptText r.accountHash r.groupId r.watcherId r.filePath

/-- The name of a row, in plain text. -/
def FileRow.nameText (env : Env) (r : FileRow) : String :=
  env.decryptText r.accountHash r.groupId r.watcherId r.filename

/-- The index and the tokens of the row `u` are those of the path of `r`, under the salt of its
    account. -/
def IndexedAs (env : Env) (r u : FileRow) : Prop :=
  u.eqIndex = some (env.eqIndex r.accountHash (r.pathText env)) ∧
    u.tokenPath = some (env.crypto.makeTokenPath (env.metaSalt r.accountHash) (r.pathText env))

/-- What has become of the row `r` in the table `t'`, after a call for the batch `rows`: it has
    its path and its name; and if it is one of the batch it is indexed, so that it is looked up by
    its path as long as it is active. -/
structure Preserved (env : Env) (rows t' : List FileRow) (r u : FileRow) : Prop where
  pathText : u.pathText env = r.pathText env
  nameText : u.nameText env = r.nameText env
  indexed : r ∈ rows → IndexedAs env r u
  found : r ∈ rows → r.isDeleted = false →
    ∃ info ∈ getFileInfoByPath env t' r.accountHash (r.pathText env) r.serverGroupId,
      r.revision ≤ info.revision

/-- A call succeeds, and preserves every row. -/
def CallMigrates (env : Env) (choice : MigrationChoice) (batchSize : UInt64) (t : List FileRow) :
    Prop :=
  ∃ n t', migrateEncryptPaths env choice batchSize t = .ok (n, t') ∧
    List.Forall₂ (Preserved env (migrationBatch choice batchSize t) t') t t'

/-- Every call of a sequence does so; and if the batches are not empty, nor the paths, a call
    finds nothing to do. -/
structure Migrates (env : Env) (choices : ℕ → MigrationChoice) (batchSize : UInt64)
    (t : List FileRow) : Prop where
  calls : ∀ n, CallMigrates env (choices n) batchSize (migratedTable env batchSize choices t n)
  returns_zero : 1 ≤ batchSize.toNat → (∀ r ∈ t, components '/' (r.pathText env).toList ≠ []) →
    ∃ n t', migrateEncryptPaths env (choices n) batchSize
        (migratedTable env batchSize choices t n) = .ok (0, t')

/-! ## The tables -/

/-- Path and name are texts, and do not decrypt. -/
structure IsPlaintext (C : Crypto) (key : Key32) (r : FileRow) : Prop where
  filePath : ∃ path : String, r.filePath = path.toByteArray
  filename : ∃ name : String, r.filename = name.toByteArray
  filePath_error : (C.aeadDecrypt key r.filePath r.aad).isOk = false
  filename_error : (C.aeadDecrypt key r.filename r.aad).isOk = false

/-- Path and name are ciphertexts. -/
structure IsCiphertext (C : Crypto) (key : Key32) (r : FileRow) : Prop where
  filePath : ∃ nonce plaintext, r.filePath = C.aeadEncrypt key nonce plaintext r.aad
  filename : ∃ nonce plaintext, r.filename = C.aeadEncrypt key nonce plaintext r.aad

/-- The rows are plain texts or ciphertexts, in their columns; and those of a file agree. -/
structure Migratable (env : Env) (key : Key32) (t : List FileRow) : Prop where
  texts : ∀ r ∈ t, IsPlaintext env.crypto key r ∨ IsCiphertext env.crypto key r
  sizes : ∀ r ∈ t, r.filePath.size ≤ 2048 ∧ r.filename.size ≤ 512
  agree : ∀ r ∈ t, ∀ r' ∈ t, r.fileId = r'.fileId →
    r.accountHash = r'.accountHash ∧ r.groupId = r'.groupId ∧ r.watcherId = r'.watcherId ∧
      r.pathText env = r'.pathText env ∧ r.nameText env = r'.nameText env

/-- The row fits when it is encrypted: unless it is, there are 28 bytes left in both columns; and
    its path has at most 93 segments. -/
def FitsEncrypted (env : Env) (key : Key32) (r : FileRow) : Prop :=
  ((env.crypto.aeadDecrypt key r.filePath r.aad).isOk ∨
      r.filePath.size + 28 ≤ 2048 ∧ r.filename.size + 28 ≤ 512) ∧
    (components '/' (r.pathText env).toList).length ≤ 93

instance (env : Env) (key : Key32) : DecidablePred (FitsEncrypted env key) :=
  fun _ => inferInstanceAs (Decidable (_ ∧ _))

/-- There is a server key, and the primitives do what they are documented to do. -/
structure Env.EncryptsWith (env : Env) (key : Key32) : Prop where
  encodeKey : env.config.encodeKey = some key
  lawful : env.crypto.Lawful
  documented : env.crypto.Documented
  sized : env.crypto.Sized

/-! ## What is written for a row -/

section

variable {env : Env} {key : Key32} {nonces : Nonce × Nonce} {r x : FileRow} {v : PathColumns}

theorem decryptText_of_ok (hE : env.EncryptsWith key) {accountHash : String}
    {groupId watcherId : ℤ} {data plaintext : ByteArray}
    (h : env.crypto.aeadDecrypt key data (Env.aad accountHash groupId watcherId) = .ok plaintext) :
    env.decryptText accountHash groupId watcherId data = fromUtf8Lossy plaintext := by
  rw [Env.decryptText, hE.encodeKey]
  simp only [h]

theorem decryptText_of_error (hE : env.EncryptsWith key) {accountHash : String}
    {groupId watcherId : ℤ} {data : ByteArray}
    (h : (env.crypto.aeadDecrypt key data (Env.aad accountHash groupId watcherId)).isOk = false) :
    env.decryptText accountHash groupId watcherId data = fromUtf8Lossy data := by
  rw [Env.decryptText, hE.encodeKey]
  rcases hdecrypt : env.crypto.aeadDecrypt key data (Env.aad accountHash groupId watcherId)
    with e | plaintext
  · simp only [hdecrypt]
  · rw [hdecrypt] at h
    cases h

/-- What should be written for a row: ciphertexts of its path and its name, and the index of its
    path. -/
structure Encrypts (env : Env) (key : Key32) (r : FileRow) (v : PathColumns) : Prop where
  filePath : ∃ nonce plaintext, v.filePath = env.crypto.aeadEncrypt key nonce plaintext r.aad
  filename : ∃ nonce plaintext, v.filename = env.crypto.aeadEncrypt key nonce plaintext r.aad
  pathText : env.decryptText r.accountHash r.groupId r.watcherId v.filePath = r.pathText env
  nameText : env.decryptText r.accountHash r.groupId r.watcherId v.filename = r.nameText env
  eqIndex : v.eqIndex = env.eqIndex r.accountHash (r.pathText env)
  tokenPath : v.tokenPath = env.crypto.makeTokenPath (env.metaSalt r.accountHash) (r.pathText env)

theorem IsCiphertext.aeadDecrypt (hE : env.EncryptsWith key) (h : IsCiphertext env.crypto key r) :
    ∃ plainPath plainName, env.crypto.aeadDecrypt key r.filePath r.aad = .ok plainPath ∧
      env.crypto.aeadDecrypt key r.filename r.aad = .ok plainName := by
  obtain ⟨⟨nonce, plainPath, hpath⟩, ⟨nonce', plainName, hname⟩⟩ := h
  refine ⟨plainPath, plainName, ?_, ?_⟩
  · rw [hpath, Crypto.aeadDecrypt_aeadEncrypt hE.lawful]
  · rw [hname, Crypto.aeadDecrypt_aeadEncrypt hE.lawful]

theorem Env.metaSalt_of_key (hE : env.EncryptsWith key) (accountHash : String) :
    env.metaSalt accountHash = env.crypto.deriveSalt key "meta-index" accountHash := by
  rw [Env.metaSalt, hE.encodeKey]

/-- A ciphertext is kept. -/
theorem migrate_of_isCiphertext (hE : env.EncryptsWith key)
    (h : IsCiphertext env.crypto key r) :
    PathColumns.migrate env.crypto key nonces r = ⟨r.filePath, r.filename,
      env.eqIndex r.accountHash (r.pathText env),
      env.crypto.makeTokenPath (env.metaSalt r.accountHash) (r.pathText env)⟩ := by
  obtain ⟨plainPath, plainName, hpath, hname⟩ := h.aeadDecrypt hE
  have htext : r.pathText env = fromUtf8Lossy plainPath := decryptText_of_ok hE hpath
  simp only [PathColumns.migrate, hpath, hname]
  rw [htext, Env.eqIndex, Env.metaSalt_of_key hE]

/-- A plain text is encrypted. -/
theorem migrate_of_isPlaintext (hE : env.EncryptsWith key) (h : IsPlaintext env.crypto key r) :
    PathColumns.migrate env.crypto key nonces r =
      ⟨env.crypto.aeadEncrypt key nonces.1 r.filePath r.aad,
        env.crypto.aeadEncrypt key nonces.2 r.filename r.aad,
        env.eqIndex r.accountHash (r.pathText env),
        env.crypto.makeTokenPath (env.metaSalt r.accountHash) (r.pathText env)⟩ := by
  have htext : r.pathText env = fromUtf8Lossy r.filePath := decryptText_of_error hE h.filePath_error
  obtain ⟨⟨path, hpath⟩, ⟨name, hname⟩, herror, -⟩ := h
  rcases hdecrypt : env.crypto.aeadDecrypt key r.filePath r.aad with e | plaintext
  · simp only [PathColumns.migrate, hdecrypt]
    rw [htext, Env.eqIndex, Env.metaSalt_of_key hE, hpath, hname, fromUtf8Lossy_toByteArray,
      fromUtf8Lossy_toByteArray]
  · rw [hdecrypt] at herror
    cases herror

theorem encrypts_migrate (hE : env.EncryptsWith key)
    (h : IsPlaintext env.crypto key r ∨ IsCiphertext env.crypto key r) :
    Encrypts env key r (PathColumns.migrate env.crypto key nonces r) := by
  rcases h with h | h
  · rw [migrate_of_isPlaintext hE h]
    have hpath : r.pathText env = fromUtf8Lossy r.filePath :=
      decryptText_of_error hE h.filePath_error
    have hname : r.nameText env = fromUtf8Lossy r.filename :=
      decryptText_of_error hE h.filename_error
    refine ⟨⟨_, _, rfl⟩, ⟨_, _, rfl⟩, ?_, ?_, rfl, rfl⟩
    · rw [hpath]
      exact decryptText_of_ok hE (Crypto.aeadDecrypt_aeadEncrypt hE.lawful ..)
    · rw [hname]
      exact decryptText_of_ok hE (Crypto.aeadDecrypt_aeadEncrypt hE.lawful ..)
  · rw [migrate_of_isCiphertext hE h]
    exact ⟨h.filePath, h.filename, rfl, rfl, rfl, rfl⟩

/-- Whether a row fits does not depend on the nonces. -/
theorem fits_migrate_iff (hE : env.EncryptsWith key)
    (h : IsPlaintext env.crypto key r ∨ IsCiphertext env.crypto key r)
    (hr : r.filePath.size ≤ 2048 ∧ r.filename.size ≤ 512) :
    (PathColumns.migrate env.crypto key nonces r).Fits ↔ FitsEncrypted env key r := by
  have hindex : (env.eqIndex r.accountHash (r.pathText env)).size = 32 := hE.sized.hmacSha256 _ _
  have htokens := Crypto.length_makeTokenPath hE.documented.base64Encode
    (hE.sized.hmacSha256 (env.metaSalt r.accountHash)) (r.pathText env)
  rw [PathColumns.Fits, FitsEncrypted]
  rcases h with h | h
  · rw [migrate_of_isPlaintext hE h]
    dsimp only
    rw [hE.sized.aeadEncrypt, hE.sized.aeadEncrypt, hindex, htokens, h.filePath_error]
    simp only [Bool.false_eq_true, false_or]
    omega
  · rw [migrate_of_isCiphertext hE h]
    obtain ⟨plainPath, -, hpath, -⟩ := h.aeadDecrypt hE
    dsimp only
    rw [hindex, htokens, hpath]
    simp only [Except.isOk, Except.toBool, true_or, true_and]
    omega

/-- A row of the same file, after what is written for `x`. -/
theorem Encrypts.write (h : Encrypts env key x v) (haccount : x.accountHash = r.accountHash)
    (hgroup : x.groupId = r.groupId) (hwatcher : x.watcherId = r.watcherId)
    (hpath : x.pathText env = r.pathText env) (hname : x.nameText env = r.nameText env) :
    (v.write r).pathText env = r.pathText env ∧ (v.write r).nameText env = r.nameText env ∧
      IndexedAs env r (v.write r) ∧ IsCiphertext env.crypto key (v.write r) := by
  have haad : x.aad = (v.write r).aad := by
    rw [FileRow.aad, haccount, hgroup, hwatcher]
    rfl
  refine ⟨?_, ?_, ⟨?_, ?_⟩, ⟨?_, ?_⟩⟩
  · rw [← hpath, ← h.pathText, haccount, hgroup, hwatcher]
    rfl
  · rw [← hname, ← h.nameText, haccount, hgroup, hwatcher]
    rfl
  · rw [← haccount, ← hpath, ← h.eqIndex]
    rfl
  · rw [← haccount, ← hpath, ← h.tokenPath]
    rfl
  · rw [← haad]
    exact h.filePath
  · rw [← haad]
    exact h.filename

end

/-! ## One call -/

/-- What a batch has made of a row: nothing, as long as it is not done; or what is written for a
    row of its file. -/
inductive Rewritten (C : Crypto) (key : Key32) (t done : List FileRow) (r : FileRow) :
    FileRow → Prop
  | kept (hdone : r ∉ done) : Rewritten C key t done r r
  | written {x : FileRow} {nonces : Nonce × Nonce} (hx : x ∈ t) (hid : x.fileId = r.fileId)
    (hfits : (PathColumns.migrate C key nonces x).Fits) :
    Rewritten C key t done r ((PathColumns.migrate C key nonces x).write r)

section

variable {env : Env} {key : Key32} {nonces : ℕ → Nonce × Nonce} {t t' done : List FileRow}
  {r u x : FileRow} {choice : MigrationChoice} {batchSize : UInt64}

/-- The rows of the file of `x` are written; the file of another row is not that of `x`. -/
theorem Rewritten.update {n : Nonce × Nonce} (h : Rewritten env.crypto key t done r u) (hx : x ∈ t)
    (hfits : (PathColumns.migrate env.crypto key n x).Fits) :
    Rewritten env.crypto key t (done ++ [x]) r
      (if u.fileId = x.fileId then (PathColumns.migrate env.crypto key n x).write u else u) := by
  cases h with
  | kept hdone =>
    by_cases hid : r.fileId = x.fileId
    · rw [if_pos hid]
      exact .written hx hid.symm hfits
    · rw [if_neg hid]
      refine .kept fun hmem => ?_
      rcases List.mem_append.1 hmem with hmem | hmem
      · exact hdone hmem
      · exact hid (by rw [List.mem_singleton.1 hmem])
  | @written x' n' hx' hid' hfits' =>
    by_cases hid : r.fileId = x.fileId
    · have hwrite : ((PathColumns.migrate env.crypto key n' x').write r).fileId = x.fileId := hid
      rw [if_pos hwrite]
      exact .written hx hid.symm hfits
    · have hwrite : ((PathColumns.migrate env.crypto key n' x').write r).fileId ≠ x.fileId := hid
      rw [if_neg hwrite]
      exact .written hx' hid' hfits'

/-- The table after the rows `l`, if they all fit. -/
def rewriteAll (C : Crypto) (key : Key32) (nonces : ℕ → Nonce × Nonce) (t : List FileRow)
    (l : List (FileRow × ℕ)) : List FileRow :=
  l.foldl (fun u x => updateWhere (fun f => f.fileId = x.1.fileId)
    (PathColumns.migrate C key (nonces x.2) x.1).write u) t

theorem rewritten_rewriteAll {u : List FileRow} (l : List (FileRow × ℕ))
    (hl : ∀ x ∈ l, x.1 ∈ t ∧ (PathColumns.migrate env.crypto key (nonces x.2) x.1).Fits)
    (h : List.Forall₂ (Rewritten env.crypto key t done) t u) :
    List.Forall₂ (Rewritten env.crypto key t (done ++ l.map Prod.fst)) t
      (rewriteAll env.crypto key nonces u l) := by
  induction l generalizing done u with
  | nil => rwa [List.map_nil, List.append_nil]
  | cons x l ih =>
    obtain ⟨hx, hfits⟩ := hl x List.mem_cons_self
    rw [List.map_cons, List.append_cons]
    exact ih (fun x' hx' => hl x' (List.mem_cons_of_mem _ hx'))
      (List.forall₂_map_right_iff.2 (h.imp fun r u hu => hu.update hx hfits))

theorem foldlM_migrateRow (l : List (FileRow × ℕ)) (t : List FileRow) :
    l.foldlM (migrateRow env key nonces) t =
      if ∀ x ∈ l, (PathColumns.migrate env.crypto key (nonces x.2) x.1).Fits then
        .ok (rewriteAll env.crypto key nonces t l)
      else .error (.database env.driver.rangeError) := by
  induction l generalizing t with
  | nil => rfl
  | cons x l ih =>
    rw [List.foldlM_cons, migrateRow]
    by_cases hfits : (PathColumns.migrate env.crypto key (nonces x.2) x.1).Fits
    · rw [if_pos hfits]
      refine (ih _).trans ?_
      simp only [List.forall_mem_cons, hfits, true_and]
      rfl
    · rw [if_neg hfits, if_neg fun h => hfits (h x List.mem_cons_self)]
      rfl

theorem asI64_nonneg_iff (n : UInt64) : 0 ≤ asI64 n.toNat ↔ n.toNat < 2 ^ 63 := by
  constructor
  · intro h
    by_contra hle
    have hneg := asI64_neg (not_lt.1 hle) n.toNat_lt
    omega
  · intro h
    rw [asI64_of_lt h]
    omega

/-- A call succeeds if the limit is not negative, and all rows of the batch fit. -/
theorem migrateEncryptPaths_eq (hE : env.EncryptsWith key) :
    migrateEncryptPaths env choice batchSize t =
      if batchSize.toNat < 2 ^ 63 ∧ ∀ x ∈ (migrationBatch choice batchSize t).zipIdx,
          (PathColumns.migrate env.crypto key (choice.nonces x.2) x.1).Fits then
        .ok ((migrationBatch choice batchSize t).length,
          rewriteAll env.crypto key choice.nonces t (migrationBatch choice batchSize t).zipIdx)
      else .error (.database env.driver.rangeError) := by
  have hiff := asI64_nonneg_iff batchSize
  rw [migrateEncryptPaths, hE.encodeKey]
  dsimp only
  generalize asI64 batchSize.toNat = limit at hiff ⊢
  rw [foldlM_migrateRow]
  by_cases hlimit : 0 ≤ limit
  · rw [if_pos hlimit]
    simp only [hiff.1 hlimit, true_and]
    split
    next => rfl
    next => rfl
  · rw [if_neg hlimit, if_neg fun h => hlimit (hiff.2 h.1)]

theorem mem_migrationBatch (h : r ∈ migrationBatch choice batchSize t) : r ∈ t ∧ r.IsUnindexed :=
  mem_fetchAll.1 (List.mem_of_mem_take h)

theorem fits_zipIdx_iff (hE : env.EncryptsWith key) (ht : Migratable env key t) :
    (∀ x ∈ (migrationBatch choice batchSize t).zipIdx,
        (PathColumns.migrate env.crypto key (choice.nonces x.2) x.1).Fits) ↔
      ∀ r ∈ migrationBatch choice batchSize t, FitsEncrypted env key r := by
  have hfits : ∀ x ∈ migrationBatch choice batchSize t, ∀ n : Nonce × Nonce,
      (PathColumns.migrate env.crypto key n x).Fits ↔ FitsEncrypted env key x := fun x hx n =>
    have hmem := (mem_migrationBatch hx).1
    fits_migrate_iff hE (ht.texts x hmem) (ht.sizes x hmem)
  constructor
  · intro h r hr
    obtain ⟨i, hi⟩ := List.mem_iff_getElem?.1 hr
    exact (hfits r hr _).1 (h (r, i) (List.mk_mem_zipIdx_iff_getElem?.2 hi))
  · intro h x hx
    have hr := List.fst_mem_of_mem_zipIdx hx
    exact (hfits x.1 hr _).2 (h x.1 hr)

theorem migrateEncryptPaths_ok_iff (hE : env.EncryptsWith key) (ht : Migratable env key t) :
    (∃ n t', migrateEncryptPaths env choice batchSize t = .ok (n, t')) ↔
      batchSize.toNat < 2 ^ 63 ∧
        ∀ r ∈ migrationBatch choice batchSize t, FitsEncrypted env key r := by
  rw [← fits_zipIdx_iff hE ht, migrateEncryptPaths_eq hE]
  constructor
  · rintro ⟨n, t', h⟩
    by_contra hnot
    rw [if_neg hnot] at h
    cases h
  · intro h
    rw [if_pos h]
    exact ⟨_, _, rfl⟩

/-- What a call that succeeds has done. -/
theorem migrateEncryptPaths_ok (hE : env.EncryptsWith key) {n : ℕ}
    (h : migrateEncryptPaths env choice batchSize t = .ok (n, t')) :
    n = (migrationBatch choice batchSize t).length ∧
      List.Forall₂ (Rewritten env.crypto key t (migrationBatch choice batchSize t)) t t' := by
  rw [migrateEncryptPaths_eq hE] at h
  split at h
  next hfits =>
    cases h
    refine ⟨rfl, ?_⟩
    have hstart : List.Forall₂ (Rewritten env.crypto key t []) t t :=
      List.forall₂_same.2 fun r _ => .kept List.not_mem_nil
    have hrewritten := rewritten_rewriteAll (migrationBatch choice batchSize t).zipIdx (fun x hx =>
      ⟨(mem_migrationBatch (List.fst_mem_of_mem_zipIdx hx)).1, hfits.2 x hx⟩) hstart
    rwa [List.nil_append, List.zipIdx_map_fst] at hrewritten
  next => cases h

/-- A row is kept; or it is written, encrypted and indexed. -/
theorem Rewritten.preserves (h : Rewritten env.crypto key t done r u) (hE : env.EncryptsWith key)
    (ht : Migratable env key t) (hr : r ∈ t) :
    (u.pathText env = r.pathText env ∧ u.nameText env = r.nameText env) ∧
      ((u = r ∧ r ∉ done) ∨
        ∃ v : PathColumns, v.Fits ∧ u = v.write r ∧ IndexedAs env r u ∧
          IsCiphertext env.crypto key u) := by
  cases h with
  | kept hdone => exact ⟨⟨rfl, rfl⟩, .inl ⟨rfl, hdone⟩⟩
  | @written x n hx hid hfits =>
    obtain ⟨haccount, hgroup, hwatcher, hpath, hname⟩ := ht.agree x hx r hr hid
    obtain ⟨hpath, hname, hindexed, hcipher⟩ :=
      (encrypts_migrate hE (ht.texts x hx)).write haccount hgroup hwatcher hpath hname
    exact ⟨⟨hpath, hname⟩, .inr ⟨_, hfits, rfl, hindexed, hcipher⟩⟩

/-- The columns that no call writes. -/
theorem Rewritten.frame (h : Rewritten env.crypto key t done r u) :
    u.fileId = r.fileId ∧ u.accountHash = r.accountHash ∧ u.groupId = r.groupId ∧
      u.watcherId = r.watcherId ∧ u.serverGroupId = r.serverGroupId ∧ u.isDeleted = r.isDeleted ∧
      u.revision = r.revision := by
  cases h with
  | kept _ => exact ⟨rfl, rfl, rfl, rfl, rfl, rfl, rfl⟩
  | written _ _ _ => exact ⟨rfl, rfl, rfl, rfl, rfl, rfl, rfl⟩

theorem migratable_of_rewritten (hE : env.EncryptsWith key) (ht : Migratable env key t)
    (h : List.Forall₂ (Rewritten env.crypto key t done) t t') :
    Migratable env key t' := by
  refine ⟨fun u hu => ?_, fun u hu => ?_, fun u hu u' hu' hid => ?_⟩
  · obtain ⟨r, hr, hru⟩ := exists_rel h hu
    obtain ⟨-, ⟨rfl, -⟩ | ⟨v, -, -, -, hcipher⟩⟩ := hru.preserves hE ht hr
    · exact ht.texts u hr
    · exact .inr hcipher
  · obtain ⟨r, hr, hru⟩ := exists_rel h hu
    obtain ⟨-, ⟨rfl, -⟩ | ⟨v, hfits, rfl, -, -⟩⟩ := hru.preserves hE ht hr
    · exact ht.sizes u hr
    · exact ⟨hfits.1, hfits.2.1⟩
  · obtain ⟨r, hr, hru⟩ := exists_rel h hu
    obtain ⟨r', hr', hru'⟩ := exists_rel h hu'
    obtain ⟨hid₁, haccount, hgroup, hwatcher, -⟩ := hru.frame
    obtain ⟨hid₂, haccount', hgroup', hwatcher', -⟩ := hru'.frame
    obtain ⟨⟨hpath, hname⟩, -⟩ := hru.preserves hE ht hr
    obtain ⟨⟨hpath', hname'⟩, -⟩ := hru'.preserves hE ht hr'
    rw [haccount, haccount', hgroup, hgroup', hwatcher, hwatcher', hpath, hpath', hname, hname']
    exact ht.agree r hr r' hr' (hid₁ ▸ hid₂ ▸ hid)

/-- A row that is written fits from then on, and is indexed if its path is not empty. -/
theorem Rewritten.fitsEncrypted (h : Rewritten env.crypto key t done r u)
    (hE : env.EncryptsWith key) (ht : Migratable env key t) (hr : r ∈ t) :
    (u = r ∧ r ∉ done) ∨ FitsEncrypted env key u ∧
      (components '/' (r.pathText env).toList ≠ [] → ¬u.IsUnindexed) := by
  obtain ⟨⟨hpath, -⟩, hkept | ⟨v, hfits, rfl, ⟨hindex, htokens⟩, hcipher⟩⟩ := h.preserves hE ht hr
  · exact .inl hkept
  · have hlength := Crypto.length_makeTokenPath hE.documented.base64Encode
      (hE.sized.hmacSha256 (env.metaSalt r.accountHash)) (r.pathText env)
    have htoken : v.tokenPath = env.crypto.makeTokenPath (env.metaSalt r.accountHash)
        (r.pathText env) :=
      Option.some.inj htokens
    have hbound := hfits.2.2.2
    rw [htoken, hlength] at hbound
    obtain ⟨plainPath, -, hdecrypt, -⟩ := hcipher.aeadDecrypt hE
    refine .inr ⟨⟨.inl ?_, ?_⟩, fun hne => ?_⟩
    · rw [hdecrypt]
      rfl
    · rw [hpath]
      omega
    · have hpos := List.length_pos_iff.2 hne
      have hdigest : (env.eqIndex r.accountHash (r.pathText env)).size = 32 :=
        hE.sized.hmacSha256 _ _
      rintro ((hnone | hempty) | hnone | hempty)
      · cases hnone
      · rw [hindex] at hempty
        rw [Option.some.inj hempty] at hdigest
        cases hdigest
      · cases hnone
      · rw [htokens] at hempty
        rw [Option.some.inj hempty, String.length_empty] at hlength
        omega

/-- A row of the batch is looked up by its path. -/
theorem preserved_of_rewritten (hE : env.EncryptsWith key) (ht : Migratable env key t)
    {rows : List FileRow} (h : List.Forall₂ (Rewritten env.crypto key t rows) t t') :
    List.Forall₂ (Preserved env rows t') t t' := by
  refine (rel_and_mem h).imp fun r u ⟨hru, hr, hu⟩ => ?_
  obtain ⟨⟨hpath, hname⟩, hcases⟩ := hru.preserves hE ht hr
  have hindexed : r ∈ rows → IndexedAs env r u := by
    intro hmem
    rcases hcases with ⟨-, hnot⟩ | ⟨v, -, -, hindexed, -⟩
    · exact absurd hmem hnot
    · exact hindexed
  refine ⟨hpath, hname, hindexed, fun hmem hactive => ?_⟩
  obtain ⟨-, haccount, -, -, hgroup, hdeleted, hrevision⟩ := hru.frame
  have hmatch : u.accountHash = r.accountHash ∧
      u.eqIndex = some (env.eqIndex r.accountHash (r.pathText env)) ∧
      u.serverGroupId = r.serverGroupId ∧ u.isDeleted = false :=
    ⟨haccount, (hindexed hmem).1, hgroup, hdeleted.trans hactive⟩
  have hsome : (fetchFirstBy env.planner (fun f : FileRow => f.accountHash = r.accountHash ∧
      f.eqIndex = some (env.eqIndex r.accountHash (r.pathText env)) ∧
      f.serverGroupId = r.serverGroupId ∧ f.isDeleted = false) t' byRevision).isSome :=
    isSome_fetchFirstBy.2 ⟨u, hu, hmatch⟩
  obtain ⟨f, hf⟩ := Option.isSome_iff_exists.1 hsome
  have hfirst : byRevision f u := rel_of_fetchFirstBy hf hu hmatch
  refine ⟨f.toFileInfo env, ?_, hrevision ▸ hfirst⟩
  rw [getFileInfoByPath, hf]
  rfl

theorem callMigrates_iff (hE : env.EncryptsWith key) (ht : Migratable env key t) :
    CallMigrates env choice batchSize t ↔
      batchSize.toNat < 2 ^ 63 ∧
        ∀ r ∈ migrationBatch choice batchSize t, FitsEncrypted env key r := by
  rw [← migrateEncryptPaths_ok_iff hE ht]
  constructor
  · rintro ⟨n, t', h, -⟩
    exact ⟨n, t', h⟩
  · rintro ⟨n, t', h⟩
    exact ⟨n, t', h, preserved_of_rewritten hE ht (migrateEncryptPaths_ok hE h).2⟩

/-- The rows that are not indexed yet fit. -/
def UnindexedFit (env : Env) (key : Key32) (t : List FileRow) : Prop :=
  ∀ r ∈ t, r.IsUnindexed → FitsEncrypted env key r

theorem unindexedFit_of_rewritten (hE : env.EncryptsWith key) (ht : Migratable env key t)
    (hfit : UnindexedFit env key t)
    (h : List.Forall₂ (Rewritten env.crypto key t done) t t') : UnindexedFit env key t' := by
  intro u hu hunindexed
  obtain ⟨r, hr, hru⟩ := exists_rel h hu
  rcases hru.fitsEncrypted hE ht hr with ⟨rfl, -⟩ | ⟨hfits, -⟩
  · exact hfit u hr hunindexed
  · exact hfits

/-! ## Runs -/

/-- What a run of calls keeps: the table is one for the migration, and the rows that are left
    fit, unless no batch has any. -/
theorem migratable_migrationStep (hE : env.EncryptsWith key) (ht : Migratable env key t)
    (hfit : 1 ≤ batchSize.toNat → UnindexedFit env key t) :
    Migratable env key (migrationStep env batchSize t choice) ∧
      (1 ≤ batchSize.toNat → UnindexedFit env key (migrationStep env batchSize t choice)) := by
  rw [migrationStep]
  rcases h : migrateEncryptPaths env choice batchSize t with e | ⟨n, t'⟩
  · exact ⟨ht, hfit⟩
  · have hrewritten := (migrateEncryptPaths_ok hE h).2
    exact ⟨migratable_of_rewritten hE ht hrewritten, fun hpos =>
      unindexedFit_of_rewritten hE ht (hfit hpos) hrewritten⟩

theorem migratable_migratedTable (hE : env.EncryptsWith key) (ht : Migratable env key t)
    (hfit : 1 ≤ batchSize.toNat → UnindexedFit env key t)
    (choices : ℕ → MigrationChoice) (n : ℕ) :
    Migratable env key (migratedTable env batchSize choices t n) ∧
      (1 ≤ batchSize.toNat → UnindexedFit env key (migratedTable env batchSize choices t n)) :=
  run_invariant
    (I := fun t => Migratable env key t ∧ (1 ≤ batchSize.toNat → UnindexedFit env key t))
    (fun _ _ hs => migratable_migrationStep hE hs.1 hs.2) ⟨ht, hfit⟩

theorem forall_mem_migrationBatch (hfit : 1 ≤ batchSize.toNat → UnindexedFit env key t) :
    ∀ r ∈ migrationBatch choice batchSize t, FitsEncrypted env key r := by
  intro r hr
  have hpos : 1 ≤ batchSize.toNat := by
    by_contra hzero
    have hnil : migrationBatch choice batchSize t = [] := by
      rw [migrationBatch, Nat.eq_zero_of_not_pos hzero, List.take_zero]
    rw [hnil] at hr
    cases hr
  exact hfit hpos r (mem_migrationBatch hr).1 (mem_migrationBatch hr).2

theorem migratedTable_succ (choices : ℕ → MigrationChoice) (n : ℕ) :
    migratedTable env batchSize choices t (n + 1) =
      migratedTable env batchSize (fun i => choices (i + 1))
        (migrationStep env batchSize t (choices 0)) n := by
  rw [migratedTable, List.range_succ_eq_map, List.map_cons, run_cons, List.map_map]
  rfl

theorem exists_migrateEncryptPaths_ok (hE : env.EncryptsWith key) (ht : Migratable env key t)
    (h63 : batchSize.toNat < 2 ^ 63) (hfit : 1 ≤ batchSize.toNat → UnindexedFit env key t)
    (choice : MigrationChoice) : ∃ n t', migrateEncryptPaths env choice batchSize t = .ok (n, t') :=
  (migrateEncryptPaths_ok_iff hE ht).2 ⟨h63, forall_mem_migrationBatch hfit⟩

/-- A call that is not the last leaves fewer rows without an index. -/
theorem countP_migrationStep_lt (hE : env.EncryptsWith key) (ht : Migratable env key t)
    (h63 : batchSize.toNat < 2 ^ 63) (hfit : 1 ≤ batchSize.toNat → UnindexedFit env key t)
    (hpaths : ∀ r ∈ t, components '/' (r.pathText env).toList ≠ [])
    (hbatch : migrationBatch choice batchSize t ≠ []) :
    (migrationStep env batchSize t choice).countP (FileRow.IsUnindexed ·) <
      t.countP (FileRow.IsUnindexed ·) := by
  obtain ⟨n, t', h⟩ := exists_migrateEncryptPaths_ok hE ht h63 hfit choice
  have hrewritten := (migrateEncryptPaths_ok hE h).2
  rw [migrationStep, h, committed]
  have hfits : ∀ r u, r ∈ t → Rewritten env.crypto key t (migrationBatch choice batchSize t) r u →
      (u = r ∧ r ∉ migrationBatch choice batchSize t) ∨ ¬u.IsUnindexed := by
    intro r u hr hru
    rcases hru.fitsEncrypted hE ht hr with hkept | ⟨-, hindexed⟩
    · exact .inl hkept
    · exact .inr (hindexed (hpaths r hr))
  refine countP_lt_of_rel (rel_and_mem hrewritten) ?_ ?_
  · rintro r u ⟨hru, hr, -⟩ hu
    rcases hfits r u hr hru with ⟨rfl, -⟩ | hnot
    · exact hu
    · exact absurd hu hnot
  · obtain ⟨r, hr⟩ := List.exists_mem_of_ne_nil _ hbatch
    refine ⟨r, (mem_migrationBatch hr).1, (mem_migrationBatch hr).2, ?_⟩
    rintro u ⟨hru, hmem, -⟩
    rcases hfits r u hmem hru with ⟨-, hnot⟩ | hnot
    · exact absurd hr hnot
    · exact hnot

theorem components_migrationStep (hE : env.EncryptsWith key) (ht : Migratable env key t)
    (hpaths : ∀ r ∈ t, components '/' (r.pathText env).toList ≠ []) :
    ∀ u ∈ migrationStep env batchSize t choice, components '/' (u.pathText env).toList ≠ [] := by
  rw [migrationStep]
  rcases h : migrateEncryptPaths env choice batchSize t with e | ⟨n, t'⟩
  · exact hpaths
  · intro u hu
    obtain ⟨r, hr, hru⟩ := exists_rel (migrateEncryptPaths_ok hE h).2 hu
    rw [(hru.preserves hE ht hr).1.1]
    exact hpaths r hr

/-- Since every call leaves fewer rows without an index, there is one with nothing to do. -/
theorem exists_migrateEncryptPaths_eq_zero (hE : env.EncryptsWith key) (ht : Migratable env key t)
    (h63 : batchSize.toNat < 2 ^ 63) (hfit : 1 ≤ batchSize.toNat → UnindexedFit env key t)
    (hpaths : ∀ r ∈ t, components '/' (r.pathText env).toList ≠ [])
    (choices : ℕ → MigrationChoice) :
    ∃ n t', migrateEncryptPaths env (choices n) batchSize
        (migratedTable env batchSize choices t n) = .ok (0, t') := by
  induction hk : t.countP (FileRow.IsUnindexed ·) using Nat.strong_induction_on
      generalizing t choices with
  | _ k ih =>
    by_cases hbatch : migrationBatch (choices 0) batchSize t = []
    · obtain ⟨n, t', h⟩ := exists_migrateEncryptPaths_ok hE ht h63 hfit (choices 0)
      have hzero : n = 0 := by rw [(migrateEncryptPaths_ok hE h).1, hbatch, List.length_nil]
      rw [hzero] at h
      exact ⟨0, t', h⟩
    · have hlt := countP_migrationStep_lt hE ht h63 hfit hpaths hbatch
      have ht' : Migratable env key (migrationStep env batchSize t (choices 0)) :=
        (migratable_migrationStep hE ht hfit).1
      have hfit' : 1 ≤ batchSize.toNat →
          UnindexedFit env key (migrationStep env batchSize t (choices 0)) :=
        (migratable_migrationStep hE ht hfit).2
      obtain ⟨n, t', h⟩ := ih _ (hk ▸ hlt) ht' hfit' (components_migrationStep hE ht hpaths)
        (fun i => choices (i + 1)) rfl
      refine ⟨n + 1, t', ?_⟩
      rwa [migratedTable_succ]

end

/-! ## Samples -/

theorem mem_of_mem_extract {blob : ByteArray} {i j : ℕ} {b : UInt8}
    (h : b ∈ (blob.extract i j).data.toList) : b ∈ blob.data.toList := by
  rw [ByteArray.data_extract, Array.toList_extract, List.extract_eq_take_drop] at h
  exact List.mem_of_mem_drop (List.mem_of_mem_take h)

/-- The tabulated nonces and the tag have zeros, so that bytes without any do not decrypt. -/
theorem isOk_aeadDecrypt_of_not_mem {blob : ByteArray} (key : Key32) (aad : ByteArray)
    (h : 0 ∉ blob.data.toList) : (Crypto.sized.aeadDecrypt key blob aad).isOk = false := by
  have hnonce : ∀ s ∈ Crypto.gcmSamples, s.1.1 ≠ blob.extract 0 12 := by
    intro s hs heq
    have hzero : ∀ s ∈ Crypto.gcmSamples, 0 ∈ s.1.1.data.toList := by decide
    have hmem := hzero s hs
    rw [heq] at hmem
    exact h (mem_of_mem_extract hmem)
  have htag : Crypto.stripTag (blob.extract 12 blob.size) = none := by
    rw [Crypto.stripTag, if_neg]
    intro htag
    have hzero : 0 ∈ Crypto.gcmTag.data.toList := by decide
    rw [← htag] at hzero
    exact h (mem_of_mem_extract (mem_of_mem_extract hzero))
  have hnone : ∀ nonce : Nonce, nonce.1 = blob.extract 0 12 →
      Crypto.sized.aes256GcmDecrypt key nonce (blob.extract 12 blob.size) aad = none := by
    intro nonce heq
    simp only [Crypto.sized, Crypto.sample]
    split
    next =>
      split
      next s hs =>
        obtain ⟨hfound, -⟩ : s.1 = nonce ∧ s.2.2 = blob.extract 12 blob.size := by
          simpa using List.find?_some hs
        exact absurd (hfound ▸ heq) (hnonce s (List.mem_of_find?_eq_some hs))
      next => exact htag
    next => exact htag
  rw [Crypto.aeadDecrypt]
  split
  next => rfl
  next =>
    simp only [hnone]
    rfl

/-- A server key, after a time without one. -/
def Env.newlyKeyed : Env :=
  { Env.plain with crypto := .sized, config := ⟨some Crypto.keySample.1, false⟩ }

theorem encryptsWith_newlyKeyed : Env.newlyKeyed.EncryptsWith Crypto.keySample where
  encodeKey := by simp [Env.newlyKeyed, Config.encodeKey, Crypto.keySample.2]
  lawful := Crypto.sample_lawful
  documented := ⟨fun _ => rfl, fun _ => rfl, fun _ => rfl, fun _ => rfl⟩
  sized := Crypto.sized_sized

/-- A row from that time, without an index. -/
def sampleUnindexed (filename : String) : FileRow :=
  { Env.plain.newRow 10 (Crypto.nonceSample 1, Crypto.nonceSample 2) (sampleInfo 1 0 10) 1 with
    filename := filename.toByteArray
    eqIndex := none
    tokenPath := none }

theorem migratable_singleton {filename : String} (hzero : 0 ∉ filename.toByteArray.data.toList)
    (hsize : filename.toByteArray.size ≤ 512) :
    Migratable .newlyKeyed Crypto.keySample [sampleUnindexed filename] := by
  refine ⟨fun r hr => ?_, fun r hr => ?_, fun r hr r' hr' _ => ?_⟩
  · rw [List.mem_singleton.1 hr]
    exact .inl ⟨⟨"~/a.txt", rfl⟩, ⟨filename, rfl⟩, rfl, isOk_aeadDecrypt_of_not_mem _ _ hzero⟩
  · rw [List.mem_singleton.1 hr]
    have hpath : "~/a.txt".toByteArray.size ≤ 2048 := by decide
    exact ⟨hpath, hsize⟩
  · rw [List.mem_singleton.1 hr, List.mem_singleton.1 hr']
    exact ⟨rfl, rfl, rfl, rfl, rfl⟩

/-! ## The migration -/

/-- The calls preserve every row and finally find nothing to do, whatever the engine and the
    nonces, exactly if the limit of a batch is not negative as an `i64`, and the rows without an
    index fit when they are encrypted. -/
theorem migrates_iff (env : Env) (key : Key32) (hE : env.EncryptsWith key)
    (t : List FileRow) (ht : Migratable env key t) (batchSize : UInt64) :
    (∀ choices, Migrates env choices batchSize t) ↔
      batchSize.toNat < 2 ^ 63 ∧
        (1 ≤ batchSize.toNat → ∀ r ∈ t, r.IsUnindexed → FitsEncrypted env key r) := by
  constructor
  · intro h
    have hcall : ∀ pl, batchSize.toNat < 2 ^ 63 ∧
        ∀ r ∈ migrationBatch
            ⟨pl, fun _ => (Crypto.nonceSample 1, Crypto.nonceSample 2)⟩ batchSize t,
          FitsEncrypted env key r := fun pl =>
      (callMigrates_iff hE ht).1
        ((h fun _ => ⟨pl, fun _ => (Crypto.nonceSample 1, Crypto.nonceSample 2)⟩).calls 0)
    refine ⟨(hcall .insertion).1, fun hpos r hr hunindexed => ?_⟩
    -- The engine may begin with any row.
    have hmem : r ∈ t.filter FileRow.IsUnindexed :=
      List.mem_filter.2 ⟨hr, decide_eq_true hunindexed⟩
    obtain ⟨i, hi⟩ := List.mem_iff_getElem?.1 hmem
    refine (hcall (.startingAt i)).2 r ?_
    rw [migrationBatch, fetchAll]
    have hhead := Planner.head?_arrange_startingAt hi
    rcases hrows : (Planner.startingAt i).arrange (t.filter FileRow.IsUnindexed) with _ | ⟨a, rows⟩
    · rw [hrows] at hhead
      cases hhead
    · rw [hrows, List.head?_cons, Option.some_inj] at hhead
      obtain ⟨n, hn⟩ := Nat.exists_eq_add_of_le' hpos
      dsimp only
      rw [hrows, hn, List.take_succ_cons, hhead]
      exact List.mem_cons_self
  · rintro ⟨h63, hfit⟩ choices
    refine ⟨fun n => ?_, fun _ hpaths =>
      exists_migrateEncryptPaths_eq_zero hE ht h63 hfit hpaths choices⟩
    obtain ⟨ht', hfit'⟩ := migratable_migratedTable hE ht hfit choices n
    exact (callMigrates_iff hE ht').2 ⟨h63, forall_mem_migrationBatch hfit'⟩

/-- A row with a short name is migrated. -/
theorem migrates_newlyKeyed :
    Env.newlyKeyed.EncryptsWith Crypto.keySample ∧
      Migratable .newlyKeyed Crypto.keySample [sampleUnindexed "a.txt"] ∧
      ∀ choices, Migrates .newlyKeyed choices 1000 [sampleUnindexed "a.txt"] := by
  have ht : Migratable .newlyKeyed Crypto.keySample [sampleUnindexed "a.txt"] :=
    migratable_singleton (by decide) (by decide)
  refine ⟨encryptsWith_newlyKeyed, ht, ?_⟩
  exact (migrates_iff .newlyKeyed Crypto.keySample encryptsWith_newlyKeyed _ ht 1000).2
    ⟨by decide, fun _ r hr _ => by rw [List.mem_singleton.1 hr]; decide +kernel⟩

/-- A name of 500 bytes fits its column, but not when it is encrypted: every call fails. -/
theorem not_migrates_longName :
    let t := [sampleUnindexed (String.ofList (List.replicate 500 'a'))]
    Migratable .newlyKeyed Crypto.keySample t ∧
      ∀ choices, ¬Migrates .newlyKeyed choices 1000 t := by
  intro t
  have ht : Migratable .newlyKeyed Crypto.keySample t :=
    migratable_singleton (by decide +kernel) (by decide +kernel)
  refine ⟨ht, fun choices h => ?_⟩
  have hmem : sampleUnindexed (String.ofList (List.replicate 500 'a')) ∈
      migrationBatch (choices 0) 1000 (migratedTable .newlyKeyed 1000 choices t 0) := by
    have hall : fetchAll (choices 0).planner FileRow.IsUnindexed t = t :=
      List.perm_singleton.1 ((choices 0).planner.arrange_perm _)
    have hstart : migratedTable .newlyKeyed 1000 choices t 0 = t := rfl
    rw [migrationBatch, hstart, hall]
    exact List.mem_singleton_self _
  have hfits := ((callMigrates_iff encryptsWith_newlyKeyed ht).1 (h.calls 0)).2 _ hmem
  exact absurd hfits (by decide +kernel)

end CosmicSync
