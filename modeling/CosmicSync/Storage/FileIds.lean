import CosmicSync.Library.Run
import CosmicSync.Storage.MySqlFile

/-!
# File ids, bound as `u64` and as `i64`

The column `file_id` is unsigned. Some queries bind a file id as the `u64` that it is, and
some cast it to `i64` before: from `2 ^ 63` on the latter compare the column with a negative
number, and select nothing. An upload generates an id below `2 ^ 63`; but a deletion draws the id of
its tombstone from all of `u64`.

* `Selects`: the comparison of the column with an id, by the type that is bound.
* `FileIdCall`: uploads with generated ids, and deletions.
* `IdsSurvive`: the two kinds of queries agree on the ids of a table.
-/

namespace CosmicSync

open Table Run

/-! ## The queries -/

/-- The type as which a query binds a file id. -/
inductive IdType where
  | u64
  | i64
  deriving DecidableEq

/-- The number that is bound. -/
def IdType.bind : IdType → ℕ → ℤ
  | u64, fileId => fileId
  | i64, fileId => asI64 fileId

/-- `file_id = ?`, for the value of the column. -/
def Selects (type : IdType) (fileId column : ℕ) : Prop := (column : ℤ) = type.bind fileId

instance (type : IdType) (fileId : ℕ) : DecidablePred (Selects type fileId) :=
  fun _ => inferInstanceAs (Decidable (_ = _))

/-- A row of the table `file_data`. -/
structure FileDataRow where
  fileId : ℕ
  data : ByteArray
  deriving DecidableEq

/-- The queries that cast the id, by the type that they bind. -/
structure Queries where
  checkFileExists : List FileRow → ℕ → Bool × Bool
  getFileVersionsById : List FileRow → String → ℕ → List SyncFile
  getFileByRevision : List FileRow → String → ℕ → ℤ → Except StorageError SyncFile
  getFileData : List FileDataRow → ℕ → Option ByteArray

/-- The queries, as they are with `i64`. -/
def queries (env : Env) (type : IdType) : Queries where
  checkFileExists t fileId :=
    match fetchOptional env.planner (fun r => Selects type fileId r.fileId) t with
    | some r => (true, r.isDeleted)
    | none => (false, false)
  getFileVersionsById t accountHash fileId :=
    (fetchAllBy env.planner (fun r => r.accountHash = accountHash ∧ Selects type fileId r.fileId) t
      byRevision).map (FileRow.toVersion env)
  getFileByRevision t accountHash fileId revision :=
    match fetchOptional env.planner (fun r => r.accountHash = accountHash ∧
      Selects type fileId r.fileId ∧ r.revision = revision) t with
    | some r => .ok (r.toVersion env)
    | none => .error (.notFound
        ("File not found: file_id=" ++ toString fileId ++ ", revision=" ++ toString revision))
  getFileData t fileId :=
    (fetchOptional env.planner (fun r => Selects type fileId r.fileId) t).map FileDataRow.data

section

variable {env : Env} {fileId : ℕ}

/-- An id from `2 ^ 63` on is bound as a negative number. -/
theorem selects_i64_iff (h : fileId < 2 ^ 64) (column : ℕ) :
    Selects .i64 fileId column ↔ column = fileId ∧ fileId < 2 ^ 63 := by
  rw [Selects, IdType.bind]
  by_cases hlt : fileId < 2 ^ 63
  · rw [asI64_of_lt hlt, and_iff_left hlt, Nat.cast_inj]
  · have hneg := asI64_neg (not_lt.1 hlt) h
    exact iff_of_false (fun heq => by omega) fun h => hlt h.2

theorem selects_u64_iff (column : ℕ) : Selects .u64 fileId column ↔ column = fileId := Nat.cast_inj

/-- `check_file_exists` binds an `i64`. -/
theorem checkFileExists_eq_queries (h : fileId < 2 ^ 64) (t : List FileRow) :
    (queries env .i64).checkFileExists t fileId = checkFileExists env t fileId := by
  have hrows := filter_eq_of_iff (fun r : FileRow => selects_i64_iff h r.fileId) t
  rw [checkFileExists, ← fetchOptional_congr hrows]
  rfl

/-- So does `get_file_by_revision`. -/
theorem getFileByRevision_eq_queries (h : fileId < 2 ^ 64) (t : List FileRow) (accountHash : String)
    (revision : ℤ) :
    (queries env .i64).getFileByRevision t accountHash fileId revision =
      getFileByRevision env t accountHash fileId revision := by
  have hiff : ∀ r : FileRow,
      r.accountHash = accountHash ∧ Selects .i64 fileId r.fileId ∧ r.revision = revision ↔
        r.accountHash = accountHash ∧ (r.fileId = fileId ∧ fileId < 2 ^ 63) ∧
          r.revision = revision :=
    fun r => by rw [selects_i64_iff h]
  rw [getFileByRevision, ← fetchOptional_congr (filter_eq_of_iff hiff t)]
  rfl

/-- The same answers for a file id, whatever is stored. -/
structure QueriesAlike (q q' : Queries) (fileId : ℕ) : Prop where
  checkFileExists : ∀ t, q.checkFileExists t fileId = q'.checkFileExists t fileId
  getFileVersionsById : ∀ t accountHash,
    q.getFileVersionsById t accountHash fileId = q'.getFileVersionsById t accountHash fileId
  getFileByRevision : ∀ t accountHash revision,
    q.getFileByRevision t accountHash fileId revision =
      q'.getFileByRevision t accountHash fileId revision
  getFileData : ∀ t, q.getFileData t fileId = q'.getFileData t fileId

theorem queriesAlike {type type' : IdType}
    (h : ∀ column, Selects type fileId column ↔ Selects type' fileId column) :
    QueriesAlike (queries env type) (queries env type') fileId := by
  refine ⟨fun t => ?_, fun t accountHash => ?_, fun t accountHash revision => ?_, fun t => ?_⟩
  · simp only [queries]
    rw [fetchOptional_congr (filter_eq_of_iff (fun r : FileRow => h r.fileId) t)]
  · simp only [queries]
    rw [fetchAllBy_congr
      (filter_eq_of_iff (fun r : FileRow => and_congr_right fun _ => h r.fileId) t)]
  · simp only [queries]
    rw [fetchOptional_congr (filter_eq_of_iff
      (fun r : FileRow => and_congr_right fun _ => and_congr_left fun _ => h r.fileId) t)]
  · simp only [queries]
    rw [fetchOptional_congr (filter_eq_of_iff (fun r : FileDataRow => h r.fileId) t)]

end

/-! ## Runs -/

/-- Uploads, which generate the file id, and deletions, which draw that of the tombstone. -/
inductive FileIdCall where
  | upload (now : ℤ) (nonces : Nonce × Nonce) (info : FileInfo) (value : UInt64)
  | delete (now : ℤ) (newFileId : UInt64) (accountHash : String) (fileId : ℕ)

/-- The call of the storage. -/
def FileIdCall.op : FileIdCall → FileOp
  | upload now nonces info value =>
    .store now nonces { info with fileId := Crypto.generateFileId value }
  | delete now newFileId accountHash fileId => .delete now newFileId.toNat accountHash fileId

/-- The table after a call. -/
def FileIdCall.apply (env : Env) (t : List FileRow) (call : FileIdCall) : List FileRow :=
  call.op.apply env t

/-- The ids of the rows are those of an `i64`, and the queries that bind one find by them what
    those find that bind a `u64`. -/
structure IdsSurvive (env : Env) (t : List FileRow) : Prop where
  le_max : ∀ r ∈ t, r.fileId ≤ 2 ^ 63 - 1
  selects : ∀ r ∈ t, ∀ column, Selects .i64 r.fileId column ↔ Selects .u64 r.fileId column
  answers : ∀ r ∈ t, QueriesAlike (queries env .i64) (queries env .u64) r.fileId

/-- The file that is to be deleted is found, and the driver reads its path and its name. -/
def Deletable (env : Env) (t : List FileRow) (accountHash : String) (fileId : ℕ) : Prop :=
  ∃ r ∈ fetchOptional env.planner (fun r => r.fileId = fileId ∧ r.accountHash = accountHash) t,
    (env.driver.text r.filePath).isSome ∧ (env.driver.text r.filename).isSome

instance (env : Env) (t : List FileRow) (accountHash : String) (fileId : ℕ) :
    Decidable (Deletable env t accountHash fileId) :=
  inferInstanceAs (Decidable (∃ r ∈ _, _))

/-- A deletion that finds its file has drawn an id below `2 ^ 63`. -/
def TombstoneFits (env : Env) (t : List FileRow) : FileIdCall → Prop
  | .upload .. => True
  | .delete _ newFileId accountHash fileId =>
    Deletable env t accountHash fileId → newFileId.toNat < 2 ^ 63

instance (env : Env) (t : List FileRow) : (call : FileIdCall) → Decidable (TombstoneFits env t call)
  | .upload .. => inferInstanceAs (Decidable True)
  | .delete .. => inferInstanceAs (Decidable (_ → _))

section

variable {env : Env} {t : List FileRow}

/-- All ids are below `2 ^ 63`. -/
def SmallIds (t : List FileRow) : Prop := ∀ id ∈ t.map FileRow.fileId, id < 2 ^ 63

instance (t : List FileRow) : Decidable (SmallIds t) := List.decidableBAll _ _

theorem idsSurvive_iff : IdsSurvive env t ↔ SmallIds t := by
  constructor
  · intro h id hid
    obtain ⟨r, hr, rfl⟩ := List.mem_map.1 hid
    have hle := h.le_max r hr
    omega
  · intro h
    have hselects : ∀ r ∈ t, ∀ column,
        Selects .i64 r.fileId column ↔ Selects .u64 r.fileId column := by
      intro r hr column
      have hlt : r.fileId < 2 ^ 63 := h _ (List.mem_map_of_mem hr)
      rw [selects_i64_iff (hlt.trans (by decide)), selects_u64_iff, and_iff_left hlt]
    refine ⟨fun r hr => ?_, hselects, fun r hr => queriesAlike (hselects r hr)⟩
    have hlt : r.fileId < 2 ^ 63 := h _ (List.mem_map_of_mem hr)
    omega

/-- An upload keeps the ids, and adds at most the generated one. -/
theorem fileIds_upload (now : ℤ) (nonces : Nonce × Nonce) (info : FileInfo) (value : UInt64) :
    ∃ new, ((FileIdCall.upload now nonces info value).apply env t).map FileRow.fileId =
      t.map FileRow.fileId ++ new ∧ ∀ id ∈ new, id < 2 ^ 63 := by
  have hnil : ∀ id ∈ ([] : List ℕ), id < 2 ^ 63 := fun id hid => absurd hid List.not_mem_nil
  rw [FileIdCall.apply, FileIdCall.op, FileOp.apply]
  generalize hinfo : { info with fileId := Crypto.generateFileId value } = stored
  rcases h : storeFileInfo env now nonces stored t with e | ⟨id, t'⟩
  · exact ⟨[], (List.append_nil _).symm, hnil⟩
  · obtain ⟨-, ⟨-, rfl⟩ | ⟨-, hlt, rfl⟩⟩ := storeFileInfo_ok h
    · refine ⟨[], ?_, hnil⟩
      rw [List.append_nil]
      exact map_updateWhere fun _ => rfl
    · refine ⟨[stored.fileId], ?_, ?_⟩
      · rw [committed, List.map_append, map_retire fun _ => rfl]
        rfl
      · intro id hid
        rw [List.mem_singleton.1 hid, ← hinfo]
        exact Crypto.generateFileId_lt value

/-- A deletion succeeds exactly where it finds its file. -/
theorem isOk_deleteFile_iff (now : ℤ) (newFileId : ℕ) {accountHash : String} {fileId : ℕ} :
    (deleteFile env now newFileId accountHash fileId t).isOk ↔
      Deletable env t accountHash fileId := by
  unfold Deletable deleteFile
  split
  next hnone => simp [hnone, Except.isOk, Except.toBool]
  next r hsome =>
    rw [hsome]
    simp only [Option.mem_some_iff, exists_eq_left']
    split
    next filePath filename hpath hname => simp [hpath, hname, Except.isOk, Except.toBool]
    next hnot =>
      -- One of the two is not read.
      simp only [Option.isSome_iff_exists]
      refine iff_of_false Bool.false_ne_true fun h => ?_
      obtain ⟨⟨filePath, hpath⟩, filename, hname⟩ := h
      exact hnot filePath filename hpath hname

/-- A deletion keeps the ids, and adds that of the tombstone if it succeeds. -/
theorem fileIds_delete (now : ℤ) (newFileId : UInt64) (accountHash : String) (fileId : ℕ) :
    ((FileIdCall.delete now newFileId accountHash fileId).apply env t).map FileRow.fileId =
      t.map FileRow.fileId ++
        if (deleteFile env now newFileId.toNat accountHash fileId t).isOk then [newFileId.toNat]
          else [] := by
  rw [FileIdCall.apply, FileIdCall.op, FileOp.apply]
  rcases h : deleteFile env now newFileId.toNat accountHash fileId t with e | ⟨⟨⟩, t'⟩
  · exact (List.append_nil _).symm
  · obtain ⟨r, filePath, filename, -, -, -, rfl⟩ := deleteFile_ok h
    have hfinished : ∀ rows : List FileRow,
        (updateWhere (fun f => f.fileId = newFileId.toNat)
          (FileRow.finishTombstone now (r.revision + 1) r.groupId r.watcherId) rows).map
            FileRow.fileId =
          rows.map FileRow.fileId := fun rows => map_updateWhere fun _ => rfl
    rw [committed, hfinished, List.map_append, map_markDeleted fun _ => rfl,
      map_markDeleted fun _ => rfl]
    rfl

theorem smallIds_apply (call : FileIdCall) :
    SmallIds (call.apply env t) ↔ SmallIds t ∧ TombstoneFits env t call := by
  rcases call with ⟨now, nonces, info, value⟩ | ⟨now, newFileId, accountHash, fileId⟩
  · obtain ⟨new, heq, hnew⟩ := @fileIds_upload env t now nonces info value
    rw [SmallIds, heq, TombstoneFits, and_true, List.forall_mem_append, and_iff_left hnew]
    rfl
  · rw [SmallIds, fileIds_delete, List.forall_mem_append, TombstoneFits,
      ← isOk_deleteFile_iff now newFileId.toNat]
    refine and_congr_right fun _ => ?_
    split
    next hok => simp [hok]
    next hok => simp [hok]

end

/-- A run leaves ids that survive the cast, exactly when every deletion that finds its file draws
    one below `2 ^ 63`. -/
theorem idsSurvive_run_iff (env : Env) (calls : List FileIdCall) :
    IdsSurvive env (run (FileIdCall.apply env) [] calls) ↔
      Guarded (FileIdCall.apply env) (TombstoneFits env) [] calls := by
  rw [idsSurvive_iff]
  constructor
  · intro h
    -- No call removes an id, so the ids have been small after every call.
    have hback : ∀ t call, SmallIds (FileIdCall.apply env t call) → SmallIds t :=
      fun t call h => ((smallIds_apply call).1 h).1
    exact (Guarded.of_final hback h).1.imp fun t call h => ((smallIds_apply call).1 h).2
  · intro h
    refine h.invariant (I := SmallIds)
      (fun t call hfits ht => (smallIds_apply call).2 ⟨ht, hfits⟩) ?_
    exact fun id hid => absurd hid List.not_mem_nil

/-- An upload, and its deletion with a tombstone from the upper half of `u64`: the file exists
    by that id for one kind of query only. -/
theorem not_idsSurvive_tombstone :
    let calls : List FileIdCall :=
      [.upload 10 (Crypto.nonceSample 1, Crypto.nonceSample 2) (sampleInfo 0 0 10) 1,
        .delete 20 9223372036854775808 "alice" 1]
    let t := run (FileIdCall.apply .plain) [] calls
    (queries .plain .i64).checkFileExists t 9223372036854775808 = (false, false) ∧
      (queries .plain .u64).checkFileExists t 9223372036854775808 = (true, true) ∧
      ¬IdsSurvive .plain t := by
  refine ⟨by decide +kernel, by decide +kernel, ?_⟩
  rw [idsSurvive_iff]
  decide +kernel

end CosmicSync
