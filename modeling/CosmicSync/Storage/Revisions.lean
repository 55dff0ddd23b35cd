import CosmicSync.Library.Run
import CosmicSync.Storage.MySqlFile

/-!
# Revisions across deletions

A version of a file is identified by its logical file and its revision, so
uploads and deletions should never give out a revision twice. Uploads count from
the rows with the group in the column `server_group_id`; a tombstone has it in the
column `group_id` only. So an upload does not see the tombstones of its file, and
repeats their revisions (`reupload_repeats_revision`), unless it is in the group
`0`, the default of the column.

* `RevisionsInOrder`: the condition on a call that excludes this: an upload goes to
  a logical file all of whose rows are in its server group, and a deletion names
  the latest version.
* `distinctRevisions_run`: under it, in every run, the revisions of a logical file
  are distinct and every new row has the greatest.
-/

namespace CosmicSync

open Table Run

/-- What tells versions apart: the logical file and the revision. -/
def FileRow.version (r : FileRow) : LogicalFile × ℤ := (r.logicalByGroup, r.revision)

/-- The rows of a logical file have distinct revisions. -/
def DistinctRevisions (t : List FileRow) : Prop := (t.map FileRow.version).Nodup

instance (t : List FileRow) : Decidable (DistinctRevisions t) := List.nodupDecidable _

/-- The rows of `t'` beyond those of `t` have greater revisions than all rows of
    their logical file in `t`. -/
def NewRowsGreater (t t' : List FileRow) : Prop :=
  ∀ r' ∈ t'.drop t.length, ∀ r ∈ t, r.logicalByGroup = r'.logicalByGroup → r.revision < r'.revision

/-- The versions of `t'` are those of `t`, or one more with the greatest revision of
    its logical file. -/
def AddsVersion (t t' : List FileRow) : Prop :=
  t'.map FileRow.version = t.map FileRow.version ∨
    ∃ k n, t'.map FileRow.version = t.map FileRow.version ++ [(k, n)] ∧
      ∀ r ∈ t, r.logicalByGroup = k → r.revision < n

/-- The file ids that a call brings in are new. -/
def FreshIds (t : List FileRow) : FileOp → Prop
  | .store _ _ info => ∀ r ∈ t, r.fileId ≠ info.fileId
  | .delete _ newFileId _ _ => ∀ r ∈ t, r.fileId ≠ newFileId

instance (t : List FileRow) : (op : FileOp) → Decidable (FreshIds t op)
  | .store .. => List.decidableBAll _ _
  | .delete .. => List.decidableBAll _ _

/-- An upload goes to a logical file all of whose rows are in its server group; a
    deletion finds nothing, or the row of the greatest revision of its file. -/
def RevisionsInOrder (env : Env) (t : List FileRow) : FileOp → Prop
  | .store _ _ info => ∀ r ∈ t, r.logicalByGroup = info.logical → r.serverGroupId = info.groupId
  | .delete _ _ accountHash fileId =>
    ∀ r ∈ fetchOptional env.planner (fun r => r.fileId = fileId ∧ r.accountHash = accountHash) t,
      ∀ r' ∈ t, r'.logicalByGroup = r.logicalByGroup → r'.revision ≤ r.revision

instance (env : Env) (t : List FileRow) : (op : FileOp) → Decidable (RevisionsInOrder env t op)
  | .store .. => List.decidableBAll _ _
  | .delete .. => Option.decidableForallMem _

section Steps

variable {env : Env} {t t' : List FileRow}

/-- The next revision is greater than those it is counted from. -/
theorem lt_nextRevision {r : FileRow} (hr : r ∈ t) : r.revision < nextRevision r.logical t :=
  Int.lt_add_one_of_le (le_maxOf_getD hr rfl)

/-- An upload with a new id adds the next revision of its logical file. -/
theorem storeFileInfo_version (hkey : env.config.encodeKey = none) {now : ℤ}
    {nonces : Nonce × Nonce} {info : FileInfo} {id : ℕ}
    (hfresh : FreshIds t (.store now nonces info))
    (h : storeFileInfo env now nonces info t = .ok (id, t')) :
    t'.map FileRow.version =
      t.map FileRow.version ++ [(info.logical, nextRevision info.logical t)] := by
  obtain ⟨-, ⟨⟨r, hr, hid, -⟩, -⟩ | ⟨-, -, rfl⟩⟩ := storeFileInfo_ok h
  · exact absurd hid (hfresh r hr)
  · rw [List.map_append, map_retire fun _ => rfl, List.map_singleton, FileRow.version,
      newRow_logicalByGroup hkey]
    rfl

/-- A deletion adds the revision after that of the row it found. -/
theorem deleteFile_version {now : ℤ} {newFileId fileId : ℕ} {accountHash : String}
    (hfresh : FreshIds t (.delete now newFileId accountHash fileId))
    (h : deleteFile env now newFileId accountHash fileId t = .ok ((), t')) :
    ∃ r, fetchOptional env.planner (fun r => r.fileId = fileId ∧ r.accountHash = accountHash) t =
        some r ∧
      t'.map FileRow.version = t.map FileRow.version ++ [(r.logicalByGroup, r.revision + 1)] := by
  obtain ⟨r, filePath, filename, hf, hpath, hname, rfl⟩ := deleteFile_ok h
  obtain ⟨-, -, hacc⟩ := fetchOptional_some hf
  refine ⟨r, hf, ?_⟩
  set t₂ := markDeleted (fun f => f.logicalByGroup = r.logicalByGroup)
    (markDeleted (fun f => f.fileId = fileId) t) with ht₂
  -- The new id is new in the marked table too, so only the tombstone is finished.
  have hids : t₂.map FileRow.fileId = t.map FileRow.fileId :=
    (map_markDeleted fun _ => rfl).trans (map_markDeleted fun _ => rfl)
  have hnew : ∀ f ∈ t₂, f.fileId ≠ newFileId := by
    intro f hmem he
    have hmem : newFileId ∈ t.map FileRow.fileId := hids ▸ he ▸ List.mem_map_of_mem hmem
    obtain ⟨f₀, hf₀, he₀⟩ := List.mem_map.1 hmem
    exact hfresh f₀ hf₀ he₀
  rw [updateWhere_append, updateWhere_eq_self hnew, List.map_append, ht₂,
    map_markDeleted fun _ => rfl, map_markDeleted fun _ => rfl]
  simp [updateWhere, insertedTombstone, FileRow.finishTombstone, FileRow.version,
    FileRow.logicalByGroup, hpath, hname, hacc]

theorem apply_version (hkey : env.config.encodeKey = none) {op : FileOp} (hfresh : FreshIds t op)
    (hord : RevisionsInOrder env t op) : AddsVersion t (op.apply env t) := by
  rcases op with ⟨now, nonces, info⟩ | ⟨now, newFileId, accountHash, fileId⟩
  · refine committed_of (P := AddsVersion t) (.inl rfl) fun id t' h =>
      .inr ⟨_, _, storeFileInfo_version hkey hfresh h, ?_⟩
    intro r hr hk
    have hserver : r.logical = info.logical := by
      have hgroup : r.groupId = info.groupId := congrArg LogicalFile.groupId hk
      rw [← hk, FileRow.logical, FileRow.logicalByGroup, hord r hr hk, hgroup]
    exact hserver ▸ lt_nextRevision hr
  · refine committed_of (P := AddsVersion t) (.inl rfl) fun _ t' h => .inr ?_
    obtain ⟨r, hf, hv⟩ := deleteFile_version hfresh h
    exact ⟨_, _, hv, fun r' hr' hk => Int.lt_add_one_of_le (hord r hf r' hr' hk)⟩

theorem AddsVersion.distinctRevisions (h : AddsVersion t t') (ht : DistinctRevisions t) :
    DistinctRevisions t' := by
  obtain hv | ⟨k, n, hv, hlt⟩ := h
  · rwa [DistinctRevisions, hv]
  · rw [DistinctRevisions, hv, List.nodup_append]
    refine ⟨ht, List.nodup_singleton _, ?_⟩
    rintro _ hmem _ hmem' rfl
    obtain ⟨r, hr, he⟩ := List.mem_map.1 hmem
    obtain ⟨rfl, rfl⟩ := Prod.mk.inj (he.trans (List.mem_singleton.1 hmem'))
    exact lt_irrefl _ (hlt r hr rfl)

theorem AddsVersion.newRowsGreater (h : AddsVersion t t') : NewRowsGreater t t' := by
  intro r' hr' r hr hk
  have hmem : r'.version ∈ (t'.map FileRow.version).drop t.length := by
    rw [← List.map_drop]
    exact List.mem_map_of_mem hr'
  obtain hv | ⟨k, n, hv, hlt⟩ := h
  · rw [hv, List.drop_of_length_le (List.length_map _).le] at hmem
    cases hmem
  · rw [hv, List.drop_left' (List.length_map _), List.mem_singleton] at hmem
    obtain ⟨rfl, rfl⟩ := Prod.mk.inj hmem
    exact hlt r hr hk

end Steps

/-! ## Runs -/

/-- An upload, its deletion and another upload, in the group `1`: the tombstone and
    the second upload both have the revision `2`. -/
theorem reupload_repeats_revision :
    let ops : List FileOp :=
      [.store 10 (Crypto.nonceSample 1, Crypto.nonceSample 2) (sampleInfo 1 0 10),
        .delete 20 2 "alice" 1,
        .store 30 (Crypto.nonceSample 1, Crypto.nonceSample 2) (sampleInfo 3 0 30)]
    Guarded (FileOp.apply .plain) FreshIds [] ops ∧
      ¬DistinctRevisions (run (FileOp.apply .plain) [] ops) := by
  decide

/-- In every run of uploads and deletions in order from the empty table, the
    revisions of a logical file are distinct, and every further call in order gives
    its new row the greatest. -/
theorem distinctRevisions_run {env : Env} (hkey : env.config.encodeKey = none) (ops : List FileOp)
    (h : Guarded (FileOp.apply env) (fun t op => FreshIds t op ∧ RevisionsInOrder env t op) []
      ops) :
    DistinctRevisions (run (FileOp.apply env) [] ops) ∧
      ∀ op, FreshIds (run (FileOp.apply env) [] ops) op →
        RevisionsInOrder env (run (FileOp.apply env) [] ops) op →
          NewRowsGreater (run (FileOp.apply env) [] ops)
            (run (FileOp.apply env) [] (ops ++ [op])) := by
  refine ⟨h.invariant (fun _ _ hg ht => (apply_version hkey hg.1 hg.2).distinctRevisions ht)
    List.nodup_nil, ?_⟩
  intro op hfresh hord
  rw [run_append, run_cons, run_nil]
  exact (apply_version hkey hfresh hord).newRowsGreater

/-- Two uploads of a file, then the deletion of the second: its tombstone is the
    third version. -/
theorem distinctRevisions_two_uploads :
    let ops : List FileOp :=
      [.store 10 (Crypto.nonceSample 1, Crypto.nonceSample 2) (sampleInfo 1 0 10),
        .store 20 (Crypto.nonceSample 1, Crypto.nonceSample 2) (sampleInfo 2 1 20),
          .delete 30 3 "alice" 2]
    (run (FileOp.apply .plain) [] ops).map FileRow.revision = [1, 2, 3] ∧
      DistinctRevisions (run (FileOp.apply .plain) [] ops) :=
  ⟨by decide, (distinctRevisions_run rfl _ (by decide)).1⟩

end CosmicSync
