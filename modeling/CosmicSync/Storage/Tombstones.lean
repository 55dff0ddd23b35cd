import CosmicSync.Library.Run
import CosmicSync.Storage.MySqlFile

/-!
# Deletions and tombstones

A deletion finds a row by its file id and marks rows twice: those of the file id, whoever
they belong to, and those of the path, the name and the group of the row that was found. Then
it adds a tombstone, in two statements of which the second goes by a random file id. None of
this reaches another file as long as no two rows have the same file id; and that is so if
every upload brings a new id, or the one of an active row, and every tombstone a new one.

* `removesFile_of_deleteFile`: what a deletion does to a table whose ids are unique.
* `uniqueIds_apply`: the ids stay unique.
-/

namespace CosmicSync

open Table Run

/-- No two rows have the same file id. -/
def UniqueIds (t : List FileRow) : Prop := Keyed FileRow.fileId t

/-- An upload has a new id, or the one of an active row; a tombstone has a new id. -/
def NewIds (t : List FileRow) : FileOp → Prop
  | .store _ _ info => ∀ r ∈ t, r.fileId = info.fileId → r.isDeleted = false
  | .delete _ newFileId _ _ => ∀ r ∈ t, r.fileId ≠ newFileId

instance (t : List FileRow) : (op : FileOp) → Decidable (NewIds t op)
  | .store .. => List.decidableBAll _ _
  | .delete .. => List.decidableBAll _ _

/-- From `t` to `t'`, a file is removed, and nothing else: its rows are marked, one tombstone
    is added, and the other rows stay as they are. -/
structure RemovesFile (k : LogicalFile) (revision : ℤ) (t t' : List FileRow) : Prop where
  inactive : ∀ r ∈ t', r.logicalByGroup = k → r.isDeleted = true
  tombstone : ∃ rows r, t' = rows ++ [r] ∧ rows.length = t.length ∧ r.logicalByGroup = k ∧
    r.isDeleted = true ∧ r.revision = revision + 1
  marked : ∀ (i : ℕ) (r : FileRow), t[i]? = some r → r.logicalByGroup = k →
    t'[i]? = some { r with isDeleted := true }
  others : ∀ (i : ℕ) (r : FileRow), t[i]? = some r → r.logicalByGroup ≠ k → t'[i]? = some r

/-- The tombstone of a deletion, after its two statements. -/
def FileRow.tombstone (now : ℤ) (newFileId : ℕ) (accountHash filePath filename : String)
    (r : FileRow) : FileRow :=
  (insertedTombstone now newFileId accountHash filePath filename r).finishTombstone now
    (r.revision + 1) r.groupId r.watcherId

section

variable {env : Env} {t t' : List FileRow} {now : ℤ} {newFileId fileId : ℕ} {accountHash : String}

/-- Where the file ids are unique, a deletion marks the rows of the file of the row it found,
    and adds the tombstone. -/
theorem deleteFile_of_uniqueIds (ht : UniqueIds t) (hnew : ∀ r ∈ t, r.fileId ≠ newFileId)
    (h : deleteFile env now newFileId accountHash fileId t = .ok ((), t')) :
    ∃ r ∈ t, r.fileId = fileId ∧ r.accountHash = accountHash ∧ ∃ filePath filename,
      r.filePath = filePath.toByteArray ∧ r.filename = filename.toByteArray ∧
      t' = markDeleted (fun f => f.logicalByGroup = r.logicalByGroup) t ++
        [r.tombstone now newFileId accountHash filePath filename] := by
  obtain ⟨r, filePath, filename, hfetch, hpath, hname, rfl⟩ := deleteFile_ok h
  obtain ⟨hr, hid, hacc⟩ := fetchOptional_some hfetch
  refine ⟨r, hr, hid, hacc, filePath, filename, hpath, hname, ?_⟩
  -- The row of the id is one of the file.
  have hmarked : markDeleted (fun f => f.logicalByGroup = r.logicalByGroup)
        (markDeleted (fun f => f.fileId = fileId) t) =
      markDeleted (fun f => f.logicalByGroup = r.logicalByGroup) t := by
    rw [markDeleted, markDeleted, markDeleted, updateWhere, updateWhere, updateWhere, List.map_map]
    refine List.map_congr_left fun f hf => ?_
    rw [Function.comp_apply]
    by_cases hf' : f.fileId = fileId
    · obtain rfl : f = r := ht.eq_of_mem hf hr (hf'.trans hid.symm)
      rw [if_pos hid]
      exact (if_pos rfl).trans (if_pos rfl).symm
    · rw [if_neg hf']
  -- And the second statement of the tombstone only finds the tombstone.
  have hkept : ∀ f ∈ markDeleted (fun f => f.logicalByGroup = r.logicalByGroup) t,
      f.fileId ≠ newFileId := by
    intro f hf
    obtain ⟨hf, -⟩ | ⟨f₀, hf₀, -, rfl⟩ := mem_markDeleted hf
    · exact hnew f hf
    · exact hnew f₀ hf₀
  rw [hmarked, updateWhere_append, updateWhere_eq_self hkept]
  refine congrArg _ ?_
  exact congrArg (fun x => [x]) (if_pos rfl)

/-- A row at its place, after some were marked and one was added. -/
theorem getElem?_markDeleted_append {p : FileRow → Prop} [DecidablePred p] {i : ℕ} {f : FileRow}
    (hi : t[i]? = some f) (r : FileRow) :
    (markDeleted p t ++ [r])[i]? = some (if p f then { f with isDeleted := true } else f) := by
  have hlt : i < (markDeleted p t).length := by
    rw [markDeleted, updateWhere, List.length_map]
    exact (List.getElem?_eq_some_iff.1 hi).1
  rw [List.getElem?_append_left hlt, markDeleted, updateWhere, List.getElem?_map, hi,
    Option.map_some]

theorem removesFile_of_deleteFile (ht : UniqueIds t) (hnew : ∀ r ∈ t, r.fileId ≠ newFileId)
    (h : deleteFile env now newFileId accountHash fileId t = .ok ((), t')) :
    ∃ r ∈ t, r.fileId = fileId ∧ r.accountHash = accountHash ∧
      RemovesFile r.logicalByGroup r.revision t t' := by
  obtain ⟨r, hr, hid, hacc, filePath, filename, hpath, hname, rfl⟩ :=
    deleteFile_of_uniqueIds ht hnew h
  -- The second statement of the tombstone goes by the new file id, so that it has reached the
  -- tombstone only; what is left is one mark and one row.
  refine ⟨r, hr, hid, hacc, ?_, ?_, ?_, ?_⟩
  · intro f hf hk
    rcases List.mem_append.1 hf with hf | hf
    · obtain ⟨-, hk'⟩ | ⟨f₀, -, -, rfl⟩ := mem_markDeleted hf
      · exact absurd hk hk'
      · rfl
    · rw [List.mem_singleton.1 hf]
      rfl
  · refine ⟨_, _, rfl, List.length_map _, ?_, rfl, rfl⟩
    rw [FileRow.logicalByGroup, FileRow.logicalByGroup, hacc, hpath, hname]
    rfl
  · intro i f hi hk
    rw [getElem?_markDeleted_append hi, if_pos hk]
  · intro i f hi hk
    rw [getElem?_markDeleted_append hi, if_neg hk]

/-- Uploads and deletions keep the file ids unique. -/
theorem uniqueIds_apply {op : FileOp} (hnew : NewIds t op) (ht : UniqueIds t) :
    UniqueIds (op.apply env t) := by
  rcases op with ⟨now, nonces, info⟩ | ⟨now, newFileId, accountHash, fileId⟩
  · refine committed_of ht fun id t' h => ?_
    obtain ⟨-, ⟨-, rfl⟩ | ⟨hnone, -, rfl⟩⟩ := storeFileInfo_ok h
    · exact Keyed.updateWhere ht fun _ => rfl
    · have hids : (retire env.planner info.logical t).map FileRow.fileId = t.map FileRow.fileId :=
        map_retire fun _ => rfl
      have hretired : UniqueIds (retire env.planner info.logical t) := by
        rw [UniqueIds, Keyed, hids]
        exact ht
      refine Keyed.append hretired fun r hr hid => ?_
      -- Without an active row of the id, there is none.
      have hmem : r.fileId ∈ t.map FileRow.fileId := hids ▸ List.mem_map_of_mem hr
      obtain ⟨r₀, hr₀, hid₀⟩ := List.mem_map.1 hmem
      exact hnone r₀ hr₀ ⟨hid₀.trans hid, hnew r₀ hr₀ (hid₀.trans hid)⟩
  · refine committed_of ht fun _ t' h => ?_
    obtain ⟨r, -, -, -, filePath, filename, -, -, rfl⟩ := deleteFile_of_uniqueIds ht hnew h
    refine Keyed.append (Keyed.updateWhere ht fun _ => rfl) fun f hf hid => ?_
    obtain ⟨hf, -⟩ | ⟨f₀, hf₀, -, rfl⟩ := mem_markDeleted hf
    · exact hnew f hf hid
    · exact hnew f₀ hf₀ hid

end

/-! ## Runs -/

/-- After every run of uploads and deletions with new ids, a deletion removes the file of the
    only row with its file id, and nothing else; if there is no such row of the account, the
    table stays as it is. -/
theorem removesFile_run {env : Env} (ops : List FileOp)
    (h : Guarded (FileOp.apply env) NewIds [] ops) (now : ℤ) (newFileId : ℕ) (accountHash : String)
    (fileId : ℕ)
    (hnew : NewIds (run (FileOp.apply env) [] ops) (.delete now newFileId accountHash fileId)) :
    (∀ t', deleteFile env now newFileId accountHash fileId (run (FileOp.apply env) [] ops) =
        .ok ((), t') →
      ∃ r ∈ run (FileOp.apply env) [] ops, r.fileId = fileId ∧ r.accountHash = accountHash ∧
        (∀ r' ∈ run (FileOp.apply env) [] ops, r'.fileId = fileId → r' = r) ∧
        RemovesFile r.logicalByGroup r.revision (run (FileOp.apply env) [] ops) t') ∧
    ∀ msg, deleteFile env now newFileId accountHash fileId (run (FileOp.apply env) [] ops) =
        .error (.notFound msg) →
      FileOp.apply env (run (FileOp.apply env) [] ops) (.delete now newFileId accountHash fileId) =
        run (FileOp.apply env) [] ops := by
  have hids : UniqueIds (run (FileOp.apply env) [] ops) :=
    h.invariant (fun _ _ hop ht => uniqueIds_apply hop ht) Keyed.nil
  refine ⟨fun t' hok => ?_, fun msg herror => ?_⟩
  · obtain ⟨r, hr, hid, hacc, hremoves⟩ := removesFile_of_deleteFile hids hnew hok
    exact ⟨r, hr, hid, hacc, fun r' hr' hid' =>
      hids.eq_of_mem hr' hr (hid'.trans hid.symm), hremoves⟩
  · rw [FileOp.apply, herror]
    rfl

/-- Two versions of a file and another file; the first version is deleted. -/
theorem removesFile_sampleOps :
    let other : FileInfo := { sampleInfo 3 0 20 with filename := "b.txt" }
    let ops : List FileOp :=
      [.store 10 (Crypto.nonceSample 1, Crypto.nonceSample 2) (sampleInfo 1 0 10),
        .store 20 (Crypto.nonceSample 1, Crypto.nonceSample 2) (sampleInfo 2 1 20),
        .store 20 (Crypto.nonceSample 1, Crypto.nonceSample 2) other]
    ∃ t', deleteFile .plain 30 4 "alice" 1 (run (FileOp.apply .plain) [] ops) = .ok ((), t') ∧
      (t'.map fun r => (r.fileId, r.revision, r.isDeleted)) =
        [(1, 1, true), (2, 2, true), (3, 1, false), (4, 2, true)] ∧
      ∃ r ∈ run (FileOp.apply .plain) [] ops, r.fileId = 1 ∧ r.accountHash = "alice" ∧
        (∀ r' ∈ run (FileOp.apply .plain) [] ops, r'.fileId = 1 → r' = r) ∧
        RemovesFile r.logicalByGroup r.revision (run (FileOp.apply .plain) [] ops) t' :=
  ⟨_, rfl, by decide, (removesFile_run _ (by decide) 30 4 "alice" 1 (by decide)).1 _ rfl⟩

end CosmicSync
