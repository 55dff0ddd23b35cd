import CosmicSync.Library.Run
import CosmicSync.Storage.MySqlFile

/-!
# At most one live version

Without a server key, a logical file never has two active rows, whatever the
sequence of uploads, deletions and retention passes and whatever the file ids
they use. An upload retires one row only; but then there was only one.

* `SingleLive`: the invariant, on pairs of rows.
* `SingleLive.apply`: every call keeps it.
* `liveCount_run_le_one`: so, after every run from the empty table, there is at most
  one active row.
-/

namespace CosmicSync

open Table Run

/-- Uploads and deletions, and the two statements of the retention pass. -/
inductive TableOp where
  | file (op : FileOp)
  | trimOldRevisions (maxRevisions : ℤ)
  | purgeDeletedFilesOlderThan (now ttlSecs : ℤ)

def TableOp.apply (env : Env) (t : List FileRow) : TableOp → List FileRow
  | file op => op.apply env t
  | trimOldRevisions maxRevisions => CosmicSync.trimOldRevisions maxRevisions t
  | purgeDeletedFilesOlderThan now ttlSecs => CosmicSync.purgeDeletedFilesOlderThan now ttlSecs t

/-- The rows are not both active versions of one logical file. -/
def Apart (r r' : FileRow) : Prop :=
  r.isDeleted = false → r'.isDeleted = false → r.logical ≠ r'.logical

instance : Std.Symm Apart := ⟨fun _ _ h hd hd' => (h hd' hd).symm⟩

/-- No two rows are active versions of one logical file. -/
def SingleLive (t : List FileRow) : Prop := t.Pairwise Apart

namespace SingleLive

variable {t : List FileRow}

/-- Two active rows of one logical file are the same. -/
theorem eq_of_logical_eq (ht : SingleLive t) {r r' : FileRow} (hr : r ∈ t) (hr' : r' ∈ t)
    (hd : r.isDeleted = false) (hd' : r'.isDeleted = false) (hk : r.logical = r'.logical) :
    r = r' := by
  by_contra hne
  exact List.Pairwise.forall ht hr hr' hne hd hd' hk

/-- An update that makes no row active and keeps the logical file of those it
    leaves active. -/
theorem updateWhere (ht : SingleLive t) {p : FileRow → Prop} [DecidablePred p]
    {f : FileRow → FileRow}
    (hf : ∀ r, (f r).isDeleted = false → r.isDeleted = false ∧ (f r).logical = r.logical) :
    SingleLive (updateWhere p f t) := by
  have hrow : ∀ r, (if p r then f r else r).isDeleted = false →
      r.isDeleted = false ∧ (if p r then f r else r).logical = r.logical := by
    intro r hr
    split at hr
    next hp => rw [if_pos hp]; exact hf r hr
    next hp => rw [if_neg hp]; exact ⟨hr, rfl⟩
  refine ht.map _ fun r r' hrr' hd hd' => ?_
  obtain ⟨hd, hk⟩ := hrow r hd
  obtain ⟨hd', hk'⟩ := hrow r' hd'
  rw [hk, hk']
  exact hrr' hd hd'

theorem markDeleted (ht : SingleLive t) (p : FileRow → Prop) [DecidablePred p] :
    SingleLive (markDeleted p t) := ht.updateWhere fun _ h => by cases h

/-- A row may be added if it is deleted, or if its logical file has no active row. -/
theorem append_singleton (ht : SingleLive t) {r : FileRow}
    (h : r.isDeleted = false → ∀ r' ∈ t, r'.logical = r.logical → r'.isDeleted = true) :
    SingleLive (t ++ [r]) := by
  refine List.pairwise_append.2 ⟨ht, List.pairwise_singleton _ _, ?_⟩
  intro r' hr' r'' hr'' hd' hd hk
  obtain rfl := List.mem_singleton.1 hr''
  rw [h hd r' hr' hk] at hd'
  cases hd'

/-- After retiring, the logical file has no active row: the one found was the only
    one. -/
theorem not_active_of_mem_retire (ht : SingleLive t) {pl : Planner} {k : LogicalFile}
    {r : FileRow} (hr : r ∈ retire pl k t) (hk : r.logical = k) : r.isDeleted = true := by
  obtain ⟨hnone, heq⟩ | ⟨e, he, hek, hed, heq⟩ := retire_cases pl k t
  · exact hnone r (heq ▸ hr) hk
  · by_contra hd
    rw [Bool.not_eq_true] at hd
    obtain ⟨hr, hne⟩ := active_of_mem_markDeleted (heq ▸ hr) hd
    exact hne (congrArg FileRow.fileId (ht.eq_of_logical_eq hr he hd hed (hk.trans hek.symm)))

theorem retire (ht : SingleLive t) (pl : Planner) (k : LogicalFile) :
    SingleLive (retire pl k t) := by
  obtain ⟨-, heq⟩ | ⟨e, -, -, -, heq⟩ := retire_cases pl k t
  · rwa [heq]
  · rw [heq]
    exact ht.markDeleted _

/-! ## Steps -/

variable {env : Env}

theorem storeFileInfo (ht : SingleLive t) (hkey : env.config.encodeKey = none) {now : ℤ}
    {nonces : Nonce × Nonce} {info : FileInfo} {id : ℕ} {t' : List FileRow}
    (h : storeFileInfo env now nonces info t = .ok (id, t')) : SingleLive t' := by
  obtain ⟨-, ⟨-, rfl⟩ | ⟨-, -, rfl⟩⟩ := storeFileInfo_ok h
  · -- In place: neither the logical file nor the mark changes.
    exact ht.updateWhere fun r hr => ⟨hr, rfl⟩
  · refine (ht.retire _ _).append_singleton fun _ r hr hk => ?_
    exact ht.not_active_of_mem_retire hr (hk.trans (newRow_logical hkey _))

theorem deleteFile (ht : SingleLive t) {now : ℤ} {newFileId fileId : ℕ} {accountHash : String}
    {t' : List FileRow} (h : deleteFile env now newFileId accountHash fileId t = .ok ((), t')) :
    SingleLive t' := by
  obtain ⟨r, filePath, filename, -, -, -, rfl⟩ := deleteFile_ok h
  rw [updateWhere_append]
  -- The second statement marks the tombstone, so that it is never seen active.
  refine List.pairwise_append.2 ⟨((ht.markDeleted _).markDeleted _).updateWhere ?_,
    List.pairwise_singleton _ _, ?_⟩
  · intro r hr
    cases hr
  · intro _ _ r' hr' _ hd'
    obtain rfl := List.mem_singleton.1 hr'
    simp [insertedTombstone, FileRow.finishTombstone] at hd'

theorem apply (ht : SingleLive t) (hkey : env.config.encodeKey = none) (op : TableOp) :
    SingleLive (op.apply env t) := by
  rcases op with (⟨now, nonces, info⟩ | ⟨now, newFileId, accountHash, fileId⟩) | n | ⟨now, ttl⟩
  · exact committed_of ht fun _ _ h => ht.storeFileInfo hkey h
  · exact committed_of ht fun _ _ h => ht.deleteFile h
  · exact ht.markDeleted _
  · exact ht.sublist List.filter_sublist

end SingleLive

/-! ## Runs -/

/-- The number of active rows of a logical file. -/
def liveCount (k : LogicalFile) (t : List FileRow) : ℕ :=
  (t.filter fun r => r.logical = k ∧ r.isDeleted = false).length

theorem SingleLive.liveCount_le_one {t : List FileRow} (ht : SingleLive t) (k : LogicalFile) :
    liveCount k t ≤ 1 := by
  have hpair : SingleLive (t.filter fun r => r.logical = k ∧ r.isDeleted = false) :=
    ht.sublist List.filter_sublist
  have hmem : ∀ r ∈ t.filter fun r => r.logical = k ∧ r.isDeleted = false,
      r.logical = k ∧ r.isDeleted = false := by simp
  rw [liveCount]
  generalize t.filter (fun r => r.logical = k ∧ r.isDeleted = false) = l at hpair hmem
  rcases l with _ | ⟨r, _ | ⟨r', l⟩⟩
  · exact Nat.zero_le 1
  · exact le_refl 1
  · obtain ⟨hk, hd⟩ := hmem r (by simp)
    obtain ⟨hk', hd'⟩ := hmem r' (by simp)
    exact absurd (hk.trans hk'.symm) (List.rel_of_pairwise_cons hpair List.mem_cons_self hd hd')

/-- Without a server key, after every run of uploads, deletions and retention
    passes from the empty table, every logical file has at most one active row. -/
theorem liveCount_run_le_one {env : Env} (hkey : env.config.encodeKey = none) (ops : List TableOp)
    (k : LogicalFile) : liveCount k (run (TableOp.apply env) [] ops) ≤ 1 := by
  have hinv : SingleLive (run (TableOp.apply env) [] ops) :=
    run_invariant (fun _ op ht => ht.apply hkey op) List.Pairwise.nil
  exact hinv.liveCount_le_one k

/-- Two uploads of one file under different ids, then a retention pass. -/
theorem liveCount_two_uploads :
    let ops : List TableOp :=
      [.file (.store 10 (Crypto.nonceSample 1, Crypto.nonceSample 2) (sampleInfo 1 0 10)),
        .file (.store 20 (Crypto.nonceSample 1, Crypto.nonceSample 2) (sampleInfo 2 1 20)),
          .trimOldRevisions 1,
        .purgeDeletedFilesOlderThan 30 5]
    (run (TableOp.apply .plain) [] ops).map FileRow.fileId = [2] ∧
      liveCount (sampleInfo 1 0 10).logical (run (TableOp.apply .plain) [] ops) ≤ 1 :=
  ⟨by decide, liveCount_run_le_one rfl _ _⟩

end CosmicSync
