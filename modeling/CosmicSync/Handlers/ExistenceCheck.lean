import CosmicSync.Handlers.FileHandler
import CosmicSync.Services.VersionService
import CosmicSync.Storage.SingleLive

/-!
# The existence of a file

Before a file is deleted by its id, `check_file_exists` is asked whether it exists and whether
it is deleted. The lookups by an id go by three queries: for any row, for any row with its
mark, and for an active row. Rows that share an id answer them differently if only some of them
are deleted. Uploads do not lead to such rows as long as their ids are new; but a restoration
does, since it inserts an active row with the id of a version that was superseded. Besides,
the check binds the id as a signed number, so that it does not see the ids from `2 ^ 63` on,
which half of the tombstones have.

* `Alike`: the rows of an id are all deleted or all active, and the id is small.
* `checksAgree_iff`: the three queries agree exactly then, whatever the order of the rows.
* `AllAlike.step`: the calls that keep it so for every id.
-/

namespace CosmicSync

open Table Run

/-! ## The calls -/

/-- The calls that change the table, restorations included. -/
inductive VersionOp where
  | table (op : TableOp)
  | storeFile (file : SyncFile)

def VersionOp.apply (env : Env) (t : List FileRow) : VersionOp → List FileRow
  | table op => op.apply env t
  | storeFile file => CosmicSync.storeFile env file t

/-- The check and the lookups agree on a file id, whatever order the rows come in; and a
    deletion of an active file is not answered as one of a deleted file. -/
structure ChecksAgree (env : Env) (t : List FileRow) (fileId : ℕ) : Prop where
  active : ∀ pl pl', checkFileExists { env with planner := pl } t fileId = (true, false) ↔
    (getFileInfo { env with planner := pl' } t fileId).isSome
  deleted : ∀ pl, checkFileExists { env with planner := pl } t fileId = (true, true) ↔
    (∃ r ∈ t, r.fileId = fileId) ∧ ∀ r ∈ t, r.fileId = fileId → r.isDeleted = true
  flag : ∀ pl pl',
    (getFileInfoIncludeDeleted { env with planner := pl' } t fileId).map Prod.snd =
      if (checkFileExists { env with planner := pl } t fileId).1 then
        some (checkFileExists { env with planner := pl } t fileId).2
      else none
  deletion : ∀ pl (i : DeleteInputs) (auth : Option VerificationResult) (req : DeleteFileRequest)
    (s : AppState), s.files = t → 0 < req.fileId → req.fileId = fileId →
      (∃ r ∈ t, r.fileId = fileId ∧ r.isDeleted = false) →
        (handleDeleteFile { env with planner := pl } i auth req s).1.response ≠
          ⟨true, "File already deleted"⟩

/-- The rows of a file id are all deleted or all active, and the check sees the id. -/
def Alike (t : List FileRow) (fileId : ℕ) : Prop :=
  ∀ r ∈ t, r.fileId = fileId → fileId < 2 ^ 63 ∧
    ∀ r' ∈ t, r'.fileId = fileId → r'.isDeleted = r.isDeleted

/-! ## When the lookups agree -/

section

variable {env : Env} {t t' : List FileRow} {fileId : ℕ}

theorem checkFileExists_eq (hlt : fileId < 2 ^ 63) :
    checkFileExists env t fileId =
      (fetchOptional env.planner (fun r => r.fileId = fileId) t).elim (false, false) fun r =>
        (true, r.isDeleted) := by
  have hcongr : fetchOptional env.planner (fun r => r.fileId = fileId ∧ fileId < 2 ^ 63) t =
      fetchOptional env.planner (fun r => r.fileId = fileId) t := by
    rw [fetchOptional, fetchOptional]
    simp only [hlt, and_true]
  rcases hfetch : fetchOptional env.planner (fun r => r.fileId = fileId) t with _ | r
  · simp only [checkFileExists, hcongr, hfetch, Option.elim_none]
  · simp only [checkFileExists, hcongr, hfetch, Option.elim_some]

theorem checkFileExists_of_forall_ne (h : ∀ r ∈ t, r.fileId ≠ fileId) :
    checkFileExists env t fileId = (false, false) := by
  have hnone : fetchOptional env.planner (fun r => r.fileId = fileId ∧ fileId < 2 ^ 63) t = none :=
    fetchOptional_eq_none.2 fun r hr hp => h r hr hp.1
  rw [checkFileExists, hnone]

/-- The check of an id whose rows are alike. -/
theorem Alike.checkFileExists (h : Alike t fileId) {r : FileRow} (hr : r ∈ t)
    (hid : r.fileId = fileId) : checkFileExists env t fileId = (true, r.isDeleted) := by
  obtain ⟨hlt, hflag⟩ := h r hr hid
  obtain ⟨r', hr'⟩ := exists_fetchOptional env.planner (p := fun r => r.fileId = fileId) hr hid
  obtain ⟨hmem, hid'⟩ := fetchOptional_some hr'
  rw [checkFileExists_eq hlt, hr', Option.elim_some, hflag r' hmem hid']

theorem Alike.getFileInfoIncludeDeleted (h : Alike t fileId) {r : FileRow} (hr : r ∈ t)
    (hid : r.fileId = fileId) :
    (getFileInfoIncludeDeleted env t fileId).map Prod.snd = some r.isDeleted := by
  obtain ⟨r', hr'⟩ := exists_fetchOptional env.planner (p := fun r => r.fileId = fileId) hr hid
  obtain ⟨hmem, hid'⟩ := fetchOptional_some hr'
  rw [CosmicSync.getFileInfoIncludeDeleted, hr']
  exact congrArg some ((h r hr hid).2 r' hmem hid')

theorem getFileInfoIncludeDeleted_of_forall_ne (h : ∀ r ∈ t, r.fileId ≠ fileId) :
    getFileInfoIncludeDeleted env t fileId = none := by
  rw [CosmicSync.getFileInfoIncludeDeleted, fetchOptional_eq_none.2 h]
  rfl

/-- A deletion by an id is answered as one of a deleted file only if the check says so. -/
theorem checkFileExists_of_response {i : DeleteInputs} {auth : Option VerificationResult}
    {req : DeleteFileRequest} {s : AppState} (hpos : 0 < req.fileId)
    (h : (handleDeleteFile env i auth req s).1.response = ⟨true, "File already deleted"⟩) :
    checkFileExists env s.files req.fileId = (true, true) := by
  rw [handleDeleteFile] at h
  split at h
  next => simp at h
  next =>
    split at h
    next response hfile =>
      -- Of the answers without a deletion, two are refusals.
      rw [fileForDeletion, if_pos hpos, validateFileForDeletion] at hfile
      split at hfile
      next hcheck =>
        cases hfile
        simp at h
      next hcheck => exact hcheck
      next => cases hfile
    next =>
      split at h
      · simp at h
      · simp at h

/-- If the check agrees with the lookups, it sees the ids of all rows. -/
theorem ChecksAgree.lt (h : ChecksAgree env t fileId) (hex : ∃ r ∈ t, r.fileId = fileId) :
    fileId < 2 ^ 63 := by
  by_contra hge
  -- A row that the check does not find is neither active nor deleted.
  have hcheck : checkFileExists { env with planner := env.planner } t fileId = (false, false) :=
    checkFileExists_of_le (not_lt.1 hge) t
  have hall : ∀ r ∈ t, r.fileId = fileId → r.isDeleted = true := by
    intro r hr hid
    by_contra hlive
    have hsome := (h.active env.planner env.planner).2
      (getFileInfo_isSome.2 ⟨r, hr, hid, by simpa using hlive⟩)
    rw [hcheck] at hsome
    cases hsome
  have hdeleted := (h.deleted env.planner).2 ⟨hex, hall⟩
  rw [hcheck] at hdeleted
  cases hdeleted

/-- A deleted row may come first, and then no row of the id is active. -/
theorem ChecksAgree.deleted_of_deleted (h : ChecksAgree env t fileId) {r r' : FileRow} (hr : r ∈ t)
    (hid : r.fileId = fileId) (hdel : r.isDeleted = true) (hr' : r' ∈ t)
    (hid' : r'.fileId = fileId) :
    r'.isDeleted = true := by
  obtain ⟨pl, hpl⟩ := exists_planner_fetchOptional (p := fun r => r.fileId = fileId) hr hid
  have hcheck : checkFileExists { env with planner := pl } t fileId = (true, true) := by
    rw [checkFileExists_eq (h.lt ⟨r, hr, hid⟩), hpl]
    exact congrArg (Prod.mk true) hdel
  exact ((h.deleted pl).1 hcheck).2 r' hr' hid'

theorem ChecksAgree.of_forall_ne (hne : ∀ r ∈ t, r.fileId ≠ fileId) : ChecksAgree env t fileId := by
  refine ⟨fun pl pl' => ?_, fun pl => ?_, fun pl pl' => ?_, fun pl i auth req s _ _ _ hlive _ => ?_⟩
  · rw [checkFileExists_of_forall_ne hne, getFileInfo_isSome]
    exact iff_of_false (by decide) fun ⟨r, hr, hid, _⟩ => hne r hr hid
  · rw [checkFileExists_of_forall_ne hne]
    exact iff_of_false (by decide) fun ⟨⟨r, hr, hid⟩, _⟩ => hne r hr hid
  · rw [checkFileExists_of_forall_ne hne, getFileInfoIncludeDeleted_of_forall_ne hne]
    rfl
  · obtain ⟨r, hr, hid, -⟩ := hlive
    exact hne r hr hid

theorem Alike.checksAgree (h : Alike t fileId) : ChecksAgree env t fileId := by
  by_cases hex : ∃ r ∈ t, r.fileId = fileId
  · obtain ⟨r, hr, hid⟩ := hex
    have hflag := (h r hr hid).2
    refine ⟨fun pl pl' => ?_, fun pl => ?_, fun pl pl' => ?_,
      fun pl i auth req s hs hpos hreq hlive heq => ?_⟩
    · rw [h.checkFileExists hr hid, getFileInfo_isSome]
      constructor
      · intro heq
        exact ⟨r, hr, hid, (Prod.mk.inj heq).2⟩
      · rintro ⟨r', hr', hid', hlive⟩
        rw [← hflag r' hr' hid', hlive]
    · rw [h.checkFileExists hr hid]
      constructor
      · intro heq
        exact ⟨⟨r, hr, hid⟩, fun r' hr' hid' => (hflag r' hr' hid').trans (Prod.mk.inj heq).2⟩
      · rintro ⟨-, hall⟩
        rw [hall r hr hid]
    · rw [h.checkFileExists hr hid, h.getFileInfoIncludeDeleted hr hid, if_pos rfl]
    · subst hs hreq
      have hcheck := checkFileExists_of_response hpos heq
      obtain ⟨r', hr', hid', hlive⟩ := hlive
      rw [h.checkFileExists hr' hid', hlive] at hcheck
      cases hcheck
  · exact .of_forall_ne fun r hr hid => hex ⟨r, hr, hid⟩

/-- The check and the lookups agree exactly on the ids whose rows are alike. -/
theorem checksAgree_iff : ChecksAgree env t fileId ↔ Alike t fileId := by
  refine ⟨fun h r hr hid => ⟨h.lt ⟨r, hr, hid⟩, fun r' hr' hid' => ?_⟩, Alike.checksAgree⟩
  rw [Bool.eq_iff_iff]
  exact ⟨fun hdel => h.deleted_of_deleted hr' hid' hdel hr hid,
    fun hdel => h.deleted_of_deleted hr hid hdel hr' hid'⟩

end

/-! ## The calls that keep the rows of every id alike -/

/-- The condition on a call: an upload has an id without deleted rows; a tombstone has a small
    id, and a deletion marks the rows of another id together; so does the retention pass; and a
    version is stored next to rows with its mark. -/
def KeepsAlike (t : List FileRow) : VersionOp → Prop
  | .table (.file (.store _ _ info)) => ∀ r ∈ t, r.fileId = info.fileId → r.isDeleted = false
  | .table (.file (.delete _ newFileId accountHash fileId)) =>
    ∀ r ∈ t, r.fileId = fileId → r.accountHash = accountHash → newFileId < 2 ^ 63 ∧
      ∀ r₁ ∈ t, ∀ r₂ ∈ t, r₁.fileId = r₂.fileId → r₁.fileId ≠ fileId → r₁.isDeleted = false →
        r₁.logicalByGroup = r.logicalByGroup → r₂.logicalByGroup = r.logicalByGroup
  | .table (.trimOldRevisions maxRevisions) =>
    ∀ r₁ ∈ t, ∀ r₂ ∈ t, r₁.fileId = r₂.fileId → r₁.isDeleted = false →
      IsTrimmed maxRevisions t r₁ → IsTrimmed maxRevisions t r₂
  | .table (.purgeDeletedFilesOlderThan _ _) => True
  | .storeFile file => file.fileId < 2 ^ 63 ∧ ∀ r ∈ t, r.fileId = file.fileId →
      r.isDeleted = file.isDeleted

instance (t : List FileRow) : (op : VersionOp) → Decidable (KeepsAlike t op)
  | .table (.file (.store ..)) => List.decidableBAll _ _
  | .table (.file (.delete ..)) => List.decidableBAll _ _
  | .table (.trimOldRevisions _) => List.decidableBAll _ _
  | .table (.purgeDeletedFilesOlderThan _ _) => isTrue trivial
  | .storeFile _ => inferInstanceAs (Decidable (_ ∧ _))

/-- The rows of every file id are alike. -/
structure AllAlike (t : List FileRow) : Prop where
  bound : ∀ r ∈ t, r.fileId < 2 ^ 63
  marks : ∀ r ∈ t, ∀ r' ∈ t, r.fileId = r'.fileId → r.isDeleted = r'.isDeleted

namespace AllAlike

variable {env : Env} {t t' : List FileRow}

theorem alike (h : AllAlike t) (fileId : ℕ) : Alike t fileId := fun r hr hid =>
  ⟨hid ▸ h.bound r hr, fun r' hr' hid' => h.marks r' hr' r hr (hid'.trans hid.symm)⟩

/-- A statement that marks the rows of an id together. -/
theorem markDeleted {p : FileRow → Prop} [DecidablePred p] (h : AllAlike t)
    (hp : ∀ r₁ ∈ t, ∀ r₂ ∈ t, r₁.fileId = r₂.fileId → r₁.isDeleted = false → p r₁ → p r₂) :
    AllAlike (markDeleted p t) := by
  -- Next to a marked row, a row that is not marked was deleted before.
  have hkept : ∀ r ∈ t, ¬p r → ∀ r₀ ∈ t, p r₀ → r.fileId = r₀.fileId → r.isDeleted = true := by
    intro r hr hnot r₀ hr₀ hp₀ hid
    by_contra hlive
    rw [Bool.not_eq_true] at hlive
    exact hnot (hp r₀ hr₀ r hr hid.symm ((h.marks r₀ hr₀ r hr hid.symm).trans hlive) hp₀)
  refine ⟨fun r hr => ?_, fun r hr r' hr' hid => ?_⟩
  · obtain ⟨hr, -⟩ | ⟨r₀, hr₀, -, rfl⟩ := mem_markDeleted hr
    · exact h.bound r hr
    · exact h.bound r₀ hr₀
  · obtain ⟨hr, hnot⟩ | ⟨r₀, hr₀, hp₀, rfl⟩ := mem_markDeleted hr
    · obtain ⟨hr', -⟩ | ⟨r₀', hr₀', hp₀', rfl⟩ := mem_markDeleted hr'
      · exact h.marks r hr r' hr' hid
      · exact hkept r hr hnot r₀' hr₀' hp₀' hid
    · obtain ⟨hr', hnot'⟩ | ⟨r₀', -, -, rfl⟩ := mem_markDeleted hr'
      · exact (hkept r' hr' hnot' r₀ hr₀ hp₀ hid.symm).symm
      · rfl

theorem append (h : AllAlike t) {r : FileRow} (hb : r.fileId < 2 ^ 63)
    (hr : ∀ r' ∈ t, r'.fileId = r.fileId → r'.isDeleted = r.isDeleted) : AllAlike (t ++ [r]) := by
  refine ⟨fun r₁ hr₁ => ?_, fun r₁ hr₁ r₂ hr₂ hid => ?_⟩
  · rcases List.mem_append.1 hr₁ with hr₁ | hr₁
    · exact h.bound r₁ hr₁
    · exact List.mem_singleton.1 hr₁ ▸ hb
  · rw [List.mem_append, List.mem_singleton] at hr₁ hr₂
    rcases hr₁ with hr₁ | hr₁
    · rcases hr₂ with hr₂ | rfl
      · exact h.marks r₁ hr₁ r₂ hr₂ hid
      · exact hr r₁ hr₁ hid
    · rcases hr₂ with hr₂ | hr₂
      · rw [hr₁] at hid ⊢
        exact (hr r₂ hr₂ hid.symm).symm
      · rw [hr₁, hr₂]

/-- The rows of one id may be deleted, whatever they were. -/
theorem finish {newFileId : ℕ} {f : FileRow → FileRow} (h : AllAlike t) (hb : newFileId < 2 ^ 63)
    (hid : ∀ r, (f r).fileId = r.fileId) (hf : ∀ r, (f r).isDeleted = true) {r : FileRow}
    (hr : r.fileId = newFileId) :
      AllAlike (updateWhere (fun r => r.fileId = newFileId) f (t ++ [r])) := by
  -- A row of another id is one of `t`.
  have hold : ∀ r' ∈ t ++ [r], ¬r'.fileId = newFileId → r' ∈ t := by
    intro r' hr' hne
    rcases List.mem_append.1 hr' with hr' | hr'
    · exact hr'
    · rw [List.mem_singleton.1 hr'] at hne
      exact absurd hr hne
  refine ⟨fun r₁ hr₁ => ?_, fun r₁ hr₁ r₂ hr₂ heq => ?_⟩
  · obtain ⟨hr₁, hne⟩ | ⟨r₀, -, hr₀, rfl⟩ := mem_updateWhere_cases hr₁
    · exact h.bound r₁ (hold r₁ hr₁ hne)
    · rw [hid, hr₀]
      exact hb
  · obtain ⟨hr₁, hne⟩ | ⟨r₀, -, hr₀, rfl⟩ := mem_updateWhere_cases hr₁
    · obtain ⟨hr₂, hne'⟩ | ⟨r₀', -, hr₀', rfl⟩ := mem_updateWhere_cases hr₂
      · exact h.marks r₁ (hold r₁ hr₁ hne) r₂ (hold r₂ hr₂ hne') heq
      · rw [hid] at heq
        exact absurd (heq.trans hr₀') hne
    · obtain ⟨hr₂, hne'⟩ | ⟨r₀', -, -, rfl⟩ := mem_updateWhere_cases hr₂
      · rw [hid] at heq
        exact absurd (heq.symm.trans hr₀) hne'
      · rw [hf, hf]

theorem storeFileInfo {now : ℤ} {nonces : Nonce × Nonce} {info : FileInfo} {id : ℕ} (h : AllAlike t)
    (hop : ∀ r ∈ t, r.fileId = info.fileId → r.isDeleted = false)
    (hok : storeFileInfo env now nonces info t = .ok (id, t')) : AllAlike t' := by
  obtain ⟨-, ⟨-, rfl⟩ | ⟨hnone, hlt, rfl⟩⟩ := storeFileInfo_ok hok
  · -- In place, neither ids nor marks change.
    have hrow : ∀ r ∈ updateWhere (fun r => r.fileId = info.fileId) (FileRow.overwrite info) t,
        ∃ r₀ ∈ t, r.fileId = r₀.fileId ∧ r.isDeleted = r₀.isDeleted := by
      intro r hr
      obtain ⟨hr, -⟩ | ⟨r₀, hr₀, -, rfl⟩ := mem_updateWhere_cases hr
      · exact ⟨r, hr, rfl, rfl⟩
      · exact ⟨r₀, hr₀, rfl, rfl⟩
    refine ⟨fun r hr => ?_, fun r hr r' hr' hid => ?_⟩
    · obtain ⟨r₀, hr₀, hid₀, -⟩ := hrow r hr
      exact hid₀ ▸ h.bound r₀ hr₀
    · obtain ⟨r₀, hr₀, hid₀, hdel₀⟩ := hrow r hr
      obtain ⟨r₀', hr₀', hid₀', hdel₀'⟩ := hrow r' hr'
      rw [hdel₀, hdel₀']
      exact h.marks r₀ hr₀ r₀' hr₀' (hid₀.symm.trans (hid.trans hid₀'))
  · -- No row has the id of a new version.
    have hfresh : ∀ r ∈ t, r.fileId ≠ info.fileId := fun r hr hid => hnone r hr ⟨hid, hop r hr hid⟩
    obtain ⟨-, heq⟩ | ⟨e, he, -, -, heq⟩ := retire_cases env.planner info.logical t
    · rw [heq]
      exact h.append hlt fun r hr hid => absurd hid (hfresh r hr)
    · rw [heq]
      have hretired := h.markDeleted (p := fun f => f.fileId = e.fileId)
        fun r₁ _ r₂ _ hid _ hp => hid.symm.trans hp
      refine hretired.append hlt fun r hr hid => ?_
      obtain ⟨hr, -⟩ | ⟨r₀, hr₀, -, rfl⟩ := mem_markDeleted hr
      · exact absurd hid (hfresh r hr)
      · exact absurd hid (hfresh r₀ hr₀)

theorem deleteFile {now : ℤ} {newFileId fileId : ℕ} {accountHash : String} (h : AllAlike t)
    (hop : KeepsAlike t (.table (.file (.delete now newFileId accountHash fileId))))
    (hok : deleteFile env now newFileId accountHash fileId t = .ok ((), t')) : AllAlike t' := by
  obtain ⟨r, filePath, filename, hfetch, -, -, rfl⟩ := deleteFile_ok hok
  obtain ⟨hr, hid, hacc⟩ := fetchOptional_some hfetch
  obtain ⟨hlt, htogether⟩ := hop r hr hid hacc
  have hfirst := h.markDeleted (p := fun f => f.fileId = fileId)
    fun r₁ _ r₂ _ hid _ hp => hid.symm.trans hp
  -- The rows of the file id are deleted by now; those of any other id share the columns of the
  -- row, or none that is active has them.
  have hsecond := hfirst.markDeleted (p := fun f => f.logicalByGroup = r.logicalByGroup) (by
    intro r₁ hr₁ r₂ hr₂ hid₁₂ hlive hk
    obtain ⟨hr₁, hne⟩ := active_of_mem_markDeleted hr₁ hlive
    obtain ⟨hr₂, -⟩ | ⟨r₀, hr₀, -, rfl⟩ := mem_markDeleted hr₂
    · exact htogether r₁ hr₁ r₂ hr₂ hid₁₂ hne hlive hk
    · exact htogether r₁ hr₁ r₀ hr₀ hid₁₂ hne hlive hk)
  exact hsecond.finish (f := FileRow.finishTombstone now (r.revision + 1) r.groupId r.watcherId)
    (r := insertedTombstone now newFileId accountHash filePath filename r) hlt (fun _ => rfl)
    (fun _ => rfl) rfl

/-- Every call that meets the condition keeps the rows of every id alike. -/
theorem step {op : VersionOp} (hop : KeepsAlike t op) (h : AllAlike t) :
    AllAlike (op.apply env t) := by
  rcases op with ((⟨now, nonces, info⟩ | ⟨now, newFileId, accountHash, fileId⟩) | n | ⟨now,
    ttl⟩) | file
  · exact committed_of h fun _ _ hok => h.storeFileInfo hop hok
  · exact committed_of h fun _ _ hok => h.deleteFile hop hok
  · exact h.markDeleted hop
  · have hsub : ∀ r ∈ purgeDeletedFilesOlderThan now ttl t, r ∈ t := fun r hr =>
      (mem_deleteWhere.1 hr).1
    exact ⟨fun r hr => h.bound r (hsub r hr),
      fun r hr r' hr' hid => h.marks r (hsub r hr) r' (hsub r' hr') hid⟩
  · obtain ⟨keyId, hstore⟩ := exists_storeFile env file t
    rw [VersionOp.apply, hstore]
    exact h.append hop.1 hop.2

end AllAlike

/-! ## Runs -/

/-- After every run of uploads, deletions, retention passes and restorations that meet the
    condition, the check and the lookups agree on every file id. -/
theorem checksAgree_run {env : Env} (ops : List VersionOp)
    (h : Guarded (VersionOp.apply env) KeepsAlike [] ops) (fileId : ℕ) :
    ChecksAgree env (run (VersionOp.apply env) [] ops) fileId := by
  have hempty : AllAlike [] := ⟨by simp, by simp⟩
  have halike : AllAlike (run (VersionOp.apply env) [] ops) :=
    h.invariant (fun _ _ hop ht => ht.step hop) hempty
  exact (halike.alike fileId).checksAgree

/-- The version of the first upload of `sampleInfo`, as it is restored after two uploads. -/
def supersededVersion : SyncFile :=
  restoredFile ((Env.plain.newRow 10 (Crypto.nonceSample 1, Crypto.nonceSample 2)
    (sampleInfo 1 0 10)
    1).toVersion .plain) 3 "d" ⟨30, 0⟩ ⟨30, 0⟩

/-- Two uploads of a file, and the restoration of the first version. -/
def restoringOps : List VersionOp :=
  [.table (.file (.store 10 (Crypto.nonceSample 1, Crypto.nonceSample 2) (sampleInfo 1 0 10))),
    .table (.file (.store 20 (Crypto.nonceSample 1, Crypto.nonceSample 2) (sampleInfo 2 1 20))),
    .storeFile supersededVersion]

/-- The restored file is active, and the check takes it for deleted. -/
theorem not_checksAgree_restored :
    checkFileExists .plain (run (VersionOp.apply .plain) [] restoringOps) 1 = (true, true) ∧
      (getFileInfo .plain (run (VersionOp.apply .plain) [] restoringOps) 1).isSome ∧
      ¬ChecksAgree .plain (run (VersionOp.apply .plain) [] restoringOps) 1 := by
  have hcheck : checkFileExists .plain (run (VersionOp.apply .plain) [] restoringOps) 1 =
      (true, true) := by decide
  have hsome : (getFileInfo .plain (run (VersionOp.apply .plain) [] restoringOps) 1).isSome := by
    decide
  refine ⟨hcheck, hsome, fun h => ?_⟩
  have hactive : checkFileExists .plain (run (VersionOp.apply .plain) [] restoringOps) 1 =
      (true, false) := (h.active .insertion .insertion).2 hsome
  rw [hcheck] at hactive
  cases hactive

/-- Two uploads of a file, the deletion of the second, a retention pass, and the restoration of
    a version of another file. -/
theorem checksAgree_sampleOps :
    let other : FileInfo := { sampleInfo 4 0 20 with filename := "b.txt" }
    let ops : List VersionOp :=
      [.table (.file (.store 10 (Crypto.nonceSample 1, Crypto.nonceSample 2) (sampleInfo 1 0 10))),
        .table (.file (.store 20 (Crypto.nonceSample 1, Crypto.nonceSample 2) (sampleInfo 2 1 20))),
        .table (.file (.delete 30 3 "alice" 2)),
        .table (.file (.store 40 (Crypto.nonceSample 1, Crypto.nonceSample 2) other)),
        .table (.trimOldRevisions 5),
        .storeFile { supersededVersion with fileId := 4, filename := "b.txt" }]
    (run (VersionOp.apply .plain) [] ops).map (fun r => (r.fileId, r.isDeleted)) =
        [(1, true), (2, true), (3, true), (4, false), (4, false)] ∧
      ChecksAgree .plain (run (VersionOp.apply .plain) [] ops) 4 :=
  ⟨by decide, checksAgree_run _ (by decide) 4⟩

end CosmicSync
