import CosmicSync.Library.Run
import CosmicSync.Storage.MySqlFile

/-!
# The retention window

A row that is marked as deleted should stay for a while, so that its version can be
restored. The purge tells by the column `updated_time` how long a row has been deleted. But
this is the time of the upload, and marking a row does not write it: a version that is
superseded long after it was uploaded goes with the next purge.

To speak of the time at which a row was marked, the rows of a run carry it along
(`MarkedRow`). No call reads it: without it, a run is one of the calls (`files_run`).

* `InTime`: no purge from now on removes a row that was marked too recently.
* `MarksRecent`: a call marks rows of the last second only.
-/

namespace CosmicSync

open Table Run

/-! ## The calls -/

/-- The calls of clients, and the two of the retention task. -/
inductive RetentionOp where
  | file (op : FileOp)
  | trim (now maxRevisions : ℤ)
  | purge (now ttlSecs : ℤ)

/-- The time of a call. -/
def RetentionOp.now : RetentionOp → ℤ
  | file (.store now ..) => now
  | file (.delete now ..) => now
  | trim now _ => now
  | purge now _ => now

/-- The table after a call. -/
def RetentionOp.apply (env : Env) (t : List FileRow) : RetentionOp → List FileRow
  | file op => op.apply env t
  | trim _ maxRevisions => trimOldRevisions maxRevisions t
  | purge now ttlSecs => purgeDeletedFilesOlderThan now ttlSecs t

/-- The rows that a purge removes. -/
def IsPurged (now ttlSecs : ℤ) (r : FileRow) : Prop :=
  r.isDeleted = true ∧ r.updatedTime < now - ttlSecs

instance (now ttlSecs : ℤ) : DecidablePred (IsPurged now ttlSecs) :=
  fun _ => inferInstanceAs (Decidable (_ ∧ _))

/-! ## Rows with the time of their mark -/

/-- A row, and the time at which it was marked as deleted. -/
structure MarkedRow where
  row : FileRow
  markedAt : Option ℤ

namespace MarkedRow

/-- The row that is inserted at the time `now`. -/
def inserted (now : ℤ) (r : FileRow) : MarkedRow := ⟨r, if r.isDeleted then some now else none⟩

/-- The row after a call at the time `now`, which left `r` in its place. -/
def become (x : MarkedRow) (now : ℤ) (r : FileRow) : MarkedRow :=
  ⟨r, if x.row.isDeleted then x.markedAt else if r.isDeleted then some now else none⟩

/-- Where a call has updated rows in their places and appended others, the rows with the
    time of their mark. -/
def remark (now : ℤ) : List MarkedRow → List FileRow → List MarkedRow
  | [], t => t.map (inserted now)
  | x :: rows, r :: t => x.become now r :: remark now rows t
  | _ :: _, [] => []

end MarkedRow

/-- The table of files, and the time of the last call. -/
structure MarkedTable where
  rows : List MarkedRow
  clock : ℤ

namespace MarkedTable

/-- The table without the marks. -/
def files (s : MarkedTable) : List FileRow := s.rows.map MarkedRow.row

/-- A call: the purge removes rows, and every other one leaves them in their places. -/
def step (env : Env) (s : MarkedTable) (op : RetentionOp) : MarkedTable where
  rows :=
    match op with
    | .purge now ttlSecs => deleteWhere (fun x => IsPurged now ttlSecs x.row) s.rows
    | op => MarkedRow.remark op.now s.rows (op.apply env s.files)
  clock := op.now

/-- The clock does not go back. -/
def Timely (s : MarkedTable) (op : RetentionOp) : Prop := s.clock ≤ op.now

instance (s : MarkedTable) : DecidablePred (Timely s) :=
  fun _ => inferInstanceAs (Decidable (_ ≤ _))

/-- A purge removes no row before it has been marked for as long as the retention time. -/
def PurgesInTime (s : MarkedTable) : RetentionOp → Prop
  | .purge now ttlSecs =>
    ∀ x ∈ s.rows, IsPurged now ttlSecs x.row → ∃ k ∈ x.markedAt, k + ttlSecs ≤ now
  | _ => True

instance (s : MarkedTable) : (op : RetentionOp) → Decidable (PurgesInTime s op)
  | .purge .. => inferInstanceAs (Decidable (∀ x ∈ s.rows, _))
  | .file _ => inferInstanceAs (Decidable True)
  | .trim .. => inferInstanceAs (Decidable True)

/-- Nor does any purge from now on, whatever the retention time. -/
def InTime (s : MarkedTable) : Prop :=
  ∀ now ttlSecs, s.clock ≤ now → PurgesInTime s (.purge now ttlSecs)

/-! ## When rows are kept -/

/-- The active rows with `p` were uploaded within the last second. -/
def RecentWhere (p : FileRow → Prop) (now : ℤ) (t : List FileRow) : Prop :=
  ∀ r ∈ t, r.isDeleted = false → p r → now ≤ r.updatedTime + 1

instance (p : FileRow → Prop) [DecidablePred p] (now : ℤ) (t : List FileRow) :
    Decidable (RecentWhere p now t) := List.decidableBAll _ _

/-- The active rows that a call marks were uploaded within the last second, and it sets
    the time of no deleted row back to before its mark. -/
def MarksRecent (env : Env) (s : MarkedTable) : RetentionOp → Prop
  | .file (.store now _ info) =>
    ((∃ r ∈ s.files, r.fileId = info.fileId ∧ r.isDeleted = false) →
      ∀ x ∈ s.rows, x.row.fileId = info.fileId → ∀ k ∈ x.markedAt,
        k ≤ info.updatedTime.seconds + 1) ∧
    ((∀ r ∈ s.files, ¬(r.fileId = info.fileId ∧ r.isDeleted = false)) → info.fileId < 2 ^ 63 →
      ∀ e ∈ fetchOptional env.planner
          (fun r => r.logical = info.logical ∧ r.isDeleted = false) s.files,
        RecentWhere (fun r => r.fileId = e.fileId) now s.files)
  | .file (.delete now newFileId accountHash fileId) =>
    ∀ e ∈ fetchOptional env.planner
        (fun r => r.fileId = fileId ∧ r.accountHash = accountHash) s.files,
      (env.driver.text e.filePath).isSome → (env.driver.text e.filename).isSome →
        -- The second statement of the tombstone writes the time of the rows with its id.
        RecentWhere (fun r => r.fileId ≠ newFileId ∧
          (r.fileId = fileId ∨ r.logicalByGroup = e.logicalByGroup)) now s.files
  | .trim now maxRevisions => RecentWhere (IsTrimmed maxRevisions s.files) now s.files
  | .purge .. => True

instance (env : Env) (s : MarkedTable) : (op : RetentionOp) → Decidable (MarksRecent env s op)
  | .file (.store ..) => inferInstanceAs (Decidable (_ ∧ _))
  | .file (.delete ..) => inferInstanceAs (Decidable (∀ e ∈ fetchOptional _ _ _, _))
  | .trim .. => inferInstanceAs (Decidable (RecentWhere _ _ _))
  | .purge .. => inferInstanceAs (Decidable True)

end MarkedTable

/-! ## One row -/

namespace MarkedRow

variable {clock now : ℤ} {x : MarkedRow} {r : FileRow} {rows : List MarkedRow}
  {f : FileRow → FileRow} {new : List FileRow}

/-- The mark has a time if the row has the mark, and this time is not in the future. -/
structure Tracked (clock : ℤ) (x : MarkedRow) : Prop where
  isSome : x.markedAt.isSome = x.row.isDeleted
  le : ∀ k ∈ x.markedAt, k ≤ clock

/-- The row was marked at most a second after the time of its column. -/
def Recent (x : MarkedRow) : Prop := ∀ k ∈ x.markedAt, k ≤ x.row.updatedTime + 1

theorem remark_map_append :
    remark now rows ((rows.map row).map f ++ new) =
      (rows.map fun x => x.become now (f x.row)) ++ new.map (inserted now) := by
  induction rows with
  | nil => rfl
  | cons x rows ih => rw [List.map_cons, List.map_cons, List.cons_append, remark, ih]; rfl

theorem become_of_deleted (h : x.row.isDeleted = true) : x.become now r = ⟨r, x.markedAt⟩ := by
  rw [become, if_pos h]

theorem become_of_active (h : x.row.isDeleted = false) : x.become now r = inserted now r := by
  rw [become, h, inserted]
  rfl

theorem Tracked.markedAt_of_active (h : x.Tracked clock) (hx : x.row.isDeleted = false) :
    x.markedAt = none := by
  rw [← Option.isSome_eq_false_iff.trans Option.isNone_iff_eq_none, h.isSome, hx]

/-- A row that a call leaves as it is. -/
theorem Tracked.become_self (h : x.Tracked clock) : x.become now x.row = x := by
  cases hx : x.row.isDeleted with
  | true => exact become_of_deleted hx
  | false =>
    rw [become_of_active hx, inserted, hx]
    exact congrArg (MarkedRow.mk x.row) (h.markedAt_of_active hx).symm

theorem tracked_inserted : (inserted now r).Tracked now := by
  cases hr : r.isDeleted with
  | true => exact ⟨by simp [inserted, hr], by simp [inserted, hr]⟩
  | false => exact ⟨by simp [inserted, hr], by simp [inserted, hr]⟩

theorem Tracked.become (h : x.Tracked clock) (hnow : clock ≤ now)
    (hr : x.row.isDeleted = true → r.isDeleted = true) : (x.become now r).Tracked now := by
  cases hx : x.row.isDeleted with
  | true =>
    rw [become_of_deleted hx]
    exact ⟨h.isSome.trans (hx.trans (hr hx).symm), fun k hk => (h.le k hk).trans hnow⟩
  | false =>
    rw [become_of_active hx]
    exact tracked_inserted

theorem recent_inserted :
    (inserted now r).Recent ↔ (r.isDeleted = true → now ≤ r.updatedTime + 1) := by
  cases hr : r.isDeleted with
  | true => simp [Recent, inserted, hr]
  | false => simp [Recent, inserted, hr]

/-- A row that a call may mark. -/
theorem recent_become_mark (h : x.Tracked clock) (hx : x.Recent) (p : FileRow → Prop)
    [DecidablePred p] :
    (x.become now (if p x.row then { x.row with isDeleted := true } else x.row)).Recent ↔
      (x.row.isDeleted = false → p x.row → now ≤ x.row.updatedTime + 1) := by
  by_cases hp : p x.row
  · rw [if_pos hp]
    cases hd : x.row.isDeleted with
    | true =>
      rw [become_of_deleted hd]
      exact iff_of_true hx fun h => absurd h (by decide)
    | false =>
      rw [become_of_active hd, recent_inserted]
      exact ⟨fun h _ _ => h rfl, fun h _ => h rfl hp⟩
  · rw [if_neg hp, h.become_self]
    exact iff_of_true hx fun _ h => absurd h hp

/-- A row whose time a call may write. -/
theorem recent_become_overwrite (h : x.Tracked clock) (hx : x.Recent) (info : FileInfo) :
    (x.become now (if x.row.fileId = info.fileId then x.row.overwrite info else x.row)).Recent ↔
      (x.row.fileId = info.fileId → ∀ k ∈ x.markedAt, k ≤ info.updatedTime.seconds + 1) := by
  by_cases hid : x.row.fileId = info.fileId
  · rw [if_pos hid]
    cases hd : x.row.isDeleted with
    | true =>
      rw [become_of_deleted hd]
      exact ⟨fun h _ => h, fun h => h hid⟩
    | false =>
      rw [become_of_active hd, recent_inserted, h.markedAt_of_active hd]
      refine iff_of_true (fun h => ?_) fun _ _ hk => by cases hk
      rw [FileRow.overwrite, hd] at h
      cases h
  · rw [if_neg hid, h.become_self]
    exact iff_of_true hx fun h => absurd h hid

/-- A row that a deletion may mark, and which may have the id of the tombstone. -/
theorem recent_become_tombstone (h : x.Tracked clock) (hx : x.Recent) (hnow : clock ≤ now)
    (newFileId : ℕ) (newRevision groupId watcherId : ℤ) (p : FileRow → Prop) [DecidablePred p] :
    (x.become now (if x.row.fileId = newFileId then
        ((if p x.row then { x.row with isDeleted := true } else x.row).finishTombstone
          now newRevision groupId watcherId)
      else if p x.row then { x.row with isDeleted := true } else x.row)).Recent ↔
      (x.row.isDeleted = false → x.row.fileId ≠ newFileId ∧ p x.row →
        now ≤ x.row.updatedTime + 1) := by
  by_cases hid : x.row.fileId = newFileId
  · rw [if_pos hid]
    refine iff_of_true ?_ fun _ h => absurd hid h.1
    cases hd : x.row.isDeleted with
    | true =>
      rw [become_of_deleted hd]
      -- The time of the row is now.
      exact fun k hk => ((h.le k hk).trans hnow).trans (le_add_of_nonneg_right zero_le_one)
    | false =>
      rw [become_of_active hd, recent_inserted]
      exact fun _ => le_add_of_nonneg_right zero_le_one
  · rw [if_neg hid, recent_become_mark h hx, and_iff_right hid]

end MarkedRow

/-! ## One call -/

namespace MarkedTable

open MarkedRow

variable {env : Env} {s : MarkedTable} {op : RetentionOp} {now : ℤ} {p : FileRow → Prop}
  [DecidablePred p] {f : FileRow → FileRow} {new : List FileRow}

/-- All marks are tracked. -/
def Tracked (s : MarkedTable) : Prop := ∀ x ∈ s.rows, x.Tracked s.clock

/-- All rows were marked soon after their time. -/
def Recent (s : MarkedTable) : Prop := ∀ x ∈ s.rows, x.Recent

/-- A purge removes a row marked too recently, now or at some time, exactly if one was marked
    more than a second after its time. -/
theorem inTime_iff (h : s.Tracked) : s.InTime ↔ s.Recent := by
  constructor
  · intro hin x hx k hk
    by_contra hlt
    have hd : x.row.isDeleted = true := by rw [← (h x hx).isSome, Option.mem_def.1 hk]; rfl
    -- The purge at the time of the last call, for a row that is one second younger.
    obtain ⟨k', hk', hle⟩ :=
      hin s.clock (s.clock - x.row.updatedTime - 1) le_rfl x hx ⟨hd, by omega⟩
    cases Option.mem_unique hk hk'
    omega
  · rintro hrecent now ttlSecs hnow x hx ⟨hd, hlt⟩
    obtain ⟨k, hk⟩ := Option.isSome_iff_exists.1 ((h x hx).isSome.trans hd)
    have hle := hrecent x hx k hk
    exact ⟨k, hk, by omega⟩

/-- The rows of `t` changed in their places, none of them back to an active one, and others
    after them. -/
def Grows (t t' : List FileRow) : Prop :=
  ∃ f new, t' = t.map f ++ new ∧ ∀ r, r.isDeleted = true → (f r).isDeleted = true

theorem grows_refl (t : List FileRow) : Grows t t :=
  ⟨id, [], by rw [List.map_id, List.append_nil], fun _ h => h⟩

theorem Grows.append {t t' : List FileRow} (h : Grows t t') (rows : List FileRow) :
    Grows t (t' ++ rows) := by
  obtain ⟨f, new, rfl, hf⟩ := h
  exact ⟨f, new ++ rows, List.append_assoc .., hf⟩

theorem Grows.updateWhere {t t' : List FileRow} (h : Grows t t') (p : FileRow → Prop)
    [DecidablePred p] {g : FileRow → FileRow}
    (hg : ∀ r, r.isDeleted = true → (g r).isDeleted = true) :
    Grows t (updateWhere p g t') := by
  obtain ⟨f, new, rfl, hf⟩ := h
  refine ⟨fun r => if p (f r) then g (f r) else f r, Table.updateWhere p g new, ?_, fun r hr => ?_⟩
  · rw [updateWhere_append, Table.updateWhere, List.map_map]
    rfl
  · dsimp only
    split
    next => exact hg _ (hf r hr)
    next => exact hf r hr

theorem Grows.markDeleted {t t' : List FileRow} (h : Grows t t') (p : FileRow → Prop)
    [DecidablePred p] : Grows t (markDeleted p t') := h.updateWhere p fun _ _ => rfl

theorem grows_storeFileInfo (now : ℤ) (nonces : Nonce × Nonce) (info : FileInfo)
    (t : List FileRow) : Grows t (committed t (storeFileInfo env now nonces info t)) := by
  rcases h : storeFileInfo env now nonces info t with e | ⟨id, t'⟩
  · exact grows_refl t
  · obtain ⟨-, ⟨-, rfl⟩ | ⟨-, -, rfl⟩⟩ := storeFileInfo_ok h
    · exact (grows_refl t).updateWhere _ fun _ hr => hr
    · refine Grows.append ?_ _
      obtain ⟨-, heq⟩ | ⟨e, -, -, -, heq⟩ := retire_cases env.planner info.logical t
      · rw [heq]
        exact grows_refl t
      · rw [heq]
        exact (grows_refl t).markDeleted _

theorem grows_deleteFile (now : ℤ) (newFileId : ℕ) (accountHash : String) (fileId : ℕ)
    (t : List FileRow) :
    Grows t (committed t (deleteFile env now newFileId accountHash fileId t)) := by
  rcases h : deleteFile env now newFileId accountHash fileId t with e | ⟨⟨⟩, t'⟩
  · exact grows_refl t
  · obtain ⟨r, filePath, filename, -, -, -, rfl⟩ := deleteFile_ok h
    exact ((((grows_refl t).markDeleted _).markDeleted _).append _).updateWhere _ fun _ _ => rfl

/-- What a call does: a purge removes rows, and the other calls keep them in their places. -/
theorem apply_cases (env : Env) (t : List FileRow) (op : RetentionOp) :
    (∃ now ttlSecs, op = .purge now ttlSecs) ∨
      (∀ now ttlSecs, op ≠ .purge now ttlSecs) ∧ Grows t (op.apply env t) := by
  cases op with
  | purge now ttlSecs => exact .inl ⟨now, ttlSecs, rfl⟩
  | trim now maxRevisions =>
    refine .inr ⟨fun _ _ h => ?_, (grows_refl t).markDeleted _⟩
    cases h
  | file op =>
    refine .inr ⟨fun _ _ h => ?_, ?_⟩
    · cases h
    · cases op with
      | store now nonces info => exact grows_storeFileInfo now nonces info t
      | delete now newFileId accountHash fileId =>
        exact grows_deleteFile now newFileId accountHash fileId t

theorem rows_step (hop : ∀ now ttlSecs, op ≠ .purge now ttlSecs)
    (h : op.apply env s.files = s.files.map f ++ new) :
    (s.step env op).rows =
      (s.rows.map fun x => x.become op.now (f x.row)) ++ new.map (inserted op.now) := by
  rw [← remark_map_append, ← files, ← h]
  cases op with
  | purge now ttlSecs => exact absurd rfl (hop now ttlSecs)
  | file op => rfl
  | trim now maxRevisions => rfl

/-- The marks do not take part in what a call does. -/
theorem files_step (env : Env) (s : MarkedTable) (op : RetentionOp) :
    (s.step env op).files = op.apply env s.files := by
  obtain ⟨now, ttlSecs, rfl⟩ | ⟨hop, f, new, h, -⟩ := apply_cases env s.files op
  · rw [RetentionOp.apply, purgeDeletedFilesOlderThan, files, files, deleteWhere, List.filter_map]
    rfl
  · rw [files, rows_step hop h, h, files, List.map_append, List.map_map, List.map_map, List.map_map]
    exact congrArg (_ ++ ·) (List.map_id _)

theorem Tracked.step (h : s.Tracked) (htimely : s.Timely op) : (s.step env op).Tracked := by
  obtain ⟨now, ttlSecs, rfl⟩ | ⟨hop, f, new, heq, hf⟩ := apply_cases env s.files op
  · intro x hx
    exact ⟨(h x (mem_deleteWhere.1 hx).1).isSome, fun k hk =>
      ((h x (mem_deleteWhere.1 hx).1).le k hk).trans htimely⟩
  · intro x hx
    rw [rows_step hop heq, List.mem_append, List.mem_map, List.mem_map] at hx
    obtain ⟨x, hx, rfl⟩ | ⟨r, -, rfl⟩ := hx
    · exact (h x hx).become htimely (hf x.row)
    · exact tracked_inserted

theorem recent_step_iff (hop : ∀ now ttlSecs, op ≠ .purge now ttlSecs)
    (h : op.apply env s.files = s.files.map f ++ new)
    (hnew : ∀ r ∈ new, r.isDeleted = true → op.now ≤ r.updatedTime + 1) :
    (s.step env op).Recent ↔ ∀ x ∈ s.rows, (x.become op.now (f x.row)).Recent := by
  rw [Recent, rows_step hop h, List.forall_mem_append, List.forall_mem_map, List.forall_mem_map]
  exact and_iff_left fun r hr => recent_inserted.2 (hnew r hr)

/-- A call that marks rows and appends others. -/
theorem recent_step_iff_of_mark (ht : s.Tracked) (hs : s.Recent)
    (hop : ∀ now ttlSecs, op ≠ .purge now ttlSecs)
    (h : op.apply env s.files = markDeleted p s.files ++ new)
    (hnew : ∀ r ∈ new, r.isDeleted = true → op.now ≤ r.updatedTime + 1) :
    (s.step env op).Recent ↔ RecentWhere p op.now s.files := by
  rw [recent_step_iff hop h hnew, RecentWhere, files, List.forall_mem_map]
  exact forall₂_congr fun x hx => recent_become_mark (ht x hx) (hs x hx) p

/-- A call that leaves the rows as they are, and may append others. -/
theorem recent_step_of_append (ht : s.Tracked) (hs : s.Recent)
    (hop : ∀ now ttlSecs, op ≠ .purge now ttlSecs) (h : op.apply env s.files = s.files ++ new)
    (hnew : ∀ r ∈ new, r.isDeleted = true → op.now ≤ r.updatedTime + 1) :
    (s.step env op).Recent := by
  refine (recent_step_iff (f := id) hop (h.trans (by rw [List.map_id])) hnew).2 fun x hx => ?_
  rw [id_eq, (ht x hx).become_self]
  exact hs x hx

theorem file_ne_purge (fileOp : FileOp) :
    ∀ now ttlSecs, RetentionOp.file fileOp ≠ .purge now ttlSecs := by
  intro _ _ h
  cases h

/-- A call that leaves the rows as they are. -/
theorem recent_step_of_unchanged (ht : s.Tracked) (hs : s.Recent)
    (hop : ∀ now ttlSecs, op ≠ .purge now ttlSecs) (h : op.apply env s.files = s.files) :
    (s.step env op).Recent := by
  have heq : op.apply env s.files = s.files ++ [] := by rw [List.append_nil, h]
  exact recent_step_of_append ht hs hop heq fun r hr => absurd hr List.not_mem_nil

theorem recent_store_iff (ht : s.Tracked) (hs : s.Recent) (now : ℤ) (nonces : Nonce × Nonce)
    (info : FileInfo) :
    (s.step env (.file (.store now nonces info))).Recent ↔
      s.MarksRecent env (.file (.store now nonces info)) := by
  have hop := file_ne_purge (.store now nonces info)
  rw [MarksRecent]
  by_cases hactive : ∃ r ∈ s.files, r.fileId = info.fileId ∧ r.isDeleted = false
  · have hnot : ¬∀ r ∈ s.files, ¬(r.fileId = info.fileId ∧ r.isDeleted = false) := by
      rintro hnone
      obtain ⟨r, hr, hp⟩ := hactive
      exact hnone r hr hp
    have heq : (RetentionOp.file (.store now nonces info)).apply env s.files =
        s.files.map (fun r => if r.fileId = info.fileId then r.overwrite info else r) ++ [] := by
      rw [RetentionOp.apply, FileOp.apply, storeFileInfo_of_active hactive, List.append_nil]
      rfl
    rw [recent_step_iff hop heq fun r hr => absurd hr List.not_mem_nil,
      and_iff_left fun h => absurd h hnot, forall_prop_of_true hactive]
    exact forall₂_congr fun x hx => recent_become_overwrite (ht x hx) (hs x hx) info
  · have hnone : ∀ r ∈ s.files, ¬(r.fileId = info.fileId ∧ r.isDeleted = false) :=
      fun r hr hp => hactive ⟨r, hr, hp⟩
    rw [and_iff_right fun h => absurd h hactive, forall_prop_of_true hnone]
    have heq : (RetentionOp.file (.store now nonces info)).apply env s.files =
        committed s.files (storeFileInfo env now nonces info s.files) := rfl
    rw [storeFileInfo_of_not_active hnone] at heq
    -- The inserted row is active.
    have hnew : ∀ r ∈ [env.newRow now nonces info (nextRevision info.logical s.files)],
        r.isDeleted = true → now ≤ r.updatedTime + 1 := by
      intro r hr hd
      rw [List.mem_singleton.1 hr] at hd
      cases hd
    by_cases hlt : info.fileId < 2 ^ 63
    · rw [if_pos hlt, committed, retire] at heq
      rw [forall_prop_of_true hlt]
      generalize fetchOptional env.planner (fun r => r.logical = info.logical ∧ r.isDeleted = false)
        s.files = found at heq ⊢
      cases found with
      | none =>
        exact iff_of_true (recent_step_of_append ht hs hop heq hnew) fun e he =>
          absurd he (Option.not_mem_none e)
      | some e =>
        rw [recent_step_iff_of_mark ht hs hop heq hnew]
        exact ⟨fun h e' he => Option.mem_some.1 he ▸ h, fun h => h e (Option.mem_some_self e)⟩
    · rw [if_neg hlt] at heq
      exact iff_of_true (recent_step_of_unchanged ht hs hop heq) fun h => absurd h hlt

/-- The two statements by which a deletion marks rows. -/
theorem markDeleted_markDeleted {p q : FileRow → Prop} [DecidablePred p] [DecidablePred q]
    (t : List FileRow) : markDeleted q (markDeleted p t) = markDeleted (fun r => p r ∨ q r) t := by
  rw [markDeleted, markDeleted, markDeleted, updateWhere, updateWhere, updateWhere, List.map_map]
  refine List.map_congr_left fun r _ => ?_
  rw [Function.comp_apply]
  by_cases hp : p r
  · have hor : p r ∨ q r := .inl hp
    rw [if_pos hp, if_pos hor]
    exact ite_self _
  · rw [if_neg hp]
    simp only [hp, false_or]

/-- The statement that completes the tombstone, on the rows from before it. -/
theorem updateWhere_markDeleted (newFileId : ℕ) (g : FileRow → FileRow) (t : List FileRow) :
    updateWhere (fun r => r.fileId = newFileId) g (markDeleted p t) =
      t.map fun r =>
        if r.fileId = newFileId then g (if p r then { r with isDeleted := true } else r)
        else if p r then { r with isDeleted := true } else r := by
  rw [updateWhere, markDeleted, updateWhere, List.map_map]
  refine List.map_congr_left fun r _ => ?_
  rw [Function.comp_apply]
  by_cases hp : p r
  · rw [if_pos hp]
  · rw [if_neg hp]

/-- A deletion succeeds if it finds a row whose path and name are texts. -/
theorem exists_deleteFile_ok_iff (env : Env) (now : ℤ) (newFileId : ℕ) (accountHash : String)
    (fileId : ℕ) (t : List FileRow) :
    (∃ t', deleteFile env now newFileId accountHash fileId t = .ok ((), t')) ↔
      ∃ r ∈ fetchOptional env.planner (fun r => r.fileId = fileId ∧ r.accountHash = accountHash) t,
        (env.driver.text r.filePath).isSome ∧ (env.driver.text r.filename).isSome := by
  rw [deleteFile]
  generalize fetchOptional env.planner (fun r => r.fileId = fileId ∧ r.accountHash = accountHash)
    t = found
  cases found with
  | none => simp
  | some r =>
    cases hpath : env.driver.text r.filePath <;>
      cases hname : env.driver.text r.filename <;> simp_all

theorem recent_delete_iff (ht : s.Tracked) (hs : s.Recent) (newFileId : ℕ) (accountHash : String)
    (fileId : ℕ) (htimely : s.clock ≤ now) :
    (s.step env (.file (.delete now newFileId accountHash fileId))).Recent ↔
      s.MarksRecent env (.file (.delete now newFileId accountHash fileId)) := by
  have hop := file_ne_purge (.delete now newFileId accountHash fileId)
  have heq : (RetentionOp.file (.delete now newFileId accountHash fileId)).apply env s.files =
      committed s.files (deleteFile env now newFileId accountHash fileId s.files) := rfl
  have hiff := exists_deleteFile_ok_iff env now newFileId accountHash fileId s.files
  rw [MarksRecent]
  rcases h : deleteFile env now newFileId accountHash fileId s.files with e | ⟨⟨⟩, t'⟩
  · rw [h] at heq hiff
    refine iff_of_true (recent_step_of_unchanged ht hs hop heq) fun r hr hpath hname => ?_
    obtain ⟨t', ht'⟩ := hiff.2 ⟨r, hr, hpath, hname⟩
    cases ht'
  · obtain ⟨r, hr, hpath, hname⟩ := hiff.1 ⟨t', h⟩
    rw [h] at heq
    obtain ⟨r', filePath, filename, hr', -, -, rfl⟩ := deleteFile_ok h
    obtain rfl : r = r' := Option.mem_unique hr hr'
    rw [committed, updateWhere_append, markDeleted_markDeleted, updateWhere_markDeleted] at heq
    rw [recent_step_iff hop heq ?_]
    · trans RecentWhere (fun f => f.fileId ≠ newFileId ∧
        (f.fileId = fileId ∨ f.logicalByGroup = r.logicalByGroup)) now s.files
      · rw [RecentWhere, files, List.forall_mem_map]
        exact forall₂_congr fun x hx =>
          recent_become_tombstone (ht x hx) (hs x hx) htimely newFileId (r.revision + 1) r.groupId
            r.watcherId fun f => f.fileId = fileId ∨ f.logicalByGroup = r.logicalByGroup
      · constructor
        · intro hrecent e he _ _
          rwa [Option.mem_unique he hr]
        · exact fun h => h r hr hpath hname
    · -- The time of the tombstone is now.
      intro f hf _
      have hid : (insertedTombstone now newFileId accountHash filePath filename r).fileId =
        newFileId := rfl
      rw [updateWhere, List.map_singleton, List.mem_singleton, if_pos hid] at hf
      rw [hf]
      exact le_add_of_nonneg_right zero_le_one

theorem recent_step_iff_marksRecent (ht : s.Tracked) (hs : s.Recent) (htimely : s.Timely op) :
    (s.step env op).Recent ↔ s.MarksRecent env op := by
  cases op with
  | purge now ttlSecs => exact iff_of_true (fun x hx => hs x (mem_deleteWhere.1 hx).1) trivial
  | trim now maxRevisions =>
    rw [MarksRecent]
    have hop : ∀ now' ttlSecs, RetentionOp.trim now maxRevisions ≠ .purge now' ttlSecs := by
      intro _ _ h
      cases h
    exact recent_step_iff_of_mark ht hs hop (List.append_nil _).symm fun r hr =>
      absurd hr List.not_mem_nil
  | file op =>
    cases op with
    | store now nonces info => exact recent_store_iff ht hs now nonces info
    | delete now newFileId accountHash fileId =>
      exact recent_delete_iff ht hs newFileId accountHash fileId htimely

/-! ## Runs -/

/-- Without the marks, a run is one of the calls. -/
theorem files_run (env : Env) (s : MarkedTable) (ops : List RetentionOp) :
    (run (step env) s ops).files = run (RetentionOp.apply env) s.files ops := by
  induction ops generalizing s with
  | nil => rfl
  | cons op ops ih => rw [run_cons, run_cons, ih, files_step]

/-- No rows yet. -/
def empty (clock : ℤ) : MarkedTable := ⟨[], clock⟩

theorem tracked_empty (clock : ℤ) : (empty clock).Tracked := fun _ hx => absurd hx List.not_mem_nil

theorem recent_empty (clock : ℤ) : (empty clock).Recent := fun _ hx => absurd hx List.not_mem_nil

end MarkedTable

open MarkedTable

/-- In a run whose clock does not go back, no purge ever removes a row before its time, in any
    state reached, exactly when every call marks rows of the last second only. In particular
    the purges of the run itself do not. -/
theorem inTime_run_iff (env : Env) (clock : ℤ) (ops : List RetentionOp)
    (h : Guarded (step env) Timely (empty clock) ops) :
    (Guarded (step env) (fun s op => (s.step env op).InTime) (empty clock) ops ↔
      Guarded (step env) (MarksRecent env) (empty clock) ops) ∧
    (Guarded (step env) (MarksRecent env) (empty clock) ops →
      Guarded (step env) PurgesInTime (empty clock) ops) := by
  have htracked : Guarded (step env) (fun s op => Timely s op ∧ s.Tracked) (empty clock) ops :=
    h.and_invariant (fun s op htimely ht => ht.step htimely) (tracked_empty clock)
  have hrecent : Guarded (step env) (fun s op => (s.step env op).Recent) (empty clock) ops ↔
      Guarded (step env) (MarksRecent env) (empty clock) ops :=
    htracked.keeps_iff (fun s op hG hs => recent_step_iff_marksRecent hG.2 hs hG.1)
      (recent_empty clock)
  refine ⟨Iff.trans ⟨fun hin => ?_, fun hr => ?_⟩ hrecent, fun hmarks => ?_⟩
  · exact (htracked.and hin).imp fun s op hs => (inTime_iff (hs.1.2.step hs.1.1)).1 hs.2
  · exact (htracked.and hr).imp fun s op hs => (inTime_iff (hs.1.2.step hs.1.1)).2 hs.2
  · have hinv := (htracked.and hmarks).and_invariant (I := Recent)
      (fun s op hs hrecent => (recent_step_iff_marksRecent hs.1.2 hrecent hs.1.1).2 hs.2)
      (recent_empty clock)
    refine hinv.imp fun s op hs => ?_
    cases op with
    | file op => trivial
    | trim now maxRevisions => trivial
    | purge now ttlSecs => exact (inTime_iff hs.1.1.2).2 hs.2 now ttlSecs hs.1.1.1

/-- The nonces of the examples. -/
def sampleNonces : Nonce × Nonce := (Crypto.nonceSample 1, Crypto.nonceSample 2)

/-- A version that is superseded within a second is kept for the retention time. -/
theorem inTime_supersededAtOnce :
    let ops : List RetentionOp := [.file (.store 10 sampleNonces (sampleInfo 1 0 10)),
      .file (.store 11 sampleNonces (sampleInfo 2 0 11)), .purge 500 400]
    Guarded (step .plain) Timely (empty 0) ops ∧
      Guarded (step .plain) (fun s op => (s.step .plain op).InTime) (empty 0) ops := by
  intro ops
  have h : Guarded (step .plain) Timely (empty 0) ops := by decide +kernel
  exact ⟨h, (inTime_run_iff .plain 0 ops h).1.2 (by decide +kernel)⟩

/-- A version that is superseded later is removed a second after that. -/
theorem not_purgesInTime_supersededLater :
    let ops : List RetentionOp := [.file (.store 10 sampleNonces (sampleInfo 1 0 10)),
      .file (.store 1000 sampleNonces (sampleInfo 2 0 1000)), .purge 1001 400]
    Guarded (step .plain) Timely (empty 0) ops ∧
      ¬Guarded (step .plain) PurgesInTime (empty 0) ops ∧
      (run (step .plain) (empty 0) ops).files.map FileRow.fileId = [2] := by
  refine ⟨by decide +kernel, by decide +kernel, by decide +kernel⟩

end CosmicSync
