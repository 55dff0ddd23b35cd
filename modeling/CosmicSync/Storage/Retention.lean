import CosmicSync.Library.Ranking
import CosmicSync.Library.Run
import CosmicSync.Storage.MySqlFile

/-!
# Retention

The retention pass keeps the newest revisions of a file and marks the older ones
as deleted, to be removed some time later. It ranks the active rows of a path, and
marks those whose rank is beyond the limit. Three things go wrong:

* the rows of a path may have several names, so that they are versions of several
  files which share one limit (`shared_path_loses_file`);
* rows of the same second are tied, and all of them have the rank of the last:
  when the limit falls among them, none is kept;
* a row is marked when another one with its file id and revision is.

`keepsNewest_iff` says that there is nothing else: the pass keeps the newest
versions of every file exactly when the paths beyond the limit can be cut cleanly.
-/

namespace CosmicSync

open Table Ranking

/-- One pass of the retention task, at the time `now`. -/
def retentionPass (maxRevisions now ttlSecs : ℤ) (t : List FileRow) : List FileRow :=
  purgeDeletedFilesOlderThan now ttlSecs (trimOldRevisions maxRevisions t)

/-! ## What should be kept -/

/-- The active rows of a logical file. -/
def liveRows (k : LogicalFile) (t : List FileRow) : List FileRow :=
  t.filter fun r => r.logical = k ∧ r.isDeleted = false

/-- The rows of `liveRows k t` that are still active in `t'`, where `t'` has the same rows. -/
def keptRows (k : LogicalFile) (t t' : List FileRow) : List FileRow :=
  ((t.zip t').filter fun p => p.1.logical = k ∧ p.1.isDeleted = false ∧ p.2.isDeleted = false).map
    Prod.fst

/-- The other ones. -/
def removedRows (k : LogicalFile) (t t' : List FileRow) : List FileRow :=
  ((t.zip t').filter fun p => p.1.logical = k ∧ p.1.isDeleted = false ∧ p.2.isDeleted = true).map
    Prod.fst

/-- Retention keeps the newest versions of every logical file: as many as the limit
    allows, none older than one it removes; and in particular a newest one, which is
    still in the table after the pass. -/
structure KeepsNewest (maxRevisions : ℤ) (t : List FileRow) : Prop where
  count : ∀ k, ((keptRows k t (trimOldRevisions maxRevisions t)).length : ℤ) =
    min maxRevisions (liveRows k t).length
  newest : ∀ k, ∀ r ∈ keptRows k t (trimOldRevisions maxRevisions t),
    ∀ r' ∈ removedRows k t (trimOldRevisions maxRevisions t), r'.updatedTime ≤ r.updatedTime
  survives : ∀ k, liveRows k t ≠ [] → ∃ r ∈ keptRows k t (trimOldRevisions maxRevisions t),
    (∀ r' ∈ liveRows k t, r'.updatedTime ≤ r.updatedTime) ∧
      ∀ now ttlSecs, r ∈ retentionPass maxRevisions now ttlSecs t

/-! ## When it is -/

/-- The active rows of a path. -/
def pathRows (g : String × ByteArray × ℤ) (t : List FileRow) : List FileRow :=
  t.filter fun r => r.pathGroup = g ∧ r.isDeleted = false

/-- Every path with more active rows than the limit has a single name, and a time
    after which there are exactly as many of them as the limit says, none of which
    shares its file id and revision with an older one. -/
def CutsCleanly (maxRevisions : ℤ) (t : List FileRow) : Prop :=
  ∀ g, maxRevisions < (pathRows g t).length →
    (∀ r ∈ pathRows g t, ∀ r' ∈ pathRows g t, r.filename = r'.filename) ∧
    ∃ τ : ℤ, ((pathRows g t).countP (fun r => τ < r.updatedTime) : ℤ) = maxRevisions ∧
      ∀ r ∈ pathRows g t, ∀ r' ∈ pathRows g t, τ < r.updatedTime → r'.updatedTime ≤ τ →
        ¬(r.fileId = r'.fileId ∧ r.revision = r'.revision)

/-! ## The rows of a path -/

section

variable {t : List FileRow} {g : String × ByteArray × ℤ} {k : LogicalFile} {r x : FileRow} {n : ℕ}

@[simp]
theorem mem_pathRows : r ∈ pathRows g t ↔ r ∈ t ∧ r.pathGroup = g ∧ r.isDeleted = false := by
  simp [pathRows]

@[simp]
theorem mem_liveRows : r ∈ liveRows k t ↔ r ∈ t ∧ r.logical = k ∧ r.isDeleted = false := by
  simp [liveRows]

/-- The path of a logical file. -/
def LogicalFile.pathGroup (k : LogicalFile) : String × ByteArray × ℤ :=
  (k.accountHash, k.filePath, k.groupId)

theorem FileRow.logical_eq_iff :
    r.logical = k ↔ r.pathGroup = k.pathGroup ∧ r.filename = k.filename := by
  cases k
  simp only [FileRow.logical, FileRow.pathGroup, LogicalFile.pathGroup, LogicalFile.mk.injEq,
    Prod.mk.injEq]
  tauto

/-- The count of the subquery is the rank among the active rows of the path. -/
theorem newerInPath_eq_rank (hx : x.pathGroup = g) :
    newerInPath x t = rank FileRow.updatedTime (pathRows g t) x := by
  rw [rank, pathRows, List.countP_filter, newerInPath]
  refine List.countP_congr fun i _ => ?_
  simp only [hx, decide_eq_true_eq, Bool.and_eq_true]
  tauto

theorem isTrimmed_iff (hr : r.pathGroup = g) :
    IsTrimmed n t r ↔ ∃ x ∈ pathRows g t, n < rank FileRow.updatedTime (pathRows g t) x ∧
      r.fileId = x.fileId ∧ r.revision = x.revision := by
  subst hr
  simp only [IsTrimmed, beyondLimit, List.mem_filter, decide_eq_true_eq, mem_pathRows, Int.ofNat_lt]
  constructor
  · rintro ⟨x, ⟨hx, hd, hn⟩, hg, h⟩
    exact ⟨x, ⟨hx, hg.symm, hd⟩, newerInPath_eq_rank hg.symm ▸ hn, h⟩
  · rintro ⟨x, ⟨hx, hg, hd⟩, hn, h⟩
    exact ⟨x, ⟨hx, hd, (newerInPath_eq_rank hg).symm ▸ hn⟩, hg.symm, h⟩

/-- A row beyond the limit is marked itself. -/
theorem isTrimmed_of_lt_rank (hr : r ∈ pathRows g t)
    (hn : n < rank FileRow.updatedTime (pathRows g t) r) : IsTrimmed n t r :=
  (isTrimmed_iff (mem_pathRows.1 hr).2.1).2 ⟨r, hr, hn, rfl, rfl⟩

theorem liveRows_eq_filter :
    liveRows k t = (pathRows k.pathGroup t).filter fun r => r.filename = k.filename := by
  rw [liveRows, pathRows, List.filter_filter]
  refine List.filter_congr fun r _ => ?_
  simp only [FileRow.logical_eq_iff, ← Bool.decide_and]
  exact decide_eq_decide.2 (by tauto)

theorem zip_markDeleted {p : FileRow → Prop} [DecidablePred p] :
    t.zip (markDeleted p t) = t.map fun r =>
      (r, if p r then { r with isDeleted := true } else r) := by
  rw [markDeleted, updateWhere, List.map_prod_left_eq_zip]

/-- What is kept are the active rows that the statement does not mark. -/
theorem keptRows_eq_filter {p : FileRow → Prop} [DecidablePred p] :
    keptRows k t (markDeleted p t) = (liveRows k t).filter fun r => ¬p r := by
  rw [keptRows, zip_markDeleted, List.filter_map, List.map_map, liveRows, List.filter_filter]
  refine (List.map_id _).trans (List.filter_congr fun r _ => ?_)
  by_cases hp : p r
  · simp [hp]
  · simp [hp]

theorem mem_removedRows {p : FileRow → Prop} [DecidablePred p] :
    r ∈ removedRows k t (markDeleted p t) ↔ r ∈ liveRows k t ∧ p r := by
  have hfilter : removedRows k t (markDeleted p t) = (liveRows k t).filter p := by
    rw [removedRows, zip_markDeleted, List.filter_map, List.map_map, liveRows, List.filter_filter]
    refine (List.map_id _).trans (List.filter_congr fun r _ => ?_)
    by_cases hp : p r
    · simp [hp]
    · by_cases hd : r.isDeleted = true <;> simp [hp, hd]
  simp [hfilter]

theorem mem_keptRows {p : FileRow → Prop} [DecidablePred p] :
    r ∈ keptRows k t (markDeleted p t) ↔ r ∈ liveRows k t ∧ ¬p r := by
  simp [keptRows_eq_filter]

/-- The kept rows of a logical file, counted among those of its path. -/
theorem length_keptRows :
    (keptRows k t (trimOldRevisions n t)).length =
      (pathRows k.pathGroup t).countP fun r => r.filename = k.filename ∧ ¬IsTrimmed n t r := by
  rw [trimOldRevisions, keptRows_eq_filter, liveRows_eq_filter, List.filter_filter,
    ← List.countP_eq_length_filter]
  refine List.countP_congr fun r _ => ?_
  simp [and_comm]

theorem length_liveRows :
    (liveRows k t).length = (pathRows k.pathGroup t).countP fun r => r.filename = k.filename := by
  rw [liveRows_eq_filter, List.countP_eq_length_filter]

theorem rank_le_of_not_isTrimmed (hr : r ∈ pathRows g t) (h : ¬IsTrimmed n t r) :
    rank FileRow.updatedTime (pathRows g t) r ≤ n :=
  not_lt.1 fun hn => h (isTrimmed_of_lt_rank hr hn)

/-- At most as many rows of a path are kept as the limit says. -/
theorem countP_not_isTrimmed_le : (pathRows g t).countP (fun r => ¬IsTrimmed n t r) ≤ n := by
  refine le_trans (List.countP_mono_left fun r hr h => ?_)
    (countP_rank_le (f := FileRow.updatedTime) (l := pathRows g t))
  exact decide_eq_true (rank_le_of_not_isTrimmed hr (of_decide_eq_true h))

theorem exists_isTrimmed (hlt : n < (pathRows g t).length) :
    ∃ r ∈ pathRows g t, IsTrimmed n t r := by
  by_contra hnone
  have hall : (pathRows g t).countP (fun r => ¬IsTrimmed n t r) = (pathRows g t).length :=
    List.countP_eq_length.2 fun r hr => decide_eq_true fun h => hnone ⟨r, hr, h⟩
  have hle := countP_not_isTrimmed_le (n := n) (g := g) (t := t)
  omega

/-- The count of `KeepsNewest`, among the rows of a path. -/
theorem KeepsNewest.countP_kept (h : KeepsNewest n t) (hr : r ∈ pathRows g t) :
    (pathRows g t).countP (fun x => x.filename = r.filename ∧ ¬IsTrimmed n t x) =
      min n ((pathRows g t).countP fun x => x.filename = r.filename) := by
  have hg : r.logical.pathGroup = g := (mem_pathRows.1 hr).2.1
  have hcount := h.count r.logical
  rw [length_keptRows, length_liveRows, hg] at hcount
  have hmin : ∀ a b c : ℕ, (a : ℤ) = min (b : ℤ) c → a = min b c := by omega
  exact hmin _ _ _ hcount

/-- Where the limit is exceeded on a path, it is spent on the file of a row that was
    marked. -/
theorem KeepsNewest.countP_kept_of_isTrimmed (h : KeepsNewest n t) (hr : r ∈ pathRows g t)
    (htrim : IsTrimmed n t r) :
    (pathRows g t).countP (fun x => x.filename = r.filename ∧ ¬IsTrimmed n t x) = n := by
  have hkept := h.countP_kept hr
  have hadd : (pathRows g t).countP (fun x => x.filename = r.filename ∧ ¬IsTrimmed n t x) +
      (pathRows g t).countP (fun x => x.filename = r.filename ∧ IsTrimmed n t x) ≤
        (pathRows g t).countP (fun x => x.filename = r.filename) := by
    refine countP_add_le ?_ ?_ ?_
    · intro x _ hx hx'
      exact (of_decide_eq_true hx).2 (of_decide_eq_true hx').2
    · exact fun x _ hx => decide_eq_true (of_decide_eq_true hx).1
    · exact fun x _ hx => decide_eq_true (of_decide_eq_true hx).1
  have hpos : 0 < (pathRows g t).countP (fun x => x.filename = r.filename ∧ IsTrimmed n t x) :=
    List.countP_pos_iff.2 ⟨r, hr, decide_eq_true ⟨rfl, htrim⟩⟩
  -- Fewer are kept than there are, so the minimum is the limit.
  omega

/-- So there is no other file in the path: it would have a kept row too. -/
theorem KeepsNewest.filename_eq (h : KeepsNewest n t) (hn : 1 ≤ n) (hr : r ∈ pathRows g t)
    (htrim : IsTrimmed n t r) (hx : x ∈ pathRows g t) : x.filename = r.filename := by
  by_contra hne
  have hkept := h.countP_kept_of_isTrimmed hr htrim
  have hother := h.countP_kept hx
  have hpos : 0 < (pathRows g t).countP (fun y => y.filename = x.filename) :=
    List.countP_pos_iff.2 ⟨x, hx, decide_eq_true rfl⟩
  have hadd : (pathRows g t).countP (fun y => y.filename = r.filename ∧ ¬IsTrimmed n t y) +
      (pathRows g t).countP (fun y => y.filename = x.filename ∧ ¬IsTrimmed n t y) ≤
        (pathRows g t).countP (fun y => ¬IsTrimmed n t y) := by
    refine countP_add_le ?_ ?_ ?_
    · intro y _ hy hy'
      exact hne ((of_decide_eq_true hy').1.symm.trans (of_decide_eq_true hy).1)
    · exact fun y _ hy => decide_eq_true (of_decide_eq_true hy).2
    · exact fun y _ hy => decide_eq_true (of_decide_eq_true hy).2
  have hle := countP_not_isTrimmed_le (n := n) (g := g) (t := t)
  omega

theorem KeepsNewest.cutsCleanly (h : KeepsNewest n t) (hn : 1 ≤ n) : CutsCleanly n t := by
  intro g hlt
  obtain ⟨r, hr, htrim⟩ := exists_isTrimmed (Int.ofNat_lt.1 hlt)
  have hname : ∀ x ∈ pathRows g t, x.filename = r.filename :=
    fun x hx => h.filename_eq hn hr htrim hx
  -- As many rows are kept as the limit says, and they are those of a rank within it.
  have hkept : (pathRows g t).countP (fun x => ¬IsTrimmed n t x) = n := by
    refine Eq.trans (List.countP_congr fun x hx => ?_) (h.countP_kept_of_isTrimmed hr htrim)
    simp [hname x hx]
  have hmono : (pathRows g t).countP (fun x => ¬IsTrimmed n t x) ≤
      (pathRows g t).countP (fun x => rank FileRow.updatedTime (pathRows g t) x ≤ n) :=
    List.countP_mono_left fun x hx h =>
      decide_eq_true (rank_le_of_not_isTrimmed hx (of_decide_eq_true h))
  have hrank : (pathRows g t).countP (fun x => rank FileRow.updatedTime (pathRows g t) x ≤ n) = n :=
    le_antisymm countP_rank_le (hkept.ge.trans hmono)
  obtain ⟨τ, hτ⟩ := exists_cut hrank (Int.ofNat_lt.1 hlt)
  refine ⟨fun x hx y hy => (hname x hx).trans (hname y hy).symm, τ, congrArg Nat.cast hτ, ?_⟩
  intro x hx y hy hxτ hyτ hshare
  -- A row above the cut that is marked with one below leaves too few.
  have hmarked : IsTrimmed n t x := (isTrimmed_iff (mem_pathRows.1 hx).2.1).2
    ⟨y, hy, not_le.1 fun h => absurd ((rank_le_iff hτ hy).1 h) (not_lt.2 hyτ), hshare⟩
  have hadd : (pathRows g t).countP (fun x => ¬IsTrimmed n t x) +
      (pathRows g t).countP (fun x => τ < x.updatedTime ∧ IsTrimmed n t x) ≤
        (pathRows g t).countP (fun x => τ < x.updatedTime) := by
    refine countP_add_le ?_ ?_ ?_
    · exact fun z _ hz hz' => (of_decide_eq_true hz) (of_decide_eq_true hz').2
    · exact fun z hmem hz => decide_eq_true
        ((rank_le_iff hτ hmem).1 (rank_le_of_not_isTrimmed hmem (of_decide_eq_true hz)))
    · exact fun z _ hz => decide_eq_true (of_decide_eq_true hz).1
  have hpos : 0 < (pathRows g t).countP (fun x => τ < x.updatedTime ∧ IsTrimmed n t x) :=
    List.countP_pos_iff.2 ⟨x, hx, decide_eq_true ⟨hxτ, hmarked⟩⟩
  omega

/-! ## From a clean cut to what is kept -/

theorem not_isTrimmed_of_length_le (hle : (pathRows g t).length ≤ n) (hr : r ∈ pathRows g t) :
    ¬IsTrimmed n t r := by
  rw [isTrimmed_iff (mem_pathRows.1 hr).2.1]
  rintro ⟨x, -, hn, -⟩
  have hx : rank FileRow.updatedTime (pathRows g t) x ≤ (pathRows g t).length :=
    List.countP_le_length
  omega

theorem isTrimmed_iff_le_cut {τ : ℤ}
    (hτ : (pathRows g t).countP (fun r => τ < r.updatedTime) = n)
    (hapart : ∀ r ∈ pathRows g t, ∀ r' ∈ pathRows g t, τ < r.updatedTime → r'.updatedTime ≤ τ →
      ¬(r.fileId = r'.fileId ∧ r.revision = r'.revision)) (hr : r ∈ pathRows g t) :
    IsTrimmed n t r ↔ r.updatedTime ≤ τ := by
  constructor
  · rw [isTrimmed_iff (mem_pathRows.1 hr).2.1]
    rintro ⟨x, hx, hn, hshare⟩
    by_contra hlt
    refine hapart r hr x hx (not_le.1 hlt) ?_ hshare
    exact not_lt.1 fun h => absurd ((rank_le_iff hτ hx).2 h) (not_le.2 hn)
  · intro hle
    refine isTrimmed_of_lt_rank hr (not_le.1 fun h => ?_)
    exact absurd ((rank_le_iff hτ hr).1 h) (not_lt.2 hle)

/-- A limit that is not reached: all rows are kept. -/
theorem keptRows_of_length_le (hle : (pathRows k.pathGroup t).length ≤ n) :
    keptRows k t (trimOldRevisions n t) = liveRows k t := by
  rw [trimOldRevisions, keptRows_eq_filter, List.filter_eq_self]
  intro r hr
  rw [liveRows_eq_filter] at hr
  exact decide_eq_true (not_isTrimmed_of_length_le hle (List.mem_filter.1 hr).1)

theorem mem_pathRows_of_mem_liveRows (hr : r ∈ liveRows k t) : r ∈ pathRows k.pathGroup t :=
  List.mem_of_mem_filter (liveRows_eq_filter (k := k) (t := t) ▸ hr)

theorem CutsCleanly.count (h : CutsCleanly n t) (k : LogicalFile) :
    ((keptRows k t (trimOldRevisions n t)).length : ℤ) = min (n : ℤ) (liveRows k t).length := by
  have hlive : (liveRows k t).length ≤ (pathRows k.pathGroup t).length :=
    length_liveRows ▸ List.countP_le_length
  rcases Nat.lt_or_ge n (pathRows k.pathGroup t).length with hlt | hle
  · obtain ⟨hname, τ, hτ, hapart⟩ := h _ (Int.ofNat_lt.2 hlt)
    have hτ := Int.ofNat_inj.1 hτ
    by_cases hnil : liveRows k t = []
    · simp [trimOldRevisions, keptRows_eq_filter, hnil]
    · -- The rows of the path are those of the file, and the kept ones those above the cut.
      obtain ⟨r, hr⟩ := List.exists_mem_of_ne_nil _ hnil
      have hk : r.filename = k.filename := (FileRow.logical_eq_iff.1 (mem_liveRows.1 hr).2.1).2
      have hall : ∀ x ∈ pathRows k.pathGroup t, x.filename = k.filename := fun x hx =>
        (hname x hx r (mem_pathRows_of_mem_liveRows hr)).trans hk
      have hkept : (keptRows k t (trimOldRevisions n t)).length = n := by
        rw [length_keptRows, ← hτ]
        refine List.countP_congr fun x hx => ?_
        simp [hall x hx, hτ, isTrimmed_iff_le_cut hτ hapart hx]
      have hlength : (liveRows k t).length = (pathRows k.pathGroup t).length :=
        length_liveRows.trans (List.countP_eq_length.2 fun x hx => decide_eq_true (hall x hx))
      omega
  · rw [keptRows_of_length_le hle]
    omega

theorem CutsCleanly.newest (h : CutsCleanly n t) {r' : FileRow}
    (hr : r ∈ keptRows k t (trimOldRevisions n t))
    (hr' : r' ∈ removedRows k t (trimOldRevisions n t)) : r'.updatedTime ≤ r.updatedTime := by
  obtain ⟨hr, hkept⟩ := mem_keptRows.1 hr
  obtain ⟨hr', hmarked⟩ := mem_removedRows.1 hr'
  have hr := mem_pathRows_of_mem_liveRows hr
  have hr' := mem_pathRows_of_mem_liveRows hr'
  rcases Nat.lt_or_ge n (pathRows k.pathGroup t).length with hlt | hle
  · obtain ⟨-, τ, hτ, hapart⟩ := h _ (Int.ofNat_lt.2 hlt)
    have hτ := Int.ofNat_inj.1 hτ
    rw [isTrimmed_iff_le_cut hτ hapart hr] at hkept
    rw [isTrimmed_iff_le_cut hτ hapart hr'] at hmarked
    omega
  · exact absurd hmarked (not_isTrimmed_of_length_le hle hr')

/-- A kept row is in the table after the pass. -/
theorem mem_retentionPass {now ttlSecs : ℤ} (hr : r ∈ keptRows k t (trimOldRevisions n t)) :
    r ∈ retentionPass n now ttlSecs t := by
  obtain ⟨hr, hkept⟩ := mem_keptRows.1 hr
  obtain ⟨hmem, -, hd⟩ := mem_liveRows.1 hr
  exact mem_deleteWhere.2 ⟨mem_updateWhere_of_not hmem hkept, fun h => by simp [hd] at h⟩

theorem CutsCleanly.keepsNewest (h : CutsCleanly n t) (hn : 1 ≤ n) : KeepsNewest n t where
  count := h.count
  newest _ _ hr _ hr' := h.newest hr hr'
  survives k hnil := by
    obtain ⟨m, hm, hmax⟩ := exists_forall_le (f := FileRow.updatedTime) hnil
    by_cases hkept : m ∈ keptRows k t (trimOldRevisions n t)
    · exact ⟨m, hkept, hmax, fun _ _ => mem_retentionPass hkept⟩
    · -- Some row is kept, and none of those is older than the newest one, which is not.
      have hremoved : m ∈ removedRows k t (trimOldRevisions n t) :=
        mem_removedRows.2 ⟨hm, by_contra fun h => hkept (mem_keptRows.2 ⟨hm, h⟩)⟩
      have hpos := List.length_pos_iff.2 hnil
      have hcount := h.count k
      obtain ⟨r, hr⟩ := List.exists_mem_of_length_pos
        (l := keptRows k t (trimOldRevisions n t)) (by omega)
      exact ⟨r, hr, fun r' hr' => (hmax r' hr').trans (h.newest hr hremoved),
        fun _ _ => mem_retentionPass hr⟩

end

/-- Retention keeps the newest versions of every logical file exactly when the paths
    with more active rows than the limit can be cut cleanly. -/
theorem keepsNewest_iff (t : List FileRow) {maxRevisions : ℤ} (h : 1 ≤ maxRevisions) :
    KeepsNewest maxRevisions t ↔ CutsCleanly maxRevisions t := by
  obtain ⟨n, rfl⟩ := Int.eq_ofNat_of_zero_le (by omega : 0 ≤ maxRevisions)
  have hn : 1 ≤ n := by omega
  exact ⟨fun hkeeps => hkeeps.cutsCleanly hn, fun hcuts => hcuts.keepsNewest hn⟩

/-- Two active versions of one file, of different times. -/
def sampleVersions : List FileRow :=
  [Env.plain.newRow 10 (Crypto.nonceSample 1, Crypto.nonceSample 2) (sampleInfo 1 0 10) 1,
    Env.plain.newRow 20 (Crypto.nonceSample 1, Crypto.nonceSample 2) (sampleInfo 2 0 20) 2]

/-- Of these, the limit `1` keeps the second. -/
theorem keepsNewest_sampleVersions :
    (trimOldRevisions 1 sampleVersions).map FileRow.isDeleted = [true, false] ∧
      KeepsNewest 1 sampleVersions := by
  refine ⟨by decide, (keepsNewest_iff sampleVersions (by decide)).2 fun g hlt => ?_⟩
  by_cases hg : g = ("alice", "~/a.txt".toByteArray, 1)
  · subst hg
    exact ⟨by decide, 10, by decide, by decide⟩
  · have hpath : ∀ r ∈ sampleVersions, r.pathGroup = ("alice", "~/a.txt".toByteArray, 1) := by
      decide
    have hnil : pathRows g sampleVersions = [] :=
      List.filter_eq_nil_iff.2 fun r hr h => hg ((of_decide_eq_true h).1.symm.trans (hpath r hr))
    simp [hnil] at hlt

/-- Two files uploaded to one path, with the limit `1`: the first has no active row
    after the pass. -/
theorem shared_path_loses_file :
    let ops : List FileOp :=
      [.store 10 (Crypto.nonceSample 1, Crypto.nonceSample 2)
        { sampleInfo 1 0 10 with filePath := "~/docs" },
        .store 20 (Crypto.nonceSample 1, Crypto.nonceSample 2)
          { sampleInfo 2 0 20 with filePath := "~/docs", filename := "b.txt" }]
    ¬KeepsNewest 1 (Run.run (FileOp.apply .plain) [] ops) := by
  intro ops h
  have hcount := h.count ⟨"alice", "~/docs".toByteArray, "a.txt".toByteArray, 1⟩
  exact absurd hcount (by decide)

end CosmicSync
