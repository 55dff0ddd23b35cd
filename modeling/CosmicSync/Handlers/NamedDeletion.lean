import CosmicSync.Handlers.FileHandler
import CosmicSync.Library.HashMap
import CosmicSync.Services.VersionService

/-!
# Deletions by path

A client that does not know the id of a file deletes it by its path, its name and, if it
likes, its revision: `handle_delete_file` asks `find_file_by_path_and_name` for the id. The
storage in memory compares the four. The database goes by an index of the path alone, so
that of two files that differ in their names it finds the one of the higher revision; it
takes a negative revision for none; and it does not find the rows that were restored, which
have no index.

* `NamesOne`: the tables in which the file found is the one that was named.
* `Indexed.reachable`: the index of a row is that of its path, whatever the clients do.
-/

namespace CosmicSync

open Table

/-- What a file is asked for by. -/
structure NamedFile where
  accountHash : String
  filePath : String
  filename : String
  revision : ℤ

/-- The file has the name, whatever its revision. -/
def NamedFile.Names (q : NamedFile) (info : FileInfo) : Prop :=
  info.accountHash = q.accountHash ∧ info.filePath = q.filePath ∧ info.filename = q.filename

instance (q : NamedFile) : DecidablePred q.Names := fun _ => inferInstanceAs (Decidable (_ ∧ _))

/-! ## The storages -/

/-- `find_file_by_path_and_name` of `storage/memory.rs`, of the files by their ids. -/
def MemoryStorage.findFileByPathAndName (pl : Planner) (files : HashMap ℕ FileInfo)
    (accountHash filePath filename : String) (revision : ℤ) : Option FileInfo :=
  (files.findEntry pl fun file => file.accountHash = accountHash ∧ file.filePath = filePath ∧
    file.filename = filename ∧ (revision = 0 ∨ file.revision = revision)).map Prod.snd

/-- The files in memory are the active files of the table. -/
def SameActive (env : Env) (t : List FileRow) (files : HashMap ℕ FileInfo) : Prop :=
  ∀ q : NamedFile, (∃ e ∈ files.entries, q.Names e.2 ∧ e.2.revision = q.revision) ↔
    ∃ r ∈ t, r.isDeleted = false ∧ q.Names (r.toFileInfo env) ∧ r.revision = q.revision

/-- The index of an active row, if it has one, is that of its path. -/
def Indexed (env : Env) (t : List FileRow) : Prop :=
  ∀ r ∈ t, r.isDeleted = false → ∀ index, r.eqIndex = some index →
    index = env.eqIndex r.accountHash (r.toFileInfo env).filePath

/-- No other path of the account has the index of the path. -/
def CollisionFree (env : Env) (t : List FileRow) (accountHash filePath : String) : Prop :=
  ∀ r ∈ t, r.accountHash = accountHash →
    env.eqIndex accountHash (r.toFileInfo env).filePath = env.eqIndex accountHash filePath →
      (r.toFileInfo env).filePath = filePath

/-- A file id is that of one file, and so are the columns by which a deletion goes. -/
def OneFile (env : Env) (t : List FileRow) : Prop :=
  ∀ r ∈ t, ∀ r' ∈ t, r.fileId = r'.fileId ∨ r.logicalByGroup = r'.logicalByGroup →
    ∀ q : NamedFile, q.Names (r.toFileInfo env) → q.Names (r'.toFileInfo env)

/-! ## What is deleted -/

/-- The file found is the one that is named, it is found where the storage in memory finds
    one, and a deletion by path does not reach any other. -/
structure DeletesNamed (env : Env) (t : List FileRow) (files : HashMap ℕ FileInfo) (q : NamedFile) :
    Prop where
  found : ∀ info,
    findFileByPathAndName env t q.accountHash q.filePath q.filename q.revision = some info →
      (∃ r ∈ t, r.isDeleted = false ∧ r.toFileInfo env = info) ∧ q.Names info ∧
        (0 < q.revision → info.revision = q.revision)
  alike : ∀ pl,
    (findFileByPathAndName env t q.accountHash q.filePath q.filename q.revision).isSome =
      (MemoryStorage.findFileByPathAndName pl files q.accountHash q.filePath q.filename
        q.revision).isSome
  deletes : ∀ (i : DeleteInputs) (auth : Option VerificationResult) (req : DeleteFileRequest)
    (s : AppState), s.files = t → req.fileId = 0 → req.accountHash = q.accountHash →
      normalizePathPreserveTilde (normalizePathPreserveTilde req.filePath) = q.filePath →
      req.filename = q.filename → req.revision.toInt = q.revision →
      OneFile env t → (∀ r ∈ t, r.fileId ≠ i.newFileId) →
        ∀ r ∈ t, r.isDeleted = false → r ∉ (handleDeleteFile env i auth req s).2.files →
          q.Names (r.toFileInfo env)

/-- The rows among which the database looks for the file: those with an index of the path. -/
def NamedFile.Candidate (env : Env) (q : NamedFile) (r : FileRow) : Prop :=
  r.isDeleted = false ∧ r.accountHash = q.accountHash ∧
    (r.toFileInfo env).filePath = q.filePath ∧ r.eqIndex.isSome ∧
      (0 < q.revision → r.revision = q.revision)

instance (env : Env) (q : NamedFile) : DecidablePred (q.Candidate env) :=
  fun _ => inferInstanceAs (Decidable (_ ∧ _))

/-- The rows that are named. -/
def NamedFile.Row (env : Env) (q : NamedFile) (r : FileRow) : Prop :=
  r.isDeleted = false ∧ q.Names (r.toFileInfo env) ∧ (q.revision = 0 ∨ r.revision = q.revision)

instance (env : Env) (q : NamedFile) : DecidablePred (q.Row env) :=
  fun _ => inferInstanceAs (Decidable (_ ∧ _))

/-- Of the rows with an index of the path, the newest have the name; if a row is named, there
    are rows with an index; and if the revision is negative, only then. -/
structure NamesOne (env : Env) (t : List FileRow) (q : NamedFile) : Prop where
  newest : ∀ r ∈ t, q.Candidate env r →
    (∀ r' ∈ t, q.Candidate env r' → r'.revision ≤ r.revision) →
      (r.toFileInfo env).filename = q.filename
  indexed : (∃ r ∈ t, q.Row env r) → ∃ r ∈ t, q.Candidate env r
  negative : q.revision < 0 → (∃ r ∈ t, q.Candidate env r) → ∃ r ∈ t, q.Row env r

section

variable {env : Env} {t t' : List FileRow} {files : HashMap ℕ FileInfo} {q : NamedFile}
  {pl : Planner}

/-- In an indexed table, the query selects the candidates. -/
theorem matches_iff_candidate (hI : Indexed env t)
    (hfree : CollisionFree env t q.accountHash q.filePath) {r : FileRow} (hr : r ∈ t) :
    (r.accountHash = q.accountHash ∧ r.eqIndex = some (env.eqIndex q.accountHash q.filePath) ∧
      r.isDeleted = false ∧ (0 < q.revision → r.revision = q.revision)) ↔ q.Candidate env r := by
  constructor
  · rintro ⟨hacc, hindex, hlive, hrev⟩
    have hown := hI r hr hlive _ hindex
    rw [hacc] at hown
    exact ⟨hlive, hacc, hfree r hr hacc hown.symm, by rw [hindex]; rfl, hrev⟩
  · rintro ⟨hlive, hacc, hpath, hsome, hrev⟩
    obtain ⟨index, hindex⟩ := Option.isSome_iff_exists.1 hsome
    refine ⟨hacc, ?_, hlive, hrev⟩
    rw [hindex, hI r hr hlive index hindex, hacc, hpath]

theorem findFileByPathAndName_eq (hI : Indexed env t)
    (hfree : CollisionFree env t q.accountHash q.filePath) (pl : Planner) :
    findFileByPathAndName { env with planner := pl } t q.accountHash q.filePath
      q.filename q.revision =
      (fetchFirstBy pl (q.Candidate env) t byRevision).map (FileRow.toFileInfo env) := by
  refine congrArg (Option.map _) (fetchFirstBy_congr (List.filter_congr fun r hr => ?_))
  exact decide_eq_decide.2 (matches_iff_candidate hI hfree hr)

/-- The storage in memory finds a file where a row is named. -/
theorem isSome_memory_iff (hsame : SameActive env t files) (pl : Planner) :
    (MemoryStorage.findFileByPathAndName pl files q.accountHash q.filePath q.filename
      q.revision).isSome ↔ ∃ r ∈ t, q.Row env r := by
  rw [MemoryStorage.findFileByPathAndName, Option.isSome_map, HashMap.findEntry,
    Option.isSome_iff_ne_none, Ne, fetchOptional_eq_none]
  push Not
  constructor
  · rintro ⟨e, he, hacc, hpath, hname, hrev⟩
    obtain ⟨r, hr, hlive, hnames, hrev'⟩ :=
      (hsame ⟨q.accountHash, q.filePath, q.filename, e.2.revision⟩).1
        ⟨e, he, ⟨hacc, hpath, hname⟩, rfl⟩
    exact ⟨r, hr, hlive, hnames, by rwa [hrev']⟩
  · rintro ⟨r, hr, hlive, hnames, hrev⟩
    obtain ⟨e, he, ⟨hacc, hpath, hname⟩, hrev'⟩ :=
      (hsame ⟨q.accountHash, q.filePath, q.filename, r.revision⟩).2 ⟨r, hr, hlive, hnames, rfl⟩
    exact ⟨e, he, hacc, hpath, hname, by rwa [hrev']⟩

theorem isSome_mySql_iff (hI : Indexed env t) (hfree : CollisionFree env t q.accountHash q.filePath)
    (pl : Planner) :
    (findFileByPathAndName { env with planner := pl } t q.accountHash q.filePath q.filename
      q.revision).isSome ↔ ∃ r ∈ t, q.Candidate env r := by
  rw [findFileByPathAndName_eq hI hfree, Option.isSome_map, isSome_fetchFirstBy]

/-! ## Indices in reachable tables -/

namespace Indexed

theorem markDeleted {p : FileRow → Prop} [DecidablePred p] (h : Indexed env t) :
    Indexed env (markDeleted p t) := fun r hr hlive =>
  h r (active_of_mem_markDeleted hr hlive).1 hlive

theorem append (h : Indexed env t) {r : FileRow} (hr : ∀ index, r.eqIndex = some index →
    index = env.eqIndex r.accountHash (r.toFileInfo env).filePath) : Indexed env (t ++ [r]) := by
  intro r' hr' hlive
  rcases List.mem_append.1 hr' with hr' | hr'
  · exact h r' hr' hlive
  · rw [List.mem_singleton.1 hr']
    exact hr

/-- What uploads write is indexed; what deletions write has no index. -/
theorem apply (h : Indexed env t) (hC : env.crypto.Lawful) (op : FileOp) :
    Indexed env (op.apply env t) := by
  rcases op with ⟨now, nonces, info⟩ | ⟨now, newFileId, accountHash, fileId⟩
  · refine committed_of h fun id t' hok => ?_
    obtain ⟨-, ⟨-, rfl⟩ | ⟨-, -, rfl⟩⟩ := storeFileInfo_ok hok
    · intro r hr hlive
      obtain ⟨hr, -⟩ | ⟨r₀, hr₀, -, rfl⟩ := mem_updateWhere_cases hr
      · exact h r hr hlive
      · exact h r₀ hr₀ hlive
    · -- The index is made of the plain path, the column is encrypted; read back, it is the
      -- path again.
      have hretired : Indexed env (retire env.planner info.logical t) := fun r hr hlive =>
        h r (active_of_mem_retire hr hlive) hlive
      refine hretired.append fun index hindex => ?_
      rw [FileRow.toFileInfo, Env.newRow]
      dsimp only
      rw [env.decryptText_encodeText hC]
      exact (Option.some.inj hindex).symm
  · refine committed_of h fun _ t' hok => ?_
    obtain ⟨r, filePath, filename, -, -, -, rfl⟩ := deleteFile_ok hok
    intro r' hr' hlive
    obtain ⟨hr', -⟩ | ⟨r₀, -, -, rfl⟩ := mem_updateWhere_cases hr'
    · have hmarked := h.markDeleted (p := fun f => f.fileId = fileId) |>.markDeleted
        (p := fun f => f.logicalByGroup = r.logicalByGroup)
      have hnone : (insertedTombstone now newFileId accountHash filePath filename r).eqIndex =
        none := rfl
      exact hmarked.append (fun index hsome => by rw [hnone] at hsome; cases hsome) r' hr' hlive
    · cases hlive

/-- In every table that clients lead to, the index of a row is that of its path. -/
theorem reachable (h : Reachable env t) (hC : env.crypto.Lawful) : Indexed env t := by
  induction h with
  | empty => exact fun r hr => absurd hr List.not_mem_nil
  | file op _ ih => exact ih.apply hC op
  | restore _ hok ih =>
    obtain ⟨-, rfl⟩ | ⟨r, -, -, hfiles, -, -, hindex, -⟩ := restoreFileVersion_ok hok
    · exact ih
    · rw [hfiles]
      exact ih.append fun index hsome => by rw [hindex] at hsome; cases hsome

end Indexed

/-! ## What a deletion marks -/

variable {i : DeleteInputs} {auth : Option VerificationResult} {req : DeleteFileRequest}
  {s : AppState}

/-- A row that a deletion changes has the file id, or the columns, of the row that was found. -/
theorem changed_of_deleteFile {now : ℤ} {newFileId fileId : ℕ} {accountHash : String} {r : FileRow}
    (h : deleteFile env now newFileId accountHash fileId t = .ok ((), t')) (hr : r ∈ t)
    (hnew : r.fileId ≠ newFileId) (hchanged : r ∉ t') :
    ∃ r₁ ∈ t, r₁.fileId = fileId ∧
      (r.fileId = r₁.fileId ∨ r.logicalByGroup = r₁.logicalByGroup) := by
  obtain ⟨r₁, filePath, filename, hfetch, -, -, rfl⟩ := deleteFile_ok h
  obtain ⟨hr₁, hid, -⟩ := fetchOptional_some hfetch
  refine ⟨r₁, hr₁, hid, ?_⟩
  by_contra hother
  rw [not_or] at hother
  have hmarked : r ∈ markDeleted (fun f => f.logicalByGroup = r₁.logicalByGroup)
      (markDeleted (fun f => f.fileId = fileId) t) :=
    mem_updateWhere_of_not (mem_updateWhere_of_not hr (hid ▸ hother.1)) hother.2
  exact hchanged (mem_updateWhere_of_not (List.mem_append_left _ hmarked) hnew)

/-- A deletion by path asks the storage for the file, and changes the rows of its id and of
    its columns. -/
theorem changed_of_handleDeleteFile {r : FileRow} (hid : req.fileId = 0) (hr : r ∈ s.files)
    (hnew : r.fileId ≠ i.newFileId) (hchanged : r ∉ (handleDeleteFile env i auth req s).2.files) :
    ∃ info, findFileByPathAndName env s.files req.accountHash
        (normalizePathPreserveTilde (normalizePathPreserveTilde req.filePath)) req.filename
        req.revision.toInt = some info ∧
      ∃ r₁ ∈ s.files, r₁.fileId = info.fileId ∧
        (r.fileId = r₁.fileId ∨ r.logicalByGroup = r₁.logicalByGroup) := by
  rw [handleDeleteFile] at hchanged
  split at hchanged
  next => exact absurd hr hchanged
  next =>
    split at hchanged
    next => exact absurd hr hchanged
    next fileId hfile =>
      rw [fileForDeletion, if_neg (by omega), findFileByPath] at hfile
      split at hfile
      next info hinfo =>
        refine ⟨info, hinfo, ?_⟩
        cases hfile
        -- Whatever is answered, the table is the one that the service leaves.
        have hfiles : r ∉
            (s.toStore.deleteFile env s.notifier i.store i.newFileId info.fileId).2.files := by
          split at hchanged
          next heq => rwa [heq]
          next heq => rwa [heq]
        obtain heq | ⟨accountHash, files, hdelete, heq⟩ :=
          Store.files_deleteFile s.toStore env s.notifier i.store i.newFileId info.fileId
        · rw [heq] at hfiles
          exact absurd hr hfiles
        · rw [heq] at hfiles
          exact changed_of_deleteFile hdelete hr hnew hfiles
      next => cases hfile

theorem deletes_of_found (hfound : ∀ info,
      findFileByPathAndName env t q.accountHash q.filePath q.filename q.revision = some info →
        (∃ r ∈ t, r.isDeleted = false ∧ r.toFileInfo env = info) ∧ q.Names info)
    (hfiles : s.files = t) (hid : req.fileId = 0) (hacc : req.accountHash = q.accountHash)
    (hpath : normalizePathPreserveTilde (normalizePathPreserveTilde req.filePath) = q.filePath)
    (hname : req.filename = q.filename) (hrev : req.revision.toInt = q.revision)
    (hone : OneFile env t) (hnew : ∀ r ∈ t, r.fileId ≠ i.newFileId) {r : FileRow} (hr : r ∈ t)
    (hchanged : r ∉ (handleDeleteFile env i auth req s).2.files) : q.Names (r.toFileInfo env) := by
  subst hfiles
  obtain ⟨info, hinfo, r₁, hr₁, hid₁, hsame⟩ :=
    changed_of_handleDeleteFile hid hr (hnew r hr) hchanged
  rw [hacc, hpath, hname, hrev] at hinfo
  obtain ⟨⟨r₀, hr₀, -, rfl⟩, hnames⟩ := hfound info hinfo
  -- From the file found to the row that the deletion goes by, and on to the row it marks.
  have hnames₁ := hone r₀ hr₀ r₁ hr₁ (.inl hid₁.symm) q hnames
  refine hone r₁ hr₁ r hr ?_ q hnames₁
  exact hsame.imp Eq.symm Eq.symm

/-! ## When the named file is deleted -/

namespace NamesOne

/-- What the database finds is named. -/
theorem found (h : NamesOne env t q) (hI : Indexed env t)
    (hfree : CollisionFree env t q.accountHash q.filePath) {info : FileInfo}
    (hinfo : findFileByPathAndName { env with planner := pl } t q.accountHash q.filePath q.filename
      q.revision = some info) :
    (∃ r ∈ t, r.isDeleted = false ∧ r.toFileInfo env = info) ∧ q.Names info ∧
      (0 < q.revision → info.revision = q.revision) := by
  rw [findFileByPathAndName_eq hI hfree] at hinfo
  obtain ⟨r, hr, rfl⟩ := Option.map_eq_some_iff.1 hinfo
  have hname := forall_fetchFirstBy_iff.2 h.newest pl r hr
  obtain ⟨hmem, hlive, hacc, hpath, -, hrev⟩ := fetchFirstBy_some hr
  exact ⟨⟨r, hmem, hlive, rfl⟩, ⟨hacc, hpath, hname⟩, hrev⟩

theorem exists_candidate_iff (h : NamesOne env t q) :
    (∃ r ∈ t, q.Candidate env r) ↔ ∃ r ∈ t, q.Row env r := by
  refine ⟨fun hcand => ?_, h.indexed⟩
  rcases lt_or_ge q.revision 0 with hneg | hnonneg
  · exact h.negative hneg hcand
  · -- The newest candidate is named.
    obtain ⟨r, hr, hc, hmax⟩ := exists_forall_rel (r := byRevision) hcand
    have hname := h.newest r hr hc hmax
    obtain ⟨hlive, hacc, hpath, -, hrev⟩ := hc
    refine ⟨r, hr, hlive, ⟨hacc, hpath, hname⟩, ?_⟩
    rcases hnonneg.eq_or_lt with heq | hpos
    · exact .inl heq.symm
    · exact .inr (hrev hpos)

end NamesOne

/-- Whatever order the database returns, a deletion by path deletes the named file exactly
    if the newest rows of the path have the name, and the rows that are named can be found. -/
theorem deletesNamed_iff (hI : Indexed env t) (hfree : CollisionFree env t q.accountHash q.filePath)
    (hsame : SameActive env t files) :
    (∀ pl, DeletesNamed { env with planner := pl } t files q) ↔ NamesOne env t q := by
  constructor
  · intro h
    have hsome : (∃ r ∈ t, q.Candidate env r) ↔ ∃ r ∈ t, q.Row env r := by
      rw [← isSome_memory_iff hsame env.planner, ← (h env.planner).alike, isSome_mySql_iff hI hfree]
    refine ⟨(forall_fetchFirstBy_iff (r := byRevision)).1 fun pl r hr => ?_, hsome.2,
      fun _ => hsome.1⟩
    obtain ⟨-, hnames, -⟩ := (h pl).found (r.toFileInfo env) (by
      rw [findFileByPathAndName_eq hI hfree, hr]
      rfl)
    exact hnames.2.2
  · intro h pl
    refine ⟨fun info hinfo => h.found hI hfree hinfo, fun pl' => ?_,
      fun i auth req s hfiles hid hacc hpath hname hrev hone hnew r hr _ =>
        deletes_of_found (fun info hinfo => ?_) hfiles hid hacc hpath hname hrev hone hnew hr⟩
    · rw [Bool.eq_iff_iff, isSome_memory_iff hsame, isSome_mySql_iff hI hfree]
      exact h.exists_candidate_iff
    · obtain ⟨hrow, hnames, -⟩ := h.found hI hfree hinfo
      exact ⟨hrow, hnames⟩

/-- The active rows of a table, by their ids. -/
theorem sameActive_of_entries (h : files.entries =
    (t.filter fun r => r.isDeleted = false).map fun r => (r.fileId, r.toFileInfo env)) :
    SameActive env t files := by
  intro q
  simp only [h, List.mem_map, List.mem_filter, decide_eq_true_eq]
  constructor
  · rintro ⟨_, ⟨r, ⟨hr, hlive⟩, rfl⟩, hnames, hrev⟩
    exact ⟨r, hr, hlive, hnames, hrev⟩
  · rintro ⟨r, hr, hlive, hnames, hrev⟩
    exact ⟨_, ⟨r, ⟨hr, hlive⟩, rfl⟩, hnames, hrev⟩

end

/-! ## Two files of a directory -/

/-- The upload of a file with the given path and name. -/
def uploadOf (fileId : ℕ) (file : String × String) : FileOp :=
  .store 10 (Crypto.nonceSample 1, Crypto.nonceSample 2)
    { sampleInfo fileId 0 10 with filePath := file.1, filename := file.2 }

/-- The table after the uploads of two files. -/
def twoUploads (first second : String × String) : List FileRow :=
  (uploadOf 2 second).apply .plain ((uploadOf 1 first).apply .plain [])

/-- Both files are at the path of their directory. -/
def sharedPath : List FileRow := twoUploads ("~/docs", "a.txt") ("~/docs", "b.txt")

/-- Each file is at its own path. -/
def ownPaths : List FileRow := twoUploads ("~/docs/a.txt", "a.txt") ("~/docs/b.txt", "b.txt")

def sharedPathFiles : HashMap ℕ FileInfo :=
  ⟨(sharedPath.filter fun r => r.isDeleted = false).map fun r =>
    (r.fileId, r.toFileInfo .plain), by decide⟩

def ownPathsFiles : HashMap ℕ FileInfo :=
  ⟨(ownPaths.filter fun r => r.isDeleted = false).map fun r =>
    (r.fileId, r.toFileInfo .plain), by decide⟩

theorem indexed_twoUploads (first second : String × String) :
    Indexed .plain (twoUploads first second) :=
  .reachable (.file (uploadOf 2 second) (.file (uploadOf 1 first) .empty)) Crypto.sample_lawful

/-- At the path of the directory, the file that was uploaded first is found under the name
    of the second, where the storage in memory finds the second. -/
theorem not_deletesNamed_sharedPath :
    Indexed .plain sharedPath ∧ CollisionFree .plain sharedPath "alice" "~/docs" ∧
      SameActive .plain sharedPath sharedPathFiles ∧
      (findFileByPathAndName .plain sharedPath "alice" "~/docs" "b.txt" 0).map FileInfo.filename =
        some "a.txt" ∧
      ¬∀ pl, DeletesNamed { Env.plain with planner := pl } sharedPath sharedPathFiles
        ⟨"alice", "~/docs", "b.txt", 0⟩ := by
  have hfound : (findFileByPathAndName .plain sharedPath "alice" "~/docs" "b.txt" 0).map
      FileInfo.filename = some "a.txt" := by decide
  refine ⟨indexed_twoUploads _ _, by unfold CollisionFree; decide,
    sameActive_of_entries rfl, hfound,
    fun h => ?_⟩
  obtain ⟨info, hinfo, hname⟩ := Option.map_eq_some_iff.1 hfound
  obtain ⟨-, ⟨-, -, hname'⟩, -⟩ := (h .insertion).found info hinfo
  exact absurd (hname.symm.trans hname') (by decide)

theorem deletesNamed_ownPaths :
    Indexed .plain ownPaths ∧ CollisionFree .plain ownPaths "alice" "~/docs/b.txt" ∧
      SameActive .plain ownPaths ownPathsFiles ∧
      ∀ pl, DeletesNamed { Env.plain with planner := pl } ownPaths ownPathsFiles
        ⟨"alice", "~/docs/b.txt", "b.txt", 0⟩ := by
  have hI : Indexed .plain ownPaths := indexed_twoUploads _ _
  have hfree : CollisionFree .plain ownPaths "alice" "~/docs/b.txt" := by
    unfold CollisionFree
    decide
  have hsame : SameActive .plain ownPaths ownPathsFiles := sameActive_of_entries rfl
  refine ⟨hI, hfree, hsame, ?_⟩
  exact (deletesNamed_iff (q := ⟨"alice", "~/docs/b.txt", "b.txt", 0⟩) hI hfree hsame).2
    ⟨by decide, by decide, by decide⟩

end CosmicSync
