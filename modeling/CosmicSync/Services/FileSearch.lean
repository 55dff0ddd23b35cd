import CosmicSync.Services.FileService

/-!
# Searches by path and name

`find_file_by_criteria` is asked for a file by a path and a name, and a client may store a
file under the path of its directory, with or without a slash at the end, or under a path
that has the name already. What is meant is the same each time: the *full path* of the file.

The service makes a path of the two and the storage takes it apart again, and both go by the
last characters of the path. A path that ends in a slash is searched without it, so that a
file stored under `~/` is not found there; and a directory whose name ends in that of the
file is taken for the file, so that another file may be found in its place.

* `fullChars_eq_iff`: the paths under which a file may be stored.
* `searched_iff`: the paths and names that are searched.
-/

namespace CosmicSync

open Table

/-! ## Full paths -/

/-- The path without a slash at its end. -/
def stripSlash (path : List Char) : List Char := if ['/'] <:+ path then path.dropLast else path

/-- The full path: the path itself if it ends in the name, and otherwise the two joined. -/
def fullChars (path name : List Char) : List Char :=
  if '/' :: name <:+ path then path else stripSlash path ++ '/' :: name

/-- What comes before the name in the full path. -/
def directoryChars (path name : List Char) : List Char :=
  if '/' :: name <:+ path then path.rdrop (name.length + 1) else stripSlash path

/-- A path that joins with the name to a full path. -/
def PlainDirectory (dir name : List Char) : Prop := ¬['/'] <:+ dir ∧ ¬ '/' :: name <:+ dir

instance (dir name : List Char) : Decidable (PlainDirectory dir name) :=
  inferInstanceAs (Decidable (¬_ ∧ ¬_))

section

variable {path name dir : List Char}

theorem stripSlash_append (dir : List Char) : stripSlash (dir ++ ['/']) = dir := by
  rw [stripSlash, if_pos (List.suffix_append _ _), List.dropLast_concat]

theorem fullChars_eq (path name : List Char) :
    fullChars path name = directoryChars path name ++ '/' :: name := by
  rw [fullChars, directoryChars]
  split
  next h =>
    obtain ⟨dir, rfl⟩ := h
    rw [List.rdrop, List.length_append, List.length_cons, Nat.add_sub_cancel_right,
      List.take_left]
  next => rfl

/-- The last character of a name is not a slash. -/
theorem eq_nil_of_suffix (hname : '/' ∉ name) (h : name <:+ dir ++ ['/']) : name = [] := by
  rcases List.eq_nil_or_concat name with hnil | ⟨front, c, rfl⟩
  · exact hnil
  · obtain ⟨rest, heq⟩ := h
    rw [List.concat_eq_append] at heq hname
    rw [← List.append_assoc] at heq
    obtain ⟨-, hc⟩ := List.append_inj' heq rfl
    cases hc
    exact absurd (List.mem_append_right _ (List.mem_singleton_self _)) hname

/-- The paths of a file with a given full path: the full path, and the directory with a slash
    or, if it is a plain one, without. -/
theorem fullChars_eq_iff (hname : '/' ∉ name) :
    fullChars path name = dir ++ '/' :: name ↔
      path = dir ++ '/' :: name ∨ path = dir ++ ['/'] ∨ (path = dir ∧ PlainDirectory dir name) := by
  constructor
  · intro h
    rw [fullChars] at h
    split at h
    next => exact .inl h
    next hfull =>
      -- The name was added to the path, so that the path is the directory, up to a slash.
      have hstrip : stripSlash path = dir := List.append_cancel_right h
      rw [stripSlash] at hstrip
      split at hstrip
      next hslash =>
        obtain ⟨front, rfl⟩ := hslash
        rw [List.dropLast_concat] at hstrip
        exact .inr (.inl (by rw [hstrip]))
      next hslash => exact .inr (.inr ⟨hstrip, hstrip ▸ hslash, hstrip ▸ hfull⟩)
  · rintro (rfl | rfl | ⟨rfl, hslash, hfull⟩)
    · rw [fullChars, if_pos (List.suffix_append _ _)]
    · rw [fullChars]
      split
      next h =>
        -- Only with the empty name does the path with its slash end in slash and name.
        rw [eq_nil_of_suffix hname ((List.suffix_cons _ _).trans h)]
      next => rw [stripSlash_append]
    · rw [fullChars, if_neg hfull, stripSlash, if_neg hslash]

/-- A path that ends in the name, but for another reason than being the full path, is a plain
    directory. -/
theorem plainDirectory_of_suffix (hname : '/' ∉ name) (h : name <:+ path)
    (hfull : ¬ '/' :: name <:+ path) :
    PlainDirectory path name := by
  refine ⟨fun ⟨front, heq⟩ => ?_, hfull⟩
  rw [← heq] at h hfull
  rw [eq_nil_of_suffix hname h] at hfull
  exact hfull (List.suffix_append _ _)

theorem directoryChars_of_plain (h : PlainDirectory path name) :
    directoryChars path name = path := by
  rw [directoryChars, if_neg h.2, stripSlash, if_neg h.1]

end

/-! ## What is searched -/

/-- What a file is searched by. -/
structure FileSearch where
  accountHash : String
  groupId : ℤ
  watcherId : ℤ
  filePath : String
  fileName : String

namespace FileSearch

variable (q : FileSearch)

/-- The path in the form in which uploads store paths. -/
def path : List Char := (normalizePathPreserveTilde q.filePath).toList

def directory : String := String.ofList (directoryChars q.path q.fileName.toList)

def full : String := String.ofList (fullChars q.path q.fileName.toList)

/-- An active file of the account, the group and the watcher. -/
def InScope (r : FileRow) : Prop :=
  r.accountHash = q.accountHash ∧ r.serverGroupId = q.groupId ∧ r.serverWatcherId = q.watcherId ∧
    r.isDeleted = false

instance : DecidablePred q.InScope := fun _ => inferInstanceAs (Decidable (_ ∧ _))

/-- The file is under the path and the name. -/
def At (path name : String) (r : FileRow) : Prop :=
  r.filePath = path.toByteArray ∧ r.filename = name.toByteArray

instance (path name : String) : DecidablePred (At path name) :=
  fun _ => inferInstanceAs (Decidable (_ ∧ _))

/-- The file is one that is meant: it has the name, and the full path of the request. -/
def Means (r : FileRow) : Prop :=
  q.InScope r ∧ ∃ path : String, At path q.fileName r ∧
    fullChars path.toList q.fileName.toList = fullChars q.path q.fileName.toList

/-- The path ends in the name of the file, but is not its full path. -/
def EndsInName : Prop := q.fileName.toList <:+ q.path ∧ ¬ '/' :: q.fileName.toList <:+ q.path

instance : Decidable q.EndsInName := inferInstanceAs (Decidable (_ ∧ _))

/-- Where the file is searched: in the directory and under the full path; but if the path ends
    in the name, in the directory and as what the directory is called. -/
def Searched (r : FileRow) : Prop :=
  q.InScope r ∧ (At q.directory q.fileName r ∨
    if q.EndsInName then
      At (searchCriteria q.directory q.fileName).1 (searchCriteria q.directory q.fileName).2 r
    else At q.full q.fileName r)

instance : DecidablePred q.Searched := fun _ => inferInstanceAs (Decidable (_ ∧ _))

/-! ### The path that the service makes -/

theorem normalizeChars_ne_nil (path : List Char) : normalizeChars path ≠ [] := by
  rw [normalizeChars]
  split
  · decide
  split
  · decide
  split
  next h =>
    rintro hnil
    rw [hnil] at h
    exact absurd h (by decide)
  split
  · rw [normalizeAbsolute]
    split
    · split
      · simp
      · dsimp only
        split <;> simp
    · split <;> simp
  split
  · split <;> simp
  · simp

theorem path_ne_nil : q.path ≠ [] := by
  rw [path, normalizePathPreserveTilde, String.toList_ofList]
  exact normalizeChars_ne_nil _

theorem toList_slash_append (name : String) : ("/" ++ name).toList = '/' :: name.toList := by
  rw [String.toList_append]
  rfl

theorem searchPath_of_endsInName (h : q.EndsInName) :
    Store.searchPath q.filePath q.fileName = String.ofList q.path := by
  rw [Store.searchPath, toList_slash_append]
  exact if_pos (.inr h.1)

/-- The service joins what the full path joins. -/
theorem searchPath_of_not_endsInName (h : ¬q.EndsInName) :
    Store.searchPath q.filePath q.fileName = q.full := by
  have hsuffix : q.fileName.toList <:+ q.path → '/' :: q.fileName.toList <:+ q.path := by
    intro hname
    by_contra hfull
    exact h ⟨hname, hfull⟩
  rw [Store.searchPath, toList_slash_append, full, fullChars]
  by_cases hfull : '/' :: q.fileName.toList <:+ q.path
  · rw [if_pos hfull]
    exact if_pos (.inl hfull)
  · rw [if_neg hfull]
    refine (if_neg fun hor => hfull (hor.elim id hsuffix)).trans ?_
    rw [stripSlash]
    by_cases hslash : ['/'] <:+ q.path
    · rw [if_pos hslash]
      refine (if_pos hslash).trans ?_
      obtain ⟨front, heq⟩ := hslash
      change String.ofList (q.path ++ _) = _
      rw [← heq, List.dropLast_concat, List.append_assoc]
      rfl
    · rw [if_neg hslash]
      exact (if_neg hslash).trans (if_pos q.path_ne_nil)

/-! ### The paths and names that the storage looks for -/

section

variable {q}

theorem ofList_path_of_endsInName (hname : '/' ∉ q.fileName.toList) (h : q.EndsInName) :
    String.ofList q.path = q.directory := by
  rw [directory, directoryChars_of_plain (plainDirectory_of_suffix hname h.1 h.2)]

/-- A full path is taken apart into the directory and the name. -/
theorem searchCriteria_full (hname : '/' ∉ q.fileName.toList) :
    searchCriteria q.full q.fileName = (q.directory, q.fileName) := by
  have hall : ∀ c ∈ q.fileName.toList, c ≠ '/' := fun c hc heq => hname (heq ▸ hc)
  rw [searchCriteria, full, directory, String.toList_ofList, fullChars_eq, toList_slash_append,
    if_pos (.inl (List.suffix_append _ _)), if_pos (by simp)]
  -- The last slash is the one before the name, since the name has none. From the end, the
  -- characters before it are the name, and what is left begins with it.
  have hrev : (directoryChars q.path q.fileName.toList ++ '/' :: q.fileName.toList).reverse =
      q.fileName.toList.reverse ++ '/' :: (directoryChars q.path q.fileName.toList).reverse := by
        simp
  have hdrop : (q.fileName.toList.reverse ++ '/' ::
        (directoryChars q.path q.fileName.toList).reverse).dropWhile
      (fun c => c ≠ '/') = '/' :: (directoryChars q.path q.fileName.toList).reverse := by
    rw [List.dropWhile_append_of_pos (by simpa using hall)]
    simp
  have htake : (q.fileName.toList.reverse ++ '/' ::
        (directoryChars q.path q.fileName.toList).reverse).takeWhile
      (fun c => c ≠ '/') = q.fileName.toList.reverse := by
    rw [List.takeWhile_append_of_pos (by simpa using hall)]
    simp
  rw [List.rdropWhile, List.rtakeWhile, hrev, hdrop, htake]
  simp

/-- What is taken off a path leaves a shorter one. -/
theorem length_searchCriteria (path name : String) :
    (searchCriteria path name).1.toList.length ≤ path.toList.length := by
  rw [searchCriteria]
  split
  · split
    · rw [String.toList_ofList, List.length_dropLast]
      have := (List.rdropWhile_prefix (fun c => decide (c ≠ '/')) path.toList).length_le
      omega
    · simp
  · exact le_rfl

theorem searched_iff (hname : '/' ∉ q.fileName.toList) (r : FileRow) :
    r.MatchesCriteria q.accountHash q.groupId q.watcherId (Store.searchPath q.filePath q.fileName)
      q.fileName ↔ q.Searched r := by
  rw [FileRow.MatchesCriteria, Searched, InScope, and_assoc, and_assoc, and_assoc]
  by_cases h : q.EndsInName
  · -- The storage takes the directory apart, and looks for it as well.
    rw [searchPath_of_endsInName q h, ofList_path_of_endsInName hname h, if_pos h, or_comm]
    rfl
  · rw [searchPath_of_not_endsInName q h, searchCriteria_full hname, if_neg h]
    rfl

end

/-! ## When the file that is meant is found -/

/-- A row as `find_file_by_criteria` returns it. -/
def foundInfo (env : Env) (r : FileRow) : FileInfo :=
  { r.toFileInfo env with
    filePath := (env.driver.text r.filePath).getD ""
    filename := (env.driver.text r.filename).getD "" }

/-- A file is found exactly if one is meant, and then it is one that is meant; in particular
    a file that is stored under the path and the name of the request is found. -/
structure FindsMeant (env : Env) (st : Store) (q : FileSearch) : Prop where
  isSome_iff :
    (st.findFileByCriteria env q.accountHash q.groupId q.watcherId q.filePath q.fileName).isSome ↔
      ∃ r ∈ st.files, q.Means r
  found : ∀ info,
    st.findFileByCriteria env q.accountHash q.groupId q.watcherId q.filePath
      q.fileName = some info →
      ∃ r ∈ st.files, q.Means r ∧ foundInfo env r = info
  stored : (∃ r ∈ st.files, q.InScope r ∧ At (String.ofList q.path) q.fileName r) →
    (st.findFileByCriteria env q.accountHash q.groupId q.watcherId q.filePath q.fileName).isSome

/-- Of the rows that are searched, the newest have the name and either the full path or the
    directory, and this is a plain one; and if there are rows with the full path, or with the
    directory and a slash, there are rows that are searched. -/
structure StoredAsSearched (t : List FileRow) (q : FileSearch) : Prop where
  newest : ∀ r ∈ t, q.Searched r → (∀ r' ∈ t, q.Searched r' → r'.revision ≤ r.revision) →
    At q.full q.fileName r ∨
      (At q.directory q.fileName r ∧ PlainDirectory q.directory.toList q.fileName.toList)
  searched : (∃ r ∈ t, q.InScope r ∧
      (At q.full q.fileName r ∨ At (q.directory ++ "/") q.fileName r)) → ∃ r ∈ t, q.Searched r

section

variable {q : FileSearch} {env : Env} {st : Store} {r : FileRow}

theorem findFileByCriteria_eq (hname : '/' ∉ q.fileName.toList) :
    st.findFileByCriteria env q.accountHash q.groupId q.watcherId q.filePath q.fileName =
      (fetchFirstBy env.planner q.Searched st.files byRevision).map (foundInfo env) := by
  refine congrArg (Option.map _) (fetchFirstBy_congr (List.filter_congr fun r _ => ?_))
  exact decide_eq_decide.2 (searched_iff hname r)

/-- The rows that are meant. -/
theorem means_iff (hname : '/' ∉ q.fileName.toList) :
    q.Means r ↔ q.InScope r ∧ (At q.full q.fileName r ∨ At (q.directory ++ "/") q.fileName r ∨
      (At q.directory q.fileName r ∧ PlainDirectory q.directory.toList q.fileName.toList)) := by
  have hslash : (q.directory ++ "/").toList =
      directoryChars q.path q.fileName.toList ++ ['/'] := by
    rw [directory, String.toList_append, String.toList_ofList]
    rfl
  have hfull : q.full.toList = directoryChars q.path q.fileName.toList ++ '/' ::
      q.fileName.toList := by
    rw [full, String.toList_ofList, fullChars_eq]
  have hdir : q.directory.toList = directoryChars q.path q.fileName.toList := String.toList_ofList
  rw [Means, fullChars_eq q.path, hdir]
  refine and_congr_right fun _ => ⟨?_, ?_⟩
  · rintro ⟨path, hat, heq⟩
    rw [fullChars_eq_iff hname, ← hfull, ← hslash, ← hdir, String.toList_inj, String.toList_inj,
      String.toList_inj] at heq
    rcases heq with rfl | rfl | ⟨rfl, hplain⟩
    · exact .inl hat
    · exact .inr (.inl hat)
    · exact .inr (.inr ⟨hat, hdir ▸ hplain⟩)
  · rintro (hat | hat | ⟨hat, hplain⟩)
    · exact ⟨_, hat, (fullChars_eq_iff hname).2 (.inl hfull)⟩
    · exact ⟨_, hat, (fullChars_eq_iff hname).2 (.inr (.inl hslash))⟩
    · exact ⟨_, hat, (fullChars_eq_iff hname).2 (.inr (.inr ⟨hdir, hplain⟩))⟩

/-- A row under the directory and a slash is not searched, unless this is the full path. -/
theorem at_full_of_searched (h : q.Searched r) (hat : At (q.directory ++ "/") q.fileName r) :
    At q.full q.fileName r := by
  -- What is searched besides the full path is the directory or shorter, so it does not end
  -- in one slash more.
  have hlength : (q.directory ++ "/").toList.length = q.directory.toList.length + 1 := by
    rw [String.toList_append, List.length_append]
    rfl
  obtain ⟨-, hdir | hother⟩ := h
  · have heq : q.directory = q.directory ++ "/" :=
      String.toByteArray_inj.1 (hdir.1.symm.trans hat.1)
    rw [← heq] at hlength
    omega
  · by_cases hends : q.EndsInName
    · rw [if_pos hends] at hother
      have heq : (searchCriteria q.directory q.fileName).1 = q.directory ++ "/" :=
        String.toByteArray_inj.1 (hother.1.symm.trans hat.1)
      have hle := length_searchCriteria q.directory q.fileName
      rw [heq] at hle
      omega
    · rwa [if_neg hends] at hother

theorem exists_at_of_searched (h : q.Searched r) : ∃ path name, At path name r := by
  obtain ⟨-, hdir | hother⟩ := h
  · exact ⟨_, _, hdir⟩
  · split at hother
    · exact ⟨_, _, hother⟩
    · exact ⟨_, _, hother⟩

/-- Where texts are read from the columns, the path and the name tell where a row is. -/
theorem at_of_foundInfo_eq (htext : env.driver = .lenient) {path name path' name' : String}
    {r' : FileRow} (hat : At path name r) (hat' : At path' name' r')
    (h : foundInfo env r' = foundInfo env r) : At path' name' r := by
  have hpath : path' = path := by
    simpa [foundInfo, hat.1, hat'.1, htext, Driver.lenient] using congrArg FileInfo.filePath h
  have hname : name' = name := by
    simpa [foundInfo, hat.2, hat'.2, htext, Driver.lenient] using congrArg FileInfo.filename h
  rwa [hpath, hname]

/-- A file is found if a row is searched. -/
theorem isSome_findFileByCriteria (env : Env) (hname : '/' ∉ q.fileName.toList) :
    (st.findFileByCriteria env q.accountHash q.groupId q.watcherId q.filePath q.fileName).isSome ↔
      ∃ r ∈ st.files, q.Searched r := by
  rw [findFileByCriteria_eq hname, Option.isSome_map, isSome_fetchFirstBy]

/-- Where files are stored as they are searched, the first of the rows is one that is meant. -/
theorem StoredAsSearched.means {t : List FileRow} (h : StoredAsSearched t q)
    (hname : '/' ∉ q.fileName.toList) {pl : Planner}
    (hr : fetchFirstBy pl q.Searched t byRevision = some r) : q.Means r := by
  obtain ⟨-, hscope, -⟩ := fetchFirstBy_some hr
  refine (means_iff hname).2 ⟨hscope, ?_⟩
  exact (forall_fetchFirstBy_iff.2 h.newest pl r hr).imp_right .inr

/-- There, a row is searched exactly if one is meant. -/
theorem StoredAsSearched.exists_searched_iff {t : List FileRow} (h : StoredAsSearched t q)
    (hname : '/' ∉ q.fileName.toList) : (∃ r ∈ t, q.Searched r) ↔ ∃ r ∈ t, q.Means r := by
  constructor
  · intro hex
    obtain ⟨r, hr⟩ := Option.isSome_iff_exists.1
      ((isSome_fetchFirstBy (r := byRevision)).2 hex : (fetchFirstBy .insertion _ _ _).isSome)
    exact ⟨r, (fetchFirstBy_some hr).1, h.means hname hr⟩
  · rintro ⟨r, hr, hmeans⟩
    obtain ⟨hscope, hfull | hslash | ⟨hdir, -⟩⟩ := (means_iff hname).1 hmeans
    · exact h.searched ⟨r, hr, hscope, .inl hfull⟩
    · exact h.searched ⟨r, hr, hscope, .inr hslash⟩
    · exact ⟨r, hr, hscope, .inl hdir⟩

theorem StoredAsSearched.findsMeant (h : StoredAsSearched st.files q)
    (hname : '/' ∉ q.fileName.toList) : FindsMeant env st q := by
  have hiff := (isSome_findFileByCriteria env hname).trans (h.exists_searched_iff hname)
  refine ⟨hiff, fun info hinfo => ?_, ?_⟩
  · rw [findFileByCriteria_eq hname] at hinfo
    obtain ⟨r, hr, rfl⟩ := Option.map_eq_some_iff.1 hinfo
    exact ⟨r, (fetchFirstBy_some hr).1, h.means hname hr, rfl⟩
  · rintro ⟨r, hr, hscope, hat⟩
    refine hiff.2 ⟨r, hr, hscope, _, hat, ?_⟩
    rw [String.toList_ofList]

/-- A row that is searched, and that is read like one that is meant, is stored as it should. -/
theorem at_of_searched_of_means (hname : '/' ∉ q.fileName.toList) (htext : env.driver = .lenient)
    {r' : FileRow} (hsearched : q.Searched r) (hmeans : q.Means r')
    (heq : foundInfo env r' = foundInfo env r) :
    At q.full q.fileName r ∨
      (At q.directory q.fileName r ∧ PlainDirectory q.directory.toList q.fileName.toList) := by
  obtain ⟨path, name, hat⟩ := exists_at_of_searched hsearched
  obtain ⟨-, hfull | hslash | ⟨hdir, hplain⟩⟩ := (means_iff hname).1 hmeans
  · exact .inl (at_of_foundInfo_eq htext hat hfull heq)
  · exact .inl (at_full_of_searched hsearched (at_of_foundInfo_eq htext hat hslash heq))
  · exact .inr ⟨at_of_foundInfo_eq htext hat hdir heq, hplain⟩

/-- Whatever order the database returns, and however the driver reads the columns, the file
    that is meant is found exactly if the files are stored where they are searched. -/
theorem findsMeant_iff (hname : '/' ∉ q.fileName.toList) :
    (∀ pl driver, FindsMeant { env with planner := pl, driver := driver } st q) ↔
      StoredAsSearched st.files q := by
  constructor
  · intro h
    refine ⟨(forall_fetchFirstBy_iff (r := byRevision)).1 fun pl r hr => ?_, ?_⟩
    · -- The planner may return any of the newest rows, and the lenient driver tells which.
      have hfound := (h pl .lenient).found
      rw [findFileByCriteria_eq hname, hr] at hfound
      obtain ⟨r', -, hmeans, heq⟩ := hfound _ rfl
      exact at_of_searched_of_means hname rfl (fetchFirstBy_some hr).2 hmeans heq
    · rintro ⟨r, hr, hscope, hat⟩
      rw [← isSome_findFileByCriteria env hname, (h env.planner env.driver).isSome_iff]
      refine ⟨r, hr, (means_iff hname).2 ⟨hscope, ?_⟩⟩
      exact hat.imp_right .inl
  · intro h pl driver
    exact h.findsMeant hname

end

/-! ## A file that is not found, and one that is not meant -/

/-- The store after the upload of a file. -/
def uploaded (filePath filename : String) : Store where
  files := FileOp.apply .plain [] (.store 10 (Crypto.nonceSample 1, Crypto.nonceSample 2)
    { sampleInfo 1 0 10 with
      filePath := normalizePathPreserveTilde filePath
      filename := filename })
  fileData _ := none
  cache _ := none

/-- A file in the home directory is not found by the path and the name of its upload; and for
    a file in a directory, one is found that is called like the directory. -/
theorem not_findsMeant_home :
    ((uploaded "~/" "a.txt").findFileByCriteria .plain "alice" 1 1 "~/" "a.txt" = none ∧
      ¬∀ pl driver, FindsMeant { Env.plain with planner := pl, driver := driver }
        (uploaded "~/" "a.txt") ⟨"alice", 1, 1, "~/", "a.txt"⟩) ∧
    (((uploaded "~/docs" "my-notes").findFileByCriteria .plain "alice" 1 1 "~/docs/my-notes"
        "notes").map FileInfo.filename = some "my-notes" ∧
      ¬∀ pl driver, FindsMeant { Env.plain with planner := pl, driver := driver }
        (uploaded "~/docs" "my-notes") ⟨"alice", 1, 1, "~/docs/my-notes", "notes"⟩) := by
  have hnone : (uploaded "~/" "a.txt").findFileByCriteria .plain "alice" 1 1 "~/"
      "a.txt" = none := by
    decide
  have hother : ((uploaded "~/docs" "my-notes").findFileByCriteria .plain "alice" 1 1
      "~/docs/my-notes" "notes").map FileInfo.filename = some "my-notes" := by decide
  refine ⟨⟨hnone, fun h => ?_⟩, hother, fun h => ?_⟩
  · have hsome : ((uploaded "~/" "a.txt").findFileByCriteria .plain "alice" 1 1 "~/"
        "a.txt").isSome :=
      (h .insertion .lenient).stored (by decide)
    rw [hnone] at hsome
    cases hsome
  · obtain ⟨info, hinfo, -⟩ := Option.map_eq_some_iff.1 hother
    obtain ⟨r, hr, ⟨-, path, ⟨-, hname⟩, -⟩, -⟩ := (h .insertion .lenient).found info hinfo
    have hall : ∀ r ∈ (uploaded "~/docs" "my-notes").files, r.filename ≠ "notes".toByteArray := by
      decide
    exact hall r hr hname

theorem findsMeant_docs :
    '/' ∉ "a.txt".toList ∧
      ∀ pl driver, FindsMeant { Env.plain with planner := pl, driver := driver }
        (uploaded "~/docs" "a.txt") ⟨"alice", 1, 1, "~/docs", "a.txt"⟩ := by
  have hname : '/' ∉ "a.txt".toList := by decide
  refine ⟨hname, ?_⟩
  exact (findsMeant_iff (q := ⟨"alice", 1, 1, "~/docs", "a.txt"⟩) hname).2 ⟨by decide, by decide⟩

end FileSearch

end CosmicSync
