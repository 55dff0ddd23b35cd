import CosmicSync.Library.Segments
import CosmicSync.Handlers.WatcherFolders

/-!
# Files in the folder of a watcher

`validate_file_path_with_watcher` of `handlers/file_handler.rs` checks whether the path of an
uploaded file lies in the folder of its watcher. For a recursive watcher the path has to begin with
the folder, as a text: `~/docs` is begun with by `~/docs2/a.txt`, too. For another one the
parent of the path, as `std::path` gives it, has to be the folder: it has no slash at the end,
while the home folder `~/` has one.

* `parentChars`: `Path::parent`.
* `LiesIn`: whether a path lies in the folder, by components.
* `JudgedByComponents`: the paths and folders for which the check says the same.
-/

namespace CosmicSync

open Segments WatcherStore

/-! ## `Path::parent` -/

/-- The segments that `Path::components` leaves out. -/
def IsSkipped (segment : List Char) : Prop := segment = [] ∨ segment = ['.']

instance : DecidablePred IsSkipped := fun _ => inferInstanceAs (Decidable (_ ∨ _))

/-- `Components::include_cur_dir`: a leading dot is a component. -/
def includeCurDir (path : List Char) : Prop := path = ['.'] ∨ ['.', '/'] <+: path

instance : DecidablePred includeCurDir := fun _ => inferInstanceAs (Decidable (_ ∨ _))

/-- `Components::len_before_body`: the root, or a leading dot. -/
def lenBeforeBody (path : List Char) : ℕ := if ['/'] <+: path ∨ includeCurDir path then 1 else 0

/-- The segments of the body, up to the last component. -/
def bodySegments (path : List Char) : List (List Char) :=
  ((path.drop (lenBeforeBody path)).splitOn '/').rdropWhile (IsSkipped ·)

/-- `Path::parent`. -/
def parentChars (path : List Char) : Option (List Char) :=
  if bodySegments path = [] then
    -- The last component is the root, the leading dot, or there is none.
    if includeCurDir path then some [] else none
  else
    some (path.take (lenBeforeBody path) ++
      ['/'].intercalate ((bodySegments path).dropLast.rdropWhile (IsSkipped ·)))

/-! ## The check -/

/-- `validate_file_path_with_watcher`, after the answer of `get_watcher_info_once`. -/
def validateFilePathWithWatcher (watcher : Except String WatcherData)
    (normalizedFilePath : String) : Except String Unit :=
  match watcher with
  | .error _ => .error "Watcher not found or validation failed"
  | .ok watcher =>
    let normalizedWatcherFolder := normalizePathPreserveTilde watcher.folder
    let fileIsInWatcherFolder : Bool :=
      if watcher.recursivePath then
        normalizedWatcherFolder.toList <+: normalizedFilePath.toList ∨
          normalizedFilePath = normalizedWatcherFolder
      else String.ofList ((parentChars normalizedFilePath.toList).getD []) = normalizedWatcherFolder
    if fileIsInWatcherFolder then .ok ()
    else .error ("File path '" ++ normalizedFilePath ++ "' is not within watcher folder '" ++
      normalizedWatcherFolder ++ "'")

/-- The file is the folder or below it, by components; or its parent is the folder. -/
def LiesIn (recursivePath : Bool) (folder path : List Char) : Prop :=
  if recursivePath then components '/' folder <+: components '/' path
  else components '/' path ≠ [] ∧ (components '/' path).dropLast = components '/' folder

instance (recursivePath : Bool) (folder path : List Char) :
    Decidable (LiesIn recursivePath folder path) :=
  inferInstanceAs (Decidable (if recursivePath then _ else _ ∧ _))

/-! ## Where they agree -/

/-- The last segment is a component of `std::path`. -/
def EndsInName (folder : List Char) : Prop :=
  ∀ segment ∈ (folder.splitOn '/').getLast?, ¬IsSkipped segment

instance : DecidablePred EndsInName := fun _ => inferInstanceAs (Decidable (∀ _ ∈ _, _))

/-- The path is below the folder by one name of `std::path`, and by components of one dot. -/
def Dotted (folder path : List Char) : Prop :=
  folder ++ ['/'] <+: path ∧ EndsInName folder ∧
    ((path.drop (folder.length + 1)).splitOn '/').countP (¬IsSkipped ·) = 1 ∧
    ['.'] ∈ (path.drop (folder.length + 1)).splitOn '/'

instance (folder path : List Char) : Decidable (Dotted folder path) :=
  inferInstanceAs (Decidable (_ ∧ _))

/-- For a recursive watcher, the last component of the folder does not go on in the path; and a
    path below the folder has the slashes of the folder.

    For another one, the path is not dotted; and a path whose parent is the folder has the slashes
    of the folder and does not end in the component of one dot, and the folder ends in neither a
    slash nor this component. -/
def JudgedByComponents (recursivePath : Bool) (folder path : List Char) : Prop :=
  if recursivePath then
    ¬Glued '/' folder path ∧ (LiesIn true folder path → SeparatedAlike '/' folder path)
  else
    ¬Dotted folder path ∧ (LiesIn false folder path →
      SeparatedAlike '/' folder path ∧ EndsInName folder ∧
        (components '/' path).getLast? ≠ some ['.'])

instance (recursivePath : Bool) (folder path : List Char) :
    Decidable (JudgedByComponents recursivePath folder path) :=
  inferInstanceAs (Decidable (if recursivePath then _ ∧ _ else _ ∧ _))

/-! ## The parent of a normalised path -/

section

variable {β : Type*} {q : β → Prop} [DecidablePred q] {s t : List β}

theorem rdropWhile_append (h : ∀ x ∈ t, q x) : (s ++ t).rdropWhile (q ·) = s.rdropWhile (q ·) := by
  rw [List.rdropWhile, List.reverse_append, List.dropWhile_append_of_pos, List.rdropWhile]
  exact fun x hx => decide_eq_true (h x (List.mem_reverse.1 hx))

theorem countP_not_eq_zero : t.countP (¬q ·) = 0 ↔ ∀ y ∈ t, q y := by simp

theorem exists_of_countP_eq_one (h : t.countP (¬q ·) = 1) :
    ∃ front x back, t = front ++ x :: back ∧ (∀ y ∈ front, q y) ∧ ¬q x ∧ ∀ y ∈ back, q y := by
  obtain ⟨x, hx, hq⟩ := List.countP_pos_iff.1 (h ▸ Nat.one_pos)
  obtain ⟨front, back, rfl⟩ := List.append_of_mem hx
  rw [List.countP_append, List.countP_cons, if_pos hq] at h
  exact ⟨front, x, back, rfl, countP_not_eq_zero.1 (by omega), of_decide_eq_true hq,
    countP_not_eq_zero.1 (by omega)⟩

theorem countP_append_cons {front back : List β} {x : β} (hfront : ∀ y ∈ front, q y) (hx : ¬q x)
    (hback : ∀ y ∈ back, q y) : (front ++ x :: back).countP (¬q ·) = 1 := by
  rw [List.countP_append, List.countP_cons, if_pos (decide_eq_true hx), countP_not_eq_zero.2 hfront,
    countP_not_eq_zero.2 hback]

/-- Without its last element apart from those with `q`, and without those before it. -/
theorem rdropWhile_dropLast_eq_iff (hs : ∃ x ∈ s, ¬q x) {a : List β} :
    (s.rdropWhile (q ·)).dropLast.rdropWhile (q ·) = a ↔
      (∀ x ∈ a.getLast?, ¬q x) ∧ ∃ t, s = a ++ t ∧ t.countP (¬q ·) = 1 := by
  constructor
  · rintro rfl
    have hne : s.rdropWhile (q ·) ≠ [] := by
      rw [Ne, List.rdropWhile_eq_nil_iff]
      obtain ⟨x, hx, hq⟩ := hs
      exact fun h => hq (of_decide_eq_true (h x hx))
    have hlast := List.rdropWhile_last_not _ _ hne
    have heq : s = (s.rdropWhile (q ·)).dropLast.rdropWhile (q ·) ++
        ((s.rdropWhile (q ·)).dropLast.rtakeWhile (q ·) ++
          (s.rdropWhile (q ·)).getLast hne :: s.rtakeWhile (q ·)) := by
      rw [← List.append_assoc, List.rdropWhile_append_rtakeWhile, List.append_cons,
        List.dropLast_concat_getLast, List.rdropWhile_append_rtakeWhile]
    refine ⟨fun x hx => ?_, _, heq, countP_append_cons ?_ (by simpa using hlast) ?_⟩
    · obtain ⟨hne', rfl⟩ := List.mem_getLast?_eq_getLast hx
      simpa using List.rdropWhile_last_not _ _ hne'
    · exact fun y hy => by simpa using List.mem_rtakeWhile_imp hy
    · exact fun y hy => by simpa using List.mem_rtakeWhile_imp hy
  · rintro ⟨hlast, t, rfl, hcount⟩
    obtain ⟨front, x, back, rfl, hfront, hx, hback⟩ := exists_of_countP_eq_one hcount
    have hcons : a ++ (front ++ x :: back) = (a ++ front ++ [x]) ++ back := by simp
    rw [hcons, rdropWhile_append hback, List.rdropWhile_concat_neg _ _ _ (by simpa using hx),
      List.dropLast_concat, rdropWhile_append hfront, List.rdropWhile_eq_self_iff]
    exact fun hne => by simpa using hlast _ (List.getLast?_eq_some_getLast hne)

end

section

variable {folder path rest : List Char}

/-- A normalised path begins with the tilde, and a slash behind it. -/
theorem Normal.exists_cons (h : Normal path) : ∃ rest, path = '~' :: rest := by
  rcases h with rfl | ⟨⟨rest, rfl⟩, -⟩
  · exact ⟨[], rfl⟩
  · exact ⟨'/' :: rest, rfl⟩

theorem exists_not_isSkipped (h : Normal path) :
    ∃ segment ∈ path.splitOn '/', ¬IsSkipped segment := by
  obtain ⟨rest, rfl⟩ := h.exists_cons
  obtain ⟨first, segments, heq⟩ := List.exists_cons_of_ne_nil (List.splitOn_ne_nil '/' rest)
  rw [List.splitOn_cons_eq_if_modifyHead, if_neg (by decide), heq, List.modifyHead_cons]
  exact ⟨_, List.mem_cons_self, by simp [IsSkipped]⟩

/-- The parent of a path that begins with a tilde. -/
theorem getD_parentChars (h : Normal path) :
    (parentChars path).getD [] = ['/'].intercalate
      (((path.splitOn '/').rdropWhile (IsSkipped ·)).dropLast.rdropWhile (IsSkipped ·)) := by
  have hbody : lenBeforeBody path = 0 := by
    obtain ⟨rest, rfl⟩ := h.exists_cons
    simp [lenBeforeBody, includeCurDir]
  have hne : bodySegments path ≠ [] := by
    rw [bodySegments, hbody, List.drop_zero, Ne, List.rdropWhile_eq_nil_iff]
    obtain ⟨segment, hmem, hnot⟩ := exists_not_isSkipped h
    exact fun h => hnot (by simpa using h segment hmem)
  rw [parentChars, if_neg hne, bodySegments, hbody]
  rfl

/-- The parent is the folder if the path goes on behind it with one name. -/
theorem getD_parentChars_eq_iff (hfolder : folder ≠ []) (h : Normal path) :
    (parentChars path).getD [] = folder ↔ EndsInName folder ∧
      ∃ rest, path = folder ++ '/' :: rest ∧ (rest.splitOn '/').countP (¬IsSkipped ·) = 1 := by
  rw [getD_parentChars h]
  trans ((path.splitOn '/').rdropWhile (IsSkipped ·)).dropLast.rdropWhile (IsSkipped ·) =
    folder.splitOn '/'
  · have hmem : ∀ w ∈ ((path.splitOn '/').rdropWhile (IsSkipped ·)).dropLast.rdropWhile
        (IsSkipped ·), '/' ∉ w := fun w hw =>
      not_mem_of_mem_splitOn ((List.rdropWhile_prefix _ _).mem
        (List.mem_of_mem_dropLast ((List.rdropWhile_prefix _ _).mem hw)))
    generalize ((path.splitOn '/').rdropWhile (IsSkipped ·)).dropLast.rdropWhile (IsSkipped ·) =
      segments at hmem ⊢
    constructor
    · rintro rfl
      refine (List.splitOn_intercalate '/' hmem ?_).symm
      rintro rfl
      exact hfolder rfl
    · rintro rfl
      exact List.intercalate_splitOn '/'
  · rw [rdropWhile_dropLast_eq_iff (exists_not_isSkipped h)]
    refine and_congr_right fun _ => ⟨?_, ?_⟩
    · rintro ⟨t, ht, hcount⟩
      have hne : t ≠ [] := by
        rintro rfl
        cases hcount
      obtain ⟨rest, hpath, rfl⟩ := (splitOn_eq_append_iff hne).1 ht
      exact ⟨rest, hpath, hcount⟩
    · rintro ⟨rest, rfl, hcount⟩
      exact ⟨_, List.splitOn_append_cons_self .., hcount⟩

theorem dotted_iff : Dotted folder path ↔ EndsInName folder ∧
    ∃ rest, path = folder ++ '/' :: rest ∧ (rest.splitOn '/').countP (¬IsSkipped ·) = 1 ∧
      ['.'] ∈ rest.splitOn '/' := by
  constructor
  · rintro ⟨⟨rest, rfl⟩, hname, hcount, hdot⟩
    have hdrop : (folder ++ ['/'] ++ rest).drop (folder.length + 1) = rest :=
      List.drop_left' (by simp)
    rw [hdrop] at hcount hdot
    exact ⟨hname, rest, by simp, hcount, hdot⟩
  · rintro ⟨hname, rest, rfl, hcount, hdot⟩
    have hdrop : (folder ++ '/' :: rest).drop (folder.length + 1) = rest := by
      rw [List.append_cons]
      exact List.drop_left' (by simp)
    rw [Dotted, hdrop]
    exact ⟨⟨rest, by simp⟩, hname, hcount, hdot⟩

/-- By components, a path below the folder is in it if it goes on with one of them. -/
theorem liesIn_append_cons :
    LiesIn false folder (folder ++ '/' :: rest) ↔ (components '/' rest).length = 1 := by
  rw [LiesIn, if_neg (by decide), components_append_cons]
  generalize components '/' folder = front
  generalize components '/' rest = back
  constructor
  · rintro ⟨hne, heq⟩
    have hlength := congrArg List.length heq
    have hpos := List.length_pos_iff.2 hne
    rw [List.length_dropLast, List.length_append] at hlength
    rw [List.length_append] at hpos
    omega
  · intro h
    obtain ⟨x, rfl⟩ := List.length_eq_one_iff.1 h
    exact ⟨by simp, List.dropLast_concat⟩

/-- The components, and those of `std::path`: the others are dots. -/
theorem length_components (l : List Char) :
    (components '/' l).length = (l.splitOn '/').countP (¬IsSkipped ·) +
      (l.splitOn '/').count ['.'] := by
  rw [components, ← List.countP_eq_length_filter]
  induction l.splitOn '/' with
  | nil => rfl
  | cons segment segments ih =>
    rw [List.countP_cons, List.countP_cons, List.count_cons, ih]
    by_cases hnil : segment = []
    · simp [hnil, IsSkipped]
    · by_cases hdot : segment = ['.']
      · simp [hdot, IsSkipped]
        omega
      · simp [hnil, hdot, IsSkipped]
        omega

/-- A single name behind the folder is a single component, without dots beside it. -/
theorem liesIn_append_cons_iff (hcount : (rest.splitOn '/').countP (¬IsSkipped ·) = 1) :
    LiesIn false folder (folder ++ '/' :: rest) ↔ ['.'] ∉ rest.splitOn '/' := by
  rw [liesIn_append_cons, length_components, hcount, Nat.add_eq_left, List.count_eq_zero]

/-- With a single name behind the folder, the last component is a dot if any is. -/
theorem getLast?_components_ne_iff (h : (components '/' rest).length = 1) :
    (components '/' (folder ++ '/' :: rest)).getLast? ≠ some ['.'] ↔ ['.'] ∉ rest.splitOn '/' := by
  have hmem : ['.'] ∈ components '/' rest ↔ ['.'] ∈ rest.splitOn '/' := by simp [components]
  obtain ⟨x, hx⟩ := List.length_eq_one_iff.1 h
  rw [← hmem, components_append_cons, hx, List.getLast?_concat, List.mem_singleton, Ne,
    Option.some_inj, eq_comm]

/-- A folder that ends in a name does not end in a slash. -/
theorem EndsInName.not_suffix (h : EndsInName folder) : ¬['/'] <:+ folder := by
  rintro ⟨front, rfl⟩
  refine h [] ?_ (.inl rfl)
  rw [splitOn_concat, List.getLast?_concat]
  rfl

/-- A path in the folder with the same slashes goes on behind the folder. -/
theorem exists_of_liesIn (hname : EndsInName folder) (hlies : LiesIn false folder path)
    (halike : SeparatedAlike '/' folder path) : ∃ rest, path = folder ++ '/' :: rest := by
  have ⟨hne, hparent⟩ :
      components '/' path ≠ [] ∧ (components '/' path).dropLast = components '/' folder :=
    hlies
  have hcomp : components '/' folder <+: components '/' path := hparent ▸ List.dropLast_prefix _
  rw [SeparatedAlike, if_neg hname.not_suffix, ← splitOn_isPrefix_iff_gaps hcomp,
    splitOn_isPrefix_iff] at halike
  rcases halike with rfl | ⟨rest, heq⟩
  · -- The folder itself has one component less.
    have hlength := congrArg List.length hparent
    have hpos := List.length_pos_iff.2 hne
    rw [List.length_dropLast] at hlength
    omega
  · exact ⟨rest, by rw [← heq, List.append_assoc, List.singleton_append]⟩

/-- The parent of the path is the folder exactly if it is by components: but for dots, and
    for other slashes. -/
theorem parentChars_eq_iff_liesIn (hfolder : folder ≠ []) (h : Normal path) :
    ((parentChars path).getD [] = folder ↔ LiesIn false folder path) ↔
      JudgedByComponents false folder path := by
  rw [getD_parentChars_eq_iff hfolder h, JudgedByComponents, if_neg (by decide), dotted_iff]
  constructor
  · intro hiff
    constructor
    · rintro ⟨hname, rest, rfl, hcount, hdot⟩
      have hlies := hiff.1 ⟨hname, rest, rfl, hcount⟩
      exact (liesIn_append_cons_iff hcount).1 hlies hdot
    · intro hlies
      obtain ⟨hname, rest, rfl, hcount⟩ := hiff.2 hlies
      have hdot := (liesIn_append_cons_iff hcount).1 hlies
      have hprefix : folder ++ ['/'] <+: folder ++ '/' :: rest := ⟨rest, by simp⟩
      have hcomp : components '/' folder <+: components '/' (folder ++ '/' :: rest) := by
        rw [components_append_cons]
        exact List.prefix_append ..
      have halike : SeparatedAlike '/' folder (folder ++ '/' :: rest) :=
        (isPrefix_iff_separatedAlike hcomp fun hglued => hglued.2.2.2 hprefix).1
          (List.prefix_append ..)
      exact ⟨halike, hname, (getLast?_components_ne_iff (liesIn_append_cons.1 hlies)).2 hdot⟩
  · rintro ⟨hdotted, hcond⟩
    constructor
    · rintro ⟨hname, rest, rfl, hcount⟩
      have hdot : ['.'] ∉ rest.splitOn '/' := fun hdot => hdotted ⟨hname, rest, rfl, hcount, hdot⟩
      exact (liesIn_append_cons_iff hcount).2 hdot
    · intro hlies
      obtain ⟨halike, hname, hlast⟩ := hcond hlies
      obtain ⟨rest, rfl⟩ := exists_of_liesIn hname hlies halike
      have hlength := liesIn_append_cons.1 hlies
      have hdot := List.count_eq_zero.2 ((getLast?_components_ne_iff hlength).1 hlast)
      rw [length_components, hdot] at hlength
      exact ⟨hname, rest, rfl, hlength⟩

end

theorem validateFilePathWithWatcher_eq_ok_iff {watcher : WatcherData} {path : String} :
    validateFilePathWithWatcher (.ok watcher) path = .ok () ↔
      if watcher.recursivePath then
        (normalizePathPreserveTilde watcher.folder).toList <+: path.toList
      else
        (parentChars path.toList).getD [] =
          (normalizePathPreserveTilde watcher.folder).toList := by
  rw [validateFilePathWithWatcher]
  generalize normalizePathPreserveTilde watcher.folder = folder
  cases watcher.recursivePath with
  | true =>
    have hor : folder.toList <+: path.toList ∨ path = folder ↔ folder.toList <+: path.toList :=
      or_iff_left_of_imp fun h => h ▸ List.prefix_rfl
    simp [hor]
  | false =>
    have heq : String.ofList ((parentChars path.toList).getD []) = folder ↔
        (parentChars path.toList).getD [] = folder.toList := by
      rw [← String.toList_inj, String.toList_ofList]
    simp [heq]

/-- `validate_file_path_with_watcher` accepts a path for a watcher exactly if its folder
    contains it, by components; for the paths and folders that are judged so, and for no
    others. -/
theorem validateFilePathWithWatcher_iff (watcher : WatcherData) (filePath : String) :
    let folder := normalizePathPreserveTilde watcher.folder
    let path := normalizePathPreserveTilde filePath
    (validateFilePathWithWatcher (.ok watcher) path = .ok () ↔
        LiesIn watcher.recursivePath folder.toList path.toList) ↔
      JudgedByComponents watcher.recursivePath folder.toList path.toList := by
  intro folder path
  have hpath : Normal path.toList := by
    rw [toList_normalizePathPreserveTilde]
    exact normal_normalizeChars _
  have hfolder : folder.toList ≠ [] := by
    have hnormal := normal_normalizeChars watcher.folder.toList
    rw [← toList_normalizePathPreserveTilde] at hnormal
    obtain ⟨rest, heq⟩ := hnormal.exists_cons
    rw [heq]
    exact List.cons_ne_nil _ _
  rw [validateFilePathWithWatcher_eq_ok_iff]
  cases watcher.recursivePath with
  | true => exact isPrefix_iff_components hfolder
  | false => exact parentChars_eq_iff_liesIn hfolder hpath

/-- The file `~/docs2/a.txt` is accepted for a recursive watcher of `~/docs`. -/
theorem validateFilePathWithWatcher_sibling :
    let watcher := { watcherAt "~/docs" with recursivePath := true }
    validateFilePathWithWatcher (.ok watcher)
      (normalizePathPreserveTilde "~/docs2/a.txt") = .ok () ∧
      ¬LiesIn watcher.recursivePath (normalizePathPreserveTilde watcher.folder).toList
        (normalizePathPreserveTilde "~/docs2/a.txt").toList := by
  decide

/-- For another one, a file in the home directory is not in the home folder. -/
example : ¬JudgedByComponents false "~/".toList "~/a.txt".toList := by decide

end CosmicSync
