import CosmicSync.Library.Segments
import CosmicSync.Utils.Normalization
import CosmicSync.Handlers.WatcherHandler

/-!
# The folder of a watcher, as it is checked and as it is stored

`validate_watcher_folder` refuses segments of digits in the folder that the client sends;
the watcher is stored with the normalised folder. Between the two the folder is trimmed, and
the name of a user is dropped. Hence a segment of digits at the start or at the end of the
folder passes if there is white space around it, and is stored without that.

* `Refused`: a segment is not allowed.
* `StoredAsChecked`: the trimmed folders that are not refused once they are stored.
-/

namespace CosmicSync

open Segments WatcherStore

variable {rules : FolderRules}

/-! ## Segments -/

/-- A segment of the path is not allowed. -/
def Refused (rules : FolderRules) (l : List Char) : Prop :=
  ∃ segment ∈ l.splitOn '/', rules.Rejects segment

/-- What stands before the first slash. -/
def firstSegment (l : List Char) : List Char := l.takeWhile (· ≠ '/')

/-- What stands after the last slash. -/
def lastSegment (l : List Char) : List Char := l.rtakeWhile (· ≠ '/')

theorem validateWatcherFolder_eq_ok_iff (hoff : rules.allowNumeric.getD "0" ≠ "1")
    {folder : String} :
    validateWatcherFolder rules folder = .ok () ↔ ¬Refused rules folder.toList := by
  rw [validateWatcherFolder, if_neg hoff]
  split
  next segment h =>
    have hmem := List.mem_of_find?_eq_some h
    have hrejects := List.find?_some h
    exact iff_of_false (fun h => by cases h)
      (not_not_intro ⟨segment, hmem, by simpa using hrejects⟩)
  next h =>
    rw [List.find?_eq_none] at h
    exact iff_of_true rfl fun ⟨segment, hmem, hrejects⟩ => h segment hmem (by simpa using hrejects)

section

variable {a b t : List Char}

theorem refused_append_cons :
    Refused rules (a ++ '/' :: b) ↔ Refused rules a ∨ Refused rules b := by
  simp only [Refused, List.splitOn_append_cons_self, List.mem_append, or_and_right, exists_or]

theorem refused_of_not_mem (h : '/' ∉ a) : Refused rules a ↔ rules.Rejects a := by
  simp only [Refused, List.splitOn_eq_singleton h, List.mem_singleton, exists_eq_left]

@[simp]
theorem not_refused_nil : ¬Refused rules [] := by
  rw [refused_of_not_mem (by decide)]
  exact fun h => h.1 rfl

theorem refused_cons : Refused rules ('/' :: b) ↔ Refused rules b := by
  have h : Refused rules ([] ++ '/' :: b) ↔ _ := refused_append_cons
  rwa [or_iff_right not_refused_nil] at h

@[simp]
theorem not_refused_tilde : ¬Refused rules ['~'] := by
  rw [refused_of_not_mem (by decide)]
  exact fun h => h.2.1 rfl

@[simp]
theorem not_refused_dot : ¬Refused rules ['.'] := by
  rw [refused_of_not_mem (by decide)]
  exact fun h => h.2.2.1 rfl

/-- A folder below the tilde. -/
theorem refused_tilde_cons : Refused rules ('~' :: '/' :: b) ↔ Refused rules b := by
  have h : Refused rules (['~'] ++ '/' :: b) ↔ _ := refused_append_cons
  rwa [or_iff_right not_refused_tilde] at h

theorem refused_dot_cons : Refused rules ('.' :: '/' :: b) ↔ Refused rules b := by
  have h : Refused rules (['.'] ++ '/' :: b) ↔ _ := refused_append_cons
  rwa [or_iff_right not_refused_dot] at h

theorem firstSegment_of_not_mem (h : '/' ∉ a) : firstSegment a = a :=
  List.takeWhile_eq_self_iff.mpr fun c hc => by simpa using ne_of_mem_of_not_mem hc h

theorem lastSegment_of_not_mem (h : '/' ∉ a) : lastSegment a = a :=
  List.rtakeWhile_eq_self_iff.mpr fun c hc => by simpa using ne_of_mem_of_not_mem hc h

theorem firstSegment_append_cons (h : '/' ∉ a) : firstSegment (a ++ '/' :: b) = a := by
  rw [firstSegment,
    List.takeWhile_append_of_pos fun c hc => by simpa using ne_of_mem_of_not_mem hc h,
    List.takeWhile_cons_of_neg (by simp), List.append_nil]

theorem lastSegment_append_cons : lastSegment (a ++ '/' :: b) = lastSegment b := by
  simp only [lastSegment]
  induction b using List.reverseRecOn with
  | nil => rw [List.rtakeWhile_concat_neg _ _ _ (by simp), List.rtakeWhile_nil]
  | append_singleton b c ih =>
    rw [← List.cons_append, ← List.append_assoc, List.rtakeWhile_concat, List.rtakeWhile_concat, ih]

/-- No slash is trimmed. -/
theorem exists_eq_append_trim (t : List Char) :
    ∃ front back, t = front ++ trim t ++ back ∧ '/' ∉ front ∧ '/' ∉ back := by
  refine ⟨t.takeWhile isWhitespace, (t.dropWhile isWhitespace).rtakeWhile isWhitespace, ?_, ?_, ?_⟩
  · rw [trim, List.append_assoc, List.rdropWhile_append_rtakeWhile, List.takeWhile_append_dropWhile]
  · exact fun h => absurd (List.mem_takeWhile_imp h) (by decide)
  · exact fun h => absurd (List.mem_rtakeWhile_imp h) (by decide)

/-- A folder that is not refused as it is sent, but trimmed. -/
theorem refused_trim_iff (h : ¬Refused rules t) :
    Refused rules (trim t) ↔ rules.Rejects (firstSegment (trim t)) ∨
      rules.Rejects (lastSegment (trim t)) := by
  obtain ⟨front, back, heq, -, -⟩ := exists_eq_append_trim t
  generalize trim t = u at heq ⊢
  subst heq
  by_cases hmem : '/' ∈ u
  · obtain ⟨first, rest, rfl, hfirst⟩ := List.eq_append_cons_of_mem hmem
    rw [firstSegment_append_cons hfirst, lastSegment_append_cons, refused_append_cons,
      refused_of_not_mem hfirst, or_congr_right]
    by_cases hrest : '/' ∈ rest
    · -- What stands between two slashes is a segment of the folder as it is sent.
      obtain ⟨middle, last, rfl, hlast⟩ := exists_eq_append_cons_last hrest
      have hmiddle : ¬Refused rules middle := by
        intro hmiddle
        refine h ?_
        simp only [List.append_assoc, List.cons_append]
        rw [← List.append_assoc, refused_append_cons, refused_append_cons]
        exact .inr (.inl hmiddle)
      rw [lastSegment_append_cons, lastSegment_of_not_mem hlast, refused_append_cons,
        refused_of_not_mem hlast, or_iff_right hmiddle]
    · rw [lastSegment_of_not_mem hrest, refused_of_not_mem hrest]
  · rw [firstSegment_of_not_mem hmem, lastSegment_of_not_mem hmem, refused_of_not_mem hmem, or_self]

/-! ## The folder that is stored -/

/-- A trimmed folder without segments of digits at its ends, unless the last is the name of
    a user. -/
def StoredAsChecked (rules : FolderRules) (t : List Char) : Prop :=
  ¬rules.Rejects (firstSegment t) ∧
    (rules.Rejects (lastSegment t) → "/home/".toList <+: t ∧ afterUser t = [])

instance (t : List Char) : Decidable (StoredAsChecked rules t) :=
  inferInstanceAs (Decidable (_ ∧ _))

theorem storedAsChecked_iff (h : ¬Refused rules a)
    (huser : ¬("/home/".toList <+: trim a ∧ afterUser (trim a) = [])) :
    StoredAsChecked rules (trim a) ↔ ¬Refused rules (trim a) := by
  rw [refused_trim_iff h, not_or, StoredAsChecked, imp_iff_not huser]

/-- Outside of `/home/` only the dot and the tilde are dropped or added. -/
theorem Normalizes.refused_iff {l : List Char} (hl : Normalizes t l)
    (hhome : ¬"/home/".toList <+: t) : Refused rules l ↔ Refused rules t := by
  cases hl with
  | home h =>
    have hl : ¬Refused rules ['~', '/'] := by simp [refused_tilde_cons]
    refine iff_of_false hl ?_
    rcases h with rfl | rfl | rfl <;> simp [refused_tilde_cons]
  | kept _ => exact .rfl
  | user h _ | below h _ _ => exact absurd h hhome
  | root => simp [refused_cons]
  | absolute _ _ => simp [refused_tilde_cons, refused_cons]
  | current => simp [refused_dot_cons]
  | relative _ => rw [refused_tilde_cons, refused_dot_cons]
  | name _ _ _ _ _ => exact refused_tilde_cons

/-- Below the directory of a user. -/
theorem refused_afterUser_iff (h : ¬Refused rules a) (hhome : "/home/".toList <+: trim a)
    (hafter : afterUser (trim a) = '/' :: b) : Refused rules b ↔ Refused rules (trim a) := by
  obtain ⟨user, huser⟩ : ∃ user, trim a = '/' :: user ++ '/' :: b := by
    obtain ⟨rest, hrest⟩ := hhome
    rw [← hrest, afterUser, List.drop_append_of_le_length (by decide)] at hafter
    replace hafter : rest.dropWhile (· ≠ '/') = '/' :: b := hafter
    refine ⟨"home/".toList ++ rest.takeWhile (· ≠ '/'), ?_⟩
    rw [← hrest, ← hafter, List.cons_append, List.append_assoc, List.takeWhile_append_dropWhile]
    rfl
  -- The name of the user stands between two slashes in the folder as it is sent.
  have hnot : ¬Refused rules user := by
    obtain ⟨front, back, heq, -, -⟩ := exists_eq_append_trim a
    intro hrefused
    rw [heq, huser] at h
    refine h ?_
    simp only [List.append_assoc, List.cons_append]
    rw [refused_append_cons, refused_append_cons]
    exact .inr (.inl hrefused)
  rw [huser, refused_append_cons, refused_cons, or_iff_right hnot]

/-- A folder that is not refused as it is sent is not refused as it is stored either, exactly
    when trimming uncovers no segment of digits. -/
theorem refused_normalizeChars_iff (h : ¬Refused rules a) :
    ¬Refused rules (normalizeChars a) ↔ StoredAsChecked rules (trim a) := by
  have hl := normalizes a
  by_cases hhome : "/home/".toList <+: trim a
  · rcases hl.home_cases hhome with ⟨heq, hafter⟩ | ⟨rest, hafter, heq⟩
    · rw [heq]
      refine iff_of_true not_refused_tilde ?_
      rcases hafter with hnil | hslash
      · have hfirst : firstSegment (trim a) = [] := by
          obtain ⟨rest, hrest⟩ := hhome
          rw [← hrest]
          rfl
        refine ⟨fun h => ?_, fun _ => ⟨hhome, hnil⟩⟩
        rw [hfirst] at h
        exact h.1 rfl
      · have huser : ¬("/home/".toList <+: trim a ∧ afterUser (trim a) = []) := by simp [hslash]
        rw [storedAsChecked_iff h huser, ← refused_afterUser_iff h hhome hslash]
        exact not_refused_nil
    · have huser : ¬("/home/".toList <+: trim a ∧ afterUser (trim a) = []) := by simp [hafter]
      rw [heq, refused_tilde_cons, refused_afterUser_iff h hhome hafter,
        storedAsChecked_iff h huser]
  · rw [storedAsChecked_iff h fun huser => hhome huser.1, hl.refused_iff hhome]

end

/-- A folder that passes the check is stored as one that passes it, exactly when its first and
    its last segment, trimmed, are not segments of digits that are not allowed. The name of a
    user is not stored. -/
theorem validateWatcherFolder_newWatcher_iff (hoff : rules.allowNumeric.getD "0" ≠ "1") (nextId : ℕ)
    (accountHash : String) (dbGroupId groupId : ℤ) (data : WatcherData) (timestamp : ℤ)
    (h : validateWatcherFolder rules data.folder = .ok ()) :
    validateWatcherFolder rules
      (newWatcher nextId accountHash dbGroupId groupId data timestamp).folder = .ok () ↔
      StoredAsChecked rules (trim data.folder.toList) := by
  rw [validateWatcherFolder_eq_ok_iff hoff] at h ⊢
  rw [newWatcher, toList_normalizePathPreserveTilde, refused_normalizeChars_iff h]

/-- The folder of a watcher with no conditions. -/
def watcherAt (folder : String) : WatcherData :=
  ⟨1, folder, [], [], false, false, "", "", true, ""⟩

theorem validateWatcherFolder_newWatcher_docs :
    FolderRules.unset.allowNumeric.getD "0" ≠ "1" ∧
      validateWatcherFolder .unset " ~/docs " = .ok () ∧
      (validateWatcherFolder .unset (newWatcher 1 "account" 1 1 (watcherAt " ~/docs ") 0).folder =
        .ok () ↔
        StoredAsChecked .unset (trim " ~/docs ".toList)) :=
  ⟨by decide, by decide,
    validateWatcherFolder_newWatcher_iff (by decide) 1 "account" 1 1 (watcherAt " ~/docs ") 0
      (by decide)⟩

/-- The folder ` 2024` passes the check, and is stored as `~/2024`, which does not. -/
theorem validateWatcherFolder_newWatcher_digits :
    FolderRules.unset.allowNumeric.getD "0" ≠ "1" ∧ validateWatcherFolder .unset " 2024" = .ok () ∧
      validateWatcherFolder .unset (newWatcher 1 "account" 1 1 (watcherAt " 2024") 0).folder ≠
        .ok () := by
  decide

end CosmicSync
