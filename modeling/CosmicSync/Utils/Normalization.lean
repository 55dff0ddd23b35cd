import CosmicSync.Utils.Text

/-!
# What normalised paths look like

`normalize_path_preserve_tilde` tells a dozen kinds of paths apart by how they begin. The
paths that it gives begin with a tilde, and are kept when they are normalised again; except
for `~` and `~/.`, which become `~/`. These are what it makes of some of the paths that name
the home directory, or the root.

* `Normalizes`: what becomes of a trimmed path, one case for each branch.
* `Normal`: the paths that it gives.
* `NamesHome`: the paths that are not normalised once and for all.
-/

namespace CosmicSync

/-! ## Trimming -/

/-- There is no white space at the end. -/
def EndsPlain (l : List Char) : Prop := ∀ h : l ≠ [], ¬isWhitespace (l.getLast h)

section

variable {l t path : List Char} {c : Char}

theorem EndsPlain.of_suffix (ht : EndsPlain t) (h : l <:+ t) : EndsPlain l := by
  intro hl
  obtain ⟨front, rfl⟩ := h
  have hlast := ht (List.append_ne_nil_of_right_ne_nil _ hl)
  rwa [List.getLast_append_of_right_ne_nil _ _ hl] at hlast

theorem EndsPlain.cons (hl : EndsPlain l) (hc : isWhitespace c = false) : EndsPlain (c :: l) := by
  intro hne
  rcases l with _ | ⟨d, l⟩
  · simpa using hc
  · rw [List.getLast_cons (List.cons_ne_nil d l)]
    exact hl _

theorem endsPlain_trim (l : List Char) : EndsPlain (trim l) :=
  fun h => List.rdropWhile_last_not _ _ h

/-- A text with nothing to trim at either end. -/
theorem trim_cons (hc : isWhitespace c = false) (hl : EndsPlain (c :: l)) :
    trim (c :: l) = c :: l := by
  rw [trim, List.dropWhile_cons_of_neg (by simpa using hc), List.rdropWhile_eq_self_iff]
  exact hl

/-! ## The branches -/

/-- What follows the name of the user in a path below `/home/`. -/
def afterUser (t : List Char) : List Char := (t.drop 6).dropWhile (· ≠ '/')

/-- What becomes of a trimmed path. -/
inductive Normalizes : List Char → List Char → Prop
  | home {t : List Char} (h : t = [] ∨ t = ['~'] ∨ t = ['~', '/', '.']) : Normalizes t ['~', '/']
  | kept {rest : List Char} (h : rest ≠ ['.']) :
    Normalizes ('~' :: '/' :: rest) ('~' :: '/' :: rest)
  | user {t : List Char} (hhome : "/home/".toList <+: t)
    (h : afterUser t = [] ∨ afterUser t = ['/']) : Normalizes t ['~']
  | below {t rest : List Char} (hhome : "/home/".toList <+: t) (h : afterUser t = '/' :: rest)
    (hne : rest ≠ []) : Normalizes t ('~' :: '/' :: rest)
  | root : Normalizes ['/'] ['~']
  | absolute {rest : List Char} (hhome : ¬"/home/".toList <+: '/' :: rest) (hne : rest ≠ []) :
    Normalizes ('/' :: rest) ('~' :: '/' :: rest)
  | current : Normalizes ['.', '/'] ['~']
  | relative {rest : List Char} (hne : rest ≠ []) :
    Normalizes ('.' :: '/' :: rest) ('~' :: '/' :: rest)
  | name {t : List Char} (hne : t ≠ []) (htilde : t ≠ ['~']) (hbelow : ¬['~', '/'] <+: t)
    (habsolute : ¬['/'] <+: t) (hcurrent : ¬['.', '/'] <+: t) : Normalizes t ('~' :: '/' :: t)

theorem afterUser_suffix (t : List Char) : afterUser t <:+ t :=
  (List.dropWhile_suffix _).trans (List.drop_suffix 6 t)

theorem afterUser_eq_nil_or (t : List Char) :
    afterUser t = [] ∨ ∃ rest, afterUser t = '/' :: rest := by
  have hhead := List.head?_dropWhile_not (fun c => decide (c ≠ '/')) (t.drop 6)
  rw [← afterUser] at hhead
  rcases h : afterUser t with _ | ⟨c, rest⟩
  · exact .inl rfl
  · rw [h] at hhead
    exact .inr ⟨rest, by simpa using hhead⟩

theorem normalizes_absolute (h : ['/'] <+: t) : Normalizes t (normalizeAbsolute t) := by
  obtain ⟨rest, rfl⟩ := h
  rw [List.singleton_append, normalizeAbsolute]
  split
  next hhome =>
    split
    next hlength =>
      -- Nothing is left behind `/home/`.
      have hnil : afterUser ('/' :: rest) = [] := by
        rw [afterUser, List.drop_eq_nil_of_le hlength, List.dropWhile_nil]
      exact .user hhome (.inl hnil)
    next =>
      dsimp only
      rw [← afterUser]
      split
      next hafter => exact .user hhome hafter
      next hafter =>
        rw [not_or] at hafter
        rcases afterUser_eq_nil_or ('/' :: rest) with hnil | ⟨below, heq⟩
        · exact absurd hnil hafter.1
        · rw [heq] at hafter ⊢
          exact .below hhome heq fun hnil => hafter.2 (by rw [hnil])
  next hhome =>
    split
    next hroot =>
      rw [hroot]
      exact .root
    next hroot =>
      exact .absolute hhome fun hnil => hroot (by rw [hnil])

theorem normalizes (path : List Char) : Normalizes (trim path) (normalizeChars path) := by
  rw [normalizeChars]
  split
  next hempty =>
    have hnil : trim path = [] := by
      rcases hempty with rfl | hnil
      · rfl
      · exact hnil
    exact .home (.inl hnil)
  split
  next htilde => exact .home (.inr htilde)
  split
  next htilde hbelow =>
    obtain ⟨rest, heq⟩ := hbelow
    rw [← heq] at htilde ⊢
    have hdot : rest ≠ ['.'] := by
      rintro rfl
      exact htilde (.inr rfl)
    exact .kept hdot
  split
  next habsolute => exact normalizes_absolute habsolute
  split
  next hcurrent =>
    obtain ⟨rest, heq⟩ := hcurrent
    rw [← heq]
    split
    next hlength =>
      have hnil : rest = [] := List.eq_nil_of_length_eq_zero (by simpa using hlength)
      rw [hnil]
      exact .current
    next hlength =>
      have hne : rest ≠ [] := by
        rintro rfl
        exact hlength (by decide)
      exact .relative hne
  next hempty htilde hbelow habsolute hcurrent =>
    rw [not_or] at hempty htilde
    exact .name hempty.2 htilde.1 hbelow habsolute hcurrent

/-- What becomes of a path below `/home/`. -/
theorem Normalizes.home_cases (h : Normalizes t l) (hhome : "/home/".toList <+: t) :
    l = ['~'] ∧ (afterUser t = [] ∨ afterUser t = ['/']) ∨
      ∃ rest, afterUser t = '/' :: rest ∧ l = '~' :: '/' :: rest := by
  cases h with
  | home h => rcases h with rfl | rfl | rfl <;> exact absurd hhome (by decide)
  | user _ h => exact .inl ⟨rfl, h⟩
  | below _ h _ => exact .inr ⟨_, h, rfl⟩
  | root | current => exact absurd hhome (by decide)
  | absolute hnot _ => exact absurd hhome hnot
  | kept _ | relative _ =>
    obtain ⟨rest, heq⟩ := hhome
    cases heq
  | name _ _ _ habsolute _ => exact absurd (.trans ⟨_, rfl⟩ hhome) habsolute

/-! ## Normalised paths -/

/-- A path as `normalize_path_preserve_tilde` gives it. -/
def Normal (l : List Char) : Prop := l = ['~'] ∨ ['~', '/'] <+: l ∧ trim l = l

theorem normal_home (hl : EndsPlain l) : Normal ('~' :: '/' :: l) :=
  .inr ⟨⟨l, rfl⟩, trim_cons (by decide) ((hl.cons (by decide)).cons (by decide))⟩

theorem Normalizes.normal (h : Normalizes t l) (ht : EndsPlain t) : Normal l := by
  cases h with
  | home _ => exact .inr (by decide)
  | user _ _ | root | current => exact .inl rfl
  | kept _ | relative _ => exact normal_home (ht.of_suffix ⟨[_, _], rfl⟩)
  | absolute _ _ => exact normal_home (ht.of_suffix ⟨[_], rfl⟩)
  | below _ hafter _ =>
    have hsuffix := afterUser_suffix t
    rw [hafter] at hsuffix
    exact normal_home (ht.of_suffix ((List.suffix_cons _ _).trans hsuffix))
  | name _ _ _ _ _ => exact normal_home ht

theorem normal_normalizeChars (path : List Char) : Normal (normalizeChars path) :=
  (normalizes path).normal (endsPlain_trim path)

/-- A normalised path is kept; unless it is `~` or `~/.`. -/
theorem Normal.normalizeChars (h : Normal l) :
    normalizeChars l = if l = ['~'] ∨ l = ['~', '/', '.'] then ['~', '/'] else l := by
  rcases h with rfl | ⟨⟨rest, rfl⟩, htrim⟩
  · decide
  · have hne : ['~', '/'] ++ rest ≠ [] := List.cons_ne_nil _ _
    have hbelow : "~/".toList <+: ['~', '/'] ++ rest := ⟨rest, rfl⟩
    rw [CosmicSync.normalizeChars, htrim, if_neg (not_or.mpr ⟨hne, hne⟩), if_pos hbelow]
    rfl

/-- The trimmed paths that become `~` or `~/.`: the root and the current directory, and the
    home directory of a user. -/
def NamesHome (t : List Char) : Prop :=
  t ∈ [['/'], ['.'], ['/', '.'], ['.', '/'], ['.', '/', '.']] ∨
    "/home/".toList <+: t ∧ afterUser t ∈ [[], ['/'], ['/', '.']]

instance (t : List Char) : Decidable (NamesHome t) :=
  inferInstanceAs (Decidable (_ ∨ _))

theorem namesHome_home (hhome : "/home/".toList <+: t) :
    NamesHome t ↔ afterUser t ∈ [[], ['/'], ['/', '.']] := by
  rw [NamesHome, and_iff_right hhome, or_iff_right]
  obtain ⟨user, rfl⟩ := hhome
  simp

theorem namesHome_elsewhere (hhome : ¬"/home/".toList <+: t) :
    NamesHome t ↔ t ∈ [['/'], ['.'], ['/', '.'], ['.', '/'], ['.', '/', '.']] := by
  rw [NamesHome, or_iff_left fun h => hhome h.1]

theorem Normalizes.eq_iff_namesHome (h : Normalizes t l) :
    l = ['~'] ∨ l = ['~', '/', '.'] ↔ NamesHome t := by
  cases h with
  | home h => rcases h with rfl | rfl | rfl <;> decide
  | kept h => simp [NamesHome, h]
  | user hhome h =>
    rw [namesHome_home hhome]
    rcases h with h | h <;> simp [h]
  | below hhome h hne =>
    rw [namesHome_home hhome]
    simp [h, hne]
  | root => decide
  | absolute hhome hne =>
    rw [namesHome_elsewhere hhome]
    simp [hne]
  | current => decide
  | relative hne => simp [NamesHome, hne]
  | name hne htilde hbelow habsolute hcurrent =>
    have hhome : ¬"/home/".toList <+: t := fun h => habsolute (.trans ⟨_, rfl⟩ h)
    rw [namesHome_elsewhere hhome]
    -- Of the five, only `.` does not begin with a slash, or with `./`.
    constructor
    · intro h
      have ht : t = ['.'] := by simpa using h
      simp [ht]
    · intro h
      simp only [List.mem_cons, List.not_mem_nil, or_false] at h
      rcases h with rfl | rfl | rfl | rfl | rfl
      · exact absurd ⟨[], rfl⟩ habsolute
      · exact .inr rfl
      · exact absurd ⟨['.'], rfl⟩ habsolute
      · exact absurd ⟨[], rfl⟩ hcurrent
      · exact absurd ⟨['.'], rfl⟩ hcurrent

@[simp]
theorem toList_normalizePathPreserveTilde (p : String) :
    (normalizePathPreserveTilde p).toList = normalizeChars p.toList := String.toList_ofList

theorem normalizeChars_normalizeChars_eq_iff (path : List Char) :
    normalizeChars (normalizeChars path) = normalizeChars path ↔ ¬NamesHome (trim path) := by
  rw [(normal_normalizeChars path).normalizeChars, ← (normalizes path).eq_iff_namesHome]
  split
  next h =>
    refine iff_of_false (fun heq => ?_) (not_not_intro h)
    rw [← heq] at h
    revert h
    decide
  next h => exact iff_of_true rfl h

/-- A path that is normalised twice is what it is normalised once, and stands below the
    tilde; except for what names the home directory or the root. -/
theorem normalizePathPreserveTilde_idempotent_iff (p : String) :
    (normalizePathPreserveTilde (normalizePathPreserveTilde p) = normalizePathPreserveTilde p ∧
      (normalizePathPreserveTilde p = "~" ∨
        "~/".toList <+: (normalizePathPreserveTilde p).toList)) ↔
    ¬NamesHome (trim p.toList) := by
  have htilde : normalizePathPreserveTilde p = "~" ∨
      "~/".toList <+: (normalizePathPreserveTilde p).toList := by
    rcases normal_normalizeChars p.toList with h | ⟨h, -⟩
    · rw [normalizePathPreserveTilde, h]
      exact .inl rfl
    · rw [toList_normalizePathPreserveTilde]
      exact .inr h
  rw [and_iff_left htilde, ← normalizeChars_normalizeChars_eq_iff, ← String.toList_inj]
  simp only [toList_normalizePathPreserveTilde]

/-- The root is normalised to `~`, and that to `~/`. -/
theorem normalizePathPreserveTilde_root :
    ¬(normalizePathPreserveTilde (normalizePathPreserveTilde "/") = normalizePathPreserveTilde "/" ∧
      (normalizePathPreserveTilde "/" = "~" ∨
        "~/".toList <+: (normalizePathPreserveTilde "/").toList)) := by
  decide

end

end CosmicSync
