import Mathlib.Data.List.Basic
import Mathlib.Data.List.DropRight
import Mathlib.Data.Set.Function

/-!
# Segments

A list is cut into segments by a separator (`List.splitOn`). Its *components* are the
segments that are not empty, and its *gaps* tell which segments are: those where separators
follow each other, or stand at an end.

Whether a list begins with another is not whether its components begin with those of the
other. The two differ where the last component of the other is glued to what follows it
(`Glued`), and where the lists have different separators between the same components
(`SeparatedAlike`); and only there (`isPrefix_iff_components`).

Words that are joined by a separator may contain it. Where they have one width they can be told
from the text all the same (`intercalate_inj`), and so can whether the words of one text go on
behind those of another (`intercalate_concat_isPrefix_iff`).
-/

namespace Segments

variable {α : Type*} {sep : α} {l : List α}

/-! ## Lists -/

theorem exists_eq_append_cons_last (h : sep ∈ l) :
    ∃ front last, l = front ++ sep :: last ∧ sep ∉ last := by
  obtain ⟨last, front, heq, hlast⟩ := List.eq_append_cons_of_mem (List.mem_reverse.mpr h)
  refine ⟨front.reverse, last.reverse, ?_, by simpa using hlast⟩
  rw [← List.reverse_reverse l, heq]
  simp

/-- The first separator tells what stands before it from what follows. -/
theorem append_cons_inj {l' w w' : List α} (hw : sep ∉ w) (hw' : sep ∉ w') :
    w ++ sep :: l = w' ++ sep :: l' ↔ w = w' ∧ l = l' := by
  constructor
  · intro h
    induction w generalizing w' with
    | nil =>
      rcases w' with _ | ⟨b, w'⟩
      · exact ⟨rfl, (List.cons.inj h).2⟩
      · exact absurd ((List.cons.inj h).1 ▸ List.mem_cons_self) hw'
    | cons a w ih =>
      rcases w' with _ | ⟨b, w'⟩
      · exact absurd ((List.cons.inj h).1 ▸ List.mem_cons_self) hw
      · obtain ⟨rfl, htail⟩ := List.cons.inj h
        obtain ⟨rfl, hl⟩ := ih (fun hmem => hw (List.mem_cons_of_mem _ hmem))
          (fun hmem => hw' (List.mem_cons_of_mem _ hmem)) htail
        exact ⟨rfl, hl⟩
  · rintro ⟨rfl, rfl⟩
    rfl

/-- Lists of lists that are empty in the same places, and agree elsewhere. -/
theorem isPrefix_of_isEmpty {s t : List (List α)}
    (hempty : s.map List.isEmpty <+: t.map List.isEmpty)
    (h : s.filter (· ≠ []) <+: t.filter (· ≠ [])) : s <+: t := by
  induction s generalizing t with
  | nil => exact List.nil_prefix
  | cons a s ih =>
    rcases t with _ | ⟨b, t⟩
    · exact absurd (List.prefix_nil.1 hempty) (List.cons_ne_nil _ _)
    · rw [List.map_cons, List.map_cons, List.cons_prefix_cons] at hempty
      rw [List.cons_prefix_cons]
      rcases a with _ | ⟨x, a⟩
      · obtain rfl : b = [] := List.isEmpty_iff.1 hempty.1.symm
        exact ⟨rfl, ih hempty.2 h⟩
      · rcases b with _ | ⟨y, b⟩
        · cases hempty.1
        · rw [List.filter_cons_of_pos (by simp), List.filter_cons_of_pos (by simp),
            List.cons_prefix_cons] at h
          exact ⟨h.1, ih hempty.2 h.2⟩

/-- A map that tells the members of both lists apart. -/
theorem map_isPrefix_map_iff {β : Type*} {f : α → β} {l m : List α}
    (hf : Set.InjOn f {a | a ∈ l ∨ a ∈ m}) : l.map f <+: m.map f ↔ l <+: m := by
  induction l generalizing m with
  | nil => exact iff_of_true List.nil_prefix List.nil_prefix
  | cons a l ih =>
    rcases m with _ | ⟨b, m⟩
    · simp
    · have htail : Set.InjOn f {a | a ∈ l ∨ a ∈ m} :=
        hf.mono fun c hc => hc.imp (List.mem_cons_of_mem _) (List.mem_cons_of_mem _)
      rw [List.map_cons, List.map_cons, List.cons_prefix_cons, List.cons_prefix_cons,
        hf.eq_iff (.inl List.mem_cons_self) (.inr List.mem_cons_self), ih htail]

theorem map_inj_of_injOn {β : Type*} {f : α → β} {l m : List α}
    (hf : Set.InjOn f {a | a ∈ l ∨ a ∈ m}) : l.map f = m.map f ↔ l = m := by
  refine ⟨fun h => ?_, congrArg _⟩
  have hlength : l.length = m.length := by simpa using congrArg List.length h
  exact ((map_isPrefix_map_iff hf).1 (h ▸ List.prefix_rfl)).eq_of_length hlength

/-! ## Words of one width -/

section

variable {n : ℕ} {w u rest rest' : List α} {s t : List (List α)}

theorem append_isPrefix_append_iff (h : w.length = u.length) :
    w ++ rest <+: u ++ rest' ↔ w = u ∧ rest <+: rest' := by
  constructor
  · rintro ⟨more, heq⟩
    rw [List.append_assoc] at heq
    obtain ⟨rfl, hrest⟩ := List.append_inj heq h
    exact ⟨rfl, more, hrest⟩
  · rintro ⟨rfl, hrest⟩
    exact (List.prefix_append_right_inj w).2 hrest

/-- Words of one width, one behind the other. -/
theorem flatten_isPrefix_iff (hn : 0 < n) (hs : ∀ w ∈ s, w.length = n)
    (ht : ∀ w ∈ t, w.length = n) : s.flatten <+: t.flatten ↔ s <+: t := by
  induction s generalizing t with
  | nil => exact iff_of_true List.nil_prefix List.nil_prefix
  | cons w s ih =>
    have hw : w.length = n := hs w List.mem_cons_self
    rcases t with _ | ⟨u, t⟩
    · have hne : w ≠ [] := List.ne_nil_of_length_pos (hw ▸ hn)
      simp [hne]
    · have hu : u.length = n := ht u List.mem_cons_self
      rw [List.flatten_cons, List.flatten_cons, append_isPrefix_append_iff (hw.trans hu.symm),
        List.cons_prefix_cons, ih (fun w hw => hs w (List.mem_cons_of_mem _ hw)) fun w hw =>
          ht w (List.mem_cons_of_mem _ hw)]

theorem length_flatten_of_width (hs : ∀ w ∈ s, w.length = n) : s.flatten.length = s.length * n := by
  have hwidth : s.map List.length = List.replicate s.length n :=
    List.eq_replicate_iff.2 ⟨List.length_map _, by simpa using hs⟩
  rw [List.length_flatten, hwidth, List.sum_replicate_nat]

theorem length_flatten_concat (sep : α) (hs : ∀ w ∈ s, w.length = n) :
    (s.map (· ++ [sep])).flatten.length = s.length * (n + 1) := by
  rw [length_flatten_of_width (n := n + 1) (by simpa using hs), List.length_map]

theorem flatten_concat_isPrefix_iff (sep : α) (hs : ∀ w ∈ s, w.length = n)
    (ht : ∀ w ∈ t, w.length = n) :
    (s.map (· ++ [sep])).flatten <+: (t.map (· ++ [sep])).flatten ↔ s <+: t := by
  rw [flatten_isPrefix_iff n.succ_pos (by simpa using hs) (by simpa using ht),
    List.prefix_map_iff_of_injective (List.append_left_injective [sep])]

/-- With a separator behind the last word too, the separators belong to the words. -/
theorem intercalate_concat (sep : α) (hne : s ≠ []) :
    [sep].intercalate s ++ [sep] = (s.map (· ++ [sep])).flatten := by
  induction s with
  | nil => exact absurd rfl hne
  | cons w s ih =>
    rcases s with _ | ⟨u, s⟩
    · simp
    · rw [List.intercalate_cons_cons, List.append_assoc, ih (List.cons_ne_nil u s)]
      rfl

theorem length_intercalate (hs : ∀ w ∈ s, w.length = n) :
    ([sep].intercalate s).length = s.length * (n + 1) - 1 := by
  by_cases hne : s = []
  · rw [hne]
    simp
  · have hlength := congrArg List.length (intercalate_concat sep hne)
    rw [length_flatten_concat sep hs, List.length_append, List.length_singleton] at hlength
    omega

theorem le_length_intercalate (sep : α) {k : ℕ} (ht : ∀ w ∈ t, w.length = n) (hk : k < t.length) :
    k * (n + 1) + n ≤ ([sep].intercalate t).length := by
  have hle : (k + 1) * (n + 1) ≤ t.length * (n + 1) := Nat.mul_le_mul_right _ hk
  rw [Nat.succ_mul] at hle
  rw [length_intercalate ht]
  omega

/-- A text of joined words goes on behind another and a separator exactly if its words go on
    behind those of the other. -/
theorem intercalate_concat_isPrefix_iff (hs : ∀ w ∈ s, w.length = n) (ht : ∀ w ∈ t, w.length = n)
    (hne : s ≠ []) :
    [sep].intercalate s ++ [sep] <+: [sep].intercalate t ↔ s <+: t ∧ s ≠ t := by
  by_cases hnil : t = []
  · rw [hnil, List.intercalate_nil]
    simp [hne]
  have hwords : [sep].intercalate s ++ [sep] <+: [sep].intercalate t ++ [sep] ↔ s <+: t := by
    rw [intercalate_concat sep hne, intercalate_concat sep hnil,
      flatten_concat_isPrefix_iff sep hs ht]
  constructor
  · intro h
    refine ⟨hwords.1 (h.trans (List.prefix_append _ _)), ?_⟩
    rintro rfl
    have := h.length_le
    rw [List.length_append, List.length_singleton] at this
    omega
  · rintro ⟨hst, hproper⟩
    -- There is a word more, which is longer than the last separator.
    have hlt : s.length < t.length :=
      hst.length_le.lt_of_ne fun heq => hproper (hst.eq_of_length heq)
    refine List.prefix_of_prefix_length_le (hwords.2 hst) (List.prefix_append _ _) ?_
    rw [intercalate_concat sep hne, length_flatten_concat sep hs]
    exact (Nat.le_add_right _ n).trans (le_length_intercalate sep ht hlt)

/-- The words can be told from the text. -/
theorem intercalate_inj (hn : 0 < n) (hs : ∀ w ∈ s, w.length = n) (ht : ∀ w ∈ t, w.length = n) :
    [sep].intercalate s = [sep].intercalate t ↔ s = t := by
  refine ⟨fun h => ?_, congrArg _⟩
  have hcount : s.length = t.length := by
    rcases lt_trichotomy s.length t.length with hlt | heq | hlt
    · have hle := le_length_intercalate sep ht hlt
      rw [← h, length_intercalate hs] at hle
      omega
    · exact heq
    · have hle := le_length_intercalate sep hs hlt
      rw [h, length_intercalate ht] at hle
      omega
  by_cases hne : s = []
  · rw [hne, List.length_nil] at hcount
    rw [hne, List.length_eq_zero_iff.1 hcount.symm]
  · have hnil : t ≠ [] := List.ne_nil_of_length_pos (hcount ▸ List.length_pos_of_ne_nil hne)
    have hflat : (s.map (· ++ [sep])).flatten = (t.map (· ++ [sep])).flatten := by
      rw [← intercalate_concat sep hne, ← intercalate_concat sep hnil, h]
    have hprefix : s <+: t := (flatten_concat_isPrefix_iff sep hs ht).1 (hflat ▸ List.prefix_rfl)
    exact hprefix.eq_of_length hcount

end

variable [DecidableEq α]

/-! ## Components and gaps -/

/-- The segments that are not empty. -/
def components (sep : α) (l : List α) : List (List α) := (l.splitOn sep).filter (· ≠ [])

/-- Which segments are empty. -/
def gaps (sep : α) (l : List α) : List Bool := (l.splitOn sep).map List.isEmpty

/-- `m` begins with `l`, but the last component of `l` goes on. -/
def Glued (sep : α) (l m : List α) : Prop :=
  l <+: m ∧ ¬[sep] <:+ l ∧ m ≠ l ∧ ¬l ++ [sep] <+: m

instance (sep : α) (l m : List α) : Decidable (Glued sep l m) := inferInstanceAs (Decidable (_ ∧ _))

/-- The gaps of `l` are those at the front of `m`; and where `l` ends in a separator, so does
    this front. -/
def SeparatedAlike (sep : α) (l m : List α) : Prop :=
  if [sep] <:+ l then gaps sep l.dropLast <+: gaps sep m ∧ gaps sep l.dropLast ≠ gaps sep m
  else gaps sep l <+: gaps sep m

instance (sep : α) (l m : List α) : Decidable (SeparatedAlike sep l m) :=
  inferInstanceAs (Decidable (if [sep] <:+ l then _ ∧ _ else _))

variable {c : α} {m w rest : List α}

/-! ## Cutting -/

theorem not_mem_of_mem_splitOn (h : w ∈ l.splitOn sep) : sep ∉ w := by
  induction l generalizing w with
  | nil =>
    rw [List.splitOn_nil, List.mem_singleton] at h
    rw [h]
    exact List.not_mem_nil
  | cons a l ih =>
    rw [List.splitOn_cons_eq_if_modifyHead] at h
    obtain ⟨first, segments, heq⟩ := List.exists_cons_of_ne_nil (List.splitOn_ne_nil sep l)
    rw [heq] at h ih
    split at h
    next =>
      rcases List.mem_cons.1 h with rfl | h
      · exact List.not_mem_nil
      · exact ih h
    next hne =>
      rw [List.modifyHead_cons] at h
      rcases List.mem_cons.1 h with rfl | h
      · rintro hmem
        rcases List.mem_cons.1 hmem with rfl | hmem
        · exact hne (by simp)
        · exact ih List.mem_cons_self hmem
      · exact ih (List.mem_cons_of_mem _ h)

theorem splitOn_inj (sep : α) : l.splitOn sep = m.splitOn sep ↔ l = m := by
  constructor
  · intro h
    have hjoined : [sep].intercalate (l.splitOn sep) = [sep].intercalate (m.splitOn sep) := by
      rw [h]
    rwa [List.intercalate_splitOn, List.intercalate_splitOn] at hjoined
  · exact congrArg _

theorem splitOn_concat : (l ++ [sep]).splitOn sep = l.splitOn sep ++ [[]] := by
  rw [List.splitOn_append_cons_self, List.splitOn_nil]

/-- A list that goes on behind a separator, by its segments. -/
theorem splitOn_eq_append_iff {t : List (List α)} (ht : t ≠ []) :
    m.splitOn sep = l.splitOn sep ++ t ↔ ∃ rest, m = l ++ sep :: rest ∧ rest.splitOn sep = t := by
  constructor
  · intro h
    have hmem : ∀ w ∈ t, sep ∉ w := fun w hw =>
      not_mem_of_mem_splitOn (h ▸ List.mem_append_right _ hw)
    have hrest := List.splitOn_intercalate sep hmem ht
    refine ⟨[sep].intercalate t, (splitOn_inj sep).1 ?_, hrest⟩
    rw [h, List.splitOn_append_cons_self, hrest]
  · rintro ⟨rest, rfl, rfl⟩
    exact List.splitOn_append_cons_self ..

theorem splitOn_isPrefix_iff : l.splitOn sep <+: m.splitOn sep ↔ m = l ∨ l ++ [sep] <+: m := by
  constructor
  · rintro ⟨t, ht⟩
    by_cases hnil : t = []
    · rw [hnil, List.append_nil] at ht
      exact .inl ((splitOn_inj sep).1 ht.symm)
    · obtain ⟨rest, rfl, -⟩ := (splitOn_eq_append_iff hnil).1 ht.symm
      exact .inr ⟨rest, by simp⟩
  · rintro (rfl | ⟨rest, rfl⟩)
    · exact List.prefix_rfl
    · rw [List.append_assoc, List.singleton_append, List.splitOn_append_cons_self]
      exact List.prefix_append ..

/-! ## Lists that agree in their gaps -/

@[simp]
theorem components_append_cons :
    components sep (l ++ sep :: rest) = components sep l ++ components sep rest := by
  rw [components, List.splitOn_append_cons_self, List.filter_append]
  rfl

theorem gaps_append_cons : gaps sep (l ++ sep :: rest) = gaps sep l ++ gaps sep rest := by
  rw [gaps, List.splitOn_append_cons_self, List.map_append]
  rfl

theorem gaps_ne_nil : gaps sep l ≠ [] := by
  rw [gaps, Ne, List.map_eq_nil_iff]
  exact List.splitOn_ne_nil sep l

theorem components_concat : components sep (l ++ [sep]) = components sep l := by
  rw [components_append_cons]
  exact List.append_nil _

theorem components_of_not_mem (h : sep ∉ w) (hw : w ≠ []) : components sep w = [w] := by
  rw [components, List.splitOn_eq_singleton h]
  exact List.filter_cons_of_pos (decide_eq_true hw)

/-- The same separators between the same components. -/
theorem splitOn_isPrefix_iff_gaps (h : components sep l <+: components sep m) :
    l.splitOn sep <+: m.splitOn sep ↔ gaps sep l <+: gaps sep m :=
  ⟨fun hl => hl.map _, fun hgaps => isPrefix_of_isEmpty hgaps h⟩

theorem components_isPrefix_of_splitOn (h : l.splitOn sep <+: m.splitOn sep) :
    components sep l <+: components sep m := h.filter _

/-! ## Prefixes -/

/-- The component of `w` goes on in the first component of the longer list. -/
theorem not_isPrefix_components_glued (hw : sep ∉ w) (hne : w ≠ []) (hc : c ≠ sep) :
    ¬components sep w <+: components sep (w ++ c :: rest) := by
  have hglued : ∀ g, sep ∉ g → sep ∉ w ++ c :: g := by
    intro g hg hmem
    rcases List.mem_append.1 hmem with hmem | hmem
    · exact hw hmem
    · rcases List.mem_cons.1 hmem with heq | hmem
      · exact hc heq.symm
      · exact hg hmem
  have hlength : ∀ g, w ≠ w ++ c :: g := fun g h => by simpa using congrArg List.length h
  rw [components_of_not_mem hw hne]
  by_cases hmem : sep ∈ rest
  · obtain ⟨g, rest, rfl, hg⟩ := List.eq_append_cons_of_mem hmem
    rw [← List.cons_append, ← List.append_assoc, components_append_cons,
      components_of_not_mem (hglued g hg) (by simp), List.singleton_append, List.cons_prefix_cons]
    exact fun h => hlength g h.1
  · rw [components_of_not_mem (hglued rest hmem) (by simp), List.cons_prefix_cons]
    exact fun h => hlength rest h.1

theorem Glued.not_isPrefix (hne : l ≠ []) (h : Glued sep l m) :
    ¬components sep l <+: components sep m := by
  obtain ⟨⟨rest, rfl⟩, hend, hlong, hsep⟩ := h
  rcases rest with _ | ⟨c, rest⟩
  · exact absurd (List.append_nil l) hlong
  · have hc : c ≠ sep := by
      rintro rfl
      exact hsep ⟨rest, by simp⟩
    by_cases hmem : sep ∈ l
    · obtain ⟨front, w, rfl, hw⟩ := exists_eq_append_cons_last hmem
      have hwne : w ≠ [] := by
        rintro rfl
        exact hend (List.suffix_append _ _)
      rw [List.append_assoc, List.cons_append, components_append_cons, components_append_cons,
        List.prefix_append_right_inj]
      exact not_isPrefix_components_glued hw hwne hc
    · exact not_isPrefix_components_glued hmem hne hc

/-- A prefix, by the separators. -/
theorem isPrefix_iff_separatedAlike (h : components sep l <+: components sep m)
    (hglued : ¬Glued sep l m) : l <+: m ↔ SeparatedAlike sep l m := by
  rw [SeparatedAlike]
  split
  next hend =>
    obtain ⟨l, rfl⟩ := hend
    rw [components_concat] at h
    rw [List.dropLast_concat, ← splitOn_isPrefix_iff_gaps h, splitOn_isPrefix_iff]
    constructor
    · intro hl
      refine ⟨.inr hl, fun hgaps => ?_⟩
      obtain ⟨rest, rfl⟩ := hl
      rw [List.append_assoc, List.singleton_append, gaps_append_cons,
        List.self_eq_append_right] at hgaps
      exact gaps_ne_nil hgaps
    · rintro ⟨rfl | hl, hgaps⟩
      · exact absurd rfl hgaps
      · exact hl
  next hend =>
    rw [← splitOn_isPrefix_iff_gaps h, splitOn_isPrefix_iff]
    constructor
    · intro hl
      by_contra hnot
      rw [not_or] at hnot
      exact hglued ⟨hl, hend, hnot.1, hnot.2⟩
    · rintro (rfl | hl)
      · exact List.prefix_rfl
      · exact (List.prefix_append _ _).trans hl

theorem components_isPrefix_of_isPrefix (h : l <+: m) (hglued : ¬Glued sep l m) :
    components sep l <+: components sep m := by
  by_cases hend : [sep] <:+ l
  · obtain ⟨l, rfl⟩ := hend
    obtain ⟨rest, rfl⟩ := h
    rw [components_concat, List.append_assoc, List.singleton_append, components_append_cons]
    exact List.prefix_append ..
  · by_contra hnot
    have hseg : ¬(m = l ∨ l ++ [sep] <+: m) := fun hseg =>
      hnot (components_isPrefix_of_splitOn (splitOn_isPrefix_iff.2 hseg))
    rw [not_or] at hseg
    exact hglued ⟨h, hend, hseg.1, hseg.2⟩

/-- A list begins with another exactly if its components do: unless a component is glued, or
    the same components have other separators. -/
theorem isPrefix_iff_components (hne : l ≠ []) :
    (l <+: m ↔ components sep l <+: components sep m) ↔
      ¬Glued sep l m ∧ (components sep l <+: components sep m → SeparatedAlike sep l m) := by
  constructor
  · intro h
    have hglued : ¬Glued sep l m := fun hglued => hglued.not_isPrefix hne (h.1 hglued.1)
    exact ⟨hglued, fun hcomp => (isPrefix_iff_separatedAlike hcomp hglued).1 (h.2 hcomp)⟩
  · rintro ⟨hglued, hsep⟩
    refine ⟨fun h => components_isPrefix_of_isPrefix h hglued, fun h => ?_⟩
    exact (isPrefix_iff_separatedAlike h hglued).2 (hsep h)

end Segments
