import CosmicSync.Library.Interleaving

/-!
# Scripts

A script changes a shared store step by step: it executes statements, each of which the store
may reject, and asks queries to choose what it executes. Whoever wrote it says for each statement
whether a failure ends the script or is passed over, and for each query which answer is taken
instead of one that cannot be had. Several runners execute their scripts at the same time; each
may be stopped anywhere and be begun anew.

* `within_run`: an invariant of the store that no statement breaks which a script can still get
  to, by what the invariant says of the queries and of the statements, holds after every run.
* `smooth_run`: runners come through, and keep an invariant, if their statements are accepted and
  none fails of itself.
* `establishes_run`: a fact that the statements keep, and that a script either finds or makes
  on every way through it, holds once a runner has come through.
-/

namespace Scripts

open Run Interleaving

variable {σ α κ ρ : Type*}

/-- Statements with whether their failure is passed over, and queries with the answer that is
    taken if they fail. -/
inductive Script (α κ : Type*)
  | done
  | exec (a : α) (ignored : Bool) (next : Script α κ)
  | ask (q : κ) (otherwise : Option Bool) (yes no next : Script α κ)
  deriving DecidableEq

namespace Script

/-- One script after the other. -/
def seq : Script α κ → Script α κ → Script α κ
  | done, r => r
  | exec a ignored next, r => exec a ignored (next.seq r)
  | ask q otherwise yes no next, r => ask q otherwise yes no (next.seq r)

/-- The statements that the script may execute. -/
def statements : Script α κ → List α
  | done => []
  | exec a _ next => a :: next.statements
  | ask _ _ yes no next => yes.statements ++ no.statements ++ next.statements

def queries : Script α κ → List κ
  | done => []
  | exec _ _ next => next.queries
  | ask q _ yes no next => q :: (yes.queries ++ no.queries ++ next.queries)

end Script

/-- What statements do to a store, and what it answers. -/
structure Engine (σ α κ : Type*) where
  apply : σ → α → Option σ
  answer : σ → κ → Bool

/-- How far a runner has come: the script that it executes, those to be executed after it, and
    whether one has failed or a failure has been passed over. -/
structure Progress (α κ : Type*) where
  script : Script α κ
  rest : List (Script α κ)
  failed : Bool
  warned : Bool

namespace Progress

def ofScripts (scripts : List (Script α κ)) : Progress α κ := ⟨.done, scripts, false, false⟩

/-- The script ends here; the next one is not concerned. -/
def fail (p : Progress α κ) : Progress α κ := { p with script := .done, failed := true }

def Ended (p : Progress α κ) : Prop := p.script = .done ∧ p.rest = []

/-- The runner has come through all of its scripts. -/
def Succeeded (p : Progress α κ) : Prop := p.Ended ∧ p.failed = false

instance [DecidableEq α] [DecidableEq κ] : DecidablePred (@Ended α κ) :=
  fun _ => inferInstanceAs (Decidable (_ ∧ _))

instance [DecidableEq α] [DecidableEq κ] : DecidablePred (@Succeeded α κ) :=
  fun _ => inferInstanceAs (Decidable (_ ∧ _))

end Progress

namespace Engine

variable (E : Engine σ α κ)

/-- The next statement or query, which fails or not. -/
def exec (s : σ) (fails : Bool) (p : Progress α κ) : σ × Progress α κ :=
  match p.script with
  | .done =>
    match p.rest with
    | [] => (s, p)
    | script :: rest => (s, { p with script, rest })
  | .exec a ignored next =>
    match if fails then none else E.apply s a with
    | some s' => (s', { p with script := next })
    | none => (s, if ignored then { p with script := next, warned := true } else p.fail)
  | .ask q otherwise yes no next =>
    if fails then
      match otherwise with
      | none => (s, p.fail)
      | some b => (s, { p with script := (if b then yes else no).seq next, warned := true })
    else (s, { p with script := (if E.answer s q then yes else no).seq next })

/-- Runners begin with the given scripts. -/
def system (start : ρ → List (Script α κ)) : System σ (Progress α κ) ρ Bool where
  start r := .ofScripts (start r)
  exec := E.exec

/-- What can happen at once to the store and a runner. -/
inductive Step (s : σ) : Progress α κ → σ → Progress α κ → Prop
  | ended {p} : Step s p s p
  | began {script rest f w} : Step s ⟨.done, script :: rest, f, w⟩ s ⟨script, rest, f, w⟩
  | applied {s' a ignored next rest f w} (happly : E.apply s a = some s') :
    Step s ⟨.exec a ignored next, rest, f, w⟩ s' ⟨next, rest, f, w⟩
  | failed {a next rest f w} :
    Step s ⟨.exec a false next, rest, f, w⟩ s ⟨.done, rest, true, w⟩
  | ignored {a next rest f w} : Step s ⟨.exec a true next, rest, f, w⟩ s ⟨next, rest, f, true⟩
  | answered {q otherwise yes no next rest f w} :
    Step s ⟨.ask q otherwise yes no next, rest, f, w⟩ s
      ⟨(if E.answer s q then yes else no).seq next, rest, f, w⟩
  | unanswered {q yes no next rest f w} :
    Step s ⟨.ask q none yes no next, rest, f, w⟩ s ⟨.done, rest, true, w⟩
  | assumed {q yes no next rest f w} (b : Bool) :
    Step s ⟨.ask q (some b) yes no next, rest, f, w⟩ s
      ⟨(if b then yes else no).seq next, rest, f, true⟩

theorem exec_step (s : σ) (fails : Bool) (p : Progress α κ) :
    E.Step s p (E.exec s fails p).1 (E.exec s fails p).2 := by
  obtain ⟨script, rest, f, w⟩ := p
  cases script with
  | done =>
    cases rest with
    | nil => exact .ended
    | cons script rest => exact .began
  | exec a ignored next =>
    simp only [exec]
    split
    · next happly =>
      cases fails
      · exact .applied happly
      · cases happly
    · cases ignored
      · exact .failed
      · exact .ignored
  | ask q otherwise yes no next =>
    cases fails
    · exact .answered
    · cases otherwise with
      | none => exact .unanswered
      | some b => exact .assumed b

end Engine

/-! ## What a script can get to -/

/-- What an invariant says: which statements keep it, which it rules out, and which answers. -/
structure Knowledge (α κ : Type*) where
  allowed : α → Bool
  rejected : α → Bool
  excluded : κ → Bool → Bool

structure Knowledge.Sound (K : Knowledge α κ) (E : Engine σ α κ) (I : σ → Prop) : Prop where
  keeps : ∀ {s s' a}, K.allowed a → I s → E.apply s a = some s' → I s'
  rejects : ∀ {s a}, K.rejected a → I s → E.apply s a = none
  excludes : ∀ {s q b}, K.excluded q b → I s → E.answer s q ≠ b

/-- What an invariant says that tells nothing of queries and refusals. -/
def Knowledge.keeping (allowed : α → Bool) : Knowledge α κ :=
  ⟨allowed, fun _ => false, fun _ _ => false⟩

theorem Knowledge.keeping_sound {allowed : α → Bool} {E : Engine σ α κ} {I : σ → Prop}
    (h : ∀ s s' a, allowed a → I s → E.apply s a = some s' → I s') :
    (keeping allowed : Knowledge α κ).Sound E I where
  keeps ha hI happly := h _ _ _ ha hI happly
  rejects h := nomatch h
  excludes h := nomatch h

/-- The statements that the script can get to keep the invariant. A statement that is ruled out
    ends the script, unless its failure is passed over. -/
def Script.within (K : Knowledge α κ) : Script α κ → Bool
  | done => true
  | exec a ignored next =>
    (K.rejected a && (!ignored || next.within K)) || (K.allowed a && next.within K)
  | ask q otherwise yes no next =>
    (yes.within K || (K.excluded q true && otherwise != some true)) &&
      (no.within K || (K.excluded q false && otherwise != some false)) && next.within K

def Progress.Within (K : Knowledge α κ) (p : Progress α κ) : Prop :=
  p.script.within K ∧ ∀ script ∈ p.rest, script.within K

section

variable {K : Knowledge α κ} {E : Engine σ α κ} {I : σ → Prop} {s : σ} {fails : Bool}
  {p : Progress α κ}

theorem Script.within_seq {script next : Script α κ} (h : script.within K)
    (hnext : next.within K) : (script.seq next).within K := by
  induction script with
  | done => exact hnext
  | exec a ignored rest ih =>
    simp only [Script.within, Script.seq, Bool.or_eq_true, Bool.and_eq_true] at h ⊢
    exact h.imp (fun h => ⟨h.1, h.2.imp_right ih⟩) (fun h => ⟨h.1, ih h.2⟩)
  | ask q otherwise yes no rest _ _ ih =>
    rw [Script.within, Bool.and_eq_true] at h
    rw [Script.seq, Script.within, Bool.and_eq_true]
    exact ⟨h.1, ih h.2⟩

theorem Progress.within_ofScripts {scripts : List (Script α κ)}
    (h : ∀ script ∈ scripts, script.within K) : (ofScripts scripts).Within K := ⟨rfl, h⟩

/-- The branch that is taken is not one that the invariant excludes. -/
theorem Script.within_branch {q : κ} {otherwise : Option Bool} {yes no next : Script α κ} {b : Bool}
    (h : (ask q otherwise yes no next).within K) (hb : ¬K.excluded q b ∨ otherwise = some b) :
    ((if b then yes else no).seq next).within K := by
  simp only [Script.within, Bool.and_eq_true, Bool.or_eq_true, bne_iff_ne, ne_eq] at h
  obtain ⟨⟨hyes, hno⟩, hnext⟩ := h
  cases b
  · exact within_seq (hno.resolve_right fun h => hb.elim (fun hb => hb h.1) h.2) hnext
  · exact within_seq (hyes.resolve_right fun h => hb.elim (fun hb => hb h.1) h.2) hnext

theorem within_step {s' : σ} {p' : Progress α κ} (hK : K.Sound E I) (h : E.Step s p s' p')
    (hp : p.Within K) (hI : I s) : I s' ∧ p'.Within K := by
  obtain ⟨hscript, hrest⟩ := hp
  cases h with
  | ended => exact ⟨hI, hscript, hrest⟩
  | began =>
    exact ⟨hI, hrest _ List.mem_cons_self, fun r hr => hrest r (List.mem_cons_of_mem _ hr)⟩
  | applied happly =>
    simp only [Script.within, Bool.or_eq_true, Bool.and_eq_true] at hscript
    rcases hscript with ⟨hrejected, -⟩ | ⟨hallowed, hnext⟩
    · rw [hK.rejects hrejected hI] at happly
      cases happly
    · exact ⟨hK.keeps hallowed hI happly, hnext, hrest⟩
  | failed => exact ⟨hI, rfl, hrest⟩
  | ignored =>
    rw [Script.within, Bool.not_true, Bool.false_or, ← Bool.and_or_distrib_right,
      Bool.and_eq_true] at hscript
    exact ⟨hI, hscript.2, hrest⟩
  | answered => exact ⟨hI, Script.within_branch hscript (.inl fun h => hK.excludes h hI rfl), hrest⟩
  | unanswered => exact ⟨hI, rfl, hrest⟩
  | assumed b => exact ⟨hI, Script.within_branch hscript (.inr rfl), hrest⟩

/-- An invariant that no statement breaks which the scripts can get to holds after every run. -/
theorem within_run {start : ρ → List (Script α κ)} {ops : List (Interleaving.Op ρ Bool)}
    {s : Interleaving.State σ (Progress α κ)} (hK : K.Sound E I)
    (hstart : ∀ r, ∀ script ∈ start r, script.within K)
    (hs : System.Sound I (Progress.Within K) s) :
    System.Sound I (Progress.Within K) (run (E.system start).step s ops) :=
  System.sound_run (G := fun _ => True)
    (fun r _ => Progress.within_ofScripts (hstart r)) (fun _ _ _ => trivial)
    (fun s fails p _ hp hI => within_step hK (E.exec_step s fails p) hp hI) hs

end

/-! ## Scripts that come through -/

/-- The statements that the script gets to are accepted, if none fails of itself. -/
def Script.smooth (K : Knowledge α κ) (accepted : α → Bool) : Script α κ → Bool
  | done => true
  | exec a _ next => accepted a && K.allowed a && next.smooth K accepted
  | ask q _ yes no next =>
    (yes.smooth K accepted || K.excluded q true) && (no.smooth K accepted || K.excluded q false) &&
      next.smooth K accepted

/-- Nothing has failed, and nothing will. -/
def Progress.Smooth (K : Knowledge α κ) (accepted : α → Bool) (p : Progress α κ) : Prop :=
  p.failed = false ∧ p.warned = false ∧ p.script.smooth K accepted ∧
    ∀ script ∈ p.rest, script.smooth K accepted

section

variable {K : Knowledge α κ} {accepted : α → Bool} {E : Engine σ α κ} {I : σ → Prop} {s : σ}
  {p : Progress α κ}

theorem Script.smooth_seq {script next : Script α κ} (h : script.smooth K accepted)
    (hnext : next.smooth K accepted) : (script.seq next).smooth K accepted := by
  induction script with
  | done => exact hnext
  | exec a ignored rest ih =>
    rw [smooth, Bool.and_eq_true] at h
    rw [seq, smooth, Bool.and_eq_true]
    exact ⟨h.1, ih h.2⟩
  | ask q otherwise yes no rest _ _ ih =>
    rw [smooth, Bool.and_eq_true] at h
    rw [seq, smooth, Bool.and_eq_true]
    exact ⟨h.1, ih h.2⟩

theorem smooth_exec (hK : K.Sound E I)
    (haccepted : ∀ {s a}, accepted a → I s → (E.apply s a).isSome)
    (hp : p.Smooth K accepted) (hI : I s) :
    I (E.exec s false p).1 ∧ (E.exec s false p).2.Smooth K accepted := by
  obtain ⟨script, rest, failed, warned⟩ := p
  obtain ⟨hfailed, hwarned, hscript, hrest⟩ := hp
  cases script with
  | done =>
    cases rest with
    | nil => exact ⟨hI, hfailed, hwarned, hscript, hrest⟩
    | cons script rest =>
      exact ⟨hI, hfailed, hwarned, hrest script List.mem_cons_self,
        fun r hr => hrest r (List.mem_cons_of_mem _ hr)⟩
  | exec a ignored next =>
    simp only [Script.smooth, Bool.and_eq_true] at hscript
    obtain ⟨s', happly⟩ := Option.isSome_iff_exists.1 (haccepted hscript.1.1 hI)
    simp only [Engine.exec, Bool.false_eq_true, if_false, happly]
    exact ⟨hK.keeps hscript.1.2 hI happly, hfailed, hwarned, hscript.2, hrest⟩
  | ask q otherwise yes no next =>
    simp only [Script.smooth, Bool.and_eq_true, Bool.or_eq_true] at hscript
    obtain ⟨⟨hyes, hno⟩, hnext⟩ := hscript
    refine ⟨hI, hfailed, hwarned, Script.smooth_seq ?_ hnext, hrest⟩
    cases hanswer : E.answer s q
    · exact hno.resolve_right fun h => hK.excludes h hI hanswer
    · exact hyes.resolve_right fun h => hK.excludes h hI hanswer

/-- Runners that nothing happens to come through, and keep what the knowledge rests on. -/
theorem smooth_run {start : ρ → List (Script α κ)} {ops : List (Interleaving.Op ρ Bool)}
    (hK : K.Sound E I) (haccepted : ∀ {s a}, accepted a → I s → (E.apply s a).isSome)
    (hstart : ∀ r, ∀ script ∈ start r, script.smooth K accepted)
    (hinput : ∀ i fails, .next i fails ∈ ops → fails = false) (hI : I s) :
    System.Sound I (Progress.Smooth K accepted) (run (E.system start).step ⟨s, []⟩ ops) :=
  System.sound_run (G := fun fails => fails = false)
    (fun r _ => ⟨rfl, rfl, rfl, hstart r⟩) hinput
    (fun _ _ _ hfails hp hI => hfails ▸ smooth_exec hK haccepted hp hI)
    ⟨hI, fun _ h => nomatch h⟩

end

/-! ## What a script makes sure of -/

/-- What is known of a fact: the statements that make it, those that keep it, and the answers
    that tell it. -/
structure Evidence (α κ : Type*) where
  gives : α → Bool
  keeps : α → Bool
  tells : κ → Bool → Bool

structure Evidence.Sound (V : Evidence α κ) (E : Engine σ α κ) (fact : σ → Prop) : Prop where
  gives : ∀ {s s' a}, V.gives a → E.apply s a = some s' → fact s'
  keeps : ∀ {s s' a}, V.keeps a → fact s → E.apply s a = some s' → fact s'
  tells : ∀ {s q b}, V.tells q b → E.answer s q = b → fact s

/-- On every way through the script, the fact is found or made. What has failed and was passed
    over counts if a runner that was warned does not (`heed`). -/
def Script.establishes (V : Evidence α κ) (heed : Bool) : Script α κ → Bool
  | done => false
  | exec a ignored next => (V.gives a && (!ignored || heed)) || next.establishes V heed
  | ask q otherwise yes no next =>
    ((yes.establishes V heed || (V.tells q true && (otherwise != some true || heed))) &&
      (no.establishes V heed || (V.tells q false && (otherwise != some false || heed)))) ||
        next.establishes V heed

/-- The fact holds, or the runner will establish it or has missed it. -/
def Progress.Assures (V : Evidence α κ) (heed : Bool) (fact : σ → Prop) (s : σ)
    (p : Progress α κ) : Prop :=
  fact s ∨ p.failed ∨ (heed ∧ p.warned) ∨ p.script.establishes V heed ∨
    ∃ script ∈ p.rest, script.establishes V heed

section

variable {V : Evidence α κ} {E : Engine σ α κ} {fact : σ → Prop} {heed : Bool} {s s' : σ}
  {p p' : Progress α κ}

theorem Script.establishes_seq {script next : Script α κ} :
    (script.seq next).establishes V heed =
      (script.establishes V heed || next.establishes V heed) := by
  induction script with
  | done => rfl
  | exec a ignored rest ih => rw [seq, establishes, establishes, ih, Bool.or_assoc]
  | ask q otherwise yes no rest _ _ ih => rw [seq, establishes, establishes, ih, Bool.or_assoc]

/-- The statements of all runners keep the fact. -/
theorem fact_step (hV : V.Sound E fact) (h : E.Step s p s' p') (hp : p.Within (.keeping V.keeps))
    (hfact : fact s) : fact s' := by
  cases h with
  | applied happly =>
    simp only [Progress.Within, Script.within, Knowledge.keeping, Bool.false_and, Bool.false_or,
      Bool.and_eq_true] at hp
    exact hV.keeps hp.1.1 hfact happly
  | _ => exact hfact

/-- A branch is taken because of the answer, which may tell the fact. -/
theorem Script.assures_branch {q : κ} {otherwise : Option Bool} {yes no next : Script α κ}
    {b : Bool} {w : Bool} (hV : V.Sound E fact)
    (h : (ask q otherwise yes no next).establishes V heed)
    (hb : E.answer s q = b ∨ (otherwise = some b ∧ w)) :
    fact s ∨ (heed ∧ w) ∨ ((if b then yes else no).seq next).establishes V heed := by
  rw [establishes_seq]
  simp only [establishes, Bool.or_eq_true, Bool.and_eq_true, bne_iff_ne, ne_eq] at h ⊢
  rcases h with ⟨hyes, hno⟩ | hnext
  · have hbranch : (if b then yes else no).establishes V heed ∨
        (V.tells q b ∧ (¬otherwise = some b ∨ heed)) := by
      cases b
      · exact hno
      · exact hyes
    rcases hbranch with hbranch | ⟨htells, hmissed⟩
    · exact .inr (.inr (.inl hbranch))
    · rcases hb with hb | ⟨hb, hw⟩
      · exact .inl (hV.tells htells hb)
      · exact .inr (.inl ⟨hmissed.resolve_left (not_not_intro hb), hw⟩)
  · exact .inr (.inr (.inr hnext))

theorem assures_step (hV : V.Sound E fact) (h : E.Step s p s' p') (hp : p.Within (.keeping V.keeps))
    (hassures : p.Assures V heed fact s) : p'.Assures V heed fact s' := by
  rcases hassures with hfact | hfailed | hwarned | hassures
  · exact .inl (fact_step hV h hp hfact)
  · refine .inr (.inl ?_)
    cases h <;> first | exact hfailed | rfl
  · refine .inr (.inr (.inl ⟨hwarned.1, ?_⟩))
    cases h <;> first | exact hwarned.2 | rfl
  · cases h with
    | ended => exact .inr (.inr (.inr hassures))
    | began =>
      refine .inr (.inr (.inr ?_))
      rcases hassures with h | ⟨script, hmem, h⟩
      · cases h
      · rcases List.mem_cons.1 hmem with rfl | hmem
        · exact .inl h
        · exact .inr ⟨script, hmem, h⟩
    | applied happly =>
      rcases hassures with h | h
      · simp only [Script.establishes, Bool.or_eq_true, Bool.and_eq_true] at h
        rcases h with ⟨hgives, -⟩ | hnext
        · exact .inl (hV.gives hgives happly)
        · exact .inr (.inr (.inr (.inl hnext)))
      · exact .inr (.inr (.inr (.inr h)))
    | failed => exact .inr (.inl rfl)
    | ignored =>
      rcases hassures with h | h
      · simp only [Script.establishes, Bool.not_true, Bool.false_or, Bool.or_eq_true,
          Bool.and_eq_true] at h
        rcases h with ⟨-, hheed⟩ | hnext
        · exact .inr (.inr (.inl ⟨hheed, rfl⟩))
        · exact .inr (.inr (.inr (.inl hnext)))
      · exact .inr (.inr (.inr (.inr h)))
    | answered =>
      rcases hassures with h | h
      · rcases Script.assures_branch (w := false) hV h (.inl rfl) with hfact | ⟨-, hw⟩ | h
        · exact .inl hfact
        · cases hw
        · exact .inr (.inr (.inr (.inl h)))
      · exact .inr (.inr (.inr (.inr h)))
    | unanswered => exact .inr (.inl rfl)
    | assumed b =>
      rcases hassures with h | h
      · rcases Script.assures_branch (w := true) (s := s) hV h (.inr ⟨rfl, rfl⟩) with
          hfact | hheed | h
        · exact .inl hfact
        · exact .inr (.inr (.inl hheed))
        · exact .inr (.inr (.inr (.inl h)))
      · exact .inr (.inr (.inr (.inr h)))

/-- Once a runner has come through scripts one of which establishes the fact, it holds, if all
    scripts keep it. -/
theorem establishes_run {start : ρ → List (Script α κ)} {ops : List (Interleaving.Op ρ Bool)}
    {s : σ} (hV : V.Sound E fact)
    (hkeeps : ∀ r, ∀ script ∈ start r, script.within (.keeping V.keeps))
    (hstart : ∀ r, ∃ script ∈ start r, script.establishes V heed)
    (hp : p ∈ (run (E.system start).step ⟨s, []⟩ ops).requests) (hsucceeded : p.Succeeded)
    (hheed : heed → p.warned = false) : fact (run (E.system start).step ⟨s, []⟩ ops).shared := by
  have houtline : System.Outlined (fun _ => True)
      (fun s p => p.Within (.keeping V.keeps) ∧ p.Assures V heed fact s)
      (run (E.system start).step ⟨s, []⟩ ops) :=
    System.outline_run (G := fun _ => True)
      (fun s r _ => ⟨Progress.within_ofScripts (hkeeps r), .inr (.inr (.inr (.inr (hstart r))))⟩)
      (fun _ _ _ => trivial)
      (fun s fails p _ _ hp => ⟨trivial,
        (within_step (Knowledge.keeping_sound fun _ _ _ _ _ _ => trivial)
          (E.exec_step s fails p) hp.1 trivial).2,
        assures_step hV (E.exec_step s fails p) hp.1 hp.2⟩)
      (fun s fails p p' _ _ hp hp' =>
        ⟨hp'.1, hp'.2.imp_left (fact_step hV (E.exec_step s fails p) hp.1)⟩)
      ⟨trivial, fun _ h => nomatch h⟩
  obtain ⟨⟨hscript, hrest⟩, hfailed⟩ := hsucceeded
  rcases (houtline.2 p hp).2 with h | h | ⟨h, hw⟩ | h | ⟨script, hmem, -⟩
  · exact h
  · rw [hfailed] at h
    cases h
  · rw [hheed h] at hw
    cases hw
  · rw [hscript] at h
    cases h
  · rw [hrest] at hmem
    cases hmem

end

end Scripts
