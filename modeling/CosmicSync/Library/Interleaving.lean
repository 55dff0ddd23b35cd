import CosmicSync.Library.Run
import Mathlib.Data.List.Forall2

/-!
# Interleavings

Requests work on one shared state. Each has a program counter, what it has yet to do; an event
is that a request begins, or that one of them executes its next statement, with an input that
the statement reads. The statements of the requests interleave in every order.

* `shared_run`: the shared state is that of a run of the executed statements (`trace`), and what
  the program counters have, these have (`forall_trace`).
* `sound_run`: an assertion about the shared state and one about each program counter, which
  every statement keeps, hold after every run.
* `outline_run`: an assertion about the shared state, and one about each request and the shared
  state that the statements of the others keep.
* `owed_run`: what the shared state lacks is owed by some request.
* `alone_run`: an assertion about one request and the shared state holds after every run, if the
  request keeps it and the others do not interfere.
* `alike_run_iff`: two systems that are given the same events stay alike exactly if no statement
  that they execute sets them apart.
-/

namespace Interleaving

open Run

variable {σ π ρ ι : Type*}

/-- What is shared, and the program counters of the requests, in the order of their beginning. -/
structure State (σ π : Type*) where
  shared : σ
  requests : List π

/-- An event: a request begins, or the request `i` executes its next statement. -/
inductive Op (ρ ι : Type*)
  | start (r : ρ)
  | next (i : ℕ) (input : ι)

/-- The statement that an event executes, with its input. -/
def State.executed (s : State σ π) : Op ρ ι → Option (ι × π)
  | .start _ => none
  | .next i input => (s.requests[i]?).map (input, ·)

/-- The system: where a request begins, and what its statements do. -/
structure System (σ π ρ ι : Type*) where
  start : ρ → π
  exec : σ → ι → π → σ × π

namespace System

variable (S : System σ π ρ ι)

def step (s : State σ π) : Op ρ ι → State σ π
  | .start r => { s with requests := s.requests ++ [S.start r] }
  | .next i input =>
    match s.requests[i]? with
    | none => s
    | some pc => ⟨(S.exec s.shared input pc).1, s.requests.set i (S.exec s.shared input pc).2⟩

/-- The statements that are executed in a run. -/
def trace : State σ π → List (Op ρ ι) → List (ι × π)
  | _, [] => []
  | s, o :: ops => (s.executed o).toList ++ trace (S.step s o) ops

variable {S} {s : State σ π} {o : Op ρ ι} {ops : List (Op ρ ι)} {i k : ℕ} {input : ι} {pc : π}

theorem step_next (h : s.requests[i]? = some pc) :
    S.step s (.next i input) =
      ⟨(S.exec s.shared input pc).1, s.requests.set i (S.exec s.shared input pc).2⟩ := by
  rw [step, h]

theorem step_next_of_none (h : s.requests[i]? = none) : S.step s (.next i input) = s := by
  rw [step, h]

/-- The shared state is that of the statements alone. -/
theorem shared_run : (run S.step s ops).shared =
    run (fun s (e : ι × π) => (S.exec s e.1 e.2).1) s.shared (S.trace s ops) := by
  induction ops generalizing s with
  | nil => rfl
  | cons o ops ih =>
    rw [run_cons, ih, trace, run_append]
    congr 1
    cases o with
    | start r => rfl
    | next i input =>
      cases h : s.requests[i]? with
      | none =>
        rw [step_next_of_none h, State.executed, h]
        rfl
      | some pc =>
        rw [step_next h, State.executed, h]
        rfl

/-! ## Assertions -/

/-- An assertion about the shared state, and one about each request that refers to it, too. -/
def Outlined (I : σ → Prop) (Q : σ → π → Prop) (s : State σ π) : Prop :=
  I s.shared ∧ ∀ pc ∈ s.requests, Q s.shared pc

theorem outlined_step {I : σ → Prop} {Q : σ → π → Prop}
    (hexec : ∀ pc, I s.shared → Q s.shared pc → I (S.exec s.shared input pc).1 ∧
      Q (S.exec s.shared input pc).1 (S.exec s.shared input pc).2)
    (hstable : ∀ pc pc', I s.shared → Q s.shared pc → Q s.shared pc' →
      Q (S.exec s.shared input pc).1 pc')
    (hs : Outlined I Q s) : Outlined I Q (S.step s (.next i input)) := by
  cases h : s.requests[i]? with
  | none => rwa [step_next_of_none h]
  | some pc =>
    have hmem := List.mem_of_getElem? h
    obtain ⟨hshared, hpc⟩ := hexec pc hs.1 (hs.2 pc hmem)
    rw [step_next h]
    refine ⟨hshared, fun pc' hpc' => ?_⟩
    rcases List.mem_or_eq_of_mem_set hpc' with hpc' | rfl
    · exact hstable pc pc' hs.1 (hs.2 pc hmem) (hs.2 pc' hpc')
    · exact hpc

/-- What each request keeps of its own, and leaves to the others, holds after every run. -/
theorem outline_run {I : σ → Prop} {Q : σ → π → Prop} {G : ι → Prop}
    (hstart : ∀ s r, .start r ∈ ops → Q s (S.start r))
    (hinput : ∀ i input, .next i input ∈ ops → G input)
    (hexec : ∀ s input pc, G input → I s → Q s pc →
      I (S.exec s input pc).1 ∧ Q (S.exec s input pc).1 (S.exec s input pc).2)
    (hstable : ∀ s input pc pc', G input → I s → Q s pc → Q s pc' →
      Q (S.exec s input pc).1 pc')
    (hs : Outlined I Q s) : Outlined I Q (run S.step s ops) := by
  induction ops generalizing s with
  | nil => exact hs
  | cons o ops ih =>
    refine ih (fun s r hr => hstart s r (List.mem_cons_of_mem _ hr))
      (fun i input hi => hinput i input (List.mem_cons_of_mem _ hi)) ?_
    cases o with
    | start r =>
      refine ⟨hs.1, fun pc hpc => ?_⟩
      rcases List.mem_append.1 hpc with hpc | hpc
      · exact hs.2 pc hpc
      · rw [List.mem_singleton.1 hpc]
        exact hstart _ r List.mem_cons_self
    | next i input =>
      have hG := hinput i input List.mem_cons_self
      exact outlined_step (fun pc => hexec s.shared input pc hG)
        (fun pc pc' => hstable s.shared input pc pc' hG) hs

/-- An assertion about the shared state, and one about each request. -/
def Sound (I : σ → Prop) (P : π → Prop) (s : State σ π) : Prop :=
  I s.shared ∧ ∀ pc ∈ s.requests, P pc

theorem sound_step {I : σ → Prop} {P : π → Prop}
    (hexec : ∀ pc, P pc → I s.shared → I (S.exec s.shared input pc).1 ∧
      P (S.exec s.shared input pc).2) (hs : Sound I P s) :
    Sound I P (S.step s (.next i input)) :=
  outlined_step (Q := fun _ => P) (fun pc hI hP => hexec pc hP hI) (fun _ _ _ _ h => h) hs

/-- What the beginnings of the requests have, and every statement keeps, holds after every
    run. -/
theorem sound_run {I : σ → Prop} {P : π → Prop} {G : ι → Prop}
    (hstart : ∀ r, .start r ∈ ops → P (S.start r))
    (hinput : ∀ i input, .next i input ∈ ops → G input)
    (hexec : ∀ s input pc, G input → P pc → I s →
      I (S.exec s input pc).1 ∧ P (S.exec s input pc).2)
    (hs : Sound I P s) : Sound I P (run S.step s ops) :=
  outline_run (Q := fun _ => P) (fun _ => hstart) hinput
    (fun s input pc hG hI hP => hexec s input pc hG hP hI) (fun _ _ _ _ _ _ _ h => h) hs

/-- The statements that are executed have what the program counters have. -/
theorem forall_trace {P : π → Prop} (hstart : ∀ r, .start r ∈ ops → P (S.start r))
    (hexec : ∀ s input pc, P pc → P (S.exec s input pc).2) (hs : ∀ pc ∈ s.requests, P pc) :
    ∀ e ∈ S.trace s ops, P e.2 := by
  induction ops generalizing s with
  | nil => exact fun e he => absurd he List.not_mem_nil
  | cons o ops ih =>
    intro e he
    rcases List.mem_append.1 he with he | he
    · cases o with
      | start r => exact absurd he List.not_mem_nil
      | next i input =>
        rw [State.executed, Option.mem_toList, Option.map_eq_some_iff] at he
        obtain ⟨pc, hpc, rfl⟩ := he
        exact hs pc (List.mem_of_getElem? hpc)
    · refine ih (fun r hr => hstart r (List.mem_cons_of_mem _ hr)) ?_ e he
      cases o with
      | start r =>
        intro pc hpc
        rcases List.mem_append.1 hpc with hpc | hpc
        · exact hs pc hpc
        · rw [List.mem_singleton.1 hpc]
          exact hstart r List.mem_cons_self
      | next i input =>
        exact (sound_step (I := fun _ => True) (fun pc hpc _ => ⟨trivial, hexec _ _ pc hpc⟩)
          ⟨trivial, hs⟩).2

/-- What the shared state lacks, some request owes. -/
def Owed {κ : Type*} (Lacks : κ → σ → Prop) (Owes : κ → π → Prop) (s : State σ π) : Prop :=
  ∀ k, Lacks k s.shared → ∃ pc ∈ s.requests, Owes k pc

/-- A statement after which something is lacking owes it then; or it was lacking before, and the
    statement did not owe it. -/
theorem owed_step {κ : Type*} {Lacks : κ → σ → Prop} {Owes : κ → π → Prop}
    (hexec : ∀ k, ∀ pc ∈ s.requests, Lacks k (S.exec s.shared input pc).1 →
      Owes k (S.exec s.shared input pc).2 ∨ (Lacks k s.shared ∧ ¬Owes k pc))
    (hs : Owed Lacks Owes s) : Owed Lacks Owes (S.step s (.next i input)) := by
  cases h : s.requests[i]? with
  | none => rwa [step_next_of_none h]
  | some pc =>
    have hlt : i < s.requests.length := (List.getElem?_eq_some_iff.1 h).1
    rw [step_next h]
    intro k hk
    rcases hexec k pc (List.mem_of_getElem? h) hk with howes | ⟨hlacks, hnot⟩
    · exact ⟨_, List.mem_set hlt _, howes⟩
    · -- Another request owes it, and is not touched.
      obtain ⟨pc', hpc', howes⟩ := hs k hlacks
      obtain ⟨j, hj⟩ := List.mem_iff_getElem?.1 hpc'
      have hij : i ≠ j := by
        rintro rfl
        cases h.symm.trans hj
        exact hnot howes
      exact ⟨pc', List.mem_of_getElem? ((List.getElem?_set_ne hij).trans hj), howes⟩

theorem owed_start {κ : Type*} {Lacks : κ → σ → Prop} {Owes : κ → π → Prop} {r : ρ}
    (hs : Owed Lacks Owes s) : Owed Lacks Owes (S.step s (.start r)) := fun k hk =>
  (hs k hk).imp fun _ h => ⟨List.mem_append_left _ h.1, h.2⟩

/-- What is lacking after a run is owed, if this holds of every statement that keeps to the
    assertions. -/
theorem owed_run {κ : Type*} {Lacks : κ → σ → Prop} {Owes : κ → π → Prop} {I : σ → Prop}
    {Q : σ → π → Prop} {G : ι → Prop}
    (hstart : ∀ s r, .start r ∈ ops → Q s (S.start r))
    (hinput : ∀ i input, .next i input ∈ ops → G input)
    (hexec : ∀ s input pc, G input → I s → Q s pc →
      I (S.exec s input pc).1 ∧ Q (S.exec s input pc).1 (S.exec s input pc).2)
    (hstable : ∀ s input pc pc', G input → I s → Q s pc → Q s pc' →
      Q (S.exec s input pc).1 pc')
    (howed : ∀ s input pc k, G input → I s → Q s pc → Lacks k (S.exec s input pc).1 →
      Owes k (S.exec s input pc).2 ∨ (Lacks k s ∧ ¬Owes k pc))
    (hs : Outlined I Q s) (hlacks : Owed Lacks Owes s) :
    Owed Lacks Owes (run S.step s ops) := by
  induction ops generalizing s with
  | nil => exact hlacks
  | cons o ops ih =>
    have hstart' : ∀ s r, .start r ∈ [o] → Q s (S.start r) := fun s r hr =>
      hstart s r (List.mem_singleton.1 hr ▸ List.mem_cons_self)
    have hinput' : ∀ i input, .next i input ∈ [o] → G input := fun i input hi =>
      hinput i input (List.mem_singleton.1 hi ▸ List.mem_cons_self)
    refine ih (fun s r hr => hstart s r (List.mem_cons_of_mem _ hr))
      (fun i input hi => hinput i input (List.mem_cons_of_mem _ hi))
      (outline_run hstart' hinput' hexec hstable hs) ?_
    cases o with
    | start r => exact owed_start hlacks
    | next i input =>
      have hG := hinput i input List.mem_cons_self
      exact owed_step (fun k pc hpc => howed s.shared input pc k hG hs.1 (hs.2 pc hpc)) hlacks

/-- An assertion about the request `k` and the shared state, and one about each other request. -/
def Alone (k : ℕ) (Q : σ → π → Prop) (P : π → Prop) (s : State σ π) : Prop :=
  (∃ pc, s.requests[k]? = some pc ∧ Q s.shared pc) ∧
    ∀ i ≠ k, ∀ pc, s.requests[i]? = some pc → P pc

theorem alone_start {Q : σ → π → Prop} {P : π → Prop} {r : ρ} (hQ : Q s.shared (S.start r))
    (hP : ∀ pc ∈ s.requests, P pc) : Alone s.requests.length Q P (S.step s (.start r)) := by
  refine ⟨⟨_, List.getElem?_concat_length, hQ⟩, fun i hi pc hpc => ?_⟩
  rcases Nat.lt_or_ge i s.requests.length with hlt | hge
  · rw [step, List.getElem?_append_left hlt] at hpc
    exact hP pc (List.mem_of_getElem? hpc)
  · rw [step, List.getElem?_eq_none (by simp; omega)] at hpc
    cases hpc

theorem alone_step {Q : σ → π → Prop} {P : π → Prop}
    (hmine : ∀ pc, Q s.shared pc → Q (S.exec s.shared input pc).1 (S.exec s.shared input pc).2)
    (hothers : ∀ pc pc', P pc → Q s.shared pc' →
      Q (S.exec s.shared input pc).1 pc' ∧ P (S.exec s.shared input pc).2)
    (hs : Alone k Q P s) : Alone k Q P (S.step s (.next i input)) := by
  obtain ⟨⟨mine, hk, hQ⟩, hP⟩ := hs
  cases h : s.requests[i]? with
  | none =>
    rw [step_next_of_none h]
    exact ⟨⟨mine, hk, hQ⟩, hP⟩
  | some pc =>
    have hlt : i < s.requests.length := (List.getElem?_eq_some_iff.1 h).1
    rw [step_next h]
    by_cases hik : i = k
    · subst hik
      cases hk.symm.trans h
      refine ⟨⟨_, List.getElem?_set_self hlt, hmine _ hQ⟩, fun j hj pc' hpc' => ?_⟩
      exact hP j hj pc' (by rwa [List.getElem?_set_ne (Ne.symm hj)] at hpc')
    · obtain ⟨hQ', hP'⟩ := hothers pc mine (hP i hik pc h) hQ
      refine ⟨⟨mine, by rwa [List.getElem?_set_ne hik], hQ'⟩, fun j hj pc' hpc' => ?_⟩
      by_cases hij : i = j
      · subst hij
        rw [List.getElem?_set_self hlt] at hpc'
        exact Option.some.inj hpc' ▸ hP'
      · exact hP j hj pc' (by rwa [List.getElem?_set_ne hij] at hpc')

/-- What one request keeps, and no other interferes with, holds after every run. -/
theorem alone_run {Q : σ → π → Prop} {P : π → Prop} {G : ι → Prop}
    (hstart : ∀ r, .start r ∈ ops → P (S.start r))
    (hinput : ∀ i input, .next i input ∈ ops → G input)
    (hmine : ∀ s input pc, G input → Q s pc → Q (S.exec s input pc).1 (S.exec s input pc).2)
    (hothers : ∀ s input pc pc', G input → P pc → Q s pc' →
      Q (S.exec s input pc).1 pc' ∧ P (S.exec s input pc).2)
    (hs : Alone k Q P s) : Alone k Q P (run S.step s ops) := by
  induction ops generalizing s with
  | nil => exact hs
  | cons o ops ih =>
    refine ih (fun r hr => hstart r (List.mem_cons_of_mem _ hr))
      (fun i input hi => hinput i input (List.mem_cons_of_mem _ hi)) ?_
    cases o with
    | start r =>
      obtain ⟨⟨mine, hk, hQ⟩, hP⟩ := hs
      have hlt : k < s.requests.length := (List.getElem?_eq_some_iff.1 hk).1
      refine ⟨⟨mine, (List.getElem?_append_left hlt).trans hk, hQ⟩, fun i hi pc hpc => ?_⟩
      rcases Nat.lt_or_ge i s.requests.length with hlt' | hge
      · exact hP i hi pc (by rwa [step, List.getElem?_append_left hlt'] at hpc)
      · rw [step, List.getElem?_append_right hge] at hpc
        rw [List.mem_singleton.1 (List.mem_of_getElem? hpc)]
        exact hstart r List.mem_cons_self
    | next i input =>
      have hG := hinput i input List.mem_cons_self
      exact alone_step (fun pc => hmine s.shared input pc hG)
        (fun pc pc' => hothers s.shared input pc pc' hG) hs

/-! ## Two systems -/

section

variable {σ' π' : Type*} (S) (S' : System σ' π' ρ ι)

/-- Both systems are given the event. -/
def both (s : State σ π × State σ' π') (o : Op ρ ι) : State σ π × State σ' π' :=
  (S.step s.1 o, S'.step s.2 o)

variable {S S'} {s : State σ π × State σ' π'} {I : σ → σ' → Prop} {P : π → π' → Prop}

/-- The shared states are related, and so is each request to its counterpart. -/
def Alike (I : σ → σ' → Prop) (P : π → π' → Prop) (s : State σ π × State σ' π') : Prop :=
  I s.1.shared s.2.shared ∧ List.Forall₂ P s.1.requests s.2.requests

/-- A statement that is about to be executed has `C`. -/
def Executes (C : σ' → ι → π' → Prop) (s : State σ π × State σ' π') : Op ρ ι → Prop
  | .start _ => True
  | .next i input => ∀ pc ∈ s.2.requests[i]?, C s.2.shared input pc

theorem forall₂_set {l : List π} {l' : List π'} {pc : π} {pc' : π'} (h : List.Forall₂ P l l')
    (hP : P pc pc') : List.Forall₂ P (l.set i pc) (l'.set i pc') := by
  induction h generalizing i with
  | nil => exact .nil
  | cons hhead htail ih =>
    cases i with
    | zero => exact .cons hP htail
    | succ i => exact .cons hhead ih

theorem alike_step_iff {C : σ' → ι → π' → Prop}
    (hstart : ∀ r, o = .start r → P (S.start r) (S'.start r))
    (hexec : ∀ i input pc pc', o = .next i input → P pc pc' → I s.1.shared s.2.shared →
      (I (S.exec s.1.shared input pc).1 (S'.exec s.2.shared input pc').1 ∧
        P (S.exec s.1.shared input pc).2 (S'.exec s.2.shared input pc').2 ↔
          C s.2.shared input pc'))
    (hs : Alike I P s) : Alike I P (both S S' s o) ↔ Executes C s o := by
  cases o with
  | start r =>
    exact iff_of_true ⟨hs.1, List.rel_append hs.2 (.cons (hstart r rfl) .nil)⟩ trivial
  | next i input =>
    obtain ⟨hshared, hrequests⟩ := hs
    have hlength : s.1.requests.length = s.2.requests.length := hrequests.length_eq
    rw [both, Executes]
    rcases Nat.lt_or_ge i s.1.requests.length with hlt | hge
    · have hpc := List.getElem?_eq_getElem hlt
      have hpc' := List.getElem?_eq_getElem (hlength ▸ hlt)
      have hP : P s.1.requests[i] s.2.requests[i] := hrequests.get hlt (hlength ▸ hlt)
      rw [step_next hpc, step_next hpc', hpc']
      simp only [Option.mem_def, Option.some.injEq, forall_eq']
      rw [← hexec i input _ _ rfl hP hshared, Alike]
      refine and_congr_right fun _ => ⟨fun h => ?_, forall₂_set hrequests⟩
      have hget := h.get (i := i) (by simpa using hlt) (by simpa using hlength ▸ hlt)
      simpa using hget
    · rw [step_next_of_none (List.getElem?_eq_none hge),
        step_next_of_none (List.getElem?_eq_none (hlength ▸ hge)),
        List.getElem?_eq_none (hlength ▸ hge)]
      exact iff_of_true ⟨hshared, hrequests⟩ fun pc hpc => by cases hpc

/-- The systems stay alike exactly if all statements that are executed have `C`. -/
theorem alike_run_iff {C : σ' → ι → π' → Prop}
    (hstart : ∀ r, .start r ∈ ops → P (S.start r) (S'.start r))
    (hexec : ∀ s s' input pc pc', P pc pc' → I s s' →
      (I (S.exec s input pc).1 (S'.exec s' input pc').1 ∧
        P (S.exec s input pc).2 (S'.exec s' input pc').2 ↔ C s' input pc'))
    (hs : Alike I P s) :
    Guarded (both S S') (fun s o => Alike I P (both S S' s o)) s ops ↔
      Guarded (both S S') (Executes C) s ops := by
  refine Guarded.keeps_iff (G := fun _ o => ∀ r, o = .start r → P (S.start r) (S'.start r))
    (fun s o hG hs => alike_step_iff hG (fun i input pc pc' _ => hexec _ _ _ _ _) hs)
    (Guarded.of_forall ?_) hs
  rintro o ho r rfl
  exact hstart r ho

end

end System

end Interleaving
