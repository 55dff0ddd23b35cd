import Mathlib.Data.List.Basic

/-!
# Runs

A deterministic system takes a step for every operation it is given; its run on
a list of operations ends in the state `run step s ops`. Nondeterminism (a clock,
a random number, a call that may fail) is part of the operation.

The rules: an invariant kept by every step holds after every run
(`run_invariant`); and where it is only kept by the steps that meet a condition on
the state they start from, it holds after every run all of whose steps meet it
(`Guarded.invariant`); and what one operation establishes and the others keep holds at
the end (`Guarded.established`). Where a step keeps the invariant exactly if it meets a
condition, so does a run (`Guarded.keeps_iff`). Since the operations up to any point of
a run are a run, a rule about the last state of every run is one about every state
reached. A relation between two systems is an invariant of the pair of them.
-/

namespace Run

variable {σ ι : Type*}

/-- The state reached from `s` by the operations `ops`. -/
def run (step : σ → ι → σ) (s : σ) (ops : List ι) : σ := ops.foldl step s

section

variable {step : σ → ι → σ} {s : σ} {o : ι} {ops ops' : List ι}

@[simp]
theorem run_nil : run step s [] = s := rfl

@[simp]
theorem run_cons : run step s (o :: ops) = run step (step s o) ops := rfl

theorem run_append : run step s (ops ++ ops') = run step (run step s ops) ops' :=
  List.foldl_append

/-- What every step keeps holds after every run. -/
theorem run_invariant {I : σ → Prop} (hstep : ∀ s o, I s → I (step s o)) (hs : I s) :
    I (run step s ops) := by
  induction ops generalizing s with
  | nil => exact hs
  | cons o ops ih => exact ih (hstep s o hs)

end

/-- Every step of the run from `s` meets the condition `G`, on the state it starts
    from and its operation. -/
def Guarded (step : σ → ι → σ) (G : σ → ι → Prop) : σ → List ι → Prop
  | _, [] => True
  | s, o :: ops => G s o ∧ Guarded step G (step s o) ops

instance instDecidableGuarded {step : σ → ι → σ} {G : σ → ι → Prop} [∀ s o, Decidable (G s o)] :
    ∀ (s : σ) (ops : List ι), Decidable (Guarded step G s ops)
  | _, [] => isTrue trivial
  | s, o :: ops =>
    have : Decidable (Guarded step G (step s o) ops) := instDecidableGuarded (step s o) ops
    inferInstanceAs (Decidable (G s o ∧ Guarded step G (step s o) ops))

namespace Guarded

variable {step : σ → ι → σ} {G : σ → ι → Prop} {s : σ} {ops ops' : List ι}

theorem append : Guarded step G s (ops ++ ops') ↔
    Guarded step G s ops ∧ Guarded step G (run step s ops) ops' := by
  induction ops generalizing s with
  | nil => simp [Guarded]
  | cons o ops ih => simp [Guarded, ih, and_assoc]

/-- What every step meeting the condition keeps holds after every guarded run. -/
theorem invariant {I : σ → Prop} (hstep : ∀ s o, G s o → I s → I (step s o))
    (h : Guarded step G s ops) (hs : I s) : I (run step s ops) := by
  induction ops generalizing s with
  | nil => exact hs
  | cons o ops ih => exact ih h.2 (hstep s o h.1 hs)

theorem imp {G' : σ → ι → Prop} (himp : ∀ s o, G s o → G' s o) (h : Guarded step G s ops) :
    Guarded step G' s ops := by
  induction ops generalizing s with
  | nil => trivial
  | cons o ops ih => exact ⟨himp s o h.1, ih h.2⟩

theorem and {G' : σ → ι → Prop} (h : Guarded step G s ops) (h' : Guarded step G' s ops) :
    Guarded step (fun s o => G s o ∧ G' s o) s ops := by
  induction ops generalizing s with
  | nil => trivial
  | cons o ops ih => exact ⟨⟨h.1, h'.1⟩, ih h.2 h'.2⟩

/-- A condition on the operations alone. -/
theorem of_forall {P : ι → Prop} (h : ∀ o ∈ ops, P o) : Guarded step (fun _ o => P o) s ops := by
  induction ops generalizing s with
  | nil => trivial
  | cons o ops ih =>
    exact ⟨h o List.mem_cons_self, ih fun o' ho' => h o' (List.mem_cons_of_mem _ ho')⟩

/-- What an invariant of the run gives. -/
theorem of_invariant {I : σ → Prop} (h : ∀ s, ∀ o ∈ ops, I s → G s o ∧ I (step s o)) (hs : I s) :
    Guarded step G s ops := by
  induction ops generalizing s with
  | nil => trivial
  | cons o ops ih =>
    obtain ⟨hG, hI⟩ := h s o List.mem_cons_self hs
    exact ⟨hG, ih (fun s' o' ho' => h s' o' (List.mem_cons_of_mem _ ho')) hI⟩

/-- Every step of a guarded run starts from a state with the invariant. -/
theorem and_invariant {I : σ → Prop} (hstep : ∀ s o, G s o → I s → I (step s o))
    (h : Guarded step G s ops) (hs : I s) : Guarded step (fun s o => G s o ∧ I s) s ops := by
  induction ops generalizing s with
  | nil => trivial
  | cons o ops ih => exact ⟨⟨h.1, hs⟩, ih h.2 (hstep s o h.1 hs)⟩

/-- What holds at the end, and before a step whenever it does after it, has held after every
    step. -/
theorem of_final {P : σ → Prop} (hback : ∀ s o, P (step s o) → P s) (h : P (run step s ops)) :
    Guarded step (fun s o => P (step s o)) s ops ∧ P s := by
  induction ops generalizing s with
  | nil => exact ⟨trivial, h⟩
  | cons o ops ih =>
    obtain ⟨hguarded, ho⟩ := ih h
    exact ⟨⟨ho, hguarded⟩, hback s o ho⟩

/-- Where a step that meets `G` keeps the invariant exactly if it meets `C`, a run keeps it
    throughout exactly if all its steps do. -/
theorem keeps_iff {I : σ → Prop} {C : σ → ι → Prop}
    (hstep : ∀ s o, G s o → I s → (I (step s o) ↔ C s o)) (h : Guarded step G s ops) (hs : I s) :
    Guarded step (fun s o => I (step s o)) s ops ↔ Guarded step C s ops := by
  induction ops generalizing s with
  | nil => exact .rfl
  | cons o ops ih =>
    rw [Guarded, Guarded, ← hstep s o h.1 hs]
    exact and_congr_right fun ho => ih h.2 ho

/-- What one operation of the run establishes, and all of them keep, holds after it. -/
theorem established {I Q : σ → Prop} {o : ι} (hstep : ∀ s o, G s o → I s → I (step s o))
    (hset : ∀ s, G s o → I s → Q (step s o)) (hkeep : ∀ s o, G s o → I s → Q s → Q (step s o))
    (ho : o ∈ ops) (h : Guarded step G s ops) (hs : I s) : Q (run step s ops) := by
  obtain ⟨ops₁, ops₂, rfl⟩ := List.append_of_mem ho
  obtain ⟨h₁, ho, h₂⟩ := append.1 h
  have hI := h₁.invariant hstep hs
  have hrun := h₂.invariant (I := fun s => I s ∧ Q s)
    (fun s o hG hs => ⟨hstep s o hG hs.1, hkeep s o hG hs.1 hs.2⟩)
    ⟨hstep _ o ho hI, hset _ ho hI⟩
  rw [run_append, run_cons]
  exact hrun.2

end Guarded

end Run
