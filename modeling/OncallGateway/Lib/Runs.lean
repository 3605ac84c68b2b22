import Mathlib.Logic.Relation

/-! # Runs of a labelled transition system

`Run step s ls s'`: from `s`, the steps labelled `ls`, in that order, lead to
`s'`.  The labels are the history of the run, so that a statement may speak of a
step that was taken and of what has been true since (`Run.invariant` from the state
after it).
-/

section
variable {σ ℓ : Type}

/-- A finite run, with the labels of its steps in order. -/
inductive Run (step : σ → ℓ → σ → Prop) : σ → List ℓ → σ → Prop
  | nil {s : σ} : Run step s [] s
  | cons {s s' s'' : σ} {l : ℓ} {ls : List ℓ} :
      step s l s' → Run step s' ls s'' → Run step s (l :: ls) s''

namespace Run
variable {step : σ → ℓ → σ → Prop}
variable {ls : List ℓ} {s s' : σ}

/-- **The invariant rule**: what every step keeps, every run keeps. -/
theorem invariant {P : σ → Prop} (hstep : ∀ s l s', P s → step s l s' → P s') (h : Run step s ls s')
    (hs : P s) : P s' := by
  induction h with
  | nil => exact hs
  | cons h₁ _ ih => exact ih (hstep _ _ _ hs h₁)

/-- What every step keeps of the state and its history, every run keeps. -/
theorem history {P : List ℓ → σ → Prop}
    (hstep : ∀ ls s l s', P ls s → step s l s' → P (ls ++ [l]) s') (h : Run step s ls s')
    (hs : P [] s) : P ls s' := by
  have key : ∀ before, P before s → P (before ++ ls) s' := by
    clear hs
    induction h with
    | nil => simp
    | cons h₁ _ ih =>
      intro before hb
      simpa using ih _ (hstep _ _ _ _ hb h₁)
  exact key [] hs

/-- The same run, with its steps read under other labels. -/
theorem map {ℓ' : Type} {step' : σ → ℓ' → σ → Prop} {f : ℓ → ℓ'}
    (hstep : ∀ s l s', step s l s' → step' s (f l) s') (h : Run step s ls s') :
    Run step' s (ls.map f) s' := by
  induction h with
  | nil => exact .nil
  | cons h₁ _ ih => exact .cons (hstep _ _ _ h₁) ih

theorem append {s'' : σ} {ms : List ℓ} (h : Run step s ls s') (h' : Run step s' ms s'') :
    Run step s (ls ++ ms) s'' := by
  induction h with
  | nil => exact h'
  | cons h₁ _ ih => exact .cons h₁ (ih h')

theorem single {l : ℓ} (h : step s l s') : Run step s [l] s' := .cons h .nil

/-- A fold of partial steps that gives a state is a run to it. -/
theorem of_foldlM {ε : Type} {f : σ → ℓ → Except ε σ} (hf : ∀ s l s', f s l = .ok s' → step s l s')
    (h : ls.foldlM f s = .ok s') : Run step s ls s' := by
  induction ls generalizing s with
  | nil =>
    cases h
    exact .nil
  | cons l ls ih =>
    rw [List.foldlM_cons] at h
    cases hl : f s l with
    | error e =>
      rw [hl] at h
      cases h
    | ok s₁ =>
      rw [hl] at h
      exact .cons (hf _ _ _ hl) (ih h)

/-- What is reached by steps under some labels is reached by a run. -/
theorem of_reaches (h : Relation.ReflTransGen (fun a b => ∃ l, step a l b) s s') :
    ∃ ls, Run step s ls s' := by
  induction h with
  | refl => exact ⟨[], .nil⟩
  | tail _ h₁ ih =>
    obtain ⟨l, hl⟩ := h₁
    obtain ⟨ls, hls⟩ := ih
    exact ⟨ls ++ [l], hls.append (single hl)⟩

end Run
end
