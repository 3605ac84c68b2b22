import OncallGateway.Lib.Session

/-! # Runs of sessions beside each other

Two facts about runs of several processes.  A process may go through its whole program while
the others wait (`Shared.run_alone`).  And where every intended change leads upwards in a
preorder, the changes of the sessions are ordered, as the commits are: of two changes of
different sessions, one was made in a state that has the other behind it
(`Session.Spec.ordered`).
-/

namespace Shared
variable {E : Type} {R : E → Type} {σ τ α ι : Type} [DecidableEq ι] {sh : Shared E R σ τ}

/-- The configuration with another shared state, and another state of one process. -/
def Config.set (c : Config E R σ τ α ι) (i : ι) (s : σ) (t : τ) (p : Prog E R α) :
    Config E R σ τ α ι where
  shared := s
  locals := Function.update c.locals i t
  progs := Function.update c.progs i p

theorem Config.set_set (c : Config E R σ τ α ι) (i : ι) (s s' : σ) (t t' : τ) (p p' : Prog E R α) :
    (c.set i s t p).set i s' t' p' = c.set i s' t' p' := by
  simp only [Config.set, Function.update_idem]

theorem Config.set_self (c : Config E R σ τ α ι) (i : ι) :
    c.set i c.shared (c.locals i) (c.progs i) = c := by
  simp only [Config.set, Function.update_eq_self]

omit [DecidableEq ι] in
/-- A process that makes no step stays as it is. -/
theorem run_waits {c c' : Config E R σ τ α ι} {is : List ι} (h : Run sh.Step c is c') {i : ι}
    (hi : i ∉ is) : c'.locals i = c.locals i ∧ c'.progs i = c.progs i := by
  induction h with
  | nil => exact ⟨rfl, rfl⟩
  | cons hstep _ ih =>
    rw [List.mem_cons, not_or] at hi
    obtain ⟨_, _, _, _, _, _, hother⟩ := hstep
    obtain ⟨hlocal, hprog, -⟩ := hother i hi.1
    exact ⟨(ih hi.2).1.trans hlocal, (ih hi.2).2.trans hprog⟩

/-- A call of a process, with the others in these states. -/
def Alone (sh : Shared E R σ τ) (others : ι → τ) (i : ι) (q : σ × τ) (e : E) (r : R e)
    (q' : σ × τ) : Prop :=
  sh.act q.1 q.2 e r q'.2 q'.1 ∧ ∀ j, j ≠ i → sh.compatible q'.2 (others j)

/-- **One process goes through its program while the others wait.** -/
theorem run_alone {others : ι → τ} {c : Config E R σ τ α ι} {i : ι} {p : Prog E R α} {a : α}
    {q q' : σ × τ} (h : p.Runs (sh.Alone others i) q a q') (hp : c.progs i = p)
    (hq : (c.shared, c.locals i) = q) (hothers : ∀ j, j ≠ i → c.locals j = others j) :
    ∃ n, Run sh.Step c (List.replicate n i) (c.set i q'.1 q'.2 (.ret a)) := by
  induction h generalizing c with
  | ret =>
    refine ⟨0, ?_⟩
    rw [← hq, ← hp, Config.set_self]
    exact .nil
  | @call _ q₁ _ e r k _ hstep _ ih =>
    subst hq
    have hlocals : ∀ j, j ≠ i → (c.set i q₁.1 q₁.2 (k r)).locals j = c.locals j :=
      fun j hj => Function.update_of_ne hj _ _
    have hprogs : ∀ j, j ≠ i → (c.set i q₁.1 q₁.2 (k r)).progs j = c.progs j :=
      fun j hj => Function.update_of_ne hj _ _
    obtain ⟨n, hrun⟩ := @ih (c.set i q₁.1 q₁.2 (k r)) (Function.update_self ..)
      (Prod.ext rfl (Function.update_self ..)) fun j hj => (hlocals j hj).trans (hothers j hj)
    rw [Config.set_set] at hrun
    refine ⟨n + 1, .cons ⟨e, k, r, hp, ?_, Function.update_self .., fun j hj => ?_⟩ hrun⟩
    · rw [show (c.set i q₁.1 q₁.2 (k r)).locals i = q₁.2 from Function.update_self ..]
      exact hstep.1
    · rw [show (c.set i q₁.1 q₁.2 (k r)).locals i = q₁.2 from Function.update_self .., hothers j hj]
      exact ⟨(hlocals j hj).trans (hothers j hj), hprogs j hj, hstep.2 j hj⟩

end Shared

namespace Session.Spec
variable {ε S X σ τ : Type} {A : S → Type} {B : X → Type} {spec : Spec ε A B σ τ}

/-- A call adds to the log the change that it makes, if it makes one. -/
theorem act_own {s s' : σ} {l l' : Local σ τ} {request : Request S X}
    {reply : Reply ε A B request} (h : spec.act s l request reply l' s') :
    l'.own = l.own ∨ l'.own = l.own ++ [(s, s')] := by
  have hdropped : Dropped s l l' s' → l'.own = l.own := fun h => by rw [h.2]
  have hkept : spec.Kept s l l' s' → l'.own = l.own ∨ l'.own = l.own ++ [(s, s')] := by
    intro h
    unfold Kept at h
    split at h
    · exact .inl (by rw [h.2])
    · exact .inl (by rw [h.2])
    · exact .inr (by rw [h.2])
  match request, reply with
  | .db .acquire, _ => exact .inl (by rw [h.2])
  | .db (.begin _), .opened => exact .inl (by rw [h.2])
  | .db (.begin _), .absent => exact .inl (by rw [h.2])
  | .db (.begin _), .failed _ _ => exact .inl (by rw [h.2])
  | .db (.send _), _ =>
    obtain ⟨-, h⟩ := h
    split at h
    · exact .inl (by rw [h])
    · obtain ⟨t, -, h⟩ := h
      exact .inl (by rw [h])
  | .db .commit, none => exact hkept h
  | .db .commit, some _ => exact h.elim (fun h => .inl (hdropped h)) fun h => hkept h.2
  | .db .rollback, none => exact .inl (hdropped h)
  | .db .rollback, some _ => exact h.elim (fun h => .inl (hdropped h)) fun h => hkept h.2
  | .db .release, _ => exact .inl (by rw [h.2])
  | .db .destroy, _ => exact .inl (by rw [h.2])
  | .outside _, _ => exact .inl (by rw [h.2.1])

variable {α ι : Type} {le : σ → σ → Prop}

/-- Every change is behind the shared state, and of two changes of different sessions one is
behind the other. -/
structure Ordered (le : σ → σ → Prop)
    (c : Shared.Config (Request S X) (Reply ε A B) σ (Local σ τ) α ι) : Prop where
  past : ∀ i, ∀ x ∈ (c.locals i).own, le x.2 c.shared
  order : ∀ i j, i ≠ j → ∀ x ∈ (c.locals i).own, ∀ y ∈ (c.locals j).own, le x.2 y.1 ∨ le y.2 x.1

variable {Q : ι → α → σ × Local σ τ → Prop}
  {c c' : Shared.Config (Request S X) (Reply ε A B) σ (Local σ τ) α ι}

/-- One step keeps the order: a new change is made in the shared state. -/
theorem Ordered.step (hrefl : ∀ s, le s s) (htrans : ∀ s s' s'', le s s' → le s' s'' → le s s'')
    (h : Ordered le c) {i : ι} (hup : le c.shared c'.shared)
    (hown : (c'.locals i).own = (c.locals i).own ∨
      (c'.locals i).own = (c.locals i).own ++ [(c.shared, c'.shared)])
    (hother : ∀ j, j ≠ i → c'.locals j = c.locals j) : Ordered le c' := by
  -- what is in the log of a process after the step
  have hmem : ∀ j, ∀ x ∈ (c'.locals j).own,
      x ∈ (c.locals j).own ∨ j = i ∧ x = (c.shared, c'.shared) := by
    intro j x hx
    by_cases hj : j = i
    · subst hj
      rcases hown with hown | hown
      · exact .inl (hown ▸ hx)
      · rw [hown, List.mem_append, List.mem_singleton] at hx
        exact hx.imp_right fun hx => ⟨rfl, hx⟩
    · exact .inl (hother j hj ▸ hx)
  refine ⟨fun j x hx => ?_, fun j j' hne x hx y hy => ?_⟩
  · rcases hmem j x hx with hx | ⟨-, rfl⟩
    · exact htrans _ _ _ (h.past j x hx) hup
    · exact hrefl _
  · rcases hmem j x hx with hx | ⟨hj, rfl⟩
    · rcases hmem j' y hy with hy | ⟨-, rfl⟩
      · exact h.order j j' hne x hx y hy
      · exact .inl (h.past j x hx)
    · rcases hmem j' y hy with hy | ⟨hj', rfl⟩
      · exact .inr (h.past j' y hy)
      · exact absurd (hj.trans hj'.symm) hne

/-- **Where intended changes lead upwards, the changes of the sessions are ordered** in every
interleaving. -/
theorem ordered (hkeep : ¬ spec.mayKeep) (hl : spec.shared.Lawful)
    (hQ : ∀ i a l s s', spec.shared.rely l s s' → Q i a (s, l) → Q i a (s', l))
    (hrefl : ∀ s, le s s) (htrans : ∀ s s' s'', le s s' → le s' s'' → le s s'')
    (hup : ∀ t s s', spec.intended t s s' → le s s') {is : List ι}
    (hrun : Run spec.shared.Step c is c') (hc : spec.shared.Correct Q c) (h : Ordered le c) :
    Ordered le c' := by
  refine (hrun.invariant (P := fun c => spec.shared.Correct Q c ∧ Ordered le c) ?_ ⟨hc, h⟩).2
  rintro c i c' ⟨hc, h⟩ hstep
  obtain ⟨hc', request, reply, hpre, hact⟩ := hl.step hQ hc hstep
  obtain ⟨_, _, _, _, _, _, hother⟩ := hstep
  refine ⟨hc', h.step hrefl htrans ?_ (act_own hact) fun j hj => (hother j hj).1⟩
  rcases act_cases hkeep hpre hact with hs | ⟨t, -, hintended⟩
  · exact hs ▸ hrefl _
  · exact hup t _ _ hintended

end Session.Spec
