import OncallGateway.Lib.Program

/-! # Programs over programs

A program may be written over an interface whose calls are themselves programs over
another one.  `Prog.implement` puts the two together: each call of the upper layer is
carried out by its handler, and the program ends with its value and with the calls of
the upper layer it has made, in order, and their answers.

The two layers are proved apart.  Of the upper program one shows, with nothing assumed
of the answers, what its record tells when it ends (`Prog.recorder`); of the handlers,
that each keeps what is claimed of the record and the state below.  `wp_implement`
is the rule that combines them.

Where the calls of the upper layer have a meaning of their own, as steps of an environment,
the handlers are shown to make such steps, and what was proved of the upper program holds of
both together (`Prog.expand`, `wp_expand`).
-/

namespace Prog
variable {E E' : Type} {R : E → Type} {R' : E' → Type} {α σ : Type}

/-- The environment that may answer anything, and keeps a record of its answers. -/
def recording (mayStop : Prop) : Environment E R (List (Sigma R)) where
  pre _ _ := True
  step record e r record' := record' = record ++ [⟨e, r⟩]
  stops _ _ := mayStop

@[inherit_doc recording]
abbrev recorder : Environment E R (List (Sigma R)) := recording True

variable {mayStop : Prop}
variable {record : List (Sigma R)} {Q : α → List (Sigma R) → Prop} {a : α} {p : Prog E R α}
  {s s' : σ} {f : E → E'} {answer : σ → (e : E') → R' e × σ} {handler : (e : E) → Prog E' R' (R e)}

@[simp] theorem wp_record {e : E} {Q : R e → List (Sigma R) → Prop} :
    (request e).wp (recording mayStop) Q record ↔ ∀ r, Q r (record ++ [⟨e, r⟩]) := by
  constructor
  · exact fun h r => h.2 r _ rfl
  · intro h
    refine ⟨trivial, ?_⟩
    rintro r _ rfl
    exact h r

/-- What is proved with nothing assumed of the answers holds in every environment. -/
theorem wp_recorder_sound {step : σ → (e : E) → R e → σ → Prop} {trace : List (Sigma R)}
    (h : p.wp (recording mayStop) Q record) (ht : p.Traces step s trace a s') :
    Q a (record ++ trace) := by
  induction ht generalizing record with
  | ret =>
    rw [List.append_nil]
    exact h
  | call _ _ ih =>
    rw [List.append_cons]
    exact ih (h.2 _ _ rfl)

/-- A record only grows, whatever the program does. -/
theorem Yields.wp_recorder {P : α → Prop} (h : p.Yields P)
    (hQ : ∀ a part, P a → Q a (record ++ part)) : p.wp recorder Q record := by
  induction p generalizing record with
  | ret a =>
    have hend := hQ a [] h
    rw [List.append_nil] at hend
    exact hend
  | call e k ih =>
    refine ⟨trivial, ?_⟩
    rintro r _ rfl
    refine ih r (h r) fun a part ha => ?_
    have hend := hQ a (⟨e, r⟩ :: part) ha
    rw [List.append_cons] at hend
    exact hend
  | stop reason => trivial

/-- What is in a record stays in it. -/
theorem wp_recorder_mem (h : p.wp recorder Q record) :
    p.wp recorder (fun a record' => Q a record' ∧ record ⊆ record') record := by
  induction p generalizing record with
  | ret a => exact ⟨h, fun _ hx => hx⟩
  | call e k ih =>
    refine ⟨trivial, ?_⟩
    rintro r _ rfl
    refine wp_mono (ih r (h.2 r _ rfl)) fun a record' hQ => ⟨hQ.1, fun x hx => ?_⟩
    exact hQ.2 (List.mem_append_left _ hx)
  | stop reason => exact h

/-- A record is split in one way at the only exchange of a kind. -/
theorem record_split {ε : Type} {k : ε → Bool} {before before' after after' : List ε} {x y : ε}
    (h : before ++ x :: after = before' ++ y :: after') (hy : k y = true)
    (hbefore : ∀ z ∈ before, k z = false) (hafter : ∀ z ∈ after, k z = false) :
    before' = before ∧ y = x ∧ after' = after := by
  have hne : ∀ z, k z = false → z ≠ y := by
    rintro z hz rfl
    cases hy.symm.trans hz
  induction before generalizing before' with
  | nil =>
    cases before' with
    | nil =>
      obtain ⟨rfl, rfl⟩ := List.cons.inj h
      exact ⟨rfl, rfl, rfl⟩
    | cons z before' =>
      have hmem : y ∈ after := by
        rw [(List.cons.inj h).2]
        exact List.mem_append_right _ List.mem_cons_self
      exact absurd rfl (hne y (hafter y hmem))
  | cons z before ih =>
    cases before' with
    | nil => exact absurd (List.cons.inj h).1 (hne z (hbefore z List.mem_cons_self))
    | cons z' before' =>
      obtain ⟨rfl, hrest⟩ := List.cons.inj h
      obtain ⟨rfl, rfl, rfl⟩ := ih hrest fun w hw => hbefore w (List.mem_cons_of_mem _ hw)
      exact ⟨rfl, rfl, rfl⟩

/-- The program over a wider interface, of whose calls its own are a part. -/
def within (f : E → E') : Prog E (fun e => R' (f e)) α → Prog E' R' α
  | .ret a => .ret a
  | .call e k => .call (f e) fun r => within f (k r)
  | .stop reason => .stop reason

theorem Yields.within {P : α → Prop} {p : Prog E (fun e => R' (f e)) α} (h : p.Yields P) :
    (p.within f).Yields P := by
  induction p with
  | ret a => exact h
  | call e k ih => exact fun r => ih r (h r)
  | stop reason => trivial

theorem eval_within {p : Prog E (fun e => R' (f e)) α} :
    eval answer (p.within f) s = eval (fun s e => answer s (f e)) p s := by
  induction p generalizing s with
  | ret a => rfl
  | call e k ih => exact ih _
  | stop reason => rfl

/-- What the record of a program tells is told by the part it adds to a wider record. -/
theorem wp_within_recorder {p : Prog E (fun e => R' (f e)) α}
    {Q : α → List (Sigma fun e => R' (f e)) → Prop} {record : List (Sigma fun e => R' (f e))}
    {wide : List (Sigma R')} (h : p.wp recorder Q record) :
    (p.within f).wp recorder (fun a wide' => ∃ part, Q a (record ++ part) ∧
      wide' = wide ++ part.map fun exchange => ⟨f exchange.1, exchange.2⟩) wide := by
  induction p generalizing record wide with
  | ret a =>
    refine ⟨[], ?_, by simp⟩
    rw [List.append_nil]
    exact h
  | call e k ih =>
    refine ⟨trivial, ?_⟩
    rintro r _ rfl
    refine wp_mono (ih r (h.2 r _ rfl)) ?_
    rintro a _ ⟨part, hQ, rfl⟩
    exact ⟨⟨e, r⟩ :: part, by simpa using hQ, by simp⟩
  | stop reason => trivial

/-- The program, its calls carried out by the handlers; it ends with its record as well. -/
def implement (handler : (e : E) → Prog E' R' (R e)) :
    Prog E R α → Prog E' R' (List (Sigma R) × α)
  | .ret a => pure ([], a)
  | .call e k => do
    let r ← handler e
    let rest ← implement handler (k r)
    return (⟨e, r⟩ :: rest.1, rest.2)
  | .stop reason => .stop reason

/-- **The rule for two layers.** -/
theorem wp_implement {env : Environment E' R' σ} {I : List (Sigma R) → σ → Prop}
    (hcall : ∀ record e s, I record s →
      (handler e).wp env (fun r s' => I (record ++ [⟨e, r⟩]) s') s)
    (hstop : ∀ s reason, env.stops s reason) (hp : p.wp recorder Q record) (hI : I record s) :
    (p.implement handler).wp env
      (fun last s' => I (record ++ last.1) s' ∧ Q last.2 (record ++ last.1)) s := by
  induction p generalizing record s with
  | ret a =>
    refine wp_pure.mpr ?_
    rw [List.append_nil]
    exact ⟨hI, hp⟩
  | call e k ih =>
    rw [implement, wp_bind]
    refine wp_mono (hcall record e s hI) fun r s' hI' => ?_
    rw [wp_bind]
    refine wp_mono (ih r (hp.2 r _ rfl) hI') fun rest s'' h => ?_
    rw [wp_pure, List.append_cons]
    exact h
  | stop reason => exact hstop s reason

/-- The program, its calls carried out by the handlers. -/
def expand (handler : (e : E) → Prog E' R' (R e)) : Prog E R α → Prog E' R' α
  | .ret a => .ret a
  | .call e k => handler e >>= fun r => expand handler (k r)
  | .stop reason => .stop reason

theorem expand_bind {β : Type} (handler : (e : E) → Prog E' R' (R e)) (p : Prog E R α)
    (f : α → Prog E R β) :
    (p >>= f).expand handler = p.expand handler >>= fun a => (f a).expand handler := by
  show (p.bind f).expand handler = _
  induction p with
  | ret a => rfl
  | call e k ih =>
    rw [expand, bind_assoc]
    exact bind_congr ih
  | stop reason => rfl

/-- **Handlers that make the steps of the upper layer** lead to what the upper program was
shown to end with.  The state below may hold more, of which `I` is kept. -/
theorem wp_expand {ρ : Type} {env : Environment E R σ} {env' : Environment E' R' ρ} {f : ρ → σ}
    {I : ρ → Prop} (hcall : ∀ e s, I s → env.pre (f s) e →
      (handler e).wp env' (fun r s' => env.step (f s) e r (f s') ∧ I s') s)
    (hstop : ∀ s reason, env'.stops s reason) {Q : α → σ → Prop} {s : ρ} (hp : p.wp env Q (f s))
    (hI : I s) :
    (p.expand handler).wp env' (fun a s' => Q a (f s') ∧ I s') s := by
  induction p generalizing s with
  | ret a => exact ⟨hp, hI⟩
  | call e k ih =>
    rw [expand, wp_bind]
    refine wp_mono (hcall e s hI hp.1) fun r s' hstep => ?_
    exact ih r (hp.2 r _ hstep.1) hstep.2
  | stop reason => exact hstop s reason

/-- What the handlers have come to is an execution of the program above them. -/
theorem traces_of_eval_implement {step : σ → (e : E') → R' e → σ → Prop}
    (hanswer : ∀ s e, step s e (answer s e).1 (answer s e).2)
    (h : eval answer (p.implement handler) s = (.ok (record, a), s')) :
    p.Traces (fun s e r s' => (handler e).Runs step s r s') s record a s' := by
  induction p generalizing s record with
  | ret b =>
    cases h
    exact .ret
  | call e k ih =>
    obtain ⟨r, s₁, hr, hrest⟩ := eval_bind_eq_ok h
    obtain ⟨⟨record', a'⟩, s₂, hrecord, hlast⟩ := eval_bind_eq_ok hrest
    cases hlast
    exact .call (eval_runs hanswer hr) (ih r hrecord)
  | stop reason => cases h

/-- **Two layers run as one**: the record is kept beside what the program comes to. -/
theorem eval_implement (h : eval answer (p.expand handler) s = (.ok a, s')) :
    ∃ record, eval answer (p.implement handler) s = (.ok (record, a), s') := by
  induction p generalizing s with
  | ret b =>
    cases h
    exact ⟨[], rfl⟩
  | call e k ih =>
    obtain ⟨r, s₁, hr, hrest⟩ := eval_bind_eq_ok h
    obtain ⟨record, hrecord⟩ := ih r hrest
    refine ⟨⟨e, r⟩ :: record, ?_⟩
    rw [implement, eval_bind hr, eval_bind hrecord]
    rfl
  | stop reason => cases h

end Prog
