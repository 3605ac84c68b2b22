import Mathlib.Logic.Basic

/-! # Programs that call their environment

A `Prog E R α` is a sequential program that ends with a value of type `α` and on
the way calls its environment: `E` is the type of calls and `R e` what the call
`e` answers.  Instead of ending it may stop, in a panic or in a loop without an end.
Nothing is fixed about the environment.  It is given, when the
program is run, as a step relation `step s e r s'`: in state `s` the call `e` may
answer `r` and leave the state `s'`.  A relation, not a function, so that one
environment holds every fault it may choose to make.  With it comes `pre s e`, what
the environment asks of a program that calls `e` in state `s`, and `stops s reason`,
whether it lets the program stop there.

`Runs` lists the executions of a program that end, `Traces` does so together with the calls
that were made and their answers, and `Stops` those that stop.  `wp` computes what must hold
before it so that every call is made as the environment asks, the program stops only where it
may, and `Q` holds after every execution that ends (`wp_sound`, `stops_of_wp`).  Proofs
about a program rewrite `wp` along its text (`wp_pure`, `wp_bind`, `wp_request`) and pass a
called program's own statement on by `wp_mono`.  `Prog.eval` runs a program against one
environment that always answers the same way (`eval_bind`); its result is one of the
executions (`eval_runs`).
-/

/-- How a program stops: in a panic, or in a loop that does not end. -/
inductive Stop where
  | panic
  | loop
deriving DecidableEq

/-- A program whose calls are the `e : E`, answered by an `R e`. -/
inductive Prog (E : Type) (R : E → Type) (α : Type) where
  | ret (a : α)
  | call (e : E) (k : R e → Prog E R α)
  | stop (reason : Stop)

/-- What a program may call: what a call asks for, and what it does.  Unless it is said otherwise
the program may stop. -/
structure Environment (E : Type) (R : E → Type) (σ : Type) where
  pre : σ → E → Prop
  step : σ → (e : E) → R e → σ → Prop
  stops : σ → Stop → Prop := fun _ _ => True

namespace Prog
variable {E : Type} {R : E → Type} {α β σ : Type}

/-- Run the first program, then the second on its value. -/
def bind : Prog E R α → (α → Prog E R β) → Prog E R β
  | .ret a, f => f a
  | .call e k, f => .call e fun r => (k r).bind f
  | .stop reason, _ => .stop reason

instance : Monad (Prog E R) where
  pure := .ret
  bind := Prog.bind

theorem bind_ret (p : Prog E R α) : p.bind .ret = p := by
  induction p with
  | ret a => rfl
  | call e k ih => exact congrArg (Prog.call e) (funext ih)
  | stop reason => rfl

theorem bind_bind {γ : Type} (p : Prog E R α) (f : α → Prog E R β) (g : β → Prog E R γ) :
    (p.bind f).bind g = p.bind fun a => (f a).bind g := by
  induction p with
  | ret a => rfl
  | call e k ih => exact congrArg (Prog.call e) (funext ih)
  | stop reason => rfl

instance : LawfulMonad (Prog E R) := LawfulMonad.mk' _ bind_ret (fun _ _ => rfl) bind_bind

/-- The program that makes one call and ends with its answer. -/
def request (e : E) : Prog E R (R e) := .call e .ret

/-- A computation without calls: its value, or it stops. -/
def settle : Except Stop α → Prog E R α
  | .ok a => .ret a
  | .error reason => .stop reason

instance : MonadLift (Except Stop) (Prog E R) := ⟨settle⟩

/-- The value of a program that has ended. -/
def value? : Prog E R α → Option α
  | .ret a => some a
  | .call _ _ => none
  | .stop _ => none

variable {a : α} {p : Prog E R α} {s s' : σ} {step : σ → (e : E) → R e → σ → Prop}
  {Q : α → σ → Prop} {f : α → Prog E R β} {x : Except Stop α} {P : α → Prop}
  {answer : σ → (e : E) → R e × σ}

theorem eq_ret_of_value? (h : p.value? = some a) : p = .ret a := by
  cases p with
  | ret b => rw [Option.some.inj h]
  | call e k => cases h
  | stop reason => cases h

/-! ## Executions -/

/-- `Runs step s p a s'`: started in `s`, the program `p` may end with the value
`a` in the state `s'`. -/
inductive Runs (step : σ → (e : E) → R e → σ → Prop) : σ → Prog E R α → α → σ → Prop
  | ret {s : σ} {a : α} : Runs step s (.ret a) a s
  | call {s s' s'' : σ} {e : E} {r : R e} {k : R e → Prog E R α} {a : α} :
      step s e r s' → Runs step s' (k r) a s'' → Runs step s (.call e k) a s''

/-- An execution, with the calls that were made and their answers. -/
inductive Traces (step : σ → (e : E) → R e → σ → Prop) :
    σ → Prog E R α → List (Sigma R) → α → σ → Prop
  | ret {s : σ} {a : α} : Traces step s (.ret a) [] a s
  | call {s s' s'' : σ} {e : E} {r : R e} {k : R e → Prog E R α} {trace : List (Sigma R)} {a : α} :
      step s e r s' → Traces step s' (k r) trace a s'' →
      Traces step s (.call e k) (⟨e, r⟩ :: trace) a s''

/-- An execution that stops, with the calls that were made before and their answers. -/
inductive Stops (step : σ → (e : E) → R e → σ → Prop) :
    σ → Prog E R α → List (Sigma R) → Stop → σ → Prop
  | stop {s : σ} {reason : Stop} : Stops step s (.stop reason) [] reason s
  | call {s s' s'' : σ} {e : E} {r : R e} {k : R e → Prog E R α} {trace : List (Sigma R)}
      {reason : Stop} : step s e r s' → Stops step s' (k r) trace reason s'' →
      Stops step s (.call e k) (⟨e, r⟩ :: trace) reason s''

variable {trace : List (Sigma R)}

/-- What only some calls can change is kept by an execution without them. -/
theorem Traces.unchanged {ρ : Type} {f : σ → ρ} {quiet : E → Prop}
    (hstep : ∀ s e r s', step s e r s' → quiet e → f s' = f s) (h : Traces step s p trace a s')
    (hquiet : ∀ exchange ∈ trace, quiet exchange.1) :
    f s' = f s := by
  induction h with
  | ret => rfl
  | call h₁ _ ih =>
    refine (ih fun exchange hmem => hquiet exchange (List.mem_cons_of_mem _ hmem)).trans ?_
    exact hstep _ _ _ _ h₁ (hquiet _ List.mem_cons_self)

/-- What must hold of the state before `p` so that its calls are made as they are
asked for, it stops only where it may, and `Q` holds of the value and the state after every
execution that ends. -/
def wp (env : Environment E R σ) : Prog E R α → (α → σ → Prop) → σ → Prop
  | .ret a, Q, s => Q a s
  | .call e k, Q, s => env.pre s e ∧ ∀ r s', env.step s e r s' → wp env (k r) Q s'
  | .stop reason, _, s => env.stops s reason

variable {env : Environment E R σ}

/-- **The weakest precondition speaks of every execution.** -/
theorem wp_sound (h : wp env p Q s) (hr : Runs env.step s p a s') : Q a s' := by
  induction hr with
  | ret => exact h
  | call hstep _ ih => exact ih (h.2 _ _ hstep)

@[inherit_doc wp_sound]
theorem stops_of_wp {reason : Stop} (h : wp env p Q s) (hs : Stops env.step s p trace reason s') :
    env.stops s' reason := by
  induction hs with
  | stop => exact h
  | call hstep _ ih => exact ih (h.2 _ _ hstep)

@[simp] theorem wp_pure :
    wp env (pure a : Prog E R α) Q s ↔ Q a s := Iff.rfl

@[simp] theorem wp_request {e : E} {Q : R e → σ → Prop} :
    wp env (request e) Q s ↔ env.pre s e ∧ ∀ r s', env.step s e r s' → Q r s' := Iff.rfl

@[simp] theorem wp_bind {Q : β → σ → Prop} :
    wp env (p >>= f) Q s ↔ wp env p (fun a s' => wp env (f a) Q s') s := by
  show wp env (p.bind f) Q s ↔ _
  induction p generalizing s with
  | ret a => exact Iff.rfl
  | call e k ih =>
    exact and_congr_right fun _ => forall_congr' fun r => forall_congr' fun s' =>
      imp_congr_right fun _ => ih r
  | stop reason => exact Iff.rfl

/-- A computation without calls. -/
theorem wp_settle (hstop : ∀ reason, x = .error reason → env.stops s reason)
    (h : ∀ a, x = .ok a → Q a s) :
    wp env (liftM x : Prog E R α) Q s := by
  cases x with
  | error reason => exact hstop reason rfl
  | ok a => exact h a rfl

theorem wp_settled (hx : ∃ a, x = .ok a) (h : ∀ a, x = .ok a → Q a s) :
    wp env (liftM x : Prog E R α) Q s := by
  obtain ⟨a, rfl⟩ := hx
  exact h a rfl

/-- The rule of consequence. -/
theorem wp_mono {Q' : α → σ → Prop} (h : wp env p Q s) (hQ : ∀ a s', Q a s' → Q' a s') :
    wp env p Q' s := by
  induction p generalizing s with
  | ret a => exact hQ a s h
  | call e k ih => exact ⟨h.1, fun r s' hstep => ih r (h.2 r s' hstep)⟩
  | stop reason => exact h

/-- Every value the program may end with, whatever it is answered, is as `P` says. -/
def Yields (P : α → Prop) : Prog E R α → Prop
  | .ret a => P a
  | .call _ k => ∀ r, Yields P (k r)
  | .stop _ => True

theorem Yields.bind {P' : β → Prop} (h : p.Yields P) (hf : ∀ a, P a → (f a).Yields P') :
    (p >>= f).Yields P' := by
  show (p.bind f).Yields P'
  induction p with
  | ret a => exact hf a h
  | call e k ih => exact fun r => ih r (h r)
  | stop reason => trivial

/-- A computation without calls, and what follows it. -/
theorem Yields.settle {P : β → Prop} (h : ∀ a, x = .ok a → (f a).Yields P) :
    ((liftM x : Prog E R α) >>= f).Yields P := by
  cases x with
  | error reason => trivial
  | ok a => exact h a rfl

theorem yields_of_forall (h : ∀ a, P a) (p : Prog E R α) : p.Yields P := by
  induction p with
  | ret a => exact h a
  | call e k ih => exact fun r => ih r
  | stop reason => trivial

/-- What follows a program, whatever that ends with. -/
theorem Yields.andThen {P : β → Prop} (p : Prog E R α) (hf : ∀ a, (f a).Yields P) :
    (p >>= f).Yields P :=
  Yields.bind (yields_of_forall (P := fun _ => True) (fun _ => trivial) p) fun a _ => hf a

theorem Yields.mono {P' : α → Prop} (h : p.Yields P) (hP : ∀ a, P a → P' a) :
    p.Yields P' := by
  induction p with
  | ret a => exact hP a h
  | call e k ih => exact fun r => ih r (h r)
  | stop reason => trivial

/-- What holds of every value holds of the one that the program ends with. -/
theorem Yields.wp (h : p.Yields P) (hp : p.wp env Q s) : p.wp env (fun a s' => Q a s' ∧ P a) s := by
  induction p generalizing s with
  | ret a => exact ⟨hp, h⟩
  | call e k ih => exact ⟨hp.1, fun r s' hstep => ih r (h r) (hp.2 r s' hstep)⟩
  | stop reason => exact hp

/-- The program does not stop, as long as the answers are as `ok` says. -/
def Ends (ok : (e : E) → R e → Prop) : Prog E R α → Prop
  | .ret _ => True
  | .call e k => ∀ r, ok e r → Ends ok (k r)
  | .stop _ => False

theorem Ends.bind {ok : (e : E) → R e → Prop} (h : p.Ends ok) (hf : ∀ a, (f a).Ends ok) :
    (p >>= f).Ends ok := by
  show (p.bind f).Ends ok
  induction p with
  | ret a => exact hf a
  | call e k ih => exact fun r hr => ih r (h r hr)
  | stop reason => exact h

/-! ## One environment, as a function -/

/-- The value or the stop of `p`, and the state there, when `answer` makes every reply. -/
def eval (answer : σ → (e : E) → R e × σ) : Prog E R α → σ → Except Stop α × σ
  | .ret a, s => (.ok a, s)
  | .call e k, s => eval answer (k (answer s e).1) (answer s e).2
  | .stop reason, s => (.error reason, s)

theorem eval_bind (h : eval answer p s = (.ok a, s')) :
    eval answer (p >>= f) s = eval answer (f a) s' := by
  show eval answer (p.bind f) s = _
  induction p generalizing s with
  | ret b =>
    cases h
    rfl
  | call e k ih => exact ih _ h
  | stop reason => cases h

theorem eval_bind_eq_ok {b : β} (h : eval answer (p >>= f) s = (.ok b, s')) :
    ∃ a s₁, eval answer p s = (.ok a, s₁) ∧ eval answer (f a) s₁ = (.ok b, s') := by
  induction p generalizing s with
  | ret a => exact ⟨a, s, rfl, h⟩
  | call e k ih => exact ih _ h
  | stop reason => cases h

/-- An environment that only gives permitted answers produces an execution.  It may keep more
than its state, such as the number of the calls. -/
theorem eval_runs_map {ρ : Type} {answer : ρ → (e : E) → R e × ρ} {f : ρ → σ}
    (h : ∀ s e, step (f s) e (answer s e).1 (f (answer s e).2)) {s s' : ρ}
    (hp : eval answer p s = (.ok a, s')) : Runs step (f s) p a (f s') := by
  induction p generalizing s with
  | ret b =>
    cases hp
    exact .ret
  | call e k ih => exact .call (h s e) (ih _ hp)
  | stop reason => cases hp

theorem eval_runs (h : ∀ s e, step s e (answer s e).1 (answer s e).2)
    (hp : eval answer p s = (.ok a, s')) : Runs step s p a s' :=
  eval_runs_map (f := id) h hp

/-- The environment that answers by a function; with it the program has to end. -/
def answering (answer : σ → (e : E) → R e × σ) : Environment E R σ where
  pre _ _ := True
  step s e r s' := (r, s') = answer s e
  stops _ _ := False

/-- The rules for programs apply to what a program comes to. -/
theorem wp_answering :
    p.wp (answering answer) Q s ↔ ∃ a s', eval answer p s = (.ok a, s') ∧ Q a s' := by
  induction p generalizing s with
  | ret a =>
    constructor
    · exact fun h => ⟨a, s, rfl, h⟩
    · rintro ⟨_, _, ⟨⟩, h⟩
      exact h
  | call e k ih =>
    constructor
    · exact fun h => (ih _).mp (h.2 _ _ rfl)
    · refine fun h => ⟨trivial, fun r s' hstep => ?_⟩
      obtain ⟨rfl, rfl⟩ : r = (answer s e).1 ∧ s' = (answer s e).2 :=
        ⟨congrArg Prod.fst hstep, congrArg Prod.snd hstep⟩
      exact (ih _).mpr h
  | stop reason =>
    constructor
    · exact False.elim
    · rintro ⟨_, _, ⟨⟩, _⟩

/-- The same, with the calls that were made and their answers. -/
def evalTrace (answer : σ → (e : E) → R e × σ) :
    Prog E R α → σ → List (Sigma R) × Except Stop α × σ
  | .ret a, s => ([], .ok a, s)
  | .call e k, s =>
    let rest := evalTrace answer (k (answer s e).1) (answer s e).2
    (⟨e, (answer s e).1⟩ :: rest.1, rest.2)
  | .stop reason, s => ([], .error reason, s)

theorem evalTrace_traces {step : σ → (e : E) → R e → σ → Prop} {answer : σ → (e : E) → R e × σ}
    (h : ∀ s e, step s e (answer s e).1 (answer s e).2) {p : Prog E R α} {s : σ} {a : α}
    (hp : (evalTrace answer p s).2.1 = .ok a) :
    Traces step s p (evalTrace answer p s).1 a (evalTrace answer p s).2.2 := by
  induction p generalizing s with
  | ret b =>
    cases hp
    exact .ret
  | call e k ih => exact .call (h s e) (ih _ hp)
  | stop reason => cases hp

/-- The answers of such an execution are its environment's. -/
theorem exists_of_mem_evalTrace {answer : σ → (e : E) → R e × σ} {e : E} {r : R e}
    (h : ⟨e, r⟩ ∈ (evalTrace answer p s).1) : ∃ t, r = (answer t e).1 := by
  induction p generalizing s with
  | ret a => exact absurd h List.not_mem_nil
  | call e' k ih =>
    rcases List.mem_cons.mp h with heq | hrest
    · cases heq
      exact ⟨s, rfl⟩
    · exact ih _ hrest
  | stop reason => exact absurd h List.not_mem_nil

end Prog
