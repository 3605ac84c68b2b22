import OncallGateway.Lib.Program
import OncallGateway.Lib.Runs
import Mathlib.Data.Fintype.Basic
import Mathlib.Logic.Function.Basic

/-! # Processes that share a state

Any number of processes, each with a program and a local state of its own, share one
state `σ`.  Between two calls of a process the others may change the shared state, and
what they may do meanwhile depends on its local state (`rely`): a process that holds a
lock is safe from whoever needs it.  Local states that cannot exist at the same time
are not `compatible`, and a call that would lead to one has to wait.

A program is proved correct alone, in the environment in which others interfere
before each of its calls (`Shared.environment`).  **Any number of such programs is
then correct together, in every interleaving** (`Shared.interleaving`), if what each
call does is within what every compatible process relies on (`Shared.Lawful`).
-/

/-- What the calls do to the shared and the local state, and what others may do. -/
structure Shared (E : Type) (R : E → Type) (σ τ : Type) where
  act : σ → τ → (e : E) → R e → τ → σ → Prop
  pre : σ → τ → E → Prop
  rely : τ → σ → σ → Prop
  compatible : τ → τ → Prop

namespace Shared
variable {E : Type} {R : E → Type} {σ τ α ι : Type}

/-- One process among others, which interfere before each of its calls. -/
def environment (sh : Shared E R σ τ) : Environment E R (σ × τ) where
  pre s e := ∀ s', sh.rely s.2 s.1 s' → sh.pre s' s.2 e
  step s e r s' := ∃ s₁, sh.rely s.2 s.1 s₁ ∧ sh.act s₁ s.2 e r s'.2 s'.1

/-- What each call does is what the compatible processes rely on. -/
structure Lawful (sh : Shared E R σ τ) : Prop where
  refl : ∀ t s, sh.rely t s s
  trans : ∀ t s s' s'', sh.rely t s s' → sh.rely t s' s'' → sh.rely t s s''
  symm : ∀ t u, sh.compatible t u → sh.compatible u t
  guarantee : ∀ s t e r t' s' u, sh.pre s t e → sh.act s t e r t' s' → sh.compatible u t →
    sh.rely u s s'

/-- The shared state, and the local state and the rest of the program of each process. -/
structure Config (E : Type) (R : E → Type) (σ τ α ι : Type) where
  shared : σ
  locals : ι → τ
  progs : ι → Prog E R α

/-- Process `i` makes its next call. -/
def Step (sh : Shared E R σ τ) (c : Config E R σ τ α ι) (i : ι) (c' : Config E R σ τ α ι) : Prop :=
  ∃ e k r, c.progs i = .call e k ∧ sh.act c.shared (c.locals i) e r (c'.locals i) c'.shared ∧
    c'.progs i = k r ∧
    ∀ j, j ≠ i → c'.locals j = c.locals j ∧ c'.progs j = c.progs j ∧
      sh.compatible (c'.locals i) (c.locals j)

/-- Every process is still correct, and the local states are compatible. -/
structure Correct (sh : Shared E R σ τ) (Q : ι → α → σ × τ → Prop) (c : Config E R σ τ α ι) :
    Prop where
  compatible : ∀ i j, i ≠ j → sh.compatible (c.locals i) (c.locals j)
  wp : ∀ i, (c.progs i).wp sh.environment (Q i) (c.shared, c.locals i)

variable {sh : Shared E R σ τ}

/-- What was proved of a process survives what the others do. -/
theorem Lawful.wp_stable (hl : sh.Lawful) {p : Prog E R α} {Q : α → σ × τ → Prop} {s s' : σ} {t : τ}
    (hQ : ∀ a s s', sh.rely t s s' → Q a (s, t) → Q a (s', t)) (hrely : sh.rely t s s')
    (h : p.wp sh.environment Q (s, t)) : p.wp sh.environment Q (s', t) := by
  cases p with
  | ret a => exact hQ a s s' hrely h
  | call e k =>
    refine ⟨fun s₁ h₁ => h.1 s₁ (hl.trans _ _ _ _ hrely h₁), ?_⟩
    rintro r s'' ⟨s₁, h₁, hact⟩
    exact h.2 r s'' ⟨s₁, hl.trans _ _ _ _ hrely h₁, hact⟩
  | stop reason => trivial

variable {Q : ι → α → σ × τ → Prop} {c c' : Config E R σ τ α ι}

/-- **A step of one process keeps every process correct**, and it was made as asked. -/
theorem Lawful.step (hl : sh.Lawful)
    (hQ : ∀ i a t s s', sh.rely t s s' → Q i a (s, t) → Q i a (s', t)) {i : ι} (hc : sh.Correct Q c)
    (h : sh.Step c i c') :
    sh.Correct Q c' ∧ ∃ e r, sh.pre c.shared (c.locals i) e ∧
      sh.act c.shared (c.locals i) e r (c'.locals i) c'.shared := by
  obtain ⟨e, k, r, hp, hact, hk, hother⟩ := h
  have hwp := hc.wp i
  rw [hp] at hwp
  have hpre := hwp.1 c.shared (hl.refl _ _)
  refine ⟨⟨fun j j' hne => ?_, fun j => ?_⟩, e, r, hpre, hact⟩
  · by_cases hj : j = i
    · subst hj
      rw [(hother j' hne.symm).1]
      exact (hother j' hne.symm).2.2
    · by_cases hj' : j' = i
      · subst hj'
        rw [(hother j hj).1]
        exact hl.symm _ _ (hother j hj).2.2
      · rw [(hother j hj).1, (hother j' hj').1]
        exact hc.compatible j j' hne
  · by_cases hj : j = i
    · subst hj
      rw [hk]
      exact hwp.2 r (c'.shared, c'.locals j) ⟨c.shared, hl.refl _ _, hact⟩
    · rw [(hother j hj).1, (hother j hj).2.1]
      refine hl.wp_stable (fun a => hQ j a _) ?_ (hc.wp j)
      exact hl.guarantee _ _ _ _ _ _ _ hpre hact (hc.compatible j i hj)

/-- **Programs that are correct alone are correct together**, in every interleaving. -/
theorem Lawful.interleaving (hl : sh.Lawful)
    (hQ : ∀ i a t s s', sh.rely t s s' → Q i a (s, t) → Q i a (s', t)) {is : List ι}
    (hc : sh.Correct Q c) (h : Run sh.Step c is c') : sh.Correct Q c' :=
  h.invariant (P := sh.Correct Q) (fun _ _ _ hs hstep => (hl.step hQ hs hstep).1) hc

/-! ## Processes that stop

A process may stop at any point, without a call of its own; what is left of it is up to the
shared state's owner (`gone`). -/

/-- What happens next: a process makes its next call, or it stops where it is. -/
inductive Move (ι : Type) where
  | call (i : ι)
  | halt (i : ι)

/-- A process makes its next call, or it stops, with `a` for a value. -/
def Moves (sh : Shared E R σ τ) (gone : τ → τ) (a : α) (c : Config E R σ τ α ι) :
    Move ι → Config E R σ τ α ι → Prop
  | .call i, c' => sh.Step c i c'
  | .halt i, c' => c'.shared = c.shared ∧ c'.locals i = gone (c.locals i) ∧ c'.progs i = .ret a ∧
      ∀ j, j ≠ i → c'.locals j = c.locals j ∧ c'.progs j = c.progs j

/-- A process that stops leaves the others correct. -/
theorem Lawful.moves (hl : sh.Lawful) {gone : τ → τ} {a : α}
    (hQ : ∀ i a t s s', sh.rely t s s' → Q i a (s, t) → Q i a (s', t))
    (hgone : ∀ t u, sh.compatible t u → sh.compatible (gone t) u)
    (ha : ∀ i, Q i a (c.shared, gone (c.locals i))) {m : Move ι} (hc : sh.Correct Q c)
    (h : sh.Moves gone a c m c') : sh.Correct Q c' := by
  match m, h with
  | .call i, h => exact (hl.step hQ hc h).1
  | .halt i, ⟨hshared, hlocal, hprog, hother⟩ =>
    refine ⟨fun j j' hne => ?_, fun j => ?_⟩
    · by_cases hj : j = i
      · subst hj
        rw [hlocal, (hother j' hne.symm).1]
        exact hgone _ _ (hc.compatible j j' hne)
      · by_cases hj' : j' = i
        · subst hj'
          rw [hlocal, (hother j hj).1]
          exact hl.symm _ _ (hgone _ _ (hc.compatible j' j hne.symm))
        · rw [(hother j hj).1, (hother j' hj').1]
          exact hc.compatible j j' hne
    · by_cases hj : j = i
      · subst hj
        rw [hprog, hshared, hlocal]
        exact ha j
      · rw [(hother j hj).1, (hother j hj).2, hshared]
        exact hc.wp j

/-- What is true of every value that a process may end with stays so. -/
theorem Moves.yields {gone : τ → τ} {a : α} {P : α → Prop} (ha : P a) {m : Move ι}
    (h : sh.Moves gone a c m c') (hc : ∀ i, (c.progs i).Yields P) (i : ι) :
    (c'.progs i).Yields P := by
  match m, h with
  | .call j, ⟨e, k, r, hp, _, hk, hother⟩ =>
    by_cases hij : i = j
    · subst hij
      have hi := hc i
      rw [hp] at hi
      rw [hk]
      exact hi r
    · rw [(hother i hij).2.1]
      exact hc i
  | .halt j, ⟨_, _, hprog, hother⟩ =>
    by_cases hij : i = j
    · subst hij
      rw [hprog]
      exact ha
    · rw [(hother i hij).2]
      exact hc i

/-! ## Schedules

With the answers given by a function, the processes of a schedule go through a run. -/

section
variable [DecidableEq ι] (answer : σ × τ → (e : E) → R e × (σ × τ))

/-- The next call of process `i`, if it has one. -/
def Config.advance (c : Config E R σ τ α ι) (i : ι) : Config E R σ τ α ι :=
  match c.progs i with
  | .ret _ | .stop _ => c
  | .call e k =>
    let (r, s, t) := answer (c.shared, c.locals i) e
    ⟨s, Function.update c.locals i t, Function.update c.progs i (k r)⟩

/-- The processes of a schedule make their next calls, in its order. -/
def Config.follow (c : Config E R σ τ α ι) (is : List ι) : Config E R σ τ α ι :=
  is.foldl (Config.advance answer) c

-- the numerals of a schedule of two processes, and of three
instance two : @NeZero Nat Zero.ofOfNat0 2 := ⟨Nat.succ_ne_zero 1⟩

instance three : @NeZero Nat Zero.ofOfNat0 3 := ⟨Nat.succ_ne_zero 2⟩

/-- Whether process `i` has a call to make. -/
def Config.running (c : Config E R σ τ α ι) (i : ι) : Bool :=
  match c.progs i with
  | .ret _ | .stop _ => false
  | .call _ _ => true

variable (sh) in
/-- In its turn, each process of the schedule has a call to make, and none has to wait. -/
def Config.Admits (c : Config E R σ τ α ι) : List ι → Prop
  | [] => True
  | i :: is => c.running i = true ∧
      (∀ j, j ≠ i → sh.compatible ((c.advance answer i).locals i) (c.locals j)) ∧
      (c.advance answer i).Admits is

instance Config.decidableAdmits [Fintype ι] [DecidableRel sh.compatible] :
    (c : Config E R σ τ α ι) → (is : List ι) → Decidable (c.Admits sh answer is)
  | _, [] => inferInstanceAs (Decidable True)
  | c, i :: is =>
    have := decidableAdmits (c.advance answer i) is
    inferInstanceAs (Decidable (_ ∧ _ ∧ _))

variable {answer}
variable (hanswer : ∀ p e, sh.act p.1 p.2 e (answer p e).1 (answer p e).2.2 (answer p e).2.1)
include hanswer

theorem step_advance {c : Config E R σ τ α ι} {i : ι} (hc : c.running i = true)
    (hfree : ∀ j, j ≠ i → sh.compatible ((c.advance answer i).locals i) (c.locals j)) :
    sh.Step c i (c.advance answer i) := by
  cases hp : c.progs i with
  | ret a => simp [Config.running, hp] at hc
  | stop reason => simp [Config.running, hp] at hc
  | call e k =>
    have hadvance : c.advance answer i = ⟨(answer (c.shared, c.locals i) e).2.1,
        Function.update c.locals i (answer (c.shared, c.locals i) e).2.2,
        Function.update c.progs i (k (answer (c.shared, c.locals i) e).1)⟩ := by
      simp only [Config.advance, hp]
    rw [hadvance] at hfree ⊢
    refine ⟨e, k, (answer (c.shared, c.locals i) e).1, hp, ?_, Function.update_self .., fun j hj =>
      ⟨Function.update_of_ne hj .., Function.update_of_ne hj .., hfree j hj⟩⟩
    simpa only [Function.update_self] using hanswer (c.shared, c.locals i) e

variable {is : List ι}

/-- **A schedule that is admitted is a run.** -/
theorem run_follow {c : Config E R σ τ α ι} (h : c.Admits sh answer is) :
    Run sh.Step c is (c.follow answer is) := by
  induction is generalizing c with
  | nil => exact .nil
  | cons i is ih =>
    obtain ⟨hc, hfree, hrest⟩ := h
    exact .cons (step_advance hanswer hc hfree) (ih hrest)

/-- A schedule can be cut at any process. -/
theorem run_follow_cut {c : Config E R σ τ α ι} {js : List ι} {i : ι}
    (h : c.Admits sh answer (is ++ i :: js)) :
    Run sh.Step c is (c.follow answer is) ∧
      sh.Step (c.follow answer is) i (c.follow answer (is ++ [i])) ∧
      Run sh.Step (c.follow answer (is ++ [i])) js (c.follow answer (is ++ i :: js)) := by
  induction is generalizing c with
  | nil =>
    obtain ⟨hc, hfree, hrest⟩ := h
    exact ⟨.nil, step_advance hanswer hc hfree, run_follow hanswer hrest⟩
  | cons j is ih =>
    obtain ⟨hc, hfree, hrest⟩ := h
    obtain ⟨hbefore, hstep, hafter⟩ := ih hrest
    exact ⟨.cons (step_advance hanswer hc hfree) hbefore, hstep, hafter⟩

/-- Process `i` stops where it is. -/
def Config.halt (gone : τ → τ) (a : α) (c : Config E R σ τ α ι) (i : ι) : Config E R σ τ α ι :=
  ⟨c.shared, Function.update c.locals i (gone (c.locals i)), Function.update c.progs i (.ret a)⟩

omit hanswer in
theorem moves_halt {gone : τ → τ} {a : α} (c : Config E R σ τ α ι) (i : ι) :
    sh.Moves gone a c (.halt i) (c.halt gone a i) :=
  ⟨rfl, Function.update_self .., Function.update_self .., fun _ hj =>
    ⟨Function.update_of_ne hj .., Function.update_of_ne hj ..⟩⟩

theorem moves_follow {gone : τ → τ} {a : α} {c : Config E R σ τ α ι} (h : c.Admits sh answer is) :
    Run (sh.Moves gone a) c (is.map .call) (c.follow answer is) :=
  (run_follow hanswer h).map (f := Move.call) fun _ _ _ hstep => hstep

end

end Shared
