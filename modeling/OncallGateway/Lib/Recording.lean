import Mathlib.Algebra.BigOperators.Group.Finset.Basic
import Mathlib.Data.Fintype.BigOperators
import OncallGateway.Lib.Layers
import OncallGateway.Lib.Shared

/-! # Processes that keep a record

The local state of each process is the record of the calls it has made and their answers.
What was proved of a program with nothing assumed of the answers then holds of its record
in every interleaving: of the whole record when it has ended, and before that of a record
that begins with it (`Recording.ended`, `Recording.completes`).  Where each call changes the
shared state by an amount that its record shows, the shared state is at any time the sum over
all records (`Recording.represents_total`), and what is in a record was answered at some
point of the run (`Recording.answered`).
-/

/-- A program that does not stop can be answered until it ends. -/
theorem Prog.wp_recorder_completes {E : Type} {R : E → Type} {α : Type} [∀ e, Nonempty (R e)]
    {p : Prog E R α} {Q : α → List (Sigma R) → Prop} {record : List (Sigma R)}
    (h : p.wp (Prog.recording False) Q record) : ∃ a rest, Q a (record ++ rest) := by
  induction p generalizing record with
  | ret a =>
    refine ⟨a, [], ?_⟩
    rw [List.append_nil]
    exact h
  | call e k ih =>
    obtain ⟨r⟩ := ‹∀ e, Nonempty (R e)› e
    obtain ⟨a, rest, hQ⟩ := ih r (h.2 r _ rfl)
    exact ⟨a, ⟨e, r⟩ :: rest, by simpa using hQ⟩
  | stop reason => exact h.elim

namespace Shared
variable {E : Type} {R : E → Type} {σ α ι : Type}

/-- Each call is added to the record of the process that makes it. -/
def Recording (sh : Shared E R σ (List (Sigma R))) : Prop :=
  ∀ s record e r record' s', sh.act s record e r record' s' → record' = record ++ [⟨e, r⟩]

variable {sh : Shared E R σ (List (Sigma R))}

namespace Recording
variable {Q : α → List (Sigma R) → Prop} {c c' : Config E R σ (List (Sigma R)) α ι} {i : ι}
  {is : List ι}

/-- A process is where its program, proved alone, may be with its record. -/
theorem wp_run (hr : sh.Recording) (h : Run sh.Step c is c') {mayStop : Prop}
    (hi : (c.progs i).wp (Prog.recording mayStop) Q (c.locals i)) :
    (c'.progs i).wp (Prog.recording mayStop) Q (c'.locals i) := by
  refine h.invariant (P := fun c => (c.progs i).wp (Prog.recording mayStop) Q (c.locals i)) ?_ hi
  rintro s j s' hs ⟨e, k, r, hp, hact, hk, hother⟩
  by_cases hij : i = j
  · subst hij
    rw [hp] at hs
    rw [hk, hr _ _ _ _ _ _ hact]
    exact hs.2 r _ rfl
  · rw [(hother i hij).1, (hother i hij).2.1]
    exact hs

/-- What was proved of a program alone is true of the record with which it has ended. -/
theorem ended (hr : sh.Recording) (h : Run sh.Step c is c') {mayStop : Prop}
    (hi : (c.progs i).wp (Prog.recording mayStop) Q (c.locals i)) {a : α}
    (hend : c'.progs i = .ret a) : Q a (c'.locals i) := by
  have hwp := hr.wp_run h hi
  rw [hend] at hwp
  exact hwp

/-- The record of a process is the beginning of one with which its program may end. -/
theorem completes [∀ e, Nonempty (R e)] (hr : sh.Recording) (h : Run sh.Step c is c')
    (hi : (c.progs i).wp (Prog.recording False) Q (c.locals i)) :
    ∃ a rest, Q a (c'.locals i ++ rest) :=
  Prog.wp_recorder_completes (hr.wp_run h hi)

/-- What is in a record was there at first, or it was answered at a step of the run. -/
theorem answered (hr : sh.Recording) {c c' : Config E R σ (List (Sigma R)) α ι} {is : List ι}
    (h : Run sh.Step c is c') {i : ι} {e : E} {r : R e} (hmem : ⟨e, r⟩ ∈ c'.locals i) :
    ⟨e, r⟩ ∈ c.locals i ∨ ∃ before after c₁ c₂, is = before ++ i :: after ∧
      Run sh.Step c before c₁ ∧ sh.Step c₁ i c₂ ∧ Run sh.Step c₂ after c' ∧
      sh.act c₁.shared (c₁.locals i) e r (c₂.locals i) c₂.shared := by
  induction h with
  | nil => exact .inl hmem
  | @cons c c₁ c' j is hstep hrun ih =>
    rcases ih hmem with hfirst | ⟨before, after, c₂, c₃, rfl, hbefore, hanswered⟩
    · have hstep' := hstep
      obtain ⟨e', k, r', hp, hact, hk, hother⟩ := hstep'
      by_cases hij : i = j
      · subst hij
        rw [hr _ _ _ _ _ _ hact, List.mem_append, List.mem_singleton] at hfirst
        rcases hfirst with hfirst | hnew
        · exact .inl hfirst
        · cases hnew
          exact .inr ⟨[], is, c, c₁, rfl, .nil, hstep, hrun, hact⟩
      · rw [(hother i hij).1] at hfirst
        exact .inl hfirst
    · exact .inr ⟨j :: before, after, c₂, c₃, rfl, .cons hstep hbefore, hanswered⟩

/-- A record only grows. -/
theorem grows (hr : sh.Recording) (h : Run sh.Step c is c') (i : ι) :
    ∃ rest, c'.locals i = c.locals i ++ rest := by
  induction h with
  | nil => exact ⟨[], (List.append_nil _).symm⟩
  | @cons c c₁ c' j is hstep hrun ih =>
    obtain ⟨rest, hrest⟩ := ih
    obtain ⟨e, k, r, -, hact, -, hother⟩ := hstep
    by_cases hij : i = j
    · subst hij
      rw [hr _ _ _ _ _ _ hact, List.append_assoc] at hrest
      exact ⟨_, hrest⟩
    · rw [(hother i hij).1] at hrest
      exact ⟨rest, hrest⟩

end Recording

/-- A run in which process `i` makes some calls and is given these answers, in this order. -/
inductive Visits (sh : Shared E R σ (List (Sigma R))) (i : ι) :
    Config E R σ (List (Sigma R)) α ι → List (Sigma R) → Config E R σ (List (Sigma R)) α ι → Prop
  | nil {c c' : Config E R σ (List (Sigma R)) α ι} {is : List ι} (run : Run sh.Step c is c') :
      Visits sh i c [] c'
  | cons {c c₁ c₂ c' : Config E R σ (List (Sigma R)) α ι} {is : List ι} {e : E} {r : R e}
      {exchanges : List (Sigma R)} (run : Run sh.Step c is c₁) (step : sh.Step c₁ i c₂)
      (act : sh.act c₁.shared (c₁.locals i) e r (c₂.locals i) c₂.shared)
      (rest : Visits sh i c₂ exchanges c') : Visits sh i c (⟨e, r⟩ :: exchanges) c'

theorem Visits.before {i : ι} {c c₁ c' : Config E R σ (List (Sigma R)) α ι} {is : List ι}
    {exchanges : List (Sigma R)} (hrun : Run sh.Step c is c₁) (h : sh.Visits i c₁ exchanges c') :
    sh.Visits i c exchanges c' := by
  cases h with
  | nil run => exact .nil (hrun.append run)
  | cons run step act rest => exact .cons (hrun.append run) step act rest

namespace Recording
variable {c c' : Config E R σ (List (Sigma R)) α ι}
variable {added : List (Sigma R)}

/-- **What was added to a record was answered at steps of the run**, in its order. -/
theorem visits (hr : sh.Recording) {is : List ι} (h : Run sh.Step c is c') {i : ι}
    {exchanges : List (Sigma R)} (hadded : c'.locals i = c.locals i ++ added)
    (hsub : exchanges.Sublist added) :
    sh.Visits i c exchanges c' := by
  induction h generalizing added exchanges with
  | nil =>
    obtain rfl : added = [] := List.self_eq_append_right.mp hadded
    obtain rfl := List.sublist_nil.mp hsub
    exact .nil .nil
  | @cons c c₁ c' j is hstep hrun ih =>
    have hact := hstep
    obtain ⟨e, k, r, -, hact, -, hother⟩ := hact
    by_cases hij : i = j
    · subst hij
      obtain ⟨rest, hrest⟩ := hr.grows hrun i
      obtain rfl : added = ⟨e, r⟩ :: rest := by
        rw [hrest, hr _ _ _ _ _ _ hact, List.append_assoc] at hadded
        exact (List.append_cancel_left hadded).symm
      cases hsub with
      | cons _ hsub => exact .before (.single hstep) (ih hrest hsub)
      | cons_cons _ hsub => exact .cons .nil hstep hact (ih hrest hsub)
    · rw [← (hother i hij).1] at hadded
      exact .before (.single hstep) (ih hadded hsub)

/-- An exchange that was added to a record was answered at a step of the run. -/
theorem visited (hr : sh.Recording) {is : List ι} (h : Run sh.Step c is c') {i : ι}
    (hadded : c'.locals i = c.locals i ++ added) {e : E} {r : R e} (hmem : ⟨e, r⟩ ∈ added) :
    ∃ c₁ c₂ before after, Run sh.Step c before c₁ ∧ sh.Step c₁ i c₂ ∧ Run sh.Step c₂ after c' ∧
      sh.act c₁.shared (c₁.locals i) e r (c₂.locals i) c₂.shared := by
  cases hr.visits h hadded (List.singleton_sublist.mpr hmem) with
  | @cons _ c₁ c₂ _ before _ _ _ run step act rest =>
    cases rest with
    | @nil _ _ after run' => exact ⟨c₁, c₂, before, after, run, step, run', act⟩

section
variable {M : Type} [AddCommMonoid M] [Fintype ι] {represents : σ → M → Prop}
  {weight : Sigma R → M}

/-- The sum over all records. -/
def total (weight : Sigma R → M) (c : Config E R σ (List (Sigma R)) α ι) : M :=
  ∑ i, ((c.locals i).map weight).sum

/-- **The shared state is the sum over all records**, in every interleaving. -/
theorem represents_total (hr : sh.Recording)
    (hact : ∀ s record e r record' s' m, sh.act s record e r record' s' → represents s m →
      represents s' (m + weight ⟨e, r⟩))
    {c c' : Config E R σ (List (Sigma R)) α ι} {is : List ι} (h : Run sh.Step c is c')
    (hc : represents c.shared (total weight c)) : represents c'.shared (total weight c') := by
  refine h.invariant (P := fun c => represents c.shared (total weight c)) ?_ hc
  rintro s j s' hs ⟨e, k, r, hp, hstep, hk, hother⟩
  have hsum : total weight s' = total weight s + weight ⟨e, r⟩ := by
    classical
    unfold total
    rw [← Finset.add_sum_erase _ _ (Finset.mem_univ j),
      ← Finset.add_sum_erase (a := j) _ (fun i => ((s.locals i).map weight).sum)
        (Finset.mem_univ j),
      hr _ _ _ _ _ _ hstep, List.map_append, List.sum_append, List.map_singleton,
      List.sum_singleton]
    rw [Finset.sum_congr rfl fun i hi => by rw [(hother i (Finset.ne_of_mem_erase hi)).1]]
    exact add_right_comm _ _ _
  rw [hsum]
  exact hact _ _ _ _ _ _ _ hstep hs

end

end Recording

end Shared
