import Mathlib.Data.List.Forall2

/-! # Sequences of checks that may fail

A function that returns early on each failed check is a sequence in `Except`.
`Except.refuseIf` is one such check and `Except.relabel` a step whose own error the
caller replaces by its own.  A sequence succeeds exactly when every step does
(`bind_eq_ok`), and the lemmas here take it apart, or put it together, one step at a
time.  A function that may fail, applied to each element of a list, succeeds when it does
on each (`mapM_eq_some_iff`).
-/

namespace Except
variable {ε ε' α β : Type}

/-- Fail with `e` when `p` holds. -/
def refuseIf (p : Prop) [Decidable p] (e : ε) : Except ε Unit := if p then .error e else .ok ()

/-- Replace whatever error there is by `e`. -/
def relabel (e : ε') : Except ε α → Except ε' α
  | .error _ => .error e
  | .ok a => .ok a

/-- The error, if there is one. -/
def error? : Except ε α → Option ε
  | .error e => some e
  | .ok _ => none

variable {x : Except ε α} {a : α}
variable {f : α → Except ε β}

@[simp] theorem bind_eq_ok {b : β} :
    (x >>= f) = .ok b ↔ ∃ a, x = .ok a ∧ f a = .ok b := by
  cases x with
  | error e => simp [bind, Except.bind]
  | ok a => simp [bind, Except.bind]

@[simp] theorem refuseIf_eq_ok {p : Prop} [Decidable p] {e : ε} {u : Unit} :
    refuseIf p e = .ok u ↔ ¬ p := by
  unfold refuseIf
  split <;> simp [*]

@[simp] theorem relabel_eq_ok {e : ε'} :
    relabel e x = .ok a ↔ x = .ok a := by
  cases x <;> simp [relabel]

@[simp] theorem pure_eq_ok {b : α} : (pure a : Except ε α) = .ok b ↔ a = b := by
  simp [pure, Except.pure]

theorem eq_ok_of_toOption (h : x.toOption = some a) : x = .ok a := by
  cases x with
  | error e => cases h
  | ok b => exact congrArg Except.ok (Option.some.inj h)

theorem toOption_eq_some : x.toOption = some a ↔ x = .ok a := by
  refine ⟨eq_ok_of_toOption, ?_⟩
  rintro rfl
  rfl

/-- A result that was computed, with what was computed of it. -/
theorem exists_of_toOption_map {f : α → β} {b : β} (h : x.toOption.map f = some b) :
    ∃ a, x = .ok a ∧ f a = b := by
  obtain ⟨a, ha, hb⟩ := Option.map_eq_some_iff.mp h
  exact ⟨a, eq_ok_of_toOption ha, hb⟩

/-- No error other than `e`. -/
def FailsWith (e : ε) (x : Except ε α) : Prop := ∀ e', x = .error e' → e' = e

theorem failsWith_ok (e : ε) (a : α) : FailsWith e (.ok a) := fun _ h => nomatch h

theorem failsWith_error (e : ε) : FailsWith e (.error e : Except ε α) := by
  rintro _ ⟨⟩
  rfl

theorem failsWith_refuseIf (p : Prop) [Decidable p] (e : ε) : FailsWith e (refuseIf p e) := by
  unfold refuseIf
  split
  · exact failsWith_error e
  · exact failsWith_ok e ()

theorem failsWith_relabel (e : ε') (x : Except ε α) : FailsWith e (relabel e x) := by
  cases x with
  | error _ => exact failsWith_error e
  | ok a => exact failsWith_ok e a

theorem FailsWith.bind {e : ε} (hx : FailsWith e x) (hf : ∀ a, FailsWith e (f a)) :
    FailsWith e (x >>= f) := by
  match x with
  | .error _ =>
    rintro e' h
    cases h
    exact hx _ rfl
  | .ok a => exact hf a

end Except

namespace Option
variable {α β : Type} {l : List α}
variable {f : α → Option β}

theorem mapM_eq_some_iff {r : List β} :
    l.mapM f = some r ↔ List.Forall₂ (fun a b => f a = some b) l r := by
  induction l generalizing r with
  | nil => simp [eq_comm]
  | cons a l ih =>
    simp only [List.mapM_cons, bind_eq_bind, bind_eq_some_iff, ih, pure_def, some.injEq]
    constructor
    · rintro ⟨b, hb, r, hr, rfl⟩
      exact .cons hb hr
    · rintro (_ | ⟨hb, hr⟩)
      exact ⟨_, hb, _, hr, rfl⟩

theorem exists_of_mapM {r : List β} (h : l.mapM f = some r) {a : α} (ha : a ∈ l) :
    ∃ b ∈ r, f a = some b := by
  induction mapM_eq_some_iff.mp h with
  | nil => cases ha
  | @cons _ b _ r hb hr ih =>
    rcases List.mem_cons.mp ha with rfl | ha
    · exact ⟨b, List.mem_cons_self, hb⟩
    · obtain ⟨c, hc, hac⟩ := ih (mapM_eq_some_iff.mpr hr) ha
      exact ⟨c, List.mem_cons_of_mem _ hc, hac⟩

theorem exists_mapM_eq_some (h : ∀ a ∈ l, ∃ b, f a = some b) :
    ∃ r, l.mapM f = some r := by
  induction l with
  | nil => exact ⟨[], rfl⟩
  | cons a l ih =>
    obtain ⟨b, hb⟩ := h a List.mem_cons_self
    obtain ⟨r, hr⟩ := ih fun c hc => h c (List.mem_cons_of_mem a hc)
    exact ⟨b :: r, mapM_eq_some_iff.mpr (.cons hb (mapM_eq_some_iff.mp hr))⟩

theorem mapM_congr {g : α → Option β} (h : ∀ a ∈ l, f a = g a) : l.mapM f = l.mapM g := by
  induction l with
  | nil => rfl
  | cons a l ih =>
    rw [List.mapM_cons, List.mapM_cons, h a List.mem_cons_self,
      ih fun b hb => h b (List.mem_cons_of_mem a hb)]

end Option
