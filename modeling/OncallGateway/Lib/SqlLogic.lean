import Mathlib.Logic.Basic

/-! # SQL's three truth values

A condition on columns that may be `NULL` has three values: true, false and
unknown, here `some true`, `some false` and `none`.  A `CHECK` constraint refuses a
row only when its condition is false, so that unknown passes (`Sql.Holds`).

`Holds` distributes over both connectives, and on a comparison of known values it
is the comparison: the `simp` lemmas below turn a constraint as SQL writes it into
the proposition it enforces.
-/

namespace Sql

/-- A truth value: `none` is SQL's unknown. -/
abbrev Truth := Option Bool

/-- `AND`: false as soon as one side is false. -/
def and : Truth → Truth → Truth
  | some false, _ => some false
  | _, some false => some false
  | some true, some true => some true
  | _, _ => none

/-- `OR`: true as soon as one side is true. -/
def or : Truth → Truth → Truth
  | some true, _ => some true
  | _, some true => some true
  | some false, some false => some false
  | _, _ => none

/-- A comparison, unknown when either side is `NULL`. -/
def compare {α : Type} (p : α → α → Prop) [DecidableRel p] : Option α → Option α → Truth
  | some a, some b => some (decide (p a b))
  | _, _ => none

/-- `IS NULL`, never unknown. -/
def isNull {α : Type} (x : Option α) : Truth := some x.isNone

/-- `IS NOT NULL`. -/
def isNotNull {α : Type} (x : Option α) : Truth := some x.isSome

/-- What a `CHECK` constraint asks: the condition is not false. -/
def Holds (t : Truth) : Prop := t ≠ some false

instance (t : Truth) : Decidable (Holds t) := inferInstanceAs (Decidable (t ≠ some false))

@[simp] theorem holds_and (a b : Truth) : Holds (and a b) ↔ Holds a ∧ Holds b := by
  rcases a with _ | _ | _ <;> rcases b with _ | _ | _ <;> simp [and, Holds]

@[simp] theorem holds_or (a b : Truth) : Holds (or a b) ↔ Holds a ∨ Holds b := by
  rcases a with _ | _ | _ <;> rcases b with _ | _ | _ <;> simp [or, Holds]

@[simp] theorem holds_some (b : Bool) : Holds (some b) ↔ b = true := by
  cases b <;> simp [Holds]

variable {α : Type}

@[simp] theorem holds_compare_some (p : α → α → Prop) [DecidableRel p] (a b : α) :
    Holds (compare p (some a) (some b)) ↔ p a b := by
  simp [compare]

@[simp] theorem holds_isNull (x : Option α) : Holds (isNull x) ↔ x = none := by
  simp [isNull]

@[simp] theorem holds_isNotNull (x : Option α) :
    Holds (isNotNull x) ↔ x.isSome = true := by
  simp [isNotNull]

end Sql
