import Mathlib.Data.List.Nodup
import Mathlib.Data.List.Sort

/-! # Tables with a key

A table is a list of rows, no two of which have the same key.  `lookup` is the row
of a key; a table is used as the partial function it gives.  The two ways a table
changes are then changes of that function: `lookup_append` for a row that is added
and `lookup_update` for the rows that a condition selects and a function rewrites,
keeping their keys.  `insertionSort_eq` is the `ORDER BY` of a selection: the
selected rows, once their order is known to be strict.
-/

namespace Keyed
variable {α κ : Type} [DecidableEq κ] (key : α → κ) {l : List α} {k : κ} {x : α}

/-- The row with a key. -/
def lookup (l : List α) (k : κ) : Option α := l.find? fun x => decide (key x = k)

/-- Rewrite the rows that a condition selects. -/
def update (p : α → Bool) (f : α → α) (l : List α) : List α :=
  l.map fun x => if p x then f x else x

variable {key}

theorem key_of_lookup (h : lookup key l k = some x) : key x = k := by
  simpa using List.find?_some h

theorem mem_of_lookup (h : lookup key l k = some x) : x ∈ l := List.mem_of_find?_eq_some h

theorem lookup_eq_none : lookup key l k = none ↔ ∀ x ∈ l, key x ≠ k := by
  simp [lookup, List.find?_eq_none]

/-- **In a table, a row is found under its key.** -/
theorem lookup_of_mem (hn : (l.map key).Nodup) (hx : x ∈ l) : lookup key l (key x) = some x := by
  cases h : lookup key l (key x) with
  | none => exact absurd rfl (lookup_eq_none.mp h x hx)
  | some y =>
    rw [List.inj_on_of_nodup_map hn (mem_of_lookup h) hx (key_of_lookup h)]

theorem lookup_append {y : α} :
    lookup key (l ++ [y]) k = (lookup key l k).or (if key y = k then some y else none) := by
  unfold lookup
  rw [List.find?_append]
  congr 1
  by_cases h : key y = k <;> simp [h]

variable {p : α → Bool}

theorem lookup_update {f : α → α} (hf : ∀ x, key (f x) = key x) :
    lookup key (update p f l) k = (lookup key l k).map fun x => if p x then f x else x := by
  have hkey : ∀ x, key (if p x then f x else x) = key x := by
    intro x
    split
    · exact hf x
    · rfl
  unfold lookup update
  rw [List.find?_map]
  congr 1
  simp only [Function.comp_def, hkey]

/-- A condition that fixes the key selects at most the row of that key. -/
theorem countP_eq_one (hn : (l.map key).Nodup) (hp : ∀ x, p x = true → key x = k) :
    l.countP p = 1 ↔ ∃ x, lookup key l k = some x ∧ p x = true := by
  constructor
  · intro h
    obtain ⟨x, hx, hpx⟩ := List.countP_pos_iff.mp (h ▸ Nat.one_pos)
    exact ⟨x, hp x hpx ▸ lookup_of_mem hn hx, hpx⟩
  · rintro ⟨x, hx, hpx⟩
    have hsub : l.filter p = [x] := by
      have hmem : ∀ y, y ∈ l.filter p ↔ y = x := by
        intro y
        rw [List.mem_filter]
        constructor
        · rintro ⟨hy, hpy⟩
          exact List.inj_on_of_nodup_map hn hy (mem_of_lookup hx)
            ((hp y hpy).trans (key_of_lookup hx).symm)
        · rintro rfl
          exact ⟨mem_of_lookup hx, hpx⟩
      have hnd : (l.filter p).Nodup := (List.Nodup.of_map key hn).filter p
      exact List.perm_singleton.mp ((List.perm_ext_iff_of_nodup hnd (List.nodup_singleton x)).mpr
        fun y => by rw [hmem, List.mem_singleton])
    rw [List.countP_eq_length_filter, hsub]
    rfl

/-- Sorting gives the one strictly sorted arrangement, where there is one. -/
theorem insertionSort_eq {β : Type} [LinearOrder β] {rank : α → β} {l m : List α} (hp : l.Perm m)
    (hm : m.Pairwise fun a b => rank a < rank b) :
    l.insertionSort (fun a b => rank a ≤ rank b) = m := by
  have : Std.Total fun a b : α => rank a ≤ rank b := ⟨fun a b => le_total _ _⟩
  have : IsTrans α fun a b : α => rank a ≤ rank b := ⟨fun a b c => le_trans⟩
  have hsort := List.pairwise_insertionSort (fun a b : α => rank a ≤ rank b) l
  have hperm := (List.perm_insertionSort (fun a b : α => rank a ≤ rank b) l).trans hp
  have hn : (m.map rank).Nodup := List.pairwise_map.mpr (hm.imp fun h => h.ne)
  refine List.Perm.eq_of_pairwise ?_ hsort (hm.imp fun h => h.le) hperm
  intro a b ha hb hab hba
  exact List.inj_on_of_nodup_map hn (hperm.mem_iff.mp ha) hb (le_antisymm hab hba)

/-- A list without repetitions in which one element has an image. -/
theorem filterMap_eq_singleton {α β : Type} {f : α → Option β} {l : List α} {a : α} {b : β}
    (hl : l.Nodup) (ha : a ∈ l) (hb : f a = some b) (hothers : ∀ x ∈ l, x ≠ a → f x = none) :
    l.filterMap f = [b] := by
  induction l with
  | nil => cases ha
  | cons x l ih =>
    obtain ⟨hx, hl⟩ := List.nodup_cons.mp hl
    by_cases heq : x = a
    · subst heq
      have hnone : l.filterMap f = [] := List.filterMap_eq_nil_iff.mpr fun y hy =>
        hothers y (List.mem_cons_of_mem _ hy) fun h => hx (h ▸ hy)
      rw [List.filterMap_cons_some hb, hnone]
    · rw [List.filterMap_cons_none (hothers x List.mem_cons_self heq)]
      exact ih hl ((List.mem_cons.mp ha).resolve_left (Ne.symm heq)) fun y hy =>
        hothers y (List.mem_cons_of_mem _ hy)

omit [DecidableEq κ] in
/-- A condition that fixes the key selects one row alone. -/
theorem filter_eq_singleton (hn : (l.map key).Nodup) (hx : x ∈ l) (hpx : p x = true)
    (hp : ∀ y, p y = true → key y = key x) : l.filter p = [x] := by
  rw [← List.filterMap_eq_filter]
  refine filterMap_eq_singleton hn.of_map hx (by simp [Option.guard, hpx]) fun y hy hne => ?_
  have hpy : p y ≠ true := fun h => hne (List.inj_on_of_nodup_map hn hy hx (hp y h))
  simp [Option.guard, hpy]

/-- The rows with the key of a row are that row alone. -/
theorem filter_key_eq (hn : (l.map key).Nodup) (hx : x ∈ l) :
    l.filter (fun y => decide (key y = key x)) = [x] := by
  rw [← List.filterMap_eq_filter]
  refine filterMap_eq_singleton hn.of_map hx (by simp [Option.guard]) fun y hy hne => ?_
  have hkey : key y ≠ key x := fun h => hne (List.inj_on_of_nodup_map hn hy hx h)
  simp [Option.guard, hkey]

end Keyed
