import Mathlib.Data.List.Sort

/-! # Maps visited in any order

A loop over a hash map visits its entries in an order that the program does not choose.
The map itself is the library's ordered map, which is determined by its entries; a
`RangeOrder` is any way of listing them.  A program that sorts the keys before it uses
them does not depend on it (`insertionSort_visit`), nor does one that only copies the
entries into another map (`ofList_of_perm`).
-/

/-- A map; two with the same entries are equal. -/
abbrev EntryMap (κ ν : Type) [Ord κ] := Std.ExtTreeMap κ ν

/-- The order in which a loop visits the entries of each map. -/
structure RangeOrder (κ ν : Type) [Ord κ] [Std.TransOrd κ] where
  visit : EntryMap κ ν → List (κ × ν)
  perm : ∀ m, (visit m).Perm m.toList

namespace EntryMap
variable {κ ν : Type} [Ord κ] [Std.TransOrd κ]

/-- Keys in ascending order. -/
def KeyLE (a b : κ) : Prop := (compare a b).isLE

instance : DecidableRel (KeyLE (κ := κ)) := fun a b =>
  inferInstanceAs (Decidable ((compare a b).isLE = true))

instance : Std.Total (KeyLE (κ := κ)) where
  total a b := by
    unfold KeyLE
    rw [Std.OrientedOrd.eq_swap (a := b)]
    cases compare a b <;> decide

instance : IsTrans κ KeyLE where
  trans _ _ _ hab hbc := Std.TransCmp.isLE_trans hab hbc

variable [Std.LawfulEqOrd κ]

theorem keyLE_antisymm {a b : κ} (hab : KeyLE a b) (hba : KeyLE b a) : a = b :=
  Std.LawfulEqCmp.eq_of_compare (Std.OrientedCmp.isLE_antisymm hab hba)

/-- **Sorting the visited keys gives the keys in ascending order.** -/
theorem insertionSort_visit (order : RangeOrder κ ν) (m : EntryMap κ ν) :
    ((order.visit m).map Prod.fst).insertionSort KeyLE = m.keys := by
  have hperm : ((order.visit m).map Prod.fst).Perm m.keys := by
    rw [← Std.ExtTreeMap.map_fst_toList_eq_keys]
    exact (order.perm m).map _
  refine List.Perm.eq_of_pairwise (fun a b _ _ => keyLE_antisymm)
    (List.pairwise_insertionSort _ _) ?_ ((List.perm_insertionSort _ _).trans hperm)
  exact Std.ExtTreeMap.ordered_keys.imp fun h => by simp [KeyLE, h]

/-- No key has two entries. -/
def Distinct (l : List (κ × ν)) : Prop := l.Pairwise fun a b => ¬ compare a.1 b.1 = .eq

variable {l : List (κ × ν)}

omit [Std.TransOrd κ] in
theorem distinct_iff : Distinct l ↔ (l.map Prod.fst).Nodup := by
  unfold Distinct List.Nodup
  rw [List.pairwise_map]
  simp only [Std.compare_eq_iff_eq, ne_eq]

variable [DecidableEq κ]

theorem getElem?_ofList_iff (hl : Distinct l) {k : κ} {v : ν} :
    (Std.ExtTreeMap.ofList l)[k]? = some v ↔ (k, v) ∈ l := by
  have hmem : ∀ w, (k, w) ∈ l → (Std.ExtTreeMap.ofList l)[k]? = some w := fun w =>
    Std.ExtTreeMap.getElem?_ofList_of_mem Std.compare_self hl
  constructor
  · intro h
    by_contra hnot
    have hkey : k ∉ l.map Prod.fst := by
      intro hk
      obtain ⟨⟨_, w⟩, hw, rfl⟩ := List.mem_map.mp hk
      rw [hmem w hw] at h
      exact hnot (Option.some.inj h ▸ hw)
    rw [Std.ExtTreeMap.getElem?_ofList_of_contains_eq_false (by simpa using hkey)] at h
    cases h
  · exact hmem v

theorem toList_ofList_perm (hl : Distinct l) :
    (Std.ExtTreeMap.ofList l).toList.Perm l := by
  have hnodup : ∀ {l : List (κ × ν)}, Distinct l → l.Nodup := fun h =>
    (distinct_iff.mp h).of_map
  rw [List.perm_ext_iff_of_nodup (hnodup Std.ExtTreeMap.distinct_keys_toList) (hnodup hl)]
  rintro ⟨k, v⟩
  rw [Std.ExtTreeMap.mem_toList_iff_getElem?_eq_some, getElem?_ofList_iff hl]

/-- Copying the entries of a map, in any order, gives the map. -/
theorem ofList_of_perm {m : EntryMap κ ν} (h : l.Perm m.toList) :
    Std.ExtTreeMap.ofList l = m := by
  have hl : Distinct l := distinct_iff.mpr
    ((h.map Prod.fst).nodup_iff.mpr (distinct_iff.mp Std.ExtTreeMap.distinct_keys_toList))
  exact Std.ExtTreeMap.ext_toList ((toList_ofList_perm hl).trans h)

end EntryMap
