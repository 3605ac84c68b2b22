import Mathlib.Data.List.Forall2

/-! # JSON texts

The grammar of JSON texts (`Spells`), with the values that they spell, in which numbers and
quoted texts are kept as they are written: `Json.number` and `Json.string` hold the
characters between the delimiters, escapes included, and `unquote` is the text that they
stand for.  `objectText` and `intText` write objects and integers without white space.

`Within` says which values are inside another.  How deep the grammar may nest does not
matter for a value that is not nested so deep (`Spells.of_nested`).
-/

/-- A value; numbers, texts and the names of members as they are written. -/
inductive Json where
  | null
  | bool (b : Bool)
  | number (text : List Char)
  | string (raw : List Char)
  | array (items : List Json)
  | object (members : List (List Char × Json))

namespace Json

/-! ## Texts and numbers -/

/-- The value of a hexadecimal digit of either case. -/
def hexValue? (c : Char) : Option Nat :=
  if 48 ≤ c.toNat ∧ c.toNat ≤ 57 then some (c.toNat - 48)
  else if 97 ≤ c.toNat ∧ c.toNat ≤ 102 then some (c.toNat - 87)
  else if 65 ≤ c.toNat ∧ c.toNat ≤ 70 then some (c.toNat - 55)
  else none

/-- The value of four hexadecimal digits. -/
def hex4? (a b c d : Char) : Option Nat := do
  return 4096 * (← hexValue? a) + 256 * (← hexValue? b) + 16 * (← hexValue? c) + (← hexValue? d)

/-- Where the reading of a text stands: between characters, after a backslash, or with
so many hexadecimal digits to come. -/
inductive TextState where
  | plain
  | escape
  | hex (missing : Nat)
deriving DecidableEq

/-- One character of a text.  A quotation mark in the plain state ends the text and is
not part of it. -/
def TextState.step : TextState → Char → Option TextState
  | .plain, c =>
    if c = '\\' then some .escape
    else if c = '"' ∨ c.toNat < 0x20 then none
    else some .plain
  | .escape, c =>
    if c ∈ ['b', 'f', 'n', 'r', 't', '\\', '/', '"'] then some .plain
    else if c = 'u' then some (.hex 4)
    else none
  | .hex missing, c =>
    if (hexValue? c).isNone then none
    else if missing ≤ 1 then some .plain
    else some (.hex (missing - 1))

/-- A text may stand between quotation marks. -/
def Quotable (raw : List Char) : Prop := raw.foldlM TextState.step .plain = some .plain

instance (raw : List Char) : Decidable (Quotable raw) :=
  inferInstanceAs (Decidable (_ = _))

/-- Where the reading of a number stands, named by what was read last. -/
inductive NumberState where
  | minus
  | zero
  | whole
  | point
  | fraction
  | exponent
  | exponentSign
  | power
deriving DecidableEq

/-- The first character of a number. -/
def NumberState.start (c : Char) : Option NumberState :=
  if c = '-' then some .minus
  else if c = '0' then some .zero
  else if c.isDigit then some .whole
  else none

/-- One more character of a number. -/
def NumberState.step : NumberState → Char → Option NumberState
  | .minus, c => if c = '0' then some .zero else if c.isDigit then some .whole else none
  | .zero, c => afterWhole c
  | .whole, c => if c.isDigit then some .whole else afterWhole c
  | .point, c => if c.isDigit then some .fraction else none
  | .fraction, c => if c.isDigit then some .fraction else afterFraction c
  | .exponent, c =>
    if c = '+' ∨ c = '-' then some .exponentSign else if c.isDigit then some .power else none
  | .exponentSign, c | .power, c => if c.isDigit then some .power else none
where
  afterFraction (c : Char) : Option NumberState :=
    if c = 'e' ∨ c = 'E' then some .exponent else none
  afterWhole (c : Char) : Option NumberState :=
    if c = '.' then some .point else afterFraction c

/-- The number may end here. -/
def NumberState.final : NumberState → Bool
  | .zero | .whole | .fraction | .power => true
  | .minus | .point | .exponent | .exponentSign => false

/-- A text is a number. -/
def Numeral : List Char → Prop
  | [] => False
  | c :: rest => ∃ first last, NumberState.start c = some first ∧
      rest.foldlM NumberState.step first = some last ∧ last.final = true

/-! ## The grammar -/

/-- A quoted text. -/
def quoted (raw : List Char) : List Char := '"' :: raw ++ ['"']

/-- White space between the parts of a value. -/
def IsSpace (c : Char) : Prop := c ∈ [' ', '\t', '\n', '\r']

instance (c : Char) : Decidable (IsSpace c) := inferInstanceAs (Decidable (_ ∈ _))

/-- Nothing but white space. -/
def Blank (w : List Char) : Prop := ∀ c ∈ w, IsSpace c

mutual

/-- A text spells a value in which arrays and objects are nested at most so deep. -/
inductive Spells : Nat → List Char → Json → Prop where
  | null {d : Nat} : Spells d ['n', 'u', 'l', 'l'] .null
  | true {d : Nat} : Spells d ['t', 'r', 'u', 'e'] (.bool true)
  | false {d : Nat} : Spells d ['f', 'a', 'l', 's', 'e'] (.bool false)
  | number {d : Nat} {text : List Char} : Numeral text → Spells d text (.number text)
  | string {d : Nat} {raw : List Char} : Quotable raw → Spells d (quoted raw) (.string raw)
  | emptyArray {d : Nat} {w : List Char} : Blank w → Spells (d + 1) ('[' :: (w ++ [']'])) (.array [])
  | array {d : Nat} {w t rest : List Char} {v : Json} {items : List Json} :
    Blank w → Spells d t v → SpellsItems d rest items →
    Spells (d + 1) ('[' :: (w ++ (t ++ rest))) (.array (v :: items))
  | emptyObject {d : Nat} {w : List Char} :
    Blank w → Spells (d + 1) ('\x7b' :: (w ++ ['\x7d'])) (.object [])
  | object {d : Nat} {w t rest : List Char} {m : List Char × Json}
      {members : List (List Char × Json)} :
    Blank w → SpellsMember d t m → SpellsMembers d rest members →
    Spells (d + 1) ('\x7b' :: (w ++ (t ++ rest))) (.object (m :: members))

/-- What may follow an item, to the end of its array. -/
inductive SpellsItems : Nat → List Char → List Json → Prop where
  | close {d : Nat} {w : List Char} : Blank w → SpellsItems d (w ++ [']']) []
  | next {d : Nat} {w w' t rest : List Char} {v : Json} {items : List Json} :
    Blank w → Blank w' → Spells d t v → SpellsItems d rest items →
    SpellsItems d (w ++ ',' :: (w' ++ (t ++ rest))) (v :: items)

/-- A name and its value. -/
inductive SpellsMember : Nat → List Char → List Char × Json → Prop where
  | mk {d : Nat} {name w w' t : List Char} {v : Json} :
    Quotable name → Blank w → Blank w' → Spells d t v →
    SpellsMember d (quoted name ++ (w ++ ':' :: (w' ++ t))) (name, v)

/-- What may follow a member, to the end of its object. -/
inductive SpellsMembers : Nat → List Char → List (List Char × Json) → Prop where
  | close {d : Nat} {w : List Char} : Blank w → SpellsMembers d (w ++ ['\x7d']) []
  | next {d : Nat} {w w' t rest : List Char} {m : List Char × Json}
      {members : List (List Char × Json)} :
    Blank w → Blank w' → SpellsMember d t m → SpellsMembers d rest members →
    SpellsMembers d (w ++ ',' :: (w' ++ (t ++ rest))) (m :: members)

end

theorem blank_nil : Blank [] := fun _ h => nomatch h

/-- A whole text: one value, with white space around it. -/
def Text (depth : Nat) (text : List Char) (j : Json) : Prop :=
  ∃ w t w', Blank w ∧ Blank w' ∧ text = w ++ (t ++ w') ∧ Spells depth t j

/-! ## What a text stands for -/

/-- The character of an escape other than a `u`. -/
def escaped (c : Char) : Char :=
  if c = 'b' then '\x08'
  else if c = 'f' then '\x0c'
  else if c = 'n' then '\n'
  else if c = 'r' then '\r'
  else if c = 't' then '\t'
  else c

/-- Half of a pair of codes that stand for one character. -/
def IsSurrogate (n : Nat) : Prop := 0xD800 ≤ n ∧ n ≤ 0xDFFF

instance (n : Nat) : Decidable (IsSurrogate n) := inferInstanceAs (Decidable (_ ∧ _))

/-- The character that two codes stand for together. -/
def surrogatePair? (high low : Nat) : Option Char :=
  if 0xD800 ≤ high ∧ high ≤ 0xDBFF ∧ 0xDC00 ≤ low ∧ low ≤ 0xDFFF then
    some (Char.ofNat (0x10000 + 1024 * (high - 0xD800) + (low - 0xDC00)))
  else none

/-- The text that is written so.  The code of half a pair that stands alone becomes
U+FFFD. -/
def unquote : List Char → List Char
  | '\\' :: 'u' :: a :: b :: c :: d :: rest =>
    match hex4? a b c d with
    | none => unquote rest
    | some code =>
      if IsSurrogate code then
        let alone := '\uFFFD' :: unquote rest
        match rest with
        | '\\' :: 'u' :: e :: f :: g :: h :: rest =>
          match (hex4? e f g h).bind (surrogatePair? code) with
          | some c => c :: unquote rest
          | none => alone
        | _ => alone
      else Char.ofNat code :: unquote rest
  | '\\' :: c :: rest => escaped c :: unquote rest
  | c :: rest => c :: unquote rest
  | [] => []

variable {c : Char} {rest : List Char}

theorem unquote_plain (h : c ≠ '\\') :
    unquote (c :: rest) = c :: unquote rest := by
  rw [unquote.eq_def]
  split <;> simp_all

theorem unquote_escape (h : c ≠ 'u') :
    unquote ('\\' :: c :: rest) = escaped c :: unquote rest := by
  rw [unquote.eq_def]
  split
  · simp_all
  · simp_all
  · rename_i hne heq
    obtain ⟨rfl, rfl⟩ := List.cons.inj heq
    exact absurd rfl (hne c rest rfl)
  · simp_all

theorem unquote_code {a b d : Char} {n : Nat} (h : hex4? a b c d = some n) (hn : ¬ IsSurrogate n) :
    unquote ('\\' :: 'u' :: a :: b :: c :: d :: rest) = Char.ofNat n :: unquote rest := by
  rw [unquote.eq_def]
  simp [h, hn]

/-! ## Values within values -/

/-- A value, or one inside it. -/
inductive Within : Json → Json → Prop where
  | refl {v : Json} : Within v v
  | item {w v : Json} {items : List Json} : v ∈ items → Within w v → Within w (.array items)
  | member {w : Json} {m : List Char × Json} {members : List (List Char × Json)} :
    m ∈ members → Within w m.2 → Within w (.object members)

/-- Arrays and objects are nested at most so deep. -/
inductive Nested : Nat → Json → Prop where
  | null {d : Nat} : Nested d .null
  | bool {d : Nat} {b : Bool} : Nested d (.bool b)
  | number {d : Nat} {text : List Char} : Nested d (.number text)
  | string {d : Nat} {raw : List Char} : Nested d (.string raw)
  | array {d : Nat} {items : List Json} : (∀ v ∈ items, Nested d v) → Nested (d + 1) (.array items)
  | object {d : Nat} {members : List (List Char × Json)} :
    (∀ m ∈ members, Nested d m.2) → Nested (d + 1) (.object members)

mutual

/-- A text that spells a value does so within the depth of the value. -/
theorem Spells.of_nested {d e : Nat} {t : List Char} {v : Json} (h : Spells d t v)
    (hv : Nested e v) : Spells e t v := by
  match h, hv with
  | .null, .null => exact .null
  | .true, .bool => exact .true
  | .false, .bool => exact .false
  | .number ht, .number => exact .number ht
  | .string ht, .string => exact .string ht
  | .emptyArray hw, .array _ => exact .emptyArray hw
  | .array hw ht hrest, .array hitems =>
    exact .array hw (ht.of_nested (hitems _ List.mem_cons_self))
      (hrest.of_nested fun v hv => hitems v (List.mem_cons_of_mem _ hv))
  | .emptyObject hw, .object _ => exact .emptyObject hw
  | .object hw ht hrest, .object hmembers =>
    exact .object hw (ht.of_nested (hmembers _ List.mem_cons_self))
      (hrest.of_nested fun m hm => hmembers m (List.mem_cons_of_mem _ hm))

theorem SpellsItems.of_nested {d e : Nat} {t : List Char} {items : List Json}
    (h : SpellsItems d t items) (hitems : ∀ v ∈ items, Nested e v) : SpellsItems e t items := by
  match h with
  | .close hw => exact .close hw
  | .next hw hw' ht hrest =>
    exact .next hw hw' (ht.of_nested (hitems _ List.mem_cons_self))
      (hrest.of_nested fun v hv => hitems v (List.mem_cons_of_mem _ hv))

theorem SpellsMember.of_nested {d e : Nat} {t : List Char} {m : List Char × Json}
    (h : SpellsMember d t m) (hm : Nested e m.2) : SpellsMember e t m := by
  match h with
  | .mk hname hw hw' ht => exact .mk hname hw hw' (ht.of_nested hm)

theorem SpellsMembers.of_nested {d e : Nat} {t : List Char} {members : List (List Char × Json)}
    (h : SpellsMembers d t members) (hmembers : ∀ m ∈ members, Nested e m.2) :
    SpellsMembers e t members := by
  match h with
  | .close hw => exact .close hw
  | .next hw hw' ht hrest =>
    exact .next hw hw' (ht.of_nested (hmembers _ List.mem_cons_self))
      (hrest.of_nested fun m hm => hmembers m (List.mem_cons_of_mem _ hm))

end

/-- No object, at any depth, has two members whose names stand for the same text. -/
def DistinctNames (v : Json) : Prop :=
  ∀ members, Within (.object members) v → (members.map fun m => unquote m.1).Nodup

theorem distinctNames_array {items : List Json} :
    DistinctNames (.array items) ↔ ∀ v ∈ items, DistinctNames v := by
  constructor
  · exact fun h v hv members hw => h members (.item hv hw)
  · intro h members hw
    cases hw with
    | item hv hw => exact h _ hv members hw

theorem distinctNames_object {members : List (List Char × Json)} :
    DistinctNames (.object members) ↔
      (members.map fun m => unquote m.1).Nodup ∧ ∀ m ∈ members, DistinctNames m.2 := by
  constructor
  · exact fun h => ⟨h members .refl, fun m hm inner hw => h inner (.member hm hw)⟩
  · rintro ⟨hnodup, hinner⟩ inner hw
    cases hw with
    | refl => exact hnodup
    | member hm hw => exact hinner _ hm inner hw

/-! ## Writers -/

/-- The text of an integer. -/
def intText (i : Int) : List Char :=
  if i < 0 then '-' :: Nat.toDigits 10 i.natAbs else Nat.toDigits 10 i.natAbs

/-- The digits of a positive number do not begin with a zero. -/
theorem toDigits_eq_cons {n : Nat} (hn : 0 < n) :
    ∃ c rest, Nat.toDigits 10 n = c :: rest ∧ c ≠ '0' := by
  induction n using Nat.strongRecOn with
  | ind n ih =>
    by_cases hsmall : n < 10
    · refine ⟨n.digitChar, [], Nat.toDigits_of_lt_base hsmall, ?_⟩
      rw [ne_eq, Nat.digitChar_eq_zero]
      omega
    · obtain ⟨c, rest, heq, hc⟩ := ih (n / 10) (by omega) (by omega)
      refine ⟨c, rest ++ [(n % 10).digitChar], ?_, hc⟩
      rw [Nat.toDigits_of_base_le (by omega) (by omega), heq, List.cons_append]

theorem foldlM_whole {digits : List Char} (h : ∀ c ∈ digits, c.isDigit) :
    digits.foldlM NumberState.step .whole = some .whole := by
  induction digits with
  | nil => rfl
  | cons c digits ih =>
    rw [List.foldlM_cons]
    simp only [NumberState.step, h c List.mem_cons_self, if_true]
    exact ih fun d hd => h d (List.mem_cons_of_mem c hd)

theorem isDigit_of_toDigits {n : Nat} (h : Nat.toDigits 10 n = c :: rest) :
    c.isDigit ∧ ∀ d ∈ rest, d.isDigit := by
  have hall : ∀ d ∈ Nat.toDigits 10 n, d.isDigit :=
    fun d hd => Nat.isDigit_of_mem_toDigits (by omega) (by omega) hd
  rw [h] at hall
  exact List.forall_mem_cons.mp hall

theorem numeral_intText (i : Int) : Numeral (intText i) := by
  have hdash : ∀ c : Char, c.isDigit → c ≠ '-' := by
    rintro c hc rfl
    exact absurd hc (by decide)
  unfold intText
  split
  · obtain ⟨c, rest, heq, hc⟩ := @toDigits_eq_cons i.natAbs (by omega)
    obtain ⟨hdigit, hrest⟩ := isDigit_of_toDigits heq
    refine ⟨.minus, .whole, rfl, ?_, rfl⟩
    rw [heq, List.foldlM_cons]
    simp only [NumberState.step, if_neg hc, hdigit, if_true]
    exact foldlM_whole hrest
  · by_cases hzero : i.natAbs = 0
    · rw [hzero, Nat.toDigits_zero]
      exact ⟨.zero, .zero, rfl, rfl, rfl⟩
    · obtain ⟨c, rest, heq, hc⟩ := @toDigits_eq_cons i.natAbs (by omega)
      obtain ⟨hdigit, hrest⟩ := isDigit_of_toDigits heq
      rw [heq]
      refine ⟨.whole, .whole, ?_, foldlM_whole hrest, rfl⟩
      simp only [NumberState.start, if_neg (hdash c hdigit), if_neg hc, hdigit, if_true]

/-- **An integer's text says which it is.** -/
theorem intText_injective {i j : Int} (h : intText i = intText j) : i = j := by
  have hdash : ∀ n k : Nat, '-' :: Nat.toDigits 10 n ≠ Nat.toDigits 10 k := by
    intro n k hcons
    exact absurd (isDigit_of_toDigits hcons.symm).1 (by decide)
  have hdigits : ∀ n k : Nat, Nat.toDigits 10 n = Nat.toDigits 10 k → n = k := by
    intro n k heq
    rw [← @Nat.ofDigitChars_ten_toDigits n, heq, Nat.ofDigitChars_ten_toDigits]
  unfold intText at h
  split at h <;> split at h
  · have habs := hdigits _ _ (List.cons.inj h).2
    omega
  · exact absurd h (hdash _ _)
  · exact absurd h.symm (hdash _ _)
  · have habs := hdigits _ _ h
    omega

/-- A member of an object. -/
def memberText (m : List Char × List Char) : List Char := quoted m.1 ++ ':' :: m.2

/-- Members, with a comma between them. -/
def membersText : List (List Char × List Char) → List Char
  | [] => []
  | m :: ms => memberText m ++ ms.flatMap (',' :: memberText ·)

/-- The text of an object, from the names and the texts of its members. -/
def objectText (ms : List (List Char × List Char)) : List Char :=
  '\x7b' :: (membersText ms ++ ['\x7d'])

/-- **An object is spelled by writing its members one after the other.** -/
theorem spells_object {d : Nat} {ms : List (List Char × List Char)}
    {ps : List (List Char × Json)}
    (h : List.Forall₂ (fun m p => p.1 = m.1 ∧ Quotable m.1 ∧ Spells d m.2 p.2) ms ps) :
    Spells (d + 1) (objectText ms) (.object ps) := by
  have hmember : ∀ (m : List Char × List Char) (p : List Char × Json),
      p.1 = m.1 ∧ Quotable m.1 ∧ Spells d m.2 p.2 → SpellsMember d (memberText m) p := by
    rintro ⟨name, t⟩ ⟨_, v⟩ ⟨rfl, hname, ht⟩
    exact .mk hname blank_nil blank_nil ht
  have hrest : ∀ {ms : List (List Char × List Char)} {ps : List (List Char × Json)},
      List.Forall₂ (fun m p => p.1 = m.1 ∧ Quotable m.1 ∧ Spells d m.2 p.2) ms ps →
      SpellsMembers d (ms.flatMap (',' :: memberText ·) ++ ['\x7d']) ps := by
    intro ms ps h
    induction h with
    | nil => exact .close blank_nil
    | @cons m p ms ps hm _ ih =>
      rw [List.flatMap_cons, List.append_assoc, List.cons_append]
      exact @SpellsMembers.next d [] [] _ _ _ _ blank_nil blank_nil (hmember m p hm) ih
  cases h with
  | nil => exact .emptyObject blank_nil
  | @cons m p ms ps hm hms =>
    rw [objectText, membersText, List.append_assoc]
    exact @Spells.object d [] _ _ _ _ blank_nil (hmember m p hm) (hrest hms)

end Json
