import OncallGateway.Lib.Json

/-! # What a quoted text stands for

A quoted text is a sequence of characters and of codes of 16 bits (`Lexed`).  A code that
is half of a surrogate pair stands for a character only together with the other half, so
that not every quoted text stands for one (`Denotes`): it does when its codes are paired
(`denotes_iff_paired`).  Library readers put U+FFFD for a half that is alone
(`unquote`); where the codes are paired they read what is denoted (`unquote_of_denotes`).
-/

namespace Json

/-- A part of a quoted text. -/
inductive CodeUnit where
  | char (c : Char)
  | code (n : Nat)
deriving DecidableEq

/-- The first half of a pair. -/
def IsHigh (n : Nat) : Prop := 0xD800 ≤ n ∧ n ≤ 0xDBFF

/-- The second half of a pair. -/
def IsLow (n : Nat) : Prop := 0xDC00 ≤ n ∧ n ≤ 0xDFFF

instance (n : Nat) : Decidable (IsHigh n) := inferInstanceAs (Decidable (_ ∧ _))

instance (n : Nat) : Decidable (IsLow n) := inferInstanceAs (Decidable (_ ∧ _))

/-- The parts of a quoted text. -/
inductive Lexed : List Char → List CodeUnit → Prop where
  | nil : Lexed [] []
  | plain {c : Char} {rest : List Char} {us : List CodeUnit} :
    TextState.plain.step c = some .plain → Lexed rest us → Lexed (c :: rest) (.char c :: us)
  | escape {e : Char} {rest : List Char} {us : List CodeUnit} :
    TextState.escape.step e = some .plain → Lexed rest us →
    Lexed ('\\' :: e :: rest) (.char (escaped e) :: us)
  | code {a b c d : Char} {n : Nat} {rest : List Char} {us : List CodeUnit} :
    hex4? a b c d = some n → Lexed rest us →
    Lexed ('\\' :: 'u' :: a :: b :: c :: d :: rest) (.code n :: us)

/-- The text that a sequence of parts denotes. -/
inductive Denotes : List CodeUnit → List Char → Prop where
  | nil : Denotes [] []
  | char {c : Char} {us : List CodeUnit} {text : List Char} :
    Denotes us text → Denotes (.char c :: us) (c :: text)
  | code {n : Nat} {us : List CodeUnit} {text : List Char} :
    ¬ IsSurrogate n → Denotes us text → Denotes (.code n :: us) (Char.ofNat n :: text)
  | pair {high low : Nat} {c : Char} {us : List CodeUnit} {text : List Char} :
    surrogatePair? high low = some c → Denotes us text →
    Denotes (.code high :: .code low :: us) (c :: text)

/-- Every half of a pair stands beside its other half. -/
def Paired (us : List CodeUnit) : Prop :=
  ∀ i n, us[i]? = some (.code n) → IsSurrogate n →
    ∃ k high low, us[k]? = some (.code high) ∧ us[k + 1]? = some (.code low) ∧
      IsHigh high ∧ IsLow low ∧ (i = k ∨ i = k + 1)

/-- The test for it, from left to right. -/
def wellPaired : List CodeUnit → Bool
  | [] => true
  | .char _ :: us => wellPaired us
  | .code n :: us =>
    if IsHigh n then
      match us with
      | .code low :: us => decide (IsLow low) && wellPaired us
      | _ => false
    else if IsLow n then false
    else wellPaired us

variable {high low n : Nat} {c : Char} {state : TextState} {raw : List Char} {us : List CodeUnit}

theorem isSurrogate_iff : IsSurrogate n ↔ IsHigh n ∨ IsLow n := by
  unfold IsSurrogate IsHigh IsLow
  omega

theorem not_isLow_of_isHigh (h : IsHigh n) : ¬ IsLow n := by
  unfold IsHigh at h
  unfold IsLow
  omega

theorem surrogatePair?_isSome :
    (∃ c, surrogatePair? high low = some c) ↔ IsHigh high ∧ IsLow low := by
  unfold surrogatePair? IsHigh IsLow
  split <;> simp <;> omega

/-! ## Every quoted text has its parts -/

theorem TextState.plain_step (h : TextState.plain.step c = some state) :
    (c = '\\' ∧ state = .escape) ∨ (c ≠ '\\' ∧ state = .plain) := by
  simp only [TextState.step] at h
  split at h
  · exact .inl ⟨‹_›, (Option.some.inj h).symm⟩
  · split at h
    · cases h
    · exact .inr ⟨‹_›, (Option.some.inj h).symm⟩

theorem TextState.escape_step (h : TextState.escape.step c = some state) :
    (c ≠ 'u' ∧ state = .plain) ∨ (c = 'u' ∧ state = .hex 4) := by
  simp only [TextState.step] at h
  split at h
  · rename_i hmem
    refine .inl ⟨?_, (Option.some.inj h).symm⟩
    rintro rfl
    exact absurd hmem (by decide)
  · split at h
    · exact .inr ⟨‹_›, (Option.some.inj h).symm⟩
    · cases h

theorem TextState.hex_step {missing : Nat} (h : (TextState.hex missing).step c = some state) :
    (∃ v, hexValue? c = some v) ∧
      state = if missing ≤ 1 then .plain else .hex (missing - 1) := by
  simp only [TextState.step] at h
  split at h
  · cases h
  · rename_i hsome
    refine ⟨Option.ne_none_iff_exists'.mp (by simpa using hsome), ?_⟩
    split at h
    · rw [if_pos ‹_›, Option.some.inj h]
    · rw [if_neg ‹_›, Option.some.inj h]

theorem foldlM_hex {rest : List Char} {missing : Nat}
    (h : rest.foldlM TextState.step (.hex missing) = some .plain) :
    ∃ c v rest', rest = c :: rest' ∧ hexValue? c = some v ∧
      rest'.foldlM TextState.step (if missing ≤ 1 then .plain else .hex (missing - 1)) =
        some .plain := by
  match rest with
  | [] => cases h
  | c :: rest =>
    rw [List.foldlM_cons] at h
    obtain ⟨state, hstate, hrest⟩ := Option.bind_eq_some_iff.mp h
    obtain ⟨⟨v, hv⟩, rfl⟩ := TextState.hex_step hstate
    exact ⟨c, v, rest, rfl, hv, hrest⟩

/-- **A text that may stand between quotation marks has its parts.** -/
theorem Quotable.exists_lexed (h : Quotable raw) : ∃ us, Lexed raw us := by
  unfold Quotable at h
  induction hn : raw.length using Nat.strongRecOn generalizing raw with
  | ind n ih =>
    subst hn
    match raw with
    | [] => exact ⟨[], .nil⟩
    | c :: rest =>
      rw [List.foldlM_cons] at h
      obtain ⟨state, hc, hrest⟩ := Option.bind_eq_some_iff.mp h
      obtain ⟨rfl, rfl⟩ | ⟨-, rfl⟩ := TextState.plain_step hc
      · match rest with
        | [] => cases hrest
        | e :: rest =>
          rw [List.foldlM_cons] at hrest
          obtain ⟨state, he, hrest⟩ := Option.bind_eq_some_iff.mp hrest
          obtain ⟨-, rfl⟩ | ⟨rfl, rfl⟩ := TextState.escape_step he
          · obtain ⟨us, hus⟩ := ih _ (by simp only [List.length_cons]; omega) hrest rfl
            exact ⟨_, .escape he hus⟩
          -- four digits follow
          · obtain ⟨a, va, _, rfl, ha, hrest⟩ := foldlM_hex hrest
            obtain ⟨b, vb, _, rfl, hb, hrest⟩ := foldlM_hex hrest
            obtain ⟨c, vc, _, rfl, hc, hrest⟩ := foldlM_hex hrest
            obtain ⟨d, vd, _, rfl, hd, hrest⟩ := foldlM_hex hrest
            obtain ⟨us, hus⟩ := ih _ (by simp only [List.length_cons]; omega) hrest rfl
            have hcode : hex4? a b c d = some (4096 * va + 256 * vb + 16 * vc + vd) := by
              simp [hex4?, ha, hb, hc, hd]
            exact ⟨_, .code hcode hus⟩
      · obtain ⟨us, hus⟩ := ih _ (by simp only [List.length_cons]; omega) hrest rfl
        exact ⟨_, .plain hc hus⟩

/-- Conversely, what has parts may stand between quotation marks. -/
theorem Lexed.quotable (h : Lexed raw us) :
    Quotable raw := by
  unfold Quotable
  induction h with
  | nil => rfl
  | plain hc _ ih =>
    rw [List.foldlM_cons, hc]
    exact ih
  | escape he _ ih =>
    rw [List.foldlM_cons]
    change (TextState.escape.step _ >>= fun state => _) = _
    rw [he]
    exact ih
  | code hcode _ ih =>
    simp only [hex4?, Option.bind_eq_bind, Option.bind_eq_some_iff] at hcode
    obtain ⟨_, ha, _, hb, _, hc, _, hd, _⟩ := hcode
    simp [TextState.step, ha, hb, hc, hd, ih]

/-! ## Reading the parts -/

theorem slash_ne_of_plain (h : TextState.plain.step c = some .plain) : c ≠ '\\' := by
  rintro rfl
  cases h

theorem u_ne_of_escape {e : Char} (h : TextState.escape.step e = some .plain) : e ≠ 'u' := by
  rintro rfl
  cases h

theorem unquote_pair {a b d e f g h : Char} {rest : List Char} {x : Char}
    (hhigh : hex4? a b c d = some high) (hlow : hex4? e f g h = some low)
    (hx : surrogatePair? high low = some x) :
    unquote ('\\' :: 'u' :: a :: b :: c :: d :: '\\' :: 'u' :: e :: f :: g :: h :: rest) =
      x :: unquote rest := by
  have hsurrogate : IsSurrogate high :=
    isSurrogate_iff.mpr (.inl (surrogatePair?_isSome.mp ⟨x, hx⟩).1)
  rw [unquote.eq_def]
  simp [hhigh, hlow, hx, hsurrogate]

/-- **What is denoted is what is read.** -/
theorem unquote_of_denotes {text : List Char} (hraw : Lexed raw us) (htext : Denotes us text) :
    unquote raw = text := by
  induction htext generalizing raw with
  | nil =>
    cases hraw
    rfl
  | char _ ih =>
    cases hraw with
    | plain hc hrest => rw [unquote_plain (slash_ne_of_plain hc), ih hrest]
    | escape he hrest => rw [unquote_escape (u_ne_of_escape he), ih hrest]
  | code hn _ ih =>
    cases hraw with
    | code hcode hrest => rw [unquote_code hcode hn, ih hrest]
  | pair hpair _ ih =>
    cases hraw with
    | code hhigh hrest =>
      cases hrest with
      | code hlow hrest => rw [unquote_pair hhigh hlow hpair, ih hrest]

/-! ## Pairs -/

theorem wellPaired_pair (hhigh : IsHigh high) (hlow : IsLow low) :
    wellPaired (.code high :: .code low :: us) = wellPaired us := by
  simp [wellPaired, hhigh, hlow]

theorem wellPaired_high (hhigh : IsHigh high)
    (hus : ∀ low us', us = .code low :: us' → ¬ IsLow low) :
    wellPaired (.code high :: us) = false := by
  match us with
  | [] => simp [wellPaired, hhigh]
  | .char _ :: _ => simp [wellPaired, hhigh]
  | .code low :: us => simp [wellPaired, hhigh, hus low us rfl]

theorem wellPaired_low (hlow : IsLow low) :
    wellPaired (.code low :: us) = false := by
  have hhigh : ¬ IsHigh low := fun h => not_isLow_of_isHigh h hlow
  rw [wellPaired.eq_def]
  simp [hhigh, hlow]

theorem wellPaired_code (hhigh : ¬ IsHigh n) (hlow : ¬ IsLow n) :
    wellPaired (.code n :: us) = wellPaired us := by
  rw [wellPaired.eq_def]
  simp [hhigh, hlow]

/-- The test finds the texts that denote something. -/
theorem wellPaired_iff_denotes :
    wellPaired us = true ↔ ∃ text, Denotes us text := by
  fun_induction wellPaired us with
  | case1 => exact iff_of_true rfl ⟨[], .nil⟩
  | case2 c us ih =>
    rw [ih]
    constructor
    · rintro ⟨text, h⟩
      exact ⟨c :: text, .char h⟩
    · rintro ⟨_, h⟩
      cases h with
      | char h => exact ⟨_, h⟩
  | case3 high hhigh low us ih =>
    rw [Bool.and_eq_true, decide_eq_true_eq, ih]
    constructor
    · rintro ⟨hlow, text, h⟩
      obtain ⟨c, hc⟩ := surrogatePair?_isSome.mpr ⟨hhigh, hlow⟩
      exact ⟨c :: text, .pair hc h⟩
    · rintro ⟨_, h⟩
      cases h with
      | code hn _ => exact absurd (isSurrogate_iff.mpr (.inl hhigh)) hn
      | pair hc h => exact ⟨(surrogatePair?_isSome.mp ⟨_, hc⟩).2, _, h⟩
  | case4 high us hhigh hnot =>
    refine iff_of_false Bool.false_ne_true ?_
    rintro ⟨_, h⟩
    cases h with
    | code hn _ => exact hn (isSurrogate_iff.mpr (.inl hhigh))
    | pair hc _ => exact hnot _ _ rfl
  | case5 low us hhigh hlow =>
    refine iff_of_false Bool.false_ne_true ?_
    rintro ⟨_, h⟩
    cases h with
    | code hn _ => exact hn (isSurrogate_iff.mpr (.inr hlow))
    | pair hc _ => exact hhigh (surrogatePair?_isSome.mp ⟨_, hc⟩).1
  | case6 n us hhigh hlow ih =>
    rw [ih]
    constructor
    · rintro ⟨text, h⟩
      exact ⟨_, .code (fun hn => (isSurrogate_iff.mp hn).elim hhigh hlow) h⟩
    · rintro ⟨_, h⟩
      cases h with
      | code _ h => exact ⟨_, h⟩
      | pair hc _ => exact absurd (surrogatePair?_isSome.mp ⟨_, hc⟩).1 hhigh

/-- A part in front that is no half of a pair changes nothing. -/
theorem paired_cons {u : CodeUnit} (hu : ∀ n, u = .code n → ¬ IsSurrogate n) :
    Paired (u :: us) ↔ Paired us := by
  constructor
  · intro h i n hi hn
    obtain ⟨k, high, low, hk, hk', hhigh, hlow, hik⟩ := h (i + 1) n hi hn
    match k with
    | 0 => exact absurd (isSurrogate_iff.mpr (.inl hhigh)) (hu high (Option.some.inj hk))
    | k + 1 => exact ⟨k, high, low, hk, hk', hhigh, hlow, by omega⟩
  · intro h i n hi hn
    match i with
    | 0 => exact absurd hn (hu n (Option.some.inj hi))
    | i + 1 =>
      obtain ⟨k, high, low, hk, hk', hhigh, hlow, hik⟩ := h i n hi hn
      exact ⟨k + 1, high, low, hk, hk', hhigh, hlow, by omega⟩

/-- Nor does a pair. -/
theorem paired_pair (hhigh : IsHigh high) (hlow : IsLow low) :
    Paired (.code high :: .code low :: us) ↔ Paired us := by
  constructor
  · intro h i n hi hn
    obtain ⟨k, high', low', hk, hk', hhigh', hlow', hik⟩ := h (i + 2) n hi hn
    match k with
    | 0 => omega
    | 1 =>
      cases hk
      exact absurd hlow (not_isLow_of_isHigh hhigh')
    | k + 2 => exact ⟨k, high', low', hk, hk', hhigh', hlow', by omega⟩
  · intro h i n hi hn
    match i with
    | 0 => exact ⟨0, high, low, rfl, rfl, hhigh, hlow, .inl rfl⟩
    | 1 => exact ⟨0, high, low, rfl, rfl, hhigh, hlow, .inr rfl⟩
    | i + 2 =>
      obtain ⟨k, high', low', hk, hk', hhigh', hlow', hik⟩ := h i n hi hn
      exact ⟨k + 2, high', low', hk, hk', hhigh', hlow', by omega⟩

theorem wellPaired_iff_paired : wellPaired us = true ↔ Paired us := by
  fun_induction wellPaired us with
  | case1 => exact iff_of_true rfl fun i n hi => nomatch hi
  | case2 c us ih =>
    rw [ih, paired_cons]
    rintro n hcode
    cases hcode
  | case3 high hhigh low us ih =>
    rw [Bool.and_eq_true, decide_eq_true_eq, ih]
    constructor
    · rintro ⟨hlow, h⟩
      exact (paired_pair hhigh hlow).mpr h
    · intro h
      obtain ⟨k, high', low', hk, hk', -, hlow', hik⟩ :=
        h 0 high rfl (isSurrogate_iff.mpr (.inl hhigh))
      obtain rfl : k = 0 := by omega
      cases hk'
      exact ⟨hlow', (paired_pair hhigh hlow').mp h⟩
  | case4 high us hhigh hnot =>
    refine iff_of_false Bool.false_ne_true fun h => ?_
    obtain ⟨k, _, low, -, hk', -, -, hik⟩ := h 0 high rfl (isSurrogate_iff.mpr (.inl hhigh))
    obtain rfl : k = 0 := by omega
    match us, hk' with
    | _ :: us, hk' =>
      cases hk'
      exact hnot _ _ rfl
  | case5 low us hhigh hlow =>
    refine iff_of_false Bool.false_ne_true fun h => ?_
    obtain ⟨k, _, _, hk, -, hhigh', -, hik⟩ := h 0 low rfl (isSurrogate_iff.mpr (.inr hlow))
    obtain rfl : k = 0 := by omega
    cases hk
    exact hhigh hhigh'
  | case6 n us hhigh hlow ih =>
    rw [ih, paired_cons]
    rintro _ ⟨⟩ hn
    exact (isSurrogate_iff.mp hn).elim hhigh hlow

/-- **A quoted text denotes something exactly when its codes are paired.** -/
theorem denotes_iff_paired : (∃ text, Denotes us text) ↔ Paired us :=
  wellPaired_iff_denotes.symm.trans wellPaired_iff_paired

theorem ofNat_eq_replacement : Char.ofNat n = '\uFFFD' ↔ n = 0xFFFD := by
  constructor
  · intro h
    by_cases hvalid : n.isValidChar
    · have htoNat : (Char.ofNat n).toNat = n := by
        rw [Char.ofNat, dif_pos hvalid]
        rfl
      rw [← htoNat, h]
      rfl
    · rw [Char.ofNat, dif_neg hvalid] at h
      exact absurd h (by decide)
  · rintro rfl
    rfl

/-- U+FFFD is denoted only where it is written, as itself or as its code. -/
theorem Denotes.count_replacement {text : List Char} (h : Denotes us text) :
    text.count '\uFFFD' = us.count (.char '\uFFFD') + us.count (.code 0xFFFD) := by
  induction h with
  | nil => rfl
  | @char c us text _ ih =>
    simp only [List.count_cons, ih, beq_iff_eq, CodeUnit.char.injEq, reduceCtorEq, if_false]
    omega
  | @code n us text _ _ ih =>
    simp only [List.count_cons, ih, beq_iff_eq, CodeUnit.code.injEq, reduceCtorEq, if_false,
      ofNat_eq_replacement]
    omega
  | @pair high low c us text hc _ ih =>
    -- a pair denotes a character beyond U+FFFF
    obtain ⟨hhigh, hlow⟩ := surrogatePair?_isSome.mp ⟨c, hc⟩
    unfold IsHigh at hhigh
    unfold IsLow at hlow
    rw [surrogatePair?, if_pos (by omega), Option.some.injEq] at hc
    have hne : c ≠ '\uFFFD' := by
      rw [← hc, ne_eq, ofNat_eq_replacement]
      omega
    simp only [List.count_cons, ih, beq_iff_eq, CodeUnit.code.injEq, reduceCtorEq, if_false, hne]
    rw [if_neg (by omega), if_neg (by omega)]
    omega

end Json
