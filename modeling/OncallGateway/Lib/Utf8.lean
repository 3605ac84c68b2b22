import OncallGateway.Lib.Bytes

/-! # UTF-8 as an encoding of characters

`utf8Decode?` reads the byte strings that `utf8Valid` accepts as the characters they
encode.  It is the inverse of `utf8Encode` on both sides (`utf8Decode?_utf8Encode`,
`utf8Encode_of_decode`), so that valid byte strings and lists of characters may be
exchanged for one another.
-/

/-- The bytes of a list of characters. -/
def utf8Encode (text : List Char) : ByteString := text.flatMap String.utf8EncodeChar

/-- The characters of a valid byte string. -/
def utf8Decode? : ByteString → Option (List Char)
  | [] => some []
  | a :: l =>
    if a.toNat < 0x80 then (utf8Decode? l).map (Char.ofNat a.toNat :: ·)
    else if 0xC2 ≤ a.toNat ∧ a.toNat ≤ 0xDF then
      match l with
      | b :: l =>
        if utf8Continuation b then
          (utf8Decode? l).map (Char.ofNat (64 * (a.toNat - 0xC0) + (b.toNat - 0x80)) :: ·)
        else none
      | _ => none
    else if 0xE0 ≤ a.toNat ∧ a.toNat ≤ 0xEF then
      match l with
      | b :: c :: l =>
        if utf8Continuation b && utf8Continuation c && decide (a.toNat = 0xE0 → 0xA0 ≤ b.toNat) &&
            decide (a.toNat = 0xED → b.toNat ≤ 0x9F) then
          (utf8Decode? l).map (Char.ofNat
            (4096 * (a.toNat - 0xE0) + 64 * (b.toNat - 0x80) + (c.toNat - 0x80)) :: ·)
        else none
      | _ => none
    else if 0xF0 ≤ a.toNat ∧ a.toNat ≤ 0xF4 then
      match l with
      | b :: c :: d :: l =>
        if utf8Continuation b && utf8Continuation c && utf8Continuation d &&
            decide (a.toNat = 0xF0 → 0x90 ≤ b.toNat) && decide (a.toNat = 0xF4 → b.toNat ≤ 0x8F) then
          (utf8Decode? l).map (Char.ofNat
            (262144 * (a.toNat - 0xF0) + 4096 * (b.toNat - 0x80) + 64 * (c.toNat - 0x80) +
              (d.toNat - 0x80)) :: ·)
        else none
      | _ => none
    else none

@[simp] theorem utf8Encode_nil : utf8Encode [] = [] := rfl

@[simp] theorem utf8Encode_cons (c : Char) (text : List Char) :
    utf8Encode (c :: text) = String.utf8EncodeChar c ++ utf8Encode text := List.flatMap_cons

/-! ## What is read -/

theorem isSome_guarded_map {α β : Type} {p : Bool} {o : Option α} {f : α → β} :
    (if p then o.map f else none).isSome = (p && o.isSome) := by
  cases p <;> simp

theorem utf8Encode_append (s t : List Char) :
    utf8Encode (s ++ t) = utf8Encode s ++ utf8Encode t := List.flatMap_append

/-- The decoder reads exactly the valid byte strings. -/
theorem utf8Decode?_isSome : ∀ l : ByteString, (utf8Decode? l).isSome = utf8Valid l
  | [] => rfl
  | a :: l => by
    rw [utf8Decode?.eq_def, utf8Valid.eq_def]
    dsimp only
    split
    · rw [Option.isSome_map, utf8Decode?_isSome l]
    · split
      · match l with
        | [] => rfl
        | b :: l => exact isSome_guarded_map.trans (by rw [utf8Decode?_isSome l])
      · split
        · match l with
          | [] => rfl
          | [_] => rfl
          | b :: c :: l => exact isSome_guarded_map.trans (by rw [utf8Decode?_isSome l])
        · split
          · match l with
            | [] => rfl
            | [_] => rfl
            | [_, _] => rfl
            | b :: c :: d :: l => exact isSome_guarded_map.trans (by rw [utf8Decode?_isSome l])
          · rfl

/-! ## What is written is read back -/

variable {n : Nat} {c : Char}

theorem toNat_ofNat_of_valid (h : n.isValidChar) : (Char.ofNat n).toNat = n := by
  rw [Char.ofNat, dif_pos h]
  rfl

theorem ofNat_eq_of_toNat {b : UInt8} (h : n = b.toNat) : UInt8.ofNat n = b := by
  rw [h, UInt8.ofNat_toNat]

theorem toNat_byte {m : Nat} (h : n = m ∧ m < 256) : (UInt8.ofNat n).toNat = m := by
  rw [UInt8.toNat_ofNat']
  omega

theorem utf8Continuation_iff {c : UInt8} :
    utf8Continuation c = true ↔ 0x80 ≤ c.toNat ∧ c.toNat ≤ 0xBF := by
  simp [utf8Continuation]

/-- One character, written and read. -/
theorem utf8Decode?_utf8EncodeChar (c : Char) (l : ByteString) :
    utf8Decode? (String.utf8EncodeChar c ++ l) = (utf8Decode? l).map (c :: ·) := by
  have hvalid : c.toNat < 0xD800 ∨ (0xDFFF < c.toNat ∧ c.toNat < 0x110000) := c.valid
  have hc : Char.ofNat c.toNat = c := Char.ofNat_toNat c
  unfold String.utf8EncodeChar
  rw [show c.val.toNat = c.toNat from rfl]
  generalize c.toNat = v at *
  subst hc
  dsimp only
  split
  · have ha : (UInt8.ofNat v).toNat = v := toNat_byte (by omega)
    rw [List.singleton_append, utf8Decode?.eq_def]
    dsimp only
    rw [ha, if_pos (by omega)]
  · split
    · have ha : (UInt8.ofNat (v / 64 % 32 + 192)).toNat = v / 64 + 192 := toNat_byte (by omega)
      have hb : (UInt8.ofNat (v % 64 + 128)).toNat = v % 64 + 128 := toNat_byte (by omega)
      rw [utf8Decode?.eq_def]
      simp only [List.cons_append, List.nil_append]
      have hcontinuation := utf8Continuation_iff.mpr (by rw [hb]; omega)
      rw [ha, if_neg (by omega), if_pos (by omega), if_pos hcontinuation]
      rw [hb, show 64 * (v / 64 + 192 - 192) + (v % 64 + 128 - 128) = v by omega]
    · split
      · have ha : (UInt8.ofNat (v / 4096 % 16 + 224)).toNat = v / 4096 + 224 := toNat_byte (by omega)
        have hb : (UInt8.ofNat (v / 64 % 64 + 128)).toNat = v / 64 % 64 + 128 := toNat_byte (by omega)
        have hc : (UInt8.ofNat (v % 64 + 128)).toNat = v % 64 + 128 := toNat_byte (by omega)
        rw [utf8Decode?.eq_def]
        simp only [List.cons_append, List.nil_append]
        rw [ha, if_neg (by omega), if_neg (by omega), if_pos (by omega), if_pos]
        · rw [hb, hc]
          rw [show 4096 * (v / 4096 + 224 - 224) + 64 * (v / 64 % 64 + 128 - 128) +
            (v % 64 + 128 - 128) = v by omega]
        · simp only [Bool.and_eq_true, utf8Continuation_iff, decide_eq_true_eq, hb, hc]
          omega
      · have ha : (UInt8.ofNat (v / 262144 % 8 + 240)).toNat = v / 262144 + 240 :=
          toNat_byte (by omega)
        have hb : (UInt8.ofNat (v / 4096 % 64 + 128)).toNat = v / 4096 % 64 + 128 :=
          toNat_byte (by omega)
        have hc : (UInt8.ofNat (v / 64 % 64 + 128)).toNat = v / 64 % 64 + 128 := toNat_byte (by omega)
        have hd : (UInt8.ofNat (v % 64 + 128)).toNat = v % 64 + 128 := toNat_byte (by omega)
        rw [utf8Decode?.eq_def]
        simp only [List.cons_append, List.nil_append]
        rw [ha, if_neg (by omega), if_neg (by omega), if_neg (by omega), if_pos (by omega), if_pos]
        · rw [hb, hc, hd]
          rw [show 262144 * (v / 262144 + 240 - 240) + 4096 * (v / 4096 % 64 + 128 - 128) +
            64 * (v / 64 % 64 + 128 - 128) + (v % 64 + 128 - 128) = v by omega]
        · simp only [Bool.and_eq_true, utf8Continuation_iff, decide_eq_true_eq, hb, hc, hd]
          omega

/-- **What is encoded is decoded.** -/
@[simp] theorem utf8Decode?_utf8Encode (text : List Char) :
    utf8Decode? (utf8Encode text) = some text := by
  induction text with
  | nil => rfl
  | cons c text ih => rw [utf8Encode_cons, utf8Decode?_utf8EncodeChar, ih, Option.map_some]

/-! ## What is read is written back -/

theorem utf8EncodeChar_two (h : 0x80 ≤ n ∧ n < 0x800) :
    String.utf8EncodeChar (Char.ofNat n) =
      [UInt8.ofNat (n / 64 + 192), UInt8.ofNat (n % 64 + 128)] := by
  have hval : (Char.ofNat n).val.toNat = n := toNat_ofNat_of_valid (Or.inl (by omega))
  unfold String.utf8EncodeChar
  rw [hval]
  dsimp only
  rw [if_neg (by omega), if_pos (by omega), Nat.mod_eq_of_lt (show n / 64 < 32 by omega)]

theorem utf8EncodeChar_three (h : 0x800 ≤ n ∧ n < 0x10000) (hvalid : n.isValidChar) :
    String.utf8EncodeChar (Char.ofNat n) =
      [UInt8.ofNat (n / 4096 + 224), UInt8.ofNat (n / 64 % 64 + 128),
        UInt8.ofNat (n % 64 + 128)] := by
  have hval : (Char.ofNat n).val.toNat = n := toNat_ofNat_of_valid hvalid
  unfold String.utf8EncodeChar
  rw [hval]
  dsimp only
  rw [if_neg (by omega), if_neg (by omega), if_pos (by omega),
    Nat.mod_eq_of_lt (show n / 4096 < 16 by omega)]

theorem utf8EncodeChar_four (h : 0x10000 ≤ n ∧ n < 0x110000) :
    String.utf8EncodeChar (Char.ofNat n) =
      [UInt8.ofNat (n / 262144 + 240), UInt8.ofNat (n / 4096 % 64 + 128),
        UInt8.ofNat (n / 64 % 64 + 128), UInt8.ofNat (n % 64 + 128)] := by
  have hval : (Char.ofNat n).val.toNat = n := toNat_ofNat_of_valid (Or.inr (by omega))
  unfold String.utf8EncodeChar
  rw [hval]
  dsimp only
  rw [if_neg (by omega), if_neg (by omega), if_neg (by omega),
    Nat.mod_eq_of_lt (show n / 262144 < 8 by omega)]

/-- A character that was read in front of a text was read from bytes that write it. -/
theorem utf8Encode_of_guarded_map {p : Prop} [Decidable p] {l g : ByteString} {text : List Char}
    (ih : ∀ text, utf8Decode? l = some text → utf8Encode text = l)
    (hg : p → String.utf8EncodeChar c = g)
    (h : (if p then (utf8Decode? l).map (c :: ·) else none) = some text) :
    utf8Encode text = g ++ l := by
  split at h
  · rename_i hp
    obtain ⟨rest, hrest, rfl⟩ := Option.map_eq_some_iff.mp h
    rw [utf8Encode_cons, hg hp, ih rest hrest]
  · cases h

/-- **What is decoded is encoded.** -/
theorem utf8Encode_of_decode :
    ∀ {l : ByteString} {text : List Char}, utf8Decode? l = some text → utf8Encode text = l
  | [], text, h => by cases h; rfl
  | a :: l, text, h => by
    have ha : a.toNat < 256 := a.toNat_lt
    rw [utf8Decode?.eq_def] at h
    dsimp only at h
    split at h
    · rename_i hone
      refine utf8Encode_of_guarded_map (p := True) (g := [a])
        (fun _ => utf8Encode_of_decode) (fun _ => ?_) ((if_pos trivial).trans h)
      have hval : (Char.ofNat a.toNat).val.toNat = a.toNat :=
        toNat_ofNat_of_valid (Or.inl (by omega))
      unfold String.utf8EncodeChar
      rw [hval]
      dsimp only
      rw [if_pos (by omega), UInt8.ofNat_toNat]
    · split at h
      · match l, h with
        | b :: l, h =>
          refine utf8Encode_of_guarded_map (g := [a, b]) (fun _ => utf8Encode_of_decode) ?_ h
          rw [utf8Continuation_iff]
          intro hb
          rw [utf8EncodeChar_two (by omega), ofNat_eq_of_toNat (b := a) (by omega),
            ofNat_eq_of_toNat (b := b) (by omega)]
      · split at h
        · match l, h with
          | b :: c :: l, h =>
            refine utf8Encode_of_guarded_map (g := [a, b, c])
              (fun _ => utf8Encode_of_decode) ?_ h
            simp only [Bool.and_eq_true, utf8Continuation_iff, decide_eq_true_eq]
            intro hbc
            -- not a surrogate: the lead byte 0xED is followed by a byte below 0xA0
            have hvalid : (4096 * (a.toNat - 224) + 64 * (b.toNat - 128) +
                (c.toNat - 128)).isValidChar := by
              unfold Nat.isValidChar
              omega
            rw [utf8EncodeChar_three (by omega) hvalid, ofNat_eq_of_toNat (b := a) (by omega),
              ofNat_eq_of_toNat (b := b) (by omega), ofNat_eq_of_toNat (b := c) (by omega)]
        · split at h
          · match l, h with
            | b :: c :: d :: l, h =>
              refine utf8Encode_of_guarded_map (g := [a, b, c, d])
                (fun _ => utf8Encode_of_decode) ?_ h
              simp only [Bool.and_eq_true, utf8Continuation_iff, decide_eq_true_eq]
              intro hbcd
              rw [utf8EncodeChar_four (by omega), ofNat_eq_of_toNat (b := a) (by omega),
                ofNat_eq_of_toNat (b := b) (by omega), ofNat_eq_of_toNat (b := c) (by omega),
                ofNat_eq_of_toNat (b := d) (by omega)]
          · cases h

theorem utf8Encode_injective {s t : List Char} (h : utf8Encode s = utf8Encode t) : s = t :=
  Option.some.inj (by rw [← utf8Decode?_utf8Encode s, h, utf8Decode?_utf8Encode])

/-! ## Ranges of bytes -/

theorem utf8EncodeChar_ne_nil (c : Char) : String.utf8EncodeChar c ≠ [] := by
  unfold String.utf8EncodeChar
  dsimp only
  split
  · nofun
  · split
    · nofun
    · split <;> nofun

theorem utf8EncodeChar_one (h : c.toNat < 0x80) :
    String.utf8EncodeChar c = [UInt8.ofNat c.toNat] := if_pos (show c.toNat ≤ 0x7f by omega)

/-- The bytes of a character beyond ASCII are beyond ASCII. -/
theorem le_of_mem_utf8EncodeChar (h : 0x80 ≤ c.toNat) :
    ∀ b ∈ String.utf8EncodeChar c, 0x80 ≤ b.toNat := by
  have hvalid : c.toNat < 0xD800 ∨ (0xDFFF < c.toNat ∧ c.toNat < 0x110000) := c.valid
  have hbyte : ∀ n, 0x80 ≤ n → n < 256 → 0x80 ≤ (UInt8.ofNat n).toNat := by
    intro n hn hlt
    rw [toNat_byte ⟨rfl, hlt⟩]
    exact hn
  unfold String.utf8EncodeChar
  rw [show c.val.toNat = c.toNat from rfl]
  generalize c.toNat = v at *
  dsimp only
  split
  · omega
  · split
    · simp only [List.mem_cons, List.not_mem_nil, or_false, forall_eq_or_imp, forall_eq]
      exact ⟨hbyte _ (by omega) (by omega), hbyte _ (by omega) (by omega)⟩
    · split
      · simp only [List.mem_cons, List.not_mem_nil, or_false, forall_eq_or_imp, forall_eq]
        exact ⟨hbyte _ (by omega) (by omega), hbyte _ (by omega) (by omega),
          hbyte _ (by omega) (by omega)⟩
      · simp only [List.mem_cons, List.not_mem_nil, or_false, forall_eq_or_imp, forall_eq]
        exact ⟨hbyte _ (by omega) (by omega), hbyte _ (by omega) (by omega),
          hbyte _ (by omega) (by omega), hbyte _ (by omega) (by omega)⟩

/-- An ASCII byte stands only for its own character. -/
theorem eq_of_mem_utf8EncodeChar {b : UInt8} (hb : b.toNat < 0x80)
    (h : b ∈ String.utf8EncodeChar c) : c = Char.ofNat b.toNat := by
  by_cases hc : c.toNat < 0x80
  · rw [utf8EncodeChar_one hc, List.mem_singleton] at h
    rw [h, toNat_byte ⟨rfl, by omega⟩, Char.ofNat_toNat]
  · have hle := le_of_mem_utf8EncodeChar (by omega) b h
    omega

