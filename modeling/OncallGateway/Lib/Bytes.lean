import Mathlib.Data.List.Basic
import Mathlib.Data.List.Induction

/-! # Byte strings and their text encodings

Byte strings are lists of `UInt8`; `Bytes n` is a byte string of exactly `n`
bytes, the proof of its length carried along.  Three encodings over them:
lowercase hexadecimal, unpadded base64url, and UTF-8.

Decoders accept what common library decoders accept, which is more than the
encoders write: hexadecimal digits of either case, and, in base64, line breaks
anywhere and any bits in the last sextet beyond the last whole byte.  What is
written is always read back (`hexDecode_hexEncode`, `base64Decode_base64Encode`), and a
number is read back from its shortest decimal (`ByteString.decimal_ofDecimal`).
-/

/-- A byte string. -/
abbrev ByteString := List UInt8

/-- The bytes of an ASCII literal. -/
def ByteString.ascii (s : String) : ByteString := s.toList.map fun c => UInt8.ofNat c.toNat

/-- A byte string of exactly `n` bytes. -/
structure Bytes (n : Nat) where
  toList : ByteString
  length_eq : toList.length = n
deriving DecidableEq

/-- A hash function with digests of 32 bytes. -/
abbrev Hash := ByteString → Bytes 32

/-- The same with a key. -/
abbrev KeyedHash := ByteString → Hash

variable {l text : ByteString} {c : UInt8} {n : Nat}

namespace Bytes

/-- The same byte everywhere. -/
def fill (n : Nat) (b : UInt8) : Bytes n := ⟨List.replicate n b, List.length_replicate⟩

/-- All bytes zero. -/
def zero (n : Nat) : Bytes n := ⟨List.replicate n 0, List.length_replicate⟩

/-- All bytes are zero. -/
def IsZero (b : Bytes n) : Prop := b = zero n

instance (b : Bytes n) : Decidable b.IsZero := inferInstanceAs (Decidable (b = zero n))

/-- The bytes of `l`, when there are `n` of them. -/
def ofList? (n : Nat) (l : ByteString) : Option (Bytes n) :=
  if h : l.length = n then some ⟨l, h⟩ else none

@[simp] theorem ofList?_toList (b : Bytes n) : ofList? n b.toList = some b := by
  simp [ofList?, b.length_eq]

theorem toList_of_ofList? {b : Bytes n} (h : ofList? n l = some b) :
    b.toList = l := by
  unfold ofList? at h
  split at h
  · cases h
    rfl
  · cases h

theorem toList_injective {a b : Bytes n} (h : a.toList = b.toList) : a = b := by
  cases a
  cases b
  simpa using h

end Bytes

/-! ## Hexadecimal -/

/-- The lowercase digit of a value below 16. -/
def hexDigit (v : Nat) : UInt8 := UInt8.ofNat (if v < 10 then 48 + v else 87 + v)

/-- The value of a digit of either case. -/
def hexValue (c : UInt8) : Option Nat :=
  if 48 ≤ c.toNat ∧ c.toNat ≤ 57 then some (c.toNat - 48)
  else if 97 ≤ c.toNat ∧ c.toNat ≤ 102 then some (c.toNat - 87)
  else if 65 ≤ c.toNat ∧ c.toNat ≤ 70 then some (c.toNat - 55)
  else none

/-- Two lowercase digits for each byte. -/
def hexEncode : ByteString → ByteString
  | [] => []
  | b :: l => hexDigit (b.toNat / 16) :: hexDigit (b.toNat % 16) :: hexEncode l

/-- The bytes of an even number of digits. -/
def hexDecode : ByteString → Option ByteString
  | [] => some []
  | [_] => none
  | c :: d :: l => do
    let hi ← hexValue c
    let lo ← hexValue d
    let rest ← hexDecode l
    return UInt8.ofNat (16 * hi + lo) :: rest

theorem hexValue_hexDigit : ∀ v, v < 16 → hexValue (hexDigit v) = some v := by
  decide

@[simp] theorem length_hexEncode (l : ByteString) : (hexEncode l).length = 2 * l.length := by
  induction l with
  | nil => rfl
  | cons b l ih => simp only [hexEncode, List.length_cons, ih]; omega

/-- **What is written in hexadecimal is read back.** -/
theorem hexDecode_hexEncode (l : ByteString) : hexDecode (hexEncode l) = some l := by
  induction l with
  | nil => rfl
  | cons b l ih =>
    have hb : b.toNat < 256 := b.toNat_lt
    have hhi := hexValue_hexDigit (b.toNat / 16) (by omega)
    have hlo := hexValue_hexDigit (b.toNat % 16) (by omega)
    have hsum : 16 * (b.toNat / 16) + b.toNat % 16 = b.toNat := by omega
    simp only [hexEncode, hexDecode, hhi, hlo, ih, Option.bind_eq_bind, Option.bind_some, hsum,
      UInt8.ofNat_toNat]
    rfl

theorem hexEncode_injective {m : ByteString} (h : hexEncode l = hexEncode m) : l = m :=
  Option.some.inj (by rw [← hexDecode_hexEncode l, h, hexDecode_hexEncode])

theorem hexDigit_ne_newline : ∀ v, v < 16 → hexDigit v ≠ 10 := by
  decide

/-- A byte that no digit is written as is in no text. -/
theorem notMem_hexEncode (hc : ∀ v, v < 16 → hexDigit v ≠ c) (l : ByteString) :
    c ∉ hexEncode l := by
  induction l with
  | nil => exact List.not_mem_nil
  | cons b l ih =>
    have hb : b.toNat < 256 := b.toNat_lt
    simp only [hexEncode, List.mem_cons, not_or]
    exact ⟨(hc _ (by omega)).symm, (hc _ (by omega)).symm, ih⟩

theorem newline_notMem_hexEncode (l : ByteString) : 10 ∉ hexEncode l :=
  notMem_hexEncode hexDigit_ne_newline l

theorem hexEncode_append (l m : ByteString) : hexEncode (l ++ m) = hexEncode l ++ hexEncode m := by
  induction l with
  | nil => rfl
  | cons b l ih => simp [hexEncode, ih]

theorem hexEncode_take (l : ByteString) (n : Nat) :
    hexEncode (l.take n) = (hexEncode l).take (2 * n) := by
  induction l generalizing n with
  | nil => simp [hexEncode]
  | cons b l ih =>
    match n with
    | 0 => rfl
    | n + 1 => simp [hexEncode, ih, Nat.mul_add]

theorem hexEncode_drop (l : ByteString) (n : Nat) :
    hexEncode (l.drop n) = (hexEncode l).drop (2 * n) := by
  induction l generalizing n with
  | nil => simp [hexEncode]
  | cons b l ih =>
    match n with
    | 0 => rfl
    | n + 1 => simp [hexEncode, ih, Nat.mul_add]

/-- An even number of lowercase digits is written for some bytes. -/
theorem exists_hexEncode {n : Nat} {digits : ByteString} (hlength : digits.length = 2 * n)
    (h : ∀ c ∈ digits, ∃ v < 16, c = hexDigit v) : ∃ l, l.length = n ∧ hexEncode l = digits := by
  induction n generalizing digits with
  | zero => exact ⟨[], rfl, (List.length_eq_zero_iff.mp hlength).symm⟩
  | succ n ih =>
    match digits, hlength with
    | [_], hlength => simp only [List.length_singleton] at hlength; omega
    | c :: d :: digits, hlength =>
      simp only [List.forall_mem_cons] at h
      obtain ⟨⟨hi, hhi, rfl⟩, ⟨lo, hlo, rfl⟩, hrest⟩ := h
      obtain ⟨l, hl, rfl⟩ := ih (by simp only [List.length_cons] at hlength; omega) hrest
      have hbyte : (UInt8.ofNat (16 * hi + lo)).toNat = 16 * hi + lo := by
        rw [UInt8.toNat_ofNat']
        omega
      refine ⟨UInt8.ofNat (16 * hi + lo) :: l, by rw [List.length_cons, hl], ?_⟩
      rw [hexEncode, hbyte, show (16 * hi + lo) / 16 = hi by omega,
        show (16 * hi + lo) % 16 = lo by omega]

/-- An upper case digit. -/
def upperHexDigit (c : UInt8) : Prop := 65 ≤ c.toNat ∧ c.toNat ≤ 70

theorem hexDigit_of_hexValue {v : Nat} (h : hexValue c = some v) (hcase : ¬ upperHexDigit c) :
    v < 16 ∧ hexDigit v = c := by
  unfold hexValue at h
  split at h
  · cases h
    refine ⟨by omega, ?_⟩
    rw [hexDigit, if_pos (by omega), show 48 + (c.toNat - 48) = c.toNat by omega, UInt8.ofNat_toNat]
  · split at h
    · cases h
      refine ⟨by omega, ?_⟩
      rw [hexDigit, if_neg (by omega), show 87 + (c.toNat - 87) = c.toNat by omega,
        UInt8.ofNat_toNat]
    · split at h
      · exact absurd ‹_› hcase
      · cases h

/-- **Without upper case digits, a text is read as the bytes that it is written for.** -/
theorem hexEncode_of_hexDecode (h : hexDecode text = some l)
    (hcase : ∀ c ∈ text, ¬ upperHexDigit c) : hexEncode l = text := by
  induction text using hexDecode.induct generalizing l with
  | case1 =>
    cases h
    rfl
  | case2 c => cases h
  | case3 c d text ih =>
    simp only [List.forall_mem_cons] at hcase
    simp only [hexDecode, Option.bind_eq_bind, Option.bind_eq_some_iff, Option.pure_def,
      Option.some.injEq] at h
    obtain ⟨hi, hhi, lo, hlo, rest, hrest, rfl⟩ := h
    obtain ⟨hhi16, hhigh⟩ := hexDigit_of_hexValue hhi hcase.1
    obtain ⟨hlo16, hlow⟩ := hexDigit_of_hexValue hlo hcase.2.1
    have hbyte : (UInt8.ofNat (16 * hi + lo)).toNat = 16 * hi + lo := by
      rw [UInt8.toNat_ofNat']
      omega
    rw [hexEncode, hbyte, show (16 * hi + lo) / 16 = hi by omega,
      show (16 * hi + lo) % 16 = lo by omega, hhigh, hlow, ih hrest hcase.2.2]

/-! ## Base64url without padding -/

/-- The character of a sextet. -/
def base64Digit (v : Nat) : UInt8 :=
  UInt8.ofNat
    (if v < 26 then 65 + v else if v < 52 then 71 + v else if v < 62 then v - 4
      else if v = 62 then 45 else 95)

/-- The sextet of a character. -/
def base64Value (c : UInt8) : Option Nat :=
  let v := c.toNat
  if 65 ≤ v ∧ v ≤ 90 then some (v - 65)
  else if 97 ≤ v ∧ v ≤ 122 then some (v - 71)
  else if 48 ≤ v ∧ v ≤ 57 then some (v + 4)
  else if v = 45 then some 62
  else if v = 95 then some 63
  else none

/-- Four characters for three bytes; two or three characters for a shorter rest. -/
def base64Encode : ByteString → ByteString
  | [] => []
  | [a] => [base64Digit (a.toNat / 4), base64Digit (a.toNat % 4 * 16)]
  | [a, b] =>
    [base64Digit (a.toNat / 4), base64Digit (a.toNat % 4 * 16 + b.toNat / 16),
      base64Digit (b.toNat % 16 * 4)]
  | a :: b :: c :: l =>
    base64Digit (a.toNat / 4) :: base64Digit (a.toNat % 4 * 16 + b.toNat / 16) ::
      base64Digit (b.toNat % 16 * 4 + c.toNat / 64) :: base64Digit (c.toNat % 64) ::
      base64Encode l

/-- The bytes of a sequence of sextets.  A single left-over sextet is an error;
the bits of the last sextet that fill no byte are dropped. -/
def base64Join : List Nat → Option ByteString
  | [] => some []
  | [_] => none
  | [p, q] => some [UInt8.ofNat (p * 4 + q / 16)]
  | [p, q, r] => some [UInt8.ofNat (p * 4 + q / 16), UInt8.ofNat (q % 16 * 16 + r / 4)]
  | p :: q :: r :: s :: l => do
    let rest ← base64Join l
    return UInt8.ofNat (p * 4 + q / 16) :: UInt8.ofNat (q % 16 * 16 + r / 4) ::
      UInt8.ofNat (r % 4 * 64 + s) :: rest

/-- Decoding: carriage returns and line feeds are skipped wherever they stand. -/
def base64Decode (l : ByteString) : Option ByteString := do
  let sextets ← (l.filter fun c => c ≠ 10 ∧ c ≠ 13).mapM base64Value
  base64Join sextets

theorem base64Digit_ne_newline : ∀ v, v < 64 → base64Digit v ≠ 10 := by
  decide

/-- The sextets of the bytes, which are what is written. -/
def base64Sextets : ByteString → List Nat
  | [] => []
  | [a] => [a.toNat / 4, a.toNat % 4 * 16]
  | [a, b] => [a.toNat / 4, a.toNat % 4 * 16 + b.toNat / 16, b.toNat % 16 * 4]
  | a :: b :: c :: l =>
    a.toNat / 4 :: (a.toNat % 4 * 16 + b.toNat / 16) :: (b.toNat % 16 * 4 + c.toNat / 64) ::
      c.toNat % 64 :: base64Sextets l

theorem base64Encode_eq_map (l : ByteString) :
    base64Encode l = (base64Sextets l).map base64Digit := by
  induction l using base64Sextets.induct with
  | case1 => rfl
  | case2 a => rfl
  | case3 a b => rfl
  | case4 a b c l ih => simp only [base64Encode, base64Sextets, List.map_cons, ih]

theorem base64Sextets_lt (l : ByteString) : ∀ v ∈ base64Sextets l, v < 64 := by
  induction l using base64Sextets.induct with
  | case1 => exact fun v hv => absurd hv List.not_mem_nil
  | case2 a =>
    have ha : a.toNat < 256 := a.toNat_lt
    simp only [base64Sextets, List.forall_mem_cons]
    exact ⟨by omega, by omega, fun v hv => absurd hv List.not_mem_nil⟩
  | case3 a b =>
    have ha : a.toNat < 256 := a.toNat_lt
    have hb : b.toNat < 256 := b.toNat_lt
    simp only [base64Sextets, List.forall_mem_cons]
    exact ⟨by omega, by omega, by omega, fun v hv => absurd hv List.not_mem_nil⟩
  | case4 a b c l ih =>
    have ha : a.toNat < 256 := a.toNat_lt
    have hb : b.toNat < 256 := b.toNat_lt
    have hc : c.toNat < 256 := c.toNat_lt
    simp only [base64Sextets, List.forall_mem_cons]
    exact ⟨by omega, by omega, by omega, by omega, ih⟩

/-- What is written consists of the characters of sextets. -/
theorem exists_of_mem_base64Encode (h : c ∈ base64Encode l) :
    ∃ v < 64, base64Digit v = c := by
  rw [base64Encode_eq_map] at h
  obtain ⟨v, hv, rfl⟩ := List.mem_map.mp h
  exact ⟨v, base64Sextets_lt l v hv, rfl⟩

/-- A byte that no sextet is written as is in no text. -/
theorem notMem_base64Encode (hc : ∀ v, v < 64 → base64Digit v ≠ c) (l : ByteString) :
    c ∉ base64Encode l := by
  intro h
  obtain ⟨v, hv, rfl⟩ := exists_of_mem_base64Encode h
  exact hc v hv rfl

theorem newline_notMem_base64Encode (l : ByteString) : 10 ∉ base64Encode l :=
  notMem_base64Encode base64Digit_ne_newline l

theorem length_base64Encode (l : ByteString) :
    (base64Encode l).length = (4 * l.length + 2) / 3 := by
  induction l using base64Encode.induct with
  | case1 => rfl
  | case2 a => simp [base64Encode]
  | case3 a b => simp [base64Encode]
  | case4 a b c l ih =>
    simp only [base64Encode, List.length_cons, ih]
    omega

theorem base64Digit_ne_return : ∀ v, v < 64 → base64Digit v ≠ 13 := by
  decide

theorem base64Value_base64Digit : ∀ v, v < 64 → base64Value (base64Digit v) = some v := by
  decide

theorem mapM_base64Value {sextets : List Nat} (h : ∀ v ∈ sextets, v < 64) :
    (sextets.map base64Digit).mapM base64Value = some sextets := by
  induction sextets with
  | nil => rfl
  | cons v sextets ih =>
    rw [List.forall_mem_cons] at h
    rw [List.map_cons, List.mapM_cons, base64Value_base64Digit v h.1, ih h.2]
    rfl

/-- A byte from the sextets that hold it. -/
theorem UInt8.ofNat_eq_of_toNat {b : UInt8} (h : n = b.toNat) : UInt8.ofNat n = b := by
  rw [h, UInt8.ofNat_toNat]

theorem base64Join_base64Sextets (l : ByteString) : base64Join (base64Sextets l) = some l := by
  induction l using base64Sextets.induct with
  | case1 => rfl
  | case2 a =>
    have ha : a.toNat < 256 := a.toNat_lt
    simp only [base64Sextets, base64Join]
    rw [UInt8.ofNat_eq_of_toNat (b := a) (by omega)]
  | case3 a b =>
    have ha : a.toNat < 256 := a.toNat_lt
    have hb : b.toNat < 256 := b.toNat_lt
    simp only [base64Sextets, base64Join]
    rw [UInt8.ofNat_eq_of_toNat (b := a) (by omega), UInt8.ofNat_eq_of_toNat (b := b) (by omega)]
  | case4 a b c l ih =>
    have ha : a.toNat < 256 := a.toNat_lt
    have hb : b.toNat < 256 := b.toNat_lt
    have hc : c.toNat < 256 := c.toNat_lt
    simp only [base64Sextets, base64Join, ih, Option.bind_eq_bind, Option.bind_some]
    rw [UInt8.ofNat_eq_of_toNat (b := a) (by omega), UInt8.ofNat_eq_of_toNat (b := b) (by omega),
      UInt8.ofNat_eq_of_toNat (b := c) (by omega)]
    rfl

/-- **What is written in base64url is read back.** -/
theorem base64Decode_base64Encode (l : ByteString) : base64Decode (base64Encode l) = some l := by
  have hkept : (base64Encode l).filter (fun c => c ≠ 10 ∧ c ≠ 13) = base64Encode l := by
    rw [List.filter_eq_self]
    intro c hc
    obtain ⟨v, hv, rfl⟩ := exists_of_mem_base64Encode hc
    exact decide_eq_true ⟨base64Digit_ne_newline v hv, base64Digit_ne_return v hv⟩
  rw [base64Decode, hkept, base64Encode_eq_map, mapM_base64Value (base64Sextets_lt l)]
  exact base64Join_base64Sextets l

/-- The `n` bytes of a text that is exactly what the encoder writes for them. -/
def base64Exact? (n : Nat) (text : ByteString) : Option (Bytes n) :=
  match base64Decode text with
  | none => none
  | some decoded =>
    match Bytes.ofList? n decoded with
    | none => none
    | some bytes => if base64Encode decoded ≠ text then none else some bytes

theorem base64Encode_of_exact {bytes : Bytes n} (h : base64Exact? n text = some bytes) :
    base64Encode bytes.toList = text := by
  unfold base64Exact? at h
  split at h
  · cases h
  · rename_i decoded _
    split at h
    · cases h
    · rename_i bytes' hbytes
      split at h
      · cases h
      · rename_i hexact
        cases h
        rw [Bytes.toList_of_ofList? hbytes, not_not.mp hexact]

/-- **A text is accepted for bytes exactly when it is what is written for them.** -/
theorem base64Exact?_eq_some {bytes : Bytes n} :
    base64Exact? n text = some bytes ↔ text = base64Encode bytes.toList := by
  refine ⟨fun h => (base64Encode_of_exact h).symm, ?_⟩
  rintro rfl
  simp [base64Exact?, base64Decode_base64Encode]

/-! ## Texts -/

/-- The place of the first occurrence of a text in another. -/
def ByteString.index? (text : ByteString) : ByteString → Option Nat
  | [] => if text = [] then some 0 else none
  | c :: rest => if text <+: c :: rest then some 0 else (index? text rest).map (· + 1)

/-- The UTF-8 encodings of the characters that Unicode calls white space. -/
def ByteString.spaces : List ByteString :=
  [[9], [10], [11], [12], [13], [32], [0xC2, 0x85], [0xC2, 0xA0], [0xE1, 0x9A, 0x80],
    [0xE2, 0x80, 0x80], [0xE2, 0x80, 0x81], [0xE2, 0x80, 0x82], [0xE2, 0x80, 0x83],
    [0xE2, 0x80, 0x84], [0xE2, 0x80, 0x85], [0xE2, 0x80, 0x86], [0xE2, 0x80, 0x87],
    [0xE2, 0x80, 0x88], [0xE2, 0x80, 0x89], [0xE2, 0x80, 0x8A], [0xE2, 0x80, 0xA8],
    [0xE2, 0x80, 0xA9], [0xE2, 0x80, 0xAF], [0xE2, 0x81, 0x9F], [0xE3, 0x80, 0x80]]

/-- No white space begins or ends the text. -/
def ByteString.Trimmed (text : ByteString) : Prop :=
  ∀ space ∈ ByteString.spaces, ¬ space <+: text ∧ ¬ space <:+ text

instance (text : ByteString) : Decidable text.Trimmed :=
  inferInstanceAs (Decidable (∀ space ∈ ByteString.spaces, ¬ space <+: text ∧ ¬ space <:+ text))

/-- The number a sequence of decimal digits stands for. -/
def ByteString.decimal (text : ByteString) : Nat :=
  text.foldl (fun n c => 10 * n + (c.toNat - 48)) 0

namespace ByteString

/-- The shortest decimal of a number. -/
def ofDecimal (n : Nat) : ByteString := (Nat.toDigits 10 n).map fun c => UInt8.ofNat c.toNat

theorem ofDecimal_of_lt {n : Nat} (h : n < 10) : ofDecimal n = [UInt8.ofNat (48 + n)] := by
  revert n
  decide

theorem ofDecimal_of_le {n : Nat} (h : 10 ≤ n) :
    ofDecimal n = ofDecimal (n / 10) ++ [UInt8.ofNat (48 + n % 10)] := by
  rw [ofDecimal, Nat.toDigits_of_base_le (by omega) h, List.map_append, ← ofDecimal]
  have hdigit := ofDecimal_of_lt (Nat.mod_lt n (show 0 < 10 by omega))
  rw [ofDecimal, Nat.toDigits_of_lt_base (Nat.mod_lt n (by omega))] at hdigit
  rw [← hdigit]

theorem decimal_append_singleton (text : ByteString) (c : UInt8) :
    (text ++ [c]).decimal = 10 * text.decimal + (c.toNat - 48) := by
  simp [decimal, List.foldl_append]

theorem toNat_digit {d : Nat} (h : d < 10) : (UInt8.ofNat (48 + d)).toNat = 48 + d := by
  rw [UInt8.toNat_ofNat']
  omega

/-- **A number is read back from its decimal.** -/
theorem decimal_ofDecimal (n : Nat) : (ofDecimal n).decimal = n := by
  induction n using Nat.strongRecOn with
  | ind n ih =>
    by_cases hn : n < 10
    · rw [ofDecimal_of_lt hn]
      simp only [decimal, List.foldl_cons, List.foldl_nil, toNat_digit hn]
      omega
    · have hmod : n % 10 < 10 := Nat.mod_lt n (by omega)
      rw [ofDecimal_of_le (by omega), decimal_append_singleton, ih (n / 10) (by omega),
        toNat_digit hmod]
      omega

/-- Digits only, and no zero before others. -/
structure Shortest (text : ByteString) : Prop where
  ne_nil : text ≠ []
  digits : ∀ c ∈ text, 48 ≤ c.toNat ∧ c.toNat ≤ 57
  leading : 1 < text.length → text.head? ≠ some 48

theorem shortest_ofDecimal (n : Nat) : (ofDecimal n).Shortest := by
  induction n using Nat.strongRecOn with
  | ind n ih =>
    by_cases hn : n < 10
    · rw [ofDecimal_of_lt hn]
      refine ⟨List.cons_ne_nil _ _, ?_, fun h => absurd h (by simp)⟩
      rintro c hc
      rw [List.mem_singleton.mp hc, toNat_digit hn]
      omega
    · have hmod : n % 10 < 10 := Nat.mod_lt n (by omega)
      obtain ⟨hne, hdigits, hleading⟩ := ih (n / 10) (by omega)
      rw [ofDecimal_of_le (by omega)]
      refine ⟨by simp, ?_, fun _ => ?_⟩
      · intro c hc
        rcases List.mem_append.mp hc with hc | hc
        · exact hdigits c hc
        · rw [List.mem_singleton.mp hc, toNat_digit hmod]
          omega
      · rw [List.head?_append_of_ne_nil _ hne]
        by_cases hsmall : n / 10 < 10
        · rw [ofDecimal_of_lt hsmall, List.head?_cons, ne_eq, Option.some.injEq]
          intro hzero
          have hbyte := congrArg UInt8.toNat hzero
          rw [toNat_digit hsmall] at hbyte
          have : (48 : UInt8).toNat = 48 := rfl
          omega
        · refine hleading ?_
          have hlength := List.length_pos_of_ne_nil (ih (n / 10 / 10) (by omega)).ne_nil
          rw [ofDecimal_of_le (by omega), List.length_append, List.length_singleton]
          omega

/-- **A shortest text is the decimal of its number.** -/
theorem Shortest.ofDecimal_decimal (h : Shortest text) :
    ofDecimal (decimal text) = text := by
  -- from the last digit to the first: what is before it is shortest, too
  induction text using List.reverseRecOn with
  | nil => exact absurd rfl h.ne_nil
  | append_singleton text c ih =>
    obtain ⟨-, hdigits, hleading⟩ := h
    obtain ⟨hlow, hhigh⟩ := hdigits c (by simp)
    have hc : UInt8.ofNat (48 + (c.toNat - 48)) = c := by
      rw [show 48 + (c.toNat - 48) = c.toNat by omega, UInt8.ofNat_toNat]
    rw [decimal_append_singleton]
    by_cases hnil : text = []
    · rw [hnil, show decimal [] = 0 from rfl, Nat.mul_zero, Nat.zero_add,
        ofDecimal_of_lt (by omega), hc, List.nil_append]
    · have htext : ofDecimal (decimal text) = text := by
        refine ih ⟨hnil, fun d hd => hdigits d (List.mem_append_left _ hd), fun hlong => ?_⟩
        have hhead := hleading (by rw [List.length_append]; omega)
        rwa [List.head?_append_of_ne_nil _ hnil] at hhead
      have hpos : 0 < decimal text := by
        by_contra hzero
        rw [show decimal text = 0 by omega] at htext
        refine hleading ?_ ?_
        · rw [← htext]
          exact Nat.lt_succ_self 1
        · rw [← htext]
          rfl
      rw [ofDecimal_of_le (by omega),
        show (10 * decimal text + (c.toNat - 48)) / 10 = decimal text by omega,
        show (10 * decimal text + (c.toNat - 48)) % 10 = c.toNat - 48 by omega, hc, htext]

theorem isPrefix_of_index? {n : Nat} (h : index? text l = some n) :
    text <+: l.drop n := by
  induction l generalizing n with
  | nil =>
    unfold index? at h
    split at h
    · rename_i hnil
      rw [hnil]
      exact List.nil_prefix
    · cases h
  | cons c rest ih =>
    unfold index? at h
    split at h
    · cases h
      assumption
    · obtain ⟨m, hm, rfl⟩ := Option.map_eq_some_iff.mp h
      exact ih hm

/-- A text whose first byte does not occur is nowhere. -/
theorem index?_eq_none (h : c ∉ l) :
    index? (c :: text) l = none := by
  induction l with
  | nil => rfl
  | cons d rest ih =>
    rw [List.mem_cons, not_or] at h
    rw [index?, if_neg, ih h.2]
    · rfl
    · exact fun hp => h.1 (List.cons_prefix_cons.mp hp).1

/-- A text is found where it stands, if its first byte does not occur before. -/
theorem index?_append {rest : ByteString} (h : c ∉ l) :
    index? (c :: text) (l ++ (c :: text ++ rest)) = some l.length := by
  induction l with
  | nil =>
    rw [List.nil_append, List.cons_append, index?, if_pos]
    · rfl
    · exact ⟨rest, rfl⟩
  | cons d l ih =>
    rw [List.mem_cons, not_or] at h
    rw [List.cons_append, index?, if_neg, ih h.2]
    · rfl
    · exact fun hp => h.1 (List.cons_prefix_cons.mp hp).1

end ByteString

/-! ## UTF-8 -/

/-- A continuation byte. -/
def utf8Continuation (c : UInt8) : Bool := decide (0x80 ≤ c.toNat ∧ c.toNat ≤ 0xBF)

/-- Whether a byte string is valid UTF-8: shortest forms only, no surrogates,
nothing beyond U+10FFFF. -/
def utf8Valid : ByteString → Bool
  | [] => true
  | a :: l =>
    if a.toNat < 0x80 then utf8Valid l
    else if 0xC2 ≤ a.toNat ∧ a.toNat ≤ 0xDF then
      match l with
      | b :: l => utf8Continuation b && utf8Valid l
      | _ => false
    else if 0xE0 ≤ a.toNat ∧ a.toNat ≤ 0xEF then
      match l with
      | b :: c :: l =>
        utf8Continuation b && utf8Continuation c &&
          decide (a.toNat = 0xE0 → 0xA0 ≤ b.toNat) && decide (a.toNat = 0xED → b.toNat ≤ 0x9F) &&
          utf8Valid l
      | _ => false
    else if 0xF0 ≤ a.toNat ∧ a.toNat ≤ 0xF4 then
      match l with
      | b :: c :: d :: l =>
        utf8Continuation b && utf8Continuation c && utf8Continuation d &&
          decide (a.toNat = 0xF0 → 0x90 ≤ b.toNat) && decide (a.toNat = 0xF4 → b.toNat ≤ 0x8F) &&
          utf8Valid l
      | _ => false
    else false
