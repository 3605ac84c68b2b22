import OncallGateway.GoError
import OncallGateway.Lib.Bytes

/-! # Identifiers, tokens and verifiers

The value types of the `securitystate` package.  Audiences, destinations and token
records are identified by sixteen bytes, of which the zero value stands for an
absent identifier; their text is the lowercase hyphenated form of a UUID.  A key
identifier carries the proof of what its constructor checked, so that one that is
neither absent nor valid cannot be built.

`parseUUID_formatUUID` is the round trip the store relies on: every identifier
but the zero one is read back from its text.
-/

namespace OncallGateway

/-- Sixteen bytes. -/
abbrev UUID := Bytes 16

abbrev GatewayAudienceID := UUID
abbrev DestinationID := UUID
abbrev DestinationTokenRecordID := UUID

/-- `formatUUID`: the lowercase hyphenated text. -/
def formatUUID (value : UUID) : ByteString :=
  hexEncode (value.toList.take 4) ++ 45 :: (hexEncode ((value.toList.drop 4).take 2) ++
    45 :: (hexEncode ((value.toList.drop 6).take 2) ++
      45 :: (hexEncode ((value.toList.drop 8).take 2) ++ 45 :: hexEncode (value.toList.drop 10))))

/-- `strings.ToLower` on ASCII letters.  Other bytes are kept; a text that has one
is refused by the hexadecimal decoder whatever `ToLower` makes of it. -/
def lowerByte (c : UInt8) : UInt8 :=
  if 65 ≤ c.toNat ∧ c.toNat ≤ 90 then UInt8.ofNat (c.toNat + 32) else c

/-- `parseUUID` of the `securitystate` package. -/
def parseUUID (value : ByteString) (requireV4 : Bool) : Except Sentinel UUID :=
  if value.length ≠ 36 ∨ value ≠ value.map lowerByte ∨ value[8]? ≠ some 45 ∨
      value[13]? ≠ some 45 ∨ value[18]? ≠ some 45 ∨ value[23]? ≠ some 45 then
    .error .errInvalidState
  else
    let compact := value.take 8 ++ ((value.drop 9).take 4 ++ ((value.drop 14).take 4 ++
      ((value.drop 19).take 4 ++ value.drop 24)))
    match hexDecode compact with
    | none => .error .errInvalidState
    | some decoded =>
      match Bytes.ofList? 16 decoded with
      | none => .error .errInvalidState
      | some result =>
        if result.IsZero ∨ (requireV4 = true ∧
            ((result.toList[6]?.map fun b => b.toNat / 16) ≠ some 4 ∨
              (result.toList[8]?.map fun b => b.toNat / 64) ≠ some 2)) then
          .error .errInvalidState
        else
          .ok result

/-- `ParseGatewayAudienceID`, `ParseDestinationID` and
`ParseDestinationTokenRecordID` do not ask for version 4. -/
def parseGatewayAudienceID (value : ByteString) : Except Sentinel GatewayAudienceID :=
  parseUUID value false

@[inherit_doc parseGatewayAudienceID]
def parseDestinationID (value : ByteString) : Except Sentinel DestinationID :=
  parseUUID value false

@[inherit_doc parseGatewayAudienceID]
def parseDestinationTokenRecordID (value : ByteString) :
    Except Sentinel DestinationTokenRecordID :=
  parseUUID value false

/-! ## Reading a formatted identifier -/

theorem lowerByte_hexDigit : ∀ v, v < 16 → lowerByte (hexDigit v) = hexDigit v := by
  decide

theorem map_lowerByte_hexEncode (l : ByteString) :
    (hexEncode l).map lowerByte = hexEncode l := by
  induction l with
  | nil => rfl
  | cons b l ih =>
    have hb : b.toNat < 256 := b.toNat_lt
    simp [hexEncode, ih, lowerByte_hexDigit _ (show b.toNat / 16 < 16 by omega),
      lowerByte_hexDigit _ (show b.toNat % 16 < 16 by omega)]

/-- Cutting a list at the five boundaries of a UUID and joining it again. -/
theorem split_uuid (l : ByteString) :
    l.take 4 ++ ((l.drop 4).take 2 ++ ((l.drop 6).take 2 ++ ((l.drop 8).take 2 ++ l.drop 10)))
      = l := by
  have cut (m n : Nat) : (l.drop m).take n ++ l.drop (m + n) = l.drop m := by
    rw [← List.drop_drop, List.take_append_drop]
  rw [cut 8 2, cut 6 2, cut 4 2, List.take_append_drop]

/-- The digits of a text of the length of a UUID: all but the four hyphens. -/
def uuidDigits (value : ByteString) : ByteString :=
  value.take 8 ++ ((value.drop 9).take 4 ++ ((value.drop 14).take 4 ++
    ((value.drop 19).take 4 ++ value.drop 24)))

variable {value : ByteString}

theorem mem_of_mem_uuidDigits {c : UInt8} (h : c ∈ uuidDigits value) :
    c ∈ value := by
  simp only [uuidDigits, List.mem_append] at h
  rcases h with h | h | h | h | h
  · exact List.mem_of_mem_take h
  · exact List.mem_of_mem_drop (List.mem_of_mem_take h)
  · exact List.mem_of_mem_drop (List.mem_of_mem_take h)
  · exact List.mem_of_mem_drop (List.mem_of_mem_take h)
  · exact List.mem_of_mem_drop h

/-- The length of a UUID, and its hyphens. -/
structure UUIDShape (value : ByteString) : Prop where
  length : value.length = 36
  h8 : value[8]? = some 45
  h13 : value[13]? = some 45
  h18 : value[18]? = some 45
  h23 : value[23]? = some 45

theorem formatUUID_shape (value : UUID) :
    UUIDShape (formatUUID value) ∧ uuidDigits (formatUUID value) = hexEncode value.toList := by
  have hlen := value.length_eq
  -- the five groups of digits, by their lengths
  obtain ⟨a, ha⟩ : ∃ a, a = hexEncode (value.toList.take 4) := ⟨_, rfl⟩
  obtain ⟨b, hb⟩ : ∃ b, b = hexEncode ((value.toList.drop 4).take 2) := ⟨_, rfl⟩
  obtain ⟨c, hc⟩ : ∃ c, c = hexEncode ((value.toList.drop 6).take 2) := ⟨_, rfl⟩
  obtain ⟨d, hd⟩ : ∃ d, d = hexEncode ((value.toList.drop 8).take 2) := ⟨_, rfl⟩
  obtain ⟨e, he⟩ : ∃ e, e = hexEncode (value.toList.drop 10) := ⟨_, rfl⟩
  have la : a.length = 8 := by simp [ha, hlen]
  have lb : b.length = 4 := by simp [hb, hlen]
  have lc : c.length = 4 := by simp [hc, hlen]
  have ld : d.length = 4 := by simp [hd, hlen]
  have le : e.length = 12 := by simp [he, hlen]
  have hjoin : a ++ (b ++ (c ++ (d ++ e))) = hexEncode value.toList := by
    rw [ha, hb, hc, hd, he, ← hexEncode_append, ← hexEncode_append, ← hexEncode_append,
      ← hexEncode_append, split_uuid]
  have hfmt : formatUUID value = a ++ 45 :: (b ++ 45 :: (c ++ 45 :: (d ++ 45 :: e))) := by
    rw [formatUUID, ha, hb, hc, hd, he]
  -- what is left after each hyphen
  have d9 : (formatUUID value).drop 9 = b ++ 45 :: (c ++ 45 :: (d ++ 45 :: e)) := by
    simp [hfmt, List.drop_append, la]
  have d14 : (formatUUID value).drop 14 = c ++ 45 :: (d ++ 45 :: e) := by
    rw [show 14 = 9 + 5 from rfl, ← List.drop_drop, d9]
    simp [List.drop_append, lb]
  have d19 : (formatUUID value).drop 19 = d ++ 45 :: e := by
    rw [show 19 = 14 + 5 from rfl, ← List.drop_drop, d14]
    simp [List.drop_append, lc]
  have d24 : (formatUUID value).drop 24 = e := by
    rw [show 24 = 19 + 5 from rfl, ← List.drop_drop, d19]
    simp [List.drop_append, ld]
  refine ⟨⟨?_, ?_, ?_, ?_, ?_⟩, ?_⟩
  · simp [hfmt, la, lb, lc, ld, le]
  · simp [hfmt, la]
  · simp [hfmt, List.getElem?_append, la, lb]
  · simp [hfmt, List.getElem?_append, la, lb, lc]
  · simp [hfmt, List.getElem?_append, la, lb, lc, ld]
  · rw [uuidDigits, d9, d14, d19, d24, hfmt, List.take_left' la, List.take_left' lb,
      List.take_left' lc, List.take_left' ld, hjoin]

theorem drop_of_getElem? {l : ByteString} {i : Nat} {c : UInt8} (h : l[i]? = some c) :
    l.drop i = c :: l.drop (i + 1) := by
  obtain ⟨hi, hc⟩ := List.getElem?_eq_some_iff.mp h
  rw [List.drop_eq_getElem_cons hi, hc]

/-- A text of that shape is the text of the identifier with its digits. -/
theorem UUIDShape.eq_formatUUID (h : UUIDShape value) {id : UUID}
    (hid : uuidDigits value = hexEncode id.toList) : value = formatUUID id := by
  obtain ⟨hlength, h8, h13, h18, h23⟩ := h
  have cut (m n : Nat) : (value.drop m).take n ++ value.drop (m + n) = value.drop m := by
    rw [← List.drop_drop, List.take_append_drop]
  have hvalue : value = value.take 8 ++ 45 :: ((value.drop 9).take 4 ++
      45 :: ((value.drop 14).take 4 ++ 45 :: ((value.drop 19).take 4 ++ 45 :: value.drop 24))) := by
    rw [← drop_of_getElem? h23, cut 19 4, ← drop_of_getElem? h18, cut 14 4,
      ← drop_of_getElem? h13, cut 9 4, ← drop_of_getElem? h8, List.take_append_drop]
  have la : (value.take 8).length = 8 := by simp [hlength]
  have lb : ((value.drop 9).take 4).length = 4 := by simp [hlength]
  have lc : ((value.drop 14).take 4).length = 4 := by simp [hlength]
  have ld : ((value.drop 19).take 4).length = 4 := by simp [hlength]
  -- the groups of digits of the identifier, by the same cuts
  have ea : hexEncode (id.toList.take 4) = value.take 8 := by
    rw [hexEncode_take, ← hid, uuidDigits, List.take_left' la]
  have e8 : hexEncode (id.toList.drop 4) = (value.drop 9).take 4 ++ ((value.drop 14).take 4 ++
      ((value.drop 19).take 4 ++ value.drop 24)) := by
    rw [hexEncode_drop, ← hid, uuidDigits, List.drop_left' la]
  have eb : hexEncode ((id.toList.drop 4).take 2) = (value.drop 9).take 4 := by
    rw [hexEncode_take, e8, List.take_left' lb]
  have e12 : hexEncode (id.toList.drop 6) = (value.drop 14).take 4 ++
      ((value.drop 19).take 4 ++ value.drop 24) := by
    rw [show 6 = 4 + 2 from rfl, ← List.drop_drop, hexEncode_drop, e8, List.drop_left' lb]
  have ec : hexEncode ((id.toList.drop 6).take 2) = (value.drop 14).take 4 := by
    rw [hexEncode_take, e12, List.take_left' lc]
  have e16 : hexEncode (id.toList.drop 8) = (value.drop 19).take 4 ++ value.drop 24 := by
    rw [show 8 = 6 + 2 from rfl, ← List.drop_drop, hexEncode_drop, e12, List.drop_left' lc]
  have ed : hexEncode ((id.toList.drop 8).take 2) = (value.drop 19).take 4 := by
    rw [hexEncode_take, e16, List.take_left' ld]
  have ee : hexEncode (id.toList.drop 10) = value.drop 24 := by
    rw [show 10 = 8 + 2 from rfl, ← List.drop_drop, hexEncode_drop, e16, List.drop_left' ld]
  rw [formatUUID, ea, eb, ec, ed, ee, ← hvalue]

/-- Version 4 of RFC 4122, by its version and variant bits. -/
def UUID.IsV4 (value : UUID) : Prop :=
  (value.toList[6]?.map fun b => b.toNat / 16) = some 4 ∧
    (value.toList[8]?.map fun b => b.toNat / 64) = some 2

theorem UUID.IsV4.not_isZero {value : UUID} (h : value.IsV4) : ¬ value.IsZero := by
  rintro rfl
  exact absurd h.1 (by decide)

/-- An identifier is read back from its text, if it is one that may be read. -/
theorem parseUUID_formatUUID_eq_ok {value : UUID} {requireV4 : Bool} (hzero : ¬ value.IsZero)
    (hv4 : requireV4 = true → value.IsV4) : parseUUID (formatUUID value) requireV4 = .ok value := by
  obtain ⟨⟨hlength, h8, h13, h18, h23⟩, hdigits⟩ := formatUUID_shape value
  have hlow : (formatUUID value).map lowerByte = formatUUID value := by
    simp [formatUUID, map_lowerByte_hexEncode, lowerByte]
  have hdecode := hexDecode_hexEncode value.toList
  rw [← hdigits, uuidDigits] at hdecode
  simp only [parseUUID, hlength, hlow, h8, h13, h18, h23, hdecode, ne_eq,
    not_true_eq_false, or_self, if_false, Bytes.ofList?_toList]
  rw [if_neg]
  rintro (h | ⟨hrequire, h⟩)
  · exact hzero h
  · exact h.elim (fun h => h (hv4 hrequire).1) fun h => h (hv4 hrequire).2

/-- A text without upper case digits is all lower case, for the parser. -/
theorem not_upperHexDigit_of_map_lowerByte (h : value = value.map lowerByte) :
    ∀ c ∈ value, ¬ upperHexDigit c := by
  intro c hc hupper
  have hlow : lowerByte c = c := by
    have hall := List.map_inj_left.mp ((List.map_id value).trans h)
    exact (hall c hc).symm
  unfold upperHexDigit at hupper
  rw [lowerByte, if_pos (by omega)] at hlow
  have hbyte := congrArg UInt8.toNat hlow
  rw [UInt8.toNat_ofNat'] at hbyte
  omega

/-- **An identifier is read from its own text and from no other.** -/
theorem parseUUID_eq_ok {requireV4 : Bool} {id : UUID} :
    parseUUID value requireV4 = .ok id ↔
      ¬ id.IsZero ∧ (requireV4 = true → id.IsV4) ∧ value = formatUUID id := by
  constructor
  · intro h
    unfold parseUUID at h
    split at h
    · cases h
    · rename_i hshape
      simp only [not_or, not_not] at hshape
      obtain ⟨hlength, hlow, h8, h13, h18, h23⟩ := hshape
      dsimp only at h
      split at h
      · cases h
      · rename_i decoded hdecode
        split at h
        · cases h
        · rename_i result hresult
          split at h
          · cases h
          · rename_i haccepted
            cases h
            simp only [not_or, not_and, not_not] at haccepted
            refine ⟨haccepted.1, haccepted.2, ?_⟩
            refine UUIDShape.eq_formatUUID ⟨hlength, h8, h13, h18, h23⟩ ?_
            rw [Bytes.toList_of_ofList? hresult]
            refine (hexEncode_of_hexDecode hdecode fun c hc => ?_).symm
            refine not_upperHexDigit_of_map_lowerByte hlow c ?_
            exact mem_of_mem_uuidDigits hc
  · rintro ⟨hzero, hv4, rfl⟩
    exact parseUUID_formatUUID_eq_ok hzero hv4

/-- **An identifier is read back from its text**, unless it is the zero one. -/
theorem parseUUID_formatUUID (value : UUID) :
    parseUUID (formatUUID value) false =
      if value.IsZero then .error .errInvalidState else .ok value := by
  split
  · rename_i hzero
    rw [hzero]
    rfl
  · rename_i hzero
    exact parseUUID_formatUUID_eq_ok hzero (fun h => nomatch h)

/-! ## Tokens, verifiers and their keys -/

/-- `OpaqueDestinationToken`. -/
abbrev OpaqueDestinationToken := Bytes 32

/-- `opaqueTokenPrefix`. -/
def opaqueTokenPrefix : ByteString := .ascii "mso1_"

/-- `ParseOpaqueDestinationToken`. -/
def parseOpaqueDestinationToken (value : ByteString) : Except Sentinel OpaqueDestinationToken :=
  if value.length ≠ opaqueTokenPrefix.length + 43 ∨
      value.take opaqueTokenPrefix.length ≠ opaqueTokenPrefix then
    .error .errInvalidState
  else
    let body := value.drop opaqueTokenPrefix.length
    match base64Decode body with
    | none => .error .errInvalidState
    | some decoded =>
      match Bytes.ofList? 32 decoded with
      | none => .error .errInvalidState
      | some token =>
        if base64Encode decoded ≠ body then .error .errInvalidState else .ok token

/-- `TokenVerifier`; the zero value has `present = false`. -/
structure TokenVerifier where
  bytes : Bytes 32
  present : Bool
deriving DecidableEq

/-- `NewTokenVerifier`. -/
def newTokenVerifier (value : ByteString) : Except Sentinel TokenVerifier :=
  match Bytes.ofList? 32 value with
  | none => .error .errInvalidState
  | some bytes => .ok ⟨bytes, true⟩

/-- `validKeyID`. -/
def validKeyID (value : ByteString) : Bool :=
  decide (value ≠ []) && utf8Valid value && decide (value.length ≤ 128)

/-- `DestinationVerifierKeyID`.  The field is not exported, so a value is either the
zero value or one that the constructor accepted. -/
@[ext] structure DestinationVerifierKeyID where
  value : ByteString
  valid : value = [] ∨ validKeyID value = true
deriving DecidableEq

/-- `NewDestinationVerifierKeyID`. -/
def newDestinationVerifierKeyID (value : ByteString) : Except Sentinel DestinationVerifierKeyID :=
  if h : validKeyID value = true then .ok ⟨value, Or.inr h⟩ else .error .errInvalidState

/-- `DestinationVerifierKeyID.IsZero`. -/
def DestinationVerifierKeyID.IsZero (keyID : DestinationVerifierKeyID) : Prop := keyID.value = []

instance (keyID : DestinationVerifierKeyID) : Decidable keyID.IsZero :=
  inferInstanceAs (Decidable (keyID.value = []))

end OncallGateway
