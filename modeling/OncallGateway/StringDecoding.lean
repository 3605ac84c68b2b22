import OncallGateway.Lib.Fallible
import OncallGateway.Lib.JsonReader
import OncallGateway.Lib.JsonText
import OncallGateway.Lib.Utf8

/-! # Decoding a JSON string

`decodeJSONString` decodes one string of an event.  The library replaces half of a
surrogate pair by U+FFFD without saying so, so the source first looks for such halves
itself: `validSurrogateEscapes` walks over the bytes of the literal with an index that
jumps over escapes.

The walk is modelled with its index.  A read outside the slice is `none`, as is a walk
longer than the slice, and neither happens (`validSurrogateEscapes_total`).  On a literal
the walk stops where the parts of its text do, and so decides whether its codes are paired
(`validSurrogateEscapes_literal`).
-/

namespace OncallGateway

/-- The errors of `decodeEvent`. -/
inductive EventError where
  | errInvalidEvent | errUnsupportedEvent
deriving DecidableEq

/-- `data[low:high]`, where it is in range. -/
def slice? (data : ByteString) (low high : Nat) : Option ByteString :=
  if low ≤ high ∧ high ≤ data.length then some ((data.take high).drop low) else none

/-- `strconv.ParseUint` of four bytes, in base 16. -/
def parseUint16 (text : ByteString) : Option Nat :=
  text.foldlM (fun n c => (hexValue c).map (16 * n + ·)) 0

/-- What one round of the walk does: it returns false, or it leaves the index at `i`. -/
inductive ScanStep where
  | invalid
  | next (i : Nat)
deriving DecidableEq

/-- The first half of a pair was read, up to the index `i`. -/
def scanLow (data : ByteString) (i : Nat) : Option ScanStep :=
  if data.length ≤ i + 6 then some .invalid
  else do
    if (← data[i + 1]?) ≠ 0x5c then return .invalid
    if (← data[i + 2]?) ≠ 0x75 then return .invalid
    match parseUint16 (← slice? data (i + 3) (i + 7)) with
    | none => return .invalid
    | some low => if low < 0xdc00 ∨ 0xdfff < low then return .invalid else return .next (i + 6)

/-- The body of the loop of `validSurrogateEscapes`. -/
def scanStep (data : ByteString) (i : Nat) : Option ScanStep := do
  if (← data[i]?) ≠ 0x5c then return .next i
  let i := i + 1
  if data.length - 1 ≤ i then return .next i
  if (← data[i]?) ≠ 0x75 then return .next i
  if data.length ≤ i + 4 then return .invalid
  match parseUint16 (← slice? data (i + 1) (i + 5)) with
  | none => return .invalid
  | some value =>
    let i := i + 4
    if 0xd800 ≤ value ∧ value ≤ 0xdbff then scanLow data i
    else if 0xdc00 ≤ value ∧ value ≤ 0xdfff then return .invalid
    else return .next i

/-- The loop of `validSurrogateEscapes`, for so many rounds at most. -/
def scanLoop (data : ByteString) : Nat → Nat → Option Bool
  | 0, _ => none
  | rounds + 1, i =>
    if i < data.length - 1 then
      match scanStep data i with
      | none => none
      | some .invalid => some false
      | some (.next i) => scanLoop data rounds (i + 1)
    else some true

/-- `validSurrogateEscapes`; `none` is an index out of range, or no end. -/
def validSurrogateEscapes (data : ByteString) : Option Bool := scanLoop data (data.length + 1) 1

/-- `json.Unmarshal` of a valid text into a string. -/
def unmarshalString (data : ByteString) : Option ByteString :=
  match (utf8Decode? data).bind Json.read with
  | some (.string raw) => some (utf8Encode (Json.unquote raw))
  | _ => none

/-- `decodeJSONString`. -/
def decodeJSONString (trimmed : ByteString) : Except EventError ByteString :=
  if trimmed[0]? ≠ some 0x22 then .error .errInvalidEvent
  else if validSurrogateEscapes trimmed ≠ some true then .error .errInvalidEvent
  else
    match unmarshalString trimmed with
    | none => .error .errInvalidEvent
    | some value => .ok value

/-! ## The walk ends, within the slice -/

theorem exists_getElem? {data : ByteString} {i : Nat} (h : i < data.length) :
    ∃ c, data[i]? = some c := ⟨data[i], List.getElem?_eq_getElem h⟩

theorem exists_slice? {data : ByteString} {low high : Nat} (h : low ≤ high)
    (h' : high ≤ data.length) : ∃ text, slice? data low high = some text := ⟨_, if_pos ⟨h, h'⟩⟩

theorem scanLow_total (data : ByteString) (i : Nat) :
    ∃ step, scanLow data i = some step ∧ ∀ i', step = .next i' → i ≤ i' := by
  unfold scanLow
  split
  · exact ⟨_, rfl, nofun⟩
  · obtain ⟨c, hc⟩ := @exists_getElem? data (i + 1) (by omega)
    obtain ⟨d, hd⟩ := @exists_getElem? data (i + 2) (by omega)
    obtain ⟨text, htext⟩ := @exists_slice? data (i + 3) (i + 7) (by omega) (by omega)
    simp only [hc, hd, htext, Option.bind_eq_bind, Option.bind_some]
    split
    · exact ⟨_, rfl, nofun⟩
    · split
      · exact ⟨_, rfl, nofun⟩
      · split
        · exact ⟨_, rfl, nofun⟩
        · split
          · exact ⟨_, rfl, nofun⟩
          · exact ⟨_, rfl, fun i' h => by cases h; omega⟩

variable {after data : ByteString} {i n : Nat} {a b c d : Char} {us : List Json.CodeUnit}
  {raw : List Char}

theorem scanStep_total (hi : i < data.length - 1) :
    ∃ step, scanStep data i = some step ∧ ∀ i', step = .next i' → i ≤ i' := by
  have hnext : ∀ k, i ≤ k → ∀ i', ScanStep.next k = .next i' → i ≤ i' := by
    rintro k hk i' ⟨⟩
    exact hk
  obtain ⟨c, hc⟩ := @exists_getElem? data i (by omega)
  unfold scanStep
  simp only [hc, Option.bind_eq_bind, Option.bind_some]
  split
  · exact ⟨_, rfl, hnext i (by omega)⟩
  · split
    · exact ⟨_, rfl, hnext (i + 1) (by omega)⟩
    · obtain ⟨d, hd⟩ := @exists_getElem? data (i + 1) (by omega)
      simp only [hd, Option.bind_some]
      split
      · exact ⟨_, rfl, hnext (i + 1) (by omega)⟩
      · split
        · exact ⟨_, rfl, nofun⟩
        · obtain ⟨text, htext⟩ := @exists_slice? data (i + 1 + 1) (i + 1 + 5) (by omega) (by omega)
          simp only [htext, Option.bind_some]
          split
          · exact ⟨_, rfl, nofun⟩
          · split
            · obtain ⟨step, hstep, hle⟩ := scanLow_total data (i + 1 + 4)
              exact ⟨step, hstep, fun i' h => Nat.le_trans (by omega) (hle i' h)⟩
            · split
              · exact ⟨_, rfl, nofun⟩
              · exact ⟨_, rfl, hnext (i + 1 + 4) (by omega)⟩

theorem scanLoop_total {rounds : Nat} (hrounds : 1 ≤ rounds) (hi : data.length < rounds + i) :
    ∃ valid, scanLoop data rounds i = some valid := by
  induction rounds generalizing i with
  | zero => omega
  | succ rounds ih =>
    unfold scanLoop
    split
    · rename_i hlt
      obtain ⟨step, hstep, hnext⟩ := scanStep_total hlt
      rw [hstep]
      match step with
      | .invalid => exact ⟨false, rfl⟩
      | .next i' =>
        have hle := hnext i' rfl
        exact ih (by omega) (by omega)
    · exact ⟨true, rfl⟩

/-- **The walk over any bytes ends, and reads none outside them.** -/
theorem validSurrogateEscapes_total (data : ByteString) :
    ∃ valid, validSurrogateEscapes data = some valid := scanLoop_total (by omega) (by omega)

/-! ## The walk over a literal -/

/-- The walk from `i` on gives `valid`, whatever the rounds left. -/
def Walks (data : ByteString) (i : Nat) (valid : Bool) : Prop :=
  ∀ rounds, 1 ≤ rounds → data.length < rounds + i → scanLoop data rounds i = some valid

theorem walks_end (h : data.length ≤ i + 1) : Walks data i true := by
  intro rounds hrounds _
  match rounds with
  | rounds + 1 => exact if_neg (by omega)

theorem walks_next {i' : Nat} {valid : Bool} (hi : i + 1 < data.length)
    (hstep : scanStep data i = some (.next i')) (hle : i ≤ i') (h : Walks data (i' + 1) valid) :
    Walks data i valid := by
  intro rounds hrounds hlen
  match rounds with
  | rounds + 1 =>
    refine (if_pos (by omega)).trans ?_
    rw [hstep]
    exact h rounds (by omega) (by omega)

theorem walks_invalid (hi : i + 1 < data.length) (hstep : scanStep data i = some .invalid) :
    Walks data i false := by
  intro rounds hrounds _
  match rounds with
  | rounds + 1 =>
    refine (if_pos (by omega)).trans ?_
    rw [hstep]

section Suffix
variable {suffix : ByteString}

theorem getElem?_of_drop (h : data.drop i = suffix) (k : Nat) : data[i + k]? = suffix[k]? := by
  rw [← h, List.getElem?_drop]

theorem length_of_drop (h : data.drop i = suffix) (hne : suffix ≠ []) :
    data.length = i + suffix.length := by
  have hlen := List.length_drop (i := i) (l := data)
  have hpos := List.length_pos_iff.mpr hne
  rw [h] at hlen
  omega

theorem drop_of_drop {before : ByteString} (h : data.drop i = before ++ after) :
    data.drop (i + before.length) = after := by
  rw [← List.drop_drop, h, List.drop_left]

theorem slice?_of_drop {before text : ByteString} (h : data.drop i = before ++ (text ++ after))
    (hne : text ≠ []) :
    slice? data (i + before.length) (i + before.length + text.length) = some text := by
  have hdrop := drop_of_drop h
  have hlen := length_of_drop hdrop (by simp [hne])
  rw [List.length_append] at hlen
  unfold slice?
  rw [if_pos (by omega), List.drop_take, hdrop, Nat.add_sub_cancel_left, List.take_left]

end Suffix

theorem scanStep_plain {c : UInt8} (h : data[i]? = some c) (hc : c ≠ 0x5c) :
    scanStep data i = some (.next i) := by
  unfold scanStep
  simp only [h, Option.bind_eq_bind, Option.bind_some, if_pos hc]
  rfl

/-- Bytes that are no backslash are passed over. -/
theorem walks_plain {bytes : ByteString} {valid : Bool} (h : data.drop i = bytes ++ after)
    (hafter : after ≠ []) (hbytes : 0x5c ∉ bytes) (hrest : Walks data (i + bytes.length) valid) :
    Walks data i valid := by
  induction bytes generalizing i with
  | nil => exact hrest
  | cons c bytes ih =>
    have hlen := length_of_drop h (by simp)
    have hpos := List.length_pos_iff.mpr hafter
    rw [List.length_append, List.length_cons] at hlen
    have hc : data[i]? = some c := getElem?_of_drop h 0
    rw [List.mem_cons, not_or] at hbytes
    refine walks_next (by omega) (scanStep_plain hc (Ne.symm hbytes.1)) (Nat.le_refl i) ?_
    have hnext : data.drop (i + 1) = bytes ++ after :=
      drop_of_drop (show data.drop i = [c] ++ (bytes ++ after) from h)
    refine ih hnext hbytes.2 ?_
    rw [List.length_cons, Nat.add_comm bytes.length 1, ← Nat.add_assoc] at hrest
    exact hrest

theorem hexValue_of_char {v : Nat} (h : Json.hexValue? c = some v) :
    String.utf8EncodeChar c = [UInt8.ofNat c.toNat] ∧ hexValue (UInt8.ofNat c.toNat) = some v := by
  have hascii : c.toNat < 0x80 := by
    unfold Json.hexValue? at h
    by_contra hwide
    rw [if_neg (by omega), if_neg (by omega), if_neg (by omega)] at h
    cases h
  refine ⟨utf8EncodeChar_one hascii, ?_⟩
  unfold hexValue
  rw [toNat_byte ⟨rfl, by omega⟩]
  exact h

theorem parseUint16_of_hex4 (h : Json.hex4? a b c d = some n) :
    ∃ text : ByteString, text.length = 4 ∧ utf8Encode [a, b, c, d] = text ∧
      parseUint16 text = some n := by
  simp only [Json.hex4?, Option.bind_eq_bind, Option.bind_eq_some_iff, Option.pure_def,
    Option.some.injEq] at h
  obtain ⟨va, ha, vb, hb, vc, hc, vd, hd, rfl⟩ := h
  obtain ⟨ea, ha⟩ := hexValue_of_char ha
  obtain ⟨eb, hb⟩ := hexValue_of_char hb
  obtain ⟨ec, hc⟩ := hexValue_of_char hc
  obtain ⟨ed, hd⟩ := hexValue_of_char hd
  refine ⟨_, ?_, rfl, ?_⟩
  · simp [ea, eb, ec, ed]
  · simp [ea, eb, ec, ed, parseUint16, ha, hb, hc, hd]
    omega

/-- A code in the text, byte by byte. -/
theorem code_at (h : data.drop i = utf8Encode ['\\', 'u', a, b, c, d] ++ after)
    (hafter : after ≠ []) (hn : Json.hex4? a b c d = some n) :
    data[i]? = some 0x5c ∧ data[i + 1]? = some 0x75 ∧
      (∃ text, slice? data (i + 2) (i + 6) = some text ∧ parseUint16 text = some n) ∧
      i + 7 ≤ data.length ∧ data.drop (i + 6) = after := by
  obtain ⟨text, hlength, htext, hparse⟩ := parseUint16_of_hex4 hn
  have hdrop : data.drop i = [0x5c, 0x75] ++ (text ++ after) := by
    rw [h, ← htext]
    rfl
  have hlen := length_of_drop hdrop (by simp)
  have hpos := List.length_pos_iff.mpr hafter
  have hslice := slice?_of_drop hdrop (by rintro rfl; cases hlength)
  have hrest := drop_of_drop (drop_of_drop hdrop)
  simp only [List.length_append, List.length_cons, List.length_nil, hlength] at hlen hslice hrest
  exact ⟨getElem?_of_drop hdrop 0, getElem?_of_drop hdrop 1, ⟨text, hslice, hparse⟩, by omega,
    hrest⟩

/-- The round that reads a code. -/
theorem scanStep_code (h : data.drop i = utf8Encode ['\\', 'u', a, b, c, d] ++ after)
    (hafter : after ≠ []) (hn : Json.hex4? a b c d = some n) :
    scanStep data i = if Json.IsHigh n then scanLow data (i + 5)
      else if Json.IsLow n then some .invalid else some (.next (i + 5)) := by
  obtain ⟨hslash, hu, ⟨text, hslice, hparse⟩, hlen, -⟩ := code_at h hafter hn
  unfold scanStep
  simp only [hslash, hu, hslice, hparse, Option.bind_eq_bind, Option.bind_some, ne_eq,
    not_true_eq_false, if_false]
  rw [if_neg (by omega), if_neg (by omega)]
  rfl

/-- A code where the second half of a pair should be. -/
theorem scanLow_code (h : data.drop (i + 1) = utf8Encode ['\\', 'u', a, b, c, d] ++ after)
    (hafter : after ≠ []) (hn : Json.hex4? a b c d = some n) :
    scanLow data i = some (if Json.IsLow n then .next (i + 6) else .invalid) := by
  obtain ⟨hslash, hu, ⟨text, hslice, hparse⟩, hlen, -⟩ := code_at h hafter hn
  unfold scanLow
  rw [if_neg (by omega)]
  simp only [hslash, hu, hslice, hparse, Option.bind_eq_bind, Option.bind_some, ne_eq,
    not_true_eq_false, if_false]
  by_cases hlow : Json.IsLow n
  · rw [if_pos hlow, if_neg (by unfold Json.IsLow at hlow; omega)]
    rfl
  · rw [if_neg hlow, if_pos (by unfold Json.IsLow at hlow; omega)]
    rfl

/-- Anything else there. -/
theorem scanLow_other {first : UInt8} (h : data.drop (i + 1) = first :: after)
    (hfirst : first = 0x5c → after[0]? ≠ some 0x75) :
    scanLow data i = some .invalid := by
  have hslash : data[i + 1]? = some first := getElem?_of_drop h 0
  have hsecond : data[i + 2]? = after[0]? := getElem?_of_drop h 1
  unfold scanLow
  split
  · rfl
  · obtain ⟨d, hd⟩ := @exists_getElem? data (i + 2) (by omega)
    simp only [hslash, hd, Option.bind_eq_bind, Option.bind_some]
    by_cases hc : first = 0x5c
    · have hu : d ≠ 0x75 := by
        rintro rfl
        exact hfirst hc (hsecond.symm.trans hd)
      rw [if_neg (not_not.mpr hc), if_pos hu]
      rfl
    · rw [if_pos hc]
      rfl

theorem slash_notMem_utf8EncodeChar (h : c ≠ '\\') :
    0x5c ∉ String.utf8EncodeChar c := fun hmem => h (eq_of_mem_utf8EncodeChar (by decide) hmem)

/-- The character of an escape, other than the one of a code. -/
theorem escape_byte {e : Char} (h : Json.TextState.escape.step e = some .plain) :
    String.utf8EncodeChar e = [UInt8.ofNat e.toNat] ∧ UInt8.ofNat e.toNat ≠ 0x75 := by
  have hmem : e ∈ ['b', 'f', 'n', 'r', 't', '\\', '/', '"'] := by
    by_contra hnot
    have hu : Json.TextState.escape.step e = if e = 'u' then some (.hex 4) else none := if_neg hnot
    rw [hu] at h
    split at h <;> cases h
  simp only [List.mem_cons, List.not_mem_nil, or_false] at hmem
  rcases hmem with rfl | rfl | rfl | rfl | rfl | rfl | rfl | rfl <;> decide

theorem scanStep_escape {e : UInt8} (h : data.drop i = 0x5c :: e :: after) (hafter : after ≠ [])
    (he : e ≠ 0x75) :
    i + 3 ≤ data.length ∧ scanStep data i = some (.next (i + 1)) := by
  have hlen := length_of_drop h (by simp)
  have hpos := List.length_pos_iff.mpr hafter
  simp only [List.length_cons] at hlen
  have hslash : data[i]? = some 0x5c := getElem?_of_drop h 0
  have hescape : data[i + 1]? = some e := getElem?_of_drop h 1
  refine ⟨by omega, ?_⟩
  unfold scanStep
  simp only [hslash, hescape, Option.bind_eq_bind, Option.bind_some, ne_eq, not_true_eq_false,
    if_false]
  rw [if_neg (by omega), if_pos he]
  rfl

/-- After the first half of a pair, up to `i`, the walk goes on after the second half, if it
is there. -/
theorem scanLow_lexed {rest : List Char} (h : Json.Lexed rest us)
    (hdrop : data.drop (i + 1) = utf8Encode rest ++ [0x22]) :
    (∃ low rest' us', us = .code low :: us' ∧ Json.IsLow low ∧ Json.Lexed rest' us' ∧
      data.drop (i + 7) = utf8Encode rest' ++ [0x22] ∧ scanLow data i = some (.next (i + 6))) ∨
    (∀ high, Json.IsHigh high → Json.wellPaired (.code high :: us) = false) ∧
      scanLow data i = some .invalid := by
  cases h with
  | nil => exact .inr ⟨fun _ hhigh => Json.wellPaired_high hhigh nofun, scanLow_other hdrop nofun⟩
  | @plain c rest us hc hrest =>
    refine .inr ⟨fun _ hhigh => Json.wellPaired_high hhigh nofun, ?_⟩
    have hslash := slash_notMem_utf8EncodeChar (Json.slash_ne_of_plain hc)
    obtain ⟨first, more, hbytes⟩ := List.exists_cons_of_ne_nil (utf8EncodeChar_ne_nil c)
    rw [utf8Encode_cons, hbytes, List.append_assoc, List.cons_append] at hdrop
    refine scanLow_other hdrop fun hfirst => absurd ?_ hslash
    rw [hbytes, hfirst]
    exact List.mem_cons_self
  | @escape e rest us he hrest =>
    obtain ⟨hbyte, hne⟩ := escape_byte he
    refine .inr ⟨fun _ hhigh => Json.wellPaired_high hhigh nofun, ?_⟩
    rw [utf8Encode_cons, utf8Encode_cons, hbyte] at hdrop
    exact scanLow_other hdrop fun _ heq => hne (Option.some.inj heq)
  | @code a b c d low rest us hcode hrest =>
    have hsplit : data.drop (i + 1) =
        utf8Encode ['\\', 'u', a, b, c, d] ++ (utf8Encode rest ++ [0x22]) := by
      rw [hdrop, ← List.append_assoc, ← utf8Encode_append]
      rfl
    have hstep := scanLow_code hsplit (by simp) hcode
    obtain ⟨-, -, -, -, hrest'⟩ := code_at hsplit (by simp) hcode
    by_cases hlow : Json.IsLow low
    · rw [if_pos hlow] at hstep
      exact .inl ⟨low, rest, us, rfl, hlow, hrest, hrest', hstep⟩
    · rw [if_neg hlow] at hstep
      refine .inr ⟨fun _ hhigh => Json.wellPaired_high hhigh ?_, hstep⟩
      rintro _ _ ⟨⟩
      exact hlow

/-- **The walk over a literal decides whether its codes are paired.** -/
theorem walks_lexed {data : ByteString} {raw : List Char} {us : List Json.CodeUnit}
    (h : Json.Lexed raw us) {i : Nat} (hdrop : data.drop i = utf8Encode raw ++ [0x22]) :
    Walks data i (Json.wellPaired us) := by
  induction hn : us.length using Nat.strongRecOn generalizing raw us i with
  | ind n ih =>
    subst hn
    cases h with
    | nil =>
      have hlen := length_of_drop hdrop (by simp)
      exact walks_end (Nat.le_of_eq hlen)
    | @plain c rest us hc hrest =>
      rw [utf8Encode_cons, List.append_assoc] at hdrop
      refine walks_plain hdrop (by simp) (slash_notMem_utf8EncodeChar (Json.slash_ne_of_plain hc)) ?_
      exact ih _ (Nat.lt_succ_self _) hrest (drop_of_drop hdrop) rfl
    | @escape e rest us he hrest =>
      obtain ⟨hbyte, hne⟩ := escape_byte he
      rw [utf8Encode_cons, utf8Encode_cons, hbyte] at hdrop
      obtain ⟨hlen, hstep⟩ := scanStep_escape hdrop (by simp) hne
      refine walks_next (by omega) hstep (by omega) ?_
      have hnext : data.drop (i + 1 + 1) = utf8Encode rest ++ [0x22] :=
        drop_of_drop (show data.drop i = [0x5c, _] ++ (utf8Encode rest ++ [0x22]) from hdrop)
      exact ih _ (Nat.lt_succ_self _) hrest hnext rfl
    | @code a b c d n rest us hcode hrest =>
      have hsplit : data.drop i =
          utf8Encode ['\\', 'u', a, b, c, d] ++ (utf8Encode rest ++ [0x22]) := by
        rw [hdrop, ← List.append_assoc, ← utf8Encode_append]
        rfl
      have hstep := scanStep_code hsplit (by simp) hcode
      obtain ⟨-, -, -, hlen, hrest'⟩ := code_at hsplit (by simp) hcode
      by_cases hhigh : Json.IsHigh n
      · rw [if_pos hhigh] at hstep
        obtain ⟨low, rest', us', rfl, hlow, hlexed, hdrop', hnext⟩ | ⟨hpaired, hinvalid⟩ :=
          scanLow_lexed hrest hrest'
        · rw [Json.wellPaired_pair hhigh hlow]
          refine walks_next (by omega) (hstep.trans hnext) (by omega) ?_
          exact ih _ (by simp only [List.length_cons]; omega) hlexed hdrop' rfl
        · rw [hpaired n hhigh]
          exact walks_invalid (by omega) (hstep.trans hinvalid)
      · rw [if_neg hhigh] at hstep
        by_cases hlow : Json.IsLow n
        · rw [if_pos hlow] at hstep
          rw [Json.wellPaired_low hlow]
          exact walks_invalid (by omega) hstep
        · rw [if_neg hlow] at hstep
          rw [Json.wellPaired_code hhigh hlow]
          refine walks_next (by omega) hstep (by omega) ?_
          exact ih _ (Nat.lt_succ_self _) hrest hrest' rfl

/-! ## Decoding a literal -/

theorem validSurrogateEscapes_literal (h : Json.Lexed raw us) :
    validSurrogateEscapes (utf8Encode (Json.quoted raw)) = some (Json.wellPaired us) := by
  refine walks_lexed h ?_ _ (by omega) (by omega)
  rw [Json.quoted, List.cons_append, utf8Encode_cons, utf8Encode_append]
  rfl

theorem unmarshalString_literal (h : Json.Quotable raw) :
    unmarshalString (utf8Encode (Json.quoted raw)) = some (utf8Encode (Json.unquote raw)) := by
  have hread : Json.read (Json.quoted raw) = some (.string raw) :=
    Json.read_iff.mpr ⟨[], Json.quoted raw, [], Json.blank_nil, Json.blank_nil, by simp, .string h⟩
  unfold unmarshalString
  rw [utf8Decode?_utf8Encode, Option.bind_some, hread]

theorem decodeJSONString_eq_ok {value : ByteString} (hraw : Json.Quotable raw)
    (hus : Json.Lexed raw us) :
    decodeJSONString (utf8Encode (Json.quoted raw)) = .ok value ↔
      ∃ text, Json.Denotes us text ∧ utf8Encode text = value := by
  have hquote : (utf8Encode (Json.quoted raw))[0]? = some 0x22 := rfl
  unfold decodeJSONString
  rw [if_neg (not_not.mpr hquote), validSurrogateEscapes_literal hus, unmarshalString_literal hraw]
  constructor
  · intro h
    split at h
    · cases h
    · rename_i hpaired
      obtain ⟨text, htext⟩ := Json.wellPaired_iff_denotes.mp (by simpa using hpaired)
      rw [Json.unquote_of_denotes hus htext] at h
      exact ⟨text, htext, Except.ok.inj h⟩
  · rintro ⟨text, htext, rfl⟩
    rw [Json.wellPaired_iff_denotes.mpr ⟨text, htext⟩, Json.unquote_of_denotes hus htext]
    rfl

/-- **A string is decoded to what it denotes or refused**, and the walk over any bytes ends
without reading outside them. -/
theorem string_decoding_lossless :
    (∀ raw, Json.Quotable raw → (∃ us, Json.Lexed raw us) ∧ ∀ us, Json.Lexed raw us →
      ((∃ value, decodeJSONString (utf8Encode (Json.quoted raw)) = .ok value) ↔ Json.Paired us) ∧
      ∀ value, decodeJSONString (utf8Encode (Json.quoted raw)) = .ok value →
        ∃ text, Json.Denotes us text ∧ value = utf8Encode text ∧
          text.count '\uFFFD' = us.count (.char '\uFFFD') + us.count (.code 0xFFFD)) ∧
    ∀ data, ∃ valid, validSurrogateEscapes data = some valid := by
  refine ⟨fun raw hraw => ⟨hraw.exists_lexed, fun us hus => ⟨?_, ?_⟩⟩,
    validSurrogateEscapes_total⟩
  · rw [← Json.denotes_iff_paired]
    constructor
    · rintro ⟨value, hvalue⟩
      obtain ⟨text, htext, -⟩ := (decodeJSONString_eq_ok hraw hus).mp hvalue
      exact ⟨text, htext⟩
    · rintro ⟨text, htext⟩
      exact ⟨_, (decodeJSONString_eq_ok hraw hus).mpr ⟨text, htext, rfl⟩⟩
  · intro value hvalue
    obtain ⟨text, htext, rfl⟩ := (decodeJSONString_eq_ok hraw hus).mp hvalue
    exact ⟨text, htext, rfl, htext.count_replacement⟩

/-- An escaped backslash before a `u`, a pair, and U+FFFD. -/
def sampleRaw : List Char := "\\\\ud800\\ud83d\\ude00\\ufffd".toList

theorem sampleRaw_lossless :
    ∃ us text value, Json.Lexed sampleRaw us ∧ Json.Denotes us text ∧ Json.Paired us ∧
      decodeJSONString (utf8Encode (Json.quoted sampleRaw)) = .ok value ∧
      value = utf8Encode text := by
  obtain ⟨⟨us, hus⟩, hall⟩ := string_decoding_lossless.1 sampleRaw (by decide +kernel)
  obtain ⟨value, hvalue⟩ : ∃ value,
      decodeJSONString (utf8Encode (Json.quoted sampleRaw)) = .ok value :=
    ⟨utf8Encode "\\ud800😀\uFFFD".toList, Except.eq_ok_of_toOption (by decide +kernel)⟩
  obtain ⟨text, htext, heq, -⟩ := (hall us hus).2 value hvalue
  exact ⟨us, text, value, hus, htext, (hall us hus).1.mp ⟨value, hvalue⟩, hvalue, heq⟩

end OncallGateway
