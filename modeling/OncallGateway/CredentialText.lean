import OncallGateway.AuthenticationRequest

/-! # One spelling for each credential text

The library decoders behind the parsers of credential texts are lenient: hexadecimal digits of
either case, base64 with line breaks and with slack bits in its last character.  Each parser
closes these by checks of its own, so that a text is accepted for a value exactly when it is
the encoding of the value (`credential_texts_canonical`).  The encodings are the hyphenated
lower case text of an identifier (`formatUUID`), unpadded base64url (`base64Encode`), the
shortest decimal (`ByteString.ofDecimal`), and for the whole `Authorization` value
`authorizationText`.
-/

namespace OncallGateway

/-! ## Nonces and tokens -/

theorem base64Digit_ne_padding : ∀ v, v < 64 → base64Digit v ≠ 61 := by
  decide

variable {value : ByteString}

/-- **A nonce is read from its own text and from no other.** -/
theorem parseReplayNonce_eq_ok {nonce : Bytes 16} :
    parseReplayNonce value = .ok nonce ↔ value = base64Encode nonce.toList := by
  refine ⟨parseReplayNonce_text, ?_⟩
  rintro rfl
  have hlength : (base64Encode nonce.toList).length = 22 := by
    rw [length_base64Encode, nonce.length_eq]
  have hpadding := notMem_base64Encode base64Digit_ne_padding nonce.toList
  have hexact : base64Exact? 16 (base64Encode nonce.toList) = some nonce :=
    base64Exact?_eq_some.mpr rfl
  simp only [parseReplayNonce, hlength, hpadding, hexact, ne_eq, not_true_eq_false, or_self,
    if_false]

/-- **A token is read from its own text and from no other.** -/
theorem parseOpaqueDestinationToken_eq_ok {token : OpaqueDestinationToken} :
    parseOpaqueDestinationToken value = .ok token ↔
      value = opaqueTokenPrefix ++ base64Encode token.toList := by
  refine ⟨parseOpaqueDestinationToken_text, ?_⟩
  rintro rfl
  have hlength : (opaqueTokenPrefix ++ base64Encode token.toList).length =
      opaqueTokenPrefix.length + 43 := by
    rw [List.length_append, length_base64Encode, token.length_eq]
  simp only [parseOpaqueDestinationToken, hlength, List.take_left, List.drop_left, ne_eq,
    not_true_eq_false, or_self, if_false, base64Decode_base64Encode, Bytes.ofList?_toList]

/-! ## Timestamps -/

/-- The checks of `parseTimestamp` before it converts. -/
theorem shortest_iff :
    ByteString.Shortest value ↔ ¬ (value = [] ∨ value.length > 1 ∧ value.head? = some 48) ∧
      ¬ ∃ c ∈ value, c.toNat < 48 ∨ c.toNat > 57 := by
  constructor
  · rintro ⟨hne, hdigits, hleading⟩
    refine ⟨?_, ?_⟩
    · rintro (rfl | ⟨hlong, hzero⟩)
      · exact hne rfl
      · exact hleading hlong hzero
    · rintro ⟨c, hc, hout⟩
      have hdigit := hdigits c hc
      omega
  · rintro ⟨hhead, hdigits⟩
    refine ⟨fun hnil => hhead (.inl hnil), fun c hc => ?_, fun hlong hzero =>
      hhead (.inr ⟨hlong, hzero⟩)⟩
    by_contra hout
    exact hdigits ⟨c, hc, by omega⟩

/-- **A timestamp is read from its shortest decimal and from no other text.** -/
theorem parseTimestamp_eq_some {n : Nat} :
    parseTimestamp value = some n ↔ n < 2 ^ 64 ∧ value = ByteString.ofDecimal n := by
  constructor
  · intro h
    unfold parseTimestamp at h
    split at h
    · cases h
    · split at h
      · cases h
      · split at h
        · rename_i hhead hdigits hsmall
          cases h
          exact ⟨hsmall, (ByteString.Shortest.ofDecimal_decimal
            (shortest_iff.mpr ⟨hhead, hdigits⟩)).symm⟩
        · cases h
  · rintro ⟨hsmall, rfl⟩
    obtain ⟨hhead, hdigits⟩ := shortest_iff.mp (ByteString.shortest_ofDecimal n)
    rw [parseTimestamp, if_neg hhead, if_neg hdigits, ByteString.decimal_ofDecimal,
      if_pos hsmall]

/-! ## The `Authorization` value -/

/-- The value for a credential and a signature. -/
def authorizationText (credentialID : CredentialID) (signature : Bytes 32) : ByteString :=
  authenticationScheme ++ authorizationCredential ++ (formatUUID credentialID ++
    (authorizationSignature ++ base64Encode signature.toList))

theorem hexDigit_ne_comma : ∀ v, v < 16 → hexDigit v ≠ 44 := by
  decide

theorem base64Digit_ne_comma : ∀ v, v < 64 → base64Digit v ≠ 44 := by
  decide

theorem comma_notMem_formatUUID (value : UUID) : 44 ∉ formatUUID value := by
  simp only [formatUUID, List.mem_append, List.mem_cons, notMem_hexEncode hexDigit_ne_comma,
    false_or, or_false]
  decide

/-- The separator begins with a comma, which neither part holds. -/
theorem authorizationSignature_eq :
    authorizationSignature = 44 :: ByteString.ascii " Signature=" := by
  decide

theorem index?_authorizationSignature (credentialID : CredentialID) (rest : ByteString) :
    ByteString.index? authorizationSignature
      (formatUUID credentialID ++ (authorizationSignature ++ rest)) = some 36 := by
  rw [authorizationSignature_eq, ByteString.index?_append (comma_notMem_formatUUID credentialID),
    (formatUUID_shape credentialID).1.length]

/-- A text that the parser has cut at the separator. -/
theorem eq_append_of_index? {remainder : ByteString} {n : Nat}
    (h : ByteString.index? authorizationSignature remainder = some n) :
    remainder = remainder.take n ++ (authorizationSignature ++
      remainder.drop (n + authorizationSignature.length)) := by
  obtain ⟨rest, hrest⟩ := ByteString.isPrefix_of_index? h
  have hdrop : remainder.drop (n + authorizationSignature.length) = rest := by
    rw [← List.drop_drop, ← hrest, List.drop_left]
  rw [hdrop, hrest, List.take_append_drop]

variable {credentialID : CredentialID}

theorem parseAuthorization_text {signature : Bytes 32}
    (h : parseAuthorization value = some (credentialID, signature)) :
    credentialID.IsV4 ∧ value = authorizationText credentialID signature := by
  unfold parseAuthorization at h
  split at h
  · cases h
  · rename_i hscheme
    have hvalue := (List.prefix_iff_eq_append.mp (not_not.mp hscheme)).symm
    dsimp only at h
    generalize value.drop (authenticationScheme ++ authorizationCredential).length = remainder
      at h hvalue
    split at h
    · cases h
    · cases h
    · rename_i n hindex
      have hcut := eq_append_of_index? hindex
      split at h
      · cases h
      · split at h
        · cases h
        · rename_i credentialID' hcredential
          split at h
          · cases h
          · rename_i htext
            split at h
            · cases h
            · obtain ⟨signature', hexact, hpair⟩ := Option.map_eq_some_iff.mp h
              cases hpair
              have hsignature := base64Exact?_eq_some.mp hexact
              refine ⟨(parseUUID_eq_ok.mp hcredential).2.1 rfl, ?_⟩
              rw [hvalue, authorizationText, hcut, hsignature, not_not.mp htext]

/-- **An authorization is read from its own text and from no other.** -/
theorem parseAuthorization_eq_some {signature : Bytes 32} :
    parseAuthorization value = some (credentialID, signature) ↔
      credentialID.IsV4 ∧ value = authorizationText credentialID signature := by
  refine ⟨parseAuthorization_text, ?_⟩
  rintro ⟨hv4, rfl⟩
  have hlength := (formatUUID_shape credentialID).1.length
  have hcredential : parseCredentialID (formatUUID credentialID) = .ok credentialID :=
    parseUUID_eq_ok.mpr ⟨hv4.not_isZero, fun _ => hv4, rfl⟩
  have hnone : ByteString.index? authorizationSignature (base64Encode signature.toList) = none := by
    rw [authorizationSignature_eq]
    exact ByteString.index?_eq_none (notMem_base64Encode base64Digit_ne_comma _)
  have hsize : (base64Encode signature.toList).length = 43 := by
    rw [length_base64Encode, signature.length_eq]
  have hpadding := notMem_base64Encode base64Digit_ne_padding signature.toList
  have hexact : base64Exact? 32 (base64Encode signature.toList) = some signature :=
    base64Exact?_eq_some.mpr rfl
  have htake : (formatUUID credentialID ++ (authorizationSignature ++
      base64Encode signature.toList)).take (35 + 1) = formatUUID credentialID :=
    List.take_left' hlength
  have hdrop : (formatUUID credentialID ++ (authorizationSignature ++
      base64Encode signature.toList)).drop (35 + 1 + authorizationSignature.length) =
        base64Encode signature.toList := by
    rw [← List.drop_drop, List.drop_left' hlength, List.drop_left]
  rw [parseAuthorization, authorizationText, if_neg (not_not.mpr (List.prefix_append _ _))]
  simp only [List.drop_left, index?_authorizationSignature]
  rw [htake, hdrop]
  simp only [hnone, hcredential, hsize, hpadding, hexact, Option.isSome_none, Bool.false_eq_true,
    if_false, ne_eq, not_true_eq_false, or_self, Option.map_some]

/-! ## Delivery identities

`ParseDeliveryIdentity` takes digits of either case; its callers compare with the text of what
was read. -/

theorem parseDeliveryIdentity_formatUUID (value : UUID) :
    parseDeliveryIdentity (formatUUID value) =
      if value.IsZero then .error .errInvalidAcceptance else .ok value := by
  obtain ⟨⟨hlength, h8, h13, h18, h23⟩, hdigits⟩ := formatUUID_shape value
  have hdecode := hexDecode_hexEncode value.toList
  rw [← hdigits, uuidDigits] at hdecode
  simp only [parseDeliveryIdentity, hlength, h8, h13, h18, h23, hdecode, ne_eq,
    not_true_eq_false, or_self, if_false, Option.bind_some, Bytes.ofList?_toList]

theorem eq_of_parseDeliveryIdentity_formatUUID {id identity : DeliveryIdentity}
    (h : parseDeliveryIdentity (formatUUID id) = .ok identity) : identity = id ∧ ¬ id.IsZero := by
  rw [parseDeliveryIdentity_formatUUID] at h
  split at h
  · cases h
  · cases h
    exact ⟨rfl, ‹_›⟩

/-! ## All of them -/

/-- **Every credential text has exactly one accepted spelling**: a text is accepted for a value
exactly when it is the value's own encoding. -/
theorem credential_texts_canonical (s : ByteString) :
    (∀ id : UUID, parseUUID s false = .ok id ↔ ¬ id.IsZero ∧ s = formatUUID id) ∧
    (∀ id : UUID, parseUUID s true = .ok id ↔ id.IsV4 ∧ s = formatUUID id) ∧
    (∀ nonce : Bytes 16, parseReplayNonce s = .ok nonce ↔ s = base64Encode nonce.toList) ∧
    (∀ token : OpaqueDestinationToken, parseOpaqueDestinationToken s = .ok token ↔
      s = opaqueTokenPrefix ++ base64Encode token.toList) ∧
    (∀ n : Nat, parseTimestamp s = some n ↔ n < 2 ^ 64 ∧ s = ByteString.ofDecimal n) ∧
    (∀ (credentialID : CredentialID) (signature : Bytes 32),
      parseAuthorization s = some (credentialID, signature) ↔
        credentialID.IsV4 ∧ s = authorizationText credentialID signature) := by
  refine ⟨fun id => ?_, fun id => ?_, fun _ => parseReplayNonce_eq_ok,
    fun _ => parseOpaqueDestinationToken_eq_ok, fun _ => parseTimestamp_eq_some,
    fun _ _ => parseAuthorization_eq_some⟩
  · rw [parseUUID_eq_ok]
    exact ⟨fun ⟨hzero, _, htext⟩ => ⟨hzero, htext⟩, fun ⟨hzero, htext⟩ =>
      ⟨hzero, Bool.noConfusion, htext⟩⟩
  · rw [parseUUID_eq_ok]
    exact ⟨fun ⟨_, hv4, htext⟩ => ⟨hv4 rfl, htext⟩, fun ⟨hv4, htext⟩ =>
      ⟨hv4.not_isZero, fun _ => hv4, htext⟩⟩

end OncallGateway
