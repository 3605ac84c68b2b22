import Mathlib.Algebra.Order.Ring.Int
import OncallGateway.Identifiers

/-! # The signed request

`parseRequest` reads what the transport gives the authentication service, and
`requestMAC` is the keyed hash of what was read.  The hash is taken of nine texts, joined
by line feeds, so that it says which request was signed only if no text can hold a line
feed and each is the one spelling of its value.  Both are consequences of the parsers,
which compare each value's own text with the one they were given (`ParsedRequest.Canonical`).

The hash functions are parameters.
-/

namespace OncallGateway

abbrev CredentialID := UUID
abbrev DeliveryIdentity := UUID

/-- The errors of the `authentication` package. -/
inductive AuthenticationError where
  | errConfigurationInvalid | errRequestInvalid | errAuthenticationFailed | errForbidden
  | errUnavailable | errCanceled
deriving DecidableEq

/-- `authentication.Request`. -/
structure AuthenticationRequest where
  method : ByteString
  path : ByteString
  deliveryIdentity : ByteString
  authorizationValues : List ByteString
  timestampValues : List ByteString
  nonceValues : List ByteString
  rawBody : ByteString

/-- `parsedRequest`. -/
structure ParsedRequest where
  path : ByteString
  deliveryIdentity : ByteString
  credentialID : CredentialID
  signature : Bytes 32
  timestampText : ByteString
  timestamp : Nat
  nonceText : ByteString
  nonce : Bytes 16
  rawBody : ByteString
deriving DecidableEq

/-! ## Its parts -/

/-- `authenticationScheme`. -/
def authenticationScheme : ByteString := .ascii "MSOnCall-HMAC-SHA256"

/-- `authorizationCredential`. -/
def authorizationCredential : ByteString := .ascii " Credential="

/-- `authorizationSignature`. -/
def authorizationSignature : ByteString := .ascii ", Signature="

/-- `canonicalPathPrefix`. -/
def canonicalPathPrefix : ByteString := .ascii "/v1/goalert/contact-method/"

/-- `canonicalSigningDomain`. -/
def canonicalSigningDomain : ByteString := .ascii "MS_ONCALL_GATEWAY_REQUEST_V1"

/-- `ParseCredentialID` asks for version 4. -/
def parseCredentialID (value : ByteString) : Except Sentinel CredentialID :=
  parseUUID value true

/-- `ParseDeliveryIdentity`: the `parseUUID` of the `durable` package, which takes digits of
either case. -/
def parseDeliveryIdentity (value : ByteString) : Except Sentinel DeliveryIdentity :=
  if value.length ≠ 36 ∨ value[8]? ≠ some 45 ∨ value[13]? ≠ some 45 ∨ value[18]? ≠ some 45 ∨
      value[23]? ≠ some 45 then
    .error .errInvalidAcceptance
  else
    let compact := value.take 8 ++ ((value.drop 9).take 4 ++ ((value.drop 14).take 4 ++
      ((value.drop 19).take 4 ++ value.drop 24)))
    match (hexDecode compact).bind (Bytes.ofList? 16) with
    | none => .error .errInvalidAcceptance
    | some result => if result.IsZero then .error .errInvalidAcceptance else .ok result

/-- `ParseReplayNonce`. -/
def parseReplayNonce (value : ByteString) : Except Sentinel (Bytes 16) :=
  if value.length ≠ 22 ∨ 61 ∈ value then .error .errInvalidState
  else
    match base64Exact? 16 value with
    | none => .error .errInvalidState
    | some nonce => .ok nonce

/-- `validCanonicalPath`. -/
def validCanonicalPath (path : ByteString) : Bool :=
  decide (canonicalPathPrefix <+: path) &&
    (parseOpaqueDestinationToken (path.drop canonicalPathPrefix.length)).toOption.isSome

/-- `exactlyOne`. -/
def exactlyOne : List ByteString → Option ByteString
  | [value] =>
    if value = [] ∨ ¬ value.Trimmed ∨ 13 ∈ value ∨ 10 ∈ value then none else some value
  | _ => none

/-- `parseAuthorization`. -/
def parseAuthorization (value : ByteString) : Option (CredentialID × Bytes 32) :=
  if ¬ authenticationScheme ++ authorizationCredential <+: value then none
  else
    let remainder := value.drop (authenticationScheme ++ authorizationCredential).length
    match ByteString.index? authorizationSignature remainder with
    | none => none
    | some 0 => none
    | some (n + 1) =>
      let credentialText := remainder.take (n + 1)
      let signatureText := remainder.drop (n + 1 + authorizationSignature.length)
      if (ByteString.index? authorizationSignature signatureText).isSome then none
      else
        match parseCredentialID credentialText with
        | .error _ => none
        | .ok credentialID =>
          if formatUUID credentialID ≠ credentialText then none
          else if signatureText.length ≠ 43 ∨ 61 ∈ signatureText then none
          else (base64Exact? 32 signatureText).map fun signature => (credentialID, signature)

/-- `parseTimestamp`: decimal digits without a leading zero, below 2^64. -/
def parseTimestamp (value : ByteString) : Option Nat :=
  if value = [] ∨ value.length > 1 ∧ value.head? = some 48 then none
  else if ∃ c ∈ value, c.toNat < 48 ∨ c.toNat > 57 then none
  else if value.decimal < 2 ^ 64 then some value.decimal
  else none

/-- `parseRequest`. -/
def parseRequest (request : AuthenticationRequest) : Except AuthenticationError ParsedRequest :=
  if request.method ≠ .ascii "POST" ∨ validCanonicalPath request.path = false then
    .error .errRequestInvalid
  else
    match parseDeliveryIdentity request.deliveryIdentity with
    | .error _ => .error .errRequestInvalid
    | .ok deliveryIdentity =>
      if formatUUID deliveryIdentity ≠ request.deliveryIdentity then .error .errRequestInvalid
      else
        match exactlyOne request.authorizationValues, exactlyOne request.timestampValues,
            exactlyOne request.nonceValues with
        | some authorization, some timestampText, some nonceText =>
          match parseAuthorization authorization, parseTimestamp timestampText,
              parseReplayNonce nonceText with
          | some (credentialID, signature), some timestamp, .ok nonce =>
            .ok {
              path := request.path
              deliveryIdentity := request.deliveryIdentity
              credentialID := credentialID
              signature := signature
              timestampText := timestampText
              timestamp := timestamp
              nonceText := nonceText
              nonce := nonce
              rawBody := request.rawBody }
          | _, _, _ => .error .errAuthenticationFailed
        | _, _, _ => .error .errAuthenticationFailed

/-! ## What is signed -/

section
variable (hmac : KeyedHash) (sha256 : Hash)

/-- The texts that are joined for the keyed hash. -/
def ParsedRequest.components (audience : ByteString) (request : ParsedRequest) : List ByteString :=
  [canonicalSigningDomain, audience, .ascii "POST", request.path, formatUUID request.credentialID,
    request.deliveryIdentity, request.timestampText, request.nonceText,
    hexEncode (sha256 request.rawBody).toList]

/-- `signingInput`. -/
def ParsedRequest.signingInput (audience : ByteString) (request : ParsedRequest) : ByteString :=
  [10].intercalate (request.components sha256 audience)

/-- `requestMAC`. -/
def requestMAC (audience : ByteString) (request : ParsedRequest) (secret : Bytes 32) : Bytes 32 :=
  hmac secret.toList (request.signingInput sha256 audience)

end

/-! ## Canonical texts -/

/-- The texts of a request are those of their values. -/
structure ParsedRequest.Canonical (p : ParsedRequest) : Prop where
  path : ∃ token : OpaqueDestinationToken,
    parseOpaqueDestinationToken (p.path.drop canonicalPathPrefix.length) = .ok token ∧
    p.path = canonicalPathPrefix ++ (opaqueTokenPrefix ++ base64Encode token.toList)
  deliveryIdentity : ∃ identity : DeliveryIdentity,
    parseDeliveryIdentity p.deliveryIdentity = .ok identity ∧
    p.deliveryIdentity = formatUUID identity
  timestamp : parseTimestamp p.timestampText = some p.timestamp
  nonce : parseReplayNonce p.nonceText = .ok p.nonce

variable {text : ByteString}

theorem parseOpaqueDestinationToken_text {token : OpaqueDestinationToken}
    (h : parseOpaqueDestinationToken text = .ok token) :
    text = opaqueTokenPrefix ++ base64Encode token.toList := by
  unfold parseOpaqueDestinationToken at h
  split at h
  · cases h
  · rename_i hshape
    simp only [not_or, not_not] at hshape
    have hcut := List.take_append_drop opaqueTokenPrefix.length text
    rw [hshape.2] at hcut
    dsimp only at h
    split at h
    · cases h
    · split at h
      · cases h
      · rename_i decoded _ _ token' htoken
        split at h
        · cases h
        · rename_i hexact
          cases h
          unfold Bytes.ofList? at htoken
          split at htoken
          · cases htoken
            rw [not_not.mp hexact, hcut]
          · cases htoken

theorem parseReplayNonce_text {nonce : Bytes 16} (h : parseReplayNonce text = .ok nonce) :
    text = base64Encode nonce.toList := by
  unfold parseReplayNonce at h
  split at h
  · cases h
  · split at h
    · cases h
    · rename_i nonce' hnonce
      cases h
      exact (base64Encode_of_exact hnonce).symm

variable {p : ParsedRequest}

/-- **What is parsed is canonical**, and is read off the request. -/
theorem parseRequest_eq_ok {request : AuthenticationRequest} (h : parseRequest request = .ok p) :
    p.Canonical ∧ p.rawBody = request.rawBody := by
  unfold parseRequest at h
  split at h
  · cases h
  · rename_i hpath
    simp only [not_or, Bool.not_eq_false, validCanonicalPath, Bool.and_eq_true,
      decide_eq_true_eq] at hpath
    obtain ⟨-, hprefix, htoken⟩ := hpath
    split at h
    · cases h
    · rename_i identity hidentity
      split at h
      · cases h
      · rename_i htext
        split at h
        · split at h
          · rename_i htimestamp hnonce
            cases h
            refine ⟨⟨?_, ⟨identity, hidentity, (not_not.mp htext).symm⟩, htimestamp, hnonce⟩, rfl⟩
            cases hparse : parseOpaqueDestinationToken
                (request.path.drop canonicalPathPrefix.length) with
            | error e =>
              rw [hparse] at htoken
              cases htoken
            | ok token =>
              refine ⟨token, rfl, ?_⟩
              rw [← parseOpaqueDestinationToken_text hparse]
              exact (List.prefix_iff_eq_append.mp hprefix).symm
          · cases h
        · cases h

/-! ## No line feed -/

theorem newline_notMem_formatUUID (value : UUID) : 10 ∉ formatUUID value := by
  simp only [formatUUID, List.mem_append, List.mem_cons, newline_notMem_hexEncode, false_or,
    or_false]
  decide

theorem formatUUID_injective {a b : UUID} (h : formatUUID a = formatUUID b) : a = b := by
  have ha := parseUUID_formatUUID a
  rw [h, parseUUID_formatUUID b] at ha
  by_cases hza : a.IsZero
  · by_cases hzb : b.IsZero
    · exact hza.trans hzb.symm
    · simp [hza, hzb] at ha
  · by_cases hzb : b.IsZero
    · simp [hza, hzb] at ha
    · simpa [hza, hzb] using ha.symm

theorem newline_notMem_of_parseTimestamp {n : Nat} (h : parseTimestamp text = some n) :
    10 ∉ text := by
  unfold parseTimestamp at h
  split at h
  · cases h
  · split at h
    · cases h
    · rename_i hdigits
      exact fun hmem => hdigits ⟨10, hmem, Or.inl (by decide)⟩

/-- No component of the signing input holds its separator. -/
theorem ParsedRequest.Canonical.newline_notMem (h : p.Canonical) (sha256 : Hash)
    (audience : GatewayAudienceID) :
    ∀ component ∈ p.components sha256 (formatUUID audience), 10 ∉ component := by
  obtain ⟨token, -, hpath⟩ := h.path
  obtain ⟨identity, -, hidentity⟩ := h.deliveryIdentity
  have hpathText : 10 ∉ p.path := by
    rw [hpath]
    simp only [List.mem_append, newline_notMem_base64Encode, or_false]
    decide
  have hidentityText : 10 ∉ p.deliveryIdentity := hidentity ▸ newline_notMem_formatUUID identity
  have hnonceText : 10 ∉ p.nonceText :=
    parseReplayNonce_text h.nonce ▸ newline_notMem_base64Encode _
  simp only [ParsedRequest.components, List.forall_mem_cons, List.not_mem_nil, false_implies,
    implies_true, and_true]
  exact ⟨by decide, newline_notMem_formatUUID _, by decide, hpathText, newline_notMem_formatUUID _,
    hidentityText, newline_notMem_of_parseTimestamp h.timestamp, hnonceText,
    newline_notMem_hexEncode _⟩

/-- The requests of two signing inputs, and their audiences, are the same in everything but
the signature and, if the hash collides, the body. -/
structure SameSigned (sha256 : Hash) (a₁ a₂ : GatewayAudienceID)
    (p₁ p₂ : ParsedRequest) : Prop where
  audience : a₁ = a₂
  path : p₁.path = p₂.path
  token : parseOpaqueDestinationToken (p₁.path.drop canonicalPathPrefix.length) =
    parseOpaqueDestinationToken (p₂.path.drop canonicalPathPrefix.length)
  credentialID : p₁.credentialID = p₂.credentialID
  deliveryIdentity : p₁.deliveryIdentity = p₂.deliveryIdentity
  timestampText : p₁.timestampText = p₂.timestampText
  timestamp : p₁.timestamp = p₂.timestamp
  nonceText : p₁.nonceText = p₂.nonceText
  nonce : p₁.nonce = p₂.nonce
  body : sha256 p₁.rawBody = sha256 p₂.rawBody

/-- **Equal signing inputs are those of one request.** -/
theorem ParsedRequest.Canonical.same_of_signingInput {sha256 : Hash}
    {a₁ a₂ : GatewayAudienceID} {p₁ p₂ : ParsedRequest} (h₁ : p₁.Canonical) (h₂ : p₂.Canonical)
    (h : p₁.signingInput sha256 (formatUUID a₁) = p₂.signingInput sha256 (formatUUID a₂)) :
    SameSigned sha256 a₁ a₂ p₁ p₂ := by
  have hsplit₁ := List.splitOn_intercalate 10 (h₁.newline_notMem sha256 a₁) (List.cons_ne_nil _ _)
  have hsplit₂ := List.splitOn_intercalate 10 (h₂.newline_notMem sha256 a₂) (List.cons_ne_nil _ _)
  have hcomponents : p₁.components sha256 (formatUUID a₁) = p₂.components sha256 (formatUUID a₂) := by
    rw [← hsplit₁, ← hsplit₂]
    exact congrArg (List.splitOn 10) h
  simp only [ParsedRequest.components, List.cons.injEq, and_true, true_and] at hcomponents
  obtain ⟨haudience, hpath, hcredential, hidentity, htimestamp, hnonce, hbody⟩ := hcomponents
  have hnonceValue := h₁.nonce
  rw [hnonce, h₂.nonce] at hnonceValue
  have htimestampValue := h₁.timestamp
  rw [htimestamp, h₂.timestamp] at htimestampValue
  exact {
    audience := formatUUID_injective haudience
    path := hpath
    token := by rw [hpath]
    credentialID := formatUUID_injective hcredential
    deliveryIdentity := hidentity
    timestampText := htimestamp
    timestamp := (Option.some.inj htimestampValue).symm
    nonceText := hnonce
    nonce := (Except.ok.inj hnonceValue).symm
    body := Bytes.toList_injective (hexEncode_injective hbody) }

end OncallGateway
