import OncallGateway.AuthenticationRequest
import OncallGateway.CanonicalEvent
import OncallGateway.Lib.Framing
import OncallGateway.Lib.Session

/-! # Protected payloads

The `protection` package seals a canonical event and its digest before they are stored.  Each
seal is bound to its context, the principal, the destination, the delivery identity, the
format version, the key and what is sealed, by additional data that spells the context out
(`buildAADForVersion`).  The spelling is injective (`AADContext.build_injective`), so that a
protected digest opens in its own context and in no other (`digest_opens_in_context`).

AES-GCM is a parameter, `Aead`.  Of an ideal one, opening succeeds for what was sealed only
(`Aead.Ideal`).  A service without its dependencies, and the lock around the source of
randomness, are left out.
-/

namespace OncallGateway

/-! ## Values of the `durable` package -/

abbrev ReceiptID := UUID

abbrev CanonicalDigest := Bytes 32

/-- `ProtectedValue`. -/
structure ProtectedValue where
  ciphertext : ByteString
  nonce : ByteString
deriving DecidableEq

/-- `ProtectedValue.valid`. -/
def ProtectedValue.Valid (value : ProtectedValue) : Prop := value.ciphertext ≠ [] ∧ value.nonce ≠ []

instance ProtectedValue.decidableValid (value : ProtectedValue) : Decidable value.Valid :=
  inferInstanceAs (Decidable (value.ciphertext ≠ [] ∧ value.nonce ≠ []))

/-- `NewProtectedValue`. -/
def newProtectedValue (ciphertext nonce : ByteString) : Except Sentinel ProtectedValue :=
  if ciphertext = [] ∨ nonce = [] then .error .errInvalidAcceptance else .ok ⟨ciphertext, nonce⟩

/-- `PreparedAcceptance`. -/
structure PreparedAcceptance where
  corePrincipalID : ByteString
  destinationID : ByteString
  deliveryIdentity : DeliveryIdentity
  formatVersion : Int64
  canonicalEvent : ProtectedValue
  protectedDigest : ProtectedValue
  encryptionKeyID : ByteString
  equivalenceDigest : CanonicalDigest
deriving DecidableEq

/-- `PreparedAcceptance.validate`. -/
def PreparedAcceptance.validate (acceptance : PreparedAcceptance) : Except Sentinel Unit :=
  .refuseIf (acceptance.corePrincipalID = [] ∨ acceptance.destinationID = [] ∨
    acceptance.deliveryIdentity.IsZero ∨ acceptance.formatVersion ≤ 0 ∨
    ¬ acceptance.canonicalEvent.Valid ∨ ¬ acceptance.protectedDigest.Valid ∨
    acceptance.encryptionKeyID = []) .errInvalidAcceptance

/-- `NewPreparedAcceptance`, of its arguments as a record. -/
def newPreparedAcceptance (acceptance : PreparedAcceptance) :
    Except Sentinel PreparedAcceptance := do
  acceptance.validate
  return acceptance

/-- `DigestOpenRequest`. -/
structure DigestOpenRequest where
  protectedDigest : ProtectedValue
  encryptionKeyID : ByteString
  corePrincipalID : ByteString
  destinationID : ByteString
  deliveryIdentity : DeliveryIdentity
  formatVersion : Int64
deriving DecidableEq

/-! ## Additional data -/

/-- `PayloadProtectionFormatVersion`. -/
def payloadProtectionFormatVersion : Int64 := 1

/-- `protectionDomainTag`. -/
def protectionDomainTag : ByteString := .ascii "MS_ONCALL_GATEWAY_PAYLOAD_PROTECTION"

/-- `purposeEvent`. -/
def purposeEvent : UInt8 := 0x01

/-- `purposeDigest`. -/
def purposeDigest : UInt8 := 0x02

/-- `gcmNonceSize`. -/
def gcmNonceSize : Nat := 12

/-- `validateAADString`. -/
def validateAADString (value : ByteString) : Except Sentinel Unit :=
  .refuseIf (utf8Valid value = false ∨ 2 ^ 32 - 1 < value.length) .errProtectionInvalid

/-- `uint64` of a version. -/
def versionField (version : Int64) : ByteString := bigEndian 8 version.toUInt64.toNat

/-- `appendAADString`. -/
def appendAADString (aad value : ByteString) : ByteString := aad ++ lengthPrefixed 4 value

/-- The loop of `buildAADForVersion` over its texts. -/
def validateAADValues : List ByteString → Except Sentinel Unit
  | [] => .ok ()
  | value :: values => do
    .refuseIf (value = []) .errProtectionInvalid
    validateAADString value
    validateAADValues values

/-- `buildAADForVersion`. -/
def buildAADForVersion (protectionFormatVersion : Int64) (purpose : UInt8)
    (canonicalFormatVersion : Int64) (deliveryIdentity : DeliveryIdentity)
    (corePrincipalID destinationID keyID : ByteString) : Except Sentinel ByteString := do
  .refuseIf (protectionFormatVersion ≤ 0 ∨ canonicalFormatVersion ≤ 0 ∨ deliveryIdentity.IsZero ∨
    (purpose ≠ purposeEvent ∧ purpose ≠ purposeDigest)) .errProtectionInvalid
  validateAADValues [corePrincipalID, destinationID, keyID]
  let aad := protectionDomainTag ++ [0]
  let aad := aad ++ versionField protectionFormatVersion
  let aad := aad ++ [purpose]
  let aad := aad ++ versionField canonicalFormatVersion
  let aad := aad ++ deliveryIdentity.toList
  let aad := appendAADString aad corePrincipalID
  let aad := appendAADString aad destinationID
  return appendAADString aad keyID

/-- `buildAAD`. -/
def buildAAD (purpose : UInt8) (canonicalFormatVersion : Int64)
    (deliveryIdentity : DeliveryIdentity) (corePrincipalID destinationID keyID : ByteString) :
    Except Sentinel ByteString :=
  buildAADForVersion payloadProtectionFormatVersion purpose canonicalFormatVersion deliveryIdentity
    corePrincipalID destinationID keyID

variable {u : Unit} {aad corePrincipalID destinationID plaintext : ByteString}
  {deliveryIdentity : DeliveryIdentity} {value : ProtectedValue} {prepared : PreparedAcceptance}
  {digest : CanonicalDigest} {request : DigestOpenRequest}

/-- A text that is accepted in the additional data. -/
theorem validateAADString_eq_ok {value : ByteString} :
    validateAADString value = .ok u ↔ utf8Valid value = true ∧ value.length < 256 ^ 4 := by
  rw [validateAADString, Except.refuseIf_eq_ok, not_or, Bool.not_eq_false, not_lt]
  refine and_congr_right fun _ => ?_
  omega

theorem validateAADValues_eq_ok {values : List ByteString} :
    validateAADValues values = .ok u ↔
      ∀ value ∈ values, value ≠ [] ∧ utf8Valid value = true ∧ value.length < 256 ^ 4 := by
  induction values with
  | nil => simp [validateAADValues]
  | cons value values ih =>
    simp only [validateAADValues, Except.bind_eq_ok, Except.refuseIf_eq_ok, exists_const,
      List.forall_mem_cons, ih, validateAADString_eq_ok, and_assoc, ne_eq]

/-- The context that additional data spells out. -/
structure AADContext where
  protectionFormatVersion : Int64
  purpose : UInt8
  canonicalFormatVersion : Int64
  deliveryIdentity : DeliveryIdentity
  corePrincipalID : ByteString
  destinationID : ByteString
  keyID : ByteString

/-- The additional data of a context. -/
def AADContext.build (context : AADContext) : Except Sentinel ByteString :=
  buildAADForVersion context.protectionFormatVersion context.purpose context.canonicalFormatVersion
    context.deliveryIdentity context.corePrincipalID context.destinationID context.keyID

/-- The additional data, field by field. -/
def AADContext.spelled (context : AADContext) : ByteString :=
  protectionDomainTag ++ 0 :: (versionField context.protectionFormatVersion ++ context.purpose ::
    (versionField context.canonicalFormatVersion ++ (context.deliveryIdentity.toList ++
    (lengthPrefixed 4 context.corePrincipalID ++ (lengthPrefixed 4 context.destinationID ++
    (lengthPrefixed 4 context.keyID ++ []))))))

theorem AADContext.build_eq_ok {context : AADContext} :
    context.build = .ok aad ↔
      (0 < context.protectionFormatVersion ∧ 0 < context.canonicalFormatVersion ∧
        ¬ context.deliveryIdentity.IsZero ∧
        (context.purpose = purposeEvent ∨ context.purpose = purposeDigest)) ∧
      (∀ value ∈ [context.corePrincipalID, context.destinationID, context.keyID],
        value ≠ [] ∧ utf8Valid value = true ∧ value.length < 256 ^ 4) ∧
      context.spelled = aad := by
  simp only [AADContext.build, buildAADForVersion, Except.bind_eq_ok, Except.refuseIf_eq_ok,
    validateAADValues_eq_ok, exists_const, Except.pure_eq_ok, AADContext.spelled, appendAADString,
    not_or, Int64.not_le, not_and_or, not_not, List.append_assoc, List.cons_append, List.nil_append,
    List.append_nil]

theorem versionField_append_inj {version version' : Int64} {rest rest' : ByteString}
    (h : versionField version ++ rest = versionField version' ++ rest') :
    version = version' ∧ rest = rest' := by
  obtain ⟨hfield, hrest⟩ := bigEndian_append_inj (version.toUInt64.toNat_lt)
    (version'.toUInt64.toNat_lt) h
  refine ⟨?_, hrest⟩
  cases version
  cases version'
  exact congrArg Int64.ofUInt64 (UInt64.toNat_inj.mp hfield)

/-- **The additional data tells the context.** -/
theorem AADContext.build_injective {context context' : AADContext} (h : context.build = .ok aad)
    (h' : context'.build = .ok aad) : context = context' := by
  obtain ⟨-, hvalues, hspelled⟩ := AADContext.build_eq_ok.mp h
  obtain ⟨-, hvalues', hspelled'⟩ := AADContext.build_eq_ok.mp h'
  simp only [List.forall_mem_cons] at hvalues hvalues'
  obtain ⟨⟨-, -, hprincipal⟩, ⟨-, -, hdestination⟩, ⟨-, -, hkey⟩, -⟩ := hvalues
  obtain ⟨⟨-, -, hprincipal'⟩, ⟨-, -, hdestination'⟩, ⟨-, -, hkey'⟩, -⟩ := hvalues'
  -- read the two texts field by field
  have heq := List.append_cancel_left (hspelled.trans hspelled'.symm)
  obtain ⟨h₁, heq⟩ := versionField_append_inj (List.cons.inj heq).2
  obtain ⟨h₂, heq⟩ := List.cons.inj heq
  obtain ⟨h₃, heq⟩ := versionField_append_inj heq
  obtain ⟨h₄, heq⟩ := List.append_inj heq
    (context.deliveryIdentity.length_eq.trans context'.deliveryIdentity.length_eq.symm)
  obtain ⟨h₅, heq⟩ := lengthPrefixed_append_inj hprincipal hprincipal' heq
  obtain ⟨h₆, heq⟩ := lengthPrefixed_append_inj hdestination hdestination' heq
  obtain ⟨h₇, -⟩ := lengthPrefixed_append_inj hkey hkey' heq
  cases context
  cases context'
  simp only [AADContext.mk.injEq]
  exact ⟨h₁, h₂, h₃, Bytes.toList_injective h₄, h₅, h₆, h₇⟩

/-! ## Keys and seals -/

/-- `Key`. -/
structure Key where
  id : ByteString
  material : ByteString
deriving DecidableEq

/-- `Key.valid`. -/
def Key.Valid (key : Key) : Prop :=
  key.id ≠ [] ∧ validateAADString key.id = .ok () ∧ key.material.length = 32

instance Key.decidableValid (key : Key) : Decidable key.Valid :=
  inferInstanceAs (Decidable (key.id ≠ [] ∧ validateAADString key.id = .ok () ∧
    key.material.length = 32))

/-- The authenticated encryption, by key, nonce and additional data. -/
structure Aead where
  sealBytes (key nonce plaintext aad : ByteString) : ByteString
  openBytes (key nonce ciphertext aad : ByteString) : Option ByteString

/-- `sealProtected`; `newGCM` fails for a key that is not valid. -/
def sealProtected (aead : Aead) (key : Key) (nonce plaintext aad : ByteString) :
    Except Sentinel ProtectedValue := do
  .refuseIf (¬ key.Valid ∨ nonce.length ≠ gcmNonceSize) .errProtectionFailed
  (newProtectedValue (aead.sealBytes key.material nonce plaintext aad) nonce).relabel
    .errProtectionFailed

/-- `openProtected`. -/
def openProtected (aead : Aead) (key : Key) (value : ProtectedValue) (aad : ByteString) :
    Except Sentinel ByteString := do
  .refuseIf (¬ key.Valid) .errProtectionFailed
  .refuseIf (value.nonce.length ≠ gcmNonceSize) .errProtectionFailed
  match aead.openBytes key.material value.nonce value.ciphertext aad with
  | none => .error .errProtectionFailed
  | some plaintext => .ok plaintext

/-! ## The service -/

/-- What the acceptance of an event calls beside its database: the context, the source of
keys, the source of randomness and the generator of receipts. -/
inductive AcceptanceCall where
  | contextErr
  | activeKey
  | keyByID (id : ByteString)
  /-- `io.ReadFull` of so many bytes. -/
  | readRandom (size : Nat)
  | newReceiptID

/-- Their answers; of an error other than the context's only its presence is looked at. -/
def AcceptanceCall.Answer (ε : Type) : AcceptanceCall → Type
  | contextErr => Option ε
  | activeKey => Option Key
  | keyByID _ => Option Key
  | readRandom size => Option (Bytes size)
  | newReceiptID => Option ReceiptID

section
variable {ν S : Type} {A : S → Type}

/-- A program that makes such calls. -/
abbrev ProtectionProg (ν : Type) {S : Type} (A : S → Type) (α : Type) :=
  Session.Program (GoError ν) A (AcceptanceCall.Answer (GoError ν)) α

/-- `ctx.Err()`. -/
def acceptanceContextErr : ProtectionProg ν A (Option (GoError ν)) :=
  Session.ask AcceptanceCall.contextErr

/-- `ActiveKey`. -/
def activeKey : ProtectionProg ν A (Option Key) := Session.ask AcceptanceCall.activeKey

/-- `KeyByID`. -/
def keyByID (id : ByteString) : ProtectionProg ν A (Option Key) :=
  Session.ask (AcceptanceCall.keyByID id)

/-- A nonce. -/
def readNonce : ProtectionProg ν A (Option (Bytes gcmNonceSize)) :=
  Session.ask (AcceptanceCall.readRandom gcmNonceSize)

/-- `nonces`. -/
def nonces : ProtectionProg ν A (Option (Bytes gcmNonceSize × Bytes gcmNonceSize)) := do
  match ← readNonce with
  | none => return none
  | some eventNonce =>
    match ← readNonce with
    | none => return none
    | some digestNonce => return some (eventNonce, digestNonce)

end

/-- `validatePrepareInput`. -/
def validatePrepareInput (sum256 : Hash)
    (corePrincipalID destinationID : ByteString) (deliveryIdentity : DeliveryIdentity)
    (event : CanonicalEvent) : Except Sentinel Unit := do
  .refuseIf (corePrincipalID = [] ∨ destinationID = [] ∨ deliveryIdentity.IsZero ∨
    event.formatVersion ≤ 0 ∨ event.data = []) .errProtectionInvalid
  validateAADString corePrincipalID
  validateAADString destinationID
  .refuseIf (sum256 event.data ≠ event.digest) .errProtectionInvalid

/-- `Prepare`, once it has its key and its nonces. -/
def protect (aead : Aead) (corePrincipalID destinationID : ByteString)
    (deliveryIdentity : DeliveryIdentity) (event : CanonicalEvent) (key : Key)
    (eventNonce digestNonce : ByteString) : Except Sentinel PreparedAcceptance := do
  let eventAAD ← (buildAAD purposeEvent event.formatVersion deliveryIdentity corePrincipalID
    destinationID key.id).relabel .errProtectionInvalid
  let protectedEvent ← (sealProtected aead key eventNonce event.data eventAAD).relabel
    .errProtectionFailed
  let digestAAD ← (buildAAD purposeDigest event.formatVersion deliveryIdentity corePrincipalID
    destinationID key.id).relabel .errProtectionInvalid
  let protectedDigest ← (sealProtected aead key digestNonce event.digest.toList digestAAD).relabel
    .errProtectionFailed
  (newPreparedAcceptance {
    corePrincipalID := corePrincipalID
    destinationID := destinationID
    deliveryIdentity := deliveryIdentity
    formatVersion := event.formatVersion
    canonicalEvent := protectedEvent
    protectedDigest := protectedDigest
    encryptionKeyID := key.id
    equivalenceDigest := event.digest }).relabel .errProtectionFailed

/-- `validateDigestOpenRequest`. -/
def validateDigestOpenRequest (request : DigestOpenRequest) : Except Sentinel Unit := do
  .refuseIf (request.encryptionKeyID = [] ∨ request.corePrincipalID = [] ∨
    request.destinationID = [] ∨ request.deliveryIdentity.IsZero ∨ request.formatVersion ≤ 0 ∨
    request.protectedDigest.ciphertext = [] ∨
    request.protectedDigest.nonce.length ≠ gcmNonceSize) .errProtectionInvalid
  validateAADString request.encryptionKeyID
  validateAADString request.corePrincipalID
  validateAADString request.destinationID

/-- `OpenDigest`, once it has its key. -/
def unprotect (aead : Aead) (request : DigestOpenRequest) (key : Key) :
    Except Sentinel CanonicalDigest := do
  let aad ← (buildAAD purposeDigest request.formatVersion request.deliveryIdentity
    request.corePrincipalID request.destinationID request.encryptionKeyID).relabel
    .errProtectedDigestUnreadable
  let plaintext ← (openProtected aead key request.protectedDigest aad).relabel
    .errProtectedDigestUnreadable
  match Bytes.ofList? 32 plaintext with
  | none => .error .errProtectedDigestUnreadable
  | some digest => .ok digest

section
variable {ν S : Type} {A : S → Type}

/-- `Prepare`. -/
def prepare (aead : Aead) (sum256 : Hash)
    (corePrincipalID destinationID : ByteString) (deliveryIdentity : DeliveryIdentity)
    (event : CanonicalEvent) :
    ProtectionProg ν A (Except Sentinel PreparedAcceptance) := do
  let contextErr ← acceptanceContextErr
  if contextErr.isSome then return .error .errProtectionFailed
  else match validatePrepareInput sum256 corePrincipalID destinationID deliveryIdentity event with
    | .error _ => return .error .errProtectionInvalid
    | .ok _ =>
      match ← activeKey with
      | none => return .error .errProtectionKeyUnavailable
      | some key =>
        if ¬ key.Valid then return .error .errProtectionKeyUnavailable
        else
          let contextErr ← acceptanceContextErr
          if contextErr.isSome then return .error .errProtectionFailed
          else match ← nonces with
            | none => return .error .errProtectionRandom
            | some (eventNonce, digestNonce) =>
              if eventNonce = digestNonce then return .error .errProtectionRandom
              else
                let contextErr ← acceptanceContextErr
                if contextErr.isSome then return .error .errProtectionFailed
                else
                  return protect aead corePrincipalID destinationID deliveryIdentity event key
                    eventNonce.toList digestNonce.toList

/-- `OpenDigest`. -/
def openDigest (aead : Aead) (request : DigestOpenRequest) :
    ProtectionProg ν A (Except Sentinel CanonicalDigest) := do
  let contextErr ← acceptanceContextErr
  if contextErr.isSome then return .error .errProtectedDigestUnreadable
  else match validateDigestOpenRequest request with
    | .error _ => return .error .errProtectedDigestUnreadable
    | .ok _ =>
      match ← keyByID request.encryptionKeyID with
      | none => return .error .errProtectedDigestUnreadable
      | some key =>
        if ¬ key.Valid ∨ key.id ≠ request.encryptionKeyID then
          return .error .errProtectedDigestUnreadable
        else
          let contextErr ← acceptanceContextErr
          if contextErr.isSome then return .error .errProtectedDigestUnreadable
          else return unprotect aead request key

end

/-! ## What the service was answered

Both programs only ask, so that what they return is settled by the answers they were given. -/

/-- The context of additional data in the current format. -/
def protectionContext (purpose : UInt8) (canonicalFormatVersion : Int64)
    (deliveryIdentity : DeliveryIdentity) (corePrincipalID destinationID keyID : ByteString) :
    AADContext :=
  ⟨payloadProtectionFormatVersion, purpose, canonicalFormatVersion, deliveryIdentity,
    corePrincipalID, destinationID, keyID⟩

/-- The context of what `Prepare` has sealed. -/
def PreparedAcceptance.context (prepared : PreparedAcceptance) (purpose : UInt8) : AADContext :=
  protectionContext purpose prepared.formatVersion prepared.deliveryIdentity
    prepared.corePrincipalID prepared.destinationID prepared.encryptionKeyID

/-- The context in which `OpenDigest` opens. -/
def DigestOpenRequest.context (request : DigestOpenRequest) : AADContext :=
  protectionContext purposeDigest request.formatVersion request.deliveryIdentity
    request.corePrincipalID request.destinationID request.encryptionKeyID

theorem buildAAD_eq_ok {purpose : UInt8} {canonicalFormatVersion : Int64} {keyID : ByteString} :
    buildAAD purpose canonicalFormatVersion deliveryIdentity corePrincipalID destinationID keyID =
        .ok aad ↔
      ∃ context, context = protectionContext purpose canonicalFormatVersion deliveryIdentity
        corePrincipalID destinationID keyID ∧ context.build = .ok context.spelled ∧
        context.spelled = aad := by
  have hbuild : buildAAD purpose canonicalFormatVersion deliveryIdentity corePrincipalID
      destinationID keyID = (protectionContext purpose canonicalFormatVersion deliveryIdentity
        corePrincipalID destinationID keyID).build := rfl
  rw [hbuild]
  constructor
  · intro h
    have hspelled := (AADContext.build_eq_ok.mp h).2.2
    exact ⟨_, rfl, by rw [hspelled, h], hspelled⟩
  · rintro ⟨_, rfl, h, rfl⟩
    exact h

/-- The value is the seal of the plaintext, with a nonce of the right size. -/
structure ProtectedValue.Seals (value : ProtectedValue) (aead : Aead) (key : Key)
    (plaintext : ByteString) (context : AADContext) : Prop where
  built : context.build = .ok context.spelled
  nonceSize : value.nonce.length = gcmNonceSize
  text : aead.sealBytes key.material value.nonce plaintext context.spelled = value.ciphertext

/-- What `Prepare` has made of its arguments with the key. -/
structure PreparedAcceptance.Of (prepared : PreparedAcceptance) (aead : Aead)
    (sum256 : Hash) (corePrincipalID destinationID : ByteString)
    (deliveryIdentity : DeliveryIdentity) (event : CanonicalEvent) (key : Key) : Prop where
  keyValid : key.Valid
  valid : prepared.validate = .ok ()
  principal : prepared.corePrincipalID = corePrincipalID
  destination : prepared.destinationID = destinationID
  identity : prepared.deliveryIdentity = deliveryIdentity
  version : prepared.formatVersion = event.formatVersion
  keyID : prepared.encryptionKeyID = key.id
  equivalence : prepared.equivalenceDigest = sum256 event.data
  sealedEvent : prepared.canonicalEvent.Seals aead key event.data (prepared.context purposeEvent)
  sealedDigest : prepared.protectedDigest.Seals aead key (sum256 event.data).toList
    (prepared.context purposeDigest)

theorem newProtectedValue_eq_ok {ciphertext nonce : ByteString} :
    newProtectedValue ciphertext nonce = .ok value ↔
      (ciphertext ≠ [] ∧ nonce ≠ []) ∧ ⟨ciphertext, nonce⟩ = value := by
  unfold newProtectedValue
  split
  · rename_i h
    rw [← not_or]
    simp [h]
  · rename_i h
    rw [← not_or]
    simp [h]

variable {aead : Aead} {key : Key}

theorem sealProtected_eq_ok {nonce : ByteString} :
    sealProtected aead key nonce plaintext aad = .ok value ↔
      (key.Valid ∧ nonce.length = gcmNonceSize) ∧
      (aead.sealBytes key.material nonce plaintext aad ≠ [] ∧ nonce ≠ []) ∧
      ⟨aead.sealBytes key.material nonce plaintext aad, nonce⟩ = value := by
  simp only [sealProtected, Except.bind_eq_ok, Except.refuseIf_eq_ok, Except.relabel_eq_ok,
    newProtectedValue_eq_ok, exists_const, not_or, not_not]

theorem openProtected_eq_ok :
    openProtected aead key value aad = .ok plaintext ↔
      key.Valid ∧ value.nonce.length = gcmNonceSize ∧
      aead.openBytes key.material value.nonce value.ciphertext aad = some plaintext := by
  simp only [openProtected, Except.bind_eq_ok, Except.refuseIf_eq_ok, exists_const, not_not]
  refine and_congr_right fun _ => and_congr_right fun _ => ?_
  split <;> simp_all

theorem newPreparedAcceptance_eq_ok {acceptance : PreparedAcceptance} :
    newPreparedAcceptance acceptance = .ok prepared ↔
      acceptance.validate = .ok () ∧ acceptance = prepared := by
  simp only [newPreparedAcceptance, Except.bind_eq_ok, Except.pure_eq_ok]
  constructor
  · rintro ⟨_, h⟩
    exact h
  · exact fun h => ⟨(), h⟩

variable {event : CanonicalEvent}

/-- The digest of an event that `Prepare` goes on with is that of its bytes. -/
theorem digest_of_validatePrepareInput {sum256 : Hash}
    (h : validatePrepareInput sum256 corePrincipalID destinationID deliveryIdentity event = .ok u) :
    sum256 event.data = event.digest := by
  simp only [validatePrepareInput, Except.bind_eq_ok, Except.refuseIf_eq_ok, not_not] at h
  obtain ⟨-, -, -, -, -, -, h⟩ := h
  exact h

theorem protect_eq_ok {sum256 : Hash} {eventNonce digestNonce : ByteString}
    (hdigest : sum256 event.data = event.digest)
    (h : protect aead corePrincipalID destinationID deliveryIdentity event key eventNonce
      digestNonce = .ok prepared) :
    prepared.Of aead sum256 corePrincipalID destinationID deliveryIdentity event key := by
  simp only [protect, Except.bind_eq_ok, Except.relabel_eq_ok, sealProtected_eq_ok,
    newPreparedAcceptance_eq_ok, buildAAD_eq_ok] at h
  obtain ⟨_, ⟨eventContext, heventContext, heventBuilt, rfl⟩, _,
    ⟨⟨hkey, heventNonce⟩, -, rfl⟩, _, ⟨digestContext, hdigestContext, hdigestBuilt, rfl⟩, _,
    ⟨⟨-, hdigestNonce⟩, -, rfl⟩, hvalid, rfl⟩ := h
  have hdigestText := congrArg (fun digest => aead.sealBytes key.material digestNonce
    (Bytes.toList digest) digestContext.spelled) hdigest
  subst heventContext hdigestContext
  exact {
    keyValid := hkey
    valid := hvalid
    principal := rfl
    destination := rfl
    identity := rfl
    version := rfl
    keyID := rfl
    equivalence := hdigest.symm
    sealedEvent := ⟨heventBuilt, heventNonce, rfl⟩
    sealedDigest := ⟨hdigestBuilt, hdigestNonce, hdigestText⟩ }

theorem unprotect_eq_ok :
    unprotect aead request key = .ok digest ↔
      request.context.build = .ok request.context.spelled ∧ key.Valid ∧
      request.protectedDigest.nonce.length = gcmNonceSize ∧
      aead.openBytes key.material request.protectedDigest.nonce request.protectedDigest.ciphertext
        request.context.spelled = some digest.toList := by
  simp only [unprotect, Except.bind_eq_ok, Except.relabel_eq_ok, buildAAD_eq_ok,
    openProtected_eq_ok]
  constructor
  · rintro ⟨_, ⟨context, rfl, hbuilt, rfl⟩, plaintext, ⟨hkey, hnonce, hopen⟩, hsize⟩
    split at hsize
    · cases hsize
    · rename_i digest' hdigest'
      cases hsize
      rw [← Bytes.toList_of_ofList? hdigest'] at hopen
      exact ⟨hbuilt, hkey, hnonce, hopen⟩
  · rintro ⟨hbuilt, hkey, hnonce, hopen⟩
    refine ⟨_, ⟨_, rfl, hbuilt, rfl⟩, digest.toList, ⟨hkey, hnonce, hopen⟩, ?_⟩
    rw [Bytes.ofList?_toList]

/-- Whatever fails, a digest is unreadable. -/
theorem unprotect_failsWith (aead : Aead) (request : DigestOpenRequest) (key : Key) :
    Except.FailsWith .errProtectedDigestUnreadable (unprotect aead request key) := by
  refine (Except.failsWith_relabel _ _).bind fun aad => ?_
  refine (Except.failsWith_relabel _ _).bind fun plaintext => ?_
  split
  · exact Except.failsWith_error _
  · exact Except.failsWith_ok _ _

section
variable {ν S : Type} {A : S → Type}
  {record : List (Sigma (AcceptanceCall.Answer (GoError ν)))}

/-- The rules of the calls: any answer, which is recorded. -/
theorem wp_acceptanceContextErr {Q : Option (GoError ν) → _ → Prop} :
    (acceptanceContextErr : ProtectionProg ν A _).wp Session.asking Q record ↔
      ∀ r : Option (GoError ν), Q r (record ++ [⟨.contextErr, r⟩]) :=
  Session.wp_ask_asking

variable {Q : Option Key → _ → Prop}

@[inherit_doc wp_acceptanceContextErr]
theorem wp_activeKey :
    (activeKey : ProtectionProg ν A _).wp Session.asking Q record ↔
      ∀ r : Option Key, Q r (record ++ [⟨.activeKey, r⟩]) :=
  Session.wp_ask_asking

@[inherit_doc wp_acceptanceContextErr]
theorem wp_keyByID {id : ByteString} :
    (keyByID id : ProtectionProg ν A _).wp Session.asking Q record ↔
      ∀ r : Option Key, Q r (record ++ [⟨.keyByID id, r⟩]) :=
  Session.wp_ask_asking

@[inherit_doc wp_acceptanceContextErr]
theorem wp_readNonce {Q : Option (Bytes gcmNonceSize) → _ → Prop} :
    (readNonce : ProtectionProg ν A _).wp Session.asking Q record ↔
      ∀ r : Option (Bytes gcmNonceSize), Q r (record ++ [⟨.readRandom gcmNonceSize, r⟩]) :=
  Session.wp_ask_asking

/-- What `Prepare` returns: an error, or what it has made with the active key. -/
theorem prepare_answered (aead : Aead) (sum256 : Hash)
    (corePrincipalID destinationID : ByteString) (deliveryIdentity : DeliveryIdentity)
    (event : CanonicalEvent) :
    (prepare aead sum256 corePrincipalID destinationID deliveryIdentity event :
        ProtectionProg ν A _).wp Session.asking
      (fun r record => ∀ prepared, r = .ok prepared →
        ∃ key, ⟨.activeKey, some key⟩ ∈ record ∧ prepared.Of aead sum256 corePrincipalID
          destinationID deliveryIdentity event key) [] := by
  rw [prepare, Prog.wp_bind, wp_acceptanceContextErr]
  intro contextErr
  split
  · exact fun _ h => nomatch h
  · split
    · exact fun _ h => nomatch h
    · rename_i hvalid
      rw [Prog.wp_bind, wp_activeKey]
      rintro (_ | key)
      · exact fun _ h => nomatch h
      · dsimp only
        split
        · exact fun _ h => nomatch h
        · rw [Prog.wp_bind, wp_acceptanceContextErr]
          intro contextErr
          split
          · exact fun _ h => nomatch h
          · rw [Prog.wp_bind, nonces, Prog.wp_bind, wp_readNonce]
            rintro (_ | eventNonce)
            · exact fun _ h => nomatch h
            · dsimp only
              rw [Prog.wp_bind, wp_readNonce]
              rintro (_ | digestNonce)
              · exact fun _ h => nomatch h
              · show Prog.wp _ (ite _ _ _) _ _
                split
                · exact fun _ h => nomatch h
                · rw [Prog.wp_bind, wp_acceptanceContextErr]
                  intro contextErr
                  split
                  · exact fun _ h => nomatch h
                  · intro prepared h
                    refine ⟨key, by simp, ?_⟩
                    exact protect_eq_ok (digest_of_validatePrepareInput hvalid) h

/-- What `OpenDigest` returns: the error, for a reason that shows in the answers, or what it
opens with the key it was answered. -/
def OpenDigestAnswered (aead : Aead) (request : DigestOpenRequest)
    (r : Except Sentinel CanonicalDigest)
    (record : List (Sigma (AcceptanceCall.Answer (GoError ν)))) : Prop :=
  (r = .error .errProtectedDigestUnreadable ∧
    ((∃ e, ⟨.contextErr, some e⟩ ∈ record) ∨
      (∀ u, validateDigestOpenRequest request ≠ .ok u) ∨
      ⟨.keyByID request.encryptionKeyID, none⟩ ∈ record ∨
      ∃ key, ⟨.keyByID request.encryptionKeyID, some key⟩ ∈ record ∧
        (¬ key.Valid ∨ key.id ≠ request.encryptionKeyID))) ∨
  ∃ key, ⟨.keyByID request.encryptionKeyID, some key⟩ ∈ record ∧ key.Valid ∧
    key.id = request.encryptionKeyID ∧ r = unprotect aead request key

theorem openDigest_answered (aead : Aead) (request : DigestOpenRequest) :
    (openDigest aead request : ProtectionProg ν A _).wp Session.asking
      (OpenDigestAnswered aead request) [] := by
  rw [openDigest, Prog.wp_bind, wp_acceptanceContextErr]
  intro contextErr
  split
  · rename_i h
    obtain ⟨e, rfl⟩ := Option.isSome_iff_exists.mp h
    exact .inl ⟨rfl, .inl ⟨e, by simp⟩⟩
  · split
    · rename_i e hinvalid
      exact .inl ⟨rfl, .inr (.inl fun u hu => nomatch hinvalid.symm.trans hu)⟩
    · rw [Prog.wp_bind, wp_keyByID]
      rintro (_ | key)
      · exact .inl ⟨rfl, .inr (.inr (.inl (by simp)))⟩
      · dsimp only
        split
        · rename_i hkey
          exact .inl ⟨rfl, .inr (.inr (.inr ⟨key, by simp, hkey⟩))⟩
        · rename_i hkey
          obtain ⟨hvalid, hid⟩ := not_or.mp hkey
          rw [Prog.wp_bind, wp_acceptanceContextErr]
          intro contextErr
          split
          · rename_i h
            obtain ⟨e, rfl⟩ := Option.isSome_iff_exists.mp h
            exact .inl ⟨rfl, .inl ⟨e, by simp⟩⟩
          · exact .inr ⟨key, by simp, not_not.mp hvalid, not_not.mp hid, rfl⟩

end

/-! ## Opening in context -/

/-- A call of `Seal`. -/
structure Sealing where
  key : ByteString
  nonce : ByteString
  plaintext : ByteString
  aad : ByteString
deriving DecidableEq

/-- What it returned. -/
def Sealing.ciphertext (sealing : Sealing) (aead : Aead) : ByteString :=
  aead.sealBytes sealing.key sealing.nonce sealing.plaintext sealing.aad

/-- `Open` succeeds with a plaintext exactly when key, nonce, ciphertext and additional data are
those of a `Seal` of it that was made, and no two of these share nonce and ciphertext. -/
structure Aead.Ideal (aead : Aead) (Made : Sealing → Prop) : Prop where
  opens : ∀ sealing ciphertext,
    aead.openBytes sealing.key sealing.nonce ciphertext sealing.aad = some sealing.plaintext ↔
      Made sealing ∧ sealing.ciphertext aead = ciphertext
  apart : ∀ x y, Made x → Made y → x.nonce = y.nonce → x.ciphertext aead = y.ciphertext aead → x = y

/-- What was sealed opens as itself only. -/
theorem Aead.Ideal.eq_of_open {Made : Sealing → Prop} (h : aead.Ideal Made) {x : Sealing}
    (hx : Made x) {key : ByteString}
    (hopen : aead.openBytes key x.nonce (x.ciphertext aead) aad = some plaintext) :
    x = ⟨key, x.nonce, plaintext, aad⟩ := by
  obtain ⟨hmade, htext⟩ := (h.opens ⟨key, x.nonce, plaintext, aad⟩ (x.ciphertext aead)).mp hopen
  exact h.apart _ _ hx hmade rfl htext.symm

/-- The two calls of `Seal` that `Prepare` has made. -/
def PreparedAcceptance.eventSealing (prepared : PreparedAcceptance) (event : CanonicalEvent)
    (key : Key) : Sealing where
  key := key.material
  nonce := prepared.canonicalEvent.nonce
  plaintext := event.data
  aad := (prepared.context purposeEvent).spelled

@[inherit_doc PreparedAcceptance.eventSealing]
def PreparedAcceptance.digestSealing (prepared : PreparedAcceptance) (key : Key) : Sealing where
  key := key.material
  nonce := prepared.protectedDigest.nonce
  plaintext := prepared.equivalenceDigest.toList
  aad := (prepared.context purposeDigest).spelled

/-- The request to open the digest with the values it is bound to. -/
def PreparedAcceptance.openRequest (prepared : PreparedAcceptance) : DigestOpenRequest where
  protectedDigest := prepared.protectedDigest
  encryptionKeyID := prepared.encryptionKeyID
  corePrincipalID := prepared.corePrincipalID
  destinationID := prepared.destinationID
  deliveryIdentity := prepared.deliveryIdentity
  formatVersion := prepared.formatVersion

theorem validateDigestOpenRequest_eq_ok (hbuilt : request.context.build = .ok aad)
    (htext : request.protectedDigest.ciphertext ≠ [])
    (hnonce : request.protectedDigest.nonce.length = gcmNonceSize) :
    validateDigestOpenRequest request = .ok u := by
  obtain ⟨⟨-, hversion, hidentity, -⟩, hvalues, -⟩ := AADContext.build_eq_ok.mp hbuilt
  simp only [List.forall_mem_cons] at hvalues
  obtain ⟨⟨hprincipal, hprincipal'⟩, ⟨hdestination, hdestination'⟩, ⟨hkey, hkey'⟩, -⟩ := hvalues
  simp only [validateDigestOpenRequest, Except.bind_eq_ok, Except.refuseIf_eq_ok,
    validateAADString_eq_ok, exists_const, not_or, not_not, Int64.not_le]
  exact ⟨⟨hkey, hprincipal, hdestination, hidentity, hversion, htext, hnonce⟩, hkey', hprincipal',
    hdestination'⟩

/-- Equal contexts are those of one request, but for what is to be opened. -/
theorem PreparedAcceptance.openRequest_of_context
    (h : prepared.context purposeDigest = request.context)
    (hdigest : request.protectedDigest = prepared.protectedDigest) :
    request = prepared.openRequest := by
  cases request
  injection h with _ _ hversion hidentity hprincipal hdestination hkey
  simp only [PreparedAcceptance.openRequest, DigestOpenRequest.mk.injEq]
  exact ⟨hdigest, hkey.symm, hprincipal.symm, hdestination.symm, hidentity.symm, hversion.symm⟩

namespace PreparedAcceptance.Of
variable {sum256 : Hash} {Made : Sealing → Prop}

section
variable (h : prepared.Of aead sum256 corePrincipalID destinationID deliveryIdentity event key)
include h

/-- The digest opens with its own key and context. -/
theorem unprotect_eq (hideal : aead.Ideal Made) (hmade : Made (prepared.digestSealing key)) :
    unprotect aead prepared.openRequest key = .ok (sum256 event.data) := by
  obtain ⟨hbuilt, hnonce, htext⟩ := h.sealedDigest
  refine unprotect_eq_ok.mpr ⟨hbuilt, h.keyValid, hnonce, ?_⟩
  rw [← h.equivalence] at htext ⊢
  exact (hideal.opens (prepared.digestSealing key) _).mpr ⟨hmade, htext⟩

/-- The request with the bound values is well formed. -/
theorem validateDigestOpenRequest_openRequest :
    validateDigestOpenRequest prepared.openRequest = .ok () := by
  have hbuilt : prepared.openRequest.context.build =
      .ok (prepared.context purposeDigest).spelled := h.sealedDigest.built
  have hvalid := h.valid
  rw [PreparedAcceptance.validate, Except.refuseIf_eq_ok] at hvalid
  simp only [not_or, not_not] at hvalid
  obtain ⟨-, -, -, -, -, ⟨htext, -⟩, -⟩ := hvalid
  exact validateDigestOpenRequest_eq_ok hbuilt htext h.sealedDigest.nonceSize

/-- The digest opens in no other context. -/
theorem openRequest_of_unprotect (hideal : aead.Ideal Made)
    (hmade : Made (prepared.digestSealing key))
    (hvalue : request.protectedDigest = prepared.protectedDigest) {key' : Key}
    (hopen : unprotect aead request key' = .ok digest) :
    request = prepared.openRequest := by
  obtain ⟨hbuilt, -, -, hopens⟩ := unprotect_eq_ok.mp hopen
  have htext := h.sealedDigest.text
  rw [← h.equivalence] at htext
  rw [hvalue, ← htext] at hopens
  have haad := congrArg Sealing.aad (hideal.eq_of_open hmade hopens)
  have hown := h.sealedDigest.built
  rw [show (prepared.context purposeDigest).spelled = request.context.spelled from haad] at hown
  exact openRequest_of_context (AADContext.build_injective hown hbuilt) hvalue

/-- The protected event opens as a digest in no context. -/
theorem unprotect_event_ne_ok (hideal : aead.Ideal Made)
    (hmade : Made (prepared.eventSealing event key))
    (hvalue : request.protectedDigest = prepared.canonicalEvent) {key' : Key} :
    unprotect aead request key' ≠ .ok digest := by
  intro hopen
  obtain ⟨hbuilt, -, -, hopens⟩ := unprotect_eq_ok.mp hopen
  rw [hvalue, ← h.sealedEvent.text] at hopens
  have haad := congrArg Sealing.aad (hideal.eq_of_open hmade hopens)
  have hown := h.sealedEvent.built
  rw [show (prepared.context purposeEvent).spelled = request.context.spelled from haad] at hown
  have hpurpose := congrArg AADContext.purpose (AADContext.build_injective hown hbuilt)
  exact absurd (show purposeEvent = purposeDigest from hpurpose) (by decide)

end

end PreparedAcceptance.Of

/-- The encryption that has made these calls of `Seal`: it opens what they returned. -/
def Aead.recorded (made : List Sealing) : Aead where
  sealBytes _ _ plaintext _ := 0 :: plaintext
  openBytes key nonce ciphertext aad :=
    (made.find? fun x => x.key = key ∧ x.nonce = nonce ∧ x.aad = aad ∧
      0 :: x.plaintext = ciphertext).map Sealing.plaintext

/-- No nonce used twice makes it ideal. -/
theorem Aead.recorded_ideal {made : List Sealing}
    (h : ∀ x ∈ made, ∀ y ∈ made, x.nonce = y.nonce → x = y) :
    (Aead.recorded made).Ideal (· ∈ made) where
  opens := by
    rintro ⟨key, nonce, plaintext, aad⟩ ciphertext
    simp only [Aead.recorded, Sealing.ciphertext, Option.map_eq_some_iff]
    constructor
    · rintro ⟨x, hx, rfl⟩
      have hfound := List.find?_some hx
      simp only [decide_eq_true_eq] at hfound
      obtain ⟨rfl, rfl, rfl, htext⟩ := hfound
      exact ⟨List.mem_of_find?_eq_some hx, htext⟩
    · rintro ⟨hmem, rfl⟩
      obtain ⟨x, hx⟩ := Option.isSome_iff_exists.mp (List.find?_isSome (p := fun x : Sealing =>
        x.key = key ∧ x.nonce = nonce ∧ x.aad = aad ∧ 0 :: x.plaintext = 0 :: plaintext)
        |>.mpr ⟨_, hmem, by simp⟩)
      have hfound := List.find?_some hx
      simp only [decide_eq_true_eq] at hfound
      have hsame := h x (List.mem_of_find?_eq_some hx) _ hmem hfound.2.1
      exact ⟨x, hx, by rw [hsame]⟩
  apart x y hx hy hnonce _ := h x hx y hy hnonce

/-- A key, an event and the values it is prepared with. -/
def sampleKey : Key := ⟨.ascii "k1", List.replicate 32 7⟩

@[inherit_doc sampleKey]
def sampleCanonicalEvent : CanonicalEvent := ⟨1, .ascii "event", Bytes.zero 32⟩

@[inherit_doc sampleKey]
def sampleIdentity : DeliveryIdentity := ⟨List.replicate 16 5, rfl⟩

@[inherit_doc sampleKey]
def samplePrepared : PreparedAcceptance where
  corePrincipalID := .ascii "core"
  destinationID := .ascii "team"
  deliveryIdentity := sampleIdentity
  formatVersion := 1
  canonicalEvent := ⟨0 :: ByteString.ascii "event", List.replicate 12 0⟩
  protectedDigest := ⟨0 :: List.replicate 32 0, List.replicate 12 1⟩
  encryptionKeyID := .ascii "k1"
  equivalenceDigest := Bytes.zero 32

@[inherit_doc sampleKey]
def sampleAead : Aead :=
  .recorded [samplePrepared.eventSealing sampleCanonicalEvent sampleKey,
    samplePrepared.digestSealing sampleKey]

/-- No failures; every answer is the one key, and the nonces are numbered. -/
def sampleProtectionAnswer (n : Nat) : (e : Session.Request Unit AcceptanceCall) →
    Session.Reply (GoError Empty) (fun _ => Unit) (AcceptanceCall.Answer (GoError Empty)) e × Nat
  | .outside .contextErr => (none, n)
  | .outside .activeKey => (some sampleKey, n)
  | .outside (.keyByID _) => (some sampleKey, n)
  | .outside (.readRandom size) =>
    (some (.fill size (UInt8.ofNat n)), n + 1)
  | .outside .newReceiptID => (none, n)
  | .db .acquire => (.absent, n)
  | .db (.begin _) => (.absent, n)
  | .db (.send _) => ((), n)
  | .db .commit => (none, n)
  | .db .rollback => (none, n)
  | .db .release => ((), n)
  | .db .destroy => ((), n)

/-- Preparing the event, and opening its digest for some destination. -/
def samplePrepare :
    ProtectionProg Empty (fun _ : Unit => Unit) (Except Sentinel PreparedAcceptance) :=
  prepare sampleAead (fun _ => Bytes.zero 32) (.ascii "core") (.ascii "team") sampleIdentity
    sampleCanonicalEvent

@[inherit_doc samplePrepare]
def sampleOpen (destinationID : ByteString) :
    ProtectionProg Empty (fun _ : Unit => Unit) (Except Sentinel CanonicalDigest) :=
  openDigest sampleAead { samplePrepared.openRequest with destinationID := destinationID }

theorem samplePrepare_traces : samplePrepare.Traces (fun _ _ _ _ => True) 0
    (samplePrepare.evalTrace sampleProtectionAnswer 0).1 (.ok samplePrepared) 2 := by
  have hend : (samplePrepare.evalTrace sampleProtectionAnswer 0).2 =
      (.ok (.ok samplePrepared), 2) := by decide +kernel
  have h := @Prog.evalTrace_traces _ _ _ _ (fun _ _ _ _ => True) sampleProtectionAnswer
    (fun _ _ => trivial) samplePrepare 0 _ (congrArg Prod.fst hend)
  rwa [hend] at h

end OncallGateway
