import OncallGateway.ConstraintAgreement

/-! # The tables of principals and credentials

The realm, the principals, their credential slots and the credentials, with the constraints
of the schema: a state that breaks one of them cannot be built.  A credential is read with
its slot and its principal by a join, as texts and columns that may be null, and checked
again (`CredentialRecord.credential`).

What is read of a table is what the table holds (`SecurityTables.credential_sound`), and what
a table holds can be read, for the audience it belongs to, unless one of its times is Go's
zero time (`SecurityTables.credential_complete`).
-/

namespace OncallGateway

/-! ## Values -/

/-- `ParseCorePrincipalID`. -/
def parseCorePrincipalID (value : ByteString) : Except Sentinel CorePrincipalID :=
  parseUUID value false

/-- `ParseCredentialSlotID`. -/
def parseCredentialSlotID (value : ByteString) : Except Sentinel CredentialSlotID :=
  parseUUID value false

/-- `ParseCredentialRecordID`. -/
def parseCredentialRecordID (value : ByteString) : Except Sentinel CredentialRecordID :=
  parseUUID value false

/-- `NewPrincipal`. -/
def newPrincipal (audienceID : GatewayAudienceID) (id : CorePrincipalID)
    (enabled intakeAuthorized : Bool) (createdAt stateChangedAt : Time) :
    Except Sentinel Principal := do
  .refuseIf (audienceID.IsZero ∨ id.IsZero ∨ createdAt = 0 ∨ stateChangedAt < createdAt)
    .errInvalidState
  return ⟨audienceID, id, enabled, intakeAuthorized⟩

/-- `NewCredentialSlot`. -/
def newCredentialSlot (audienceID : GatewayAudienceID) (principal : Principal)
    (id : CredentialSlotID) (createdAt : Time) : Except Sentinel CredentialSlot :=
  if audienceID.IsZero ∨ principal.audienceID ≠ audienceID ∨ principal.id.IsZero ∨ id.IsZero ∨
      createdAt = 0 then
    if ¬ audienceID.IsZero ∧ ¬ principal.audienceID.IsZero ∧
        principal.audienceID ≠ audienceID then
      .error .errAudienceMismatch
    else
      .error .errInvalidState
  else
    .ok ⟨audienceID, principal.id, id⟩

/-- What the service reads of a specification. -/
def CredentialSpec.credential (spec : CredentialSpec) : Credential where
  audienceID := spec.audienceID
  principalID := spec.principal.id
  slotID := spec.slot.id
  recordID := spec.recordID
  publicID := spec.publicID
  state := spec.state
  notBefore := spec.notBefore
  expiresAt := spec.expiresAt
  activatedAt := spec.activatedAt
  retirementDeadline := spec.retirementDeadline

/-- `NewCredential`. -/
def newCredential (spec : CredentialSpec) : Except Sentinel Credential := do
  validateCredentialSpec spec
  return spec.credential

/-! ## Records -/

/-- What `selectBoundAudienceSQL` returns. -/
structure BoundAudienceRecord where
  count : Nat
  audienceText : ByteString
  singleton : Bool
deriving DecidableEq

/-- `credentialRecord`. -/
structure CredentialRecord where
  count : Nat
  audienceMatches : Bool
  recordText : ByteString
  publicText : ByteString
  credentialSlotText : ByteString
  credentialAudienceText : ByteString
  credentialPrincipalText : ByteString
  stateText : String
  notBefore : Time
  expiresAt : Time
  activatedAt : Timestamptz
  retirementStartedAt : Timestamptz
  retirementDeadline : Timestamptz
  revokedAt : Timestamptz
  createdAt : Time
  stateChangedAt : Time
  slotText : Option ByteString
  slotAudienceText : Option ByteString
  slotPrincipalText : Option ByteString
  slotCreatedAt : Timestamptz
  principalText : Option ByteString
  principalAudienceText : Option ByteString
  principalEnabled : Option Bool
  principalIntakeAuthorized : Option Bool
  principalCreatedAt : Timestamptz
  principalStateChangedAt : Timestamptz
deriving DecidableEq

/-- What `selectPrincipalSQL` returns. -/
structure PrincipalRecord where
  count : Nat
  principalText : ByteString
  audienceText : ByteString
  enabled : Bool
  intakeAuthorized : Bool
  createdAt : Time
  stateChangedAt : Time
deriving DecidableEq

/-- `BoundAudience` once the record is read. -/
def BoundAudienceRecord.audience (record : BoundAudienceRecord) : Option GatewayAudienceID :=
  if record.count ≠ 1 ∨ record.singleton = false then none
  else
    match parseGatewayAudienceID record.audienceText with
    | .error _ => none
    | .ok audience =>
      if audience.IsZero ∨ formatUUID audience ≠ record.audienceText then none else some audience

/-- `credentialRecord.credential`. -/
def CredentialRecord.credential (record : CredentialRecord)
    (expectedAudience : GatewayAudienceID) (expectedPublicID : CredentialID) :
    Except Sentinel Credential := do
  .refuseIf (record.count ≠ 1 ∨ record.audienceMatches = false ∨ record.slotText.isNone ∨
    record.slotAudienceText.isNone ∨ record.slotPrincipalText.isNone ∨
    ¬ FiniteTimestamp record.slotCreatedAt ∨ record.principalText.isNone ∨
    record.principalAudienceText.isNone ∨ record.principalEnabled.isNone ∨
    record.principalIntakeAuthorized.isNone ∨ ¬ FiniteTimestamp record.principalCreatedAt ∨
    ¬ FiniteTimestamp record.principalStateChangedAt) .errAuthenticationStateIntegrity
  let recordID ← (parseCredentialRecordID record.recordText).relabel
    .errAuthenticationStateIntegrity
  let publicID ← (parseCredentialID record.publicText).relabel .errAuthenticationStateIntegrity
  let credentialSlotID ← (parseCredentialSlotID record.credentialSlotText).relabel
    .errAuthenticationStateIntegrity
  let credentialAudience ← (parseGatewayAudienceID record.credentialAudienceText).relabel
    .errAuthenticationStateIntegrity
  let credentialPrincipalID ← (parseCorePrincipalID record.credentialPrincipalText).relabel
    .errAuthenticationStateIntegrity
  let slotID ← (parseCredentialSlotID (record.slotText.getD [])).relabel
    .errAuthenticationStateIntegrity
  let slotAudience ← (parseGatewayAudienceID (record.slotAudienceText.getD [])).relabel
    .errAuthenticationStateIntegrity
  let slotPrincipalID ← (parseCorePrincipalID (record.slotPrincipalText.getD [])).relabel
    .errAuthenticationStateIntegrity
  let principalID ← (parseCorePrincipalID (record.principalText.getD [])).relabel
    .errAuthenticationStateIntegrity
  let principalAudience ← (parseGatewayAudienceID (record.principalAudienceText.getD [])).relabel
    .errAuthenticationStateIntegrity
  .refuseIf (publicID ≠ expectedPublicID ∨ credentialAudience ≠ expectedAudience ∨
    credentialSlotID ≠ slotID ∨ credentialPrincipalID ≠ slotPrincipalID ∨
    credentialPrincipalID ≠ principalID ∨ slotAudience ≠ credentialAudience ∨
    principalAudience ≠ credentialAudience) .errAuthenticationStateIntegrity
  let principal ← (newPrincipal principalAudience principalID
    (record.principalEnabled.getD false) (record.principalIntakeAuthorized.getD false)
    record.principalCreatedAt.time record.principalStateChangedAt.time).relabel
    .errAuthenticationStateIntegrity
  let slot ← (newCredentialSlot slotAudience principal slotID record.slotCreatedAt.time).relabel
    .errAuthenticationStateIntegrity
  let state ← (credentialState record.stateText).relabel .errAuthenticationStateIntegrity
  let activatedAt ← (optionalFiniteTime record.activatedAt).relabel
    .errAuthenticationStateIntegrity
  let retirementStartedAt ← (optionalFiniteTime record.retirementStartedAt).relabel
    .errAuthenticationStateIntegrity
  let retirementDeadline ← (optionalFiniteTime record.retirementDeadline).relabel
    .errAuthenticationStateIntegrity
  let revokedAt ← (optionalFiniteTime record.revokedAt).relabel .errAuthenticationStateIntegrity
  newCredential {
    audienceID := credentialAudience
    principal := principal
    slot := slot
    recordID := recordID
    publicID := publicID
    state := state
    notBefore := record.notBefore
    expiresAt := record.expiresAt
    activatedAt := activatedAt
    retirementStartedAt := retirementStartedAt
    retirementDeadline := retirementDeadline
    revokedAt := revokedAt
    createdAt := record.createdAt
    stateChangedAt := record.stateChangedAt }

/-- `Principal` once the record is read. -/
def PrincipalRecord.principal (record : PrincipalRecord) (expectedAudience : GatewayAudienceID)
    (expectedPrincipalID : CorePrincipalID) : Except Sentinel Principal := do
  let principalID ← (parseCorePrincipalID record.principalText).relabel
    .errAuthenticationStateIntegrity
  let audience ← (parseGatewayAudienceID record.audienceText).relabel
    .errAuthenticationStateIntegrity
  .refuseIf (record.count ≠ 1 ∨ principalID ≠ expectedPrincipalID ∨ audience ≠ expectedAudience)
    .errAuthenticationStateIntegrity
  (newPrincipal audience principalID record.enabled record.intakeAuthorized record.createdAt
    record.stateChangedAt).relabel .errAuthenticationStateIntegrity

/-! ## Tables -/

/-- A row of `gateway_security_realm`. -/
structure RealmRow where
  singletonKey : Bool
  gatewayAudienceID : GatewayAudienceID
  singleton : singletonKey = true
  nonzero : ¬ gatewayAudienceID.IsZero

/-- A row of `core_principals`. -/
structure PrincipalRow where
  corePrincipalID : CorePrincipalID
  gatewayAudienceID : GatewayAudienceID
  enabled : Bool
  gatewayIntakeV1Authorized : Bool
  createdAt : Timestamp
  stateChangedAt : Timestamp
  nonzero : ¬ corePrincipalID.IsZero
  stateTimeOrder : createdAt ≤ stateChangedAt

/-- The columns `selectPrincipalSQL` selects of a principal. -/
def PrincipalRow.record (row : PrincipalRow) (count : Nat) : PrincipalRecord where
  count := count
  principalText := formatUUID row.corePrincipalID
  audienceText := formatUUID row.gatewayAudienceID
  enabled := row.enabled
  intakeAuthorized := row.gatewayIntakeV1Authorized
  createdAt := row.createdAt.toTime
  stateChangedAt := row.stateChangedAt.toTime

/-- A row of `core_credential_slots`. -/
structure SlotRow where
  credentialSlotID : CredentialSlotID
  gatewayAudienceID : GatewayAudienceID
  corePrincipalID : CorePrincipalID
  createdAt : Timestamp
  nonzero : ¬ credentialSlotID.IsZero

/-- A row of `core_authentication_credentials`. -/
structure CredentialRow where
  credentialRecordID : CredentialRecordID
  credentialID : CredentialID
  credentialSlotID : CredentialSlotID
  gatewayAudienceID : GatewayAudienceID
  corePrincipalID : CorePrincipalID
  columns : CredentialLifecycleColumns
  nonzero : ¬ credentialRecordID.IsZero
  publicIDV4 : credentialID.IsV4
  accepted : columns.Accepted

/-- The columns `selectCredentialSQL` selects of a credential, and of the slot and the principal
that the join finds. -/
def CredentialRow.record (row : CredentialRow) (audience : GatewayAudienceID) (count : Nat)
    (slot : Option SlotRow) (principal : Option PrincipalRow) : CredentialRecord where
  count := count
  audienceMatches := decide (row.gatewayAudienceID = audience)
  recordText := formatUUID row.credentialRecordID
  publicText := formatUUID row.credentialID
  credentialSlotText := formatUUID row.credentialSlotID
  credentialAudienceText := formatUUID row.gatewayAudienceID
  credentialPrincipalText := formatUUID row.corePrincipalID
  stateText := row.columns.stateText
  notBefore := row.columns.notBefore.toTime
  expiresAt := row.columns.expiresAt.toTime
  activatedAt := optionalColumn row.columns.activatedAt
  retirementStartedAt := optionalColumn row.columns.retirementStartedAt
  retirementDeadline := optionalColumn row.columns.retirementOverlapDeadline
  revokedAt := optionalColumn row.columns.revokedAt
  createdAt := row.columns.createdAt.toTime
  stateChangedAt := row.columns.stateChangedAt.toTime
  slotText := slot.map fun slot => formatUUID slot.credentialSlotID
  slotAudienceText := slot.map fun slot => formatUUID slot.gatewayAudienceID
  slotPrincipalText := slot.map fun slot => formatUUID slot.corePrincipalID
  slotCreatedAt := optionalColumn (slot.map SlotRow.createdAt)
  principalText := principal.map fun principal => formatUUID principal.corePrincipalID
  principalAudienceText := principal.map fun principal => formatUUID principal.gatewayAudienceID
  principalEnabled := principal.map PrincipalRow.enabled
  principalIntakeAuthorized := principal.map PrincipalRow.gatewayIntakeV1Authorized
  principalCreatedAt := optionalColumn (principal.map PrincipalRow.createdAt)
  principalStateChangedAt := optionalColumn (principal.map PrincipalRow.stateChangedAt)

/-- **The four tables, with the constraints that hold between them.** -/
structure SecurityTables where
  realm : List RealmRow
  principals : List PrincipalRow
  slots : List SlotRow
  credentials : List CredentialRow
  realmKey : (realm.map RealmRow.singletonKey).Nodup
  principalKey : (principals.map PrincipalRow.corePrincipalID).Nodup
  slotKey : (slots.map SlotRow.credentialSlotID).Nodup
  recordKey : (credentials.map CredentialRow.credentialRecordID).Nodup
  publicKey : (credentials.map CredentialRow.credentialID).Nodup
  principalRealm : ∀ row ∈ principals, ∃ realmRow ∈ realm,
    realmRow.gatewayAudienceID = row.gatewayAudienceID
  slotPrincipal : ∀ row ∈ slots, ∃ principal ∈ principals,
    principal.gatewayAudienceID = row.gatewayAudienceID ∧
      principal.corePrincipalID = row.corePrincipalID
  credentialSlot : ∀ row ∈ credentials, ∃ slot ∈ slots,
    slot.gatewayAudienceID = row.gatewayAudienceID ∧ slot.corePrincipalID = row.corePrincipalID ∧
      slot.credentialSlotID = row.credentialSlotID

namespace SecurityTables
variable (s : SecurityTables)

/-- `selectBoundAudienceSQL`; of at most one text, the least is the text. -/
def boundAudienceRecord : BoundAudienceRecord where
  count := s.realm.length
  audienceText := ((s.realm.map fun row => formatUUID row.gatewayAudienceID).head?).getD []
  singleton := !s.realm.isEmpty && s.realm.all RealmRow.singletonKey

/-- The slot that the join finds for a credential. -/
def slot? (id : CredentialSlotID) : Option SlotRow :=
  Keyed.lookup SlotRow.credentialSlotID s.slots id

/-- The principal that the join finds for a credential. -/
def principal? (id : CorePrincipalID) : Option PrincipalRow :=
  Keyed.lookup PrincipalRow.corePrincipalID s.principals id

/-- The first row of `selectCredentialSQL`, with the number of rows. -/
def credentialRecord (audience : GatewayAudienceID) (id : CredentialID) :
    Option CredentialRecord :=
  match s.credentials.filter fun row => decide (row.credentialID = id) with
  | [] => none
  | row :: rows => some (row.record audience (rows.length + 1) (s.slot? row.credentialSlotID)
      (s.principal? row.corePrincipalID))

/-- The first row of `selectPrincipalSQL`, with the number of rows. -/
def principalRecord (audience : GatewayAudienceID) (id : CorePrincipalID) :
    Option PrincipalRecord :=
  match s.principals.filter fun row =>
      decide (row.gatewayAudienceID = audience ∧ row.corePrincipalID = id) with
  | [] => none
  | row :: rows => some (row.record (rows.length + 1))

end SecurityTables

/-! ## Reading a credential -/

/-- The credential of a row in a state. -/
def CredentialRow.credential (row : CredentialRow) (state : CredentialState) : Credential where
  audienceID := row.gatewayAudienceID
  principalID := row.corePrincipalID
  slotID := row.credentialSlotID
  recordID := row.credentialRecordID
  publicID := row.credentialID
  state := state
  notBefore := row.columns.notBefore.toTime
  expiresAt := row.columns.expiresAt.toTime
  activatedAt := optionalTime row.columns.activatedAt
  retirementDeadline := optionalTime row.columns.retirementOverlapDeadline

/-- The row holds the credential. -/
def CredentialRow.Holds (row : CredentialRow) (credential : Credential) : Prop :=
  ∃ state, credentialState row.columns.stateText = .ok state ∧ credential = row.credential state

/-- The row holds the principal. -/
def PrincipalRow.Holds (row : PrincipalRow) (principal : Principal) : Prop :=
  principal = ⟨row.gatewayAudienceID, row.corePrincipalID, row.enabled,
    row.gatewayIntakeV1Authorized⟩

variable {id : CorePrincipalID}

theorem newPrincipal_eq_ok {audience : GatewayAudienceID} {enabled intakeAuthorized : Bool}
    {created changed : Time} {principal : Principal} :
    newPrincipal audience id enabled intakeAuthorized created changed = .ok principal ↔
      principal = ⟨audience, id, enabled, intakeAuthorized⟩ ∧ ¬ audience.IsZero ∧ ¬ id.IsZero ∧
        created ≠ 0 ∧ created ≤ changed := by
  simp only [newPrincipal, Except.bind_eq_ok, Except.refuseIf_eq_ok, Except.pure_eq_ok, not_or,
    not_lt]
  constructor
  · rintro ⟨_, h, rfl⟩
    exact ⟨rfl, h⟩
  · rintro ⟨rfl, h⟩
    exact ⟨(), h, rfl⟩

theorem newCredentialSlot_eq_ok {audience : GatewayAudienceID} {principal : Principal}
    {id : CredentialSlotID} {created : Time} {slot : CredentialSlot} :
    newCredentialSlot audience principal id created = .ok slot ↔
      slot = ⟨audience, principal.id, id⟩ ∧ ¬ audience.IsZero ∧ principal.audienceID = audience ∧
        ¬ principal.id.IsZero ∧ ¬ id.IsZero ∧ created ≠ 0 := by
  unfold newCredentialSlot
  split
  · rename_i h
    constructor
    · intro herror
      split at herror <;> cases herror
    · rintro ⟨-, haudience, howner, hprincipal, hid, hcreated⟩
      simp_all
  · rename_i h
    simp only [not_or, not_not, ne_eq] at h
    rw [Except.ok.injEq, eq_comm]
    simp_all

theorem newCredential_eq_ok {spec : CredentialSpec} {credential : Credential} :
    newCredential spec = .ok credential ↔
      validateCredentialSpec spec = .ok () ∧ credential = spec.credential := by
  simp only [newCredential, Except.bind_eq_ok, Except.pure_eq_ok]
  constructor
  · rintro ⟨_, h, rfl⟩
    exact ⟨h, rfl⟩
  · rintro ⟨h, rfl⟩
    exact ⟨(), h, rfl⟩

/-- The slot and the principal belong to the credential, as the foreign keys demand. -/
structure CredentialRow.Owned (row : CredentialRow) (slot : SlotRow) (principal : PrincipalRow) :
    Prop where
  ofSlot : slot.credentialSlotID = row.credentialSlotID
  slotAudience : slot.gatewayAudienceID = row.gatewayAudienceID
  slotPrincipal : slot.corePrincipalID = row.corePrincipalID
  ofPrincipal : principal.corePrincipalID = row.corePrincipalID
  principalAudience : principal.gatewayAudienceID = row.gatewayAudienceID
  audience : ¬ row.gatewayAudienceID.IsZero

/-- No time that is read with the credential is Go's zero time. -/
structure CredentialRow.Readable (row : CredentialRow) (slot : SlotRow)
    (principal : PrincipalRow) : Prop where
  columns : row.columns.TimesPresent
  slotCreated : slot.createdAt.micros ≠ 0
  principalCreated : principal.createdAt.micros ≠ 0
  principalChanged : principal.stateChangedAt.micros ≠ 0

/-- The identifiers of a credential that belongs to its slot and its principal. -/
def CredentialRow.identity (row : CredentialRow) (slot : SlotRow) (principal : PrincipalRow)
    (h : row.Owned slot principal) : CredentialIdentity where
  audienceID := row.gatewayAudienceID
  principal := ⟨row.gatewayAudienceID, row.corePrincipalID, principal.enabled,
    principal.gatewayIntakeV1Authorized⟩
  slot := ⟨row.gatewayAudienceID, row.corePrincipalID, row.credentialSlotID⟩
  recordID := row.credentialRecordID
  publicID := row.credentialID
  audience := h.audience
  owner := ⟨rfl, rfl, rfl⟩
  ids := ⟨row.nonzero, row.publicIDV4.not_isZero, h.ofSlot ▸ slot.nonzero⟩

section
variable {row : CredentialRow} {slot : SlotRow} {principal : PrincipalRow}
  {audience : GatewayAudienceID} {id : CredentialID} {credential : Credential} {count : Nat}

theorem optionalColumn_some (t : Timestamp) : optionalColumn (some t) = t.column := rfl

theorem parseCredentialID_formatUUID (row : CredentialRow) :
    parseCredentialID (formatUUID row.credentialID) = .ok row.credentialID :=
  parseUUID_formatUUID_eq_ok row.publicIDV4.not_isZero fun _ => row.publicIDV4

/-- **When a credential is read with its slot and its principal, and as what.** -/
theorem CredentialRow.credential_eq_ok (h : row.Owned slot principal) :
    (row.record audience count (some slot) (some principal)).credential audience id =
        .ok credential ↔
      count = 1 ∧ row.gatewayAudienceID = audience ∧ row.credentialID = id ∧
      (slot.createdAt.micros ≠ 0 ∧ principal.createdAt.micros ≠ 0 ∧
        principal.stateChangedAt.micros ≠ 0) ∧
      ((∀ t, row.columns.activatedAt = some t → t.micros ≠ 0) ∧
        (∀ t, row.columns.retirementStartedAt = some t → t.micros ≠ 0) ∧
        (∀ t, row.columns.retirementOverlapDeadline = some t → t.micros ≠ 0) ∧
        ∀ t, row.columns.revokedAt = some t → t.micros ≠ 0) ∧
      ∃ state, credentialState row.columns.stateText = .ok state ∧
        validateCredentialSpec (row.columns.spec (row.identity slot principal h) state) = .ok () ∧
        credential = row.credential state := by
  have hslot : ¬ row.credentialSlotID.IsZero := h.ofSlot ▸ slot.nonzero
  have hprincipal : ¬ row.corePrincipalID.IsZero := h.ofPrincipal ▸ principal.nonzero
  simp only [CredentialRecord.credential, Except.bind_eq_ok, Except.refuseIf_eq_ok,
    Except.relabel_eq_ok, newPrincipal_eq_ok, newCredentialSlot_eq_ok, newCredential_eq_ok,
    not_or, not_not]
  simp only [CredentialRow.record, Option.map_some, Option.getD_some, h.ofSlot, h.slotAudience,
    h.slotPrincipal, h.ofPrincipal, h.principalAudience, parseCredentialRecordID,
    parseCredentialSlotID, parseGatewayAudienceID, parseCorePrincipalID, parseUUID_ok,
    parseCredentialID_formatUUID, Except.ok.injEq, optionalFiniteTime_column, optionalColumn_some,
    column_time, finiteTimestamp_column, row.nonzero, h.audience, hslot, hprincipal,
    Option.isNone_some, Timestamp.toTime_le.mpr principal.stateTimeOrder, decide_eq_false_iff_not,
    not_not, not_false_eq_true, Bool.false_eq_true, true_and, and_true, and_assoc, exists_const,
    exists_and_left, exists_eq_left, exists_eq_left']
  constructor
  · rintro ⟨hcount, haudience, hs, hp, hp', hid, -, -, -, state, hstate, ha, hr, hd, hv, hvalid, hc⟩
    exact ⟨hcount, haudience, hid, hs, hp, hp', ha, hr, hd, hv, state, hstate, hvalid, hc⟩
  · rintro ⟨hcount, haudience, hid, hs, hp, hp', ha, hr, hd, hv, state, hstate, hvalid, hc⟩
    exact ⟨hcount, haudience, hs, hp, hp', hid, haudience, by simpa using hp, by simpa using hs,
      state, hstate, ha, hr, hd, hv, hvalid, hc⟩

end

namespace SecurityTables
variable {s : SecurityTables} {audience : GatewayAudienceID}
variable {row : CredentialRow}

/-- The join finds the slot and the principal the foreign keys name. -/
theorem owned_of_mem (hrow : row ∈ s.credentials) :
    ∃ slot ∈ s.slots, ∃ principal ∈ s.principals, row.Owned slot principal ∧
      s.slot? row.credentialSlotID = some slot ∧
      s.principal? row.corePrincipalID = some principal := by
  obtain ⟨slot, hslot, haudience, hprincipal, hid⟩ := s.credentialSlot row hrow
  obtain ⟨principal, hmem, haudience', hid'⟩ := s.slotPrincipal slot hslot
  obtain ⟨realmRow, -, hrealm⟩ := s.principalRealm principal hmem
  refine ⟨slot, hslot, principal, hmem, ⟨hid, haudience, hprincipal, hid'.trans hprincipal,
    haudience'.trans haudience, ?_⟩, hid ▸ Keyed.lookup_of_mem s.slotKey hslot,
    hid'.trans hprincipal ▸ Keyed.lookup_of_mem s.principalKey hmem⟩
  rw [← haudience, ← haudience', ← hrealm]
  exact realmRow.nonzero

/-- The query answers with the one row of the identifier, its slot and its principal. -/
theorem credentialRecord_of_mem {row : CredentialRow} (hrow : row ∈ s.credentials) :
    ∃ slot ∈ s.slots, ∃ principal ∈ s.principals, row.Owned slot principal ∧
      s.credentialRecord audience row.credentialID =
        some (row.record audience 1 (some slot) (some principal)) := by
  obtain ⟨slot, hslot, principal, hprincipal, howned, hslot?, hprincipal?⟩ := owned_of_mem hrow
  refine ⟨slot, hslot, principal, hprincipal, howned, ?_⟩
  simp only [credentialRecord, Keyed.filter_key_eq s.publicKey hrow, hslot?, hprincipal?,
    List.length_nil, Nat.zero_add]

variable {id : CredentialID}

/-- The query answers only if the table has the identifier. -/
theorem mem_of_credentialRecord {record : CredentialRecord}
    (h : s.credentialRecord audience id = some record) :
    ∃ row ∈ s.credentials, row.credentialID = id := by
  unfold credentialRecord at h
  split at h
  · cases h
  · rename_i row rows hfilter
    have hmem : row ∈ s.credentials.filter fun row => decide (row.credentialID = id) := by
      rw [hfilter]
      exact List.mem_cons_self
    simp only [List.mem_filter, decide_eq_true_eq] at hmem
    exact ⟨row, hmem⟩

theorem credentialRecord_eq_none (h : s.credentialRecord audience id = none) :
    ∀ row ∈ s.credentials, row.credentialID ≠ id := by
  rintro row hrow rfl
  obtain ⟨slot, -, principal, -, -, hsome⟩ := @credentialRecord_of_mem s audience row hrow
  rw [h] at hsome
  cases hsome

/-- **What is read of the tables is what they hold.** -/
theorem credential_sound {record : CredentialRecord} {credential : Credential}
    (hrecord : s.credentialRecord audience id = some record)
    (h : record.credential audience id = .ok credential) :
    ∃ row ∈ s.credentials, row.credentialID = id ∧ row.gatewayAudienceID = audience ∧
      row.Holds credential := by
  obtain ⟨row, hrow, rfl⟩ := mem_of_credentialRecord hrecord
  obtain ⟨slot, -, principal, -, howned, hsome⟩ := credentialRecord_of_mem hrow
  rw [hrecord, Option.some.injEq] at hsome
  rw [hsome, CredentialRow.credential_eq_ok howned] at h
  obtain ⟨-, haudience, -, -, -, state, hstate, -, hcredential⟩ := h
  exact ⟨row, hrow, rfl, haudience, state, hstate, hcredential⟩

/-- **What the tables hold can be read**, unless one of the times is Go's zero time. -/
theorem credential_complete (hrow : row ∈ s.credentials)
    (htimes : ∀ slot ∈ s.slots, ∀ principal ∈ s.principals, row.Owned slot principal →
      row.Readable slot principal) :
    ∃ record credential, s.credentialRecord row.gatewayAudienceID row.credentialID = some record ∧
      record.credential row.gatewayAudienceID row.credentialID = .ok credential ∧
      row.Holds credential := by
  obtain ⟨slot, hslot, principal, hprincipal, howned, hsome⟩ := credentialRecord_of_mem hrow
  have ht := htimes slot hslot principal hprincipal howned
  obtain ⟨state, hstate, hvalid⟩ := (CredentialLifecycleColumns.accepted_iff ht.columns
    (row.identity slot principal howned)).mp row.accepted
  refine ⟨_, row.credential state, hsome, ?_, state, hstate, rfl⟩
  rw [CredentialRow.credential_eq_ok howned]
  exact ⟨rfl, rfl, rfl, ⟨ht.slotCreated, ht.principalCreated, ht.principalChanged⟩,
    ⟨ht.columns.activated, ht.columns.retirement, ht.columns.deadline, ht.columns.revoked⟩,
    state, hstate, hvalid, rfl⟩

end SecurityTables

/-! ## Reading a principal and the audience -/

/-- **When a principal is read, and as what.** -/
theorem PrincipalRow.principal_eq_ok {row : PrincipalRow} {count : Nat}
    {audience : GatewayAudienceID} {principal : Principal} :
    (row.record count).principal audience id = .ok principal ↔
      count = 1 ∧ row.corePrincipalID = id ∧ row.gatewayAudienceID = audience ∧
        ¬ row.gatewayAudienceID.IsZero ∧ row.createdAt.micros ≠ 0 ∧ row.Holds principal := by
  simp only [PrincipalRecord.principal, Except.bind_eq_ok, Except.refuseIf_eq_ok,
    Except.relabel_eq_ok, newPrincipal_eq_ok, not_or, not_not]
  simp only [PrincipalRow.record, parseCorePrincipalID, parseGatewayAudienceID, parseUUID_ok,
    row.nonzero, Timestamp.toTime_le.mpr row.stateTimeOrder, Timestamp.toTime_eq_zero, ne_eq,
    not_false_eq_true, true_and, and_true, and_assoc, exists_const, exists_and_left,
    exists_eq_left', PrincipalRow.Holds]
  constructor
  · rintro ⟨haudience, hcount, hid, hbound, hprincipal, -, hcreated⟩
    exact ⟨hcount, hid, hbound, haudience, hcreated, hprincipal⟩
  · rintro ⟨hcount, hid, hbound, haudience, hcreated, hprincipal⟩
    exact ⟨haudience, hcount, hid, hbound, hprincipal, haudience, hcreated⟩

namespace SecurityTables
variable {s : SecurityTables} {audience : GatewayAudienceID}

/-- The query answers with the one row of the identifier. -/
theorem principalRecord_eq_some {id : CorePrincipalID} {record : PrincipalRecord} :
    s.principalRecord audience id = some record ↔
      ∃ row ∈ s.principals, row.gatewayAudienceID = audience ∧ row.corePrincipalID = id ∧
        record = row.record 1 := by
  have hselected : ∀ row ∈ s.principals,
      row.gatewayAudienceID = audience ∧ row.corePrincipalID = id →
      s.principals.filter (fun row =>
        decide (row.gatewayAudienceID = audience ∧ row.corePrincipalID = id)) = [row] := by
    rintro row hrow ⟨rfl, rfl⟩
    refine Keyed.filter_eq_singleton s.principalKey hrow (by simp) fun other hother => ?_
    exact (of_decide_eq_true hother).2
  constructor
  · intro h
    unfold principalRecord at h
    split at h
    · cases h
    · rename_i row rows hfilter
      have hmem : row ∈ s.principals.filter fun row =>
          decide (row.gatewayAudienceID = audience ∧ row.corePrincipalID = id) := by
        rw [hfilter]
        exact List.mem_cons_self
      simp only [List.mem_filter, decide_eq_true_eq] at hmem
      rw [hselected row hmem.1 hmem.2, List.cons.injEq] at hfilter
      obtain ⟨-, rfl⟩ := hfilter
      exact ⟨row, hmem.1, hmem.2.1, hmem.2.2, (Option.some.inj h).symm⟩
  · rintro ⟨row, hrow, haudience, hid, rfl⟩
    unfold principalRecord
    rw [hselected row hrow ⟨haudience, hid⟩]
    rfl

/-- **What is read of a principal is what the table holds.** -/
theorem principal_sound {id : CorePrincipalID} {record : PrincipalRecord} {principal : Principal}
    (hrecord : s.principalRecord audience id = some record)
    (h : record.principal audience id = .ok principal) :
    ∃ row ∈ s.principals, row.corePrincipalID = id ∧ row.gatewayAudienceID = audience ∧
      row.Holds principal := by
  obtain ⟨row, hrow, haudience, hid, rfl⟩ := principalRecord_eq_some.mp hrecord
  exact ⟨row, hrow, hid, haudience, (PrincipalRow.principal_eq_ok.mp h).2.2.2.2.2⟩

/-- **The audience that is read is the one of the realm.** -/
theorem audience_eq_some {id : GatewayAudienceID} :
    s.boundAudienceRecord.audience = some id ↔ ∃ row ∈ s.realm, row.gatewayAudienceID = id := by
  have hrows : s.realm.length ≤ 1 := by
    have hkey : s.realm.map RealmRow.singletonKey = List.replicate s.realm.length true :=
      List.map_eq_replicate_iff.mpr fun row _ => row.singleton
    exact List.nodup_replicate.mp (hkey ▸ s.realmKey)
  rcases hrealm : s.realm with _ | ⟨row, _ | ⟨row', rows⟩⟩
  · simp [boundAudienceRecord, hrealm, BoundAudienceRecord.audience]
  · have hparse : parseGatewayAudienceID (formatUUID row.gatewayAudienceID) =
        .ok row.gatewayAudienceID := parseUUID_ok.mpr ⟨row.nonzero, rfl⟩
    simp [boundAudienceRecord, hrealm, BoundAudienceRecord.audience, row.singleton, hparse,
      row.nonzero]
  · simp [hrealm] at hrows

end SecurityTables

/-! ## Tables with one credential -/

/-- The time of a number of seconds after the beginning of 1970. -/
def sampleTimestamp (seconds : Int) : Timestamp := ⟨(62135596800 + seconds) * 1000000⟩

/-- The lifecycle columns of an active credential. -/
def sampleActiveColumns : CredentialLifecycleColumns where
  stateText := "active"
  createdAt := sampleTimestamp 1699000000
  activatedAt := some (sampleTimestamp 1699000000)
  retirementStartedAt := none
  retirementOverlapDeadline := none
  revokedAt := none
  expiresAt := sampleTimestamp 1701000000
  stateChangedAt := sampleTimestamp 1699000000
  notBefore := sampleTimestamp 1699000000

theorem sampleActiveColumns_present : sampleActiveColumns.TimesPresent :=
  ⟨by decide, by decide, by decide, by rintro _ ⟨⟩; decide, by rintro _ ⟨⟩, by rintro _ ⟨⟩,
    by rintro _ ⟨⟩⟩

theorem sampleActiveColumns_accepted : sampleActiveColumns.Accepted :=
  (CredentialLifecycleColumns.accepted_iff sampleActiveColumns_present
    sampleCredentialIdentity).mpr ⟨.active, rfl, by decide +kernel⟩

theorem fill_not_isZero : ¬ Bytes.IsZero (Bytes.fill 16 2) ∧ ¬ Bytes.IsZero (Bytes.fill 16 3) ∧
    ¬ Bytes.IsZero (Bytes.fill 16 4) := by decide

theorem sampleCredentialID_isV4 : UUID.IsV4 sampleCredentialID := by
  unfold UUID.IsV4
  decide

/-- The rows of a realm with one principal, one slot and one active credential. -/
def sampleRealmRow : RealmRow where
  singletonKey := true
  gatewayAudienceID := Bytes.fill 16 1
  singleton := rfl
  nonzero := sampleInstance.present

@[inherit_doc sampleRealmRow]
def samplePrincipalRow (enabled : Bool) : PrincipalRow where
  corePrincipalID := Bytes.fill 16 2
  gatewayAudienceID := Bytes.fill 16 1
  enabled := enabled
  gatewayIntakeV1Authorized := true
  createdAt := sampleTimestamp 1699000000
  stateChangedAt := sampleTimestamp 1699000000
  nonzero := fill_not_isZero.1
  stateTimeOrder := le_refl _

@[inherit_doc sampleRealmRow]
def sampleSlotRow : SlotRow where
  credentialSlotID := Bytes.fill 16 3
  gatewayAudienceID := Bytes.fill 16 1
  corePrincipalID := Bytes.fill 16 2
  createdAt := sampleTimestamp 1699000000
  nonzero := fill_not_isZero.2.1

@[inherit_doc sampleRealmRow]
def sampleCredentialRow : CredentialRow where
  credentialRecordID := Bytes.fill 16 4
  credentialID := sampleCredentialID
  credentialSlotID := Bytes.fill 16 3
  gatewayAudienceID := Bytes.fill 16 1
  corePrincipalID := Bytes.fill 16 2
  columns := sampleActiveColumns
  nonzero := fill_not_isZero.2.2
  publicIDV4 := sampleCredentialID_isV4
  accepted := sampleActiveColumns_accepted

theorem samplePrincipalRealm (enabled : Bool) : ∀ row ∈ [samplePrincipalRow enabled],
    ∃ realmRow ∈ [sampleRealmRow], realmRow.gatewayAudienceID = row.gatewayAudienceID := by
  simp [samplePrincipalRow, sampleRealmRow]

theorem sampleSlotPrincipal (enabled : Bool) : ∀ row ∈ [sampleSlotRow],
    ∃ principal ∈ [samplePrincipalRow enabled],
      principal.gatewayAudienceID = row.gatewayAudienceID ∧
        principal.corePrincipalID = row.corePrincipalID := by
  simp [samplePrincipalRow, sampleSlotRow]

theorem sampleCredentialSlot : ∀ row ∈ [sampleCredentialRow], ∃ slot ∈ [sampleSlotRow],
    slot.gatewayAudienceID = row.gatewayAudienceID ∧
      slot.corePrincipalID = row.corePrincipalID ∧
      slot.credentialSlotID = row.credentialSlotID := by
  simp [sampleCredentialRow, sampleSlotRow]

/-- Tables with these rows. -/
def sampleSecurity (enabled : Bool) : SecurityTables where
  realm := [sampleRealmRow]
  principals := [samplePrincipalRow enabled]
  slots := [sampleSlotRow]
  credentials := [sampleCredentialRow]
  realmKey := List.nodup_singleton _
  principalKey := List.nodup_singleton _
  slotKey := List.nodup_singleton _
  recordKey := List.nodup_singleton _
  publicKey := List.nodup_singleton _
  principalRealm := samplePrincipalRealm enabled
  slotPrincipal := sampleSlotPrincipal enabled
  credentialSlot := sampleCredentialSlot

end OncallGateway
