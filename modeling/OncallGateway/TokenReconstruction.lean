import OncallGateway.DestinationResolver
import OncallGateway.StoreInvariant

/-! # Two readings of one token

The resolver and the lifecycle repository each have a routine of their own that makes a
`DestinationToken` of the columns of a token and of its destination.  The one reads both
from a joined row, with nullable columns for the destination; the other reads two rows, the
destination's first.  They check in a different order and answer with different errors.

Here the columns are arbitrary: null, infinite, malformed.  What a routine accepts is a
relation between the columns and the values read (`LifecycleDestinationRecord.Reads`,
`LifecycleTokenRecord.Reads`), the same for both, so that they read the same tokens
(`reconstructions_agree`).
-/

namespace OncallGateway

/-! ## What a destination's row is read as -/

variable {audience : GatewayAudienceID} {destination : Destination} {id : DestinationID}
  {now : Time} {record : LifecycleTokenRecord} {token : DestinationToken}
  {row : LifecycleDestinationRecord} {candidate : DestinationVerifierCandidate}

theorem newDestination_ok {state : DestinationState} {created changed : Time}
    (h : newDestination audience id state created changed = .ok destination) :
    destination = ⟨audience, id, state, created, changed⟩ := by
  unfold newDestination at h
  split_ifs at h
  cases h
  rfl

/-- The columns of a destination of the audience, and the value read of them. -/
structure LifecycleDestinationRecord.Reads (record : LifecycleDestinationRecord)
    (audience : GatewayAudienceID) (destination : Destination) : Prop where
  created : FiniteTimestamp record.createdAt
  changed : FiniteTimestamp record.stateChangedAt
  id : parseDestinationID record.destinationText = .ok destination.id
  audienceText : parseGatewayAudienceID record.audienceText = .ok audience
  state : destinationState record.stateText = .ok destination.state
  value : newDestination audience destination.id destination.state record.createdAt.time
    record.stateChangedAt.time = .ok destination

theorem LifecycleDestinationRecord.destination_eq_ok {record : LifecycleDestinationRecord} :
    record.destination audience id now = .ok destination ↔
      record.Reads audience destination ∧ destination.id = id ∧ record.createdAt.time ≤ now ∧
        record.stateChangedAt.time ≤ now := by
  simp only [LifecycleDestinationRecord.destination, Except.bind_eq_ok, Except.refuseIf_eq_ok,
    Except.relabel_eq_ok, exists_const, not_or, not_not, not_lt]
  constructor
  · rintro ⟨⟨hc, hs⟩, hnow, _, hid, _, haudience, state, hstate, ⟨rfl, rfl⟩, hvalue⟩
    obtain rfl := newDestination_ok hvalue
    exact ⟨⟨hc, hs, hid, haudience, hstate, hvalue⟩, rfl, hnow⟩
  · rintro ⟨h, rfl, hnow⟩
    exact ⟨⟨h.created, h.changed⟩, hnow, _, h.id, _, h.audienceText, _, h.state, ⟨rfl, rfl⟩, h.value⟩

/-! ## What a token's row is read as -/

/-- The columns of a token of the audience's destination, and the value read of them. -/
structure LifecycleTokenRecord.Reads (record : LifecycleTokenRecord) (audience : GatewayAudienceID)
    (destination : Destination) (token : DestinationToken) : Prop where
  times : FiniteTimestamp record.createdAt ∧ FiniteTimestamp record.expiresAt ∧
    FiniteTimestamp record.stagedCleanupDeadline ∧ FiniteTimestamp record.stateChangedAt
  owner : destination.audienceID = audience
  audienceText : parseGatewayAudienceID record.audienceText = .ok audience
  destinationText : parseDestinationID record.destinationText = .ok destination.id
  recordID : parseDestinationTokenRecordID record.recordText = .ok token.spec.recordID
  verifier : newTokenVerifier record.verifierBytes = .ok token.spec.verifier
  keyID : newDestinationVerifierKeyID record.keyIDText = .ok token.spec.verifierKeyID
  state : destinationTokenState record.stateText = .ok token.spec.state
  activated : optionalFiniteTime record.activatedAt = .ok token.spec.activatedAt
  retirement : optionalFiniteTime record.retirementStartedAt = .ok token.spec.retirementStartedAt
  revoked : optionalFiniteTime record.revokedAt = .ok token.spec.revokedAt
  deadline : optionalFiniteTime record.retirementDeadline = .ok token.spec.retirementDeadline
  /-- The rest of the specification is taken over. -/
  rest : token.spec = { token.spec with
    audienceID := audience
    destination := destination
    createdAt := record.createdAt.time
    expiresAt := record.expiresAt.time
    stagedCleanupDeadline := record.stagedCleanupDeadline.time
    stateChangedAt := record.stateChangedAt.time }

theorem LifecycleTokenRecord.token_eq_ok :
    record.token audience destination = .ok token ↔ record.Reads audience destination token := by
  simp only [LifecycleTokenRecord.token, Except.bind_eq_ok, Except.refuseIf_eq_ok,
    Except.relabel_eq_ok, exists_const, not_or, not_not, newDestinationToken_eq_ok]
  obtain ⟨spec, valid⟩ := token
  constructor
  · rintro ⟨htimes, _, hrecord, _, haudience, _, hdestination, _, hverifier, _, hkey, _, hstate,
      _, hactivated, _, hretirement, _, hrevoked, _, hdeadline, ⟨rfl, rfl, howner⟩, rfl⟩
    exact ⟨htimes, howner, haudience, hdestination, hrecord, hverifier, hkey, hstate, hactivated,
      hretirement, hrevoked, hdeadline, rfl⟩
  · intro h
    exact ⟨h.times, _, h.recordID, _, h.audienceText, _, h.destinationText, _, h.verifier, _,
      h.keyID, _, h.state, _, h.activated, _, h.retirement, _, h.revoked, _, h.deadline,
      ⟨rfl, rfl, h.owner⟩, h.rest⟩

/-! ## Columns as they are stored -/

/-- The columns of a row of `gateway_destinations`, as they are selected. -/
structure DestinationColumns where
  destinationText : Option ByteString
  audienceText : Option ByteString
  stateText : Option String
  createdAt : Timestamptz
  stateChangedAt : Timestamptz

/-- The columns of a row of `gateway_destination_tokens`, as they are selected. -/
structure TokenColumns where
  recordText : Option ByteString
  audienceText : Option ByteString
  destinationText : Option ByteString
  verifierBytes : Option ByteString
  keyIDText : Option ByteString
  stateText : Option String
  createdAt : Timestamptz
  activatedAt : Timestamptz
  retirementStartedAt : Timestamptz
  revokedAt : Timestamptz
  expiresAt : Timestamptz
  stagedCleanupDeadline : Timestamptz
  retirementDeadline : Timestamptz
  stateChangedAt : Timestamptz

/-- `Scan` into a `lifecycleDestinationRecord`: a `string` takes no null. -/
def DestinationColumns.scan (columns : DestinationColumns) : Option LifecycleDestinationRecord := do
  let destinationText ← columns.destinationText
  let audienceText ← columns.audienceText
  let stateText ← columns.stateText
  return { destinationText, audienceText, stateText
           createdAt := columns.createdAt
           stateChangedAt := columns.stateChangedAt }

/-- `Scan` of the token's columns: a `string` takes no null, and a null `[]byte` is empty. -/
def TokenColumns.scan (columns : TokenColumns) : Option LifecycleTokenRecord := do
  let recordText ← columns.recordText
  let audienceText ← columns.audienceText
  let destinationText ← columns.destinationText
  let keyIDText ← columns.keyIDText
  let stateText ← columns.stateText
  return { recordText, audienceText, destinationText, keyIDText, stateText
           verifierBytes := columns.verifierBytes.getD []
           createdAt := columns.createdAt
           activatedAt := columns.activatedAt
           retirementStartedAt := columns.retirementStartedAt
           revokedAt := columns.revokedAt
           expiresAt := columns.expiresAt
           stagedCleanupDeadline := columns.stagedCleanupDeadline
           retirementDeadline := columns.retirementDeadline
           stateChangedAt := columns.stateChangedAt }

variable {columns : DestinationColumns}

theorem DestinationColumns.of_scan (h : columns.scan = some row) :
    columns.destinationText = some row.destinationText ∧
      columns.createdAt = row.createdAt ∧ columns.stateChangedAt = row.stateChangedAt := by
  simp only [DestinationColumns.scan, Option.bind_eq_bind, Option.bind_eq_some_iff, Option.pure_def,
    Option.some.injEq] at h
  obtain ⟨_, hid, _, -, _, -, rfl⟩ := h
  exact ⟨hid, rfl, rfl⟩

theorem TokenColumns.of_scan {columns : TokenColumns} (h : columns.scan = some record) :
    columns.keyIDText = some record.keyIDText ∧
      columns.verifierBytes.getD [] = record.verifierBytes := by
  simp only [TokenColumns.scan, Option.bind_eq_bind, Option.bind_eq_some_iff, Option.pure_def,
    Option.some.injEq] at h
  obtain ⟨_, -, _, -, _, -, _, hkey, _, -, rfl⟩ := h
  exact ⟨hkey, rfl⟩

/-- A verifier that is read was not null. -/
theorem TokenColumns.verifier_of_scan {columns : TokenColumns} (h : columns.scan = some record)
    {verifier : TokenVerifier} (hread : newTokenVerifier record.verifierBytes = .ok verifier) :
    columns.verifierBytes = some record.verifierBytes := by
  rw [← (TokenColumns.of_scan h).2] at hread ⊢
  cases hbytes : columns.verifierBytes with
  | none =>
    rw [hbytes] at hread
    cases hread
  | some bytes => rfl

/-- The one row that `selectDestinationTokenSQL` joins: the destination's columns are scanned
into `pgtype.Text`, which takes a null. -/
def DestinationColumns.joined (columns : DestinationColumns) (record : LifecycleTokenRecord) :
    DestinationTokenRecord :=
  { record with
    count := 1
    destinationRecordText := columns.destinationText
    destinationAudienceText := columns.audienceText
    destinationStateText := columns.stateText
    destinationCreatedAt := columns.createdAt
    destinationStateChangedAt := columns.stateChangedAt }

/-- The columns of the destination that are scanned into a `string`. -/
def DestinationColumns.Present (columns : DestinationColumns) : Prop :=
  columns.destinationText.isSome ∧ columns.audienceText.isSome ∧ columns.stateText.isSome

theorem DestinationColumns.present_of_scan (h : columns.scan = some row) : columns.Present := by
  simp only [DestinationColumns.scan, Option.bind_eq_bind, Option.bind_eq_some_iff] at h
  obtain ⟨_, hid, _, haudience, _, hstate, -⟩ := h
  exact ⟨by rw [hid]; rfl, by rw [haudience]; rfl, by rw [hstate]; rfl⟩

theorem DestinationColumns.present_of_token_joined
    (h : (columns.joined record).token audience candidate = .ok token) : columns.Present := by
  obtain ⟨_, hguard, -⟩ := Except.bind_eq_ok.mp h
  simp only [Except.refuseIf_eq_ok, not_or, Option.isNone_iff_eq_none, ← Option.isSome_iff_ne_none,
    ← ne_eq] at hguard
  exact ⟨hguard.2.2.2.2.2.1, hguard.2.2.2.2.2.2.1, hguard.2.2.2.2.2.2.2.1⟩

/-- **What the resolver accepts of a joined row**: what the lifecycle repository reads of the
two rows, if the token has the key and the verifier that were looked up. -/
theorem DestinationColumns.token_joined_eq_ok :
    (columns.joined record).token audience candidate = .ok token ↔
      ∃ row destination, columns.scan = some row ∧ row.Reads audience destination ∧
        record.Reads audience destination token ∧ token.spec.verifierKeyID = candidate.keyID ∧
        token.spec.verifier.bytes = candidate.verifier.bytes := by
  by_cases hpresent : columns.Present
  swap
  · -- a column of the destination that is null is refused by the one and not scanned by the other
    constructor
    · exact fun h => absurd (present_of_token_joined h) hpresent
    · rintro ⟨row, destination, hscan, -⟩
      exact absurd (present_of_scan hscan) hpresent
  obtain ⟨destinationText, audienceText, stateText, created, changed⟩ := columns
  obtain ⟨hid, haudience, hstate⟩ := hpresent
  obtain ⟨destinationText, rfl⟩ := Option.isSome_iff_exists.mp hid
  obtain ⟨audienceText, rfl⟩ := Option.isSome_iff_exists.mp haudience
  obtain ⟨stateText, rfl⟩ := Option.isSome_iff_exists.mp hstate
  simp only [DestinationColumns.joined, DestinationColumns.scan, DestinationTokenRecord.token,
    Except.bind_eq_ok, Except.refuseIf_eq_ok, Except.relabel_eq_ok, exists_const, not_or, not_not,
    newDestinationToken_eq_ok, Option.getD_some, Option.isNone_some, Bool.false_eq_true,
    not_false_eq_true, true_and, Option.bind_eq_bind, Option.bind_some, Option.pure_def,
    Option.some.injEq]
  obtain ⟨spec, valid⟩ := token
  constructor
  · rintro ⟨⟨hc, he, hcl, hs, hdc, hds⟩, _, hrecord, _, haudience, _, hdestination, _, hverifier, _,
      hkey, _, hid, _, hown, ⟨rfl, rfl, rfl, hcandidate⟩, hbytes, _, hstate, destination, hvalue, _,
      htokenState, _, hactivated, _, hretirement, _, hrevoked, _, hdeadline, rfl⟩
    obtain rfl := newDestination_ok hvalue
    exact ⟨_, _, rfl, ⟨hdc, hds, hid, hown, hstate, hvalue⟩, ⟨⟨hc, he, hcl, hs⟩, rfl, haudience,
      hdestination, hrecord, hverifier, hkey, htokenState, hactivated, hretirement, hrevoked,
      hdeadline, rfl⟩, hcandidate, hbytes⟩
  · rintro ⟨_, destination, rfl, hd, ht, hcandidate, hbytes⟩
    obtain ⟨hc, he, hcl, hs⟩ := ht.times
    exact ⟨⟨hc, he, hcl, hs, hd.created, hd.changed⟩, _, ht.recordID, _, ht.audienceText, _,
      ht.destinationText, _, ht.verifier, _, ht.keyID, _, hd.id, _, hd.audienceText,
      ⟨rfl, rfl, rfl, hcandidate⟩, hbytes, _, hd.state, destination, hd.value, _, ht.state, _,
      ht.activated, _, ht.retirement, _, ht.revoked, _, ht.deadline, ht.rest⟩

/-! ## The two routines -/

section
variable (token : TokenColumns) (destination : DestinationColumns) (audience : GatewayAudienceID)

/-- The token the lifecycle repository reads: `loadDestinationLifecycleState` at one row. -/
def lifecycleReconstruction (id : DestinationID) (now : Time) : Option DestinationToken := do
  let row ← destination.scan
  let value ← (row.destination audience id now).toOption
  let record ← token.scan
  (record.token audience value).toOption

/-- The token the resolver reads, if the row is the only one found. -/
def resolverReconstruction (candidate : DestinationVerifierCandidate) :
    Option DestinationToken := do
  let record ← token.scan
  ((destination.joined record).token audience candidate).toOption

end

section
variable {token : TokenColumns} {destination : DestinationColumns} {value : DestinationToken}

theorem lifecycleReconstruction_eq_some :
    lifecycleReconstruction token destination audience id now = some value ↔
      ∃ row record owner, destination.scan = some row ∧ token.scan = some record ∧
        row.Reads audience owner ∧ record.Reads audience owner value ∧ owner.id = id ∧
        row.createdAt.time ≤ now ∧ row.stateChangedAt.time ≤ now := by
  simp only [lifecycleReconstruction, Option.bind_eq_bind, Option.bind_eq_some_iff,
    Except.toOption_eq_some, LifecycleDestinationRecord.destination_eq_ok,
    LifecycleTokenRecord.token_eq_ok]
  constructor
  · rintro ⟨row, hrow, owner, ⟨hd, hid, hnow⟩, record, hrecord, ht⟩
    exact ⟨row, record, owner, hrow, hrecord, hd, ht, hid, hnow⟩
  · rintro ⟨row, record, owner, hrow, hrecord, hd, ht, hid, hnow⟩
    exact ⟨row, hrow, owner, ⟨hd, hid, hnow⟩, record, hrecord, ht⟩

theorem resolverReconstruction_eq_some :
    resolverReconstruction token destination audience candidate = some value ↔
      ∃ row record owner, destination.scan = some row ∧ token.scan = some record ∧
        row.Reads audience owner ∧ record.Reads audience owner value ∧
        value.spec.verifierKeyID = candidate.keyID ∧
        value.spec.verifier.bytes = candidate.verifier.bytes := by
  simp only [resolverReconstruction, Option.bind_eq_bind, Option.bind_eq_some_iff,
    Except.toOption_eq_some, DestinationColumns.token_joined_eq_ok]
  constructor
  · rintro ⟨record, hrecord, row, owner, hrow, hread⟩
    exact ⟨row, record, owner, hrow, hrecord, hread⟩
  · rintro ⟨row, record, owner, hrow, hrecord, hread⟩
    exact ⟨record, hrecord, row, owner, hrow, hread⟩

end

/-- A finite time of the destination that is not after `now`. -/
theorem FiniteTimestamp.time_le {column : Timestamptz} (h : FiniteTimestamp column)
    (hnow : ∀ t, column = .finite t → t ≤ now) : column.time ≤ now := by
  cases column with
  | null => cases h
  | infinite => cases h
  | finite t => exact hnow t rfl

/-- **The resolver and the lifecycle repository reconstruct the same token** from the same
columns, whatever they hold: at the identifier of the destination's row, with the key
identifier and the verifier of the token's row as the candidate (each one arbitrary if the
column cannot be read), and at a time that is not before the destination's own. -/
theorem reconstructions_agree (token : TokenColumns) (destination : DestinationColumns)
    (audience : GatewayAudienceID) (id : DestinationID) (now : Time)
    (candidate : DestinationVerifierCandidate)
    (hid : ∀ text, destination.destinationText = some text →
      ∀ parsed, parseDestinationID text = .ok parsed → id = parsed)
    (hkey : ∀ text, token.keyIDText = some text →
      ∀ keyID, newDestinationVerifierKeyID text = .ok keyID → candidate.keyID = keyID)
    (hverifier : ∀ bytes, token.verifierBytes = some bytes →
      ∀ verifier, newTokenVerifier bytes = .ok verifier → candidate.verifier = verifier)
    (hcreated : ∀ t, destination.createdAt = .finite t → t ≤ now)
    (hchanged : ∀ t, destination.stateChangedAt = .finite t → t ≤ now) :
    lifecycleReconstruction token destination audience id now =
      resolverReconstruction token destination audience candidate := by
  refine Option.ext fun value => ?_
  rw [lifecycleReconstruction_eq_some, resolverReconstruction_eq_some]
  -- what is left of either side is implied by the columns that were read
  constructor
  · rintro ⟨row, record, owner, hrow, hrecord, hd, ht, -, -, -⟩
    have hcandidate := hkey _ (TokenColumns.of_scan hrecord).1 _ ht.keyID
    have hbytes := hverifier _ (TokenColumns.verifier_of_scan hrecord ht.verifier) _ ht.verifier
    exact ⟨row, record, owner, hrow, hrecord, hd, ht, hcandidate.symm, by rw [hbytes]⟩
  · rintro ⟨row, record, owner, hrow, hrecord, hd, ht, -, -⟩
    obtain ⟨htext, hc, hs⟩ := DestinationColumns.of_scan hrow
    refine ⟨row, record, owner, hrow, hrecord, hd, ht, (hid _ htext _ hd.id).symm, ?_, ?_⟩
    · exact hd.created.time_le fun t h => hcreated t (hc.trans h)
    · exact hd.changed.time_le fun t h => hchanged t (hs.trans h)

/-- The columns of the sample destination, and of a token staged for it. -/
def sampleDestinationColumns : DestinationColumns where
  destinationText := some (formatUUID (sampleID 2))
  audienceText := some (formatUUID (sampleID 1))
  stateText := some "enabled"
  createdAt := .finite (sampleTime 10)
  stateChangedAt := .finite (sampleTime 10)

@[inherit_doc sampleDestinationColumns]
def sampleTokenColumns : TokenColumns where
  recordText := some (formatUUID (sampleID 3))
  audienceText := some (formatUUID (sampleID 1))
  destinationText := some (formatUUID (sampleID 2))
  verifierBytes := some (sampleCandidate 3 (sampleTime 20)).row.verifier
  keyIDText := some (sampleCandidate 3 (sampleTime 20)).row.verifierKeyID
  stateText := some "staged"
  createdAt := .finite (sampleTime 20)
  activatedAt := .null
  retirementStartedAt := .null
  revokedAt := .null
  expiresAt := .finite (sampleTime 3620)
  stagedCleanupDeadline := .finite (sampleTime 3620)
  retirementDeadline := .null
  stateChangedAt := .finite (sampleTime 20)

/-- The staged sample token is reconstructed by both. -/
theorem sampleColumns_agree :
    lifecycleReconstruction sampleTokenColumns sampleDestinationColumns (sampleID 1) (sampleID 2)
        (sampleTime 30) =
      resolverReconstruction sampleTokenColumns sampleDestinationColumns (sampleID 1)
        ⟨(sampleCandidate 3 (sampleTime 20)).verifierKeyID,
          (sampleCandidate 3 (sampleTime 20)).verifier⟩ ∧
    (lifecycleReconstruction sampleTokenColumns sampleDestinationColumns (sampleID 1) (sampleID 2)
      (sampleTime 30)).map (fun token => token.spec.recordID) = some (sampleID 3) := by
  refine ⟨reconstructions_agree _ _ _ _ _ _ ?_ ?_ ?_ ?_ ?_, by decide +kernel⟩
  · rintro _ ⟨⟩ parsed hparsed
    have hread : parseDestinationID (formatUUID (sampleID 2)) = .ok (sampleID 2) := by
      decide +kernel
    exact Except.ok.inj (hread.symm.trans hparsed)
  · rintro _ ⟨⟩ keyID hkeyID
    have hread : newDestinationVerifierKeyID (sampleCandidate 3 (sampleTime 20)).row.verifierKeyID =
      .ok (sampleCandidate 3 (sampleTime 20)).verifierKeyID := by decide +kernel
    exact Except.ok.inj (hread.symm.trans hkeyID)
  · rintro _ ⟨⟩ verifier hverifier
    have hread : newTokenVerifier (sampleCandidate 3 (sampleTime 20)).row.verifier =
      .ok (sampleCandidate 3 (sampleTime 20)).verifier := by decide +kernel
    exact Except.ok.inj (hread.symm.trans hverifier)
  · rintro _ ⟨⟩
    decide
  · rintro _ ⟨⟩
    decide

end OncallGateway
