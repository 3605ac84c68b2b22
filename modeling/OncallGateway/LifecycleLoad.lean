import OncallGateway.TokenStore
import OncallGateway.Lib.Fallible

/-! # Reading a destination's lifecycle state

`loadDestinationLifecycleState` reads the row of a destination and the rows of its
tokens that are not revoked, turns each into a value of the `securitystate` package,
and makes the lifecycle snapshot of them.  A column that does not parse, a timestamp
that is infinite or **equal to Go's zero time**, and a row that fails its validation
are all answered with `ErrDestinationLifecycleReconciliation`.

This module is the reading of the rows, `Store.loadState`, without the faults of the
connection.  A row is read exactly when no time in it is the zero time and its
identifiers are those expected (`TokenRow.token_eq_ok`); the constraints of the table
give everything else that the validation asks (`TokenRow.token_exists`).
-/

namespace OncallGateway

/-! ## Columns as the driver returns them -/

/-- `pgtype.Timestamptz`: null, infinite, or finite. -/
inductive Timestamptz where
  | null
  | infinite
  | finite (value : Time)
deriving DecidableEq

/-- The field `Time`. -/
def Timestamptz.time : Timestamptz → Time
  | .finite value => value
  | _ => 0

/-- `finiteTimestamp`. -/
def FiniteTimestamp : Timestamptz → Prop
  | .finite value => value ≠ 0
  | _ => False

instance : DecidablePred FiniteTimestamp
  | .finite value => inferInstanceAs (Decidable (value ≠ 0))
  | .null => .isFalse id
  | .infinite => .isFalse id

/-- `optionalFiniteTime`. -/
def optionalFiniteTime : Timestamptz → Except Sentinel Time
  | .null => .ok 0
  | .infinite => .error .errAuthenticationStateIntegrity
  | .finite value => if value = 0 then .error .errAuthenticationStateIntegrity else .ok value

/-- `destinationState`. -/
def destinationState : String → Except Sentinel DestinationState
  | "enabled" => .ok .enabled
  | "disabled" => .ok .disabled
  | _ => .error .errDestinationResolverIntegrity

/-- `destinationTokenState`. -/
def destinationTokenState : String → Except Sentinel DestinationTokenState
  | "staged" => .ok .staged
  | "active" => .ok .active
  | "retiring" => .ok .retiring
  | "revoked" => .ok .revoked
  | _ => .error .errDestinationResolverIntegrity

/-- The text of the column `destination_state`. -/
def DestinationState.text : DestinationState → String
  | .enabled => "enabled"
  | .disabled => "disabled"

/-- The text of the column `token_state`. -/
def DestinationTokenState.text : DestinationTokenState → String
  | .staged => "staged"
  | .active => "active"
  | .retiring => "retiring"
  | .revoked => "revoked"

@[simp] theorem destinationState_text (state : DestinationState) :
    destinationState state.text = .ok state := by
  cases state <;> rfl

@[simp] theorem destinationTokenState_text (state : DestinationTokenState) :
    destinationTokenState state.text = .ok state := by
  cases state <;> rfl

/-- `lifecycleDestinationRecord`. -/
structure LifecycleDestinationRecord where
  destinationText : ByteString
  audienceText : ByteString
  stateText : String
  createdAt : Timestamptz
  stateChangedAt : Timestamptz

/-- `lifecycleDestinationRecord.destination`. -/
def LifecycleDestinationRecord.destination (record : LifecycleDestinationRecord)
    (expectedAudience : GatewayAudienceID) (expectedDestination : DestinationID) (now : Time) :
    Except Sentinel Destination := do
  .refuseIf (¬ FiniteTimestamp record.createdAt ∨ ¬ FiniteTimestamp record.stateChangedAt)
    .errDestinationLifecycleReconciliation
  .refuseIf (record.createdAt.time > now ∨ record.stateChangedAt.time > now)
    .errDestinationLifecycleReconciliation
  let destination ← (parseDestinationID record.destinationText).relabel
    .errDestinationLifecycleReconciliation
  let audience ← (parseGatewayAudienceID record.audienceText).relabel
    .errDestinationLifecycleReconciliation
  let state ← (destinationState record.stateText).relabel .errDestinationLifecycleReconciliation
  .refuseIf (destination ≠ expectedDestination ∨ audience ≠ expectedAudience)
    .errDestinationLifecycleReconciliation
  (newDestination audience destination state record.createdAt.time
    record.stateChangedAt.time).relabel .errDestinationLifecycleReconciliation

/-- `lifecycleTokenRecord`. -/
structure LifecycleTokenRecord where
  recordText : ByteString
  audienceText : ByteString
  destinationText : ByteString
  verifierBytes : ByteString
  keyIDText : ByteString
  stateText : String
  createdAt : Timestamptz
  activatedAt : Timestamptz
  retirementStartedAt : Timestamptz
  revokedAt : Timestamptz
  expiresAt : Timestamptz
  stagedCleanupDeadline : Timestamptz
  retirementDeadline : Timestamptz
  stateChangedAt : Timestamptz

/-- `lifecycleTokenRecord.token`. -/
def LifecycleTokenRecord.token (record : LifecycleTokenRecord)
    (expectedAudience : GatewayAudienceID) (destination : Destination) :
    Except Sentinel DestinationToken := do
  .refuseIf (¬ FiniteTimestamp record.createdAt ∨ ¬ FiniteTimestamp record.expiresAt ∨
    ¬ FiniteTimestamp record.stagedCleanupDeadline ∨ ¬ FiniteTimestamp record.stateChangedAt)
    .errDestinationLifecycleReconciliation
  let recordID ← (parseDestinationTokenRecordID record.recordText).relabel
    .errDestinationLifecycleReconciliation
  let audience ← (parseGatewayAudienceID record.audienceText).relabel
    .errDestinationLifecycleReconciliation
  let destinationID ← (parseDestinationID record.destinationText).relabel
    .errDestinationLifecycleReconciliation
  let verifier ← (newTokenVerifier record.verifierBytes).relabel
    .errDestinationLifecycleReconciliation
  let keyID ← (newDestinationVerifierKeyID record.keyIDText).relabel
    .errDestinationLifecycleReconciliation
  let state ← (destinationTokenState record.stateText).relabel
    .errDestinationLifecycleReconciliation
  let activatedAt ← (optionalFiniteTime record.activatedAt).relabel
    .errDestinationLifecycleReconciliation
  let retirementStartedAt ← (optionalFiniteTime record.retirementStartedAt).relabel
    .errDestinationLifecycleReconciliation
  let revokedAt ← (optionalFiniteTime record.revokedAt).relabel
    .errDestinationLifecycleReconciliation
  let retirementDeadline ← (optionalFiniteTime record.retirementDeadline).relabel
    .errDestinationLifecycleReconciliation
  .refuseIf (audience ≠ expectedAudience ∨ destinationID ≠ destination.id ∨
    destination.audienceID ≠ audience) .errDestinationLifecycleReconciliation
  (newDestinationToken {
    audienceID := audience
    destination := destination
    recordID := recordID
    verifier := verifier
    verifierKeyID := keyID
    state := state
    createdAt := record.createdAt.time
    activatedAt := activatedAt
    retirementStartedAt := retirementStartedAt
    revokedAt := revokedAt
    expiresAt := record.expiresAt.time
    stagedCleanupDeadline := record.stagedCleanupDeadline.time
    retirementDeadline := retirementDeadline
    stateChangedAt := record.stateChangedAt.time }).relabel .errDestinationLifecycleReconciliation

/-! ## Rows of the store -/

/-- A column that is never null. -/
def Timestamp.column (value : Timestamp) : Timestamptz := .finite value.toTime

/-- A column that may be null. -/
def optionalColumn : Option Timestamp → Timestamptz
  | none => .null
  | some value => value.column

/-- The columns `lockLifecycleDestinationSQL` selects. -/
def DestinationRow.record (row : DestinationRow) : LifecycleDestinationRecord where
  destinationText := formatUUID row.destinationID
  audienceText := formatUUID row.audienceID
  stateText := row.state.text
  createdAt := row.createdAt.column
  stateChangedAt := row.stateChangedAt.column

/-- The columns the token queries select. -/
def TokenRow.record (row : TokenRow) : LifecycleTokenRecord where
  recordText := formatUUID row.recordID
  audienceText := formatUUID row.audienceID
  destinationText := formatUUID row.destinationID
  verifierBytes := row.verifier
  keyIDText := row.verifierKeyID
  stateText := row.state.text
  createdAt := row.createdAt.column
  activatedAt := optionalColumn row.activatedAt
  retirementStartedAt := optionalColumn row.retirementStartedAt
  revokedAt := optionalColumn row.revokedAt
  expiresAt := row.expiresAt.column
  stagedCleanupDeadline := row.stagedCleanupDeadline.column
  retirementDeadline := optionalColumn row.retirementOverlapDeadline
  stateChangedAt := row.stateChangedAt.column

/-- `order by token_state, destination_token_record_id`: the state by its text, the
identifier by its bytes. -/
def TokenRow.rank (row : TokenRow) : ℕ ×ₗ ℕ :=
  toLex (
    match row.state with
    | .active => 0
    | .retiring => 1
    | .revoked => 2
    | .staged => 3,
    row.recordID.toList.foldl (fun n b => 256 * n + b.toNat) 0)

/-- The rows of a destination that are not revoked. -/
def Store.liveRows (s : Store) (destination : DestinationID) : List TokenRow :=
  s.tokens.filter fun row => decide (row.destinationID = destination ∧ row.state ≠ .revoked)

/-- `lockLifecycleTokensSQL` and `inspectLifecycleTokensSQL`. -/
def Store.lifecycleTokens (s : Store) (destination : DestinationID) : List TokenRow :=
  ((s.liveRows destination).insertionSort fun a b => a.rank ≤ b.rank).take 4

/-- The loop over the token rows in `loadDestinationLifecycleState`. -/
def collectTokens (expectedAudience : GatewayAudienceID) (destination : Destination) :
    List LifecycleTokenRecord → List DestinationToken → Except Sentinel (List DestinationToken)
  | [], tokens => .ok tokens
  | record :: records, tokens => do
    .refuseIf (tokens.length = 3) .errDestinationLifecycleReconciliation
    let token ← (record.token expectedAudience destination).relabel
      .errDestinationLifecycleReconciliation
    collectTokens expectedAudience destination records (tokens ++ [token])

/-- `lifecycleLockedState`. -/
structure LifecycleLockedState where
  destination : Destination
  snapshot : DestinationLifecycleSnapshot

/-- `loadDestinationLifecycleState`, when every row is delivered. -/
def Store.loadState (s : Store) (expectedAudience : GatewayAudienceID)
    (expectedDestination : DestinationID) (now : Time) : Except Sentinel LifecycleLockedState := do
  let some row := s.destination? expectedDestination
    | throw .errDestinationLifecycleConflict
  let destination ← (row.record.destination expectedAudience expectedDestination now).relabel
    .errDestinationLifecycleReconciliation
  let tokens ← collectTokens expectedAudience destination
    ((s.lifecycleTokens expectedDestination).map TokenRow.record) []
  let snapshot ← (newDestinationLifecycleSnapshot destination tokens now).relabel
    .errDestinationLifecycleReconciliation
  return ⟨destination, snapshot⟩

variable {audience : GatewayAudienceID} {id : DestinationID} {now : Time} {s : Store}
  {row : TokenRow}

theorem Store.loadState_of_collect {row : DestinationRow} {destination : Destination}
    {tokens : List DestinationToken} {snapshot : DestinationLifecycleSnapshot}
    (hrow : s.destination? id = some row)
    (hdest : row.record.destination audience id now = .ok destination)
    (htokens : collectTokens audience destination
      ((s.lifecycleTokens id).map TokenRow.record) [] = .ok tokens)
    (hsnap : newDestinationLifecycleSnapshot destination tokens now = .ok snapshot) :
    s.loadState audience id now = .ok ⟨destination, snapshot⟩ := by
  simp only [Store.loadState, hrow, hdest, Except.bind_eq_ok, Except.relabel_eq_ok,
    Except.pure_eq_ok]
  exact ⟨_, rfl, tokens, htokens, snapshot, hsnap, rfl⟩

/-! ## Reading one row -/

/-- The time in a token for a column that may be null. -/
def optionalTime : Option Timestamp → Time
  | none => 0
  | some value => value.toTime

@[simp] theorem optionalTime_none : optionalTime none = 0 := rfl

@[simp] theorem optionalTime_some (t : Timestamp) : optionalTime (some t) = t.toTime := rfl

/-- The view of the token a row holds. -/
def TokenRow.view (row : TokenRow) : LifecycleTokenView where
  recordID := row.recordID
  state := row.state
  createdAt := row.createdAt.toTime
  expiresAt := row.expiresAt.toTime
  stagedCleanupDeadline := row.stagedCleanupDeadline.toTime
  activatedAt := optionalTime row.activatedAt
  retirementStartedAt := optionalTime row.retirementStartedAt
  retirementDeadline := optionalTime row.retirementOverlapDeadline
  revokedAt := optionalTime row.revokedAt
  stateChangedAt := row.stateChangedAt.toTime

/-- No time of the row is Go's zero time, which the reader takes for a broken column. -/
structure TokenRow.TimesPresent (row : TokenRow) : Prop where
  created : row.createdAt.micros ≠ 0
  expires : row.expiresAt.micros ≠ 0
  cleanup : row.stagedCleanupDeadline.micros ≠ 0
  changed : row.stateChangedAt.micros ≠ 0
  activated : ∀ t, row.activatedAt = some t → t.micros ≠ 0
  retirement : ∀ t, row.retirementStartedAt = some t → t.micros ≠ 0
  revoked : ∀ t, row.revokedAt = some t → t.micros ≠ 0
  deadline : ∀ t, row.retirementOverlapDeadline = some t → t.micros ≠ 0

@[simp] theorem finiteTimestamp_column {t : Timestamp} :
    FiniteTimestamp t.column ↔ t.micros ≠ 0 := by
  simp [FiniteTimestamp, Timestamp.column]

@[simp] theorem column_time (t : Timestamp) : t.column.time = t.toTime := rfl

variable {o : Option Timestamp}

theorem optionalFiniteTime_column {value : Time} :
    optionalFiniteTime (optionalColumn o) = .ok value ↔
      (∀ t, o = some t → t.micros ≠ 0) ∧ optionalTime o = value := by
  cases o with
  | none => simp [optionalFiniteTime, optionalColumn, optionalTime]
  | some t =>
    by_cases h : t.micros = 0 <;>
      simp [optionalFiniteTime, optionalColumn, Timestamp.column, optionalTime, h]

theorem optionalTime_eq_zero (h : ∀ t, o = some t → t.micros ≠ 0) :
    optionalTime o = 0 ↔ o = none := by
  cases o with
  | none => simp [optionalTime]
  | some t => simpa [optionalTime] using h t rfl

theorem parseUUID_ok {value parsed : UUID} :
    parseUUID (formatUUID value) false = .ok parsed ↔ ¬ value.IsZero ∧ value = parsed := by
  rw [parseUUID_formatUUID]
  split <;> simp [*]

/-- The specification a row is read as. -/
def TokenRow.spec (row : TokenRow) (destination : Destination) (verifier : TokenVerifier)
    (keyID : DestinationVerifierKeyID) : DestinationTokenSpec where
  audienceID := row.audienceID
  destination := destination
  recordID := row.recordID
  verifier := verifier
  verifierKeyID := keyID
  state := row.state
  createdAt := row.createdAt.toTime
  activatedAt := optionalTime row.activatedAt
  retirementStartedAt := optionalTime row.retirementStartedAt
  revokedAt := optionalTime row.revokedAt
  expiresAt := row.expiresAt.toTime
  stagedCleanupDeadline := row.stagedCleanupDeadline.toTime
  retirementDeadline := optionalTime row.retirementOverlapDeadline
  stateChangedAt := row.stateChangedAt.toTime

/-- **When a row is read, and as what.** -/
theorem TokenRow.token_eq_ok {destination : Destination} {token : DestinationToken} :
    row.record.token audience destination = .ok token ↔
      row.TimesPresent ∧ ¬ row.recordID.IsZero ∧ ¬ row.audienceID.IsZero ∧
      ¬ row.destinationID.IsZero ∧ row.audienceID = audience ∧
      row.destinationID = destination.id ∧ destination.audienceID = row.audienceID ∧
      ∃ verifier keyID, newTokenVerifier row.verifier = .ok verifier ∧
        newDestinationVerifierKeyID row.verifierKeyID = .ok keyID ∧
        token.spec = row.spec destination verifier keyID := by
  simp only [LifecycleTokenRecord.token, TokenRow.record, Except.bind_eq_ok,
    Except.refuseIf_eq_ok, Except.relabel_eq_ok, parseDestinationTokenRecordID,
    parseGatewayAudienceID, parseDestinationID, parseUUID_ok, optionalFiniteTime_column,
    destinationTokenState_text, newDestinationToken_eq_ok, column_time, finiteTimestamp_column,
    exists_const, Except.ok.injEq, not_or, not_not]
  constructor
  · rintro ⟨⟨hc, he, hcl, hsc⟩, _, ⟨hr0, rfl⟩, _, ⟨ha0, rfl⟩, _, ⟨hd0, rfl⟩, verifier, hver,
      keyID, hkey, _, rfl, _, ⟨ha, rfl⟩, _, ⟨hr, rfl⟩, _, ⟨hv, rfl⟩, _, ⟨hd, rfl⟩,
      ⟨haud, hdest, hda⟩, hspec⟩
    exact ⟨⟨hc, he, hcl, hsc, ha, hr, hv, hd⟩, hr0, ha0, hd0, haud, hdest, hda, verifier, keyID,
      hver, hkey, hspec⟩
  · rintro ⟨ht, hr0, ha0, hd0, haud, hdest, hda, verifier, keyID, hver, hkey, hspec⟩
    exact ⟨⟨ht.created, ht.expires, ht.cleanup, ht.changed⟩, _, ⟨hr0, rfl⟩, _, ⟨ha0, rfl⟩, _,
      ⟨hd0, rfl⟩, verifier, hver, keyID, hkey, _, rfl, _, ⟨ht.activated, rfl⟩, _,
      ⟨ht.retirement, rfl⟩, _, ⟨ht.revoked, rfl⟩, _, ⟨ht.deadline, rfl⟩, ⟨haud, hdest, hda⟩, hspec⟩

/-- A token read from a row shows the row. -/
theorem TokenRow.view_of_token {destination : Destination} {token : DestinationToken}
    (h : row.record.token audience destination = .ok token) :
    lifecycleTokenView token = row.view ∧ token.spec.destination = destination := by
  obtain ⟨-, -, -, -, -, -, -, verifier, keyID, -, -, hspec⟩ := TokenRow.token_eq_ok.mp h
  simp [lifecycleTokenView, hspec, TokenRow.spec, TokenRow.view]

/-! ## Rows that satisfy the constraints can be read -/

/-- What the `CHECK` constraints say of a row, as propositions. -/
structure TokenRow.Checked (row : TokenRow) : Prop where
  record : ¬ row.recordID.IsZero
  verifier : row.verifier.length = 32
  lifetime : row.createdAt < row.expiresAt ∧ row.expiresAt ≤ row.createdAt.add (90 * day)
  cleanup : row.createdAt < row.stagedCleanupDeadline ∧
    row.stagedCleanupDeadline ≤ row.createdAt.add day
  changed : row.createdAt ≤ row.stateChangedAt
  activated : ∀ t, row.activatedAt = some t → row.createdAt ≤ t ∧ t ≤ row.stateChangedAt
  retirement : ∀ t, row.retirementStartedAt = some t →
    (∃ a, row.activatedAt = some a ∧ a ≤ t) ∧ t ≤ row.stateChangedAt ∧
    ∃ d, row.retirementOverlapDeadline = some d ∧ t < d ∧ d ≤ t.add day
  noRetirement : row.retirementStartedAt = none → row.retirementOverlapDeadline = none
  revoked : ∀ t, row.revokedAt = some t → row.createdAt ≤ t ∧ t ≤ row.stateChangedAt
  staged : row.state = .staged → row.activatedAt = none ∧ row.retirementStartedAt = none ∧
    row.revokedAt = none
  active : row.state = .active → row.activatedAt.isSome = true ∧ row.retirementStartedAt = none ∧
    row.revokedAt = none
  retiring : row.state = .retiring → row.activatedAt.isSome = true ∧
    row.retirementStartedAt.isSome = true ∧ row.revokedAt = none
  revokedState : row.state = .revoked → row.revokedAt.isSome = true

theorem Store.checked (h : row ∈ s.tokens) : row.Checked := by
  have hlife := s.tokensValid .lifetime row h
  have hclean := s.tokensValid .stagedCleanupBound row h
  have horder := s.tokensValid .stateTimeOrder row h
  have hbound := s.tokensValid .retirementBound row h
  have hfields := s.tokensValid .stateFields row h
  simp only [TokenRow.checkLifetime, TokenRow.checkStagedCleanupBound, Sql.holds_and,
    Sql.holds_compare_some] at hlife hclean
  simp only [TokenRow.checkStateTimeOrder, Sql.holds_and, Sql.holds_or, Sql.holds_compare_some,
    Sql.holds_isNull, Sql.holds_isNotNull] at horder
  simp only [TokenRow.checkRetirementBound, Sql.holds_and, Sql.holds_or,
    Sql.holds_isNull, Sql.holds_isNotNull] at hbound
  simp only [TokenRow.checkStateFields, Sql.holds_and, Sql.holds_or,
    Sql.holds_isNull, Sql.holds_isNotNull, Sql.holds_some, decide_eq_true_eq] at hfields
  obtain ⟨hsc, hact, hret, hrev⟩ := horder
  refine ⟨s.tokensValid .recordIDNonzero row h, s.tokensValid .verifierSize row h, hlife, hclean,
    hsc, ?_, ?_, ?_, ?_, ?_, ?_, ?_, ?_⟩
  · intro t ht
    simpa [ht] using hact
  · intro t ht
    cases ha : row.activatedAt with
    | none => simp [ht, ha] at hret
    | some a =>
      cases hd : row.retirementOverlapDeadline with
      | none => simp [ht, hd] at hbound
      | some d =>
        simp only [ht, ha, reduceCtorEq, Option.isSome_some, Sql.holds_compare_some, true_and,
          false_or] at hret
        simp only [ht, hd, reduceCtorEq, false_and, Option.isSome_some, Option.map_some,
          Sql.holds_compare_some, true_and, false_or] at hbound
        exact ⟨⟨a, rfl, hret.1⟩, hret.2, d, rfl, hbound⟩
  · intro hr
    simpa [hr] using hbound
  · intro t ht
    simpa [ht] using hrev
  -- the constraint on the fields is a disjunction over the states
  · intro hs
    simp only [hs, reduceCtorEq, false_and, true_and, or_false] at hfields
    exact ⟨hfields.1, hfields.2.1, hfields.2.2.2⟩
  · intro hs
    simp only [hs, reduceCtorEq, false_and, true_and, false_or, or_false] at hfields
    exact ⟨hfields.1, hfields.2.1, hfields.2.2.2⟩
  · intro hs
    simp only [hs, reduceCtorEq, false_and, true_and, false_or, or_false] at hfields
    exact ⟨hfields.1, hfields.2.1, hfields.2.2.2⟩
  · intro hs
    simpa only [hs, reduceCtorEq, false_and, true_and, false_or] using hfields

theorem TokenRow.history (hc : row.Checked) (ht : row.TimesPresent) :
    LifecycleHistory row.createdAt.toTime row.stateChangedAt.toTime (optionalTime row.activatedAt)
      (optionalTime row.retirementStartedAt) (optionalTime row.retirementOverlapDeadline)
      (optionalTime row.revokedAt) tokenMaxOverlap := by
  refine ⟨?_, ?_, ?_, ?_, ?_, ?_⟩
  · simpa using ht.created
  · simpa using hc.changed
  · intro hne
    cases ha : row.activatedAt with
    | none => simp [ha] at hne
    | some t => simpa using hc.activated t ha
  · rw [optionalTime_eq_zero ht.retirement, optionalTime_eq_zero ht.deadline]
    refine ⟨hc.noRetirement, fun hd => ?_⟩
    by_contra hr
    obtain ⟨t, hr⟩ := Option.ne_none_iff_exists'.mp hr
    obtain ⟨-, -, d, hd', -⟩ := hc.retirement t hr
    rw [hd] at hd'
    cases hd'
  · intro hne
    cases hr : row.retirementStartedAt with
    | none => simp [hr] at hne
    | some t =>
      obtain ⟨⟨a, ha, hat⟩, htc, d, hd, htd, hdt⟩ := hc.retirement t hr
      simp only [ha, hd, optionalTime_some, Timestamp.toTime_le, Timestamp.toTime_lt, ne_eq,
        Timestamp.toTime_eq_zero]
      refine ⟨ht.activated a ha, hat, htc, htd, (Time.sub_le (by decide) (by decide)).mpr ?_⟩
      simp only [Timestamp.le_iff, Timestamp.add, day_eq] at hdt
      simp only [Timestamp.toTime_nanos, tokenMaxOverlap, day_eq]
      omega
  · intro hne
    cases hv : row.revokedAt with
    | none => simp [hv] at hne
    | some t => simpa using hc.revoked t hv

theorem TokenRow.stateFields {destination : Destination} {verifier : TokenVerifier}
    {keyID : DestinationVerifierKeyID} (hc : row.Checked) (ht : row.TimesPresent) :
    (row.spec destination verifier keyID).StateFields := by
  have hz : ∀ o : Option Timestamp, (∀ t, o = some t → t.micros ≠ 0) → o.isSome = true →
      optionalTime o ≠ 0 := by
    intro o ho hs
    rw [ne_eq, optionalTime_eq_zero ho]
    rintro rfl
    cases hs
  unfold DestinationTokenSpec.StateFields TokenRow.spec
  cases hs : row.state with
  | staged =>
    obtain ⟨h₁, h₂, h₃⟩ := hc.staged hs
    simp [h₁, h₂, h₃, hc.noRetirement h₂]
  | active =>
    obtain ⟨h₁, h₂, h₃⟩ := hc.active hs
    simp [hz _ ht.activated h₁, h₂, h₃, hc.noRetirement h₂]
  | retiring =>
    obtain ⟨h₁, h₂, h₃⟩ := hc.retiring hs
    simp [hz _ ht.activated h₁, hz _ ht.retirement h₂, h₃]
  | revoked => exact hz _ ht.revoked (hc.revokedState hs)

/-- **A row that satisfies the constraints is read**, if no time of it is the zero
time and its key identifier is valid. -/
theorem TokenRow.token_exists (destination : Destination) (hc : row.Checked) (ht : row.TimesPresent)
    (hk : validKeyID row.verifierKeyID = true) (haud : ¬ row.audienceID.IsZero)
    (hid : ¬ row.destinationID.IsZero) (hdest : row.destinationID = destination.id)
    (hda : destination.audienceID = row.audienceID) :
    ∃ token, row.record.token row.audienceID destination = .ok token := by
  have hver : newTokenVerifier row.verifier = .ok ⟨⟨row.verifier, hc.verifier⟩, true⟩ := by
    simp [newTokenVerifier, Bytes.ofList?, hc.verifier]
  have hkey : newDestinationVerifierKeyID row.verifierKeyID =
      .ok ⟨row.verifierKeyID, Or.inr hk⟩ := by
    simp [newDestinationVerifierKeyID, hk]
  have hk0 : ¬ DestinationVerifierKeyID.IsZero ⟨row.verifierKeyID, Or.inr hk⟩ := by
    intro h0
    simp [validKeyID, show row.verifierKeyID = [] from h0] at hk
  have hvalid : (row.spec destination ⟨⟨row.verifier, hc.verifier⟩, true⟩
      ⟨row.verifierKeyID, Or.inr hk⟩).Valid := by
    refine ⟨haud, hda, hdest ▸ hid, hc.record, rfl, hk0, ⟨?_, ?_⟩, ⟨?_, ?_⟩, row.history hc ht,
      row.stateFields hc ht⟩
    · simpa [TokenRow.spec] using hc.lifetime.1
    · have h := hc.lifetime.2
      simp only [Timestamp.le_iff, Timestamp.add, day_eq] at h
      refine (Time.sub_le (by decide) (by decide)).mpr ?_
      simp only [TokenRow.spec, Timestamp.toTime_nanos, tokenMaxLifetime, day_eq]
      omega
    · simpa [TokenRow.spec] using hc.cleanup.1
    · have h := hc.cleanup.2
      simp only [Timestamp.le_iff, Timestamp.add, day_eq] at h
      refine (Time.sub_le (by decide) (by decide)).mpr ?_
      simp only [TokenRow.spec, Timestamp.toTime_nanos, tokenMaxCleanup, day_eq]
      omega
  exact ⟨⟨_, validateDestinationTokenSpec_eq_ok.mpr hvalid⟩, TokenRow.token_eq_ok.mpr
    ⟨ht, hc.record, haud, hid, rfl, hdest, hda, _, _, hver, hkey, rfl⟩⟩

/-! ## Reading all rows of a destination -/

/-- The destination a row is read as. -/
def DestinationRow.value (row : DestinationRow) : Destination where
  audienceID := row.audienceID
  id := row.destinationID
  state := row.state
  createdAt := row.createdAt.toTime
  stateChangedAt := row.stateChangedAt.toTime

theorem DestinationRow.destination_eq_ok {row : DestinationRow} {destination : Destination} :
    row.record.destination audience id now = .ok destination ↔
      row.createdAt.micros ≠ 0 ∧ row.stateChangedAt.micros ≠ 0 ∧ row.createdAt.toTime ≤ now ∧
      row.stateChangedAt.toTime ≤ now ∧ ¬ row.destinationID.IsZero ∧ ¬ row.audienceID.IsZero ∧
      row.destinationID = id ∧ row.audienceID = audience ∧ row.createdAt ≤ row.stateChangedAt ∧
      row.value = destination := by
  have hnew : ∀ d : Destination, newDestination row.audienceID row.destinationID row.state
      row.createdAt.toTime row.stateChangedAt.toTime = .ok d ↔
      ¬ row.audienceID.IsZero ∧ ¬ row.destinationID.IsZero ∧ row.createdAt.micros ≠ 0 ∧
        row.createdAt ≤ row.stateChangedAt ∧ row.value = d := by
    intro d
    unfold newDestination
    split
    · rename_i hbad
      simp only [reduceCtorEq, false_iff]
      rintro ⟨h₁, h₂, h₃, h₄, -⟩
      simp [h₁, h₂, h₃, not_lt.mpr h₄] at hbad
    · rename_i hgood
      simp only [not_or, Timestamp.toTime_eq_zero, Timestamp.toTime_lt, not_lt] at hgood
      simp [hgood, DestinationRow.value]
  simp only [LifecycleDestinationRecord.destination, Except.bind_eq_ok, Except.refuseIf_eq_ok,
    Except.relabel_eq_ok]
  simp only [DestinationRow.record, parseGatewayAudienceID, parseDestinationID, parseUUID_ok,
    destinationState_text, column_time, finiteTimestamp_column, exists_const, Except.ok.injEq,
    not_or, not_not, not_lt]
  constructor
  · rintro ⟨⟨hc, hs⟩, ⟨hcn, hsn⟩, _, ⟨hd0, rfl⟩, _, ⟨ha0, rfl⟩, _, rfl, ⟨hd, ha⟩, hval⟩
    obtain ⟨-, -, -, hcs, hval⟩ := (hnew _).mp hval
    exact ⟨hc, hs, hcn, hsn, hd0, ha0, hd, ha, hcs, hval⟩
  · rintro ⟨hc, hs, hcn, hsn, hd0, ha0, hd, ha, hcs, hval⟩
    exact ⟨⟨hc, hs⟩, ⟨hcn, hsn⟩, _, ⟨hd0, rfl⟩, _, ⟨ha0, rfl⟩, _, rfl, ⟨hd, ha⟩,
      (hnew _).mpr ⟨ha0, hd0, hc, hcs, hval⟩⟩

/-- The loop reads all records, and there are at most three. -/
theorem collectTokens_eq_ok {audience : GatewayAudienceID} {destination : Destination}
    {records : List LifecycleTokenRecord} {done tokens : List DestinationToken}
    (hdone : done.length ≤ 3) :
    collectTokens audience destination records done = .ok tokens ↔
      done.length + records.length ≤ 3 ∧ ∃ new, tokens = done ++ new ∧
        List.Forall₂ (fun record token => record.token audience destination = .ok token)
          records new := by
  induction records generalizing done with
  | nil =>
    simp only [collectTokens, Except.ok.injEq, List.length_nil, Nat.add_zero,
      List.forall₂_nil_left_iff, exists_eq_right, List.append_nil, hdone, true_and]
    exact eq_comm
  | cons record records ih =>
    simp only [collectTokens, Except.bind_eq_ok, Except.refuseIf_eq_ok, Except.relabel_eq_ok,
      exists_const, List.length_cons]
    constructor
    · rintro ⟨hlen, token, htoken, hrest⟩
      rw [ih (by simp; omega)] at hrest
      obtain ⟨hlen', new, rfl, hnew⟩ := hrest
      simp only [List.length_append, List.length_singleton] at hlen'
      exact ⟨by omega, token :: new, by simp, .cons htoken hnew⟩
    · rintro ⟨hlen, new, rfl, hnew⟩
      cases hnew with
      | @cons _ token _ new htoken hrest =>
        refine ⟨by omega, token, htoken, ?_⟩
        rw [ih (by simp; omega)]
        exact ⟨by simp; omega, new, by simp, hrest⟩

/-- A loaded state, step by step. -/
theorem Store.loadState_eq_ok {state : LifecycleLockedState} :
    s.loadState audience id now = .ok state ↔
      ∃ row, s.destination? id = some row ∧
        row.record.destination audience id now = .ok state.destination ∧
        (s.lifecycleTokens id).length ≤ 3 ∧ ∃ tokens,
        List.Forall₂ (fun (row : TokenRow) token =>
          row.record.token audience state.destination = .ok token) (s.lifecycleTokens id) tokens ∧
        newDestinationLifecycleSnapshot state.destination tokens now = .ok state.snapshot := by
  unfold Store.loadState
  cases hd : s.destination? id with
  | none => simp [throw, throwThe, MonadExceptOf.throw]
  | some row =>
    simp only [Except.bind_eq_ok, Except.relabel_eq_ok, Except.pure_eq_ok,
      @collectTokens_eq_ok _ _ _ [] _ (by simp), List.length_map, List.length_nil, Nat.zero_add,
      List.nil_append, exists_eq_left', List.forall₂_map_left_iff, Option.some.injEq]
    constructor
    · rintro ⟨destination, hrow, tokens, ⟨hlen, hread⟩, snapshot, hsnap, rfl⟩
      exact ⟨hrow, hlen, tokens, hread, hsnap⟩
    · rintro ⟨hrow, hlen, tokens, hread, hsnap⟩
      exact ⟨_, hrow, tokens, ⟨hlen, hread⟩, _, hsnap, rfl⟩

end OncallGateway
