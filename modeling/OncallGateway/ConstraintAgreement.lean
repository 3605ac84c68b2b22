import OncallGateway.LifecycleLoad
import OncallGateway.Authentication

/-! # The constraints of the tables and the constructors of the values

A destination token and an authentication credential are checked twice: by the `CHECK`
constraints of their table when a row is written, and by `validateDestinationTokenSpec` or
`validateCredentialSpec` when the row is read.  The constraints are in SQL's logic of three
values over columns that may be `NULL`; the constructors are in Go, over times that are zero
when absent.

Here a row has an arbitrary text for its state and arbitrary finite timestamps.  If none of
them is Go's zero time, the two accept the same rows (`constraints_match_validation`).  The
tables share the order of their times and the bound on the overlap, and so do the
constructors (`validateLifecycleHistory`); that part is compared once
(`LifecycleColumns.history_iff`).
-/

namespace OncallGateway

/-! ## Credentials -/

/-- `CredentialSlot`, with what `validateCredentialSpec` reads of it. -/
structure CredentialSlot where
  audienceID : GatewayAudienceID
  principalID : CorePrincipalID
  id : CredentialSlotID
deriving DecidableEq

/-- `CredentialSpec`. -/
structure CredentialSpec where
  audienceID : GatewayAudienceID
  principal : Principal
  slot : CredentialSlot
  recordID : CredentialRecordID
  publicID : CredentialID
  state : CredentialState
  notBefore : Time
  expiresAt : Time
  activatedAt : Time
  retirementStartedAt : Time
  retirementDeadline : Time
  revokedAt : Time
  createdAt : Time
  stateChangedAt : Time
deriving DecidableEq

/-- `credentialMaxLifetime`. -/
def credentialMaxLifetime : Int := 90 * day

/-- `credentialMaxOverlap`. -/
def credentialMaxOverlap : Int := day

/-- The `switch` of `validateCredentialSpec`: the times a state has. -/
def validateCredentialStateFields (spec : CredentialSpec) : Except Sentinel Unit :=
  match spec.state with
  | .disabled => if spec.revokedAt ≠ 0 then .error .errInvalidState else .ok ()
  | .active =>
    if spec.activatedAt = 0 ∨ spec.retirementStartedAt ≠ 0 ∨ spec.retirementDeadline ≠ 0 ∨
        spec.revokedAt ≠ 0 then
      .error .errInvalidState
    else .ok ()
  | .retiring =>
    if spec.activatedAt = 0 ∨ spec.retirementStartedAt = 0 ∨ spec.revokedAt ≠ 0 then
      .error .errInvalidState
    else .ok ()
  | .revoked => if spec.revokedAt = 0 then .error .errInvalidState else .ok ()
  | .other => .error .errInvalidState

/-- `validateCredentialSpec`. -/
def validateCredentialSpec (spec : CredentialSpec) : Except Sentinel Unit :=
  if spec.audienceID.IsZero ∨ spec.principal.audienceID ≠ spec.audienceID ∨
      spec.slot.audienceID ≠ spec.audienceID ∨ spec.slot.principalID ≠ spec.principal.id then
    if ¬ spec.audienceID.IsZero ∧
        ((¬ spec.principal.audienceID.IsZero ∧ spec.principal.audienceID ≠ spec.audienceID) ∨
          (¬ spec.slot.audienceID.IsZero ∧ spec.slot.audienceID ≠ spec.audienceID)) then
      .error .errAudienceMismatch
    else
      .error .errInvalidState
  else if spec.recordID.IsZero ∨ spec.publicID.IsZero ∨ spec.slot.id.IsZero ∨
      spec.createdAt = 0 ∨ spec.notBefore < spec.createdAt ∨ ¬ spec.expiresAt > spec.notBefore ∨
      spec.expiresAt.sub spec.notBefore > credentialMaxLifetime then
    .error .errInvalidState
  else
    match validateLifecycleHistory spec.createdAt spec.stateChangedAt spec.activatedAt
        spec.retirementStartedAt spec.retirementDeadline spec.revokedAt credentialMaxOverlap with
    | .error _ => .error .errInvalidState
    | .ok _ => validateCredentialStateFields spec

/-- `credentialState`. -/
def credentialState : String → Except Sentinel CredentialState
  | "disabled" => .ok .disabled
  | "active" => .ok .active
  | "retiring" => .ok .retiring
  | "revoked" => .ok .revoked
  | _ => .error .errAuthenticationStateIntegrity

/-- The times a credential has in each state. -/
def CredentialSpec.StateFields (spec : CredentialSpec) : Prop :=
  match spec.state with
  | .disabled => spec.revokedAt = 0
  | .active => spec.activatedAt ≠ 0 ∧ spec.retirementStartedAt = 0 ∧ spec.retirementDeadline = 0 ∧
      spec.revokedAt = 0
  | .retiring => spec.activatedAt ≠ 0 ∧ spec.retirementStartedAt ≠ 0 ∧ spec.revokedAt = 0
  | .revoked => spec.revokedAt ≠ 0
  | .other => False

theorem validateCredentialStateFields_eq_ok {spec : CredentialSpec} :
    validateCredentialStateFields spec = .ok () ↔ spec.StateFields := by
  unfold validateCredentialStateFields CredentialSpec.StateFields
  cases spec.state <;> simp [not_or]

/-- The specifications `validateCredentialSpec` accepts. -/
structure CredentialSpec.Valid (spec : CredentialSpec) : Prop where
  audience : ¬ spec.audienceID.IsZero
  owner : spec.principal.audienceID = spec.audienceID ∧ spec.slot.audienceID = spec.audienceID ∧
    spec.slot.principalID = spec.principal.id
  ids : ¬ spec.recordID.IsZero ∧ ¬ spec.publicID.IsZero ∧ ¬ spec.slot.id.IsZero
  lifetime : spec.createdAt ≤ spec.notBefore ∧ spec.notBefore < spec.expiresAt ∧
    spec.expiresAt.sub spec.notBefore ≤ credentialMaxLifetime
  history : LifecycleHistory spec.createdAt spec.stateChangedAt spec.activatedAt
    spec.retirementStartedAt spec.retirementDeadline spec.revokedAt credentialMaxOverlap
  fields : spec.StateFields

/-- **What `validateCredentialSpec` accepts.** -/
theorem validateCredentialSpec_eq_ok {spec : CredentialSpec} :
    validateCredentialSpec spec = .ok () ↔ spec.Valid := by
  unfold validateCredentialSpec
  constructor
  · intro h
    split_ifs at h with h₁ h₂ h₃
    push Not at h₁ h₃
    obtain ⟨hr, hp, hs, -, hcn, hne, hel⟩ := h₃
    cases hh : validateLifecycleHistory spec.createdAt spec.stateChangedAt spec.activatedAt
      spec.retirementStartedAt spec.retirementDeadline spec.revokedAt credentialMaxOverlap with
    | error e => simp [hh] at h
    | ok _ =>
      rw [hh] at h
      exact ⟨h₁.1, h₁.2, ⟨hr, hp, hs⟩, ⟨hcn, hne, hel⟩, validateLifecycleHistory_eq_ok.mp hh,
        validateCredentialStateFields_eq_ok.mp h⟩
  · intro h
    have h₁ : ¬ (spec.audienceID.IsZero ∨ spec.principal.audienceID ≠ spec.audienceID ∨
        spec.slot.audienceID ≠ spec.audienceID ∨ spec.slot.principalID ≠ spec.principal.id) := by
      push Not
      exact ⟨h.audience, h.owner⟩
    have h₂ : ¬ (spec.recordID.IsZero ∨ spec.publicID.IsZero ∨ spec.slot.id.IsZero ∨
        spec.createdAt = 0 ∨ spec.notBefore < spec.createdAt ∨ ¬ spec.expiresAt > spec.notBefore ∨
        spec.expiresAt.sub spec.notBefore > credentialMaxLifetime) := by
      push Not
      exact ⟨h.ids.1, h.ids.2.1, h.ids.2.2, h.history.created, h.lifetime⟩
    rw [if_neg h₁, if_neg h₂, validateLifecycleHistory_eq_ok.mpr h.history]
    exact validateCredentialStateFields_eq_ok.mpr h.fields

/-! ## Rows -/

/-- The columns that the two tables share. -/
structure LifecycleColumns where
  stateText : String
  createdAt : Timestamp
  activatedAt : Option Timestamp
  retirementStartedAt : Option Timestamp
  retirementOverlapDeadline : Option Timestamp
  revokedAt : Option Timestamp
  expiresAt : Timestamp
  stateChangedAt : Timestamp

/-- The columns of `gateway_destination_tokens` that its lifecycle constraints are about. -/
structure TokenLifecycleColumns extends LifecycleColumns where
  stagedCleanupDeadline : Timestamp

/-- The columns of `core_authentication_credentials` that its lifecycle constraints are
about. -/
structure CredentialLifecycleColumns extends LifecycleColumns where
  notBefore : Timestamp

namespace LifecycleColumns
open Sql
variable (columns : LifecycleColumns)

/-- A comparison of the state with a text. -/
def stateIs (text : String) : Truth := some (decide (columns.stateText = text))

/-- The constraints `_state_time_order`. -/
def checkStateTimeOrder : Truth :=
  and (compare (· ≥ ·) (some columns.stateChangedAt) (some columns.createdAt))
    (and
      (or (isNull columns.activatedAt)
        (and (compare (· ≥ ·) columns.activatedAt (some columns.createdAt))
          (compare (· ≤ ·) columns.activatedAt (some columns.stateChangedAt))))
      (and
        (or (isNull columns.retirementStartedAt)
          (and (isNotNull columns.activatedAt)
            (and (compare (· ≥ ·) columns.retirementStartedAt columns.activatedAt)
              (compare (· ≤ ·) columns.retirementStartedAt (some columns.stateChangedAt)))))
        (or (isNull columns.revokedAt)
          (and (compare (· ≥ ·) columns.revokedAt (some columns.createdAt))
            (compare (· ≤ ·) columns.revokedAt (some columns.stateChangedAt))))))

/-- The constraints `_retirement_bound`. -/
def checkRetirementBound : Truth :=
  or (and (isNull columns.retirementStartedAt) (isNull columns.retirementOverlapDeadline))
    (and (isNotNull columns.retirementStartedAt)
      (and (isNotNull columns.retirementOverlapDeadline)
        (and (compare (· > ·) columns.retirementOverlapDeadline columns.retirementStartedAt)
          (compare (· ≤ ·) columns.retirementOverlapDeadline
            (columns.retirementStartedAt.map fun started => started.add day)))))

/-- The fields of an active row, in the constraints `_state_fields`. -/
def activeFields : Truth :=
  and (columns.stateIs "active")
    (and (isNotNull columns.activatedAt) (and (isNull columns.retirementStartedAt)
      (and (isNull columns.retirementOverlapDeadline) (isNull columns.revokedAt))))

/-- The fields of a retiring row. -/
def retiringFields : Truth :=
  and (columns.stateIs "retiring")
    (and (isNotNull columns.activatedAt) (and (isNotNull columns.retirementStartedAt)
      (and (isNotNull columns.retirementOverlapDeadline) (isNull columns.revokedAt))))

/-- The fields of a revoked row. -/
def revokedFields : Truth := and (columns.stateIs "revoked") (isNotNull columns.revokedAt)

/-- No time of the row is Go's zero time. -/
structure TimesPresent : Prop where
  created : columns.createdAt.micros ≠ 0
  expires : columns.expiresAt.micros ≠ 0
  changed : columns.stateChangedAt.micros ≠ 0
  activated : ∀ t, columns.activatedAt = some t → t.micros ≠ 0
  retirement : ∀ t, columns.retirementStartedAt = some t → t.micros ≠ 0
  deadline : ∀ t, columns.retirementOverlapDeadline = some t → t.micros ≠ 0
  revoked : ∀ t, columns.revokedAt = some t → t.micros ≠ 0

end LifecycleColumns

namespace TokenLifecycleColumns
open Sql
variable (columns : TokenLifecycleColumns)

/-- The constraints `gateway_destination_tokens_state`, `_lifetime`, `_staged_cleanup_bound`
and `_state_fields`. -/
def checkState : Truth :=
  or (columns.stateIs "staged")
    (or (columns.stateIs "active") (or (columns.stateIs "retiring") (columns.stateIs "revoked")))

@[inherit_doc checkState]
def checkLifetime : Truth :=
  and (compare (· < ·) (some columns.createdAt) (some columns.expiresAt))
    (compare (· ≤ ·) (some columns.expiresAt) (some (columns.createdAt.add (90 * day))))

@[inherit_doc checkState]
def checkStagedCleanupBound : Truth :=
  and (compare (· > ·) (some columns.stagedCleanupDeadline) (some columns.createdAt))
    (compare (· ≤ ·) (some columns.stagedCleanupDeadline) (some (columns.createdAt.add day)))

@[inherit_doc checkState]
def checkStateFields : Truth :=
  or
    (and (columns.stateIs "staged")
      (and (isNull columns.activatedAt) (and (isNull columns.retirementStartedAt)
        (and (isNull columns.retirementOverlapDeadline) (isNull columns.revokedAt)))))
    (or columns.activeFields (or columns.retiringFields columns.revokedFields))

/-- **All lifecycle constraints of the table hold of the row.** -/
structure Accepted : Prop where
  state : Holds columns.checkState
  lifetime : Holds columns.checkLifetime
  cleanup : Holds columns.checkStagedCleanupBound
  order : Holds columns.checkStateTimeOrder
  bound : Holds columns.checkRetirementBound
  fields : Holds columns.checkStateFields

end TokenLifecycleColumns

namespace CredentialLifecycleColumns
open Sql
variable (columns : CredentialLifecycleColumns)

/-- The constraints `core_authentication_credentials_state`, `_lifetime` and
`_state_fields`. -/
def checkState : Truth :=
  or (columns.stateIs "disabled")
    (or (columns.stateIs "active") (or (columns.stateIs "retiring") (columns.stateIs "revoked")))

@[inherit_doc checkState]
def checkLifetime : Truth :=
  and (compare (· ≤ ·) (some columns.createdAt) (some columns.notBefore))
    (and (compare (· < ·) (some columns.notBefore) (some columns.expiresAt))
      (compare (· ≤ ·) (some columns.expiresAt) (some (columns.notBefore.add (90 * day)))))

@[inherit_doc checkState]
def checkStateFields : Truth :=
  or (and (columns.stateIs "disabled") (isNull columns.revokedAt))
    (or columns.activeFields (or columns.retiringFields columns.revokedFields))

/-- **All lifecycle constraints of the table hold of the row.** -/
structure Accepted : Prop where
  state : Holds columns.checkState
  lifetime : Holds columns.checkLifetime
  order : Holds columns.checkStateTimeOrder
  bound : Holds columns.checkRetirementBound
  fields : Holds columns.checkStateFields

end CredentialLifecycleColumns

/-! ## What the shared constraints say -/

/-- A length of time that is whole microseconds. -/
theorem Timestamp.sub_toTime_le {a b : Timestamp} {d : Int} (hd : 0 ≤ d) (hd' : d < 2 ^ 62) :
    b.toTime.sub a.toTime ≤ d ↔ b ≤ a.add d := by
  rw [Time.sub_le hd hd', Timestamp.le_iff, Timestamp.add]
  simp only [Timestamp.toTime_nanos]
  omega

/-- A time that may be absent lies between two others. -/
theorem between_iff {created changed : Timestamp} {o : Option Timestamp}
    (h : ∀ t, o = some t → t.micros ≠ 0) :
    Sql.Holds (Sql.or (Sql.isNull o) (Sql.and (Sql.compare (· ≥ ·) o (some created))
        (Sql.compare (· ≤ ·) o (some changed)))) ↔
      (optionalTime o ≠ 0 →
        created.toTime ≤ optionalTime o ∧ optionalTime o ≤ changed.toTime) := by
  cases o with
  | none => simp
  | some t => simp [h t rfl]

namespace LifecycleColumns
variable {columns : LifecycleColumns}

/-- The start and the deadline of a retirement, after the activation. -/
theorem retirement_iff (h : columns.TimesPresent) :
    Sql.Holds (Sql.or (Sql.isNull columns.retirementStartedAt)
        (Sql.and (Sql.isNotNull columns.activatedAt)
          (Sql.and (Sql.compare (· ≥ ·) columns.retirementStartedAt columns.activatedAt)
            (Sql.compare (· ≤ ·) columns.retirementStartedAt (some columns.stateChangedAt))))) ∧
      Sql.Holds columns.checkRetirementBound ↔
      (optionalTime columns.retirementStartedAt = 0 ↔
        optionalTime columns.retirementOverlapDeadline = 0) ∧
      (optionalTime columns.retirementStartedAt ≠ 0 → optionalTime columns.activatedAt ≠ 0 ∧
        optionalTime columns.activatedAt ≤ optionalTime columns.retirementStartedAt ∧
        optionalTime columns.retirementStartedAt ≤ columns.stateChangedAt.toTime ∧
        optionalTime columns.retirementStartedAt < optionalTime columns.retirementOverlapDeadline ∧
        (optionalTime columns.retirementOverlapDeadline).sub
          (optionalTime columns.retirementStartedAt) ≤ day) := by
  have hactivated := h.activated
  have hstarted := h.retirement
  have hdeadline := h.deadline
  unfold checkRetirementBound
  cases hs : columns.retirementStartedAt with
  | none =>
    cases hd : columns.retirementOverlapDeadline with
    | none => simp
    | some d => simp [hdeadline d hd]
  | some started =>
    cases hd : columns.retirementOverlapDeadline with
    | none => simp [hstarted started hs]
    | some d =>
      cases ha : columns.activatedAt with
      | none => simp [hstarted started hs]
      | some a =>
        simp [hstarted started hs, hdeadline d hd, hactivated a ha,
          Timestamp.sub_toTime_le (show 0 ≤ day by decide) (show day < 2 ^ 62 by decide), and_assoc]

/-- **The order of the times, in SQL and in Go.** -/
theorem history_iff (h : columns.TimesPresent) :
    Sql.Holds columns.checkStateTimeOrder ∧ Sql.Holds columns.checkRetirementBound ↔
      LifecycleHistory columns.createdAt.toTime columns.stateChangedAt.toTime
        (optionalTime columns.activatedAt) (optionalTime columns.retirementStartedAt)
        (optionalTime columns.retirementOverlapDeadline) (optionalTime columns.revokedAt) day := by
  rw [checkStateTimeOrder, Sql.holds_and, Sql.holds_and, Sql.holds_and, between_iff h.activated,
    between_iff h.revoked, Sql.holds_compare_some]
  constructor
  · rintro ⟨⟨hchanged, hactivated, hretirement, hrevoked⟩, hbound⟩
    obtain ⟨hpaired, hretired⟩ := (retirement_iff h).mp ⟨hretirement, hbound⟩
    exact ⟨by simpa using h.created, Timestamp.toTime_le.mpr hchanged, hactivated, hpaired, hretired,
      hrevoked⟩
  · intro hh
    obtain ⟨hretirement, hbound⟩ := (retirement_iff h).mpr ⟨hh.paired, hh.retirement⟩
    exact ⟨⟨Timestamp.toTime_le.mp hh.changed, hh.activated, hretirement, hh.revoked⟩, hbound⟩

end LifecycleColumns

/-! ## What the constraints on a state say -/

theorem destinationTokenState_eq_ok {text : String} {state : DestinationTokenState} :
    destinationTokenState text = .ok state ↔ text = state.text := by
  constructor
  · intro h
    unfold destinationTokenState at h
    split at h <;> cases h <;> rfl
  · rintro rfl
    exact destinationTokenState_text state

/-- The text of the column `credential_state`, of a state that has one. -/
def CredentialState.text? : CredentialState → Option String
  | .disabled => some "disabled"
  | .active => some "active"
  | .retiring => some "retiring"
  | .revoked => some "revoked"
  | .other => none

theorem credentialState_eq_ok {text : String} {state : CredentialState} :
    credentialState text = .ok state ↔ state.text? = some text := by
  constructor
  · intro h
    unfold credentialState at h
    split at h <;> cases h <;> rfl
  · intro h
    cases state <;> cases h <;> rfl

/-- The identifiers of a token, each of them valid. -/
structure TokenIdentity where
  audienceID : GatewayAudienceID
  destination : Destination
  recordID : DestinationTokenRecordID
  verifier : TokenVerifier
  verifierKeyID : DestinationVerifierKeyID
  audience : ¬ audienceID.IsZero
  owner : destination.audienceID = audienceID
  place : ¬ destination.id.IsZero
  record : ¬ recordID.IsZero
  present : verifier.present = true
  key : ¬ verifierKeyID.IsZero

/-- The identifiers of a credential, each of them valid. -/
structure CredentialIdentity where
  audienceID : GatewayAudienceID
  principal : Principal
  slot : CredentialSlot
  recordID : CredentialRecordID
  publicID : CredentialID
  audience : ¬ audienceID.IsZero
  owner : principal.audienceID = audienceID ∧ slot.audienceID = audienceID ∧
    slot.principalID = principal.id
  ids : ¬ recordID.IsZero ∧ ¬ publicID.IsZero ∧ ¬ slot.id.IsZero

/-- The specification that is made of a token's row. -/
def TokenLifecycleColumns.spec (columns : TokenLifecycleColumns) (identity : TokenIdentity)
    (state : DestinationTokenState) : DestinationTokenSpec where
  audienceID := identity.audienceID
  destination := identity.destination
  recordID := identity.recordID
  verifier := identity.verifier
  verifierKeyID := identity.verifierKeyID
  state := state
  createdAt := columns.createdAt.toTime
  activatedAt := optionalTime columns.activatedAt
  retirementStartedAt := optionalTime columns.retirementStartedAt
  revokedAt := optionalTime columns.revokedAt
  expiresAt := columns.expiresAt.toTime
  stagedCleanupDeadline := columns.stagedCleanupDeadline.toTime
  retirementDeadline := optionalTime columns.retirementOverlapDeadline
  stateChangedAt := columns.stateChangedAt.toTime

/-- The specification that is made of a credential's row. -/
def CredentialLifecycleColumns.spec (columns : CredentialLifecycleColumns)
    (identity : CredentialIdentity) (state : CredentialState) : CredentialSpec where
  audienceID := identity.audienceID
  principal := identity.principal
  slot := identity.slot
  recordID := identity.recordID
  publicID := identity.publicID
  state := state
  notBefore := columns.notBefore.toTime
  expiresAt := columns.expiresAt.toTime
  activatedAt := optionalTime columns.activatedAt
  retirementStartedAt := optionalTime columns.retirementStartedAt
  retirementDeadline := optionalTime columns.retirementOverlapDeadline
  revokedAt := optionalTime columns.revokedAt
  createdAt := columns.createdAt.toTime
  stateChangedAt := columns.stateChangedAt.toTime

namespace TokenLifecycleColumns
variable {columns : TokenLifecycleColumns} {state : DestinationTokenState}

/-- The state's text is one of the four. -/
theorem checkState_iff :
    Sql.Holds columns.checkState ↔
      ∃ state : DestinationTokenState, columns.stateText = state.text := by
  simp only [checkState, LifecycleColumns.stateIs, Sql.holds_or, Sql.holds_some, decide_eq_true_eq]
  constructor
  · rintro (h | h | h | h)
    exacts [⟨.staged, h⟩, ⟨.active, h⟩, ⟨.retiring, h⟩, ⟨.revoked, h⟩]
  · rintro ⟨state, h⟩
    cases state <;> simp [h, DestinationTokenState.text]

/-- The fields of a state, if a retirement has its start and its deadline together. -/
theorem checkStateFields_iff (h : columns.TimesPresent) (hstate : columns.stateText = state.text)
    (hpaired : columns.retirementStartedAt = none ↔ columns.retirementOverlapDeadline = none)
    (identity : TokenIdentity) :
    Sql.Holds columns.checkStateFields ↔ (columns.spec identity state).StateFields := by
  simp only [DestinationTokenSpec.StateFields, spec, optionalTime_eq_zero h.activated,
    optionalTime_eq_zero h.retirement, optionalTime_eq_zero h.deadline,
    optionalTime_eq_zero h.revoked, checkStateFields, LifecycleColumns.activeFields,
    LifecycleColumns.retiringFields,
    LifecycleColumns.revokedFields, LifecycleColumns.stateIs, hstate, Sql.holds_or, Sql.holds_and,
    Sql.holds_some, Sql.holds_isNull, Sql.holds_isNotNull, decide_eq_true_eq,
    Option.isSome_iff_ne_none, ne_eq]
  cases state <;> simp [DestinationTokenState.text, hpaired]

end TokenLifecycleColumns

namespace CredentialLifecycleColumns
variable {columns : CredentialLifecycleColumns} {state : CredentialState}

theorem checkState_iff :
    Sql.Holds columns.checkState ↔
      ∃ state : CredentialState, state.text? = some columns.stateText := by
  simp only [checkState, LifecycleColumns.stateIs, Sql.holds_or, Sql.holds_some, decide_eq_true_eq]
  constructor
  · rintro (h | h | h | h) <;> rw [h]
    exacts [⟨.disabled, rfl⟩, ⟨.active, rfl⟩, ⟨.retiring, rfl⟩, ⟨.revoked, rfl⟩]
  · rintro ⟨state, h⟩
    cases state <;> simp_all [CredentialState.text?]

theorem checkStateFields_iff (h : columns.TimesPresent)
    (hstate : state.text? = some columns.stateText)
    (hpaired : columns.retirementStartedAt = none ↔ columns.retirementOverlapDeadline = none)
    (identity : CredentialIdentity) :
    Sql.Holds columns.checkStateFields ↔ (columns.spec identity state).StateFields := by
  simp only [CredentialSpec.StateFields, spec, optionalTime_eq_zero h.activated,
    optionalTime_eq_zero h.retirement, optionalTime_eq_zero h.deadline,
    optionalTime_eq_zero h.revoked, checkStateFields, LifecycleColumns.activeFields,
    LifecycleColumns.retiringFields,
    LifecycleColumns.revokedFields, LifecycleColumns.stateIs, Sql.holds_or, Sql.holds_and,
    Sql.holds_some, Sql.holds_isNull, Sql.holds_isNotNull, decide_eq_true_eq,
    Option.isSome_iff_ne_none, ne_eq]
  cases state with
  | other => cases hstate
  | disabled => simp [← Option.some.inj hstate]
  | active => simp [← Option.some.inj hstate, hpaired]
  | retiring => simp [← Option.some.inj hstate, hpaired]
  | revoked => simp [← Option.some.inj hstate]

end CredentialLifecycleColumns

/-- The lifecycle columns of a row of the store. -/
def TokenRow.lifecycleColumns (row : TokenRow) : TokenLifecycleColumns where
  stateText := row.state.text
  createdAt := row.createdAt
  activatedAt := row.activatedAt
  retirementStartedAt := row.retirementStartedAt
  retirementOverlapDeadline := row.retirementOverlapDeadline
  revokedAt := row.revokedAt
  expiresAt := row.expiresAt
  stateChangedAt := row.stateChangedAt
  stagedCleanupDeadline := row.stagedCleanupDeadline

/-- The constraints of a store are these. -/
theorem Store.accepted {s : Store} {row : TokenRow} (h : row ∈ s.tokens) :
    row.lifecycleColumns.Accepted where
  state := TokenLifecycleColumns.checkState_iff.mpr ⟨row.state, rfl⟩
  lifetime := s.tokensValid .lifetime row h
  cleanup := s.tokensValid .stagedCleanupBound row h
  order := s.tokensValid .stateTimeOrder row h
  bound := s.tokensValid .retirementBound row h
  fields := by
    have hfields : row.lifecycleColumns.checkStateFields = row.checkStateFields := by
      unfold TokenRow.checkStateFields TokenLifecycleColumns.checkStateFields
        LifecycleColumns.activeFields LifecycleColumns.retiringFields
        LifecycleColumns.revokedFields LifecycleColumns.stateIs TokenRow.lifecycleColumns
      cases row.state <;> rfl
    rw [hfields]
    exact s.tokensValid .stateFields row h

/-! ## The comparison -/

namespace LifecycleColumns
variable {columns : LifecycleColumns}

/-- A history has the start and the deadline of a retirement together. -/
theorem paired (h : columns.TimesPresent) {changed activated revoked : Time} {overlap : Int}
    {created : Time} (hh : LifecycleHistory created changed activated
      (optionalTime columns.retirementStartedAt) (optionalTime columns.retirementOverlapDeadline)
      revoked overlap) :
    columns.retirementStartedAt = none ↔ columns.retirementOverlapDeadline = none := by
  rw [← optionalTime_eq_zero h.retirement, ← optionalTime_eq_zero h.deadline]
  exact hh.paired

end LifecycleColumns

/-- **A token's row satisfies the constraints exactly if it is read as a token.** -/
theorem TokenLifecycleColumns.accepted_iff {columns : TokenLifecycleColumns}
    (h : columns.TimesPresent) (identity : TokenIdentity) :
    columns.Accepted ↔ ∃ state, destinationTokenState columns.stateText = .ok state ∧
      validateDestinationTokenSpec (columns.spec identity state) = .ok () := by
  have hlifetime : Sql.Holds columns.checkLifetime ↔
      columns.createdAt.toTime < columns.expiresAt.toTime ∧
        columns.expiresAt.toTime.sub columns.createdAt.toTime ≤ tokenMaxLifetime := by
    rw [tokenMaxLifetime, Timestamp.sub_toTime_le (by decide) (by decide), Timestamp.toTime_lt,
      checkLifetime, Sql.holds_and, Sql.holds_compare_some, Sql.holds_compare_some]
  have hcleanup : Sql.Holds columns.checkStagedCleanupBound ↔
      columns.createdAt.toTime < columns.stagedCleanupDeadline.toTime ∧
        columns.stagedCleanupDeadline.toTime.sub columns.createdAt.toTime ≤ tokenMaxCleanup := by
    rw [tokenMaxCleanup, Timestamp.sub_toTime_le (by decide) (by decide), Timestamp.toTime_lt,
      checkStagedCleanupBound, Sql.holds_and, Sql.holds_compare_some, Sql.holds_compare_some]
  simp only [destinationTokenState_eq_ok, validateDestinationTokenSpec_eq_ok]
  constructor
  · intro ha
    obtain ⟨state, hstate⟩ := checkState_iff.mp ha.state
    have hhistory := (LifecycleColumns.history_iff h).mp ⟨ha.order, ha.bound⟩
    refine ⟨state, hstate, ⟨identity.audience, identity.owner, identity.place, identity.record,
      identity.present, identity.key, hlifetime.mp ha.lifetime, hcleanup.mp ha.cleanup, hhistory, ?_⟩⟩
    exact (checkStateFields_iff h hstate (LifecycleColumns.paired h hhistory) identity).mp ha.fields
  · rintro ⟨state, hstate, hv⟩
    have hhistory := hv.history
    obtain ⟨horder, hbound⟩ := (LifecycleColumns.history_iff h).mpr hhistory
    exact ⟨checkState_iff.mpr ⟨state, hstate⟩, hlifetime.mpr hv.lifetime, hcleanup.mpr hv.cleanup,
      horder, hbound, (checkStateFields_iff h hstate (LifecycleColumns.paired h hhistory)
        identity).mpr hv.fields⟩

/-- **A credential's row satisfies the constraints exactly if it is read as a credential.** -/
theorem CredentialLifecycleColumns.accepted_iff {columns : CredentialLifecycleColumns}
    (h : columns.TimesPresent) (identity : CredentialIdentity) :
    columns.Accepted ↔ ∃ state, credentialState columns.stateText = .ok state ∧
      validateCredentialSpec (columns.spec identity state) = .ok () := by
  have hlifetime : Sql.Holds columns.checkLifetime ↔
      columns.createdAt.toTime ≤ columns.notBefore.toTime ∧
        columns.notBefore.toTime < columns.expiresAt.toTime ∧
        columns.expiresAt.toTime.sub columns.notBefore.toTime ≤ credentialMaxLifetime := by
    rw [credentialMaxLifetime, Timestamp.sub_toTime_le (by decide) (by decide), Timestamp.toTime_lt,
      Timestamp.toTime_le, checkLifetime, Sql.holds_and, Sql.holds_and, Sql.holds_compare_some,
      Sql.holds_compare_some, Sql.holds_compare_some]
  simp only [credentialState_eq_ok, validateCredentialSpec_eq_ok]
  constructor
  · intro ha
    obtain ⟨state, hstate⟩ := checkState_iff.mp ha.state
    have hhistory := (LifecycleColumns.history_iff h).mp ⟨ha.order, ha.bound⟩
    refine ⟨state, hstate, ⟨identity.audience, identity.owner, identity.ids,
      hlifetime.mp ha.lifetime, hhistory, ?_⟩⟩
    exact (checkStateFields_iff h hstate (LifecycleColumns.paired h hhistory) identity).mp ha.fields
  · rintro ⟨state, hstate, hv⟩
    have hhistory := hv.history
    obtain ⟨horder, hbound⟩ := (LifecycleColumns.history_iff h).mpr hhistory
    exact ⟨checkState_iff.mpr ⟨state, hstate⟩, hlifetime.mpr hv.lifetime, horder, hbound,
      (checkStateFields_iff h hstate (LifecycleColumns.paired h hhistory) identity).mpr hv.fields⟩

/-- **The tables and the constructors accept the same rows.**  A row of either table, with any
text for its state and with any times but Go's zero time, satisfies the lifecycle constraints
exactly if its state is one of the domain's and the constructor accepts the specification made
of it. -/
theorem constraints_match_validation :
    (∀ (columns : TokenLifecycleColumns) (identity : TokenIdentity), columns.TimesPresent →
      (columns.Accepted ↔ ∃ state, destinationTokenState columns.stateText = .ok state ∧
        validateDestinationTokenSpec (columns.spec identity state) = .ok ())) ∧
    ∀ (columns : CredentialLifecycleColumns) (identity : CredentialIdentity), columns.TimesPresent →
      (columns.Accepted ↔ ∃ state, credentialState columns.stateText = .ok state ∧
        validateCredentialSpec (columns.spec identity state) = .ok ()) :=
  ⟨fun _ identity h => TokenLifecycleColumns.accepted_iff h identity,
    fun _ identity h => CredentialLifecycleColumns.accepted_iff h identity⟩

/-- The lifecycle columns of a token that was revoked in its overlap, and of a credential in
its overlap. -/
def sampleTokenLifecycle : TokenLifecycleColumns where
  stateText := "revoked"
  createdAt := ⟨20⟩
  activatedAt := some ⟨30⟩
  retirementStartedAt := some ⟨40⟩
  retirementOverlapDeadline := some ⟨60⟩
  revokedAt := some ⟨50⟩
  expiresAt := ⟨3000⟩
  stateChangedAt := ⟨50⟩
  stagedCleanupDeadline := ⟨2000⟩

@[inherit_doc sampleTokenLifecycle]
def sampleCredentialLifecycle : CredentialLifecycleColumns where
  stateText := "retiring"
  createdAt := ⟨20⟩
  activatedAt := some ⟨30⟩
  retirementStartedAt := some ⟨40⟩
  retirementOverlapDeadline := some ⟨60⟩
  revokedAt := none
  expiresAt := ⟨3000⟩
  stateChangedAt := ⟨40⟩
  notBefore := ⟨30⟩

/-- An identifier whose bytes are all one. -/
def sampleIdentifier : UUID := Bytes.fill 16 1

theorem sampleIdentifier_not_isZero : ¬ sampleIdentifier.IsZero := by decide

theorem sampleKeyID_valid :
    ByteString.ascii "key" = [] ∨ validKeyID (ByteString.ascii "key") = true := Or.inr (by decide)

/-- Identifiers for the two. -/
def sampleTokenIdentity : TokenIdentity where
  audienceID := sampleIdentifier
  destination := ⟨sampleIdentifier, sampleIdentifier, .enabled, ⟨1⟩, ⟨1⟩⟩
  recordID := sampleIdentifier
  verifier := ⟨.fill 32 1, true⟩
  verifierKeyID := ⟨ByteString.ascii "key", sampleKeyID_valid⟩
  audience := sampleIdentifier_not_isZero
  owner := rfl
  place := sampleIdentifier_not_isZero
  record := sampleIdentifier_not_isZero
  present := rfl
  key := by decide

@[inherit_doc sampleTokenIdentity]
def sampleCredentialIdentity : CredentialIdentity where
  audienceID := sampleIdentifier
  principal := ⟨sampleIdentifier, sampleIdentifier, true, true⟩
  slot := ⟨sampleIdentifier, sampleIdentifier, sampleIdentifier⟩
  recordID := sampleIdentifier
  publicID := sampleIdentifier
  audience := sampleIdentifier_not_isZero
  owner := ⟨rfl, rfl, rfl⟩
  ids := ⟨sampleIdentifier_not_isZero, sampleIdentifier_not_isZero, sampleIdentifier_not_isZero⟩

/-- Both satisfy their constraints, since the constructors accept them. -/
theorem sampleLifecycles_accepted :
    sampleTokenLifecycle.Accepted ∧ sampleCredentialLifecycle.Accepted := by
  have hpresent : ∀ {micros : Int}, micros ≠ 0 →
      ∀ t ∈ some (⟨micros⟩ : Timestamp), t.micros ≠ 0 := by
    rintro _ h _ ⟨⟩
    exact h
  have htoken : sampleTokenLifecycle.TimesPresent :=
    ⟨by decide, by decide, by decide, hpresent (by decide), hpresent (by decide),
      hpresent (by decide), hpresent (by decide)⟩
  have hcredential : sampleCredentialLifecycle.TimesPresent :=
    ⟨by decide, by decide, by decide, hpresent (by decide), hpresent (by decide),
      hpresent (by decide), nofun⟩
  exact ⟨(constraints_match_validation.1 _ sampleTokenIdentity htoken).mpr
      ⟨.revoked, rfl, by decide +kernel⟩,
    (constraints_match_validation.2 _ sampleCredentialIdentity hcredential).mpr
      ⟨.retiring, rfl, by decide +kernel⟩⟩

end OncallGateway
