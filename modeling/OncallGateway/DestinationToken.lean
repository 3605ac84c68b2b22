import OncallGateway.GoTime
import OncallGateway.Identifiers

/-! # Destinations and their tokens

A destination token is staged, active, retiring or revoked, and carries the times
of its history; the zero time stands for an event that has not happened.
`validateDestinationTokenSpec` says which histories are possible.  A
`DestinationToken` is a specification together with the fact that it passed, which
is all its constructor gives.

`validateDestinationTokenSpec_eq_ok` states the accepted specifications as one
proposition, `DestinationTokenSpec.Valid`, with the part about each state apart;
later modules use that and not the order of the checks.
-/

namespace OncallGateway

/-- `DestinationState`. -/
inductive DestinationState where
  | enabled | disabled
deriving DecidableEq

/-- `DestinationTokenState`. -/
inductive DestinationTokenState where
  | staged | active | retiring | revoked
deriving DecidableEq

/-- `Destination`. -/
structure Destination where
  audienceID : GatewayAudienceID
  id : DestinationID
  state : DestinationState
  createdAt : Time
  stateChangedAt : Time
deriving DecidableEq

/-- `NewDestination`. -/
def newDestination (audienceID : GatewayAudienceID) (id : DestinationID) (state : DestinationState)
    (createdAt stateChangedAt : Time) : Except Sentinel Destination :=
  if audienceID.IsZero ∨ id.IsZero ∨ createdAt = 0 ∨ stateChangedAt < createdAt then
    .error .errInvalidState
  else
    .ok ⟨audienceID, id, state, createdAt, stateChangedAt⟩

/-- `Destination.Enabled`. -/
def Destination.Enabled (destination : Destination) : Prop := destination.state = .enabled

instance (destination : Destination) : Decidable destination.Enabled :=
  inferInstanceAs (Decidable (destination.state = .enabled))

/-- `tokenMaxLifetime` and `MaximumDestinationTokenLifetime`. -/
def tokenMaxLifetime : Int := 90 * day

/-- `tokenMaxCleanup` and `MaximumStagedCleanupDuration`. -/
def tokenMaxCleanup : Int := day

/-- `tokenMaxOverlap` and `MaximumRetiringOverlapDuration`. -/
def tokenMaxOverlap : Int := day

/-- `DestinationTokenSpec`. -/
structure DestinationTokenSpec where
  audienceID : GatewayAudienceID
  destination : Destination
  recordID : DestinationTokenRecordID
  verifier : TokenVerifier
  verifierKeyID : DestinationVerifierKeyID
  state : DestinationTokenState
  createdAt : Time
  activatedAt : Time
  retirementStartedAt : Time
  revokedAt : Time
  expiresAt : Time
  stagedCleanupDeadline : Time
  retirementDeadline : Time
  stateChangedAt : Time
deriving DecidableEq

/-- `validateLifecycleHistory`. -/
def validateLifecycleHistory (createdAt stateChangedAt activatedAt retirementStartedAt
    retirementDeadline revokedAt : Time) (maxRetirementOverlap : Int) : Except Sentinel Unit :=
  if createdAt = 0 ∨ stateChangedAt < createdAt then
    .error .errInvalidState
  else if activatedAt ≠ 0 ∧ (activatedAt < createdAt ∨ activatedAt > stateChangedAt) then
    .error .errInvalidState
  else if ¬ (retirementStartedAt = 0 ↔ retirementDeadline = 0) then
    .error .errInvalidState
  else if retirementStartedAt ≠ 0 ∧ (activatedAt = 0 ∨ retirementStartedAt < activatedAt ∨
      retirementStartedAt > stateChangedAt ∨ ¬ retirementDeadline > retirementStartedAt ∨
      retirementDeadline.sub retirementStartedAt > maxRetirementOverlap) then
    .error .errInvalidState
  else if revokedAt ≠ 0 ∧ (revokedAt < createdAt ∨ revokedAt > stateChangedAt) then
    .error .errInvalidState
  else
    .ok ()

/-- The `switch` of `validateDestinationTokenSpec`: the times a state has. -/
def validateStateFields (spec : DestinationTokenSpec) : Except Sentinel Unit :=
  match spec.state with
  | .staged =>
    if spec.activatedAt ≠ 0 ∨ spec.retirementStartedAt ≠ 0 ∨ spec.retirementDeadline ≠ 0 ∨
        spec.revokedAt ≠ 0 then
      .error .errInvalidState
    else .ok ()
  | .active =>
    if spec.activatedAt = 0 ∨ spec.retirementStartedAt ≠ 0 ∨ spec.retirementDeadline ≠ 0 ∨
        spec.revokedAt ≠ 0 then
      .error .errInvalidState
    else .ok ()
  | .retiring =>
    if spec.activatedAt = 0 ∨ spec.retirementStartedAt = 0 ∨ spec.revokedAt ≠ 0 then
      .error .errInvalidState
    else .ok ()
  | .revoked => if spec.revokedAt = 0 then .error .errInvalidState else .ok ()

/-- `validateDestinationTokenSpec`. -/
def validateDestinationTokenSpec (spec : DestinationTokenSpec) : Except Sentinel Unit :=
  if spec.audienceID.IsZero ∨ spec.destination.audienceID ≠ spec.audienceID then
    if ¬ spec.audienceID.IsZero ∧ ¬ spec.destination.audienceID.IsZero ∧
        spec.destination.audienceID ≠ spec.audienceID then
      .error .errAudienceMismatch
    else
      .error .errInvalidState
  else if spec.destination.id.IsZero ∨ spec.recordID.IsZero ∨ spec.verifier.present = false ∨
      spec.verifierKeyID.IsZero ∨ spec.createdAt = 0 ∨ ¬ spec.expiresAt > spec.createdAt ∨
      spec.expiresAt.sub spec.createdAt > tokenMaxLifetime ∨
      ¬ spec.stagedCleanupDeadline > spec.createdAt ∨
      spec.stagedCleanupDeadline.sub spec.createdAt > tokenMaxCleanup then
    .error .errInvalidState
  else
    match validateLifecycleHistory spec.createdAt spec.stateChangedAt spec.activatedAt
        spec.retirementStartedAt spec.retirementDeadline spec.revokedAt tokenMaxOverlap with
    | .error _ => .error .errInvalidState
    | .ok _ => validateStateFields spec

/-! ## What is accepted -/

/-- The histories `validateLifecycleHistory` accepts. -/
structure LifecycleHistory (createdAt stateChangedAt activatedAt retirementStartedAt
    retirementDeadline revokedAt : Time) (maxRetirementOverlap : Int) : Prop where
  created : createdAt ≠ 0
  changed : createdAt ≤ stateChangedAt
  activated : activatedAt ≠ 0 → createdAt ≤ activatedAt ∧ activatedAt ≤ stateChangedAt
  paired : retirementStartedAt = 0 ↔ retirementDeadline = 0
  retirement : retirementStartedAt ≠ 0 → activatedAt ≠ 0 ∧ activatedAt ≤ retirementStartedAt ∧
    retirementStartedAt ≤ stateChangedAt ∧ retirementStartedAt < retirementDeadline ∧
    retirementDeadline.sub retirementStartedAt ≤ maxRetirementOverlap
  revoked : revokedAt ≠ 0 → createdAt ≤ revokedAt ∧ revokedAt ≤ stateChangedAt

theorem validateLifecycleHistory_eq_ok {createdAt stateChangedAt activatedAt retirementStartedAt
    retirementDeadline revokedAt : Time} {maxRetirementOverlap : Int} :
    validateLifecycleHistory createdAt stateChangedAt activatedAt retirementStartedAt
      retirementDeadline revokedAt maxRetirementOverlap = .ok () ↔
    LifecycleHistory createdAt stateChangedAt activatedAt retirementStartedAt
      retirementDeadline revokedAt maxRetirementOverlap := by
  unfold validateLifecycleHistory
  constructor
  · intro h
    split_ifs at h with h₁ h₂ h₃ h₄ h₅
    push Not at h₁ h₂ h₄ h₅
    exact ⟨h₁.1, h₁.2, h₂, h₃, h₄, h₅⟩
  · intro h
    have h₁ : ¬ (createdAt = 0 ∨ stateChangedAt < createdAt) :=
      not_or.mpr ⟨h.created, not_lt.mpr h.changed⟩
    have h₂ : ¬ (activatedAt ≠ 0 ∧ (activatedAt < createdAt ∨ activatedAt > stateChangedAt)) := by
      push Not
      exact h.activated
    have h₄ : ¬ (retirementStartedAt ≠ 0 ∧ (activatedAt = 0 ∨ retirementStartedAt < activatedAt ∨
        retirementStartedAt > stateChangedAt ∨ ¬ retirementDeadline > retirementStartedAt ∨
        retirementDeadline.sub retirementStartedAt > maxRetirementOverlap)) := by
      push Not
      exact h.retirement
    have h₅ : ¬ (revokedAt ≠ 0 ∧ (revokedAt < createdAt ∨ revokedAt > stateChangedAt)) := by
      push Not
      exact h.revoked
    rw [if_neg h₁, if_neg h₂, if_neg (not_not.mpr h.paired), if_neg h₄, if_neg h₅]

/-- The times a token has in each state. -/
def DestinationTokenSpec.StateFields (spec : DestinationTokenSpec) : Prop :=
  match spec.state with
  | .staged => spec.activatedAt = 0 ∧ spec.retirementStartedAt = 0 ∧ spec.retirementDeadline = 0 ∧
      spec.revokedAt = 0
  | .active => spec.activatedAt ≠ 0 ∧ spec.retirementStartedAt = 0 ∧ spec.retirementDeadline = 0 ∧
      spec.revokedAt = 0
  | .retiring => spec.activatedAt ≠ 0 ∧ spec.retirementStartedAt ≠ 0 ∧ spec.revokedAt = 0
  | .revoked => spec.revokedAt ≠ 0

variable {spec : DestinationTokenSpec}

theorem validateStateFields_eq_ok :
    validateStateFields spec = .ok () ↔ spec.StateFields := by
  unfold validateStateFields DestinationTokenSpec.StateFields
  cases spec.state <;> simp [not_or]

/-- The specifications `validateDestinationTokenSpec` accepts. -/
structure DestinationTokenSpec.Valid (spec : DestinationTokenSpec) : Prop where
  audience : ¬ spec.audienceID.IsZero
  sameAudience : spec.destination.audienceID = spec.audienceID
  destination : ¬ spec.destination.id.IsZero
  record : ¬ spec.recordID.IsZero
  verifier : spec.verifier.present = true
  keyID : ¬ spec.verifierKeyID.IsZero
  lifetime : spec.createdAt < spec.expiresAt ∧
    spec.expiresAt.sub spec.createdAt ≤ tokenMaxLifetime
  cleanup : spec.createdAt < spec.stagedCleanupDeadline ∧
    spec.stagedCleanupDeadline.sub spec.createdAt ≤ tokenMaxCleanup
  history : LifecycleHistory spec.createdAt spec.stateChangedAt spec.activatedAt
    spec.retirementStartedAt spec.retirementDeadline spec.revokedAt tokenMaxOverlap
  fields : spec.StateFields

/-- **What `validateDestinationTokenSpec` accepts.** -/
theorem validateDestinationTokenSpec_eq_ok :
    validateDestinationTokenSpec spec = .ok () ↔ spec.Valid := by
  unfold validateDestinationTokenSpec
  constructor
  · intro h
    split_ifs at h with h₁ h₂ h₃
    push Not at h₁ h₃
    obtain ⟨hd, hr, hv, hk, -, he, hel, hc, hcl⟩ := h₃
    cases hh : validateLifecycleHistory spec.createdAt spec.stateChangedAt spec.activatedAt
      spec.retirementStartedAt spec.retirementDeadline spec.revokedAt tokenMaxOverlap with
    | error e => simp [hh] at h
    | ok _ =>
      rw [hh] at h
      exact ⟨h₁.1, h₁.2, hd, hr, by simpa using hv, hk, ⟨he, hel⟩, ⟨hc, hcl⟩,
        validateLifecycleHistory_eq_ok.mp hh, validateStateFields_eq_ok.mp h⟩
  · intro h
    have h₁ : ¬ (spec.audienceID.IsZero ∨ spec.destination.audienceID ≠ spec.audienceID) :=
      not_or.mpr ⟨h.audience, not_not.mpr h.sameAudience⟩
    have h₂ : ¬ (spec.destination.id.IsZero ∨ spec.recordID.IsZero ∨
        spec.verifier.present = false ∨ spec.verifierKeyID.IsZero ∨ spec.createdAt = 0 ∨
        ¬ spec.expiresAt > spec.createdAt ∨
        spec.expiresAt.sub spec.createdAt > tokenMaxLifetime ∨
        ¬ spec.stagedCleanupDeadline > spec.createdAt ∨
        spec.stagedCleanupDeadline.sub spec.createdAt > tokenMaxCleanup) := by
      push Not
      exact ⟨h.destination, h.record, by simp [h.verifier], h.keyID, h.history.created,
        h.lifetime.1, h.lifetime.2, h.cleanup.1, h.cleanup.2⟩
    rw [if_neg h₁, if_neg h₂, validateLifecycleHistory_eq_ok.mpr h.history]
    exact validateStateFields_eq_ok.mpr h.fields

/-! ## Tokens -/

/-- `DestinationToken`: a specification that passed its validation. -/
structure DestinationToken where
  spec : DestinationTokenSpec
  valid : validateDestinationTokenSpec spec = .ok ()

/-- `NewDestinationToken`. -/
def newDestinationToken (spec : DestinationTokenSpec) : Except Sentinel DestinationToken :=
  match h : validateDestinationTokenSpec spec with
  | .error e => .error e
  | .ok _ => .ok ⟨spec, h⟩

theorem newDestinationToken_eq_ok {token : DestinationToken} :
    newDestinationToken spec = .ok token ↔ token.spec = spec := by
  unfold newDestinationToken
  constructor
  · intro h
    split at h
    · cases h
    · cases h
      rfl
  · rintro rfl
    split
    · rename_i e he
      rw [token.valid] at he
      cases he
    · rfl

/-- `DestinationToken.UsableAt`. -/
def DestinationToken.UsableAt (token : DestinationToken) (now : Time) : Prop :=
  token.spec.destination.Enabled ∧ (token.spec.state = .active ∨ token.spec.state = .retiring) ∧
    token.spec.activatedAt ≤ now ∧ now < token.spec.expiresAt ∧
    (token.spec.state ≠ .retiring ∨ now < token.spec.retirementDeadline)

instance (token : DestinationToken) (now : Time) : Decidable (token.UsableAt now) :=
  inferInstanceAs (Decidable (_ ∧ (_ ∨ _) ∧ _ ∧ _ ∧ (_ ∨ _)))

end OncallGateway
