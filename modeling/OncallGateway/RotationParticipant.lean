import OncallGateway.LifecycleService

/-! # The rotation participant

`DestinationTokenRotationParticipantService` carries out a token rotation for a
coordinator that may lose any of its answers: it begins a rotation, rolls it back,
observes it and finalizes it.  What the coordinator keeps is a handle, the pair of the
new and the old record.  Whatever happens after the insertion of the new record, either
the record is aborted again or the coordinator gets the handle.

`classifyRotationSnapshot` is the judgement on a handle: the pair is live, or the rotation
was rolled back or completed.  It has only the rows to go by.

The resolver and the identifier of tokens are outside, and so are the two clocks.
-/

namespace OncallGateway
open Session

/-- `MaximumDestinationTokenRotationCompensationDuration`. -/
def maximumDestinationTokenRotationCompensationDuration : Int := 30 * 1000000000

/-- `DestinationTokenRotationTokenIdentity.Valid`. -/
def DestinationTokenRotationTokenIdentity.Valid (identity : DestinationTokenRotationTokenIdentity) :
    Prop :=
  identity = .new ∨ identity = .old ∨ identity = .neither

instance (identity : DestinationTokenRotationTokenIdentity) : Decidable identity.Valid :=
  inferInstanceAs (Decidable (_ ∨ _ ∨ _))

/-- `DestinationTokenRotationStatus`. -/
inductive DestinationTokenRotationStatus where
  | activeWithRetiring | rolledBack | completed
deriving DecidableEq

/-- `DestinationTokenRotationRequest`. -/
structure DestinationTokenRotationRequest where
  audienceID : GatewayAudienceID
  destination : DestinationID
  currentToken : OpaqueDestinationToken
deriving DecidableEq

/-- `DestinationTokenRotationHandle`. -/
structure DestinationTokenRotationHandle where
  audienceID : GatewayAudienceID
  destination : DestinationID
  newActiveRecordID : DestinationTokenRecordID
  oldRetiringRecordID : DestinationTokenRecordID
deriving DecidableEq

/-- `DestinationTokenRotationHandle{}`. -/
def DestinationTokenRotationHandle.zero : DestinationTokenRotationHandle :=
  ⟨Bytes.zero 16, Bytes.zero 16, Bytes.zero 16, Bytes.zero 16⟩

/-- `DestinationTokenRotationAttempt`; the token is empty when there is none. -/
structure DestinationTokenRotationAttempt where
  handle : DestinationTokenRotationHandle
  newToken : ByteString
  activatedAt : Time
  retirementDeadline : Time
deriving DecidableEq

/-- `DestinationTokenRotationAttempt{}`. -/
def DestinationTokenRotationAttempt.zero : DestinationTokenRotationAttempt := ⟨.zero, [], 0, 0⟩

/-- `DestinationTokenRotationObservation`. -/
structure DestinationTokenRotationObservation where
  status : DestinationTokenRotationStatus
  tokenIdentity : DestinationTokenRotationTokenIdentity
  observedAt : Time
  retirementDeadline : Time
deriving DecidableEq

/-! ## Handles -/

/-- `validRotationBinding`. -/
def ValidRotationBinding (audience : GatewayAudienceID) (destination : DestinationID) : Prop :=
  ¬ audience.IsZero ∧ ¬ destination.IsZero ∧
    parseGatewayAudienceID (formatUUID audience) = .ok audience ∧
    parseDestinationID (formatUUID destination) = .ok destination

instance (audience : GatewayAudienceID) (destination : DestinationID) :
    Decidable (ValidRotationBinding audience destination) :=
  inferInstanceAs (Decidable (_ ∧ _ ∧ _ ∧ _))

/-- `validRotationHandle`. -/
def DestinationTokenRotationHandle.Valid (handle : DestinationTokenRotationHandle) : Prop :=
  ValidRotationBinding handle.audienceID handle.destination ∧
    ¬ handle.newActiveRecordID.IsZero ∧ ¬ handle.oldRetiringRecordID.IsZero ∧
    handle.newActiveRecordID ≠ handle.oldRetiringRecordID ∧
    parseDestinationTokenRecordID (formatUUID handle.newActiveRecordID) =
      .ok handle.newActiveRecordID ∧
    parseDestinationTokenRecordID (formatUUID handle.oldRetiringRecordID) =
      .ok handle.oldRetiringRecordID

instance (handle : DestinationTokenRotationHandle) : Decidable handle.Valid :=
  inferInstanceAs (Decidable (_ ∧ _ ∧ _ ∧ _ ∧ _ ∧ _))

/-- `validRotationAttempt`. -/
def DestinationTokenRotationAttempt.Valid (attempt : DestinationTokenRotationAttempt)
    (confirmed : Bool) : Prop :=
  attempt.handle.Valid ∧
    if confirmed then
      attempt.newToken ≠ [] ∧ DestinationTokenRotationActivationReceipt.Valid
        ⟨attempt.activatedAt, attempt.retirementDeadline⟩
    else attempt.newToken = [] ∧ attempt.activatedAt = 0 ∧ attempt.retirementDeadline = 0

instance (attempt : DestinationTokenRotationAttempt) (confirmed : Bool) :
    Decidable (attempt.Valid confirmed) :=
  inferInstanceAs (Decidable (_ ∧ ite _ _ _))

/-- `rotationReconciliationAttempt`. -/
def rotationReconciliationAttempt (request : DestinationTokenRotationRequest)
    (newActiveRecordID oldRetiringRecordID : DestinationTokenRecordID) :
    DestinationTokenRotationAttempt :=
  ⟨⟨request.audienceID, request.destination, newActiveRecordID, oldRetiringRecordID⟩, [], 0, 0⟩

/-- `validRotationObservation`. -/
def DestinationTokenRotationObservation.Valid (value : DestinationTokenRotationObservation)
    (requireIdentity : Bool) : Prop :=
  (requireIdentity = true → value.tokenIdentity.Valid) ∧
    match value.status with
    | .activeWithRetiring => value.observedAt ≠ 0 ∧ value.retirementDeadline ≠ 0
    | .rolledBack => value.observedAt = 0 ∧ value.retirementDeadline = 0
    | .completed => value.observedAt = 0 ∧ value.retirementDeadline = 0

instance (value : DestinationTokenRotationObservation) (requireIdentity : Bool) :
    Decidable (value.Valid requireIdentity) := by
  unfold DestinationTokenRotationObservation.Valid
  cases value.status <;> infer_instance

/-! ## The judgement on an attempt -/

/-- `validActivatedRotationHistory`. -/
def ValidActivatedRotationHistory (newToken oldToken : LifecycleTokenView) : Prop :=
  oldToken.activatedAt ≤ newToken.createdAt ∧ oldToken.activatedAt ≤ newToken.activatedAt ∧
    newToken.activatedAt < newToken.stagedCleanupDeadline

instance (newToken oldToken : LifecycleTokenView) :
    Decidable (ValidActivatedRotationHistory newToken oldToken) :=
  inferInstanceAs (Decidable (_ ∧ _ ∧ _))

/-- `exactRolledBackAttempt`. -/
def ExactRolledBackAttempt (newToken oldToken : LifecycleTokenView) (now : Time) : Prop :=
  (newToken.state = .revoked ∧ oldToken.state = .active ∧
    newToken.revokedAt ≠ 0 ∧ newToken.revokedAt = newToken.stateChangedAt ∧
    newToken.createdAt ≠ 0 ∧ newToken.createdAt ≤ newToken.revokedAt ∧ newToken.revokedAt ≤ now ∧
    newToken.retirementStartedAt = 0 ∧ newToken.retirementDeadline = 0 ∧
    oldToken.retirementStartedAt = 0 ∧ oldToken.retirementDeadline = 0 ∧
    oldToken.revokedAt = 0 ∧ oldToken.activatedAt ≠ 0 ∧
    oldToken.activatedAt ≤ oldToken.stateChangedAt ∧ oldToken.stateChangedAt ≤ now) ∧
  if newToken.activatedAt = 0 then oldToken.stateChangedAt ≤ newToken.createdAt
  else ValidActivatedRotationHistory newToken oldToken ∧
    0 ≤ newToken.revokedAt.sub newToken.activatedAt ∧
    newToken.revokedAt.sub newToken.activatedAt < tokenMaxOverlap ∧
    newToken.revokedAt < newToken.expiresAt ∧ newToken.revokedAt = oldToken.stateChangedAt

instance (newToken oldToken : LifecycleTokenView) (now : Time) :
    Decidable (ExactRolledBackAttempt newToken oldToken now) :=
  inferInstanceAs (Decidable (_ ∧ ite _ _ _))

/-- `exactCompletedAttempt`. -/
def ExactCompletedAttempt (newToken oldToken : LifecycleTokenView) (now : Time) : Prop :=
  newToken.state = .active ∧ oldToken.state = .revoked ∧
    ValidActivatedRotationHistory newToken oldToken ∧
    oldToken.revokedAt ≠ 0 ∧ oldToken.revokedAt = oldToken.stateChangedAt ∧
    oldToken.activatedAt ≠ 0 ∧ oldToken.retirementStartedAt ≠ 0 ∧
    oldToken.retirementDeadline ≠ 0 ∧ oldToken.activatedAt ≤ oldToken.retirementStartedAt ∧
    oldToken.retirementDeadline ≤ oldToken.revokedAt ∧
    oldToken.retirementDeadline < newToken.expiresAt ∧
    oldToken.retirementDeadline < oldToken.expiresAt ∧
    newToken.activatedAt = newToken.stateChangedAt ∧
    newToken.activatedAt = oldToken.retirementStartedAt ∧
    oldToken.retirementStartedAt < oldToken.retirementDeadline ∧ oldToken.revokedAt ≤ now

instance (newToken oldToken : LifecycleTokenView) (now : Time) :
    Decidable (ExactCompletedAttempt newToken oldToken now) :=
  inferInstanceAs (Decidable (_ ∧ _ ∧ _ ∧ _ ∧ _ ∧ _ ∧ _ ∧ _ ∧ _ ∧ _ ∧ _ ∧ _ ∧ _ ∧ _ ∧ _ ∧ _))

/-- `validRotationPairViews`. -/
def ValidRotationPairViews (active retiring : LifecycleTokenView) (now : Time) : Prop :=
  active.state = .active ∧ retiring.state = .retiring ∧
    ValidActivatedRotationHistory active retiring ∧
    active.activatedAt ≠ 0 ∧ retiring.activatedAt ≠ 0 ∧ retiring.retirementStartedAt ≠ 0 ∧
    now < active.expiresAt ∧ active.activatedAt ≤ now ∧ active.stateChangedAt ≤ now ∧
    retiring.activatedAt ≤ now ∧ retiring.retirementStartedAt ≤ now ∧
    retiring.stateChangedAt ≤ now ∧ active.activatedAt = active.stateChangedAt ∧
    active.activatedAt = retiring.retirementStartedAt ∧
    retiring.retirementStartedAt = retiring.stateChangedAt ∧ retiring.retirementDeadline ≠ 0 ∧
    retiring.retirementDeadline < active.expiresAt ∧
    retiring.retirementDeadline < retiring.expiresAt

instance (active retiring : LifecycleTokenView) (now : Time) :
    Decidable (ValidRotationPairViews active retiring now) :=
  inferInstanceAs (Decidable
    (_ ∧ _ ∧ _ ∧ _ ∧ _ ∧ _ ∧ _ ∧ _ ∧ _ ∧ _ ∧ _ ∧ _ ∧ _ ∧ _ ∧ _ ∧ _ ∧ _ ∧ _))

/-- `viewsEqual`. -/
def ViewsEqual (first second : LifecycleTokenView) : Prop :=
  first.recordID = second.recordID ∧ first.state = second.state ∧
    first.createdAt = second.createdAt ∧ first.expiresAt = second.expiresAt ∧
    first.stagedCleanupDeadline = second.stagedCleanupDeadline ∧
    first.activatedAt = second.activatedAt ∧
    first.retirementStartedAt = second.retirementStartedAt ∧
    first.retirementDeadline = second.retirementDeadline ∧
    first.revokedAt = second.revokedAt ∧ first.stateChangedAt = second.stateChangedAt

instance (first second : LifecycleTokenView) : Decidable (ViewsEqual first second) :=
  inferInstanceAs (Decidable (_ ∧ _ ∧ _ ∧ _ ∧ _ ∧ _ ∧ _ ∧ _ ∧ _ ∧ _))

@[simp] theorem viewsEqual_iff {first second : LifecycleTokenView} :
    ViewsEqual first second ↔ first = second := by
  cases first
  cases second
  simp [ViewsEqual]

section
variable (snapshot : DestinationLifecycleSnapshot) (handle : DestinationTokenRotationHandle)
  (newToken oldToken : LifecycleTokenView) (now : Time)

/-- The cases of `classifyRotationSnapshot`: the pair is live. -/
def liveAttempt? : Option DestinationTokenRotationObservation :=
  match snapshot.staged, snapshot.active, snapshot.retiring with
  | none, some active, some retiring =>
    if active.recordID = handle.newActiveRecordID ∧
        retiring.recordID = handle.oldRetiringRecordID ∧
        ViewsEqual active newToken ∧ ViewsEqual retiring oldToken ∧
        ValidRotationPairViews active retiring now ∧
        (snapshot.status = .activeWithRetiring ∨
          snapshot.status = .reconciliationRequired ∧ ¬ now < retiring.retirementDeadline) then
      some ⟨.activeWithRetiring, .unknown, now, retiring.retirementDeadline⟩
    else none
  | _, _, _ => none

/-- The new record is staged beside the old one, and may yet be activated or aborted. -/
def PreparedAttempt : Prop :=
  match snapshot.staged, snapshot.active, snapshot.retiring with
  | some staged, some active, none =>
    snapshot.status = .activeWithStaged ∧ staged.recordID = handle.newActiveRecordID ∧
      active.recordID = handle.oldRetiringRecordID ∧ ViewsEqual staged newToken ∧
      ViewsEqual active oldToken
  | _, _, _ => False

instance : Decidable (PreparedAttempt snapshot handle newToken oldToken) := by
  unfold PreparedAttempt
  split <;> infer_instance

/-- One of the two is the only live token. -/
def endedAttempt? : Option DestinationTokenRotationObservation :=
  match snapshot.staged, snapshot.active, snapshot.retiring with
  | none, some active, none =>
    if snapshot.status = .active ∧ active.state = .active ∧ now < active.expiresAt ∧
        active.activatedAt ≤ now ∧ active.stateChangedAt ≤ now then
      if active.recordID = handle.oldRetiringRecordID then
        if ViewsEqual active oldToken ∧ ExactRolledBackAttempt newToken oldToken now then
          some ⟨.rolledBack, .unknown, 0, 0⟩
        else none
      else if active.recordID = handle.newActiveRecordID then
        if ViewsEqual active newToken ∧ ExactCompletedAttempt newToken oldToken now then
          some ⟨.completed, .unknown, 0, 0⟩
        else none
      else none
    else none
  | _, _, _ => none

end

/-- `classifyRotationSnapshot`. -/
def classifyRotationSnapshot (attempt : DestinationTokenRotationAttemptSnapshot)
    (handle : DestinationTokenRotationHandle) (now : Time) :
    Except Sentinel DestinationTokenRotationObservation :=
  let snapshot := attempt.lifecycle
  if snapshot.audienceID ≠ handle.audienceID ∨ snapshot.destinationID ≠ handle.destination ∨
      snapshot.destinationEnabled = false then
    .error .errDestinationTokenRotationReconciliation
  else if attempt.newToken.recordID ≠ handle.newActiveRecordID ∨
      attempt.oldToken.recordID ≠ handle.oldRetiringRecordID then
    .error .errDestinationTokenRotationReconciliation
  else match liveAttempt? snapshot handle attempt.newToken attempt.oldToken now with
    | some observation => .ok observation
    | none =>
      if PreparedAttempt snapshot handle attempt.newToken attempt.oldToken then
        .error .errDestinationTokenRotationReconciliation
      else match endedAttempt? snapshot handle attempt.newToken attempt.oldToken now with
        | some observation => .ok observation
        | none =>
          if snapshot.status = .reconciliationRequired then
            .error .errDestinationTokenRotationReconciliation
          else .error .errDestinationTokenRotationConflict

/-- `rotationBeginActive`. -/
def rotationBeginActive (snapshot : DestinationLifecycleSnapshot) (audience : GatewayAudienceID)
    (destination : DestinationID) : Except Sentinel LifecycleTokenView :=
  if snapshot.audienceID ≠ audience ∨ snapshot.destinationID ≠ destination ∨
      snapshot.destinationEnabled = false then
    .error .errDestinationTokenRotationReconciliation
  else if snapshot.status = .reconciliationRequired then
    .error .errDestinationTokenRotationReconciliation
  else match snapshot.active with
    | none => .error .errDestinationTokenRotationConflict
    | some active =>
      if snapshot.status ≠ .active ∨ snapshot.staged.isSome ∨ snapshot.retiring.isSome ∨
          active.state ≠ .active ∨ active.recordID.IsZero then
        .error .errDestinationTokenRotationConflict
      else .ok active

/-! ## Errors -/

section
variable {ν : Type} [ErrorGraph ν]

/-- The pairs of the loop in `classifyRotationLifecycleError`. -/
def rotationKinds : List (Sentinel × Sentinel) :=
  [(.errDestinationLifecycleCanceled, .errDestinationTokenRotationCanceled),
    (.errDestinationLifecycleDeadline, .errDestinationTokenRotationDeadline),
    (.errDestinationLifecycleInvalid, .errDestinationTokenRotationInvalid),
    (.errDestinationLifecycleConflict, .errDestinationTokenRotationConflict),
    (.errDestinationLifecycleReconciliation, .errDestinationTokenRotationReconciliation),
    (.errDestinationLifecycleUnavailable, .errDestinationTokenRotationUnavailable)]

/-- `classifyRotationLifecycleError` of an error: its kind, if it is known, and whether the
outcome is unknown. -/
def classifyRotationLifecycleError (err : GoError ν) : Option Sentinel × Bool :=
  if err.singleCauseMatches .errDestinationLifecycleOutcomeUnknown then
    (some .errDestinationTokenRotationOutcomeUnknown, true)
  else
    ((rotationKinds.find? fun kind => err.singleCauseMatches kind.1).map Prod.snd, false)

/-- `classifyRotationResolverError`. -/
def classifyRotationResolverError (err : GoError ν) : Sentinel :=
  if err.singleCauseMatches .contextCanceled then .errDestinationTokenRotationCanceled
  else if err.singleCauseMatches .contextDeadlineExceeded then .errDestinationTokenRotationDeadline
  else if err.singleCauseMatches .errDestinationNotFound then .errDestinationTokenRotationConflict
  else .errDestinationTokenRotationUnavailable

/-- `classifyRotationPreMutationLifecycleError`. -/
def classifyRotationPreMutationLifecycleError (err : GoError ν) : Sentinel :=
  (classifyRotationLifecycleError err).1.getD .errDestinationTokenRotationUnavailable

/-- `classifyRotationCreateError`. -/
def classifyRotationCreateError (err : GoError ν) : Sentinel :=
  match classifyRotationLifecycleError err with
  | (some result, false) => result
  | _ => .errDestinationTokenRotationReconciliation

/-- `classifyRotationActivationError`: with the error, whether the activation was
definitely not committed. -/
def classifyRotationActivationError (err : GoError ν) : Sentinel × Bool :=
  match classifyRotationLifecycleError err with
  | (some result, false) => (result, true)
  | _ => (.errDestinationTokenRotationReconciliation, false)

/-- `classifyRotationMutationError`. -/
def classifyRotationMutationError : Option (GoError ν) → Option Sentinel
  | none => none
  | some err =>
    match classifyRotationLifecycleError err with
    | (some result, false) => some result
    | _ => some .errDestinationTokenRotationOutcomeUnknown

end

/-! ## The operations -/

/-- `DestinationTokenRotationParticipantService`, with what its constructor checks.  The
timeout bounds the context of a compensation. -/
structure DestinationTokenRotationParticipantService where
  lifecycle : DestinationTokenLifecycleService
  compensationTimeout : Int
  timeout : 0 < compensationTimeout ∧
    compensationTimeout ≤ maximumDestinationTokenRotationCompensationDuration

theorem compensationTimeout_bounds {compensationTimeout : Int}
    (h : ¬ (compensationTimeout ≤ 0 ∨
      compensationTimeout > maximumDestinationTokenRotationCompensationDuration)) :
    0 < compensationTimeout ∧
      compensationTimeout ≤ maximumDestinationTokenRotationCompensationDuration := by
  simp only [not_or] at h
  omega

/-- `NewDestinationTokenRotationParticipantService`. -/
def newDestinationTokenRotationParticipantService (lifecycle : DestinationTokenLifecycleService)
    (compensationTimeout : Int) : Except Sentinel DestinationTokenRotationParticipantService :=
  if h : compensationTimeout ≤ 0 ∨
      compensationTimeout > maximumDestinationTokenRotationCompensationDuration then
    .error .errDestinationTokenRotationInvalid
  else .ok ⟨lifecycle, compensationTimeout, compensationTimeout_bounds h⟩

/-- What the participant calls: its context and clock, the resolver, the identifier, the
inspector of attempts and the lifecycle. -/
inductive ParticipantCall where
  | contextErr
  | clock
  | resolve (audience : GatewayAudienceID) (token : OpaqueDestinationToken) (now : Time)
  | identifyRotationToken (handle : DestinationTokenRotationHandle) (token : OpaqueDestinationToken)
      (now : Time)
  | inspectRotationAttempt (handle : DestinationTokenRotationHandle) (now : Time)
  | inspectLifecycleState (audience : GatewayAudienceID) (destination : DestinationID)
  | createRotationStagedToken (audience : GatewayAudienceID) (destination : DestinationID)
      (expectedActiveRecordID : DestinationTokenRecordID) (currentToken : OpaqueDestinationToken)
  | activateRotation (audience : GatewayAudienceID) (destination : DestinationID)
      (staged oldActive : DestinationTokenRecordID)
  | abortStagedToken (audience : GatewayAudienceID) (destination : DestinationID)
      (staged : DestinationTokenRecordID)
  | rollbackRotation (handle : DestinationTokenRotationHandle)
  | finalizeRotation (handle : DestinationTokenRotationHandle) (reason : RotationCompletionReason)

/-- The answers to these calls. -/
def ParticipantCall.Answer (ν : Type) : ParticipantCall → Type
  | contextErr => Option (GoError ν)
  | clock => Time
  | resolve _ _ _ => Except (GoError ν) DestinationID
  | identifyRotationToken _ _ _ => Except (GoError ν) DestinationTokenRotationTokenIdentity
  | inspectRotationAttempt _ _ => Except (GoError ν) DestinationTokenRotationAttemptSnapshot
  | inspectLifecycleState _ _ => Except Sentinel DestinationLifecycleSnapshot
  | createRotationStagedToken _ _ _ _ => CreatedStagedToken × Option Sentinel
  | activateRotation _ _ _ _ => Except Sentinel DestinationTokenRotationActivationReceipt
  | abortStagedToken _ _ _ => Option Sentinel
  | rollbackRotation _ => Option Sentinel
  | finalizeRotation _ _ => Option Sentinel

/-- A program of the participant. -/
abbrev ParticipantProg (ν α : Type) := Prog ParticipantCall (ParticipantCall.Answer ν) α

section
variable {ν : Type} [ErrorGraph ν]

/-- How the lifecycle service and the repository carry out the calls. -/
def DestinationTokenRotationParticipantService.call [DecidableEq ν]
    (service : DestinationTokenRotationParticipantService)
    (hmac : KeyedHash) :
    (call : ParticipantCall) → LifecycleProg ν (call.Answer ν)
  | .contextErr => Session.ask Outside.contextErr
  | .clock => Session.ask Outside.participantClock
  | .resolve audience token now => Session.ask (Outside.resolve audience token now)
  | .identifyRotationToken handle token now =>
    Session.ask (Outside.identifyRotationToken handle.audienceID handle.destination token
      handle.newActiveRecordID handle.oldRetiringRecordID now)
  | .inspectRotationAttempt handle now =>
    inspectRotationAttempt handle.audienceID handle.destination handle.newActiveRecordID
      handle.oldRetiringRecordID now
  | .inspectLifecycleState audience destination =>
    DestinationTokenLifecycleService.inspectLifecycleState audience destination
  | .createRotationStagedToken audience destination expectedActiveRecordID currentToken =>
    service.lifecycle.createRotationStagedToken hmac audience destination expectedActiveRecordID
      currentToken
  | .activateRotation audience destination staged oldActive =>
    service.lifecycle.activateRotation audience destination staged oldActive
  | .abortStagedToken audience destination staged =>
    DestinationTokenLifecycleService.abortStagedToken audience destination staged
  | .rollbackRotation handle =>
    DestinationTokenLifecycleService.rollbackRotation handle.audienceID handle.destination
      handle.newActiveRecordID handle.oldRetiringRecordID
  | .finalizeRotation handle reason =>
    DestinationTokenLifecycleService.finalizeRotation handle.audienceID handle.destination
      handle.newActiveRecordID handle.oldRetiringRecordID reason

variable (request : DestinationTokenRotationRequest) (handle : DestinationTokenRotationHandle)

namespace Participant

/-- The calls, as programs. -/
def askContextErr : ParticipantProg ν (Option (GoError ν)) :=
  Prog.request ParticipantCall.contextErr

@[inherit_doc askContextErr]
def askClock : ParticipantProg ν Time := Prog.request ParticipantCall.clock

@[inherit_doc askContextErr]
def askResolve (audience : GatewayAudienceID) (token : OpaqueDestinationToken) (now : Time) :
    ParticipantProg ν (Except (GoError ν) DestinationID) :=
  Prog.request (ParticipantCall.resolve audience token now)

@[inherit_doc askContextErr]
def askIdentity (token : OpaqueDestinationToken)
    (now : Time) : ParticipantProg ν (Except (GoError ν) DestinationTokenRotationTokenIdentity) :=
  Prog.request (ParticipantCall.identifyRotationToken handle token now)

@[inherit_doc askContextErr]
def askAttempt (now : Time) :
    ParticipantProg ν (Except (GoError ν) DestinationTokenRotationAttemptSnapshot) :=
  Prog.request (ParticipantCall.inspectRotationAttempt handle now)

@[inherit_doc askContextErr]
def askLifecycleState (audience : GatewayAudienceID) (destination : DestinationID) :
    ParticipantProg ν (Except Sentinel DestinationLifecycleSnapshot) :=
  Prog.request (ParticipantCall.inspectLifecycleState audience destination)

@[inherit_doc askContextErr]
def callCreate (expectedActiveRecordID : DestinationTokenRecordID) :
    ParticipantProg ν (CreatedStagedToken × Option Sentinel) :=
  Prog.request (ParticipantCall.createRotationStagedToken request.audienceID request.destination
    expectedActiveRecordID request.currentToken)

@[inherit_doc askContextErr]
def callActivate (staged oldActive : DestinationTokenRecordID) :
    ParticipantProg ν (Except Sentinel DestinationTokenRotationActivationReceipt) :=
  Prog.request (ParticipantCall.activateRotation request.audienceID request.destination staged
    oldActive)

@[inherit_doc askContextErr]
def callRollback : ParticipantProg ν (Option Sentinel) :=
  Prog.request (ParticipantCall.rollbackRotation handle)

@[inherit_doc askContextErr]
def callFinalize (reason : RotationCompletionReason) :
    ParticipantProg ν (Option Sentinel) :=
  Prog.request (ParticipantCall.finalizeRotation handle reason)

end Participant

open Participant

/-- `rotationContextError`. -/
def rotationContextError : ParticipantProg ν (Option Sentinel) := do
  match ← askContextErr with
  | none => return none
  | some err =>
    if ← err.errorsIs .contextCanceled then return some .errDestinationTokenRotationCanceled
    else if ← err.errorsIs .contextDeadlineExceeded then
      return some .errDestinationTokenRotationDeadline
    else return none

/-- `beginInput` and `operationNow`: the argument is valid, the context is not done, and
the clock is set. -/
def rotationInput (valid : Prop) [Decidable valid] : ParticipantProg ν (Except Sentinel Time) :=
  if ¬ valid then return .error .errDestinationTokenRotationInvalid
  else do
    match ← rotationContextError with
    | some cancellation => return .error cancellation
    | none =>
      let now ← askClock
      if now = 0 then return .error .errDestinationTokenRotationInvalid else return .ok now

@[inherit_doc rotationInput]
def beginInput : ParticipantProg ν (Except Sentinel Time) :=
  rotationInput (ValidRotationBinding request.audienceID request.destination)

@[inherit_doc rotationInput]
def operationNow : ParticipantProg ν (Except Sentinel Time) :=
  rotationInput handle.Valid

/-- `abortCreatedStaged`, under a context of its own. -/
def abortCreatedStaged (recordID : DestinationTokenRecordID) :
    ParticipantProg ν (Option Sentinel) :=
  Prog.request (ParticipantCall.abortStagedToken request.audienceID request.destination recordID)

/-- Abort the new record and report `err`; if that fails, report the handle. -/
def compensate (newID oldID : DestinationTokenRecordID) (err : Sentinel) :
    ParticipantProg ν (DestinationTokenRotationAttempt × Option Sentinel) := do
  match ← abortCreatedStaged request newID with
  | some _ => return (rotationReconciliationAttempt request newID oldID,
      some .errDestinationTokenRotationReconciliation)
  | none => return (.zero, some err)

/-- The end of `BeginRotation`: the activation is confirmed. -/
def confirmRotation (newID oldID : DestinationTokenRecordID) (token : ByteString)
    (activation : DestinationTokenRotationActivationReceipt) :
    ParticipantProg ν (DestinationTokenRotationAttempt × Option Sentinel) := do
  let unconfirmed := (rotationReconciliationAttempt request newID oldID,
    some Sentinel.errDestinationTokenRotationReconciliation)
  if ¬ activation.Valid then return unconfirmed
  else
    let confirmedAt ← askClock
    if ¬ activation.ValidAt confirmedAt then return unconfirmed
    else
      match ← rotationContextError with
      | some _ => return unconfirmed
      | none =>
        let attempt : DestinationTokenRotationAttempt :=
          ⟨⟨request.audienceID, request.destination, newID, oldID⟩, token, activation.activatedAt,
            activation.retirementDeadline⟩
        if ¬ attempt.Valid true then return unconfirmed else return (attempt, none)

namespace DestinationTokenRotationParticipantService

/-- `BeginRotation` once the new record is staged. -/
def activateCreated (created : CreatedStagedToken)
    (oldID : DestinationTokenRecordID) :
    ParticipantProg ν (DestinationTokenRotationAttempt × Option Sentinel) := do
  let newID := created.recordID
  if newID.IsZero then return (.zero, some .errDestinationTokenRotationReconciliation)
  else if ¬ DestinationTokenRotationHandle.Valid
      ⟨request.audienceID, request.destination, newID, oldID⟩ then
    return (.zero, some .errDestinationTokenRotationReconciliation)
  else if created.token = [] then
    compensate request newID oldID .errDestinationTokenRotationUnavailable
  else
    match ← rotationContextError with
    | some cancellation => compensate request newID oldID cancellation
    | none =>
      match ← callActivate request newID oldID with
      | .error err =>
        match classifyRotationActivationError (.sentinel err : GoError ν) with
        | (_, false) => return (rotationReconciliationAttempt request newID oldID,
            some .errDestinationTokenRotationReconciliation)
        | (safeErr, true) => compensate request newID oldID safeErr
      | .ok activation => confirmRotation request newID oldID created.token activation

/-- `BeginRotation` once the old record is known. -/
def createAndActivate (oldID : DestinationTokenRecordID) :
    ParticipantProg ν (DestinationTokenRotationAttempt × Option Sentinel) := do
  match ← callCreate request oldID with
  | (created, some err) =>
    let classified := classifyRotationCreateError (.sentinel err : GoError ν)
    let attempt := rotationReconciliationAttempt request created.recordID oldID
    if classified = .errDestinationTokenRotationReconciliation ∧ attempt.handle.Valid then
      return (attempt, some classified)
    else return (.zero, some classified)
  | (created, none) => activateCreated request created oldID

/-- `BeginRotation`. -/
def beginRotation : ParticipantProg ν (DestinationTokenRotationAttempt × Option Sentinel) := do
  match ← beginInput request with
  | .error err => return (.zero, some err)
  | .ok now =>
    match ← askResolve request.audienceID request.currentToken now with
    | .error err => return (.zero, some (classifyRotationResolverError err))
    | .ok resolved =>
      match ← rotationContextError with
      | some cancellation => return (.zero, some cancellation)
      | none =>
        if resolved ≠ request.destination then
          return (.zero, some .errDestinationTokenRotationConflict)
        else
          match ← askLifecycleState request.audienceID request.destination with
          | .error err => return (.zero,
              some (classifyRotationPreMutationLifecycleError (.sentinel err : GoError ν)))
          | .ok snapshot =>
            match ← rotationContextError with
            | some cancellation => return (.zero, some cancellation)
            | none =>
              match rotationBeginActive snapshot request.audienceID request.destination with
              | .error err => return (.zero, some err)
              | .ok oldActive => createAndActivate request oldActive.recordID

/-- `inspectRotation`. -/
def inspectRotation (now : Time) :
    ParticipantProg ν (Except Sentinel DestinationTokenRotationObservation) := do
  match ← askAttempt handle now with
  | .error _ => return .error .errDestinationTokenRotationReconciliation
  | .ok snapshot =>
    match ← rotationContextError with
    | some cancellation => return .error cancellation
    | none => return classifyRotationSnapshot snapshot handle now

/-- `ObserveRotation`. -/
def observeRotation (token : OpaqueDestinationToken) :
    ParticipantProg ν (Except Sentinel DestinationTokenRotationObservation) := do
  match ← operationNow handle with
  | .error err => return .error err
  | .ok now =>
    match ← askIdentity handle token now with
    | .error _ => return .error .errDestinationTokenRotationReconciliation
    | .ok identity =>
      if ¬ identity.Valid then return .error .errDestinationTokenRotationReconciliation
      else
        match ← rotationContextError with
        | some cancellation => return .error cancellation
        | none =>
          match ← inspectRotation handle now with
          | .error _ => return .error .errDestinationTokenRotationReconciliation
          | .ok inspection =>
            let observation := { inspection with tokenIdentity := identity }
            if ¬ observation.Valid true then
              return .error .errDestinationTokenRotationReconciliation
            else return .ok observation

/-- The two ends of a rotation: the pair must be live, on the right side of its deadline,
before the lifecycle service is called. -/
def endRotation (refused : Time → Time → Bool) (finish : ParticipantProg ν (Option Sentinel)) :
    ParticipantProg ν (Option Sentinel) := do
  match ← operationNow handle with
  | .error err => return some err
  | .ok now =>
    match ← inspectRotation handle now with
    | .error err => return some err
    | .ok inspection =>
      if inspection.status ≠ .activeWithRetiring ∨
          refused now inspection.retirementDeadline = true then
        return some .errDestinationTokenRotationConflict
      else
        match ← rotationContextError with
        | some cancellation => return some cancellation
        | none =>
          let err ← finish
          return classifyRotationMutationError (err.map fun err => (.sentinel err : GoError ν))

/-- `RollbackRotation`: only before the deadline. -/
def rollbackRotation : ParticipantProg ν (Option Sentinel) :=
  endRotation handle (fun now deadline => !decide (now < deadline))
    (callRollback handle)

/-- `FinalizeRotation`: only from the deadline on. -/
def finalizeRotation : ParticipantProg ν (Option Sentinel) :=
  endRotation handle (fun now deadline => decide (now < deadline))
    (callFinalize handle .deadlineElapsed)

end DestinationTokenRotationParticipantService

end

end OncallGateway
