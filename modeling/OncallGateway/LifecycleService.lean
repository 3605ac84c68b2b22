import OncallGateway.LifecycleInspection

/-! # The lifecycle service

`DestinationTokenLifecycleService` stands between the repository and its callers.  It
reads the clock, makes record identifiers, tokens and their verifiers, and tells the
caller of each error of the repository one of seven kinds.  The kind that matters is
`ErrDestinationLifecycleOutcomeUnknown`: it is reported for a mutation that may have been
committed, and for every error that is not known.

A service carries what its constructor has checked of its configuration, without the
check for missing dependencies.  The keyed hash of the verifier is a parameter.  The
lock around the generation of a record is left out: nothing is shared under it but the
source of randomness.
-/

namespace OncallGateway
open Session

/-- `DestinationTokenLifecycleConfig`. -/
structure DestinationTokenLifecycleConfig where
  activeVerifierKeyID : DestinationVerifierKeyID
  tokenLifetime : Int
  stagedCleanupDuration : Int
  retiringOverlap : Int

/-- `DestinationTokenLifecycleService`. -/
structure DestinationTokenLifecycleService where
  activeKeyID : DestinationVerifierKeyID
  tokenLifetime : Int
  cleanupDuration : Int
  overlapDuration : Int
  key : ¬ activeKeyID.IsZero
  lifetime : 0 < tokenLifetime ∧ tokenLifetime ≤ tokenMaxLifetime
  cleanup : 0 < cleanupDuration ∧ cleanupDuration ≤ tokenMaxCleanup
  overlap : 0 < overlapDuration ∧ overlapDuration ≤ tokenMaxOverlap
  outlives : overlapDuration < tokenLifetime

/-- What the constructor leaves of a configuration. -/
structure DestinationTokenLifecycleConfig.Valid (config : DestinationTokenLifecycleConfig) :
    Prop where
  key : ¬ config.activeVerifierKeyID.IsZero
  lifetime : 0 < config.tokenLifetime ∧ config.tokenLifetime ≤ tokenMaxLifetime
  cleanup : 0 < config.stagedCleanupDuration ∧ config.stagedCleanupDuration ≤ tokenMaxCleanup
  overlap : 0 < config.retiringOverlap ∧ config.retiringOverlap ≤ tokenMaxOverlap
  outlives : config.retiringOverlap < config.tokenLifetime

theorem DestinationTokenLifecycleConfig.valid_of_checks {config : DestinationTokenLifecycleConfig}
    (h : ¬ (config.activeVerifierKeyID.IsZero ∨
      config.tokenLifetime ≤ 0 ∨ config.tokenLifetime > tokenMaxLifetime ∨
      config.stagedCleanupDuration ≤ 0 ∨ config.stagedCleanupDuration > tokenMaxCleanup ∨
      config.retiringOverlap ≤ 0 ∨ config.retiringOverlap > tokenMaxOverlap ∨
      config.tokenLifetime ≤ config.retiringOverlap)) : config.Valid := by
  simp only [not_or] at h
  exact ⟨h.1, by omega, by omega, by omega, by omega⟩

/-- `NewDestinationTokenLifecycleService`. -/
def newDestinationTokenLifecycleService (config : DestinationTokenLifecycleConfig) :
    Except Sentinel DestinationTokenLifecycleService :=
  if h : config.activeVerifierKeyID.IsZero ∨
      config.tokenLifetime ≤ 0 ∨ config.tokenLifetime > tokenMaxLifetime ∨
      config.stagedCleanupDuration ≤ 0 ∨ config.stagedCleanupDuration > tokenMaxCleanup ∨
      config.retiringOverlap ≤ 0 ∨ config.retiringOverlap > tokenMaxOverlap ∨
      config.tokenLifetime ≤ config.retiringOverlap then
    .error .errDestinationLifecycleInvalid
  else if newDestinationVerifierKeyID config.activeVerifierKeyID.value ≠
      .ok config.activeVerifierKeyID then
    .error .errDestinationLifecycleInvalid
  else
    have valid := DestinationTokenLifecycleConfig.valid_of_checks h
    .ok {
      activeKeyID := config.activeVerifierKeyID
      tokenLifetime := config.tokenLifetime
      cleanupDuration := config.stagedCleanupDuration
      overlapDuration := config.retiringOverlap
      key := valid.key
      lifetime := valid.lifetime
      cleanup := valid.cleanup
      overlap := valid.overlap
      outlives := valid.outlives }

/-- `CreatedStagedToken`; the token is the text of a `OneTimeDestinationToken`, empty when
there is none. -/
structure CreatedStagedToken where
  recordID : DestinationTokenRecordID
  token : ByteString
deriving DecidableEq

/-- `CreatedStagedToken{}`. -/
def CreatedStagedToken.none : CreatedStagedToken := ⟨Bytes.zero 16, []⟩

/-- `destinationTokenVerifierDomain`. -/
def destinationTokenVerifierDomain : ByteString := .ascii "MS_ONCALL_GATEWAY_DESTINATION_TOKEN_V1"

/-- `ComputeDestinationTokenVerifier`; `hmac` is HMAC-SHA256, of a key and a message. -/
def computeDestinationTokenVerifier (hmac : KeyedHash)
    (audience : GatewayAudienceID) (token : OpaqueDestinationToken) (key : ByteString) :
    Except Sentinel TokenVerifier :=
  if audience.IsZero ∨ key.length < 32 then .error .errInvalidState
  else newTokenVerifier (hmac key (destinationTokenVerifierDomain ++ 0 :: (formatUUID audience ++
    0 :: token.toList))).toList

section
variable {ν : Type} [ErrorGraph ν]

/-! ## Errors -/

/-- The first kind of the list that the error matches. -/
def firstKind (err : GoError ν) (kinds : List Sentinel) : Option Sentinel :=
  kinds.find? fun kind => err.singleCauseMatches kind

/-- `classifyDestinationLifecycleError`. -/
def classifyDestinationLifecycleError : Option (GoError ν) → Option Sentinel
  | none => none
  | some err =>
    if err.singleCauseMatches .errDestinationLifecycleOutcomeUnknown then
      some .errDestinationLifecycleOutcomeUnknown
    else if err.singleCauseMatches .contextCanceled then some .errDestinationLifecycleCanceled
    else if err.singleCauseMatches .contextDeadlineExceeded then
      some .errDestinationLifecycleDeadline
    else if err.singleCauseMatches .errDestinationLifecycleCanceled then
      some .errDestinationLifecycleCanceled
    else if err.singleCauseMatches .errDestinationLifecycleDeadline then
      some .errDestinationLifecycleDeadline
    else (firstKind err
      [.errDestinationLifecycleInvalid, .errDestinationLifecycleConflict,
        .errDestinationLifecycleReconciliation, .errDestinationLifecycleUnavailable]).getD
      .errDestinationLifecycleOutcomeUnknown

/-- `classifyDestinationLifecycleInspectionError`. -/
def classifyDestinationLifecycleInspectionError (err : GoError ν) : Sentinel :=
  match firstKind err
    [.errDestinationLifecycleCanceled, .errDestinationLifecycleDeadline,
      .errDestinationLifecycleInvalid, .errDestinationLifecycleConflict,
      .errDestinationLifecycleReconciliation, .errDestinationLifecycleUnavailable] with
  | some kind => kind
  | none =>
    if err.singleCauseMatches .contextCanceled then .errDestinationLifecycleCanceled
    else if err.singleCauseMatches .contextDeadlineExceeded then .errDestinationLifecycleDeadline
    else .errDestinationLifecycleUnavailable

/-- `lifecycleCancellation`, which is `lifecycleRepositoryCancellation` again: of an error if
there is one, and of the context if not. -/
def lifecycleCancellation : Option (GoError ν) → LifecycleProg ν (Option Sentinel)
  | some err => return lifecycleRepositoryCancellation none (some err)
  | none => do return lifecycleRepositoryCancellation (← contextErr) none

/-! ## Calls -/

/-- The clock of the service, and what it is given to make tokens. -/
def serviceClock : LifecycleProg ν Time := Session.ask Outside.serviceClock

@[inherit_doc serviceClock]
def newDestinationTokenRecordID : LifecycleProg ν (Except (GoError ν) DestinationTokenRecordID) :=
  Session.ask Outside.newDestinationTokenRecordID

@[inherit_doc serviceClock]
def readEntropy : LifecycleProg ν (Except (GoError ν) (Bytes 32)) := Session.ask Outside.entropy

@[inherit_doc serviceClock]
def destinationVerifierKey (audience : GatewayAudienceID) (keyID : DestinationVerifierKeyID) :
    LifecycleProg ν (Except (GoError ν) ByteString) :=
  Session.ask (Outside.destinationVerifierKey audience keyID)

/-- `operationInput`. -/
def operationInput (audience : GatewayAudienceID) (destination : DestinationID) :
    LifecycleProg ν (Except Sentinel Time) :=
  if audience.IsZero ∨ destination.IsZero then return .error .errDestinationLifecycleInvalid
  else do
    match ← lifecycleCancellation none with
    | some cancellation => return .error cancellation
    | none =>
      let now ← serviceClock
      if now = 0 then return .error .errDestinationLifecycleInvalid else return .ok now

/-- `recordOperationInput`. -/
def recordOperationInput (audience : GatewayAudienceID) (destination : DestinationID)
    (record : DestinationTokenRecordID) : LifecycleProg ν (Except Sentinel Time) := do
  match ← operationInput audience destination with
  | .error err => return .error err
  | .ok now =>
    if record.IsZero then return .error .errDestinationLifecycleInvalid else return .ok now

/-- `pairOperationInput`. -/
def pairOperationInput (audience : GatewayAudienceID) (destination : DestinationID)
    (first second : DestinationTokenRecordID) : LifecycleProg ν (Except Sentinel Time) := do
  match ← recordOperationInput audience destination first with
  | .error err => return .error err
  | .ok now =>
    if second.IsZero ∨ first = second then return .error .errDestinationLifecycleInvalid
    else return .ok now

/-- The record identifier, and the entropy if there is one. -/
def generateRecord : LifecycleProg ν (Except (GoError ν) (DestinationTokenRecordID × Bytes 32)) := do
  match ← newDestinationTokenRecordID with
  | .error err => return .error err
  | .ok recordID =>
    if recordID.IsZero then return .ok (recordID, Bytes.zero 32)
    else
      match ← readEntropy with
      | .error err => return .error err
      | .ok entropy => return .ok (recordID, entropy)

namespace DestinationTokenLifecycleService
variable (service : DestinationTokenLifecycleService) (hmac : KeyedHash)

/-- The mutation `createStagedToken` calls for a candidate: for a rotation, that of a record
the participant has seen active. -/
def createMutation (candidate : StagedTokenCandidate) (now : Time) :
    Option (DestinationTokenRecordID × OpaqueDestinationToken) → Except Sentinel Mutation
  | none => .ok (.createStagedToken candidate now)
  | some (expectedActiveRecordID, _) =>
    match newCreateRotationStagedTokenCommand candidate expectedActiveRecordID now with
    | .error _ => .error .errDestinationLifecycleInvalid
    | .ok command => .ok (.createRotationStagedToken command)

/-- The last part of `createStagedToken`: the repository is called. -/
def storeStagedToken (m : Mutation) (recordID : DestinationTokenRecordID) (encoded : ByteString) :
    LifecycleProg ν (CreatedStagedToken × Option Sentinel) := do
  match classifyDestinationLifecycleError (← m.run) with
  | some classified =>
    if classified = .errDestinationLifecycleOutcomeUnknown then
      return (⟨recordID, []⟩, some classified)
    else return (.none, some classified)
  | none => return (⟨recordID, encoded⟩, none)

variable (audience : GatewayAudienceID) (destination : DestinationID)

/-- `createStagedToken`; `rotation` are the record and the token of a rotation. -/
def createStagedToken (rotation : Option (DestinationTokenRecordID × OpaqueDestinationToken)) :
    LifecycleProg ν (CreatedStagedToken × Option Sentinel) := do
  match ← operationInput audience destination with
  | .error err => return (.none, some err)
  | .ok now =>
    let generated ← generateRecord
    match ← lifecycleCancellation generated.error? with
    | some cancellation => return (.none, some cancellation)
    | none =>
      match generated with
      | .error _ => return (.none, some .errDestinationLifecycleUnavailable)
      | .ok (recordID, entropy) =>
        if recordID.IsZero then return (.none, some .errDestinationLifecycleUnavailable)
        else
          let encoded := opaqueTokenPrefix ++ base64Encode entropy.toList
          match parseOpaqueDestinationToken encoded with
          | .error _ => return (.none, some .errDestinationLifecycleUnavailable)
          | .ok rawToken =>
            if rotation.any fun r => decide (rawToken = r.2) then
              return (.none, some .errDestinationLifecycleConflict)
            else
              let key ← destinationVerifierKey audience service.activeKeyID
              match ← lifecycleCancellation key.error? with
              | some cancellation => return (.none, some cancellation)
              | none =>
                match key with
                | .error _ => return (.none, some .errDestinationLifecycleUnavailable)
                | .ok key =>
                  match computeDestinationTokenVerifier hmac audience rawToken key with
                  | .error _ => return (.none, some .errDestinationLifecycleUnavailable)
                  | .ok verifier =>
                    match newStagedTokenCandidate audience destination recordID verifier
                        service.activeKeyID now (now.add service.tokenLifetime)
                        (now.add service.cleanupDuration) with
                    | .error _ => return (.none, some .errDestinationLifecycleInvalid)
                    | .ok candidate =>
                      match createMutation candidate now rotation with
                      | .error err => return (.none, some err)
                      | .ok m => storeStagedToken m recordID encoded

/-- `CreateRotationStagedToken`. -/
def createRotationStagedToken (expectedActiveRecordID : DestinationTokenRecordID)
    (currentToken : OpaqueDestinationToken) :
    LifecycleProg ν (CreatedStagedToken × Option Sentinel) :=
  if expectedActiveRecordID.IsZero then return (.none, some .errDestinationLifecycleInvalid)
  else service.createStagedToken hmac audience destination
    (some (expectedActiveRecordID, currentToken))

/-- `ActivateRotation`. -/
def activateRotation (staged oldActive : DestinationTokenRecordID) :
    LifecycleProg ν (Except Sentinel DestinationTokenRotationActivationReceipt) := do
  match ← pairOperationInput audience destination staged oldActive with
  | .error err => return .error err
  | .ok now =>
    let activatedAt := canonicalDestinationLifecycleTimestamp now
    let retirementDeadline :=
      canonicalDestinationLifecycleTimestamp (now.add service.overlapDuration)
    match newDestinationTokenRotationActivationReceipt activatedAt retirementDeadline with
    | .error _ => return .error .errDestinationLifecycleInvalid
    | .ok receipt =>
      match classifyDestinationLifecycleError (← (Mutation.activateRotation
        ⟨audience, destination, staged, oldActive, activatedAt, retirementDeadline⟩).run) with
      | some err => return .error err
      | none => return .ok receipt

/-- `ActivateInitialToken`. -/
def activateInitialToken (staged : DestinationTokenRecordID) :
    LifecycleProg ν (Option Sentinel) := do
  match ← recordOperationInput audience destination staged with
  | .error err => return some err
  | .ok now =>
    return classifyDestinationLifecycleError
      (← (Mutation.activateInitialToken audience destination staged now).run)

/-- `AbortStagedToken`. -/
def abortStagedToken (staged : DestinationTokenRecordID) : LifecycleProg ν (Option Sentinel) := do
  match ← recordOperationInput audience destination staged with
  | .error err => return some err
  | .ok now =>
    return classifyDestinationLifecycleError
      (← (Mutation.abortStagedToken audience destination staged now).run)

/-- `RollbackRotation`. -/
def rollbackRotation (newActive oldRetiring : DestinationTokenRecordID) :
    LifecycleProg ν (Option Sentinel) := do
  match ← pairOperationInput audience destination newActive oldRetiring with
  | .error err => return some err
  | .ok now =>
    return classifyDestinationLifecycleError
      (← (Mutation.rollbackRotation ⟨audience, destination, newActive, oldRetiring, now⟩).run)

/-- `FinalizeRotation`. -/
def finalizeRotation (newActive oldRetiring : DestinationTokenRecordID)
    (reason : RotationCompletionReason) :
    LifecycleProg ν (Option Sentinel) := do
  match ← pairOperationInput audience destination newActive oldRetiring with
  | .error err => return some err
  | .ok now =>
    if ¬ reason.Valid then return some .errDestinationLifecycleInvalid
    else
      return classifyDestinationLifecycleError (← (Mutation.finalizeRotation
        ⟨audience, destination, newActive, oldRetiring, reason, now⟩).run)

/-- `InspectLifecycleState`.  A snapshot of the repository always has a status. -/
def inspectLifecycleState : LifecycleProg ν (Except Sentinel DestinationLifecycleSnapshot) := do
  match ← operationInput audience destination with
  | .error err => return .error err
  | .ok now =>
    match ← OncallGateway.inspectLifecycleState audience destination now with
    | .error err => return .error (classifyDestinationLifecycleInspectionError err)
    | .ok snapshot =>
      if snapshot.audienceID ≠ audience ∨ snapshot.destinationID ≠ destination then
        return .error .errDestinationLifecycleReconciliation
      else return .ok snapshot

end DestinationTokenLifecycleService

end

end OncallGateway
