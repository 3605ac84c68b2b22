import OncallGateway.Protection

/-! # Accepting an event

The three layers that make an event durable: `AcceptanceRepository.InsertOrLoad` on the
table `durable_acceptances`, `durable.Service.Accept` over it, and `intake.Service.Accept`
over both it and the protection service.  Results are pairs of a value and an error, as in
the source, so that what is returned beside an error can be spoken of.

The deferred functions come last, on every path (`Session.close`), and before a panic.  The
errors of the driver reach `errors.Is` and `isConnectionInterruption` as they are, so that a call
may stop.  A connection or a transaction that is nil without an error is not looked for; its
first use panics.  Services without their dependencies and nil contexts are left out.
-/

namespace OncallGateway
open Session

/-! ## The repository -/

/-- `Candidate`. -/
structure Candidate where
  receiptID : ReceiptID
  acceptance : PreparedAcceptance
deriving DecidableEq

/-- `StoredAcceptance`. -/
structure StoredAcceptance where
  receiptID : ReceiptID
  formatVersion : Int64
  protectedDigest : ProtectedValue
  encryptionKeyID : ByteString
deriving DecidableEq

/-- Its zero value, with a receipt. -/
def StoredAcceptance.ofReceipt (receiptID : ReceiptID) : StoredAcceptance :=
  ⟨receiptID, 0, ⟨[], []⟩, []⟩

/-- `PersistenceResult`. -/
structure PersistenceResult where
  inserted : Bool
  stored : StoredAcceptance
deriving DecidableEq

/-- Its zero value. -/
def PersistenceResult.zero : PersistenceResult := ⟨false, .ofReceipt (Bytes.zero 16)⟩

/-- The columns that `selectAcceptanceSQL` reads. -/
structure AcceptanceColumns where
  receiptText : ByteString
  formatVersion : Int64
  ciphertext : ByteString
  nonce : ByteString
  encryptionKeyID : ByteString
deriving DecidableEq

/-- The statements of the repository. -/
inductive AcceptanceSql where
  /-- `insertAcceptanceSQL`. -/
  | insert (candidate : Candidate)
  /-- `selectAcceptanceSQL`. -/
  | select (corePrincipalID destinationID : ByteString) (deliveryIdentity : DeliveryIdentity)

/-- What they answer: the receipt's text, or the columns, or an error of the scan. -/
def AcceptanceSql.Answer (ε : Type) : AcceptanceSql → Type
  | .insert _ => Except ε ByteString
  | .select _ _ _ => Except ε AcceptanceColumns

/-- A program of the repository or of the services above it. -/
abbrev AcceptanceProg (ν α : Type) :=
  ProtectionProg ν (AcceptanceSql.Answer (GoError ν)) α

section
variable {ν : Type}

/-- The statements, as programs. -/
def insertAcceptance (candidate : Candidate) : AcceptanceProg ν (Except (GoError ν) ByteString) :=
  Session.send (AcceptanceSql.insert candidate)

@[inherit_doc insertAcceptance]
def selectAcceptance (acceptance : PreparedAcceptance) :
    AcceptanceProg ν (Except (GoError ν) AcceptanceColumns) :=
  Session.send (AcceptanceSql.select acceptance.corePrincipalID acceptance.destinationID
    acceptance.deliveryIdentity)

/-- `NewReceiptID`. -/
def newReceiptID : AcceptanceProg ν (Option ReceiptID) := Session.ask AcceptanceCall.newReceiptID

/-- `ParseReceiptID`, the same `parseUUID` as `ParseDeliveryIdentity`. -/
def parseReceiptID (value : ByteString) : Except Sentinel ReceiptID := parseDeliveryIdentity value

/-- What `InsertOrLoad` returns. -/
abbrev PersistenceOutcome (ν : Type) := PersistenceResult × Option (GoError ν)

@[inherit_doc PersistenceOutcome]
def persistenceFailure (kind : Sentinel) (operation : String) : PersistenceOutcome ν :=
  (.zero, some (.safe kind operation))

variable [ErrorGraph ν]

/-- `contextFailure`. -/
def contextFailure (err : GoError ν) : AcceptanceProg ν Bool := do
  if ← GoError.errorsIsAny [.contextCanceled, .contextDeadlineExceeded] (some err) then return true
  else if ← GoError.errorsIsAny [.contextCanceled] (← acceptanceContextErr) then return true
  else GoError.errorsIsAny [.contextDeadlineExceeded] (← acceptanceContextErr)

/-- The deferred functions of `InsertOrLoad`; the error of the rollback is not looked at. -/
def closeAcceptance {α : Type} (outcome : α × Cleanup) : AcceptanceProg ν α :=
  close (fun outcome => do
    let _ ← Session.rollback
    return outcome) outcome

/-- `isConnectionInterruption` in `InsertOrLoad`: a panic runs the deferred functions. -/
def interruption (err : GoError ν) (flags : Cleanup) : AcceptanceProg ν Bool :=
  match err.isConnectionInterruption with
  | .error .panic => do
    closeAcceptance ((), flags)
    .stop .panic
  | result => result

/-- The function `rollback` of `InsertOrLoad`. -/
def rollbackAcceptance (kind : Sentinel) (destroy : Bool) (operation : String)
    (flags : Cleanup) :
    AcceptanceProg ν (PersistenceOutcome ν × Cleanup) := do
  let rollbackErr ← Session.rollback
  let flags := { flags with transactionOpen := false }
  let closed ← GoError.errorsIsAny [.pgxErrTxClosed] rollbackErr
  if rollbackErr.isSome && !closed then
    return (persistenceFailure .errStoreOutcomeUnknown "durable acceptance cleanup",
      ← destroyConnection flags)
  else return (persistenceFailure kind operation, ← destroyConnectionIf destroy flags)

/-- The commit, and what is returned after it. -/
def commitAcceptance (result : PersistenceResult) (flags : Cleanup) :
    AcceptanceProg ν (PersistenceOutcome ν × Cleanup) := do
  let committed ← Session.commit
  let flags := { flags with transactionOpen := false }
  match committed with
  | some _ =>
    return (persistenceFailure .errStoreOutcomeUnknown "durable acceptance commit",
      ← destroyConnection flags)
  | none => return ((result, none), flags)

/-- `InsertOrLoad` after a conflict: the row that is stored. -/
def loadAcceptance (acceptance : PreparedAcceptance) (flags : Cleanup) :
    AcceptanceProg ν (PersistenceOutcome ν × Cleanup) := do
  match ← selectAcceptance acceptance with
  | .error err =>
    if ← contextFailure err then
      rollbackAcceptance .errStoreCanceled false "durable acceptance lookup" flags
    else if ← interruption err flags then
      rollbackAcceptance .errStoreUnavailable true "durable acceptance lookup" flags
    else rollbackAcceptance .errStoreFailure false "durable acceptance lookup" flags
  | .ok columns =>
    match parseReceiptID columns.receiptText,
        newProtectedValue columns.ciphertext columns.nonce with
    | .ok storedReceipt, .ok storedDigest =>
      if columns.formatVersion ≤ 0 ∨ columns.encryptionKeyID = [] then
        rollbackAcceptance .errStoredRecordUnreadable false "durable acceptance stored record" flags
      else
        commitAcceptance
          ⟨false, ⟨storedReceipt, columns.formatVersion, storedDigest, columns.encryptionKeyID⟩⟩
          flags
    | _, _ =>
      rollbackAcceptance .errStoredRecordUnreadable false "durable acceptance stored record" flags

/-- `InsertOrLoad` once its transaction is open. -/
def insertOrLoadOpened (candidate : Candidate) (flags : Cleanup) :
    AcceptanceProg ν (PersistenceOutcome ν × Cleanup) := do
  match ← insertAcceptance candidate with
  | .ok insertedReceipt =>
    match parseReceiptID insertedReceipt with
    | .error _ =>
      rollbackAcceptance .errStoreFailure false "durable acceptance insert result" flags
    | .ok persistedReceipt =>
      if persistedReceipt ≠ candidate.receiptID then
        rollbackAcceptance .errStoreFailure false "durable acceptance insert result" flags
      else commitAcceptance ⟨true, .ofReceipt candidate.receiptID⟩ flags
  | .error err =>
    if ← err.errorsIs .pgxErrNoRows then loadAcceptance candidate.acceptance flags
    else if ← contextFailure err then
      rollbackAcceptance .errStoreCanceled false "durable acceptance insert" flags
    else if ← interruption err flags then
      rollbackAcceptance .errStoreOutcomeUnknown true "durable acceptance insert" flags
    else rollbackAcceptance .errStoreFailure false "durable acceptance insert" flags

/-- `InsertOrLoad` on its connection. -/
def insertOnConnection (candidate : Candidate) (flags : Cleanup) :
    AcceptanceProg ν (PersistenceOutcome ν × Cleanup) := do
  match ← Session.begin .readWrite with
  | .failed err _ =>
    if ← interruption err flags then
      let flags ← destroyConnection flags
      if ← contextFailure err then
        return (persistenceFailure .errStoreCanceled "durable acceptance begin", flags)
      else return (persistenceFailure .errStoreUnavailable "durable acceptance begin", flags)
    else return (persistenceFailure .errStoreFailure "durable acceptance begin", flags)
  | .absent => do
    -- the query panics, and so does the deferred rollback
    closeAcceptance ((), flags)
    .stop .panic
  | .opened => insertOrLoadOpened candidate { flags with transactionOpen := true }

/-- `InsertOrLoad`. -/
def insertOrLoad (candidate : Candidate) : AcceptanceProg ν (PersistenceOutcome ν) := do
  match ← Session.acquire with
  | .failed err _ =>
    if ← contextFailure err then
      return persistenceFailure .errStoreCanceled "durable acceptance connection"
    else return persistenceFailure .errStoreUnavailable "durable acceptance connection"
  | .absent => .stop .panic
  | .opened =>
    let outcome ← insertOnConnection candidate ⟨true, false⟩
    closeAcceptance outcome

end

/-! ## The durable service -/

/-- `Disposition`; `unset` is its zero value. -/
inductive Disposition where
  | unset | acceptedNew | acceptedDuplicate | identityConflict
deriving DecidableEq

/-- `durable.Result`. -/
structure AcceptanceResult where
  disposition : Disposition
  receiptID : ReceiptID
deriving DecidableEq

/-- Its zero value. -/
def AcceptanceResult.zero : AcceptanceResult := ⟨.unset, Bytes.zero 16⟩

section
variable {ν : Type} [ErrorGraph ν]

/-- The first error of the list that the error is, or `otherwise`. -/
def classifyError (safe : List Sentinel) (otherwise : Sentinel) (err : GoError ν) :
    Except Stop Sentinel := do
  return (← safe.findM? err.errorsIs).getD otherwise

/-- `classifyRepositoryError`. -/
def classifyRepositoryError (err : GoError ν) : Except Stop Sentinel :=
  classifyError [.errStoreUnavailable, .errStoreOutcomeUnknown, .errStoreCanceled,
    .errStoreFailure, .errStoredRecordUnreadable] .errStoreFailure err

/-- What `Accept` asks the opener for, of a stored row. -/
def StoredAcceptance.openRequest (stored : StoredAcceptance) (acceptance : PreparedAcceptance) :
    DigestOpenRequest where
  protectedDigest := stored.protectedDigest
  encryptionKeyID := stored.encryptionKeyID
  corePrincipalID := acceptance.corePrincipalID
  destinationID := acceptance.destinationID
  deliveryIdentity := acceptance.deliveryIdentity
  formatVersion := stored.formatVersion

/-- `Accept` of the durable service for an identity that is stored: compare with what is
there. -/
def compareStored (aead : Aead) (stored : StoredAcceptance) (acceptance : PreparedAcceptance) :
    AcceptanceProg ν (AcceptanceResult × Option Sentinel) := do
  if stored.receiptID.IsZero ∨ stored.formatVersion ≤ 0 ∨ ¬ stored.protectedDigest.Valid ∨
      stored.encryptionKeyID = [] then
    return (.zero, some .errStoredRecordUnreadable)
  else
    match ← openDigest aead (stored.openRequest acceptance) with
    | .error _ => return (.zero, some .errStoredRecordUnreadable)
    | .ok storedDigest =>
      if stored.formatVersion = acceptance.formatVersion ∧
          storedDigest = acceptance.equivalenceDigest then
        return (⟨.acceptedDuplicate, stored.receiptID⟩, none)
      else return (⟨.identityConflict, Bytes.zero 16⟩, none)

/-- `Accept` of the durable service. -/
def durableAccept (aead : Aead) (acceptance : PreparedAcceptance) :
    AcceptanceProg ν (AcceptanceResult × Option Sentinel) := do
  match acceptance.validate with
  | .error _ => return (.zero, some .errInvalidAcceptance)
  | .ok _ =>
    match ← newReceiptID with
    | none => return (.zero, some .errReceiptGeneration)
    | some receipt =>
      if receipt.IsZero then return (.zero, some .errReceiptGeneration)
      else
        match ← insertOrLoad ⟨receipt, acceptance⟩ with
        | (_, some err) => return (.zero, some (← classifyRepositoryError err))
        | (persisted, none) =>
          if persisted.inserted then
            if persisted.stored.receiptID ≠ receipt then
              return (.zero, some .errStoreFailure)
            else return (⟨.acceptedNew, receipt⟩, none)
          else compareStored aead persisted.stored acceptance

/-! ## The intake service -/

/-- `intake.Request`; no event is a nil interface. -/
structure IntakeRequest where
  corePrincipalID : ByteString
  destinationID : ByteString
  deliveryIdentity : ByteString
  event : Option Event

/-- `isNilInterface` of the event: a nil interface or a nil pointer. -/
def nilEvent : Option Event → Bool
  | none => true
  | some (.nilPointer _) => true
  | some _ => false

/-- `preparedMatchesRequest`. -/
def preparedMatchesRequest (prepared : PreparedAcceptance) (request : IntakeRequest)
    (deliveryIdentity : DeliveryIdentity) (event : CanonicalEvent) : Bool :=
  decide (prepared.corePrincipalID = request.corePrincipalID ∧
    prepared.destinationID = request.destinationID ∧
    prepared.deliveryIdentity = deliveryIdentity ∧
    prepared.formatVersion = event.formatVersion ∧ prepared.encryptionKeyID ≠ [] ∧
    prepared.canonicalEvent.Valid ∧ prepared.protectedDigest.Valid ∧
    prepared.equivalenceDigest = event.digest)

/-- `validResult`. -/
def validResult (result : AcceptanceResult) : Bool :=
  match result.disposition with
  | .acceptedNew | .acceptedDuplicate => decide (¬ result.receiptID.IsZero)
  | .identityConflict => decide result.receiptID.IsZero
  | .unset => false

/-- `classifyProtectionError`. -/
def classifyProtectionError (err : GoError ν) : Except Stop Sentinel :=
  classifyError [.errProtectionInvalid, .errProtectionKeyUnavailable, .errProtectionRandom,
    .errProtectionFailed, .errProtectedDigestUnreadable] .errProtectionFailed err

/-- `classifyStoreError`. -/
def classifyStoreError (err : GoError ν) : Except Stop Sentinel :=
  classifyError [.errInvalidAcceptance, .errReceiptGeneration, .errStoreUnavailable,
    .errStoreOutcomeUnknown, .errStoreCanceled, .errStoreFailure, .errStoredRecordUnreadable]
    .errStoreFailure err

/-- `Accept` of the intake service once the event is protected. -/
def storePrepared (aead : Aead) (prepared : PreparedAcceptance) :
    AcceptanceProg ν (AcceptanceResult × Option Sentinel) := do
  let contextErr ← acceptanceContextErr
  if contextErr.isSome then return (.zero, some .errCanceled)
  else
    match ← durableAccept aead prepared with
    | (_, some err) => return (.zero, some (← classifyStoreError (.sentinel err : GoError ν)))
    | (result, none) =>
      if validResult result = false then return (.zero, some .errStoreFailure)
      else return (result, none)

/-- `Accept` of the intake service. -/
def intakeAccept (aead : Aead) (sum256 : Hash)
    (order : RangeOrder ByteString ByteString) (request : IntakeRequest) :
    AcceptanceProg ν (AcceptanceResult × Option Sentinel) := do
  let contextErr ← acceptanceContextErr
  if contextErr.isSome then return (.zero, some .errCanceled)
  else if request.corePrincipalID = [] ∨ request.destinationID = [] ∨ nilEvent request.event then
    return (.zero, some .errInvalidRequest)
  else
    match parseDeliveryIdentity request.deliveryIdentity with
    | .error _ => return (.zero, some .errInvalidRequest)
    | .ok deliveryIdentity =>
      if formatUUID deliveryIdentity ≠ request.deliveryIdentity then
        return (.zero, some .errInvalidRequest)
      else
        match canonicalizeEvent order sum256 (request.event.getD .foreign) with
        | .error _ => return (.zero, some .errCanonicalEvent)
        | .ok event =>
          let contextErr ← acceptanceContextErr
          if contextErr.isSome then return (.zero, some .errCanceled)
          else
            match ← prepare aead sum256 request.corePrincipalID request.destinationID
                deliveryIdentity event with
            | .error err =>
              return (.zero, some (← classifyProtectionError (.sentinel err : GoError ν)))
            | .ok prepared =>
              if preparedMatchesRequest prepared request deliveryIdentity event = false then
                return (.zero, some .errProtectionFailed)
              else storePrepared aead prepared

end

end OncallGateway
