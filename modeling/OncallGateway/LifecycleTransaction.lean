import OncallGateway.LifecycleDatabase

/-! # The transactions of the lifecycle repository

The repository's programs: `runLifecycleMutation` around the seven mutations,
`InspectLifecycleState` and `InspectRotationAttempt`, with the errors they make of what
their calls answer, and the connection handed back by `Release` or `Destroy`.

The errors of the dependencies are walked only after the gate `singleCauseChain`, which lets
nothing pass that a walk could not end on, and the causes of a rollback are the package's own; so
these programs do not stop.  The deferred functions come last, on every path
(`Session.close`); in a mutation the one that rolls back a transaction that is still open
finds none.  A repository that is nil or not configured, and a nil context, are left out.
-/

namespace OncallGateway
open Session

variable {ν : Type} [ErrorGraph ν]

/-! ## Errors -/

/-- `lifecycleRepositoryCancellation`; the context's `Err` is looked at only when there is
no error. -/
def lifecycleRepositoryCancellation (contextErr err : Option (GoError ν)) : Option Sentinel :=
  match err with
  | some err =>
    if err.singleCauseMatches .contextCanceled then some .errDestinationLifecycleCanceled
    else if err.singleCauseMatches .contextDeadlineExceeded then
      some .errDestinationLifecycleDeadline
    else none
  | none =>
    match contextErr with
    | none => none
    | some contextErr =>
      if contextErr.isSentinel .contextCanceled then some .errDestinationLifecycleCanceled
      else if contextErr.isSentinel .contextDeadlineExceeded then
        some .errDestinationLifecycleDeadline
      else none

/-- `lifecycleConnectionError`. -/
def lifecycleConnectionError (err : GoError ν) (operation : String) : GoError ν :=
  match lifecycleRepositoryCancellation none (some err) with
  | some cancellation => .safe cancellation operation
  | none => .safe .errDestinationLifecycleUnavailable operation

/-- `lifecycleReadError`. -/
def lifecycleReadError (err : GoError ν) : GoError ν :=
  if err.singleCauseChain = false then .internal .errDestinationLifecycleUnavailable true
  else match lifecycleRepositoryCancellation none (some err) with
    | some cancellation => .internal cancellation err.interrupted
    | none => .internal .errDestinationLifecycleUnavailable err.interrupted

/-- `lifecycleUnsafeOrConnectionInterruption`. -/
def lifecycleUnsafeOrConnectionInterruption (err : GoError ν) : Bool :=
  if err.singleCauseChain = false then true else err.interrupted

/-- `lifecycleConstraintName`; empty when there is none. -/
def lifecycleConstraintName (err : GoError ν) : String :=
  if err.singleCausePostgresError = false then ""
  else match err.asPgError with
    | .ok (some (code, constraintName)) => if code = "23505" then constraintName else ""
    | _ => ""

/-- `lifecycleMutationError`. -/
def lifecycleMutationError (err : GoError ν) : GoError ν :=
  if err.singleCauseChain = false then .internal .errDestinationLifecycleOutcomeUnknown true
  else match lifecycleRepositoryCancellation none (some err) with
    | some cancellation => .internal cancellation err.interrupted
    | none =>
      if err.interrupted then .internal .errDestinationLifecycleUnavailable true
      else if lifecycleConstraintName err ≠ "" then
        if lifecycleConstraintName err = "gateway_destination_tokens_one_staged_per_destination" ∨
            lifecycleConstraintName err = "gateway_destination_tokens_one_active_per_destination" ∨
            lifecycleConstraintName err =
              "gateway_destination_tokens_one_retiring_per_destination" then
          .sentinel .errDestinationLifecycleConflict
        else .sentinel .errDestinationLifecycleUnavailable
      else if err.singleCausePostgresError then .sentinel .errDestinationLifecycleUnavailable
      else .internal .errDestinationLifecycleOutcomeUnknown true

/-- `lifecycleErrorRequiresDestroy`, of a cause the repository has made. -/
def lifecycleErrorRequiresDestroy (cause : GoError ν) : Bool :=
  match cause.find fun node => node matches .internal _ _ with
  | some (some (.internal _ destroy)) => destroy
  | _ => false

/-- `lifecycleSameDirectReadCause`. -/
def lifecycleSameDirectReadCause [DecidableEq ν] : GoError ν → GoError ν → Bool
  | .sentinel primary, .sentinel terminal => decide (primary = terminal)
  | .foreign primary, .foreign terminal =>
    let direct (v : ν) : Bool := !(ErrorValues.view v).typedNil && (ErrorValues.view v).is.isNone &&
      (match (ErrorValues.view v).unwrap with | .none => true | _ => false)
    direct primary && direct terminal && (ErrorValues.view primary).comparable &&
      decide (primary = terminal)
  | _, _ => false

/-- `lifecycleCombinedReadCause` of an error and the terminal error of the rows. -/
def lifecycleCombinedReadCause [DecidableEq ν] (primary : GoError ν) :
    Option (GoError ν) → GoError ν
  | none => primary
  | some terminal =>
    if lifecycleSameDirectReadCause primary terminal then primary else .joined primary terminal

/-- The first kind of the list that the cause matches, in a `*SafeError`. -/
def firstMatch (cause : GoError ν) (operation : String) : List Sentinel → Option (GoError ν)
  | [] => none
  | kind :: kinds =>
    if cause.singleCauseMatches kind then some (.safe kind operation)
    else firstMatch cause operation kinds

/-! ## Calls -/

/-- The queries and statements, as programs. -/
def queryDestination (lock : Bool) (destination : DestinationID) :
    LifecycleProg ν (RowAnswer (GoError ν) LifecycleDestinationRecord) :=
  Session.send (LifecycleSql.destination lock destination)

omit [ErrorGraph ν] in
@[inherit_doc queryDestination]
def queryTokens (lock : Bool) (destination : DestinationID) :
    LifecycleProg ν (RowsAnswer (GoError ν) LifecycleTokenRecord) :=
  Session.send (LifecycleSql.tokens lock destination)

@[inherit_doc queryDestination]
def queryAttemptTokens (audience : GatewayAudienceID) (destination : DestinationID)
    (newActiveID oldRetiringID : DestinationTokenRecordID) :
    LifecycleProg ν (RowsAnswer (GoError ν) LifecycleTokenRecord) :=
  Session.send (LifecycleSql.attemptTokens audience destination newActiveID oldRetiringID)

@[inherit_doc queryDestination]
def exec (statement : Statement) : LifecycleProg ν (Except (GoError ν) Nat) :=
  Session.send (LifecycleSql.exec statement)

/-- `ctx.Err()`. -/
def contextErr : LifecycleProg ν (Option (GoError ν)) := Session.ask Outside.contextErr

/-- `validateLifecycleRepositoryInput`. -/
def validateLifecycleRepositoryInput (audience : GatewayAudienceID) (destination : DestinationID)
    (now : Time) : LifecycleProg ν (Option (GoError ν)) :=
  if audience.IsZero ∨ destination.IsZero ∨ now = 0 then
    return some (.safe .errDestinationLifecycleInvalid "lifecycle repository input")
  else do
    match lifecycleRepositoryCancellation (← contextErr) none with
    | some cancellation => return some (.safe cancellation "lifecycle repository canceled")
    | none => return none

/-! ## Loading -/

/-- The loop over the rows in `loadDestinationLifecycleState`, and the check after it. -/
def collectScans (expectedAudience : GatewayAudienceID) (destination : Destination)
    (terminal : Option (GoError ν)) :
    List (Except (GoError ν) LifecycleTokenRecord) → List DestinationToken →
      Except (GoError ν) (List DestinationToken)
  | [], tokens =>
    match terminal with
    | some err => .error (lifecycleReadError err)
    | none => .ok tokens
  | scan :: scans, tokens =>
    if tokens.length = 3 then .error (.sentinel .errDestinationLifecycleReconciliation)
    else match scan with
      | .error err =>
        if lifecycleUnsafeOrConnectionInterruption err = true ∨
            (lifecycleRepositoryCancellation none (some err)).isSome then
          .error (lifecycleReadError err)
        else .error (.sentinel .errDestinationLifecycleReconciliation)
      | .ok record =>
        match record.token expectedAudience destination with
        | .error _ => .error (.sentinel .errDestinationLifecycleReconciliation)
        | .ok token => collectScans expectedAudience destination terminal scans (tokens ++ [token])

/-- `loadDestinationLifecycleState`. -/
def loadDestinationLifecycleState (expectedAudience : GatewayAudienceID)
    (expectedDestination : DestinationID) (now : Time) (lock : Bool) :
    LifecycleProg ν (Except (GoError ν) LifecycleLockedState) := do
  match ← queryDestination lock expectedDestination with
  | .absent => return .error (.internal .errDestinationLifecycleUnavailable true)
  | .scanned (.error err) =>
    if err.isSentinel .pgxErrNoRows then return .error (.sentinel .errDestinationLifecycleConflict)
    else return .error (lifecycleReadError err)
  | .scanned (.ok record) =>
    match record.destination expectedAudience expectedDestination now with
    | .error _ => return .error (.sentinel .errDestinationLifecycleReconciliation)
    | .ok destination =>
      match ← queryTokens lock expectedDestination with
      | .failed err _ => return .error (lifecycleReadError err)
      | .absent => return .error (.internal .errDestinationLifecycleUnavailable true)
      | .rows scans terminal =>
        match collectScans expectedAudience destination terminal scans [] with
        | .error err => return .error err
        | .ok tokens =>
          match newDestinationLifecycleSnapshot destination tokens now with
          | .error _ => return .error (.sentinel .errDestinationLifecycleReconciliation)
          | .ok snapshot => return .ok ⟨destination, snapshot⟩

/-! ## Mutations -/

/-- What `rollbackLifecycleMutation` returns for a cause, once the transaction is rolled
back. -/
def lifecycleMutationResult (cause : GoError ν) : GoError ν :=
  if cause.singleCauseMatches .errDestinationLifecycleOutcomeUnknown then
    .safe .errDestinationLifecycleOutcomeUnknown "lifecycle mutation"
  else if cause.singleCauseMatches .errDestinationLifecycleCanceled then
    .safe .errDestinationLifecycleCanceled "lifecycle mutation canceled"
  else if cause.singleCauseMatches .errDestinationLifecycleDeadline then
    .safe .errDestinationLifecycleDeadline "lifecycle mutation canceled"
  else match lifecycleRepositoryCancellation none (some cause) with
    | some cancellation => .safe cancellation "lifecycle mutation canceled"
    | none =>
      (firstMatch cause "lifecycle mutation"
        [.errDestinationLifecycleInvalid, .errDestinationLifecycleConflict,
          .errDestinationLifecycleReconciliation, .errDestinationLifecycleUnavailable]).getD
        (.safe .errDestinationLifecycleUnavailable "lifecycle mutation")

/-- `rollbackLifecycleMutation` and `lifecycleRollbackRead`: the two differ in what they return
when the rollback fails, and for a cause. -/
def rollbackLifecycle {α : Type} (failed : α) (result : GoError ν → α) (cause : GoError ν)
    (flags : Cleanup) : LifecycleProg ν (α × Cleanup) := do
  let rollbackErr ← Session.rollback
  let flags := { flags with transactionOpen := false }
  if rollbackErr.isSome then return (failed, ← destroyConnection flags)
  else
    return (result cause, ← destroyConnectionIf
      (lifecycleErrorRequiresDestroy cause || cause.interrupted) flags)

/-- `rollbackLifecycleMutation`. -/
def rollbackLifecycleMutation (cause : GoError ν) (flags : Cleanup) :
    LifecycleProg ν (Option (GoError ν) × Cleanup) :=
  rollbackLifecycle
    (some (.safe .errDestinationLifecycleOutcomeUnknown "lifecycle mutation rollback"))
    (fun cause => some (lifecycleMutationResult cause)) cause flags

/-- The deferred function that rolls back a transaction that is still open, with what is returned
when that fails. -/
def rollbackOpen {α : Type} (failed : α) (outcome : α × Cleanup) :
    LifecycleProg ν (α × Cleanup) := do
  let rollbackErr ← Session.rollback
  let flags := { outcome.2 with transactionOpen := false }
  if rollbackErr.isSome then return (failed, ← destroyConnection flags)
  else return (outcome.1, flags)

/-- The statements of a mutation, until one fails or does not affect one row. -/
def sendStatements : List Statement → LifecycleProg ν (Option (GoError ν))
  | [] => return none
  | statement :: statements => do
    match ← exec statement with
    | .error err => return some (lifecycleMutationError err)
    | .ok affected =>
      match lifecycleRowsAffected affected with
      | .error kind => return some (.sentinel kind)
      | .ok _ => sendStatements statements

/-- The function a mutation passes to `runLifecycleMutation`: its guards, then its
statements; with it, whether a statement was sent. -/
def lifecycleMutation (m : Mutation) (state : LifecycleLockedState) :
    LifecycleProg ν (Option (GoError ν) × Bool) :=
  match m.plan state with
  | .error kind => return (some (.sentinel kind), false)
  | .ok statements => do
    let err ← sendStatements statements
    return (err, !statements.isEmpty)

/-- The end of `runLifecycleMutation`: the commit. -/
def commitLifecycleMutation (flags : Cleanup) : LifecycleProg ν (Option (GoError ν) × Cleanup) := do
  let committed ← Session.commit
  let flags := { flags with transactionOpen := false }
  match committed with
  | none => return (none, flags)
  | some err =>
    if err.isSentinel .pgxErrTxCommitRollback then
      return (some (.safe .errDestinationLifecycleUnavailable "lifecycle mutation commit"), flags)
    else
      return (some (.safe .errDestinationLifecycleOutcomeUnknown "lifecycle mutation commit"),
        ← destroyConnection flags)

/-- `runLifecycleMutation` from the load on. -/
def mutateLifecycle (m : Mutation) (flags : Cleanup) :
    LifecycleProg ν (Option (GoError ν) × Cleanup) := do
  match ← loadDestinationLifecycleState m.audience m.destination m.now true with
  | .error cause => rollbackLifecycleMutation cause flags
  | .ok state =>
    match ← lifecycleMutation m state with
    | (some cause, _) => rollbackLifecycleMutation cause flags
    | (none, false) =>
      rollbackLifecycleMutation (.sentinel .errDestinationLifecycleReconciliation) flags
    | (none, true) => commitLifecycleMutation flags

/-- `runLifecycleMutation` on its connection. -/
def mutateOnConnection (m : Mutation) (flags : Cleanup) :
    LifecycleProg ν (Option (GoError ν) × Cleanup) := do
  match ← Session.begin .readWrite with
  | .failed err _ =>
    return (some (lifecycleConnectionError err "lifecycle mutation begin"),
      ← destroyConnectionIf (lifecycleUnsafeOrConnectionInterruption err) flags)
  | .absent =>
    return (some (.safe .errDestinationLifecycleUnavailable "lifecycle mutation begin"),
      ← destroyConnection flags)
  | .opened => mutateLifecycle m { flags with transactionOpen := true }

/-- `runLifecycleMutation`. -/
def runLifecycleMutation (m : Mutation) : LifecycleProg ν (Option (GoError ν)) := do
  match ← validateLifecycleRepositoryInput m.audience m.destination m.now with
  | some err => return some err
  | none =>
    match ← Session.acquire with
    | .failed err connection =>
      if connection then Session.destroy
      return some (lifecycleConnectionError err "lifecycle mutation connection")
    | .absent =>
      return some (.safe .errDestinationLifecycleUnavailable "lifecycle mutation connection")
    | .opened =>
      let outcome ← mutateOnConnection m ⟨true, false⟩
      close (rollbackOpen
        (some (.safe .errDestinationLifecycleOutcomeUnknown "lifecycle mutation cleanup"))) outcome

/-- **A mutation of the repository**, with the check of its arguments before. -/
def Mutation.run (m : Mutation) : LifecycleProg ν (Option (GoError ν)) :=
  match m.checkInput with
  | .error operation => return some (.safe .errDestinationLifecycleInvalid operation)
  | .ok _ => runLifecycleMutation m

end OncallGateway
