import OncallGateway.LifecycleLoad

/-! # The lifecycle mutations

The seven mutations of `DestinationTokenLifecycleRepository`.  Each checks its
arguments, loads the destination's state under a lock, checks it, and then sends one
or two statements, of which each must affect one row.  `Mutation.plan` is the part
between the load and the statements: the guards of the source, in their order, and
the statements that are sent when they pass.

`Mutation.commit` is the mutation as one atomic step on the store: what is committed
when no call to the database fails, or the kind of the error when the mutation is
refused.  The transaction around it, with the faults of the connection, is the subject
of `LifecycleTransaction`.
-/

namespace OncallGateway

/-- A call to one of the mutations, with its arguments. -/
inductive Mutation where
  | createStagedToken (candidate : StagedTokenCandidate) (now : Time)
  | createRotationStagedToken (command : CreateRotationStagedTokenCommand)
  | activateInitialToken (audience : GatewayAudienceID) (destination : DestinationID)
      (stagedID : DestinationTokenRecordID) (now : Time)
  | activateRotation (command : ActivateRotationCommand)
  | abortStagedToken (audience : GatewayAudienceID) (destination : DestinationID)
      (stagedID : DestinationTokenRecordID) (now : Time)
  | rollbackRotation (command : RollbackRotationCommand)
  | finalizeRotation (command : FinalizeRotationCommand)
deriving DecidableEq

namespace Mutation

/-- The audience argument. -/
def audience : Mutation → GatewayAudienceID
  | createStagedToken candidate _ => candidate.audienceID
  | createRotationStagedToken command => command.candidate.audienceID
  | activateInitialToken audience _ _ _ => audience
  | activateRotation command => command.audienceID
  | abortStagedToken audience _ _ _ => audience
  | rollbackRotation command => command.audienceID
  | finalizeRotation command => command.audienceID

/-- The destination argument. -/
def destination : Mutation → DestinationID
  | createStagedToken candidate _ => candidate.destination
  | createRotationStagedToken command => command.candidate.destination
  | activateInitialToken _ destination _ _ => destination
  | activateRotation command => command.destinationID
  | abortStagedToken _ destination _ _ => destination
  | rollbackRotation command => command.destinationID
  | finalizeRotation command => command.destinationID

/-- The clock argument. -/
def now : Mutation → Time
  | createStagedToken _ now => now
  | createRotationStagedToken command => command.now
  | activateInitialToken _ _ _ now => now
  | activateRotation command => command.now
  | abortStagedToken _ _ _ now => now
  | rollbackRotation command => command.now
  | finalizeRotation command => command.now

/-- The candidate a mutation inserts. -/
def inserted : Mutation → Option StagedTokenCandidate
  | createStagedToken candidate _ => some candidate
  | createRotationStagedToken command => some command.candidate
  | _ => none

/-- The times of the arguments that the mutation stores. -/
def times : Mutation → List Time
  | createStagedToken candidate _ => candidate.times
  | createRotationStagedToken command => command.candidate.times
  | activateInitialToken _ _ _ now => [now]
  | activateRotation command => [command.now, command.overlapDeadline]
  | abortStagedToken _ _ _ now => [now]
  | rollbackRotation command => [command.now]
  | finalizeRotation command => [command.now]

/-- The check of the arguments before `runLifecycleMutation`; the error is the
operation it is reported for, with the kind `ErrDestinationLifecycleInvalid`. -/
def checkInput : Mutation → Except String Unit
  | createStagedToken candidate now => do
    let validated ← candidate.revalidate.relabel "staged token input"
    .refuseIf (validated.recordID ≠ candidate.recordID ∨ now = 0 ∨ candidate.createdAt ≠ now)
      "staged token input"
  | createRotationStagedToken command => do
    let validated ← (newCreateRotationStagedTokenCommand command.candidate
      command.expectedActiveRecordID command.now).relabel "rotation staged token input"
    .refuseIf (validated.expectedActiveRecordID ≠ command.expectedActiveRecordID)
      "rotation staged token input"
  | activateInitialToken _ _ stagedID _ => .refuseIf stagedID.IsZero "initial activation input"
  | activateRotation command =>
    .refuseIf (command.stagedRecordID.IsZero ∨ command.oldActiveRecordID.IsZero ∨
      command.stagedRecordID = command.oldActiveRecordID ∨
      ¬ command.overlapDeadline > command.now ∨
      command.overlapDeadline.sub command.now > tokenMaxOverlap) "rotation activation input"
  | abortStagedToken _ _ stagedID _ => .refuseIf stagedID.IsZero "staged abort input"
  | rollbackRotation command =>
    .refuseIf (command.newActiveRecordID.IsZero ∨ command.oldRetiringRecordID.IsZero ∨
      command.newActiveRecordID = command.oldRetiringRecordID) "rotation rollback input"
  | finalizeRotation command =>
    .refuseIf (command.newActiveRecordID.IsZero ∨ command.oldRetiringRecordID.IsZero ∨
      command.newActiveRecordID = command.oldRetiringRecordID ∨ ¬ command.reason.Valid)
      "rotation finalization input"

end Mutation

/-! ## Guards -/

/-- `lifecycleRotationPair`. -/
def lifecycleRotationPair (state : LifecycleLockedState)
    (newActiveID oldRetiringID : DestinationTokenRecordID) (now : Time)
    (allowRetiringStale : Bool) :
    Except Sentinel (LifecycleTokenView × LifecycleTokenView) :=
  match state.snapshot.active, state.snapshot.retiring with
  | some active, some retiring => do
    .refuseIf (state.snapshot.staged.isSome ∨ active.recordID ≠ newActiveID ∨
      retiring.recordID ≠ oldRetiringID) .errDestinationLifecycleConflict
    .refuseIf (¬ state.destination.Enabled ∨ ¬ now < active.expiresAt ∨
      active.activatedAt > now ∨ active.stateChangedAt > now ∨
      retiring.activatedAt > now ∨ retiring.retirementStartedAt > now ∨
      retiring.stateChangedAt > now ∨
      active.activatedAt ≠ active.stateChangedAt ∨
      active.activatedAt ≠ retiring.retirementStartedAt ∨
      retiring.retirementStartedAt ≠ retiring.stateChangedAt ∨
      retiring.retirementDeadline = 0) .errDestinationLifecycleReconciliation
    .refuseIf (allowRetiringStale = false ∧ ¬ now < retiring.expiresAt)
      .errDestinationLifecycleReconciliation
    return (active, retiring)
  | _, _ => .error .errDestinationLifecycleConflict

/-- `lifecycleStagedAbortAllowed`. -/
def lifecycleStagedAbortAllowed (state : LifecycleLockedState) (staged : LifecycleTokenView)
    (now : Time) : Except Sentinel Unit :=
  match state.snapshot.status with
  | .stagedInitial => .ok ()
  | .activeWithStaged => .ok ()
  | .reconciliationRequired => do
    .refuseIf (¬ state.destination.Enabled ∨ staged.stateChangedAt > now ∨
      (now < staged.expiresAt ∧ now < staged.stagedCleanupDeadline))
      .errDestinationLifecycleReconciliation
    match state.snapshot.active with
    | none => return ()
    | some active =>
      .refuseIf (active.activatedAt > now ∨ active.stateChangedAt > now ∨ ¬ now < active.expiresAt)
        .errDestinationLifecycleReconciliation
  | _ => .error .errDestinationLifecycleConflict

/-- The guards of a mutation on the loaded state, and the statements it then sends. -/
def Mutation.plan (state : LifecycleLockedState) : Mutation → Except Sentinel (List Statement)
  | createStagedToken candidate _ => do
    .refuseIf (¬ state.destination.Enabled) .errDestinationLifecycleReconciliation
    match state.snapshot.status with
    | .unprovisioned => return [.insert candidate]
    | .reconciliationRequired => throw .errDestinationLifecycleReconciliation
    | _ => throw .errDestinationLifecycleConflict
  | createRotationStagedToken command => do
    .refuseIf (¬ state.destination.Enabled ∨ state.snapshot.status = .reconciliationRequired)
      .errDestinationLifecycleReconciliation
    match state.snapshot.active with
    | none => throw .errDestinationLifecycleConflict
    | some active =>
      .refuseIf (state.snapshot.status ≠ .active ∨ state.snapshot.staged.isSome ∨
        state.snapshot.retiring.isSome ∨ active.recordID ≠ command.expectedActiveRecordID)
        .errDestinationLifecycleConflict
      return [.insert command.candidate]
  | activateInitialToken audience destination stagedID now => do
    .refuseIf (state.snapshot.status = .reconciliationRequired)
      .errDestinationLifecycleReconciliation
    match state.snapshot.staged with
    | none => throw .errDestinationLifecycleConflict
    | some staged =>
      .refuseIf (state.snapshot.status ≠ .stagedInitial ∨ staged.recordID ≠ stagedID)
        .errDestinationLifecycleConflict
      return [activateInitialLifecycleTokenSQL audience destination stagedID
        staged.stateChangedAt now]
  | activateRotation command => do
    .refuseIf (state.snapshot.status = .reconciliationRequired)
      .errDestinationLifecycleReconciliation
    match state.snapshot.staged, state.snapshot.active with
    | some staged, some active =>
      .refuseIf (state.snapshot.status ≠ .activeWithStaged ∨
        staged.recordID ≠ command.stagedRecordID ∨ active.recordID ≠ command.oldActiveRecordID)
        .errDestinationLifecycleConflict
      .refuseIf (¬ command.overlapDeadline < staged.expiresAt ∨
        ¬ command.overlapDeadline < active.expiresAt) .errDestinationLifecycleConflict
      -- the old row is retired first, which frees the index on active tokens
      return [retireLifecycleTokenSQL command.audienceID command.destinationID
          command.oldActiveRecordID active.stateChangedAt command.now command.overlapDeadline,
        activateRotationLifecycleTokenSQL command.audienceID command.destinationID
          command.stagedRecordID staged.stateChangedAt command.now]
    | _, _ => throw .errDestinationLifecycleConflict
  | abortStagedToken audience destination stagedID now => do
    match state.snapshot.staged with
    | none => throw .errDestinationLifecycleConflict
    | some staged =>
      .refuseIf (state.snapshot.retiring.isSome ∨ staged.recordID ≠ stagedID)
        .errDestinationLifecycleConflict
      lifecycleStagedAbortAllowed state staged now
      return [revokeStagedLifecycleTokenSQL audience destination stagedID staged.stateChangedAt now]
  | rollbackRotation command => do
    let (active, retiring) ← lifecycleRotationPair state command.newActiveRecordID
      command.oldRetiringRecordID command.now false
    .refuseIf (¬ command.now < retiring.retirementDeadline) .errDestinationLifecycleConflict
    -- the new row is revoked first, which frees the index on active tokens
    return [revokeActiveLifecycleTokenSQL command.audienceID command.destinationID
        command.newActiveRecordID active.stateChangedAt command.now,
      restoreRetiringLifecycleTokenSQL command.audienceID command.destinationID
        command.oldRetiringRecordID retiring.stateChangedAt command.now]
  | finalizeRotation command => do
    let (_, retiring) ← lifecycleRotationPair state command.newActiveRecordID
      command.oldRetiringRecordID command.now true
    .refuseIf (command.reason = .deadlineElapsed ∧ command.now < retiring.retirementDeadline)
      .errDestinationLifecycleConflict
    return [revokeRetiringLifecycleTokenSQL command.audienceID command.destinationID
      command.oldRetiringRecordID retiring.stateChangedAt command.now]

/-! ## The mutation as one step -/

/-- `lifecycleRowsAffected`. -/
def lifecycleRowsAffected : Nat → Except Sentinel Unit
  | 1 => .ok ()
  | 0 => .error .errDestinationLifecycleConflict
  | _ => .error .errDestinationLifecycleReconciliation

theorem lifecycleRowsAffected_eq_ok {affected : Nat} {u : Unit} :
    lifecycleRowsAffected affected = .ok u ↔ affected = 1 := by
  rcases affected with _ | _ | n <;> simp [lifecycleRowsAffected]

/-- The kind of error `lifecycleMutationError` makes of a violated constraint. -/
def TokenConstraint.mutationError : TokenConstraint → Sentinel
  | .oneStagedPerDestination => .errDestinationLifecycleConflict
  | .oneActivePerDestination => .errDestinationLifecycleConflict
  | .oneRetiringPerDestination => .errDestinationLifecycleConflict
  | _ => .errDestinationLifecycleUnavailable

/-- The statements one after the other, each of which must affect one row. -/
def runStatements : List Statement → Store → Except Sentinel Store
  | [], s => .ok s
  | statement :: statements, s =>
    match statement.exec s with
    | .error violated => .error violated.mutationError
    | .ok (s', affected) => do
      lifecycleRowsAffected affected
      runStatements statements s'

/-- **A mutation as one atomic step on the store.** -/
def Mutation.commit (m : Mutation) (s : Store) : Except Sentinel Store := do
  m.checkInput.relabel .errDestinationLifecycleInvalid
  .refuseIf (m.audience.IsZero ∨ m.destination.IsZero ∨ m.now = 0) .errDestinationLifecycleInvalid
  let state ← s.loadState m.audience m.destination m.now
  let statements ← m.plan state
  runStatements statements s

theorem Mutation.commit_eq_ok {m : Mutation} {s s' : Store} : m.commit s = .ok s' ↔
    m.checkInput = .ok () ∧ ¬ (m.audience.IsZero ∨ m.destination.IsZero ∨ m.now = 0) ∧
    ∃ state statements, s.loadState m.audience m.destination m.now = .ok state ∧
      m.plan state = .ok statements ∧ runStatements statements s = .ok s' := by
  simp only [Mutation.commit, Except.bind_eq_ok, Except.refuseIf_eq_ok, Except.relabel_eq_ok,
    exists_const]
  constructor
  · rintro ⟨_, hinput, hzero, state, hload, statements, hplan, hrun⟩
    exact ⟨hinput, hzero, state, statements, hload, hplan, hrun⟩
  · rintro ⟨hinput, hzero, state, statements, hload, hplan, hrun⟩
    exact ⟨(), hinput, hzero, state, hload, statements, hplan, hrun⟩

end OncallGateway
