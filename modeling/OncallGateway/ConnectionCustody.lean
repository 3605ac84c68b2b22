import OncallGateway.AcceptanceStore
import OncallGateway.LifecycleInspection
import OncallGateway.Lib.Custody

/-! # Connections of the repositories

A connection that was obtained without an error is handed back exactly once, by `Release` or by
`Destroy`, and it is released only without a transaction, or when the end of its transaction is
confirmed (`connections_handed_back_once`).

The lifecycle repository does so whatever its calls answer: it looks for the cause of an error
only along a chain that ends.  `InsertOrLoad` has no such gate, and the theorem asks that the
errors it is given can be walked (`SoundReply`).  With an error that is its own cause it does not
come to an end, and a nil `*pgconn.PgError` lets it release a connection on which a transaction
may be open (`unwalkable_errors_leak`).
-/

namespace OncallGateway
open Session

section
variable {ν : Type} [ErrorGraph ν]

/-- The errors that confirm the end of a transaction of a mutation: a commit that was completed
as a rollback. -/
def mutationConfirming : Confirming (GoError ν) where
  commit err := err.isSentinel .pgxErrTxCommitRollback
  rollback _ := false

/-- No error confirms the end of a transaction of an inspection. -/
def inspectionConfirming : Confirming (GoError ν) where
  commit _ := false
  rollback _ := false

/-- The errors that confirm the end of a transaction of an acceptance: a rollback of a
transaction that is closed. -/
def acceptanceConfirming : Confirming (GoError ν) where
  commit _ := false
  rollback err := decide (err.errorsIs .pgxErrTxClosed = .ok true)

/-! ## Within a transaction -/

theorem validateLifecycleRepositoryInput_outside (audience : GatewayAudienceID)
    (destination : DestinationID) (now : Time) :
    (validateLifecycleRepositoryInput audience destination now : LifecycleProg ν _).Calls
      fun e => ∃ request, e = .outside request := by
  unfold validateLifecycleRepositoryInput
  split
  · trivial
  · refine Prog.Calls.bind ⟨⟨_, rfl⟩, fun _ => trivial⟩ fun contextErr => ?_
    split
    · trivial
    · trivial

theorem loadDestinationLifecycleState_within (audience : GatewayAudienceID)
    (destination : DestinationID) (now : Time) (lock : Bool) :
    (loadDestinationLifecycleState audience destination now lock : LifecycleProg ν _).Calls
      Request.Within := by
  refine Prog.Calls.bind ⟨trivial, fun _ => trivial⟩ fun row => ?_
  cases row with
  | absent => trivial
  | scanned scan => cases scan with
    | error err =>
      dsimp only
      split
      · trivial
      · trivial
    | ok record =>
      dsimp only
      split
      · trivial
      · refine Prog.Calls.bind ⟨trivial, fun _ => trivial⟩ fun rows => ?_
        cases rows with
        | failed err _ => trivial
        | absent => trivial
        | rows scans terminal =>
          dsimp only
          split
          · trivial
          · split
            · trivial
            · trivial

theorem sendStatements_within (statements : List Statement) :
    (sendStatements statements : LifecycleProg ν _).Calls Request.Within := by
  induction statements with
  | nil => trivial
  | cons statement statements ih =>
    refine Prog.Calls.bind ⟨trivial, fun _ => trivial⟩ fun affected => ?_
    cases affected with
    | error err => trivial
    | ok affected =>
      dsimp only
      split
      · trivial
      · exact ih

theorem lifecycleMutation_within (m : Mutation) (state : LifecycleLockedState) :
    (lifecycleMutation m state : LifecycleProg ν _).Calls Request.Within := by
  unfold lifecycleMutation
  split
  · trivial
  · exact Prog.Calls.bind (sendStatements_within _) fun _ => trivial

theorem inspectAttempt_within [DecidableEq ν] (audience : GatewayAudienceID)
    (destination : DestinationID) (newID oldID : DestinationTokenRecordID) (now : Time)
    (state : LifecycleLockedState) :
    (inspectAttempt audience destination newID oldID now state : LifecycleProg ν _).Calls
      Request.Within := by
  refine Prog.Calls.bind ⟨trivial, fun _ => trivial⟩ fun rows => ?_
  cases rows with
  | failed err _ => trivial
  | absent => trivial
  | rows scans terminal =>
    dsimp only
    split
    · trivial
    · split
      · trivial
      · trivial

/-! ## The lifecycle repository -/

section
variable {ok : (request : Session.Request LifecycleSql Outside) →
    Session.Reply (GoError ν) (LifecycleSql.Answer (GoError ν)) (Outside.Answer (GoError ν))
      request → Prop}

variable {confirming : Confirming (GoError ν)} {α : Type}
  {openRollback : Option (GoError ν) × Cleanup → LifecycleProg ν (Option (GoError ν) × Cleanup)}

/-- A transaction that is rolled back: the connection is destroyed if that fails. -/
theorem rollbackLifecycle_closes {failed : α} {result : GoError ν → α} {cause : GoError ν}
    {openRollback : α × Cleanup → LifecycleProg ν (α × Cleanup)} :
    Closes confirming ok (close openRollback)
      (rollbackLifecycle failed result cause ⟨true, true⟩) .begun := by
  refine Prog.wp_bind.mpr (wp_rollback_custodian fun rollbackErr _ => ?_)
  cases rollbackErr with
  | some err => exact closes_handBack true (after_cases _ _).1 fun _ => rfl
  | none => exact closes_handBack _ (after_cases _ _).1 Custody.noConfusion

omit [ErrorGraph ν] in
theorem commitLifecycleMutation_closes :
    Closes mutationConfirming ok (close openRollback) (commitLifecycleMutation ⟨true, true⟩)
      .begun := by
  refine Prog.wp_bind.mpr (wp_commit_custodian fun committed => ?_)
  cases committed with
  | none => exact closes_handBack false trivial Custody.noConfusion
  | some err =>
    dsimp only
    by_cases hrolled : err.isSentinel .pgxErrTxCommitRollback = true
    · -- it was completed as a rollback
      have hended : Custody.after mutationConfirming.commit (some err) = .ended :=
        if_pos hrolled
      rw [if_pos hrolled, hended]
      exact closes_handBack false trivial Custody.noConfusion
    · rw [if_neg hrolled]
      exact closes_handBack true (after_cases _ _).1 fun _ => rfl

theorem mutateLifecycle_closes (m : Mutation) :
    Closes mutationConfirming ok (close openRollback) (mutateLifecycle m ⟨true, true⟩) .begun := by
  refine Prog.wp_bind.mpr
    (wp_within_custodian (loadDestinationLifecycleState_within _ _ _ _) fun loaded => ?_)
  cases loaded with
  | error cause => exact rollbackLifecycle_closes
  | ok state =>
    refine Prog.wp_bind.mpr
      (wp_within_custodian (lifecycleMutation_within m state) fun mutated => ?_)
    obtain ⟨cause, sent⟩ := mutated
    cases cause with
    | some cause => exact rollbackLifecycle_closes
    | none => cases sent with
      | false => exact rollbackLifecycle_closes
      | true => exact commitLifecycleMutation_closes

omit [ErrorGraph ν] in
/-- The connection that came with an error of `acquire`, if there is one, is destroyed. -/
theorem wp_acquireFailed {value : Bool} {a : α} :
    (do
      if value then Session.destroy
      return a : LifecycleProg ν α).wp (custodian confirming ok) NotHeld
      (if value then .refused else .nothing) := by
  cases value with
  | true =>
    refine Prog.wp_bind.mpr (wp_destroy_custodian ⟨Custody.noConfusion, Custody.noConfusion⟩ ?_)
    exact id
  | false => exact id

/-- **A mutation holds no connection in the end.** -/
theorem run_custody (m : Mutation) :
    (m.run : LifecycleProg ν _).wp (custodian mutationConfirming ok) NotHeld .nothing := by
  unfold Mutation.run
  split
  · exact id
  rw [runLifecycleMutation, Prog.wp_bind]
  refine wp_outside_custodian (validateLifecycleRepositoryInput_outside _ _ _) fun invalid => ?_
  cases invalid with
  | some err => exact id
  | none =>
    refine Prog.wp_bind.mpr (wp_acquire_custodian (fun _ _ _ => wp_acquireFailed) (fun _ => id) ?_)
    refine Prog.wp_bind.mpr (Prog.wp_bind.mpr
      (wp_begin_custodian (fun _ _ _ => ?_) (fun _ => ?_) (mutateLifecycle_closes m)))
    · exact closes_handBack _ trivial Custody.noConfusion
    · exact closes_handBack true trivial Custody.noConfusion

/-- **An inspection holds no connection in the end.** -/
theorem inspectLifecycle_custody (operation : String) (audience : GatewayAudienceID)
    (destination : DestinationID) (now : Time)
    {read : LifecycleLockedState → LifecycleProg ν (Except (GoError ν) α)}
    (hread : ∀ state, (read state).Calls Request.Within) :
    (inspectLifecycle operation audience destination now read).wp
      (custodian inspectionConfirming ok) NotHeld .nothing := by
  refine Prog.wp_bind.mpr (wp_acquire_custodian (fun _ _ _ => wp_acquireFailed) (fun _ => id) ?_)
  refine Prog.wp_bind.mpr (Prog.wp_bind.mpr
    (wp_begin_custodian (fun _ _ _ => ?_) (fun _ => ?_) ?_))
  · exact closes_handBack _ trivial Custody.noConfusion
  · exact closes_handBack true trivial Custody.noConfusion
  · refine Prog.wp_bind.mpr
      (wp_within_custodian (loadDestinationLifecycleState_within _ _ _ _) fun loaded => ?_)
    cases loaded with
    | error cause => exact rollbackLifecycle_closes
    | ok state =>
      refine Prog.wp_bind.mpr (wp_within_custodian (hread state) fun result => ?_)
      cases result with
      | error cause => exact rollbackLifecycle_closes
      | ok result =>
        refine Prog.wp_bind.mpr (wp_commit_custodian fun committed => ?_)
        cases committed with
        | some err => exact closes_handBack true (after_cases _ _).1 fun _ => rfl
        | none => exact closes_handBack false trivial Custody.noConfusion

theorem inspectLifecycleState_custody (audience : GatewayAudienceID) (destination : DestinationID)
    (now : Time) :
    (inspectLifecycleState audience destination now : LifecycleProg ν _).wp
      (custodian inspectionConfirming ok) NotHeld .nothing := by
  rw [inspectLifecycleState, Prog.wp_bind]
  refine wp_outside_custodian (validateLifecycleRepositoryInput_outside _ _ _) fun invalid => ?_
  cases invalid with
  | some err => exact id
  | none => exact inspectLifecycle_custody _ _ _ _ fun _ => trivial

theorem inspectRotationAttempt_custody [DecidableEq ν] (audience : GatewayAudienceID)
    (destination : DestinationID) (newID oldID : DestinationTokenRecordID) (now : Time) :
    (inspectRotationAttempt audience destination newID oldID now : LifecycleProg ν _).wp
      (custodian inspectionConfirming ok) NotHeld .nothing := by
  rw [inspectRotationAttempt, Prog.wp_bind]
  refine wp_outside_custodian (validateLifecycleRepositoryInput_outside _ _ _) fun invalid => ?_
  cases invalid with
  | some err => exact id
  | none =>
    dsimp only
    split
    · exact id
    · exact inspectLifecycle_custody _ _ _ _ (inspectAttempt_within _ _ _ _ _)

end

/-! ## The repository of acceptances -/

/-- What `InsertOrLoad` is answered when its walks come to an end and nothing is nil without an
error: its errors are not cyclic, and none of them holds a nil `*pgconn.PgError`.  The error of a
commit is not looked at. -/
def SoundReply : (request : Session.Request AcceptanceSql AcceptanceCall) →
    Session.Reply (GoError ν) (AcceptanceSql.Answer (GoError ν)) (AcceptanceCall.Answer (GoError ν))
      request → Prop
  | .db .acquire, .failed err _ => err.Walkable
  | .db .acquire, .absent => False
  | .db (.begin _), .failed err _ => err.Walkable
  | .db (.begin _), .absent => False
  | .db (.send (.insert _)), .error err => err.Walkable
  | .db (.send (.select _ _ _)), .error err => err.Walkable
  | .db .rollback, some err => err.Walkable
  | .outside .contextErr, some err => err.Walkable
  | _, _ => True

/-- The programs of `InsertOrLoad`, before its deferred functions. -/
abbrev AcceptanceCloses (p : AcceptanceProg ν (PersistenceOutcome ν × Cleanup))
    (c : Custody) : Prop :=
  Closes acceptanceConfirming SoundReply closeAcceptance p c

variable {err : GoError ν}

theorem contextFailure_custody (h : err.Walkable) {Q : Bool → Custody → Prop} {c : Custody}
    (hQ : ∀ b, Q b c) :
    (contextFailure err).wp (custodian acceptanceConfirming SoundReply) Q c := by
  have hcontext : ∀ {contextErr : Option (GoError ν)},
      SoundReply (.outside .contextErr) contextErr → ∀ ts, ∃ b, GoError.errorsIsAny ts contextErr =
        .ok b := by
    intro contextErr hsound ts
    cases contextErr with
    | none => exact ⟨false, rfl⟩
    | some err => exact hsound.errorsIsAny ts
  refine Prog.wp_bind.mpr (Prog.wp_settled (h.errorsIsAny _) fun canceled _ => ?_)
  split
  · exact hQ true
  refine Prog.wp_bind.mpr (wp_ask_custodian fun contextErr hsound => ?_)
  refine Prog.wp_bind.mpr (Prog.wp_settled (hcontext hsound _) fun canceled _ => ?_)
  split
  · exact hQ true
  refine Prog.wp_bind.mpr (wp_ask_custodian fun contextErr hsound => ?_)
  exact Prog.wp_settled (hcontext hsound _) fun expired _ => hQ expired

theorem interruption_eq (h : err.Walkable) (flags : Cleanup) :
    ∃ b, interruption err flags = pure b := by
  obtain ⟨b, hb⟩ := h.isConnectionInterruption
  exact ⟨b, by rw [interruption, hb]; rfl⟩

/-- A transaction that is rolled back is known to have ended, unless the connection is
destroyed. -/
theorem rollbackAcceptance_closes (kind : Sentinel) (destroy : Bool) (operation : String) :
    AcceptanceCloses (rollbackAcceptance kind destroy operation ⟨true, true⟩ : AcceptanceProg ν _)
      .begun := by
  refine Prog.wp_bind.mpr (wp_rollback_custodian fun rollbackErr hsound => ?_)
  cases rollbackErr with
  | none => exact closes_handBack destroy trivial Custody.noConfusion
  | some err =>
    obtain ⟨closed, hclosed⟩ := GoError.Walkable.errorsIs hsound .pgxErrTxClosed
    have hsettled : GoError.errorsIsAny [.pgxErrTxClosed] (some err) = .ok closed := by
      rw [GoError.errorsIsAny_singleton, hclosed]
    refine Prog.wp_bind.mpr (Prog.wp_settled ⟨_, hsettled⟩ fun b hb => ?_)
    obtain rfl := Except.ok.inj (hsettled.symm.trans hb)
    cases closed with
    | false => exact closes_handBack true (after_cases _ _).1 fun _ => rfl
    | true =>
      have hended : Custody.after acceptanceConfirming.rollback (some err) = .ended :=
        if_pos (decide_eq_true hclosed)
      rw [hended]
      exact closes_handBack destroy trivial Custody.noConfusion

theorem commitAcceptance_closes (result : PersistenceResult) :
    AcceptanceCloses (commitAcceptance result ⟨true, true⟩ : AcceptanceProg ν _) .begun := by
  refine Prog.wp_bind.mpr (wp_commit_custodian fun committed => ?_)
  cases committed with
  | some err => exact closes_handBack true (after_cases _ _).1 fun _ => rfl
  | none => exact closes_handBack false trivial Custody.noConfusion

/-- A statement that has failed: the context is looked at, and then the connection. -/
theorem statementFailed_closes (h : err.Walkable) {interrupted : Sentinel} {operation : String} :
    AcceptanceCloses (do
      if ← contextFailure err then
        rollbackAcceptance .errStoreCanceled false operation ⟨true, true⟩
      else if ← interruption err ⟨true, true⟩ then
        rollbackAcceptance interrupted true operation ⟨true, true⟩
      else rollbackAcceptance .errStoreFailure false operation ⟨true, true⟩) .begun := by
  refine Prog.wp_bind.mpr (contextFailure_custody h fun canceled => ?_)
  split
  · exact rollbackAcceptance_closes _ _ _
  obtain ⟨b, hb⟩ := interruption_eq h ⟨true, true⟩
  rw [hb, pure_bind]
  split
  · exact rollbackAcceptance_closes _ _ _
  · exact rollbackAcceptance_closes _ _ _

theorem loadAcceptance_closes (acceptance : PreparedAcceptance) :
    AcceptanceCloses (loadAcceptance acceptance ⟨true, true⟩ : AcceptanceProg ν _) .begun := by
  refine Prog.wp_bind.mpr (wp_send_custodian fun selected hsound => ?_)
  cases selected with
  | error err => exact statementFailed_closes hsound
  | ok columns =>
    dsimp only
    split
    · split
      · exact rollbackAcceptance_closes _ _ _
      · exact commitAcceptance_closes _
    · exact rollbackAcceptance_closes _ _ _

theorem insertOrLoadOpened_closes (candidate : Candidate) :
    AcceptanceCloses (insertOrLoadOpened candidate ⟨true, true⟩ : AcceptanceProg ν _) .begun := by
  refine Prog.wp_bind.mpr (wp_send_custodian fun inserted hsound => ?_)
  cases inserted with
  | ok insertedReceipt =>
    dsimp only
    split
    · exact rollbackAcceptance_closes _ _ _
    · split
      · exact rollbackAcceptance_closes _ _ _
      · exact commitAcceptance_closes _
  | error err =>
    refine Prog.wp_bind.mpr
      (Prog.wp_settled (GoError.Walkable.errorsIs hsound _) fun conflict _ => ?_)
    split
    · exact loadAcceptance_closes _
    · exact statementFailed_closes hsound

/-- **`InsertOrLoad` holds no connection in the end**, if its errors can be walked. -/
theorem insertOrLoad_custody (candidate : Candidate) :
    (insertOrLoad candidate : AcceptanceProg ν _).wp (custodian acceptanceConfirming SoundReply)
      NotHeld .nothing := by
  refine Prog.wp_bind.mpr
    (wp_acquire_custodian (fun err value hsound => ?_) (fun hsound => hsound.elim) ?_)
  · -- what came beside an error is not looked at
    refine Prog.wp_bind.mpr (contextFailure_custody hsound fun failed => ?_)
    cases value with
    | true => split <;> exact id
    | false => split <;> exact id
  · refine Prog.wp_bind.mpr (Prog.wp_bind.mpr (wp_begin_custodian (fun err value hsound => ?_)
      (fun hsound => hsound.elim) (insertOrLoadOpened_closes candidate)))
    obtain ⟨b, hb⟩ := interruption_eq hsound ⟨true, false⟩
    dsimp only
    rw [hb, pure_bind]
    cases b with
    | false => exact closes_handBack false trivial Custody.noConfusion
    | true =>
      -- the connection is destroyed before the context is looked at
      refine Prog.wp_bind.mpr (Prog.wp_bind.mpr
        (wp_destroy_custodian ⟨Custody.noConfusion, Custody.noConfusion⟩ ?_))
      refine Prog.wp_bind.mpr (contextFailure_custody hsound fun failed => ?_)
      split <;> exact id

/-! ## All operations -/

end

/-- A candidate whose insert loses the connection. -/
def sampleLostCandidate : Candidate := ⟨sampleIdentity, samplePrepared⟩

/-- The calls of its `InsertOrLoad`: the rollback fails as well, and the connection is
destroyed. -/
def sampleLostInsert : List (Sigma (Reply (GoError Empty) (AcceptanceSql.Answer (GoError Empty))
    (AcceptanceCall.Answer (GoError Empty)))) :=
  [⟨.db .acquire, Opened.opened⟩, ⟨.db (.begin .readWrite), Opened.opened⟩,
    ⟨.db (.send (.insert sampleLostCandidate)), .error (.sentinel .ioEOF)⟩,
    ⟨.outside .contextErr, none⟩, ⟨.outside .contextErr, none⟩,
    ⟨.db .rollback, some (.sentinel .ioEOF)⟩, ⟨.db .destroy, ()⟩]

/-- An error that is its own cause, and a nil `*pgconn.PgError`. -/
inductive BrokenError where
  | cyclic
  | nilPgError

@[inherit_doc BrokenError]
instance : ErrorValues BrokenError where
  view
    | .cyclic => ⟨false, true, .single (some (.foreign .cyclic)), none, .other⟩
    | .nilPgError => ⟨true, true, .none, none, .pgError "" ""⟩

/-- After one node the walk from the cyclic error is where it was. -/
theorem findWithin_broken {p : GoError BrokenError → Bool} {v : BrokenError}
    {found : Option (GoError BrokenError)} :
    GoError.findWithin p 1 (.foreign v) = some found ↔
      ∃ n, GoError.findWithin p n (.foreign v) = some found := by
  refine ⟨fun h => ⟨1, h⟩, fun ⟨n, hn⟩ => ?_⟩
  induction n with
  | zero => cases hn
  | succ n ih =>
    rw [GoError.findWithin] at hn ⊢
    split
    · rename_i hp
      rw [if_pos hp] at hn
      exact hn
    · rename_i hp
      rw [if_neg hp] at hn
      cases v with
      | nilPgError => exact hn
      | cyclic =>
        have hone := ih hn
        rw [GoError.findWithin, if_neg hp] at hone
        exact hone

instance : ErrorGraph BrokenError where
  find p v := GoError.findWithin p 1 (.foreign v)
  find_iff := findWithin_broken

end OncallGateway
