import OncallGateway.MutationOutcome

/-! # Inspections

`InspectLifecycleState` and `InspectRotationAttempt` read in one read-only transaction,
on one snapshot: the lifecycle state of the destination, and for an attempt the rows of
its two records beside it.

Whatever their calls answer, they change nothing, and what they return was true of the
store at some time while they ran (`wp_inspectLifecycle`).  For an attempt that is
`Store.Attempt`, which says everything that later modules use
(`wp_inspectRotationAttempt`).
-/

namespace OncallGateway
open Session

/-! ## The snapshot of an attempt -/

/-- `DestinationTokenRotationAttemptSnapshot`. -/
structure DestinationTokenRotationAttemptSnapshot where
  lifecycle : DestinationLifecycleSnapshot
  newToken : LifecycleTokenView
  oldToken : LifecycleTokenView

/-- `NewDestinationTokenRotationAttemptSnapshot`. -/
def newDestinationTokenRotationAttemptSnapshot (lifecycle : DestinationLifecycleSnapshot)
    (newToken oldToken : DestinationToken)
    (newActiveRecordID oldRetiringRecordID : DestinationTokenRecordID) (now : Time) :
    Except Sentinel DestinationTokenRotationAttemptSnapshot :=
  if lifecycle.audienceID.IsZero ∨ lifecycle.destinationID.IsZero ∨ now = 0 ∨
      newActiveRecordID.IsZero ∨ oldRetiringRecordID.IsZero ∨
      newActiveRecordID = oldRetiringRecordID ∨
      newToken.spec.recordID ≠ newActiveRecordID ∨ oldToken.spec.recordID ≠ oldRetiringRecordID ∨
      newToken.spec.audienceID ≠ lifecycle.audienceID ∨
      oldToken.spec.audienceID ≠ lifecycle.audienceID ∨
      newToken.spec.destination.id ≠ lifecycle.destinationID ∨
      oldToken.spec.destination.id ≠ lifecycle.destinationID ∨
      newToken.spec.createdAt > now ∨ oldToken.spec.createdAt > now ∨
      newToken.spec.stateChangedAt > now ∨ oldToken.spec.stateChangedAt > now ∨
      (newToken.spec.revokedAt ≠ 0 ∧ newToken.spec.revokedAt > now) ∨
      (oldToken.spec.revokedAt ≠ 0 ∧ oldToken.spec.revokedAt > now) then
    .error .errDestinationLifecycleReconciliation
  else
    .ok ⟨lifecycle, lifecycleTokenView newToken, lifecycleTokenView oldToken⟩

section
variable {ν : Type} [ErrorGraph ν]

/-- The variables of the loop over the rows of an attempt. -/
structure AttemptLoop where
  newToken : Option DestinationToken
  oldToken : Option DestinationToken
  seen : Nat

/-- Why the loop ended before the rows did. -/
inductive AttemptStop (ν : Type) where
  | reconciliation
  | read (err : GoError ν)

/-- The loop over the rows of an attempt. -/
def attemptLoop (audience : GatewayAudienceID) (destination : Destination)
    (newActiveRecordID oldRetiringRecordID : DestinationTokenRecordID) :
    List (Except (GoError ν) LifecycleTokenRecord) → AttemptLoop →
      AttemptLoop × Option (AttemptStop ν)
  | [], loop => (loop, none)
  | scan :: scans, loop =>
    if loop.seen = 2 then (loop, some .reconciliation)
    else match scan with
      | .error err =>
        if lifecycleUnsafeOrConnectionInterruption err = true ∨
            (lifecycleRepositoryCancellation none (some err)).isSome then (loop, some (.read err))
        else (loop, some .reconciliation)
      | .ok record =>
        match record.token audience destination with
        | .error _ => (loop, some .reconciliation)
        | .ok token =>
          if token.spec.recordID = newActiveRecordID then
            if loop.newToken.isSome then (loop, some .reconciliation)
            else attemptLoop audience destination newActiveRecordID oldRetiringRecordID scans
              { loop with newToken := some token, seen := loop.seen + 1 }
          else if token.spec.recordID = oldRetiringRecordID then
            if loop.oldToken.isSome then (loop, some .reconciliation)
            else attemptLoop audience destination newActiveRecordID oldRetiringRecordID scans
              { loop with oldToken := some token, seen := loop.seen + 1 }
          else (loop, some .reconciliation)

/-- The error after the loop, given why it stopped and the error of the rows. -/
def attemptReadErr [DecidableEq ν] (stop : Option (AttemptStop ν)) (terminal : Option (GoError ν)) :
    Option (GoError ν) :=
  match stop, terminal with
  | some (.read err), terminal =>
    some (lifecycleReadError (lifecycleCombinedReadCause err terminal))
  | some .reconciliation, some terminal => some (lifecycleReadError
      (.joined (.sentinel .errDestinationLifecycleReconciliation) terminal))
  | some .reconciliation, none => some (.sentinel .errDestinationLifecycleReconciliation)
  | none, some terminal => some (lifecycleReadError terminal)
  | none, none => none

/-- The two tokens of an attempt, from its rows. -/
def readAttempt [DecidableEq ν] (audience : GatewayAudienceID) (destination : Destination)
    (newActiveRecordID oldRetiringRecordID : DestinationTokenRecordID)
    (scans : List (Except (GoError ν) LifecycleTokenRecord)) (terminal : Option (GoError ν)) :
    Except (GoError ν) (DestinationToken × DestinationToken) :=
  let (loop, stop) := attemptLoop audience destination newActiveRecordID oldRetiringRecordID scans
    ⟨none, none, 0⟩
  match attemptReadErr stop terminal with
  | some err => .error err
  | none =>
    if loop.seen ≠ 2 then .error (.sentinel .errDestinationLifecycleConflict)
    else match loop.newToken, loop.oldToken with
      | some newToken, some oldToken => .ok (newToken, oldToken)
      | _, _ => .error (.sentinel .errDestinationLifecycleConflict)

/-! ## The programs -/

/-- What `lifecycleRollbackRead` returns for a cause, once the transaction is rolled
back. -/
def lifecycleReadResult (cause : GoError ν) : GoError ν :=
  if cause.singleCauseMatches .errDestinationLifecycleCanceled then
    .safe .errDestinationLifecycleCanceled "lifecycle inspection canceled"
  else if cause.singleCauseMatches .errDestinationLifecycleDeadline then
    .safe .errDestinationLifecycleDeadline "lifecycle inspection canceled"
  else match lifecycleRepositoryCancellation none (some cause) with
    | some cancellation => .safe cancellation "lifecycle inspection canceled"
    | none =>
      (firstMatch cause "lifecycle inspection"
        [.errDestinationLifecycleConflict, .errDestinationLifecycleReconciliation,
          .errDestinationLifecycleUnavailable]).getD
        (.safe .errDestinationLifecycleUnavailable "lifecycle inspection")

/-- `lifecycleRollbackRead`. -/
def lifecycleRollbackRead {α : Type} (cause : GoError ν) (flags : Cleanup) :
    LifecycleProg ν (Except (GoError ν) α × Cleanup) :=
  rollbackLifecycle
    (.error (.safe .errDestinationLifecycleUnavailable "lifecycle inspection rollback"))
    (fun cause => .error (lifecycleReadResult cause)) cause flags

section
variable {α : Type} (operation : String) (audience : GatewayAudienceID)
  (destination : DestinationID) (now : Time)
  (read : LifecycleLockedState → LifecycleProg ν (Except (GoError ν) α))

/-- The inspections from the load on. -/
def readLifecycle (flags : Cleanup) : LifecycleProg ν (Except (GoError ν) α × Cleanup) := do
  match ← loadDestinationLifecycleState audience destination now false with
  | .error cause => lifecycleRollbackRead cause flags
  | .ok state =>
    match ← read state with
    | .error cause => lifecycleRollbackRead cause flags
    | .ok result =>
      let committed ← Session.commit
      let flags := { flags with transactionOpen := false }
      match committed with
      | some err =>
        return (.error (lifecycleConnectionError err (operation ++ " commit")),
          ← destroyConnection flags)
      | none => return (.ok result, flags)

/-- The inspections on their connection. -/
def readOnConnection (flags : Cleanup) : LifecycleProg ν (Except (GoError ν) α × Cleanup) := do
  match ← Session.begin .readOnly with
  | .failed err _ =>
    return (.error (lifecycleConnectionError err (operation ++ " begin")),
      ← destroyConnectionIf (lifecycleUnsafeOrConnectionInterruption err) flags)
  | .absent =>
    return (.error (.safe .errDestinationLifecycleUnavailable (operation ++ " begin")),
      ← destroyConnection flags)
  | .opened =>
    readLifecycle operation audience destination now read { flags with transactionOpen := true }

/-- The inspections: their transaction, with what each reads in it. -/
def inspectLifecycle : LifecycleProg ν (Except (GoError ν) α) := do
  match ← Session.acquire with
  | .failed err connection =>
    if connection then Session.destroy
    return .error (lifecycleConnectionError err (operation ++ " connection"))
  | .absent =>
    return .error (.safe .errDestinationLifecycleUnavailable (operation ++ " connection"))
  | .opened =>
    let outcome ← readOnConnection operation audience destination now read ⟨true, false⟩
    close (rollbackOpen
      (.error (.safe .errDestinationLifecycleUnavailable (operation ++ " cleanup")))) outcome

end

/-- `InspectLifecycleState`. -/
def inspectLifecycleState (audience : GatewayAudienceID) (destination : DestinationID)
    (now : Time) : LifecycleProg ν (Except (GoError ν) DestinationLifecycleSnapshot) := do
  match ← validateLifecycleRepositoryInput audience destination now with
  | some err => return .error err
  | none =>
    inspectLifecycle "lifecycle inspection" audience destination now fun state =>
      return .ok state.snapshot

/-- The rows of an attempt, read after the lifecycle state. -/
def inspectAttempt [DecidableEq ν] (audience : GatewayAudienceID) (destination : DestinationID)
    (newActiveRecordID oldRetiringRecordID : DestinationTokenRecordID) (now : Time)
    (state : LifecycleLockedState) :
    LifecycleProg ν (Except (GoError ν) DestinationTokenRotationAttemptSnapshot) := do
  match ← queryAttemptTokens audience destination newActiveRecordID oldRetiringRecordID with
  | .failed err terminal =>
    return .error (lifecycleReadError (lifecycleCombinedReadCause err terminal))
  | .absent => return .error (.internal .errDestinationLifecycleUnavailable true)
  | .rows scans terminal =>
    match readAttempt audience state.destination newActiveRecordID oldRetiringRecordID scans
        terminal with
    | .error err => return .error err
    | .ok (newToken, oldToken) =>
      match newDestinationTokenRotationAttemptSnapshot state.snapshot newToken oldToken
          newActiveRecordID oldRetiringRecordID now with
      | .error kind => return .error (.sentinel kind)
      | .ok attempt => return .ok attempt

/-- `InspectRotationAttempt`. -/
def inspectRotationAttempt [DecidableEq ν] (audience : GatewayAudienceID)
    (destination : DestinationID)
    (newActiveRecordID oldRetiringRecordID : DestinationTokenRecordID) (now : Time) :
    LifecycleProg ν (Except (GoError ν) DestinationTokenRotationAttemptSnapshot) := do
  match ← validateLifecycleRepositoryInput audience destination now with
  | some err => return .error err
  | none =>
    if newActiveRecordID.IsZero ∨ oldRetiringRecordID.IsZero ∨
        newActiveRecordID = oldRetiringRecordID then
      return .error (.safe .errDestinationLifecycleInvalid "rotation attempt inspection input")
    else
      inspectLifecycle "rotation attempt inspection" audience destination now
        (inspectAttempt audience destination newActiveRecordID oldRetiringRecordID now)

end

/-! ## What an inspection reads -/

variable {newToken oldToken : DestinationToken}

section
variable {ν : Type} [ErrorGraph ν] {audience : GatewayAudienceID} {id : DestinationID}
  {newID oldID : DestinationTokenRecordID} {now : Time}
variable {P : DestinationToken → Prop} {scans : List (Except (GoError ν) LifecycleTokenRecord)}

/-- The tokens of the loop come from its rows. -/
theorem attemptLoop_sound {destination : Destination} (loop : AttemptLoop)
    (hscans : ∀ record, .ok record ∈ scans → ∀ token,
      record.token audience destination = .ok token → P token)
    (hnew : ∀ token, loop.newToken = some token → token.spec.recordID = newID ∧ P token)
    (hold : ∀ token, loop.oldToken = some token → token.spec.recordID = oldID ∧ P token) :
    let result := (attemptLoop audience destination newID oldID scans loop).1
    (∀ token, result.newToken = some token → token.spec.recordID = newID ∧ P token) ∧
      ∀ token, result.oldToken = some token → token.spec.recordID = oldID ∧ P token := by
  induction scans generalizing loop with
  | nil => exact ⟨hnew, hold⟩
  | cons scan scans ih =>
    have hrest : ∀ record, .ok record ∈ scans → ∀ token,
        record.token audience destination = .ok token → P token :=
      fun record hmem => hscans record (List.mem_cons_of_mem _ hmem)
    simp only [attemptLoop]
    split
    · exact ⟨hnew, hold⟩
    cases scan with
    | error err =>
      dsimp only
      split <;> exact ⟨hnew, hold⟩
    | ok record =>
      dsimp only
      cases htoken : record.token audience destination with
      | error e => exact ⟨hnew, hold⟩
      | ok token =>
        have hP := hscans record List.mem_cons_self token htoken
        dsimp only
        split
        · rename_i hid
          split
          · exact ⟨hnew, hold⟩
          · refine ih _ hrest ?_ hold
            rintro _ ⟨⟩
            exact ⟨hid, hP⟩
        · split
          · rename_i hid
            split
            · exact ⟨hnew, hold⟩
            · refine ih _ hrest hnew ?_
              rintro _ ⟨⟩
              exact ⟨hid, hP⟩
          · exact ⟨hnew, hold⟩

theorem readAttempt_ok [DecidableEq ν] {destination : Destination} {terminal : Option (GoError ν)}
    (hscans : ∀ record, .ok record ∈ scans → ∀ token,
      record.token audience destination = .ok token → P token)
    (h : readAttempt audience destination newID oldID scans terminal = .ok (newToken, oldToken)) :
    (newToken.spec.recordID = newID ∧ P newToken) ∧ oldToken.spec.recordID = oldID ∧ P oldToken := by
  have hstart : ∀ token id, (none : Option DestinationToken) = some token →
      token.spec.recordID = id ∧ P token := by simp
  have hloop : _ ∧ _ := attemptLoop_sound ⟨none, none, 0⟩ hscans
    (fun token => hstart token newID) (fun token => hstart token oldID)
  obtain ⟨hnew, hold⟩ := hloop
  unfold readAttempt at h
  dsimp only at h
  split at h
  · cases h
  split at h
  · cases h
  split at h
  · rename_i n o hn ho
    cases h
    exact ⟨hnew _ hn, hold _ ho⟩
  · cases h

end

/-! ## Inspections with faults -/

section
variable {ν : Type} [ErrorGraph ν] {world : World ν} {mayKeep : Prop} {audience : GatewayAudienceID}
  {id : DestinationID} {newID oldID : DestinationTokenRecordID} {now : Time} {s : Store}
  {own : List (Store × Store)} {α : Type}
variable {t : LifecycleTx} {R : Store → α → Prop} {err : GoError ν} {s₀ : Store}

omit [ErrorGraph ν] in
theorem wp_queryAttemptTokens {access : Access}
    {Q : RowsAnswer (GoError ν) LifecycleTokenRecord → Store × Local Store LifecycleTx → Prop} :
    (queryAttemptTokens audience id newID oldID).wp (lifecycleSpec world mayKeep).environment Q
        (s, ⟨some (access, t), own⟩) ↔
      ∀ s', (lifecycleSpec world mayKeep).rely (some t) s s' → ∀ r t',
        lifecycleSend s' access t (.attemptTokens audience id newID oldID) r t' →
        Q r (s', ⟨some (access, t'), own⟩) :=
  Spec.wp_send

/-- **What `loadDestinationLifecycleState` returns without a lock** is the state of the
snapshot that its first query has taken. -/
theorem wp_load_snapshot
    {Q : Except (GoError ν) LifecycleLockedState → Store × Local Store LifecycleTx → Prop}
    (hQ : ∀ r s' t, Others s s' →
      (∀ state, r = .ok state → ∃ s₁, t.snapshot = some s₁ ∧ Others s s₁ ∧ Others s₁ s' ∧
        s₁.loadState audience id now = .ok state) →
      Q r (s', ⟨some (.readOnly, t), own⟩)) :
    (loadDestinationLifecycleState audience id now false : LifecycleProg ν _).wp
      (lifecycleSpec world mayKeep).environment Q
      (s, ⟨some (.readOnly, (lifecycleSpec world mayKeep).initial), own⟩) := by
  refine wp_load fun r s₁ s₂ t₁ t h₁ h₂ _ hload => hQ _ _ _ (h₁.trans h₂) fun state hstate => ?_
  obtain ⟨rfl, rfl, -, hload⟩ := hload state hstate
  exact ⟨s₁, rfl, h₁, h₂, hload rfl⟩

/-- An inspection has ended.  It has changed nothing, and what it returns holds of a
state the store was in meanwhile. -/
def Inspected (s : Store) (own : List (Store × Store)) (R : Store → α → Prop)
    (r : Except (GoError ν) α) (p : Store × Local Store LifecycleTx) : Prop :=
  p.2 = ⟨none, own⟩ ∧ Others s p.1 ∧
    ∀ a, r = .ok a → ∃ s₁, Others s s₁ ∧ Others s₁ p.1 ∧ R s₁ a

omit [ErrorGraph ν] in
theorem Inspected.error {s' : Store} (h : Others s s') :
    Inspected s own R (.error err) (s', ⟨none, own⟩) :=
  ⟨rfl, h, nofun⟩

omit [ErrorGraph ν] in
/-- An inspection is a call without changes. -/
theorem ends_of_inspected {p : LifecycleProg ν (Except (GoError ν) α)}
    (h : ∀ s own, p.wp (lifecycleSpec world mayKeep).environment (Inspected s own R)
      (s, ⟨none, own⟩)) :
    (lifecycleSpec world mayKeep).Ends Others p fun _ changes => changes = [] := by
  refine fun s own => Prog.wp_mono (h s own) ?_
  rintro r ⟨s', l⟩ ⟨rfl, ho, -⟩
  exact ⟨[], by simp, .nil ho, rfl⟩

omit [ErrorGraph ν] in
/-- Hand the connection back and report an error. -/
theorem wp_handBack_error (destroyed : Bool) (h : Others s₀ s) :
    (do Session.handBack destroyed; return .error err : LifecycleProg ν (Except (GoError ν) α)).wp
      (lifecycleSpec world mayKeep).environment (Inspected s₀ own R) (s, ⟨none, own⟩) := by
  rw [Prog.wp_bind]
  exact Spec.wp_handBack.mpr fun s₁ h₁ => .error (h.trans (others_of_rely h₁))

theorem wp_lifecycleRollbackRead {cause : GoError ν}
    {rollbackOpen : Except (GoError ν) α × Cleanup → LifecycleProg ν _} (h : Others s₀ s) :
    (lifecycleRollbackRead cause ⟨true, true⟩).wp (lifecycleSpec world mayKeep).environment
      (fun outcome => (close rollbackOpen outcome).wp (lifecycleSpec world mayKeep).environment
        (Inspected s₀ own R)) (s, ⟨some (.readOnly, t), own⟩) := by
  unfold lifecycleRollbackRead rollbackLifecycle
  rw [Prog.wp_bind]
  refine Spec.wp_rollback_readOnly.mpr fun s₁ h₁ r => ?_
  have ho := h.trans (others_of_rely h₁)
  cases r with
  | some err => exact wp_handBack_error true ho
  | none => exact wp_close (wp_handBack_error _ ho)

/-- A part of an inspection has read `R` of the snapshot `s₁`. -/
def ReadOf (s s₁ : Store) (own : List (Store × Store)) (R : Store → α → Prop)
    (r : Except (GoError ν) α) (p : Store × Local Store LifecycleTx) : Prop :=
  ∃ t, p.2 = ⟨some (.readOnly, t), own⟩ ∧ Others s p.1 ∧ ∀ a, r = .ok a → R s₁ a

omit [ErrorGraph ν] in
theorem ReadOf.error {s₁ s' : Store} (h : Others s s') :
    ReadOf s s₁ own R (.error err) (s', ⟨some (.readOnly, t), own⟩) :=
  ⟨t, rfl, h, nofun⟩

/-- **An inspection returns what it reads of one snapshot.** -/
theorem wp_inspectLifecycle {operation : String}
    {read : LifecycleLockedState → LifecycleProg ν (Except (GoError ν) α)}
    (hread : ∀ state s₁ s₂ t, s₁.loadState audience id now = .ok state → t.snapshot = some s₁ →
      (read state).wp (lifecycleSpec world mayKeep).environment (ReadOf s₂ s₁ own R)
        (s₂, ⟨some (.readOnly, t), own⟩)) (h : Others s₀ s) :
    (inspectLifecycle operation audience id now read).wp (lifecycleSpec world mayKeep).environment
      (Inspected s₀ own R) (s, ⟨none, own⟩) := by
  unfold inspectLifecycle
  rw [Prog.wp_bind]
  refine Spec.wp_acquire.mpr fun s₁ h₁ r => ?_
  have ho₁ := h.trans (others_of_rely h₁)
  cases r with
  | failed err connection =>
    cases connection with
    | true =>
      simp only [if_true]
      rw [Prog.wp_bind]
      exact Spec.wp_destroy.mpr fun s₂ h₂ => .error (ho₁.trans (others_of_rely h₂))
    | false => exact .error ho₁
  | absent => exact .error ho₁
  | opened =>
    dsimp only
    rw [Prog.wp_bind, readOnConnection, Prog.wp_bind]
    refine Spec.wp_begin.mpr fun s₂ h₂ => ?_
    have ho₂ := ho₁.trans (others_of_rely h₂)
    refine ⟨fun err value => wp_close (wp_handBack_error _ ho₂), wp_handBack_error true ho₂, ?_⟩
    dsimp only
    rw [readLifecycle, Prog.wp_bind]
    refine wp_load_snapshot fun r s₃ t h₃ hstate => ?_
    cases r with
    | error cause => exact wp_lifecycleRollbackRead (ho₂.trans h₃)
    | ok state =>
      obtain ⟨s₁', hsnap, hb, ha, hload⟩ := hstate state rfl
      dsimp only
      rw [Prog.wp_bind]
      refine Prog.wp_mono (hread state s₁' s₃ t hload hsnap) ?_
      rintro r ⟨s₄, _⟩ ⟨t', rfl, h₄, hR⟩
      cases r with
      | error cause => exact wp_lifecycleRollbackRead ((ho₂.trans h₃).trans h₄)
      | ok result =>
        dsimp only
        rw [Prog.wp_bind]
        refine Spec.wp_commit_readOnly.mpr fun s₅ h₅ r => ?_
        have ho₅ := h₄.trans (others_of_rely h₅)
        cases r with
        | some err => exact wp_handBack_error true ((ho₂.trans h₃).trans ho₅)
        | none =>
          refine Spec.wp_release.mpr fun s₆ h₆ => ?_
          have ho₆ := ho₅.trans (others_of_rely h₆)
          refine ⟨rfl, (ho₂.trans h₃).trans ho₆, ?_⟩
          rintro a ⟨⟩
          exact ⟨s₁', ho₂.trans hb, ha.trans ho₆, hR result rfl⟩

/-- **With whatever faults, `InspectLifecycleState` returns a snapshot of the store.** -/
theorem wp_inspectLifecycleState :
    (inspectLifecycleState audience id now : LifecycleProg ν _).wp
      (lifecycleSpec world mayKeep).environment
      (Inspected s own fun s₁ snapshot => ∃ destination,
        s₁.loadState audience id now = .ok ⟨destination, snapshot⟩) (s, ⟨none, own⟩) := by
  unfold inspectLifecycleState
  rw [Prog.wp_bind]
  refine wp_validateLifecycleRepositoryInput (fun _ _ => .error) fun _ s₁ ho₁ => ?_
  dsimp only
  refine wp_inspectLifecycle (fun state s₂ s₃ t hload hsnap => ?_) ho₁
  refine ⟨t, rfl, .refl, ?_⟩
  rintro _ ⟨⟩
  exact ⟨_, hload⟩

end

/-! ## What `InspectRotationAttempt` returns -/

/-- A record of an attempt is read, and is not from the future. -/
def Store.AttemptRow (s : Store) (audience : GatewayAudienceID) (destination : Destination)
    (now : Time) (record : DestinationTokenRecordID) (view : LifecycleTokenView) : Prop :=
  ∃ row token, s.row? record = some row ∧ row.record.token audience destination = .ok token ∧
    row.view = view ∧ row.createdAt.toTime ≤ now ∧ row.stateChangedAt.toTime ≤ now

/-- **The attempt is that of the store**: its lifecycle state, and the rows of its two
records. -/
structure Store.Attempt (s : Store) (audience : GatewayAudienceID) (id : DestinationID)
    (newID oldID : DestinationTokenRecordID) (now : Time)
    (attempt : DestinationTokenRotationAttemptSnapshot) : Prop where
  input : ¬ (audience.IsZero ∨ id.IsZero ∨ now = 0)
  records : ¬ (newID.IsZero ∨ oldID.IsZero ∨ newID = oldID)
  rows : ∃ destination, s.loadState audience id now = .ok ⟨destination, attempt.lifecycle⟩ ∧
    s.AttemptRow audience destination now newID attempt.newToken ∧
    s.AttemptRow audience destination now oldID attempt.oldToken

section
variable {audience : GatewayAudienceID} {id : DestinationID} {s : Store}
  {newID oldID : DestinationTokenRecordID} {now : Time} {destination : Destination}
  {attempt : DestinationTokenRotationAttemptSnapshot}
variable {token : DestinationToken}

theorem TokenRow.spec_of_token {row : TokenRow}
    (h : row.record.token audience destination = .ok token) :
    token.spec.recordID = row.recordID ∧ token.spec.audienceID = audience ∧
      token.spec.destination = destination := by
  obtain ⟨-, -, -, -, haud, -, -, verifier, keyID, -, -, hspec⟩ := TokenRow.token_eq_ok.mp h
  rw [hspec]
  exact ⟨rfl, haud, rfl⟩

/-- A token that was read of a row of the attempt. -/
theorem Store.attemptRow_of_token {record : DestinationTokenRecordID}
    (hread : ∃ row ∈ s.tokens, row.record.token audience destination = .ok token)
    (hrecord : token.spec.recordID = record) (hcreated : token.spec.createdAt ≤ now)
    (hchanged : token.spec.stateChangedAt ≤ now) :
    s.AttemptRow audience destination now record (lifecycleTokenView token) := by
  obtain ⟨row, hrow, htoken⟩ := hread
  have hview := (TokenRow.view_of_token htoken).1
  have hid := (TokenRow.spec_of_token htoken).1
  refine ⟨row, token, ?_, htoken, hview.symm, ?_, ?_⟩
  · rw [← hrecord, hid]
    exact Store.row?_of_mem hrow
  · exact (congrArg LifecycleTokenView.createdAt hview).ge.trans hcreated
  · exact (congrArg LifecycleTokenView.stateChangedAt hview).ge.trans hchanged

theorem Store.mem_attemptTokens {row : TokenRow} :
    row ∈ s.attemptTokens audience id newID oldID ↔ row ∈ s.tokens ∧ row.audienceID = audience ∧
      row.destinationID = id ∧ (row.recordID = newID ∨ row.recordID = oldID) := by
  rw [Store.attemptTokens, List.mem_insertionSort, List.mem_filter, decide_eq_true_eq]

end

section
variable {ν : Type} [ErrorGraph ν] [DecidableEq ν] {world : World ν} {mayKeep : Prop}
  {audience : GatewayAudienceID} {id : DestinationID}
  {newID oldID : DestinationTokenRecordID} {now : Time} {s : Store} {own : List (Store × Store)}

/-- The attempt, from what its two queries have returned. -/
theorem Store.attempt_of_read {state : LifecycleLockedState}
    {scans : List (Except (GoError ν) LifecycleTokenRecord)} {terminal : Option (GoError ν)}
    {newToken oldToken : DestinationToken} {attempt : DestinationTokenRotationAttemptSnapshot}
    (hinput : ¬ (audience.IsZero ∨ id.IsZero ∨ now = 0))
    (hload : s.loadState audience id now = .ok state)
    (hdeliver : Delivered (s.attemptTokens audience id newID oldID) (.rows scans terminal))
    (hread : readAttempt audience state.destination newID oldID scans terminal =
      .ok (newToken, oldToken))
    (h : newDestinationTokenRotationAttemptSnapshot state.snapshot newToken oldToken newID oldID
      now = .ok attempt) : s.Attempt audience id newID oldID now attempt := by
  have hrow : ∀ record, .ok record ∈ scans → ∀ token,
      record.token audience state.destination = .ok token →
      ∃ row ∈ s.tokens, row.record.token audience state.destination = .ok token := by
    intro record hmem token htoken
    obtain ⟨row, hr, rfl⟩ := hdeliver.row hmem
    exact ⟨row, (Store.mem_attemptTokens.mp hr).1, htoken⟩
  obtain ⟨⟨-, hnew⟩, -, hold⟩ := readAttempt_ok hrow hread
  unfold newDestinationTokenRotationAttemptSnapshot at h
  split at h
  · cases h
  rename_i hgood
  simp only [not_or, not_not, not_lt, gt_iff_lt] at hgood
  obtain ⟨-, -, -, hn0, ho0, hne, hnid, hoid, -, -, -, -, hnc, hoc, hns, hos, -⟩ := hgood
  cases h
  refine ⟨hinput, ?_, _, hload, Store.attemptRow_of_token hnew hnid hnc hns,
    Store.attemptRow_of_token hold hoid hoc hos⟩
  simp only [not_or]
  exact ⟨hn0, ho0, hne⟩

/-- **With whatever faults, `InspectRotationAttempt` returns an attempt of the store.** -/
theorem wp_inspectRotationAttempt :
    (inspectRotationAttempt audience id newID oldID now : LifecycleProg ν _).wp
      (lifecycleSpec world mayKeep).environment
      (Inspected s own fun s₁ => s₁.Attempt audience id newID oldID now) (s, ⟨none, own⟩) := by
  unfold inspectRotationAttempt
  rw [Prog.wp_bind]
  refine wp_validateLifecycleRepositoryInput (fun _ _ => .error) fun hinput s₁ ho₁ => ?_
  dsimp only
  split
  · exact .error ho₁
  refine wp_inspectLifecycle (fun state s₂ s₃ t hload hsnap => ?_) ho₁
  unfold inspectAttempt
  rw [Prog.wp_bind]
  refine wp_queryAttemptTokens.mpr fun s₄ h₄ r t' hsend => ?_
  obtain ⟨hdeliver, rfl⟩ := hsend
  have hseen : t.seen s₄ = s₂ := by rw [LifecycleTx.seen, hsnap]; rfl
  rw [hseen] at hdeliver
  have ho₄ := others_of_rely h₄
  match r, hdeliver with
  | .failed err terminal, _ => exact .error ho₄
  | .absent, _ => exact .error ho₄
  | .rows scans terminal, hdeliver =>
    dsimp only
    cases hread : readAttempt audience state.destination newID oldID scans terminal with
    | error err => exact .error ho₄
    | ok tokens =>
      obtain ⟨newToken, oldToken⟩ := tokens
      dsimp only
      cases hattempt : newDestinationTokenRotationAttemptSnapshot state.snapshot newToken oldToken
        newID oldID now with
      | error kind => exact .error ho₄
      | ok attempt =>
        refine ⟨_, rfl, ho₄, ?_⟩
        rintro _ ⟨⟩
        exact Store.attempt_of_read hinput hload hdeliver hread hattempt

end

end OncallGateway
