import OncallGateway.LifecycleInspection

/-! # The attempt snapshot of a store

The inspection of a rotation attempt on a database without faults.  Every row is then
delivered, and `InspectRotationAttempt` is a function of the store
(`Store.inspectRotationAttempt`).  It returns an attempt exactly when the lifecycle state
is loaded, both records are read, and none of them is from the future
(`Store.inspectRotationAttempt_eq_ok`).
-/

namespace OncallGateway
open Session
variable {attempt : DestinationTokenRotationAttemptSnapshot}

section
variable {ν : Type} [ErrorGraph ν] {audience : GatewayAudienceID} {id : DestinationID}
  {newID oldID : DestinationTokenRecordID} {now : Time} {s : Store}
variable {rows : List TokenRow} {newToken oldToken : DestinationToken}

theorem collectScans_all {destination : Destination} {tokens : List DestinationToken} :
    collectScans audience destination (none : Option (GoError ν))
      (rows.map fun row => .ok row.record) tokens =
    (collectTokens audience destination (rows.map TokenRow.record) tokens).mapError .sentinel := by
  induction rows generalizing tokens with
  | nil => rfl
  | cons row rows ih =>
    simp only [List.map_cons, collectScans, collectTokens]
    by_cases hlen : tokens.length = 3
    · simp [Except.refuseIf, hlen, bind, Except.bind, Except.mapError]
    · cases htoken : row.record.token audience destination with
      | error e =>
        simp [Except.refuseIf, hlen, Except.relabel, bind, Except.bind, Except.mapError]
      | ok token =>
        simp only [Except.refuseIf, hlen, if_false, Except.relabel, bind, Except.bind]
        exact ih

variable (outside : (request : Outside) → request.Answer (GoError ν)) {t : LifecycleTx}
  {own : List (Store × Store)}

omit [ErrorGraph ν] in
theorem eval_queryDestination {row : DestinationRow} (h : (t.seen s).destination? id = some row) :
    (queryDestination false id).eval (answerAll outside) (s, ⟨some (.readOnly, t), own⟩) =
      (.ok (.scanned (.ok row.record)),
        (s, ⟨some (.readOnly, { t with snapshot := some (t.seen s) }), own⟩)) := by
  show (Except.ok (answerSql s .readOnly t (.destination false id)).1, _) = _
  simp only [answerSql, h, answerAll]
  rfl

omit [ErrorGraph ν] in
theorem eval_queryDestination_none (h : (t.seen s).destination? id = none) :
    (queryDestination false id).eval (answerAll outside) (s, ⟨some (.readOnly, t), own⟩) =
      (.ok (.scanned (.error (.sentinel .pgxErrNoRows))),
        (s, ⟨some (.readOnly, { t with snapshot := some (t.seen s) }), own⟩)) := by
  show (Except.ok (answerSql s .readOnly t (.destination false id)).1, _) = _
  simp only [answerSql, h, answerAll]
  rfl

omit [ErrorGraph ν] in
theorem eval_queryTokens :
    (queryTokens false id).eval (answerAll outside) (s, ⟨some (.readOnly, t), own⟩) =
      (.ok (deliverAll ((t.seen s).lifecycleTokens id)),
        (s, ⟨some (.readOnly, { t with snapshot := some (t.seen s) }), own⟩)) := rfl

omit [ErrorGraph ν] in
theorem eval_queryAttemptTokens :
    (queryAttemptTokens audience id newID oldID).eval (answerAll outside)
        (s, ⟨some (.readOnly, t), own⟩) =
      (.ok (deliverAll ((t.seen s).attemptTokens audience id newID oldID)),
        (s, ⟨some (.readOnly, { t with snapshot := some (t.seen s) }), own⟩)) := rfl

/-- The load of an inspection, when every row is delivered. -/
theorem eval_load :
    (loadDestinationLifecycleState audience id now false).eval (answerAll outside)
      (s, ⟨some (.readOnly, ⟨none, [], none⟩), own⟩) =
    (.ok ((s.loadState audience id now).mapError .sentinel),
      (s, ⟨some (.readOnly, ⟨none, [], some s⟩), own⟩)) := by
  unfold loadDestinationLifecycleState Store.loadState
  cases hrow : s.destination? id with
  | none =>
    rw [Prog.eval_bind (eval_queryDestination_none outside (t := ⟨none, [], none⟩) hrow)]
    rfl
  | some row =>
    rw [Prog.eval_bind (eval_queryDestination outside (t := ⟨none, [], none⟩) hrow)]
    dsimp only
    cases hdest : row.record.destination audience id now with
    | error e => rfl
    | ok destination =>
      dsimp only
      rw [Prog.eval_bind (eval_queryTokens outside)]
      simp only [deliverAll, collectScans_all, LifecycleTx.seen, Option.getD_none, Option.getD_some,
        Except.relabel, bind, Except.bind]
      cases collectTokens audience destination ((s.lifecycleTokens id).map TokenRow.record) [] with
      | error e => rfl
      | ok tokens =>
        simp only [Except.mapError]
        cases newDestinationLifecycleSnapshot destination tokens now <;> rfl

omit [ErrorGraph ν] in
/-- The rows of the two records, in either order. -/
theorem Store.attemptTokens_eq {newRow oldRow : TokenRow} (hnew : s.row? newID = some newRow)
    (hold : s.row? oldID = some oldRow) (hne : newID ≠ oldID)
    (hnd : newRow.audienceID = audience ∧ newRow.destinationID = id)
    (hod : oldRow.audienceID = audience ∧ oldRow.destinationID = id) :
    s.attemptTokens audience id newID oldID = [newRow, oldRow] ∨
      s.attemptTokens audience id newID oldID = [oldRow, newRow] := by
  have hnid := Store.recordID_of_row? hnew
  have hoid := Store.recordID_of_row? hold
  have hrows : newRow ≠ oldRow := fun h => hne (by rw [← hnid, ← hoid, h])
  have hmem : ∀ row, row ∈ s.attemptTokens audience id newID oldID ↔ row ∈ [newRow, oldRow] := by
    intro row
    rw [Store.mem_attemptTokens, List.mem_cons, List.mem_singleton]
    constructor
    · rintro ⟨hrow, -, -, hid | hid⟩ <;>
      · have := Store.row?_of_mem hrow
        simp_all
    · rintro (rfl | rfl)
      · exact ⟨Store.mem_of_row? hnew, hnd.1, hnd.2, Or.inl hnid⟩
      · exact ⟨Store.mem_of_row? hold, hod.1, hod.2, Or.inr hoid⟩
  have hnodup : (s.attemptTokens audience id newID oldID).Nodup := by
    refine (List.perm_insertionSort _ _).nodup_iff.mpr ?_
    exact (List.Nodup.of_map _ (s.tokensValid .primaryKey)).filter _
  have hperm := (List.perm_ext_iff_of_nodup hnodup (by simpa using hrows)).mpr hmem
  obtain ⟨a, b, hab⟩ := List.length_eq_two.mp hperm.length_eq
  rw [hab] at hmem hnodup ⊢
  have ha := (hmem a).mp (by simp)
  have hb := (hmem b).mp (by simp)
  simp only [List.mem_cons, List.not_mem_nil, or_false] at ha hb
  rcases ha with rfl | rfl <;> rcases hb with rfl | rfl <;> simp_all

/-- The two rows of an attempt are read. -/
theorem readAttempt_pair [DecidableEq ν] {destination : Destination} {newRow oldRow : TokenRow}
    (hne : newID ≠ oldID) (hrows : rows = [newRow, oldRow] ∨ rows = [oldRow, newRow])
    (hnew : newRow.record.token audience destination = .ok newToken)
    (hold : oldRow.record.token audience destination = .ok oldToken)
    (hnid : newToken.spec.recordID = newID) (hoid : oldToken.spec.recordID = oldID) :
    readAttempt audience destination newID oldID
      (rows.map fun row => (.ok row.record : Except (GoError ν) _)) none =
        .ok (newToken, oldToken) := by
  rcases hrows with rfl | rfl <;>
    simp [readAttempt, attemptLoop, attemptReadErr, hnew, hold, hnid, hoid, hne.symm]

/-- Two tokens of the destination, none of them from the future, make an attempt. -/
theorem newDestinationTokenRotationAttemptSnapshot_eq {snapshot : DestinationLifecycleSnapshot}
    (haud : snapshot.audienceID = audience) (hdest : snapshot.destinationID = id)
    (hinput : ¬ (audience.IsZero ∨ id.IsZero ∨ now = 0))
    (hrecords : ¬ (newID.IsZero ∨ oldID.IsZero ∨ newID = oldID))
    (hnew : newToken.spec.recordID = newID ∧ newToken.spec.audienceID = audience ∧
      newToken.spec.destination.id = id)
    (hold : oldToken.spec.recordID = oldID ∧ oldToken.spec.audienceID = audience ∧
      oldToken.spec.destination.id = id) (hnc : newToken.spec.createdAt ≤ now)
    (hoc : oldToken.spec.createdAt ≤ now) (hns : newToken.spec.stateChangedAt ≤ now)
    (hos : oldToken.spec.stateChangedAt ≤ now) :
    newDestinationTokenRotationAttemptSnapshot snapshot newToken oldToken newID oldID now =
      .ok ⟨snapshot, lifecycleTokenView newToken, lifecycleTokenView oldToken⟩ := by
  -- a token is not revoked after its last change
  have hrevoked : ∀ token : DestinationToken, token.spec.stateChangedAt ≤ now →
      ¬ (token.spec.revokedAt ≠ 0 ∧ token.spec.revokedAt > now) := by
    rintro token hs ⟨hne, hlt⟩
    have := (validateDestinationTokenSpec_eq_ok.mp token.valid).history.revoked hne
    exact absurd hlt (not_lt.mpr (this.2.trans hs))
  unfold newDestinationTokenRotationAttemptSnapshot
  rw [if_neg]
  simp only [not_or] at hinput hrecords ⊢
  exact ⟨haud ▸ hinput.1, hdest ▸ hinput.2.1, hinput.2.2, hrecords.1, hrecords.2.1, hrecords.2.2,
    not_not.mpr hnew.1, not_not.mpr hold.1, not_not.mpr (hnew.2.1.trans haud.symm),
    not_not.mpr (hold.2.1.trans haud.symm), not_not.mpr (hnew.2.2.trans hdest.symm),
    not_not.mpr (hold.2.2.trans hdest.symm), not_lt.mpr hnc, not_lt.mpr hoc, not_lt.mpr hns,
    not_lt.mpr hos, hrevoked _ hns, hrevoked _ hos⟩

/-- The attempt after a load, when every row is delivered. -/
theorem eval_inspectAttempt [DecidableEq ν] {state : LifecycleLockedState} :
    (inspectAttempt audience id newID oldID now state).eval (answerAll outside)
      (s, ⟨some (.readOnly, ⟨none, [], some s⟩), own⟩) =
    (.ok (match readAttempt audience state.destination newID oldID
        ((s.attemptTokens audience id newID oldID).map fun row => .ok row.record) none with
      | .error err => .error err
      | .ok (newToken, oldToken) =>
        (newDestinationTokenRotationAttemptSnapshot state.snapshot newToken oldToken newID oldID
          now).mapError .sentinel),
      (s, ⟨some (.readOnly, ⟨none, [], some s⟩), own⟩)) := by
  unfold inspectAttempt
  rw [Prog.eval_bind (eval_queryAttemptTokens outside)]
  simp only [deliverAll, LifecycleTx.seen, Option.getD_some]
  cases readAttempt (ν := ν) audience state.destination newID oldID
      ((s.attemptTokens audience id newID oldID).map fun row => .ok row.record) none with
  | error err => rfl
  | ok tokens =>
    dsimp only
    cases newDestinationTokenRotationAttemptSnapshot state.snapshot tokens.1 tokens.2 newID oldID
      now <;> rfl

/-- A rollback ends an inspection with an error. -/
theorem eval_lifecycleRollbackRead {α : Type} {cause : GoError ν}
    {rollbackOpen : Except (GoError ν) α × Cleanup → LifecycleProg ν _} :
    ((lifecycleRollbackRead cause ⟨true, true⟩ >>= close rollbackOpen).eval (answerAll outside)
        (s, ⟨some (.readOnly, t), own⟩)).1 = .ok (.error (lifecycleReadResult cause)) := by
  unfold lifecycleRollbackRead rollbackLifecycle
  rw [bind_assoc, Prog.eval_bind (show (Session.rollback : LifecycleProg ν _).eval
    (answerAll outside) (s, ⟨some (.readOnly, t), own⟩) = (.ok none, (s, ⟨none, own⟩)) from rfl)]
  dsimp only
  cases lifecycleErrorRequiresDestroy cause || cause.interrupted <;> rfl

/-- An inspection returns what it reads. -/
theorem eval_inspectLifecycle {α : Type} {operation : String}
    {read : LifecycleLockedState → LifecycleProg ν (Except (GoError ν) α)}
    {result : LifecycleLockedState → Except (GoError ν) α}
    (hread : ∀ state, (read state).eval (answerAll outside)
      (s, ⟨some (.readOnly, ⟨none, [], some s⟩), own⟩) =
        (.ok (result state), (s, ⟨some (.readOnly, ⟨none, [], some s⟩), own⟩))) {a : α} :
    ((inspectLifecycle operation audience id now read).eval (answerAll outside)
      (s, ⟨none, own⟩)).1 = .ok (.ok a) ↔
    ∃ state, s.loadState audience id now = .ok state ∧ result state = .ok a := by
  unfold inspectLifecycle
  rw [Prog.eval_bind (show (Session.acquire : LifecycleProg ν _).eval (answerAll outside)
    (s, ⟨none, own⟩) = (.ok .opened, (s, ⟨none, own⟩)) from rfl)]
  dsimp only
  rw [readOnConnection, bind_assoc, Prog.eval_bind
    (show (Session.begin .readOnly : LifecycleProg ν _).eval (answerAll outside)
      (s, ⟨none, own⟩) = (.ok .opened, (s, ⟨some (.readOnly, ⟨none, [], none⟩), own⟩)) from rfl)]
  dsimp only
  rw [readLifecycle, bind_assoc, Prog.eval_bind (eval_load outside)]
  cases s.loadState audience id now with
  | error kind =>
    simp only [Except.mapError, reduceCtorEq, false_and, exists_false, iff_false]
    rw [eval_lifecycleRollbackRead]
    simp
  | ok state =>
    simp only [Except.mapError, Except.ok.injEq, exists_eq_left']
    rw [bind_assoc, Prog.eval_bind (hread state)]
    cases hres : result state with
    | error err =>
      dsimp only
      rw [eval_lifecycleRollbackRead]
      simp
    | ok b => exact ⟨Except.ok.inj, congrArg _⟩

/-- An attempt of the store is what its two queries return. -/
theorem Store.Attempt.read [DecidableEq ν] (h : s.Attempt audience id newID oldID now attempt) :
    ∃ state newToken oldToken, s.loadState audience id now = .ok state ∧
      readAttempt (ν := ν) audience state.destination newID oldID
        ((s.attemptTokens audience id newID oldID).map fun row => .ok row.record) none =
          .ok (newToken, oldToken) ∧
      newDestinationTokenRotationAttemptSnapshot state.snapshot newToken oldToken newID oldID now =
        .ok attempt := by
  obtain ⟨hinput, hrecords, destination, hload,
    ⟨newRow, newToken, hnrow, hntok, hnv, hnc, hns⟩,
    oldRow, oldToken, horow, hotok, hov, hoc, hos⟩ := h
  obtain ⟨drow, tokens, hl⟩ := Store.loadState_ok hload
  have hid : destination.id = id := by
    rw [show destination = drow.value from hl.value]
    exact show drow.destinationID = id from Keyed.key_of_lookup hl.destination
  have hrow : ∀ {row : TokenRow} {token : DestinationToken},
      row.record.token audience destination = .ok token →
      row.audienceID = audience ∧ row.destinationID = id := by
    intro row token h
    obtain ⟨-, -, -, -, ha, hd, -⟩ := TokenRow.token_eq_ok.mp h
    exact ⟨ha, hd.trans hid⟩
  have hspec : ∀ {record : DestinationTokenRecordID} {row : TokenRow} {token : DestinationToken},
      s.row? record = some row → row.record.token audience destination = .ok token →
      token.spec.recordID = record ∧ token.spec.audienceID = audience ∧
        token.spec.destination.id = id := by
    intro record row token hr h
    obtain ⟨h₁, h₂, h₃⟩ := TokenRow.spec_of_token h
    exact ⟨h₁.trans (Store.recordID_of_row? hr), h₂, by rw [h₃, hid]⟩
  have hview : ∀ {row : TokenRow} {token : DestinationToken},
      row.record.token audience destination = .ok token → row.createdAt.toTime ≤ now →
      row.stateChangedAt.toTime ≤ now →
      token.spec.createdAt ≤ now ∧ token.spec.stateChangedAt ≤ now := by
    intro row token h hc hs
    have hv := (TokenRow.view_of_token h).1
    exact ⟨(congrArg LifecycleTokenView.createdAt hv).le.trans hc,
      (congrArg LifecycleTokenView.stateChangedAt hv).le.trans hs⟩
  have hne : newID ≠ oldID := fun h => hrecords (Or.inr (Or.inr h))
  obtain ⟨hnc, hns⟩ := hview hntok hnc hns
  obtain ⟨hoc, hos⟩ := hview hotok hoc hos
  refine ⟨_, newToken, oldToken, hload, readAttempt_pair hne
    (Store.attemptTokens_eq hnrow horow hne (hrow hntok) (hrow hotok)) hntok hotok
    (hspec hnrow hntok).1 (hspec horow hotok).1, ?_⟩
  rw [newDestinationTokenRotationAttemptSnapshot_eq hl.snapshotAudience hl.snapshotDestination
    hinput hrecords (hspec hnrow hntok) (hspec horow hotok) hnc hoc hns hos,
    (TokenRow.view_of_token hntok).1, (TokenRow.view_of_token hotok).1, hnv, hov]

/-- **Without faults, `InspectRotationAttempt` returns the attempt of the store.** -/
theorem eval_inspectRotationAttempt [DecidableEq ν] (hctx : outside .contextErr = none) :
    ((inspectRotationAttempt audience id newID oldID now).eval (answerAll outside)
      (s, ⟨none, own⟩)).1 = .ok (.ok attempt) ↔
      s.Attempt audience id newID oldID now attempt := by
  unfold inspectRotationAttempt validateLifecycleRepositoryInput
  by_cases hinput : audience.IsZero ∨ id.IsZero ∨ now = 0
  · rw [if_pos hinput]
    exact ⟨fun h => (by cases h), fun h => absurd hinput h.input⟩
  rw [if_neg hinput, bind_assoc, Prog.eval_bind (show (contextErr : LifecycleProg ν _).eval
    (answerAll outside) (s, ⟨none, own⟩) = (.ok (outside .contextErr), (s, ⟨none, own⟩)) from rfl),
    hctx]
  simp only [lifecycleRepositoryCancellation]
  by_cases hrecords : newID.IsZero ∨ oldID.IsZero ∨ newID = oldID
  · simp only [pure_bind, hrecords, if_true]
    exact ⟨fun h => (by cases h), fun h => absurd hrecords h.records⟩
  simp only [pure_bind, hrecords, if_false]
  rw [eval_inspectLifecycle outside fun state => eval_inspectAttempt outside]
  constructor
  · rintro ⟨state, hload, hread⟩
    cases hrows : readAttempt (ν := ν) audience state.destination newID oldID
      ((s.attemptTokens audience id newID oldID).map fun row => .ok row.record) none with
    | error err => simp [hrows] at hread
    | ok tokens =>
      rw [hrows] at hread
      cases hattempt : newDestinationTokenRotationAttemptSnapshot state.snapshot tokens.1 tokens.2
        newID oldID now with
      | error kind => simp [hattempt, Except.mapError] at hread
      | ok found =>
        simp only [hattempt, Except.mapError, Except.ok.injEq] at hread
        subst hread
        exact Store.attempt_of_read hinput hload (delivered_all _) hrows hattempt
  · intro h
    obtain ⟨state, newToken, oldToken, hload, hread, hattempt⟩ := h.read (ν := ν)
    refine ⟨state, hload, ?_⟩
    rw [hread]
    dsimp only
    rw [hattempt]
    rfl

end

/-- A world in which nothing is canceled, and that has nothing else to offer. -/
def undisturbed : (request : Outside) → request.Answer (GoError Empty)
  | .contextErr => (none : Option (GoError Empty))
  | .serviceClock => (0 : Time)
  | .participantClock => (0 : Time)
  | .newDestinationTokenRecordID => .error (.sentinel .ioEOF)
  | .entropy => .error (.sentinel .ioEOF)
  | .destinationVerifierKey _ _ => .error (.sentinel .ioEOF)
  | .resolve _ _ _ => .error (.sentinel .errDestinationNotFound)
  | .identifyRotationToken _ _ _ _ _ _ => .error (.sentinel .errDestinationNotFound)

/-- **The attempt snapshot of the store**: what `InspectRotationAttempt` returns on it,
without faults. -/
def Store.inspectRotationAttempt (s : Store) (audience : GatewayAudienceID) (id : DestinationID)
    (newID oldID : DestinationTokenRecordID) (now : Time) :
    Except Stop (Except (GoError Empty) DestinationTokenRotationAttemptSnapshot) :=
  ((OncallGateway.inspectRotationAttempt audience id newID oldID now).eval (answerAll undisturbed)
    (s, ⟨none, []⟩)).1

theorem Store.inspectRotationAttempt_eq_ok {s : Store} {audience : GatewayAudienceID}
    {id : DestinationID} {newID oldID : DestinationTokenRecordID} {now : Time} :
    s.inspectRotationAttempt audience id newID oldID now = .ok (.ok attempt) ↔
      s.Attempt audience id newID oldID now attempt :=
  eval_inspectRotationAttempt undisturbed rfl

end OncallGateway
