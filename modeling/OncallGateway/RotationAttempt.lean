import OncallGateway.StoreInvariant

/-! # The life of a rotation attempt

A rotation attempt is a staged record and the active record it was created to replace.
`RotationAttempt.Phase` lists what can become of it, in any run and whatever else happens
to the store: it stays staged, it was aborted, it was activated and is still rotating,
or its rotation was rolled back or finalized.  Each phase says which mutations of the
run have brought it about, and from which states.  **Every run is in one of these
phases** (`RotationAttempt.phase_of_run`), and none has a way back.
-/

namespace OncallGateway

/-! ## A commit, when the live tokens are known -/

variable {row : TokenRow}

section
variable {s s' : Store} {m : Mutation} {destination : DestinationID} {tokens : LiveTokens}

/-- A mutation commits on another destination, or it makes a transition of these tokens. -/
theorem Store.Represents.commit_cases (h : s.Represents destination tokens)
    (hcommit : m.commit s = .ok s') :
    m.destination ≠ destination ∧ s'.Represents destination tokens ∨
      m.destination = destination ∧ ∃ row tokens' rows,
        Committed m s s' row tokens tokens' rows := by
  obtain ⟨row, tokens₁, tokens', rows, hc⟩ := Mutation.commit_ok hcommit
  by_cases hd : m.destination = destination
  · subst hd
    obtain rfl := hc.represents.unique h
    exact Or.inr ⟨rfl, row, tokens', rows, hc⟩
  · exact Or.inl ⟨hd, hc.represents_other (Ne.symm hd) h⟩

/-- A mutation of the destination makes a transition of these tokens. -/
theorem Store.Represents.committed (h : s.Represents destination tokens)
    (hcommit : m.commit s = .ok s') (hd : m.destination = destination) :
    ∃ row tokens' rows, Committed m s s' row tokens tokens' rows := by
  rcases h.commit_cases hcommit with ⟨hne, -⟩ | ⟨-, hc⟩
  · exact absurd hd hne
  · exact hc

variable {ms : List Mutation} {id : DestinationTokenRecordID}

/-- A destination whose live tokens have a shape keeps having one. -/
theorem Store.Represents.run (h : s.Represents destination tokens)
    (hrun : Run MutationStep s ms s') : ∃ tokens', s'.Represents destination tokens' := by
  refine hrun.invariant (P := fun s => ∃ tokens, s.Represents destination tokens) ?_ ⟨tokens, h⟩
  rintro s m s' ⟨tokens, hrep⟩ (rfl | hcommit)
  · exact ⟨tokens, hrep⟩
  · rcases hrep.commit_cases hcommit with ⟨-, hrep'⟩ | ⟨rfl, row, tokens', rows, hc⟩
    · exact ⟨tokens, hrep'⟩
    · exact ⟨tokens', hc.after⟩

/-- A revoked row is final. -/
theorem revoked_of_run (hrun : Run MutationStep s ms s') (hrow : s.row? id = some row)
    (hst : row.state = .revoked) : s'.row? id = some row := by
  refine hrun.invariant (P := fun s => s.row? id = some row) ?_ hrow
  rintro s m s' hrow (rfl | hcommit)
  · exact hrow
  · obtain ⟨_, _, _, _, hc⟩ := Mutation.commit_ok hcommit
    exact hc.frame hrow (Or.inr hst)

/-- A record that is no longer staged is never staged again. -/
theorem not_staged_of_run (hrun : Run MutationStep s ms s') (hrow : s.row? id = some row)
    (hst : row.state ≠ .staged) : ∃ row', s'.row? id = some row' ∧ row'.state ≠ .staged := by
  refine hrun.invariant (P := fun s => ∃ row, s.row? id = some row ∧ row.state ≠ .staged) ?_
    ⟨row, hrow, hst⟩
  rintro s m s' ⟨row, hrow, hst⟩ (rfl | hcommit)
  · exact ⟨row, hrow, hst⟩
  · obtain ⟨_, _, _, rows, hc⟩ := Mutation.commit_ok hcommit
    rw [hc.writes.row?]
    cases hl : Keyed.lookup TokenRow.recordID rows id with
    | none => exact ⟨row, by rw [Option.none_or, hrow], hst⟩
    | some written =>
      refine ⟨written, rfl, ?_⟩
      have hid : written.recordID = id := Keyed.key_of_lookup hl
      rcases hc.written_cases (Keyed.mem_of_lookup hl) with
        ⟨candidate, -, rfl, hnew, -⟩ | ⟨state, old, change, -, rfl, -⟩
      · rw [show candidate.recordID = id from hid, hrow] at hnew
        cases hnew
      · cases change <;> simp [Change.apply]

end

/-! ## Attempts -/

/-- A rotation attempt: the row of the candidate as it was inserted, and the row of the
active token it is to replace. -/
structure RotationAttempt where
  staged : TokenRow
  active : TokenRow

namespace RotationAttempt
variable (x : RotationAttempt)

/-- The destination of the attempt. -/
abbrev destination : DestinationID := x.staged.destinationID

/-- The live tokens of the destination while the attempt is staged. -/
abbrev prepared : LiveTokens := .activeWithStaged x.active x.staged

/-- The live tokens once it is activated. -/
abbrev replaced (activation : ActivateRotationCommand) : LiveTokens :=
  .activeWithRetiring (x.staged.activated activation.now)
    (x.active.retired activation.now activation.overlapDeadline)

/-- The attempt is activated in a run: after `before`, which leads to the state `a`. -/
structure Activated (first : Store) (before : List Mutation) (activation : ActivateRotationCommand)
    (b a : Store) : Prop where
  run : Run MutationStep first before b
  prepared : b.Represents x.destination x.prepared
  destination : activation.destinationID = x.destination
  new : activation.stagedRecordID = x.staged.recordID
  old : activation.oldActiveRecordID = x.active.recordID
  commit : (Mutation.activateRotation activation).commit b = .ok a

/-- **The phases of an attempt**, with the mutations that were called and the state they
have led to. -/
inductive Phase (first : Store) : List Mutation → Store → Prop
  | staged {ms : List Mutation} {s : Store} (run : Run MutationStep first ms s)
      (prepared : s.Represents x.destination x.prepared) : Phase first ms s
  | aborted {before after : List Mutation} {audience : GatewayAudienceID} {now : Time}
      {b a s : Store} (run : Run MutationStep first before b)
      (prepared : b.Represents x.destination x.prepared)
      (commit : (Mutation.abortStagedToken audience x.destination x.staged.recordID now).commit b =
        .ok a)
      (later : Run MutationStep a after s) :
      Phase first (before ++
        .abortStagedToken audience x.destination x.staged.recordID now :: after) s
  | rotating {before after : List Mutation} {activation : ActivateRotationCommand} {b a s : Store}
      (activated : x.Activated first before activation b a) (later : Run MutationStep a after s)
      (live : s.Represents x.destination (x.replaced activation)) :
      Phase first (before ++ .activateRotation activation :: after) s
  | rolledBack {before middle after : List Mutation} {activation : ActivateRotationCommand}
      {rollback : RollbackRotationCommand} {b a b' a' s : Store}
      (activated : x.Activated first before activation b a) (between : Run MutationStep a middle b')
      (live : b'.Represents x.destination (x.replaced activation))
      (destination : rollback.destinationID = x.destination)
      (new : rollback.newActiveRecordID = x.staged.recordID)
      (old : rollback.oldRetiringRecordID = x.active.recordID)
      (commit : (Mutation.rollbackRotation rollback).commit b' = .ok a')
      (later : Run MutationStep a' after s) :
      Phase first (before ++ .activateRotation activation ::
        (middle ++ .rollbackRotation rollback :: after)) s
  | finalized {before middle after : List Mutation} {activation : ActivateRotationCommand}
      {finalization : FinalizeRotationCommand} {b a b' a' s : Store}
      (activated : x.Activated first before activation b a) (between : Run MutationStep a middle b')
      (live : b'.Represents x.destination (x.replaced activation))
      (destination : finalization.destinationID = x.destination)
      (new : finalization.newActiveRecordID = x.staged.recordID)
      (old : finalization.oldRetiringRecordID = x.active.recordID)
      (commit : (Mutation.finalizeRotation finalization).commit b' = .ok a')
      (later : Run MutationStep a' after s) :
      Phase first (before ++ .activateRotation activation ::
        (middle ++ .finalizeRotation finalization :: after)) s

variable {x} {first s s' : Store} {ms : List Mutation} {m : Mutation}

/-- **A step of the store is a step of the attempt.** -/
theorem Phase.step (h : x.Phase first ms s) (hstep : MutationStep s m s') :
    x.Phase first (ms ++ [m]) s' := by
  have hone := Run.single hstep
  cases h with
  | staged run prepared =>
    rcases hstep with rfl | hcommit
    · exact .staged (run.append hone) prepared
    rcases prepared.commit_cases hcommit with ⟨-, prepared'⟩ | ⟨hd, row, tokens', rows, hc⟩
    · exact .staged (run.append hone) prepared'
    cases hc.transition with
    | activateRotation newRecord oldRecord =>
      exact .rotating ⟨run, prepared, hd, newRecord.symm, oldRecord.symm, hcommit⟩ .nil
        (hd ▸ hc.after)
    | abortRotation =>
      obtain rfl : _ = x.destination := hd
      exact .aborted run prepared hcommit .nil
  | aborted run prepared commit later =>
    simpa using Phase.aborted run prepared commit (later.append hone)
  | rotating activated later live =>
    rcases hstep with rfl | hcommit
    · simpa using Phase.rotating activated (later.append hone) live
    rcases live.commit_cases hcommit with ⟨-, live'⟩ | ⟨hd, row, tokens', rows, hc⟩
    · simpa using Phase.rotating activated (later.append hone) live'
    cases hc.transition with
    | rollbackRotation newRecord oldRecord =>
      simpa using Phase.rolledBack activated later live hd newRecord.symm oldRecord.symm hcommit
        .nil
    | finalizeRotation newRecord oldRecord =>
      simpa using Phase.finalized activated later live hd newRecord.symm oldRecord.symm hcommit
        .nil
  | rolledBack activated between live hd new old commit later =>
    simpa using Phase.rolledBack activated between live hd new old commit (later.append hone)
  | finalized activated between live hd new old commit later =>
    simpa using Phase.finalized activated between live hd new old commit (later.append hone)

/-- **Every run from a state in which the attempt is staged is in one of its phases.** -/
theorem phase_of_run (h : first.Represents x.destination x.prepared)
    (hrun : Run MutationStep first ms s) : x.Phase first ms s :=
  hrun.history (P := x.Phase first) (fun _ _ _ _ hphase hstep => hphase.step hstep) (.staged .nil h)

/-! ## What a phase says of the rows -/

theorem Activated.replaced {before : List Mutation} {activation : ActivateRotationCommand}
    {b a : Store} (h : x.Activated first before activation b a) :
    a.Represents x.destination (x.replaced activation) := by
  obtain ⟨row, tokens', rows, hc⟩ := h.prepared.committed h.commit h.destination
  have hafter := hc.after
  rw [show (Mutation.activateRotation activation).destination = _ from h.destination] at hafter
  cases hc.transition
  exact hafter

/-- A record that is found staged is still the one that was created. -/
theorem Phase.prepared_of_staged (h : x.Phase first ms s)
    (hrow : s.row? x.staged.recordID = some row) (hst : row.state = .staged) :
    s.Represents x.destination x.prepared := by
  -- from its abort or its activation on, the record is not staged
  have notStaged : ∀ {a : Store} {after : List Mutation} {ended : TokenRow},
      Run MutationStep a after s → a.row? x.staged.recordID = some ended →
        ended.state ≠ .staged → False := by
    intro a after ended hrun hended hne
    obtain ⟨row', hrow', hne'⟩ := not_staged_of_run hrun hended hne
    rw [hrow, Option.some.injEq] at hrow'
    exact hne' (hrow' ▸ hst)
  have notActivated : ∀ {before after activation b a}, x.Activated first before activation b a →
      Run MutationStep a after s → False := fun {_ _ activation _ _} h hrun =>
    notStaged hrun ((h.replaced .active (x.staged.activated activation.now)).mp rfl).2.1 nofun
  cases h with
  | staged run prepared => exact prepared
  | aborted run prepared commit later =>
    obtain ⟨staged, -, -, hrows⟩ := Mutation.abortStagedToken_ok commit
    exact (notStaged later ((hrows _).trans (if_pos rfl)) nofun).elim
  | rotating activated later live => exact (notActivated activated later).elim
  | rolledBack activated between live hd new old commit later =>
    exact (notActivated activated (between.append (.cons (Or.inr commit) later))).elim
  | finalized activated between live hd new old commit later =>
    exact (notActivated activated (between.append (.cons (Or.inr commit) later))).elim

/-! ## A staged attempt and the next commit -/

variable (x) in
/-- What a commit can do to an attempt that is staged; `s'` is the state after it. -/
inductive Moves (s' : Store) : Mutation → Prop
  /-- A mutation of another destination. -/
  | elsewhere {m : Mutation} (destination : m.destination ≠ x.destination)
      (staged : s'.row? x.staged.recordID = some x.staged)
      (active : s'.row? x.active.recordID = some x.active) : Moves s' m
  | abort {audience : GatewayAudienceID} {now : Time}
      (staged : s'.row? x.staged.recordID = some (x.staged.revoked now))
      (active : s'.row? x.active.recordID = some x.active) :
      Moves s' (.abortStagedToken audience x.destination x.staged.recordID now)
  | activate {activation : ActivateRotationCommand}
      (destination : activation.destinationID = x.destination)
      (new : activation.stagedRecordID = x.staged.recordID)
      (old : activation.oldActiveRecordID = x.active.recordID)
      (staged : s'.row? x.staged.recordID = some (x.staged.activated activation.now))
      (active : s'.row? x.active.recordID =
        some (x.active.retired activation.now activation.overlapDeadline)) :
      Moves s' (.activateRotation activation)

/-- A commit aborts the staged attempt, activates it, or is elsewhere; it touches no other
record of the destination. -/
theorem moves_of_prepared (h : s.Represents x.destination x.prepared)
    (hcommit : m.commit s = .ok s') :
    x.Moves s' m ∧ ∀ id token, id ≠ x.staged.recordID → id ≠ x.active.recordID →
      token.destinationID = x.destination →
      (s'.row? id = some token ↔ s.row? id = some token) := by
  obtain ⟨-, hstaged, -, -⟩ := (h .staged x.staged).mp rfl
  obtain ⟨-, hactive, hactived, -⟩ := (h .active x.active).mp rfl
  obtain ⟨row, tokens, tokens', rows, hc⟩ := Mutation.commit_ok hcommit
  by_cases hd : m.destination = x.destination
  swap
  · refine ⟨.elsewhere hd ((hc.row?_other (Ne.symm hd)).mpr hstaged)
      ((hc.row?_other (hactived ▸ Ne.symm hd)).mpr hactive), fun id token _ _ ht => ?_⟩
    exact hc.row?_other (ht ▸ Ne.symm hd)
  obtain rfl := (hd ▸ hc.represents).unique h
  have hafter := hd ▸ hc.after
  have hwrites := hc.writes
  cases hc.transition with
  | abortRotation =>
    obtain rfl : _ = x.destination := hd
    have hrows := hwrites.row?_single
    simp only [Change.apply_recordID] at hrows
    refine ⟨.abort ((hrows _).trans (if_pos rfl)) ((hafter .active x.active).mp rfl).2.1,
      fun id token hn _ _ => ?_⟩
    rw [hrows, if_neg hn]
  | @activateRotation activation _ _ new old =>
    refine ⟨.activate hd new.symm old.symm
      ((hafter .active (x.staged.activated activation.now)).mp rfl).2.1
      ((hafter .retiring (x.active.retired activation.now activation.overlapDeadline)).mp rfl).2.1,
      fun id token hn ho _ => ?_⟩
    obtain ⟨_, _, -, -, -, -, -, -, hrows⟩ := Mutation.activateRotation_ok hcommit
    rw [hrows id (new ▸ hn) (old ▸ ho)]

end RotationAttempt

/-! ## The binding of a candidate to the token it replaces -/

/-- The record `new` is a rotation in progress that replaces `old`: it is staged beside
the active `old`, or it is active and `old` is retiring. -/
def Store.Outstanding (s : Store) (destination : DestinationID)
    (new old : DestinationTokenRecordID) : Prop :=
  ∃ n o, s.row? new = some n ∧ n.destinationID = destination ∧
    s.row? old = some o ∧ o.destinationID = destination ∧
    (n.state = .staged ∧ o.state = .active ∨ n.state = .active ∧ o.state = .retiring)

/-- A destination has at most one rotation in progress. -/
theorem Store.Represents.outstanding_unique {s : Store} {destination : DestinationID}
    {tokens : LiveTokens} (h : s.Represents destination tokens)
    {new old new' old' : DestinationTokenRecordID} (h₁ : s.Outstanding destination new old)
    (h₂ : s.Outstanding destination new' old') : new = new' ∧ old = old' := by
  have hslot : ∀ {id row state}, s.row? id = some row → row.destinationID = destination →
      row.state = state → state ≠ .revoked → tokens.slot state = some row ∧ row.recordID = id := by
    rintro id row state hrow hd rfl hne
    have hid := Store.recordID_of_row? hrow
    exact ⟨(h _ _).mpr ⟨hne, hid ▸ hrow, hd, rfl⟩, hid⟩
  obtain ⟨n, o, hn, hnd, ho, hod, hst⟩ := h₁
  obtain ⟨n', o', hn', hnd', ho', hod', hst'⟩ := h₂
  rcases hst with ⟨hs, ha⟩ | ⟨hs, ha⟩ <;> rcases hst' with ⟨hs', ha'⟩ | ⟨hs', ha'⟩ <;>
    (obtain ⟨k₁, rfl⟩ := hslot hn hnd hs (by decide)
     obtain ⟨k₂, rfl⟩ := hslot ho hod ha (by decide)
     obtain ⟨k₃, rfl⟩ := hslot hn' hnd' hs' (by decide)
     obtain ⟨k₄, rfl⟩ := hslot ho' hod' ha' (by decide)
     cases tokens <;> simp_all [LiveTokens.slot])

/-- The attempt that a committed `CreateRotationStagedToken` begins. -/
theorem Store.Represents.of_createRotationStagedToken {command : CreateRotationStagedTokenCommand}
    {s s' : Store} (h : (Mutation.createRotationStagedToken command).commit s = .ok s') :
    ∃ active, s.row? command.expectedActiveRecordID = some active ∧ active.state = .active ∧
      active.recordID = command.expectedActiveRecordID ∧
      s'.Represents command.candidate.destination
        (.activeWithStaged active command.candidate.row) := by
  obtain ⟨row, tokens, tokens', rows, hc⟩ := Mutation.commit_ok h
  have hrep := hc.represents
  have hafter := hc.after
  cases hc.transition with
  | @createRotationStagedToken _ active valid created fresh expected inDate =>
    obtain ⟨-, hrow, -, hst⟩ := (hrep .active active).mp rfl
    exact ⟨active, expected ▸ hrow, hst, expected, hafter⟩

/-- **A candidate stays bound to the token it was created against.**  As long as it is
staged, it and the active token are the only live rows of the destination, both as they
were when it was created; a commit that is not elsewhere aborts it, and leaves the active
token, or activates it, and retires that very token.  At any time at most one rotation of
the destination is in progress. -/
theorem candidate_bound_to_expected_active {command : CreateRotationStagedTokenCommand}
    {s₀ s₁ s : Store} {ms : List Mutation}
    (hcreate : (Mutation.createRotationStagedToken command).commit s₀ = .ok s₁)
    (hrun : Run MutationStep s₁ ms s) :
    ∃ active, s₀.row? command.expectedActiveRecordID = some active ∧ active.state = .active ∧
      (∀ row, s.row? command.candidate.recordID = some row → row.state = .staged →
        row = command.candidate.row ∧ s.row? command.expectedActiveRecordID = some active ∧
        s.Represents command.candidate.destination
          (.activeWithStaged active command.candidate.row) ∧
        ∀ m s', m.commit s = .ok s' →
          RotationAttempt.Moves ⟨command.candidate.row, active⟩ s' m ∧
          ∀ id token, id ≠ command.candidate.recordID → id ≠ command.expectedActiveRecordID →
            token.destinationID = command.candidate.destination →
            (s'.row? id = some token ↔ s.row? id = some token)) ∧
      ∀ new old new' old', s.Outstanding command.candidate.destination new old →
        s.Outstanding command.candidate.destination new' old' → new = new' ∧ old = old' := by
  obtain ⟨active, hactive, hst, hid, hrep⟩ := Store.Represents.of_createRotationStagedToken hcreate
  refine ⟨active, hactive, hst, fun row hrow hstaged => ?_, fun new old new' old' => ?_⟩
  · have hphase : RotationAttempt.Phase ⟨command.candidate.row, active⟩ s₁ ms s :=
      RotationAttempt.phase_of_run hrep hrun
    have hprepared := hphase.prepared_of_staged hrow hstaged
    obtain ⟨-, hrow', -, -⟩ := (hprepared .staged command.candidate.row).mp rfl
    obtain ⟨-, hactive', -, -⟩ := (hprepared .active active).mp rfl
    refine ⟨Option.some.inj (hrow.symm.trans hrow'), hid ▸ hactive', hprepared,
      fun m s' hcommit => ?_⟩
    obtain ⟨hmoves, hothers⟩ := RotationAttempt.moves_of_prepared hprepared hcommit
    exact ⟨hmoves, fun id token hn ho ht => hothers id token hn (hid ▸ ho) ht⟩
  · obtain ⟨tokens, htokens⟩ := hrep.run hrun
    exact htokens.outstanding_unique

/-- The creation of a token of the other destination. -/
def sampleElsewhere : Mutation :=
  .createStagedToken { sampleCandidate 6 (sampleTime 22) with destination := sampleID 5 }
    (sampleTime 22)

/-- A commit elsewhere leaves the candidate and the active token as they were; the activation
then retires that token. -/
theorem sampleCandidate_bound : ∃ s₀ s₁ s s' active,
    commitAll (sampleRotation.take 2) (sampleStore 10) = .ok s₀ ∧
    (Mutation.createRotationStagedToken
      ⟨sampleCandidate 4 (sampleTime 22), sampleID 3, sampleTime 22⟩).commit s₀ = .ok s₁ ∧
    sampleElsewhere.commit s₁ = .ok s ∧
    (Mutation.activateRotation ⟨sampleID 1, sampleID 2, sampleID 4, sampleID 3, sampleTime 23,
      sampleTime 33⟩).commit s = .ok s' ∧
    s.Represents (sampleID 2)
      (.activeWithStaged active (sampleCandidate 4 (sampleTime 22)).row) ∧
    s.row? (sampleID 3) = some active ∧
    RotationAttempt.Moves ⟨(sampleCandidate 4 (sampleTime 22)).row, active⟩ s'
      (.activateRotation ⟨sampleID 1, sampleID 2, sampleID 4, sampleID 3, sampleTime 23,
        sampleTime 33⟩) := by
  obtain ⟨s', hs', -⟩ := Except.exists_of_toOption_map
    (show (commitAll (sampleRotation.take 3 ++ [sampleElsewhere] ++ sampleRotation.drop 3)
      (sampleStore 10)).toOption.map (fun _ => ()) = some () by decide +kernel)
  obtain ⟨s, hs, hactivate⟩ := commitAll_snoc hs'
  obtain ⟨s₁, hs₁, helsewhere⟩ := commitAll_snoc hs
  obtain ⟨s₀, hs₀, hcreate⟩ := @commitAll_snoc (sampleRotation.take 2) _ _ _ hs₁
  obtain ⟨row, hrow, hst⟩ : ∃ row, s.row? (sampleID 4) = some row ∧ row.state = .staged := by
    obtain ⟨_, hs'', hstaged⟩ := Except.exists_of_toOption_map
      (show (commitAll (sampleRotation.take 3 ++ [sampleElsewhere]) (sampleStore 10)).toOption.map
        (fun s => (s.row? (sampleID 4)).map TokenRow.state) = some (some .staged) by decide +kernel)
    cases hs.symm.trans hs''
    exact Option.map_eq_some_iff.mp hstaged
  obtain ⟨active, -, -, hbound, -⟩ := candidate_bound_to_expected_active hcreate
    (.single (Or.inr helsewhere))
  obtain ⟨-, hactive, hrep, hmoves⟩ := hbound row hrow hst
  exact ⟨s₀, s₁, s, s', active, hs₀, hcreate, helsewhere, hactivate, hrep, hactive,
    (hmoves _ _ hactivate).1⟩

end OncallGateway
