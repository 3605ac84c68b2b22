import OncallGateway.StoreInvariant

/-! # How a row evolves

A commit writes at most two rows.  `RowChange` lists what it does to a row that was
there before: the state the row was in, the `SET` clause, and for the two rows of a
rollback what the guard says of the deadline.  Everything else that is known of a row
over time follows: which states come after which, that the columns written at creation
stay, that the last change never moves back, and that the rows of other destinations
are not touched (`RowEvolution`).
-/

namespace OncallGateway

/-- **What a mutation does to a row of its destination.** -/
inductive RowChange (m : Mutation) (tokens : LiveTokens) : TokenRow → Change → Prop
  | activate {staged : TokenRow} : tokens.slot .staged = some staged →
      RowChange m tokens staged (.activate m.now)
  | abort {staged : TokenRow} : tokens.slot .staged = some staged →
      RowChange m tokens staged (.revoke m.now)
  | retire {active : TokenRow} {overlapDeadline : Time} : tokens.slot .active = some active →
      RowChange m tokens active (.retire m.now overlapDeadline)
  | rollbackNew {command : RollbackRotationCommand} {active : TokenRow} :
      tokens.slot .active = some active → m = .rollbackRotation command →
      active.recordID = command.newActiveRecordID → RowChange m tokens active (.revoke m.now)
  | rollbackOld {command : RollbackRotationCommand} {retiring : TokenRow} :
      tokens.slot .retiring = some retiring → m = .rollbackRotation command →
      retiring.recordID = command.oldRetiringRecordID →
      m.now < optionalTime retiring.retirementOverlapDeadline →
      RowChange m tokens retiring (.restore m.now)
  | finalize {retiring : TokenRow} : tokens.slot .retiring = some retiring →
      RowChange m tokens retiring (.revoke m.now)

variable {change : Change} {m : Mutation} {row : TokenRow} {tokens : LiveTokens}
  {id : DestinationTokenRecordID} {s s' : Store} {candidate : StagedTokenCandidate}

theorem RowChange.slot (h : RowChange m tokens row change) :
    ∃ state, tokens.slot state = some row := by
  cases h with
  | activate h => exact ⟨_, h⟩
  | abort h => exact ⟨_, h⟩
  | retire h => exact ⟨_, h⟩
  | rollbackNew h => exact ⟨_, h⟩
  | rollbackOld h => exact ⟨_, h⟩
  | finalize h => exact ⟨_, h⟩

namespace Committed
variable {row : DestinationRow} {tokens' : LiveTokens} {rows : List TokenRow}

/-- A row that is written is new, or changed so; and the change is not before the last. -/
theorem rowChange (h : Committed m s s' row tokens tokens' rows) {written : TokenRow}
    (hw : written ∈ rows) :
    (∃ candidate, m.inserted = some candidate ∧ s.row? candidate.recordID = none ∧
      written = candidate.row) ∨
    ∃ old change, RowChange m tokens old change ∧ old.stateChangedAt.toTime ≤ m.now ∧
      written = change.apply old := by
  have hpaired := h.paired
  cases h.transition with
  | createStagedToken valid created fresh =>
    exact .inl ⟨_, rfl, fresh, List.mem_singleton.mp hw⟩
  | createRotationStagedToken valid created fresh =>
    exact .inl ⟨_, rfl, fresh, List.mem_singleton.mp hw⟩
  | activateInitialToken inDate =>
    exact .inr ⟨_, _, .activate rfl, inDate.2.1, List.mem_singleton.mp hw⟩
  | activateRotation newRecord oldRecord distinct newInDate oldInDate =>
    rcases List.mem_pair.mp hw with hw | hw
    · exact .inr ⟨_, _, .retire rfl, oldInDate.2.1, hw⟩
    · exact .inr ⟨_, _, .activate rfl, newInDate.2.1, hw⟩
  | abortInitial changed => exact .inr ⟨_, _, .abort rfl, changed, List.mem_singleton.mp hw⟩
  | abortRotation changed => exact .inr ⟨_, _, .abort rfl, changed, List.mem_singleton.mp hw⟩
  | rollbackRotation newRecord oldRecord distinct changed newExpiry oldExpiry before =>
    rcases List.mem_pair.mp hw with hw | hw
    · exact .inr ⟨_, _, .rollbackNew rfl rfl newRecord, changed, hw⟩
    · -- the two rows of a pair changed last at the same time
      exact .inr ⟨_, _, .rollbackOld rfl rfl oldRecord before, hpaired.2.2 ▸ changed, hw⟩
  | finalizeRotation newRecord oldRecord distinct changed =>
    exact .inr ⟨_, _, .finalize rfl, hpaired.2.2 ▸ changed, List.mem_singleton.mp hw⟩

/-- **A row after a commit** is as it was, or changed. -/
theorem row?_change (h : Committed m s s' row tokens tokens' rows) {old : TokenRow}
    (ht : s.row? id = some old) :
    s'.row? id = some old ∨ ∃ change, RowChange m tokens old change ∧
      old.stateChangedAt.toTime ≤ m.now ∧ s'.row? id = some (change.apply old) := by
  rw [h.writes.row?]
  cases hl : Keyed.lookup TokenRow.recordID rows id with
  | none => exact .inl (by rw [Option.none_or, ht])
  | some written =>
    have hid : written.recordID = id := Keyed.key_of_lookup hl
    rcases h.rowChange (Keyed.mem_of_lookup hl) with
      ⟨candidate, -, hnew, rfl⟩ | ⟨old', change, hc, hchanged, rfl⟩
    · rw [show candidate.recordID = id from hid, ht] at hnew
      cases hnew
    · obtain ⟨state, hslot⟩ := hc.slot
      have hold := ((h.represents _ _).mp hslot).2.1
      rw [← Change.apply_recordID old' change, hid, ht, Option.some.injEq] at hold
      subst hold
      exact .inr ⟨change, hc, hchanged, rfl⟩

end Committed

/-! ## One step -/

/-- The states that may follow a state. -/
def DestinationTokenState.MovesTo : DestinationTokenState → DestinationTokenState → Prop
  | .staged, .active => True
  | .staged, .revoked => True
  | .active, .retiring => True
  | .active, .revoked => True
  | .retiring, .active => True
  | .retiring, .revoked => True
  | _, _ => False

/-- The commit of a rollback: its new record is revoked, its old one active again. -/
def RolledBack (s s' : Store) (command : RollbackRotationCommand) : Prop :=
  ∃ active retiring, s.row? command.newActiveRecordID = some active ∧ active.state = .active ∧
    s.row? command.oldRetiringRecordID = some retiring ∧ retiring.state = .retiring ∧
    retiring.destinationID = active.destinationID ∧
    s'.row? command.newActiveRecordID = some (active.revoked command.now) ∧
    s'.row? command.oldRetiringRecordID = some (retiring.restored command.now)

/-- **How a row evolves** in the step of a mutation. -/
structure RowEvolution (m : Mutation) (s s' : Store) (row row' : TokenRow) : Prop where
  moves : row' = row ∨ row.state.MovesTo row'.state
  revokedActive : row.state = .active → row'.state = .revoked → ∃ command,
    m = .rollbackRotation command ∧ row.recordID = command.newActiveRecordID ∧
      RolledBack s s' command
  restored : row.state = .retiring → row'.state = .active → ∃ command,
    m = .rollbackRotation command ∧ row.recordID = command.oldRetiringRecordID ∧
      RolledBack s s' command
  recordID : row'.recordID = row.recordID
  audienceID : row'.audienceID = row.audienceID
  destinationID : row'.destinationID = row.destinationID
  verifier : row'.verifier = row.verifier
  verifierKeyID : row'.verifierKeyID = row.verifierKeyID
  createdAt : row'.createdAt = row.createdAt
  expiresAt : row'.expiresAt = row.expiresAt
  stagedCleanupDeadline : row'.stagedCleanupDeadline = row.stagedCleanupDeadline
  activatedAt : row.activatedAt ≠ none → row'.activatedAt = row.activatedAt
  stateChangedAt : row.stateChangedAt ≤ row'.stateChangedAt
  retiring : row.state = .retiring → row'.state = .retiring →
    row'.retirementStartedAt = row.retirementStartedAt ∧
    row'.retirementOverlapDeadline = row.retirementOverlapDeadline
  /-- The operation is on an audience and a destination, and changes no other's row. -/
  other : row.destinationID ≠ m.destination ∨ row.audienceID ≠ m.audience → row' = row

theorem RowEvolution.refl :
    RowEvolution m s s' row row where
  moves := .inl rfl
  revokedActive h h' := by rw [h] at h'; cases h'
  restored h h' := by rw [h] at h'; cases h'
  recordID := rfl
  audienceID := rfl
  destinationID := rfl
  verifier := rfl
  verifierKeyID := rfl
  createdAt := rfl
  expiresAt := rfl
  stagedCleanupDeadline := rfl
  activatedAt _ := rfl
  stateChangedAt := le_rfl
  retiring _ _ := ⟨rfl, rfl⟩
  other _ := rfl

theorem RowChange.stateChangedAt (h : RowChange m tokens row change) :
    (change.apply row).stateChangedAt = .ofTime m.now := by
  cases h <;> rfl

/-- A changed row evolves so. -/
theorem RowEvolution.of_change {destination : DestinationRow} {tokens' : LiveTokens}
    {rows : List TokenRow} (hcommit : m.commit s = .ok s')
    (h : Committed m s s' destination tokens tokens' rows) (hc : RowChange m tokens row change)
    (hchanged : row.stateChangedAt.toTime ≤ m.now) :
    RowEvolution m s s' row (change.apply row) := by
  have hstate : ∀ {state}, tokens.slot state = some row → row.state = state :=
    fun hs => (h.state_eq hs).1
  obtain ⟨state, hslot⟩ := hc.slot
  have hlive := LiveTokens.mem_rows.mpr ⟨state, hslot⟩
  have hchecked := Store.checked (Store.mem_of_row? (h.represents.mem_rows.mp hlive).1)
  refine ⟨.inr ?_, fun ha hr => ?_, fun hr ha => ?_, Change.apply_recordID _ _,
    Change.apply_audienceID _ _, Change.apply_destinationID _ _, Change.apply_verifier _ _,
    Change.apply_verifierKeyID _ _, Change.apply_createdAt _ _, Change.apply_expiresAt _ _,
    Change.apply_stagedCleanupDeadline _ _, fun hset => ?_, ?_, fun hr hr' => ?_, fun hother => ?_⟩
  · cases hc with
    | activate hs => rw [hstate hs]; trivial
    | abort hs => rw [hstate hs]; trivial
    | retire hs => rw [hstate hs]; trivial
    | rollbackNew hs => rw [hstate hs]; trivial
    | rollbackOld hs => rw [hstate hs]; trivial
    | finalize hs => rw [hstate hs]; trivial
  · cases hc with
    | rollbackNew hs hm hid =>
      subst hm
      exact ⟨_, rfl, hid, Mutation.rollbackRotation_ok hcommit⟩
    | activate hs => cases hr
    | abort hs => cases ha.symm.trans (hstate hs)
    | retire hs => cases hr
    | rollbackOld hs => cases hr
    | finalize hs => cases ha.symm.trans (hstate hs)
  · cases hc with
    | rollbackOld hs hm hid =>
      subst hm
      exact ⟨_, rfl, hid, Mutation.rollbackRotation_ok hcommit⟩
    | activate hs => cases hr.symm.trans (hstate hs)
    | abort hs => cases ha
    | retire hs => cases ha
    | rollbackNew hs => cases ha
    | finalize hs => cases ha
  · cases hc with
    | activate hs => exact absurd (hchecked.staged (hstate hs)).1 hset
    | abort hs => rfl
    | retire hs => rfl
    | rollbackNew hs => rfl
    | rollbackOld hs => rfl
    | finalize hs => rfl
  · rw [hc.stateChangedAt]
    exact Timestamp.le_ofTime.mpr hchanged
  · cases hc with
    | retire hs => cases hr.symm.trans (hstate hs)
    | activate hs => cases hr'
    | abort hs => cases hr'
    | rollbackNew hs => cases hr'
    | rollbackOld hs => cases hr'
    | finalize hs => cases hr'
  · rcases hother with hother | hother
    · exact absurd (h.state_eq hslot).2 hother
    · exact absurd (h.present row hlive).2 hother

/-- **Every row evolves so in every step**, and is never deleted. -/
theorem MutationStep.evolution (h : MutationStep s m s') (hrow : s.row? id = some row) :
    ∃ row', s'.row? id = some row' ∧ RowEvolution m s s' row row' := by
  rcases h with rfl | hcommit
  · exact ⟨row, hrow, .refl⟩
  obtain ⟨destination, tokens, tokens', rows, hc⟩ := Mutation.commit_ok hcommit
  rcases hc.row?_change hrow with hrow' | ⟨change, hchange, hchanged, hrow'⟩
  · exact ⟨row, hrow', .refl⟩
  · exact ⟨_, hrow', .of_change hcommit hc hchange hchanged⟩

/-- A new row is that of the candidate the mutation inserts. -/
theorem MutationStep.inserted (h : MutationStep s m s') (hnone : s.row? id = none)
    (hrow : s'.row? id = some row) :
    ∃ candidate, m.inserted = some candidate ∧ row = candidate.row := by
  rcases h with rfl | hcommit
  · rw [hnone] at hrow
    cases hrow
  obtain ⟨destination, tokens, tokens', rows, hc⟩ := Mutation.commit_ok hcommit
  rcases hc.row?_cases hrow with hw | hold
  · rcases hc.rowChange hw with ⟨candidate, hm, -, rfl⟩ | ⟨old, change, hchange, -, rfl⟩
    · exact ⟨candidate, hm, rfl⟩
    · -- a changed row was there before
      obtain ⟨state, hslot⟩ := hchange.slot
      have hold := ((hc.represents _ _).mp hslot).2.1
      rw [← Store.recordID_of_row? hrow, Change.apply_recordID, hold] at hnone
      cases hnone
  · rw [hnone] at hold
    cases hold

theorem Mutation.inserted_eq (h : m.inserted = some candidate) :
    candidate.destination = m.destination ∧ candidate.audienceID = m.audience := by
  cases m <;> cases h <;> exact ⟨rfl, rfl⟩

theorem Mutation.times_of_inserted (h : m.inserted = some candidate) :
    m.times = candidate.times := by
  cases m <;> cases h <;> rfl

/-- The row of the candidate is there after the commit. -/
theorem Mutation.commit_inserted (hcommit : m.commit s = .ok s') (h : m.inserted = some candidate) :
    s'.row? candidate.recordID = some candidate.row := by
  obtain ⟨destination, tokens, tokens', rows, hc⟩ := Mutation.commit_ok hcommit
  have hwrites := hc.writes
  cases hc.transition with
  | createStagedToken =>
    cases h
    exact (hwrites.row?_single _).trans (if_pos rfl)
  | createRotationStagedToken =>
    cases h
    exact (hwrites.row?_single _).trans (if_pos rfl)
  | activateInitialToken => cases h
  | activateRotation => cases h
  | abortInitial => cases h
  | abortRotation => cases h
  | rollbackRotation => cases h
  | finalizeRotation => cases h

/-! ## The overlap of a retiring row -/

/-- **The overlap of a retiring row** lasts at most 24 hours, and ends before its own
expiry and that of the active row beside it. -/
def Store.OverlapBounded (s : Store) (row : TokenRow) : Prop :=
  ∃ started deadline active, row.retirementStartedAt = some started ∧
    row.retirementOverlapDeadline = some deadline ∧ deadline ≤ started.add tokenMaxOverlap ∧
    deadline < row.expiresAt ∧ s.row? active.recordID = some active ∧
    active.destinationID = row.destinationID ∧ active.state = .active ∧ deadline < active.expiresAt

theorem Store.Overlaps.bounded {destination : DestinationID} (h : s.Overlaps destination)
    (hrow : row ∈ s.tokens) (hd : row.destinationID = destination)
    (hretiring : row.state = .retiring) :
    s.OverlapBounded row := by
  obtain ⟨tokens, hrep, hbounded⟩ := h
  have hslot : tokens.slot .retiring = some row :=
    (hrep .retiring row).mpr ⟨by decide, Store.row?_of_mem hrow, hd, hretiring⟩
  cases tokens with
  | activeWithRetiring active retiring =>
    cases hslot
    obtain ⟨-, ha, had, has⟩ := (hrep .active active).mp rfl
    obtain ⟨deadline, hdeadline, hnew, hold⟩ := hbounded
    have hchecked := Store.checked hrow
    obtain ⟨started, hstarted⟩ := Option.isSome_iff_exists.mp (hchecked.retiring hretiring).2.1
    obtain ⟨-, -, d, hd', -, hday⟩ := hchecked.retirement started hstarted
    cases hdeadline.symm.trans hd'
    exact ⟨started, deadline, active, hstarted, hdeadline, hday, hold, ha, had.trans hd.symm, has,
      hnew⟩
  | unprovisioned => cases hslot
  | stagedInitial => cases hslot
  | active => cases hslot
  | activeWithStaged => cases hslot

/-! ## Every run -/

/-- **Row evolution is restricted and framed.**  In every state of a run, and in every
next step: a row evolves as `RowEvolution` says, a new row is staged and of the
operation's destination, and, if the destination started without tokens, the overlap of
its retiring row is bounded. -/
theorem rows_evolve {s₀ s s' : Store} {ms : List Mutation} {m : Mutation}
    {destination : DestinationID}
    (hempty : ∀ token ∈ s₀.tokens, token.destinationID ≠ destination)
    (hrun : Run MutationStep s₀ ms s) (hstep : MutationStep s m s') :
    (∀ id row, s.row? id = some row → ∃ row', s'.row? id = some row' ∧
      RowEvolution m s s' row row') ∧
    (∀ id row, s.row? id = none → s'.row? id = some row →
      row.state = .staged ∧ row.destinationID = m.destination ∧ row.audienceID = m.audience) ∧
    ∀ row ∈ s.tokens, row.destinationID = destination → row.state = .retiring →
      s.OverlapBounded row := by
  refine ⟨fun _ _ => hstep.evolution, fun id row hnone hrow => ?_,
    fun _ => (Store.Overlaps.run hempty hrun).bounded⟩
  obtain ⟨candidate, hm, rfl⟩ := hstep.inserted hnone hrow
  exact ⟨rfl, Mutation.inserted_eq hm⟩

/-- The rollback of the sample rotation: its retiring row was bounded, and its active row is
revoked in the commit that restores the other. -/
def sampleRollback : RollbackRotationCommand :=
  ⟨sampleID 1, sampleID 2, sampleID 4, sampleID 3, sampleTime 25⟩

@[inherit_doc sampleRollback]
theorem sampleRotation_rows_evolve :
    (∀ row ∈ (sampleAfter sampleRotation).tokens, row.state = .retiring →
      (sampleAfter sampleRotation).OverlapBounded row) ∧
    ∃ row row', (sampleAfter sampleRotation).row? (sampleID 4) = some row ∧ row.state = .active ∧
      row'.state = .revoked ∧ RowEvolution (.rollbackRotation sampleRollback)
        (sampleAfter sampleRotation)
        (sampleAfter (sampleRotation ++ [.rollbackRotation sampleRollback])) row row' := by
  have hempty : ∀ token ∈ (sampleStore 10).tokens, token.destinationID ≠ sampleID 2 :=
    fun _ h => absurd h List.not_mem_nil
  have hrun : Run MutationStep (sampleStore 10) sampleRotation (sampleAfter sampleRotation) :=
    run_of_commitAll (by decide +kernel)
  have hstep : MutationStep (sampleAfter sampleRotation) (.rollbackRotation sampleRollback)
      (sampleAfter (sampleRotation ++ [.rollbackRotation sampleRollback])) :=
    .inr (by decide +kernel)
  obtain ⟨hevolve, -, hbounded⟩ := rows_evolve hempty hrun hstep
  obtain ⟨row, hrow, hactive⟩ : ∃ row, (sampleAfter sampleRotation).row? (sampleID 4) = some row ∧
      row.state = .active := Option.map_eq_some_iff.mp (by decide +kernel)
  obtain ⟨row', hrow', hevolution⟩ := hevolve _ row hrow
  have hrevoked : row'.state = .revoked := by
    have hstate : ((sampleAfter (sampleRotation ++ [.rollbackRotation sampleRollback])).row?
        (sampleID 4)).map TokenRow.state = some .revoked := by decide +kernel
    rw [hrow'] at hstate
    exact Option.some.inj hstate
  refine ⟨fun row hrow => hbounded row hrow ?_, row, row', hrow, hactive, hrevoked, hevolution⟩
  exact (show ∀ row ∈ (sampleAfter sampleRotation).tokens, row.destinationID = sampleID 2 by
    decide +kernel) row hrow

end OncallGateway
