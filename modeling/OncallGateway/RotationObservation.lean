import OncallGateway.RotationAttempt
import OncallGateway.RotationParticipant
import OncallGateway.AttemptSnapshot

/-! # What an observation of a rotation says about the run

`classifyRotationSnapshot` judges an attempt by the two rows of its handle and by the
lifecycle state of the destination.  The rows do not hold the history: a rollback clears
the retirement of the old row.  `Attested` is what a verdict is meant to say about the
run that led to the store, and **a verdict of the classification is attested by the run**
(`observation_attested`), for every handle whose record was created by its
`CreateRotationStagedToken` and any other mutations before, between and after.
-/

namespace OncallGateway

/-! ## Commits within a run -/

/-- The mutation `m` commits in the run, from the state `b` to `a`. -/
def CommitsIn (first : Store) (ms : List Mutation) (last : Store) (m : Mutation) (b a : Store) :
    Prop :=
  ∃ before after, ms = before ++ m :: after ∧ Run MutationStep first before b ∧
    m.commit b = .ok a ∧ Run MutationStep a after last

/-- `m` commits in the run, and `m'` after it. -/
def CommitsInTurn (first : Store) (ms : List Mutation) (last : Store) (m : Mutation) (b a : Store)
    (m' : Mutation) (b' a' : Store) : Prop :=
  ∃ before after, ms = before ++ m' :: after ∧ CommitsIn first before b' m b a ∧
    m'.commit b' = .ok a' ∧ Run MutationStep a' after last

variable {a b first s s₁ : Store} {before ms : List Mutation} {m : Mutation}
  {attempt : DestinationTokenRotationAttemptSnapshot} {handle : DestinationTokenRotationHandle}
  {now : Time} {observation : DestinationTokenRotationObservation}
  {command : CreateRotationStagedTokenCommand}

theorem CommitsIn.of_append (hrun : Run MutationStep first before s₁)
    (h : CommitsIn s₁ ms s m b a) :
    CommitsIn first (before ++ ms) s m b a := by
  obtain ⟨before', after, rfl, hb, hcommit, ha⟩ := h
  exact ⟨before ++ before', after, (List.append_assoc ..).symm, hrun.append hb, hcommit, ha⟩

theorem CommitsIn.append {more : List Mutation} (h : CommitsIn first ms s₁ m b a)
    (hmore : Run MutationStep s₁ more s) :
    CommitsIn first (ms ++ more) s m b a := by
  obtain ⟨before, after, rfl, hb, hcommit, ha⟩ := h
  exact ⟨before, after ++ more, by simp, hb, hcommit, ha.append hmore⟩

theorem CommitsInTurn.of_append {m' : Mutation} {b' a' : Store}
    (hrun : Run MutationStep first before s₁) (h : CommitsInTurn s₁ ms s m b a m' b' a') :
    CommitsInTurn first (before ++ ms) s m b a m' b' a' := by
  obtain ⟨before', after, rfl, hm, hcommit, ha⟩ := h
  exact ⟨before ++ before', after, (List.append_assoc ..).symm, hm.of_append hrun, hcommit, ha⟩

/-! ## What a verdict is meant to say -/

/-- The new and the old record of the activation are those of the create. -/
structure ActivateRotationCommand.Of (activation : ActivateRotationCommand)
    (command : CreateRotationStagedTokenCommand) : Prop where
  destination : activation.destinationID = command.candidate.destination
  new : activation.stagedRecordID = command.candidate.recordID
  old : activation.oldActiveRecordID = command.expectedActiveRecordID

/-- The overlap deadline that an activation records. -/
def ActivateRotationCommand.recordedDeadline (activation : ActivateRotationCommand) : Time :=
  (Timestamp.ofTime activation.overlapDeadline).toTime

/-- **The run attests a verdict** on the attempt that `command` has created. -/
inductive Attested (command : CreateRotationStagedTokenCommand) (first : Store)
    (ms : List Mutation) (s : Store) : DestinationTokenRotationStatus → Prop
  /-- One commit has activated the new record and retired the old one, and they still are
  active and retiring. -/
  | live {activation : ActivateRotationCommand} {b a : Store} {new old : TokenRow}
      (activated : CommitsIn first ms s (.activateRotation activation) b a)
      (pair : activation.Of command)
      (newRow : s.row? command.candidate.recordID = some new) (newState : new.state = .active)
      (oldRow : s.row? command.expectedActiveRecordID = some old)
      (oldState : old.state = .retiring) : Attested command first ms s .activeWithRetiring
  /-- The new record was revoked by an abort while it was staged. -/
  | aborted {audience : GatewayAudienceID} {now : Time} {b a : Store} {old : TokenRow}
      (aborted : CommitsIn first ms s
        (.abortStagedToken audience command.candidate.destination command.candidate.recordID now) b a)
      (staged : b.row? command.candidate.recordID = some command.candidate.row)
      (revoked : s.row? command.candidate.recordID = some (command.candidate.row.revoked now))
      (record : old.recordID = command.expectedActiveRecordID)
      (only : s.Represents command.candidate.destination (.active old)) :
      Attested command first ms s .rolledBack
  /-- The new record was revoked by the rollback of this pair, before the deadline that was
  recorded at its activation. -/
  | rolledBack {activation : ActivateRotationCommand} {rollback : RollbackRotationCommand}
      {b a b' a' : Store} {old : TokenRow}
      (ended : CommitsInTurn first ms s (.activateRotation activation) b a
        (.rollbackRotation rollback) b' a')
      (pair : activation.Of command)
      (destination : rollback.destinationID = command.candidate.destination)
      (newRecord : rollback.newActiveRecordID = command.candidate.recordID)
      (oldRecord : rollback.oldRetiringRecordID = command.expectedActiveRecordID)
      (inTime : rollback.now < activation.recordedDeadline)
      (revoked : s.row? command.candidate.recordID =
        some ((command.candidate.row.activated activation.now).revoked rollback.now))
      (record : old.recordID = command.expectedActiveRecordID)
      (only : s.Represents command.candidate.destination (.active old)) :
      Attested command first ms s .rolledBack
  /-- The old record was revoked by a finalization at or after that deadline. -/
  | completed {activation : ActivateRotationCommand} {finalization : FinalizeRotationCommand}
      {b a b' a' : Store} {new oldActive : TokenRow}
      (ended : CommitsInTurn first ms s (.activateRotation activation) b a
        (.finalizeRotation finalization) b' a')
      (pair : activation.Of command)
      (destination : finalization.destinationID = command.candidate.destination)
      (newRecord : finalization.newActiveRecordID = command.candidate.recordID)
      (oldRecord : finalization.oldRetiringRecordID = command.expectedActiveRecordID)
      (elapsed : activation.recordedDeadline ≤ finalization.now)
      (revoked : s.row? command.expectedActiveRecordID = some
        ((oldActive.retired activation.now activation.overlapDeadline).revoked finalization.now))
      (record : new.recordID = command.candidate.recordID)
      (only : s.Represents command.candidate.destination (.active new)) :
      Attested command first ms s .completed

/-! ## What the classification has looked at -/

/-- The live tokens that a verdict rests on. -/
theorem classifyRotationSnapshot_ok
    (h : classifyRotationSnapshot attempt handle now = .ok observation) :
    (∃ active retiring, attempt.lifecycle.staged = none ∧ attempt.lifecycle.active = some active ∧
      attempt.lifecycle.retiring = some retiring ∧ active.recordID = handle.newActiveRecordID ∧
      retiring.recordID = handle.oldRetiringRecordID ∧
      observation = ⟨.activeWithRetiring, .unknown, now, retiring.retirementDeadline⟩) ∨
    ∃ active, attempt.lifecycle.staged = none ∧ attempt.lifecycle.active = some active ∧
      attempt.lifecycle.retiring = none ∧
      (active.recordID = handle.oldRetiringRecordID ∧
        ExactRolledBackAttempt attempt.newToken attempt.oldToken now ∧
        observation = ⟨.rolledBack, .unknown, 0, 0⟩ ∨
      active.recordID = handle.newActiveRecordID ∧
        ExactCompletedAttempt attempt.newToken attempt.oldToken now ∧
        observation = ⟨.completed, .unknown, 0, 0⟩) := by
  unfold classifyRotationSnapshot at h
  dsimp only at h
  split at h
  · cases h
  split at h
  · cases h
  split at h
  · rename_i live hlive
    cases h
    unfold liveAttempt? at hlive
    split at hlive
    · rename_i active retiring hs ha hr
      split at hlive
      · rename_i hcond
        cases hlive
        exact Or.inl ⟨active, retiring, hs, ha, hr, hcond.1, hcond.2.1, rfl⟩
      · cases hlive
    · cases hlive
  split at h
  · cases h
  split at h
  · rename_i ended hended
    cases h
    unfold endedAttempt? at hended
    split at hended
    · rename_i active hs ha hr
      refine Or.inr ⟨active, hs, ha, hr, ?_⟩
      split_ifs at hended with hstatus hold hrolled hnew hcompleted
      · cases hended
        exact Or.inl ⟨hold, hrolled.2, rfl⟩
      · cases hended
        exact Or.inr ⟨hnew, hcompleted.2, rfl⟩
    · cases hended
  · split at h <;> cases h

/-! ## The rows at the end of an attempt -/

namespace RotationAttempt
variable {x : RotationAttempt}
variable {audience : GatewayAudienceID}

/-- After an abort, the record stays revoked. -/
theorem row?_of_aborted (prepared : b.Represents x.destination x.prepared)
    (commit : (Mutation.abortStagedToken audience x.destination x.staged.recordID now).commit b =
      .ok a) (later : Run MutationStep a ms s) :
    s.row? x.staged.recordID = some (x.staged.revoked now) := by
  obtain ⟨staged, hrow, -, hrows⟩ := Mutation.abortStagedToken_ok commit
  rw [((prepared .staged x.staged).mp rfl).2.1, Option.some.injEq] at hrow
  subst hrow
  exact revoked_of_run later ((hrows _).trans (if_pos rfl)) rfl

/-- An abort comes after the creation, and leaves the old token as the only one. -/
theorem active_of_aborted (prepared : b.Represents x.destination x.prepared)
    (commit : (Mutation.abortStagedToken audience x.destination x.staged.recordID now).commit b =
      .ok a) :
    x.staged.stateChangedAt.toTime ≤ now ∧ a.Represents x.destination (.active x.active) := by
  obtain ⟨row, tokens', rows, hc⟩ := prepared.committed commit rfl
  have hafter := hc.after
  have htransition := hc.transition
  generalize hm : Mutation.abortStagedToken audience x.destination x.staged.recordID now = m
    at htransition
  cases htransition with
  | activateRotation => cases hm
  | abortRotation changed =>
    cases hm
    exact ⟨changed, hafter⟩

variable {activation : ActivateRotationCommand}

/-- After a rollback, the new record stays revoked; it came in time. -/
theorem row?_of_rolledBack {rollback : RollbackRotationCommand}
    (live : b.Represents x.destination (x.replaced activation))
    (hd : rollback.destinationID = x.destination)
    (commit : (Mutation.rollbackRotation rollback).commit b = .ok a)
    (later : Run MutationStep a ms s) :
    s.row? x.staged.recordID = some ((x.staged.activated activation.now).revoked rollback.now) ∧
      rollback.now < activation.recordedDeadline := by
  obtain ⟨row, tokens', rows, hc⟩ := live.committed commit hd
  have hwrites := hc.writes
  cases hc.transition with
  | rollbackRotation newRecord oldRecord distinct changed newExpiry oldExpiry before =>
    refine ⟨revoked_of_run later ?_ rfl, before⟩
    rw [hwrites.row?]
    simp [Keyed.lookup]

/-- After a finalization, the old record stays revoked. -/
theorem row?_of_finalized {finalization : FinalizeRotationCommand}
    (live : b.Represents x.destination (x.replaced activation))
    (hd : finalization.destinationID = x.destination)
    (commit : (Mutation.finalizeRotation finalization).commit b = .ok a)
    (later : Run MutationStep a ms s) :
    s.row? x.active.recordID = some ((x.active.retired activation.now
      activation.overlapDeadline).revoked finalization.now) := by
  obtain ⟨row, tokens', rows, hc⟩ := live.committed commit hd
  have hwrites := hc.writes
  cases hc.transition with
  | finalizeRotation =>
    refine revoked_of_run later ?_ rfl
    rw [hwrites.row?_single]
    simp

/-- When the records are found active and retiring, the attempt is rotating. -/
theorem Phase.live_of_pair {new old : TokenRow} (h : x.Phase first ms s)
    (hrep : s.Represents x.destination (.activeWithRetiring new old))
    (hnew : new.recordID = x.staged.recordID) (hold : old.recordID = x.active.recordID) :
    ∃ before after activation b a, ms = before ++ .activateRotation activation :: after ∧
      x.Activated first before activation b a ∧ Run MutationStep a after s ∧
      s.Represents x.destination (x.replaced activation) := by
  obtain ⟨-, hnrow, -, hnst⟩ := (hrep .active new).mp rfl
  obtain ⟨-, horow, -, host⟩ := (hrep .retiring old).mp rfl
  rw [hnew] at hnrow
  rw [hold] at horow
  cases h with
  | staged run prepared => cases hrep.unique prepared
  | aborted run prepared commit later =>
    rw [row?_of_aborted prepared commit later, Option.some.injEq] at hnrow
    rw [← hnrow] at hnst
    cases hnst
  | rotating activated later live => exact ⟨_, _, _, _, _, rfl, activated, later, live⟩
  | rolledBack activated between live hd newRecord oldRecord commit later =>
    rw [(row?_of_rolledBack live hd commit later).1, Option.some.injEq] at hnrow
    rw [← hnrow] at hnst
    cases hnst
  | finalized activated between live hd newRecord oldRecord commit later =>
    rw [row?_of_finalized live hd commit later, Option.some.injEq] at horow
    rw [← horow] at host
    cases host

end RotationAttempt

/-! ## Verdicts are attested -/

/-- The live tokens of the store that a verdict rests on. -/
theorem Store.Attempt.verdict_cases
    (hattempt : s.Attempt handle.audienceID handle.destination handle.newActiveRecordID
      handle.oldRetiringRecordID now attempt)
    (h : classifyRotationSnapshot attempt handle now = .ok observation) :
    (∃ new old, s.Represents handle.destination (.activeWithRetiring new old) ∧
      new.recordID = handle.newActiveRecordID ∧ old.recordID = handle.oldRetiringRecordID ∧
      observation.status = .activeWithRetiring) ∨
    (∃ old, s.Represents handle.destination (.active old) ∧
      old.recordID = handle.oldRetiringRecordID ∧ observation.status = .rolledBack) ∨
    ∃ new old, s.Represents handle.destination (.active new) ∧
      new.recordID = handle.newActiveRecordID ∧ observation.status = .completed ∧
      s.row? handle.oldRetiringRecordID = some old ∧
      old.view.retirementDeadline ≤ old.view.revokedAt := by
  obtain ⟨destination, hload, -, old, -, hold, -, hview, -⟩ := hattempt.rows
  obtain ⟨row, tokens, hl⟩ := Store.loadState_ok hload
  have hrep := hl.represents
  rcases classifyRotationSnapshot_ok h with
    ⟨active, retiring, -, ha, hr, hnew, hret, rfl⟩ | ⟨active, hs, ha, hr, hend⟩
  · obtain ⟨new, hslot, rfl⟩ := hl.exists_slot .active ha
    obtain ⟨old, hslot', rfl⟩ := hl.exists_slot .retiring hr
    have htokens : tokens = .activeWithRetiring new old := by
      cases tokens <;> simp_all [LiveTokens.slot]
    exact Or.inl ⟨new, old, htokens ▸ hrep, hnew, hret, rfl⟩
  · obtain ⟨live, hslot, rfl⟩ := hl.exists_slot .active ha
    have hs' := hl.isNone_slot .staged hs
    have hr' := hl.isNone_slot .retiring hr
    have htokens : tokens = .active live := by
      cases tokens <;> simp_all [LiveTokens.slot]
    rcases hend with ⟨hid, -, rfl⟩ | ⟨hid, hexact, rfl⟩
    · exact Or.inr (Or.inl ⟨live, htokens ▸ hrep, hid, rfl⟩)
    · have hdeadline := hexact.2.2.2.2.2.2.2.2.2.1
      exact Or.inr (Or.inr ⟨live, old, htokens ▸ hrep, hid, rfl, hold, hview ▸ hdeadline⟩)

/-- In the phase the run is in, a verdict on the attempt is attested. -/
theorem RotationAttempt.Phase.attested {active : TokenRow}
    (hphase : RotationAttempt.Phase ⟨command.candidate.row, active⟩ first ms s)
    (hactive : active.recordID = command.expectedActiveRecordID)
    (hdest : handle.destination = command.candidate.destination)
    (hnew : handle.newActiveRecordID = command.candidate.recordID)
    (hold : handle.oldRetiringRecordID = command.expectedActiveRecordID)
    (hattempt : s.Attempt handle.audienceID handle.destination handle.newActiveRecordID
      handle.oldRetiringRecordID now attempt)
    (h : classifyRotationSnapshot attempt handle now = .ok observation) :
    Attested command first ms s observation.status := by
  have hverdict := hattempt.verdict_cases h
  rw [hdest, hnew, hold] at hverdict
  -- a live row of the destination is not revoked
  have hlive : ∀ state {tokens : LiveTokens} {row : TokenRow} {id revoked},
      s.Represents command.candidate.destination tokens → tokens.slot state = some row →
      s.row? id = some revoked → revoked.state = .revoked → row.recordID ≠ id := by
    rintro state tokens row _ revoked hrep hslot hrow hst rfl
    obtain ⟨hne, hrow', -, rfl⟩ := (hrep _ _).mp hslot
    rw [hrow, Option.some.injEq] at hrow'
    exact hne (hrow' ▸ hst)
  cases hphase with
  | staged run prepared =>
    rcases hverdict with ⟨_, _, hrep, -⟩ | ⟨_, hrep, -⟩ | ⟨_, _, hrep, -⟩ <;>
      cases hrep.unique prepared
  | aborted run prepared commit later =>
    have hrevoked := row?_of_aborted prepared commit later
    rcases hverdict with ⟨new, old, hrep, hn, -⟩ | ⟨old, hrep, ho, hst⟩ | ⟨new, old, hrep, hn, -⟩
    · exact absurd hn (hlive .active hrep rfl hrevoked rfl)
    · exact hst ▸ .aborted ⟨_, _, rfl, run, commit, later⟩ ((prepared .staged _).mp rfl).2.1 hrevoked
        ho hrep
    · exact absurd hn (hlive .active hrep rfl hrevoked rfl)
  | rotating activated later live =>
    rcases hverdict with ⟨new, old, hrep, hn, ho, hst⟩ | ⟨_, hrep, -⟩ | ⟨_, _, hrep, -⟩
    · obtain ⟨-, hnrow, -, hnst⟩ := (hrep .active new).mp rfl
      obtain ⟨-, horow, -, host⟩ := (hrep .retiring old).mp rfl
      exact hst ▸ .live ⟨_, _, rfl, activated.run, activated.commit, later⟩
        ⟨activated.destination, activated.new, activated.old.trans hactive⟩ (hn ▸ hnrow) hnst
        (ho ▸ horow) host
    · cases hrep.unique live
    · cases hrep.unique live
  | rolledBack activated between live hd new old commit later =>
    obtain ⟨hrevoked, inTime⟩ := row?_of_rolledBack live hd commit later
    rcases hverdict with ⟨_, _, hrep, hn, -⟩ | ⟨_, hrep, ho, hst⟩ | ⟨_, _, hrep, hn, -⟩
    · exact absurd hn (hlive .active hrep rfl hrevoked rfl)
    · exact hst ▸ .rolledBack
        ⟨_, _, (List.append_assoc _ (_ :: _) (_ :: _)).symm,
          ⟨_, _, rfl, activated.run, activated.commit, between⟩, commit, later⟩
        ⟨activated.destination, activated.new, activated.old.trans hactive⟩ hd new
        (old.trans hactive) inTime hrevoked ho hrep
    · exact absurd hn (hlive .active hrep rfl hrevoked rfl)
  | finalized activated between live hd new old commit later =>
    have hrevoked := row?_of_finalized live hd commit later
    rcases hverdict with ⟨new, old, hrep, -, ho, -⟩ | ⟨old, hrep, ho, -⟩ |
      ⟨_, oldRow, hrep, hn, hst, holdRow, hdeadline⟩
    · exact absurd (ho.trans hactive.symm) (hlive .retiring hrep rfl hrevoked rfl)
    · exact absurd (ho.trans hactive.symm) (hlive .active hrep rfl hrevoked rfl)
    · rw [← hactive, hrevoked, Option.some.injEq] at holdRow
      subst holdRow
      exact hst ▸ .completed
        ⟨_, _, (List.append_assoc _ (_ :: _) (_ :: _)).symm,
          ⟨_, _, rfl, activated.run, activated.commit, between⟩, commit, later⟩
        ⟨activated.destination, activated.new, activated.old.trans hactive⟩ hd new
        (old.trans hactive) (hdeadline.trans (Timestamp.toTime_ofTime_le _)) (hactive ▸ hrevoked) hn
        hrep

/-- The same, seen from the start of a longer run. -/
theorem Attested.of_append {status : DestinationTokenRotationStatus}
    (hrun : Run MutationStep first before s₁) (h : Attested command s₁ ms s status) :
    Attested command first (before ++ ms) s status := by
  cases h with
  | live activated => exact .live (activated.of_append hrun) ‹_› ‹_› ‹_› ‹_› ‹_›
  | aborted aborted => exact .aborted (aborted.of_append hrun) ‹_› ‹_› ‹_› ‹_›
  | rolledBack ended pair hd hn ho inTime revoked record only =>
    exact .rolledBack (ended.of_append hrun) pair hd hn ho inTime revoked record only
  | completed ended pair hd hn ho elapsed revoked record only =>
    exact .completed (ended.of_append hrun) pair hd hn ho elapsed revoked record only

/-- The verdict on an attempt of the store is attested by the run, if the record of the
handle is in the store only if it was created in the run. -/
theorem Store.Attempt.attested {s₀ : Store}
    (hfound : s.Attempt handle.audienceID handle.destination handle.newActiveRecordID
      handle.oldRetiringRecordID now attempt) (hrun : Run MutationStep s₀ ms s)
    (hcreated : (∃ b a, CommitsIn s₀ ms s (.createRotationStagedToken command) b a) ∨
      s.row? command.candidate.recordID = none)
    (hdest : handle.destination = command.candidate.destination)
    (hnew : handle.newActiveRecordID = command.candidate.recordID)
    (hold : handle.oldRetiringRecordID = command.expectedActiveRecordID)
    (h : classifyRotationSnapshot attempt handle now = .ok observation) :
    Attested command s₀ ms s observation.status := by
  rcases hcreated with ⟨b, a, before, after, rfl, hbefore, hcreate, hafter⟩ | hnone
  · obtain ⟨active, -, -, hid, hrep⟩ := Store.Represents.of_createRotationStagedToken hcreate
    have hphase : RotationAttempt.Phase ⟨command.candidate.row, active⟩ a after s :=
      RotationAttempt.phase_of_run hrep hafter
    have hattested := hphase.attested hid hdest hnew hold hfound h
    have := hattested.of_append (hbefore.append (.single (Or.inr hcreate)))
    rwa [List.append_assoc] at this
  · obtain ⟨-, -, ⟨row, -, hrow, -⟩, -⟩ := hfound.rows
    rw [hnew, hnone] at hrow
    cases hrow

/-- **Rotation observation is sound.**  The handle is that of a `BeginRotation` call: its
record is in the store only if the create of that call has committed.  Then every verdict
of the classification on the attempt snapshot of the store is attested by the run,
whatever other mutations it holds and at whatever time the inspection is made. -/
theorem observation_attested {command : CreateRotationStagedTokenCommand} {s₀ s : Store}
    {ms : List Mutation} {handle : DestinationTokenRotationHandle} {now : Time}
    {attempt : DestinationTokenRotationAttemptSnapshot}
    {observation : DestinationTokenRotationObservation} (hrun : Run MutationStep s₀ ms s)
    (hcreated : (∃ b a, CommitsIn s₀ ms s (.createRotationStagedToken command) b a) ∨
      s.row? command.candidate.recordID = none)
    (hdest : handle.destination = command.candidate.destination)
    (hnew : handle.newActiveRecordID = command.candidate.recordID)
    (hold : handle.oldRetiringRecordID = command.expectedActiveRecordID)
    (hattempt : s.inspectRotationAttempt handle.audienceID handle.destination
      handle.newActiveRecordID handle.oldRetiringRecordID now = .ok (.ok attempt))
    (h : classifyRotationSnapshot attempt handle now = .ok observation) :
    Attested command s₀ ms s observation.status :=
  (Store.inspectRotationAttempt_eq_ok.mp hattempt).attested hrun hcreated hdest hnew hold h

/-- The handle of the sample rotation. -/
def sampleHandle : DestinationTokenRotationHandle :=
  ⟨sampleID 1, sampleID 2, sampleID 4, sampleID 3⟩

/-- The sample rotation is observed, and its observation attested, at a time in its
overlap. -/
theorem sampleRotation_attested : ∃ s,
    commitAll sampleRotation (sampleStore 10) = .ok s ∧
    Attested ⟨sampleCandidate 4 (sampleTime 22), sampleID 3, sampleTime 22⟩ (sampleStore 10)
      sampleRotation s .activeWithRetiring := by
  obtain ⟨s, hs, hobserved⟩ := Except.exists_of_toOption_map
    (show (commitAll sampleRotation (sampleStore 10)).toOption.map (fun s =>
      (s.inspectRotationAttempt sampleHandle.audienceID sampleHandle.destination
        sampleHandle.newActiveRecordID sampleHandle.oldRetiringRecordID
        (sampleTime 25)).toOption.bind Except.toOption |>.bind fun attempt =>
          (classifyRotationSnapshot attempt sampleHandle (sampleTime 25)).toOption.map
            DestinationTokenRotationObservation.status) = some (some .activeWithRetiring) by
      decide +kernel)
  obtain ⟨attempt, hattempt, hobserved⟩ := Option.bind_eq_some_iff.mp hobserved
  obtain ⟨inspected, hinspected, hattempt⟩ := Option.bind_eq_some_iff.mp hattempt
  obtain rfl := Except.eq_ok_of_toOption hattempt
  obtain ⟨observation, hobservation, hstatus⟩ := Option.map_eq_some_iff.mp hobserved
  obtain ⟨a, ha, hactivate⟩ := @commitAll_snoc (sampleRotation.take 3) _ _ _ hs
  obtain ⟨b, hb, hcreate⟩ := @commitAll_snoc (sampleRotation.take 2) _ _ _ ha
  exact ⟨s, hs, hstatus ▸ observation_attested (run_of_commitAll hs)
    (Or.inl ⟨b, a, sampleRotation.take 2, sampleRotation.drop 3, rfl, run_of_commitAll hb, hcreate,
      .single (Or.inr hactivate)⟩) rfl rfl rfl (Except.eq_ok_of_toOption hinspected)
    (Except.eq_ok_of_toOption hobservation)⟩

end OncallGateway
