import OncallGateway.BeginRotation
import OncallGateway.RotationObservation

/-! # Every committed rotation can be observed

After a mutation of a handle's pair has committed, and as long as nothing else commits on
the destination, the inspection of the attempt succeeds and the classification recognises
what was done: the pair is live, rolled back or completed.  The predicates of
`classifyRotationSnapshot` are a conjunction of some twenty comparisons; each of them
follows from a guard of the create (`RotationAttempt.Fits`), of the activation
(`ActivateRotationCommand.Fits`) or of the last mutation, or from a constraint of the
table, and survives the rounding of the stored times.
-/

namespace OncallGateway

/-! ## The attempt of a sound store -/

variable {destination : DestinationRow} {s : Store}

/-- The attempt is inspected, and shows the two rows. -/
theorem Store.Sound.attempt_exists {t : Time} {new old : TokenRow} (h : s.Sound destination)
    (hc : destination.createdAt.micros ≠ 0) (hs : destination.stateChangedAt.micros ≠ 0)
    (ht : t ≠ 0) (hst : destination.stateChangedAt.toTime ≤ t)
    (hnew : s.row? new.recordID = some new) (hold : s.row? old.recordID = some old)
    (hne : new.recordID ≠ old.recordID) (hnd : new.destinationID = destination.destinationID)
    (hod : old.destinationID = destination.destinationID)
    (hnt : new.createdAt.toTime ≤ t ∧ new.stateChangedAt.toTime ≤ t)
    (hot : old.createdAt.toTime ≤ t ∧ old.stateChangedAt.toTime ≤ t) :
    ∃ lifecycle, s.inspectRotationAttempt destination.audienceID destination.destinationID
        new.recordID old.recordID t = .ok (.ok ⟨lifecycle, new.view, old.view⟩) ∧
      s.loadState destination.audienceID destination.destinationID t =
        .ok ⟨destination.value, lifecycle⟩ := by
  obtain ⟨tokens, hrep, hpair⟩ := h.shape
  have hmem := Keyed.mem_of_lookup h.row
  obtain ⟨state, hload⟩ := h.loadable.load hc hs t ht hst
  obtain ⟨row, tokens, hl⟩ := Store.loadState_ok hload
  have hrow : destination = row := Option.some.inj (h.row.symm.trans hl.destination)
  have hvalue : state.destination = destination.value := hrow ▸ hl.value
  obtain ⟨value, lifecycle⟩ := state
  obtain rfl : value = destination.value := hvalue
  obtain ⟨newToken, hnt'⟩ := h.readable (Store.mem_of_row? hnew) hnd
  obtain ⟨oldToken, hot'⟩ := h.readable (Store.mem_of_row? hold) hod
  refine ⟨lifecycle, Store.inspectRotationAttempt_eq_ok.mpr ⟨?_, ?_, destination.value, hload, ?_, ?_⟩,
    hload⟩
  · rintro (hz | hz | hz)
    · exact s.destinationsValid.audience _ hmem hz
    · exact s.destinationsValid.id _ hmem hz
    · exact ht hz
  · rintro (hz | hz | hz)
    · exact (Store.checked (Store.mem_of_row? hnew)).record hz
    · exact (Store.checked (Store.mem_of_row? hold)).record hz
    · exact hne hz
  · exact ⟨new, newToken, hnew, hnt', rfl, hnt⟩
  · exact ⟨old, oldToken, hold, hot', rfl, hot⟩

/-! ## The verdicts on loaded tokens -/

section
variable {handle : DestinationTokenRotationHandle} {t : Time} {row : DestinationRow}
  {destination : Destination} {lifecycle : DestinationLifecycleSnapshot} {new old : TokenRow}

/-- The classification of the attempt of an enabled destination. -/
theorem Loaded.classify_eq {tokens : LiveTokens}
    (hl : Loaded s handle.audienceID handle.destination t row tokens ⟨destination, lifecycle⟩)
    (henabled : row.state = .enabled) (hnew : new.recordID = handle.newActiveRecordID)
    (hold : old.recordID = handle.oldRetiringRecordID) :
    classifyRotationSnapshot ⟨lifecycle, new.view, old.view⟩ handle t =
      match liveAttempt? lifecycle handle new.view old.view t with
      | some observation => .ok observation
      | none =>
        if PreparedAttempt lifecycle handle new.view old.view then
          .error .errDestinationTokenRotationReconciliation
        else match endedAttempt? lifecycle handle new.view old.view t with
          | some observation => .ok observation
          | none =>
            if lifecycle.status = .reconciliationRequired then
              .error .errDestinationTokenRotationReconciliation
            else .error .errDestinationTokenRotationConflict := by
  have haud : lifecycle.audienceID = handle.audienceID := hl.snapshotAudience
  have hdest : lifecycle.destinationID = handle.destination := hl.snapshotDestination
  have hen : lifecycle.destinationEnabled = true := by
    rw [show lifecycle.destinationEnabled = _ from hl.snapshotEnabled, henabled]
    rfl
  have hnv : new.view.recordID = handle.newActiveRecordID := hnew
  have hov : old.view.recordID = handle.oldRetiringRecordID := hold
  -- the attempt is of the handle's destination and of its records
  have hplace : ¬ (lifecycle.audienceID ≠ handle.audienceID ∨
      lifecycle.destinationID ≠ handle.destination ∨ lifecycle.destinationEnabled = false) := by
    simp [haud, hdest, hen]
  have hrecords : ¬ (new.view.recordID ≠ handle.newActiveRecordID ∨
      old.view.recordID ≠ handle.oldRetiringRecordID) := by
    simp [hnv, hov]
  exact (if_neg hplace).trans (if_neg hrecords)

/-- A live pair is recognised, before its deadline and after it. -/
theorem Loaded.classify_live
    (hl : Loaded s handle.audienceID handle.destination t row (.activeWithRetiring new old)
      ⟨destination, lifecycle⟩)
    (henabled : row.state = .enabled) (hnew : new.recordID = handle.newActiveRecordID)
    (hold : old.recordID = handle.oldRetiringRecordID)
    (hvalid : ValidRotationPairViews new.view old.view t)
    (hcreated : new.view.createdAt ≤ t ∧ old.view.createdAt ≤ t) :
    classifyRotationSnapshot ⟨lifecycle, new.view, old.view⟩ handle t =
      .ok ⟨.activeWithRetiring, .unknown, t, old.view.retirementDeadline⟩ := by
  have hs : lifecycle.staged = none := hl.slots .staged
  have ha : lifecycle.active = some new.view := hl.slots .active
  have hr : lifecycle.retiring = some old.view := hl.slots .retiring
  have hstatus : lifecycle.status = .activeWithRetiring ∨
      lifecycle.status = .reconciliationRequired ∧ ¬ t < old.view.retirementDeadline := by
    by_cases hrec : lifecycle.status = .reconciliationRequired
    · refine Or.inr ⟨hrec, fun hlt => ?_⟩
      refine hl.inDate.mpr ⟨henabled, fun token ht => ?_⟩ hrec
      obtain ⟨hns, hos, -, -, -, -, hexp, hna, hnc, hoa, -, hoc, -, -, -, -, -, hdeadline⟩ := hvalid
      simp only [LiveTokens.rows, List.mem_cons, List.not_mem_nil, or_false] at ht
      rcases ht with rfl | rfl
      · unfold LifecycleTokenView.InDate
        rw [hns]
        exact ⟨hcreated.1, hnc, hna, hexp⟩
      · unfold LifecycleTokenView.InDate
        rw [hos]
        exact ⟨hcreated.2, hoc, hoa, hlt.trans hdeadline, hlt⟩
    · have hslots := hl.status
      cases h : lifecycle.status <;> simp_all [DestinationLifecycleStatus.Slots]
  have hlive : liveAttempt? lifecycle handle new.view old.view t =
      some ⟨.activeWithRetiring, .unknown, t, old.view.retirementDeadline⟩ := by
    simp only [liveAttempt?, hs, ha, hr]
    exact if_pos ⟨hnew, hold, viewsEqual_iff.mpr rfl, viewsEqual_iff.mpr rfl, hvalid, hstatus⟩
  rw [hl.classify_eq henabled hnew hold, hlive]

/-- The only live token is judged by the exact history of the two records. -/
theorem Loaded.classify_ended {live : TokenRow}
    (hl : Loaded s handle.audienceID handle.destination t row (.active live)
      ⟨destination, lifecycle⟩)
    (henabled : row.state = .enabled) (hnew : new.recordID = handle.newActiveRecordID)
    (hold : old.recordID = handle.oldRetiringRecordID)
    (hinDate : live.view.InDate t) (hstate : live.state = .active) {status}
    (hverdict : live = old ∧ ExactRolledBackAttempt new.view old.view t ∧ status = .rolledBack ∨
      live = new ∧ old.recordID ≠ new.recordID ∧ ExactCompletedAttempt new.view old.view t ∧
        status = .completed) :
    classifyRotationSnapshot ⟨lifecycle, new.view, old.view⟩ handle t =
      .ok ⟨status, .unknown, 0, 0⟩ := by
  have hs : lifecycle.staged = none := hl.slots .staged
  have ha : lifecycle.active = some live.view := hl.slots .active
  have hr : lifecycle.retiring = none := hl.slots .retiring
  have hstatus : lifecycle.status = .active := by
    have hrec : lifecycle.status ≠ .reconciliationRequired :=
      hl.inDate.mpr ⟨henabled, fun token ht => by
        rw [List.mem_singleton.mp ht]
        exact hinDate⟩
    have hslots := hl.status
    cases h : lifecycle.status <;> simp_all [DestinationLifecycleStatus.Slots]
  have hlive : liveAttempt? lifecycle handle new.view old.view t = none := by
    simp [liveAttempt?, hs, ha, hr]
  have hprepared : ¬ PreparedAttempt lifecycle handle new.view old.view := by
    simp [PreparedAttempt, hs]
  have hin : live.view.activatedAt ≤ t ∧ t < live.view.expiresAt := by
    have := hinDate.2.2
    rwa [show live.view.state = .active from hstate] at this
  have hended : endedAttempt? lifecycle handle new.view old.view t =
      some ⟨status, .unknown, 0, 0⟩ := by
    simp only [endedAttempt?, hs, ha, hr]
    rw [if_pos ⟨hstatus, hstate, hin.2, hin.1, hinDate.2.1⟩]
    rcases hverdict with ⟨rfl, hexact, rfl⟩ | ⟨rfl, hne, hexact, rfl⟩
    · rw [if_pos (show live.view.recordID = _ from hold), if_pos ⟨viewsEqual_iff.mpr rfl, hexact⟩]
    · rw [if_neg (show live.view.recordID ≠ _ from fun h => hne (hold.trans h.symm)),
        if_pos (show live.view.recordID = _ from hnew), if_pos ⟨viewsEqual_iff.mpr rfl, hexact⟩]
  rw [hl.classify_eq henabled hnew hold, hlive]
  dsimp only
  rw [if_neg hprepared, hended]

end

/-! ## What the guards have checked -/

/-- What the create has checked of the old token; the candidate's row is new. -/
structure RotationAttempt.Fits (x : RotationAttempt) : Prop where
  activated : ∃ t, x.active.activatedAt = some t ∧ t ≤ x.staged.createdAt
  changed : x.active.stateChangedAt ≤ x.staged.createdAt
  state : x.active.state = .active
  unretired : x.active.retirementStartedAt = none ∧ x.active.retirementOverlapDeadline = none
  unrevoked : x.active.revokedAt = none
  new : x.staged.activatedAt = none ∧ x.staged.retirementStartedAt = none ∧
    x.staged.retirementOverlapDeadline = none ∧ x.staged.stateChangedAt = x.staged.createdAt

/-- What the activation has checked of the pair. -/
structure ActivateRotationCommand.Fits (activation : ActivateRotationCommand)
    (x : RotationAttempt) : Prop where
  activated : ∀ t, x.active.activatedAt = some t → t ≤ .ofTime activation.now
  cleanup : Timestamp.ofTime activation.now < x.staged.stagedCleanupDeadline
  newExpiry : Timestamp.ofTime activation.overlapDeadline < x.staged.expiresAt
  oldExpiry : Timestamp.ofTime activation.overlapDeadline < x.active.expiresAt
  overlap : Timestamp.ofTime activation.now < .ofTime activation.overlapDeadline
  bound : (Timestamp.ofTime activation.overlapDeadline).micros -
    (Timestamp.ofTime activation.now).micros ≤ day / 1000

/-- The attempt that a create has begun, as far as it was checked. -/
theorem RotationAttempt.fits_of_create {command : CreateRotationStagedTokenCommand} {s' : Store}
    {active : TokenRow} (h : (Mutation.createRotationStagedToken command).commit s = .ok s')
    (hrep : s'.Represents command.candidate.destination
      (.activeWithStaged active command.candidate.row)) :
    RotationAttempt.Fits ⟨command.candidate.row, active⟩ := by
  obtain ⟨row, tokens, tokens', rows, hc⟩ := Mutation.commit_ok h
  have hafter := hc.after
  have hbefore := hc.represents
  cases hc.transition with
  | @createRotationStagedToken _ old valid created fresh expected inDate =>
    cases hafter.unique hrep
    obtain ⟨-, hrow, -, hst⟩ := (hbefore .active active).mp rfl
    have hchecked := Store.checked (Store.mem_of_row? hrow)
    obtain ⟨hsome, hret, hrev⟩ := hchecked.active hst
    obtain ⟨t, ht⟩ := Option.isSome_iff_exists.mp hsome
    obtain ⟨-, hchanged, hinDate⟩ := inDate
    rw [show active.view.state = .active from hst] at hinDate
    have hact : t.toTime ≤ command.now := by simpa [TokenRow.view, ht] using hinDate.1
    refine ⟨⟨t, ht, ?_⟩, ?_, hst, ⟨hret, hchecked.noRetirement hret⟩, hrev, rfl, rfl, rfl, rfl⟩
    · exact Timestamp.le_ofTime.mpr (created ▸ hact)
    · exact Timestamp.le_ofTime.mpr (created ▸ hchanged)

theorem RotationAttempt.Activated.fits {x : RotationAttempt} {first b a : Store}
    {before : List Mutation} {activation : ActivateRotationCommand}
    (h : x.Activated first before activation b a) : activation.Fits x := by
  obtain ⟨row, tokens', rows, hc⟩ := h.prepared.committed h.commit h.destination
  obtain ⟨-, hretired, -, -⟩ := (h.replaced .retiring
    (x.active.retired activation.now activation.overlapDeadline)).mp rfl
  obtain ⟨-, -, -, hst⟩ := (h.prepared .staged x.staged).mp rfl
  obtain ⟨-, -, -, hat⟩ := (h.prepared .active x.active).mp rfl
  -- that the overlap is positive in whole microseconds is a constraint of the table
  obtain ⟨-, -, d, hd, hoverlap, -⟩ :=
    (Store.checked (Store.mem_of_row? hretired)).retirement _ rfl
  cases hc.transition with
  | activateRotation newRecord oldRecord distinct newInDate oldInDate overlap bound newExpiry
      oldExpiry =>
    obtain ⟨-, -, hnew⟩ := newInDate
    obtain ⟨-, -, hold⟩ := oldInDate
    rw [show x.staged.view.state = .staged from hst] at hnew
    rw [show x.active.view.state = .active from hat] at hold
    refine ⟨fun t ht => ?_, Timestamp.ofTime_lt.mpr hnew.2, Timestamp.ofTime_lt.mpr newExpiry,
      Timestamp.ofTime_lt.mpr oldExpiry, ?_, ?_⟩
    · refine Timestamp.le_ofTime.mpr ?_
      simpa [TokenRow.view, ht] using hold.1
    · cases hd
      exact hoverlap
    · have hday : tokenMaxOverlap = day := rfl
      rw [hday, Time.sub_le (by simp [day_eq]) (by simp [day_eq])] at bound
      simp only [Timestamp.ofTime_micros, day_eq] at bound ⊢
      omega

/-! ## The predicates of the classification hold -/

section
variable {x : RotationAttempt} {activation : ActivateRotationCommand} {t u : Time}

theorem validActivatedRotationHistory_of_fits (hx : x.Fits) (ha : activation.Fits x) :
    ValidActivatedRotationHistory (x.staged.activated activation.now).view x.active.view := by
  obtain ⟨v, hv, hle⟩ := hx.activated
  simp only [ValidActivatedRotationHistory, TokenRow.view, hv, Change.apply, optionalTime_some,
    Timestamp.toTime_le, Timestamp.toTime_lt]
  exact ⟨hle, ha.activated v hv, ha.cleanup⟩

theorem validRotationPairViews_of_fits (hx : x.Fits) (ha : activation.Fits x)
    (hnew : (x.staged.activated activation.now).TimesPresent)
    (hold : (x.active.retired activation.now activation.overlapDeadline).TimesPresent)
    (hexp : t < x.staged.expiresAt.toTime) (hnow : (Timestamp.ofTime activation.now).toTime ≤ t) :
    ValidRotationPairViews (x.staged.activated activation.now).view
      (x.active.retired activation.now activation.overlapDeadline).view t := by
  obtain ⟨v, hv, hle⟩ := hx.activated
  have hva := ha.activated v hv
  have hvn : v.micros ≠ 0 := hold.activated v hv
  have hhistory := validActivatedRotationHistory_of_fits hx ha
  have hactivated : v.toTime ≤ t := (Timestamp.toTime_le.mpr hva).trans hnow
  refine ⟨rfl, rfl, hhistory, ?_⟩
  simp only [TokenRow.view, Change.apply, hv, optionalTime_some, ne_eq, Timestamp.toTime_eq_zero,
    Timestamp.toTime_lt, true_and]
  exact ⟨hnew.changed, hvn, hold.changed, hexp, hnow, hnow, hactivated, hnow, hnow,
    hold.deadline _ rfl, ha.newExpiry, ha.oldExpiry⟩

theorem exactRolledBackAttempt_of_abort (hx : x.Fits) (hnew : (x.staged.revoked u).TimesPresent)
    (hold : x.active.TimesPresent) (hu : x.staged.stateChangedAt.toTime ≤ u)
    (hactive : ∀ v, x.active.activatedAt = some v → v ≤ x.active.stateChangedAt)
    (hnow : (Timestamp.ofTime u).toTime ≤ t) (hchanged : x.active.stateChangedAt.toTime ≤ t) :
    ExactRolledBackAttempt (x.staged.revoked u).view x.active.view t := by
  obtain ⟨v, hv, hle⟩ := hx.activated
  obtain ⟨h₁, h₂, h₃, h₄⟩ := hx.new
  have hcreated : x.staged.createdAt ≤ Timestamp.ofTime u := h₄ ▸ Timestamp.le_ofTime.mpr hu
  simp only [ExactRolledBackAttempt, TokenRow.view, Change.apply, hx.state, hv, h₁, h₂, h₃,
    hx.unretired, hx.unrevoked, optionalTime_some, optionalTime_none, ne_eq, Timestamp.toTime_eq_zero,
    Timestamp.toTime_le, true_and, if_true]
  exact ⟨⟨hnew.changed, hnew.created, hcreated, hnow, hold.activated v hv, hactive v hv, hchanged⟩,
    hx.changed⟩

theorem exactRolledBackAttempt_of_rollback (hx : x.Fits) (ha : activation.Fits x)
    (hnew : ((x.staged.activated activation.now).revoked u).TimesPresent)
    (hold : ((x.active.retired activation.now activation.overlapDeadline).restored u).TimesPresent)
    (hcreated : x.staged.createdAt ≤ Timestamp.ofTime activation.now)
    (hu : (Timestamp.ofTime activation.now).toTime ≤ u) (hdeadline : u < activation.recordedDeadline)
    (hnow : (Timestamp.ofTime u).toTime ≤ t) :
    ExactRolledBackAttempt ((x.staged.activated activation.now).revoked u).view
      ((x.active.retired activation.now activation.overlapDeadline).restored u).view t := by
  obtain ⟨v, hv, hle⟩ := hx.activated
  obtain ⟨h₁, h₂, h₃, -⟩ := hx.new
  have hau : Timestamp.ofTime activation.now ≤ Timestamp.ofTime u := Timestamp.le_ofTime.mpr hu
  have hva := ha.activated v hv
  have hud : Timestamp.ofTime u < Timestamp.ofTime activation.overlapDeadline :=
    Timestamp.ofTime_lt.mpr hdeadline
  have hact0 : (Timestamp.ofTime activation.now).micros ≠ 0 := hnew.activated _ rfl
  have hhistory := validActivatedRotationHistory_of_fits hx ha
  refine ⟨?_, ?_⟩
  · simp only [TokenRow.view, Change.apply, hv, h₂, h₃, hx.unrevoked, optionalTime_some,
      optionalTime_none, ne_eq, Timestamp.toTime_eq_zero, Timestamp.toTime_le, true_and]
    exact ⟨hnew.changed, hnew.created, hcreated.trans hau, hnow, hold.activated v hv, hva.trans hau,
      hnow⟩
  · rw [if_neg (by simpa [TokenRow.view, Change.apply] using hact0)]
    refine ⟨hhistory, ?_, ?_, ?_, rfl⟩
    · rw [Time.le_sub (by omega) (by omega)]
      simp only [TokenRow.view, Change.apply, optionalTime_some, Timestamp.toTime_nanos]
      have := Timestamp.le_iff.mp hau
      omega
    · have hb := ha.bound
      have hlt := Timestamp.lt_iff.mp hud
      have := @Time.le_sub (Timestamp.ofTime u).toTime (Timestamp.ofTime activation.now).toTime day
        (by simp [day_eq]) (by simp [day_eq])
      rw [Timestamp.toTime_nanos, Timestamp.toTime_nanos] at this
      rw [day_eq] at this hb
      show (Timestamp.ofTime u).toTime.sub (Timestamp.ofTime activation.now).toTime < day
      rw [day_eq]
      omega
    · simp only [TokenRow.view, Change.apply, optionalTime_some, Timestamp.toTime_lt]
      exact hud.trans ha.newExpiry

theorem exactCompletedAttempt_of_finalization (hx : x.Fits) (ha : activation.Fits x)
    (hold : ((x.active.retired activation.now activation.overlapDeadline).revoked u).TimesPresent)
    (hdeadline : activation.recordedDeadline ≤ u) (hnow : (Timestamp.ofTime u).toTime ≤ t) :
    ExactCompletedAttempt (x.staged.activated activation.now).view
      ((x.active.retired activation.now activation.overlapDeadline).revoked u).view t := by
  obtain ⟨v, hv, hle⟩ := hx.activated
  have hhistory := validActivatedRotationHistory_of_fits hx ha
  refine ⟨rfl, rfl, hhistory, ?_⟩
  simp only [TokenRow.view, Change.apply, hv, optionalTime_some, ne_eq, Timestamp.toTime_eq_zero,
    Timestamp.toTime_le, Timestamp.toTime_lt, true_and]
  exact ⟨hold.changed, hold.activated v hv, hold.retirement _ rfl, hold.deadline _ rfl,
    ha.activated v hv, Timestamp.le_ofTime.mpr hdeadline, ha.newExpiry, ha.oldExpiry, ha.overlap,
    hnow⟩

end

/-! ## Observations of a sound store -/

/-- The destination can be inspected at the time `t`, which is not before any event that is
stored of its tokens. -/
structure Store.Observable (s : Store) (destination : DestinationRow) (t : Time) : Prop where
  sound : s.Sound destination
  created : destination.createdAt.micros ≠ 0
  changed : destination.stateChangedAt.micros ≠ 0
  enabled : destination.state = .enabled
  clock : t ≠ 0
  since : destination.stateChangedAt.toTime ≤ t
  events : ∀ row ∈ s.tokens, row.destinationID = destination.destinationID →
    row.createdAt.toTime ≤ t ∧ row.stateChangedAt.toTime ≤ t

/-- **The rotation is observed**: the inspection of the attempt at `t` succeeds, and its
classification returns the status. -/
def Store.Observes (s : Store) (destination : DestinationRow) (new old : DestinationTokenRecordID)
    (t : Time) (status : DestinationTokenRotationStatus) : Prop :=
  ∃ attempt observation, s.inspectRotationAttempt destination.audienceID destination.destinationID
      new old t = .ok (.ok attempt) ∧
    classifyRotationSnapshot attempt
      ⟨destination.audienceID, destination.destinationID, new, old⟩ t = .ok observation ∧
    observation.status = status

namespace Store.Observable
variable {t : Time} {new old : TokenRow}

theorem attempt_exists (h : s.Observable destination t)
    (hnew : s.row? new.recordID = some new) (hold : s.row? old.recordID = some old)
    (hnd : new.destinationID = destination.destinationID)
    (hod : old.destinationID = destination.destinationID) (hne : new.state ≠ old.state) :
    ∃ lifecycle tokens, s.inspectRotationAttempt destination.audienceID destination.destinationID
        new.recordID old.recordID t = .ok (.ok ⟨lifecycle, new.view, old.view⟩) ∧
      Loaded s destination.audienceID destination.destinationID t destination tokens
        ⟨destination.value, lifecycle⟩ := by
  have hids : new.recordID ≠ old.recordID := by
    intro heq
    rw [heq, hold, Option.some.injEq] at hnew
    exact hne (congrArg TokenRow.state hnew.symm)
  obtain ⟨lifecycle, hinspect, hload⟩ := h.sound.attempt_exists h.created h.changed h.clock h.since
    hnew hold hids hnd hod (h.events _ (Store.mem_of_row? hnew) hnd)
    (h.events _ (Store.mem_of_row? hold) hod)
  obtain ⟨row, tokens, hl⟩ := Store.loadState_ok hload
  obtain rfl : destination = row := Option.some.inj (h.sound.row.symm.trans hl.destination)
  exact ⟨lifecycle, tokens, hinspect, hl⟩

/-- A live pair is observed. -/
theorem live (h : s.Observable destination t)
    (hrep : s.Represents destination.destinationID (.activeWithRetiring new old))
    (hvalid : ValidRotationPairViews new.view old.view t) :
    s.Observes destination new.recordID old.recordID t .activeWithRetiring := by
  obtain ⟨-, hnew, hnd, hns⟩ := (hrep .active new).mp rfl
  obtain ⟨-, hold, hod, hos⟩ := (hrep .retiring old).mp rfl
  obtain ⟨lifecycle, tokens, hinspect, hl⟩ := h.attempt_exists hnew hold hnd hod
    (by rw [hns, hos]; decide)
  obtain rfl := hl.represents.unique hrep
  exact ⟨_, _, hinspect, Loaded.classify_live hl h.enabled rfl rfl hvalid
    ⟨(h.events _ (Store.mem_of_row? hnew) hnd).1, (h.events _ (Store.mem_of_row? hold) hod).1⟩, rfl⟩

/-- The end of a rotation is observed: one of its records is the only live token. -/
theorem ended (h : s.Observable destination t) {live : TokenRow}
    (hrep : s.Represents destination.destinationID (.active live))
    (hnew : s.row? new.recordID = some new) (hold : s.row? old.recordID = some old)
    (hnd : new.destinationID = destination.destinationID)
    (hod : old.destinationID = destination.destinationID) (hne : new.state ≠ old.state)
    (hactivated : live.view.activatedAt ≤ t) (hexpiry : t < live.view.expiresAt) {status}
    (hverdict : live = old ∧ ExactRolledBackAttempt new.view old.view t ∧ status = .rolledBack ∨
      live = new ∧ ExactCompletedAttempt new.view old.view t ∧ status = .completed) :
    s.Observes destination new.recordID old.recordID t status := by
  obtain ⟨-, hlive, hld, hls⟩ := (hrep .active live).mp rfl
  obtain ⟨lifecycle, tokens, hinspect, hl⟩ := h.attempt_exists hnew hold hnd hod hne
  obtain rfl := hl.represents.unique hrep
  have hinDate : live.view.InDate t := by
    obtain ⟨hc, hs⟩ := h.events _ (Store.mem_of_row? hlive) hld
    refine ⟨hc, hs, ?_⟩
    rw [show live.view.state = .active from hls]
    exact ⟨hactivated, hexpiry⟩
  have hids : old.recordID ≠ new.recordID := by
    intro heq
    rw [heq, hnew, Option.some.injEq] at hold
    exact hne (congrArg TokenRow.state hold)
  refine ⟨_, _, hinspect, Loaded.classify_ended hl h.enabled rfl rfl hinDate hls ?_, rfl⟩
  rcases hverdict with hrolled | ⟨hnewLive, hcompleted, hstatus⟩
  · exact Or.inl hrolled
  · exact Or.inr ⟨hnewLive, hids, hcompleted, hstatus⟩

end Store.Observable

/-! ## Until the next commit on the destination -/

/-- A call that commits nothing on the destination. -/
def QuietStep (destination : DestinationID) (s : Store) (m : Mutation) (s' : Store) : Prop :=
  s' = s ∨ m.destination ≠ destination ∧ m.commit s = .ok s'

section
variable {a : Store} {destination : DestinationID} {ms : List Mutation}

/-- The rows of the destination stay as they are. -/
theorem row?_of_quiet (h : Run (QuietStep destination) a ms s) {id : DestinationTokenRecordID}
    {token : TokenRow} (hd : token.destinationID = destination) (hrow : a.row? id = some token) :
    s.row? id = some token := by
  refine h.invariant (P := fun s => s.row? id = some token) ?_ hrow
  rintro s m s' hs (rfl | ⟨hne, hcommit⟩)
  · exact hs
  · obtain ⟨_, _, _, _, hc⟩ := Mutation.commit_ok hcommit
    exact (hc.row?_other (hd ▸ Ne.symm hne)).mpr hs

theorem represents_of_quiet (h : Run (QuietStep destination) a ms s) {tokens : LiveTokens}
    (hrep : a.Represents destination tokens) : s.Represents destination tokens := by
  refine h.invariant (P := fun s => s.Represents destination tokens) ?_ hrep
  rintro s m s' hs (rfl | ⟨hne, hcommit⟩)
  · exact hs
  · obtain ⟨_, _, _, _, hc⟩ := Mutation.commit_ok hcommit
    exact hc.represents_other (Ne.symm hne) hs

theorem sound_of_quiet {row : DestinationRow} (h : Run (QuietStep row.destinationID) a ms s)
    (hsound : a.Sound row) : s.Sound row := by
  refine h.invariant (P := fun s => s.Sound row) ?_ hsound
  rintro s m s' hs (rfl | ⟨hne, hcommit⟩)
  · exact hs
  · exact MutationStep.sound (Or.inr hcommit) hs fun hd => absurd hd hne

end

/-- What a commit has read of its destination. -/
theorem Mutation.destination_of_commit {m : Mutation} {s' : Store} {row : DestinationRow}
    (h : m.commit s = .ok s') (hrow : s.destination? m.destination = some row) :
    row.createdAt.micros ≠ 0 ∧ row.stateChangedAt.micros ≠ 0 ∧ row.state = .enabled ∧
      row.stateChangedAt.toTime ≤ m.now := by
  obtain ⟨row', tokens, tokens', rows, hc⟩ := Mutation.commit_ok h
  obtain rfl : row = row' := Option.some.inj (hrow.symm.trans hc.destination)
  obtain ⟨-, -, state, statements, hload, -⟩ := Mutation.commit_eq_ok.mp h
  obtain ⟨row', hrow', hread, -⟩ := Store.loadState_eq_ok.mp hload
  obtain rfl : row = row' := Option.some.inj (hrow.symm.trans hrow')
  obtain ⟨hcreated, hchanged, -⟩ := DestinationRow.destination_eq_ok.mp hread
  exact ⟨hcreated, hchanged, hc.enabled, hc.changed⟩

/-! ## Completeness -/

/-- A mutation of the pair that `command` has begun, with the verdict it leads to. -/
inductive Mutation.OnPair (command : CreateRotationStagedTokenCommand) :
    Mutation → DestinationTokenRotationStatus → Prop
  | activate {activation : ActivateRotationCommand} (pair : activation.Of command) :
      OnPair command (.activateRotation activation) .activeWithRetiring
  | abort {audience : GatewayAudienceID} {now : Time} :
      OnPair command (.abortStagedToken audience command.candidate.destination
        command.candidate.recordID now) .rolledBack
  | rollback {rollback : RollbackRotationCommand}
      (destination : rollback.destinationID = command.candidate.destination)
      (new : rollback.newActiveRecordID = command.candidate.recordID)
      (old : rollback.oldRetiringRecordID = command.expectedActiveRecordID) :
      OnPair command (.rollbackRotation rollback) .rolledBack
  | finalize {finalization : FinalizeRotationCommand}
      (destination : finalization.destinationID = command.candidate.destination)
      (new : finalization.newActiveRecordID = command.candidate.recordID)
      (old : finalization.oldRetiringRecordID = command.expectedActiveRecordID)
      (reason : finalization.reason = .deadlineElapsed) :
      OnPair command (.finalizeRotation finalization) .completed

namespace RotationAttempt
variable {x : RotationAttempt} {first b a : Store} {before after : List Mutation} {t : Time}
  {activation : ActivateRotationCommand}
variable (hx : x.Fits) (hd : x.destination = destination.destinationID)
  (hquiet : Run (QuietStep destination.destinationID) a after s) (hobs : s.Observable destination t)
  (hexpiry : ∀ row ∈ s.tokens, row.destinationID = destination.destinationID →
    row.state = .active → t < row.expiresAt.toTime)
include hx hd hquiet hobs hexpiry

theorem observed_activation (hact : x.Activated first before activation b a) :
    s.Observes destination x.staged.recordID x.active.recordID t .activeWithRetiring := by
  have hrep := represents_of_quiet hquiet (hd ▸ hact.replaced)
  obtain ⟨-, hnew, hnd, -⟩ := (hrep .active (x.staged.activated activation.now)).mp rfl
  obtain ⟨-, hold, hod, -⟩ := (hrep .retiring
    (x.active.retired activation.now activation.overlapDeadline)).mp rfl
  have hvalid := validRotationPairViews_of_fits hx hact.fits
    (hobs.sound.tokens _ _ hnew hnd).1 (hobs.sound.tokens _ _ hold hod).1
    (hexpiry (x.staged.activated activation.now) (Store.mem_of_row? hnew) hnd rfl)
    (hobs.events _ (Store.mem_of_row? hnew) hnd).2
  have hlive := hobs.live hrep hvalid
  exact hlive

theorem observed_abort {audience : GatewayAudienceID} {now : Time}
    (prepared : b.Represents x.destination x.prepared)
    (commit : (Mutation.abortStagedToken audience x.destination x.staged.recordID now).commit b =
      .ok a) :
    s.Observes destination x.staged.recordID x.active.recordID t .rolledBack := by
  obtain ⟨changed, hafter⟩ := active_of_aborted prepared commit
  have hrep := represents_of_quiet hquiet (hd ▸ hafter)
  have hnew : s.row? (x.staged.revoked now).recordID = some (x.staged.revoked now) :=
    row?_of_quiet hquiet hd (row?_of_aborted prepared commit .nil)
  obtain ⟨-, hold, hod, hst⟩ := (hrep .active x.active).mp rfl
  have hevents := hobs.events _ (Store.mem_of_row? hold) hod
  have hactivated := (Store.checked (Store.mem_of_row? hold)).activated
  have hexact := exactRolledBackAttempt_of_abort hx (hobs.sound.tokens _ _ hnew hd).1
    (hobs.sound.tokens _ _ hold hod).1 changed (fun v hv => (hactivated v hv).2)
    (hobs.events _ (Store.mem_of_row? hnew) hd).2 hevents.2
  obtain ⟨v, hv, -⟩ := hx.activated
  have hstate : (x.staged.revoked now).state ≠ x.active.state := by
    rw [hst]
    exact nofun
  refine hobs.ended hrep hnew hold hd hod hstate ?_ (hexpiry _ (Store.mem_of_row? hold) hod hst)
    (Or.inl ⟨rfl, hexact, rfl⟩)
  rw [show x.active.view.activatedAt = v.toTime by simp [TokenRow.view, hv]]
  exact (Timestamp.toTime_le.mpr (hactivated v hv).2).trans hevents.2

theorem observed_rollback {rollback : RollbackRotationCommand} (ha : activation.Fits x)
    (live : b.Represents x.destination (x.replaced activation))
    (hrd : rollback.destinationID = x.destination)
    (commit : (Mutation.rollbackRotation rollback).commit b = .ok a) :
    s.Observes destination x.staged.recordID x.active.recordID t .rolledBack := by
  obtain ⟨hrevoked, hdeadline⟩ := row?_of_rolledBack live hrd commit .nil
  obtain ⟨row, tokens', rows, hc⟩ := live.committed commit hrd
  have hafter := hc.after
  rw [show (Mutation.rollbackRotation rollback).destination = _ from hrd.trans hd] at hafter
  cases hc.transition with
  | rollbackRotation newRecord oldRecord distinct changed =>
    have hrep := represents_of_quiet hquiet hafter
    have hnew : s.row? ((x.staged.activated activation.now).revoked rollback.now).recordID =
        some ((x.staged.activated activation.now).revoked rollback.now) :=
      row?_of_quiet hquiet hd hrevoked
    obtain ⟨-, hold, hod, -⟩ := (hrep .active ((x.active.retired activation.now
      activation.overlapDeadline).restored rollback.now)).mp rfl
    have hchecked := Store.checked (Store.mem_of_row? hnew)
    have hnow := (hobs.events _ (Store.mem_of_row? hnew) hd).2
    have hexact := exactRolledBackAttempt_of_rollback hx ha (hobs.sound.tokens _ _ hnew hd).1
      (hobs.sound.tokens _ _ hold hod).1 (hchecked.activated _ rfl).1 changed hdeadline hnow
    obtain ⟨v, hv, -⟩ := hx.activated
    refine hobs.ended hrep hnew hold hd hod nofun ?_
      (hexpiry _ (Store.mem_of_row? hold) hod rfl) (Or.inl ⟨rfl, hexact, rfl⟩)
    have hva := (Store.checked (Store.mem_of_row? hold)).activated v hv
    have hactivated : v.toTime ≤ t := (Timestamp.toTime_le.mpr hva.2).trans hnow
    simpa [TokenRow.view, Change.apply, hv] using hactivated

theorem observed_finalization {finalization : FinalizeRotationCommand} (ha : activation.Fits x)
    (live : b.Represents x.destination (x.replaced activation))
    (hfd : finalization.destinationID = x.destination)
    (hreason : finalization.reason = .deadlineElapsed)
    (commit : (Mutation.finalizeRotation finalization).commit b = .ok a) :
    s.Observes destination x.staged.recordID x.active.recordID t .completed := by
  have hrevoked := row?_of_finalized live hfd commit .nil
  obtain ⟨-, -, hodb, -⟩ := (live .retiring (x.active.retired activation.now
    activation.overlapDeadline)).mp rfl
  obtain ⟨row, tokens', rows, hc⟩ := live.committed commit hfd
  have hafter := hc.after
  rw [show (Mutation.finalizeRotation finalization).destination = _ from hfd.trans hd] at hafter
  cases hc.transition with
  | finalizeRotation newRecord oldRecord distinct changed newExpiry elapsed =>
    have hrep := represents_of_quiet hquiet hafter
    have hod : ((x.active.retired activation.now activation.overlapDeadline).revoked
      finalization.now).destinationID = destination.destinationID := hodb.trans hd
    have hold : s.row? ((x.active.retired activation.now activation.overlapDeadline).revoked
        finalization.now).recordID = some ((x.active.retired activation.now
          activation.overlapDeadline).revoked finalization.now) :=
      row?_of_quiet hquiet hod hrevoked
    obtain ⟨-, hnew, hnd, -⟩ := (hrep .active (x.staged.activated activation.now)).mp rfl
    have hexact := exactCompletedAttempt_of_finalization hx ha (hobs.sound.tokens _ _ hold hod).1
      (elapsed hreason) (hobs.events _ (Store.mem_of_row? hold) hod).2
    exact hobs.ended hrep hnew hold hnd hod nofun (hobs.events _ (Store.mem_of_row? hnew) hnd).2
      (hexpiry _ (Store.mem_of_row? hnew) hnd rfl) (Or.inr ⟨rfl, hexact, rfl⟩)

end RotationAttempt

/-- The destination can be inspected after a commit, until the next one. -/
theorem Store.Observable.of_commit {m : Mutation} {b a : Store} {after : List Mutation} {t : Time}
    (hsound : b.Sound destination) (hcommit : m.commit b = .ok a)
    (hd : m.destination = destination.destinationID) (htimes : m.TimesPresent)
    (hquiet : Run (QuietStep destination.destinationID) a after s) (ht : t ≠ 0)
    (hevents : ∀ row ∈ s.tokens, row.destinationID = destination.destinationID →
      row.createdAt.toTime ≤ t ∧ row.stateChangedAt.toTime ≤ t) : s.Observable destination t := by
  obtain ⟨hcreated, hchanged, henabled, hsince⟩ :=
    Mutation.destination_of_commit hcommit (hd ▸ hsound.row)
  obtain ⟨row, tokens, tokens', rows, hc⟩ := Mutation.commit_ok hcommit
  have hsound' := sound_of_quiet hquiet (MutationStep.sound (Or.inr hcommit) hsound fun _ => htimes)
  refine ⟨hsound', hcreated, hchanged, henabled, ht, ?_, hevents⟩
  -- the mutation has left a row whose last change is its own time
  obtain ⟨hne, hstamp⟩ := hc.transition.stamped
  obtain ⟨written, hw⟩ := List.exists_mem_of_ne_nil _ hne
  have hwrow : a.row? written.recordID = some written := by
    rw [hc.writes.row?, Keyed.lookup_of_mem hc.written.1 hw]
    rfl
  have hwd := (hc.written.2 written hw).trans hd
  have hlater := row?_of_quiet hquiet hwd hwrow
  have hstored : destination.stateChangedAt ≤ written.stateChangedAt :=
    hstamp written hw ▸ Timestamp.le_ofTime.mpr hsince
  exact (Timestamp.toTime_le.mpr hstored).trans (hevents _ (Store.mem_of_row? hlater) hwd).2

/-- **Rotation observation is complete.**  A destination starts without tokens; in any run
that stores no zero time for it, once a mutation of the pair of a committed create has
committed, and until the next commit on the destination, the rotation is observed with the
status that the mutation leads to. -/
theorem rotation_observed {destination : DestinationRow}
    {command : CreateRotationStagedTokenCommand} {s₀ b₀ a₀ b a s : Store}
    {before between after : List Mutation} {m : Mutation} {t : Time}
    {status : DestinationTokenRotationStatus}
    (hrow : s₀.destination? destination.destinationID = some destination)
    (hempty : ∀ token ∈ s₀.tokens, token.destinationID ≠ destination.destinationID)
    (hbefore : Run MutationStep s₀ before b₀)
    (hcreate : (Mutation.createRotationStagedToken command).commit b₀ = .ok a₀)
    (hd : command.candidate.destination = destination.destinationID)
    (hbetween : Run MutationStep a₀ between b) (hcommit : m.commit b = .ok a)
    (hm : m.OnPair command status)
    (hquiet : Run (QuietStep destination.destinationID) a after s)
    (htimes : ∀ m' ∈ before ++ .createRotationStagedToken command :: between ++ [m],
      m'.destination = destination.destinationID → m'.TimesPresent)
    (ht : t ≠ 0)
    (hevents : ∀ row ∈ s.tokens, row.destinationID = destination.destinationID →
      row.createdAt.toTime ≤ t ∧ row.stateChangedAt.toTime ≤ t)
    (hexpiry : ∀ row ∈ s.tokens, row.destinationID = destination.destinationID →
      row.state = .active → t < row.expiresAt.toTime) :
    s.Observes destination command.candidate.recordID command.expectedActiveRecordID t status := by
  obtain ⟨active, -, -, hid, hrep⟩ := Store.Represents.of_createRotationStagedToken hcreate
  have hx := RotationAttempt.fits_of_create hcreate hrep
  have hphase : RotationAttempt.Phase ⟨command.candidate.row, active⟩ a₀ between b :=
    RotationAttempt.phase_of_run hrep hbetween
  have hsound : b.Sound destination :=
    (Store.Sound.initial hrow hempty).run (hbefore.append (.cons (Or.inr hcreate) hbetween))
      fun m' hm' => htimes m' (List.mem_append_left _ hm')
  have hmd : m.destination = destination.destinationID := by
    cases hm with
    | activate pair => exact pair.destination.trans hd
    | abort => exact hd
    | rollback hrd => exact hrd.trans hd
    | finalize hfd => exact hfd.trans hd
  have hobs : s.Observable destination t :=
    .of_commit hsound hcommit hmd (htimes m (by simp) hmd) hquiet ht hevents
  rw [← hid]
  cases hm with
  | activate pair =>
    obtain ⟨staged, -, hstaged, hst, -⟩ := Mutation.activateRotation_ok hcommit
    rw [pair.new] at hstaged
    have hprepared := hphase.prepared_of_staged hstaged hst
    exact RotationAttempt.observed_activation hx hd hquiet hobs hexpiry
      ⟨hbetween, hprepared, pair.destination, pair.new, pair.old.trans hid.symm, hcommit⟩
  | abort =>
    obtain ⟨staged, hstaged, hst, -⟩ := Mutation.abortStagedToken_ok hcommit
    have hprepared := hphase.prepared_of_staged hstaged hst
    exact RotationAttempt.observed_abort hx hd hquiet hobs hexpiry hprepared hcommit
  | rollback hrd hrn hro =>
    obtain ⟨row, tokens, tokens', rows, hc⟩ := Mutation.commit_ok hcommit
    have hbrep := hc.represents
    rw [show (Mutation.rollbackRotation _).destination = _ from hrd] at hbrep
    cases hc.transition with
    | rollbackRotation newRecord oldRecord =>
      obtain ⟨_, _, _, _, _, -, hact, -, live⟩ := hphase.live_of_pair hbrep (newRecord.trans hrn)
        (oldRecord.trans (hro.trans hid.symm))
      exact RotationAttempt.observed_rollback hx hd hquiet hobs hexpiry hact.fits live hrd hcommit
  | finalize hfd hfn hfo hreason =>
    obtain ⟨row, tokens, tokens', rows, hc⟩ := Mutation.commit_ok hcommit
    have hbrep := hc.represents
    rw [show (Mutation.finalizeRotation _).destination = _ from hfd] at hbrep
    cases hc.transition with
    | finalizeRotation newRecord oldRecord =>
      obtain ⟨_, _, _, _, _, -, hact, -, live⟩ := hphase.live_of_pair hbrep (newRecord.trans hfn)
        (oldRecord.trans (hfo.trans hid.symm))
      exact RotationAttempt.observed_finalization hx hd hquiet hobs hexpiry hact.fits live hfd
        hreason hcommit

/-- The sample rotation is observed in its overlap. -/
theorem sampleRotation_observed : ∃ s, commitAll sampleRotation (sampleStore 10) = .ok s ∧
    s.Observes (sampleDestination 10) (sampleID 4) (sampleID 3) (sampleTime 25)
      .activeWithRetiring := by
  obtain ⟨s, hs, hrows⟩ := Except.exists_of_toOption_map
    (show (commitAll sampleRotation (sampleStore 10)).toOption.map (fun s =>
      s.tokens.map fun row => (row.createdAt, row.stateChangedAt, row.expiresAt)) =
        some [(.ofTime (sampleTime 20), .ofTime (sampleTime 23), .ofTime (sampleTime 3620)),
          (.ofTime (sampleTime 22), .ofTime (sampleTime 23), .ofTime (sampleTime 3622))] by
      decide +kernel)
  have htimes : ∀ row ∈ s.tokens, row.createdAt.toTime ≤ sampleTime 25 ∧
      row.stateChangedAt.toTime ≤ sampleTime 25 ∧ sampleTime 25 < row.expiresAt.toTime := by
    intro row hrow
    have hmem := List.mem_map_of_mem (f := fun row : TokenRow =>
      (row.createdAt, row.stateChangedAt, row.expiresAt)) hrow
    rw [hrows] at hmem
    simp only [List.mem_cons, Prod.mk.injEq, List.not_mem_nil, or_false] at hmem
    rcases hmem with ⟨h₁, h₂, h₃⟩ | ⟨h₁, h₂, h₃⟩ <;> rw [h₁, h₂, h₃] <;> decide
  obtain ⟨a, ha, hactivate⟩ := @commitAll_snoc (sampleRotation.take 3) _ _ _ hs
  obtain ⟨b, hb, hcreate⟩ := @commitAll_snoc (sampleRotation.take 2) _ _ _ ha
  exact ⟨s, hs, rotation_observed rfl (fun _ h => absurd h List.not_mem_nil)
    (run_of_commitAll hb) hcreate rfl .nil hactivate (.activate ⟨rfl, rfl, rfl⟩) .nil (by decide)
    (by decide) (fun row hr _ => ⟨(htimes row hr).1, (htimes row hr).2.1⟩)
    fun row hr _ _ => (htimes row hr).2.2⟩

/-- A first token, in use before Go's zero time. -/
def earlyProvisioning : List Mutation :=
  [.createStagedToken (sampleCandidate 3 (sampleTime (-90))) (sampleTime (-90)),
    .activateInitialToken (sampleID 1) (sampleID 2) (sampleID 3) (sampleTime (-80))]

/-- `BeginRotation` ten seconds before Go's zero time, by a participant whose rotations
overlap for ten seconds. -/
def zeroRotation (s : Store) : Except Stop (List (Sigma (ParticipantCall.Answer Empty)) ×
      DestinationTokenRotationAttempt × Option Sentinel) ×
    (Store × Session.Local Store LifecycleTx) :=
  sampleBegin (sampleParticipant 10000000000 (by decide)) s (sampleTime (-10))

/-- A participant whose rotations overlap for ten seconds begins one ten seconds before Go's
zero time.  It succeeds, with the zero time as its deadline; from then on the destination
is neither inspected nor loaded. -/
theorem zeroRotation_begun : ∃ (s₀ s : Store) (trace : List (Sigma (ParticipantCall.Answer Empty)))
    (attempt : DestinationTokenRotationAttempt) (l : Session.Local Store LifecycleTx),
    commitAll earlyProvisioning (sampleStore (-100)) = .ok s₀ ∧
    (DestinationTokenRotationParticipantService.beginRotation sampleRequest).Traces
      ((lifecycleSpec (fun _ _ => True) False).clientStep
        ((sampleParticipant 10000000000 (by decide)).call sampleHmac))
      (s₀, ⟨none, []⟩) trace (attempt, none) (s, l) ∧
    attempt.handle = sampleHandle ∧
    s.tokens.map (fun row => (row.recordID, row.state)) =
      [(sampleID 3, .retiring), (sampleID 4, .active)] ∧
    (∀ row ∈ s.tokens, row.createdAt.toTime ≤ sampleTime (-5) ∧
      row.stateChangedAt.toTime ≤ sampleTime (-5) ∧ sampleTime 5 < row.expiresAt.toTime) ∧
    ∀ now ∈ [sampleTime (-5), sampleTime 5],
      (∀ found, s.inspectRotationAttempt (sampleID 1) (sampleID 2) (sampleID 4) (sampleID 3) now ≠
        .ok (.ok found)) ∧
      ∀ state, s.loadState (sampleID 1) (sampleID 2) now ≠ .ok state := by
  obtain ⟨s₀, hs, hrun⟩ := Except.exists_of_toOption_map
    (show (commitAll earlyProvisioning (sampleStore (-100))).toOption.map (fun s => decide (
      (zeroRotation s).1.toOption.map (fun last => (last.2.2, last.2.1.handle)) =
        some (none, sampleHandle) ∧
      (zeroRotation s).2.1.tokens.map (fun row => (row.recordID, row.state)) =
        [(sampleID 3, .retiring), (sampleID 4, .active)] ∧
      (∀ row ∈ (zeroRotation s).2.1.tokens, row.createdAt.toTime ≤ sampleTime (-5) ∧
        row.stateChangedAt.toTime ≤ sampleTime (-5) ∧ sampleTime 5 < row.expiresAt.toTime) ∧
      [sampleTime (-5), sampleTime 5].all (fun now =>
        ((zeroRotation s).2.1.inspectRotationAttempt (sampleID 1) (sampleID 2) (sampleID 4)
          (sampleID 3) now).toOption.any (·.toOption.isNone) &&
        ((zeroRotation s).2.1.loadState (sampleID 1) (sampleID 2) now).toOption.isNone))) =
      some true by decide +kernel)
  simp only [decide_eq_true_eq, List.all_eq_true, Bool.and_eq_true] at hrun
  obtain ⟨hlast, hstates, htimes, hfailed⟩ := hrun
  obtain ⟨⟨trace, attempt, err⟩, hended, hvalues⟩ := Except.exists_of_toOption_map hlast
  obtain ⟨rfl, hhandle⟩ := Prod.mk.inj hvalues
  have htraces := sampleBegin_traces hended
  rw [← zeroRotation] at htraces
  generalize zeroRotation s₀ = run at htraces hstates htimes hfailed
  obtain ⟨_, s, l⟩ := run
  refine ⟨s₀, s, trace, attempt, l, hs, htraces, hhandle, hstates, htimes,
    fun now hnow => ⟨fun found h => ?_, fun state h => ?_⟩⟩
  · have hnone := (hfailed now hnow).1
    rw [h] at hnone
    cases hnone
  · have hnone := (hfailed now hnow).2
    rw [h] at hnone
    cases hnone

/-- **A rotation whose overlap ends at Go's zero time cannot be observed.**  `BeginRotation`
succeeds and returns the handle; the deadline that it has stored is the zero time, which
the inspection takes for a broken column. -/
theorem zeroRotation_not_observed : ∃ (s₀ s : Store)
    (trace : List (Sigma (ParticipantCall.Answer Empty)))
    (attempt : DestinationTokenRotationAttempt) (l : Session.Local Store LifecycleTx),
    commitAll earlyProvisioning (sampleStore (-100)) = .ok s₀ ∧
    (DestinationTokenRotationParticipantService.beginRotation sampleRequest).Traces
      ((lifecycleSpec (fun _ _ => True) False).clientStep
        ((sampleParticipant 10000000000 (by decide)).call sampleHmac))
      (s₀, ⟨none, []⟩) trace (attempt, none) (s, l) ∧
    attempt.handle = sampleHandle ∧
    s.tokens.map TokenRow.state = [.retiring, .active] ∧
    (∀ row ∈ s.tokens, row.createdAt.toTime ≤ sampleTime (-5) ∧
      row.stateChangedAt.toTime ≤ sampleTime (-5) ∧ sampleTime (-5) < row.expiresAt.toTime) ∧
    ∀ status, ¬ s.Observes (sampleDestination (-100)) (sampleID 4) (sampleID 3) (sampleTime (-5))
      status := by
  obtain ⟨s₀, s, trace, attempt, l, hs, htraces, hhandle, hstates, htimes, hfailed⟩ :=
    zeroRotation_begun
  refine ⟨s₀, s, trace, attempt, l, hs, htraces, hhandle, ?_, fun row hrow => ?_, ?_⟩
  · simpa only [List.map_map, Function.comp_def, List.map_cons, List.map_nil] using
      congrArg (List.map Prod.snd) hstates
  · obtain ⟨hcreated, hchanged, hexpires⟩ := htimes row hrow
    exact ⟨hcreated, hchanged, lt_trans (by decide) hexpires⟩
  · rintro status ⟨found, -, hfound, -⟩
    exact (hfailed _ List.mem_cons_self).1 found hfound

end OncallGateway
