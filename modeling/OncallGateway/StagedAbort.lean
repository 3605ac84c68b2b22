import OncallGateway.StoreInvariant

/-! # Aborting a staged token

`AbortStagedToken` is the way out of a rotation that was only begun.  It is permitted
whatever the snapshot says: its guard tells the staleness of the staged row itself, which it
forgives, from that of the destination and of the active row, which it does not
(`Loaded.plan_abort`).  The revocation it sends breaks no constraint (`Store.exec_revoke`), so
that it commits exactly if it names the staged row and the active one has not expired
(`staged_token_abortable`).
-/

namespace OncallGateway

/-! ## Revoking a row -/

/-- A revocation that is not before the last change passes every check of the row. -/
theorem TokenRow.revoked_checks {row : TokenRow} {now : Time} (hrow : row.Checked)
    (hnow : row.stateChangedAt.toTime ≤ now) :
    Sql.Holds (row.revoked now).checkStateFields ∧
      Sql.Holds (row.revoked now).checkStateTimeOrder := by
  have hle : row.stateChangedAt ≤ .ofTime now := Timestamp.le_ofTime.mpr hnow
  constructor
  · simp [TokenRow.checkStateFields, Change.apply]
  · simp only [TokenRow.checkStateTimeOrder, Sql.holds_and, Sql.holds_or, Sql.holds_compare_some,
      Sql.holds_isNull, Sql.holds_isNotNull, Change.apply]
    refine ⟨hrow.changed.trans hle, ?_, ?_, .inr ⟨hrow.changed.trans hle, le_rfl⟩⟩
    · cases hactivated : row.activatedAt with
      | none => exact .inl rfl
      | some t =>
        obtain ⟨hcreated, hchanged⟩ := hrow.activated t hactivated
        simp only [Sql.holds_compare_some]
        exact .inr ⟨hcreated, hchanged.trans hle⟩
    · cases hretired : row.retirementStartedAt with
      | none => exact .inl rfl
      | some t =>
        obtain ⟨⟨a, hactivated, hafter⟩, hchanged, -⟩ := hrow.retirement t hretired
        simp only [hactivated, Sql.holds_compare_some]
        exact .inr ⟨rfl, hafter, hchanged.trans hle⟩

namespace Store
variable {s : Store}
variable {tokens : List TokenRow} {p : TokenRow → Bool}

theorem withTokens_exists (h : ∀ c : TokenConstraint, c.Holds s.destinations tokens) :
    ∃ s', s.withTokens tokens = .ok s' := by
  have hnone : (TokenConstraint.all.find? fun c => !decide (c.Holds s.destinations tokens)) =
      none := List.find?_eq_none.mpr fun c _ => by simp [h c]
  unfold withTokens
  split
  · rename_i c hc
    rw [hnone] at hc
    cases hc
  · exact ⟨_, rfl⟩

variable {state : DestinationTokenState}

/-- The rows that a revocation leaves in a state are among those that were in it. -/
theorem onePerDestination_revoke {now : Time} (hstate : state ≠ .revoked)
    (h : OnePerDestination state tokens) :
    OnePerDestination state (Keyed.update p (fun row => row.revoked now) tokens) := by
  refine List.Nodup.sublist ?_ h
  clear h
  induction tokens with
  | nil => exact List.Sublist.refl _
  | cons row tokens ih =>
    rw [Keyed.update, List.map_cons, ← Keyed.update]
    by_cases hp : p row = true
    · have hrevoked : ¬ decide ((row.revoked now).state = state) = true := by
        simpa [Change.apply] using hstate.symm
      rw [if_pos hp, List.filter_cons, if_neg hrevoked]
      refine ih.trans (List.Sublist.map _ ?_)
      exact (List.sublist_cons_self row tokens).filter _
    · rw [if_neg hp]
      by_cases hrow : decide (row.state = state) = true
      · rw [List.filter_cons, List.filter_cons, if_pos hrow, if_pos hrow, List.map_cons,
          List.map_cons]
        exact ih.cons_cons _
      · rw [List.filter_cons, List.filter_cons, if_neg hrow, if_neg hrow]
        exact ih

/-- What a change keeps of every row, it keeps of the list. -/
theorem map_update {α : Type} {change : Change} {f : TokenRow → α}
    (hf : ∀ row, f (change.apply row) = f row) (tokens : List TokenRow) :
    (Keyed.update p (fun row => change.apply row) tokens).map f = tokens.map f := by
  rw [Keyed.update, List.map_map]
  refine List.map_congr_left fun row _ => ?_
  show f (if p row then change.apply row else row) = f row
  split
  · exact hf row
  · rfl

/-- **A row that is not revoked can be revoked**, at any time from its last change on. -/
theorem exec_revoke {row : TokenRow} {now : Time} (hrow : row ∈ s.tokens)
    (hstate : row.state = state) (hnow : row.stateChangedAt.toTime ≤ now) :
    ∃ s', (Statement.update state row.audienceID row.destinationID row.recordID
      row.stateChangedAt.toTime (.revoke now)).exec s = .ok (s', 1) := by
  generalize hp : Statement.selects state row.audienceID row.destinationID row.recordID
    row.stateChangedAt.toTime = p
  have hselects : ∀ other ∈ s.tokens, p other = true → other = row := by
    intro other hother hsel
    rw [← hp] at hsel
    simp only [Statement.selects, decide_eq_true_eq] at hsel
    exact List.inj_on_of_nodup_map (s.tokensValid .primaryKey) hother hrow hsel.2.2.1
  have hself : p row = true := by
    rw [← hp]
    simp [Statement.selects, hstate]
  -- a row of the new table is an old one, or the one that was revoked
  have hmem : ∀ {P : TokenRow → Prop}, (∀ other ∈ s.tokens, P other) → P (row.revoked now) →
      ∀ other ∈ Keyed.update p (fun row => row.revoked now) s.tokens, P other := by
    intro P hold hrevoked other hother
    obtain ⟨old, hmem, rfl⟩ := List.mem_map.mp hother
    split
    · rename_i hsel
      rw [hselects old hmem hsel]
      exact hrevoked
    · exact hold old hmem
  obtain ⟨hfields, horder⟩ := TokenRow.revoked_checks (Store.checked hrow) hnow
  have hconstraints : ∀ c : TokenConstraint,
      c.Holds s.destinations (Keyed.update p (fun row => row.revoked now) s.tokens) := by
    intro c
    have hold := s.tokensValid c
    cases c with
    | keyIDPresent => exact hmem hold (hold row hrow)
    | lifetime => exact hmem hold (hold row hrow)
    | recordIDNonzero => exact hmem hold (hold row hrow)
    | retirementBound => exact hmem hold (hold row hrow)
    | stagedCleanupBound => exact hmem hold (hold row hrow)
    | stateFields => exact hmem hold hfields
    | stateTimeOrder => exact hmem hold horder
    | verifierSize => exact hmem hold (hold row hrow)
    | primaryKey =>
      exact (congrArg List.Nodup (map_update (f := fun row => row.recordID) (fun _ => rfl) _)).mpr hold
    | verifierUnique =>
      exact (congrArg List.Nodup (map_update
        (f := fun row => (row.audienceID, row.verifierKeyID, row.verifier)) (fun _ => rfl) _)).mpr hold
    | oneStagedPerDestination => exact onePerDestination_revoke (by decide) hold
    | oneActivePerDestination => exact onePerDestination_revoke (by decide) hold
    | oneRetiringPerDestination => exact onePerDestination_revoke (by decide) hold
    | destinationFK => exact hmem hold (hold row hrow)
  obtain ⟨s', hs'⟩ := withTokens_exists hconstraints
  have hcount : s.tokens.countP p = 1 := by
    rw [← hp] at hself ⊢
    refine (Keyed.countP_eq_one (k := row.recordID) (s.tokensValid .primaryKey) ?_).mpr
      ⟨row, Store.row?_of_mem hrow, hself⟩
    simp +contextual [Statement.selects]
  refine ⟨s', ?_⟩
  unfold Statement.exec Statement.rewrite Statement.affected
  simp only [hp, hcount]
  rw [hs']
  rfl

end Store

/-! ## The guards -/

variable {staged : TokenRow}

theorem LiveTokens.retiring_of_staged {tokens : LiveTokens}
    (h : tokens.slot .staged = some staged) : tokens.slot .retiring = none := by
  cases tokens with
  | activeWithRetiring a r => cases h
  | _ => rfl

/-- The times of the destination and of its live rows are not after `now`. -/
structure NotBefore (s : Store) (destination : DestinationRow) (now : Time) : Prop where
  own : destination.createdAt.toTime ≤ now ∧ destination.stateChangedAt.toTime ≤ now
  rows : ∀ row ∈ s.liveRows destination.destinationID, row.createdAt.toTime ≤ now ∧
    row.stateChangedAt.toTime ≤ now ∧ ∀ t, row.activatedAt = some t → t.toTime ≤ now

section
variable {s : Store} {destination : DestinationRow} {now : Time} {tokens : LiveTokens}
  {state : LifecycleLockedState}

section
variable
  (hl : Loaded s destination.audienceID destination.destinationID now destination tokens state)
include hl

/-- An active token that has not expired is in date. -/
theorem Loaded.active_inDate (htimes : NotBefore s destination now) {active : TokenRow}
    (hactive : tokens.slot .active = some active) (hexpires : now < active.expiresAt.toTime) :
    active.view.InDate now ∧ active.view.activatedAt ≤ now := by
  obtain ⟨hne, hrow, hd, hstate⟩ := (hl.represents .active active).mp hactive
  obtain ⟨hcreated, hchanged, hactivated⟩ :=
    htimes.rows active (Store.mem_liveRows.mpr ⟨hrow, hd, by rw [hstate]; exact hne⟩)
  obtain ⟨t, ht⟩ := Option.isSome_iff_exists.mp
    ((Store.checked (Store.mem_of_row? hrow)).active hstate).1
  have hle : active.view.activatedAt ≤ now := by
    show optionalTime active.activatedAt ≤ now
    rw [ht]
    exact hactivated t ht
  refine ⟨?_, hle⟩
  unfold LifecycleTokenView.InDate
  rw [show active.view.state = .active from hstate]
  exact ⟨hcreated, hchanged, hle, hexpires⟩

theorem Loaded.abortAllowed_of (htimes : NotBefore s destination now)
    (henabled : destination.state = .enabled) (hstaged : tokens.slot .staged = some staged)
    (hactive : ∀ active, tokens.slot .active = some active → now < active.expiresAt.toTime) :
    lifecycleStagedAbortAllowed state staged.view now = .ok () := by
  obtain ⟨hne, hrow, hd, hstate⟩ := (hl.represents .staged staged).mp hstaged
  obtain ⟨hcreated, hchanged, -⟩ :=
    htimes.rows staged (Store.mem_liveRows.mpr ⟨hrow, hd, by rw [hstate]; exact hne⟩)
  have hslots := hl.status
  rw [show state.snapshot.staged = _ from hl.slots .staged, hstaged] at hslots
  unfold lifecycleStagedAbortAllowed
  cases hstatus : state.snapshot.status with
  | stagedInitial => rfl
  | activeWithStaged => rfl
  | unprovisioned =>
    rw [hstatus] at hslots
    cases hslots.1
  | active =>
    rw [hstatus] at hslots
    cases hslots.1
  | activeWithRetiring =>
    rw [hstatus] at hslots
    cases hslots.1
  | reconciliationRequired =>
    -- everything else is in date, so that it is the staged row that has run out
    have hstale : ¬ (now < staged.view.expiresAt ∧ now < staged.view.stagedCleanupDeadline) := by
      intro hfresh
      refine hl.inDate.mpr ⟨henabled, fun token htoken => ?_⟩ hstatus
      obtain ⟨slot, hslot⟩ := LiveTokens.mem_rows.mp htoken
      cases slot with
      | staged =>
        cases hstaged.symm.trans hslot
        unfold LifecycleTokenView.InDate
        rw [show staged.view.state = .staged from hstate]
        exact ⟨hcreated, hchanged, hfresh⟩
      | active => exact (hl.active_inDate htimes hslot (hactive token hslot)).1
      | retiring => cases hslot.symm.trans (LiveTokens.retiring_of_staged hstaged)
      | revoked => cases tokens <;> cases hslot
    simp only [Except.bind_eq_ok, Except.refuseIf_eq_ok, exists_const]
    refine ⟨?_, ?_⟩
    · rw [not_or, not_or, not_not, hl.enabled_iff]
      exact ⟨henabled, not_lt.mpr hchanged, hstale⟩
    · rw [show state.snapshot.active = _ from hl.slots .active]
      cases hslot : tokens.slot .active with
      | none => rfl
      | some active =>
        obtain ⟨⟨-, hc, -⟩, ha⟩ := hl.active_inDate htimes hslot (hactive active hslot)
        refine Except.refuseIf_eq_ok.mpr ?_
        rw [not_or, not_or, not_not]
        exact ⟨not_lt.mpr ha, not_lt.mpr hc, hactive active hslot⟩

/-- **The guards of an abort pass**, in date or not, if the active token has not expired. -/
theorem Loaded.plan_abort (henabled : destination.state = .enabled)
    (htimes : NotBefore s destination now) (hstaged : tokens.slot .staged = some staged)
    (hactive : ∀ active, tokens.slot .active = some active → now < active.expiresAt.toTime) :
    (Mutation.abortStagedToken destination.audienceID destination.destinationID staged.recordID
      now).plan state = .ok [revokeStagedLifecycleTokenSQL destination.audienceID
        destination.destinationID staged.recordID staged.stateChangedAt.toTime now] := by
  have hlive : ∀ {slot row}, tokens.slot slot = some row →
      row ∈ s.liveRows destination.destinationID := by
    intro slot row hslot
    obtain ⟨hrow, hd, hne⟩ := hl.represents.mem_rows.mp (LiveTokens.mem_rows.mpr ⟨slot, hslot⟩)
    exact Store.mem_liveRows.mpr ⟨hrow, hd, hne⟩
  have hview : state.snapshot.staged = some staged.view := by
    have := hl.slots .staged
    rw [hstaged] at this
    exact this
  have hretiring : state.snapshot.retiring = none := by
    rw [show state.snapshot.retiring = _ from hl.slots .retiring,
      LiveTokens.retiring_of_staged hstaged]
    rfl
  have hallowed := hl.abortAllowed_of htimes henabled hstaged hactive
  have hrefused : ¬ (state.snapshot.retiring.isSome = true ∨
      staged.view.recordID ≠ staged.recordID) := by
    rw [hretiring]
    exact not_or.mpr ⟨Bool.false_ne_true, not_not.mpr rfl⟩
  simp only [Mutation.plan, hview, Except.bind_eq_ok, Except.refuseIf_eq_ok, exists_const]
  exact ⟨hrefused, (), hallowed, rfl⟩

end

/-- **An abort commits exactly if** it names the staged row and the active one has not
expired. -/
theorem Store.Sound.abort_iff (h : s.Sound destination)
    (hpresent : destination.createdAt.micros ≠ 0 ∧ destination.stateChangedAt.micros ≠ 0)
    (henabled : destination.state = .enabled) (hnow : now ≠ 0)
    (htimes : NotBefore s destination now) (hmem : staged ∈ s.liveRows destination.destinationID)
    (hstaged : staged.state = .staged) (id : DestinationTokenRecordID) :
    (∃ s', (Mutation.abortStagedToken destination.audienceID destination.destinationID id
        now).commit s = .ok s') ↔
      id = staged.recordID ∧ ∀ active ∈ s.liveRows destination.destinationID,
        active.state = .active → now < active.expiresAt.toTime := by
  obtain ⟨hrow, hd, hne⟩ := Store.mem_liveRows.mp hmem
  have hvalid := Keyed.mem_of_lookup h.row
  obtain ⟨state, hload⟩ := h.loadable.load hpresent.1 hpresent.2 now hnow htimes.own.2
  obtain ⟨row, tokens, hl⟩ := Store.loadState_ok hload
  obtain rfl : destination = row := Option.some.inj (h.row.symm.trans hl.destination)
  have hslot : tokens.slot .staged = some staged :=
    (hl.represents .staged staged).mpr ⟨hstaged ▸ hne, hrow, hd, hstaged⟩
  have hactive : ∀ active, tokens.slot .active = some active ↔
      active ∈ s.liveRows destination.destinationID ∧ active.state = .active := by
    intro active
    rw [hl.represents .active active, Store.mem_liveRows]
    constructor
    · rintro ⟨hne, hrow, hd, hstate⟩
      exact ⟨⟨hrow, hd, hstate ▸ hne⟩, hstate⟩
    · rintro ⟨⟨hrow, hd, hne⟩, hstate⟩
      exact ⟨hstate ▸ hne, hrow, hd, hstate⟩
  constructor
  · rintro ⟨s', hcommit⟩
    obtain ⟨-, -, state', statements, hload', hplan, hrun⟩ := Mutation.commit_eq_ok.mp hcommit
    cases hload.symm.trans hload'
    obtain ⟨-, _, _, htransition, -⟩ := hl.abortStagedToken hplan hrun
    cases htransition with
    | abortInitial =>
      cases hslot
      exact ⟨rfl, fun active hmem hstate => by cases (hactive active).mpr ⟨hmem, hstate⟩⟩
    | abortRotation _ _ _ hexpires =>
      cases hslot
      refine ⟨rfl, fun active hmem hstate => ?_⟩
      cases (hactive active).mpr ⟨hmem, hstate⟩
      exact hexpires
  · rintro ⟨rfl, hexpires⟩
    have hplan := hl.plan_abort henabled htimes hslot fun active hslot => by
      obtain ⟨hmem, hstate⟩ := (hactive active).mp hslot
      exact hexpires active hmem hstate
    obtain ⟨s', hexec⟩ := Store.exec_revoke (Store.mem_of_row? hrow) hstaged
      (htimes.rows staged hmem).2.1
    have haudience : staged.audienceID = destination.audienceID :=
      (hl.present staged (LiveTokens.mem_rows.mpr ⟨_, hslot⟩)).2
    rw [haudience, hd] at hexec
    refine ⟨s', Mutation.commit_eq_ok.mpr ⟨?_, ?_, state, _, hload, hplan, ?_⟩⟩
    · exact Except.refuseIf_eq_ok.mpr (Store.checked (Store.mem_of_row? hrow)).record
    · rintro (hzero | hzero | hzero)
      · exact s.destinationsValid.audience _ hvalid hzero
      · exact s.destinationsValid.id _ hvalid hzero
      · exact hnow hzero
    · rw [revokeStagedLifecycleTokenSQL, runStatements_cons]
      exact ⟨s', hexec, runStatements_nil.mpr rfl⟩

end

/-- **A staged token can always be cleaned up, and only it.**  In every state that a run
reaches whose mutations of the destination store no zero time, and at every time from the
last one recorded on: an abort commits exactly if it names the staged row and the active row,
if there is one, has not expired; and what it changes is the staged row, which is revoked. -/
theorem staged_token_abortable {s₀ s : Store} {ms : List Mutation} {destination : DestinationRow}
    (hrow : s₀.destination? destination.destinationID = some destination)
    (hempty : ∀ token ∈ s₀.tokens, token.destinationID ≠ destination.destinationID)
    (hrun : Run MutationStep s₀ ms s)
    (hms : ∀ m ∈ ms, m.destination = destination.destinationID → m.TimesPresent)
    (hpresent : destination.createdAt.micros ≠ 0 ∧ destination.stateChangedAt.micros ≠ 0)
    (henabled : destination.state = .enabled) {staged : TokenRow}
    (hmem : staged ∈ s.liveRows destination.destinationID) (hstaged : staged.state = .staged)
    {now : Time} (hnow : now ≠ 0) (htimes : NotBefore s destination now)
    (id : DestinationTokenRecordID) :
    ((∃ s', (Mutation.abortStagedToken destination.audienceID destination.destinationID id
        now).commit s = .ok s') ↔
      id = staged.recordID ∧ ∀ active ∈ s.liveRows destination.destinationID,
        active.state = .active → now < active.expiresAt.toTime) ∧
    ∀ s', (Mutation.abortStagedToken destination.audienceID destination.destinationID id
        now).commit s = .ok s' →
      ∀ other, s'.row? other =
        if other = staged.recordID then some (staged.revoked now) else s.row? other := by
  have hsound := (Store.Sound.initial hrow hempty).run hrun hms
  have hiff := hsound.abort_iff hpresent henabled hnow htimes hmem hstaged id
  refine ⟨hiff, fun s' hcommit other => ?_⟩
  obtain ⟨rfl, -⟩ := hiff.mp ⟨s', hcommit⟩
  obtain ⟨old, hold, -, hrows⟩ := Mutation.abortStagedToken_ok hcommit
  cases hold.symm.trans (Store.mem_liveRows.mp hmem).1
  exact hrows other

/-- The candidate of the sample rotation is aborted eight seconds after it was created, and
the active token stays. -/
theorem sampleRotation_aborted : ∃ s s', commitAll (sampleRotation.take 3) (sampleStore 10) = .ok s ∧
    (Mutation.abortStagedToken (sampleID 1) (sampleID 2) (sampleID 4) (sampleTime 30)).commit s =
      .ok s' ∧
    s'.row? (sampleID 4) = some ((sampleCandidate 4 (sampleTime 22)).row.revoked (sampleTime 30)) ∧
    s'.row? (sampleID 3) = s.row? (sampleID 3) := by
  obtain ⟨s, hs, hrows⟩ := Except.exists_of_toOption_map
    (show (commitAll (sampleRotation.take 3) (sampleStore 10)).toOption.map Store.tokens =
      some [(sampleCandidate 3 (sampleTime 20)).row.activated (sampleTime 21),
        (sampleCandidate 4 (sampleTime 22)).row] by decide +kernel)
  have hlive : ∀ row ∈ s.liveRows (sampleID 2),
      row = (sampleCandidate 3 (sampleTime 20)).row.activated (sampleTime 21) ∨
      row = (sampleCandidate 4 (sampleTime 22)).row := by
    intro row hrow
    simpa [hrows] using Store.mem_of_row? (Store.mem_liveRows.mp hrow).1
  have hstaged : (sampleCandidate 4 (sampleTime 22)).row ∈ s.tokens := by simp [hrows]
  have htimes : NotBefore s (sampleDestination 10) (sampleTime 30) := by
    refine ⟨by decide, fun row hrow => ?_⟩
    rcases hlive row hrow with rfl | rfl
    · refine ⟨by decide, by decide, fun t ht => ?_⟩
      cases ht
      decide
    · exact ⟨by decide, by decide, nofun⟩
  obtain ⟨hiff, hrows'⟩ := @staged_token_abortable _ _ _ (sampleDestination 10) rfl
    (fun _ h => absurd h List.not_mem_nil) (run_of_commitAll hs) (by decide) (by decide) rfl _
    (Store.mem_liveRows.mpr ⟨Store.row?_of_mem hstaged, rfl, by decide⟩) rfl (sampleTime 30)
    (by decide) htimes (sampleID 4)
  obtain ⟨s', hs'⟩ := hiff.mpr ⟨rfl, fun active hactive hstate => by
    rcases hlive active hactive with rfl | rfl
    · decide
    · cases hstate⟩
  exact ⟨s, s', hs, hs', hrows' s' hs' (sampleID 4), hrows' s' hs' (sampleID 3)⟩

/-- **A token staged in the first microsecond after Go's zero time cannot be aborted.**  Its
row is not read back, so that no state is loaded for the abort to judge. -/
theorem zero_microsecond_not_aborted :
    ∃ s, commitAll [.createStagedToken (sampleCandidate 3 ⟨500⟩) ⟨500⟩] (sampleStore (-10)) = .ok s ∧
      s.tokens.map (fun row => (row.recordID, row.state)) = [(sampleID 3, .staged)] ∧
      NotBefore s (sampleDestination (-10)) (sampleTime 5) ∧
      ∀ s', (Mutation.abortStagedToken (sampleID 1) (sampleID 2) (sampleID 3) (sampleTime 5)).commit
        s ≠ .ok s' := by
  obtain ⟨s, hs, hrows⟩ := staged_in_zero_microsecond
  refine ⟨s, hs, by rw [hrows]; rfl, ⟨by decide, fun row hrow => ?_⟩, fun s' hcommit => ?_⟩
  · obtain rfl : row = (sampleCandidate 3 ⟨500⟩).row := by
      simpa [hrows] using Store.mem_of_row? (Store.mem_liveRows.mp hrow).1
    exact ⟨by decide, by decide, nofun⟩
  · obtain ⟨-, -, state, -, hload, -⟩ := Mutation.commit_eq_ok.mp hcommit
    have hmem : (sampleCandidate 3 ⟨500⟩).row ∈ s.tokens := by simp [hrows]
    exact Store.loadState_ne_ok hmem (by decide) (fun h => h.created (by decide)) _ _ state hload

end OncallGateway
