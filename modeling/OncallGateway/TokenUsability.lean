import OncallGateway.RowEvolution

/-! # No token is resurrected

A token that was activated and cannot be used any more cannot be used ever again, if the
clock of the operations does not run back.  `TokenRow.Spent` is the invariant: the row
is revoked, expired, or retiring after its deadline.  Only a rollback makes a retiring row
active, and its guard is the exact opposite of the deadline in `UsableAt`.

The tokens are those read from the rows.  A row with a time that is Go's zero time is
not read at all; then no operation of its destination commits any more, and the row
stays as it is.
-/

namespace OncallGateway

/-- The token of the row can be used at a time. -/
def TokenRow.UsableAt (row : TokenRow) (destination : DestinationRow) (t : Time) : Prop :=
  ∃ token, row.record.token destination.audienceID destination.value = .ok token ∧
    token.UsableAt t

/-- The row can be used at no time from `t` on, whatever its state becomes. -/
def TokenRow.Spent (row : TokenRow) (t : Time) : Prop :=
  row.state = .revoked ∨ row.expiresAt.toTime ≤ t ∨
    row.state = .retiring ∧ optionalTime row.retirementOverlapDeadline ≤ t

/-- The row is spent, or is not read. -/
def TokenRow.Blocked (row : TokenRow) (t : Time) : Prop :=
  row.Spent t ∨ ¬ row.TimesPresent

namespace TokenRow
variable {row : TokenRow} {destination : DestinationRow} {t t' : Time}

theorem usableAt_iff {token : DestinationToken}
    (h : row.record.token destination.audienceID destination.value = .ok token) :
    token.UsableAt t ↔ destination.state = .enabled ∧
      (row.state = .active ∨ row.state = .retiring) ∧ optionalTime row.activatedAt ≤ t ∧
      t < row.expiresAt.toTime ∧
      (row.state ≠ .retiring ∨ t < optionalTime row.retirementOverlapDeadline) := by
  obtain ⟨-, -, -, -, -, -, -, verifier, keyID, -, -, hspec⟩ := token_eq_ok.mp h
  rw [DestinationToken.UsableAt, hspec]
  exact Iff.rfl

/-- A staged row is never usable. -/
theorem not_usableAt_of_staged (h : row.state = .staged) : ¬ row.UsableAt destination t := by
  rintro ⟨token, hread, husable⟩
  obtain ⟨-, hstate, -⟩ := (usableAt_iff hread).mp husable
  rw [h] at hstate
  exact hstate.elim nofun nofun

theorem Blocked.not_usableAt (h : row.Blocked t) (ht : t ≤ t') : ¬ row.UsableAt destination t' := by
  rintro ⟨token, hread, husable⟩
  obtain ⟨-, hstate, -, hexpiry, hdeadline⟩ := (usableAt_iff hread).mp husable
  rcases h with (hrevoked | hexpired | ⟨hretiring, hpassed⟩) | hpresent
  · rw [hrevoked] at hstate
    exact hstate.elim nofun nofun
  · exact absurd hexpiry (not_lt.mpr (hexpired.trans ht))
  · exact absurd (hdeadline.resolve_left (not_not.mpr hretiring)) (not_lt.mpr (hpassed.trans ht))
  · exact hpresent (token_eq_ok.mp hread).1

end TokenRow

/-! ## What was not usable is blocked -/

/-- The rows of the destination are those of its operations up to a time. -/
structure Store.Since (s : Store) (destination : DestinationRow) (t : Time) : Prop where
  row : s.destination? destination.destinationID = some destination
  tokens : ∀ id token, s.row? id = some token → token.destinationID = destination.destinationID →
    token.stateChangedAt.toTime ≤ t ∧ validKeyID token.verifierKeyID = true

variable {id : DestinationTokenRecordID} {s : Store} {t : Time}
variable {ms : List Mutation}

namespace Store.Since
variable {s' : Store} {destination : DestinationRow}

theorem initial (hrow : s.destination? destination.destinationID = some destination)
    (hempty : ∀ token ∈ s.tokens, token.destinationID ≠ destination.destinationID) :
    s.Since destination t :=
  ⟨hrow, fun _ token ht hd => absurd hd (hempty token (Store.mem_of_row? ht))⟩

theorem step {m : Mutation} (hs : s.Since destination t) (h : MutationStep s m s')
    (hm : m.destination = destination.destinationID → m.now ≤ t) : s'.Since destination t := by
  rcases h with rfl | h
  · exact hs
  obtain ⟨row, tokens, tokens', rows, hc⟩ := Mutation.commit_ok h
  refine ⟨(hc.destination?_eq _).trans hs.row, fun id token ht hd => ?_⟩
  rcases hc.row?_cases ht with hw | ht
  · have hdest := (hc.written.2 token hw).symm.trans hd
    refine ⟨?_, ?_⟩
    · rw [hc.transition.stamped.2 token hw]
      exact (Timestamp.toTime_ofTime_le _).trans (hm hdest)
    · rcases hc.written_cases hw with
        ⟨candidate, hv, rfl, -⟩ | ⟨state, old, change, hslot, rfl, -⟩
      · exact candidate.verifierKeyID.valid.resolve_left hv.keyID
      · obtain ⟨-, hold, hod, -⟩ := (hc.represents _ _).mp hslot
        rw [Change.apply_verifierKeyID]
        exact (hs.tokens _ old hold (hod.trans hdest)).2
  · exact hs.tokens id token ht hd

theorem run (hs : s.Since destination t) (h : Run MutationStep s ms s')
    (hm : ∀ m ∈ ms, m.destination = destination.destinationID → m.now ≤ t) :
    s'.Since destination t := by
  induction h with
  | nil => exact hs
  | cons hstep _ ih =>
    exact ih (hs.step hstep (hm _ List.mem_cons_self)) fun m hmem =>
      hm m (List.mem_cons_of_mem _ hmem)

/-- An activated row that is not usable is blocked: its activation was before. -/
theorem blocked (hs : s.Since destination t) {row : TokenRow} (hrow : s.row? id = some row)
    (hd : row.destinationID = destination.destinationID) (henabled : destination.state = .enabled)
    (hactivated : row.activatedAt ≠ none) (hnot : ¬ row.UsableAt destination t) :
    row.Blocked t := by
  have hmem := Store.mem_of_row? hrow
  obtain ⟨hchanged, hkey⟩ := hs.tokens id row hrow hd
  by_contra hfree
  simp only [TokenRow.Blocked, TokenRow.Spent, not_or, not_and, not_le, not_not] at hfree
  obtain ⟨⟨hrevoked, hexpiry, hdeadline⟩, hpresent⟩ := hfree
  obtain ⟨token, hread⟩ := Store.readable_of hs.row hmem hd hpresent hkey
  refine hnot ⟨token, hread, (TokenRow.usableAt_iff hread).mpr ⟨henabled, ?_, ?_, hexpiry, ?_⟩⟩
  · have hstaged : row.state ≠ .staged :=
      fun h => hactivated ((Store.checked hmem).staged h).1
    cases hstate : row.state with
    | staged => exact absurd hstate hstaged
    | active => exact .inl rfl
    | retiring => exact .inr rfl
    | revoked => exact absurd hstate hrevoked
  · obtain ⟨a, ha⟩ := Option.ne_none_iff_exists'.mp hactivated
    rw [ha]
    exact (Timestamp.toTime_le.mpr ((Store.checked hmem).activated a ha).2).trans hchanged
  · exact or_iff_not_imp_left.mpr fun h => hdeadline (not_not.mp h)

end Store.Since

/-! ## What is blocked stays blocked -/

/-- **A step keeps a row blocked**, if it is not before `t`. -/
theorem MutationStep.blocked {s' : Store} {m : Mutation} (h : MutationStep s m s') {row : TokenRow}
    (hrow : s.row? id = some row) (hm : m.destination = row.destinationID → t ≤ m.now)
    (hblocked : row.Blocked t) :
    ∃ row', s'.row? id = some row' ∧ row'.destinationID = row.destinationID ∧ row'.Blocked t := by
  rcases h with rfl | hcommit
  · exact ⟨row, hrow, rfl, hblocked⟩
  obtain ⟨destination, tokens, tokens', rows, hc⟩ := Mutation.commit_ok hcommit
  rcases hc.row?_change hrow with hrow' | ⟨change, hchange, -, hrow'⟩
  · exact ⟨row, hrow', rfl, hblocked⟩
  refine ⟨_, hrow', Change.apply_destinationID _ _, .inl ?_⟩
  obtain ⟨state, hslot⟩ := hchange.slot
  obtain ⟨hlive, -, hd, hstate⟩ := (hc.represents _ _).mp hslot
  have ht := hm hd.symm
  rcases hblocked with (hrevoked | hexpired | ⟨hretiring, hpassed⟩) | hpresent
  · exact absurd (hstate.symm.trans hrevoked) hlive
  · exact .inr (.inl (by rwa [Change.apply_expiresAt]))
  · cases hchange with
    | rollbackOld _ _ _ before => exact absurd before (not_lt.mpr (hpassed.trans ht))
    | finalize => exact .inl rfl
    | abort => exact .inl rfl
    | rollbackNew => exact .inl rfl
    | activate hs => cases hretiring.symm.trans (hc.state_eq hs).1
    | retire hs => cases hretiring.symm.trans (hc.state_eq hs).1
  · -- the mutation has read every live row
    exact absurd (hc.present row (LiveTokens.mem_rows.mpr ⟨state, hslot⟩)).1 hpresent

theorem TokenRow.Blocked.run {s' : Store} (h : Run MutationStep s ms s') {row : TokenRow}
    (hrow : s.row? id = some row) (hm : ∀ m ∈ ms, m.destination = row.destinationID → t ≤ m.now)
    (hblocked : row.Blocked t) :
    ∃ row', s'.row? id = some row' ∧ row'.Blocked t := by
  induction h generalizing row with
  | nil => exact ⟨row, hrow, hblocked⟩
  | cons hstep _ ih =>
    obtain ⟨row', hrow', hd, hblocked'⟩ := hstep.blocked hrow (hm _ List.mem_cons_self) hblocked
    exact ih hrow' (fun m hmem => hd ▸ hm m (List.mem_cons_of_mem _ hmem)) hblocked'

/-! ## At most two -/

theorem Store.Represents.usable_le_two {destination : DestinationRow} {tokens : LiveTokens}
    (h : s.Represents destination.destinationID tokens) {rows : List TokenRow} (hnodup : rows.Nodup)
    (hrows : ∀ row ∈ rows, row ∈ s.tokens ∧ row.destinationID = destination.destinationID ∧
      row.UsableAt destination t) : rows.length ≤ 2 := by
  have hsub : rows ⊆ tokens.rows := fun row hrow => by
    obtain ⟨hmem, hd, token, hread, husable⟩ := hrows row hrow
    obtain ⟨-, hstate, -⟩ := (TokenRow.usableAt_iff hread).mp husable
    refine h.mem_rows.mpr ⟨Store.row?_of_mem hmem, hd, fun hrevoked => ?_⟩
    rw [hrevoked] at hstate
    exact hstate.elim nofun nofun
  refine (hnodup.subperm hsub).length_le.trans ?_
  cases tokens <;> simp [LiveTokens.rows]

/-- **No token is resurrected.**  A destination starts without tokens, and `t` is not before
the operations so far: an activated row that is not usable at `t` is not usable at any
later time, after any operations from `t` on.  In every state no staged row is usable, and
at most two rows of the destination are. -/
theorem no_token_resurrected {destination : DestinationRow} {s₀ s s' : Store}
    {before after : List Mutation} {t : Time}
    (hrow : s₀.destination? destination.destinationID = some destination)
    (henabled : destination.state = .enabled)
    (hempty : ∀ token ∈ s₀.tokens, token.destinationID ≠ destination.destinationID)
    (hrun : Run MutationStep s₀ before s) (hrun' : Run MutationStep s after s')
    (hbefore : ∀ m ∈ before, m.destination = destination.destinationID → m.now ≤ t)
    (hafter : ∀ m ∈ after, m.destination = destination.destinationID → t ≤ m.now) :
    (∀ id row, s.row? id = some row → row.destinationID = destination.destinationID →
      row.activatedAt ≠ none → ¬ row.UsableAt destination t →
      ∀ t' ≥ t, ∀ row', s'.row? id = some row' → ¬ row'.UsableAt destination t') ∧
    (∀ row ∈ s.tokens, row.state = .staged → ∀ t', ¬ row.UsableAt destination t') ∧
    ∀ (t' : Time) (rows : List TokenRow), rows.Nodup → (∀ row ∈ rows, row ∈ s.tokens ∧
      row.destinationID = destination.destinationID ∧ row.UsableAt destination t') →
      rows.length ≤ 2 := by
  refine ⟨fun id row hrow' hd hactivated hnot t' ht row' hlater => ?_,
    fun row _ hstaged t' => TokenRow.not_usableAt_of_staged hstaged, fun t' rows hnodup hrows => ?_⟩
  · have hblocked := ((Store.Since.initial hrow hempty).run hrun hbefore).blocked hrow' hd henabled
      hactivated hnot
    obtain ⟨_, hfound, hblocked'⟩ :=
      hblocked.run hrun' hrow' fun m hmem hmd => hafter m hmem (hmd.trans hd)
    cases hlater.symm.trans hfound
    exact hblocked'.not_usableAt ht
  · obtain ⟨tokens, hrep, -⟩ := Store.Overlaps.run hempty hrun
    exact hrep.usable_le_two hnodup hrows

/-- The finalization of the sample rotation. -/
def sampleFinalization : FinalizeRotationCommand :=
  ⟨sampleID 1, sampleID 2, sampleID 4, sampleID 3, .deadlineElapsed, sampleTime 40⟩

/-- The overlap of the sample rotation ends at 33 s.  The old token is not usable then, and
after a finalization it is not usable at 50 s either. -/
theorem sampleRotation_not_resurrected : ∃ row row',
    (sampleAfter sampleRotation).row? (sampleID 3) = some row ∧ row.state = .retiring ∧
    ¬ row.UsableAt (sampleDestination 10) (sampleTime 33) ∧
    (sampleAfter (sampleRotation ++ [.finalizeRotation sampleFinalization])).row? (sampleID 3) =
      some row' ∧
    ¬ row'.UsableAt (sampleDestination 10) (sampleTime 50) := by
  have hrun : Run MutationStep (sampleStore 10) sampleRotation (sampleAfter sampleRotation) :=
    run_of_commitAll (by decide +kernel)
  have hrun' : Run MutationStep (sampleAfter sampleRotation)
      [.finalizeRotation sampleFinalization]
      (sampleAfter (sampleRotation ++ [.finalizeRotation sampleFinalization])) :=
    run_of_commitAll (by decide +kernel)
  obtain ⟨row, hrow, hstate⟩ : ∃ row, (sampleAfter sampleRotation).row? (sampleID 3) = some row ∧
      (row.state, row.destinationID, row.activatedAt.isSome,
        optionalTime row.retirementOverlapDeadline) =
        (.retiring, sampleID 2, true, sampleTime 33) := Option.map_eq_some_iff.mp (by decide +kernel)
  obtain ⟨row', hrow', -⟩ : ∃ row', (sampleAfter (sampleRotation ++
      [.finalizeRotation sampleFinalization])).row? (sampleID 3) = some row' ∧
      row'.state = .revoked := Option.map_eq_some_iff.mp (by decide +kernel)
  obtain ⟨hretiring, hd, hactivated, hdeadline⟩ :
      row.state = .retiring ∧ row.destinationID = sampleID 2 ∧ row.activatedAt.isSome = true ∧
        optionalTime row.retirementOverlapDeadline = sampleTime 33 := by
    simpa only [Prod.mk.injEq] using hstate
  have hnot : ¬ row.UsableAt (sampleDestination 10) (sampleTime 33) :=
    TokenRow.Blocked.not_usableAt (.inl (.inr (.inr ⟨hretiring, hdeadline.le⟩))) le_rfl
  have hspent := (@no_token_resurrected (sampleDestination 10) _ _ _ _ _ (sampleTime 33)
    rfl rfl (fun _ h => absurd h List.not_mem_nil) hrun hrun' (by decide) (by decide)).1
  refine ⟨row, row', hrow, hretiring, hnot, hrow',
    hspent _ row hrow hd (fun hnone => ?_) hnot _ (by decide) row' hrow'⟩
  rw [hnone] at hactivated
  cases hactivated

end OncallGateway
