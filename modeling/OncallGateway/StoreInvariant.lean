import OncallGateway.LifecycleTransition
import OncallGateway.Lib.Runs

/-! # The rows of a destination stay loadable

Whatever the order of the mutations, their arguments and their clocks, the rows of a
destination that started without tokens keep one of the five shapes of `LiveTokens`,
and every one of its rows, revoked or not, is read back as a valid token.

The one thing the mutations do not see to is Go's zero time.  They refuse a clock that
is the zero time, but not one within its first microsecond, which is stored as the zero
time and read back as a broken column (`unreadable_after_zero_microsecond`).  The
results are therefore about mutations that store no such time
(`Mutation.TimesPresent`).
-/

namespace OncallGateway

/-! ## Runs of mutations -/

/-- A call of a mutation: it commits, or it leaves the rows as they are. -/
def MutationStep (s : Store) (m : Mutation) (s' : Store) : Prop :=
  s' = s ∨ m.commit s = .ok s'

/-- No time is stored as Go's zero time. -/
def Mutation.TimesPresent (m : Mutation) : Prop :=
  ∀ t ∈ m.times, (Timestamp.ofTime t).micros ≠ 0

instance (m : Mutation) : Decidable m.TimesPresent :=
  inferInstanceAs (Decidable (∀ t ∈ m.times, (Timestamp.ofTime t).micros ≠ 0))

/-! ## The invariant -/

/-- **The invariant**: the destination's live tokens have a shape, and each of its rows
has all its times and a key identifier that can be read. -/
structure Store.Sound (s : Store) (destination : DestinationRow) : Prop where
  row : s.destination? destination.destinationID = some destination
  tokens : ∀ id token, s.row? id = some token →
    token.destinationID = destination.destinationID →
    token.TimesPresent ∧ validKeyID token.verifierKeyID = true
  shape : ∃ tokens : LiveTokens,
    s.Represents destination.destinationID tokens ∧ tokens.Paired

theorem StagedTokenCandidate.timesPresent {candidate : StagedTokenCandidate}
    (h : ∀ t ∈ candidate.times, (Timestamp.ofTime t).micros ≠ 0) : candidate.row.TimesPresent where
  created := h _ (by simp [times])
  expires := h _ (by simp [times])
  cleanup := h _ (by simp [times])
  changed := h _ (by simp [times])
  activated := nofun
  retirement := nofun
  revoked := nofun
  deadline := nofun

theorem Change.timesPresent {token : TokenRow} {change : Change} (h : token.TimesPresent)
    (hc : ∀ t ∈ change.times, (Timestamp.ofTime t).micros ≠ 0) :
    (change.apply token).TimesPresent := by
  have hnow : ∀ {t u}, t ∈ change.times → some (Timestamp.ofTime t) = some u → u.micros ≠ 0 := by
    rintro t _ ht ⟨⟩
    exact hc t ht
  cases change with
  | activate now =>
    exact { h with changed := hc now (by simp [times]), activated := fun _ => hnow (by simp [times]) }
  | retire now overlapDeadline =>
    exact { h with
      changed := hc now (by simp [times])
      retirement := fun _ => hnow (by simp [times])
      deadline := fun _ => hnow (by simp [times]) }
  | revoke now =>
    exact { h with changed := hc now (by simp [times]), revoked := fun _ => hnow (by simp [times]) }
  | restore now =>
    exact { h with
      changed := hc now (by simp [times])
      retirement := fun _ habsent => by cases habsent
      deadline := fun _ habsent => by cases habsent }

variable {m : Mutation} {s s' : Store} {destination : DestinationRow} {ms : List Mutation}
variable {rows : List TokenRow}

/-- An activation of a rotation pairs the times of the two rows it writes. -/
theorem Transition.paired {tokens tokens' : LiveTokens} (h : Transition s m tokens tokens' rows) :
    tokens'.Paired := by
  cases h with
  | activateRotation => exact ⟨rfl, rfl, rfl⟩
  | createStagedToken => trivial
  | createRotationStagedToken => trivial
  | activateInitialToken => trivial
  | abortInitial => trivial
  | abortRotation => trivial
  | rollbackRotation => trivial
  | finalizeRotation => trivial

namespace Committed
variable {row : DestinationRow} {tokens tokens' : LiveTokens}

/-- Every row written has all its times and a key that can be read. -/
theorem written_sound (h : Committed m s s' row tokens tokens' rows) (hm : m.TimesPresent)
    (hkey : ∀ token ∈ tokens.rows, validKeyID token.verifierKeyID = true) {written : TokenRow}
    (hw : written ∈ rows) :
    written.TimesPresent ∧ validKeyID written.verifierKeyID = true := by
  rcases h.written_cases hw with ⟨candidate, hv, rfl, -, ht⟩ | ⟨state, old, change, hslot, rfl, ht⟩
  · exact ⟨StagedTokenCandidate.timesPresent (ht ▸ hm),
      candidate.verifierKeyID.valid.resolve_left hv.keyID⟩
  · have hold : old ∈ tokens.rows := LiveTokens.mem_rows.mpr ⟨state, hslot⟩
    refine ⟨Change.timesPresent (h.present old hold).1 fun t htm => hm t (ht htm), ?_⟩
    rw [Change.apply_verifierKeyID]
    exact hkey old hold

end Committed

/-- **A step keeps the invariant.** -/
theorem MutationStep.sound (h : MutationStep s m s') (hs : s.Sound destination)
    (hm : m.destination = destination.destinationID → m.TimesPresent) : s'.Sound destination := by
  rcases h with rfl | h
  · exact hs
  obtain ⟨row, tokens, tokens', rows, hc⟩ := Mutation.commit_ok h
  refine ⟨(hc.destination?_eq _).trans hs.row, fun id token ht hd => ?_, ?_⟩
  · rcases hc.row?_cases ht with hw | ht
    · -- only a mutation of this destination writes its rows
      have hdest : m.destination = destination.destinationID := (hc.written.2 token hw).symm.trans hd
      refine hc.written_sound (hm hdest) (fun old hold => ?_) hw
      obtain ⟨hrow, hod, -⟩ := hc.represents.mem_rows.mp hold
      exact (hs.tokens _ old hrow (hod.trans hdest)).2
    · exact hs.tokens id token ht hd
  · by_cases hdest : destination.destinationID = m.destination
    · exact ⟨tokens', hdest ▸ hc.after, hc.transition.paired⟩
    · obtain ⟨old, hrep, hpair⟩ := hs.shape
      exact ⟨old, hc.represents_other hdest hrep, hpair⟩

/-- Runs keep the invariant, if the mutations of the destination store no zero time. -/
theorem Store.Sound.run (h : Run MutationStep s ms s') (hs : s.Sound destination)
    (hm : ∀ m ∈ ms, m.destination = destination.destinationID → m.TimesPresent) :
    s'.Sound destination := by
  induction h with
  | nil => exact hs
  | cons hstep _ ih =>
    exact ih (hstep.sound hs (hm _ List.mem_cons_self)) fun m hmem =>
      hm m (List.mem_cons_of_mem _ hmem)

theorem Store.represents_unprovisioned {destination : DestinationID}
    (hempty : ∀ token ∈ s.tokens, token.destinationID ≠ destination) :
    s.Represents destination .unprovisioned := by
  intro state token
  refine ⟨nofun, ?_⟩
  rintro ⟨-, ht, hd, -⟩
  exact absurd hd (hempty token (Store.mem_of_row? ht))

/-- A destination without tokens. -/
theorem Store.Sound.initial (hrow : s.destination? destination.destinationID = some destination)
    (hempty : ∀ token ∈ s.tokens, token.destinationID ≠ destination.destinationID) :
    s.Sound destination := by
  have hnone : ∀ id token, s.row? id = some token →
      token.destinationID ≠ destination.destinationID :=
    fun id token ht => hempty token (Store.mem_of_row? ht)
  exact ⟨hrow, fun id token ht hd => absurd hd (hnone id token ht), .unprovisioned,
    Store.represents_unprovisioned hempty, trivial⟩

/-! ## The overlap of a pair -/

/-- The overlap of a pair ends before either of its tokens expires. -/
def LiveTokens.Bounded : LiveTokens → Prop
  | .activeWithRetiring a r => ∃ deadline, r.retirementOverlapDeadline = some deadline ∧
      deadline < a.expiresAt ∧ deadline < r.expiresAt
  | _ => True

theorem Transition.bounded {tokens tokens' : LiveTokens} (h : Transition s m tokens tokens' rows) :
    tokens'.Bounded := by
  cases h with
  | activateRotation _ _ _ _ _ _ _ newExpiry oldExpiry =>
    exact ⟨_, rfl, Timestamp.ofTime_lt.mpr newExpiry, Timestamp.ofTime_lt.mpr oldExpiry⟩
  | createStagedToken => trivial
  | createRotationStagedToken => trivial
  | activateInitialToken => trivial
  | abortInitial => trivial
  | abortRotation => trivial
  | rollbackRotation => trivial
  | finalizeRotation => trivial

/-- The shape of a destination's tokens, with the bound on the overlap. -/
def Store.Overlaps (s : Store) (destination : DestinationID) : Prop :=
  ∃ tokens, s.Represents destination tokens ∧ tokens.Bounded

theorem MutationStep.overlaps {destination : DestinationID} (h : MutationStep s m s')
    (hs : s.Overlaps destination) : s'.Overlaps destination := by
  rcases h with rfl | h
  · exact hs
  obtain ⟨row, tokens, tokens', rows, hc⟩ := Mutation.commit_ok h
  by_cases hd : destination = m.destination
  · exact ⟨tokens', hd ▸ hc.after, hc.transition.bounded⟩
  · obtain ⟨old, hrep, hbounded⟩ := hs
    exact ⟨old, hc.represents_other hd hrep, hbounded⟩

/-- Every run from a state without tokens keeps the bound. -/
theorem Store.Overlaps.run {destination : DestinationID}
    (hempty : ∀ token ∈ s.tokens, token.destinationID ≠ destination)
    (h : Run MutationStep s ms s') : s'.Overlaps destination :=
  h.invariant (P := fun s => s.Overlaps destination) (fun _ _ _ hs hstep => hstep.overlaps hs)
    ⟨.unprovisioned, Store.represents_unprovisioned hempty, trivial⟩

/-! ## What the invariant says of the rows -/

/-- **The rows of a destination are loadable.** -/
structure Store.Loadable (s : Store) (destination : DestinationRow) : Prop where
  /-- Every row, revoked or not, is read as a token that passes its validation. -/
  valid : ∀ row ∈ s.tokens, row.destinationID = destination.destinationID →
    ∃ token, row.record.token destination.audienceID destination.value = .ok token ∧
      validateDestinationTokenSpec token.spec = .ok ()
  /-- The live rows, all of them and in any order, have a snapshot at every time. -/
  snapshot : ∀ now ≠ 0, ∀ rows, rows.Perm (s.liveRows destination.destinationID) →
    ∃ read snapshot, List.Forall₂ (fun (row : TokenRow) token =>
        row.record.token destination.audienceID destination.value = .ok token) rows read ∧
      newDestinationLifecycleSnapshot destination.value read now = .ok snapshot
  /-- So the state is loaded, once the clock is not before the destination's own times. -/
  load : destination.createdAt.micros ≠ 0 → destination.stateChangedAt.micros ≠ 0 →
    ∀ now ≠ 0, destination.stateChangedAt.toTime ≤ now →
      ∃ state, s.loadState destination.audienceID destination.destinationID now = .ok state
  onePerState : ∀ state ≠ .revoked, (s.tokens.countP fun row =>
    decide (row.destinationID = destination.destinationID ∧ row.state = state)) ≤ 1
  atMostTwo : (s.liveRows destination.destinationID).length ≤ 2
  /-- A retiring row has an active row beside it, of the same activation, and no staged
  one. -/
  retiring : ∀ retiring ∈ s.liveRows destination.destinationID, retiring.state = .retiring →
    (∀ row ∈ s.liveRows destination.destinationID, row.state ≠ .staged) ∧
    ∃ active ∈ s.liveRows destination.destinationID, active.state = .active ∧
      active.activatedAt = some active.stateChangedAt ∧
      active.activatedAt = retiring.retirementStartedAt ∧
      retiring.retirementStartedAt = some retiring.stateChangedAt

/-- A row of the destination whose times and key can be read is read. -/
theorem Store.readable_of (hrow : s.destination? destination.destinationID = some destination)
    {row : TokenRow} (hmem : row ∈ s.tokens) (hd : row.destinationID = destination.destinationID)
    (ht : row.TimesPresent) (hk : validKeyID row.verifierKeyID = true) :
    row.Readable destination := by
  have hdest := Keyed.mem_of_lookup hrow
  -- the reference to the destination fixes the audience, since its identifier is unique
  have haud : row.audienceID = destination.audienceID := by
    obtain ⟨other, ho, heq⟩ := List.mem_map.mp (s.tokensValid .destinationFK row hmem)
    obtain ⟨ha, hid⟩ := Prod.mk.inj heq
    rw [← ha, List.inj_on_of_nodup_map s.destinationsValid.primaryKey ho hdest (hid.trans hd)]
  have := TokenRow.token_exists destination.value (Store.checked hmem) ht hk
    (haud ▸ s.destinationsValid.audience _ hdest) (hd ▸ s.destinationsValid.id _ hdest) hd haud.symm
  rwa [haud] at this

namespace Store.Sound

theorem readable (h : s.Sound destination) {row : TokenRow} (hrow : row ∈ s.tokens)
    (hd : row.destinationID = destination.destinationID) : row.Readable destination := by
  obtain ⟨ht, hk⟩ := h.tokens _ row (Store.row?_of_mem hrow) hd
  exact Store.readable_of h.row hrow hd ht hk

/-- The invariant gives everything that loading asks. -/
theorem loadable (h : s.Sound destination) : s.Loadable destination := by
  obtain ⟨tokens, hrep, hpair⟩ := h.shape
  have hlive : ∀ row, row ∈ s.liveRows destination.destinationID ↔ row ∈ tokens.rows :=
    fun row => hrep.perm.1.mem_iff
  have hread : ∀ row ∈ tokens.rows, row.Readable destination := fun row hr =>
    h.readable (Store.mem_of_row? (hrep.mem_rows.mp hr).1) (hrep.mem_rows.mp hr).2.1
  have hslot : ∀ row ∈ s.liveRows destination.destinationID,
      tokens.slot row.state = some row := fun row hr => by
    obtain ⟨hrow, hd, hne⟩ := Store.mem_liveRows.mp hr
    exact (hrep _ _).mpr ⟨hne, hrow, hd, rfl⟩
  refine ⟨fun row hr hd => ?_, fun now hnow rows hperm => ?_, fun hc hs now hnow hn => ?_,
    fun state hne => ?_, ?_, fun retiring hr hst => ?_⟩
  · obtain ⟨token, ht⟩ := h.readable hr hd
    exact ⟨token, ht, token.valid⟩
  · have hperm' := hperm.trans hrep.perm.1
    obtain ⟨read, hr⟩ := exists_read fun row hr => hread row (hperm'.mem_iff.mp hr)
    obtain ⟨snapshot, hsnap⟩ := hrep.snapshot_exists h.row hpair hnow hperm' hr
    exact ⟨read, snapshot, hr, hsnap⟩
  · exact Store.loadState_exists h.row hc hs hn hnow hrep hread hpair
  · rw [hrep.countP_eq hne]
    cases tokens.slot state <;> simp
  · rw [hrep.perm.1.length_eq]
    cases tokens <;> simp [LiveTokens.rows]
  · have hs := hslot retiring hr
    rw [hst] at hs
    cases tokens with
    | activeWithRetiring a r =>
      cases hs
      obtain ⟨h₁, h₂, h₃⟩ := hpair
      refine ⟨fun row hrow hstaged => ?_, a, (hlive a).mpr (by simp [LiveTokens.rows]),
        ((hrep .active a).mp rfl).2.2.2, h₁, ?_, h₂⟩
      · have := hslot row hrow
        rw [hstaged] at this
        cases this
      · rw [h₁, h₂, h₃]
    | unprovisioned => cases hs
    | stagedInitial => cases hs
    | active => cases hs
    | activeWithStaged => cases hs

end Store.Sound

/-! ## Samples -/

/-- Identifiers and times for the closed instances of the results. -/
def sampleID (b : UInt8) : UUID := ⟨List.replicate 16 b, List.length_replicate⟩

@[inherit_doc sampleID]
def sampleTime (seconds : Int) : Time := ⟨seconds * 1000000000⟩

/-- A destination that exists since a time. -/
def sampleDestination (seconds : Int) : DestinationRow where
  destinationID := sampleID 2
  audienceID := sampleID 1
  state := .enabled
  createdAt := .ofTime (sampleTime seconds)
  stateChangedAt := .ofTime (sampleTime seconds)

/-- A store with two destinations and no tokens. -/
def sampleStore (seconds : Int) : Store where
  destinations :=
    [sampleDestination seconds, { sampleDestination seconds with destinationID := sampleID 5 }]
  tokens := []
  destinationsValid := {
    primaryKey := by simp [sampleDestination]; decide
    id := by simp [sampleDestination]; decide
    audience := by simp [sampleDestination]; decide
    stateTimeOrder := by simp [sampleDestination] }
  tokensValid := fun c => by cases c <;> simp [TokenConstraint.Holds, OnePerDestination]

/-- A candidate created at a time, that lives for an hour. -/
def sampleCandidate (record : UInt8) (now : Time) : StagedTokenCandidate where
  audienceID := sampleID 1
  destination := sampleID 2
  recordID := sampleID record
  verifier := ⟨.fill 32 record, true⟩
  verifierKeyID := ⟨ByteString.ascii "key", Or.inr (by decide)⟩
  createdAt := now
  expiresAt := now.add 3600000000000
  stagedCleanupDeadline := now.add 3600000000000

/-- The mutations one after the other. -/
def commitAll (ms : List Mutation) (s : Store) : Except Sentinel Store :=
  ms.foldlM (fun s m => m.commit s) s

theorem run_of_commitAll (h : commitAll ms s = .ok s') :
    Run MutationStep s ms s' :=
  .of_foldlM (fun _ _ _ => Or.inr) h

theorem commitAll_snoc {ms : List Mutation} {m : Mutation} {s s'' : Store}
    (h : commitAll (ms ++ [m]) s = .ok s'') :
    ∃ s', commitAll ms s = .ok s' ∧ m.commit s' = .ok s'' := by
  simpa [commitAll, List.foldlM_append, Except.bind_eq_ok] using h

/-- A first token and a rotation that is active: record 4 has replaced record 3. -/
def sampleRotation : List Mutation :=
  [.createStagedToken (sampleCandidate 3 (sampleTime 20)) (sampleTime 20),
    .activateInitialToken (sampleID 1) (sampleID 2) (sampleID 3) (sampleTime 21),
    .createRotationStagedToken ⟨sampleCandidate 4 (sampleTime 22), sampleID 3, sampleTime 22⟩,
    .activateRotation ⟨sampleID 1, sampleID 2, sampleID 4, sampleID 3, sampleTime 23,
      sampleTime 33⟩]

/-- The store after mutations that commit. -/
def sampleAfter (ms : List Mutation) : Store :=
  (commitAll ms (sampleStore 10)).toOption.getD (sampleStore 10)

/-! ## Every run keeps the rows loadable -/

/-- **The rows of a destination are loadable in every run** from a state in which it has
no tokens, if its mutations store no zero time. -/
theorem loadable_of_timesPresent {s s' : Store} {ms : List Mutation}
    {destination : DestinationRow}
    (hrow : s.destination? destination.destinationID = some destination)
    (hempty : ∀ token ∈ s.tokens, token.destinationID ≠ destination.destinationID)
    (hrun : Run MutationStep s ms s')
    (htimes : ∀ m ∈ ms, m.destination = destination.destinationID → m.TimesPresent) :
    s'.Loadable destination :=
  ((Store.Sound.initial hrow hempty).run hrun htimes).loadable

theorem sampleRotation_loadable : ∃ s, Run MutationStep (sampleStore 10) sampleRotation s ∧
    (s.tokens.map TokenRow.state) = [.retiring, .active] ∧ s.Loadable (sampleDestination 10) := by
  obtain ⟨s, hs, htokens⟩ := Except.exists_of_toOption_map
    (show (commitAll sampleRotation (sampleStore 10)).toOption.map
      (fun s => s.tokens.map TokenRow.state) = some [.retiring, .active] by decide +kernel)
  exact ⟨s, run_of_commitAll hs, htokens,
    loadable_of_timesPresent rfl (fun _ ht => absurd ht List.not_mem_nil) (run_of_commitAll hs)
      (by decide)⟩

/-- A live row with a time that cannot be read stands in the way of every load. -/
theorem Store.loadState_ne_ok {row : TokenRow} (hmem : row ∈ s.tokens)
    (hlive : row.state ≠ .revoked) (hzero : ¬ row.TimesPresent) (audience : GatewayAudienceID)
    (now : Time) (state : LifecycleLockedState) :
    s.loadState audience row.destinationID now ≠ .ok state := by
  intro h
  obtain ⟨destination, tokens, hl⟩ := Store.loadState_ok h
  have hrow := hl.represents.mem_rows.mpr ⟨Store.row?_of_mem hmem, rfl, hlive⟩
  exact hzero (hl.present _ hrow).1

/-- A token is staged half a microsecond after Go's zero time. -/
theorem staged_in_zero_microsecond : ∃ s,
    commitAll [.createStagedToken (sampleCandidate 3 ⟨500⟩) ⟨500⟩] (sampleStore (-10)) = .ok s ∧
      s.tokens = [(sampleCandidate 3 ⟨500⟩).row] :=
  Except.exists_of_toOption_map (f := Store.tokens) (by decide +kernel)

/-- **A token created in the first microsecond after Go's zero time cannot be read.**  Its
`created_at` is stored as the zero time, which the mutation had refused as a clock; from
then on no state of the destination is loaded. -/
theorem unreadable_after_zero_microsecond :
    ∃ s row, (sampleStore (-10)).destination? (sampleID 2) = some (sampleDestination (-10)) ∧
      (sampleStore (-10)).tokens = [] ∧
      Run MutationStep (sampleStore (-10)) [.createStagedToken (sampleCandidate 3 ⟨500⟩) ⟨500⟩] s ∧
      s.tokens = [row] ∧
      (∀ verifier keyID, validateDestinationTokenSpec
        (row.spec (sampleDestination (-10)).value verifier keyID) ≠ .ok ()) ∧
      (∀ now state, s.loadState (sampleID 1) (sampleID 2) now ≠ .ok state) ∧
      ¬ s.Loadable (sampleDestination (-10)) := by
  obtain ⟨s, hs, htokens⟩ := staged_in_zero_microsecond
  have hzero : ¬ (sampleCandidate 3 ⟨500⟩).row.TimesPresent := fun h => h.created (by decide)
  have hmem : (sampleCandidate 3 ⟨500⟩).row ∈ s.tokens := by simp [htokens]
  refine ⟨s, _, rfl, rfl, run_of_commitAll hs, htokens, fun verifier keyID h => ?_,
    Store.loadState_ne_ok hmem (by decide) hzero (sampleID 1), fun h => ?_⟩
  · exact (validateDestinationTokenSpec_eq_ok.mp h).history.created rfl
  · obtain ⟨token, ht, -⟩ := h.valid _ hmem rfl
    exact hzero (TokenRow.token_eq_ok.mp ht).1

end OncallGateway
