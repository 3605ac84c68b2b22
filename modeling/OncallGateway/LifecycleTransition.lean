import OncallGateway.LifecycleMutation
import OncallGateway.LiveTokens

/-! # What a committed mutation does

A mutation that commits takes the live tokens of its destination from one shape to
another, and writes the rows that differ.  `Transition` lists the eight ways, one for
each mutation and two for an abort, with everything the guards of the source then
guarantee of the rows and the clock.  `Mutation.commit_ok` is the refinement: every
commit is one of these transitions, and it writes those rows and no other.

The invariants of the lifecycle are proved from `Transition`, and none from the guards
or the statements again.
-/

namespace OncallGateway

/-- A row read under its states' names. -/
abbrev TokenRow.activated (row : TokenRow) (now : Time) : TokenRow := (Change.activate now).apply row

@[inherit_doc TokenRow.activated]
abbrev TokenRow.retired (row : TokenRow) (now overlapDeadline : Time) : TokenRow :=
  (Change.retire now overlapDeadline).apply row

@[inherit_doc TokenRow.activated]
abbrev TokenRow.revoked (row : TokenRow) (now : Time) : TokenRow := (Change.revoke now).apply row

@[inherit_doc TokenRow.activated]
abbrev TokenRow.restored (row : TokenRow) (now : Time) : TokenRow := (Change.restore now).apply row

/-- **The transitions of a destination's live tokens**: the mutation, the shapes before
and after, and the rows written. -/
inductive Transition (s : Store) : Mutation → LiveTokens → LiveTokens → List TokenRow → Prop
  | createStagedToken {candidate : StagedTokenCandidate} {now : Time} (valid : candidate.Valid)
      (created : candidate.createdAt = now) (fresh : s.row? candidate.recordID = none) :
      Transition s (.createStagedToken candidate now) .unprovisioned
        (.stagedInitial candidate.row) [candidate.row]
  | createRotationStagedToken {command : CreateRotationStagedTokenCommand} {active : TokenRow}
      (valid : command.candidate.Valid) (created : command.candidate.createdAt = command.now)
      (fresh : s.row? command.candidate.recordID = none)
      (expected : active.recordID = command.expectedActiveRecordID)
      (inDate : active.view.InDate command.now) :
      Transition s (.createRotationStagedToken command) (.active active)
        (.activeWithStaged active command.candidate.row) [command.candidate.row]
  | activateInitialToken {audience : GatewayAudienceID} {destination : DestinationID} {now : Time}
      {staged : TokenRow} (inDate : staged.view.InDate now) :
      Transition s (.activateInitialToken audience destination staged.recordID now)
        (.stagedInitial staged) (.active (staged.activated now)) [staged.activated now]
  | activateRotation {command : ActivateRotationCommand} {active staged : TokenRow}
      (newRecord : staged.recordID = command.stagedRecordID)
      (oldRecord : active.recordID = command.oldActiveRecordID)
      (distinct : staged.recordID ≠ active.recordID)
      (newInDate : staged.view.InDate command.now) (oldInDate : active.view.InDate command.now)
      (overlap : command.now < command.overlapDeadline)
      (bound : command.overlapDeadline.sub command.now ≤ tokenMaxOverlap)
      (newExpiry : command.overlapDeadline < staged.expiresAt.toTime)
      (oldExpiry : command.overlapDeadline < active.expiresAt.toTime) :
      Transition s (.activateRotation command) (.activeWithStaged active staged)
        (.activeWithRetiring (staged.activated command.now)
          (active.retired command.now command.overlapDeadline))
        [active.retired command.now command.overlapDeadline, staged.activated command.now]
  | abortInitial {audience : GatewayAudienceID} {destination : DestinationID} {now : Time}
      {staged : TokenRow} (changed : staged.stateChangedAt.toTime ≤ now) :
      Transition s (.abortStagedToken audience destination staged.recordID now)
        (.stagedInitial staged) .unprovisioned [staged.revoked now]
  | abortRotation {audience : GatewayAudienceID} {destination : DestinationID} {now : Time}
      {active staged : TokenRow} (changed : staged.stateChangedAt.toTime ≤ now)
      (distinct : staged.recordID ≠ active.recordID)
      (activeChanged : active.stateChangedAt.toTime ≤ now)
      (activeExpiry : now < active.expiresAt.toTime) :
      Transition s (.abortStagedToken audience destination staged.recordID now)
        (.activeWithStaged active staged) (.active active) [staged.revoked now]
  | rollbackRotation {command : RollbackRotationCommand} {active retiring : TokenRow}
      (newRecord : active.recordID = command.newActiveRecordID)
      (oldRecord : retiring.recordID = command.oldRetiringRecordID)
      (distinct : active.recordID ≠ retiring.recordID)
      (changed : active.stateChangedAt.toTime ≤ command.now)
      (newExpiry : command.now < active.expiresAt.toTime)
      (oldExpiry : command.now < retiring.expiresAt.toTime)
      (before : command.now < optionalTime retiring.retirementOverlapDeadline) :
      Transition s (.rollbackRotation command) (.activeWithRetiring active retiring)
        (.active (retiring.restored command.now))
        [active.revoked command.now, retiring.restored command.now]
  | finalizeRotation {command : FinalizeRotationCommand} {active retiring : TokenRow}
      (newRecord : active.recordID = command.newActiveRecordID)
      (oldRecord : retiring.recordID = command.oldRetiringRecordID)
      (distinct : active.recordID ≠ retiring.recordID)
      (changed : active.stateChangedAt.toTime ≤ command.now)
      (newExpiry : command.now < active.expiresAt.toTime)
      (elapsed : command.reason = .deadlineElapsed →
        optionalTime retiring.retirementOverlapDeadline ≤ command.now) :
      Transition s (.finalizeRotation command) (.activeWithRetiring active retiring)
        (.active active) [retiring.revoked command.now]

variable {s s' : Store} {candidate : StagedTokenCandidate} {destination : DestinationID}
  {newActiveID oldRetiringID stagedID : DestinationTokenRecordID}
  {pair : LifecycleTokenView × LifecycleTokenView} {token : TokenRow}
variable {rows : List TokenRow}

/-- A transition writes rows, whose last change is at the time of the mutation. -/
theorem Transition.stamped {m : Mutation} {tokens tokens' : LiveTokens}
    (h : Transition s m tokens tokens' rows) :
    rows ≠ [] ∧ ∀ row ∈ rows, row.stateChangedAt = .ofTime m.now := by
  cases h with
  | createStagedToken valid created =>
    exact ⟨nofun, List.forall_mem_singleton.mpr (congrArg Timestamp.ofTime created)⟩
  | createRotationStagedToken valid created =>
    exact ⟨nofun, List.forall_mem_singleton.mpr (congrArg Timestamp.ofTime created)⟩
  | activateInitialToken => exact ⟨nofun, List.forall_mem_singleton.mpr rfl⟩
  | activateRotation =>
    exact ⟨nofun, List.forall_mem_cons.mpr ⟨rfl, List.forall_mem_singleton.mpr rfl⟩⟩
  | abortInitial => exact ⟨nofun, List.forall_mem_singleton.mpr rfl⟩
  | abortRotation => exact ⟨nofun, List.forall_mem_singleton.mpr rfl⟩
  | rollbackRotation =>
    exact ⟨nofun, List.forall_mem_cons.mpr ⟨rfl, List.forall_mem_singleton.mpr rfl⟩⟩
  | finalizeRotation => exact ⟨nofun, List.forall_mem_singleton.mpr rfl⟩

/-- The rows `rows` are written over the store `s`. -/
structure Store.Writes (s s' : Store) (rows : List TokenRow) : Prop where
  destinations : s'.destinations = s.destinations
  row? : ∀ id, s'.row? id = (Keyed.lookup TokenRow.recordID rows id).or (s.row? id)

/-- **What is known of a commit.** -/
structure Committed (m : Mutation) (s s' : Store) (row : DestinationRow)
    (tokens tokens' : LiveTokens) (rows : List TokenRow) : Prop where
  destination : s.destination? m.destination = some row
  audience : row.audienceID = m.audience
  enabled : row.state = .enabled
  changed : row.stateChangedAt.toTime ≤ m.now
  clock : m.now ≠ 0
  represents : s.Represents m.destination tokens
  present : ∀ token ∈ tokens.rows, token.TimesPresent ∧ token.audienceID = m.audience
  paired : tokens.Paired
  transition : Transition s m tokens tokens' rows
  writes : s.Writes s' rows

/-! ## Writes -/

namespace Store.Writes
variable {s'' : Store}

theorem insert {n : Nat} (h : (Statement.insert candidate).exec s = .ok (s', n)) :
    s.row? candidate.recordID = none ∧ s.Writes s' [candidate.row] := by
  obtain ⟨-, hdest, hfresh, hrow⟩ := Statement.exec_insert_ok h
  refine ⟨hfresh, hdest, fun id => ?_⟩
  rw [hrow]
  by_cases hid : id = candidate.recordID
  · subst hid
    simp [Keyed.lookup, StagedTokenCandidate.row]
  · rw [if_neg hid]
    simp [Keyed.lookup, StagedTokenCandidate.row, Ne.symm hid]

theorem update {state : DestinationTokenState} {audience : GatewayAudienceID}
    {record : DestinationTokenRecordID} {stateChangedAt : Time} {change : Change}
    (h : (Statement.update state audience destination record stateChangedAt change).exec s =
      .ok (s', 1)) :
    ∃ row, s.row? record = some row ∧ s.Writes s' [change.apply row] := by
  obtain ⟨row, hrow, -, -, -, -, hdest, hrow'⟩ := Statement.exec_update_ok h
  refine ⟨row, hrow, hdest, fun id => ?_⟩
  rw [hrow']
  have hrec := Store.recordID_of_row? hrow
  by_cases hid : id = record
  · rw [if_pos hid]
    simp [Keyed.lookup, hrec, hid]
  · rw [if_neg hid]
    simp [Keyed.lookup, hrec, Ne.symm hid]

/-- A second write to another record. -/
theorem trans {row row' : TokenRow} (h : s.Writes s' [row]) (h' : s'.Writes s'' [row'])
    (hne : row.recordID ≠ row'.recordID) : s.Writes s'' [row, row'] := by
  refine ⟨h'.destinations.trans h.destinations, fun id => ?_⟩
  rw [h'.row?, h.row?]
  by_cases h₁ : row.recordID = id
  · subst h₁
    simp [Keyed.lookup, hne.symm]
  · by_cases h₂ : row'.recordID = id <;> simp [Keyed.lookup, h₁, h₂]

end Store.Writes

theorem runStatements_cons {statement : Statement} {statements : List Statement} :
    runStatements (statement :: statements) s = .ok s' ↔
      ∃ s₁, statement.exec s = .ok (s₁, 1) ∧ runStatements statements s₁ = .ok s' := by
  cases h : statement.exec s with
  | error c => simp [runStatements, h]
  | ok result =>
    obtain ⟨s₁, n⟩ := result
    simp only [runStatements, h, Except.bind_eq_ok, lifecycleRowsAffected_eq_ok, exists_const,
      Except.ok.injEq, Prod.mk.injEq]
    constructor
    · rintro ⟨rfl, hrest⟩
      exact ⟨s₁, ⟨rfl, rfl⟩, hrest⟩
    · rintro ⟨_, ⟨rfl, rfl⟩, hrest⟩
      exact ⟨rfl, hrest⟩

theorem runStatements_nil : runStatements [] s = .ok s' ↔ s = s' := by
  simp [runStatements]

/-! ## From the guards to the transitions -/

theorem lifecycleRotationPair_eq_ok {state : LifecycleLockedState} {now : Time}
    {allowRetiringStale : Bool} :
    lifecycleRotationPair state newActiveID oldRetiringID now allowRetiringStale = .ok pair ↔
      state.snapshot.active = some pair.1 ∧ state.snapshot.retiring = some pair.2 ∧
      (state.snapshot.staged = none ∧ pair.1.recordID = newActiveID ∧
        pair.2.recordID = oldRetiringID) ∧
      (state.destination.Enabled ∧ now < pair.1.expiresAt ∧ pair.1.activatedAt ≤ now ∧
        pair.1.stateChangedAt ≤ now ∧ pair.2.activatedAt ≤ now ∧
        pair.2.retirementStartedAt ≤ now ∧ pair.2.stateChangedAt ≤ now ∧
        pair.1.activatedAt = pair.1.stateChangedAt ∧
        pair.1.activatedAt = pair.2.retirementStartedAt ∧
        pair.2.retirementStartedAt = pair.2.stateChangedAt ∧ pair.2.retirementDeadline ≠ 0) ∧
      (allowRetiringStale = false → now < pair.2.expiresAt) := by
  obtain ⟨active, retiring⟩ := pair
  unfold lifecycleRotationPair
  cases ha : state.snapshot.active with
  | none => simp
  | some a =>
    cases hr : state.snapshot.retiring with
    | none => simp
    | some r =>
      simp only [Except.bind_eq_ok, Except.refuseIf_eq_ok, exists_const, not_or, not_not, not_and,
        Except.pure_eq_ok, Option.not_isSome_iff_eq_none, not_lt, not_le, gt_iff_lt,
        Option.some.injEq, Prod.mk.injEq, ne_eq]
      constructor
      · rintro ⟨h₁, h₂, h₃, rfl, rfl⟩
        exact ⟨rfl, rfl, h₁, h₂, h₃⟩
      · rintro ⟨rfl, rfl, h₁, h₂, h₃⟩
        exact ⟨h₁, h₂, h₃, rfl, rfl⟩

namespace Loaded
variable {audience : GatewayAudienceID} {id : DestinationID} {now : Time} {row : DestinationRow}
  {tokens : LiveTokens} {state : LifecycleLockedState} {statements : List Statement}

section
variable (hl : Loaded s audience id now row tokens state)
include hl

theorem exists_slot (slot : DestinationTokenState) {view : LifecycleTokenView}
    (h : state.snapshot.slot slot = some view) :
    ∃ token, tokens.slot slot = some token ∧ token.view = view := by
  rw [hl.slots] at h
  simpa using h

theorem row?_of_slot (slot : DestinationTokenState) (h : tokens.slot slot = some token) :
    s.row? token.recordID = some token :=
  ((hl.represents slot token).mp h).2.1

theorem enabled_iff :
    state.destination.Enabled ↔ row.state = .enabled := by
  rw [hl.value]
  exact Iff.rfl

theorem isNone_slot (slot : DestinationTokenState) (h : state.snapshot.slot slot = none) :
    tokens.slot slot = none := by
  rw [hl.slots] at h
  simpa using h

theorem createStagedToken (hinput : (Mutation.createStagedToken candidate now).checkInput = .ok ())
    (hplan : (Mutation.createStagedToken candidate now).plan state = .ok statements)
    (hrun : runStatements statements s = .ok s') :
    row.state = .enabled ∧ ∃ tokens' rows,
      Transition s (.createStagedToken candidate now) tokens tokens' rows ∧ s.Writes s' rows := by
  simp only [Mutation.checkInput, Except.bind_eq_ok, Except.refuseIf_eq_ok,
    Except.relabel_eq_ok, not_or, not_not] at hinput
  obtain ⟨validated, hvalid, -, -, hcreated⟩ := hinput
  obtain ⟨-, hvalid⟩ := StagedTokenCandidate.revalidate_ok hvalid
  simp only [Mutation.plan, Except.bind_eq_ok, Except.refuseIf_eq_ok, exists_const, not_not,
    hl.enabled_iff] at hplan
  obtain ⟨henabled, hplan⟩ := hplan
  have hslots := hl.status
  cases hstatus : state.snapshot.status <;> rw [hstatus] at hplan hslots <;> cases hplan
  obtain ⟨hs, ha, hr⟩ := hslots
  have htokens : tokens = .unprovisioned := by
    have h₁ := hl.isNone_slot .staged hs
    have h₂ := hl.isNone_slot .active ha
    cases tokens <;> simp_all [LiveTokens.slot]
  simp only [runStatements_cons, runStatements_nil] at hrun
  obtain ⟨_, hexec, rfl⟩ := hrun
  obtain ⟨hfresh, hwrites⟩ := Store.Writes.insert hexec
  subst htokens
  exact ⟨henabled, _, _, .createStagedToken hvalid hcreated hfresh, hwrites⟩

end

theorem createRotationStagedToken {command : CreateRotationStagedTokenCommand}
    (hl : Loaded s audience id command.now row tokens state)
    (hinput : (Mutation.createRotationStagedToken command).checkInput = .ok ())
    (hplan : (Mutation.createRotationStagedToken command).plan state = .ok statements)
    (hrun : runStatements statements s = .ok s') :
    row.state = .enabled ∧ ∃ tokens' rows,
      Transition s (.createRotationStagedToken command) tokens tokens' rows ∧
        s.Writes s' rows := by
  simp only [Mutation.checkInput, Except.bind_eq_ok, Except.refuseIf_eq_ok,
    Except.relabel_eq_ok] at hinput
  obtain ⟨validated, hcommand, -⟩ := hinput
  unfold newCreateRotationStagedTokenCommand at hcommand
  cases hval : command.candidate.revalidate with
  | error e => simp [hval] at hcommand
  | ok candidate =>
    obtain ⟨rfl, hvalid⟩ := StagedTokenCandidate.revalidate_ok hval
    simp only [hval] at hcommand
    split at hcommand
    · cases hcommand
    rename_i hgood
    simp only [not_or, not_not] at hgood
    simp only [Mutation.plan, Except.bind_eq_ok, Except.refuseIf_eq_ok, exists_const, not_or,
      not_not, hl.enabled_iff] at hplan
    obtain ⟨⟨henabled, hfresh⟩, hplan⟩ := hplan
    cases hactive : state.snapshot.active with
    | none => simp [hactive, throw, throwThe, MonadExceptOf.throw] at hplan
    | some view =>
      simp only [hactive, Except.bind_eq_ok, Except.refuseIf_eq_ok, exists_const, not_or, not_not,
        Except.pure_eq_ok, Option.not_isSome_iff_eq_none] at hplan
      obtain ⟨⟨-, hs, hr, hid⟩, rfl⟩ := hplan
      obtain ⟨active, ha, rfl⟩ := hl.exists_slot .active hactive
      have htokens : tokens = .active active := by
        have h₁ := hl.isNone_slot .staged hs
        have h₂ := hl.isNone_slot .retiring hr
        cases tokens <;> simp_all [LiveTokens.slot]
      simp only [runStatements_cons, runStatements_nil] at hrun
      obtain ⟨_, hexec, rfl⟩ := hrun
      obtain ⟨hnew, hwrites⟩ := Store.Writes.insert hexec
      subst htokens
      exact ⟨henabled, _, _, .createRotationStagedToken hvalid hgood.2.2.2.2 hnew hid
        ((hl.inDate.mp hfresh).2 active (by simp [LiveTokens.rows])), hwrites⟩

theorem activateInitialToken (hl : Loaded s audience id now row tokens state)
    (hplan : (Mutation.activateInitialToken audience destination stagedID now).plan state =
      .ok statements) (hrun : runStatements statements s = .ok s') :
    row.state = .enabled ∧ ∃ tokens' rows,
      Transition s (.activateInitialToken audience destination stagedID now) tokens tokens' rows ∧
        s.Writes s' rows := by
  simp only [Mutation.plan, Except.bind_eq_ok, Except.refuseIf_eq_ok, exists_const] at hplan
  obtain ⟨hfresh, hplan⟩ := hplan
  cases hstaged : state.snapshot.staged with
  | none => simp [hstaged, throw, throwThe, MonadExceptOf.throw] at hplan
  | some view =>
    simp only [hstaged, Except.bind_eq_ok, Except.refuseIf_eq_ok, exists_const, not_or, not_not,
      Except.pure_eq_ok] at hplan
    obtain ⟨⟨hstatus, hid⟩, rfl⟩ := hplan
    obtain ⟨staged, hs, rfl⟩ := hl.exists_slot .staged hstaged
    have hslots := hl.status
    rw [hstatus] at hslots
    have htokens : tokens = .stagedInitial staged := by
      have h₁ := hl.isNone_slot .active hslots.2.1
      cases tokens <;> simp_all [LiveTokens.slot]
    obtain ⟨henabled, hdate⟩ := hl.inDate.mp hfresh
    simp only [runStatements_cons, runStatements_nil, activateInitialLifecycleTokenSQL] at hrun
    obtain ⟨_, hexec, rfl⟩ := hrun
    obtain ⟨old, hold, hwrites⟩ := Store.Writes.update hexec
    change staged.recordID = stagedID at hid
    subst htokens hid
    rw [hl.row?_of_slot _ hs] at hold
    cases hold
    exact ⟨henabled, _, _, .activateInitialToken (hdate staged (by simp [LiveTokens.rows])), hwrites⟩

theorem activateRotation {command : ActivateRotationCommand}
    (hl : Loaded s audience id command.now row tokens state)
    (hinput : (Mutation.activateRotation command).checkInput = .ok ())
    (hplan : (Mutation.activateRotation command).plan state = .ok statements)
    (hrun : runStatements statements s = .ok s') :
    row.state = .enabled ∧ ∃ tokens' rows,
      Transition s (.activateRotation command) tokens tokens' rows ∧ s.Writes s' rows := by
  simp only [Mutation.checkInput, Except.refuseIf_eq_ok, not_or, not_lt, not_le] at hinput
  obtain ⟨-, -, hne, hoverlap, hbound⟩ := hinput
  simp only [Mutation.plan, Except.bind_eq_ok, Except.refuseIf_eq_ok, exists_const] at hplan
  obtain ⟨hfresh, hplan⟩ := hplan
  cases hstaged : state.snapshot.staged with
  | none => simp [hstaged, throw, throwThe, MonadExceptOf.throw] at hplan
  | some sview =>
    cases hactive : state.snapshot.active with
    | none => simp [hstaged, hactive, throw, throwThe, MonadExceptOf.throw] at hplan
    | some aview =>
      simp only [hstaged, hactive, Except.bind_eq_ok, Except.refuseIf_eq_ok, exists_const, not_or,
        not_not, Except.pure_eq_ok] at hplan
      obtain ⟨⟨hstatus, hsid, haid⟩, ⟨hse, hae⟩, rfl⟩ := hplan
      obtain ⟨staged, hs, rfl⟩ := hl.exists_slot .staged hstaged
      obtain ⟨active, ha, rfl⟩ := hl.exists_slot .active hactive
      have htokens : tokens = .activeWithStaged active staged := by
        cases tokens <;> simp_all [LiveTokens.slot]
      obtain ⟨henabled, hdate⟩ := hl.inDate.mp hfresh
      change staged.recordID = command.stagedRecordID at hsid
      change active.recordID = command.oldActiveRecordID at haid
      simp only [runStatements_cons, runStatements_nil, retireLifecycleTokenSQL,
        activateRotationLifecycleTokenSQL] at hrun
      obtain ⟨s₁, hexec₁, _, hexec₂, rfl⟩ := hrun
      obtain ⟨old, hold, hw₁⟩ := Store.Writes.update hexec₁
      obtain ⟨new, hnew, hw₂⟩ := Store.Writes.update hexec₂
      rw [← haid, hl.row?_of_slot _ ha] at hold
      cases hold
      have hdistinct : staged.recordID ≠ active.recordID := by
        rw [hsid, haid]
        exact hne
      -- the second statement sees the staged row as it was
      rw [hw₁.row?, ← hsid, hl.row?_of_slot _ hs] at hnew
      simp only [Keyed.lookup, List.find?_cons, Change.apply_recordID, List.find?_nil,
        decide_eq_false hdistinct.symm, Option.none_or, Option.some.injEq] at hnew
      subst hnew htokens
      exact ⟨henabled, _, _, .activateRotation hsid haid hdistinct
        (hdate staged (by simp [LiveTokens.rows])) (hdate active (by simp [LiveTokens.rows]))
        hoverlap hbound hse hae, hw₁.trans hw₂ (by simpa using hdistinct.symm)⟩

/-- What `lifecycleStagedAbortAllowed` guarantees, whether or not the snapshot is in
date. -/
theorem abortAllowed (hl : Loaded s audience id now row tokens state) {staged : TokenRow}
    (hs : tokens.slot .staged = some staged)
    (h : lifecycleStagedAbortAllowed state staged.view now = .ok ()) :
    row.state = .enabled ∧ staged.stateChangedAt.toTime ≤ now ∧
      ∀ active, tokens.slot .active = some active →
        active.stateChangedAt.toTime ≤ now ∧ now < active.expiresAt.toTime := by
  have hmem : ∀ {slot token}, tokens.slot slot = some token → token ∈ tokens.rows :=
    fun h => LiveTokens.mem_rows.mpr ⟨_, h⟩
  have hfresh : state.snapshot.status ≠ .reconciliationRequired →
      row.state = .enabled ∧ staged.stateChangedAt.toTime ≤ now ∧
      ∀ active, tokens.slot .active = some active →
        active.stateChangedAt.toTime ≤ now ∧ now < active.expiresAt.toTime := by
    intro hne
    obtain ⟨henabled, hdate⟩ := hl.inDate.mp hne
    refine ⟨henabled, (hdate staged (hmem hs)).2.1, fun active ha => ?_⟩
    have hstate := ((hl.represents _ _).mp ha).2.2.2
    have hd := (hdate active (hmem ha)).2
    simp only [TokenRow.view, hstate] at hd
    exact ⟨hd.1, hd.2.2⟩
  unfold lifecycleStagedAbortAllowed at h
  cases hstatus : state.snapshot.status with
  | stagedInitial => exact hfresh (by simp [hstatus])
  | activeWithStaged => exact hfresh (by simp [hstatus])
  | reconciliationRequired =>
    simp only [hstatus, Except.bind_eq_ok, Except.refuseIf_eq_ok, exists_const, not_or, not_not,
      hl.enabled_iff, not_lt, gt_iff_lt] at h
    obtain ⟨⟨henabled, hchanged, -⟩, hactive⟩ := h
    refine ⟨henabled, hchanged, fun active ha => ?_⟩
    have hview : state.snapshot.active = some active.view := by
      have := hl.slots .active
      rw [ha] at this
      exact this
    simp only [hview, Except.refuseIf_eq_ok, not_or, not_lt, not_le] at hactive
    exact hactive.2
  | unprovisioned => simp [hstatus] at h
  | active => simp [hstatus] at h
  | activeWithRetiring => simp [hstatus] at h

theorem abortStagedToken (hl : Loaded s audience id now row tokens state)
    (hplan : (Mutation.abortStagedToken audience destination stagedID now).plan state =
      .ok statements) (hrun : runStatements statements s = .ok s') :
    row.state = .enabled ∧ ∃ tokens' rows,
      Transition s (.abortStagedToken audience destination stagedID now) tokens tokens' rows ∧
        s.Writes s' rows := by
  cases hstaged : state.snapshot.staged with
  | none => simp [Mutation.plan, hstaged, throw, throwThe, MonadExceptOf.throw] at hplan
  | some view =>
    simp only [Mutation.plan, hstaged, Except.bind_eq_ok, Except.refuseIf_eq_ok, exists_const,
      not_or, not_not, Except.pure_eq_ok] at hplan
    obtain ⟨⟨hr, hid⟩, _, hallowed, rfl⟩ := hplan
    obtain ⟨staged, hs, rfl⟩ := hl.exists_slot .staged hstaged
    obtain ⟨henabled, hchanged, hactive⟩ := hl.abortAllowed hs hallowed
    simp only [runStatements_cons, runStatements_nil, revokeStagedLifecycleTokenSQL] at hrun
    obtain ⟨_, hexec, rfl⟩ := hrun
    obtain ⟨old, hold, hwrites⟩ := Store.Writes.update hexec
    change staged.recordID = stagedID at hid
    subst hid
    rw [hl.row?_of_slot _ hs] at hold
    cases hold
    cases tokens with
    | stagedInitial =>
      cases hs
      exact ⟨henabled, _, _, .abortInitial hchanged, hwrites⟩
    | activeWithStaged active =>
      cases hs
      obtain ⟨hac, hae⟩ := hactive active rfl
      refine ⟨henabled, _, _, .abortRotation hchanged ?_ hac hae, hwrites⟩
      -- one record is not both staged and active
      intro heq
      have ha := hl.row?_of_slot .active rfl
      rw [← heq, hl.row?_of_slot .staged rfl] at ha
      have hst := ((hl.represents .staged _).mp rfl).2.2.2
      rw [Option.some.inj ha, ((hl.represents .active active).mp rfl).2.2.2] at hst
      cases hst
    | unprovisioned => cases hs
    | active => cases hs
    | activeWithRetiring => cases hs

theorem exists_pair (hl : Loaded s audience id now row tokens state) {stale : Bool}
    (h : lifecycleRotationPair state newActiveID oldRetiringID now stale = .ok pair) :
    ∃ active retiring, tokens = .activeWithRetiring active retiring ∧
      pair = (active.view, retiring.view) := by
  obtain ⟨ha, hr, -⟩ := lifecycleRotationPair_eq_ok.mp h
  obtain ⟨active, hsa, hva⟩ := hl.exists_slot .active ha
  obtain ⟨retiring, hsr, hvr⟩ := hl.exists_slot .retiring hr
  refine ⟨active, retiring, ?_, by rw [hva, hvr]⟩
  cases tokens <;> simp_all [LiveTokens.slot]

theorem rollbackRotation {command : RollbackRotationCommand}
    (hl : Loaded s audience id command.now row tokens state)
    (hinput : (Mutation.rollbackRotation command).checkInput = .ok ())
    (hplan : (Mutation.rollbackRotation command).plan state = .ok statements)
    (hrun : runStatements statements s = .ok s') :
    row.state = .enabled ∧ ∃ tokens' rows,
      Transition s (.rollbackRotation command) tokens tokens' rows ∧ s.Writes s' rows := by
  simp only [Mutation.checkInput, Except.refuseIf_eq_ok, not_or] at hinput
  obtain ⟨-, -, hne⟩ := hinput
  simp only [Mutation.plan, Except.bind_eq_ok, Except.refuseIf_eq_ok, exists_const,
    Except.pure_eq_ok, not_not] at hplan
  obtain ⟨pair, hpair, hbefore, rfl⟩ := hplan
  obtain ⟨active, retiring, rfl, rfl⟩ := hl.exists_pair hpair
  obtain ⟨-, -, ⟨-, hnew, hold⟩, ⟨henabled, hae, -, hac, -⟩, hre⟩ :=
    lifecycleRotationPair_eq_ok.mp hpair
  change active.recordID = command.newActiveRecordID at hnew
  change retiring.recordID = command.oldRetiringRecordID at hold
  have hdistinct : active.recordID ≠ retiring.recordID := by
    rw [hnew, hold]
    exact hne
  simp only [runStatements_cons, runStatements_nil, revokeActiveLifecycleTokenSQL,
    restoreRetiringLifecycleTokenSQL] at hrun
  obtain ⟨s₁, hexec₁, _, hexec₂, rfl⟩ := hrun
  obtain ⟨row₁, hrow₁, hw₁⟩ := Store.Writes.update hexec₁
  obtain ⟨row₂, hrow₂, hw₂⟩ := Store.Writes.update hexec₂
  rw [← hnew, hl.row?_of_slot .active rfl] at hrow₁
  cases hrow₁
  rw [hw₁.row?, ← hold, hl.row?_of_slot .retiring rfl] at hrow₂
  simp only [Keyed.lookup, List.find?_cons, Change.apply_recordID, List.find?_nil,
    decide_eq_false hdistinct, Option.none_or, Option.some.injEq] at hrow₂
  subst hrow₂
  exact ⟨hl.enabled_iff.mp henabled, _, _, .rollbackRotation hnew hold hdistinct hac hae (hre rfl)
    hbefore, hw₁.trans hw₂ (by simpa using hdistinct)⟩

theorem finalizeRotation {command : FinalizeRotationCommand}
    (hl : Loaded s audience id command.now row tokens state)
    (hinput : (Mutation.finalizeRotation command).checkInput = .ok ())
    (hplan : (Mutation.finalizeRotation command).plan state = .ok statements)
    (hrun : runStatements statements s = .ok s') :
    row.state = .enabled ∧ ∃ tokens' rows,
      Transition s (.finalizeRotation command) tokens tokens' rows ∧ s.Writes s' rows := by
  simp only [Mutation.checkInput, Except.refuseIf_eq_ok, not_or] at hinput
  obtain ⟨-, -, hne, -⟩ := hinput
  simp only [Mutation.plan, Except.bind_eq_ok, Except.refuseIf_eq_ok, exists_const,
    Except.pure_eq_ok, not_and, not_lt] at hplan
  obtain ⟨pair, hpair, helapsed, rfl⟩ := hplan
  obtain ⟨active, retiring, rfl, rfl⟩ := hl.exists_pair hpair
  obtain ⟨-, -, ⟨-, hnew, hold⟩, ⟨henabled, hae, -, hac, -⟩, -⟩ :=
    lifecycleRotationPair_eq_ok.mp hpair
  change active.recordID = command.newActiveRecordID at hnew
  change retiring.recordID = command.oldRetiringRecordID at hold
  have hdistinct : active.recordID ≠ retiring.recordID := by
    rw [hnew, hold]
    exact hne
  simp only [runStatements_cons, runStatements_nil, revokeRetiringLifecycleTokenSQL] at hrun
  obtain ⟨_, hexec, rfl⟩ := hrun
  obtain ⟨row₁, hrow₁, hwrites⟩ := Store.Writes.update hexec
  rw [← hold, hl.row?_of_slot .retiring rfl] at hrow₁
  cases hrow₁
  exact ⟨hl.enabled_iff.mp henabled, _, _, .finalizeRotation hnew hold hdistinct hac hae helapsed,
    hwrites⟩

end Loaded

/-- **Every commit is a transition of the destination's live tokens**, made at a time
not before the destination's own, while the destination is enabled. -/
theorem Mutation.commit_ok {m : Mutation} (h : m.commit s = .ok s') :
    ∃ row tokens tokens' rows, Committed m s s' row tokens tokens' rows := by
  obtain ⟨hinput, -, state, statements, hload, hplan, hrun⟩ := Mutation.commit_eq_ok.mp h
  obtain ⟨row, tokens, hl⟩ := Store.loadState_ok hload
  have key : row.state = .enabled ∧ ∃ tokens' rows,
      Transition s m tokens tokens' rows ∧ s.Writes s' rows := by
    cases m with
    | createStagedToken candidate now => exact hl.createStagedToken hinput hplan hrun
    | createRotationStagedToken command => exact hl.createRotationStagedToken hinput hplan hrun
    | activateInitialToken audience destination stagedID now =>
      exact hl.activateInitialToken hplan hrun
    | activateRotation command => exact hl.activateRotation hinput hplan hrun
    | abortStagedToken audience destination stagedID now => exact hl.abortStagedToken hplan hrun
    | rollbackRotation command => exact hl.rollbackRotation hinput hplan hrun
    | finalizeRotation command => exact hl.finalizeRotation hinput hplan hrun
  obtain ⟨henabled, tokens', rows, htrans, hwrites⟩ := key
  exact ⟨row, tokens, tokens', rows, hl.destination, hl.ofAudience, henabled, hl.changed, hl.clock,
    hl.represents, hl.present, hl.paired, htrans, hwrites⟩

/-! ## The state after a commit -/

/-- Live tokens after rows of their destination were written. -/
theorem Store.Represents.of_writes {tokens tokens' : LiveTokens}
    (h : s.Represents destination tokens) (hw : s.Writes s' rows)
    (hkeys : (rows.map TokenRow.recordID).Nodup)
    (hdest : ∀ row ∈ rows, row.destinationID = destination)
    (hslots : ∀ state row, tokens'.slot state = some row ↔ state ≠ .revoked ∧ row.state = state ∧
      (row ∈ rows ∨ tokens.slot state = some row ∧ ∀ written ∈ rows,
        written.recordID ≠ row.recordID)) :
    s'.Represents destination tokens' := by
  intro state row
  rw [hslots, h, hw.row?]
  cases hlookup : Keyed.lookup TokenRow.recordID rows row.recordID with
  | none =>
    have hnone := Keyed.lookup_eq_none.mp hlookup
    have hnot : row ∉ rows := fun hmem => hnone row hmem rfl
    simp only [hnot, Option.none_or, false_or]
    constructor
    · rintro ⟨hne, hst, ⟨-, hrow, hd, -⟩, -⟩
      exact ⟨hne, hrow, hd, hst⟩
    · rintro ⟨hne, hrow, hd, hst⟩
      exact ⟨hne, hst, ⟨hne, hrow, hd, hst⟩, hnone⟩
  | some written =>
    have hmem := Keyed.mem_of_lookup hlookup
    have hkey := Keyed.key_of_lookup hlookup
    simp only [Option.some_or, Option.some.injEq]
    constructor
    · rintro ⟨hne, hst, hrow | ⟨-, hnone⟩⟩
      · rw [Keyed.lookup_of_mem hkeys hrow, Option.some.injEq] at hlookup
        exact ⟨hne, hlookup.symm, hdest row hrow, hst⟩
      · exact absurd hkey (hnone written hmem)
    · rintro ⟨hne, rfl, -, hst⟩
      exact ⟨hne, hst, Or.inl hmem⟩

namespace Committed
variable {m : Mutation} {row : DestinationRow} {tokens tokens' : LiveTokens}

section
variable (h : Committed m s s' row tokens tokens' rows)
include h

theorem state_eq {state : DestinationTokenState} (ht : tokens.slot state = some token) :
    token.state = state ∧ token.destinationID = m.destination :=
  ⟨((h.represents _ _).mp ht).2.2.2, ((h.represents _ _).mp ht).2.2.1⟩

/-- The rows written belong to the destination, one for each record. -/
theorem written :
    (rows.map TokenRow.recordID).Nodup ∧ ∀ written ∈ rows,
      written.destinationID = m.destination := by
  have hd : ∀ state {token}, tokens.slot state = some token →
      token.destinationID = m.destination := fun _ _ ht => (h.state_eq ht).2
  cases h.transition with
  | createStagedToken => simp [StagedTokenCandidate.row, Mutation.destination]
  | createRotationStagedToken => simp [StagedTokenCandidate.row, Mutation.destination]
  | activateInitialToken => simpa using hd .staged rfl
  | activateRotation hn ho hne =>
    simpa [hne.symm] using ⟨hd .active rfl, hd .staged rfl⟩
  | abortInitial => simpa using hd .staged rfl
  | abortRotation => simpa using hd .staged rfl
  | rollbackRotation hn ho hne =>
    simpa [hne] using ⟨hd .active rfl, hd .retiring rfl⟩
  | finalizeRotation => simpa using hd .retiring rfl

/-- **The live tokens after the commit** are those of the transition. -/
theorem after :
    s'.Represents m.destination tokens' := by
  obtain ⟨hkeys, hdest⟩ := h.written
  have hst : ∀ state {token}, tokens.slot state = some token → token.state = state :=
    fun _ _ ht => (h.state_eq ht).1
  refine h.represents.of_writes h.writes hkeys hdest fun state token => ?_
  cases h.transition with
  | createStagedToken hv hc hf =>
    constructor
    · intro ht
      cases state <;> cases ht
      exact ⟨by simp, rfl, by simp⟩
    · rintro ⟨hne, rfl, ht | ⟨ht, -⟩⟩
      · rw [List.mem_singleton.mp ht]
        rfl
      · cases token.state <;> cases ht
  | createRotationStagedToken hv hc hf he hi =>
    constructor
    · intro ht
      cases state <;> cases ht
      · exact ⟨by simp, rfl, by simp⟩
      · refine ⟨by simp, hst .active rfl, Or.inr ⟨rfl, ?_⟩⟩
        intro w hw heq
        rw [List.mem_singleton.mp hw] at heq
        have := ((h.represents .active _).mp rfl).2.1
        rw [← heq] at this
        exact absurd (this.symm.trans hf) (by simp)
    · rintro ⟨hne, rfl, ht | ⟨ht, -⟩⟩
      · rw [List.mem_singleton.mp ht]
        rfl
      · cases hs : token.state <;> rw [hs] at ht <;> cases ht
        rfl
  | activateInitialToken hi =>
    constructor
    · intro ht
      cases state <;> cases ht
      exact ⟨by simp, rfl, by simp⟩
    · rintro ⟨hne, rfl, ht | ⟨ht, hnot⟩⟩
      · rw [List.mem_singleton.mp ht]
        rfl
      · cases hs : token.state <;> rw [hs] at ht <;> cases ht
        exact (hnot _ List.mem_cons_self (Change.apply_recordID _ _)).elim
  | activateRotation hn ho hne =>
    constructor
    · intro ht
      cases state <;> cases ht
      · exact ⟨by simp, rfl, by simp⟩
      · exact ⟨by simp, rfl, by simp⟩
    · rintro ⟨-, rfl, ht | ⟨ht, hnot⟩⟩
      · simp only [List.mem_cons, List.not_mem_nil, or_false] at ht
        rcases ht with rfl | rfl <;> rfl
      · cases hs : token.state <;> rw [hs] at ht <;> cases ht
        · exact (hnot _ (List.mem_cons_of_mem _ List.mem_cons_self) (Change.apply_recordID _ _)).elim
        · exact (hnot _ List.mem_cons_self (Change.apply_recordID _ _)).elim
  | abortInitial hc =>
    constructor
    · intro ht
      cases ht
    · rintro ⟨hrev, rfl, ht | ⟨ht, hnot⟩⟩
      · rw [List.mem_singleton.mp ht] at hrev
        exact absurd rfl hrev
      · cases hs : token.state <;> rw [hs] at ht <;> cases ht
        exact (hnot _ List.mem_cons_self (Change.apply_recordID _ _)).elim
  | abortRotation hc hne =>
    constructor
    · intro ht
      cases state <;> cases ht
      exact ⟨by simp, hst .active rfl, Or.inr ⟨rfl, by simpa using hne⟩⟩
    · rintro ⟨hrev, rfl, ht | ⟨ht, hnot⟩⟩
      · rw [List.mem_singleton.mp ht] at hrev
        exact absurd rfl hrev
      · cases hs : token.state <;> rw [hs] at ht <;> cases ht
        · exact (hnot _ List.mem_cons_self (Change.apply_recordID _ _)).elim
        · rfl
  | rollbackRotation hn ho hne =>
    constructor
    · intro ht
      cases state <;> cases ht
      exact ⟨by simp, rfl, by simp⟩
    · rintro ⟨hrev, rfl, ht | ⟨ht, hnot⟩⟩
      · simp only [List.mem_cons, List.not_mem_nil, or_false] at ht
        rcases ht with rfl | rfl
        · exact absurd rfl hrev
        · rfl
      · cases hs : token.state <;> rw [hs] at ht <;> cases ht
        · exact (hnot _ List.mem_cons_self (Change.apply_recordID _ _)).elim
        · exact (hnot _ (List.mem_cons_of_mem _ List.mem_cons_self) (Change.apply_recordID _ _)).elim
  | finalizeRotation hn ho hne =>
    constructor
    · intro ht
      cases state <;> cases ht
      exact ⟨by simp, hst .active rfl, Or.inr ⟨rfl, by simpa using hne.symm⟩⟩
    · rintro ⟨hrev, rfl, ht | ⟨ht, hnot⟩⟩
      · rw [List.mem_singleton.mp ht] at hrev
        exact absurd rfl hrev
      · cases hs : token.state <;> rw [hs] at ht <;> cases ht
        · rfl
        · exact (hnot _ List.mem_cons_self (Change.apply_recordID _ _)).elim

/-- **A row that is written** is that of a new record, or a live token of the
destination with a change; its new times are those of the mutation. -/
theorem written_cases {written : TokenRow} (hw : written ∈ rows) :
    (∃ candidate : StagedTokenCandidate, candidate.Valid ∧ written = candidate.row ∧
      s.row? candidate.recordID = none ∧ candidate.times = m.times) ∨
    ∃ state old, ∃ change : Change, tokens.slot state = some old ∧ written = change.apply old ∧
      change.times ⊆ m.times := by
  cases h.transition with
  | createStagedToken hv hc hf => exact Or.inl ⟨_, hv, List.mem_singleton.mp hw, hf, rfl⟩
  | createRotationStagedToken hv hc hf => exact Or.inl ⟨_, hv, List.mem_singleton.mp hw, hf, rfl⟩
  | activateInitialToken =>
    exact Or.inr ⟨.staged, _, _, rfl, List.mem_singleton.mp hw, List.Subset.refl _⟩
  | activateRotation =>
    simp only [List.mem_cons, List.not_mem_nil, or_false] at hw
    rcases hw with rfl | rfl
    · exact Or.inr ⟨.active, _, _, rfl, rfl, List.Subset.refl _⟩
    · exact Or.inr ⟨.staged, _, _, rfl, rfl, by simp [Change.times, Mutation.times]⟩
  | abortInitial =>
    exact Or.inr ⟨.staged, _, _, rfl, List.mem_singleton.mp hw, List.Subset.refl _⟩
  | abortRotation =>
    exact Or.inr ⟨.staged, _, _, rfl, List.mem_singleton.mp hw, List.Subset.refl _⟩
  | rollbackRotation =>
    simp only [List.mem_cons, List.not_mem_nil, or_false] at hw
    rcases hw with rfl | rfl
    · exact Or.inr ⟨.active, _, _, rfl, rfl, List.Subset.refl _⟩
    · exact Or.inr ⟨.retiring, _, _, rfl, rfl, List.Subset.refl _⟩
  | finalizeRotation =>
    exact Or.inr ⟨.retiring, _, _, rfl, List.mem_singleton.mp hw, List.Subset.refl _⟩

variable {id : DestinationTokenRecordID}

/-- **The frame of a commit**: a row of another destination and a revoked row are kept.
In particular revocation is final. -/
theorem frame (ht : s.row? id = some token)
    (hkeep : token.destinationID ≠ m.destination ∨ token.state = .revoked) :
    s'.row? id = some token := by
  have hnone : Keyed.lookup TokenRow.recordID rows id = none := by
    refine Keyed.lookup_eq_none.mpr fun w hw hid => ?_
    rcases h.written_cases hw with ⟨candidate, -, rfl, hnew, -⟩ | ⟨state, old, change, hslot, rfl, -⟩
    · rw [show candidate.recordID = id from hid, ht] at hnew
      cases hnew
    · obtain ⟨hne, hold, hd, hst⟩ := (h.represents _ _).mp hslot
      rw [← Change.apply_recordID old change, hid, ht, Option.some.injEq] at hold
      subst hold
      rcases hkeep with hkeep | hkeep
      · exact hkeep hd
      · exact hne (hst.symm.trans hkeep)
  rw [h.writes.row?, hnone, Option.none_or, ht]

/-- A row found after the commit was there before, or was written. -/
theorem row?_cases (ht : s'.row? id = some token) :
    token ∈ rows ∨ s.row? id = some token := by
  rw [h.writes.row?] at ht
  cases hl : Keyed.lookup TokenRow.recordID rows id with
  | none =>
    rw [hl, Option.none_or] at ht
    exact Or.inr ht
  | some written =>
    rw [hl, Option.some_or] at ht
    cases ht
    exact Or.inl (Keyed.mem_of_lookup hl)

theorem destination?_eq (id : DestinationID) :
    s'.destination? id = s.destination? id := by
  rw [Store.destination?, h.writes.destinations]
  rfl

/-- The rows of another destination are the same before and after. -/
theorem row?_other (hd : token.destinationID ≠ m.destination) :
    s'.row? id = some token ↔ s.row? id = some token := by
  refine ⟨fun ht => ?_, fun ht => h.frame ht (Or.inl hd)⟩
  rcases h.row?_cases ht with hw | ht
  · exact absurd (h.written.2 token hw) hd
  · exact ht

/-- The live tokens of another destination are kept. -/
theorem represents_other {id : DestinationID} {other : LiveTokens} (hid : id ≠ m.destination)
    (hrep : s.Represents id other) :
    s'.Represents id other := by
  intro state token
  rw [hrep]
  refine and_congr_right fun _ => and_congr_left fun ⟨hd, _⟩ => ?_
  exact (h.row?_other (hd ▸ hid)).symm

/-- A record keeps its verifier. -/
theorem verifier_eq (ht : s.row? id = some token) :
    ∃ token', s'.row? id = some token' ∧ token'.verifier = token.verifier := by
  rw [h.writes.row?]
  cases hl : Keyed.lookup TokenRow.recordID rows id with
  | none => exact ⟨token, by rw [Option.none_or, ht], rfl⟩
  | some written =>
    refine ⟨written, rfl, ?_⟩
    have hid : written.recordID = id := Keyed.key_of_lookup hl
    rcases h.written_cases (Keyed.mem_of_lookup hl) with
      ⟨candidate, -, rfl, hnew, -⟩ | ⟨state, old, change, hslot, rfl, -⟩
    · rw [show candidate.recordID = id from hid, ht] at hnew
      cases hnew
    · have hold := ((h.represents _ _).mp hslot).2.1
      rw [← Change.apply_recordID old change, hid, ht, Option.some.injEq] at hold
      rw [hold, Change.apply_verifier]

end

end Committed

/-! ## The mutations of a rotation, one by one -/

theorem Store.Writes.row?_single {written : TokenRow} (h : s.Writes s' [written])
    (id : DestinationTokenRecordID) :
    s'.row? id = if id = written.recordID then some written else s.row? id := by
  rw [h.row?]
  by_cases hid : id = written.recordID
  · simp [Keyed.lookup, hid]
  · simp [Keyed.lookup, hid, Ne.symm hid]

/-- A candidate is inserted beside the active token it was made for. -/
theorem Mutation.createRotationStagedToken_ok {command : CreateRotationStagedTokenCommand}
    (h : (Mutation.createRotationStagedToken command).commit s = .ok s') :
    ∃ active, s.row? command.expectedActiveRecordID = some active ∧ active.state = .active ∧
      active.destinationID = command.candidate.destination ∧
      s.row? command.candidate.recordID = none ∧
      ∀ id, s'.row? id =
        if id = command.candidate.recordID then some command.candidate.row else s.row? id := by
  obtain ⟨row, tokens, tokens', rows, hc⟩ := Mutation.commit_ok h
  have hrep := hc.represents
  have hwrites := hc.writes
  cases hc.transition with
  | @createRotationStagedToken _ active valid created fresh expected inDate =>
    obtain ⟨-, hrow, hd, hst⟩ := (hrep .active active).mp rfl
    exact ⟨active, expected ▸ hrow, hst, hd, fresh, hwrites.row?_single⟩

/-- A staged token is revoked, and no other row is touched. -/
theorem Mutation.abortStagedToken_ok {audience : GatewayAudienceID} {now : Time}
    (h : (Mutation.abortStagedToken audience destination stagedID now).commit s = .ok s') :
    ∃ staged, s.row? stagedID = some staged ∧ staged.state = .staged ∧
      ∀ id, s'.row? id = if id = stagedID then some (staged.revoked now) else s.row? id := by
  obtain ⟨row, tokens, tokens', rows, hc⟩ := Mutation.commit_ok h
  have hrep := hc.represents
  have hwrites := hc.writes
  cases hc.transition with
  | @abortInitial _ _ _ staged changed =>
    obtain ⟨-, hrow, -, hst⟩ := (hrep .staged staged).mp rfl
    exact ⟨staged, hrow, hst, fun id => by simpa using hwrites.row?_single id⟩
  | @abortRotation _ _ _ active staged changed =>
    obtain ⟨-, hrow, -, hst⟩ := (hrep .staged staged).mp rfl
    exact ⟨staged, hrow, hst, fun id => by simpa using hwrites.row?_single id⟩

/-- The staged token becomes active and the old one retiring, together. -/
theorem Mutation.activateRotation_ok {command : ActivateRotationCommand}
    (h : (Mutation.activateRotation command).commit s = .ok s') :
    ∃ staged active, s.row? command.stagedRecordID = some staged ∧ staged.state = .staged ∧
      s.row? command.oldActiveRecordID = some active ∧ active.state = .active ∧
      s'.row? command.stagedRecordID = some (staged.activated command.now) ∧
      s'.row? command.oldActiveRecordID =
        some (active.retired command.now command.overlapDeadline) ∧
      ∀ id, id ≠ command.stagedRecordID → id ≠ command.oldActiveRecordID →
        s'.row? id = s.row? id := by
  obtain ⟨row, tokens, tokens', rows, hc⟩ := Mutation.commit_ok h
  have hrep := hc.represents
  have hafter := hc.after
  have hwrites := hc.writes
  cases hc.transition with
  | @activateRotation _ active staged newRecord oldRecord =>
    obtain ⟨-, hs, -, hss⟩ := (hrep .staged staged).mp rfl
    obtain ⟨-, ha, -, has⟩ := (hrep .active active).mp rfl
    refine ⟨staged, active, newRecord ▸ hs, hss, oldRecord ▸ ha, has, ?_, ?_, fun id hn ho => ?_⟩
    · rw [← newRecord]
      simpa using ((hafter .active _).mp rfl).2.1
    · rw [← oldRecord]
      simpa using ((hafter .retiring _).mp rfl).2.1
    · rw [hwrites.row?]
      simp [Keyed.lookup, newRecord, oldRecord, Ne.symm hn, Ne.symm ho]

/-- The active token is revoked and the retiring one restored, together. -/
theorem Mutation.rollbackRotation_ok {command : RollbackRotationCommand}
    (h : (Mutation.rollbackRotation command).commit s = .ok s') :
    ∃ active retiring, s.row? command.newActiveRecordID = some active ∧ active.state = .active ∧
      s.row? command.oldRetiringRecordID = some retiring ∧ retiring.state = .retiring ∧
      retiring.destinationID = active.destinationID ∧
      s'.row? command.newActiveRecordID = some (active.revoked command.now) ∧
      s'.row? command.oldRetiringRecordID = some (retiring.restored command.now) := by
  obtain ⟨row, tokens, tokens', rows, hc⟩ := Mutation.commit_ok h
  have hrep := hc.represents
  have hwrites := hc.writes
  cases hc.transition with
  | @rollbackRotation _ active retiring newRecord oldRecord distinct =>
    obtain ⟨-, ha, had, has⟩ := (hrep .active active).mp rfl
    obtain ⟨-, hr, hrd, hrs⟩ := (hrep .retiring retiring).mp rfl
    refine ⟨active, retiring, newRecord ▸ ha, has, oldRecord ▸ hr, hrs, hrd.trans had.symm, ?_, ?_⟩
    · rw [hwrites.row?, ← newRecord]
      simp [Keyed.lookup]
    · rw [hwrites.row?, ← oldRecord]
      simp [Keyed.lookup, distinct]

end OncallGateway
