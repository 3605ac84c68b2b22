import OncallGateway.DestinationToken
import Mathlib.Data.List.Perm.Subperm

/-! # The lifecycle snapshot of a destination

`newDestinationLifecycleSnapshot` reads the complete set of a destination's tokens
that are not revoked, one after the other, into three slots, and classifies what it
found.  It refuses a set that no sequence of lifecycle operations produces: two
tokens of one state, a staged token beside a retiring one, a retiring token without
an active one, and an active and a retiring token whose times are not those of one
activation.  A token that is out of date does not make it refuse; it makes the
status `reconciliationRequired`.

The loop is described once (`SnapshotLoop.Describes`): a slot holds the view of the
one token in its state, and the loop is not stale exactly when the destination is
enabled and every token is in date (`InDate`).  What a returned snapshot says about
the tokens it was made from follows (`newDestinationLifecycleSnapshot_ok`), and is
all that later modules use.  Conversely a set without these defects has a snapshot
(`newDestinationLifecycleSnapshot_exists`).
-/

namespace OncallGateway

/-- `RotationCompletionReason`, with the values that are not valid in one. -/
inductive RotationCompletionReason where
  | verifiedAndDrained | deadlineElapsed | unknown
deriving DecidableEq

/-- `RotationCompletionReason.Valid`. -/
def RotationCompletionReason.Valid (reason : RotationCompletionReason) : Prop :=
  reason = .verifiedAndDrained ∨ reason = .deadlineElapsed

instance (reason : RotationCompletionReason) : Decidable reason.Valid :=
  inferInstanceAs (Decidable (_ ∨ _))

/-- `DestinationLifecycleStatus`. -/
inductive DestinationLifecycleStatus where
  | unprovisioned | stagedInitial | active | activeWithStaged | activeWithRetiring
  | reconciliationRequired
deriving DecidableEq

/-- `LifecycleTokenView`. -/
structure LifecycleTokenView where
  recordID : DestinationTokenRecordID
  state : DestinationTokenState
  createdAt : Time
  expiresAt : Time
  stagedCleanupDeadline : Time
  activatedAt : Time
  retirementStartedAt : Time
  retirementDeadline : Time
  revokedAt : Time
  stateChangedAt : Time
deriving DecidableEq

/-- `lifecycleTokenView`. -/
def lifecycleTokenView (token : DestinationToken) : LifecycleTokenView where
  recordID := token.spec.recordID
  state := token.spec.state
  createdAt := token.spec.createdAt
  expiresAt := token.spec.expiresAt
  stagedCleanupDeadline := token.spec.stagedCleanupDeadline
  activatedAt := token.spec.activatedAt
  retirementStartedAt := token.spec.retirementStartedAt
  retirementDeadline := token.spec.retirementDeadline
  revokedAt := token.spec.revokedAt
  stateChangedAt := token.spec.stateChangedAt

/-- `DestinationLifecycleSnapshot`; a view with its `has` flag is an option. -/
structure DestinationLifecycleSnapshot where
  audienceID : GatewayAudienceID
  destinationID : DestinationID
  destinationEnabled : Bool
  status : DestinationLifecycleStatus
  staged : Option LifecycleTokenView
  active : Option LifecycleTokenView
  retiring : Option LifecycleTokenView
deriving DecidableEq

/-- The variables of the loop in `NewDestinationLifecycleSnapshot`. -/
structure SnapshotLoop where
  staged : Option LifecycleTokenView
  active : Option LifecycleTokenView
  retiring : Option LifecycleTokenView
  stale : Bool
  seen : List DestinationTokenRecordID

namespace SnapshotLoop

/-- Before the loop: a disabled destination is stale whatever its tokens are. -/
def init (destination : Destination) : SnapshotLoop :=
  ⟨none, none, none, !decide destination.Enabled, []⟩

/-- The body of the loop. -/
def step (destination : Destination) (now : Time) (loop : SnapshotLoop)
    (token : DestinationToken) : Except Sentinel SnapshotLoop :=
  let view := lifecycleTokenView token
  let stale := loop.stale || decide (token.spec.createdAt > now) ||
    decide (token.spec.stateChangedAt > now)
  let seen := token.spec.recordID :: loop.seen
  if token.spec.audienceID ≠ destination.audienceID ∨
      token.spec.destination.id ≠ destination.id ∨ token.spec.destination ≠ destination then
    .error .errDestinationLifecycleReconciliation
  else if token.spec.recordID ∈ loop.seen then
    .error .errDestinationLifecycleReconciliation
  else
    match token.spec.state with
    | .staged =>
      if loop.staged.isSome then
        .error .errDestinationLifecycleReconciliation
      else
        .ok { loop with
          staged := some view
          stale := stale || !decide (now < token.spec.expiresAt) ||
            !decide (now < token.spec.stagedCleanupDeadline)
          seen := seen }
    | .active =>
      if loop.active.isSome then
        .error .errDestinationLifecycleReconciliation
      else
        .ok { loop with
          active := some view, stale := stale || !decide (token.UsableAt now), seen := seen }
    | .retiring =>
      if loop.retiring.isSome then
        .error .errDestinationLifecycleReconciliation
      else
        .ok { loop with
          retiring := some view, stale := stale || !decide (token.UsableAt now), seen := seen }
    | .revoked => .error .errDestinationLifecycleReconciliation

end SnapshotLoop

/-- The loop of `NewDestinationLifecycleSnapshot`. -/
def snapshotLoop (destination : Destination) (now : Time) :
    List DestinationToken → SnapshotLoop → Except Sentinel SnapshotLoop
  | [], loop => .ok loop
  | token :: tokens, loop => do
    let loop ← loop.step destination now token
    snapshotLoop destination now tokens loop

/-- An active and a retiring token whose times are not those of one activation. -/
def pairMismatch : Option LifecycleTokenView → Option LifecycleTokenView → Bool
  | some active, some retiring =>
    decide (active.activatedAt ≠ retiring.retirementStartedAt) ||
      decide (active.stateChangedAt ≠ active.activatedAt) ||
      decide (retiring.stateChangedAt ≠ retiring.retirementStartedAt)
  | _, _ => false

/-- The last `switch` of `NewDestinationLifecycleSnapshot`. -/
def slotStatus : Option LifecycleTokenView → Option LifecycleTokenView →
    Option LifecycleTokenView → Except Sentinel DestinationLifecycleStatus
  | none, none, none => .ok .unprovisioned
  | some _, none, _ => .ok .stagedInitial
  | none, some _, none => .ok .active
  | some _, some _, none => .ok .activeWithStaged
  | none, some _, some _ => .ok .activeWithRetiring
  | _, _, _ => .error .errDestinationLifecycleReconciliation

/-- The status of a set of tokens that was not refused. -/
def SnapshotLoop.status (loop : SnapshotLoop) : Except Sentinel DestinationLifecycleStatus :=
  if loop.stale then .ok .reconciliationRequired
  else slotStatus loop.staged loop.active loop.retiring

/-- `NewDestinationLifecycleSnapshot`. -/
def newDestinationLifecycleSnapshot (destination : Destination) (tokens : List DestinationToken)
    (now : Time) : Except Sentinel DestinationLifecycleSnapshot :=
  if destination.id.IsZero ∨ destination.audienceID.IsZero ∨ now = 0 ∨ tokens.length > 3 then
    .error .errDestinationLifecycleReconciliation
  else do
    let loop ← snapshotLoop destination now tokens (.init destination)
    if loop.staged.isSome && loop.retiring.isSome || loop.retiring.isSome && loop.active.isNone then
      throw .errDestinationLifecycleReconciliation
    if pairMismatch loop.active loop.retiring then
      throw .errDestinationLifecycleReconciliation
    let status ← loop.status
    return ⟨destination.audienceID, destination.id, decide destination.Enabled, status,
      loop.staged, loop.active, loop.retiring⟩

/-! ## What the loop computes -/

/-- The token is in date: it is not from the future, and its state has not run out. -/
def DestinationToken.InDate (token : DestinationToken) (now : Time) : Prop :=
  token.spec.createdAt ≤ now ∧ token.spec.stateChangedAt ≤ now ∧
    match token.spec.state with
    | .staged => now < token.spec.expiresAt ∧ now < token.spec.stagedCleanupDeadline
    | .active => token.UsableAt now
    | .retiring => token.UsableAt now
    | .revoked => False

/-- The same, on the token's view and apart from the destination. -/
def LifecycleTokenView.InDate (view : LifecycleTokenView) (now : Time) : Prop :=
  view.createdAt ≤ now ∧ view.stateChangedAt ≤ now ∧
    match view.state with
    | .staged => now < view.expiresAt ∧ now < view.stagedCleanupDeadline
    | .active => view.activatedAt ≤ now ∧ now < view.expiresAt
    | .retiring => view.activatedAt ≤ now ∧ now < view.expiresAt ∧ now < view.retirementDeadline
    | .revoked => False

variable {now : Time} {destination : Destination} {loop : SnapshotLoop}
  {tokens : List DestinationToken}

theorem DestinationToken.inDate_iff {token : DestinationToken}
    (h : token.spec.destination.Enabled) :
    token.InDate now ↔ (lifecycleTokenView token).InDate now := by
  unfold DestinationToken.InDate LifecycleTokenView.InDate DestinationToken.UsableAt
  cases hs : token.spec.state <;> simp [lifecycleTokenView, hs, h]

namespace SnapshotLoop

/-- The slot for tokens in a state; revoked tokens have none. -/
def slot (loop : SnapshotLoop) : DestinationTokenState → Option LifecycleTokenView
  | .staged => loop.staged
  | .active => loop.active
  | .retiring => loop.retiring
  | .revoked => none

/-- The loop has read `tokens`. -/
structure Describes (destination : Destination) (now : Time) (tokens : List DestinationToken)
    (loop : SnapshotLoop) : Prop where
  ofDestination : ∀ token ∈ tokens, token.spec.destination = destination
  nodup : (tokens.map fun token => token.spec.recordID).Nodup
  seen : ∀ id, id ∈ loop.seen ↔ id ∈ tokens.map fun token => token.spec.recordID
  slots : ∀ state view, loop.slot state = some view ↔
    ∃ token ∈ tokens, token.spec.state = state ∧ lifecycleTokenView token = view
  stale : loop.stale = false ↔ destination.Enabled ∧ ∀ token ∈ tokens, token.InDate now

variable {loop' : SnapshotLoop} {token : DestinationToken}

theorem describes_init : Describes destination now [] (init destination) where
  ofDestination := by simp
  nodup := by simp
  seen := by simp [init]
  slots := by
    intro state view
    cases state <;> simp [init, slot]
  stale := by simp [init]

/-- One round of the loop: the token is of the destination and new, its slot was
free, and it is filled with the token's view. -/
theorem step_ok (h : step destination now loop token = .ok loop') :
    token.spec.destination = destination ∧ token.spec.recordID ∉ loop.seen ∧
    token.spec.state ≠ .revoked ∧ loop.slot token.spec.state = none ∧
    (∀ state, loop'.slot state =
      if state = token.spec.state then some (lifecycleTokenView token) else loop.slot state) ∧
    loop'.seen = token.spec.recordID :: loop.seen ∧
    (loop'.stale = false ↔ loop.stale = false ∧ token.InDate now) := by
  simp only [step] at h
  split at h
  · cases h
  rename_i h₁
  split at h
  · cases h
  rename_i h₂
  push Not at h₁
  refine ⟨h₁.2.2, h₂, ?_⟩
  cases hs : token.spec.state with
  | revoked => simp [hs] at h
  | _ =>
    simp only [hs] at h
    split_ifs at h with h₃
    cases h
    refine ⟨by simp, by simpa [slot] using h₃, ?_, rfl, ?_⟩
    · intro state
      cases state <;> simp [slot]
    · simp [DestinationToken.InDate, hs, and_assoc]

theorem Describes.step (hd : Describes destination now tokens loop)
    (h : step destination now loop token = .ok loop') :
    Describes destination now (tokens ++ [token]) loop' := by
  obtain ⟨hdest, hnew, hlive, hfree, hslot, hseen, hstale⟩ := step_ok h
  have hnew' := hnew
  rw [hd.seen] at hnew'
  refine ⟨?_, ?_, ?_, ?_, ?_⟩
  · intro t ht
    rcases List.mem_append.mp ht with ht | ht
    · exact hd.ofDestination t ht
    · rw [List.mem_singleton.mp ht]
      exact hdest
  · rw [List.map_append, List.nodup_append]
    refine ⟨hd.nodup, by simp, ?_⟩
    rintro a ha b hb rfl
    simp only [List.map_cons, List.map_nil, List.mem_singleton] at hb
    exact hnew' (hb ▸ ha)
  · intro id
    rw [hseen, List.mem_cons, hd.seen, List.map_append, List.mem_append]
    simp [or_comm]
  · intro state view
    rw [hslot]
    split
    · rename_i hstate
      subst hstate
      constructor
      · intro hv
        exact ⟨token, by simp, rfl, Option.some.inj hv⟩
      · rintro ⟨t, ht, hts, rfl⟩
        rcases List.mem_append.mp ht with ht | ht
        · have := (hd.slots _ _).mpr ⟨t, ht, hts, rfl⟩
          rw [hfree] at this
          cases this
        · rw [List.mem_singleton.mp ht]
    · rename_i hstate
      rw [hd.slots]
      constructor
      · rintro ⟨t, ht, htv⟩
        exact ⟨t, List.mem_append_left _ ht, htv⟩
      · rintro ⟨t, ht, hts, htv⟩
        rcases List.mem_append.mp ht with ht | ht
        · exact ⟨t, ht, hts, htv⟩
        · rw [List.mem_singleton.mp ht] at hts
          exact absurd hts.symm hstate
  · rw [hstale, hd.stale]
    simp only [List.mem_append, List.mem_singleton]
    constructor
    · rintro ⟨⟨he, ht⟩, hk⟩
      refine ⟨he, ?_⟩
      rintro t (h' | rfl)
      · exact ht t h'
      · exact hk
    · rintro ⟨he, ht⟩
      exact ⟨⟨he, fun t h' => ht t (.inl h')⟩, ht token (.inr rfl)⟩

end SnapshotLoop

theorem snapshotLoop_describes {done : List DestinationToken} {loop' : SnapshotLoop}
    (hd : loop.Describes destination now done)
    (h : snapshotLoop destination now tokens loop = .ok loop') :
    loop'.Describes destination now (done ++ tokens) := by
  -- along the tokens still to be read; the invariant is about those already read
  induction tokens generalizing done loop with
  | nil =>
    cases h
    simpa using hd
  | cons token tokens ih =>
    simp only [snapshotLoop] at h
    cases hs : loop.step destination now token with
    | error e => simp [hs, bind, Except.bind] at h
    | ok loop₁ =>
      simp only [hs, bind, Except.bind] at h
      simpa using ih (hd.step hs) h

/-! ## What a snapshot says of the tokens -/

/-- The slots that are filled under a status: staged, active, retiring. -/
def DestinationLifecycleStatus.Slots : DestinationLifecycleStatus → Option LifecycleTokenView →
    Option LifecycleTokenView → Option LifecycleTokenView → Prop
  | .unprovisioned, s, a, r => s = none ∧ a = none ∧ r = none
  | .stagedInitial, s, a, r => s.isSome = true ∧ a = none ∧ r = none
  | .active, s, a, r => s = none ∧ a.isSome = true ∧ r = none
  | .activeWithStaged, s, a, r => s.isSome = true ∧ a.isSome = true ∧ r = none
  | .activeWithRetiring, s, a, r => s = none ∧ a.isSome = true ∧ r.isSome = true
  | .reconciliationRequired, s, a, r => r.isSome = true → s = none ∧ a.isSome = true

/-- The slot for tokens in a state; revoked tokens have none. -/
def DestinationLifecycleSnapshot.slot (snapshot : DestinationLifecycleSnapshot) :
    DestinationTokenState → Option LifecycleTokenView
  | .staged => snapshot.staged
  | .active => snapshot.active
  | .retiring => snapshot.retiring
  | .revoked => none

/-- The snapshot is one of `tokens`, the live tokens of `destination`, at `now`. -/
structure DestinationLifecycleSnapshot.Of (destination : Destination)
    (tokens : List DestinationToken) (now : Time) (snapshot : DestinationLifecycleSnapshot) :
    Prop where
  audience : snapshot.audienceID = destination.audienceID
  destinationID : snapshot.destinationID = destination.id
  enabled : snapshot.destinationEnabled = decide destination.Enabled
  clock : now ≠ 0
  ofDestination : ∀ token ∈ tokens, token.spec.destination = destination
  nodup : (tokens.map fun token => token.spec.recordID).Nodup
  slots : ∀ state view, snapshot.slot state = some view ↔
    view ∈ tokens.map lifecycleTokenView ∧ view.state = state
  pair : ∀ active retiring, snapshot.active = some active → snapshot.retiring = some retiring →
    active.activatedAt = retiring.retirementStartedAt ∧
      active.stateChangedAt = active.activatedAt ∧
      retiring.stateChangedAt = retiring.retirementStartedAt
  inDate : snapshot.status ≠ .reconciliationRequired ↔
    destination.Enabled ∧ ∀ view ∈ tokens.map lifecycleTokenView, view.InDate now
  status : snapshot.status.Slots snapshot.staged snapshot.active snapshot.retiring

theorem SnapshotLoop.status_ok {status : DestinationLifecycleStatus} (h : loop.status = .ok status)
    (hsr : loop.staged.isSome = true → loop.retiring = none)
    (hra : loop.retiring.isSome = true → loop.active.isSome = true) :
    (status ≠ .reconciliationRequired ↔ loop.stale = false) ∧
      status.Slots loop.staged loop.active loop.retiring := by
  obtain ⟨staged, active, retiring, stale, seen⟩ := loop
  cases stale with
  | true =>
    simp only [SnapshotLoop.status, if_true] at h
    cases h
    refine ⟨by simp, fun hr => ⟨?_, hra hr⟩⟩
    cases staged with
    | none => rfl
    | some v =>
      rw [show retiring = none from hsr rfl] at hr
      cases hr
  | false =>
    simp only [SnapshotLoop.status, Bool.false_eq_true, if_false] at h
    cases staged <;> cases active <;> cases retiring <;> cases h <;>
      simp_all [DestinationLifecycleStatus.Slots]

/-- **A snapshot shows the tokens it was made from**: the slots are filled as the
status says, each with the one token in its state, and unless the status asks for
reconciliation the destination is enabled and every token in date. -/
theorem newDestinationLifecycleSnapshot_ok {snapshot : DestinationLifecycleSnapshot}
    (h : newDestinationLifecycleSnapshot destination tokens now = .ok snapshot) :
    snapshot.Of destination tokens now := by
  unfold newDestinationLifecycleSnapshot at h
  split at h
  · cases h
  rename_i hinput
  push Not at hinput
  cases hl : snapshotLoop destination now tokens (.init destination) with
  | error e => simp [hl, bind, Except.bind] at h
  | ok loop =>
    have hd := snapshotLoop_describes SnapshotLoop.describes_init hl
    rw [List.nil_append] at hd
    simp only [hl, bind, Except.bind] at h
    split at h
    · cases h
    rename_i hshape
    split at h
    · cases h
    rename_i hpair
    simp only [Bool.or_eq_true, Bool.and_eq_true, not_or, not_and, Option.isNone_iff_eq_none,
      Bool.not_eq_true, Option.isSome_eq_false_iff, ← Option.isSome_iff_ne_none] at hshape
    cases hst : loop.status with
    | error e => simp [hst] at h
    | ok status =>
      obtain ⟨hstale, hslots⟩ := SnapshotLoop.status_ok hst hshape.1 hshape.2
      simp only [hst] at h
      cases h
      refine ⟨rfl, rfl, rfl, hinput.2.2.1, hd.ofDestination, hd.nodup, ?_, ?_, ?_, hslots⟩
      · intro state view
        have hslot : loop.slot state = some view ↔
            view ∈ tokens.map lifecycleTokenView ∧ view.state = state := by
          rw [hd.slots, List.mem_map]
          constructor
          · rintro ⟨token, ht, rfl, rfl⟩
            exact ⟨⟨token, ht, rfl⟩, rfl⟩
          · rintro ⟨⟨token, ht, rfl⟩, rfl⟩
            exact ⟨token, ht, rfl, rfl⟩
        rw [← hslot]
        cases state <;> rfl
      · intro active retiring ha hr
        rw [show loop.active = some active from ha,
          show loop.retiring = some retiring from hr] at hpair
        simpa [pairMismatch, and_assoc] using hpair
      · change status ≠ _ ↔ _
        rw [hstale, hd.stale, List.forall_mem_map]
        refine and_congr_right fun he => forall₂_congr fun token ht => ?_
        exact DestinationToken.inDate_iff (by rw [hd.ofDestination token ht]; exact he)

/-! ## Sets of tokens that have a snapshot -/

theorem SnapshotLoop.step_exists {destination : Destination} {now : Time} {loop : SnapshotLoop}
    {token : DestinationToken} (hdest : token.spec.destination = destination)
    (hseen : token.spec.recordID ∉ loop.seen) (hlive : token.spec.state ≠ .revoked)
    (hfree : loop.slot token.spec.state = none) :
    ∃ loop', loop.step destination now token = .ok loop' := by
  have haud : token.spec.audienceID = destination.audienceID := by
    rw [← hdest, (validateDestinationTokenSpec_eq_ok.mp token.valid).sameAudience]
  simp only [SnapshotLoop.step, haud, hdest, ne_eq, not_true_eq_false, or_self, if_false, hseen]
  cases hs : token.spec.state with
  | revoked => exact absurd hs hlive
  | staged | active | retiring =>
    rw [hs] at hfree
    simp only [SnapshotLoop.slot] at hfree
    simp [hfree]

/-- The loop reads to the end tokens of one destination with different records and
different states, none of them revoked. -/
theorem snapshotLoop_exists {destination : Destination} {now : Time}
    {tokens done : List DestinationToken} {loop : SnapshotLoop}
    (hd : loop.Describes destination now done)
    (hdest : ∀ token ∈ tokens, token.spec.destination = destination)
    (hlive : ∀ token ∈ tokens, token.spec.state ≠ .revoked)
    (hids : ((done ++ tokens).map fun token => token.spec.recordID).Nodup)
    (hstates : ((done ++ tokens).map fun token => token.spec.state).Nodup) :
    ∃ loop', snapshotLoop destination now tokens loop = .ok loop' := by
  induction tokens generalizing done loop with
  | nil => exact ⟨loop, rfl⟩
  | cons token tokens ih =>
    have hids' := hids
    have hstates' := hstates
    rw [List.map_append, List.nodup_append] at hids' hstates'
    have hseen : token.spec.recordID ∉ loop.seen := by
      rw [hd.seen]
      exact fun hmem => hids'.2.2 _ hmem _ (by simp) rfl
    have hfree : loop.slot token.spec.state = none := by
      rw [Option.eq_none_iff_forall_ne_some]
      intro view hv
      obtain ⟨t, ht, hts, -⟩ := (hd.slots _ _).mp hv
      exact hstates'.2.2 _ (List.mem_map_of_mem ht) _ (by simp) hts
    obtain ⟨loop₁, h₁⟩ := @SnapshotLoop.step_exists _ now _ _ (hdest token (by simp)) hseen
      (hlive token (by simp)) hfree
    obtain ⟨loop₂, h₂⟩ := ih (hd.step h₁) (fun t ht => hdest t (by simp [ht]))
      (fun t ht => hlive t (by simp [ht])) (by simpa using hids) (by simpa using hstates)
    exact ⟨loop₂, by simp [snapshotLoop, h₁, h₂, bind, Except.bind]⟩

/-- Different states of live tokens are at most three. -/
theorem length_le_three_of_states (hlive : ∀ token ∈ tokens, token.spec.state ≠ .revoked)
    (hstates : (tokens.map fun token => token.spec.state).Nodup) : tokens.length ≤ 3 := by
  have hsub : (tokens.map fun token => token.spec.state) ⊆ [.staged, .active, .retiring] := by
    intro state hmem
    obtain ⟨token, ht, rfl⟩ := List.mem_map.mp hmem
    have := hlive token ht
    cases hs : token.spec.state <;> simp_all
  simpa using (List.Nodup.subperm hstates hsub).length_le

/-- The snapshot, once the loop has been read and its result is not refused. -/
theorem newDestinationLifecycleSnapshot_eq {status : DestinationLifecycleStatus}
    (hid : ¬ destination.id.IsZero) (haud : ¬ destination.audienceID.IsZero) (hnow : now ≠ 0)
    (hlen : tokens.length ≤ 3)
    (hl : snapshotLoop destination now tokens (.init destination) = .ok loop)
    (hshape : (loop.staged.isSome && loop.retiring.isSome ||
      loop.retiring.isSome && loop.active.isNone) = false)
    (hpair : pairMismatch loop.active loop.retiring = false) (hst : loop.status = .ok status) :
    newDestinationLifecycleSnapshot destination tokens now =
      .ok ⟨destination.audienceID, destination.id, decide destination.Enabled, status,
        loop.staged, loop.active, loop.retiring⟩ := by
  have hinput : ¬ (destination.id.IsZero ∨ destination.audienceID.IsZero ∨ now = 0 ∨
      tokens.length > 3) := by
    simp only [not_or]
    exact ⟨hid, haud, hnow, Nat.not_lt.mpr hlen⟩
  rw [newDestinationLifecycleSnapshot, if_neg hinput]
  simp only [hl, bind, Except.bind, hshape, hpair, hst, Bool.false_eq_true, if_false]
  rfl

/-- **A set of tokens that the lifecycle allows has a snapshot**: different records
and states of one destination, a retiring token only beside an active one and not
beside a staged one, and the times of the pair those of one activation. -/
theorem newDestinationLifecycleSnapshot_exists (hid : ¬ destination.id.IsZero)
    (haud : ¬ destination.audienceID.IsZero) (hnow : now ≠ 0)
    (hdest : ∀ token ∈ tokens, token.spec.destination = destination)
    (hlive : ∀ token ∈ tokens, token.spec.state ≠ .revoked)
    (hids : (tokens.map fun token => token.spec.recordID).Nodup)
    (hstates : (tokens.map fun token => token.spec.state).Nodup)
    (hretiring : ∀ retiring ∈ tokens, retiring.spec.state = .retiring →
      (∀ token ∈ tokens, token.spec.state ≠ .staged) ∧
      ∃ active ∈ tokens, active.spec.state = .active ∧
        active.spec.activatedAt = retiring.spec.retirementStartedAt ∧
        active.spec.stateChangedAt = active.spec.activatedAt ∧
        retiring.spec.stateChangedAt = retiring.spec.retirementStartedAt) :
    ∃ snapshot, newDestinationLifecycleSnapshot destination tokens now = .ok snapshot := by
  obtain ⟨loop, hl⟩ := @snapshotLoop_exists _ now _ _ _ SnapshotLoop.describes_init hdest hlive
    (by simpa using hids) (by simpa using hstates)
  have hd := snapshotLoop_describes SnapshotLoop.describes_init hl
  rw [List.nil_append] at hd
  have hlen := length_le_three_of_states hlive hstates
  -- the retiring slot decides the last checks
  cases hr : loop.retiring with
  | none =>
    have hst : ∃ status, loop.status = .ok status := by
      unfold SnapshotLoop.status
      cases loop.stale <;> cases loop.staged <;> cases loop.active <;> simp [hr, slotStatus]
    obtain ⟨status, hst⟩ := hst
    exact ⟨_, newDestinationLifecycleSnapshot_eq hid haud hnow hlen hl (by simp [hr])
      (by simp [hr, pairMismatch]) hst⟩
  | some view =>
    obtain ⟨retiring, hmem, hrs, rfl⟩ := (hd.slots .retiring view).mp hr
    obtain ⟨hns, active, hact, has, h₁, h₂, h₃⟩ := hretiring retiring hmem hrs
    have hs : loop.staged = none := by
      rw [Option.eq_none_iff_forall_ne_some]
      intro v hv
      obtain ⟨t, ht, hts, -⟩ := (hd.slots .staged v).mp hv
      exact hns t ht hts
    have ha : loop.active = some (lifecycleTokenView active) :=
      (hd.slots .active _).mpr ⟨active, hact, has, rfl⟩
    have hst : ∃ status, loop.status = .ok status := by
      unfold SnapshotLoop.status
      cases loop.stale <;> simp [hr, hs, ha, slotStatus]
    obtain ⟨status, hst⟩ := hst
    exact ⟨_, newDestinationLifecycleSnapshot_eq hid haud hnow hlen hl (by simp [hs, ha])
      (by simp [hr, ha, pairMismatch, lifecycleTokenView, h₁, h₂, h₃]) hst⟩

end OncallGateway
