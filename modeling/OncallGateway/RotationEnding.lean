import OncallGateway.BeginRotation
import OncallGateway.RotationCompleteness

/-! # A rotation ends once, on the right side of its deadline

A `RollbackRotation` or `FinalizeRotation` needs its new record active and its old one
retiring.  The first that commits revokes one of the two, and revocation is final: every
later one with the same pair is refused, by the repository and by the participant, in
every later state (`PairEnded`).  While the pair is live, the overlap deadline precedes
the expiry of both tokens (`LiveTokens.Bounded`, an invariant of every run), so that at
every time before the new token expires exactly one of the two passes its guards.
`ObserveRotation` in between changes nothing and returns a verdict that the run attests
(`observeRotation_attested`).
-/

namespace OncallGateway
open Session Session.Spec

/-! ## The ends of a pair -/

/-- The mutation ends the rotation of the pair. -/
def Mutation.EndsPair (new old : DestinationTokenRecordID) : Mutation → Prop
  | .rollbackRotation command =>
    command.newActiveRecordID = new ∧ command.oldRetiringRecordID = old
  | .finalizeRotation command =>
    command.newActiveRecordID = new ∧ command.oldRetiringRecordID = old
  | _ => False

/-- The guards of the mutation pass. -/
def Mutation.Passes (m : Mutation) (s : Store) : Prop := ∃ statements, m.Planned s statements

theorem Mutation.passes_of_commit {m : Mutation} {s s' : Store} (h : m.commit s = .ok s') :
    m.Passes s := by
  obtain ⟨hinput, hzero, state, statements, hload, hplan, -⟩ := Mutation.commit_eq_ok.mp h
  exact ⟨statements, hinput, hzero, state, hload, hplan⟩

/-- The pair has ended: one of its records is revoked. -/
def Store.PairEnded (s : Store) (new old : DestinationTokenRecordID) : Prop :=
  (∃ row, s.row? new = some row ∧ row.state = .revoked) ∨
    ∃ row, s.row? old = some row ∧ row.state = .revoked

variable {ms : List Mutation}

section
variable {s s' : Store} {m : Mutation} {new old : DestinationTokenRecordID}

/-- The pair of a mutation whose guards pass is live. -/
theorem Mutation.EndsPair.live (h : m.EndsPair new old) (hpass : m.Passes s) :
    ∃ active retiring, s.Represents m.destination (.activeWithRetiring active retiring) ∧
      active.recordID = new ∧ retiring.recordID = old := by
  obtain ⟨statements, -, -, state, hload, hplan⟩ := hpass
  obtain ⟨row, tokens, hl⟩ := Store.loadState_ok hload
  have key : ∀ {newID oldID now stale pair}, m.now = now → newID = new → oldID = old →
      lifecycleRotationPair state newID oldID now stale = .ok pair →
      ∃ active retiring, s.Represents m.destination (.activeWithRetiring active retiring) ∧
        active.recordID = new ∧ retiring.recordID = old := by
    rintro newID oldID _ stale pair rfl rfl rfl hpair
    obtain ⟨active, retiring, rfl, rfl⟩ := hl.exists_pair hpair
    obtain ⟨-, -, ⟨-, hnew, hold⟩, -⟩ := lifecycleRotationPair_eq_ok.mp hpair
    exact ⟨active, retiring, hl.represents, hnew, hold⟩
  cases m with
  | rollbackRotation command =>
    simp only [Mutation.plan, Except.bind_eq_ok] at hplan
    obtain ⟨pair, hpair, -⟩ := hplan
    exact key rfl h.1 h.2 hpair
  | finalizeRotation command =>
    simp only [Mutation.plan, Except.bind_eq_ok] at hplan
    obtain ⟨pair, hpair, -⟩ := hplan
    exact key rfl h.1 h.2 hpair
  | _ => exact h.elim

/-- Once the pair has ended, no mutation of it passes its guards. -/
theorem Store.PairEnded.not_passes (h : s.PairEnded new old) (hm : m.EndsPair new old) :
    ¬ m.Passes s := by
  intro hpass
  obtain ⟨active, retiring, hrep, rfl, rfl⟩ := hm.live hpass
  obtain ⟨-, hnew, -, hns⟩ := (hrep .active active).mp rfl
  obtain ⟨-, hold, -, hos⟩ := (hrep .retiring retiring).mp rfl
  rcases h with ⟨row, hrow, hst⟩ | ⟨row, hrow, hst⟩
  · rw [hnew, Option.some.injEq] at hrow
    rw [← hrow, hns] at hst
    cases hst
  · rw [hold, Option.some.injEq] at hrow
    rw [← hrow, hos] at hst
    cases hst

/-- The first mutation of the pair that commits ends it. -/
theorem Mutation.EndsPair.ended (h : m.EndsPair new old) (hcommit : m.commit s = .ok s') :
    s'.PairEnded new old := by
  obtain ⟨row, tokens, tokens', rows, hc⟩ := Mutation.commit_ok hcommit
  have hwrites := hc.writes
  cases hc.transition with
  | @rollbackRotation command active retiring newRecord =>
    refine Or.inl ⟨active.revoked command.now, ?_, rfl⟩
    rw [hwrites.row?, ← h.1, ← newRecord]
    simp [Keyed.lookup]
  | @finalizeRotation command active retiring newRecord oldRecord =>
    refine Or.inr ⟨retiring.revoked command.now, ?_, rfl⟩
    rw [hwrites.row?_single, ← h.2, ← oldRecord]
    simp
  | _ => exact h.elim

/-- A pair that has ended stays so. -/
theorem Store.PairEnded.commit (h : s.PairEnded new old) (hcommit : m.commit s = .ok s') :
    s'.PairEnded new old := by
  obtain ⟨_, _, _, _, hc⟩ := Mutation.commit_ok hcommit
  rcases h with ⟨row, hrow, hst⟩ | ⟨row, hrow, hst⟩
  · exact Or.inl ⟨row, hc.frame hrow (Or.inr hst), hst⟩
  · exact Or.inr ⟨row, hc.frame hrow (Or.inr hst), hst⟩

theorem Store.PairEnded.run (h : s.PairEnded new old) (hrun : Run MutationStep s ms s') :
    s'.PairEnded new old := by
  refine hrun.invariant (P := fun s => s.PairEnded new old) ?_ h
  rintro s m s' hs (rfl | hcommit)
  · exact hs
  · exact hs.commit hcommit

/-- What others do is a run of mutations. -/
theorem run_of_others (h : Others s s') : ∃ ms, Run MutationStep s ms s' := by
  refine Run.of_reaches (Relation.ReflTransGen.mono ?_ _ _ h)
  rintro _ _ ⟨m, hm⟩
  exact ⟨m, Or.inr hm⟩

theorem Store.PairEnded.others (h : s.PairEnded new old) (ho : Others s s') :
    s'.PairEnded new old := by
  obtain ⟨ms, hrun⟩ := run_of_others ho
  exact h.run hrun

end

/-! ## The participant -/

section
variable {ν : Type} [ErrorGraph ν] [DecidableEq ν] {world : World ν} {mayKeep : Prop}
  {hmac : KeyedHash}
  {handle : DestinationTokenRotationHandle}

omit [DecidableEq ν] in
theorem classifyRotationMutationError_some (err : GoError ν) :
    classifyRotationMutationError (some err) ≠ none := by
  simp only [classifyRotationMutationError]
  split <;> simp

variable {changes : List (Store × Store)} {M : Mutation → Prop}
  {finish : ParticipantProg ν (Option Sentinel)} {refused : Time → Time → Bool}

omit [DecidableEq ν] in
open DestinationTokenRotationParticipantService in
/-- The inspection of a rotation changes nothing and returns the verdict on an attempt that
it was answered. -/
theorem wp_inspectRotation {service : DestinationTokenLifecycleService} {now : Time}
    {trace : List (Sigma (ParticipantCall.Answer ν))}
    {Q : Except Sentinel DestinationTokenRotationObservation →
      List (Sigma (ParticipantCall.Answer ν)) × List (Store × Store) → Prop}
    (hQ : ∀ r trace', trace <+: trace' → (∀ observation, r = .ok observation → ∃ attempt,
      ⟨.inspectRotationAttempt handle now, .ok attempt⟩ ∈ trace' ∧
        classifyRotationSnapshot attempt handle now = .ok observation) → Q r (trace', changes)) :
    (inspectRotation handle now : ParticipantProg ν _).wp
      (contracts (participantContract world mayKeep hmac service)) Q (trace, changes) := by
  unfold inspectRotation
  rw [Prog.wp_bind]
  refine wp_call.mpr fun r more h => ?_
  obtain rfl : more = [] := h
  rw [List.append_nil]
  cases r with
  | error err => exact hQ _ _ (List.prefix_append _ _) nofun
  | ok attempt =>
    dsimp only
    rw [Prog.wp_bind]
    refine wp_rotationContextError fun r answer => ?_
    have hprefix := (List.prefix_append trace _).trans
      (List.prefix_append (trace ++ [⟨.inspectRotationAttempt handle now, .ok attempt⟩])
        [⟨.contextErr, answer⟩])
    cases r with
    | some cancellation => exact hQ _ _ hprefix nofun
    | none => exact hQ _ _ hprefix fun observation h => ⟨attempt, by simp, h⟩

/-- What an end of a rotation returns, with the changes of the lifecycle service's call. -/
def EndVerdict (mayKeep : Prop) (M : Mutation → Prop) (err : Option Sentinel)
    (changes : List (Store × Store)) : Prop :=
  err ≠ none ∧ changes = [] ∨
    ∃ kind, Verdict mayKeep M kind changes ∧ (kind ≠ none → err ≠ none)

omit [DecidableEq ν] in
open DestinationTokenRotationParticipantService in
theorem wp_endRotation {service : DestinationTokenLifecycleService}
    (hfinish : ∀ trace, finish.wp (contracts (participantContract world mayKeep hmac service))
      (fun kind q => Verdict mayKeep M kind q.2) (trace, [])) :
    (endRotation handle refused finish).wp
      (contracts (participantContract world mayKeep hmac service))
      (fun err q => EndVerdict mayKeep M err q.2) ([], []) := by
  have hrefused : ∀ {kind : Sentinel}, EndVerdict mayKeep M (some kind) [] :=
    Or.inl ⟨nofun, rfl⟩
  unfold endRotation operationNow
  rw [Prog.wp_bind]
  refine wp_rotationInput .nil fun r trace' _ _ => ?_
  cases r with
  | error err => exact hrefused
  | ok now =>
    dsimp only
    rw [Prog.wp_bind]
    refine wp_inspectRotation fun r trace' _ _ => ?_
    cases r with
    | error err => exact hrefused
    | ok inspection =>
      dsimp only
      split
      · exact hrefused
      rw [Prog.wp_bind]
      refine wp_rotationContextError fun r answer => ?_
      cases r with
      | some cancellation => exact hrefused
      | none =>
        dsimp only
        rw [Prog.wp_bind]
        refine Prog.wp_mono (hfinish _) fun kind q hverdict => ?_
        refine Or.inr ⟨kind, hverdict, fun hkind => ?_⟩
        obtain ⟨err, rfl⟩ := Option.ne_none_iff_exists'.mp hkind
        exact classifyRotationMutationError_some _

/-- Once the pair has ended, an end of it fails and changes nothing. -/
theorem EndVerdict.of_ended {err : Option Sentinel} {s s' : Store}
    {new old : DestinationTokenRecordID} (h : EndVerdict mayKeep M err changes)
    (hM : ∀ m, M m → m.EndsPair new old) (hended : s.PairEnded new old)
    (hhistory : History Others s changes s') :
    err ≠ none ∧ ∀ change ∈ changes, change.2 = change.1 := by
  rcases h with ⟨herr, rfl⟩ | ⟨kind, hverdict, herr⟩
  · exact ⟨herr, by simp⟩
  cases hverdict with
  | @committed m b a hm hcommit =>
    obtain _ | ⟨ho, -⟩ := hhistory
    exact absurd (Mutation.passes_of_commit hcommit) ((hended.others ho).not_passes (hM m hm))
  | refused => exact ⟨herr nofun, by simp⟩
  | @unknown m b a hm hleaves =>
    obtain _ | ⟨ho, -⟩ := hhistory
    have hnot := (hended.others ho).not_passes (hM m hm)
    refine ⟨herr nofun, ?_⟩
    simp only [List.mem_singleton, forall_eq]
    rcases hleaves with hcommit | ⟨-, rfl | ⟨statements, _, hplanned, -⟩⟩
    · exact absurd (Mutation.passes_of_commit hcommit) hnot
    · rfl
    · exact absurd ⟨statements, hplanned⟩ hnot

variable {service : DestinationTokenRotationParticipantService} {s s' : Store}
  {l : Local Store LifecycleTx} {trace : List (Sigma (ParticipantCall.Answer ν))}
  {err : Option Sentinel}

open DestinationTokenRotationParticipantService

/-- Once the pair has ended, every run of one of its ends fails and changes nothing. -/
theorem endRotation_of_ended (hfinish : ∀ trace, finish.wp
      (contracts (participantContract world mayKeep hmac service.lifecycle))
      (fun kind q => Verdict mayKeep M kind q.2) (trace, []))
    (hM : ∀ m, M m → m.EndsPair handle.newActiveRecordID handle.oldRetiringRecordID)
    (hended : s.PairEnded handle.newActiveRecordID handle.oldRetiringRecordID)
    (h : (endRotation handle refused finish).Traces
      ((lifecycleSpec world mayKeep).clientStep (service.call hmac)) (s, ⟨none, []⟩) trace err
      (s', l)) : err ≠ none ∧ ∀ change ∈ l.own, change.2 = change.1 := by
  obtain ⟨changes, rfl, hhistory, hverdict⟩ :=
    Ends.client (P := fun _ err changes => EndVerdict mayKeep M err changes)
      lifecycle_interference (participant_contracts service hmac) (wp_endRotation hfinish) h
  exact EndVerdict.of_ended hverdict hM hended hhistory

theorem rollbackRotation_of_ended
    (hended : s.PairEnded handle.newActiveRecordID handle.oldRetiringRecordID)
    (h : (rollbackRotation handle).Traces
      ((lifecycleSpec world mayKeep).clientStep (service.call hmac)) (s, ⟨none, []⟩) trace err
      (s', l)) : err ≠ none ∧ ∀ change ∈ l.own, change.2 = change.1 := by
  refine endRotation_of_ended (fun trace => wp_call.mpr fun kind more hkind => hkind) ?_ hended h
  rintro _ ⟨now, rfl⟩
  exact ⟨rfl, rfl⟩

theorem finalizeRotation_of_ended
    (hended : s.PairEnded handle.newActiveRecordID handle.oldRetiringRecordID)
    (h : (finalizeRotation handle).Traces
      ((lifecycleSpec world mayKeep).clientStep (service.call hmac)) (s, ⟨none, []⟩) trace err
      (s', l)) : err ≠ none ∧ ∀ change ∈ l.own, change.2 = change.1 := by
  refine endRotation_of_ended (fun trace => wp_call.mpr fun kind more hkind => hkind) ?_ hended h
  rintro _ ⟨now, rfl⟩
  exact ⟨rfl, rfl⟩

/-! ### Observing a rotation -/

variable {token : OpaqueDestinationToken}
  {result : Except Sentinel DestinationTokenRotationObservation}

omit [DecidableEq ν] in
/-- `ObserveRotation` changes nothing and returns the verdict on an attempt that it was
answered. -/
theorem wp_observeRotation {service : DestinationTokenLifecycleService} :
    (observeRotation handle token : ParticipantProg ν _).wp
      (contracts (participantContract world mayKeep hmac service))
      (fun result q => q.2 = [] ∧ ∀ observation, result = .ok observation →
        ∃ now attempt inspection, ⟨.inspectRotationAttempt handle now, .ok attempt⟩ ∈ q.1 ∧
          classifyRotationSnapshot attempt handle now = .ok inspection ∧
          observation.status = inspection.status) ([], []) := by
  unfold observeRotation operationNow
  rw [Prog.wp_bind]
  refine wp_rotationInput .nil fun r trace' _ _ => ?_
  cases r with
  | error err => exact ⟨rfl, nofun⟩
  | ok now =>
    dsimp only
    rw [Prog.wp_bind]
    refine wp_call.mpr fun r more h => ?_
    obtain rfl : more = [] := h
    cases r with
    | error err => exact ⟨rfl, nofun⟩
    | ok identity =>
      dsimp only
      split
      · exact ⟨rfl, nofun⟩
      rw [Prog.wp_bind]
      refine wp_rotationContextError fun r answer => ?_
      cases r with
      | some cancellation => exact ⟨rfl, nofun⟩
      | none =>
        dsimp only
        rw [Prog.wp_bind]
        refine wp_inspectRotation fun r trace' _ hinspected => ?_
        cases r with
        | error err => exact ⟨rfl, nofun⟩
        | ok inspection =>
          dsimp only
          split
          · exact ⟨rfl, nofun⟩
          refine ⟨rfl, ?_⟩
          rintro _ ⟨⟩
          obtain ⟨attempt, hmem, hverdict⟩ := hinspected inspection rfl
          exact ⟨now, attempt, inspection, hmem, hverdict, rfl⟩

/-- **`ObserveRotation` changes nothing, and its observation is the verdict on a state of
the store during the call**, whatever fails and whatever others do meanwhile. -/
theorem observeRotation_classifies
    (h : (observeRotation handle token).Traces
      ((lifecycleSpec world mayKeep).clientStep (service.call hmac)) (s, ⟨none, []⟩) trace result
      (s', l)) :
    l.own = [] ∧ ∀ observation, result = .ok observation →
      ∃ s₁ now attempt inspection, Others s s₁ ∧ Others s₁ s' ∧
        s₁.Attempt handle.audienceID handle.destination handle.newActiveRecordID
          handle.oldRetiringRecordID now attempt ∧
        classifyRotationSnapshot attempt handle now = .ok inspection ∧
        observation.status = inspection.status := by
  have hi : (lifecycleSpec world mayKeep).Interference Others := lifecycle_interference
  have hcalls : ∀ call, (lifecycleSpec world mayKeep).Ends Others
      (service.call hmac call : LifecycleProg ν _)
      (participantContract world mayKeep hmac service.lifecycle call) :=
    participant_contracts service hmac
  obtain ⟨_, rfl, -, rfl, hobserved⟩ := Ends.client
    (P := fun trace result changes => changes = [] ∧ ∀ observation, result = .ok observation →
      ∃ now attempt inspection, ⟨.inspectRotationAttempt handle now, .ok attempt⟩ ∈ trace ∧
        classifyRotationSnapshot attempt handle now = .ok inspection ∧
        observation.status = inspection.status) hi hcalls wp_observeRotation h
  refine ⟨rfl, fun observation hresult => ?_⟩
  obtain ⟨now, attempt, inspection, hmem, hverdict, hstatus⟩ := hobserved observation hresult
  obtain ⟨b, a, hb, hruns, ha⟩ := Ends.client_call hi hcalls h hmem
  obtain ⟨-, -, hinspected⟩ := Prog.wp_sound wp_inspectRotationAttempt hruns
  obtain ⟨s₁, h₁, h₂, hattempt⟩ := hinspected attempt rfl
  exact ⟨s₁, now, attempt, inspection, hb.trans h₁, h₂.trans ha, hattempt, hverdict, hstatus⟩

/-- **What `ObserveRotation` returns is attested by the run.**  The record of the handle was
created in the run; the run goes on, by what others do, to a state during the call, and
the status is attested there. -/
theorem observeRotation_attested {command : CreateRotationStagedTokenCommand} {s₀ b a : Store}
    {observation : DestinationTokenRotationObservation} (hrun : Run MutationStep s₀ ms s)
    (hcreated : CommitsIn s₀ ms s (.createRotationStagedToken command) b a)
    (hdest : handle.destination = command.candidate.destination)
    (hnew : handle.newActiveRecordID = command.candidate.recordID)
    (hold : handle.oldRetiringRecordID = command.expectedActiveRecordID)
    (h : (observeRotation handle token).Traces
      ((lifecycleSpec world mayKeep).clientStep (service.call hmac)) (s, ⟨none, []⟩) trace
      (.ok observation) (s', l)) :
    ∃ more s₁, Run MutationStep s more s₁ ∧ Others s₁ s' ∧
      Attested command s₀ (ms ++ more) s₁ observation.status := by
  obtain ⟨s₁, now, attempt, inspection, h₁, h₂, hattempt, hverdict, hstatus⟩ :=
    (observeRotation_classifies h).2 observation rfl
  obtain ⟨more, hmore⟩ := run_of_others h₁
  refine ⟨more, s₁, hmore, h₂, hstatus ▸ ?_⟩
  exact hattempt.attested (hrun.append hmore) (Or.inl ⟨b, a, hcreated.append hmore⟩) hdest hnew
    hold hverdict

end

/-! ## Exactly one end passes its guards -/

section
variable {s : Store} {destination : DestinationRow} {new old : TokenRow} {now : Time}

/-- A destination that has tokens was read when they were written. -/
theorem Store.destination_read {s₀ : Store}
    (hrow : s₀.destination? destination.destinationID = some destination)
    (hempty : ∀ token ∈ s₀.tokens, token.destinationID ≠ destination.destinationID)
    (hrun : Run MutationStep s₀ ms s) {token : TokenRow} (ht : token ∈ s.tokens)
    (hd : token.destinationID = destination.destinationID) :
    destination.createdAt.micros ≠ 0 ∧ destination.stateChangedAt.micros ≠ 0 := by
  suffices h : s.destination? destination.destinationID = some destination ∧
      ((∃ id token, s.row? id = some token ∧
        token.destinationID = destination.destinationID) →
      destination.createdAt.micros ≠ 0 ∧ destination.stateChangedAt.micros ≠ 0) from
    h.2 ⟨_, token, Store.row?_of_mem ht, hd⟩
  refine hrun.invariant (P := fun s => s.destination? destination.destinationID = some destination ∧
    ((∃ id token, s.row? id = some token ∧ token.destinationID = destination.destinationID) →
      destination.createdAt.micros ≠ 0 ∧ destination.stateChangedAt.micros ≠ 0)) ?_ ⟨hrow, ?_⟩
  · rintro s m s' ⟨hs, hread⟩ (rfl | hcommit)
    · exact ⟨hs, hread⟩
    obtain ⟨row, tokens, tokens', rows, hc⟩ := Mutation.commit_ok hcommit
    refine ⟨(hc.destination?_eq _).trans hs, ?_⟩
    rintro ⟨id, token, ht, hd⟩
    by_cases hdest : m.destination = destination.destinationID
    · obtain ⟨hc₁, hc₂, -⟩ := Mutation.destination_of_commit hcommit (hdest ▸ hs)
      exact ⟨hc₁, hc₂⟩
    · exact hread ⟨id, token, (hc.row?_other (hd ▸ Ne.symm hdest)).mp ht, hd⟩
  · rintro ⟨id, token, ht, hd⟩
    exact absurd hd (hempty token (Store.mem_of_row? ht))

/-- The guards on a live pair, of which only the deadline is left to be checked. -/
theorem Loaded.rotationPair_ok {state : LifecycleLockedState} {row : DestinationRow}
    {audience : GatewayAudienceID} {id : DestinationID} (stale : Bool)
    (hl : Loaded s audience id now row (.activeWithRetiring new old) state)
    (henabled : row.state = .enabled) (hchanged : new.stateChangedAt.toTime ≤ now)
    (hexpiry : now < new.expiresAt.toTime)
    (hdeadline : optionalTime old.retirementOverlapDeadline ≠ 0)
    (hold : stale = false → now < old.expiresAt.toTime) :
    lifecycleRotationPair state new.recordID old.recordID now stale = .ok (new.view, old.view) := by
  obtain ⟨hna, hor, hsame⟩ := hl.paired
  have horow := (hl.represents .retiring old).mp rfl
  have hchecked := Store.checked (Store.mem_of_row? horow.2.1)
  obtain ⟨v, hv⟩ := Option.isSome_iff_exists.mp (hchecked.retiring horow.2.2.2).1
  have hoc : old.stateChangedAt.toTime ≤ now := hsame ▸ hchanged
  have hov : v.toTime ≤ now := (Timestamp.toTime_le.mpr (hchecked.activated v hv).2).trans hoc
  refine lifecycleRotationPair_eq_ok.mpr ⟨hl.slots .active, hl.slots .retiring,
    ⟨hl.slots .staged, rfl, rfl⟩, ?_, hold⟩
  simp only [hl.enabled_iff, henabled, TokenRow.view, hna, hor, hv, optionalTime_some, hsame]
  exact ⟨trivial, hexpiry, hoc, hoc, hov, hoc, hoc, trivial, trivial, trivial, hdeadline⟩

/-- **Exactly one end of a live pair passes its guards**: the rollback before the recorded
deadline, the finalization from then on. -/
theorem Store.Sound.one_end_passes (hsound : s.Sound destination)
    (hoverlaps : s.Overlaps destination.destinationID)
    (hc : destination.createdAt.micros ≠ 0) (hs : destination.stateChangedAt.micros ≠ 0)
    (henabled : destination.state = .enabled)
    (hrep : s.Represents destination.destinationID (.activeWithRetiring new old))
    (hnow : now ≠ 0) (hsince : destination.stateChangedAt.toTime ≤ now)
    (hchanged : new.stateChangedAt.toTime ≤ now) (hexpiry : now < new.expiresAt.toTime) :
    ∃ deadline, old.retirementOverlapDeadline = some deadline ∧
      ((Mutation.rollbackRotation ⟨destination.audienceID, destination.destinationID, new.recordID,
        old.recordID, now⟩).Passes s ↔ now < deadline.toTime) ∧
      ((Mutation.finalizeRotation ⟨destination.audienceID, destination.destinationID, new.recordID,
        old.recordID, .deadlineElapsed, now⟩).Passes s ↔ ¬ now < deadline.toTime) := by
  obtain ⟨tokens, hrep', hbounded⟩ := hoverlaps
  obtain rfl := hrep'.unique hrep
  obtain ⟨deadline, hdeadline, hnewExpiry, holdExpiry⟩ := hbounded
  obtain ⟨state, hload⟩ := hsound.loadable.load hc hs now hnow hsince
  obtain ⟨row, tokens, hl⟩ := Store.loadState_ok hload
  obtain rfl : destination = row := Option.some.inj (hsound.row.symm.trans hl.destination)
  obtain rfl := hl.represents.unique hrep
  obtain ⟨-, hnrow, -, hns⟩ := (hrep .active new).mp rfl
  obtain ⟨-, horow, hod, hos⟩ := (hrep .retiring old).mp rfl
  have hmem := Keyed.mem_of_lookup hsound.row
  have hids : new.recordID ≠ old.recordID := by
    intro heq
    rw [heq, horow, Option.some.injEq] at hnrow
    rw [hnrow, hns] at hos
    cases hos
  have hrecords : ¬ new.recordID.IsZero ∧ ¬ old.recordID.IsZero :=
    ⟨(Store.checked (Store.mem_of_row? hnrow)).record,
      (Store.checked (Store.mem_of_row? horow)).record⟩
  have hzero : ¬ (destination.audienceID.IsZero ∨ destination.destinationID.IsZero ∨ now = 0) := by
    simp [s.destinationsValid.audience _ hmem, s.destinationsValid.id _ hmem, hnow]
  have hpresent : optionalTime old.retirementOverlapDeadline ≠ 0 := by
    rw [hdeadline, optionalTime_some, ne_eq, Timestamp.toTime_eq_zero]
    exact (hsound.tokens _ old horow hod).1.deadline _ hdeadline
  have hview : old.view.retirementDeadline = deadline.toTime := by
    simp [TokenRow.view, hdeadline]
  refine ⟨deadline, hdeadline, ⟨?_, fun hlt => ?_⟩, ⟨?_, fun hge => ?_⟩⟩
  · rintro ⟨statements, -, -, state', hload', hplan⟩
    obtain rfl : state = state' := Except.ok.inj (hload.symm.trans hload')
    simp only [Mutation.plan, Except.bind_eq_ok, Except.refuseIf_eq_ok, not_not] at hplan
    obtain ⟨pair, hpair, _, hbefore, -⟩ := hplan
    obtain ⟨_, _, htokens, rfl⟩ := hl.exists_pair hpair
    cases htokens
    exact hview ▸ hbefore
  · have hpair := hl.rotationPair_ok false henabled hchanged hexpiry hpresent
      fun _ => hlt.trans (Timestamp.toTime_lt.mpr holdExpiry)
    obtain ⟨statements, hplan⟩ : ∃ statements, (Mutation.rollbackRotation ⟨destination.audienceID,
        destination.destinationID, new.recordID, old.recordID, now⟩).plan state =
          .ok statements := by
      simp only [Mutation.plan, hpair, Except.bind_eq_ok, Except.refuseIf_eq_ok, not_not]
      exact ⟨_, _, rfl, (), hview ▸ hlt, rfl⟩
    refine ⟨statements, ?_, hzero, state, hload, hplan⟩
    simp only [Mutation.checkInput, Except.refuseIf_eq_ok]
    simp [hrecords, hids]
  · rintro ⟨statements, -, -, state', hload', hplan⟩
    obtain rfl : state = state' := Except.ok.inj (hload.symm.trans hload')
    simp only [Mutation.plan, Except.bind_eq_ok, Except.refuseIf_eq_ok, not_and] at hplan
    obtain ⟨pair, hpair, _, helapsed, -⟩ := hplan
    obtain ⟨_, _, htokens, rfl⟩ := hl.exists_pair hpair
    cases htokens
    exact hview ▸ helapsed trivial
  · have hpair := hl.rotationPair_ok true henabled hchanged hexpiry hpresent
      fun h => absurd h (by decide)
    obtain ⟨statements, hplan⟩ : ∃ statements, (Mutation.finalizeRotation ⟨destination.audienceID,
        destination.destinationID, new.recordID, old.recordID, .deadlineElapsed, now⟩).plan state =
          .ok statements := by
      simp only [Mutation.plan, hpair, Except.bind_eq_ok, Except.refuseIf_eq_ok]
      exact ⟨_, _, rfl, (), fun h => hge (hview ▸ h.2), rfl⟩
    refine ⟨statements, ?_, hzero, state, hload, hplan⟩
    simp only [Mutation.checkInput, Except.refuseIf_eq_ok]
    simp [hrecords, hids, RotationCompletionReason.Valid]

end

/-! ## The result -/

section
variable {ν : Type} [ErrorGraph ν] [DecidableEq ν] {world : World ν} {mayKeep : Prop}
  {hmac : KeyedHash}
  {service : DestinationTokenRotationParticipantService}

open DestinationTokenRotationParticipantService

/-- **Each rotation ends at most once, on the right side of its deadline.**  In every run,
after a rollback or a finalization of the pair of a handle has committed, every further
one is refused: it does not commit on the repository, and every run of the participant's
operations ends with an error and changes nothing, whatever else happens meanwhile.
While the pair is live, and no zero time was stored for the destination, exactly one of
the two passes its guards: the rollback if and only if it comes before the recorded
deadline. -/
theorem rotation_ends_once (handle : DestinationTokenRotationHandle) :
    (∀ (s₀ s : Store) (ms : List Mutation) (m : Mutation) (b a : Store),
      CommitsIn s₀ ms s m b a →
      m.EndsPair handle.newActiveRecordID handle.oldRetiringRecordID →
      (∀ m' : Mutation, m'.EndsPair handle.newActiveRecordID handle.oldRetiringRecordID →
        ∀ s', m'.commit s ≠ .ok s') ∧
      ∀ (operation : ParticipantProg ν (Option Sentinel)) trace err s' l,
        operation = rollbackRotation handle ∨ operation = finalizeRotation handle →
        operation.Traces ((lifecycleSpec world mayKeep).clientStep (service.call hmac))
          (s, ⟨none, []⟩) trace err (s', l) →
        err ≠ none ∧ ∀ change ∈ l.own, change.2 = change.1) ∧
    ∀ (destination : DestinationRow) (s₀ s : Store) (ms : List Mutation) (new old : TokenRow)
      (now : Time), s₀.destination? destination.destinationID = some destination →
      (∀ token ∈ s₀.tokens, token.destinationID ≠ destination.destinationID) →
      Run MutationStep s₀ ms s →
      (∀ m ∈ ms, m.destination = destination.destinationID → m.TimesPresent) →
      s.Represents destination.destinationID (.activeWithRetiring new old) →
      destination.state = .enabled → now ≠ 0 → destination.stateChangedAt.toTime ≤ now →
      new.stateChangedAt.toTime ≤ now → now < new.expiresAt.toTime →
      ∃ deadline, old.retirementOverlapDeadline = some deadline ∧
        ((Mutation.rollbackRotation ⟨destination.audienceID, destination.destinationID,
          new.recordID, old.recordID, now⟩).Passes s ↔ now < deadline.toTime) ∧
        ((Mutation.finalizeRotation ⟨destination.audienceID, destination.destinationID,
          new.recordID, old.recordID, .deadlineElapsed, now⟩).Passes s ↔
            ¬ now < deadline.toTime) := by
  constructor
  · rintro s₀ s ms m b a ⟨before, after, -, -, hcommit, hafter⟩ hm
    have hended := (hm.ended hcommit).run hafter
    refine ⟨fun m' hm' s' hcommit' => ?_, ?_⟩
    · exact hended.not_passes hm' (Mutation.passes_of_commit hcommit')
    · rintro _ trace err s' l (rfl | rfl) h
      · exact rollbackRotation_of_ended hended h
      · exact finalizeRotation_of_ended hended h
  · intro destination s₀ s ms new old now hrow hempty hrun htimes hrep henabled hnow hsince hchanged
      hexpiry
    obtain ⟨-, hnew, hnd, -⟩ := (hrep .active new).mp rfl
    obtain ⟨hc, hs⟩ := Store.destination_read hrow hempty hrun (Store.mem_of_row? hnew) hnd
    exact ((Store.Sound.initial hrow hempty).run hrun htimes).one_end_passes
      (Store.Overlaps.run hempty hrun) hc hs henabled hrep hnow hsince hchanged hexpiry

end

/-- The sample rotation: in its overlap the rollback passes and the finalization does not;
once it is finalized nothing does. -/
theorem sampleRotation_ends_once : ∃ s s',
    commitAll sampleRotation (sampleStore 10) = .ok s ∧
    (Mutation.rollbackRotation ⟨sampleID 1, sampleID 2, sampleID 4, sampleID 3,
      sampleTime 25⟩).Passes s ∧
    ¬ (Mutation.finalizeRotation ⟨sampleID 1, sampleID 2, sampleID 4, sampleID 3, .deadlineElapsed,
      sampleTime 25⟩).Passes s ∧
    (Mutation.finalizeRotation ⟨sampleID 1, sampleID 2, sampleID 4, sampleID 3, .deadlineElapsed,
      sampleTime 40⟩).commit s = .ok s' ∧
    ∀ now s'', (Mutation.rollbackRotation ⟨sampleID 1, sampleID 2, sampleID 4, sampleID 3,
      now⟩).commit s' ≠ .ok s'' := by
  obtain ⟨s', hs', -⟩ := Except.exists_of_toOption_map
    (show (commitAll (sampleRotation ++ [.finalizeRotation ⟨sampleID 1, sampleID 2, sampleID 4,
      sampleID 3, .deadlineElapsed, sampleTime 40⟩]) (sampleStore 10)).toOption.map
        (fun _ => ()) = some () by decide +kernel)
  obtain ⟨s, hs, hfinalize⟩ := commitAll_snoc hs'
  obtain ⟨a, ha, hactivate⟩ := @commitAll_snoc (sampleRotation.take 3) _ _ _ hs
  obtain ⟨b, -, hcreate⟩ := @commitAll_snoc (sampleRotation.take 2) _ _ _ ha
  obtain ⟨active, -, -, hid, hprepared⟩ := Store.Represents.of_createRotationStagedToken hcreate
  have hactivated : RotationAttempt.Activated ⟨(sampleCandidate 4 (sampleTime 22)).row, active⟩ a []
      ⟨sampleID 1, sampleID 2, sampleID 4, sampleID 3, sampleTime 23, sampleTime 33⟩ a s :=
    ⟨.nil, hprepared, rfl, rfl, hid.symm, hactivate⟩
  obtain ⟨hended, hpasses⟩ := @rotation_ends_once Empty _ _ (fun _ _ => True) False sampleHmac
    (sampleParticipant 10000000000 (by decide)) sampleHandle
  obtain ⟨deadline, hdeadline, hrollback, hfinal⟩ := hpasses (sampleDestination 10) (sampleStore 10) s
    sampleRotation _ _ (sampleTime 25) rfl (fun _ h => absurd h List.not_mem_nil)
    (run_of_commitAll hs) (by decide) hactivated.replaced rfl (by decide) (by decide)
    (show (Timestamp.ofTime (sampleTime 23)).toTime ≤ sampleTime 25 by decide)
    (show sampleTime 25 < (Timestamp.ofTime (sampleTime 3622)).toTime by decide)
  have htime : deadline.toTime = sampleTime 33 := by
    rw [← show Timestamp.ofTime (sampleTime 33) = deadline from Option.some.inj hdeadline]
    decide
  have hold : (active.retired (sampleTime 23) (sampleTime 33)).recordID = sampleID 3 := hid
  rw [htime, hold] at hrollback hfinal
  refine ⟨s, s', hs, hrollback.mpr (by decide), fun h => hfinal.mp h (by decide), hfinalize,
    fun now => ?_⟩
  exact (hended (sampleStore 10) s' _ _ s s' ⟨sampleRotation, [], rfl, run_of_commitAll hs, hfinalize,
    .nil⟩ ⟨rfl, rfl⟩).1 _ ⟨rfl, rfl⟩

/-- **A rotation whose overlap ends at Go's zero time can be ended neither way**: its
destination is not loaded any more, neither before the deadline nor after it. -/
theorem zeroRotation_never_ends : ∃ (s₀ s : Store)
    (trace : List (Sigma (ParticipantCall.Answer Empty)))
    (attempt : DestinationTokenRotationAttempt) (l : Session.Local Store LifecycleTx),
    commitAll earlyProvisioning (sampleStore (-100)) = .ok s₀ ∧
    (DestinationTokenRotationParticipantService.beginRotation sampleRequest).Traces
      ((lifecycleSpec (fun _ _ => True) False).clientStep
        ((sampleParticipant 10000000000 (by decide)).call sampleHmac))
      (s₀, ⟨none, []⟩) trace (attempt, none) (s, l) ∧
    attempt.handle = sampleHandle ∧
    s.tokens.map (fun row => (row.recordID, row.state)) =
      [(sampleID 3, .retiring), (sampleID 4, .active)] ∧
    (∀ row ∈ s.tokens, row.stateChangedAt.toTime ≤ sampleTime (-5) ∧
      sampleTime 5 < row.expiresAt.toTime) ∧
    ¬ (Mutation.rollbackRotation ⟨sampleID 1, sampleID 2, sampleID 4, sampleID 3,
      sampleTime (-5)⟩).Passes s ∧
    ¬ (Mutation.finalizeRotation ⟨sampleID 1, sampleID 2, sampleID 4, sampleID 3, .deadlineElapsed,
      sampleTime 5⟩).Passes s := by
  obtain ⟨s₀, s, trace, attempt, l, hs, htraces, hhandle, hstates, htimes, hfailed⟩ :=
    zeroRotation_begun
  refine ⟨s₀, s, trace, attempt, l, hs, htraces, hhandle, hstates,
    fun row hrow => (htimes row hrow).2, ?_, ?_⟩
  · rintro ⟨statements, -, -, state, hload, -⟩
    exact (hfailed (sampleTime (-5)) (by decide)).2 state hload
  · rintro ⟨statements, -, -, state, hload, -⟩
    exact (hfailed (sampleTime 5) (by decide)).2 state hload

end OncallGateway
