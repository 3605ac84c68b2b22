import OncallGateway.LifecycleVerdict

/-! # What the participant may rely on

The contract of each call of the participant: what it answers, and the changes it has
made by then.  Reads change nothing; a mutation of the lifecycle ends with a `Verdict`; a
creation reports the record identifier unless it is certain that nothing was inserted.
**The lifecycle service meets its contracts over the faulty database**
(`participant_contracts`), so the participant is verified against them alone.
-/

namespace OncallGateway
open Session Session.Spec

/-- The candidate the service makes for a token: the verifier is that of the token, under a
key for the audience, and the token is not the one to be replaced. -/
structure Issuance {ν : Type} (world : World ν) (hmac : KeyedHash)
    (keyID : DestinationVerifierKeyID) (audience : GatewayAudienceID) (destination : DestinationID)
    (rotation : Option (DestinationTokenRecordID × OpaqueDestinationToken)) (token : ByteString)
    (candidate : StagedTokenCandidate) : Prop where
  ofAudience : candidate.audienceID = audience
  ofDestination : candidate.destination = destination
  ofKey : candidate.verifierKeyID = keyID
  verifier : ∃ raw key, parseOpaqueDestinationToken token = .ok raw ∧
    (∀ r, rotation = some r → raw ≠ r.2) ∧
    world (.destinationVerifierKey audience keyID) (.ok key) ∧
    computeDestinationTokenVerifier hmac audience raw key = .ok candidate.verifier

/-- The command a rotation's creation hands to the repository, with the token that is to
be returned. -/
structure StagedFor {ν : Type} (world : World ν) (hmac : KeyedHash)
    (keyID : DestinationVerifierKeyID) (audience : GatewayAudienceID) (destination : DestinationID)
    (expected : DestinationTokenRecordID) (current : OpaqueDestinationToken) (token : ByteString)
    (command : CreateRotationStagedTokenCommand) : Prop
    extends Issuance world hmac keyID audience destination (some (expected, current)) token
      command.candidate where
  ofExpected : command.expectedActiveRecordID = expected
  distinct : command.candidate.recordID ≠ expected
  record : ¬ command.candidate.recordID.IsZero

section
variable {ν : Type} (world : World ν) (mayKeep : Prop) (hmac : KeyedHash)
  (service : DestinationTokenLifecycleService) (audience : GatewayAudienceID)
  (destination : DestinationID)

/-- The contract of `CreateRotationStagedToken`. -/
inductive CreateVerdict (expected : DestinationTokenRecordID) (current : OpaqueDestinationToken) :
    CreatedStagedToken × Option Sentinel → List (Store × Store) → Prop
  | committed {command : CreateRotationStagedTokenCommand} {token : ByteString} {b a : Store} :
      StagedFor world hmac service.activeKeyID audience destination expected current token command →
      (Mutation.createRotationStagedToken command).commit b = .ok a →
      CreateVerdict expected current (⟨command.candidate.recordID, token⟩, none) [(b, a)]
  | refused {kind : Sentinel} : CreateVerdict expected current (.none, some kind) []
  | unknown {command : CreateRotationStagedTokenCommand} {token : ByteString}
      {changes : List (Store × Store)} :
      StagedFor world hmac service.activeKeyID audience destination expected current token command →
      Verdict mayKeep (· = .createRotationStagedToken command)
        (some .errDestinationLifecycleOutcomeUnknown) changes →
      CreateVerdict expected current (⟨command.candidate.recordID, []⟩,
        some .errDestinationLifecycleOutcomeUnknown) changes

/-- The contract of `ActivateRotation`. -/
inductive ActivateVerdict (staged oldActive : DestinationTokenRecordID) :
    Except Sentinel DestinationTokenRotationActivationReceipt → List (Store × Store) → Prop
  | committed {receipt : DestinationTokenRotationActivationReceipt} {b a : Store} : receipt.Valid →
      (Mutation.activateRotation ⟨audience, destination, staged, oldActive, receipt.activatedAt,
        receipt.retirementDeadline⟩).commit b = .ok a →
      ActivateVerdict staged oldActive (.ok receipt) [(b, a)]
  | failed {kind : Sentinel} {changes : List (Store × Store)} :
      Verdict mayKeep (fun m => ∃ now deadline, m = .activateRotation
        ⟨audience, destination, staged, oldActive, now, deadline⟩) (some kind) changes →
      ActivateVerdict staged oldActive (.error kind) changes

end

/-- **The contracts of the participant's calls.** -/
def participantContract {ν : Type} (world : World ν) (mayKeep : Prop)
    (hmac : KeyedHash) (service : DestinationTokenLifecycleService) :
    (call : ParticipantCall) → call.Answer ν → List (Store × Store) → Prop
  | .createRotationStagedToken audience destination expected current =>
    CreateVerdict world mayKeep hmac service audience destination expected current
  | .activateRotation audience destination staged oldActive =>
    ActivateVerdict mayKeep audience destination staged oldActive
  | .abortStagedToken audience destination staged =>
    Verdict mayKeep fun m => ∃ now, m = .abortStagedToken audience destination staged now
  | .rollbackRotation handle =>
    Verdict mayKeep fun m => ∃ now, m = .rollbackRotation ⟨handle.audienceID, handle.destination,
      handle.newActiveRecordID, handle.oldRetiringRecordID, now⟩
  | .finalizeRotation handle reason =>
    Verdict mayKeep fun m => ∃ now, m = .finalizeRotation ⟨handle.audienceID, handle.destination,
      handle.newActiveRecordID, handle.oldRetiringRecordID, reason, now⟩
  | _ => fun _ changes => changes = []

/-! ## The lifecycle service meets the contracts -/

section
variable {ν : Type} [ErrorGraph ν] {world : World ν} {mayKeep : Prop}
  {audience : GatewayAudienceID} {destination : DestinationID}

theorem reads_lifecycleCancellation {err : Option (GoError ν)} :
    (lifecycleSpec world mayKeep).Reads Others (lifecycleCancellation err) fun _ => True := by
  cases err with
  | some err => exact Reads.pure lifecycle_interference trivial
  | none =>
    exact Reads.bind lifecycle_interference (Reads.ask lifecycle_interference)
      fun _ _ => Reads.pure lifecycle_interference trivial

theorem reads_operationInput :
    (lifecycleSpec world mayKeep).Reads Others
      (operationInput audience destination : LifecycleProg ν _) fun _ => True := by
  unfold operationInput
  split
  · exact Reads.pure lifecycle_interference trivial
  refine Reads.bind lifecycle_interference reads_lifecycleCancellation fun r _ => ?_
  cases r with
  | some cancellation => exact Reads.pure lifecycle_interference trivial
  | none =>
    refine Reads.bind lifecycle_interference (Reads.ask lifecycle_interference) fun now _ => ?_
    split <;> exact Reads.pure lifecycle_interference trivial

theorem reads_recordOperationInput {record : DestinationTokenRecordID} :
    (lifecycleSpec world mayKeep).Reads Others
      (recordOperationInput audience destination record : LifecycleProg ν _) fun _ => True := by
  unfold recordOperationInput
  refine Reads.bind lifecycle_interference reads_operationInput fun r _ => ?_
  cases r with
  | error err => exact Reads.pure lifecycle_interference trivial
  | ok now => dsimp only; split <;> exact Reads.pure lifecycle_interference trivial

theorem reads_pairOperationInput {first second : DestinationTokenRecordID} :
    (lifecycleSpec world mayKeep).Reads Others
      (pairOperationInput audience destination first second : LifecycleProg ν _)
      fun _ => True := by
  unfold pairOperationInput
  refine Reads.bind lifecycle_interference reads_recordOperationInput fun r _ => ?_
  cases r with
  | error err => exact Reads.pure lifecycle_interference trivial
  | ok now => dsimp only; split <;> exact Reads.pure lifecycle_interference trivial

omit [ErrorGraph ν] in
theorem reads_generateRecord :
    (lifecycleSpec world mayKeep).Reads Others (generateRecord : LifecycleProg ν _)
      fun _ => True := by
  unfold generateRecord
  refine Reads.bind lifecycle_interference (Reads.ask lifecycle_interference) fun r _ => ?_
  cases r with
  | error err => exact Reads.pure lifecycle_interference trivial
  | ok recordID =>
    dsimp only
    split
    · exact Reads.pure lifecycle_interference trivial
    refine Reads.bind lifecycle_interference (Reads.ask lifecycle_interference) fun r _ => ?_
    cases r <;> exact Reads.pure lifecycle_interference trivial

/-- A mutation of the repository, with its error classified. -/
theorem ends_classified {m : Mutation} {M : Mutation → Prop} (hm : M m) :
    (lifecycleSpec world mayKeep).Ends Others
      (do return classifyDestinationLifecycleError (← m.run) : LifecycleProg ν (Option Sentinel))
      (Verdict mayKeep M) := by
  refine Ends.bind lifecycle_interference ends_run fun err changes h => ?_
  exact Ends.pure lifecycle_interference (by simpa using h.verdict hm)

namespace DestinationTokenLifecycleService
variable {service : DestinationTokenLifecycleService} {hmac : KeyedHash}
variable {expected newActive oldRetiring staged : DestinationTokenRecordID}
  {current : OpaqueDestinationToken}

theorem ends_abortStagedToken :
    (lifecycleSpec world mayKeep).Ends Others
      (abortStagedToken audience destination staged : LifecycleProg ν _)
      (Verdict mayKeep fun m => ∃ now, m = .abortStagedToken audience destination staged now) := by
  unfold abortStagedToken
  refine Reads.andThen lifecycle_interference reads_recordOperationInput fun r _ => ?_
  cases r with
  | error err => exact Ends.pure lifecycle_interference .refused
  | ok now => exact ends_classified ⟨now, rfl⟩

theorem ends_activateInitialToken :
    (lifecycleSpec world mayKeep).Ends Others
      (activateInitialToken audience destination staged : LifecycleProg ν _)
      (Verdict mayKeep fun m =>
        ∃ now, m = .activateInitialToken audience destination staged now) := by
  unfold activateInitialToken
  refine Reads.andThen lifecycle_interference reads_recordOperationInput fun r _ => ?_
  cases r with
  | error err => exact Ends.pure lifecycle_interference .refused
  | ok now => exact ends_classified ⟨now, rfl⟩

theorem ends_rollbackRotation :
    (lifecycleSpec world mayKeep).Ends Others
      (rollbackRotation audience destination newActive oldRetiring : LifecycleProg ν _)
      (Verdict mayKeep fun m => ∃ now, m = .rollbackRotation
        ⟨audience, destination, newActive, oldRetiring, now⟩) := by
  unfold rollbackRotation
  refine Reads.andThen lifecycle_interference reads_pairOperationInput fun r _ => ?_
  cases r with
  | error err => exact Ends.pure lifecycle_interference .refused
  | ok now => exact ends_classified ⟨now, rfl⟩

theorem ends_finalizeRotation {reason : RotationCompletionReason} :
    (lifecycleSpec world mayKeep).Ends Others
      (finalizeRotation audience destination newActive oldRetiring reason : LifecycleProg ν _)
      (Verdict mayKeep fun m => ∃ now, m = .finalizeRotation
        ⟨audience, destination, newActive, oldRetiring, reason, now⟩) := by
  unfold finalizeRotation
  refine Reads.andThen lifecycle_interference reads_pairOperationInput fun r _ => ?_
  cases r with
  | error err => exact Ends.pure lifecycle_interference .refused
  | ok now =>
    dsimp only
    split
    · exact Ends.pure lifecycle_interference .refused
    · exact ends_classified ⟨now, rfl⟩

theorem ends_activateRotation {oldActive : DestinationTokenRecordID} :
    (lifecycleSpec world mayKeep).Ends Others
      (service.activateRotation audience destination staged oldActive : LifecycleProg ν _)
      (ActivateVerdict mayKeep audience destination staged oldActive) := by
  unfold activateRotation
  refine Reads.andThen lifecycle_interference reads_pairOperationInput fun r _ => ?_
  cases r with
  | error err => exact Ends.pure lifecycle_interference (.failed .refused)
  | ok now =>
    dsimp only
    unfold newDestinationTokenRotationActivationReceipt
    dsimp only
    split_ifs with hvalid
    swap
    · exact Ends.pure lifecycle_interference (.failed .refused)
    refine Ends.bind lifecycle_interference ends_run fun err changes h => ?_
    have hverdict := h.verdict (M := (· = _)) rfl
    cases hkind : classifyDestinationLifecycleError err with
    | some kind =>
      rw [hkind] at hverdict
      refine Ends.pure lifecycle_interference (.failed ?_)
      rw [List.append_nil]
      exact hverdict.mono fun m hm => ⟨_, _, hm⟩
    | none =>
      rw [hkind] at hverdict
      obtain ⟨_, b, a, rfl, rfl, hcommit⟩ := hverdict.of_none
      exact Ends.pure lifecycle_interference (.committed hvalid hcommit)

/-- The mutation of a rotation's candidate. -/
theorem createMutation_eq_ok {candidate : StagedTokenCandidate} {now : Time} {m : Mutation}
    (h : createMutation candidate now (some (expected, current)) = .ok m) :
    m = .createRotationStagedToken ⟨candidate, expected, now⟩ ∧ candidate.Valid ∧
      candidate.recordID ≠ expected := by
  simp only [createMutation, newCreateRotationStagedTokenCommand] at h
  cases hval : candidate.revalidate with
  | error err => simp [hval] at h
  | ok validated =>
    obtain ⟨rfl, hvalid⟩ := StagedTokenCandidate.revalidate_ok hval
    simp only [hval] at h
    split_ifs at h with hbad
    simp only [not_or] at hbad
    cases h
    exact ⟨rfl, hvalid, fun h => hbad.2.2.1 h.symm⟩

theorem ends_storeStagedToken (command : CreateRotationStagedTokenCommand) {encoded : ByteString}
    (h : StagedFor world hmac service.activeKeyID audience destination expected current encoded
      command) :
    (lifecycleSpec world mayKeep).Ends Others
      (storeStagedToken (.createRotationStagedToken command) command.candidate.recordID encoded :
        LifecycleProg ν _)
      (CreateVerdict world mayKeep hmac service audience destination expected current) := by
  unfold storeStagedToken
  refine Ends.bind lifecycle_interference ends_run fun err changes hrun => ?_
  have hverdict := hrun.verdict (M := (· = _)) rfl
  cases hkind : classifyDestinationLifecycleError err with
  | none =>
    rw [hkind] at hverdict
    obtain ⟨_, b, a, rfl, rfl, hcommit⟩ := hverdict.of_none
    exact Ends.pure lifecycle_interference (.committed h hcommit)
  | some kind =>
    rw [hkind] at hverdict
    dsimp only
    split_ifs with hunknown
    · subst hunknown
      refine Ends.pure lifecycle_interference (.unknown h ?_)
      rwa [List.append_nil]
    · rw [hverdict.of_certain hunknown]
      exact Ends.pure lifecycle_interference .refused

/-- `createStagedToken` reaches the repository with a candidate it has made, or is refused. -/
theorem ends_createStagedToken
    {rotation : Option (DestinationTokenRecordID × OpaqueDestinationToken)}
    {P : CreatedStagedToken × Option Sentinel → List (Store × Store) → Prop}
    (hrefused : ∀ kind, P (.none, some kind) [])
    (hstore : ∀ candidate now token m,
      Issuance world hmac service.activeKeyID audience destination rotation token candidate →
      createMutation candidate now rotation = .ok m →
      (lifecycleSpec world mayKeep).Ends Others
        (storeStagedToken m candidate.recordID token : LifecycleProg ν _) P) :
    (lifecycleSpec world mayKeep).Ends Others
      (service.createStagedToken hmac audience destination rotation : LifecycleProg ν _) P := by
  have hi : (lifecycleSpec world mayKeep).Interference Others := lifecycle_interference
  unfold createStagedToken
  refine Reads.andThen hi reads_operationInput fun r _ => ?_
  cases r with
  | error err => exact Ends.pure hi (hrefused _)
  | ok now =>
    refine Reads.andThen hi reads_generateRecord fun generated _ => ?_
    refine Reads.andThen hi reads_lifecycleCancellation fun r _ => ?_
    cases r with
    | some cancellation => exact Ends.pure hi (hrefused _)
    | none =>
      cases generated with
      | error err => exact Ends.pure hi (hrefused _)
      | ok generated =>
        obtain ⟨recordID, entropy⟩ := generated
        dsimp only
        split
        · exact Ends.pure hi (hrefused _)
        cases hparse : parseOpaqueDestinationToken
          (opaqueTokenPrefix ++ base64Encode entropy.toList) with
        | error err => exact Ends.pure hi (hrefused _)
        | ok raw =>
          dsimp only
          split
          · exact Ends.pure hi (hrefused _)
          rename_i hnew
          refine Reads.andThen hi (Reads.ask hi) fun key hkey => ?_
          refine Reads.andThen hi reads_lifecycleCancellation fun r _ => ?_
          cases r with
          | some cancellation => exact Ends.pure hi (hrefused _)
          | none =>
            cases key with
            | error err => exact Ends.pure hi (hrefused _)
            | ok key =>
              dsimp only
              cases hverifier : computeDestinationTokenVerifier hmac audience raw key with
              | error err => exact Ends.pure hi (hrefused _)
              | ok verifier =>
                dsimp only
                cases hcandidate : newStagedTokenCandidate audience destination recordID verifier
                  service.activeKeyID now (now.add service.tokenLifetime)
                  (now.add service.cleanupDuration) with
                | error err => exact Ends.pure hi (hrefused _)
                | ok candidate =>
                  dsimp only
                  cases hm : createMutation candidate now rotation with
                  | error err => exact Ends.pure hi (hrefused _)
                  | ok m =>
                    unfold newStagedTokenCandidate at hcandidate
                    split_ifs at hcandidate
                    cases hcandidate
                    exact hstore _ now _ m ⟨rfl, rfl, rfl, raw, key, hparse,
                      fun r hr => by simpa [hr] using hnew, hkey, hverifier⟩ hm

/-- **`CreateRotationStagedToken` meets its contract.** -/
theorem ends_createRotationStagedToken :
    (lifecycleSpec world mayKeep).Ends Others
      (service.createRotationStagedToken hmac audience destination expected current :
        LifecycleProg ν _)
      (CreateVerdict world mayKeep hmac service audience destination expected current) := by
  unfold createRotationStagedToken
  split
  · exact Ends.pure lifecycle_interference .refused
  refine ends_createStagedToken (fun _ => .refused) fun candidate now token m hissue hm => ?_
  obtain ⟨rfl, hvalid, hne⟩ := createMutation_eq_ok hm
  exact ends_storeStagedToken ⟨candidate, expected, now⟩ ⟨hissue, rfl, hne, hvalid.record⟩

theorem reads_inspectLifecycleState :
    (lifecycleSpec world mayKeep).Ends Others
      (inspectLifecycleState audience destination : LifecycleProg ν _)
      fun _ changes => changes = [] := by
  have hi : (lifecycleSpec world mayKeep).Interference Others := lifecycle_interference
  unfold inspectLifecycleState
  refine Reads.andThen hi reads_operationInput fun r _ => ?_
  cases r with
  | error err => exact Ends.pure hi rfl
  | ok now =>
    refine Ends.bind hi (ends_of_inspected fun s own => wp_inspectLifecycleState) ?_
    rintro r _ rfl
    cases r with
    | error err => exact Ends.pure hi rfl
    | ok snapshot => dsimp only; split <;> exact Ends.pure hi rfl

end DestinationTokenLifecycleService

/-- **The calls of the participant meet their contracts**, whatever faults the database and
the world have. -/
theorem participant_contracts [DecidableEq ν]
    (service : DestinationTokenRotationParticipantService)
    (hmac : KeyedHash) (call : ParticipantCall) :
    (lifecycleSpec world mayKeep).Ends Others (service.call hmac call : LifecycleProg ν _)
      (participantContract world mayKeep hmac service.lifecycle call) := by
  have hask : ∀ request, (lifecycleSpec world mayKeep).Ends Others
      (Session.ask request : LifecycleProg ν _) fun _ changes => changes = [] :=
    fun request => Ends.ask lifecycle_interference fun _ _ => rfl
  cases call with
  | contextErr => exact hask _
  | clock => exact hask _
  | resolve audience token now => exact hask _
  | identifyRotationToken handle token now => exact hask _
  | inspectRotationAttempt handle now =>
    exact ends_of_inspected fun s own => wp_inspectRotationAttempt
  | inspectLifecycleState audience destination =>
    exact DestinationTokenLifecycleService.reads_inspectLifecycleState
  | createRotationStagedToken audience destination expected current =>
    exact DestinationTokenLifecycleService.ends_createRotationStagedToken
  | activateRotation audience destination staged oldActive =>
    exact DestinationTokenLifecycleService.ends_activateRotation
  | abortStagedToken audience destination staged =>
    exact DestinationTokenLifecycleService.ends_abortStagedToken
  | rollbackRotation handle => exact DestinationTokenLifecycleService.ends_rollbackRotation
  | finalizeRotation handle reason =>
    exact DestinationTokenLifecycleService.ends_finalizeRotation

end

end OncallGateway
