import OncallGateway.LifecycleSnapshot

/-! # Commands to the lifecycle repository

The arguments of the seven lifecycle mutations, as the `securitystate` package
builds them: the candidate for a staged token, the commands of a rotation, and the
receipt of an activation.  The repository checks a candidate again before it uses
it, so a candidate is plain data here and `newStagedTokenCandidate` is the check.
-/

namespace OncallGateway

/-- `StagedTokenCandidate`. -/
structure StagedTokenCandidate where
  audienceID : GatewayAudienceID
  destination : DestinationID
  recordID : DestinationTokenRecordID
  verifier : TokenVerifier
  verifierKeyID : DestinationVerifierKeyID
  createdAt : Time
  expiresAt : Time
  stagedCleanupDeadline : Time
deriving DecidableEq

/-- `NewStagedTokenCandidate`. -/
def newStagedTokenCandidate (audience : GatewayAudienceID) (destination : DestinationID)
    (recordID : DestinationTokenRecordID) (verifier : TokenVerifier)
    (keyID : DestinationVerifierKeyID) (createdAt expiresAt cleanupDeadline : Time) :
    Except Sentinel StagedTokenCandidate :=
  if audience.IsZero ∨ destination.IsZero ∨ recordID.IsZero ∨ verifier.present = false ∨
      keyID.IsZero ∨ createdAt = 0 ∨ ¬ expiresAt > createdAt ∨
      expiresAt.sub createdAt > tokenMaxLifetime ∨ ¬ cleanupDeadline > createdAt ∨
      cleanupDeadline.sub createdAt > tokenMaxCleanup then
    .error .errDestinationLifecycleInvalid
  else
    .ok ⟨audience, destination, recordID, verifier, keyID, createdAt, expiresAt, cleanupDeadline⟩

/-- The candidate passes the check of its own fields. -/
def StagedTokenCandidate.revalidate (candidate : StagedTokenCandidate) :
    Except Sentinel StagedTokenCandidate :=
  newStagedTokenCandidate candidate.audienceID candidate.destination candidate.recordID
    candidate.verifier candidate.verifierKeyID candidate.createdAt candidate.expiresAt
    candidate.stagedCleanupDeadline

/-- `CreateRotationStagedTokenCommand`. -/
structure CreateRotationStagedTokenCommand where
  candidate : StagedTokenCandidate
  expectedActiveRecordID : DestinationTokenRecordID
  now : Time
deriving DecidableEq

/-- `NewCreateRotationStagedTokenCommand`. -/
def newCreateRotationStagedTokenCommand (candidate : StagedTokenCandidate)
    (expectedActiveRecordID : DestinationTokenRecordID) (now : Time) :
    Except Sentinel CreateRotationStagedTokenCommand :=
  match candidate.revalidate with
  | .error _ => .error .errDestinationLifecycleInvalid
  | .ok validated =>
    if validated.recordID ≠ candidate.recordID ∨ expectedActiveRecordID.IsZero ∨
        expectedActiveRecordID = candidate.recordID ∨ now = 0 ∨ candidate.createdAt ≠ now then
      .error .errDestinationLifecycleInvalid
    else
      .ok ⟨validated, expectedActiveRecordID, now⟩

/-- `ActivateRotationCommand`. -/
structure ActivateRotationCommand where
  audienceID : GatewayAudienceID
  destinationID : DestinationID
  stagedRecordID : DestinationTokenRecordID
  oldActiveRecordID : DestinationTokenRecordID
  now : Time
  overlapDeadline : Time
deriving DecidableEq

/-- `RollbackRotationCommand`. -/
structure RollbackRotationCommand where
  audienceID : GatewayAudienceID
  destinationID : DestinationID
  newActiveRecordID : DestinationTokenRecordID
  oldRetiringRecordID : DestinationTokenRecordID
  now : Time
deriving DecidableEq

/-- `FinalizeRotationCommand`. -/
structure FinalizeRotationCommand where
  audienceID : GatewayAudienceID
  destinationID : DestinationID
  newActiveRecordID : DestinationTokenRecordID
  oldRetiringRecordID : DestinationTokenRecordID
  reason : RotationCompletionReason
  now : Time
deriving DecidableEq

/-- `canonicalDestinationLifecycleTimestamp`. -/
def canonicalDestinationLifecycleTimestamp (value : Time) : Time := value.truncateMicrosecond

/-- `DestinationTokenRotationActivationReceipt`. -/
structure DestinationTokenRotationActivationReceipt where
  activatedAt : Time
  retirementDeadline : Time
deriving DecidableEq

namespace DestinationTokenRotationActivationReceipt

/-- `DestinationTokenRotationActivationReceipt.valid`. -/
def Valid (receipt : DestinationTokenRotationActivationReceipt) : Prop :=
  receipt.activatedAt ≠ 0 ∧
    receipt.activatedAt = canonicalDestinationLifecycleTimestamp receipt.activatedAt ∧
    receipt.retirementDeadline =
      canonicalDestinationLifecycleTimestamp receipt.retirementDeadline ∧
    receipt.retirementDeadline > receipt.activatedAt ∧
    receipt.retirementDeadline.sub receipt.activatedAt ≤ tokenMaxOverlap

instance (receipt : DestinationTokenRotationActivationReceipt) : Decidable receipt.Valid :=
  inferInstanceAs (Decidable (_ ∧ _ ∧ _ ∧ _ ∧ _))

/-- `DestinationTokenRotationActivationReceipt.validAt`. -/
def ValidAt (receipt : DestinationTokenRotationActivationReceipt) (now : Time) : Prop :=
  receipt.Valid ∧ now ≠ 0 ∧ receipt.activatedAt ≤ now ∧ now < receipt.retirementDeadline

instance (receipt : DestinationTokenRotationActivationReceipt) (now : Time) :
    Decidable (receipt.ValidAt now) :=
  inferInstanceAs (Decidable (_ ∧ _ ∧ _ ∧ _))

end DestinationTokenRotationActivationReceipt

/-- `NewDestinationTokenRotationActivationReceipt`. -/
def newDestinationTokenRotationActivationReceipt (activatedAt retirementDeadline : Time) :
    Except Sentinel DestinationTokenRotationActivationReceipt :=
  let receipt : DestinationTokenRotationActivationReceipt := ⟨activatedAt, retirementDeadline⟩
  if receipt.Valid then .ok receipt else .error .errDestinationLifecycleInvalid

/-! ## What a checked candidate satisfies -/

/-- The candidates `NewStagedTokenCandidate` accepts. -/
structure StagedTokenCandidate.Valid (candidate : StagedTokenCandidate) : Prop where
  audience : ¬ candidate.audienceID.IsZero
  destination : ¬ candidate.destination.IsZero
  record : ¬ candidate.recordID.IsZero
  verifier : candidate.verifier.present = true
  keyID : ¬ candidate.verifierKeyID.IsZero
  created : candidate.createdAt ≠ 0
  expires : candidate.createdAt < candidate.expiresAt
  lifetime : candidate.expiresAt.sub candidate.createdAt ≤ tokenMaxLifetime
  cleanup : candidate.createdAt < candidate.stagedCleanupDeadline
  cleanupBound : candidate.stagedCleanupDeadline.sub candidate.createdAt ≤ tokenMaxCleanup

theorem StagedTokenCandidate.revalidate_eq {candidate : StagedTokenCandidate} :
    candidate.revalidate = .ok candidate ↔ candidate.Valid := by
  unfold revalidate newStagedTokenCandidate
  constructor
  · intro h
    split at h
    · cases h
    rename_i hv
    push Not at hv
    obtain ⟨ha, hd, hr, hver, hk, hc, he, hl, hcl, hcb⟩ := hv
    exact ⟨ha, hd, hr, by simpa using hver, hk, hc, he, hl, hcl, hcb⟩
  · intro h
    rw [if_neg]
    push Not
    exact ⟨h.audience, h.destination, h.record, by simp [h.verifier], h.keyID, h.created,
      h.expires, h.lifetime, h.cleanup, h.cleanupBound⟩

/-- The check returns the candidate it was given, or fails. -/
theorem StagedTokenCandidate.revalidate_ok {candidate validated : StagedTokenCandidate}
    (h : candidate.revalidate = .ok validated) : validated = candidate ∧ candidate.Valid := by
  have heq : validated = candidate := by
    unfold revalidate newStagedTokenCandidate at h
    split at h
    · cases h
    · cases h
      rfl
  subst heq
  exact ⟨rfl, revalidate_eq.mp h⟩

end OncallGateway
