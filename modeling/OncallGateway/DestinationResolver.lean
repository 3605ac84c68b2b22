import OncallGateway.LifecycleService

/-! # The resolver

`OpaqueDestinationResolver` finds the destination of a token: it computes the token's
verifier under each key of its ring, looks each up, and answers with the one record
found.  What is not found, and what is found but not usable, is the same
`ErrDestinationNotFound`; a record that cannot be read, or a second one, is
`ErrDestinationResolverIntegrity`.

The resolver reads outside of any transaction.  Its calls may fail in every way; what
it answers on a store when none does is in the second half (`answerOn`).
-/

namespace OncallGateway

/-- `destinationVerifierCandidate`. -/
structure DestinationVerifierCandidate where
  keyID : DestinationVerifierKeyID
  verifier : TokenVerifier

/-- `destinationTokenRecord`: the columns of a token, as `lifecycleTokenRecord` has them,
the number of rows found, and the columns of the destination, null when there is none. -/
structure DestinationTokenRecord extends LifecycleTokenRecord where
  count : Nat
  destinationRecordText : Option ByteString
  destinationAudienceText : Option ByteString
  destinationStateText : Option String
  destinationCreatedAt : Timestamptz
  destinationStateChangedAt : Timestamptz

/-- `destinationTokenRecord.token`. -/
def DestinationTokenRecord.token (record : DestinationTokenRecord)
    (expectedAudience : GatewayAudienceID) (candidate : DestinationVerifierCandidate) :
    Except Sentinel DestinationToken := do
  .refuseIf (record.count ≠ 1 ∨ ¬ FiniteTimestamp record.createdAt ∨
    ¬ FiniteTimestamp record.expiresAt ∨ ¬ FiniteTimestamp record.stagedCleanupDeadline ∨
    ¬ FiniteTimestamp record.stateChangedAt ∨ record.destinationRecordText.isNone ∨
    record.destinationAudienceText.isNone ∨ record.destinationStateText.isNone ∨
    ¬ FiniteTimestamp record.destinationCreatedAt ∨
    ¬ FiniteTimestamp record.destinationStateChangedAt) .errDestinationResolverIntegrity
  let recordID ← (parseDestinationTokenRecordID record.recordText).relabel
    .errDestinationResolverIntegrity
  let audience ← (parseGatewayAudienceID record.audienceText).relabel
    .errDestinationResolverIntegrity
  let destinationID ← (parseDestinationID record.destinationText).relabel
    .errDestinationResolverIntegrity
  let storedVerifier ← (newTokenVerifier record.verifierBytes).relabel
    .errDestinationResolverIntegrity
  let storedKeyID ← (newDestinationVerifierKeyID record.keyIDText).relabel
    .errDestinationResolverIntegrity
  let destinationRecordID ← (parseDestinationID (record.destinationRecordText.getD [])).relabel
    .errDestinationResolverIntegrity
  let destinationAudience ← (parseGatewayAudienceID (record.destinationAudienceText.getD [])).relabel
    .errDestinationResolverIntegrity
  .refuseIf (audience ≠ expectedAudience ∨ destinationID ≠ destinationRecordID ∨
    destinationAudience ≠ audience ∨ storedKeyID ≠ candidate.keyID) .errDestinationResolverIntegrity
  .refuseIf (storedVerifier.bytes ≠ candidate.verifier.bytes) .errDestinationResolverIntegrity
  let state ← (destinationState (record.destinationStateText.getD "")).relabel
    .errDestinationResolverIntegrity
  let destination ← (newDestination destinationAudience destinationRecordID state
    record.destinationCreatedAt.time record.destinationStateChangedAt.time).relabel
    .errDestinationResolverIntegrity
  let tokenState ← (destinationTokenState record.stateText).relabel
    .errDestinationResolverIntegrity
  let activatedAt ← (optionalFiniteTime record.activatedAt).relabel
    .errDestinationResolverIntegrity
  let retirementStartedAt ← (optionalFiniteTime record.retirementStartedAt).relabel
    .errDestinationResolverIntegrity
  let revokedAt ← (optionalFiniteTime record.revokedAt).relabel .errDestinationResolverIntegrity
  let retirementDeadline ← (optionalFiniteTime record.retirementDeadline).relabel
    .errDestinationResolverIntegrity
  newDestinationToken {
    audienceID := audience
    destination := destination
    recordID := recordID
    verifier := storedVerifier
    verifierKeyID := storedKeyID
    state := tokenState
    createdAt := record.createdAt.time
    activatedAt := activatedAt
    retirementStartedAt := retirementStartedAt
    revokedAt := revokedAt
    expiresAt := record.expiresAt.time
    stagedCleanupDeadline := record.stagedCleanupDeadline.time
    retirementDeadline := retirementDeadline
    stateChangedAt := record.stateChangedAt.time }

/-! ## Programs -/

/-- The calls of the resolver: on its context, its key source, and its connection. -/
inductive ResolverCall where
  | contextErr
  | destinationVerifierKey (audience : GatewayAudienceID) (keyID : DestinationVerifierKeyID)
  | acquire
  /-- `selectDestinationTokenSQL`. -/
  | select (audience : GatewayAudienceID) (keyID verifier : ByteString)
  | release
  | destroy

/-- Their answers. -/
def ResolverCall.Answer (ε : Type) : ResolverCall → Type
  | .contextErr => Option ε
  | .destinationVerifierKey _ _ => Except ε ByteString
  | .acquire => Session.Opened ε
  | .select _ _ _ => RowAnswer ε DestinationTokenRecord
  | .release => Unit
  | .destroy => Unit

/-- A program of the resolver. -/
abbrev ResolverProg (ν α : Type) := Prog ResolverCall (ResolverCall.Answer (GoError ν)) α

/-- `OpaqueDestinationResolver`: one or two keys that are not the same. -/
structure OpaqueDestinationResolver where
  keyIDs : List DestinationVerifierKeyID
  size : 1 ≤ keyIDs.length ∧ keyIDs.length ≤ 2
  valid : ∀ keyID ∈ keyIDs, newDestinationVerifierKeyID keyID.value = .ok keyID
  distinct : keyIDs.Nodup

section
variable {ν : Type}

/-- `newOpaqueDestinationResolver`. -/
def newOpaqueDestinationResolver (keyIDs : List DestinationVerifierKeyID) :
    Except (GoError ν) OpaqueDestinationResolver :=
  if h : (1 ≤ keyIDs.length ∧ keyIDs.length ≤ 2) ∧
      (∀ keyID ∈ keyIDs, newDestinationVerifierKeyID keyID.value = .ok keyID) ∧ keyIDs.Nodup then
    .ok ⟨keyIDs, h.1, h.2.1, h.2.2⟩
  else
    .error (.safe .errDestinationResolverIntegrity "destination resolver configuration")

variable [ErrorGraph ν]

/-- `destinationResolverContextSentinel`: of an error if there is one, and of the context if
not. -/
def destinationResolverContextSentinel : Option (GoError ν) → ResolverProg ν (Option Sentinel)
  | some err =>
    if err.singleCauseMatches .contextCanceled then return some .contextCanceled
    else if err.singleCauseMatches .contextDeadlineExceeded then
      return some .contextDeadlineExceeded
    else return none
  | none => do
    let err ← Prog.request ResolverCall.contextErr
    if err.any (·.isSentinel .contextCanceled) then return some .contextCanceled
    else if err.any (·.isSentinel .contextDeadlineExceeded) then
      return some .contextDeadlineExceeded
    else return none

namespace OpaqueDestinationResolver
variable (hmac : KeyedHash) (resolver : OpaqueDestinationResolver)

/-- The loop of `verifierCandidates`. -/
def collectCandidates (audience : GatewayAudienceID) (rawToken : OpaqueDestinationToken) :
    List DestinationVerifierKeyID → Bool → List DestinationVerifierCandidate →
      ResolverProg ν (Except (GoError ν) (Bool × List DestinationVerifierCandidate))
  | [], unavailable, candidates => return .ok (unavailable, candidates)
  | keyID :: keyIDs, unavailable, candidates => do
    let key ← Prog.request (ResolverCall.destinationVerifierKey audience keyID)
    match ← destinationResolverContextSentinel (Except.error? key) with
    | some cancellation => return .error (.safe cancellation "destination verifier key")
    | none =>
      match key with
      | .error _ => collectCandidates audience rawToken keyIDs true candidates
      | .ok key =>
        if List.length key < 32 then collectCandidates audience rawToken keyIDs true candidates
        else
          match computeDestinationTokenVerifier hmac audience rawToken key with
          | .error _ => collectCandidates audience rawToken keyIDs true candidates
          | .ok verifier =>
            collectCandidates audience rawToken keyIDs unavailable
              (candidates ++ [⟨keyID, verifier⟩])

/-- `verifierCandidates`. -/
def verifierCandidates (audience : GatewayAudienceID) (rawToken : OpaqueDestinationToken) :
    ResolverProg ν (Except (GoError ν) (List DestinationVerifierCandidate)) := do
  match ← collectCandidates hmac audience rawToken resolver.keyIDs false [] with
  | .error err => return .error err
  | .ok (unavailable, candidates) =>
    if unavailable ∨ candidates.length ≠ resolver.keyIDs.length then
      return .error (.safe .errDestinationResolverUnavailable "destination verifier key")
    else return .ok candidates

/-- The connection is destroyed or released. -/
def finish (destroy : Bool) : ResolverProg ν Unit :=
  if destroy then Prog.request ResolverCall.destroy else Prog.request ResolverCall.release

/-- The loop of `matchingDestinationTokens`. -/
def collectMatches (audience : GatewayAudienceID) :
    List DestinationVerifierCandidate → Bool → List DestinationToken →
      ResolverProg ν (Except (GoError ν) (Bool × List DestinationToken))
  | [], integrityFailure, found => return .ok (integrityFailure, found)
  | candidate :: candidates, integrityFailure, found => do
    match ← destinationResolverContextSentinel none with
    | some cancellation =>
      finish true
      return .error (.safe cancellation "destination token lookup query")
    | none =>
      match ← Prog.request (ResolverCall.select audience candidate.keyID.value
          candidate.verifier.bytes.toList) with
      | .absent =>
        finish true
        return .error (.safe .errDestinationResolverUnavailable "destination token lookup query")
      | .scanned result =>
        match ← destinationResolverContextSentinel (Except.error? result) with
        | some cancellation =>
          finish true
          return .error (.safe cancellation "destination token lookup query")
        | none =>
          match result with
          | .error err =>
            if err.isSentinel .pgxErrNoRows then
              collectMatches audience candidates integrityFailure found
            else
              finish (← err.isConnectionInterruption)
              return .error
                (.safe .errDestinationResolverUnavailable "destination token lookup query")
          | .ok record =>
            match DestinationTokenRecord.token record audience candidate with
            | .error _ => collectMatches audience candidates true found
            | .ok token => collectMatches audience candidates integrityFailure (found ++ [token])

/-- `matchingDestinationTokens`. -/
def matchingDestinationTokens (audience : GatewayAudienceID) (rawToken : OpaqueDestinationToken) :
    ResolverProg ν (Except (GoError ν) (List DestinationToken)) := do
  match ← verifierCandidates hmac resolver audience rawToken with
  | .error err => return .error err
  | .ok candidates =>
    match ← Prog.request ResolverCall.acquire with
    | .failed err connection =>
      if connection then
        Prog.request ResolverCall.destroy
      match ← destinationResolverContextSentinel (some err) with
      | some cancellation => return .error (.safe cancellation "destination token lookup connection")
      | none =>
        return .error
          (.safe .errDestinationResolverUnavailable "destination token lookup connection")
    | .absent =>
      return .error (.safe .errDestinationResolverUnavailable "destination token lookup connection")
    | .opened =>
      match ← collectMatches audience candidates false [] with
      | .error err => return .error err
      | .ok (integrityFailure, found) =>
        match ← destinationResolverContextSentinel none with
        | some cancellation =>
          finish true
          return .error (.safe cancellation "destination token lookup query")
        | none =>
          finish false
          if integrityFailure ∨ found.length > 1 then
            return .error (.safe .errDestinationResolverIntegrity "destination token lookup record")
          else return .ok found

/-- `Resolve`. -/
def resolve (expectedAudience : GatewayAudienceID) (rawToken : OpaqueDestinationToken)
    (now : Time) : ResolverProg ν (Except (GoError ν) DestinationID) := do
  if expectedAudience.IsZero ∨ now = 0 ∨
      parseGatewayAudienceID (formatUUID expectedAudience) ≠ .ok expectedAudience then
    return .error (.safe .errDestinationResolverIntegrity "destination resolution input")
  else
    match ← destinationResolverContextSentinel none with
    | some cancellation => return .error (.safe cancellation "destination resolution canceled")
    | none =>
      match ← matchingDestinationTokens hmac resolver expectedAudience rawToken with
      | .error err => return .error err
      | .ok [] => return .error (.sentinel .errDestinationNotFound)
      | .ok (token :: _) =>
        if token.UsableAt now then return .ok token.spec.destination.id
        else return .error (.sentinel .errDestinationNotFound)

/-- `IdentifyRotationToken`. -/
def identifyRotationToken (expectedAudience : GatewayAudienceID)
    (expectedDestination : DestinationID) (rawToken : OpaqueDestinationToken)
    (newActiveRecordID oldRetiringRecordID : DestinationTokenRecordID) (now : Time) :
    ResolverProg ν (Except (GoError ν) DestinationTokenRotationTokenIdentity) := do
  if expectedAudience.IsZero ∨ expectedDestination.IsZero ∨ newActiveRecordID.IsZero ∨
      oldRetiringRecordID.IsZero ∨ newActiveRecordID = oldRetiringRecordID ∨ now = 0 then
    return .error (.safe .errDestinationResolverIntegrity "rotation token identification input")
  else
    match ← destinationResolverContextSentinel none with
    | some cancellation =>
      return .error (.safe cancellation "rotation token identification canceled")
    | none =>
      match ← matchingDestinationTokens hmac resolver expectedAudience rawToken with
      | .error err => return .error err
      | .ok [] => return .ok .neither
      | .ok (token :: _) =>
        if token.spec.audienceID ≠ expectedAudience ∨
            token.spec.destination.id ≠ expectedDestination then
          return .ok .neither
        else if token.spec.recordID = newActiveRecordID then return .ok .new
        else if token.spec.recordID = oldRetiringRecordID then return .ok .old
        else return .ok .neither

end OpaqueDestinationResolver

end

/-! ## On a store, without faults -/

/-- The row `selectDestinationTokenSQL` returns first, with the number of rows. -/
def Store.tokenRecord (s : Store) (audience : GatewayAudienceID) (keyID verifier : ByteString) :
    Option DestinationTokenRecord :=
  match s.tokens.filter fun row => decide (row.audienceID = audience ∧
      row.verifierKeyID = keyID ∧ row.verifier = verifier) with
  | [] => none
  | row :: rows =>
    let destination := (s.destination? row.destinationID).map DestinationRow.record
    some { row.record with
      count := rows.length + 1
      destinationRecordText := destination.map (·.destinationText)
      destinationAudienceText := destination.map (·.audienceText)
      destinationStateText := destination.map (·.stateText)
      destinationCreatedAt := (destination.map (·.createdAt)).getD .null
      destinationStateChangedAt := (destination.map (·.stateChangedAt)).getD .null }

/-- The verifier keys of the audiences. -/
abbrev VerifierKeys := GatewayAudienceID → DestinationVerifierKeyID → ByteString

section
variable {ν : Type} (keys : VerifierKeys) (s : Store)

/-- The answers on a store when nothing fails and the keys are `keys`. -/
def answerOn : (call : ResolverCall) → call.Answer (GoError ν)
  | .contextErr => (none : Option (GoError ν))
  | .destinationVerifierKey audience keyID => .ok (keys audience keyID)
  | .acquire => Session.Opened.opened
  | .select audience keyID verifier => .scanned
    (match s.tokenRecord audience keyID verifier with
    | none => .error (.sentinel .pgxErrNoRows)
    | some record => .ok record)
  | .release => ()
  | .destroy => ()

/-- What a program of the resolver returns then. -/
def ResolverProg.on {α : Type} (p : ResolverProg ν α) : Except Stop α :=
  (p.eval (fun (_ : Unit) call => (answerOn keys s call, ())) ()).1

/-- What a candidate finds: nothing, or a record that is read as a token or not. -/
def Store.matching (audience : GatewayAudienceID) (candidate : DestinationVerifierCandidate) :
    Option (Except Sentinel DestinationToken) :=
  (s.tokenRecord audience candidate.keyID.value candidate.verifier.bytes.toList).map
    fun record => record.token audience candidate

end

/-- The verifier of a token under a key. -/
def tokenVerifier (hmac : KeyedHash) (audience : GatewayAudienceID)
    (token : OpaqueDestinationToken) (key : ByteString) : TokenVerifier :=
  ⟨hmac key (destinationTokenVerifierDomain ++ 0 :: (formatUUID audience ++ 0 :: token.toList)),
    true⟩

theorem computeDestinationTokenVerifier_eq_ok {hmac : KeyedHash}
    {audience : GatewayAudienceID} {token : OpaqueDestinationToken} {key : ByteString}
    {verifier : TokenVerifier} :
    computeDestinationTokenVerifier hmac audience token key = .ok verifier ↔
      ¬ audience.IsZero ∧ 32 ≤ key.length ∧ tokenVerifier hmac audience token key = verifier := by
  unfold computeDestinationTokenVerifier tokenVerifier
  by_cases h : audience.IsZero ∨ key.length < 32
  · rw [if_pos h]
    refine ⟨nofun, ?_⟩
    rintro ⟨hz, hlen, -⟩
    exact absurd h (not_or.mpr ⟨hz, not_lt.mpr hlen⟩)
  · rw [if_neg h]
    simp only [not_or, not_lt] at h
    simp [newTokenVerifier, h]

namespace ResolverProg
variable {ν α β : Type} {keys : VerifierKeys}
  {s : Store}

@[simp] theorem on_pure (a : α) : (pure a : ResolverProg ν α).on keys s = .ok a := rfl

@[simp] theorem on_request (call : ResolverCall)
    (f : call.Answer (GoError ν) → ResolverProg ν β) :
    ResolverProg.on keys s (Prog.request call >>= f) = (f (answerOn keys s call)).on keys s := rfl

@[simp] theorem on_bind (p : ResolverProg ν α) (f : α → ResolverProg ν β) :
    (p >>= f).on keys s = p.on keys s >>= fun a => (f a).on keys s := by
  induction p with
  | ret a => rfl
  | call e k ih => exact ih _
  | stop reason => rfl

@[simp] theorem ok_bind (a : α) (f : α → Except Stop β) : (Except.ok a >>= f) = f a := rfl

end ResolverProg

section
variable {ν : Type} [ErrorGraph ν]
  {keys : VerifierKeys} {s : Store}

@[simp] theorem on_destinationResolverContextSentinel :
    (destinationResolverContextSentinel (none : Option (GoError ν))).on keys s = .ok none := rfl

namespace OpaqueDestinationResolver
variable {hmac : KeyedHash} {resolver : OpaqueDestinationResolver}
  {audience : GatewayAudienceID} {rawToken : OpaqueDestinationToken}

/-- The candidate of a key. -/
def candidateOf (hmac : KeyedHash)
    (keys : VerifierKeys)
    (audience : GatewayAudienceID) (rawToken : OpaqueDestinationToken)
    (keyID : DestinationVerifierKeyID) : DestinationVerifierCandidate :=
  ⟨keyID, tokenVerifier hmac audience rawToken (keys audience keyID)⟩

variable {candidates : List DestinationVerifierCandidate}

theorem on_collectCandidates (haud : ¬ audience.IsZero) {keyIDs : List DestinationVerifierKeyID}
    (hkeys : ∀ keyID ∈ keyIDs, 32 ≤ (keys audience keyID).length) :
    (collectCandidates (ν := ν) hmac audience rawToken keyIDs false candidates).on keys s =
      .ok (.ok (false, candidates ++ keyIDs.map (candidateOf hmac keys audience rawToken))) := by
  induction keyIDs generalizing candidates with
  | nil => simp [collectCandidates]
  | cons keyID keyIDs ih =>
    have hlen := hkeys keyID List.mem_cons_self
    have hverifier := computeDestinationTokenVerifier_eq_ok.mpr
      ⟨haud, hlen, (rfl : tokenVerifier hmac audience rawToken (keys audience keyID) = _)⟩
    rw [collectCandidates, ResolverProg.on_request]
    simp only [ResolverProg.on_bind, ResolverProg.ok_bind, answerOn, Except.error?,
      on_destinationResolverContextSentinel, if_neg (not_lt.mpr hlen), hverifier]
    rw [ih fun id hid => hkeys id (List.mem_cons_of_mem _ hid)]
    simp [candidateOf]

theorem on_verifierCandidates (haud : ¬ audience.IsZero)
    (hkeys : ∀ keyID ∈ resolver.keyIDs, 32 ≤ (keys audience keyID).length) :
    (verifierCandidates (ν := ν) hmac resolver audience rawToken).on keys s =
      .ok (.ok (resolver.keyIDs.map (candidateOf hmac keys audience rawToken))) := by
  simp [verifierCandidates, on_collectCandidates haud hkeys]

/-- The loop collects what the candidates find, if everything found is read. -/
theorem on_collectMatches
    (h : ∀ candidate ∈ candidates, ∀ result, s.matching audience candidate = some result →
      ∃ token, result = .ok token) {found : List DestinationToken} :
    (collectMatches (ν := ν) audience candidates false found).on keys s =
      .ok (.ok (false, found ++ candidates.filterMap
        fun candidate => (s.matching audience candidate).bind Except.toOption)) := by
  induction candidates generalizing found with
  | nil => simp [collectMatches]
  | cons candidate candidates ih =>
    have hrest (found) := @ih (fun c hc => h c (List.mem_cons_of_mem _ hc)) found
    have hmatch := h candidate List.mem_cons_self
    rw [collectMatches, ResolverProg.on_bind, on_destinationResolverContextSentinel,
      ResolverProg.ok_bind]
    dsimp only
    rw [ResolverProg.on_request]
    simp only [ResolverProg.on_bind, answerOn]
    unfold Store.matching at hmatch ⊢
    cases hrecord : s.tokenRecord audience candidate.keyID.value candidate.verifier.bytes.toList with
    | none =>
      have hnone : (destinationResolverContextSentinel
          (some (.sentinel .pgxErrNoRows) : Option (GoError ν))).on keys s = .ok none := by
        simp [destinationResolverContextSentinel]
      simp only [Except.error?, hnone, ResolverProg.ok_bind, GoError.isSentinel, decide_true,
        if_true, hrest]
      simp [hrecord, Store.matching]
    | some record =>
      obtain ⟨token, htoken⟩ := hmatch _ (by rw [hrecord]; rfl)
      simp only [Except.error?, on_destinationResolverContextSentinel, ResolverProg.ok_bind, htoken,
        hrest]
      simp [hrecord, htoken, Store.matching, Except.toOption]

/-- One key finds a token, and the others nothing. -/
theorem on_matchingDestinationTokens (haud : ¬ audience.IsZero)
    (hkeys : ∀ keyID ∈ resolver.keyIDs, 32 ≤ (keys audience keyID).length)
    {keyID : DestinationVerifierKeyID} (hmem : keyID ∈ resolver.keyIDs) {token : DestinationToken}
    (hfound : s.matching audience (candidateOf hmac keys audience rawToken keyID) =
      some (.ok token))
    (hothers : ∀ other ∈ resolver.keyIDs, other ≠ keyID →
      s.matching audience (candidateOf hmac keys audience rawToken other) = none) :
    (matchingDestinationTokens (ν := ν) hmac resolver audience rawToken).on keys s =
      .ok (.ok [token]) := by
  have hread : ∀ candidate ∈ resolver.keyIDs.map (candidateOf hmac keys audience rawToken),
      ∀ result, s.matching audience candidate = some result → ∃ token, result = .ok token := by
    intro candidate hc result hresult
    obtain ⟨other, ho, rfl⟩ := List.mem_map.mp hc
    by_cases heq : other = keyID
    · subst heq
      cases hfound.symm.trans hresult
      exact ⟨token, rfl⟩
    · cases (hothers other ho heq).symm.trans hresult
  have hone : (resolver.keyIDs.map (candidateOf hmac keys audience rawToken)).filterMap
      (fun candidate => (s.matching audience candidate).bind Except.toOption) = [token] := by
    rw [List.filterMap_map]
    refine Keyed.filterMap_eq_singleton resolver.distinct hmem ?_ fun other ho hne => ?_
    · simp [hfound, Except.toOption]
    · simp [hothers other ho hne]
  rw [matchingDestinationTokens, ResolverProg.on_bind, on_verifierCandidates haud hkeys,
    ResolverProg.ok_bind]
  dsimp only
  rw [ResolverProg.on_request]
  simp only [answerOn, ResolverProg.on_bind, ResolverProg.ok_bind, on_collectMatches hread, hone,
    List.nil_append, on_destinationResolverContextSentinel]
  rfl

variable {now : Time} {token : DestinationToken}

theorem on_resolve (haud : ¬ audience.IsZero) (hnow : now ≠ 0)
    (h : (matchingDestinationTokens (ν := ν) hmac resolver audience rawToken).on keys s =
      .ok (.ok [token])) :
    (resolve hmac resolver audience rawToken now).on keys s =
      .ok (if token.UsableAt now then .ok token.spec.destination.id
        else .error (.sentinel .errDestinationNotFound : GoError ν)) := by
  have hparse : parseGatewayAudienceID (formatUUID audience) = .ok audience :=
    parseUUID_ok.mpr ⟨haud, rfl⟩
  unfold resolve
  rw [if_neg (by simp [haud, hnow, hparse])]
  simp only [ResolverProg.on_bind, on_destinationResolverContextSentinel, ResolverProg.ok_bind, h]
  split <;> rfl

theorem on_identifyRotationToken {destination : DestinationID}
    {newActiveRecordID oldRetiringRecordID : DestinationTokenRecordID} (haud : ¬ audience.IsZero)
    (hdest : ¬ destination.IsZero) (hnew : ¬ newActiveRecordID.IsZero)
    (hold : ¬ oldRetiringRecordID.IsZero) (hne : newActiveRecordID ≠ oldRetiringRecordID)
    (hnow : now ≠ 0)
    (h : (matchingDestinationTokens (ν := ν) hmac resolver audience rawToken).on keys s =
      .ok (.ok [token]))
    (ha : token.spec.audienceID = audience) (hd : token.spec.destination.id = destination) :
    (identifyRotationToken hmac resolver audience destination rawToken newActiveRecordID
      oldRetiringRecordID now).on keys s =
      .ok (.ok (if token.spec.recordID = newActiveRecordID then .new
        else if token.spec.recordID = oldRetiringRecordID then .old else .neither) :
        Except (GoError ν) _) := by
  unfold identifyRotationToken
  rw [if_neg (by simp [haud, hdest, hnew, hold, hne, hnow])]
  simp only [ResolverProg.on_bind, on_destinationResolverContextSentinel, ResolverProg.ok_bind, h,
    ha, hd, ne_eq, not_true_eq_false, or_self, if_false]
  split_ifs <;> rfl

end OpaqueDestinationResolver

end

end OncallGateway
