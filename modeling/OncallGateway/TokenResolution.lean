import OncallGateway.DestinationResolver
import OncallGateway.BeginRotation
import OncallGateway.LifecycleContract
import OncallGateway.RotationEnding
import OncallGateway.TokenUsability
import Mathlib.Data.Set.Function

/-! # An issued token resolves to its destination

The service makes a token, stores its verifier and hands out its text; the resolver
computes verifiers and looks them up.  Every row of a store that only the service has
written is the row of a token it has issued (`Provenance`), so that a lookup finds the
row of the token and no other, as long as different tokens have different verifiers.

The resolver reads the row through `destinationTokenRecord.token`, the lifecycle
through `lifecycleTokenRecord.token`; where the second reads a row, the first reads
the same token (`TokenRow.joined_token`).
-/

namespace OncallGateway
open Session Session.Spec

/-! ## Steps of the service -/

/-- The mutation inserts a candidate with the verifier of the token. -/
def Mutation.Issues (hmac : KeyedHash)
    (keys : VerifierKeys) (m : Mutation)
    (token : OpaqueDestinationToken) : Prop :=
  ∃ candidate, m.inserted = some candidate ∧
    computeDestinationTokenVerifier hmac candidate.audienceID token
      (keys candidate.audienceID candidate.verifierKeyID) = .ok candidate.verifier

/-- A call of the service: the mutation, and the token it issues, if any. -/
abbrev ServiceCommit := Mutation × Option OpaqueDestinationToken

/-- A call of the service changes the store by its mutation, or not at all. -/
def ServiceStep (hmac : KeyedHash)
    (keys : VerifierKeys) (s : Store)
    (call : ServiceCommit) (s' : Store) : Prop :=
  MutationStep s call.1 s' ∧
    match call.2 with
    | some token => call.1.Issues hmac keys token
    | none => call.1.inserted = none

/-- `CreateStagedToken`, or, to replace a token, `CreateRotationStagedToken`. -/
def DestinationTokenLifecycleService.issueToken {ν : Type} [ErrorGraph ν]
    (service : DestinationTokenLifecycleService) (hmac : KeyedHash)
    (audience : GatewayAudienceID) (destination : DestinationID) :
    Option (DestinationTokenRecordID × OpaqueDestinationToken) →
      LifecycleProg ν (CreatedStagedToken × Option Sentinel)
  | none => service.createStagedToken hmac audience destination none
  | some (expected, current) =>
    service.createRotationStagedToken hmac audience destination expected current

/-- What is known when a token has been issued. -/
structure Issued (hmac : KeyedHash)
    (keys : VerifierKeys)
    (keyID : DestinationVerifierKeyID) (audience : GatewayAudienceID) (destination : DestinationID)
    (record : DestinationTokenRecordID) (raw : OpaqueDestinationToken) (m : Mutation)
    (candidate : StagedTokenCandidate) : Prop where
  inserted : m.inserted = some candidate
  ofRecord : candidate.recordID = record
  ofAudience : candidate.audienceID = audience
  ofDestination : candidate.destination = destination
  ofKey : candidate.verifierKeyID = keyID
  verifier : computeDestinationTokenVerifier hmac audience raw (keys audience keyID) =
    .ok candidate.verifier

section
variable {ν : Type} [ErrorGraph ν] {world : World ν} {mayKeep : Prop}
  {hmac : KeyedHash}
  {keys : VerifierKeys}
  {service : DestinationTokenLifecycleService} {audience : GatewayAudienceID}
  {destination : DestinationID}
variable {candidate : StagedTokenCandidate} {m : Mutation}
  {rotation : Option (DestinationTokenRecordID × OpaqueDestinationToken)}

theorem DestinationTokenLifecycleService.createMutation_inserted {now : Time}
    (h : createMutation candidate now rotation = .ok m) :
    m.inserted = some candidate := by
  match rotation with
  | none =>
    cases h
    rfl
  | some (expected, current) =>
    obtain ⟨rfl, -⟩ := createMutation_eq_ok h
    rfl

/-- The outcome of an issue: what it has changed it has issued, and a token that is returned
is the one change it has made. -/
structure IssueOutcome (mayKeep : Prop) (hmac : KeyedHash)
    (keys : VerifierKeys)
    (keyID : DestinationVerifierKeyID) (audience : GatewayAudienceID) (destination : DestinationID)
    (r : CreatedStagedToken × Option Sentinel) (changes : List (Store × Store)) : Prop where
  returned : r.2 = none → ∃ b a m raw candidate, changes = [(b, a)] ∧ m.commit b = .ok a ∧
    parseOpaqueDestinationToken r.1.token = .ok raw ∧
    Issued hmac keys keyID audience destination r.1.recordID raw m candidate
  made : ∀ change ∈ changes, ∃ (m : Mutation) (raw : OpaqueDestinationToken),
    m.Issues hmac keys raw ∧ m.Leaves mayKeep change.1 change.2

theorem Issued.issues {record : DestinationTokenRecordID} {raw : OpaqueDestinationToken}
    {keyID : DestinationVerifierKeyID}
    (h : Issued hmac keys keyID audience destination record raw m candidate) :
    m.Issues hmac keys raw :=
  ⟨candidate, h.inserted, by rw [h.ofAudience, h.ofKey]; exact h.verifier⟩

/-- **A token that is returned has been issued.** -/
theorem DestinationTokenLifecycleService.ends_issueToken (hstable : ∀ audience keyID key,
      world (.destinationVerifierKey audience keyID) (.ok key) → key = keys audience keyID) :
    (lifecycleSpec world mayKeep).Ends Others
      (service.issueToken hmac audience destination rotation : LifecycleProg ν _)
      (IssueOutcome mayKeep hmac keys service.activeKeyID audience destination) := by
  have hrefused : ∀ kind, IssueOutcome mayKeep hmac keys service.activeKeyID audience destination
      (.none, some kind) [] := fun _ => ⟨nofun, nofun⟩
  have hcreate : ∀ rotation, (lifecycleSpec world mayKeep).Ends Others
      (service.createStagedToken hmac audience destination rotation : LifecycleProg ν _)
      (IssueOutcome mayKeep hmac keys service.activeKeyID audience destination) := by
    intro rotation
    refine ends_createStagedToken hrefused fun candidate now token m hissue hm => ?_
    obtain ⟨raw, key, hparse, -, hkey, hverifier⟩ := hissue.verifier
    have hissued : Issued hmac keys service.activeKeyID audience destination candidate.recordID raw
        m candidate := ⟨createMutation_inserted hm, rfl, hissue.ofAudience, hissue.ofDestination,
      hissue.ofKey, hstable _ _ _ hkey ▸ hverifier⟩
    unfold storeStagedToken
    refine Ends.bind lifecycle_interference ends_run fun err changes hrun => ?_
    have hverdict := hrun.verdict (M := (· = m)) rfl
    cases hkind : classifyDestinationLifecycleError err with
    | some kind =>
      rw [hkind] at hverdict
      have hmade : ∀ change ∈ changes ++ [], ∃ (m : Mutation) (raw : OpaqueDestinationToken),
          m.Issues hmac keys raw ∧ m.Leaves mayKeep change.1 change.2 := by
        rw [List.append_nil]
        cases hverdict with
        | refused => exact nofun
        | unknown hm hleaves =>
          subst hm
          exact List.forall_mem_singleton.mpr ⟨_, raw, hissued.issues, hleaves⟩
      dsimp only
      split <;> exact Ends.pure lifecycle_interference ⟨nofun, hmade⟩
    | none =>
      rw [hkind] at hverdict
      obtain ⟨_, b, a, rfl, rfl, hcommit⟩ := hverdict.of_none
      exact Ends.pure lifecycle_interference
        ⟨fun _ => ⟨b, a, _, raw, candidate, rfl, hcommit, hparse, hissued⟩,
          List.forall_mem_singleton.mpr ⟨_, raw, hissued.issues, .inl hcommit⟩⟩
  match rotation with
  | none => exact hcreate none
  | some (expected, current) =>
    rw [issueToken, createRotationStagedToken]
    split
    · exact Ends.pure lifecycle_interference (hrefused _)
    · exact hcreate _

/-! ## Every change of the service is such a step -/

/-- The calls of the service that change the store. -/
inductive ServiceCall where
  | issueToken (rotation : Option (DestinationTokenRecordID × OpaqueDestinationToken))
  | activateInitialToken (staged : DestinationTokenRecordID)
  | activateRotation (staged oldActive : DestinationTokenRecordID)
  | abortStagedToken (staged : DestinationTokenRecordID)
  | rollbackRotation (newActive oldRetiring : DestinationTokenRecordID)
  | finalizeRotation (newActive oldRetiring : DestinationTokenRecordID)
      (reason : RotationCompletionReason)

/-- The call, without its result. -/
def ServiceCall.run (service : DestinationTokenLifecycleService)
    (hmac : KeyedHash) (audience : GatewayAudienceID)
    (destination : DestinationID) : ServiceCall → LifecycleProg ν Unit
  | issueToken rotation => do
    let _ ← service.issueToken hmac audience destination rotation
  | activateInitialToken staged => do
    let _ ← DestinationTokenLifecycleService.activateInitialToken audience destination staged
  | activateRotation staged oldActive => do
    let _ ← service.activateRotation audience destination staged oldActive
  | abortStagedToken staged => do
    let _ ← DestinationTokenLifecycleService.abortStagedToken audience destination staged
  | rollbackRotation newActive oldRetiring => do
    let _ ← DestinationTokenLifecycleService.rollbackRotation audience destination newActive
      oldRetiring
  | finalizeRotation newActive oldRetiring reason => do
    let _ ← DestinationTokenLifecycleService.finalizeRotation audience destination newActive
      oldRetiring reason

omit [ErrorGraph ν] in
theorem Mutation.Leaves.commit {b a : Store} (h : m.Leaves False b a) :
    m.commit b = .ok a :=
  h.resolve_right fun h => h.1

theorem Verdict.serviceStep {M : Mutation → Prop} {err : Option Sentinel}
    {changes : List (Store × Store)} (h : Verdict False M err changes)
    (hM : ∀ m, M m → m.inserted = none) :
    ∀ change ∈ changes, ∃ call, ServiceStep hmac keys change.1 call change.2 := by
  cases h with
  | refused => exact nofun
  | committed hm hcommit =>
    exact List.forall_mem_singleton.mpr ⟨(_, none), .inr hcommit, hM _ hm⟩
  | unknown hm hleaves =>
    exact List.forall_mem_singleton.mpr ⟨(_, none), .inr hleaves.commit, hM _ hm⟩

/-- **What a call of the service changes is a step of the service**, whatever fails. -/
theorem ends_serviceCall
    (hstable : ∀ audience keyID key,
      world (.destinationVerifierKey audience keyID) (.ok key) → key = keys audience keyID)
    (call : ServiceCall) :
    (lifecycleSpec world False).Ends Others
      (call.run service hmac audience destination : LifecycleProg ν Unit)
      fun _ changes => ∀ change ∈ changes, ∃ call, ServiceStep hmac keys change.1 call change.2 := by
  have hi : (lifecycleSpec world False).Interference Others := lifecycle_interference
  have hdone : ∀ {changes : List (Store × Store)},
      (∀ change ∈ changes, ∃ call, ServiceStep hmac keys change.1 call change.2) →
      (lifecycleSpec world False).Ends Others (pure () : LifecycleProg ν Unit) fun _ more =>
        ∀ change ∈ changes ++ more, ∃ call, ServiceStep hmac keys change.1 call change.2 :=
    fun h => Ends.pure hi (by simpa using h)
  cases call with
  | issueToken rotation =>
    refine Ends.bind hi (DestinationTokenLifecycleService.ends_issueToken hstable)
      fun r changes h => hdone fun change hchange => ?_
    obtain ⟨m, raw, hissues, hleaves⟩ := h.made change hchange
    exact ⟨(m, some raw), .inr hleaves.commit, hissues⟩
  | activateInitialToken staged =>
    refine Ends.bind hi DestinationTokenLifecycleService.ends_activateInitialToken
      fun r changes h => hdone (h.serviceStep ?_)
    rintro _ ⟨now, rfl⟩
    rfl
  | activateRotation staged oldActive =>
    refine Ends.bind hi DestinationTokenLifecycleService.ends_activateRotation
      fun r changes h => hdone ?_
    cases h with
    | committed _ hcommit => exact List.forall_mem_singleton.mpr ⟨(_, none), .inr hcommit, rfl⟩
    | failed h =>
      refine h.serviceStep ?_
      rintro _ ⟨now, deadline, rfl⟩
      rfl
  | abortStagedToken staged =>
    refine Ends.bind hi DestinationTokenLifecycleService.ends_abortStagedToken
      fun r changes h => hdone (h.serviceStep ?_)
    rintro _ ⟨now, rfl⟩
    rfl
  | rollbackRotation newActive oldRetiring =>
    refine Ends.bind hi DestinationTokenLifecycleService.ends_rollbackRotation
      fun r changes h => hdone (h.serviceStep ?_)
    rintro _ ⟨now, rfl⟩
    rfl
  | finalizeRotation newActive oldRetiring reason =>
    refine Ends.bind hi DestinationTokenLifecycleService.ends_finalizeRotation
      fun r changes h => hdone (h.serviceStep ?_)
    rintro _ ⟨now, rfl⟩
    rfl

end

/-! ## Every row is that of a token -/

/-- What a row keeps of its creation and the resolver looks at. -/
def TokenRow.identity (row : TokenRow) :
    DestinationTokenRecordID × GatewayAudienceID × DestinationID × ByteString × ByteString :=
  (row.recordID, row.audienceID, row.destinationID, row.verifier, row.verifierKeyID)

theorem RowEvolution.identity {m : Mutation} {s s' : Store} {row row' : TokenRow}
    (h : RowEvolution m s s' row row') : row'.identity = row.identity := by
  simp only [TokenRow.identity, h.recordID, h.audienceID, h.destinationID, h.verifier,
    h.verifierKeyID]

/-- The row was inserted by one of the calls, for a token. -/
def Provenance (hmac : KeyedHash)
    (keys : VerifierKeys) (calls : List ServiceCommit)
    (row : TokenRow) : Prop :=
  ∃ m token candidate, (m, some token) ∈ calls ∧ m.inserted = some candidate ∧
    computeDestinationTokenVerifier hmac candidate.audienceID token
      (keys candidate.audienceID candidate.verifierKeyID) = .ok candidate.verifier ∧
    row.identity = candidate.row.identity

variable {ms : List Mutation} {token : DestinationToken}

section
variable {hmac : KeyedHash}
  {keys : VerifierKeys} {s s' : Store}
  {calls : List ServiceCommit}

theorem run_of_service (h : Run (ServiceStep hmac keys) s calls s') :
    Run MutationStep s (calls.map Prod.fst) s' :=
  h.map fun _ _ _ hstep => hstep.1

variable {id : DestinationTokenRecordID}

/-- The identity of a row stays. -/
theorem identity_of_run (h : Run MutationStep s ms s') {row : TokenRow}
    (hrow : s.row? id = some row) :
    ∃ row', s'.row? id = some row' ∧ row'.identity = row.identity := by
  refine h.invariant (P := fun s => ∃ row', s.row? id = some row' ∧ row'.identity = row.identity)
    ?_ ⟨row, hrow, rfl⟩
  rintro s m s' ⟨row', hrow', hid⟩ hstep
  obtain ⟨row'', hrow'', hevolution⟩ := hstep.evolution hrow'
  exact ⟨row'', hrow'', hevolution.identity.trans hid⟩

/-- **In a store that only the service has written every row is that of a token it has
issued.** -/
theorem provenance_of_run (hempty : s.tokens = []) (h : Run (ServiceStep hmac keys) s calls s')
    {row : TokenRow} (hrow : s'.row? id = some row) :
    Provenance hmac keys calls row := by
  refine h.history (P := fun calls s => ∀ id row, s.row? id = some row →
    Provenance hmac keys calls row) ?_ ?_ id row hrow
  · rintro calls s ⟨m, issued⟩ s' ih ⟨hstep, hissued⟩ id row hrow
    cases hold : s.row? id with
    | some old =>
      obtain ⟨row', hrow', hevolution⟩ := hstep.evolution hold
      cases hrow'.symm.trans hrow
      obtain ⟨m', token, candidate, hmem, hm, hverifier, hid⟩ := ih id old hold
      exact ⟨m', token, candidate, List.mem_append_left _ hmem, hm, hverifier,
        hevolution.identity.trans hid⟩
    | none =>
      obtain ⟨candidate, hm, rfl⟩ := hstep.inserted hold hrow
      cases issued with
      | none =>
        rw [show m.inserted = none from hissued] at hm
        cases hm
      | some token =>
        obtain ⟨candidate', hm', hverifier⟩ := hissued
        cases hm.symm.trans hm'
        exact ⟨m, token, candidate, by simp, hm, hverifier, rfl⟩
  · intro id row hrow
    have := Store.mem_of_row? hrow
    rw [hempty] at this
    cases this

end

/-! ## A lookup finds the row of the token -/

/-- The record of a row, joined to its destination, when it is the only one. -/
def TokenRow.joined (row : TokenRow) (destination : DestinationRow) : DestinationTokenRecord :=
  { row.record with
    count := 1
    destinationRecordText := some (formatUUID destination.destinationID)
    destinationAudienceText := some (formatUUID destination.audienceID)
    destinationStateText := some destination.state.text
    destinationCreatedAt := destination.createdAt.column
    destinationStateChangedAt := destination.stateChangedAt.column }

section
variable {s : Store} {row : TokenRow} {destination : DestinationRow}

/-- **Both readers of a row read the same token.** -/
theorem TokenRow.joined_token {candidate : DestinationVerifierCandidate}
    (h : row.record.token destination.audienceID destination.value = .ok token)
    (hcreated : destination.createdAt.micros ≠ 0) (hchanged : destination.stateChangedAt.micros ≠ 0)
    (horder : destination.createdAt ≤ destination.stateChangedAt)
    (hkey : row.verifierKeyID = candidate.keyID.value)
    (hverifier : row.verifier = candidate.verifier.bytes.toList) :
    (row.joined destination).token destination.audienceID candidate = .ok token := by
  obtain ⟨htimes, hrec, haud, hdest, ha, hd, -, verifier, keyID, hv, hk, hspec⟩ :=
    TokenRow.token_eq_ok.mp h
  have hbytes : verifier.bytes = candidate.verifier.bytes := by
    rw [hverifier, newTokenVerifier, Bytes.ofList?_toList] at hv
    cases hv
    rfl
  have hkeyID : keyID = candidate.keyID := by
    rw [hkey, newDestinationVerifierKeyID] at hk
    split at hk <;> cases hk
    rfl
  have hvalue : newDestination destination.audienceID destination.destinationID destination.state
      destination.createdAt.toTime destination.stateChangedAt.toTime = .ok destination.value := by
    rw [newDestination, if_neg]
    · rfl
    · simp only [not_or, not_lt, Timestamp.toTime_eq_zero, Timestamp.toTime_le]
      exact ⟨ha ▸ haud, fun hz => hdest (hd.trans hz), hcreated, horder⟩
  have hd' : row.destinationID = destination.destinationID := hd
  simp only [DestinationTokenRecord.token, TokenRow.joined, TokenRow.record, Except.bind_eq_ok,
    Except.refuseIf_eq_ok, Except.relabel_eq_ok, exists_const, finiteTimestamp_column, not_or,
    not_not, Option.isNone_some, Option.getD_some, parseDestinationTokenRecordID,
    parseGatewayAudienceID, parseDestinationID, parseUUID_ok, column_time, destinationState_text,
    destinationTokenState_text, optionalFiniteTime_column, Except.ok.injEq]
  refine ⟨⟨trivial, htimes.created, htimes.expires, htimes.cleanup, htimes.changed,
    Bool.false_ne_true, Bool.false_ne_true, Bool.false_ne_true, hcreated, hchanged⟩, _,
    ⟨hrec, rfl⟩, _, ⟨haud, rfl⟩, _, ⟨hdest, rfl⟩, verifier, hv, keyID, hk, _,
    ⟨hd' ▸ hdest, rfl⟩, _, ⟨ha ▸ haud, rfl⟩, ⟨ha, hd', ha.symm, hkeyID⟩, hbytes, _, rfl,
    destination.value, hvalue, _, rfl, _, ⟨htimes.activated, rfl⟩, _, ⟨htimes.retirement, rfl⟩, _,
    ⟨htimes.revoked, rfl⟩, _, ⟨htimes.deadline, rfl⟩, ?_⟩
  exact newDestinationToken_eq_ok.mpr hspec

theorem Store.tokenRecord_eq_some (hrow : row ∈ s.tokens)
    (hdest : s.destination? row.destinationID = some destination) :
    s.tokenRecord row.audienceID row.verifierKeyID row.verifier = some (row.joined destination) := by
  have hone : s.tokens.filter (fun other => decide (other.audienceID = row.audienceID ∧
      other.verifierKeyID = row.verifierKeyID ∧ other.verifier = row.verifier)) = [row] := by
    rw [← Keyed.filter_key_eq (s.tokensValid .verifierUnique) hrow]
    simp only [Prod.mk.injEq]
  rw [Store.tokenRecord, hone]
  simp only [hdest, Option.map_some, Option.getD_some]
  rfl

theorem Store.tokenRecord_eq_none {audience : GatewayAudienceID} {keyID verifier : ByteString}
    (h : ∀ row ∈ s.tokens, row.audienceID = audience → row.verifierKeyID = keyID →
      row.verifier ≠ verifier) : s.tokenRecord audience keyID verifier = none := by
  have hnil : s.tokens.filter (fun row => decide (row.audienceID = audience ∧
      row.verifierKeyID = keyID ∧ row.verifier = verifier)) = [] := by
    refine List.filter_eq_nil_iff.mpr fun row hrow hmatch => ?_
    obtain ⟨ha, hk, hv⟩ := of_decide_eq_true hmatch
    exact h row hrow ha hk hv
  rw [Store.tokenRecord, hnil]

end

/-! ## Issue and resolution -/

/-- No token is issued twice. -/
def TokensDistinct (calls : List ServiceCommit) : Prop :=
  ∀ m m' token, (m, some token) ∈ calls → (m', some token) ∈ calls → m = m'

/-- What the verifiers of a run, and those of a lookup, are computed from. -/
def hashedInputs (keys : VerifierKeys)
    (calls : List ServiceCommit) (keyIDs : List DestinationVerifierKeyID)
    (audience : GatewayAudienceID) (raw : OpaqueDestinationToken) :
    Set (ByteString × GatewayAudienceID × OpaqueDestinationToken) :=
  fun x => (∃ m token candidate, (m, some token) ∈ calls ∧ m.inserted = some candidate ∧
      x = (keys candidate.audienceID candidate.verifierKeyID, candidate.audienceID, token)) ∨
    ∃ keyID ∈ keyIDs, x = (keys audience keyID, audience, raw)

/-- The verifier of a key, an audience and a token. -/
def verifierOf (hmac : KeyedHash)
    (x : ByteString × GatewayAudienceID × OpaqueDestinationToken) : TokenVerifier :=
  tokenVerifier hmac x.2.1 x.2.2 x.1

variable {keyIDs : List DestinationVerifierKeyID}

/-- A row that a lookup for an issued token finds is the row of its record. -/
theorem Provenance.record_eq {hmac : KeyedHash} {keys : VerifierKeys} {calls : List ServiceCommit}
    {audience : GatewayAudienceID} {raw : OpaqueDestinationToken} {m : Mutation}
    {candidate : StagedTokenCandidate} {row : TokenRow} (hdistinct : TokensDistinct calls)
    (hinj : Set.InjOn (verifierOf hmac) (hashedInputs keys calls keyIDs audience raw))
    (hcall : (m, some raw) ∈ calls) (hm : m.inserted = some candidate)
    (h : Provenance hmac keys calls row) {keyID : DestinationVerifierKeyID}
    (hkeyID : keyID ∈ keyIDs)
    (hverifier : row.verifier = (tokenVerifier hmac audience raw (keys audience keyID)).bytes.toList) :
    row.identity = candidate.row.identity := by
  obtain ⟨m', token, candidate', hcall', hm', hcompute, hid⟩ := h
  obtain ⟨-, -, hv⟩ := computeDestinationTokenVerifier_eq_ok.mp hcompute
  have hrow : row.verifier = candidate'.verifier.bytes.toList :=
    (congrArg (fun x => x.2.2.2.1) hid : _)
  have hbytes : (tokenVerifier hmac candidate'.audienceID token
      (keys candidate'.audienceID candidate'.verifierKeyID)).bytes =
      (tokenVerifier hmac audience raw (keys audience keyID)).bytes := by
    rw [hv]
    exact Bytes.toList_injective (hrow.symm.trans hverifier)
  have hsame : verifierOf hmac
      (keys candidate'.audienceID candidate'.verifierKeyID, candidate'.audienceID, token) =
      verifierOf hmac (keys audience keyID, audience, raw) :=
    congrArg (TokenVerifier.mk · true) hbytes
  have heq := hinj (.inl ⟨m', token, candidate', hcall', hm', rfl⟩) (.inr ⟨keyID, hkeyID, rfl⟩)
    hsame
  obtain ⟨-, -, rfl⟩ : _ ∧ _ ∧ token = raw := by simpa only [Prod.mk.injEq] using heq
  obtain rfl := hdistinct m' m _ hcall' hcall
  cases hm'.symm.trans hm
  exact hid

/-- The row of an issued token, whatever its state. -/
structure IssuedRow (hmac : KeyedHash)
    (keys : VerifierKeys)
    (keyID : DestinationVerifierKeyID) (audience : GatewayAudienceID) (destination : DestinationID)
    (raw : OpaqueDestinationToken) (row : TokenRow) : Prop where
  audienceID : row.audienceID = audience
  destinationID : row.destinationID = destination
  verifier : row.verifier = (tokenVerifier hmac audience raw (keys audience keyID)).bytes.toList
  verifierKeyID : row.verifierKeyID = keyID.value

section
variable {hmac : KeyedHash}
  {keys : VerifierKeys} {keyID : DestinationVerifierKeyID}
  {audience : GatewayAudienceID} {destination : DestinationID} {record : DestinationTokenRecordID}
  {raw : OpaqueDestinationToken} {m : Mutation} {candidate : StagedTokenCandidate}

theorem Issued.issuedRow (h : Issued hmac keys keyID audience destination record raw m candidate)
    {row : TokenRow} (hid : row.identity = candidate.row.identity) :
    row.recordID = record ∧ IssuedRow hmac keys keyID audience destination raw row := by
  obtain ⟨hrecord, haudience, hdest, hverifier, hkey⟩ : row.recordID = candidate.recordID ∧
      row.audienceID = candidate.audienceID ∧ row.destinationID = candidate.destination ∧
      row.verifier = candidate.verifier.bytes.toList ∧
      row.verifierKeyID = candidate.verifierKeyID.value := by
    simpa only [TokenRow.identity, StagedTokenCandidate.row, Prod.mk.injEq] using hid
  obtain ⟨-, -, hv⟩ := computeDestinationTokenVerifier_eq_ok.mp h.verifier
  exact ⟨hrecord.trans h.ofRecord, haudience.trans h.ofAudience, hdest.trans h.ofDestination,
    hv ▸ hverifier, h.ofKey ▸ hkey⟩

variable {s : Store}

/-- The record of the token is found after its insertion, in every later state. -/
theorem Issued.exists_row (h : Issued hmac keys keyID audience destination record raw m candidate)
    {b a : Store} (hcommit : m.commit b = .ok a) (hafter : Run MutationStep a ms s) :
    ∃ row, s.row? record = some row ∧ IssuedRow hmac keys keyID audience destination raw row := by
  obtain ⟨row, hrow, hid⟩ := identity_of_run hafter (Mutation.commit_inserted hcommit h.inserted)
  obtain ⟨-, hissued⟩ := h.issuedRow hid
  exact ⟨row, h.ofRecord ▸ hrow, hissued⟩

/-- The key of the token finds its row. -/
theorem IssuedRow.found {row : TokenRow} {destinationRow : DestinationRow}
    (h : IssuedRow hmac keys keyID audience destinationRow.destinationID raw row)
    (hrow : row ∈ s.tokens)
    (hdest : s.destination? destinationRow.destinationID = some destinationRow)
    (hcreated : destinationRow.createdAt.micros ≠ 0)
    (hchanged : destinationRow.stateChangedAt.micros ≠ 0)
    (hread : row.record.token destinationRow.audienceID destinationRow.value = .ok token) :
    s.matching audience (OpaqueDestinationResolver.candidateOf hmac keys audience raw keyID) =
      some (.ok token) := by
  obtain ⟨-, -, -, -, hsame, -⟩ := TokenRow.token_eq_ok.mp hread
  obtain rfl : destinationRow.audienceID = audience := hsame.symm.trans h.audienceID
  have hrecord := Store.tokenRecord_eq_some hrow (h.destinationID ▸ hdest)
  rw [h.audienceID, h.verifierKeyID, h.verifier] at hrecord
  have horder := s.destinationsValid.stateTimeOrder _ (Keyed.mem_of_lookup hdest)
  simp only [Store.matching, OpaqueDestinationResolver.candidateOf, hrecord, Option.map_some]
  rw [TokenRow.joined_token hread hcreated hchanged horder h.verifierKeyID h.verifier]

/-- No other key finds anything. -/
theorem Issued.not_found (h : Issued hmac keys keyID audience destination record raw m candidate)
    {calls : List ServiceCommit} (hrows : ∀ row ∈ s.tokens, Provenance hmac keys calls row)
    (hdistinct : TokensDistinct calls)
    (hinj : Set.InjOn (verifierOf hmac) (hashedInputs keys calls keyIDs audience raw))
    (hcall : (m, some raw) ∈ calls) {other : DestinationVerifierKeyID} (hother : other ∈ keyIDs)
    (hne : other ≠ keyID) :
    s.matching audience (OpaqueDestinationResolver.candidateOf hmac keys audience raw other) =
      none := by
  rw [Store.matching, Option.map_eq_none_iff]
  refine Store.tokenRecord_eq_none fun row hrow _ hkey hverifier => hne ?_
  have hid := (hrows row hrow).record_eq hdistinct hinj hcall h.inserted hother hverifier
  exact DestinationVerifierKeyID.ext (hkey.symm.trans (h.issuedRow hid).2.verifierKeyID)

end

section
variable {ν : Type} [ErrorGraph ν] {world : World ν} {mayKeep : Prop}
  {hmac : KeyedHash}
  {keys : VerifierKeys}

/-- **An issued token resolves to its destination exactly while its row is usable.**  The
key source is stable.  A call returns the text of a token: the text parses, and the call
has made one change, which inserted the token's record.  Let only the service have written
the store, before and after that change, without repeating a token and without storing a
zero time for the destination, and let the verifiers have no collision.  A resolver whose
ring has the key of the record then answers with the destination, if the record's row is
usable, and with `ErrDestinationNotFound` if not; and it identifies the token by its
record alone. -/
theorem issued_token_resolves
    (hstable : ∀ audience keyID key,
      world (.destinationVerifierKey audience keyID) (.ok key) → key = keys audience keyID)
    {service : DestinationTokenLifecycleService} {audience : GatewayAudienceID}
    {destination : DestinationID}
    {rotation : Option (DestinationTokenRecordID × OpaqueDestinationToken)}
    {created : CreatedStagedToken} {s₁ s₂ : Store} {own : List (Store × Store)}
    {l : Local Store LifecycleTx}
    (hcall : (service.issueToken hmac audience destination rotation : LifecycleProg ν _).Runs
      (lifecycleSpec world mayKeep).environment.step (s₁, ⟨none, own⟩) (created, none) (s₂, l)) :
    ∃ raw m candidate b a, parseOpaqueDestinationToken created.token = .ok raw ∧
      Issued hmac keys service.activeKeyID audience destination created.recordID raw m candidate ∧
      m.commit b = .ok a ∧ l.own = own ++ [(b, a)] ∧
      ∀ (destinationRow : DestinationRow) (s₀ s : Store) (before after : List ServiceCommit),
        s₀.destination? destination = some destinationRow → s₀.tokens = [] →
        Run (ServiceStep hmac keys) s₀ before b → Run (ServiceStep hmac keys) a after s →
        TokensDistinct (before ++ (m, some raw) :: after) →
        (∀ call ∈ before ++ (m, some raw) :: after, call.1.destination = destination →
          call.1.TimesPresent) →
        ∀ resolver : OpaqueDestinationResolver, service.activeKeyID ∈ resolver.keyIDs →
        (∀ keyID ∈ resolver.keyIDs, 32 ≤ (keys audience keyID).length) →
        Set.InjOn (verifierOf hmac)
          (hashedInputs keys (before ++ (m, some raw) :: after) resolver.keyIDs audience raw) →
        ∃ row, s.row? created.recordID = some row ∧ ∀ now ≠ 0,
          (row.UsableAt destinationRow now →
            (resolver.resolve hmac audience raw now).on keys s =
              .ok (.ok destination : Except (GoError ν) DestinationID)) ∧
          (¬ row.UsableAt destinationRow now →
            (resolver.resolve hmac audience raw now).on keys s =
              .ok (.error (.sentinel .errDestinationNotFound : GoError ν))) ∧
          ∀ newActiveID oldRetiringID : DestinationTokenRecordID,
            ¬ newActiveID.IsZero → ¬ oldRetiringID.IsZero → newActiveID ≠ oldRetiringID →
            (resolver.identifyRotationToken hmac audience destination raw newActiveID oldRetiringID
              now).on keys s = .ok (.ok (if created.recordID = newActiveID then .new
                else if created.recordID = oldRetiringID then .old else .neither) :
                Except (GoError ν) _) := by
  obtain ⟨changes, hl, -, houtcome⟩ :=
    (DestinationTokenLifecycleService.ends_issueToken hstable).sound hcall
  obtain ⟨b, a, m, raw, candidate, rfl, hcommit, hparsed, hissued⟩ := houtcome.returned rfl
  refine ⟨raw, m, candidate, b, a, hparsed, hissued, hcommit, congrArg Local.own hl, ?_⟩
  intro destinationRow s₀ s before after hdest hempty hbefore hafter hdistinct htimes resolver hmem
    hkeys hinj
  have hrun : Run (ServiceStep hmac keys) s₀ (before ++ (m, some raw) :: after) s :=
    hbefore.append (.cons ⟨.inr hcommit, hissued.issues⟩ hafter)
  obtain rfl : destinationRow.destinationID = destination := Keyed.key_of_lookup hdest
  have hnone : ∀ token ∈ s₀.tokens, token.destinationID ≠ destinationRow.destinationID := by
    rw [hempty]
    exact fun _ h => absurd h List.not_mem_nil
  have hsound : s.Sound destinationRow := by
    refine (Store.Sound.initial hdest hnone).run (run_of_service hrun) fun m' hm' => ?_
    obtain ⟨call, hcall', rfl⟩ := List.mem_map.mp hm'
    exact htimes call hcall'
  -- the row of the record is read
  obtain ⟨row, hrow, hissuedRow⟩ := hissued.exists_row hcommit (run_of_service hafter)
  have hmemRow := Store.mem_of_row? hrow
  obtain ⟨token, hread⟩ := hsound.readable hmemRow hissuedRow.destinationID
  obtain ⟨-, -, haudZero, hdestZero, hsame, -, -, verifier, keyID, -, -, hspec⟩ :=
    TokenRow.token_eq_ok.mp hread
  have haud : ¬ audience.IsZero := hissuedRow.audienceID ▸ haudZero
  obtain ⟨hcreatedAt, hchangedAt⟩ :=
    Store.destination_read hdest hnone (run_of_service hrun) hmemRow hissuedRow.destinationID
  -- the key of the record finds it, and no other key finds anything
  have hmatching := OpaqueDestinationResolver.on_matchingDestinationTokens (ν := ν) haud hkeys hmem
    (hissuedRow.found hmemRow hsound.row hcreatedAt hchangedAt hread) fun other hother hne =>
      hissued.not_found
        (fun row hrow => provenance_of_run hempty hrun (Store.row?_of_mem hrow)) hdistinct hinj
        (by simp) hother hne
  have husable : ∀ now, row.UsableAt destinationRow now ↔ token.UsableAt now := by
    refine fun now => ⟨?_, fun h => ⟨token, hread, h⟩⟩
    rintro ⟨token', hread', h⟩
    cases hread'.symm.trans hread
    exact h
  have hid : token.spec.destination.id = destinationRow.destinationID := by rw [hspec]; rfl
  refine ⟨row, hrow, fun now hnow => ⟨fun h => ?_, fun h => ?_, fun newID oldID hnew hold hne => ?_⟩⟩
  · rw [OpaqueDestinationResolver.on_resolve haud hnow hmatching, if_pos ((husable now).mp h), hid]
  · rw [OpaqueDestinationResolver.on_resolve haud hnow hmatching,
      if_neg (fun hu => h ((husable now).mpr hu))]
  · have htokenID : token.spec.recordID = created.recordID := by
      rw [hspec, ← Store.recordID_of_row? hrow]
      rfl
    have htokenAud : token.spec.audienceID = audience := by
      rw [hspec]
      exact hissuedRow.audienceID
    rw [OpaqueDestinationResolver.on_identifyRotationToken haud (hissuedRow.destinationID ▸ hdestZero)
      hnew hold hne hnow hmatching htokenAud hid, htokenID]

end

/-- The service of the samples. -/
def sampleService : DestinationTokenLifecycleService :=
  (sampleParticipant day (by decide)).lifecycle

/-- It issues a token, without faults. -/
def sampleIssue (now : Time) (s : Store) :
    Except Stop (CreatedStagedToken × Option Sentinel) × (Store × Local Store LifecycleTx) :=
  (sampleService.issueToken sampleHmac (sampleID 1) (sampleID 2) none).eval
    (answerAll (sampleWorld now)) (s, ⟨none, []⟩)

/-- The keys of `sampleWorld`. -/
def sampleKeys (_ : GatewayAudienceID) (_ : DestinationVerifierKeyID) : ByteString :=
  List.replicate 32 1

/-- A resolver with the key of the service. -/
def sampleResolver : OpaqueDestinationResolver where
  keyIDs := [sampleService.activeKeyID]
  size := by decide
  valid := by decide
  distinct := by decide

/-- A world that answers as `sampleWorld`. -/
def sampleOutside (now : Time) : World Empty :=
  fun request answer => answer = sampleWorld now request

theorem sampleIssue_runs {now : Time} {s : Store} {result : CreatedStagedToken × Option Sentinel}
    {p : Store × Local Store LifecycleTx} (h : sampleIssue now s = (.ok result, p)) :
    (sampleService.issueToken sampleHmac (sampleID 1) (sampleID 2) none).Runs
      (lifecycleSpec (sampleOutside now) False).environment.step (s, ⟨none, []⟩) result p := by
  have hworld : ∀ request, sampleOutside now request (sampleWorld now request) := fun _ => rfl
  exact Prog.eval_runs (answerAll_step (sampleWorld now) hworld) h

/-- The activation of the issued token. -/
def sampleIssueActivation : Mutation :=
  .activateInitialToken (sampleID 1) (sampleID 2) (sampleID 4) (sampleTime 21)

theorem sampleToken_resolves : ∃ created raw s,
    (sampleIssue (sampleTime 20) (sampleStore 10)).1 = .ok (created, none) ∧
    parseOpaqueDestinationToken created.token = .ok raw ∧
    sampleIssueActivation.commit (sampleIssue (sampleTime 20) (sampleStore 10)).2.1 = .ok s ∧
    (sampleResolver.resolve sampleHmac (sampleID 1) raw (sampleTime 22)).on sampleKeys s =
      .ok (.ok (sampleID 2) : Except (GoError Empty) DestinationID) := by
  -- what the call returns, what it has changed, and the row after the activation
  have hvalue : (sampleIssue (sampleTime 20) (sampleStore 10)).1.toOption.map
      (fun result => (result.1.recordID, result.2)) = some (sampleID 4, none) := by
    decide +kernel
  have hchange : (sampleIssue (sampleTime 20) (sampleStore 10)).2.2.own =
      [(sampleStore 10, (sampleIssue (sampleTime 20) (sampleStore 10)).2.1)] := by decide +kernel
  have hstored : ∀ row ∈ (sampleIssue (sampleTime 20) (sampleStore 10)).2.1.row? (sampleID 4),
      row.createdAt.micros ≠ 0 ∧ row.expiresAt.micros ≠ 0 ∧ row.stagedCleanupDeadline.micros ≠ 0 := by
    decide +kernel
  have hactive : (sampleIssueActivation.commit
      (sampleIssue (sampleTime 20) (sampleStore 10)).2.1).toOption.map (fun s =>
        (s.row? (sampleID 4)).bind fun row =>
          (row.record.token (sampleID 1) (sampleDestination 10).value).toOption.map
            fun token => decide (token.UsableAt (sampleTime 22))) = some (some true) := by
    decide +kernel
  generalize hissue : sampleIssue (sampleTime 20) (sampleStore 10) = issue at *
  obtain ⟨value, a, l⟩ := issue
  obtain ⟨⟨created, err⟩, rfl, hfields⟩ := Except.exists_of_toOption_map hvalue
  obtain ⟨hid, rfl⟩ := Prod.mk.inj hfields
  have hstable : ∀ audience keyID key, sampleOutside (sampleTime 20)
      (.destinationVerifierKey audience keyID) (.ok key) → key = sampleKeys audience keyID := by
    rintro audience keyID key ⟨⟩
    rfl
  obtain ⟨raw, m, candidate, b, a', hparse, hissued, hcommit, hown, hresolves⟩ :=
    issued_token_resolves hstable (sampleIssue_runs hissue)
  obtain ⟨rfl, rfl⟩ : sampleStore 10 = b ∧ a = a' := by simpa using hchange.symm.trans hown
  obtain ⟨s, hs, hread⟩ := Except.exists_of_toOption_map hactive
  refine ⟨created, raw, s, rfl, hparse, hs, ?_⟩
  have htimes : m.TimesPresent := by
    have hrow := Mutation.commit_inserted hcommit hissued.inserted
    rw [hissued.ofRecord.trans hid] at hrow
    have htimes : m.times = candidate.times := Mutation.times_of_inserted hissued.inserted
    simpa [Mutation.TimesPresent, htimes, StagedTokenCandidate.times, StagedTokenCandidate.row]
      using hstored _ hrow
  have hinj : Set.InjOn (verifierOf sampleHmac) (hashedInputs sampleKeys
      [(m, some raw), (sampleIssueActivation, none)] sampleResolver.keyIDs (sampleID 1) raw) := by
    -- there is one key, one audience and one token
    have hone : ∀ x ∈ hashedInputs sampleKeys [(m, some raw), (sampleIssueActivation, none)]
        sampleResolver.keyIDs (sampleID 1) raw, x = (List.replicate 32 1, sampleID 1, raw) := by
      rintro x (⟨m', token, candidate', hmem, hinserted, rfl⟩ | ⟨keyID, -, rfl⟩)
      · obtain ⟨rfl, rfl⟩ : m' = m ∧ token = raw := by simpa using hmem
        cases hinserted.symm.trans hissued.inserted
        rw [hissued.ofAudience]
        rfl
      · rfl
    exact fun x hx y hy _ => (hone x hx).trans (hone y hy).symm
  obtain ⟨row, hrow, hnow⟩ := hresolves (sampleDestination 10) (sampleStore 10) s []
    [(sampleIssueActivation, none)] rfl rfl .nil (.cons ⟨.inr hs, rfl⟩ .nil)
    (by simp [TokensDistinct]) (by simpa [htimes] using fun _ => by decide)
    sampleResolver (by decide) (by decide) hinj
  obtain ⟨hresolve, -⟩ := hnow (sampleTime 22) (by decide)
  refine hresolve ?_
  rw [show created.recordID = sampleID 4 from hid] at hrow
  rw [hrow, Option.bind_some] at hread
  obtain ⟨token, hread, husable⟩ := Except.exists_of_toOption_map hread
  exact ⟨token, hread, of_decide_eq_true husable⟩

/-- The token that `sampleService` issues. -/
def sampleOpaqueToken : OpaqueDestinationToken := .fill 32 7

/-- **A token issued in the first microsecond after Go's zero time breaks its own lookup.**
The service takes 500 ns for a clock and returns the token; the row is
staged, so that it is not usable, but its `created_at` is the zero time, and the resolver
reports a failure of integrity. -/
theorem early_token_unresolved : ∃ created s l,
    (sampleService.issueToken sampleHmac (sampleID 1) (sampleID 2) none).Runs
      (lifecycleSpec (sampleOutside ⟨500⟩) False).environment.step
      (sampleStore (-10), ⟨none, []⟩) (created, none) (s, l) ∧
    parseOpaqueDestinationToken created.token = .ok sampleOpaqueToken ∧
    (s.row? created.recordID).map TokenRow.state = some .staged ∧
    (sampleResolver.resolve sampleHmac (sampleID 1) sampleOpaqueToken (sampleTime 5)).on
        sampleKeys s =
      .ok (.error (.safe .errDestinationResolverIntegrity "destination token lookup record") :
        Except (GoError Empty) DestinationID) := by
  have hvalue : (sampleIssue ⟨500⟩ (sampleStore (-10))).1.toOption.map (fun result =>
      (result.2, (parseOpaqueDestinationToken result.1.token).toOption,
        ((sampleIssue ⟨500⟩ (sampleStore (-10))).2.1.row? result.1.recordID).map TokenRow.state)) =
      some (none, some sampleOpaqueToken, some .staged) := by decide +kernel
  have hresolve :
      (sampleResolver.resolve sampleHmac (sampleID 1) sampleOpaqueToken (sampleTime 5)).on
        sampleKeys (sampleIssue ⟨500⟩ (sampleStore (-10))).2.1 =
      .ok (.error (.safe .errDestinationResolverIntegrity "destination token lookup record") :
        Except (GoError Empty) DestinationID) := by decide +kernel
  generalize hissue : sampleIssue ⟨500⟩ (sampleStore (-10)) = issue at *
  obtain ⟨value, s, l⟩ := issue
  obtain ⟨⟨created, err⟩, rfl, hfields⟩ := Except.exists_of_toOption_map hvalue
  obtain ⟨rfl, hfields⟩ := Prod.mk.inj hfields
  obtain ⟨hparse, hstate⟩ := Prod.mk.inj hfields
  exact ⟨created, s, l, sampleIssue_runs hissue, Except.eq_ok_of_toOption hparse, hstate, hresolve⟩

end OncallGateway
