import Mathlib.Data.List.ReduceOption
import OncallGateway.Lib.Recording
import OncallGateway.Lib.SessionRuns
import OncallGateway.TokenReconstruction
import OncallGateway.TokenResolution

/-! # The resolver beside the lifecycle

A call of `Resolve` reads outside of any transaction, one query for each key of its ring, and
the tokens may change between two of them; each query may fail.

A call that answers with a destination has found a row of the token, usable at its time, and
no row under the other keys (`resolved_from_store`); a call that answers
`ErrDestinationNotFound` has found, for each key, the store without a usable row of the token
(`unresolved_from_store`).  Since rows are neither deleted nor given to another destination, a
token is not routed to one destination first and to another one later (`resolutions_agree`).
-/

namespace OncallGateway

/-! ## What an answer rests on -/

variable {candidate : DestinationVerifierCandidate} {result : Option DestinationToken}

section
variable {ν : Type} [ErrorGraph ν]

/-- A call that was made, and its answer. -/
abbrev ResolverExchange (ν : Type) := Sigma (ResolverCall.Answer (GoError ν))

/-- The candidate of a key was computed with the key that was answered. -/
def CandidateRead (hmac : KeyedHash) (audience : GatewayAudienceID)
    (rawToken : OpaqueDestinationToken) (record : List (ResolverExchange ν))
    (keyID : DestinationVerifierKeyID) (candidate : DestinationVerifierCandidate) : Prop :=
  ∃ key, ⟨.destinationVerifierKey audience keyID, .ok key⟩ ∈ record ∧
    candidate = ⟨keyID, tokenVerifier hmac audience rawToken key⟩

/-- What the query of a candidate has found. -/
def CandidateFound (audience : GatewayAudienceID) (record : List (ResolverExchange ν))
    (candidate : DestinationVerifierCandidate) : Option DestinationToken → Prop
  | none => ⟨.select audience candidate.keyID.value candidate.verifier.bytes.toList,
      .scanned (.error (.sentinel .pgxErrNoRows))⟩ ∈ record
  | some token => ∃ found : DestinationTokenRecord,
      ⟨.select audience candidate.keyID.value candidate.verifier.bytes.toList,
        .scanned (.ok found)⟩ ∈ record ∧ found.token audience candidate = .ok token

/-- What the query under a key has found. -/
def KeyFound (hmac : KeyedHash) (audience : GatewayAudienceID)
    (rawToken : OpaqueDestinationToken) (record : List (ResolverExchange ν))
    (keyID : DestinationVerifierKeyID) (result : Option DestinationToken) : Prop :=
  ∃ candidate, CandidateRead hmac audience rawToken record keyID candidate ∧
    CandidateFound audience record candidate result

/-- What the queries under all the keys have found. -/
structure KeyLookups (hmac : KeyedHash) (audience : GatewayAudienceID)
    (rawToken : OpaqueDestinationToken) (record : List (ResolverExchange ν))
    (keyIDs : List DestinationVerifierKeyID) (results : List (Option DestinationToken)) : Prop where
  made : ∀ keyID ∈ keyIDs, ∃ result ∈ results, KeyFound hmac audience rawToken record keyID result
  only : ∀ result ∈ results, ∃ keyID ∈ keyIDs, KeyFound hmac audience rawToken record keyID result

/-- A routine of the resolver fails with its own error, or its result is as expected. -/
def Safely {α : Type} (P : α → Prop) : Except (GoError ν) α → Prop
  | .error err => ∃ kind operation, err = .safe kind operation
  | .ok result => P result

omit [ErrorGraph ν] in
theorem Safely.mono {α : Type} {P P' : α → Prop} {r : Except (GoError ν) α} (h : Safely P r)
    (hP : ∀ a, P a → P' a) : Safely P' r := by
  cases r with
  | error err => exact h
  | ok a => exact hP a h

variable {candidates : List DestinationVerifierCandidate} {keyIDs : List DestinationVerifierKeyID}

section
variable {hmac : KeyedHash} {audience : GatewayAudienceID}
  {rawToken : OpaqueDestinationToken} {record record' : List (ResolverExchange ν)}

omit [ErrorGraph ν] in
theorem CandidateRead.mono (hsub : record ⊆ record') {keyID : DestinationVerifierKeyID}
    (h : CandidateRead hmac audience rawToken record keyID candidate) :
    CandidateRead hmac audience rawToken record' keyID candidate := by
  obtain ⟨key, hmem, rfl⟩ := h
  exact ⟨key, hsub hmem, rfl⟩

omit [ErrorGraph ν] in
theorem CandidateFound.mono (hsub : record ⊆ record')
    (h : CandidateFound audience record candidate result) :
    CandidateFound audience record' candidate result := by
  cases result with
  | none => exact hsub h
  | some token =>
    obtain ⟨found, hmem, htoken⟩ := h
    exact ⟨found, hsub hmem, htoken⟩

omit [ErrorGraph ν] in
theorem KeyLookups.of_loops {results : List (Option DestinationToken)}
    (hread : List.Forall₂ (CandidateRead hmac audience rawToken record) keyIDs candidates)
    (hfound : List.Forall₂ (CandidateFound audience record) candidates results) :
    KeyLookups hmac audience rawToken record keyIDs results := by
  induction hread generalizing results with
  | nil =>
    cases hfound
    exact ⟨fun _ h => absurd h List.not_mem_nil, fun _ h => absurd h List.not_mem_nil⟩
  | @cons keyID candidate keyIDs candidates hkey _ ih =>
    cases hfound with
    | @cons _ result _ results hresult hrest =>
      obtain ⟨hmade, honly⟩ := ih hrest
      have hhead : KeyFound hmac audience rawToken record keyID result := ⟨_, hkey, hresult⟩
      constructor
      · refine List.forall_mem_cons.mpr ⟨⟨result, List.mem_cons_self, hhead⟩, fun id hid => ?_⟩
        obtain ⟨other, hother, h⟩ := hmade id hid
        exact ⟨other, List.mem_cons_of_mem _ hother, h⟩
      · refine List.forall_mem_cons.mpr ⟨⟨keyID, List.mem_cons_self, hhead⟩, fun other hother => ?_⟩
        obtain ⟨id, hid, h⟩ := honly other hother
        exact ⟨id, List.mem_cons_of_mem _ hid, h⟩

end

section
variable {record : List (ResolverExchange ν)} {α : Type}

theorem wp_resolverContext {err : Option (GoError ν)}
    {Q : Option Sentinel → List (ResolverExchange ν) → Prop}
    (h : ∀ kind part, Q kind (record ++ part)) :
    (destinationResolverContextSentinel err).wp Prog.recorder Q record :=
  Prog.Yields.wp_recorder (P := fun _ => True) (Prog.yields_of_forall (fun _ => trivial) _)
    fun kind part _ => h kind part

omit [ErrorGraph ν] in
theorem wp_resolverFinish {destroy : Bool} {Q : Unit → List (ResolverExchange ν) → Prop}
    (h : ∀ part, Q () (record ++ part)) :
    (OpaqueDestinationResolver.finish destroy : ResolverProg ν Unit).wp Prog.recorder Q record :=
  Prog.Yields.wp_recorder (P := fun _ => True) (Prog.yields_of_forall (fun _ => trivial) _)
    fun _ part _ => h part

end

namespace OpaqueDestinationResolver
variable {hmac : KeyedHash} {resolver : OpaqueDestinationResolver}
  {audience : GatewayAudienceID} {rawToken : OpaqueDestinationToken}
  {record : List (ResolverExchange ν)}

theorem wp_collectCandidates {unavailable : Bool} :
    (collectCandidates hmac audience rawToken keyIDs unavailable candidates :
      ResolverProg ν _).wp Prog.recorder
      (fun r record' => Safely (fun collected => collected.1 = false → unavailable = false ∧
        ∃ new, collected.2 = candidates ++ new ∧
          List.Forall₂ (CandidateRead hmac audience rawToken record') keyIDs new) r) record := by
  induction keyIDs generalizing unavailable candidates record with
  | nil => exact fun h => ⟨h, [], (List.append_nil _).symm, .nil⟩
  | cons keyID keyIDs ih =>
    rw [collectCandidates, Prog.wp_bind, Prog.wp_record]
    intro key
    rw [Prog.wp_bind]
    refine wp_resolverContext fun canceled part => ?_
    -- a key that is missing makes the whole unavailable
    have hmissing : (collectCandidates hmac audience rawToken keyIDs true candidates :
        ResolverProg ν _).wp Prog.recorder
        (fun r record' => Safely (fun collected => collected.1 = false → unavailable = false ∧
          ∃ new, collected.2 = candidates ++ new ∧ List.Forall₂
            (CandidateRead hmac audience rawToken record') (keyID :: keyIDs) new) r)
        (record ++ [⟨.destinationVerifierKey audience keyID, key⟩] ++ part) := by
      refine Prog.wp_mono ih fun r record' h => h.mono fun collected h hok => ?_
      cases (h hok).1
    cases canceled with
    | some kind => exact ⟨_, _, rfl⟩
    | none =>
      cases key with
      | error err => exact hmissing
      | ok key =>
        dsimp only
        split
        · exact hmissing
        · split
          · exact hmissing
          · rename_i verifier hverifier
            obtain ⟨-, -, rfl⟩ := computeDestinationTokenVerifier_eq_ok.mp hverifier
            refine Prog.wp_mono (Prog.wp_recorder_mem ih) ?_
            rintro r record' ⟨h, hsub⟩
            refine h.mono fun collected h hok => ?_
            obtain ⟨havailable, new, hnew, hread⟩ := h hok
            refine ⟨havailable, _ :: new, hnew.trans (List.append_assoc _ _ _),
              .cons ⟨key, hsub ?_, rfl⟩ hread⟩
            simp

theorem wp_verifierCandidates :
    (verifierCandidates hmac resolver audience rawToken : ResolverProg ν _).wp Prog.recorder
      (fun r record' => Safely (List.Forall₂ (CandidateRead hmac audience rawToken record')
        resolver.keyIDs) r) record := by
  rw [verifierCandidates, Prog.wp_bind]
  refine Prog.wp_mono wp_collectCandidates fun r record' h => ?_
  cases r with
  | error err => exact h
  | ok collected =>
    obtain ⟨unavailable, candidates⟩ := collected
    dsimp only
    split
    · exact ⟨_, _, rfl⟩
    · rename_i hcomplete
      obtain rfl : unavailable = false := by simpa using mt Or.inl hcomplete
      obtain ⟨-, new, rfl, hnew⟩ := h rfl
      exact hnew

theorem wp_collectMatches {integrityFailure : Bool} {found : List DestinationToken} :
    (collectMatches audience candidates integrityFailure found : ResolverProg ν _).wp Prog.recorder
      (fun r record' => Safely (fun collected => collected.1 = false → integrityFailure = false ∧
        ∃ results, collected.2 = found ++ results.reduceOption ∧
          List.Forall₂ (CandidateFound audience record') candidates results) r) record := by
  induction candidates generalizing integrityFailure found record with
  | nil => exact fun h => ⟨h, [], (List.append_nil _).symm, .nil⟩
  | cons candidate candidates ih =>
    rw [collectMatches, Prog.wp_bind]
    refine wp_resolverContext fun canceled part₁ => ?_
    cases canceled with
    | some kind => exact Prog.wp_bind.mpr (wp_resolverFinish fun _ => ⟨_, _, rfl⟩)
    | none =>
      rw [Prog.wp_bind, Prog.wp_record]
      intro answer
      cases answer with
      | absent => exact Prog.wp_bind.mpr (wp_resolverFinish fun _ => ⟨_, _, rfl⟩)
      | scanned result =>
        rw [Prog.wp_bind]
        refine wp_resolverContext fun canceled part₂ => ?_
        cases canceled with
        | some kind => exact Prog.wp_bind.mpr (wp_resolverFinish fun _ => ⟨_, _, rfl⟩)
        | none =>
          cases result with
          | error err =>
            dsimp only
            split
            · rename_i hnone
              obtain rfl := GoError.isSentinel_iff.mp hnone
              refine Prog.wp_mono (Prog.wp_recorder_mem ih) ?_
              rintro r record' ⟨h, hsub⟩
              refine h.mono fun collected h hok => ?_
              obtain ⟨hclean, results, hfound, hresults⟩ := h hok
              refine ⟨hclean, none :: results, hfound, .cons (hsub ?_) hresults⟩
              simp
            · exact Prog.wp_bind.mpr (Prog.wp_settle (fun _ _ => trivial) fun _ _ =>
                Prog.wp_bind.mpr (wp_resolverFinish fun _ => ⟨_, _, rfl⟩))
          | ok row =>
            dsimp only
            split
            · refine Prog.wp_mono ih fun r record' h => h.mono fun collected h hok => ?_
              cases (h hok).1
            · rename_i token htoken
              refine Prog.wp_mono (Prog.wp_recorder_mem ih) ?_
              rintro r record' ⟨h, hsub⟩
              refine h.mono fun collected h hok => ?_
              obtain ⟨hclean, results, hfound, hresults⟩ := h hok
              refine ⟨hclean, some token :: results, hfound.trans (List.append_assoc _ _ _),
                .cons ⟨row, hsub ?_, htoken⟩ hresults⟩
              simp

theorem wp_matchingDestinationTokens :
    (matchingDestinationTokens hmac resolver audience rawToken : ResolverProg ν _).wp Prog.recorder
      (fun r record' => Safely (fun found => found.length ≤ 1 ∧
        ∃ results, found = results.reduceOption ∧
          KeyLookups hmac audience rawToken record' resolver.keyIDs results) r) record := by
  rw [matchingDestinationTokens, Prog.wp_bind]
  refine Prog.wp_mono wp_verifierCandidates fun candidates record₁ hread => ?_
  cases candidates with
  | error err => exact hread
  | ok candidates =>
    rw [Prog.wp_bind, Prog.wp_record]
    intro acquired
    cases acquired with
    | absent => exact ⟨_, _, rfl⟩
    | failed err connection =>
      cases connection with
      | false =>
        refine Prog.wp_bind.mpr (wp_resolverContext fun canceled part => ?_)
        cases canceled with
        | none => exact ⟨_, _, rfl⟩
        | some kind => exact ⟨_, _, rfl⟩
      | true =>
        refine Prog.wp_bind.mpr (Prog.wp_record.mpr fun _ => ?_)
        refine Prog.wp_bind.mpr (wp_resolverContext fun canceled part => ?_)
        cases canceled with
        | none => exact ⟨_, _, rfl⟩
        | some kind => exact ⟨_, _, rfl⟩
    | opened =>
      rw [Prog.wp_bind]
      refine Prog.wp_mono (Prog.wp_recorder_mem wp_collectMatches) ?_
      rintro collected record₂ ⟨hfound, hsub⟩
      cases collected with
      | error err => exact hfound
      | ok collected =>
        obtain ⟨integrityFailure, found⟩ := collected
        rw [Prog.wp_bind]
        refine wp_resolverContext fun canceled part => ?_
        cases canceled with
        | some kind => exact Prog.wp_bind.mpr (wp_resolverFinish fun _ => ⟨_, _, rfl⟩)
        | none =>
          rw [Prog.wp_bind]
          refine wp_resolverFinish fun part' => ?_
          split
          · exact ⟨_, _, rfl⟩
          · rename_i hclean
            simp only [not_or, Bool.not_eq_true, gt_iff_lt, not_lt] at hclean
            obtain ⟨rfl, hsize⟩ := hclean
            obtain ⟨-, results, rfl, hresults⟩ := hfound rfl
            have hread' : List.Forall₂
                (CandidateRead hmac audience rawToken (record₂ ++ part ++ part')) resolver.keyIDs
                candidates := by
              refine List.Forall₂.imp (fun _ _ h => h.mono fun x hx => ?_) hread
              simp [hsub (List.mem_append_left _ hx)]
            refine ⟨hsize, results, rfl, .of_loops hread' (hresults.imp fun _ _ h => h.mono ?_)⟩
            intro x hx
            simp [hx]

/-- **What an answer of `Resolve` rests on**, whatever fails. -/
theorem wp_resolve {now : Time} :
    (resolve hmac resolver audience rawToken now : ResolverProg ν _).wp Prog.recorder
      (fun r record' =>
        (∀ id, r = .ok id → ∃ results token,
          KeyLookups hmac audience rawToken record' resolver.keyIDs results ∧
          results.reduceOption = [token] ∧ token.UsableAt now ∧ token.spec.destination.id = id) ∧
        (r = .error (.sentinel .errDestinationNotFound) → ∃ results,
          KeyLookups hmac audience rawToken record' resolver.keyIDs results ∧
          ∀ token, some token ∈ results → ¬ token.UsableAt now)) record := by
  rw [resolve]
  split
  · exact ⟨by rintro id ⟨⟩, by rintro ⟨⟩⟩
  · rw [Prog.wp_bind]
    refine wp_resolverContext fun canceled part => ?_
    cases canceled with
    | some kind => exact ⟨by rintro id ⟨⟩, by rintro ⟨⟩⟩
    | none =>
      rw [Prog.wp_bind]
      refine Prog.wp_mono wp_matchingDestinationTokens fun found record₁ h => ?_
      cases found with
      | error err =>
        obtain ⟨kind, operation, rfl⟩ := h
        exact ⟨by rintro id ⟨⟩, by rintro ⟨⟩⟩
      | ok found =>
        obtain ⟨hsize, results, rfl, hlookups⟩ := h
        cases hfound : results.reduceOption with
        | nil =>
          refine ⟨by rintro id ⟨⟩, fun _ => ⟨results, hlookups, fun token htoken => ?_⟩⟩
          rw [← List.reduceOption_mem_iff, hfound] at htoken
          cases htoken
        | cons token rest =>
          rw [hfound] at hsize
          obtain rfl : rest = [] := by simpa using hsize
          dsimp only
          split
          · rename_i husable
            refine ⟨?_, by rintro ⟨⟩⟩
            rintro id ⟨⟩
            exact ⟨results, token, hlookups, hfound, husable, rfl⟩
          · rename_i hunusable
            refine ⟨by rintro id ⟨⟩, fun _ => ⟨results, hlookups, fun other hother => ?_⟩⟩
            rw [← List.reduceOption_mem_iff, hfound, List.mem_singleton] at hother
            exact hother ▸ hunusable

end OpaqueDestinationResolver

end

/-! ## What a query tells of the store -/

namespace Store
variable {s : Store} {audience : GatewayAudienceID} {keyID verifier : ByteString}

theorem exists_of_tokenRecord {record : DestinationTokenRecord}
    (h : s.tokenRecord audience keyID verifier = some record) :
    ∃ row ∈ s.tokens, ∃ destination, s.destination? row.destinationID = some destination ∧
      row.audienceID = audience ∧ row.verifierKeyID = keyID ∧ row.verifier = verifier ∧
      record = row.joined destination := by
  have hsome := h
  rw [Store.tokenRecord] at h
  split at h
  · cases h
  · rename_i row rows hfilter
    have hmem : row ∈ row :: rows := List.mem_cons_self
    rw [← hfilter, List.mem_filter, decide_eq_true_iff] at hmem
    obtain ⟨hrow, rfl, rfl, rfl⟩ := hmem
    obtain ⟨destination, hdestination, hkey⟩ :=
      List.mem_map.mp (s.tokensValid .destinationFK row hrow)
    have hlookup := Keyed.lookup_of_mem s.destinationsValid.primaryKey hdestination
    rw [(Prod.mk.inj hkey).2] at hlookup
    refine ⟨row, hrow, destination, hlookup, rfl, rfl, rfl, ?_⟩
    exact Option.some.inj (hsome.symm.trans (Store.tokenRecord_eq_some hrow hlookup))

theorem not_mem_of_tokenRecord (h : s.tokenRecord audience keyID verifier = none) :
    ∀ row ∈ s.tokens, row.audienceID = audience → row.verifierKeyID = keyID →
      row.verifier ≠ verifier := by
  rw [Store.tokenRecord] at h
  split at h
  · rename_i hfilter
    rintro row hrow rfl rfl rfl
    exact List.filter_eq_nil_iff.mp hfilter row hrow (by simp)
  · cases h

end Store

/-- The columns of a destination's row. -/
def DestinationRow.columns (row : DestinationRow) : DestinationColumns where
  destinationText := some (formatUUID row.destinationID)
  audienceText := some (formatUUID row.audienceID)
  stateText := some row.state.text
  createdAt := row.createdAt.column
  stateChangedAt := row.stateChangedAt.column

variable {audience : GatewayAudienceID} {token : DestinationToken}

theorem DestinationRow.value_of_reads {row : DestinationRow} {destination : Destination}
    (h : row.record.Reads audience destination) :
    row.audienceID = audience ∧ row.value = destination := by
  obtain ⟨-, haudience⟩ := parseUUID_ok.mp h.audienceText
  obtain ⟨-, hid⟩ := parseUUID_ok.mp h.id
  have hstate := (destinationState_text row.state).symm.trans h.state
  have hvalue := newDestination_ok h.value
  rw [← haudience, ← hid, ← Except.ok.inj hstate] at hvalue
  exact ⟨haudience, hvalue.symm⟩

/-- **What the resolver reads of a row is what the lifecycle reads of it**, and has the key
that was looked up. -/
theorem TokenRow.of_joined_token {row : TokenRow} {destination : DestinationRow}
    (h : (row.joined destination).token audience candidate = .ok token) :
    row.record.token destination.audienceID destination.value = .ok token ∧
      token.spec.destination.id = row.destinationID ∧
      token.spec.verifierKeyID = candidate.keyID := by
  have hjoined : (destination.columns.joined row.record).token audience candidate = .ok token := h
  obtain ⟨_, value, hscan, hvalue, hread, hkey, -⟩ :=
    DestinationColumns.token_joined_eq_ok.mp hjoined
  cases hscan
  obtain ⟨rfl, rfl⟩ := DestinationRow.value_of_reads hvalue
  have howner : token.spec.destination = destination.value :=
    congrArg DestinationTokenSpec.destination hread.rest
  obtain ⟨-, hid⟩ := parseUUID_ok.mp hread.destinationText
  exact ⟨LifecycleTokenRecord.token_eq_ok.mpr hread, howner ▸ hid.symm, hkey⟩

/-! ## The store that the processes share -/

/-- The calls of a process: those of the resolver, a mutation of the lifecycle, which is
committed or not, and a change of the destinations, which no code of the gateway makes. -/
inductive RoutingCall where
  | resolver (call : ResolverCall)
  | mutate (m : Mutation)
  | provision

/-- Their answers. -/
abbrev RoutingCall.Answer (ε : Type) : RoutingCall → Type
  | .resolver call => call.Answer ε
  | .mutate _ => Unit
  | .provision => Unit

/-- A call that was made, and its answer. -/
abbrev RoutingExchange (ν : Type) := Sigma (RoutingCall.Answer (GoError ν))

section
variable {ν : Type}

/-- What a call does to the store.  The source of the keys gives the key of an identifier, if
it gives one. -/
def routingAct (keys : VerifierKeys) (s : Store) :
    (call : RoutingCall) → call.Answer (GoError ν) → Store → Prop
  | .resolver (.destinationVerifierKey audience keyID), answer, s' => s' = s ∧
    ∀ key, answer = .ok key → key = keys audience keyID
  | .resolver (.select audience keyID verifier), answer, s' => s' = s ∧
    SelectAnswer (s.tokenRecord audience keyID verifier) answer
  | .resolver _, _, s' => s' = s
  | .mutate m, _, s' => MutationStep s m s'
  | .provision, _, s' => s'.tokens = s.tokens

/-- The processes share the store, and each keeps the record of its calls. -/
def routingShared (ν : Type) (keys : VerifierKeys) :
    Shared RoutingCall (RoutingCall.Answer (GoError ν)) Store (List (RoutingExchange ν)) where
  act s record call answer record' s' := record' = record ++ [⟨call, answer⟩] ∧
    routingAct keys s call answer s'
  pre _ _ _ := True
  rely _ _ _ := True
  compatible _ _ := True

variable {keys : VerifierKeys}

theorem routing_recording : (routingShared ν keys).Recording := fun _ _ _ _ _ _ h => h.1

/-- The state of a number of processes, of which some are calls of `Resolve`. -/
abbrev RoutingConfig (ν ι : Type) := Shared.Config RoutingCall (RoutingCall.Answer (GoError ν))
  Store (List (RoutingExchange ν)) (Except (GoError ν) DestinationID) ι

/-- One state of the processes comes before another. -/
def RoutingConfig.Reaches {ι : Type}
    (keys : VerifierKeys) (c c' : RoutingConfig ν ι) :
    Prop :=
  ∃ is, Run (routingShared ν keys).Step c is c'

theorem RoutingConfig.Reaches.trans {ι : Type} {c c' c'' : RoutingConfig ν ι}
    (h : c.Reaches keys c') (h' : c'.Reaches keys c'') : c.Reaches keys c'' := by
  obtain ⟨_, hrun⟩ := h
  obtain ⟨_, hrun'⟩ := h'
  exact ⟨_, hrun.append hrun'⟩

variable {id : DestinationTokenRecordID}

/-- A row stays, with its identity, whatever the calls do. -/
theorem routingAct_identity {s s' : Store} {call : RoutingCall} {answer : call.Answer (GoError ν)}
    (h : routingAct keys s call answer s') {row : TokenRow} (hrow : s.row? id = some row) :
    ∃ row', s'.row? id = some row' ∧ row'.identity = row.identity := by
  cases call with
  | resolver call =>
    have hsame : s' = s := by
      cases call with
      | destinationVerifierKey | select => exact h.1
      | contextErr | acquire | release | destroy => exact h
    exact ⟨row, hsame ▸ hrow, rfl⟩
  | mutate m =>
    obtain ⟨row', hrow', hevolution⟩ := MutationStep.evolution h hrow
    exact ⟨row', hrow', hevolution.identity⟩
  | provision =>
    have htokens : s'.tokens = s.tokens := h
    exact ⟨row, by rw [Store.row?, htokens]; exact hrow, rfl⟩

theorem RoutingConfig.Reaches.identity {ι : Type} {c c' : RoutingConfig ν ι} (h : c.Reaches keys c')
    {row : TokenRow} (hrow : c.shared.row? id = some row) :
    ∃ row', c'.shared.row? id = some row' ∧ row'.identity = row.identity := by
  obtain ⟨is, hrun⟩ := h
  refine hrun.invariant (P := fun c => ∃ row', c.shared.row? id = some row' ∧
    row'.identity = row.identity) ?_ ⟨row, hrow, rfl⟩
  rintro c j c' ⟨row', hrow', hid⟩ ⟨_, _, _, -, hact, -⟩
  obtain ⟨row'', hrow'', hid'⟩ := routingAct_identity hact.2 hrow'
  exact ⟨row'', hrow'', hid'.trans hid⟩

/-! ## What the queries of a call tell -/

/-- What a key finds in the store: no row of the token, or one that is read. -/
def Store.Shows (hmac : KeyedHash)
    (keys : VerifierKeys) (s : Store)
    (audience : GatewayAudienceID) (rawToken : OpaqueDestinationToken)
    (keyID : DestinationVerifierKeyID) : Option DestinationToken → Prop
  | none => ∀ row ∈ s.tokens, ¬ IssuedRow hmac keys keyID audience row.destinationID rawToken row
  | some token => ∃ row ∈ s.tokens, ∃ destination,
      IssuedRow hmac keys keyID audience row.destinationID rawToken row ∧
      s.destination? row.destinationID = some destination ∧
      row.record.token destination.audienceID destination.value = .ok token ∧
      token.spec.destination.id = row.destinationID ∧ token.spec.verifierKeyID = keyID

section
variable [ErrorGraph ν] {hmac : KeyedHash} {resolver : OpaqueDestinationResolver}
  {audience : GatewayAudienceID} {rawToken : OpaqueDestinationToken} {now : Time} {ι : Type}
  {c₀ c : RoutingConfig ν ι} {is : List ι} {i : ι}

/-- Process `i` is a call of `Resolve` that has not begun.  The other processes are anything. -/
structure RoutingConfig.Begins (c : RoutingConfig ν ι) (i : ι)
    (hmac : KeyedHash) (resolver : OpaqueDestinationResolver)
    (audience : GatewayAudienceID) (rawToken : OpaqueDestinationToken) (now : Time) : Prop where
  prog : c.progs i = Prog.within RoutingCall.resolver
    (resolver.resolve hmac audience rawToken now)
  record : c.locals i = []

variable {r : Except (GoError ν) DestinationID} {keyID : DestinationVerifierKeyID}

section
variable (hstart : c₀.Begins i hmac resolver audience rawToken now)
  (hrun : Run (routingShared ν keys).Step c₀ is c)
include hstart hrun

theorem RoutingConfig.Begins.ended (hi : c.progs i = .ret r)
    {Q : Except (GoError ν) DestinationID → List (ResolverExchange ν) → Prop}
    (h : (resolver.resolve hmac audience rawToken now).wp Prog.recorder Q []) :
    ∃ record, Q r record ∧ ∀ call answer, ⟨call, answer⟩ ∈ record →
      ⟨.resolver call, answer⟩ ∈ c.locals i := by
  obtain ⟨record, hQ, hrecord⟩ := routing_recording.ended hrun
    (by rw [hstart.prog, hstart.record]; exact Prog.wp_within_recorder h) hi
  refine ⟨record, hQ, fun call answer hmem => ?_⟩
  rw [hrecord, List.nil_append]
  exact List.mem_map_of_mem hmem

/-- A query of the call, and the state in which it was made. -/
theorem RoutingConfig.Begins.visited {call : RoutingCall} {answer : call.Answer (GoError ν)}
    (hmem : ⟨call, answer⟩ ∈ c.locals i) :
    ∃ (c₁ : RoutingConfig ν ι) (s' : Store), c₀.Reaches keys c₁ ∧ c₁.Reaches keys c ∧
      routingAct keys c₁.shared call answer s' := by
  obtain ⟨c₁, c₂, _, _, hbefore, hstep, hafter, hact⟩ := routing_recording.visited hrun
    (by rw [hstart.record, List.nil_append]) hmem
  exact ⟨c₁, c₂.shared, ⟨_, hbefore⟩, ⟨_, .cons hstep hafter⟩, hact.2⟩

/-- **What the query under a key has found was in the store**, at some point of the call. -/
theorem RoutingConfig.Begins.shows {record : List (ResolverExchange ν)}
    (hrecord : ∀ call answer, ⟨call, answer⟩ ∈ record → ⟨.resolver call, answer⟩ ∈ c.locals i)
    (h : KeyFound hmac audience rawToken record keyID result) :
    ∃ c₁ : RoutingConfig ν ι, c₀.Reaches keys c₁ ∧ c₁.Reaches keys c ∧
      c₁.shared.Shows hmac keys audience rawToken keyID result := by
  obtain ⟨_, ⟨key, hkey, rfl⟩, hfound⟩ := h
  obtain ⟨_, _, -, -, -, hstable⟩ := hstart.visited hrun (hrecord _ _ hkey)
  obtain rfl := hstable key rfl
  cases result with
  | none =>
    obtain ⟨c₁, _, hbefore, hafter, -, hselect⟩ := hstart.visited hrun (hrecord _ _ hfound)
    refine ⟨c₁, hbefore, hafter, fun row hrow hissued => ?_⟩
    exact Store.not_mem_of_tokenRecord hselect.eq_none row hrow hissued.audienceID
      hissued.verifierKeyID hissued.verifier
  | some token =>
    obtain ⟨found, hmem, htoken⟩ := hfound
    obtain ⟨c₁, _, hbefore, hafter, -, hselect⟩ := hstart.visited hrun (hrecord _ _ hmem)
    obtain ⟨row, hrow, destination, hdestination, haudience, hkeyID, hverifier, rfl⟩ :=
      Store.exists_of_tokenRecord hselect.eq_some
    obtain ⟨hread, hid, htokenKey⟩ := TokenRow.of_joined_token htoken
    exact ⟨c₁, hbefore, hafter, row, hrow, destination, ⟨haudience, rfl, hverifier, hkeyID⟩,
      hdestination, hread, hid, htokenKey⟩

/-- A call that answers with a destination has read one token: some key has found it, and each
key has found it or nothing. -/
theorem RoutingConfig.Begins.resolved {id : DestinationID} (hi : c.progs i = .ret (.ok id)) :
    ∃ token, token.UsableAt now ∧ token.spec.destination.id = id ∧
      (∃ keyID ∈ resolver.keyIDs, ∃ c₁ : RoutingConfig ν ι, c₀.Reaches keys c₁ ∧
        c₁.Reaches keys c ∧ c₁.shared.Shows hmac keys audience rawToken keyID (some token)) ∧
      ∀ keyID ∈ resolver.keyIDs, ∃ c₁ : RoutingConfig ν ι, c₀.Reaches keys c₁ ∧
        c₁.Reaches keys c ∧ (c₁.shared.Shows hmac keys audience rawToken keyID none ∨
          c₁.shared.Shows hmac keys audience rawToken keyID (some token)) := by
  obtain ⟨record, ⟨hok, -⟩, hrecord⟩ :=
    hstart.ended hrun hi OpaqueDestinationResolver.wp_resolve
  obtain ⟨results, token, hlookups, hone, husable, hid⟩ := hok id rfl
  have hmem : ∀ other, some other ∈ results ↔ other = token := by
    intro other
    rw [← List.reduceOption_mem_iff, hone, List.mem_singleton]
  refine ⟨token, husable, hid, ?_, fun keyID hkeyID => ?_⟩
  · obtain ⟨keyID, hkeyID, hfound⟩ := hlookups.only _ ((hmem token).mpr rfl)
    exact ⟨keyID, hkeyID, hstart.shows hrun hrecord hfound⟩
  · obtain ⟨result, hresult, hfound⟩ := hlookups.made keyID hkeyID
    obtain ⟨c₁, hbefore, hafter, hshows⟩ := hstart.shows hrun hrecord hfound
    cases result with
    | none => exact ⟨c₁, hbefore, hafter, .inl hshows⟩
    | some other =>
      obtain rfl := (hmem other).mp hresult
      exact ⟨c₁, hbefore, hafter, .inr hshows⟩

end

section
variable {s : Store} {row row' : TokenRow} {id id' : DestinationID}

/-- The rows of a token under one key are one row. -/
theorem IssuedRow.unique (h : IssuedRow hmac keys keyID audience id rawToken row)
    (h' : IssuedRow hmac keys keyID audience id' rawToken row') (hrow : row ∈ s.tokens)
    (hrow' : row' ∈ s.tokens) : row = row' := by
  refine List.inj_on_of_nodup_map (s.tokensValid .verifierUnique) hrow hrow' ?_
  rw [h.audienceID, h.verifierKeyID, h.verifier, h'.audienceID, h'.verifierKeyID, h'.verifier]

theorem IssuedRow.of_identity (h : IssuedRow hmac keys keyID audience id rawToken row)
    (hid : row'.identity = row.identity) :
    IssuedRow hmac keys keyID audience id rawToken row' := by
  simp only [TokenRow.identity, Prod.mk.injEq] at hid
  obtain ⟨-, haudience, hdestination, hverifier, hkey⟩ := hid
  exact ⟨haudience.trans h.audienceID, hdestination.trans h.destinationID,
    hverifier.trans h.verifier, hkey.trans h.verifierKeyID⟩

end

/-- The store has a row of the token, under the key and for the destination, that is usable. -/
def Store.Routes (hmac : KeyedHash)
    (keys : VerifierKeys) (s : Store)
    (audience : GatewayAudienceID) (rawToken : OpaqueDestinationToken)
    (keyID : DestinationVerifierKeyID) (now : Time) (id : DestinationID) : Prop :=
  ∃ row ∈ s.tokens, ∃ destination, IssuedRow hmac keys keyID audience id rawToken row ∧
    s.destination? id = some destination ∧ row.UsableAt destination now

theorem Store.Shows.routes {s : Store} (h : s.Shows hmac keys audience rawToken keyID (some token))
    (husable : token.UsableAt now) :
    s.Routes hmac keys audience rawToken keyID now token.spec.destination.id := by
  obtain ⟨row, hrow, destination, hissued, hdestination, hread, hid, -⟩ := h
  rw [hid]
  exact ⟨row, hrow, destination, hissued, hdestination, token, hread, husable⟩

/-- A token that was read decides whether its row is usable. -/
theorem Store.Shows.not_routes {s : Store} (h : s.Shows hmac keys audience rawToken keyID result)
    (hresult : ∀ token, result = some token → ¬ token.UsableAt now) (id : DestinationID) :
    ¬ s.Routes hmac keys audience rawToken keyID now id := by
  rintro ⟨row, hrow, destination, hissued, hdestination, token, hread, husable⟩
  obtain rfl := hissued.destinationID
  cases result with
  | none => exact h row hrow hissued
  | some token' =>
    obtain ⟨row', hrow', destination', hissued', hdestination', hread', -⟩ := h
    obtain rfl := hissued.unique hissued' hrow hrow'
    cases hdestination.symm.trans hdestination'
    cases hread.symm.trans hread'
    exact hresult token rfl husable

/-! ## Calls when nothing fails -/

/-- What each call answers when nothing fails and no one else writes to the store. -/
def calmRouting (keys : VerifierKeys)
    (q : Store × List (RoutingExchange ν)) (call : RoutingCall) :
    call.Answer (GoError ν) × (Store × List (RoutingExchange ν)) :=
  let answer : call.Answer (GoError ν) :=
    match call with
    | .resolver call => answerOn keys q.1 call
    | .mutate _ => ()
    | .provision => ()
  (answer, q.1, q.2 ++ [⟨call, answer⟩])

omit [ErrorGraph ν] in
theorem calmRouting_act (q : Store × List (RoutingExchange ν)) (call : RoutingCall) :
    (routingShared ν keys).act q.1 q.2 call (calmRouting keys q call).1
      (calmRouting keys q call).2.2 (calmRouting keys q call).2.1 := by
  refine ⟨rfl, ?_⟩
  cases call with
  | resolver call =>
    cases call with
    | destinationVerifierKey audience keyID => exact ⟨rfl, by rintro key ⟨⟩; rfl⟩
    | select audience keyID verifier =>
      refine ⟨rfl, ?_⟩
      simp only [calmRouting, answerOn]
      cases q.1.tokenRecord audience keyID verifier with
      | none => exact .noRows rfl
      | some record => exact .found rfl
    | contextErr | acquire | release | destroy => rfl
  | mutate m => exact .inl rfl
  | provision => rfl

omit [ErrorGraph ν] in
theorem eval_calmRouting (keys : VerifierKeys)
    {α : Type} (p : ResolverProg ν α) (q : Store × List (RoutingExchange ν)) :
    (Prog.eval (calmRouting keys) (Prog.within RoutingCall.resolver p) q).1 = p.on keys q.1 ∧
      (Prog.eval (calmRouting keys) (Prog.within RoutingCall.resolver p) q).2.1 = q.1 := by
  induction p generalizing q with
  | ret a => exact ⟨rfl, rfl⟩
  | call e k ih => exact ih (answerOn keys q.1 e) (calmRouting keys q (.resolver e)).2
  | stop reason => exact ⟨rfl, rfl⟩

/-- A call goes through while the other processes wait, and leaves the store as it is. -/
theorem RoutingConfig.Begins.undisturbed [DecidableEq ι] (keys : VerifierKeys)
    (hstart : c₀.Begins i hmac resolver audience rawToken now)
    (hr : (resolver.resolve hmac audience rawToken now).on keys c₀.shared = .ok r) :
    ∃ is c, Run (routingShared ν keys).Step c₀ is c ∧ c.progs i = .ret r ∧
      c.shared = c₀.shared ∧ ∀ j, j ≠ i → c.locals j = c₀.locals j ∧ c.progs j = c₀.progs j := by
  have hanswer : ∀ q call, (routingShared ν keys).Alone c₀.locals i q call
      (calmRouting keys q call).1 (calmRouting keys q call).2 :=
    fun q call => ⟨calmRouting_act q call, fun _ _ => trivial⟩
  obtain ⟨hvalue, hstore⟩ := eval_calmRouting keys (resolver.resolve hmac audience rawToken now)
    (c₀.shared, c₀.locals i)
  obtain ⟨n, hrun⟩ := Shared.run_alone (Prog.eval_runs hanswer (Prod.ext (hvalue.trans hr) rfl))
    hstart.prog rfl fun _ _ => rfl
  rw [hstore] at hrun
  exact ⟨_, _, hrun, Function.update_self .., rfl, fun j hj =>
    ⟨Function.update_of_ne hj _ _, Function.update_of_ne hj _ _⟩⟩

/-- The store after `sampleService` has issued `sampleOpaqueToken`. -/
def sampleStagedStore : Store := (sampleIssue (sampleTime 20) (sampleStore 10)).2.1

/-- The store after that token was activated. -/
def sampleIssuedStore : Store :=
  (sampleIssueActivation.commit sampleStagedStore).toOption.getD (sampleStore 10)

theorem sampleNextKey_valid :
    ByteString.ascii "next" = [] ∨ validKeyID (ByteString.ascii "next") = true :=
  Or.inr (by decide)

/-- A resolver with the key of the service, and the key that will follow it. -/
def sampleRing : OpaqueDestinationResolver where
  keyIDs := [⟨ByteString.ascii "next", sampleNextKey_valid⟩, sampleService.activeKeyID]
  size := by decide
  valid := by decide
  distinct := by decide

/-- Two calls of `Resolve` for `sampleOpaqueToken`, before their first steps. -/
def sampleRouting (s : Store) : RoutingConfig Empty Bool where
  shared := s
  locals _ := []
  progs _ := Prog.within RoutingCall.resolver
    (sampleRing.resolve sampleHmac (sampleID 1) sampleOpaqueToken (sampleTime 22))

theorem sampleRouting_begins (s : Store) (i : Bool) : (sampleRouting s).Begins i sampleHmac
    sampleRing (sampleID 1) sampleOpaqueToken (sampleTime 22) := ⟨rfl, rfl⟩

theorem sampleToken_routed :
    (sampleRing.resolve sampleHmac (sampleID 1) sampleOpaqueToken (sampleTime 22)).on sampleKeys
      sampleIssuedStore = .ok (.ok (sampleID 2) : Except (GoError Empty) DestinationID) := by
  decide +kernel

/-- **A token is resolved to the destination of a usable row.**  A call of `Resolve` that
answers with a destination, among any other processes and whatever fails, has found such a row
in the store under one of its keys, and none under the others. -/
theorem resolved_from_store (hstart : c₀.Begins i hmac resolver audience rawToken now)
    (hrun : Run (routingShared ν keys).Step c₀ is c) {id : DestinationID}
    (hi : c.progs i = .ret (.ok id)) :
    ∃ keyID ∈ resolver.keyIDs, ∃ c₁ : RoutingConfig ν ι, c₀.Reaches keys c₁ ∧
      c₁.Reaches keys c ∧ c₁.shared.Routes hmac keys audience rawToken keyID now id ∧
      ∀ other ∈ resolver.keyIDs, other ≠ keyID → ∃ c₂ : RoutingConfig ν ι, c₀.Reaches keys c₂ ∧
        c₂.Reaches keys c ∧ ∀ row ∈ c₂.shared.tokens,
          ¬ IssuedRow hmac keys other audience row.destinationID rawToken row := by
  obtain ⟨token, husable, rfl, ⟨keyID, hkeyID, c₁, hbefore, hafter, hshows⟩, heach⟩ :=
    hstart.resolved hrun hi
  refine ⟨keyID, hkeyID, c₁, hbefore, hafter, hshows.routes husable, fun other hother hne => ?_⟩
  obtain ⟨c₂, hbefore', hafter', hnone | hsame⟩ := heach other hother
  · exact ⟨c₂, hbefore', hafter', hnone⟩
  · -- the token was read with one key only
    obtain ⟨_, _, _, _, _, _, _, hkey⟩ := hshows
    obtain ⟨_, _, _, _, _, _, _, hkey'⟩ := hsame
    exact absurd (hkey'.symm.trans hkey) hne

/-- The token is found under one of the two keys, and not under the other. -/
theorem resolved_from_store_sample : ∃ is, ∃ c c₁ c₂ : RoutingConfig Empty Bool,
    Run (routingShared Empty sampleKeys).Step (sampleRouting sampleIssuedStore) is c ∧
    c.progs true = .ret (.ok (sampleID 2)) ∧
    ∃ keyID ∈ sampleRing.keyIDs, ∃ other ∈ sampleRing.keyIDs, other ≠ keyID ∧
      c₁.shared.Routes sampleHmac sampleKeys (sampleID 1) sampleOpaqueToken keyID (sampleTime 22)
        (sampleID 2) ∧
      ∀ row ∈ c₂.shared.tokens, ¬ IssuedRow sampleHmac sampleKeys other (sampleID 1)
        row.destinationID sampleOpaqueToken row := by
  have hstart := sampleRouting_begins sampleIssuedStore true
  obtain ⟨is, c, hrun, hended, -⟩ := hstart.undisturbed sampleKeys sampleToken_routed
  obtain ⟨keyID, hkeyID, c₁, -, -, hroutes, hothers⟩ := resolved_from_store hstart hrun hended
  obtain ⟨other, hother, hne⟩ : ∃ other ∈ sampleRing.keyIDs, other ≠ keyID := by
    have hsome : ∀ keyID ∈ sampleRing.keyIDs, ∃ other ∈ sampleRing.keyIDs, other ≠ keyID := by
      decide
    exact hsome keyID hkeyID
  obtain ⟨c₂, -, -, hnone⟩ := hothers other hother hne
  exact ⟨is, c, c₁, c₂, hrun, hended, keyID, hkeyID, other, hother, hne, hroutes, hnone⟩

/-- **A token is not found when no row of it is usable.**  A call of `Resolve` that answers
`ErrDestinationNotFound` has found, for each of its keys, the store in a state without a usable
row of the token under it; no failure of the database leads to this answer. -/
theorem unresolved_from_store (hstart : c₀.Begins i hmac resolver audience rawToken now)
    (hrun : Run (routingShared ν keys).Step c₀ is c)
    (hi : c.progs i = .ret (.error (.sentinel .errDestinationNotFound))) :
    ∀ keyID ∈ resolver.keyIDs, ∃ c₁ : RoutingConfig ν ι, c₀.Reaches keys c₁ ∧
      c₁.Reaches keys c ∧ ∀ id, ¬ c₁.shared.Routes hmac keys audience rawToken keyID now id := by
  obtain ⟨record, ⟨-, hnone⟩, hrecord⟩ :=
    hstart.ended hrun hi OpaqueDestinationResolver.wp_resolve
  obtain ⟨results, hlookups, hunusable⟩ := hnone rfl
  intro keyID hkeyID
  obtain ⟨result, hmem, hfound⟩ := hlookups.made keyID hkeyID
  obtain ⟨c₁, hbefore, hafter, hshows⟩ := hstart.shows hrun hrecord hfound
  refine ⟨c₁, hbefore, hafter, hshows.not_routes ?_⟩
  rintro token rfl
  exact hunusable token hmem

/-- The row of the token is there, but it is staged. -/
theorem unresolved_from_store_sample : ∃ is, ∃ c c₁ : RoutingConfig Empty Bool,
    sampleStagedStore.tokens.map TokenRow.state = [.staged] ∧
    Run (routingShared Empty sampleKeys).Step (sampleRouting sampleStagedStore) is c ∧
    c.progs true = .ret (.error (.sentinel .errDestinationNotFound)) ∧
    ∀ id, ¬ c₁.shared.Routes sampleHmac sampleKeys (sampleID 1) sampleOpaqueToken
      sampleService.activeKeyID (sampleTime 22) id := by
  have hstart := sampleRouting_begins sampleStagedStore true
  obtain ⟨is, c, hrun, hended, -⟩ := hstart.undisturbed sampleKeys
    (r := .error (.sentinel .errDestinationNotFound)) (by decide +kernel)
  obtain ⟨c₁, -, -, hroutes⟩ := unresolved_from_store hstart hrun hended
    sampleService.activeKeyID (by decide)
  exact ⟨is, c, c₁, by decide +kernel, hrun, hended, hroutes⟩

/-- **A token is never routed to a second destination.**  Once a call has answered with a
destination, every later call for the token whose ring still has the keys of the first, and
that answers with a destination, answers with the same one. -/
theorem resolutions_agree {resolver' : OpaqueDestinationResolver} {now' : Time}
    {c' : RoutingConfig ν ι} {js : List ι} {j : ι} {id id' : DestinationID}
    (hring : resolver.keyIDs ⊆ resolver'.keyIDs)
    (hstart : c₀.Begins i hmac resolver audience rawToken now)
    (hrun : Run (routingShared ν keys).Step c₀ is c) (hi : c.progs i = .ret (.ok id))
    (hstart' : c.Begins j hmac resolver' audience rawToken now')
    (hrun' : Run (routingShared ν keys).Step c js c') (hj : c'.progs j = .ret (.ok id')) :
    id' = id := by
  obtain ⟨token, -, rfl, ⟨keyID, hkeyID, c₁, -, hafter, hshows⟩, -⟩ := hstart.resolved hrun hi
  obtain ⟨row, hrow, destination, hissued, -, -, hid, -⟩ := hshows
  obtain ⟨token', -, rfl, -, heach⟩ := hstart'.resolved hrun' hj
  obtain ⟨c₂, hbefore, -, hshows'⟩ := heach keyID (hring hkeyID)
  -- the row is still there when the second call looks for it
  obtain ⟨row', hrow', hidentity⟩ := (hafter.trans hbefore).identity (Store.row?_of_mem hrow)
  have hissued' := hissued.of_identity hidentity
  obtain hnone | ⟨row'', hrow'', _, hissued'', -, -, hid', -⟩ := hshows'
  · exact absurd (hissued'.destinationID.symm ▸ hissued') (hnone row' (Store.mem_of_row? hrow'))
  · obtain rfl := hissued''.unique hissued' hrow'' (Store.mem_of_row? hrow')
    rw [hid', hid, hissued'.destinationID]

/-- A second call after the first, for the same token. -/
theorem resolutions_agree_sample : ∃ is js, ∃ c c' : RoutingConfig Empty Bool, ∃ id,
    Run (routingShared Empty sampleKeys).Step (sampleRouting sampleIssuedStore) is c ∧
    Run (routingShared Empty sampleKeys).Step c js c' ∧ c.progs true = .ret (.ok id) ∧
    c'.progs false = .ret (.ok (sampleID 2)) ∧ sampleID 2 = id := by
  have hstart := sampleRouting_begins sampleIssuedStore true
  obtain ⟨is, c, hrun, hended, hstore, hothers⟩ :=
    hstart.undisturbed sampleKeys sampleToken_routed
  obtain ⟨hlocal, hprog⟩ := hothers false Bool.false_ne_true
  have hstart' : RoutingConfig.Begins c false sampleHmac sampleRing (sampleID 1)
      sampleOpaqueToken (sampleTime 22) := ⟨hprog, hlocal⟩
  have hshared : c.shared = sampleIssuedStore := hstore
  obtain ⟨js, c', hrun', hended', -⟩ :=
    hstart'.undisturbed sampleKeys (hshared ▸ sampleToken_routed)
  exact ⟨is, js, c, c', _, hrun, hrun', hended, hended',
    resolutions_agree (List.Subset.refl _) hstart hrun hended hstart' hrun' hended'⟩

end

end

end OncallGateway
