import OncallGateway.ReplayReservation
import OncallGateway.SecurityTables

/-! # The repository of the authentication state

`AuthenticationStateRepository` implements four of the interfaces the authentication service
is written over: the bound audience, the credentials, the principals and the reservations of
nonces.  Each of its calls takes a connection, makes one statement and hands the connection
back; the statement may return no row, or fail with any error.

What a call returns is told by its statement (`Answered`): a value only if the statement has
returned a row that is read as that value, and `ErrCredentialNotFound` only if it has returned
no row.  No failure of the database is mistaken for either.
-/

namespace OncallGateway
open Session

/-! ## Errors -/

/-- The errors of the repository that the service compares with none of its own: two
variables, and the `*SafeError` of an operation that wraps the first. -/
class SecurityErrors (ν : Type) extends ErrorGraph ν where
  errAuthenticationStateUnavailable : ν
  errAudienceUnavailable : ν
  safeUnavailable : String → ν
  view_unavailable : view errAuthenticationStateUnavailable = ⟨false, true, .none, none, .other⟩
  view_audience : view errAudienceUnavailable = ⟨false, true, .none, none, .other⟩
  view_safe : ∀ operation, view (safeUnavailable operation) =
    ⟨false, true, .single (some (.foreign errAuthenticationStateUnavailable)), none, .other⟩

/-- The errors of a repository whose driver only returns sentinels. -/
inductive RepositoryError where
  | stateUnavailable
  | audienceUnavailable
  | unavailable (operation : String)
deriving DecidableEq

instance : ErrorValues RepositoryError where
  view
    | .stateUnavailable => ⟨false, true, .none, none, .other⟩
    | .audienceUnavailable => ⟨false, true, .none, none, .other⟩
    | .unavailable _ => ⟨false, true, .single (some (.foreign .stateUnavailable)), none, .other⟩

theorem RepositoryError.findWithin_isSome (p : GoError RepositoryError → Bool)
    (v : RepositoryError) : (GoError.findWithin p 2 (.foreign v)).isSome = true := by
  have hroot : ∀ (e : GoError RepositoryError) n, e.unwrapMethod = .none →
      (GoError.findWithin p (n + 1) e).isSome = true := by
    intro e n he
    rw [GoError.findWithin, he]
    split <;> rfl
  cases v with
  | stateUnavailable => exact hroot _ 1 rfl
  | audienceUnavailable => exact hroot _ 1 rfl
  | unavailable operation =>
    rw [GoError.findWithin]
    split
    · rfl
    · exact hroot (.foreign .stateUnavailable) 0 rfl

instance : SecurityErrors RepositoryError where
  find p v := GoError.findWithin p 2 (.foreign v)
  find_iff := GoError.findWithin_iff (RepositoryError.findWithin_isSome _ _)
  errAuthenticationStateUnavailable := .stateUnavailable
  errAudienceUnavailable := .audienceUnavailable
  safeUnavailable := .unavailable
  view_unavailable := rfl
  view_audience := rfl
  view_safe _ := rfl

/-! ## Calls -/

/-- The tables the repository reads and writes. -/
structure AuthenticationTables where
  security : SecurityTables
  reservations : ReplayStore

/-- The calls of the repository.  `administer` is not one of them: it stands for whoever else
writes to the tables. -/
inductive StateCall where
  | replay (call : ReplayCall)
  | selectBoundAudience
  | selectCredential (audience : GatewayAudienceID) (id : CredentialID)
  | selectPrincipal (audience : GatewayAudienceID) (id : CorePrincipalID)
  | administer (tables : AuthenticationTables)

/-- Their answers. -/
abbrev StateCall.Answer (ε : Type) : StateCall → Type
  | replay call => call.Answer ε
  | selectBoundAudience => RowAnswer ε BoundAudienceRecord
  | selectCredential _ _ => RowAnswer ε CredentialRecord
  | selectPrincipal _ _ => RowAnswer ε PrincipalRecord
  | administer _ => Unit

/-- A program of the repository. -/
abbrev StateProg (ν α : Type) := Prog StateCall (StateCall.Answer (GoError ν)) α

/-- A call that was made, and its answer. -/
abbrev StateExchange (ν : Type) := Sigma (StateCall.Answer (GoError ν))

/-- A program over the connection and the reservations. -/
def ofReplay {ν α : Type} (p : ReplayProg ν α) : StateProg ν α :=
  Prog.within StateCall.replay p

section
variable {ν : Type} [SecurityErrors ν]

/-- `safeError(ErrAuthenticationStateUnavailable, operation)`. -/
def stateUnavailable (operation : String) : GoError ν :=
  .foreign (SecurityErrors.safeUnavailable operation)

/-- `readConnection`; the connection is there if it succeeds, and `finish` is
`finishReservation`. -/
def readConnection (operation : String) : StateProg ν (Except (GoError ν) Unit) := do
  match ← ofReplay (contextSentinel none) with
  | some cancellation => return .error (.safe cancellation operation)
  | none =>
    match ← Prog.request (StateCall.replay .acquire) with
    | .failed err connection =>
      if connection then
        ofReplay (finishReservation true)
      match ← ofReplay (contextSentinel (some err)) with
      | some cancellation => return .error (.safe cancellation operation)
      | none => return .error (stateUnavailable operation)
    | .absent => return .error (stateUnavailable operation)
    | .opened => return .ok ()

/-- `repositoryReadError`. -/
def repositoryReadError (err : GoError ν) (operation : String) : StateProg ν (GoError ν) := do
  match ← ofReplay (contextSentinel (some err)) with
  | some cancellation => return .safe cancellation operation
  | none => return stateUnavailable operation

namespace AuthenticationStateRepository

/-- `BoundAudience`. -/
def boundAudience : StateProg ν (Except (GoError ν) GatewayAudienceID) := do
  match ← readConnection "security realm connection" with
  | .error err => return .error err
  | .ok () =>
    match ← Prog.request StateCall.selectBoundAudience with
    | .absent =>
      ofReplay (finishReservation true)
      return .error (stateUnavailable "security realm query")
    | .scanned (.error err) =>
      ofReplay (finishReservation (← err.isConnectionInterruption))
      return .error (← repositoryReadError err "security realm query")
    | .scanned (.ok record) =>
      ofReplay (finishReservation false)
      match record.audience with
      | none => return .error (.foreign SecurityErrors.errAudienceUnavailable)
      | some audience => return .ok audience

/-- `Credential`. -/
def credential (expectedAudience : GatewayAudienceID) (expectedPublicID : CredentialID) :
    StateProg ν (Except (GoError ν) Credential) := do
  if expectedAudience.IsZero ∨ expectedPublicID.IsZero ∨
      parseCredentialID (formatUUID expectedPublicID) ≠ .ok expectedPublicID then
    return .error (.safe .errAuthenticationStateIntegrity "authentication credential input")
  else
    match ← readConnection "authentication credential connection" with
    | .error err => return .error err
    | .ok () =>
      match ← Prog.request (StateCall.selectCredential expectedAudience expectedPublicID) with
      | .absent =>
        ofReplay (finishReservation true)
        return .error (stateUnavailable "authentication credential query")
      | .scanned result =>
        -- the context is looked at whether or not there is an error
        match ← ofReplay (contextSentinel result.error?) with
        | some cancellation =>
          ofReplay (finishReservation (← interruptionOf result.error?))
          return .error (.safe cancellation "authentication credential query")
        | none =>
          match result with
          | .error err =>
            if err.isSentinel .pgxErrNoRows then
              ofReplay (finishReservation false)
              return .error (.sentinel .errCredentialNotFound)
            else
              ofReplay (finishReservation (← err.isConnectionInterruption))
              return .error (← repositoryReadError err "authentication credential query")
          | .ok record =>
            ofReplay (finishReservation false)
            match record.credential expectedAudience expectedPublicID with
            | .error _ =>
              return .error
                (.safe .errAuthenticationStateIntegrity "authentication credential record")
            | .ok credential => return .ok credential

/-- `Principal`. -/
def principal (expectedAudience : GatewayAudienceID) (expectedPrincipalID : CorePrincipalID) :
    StateProg ν (Except (GoError ν) Principal) := do
  if expectedAudience.IsZero ∨ expectedPrincipalID.IsZero then
    return .error (.safe .errAuthenticationStateIntegrity "core principal input")
  else
    match ← readConnection "core principal connection" with
    | .error err => return .error err
    | .ok () =>
      match ← Prog.request (StateCall.selectPrincipal expectedAudience expectedPrincipalID) with
      | .absent =>
        ofReplay (finishReservation true)
        return .error (stateUnavailable "core principal query")
      | .scanned (.error err) =>
        match ← ofReplay (contextSentinel (some err)) with
        | some cancellation =>
          ofReplay (finishReservation (← err.isConnectionInterruption))
          return .error (.safe cancellation "core principal query")
        | none =>
          ofReplay (finishReservation (← err.isConnectionInterruption))
          if err.isSentinel .pgxErrNoRows then
            return .error (.safe .errAuthenticationStateIntegrity "core principal record")
          else
            return .error (← repositoryReadError err "core principal query")
      | .scanned (.ok record) =>
        ofReplay (finishReservation false)
        match record.principal expectedAudience expectedPrincipalID with
        | .error _ =>
          return .error (.safe .errAuthenticationStateIntegrity "core principal record")
        | .ok principal => return .ok principal

end AuthenticationStateRepository

open AuthenticationStateRepository in
/-- The calls of the service, of which the repository implements four; the context, the clock
and the secrets come from outside. -/
def stateHandler : (call : AuthenticationCall) → StateProg ν (call.Answer (GoError ν))
  | .boundAudience => boundAudience
  | .credential audience id => credential audience id
  | .principal audience id => principal audience id
  | .reserve recordID nonce now => ofReplay (reserve recordID nonce now)
  | .contextErr => Prog.request (StateCall.replay (.outside .contextErr))
  | .clock => Prog.request (StateCall.replay (.outside .clock))
  | .authenticationSecret audience id =>
    Prog.request (StateCall.replay (.outside (.authenticationSecret audience id)))

/-- A call of `Authenticate`, over the repository. -/
def authenticateState (hmac : KeyedHash) (sha256 : Hash)
    (service : AuthenticationService) (request : AuthenticationRequest) :
    StateProg ν (List (AuthenticationExchange ν) × Except AuthenticationError CorePrincipalID) :=
  (service.authenticate hmac sha256 request).implement stateHandler

/-! ## What an answer rests on -/

/-- The error is neither of the two that the service takes for an answer. -/
def Unanswered (err : GoError ν) : Prop :=
  err.singleCauseMatches .errCredentialNotFound = false ∧
    err.singleCauseMatches .errPrincipalNotAuthorized = false

/-- **What an answer of the repository rests on**: the statement of the call, and what it has
returned. -/
def Answered : (call : AuthenticationCall) → call.Answer (GoError ν) → List (StateExchange ν) → Prop
  | .boundAudience, answer, part => ∀ audience, answer = .ok audience →
    ∃ record, ⟨.selectBoundAudience, .scanned (.ok record)⟩ ∈ part ∧
      record.audience = some audience
  | .credential audience id, answer, part =>
    (∀ credential, answer = .ok credential →
      ∃ record, ⟨.selectCredential audience id, .scanned (.ok record)⟩ ∈ part ∧
        record.credential audience id = .ok credential) ∧
    ∀ err, answer = .error err → err.singleCauseMatches .errCredentialNotFound = true →
      ⟨.selectCredential audience id, .scanned (.error (.sentinel .pgxErrNoRows))⟩ ∈ part
  | .principal audience id, answer, part =>
    (∀ principal, answer = .ok principal →
      ∃ record, ⟨.selectPrincipal audience id, .scanned (.ok record)⟩ ∈ part ∧
        record.principal audience id = .ok principal) ∧
    ∀ err, answer = .error err → err.singleCauseMatches .errPrincipalNotAuthorized = false
  | .reserve recordID nonce now, answer, part =>
    (answer = .ok .reserved →
      ⟨.replay (.insert (replayReservation recordID nonce now)), .scanned (.ok true)⟩ ∈ part) ∧
    (answer = .ok .duplicate →
      ⟨.replay (.insert (replayReservation recordID nonce now)),
        .scanned (.error (.sentinel .pgxErrNoRows))⟩ ∈ part) ∧
    answer ≠ .ok .other
  | .contextErr, answer, part => part = [⟨.replay (.outside .contextErr), answer⟩]
  | .clock, answer, part => part = [⟨.replay (.outside .clock), answer⟩]
  | .authenticationSecret audience id, answer, part =>
    part = [⟨.replay (.outside (.authenticationSecret audience id)), answer⟩]

theorem singleCauseMatches_stateUnavailable (operation : String) (t : Sentinel) :
    (stateUnavailable operation : GoError ν).singleCauseMatches t = false := by
  simp [GoError.singleCauseMatches, GoError.singleCauseMatchesFrom, stateUnavailable,
    GoError.typedNil, GoError.ambiguous, GoError.unwrap, GoError.unwrapMethod, GoError.comparable,
    GoError.isSentinel, SecurityErrors.view_safe, SecurityErrors.view_unavailable]

theorem unanswered_stateUnavailable (operation : String) :
    Unanswered (stateUnavailable operation : GoError ν) :=
  ⟨singleCauseMatches_stateUnavailable _ _, singleCauseMatches_stateUnavailable _ _⟩

/-- The two errors of a context that is done. -/
def IsCancellation (kind : Sentinel) : Prop :=
  kind = .contextCanceled ∨ kind = .contextDeadlineExceeded

theorem unanswered_safe {kind : Sentinel} (operation : String)
    (h : IsCancellation kind ∨ kind = .errAuthenticationStateIntegrity) :
    Unanswered (.safe kind operation : GoError ν) := by
  rcases h with (rfl | rfl) | rfl <;> simp [Unanswered]

theorem yields_contextSentinel (err : Option (GoError ν)) :
    (ofReplay (contextSentinel err)).Yields fun kind =>
      ∀ cancellation, kind = some cancellation → IsCancellation cancellation := by
  have hsome : ∀ {kind : Sentinel}, IsCancellation kind →
      ∀ cancellation, some kind = some cancellation → IsCancellation cancellation := by
    rintro kind hkind _ ⟨⟩
    exact hkind
  refine Prog.Yields.within (Prog.Yields.andThen _ fun canceled => ?_)
  split
  · exact hsome (.inl rfl)
  refine Prog.Yields.andThen _ fun contextErr => Prog.Yields.andThen _ fun canceled => ?_
  split
  · exact hsome (.inl rfl)
  refine Prog.Yields.andThen _ fun expired => ?_
  split
  · exact hsome (.inr rfl)
  refine Prog.Yields.andThen _ fun contextErr => Prog.Yields.andThen _ fun expired => ?_
  split
  · exact hsome (.inr rfl)
  · exact fun _ => nofun

theorem yields_repositoryReadError (err : GoError ν) (operation : String) :
    (repositoryReadError err operation).Yields Unanswered := by
  refine (yields_contextSentinel _).bind fun kind hkind => ?_
  cases kind with
  | some cancellation => exact unanswered_safe _ (.inl (hkind _ rfl))
  | none => exact unanswered_stateUnavailable _

theorem yields_readConnection (operation : String) :
    (readConnection operation : StateProg ν _).Yields fun r => ∀ err, r = .error err →
      Unanswered err := by
  refine (yields_contextSentinel _).bind fun kind hkind => ?_
  cases kind with
  | some cancellation =>
    rintro _ ⟨⟩
    exact unanswered_safe _ (.inl (hkind _ rfl))
  | none =>
    refine Prog.Yields.andThen _ fun connection => ?_
    cases connection with
    | failed err connection =>
      have hfailed : (do
          match ← ofReplay (contextSentinel (some err)) with
          | some cancellation => return .error (.safe cancellation operation)
          | none => return .error (stateUnavailable operation) :
            StateProg ν (Except (GoError ν) Unit)).Yields fun r => ∀ err, r = .error err →
          Unanswered err := by
        refine (yields_contextSentinel _).bind fun kind hkind => ?_
        cases kind with
        | some cancellation =>
          rintro _ ⟨⟩
          exact unanswered_safe _ (.inl (hkind _ rfl))
        | none =>
          rintro _ ⟨⟩
          exact unanswered_stateUnavailable _
      cases connection with
      | true => exact Prog.Yields.andThen _ fun _ => hfailed
      | false => exact hfailed
    | absent =>
      rintro _ ⟨⟩
      exact unanswered_stateUnavailable _
    | opened => rintro _ ⟨⟩

section
variable {record : List (StateExchange ν)}

/-- A connection is taken, one statement is made, and what follows depends on its answer. -/
theorem wp_statement {α : Type} {operation : String} (call : StateCall)
    {rest : call.Answer (GoError ν) → StateProg ν (Except (GoError ν) α)}
    {Q : Except (GoError ν) α → List (StateExchange ν) → Prop}
    (hmono : ∀ r part part', part ⊆ part' → Q r part → Q r part')
    (herror : ∀ err part, Unanswered err → Q (.error err) part)
    (hrest : ∀ answer, (rest answer).Yields fun r => Q r [⟨call, answer⟩]) :
    (do
      match ← readConnection operation with
      | .error err => return .error err
      | .ok () =>
        let answer ← Prog.request call
        rest answer : StateProg ν (Except (GoError ν) α)).wp Prog.recorder
      (fun r record' => ∃ part, record' = record ++ part ∧ Q r part) record := by
  rw [Prog.wp_bind]
  refine (yields_readConnection operation).wp_recorder fun r before hr => ?_
  cases r with
  | error err => exact ⟨before, rfl, herror err before (hr err rfl)⟩
  | ok =>
    dsimp only
    rw [Prog.wp_bind, Prog.wp_record]
    intro answer
    refine (hrest answer).wp_recorder fun r after hr => ?_
    refine ⟨before ++ ⟨call, answer⟩ :: after, by simp, hmono r _ _ ?_ hr⟩
    simp

namespace AuthenticationStateRepository

theorem wp_boundAudience : (boundAudience : StateProg ν _).wp Prog.recorder
    (fun answer record' => ∃ part, record' = record ++ part ∧
      Answered .boundAudience answer part) record := by
  have hrefused : ∀ {err : GoError ν} {part : List (StateExchange ν)},
      Answered .boundAudience (.error err) part := by rintro err part _ ⟨⟩
  refine wp_statement .selectBoundAudience ?_ (fun _ _ _ => hrefused) fun answer => ?_
  · intro r part part' hpart h audience hok
    obtain ⟨record, hmem, haudience⟩ := h audience hok
    exact ⟨record, hpart hmem, haudience⟩
  · cases answer with
    | absent => exact Prog.Yields.andThen _ fun _ => hrefused
    | scanned result =>
      cases result with
      | error err =>
        exact Prog.Yields.andThen _ fun _ => Prog.Yields.andThen _ fun _ =>
          Prog.Yields.andThen _ fun _ => hrefused
      | ok record =>
        refine Prog.Yields.andThen _ fun _ => ?_
        split
        · exact hrefused
        · rename_i audience haudience
          rintro _ ⟨⟩
          exact ⟨record, List.mem_singleton_self _, haudience⟩

theorem wp_credential (audience : GatewayAudienceID) (id : CredentialID) :
    (credential audience id : StateProg ν _).wp Prog.recorder
      (fun answer record' => ∃ part, record' = record ++ part ∧
        Answered (.credential audience id) answer part) record := by
  have hrefused : ∀ {err : GoError ν} {part : List (StateExchange ν)}, Unanswered err →
      Answered (.credential audience id) (.error err) part := by
    refine fun herr => ⟨by rintro _ ⟨⟩, ?_⟩
    rintro _ ⟨⟩ hmatches
    rw [herr.1] at hmatches
    cases hmatches
  unfold credential
  split
  · exact ⟨[], (List.append_nil _).symm, hrefused (unanswered_safe _ (.inr rfl))⟩
  refine wp_statement (.selectCredential audience id) ?_ (fun _ _ => hrefused) fun answer => ?_
  · rintro r part part' hpart ⟨hok, herror⟩
    refine ⟨fun credential hr => ?_, fun err hr hmatches => hpart (herror err hr hmatches)⟩
    obtain ⟨record, hmem, hcredential⟩ := hok credential hr
    exact ⟨record, hpart hmem, hcredential⟩
  · cases answer with
    | absent => exact Prog.Yields.andThen _ fun _ => hrefused (unanswered_stateUnavailable _)
    | scanned result =>
      refine (yields_contextSentinel _).bind fun kind hkind => ?_
      cases kind with
      | some cancellation =>
        exact Prog.Yields.andThen _ fun _ => Prog.Yields.andThen _ fun _ =>
          hrefused (unanswered_safe _ (.inl (hkind _ rfl)))
      | none =>
        cases result with
        | error err =>
          dsimp only
          split
          · -- no row: the one error that stands for an answer
            rename_i hnone
            rw [GoError.isSentinel_iff.mp hnone]
            refine Prog.Yields.andThen _ fun _ => ⟨by rintro _ ⟨⟩, ?_⟩
            exact fun _ _ _ => List.mem_singleton_self _
          · refine Prog.Yields.andThen _ fun _ => Prog.Yields.andThen _ fun _ => ?_
            exact (yields_repositoryReadError _ _).bind fun err herr => hrefused herr
        | ok record =>
          refine Prog.Yields.andThen _ fun _ => ?_
          split
          · exact hrefused (unanswered_safe _ (.inr rfl))
          · rename_i credential hcredential
            refine ⟨?_, by rintro _ ⟨⟩⟩
            rintro _ ⟨⟩
            exact ⟨record, List.mem_singleton_self _, hcredential⟩

theorem wp_principal (audience : GatewayAudienceID) (id : CorePrincipalID) :
    (principal audience id : StateProg ν _).wp Prog.recorder
      (fun answer record' => ∃ part, record' = record ++ part ∧
        Answered (.principal audience id) answer part) record := by
  have hrefused : ∀ {err : GoError ν} {part : List (StateExchange ν)}, Unanswered err →
      Answered (.principal audience id) (.error err) part := by
    refine fun herr => ⟨by rintro _ ⟨⟩, ?_⟩
    rintro _ ⟨⟩
    exact herr.2
  unfold principal
  split
  · exact ⟨[], (List.append_nil _).symm, hrefused (unanswered_safe _ (.inr rfl))⟩
  refine wp_statement (.selectPrincipal audience id) ?_ (fun _ _ => hrefused) fun answer => ?_
  · rintro r part part' hpart ⟨hok, herror⟩
    refine ⟨fun principal hr => ?_, herror⟩
    obtain ⟨record, hmem, hprincipal⟩ := hok principal hr
    exact ⟨record, hpart hmem, hprincipal⟩
  · cases answer with
    | absent => exact Prog.Yields.andThen _ fun _ => hrefused (unanswered_stateUnavailable _)
    | scanned result =>
      cases result with
      | error err =>
        refine (yields_contextSentinel _).bind fun kind hkind => ?_
        cases kind with
        | some cancellation =>
          exact Prog.Yields.andThen _ fun _ => Prog.Yields.andThen _ fun _ =>
            hrefused (unanswered_safe _ (.inl (hkind _ rfl)))
        | none =>
          refine Prog.Yields.andThen _ fun _ => Prog.Yields.andThen _ fun _ => ?_
          split
          · exact hrefused (unanswered_safe _ (.inr rfl))
          · exact (yields_repositoryReadError _ _).bind fun err herr => hrefused herr
      | ok record =>
        refine Prog.Yields.andThen _ fun _ => ?_
        split
        · exact hrefused (unanswered_safe _ (.inr rfl))
        · rename_i principal hprincipal
          refine ⟨?_, by rintro _ ⟨⟩⟩
          rintro _ ⟨⟩
          exact ⟨record, List.mem_singleton_self _, hprincipal⟩

end AuthenticationStateRepository

/-- What is not confirmed is not granted, and is refused as a duplicate only for want of a
row. -/
theorem yields_reserveUnconfirmed (err : Option (GoError ν)) :
    (reserveUnconfirmed err).Yields fun r => r ≠ .ok .reserved ∧ r ≠ .ok .other ∧
      (r = .ok .duplicate → err = some (.sentinel .pgxErrNoRows)) := by
  have hfails : ∀ {e : GoError ν}, (.error e : Except (GoError ν) ReplayReservationDisposition) ≠
      .ok .reserved ∧ (.error e : Except (GoError ν) ReplayReservationDisposition) ≠ .ok .other ∧
      ((.error e : Except (GoError ν) ReplayReservationDisposition) = .ok .duplicate →
        err = some (.sentinel .pgxErrNoRows)) := by
    refine ⟨?_, ?_, ?_⟩ <;> rintro ⟨⟩
  unfold reserveUnconfirmed
  refine Prog.Yields.andThen _ fun interrupted => ?_
  dsimp only
  split
  · exact Prog.Yields.andThen _ fun _ => Prog.Yields.andThen _ fun _ => hfails
  · refine Prog.Yields.andThen _ fun kind => ?_
    cases kind with
    | some cancellation =>
      exact Prog.Yields.andThen _ fun _ => Prog.Yields.andThen _ fun _ => hfails
    | none =>
      dsimp only
      split
      · rename_i hnone
        refine Prog.Yields.andThen _ fun _ => ⟨by rintro ⟨⟩, by rintro ⟨⟩, fun _ => ?_⟩
        cases err with
        | none => cases hnone
        | some e => rw [GoError.isSentinel_iff.mp hnone]
      · split <;> exact Prog.Yields.andThen _ fun _ => hfails

/-- What an answer of `Reserve` rests on. -/
def InsertionTold (row : ReplayReservation) (r : Except (GoError ν) ReplayReservationDisposition)
    (record : List (Sigma (ReplayCall.Answer (GoError ν)))) : Prop :=
  (r = .ok .reserved → ⟨.insert row, .scanned (.ok true)⟩ ∈ record) ∧
    (r = .ok .duplicate →
      ⟨.insert row, .scanned (.error (.sentinel .pgxErrNoRows))⟩ ∈ record) ∧ r ≠ .ok .other

/-- What `Reserve` answers is told by the insertion. -/
theorem wp_reserve_recorder (recordID : CredentialRecordID) (nonce : Bytes 16) (now : Time) :
    (reserve recordID nonce now : ReplayProg ν _).wp Prog.recorder
      (InsertionTold (replayReservation recordID nonce now)) [] := by
  have hfails : ∀ {e : GoError ν} {record : List (Sigma (ReplayCall.Answer (GoError ν)))},
      InsertionTold (replayReservation recordID nonce now) (.error e) record := by
    refine ⟨?_, ?_, ?_⟩ <;> rintro ⟨⟩
  unfold reserve
  split
  · exact hfails
  rw [Prog.wp_bind]
  refine (Prog.yields_of_forall (fun _ => trivial) (contextSentinel none)).wp_recorder
    fun kind part _ => ?_
  cases kind with
  | some cancellation => exact hfails
  | none =>
    dsimp only
    split
    · exact hfails
    rw [Prog.wp_bind, Prog.wp_record]
    intro connection
    cases connection with
    | absent => exact hfails
    | failed err connection =>
      have hend : ∀ r : Unit, (do
          match ← contextSentinel (some err) with
          | some cancellation =>
            return .error (.safe cancellation "replay reservation connection")
          | none => return .error (.sentinel .errReplayUnavailable) :
            ReplayProg ν (Except (GoError ν) ReplayReservationDisposition)).Yields
          fun r => ∃ e, r = .error e :=
        fun _ => Prog.Yields.andThen _ fun kind => by cases kind <;> exact ⟨_, rfl⟩
      refine Prog.Yields.wp_recorder (P := fun r => ∃ e, r = .error e) ?_ ?_
      · cases connection with
        | true => exact Prog.Yields.andThen _ hend
        | false => exact hend ()
      · rintro _ part ⟨e, rfl⟩
        exact hfails
    | opened =>
      dsimp only
      rw [Prog.wp_bind, Prog.wp_record]
      intro answer
      have hmem : ∀ {before after : List (Sigma (ReplayCall.Answer (GoError ν)))},
          (⟨.insert (replayReservation recordID nonce now), answer⟩ :
            Sigma (ReplayCall.Answer (GoError ν))) ∈
            before ++ [⟨.insert (replayReservation recordID nonce now), answer⟩] ++ after := by
        simp
      have hunconfirmed : ∀ {err : Option (GoError ν)} {before},
          (∀ e, err = some e → answer = .scanned (.error e)) →
          (reserveUnconfirmed err).wp Prog.recorder
            (InsertionTold (replayReservation recordID nonce now))
            (before ++ [⟨.insert (replayReservation recordID nonce now), answer⟩]) := by
        intro err before herr
        refine (yields_reserveUnconfirmed err).wp_recorder fun r after hr => ?_
        refine ⟨fun h => absurd h hr.1, fun h => ?_, hr.2.1⟩
        rw [← herr _ (hr.2.2 h)]
        exact hmem
      cases answer with
      | absent =>
        refine Prog.Yields.wp_recorder (P := fun r => r = .error (.replayUnknown none)) ?_ ?_
        · exact Prog.Yields.andThen _ fun _ => rfl
        · rintro _ part rfl
          exact hfails
      | scanned result =>
        rcases result with err | _ | _
        · exact hunconfirmed fun e he => by rw [Option.some.inj he]
        · exact hunconfirmed fun e he => by cases he
        · refine Prog.Yields.wp_recorder (P := fun r => r = .ok .reserved) ?_ ?_
          · exact Prog.Yields.andThen _ fun _ => rfl
          · rintro _ part rfl
            exact ⟨fun _ => hmem, by rintro ⟨⟩, by rintro ⟨⟩⟩

/-- **What each call of the service is answered is told by the statement of the repository.** -/
theorem wp_stateHandler (call : AuthenticationCall) :
    (stateHandler call : StateProg ν _).wp Prog.recorder
      (fun answer record' => ∃ part, record' = record ++ part ∧ Answered call answer part)
      record := by
  cases call with
  | boundAudience => exact AuthenticationStateRepository.wp_boundAudience
  | credential audience id => exact AuthenticationStateRepository.wp_credential audience id
  | principal audience id => exact AuthenticationStateRepository.wp_principal audience id
  | reserve recordID nonce now =>
    refine Prog.wp_mono (Prog.wp_within_recorder (wp_reserve_recorder recordID nonce now)) ?_
    rintro r _ ⟨own, ⟨hreserved, hduplicate, hother⟩, rfl⟩
    refine ⟨_, rfl, fun h => ?_, fun h => ?_, hother⟩
    · exact List.mem_map_of_mem (hreserved h)
    · exact List.mem_map_of_mem (hduplicate h)
  | contextErr | clock | authenticationSecret => exact Prog.wp_record.mpr fun r => ⟨_, rfl, rfl⟩

/-- The record of the repository, in parts that tell the answers of the service's calls. -/
def Carried (upper : List (AuthenticationExchange ν)) (lower : List (StateExchange ν)) : Prop :=
  ∃ parts, List.Forall₂ (fun exchange part => Answered exchange.1 exchange.2 part) upper parts ∧
    lower = parts.flatten

/-- **A call of `Authenticate` over the repository**: what it has done as a call of the
service, and the statements its answers rest on. -/
theorem wp_authenticateState {hmac : KeyedHash}
    {sha256 : Hash} {service : AuthenticationService}
    {request : AuthenticationRequest} {Q : Except AuthenticationError CorePrincipalID →
      List (AuthenticationExchange ν) → Prop}
    (h : (service.authenticate hmac sha256 request).wp Prog.recorder Q []) :
    (authenticateState hmac sha256 service request).wp Prog.recorder
      (fun last lower => Carried last.1 lower ∧ Q last.2 last.1) [] := by
  refine Prog.wp_implement (I := Carried) ?_ (fun _ _ => trivial) h ⟨[], .nil, rfl⟩
  rintro upper call lower ⟨parts, hparts, rfl⟩
  refine Prog.wp_mono (wp_stateHandler call) ?_
  rintro answer _ ⟨part, rfl, hpart⟩
  refine ⟨parts ++ [part], ?_, by simp⟩
  exact List.rel_append hparts (.cons hpart .nil)

/-- The parts of some of the calls, in their order. -/
theorem Carried.sublist {upper exchanges : List (AuthenticationExchange ν)}
    {lower : List (StateExchange ν)} (h : Carried upper lower) (hsub : exchanges.Sublist upper) :
    ∃ parts, List.Forall₂ (fun exchange part => Answered exchange.1 exchange.2 part) exchanges
      parts ∧ parts.flatten.Sublist lower := by
  obtain ⟨parts, hparts, rfl⟩ := h
  induction hsub generalizing parts with
  | slnil =>
    cases hparts
    exact ⟨[], .nil, .refl _⟩
  | cons exchange _ ih =>
    cases hparts with
    | cons hpart hrest =>
      obtain ⟨parts', hparts', hsub'⟩ := ih _ hrest
      exact ⟨parts', hparts', hsub'.trans (List.sublist_append_right _ _)⟩
  | cons_cons exchange _ ih =>
    cases hparts with
    | cons hpart hrest =>
      obtain ⟨parts', hparts', hsub'⟩ := ih _ hrest
      exact ⟨_ :: parts', .cons hpart hparts', List.Sublist.append (.refl _) hsub'⟩

end

end

end OncallGateway
