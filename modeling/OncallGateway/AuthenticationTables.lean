import OncallGateway.AuthenticationState
import OncallGateway.Lib.Recording

/-! # Authentication over the tables

Any number of service instances, and whoever else writes to the tables, share the tables of
principals, credentials and reservations.  The state may change between any two statements of
a call of `Authenticate`, and each of its statements may fail.

A call that returns a principal has found the tables, one after the other, in states that
allow it: bound to its audience, with a credential that is usable, without the nonce, which it
has inserted, and with a principal that may use the intake (`authenticated_from_tables`).  A
call that refuses the request, or forbids it, has a ground for it in the request or in the
tables as they were (`refused_with_ground`); a database that fails is never one.
-/

namespace OncallGateway

section
variable {ν : Type}

/-! ## What a refusal rests on -/

section
variable [ErrorGraph ν]

/-- The ground on which a request is refused, in the exchanges of a call. -/
inductive Refusal (hmac : KeyedHash) (sha256 : Hash)
    (service : AuthenticationService) (request : AuthenticationRequest)
    (exchanges : List (AuthenticationExchange ν)) : Prop
  | malformed (parses : parseRequest request = .error .errAuthenticationFailed)
  | unregistered {parsed : ParsedRequest} {err : GoError ν}
      (parses : parseRequest request = .ok parsed)
      (answered : ⟨.credential service.configuredAudience parsed.credentialID, .error err⟩ ∈
        exchanges)
      (missing : err.singleCauseMatches .errCredentialNotFound = true)
  | unusable {parsed : ParsedRequest} {credential : Credential} {now : Time}
      (parses : parseRequest request = .ok parsed) (clock : ⟨.clock, now⟩ ∈ exchanges)
      (answered : ⟨.credential service.configuredAudience parsed.credentialID, .ok credential⟩ ∈
        exchanges)
      (unusable : ¬ credential.UsableAt now)
  | unsigned {parsed : ParsedRequest} {secret : Bytes 32}
      (parses : parseRequest request = .ok parsed)
      (answered : ⟨.authenticationSecret service.configuredAudience parsed.credentialID,
        .ok secret⟩ ∈ exchanges)
      (differs : requestMAC hmac sha256 (formatUUID service.configuredAudience) parsed secret ≠
        parsed.signature)
  | untimely {parsed : ParsedRequest} {now : Time} (parses : parseRequest request = .ok parsed)
      (clock : ⟨.clock, now⟩ ∈ exchanges)
      (window : timestampWithinWindow now.unix.toNat parsed.timestamp = false)
  | replayed {parsed : ParsedRequest} {credential : Credential} {now : Time}
      (parses : parseRequest request = .ok parsed)
      (answered : ⟨.credential service.configuredAudience parsed.credentialID, .ok credential⟩ ∈
        exchanges)
      (reserved : ⟨.reserve credential.recordID parsed.nonce now, .ok .duplicate⟩ ∈ exchanges)

/-- The ground on which a request is forbidden: the principal of its credential. -/
inductive Forbidding (service : AuthenticationService) (request : AuthenticationRequest)
    (exchanges : List (AuthenticationExchange ν)) : Prop
  | unauthorized {id : CorePrincipalID} {err : GoError ν}
      (answered : ⟨.principal service.configuredAudience id, .error err⟩ ∈ exchanges)
      (unauthorized : err.singleCauseMatches .errPrincipalNotAuthorized = true)
  | disabled {parsed : ParsedRequest} {credential : Credential} {principal : Principal}
      (parses : parseRequest request = .ok parsed)
      (registered : ⟨.credential service.configuredAudience parsed.credentialID,
        .ok credential⟩ ∈ exchanges)
      (answered : ⟨.principal service.configuredAudience credential.principalID,
        .ok principal⟩ ∈ exchanges)
      (disabled : principal.enabled = false ∨ principal.intakeAuthorized = false)

/-- The two errors that tell of the request have a ground. -/
structure Grounded (hmac : KeyedHash) (sha256 : Hash)
    (service : AuthenticationService) (request : AuthenticationRequest)
    (r : Except AuthenticationError CorePrincipalID)
    (exchanges : List (AuthenticationExchange ν)) : Prop where
  refused : r = .error .errAuthenticationFailed → Refusal hmac sha256 service request exchanges
  forbidden : r = .error .errForbidden → Forbidding service request exchanges

variable {err : AuthenticationError}

omit [ErrorGraph ν] in
theorem parseRequest_error {request : AuthenticationRequest}
    (h : parseRequest request = .error err) :
    err = .errRequestInvalid ∨ err = .errAuthenticationFailed := by
  unfold parseRequest at h
  repeat' split at h
  all_goals cases h <;> simp

namespace AuthenticationService
variable {hmac : KeyedHash} {sha256 : Hash}
  {service : AuthenticationService} {request : AuthenticationRequest}
  {record : List (AuthenticationExchange ν)} {parsed : ParsedRequest}
  {credential : Credential} {now : Time}
variable {exchanges : List (AuthenticationExchange ν)}

/-- Every other error needs none. -/
theorem grounded_error (h : err ≠ .errAuthenticationFailed ∧ err ≠ .errForbidden) :
    Grounded hmac sha256 service request (.error err) exchanges :=
  ⟨fun hr => absurd (Except.error.inj hr) h.1, fun hr => absurd (Except.error.inj hr) h.2⟩

theorem grounded_refused (h : Refusal hmac sha256 service request exchanges) :
    Grounded hmac sha256 service request (.error .errAuthenticationFailed) exchanges :=
  ⟨fun _ => h, by rintro ⟨⟩⟩

section
variable (hparses : parseRequest request = .ok parsed)
include hparses

theorem authorize_grounded
    (hcredential : ⟨.credential service.configuredAudience parsed.credentialID, .ok credential⟩ ∈
      consulted record) :
    (service.authorize credential : AuthenticationProg ν _).wp Prog.recorder
      (fun r record' => Grounded hmac sha256 service request r (consulted record')) record := by
  unfold authorize
  refine wp_consult (fun h => by cases h) fun answer canceled record' hrecord => ?_
  have hmem : ⟨.principal service.configuredAudience credential.principalID, answer⟩ ∈
      consulted record' := by
    rw [hrecord]
    simp
  split
  · exact grounded_error (by decide)
  · split
    · split
      · rename_i hmatches
        exact ⟨by rintro ⟨⟩, fun _ => .unauthorized hmem hmatches⟩
      · exact grounded_error (by decide)
    · split
      · exact grounded_error (by decide)
      · split
        · rename_i hdisabled
          refine ⟨by rintro ⟨⟩, fun _ => .disabled hparses ?_ hmem hdisabled⟩
          rw [hrecord]
          exact List.mem_append_left _ hcredential
        · exact ⟨by rintro ⟨⟩, by rintro ⟨⟩⟩

variable (hclock : ⟨.clock, now⟩ ∈ consulted record)
include hclock

theorem reserveNonce_grounded
    (hcredential : ⟨.credential service.configuredAudience parsed.credentialID, .ok credential⟩ ∈
      consulted record) :
    (service.reserveNonce parsed credential now : AuthenticationProg ν _).wp Prog.recorder
      (fun r record' => Grounded hmac sha256 service request r (consulted record')) record := by
  unfold reserveNonce
  split
  · rename_i hwindow
    exact grounded_refused (.untimely hparses hclock hwindow)
  · rw [Prog.wp_bind]
    refine wp_contextDone fun done record₁ h₁ => ?_
    split
    · exact grounded_error (by decide)
    · refine wp_consult (fun h => by cases h) fun disposition canceled record₂ h₂ => ?_
      have hcredential₂ : ⟨.credential service.configuredAudience parsed.credentialID,
          .ok credential⟩ ∈ consulted record₂ := by
        rw [h₂, h₁]
        exact List.mem_append_left _ hcredential
      split
      · exact grounded_error (by decide)
      · split
        · exact grounded_error (by decide)
        · have hreserve : ⟨.reserve credential.recordID parsed.nonce now, .ok .duplicate⟩ ∈
              consulted record₂ := by
            rw [h₂]
            simp
          exact grounded_refused (.replayed hparses hcredential₂ hreserve)
        · exact authorize_grounded hparses hcredential₂
        · exact grounded_error (by decide)

theorem verify_grounded
    (hcredential : ⟨.credential service.configuredAudience parsed.credentialID, .ok credential⟩ ∈
      consulted record) :
    (verify hmac sha256 service parsed credential now : AuthenticationProg ν _).wp Prog.recorder
      (fun r record' => Grounded hmac sha256 service request r (consulted record')) record := by
  unfold verify
  refine wp_consult (fun h => by cases h) fun answer canceled record₁ h₁ => ?_
  split
  · exact grounded_error (by decide)
  · split
    · exact grounded_error (by decide)
    · split
      · rename_i hdiffers
        refine grounded_refused (.unsigned hparses ?_ hdiffers)
        rw [h₁]
        simp
      · refine reserveNonce_grounded hparses ?_ ?_ <;> rw [h₁]
        · exact List.mem_append_left _ hclock
        · exact List.mem_append_left _ hcredential

theorem identify_grounded :
    (identify hmac sha256 service parsed now : AuthenticationProg ν _).wp Prog.recorder
      (fun r record' => Grounded hmac sha256 service request r (consulted record')) record := by
  unfold identify
  refine wp_consult (fun h => by cases h) fun answer canceled record₁ h₁ => ?_
  have hmem : ⟨.credential service.configuredAudience parsed.credentialID, answer⟩ ∈
      consulted record₁ := by
    rw [h₁]
    simp
  have hclock₁ : ⟨.clock, now⟩ ∈ consulted record₁ := by
    rw [h₁]
    exact List.mem_append_left _ hclock
  split
  · exact grounded_error (by decide)
  · split
    · split
      · rename_i hmatches
        exact grounded_refused (.unregistered hparses hmem hmatches)
      · exact grounded_error (by decide)
    · split
      · exact grounded_error (by decide)
      · split
        · rename_i hunusable
          exact grounded_refused (.unusable hparses hclock₁ hmem hunusable)
        · exact verify_grounded hparses hclock₁ hmem

theorem authenticateAt_grounded :
    (authenticateAt hmac sha256 service parsed now : AuthenticationProg ν _).wp Prog.recorder
      (fun r record' => Grounded hmac sha256 service request r (consulted record')) record := by
  unfold authenticateAt
  split
  · exact grounded_error (by decide)
  · rw [Prog.wp_bind]
    refine wp_contextDone fun done record₁ h₁ => ?_
    split
    · exact grounded_error (by decide)
    · refine wp_consult (fun h => by cases h) fun bound canceled record₂ h₂ => ?_
      split
      · exact grounded_error (by decide)
      · split
        · exact grounded_error (by decide)
        · split
          · exact grounded_error (by decide)
          · refine identify_grounded hparses ?_
            rw [h₂, h₁]
            exact List.mem_append_left _ hclock

end

/-- **A request is refused or forbidden on a ground only**, whatever the dependencies answer. -/
theorem authenticate_grounded :
    (authenticate hmac sha256 service request : AuthenticationProg ν _).wp Prog.recorder
      (fun r record => Grounded hmac sha256 service request r (consulted record)) [] := by
  rw [authenticate, Prog.wp_bind]
  refine wp_contextDone fun done record₁ h₁ => ?_
  split
  · exact grounded_error (by decide)
  · split
    · rename_i err hparses
      rcases parseRequest_error hparses with rfl | rfl
      · exact grounded_error (by decide)
      · exact grounded_refused (.malformed hparses)
    · rename_i parsed hparses
      rw [Prog.wp_bind, Prog.wp_record]
      intro now
      refine authenticateAt_grounded hparses ?_
      rw [consulted_split (fun h => by cases h)]
      simp

end AuthenticationService

end

/-! ## The tables -/

/-- What an insertion may answer, and do: it is confirmed by the row it returns, it does
nothing if the key is there, and if it fails it may have been made. -/
inductive InsertAnswer (s : ReplayStore) (row : ReplayReservation) :
    RowAnswer (GoError ν) Bool → ReplayStore → Prop
  | confirmed (fresh : row.key ∉ s.keys) :
      InsertAnswer s row (.scanned (.ok true)) (s.insert row fresh)
  | noRows (present : row.key ∈ s.keys) :
      InsertAnswer s row (.scanned (.error (.sentinel .pgxErrNoRows))) s
  | failed {answer : RowAnswer (GoError ν) Bool} (unconfirmed : answer ≠ .scanned (.ok true))
      (fault : answer ≠ .scanned (.error (.sentinel .pgxErrNoRows))) : InsertAnswer s row answer s
  | late {answer : RowAnswer (GoError ν) Bool} (unconfirmed : answer ≠ .scanned (.ok true))
      (fault : answer ≠ .scanned (.error (.sentinel .pgxErrNoRows))) (fresh : row.key ∉ s.keys) :
      InsertAnswer s row answer (s.insert row fresh)

/-- What a call does to the tables. -/
def tablesAct (s : AuthenticationTables) :
    (call : StateCall) → call.Answer (GoError ν) → AuthenticationTables → Prop
  | .replay (.insert row), answer, s' => s'.security = s.security ∧
    InsertAnswer s.reservations row answer s'.reservations
  | .replay _, _, s' => s' = s
  | .selectBoundAudience, answer, s' => s' = s ∧
    SelectAnswer (some s.security.boundAudienceRecord) answer
  | .selectCredential audience id, answer, s' => s' = s ∧
    SelectAnswer (s.security.credentialRecord audience id) answer
  | .selectPrincipal audience id, answer, s' => s' = s ∧
    SelectAnswer (s.security.principalRecord audience id) answer
  | .administer tables, _, s' => s' = tables

/-- The processes share the tables, and each keeps the record of its calls. -/
def tablesShared (ν : Type) : Shared StateCall (StateCall.Answer (GoError ν)) AuthenticationTables
    (List (StateExchange ν)) where
  act s record call answer record' s' := record' = record ++ [⟨call, answer⟩] ∧
    tablesAct s call answer s'
  pre _ _ _ := True
  rely _ _ _ := True
  compatible _ _ := True

theorem tables_recording : (tablesShared ν).Recording := fun _ _ _ _ _ _ h => h.1

/-- The state of a number of processes, of which some are calls of `Authenticate`. -/
abbrev TablesConfig (ν ι : Type) := Shared.Config StateCall (StateCall.Answer (GoError ν))
  AuthenticationTables (List (StateExchange ν))
  (List (AuthenticationExchange ν) × Except AuthenticationError CorePrincipalID) ι

/-- One state of the processes comes before another. -/
def TablesConfig.Reaches {ι : Type} (c c' : TablesConfig ν ι) : Prop :=
  ∃ is, Run (tablesShared ν).Step c is c'

/-! ## What a statement tells of the tables -/

variable {id : CredentialID}

section
variable {s s' : AuthenticationTables} {audience : GatewayAudienceID}

/-- The audience that was read is bound. -/
theorem tablesAct_boundAudience {record : BoundAudienceRecord}
    (h : tablesAct (ν := ν) s .selectBoundAudience (.scanned (.ok record)) s')
    (haudience : record.audience = some audience) :
    ∃ row ∈ s.security.realm, row.gatewayAudienceID = audience := by
  cases h.2.eq_some
  exact SecurityTables.audience_eq_some.mp haudience

/-- The credential that was read is there. -/
theorem tablesAct_credential {record : CredentialRecord} {credential : Credential}
    (h : tablesAct (ν := ν) s (.selectCredential audience id) (.scanned (.ok record)) s')
    (hcredential : record.credential audience id = .ok credential) :
    ∃ row ∈ s.security.credentials, row.credentialID = id ∧ row.gatewayAudienceID = audience ∧
      row.Holds credential :=
  SecurityTables.credential_sound h.2.eq_some hcredential

/-- The credential that was not found is not there. -/
theorem tablesAct_noCredential (h : tablesAct (ν := ν) s (.selectCredential audience id)
      (.scanned (.error (.sentinel .pgxErrNoRows))) s') :
    ∀ row ∈ s.security.credentials, row.credentialID ≠ id :=
  SecurityTables.credentialRecord_eq_none h.2.eq_none

/-- The principal that was read is there. -/
theorem tablesAct_principal {id : CorePrincipalID} {record : PrincipalRecord}
    {principal : Principal}
    (h : tablesAct (ν := ν) s (.selectPrincipal audience id) (.scanned (.ok record)) s')
    (hprincipal : record.principal audience id = .ok principal) :
    ∃ row ∈ s.security.principals, row.corePrincipalID = id ∧ row.gatewayAudienceID = audience ∧
      row.Holds principal :=
  SecurityTables.principal_sound h.2.eq_some hprincipal

variable {row : ReplayReservation}

/-- What is confirmed was not there, and then was. -/
theorem tablesAct_inserted
    (h : tablesAct (ν := ν) s (.replay (.insert row)) (.scanned (.ok true)) s') :
    row.key ∉ s.reservations.keys ∧ row.key ∈ s'.reservations.keys := by
  obtain ⟨-, hinserted⟩ := h
  generalize s'.reservations = reservations at hinserted
  cases hinserted with
  | confirmed fresh => exact ⟨fresh, List.mem_cons_self⟩
  | failed unconfirmed => exact absurd rfl unconfirmed
  | late unconfirmed => exact absurd rfl unconfirmed

/-- What is a duplicate was there. -/
theorem tablesAct_duplicate (h : tablesAct (ν := ν) s (.replay (.insert row))
      (.scanned (.error (.sentinel .pgxErrNoRows))) s') : row.key ∈ s.reservations.keys := by
  obtain ⟨-, hinserted⟩ := h
  generalize s'.reservations = reservations at hinserted
  cases hinserted with
  | noRows present => exact present
  | failed _ fault => exact absurd rfl fault
  | late _ fault => exact absurd rfl fault

end

/-! ## Tables that are left alone -/

/-- The tables with a reservation of a new key. -/
def AuthenticationTables.insert (s : AuthenticationTables) (row : ReplayReservation)
    (h : row.key ∉ s.reservations.keys) : AuthenticationTables :=
  { s with reservations := s.reservations.insert row h }

/-- What each call answers and does when nothing fails and no one else writes to the tables;
`outside` are the answers of the context, the clock and the secrets. -/
def calmAnswer (outside : (call : AuthenticationCall) → call.Answer (GoError ν))
    (s : AuthenticationTables) : (call : StateCall) → call.Answer (GoError ν) × AuthenticationTables
  | .replay (.outside call) => (outside call, s)
  | .replay .contextErr => ((none : Option (GoError ν)), s)
  | .replay .acquire => (Session.Opened.opened, s)
  | .replay (.insert row) =>
    if h : row.key ∉ s.reservations.keys then
      (.scanned (.ok true), s.insert row h)
    else (.scanned (.error (.sentinel .pgxErrNoRows)), s)
  | .replay .release => ((), s)
  | .replay .destroy => ((), s)
  | .selectBoundAudience => (.scanned (.ok s.security.boundAudienceRecord), s)
  | .selectCredential audience id => (selected (s.security.credentialRecord audience id), s)
  | .selectPrincipal audience id => (selected (s.security.principalRecord audience id), s)
  | .administer tables => ((), tables)

theorem calmAnswer_act (outside : (call : AuthenticationCall) → call.Answer (GoError ν))
    (s : AuthenticationTables) (call : StateCall) :
    tablesAct s call (calmAnswer outside s call).1 (calmAnswer outside s call).2 := by
  cases call with
  | replay call =>
    cases call with
    | insert row =>
      by_cases h : row.key ∉ s.reservations.keys
      · have hinsert : calmAnswer outside s (.replay (.insert row)) = _ := dif_pos h
        rw [hinsert]
        exact ⟨rfl, .confirmed h⟩
      · have hinsert : calmAnswer outside s (.replay (.insert row)) = _ := dif_neg h
        rw [hinsert]
        exact ⟨rfl, .noRows (not_not.mp h)⟩
    | outside | contextErr | acquire | release | destroy => rfl
  | selectBoundAudience => exact ⟨rfl, .found rfl⟩
  | selectCredential audience id => exact ⟨rfl, selected_answer _⟩
  | selectPrincipal audience id => exact ⟨rfl, selected_answer _⟩
  | administer tables => rfl

/-- The same, with the record of the calls. -/
def calmStep (outside : (call : AuthenticationCall) → call.Answer (GoError ν))
    (p : AuthenticationTables × List (StateExchange ν)) (call : StateCall) :
    call.Answer (GoError ν) × (AuthenticationTables × List (StateExchange ν)) :=
  let (answer, s) := calmAnswer outside p.1 call
  (answer, s, p.2 ++ [⟨call, answer⟩])

theorem calmStep_act (outside : (call : AuthenticationCall) → call.Answer (GoError ν))
    (p : AuthenticationTables × List (StateExchange ν)) (call : StateCall) :
    (tablesShared ν).act p.1 p.2 call (calmStep outside p call).1 (calmStep outside p call).2.2
      (calmStep outside p call).2.1 :=
  ⟨rfl, calmAnswer_act outside p.1 call⟩

instance : DecidableRel (tablesShared ν).compatible := fun _ _ => isTrue trivial

/-- The context is not done, the clock reads ten seconds after the timestamp of `sampleSigned`,
and there is one secret. -/
def sampleSurroundings : (call : AuthenticationCall) → call.Answer (GoError RepositoryError)
  | .contextErr => (none : Option (GoError RepositoryError))
  | .clock => (⟨(62135596800 + 1700000010) * 1000000000⟩ : Time)
  | .authenticationSecret _ _ => .ok (Bytes.fill 32 6)
  | .boundAudience => .error (.foreign .audienceUnavailable)
  | .credential _ _ => .error (.foreign .stateUnavailable)
  | .reserve _ _ _ => .error (.foreign .stateUnavailable)
  | .principal _ _ => .error (.foreign .stateUnavailable)

/-- Two calls for `sampleSigned 1` with `sampleSecurity`, before their first steps. -/
def sampleTablesCalls (enabled : Bool) : TablesConfig RepositoryError (Fin 2) where
  shared := ⟨sampleSecurity enabled, ⟨[], List.nodup_nil⟩⟩
  locals _ := []
  progs _ := authenticateState sampleSignature sampleSha256 sampleInstance (sampleSigned 1)

/-- The two calls in turns, until both have returned. -/
def sampleTablesTurns : List (Fin 2) := (List.replicate 28 [0, 1]).flatten ++ List.replicate 4 0

/-- The two calls after those steps. -/
def sampleTablesRun (enabled : Bool) : TablesConfig RepositoryError (Fin 2) :=
  (sampleTablesCalls enabled).follow (calmStep sampleSurroundings) sampleTablesTurns

/-! ## Calls among other processes -/

section
variable [SecurityErrors ν] {ι : Type} {hmac : KeyedHash}
  {sha256 : Hash} {service : AuthenticationService}
  {request : AuthenticationRequest} {c₀ c : TablesConfig ν ι} {is : List ι} {i : ι}

/-- Process `i` is a call of `Authenticate` that has not begun.  The other processes are
anything. -/
structure TablesConfig.Begins (c : TablesConfig ν ι) (i : ι)
    (hmac : KeyedHash) (sha256 : Hash)
    (service : AuthenticationService) (request : AuthenticationRequest) : Prop where
  prog : c.progs i = authenticateState hmac sha256 service request
  record : c.locals i = []

theorem sampleTablesCalls_begins (enabled : Bool) (i : Fin 2) : (sampleTablesCalls enabled).Begins i
    sampleSignature sampleSha256 sampleInstance (sampleSigned 1) := ⟨rfl, rfl⟩

theorem sampleTablesRun_run (enabled : Bool) : Run (tablesShared RepositoryError).Step
    (sampleTablesCalls enabled) sampleTablesTurns (sampleTablesRun enabled) := by
  refine Shared.run_follow (calmStep_act sampleSurroundings) ?_
  cases enabled <;> decide +kernel

/-- The tables behind a principal: in the states that the call has found one after the other,
the realm is bound to the audience, the credential is there and usable, the nonce is not
there and is inserted, and the principal is there and may use the intake. -/
structure BackedByTables (service : AuthenticationService) (parsed : ParsedRequest) (now : Time)
    (id : CorePrincipalID) (s₁ s₂ s₃ s₃' s₄ : AuthenticationTables) (row : CredentialRow)
    (credential : Credential) (principalRow : PrincipalRow) : Prop where
  bound : ∃ realmRow ∈ s₁.security.realm, realmRow.gatewayAudienceID = service.configuredAudience
  registered : row ∈ s₂.security.credentials ∧ row.credentialID = parsed.credentialID ∧
    row.gatewayAudienceID = service.configuredAudience ∧ row.Holds credential
  usable : credential.UsableAt now
  reserved : (row.credentialRecordID, parsed.nonce) ∉ s₃.reservations.keys ∧
    (row.credentialRecordID, parsed.nonce) ∈ s₃'.reservations.keys
  owner : row.corePrincipalID = id ∧ principalRow ∈ s₄.security.principals ∧
    principalRow.corePrincipalID = id ∧
    principalRow.gatewayAudienceID = service.configuredAudience
  authorized : principalRow.enabled = true ∧ principalRow.gatewayIntakeV1Authorized = true

variable {upper : List (AuthenticationExchange ν)}

theorem TablesConfig.Begins.ended (hstart : c₀.Begins i hmac sha256 service request)
    (hrun : Run (tablesShared ν).Step c₀ is c) {r : Except AuthenticationError CorePrincipalID}
    (hi : c.progs i = .ret (upper, r))
    {Q : Except AuthenticationError CorePrincipalID → List (AuthenticationExchange ν) → Prop}
    (h : (service.authenticate hmac sha256 request).wp Prog.recorder Q []) :
    Carried upper (c.locals i) ∧ Q r upper := by
  have hwp : (c₀.progs i).wp Prog.recorder
      (fun last lower => Carried last.1 lower ∧ Q last.2 last.1) (c₀.locals i) := by
    rw [hstart.prog, hstart.record]
    exact wp_authenticateState h
  exact tables_recording.ended hrun hwp hi

/-- What the record of a call holds was answered at steps of the run, in its order. -/
theorem TablesConfig.Begins.visits (hstart : c₀.Begins i hmac sha256 service request)
    (hrun : Run (tablesShared ν).Step c₀ is c) {exchanges : List (StateExchange ν)}
    (hsub : exchanges.Sublist (c.locals i)) : (tablesShared ν).Visits i c₀ exchanges c :=
  tables_recording.visits hrun (by rw [hstart.record, List.nil_append]) hsub

/-- What an exchange of a call rests on is in the record of the call. -/
theorem Carried.answered {upper : List (AuthenticationExchange ν)}
    {lower : List (StateExchange ν)} (h : Carried upper lower)
    {exchange : AuthenticationExchange ν} (hmem : exchange ∈ consulted upper) :
    ∃ part, Answered exchange.1 exchange.2 part ∧ part ⊆ lower := by
  obtain ⟨parts, hparts, hflat⟩ :=
    h.sublist (List.singleton_sublist.mpr (mem_of_mem_consulted hmem))
  simp only [List.forall₂_cons_left_iff, List.forall₂_nil_left_iff] at hparts
  obtain ⟨part, _, hpart, rfl, rfl⟩ := hparts
  refine ⟨part, hpart, fun x hx => hflat.subset ?_⟩
  simpa using hx

variable {audience : GatewayAudienceID}

/-- The statements behind the exchanges of a call that returns a principal, in their order. -/
theorem Carried.statements {lower : List (StateExchange ν)} (h : Carried upper lower)
    {credential : Credential} {secret : Bytes 32} {nonce : Bytes 16} {now : Time}
    {principal : Principal}
    (hupper : consulted upper = [⟨.clock, now⟩, ⟨.boundAudience, .ok audience⟩,
      ⟨.credential audience id, .ok credential⟩, ⟨.authenticationSecret audience id, .ok secret⟩,
      ⟨.reserve credential.recordID nonce now, .ok .reserved⟩,
      ⟨.principal audience credential.principalID, .ok principal⟩]) :
    ∃ realmRecord credentialRecord principalRecord,
      realmRecord.audience = some audience ∧
      credentialRecord.credential audience id = .ok credential ∧
      principalRecord.principal audience credential.principalID = .ok principal ∧
      List.Sublist [⟨.selectBoundAudience, .scanned (.ok realmRecord)⟩,
        ⟨.selectCredential audience id, .scanned (.ok credentialRecord)⟩,
        ⟨.replay (.outside (.authenticationSecret audience id)), .ok secret⟩,
        ⟨.replay (.insert (replayReservation credential.recordID nonce now)),
          .scanned (.ok true)⟩,
        ⟨.selectPrincipal audience credential.principalID, .scanned (.ok principalRecord)⟩]
        lower := by
  have hsub : (consulted upper).Sublist upper := List.filter_sublist
  rw [hupper] at hsub
  obtain ⟨parts, hparts, hflat⟩ := h.sublist hsub
  simp only [List.forall₂_cons_left_iff, List.forall₂_nil_left_iff] at hparts
  obtain ⟨clockPart, _, -, ⟨boundPart, _, hbound, ⟨credentialPart, _, hcredential,
    ⟨secretPart, _, hsecret, ⟨reservePart, _, hreserve, ⟨principalPart, _, hprincipal, rfl, rfl⟩,
    rfl⟩, rfl⟩, rfl⟩, rfl⟩, rfl⟩ := hparts
  obtain ⟨realmRecord, hrealm, haudience⟩ := hbound audience rfl
  obtain ⟨credentialRecord, hselected, hread⟩ := hcredential.1 credential rfl
  obtain ⟨principalRecord, hselected', hread'⟩ := hprincipal.1 principal rfl
  refine ⟨realmRecord, credentialRecord, principalRecord, haudience, hread, hread', ?_⟩
  have hone : ∀ {x : StateExchange ν} {part : List (StateExchange ν)}, x ∈ part →
      [x].Sublist part := List.singleton_sublist.mpr
  have hsecret : ⟨.replay (.outside (.authenticationSecret audience id)), .ok secret⟩ ∈
      secretPart := by
    rw [hsecret]
    exact List.mem_singleton_self _
  refine List.Sublist.trans ?_ hflat
  exact (List.nil_sublist clockPart).append ((hone hrealm).append ((hone hselected).append
    ((hone hsecret).append ((hone (hreserve.1 rfl)).append ((hone hselected').append
      (List.nil_sublist []))))))

/-- **A principal is returned for what the tables hold.**  A call of `Authenticate` that
returns a principal, among any other processes and whatever fails, has found the tables in
states that allow it at the time that its clock has read. -/
theorem authenticated_from_tables (hstart : c₀.Begins i hmac sha256 service request)
    (hrun : Run (tablesShared ν).Step c₀ is c) {upper : List (AuthenticationExchange ν)}
    {id : CorePrincipalID} (hi : c.progs i = .ret (upper, .ok id)) :
    ∃ parsed secret now row credential principalRow, ∃ c₁ c₂ c₃ c₃' c₄ : TablesConfig ν ι,
      c₀.Reaches c₁ ∧ c₁.Reaches c₂ ∧ c₂.Reaches c₃ ∧ (tablesShared ν).Step c₃ i c₃' ∧
      c₃'.Reaches c₄ ∧ c₄.Reaches c ∧
      parseRequest request = .ok parsed ∧ ⟨.replay (.outside .clock), now⟩ ∈ c.locals i ∧
      ⟨.replay (.outside (.authenticationSecret service.configuredAudience parsed.credentialID)),
        .ok secret⟩ ∈ c.locals i ∧
      requestMAC hmac sha256 (formatUUID service.configuredAudience) parsed secret =
        parsed.signature ∧
      timestampWithinWindow now.unix.toNat parsed.timestamp = true ∧
      BackedByTables service parsed now id c₁.shared c₂.shared c₃.shared c₃'.shared c₄.shared row
        credential principalRow := by
  obtain ⟨hcarried, hcourse⟩ := hstart.ended hrun hi AuthenticationService.wp_course
  generalize hexchanges : consulted upper = exchanges at hcourse
  cases hcourse with
  | @authorizing _ parsed credential secret now _ answer verified authorized =>
    obtain ⟨principal, rfl, hauthorized, rfl⟩ := authorized id rfl
    rw [verified.exchanges_eq] at hexchanges
    obtain ⟨realmRecord, credentialRecord, principalRecord, haudience, hcredential, hprincipal,
      hsub⟩ := hcarried.statements hexchanges
    have hsecret := hsub.subset (List.mem_cons_of_mem _ (List.mem_cons_of_mem _
      List.mem_cons_self))
    have hclock : ⟨.replay (.outside .clock), now⟩ ∈ c.locals i := by
      obtain ⟨part, hpart, hsubset⟩ := hcarried.answered
        (show ⟨.clock, now⟩ ∈ consulted upper by rw [hexchanges]; exact List.mem_cons_self)
      exact hsubset (by rw [hpart]; exact List.mem_singleton_self _)
    -- the states in which the statements were made
    cases hstart.visits hrun hsub with
    | @cons _ c₁ c₁' _ _ _ _ _ run₁ step₁ act₁ rest₁ =>
    cases rest₁ with
    | @cons _ c₂ c₂' _ _ _ _ _ run₂ step₂ act₂ rest₂ =>
    cases rest₂ with
    | @cons _ c₃ c₃' _ _ _ _ _ run₃ step₃ act₃ rest₃ =>
    cases rest₃ with
    | @cons _ c₄ c₄' _ _ _ _ _ run₄ step₄ act₄ rest₄ =>
    cases rest₄ with
    | @cons _ c₅ c₅' _ _ _ _ _ run₅ step₅ act₅ rest₅ =>
    cases rest₅ with
    | @nil _ _ _ run₆ =>
    obtain ⟨row, hrow, hid, hrowAudience, hholds⟩ := tablesAct_credential act₂.2 hcredential
    obtain ⟨principalRow, hmem, hprincipalID, hprincipalAudience, hholds'⟩ :=
      tablesAct_principal act₅.2 hprincipal
    obtain ⟨state, hstate, rfl⟩ := hholds
    cases hholds'
    refine ⟨parsed, secret, now, row, _, principalRow, c₁, c₂, c₄, c₄', c₅, ⟨_, run₁⟩,
      ⟨_, .cons step₁ run₂⟩, ⟨_, .cons step₂ (run₃.append (.cons step₃ run₄))⟩, step₄, ⟨_, run₅⟩,
      ⟨_, .cons step₅ run₆⟩, verified.parses, hclock, hsecret, verified.signature, verified.window,
      tablesAct_boundAudience act₁.2 haudience, ⟨hrow, hid, hrowAudience, state, hstate, rfl⟩,
      verified.usable, tablesAct_inserted act₄.2, ⟨?_, hmem, ?_, hprincipalAudience⟩,
      hauthorized.enabled, hauthorized.intake⟩
    · exact hauthorized.id.symm
    · exact rfl

/-- Of the two calls the first is given the principal. -/
theorem authenticated_from_tables_sample : ∃ upper parsed now row credential principalRow,
    (sampleTablesRun true).progs 0 = .ret (upper, .ok (Bytes.fill 16 2)) ∧
    ⟨.replay (.outside .clock), now⟩ ∈ (sampleTablesRun true).locals 0 ∧
    ∃ s₁ s₂ s₃ s₃' s₄, BackedByTables sampleInstance parsed now (Bytes.fill 16 2) s₁ s₂ s₃ s₃' s₄
      row credential principalRow := by
  have hvalue : ((sampleTablesRun true).progs 0).value?.map Prod.snd =
      some (.ok (Bytes.fill 16 2)) := by decide +kernel
  obtain ⟨⟨upper, outcome⟩, hlast, rfl⟩ := Option.map_eq_some_iff.mp hvalue
  have hended := Prog.eq_ret_of_value? hlast
  obtain ⟨parsed, _, now, row, credential, principalRow, c₁, c₂, c₃, c₃', c₄, -, -, -, -, -, -, -,
    hclock, -, -, -, hbacked⟩ := authenticated_from_tables (sampleTablesCalls_begins true 0)
      (sampleTablesRun_run true) hended
  exact ⟨upper, parsed, now, row, credential, principalRow, hended, hclock, _, _, _, _, _,
    hbacked⟩

/-- The ground on which a request is refused, in the tables as they were at points of the
run. -/
inductive TablesRefusal (hmac : KeyedHash)
    (sha256 : Hash) (service : AuthenticationService)
    (request : AuthenticationRequest) (c₀ c : TablesConfig ν ι) (i : ι) : Prop
  | malformed (parses : parseRequest request = .error .errAuthenticationFailed)
  | unregistered {parsed : ParsedRequest} {c₁ : TablesConfig ν ι}
      (parses : parseRequest request = .ok parsed) (before : c₀.Reaches c₁)
      (after : c₁.Reaches c)
      (missing : ∀ row ∈ c₁.shared.security.credentials, row.credentialID ≠ parsed.credentialID)
  | unusable {parsed : ParsedRequest} {c₁ : TablesConfig ν ι} {row : CredentialRow}
      {credential : Credential} {now : Time} (parses : parseRequest request = .ok parsed)
      (before : c₀.Reaches c₁) (after : c₁.Reaches c)
      (clock : ⟨.replay (.outside .clock), now⟩ ∈ c.locals i)
      (registered : row ∈ c₁.shared.security.credentials ∧
        row.credentialID = parsed.credentialID ∧ row.Holds credential)
      (unusable : ¬ credential.UsableAt now)
  | unsigned {parsed : ParsedRequest} {secret : Bytes 32}
      (parses : parseRequest request = .ok parsed)
      (answered : ⟨.replay (.outside (.authenticationSecret service.configuredAudience
        parsed.credentialID)), .ok secret⟩ ∈ c.locals i)
      (differs : requestMAC hmac sha256 (formatUUID service.configuredAudience) parsed secret ≠
        parsed.signature)
  | untimely {parsed : ParsedRequest} {now : Time} (parses : parseRequest request = .ok parsed)
      (clock : ⟨.replay (.outside .clock), now⟩ ∈ c.locals i)
      (window : timestampWithinWindow now.unix.toNat parsed.timestamp = false)
  | replayed {parsed : ParsedRequest} {c₁ c₂ : TablesConfig ν ι} {row : CredentialRow}
      (parses : parseRequest request = .ok parsed)
      (first : c₀.Reaches c₁ ∧ c₁.Reaches c) (second : c₀.Reaches c₂ ∧ c₂.Reaches c)
      (registered : row ∈ c₁.shared.security.credentials ∧
        row.credentialID = parsed.credentialID)
      (present : (row.credentialRecordID, parsed.nonce) ∈ c₂.shared.reservations.keys)

/-- A statement that a call has made, and the state in which it was made. -/
theorem TablesConfig.Begins.visited (hstart : c₀.Begins i hmac sha256 service request)
    (hrun : Run (tablesShared ν).Step c₀ is c) {call : StateCall}
    {answer : call.Answer (GoError ν)} (hmem : ⟨call, answer⟩ ∈ c.locals i) :
    ∃ (c₁ : TablesConfig ν ι) (s' : AuthenticationTables), c₀.Reaches c₁ ∧ c₁.Reaches c ∧
      tablesAct c₁.shared call answer s' := by
  obtain ⟨c₁, c₂, _, _, hbefore, hstep, hafter, hact⟩ := tables_recording.visited hrun
    (by rw [hstart.record, List.nil_append]) hmem
  exact ⟨c₁, c₂.shared, ⟨_, hbefore⟩, ⟨_, .cons hstep hafter⟩, hact.2⟩

/-- A credential that a call was answered with was in the tables. -/
theorem TablesConfig.Begins.credentialRead (hstart : c₀.Begins i hmac sha256 service request)
    (hrun : Run (tablesShared ν).Step c₀ is c) (hcarried : Carried upper (c.locals i))
    {credential : Credential} (hmem : ⟨.credential audience id, .ok credential⟩ ∈ consulted upper) :
    ∃ (c₁ : TablesConfig ν ι) (row : CredentialRow), c₀.Reaches c₁ ∧ c₁.Reaches c ∧
      row ∈ c₁.shared.security.credentials ∧ row.credentialID = id ∧
      row.gatewayAudienceID = audience ∧ row.Holds credential := by
  obtain ⟨part, hpart, hsub⟩ := hcarried.answered hmem
  obtain ⟨record, hselected, hread⟩ := hpart.1 _ rfl
  obtain ⟨c₁, _, hbefore, hafter, hact⟩ := hstart.visited hrun (hsub hselected)
  obtain ⟨row, hrow, hid, haudience, hholds⟩ := tablesAct_credential hact hread
  exact ⟨c₁, row, hbefore, hafter, hrow, hid, haudience, hholds⟩

/-- **A request is refused or forbidden on a ground in the request or in the tables.**  A call
of `Authenticate` that answers with one of these two errors, among any other processes, has
found the ground at some point of the run; no failure of the database leads to them. -/
theorem refused_with_ground (hstart : c₀.Begins i hmac sha256 service request)
    (hrun : Run (tablesShared ν).Step c₀ is c) {upper : List (AuthenticationExchange ν)}
    {r : Except AuthenticationError CorePrincipalID} (hi : c.progs i = .ret (upper, r)) :
    (r = .error .errAuthenticationFailed →
      TablesRefusal hmac sha256 service request c₀ c i) ∧
    (r = .error .errForbidden → ∃ parsed, ∃ c₁ c₂ : TablesConfig ν ι,
      parseRequest request = .ok parsed ∧ c₀.Reaches c₁ ∧ c₁.Reaches c ∧ c₀.Reaches c₂ ∧
      c₂.Reaches c ∧ ∃ row ∈ c₁.shared.security.credentials,
        row.credentialID = parsed.credentialID ∧ ∃ principalRow ∈ c₂.shared.security.principals,
          principalRow.corePrincipalID = row.corePrincipalID ∧
          (principalRow.enabled = false ∨ principalRow.gatewayIntakeV1Authorized = false)) := by
  obtain ⟨hcarried, hgrounded⟩ := hstart.ended hrun hi AuthenticationService.authenticate_grounded
  refine ⟨fun hr => ?_, fun hr => ?_⟩
  · cases hgrounded.refused hr with
    | malformed parses => exact .malformed parses
    | unregistered parses answered missing =>
      obtain ⟨part, hpart, hsub⟩ := hcarried.answered answered
      obtain ⟨c₁, _, hbefore, hafter, hact⟩ :=
        hstart.visited hrun (hsub (hpart.2 _ rfl missing))
      exact .unregistered parses hbefore hafter (tablesAct_noCredential hact)
    | unusable parses clock answered unusable =>
      obtain ⟨clockPart, hclock, hsubClock⟩ := hcarried.answered clock
      obtain ⟨c₁, row, hbefore, hafter, hrow, hid, -, hholds⟩ :=
        hstart.credentialRead hrun hcarried answered
      refine .unusable parses hbefore hafter (hsubClock ?_) ⟨hrow, hid, hholds⟩ unusable
      rw [hclock]
      exact List.mem_singleton_self _
    | unsigned parses answered differs =>
      obtain ⟨part, hpart, hsub⟩ := hcarried.answered answered
      refine .unsigned parses (hsub ?_) differs
      rw [hpart]
      exact List.mem_singleton_self _
    | untimely parses clock window =>
      obtain ⟨part, hpart, hsub⟩ := hcarried.answered clock
      refine .untimely parses (hsub ?_) window
      rw [hpart]
      exact List.mem_singleton_self _
    | replayed parses answered reserved =>
      obtain ⟨c₁, row, hbefore, hafter, hrow, hid, -, state, -, rfl⟩ :=
        hstart.credentialRead hrun hcarried answered
      obtain ⟨part, hpart, hsub⟩ := hcarried.answered reserved
      obtain ⟨c₂, _, hbefore', hafter', hact⟩ := hstart.visited hrun (hsub (hpart.2.1 rfl))
      exact .replayed parses ⟨hbefore, hafter⟩ ⟨hbefore', hafter'⟩ ⟨hrow, hid⟩
        (tablesAct_duplicate hact)
  · cases hgrounded.forbidden hr with
    | unauthorized answered unauthorized =>
      -- the repository has no such error
      obtain ⟨part, hpart, -⟩ := hcarried.answered answered
      rw [hpart.2 _ rfl] at unauthorized
      cases unauthorized
    | disabled parses registered answered disabled =>
      obtain ⟨c₁, row, hbefore, hafter, hrow, hid, -, state, -, rfl⟩ :=
        hstart.credentialRead hrun hcarried registered
      obtain ⟨part, hpart, hsub⟩ := hcarried.answered answered
      obtain ⟨record, hselected, hread⟩ := hpart.1 _ rfl
      obtain ⟨c₂, _, hbefore', hafter', hact⟩ := hstart.visited hrun (hsub hselected)
      obtain ⟨principalRow, hmem, hprincipal, -, rfl⟩ := tablesAct_principal hact hread
      exact ⟨_, c₁, c₂, parses, hbefore, hafter, hbefore', hafter', row, hrow, hid, principalRow,
        hmem, hprincipal, disabled⟩

/-- The principal is disabled: the first call is forbidden, and the second, which finds the
nonce of the first, is refused. -/
theorem refused_with_ground_sample : ∃ upper upper',
    (sampleTablesRun false).progs 0 = .ret (upper, .error .errForbidden) ∧
    (sampleTablesRun false).progs 1 = .ret (upper', .error .errAuthenticationFailed) ∧
    (∃ c : TablesConfig RepositoryError (Fin 2), ∃ row ∈ c.shared.security.principals,
      row.enabled = false ∨ row.gatewayIntakeV1Authorized = false) ∧
    TablesRefusal sampleSignature sampleSha256 sampleInstance (sampleSigned 1)
      (sampleTablesCalls false) (sampleTablesRun false) 1 := by
  have hvalues : ((sampleTablesRun false).progs 0).value?.map Prod.snd =
        some (.error .errForbidden) ∧
      ((sampleTablesRun false).progs 1).value?.map Prod.snd =
        some (.error .errAuthenticationFailed) := by decide +kernel
  obtain ⟨⟨upper, outcome⟩, hlast, rfl⟩ := Option.map_eq_some_iff.mp hvalues.1
  obtain ⟨⟨upper', outcome'⟩, hlast', rfl⟩ := Option.map_eq_some_iff.mp hvalues.2
  have hended := Prog.eq_ret_of_value? hlast
  have hended' := Prog.eq_ret_of_value? hlast'
  obtain ⟨_, _, c₂, -, -, -, -, -, _, -, -, row, hrow, -, hdisabled⟩ :=
    (refused_with_ground (sampleTablesCalls_begins false 0) (sampleTablesRun_run false)
      hended).2 rfl
  exact ⟨upper, upper', hended, hended', ⟨c₂, row, hrow, hdisabled⟩,
    (refused_with_ground (sampleTablesCalls_begins false 1) (sampleTablesRun_run false) hended').1
      rfl⟩

end

end

end OncallGateway
