import OncallGateway.AuthenticationRequest
import OncallGateway.GoTime
import OncallGateway.Lib.Fallible
import OncallGateway.Lib.Layers
import Mathlib.Data.Set.Function

/-! # The authentication service

`Authenticate` parses a request, asks its dependencies for the bound audience, the
credential and its secret, compares the keyed hash and the timestamp, reserves the nonce
and returns the principal.  Every dependency may answer anything; a call that returns a
principal has been through all of it, in particular through exactly one reservation,
which was granted (`Admission`).

Missing dependencies and a missing context are left out, and so is the dynamic value of an
interface that holds a nil pointer.
-/

namespace OncallGateway

abbrev CorePrincipalID := UUID
abbrev CredentialSlotID := UUID
abbrev CredentialRecordID := UUID

/-- `CredentialState`; `other` is any value that is not one of its constants. -/
inductive CredentialState where
  | disabled | active | retiring | revoked | other
deriving DecidableEq

/-- `Credential`, with what the service reads of it. -/
structure Credential where
  audienceID : GatewayAudienceID
  principalID : CorePrincipalID
  slotID : CredentialSlotID
  recordID : CredentialRecordID
  publicID : CredentialID
  state : CredentialState
  notBefore : Time
  expiresAt : Time
  activatedAt : Time
  retirementDeadline : Time
deriving DecidableEq

/-- `Credential.UsableAt`. -/
def Credential.UsableAt (credential : Credential) (now : Time) : Prop :=
  (credential.state = .active ∨ credential.state = .retiring) ∧
    ¬ (now < credential.notBefore ∨ now < credential.activatedAt ∨ ¬ now < credential.expiresAt) ∧
    (credential.state ≠ .retiring ∨ now < credential.retirementDeadline)

instance Credential.decidableUsableAt (credential : Credential) (now : Time) :
    Decidable (credential.UsableAt now) :=
  inferInstanceAs (Decidable ((credential.state = .active ∨ credential.state = .retiring) ∧
    ¬ (now < credential.notBefore ∨ now < credential.activatedAt ∨ ¬ now < credential.expiresAt) ∧
    (credential.state ≠ .retiring ∨ now < credential.retirementDeadline)))

/-- `Principal`, with what the service reads of it. -/
structure Principal where
  audienceID : GatewayAudienceID
  id : CorePrincipalID
  enabled : Bool
  intakeAuthorized : Bool
deriving DecidableEq

/-- `ReplayReservationDisposition`; `other` is any value that is not one of its constants. -/
inductive ReplayReservationDisposition where
  | reserved | duplicate | other
deriving DecidableEq

/-! ## The dependencies -/

/-- What the service calls: its context, its clock, and the five interfaces. -/
inductive AuthenticationCall where
  | contextErr
  | clock
  | boundAudience
  | credential (audience : GatewayAudienceID) (id : CredentialID)
  | authenticationSecret (audience : GatewayAudienceID) (id : CredentialID)
  | reserve (recordID : CredentialRecordID) (nonce : Bytes 16) (now : Time)
  | principal (audience : GatewayAudienceID) (id : CorePrincipalID)
deriving DecidableEq

/-- Their answers. -/
def AuthenticationCall.Answer (ε : Type) : AuthenticationCall → Type
  | contextErr => Option ε
  | clock => Time
  | boundAudience => Except ε GatewayAudienceID
  | credential _ _ => Except ε Credential
  | authenticationSecret _ _ => Except ε (Bytes 32)
  | reserve _ _ _ => Except ε ReplayReservationDisposition
  | principal _ _ => Except ε Principal

/-- A program of the service. -/
abbrev AuthenticationProg (ν α : Type) :=
  Prog AuthenticationCall (AuthenticationCall.Answer (GoError ν)) α

/-- A call that was made, and its answer. -/
abbrev AuthenticationExchange (ν : Type) := Sigma (AuthenticationCall.Answer (GoError ν))

/-- `authentication.Service`. -/
structure AuthenticationService where
  configuredAudience : GatewayAudienceID
  present : ¬ configuredAudience.IsZero

/-! ## Authenticate -/

section
variable {ν : Type} [ErrorGraph ν]

/-- `errors.Is` with the two errors of a context that is done. -/
def GoError.canceled (err : Option (GoError ν)) : Except Stop Bool :=
  errorsIsAny [.contextCanceled, .contextDeadlineExceeded] err

/-- `contextDone`. -/
def contextDone : AuthenticationProg ν Bool := do
  let err ← Prog.request AuthenticationCall.contextErr
  GoError.canceled err

/-- `dependencyCanceled`. -/
def dependencyCanceled (dependencyErr : Option (GoError ν)) : AuthenticationProg ν Bool := do
  if ← contextDone then return true else GoError.canceled dependencyErr

/-- `credentialRecordValid`. -/
def credentialRecordValid (credential : Credential) (audience : GatewayAudienceID)
    (publicID : CredentialID) : Bool :=
  !decide (credential.publicID ≠ publicID ∨ credential.audienceID ≠ audience ∨
    credential.principalID.IsZero ∨ credential.slotID.IsZero ∨ credential.recordID.IsZero) &&
    decide (credential.state ≠ .other)

/-- `maximumTimestampDifference`. -/
def maximumTimestampDifference : Nat := 60

/-- `timestampWithinWindow`. -/
def timestampWithinWindow (now signed : Nat) : Bool :=
  if signed > now then decide (signed - now ≤ maximumTimestampDifference)
  else decide (now - signed ≤ maximumTimestampDifference)

namespace AuthenticationService
variable (hmac : KeyedHash) (sha256 : Hash)
  (service : AuthenticationService)

/-- `Authenticate` once the nonce is reserved. -/
def authorize (credential : Credential) :
    AuthenticationProg ν (Except AuthenticationError CorePrincipalID) := do
  let principal ← Prog.request
    (AuthenticationCall.principal service.configuredAudience credential.principalID)
  if ← dependencyCanceled (Except.error? principal) then return .error .errCanceled
  else
    match principal with
    | .error err =>
      if err.singleCauseMatches .errPrincipalNotAuthorized then return .error .errForbidden
      else return .error .errUnavailable
    | .ok principal =>
      if principal.id.IsZero ∨ principal.audienceID.IsZero ∨
          principal.id ≠ credential.principalID ∨
          principal.audienceID ≠ service.configuredAudience then
        return .error .errUnavailable
      else if principal.enabled = false ∨ principal.intakeAuthorized = false then
        return .error .errForbidden
      else return .ok principal.id

/-- `Authenticate` once the request is known to be signed. -/
def reserveNonce (parsed : ParsedRequest) (credential : Credential) (now : Time) :
    AuthenticationProg ν (Except AuthenticationError CorePrincipalID) := do
  -- the conversion to an unsigned number is exact: a negative one has been refused
  if timestampWithinWindow now.unix.toNat parsed.timestamp = false then
    return .error .errAuthenticationFailed
  else if ← contextDone then return .error .errCanceled
  else
    let disposition ← Prog.request
      (AuthenticationCall.reserve credential.recordID parsed.nonce now)
    if ← dependencyCanceled (Except.error? disposition) then return .error .errCanceled
    else
      match disposition with
      | .error _ => return .error .errUnavailable
      | .ok .duplicate => return .error .errAuthenticationFailed
      | .ok .reserved => service.authorize credential
      | .ok .other => return .error .errUnavailable

/-- `Authenticate` once the credential is known. -/
def verify (parsed : ParsedRequest) (credential : Credential) (now : Time) :
    AuthenticationProg ν (Except AuthenticationError CorePrincipalID) := do
  let secret ← Prog.request
    (AuthenticationCall.authenticationSecret service.configuredAudience parsed.credentialID)
  if ← dependencyCanceled (Except.error? secret) then return .error .errCanceled
  else
    match secret with
    | .error _ => return .error .errUnavailable
    | .ok secret =>
      if requestMAC hmac sha256 (formatUUID service.configuredAudience) parsed secret ≠
          parsed.signature then
        return .error .errAuthenticationFailed
      else service.reserveNonce parsed credential now

/-- `Authenticate` once the audience is known to be the bound one. -/
def identify (parsed : ParsedRequest) (now : Time) :
    AuthenticationProg ν (Except AuthenticationError CorePrincipalID) := do
  let credential ← Prog.request
    (AuthenticationCall.credential service.configuredAudience parsed.credentialID)
  if ← dependencyCanceled (Except.error? credential) then return .error .errCanceled
  else
    match credential with
    | .error err =>
      if err.singleCauseMatches .errCredentialNotFound then return .error .errAuthenticationFailed
      else return .error .errUnavailable
    | .ok credential =>
      if credentialRecordValid credential service.configuredAudience parsed.credentialID = false then
        return .error .errUnavailable
      else if ¬ credential.UsableAt now then return .error .errAuthenticationFailed
      else verify hmac sha256 service parsed credential now

/-- `Authenticate` once the request is parsed and the clock is read. -/
def authenticateAt (parsed : ParsedRequest) (now : Time) :
    AuthenticationProg ν (Except AuthenticationError CorePrincipalID) := do
  if now = 0 ∨ now.unix < 0 then return .error .errConfigurationInvalid
  else if ← contextDone then return .error .errCanceled
  else
    let bound ← Prog.request AuthenticationCall.boundAudience
    if ← dependencyCanceled (Except.error? bound) then return .error .errCanceled
    else
      match bound with
      | .error _ => return .error .errUnavailable
      | .ok bound =>
        if bound.IsZero ∨ bound ≠ service.configuredAudience then return .error .errUnavailable
        else identify hmac sha256 service parsed now

/-- `Authenticate`; a result is its one field. -/
def authenticate (request : AuthenticationRequest) :
    AuthenticationProg ν (Except AuthenticationError CorePrincipalID) := do
  if ← contextDone then return .error .errCanceled
  else
    match parseRequest request with
    | .error err => return .error err
    | .ok parsed =>
      let now ← Prog.request AuthenticationCall.clock
      authenticateAt hmac sha256 service parsed now

end AuthenticationService

/-! ## What a principal was returned for -/

/-- The reservations of a record: for which credential record, nonce and time each was asked
for, and what was answered. -/
def reservations (record : List (AuthenticationExchange ν)) :
    List (CredentialRecordID × Bytes 16 × Time ×
      Except (GoError ν) ReplayReservationDisposition) :=
  record.filterMap fun
    | ⟨.reserve recordID nonce now, answer⟩ => some (recordID, nonce, now, answer)
    | _ => none

/-- The calls and answers behind a principal. -/
structure Admission (hmac : KeyedHash) (sha256 : Hash)
    (service : AuthenticationService) (request : AuthenticationRequest)
    (record : List (AuthenticationExchange ν)) (parsed : ParsedRequest) (credential : Credential)
    (secret : Bytes 32) (now : Time) : Prop where
  parses : parseRequest request = .ok parsed
  clock : ¬ (now = 0 ∨ now.unix < 0)
  registered : ⟨.credential service.configuredAudience parsed.credentialID, .ok credential⟩ ∈ record
  valid : credentialRecordValid credential service.configuredAudience parsed.credentialID = true
  usable : credential.UsableAt now
  keyed : ⟨.authenticationSecret service.configuredAudience parsed.credentialID, .ok secret⟩ ∈
    record
  signature : requestMAC hmac sha256 (formatUUID service.configuredAudience) parsed secret =
    parsed.signature
  window : timestampWithinWindow now.unix.toNat parsed.timestamp = true
  reserved : reservations record = [(credential.recordID, parsed.nonce, now, .ok .reserved)]

/-! ## The course of a call -/

/-- The exchanges of a record other than those with the context. -/
def consulted (record : List (AuthenticationExchange ν)) : List (AuthenticationExchange ν) :=
  record.filter fun exchange => decide (exchange.1 ≠ .contextErr)

/-- The calls that are made for a request that is known to be signed. -/
def AuthenticationCall.afterVerification : AuthenticationCall → Bool
  | .reserve _ _ _ => true
  | .principal _ _ => true
  | _ => false

/-- What was found before the nonce is reserved: the exchanges so far, in their order, and the
checks that were passed. -/
structure Verified (hmac : KeyedHash) (sha256 : Hash)
    (service : AuthenticationService) (request : AuthenticationRequest)
    (exchanges : List (AuthenticationExchange ν)) (parsed : ParsedRequest)
    (credential : Credential) (secret : Bytes 32) (now : Time) : Prop where
  exchanges_eq : exchanges = [⟨.clock, now⟩, ⟨.boundAudience, .ok service.configuredAudience⟩,
    ⟨.credential service.configuredAudience parsed.credentialID, .ok credential⟩,
    ⟨.authenticationSecret service.configuredAudience parsed.credentialID, .ok secret⟩]
  parses : parseRequest request = .ok parsed
  clock : ¬ (now = 0 ∨ now.unix < 0)
  valid : credentialRecordValid credential service.configuredAudience parsed.credentialID = true
  usable : credential.UsableAt now
  signature : requestMAC hmac sha256 (formatUUID service.configuredAudience) parsed secret =
    parsed.signature
  window : timestampWithinWindow now.unix.toNat parsed.timestamp = true

/-- The principal of a credential, that may use the intake. -/
structure Authorized (service : AuthenticationService) (credential : Credential)
    (principal : Principal) : Prop where
  id : principal.id = credential.principalID
  audience : principal.audienceID = service.configuredAudience
  enabled : principal.enabled = true
  intake : principal.intakeAuthorized = true

/-- **How a call may go**: it ends before the request is verified, or at the reservation, or
after the reservation was granted and the principal was looked up. -/
inductive Course (hmac : KeyedHash) (sha256 : Hash)
    (service : AuthenticationService) (request : AuthenticationRequest) :
    List (AuthenticationExchange ν) → Except AuthenticationError CorePrincipalID → Prop
  | refused {exchanges err} (early : ∀ exchange ∈ exchanges, exchange.1.afterVerification = false) :
      Course hmac sha256 service request exchanges (.error err)
  | reserving {exchanges parsed credential secret now err}
      {answer : Except (GoError ν) ReplayReservationDisposition}
      (verified : Verified hmac sha256 service request exchanges parsed credential secret now) :
      Course hmac sha256 service request
        (exchanges ++ [⟨.reserve credential.recordID parsed.nonce now, answer⟩]) (.error err)
  | authorizing {exchanges parsed credential secret now result}
      {answer : Except (GoError ν) Principal}
      (verified : Verified hmac sha256 service request exchanges parsed credential secret now)
      (authorized : ∀ id, result = .ok id → ∃ principal, answer = .ok principal ∧
        Authorized service credential principal ∧ id = principal.id) :
      Course hmac sha256 service request
        (exchanges ++ [⟨.reserve credential.recordID parsed.nonce now, .ok .reserved⟩,
          ⟨.principal service.configuredAudience credential.principalID, answer⟩]) result

variable {call : AuthenticationCall}

section
omit [ErrorGraph ν]
variable {record : List (AuthenticationExchange ν)}

theorem consulted_append (record record' : List (AuthenticationExchange ν)) :
    consulted (record ++ record') = consulted record ++ consulted record' :=
  List.filter_append _ _

theorem consulted_cons (hcall : call ≠ .contextErr) (answer : call.Answer (GoError ν)) :
    consulted (⟨call, answer⟩ :: record) = ⟨call, answer⟩ :: consulted record :=
  List.filter_cons_of_pos (by simpa using hcall)

theorem consulted_split {after : List (AuthenticationExchange ν)} (hcall : call ≠ .contextErr)
    (answer : call.Answer (GoError ν)) :
    consulted (record ++ ⟨call, answer⟩ :: after) =
      consulted record ++ ⟨call, answer⟩ :: consulted after := by
  rw [consulted_append, consulted_cons hcall]

theorem consulted_contextErr (answer : Option (GoError ν)) :
    consulted (record ++ [⟨.contextErr, answer⟩]) = consulted record := by
  unfold consulted
  rw [List.filter_append, List.filter_cons_of_neg (by simp), List.filter_nil, List.append_nil]

theorem mem_of_mem_consulted {exchange : AuthenticationExchange ν}
    (h : exchange ∈ consulted record) : exchange ∈ record :=
  (List.mem_filter.mp h).1

theorem reservations_consulted : reservations (consulted record) = reservations record := by
  induction record with
  | nil => rfl
  | cons exchange record ih =>
    obtain ⟨call, answer⟩ := exchange
    cases call with
    | contextErr => exact ih
    | clock => exact ih
    | boundAudience => exact ih
    | credential audience id => exact ih
    | authenticationSecret audience id => exact ih
    | reserve recordID nonce now => exact congrArg (_ :: ·) ih
    | principal audience id => exact ih

end

section
variable {record : List (AuthenticationExchange ν)}
variable {Q : Bool → List (AuthenticationExchange ν) → Prop}

theorem wp_contextDone (h : ∀ done record', consulted record' = consulted record → Q done record') :
    contextDone.wp Prog.recorder Q record := by
  rw [contextDone, Prog.wp_bind, Prog.wp_record]
  exact fun answer => Prog.wp_settle (fun _ _ => trivial) fun done _ =>
    h done _ (consulted_contextErr answer)

theorem wp_dependencyCanceled {err : Option (GoError ν)}
    (h : ∀ canceled record', consulted record' = consulted record → Q canceled record') :
    (dependencyCanceled err).wp Prog.recorder Q record := by
  rw [dependencyCanceled, Prog.wp_bind]
  refine wp_contextDone fun done record' hsame => ?_
  split
  · exact h true record' hsame
  · exact Prog.wp_settle (fun _ _ => trivial) fun canceled _ => h canceled record' hsame

/-- A call to a dependency, and the look at the context that follows it. -/
theorem wp_consult {α : Type} (hcall : call ≠ .contextErr)
    {err : call.Answer (GoError ν) → Option (GoError ν)}
    {next : call.Answer (GoError ν) → Bool → AuthenticationProg ν α}
    {Q : α → List (AuthenticationExchange ν) → Prop}
    (h : ∀ answer canceled record', consulted record' = consulted record ++ [⟨call, answer⟩] →
      (next answer canceled).wp Prog.recorder Q record') :
    (do
      let answer ← Prog.request call
      let canceled ← dependencyCanceled (err answer)
      next answer canceled : AuthenticationProg ν α).wp Prog.recorder Q record := by
  rw [Prog.wp_bind, Prog.wp_record]
  intro answer
  rw [Prog.wp_bind]
  refine wp_dependencyCanceled fun canceled record' hsame => h answer canceled record' ?_
  rw [hsame, consulted_split hcall]
  rfl

end

namespace AuthenticationService
variable {hmac : KeyedHash} {sha256 : Hash}
  {service : AuthenticationService} {request : AuthenticationRequest}
  {record before : List (AuthenticationExchange ν)} {parsed : ParsedRequest}
  {credential : Credential} {secret : Bytes 32} {now : Time}

theorem wp_authorize
    (hverified : Verified hmac sha256 service request before parsed credential secret now)
    (hrecord : consulted record =
      before ++ [⟨.reserve credential.recordID parsed.nonce now, .ok .reserved⟩]) :
    (service.authorize credential : AuthenticationProg ν _).wp Prog.recorder
      (fun result record' => Course hmac sha256 service request (consulted record') result)
      record := by
  unfold authorize
  refine wp_consult (fun h => by cases h) fun answer canceled record' hrecord' => ?_
  have hcourse : ∀ result : Except AuthenticationError CorePrincipalID,
      (∀ id, result = .ok id → ∃ principal, answer = .ok principal ∧
        Authorized service credential principal ∧ id = principal.id) →
      Course hmac sha256 service request (consulted record') result := by
    intro result hresult
    rw [hrecord', hrecord, List.append_assoc]
    exact .authorizing hverified hresult
  have hfails : ∀ err, Course hmac sha256 service request (consulted record') (.error err) :=
    fun err => hcourse _ fun id h => by cases h
  split
  · exact hfails _
  · split
    · split <;> exact hfails _
    · rename_i principal
      split
      · exact hfails _
      · rename_i hidentity
        split
        · exact hfails _
        · rename_i henabled
          simp only [not_or, ne_eq, not_not] at hidentity
          simp only [not_or, Bool.not_eq_false] at henabled
          refine hcourse _ fun id hid => ⟨principal, rfl, ?_, (Except.ok.inj hid).symm⟩
          exact ⟨hidentity.2.2.1, hidentity.2.2.2, henabled.1, henabled.2⟩

theorem wp_reserveNonce
    (hverified : timestampWithinWindow now.unix.toNat parsed.timestamp = true →
      Verified hmac sha256 service request (consulted record) parsed credential secret now)
    (hearly : ∀ exchange ∈ consulted record, exchange.1.afterVerification = false) :
    (service.reserveNonce parsed credential now : AuthenticationProg ν _).wp Prog.recorder
      (fun result record' => Course hmac sha256 service request (consulted record') result)
      record := by
  unfold reserveNonce
  split
  · exact .refused hearly
  · rename_i hwindow
    replace hverified := hverified (by simpa using hwindow)
    rw [Prog.wp_bind]
    refine wp_contextDone fun done record₁ h₁ => ?_
    split
    · exact .refused (h₁ ▸ hearly)
    · refine wp_consult (fun h => by cases h) fun disposition canceled record₂ h₂ => ?_
      have hfails : ∀ err, Course hmac sha256 service request (consulted record₂) (.error err) := by
        intro err
        rw [h₂, h₁]
        exact .reserving hverified
      split
      · exact hfails _
      · split
        · exact hfails _
        · exact hfails _
        · exact wp_authorize hverified (by rw [h₂, h₁])
        · exact hfails _

theorem wp_verify (hparses : parseRequest request = .ok parsed)
    (hclock : ¬ (now = 0 ∨ now.unix < 0))
    (hvalid : credentialRecordValid credential service.configuredAudience parsed.credentialID =
      true) (husable : credential.UsableAt now)
    (hrecord : consulted record = [⟨.clock, now⟩,
      ⟨.boundAudience, .ok service.configuredAudience⟩,
      ⟨.credential service.configuredAudience parsed.credentialID, .ok credential⟩]) :
    (verify hmac sha256 service parsed credential now : AuthenticationProg ν _).wp Prog.recorder
      (fun result record' => Course hmac sha256 service request (consulted record') result)
      record := by
  unfold verify
  refine wp_consult (fun h => by cases h) fun answer canceled record₁ h₁ => ?_
  rw [hrecord] at h₁
  have hearly : ∀ exchange ∈ consulted record₁, exchange.1.afterVerification = false := by
    rw [h₁]
    simp [AuthenticationCall.afterVerification]
  split
  · exact .refused hearly
  · split
    · exact .refused hearly
    · split
      · exact .refused hearly
      · rename_i hsignature
        exact wp_reserveNonce (fun hwindow => ⟨h₁, hparses, hclock, hvalid, husable,
          not_not.mp hsignature, hwindow⟩) hearly

theorem wp_identify (hparses : parseRequest request = .ok parsed)
    (hclock : ¬ (now = 0 ∨ now.unix < 0))
    (hrecord : consulted record =
      [⟨.clock, now⟩, ⟨.boundAudience, .ok service.configuredAudience⟩]) :
    (identify hmac sha256 service parsed now : AuthenticationProg ν _).wp Prog.recorder
      (fun result record' => Course hmac sha256 service request (consulted record') result)
      record := by
  unfold identify
  refine wp_consult (fun h => by cases h) fun answer canceled record₁ h₁ => ?_
  rw [hrecord] at h₁
  have hearly : ∀ exchange ∈ consulted record₁, exchange.1.afterVerification = false := by
    rw [h₁]
    simp [AuthenticationCall.afterVerification]
  split
  · exact .refused hearly
  · split
    · split <;> exact .refused hearly
    · split
      · exact .refused hearly
      · rename_i hvalid
        split
        · exact .refused hearly
        · rename_i husable
          exact wp_verify hparses hclock (by simpa using hvalid) (not_not.mp husable) h₁

theorem wp_authenticateAt (hparses : parseRequest request = .ok parsed)
    (hrecord : consulted record = [⟨.clock, now⟩]) :
    (authenticateAt hmac sha256 service parsed now : AuthenticationProg ν _).wp Prog.recorder
      (fun result record' => Course hmac sha256 service request (consulted record') result)
      record := by
  have hearly : ∀ exchange ∈ consulted record, exchange.1.afterVerification = false := by
    rw [hrecord]
    simp [AuthenticationCall.afterVerification]
  unfold authenticateAt
  split
  · exact .refused hearly
  · rename_i hclock
    rw [Prog.wp_bind]
    refine wp_contextDone fun done record₁ h₁ => ?_
    split
    · exact .refused (h₁ ▸ hearly)
    · refine wp_consult (fun h => by cases h) fun bound canceled record₂ h₂ => ?_
      rw [h₁, hrecord] at h₂
      have hearly₂ : ∀ exchange ∈ consulted record₂, exchange.1.afterVerification = false := by
        rw [h₂]
        simp [AuthenticationCall.afterVerification]
      split
      · exact .refused hearly₂
      · split
        · exact .refused hearly₂
        · split
          · exact .refused hearly₂
          · rename_i bound hbound
            obtain rfl : bound = service.configuredAudience := not_not.mp (not_or.mp hbound).2
            exact wp_identify hparses hclock h₂

/-- **Every call takes one of these courses**, whatever the dependencies answer. -/
theorem wp_course : (authenticate hmac sha256 service request : AuthenticationProg ν _).wp
    Prog.recorder
    (fun result record => Course hmac sha256 service request (consulted record) result) [] := by
  rw [authenticate, Prog.wp_bind]
  refine wp_contextDone fun done record₁ h₁ => ?_
  have hearly : ∀ exchange ∈ consulted record₁, exchange.1.afterVerification = false := by
    rw [h₁]
    exact fun exchange h => by cases h
  split
  · exact .refused hearly
  · split
    · exact .refused hearly
    · rename_i parsed hparses
      rw [Prog.wp_bind, Prog.wp_record]
      intro now
      exact wp_authenticateAt hparses (by rw [consulted_split (fun h => by cases h), h₁]; rfl)

/-- A call that returns a principal has an admission. -/
theorem wp_authenticate :
    (authenticate hmac sha256 service request : AuthenticationProg ν _).wp Prog.recorder
      (fun r record => ∀ id, r = .ok id → ∃ parsed credential secret now,
        Admission hmac sha256 service request record parsed credential secret now) [] := by
  refine Prog.wp_mono wp_course fun result record hcourse id hid => ?_
  subst hid
  generalize hexchanges : consulted record = exchanges at hcourse
  cases hcourse with
  | @authorizing _ parsed credential secret now _ _ verified =>
    rw [verified.exchanges_eq] at hexchanges
    refine ⟨parsed, credential, secret, now, verified.parses, verified.clock,
      mem_of_mem_consulted ?_, verified.valid, verified.usable, mem_of_mem_consulted ?_,
      verified.signature, verified.window, ?_⟩
    · rw [hexchanges]
      simp
    · rw [hexchanges]
      simp
    · rw [← reservations_consulted, hexchanges]
      rfl

end AuthenticationService

/-- The secret and the text of the keyed hash that a call has compared. -/
def hashedRequest (sha256 : Hash) (service : AuthenticationService)
    (parsed : ParsedRequest) (record : List (AuthenticationExchange ν)) :
    Set (Bytes 32 × ByteString) :=
  fun x => ⟨.authenticationSecret service.configuredAudience parsed.credentialID, .ok x.1⟩ ∈ record ∧
    x.2 = parsed.signingInput sha256 (formatUUID service.configuredAudience)

/-- **The signed request is unambiguous.**  No text that is joined for the keyed hash holds
the separator, so that equal signing inputs are those of one audience and one request; and
two calls that return a principal for the same signature, by a keyed hash that does not
collide on what they have hashed, have authenticated one audience and one request. -/
theorem signed_request_unambiguous {hmac : KeyedHash}
    {sha256 : Hash} {request₁ request₂ : AuthenticationRequest}
    {p₁ p₂ : ParsedRequest} (h₁ : parseRequest request₁ = .ok p₁)
    (h₂ : parseRequest request₂ = .ok p₂) :
    (∀ audience, ∀ component ∈ p₁.components sha256 (formatUUID audience), 10 ∉ component) ∧
    (∀ a₁ a₂, p₁.signingInput sha256 (formatUUID a₁) = p₂.signingInput sha256 (formatUUID a₂) →
      SameSigned sha256 a₁ a₂ p₁ p₂) ∧
    ∀ (σ : Type) (step : σ → (e : AuthenticationCall) → e.Answer (GoError ν) → σ → Prop)
      (s₁ s₁' s₂ s₂' : σ) (service₁ service₂ : AuthenticationService)
      (trace₁ trace₂ : List (AuthenticationExchange ν)) (id₁ id₂ : CorePrincipalID),
      (service₁.authenticate hmac sha256 request₁).Traces step s₁ trace₁ (.ok id₁) s₁' →
      (service₂.authenticate hmac sha256 request₂).Traces step s₂ trace₂ (.ok id₂) s₂' →
      Set.InjOn (fun x : Bytes 32 × ByteString => hmac x.1.toList x.2)
        (hashedRequest sha256 service₁ p₁ trace₁ ∪ hashedRequest sha256 service₂ p₂ trace₂) →
      p₁.signature = p₂.signature →
      SameSigned sha256 service₁.configuredAudience service₂.configuredAudience p₁ p₂ := by
  obtain ⟨hc₁, -⟩ := parseRequest_eq_ok h₁
  obtain ⟨hc₂, -⟩ := parseRequest_eq_ok h₂
  refine ⟨hc₁.newline_notMem sha256, fun a₁ a₂ => hc₁.same_of_signingInput hc₂, ?_⟩
  intro σ step s₁ s₁' s₂ s₂' service₁ service₂ trace₁ trace₂ id₁ id₂ ht₁ ht₂ hinj hsignature
  obtain ⟨p₁', _, secret₁, _, hadmitted₁⟩ :=
    Prog.wp_recorder_sound AuthenticationService.wp_authenticate ht₁ id₁ rfl
  obtain ⟨p₂', _, secret₂, _, hadmitted₂⟩ :=
    Prog.wp_recorder_sound AuthenticationService.wp_authenticate ht₂ id₂ rfl
  cases h₁.symm.trans hadmitted₁.parses
  cases h₂.symm.trans hadmitted₂.parses
  -- both calls have compared the same hash
  have hmac₁₂ := hadmitted₁.signature.trans (hsignature.trans hadmitted₂.signature.symm)
  have hmem₁ : (secret₁, p₁.signingInput sha256 (formatUUID service₁.configuredAudience)) ∈
      hashedRequest sha256 service₁ p₁ trace₁ := ⟨hadmitted₁.keyed, rfl⟩
  have hmem₂ : (secret₂, p₂.signingInput sha256 (formatUUID service₂.configuredAudience)) ∈
      hashedRequest sha256 service₂ p₂ trace₂ := ⟨hadmitted₂.keyed, rfl⟩
  have hpair := hinj (.inl hmem₁) (.inr hmem₂) hmac₁₂
  exact hc₁.same_of_signingInput hc₂ (congrArg Prod.snd hpair)

/-- An instance of the samples. -/
def sampleInstance : AuthenticationService where
  configuredAudience := Bytes.fill 16 1
  present := by decide

/-- A public identifier of version 4. -/
def sampleCredentialID : CredentialID :=
  ⟨List.replicate 6 1 ++ 65 :: 1 :: 129 :: List.replicate 7 1, by decide⟩

/-- A request with a nonce. -/
def sampleSigned (nonce : UInt8) : AuthenticationRequest where
  method := .ascii "POST"
  path := canonicalPathPrefix ++ (opaqueTokenPrefix ++ base64Encode (List.replicate 32 7))
  deliveryIdentity := formatUUID (.fill 16 5)
  authorizationValues := [authenticationScheme ++ (authorizationCredential ++
    (formatUUID sampleCredentialID ++
      (authorizationSignature ++ base64Encode (List.replicate 32 9))))]
  timestampValues := [.ascii "1700000000"]
  nonceValues := [base64Encode (List.replicate 16 nonce)]
  rawBody := []

theorem sampleSigned_unambiguous : ∃ p₁ p₂,
    parseRequest (sampleSigned 1) = .ok p₁ ∧ parseRequest (sampleSigned 2) = .ok p₂ ∧
    ∀ sha256 a₁ a₂,
      p₁.signingInput sha256 (formatUUID a₁) ≠ p₂.signingInput sha256 (formatUUID a₂) := by
  obtain ⟨p₁, hp₁, hn₁⟩ := Except.exists_of_toOption_map
    (show (parseRequest (sampleSigned 1)).toOption.map ParsedRequest.nonce =
      some ⟨List.replicate 16 1, List.length_replicate⟩ by decide +kernel)
  obtain ⟨p₂, hp₂, hn₂⟩ := Except.exists_of_toOption_map
    (show (parseRequest (sampleSigned 2)).toOption.map ParsedRequest.nonce =
      some ⟨List.replicate 16 2, List.length_replicate⟩ by decide +kernel)
  refine ⟨p₁, p₂, hp₁, hp₂, fun sha256 a₁ a₂ h => ?_⟩
  obtain ⟨-, hsame, -⟩ := @signed_request_unambiguous Empty _ (fun _ => sha256) sha256 _ _ _ _ hp₁ hp₂
  have hnonce := (hsame a₁ a₂ h).nonce
  rw [hn₁, hn₂] at hnonce
  revert hnonce
  decide

end

end OncallGateway
