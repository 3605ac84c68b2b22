import OncallGateway.ReplayReservation

/-! # What a nonce is consumed for

`Course` lists how a call of `Authenticate` may go.  Read as a statement about every execution,
it says that a nonce is reserved only for a request whose signature and timestamp were
verified, and that a principal is only looked up once the nonce was granted.
-/

namespace OncallGateway

variable {ν : Type}

/-- The exchanges of a request that is genuine at the one reading of the clock. -/
structure Genuine (hmac : KeyedHash) (sha256 : Hash)
    (service : AuthenticationService) (request : AuthenticationRequest)
    (exchanges : List (AuthenticationExchange ν)) (parsed : ParsedRequest)
    (credential : Credential) (secret : Bytes 32) (now : Time) : Prop where
  exchanges_eq : exchanges = [⟨.clock, now⟩, ⟨.boundAudience, .ok service.configuredAudience⟩,
    ⟨.credential service.configuredAudience parsed.credentialID, .ok credential⟩,
    ⟨.authenticationSecret service.configuredAudience parsed.credentialID, .ok secret⟩]
  parses : parseRequest request = .ok parsed
  credentialID : credential.publicID = parsed.credentialID
  audience : credential.audienceID = service.configuredAudience
  usable : credential.UsableAt now
  signature : requestMAC hmac sha256 (formatUUID service.configuredAudience) parsed secret =
    parsed.signature
  window : now.unix - 60 ≤ parsed.timestamp ∧ parsed.timestamp ≤ now.unix + 60

section
variable {hmac : KeyedHash} {sha256 : Hash}
  {service : AuthenticationService} {request : AuthenticationRequest}
  {exchanges : List (AuthenticationExchange ν)} {parsed : ParsedRequest}
  {credential : Credential} {secret : Bytes 32} {now : Time}
  {result : Except AuthenticationError CorePrincipalID}

theorem Verified.genuine
    (h : Verified hmac sha256 service request exchanges parsed credential secret now) :
    Genuine hmac sha256 service request exchanges parsed credential secret now := by
  have hvalid := h.valid
  simp only [credentialRecordValid, Bool.and_eq_true, Bool.not_eq_true', decide_eq_false_iff_not,
    not_or, ne_eq, not_not] at hvalid
  refine ⟨h.exchanges_eq, h.parses, hvalid.1.1, hvalid.1.2.1, h.usable, h.signature, ?_⟩
  have hwindow := timestampWithinWindow_iff.mp h.window
  have hclock := (not_or.mp h.clock).2
  omega

theorem Verified.early
    (h : Verified hmac sha256 service request exchanges parsed credential secret now) :
    ∀ exchange ∈ exchanges, exchange.1.afterVerification = false := by
  rw [h.exchanges_eq]
  simp [AuthenticationCall.afterVerification]

/-- Whether the call is a reservation. -/
def AuthenticationCall.isReserve : AuthenticationCall → Bool
  | .reserve _ _ _ => true
  | _ => false

/-- Whether the call looks a principal up. -/
def AuthenticationCall.isPrincipal : AuthenticationCall → Bool
  | .principal _ _ => true
  | _ => false

theorem AuthenticationCall.quiet_of_early {call : AuthenticationCall}
    (h : call.afterVerification = false) : call.isReserve = false ∧ call.isPrincipal = false := by
  cases call with
  | reserve recordID nonce now => cases h
  | principal audience id => cases h
  | _ => exact ⟨rfl, rfl⟩

namespace Course
variable {after before : List (AuthenticationExchange ν)}

section
variable (h : Course hmac sha256 service request exchanges result)
include h

/-- A nonce is reserved once, after the request was found genuine. -/
theorem reserve_split {recordID : CredentialRecordID} {nonce : Bytes 16} {t : Time}
    {answer : Except (GoError ν) ReplayReservationDisposition}
    (hsplit : exchanges = before ++ ⟨.reserve recordID nonce t, answer⟩ :: after) :
    ∃ parsed credential secret, recordID = credential.recordID ∧ nonce = parsed.nonce ∧
      Verified hmac sha256 service request before parsed credential secret t := by
  cases h with
  | refused early =>
    have := early ⟨.reserve recordID nonce t, answer⟩
      (by rw [hsplit]; exact List.mem_append_right _ List.mem_cons_self)
    cases this
  | @reserving _ parsed credential secret now _ _ verified =>
    obtain ⟨rfl, heq, -⟩ := Prog.record_split (k := fun x => x.1.isReserve) hsplit rfl
      (fun x hx => (AuthenticationCall.quiet_of_early (verified.early x hx)).1)
      (fun x hx => by cases hx)
    cases heq
    exact ⟨parsed, credential, secret, rfl, rfl, verified⟩
  | @authorizing _ parsed credential secret now _ _ verified =>
    obtain ⟨rfl, heq, -⟩ := Prog.record_split (k := fun x => x.1.isReserve) hsplit rfl
      (fun x hx => (AuthenticationCall.quiet_of_early (verified.early x hx)).1)
      (fun x hx => by rw [List.mem_singleton.mp hx]; rfl)
    cases heq
    exact ⟨parsed, credential, secret, rfl, rfl, verified⟩

/-- A principal is looked up after the nonce was granted. -/
theorem principal_split {audience : GatewayAudienceID} {id : CorePrincipalID}
    {answer : Except (GoError ν) Principal}
    (hsplit : exchanges = before ++ ⟨.principal audience id, answer⟩ :: after) :
    ∃ recordID nonce now, ⟨.reserve recordID nonce now, .ok .reserved⟩ ∈ before := by
  have hmem : ⟨.principal audience id, answer⟩ ∈ exchanges := by
    rw [hsplit]
    exact List.mem_append_right _ List.mem_cons_self
  cases h with
  | refused early => cases early _ hmem
  | reserving verified =>
    rcases List.mem_append.mp hmem with hmem | hmem
    · cases verified.early _ hmem
    · cases List.mem_singleton.mp hmem
  | @authorizing exchanges parsed credential secret now _ answer' verified =>
    rw [List.append_cons] at hsplit
    obtain ⟨rfl, -, -⟩ := Prog.record_split (k := fun x => x.1.isPrincipal) hsplit rfl
      (fun x hx => by
        rcases List.mem_append.mp hx with hx | hx
        · exact (AuthenticationCall.quiet_of_early (verified.early x hx)).2
        · rw [List.mem_singleton.mp hx]
          rfl)
      (fun x hx => by cases hx)
    exact ⟨_, _, _, List.mem_append_right _ List.mem_cons_self⟩

theorem reservations_length :
    (reservations exchanges).length ≤ 1 := by
  have hnone : ∀ {exchanges : List (AuthenticationExchange ν)},
      (∀ exchange ∈ exchanges, exchange.1.afterVerification = false) →
      reservations exchanges = [] := by
    intro exchanges hearly
    refine List.filterMap_eq_nil_iff.mpr fun exchange hmem => ?_
    obtain ⟨call, answer⟩ := exchange
    cases call with
    | reserve recordID nonce now => cases hearly _ hmem
    | _ => rfl
  cases h with
  | refused early =>
    rw [hnone early]
    exact Nat.zero_le 1
  | reserving verified =>
    rw [reservations, List.filterMap_append, ← reservations, hnone verified.early]
    exact le_rfl
  | authorizing verified =>
    rw [reservations, List.filterMap_append, ← reservations, hnone verified.early]
    exact le_rfl

end

end Course

end

section
variable {σ : Type} [ErrorGraph ν]

end

/-- Dependencies that grant every nonce. -/
def sampleGranting : (call : AuthenticationCall) → call.Answer (GoError Empty)
  | .reserve _ _ _ => .ok .reserved
  | call => sampleDependency call

end OncallGateway
