import OncallGateway.AuthenticationTables

/-! # A request that is entitled is admitted

What the tables hold is enough: if nothing fails and no one else writes to the tables, a
request with a registered, usable credential, a good signature, a timestamp in the window and
a new nonce is admitted, and the nonce is reserved (`admitted_undisturbed`).
-/

namespace OncallGateway

section
variable {ν : Type} [SecurityErrors ν]
  {outside : (call : AuthenticationCall) → call.Answer (GoError ν)} {s : AuthenticationTables}

/-- What a call of the service comes to, over tables that are left alone. -/
def calmService (outside : (call : AuthenticationCall) → call.Answer (GoError ν))
    (s : AuthenticationTables) (call : AuthenticationCall) :
    Except Stop (call.Answer (GoError ν)) × AuthenticationTables :=
  (stateHandler call).eval (calmAnswer outside) s

/-- What a program of the service comes to then. -/
def calmRun {α : Type} (outside : (call : AuthenticationCall) → call.Answer (GoError ν))
    (p : AuthenticationProg ν α) (s : AuthenticationTables) :
    Except Stop α × AuthenticationTables :=
  (p.expand stateHandler).eval (calmAnswer outside) s
variable {s' : AuthenticationTables} {α : Type} {audience : GatewayAudienceID}

theorem calmRun_bind {β : Type} {p : AuthenticationProg ν α} {f : α → AuthenticationProg ν β}
    {a : α} (h : calmRun outside p s = (.ok a, s')) :
    calmRun outside (p >>= f) s = calmRun outside (f a) s' := by
  rw [calmRun, Prog.expand_bind, Prog.eval_bind h]
  rfl

theorem calmRun_request {β : Type} {call : AuthenticationCall} {answer : call.Answer (GoError ν)}
    {f : call.Answer (GoError ν) → AuthenticationProg ν β}
    (h : calmService outside s call = (.ok answer, s')) :
    calmRun outside (Prog.request call >>= f) s = calmRun outside (f answer) s' :=
  Prog.eval_bind h

/-! ## The calls of the repository -/

/-- A statement is made, and what follows depends on its answer. -/
theorem eval_statement {operation : String} (call : StateCall)
    {rest : call.Answer (GoError ν) → StateProg ν (Except (GoError ν) α)} :
    Prog.eval (calmAnswer outside) (do
      match ← readConnection operation with
      | .error err => return .error err
      | .ok () =>
        let answer ← Prog.request call
        rest answer) s =
      (rest (calmAnswer outside s call).1).eval (calmAnswer outside)
        (calmAnswer outside s call).2 := rfl

open AuthenticationStateRepository

theorem calmService_boundAudience (h : s.security.boundAudienceRecord.audience = some audience) :
    calmService outside s .boundAudience = (.ok (.ok audience), s) := by
  refine (eval_statement .selectBoundAudience).trans ?_
  simp only [calmAnswer, h]
  rfl

theorem calmService_credential {id : CredentialID} {record : CredentialRecord}
    {credential : Credential} (haudience : ¬ audience.IsZero) (hid : id.IsV4)
    (hrecord : s.security.credentialRecord audience id = some record)
    (hcredential : record.credential audience id = .ok credential) :
    calmService outside s (.credential audience id) = (.ok (.ok credential), s) := by
  have hinput : ¬ (audience.IsZero ∨ id.IsZero ∨ parseCredentialID (formatUUID id) ≠ .ok id) := by
    have hparse : parseCredentialID (formatUUID id) = .ok id :=
      parseUUID_formatUUID_eq_ok hid.not_isZero fun _ => hid
    simp [haudience, hid.not_isZero, hparse]
  show (AuthenticationStateRepository.credential audience id).eval (calmAnswer outside) s = _
  rw [AuthenticationStateRepository.credential, if_neg hinput]
  refine (eval_statement (.selectCredential audience id)).trans ?_
  simp only [calmAnswer, hrecord, selected, hcredential]
  rfl

theorem calmService_principal {id : CorePrincipalID} {record : PrincipalRecord}
    {principal : Principal} (haudience : ¬ audience.IsZero) (hid : ¬ id.IsZero)
    (hrecord : s.security.principalRecord audience id = some record)
    (hprincipal : record.principal audience id = .ok principal) :
    calmService outside s (.principal audience id) = (.ok (.ok principal), s) := by
  have hinput : ¬ (audience.IsZero ∨ id.IsZero) := by simp [haudience, hid]
  show (AuthenticationStateRepository.principal audience id).eval (calmAnswer outside) s = _
  rw [AuthenticationStateRepository.principal, if_neg hinput]
  refine (eval_statement (.selectPrincipal audience id)).trans ?_
  simp only [calmAnswer, hrecord, selected, hprincipal]
  rfl

theorem calmService_reserve {recordID : CredentialRecordID} {nonce : Bytes 16} {now : Time}
    (hid : ¬ recordID.IsZero) (hnow : now ≠ 0)
    (hfresh : (replayReservation recordID nonce now).key ∉ s.reservations.keys) :
    calmService outside s (.reserve recordID nonce now) =
      (.ok (.ok .reserved), s.insert (replayReservation recordID nonce now) hfresh) := by
  have hinput : ¬ (recordID.IsZero ∨ now = 0) := by simp [hid, hnow]
  have hexpiry : ¬ ¬ now.add replayReservationLifetime > now := by
    simp only [not_not, gt_iff_lt, Time.lt_iff, Time.add, replayReservationLifetime]
    omega
  show (ofReplay (reserve recordID nonce now)).eval (calmAnswer outside) s = _
  have hinsert : Prog.eval (fun s call => calmAnswer outside s (.replay call))
      (Prog.request (ReplayCall.insert (replayReservation recordID nonce now))) s =
      (.ok (.scanned (.ok true)), s.insert (replayReservation recordID nonce now) hfresh) := by
    show (Except.ok (calmAnswer outside s (.replay (.insert _))).1, _) = _
    simp only [calmAnswer, dif_pos hfresh]
  rw [ofReplay, Prog.eval_within, reserve, if_neg hinput, Prog.eval_bind (show Prog.eval
    (fun s call => calmAnswer outside s (.replay call)) (contextSentinel none) s = (.ok none, s)
    from rfl)]
  dsimp only
  rw [if_neg hexpiry]
  exact Prog.eval_bind hinsert

/-! ## The service -/

/-- **A request that is entitled to be admitted**, by what the tables hold. -/
structure Entitled (hmac : KeyedHash) (sha256 : Hash)
    (service : AuthenticationService) (request : AuthenticationRequest)
    (outside : (call : AuthenticationCall) → call.Answer (GoError ν)) (s : AuthenticationTables)
    (parsed : ParsedRequest) (row : CredentialRow) (credential : Credential) (secret : Bytes 32)
    (now : Time) : Prop where
  context : outside .contextErr = (none : Option (GoError ν))
  clock : outside .clock = now
  time : ¬ (now = 0 ∨ now.unix < 0)
  parses : parseRequest request = .ok parsed
  bound : ∃ realmRow ∈ s.security.realm, realmRow.gatewayAudienceID = service.configuredAudience
  registered : row ∈ s.security.credentials
  identity : row.credentialID = parsed.credentialID ∧
    row.gatewayAudienceID = service.configuredAudience
  readable : ∀ slot ∈ s.security.slots, ∀ principal ∈ s.security.principals,
    row.Owned slot principal → row.Readable slot principal
  holds : row.Holds credential
  usable : credential.UsableAt now
  keyed : outside (.authenticationSecret service.configuredAudience parsed.credentialID) =
    .ok secret
  signature : requestMAC hmac sha256 (formatUUID service.configuredAudience) parsed secret =
    parsed.signature
  window : timestampWithinWindow now.unix.toNat parsed.timestamp = true
  fresh : (replayReservation row.credentialRecordID parsed.nonce now).key ∉ s.reservations.keys
  authorized : ∀ principal ∈ s.security.principals,
    principal.corePrincipalID = row.corePrincipalID →
      principal.enabled = true ∧ principal.gatewayIntakeV1Authorized = true

section
variable {hmac : KeyedHash} {sha256 : Hash}
  {service : AuthenticationService} {request : AuthenticationRequest} {parsed : ParsedRequest}
  {row : CredentialRow} {credential : Credential} {secret : Bytes 32} {now : Time}

section
variable (hcontext : outside .contextErr = (none : Option (GoError ν)))
include hcontext

theorem calmRun_contextDone : calmRun outside contextDone s = (.ok false, s) := by
  have hanswer : calmService outside s .contextErr = (.ok none, s) :=
    congrArg (fun answer => (Except.ok answer, s)) hcontext
  exact calmRun_request hanswer

/-- A call that succeeds, and the look at the context that follows it. -/
theorem calmRun_consult {call : AuthenticationCall} {answer : call.Answer (GoError ν)}
    {err : call.Answer (GoError ν) → Option (GoError ν)}
    {next : call.Answer (GoError ν) → Bool → AuthenticationProg ν α}
    (hanswer : calmService outside s call = (.ok answer, s')) (herr : err answer = none) :
    calmRun outside (do
      let answer ← Prog.request call
      let canceled ← dependencyCanceled (err answer)
      next answer canceled) s = calmRun outside (next answer false) s' := by
  rw [calmRun_request hanswer, herr]
  exact calmRun_bind (calmRun_bind (calmRun_contextDone hcontext))

end

omit [SecurityErrors ν] in
/-- A row holds one credential. -/
theorem CredentialRow.Holds.unique {credential credential' : Credential}
    (h : row.Holds credential) (h' : row.Holds credential') : credential = credential' := by
  obtain ⟨state, hstate, rfl⟩ := h
  obtain ⟨state', hstate', rfl⟩ := h'
  rw [Except.ok.inj (hstate.symm.trans hstate')]

omit [SecurityErrors ν] in
/-- What a row holds is a valid record for the service. -/
theorem CredentialRow.Holds.valid {slot : SlotRow} {principal : PrincipalRow}
    (h : row.Holds credential) (howned : row.Owned slot principal) :
    credentialRecordValid credential row.gatewayAudienceID row.credentialID = true := by
  obtain ⟨state, hstate, rfl⟩ := h
  have hslot : ¬ row.credentialSlotID.IsZero := howned.ofSlot ▸ slot.nonzero
  have hprincipal : ¬ row.corePrincipalID.IsZero := howned.ofPrincipal ▸ principal.nonzero
  have hother : state ≠ .other := by
    rintro rfl
    cases credentialState_eq_ok.mp hstate
  simp [credentialRecordValid, CredentialRow.credential, row.nonzero, hslot, hprincipal, hother]

namespace Entitled

section
variable (h : Entitled hmac sha256 service request outside s parsed row credential secret now)
include h

theorem calmRun_authorize (hs' : s'.security = s.security) :
    calmRun outside (service.authorize credential) s' =
      (.ok (.ok row.corePrincipalID), s') := by
  obtain ⟨slot, hslot, principal, hprincipal, howned, -⟩ :=
    SecurityTables.owned_of_mem h.registered
  have hread := h.readable slot hslot principal hprincipal howned
  obtain ⟨henabled, hintake⟩ := h.authorized principal hprincipal howned.ofPrincipal
  obtain ⟨state, hstate, rfl⟩ := h.holds
  have haudience : ¬ service.configuredAudience.IsZero := service.present
  have hid : ¬ row.corePrincipalID.IsZero := howned.ofPrincipal ▸ principal.nonzero
  have hanswer : calmService outside s'
      (.principal service.configuredAudience row.corePrincipalID) =
      (.ok (.ok ⟨service.configuredAudience, row.corePrincipalID, true, true⟩), s') := by
    have hrecord : s'.security.principalRecord service.configuredAudience row.corePrincipalID =
        some (principal.record 1) := by
      rw [hs']
      exact SecurityTables.principalRecord_eq_some.mpr ⟨principal, hprincipal,
        howned.principalAudience.trans h.identity.2, howned.ofPrincipal, rfl⟩
    refine calmService_principal haudience hid hrecord ?_
    refine PrincipalRow.principal_eq_ok.mpr ⟨rfl, howned.ofPrincipal,
      howned.principalAudience.trans h.identity.2, ?_, hread.principalCreated, ?_⟩
    · rw [howned.principalAudience, h.identity.2]
      exact haudience
    · rw [PrincipalRow.Holds, howned.principalAudience, h.identity.2, howned.ofPrincipal,
        henabled, hintake]
  refine (calmRun_consult h.context hanswer rfl).trans ?_
  simp [CredentialRow.credential, haudience, hid]
  rfl

theorem calmRun_reserveNonce :
    calmRun outside (service.reserveNonce parsed credential now) s =
      (.ok (.ok row.corePrincipalID),
        s.insert (replayReservation row.credentialRecordID parsed.nonce now) h.fresh) := by
  have hrecord : credential.recordID = row.credentialRecordID := by
    obtain ⟨state, -, rfl⟩ := h.holds
    rfl
  have hanswer : calmService outside s (.reserve credential.recordID parsed.nonce now) =
      (.ok (.ok .reserved), s.insert (replayReservation row.credentialRecordID parsed.nonce now)
        h.fresh) := by
    rw [hrecord]
    exact calmService_reserve row.nonzero (not_or.mp h.time).1 h.fresh
  rw [AuthenticationService.reserveNonce, if_neg (by simp [h.window]),
    calmRun_bind (calmRun_contextDone h.context)]
  refine (calmRun_consult h.context hanswer rfl).trans ?_
  exact h.calmRun_authorize rfl

theorem calmRun_verify :
    calmRun outside (AuthenticationService.verify hmac sha256 service parsed credential now) s =
      (.ok (.ok row.corePrincipalID),
        s.insert (replayReservation row.credentialRecordID parsed.nonce now) h.fresh) := by
  have hanswer : calmService outside s
      (.authenticationSecret service.configuredAudience parsed.credentialID) =
        (.ok (.ok secret), s) :=
    congrArg (fun answer => (Except.ok answer, s)) h.keyed
  refine (calmRun_consult h.context hanswer rfl).trans ?_
  simp only [h.signature, ne_eq, not_true_eq_false, if_false, Bool.false_eq_true]
  exact h.calmRun_reserveNonce

theorem calmRun_identify :
    calmRun outside (AuthenticationService.identify hmac sha256 service parsed now) s =
      (.ok (.ok row.corePrincipalID),
        s.insert (replayReservation row.credentialRecordID parsed.nonce now) h.fresh) := by
  obtain ⟨slot, hslot, principal, hprincipal, howned, -⟩ :=
    SecurityTables.owned_of_mem h.registered
  obtain ⟨record, credential', hrecord, hread, hholds⟩ :=
    SecurityTables.credential_complete h.registered h.readable
  cases hholds.unique h.holds
  have hvalid := h.holds.valid howned
  rw [h.identity.1, h.identity.2] at hrecord hread hvalid
  have hanswer : calmService outside s
      (.credential service.configuredAudience parsed.credentialID) = (.ok (.ok credential), s) :=
    calmService_credential service.present (h.identity.1 ▸ row.publicIDV4) hrecord hread
  refine (calmRun_consult h.context hanswer rfl).trans ?_
  simp only [hvalid, h.usable, not_true_eq_false, if_false, Bool.false_eq_true,
    Bool.true_eq_false]
  exact h.calmRun_verify

theorem calmRun_authenticate :
    calmRun outside (service.authenticate hmac sha256 request) s =
      (.ok (.ok row.corePrincipalID),
        s.insert (replayReservation row.credentialRecordID parsed.nonce now) h.fresh) := by
  have hbound : calmService outside s .boundAudience =
      (.ok (.ok service.configuredAudience), s) :=
    calmService_boundAudience (SecurityTables.audience_eq_some.mpr h.bound)
  have hat : calmRun outside
      (AuthenticationService.authenticateAt hmac sha256 service parsed now) s =
      (.ok (.ok row.corePrincipalID),
        s.insert (replayReservation row.credentialRecordID parsed.nonce now) h.fresh) := by
    rw [AuthenticationService.authenticateAt, if_neg h.time,
      calmRun_bind (calmRun_contextDone h.context)]
    refine (calmRun_consult h.context hbound rfl).trans ?_
    simp only [service.present, ne_eq, not_true_eq_false, or_self, if_false, Bool.false_eq_true]
    exact h.calmRun_identify
  have hclock : calmService outside s .clock = (.ok now, s) :=
    congrArg (fun answer => (Except.ok answer, s)) h.clock
  rw [AuthenticationService.authenticate, calmRun_bind (calmRun_contextDone h.context)]
  simp only [h.parses, Bool.false_eq_true, if_false]
  rw [calmRun_request hclock]
  exact hat

end

end Entitled

/-- **A request that is entitled is admitted.**  Over tables that are left alone, and if
nothing fails, a call of `Authenticate` returns the principal of the credential and leaves the
nonce reserved, and nothing else. -/
theorem admitted_undisturbed
    (h : Entitled hmac sha256 service request outside s parsed row credential secret now) :
    ∃ record, (authenticateState hmac sha256 service request).eval (calmAnswer outside) s =
      (.ok (record, .ok row.corePrincipalID),
        s.insert (replayReservation row.credentialRecordID parsed.nonce now) h.fresh) :=
  Prog.eval_implement h.calmRun_authenticate

theorem admitted_undisturbed_sample : ∃ record,
    ((authenticateState sampleSignature sampleSha256 sampleInstance (sampleSigned 1)).eval
        (calmAnswer sampleSurroundings) (sampleTablesCalls true).shared).1 =
      .ok (record, .ok (Bytes.fill 16 2)) := by
  obtain ⟨parsed, hparses, hfields⟩ := Except.exists_of_toOption_map
    (show (parseRequest (sampleSigned 1)).toOption.map
        (fun p => (p.credentialID, p.signature, p.timestamp)) =
      some (sampleCredentialID, Bytes.fill 32 9, 1700000000) by decide +kernel)
  simp only [Prod.mk.injEq] at hfields
  have hentitled : Entitled sampleSignature sampleSha256 sampleInstance (sampleSigned 1)
      sampleSurroundings (sampleTablesCalls true).shared parsed sampleCredentialRow
      (sampleCredentialRow.credential .active) (Bytes.fill 32 6)
      ⟨(62135596800 + 1700000010) * 1000000000⟩ := {
    context := rfl
    clock := rfl
    time := by decide
    parses := hparses
    bound := ⟨sampleRealmRow, List.mem_singleton_self _, rfl⟩
    registered := List.mem_singleton_self _
    identity := ⟨hfields.1.symm, rfl⟩
    readable := by
      intro slot hslot principal hprincipal _
      cases List.mem_singleton.mp hslot
      cases List.mem_singleton.mp hprincipal
      exact ⟨sampleActiveColumns_present, by decide, by decide, by decide⟩
    holds := ⟨.active, rfl, rfl⟩
    usable := by decide
    keyed := rfl
    signature := hfields.2.1.symm
    window := by
      rw [hfields.2.2]
      decide
    fresh := List.not_mem_nil
    authorized := by
      intro principal hprincipal _
      cases List.mem_singleton.mp hprincipal
      exact ⟨rfl, rfl⟩ }
  obtain ⟨record, heval⟩ := admitted_undisturbed hentitled
  exact ⟨record, congrArg Prod.fst heval⟩

end

end

end OncallGateway
