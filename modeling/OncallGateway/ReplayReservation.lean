import OncallGateway.Authentication
import OncallGateway.Lib.Session

/-! # Replay reservations

`AuthenticationStateRepository.Reserve` stores the nonce of a request under its
credential record, in one statement that does nothing if it is there: the nonce is
granted to whoever has inserted it.  Any number of service instances share the table, and
each statement may fail before or after it has taken effect, or take effect late.

`Authenticate` over this repository (`Prog.implement`) admits a nonce at most once, since a
call that succeeds has inserted the row itself.  A reservation outlives the time in which
its request can be accepted (`InWindow.before_expiry`).
-/

namespace OncallGateway
open Session

/-! ## The table -/

/-- `replayReservationLifetime`. -/
def replayReservationLifetime : Int := 5 * 60 * 1000000000

/-- A row of `authentication_replay_reservations`, as its constraints demand. -/
structure ReplayReservation where
  credentialRecordID : CredentialRecordID
  nonceBytes : Bytes 16
  reservedAt : Timestamp
  expiresAt : Timestamp
  retention : expiresAt.micros = reservedAt.micros + 5 * 60 * 1000000

/-- The primary key. -/
def ReplayReservation.key (row : ReplayReservation) : CredentialRecordID × Bytes 16 :=
  (row.credentialRecordID, row.nonceBytes)

/-- The table. -/
structure ReplayStore where
  rows : List ReplayReservation
  primaryKey : (rows.map ReplayReservation.key).Nodup

/-- The keys that are reserved. -/
def ReplayStore.keys (s : ReplayStore) : List (CredentialRecordID × Bytes 16) :=
  s.rows.map ReplayReservation.key

instance (s : ReplayStore) (key : CredentialRecordID × Bytes 16) : Decidable (key ∈ s.keys) :=
  inferInstanceAs (Decidable (key ∈ s.rows.map ReplayReservation.key))

/-- The table with a row of a new key. -/
def ReplayStore.insert (s : ReplayStore) (row : ReplayReservation) (h : row.key ∉ s.keys) :
    ReplayStore where
  rows := row :: s.rows
  primaryKey := List.nodup_cons.mpr ⟨h, s.primaryKey⟩

/-- The row that `Reserve` inserts. -/
def replayReservation (recordID : CredentialRecordID) (nonce : Bytes 16) (now : Time) :
    ReplayReservation where
  credentialRecordID := recordID
  nonceBytes := nonce
  reservedAt := .ofTime now
  expiresAt := .ofTime (now.add replayReservationLifetime)
  retention := by
    simp only [Timestamp.ofTime_micros, Time.add, replayReservationLifetime]
    omega

/-! ## The repository -/

/-- The calls of the repository, and those of the service that it does not implement. -/
inductive ReplayCall where
  | outside (call : AuthenticationCall)
  | contextErr
  | acquire
  | insert (row : ReplayReservation)
  | release
  | destroy

/-- Whether the call is the statement that inserts. -/
def ReplayCall.isInsert : ReplayCall → Bool
  | insert _ => true
  | _ => false

/-- Their answers. -/
def ReplayCall.Answer (ε : Type) : ReplayCall → Type
  | outside call => call.Answer ε
  | contextErr => Option ε
  | acquire => Opened ε
  | insert _ => RowAnswer ε Bool
  | release => Unit
  | destroy => Unit

/-- A program of the repository. -/
abbrev ReplayProg (ν α : Type) := Prog ReplayCall (ReplayCall.Answer (GoError ν)) α

section
variable {ν : Type} [ErrorGraph ν]

omit [ErrorGraph ν] in
/-- The connection is destroyed, or handed back. -/
def finishReservation (destroy : Bool) : ReplayProg ν Unit :=
  if destroy then Prog.request ReplayCall.destroy else Prog.request ReplayCall.release

omit [ErrorGraph ν] in
/-- `ctx.Err()`. -/
def replayContextErr : ReplayProg ν (Option (GoError ν)) := Prog.request ReplayCall.contextErr

/-- `contextSentinel`: of an error if there is one, and of the context. -/
def contextSentinel (err : Option (GoError ν)) : ReplayProg ν (Option Sentinel) := do
  if ← GoError.errorsIsAny [.contextCanceled] err then return some .contextCanceled
  else if ← GoError.errorsIsAny [.contextCanceled] (← replayContextErr) then
    return some .contextCanceled
  else if ← GoError.errorsIsAny [.contextDeadlineExceeded] err then
    return some .contextDeadlineExceeded
  else if ← GoError.errorsIsAny [.contextDeadlineExceeded] (← replayContextErr) then
    return some .contextDeadlineExceeded
  else return none

/-- `isConnectionInterruption` of the error of a call, if there is one. -/
def interruptionOf : Option (GoError ν) → Except Stop Bool
  | none => .ok false
  | some err => err.isConnectionInterruption

/-- `Reserve` when the statement has not told that the row was inserted. -/
def reserveUnconfirmed (err : Option (GoError ν)) :
    ReplayProg ν (Except (GoError ν) ReplayReservationDisposition) := do
  let unknown (cancellation : Option Sentinel) :
      Except (GoError ν) ReplayReservationDisposition := .error (.replayUnknown cancellation)
  if ← interruptionOf err then
    finishReservation true
    return unknown (← contextSentinel err)
  else
    match ← contextSentinel err with
    | some _ =>
      finishReservation true
      return unknown (← contextSentinel err)
    | none =>
      if err.any (·.isSentinel .pgxErrNoRows) then
        finishReservation false
        return .ok .duplicate
      else if err.any GoError.singleCausePostgresError then
        finishReservation false
        return .error (.sentinel .errReplayUnavailable)
      else
        finishReservation true
        return unknown none

/-- `AuthenticationStateRepository.Reserve`. -/
def reserve (recordID : CredentialRecordID) (nonce : Bytes 16) (now : Time) :
    ReplayProg ν (Except (GoError ν) ReplayReservationDisposition) := do
  if recordID.IsZero ∨ now = 0 then return .error (.sentinel .errReplayUnavailable)
  else
    match ← contextSentinel none with
    | some cancellation => return .error (.safe cancellation "replay reservation canceled")
    | none =>
      if ¬ now.add replayReservationLifetime > now then
        return .error (.sentinel .errReplayUnavailable)
      else
        match ← Prog.request ReplayCall.acquire with
        | .failed err connection =>
          if connection then
            finishReservation true
          match ← contextSentinel (some err) with
          | some cancellation =>
            return .error (.safe cancellation "replay reservation connection")
          | none => return .error (.sentinel .errReplayUnavailable)
        | .absent => return .error (.sentinel .errReplayUnavailable)
        | .opened =>
          match ← Prog.request (ReplayCall.insert (replayReservation recordID nonce now)) with
          | .absent =>
            finishReservation true
            return .error (.replayUnknown none)
          | .scanned (.ok true) =>
            finishReservation false
            return .ok .reserved
          | .scanned (.ok false) => reserveUnconfirmed none
          | .scanned (.error err) => reserveUnconfirmed (some err)

/-- The calls of the service, of which the repository implements the reservation. -/
def replayHandler : (call : AuthenticationCall) → ReplayProg ν (call.Answer (GoError ν))
  | .reserve recordID nonce now => reserve recordID nonce now
  | .contextErr => Prog.request (ReplayCall.outside .contextErr)
  | .clock => Prog.request (ReplayCall.outside .clock)
  | .boundAudience => Prog.request (ReplayCall.outside .boundAudience)
  | .credential audience id => Prog.request (ReplayCall.outside (.credential audience id))
  | .authenticationSecret audience id =>
    Prog.request (ReplayCall.outside (.authenticationSecret audience id))
  | .principal audience id => Prog.request (ReplayCall.outside (.principal audience id))

/-! ## The instances share the table -/

/-- What a call does to the table and to the keys that the caller knows to have inserted.
Rows may appear meanwhile: those of other clients, and those of statements that were given up
and take effect late.  The insertion is one step.  It is confirmed exactly by the row it
returns; any other answer may come with it or without it. -/
def replayAct (s : ReplayStore) (own : List (CredentialRecordID × Bytes 16)) :
    (call : ReplayCall) → call.Answer (GoError ν) → List (CredentialRecordID × Bytes 16) →
      ReplayStore → Prop
  | .insert row, answer, own', s' => ∃ s₁, s.keys ⊆ s₁.keys ∧
    (answer = .scanned (.ok true) ∧ own' = own ++ [row.key] ∧ (∃ h, s' = s₁.insert row h) ∨
      answer ≠ .scanned (.ok true) ∧ own' = own ∧ (s' = s₁ ∨ ∃ h, s' = s₁.insert row h))
  | _, _, own', s' => own' = own ∧ s.keys ⊆ s'.keys

/-- The instances rely on nothing of the table. -/
def replayShared (ν : Type) : Shared ReplayCall (ReplayCall.Answer (GoError ν)) ReplayStore
    (List (CredentialRecordID × Bytes 16)) where
  act := replayAct
  pre _ _ _ := True
  rely _ _ _ := True
  compatible _ _ := True

omit [ErrorGraph ν] in
theorem replay_lawful : (replayShared ν).Lawful where
  refl _ _ := trivial
  trans _ _ _ _ _ _ := trivial
  symm _ _ _ := trivial
  guarantee _ _ _ _ _ _ _ _ _ _ := trivial

/-- A call of `Authenticate`, over the repository. -/
def authenticateCall (hmac : KeyedHash) (sha256 : Hash)
    (service : AuthenticationService) (request : AuthenticationRequest) :
    ReplayProg ν (List (AuthenticationExchange ν) × Except AuthenticationError CorePrincipalID) :=
  (service.authenticate hmac sha256 request).implement replayHandler

/-! ## One call -/

section
variable {s : ReplayStore} {own : List (CredentialRecordID × Bytes 16)}

omit [ErrorGraph ν] in
/-- A call other than the insertion. -/
theorem wp_quiet {call : ReplayCall} (hcall : call.isInsert = false)
    {Q : call.Answer (GoError ν) → ReplayStore × List (CredentialRecordID × Bytes 16) → Prop}
    (h : ∀ answer s', Q answer (s', own)) :
    (Prog.request call).wp (replayShared ν).environment Q (s, own) := by
  refine ⟨fun _ _ => trivial, ?_⟩
  rintro answer ⟨s', own'⟩ ⟨s₁, -, hact⟩
  cases call with
  | insert row => cases hcall
  | outside | contextErr | acquire | release | destroy =>
    obtain ⟨rfl, -⟩ := hact
    exact h answer s'

omit [ErrorGraph ν] in
/-- The insertion is confirmed, or the caller does not know. -/
theorem wp_insert {row : ReplayReservation}
    {Q : RowAnswer (GoError ν) Bool → ReplayStore × List (CredentialRecordID × Bytes 16) → Prop}
    (hconfirmed : ∀ s', Q (.scanned (.ok true)) (s', own ++ [row.key]))
    (hother : ∀ answer s', answer ≠ .scanned (.ok true) → Q answer (s', own)) :
    (Prog.request (ReplayCall.insert row)).wp (replayShared ν).environment Q (s, own) := by
  refine ⟨fun _ _ => trivial, ?_⟩
  rintro answer ⟨s', own'⟩ ⟨s₁, -, s₂, -, ⟨rfl, rfl, -⟩ | ⟨hne, rfl, -⟩⟩
  · exact hconfirmed s'
  · exact hother answer s' hne

omit [ErrorGraph ν] in
theorem wp_finishReservation {destroy : Bool}
    {Q : Unit → ReplayStore × List (CredentialRecordID × Bytes 16) → Prop}
    (h : ∀ s', Q () (s', own)) :
    (finishReservation destroy).wp (replayShared ν).environment Q (s, own) := by
  cases destroy with
  | false => exact wp_quiet (show ReplayCall.release.isInsert = false from rfl) fun _ => h
  | true => exact wp_quiet (show ReplayCall.destroy.isInsert = false from rfl) fun _ => h

theorem wp_contextSentinel {err : Option (GoError ν)}
    {Q : Option Sentinel → ReplayStore × List (CredentialRecordID × Bytes 16) → Prop}
    (h : ∀ kind s', Q kind (s', own)) :
    (contextSentinel err).wp (replayShared ν).environment Q (s, own) := by
  have hsettle : ∀ {x : Except Stop Bool} {next : Bool → ReplayProg ν (Option Sentinel)}
      {s : ReplayStore}, (∀ b, (next b).wp (replayShared ν).environment Q (s, own)) →
      (Prog.settle x >>= next).wp (replayShared ν).environment Q (s, own) := fun hnext =>
    Prog.wp_bind.mpr (Prog.wp_settle (fun _ _ => trivial) fun b _ => hnext b)
  unfold contextSentinel
  refine hsettle fun canceled => ?_
  split
  · exact h _ s
  rw [Prog.wp_bind]
  refine wp_quiet (show ReplayCall.contextErr.isInsert = false from rfl) fun contextErr s₁ =>
    hsettle fun canceled => ?_
  split
  · exact h _ s₁
  refine hsettle fun expired => ?_
  split
  · exact h _ s₁
  rw [Prog.wp_bind]
  refine wp_quiet (show ReplayCall.contextErr.isInsert = false from rfl) fun contextErr s₂ =>
    hsettle fun expired => ?_
  split <;> exact h _ s₂

/-- What is not confirmed is not granted. -/
theorem wp_reserveUnconfirmed {err : Option (GoError ν)} :
    (reserveUnconfirmed err).wp (replayShared ν).environment
      (fun r p => r ≠ .ok .reserved ∧ p.2 = own) (s, own) := by
  have hend : ∀ {destroy : Bool} {r : Except (GoError ν) ReplayReservationDisposition}
      {s : ReplayStore}, r ≠ .ok .reserved →
      (do finishReservation destroy; return r : ReplayProg ν _).wp (replayShared ν).environment
        (fun r p => r ≠ .ok .reserved ∧ p.2 = own) (s, own) := by
    intro destroy r s hr
    rw [Prog.wp_bind]
    exact wp_finishReservation fun _ => ⟨hr, rfl⟩
  have hunknown : ∀ {s : ReplayStore}, (do
      finishReservation true
      return .error (.replayUnknown (← contextSentinel err)) :
        ReplayProg ν (Except (GoError ν) ReplayReservationDisposition)).wp
          (replayShared ν).environment (fun r p => r ≠ .ok .reserved ∧ p.2 = own) (s, own) := by
    intro s
    rw [Prog.wp_bind]
    refine wp_finishReservation fun _ => ?_
    rw [Prog.wp_bind]
    exact wp_contextSentinel fun _ _ => ⟨nofun, rfl⟩
  unfold reserveUnconfirmed
  dsimp only
  rw [Prog.wp_bind]
  refine Prog.wp_settle (fun _ _ => trivial) fun interrupted _ => ?_
  split
  · exact hunknown
  · rw [Prog.wp_bind]
    refine wp_contextSentinel fun kind s₁ => ?_
    split
    · exact hunknown
    · repeat' split
      all_goals exact hend nofun

/-- **A nonce that is granted was inserted by the call.** -/
theorem wp_reserve {recordID : CredentialRecordID} {nonce : Bytes 16} {now : Time} :
    (reserve recordID nonce now).wp (replayShared ν).environment
      (fun r p => own ⊆ p.2 ∧ (r = .ok .reserved → (recordID, nonce) ∈ p.2)) (s, own) := by
  have hrefused : ∀ {r : Except (GoError ν) ReplayReservationDisposition}
      {p : ReplayStore × List (CredentialRecordID × Bytes 16)}, r ≠ .ok .reserved ∧ p.2 = own →
      own ⊆ p.2 ∧ (r = .ok .reserved → (recordID, nonce) ∈ p.2) := by
    rintro r p ⟨hr, hp⟩
    exact ⟨fun _ h => hp ▸ h, fun h => absurd h hr⟩
  unfold reserve
  split
  · exact hrefused ⟨nofun, rfl⟩
  · rw [Prog.wp_bind]
    refine wp_contextSentinel fun kind s₁ => ?_
    split
    · exact hrefused ⟨nofun, rfl⟩
    · split
      · exact hrefused ⟨nofun, rfl⟩
      · rw [Prog.wp_bind]
        refine wp_quiet rfl fun connection s₂ => ?_
        split
        · -- no connection
          have hfailed : ∀ {err : GoError ν} {s : ReplayStore}, (do
              match ← contextSentinel (some err) with
              | some cancellation =>
                return .error (.safe cancellation "replay reservation connection")
              | none => return .error (.sentinel .errReplayUnavailable) :
                ReplayProg ν (Except (GoError ν) ReplayReservationDisposition)).wp
              (replayShared ν).environment
              (fun r p => own ⊆ p.2 ∧ (r = .ok .reserved → (recordID, nonce) ∈ p.2)) (s, own) := by
            intro err s
            rw [Prog.wp_bind]
            refine wp_contextSentinel fun kind s' => ?_
            split <;> exact hrefused ⟨nofun, rfl⟩
          dsimp only
          split
          · rw [Prog.wp_bind]
            exact wp_finishReservation fun _ => hfailed
          · exact hfailed
        · exact hrefused ⟨nofun, rfl⟩
        · rw [Prog.wp_bind]
          refine wp_insert (fun s₃ => ?_) fun answer s₃ hne => ?_
          · dsimp only
            rw [Prog.wp_bind]
            exact wp_finishReservation fun _ =>
              ⟨List.subset_append_left _ _, fun _ => List.mem_append_right _ List.mem_cons_self⟩
          · split
            · rw [Prog.wp_bind]
              exact wp_finishReservation fun _ => hrefused ⟨nofun, rfl⟩
            · exact absurd rfl hne
            · exact Prog.wp_mono wp_reserveUnconfirmed fun _ _ => hrefused
            · exact Prog.wp_mono wp_reserveUnconfirmed fun _ _ => hrefused

/-- The keys that a record tells to be granted are known to have been inserted. -/
def Granted (record : List (AuthenticationExchange ν))
    (p : ReplayStore × List (CredentialRecordID × Bytes 16)) : Prop :=
  ∀ recordID nonce now, (recordID, nonce, now, .ok .reserved) ∈ reservations record →
    (recordID, nonce) ∈ p.2

theorem wp_replayHandler (record : List (AuthenticationExchange ν)) (call : AuthenticationCall)
    (p : ReplayStore × List (CredentialRecordID × Bytes 16)) (h : Granted record p) :
    (replayHandler call).wp (replayShared ν).environment
      (fun answer p' => Granted (record ++ [⟨call, answer⟩]) p') p := by
  obtain ⟨s, own⟩ := p
  have hquiet : ∀ {answer : call.Answer (GoError ν)} {s' : ReplayStore},
      reservations [⟨call, answer⟩] = [] → Granted (record ++ [⟨call, answer⟩]) (s', own) := by
    intro answer s' hnone recordID nonce now hmem
    rw [reservations, List.filterMap_append, List.mem_append] at hmem
    rcases hmem with hmem | hmem
    · exact h recordID nonce now hmem
    · rw [← reservations, hnone] at hmem
      cases hmem
  cases call with
  | reserve recordID nonce now =>
    refine Prog.wp_mono wp_reserve fun answer p' hp' => ?_
    intro recordID' nonce' now' hmem
    rw [reservations, List.filterMap_append, List.mem_append] at hmem
    rcases hmem with hmem | hmem
    · exact hp'.1 (h recordID' nonce' now' hmem)
    · cases List.mem_singleton.mp hmem
      exact hp'.2 rfl
  | contextErr => exact wp_quiet rfl fun _ _ => hquiet rfl
  | clock => exact wp_quiet rfl fun _ _ => hquiet rfl
  | boundAudience => exact wp_quiet rfl fun _ _ => hquiet rfl
  | credential => exact wp_quiet rfl fun _ _ => hquiet rfl
  | authenticationSecret => exact wp_quiet rfl fun _ _ => hquiet rfl
  | principal => exact wp_quiet rfl fun _ _ => hquiet rfl

/-- **A call that returns a principal has an admission, and has inserted its nonce.** -/
theorem wp_authenticateCall {hmac : KeyedHash}
    {sha256 : Hash} {service : AuthenticationService}
    {request : AuthenticationRequest} :
    (authenticateCall hmac sha256 service request).wp (replayShared ν).environment
      (fun last p => Granted last.1 p ∧ ∀ id, last.2 = .ok id → ∃ parsed credential secret now,
        Admission hmac sha256 service request last.1 parsed credential secret now) (s, []) :=
  Prog.wp_implement wp_replayHandler (fun _ _ => trivial) AuthenticationService.wp_authenticate
    (fun _ _ _ h => nomatch h)

end

/-! ## Any number of calls -/

section
variable {ι : Type} {hmac : KeyedHash} {sha256 : Hash}
  {services : ι → AuthenticationService} {requests : ι → AuthenticationRequest}

/-- The state of a number of calls. -/
abbrev ReplayConfig (ν ι : Type) := Shared.Config ReplayCall (ReplayCall.Answer (GoError ν))
  ReplayStore (List (CredentialRecordID × Bytes 16))
  (List (AuthenticationExchange ν) × Except AuthenticationError CorePrincipalID) ι

/-- No call has begun. -/
structure ReplayConfig.Starts (hmac : KeyedHash)
    (sha256 : Hash) (services : ι → AuthenticationService)
    (requests : ι → AuthenticationRequest) (c : ReplayConfig ν ι) : Prop where
  locals : ∀ i, c.locals i = []
  progs : ∀ i, c.progs i = authenticateCall hmac sha256 (services i) (requests i)

/-- What was inserted is there, and each key was inserted by one call. -/
structure ReplayConfig.Apart (c : ReplayConfig ν ι) : Prop where
  stored : ∀ i, c.locals i ⊆ c.shared.keys
  apart : ∀ i j key, key ∈ c.locals i → key ∈ c.locals j → i = j

omit [ErrorGraph ν] in
/-- A step keeps the calls apart: a key that is granted was not there. -/
theorem ReplayConfig.Apart.step {c c' : ReplayConfig ν ι} {i : ι} (h : c.Apart)
    (hstep : (replayShared ν).Step c i c') : c'.Apart := by
  obtain ⟨call, k, answer, -, hact, -, hother⟩ := hstep
  -- the keys stay, and what the caller knows more was not known
  have hkeys : c.shared.keys ⊆ c'.shared.keys ∧ (c'.locals i = c.locals i ∨
      ∃ key, c'.locals i = c.locals i ++ [key] ∧ key ∈ c'.shared.keys ∧ key ∉ c.shared.keys) := by
    cases call with
    | insert row =>
      obtain ⟨s₁, hgrown, ⟨-, hown, hnew, hins⟩ | ⟨-, hown, hins⟩⟩ := hact
      · rw [hins]
        exact ⟨fun _ hk => List.mem_cons_of_mem _ (hgrown hk), .inr ⟨row.key, hown,
          List.mem_cons_self, fun hk => hnew (hgrown hk)⟩⟩
      · refine ⟨?_, .inl hown⟩
        rcases hins with hins | ⟨hnew, hins⟩
        · rw [hins]
          exact hgrown
        · rw [hins]
          exact fun _ hk => List.mem_cons_of_mem _ (hgrown hk)
    | outside | contextErr | acquire | release | destroy => exact ⟨hact.2, .inl hact.1⟩
  obtain ⟨hgrown, hown⟩ := hkeys
  have hstored : ∀ j, c.locals j ⊆ c'.shared.keys := fun j _ hk => hgrown (h.stored j hk)
  -- a key of the step's call is one it had, or a new one
  have hcaller : ∀ key ∈ c'.locals i, key ∈ c'.shared.keys ∧
      (key ∈ c.locals i ∨ key ∉ c.shared.keys) := by
    intro key hkey
    rcases hown with hsame | ⟨new, hnew, hmem, hfresh⟩
    · rw [hsame] at hkey
      exact ⟨hstored i hkey, .inl hkey⟩
    · rw [hnew, List.mem_append, List.mem_singleton] at hkey
      rcases hkey with hkey | rfl
      · exact ⟨hstored i hkey, .inl hkey⟩
      · exact ⟨hmem, .inr hfresh⟩
  have hcross : ∀ j key, j ≠ i → key ∈ c'.locals i → key ∈ c.locals j → False := by
    intro j key hj hkey hkey'
    rcases (hcaller key hkey).2 with hold | hfresh
    · exact hj (h.apart j i key hkey' hold)
    · exact hfresh (h.stored j hkey')
  constructor
  · intro j
    by_cases hj : j = i
    · subst hj
      exact fun key hkey => (hcaller key hkey).1
    · rw [(hother j hj).1]
      exact hstored j
  · intro j j' key hkey hkey'
    by_cases hj : j = i <;> by_cases hj' : j' = i
    · rw [hj, hj']
    · subst hj
      rw [(hother j' hj').1] at hkey'
      exact (hcross j' key hj' hkey hkey').elim
    · subst hj'
      rw [(hother j hj).1] at hkey
      exact (hcross j key hj hkey' hkey).elim
    · rw [(hother j hj).1] at hkey
      rw [(hother j' hj').1] at hkey'
      exact h.apart j j' key hkey hkey'

/-! ## The window -/

/-- A timestamp that the service accepts when its clock reads `now`. -/
def InWindow (now : Time) (signed : Nat) : Prop :=
  ¬ (now = 0 ∨ now.unix < 0) ∧ timestampWithinWindow now.unix.toNat signed = true

theorem timestampWithinWindow_iff {now signed : Nat} :
    timestampWithinWindow now signed = true ↔ now ≤ signed + 60 ∧ signed ≤ now + 60 := by
  unfold timestampWithinWindow maximumTimestampDifference
  split <;> simp only [decide_eq_true_eq] <;> omega

/-- **A reservation outlives the time in which its request can be accepted.** -/
theorem InWindow.before_expiry {t₀ t₁ : Time} {signed : Nat} (h₀ : InWindow t₀ signed)
    (h₁ : InWindow t₁ signed) (recordID : CredentialRecordID) (nonce : Bytes 16) :
    t₁ < (replayReservation recordID nonce t₀).expiresAt.toTime := by
  obtain ⟨hclock₀, hw₀⟩ := h₀
  obtain ⟨hclock₁, hw₁⟩ := h₁
  rw [timestampWithinWindow_iff] at hw₀ hw₁
  simp only [not_or, not_lt, Time.unix] at hclock₀ hclock₁ hw₀ hw₁
  -- the clocks are at most 120 s apart, up to the second they have begun
  simp only [Time.lt_iff, replayReservation, Timestamp.toTime_nanos, Timestamp.ofTime_micros,
    Time.add, replayReservationLifetime]
  omega

/-- The calls that have ended, in every interleaving. -/
theorem ended_of_run {c₀ c : ReplayConfig ν ι} {is : List ι}
    (hstart : c₀.Starts hmac sha256 services requests) (hrun : Run (replayShared ν).Step c₀ is c)
    {i : ι} {record : List (AuthenticationExchange ν)}
    {outcome : Except AuthenticationError CorePrincipalID}
    (hi : c.progs i = .ret (record, outcome)) :
    Granted record (c.shared, c.locals i) ∧ ∀ id, outcome = .ok id →
      ∃ parsed credential secret now,
        Admission hmac sha256 (services i) (requests i) record parsed credential secret now := by
  have hcorrect : (replayShared ν).Correct (fun i last p => Granted last.1 p ∧ ∀ id,
      last.2 = .ok id → ∃ parsed credential secret now,
        Admission hmac sha256 (services i) (requests i) last.1 parsed credential secret now) c₀ := by
    refine ⟨fun _ _ _ => trivial, fun j => ?_⟩
    rw [hstart.progs j, hstart.locals j]
    exact wp_authenticateCall
  have hwp := (replay_lawful.interleaving (fun _ _ _ _ _ _ h => h) hcorrect hrun).wp i
  rw [hi] at hwp
  exact hwp

/-- **A nonce is admitted at most once.**  Any number of calls of `Authenticate`, on any
instances and by any clocks, share the table of reservations.  A call that has returned a
principal was admitted, for one reservation, which was granted; two such calls for the same
credential record and nonce are the same call; a call with a reservation that was refused,
failed, canceled or of unknown outcome has returned an error.  A clock that admits a signed
timestamp reads less than the `expires_at` that is stored when any other such clock makes the
reservation, so that after a deletion no later reading admits it. -/
theorem nonce_admitted_once {c₀ c : ReplayConfig ν ι} {is : List ι}
    (hstart : c₀.Starts hmac sha256 services requests)
    (hrun : Run (replayShared ν).Step c₀ is c) :
    (∀ i record id, c.progs i = .ret (record, .ok id) → ∃ parsed credential secret now,
      Admission hmac sha256 (services i) (requests i) record parsed credential secret now) ∧
    (∀ i j recordᵢ recordⱼ idᵢ idⱼ, c.progs i = .ret (recordᵢ, .ok idᵢ) →
      c.progs j = .ret (recordⱼ, .ok idⱼ) →
      ∀ parsedᵢ parsedⱼ credentialᵢ credentialⱼ secretᵢ secretⱼ nowᵢ nowⱼ,
        Admission hmac sha256 (services i) (requests i) recordᵢ parsedᵢ credentialᵢ secretᵢ nowᵢ →
        Admission hmac sha256 (services j) (requests j) recordⱼ parsedⱼ credentialⱼ secretⱼ nowⱼ →
        credentialᵢ.recordID = credentialⱼ.recordID → parsedᵢ.nonce = parsedⱼ.nonce → i = j) ∧
    (∀ i record outcome, c.progs i = .ret (record, outcome) →
      (∃ reservation ∈ reservations record, reservation.2.2.2 ≠ .ok .reserved) →
      ∃ err, outcome = .error err) ∧
    ∀ signed t₀ t₁, InWindow t₀ signed → InWindow t₁ signed → ∀ recordID nonce,
      t₁ < (replayReservation recordID nonce t₀).expiresAt.toTime ∧
      ∀ deleted t, (replayReservation recordID nonce t₀).expiresAt.toTime ≤ deleted → deleted ≤ t →
        ¬ InWindow t signed := by
  have hapart : c.Apart := by
    refine hrun.invariant (P := ReplayConfig.Apart) (fun _ _ _ hs hstep => hs.step hstep) ⟨?_, ?_⟩
    · intro i
      rw [hstart.locals i]
      exact fun _ h => nomatch h
    · intro i j key hkey
      rw [hstart.locals i] at hkey
      cases hkey
  refine ⟨fun i record id hi => (ended_of_run hstart hrun hi).2 id rfl, ?_, ?_, ?_⟩
  · intro i j recordᵢ recordⱼ idᵢ idⱼ hi hj parsedᵢ parsedⱼ credentialᵢ credentialⱼ secretᵢ secretⱼ
      nowᵢ nowⱼ hadmittedᵢ hadmittedⱼ hrecordID hnonce
    -- both have inserted the same key
    have hownᵢ : (credentialᵢ.recordID, parsedᵢ.nonce) ∈ c.locals i :=
      (ended_of_run hstart hrun hi).1 _ _ nowᵢ (by rw [hadmittedᵢ.reserved]; exact List.mem_cons_self)
    have hownⱼ : (credentialⱼ.recordID, parsedⱼ.nonce) ∈ c.locals j :=
      (ended_of_run hstart hrun hj).1 _ _ nowⱼ (by rw [hadmittedⱼ.reserved]; exact List.mem_cons_self)
    rw [hrecordID, hnonce] at hownᵢ
    exact hapart.apart i j _ hownᵢ hownⱼ
  · rintro i record outcome hi ⟨reservation, hmem, hne⟩
    cases outcome with
    | error err => exact ⟨err, rfl⟩
    | ok id =>
      obtain ⟨parsed, credential, secret, now, hadmitted⟩ := (ended_of_run hstart hrun hi).2 id rfl
      rw [hadmitted.reserved] at hmem
      cases List.mem_singleton.mp hmem
      exact absurd rfl hne
  · intro signed t₀ t₁ h₀ h₁ recordID nonce
    refine ⟨h₀.before_expiry h₁ recordID nonce, fun deleted t hdeleted ht hw => ?_⟩
    exact absurd (h₀.before_expiry hw recordID nonce) (not_lt.mpr (hdeleted.trans ht))

end

end

/-- The answers of dependencies that know the credential of `sampleSigned`, ten seconds after
its timestamp. -/
def sampleDependency : (call : AuthenticationCall) → call.Answer (GoError Empty)
  | .contextErr => (none : Option (GoError Empty))
  | .clock => (⟨(62135596800 + 1700000010) * 1000000000⟩ : Time)
  | .boundAudience => .ok (Bytes.fill 16 1)
  | .credential audience id => .ok {
      audienceID := audience
      principalID := Bytes.fill 16 2
      slotID := Bytes.fill 16 3
      recordID := Bytes.fill 16 4
      publicID := id
      state := .active
      notBefore := ⟨0⟩
      expiresAt := ⟨(62135596800 + 1800000000) * 1000000000⟩
      activatedAt := ⟨0⟩
      retirementDeadline := 0 }
  | .authenticationSecret _ _ => .ok (Bytes.fill 32 6)
  | .reserve _ _ _ => .ok .other
  | .principal audience id => .ok ⟨audience, id, true, true⟩

/-- The table, without faults. -/
def sampleTable (p : ReplayStore × List (CredentialRecordID × Bytes 16)) :
    (call : ReplayCall) → call.Answer (GoError Empty) ×
      (ReplayStore × List (CredentialRecordID × Bytes 16))
  | .outside call => (sampleDependency call, p)
  | .contextErr => ((none : Option (GoError Empty)), p)
  | .acquire => (Opened.opened, p)
  | .insert row =>
    if h : row.key ∉ p.1.keys then (.scanned (.ok true), p.1.insert row h, p.2 ++ [row.key])
    else (.scanned (.error (.sentinel .pgxErrNoRows)), p)
  | .release => ((), p)
  | .destroy => ((), p)

theorem sampleTable_act (p : ReplayStore × List (CredentialRecordID × Bytes 16))
    (call : ReplayCall) : (replayShared Empty).act p.1 p.2 call (sampleTable p call).1
      (sampleTable p call).2.2 (sampleTable p call).2.1 := by
  cases call with
  | insert row =>
    refine ⟨p.1, fun _ h => h, ?_⟩
    by_cases h : row.key ∉ p.1.keys
    · have hrow : sampleTable p (.insert row) = _ := dif_pos h
      rw [hrow]
      exact .inl ⟨rfl, rfl, h, rfl⟩
    · have hrow : sampleTable p (.insert row) = _ := dif_neg h
      rw [hrow]
      exact .inr ⟨nofun, rfl, .inl rfl⟩
  | outside | contextErr | acquire | release | destroy => exact ⟨rfl, fun _ h => h⟩

/-- Hash functions of the samples: the keyed one is the signature of `sampleSigned`. -/
def sampleSignature (_ _ : ByteString) : Bytes 32 := Bytes.fill 32 9

@[inherit_doc sampleSignature]
def sampleSha256 (_ : ByteString) : Bytes 32 := Bytes.fill 32 8

/-- Two calls for `sampleSigned 1`, which was captured and is sent again, before they are made.
The table holds another reservation. -/
def sampleReplay : ReplayConfig Empty (Fin 2) :=
  ⟨⟨[replayReservation (Bytes.fill 16 5) (Bytes.fill 16 5) ⟨1000000000⟩], List.nodup_singleton _⟩,
    fun _ => [],
    fun _ => authenticateCall sampleSignature sampleSha256 sampleInstance (sampleSigned 1)⟩

/-- The two calls in turns, until both have returned. -/
def sampleTurns : List (Fin 2) := (List.replicate 18 [0, 1]).flatten

instance {ν : Type} : DecidableRel (replayShared ν).compatible := fun _ _ => isTrue trivial

/-- The first call is admitted; the second, whose reservation finds the row of the first, has
returned an error. -/
theorem sampleReplay_admitted_once : ∃ record record' id err,
    (sampleReplay.follow sampleTable sampleTurns).progs 0 = .ret (record, .ok id) ∧
    (sampleReplay.follow sampleTable sampleTurns).progs 1 = .ret (record', .error err) ∧
    ∃ parsed credential secret now, Admission sampleSignature sampleSha256 sampleInstance
      (sampleSigned 1) record parsed credential secret now := by
  have hfirst : ((sampleReplay.follow sampleTable sampleTurns).progs 0).value?.map Prod.snd =
      some (.ok ⟨List.replicate 16 2, List.length_replicate⟩) := by decide +kernel
  have hsecond : ((sampleReplay.follow sampleTable sampleTurns).progs 1).value?.map
      (fun last => (reservations last.1).map fun reservation => reservation.2.2.2) =
      some [.ok .duplicate] := by decide +kernel
  obtain ⟨⟨record, outcome⟩, hlast, rfl⟩ := Option.map_eq_some_iff.mp hfirst
  obtain ⟨⟨record', outcome'⟩, hlast', hrefused⟩ := Option.map_eq_some_iff.mp hsecond
  have hstart : sampleReplay.Starts sampleSignature sampleSha256 (fun _ => sampleInstance)
      (fun _ => sampleSigned 1) := ⟨fun _ => rfl, fun _ => rfl⟩
  obtain ⟨hadmitted, -, hrejected, -⟩ :=
    nonce_admitted_once hstart (Shared.run_follow sampleTable_act
      (show sampleReplay.Admits (replayShared Empty) sampleTable sampleTurns by decide +kernel))
  obtain ⟨reservation, hmem, hanswer⟩ : ∃ reservation ∈ reservations record',
      reservation.2.2.2 = .ok .duplicate :=
    List.mem_map.mp (hrefused ▸ List.mem_singleton_self _)
  obtain ⟨err, rfl⟩ := hrejected 1 record' outcome' (Prog.eq_ret_of_value? hlast')
    ⟨reservation, hmem, by rw [hanswer]; nofun⟩
  exact ⟨record, record', _, err, Prog.eq_ret_of_value? hlast, Prog.eq_ret_of_value? hlast',
    hadmitted 0 record _ (Prog.eq_ret_of_value? hlast)⟩

end OncallGateway
