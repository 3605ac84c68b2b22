import OncallGateway.AcceptanceStore
import OncallGateway.Lib.SessionRuns

/-! # Acceptances beside each other

Any number of calls of `intake.Service.Accept`, each with its own request, share one table that
is empty at first.  In every interleaving of their transactions, with any calls failing and any
commit of an unknown outcome, an identity is stored once, and every answer about it is about
that one row (`acceptance_idempotent`).

The active key may change at any time.  A key identifier stands for one key
(`keyringWorld`), so that `KeyByID`, when it returns a key, returns the one that was used.
The hash is taken to have no collision among the events of the calls.
-/

namespace OncallGateway

/-- What the authenticated encryption opens of what it has sealed. -/
def Aead.Correct (aead : Aead) : Prop :=
  ∀ key nonce plaintext aad : ByteString, key.length = 32 → nonce.length = gcmNonceSize →
    aead.openBytes key nonce (aead.sealBytes key nonce plaintext aad) aad = some plaintext

/-- The context in which the event of a row is sealed, or its digest. -/
def AcceptanceRow.context (row : AcceptanceRow) (purpose : UInt8) : AADContext :=
  protectionContext purpose row.canonicalEventFormatVersion row.coreDeliveryIdentity
    row.corePrincipalID row.destinationID row.encryptionKeyID

/-- The event that is stored in a row: its format version and its canonical bytes. -/
def AcceptanceRow.event? (aead : Aead) (keyring : ByteString → Key) (row : AcceptanceRow) :
    Option (Int64 × ByteString) :=
  (aead.openBytes (keyring row.encryptionKeyID).material row.canonicalEvent.nonce
    row.canonicalEvent.ciphertext (row.context purposeEvent).spelled).map
      fun data => (row.canonicalEventFormatVersion, data)

/-- The identity of a request, if it has one. -/
def IntakeRequest.identity? (request : IntakeRequest) :
    Option (ByteString × ByteString × DeliveryIdentity) :=
  (parseDeliveryIdentity request.deliveryIdentity).toOption.map fun identity =>
    (request.corePrincipalID, request.destinationID, identity)

/-- The world in which a key identifier stands for one key. -/
def keyringWorld {ν : Type} (keyring : ByteString → Key) : AcceptanceWorld ν
  | .activeKey, answer => ∀ key, answer = some key → keyring key.id = key
  | .keyByID id, answer => ∀ key, answer = some key → key.id = id → keyring id = key
  | .contextErr, _ => True
  | .readRandom _, _ => True
  | .newReceiptID, _ => True

section
variable {ν ι : Type} [ErrorGraph ν]

/-- The calls: what each is asked for, and the order in which it ranges over a map. -/
structure AcceptanceCalls (ι : Type) where
  request : ι → IntakeRequest
  order : ι → RangeOrder ByteString ByteString

variable (calls : AcceptanceCalls ι) (aead : Aead) (sum256 : Hash)
  (keyring : ByteString → Key)

/-- The canonical form of a call's event. -/
def AcceptanceCalls.canonical (i : ι) : Except Sentinel CanonicalEvent :=
  canonicalizeEvent (calls.order i) sum256 ((calls.request i).event.getD .foreign)

/-- No two events of the calls have the same hash and different bytes. -/
def AcceptanceCalls.CollisionFree : Prop :=
  ∀ i j event event', calls.canonical sum256 i = .ok event → calls.canonical sum256 j = .ok event' →
    sum256 event.data = sum256 event'.data → event.data = event'.data

/-- The row is one that a call inserts, for this event with this key. -/
structure AcceptanceCalls.Inserts (i : ι) (event : CanonicalEvent) (key : Key)
    (row : AcceptanceRow) : Prop where
  canonical : calls.canonical sum256 i = .ok event
  keyringKey : keyring key.id = key
  made : ∃ identity prepared receipt, prepared.Of aead sum256 (calls.request i).corePrincipalID
    (calls.request i).destinationID identity event key ∧ row = Candidate.row ⟨receipt, prepared⟩

/-- The rows that the calls insert. -/
def AcceptanceCalls.Made (row : AcceptanceRow) : Prop :=
  ∃ i event key, calls.Inserts aead sum256 keyring i event key row

/-- Calls and the table, as a configuration of processes. -/
abbrev AcceptanceConfig (ν ι : Type) :=
  Shared.Config (Session.Request AcceptanceSql AcceptanceCall)
    (Session.Reply (GoError ν) (AcceptanceSql.Answer (GoError ν))
      (AcceptanceCall.Answer (GoError ν))) AcceptanceTable
    (AcceptanceSession) (AcceptanceResult × Option Sentinel) ι

/-- No call has begun. -/
def AcceptanceCalls.initial : AcceptanceConfig ν ι where
  shared := .empty
  locals _ := ⟨none, []⟩
  progs i := intakeAccept aead sum256 (calls.order i) (calls.request i)

/-- The database of the calls. -/
def AcceptanceCalls.spec :
    Session.Spec (GoError ν) (AcceptanceSql.Answer (GoError ν)) (AcceptanceCall.Answer (GoError ν))
      AcceptanceTable (List AcceptanceRow) :=
  acceptanceSpec (keyringWorld keyring) (calls.Made aead sum256 keyring)

/-! ## What a row holds -/

section
variable {calls aead sum256 keyring} {i : ι} {event : CanonicalEvent} {key : Key}
  {row : AcceptanceRow}

theorem AcceptanceCalls.Inserts.version (h : calls.Inserts aead sum256 keyring i event key row) :
    row.canonicalEventFormatVersion = event.formatVersion := by
  obtain ⟨-, -, identity, prepared, receipt, hof, rfl⟩ := h
  exact hof.version

/-- A row that a call has inserted holds the call's event. -/
theorem AcceptanceCalls.Inserts.event? (haead : aead.Correct)
    (h : calls.Inserts aead sum256 keyring i event key row) :
    row.event? aead keyring = some (event.formatVersion, event.data) := by
  obtain ⟨-, hkeyring, identity, prepared, receipt, hof, rfl⟩ := h
  have hkey : keyring prepared.encryptionKeyID = key := by rw [hof.keyID, hkeyring]
  have hopen := haead key.material prepared.canonicalEvent.nonce event.data
    (prepared.context purposeEvent).spelled hof.keyValid.2.2 hof.sealedEvent.nonceSize
  rw [hof.sealedEvent.text, ← hkey] at hopen
  rw [← hof.version]
  exact congrArg (Option.map fun data => (prepared.formatVersion, data)) hopen

/-- A row that a call has inserted can be opened by whoever has the same identity. -/
theorem AcceptanceCalls.Inserts.opens (haead : aead.Correct)
    (h : calls.Inserts aead sum256 keyring i event key row) {acceptance : PreparedAcceptance}
    (hidentity : row.identity =
      (acceptance.corePrincipalID, acceptance.destinationID, acceptance.deliveryIdentity)) :
    key.Valid ∧ key.id = row.encryptionKeyID ∧
      unprotect aead (row.stored.openRequest acceptance) key = .ok (sum256 event.data) := by
  obtain ⟨-, -, identity, prepared, receipt, hof, rfl⟩ := h
  injection hidentity with hprincipal hrest
  injection hrest with hdestination hdelivery
  have hcontext : ((Candidate.row ⟨receipt, prepared⟩).stored.openRequest acceptance).context =
      prepared.context purposeDigest := by
    simp only [DigestOpenRequest.context, PreparedAcceptance.context,
      StoredAcceptance.openRequest, AcceptanceRow.stored, ← hprincipal, ← hdestination,
      ← hdelivery]
    rfl
  have hown := haead key.material prepared.protectedDigest.nonce (sum256 event.data).toList
    (prepared.context purposeDigest).spelled hof.keyValid.2.2 hof.sealedDigest.nonceSize
  rw [hof.sealedDigest.text] at hown
  refine ⟨hof.keyValid, hof.keyID.symm, unprotect_eq_ok.mpr ?_⟩
  rw [hcontext]
  exact ⟨hof.sealedDigest.built, hof.keyValid, hof.sealedDigest.nonceSize, hown⟩

/-- Its digest opens as that of the call's event only. -/
theorem AcceptanceCalls.Inserts.digest_eq (haead : aead.Correct)
    (h : calls.Inserts aead sum256 keyring i event key row) {acceptance : PreparedAcceptance}
    (hidentity : row.identity =
      (acceptance.corePrincipalID, acceptance.destinationID, acceptance.deliveryIdentity))
    {key' : Key} (hkey' : keyring row.encryptionKeyID = key') {digest : CanonicalDigest}
    (hopen : unprotect aead (row.stored.openRequest acceptance) key' = .ok digest) :
    digest = sum256 event.data := by
  obtain ⟨-, hid, hopens⟩ := h.opens haead hidentity
  obtain rfl : key' = key := by rw [← hkey', ← hid, h.keyringKey]
  rw [hopens] at hopen
  exact (Except.ok.inj hopen).symm

end

/-! ## Transactions beside each other -/

/-- Two lists of keys that are each apart from the first are so together. -/
theorem nodup_map_append {α β : Type} {f : α → β} {rows t u : List α}
    (h : ((rows ++ t).map f).Nodup) (h' : ((rows ++ u).map f).Nodup)
    (hapart : ∀ a ∈ u, ∀ b ∈ t, f a ≠ f b) : ((rows ++ t ++ u).map f).Nodup := by
  rw [List.map_append, List.nodup_append] at h' ⊢
  refine ⟨h, h'.2.1, ?_⟩
  intro x hx y hy
  rw [List.map_append, List.mem_append] at hx
  rcases hx with hx | hx
  · exact h'.2.2 x hx y hy
  · obtain ⟨a, ha, rfl⟩ := List.mem_map.mp hx
    obtain ⟨b, hb, rfl⟩ := List.mem_map.mp hy
    exact (hapart b hb a ha).symm

theorem AcceptanceRows.append {rows t u : List AcceptanceRow} (h : AcceptanceRows (rows ++ t))
    (h' : AcceptanceRows (rows ++ u)) (hapart : ∀ row ∈ u, ∀ row' ∈ t,
      row.receiptID ≠ row'.receiptID ∧ row.identity ≠ row'.identity) :
    AcceptanceRows (rows ++ t ++ u) where
  pkey := nodup_map_append h.pkey h'.pkey fun a ha b hb => (hapart a ha b hb).1
  deliveryIdentityUnique := nodup_map_append h.deliveryIdentityUnique h'.deliveryIdentityUnique
    fun a ha b hb => (hapart a ha b hb).2
  checked row hrow := by
    rcases List.mem_append.mp hrow with hrow | hrow
    · exact h.checked row hrow
    · exact h'.checked row (List.mem_append_right _ hrow)

variable {good : AcceptanceRow → Prop}

/-- **A commit is what the transactions beside it expect.** -/
theorem acceptance_lawful {world : AcceptanceWorld ν} :
    (acceptanceSpec world good).shared.Lawful := by
  refine Session.Spec.lawful id acceptance_rely_refl acceptance_rely_trans ?_ ?_
  · exact fun t u h row hrow row' hrow' =>
      ⟨(h row' hrow' row hrow).1.symm, (h row' hrow' row hrow).2.symm⟩
  · rintro t u s s' ⟨hrows, hgood⟩ hcompatible
    refine ⟨⟨t, hrows, hgood⟩, fun hu => ?_⟩
    rw [hrows]
    exact AcceptanceRows.append (hrows ▸ s'.valid) hu hcompatible

variable {calls aead sum256 keyring}

variable (calls aead sum256 keyring) in
/-- What a call has done when it returns, in the table that was empty at first. -/
def AcceptanceCalls.Done (ν : Type) (i : ι) :
    AcceptanceResult × Option Sentinel →
      AcceptanceState → Prop :=
  Session.Spec.Ended (AcceptanceTable.Grows (calls.Made aead sum256 keyring)) .empty []
    (IntakeOutcome (keyringWorld keyring : AcceptanceWorld ν) aead sum256 (calls.order i)
      (calls.request i))

/-- Every call is correct alone. -/
theorem AcceptanceCalls.correct :
    (calls.spec aead sum256 keyring).shared.Correct (calls.Done aead sum256 keyring ν)
      (calls.initial aead sum256 : AcceptanceConfig ν ι) where
  compatible i j _ row hrow := absurd hrow List.not_mem_nil
  wp i := by
    refine intakeAccept_ends ?_ .empty []
    intro identity event key prepared hprepared receipt _
    exact ⟨i, event, key, hprepared.canonical, hprepared.active key rfl, identity, prepared,
      receipt, hprepared.made, rfl⟩

omit [ErrorGraph ν] in
/-- What was done stays done, whatever others do later. -/
theorem AcceptanceCalls.Done.later {i : ι} {a : AcceptanceResult × Option Sentinel}
    {s s' : AcceptanceTable} {l : AcceptanceSession}
    (hs : s.Grows (calls.Made aead sum256 keyring) s')
    (h : calls.Done aead sum256 keyring ν i a (s, l)) :
    calls.Done aead sum256 keyring ν i a (s', l) := by
  obtain ⟨changes, hl, hhistory, houtcome⟩ := h
  have hlater : Session.History _ _ (changes ++ []) s' :=
    hhistory.append (fun _ _ _ => .trans) (.nil hs)
  rw [List.append_nil] at hlater
  exact ⟨changes, hl, hlater, houtcome⟩

variable (calls aead sum256 keyring) in
/-- What holds of every configuration that is reached. -/
structure AcceptanceCalls.Reached (c : AcceptanceConfig ν ι) : Prop where
  done : ∀ i a, c.progs i = .ret a → calls.Done aead sum256 keyring ν i a (c.shared, c.locals i)
  made : ∀ row ∈ c.shared.rows, calls.Made aead sum256 keyring row
  ordered : Session.Spec.Ordered (AcceptanceTable.Grows (calls.Made aead sum256 keyring)) c

/-- **What each call does alone, and their order, hold in every interleaving.** -/
theorem AcceptanceCalls.reached {is : List ι} {c : AcceptanceConfig ν ι}
    (hrun : Run (calls.spec aead sum256 keyring).shared.Step (calls.initial aead sum256) is c) :
    calls.Reached aead sum256 keyring c := by
  have hlawful : (acceptanceSpec (keyringWorld keyring : AcceptanceWorld ν)
      (calls.Made aead sum256 keyring)).shared.Lawful := acceptance_lawful
  have hQ : ∀ i a l s s', (acceptanceSpec (keyringWorld keyring : AcceptanceWorld ν)
        (calls.Made aead sum256 keyring)).shared.rely l s s' →
      calls.Done aead sum256 keyring ν i a (s, l) → calls.Done aead sum256 keyring ν i a (s', l) :=
    fun i a l s s' hs h => h.later hs.1
  have hcorrect := hlawful.interleaving hQ AcceptanceCalls.correct hrun
  refine ⟨fun i a ha => ?_, ?_, ?_⟩
  · have hwp := hcorrect.wp i
    rw [ha] at hwp
    exact hwp
  · refine Session.Spec.invariant (P := fun s => ∀ row ∈ s.rows, calls.Made aead sum256 keyring row)
      id hlawful hQ ?_ hrun AcceptanceCalls.correct fun row hrow => absurd hrow List.not_mem_nil
    rintro t s s' ⟨hrows, hgood⟩ hs row hrow
    rw [hrows] at hrow
    exact (List.mem_append.mp hrow).elim (hs row) (hgood row)
  · refine Session.Spec.ordered id hlawful hQ .refl (fun _ _ _ => .trans) ?_ hrun
      AcceptanceCalls.correct ⟨fun i x hx => absurd hx List.not_mem_nil, fun i j _ x hx =>
        absurd hx List.not_mem_nil⟩
    rintro t s s' ⟨hrows, hgood⟩
    exact ⟨t, hrows, hgood⟩

/-! ## Calls one after the other -/

section
variable [DecidableEq ι]

/-- A call goes through its program in these surroundings, while the others wait; with the number
of calls to the world. -/
def AcceptanceConfig.callAlone (w : AcceptanceSurroundings ν) (c : AcceptanceConfig ν ι × Nat)
    (i : ι) : AcceptanceConfig ν ι × Nat :=
  let ended := (c.1.progs i).eval (answerAcceptance w) ((c.1.shared, c.1.locals i), c.2)
  (c.1.set i ended.2.1.1 ended.2.1.2 (.settle ended.1), ended.2.2)

theorem AcceptanceConfig.callAlone_run {world : AcceptanceWorld ν} {w : AcceptanceSurroundings ν}
    (hworld : ∀ n call, world call (w.outside n call)) {c : AcceptanceConfig ν ι × Nat} {i : ι}
    (hothers : ∀ j, (c.1.locals j).tx = none)
    (hended : ((callAlone w c i).1.progs i).value?.isSome = true) :
    ∃ n, Run (acceptanceSpec world good).shared.Step c.1 (List.replicate n i)
      (callAlone w c i).1 := by
  have hprog : (callAlone w c i).1.progs i = .settle _ := Function.update_self ..
  rw [hprog] at hended
  rw [callAlone]
  cases heval : (c.1.progs i).eval (answerAcceptance w) ((c.1.shared, c.1.locals i), c.2) with
  | mk result q =>
  rw [heval] at hended
  cases result with
  | error reason => cases hended
  | ok a =>
    refine Shared.run_alone (Prog.eval_runs_map (f := Prod.fst) (fun q request => ?_) heval) rfl
      rfl fun _ _ => rfl
    refine ⟨answerAcceptance_act w hworld q request, fun j _ row _ row' hrow' => ?_⟩
    rw [hothers j] at hrow'
    exact absurd hrow' List.not_mem_nil

end

/-- A hash: the length. -/
def lengthSum256 (data : ByteString) : Bytes 32 :=
  .fill 32 (UInt8.ofNat data.length)

/-- Three calls for one identity, of which the last has another event; they are made one after
the other. -/
def sampleCalls : AcceptanceCalls (Fin 3) where
  request i := { sampleIntakeRequest with
    event := some (.value (.test ⟨.ascii (if i = 2 then "Pager" else "Core")⟩)) }
  order _ := sampleOrder

@[inherit_doc sampleCalls]
def sampleCallsAfter (is : List (Fin 3)) : AcceptanceConfig Empty (Fin 3) × Nat :=
  is.foldl (AcceptanceConfig.callAlone (numbered sampleKey))
    (sampleCalls.initial plainAead lengthSum256, 0)

omit [ErrorGraph ν] in
/-- One key, whatever its identifier. -/
theorem keyringWorld_numbered {key : Key} (n : Nat) (call : AcceptanceCall) :
    (keyringWorld fun _ => key : AcceptanceWorld ν) call ((numbered key).outside n call) := by
  cases call with
  | contextErr => trivial
  | activeKey => exact fun key' hkey => Option.some.inj hkey
  | keyByID id => exact fun key' hkey _ => Option.some.inj hkey
  | readRandom size => trivial
  | newReceiptID => trivial

/-! ## Answers -/

/-- The row answers the event so: with its receipt, if it holds this event, and otherwise with
none and without a change. -/
def AcceptanceRow.Answers (aead : Aead) (keyring : ByteString → Key) (row : AcceptanceRow)
    (event : CanonicalEvent) (result : AcceptanceResult) (changes : TableChanges) : Prop :=
  match result.disposition with
  | .acceptedNew | .acceptedDuplicate => result.receiptID = row.receiptID ∧
      row.event? aead keyring = some (event.formatVersion, event.data)
  | .identityConflict => result.receiptID.IsZero ∧ (∀ change ∈ changes, change.2 = change.1) ∧
      ∃ stored, row.event? aead keyring = some stored ∧ stored ≠ (event.formatVersion, event.data)
  | .unset => False

omit [ErrorGraph ν] in
/-- A call that has returned an answer, with the row that it is about. -/
theorem IntakeOutcome.answer (haead : aead.Correct) (hcollision : calls.CollisionFree sum256)
    {i : ι} {result : AcceptanceResult} {changes : TableChanges}
    (h : IntakeOutcome (keyringWorld keyring : AcceptanceWorld ν) aead sum256 (calls.order i)
      (calls.request i) (result, none) changes) :
    ∃ event row b a, calls.canonical sum256 i = .ok event ∧ changes = [(b, a)] ∧ row ∈ a.rows ∧
      (calls.request i).identity? = some row.identity ∧
      (result.disposition = .acceptedNew → a.rows = b.rows ++ [row]) ∧
      (calls.Made aead sum256 keyring row → row.Answers aead keyring event result changes) := by
  cases h with
  | @answered identity event key prepared _ _ hprepared hdurable =>
    have hof := hprepared.made
    have hcanonical : calls.canonical sum256 i = .ok event := hprepared.canonical
    have hidentity : (calls.request i).identity? = some
        (prepared.corePrincipalID, prepared.destinationID, prepared.deliveryIdentity) := by
      rw [IntakeRequest.identity?, hprepared.parsed, hof.principal, hof.destination, hof.identity]
      rfl
    cases hdurable with
    | @new receipt b a _ hrows =>
      have hinserts : calls.Inserts aead sum256 keyring i event key
          (Candidate.row ⟨receipt, prepared⟩) :=
        ⟨hcanonical, hprepared.active key rfl, identity, prepared, receipt, hof, rfl⟩
      refine ⟨event, Candidate.row ⟨receipt, prepared⟩, b, a, hcanonical, rfl, ?_, hidentity,
        fun _ => hrows, fun _ => ⟨rfl, hinserts.event? haead⟩⟩
      rw [hrows]
      exact List.mem_append_right _ List.mem_cons_self
    | @duplicate b row key' hmem hrow _ hanswered hkeyID hversion hopened =>
      refine ⟨event, row, b, b, hcanonical, rfl, hmem, hidentity.trans (by rw [hrow]),
        Disposition.noConfusion, ?_⟩
      rintro ⟨j, event', _, hinserts⟩
      have hdigest := hinserts.digest_eq haead hrow (hanswered key' rfl hkeyID) hopened
      rw [hof.equivalence] at hdigest
      have hdata := hcollision i j event event' hcanonical hinserts.canonical hdigest
      have hstored := hinserts.event? haead
      rw [← hinserts.version, hversion, hof.version, ← hdata] at hstored
      exact ⟨rfl, hstored⟩
    | @conflict b row key' digest hmem hrow hanswered hkeyID hopened hdiffers =>
      refine ⟨event, row, b, b, hcanonical, rfl, hmem, hidentity.trans (by rw [hrow]),
        Disposition.noConfusion, ?_⟩
      rintro ⟨j, event', _, hinserts⟩
      refine ⟨rfl, by simp, _, hinserts.event? haead, fun hsame => hdiffers ?_⟩
      injection hsame with hversion hdata
      have hdigest := hinserts.digest_eq haead hrow (hanswered key' rfl hkeyID) hopened
      rw [hdata, ← hof.equivalence] at hdigest
      exact ⟨hinserts.version.trans (hversion.trans hof.version.symm), hdigest⟩

omit [ErrorGraph ν] in
/-- A new row has an identity that none before it has. -/
theorem identity_ne_of_append {b a : AcceptanceTable} {row row' : AcceptanceRow}
    (h : a.rows = b.rows ++ [row]) (hrow' : row' ∈ b.rows) : row'.identity ≠ row.identity := by
  have hnodup := a.valid.deliveryIdentityUnique
  rw [h, List.map_append, List.nodup_append] at hnodup
  exact hnodup.2.2 _ (List.mem_map_of_mem hrow') _ (List.mem_singleton.mpr rfl)

/-- Keys that do not repeat select at most one element. -/
theorem length_filter_le_one {α β : Type} [DecidableEq β] {f : α → β} {l : List α}
    (h : (l.map f).Nodup) (k : β) : (l.filter fun a => f a = k).length ≤ 1 := by
  have hcount := List.nodup_iff_count_le_one.mp h k
  rw [List.count, List.countP_map, List.countP_eq_length_filter] at hcount
  exact hcount

/-- **Durable acceptance is idempotent in every interleaving.**  An identity is stored at most
once; at most one call answers that it is new; and every answer of a call is about the one row
of its identity: its receipt, for an event with the version and the bytes that are stored
there, and a conflict, without a change, for another. -/
theorem acceptance_idempotent (haead : aead.Correct) (hcollision : calls.CollisionFree sum256)
    {is : List ι} {c : AcceptanceConfig ν ι}
    (hrun : Run (calls.spec aead sum256 keyring).shared.Step (calls.initial aead sum256) is c) :
    (∀ identity, (c.shared.rows.filter fun row => row.identity = identity).length ≤ 1) ∧
    (∀ i j receipt receipt', c.progs i = .ret (⟨.acceptedNew, receipt⟩, none) →
      c.progs j = .ret (⟨.acceptedNew, receipt'⟩, none) →
      (calls.request i).identity? = (calls.request j).identity? → i = j) ∧
    ∀ i result, c.progs i = .ret (result, none) →
      ∃ event row, calls.canonical sum256 i = .ok event ∧ row ∈ c.shared.rows ∧
        (calls.request i).identity? = some row.identity ∧
        row.Answers aead keyring event result (c.locals i).own := by
  have hreached := AcceptanceCalls.reached hrun
  have hanswer : ∀ i result, c.progs i = .ret (result, none) → ∃ event row b a,
      calls.canonical sum256 i = .ok event ∧ (c.locals i).own = [(b, a)] ∧ row ∈ a.rows ∧
      (calls.request i).identity? = some row.identity ∧
      (result.disposition = .acceptedNew → a.rows = b.rows ++ [row]) ∧
      (calls.Made aead sum256 keyring row →
        row.Answers aead keyring event result (c.locals i).own) := by
    intro i result hi
    obtain ⟨changes, hl, -, houtcome⟩ := hreached.done i _ hi
    rw [show c.locals i = ⟨none, changes⟩ from hl]
    exact houtcome.answer haead hcollision
  refine ⟨fun identity => ?_, fun i j receipt receipt' hi hj hsame => ?_, fun i result hi => ?_⟩
  · exact length_filter_le_one c.shared.valid.deliveryIdentityUnique identity
  · -- the later of two commits has found the row of the earlier one
    obtain ⟨_, row, b, a, -, hown, hmem, hrow, hnew, -⟩ := hanswer i _ hi
    obtain ⟨_, row', b', a', -, hown', hmem', hrow', hnew', -⟩ := hanswer j _ hj
    have hidentity : row.identity = row'.identity := by
      rw [hrow, hrow'] at hsame
      exact Option.some.inj hsame
    by_contra hne
    rcases hreached.ordered.order i j hne (b, a) (by rw [hown]; exact List.mem_cons_self) (b', a')
      (by rw [hown']; exact List.mem_cons_self) with hle | hle
    · exact identity_ne_of_append (hnew' rfl) (hle.mem hmem) hidentity
    · exact identity_ne_of_append (hnew rfl) (hle.mem hmem') hidentity.symm
  · obtain ⟨event, row, b, a, hcanonical, hown, hmem, hrow, -, hanswers⟩ := hanswer i result hi
    have hstored : row ∈ c.shared.rows := (hreached.ordered.past i (b, a)
      (by rw [hown]; exact List.mem_cons_self)).mem hmem
    exact ⟨event, row, hcanonical, hstored, hrow, hanswers (hreached.made row hstored)⟩

theorem sampleCalls_collisionFree : sampleCalls.CollisionFree lengthSum256 := by
  have hevents : ∀ i j, ∀ event ∈ (sampleCalls.canonical lengthSum256 i).toOption,
      ∀ event' ∈ (sampleCalls.canonical lengthSum256 j).toOption,
        lengthSum256 event.data = lengthSum256 event'.data → event.data = event'.data := by
    decide +kernel
  intro i j event event' hi hj
  exact hevents i j event (by rw [hi]; rfl) event' (by rw [hj]; rfl)

theorem plainAead_correct : plainAead.Correct := fun _ _ _ _ _ _ => rfl

/-- The first call stores the event, the second finds it, and the third is told of a conflict. -/
theorem sampleCalls_answered : ∃ is c receipt,
    Run (sampleCalls.spec plainAead lengthSum256 fun _ => sampleKey).shared.Step
      (sampleCalls.initial plainAead lengthSum256 : AcceptanceConfig Empty (Fin 3)) is c ∧
    c.progs 0 = .ret (⟨.acceptedNew, receipt⟩, none) ∧
    c.progs 1 = .ret (⟨.acceptedDuplicate, receipt⟩, none) ∧
    c.progs 2 = .ret (⟨.identityConflict, .zero 16⟩, none) ∧
    ∃ row ∈ c.shared.rows, row.receiptID = receipt := by
  have hcall : ∀ (c : AcceptanceConfig Empty (Fin 3) × Nat) i,
      (∀ j, (c.1.locals j).tx = none) →
      ((AcceptanceConfig.callAlone (numbered sampleKey) c i).1.progs i).value?.isSome = true →
      ∃ n, Run (sampleCalls.spec plainAead lengthSum256 fun _ => sampleKey).shared.Step c.1
        (List.replicate n i) (AcceptanceConfig.callAlone (numbered sampleKey) c i).1 :=
    fun c i => AcceptanceConfig.callAlone_run keyringWorld_numbered
  obtain ⟨n₀, h₀⟩ := hcall (sampleCallsAfter []) 0 (by decide +kernel) (by decide +kernel)
  obtain ⟨n₁, h₁⟩ := hcall (sampleCallsAfter [0]) 1 (by decide +kernel) (by decide +kernel)
  obtain ⟨n₂, h₂⟩ := hcall (sampleCallsAfter [0, 1]) 2 (by decide +kernel) (by decide +kernel)
  have hrun := (h₀.append h₁).append h₂
  have hnew : (sampleCallsAfter [0, 1, 2]).1.progs 0 =
      .ret (⟨.acceptedNew, ⟨List.replicate 16 9, rfl⟩⟩, none) :=
    Prog.eq_ret_of_value? (by decide +kernel)
  obtain ⟨-, -, hanswers⟩ := acceptance_idempotent plainAead_correct sampleCalls_collisionFree hrun
  obtain ⟨event, row, -, hrow, -, hreceipt, -⟩ := hanswers 0 _ hnew
  exact ⟨_, _, _, hrun, hnew, Prog.eq_ret_of_value? (by decide +kernel),
    Prog.eq_ret_of_value? (by decide +kernel), row, hrow, hreceipt.symm⟩

end

end OncallGateway
