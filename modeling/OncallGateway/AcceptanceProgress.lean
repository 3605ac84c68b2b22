import OncallGateway.AcceptanceRuns

/-! # An acceptance that is left alone comes to its answer

What was proved so far of a call of `Accept` is true of every outcome, failures included.  Here
nothing fails during one call, and no other transaction is open; before it anything may have
happened.  The call then answers as the table says: with the stored receipt or a conflict for
an identity that is stored, and with a new receipt for one that is not (`accept_undisturbed`).
So a call that is repeated after `ErrStoreOutcomeUnknown` tells what has become of the first.
-/

namespace OncallGateway

/-! ## What the calls lead to -/

section
variable {ν : Type} (w : AcceptanceSurroundings ν)

/-- With these answers the program ends so, whatever was asked before. -/
def AcceptanceSurroundings.Leads {α : Type} (p : AcceptanceProg ν α)
    (x : AcceptanceState)
    (Q : α → AcceptanceState → Prop) : Prop :=
  ∀ n, p.wp (Prog.answering (answerAcceptance w)) (fun a q => Q a q.1) (x, n)

/-- Nothing fails: commits are acknowledged, the context is not done, the active key and
every key of the ring are given, the two nonces of an event differ, and a new receipt is
neither zero nor in the table. -/
structure AcceptanceSurroundings.Calm (keyring : ByteString → Key) (key : Key)
    (s : AcceptanceTable) : Prop where
  acknowledged : w.lost = none
  context : ∀ n, w.outside n .contextErr = (none : Option (GoError ν))
  active : ∀ n, w.outside n .activeKey = some key
  keyValid : key.Valid
  keyringKey : keyring key.id = key
  keys : ∀ n id, w.outside n (.keyByID id) = some (keyring id)
  random : ∀ n, ∃ eventNonce digestNonce : Bytes gcmNonceSize,
    w.outside n (.readRandom gcmNonceSize) = some eventNonce ∧
    w.outside (n + 1) (.readRandom gcmNonceSize) = some digestNonce ∧ eventNonce ≠ digestNonce
  receipts : ∀ n, ∃ receipt : ReceiptID, w.outside n .newReceiptID = some receipt ∧
    ¬ receipt.IsZero ∧ ∀ row ∈ s.rows, row.receiptID ≠ receipt

variable {w} {s s' : AcceptanceTable} {own : TableChanges}
  {x : AcceptanceState}
variable {acceptance : PreparedAcceptance} {row : AcceptanceRow}
  {identity : ByteString × ByteString × DeliveryIdentity}
variable {pending rows : List AcceptanceRow}

namespace AcceptanceSurroundings.Leads
variable {α : Type}
variable {Q : α → AcceptanceState → Prop} {p : AcceptanceProg ν α}

theorem pure {a : α} (hQ : Q a x) :
    w.Leads (pure a) x Q := fun _ => hQ

theorem bind {β : Type} {f : α → AcceptanceProg ν β} {Q : β → AcceptanceState → Prop}
    (h : w.Leads p x fun a y => w.Leads (f a) y Q) :
    w.Leads (p >>= f) x Q := by
  intro n
  exact Prog.wp_bind.mpr (Prog.wp_mono (h n) fun a q hq => hq q.2)

theorem mono {Q' : α → AcceptanceState → Prop} (h : w.Leads p x Q) (hQ : ∀ a y, Q a y → Q' a y) :
    w.Leads p x Q' :=
  fun n => Prog.wp_mono (h n) fun a q => hQ a q.1

/-- A computation without calls. -/
theorem settle {β : Type} {y : Except Stop α} {a : α} {f : α → AcceptanceProg ν β}
    {Q : β → AcceptanceState → Prop} (hy : y = .ok a) (h : w.Leads (f a) x Q) :
    w.Leads ((liftM y : AcceptanceProg ν α) >>= f) x Q := by
  subst hy
  exact h

/-- A call to the world. -/
theorem ask {call : AcceptanceCall}
    {Q : call.Answer (GoError ν) →
      AcceptanceState → Prop}
    (h : ∀ n, Q (w.outside n call) x) : w.Leads (Session.ask call) x Q :=
  fun n => Prog.wp_answering.mpr ⟨_, _, rfl, h n⟩

section
variable {Q : Session.Opened (GoError ν) →
  AcceptanceState → Prop}

theorem acquire (hQ : Q .opened x) : w.Leads Session.acquire x Q :=
  fun _ => Prog.wp_answering.mpr ⟨_, _, rfl, hQ⟩

theorem opens {access : Session.Access} {tx : Option (Session.Access × List AcceptanceRow)}
    (hQ : Q .opened (s, ⟨some (access, []), own⟩)) :
    w.Leads (Session.begin access) (s, ⟨tx, own⟩) Q :=
  fun _ => Prog.wp_answering.mpr ⟨_, _, rfl, hQ⟩

end

theorem release {Q : Unit → AcceptanceState → Prop} (hQ : Q () x) : w.Leads Session.release x Q :=
  fun _ => Prog.wp_answering.mpr ⟨_, _, rfl, hQ⟩

theorem commit {Q : Option (GoError ν) →
      AcceptanceState → Prop} (hlost : w.lost = none) (hrows : s'.rows = s.rows ++ pending)
    (hQ : Q none (s', ⟨none, own ++ [(s, s')]⟩)) :
    w.Leads Session.commit (s, ⟨some (.readWrite, pending), own⟩) Q := by
  obtain ⟨_, hvalid⟩ := s'
  subst hrows
  intro n
  refine Prog.wp_answering.mpr ?_
  simp only [Session.commit, Prog.eval, answerAcceptance, dif_pos hvalid, hlost]
  exact ⟨_, _, rfl, hQ⟩

section
variable {candidate : Candidate} {Q : Except (GoError ν) ByteString →
  AcceptanceState → Prop}

theorem insert (hfree : findIdentity s.rows candidate.row.identity = none)
    (hrows : AcceptanceRows (s.rows ++ [candidate.row]))
    (hQ : Q (.ok (formatUUID candidate.receiptID))
      (s, ⟨some (.readWrite, [candidate.row]), own⟩)) :
    w.Leads (insertAcceptance candidate) (s, ⟨some (.readWrite, []), own⟩) Q := by
  intro n
  refine Prog.wp_answering.mpr ?_
  simp only [insertAcceptance, Session.send, Prog.eval, answerAcceptance, answerAcceptanceSql,
    List.append_nil, List.nil_append, hfree, if_pos hrows]
  exact ⟨_, _, rfl, hQ⟩

theorem insert_stored (hfound : findIdentity s.rows candidate.row.identity = some row)
    (hQ : Q (.error (.sentinel .pgxErrNoRows)) (s, ⟨some (.readWrite, []), own⟩)) :
    w.Leads (insertAcceptance candidate) (s, ⟨some (.readWrite, []), own⟩) Q := by
  intro n
  refine Prog.wp_answering.mpr ?_
  simp only [insertAcceptance, Session.send, Prog.eval, answerAcceptance, answerAcceptanceSql,
    List.append_nil, hfound]
  exact ⟨_, _, rfl, hQ⟩

end

theorem select {Q : Except (GoError ν) AcceptanceColumns → AcceptanceState → Prop}
    (hfound : findIdentity s.rows (acceptance.corePrincipalID, acceptance.destinationID,
      acceptance.deliveryIdentity) = some row)
    (hQ : Q (.ok row.columns) (s, ⟨some (.readWrite, []), own⟩)) :
    w.Leads (selectAcceptance acceptance) (s, ⟨some (.readWrite, []), own⟩) Q := by
  intro n
  refine Prog.wp_answering.mpr ?_
  simp only [selectAcceptance, Session.send, Prog.eval, answerAcceptance, answerAcceptanceSql,
    List.append_nil, hfound]
  exact ⟨_, _, rfl, hQ⟩

end AcceptanceSurroundings.Leads

namespace AcceptanceSurroundings.Calm
variable {keyring : ByteString → Key} {key : Key}

section
variable (h : w.Calm keyring key s)
include h

theorem contextErr {Q : Option (GoError ν) →
      AcceptanceState → Prop} (hQ : Q none x) : w.Leads acceptanceContextErr x Q := by
  refine Leads.ask fun n => ?_
  rw [h.context]
  exact hQ

theorem nonces {Q : Option (Bytes gcmNonceSize × Bytes gcmNonceSize) →
      AcceptanceState → Prop} (hQ : ∀ eventNonce digestNonce, eventNonce ≠ digestNonce →
      Q (some (eventNonce, digestNonce)) x) : w.Leads nonces x Q := by
  intro n
  obtain ⟨eventNonce, digestNonce, hevent, hdigest, hne⟩ := h.random n
  have hread : ∀ n, Prog.eval (answerAcceptance w) (readNonce : AcceptanceProg ν _) (x, n) =
      (.ok (w.outside n (.readRandom gcmNonceSize)), (x, n + 1)) := fun _ => rfl
  refine Prog.wp_bind.mpr (Prog.wp_answering.mpr ⟨_, _, hread n, ?_⟩)
  rw [hevent]
  refine Prog.wp_bind.mpr (Prog.wp_answering.mpr ⟨_, _, hread (n + 1), ?_⟩)
  rw [hdigest]
  exact hQ eventNonce digestNonce hne

variable {Q : Option Key → AcceptanceState → Prop}

theorem activeKey (hQ : Q (some key) x) : w.Leads activeKey x Q := by
  refine Leads.ask fun n => ?_
  rw [h.active]
  exact hQ

theorem keyByID {id : ByteString} (hQ : Q (some (keyring id)) x) :
    w.Leads (keyByID id) x Q := by
  refine Leads.ask fun n => ?_
  rw [h.keys]
  exact hQ

theorem newReceiptID {Q : Option ReceiptID →
      AcceptanceState → Prop}
    (hQ : ∀ receipt : ReceiptID, ¬ receipt.IsZero → (∀ row ∈ s.rows, row.receiptID ≠ receipt) →
      Q (some receipt) x) : w.Leads newReceiptID x Q := by
  refine Leads.ask fun n => ?_
  obtain ⟨receipt, hreceipt, hzero, hfresh⟩ := h.receipts n
  rw [hreceipt]
  exact hQ receipt hzero hfresh

end

end AcceptanceSurroundings.Calm

/-! ## Protection -/

/-- What is sealed is never empty, as it ends with a tag. -/
def Aead.Tagged (aead : Aead) : Prop :=
  ∀ key nonce plaintext aad : ByteString, aead.sealBytes key nonce plaintext aad ≠ []

/-- A request that `Accept` goes on with: its identity is spelled as the gateway spells it, its
event has a canonical form, and its texts may stand in additional data. -/
structure IntakeRequest.Acceptable (request : IntakeRequest) (sum256 : Hash)
    (order : RangeOrder ByteString ByteString) (identity : DeliveryIdentity)
    (event : CanonicalEvent) : Prop where
  spelled : request.deliveryIdentity = formatUUID identity
  nonzero : ¬ identity.IsZero
  canonical : canonicalizeEvent order sum256 (request.event.getD .foreign) = .ok event
  principal : request.corePrincipalID ≠ [] ∧ validateAADString request.corePrincipalID = .ok ()
  destination : request.destinationID ≠ [] ∧ validateAADString request.destinationID = .ok ()

namespace IntakeRequest.Acceptable
variable {request : IntakeRequest} {sum256 : Hash}
  {order : RangeOrder ByteString ByteString} {identity : DeliveryIdentity} {event : CanonicalEvent}
  {aead : Aead} {key : Key}

section
variable (h : request.Acceptable sum256 order identity event)
include h

theorem event_valid :
    nilEvent request.event = false ∧ 0 < event.formatVersion ∧ event.data ≠ [] ∧
      sum256 event.data = event.digest := by
  obtain ⟨value, r, hderef, -, rfl⟩ := canonicalizeEvent_eq_ok.mp h.canonical
  have hversion : 0 < canonicalEventFormatVersion := by decide
  refine ⟨?_, hversion, ?_, rfl⟩
  · cases hevent : request.event with
    | none => simp [hevent, Event.deref] at hderef
    | some event =>
      rw [hevent] at hderef
      cases event with
      | nilPointer => cases hderef
      | value | pointer | foreign => rfl
  · have hbrace : String.utf8EncodeChar '\x7b' ≠ [] := by decide
    simp [CanonicalRecord.write, Json.objectText, hbrace]

theorem validated :
    validatePrepareInput sum256 request.corePrincipalID request.destinationID identity event =
      .ok () := by
  obtain ⟨-, hversion, hdata, hdigest⟩ := h.event_valid
  simp only [validatePrepareInput, Except.bind_eq_ok, Except.refuseIf_eq_ok, not_or, not_not,
    Int64.not_le]
  exact ⟨(), ⟨h.principal.1, h.destination.1, h.nonzero, hversion, hdata⟩, (), h.principal.2, (),
    h.destination.2, hdigest⟩

/-- With a key and two nonces it is protected. -/
theorem protects (htagged : aead.Tagged) (hkey : key.Valid)
    (eventNonce digestNonce : Bytes gcmNonceSize) :
    ∃ prepared, protect aead request.corePrincipalID request.destinationID identity event key
      eventNonce.toList digestNonce.toList = .ok prepared := by
  obtain ⟨-, hversion, -, -⟩ := h.event_valid
  have hbuilt : ∀ purpose, purpose = purposeEvent ∨ purpose = purposeDigest →
      buildAAD purpose event.formatVersion identity request.corePrincipalID request.destinationID
        key.id = .ok (protectionContext purpose event.formatVersion identity
          request.corePrincipalID request.destinationID key.id).spelled := by
    intro purpose hpurpose
    have htext : ∀ value : ByteString, value ≠ [] ∧ validateAADString value = .ok () →
        value ≠ [] ∧ utf8Valid value = true ∧ value.length < 256 ^ 4 :=
      fun value => And.imp_right validateAADString_eq_ok.mp
    have hformat : 0 < payloadProtectionFormatVersion := by decide
    refine buildAAD_eq_ok.mpr ⟨_, rfl, AADContext.build_eq_ok.mpr
      ⟨⟨hformat, hversion, h.nonzero, hpurpose⟩, ?_, rfl⟩, rfl⟩
    rintro value (_ | ⟨_, _ | ⟨_, _ | ⟨_, ⟨⟩⟩⟩⟩)
    · exact htext _ h.principal
    · exact htext _ h.destination
    · exact htext _ ⟨hkey.1, hkey.2.1⟩
  have hnonce : ∀ nonce : Bytes gcmNonceSize, nonce.toList ≠ [] := by
    intro nonce hnil
    have hlength := nonce.length_eq
    rw [hnil] at hlength
    cases hlength
  simp only [protect, Except.bind_eq_ok, Except.relabel_eq_ok, sealProtected_eq_ok,
    newPreparedAcceptance_eq_ok, PreparedAcceptance.validate, Except.refuseIf_eq_ok]
  refine ⟨_, _, hbuilt _ (.inl rfl), _, ⟨⟨hkey, eventNonce.length_eq⟩,
    ⟨htagged _ _ _ _, hnonce _⟩, rfl⟩, _, hbuilt _ (.inr rfl), _, ⟨⟨hkey, digestNonce.length_eq⟩,
    ⟨htagged _ _ _ _, hnonce _⟩, rfl⟩, ?_, rfl⟩
  simp only [not_or, not_not, Int64.not_le]
  exact ⟨h.principal.1, h.destination.1, h.nonzero, hversion, ⟨htagged _ _ _ _, hnonce _⟩,
    ⟨htagged _ _ _ _, hnonce _⟩, hkey.1⟩

end

end IntakeRequest.Acceptable

section
variable {ι : Type} {calls : AcceptanceCalls ι} {aead : Aead} {sum256 : Hash}
  {keyring : ByteString → Key} {key : Key}
variable {event : CanonicalEvent}

/-- The event is protected with the active key. -/
theorem AcceptanceSurroundings.Calm.prepare (h : w.Calm keyring key s) (htagged : aead.Tagged)
    {request : IntakeRequest} {order : RangeOrder ByteString ByteString}
    {identity : DeliveryIdentity} (hrequest : request.Acceptable sum256 order identity event)
    {Q : Except Sentinel PreparedAcceptance →
      AcceptanceState → Prop}
    (hQ : ∀ prepared : PreparedAcceptance, prepared.Of aead sum256 request.corePrincipalID
      request.destinationID identity event key → Q (.ok prepared) x) :
    w.Leads (prepare aead sum256 request.corePrincipalID request.destinationID identity event) x
      Q := by
  refine Leads.bind (h.contextErr ?_)
  rw [if_neg Bool.noConfusion, hrequest.validated]
  refine Leads.bind (h.activeKey ?_)
  dsimp only
  rw [if_neg (not_not.mpr h.keyValid)]
  refine Leads.bind (h.contextErr ?_)
  rw [if_neg Bool.noConfusion]
  refine Leads.bind (h.nonces fun eventNonce digestNonce hne => ?_)
  dsimp only
  rw [if_neg hne]
  refine Leads.bind (h.contextErr ?_)
  rw [if_neg Bool.noConfusion]
  obtain ⟨prepared, hprepared⟩ := hrequest.protects htagged h.keyValid eventNonce digestNonce
  rw [hprepared]
  exact Leads.pure (hQ prepared (protect_eq_ok hrequest.event_valid.2.2.2 hprepared))

theorem AcceptanceSurroundings.Calm.openDigest (h : w.Calm keyring key s) (haead : aead.Correct)
    {i : ι} {key' : Key} (hinserts : calls.Inserts aead sum256 keyring i event key' row)
    (hchecked : row.Checked) (hidentity : row.identity =
      (acceptance.corePrincipalID, acceptance.destinationID, acceptance.deliveryIdentity))
    {Q : Except Sentinel CanonicalDigest →
      AcceptanceState → Prop} (hQ : Q (.ok (sum256 event.data)) x) :
    w.Leads (openDigest aead (row.stored.openRequest acceptance)) x Q := by
  obtain ⟨hvalid, hid, hopen⟩ := hinserts.opens haead hidentity
  obtain ⟨hbuilt, -, hnonce, -⟩ := unprotect_eq_ok.mp hopen
  have hkeyring : keyring row.encryptionKeyID = key' := hid ▸ hinserts.keyringKey
  refine Leads.bind (h.contextErr ?_)
  rw [if_neg Bool.noConfusion,
    validateDigestOpenRequest_eq_ok (u := ()) hbuilt hchecked.2.2.2.2.1.1 hnonce]
  refine Leads.bind (h.keyByID ?_)
  rw [show (row.stored.openRequest acceptance).encryptionKeyID = row.encryptionKeyID from rfl,
    hkeyring]
  dsimp only
  rw [if_neg (not_or.mpr ⟨not_not.mpr hvalid, not_not.mpr hid⟩)]
  refine Leads.bind (h.contextErr ?_)
  rw [if_neg Bool.noConfusion, hopen]
  exact Leads.pure hQ

end

/-! ## The repository -/

theorem findIdentity_eq_some (h : findIdentity rows identity = some row) :
    row ∈ rows ∧ row.identity = identity := by
  have hidentity := List.find?_some h
  exact ⟨List.mem_of_find?_eq_some h, of_decide_eq_true hidentity⟩

theorem findIdentity_eq_none (h : findIdentity rows identity = none) :
    ∀ row ∈ rows, row.identity ≠ identity :=
  fun row hrow heq => List.find?_eq_none.mp h row hrow (decide_eq_true heq)

/-- The table takes a row with a receipt and an identity of its own. -/
theorem AcceptanceTable.accepts (hreceipt : ∀ r ∈ s.rows,
      r.receiptID ≠ row.receiptID) (hidentity : ∀ r ∈ s.rows, r.identity ≠ row.identity)
    (hchecked : row.Checked) : AcceptanceRows (s.rows ++ [row]) := by
  have hnodup : ∀ {β : Type} (f : AcceptanceRow → β), (s.rows.map f).Nodup →
      (∀ r ∈ s.rows, f r ≠ f row) → ((s.rows ++ [row]).map f).Nodup := by
    intro β f hrows hne
    rw [List.map_append, List.map_singleton, List.nodup_append]
    refine ⟨hrows, List.nodup_singleton _, ?_⟩
    rintro _ hx _ hy heq
    obtain ⟨r, hr, rfl⟩ := List.mem_map.mp hx
    exact hne r hr (heq.trans (List.mem_singleton.mp hy))
  refine ⟨hnodup _ s.valid.pkey hreceipt, hnodup _ s.valid.deliveryIdentityUnique hidentity, ?_⟩
  intro r hr
  rcases List.mem_append.mp hr with hr | hr
  · exact s.valid.checked r hr
  · exact List.mem_singleton.mp hr ▸ hchecked

theorem PreparedAcceptance.checked (h : acceptance.validate = .ok ()) (receipt : ReceiptID) :
    (Candidate.row ⟨receipt, acceptance⟩).Checked := by
  simp only [PreparedAcceptance.validate, Except.refuseIf_eq_ok, not_or, not_not,
    Int64.not_le] at h
  obtain ⟨hprincipal, hdestination, -, hversion, hevent, hdigest, hkeyID⟩ := h
  exact ⟨hprincipal, hdestination, hversion, hevent, hdigest, hkeyID⟩

namespace AcceptanceSurroundings.Leads
variable {candidate : Candidate} {Q : PersistenceResult × Option (GoError ν) →
  AcceptanceState → Prop}

theorem commitAcceptance {result : PersistenceResult} (hlost : w.lost = none)
    (hrows : s'.rows = s.rows ++ pending) (hQ : Q (result, none) (s', ⟨none, own ++ [(s, s')]⟩)) :
    w.Leads (commitAcceptance result ⟨true, true⟩) (s, ⟨some (.readWrite, pending), own⟩)
      fun outcome y => w.Leads (closeAcceptance outcome) y Q := by
  have hclosed : w.Leads (Session.release >>= fun _ => Pure.pure (result, none))
      (s', ⟨none, own ++ [(s, s')]⟩) Q := Leads.bind (Leads.release (Leads.pure hQ))
  exact Leads.bind (Leads.commit hlost hrows (Leads.pure hclosed))

variable [ErrorGraph ν] (hlost : w.lost = none)
include hlost

/-- A row with a new identity is stored. -/
theorem insertOrLoad (hfree : findIdentity s.rows candidate.row.identity = none)
    (hreceipt : ¬ candidate.receiptID.IsZero) (hrows : s'.rows = s.rows ++ [candidate.row])
    (hQ : Q (⟨true, .ofReceipt candidate.receiptID⟩, none) (s', ⟨none, own ++ [(s, s')]⟩)) :
    w.Leads (insertOrLoad candidate) (s, ⟨none, own⟩) Q := by
  refine Leads.bind (Leads.acquire ?_)
  refine Leads.bind (Leads.bind (Leads.opens ?_))
  refine Leads.bind (Leads.insert hfree (hrows ▸ s'.valid) ?_)
  dsimp only
  rw [parseReceiptID, parseDeliveryIdentity_formatUUID, if_neg hreceipt]
  dsimp only
  rw [if_neg (not_not.mpr rfl)]
  exact Leads.commitAcceptance hlost hrows hQ

/-- The row of a stored identity is loaded. -/
theorem insertOrLoad_stored (hfound : findIdentity s.rows candidate.row.identity = some row)
    (hreceipt : ¬ row.receiptID.IsZero)
    (hQ : Q (⟨false, row.stored⟩, none) (s, ⟨none, own ++ [(s, s)]⟩)) :
    w.Leads (OncallGateway.insertOrLoad candidate) (s, ⟨none, own⟩) Q := by
  obtain ⟨hrow, -⟩ := findIdentity_eq_some hfound
  obtain ⟨-, -, hversion, -, hdigest, hkeyID⟩ := s.valid.checked row hrow
  have hparsed : parseReceiptID row.columns.receiptText = .ok row.receiptID := by
    rw [parseReceiptID, AcceptanceRow.columns, parseDeliveryIdentity_formatUUID, if_neg hreceipt]
  have hvalue : newProtectedValue row.columns.ciphertext row.columns.nonce =
      .ok row.canonicalEventDigest := newProtectedValue_eq_ok.mpr ⟨hdigest, rfl⟩
  refine Leads.bind (Leads.acquire ?_)
  refine Leads.bind (Leads.bind (Leads.opens ?_))
  refine Leads.bind (Leads.insert_stored hfound ?_)
  dsimp only
  refine Leads.settle (GoError.errorsIs_sentinel _ _) ?_
  refine Leads.bind (Leads.select hfound ?_)
  dsimp only
  rw [hparsed, hvalue]
  dsimp only
  have hpresent : ¬ (row.columns.formatVersion ≤ 0 ∨ row.columns.encryptionKeyID = []) :=
    not_or.mpr ⟨Int64.not_le.mpr hversion, hkeyID⟩
  rw [if_neg hpresent, stored_of_columns hparsed hvalue]
  exact Leads.commitAcceptance hlost (List.append_nil _).symm hQ

end AcceptanceSurroundings.Leads

/-! ## The services -/

/-- **What the table answers about an event of an identity**, and the table after that: the
receipt of the row that holds this event, or that the row of the identity holds another one;
if there is no such row, the receipt of one that is added. -/
inductive AcceptanceTable.Answers (aead : Aead) (keyring : ByteString → Key) (s : AcceptanceTable)
    (identity : ByteString × ByteString × DeliveryIdentity) (event : CanonicalEvent) :
    AcceptanceResult → AcceptanceTable → Prop
  | duplicate {row : AcceptanceRow} (mem : row ∈ s.rows) (ofIdentity : row.identity = identity)
      (holds : row.event? aead keyring = some (event.formatVersion, event.data)) :
      Answers aead keyring s identity event ⟨.acceptedDuplicate, row.receiptID⟩ s
  | conflict {row : AcceptanceRow} {stored : Int64 × ByteString} (mem : row ∈ s.rows)
      (ofIdentity : row.identity = identity) (holds : row.event? aead keyring = some stored)
      (other : stored ≠ (event.formatVersion, event.data)) :
      Answers aead keyring s identity event ⟨.identityConflict, Bytes.zero 16⟩ s
  | new {row : AcceptanceRow} {s' : AcceptanceTable} (absent : ∀ r ∈ s.rows, r.identity ≠ identity)
      (rows : s'.rows = s.rows ++ [row]) (ofIdentity : row.identity = identity)
      (nonzero : ¬ row.receiptID.IsZero)
      (holds : row.event? aead keyring = some (event.formatVersion, event.data)) :
      Answers aead keyring s identity event ⟨.acceptedNew, row.receiptID⟩ s'

theorem AcceptanceTable.Answers.validResult {aead : Aead} {keyring : ByteString → Key}
    {event : CanonicalEvent} {result : AcceptanceResult}
    (hs : ∀ row ∈ s.rows, ¬ row.receiptID.IsZero)
    (h : s.Answers aead keyring identity event result s') :
    OncallGateway.validResult result = true := by
  cases h with
  | duplicate hmem _ _ => exact decide_eq_true (hs _ hmem)
  | conflict _ _ _ _ => rfl
  | new _ _ _ hnonzero _ => exact decide_eq_true hnonzero

/-- A call ends with the table's answer, and without a transaction. -/
def AcceptanceTable.Settles (aead : Aead) (keyring : ByteString → Key) (s : AcceptanceTable)
    (identity : ByteString × ByteString × DeliveryIdentity) (event : CanonicalEvent)
    (r : AcceptanceResult × Option Sentinel)
    (y : AcceptanceState) : Prop :=
  y.2.tx = none ∧ ∃ result, r = (result, none) ∧ s.Answers aead keyring identity event result y.1

/-- The rows of the table are made by the calls, each with a receipt. -/
def AcceptanceCalls.Filled {ι : Type} (calls : AcceptanceCalls ι) (aead : Aead)
    (sum256 : Hash) (keyring : ByteString → Key) (s : AcceptanceTable) : Prop :=
  ∀ row ∈ s.rows, calls.Made aead sum256 keyring row ∧ ¬ row.receiptID.IsZero

section
variable {ι : Type} {calls : AcceptanceCalls ι} {aead : Aead} {sum256 : Hash}
  {keyring : ByteString → Key} {key : Key} {i : ι} {identity : DeliveryIdentity}
  {event : CanonicalEvent} {prepared : PreparedAcceptance}
  (h : w.Calm keyring key s) (haead : aead.Correct) (hcollision : calls.CollisionFree sum256)
  (hfilled : calls.Filled aead sum256 keyring s) (hcanonical : calls.canonical sum256 i = .ok event)
  (hof : prepared.Of aead sum256 (calls.request i).corePrincipalID
    (calls.request i).destinationID identity event key)
include h haead hcollision hfilled hcanonical hof

namespace AcceptanceSurroundings.Calm

/-- A stored row is a duplicate if it holds the same event, and otherwise a conflict. -/
theorem compareStored (hrow : row ∈ s.rows) (hidentity : row.identity =
      (prepared.corePrincipalID, prepared.destinationID, prepared.deliveryIdentity))
    (htx : x.2.tx = none) (hs : x.1 = s) :
    w.Leads (compareStored aead row.stored prepared) x (s.Settles aead keyring
      (prepared.corePrincipalID, prepared.destinationID, prepared.deliveryIdentity) event) := by
  obtain ⟨⟨j, event', key', hinserts⟩, hreceipt⟩ := hfilled row hrow
  have hchecked := s.valid.checked row hrow
  have hstored := hinserts.event? haead
  have hreadable : ¬ (row.stored.receiptID.IsZero ∨ row.stored.formatVersion ≤ 0 ∨
      ¬ row.stored.protectedDigest.Valid ∨ row.stored.encryptionKeyID = []) := by
    simp only [not_or, not_not]
    exact ⟨hreceipt, Int64.not_le.mpr hchecked.2.2.1, hchecked.2.2.2.2⟩
  rw [OncallGateway.compareStored, if_neg hreadable]
  refine Leads.bind (h.openDigest haead hinserts hchecked hidentity ?_)
  dsimp only
  split
  · rename_i hsame
    have hversion : event'.formatVersion = event.formatVersion :=
      hinserts.version.symm.trans (hsame.1.trans hof.version)
    have hdata := hcollision j i event' event hinserts.canonical hcanonical
      (hsame.2.trans hof.equivalence)
    rw [hversion, hdata] at hstored
    refine Leads.pure ⟨htx, _, rfl, ?_⟩
    rw [hs]
    exact .duplicate hrow hidentity hstored
  · rename_i hdiffers
    refine Leads.pure ⟨htx, _, rfl, ?_⟩
    rw [hs]
    refine .conflict hrow hidentity hstored fun heq => hdiffers ?_
    injection heq with hversion hdata
    refine ⟨hinserts.version.trans (hversion.trans hof.version.symm), ?_⟩
    rw [hdata, hof.equivalence]

theorem durableAccept [ErrorGraph ν] :
    w.Leads (durableAccept aead prepared) (s, ⟨none, own⟩) (s.Settles aead keyring
      (prepared.corePrincipalID, prepared.destinationID, prepared.deliveryIdentity) event) := by
  rw [OncallGateway.durableAccept, hof.valid]
  refine Leads.bind (h.newReceiptID fun receipt hzero hfresh => ?_)
  dsimp only
  rw [if_neg hzero]
  cases hfound : findIdentity s.rows (Candidate.row ⟨receipt, prepared⟩).identity with
  | some row =>
    obtain ⟨hrow, hidentity⟩ := findIdentity_eq_some hfound
    refine Leads.bind (Leads.insertOrLoad_stored h.acknowledged hfound (hfilled row hrow).2 ?_)
    exact h.compareStored haead hcollision hfilled hcanonical hof hrow hidentity rfl rfl
  | none =>
    have habsent := findIdentity_eq_none hfound
    have hinserts : calls.Inserts aead sum256 keyring i event key
        (Candidate.row ⟨receipt, prepared⟩) :=
      ⟨hcanonical, h.keyringKey, identity, prepared, receipt, hof, rfl⟩
    obtain ⟨s', hrows⟩ : ∃ s' : AcceptanceTable,
        s'.rows = s.rows ++ [Candidate.row ⟨receipt, prepared⟩] :=
      ⟨⟨_, AcceptanceTable.accepts hfresh habsent
        (PreparedAcceptance.checked hof.valid receipt)⟩, rfl⟩
    refine Leads.bind (Leads.insertOrLoad h.acknowledged hfound hzero hrows ?_)
    have hreceipt : (StoredAcceptance.ofReceipt receipt).receiptID = receipt := rfl
    dsimp only
    rw [if_pos rfl, if_neg (not_not.mpr hreceipt)]
    exact Leads.pure ⟨rfl, _, rfl, .new habsent hrows rfl hzero (hinserts.event? haead)⟩

theorem storePrepared [ErrorGraph ν] :
    w.Leads (storePrepared aead prepared) (s, ⟨none, own⟩) (s.Settles aead keyring
      (prepared.corePrincipalID, prepared.destinationID, prepared.deliveryIdentity) event) := by
  refine Leads.bind (h.contextErr ?_)
  rw [if_neg Bool.noConfusion]
  refine Leads.bind (Leads.mono (h.durableAccept haead hcollision hfilled hcanonical hof) ?_)
  rintro _ y ⟨htx, result, rfl, hanswers⟩
  dsimp only
  rw [hanswers.validResult fun row hrow => (hfilled row hrow).2, if_neg Bool.noConfusion]
  exact Leads.pure ⟨htx, result, rfl, hanswers⟩

end AcceptanceSurroundings.Calm

end

section
variable [ErrorGraph ν] {ι : Type} {calls : AcceptanceCalls ι} {aead : Aead}
  {sum256 : Hash} {keyring : ByteString → Key} {key : Key} {i : ι}
  {identity : DeliveryIdentity} {event : CanonicalEvent}

/-- **A call in calm surroundings answers as the table says.** -/
theorem AcceptanceSurroundings.Calm.intakeAccept (h : w.Calm keyring key s) (haead : aead.Correct)
    (htagged : aead.Tagged) (hcollision : calls.CollisionFree sum256)
    (hfilled : calls.Filled aead sum256 keyring s)
    (hrequest : (calls.request i).Acceptable sum256 (calls.order i) identity event) :
    w.Leads (intakeAccept aead sum256 (calls.order i) (calls.request i)) (s, ⟨none, own⟩)
      (s.Settles aead keyring ((calls.request i).corePrincipalID, (calls.request i).destinationID,
        identity) event) := by
  obtain ⟨hevent, -, -, hdigest⟩ := hrequest.event_valid
  have hpresent : ¬ ((calls.request i).corePrincipalID = [] ∨
      (calls.request i).destinationID = [] ∨ nilEvent (calls.request i).event = true) := by
    simp [hrequest.principal.1, hrequest.destination.1, hevent]
  refine Leads.bind (h.contextErr ?_)
  rw [if_neg Bool.noConfusion, if_neg hpresent, hrequest.spelled,
    parseDeliveryIdentity_formatUUID, if_neg hrequest.nonzero]
  dsimp only
  rw [if_neg (not_not.mpr rfl), hrequest.canonical]
  refine Leads.bind (h.contextErr ?_)
  rw [if_neg Bool.noConfusion]
  refine Leads.bind (h.prepare htagged hrequest fun prepared hof => ?_)
  have hmatches : preparedMatchesRequest prepared (calls.request i) identity event = true := by
    obtain ⟨-, -, -, hsealedEvent, hsealedDigest, hkeyID⟩ :=
      PreparedAcceptance.checked hof.valid identity
    exact decide_eq_true ⟨hof.principal, hof.destination, hof.identity, hof.version, hkeyID,
      hsealedEvent, hsealedDigest, hof.equivalence.trans hdigest⟩
  have hstored : w.Leads (OncallGateway.storePrepared aead prepared) (s, ⟨none, own⟩) _ :=
    h.storePrepared haead hcollision hfilled hrequest.canonical hof
  rw [hof.principal, hof.destination, hof.identity] at hstored
  dsimp only
  rw [hmatches, if_neg Bool.noConfusion]
  exact hstored

/-! ## After any run -/

omit [ErrorGraph ν] in
/-- What the calm surroundings answer is what the world may answer. -/
theorem AcceptanceSurroundings.Calm.world (h : w.Calm keyring key s) (n : Nat)
    (call : AcceptanceCall) : keyringWorld keyring call (w.outside n call) := by
  cases call with
  | contextErr => trivial
  | activeKey =>
    intro key' hkey'
    rw [h.active] at hkey'
    exact Option.some.inj hkey' ▸ h.keyringKey
  | keyByID id =>
    intro key' hkey' _
    rw [h.keys] at hkey'
    exact Option.some.inj hkey'
  | readRandom size => trivial
  | newReceiptID => trivial

/-- The rows of every table that the calls come to have receipts. -/
theorem AcceptanceCalls.filled {is : List ι} {c : AcceptanceConfig ν ι}
    (hrun : Run (calls.spec aead sum256 keyring).shared.Step (calls.initial aead sum256) is c) :
    calls.Filled aead sum256 keyring c.shared := by
  let good (row : AcceptanceRow) := calls.Made aead sum256 keyring row ∧ ¬ row.receiptID.IsZero
  -- which rows are expected makes no difference to the steps
  have hrun' : Run (acceptanceSpec (keyringWorld keyring) good).shared.Step
      (calls.initial aead sum256) is c := hrun
  refine Session.Spec.invariant (P := fun s => ∀ row ∈ s.rows, good row)
    (Q := fun _ _ _ => True) id acceptance_lawful (fun _ _ _ _ _ _ _ => trivial) ?_ hrun'
    ⟨fun i j _ row hrow => absurd hrow List.not_mem_nil, fun i => ?_⟩
    fun row hrow => absurd hrow List.not_mem_nil
  · rintro t s s' ⟨hrows, hgood⟩ hs row hrow
    rw [hrows] at hrow
    exact (List.mem_append.mp hrow).elim (hs row) (hgood row)
  · refine Prog.wp_mono (intakeAccept_ends ?_ .empty []) fun _ _ _ => trivial
    intro identity event key prepared hprepared receipt hnonzero
    exact ⟨⟨i, event, key, hprepared.canonical, hprepared.active key rfl, identity, prepared,
      receipt, hprepared.made, rfl⟩, hnonzero⟩

/-- A world with one key, in which every receipt is the same. -/
def sampleCalm : AcceptanceSurroundings Empty where
  outside n
    | .contextErr => (none : Option (GoError Empty))
    | .activeKey => some sampleKey
    | .keyByID _ => some sampleKey
    | .readRandom size => some (.fill size (UInt8.ofNat (n % 2)))
    | .newReceiptID => some (Bytes.fill 16 255)
  violation := .sentinel .pgxErrTxCommitRollback
  lost := none

theorem sampleCalm_calm (hfresh : ∀ row ∈ s.rows, row.receiptID ≠ Bytes.fill 16 255) :
    sampleCalm.Calm (fun _ => sampleKey) sampleKey s where
  acknowledged := rfl
  context _ := rfl
  active _ := rfl
  keyValid := by decide
  keyringKey := rfl
  keys _ _ := rfl
  random n := by
    refine ⟨_, _, rfl, rfl, ?_⟩
    rcases Nat.mod_two_eq_zero_or_one n with h | h
    · rw [h, Nat.add_mod, h]
      decide
    · rw [h, Nat.add_mod, h]
      decide
  receipts _ := ⟨_, rfl, by decide, hfresh⟩

/-- The identity of the calls. -/
def sampleDeliveryIdentity : DeliveryIdentity :=
  (Bytes.ofList? 16 [0x11, 0x11, 0x11, 0x11, 0x22, 0x22, 0x43, 0x33, 0x84, 0x44, 0x55, 0x55, 0x55,
    0x55, 0x55, 0x55]).getD (.zero 16)

theorem sampleCalls_acceptable : ∃ event,
    (sampleCalls.request 0).Acceptable lengthSum256 (sampleCalls.order 0) sampleDeliveryIdentity
      event := by
  have hok : (sampleCalls.canonical lengthSum256 0).toOption.isSome = true := by decide +kernel
  cases hcanonical : sampleCalls.canonical lengthSum256 0 with
  | error e =>
    rw [hcanonical] at hok
    cases hok
  | ok event => exact ⟨event, by decide +kernel, by decide, hcanonical, by decide, by decide⟩

/-- **A call that is left alone answers as the table says.**  Whatever calls have failed before
and whatever their outcomes, a call for an acceptable request that now begins, with no
transaction open and nothing failing, ends with a disposition: that of the row of its identity,
if there is one, and otherwise that of a new row, which then holds its event. -/
theorem accept_undisturbed [DecidableEq ι] (haead : aead.Correct) (htagged : aead.Tagged)
    (hcollision : calls.CollisionFree sum256) {is : List ι} {c : AcceptanceConfig ν ι}
    (hrun : Run (calls.spec aead sum256 keyring).shared.Step (calls.initial aead sum256) is c)
    (hi : i ∉ is) (hidle : ∀ j, (c.locals j).tx = none)
    (hrequest : (calls.request i).Acceptable sum256 (calls.order i) identity event)
    (hcalm : w.Calm keyring key c.shared) (n : Nat) :
    ∃ js c', (AcceptanceConfig.callAlone w (c, n) i).1 = c' ∧
      Run (calls.spec aead sum256 keyring).shared.Step c js c' ∧
      ∃ result, c'.progs i = .ret (result, none) ∧
        c.shared.Answers aead keyring ((calls.request i).corePrincipalID,
          (calls.request i).destinationID, identity) event result c'.shared := by
  obtain ⟨hlocal, hprog⟩ := Shared.run_waits hrun hi
  have hleads : w.Leads (c.progs i) (c.shared, c.locals i) (c.shared.Settles aead keyring
      ((calls.request i).corePrincipalID, (calls.request i).destinationID, identity) event) := by
    rw [hprog, hlocal]
    exact hcalm.intakeAccept haead htagged hcollision (AcceptanceCalls.filled hrun) hrequest
  obtain ⟨_, q, heval, -, result, rfl, hanswers⟩ := Prog.wp_answering.mp (hleads n)
  have hended : (AcceptanceConfig.callAlone w (c, n) i).1.progs i = .ret (result, none) := by
    refine (Function.update_self ..).trans ?_
    rw [heval]
    rfl
  have hshared : (AcceptanceConfig.callAlone w (c, n) i).1.shared = q.1.1 := by
    rw [AcceptanceConfig.callAlone, heval]
    rfl
  obtain ⟨m, hrun'⟩ := AcceptanceConfig.callAlone_run (c := (c, n)) hcalm.world hidle
    (by rw [hended]; rfl)
  exact ⟨_, _, rfl, hrun', result, hended, hshared ▸ hanswers⟩

/-- The surroundings of a call whose commit is not acknowledged. -/
def sampleLost : AcceptanceSurroundings Empty :=
  { numbered sampleKey with lost := some (.sentinel .ioEOF) }

@[inherit_doc sampleLost]
def sampleAfterLoss : AcceptanceConfig Empty (Fin 3) :=
  (AcceptanceConfig.callAlone sampleLost (sampleCalls.initial plainAead lengthSum256, 0) 1).1

/-- A call is not told what has become of its event; the call that repeats it is told that the
event is stored. -/
theorem accept_undisturbed_sample : ∃ js, ∃ c : AcceptanceConfig Empty (Fin 3), ∃ result,
    Run (sampleCalls.spec plainAead lengthSum256 fun _ => sampleKey).shared.Step
      (sampleCalls.initial plainAead lengthSum256) js c ∧
    (c.progs 1).value? = some (.zero, some .errStoreOutcomeUnknown) ∧
    c.progs 0 = .ret (result, none) ∧ result.disposition = .acceptedDuplicate ∧
    ∃ row ∈ c.shared.rows, row.receiptID = result.receiptID := by
  obtain ⟨event, hrequest⟩ := sampleCalls_acceptable
  obtain ⟨n, hlost⟩ : ∃ n,
      Run (sampleCalls.spec plainAead lengthSum256 fun _ => sampleKey).shared.Step
        (sampleCalls.initial plainAead lengthSum256) (List.replicate n 1) sampleAfterLoss :=
    AcceptanceConfig.callAlone_run (w := sampleLost)
      (c := (sampleCalls.initial plainAead lengthSum256, 0)) keyringWorld_numbered
      (by decide +kernel) (by decide +kernel)
  obtain ⟨js, c, hc, hrun, result, hended, -⟩ := accept_undisturbed plainAead_correct
    (fun _ _ _ _ => List.cons_ne_nil _ _) sampleCalls_collisionFree (c := sampleAfterLoss) (i := 0)
    hlost (fun hmem => absurd (List.eq_of_mem_replicate hmem) (by decide)) (by decide +kernel)
    hrequest (sampleCalm_calm (by decide +kernel)) 0
  have hanswer : (c.progs 0).value? = some (result, none) := by rw [hended]; rfl
  have hstored : ∀ r ∈ (c.progs 0).value?, r.1.disposition = .acceptedDuplicate ∧
      ∃ row ∈ c.shared.rows, row.receiptID = r.1.receiptID := by
    rw [← hc]
    decide +kernel
  exact ⟨_, c, result, hlost.append hrun, hc ▸ by decide +kernel, hended, hstored _ hanswer⟩

end

end

end OncallGateway
