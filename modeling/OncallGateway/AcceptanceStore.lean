import OncallGateway.Acceptance
import OncallGateway.CredentialText

/-! # What an acceptance leaves in its table

The table `durable_acceptances` with its constraints, the transactions on it, and what a call
of each layer has done to it when it returns, whatever its calls answered and whatever others
did meanwhile.

An insert takes the unique keys of its row at once: two open transactions never hold rows with
the same receipt or the same delivery identity, and the second has to wait
(`acceptanceSpec.compatible`).  With `ON CONFLICT DO NOTHING` no row is returned, which `pgx`
reports as `pgx.ErrNoRows`, if nothing was inserted.  Every other error of an insert may come
after the row was inserted in the transaction.  A `SELECT` sees the committed rows, and what
its own transaction has inserted.

Of each call, an inductive type lists the outcomes with the changes of the table that it has
made: `InsertOrLoadOutcome`, `DurableOutcome` and `IntakeOutcome`.
-/

namespace OncallGateway

/-! ## The table -/

/-- A row of `durable_acceptances`. -/
structure AcceptanceRow where
  receiptID : ReceiptID
  corePrincipalID : ByteString
  destinationID : ByteString
  coreDeliveryIdentity : DeliveryIdentity
  canonicalEventFormatVersion : Int64
  canonicalEvent : ProtectedValue
  canonicalEventDigest : ProtectedValue
  encryptionKeyID : ByteString
deriving DecidableEq

namespace AcceptanceRow

/-- The columns of `durable_acceptances_delivery_identity_unique`. -/
def identity (row : AcceptanceRow) : ByteString × ByteString × DeliveryIdentity :=
  (row.corePrincipalID, row.destinationID, row.coreDeliveryIdentity)

/-- The `CHECK` constraints. -/
def Checked (row : AcceptanceRow) : Prop :=
  row.corePrincipalID ≠ [] ∧ row.destinationID ≠ [] ∧ 0 < row.canonicalEventFormatVersion ∧
    row.canonicalEvent.Valid ∧ row.canonicalEventDigest.Valid ∧ row.encryptionKeyID ≠ []

instance decidableChecked (row : AcceptanceRow) : Decidable row.Checked :=
  inferInstanceAs (Decidable (row.corePrincipalID ≠ [] ∧ row.destinationID ≠ [] ∧
    0 < row.canonicalEventFormatVersion ∧ row.canonicalEvent.Valid ∧
    row.canonicalEventDigest.Valid ∧ row.encryptionKeyID ≠ []))

/-- What `selectAcceptanceSQL` reads of a row. -/
def columns (row : AcceptanceRow) : AcceptanceColumns where
  receiptText := formatUUID row.receiptID
  formatVersion := row.canonicalEventFormatVersion
  ciphertext := row.canonicalEventDigest.ciphertext
  nonce := row.canonicalEventDigest.nonce
  encryptionKeyID := row.encryptionKeyID

/-- What the repository makes of it. -/
def stored (row : AcceptanceRow) : StoredAcceptance where
  receiptID := row.receiptID
  formatVersion := row.canonicalEventFormatVersion
  protectedDigest := row.canonicalEventDigest
  encryptionKeyID := row.encryptionKeyID

end AcceptanceRow

/-- The row that `insertAcceptanceSQL` inserts. -/
def Candidate.row (candidate : Candidate) : AcceptanceRow where
  receiptID := candidate.receiptID
  corePrincipalID := candidate.acceptance.corePrincipalID
  destinationID := candidate.acceptance.destinationID
  coreDeliveryIdentity := candidate.acceptance.deliveryIdentity
  canonicalEventFormatVersion := candidate.acceptance.formatVersion
  canonicalEvent := candidate.acceptance.canonicalEvent
  canonicalEventDigest := candidate.acceptance.protectedDigest
  encryptionKeyID := candidate.acceptance.encryptionKeyID

/-- Rows that keep the constraints of the table. -/
structure AcceptanceRows (rows : List AcceptanceRow) : Prop where
  pkey : (rows.map AcceptanceRow.receiptID).Nodup
  deliveryIdentityUnique : (rows.map AcceptanceRow.identity).Nodup
  checked : ∀ row ∈ rows, row.Checked

/-- The table. -/
@[ext] structure AcceptanceTable where
  rows : List AcceptanceRow
  valid : AcceptanceRows rows

/-- Rows are added, each of them `good`. -/
def AcceptanceTable.Grows (good : AcceptanceRow → Prop) (s s' : AcceptanceTable) : Prop :=
  ∃ more, s'.rows = s.rows ++ more ∧ ∀ row ∈ more, good row

namespace AcceptanceTable.Grows
variable {good : AcceptanceRow → Prop} {s s' s'' : AcceptanceTable}

theorem refl (s : AcceptanceTable) : s.Grows good s := ⟨[], by simp, by simp⟩

theorem trans (h : s.Grows good s') (h' : s'.Grows good s'') : s.Grows good s'' := by
  obtain ⟨more, hrows, hgood⟩ := h
  obtain ⟨more', hrows', hgood'⟩ := h'
  refine ⟨more ++ more', by rw [hrows', hrows, List.append_assoc], fun row hrow => ?_⟩
  rcases List.mem_append.mp hrow with hrow | hrow
  · exact hgood row hrow
  · exact hgood' row hrow

theorem mem (h : s.Grows good s') {row : AcceptanceRow} (hrow : row ∈ s.rows) : row ∈ s'.rows := by
  obtain ⟨more, hrows, -⟩ := h
  rw [hrows]
  exact List.mem_append_left _ hrow

end AcceptanceTable.Grows

/-! ## Transactions -/

/-- The session of a call, and the table with it. -/
abbrev AcceptanceSession := Session.Local AcceptanceTable (List AcceptanceRow)

@[inherit_doc AcceptanceSession]
abbrev AcceptanceState := AcceptanceTable × AcceptanceSession

section
variable {ν : Type} [ErrorGraph ν]

/-- What a statement may answer in a transaction that has inserted `pending`, and what it has
inserted then. -/
def acceptanceSend (s : AcceptanceTable) (pending : List AcceptanceRow) :
    (sql : AcceptanceSql) → sql.Answer (GoError ν) → List AcceptanceRow → Prop
  | .insert candidate, .ok _, pending' =>
      AcceptanceRows (s.rows ++ (pending ++ [candidate.row])) ∧
        pending' = pending ++ [candidate.row]
  | .insert candidate, .error err, pending' =>
      pending' = pending ∨ err.errorsIs .pgxErrNoRows ≠ .ok true ∧
        AcceptanceRows (s.rows ++ (pending ++ [candidate.row])) ∧
        pending' = pending ++ [candidate.row]
  | .select corePrincipalID destinationID deliveryIdentity, .ok columns, pending' =>
      pending' = pending ∧ ∃ row ∈ s.rows ++ pending,
        row.identity = (corePrincipalID, destinationID, deliveryIdentity) ∧ row.columns = columns
  | .select _ _ _, .error _, pending' => pending' = pending

/-- The answers the world beside the table may give. -/
abbrev AcceptanceWorld (ν : Type) :=
  (request : AcceptanceCall) → request.Answer (GoError ν) → Prop

/-- **The database of the repository**; `good` are the rows that its users insert.  A commit
that fails may have taken effect; before it nothing is durable. -/
def acceptanceSpec (world : AcceptanceWorld ν) (good : AcceptanceRow → Prop) :
    Session.Spec (GoError ν) (AcceptanceSql.Answer (GoError ν)) (AcceptanceCall.Answer (GoError ν))
      AcceptanceTable (List AcceptanceRow) where
  initial := []
  send s _ := acceptanceSend s
  result pending s s' := s'.rows = s.rows ++ pending
  definite _ := False
  mayKeep := False
  answers := world
  intended pending s s' := s'.rows = s.rows ++ pending ∧ ∀ row ∈ pending, good row
  rely pending s s' := s.Grows good s' ∧
    (AcceptanceRows (s.rows ++ pending.getD []) → AcceptanceRows (s'.rows ++ pending.getD []))
  compatible t u := ∀ row ∈ t.getD [], ∀ row' ∈ u.getD [],
    row.receiptID ≠ row'.receiptID ∧ row.identity ≠ row'.identity

variable {world : AcceptanceWorld ν} {good : AcceptanceRow → Prop}

theorem acceptance_rely_refl (t : Option (List AcceptanceRow)) (s : AcceptanceTable) :
    (acceptanceSpec world good).rely t s s := ⟨.refl s, id⟩

theorem acceptance_rely_trans (t : Option (List AcceptanceRow)) (s s' s'' : AcceptanceTable)
    (h : (acceptanceSpec world good).rely t s s') (h' : (acceptanceSpec world good).rely t s' s'') :
    (acceptanceSpec world good).rely t s s'' :=
  ⟨h.1.trans h'.1, h'.2 ∘ h.2⟩

theorem acceptance_interference :
    (acceptanceSpec world good).Interference (AcceptanceTable.Grows good) where
  refl := .refl
  trans _ _ _ := .trans
  rely _ _ _ h := h.1

/-! ## The repository -/

/-- The changes of the table that a call has made, as pairs of before and after. -/
abbrev TableChanges := List (AcceptanceTable × AcceptanceTable)

omit [ErrorGraph ν] in
/-- What `InsertOrLoad` may return, with the changes it has made. -/
inductive InsertOrLoadOutcome (candidate : Candidate) :
    PersistenceResult × Option (GoError ν) → TableChanges → Prop
  | failed {kind : Sentinel} {operation : String}
      (safe : kind ∈ [.errStoreUnavailable, .errStoreOutcomeUnknown, .errStoreCanceled,
        .errStoreFailure, .errStoredRecordUnreadable]) :
      InsertOrLoadOutcome candidate (persistenceFailure kind operation) []
  /-- The commit failed after it took effect. -/
  | unknown {operation : String} {b a : AcceptanceTable}
      (rows : a.rows = b.rows ∨ a.rows = b.rows ++ [candidate.row]) :
      InsertOrLoadOutcome candidate (persistenceFailure .errStoreOutcomeUnknown operation) [(b, a)]
  | inserted {b a : AcceptanceTable} (rows : a.rows = b.rows ++ [candidate.row]) :
      InsertOrLoadOutcome candidate (⟨true, .ofReceipt candidate.receiptID⟩, none) [(b, a)]
  | loaded {b : AcceptanceTable} {row : AcceptanceRow} (mem : row ∈ b.rows)
      (identity : row.identity = candidate.row.identity) :
      InsertOrLoadOutcome candidate (⟨false, row.stored⟩, none) [(b, b)]

theorem contextFailure_asks (err : GoError ν) :
    (contextFailure err).wp Session.asking (fun _ _ => True) [] := by
  unfold contextFailure
  refine Prog.wp_bind.mpr (Prog.wp_settle (fun _ _ => trivial) fun failed _ => ?_)
  split
  · trivial
  rw [Prog.wp_bind, wp_acceptanceContextErr]
  refine fun contextErr => Prog.wp_bind.mpr (Prog.wp_settle (fun _ _ => trivial) fun done _ => ?_)
  split
  · trivial
  rw [Prog.wp_bind, wp_acceptanceContextErr]
  exact fun _ => Prog.wp_settle (fun _ _ => trivial) fun _ _ => trivial

variable {Q : Bool → AcceptanceState → Prop} {acceptance : PreparedAcceptance} {kind : Sentinel}
  {aead : Aead} {order : RangeOrder ByteString ByteString}
variable {b s : AcceptanceTable} {request : IntakeRequest}

/-- Looking at the context leaves the transaction as it is. -/
theorem wp_contextFailure {err : GoError ν} {l : AcceptanceSession}
    (h : ∀ b s', s.Grows good s' → Q b (s', l)) :
    (contextFailure err).wp (acceptanceSpec world good).environment Q (s, l) := by
  have hrely : ∀ s s', (acceptanceSpec world good).rely (l.tx.map Prod.snd) s s' →
      s.Grows good s' := fun _ _ hs => hs.1
  refine Prog.wp_mono (Session.Spec.wp_of_asking AcceptanceTable.Grows.refl
    (fun _ _ _ => AcceptanceTable.Grows.trans) hrely (contextFailure_asks err)
    fun x hx => absurd hx List.not_mem_nil) ?_
  rintro b ⟨s', _⟩ ⟨hs, rfl, -⟩
  exact h b s' hs

section
variable {candidate : Candidate} {s₀ : AcceptanceTable} {own : TableChanges}
  {pending : List AcceptanceRow}

/-- The call has ended so, once the deferred functions have run. -/
def InsertOrLoadClosing (world : AcceptanceWorld ν) (good : AcceptanceRow → Prop)
    (candidate : Candidate) (s₀ : AcceptanceTable) (own : TableChanges)
    (outcome : PersistenceOutcome ν × Session.Cleanup)
    (q : AcceptanceState) : Prop :=
  (closeAcceptance outcome).wp (acceptanceSpec world good).environment
    (Session.Spec.Ended (AcceptanceTable.Grows good) s₀ own (InsertOrLoadOutcome candidate)) q

/-- The kinds of an error of `InsertOrLoad`. -/
abbrev storeFailures : List Sentinel :=
  [.errStoreUnavailable, .errStoreOutcomeUnknown, .errStoreCanceled, .errStoreFailure,
    .errStoredRecordUnreadable]

/-- Hand the connection back and report an error, when nothing was changed. -/
theorem wp_handBack_failed {operation : String} (destroyed : Bool)
    (hkind : kind ∈ storeFailures) (h : s₀.Grows good s) :
    (do Session.handBack destroyed; return persistenceFailure kind operation :
      AcceptanceProg ν (PersistenceOutcome ν)).wp (acceptanceSpec world good).environment
      (Session.Spec.Ended (AcceptanceTable.Grows good) s₀ own (InsertOrLoadOutcome candidate))
      (s, ⟨none, own⟩) := by
  rw [Prog.wp_bind]
  exact Session.Spec.wp_handBack.mpr fun s₁ h₁ =>
    ⟨[], by simp, .nil (h.trans h₁.1), .failed hkind⟩

/-- A panic leaves the transaction to the deferred functions. -/
theorem wp_interruption {err : GoError ν} (h : ∀ b, Q b (s, ⟨some (.readWrite, pending), own⟩)) :
    (interruption err ⟨true, true⟩).wp (acceptanceSpec world good).environment Q
      (s, ⟨some (.readWrite, pending), own⟩) := by
  unfold interruption
  split
  · refine Prog.wp_bind.mpr (Prog.wp_bind.mpr (Prog.wp_bind.mpr ?_))
    refine Session.Spec.wp_rollback.mpr fun s₁ _ => ⟨fun _ => ?_, fun hkeep => False.elim hkeep⟩
    exact Session.Spec.wp_release.mpr fun _ _ => trivial
  · exact Prog.wp_settle (fun _ _ => trivial) fun b _ => h b

/-- A transaction that is rolled back leaves nothing. -/
theorem rollbackAcceptance_outcome {destroy : Bool} {operation : String}
    (hkind : kind ∈ storeFailures) (h : s₀.Grows good s) :
    (rollbackAcceptance kind destroy operation ⟨true, true⟩ : AcceptanceProg ν _).wp
      (acceptanceSpec world good).environment (InsertOrLoadClosing world good candidate s₀ own)
      (s, ⟨some (.readWrite, pending), own⟩) := by
  rw [rollbackAcceptance, Prog.wp_bind, Session.Spec.wp_rollback]
  intro s₁ h₁
  refine ⟨fun rollbackErr => ?_, fun hkeep => False.elim hkeep⟩
  refine Prog.wp_bind.mpr (Prog.wp_settle (fun _ _ => trivial) fun closed _ => ?_)
  split
  · exact wp_handBack_failed true (by simp) (h.trans h₁.1)
  · exact Session.wp_close (wp_handBack_failed _ hkind (h.trans h₁.1))

/-- A transaction that is committed has made its change, unless that failed. -/
theorem commitAcceptance_outcome {result : PersistenceResult} (hgood : ∀ row ∈ pending, good row)
    (hunknown : pending = [] ∨ pending = [candidate.row]) (h : s₀.Grows good s)
    (hresult : ∀ b a : AcceptanceTable, s.Grows good b → a.rows = b.rows ++ pending →
      InsertOrLoadOutcome candidate ((result, none) : PersistenceOutcome ν) [(b, a)]) :
    (commitAcceptance result ⟨true, true⟩ : AcceptanceProg ν _).wp
      (acceptanceSpec world good).environment (InsertOrLoadClosing world good candidate s₀ own)
      (s, ⟨some (.readWrite, pending), own⟩) := by
  rw [commitAcceptance, Prog.wp_bind, Session.Spec.wp_commit]
  intro b hb
  have hb₀ := h.trans hb.1
  refine ⟨fun err => ?_, fun a ha => ⟨⟨ha, hgood⟩, ?_, fun err _ => ?_⟩⟩
  · -- it has not taken effect
    exact wp_handBack_failed true (by simp) hb₀
  · exact Session.Spec.wp_release.mpr fun s' hs =>
      ⟨[(b, a)], rfl, .cons hb₀ (.nil hs.1), hresult b a hb.1 ha⟩
  · refine Session.Spec.wp_destroy.mpr fun s' hs =>
      ⟨[(b, a)], rfl, .cons hb₀ (.nil hs.1), .unknown ?_⟩
    rcases hunknown with rfl | rfl
    · exact .inl (ha.trans (List.append_nil _))
    · exact .inr ha

/-- The rules of the statements. -/
theorem wp_insertAcceptance
    {Q : Except (GoError ν) ByteString →
      AcceptanceState → Prop}
    (hok : ∀ s' text, s.Grows good s' →
      Q (.ok text) (s', ⟨some (.readWrite, [candidate.row]), own⟩))
    (herror : ∀ s' err pending, s.Grows good s' →
      (err.errorsIs .pgxErrNoRows = .ok true → pending = []) →
      Q (.error err) (s', ⟨some (.readWrite, pending), own⟩)) :
    (insertAcceptance candidate : AcceptanceProg ν _).wp (acceptanceSpec world good).environment Q
      (s, ⟨some (.readWrite, []), own⟩) := by
  refine Session.Spec.wp_send.mpr fun s' hs answer pending hsend => ?_
  match answer, hsend with
  | .ok text, ⟨_, hpending⟩ =>
    rw [hpending]
    exact hok s' text hs.1
  | .error err, .inl hpending => exact herror s' err pending hs.1 fun _ => hpending
  | .error err, .inr ⟨hrows, _⟩ =>
    exact herror s' err pending hs.1 fun h => absurd h hrows

@[inherit_doc wp_insertAcceptance]
theorem wp_selectAcceptance {Q : Except (GoError ν) AcceptanceColumns →
      AcceptanceState → Prop} (hok : ∀ s' row, s.Grows good s' → row ∈ s'.rows → row.identity =
        (acceptance.corePrincipalID, acceptance.destinationID, acceptance.deliveryIdentity) →
      Q (.ok row.columns) (s', ⟨some (.readWrite, []), own⟩)) (herror : ∀ s' err, s.Grows good s' →
      Q (.error err) (s', ⟨some (.readWrite, []), own⟩)) :
    (selectAcceptance acceptance : AcceptanceProg ν _).wp (acceptanceSpec world good).environment Q
      (s, ⟨some (.readWrite, []), own⟩) := by
  refine Session.Spec.wp_send.mpr fun s' hs answer pending hsend => ?_
  match answer, hsend with
  | .ok columns, ⟨hpending, row, hrow, hidentity, hcolumns⟩ =>
    rw [hpending, ← hcolumns]
    rw [List.append_nil] at hrow
    exact hok s' row hs.1 hrow hidentity
  | .error err, hpending =>
    rw [show pending = [] from hpending]
    exact herror s' err hs.1

/-- What is made of the columns of a row. -/
theorem stored_of_columns {row : AcceptanceRow} {receipt : ReceiptID} {digest : ProtectedValue}
    (hreceipt : parseReceiptID row.columns.receiptText = .ok receipt)
    (hdigest : newProtectedValue row.columns.ciphertext row.columns.nonce = .ok digest) :
    (⟨receipt, row.columns.formatVersion, digest, row.columns.encryptionKeyID⟩ :
      StoredAcceptance) = row.stored := by
  obtain ⟨-, rfl⟩ := newProtectedValue_eq_ok.mp hdigest
  rw [AcceptanceRow.stored, (eq_of_parseDeliveryIdentity_formatUUID hreceipt).1]
  rfl

/-- A statement that has failed: the context is looked at, and then the connection. -/
theorem statementFailed_outcome {err : GoError ν} {operation : String}
    (hkind : kind ∈ storeFailures) (h : s₀.Grows good s) :
    (do
      if ← contextFailure err then
        rollbackAcceptance .errStoreCanceled false operation ⟨true, true⟩
      else if ← interruption err ⟨true, true⟩ then
        rollbackAcceptance kind true operation ⟨true, true⟩
      else rollbackAcceptance .errStoreFailure false operation ⟨true, true⟩ :
      AcceptanceProg ν _).wp
      (acceptanceSpec world good).environment (InsertOrLoadClosing world good candidate s₀ own)
      (s, ⟨some (.readWrite, pending), own⟩) := by
  rw [Prog.wp_bind]
  refine wp_contextFailure fun canceled s' hs => ?_
  split
  · exact rollbackAcceptance_outcome (by simp) (h.trans hs)
  refine Prog.wp_bind.mpr (wp_interruption fun interrupted => ?_)
  split
  · exact rollbackAcceptance_outcome hkind (h.trans hs)
  · exact rollbackAcceptance_outcome (by simp) (h.trans hs)

/-- The load after a conflict. -/
theorem loadAcceptance_outcome (h : s₀.Grows good s) :
    (loadAcceptance candidate.acceptance ⟨true, true⟩ : AcceptanceProg ν _).wp
      (acceptanceSpec world good).environment (InsertOrLoadClosing world good candidate s₀ own)
      (s, ⟨some (.readWrite, []), own⟩) := by
  rw [loadAcceptance, Prog.wp_bind]
  refine wp_selectAcceptance (fun s' row hs hrow hidentity => ?_) (fun s' err hs => ?_)
  · have h' := h.trans hs
    dsimp only
    split
    · rename_i receipt digest hreceipt hdigest
      split
      · exact rollbackAcceptance_outcome (by simp) h'
      · rw [stored_of_columns hreceipt hdigest]
        refine commitAcceptance_outcome (by simp) (.inl rfl) h' fun b a hb ha => ?_
        obtain rfl : a = b := AcceptanceTable.ext (ha.trans (List.append_nil _))
        exact .loaded (hb.mem hrow) hidentity
    · exact rollbackAcceptance_outcome (by simp) h'
  · dsimp only
    exact statementFailed_outcome (by simp) (h.trans hs)

/-- The call once its transaction is open. -/
theorem insertOrLoadOpened_outcome (hgood : good candidate.row) (h : s₀.Grows good s) :
    (insertOrLoadOpened candidate ⟨true, true⟩ : AcceptanceProg ν _).wp
      (acceptanceSpec world good).environment (InsertOrLoadClosing world good candidate s₀ own)
      (s, ⟨some (.readWrite, []), own⟩) := by
  rw [insertOrLoadOpened, Prog.wp_bind]
  refine wp_insertAcceptance (fun s' text hs => ?_) (fun s' err pending hs hpending => ?_)
  · have h' := h.trans hs
    dsimp only
    split
    · exact rollbackAcceptance_outcome (by simp) h'
    · split
      · exact rollbackAcceptance_outcome (by simp) h'
      · refine commitAcceptance_outcome (by simpa using hgood) (.inr rfl) h' fun b a _ ha => ?_
        exact .inserted ha
  · dsimp only
    refine Prog.wp_bind.mpr (Prog.wp_settle (fun _ _ => trivial) fun noRows hnoRows => ?_)
    cases noRows with
    | true =>
      rw [if_pos rfl, hpending hnoRows]
      exact loadAcceptance_outcome (h.trans hs)
    | false =>
      rw [if_neg Bool.noConfusion]
      exact statementFailed_outcome (by simp) (h.trans hs)

/-- **What `InsertOrLoad` has done when it returns.** -/
theorem insertOrLoad_ends (hgood : good candidate.row) :
    (acceptanceSpec world good).Ends (AcceptanceTable.Grows good)
      (insertOrLoad candidate : AcceptanceProg ν _) (InsertOrLoadOutcome candidate) := by
  intro s own
  rw [insertOrLoad, Prog.wp_bind, Session.Spec.wp_acquire]
  intro s₁ h₁ connection
  match connection with
  | .failed err _ =>
    dsimp only
    rw [Prog.wp_bind]
    refine wp_contextFailure fun canceled s₂ h₂ => ?_
    split
    · exact ⟨[], by simp, .nil (h₁.1.trans h₂), .failed (by simp)⟩
    · exact ⟨[], by simp, .nil (h₁.1.trans h₂), .failed (by simp)⟩
  | .absent => trivial
  | .opened =>
    dsimp only
    rw [Prog.wp_bind, insertOnConnection, Prog.wp_bind, Session.Spec.wp_begin]
    intro s₂ h₂
    have h := h₁.1.trans h₂.1
    refine ⟨fun err _ => ?_, Session.Spec.wp_release.mpr fun _ _ => trivial,
      insertOrLoadOpened_outcome hgood h⟩
    refine Prog.wp_bind.mpr ?_
    unfold interruption
    split
    · exact Session.Spec.wp_release.mpr fun _ _ => trivial
    refine Prog.wp_settle (fun _ _ => trivial) fun interrupted _ => ?_
    split
    · rw [Prog.wp_bind]
      refine Session.Spec.wp_destroy.mpr fun s₃ h₃ => ?_
      show Prog.wp _ (contextFailure err >>= _) _ _
      rw [Prog.wp_bind]
      refine wp_contextFailure fun canceled s₄ h₄ => ?_
      have h' := (h.trans h₃.1).trans h₄
      split
      · exact ⟨[], by simp, .nil h', .failed (by simp)⟩
      · exact ⟨[], by simp, .nil h', .failed (by simp)⟩
    · exact wp_handBack_failed false (by simp) h

end

/-! ## The durable service -/

/-- What the own errors of the package are. -/
theorem GoError.errorsIs_sentinel (kind t : Sentinel) :
    (GoError.sentinel kind : GoError ν).errorsIs t = .ok (decide (kind = t)) := by
  by_cases h : kind = t <;>
    simp [GoError.errorsIs, GoError.search, GoError.find, GoError.findWithin,
      GoError.unwrapMethod, GoError.comparable, GoError.isSentinel, GoError.isMethod, h]

@[inherit_doc GoError.errorsIs_sentinel]
theorem GoError.errorsIs_safe (kind t : Sentinel) (operation : String) :
    (GoError.safe kind operation : GoError ν).errorsIs t = .ok (decide (kind = t)) := by
  by_cases h : kind = t <;>
    simp [GoError.errorsIs, GoError.search, GoError.find, GoError.findWithin,
      GoError.unwrapMethod, GoError.comparable, GoError.isSentinel, GoError.isMethod, h]

/-- An error of one kind is classified as that kind, if the list has it. -/
theorem classifyError_of_mem {safe : List Sentinel} {otherwise : Sentinel} {err : GoError ν}
    (herr : ∀ t, err.errorsIs t = .ok (decide (kind = t))) (hmem : kind ∈ safe) :
    classifyError safe otherwise err = .ok kind := by
  have hfind : safe.findM? err.errorsIs = .ok (some kind) := by
    induction safe with
    | nil => exact absurd hmem List.not_mem_nil
    | cons t safe ih =>
      rw [List.findM?, herr]
      by_cases heq : kind = t
      · rw [decide_eq_true heq, heq]
        rfl
      · rw [decide_eq_false heq]
        exact ih ((List.mem_cons.mp hmem).resolve_left heq)
  rw [classifyError, hfind]
  rfl

/-- What `Accept` of the durable service may return, with the changes it has made. -/
inductive DurableOutcome (world : AcceptanceWorld ν) (aead : Aead)
    (acceptance : PreparedAcceptance) : AcceptanceResult × Option Sentinel → TableChanges → Prop
  | refused {err : Sentinel} {changes : TableChanges}
      (unchanged : ∀ change ∈ changes, change.2 = change.1) :
      DurableOutcome world aead acceptance (.zero, some err) changes
  | unknown {changes : TableChanges} :
      DurableOutcome world aead acceptance (.zero, some .errStoreOutcomeUnknown) changes
  | new {receipt : ReceiptID} {b a : AcceptanceTable} (nonzero : ¬ receipt.IsZero)
      (rows : a.rows = b.rows ++ [Candidate.row ⟨receipt, acceptance⟩]) :
      DurableOutcome world aead acceptance (⟨.acceptedNew, receipt⟩, none) [(b, a)]
  /-- The stored row has the version and the digest of the event. -/
  | duplicate {b : AcceptanceTable} {row : AcceptanceRow} {key : Key} (mem : row ∈ b.rows)
      (identity : row.identity =
        (acceptance.corePrincipalID, acceptance.destinationID, acceptance.deliveryIdentity))
      (nonzero : ¬ row.receiptID.IsZero)
      (answered : world (.keyByID row.encryptionKeyID) (some key))
      (keyID : key.id = row.encryptionKeyID)
      (version : row.canonicalEventFormatVersion = acceptance.formatVersion)
      (opened : unprotect aead (row.stored.openRequest acceptance) key =
        .ok acceptance.equivalenceDigest) :
      DurableOutcome world aead acceptance (⟨.acceptedDuplicate, row.receiptID⟩, none) [(b, b)]
  /-- The stored row has another version or another digest. -/
  | conflict {b : AcceptanceTable} {row : AcceptanceRow} {key : Key} {digest : CanonicalDigest}
      (mem : row ∈ b.rows)
      (identity : row.identity =
        (acceptance.corePrincipalID, acceptance.destinationID, acceptance.deliveryIdentity))
      (answered : world (.keyByID row.encryptionKeyID) (some key))
      (keyID : key.id = row.encryptionKeyID)
      (opened : unprotect aead (row.stored.openRequest acceptance) key = .ok digest)
      (differs : ¬ (row.canonicalEventFormatVersion = acceptance.formatVersion ∧
        digest = acceptance.equivalenceDigest)) :
      DurableOutcome world aead acceptance (⟨.identityConflict, Bytes.zero 16⟩, none) [(b, b)]

theorem newReceiptID_reads :
    (acceptanceSpec world good).Reads (AcceptanceTable.Grows good)
      (newReceiptID : AcceptanceProg ν _) fun _ => True :=
  Session.Spec.Ends.ask acceptance_interference fun _ _ => ⟨rfl, trivial⟩

theorem acceptanceContextErr_reads :
    (acceptanceSpec world good).Reads (AcceptanceTable.Grows good)
      (acceptanceContextErr : AcceptanceProg ν _) fun _ => True :=
  Session.Spec.Ends.ask acceptance_interference fun _ _ => ⟨rfl, trivial⟩

/-- What `OpenDigest` makes of the answers that the world may give. -/
theorem openDigest_reads (aead : Aead) (request : DigestOpenRequest) :
    (acceptanceSpec world good).Reads (AcceptanceTable.Grows good)
      (openDigest aead request : AcceptanceProg ν _) fun r => ∀ digest, r = .ok digest →
        ∃ key, world (.keyByID request.encryptionKeyID) (some key) ∧
          key.id = request.encryptionKeyID ∧ unprotect aead request key = .ok digest := by
  refine (Session.Spec.Reads.of_asking acceptance_interference
    (openDigest_answered aead request)).mono ?_
  rintro r changes ⟨hchanges, record, hrecord, hanswered⟩
  refine ⟨hchanges, fun digest hr => ?_⟩
  rcases hanswered with ⟨herror, -⟩ | ⟨key, hmem, -, hid, hopened⟩
  · rw [herror] at hr
    cases hr
  · exact ⟨key, hrecord _ hmem, hid, hopened ▸ hr⟩

/-- A stored row is compared, and nothing is changed. -/
theorem compareStored_ends {row : AcceptanceRow} (hmem : row ∈ b.rows) (hidentity : row.identity =
      (acceptance.corePrincipalID, acceptance.destinationID, acceptance.deliveryIdentity)) :
    (acceptanceSpec world good).Ends (AcceptanceTable.Grows good)
      (compareStored aead row.stored acceptance : AcceptanceProg ν _)
      fun r more => DurableOutcome world aead acceptance r ([(b, b)] ++ more) := by
  have hi := @acceptance_interference ν _ world good
  have hrefused : ∀ err, DurableOutcome world aead acceptance (.zero, some err) ([(b, b)] ++ []) :=
    fun err => .refused (by simp)
  unfold compareStored
  split
  · exact Session.Spec.Ends.pure hi (hrefused _)
  · rename_i hvalid
    refine (openDigest_reads aead _).andThen hi fun r hr => ?_
    match r with
    | .error _ => exact Session.Spec.Ends.pure hi (hrefused _)
    | .ok digest =>
      obtain ⟨key, hanswered, hid, hopened⟩ := hr digest rfl
      dsimp only
      split
      · rename_i hsame
        refine Session.Spec.Ends.pure hi (.duplicate hmem hidentity (not_or.mp hvalid).1 hanswered
          hid hsame.1 ?_)
        rw [hopened, hsame.2]
      · rename_i hdiffers
        exact Session.Spec.Ends.pure hi (.conflict hmem hidentity hanswered hid hopened hdiffers)

/-- **What the durable service has done when it returns.** -/
theorem durableAccept_ends
    (hgood : ∀ receipt : ReceiptID, ¬ receipt.IsZero → good (Candidate.row ⟨receipt, acceptance⟩)) :
    (acceptanceSpec world good).Ends (AcceptanceTable.Grows good)
      (durableAccept aead acceptance : AcceptanceProg ν _)
      (DurableOutcome world aead acceptance) := by
  have hi := @acceptance_interference ν _ world good
  have hrefused : ∀ err, DurableOutcome world aead acceptance (.zero, some err) [] :=
    fun err => .refused (by simp)
  unfold durableAccept
  split
  · exact Session.Spec.Ends.pure hi (hrefused _)
  · refine newReceiptID_reads.andThen hi fun receipt _ => ?_
    match receipt with
    | none => exact Session.Spec.Ends.pure hi (hrefused _)
    | some receipt =>
      dsimp only
      split
      · exact Session.Spec.Ends.pure hi (hrefused _)
      · rename_i hnonzero
        refine Session.Spec.Ends.bind hi (insertOrLoad_ends (hgood receipt hnonzero)) ?_
        rintro _ _ (⟨hkind⟩ | ⟨hrows⟩ | ⟨hrows⟩ | ⟨hmem, hidentity⟩)
        · exact Session.Spec.Ends.settle fun _ _ => Session.Spec.Ends.pure hi (hrefused _)
        · refine Session.Spec.Ends.settle fun kind hkind => ?_
          cases hkind.symm.trans (classifyError_of_mem (fun t => GoError.errorsIs_safe _ t _)
            (by simp))
          exact Session.Spec.Ends.pure hi .unknown
        · have hreceipt : (StoredAcceptance.ofReceipt receipt).receiptID = receipt := rfl
          dsimp only
          rw [if_pos rfl, if_neg (not_not.mpr hreceipt)]
          exact Session.Spec.Ends.pure hi (.new hnonzero hrows)
        · exact compareStored_ends hmem hidentity

/-! ## The intake service -/

/-- A request that `Accept` of the intake service goes on with, and what it has protected of
it. -/
structure IntakeRequest.Prepared (world : AcceptanceWorld ν) (aead : Aead)
    (sum256 : Hash) (order : RangeOrder ByteString ByteString)
    (request : IntakeRequest) (identity : DeliveryIdentity) (event : CanonicalEvent) (key : Key)
    (prepared : PreparedAcceptance) : Prop where
  parsed : parseDeliveryIdentity request.deliveryIdentity = .ok identity
  canonical : canonicalizeEvent order sum256 (request.event.getD .foreign) = .ok event
  active : world .activeKey (some key)
  made : prepared.Of aead sum256 request.corePrincipalID request.destinationID identity event key

/-- What `Accept` of the intake service may return, with the changes it has made. -/
inductive IntakeOutcome (world : AcceptanceWorld ν) (aead : Aead)
    (sum256 : Hash) (order : RangeOrder ByteString ByteString)
    (request : IntakeRequest) : AcceptanceResult × Option Sentinel → TableChanges → Prop
  | refused {err : Sentinel} {changes : TableChanges}
      (unchanged : ∀ change ∈ changes, change.2 = change.1) :
      IntakeOutcome world aead sum256 order request (.zero, some err) changes
  | unknown {changes : TableChanges} :
      IntakeOutcome world aead sum256 order request (.zero, some .errStoreOutcomeUnknown) changes
  | answered {identity : DeliveryIdentity} {event : CanonicalEvent} {key : Key}
      {prepared : PreparedAcceptance} {result : AcceptanceResult} {changes : TableChanges}
      (request_prepared : request.Prepared world aead sum256 order identity event key prepared)
      (outcome : DurableOutcome world aead prepared (result, none) changes) :
      IntakeOutcome world aead sum256 order request (result, none) changes

/-- What `Prepare` makes of the answers that the world may give. -/
theorem prepare_reads (aead : Aead) (sum256 : Hash)
    (corePrincipalID destinationID : ByteString) (deliveryIdentity : DeliveryIdentity)
    (event : CanonicalEvent) :
    (acceptanceSpec world good).Reads (AcceptanceTable.Grows good)
      (prepare aead sum256 corePrincipalID destinationID deliveryIdentity event :
        AcceptanceProg ν _) fun r => ∀ prepared, r = .ok prepared →
          ∃ key, world .activeKey (some key) ∧
            prepared.Of aead sum256 corePrincipalID destinationID deliveryIdentity event key := by
  refine (Session.Spec.Reads.of_asking acceptance_interference
    (prepare_answered aead sum256 corePrincipalID destinationID deliveryIdentity event)).mono ?_
  rintro r changes ⟨hchanges, record, hrecord, hanswered⟩
  refine ⟨hchanges, fun prepared hr => ?_⟩
  obtain ⟨key, hmem, hof⟩ := hanswered prepared hr
  exact ⟨key, hrecord _ hmem, hof⟩

omit [ErrorGraph ν] in
/-- What the durable service returns is a valid result: no check after the commit refuses it. -/
theorem DurableOutcome.validResult {result : AcceptanceResult} {changes : TableChanges}
    (h : DurableOutcome world aead acceptance (result, none) changes) :
    OncallGateway.validResult result = true := by
  cases h with
  | new hnonzero _ => exact decide_eq_true hnonzero
  | duplicate _ _ hnonzero _ _ _ _ => exact decide_eq_true hnonzero
  | conflict _ _ _ _ _ _ => rfl

/-- Once the event is protected. -/
theorem storePrepared_ends {sum256 : Hash} {identity : DeliveryIdentity} {event : CanonicalEvent}
    {key : Key} {prepared : PreparedAcceptance}
    (hprepared : request.Prepared world aead sum256 order identity event key prepared)
    (hgood : ∀ receipt : ReceiptID, ¬ receipt.IsZero → good (Candidate.row ⟨receipt, prepared⟩)) :
    (acceptanceSpec world good).Ends (AcceptanceTable.Grows good)
      (storePrepared aead prepared : AcceptanceProg ν _)
      (IntakeOutcome world aead sum256 order request) := by
  have hi := @acceptance_interference ν _ world good
  refine acceptanceContextErr_reads.andThen hi fun contextErr _ => ?_
  split
  · exact Session.Spec.Ends.pure hi (.refused (by simp))
  · refine Session.Spec.Ends.bind hi (durableAccept_ends hgood) ?_
    rintro ⟨result, err⟩ changes houtcome
    match err with
    | some err =>
      refine Session.Spec.Ends.settle fun kind hkind => Session.Spec.Ends.pure hi ?_
      rw [List.append_nil]
      cases houtcome with
      | refused hunchanged => exact .refused hunchanged
      | unknown =>
        cases hkind.symm.trans (classifyError_of_mem (GoError.errorsIs_sentinel _) (by simp))
        exact .unknown
    | none =>
      dsimp only
      rw [houtcome.validResult, if_neg Bool.noConfusion]
      refine Session.Spec.Ends.pure hi ?_
      rw [List.append_nil]
      exact .answered hprepared houtcome

/-- **What the intake service has done when it returns.** -/
theorem intakeAccept_ends {sum256 : Hash} (hgood : ∀ identity event key prepared,
      request.Prepared world aead sum256 order identity event key prepared →
      ∀ receipt : ReceiptID, ¬ receipt.IsZero → good (Candidate.row ⟨receipt, prepared⟩)) :
    (acceptanceSpec world good).Ends (AcceptanceTable.Grows good)
      (intakeAccept aead sum256 order request : AcceptanceProg ν _)
      (IntakeOutcome world aead sum256 order request) := by
  have hi := @acceptance_interference ν _ world good
  have hrefused : ∀ err, (acceptanceSpec world good).Ends (AcceptanceTable.Grows good)
      (pure (.zero, some err) : AcceptanceProg ν _)
      (IntakeOutcome world aead sum256 order request) :=
    fun err => Session.Spec.Ends.pure hi (.refused (by simp))
  refine acceptanceContextErr_reads.andThen hi fun contextErr _ => ?_
  split
  · exact hrefused _
  · split
    · exact hrefused _
    · split
      · exact hrefused _
      · rename_i identity hparsed
        split
        · exact hrefused _
        · split
          · exact hrefused _
          · rename_i event hcanonical
            refine acceptanceContextErr_reads.andThen hi fun contextErr _ => ?_
            split
            · exact hrefused _
            · refine (prepare_reads aead sum256 _ _ identity event).andThen hi fun r hr => ?_
              match r with
              | .error _ => exact Session.Spec.Ends.settle fun _ _ => hrefused _
              | .ok prepared =>
                obtain ⟨key, hactive, hof⟩ := hr prepared rfl
                have hprepared : request.Prepared world aead sum256 order identity event key
                    prepared := ⟨hparsed, hcanonical, hactive, hof⟩
                dsimp only
                split
                · exact hrefused _
                · exact storePrepared_ends hprepared
                    (hgood identity event key prepared hprepared)

/-! ## A database without a fault -/

instance AcceptanceRows.decidable (rows : List AcceptanceRow) : Decidable (AcceptanceRows rows) :=
  decidable_of_iff ((rows.map AcceptanceRow.receiptID).Nodup ∧
      (rows.map AcceptanceRow.identity).Nodup ∧ ∀ row ∈ rows, row.Checked)
    ⟨fun h => ⟨h.1, h.2.1, h.2.2⟩, fun h => ⟨h.pkey, h.deliveryIdentityUnique, h.checked⟩⟩

/-- The table without rows. -/
def AcceptanceTable.empty : AcceptanceTable := ⟨[], ⟨by simp, by simp, by simp⟩⟩

/-- What an acceptance finds around it: the answers of the world, which are numbered, the error of
a statement that breaks a constraint other than that of the identity, and that of a commit whose
acknowledgement is lost. -/
structure AcceptanceSurroundings (ν : Type) where
  outside : Nat → (call : AcceptanceCall) → call.Answer (GoError ν)
  violation : GoError ν
  lost : Option (GoError ν)

/-- The row of an identity. -/
def findIdentity (rows : List AcceptanceRow)
    (identity : ByteString × ByteString × DeliveryIdentity) : Option AcceptanceRow :=
  rows.find? fun row => decide (row.identity = identity)

section
variable (w : AcceptanceSurroundings ν)

/-- The answer to a statement, and what the transaction has inserted then. -/
def answerAcceptanceSql (s : AcceptanceTable) (pending : List AcceptanceRow) :
    (sql : AcceptanceSql) → sql.Answer (GoError ν) × List AcceptanceRow
  | .insert candidate =>
    match findIdentity (s.rows ++ pending) candidate.row.identity with
    | some _ => (.error (.sentinel .pgxErrNoRows), pending)
    | none =>
      if AcceptanceRows (s.rows ++ (pending ++ [candidate.row])) then
        (.ok (formatUUID candidate.receiptID), pending ++ [candidate.row])
      else (.error w.violation, pending)
  | .select corePrincipalID destinationID deliveryIdentity =>
    match findIdentity (s.rows ++ pending) (corePrincipalID, destinationID, deliveryIdentity) with
    | some row => (.ok row.columns, pending)
    | none => (.error (.sentinel .pgxErrNoRows), pending)

/-- The answers of a database in which a commit takes effect, with the number of the calls to the
world. -/
def answerAcceptance (q : AcceptanceState × Nat) :
    (request : Session.Request AcceptanceSql AcceptanceCall) →
      Session.Reply (GoError ν) (AcceptanceSql.Answer (GoError ν))
        (AcceptanceCall.Answer (GoError ν)) request × AcceptanceState × Nat
  | .db .acquire => (Session.Opened.opened, q)
  | .db (.begin access) => (Session.Opened.opened, (q.1.1, ⟨some (access, []), q.1.2.own⟩), q.2)
  | .db (.send sql) =>
    match q.1.2.tx with
    | none => ((answerAcceptanceSql w q.1.1 [] sql).1, q)
    | some (access, pending) => ((answerAcceptanceSql w q.1.1 pending sql).1,
        (q.1.1, ⟨some (access, (answerAcceptanceSql w q.1.1 pending sql).2), q.1.2.own⟩), q.2)
  | .db .commit =>
    match q.1.2.tx with
    | some (.readWrite, pending) =>
      if h : AcceptanceRows (q.1.1.rows ++ pending) then
        (w.lost, (⟨_, h⟩, ⟨none, q.1.2.own ++ [(q.1.1, ⟨_, h⟩)]⟩), q.2)
      else (some w.violation, (q.1.1, ⟨none, q.1.2.own⟩), q.2)
    | _ => (none, (q.1.1, ⟨none, q.1.2.own⟩), q.2)
  | .db .rollback => (none, (q.1.1, ⟨none, q.1.2.own⟩), q.2)
  | .db .release => ((), q)
  | .db .destroy => ((), q)
  | .outside call => (w.outside q.2 call, q.1, q.2 + 1)

theorem answerAcceptanceSql_send (s : AcceptanceTable) (pending : List AcceptanceRow)
    (sql : AcceptanceSql) :
    acceptanceSend s pending sql (answerAcceptanceSql w s pending sql).1
      (answerAcceptanceSql w s pending sql).2 := by
  cases sql with
  | insert candidate =>
    rw [answerAcceptanceSql]
    split
    · exact .inl rfl
    · split
      · rename_i hrows
        exact ⟨hrows, rfl⟩
      · exact .inl rfl
  | select corePrincipalID destinationID deliveryIdentity =>
    rw [answerAcceptanceSql]
    split
    · rename_i row hfound
      have hidentity := List.find?_some hfound
      exact ⟨rfl, row, List.mem_of_find?_eq_some hfound, of_decide_eq_true hidentity, rfl⟩
    · rfl

/-- These are answers the database may give. -/
theorem answerAcceptance_act (hworld : ∀ n call, world call (w.outside n call))
    (q : AcceptanceState × Nat) (request : Session.Request AcceptanceSql AcceptanceCall) :
    (acceptanceSpec world good).act q.1.1 q.1.2 request (answerAcceptance w q request).1
      (answerAcceptance w q request).2.1.2 (answerAcceptance w q request).2.1.1 := by
  obtain ⟨⟨s, tx, own⟩, n⟩ := q
  cases request with
  | outside call => exact ⟨rfl, rfl, hworld n call⟩
  | db call =>
    cases call with
    | acquire | begin | rollback | release | destroy => exact ⟨rfl, rfl⟩
    | send sql =>
      cases tx with
      | none => exact ⟨rfl, rfl⟩
      | some tx => exact ⟨rfl, _, answerAcceptanceSql_send w s _ sql, rfl⟩
    | commit =>
      rcases tx with _ | ⟨_ | _, pending⟩
      · exact ⟨rfl, rfl⟩
      · exact ⟨rfl, rfl⟩
      · dsimp only [answerAcceptance]
        split
        · cases w.lost with
          | none => exact ⟨rfl, rfl⟩
          | some err => exact .inr ⟨id, rfl, rfl⟩
        · exact .inl ⟨rfl, rfl⟩

theorem answerAcceptance_runs (hworld : ∀ n call, world call (w.outside n call)) {α : Type}
    {p : AcceptanceProg ν α} {q q' : AcceptanceState × Nat} {a : α}
    (h : p.eval (answerAcceptance w) q = (.ok a, q')) :
    p.Runs (acceptanceSpec world good).environment.step q.1 a q'.1 :=
  Prog.eval_runs_map (f := Prod.fst) (fun q request =>
    ⟨q.1.1, ⟨.refl _, id⟩, answerAcceptance_act w hworld q request⟩) h

end

/-- A world with one key, in which what is random is numbered. -/
def numbered (key : Key) : AcceptanceSurroundings ν where
  outside n
    | .contextErr => (none : Option (GoError ν))
    | .activeKey => some key
    | .keyByID _ => some key
    | .readRandom size => some (.fill size (UInt8.ofNat n))
    | .newReceiptID => some (Bytes.fill 16 (UInt8.ofNat n))
  violation := .sentinel .errInvalidState
  lost := none

/-- Seal with a zero byte before the text. -/
def plainAead : Aead where
  sealBytes _ _ plaintext _ := 0 :: plaintext
  openBytes _ _ ciphertext _ := ciphertext.tail?

/-- A request. -/
def sampleIntakeRequest : IntakeRequest where
  corePrincipalID := .ascii "core"
  destinationID := .ascii "team"
  deliveryIdentity := .ascii "11111111-2222-4333-8444-555555555555"
  event := some (.value (.test ⟨.ascii "Core"⟩))

/-! ## Errors and the table -/

/-- The table has only grown since a change. -/
theorem grows_of_history {s' a : AcceptanceTable}
    (h : Session.History (AcceptanceTable.Grows good) s [(b, a)] s') : a.Grows good s' := by
  cases h with
  | cons _ hrest =>
    cases hrest with
    | nil h => exact h

/-- **An error other than `ErrStoreOutcomeUnknown` means that nothing was stored**: whatever
fails on the way, a call that returns such an error has left the table as it is.  A call that
returns `AcceptedNew` has committed the row with that receipt and its protected event, and
every error comes with a zero result. -/
theorem error_means_nothing_stored (world : AcceptanceWorld ν) (aead : Aead)
    (sum256 : Hash) (order : RangeOrder ByteString ByteString)
    (request : IntakeRequest) {s s' : AcceptanceTable} {result : AcceptanceResult}
    {err : Option Sentinel} {l : AcceptanceSession}
    (h : (intakeAccept aead sum256 order request : AcceptanceProg ν _).Runs
      (acceptanceSpec world fun _ => True).environment.step (s, ⟨none, []⟩) (result, err) (s', l)) :
    l.tx = none ∧ Session.History (AcceptanceTable.Grows fun _ => True) s l.own s' ∧
    (∀ e, err = some e → result = .zero ∧
      (e ≠ .errStoreOutcomeUnknown → ∀ change ∈ l.own, change.2 = change.1)) ∧
    (err = none → result.disposition = .acceptedNew → ∃ identity event key prepared b a,
      request.Prepared world aead sum256 order identity event key prepared ∧ l.own = [(b, a)] ∧
      a.rows = b.rows ++ [Candidate.row ⟨result.receiptID, prepared⟩] ∧
      Candidate.row ⟨result.receiptID, prepared⟩ ∈ s'.rows) := by
  have hends : (acceptanceSpec world fun _ => True).Ends _
      (intakeAccept aead sum256 order request : AcceptanceProg ν _) _ :=
    intakeAccept_ends fun _ _ _ _ _ _ _ => trivial
  obtain ⟨changes, rfl, hhistory, houtcome⟩ := hends.sound h
  refine ⟨rfl, hhistory, ?_, ?_⟩
  · rintro e rfl
    cases houtcome with
    | refused hunchanged => exact ⟨rfl, fun _ => hunchanged⟩
    | unknown => exact ⟨rfl, fun hne => absurd rfl hne⟩
  · rintro rfl hnew
    cases houtcome with
    | answered hprepared hdurable =>
      cases hdurable with
      | new _ hrows =>
        refine ⟨_, _, _, _, _, _, hprepared, rfl, hrows, (grows_of_history hhistory).mem ?_⟩
        rw [hrows]
        exact List.mem_append_right _ List.mem_cons_self
      | duplicate => cases hnew
      | conflict => cases hnew

/-- What the service comes to for an event, where every first receipt is the same. -/
def sampleAccept (s : AcceptanceTable) (destinationID : String) :
    Except Stop (AcceptanceResult × Option Sentinel) × AcceptanceState × Nat :=
  Prog.eval (answerAcceptance (numbered sampleKey : AcceptanceSurroundings Empty))
    (intakeAccept plainAead (fun _ => .zero 32) sampleOrder
      { sampleIntakeRequest with destinationID := .ascii destinationID }) ((s, ⟨none, []⟩), 0)

@[inherit_doc sampleAccept]
def sampleAccepted : AcceptanceTable := (sampleAccept .empty "team").2.1.1

/-- The event is stored with the receipt that is returned.  For another destination the database
refuses this receipt, and nothing is stored. -/
theorem sampleIntakeRequest_stored : ∃ receipt prepared,
    (sampleAccept .empty "team").1 = .ok (⟨.acceptedNew, receipt⟩, none) ∧
    Candidate.row ⟨receipt, prepared⟩ ∈ sampleAccepted.rows ∧
    (sampleAccept sampleAccepted "other").1 = .ok (.zero, some .errStoreFailure) ∧
    ∀ change ∈ (sampleAccept sampleAccepted "other").2.1.2.own, change.2 = change.1 := by
  have hruns : ∀ s destinationID result err,
      (sampleAccept s destinationID).1 = .ok (result, err) → _ :=
    fun s destinationID result err h => error_means_nothing_stored (fun _ _ => True) plainAead
      (fun _ => .zero 32) sampleOrder
      { sampleIntakeRequest with destinationID := .ascii destinationID }
      (answerAcceptance_runs (numbered sampleKey) (fun _ _ => trivial) (Prod.ext h rfl))
  have hnew : (sampleAccept .empty "team").1 =
      .ok (⟨.acceptedNew, ⟨List.replicate 16 9, rfl⟩⟩, none) := by decide +kernel
  have hfailed : (sampleAccept sampleAccepted "other").1 = .ok (.zero, some .errStoreFailure) := by
    decide +kernel
  obtain ⟨-, -, -, hstored⟩ := hruns _ _ _ _ hnew
  obtain ⟨_, _, _, prepared, _, _, _, _, _, hmem⟩ := hstored rfl rfl
  obtain ⟨-, -, hunchanged, -⟩ := hruns _ _ _ _ hfailed
  exact ⟨_, prepared, hnew, hmem, hfailed, (hunchanged _ rfl).2 Sentinel.noConfusion⟩

end

end OncallGateway
