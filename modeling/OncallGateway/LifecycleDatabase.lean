import OncallGateway.LifecycleTransition
import OncallGateway.GoError
import OncallGateway.Lib.Session

/-! # The database under the lifecycle repository

The repository's calls on its connection, and everything they may answer.  Reads may
fail before, between and after rows; a statement may fail although it was executed; a
commit may fail although it took effect.

A mutation locks the row of its destination first.  While it holds the lock, others
commit mutations of other destinations only (`lifecycleSpec.rely`), and what it has
read of its own destination stays as it was (`agree_of_rely`, `Store.Agree.loadState`).  An
inspection reads one snapshot.
-/

namespace OncallGateway

/-- The queries and statements of the repository. -/
inductive LifecycleSql where
  /-- `lockLifecycleDestinationSQL`, or `inspectLifecycleDestinationSQL`. -/
  | destination (lock : Bool) (destination : DestinationID)
  /-- `lockLifecycleTokensSQL`, or `inspectLifecycleTokensSQL`. -/
  | tokens (lock : Bool) (destination : DestinationID)
  /-- `inspectRotationAttemptTokensSQL`. -/
  | attemptTokens (audience : GatewayAudienceID) (destination : DestinationID)
      (newActiveID oldRetiringID : DestinationTokenRecordID)
  | exec (statement : Statement)

/-- What `Query` answers: an error, with the error of the rows that may come with it, nil
rows, or rows: what each `Scan` gives, and the error at the end. -/
inductive RowsAnswer (ε α : Type) where
  | failed (error : ε) (terminal : Option ε)
  | absent
  | rows (scans : List (Except ε α)) (terminal : Option ε)

/-- The answers to the statements. -/
def LifecycleSql.Answer (ε : Type) : LifecycleSql → Type
  | .destination _ _ => RowAnswer ε LifecycleDestinationRecord
  | .tokens _ _ => RowsAnswer ε LifecycleTokenRecord
  | .attemptTokens _ _ _ _ => RowsAnswer ε LifecycleTokenRecord
  | .exec _ => Except ε Nat

/-- What the services ask of the world beside the database. -/
inductive Outside where
  /-- `ctx.Err()`. -/
  | contextErr
  | serviceClock
  | participantClock
  | newDestinationTokenRecordID
  | entropy
  | destinationVerifierKey (audience : GatewayAudienceID) (keyID : DestinationVerifierKeyID)
  | resolve (audience : GatewayAudienceID) (token : OpaqueDestinationToken) (now : Time)
  | identifyRotationToken (audience : GatewayAudienceID) (destination : DestinationID)
      (token : OpaqueDestinationToken) (newActiveID oldRetiringID : DestinationTokenRecordID)
      (now : Time)

/-- `DestinationTokenRotationTokenIdentity`. -/
inductive DestinationTokenRotationTokenIdentity where
  | unknown
  | new
  | old
  | neither
deriving DecidableEq

/-- The answers of the world. -/
def Outside.Answer (ε : Type) : Outside → Type
  | .contextErr => Option ε
  | .serviceClock => Time
  | .participantClock => Time
  | .newDestinationTokenRecordID => Except ε DestinationTokenRecordID
  | .entropy => Except ε (Bytes 32)
  | .destinationVerifierKey _ _ => Except ε ByteString
  | .resolve _ _ _ => Except ε DestinationID
  | .identifyRotationToken _ _ _ _ _ _ => Except ε DestinationTokenRotationTokenIdentity

/-- A program of the repository or of the services above it. -/
abbrev LifecycleProg (ν α : Type) :=
  Session.Program (GoError ν) (LifecycleSql.Answer (GoError ν)) (Outside.Answer (GoError ν)) α

/-! ## Transactions -/

/-- The statements one after the other, whatever number of rows each affects. -/
def applyStatements : List Statement → Store → Except TokenConstraint Store
  | [], s => .ok s
  | statement :: statements, s =>
    match statement.exec s with
    | .error violated => .error violated
    | .ok (s', _) => applyStatements statements s'

/-- An open transaction: the destination whose row it has locked, the statements it has
executed, and, if it only reads, the snapshot it reads. -/
structure LifecycleTx where
  lock : Option DestinationID
  pending : List Statement
  snapshot : Option Store

/-- The rows a transaction sees; it reads before it writes. -/
def LifecycleTx.seen (t : LifecycleTx) (s : Store) : Store := t.snapshot.getD s

/-- The transaction after a query that leaves it with a lock.  The first query of a
read-only transaction takes the snapshot. -/
def LifecycleTx.queried (t : LifecycleTx) (s : Store) (access : Session.Access)
    (lock : Option DestinationID) : LifecycleTx :=
  match access with
  | .readOnly => { t with snapshot := some (t.seen s) }
  | .readWrite => { t with lock := lock }

/-- Rows are delivered from the first on, each as it is or with an error; and all of
them, if there is no error at the end. -/
def Delivered {ε : Type} (rows : List TokenRow) :
    RowsAnswer ε LifecycleTokenRecord → Prop
  | .failed _ _ => True
  | .absent => True
  | .rows scans terminal => ∃ delivered rest, rows = delivered ++ rest ∧
      List.Forall₂ (fun row scan => ∀ record, scan = .ok record → record = TokenRow.record row)
        delivered scans ∧ (terminal = none → rest = [])

/-- A record that was scanned is that of a row. -/
theorem Delivered.row {ε : Type} {rows : List TokenRow}
    {scans : List (Except ε LifecycleTokenRecord)} {terminal : Option ε}
    (h : Delivered rows (.rows scans terminal)) {record : LifecycleTokenRecord}
    (hr : .ok record ∈ scans) : ∃ row ∈ rows, row.record = record := by
  obtain ⟨delivered, rest, rfl, hscans, -⟩ := h
  induction hscans with
  | nil => cases hr
  | cons hrow _ ih =>
    rcases List.mem_cons.mp hr with hr | hr
    · exact ⟨_, List.mem_cons_self, (hrow record hr.symm).symm⟩
    · obtain ⟨row, hmem, heq⟩ := ih hr
      exact ⟨row, List.mem_cons_of_mem _ hmem, heq⟩

/-- The tokens `inspectRotationAttemptTokensSQL` selects. -/
def Store.attemptTokens (s : Store) (audience : GatewayAudienceID) (destination : DestinationID)
    (newActiveID oldRetiringID : DestinationTokenRecordID) : List TokenRow :=
  (s.tokens.filter fun row => decide (row.audienceID = audience ∧ row.destinationID = destination ∧
    (row.recordID = newActiveID ∨ row.recordID = oldRetiringID))).insertionSort
      fun a b => a.rank.2 ≤ b.rank.2

/-- What a statement may answer, and what becomes of the transaction.  A locking query
that fails may have taken the lock, and a statement that fails may have been
executed. -/
def lifecycleSend {ε : Type} (s : Store) (access : Session.Access) (t : LifecycleTx) :
    (sql : LifecycleSql) → sql.Answer ε → LifecycleTx → Prop
  | .destination lock id, .scanned (.ok record), t' =>
      (∃ row, (t.seen s).destination? id = some row ∧ record = row.record) ∧
      t' = t.queried s access (if lock then some id else t.lock)
  | .destination lock id, _, t' => t' = t.queried s access t.lock ∨
      t' = t.queried s access (if lock then some id else t.lock)
  | .tokens _ id, answer, t' => Delivered ((t.seen s).lifecycleTokens id) answer ∧
      t' = t.queried s access t.lock
  | .attemptTokens audience id newID oldID, answer, t' =>
      Delivered ((t.seen s).attemptTokens audience id newID oldID) answer ∧
      t' = t.queried s access t.lock
  | .exec statement, .ok affected, t' => ∃ w w', applyStatements t.pending s = .ok w ∧
      statement.exec w = .ok (w', affected) ∧ t' = { t with pending := t.pending ++ [statement] }
  | .exec statement, .error _, t' => t' = t ∨ t' = { t with pending := t.pending ++ [statement] }

/-- The destination a transaction has locked. -/
def locked (t : Option LifecycleTx) : Option DestinationID := t.bind LifecycleTx.lock

/-- The answers the world may give. -/
abbrev World (ν : Type) := (request : Outside) → request.Answer (GoError ν) → Prop

/-- **The database of the repository.**  A commit is known not to have taken effect by the
one error value `pgx.ErrTxCommitRollback`. -/
def lifecycleSpec {ν : Type} (world : World ν) (mayKeep : Prop) :
    Session.Spec (GoError ν) (LifecycleSql.Answer (GoError ν)) (Outside.Answer (GoError ν)) Store
      LifecycleTx where
  initial := ⟨none, [], none⟩
  send := lifecycleSend
  result t s s' := applyStatements t.pending s = .ok s'
  definite e := e = .sentinel .pgxErrTxCommitRollback
  mayKeep := mayKeep
  answers := world
  intended t s s' := ∃ m : Mutation, m.commit s = .ok s' ∧ t.lock = some m.destination
  rely t := Relation.ReflTransGen fun s s' =>
    ∃ m : Mutation, m.commit s = .ok s' ∧ locked t ≠ some m.destination
  compatible t u := ∀ id, locked t = some id → locked u ≠ some id

/-! ## What a transaction does to a destination

A statement changes rows of one destination, and what it does to them depends on them
only. -/

/-- The rows of a destination, revoked or not. -/
def Store.rowsOf (s : Store) (destination : DestinationID) : List TokenRow :=
  s.tokens.filter fun row => decide (row.destinationID = destination)

/-- The destination a statement is about. -/
def Statement.destination : Statement → DestinationID
  | .insert candidate => candidate.destination
  | .update _ _ destination _ _ _ => destination

theorem Store.liveRows_eq (s : Store) (id : DestinationID) :
    s.liveRows id = (s.rowsOf id).filter fun row => decide (row.state ≠ .revoked) := by
  unfold Store.liveRows Store.rowsOf
  rw [List.filter_filter]
  congr 1
  funext row
  simp [Bool.and_comm]

namespace Statement
variable {statement : Statement} {id : DestinationID} {tokens : List TokenRow}

/-- The rows of another destination are kept. -/
theorem rewrite_other (h : statement.destination ≠ id) :
    (statement.rewrite tokens).filter (fun row => decide (row.destinationID = id)) =
      tokens.filter fun row => decide (row.destinationID = id) := by
  cases statement with
  | insert candidate =>
    rw [rewrite, List.filter_append, List.filter_singleton]
    simp [show candidate.row.destinationID ≠ id from h]
  | update state audience destination record stateChangedAt change =>
    change destination ≠ id at h
    induction tokens with
    | nil => rfl
    | cons row tokens ih =>
      have hrow : selects state audience destination record stateChangedAt row = true →
          row.destinationID ≠ id := by
        intro hs
        simp only [selects, decide_eq_true_eq] at hs
        exact hs.2.1 ▸ h
      simp only [rewrite, Keyed.update, List.map_cons] at ih ⊢
      by_cases hs : selects state audience destination record stateChangedAt row = true
      · simp [hs, hrow hs, ih]
      · simp [hs, List.filter_cons, ih]

/-- What is done to the rows of the destination, and their number, depends on them only. -/
theorem rewrite_same (h : statement.destination = id) :
    (statement.rewrite tokens).filter (fun row => decide (row.destinationID = id)) =
      statement.rewrite (tokens.filter fun row => decide (row.destinationID = id)) := by
  cases statement with
  | insert candidate =>
    rw [rewrite, List.filter_append, List.filter_singleton]
    simp [rewrite, show candidate.row.destinationID = id from h]
  | update state audience destination record stateChangedAt change =>
    rw [rewrite, rewrite, Keyed.update, Keyed.update, List.filter_map]
    congr 2
    funext row
    simp only [Function.comp]
    split <;> simp

theorem affected_same (h : statement.destination = id) :
    statement.affected tokens =
      statement.affected (tokens.filter fun row => decide (row.destinationID = id)) := by
  cases statement with
  | insert candidate => rfl
  | update state audience destination record stateChangedAt change =>
    change destination = id at h
    rw [affected, affected, List.countP_filter]
    congr 1
    funext row
    simp only [selects, ← h]
    by_cases hd : row.destinationID = destination <;> simp [hd]

end Statement

section
variable {s s' : Store} {id : DestinationID}

theorem Store.lifecycleTokens_of_rowsOf (h : s'.rowsOf id = s.rowsOf id) :
    s'.lifecycleTokens id = s.lifecycleTokens id := by
  rw [Store.lifecycleTokens, Store.lifecycleTokens, Store.liveRows_eq, Store.liveRows_eq, h]

variable {statements : List Statement} {state : LifecycleLockedState}

theorem runStatements_rowsOf (h : runStatements statements s = .ok s')
    (hd : ∀ statement ∈ statements, statement.destination ≠ id) :
    s'.destinations = s.destinations ∧ s'.rowsOf id = s.rowsOf id := by
  induction statements generalizing s with
  | nil =>
    rw [runStatements_nil] at h
    subst h
    exact ⟨rfl, rfl⟩
  | cons statement statements ih =>
    obtain ⟨s₁, hexec, hrest⟩ := runStatements_cons.mp h
    obtain ⟨hdest, htok, -⟩ := Statement.exec_ok hexec
    obtain ⟨hdest', hrows⟩ := ih hrest fun st hst => hd st (List.mem_cons_of_mem _ hst)
    refine ⟨hdest'.trans hdest, hrows.trans ?_⟩
    rw [Store.rowsOf, htok, Statement.rewrite_other (hd _ List.mem_cons_self)]
    rfl

/-- A mutation sends statements about its destination, and inserts its own candidate
only. -/
theorem Mutation.plan_statements {m : Mutation} (h : m.plan state = .ok statements) :
    ∀ statement ∈ statements, statement.destination = m.destination ∧
      ∀ candidate, statement = .insert candidate → m.inserted = some candidate := by
  cases m with
  | createStagedToken candidate now =>
    simp only [Mutation.plan, Except.bind_eq_ok, Except.refuseIf_eq_ok, exists_const] at h
    obtain ⟨-, h⟩ := h
    split at h <;> cases h
    simp [Statement.destination, Mutation.destination, Mutation.inserted]
  | createRotationStagedToken command =>
    simp only [Mutation.plan, Except.bind_eq_ok, Except.refuseIf_eq_ok, exists_const] at h
    obtain ⟨-, h⟩ := h
    split at h
    · cases h
    · simp only [Except.bind_eq_ok, Except.pure_eq_ok] at h
      obtain ⟨-, -, rfl⟩ := h
      simp [Statement.destination, Mutation.destination, Mutation.inserted]
  | activateInitialToken audience destination stagedID now =>
    simp only [Mutation.plan, Except.bind_eq_ok, Except.refuseIf_eq_ok, exists_const] at h
    obtain ⟨-, h⟩ := h
    split at h
    · cases h
    · simp only [Except.bind_eq_ok, Except.pure_eq_ok] at h
      obtain ⟨-, -, rfl⟩ := h
      simp [Statement.destination, Mutation.destination, activateInitialLifecycleTokenSQL]
  | activateRotation command =>
    simp only [Mutation.plan, Except.bind_eq_ok, Except.refuseIf_eq_ok, exists_const] at h
    obtain ⟨-, h⟩ := h
    split at h
    · simp only [Except.bind_eq_ok, Except.pure_eq_ok] at h
      obtain ⟨-, -, -, -, rfl⟩ := h
      simp [Statement.destination, Mutation.destination, retireLifecycleTokenSQL,
        activateRotationLifecycleTokenSQL]
    · cases h
  | abortStagedToken audience destination stagedID now =>
    simp only [Mutation.plan] at h
    split at h
    · cases h
    · simp only [Except.bind_eq_ok, Except.pure_eq_ok] at h
      obtain ⟨-, -, -, -, rfl⟩ := h
      simp [Statement.destination, Mutation.destination, revokeStagedLifecycleTokenSQL]
  | rollbackRotation command =>
    simp only [Mutation.plan, Except.bind_eq_ok, Except.refuseIf_eq_ok, exists_const,
      Except.pure_eq_ok] at h
    obtain ⟨pair, -, -, rfl⟩ := h
    simp [Statement.destination, Mutation.destination, revokeActiveLifecycleTokenSQL,
      restoreRetiringLifecycleTokenSQL]
  | finalizeRotation command =>
    simp only [Mutation.plan, Except.bind_eq_ok, Except.refuseIf_eq_ok, exists_const,
      Except.pure_eq_ok] at h
    obtain ⟨pair, -, -, rfl⟩ := h
    simp [Statement.destination, Mutation.destination, revokeRetiringLifecycleTokenSQL]

theorem Mutation.plan_destination {m : Mutation} (h : m.plan state = .ok statements) :
    ∀ statement ∈ statements, statement.destination = m.destination :=
  fun statement hmem => (Mutation.plan_statements h statement hmem).1

/-- Two stores agree on a destination: on its row, and on the rows of its tokens. -/
def Store.Agree (id : DestinationID) (s s' : Store) : Prop :=
  s'.destinations = s.destinations ∧ s'.rowsOf id = s.rowsOf id

theorem Store.Agree.refl : s.Agree id s := ⟨rfl, rfl⟩

theorem Store.Agree.trans {s'' : Store} (h : s.Agree id s') (h' : s'.Agree id s'') :
    s.Agree id s'' := ⟨h'.1.trans h.1, h'.2.trans h.2⟩

/-- What is loaded for a destination depends on its rows only. -/
theorem Store.Agree.loadState (h : s.Agree id s') (audience : GatewayAudienceID) (now : Time) :
    s'.loadState audience id now = s.loadState audience id now := by
  unfold Store.loadState Store.destination?
  rw [h.1, Store.lifecycleTokens_of_rowsOf h.2]

/-- Others that mutate other destinations leave a destination as it is. -/
theorem agree_of_rely {ν : Type} {world : World ν} {mayKeep : Prop} {t : Option LifecycleTx}
    (ht : locked t = some id) (h : (lifecycleSpec world mayKeep).rely t s s') : s.Agree id s' := by
  induction h with
  | refl => exact .refl
  | tail _ hm ih =>
    obtain ⟨m, hcommit, hne⟩ := hm
    obtain ⟨-, -, state, statements, -, hplan, hrun⟩ := Mutation.commit_eq_ok.mp hcommit
    refine ih.trans (runStatements_rowsOf hrun fun statement hst heq => hne ?_)
    rw [ht, ← heq, Mutation.plan_destination hplan statement hst]

/-- The statements that affected one row each when they were sent do so when they are
committed. -/
theorem runStatements_of_apply {s₀ w₀ w : Store}
    (hd : ∀ statement ∈ statements, statement.destination = id)
    (hagree : s₀.rowsOf id = s.rowsOf id) (h₀ : runStatements statements s₀ = .ok w₀)
    (h : applyStatements statements s = .ok w) :
    runStatements statements s = .ok w := by
  induction statements generalizing s₀ s with
  | nil => simpa [runStatements, applyStatements] using h
  | cons statement statements ih =>
    obtain ⟨s₁, hexec₁, hrest₁⟩ := runStatements_cons.mp h₀
    obtain ⟨-, htok₁, hone⟩ := Statement.exec_ok hexec₁
    cases hexec : statement.exec s with
    | error c => simp [applyStatements, hexec] at h
    | ok result =>
      obtain ⟨s₂, n⟩ := result
      simp only [applyStatements, hexec] at h
      obtain ⟨-, htok₂, hn⟩ := Statement.exec_ok hexec
      have hself := hd statement List.mem_cons_self
      have hcount : n = 1 :=
        calc n = statement.affected (s.rowsOf id) := hn.trans (Statement.affected_same hself)
          _ = statement.affected (s₀.rowsOf id) := by rw [hagree]
          _ = 1 := (hone.trans (Statement.affected_same hself)).symm
      have hrows : s₁.rowsOf id = s₂.rowsOf id := by
        rw [Store.rowsOf, Store.rowsOf, htok₁, htok₂, Statement.rewrite_same hself,
          Statement.rewrite_same hself]
        exact congrArg (statement.rewrite ·) hagree
      subst hcount
      exact runStatements_cons.mpr ⟨s₂, hexec,
        ih (fun st hst => hd st (List.mem_cons_of_mem _ hst)) hrows hrest₁ h⟩

end

/-! ## A database without faults -/

/-- All rows, each as it is. -/
def deliverAll {ε : Type} (rows : List TokenRow) : RowsAnswer ε LifecycleTokenRecord :=
  .rows (rows.map fun row => .ok row.record) none

theorem delivered_all {ε : Type} (rows : List TokenRow) :
    Delivered rows (deliverAll rows : RowsAnswer ε LifecycleTokenRecord) := by
  refine ⟨rows, [], by simp, ?_, fun _ => rfl⟩
  rw [List.forall₂_map_right_iff, List.forall₂_same]
  rintro row - record ⟨⟩
  rfl

section
variable {ν : Type}

/-- The answer to a statement that only fails when it must. -/
def answerSql (s : Store) (access : Session.Access) (t : LifecycleTx) :
    (sql : LifecycleSql) → sql.Answer (GoError ν) × LifecycleTx
  | .destination lock id =>
    match (t.seen s).destination? id with
    | some row => (.scanned (.ok row.record), t.queried s access (if lock then some id else t.lock))
    | none => (.scanned (.error (.sentinel .pgxErrNoRows)), t.queried s access t.lock)
  | .tokens _ id => (deliverAll ((t.seen s).lifecycleTokens id), t.queried s access t.lock)
  | .attemptTokens audience id newID oldID =>
    (deliverAll ((t.seen s).attemptTokens audience id newID oldID), t.queried s access t.lock)
  | .exec statement =>
    match applyStatements t.pending s with
    | .error _ => (.error (.sentinel .errInvalidState), t)
    | .ok w =>
      match statement.exec w with
      | .error _ => (.error (.sentinel .errInvalidState), t)
      | .ok (_, affected) => (.ok affected, { t with pending := t.pending ++ [statement] })

theorem answerSql_send (s : Store) (access : Session.Access) (t : LifecycleTx)
    (sql : LifecycleSql) : lifecycleSend s access t sql (answerSql (ν := ν) s access t sql).1
      (answerSql (ν := ν) s access t sql).2 := by
  cases sql with
  | destination lock id =>
    cases hrow : (t.seen s).destination? id with
    | none =>
      simp only [answerSql, hrow]
      exact Or.inl rfl
    | some row =>
      simp only [answerSql, hrow]
      exact ⟨⟨row, hrow, rfl⟩, rfl⟩
  | tokens lock id => exact ⟨delivered_all _, rfl⟩
  | attemptTokens audience id newID oldID => exact ⟨delivered_all _, rfl⟩
  | exec statement =>
    cases happly : applyStatements t.pending s with
    | error c =>
      simp only [answerSql, happly]
      exact Or.inl rfl
    | ok w =>
      cases hexec : statement.exec w with
      | error c =>
        simp only [answerSql, happly, hexec]
        exact Or.inl rfl
      | ok result =>
        simp only [answerSql, happly, hexec]
        exact ⟨w, result.1, happly, hexec, rfl⟩

variable (outside : (request : Outside) → request.Answer (GoError ν))

/-- The answers of a database without faults, in a world that answers as `outside`. -/
def answerAll (p : Store × Session.Local Store LifecycleTx) :
    (request : Session.Request LifecycleSql Outside) →
      Session.Reply (GoError ν) (LifecycleSql.Answer (GoError ν)) (Outside.Answer (GoError ν))
        request × (Store × Session.Local Store LifecycleTx)
  | .db .acquire => (Session.Opened.opened, p)
  | .db (.begin access) =>
    (Session.Opened.opened, (p.1, ⟨some (access, ⟨none, [], none⟩), p.2.own⟩))
  | .db (.send sql) =>
    match p.2.tx with
    | none => ((answerSql p.1 .readOnly ⟨none, [], none⟩ sql).1, p)
    | some (access, t) =>
      ((answerSql p.1 access t sql).1,
        (p.1, ⟨some (access, (answerSql (ν := ν) p.1 access t sql).2), p.2.own⟩))
  | .db .commit =>
    match p.2.tx with
    | some (.readWrite, t) =>
      match applyStatements t.pending p.1 with
      | .error _ => (some (.sentinel .pgxErrTxCommitRollback), (p.1, ⟨none, p.2.own⟩))
      | .ok s => (none, (s, ⟨none, p.2.own ++ [(p.1, s)]⟩))
    | _ => (none, (p.1, ⟨none, p.2.own⟩))
  | .db .rollback => (none, (p.1, ⟨none, p.2.own⟩))
  | .db .release => ((), p)
  | .db .destroy => ((), p)
  | .outside request => (outside request, p)

/-- These are answers the database may give. -/
theorem answerAll_act {world : World ν} {mayKeep : Prop}
    (hworld : ∀ request, world request (outside request)) (p : Store × Session.Local Store LifecycleTx)
    (request : Session.Request LifecycleSql Outside) :
    (lifecycleSpec world mayKeep).act p.1 p.2 request (answerAll outside p request).1
      (answerAll outside p request).2.2 (answerAll outside p request).2.1 := by
  obtain ⟨s, tx, own⟩ := p
  match request with
  | .db .acquire => exact ⟨rfl, rfl⟩
  | .db (.begin access) => exact ⟨rfl, rfl⟩
  | .db (.send sql) =>
    cases tx with
    | none => exact ⟨rfl, rfl⟩
    | some open' => exact ⟨rfl, _, answerSql_send s _ _ sql, rfl⟩
  | .db .commit =>
    match tx with
    | none => exact ⟨rfl, rfl⟩
    | some (.readOnly, t) => exact ⟨rfl, rfl⟩
    | some (.readWrite, t) =>
      cases happly : applyStatements t.pending s with
      | error c =>
        simp only [answerAll, happly]
        exact Or.inl ⟨rfl, rfl⟩
      | ok s' =>
        simp only [answerAll, happly]
        exact ⟨happly, rfl⟩
  | .db .rollback => exact ⟨rfl, rfl⟩
  | .db .release => exact ⟨rfl, rfl⟩
  | .db .destroy => exact ⟨rfl, rfl⟩
  | .outside request => exact ⟨rfl, rfl, hworld request⟩

@[inherit_doc answerAll_act]
theorem answerAll_step {world : World ν} {mayKeep : Prop}
    (hworld : ∀ request, world request (outside request)) (p : Store × Session.Local Store LifecycleTx)
    (request : Session.Request LifecycleSql Outside) :
    (lifecycleSpec world mayKeep).environment.step p request (answerAll outside p request).1
      (answerAll outside p request).2 :=
  ⟨p.1, .refl, answerAll_act outside hworld p request⟩

end

end OncallGateway
