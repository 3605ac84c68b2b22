import OncallGateway.Startup

/-! # Gateways that start together

Any number of gateways start on one database, and die at any time.  Each makes the calls of
`run`: on its pool, on the connection that migrates, and on its server.  What a call may ask
for is told by `gatewayShared`: a pool is opened with an admitted configuration only and is
used while it is open, and a gateway listens only when the migrations that it carries are
recorded.

The runner was proved against an atomic snapshot.  The three queries that it is made of are
shown to be one (`wp_metadataSnapshot`), although the others may commit between them, so that
what was proved of the runner holds of the gateway (`Prog.wp_expand`).
-/

namespace OncallGateway

/-! ## The system -/

/-- A gateway: the session that migrates, and whether its pool is open. -/
structure GatewayInstance where
  session : MigrationSession
  poolOpen : Bool

namespace GatewayInstance

/-- A gateway that is gone, with its pool. -/
def gone (t : GatewayInstance) : GatewayInstance := ⟨t.session.gone, false⟩

/-- The session after a call that failed. -/
def Failed (t t' : GatewayInstance) : Prop :=
  ∃ session, t.session.Failed session ∧ t' = { t with session := session }

/-- The session after it has looked at the records. -/
def looked (t : GatewayInstance) (db : SchemaDatabase) : GatewayInstance :=
  { t with session := { t.session with inspected := some db.keys } }

/-- What a query leaves behind, by what is made of its answer: `true` where another one
follows. -/
def Queried {ε : Type} (t : GatewayInstance) (db : SchemaDatabase) :
    Except ε Bool → GatewayInstance → Prop
  | .error _, t' => t.Failed t'
  | .ok true, t' => t' = t
  | .ok false, t' => t' = t.looked db

end GatewayInstance

section
variable {ν : Type}

/-- What a call may answer and do. -/
def gatewayAct (db : SchemaDatabase) (t : GatewayInstance) :
    (call : GatewayCall) → call.Answer ν → GatewayInstance → SchemaDatabase → Prop
  | .session call, answer, t', db' =>
    ∃ session, migrationAct db t.session call answer session db' ∧
      t' = { t with session := session }
  | .newPool _, none, t', db' => t' = { t with poolOpen := true } ∧ db' = db
  | .newPool _, some _, t', db' => t' = t ∧ db' = db
  | .closePool, _, t', db' => t' = { t with poolOpen := false } ∧ db' = db
  | .tableExists, answer, t', db' => t.Queried db answer t' ∧ db' = db ∧
      ∀ found, answer = .ok found → (found = true ↔ db.recorded ≠ [])
  | .columns, .error _, t', db' => t.Failed t' ∧ db' = db
  | .columns, .ok queried, t', db' => t.Queried db (columnsComplete queried) t' ∧ db' = db
  | .records, .error _, t', db' => t.Failed t' ∧ db' = db
  -- the last query: the session has looked, whatever was made of the rows
  | .records, .ok queried, t', db' => queried.Delivers db.recorded ∧ db' = db ∧
      t.Queried db ((snapshotRecords queried).map fun _ => false) t'
  | _, _, t', db' => t' = t ∧ db' = db

/-- What a call asks for. -/
def gatewayAsks (ν : Type) (lib : StartupLibrary) (common : List Migration) (base : Nat)
    (db : SchemaDatabase) (t : GatewayInstance) : GatewayCall → Prop
  | .startupContext timeout => 0 < timeout ∧ timeout ≤ maximumStartupTimeout
  | .newPool config => config.Admitted lib ∧ t.poolOpen = false
  | .session call => (migrationShared ν common base).pre db t.session call ∧ t.poolOpen = true
  | .listen _ => t.session.migrations.map Migration.key <+: db.keys ∧ t.poolOpen = true
  | _ => t.poolOpen = true

/-- What the gateways share; they interfere as their sessions do. -/
def gatewayShared (ν : Type) (lib : StartupLibrary) (common : List Migration) (base : Nat) :
    Shared GatewayCall (GatewayCall.Answer ν) SchemaDatabase GatewayInstance where
  act := gatewayAct
  pre := gatewayAsks ν lib common base
  rely t := (migrationShared ν common base).rely t.session
  compatible t u := (migrationShared ν common base).compatible t.session u.session

/-! ## What one call does -/

variable {call : GatewayCall}

section
variable {common : List Migration} {base : Nat} {db db' : SchemaDatabase}

/-- A call of the runner changes the lock and the transaction of its session, or it looks. -/
theorem migrationAct_session {t t' : MigrationSession} {call : MigrationCall}
    {answer : call.Answer ν} (h : migrationAct db t call answer t' db') :
    (∃ locked pending, t' = { t with locked := locked, pending := pending }) ∨
      t' = { t with inspected := some db.keys } := by
  have hfailed : t.Failed t' → ∃ locked pending, t' = { t with locked, pending } :=
    fun ⟨locked, pending, _, h⟩ => ⟨locked, pending, h⟩
  have hafter : ∀ {done : MigrationSession} {err : Option (GoError ν)}, t.After done err t' →
      (∃ locked pending, done = { t with locked, pending }) →
      ∃ locked pending, t' = { t with locked, pending } := by
    intro done err hafter hdone
    cases err with
    | none =>
      obtain rfl : t' = done := hafter
      exact hdone
    | some err => exact hfailed hafter
  cases call with
  | lock => cases answer with
    | none => exact .inl ⟨_, _, h.1⟩
    | some err =>
      obtain ⟨locked, h⟩ := h.1
      exact .inl ⟨_, _, h⟩
  | snapshot => cases answer with
    | error err => exact .inl (hfailed h.1)
    | ok snapshot => exact .inr h.1
  | commit => cases answer with
    | none => exact .inl ⟨_, _, h.1⟩
    | some err => exact .inl (hfailed h.1)
  | unlock => cases answer with
    | error err => exact .inl (hfailed h.1)
    | ok unlocked => cases unlocked with
      | false => exact .inl ⟨_, _, h.1⟩
      | true => exact .inl ⟨_, _, h.1⟩
  | acquire => exact .inl ⟨_, _, h.1⟩
  | begin => exact .inl (hafter h.1 ⟨_, _, rfl⟩)
  | exec sql => exact .inl (hafter h.1 ⟨_, _, rfl⟩)
  | record version checksum => exact .inl (hafter h.1 ⟨_, _, rfl⟩)
  | rollback => exact .inl (hafter h.1 ⟨_, _, rfl⟩)
  | release => exact .inl ⟨_, _, h.1⟩
  | destroy => exact .inl ⟨_, _, h.1⟩

variable {t t' : GatewayInstance}

theorem GatewayInstance.Failed.migrations_eq (h : t.Failed t') :
    t'.session.migrations = t.session.migrations := by
  obtain ⟨session, hfailed, rfl⟩ := h
  exact MigrationSession.Failed.migrations_eq hfailed

theorem GatewayInstance.Queried.migrations_eq {ε : Type} {read : Except ε Bool}
    (h : t.Queried db read t') : t'.session.migrations = t.session.migrations := by
  cases read with
  | error err => exact GatewayInstance.Failed.migrations_eq h
  | ok next => cases next with
    | false =>
      obtain rfl : t' = t.looked db := h
      rfl
    | true =>
      obtain rfl : t' = t := h
      rfl

variable {answer : call.Answer ν}

/-- A gateway carries the same migrations throughout. -/
theorem gatewayAct_migrations (h : gatewayAct db t call answer t' db') :
    t'.session.migrations = t.session.migrations := by
  cases call with
  | session call =>
    obtain ⟨session, hact, rfl⟩ := h
    exact migrationAct_migrations hact
  | newPool config => cases answer with
    | none => rw [h.1]
    | some err => rw [h.1]
  | tableExists => exact h.1.migrations_eq
  | columns => cases answer with
    | error err => exact h.1.migrations_eq
    | ok queried => exact h.1.migrations_eq
  | records => cases answer with
    | error err => exact h.1.migrations_eq
    | ok queried => exact h.2.2.migrations_eq
  | startupContext timeout => rw [h.1]
  | ping => rw [h.1]
  | closePool => rw [h.1]
  | listen address => rw [h.1]
  | await => rw [h.1]
  | shutdown => rw [h.1]
  | serverError => rw [h.1]

/-- Only the runner writes to the database. -/
theorem gatewayAct_database (h : gatewayAct db t call answer t' db') :
    db' = db ∨ ∃ migrationCall answer session, call = .session migrationCall ∧
      @migrationAct ν db t.session migrationCall answer session db' := by
  cases call with
  | session call =>
    obtain ⟨session, hact, -⟩ := h
    exact .inr ⟨call, answer, session, rfl, hact⟩
  | newPool config => cases answer with
    | none => exact .inl h.2
    | some err => exact .inl h.2
  | tableExists => exact .inl h.2.1
  | columns => cases answer with
    | error err => exact .inl h.2
    | ok queried => exact .inl h.2
  | records => cases answer with
    | error err => exact .inl h.2
    | ok queried => exact .inl h.2.1
  | startupContext timeout => exact .inl h.2
  | ping => exact .inl h.2
  | closePool => exact .inl h.2
  | listen address => exact .inl h.2
  | await => exact .inl h.2
  | shutdown => exact .inl h.2
  | serverError => exact .inl h.2

theorem gatewayShared_lawful {lib : StartupLibrary} (hcommon : Contiguous common) :
    (gatewayShared ν lib common base).Lawful := by
  have hlawful := @migrationShared_lawful ν common base hcommon
  refine ⟨fun t => hlawful.refl t.session, fun t => hlawful.trans t.session,
    fun t u => hlawful.symm t.session u.session, ?_⟩
  intro db t call answer t' db' u hpre hact hcompatible
  obtain rfl | ⟨migrationCall, answer, session, rfl, hmigrates⟩ := gatewayAct_database hact
  · exact hlawful.refl _ _
  · exact hlawful.guarantee _ _ _ _ _ _ _ hpre.1 hmigrates hcompatible

end

/-! ## One gateway, while others run -/

/-- A gateway with its pool open or not, on a sound database that has kept what the gateway
has seen. -/
structure Kept (common : List Migration) (base : Nat) (own : List Migration) (poolOpen : Bool)
    (s : SchemaDatabase × GatewayInstance) : Prop where
  sound : s.1.Sound common base
  carries : s.2.session.migrations = own
  pool : s.2.poolOpen = poolOpen
  seen : ∀ keys, s.2.session.inspected = some keys → keys <+: s.1.keys

section
variable {lib : StartupLibrary} {common own : List Migration} {base : Nat} {poolOpen : Bool}
  {db db' : SchemaDatabase} {t t' : GatewayInstance} {s : SchemaDatabase × GatewayInstance}

theorem SchemaDatabase.keys_isPrefix (h : db.recorded <+: db'.recorded) : db.keys <+: db'.keys :=
  h.map _

/-- What the others do keeps it. -/
theorem Kept.rely (h : Kept common base own poolOpen (db, t))
    (hrely : (gatewayShared ν lib common base).rely t db db') :
    Kept common base own poolOpen (db', t) := by
  obtain ⟨hsound, hprefix⟩ := hrely.2 h.sound
  exact ⟨hsound, h.carries, h.pool,
    fun keys hkeys => (h.seen keys hkeys).trans (SchemaDatabase.keys_isPrefix hprefix)⟩

theorem Kept.failed (h : Kept common base own poolOpen (db, t)) (hfailed : t.Failed t') :
    Kept common base own poolOpen (db, t') := by
  obtain ⟨_, ⟨locked, pending, -, rfl⟩, rfl⟩ := hfailed
  exact ⟨h.sound, h.carries, h.pool, h.seen⟩

theorem Kept.looked (h : Kept common base own poolOpen (db, t)) :
    Kept common base own poolOpen (db, t.looked db) :=
  ⟨h.sound, h.carries, h.pool, fun _ hkeys => Option.some.inj hkeys ▸ List.prefix_rfl⟩

/-- One call, after whatever the others did before it. -/
theorem wp_request_kept {Q : call.Answer ν → SchemaDatabase × GatewayInstance → Prop}
    (h : Kept common base own poolOpen s)
    (hasks : ∀ db, Kept common base own poolOpen (db, s.2) → s.1.recorded <+: db.recorded →
      gatewayAsks ν lib common base db s.2 call)
    (hQ : ∀ answer t' db db', Kept common base own poolOpen (db, s.2) →
      s.1.recorded <+: db.recorded → gatewayAct db s.2 call answer t' db' → Q answer (db', t')) :
    (Prog.request call : GatewayProg ν _).wp (gatewayShared ν lib common base).environment Q s := by
  refine Prog.wp_request.mpr ⟨fun db hrely => ?_, ?_⟩
  · exact hasks db (h.rely hrely) (hrely.2 h.sound).2
  · rintro answer ⟨db', t'⟩ ⟨db, hrely, hact⟩
    exact hQ answer t' db db' (h.rely hrely) (hrely.2 h.sound).2 hact

/-- A call of the runner that the gateway passes on. -/
theorem wp_session (hcommon : Contiguous common) {call : MigrationCall}
    (h : Kept common base own true s)
    (hpre : (migrationShared ν common base).environment.pre (s.1, s.2.session) call) :
    (Prog.request (GatewayCall.session call) : GatewayProg ν _).wp
      (gatewayShared ν lib common base).environment (fun answer s' =>
        (migrationShared ν common base).environment.step (s.1, s.2.session) call answer
          (s'.1, s'.2.session) ∧ Kept common base own true s') s := by
  refine Prog.wp_request.mpr ⟨fun db hrely => ⟨hpre db hrely, h.pool⟩, ?_⟩
  rintro answer ⟨db', t'⟩ ⟨db, hrely, session, hact, rfl⟩
  refine ⟨⟨db, hrely, hact⟩, ?_⟩
  have hdb : Kept common base own true (db, s.2) := h.rely hrely
  -- what the runner guarantees to a session without the lock
  have hidle := (migrationShared_lawful hcommon).guarantee db s.2.session call answer session db'
    ⟨own, false, none, none⟩ (hpre db hrely) hact fun h => absurd h.1 Bool.false_ne_true
  obtain ⟨hsound, hprefix⟩ := hidle.2 hdb.sound
  refine ⟨hsound, (migrationAct_migrations hact).trans h.carries, h.pool, fun keys hkeys => ?_⟩
  refine List.IsPrefix.trans ?_ (SchemaDatabase.keys_isPrefix hprefix)
  obtain ⟨locked, pending, rfl⟩ | rfl := migrationAct_session hact
  · exact hdb.seen keys hkeys
  · exact Option.some.inj hkeys ▸ List.prefix_rfl

/-- The answer to a snapshot, as the runner was promised it. -/
def Snapshots (ν : Type) (common : List Migration) (base : Nat) (own : List Migration)
    (s : SchemaDatabase × GatewayInstance) (answer : Except (GoError ν) MetadataSnapshot)
    (s' : SchemaDatabase × GatewayInstance) : Prop :=
  (migrationShared ν common base).environment.step (s.1, s.2.session) .snapshot answer
    (s'.1, s'.2.session) ∧ Kept common base own true s'

section
variable (h : Kept common base own true (db, s.2))
  (hrely : (gatewayShared ν lib common base).rely s.2 s.1 db)
include h hrely

theorem snapshots_failed {err : GoError ν} (hfailed : s.2.Failed t') :
    Snapshots ν common base own s (.error err) (db, t') := by
  refine ⟨⟨db, hrely, ?_, rfl⟩, h.failed hfailed⟩
  obtain ⟨session, hsession, rfl⟩ := hfailed
  exact hsession

theorem snapshots_looked {snapshot : MetadataSnapshot}
    (hsnapshot : snapshot = db.snapshot ∨ db.recorded ≠ [] ∧ snapshot = ⟨true, false, []⟩) :
    Snapshots ν common base own s (.ok snapshot) (db, s.2.looked db) :=
  ⟨⟨db, hrely, rfl, rfl, hsnapshot⟩, h.looked⟩

/-- The last query, and what is made of its rows. -/
theorem snapshots_records (hfilled : db.recorded ≠ []) {answer : GatewayCall.records.Answer ν}
    (hact : gatewayAct db s.2 .records answer t' db') :
    Prog.wp (gatewayShared ν lib common base).environment
      (match answer with
        | .error err => pure (.error err)
        | .ok queried => pure (snapshotRecords queried))
      (Snapshots ν common base own s) (db', t') := by
  cases answer with
  | error err =>
    obtain ⟨hfailed, rfl⟩ := hact
    exact snapshots_failed h hrely hfailed
  | ok queried =>
    obtain ⟨hdelivers, rfl, hqueried⟩ := hact
    show Snapshots ν common base own s (snapshotRecords queried) (_, t')
    obtain ⟨err, hread, -⟩ | hread | hread := snapshotRecords_delivered hdelivers
    · rw [hread] at hqueried ⊢
      exact snapshots_failed h hrely hqueried
    · rw [hread] at hqueried ⊢
      obtain rfl : t' = s.2.looked _ := hqueried
      exact snapshots_looked h hrely (.inr ⟨hfilled, rfl⟩)
    · rw [hread] at hqueried ⊢
      obtain rfl : t' = s.2.looked _ := hqueried
      exact snapshots_looked h hrely (.inl (if_neg hfilled).symm)

end

/-- The query of the columns fails, goes on, or is the last one. -/
theorem wp_metadataColumnsComplete (h : Kept common base own true s)
    {Q : Except (GoError ν) Bool → SchemaDatabase × GatewayInstance → Prop}
    (hQ : ∀ answer db t', (gatewayShared ν lib common base).rely s.2 s.1 db →
      s.2.Queried db answer t' → Q answer (db, t')) :
    (metadataColumnsComplete : GatewayProg ν _).wp (gatewayShared ν lib common base).environment
      Q s := by
  unfold metadataColumnsComplete
  rw [Prog.wp_bind]
  refine ⟨fun _ _ => h.pool, ?_⟩
  rintro answer ⟨db, t'⟩ ⟨db', hrely, hact⟩
  cases answer with
  | error err =>
    obtain ⟨hfailed, rfl⟩ := hact
    exact hQ (.error err) db t' hrely hfailed
  | ok queried =>
    obtain ⟨hqueried, rfl⟩ := hact
    exact hQ _ db t' hrely hqueried

/-- **The three queries of a snapshot are one**, although others may commit between them: what
is returned was so at the last of them. -/
theorem wp_metadataSnapshot (hcommon : Contiguous common) (h : Kept common base own true s) :
    (metadataSnapshot : GatewayProg ν _).wp (gatewayShared ν lib common base).environment
      (Snapshots ν common base own s) s := by
  have htrans := (@gatewayShared_lawful ν common base lib hcommon).trans s.2
  unfold metadataSnapshot
  rw [Prog.wp_bind]
  refine ⟨fun _ _ => h.pool, ?_⟩
  rintro answer ⟨db₁, t₁⟩ ⟨_, hrely₁, hqueried₁, rfl, hfound⟩
  have h₁ : Kept common base own true (db₁, s.2) := h.rely hrely₁
  cases answer with
  | error err => exact snapshots_failed h₁ hrely₁ hqueried₁
  | ok found => cases found with
    | false =>
      obtain rfl : t₁ = s.2.looked db₁ := hqueried₁
      have hempty : db₁.recorded = [] := by simpa using hfound false rfl
      exact snapshots_looked h₁ hrely₁ (.inl (if_pos hempty).symm)
    | true =>
      obtain rfl : t₁ = s.2 := hqueried₁
      -- the table is there from now on
      have hfilled : ∀ db, (gatewayShared ν lib common base).rely s.2 db₁ db →
          db.recorded ≠ [] := fun db hrely hempty =>
        (hfound true rfl).mp rfl (List.prefix_nil.mp (hempty ▸ (hrely.2 h₁.sound).2))
      show Prog.wp _ (metadataColumnsComplete >>= _) _ _
      rw [Prog.wp_bind]
      refine wp_metadataColumnsComplete h₁ fun answer db₂ t₂ hrely₂ hqueried₂ => ?_
      have h₂ : Kept common base own true (db₂, s.2) := h₁.rely hrely₂
      have hrely₂' := htrans _ _ _ hrely₁ hrely₂
      cases answer with
      | error err => exact snapshots_failed h₂ hrely₂' hqueried₂
      | ok complete => cases complete with
        | false =>
          obtain rfl : t₂ = s.2.looked db₂ := hqueried₂
          exact snapshots_looked h₂ hrely₂' (.inr ⟨hfilled _ hrely₂, rfl⟩)
        | true =>
          obtain rfl : t₂ = s.2 := hqueried₂
          show Prog.wp _ (Prog.request GatewayCall.records >>= _) _ _
          rw [Prog.wp_bind]
          refine ⟨fun _ _ => h.pool, ?_⟩
          rintro answer ⟨db₃, t₃⟩ ⟨db₃', hrely₃, hact₃⟩
          have h₃ : Kept common base own true (db₃', s.2) := h₂.rely hrely₃
          exact snapshots_records h₃ (htrans _ _ _ hrely₂' hrely₃)
            (hfilled db₃' (htrans _ _ _ hrely₂ hrely₃)) hact₃

/-- **Each call of the runner is a step of the system it was proved in.** -/
theorem wp_migrationHandler (hcommon : Contiguous common) (call : MigrationCall)
    (h : Kept common base own true s)
    (hpre : (migrationShared ν common base).environment.pre (s.1, s.2.session) call) :
    (migrationHandler call : GatewayProg ν _).wp (gatewayShared ν lib common base).environment
      (fun answer s' => (migrationShared ν common base).environment.step (s.1, s.2.session) call
        answer (s'.1, s'.2.session) ∧ Kept common base own true s') s := by
  cases call with
  | snapshot => exact wp_metadataSnapshot hcommon h
  | _ => exact wp_session hcommon h hpre

theorem wp_closePool (h : Kept common base own true s) :
    (Prog.request GatewayCall.closePool : GatewayProg ν _).wp
      (gatewayShared ν lib common base).environment
      (fun _ s' => Kept common base own false s') s := by
  refine wp_request_kept h (fun _ h' _ => h'.pool) ?_
  rintro _ _ db _ h' _ ⟨rfl, rfl⟩
  exact ⟨h'.sound, h'.carries, rfl, h'.seen⟩

theorem wp_openPool {config : PoolConfig} (hconfig : config.Admitted lib)
    (h : Kept common base own false s) :
    (openPool config : GatewayProg ν _).wp (gatewayShared ν lib common base).environment
      (fun err s' => Kept common base own err.isNone s') s := by
  unfold openPool
  rw [Prog.wp_bind]
  refine wp_request_kept h (fun _ h' _ => ⟨hconfig, h'.pool⟩) ?_
  intro answer t₁ db₁ db₁' h₁ _ hact₁
  cases answer with
  | some err =>
    obtain ⟨rfl, rfl⟩ := hact₁
    exact h₁
  | none =>
    obtain ⟨rfl, rfl⟩ := hact₁
    have hopen : Kept common base own true (db₁', { s.2 with poolOpen := true }) :=
      ⟨h₁.sound, h₁.carries, rfl, h₁.seen⟩
    show Prog.wp _ (Prog.request GatewayCall.ping >>= _) _ _
    rw [Prog.wp_bind]
    refine wp_request_kept hopen (fun _ h' _ => h'.pool) ?_
    rintro answer t₂ db₂ _ h₂ _ ⟨rfl, rfl⟩
    cases answer with
    | none => exact h₂
    | some err =>
      show Prog.wp _ (Prog.request GatewayCall.closePool >>= _) _ _
      rw [Prog.wp_bind]
      exact wp_closePool h₂

/-- What `Prepare` leaves behind. -/
def Prepares (common : List Migration) (base : Nat) (own : List Migration) (prepared : Prepared)
    (s : SchemaDatabase × GatewayInstance) : Prop :=
  match prepared with
  | .ready => Kept common base own true s ∧ own.map Migration.key <+: s.1.keys
  | .failed _ => Kept common base own false s
  | .panicked => False

variable [ErrorGraph ν]

/-- **`Prepare`** ends with an open pool on a database that has the migrations of the gateway,
or with an error and no pool. -/
theorem wp_prepareDatabase (hcommon : Contiguous common) (hown : own <+: common)
    {databaseURL : ByteString} (h : Kept common base own false s) :
    (prepareDatabase lib own databaseURL : GatewayProg ν _).wp
      (gatewayShared ν lib common base).environment (Prepares common base own) s := by
  unfold prepareDatabase
  cases hconfig : parsePoolConfig lib databaseURL with
  | error err => exact h
  | ok config =>
    show Prog.wp _ (openPool config >>= _) _ _
    rw [Prog.wp_bind]
    refine Prog.wp_mono (wp_openPool (parsePoolConfig_admitted hconfig) h) fun err s₁ h₁ => ?_
    cases err with
    | some err => exact h₁
    | none =>
      have hmigrates : (runMigrations own).wp (migrationShared ν common base).environment
          (fun outcome s' => Reports own outcome s' ∧ outcome.Returns) (s₁.1, s₁.2.session) :=
        (yields_runMigrations (hcommon.of_isPrefix hown)).wp
          (wp_runMigrations hcommon hown h₁.sound h₁.carries)
      have hexpanded : ((runMigrations own).expand migrationHandler : GatewayProg ν _).wp
          (gatewayShared ν lib common base).environment (fun outcome s' =>
            (Reports own outcome (s'.1, s'.2.session) ∧ outcome.Returns) ∧
              Kept common base own true s') s₁ :=
        Prog.wp_expand (f := fun s : SchemaDatabase × GatewayInstance => (s.1, s.2.session))
          (fun call s hs => wp_migrationHandler hcommon call hs) (fun _ _ => trivial) hmigrates
          h₁
      show Prog.wp _ ((runMigrations own).expand migrationHandler >>= _) _ _
      rw [Prog.wp_bind]
      refine Prog.wp_mono hexpanded ?_
      rintro outcome s₂ ⟨⟨hreports, err, rfl⟩, h₂⟩
      cases err with
      | none => exact ⟨h₂, h₂.seen _ (hreports rfl)⟩
      | some err =>
        show Prog.wp _ (Prog.request GatewayCall.closePool >>= _) _ _
        rw [Prog.wp_bind]
        exact wp_closePool h₂

omit [ErrorGraph ν] in
/-- The server runs while the pool is open, on a database with the migrations. -/
theorem wp_serveHTTP_gateway {address : ByteString} (h : Kept common base own true s)
    (hkeys : own.map Migration.key <+: s.1.keys) :
    (serveHTTP address : GatewayProg ν _).wp (gatewayShared ν lib common base).environment
      (fun _ s' => Kept common base own true s') s := by
  unfold serveHTTP
  rw [Prog.wp_bind]
  refine wp_request_kept h (fun db h' hprefix => ⟨?_, h'.pool⟩) ?_
  · rw [h.carries]
    exact hkeys.trans (SchemaDatabase.keys_isPrefix hprefix)
  rintro _ _ db₁ _ h₁ _ ⟨rfl, rfl⟩
  rw [Prog.wp_bind]
  refine wp_request_kept h₁ (fun _ h' _ => h'.pool) ?_
  rintro awaited _ db₂ _ h₂ _ ⟨rfl, rfl⟩
  cases awaited with
  | server closed => exact h₂
  | done =>
    refine Prog.wp_bind.mpr ?_
    refine wp_request_kept h₂ (fun _ h' _ => h'.pool) ?_
    rintro failed _ db₃ _ h₃ _ ⟨rfl, rfl⟩
    cases failed with
    | true => exact h₃
    | false =>
      refine Prog.wp_bind.mpr ?_
      refine wp_request_kept h₃ (fun _ h' _ => h'.pool) ?_
      rintro closed _ db₄ _ h₄ _ ⟨rfl, rfl⟩
      exact h₄

/-- The runner was not out of its list of migrations, and the pool is closed. -/
def GatewayEnds (outcome : GatewayOutcome) (s : SchemaDatabase × GatewayInstance) : Prop :=
  outcome ≠ .panicked ∧ s.2.poolOpen = false

/-- **One gateway**, from any sound database and whatever the others do. -/
theorem wp_runGateway (hcommon : Contiguous common) (hown : own <+: common)
    {getenv : EnvironmentVariable → ByteString} (h : Kept common base own false s) :
    (runGateway lib own getenv : GatewayProg ν _).wp
      (gatewayShared ν lib common base).environment GatewayEnds s := by
  have hexited : ∀ err, GatewayOutcome.exited err ≠ .panicked := fun err h => by cases h
  unfold runGateway
  cases htimeout : parseStartupTimeout lib (getenv .databaseStartupTimeout) with
  | error err => exact ⟨hexited _, h.pool⟩
  | ok timeout =>
    show Prog.wp _ (Prog.request (GatewayCall.startupContext timeout) >>= _) _ _
    rw [Prog.wp_bind]
    refine wp_request_kept h (fun _ _ _ => parseStartupTimeout_bounded htimeout) ?_
    rintro _ _ db₁ _ h₁ _ ⟨rfl, rfl⟩
    rw [Prog.wp_bind]
    refine Prog.wp_mono (wp_prepareDatabase hcommon hown h₁) fun prepared s₂ h₂ => ?_
    cases prepared with
    | failed err => exact ⟨hexited _, h₂.pool⟩
    | panicked => exact h₂.elim
    | ready =>
      show Prog.wp _ (serveHTTP _ >>= _) _ _
      rw [Prog.wp_bind]
      refine Prog.wp_mono (wp_serveHTTP_gateway h₂.1 h₂.2) fun err s₃ h₃ => ?_
      rw [Prog.wp_bind]
      exact Prog.wp_mono (wp_closePool h₃) fun _ s₄ h₄ => ⟨hexited _, h₄.pool⟩

end

/-! ## Any number of gateways -/

section
variable [ErrorGraph ν] {ι : Type} {lib : StartupLibrary} {common : List Migration} {base : Nat}
  {own : ι → List Migration} {getenv : ι → EnvironmentVariable → ByteString}

/-- The gateways and the database that they share. -/
abbrev GatewayConfig (ν ι : Type) :=
  Shared.Config GatewayCall (GatewayCall.Answer ν) SchemaDatabase GatewayInstance GatewayOutcome ι

/-- A gateway makes its next call, or its process dies. -/
def GatewayMoves (ν : Type) {ι : Type} (lib : StartupLibrary) (common : List Migration)
    (base : Nat) : GatewayConfig ν ι → Shared.Move ι → GatewayConfig ν ι → Prop :=
  (gatewayShared ν lib common base).Moves GatewayInstance.gone .died

/-- Every gateway is about to start, on a database with a prefix of the common list. -/
structure GatewayStart (lib : StartupLibrary) (common : List Migration)
    (own : ι → List Migration) (getenv : ι → EnvironmentVariable → ByteString)
    (c : GatewayConfig ν ι) : Prop where
  recorded : c.shared.keys <+: common.map Migration.key
  committed : c.shared.committed = []
  locals : ∀ i, c.locals i = ⟨⟨own i, false, none, none⟩, false⟩
  progs : ∀ i, c.progs i = runGateway lib (own i) (getenv i)

/-- What every move keeps. -/
structure GatewayInvariant (lib : StartupLibrary) (common : List Migration) (base : Nat)
    (own : ι → List Migration) (c : GatewayConfig ν ι) : Prop where
  correct : (gatewayShared ν lib common base).Correct (fun _ => GatewayEnds) c
  sound : c.shared.Sound common base
  carries : ∀ i, (c.locals i).session.migrations = own i

variable {c : GatewayConfig ν ι}

theorem GatewayStart.invariant (hcommon : Contiguous common) (hown : ∀ i, own i <+: common)
    (h : GatewayStart lib common own getenv c) :
    GatewayInvariant lib common c.shared.recorded.length own c := by
  -- the database is as at the start of the runners alone
  have hrunners : MigrationStart common own
      (⟨c.shared, fun i => ⟨own i, false, none, none⟩, fun i => runMigrations (own i)⟩ :
        MigrationConfig ν ι) := ⟨h.recorded, h.committed, fun _ => rfl, fun _ => rfl⟩
  have hsound := (hrunners.invariant hcommon hown).sound
  refine ⟨⟨fun i j _ => ?_, fun i => ?_⟩, hsound, fun i => by rw [h.locals i]⟩
  · rw [h.locals i]
    exact fun hlocked => absurd hlocked.1 Bool.false_ne_true
  · rw [h.progs i, h.locals i]
    exact wp_runGateway hcommon (hown i) ⟨hsound, rfl, rfl, fun _ h => by cases h⟩

omit [ErrorGraph ν] in
/-- **One move** keeps the invariant and every record. -/
theorem GatewayInvariant.moves (hcommon : Contiguous common) {c' : GatewayConfig ν ι}
    {move : Shared.Move ι} (h : GatewayInvariant lib common base own c)
    (hmove : GatewayMoves ν lib common base c move c') :
    GatewayInvariant lib common base own c' ∧ c.shared.recorded <+: c'.shared.recorded := by
  have hstable : ∀ (_ : ι) outcome (t : GatewayInstance) (db db' : SchemaDatabase),
      (gatewayShared ν lib common base).rely t db db' →
      GatewayEnds outcome (db, t) → GatewayEnds outcome (db', t) :=
    fun _ outcome t db db' _ h => h
  have hlawful := @gatewayShared_lawful ν common base lib hcommon
  have hcorrect := hlawful.moves hstable (fun t u _ h => absurd h.1 Bool.false_ne_true)
    (fun i => ⟨fun h => (by cases h), rfl⟩) h.correct hmove
  cases move with
  | halt i =>
    obtain ⟨hshared, hlocal, -, hother⟩ := hmove
    refine ⟨⟨hcorrect, hshared ▸ h.sound, fun j => ?_⟩, hshared ▸ List.prefix_rfl⟩
    by_cases hj : j = i
    · rw [hj, hlocal]
      exact h.carries i
    · rw [(hother j hj).1]
      exact h.carries j
  | call i =>
    obtain ⟨-, call, answer, hpre, hact⟩ := hlawful.step hstable h.correct hmove
    obtain ⟨_, _, _, _, _, _, hother⟩ := hmove
    -- what the call guarantees to a gateway without the lock
    have hidle := hlawful.guarantee _ _ call answer _ _ ⟨⟨[], false, none, none⟩, false⟩ hpre hact
      fun h => absurd h.1 Bool.false_ne_true
    obtain ⟨hsound, hprefix⟩ := hidle.2 h.sound
    refine ⟨⟨hcorrect, hsound, fun j => ?_⟩, hprefix⟩
    by_cases hj : j = i
    · rw [hj, gatewayAct_migrations hact]
      exact h.carries i
    · rw [(hother j hj).1]
      exact h.carries j

/-- **A gateway serves only on a schema with its migrations**, among any number of gateways
that start, fail and die at any time.  Whatever call a gateway is about to make, it is as the
call asks: a pool is opened only with an admitted configuration, the database is used only
while the pool is open, and the server listens only when every migration of the gateway is
recorded.  A gateway that has ended was not out of its list of migrations, which would be a panic,
and its pool is closed; one that stops at an error that cannot be walked can only die. -/
theorem gateways_serve_migrated (hcommon : Contiguous common) (hown : ∀ i, own i <+: common)
    {c₀ c : GatewayConfig ν ι} {moves : List (Shared.Move ι)}
    (hstart : GatewayStart lib common own getenv c₀)
    (hrun : Run (GatewayMoves ν lib common c₀.shared.recorded.length) c₀ moves c) :
    c.shared.Sound common c₀.shared.recorded.length ∧
      c₀.shared.recorded <+: c.shared.recorded ∧
      (∀ i call next, c.progs i = .call call next →
        gatewayAsks ν lib common c₀.shared.recorded.length c.shared (c.locals i) call) ∧
      (∀ i address next, c.progs i = .call (.listen address) next →
        (own i).map Migration.key <+: c.shared.keys) ∧
      ∀ i outcome, c.progs i = .ret outcome →
        outcome ≠ .panicked ∧ (c.locals i).poolOpen = false := by
  obtain ⟨hinvariant, hprefix⟩ :
      GatewayInvariant lib common c₀.shared.recorded.length own c ∧
        c₀.shared.recorded <+: c.shared.recorded := by
    refine hrun.invariant (P := fun c =>
      GatewayInvariant lib common c₀.shared.recorded.length own c ∧
        c₀.shared.recorded <+: c.shared.recorded) (fun c₁ move c₂ hc₁ hmove => ?_)
      ⟨hstart.invariant hcommon hown, List.prefix_rfl⟩
    obtain ⟨hinvariant, hgrows⟩ := hc₁.1.moves hcommon hmove
    exact ⟨hinvariant, hc₁.2.trans hgrows⟩
  have hasks : ∀ i call next, c.progs i = .call call next →
      gatewayAsks ν lib common c₀.shared.recorded.length c.shared (c.locals i) call := by
    intro i call next hnext
    have hwp := hinvariant.correct.wp i
    rw [hnext] at hwp
    exact hwp.1 c.shared ((gatewayShared_lawful hcommon).refl _ _)
  refine ⟨hinvariant.sound, hprefix, hasks, fun i address next hnext => ?_,
    fun i outcome hend => ?_⟩
  · rw [← hinvariant.carries i]
    exact (hasks i _ next hnext).1
  · have hwp := hinvariant.correct.wp i
    rw [hend] at hwp
    exact hwp

end

end

/-- Libraries that find one address, with its certificate verified. -/
def sampleLibrary : StartupLibrary where
  trimSpace := id
  parseURL _ := .ok ⟨.ascii "postgres", .ascii "db", .ascii "sslmode=verify-full"⟩
  parseQuery _ := .ok fun name =>
    if name = .ascii "sslmode" then some [requiredSSLMode] else none
  parseConfig databaseURL := .ok ⟨databaseURL, 0, .anyServer, none⟩
  parseDuration _ := .error ()

/-- An environment with the address of the database only. -/
def sampleGetenv : EnvironmentVariable → ByteString
  | .databaseURL => .ascii "postgres://db/gateway?sslmode=verify-full"
  | .databaseStartupTimeout | .listenAddr => []

/-- A table with the expected columns. -/
def sampleColumns : List ColumnRow :=
  expectedColumns.map fun column => ⟨column.1, column.2, .ascii "NO"⟩

/-- Every call is answered, and the server is told to stop once it listens. -/
def undisturbedGateway (p : SchemaDatabase × GatewayInstance) :
    (call : GatewayCall) → call.Answer Empty × (SchemaDatabase × GatewayInstance)
  | .session call =>
    let (answer, db, session) := undisturbedDatabase (p.1, p.2.session) call
    (answer, db, { p.2 with session := session })
  | .newPool _ => (none, p.1, { p.2 with poolOpen := true })
  | .ping => (none, p)
  | .closePool => ((), p.1, { p.2 with poolOpen := false })
  | .tableExists =>
    if p.1.recorded = [] then (.ok false, p.1, p.2.looked p.1) else (.ok true, p)
  | .columns => (.ok ⟨sampleColumns.map .ok, none⟩, p)
  | .records => (.ok ⟨p.1.recorded.map .ok, none⟩, p.1, p.2.looked p.1)
  | .await => (.done, p)
  | .shutdown => (false, p)
  | .serverError => (true, p)
  | .startupContext _ | .listen _ => ((), p)

theorem delivers_all {ε α : Type} (rows : List α) :
    (⟨rows.map .ok, none⟩ : QueriedRows ε α).Delivers rows := by
  refine ⟨rows, [], (List.append_nil rows).symm, ?_, fun _ => rfl⟩
  rw [List.forall₂_map_right_iff]
  exact List.forall₂_same.mpr fun _ _ => .inl rfl

theorem undisturbedGateway_act (p : SchemaDatabase × GatewayInstance) (call : GatewayCall) :
    gatewayAct p.1 p.2 call (undisturbedGateway p call).1 (undisturbedGateway p call).2.2
      (undisturbedGateway p call).2.1 := by
  cases call with
  | session call =>
    refine ⟨_, ?_, rfl⟩
    cases call with
    | snapshot => exact ⟨rfl, rfl, .inl rfl⟩
    | commit => exact ⟨rfl, _, rfl⟩
    | _ => exact ⟨rfl, rfl⟩
  | tableExists =>
    by_cases hempty : p.1.recorded = []
    · simp only [undisturbedGateway, if_pos hempty]
      exact ⟨rfl, rfl, fun found hfound => by simp [← Except.ok.inj hfound, hempty]⟩
    · simp only [undisturbedGateway, if_neg hempty]
      exact ⟨rfl, rfl, fun found hfound => by simp [← Except.ok.inj hfound, hempty]⟩
  | columns =>
    refine ⟨?_, rfl⟩
    have hcomplete : columnsComplete (⟨sampleColumns.map .ok, none⟩ :
        QueriedRows (GoError Empty) ColumnRow) = .ok true :=
      columnsComplete_eq_true.mpr ⟨rfl, sampleColumns, scanned_eq_some.mpr rfl,
        fun _ hcolumn => List.mem_map_of_mem hcolumn⟩
    simp only [undisturbedGateway, hcomplete]
    exact rfl
  | records =>
    refine ⟨delivers_all _, rfl, ?_⟩
    have hread : snapshotRecords (⟨p.1.recorded.map .ok, none⟩ :
        QueriedRows (GoError Empty) AppliedMigration) = .ok ⟨true, true, p.1.recorded⟩ := by
      simp [snapshotRecords, scanned_eq_some.mpr rfl]
    simp only [undisturbedGateway, hread]
    exact rfl
  | _ => exact ⟨rfl, rfl⟩

/-- Two gateways, before they start on an empty database. -/
def sampleGateways : GatewayConfig Empty (Fin 2) :=
  ⟨⟨[], []⟩, fun _ => ⟨⟨sampleMigrations, false, none, none⟩, false⟩,
    fun _ => runGateway sampleLibrary sampleMigrations sampleGetenv⟩

/-- The first gateway migrates, while the other waits for the lock. -/
def sampleMigrating : List (Fin 2) := [1, 1, 1] ++ List.replicate 13 0

/-- The first gateway dies between its two migrations. -/
def sampleAbandoned : GatewayConfig Empty (Fin 2) :=
  (sampleGateways.follow undisturbedGateway sampleMigrating).halt GatewayInstance.gone .died 0

instance {ν : Type} {lib : StartupLibrary} {common : List Migration} {base : Nat} :
    DecidableRel (gatewayShared ν lib common base).compatible := fun t u =>
  inferInstanceAs (Decidable ((migrationShared ν common base).compatible t.session u.session))

/-- The other gateway migrates, serves and stops: both migrations are committed, and its pool
is closed. -/
theorem sampleGateways_served :
    ∃ moves c, Run (GatewayMoves Empty sampleLibrary sampleMigrations 0) sampleGateways moves c ∧
      sampleAbandoned.shared.committed = [.ascii "create table gateway_schema_migrations"] ∧
      c.progs 0 = .ret .died ∧ c.progs 1 = .ret (.exited none) ∧
      c.shared.committed = sampleMigrations.map Migration.sql ∧
      c.shared.Sound sampleMigrations 0 ∧ (c.locals 1).poolOpen = false := by
  have hbefore : sampleGateways.Admits (gatewayShared Empty sampleLibrary sampleMigrations 0)
      undisturbedGateway sampleMigrating := by decide +kernel
  have hafter : sampleAbandoned.Admits (gatewayShared Empty sampleLibrary sampleMigrations 0)
      undisturbedGateway (List.replicate 22 1) := by decide +kernel
  have hrun : Run (GatewayMoves Empty sampleLibrary sampleMigrations 0) sampleGateways
      (sampleMigrating.map .call ++ .halt 0 :: (List.replicate 22 1).map .call)
      (sampleAbandoned.follow undisturbedGateway (List.replicate 22 1)) :=
    (Shared.moves_follow undisturbedGateway_act hbefore).append
      (.cons (Shared.moves_halt _ 0) (Shared.moves_follow undisturbedGateway_act hafter))
  have hstart : GatewayStart sampleLibrary sampleMigrations (fun _ => sampleMigrations)
      (fun _ => sampleGetenv) sampleGateways :=
    ⟨List.nil_prefix, rfl, fun _ => rfl, fun _ => rfl⟩
  have hend : (sampleAbandoned.follow undisturbedGateway (List.replicate 22 1)).progs 1 =
      .ret (.exited none) := Prog.eq_ret_of_value? (by decide +kernel)
  obtain ⟨hsound, -, -, -, hends⟩ := gateways_serve_migrated sampleMigrations_contiguous
    (fun _ => List.prefix_rfl) hstart hrun
  exact ⟨_, _, hrun, by decide +kernel, Prog.eq_ret_of_value? (by decide +kernel), hend,
    by decide +kernel, hsound, (hends 1 _ hend).2⟩

end OncallGateway
