import Mathlib.Data.List.Sort
import Mathlib.Data.List.TakeWhile
import OncallGateway.GoError
import OncallGateway.Lib.Shared
import OncallGateway.SchemaInspection

/-! # Running the migrations

`Runner.Run` applies the missing migrations one by one, each in a transaction of its own,
while it holds an advisory lock of the database.  Any number of instances start at any
time; they may carry lists of different lengths, any statement may fail, a commit that
failed may have taken effect, and an instance may die between any two calls.

The database is what is recorded in it and the SQL that was committed.  Before the first
migration the table of records does not exist.  An instance relies on nobody else writing
while it holds the lock, and asks for a commit only under the lock and only of the next
migration (`migrationShared`).
-/

namespace OncallGateway

/-! ## The migrations that an instance carries -/

/-- An entry of the directory of migrations; `none` is a file that cannot be read. -/
structure MigrationEntry where
  name : ByteString
  isDir : Bool
  contents : Option ByteString

/-- What `loadMigrations` refuses. -/
inductive LoadError where
  | invalidFilename (name : ByteString)
  | notContiguous (name : ByteString)
  | unreadable (name : ByteString)
  | empty (name : ByteString)
  | noMigrations

/-- `migrationNamePattern`: six digits, an underscore, a title and the extension.  The first
group are the digits. -/
def migrationNameVersion (name : ByteString) : Option ByteString :=
  let version := name.take 6
  let title := (name.drop 7).take (name.length - 11)
  if version.length = 6 ∧ version.all (fun c => 48 ≤ c ∧ c ≤ 57) ∧ name[6]? = some 95 ∧
      title ≠ [] ∧ title.all (fun c => 97 ≤ c ∧ c ≤ 122 ∨ 48 ≤ c ∧ c ≤ 57 ∨ c = 95) ∧
      name.drop (name.length - 4) = ByteString.ascii ".sql" then
    some version
  else none

section Loading
variable (trimSpace : ByteString → ByteString) (sha256 : Hash)

/-- The loop of `loadMigrations`, with what was loaded so far.  Six digits are a number that
`ParseInt` always reads. -/
def loadEntries : List Migration → List MigrationEntry → Except LoadError (List Migration)
  | migrations, [] =>
    if migrations.length = 0 then .error .noMigrations else .ok migrations
  | migrations, entry :: entries =>
    if entry.isDir then loadEntries migrations entries
    else
      match migrationNameVersion entry.name with
      | none => .error (.invalidFilename entry.name)
      | some digits =>
        let version : Int := digits.decimal
        if version ≠ (migrations.length + 1 : Nat) then .error (.notContiguous entry.name)
        else
          match entry.contents with
          | none => .error (.unreadable entry.name)
          | some contents =>
            if trimSpace contents = [] then .error (.empty entry.name)
            else
              loadEntries
                (migrations ++ [⟨version, contents, hexEncode (sha256 contents).toList⟩]) entries

/-- `loadMigrations` of the entries of a directory that can be read. -/
def loadMigrations (entries : List MigrationEntry) : Except LoadError (List Migration) :=
  loadEntries trimSpace sha256 [] (entries.insertionSort fun a b => a.name ≤ b.name)

/-- Versions from 1 on without a gap, each with a checksum. -/
structure Contiguous (migrations : List Migration) : Prop where
  version : ∀ (j : Nat) migration, migrations[j]? = some migration →
    migration.version = (j + 1 : Nat)
  checksum : ∀ migration ∈ migrations, migration.checksum ≠ []

variable {migrations : List Migration}

theorem Contiguous.concat (h : Contiguous migrations) {migration : Migration}
    (hversion : migration.version = (migrations.length + 1 : Nat))
    (hchecksum : migration.checksum ≠ []) : Contiguous (migrations ++ [migration]) := by
  constructor
  · intro j m hj
    rw [List.getElem?_append] at hj
    by_cases hlt : j < migrations.length
    · rw [if_pos hlt] at hj
      exact h.version j m hj
    · rw [if_neg hlt] at hj
      have hlast := (List.getElem?_eq_some_iff.mp hj).1
      rw [List.length_singleton] at hlast
      obtain rfl : j = migrations.length := by omega
      rw [Nat.sub_self] at hj
      obtain rfl := Option.some.inj hj
      exact hversion
  · intro m hm
    rcases List.mem_append.mp hm with hm | hm
    · exact h.checksum m hm
    · rw [List.mem_singleton.mp hm]
      exact hchecksum

/-- **What is loaded is contiguous**, and there is something. -/
theorem loadMigrations_contiguous {entries : List MigrationEntry}
    (h : loadMigrations trimSpace sha256 entries = .ok migrations) :
    Contiguous migrations ∧ migrations ≠ [] := by
  -- the loop keeps what was loaded so far contiguous
  suffices hloop : ∀ entries loaded, Contiguous loaded →
      loadEntries trimSpace sha256 loaded entries = .ok migrations →
      Contiguous migrations ∧ migrations ≠ [] from
    hloop _ [] ⟨fun j m hj => (by cases hj), fun m hm => (by cases hm)⟩ h
  intro entries
  induction entries with
  | nil =>
    intro loaded hloaded h
    unfold loadEntries at h
    by_cases hzero : loaded.length = 0
    · rw [if_pos hzero] at h
      cases h
    · rw [if_neg hzero] at h
      cases h
      exact ⟨hloaded, fun hnil => hzero (by rw [hnil, List.length_nil])⟩
  | cons entry entries ih =>
    intro loaded hloaded h
    unfold loadEntries at h
    by_cases hdir : entry.isDir = true
    · rw [if_pos hdir] at h
      exact ih loaded hloaded h
    · rw [if_neg hdir] at h
      cases hname : migrationNameVersion entry.name with
      | none => simp [hname] at h
      | some digits =>
        rw [hname] at h
        dsimp only at h
        by_cases hversion : (digits.decimal : Int) = (loaded.length + 1 : Nat)
        · rw [if_neg (not_not.mpr hversion)] at h
          cases hcontents : entry.contents with
          | none => simp [hcontents] at h
          | some contents =>
            rw [hcontents] at h
            dsimp only at h
            by_cases hblank : trimSpace contents = []
            · rw [if_pos hblank] at h
              cases h
            · rw [if_neg hblank] at h
              refine ih _ (hloaded.concat hversion ?_) h
              exact List.ne_nil_of_length_pos
                (by simp [length_hexEncode, (sha256 contents).length_eq])
        · rw [if_pos hversion] at h
          cases h

end Loading

/-! ## Errors and calls -/

/-- The kinds of error that the runner returns. -/
inductive MigrationErrorKind where
  | errSchemaQuery | errMigrationLock | errMigration | errMigrationInterrupted
  | errSchemaAhead | errSchemaInvalid
deriving DecidableEq

/-- A `*SafeError` of one of them. -/
structure MigrationError where
  kind : MigrationErrorKind
  operation : String
deriving DecidableEq

/-- What the runner calls: the pool, the lock, the metadata and one transaction. -/
inductive MigrationCall where
  | acquire
  | lock
  | snapshot
  | begin
  | exec (sql : ByteString)
  | record (version : Int) (checksum : ByteString)
  | commit
  | rollback
  | unlock
  | release
  | destroy

/-- What a call answers. -/
def MigrationCall.Answer (ν : Type) : MigrationCall → Type
  | .snapshot => Except (GoError ν) MetadataSnapshot
  | .unlock => Except (GoError ν) Bool
  | .release | .destroy => Unit
  | _ => Option (GoError ν)

/-- How a run ends: it returns, or it panics, or it is not at an end after the rounds that
were allowed, or its process dies. -/
inductive RunOutcome where
  | returned (err : Option MigrationError)
  | panicked
  | unfinished
  | died
deriving DecidableEq

abbrev MigrationProg (ν : Type) := Prog MigrationCall (MigrationCall.Answer ν)

section Programs
variable {ν : Type} [ErrorGraph ν]

/-- `migrationFailure`. -/
def migrationFailure (err : GoError ν) (operation : String) : Except Stop MigrationError := do
  if ← err.isConnectionInterruption then return ⟨.errMigrationInterrupted, operation⟩
  else return ⟨.errMigration, operation⟩

/-- The deferred function of `applyMigration`, which rolls back what was not committed. -/
def rollbackMigration (resultErr : Option MigrationError) :
    MigrationProg ν (Option MigrationError) := do
  let rollbackErr ← Prog.request MigrationCall.rollback
  match rollbackErr with
  | none => return resultErr
  | some err =>
    if ← err.errorsIs .pgxErrTxClosed then return resultErr
    else return some ⟨.errMigrationInterrupted, "transaction cleanup"⟩

/-- The end of a migration that has failed: a panic runs the deferred function too. -/
def failMigration (err : GoError ν) (operation : String) :
    MigrationProg ν (Option MigrationError) :=
  match migrationFailure err operation with
  | .ok resultErr => rollbackMigration (some resultErr)
  | .error .panic => do
    let _ ← rollbackMigration none
    .stop .panic
  | .error .loop => .stop .loop

/-- The statements of `applyMigration`. -/
def executeMigration (migration : Migration) : MigrationProg ν (Option MigrationError) := do
  let err ← Prog.request (MigrationCall.exec migration.sql)
  match err with
  | some err => failMigration err "migration execution"
  | none =>
    let err ← Prog.request (MigrationCall.record migration.version migration.checksum)
    match err with
    | some err => failMigration err "migration record"
    | none =>
      let err ← Prog.request MigrationCall.commit
      match err with
      | some err => failMigration err "transaction commit"
      | none => return none

/-- `applyMigration`. -/
def applyMigration (migration : Migration) : MigrationProg ν (Option MigrationError) := do
  let err ← Prog.request MigrationCall.begin
  match err with
  | some err => return some (← migrationFailure err "transaction begin")
  | none => executeMigration migration

/-- `Inspect`; `none` is an index out of range. -/
def inspectSchema (migrations : List Migration) :
    MigrationProg ν (Except MigrationError (Option Inspection)) := do
  let snapshot ← Prog.request MigrationCall.snapshot
  match snapshot with
  | .error _ => return .error ⟨.errSchemaQuery, "schema inspection"⟩
  | .ok snapshot => return .ok (classifySnapshot snapshot migrations)

/-- The inspection and what is done with it; one that fails ends the run. -/
def afterInspection (migrations : List Migration) (next : Inspection → MigrationProg ν RunOutcome) :
    MigrationProg ν RunOutcome := do
  match ← inspectSchema migrations with
  | .error err => return .returned (some err)
  | .ok none => return .panicked
  | .ok (some inspection) => next inspection

/-- `migrations[index]`, where it is in range. -/
def migrationAt (migrations : List Migration) (index : Int) : Option Migration :=
  if 0 ≤ index then migrations[index.toNat]? else none

/-- The verification at the end of `Run`. -/
def verifySchema (migrations : List Migration) : MigrationProg ν RunOutcome :=
  afterInspection migrations fun inspection =>
    if inspection.status ≠ .current ∨ inspection.currentVersion ≠ (migrations.length : Int) then
      return .returned (some ⟨.errSchemaInvalid, "final schema verification"⟩)
    else return .returned none

/-- The loop of `Run`, for so many rounds at most, and what follows it. -/
def migrationLoop (migrations : List Migration) : Nat → Inspection → MigrationProg ν RunOutcome
  | 0, _ => return .unfinished
  | rounds + 1, inspection =>
    if inspection.currentVersion < (migrations.length : Int) then
      match migrationAt migrations inspection.currentVersion with
      | none => return .panicked
      | some next => do
        match ← applyMigration next with
        | some err => return .returned (some err)
        | none =>
          afterInspection migrations fun inspection =>
            if inspection.currentVersion ≠ next.version ∨
                (inspection.status ≠ .behind ∧ inspection.status ≠ .current) then
              return .returned (some ⟨.errSchemaInvalid, "post-migration verification"⟩)
            else migrationLoop migrations rounds inspection
    else verifySchema migrations

/-- The function that `Run` passes to `WithMigrationLock`.  As many rounds as there are
migrations, and one, are enough. -/
def migrateSession (migrations : List Migration) : MigrationProg ν RunOutcome :=
  afterInspection migrations fun inspection =>
    match inspection.status with
    | .ahead => return .returned (some ⟨.errSchemaAhead, "schema compatibility"⟩)
    | .invalid => return .returned (some ⟨.errSchemaInvalid, "schema compatibility"⟩)
    | .queryError => return .returned (some ⟨.errSchemaQuery, "schema inspection"⟩)
    | .current | .behind | .uninitialized =>
      migrationLoop migrations (migrations.length + 1) inspection

/-- `finishMigrationConnection`. -/
def finishMigrationConnection (runErr : Option MigrationError) :
    MigrationProg ν (Option MigrationError) :=
  if runErr.map MigrationError.kind = some .errMigrationInterrupted then do
    let _ ← Prog.request MigrationCall.destroy
    return runErr
  else do
    let unlocked ← Prog.request MigrationCall.unlock
    match unlocked with
    | .ok true =>
      let _ ← Prog.request MigrationCall.release
      return runErr
    | _ =>
      let _ ← Prog.request MigrationCall.destroy
      match runErr with
      | some err => return some err
      | none => return some ⟨.errMigrationLock, "lock release"⟩

/-- `Runner.Run`, with `WithMigrationLock`. -/
def runMigrations (migrations : List Migration) : MigrationProg ν RunOutcome := do
  let err ← Prog.request MigrationCall.acquire
  match err with
  | some _ => return .returned (some ⟨.errMigrationLock, "lock connection"⟩)
  | none =>
    let err ← Prog.request MigrationCall.lock
    match err with
    | some _ =>
      let _ ← Prog.request MigrationCall.destroy
      return .returned (some ⟨.errMigrationLock, "lock acquisition"⟩)
    | none =>
      match ← migrateSession migrations with
      | .returned runErr => return .returned (← finishMigrationConnection runErr)
      | outcome => return outcome

end Programs

/-! ## The database -/

/-- A statement of a transaction that is not committed yet. -/
inductive MigrationStatement where
  | sql (text : ByteString)
  | row (version : Int) (checksum : ByteString)
deriving DecidableEq

/-- What is in the database: the records, by their version, and the SQL that was
committed. -/
structure SchemaDatabase where
  recorded : List AppliedMigration
  committed : List ByteString
deriving DecidableEq

namespace SchemaDatabase

/-- The version and the checksum of each record. -/
def keys (db : SchemaDatabase) : List (Int × ByteString) :=
  db.recorded.map fun applied => (applied.version, applied.checksum)

/-- One statement, at the time of the commit.  A row is found at the place of its version. -/
def apply (now : Time) (db : SchemaDatabase) : MigrationStatement → SchemaDatabase
  | .sql text => { db with committed := db.committed ++ [text] }
  | .row version checksum =>
    { db with
      recorded := db.recorded.orderedInsert (fun a b => a.version ≤ b.version)
        (AppliedMigration.mk version checksum now) }

/-- A commit: every statement of the transaction. -/
def commit (now : Time) (db : SchemaDatabase) (statements : List MigrationStatement) :
    SchemaDatabase :=
  statements.foldl (apply now) db

/-- What `Snapshot` reads.  The first migration creates the table. -/
def snapshot (db : SchemaDatabase) : MetadataSnapshot :=
  if db.recorded = [] then ⟨false, false, []⟩ else ⟨true, true, db.recorded⟩

end SchemaDatabase

/-- An instance: the migrations that it carries, whether its session holds the lock, the
transaction that is open on it, and what was recorded when it last looked. -/
structure MigrationSession where
  migrations : List Migration
  locked : Bool
  pending : Option (List MigrationStatement)
  inspected : Option (List (Int × ByteString))

namespace MigrationSession

/-- A session that is gone: its lock is free, and its transaction is rolled back. -/
def gone (t : MigrationSession) : MigrationSession :=
  { t with locked := false, pending := none }

/-- A call that failed leaves the transaction in any state, and may have lost the session
with its lock. -/
def Failed (t t' : MigrationSession) : Prop :=
  ∃ locked pending, (locked = true → t.locked = true) ∧
    t' = { t with locked := locked, pending := pending }

/-- What a call leaves behind that does `done` if it answers no error. -/
def After {ν : Type} (t done : MigrationSession) : Option (GoError ν) → MigrationSession → Prop
  | none, t' => t' = done
  | some _, t' => t.Failed t'

/-- The session with one more statement in its transaction. -/
def executing (t : MigrationSession) (statement : MigrationStatement) : MigrationSession :=
  { t with pending := t.pending.map (· ++ [statement]) }

end MigrationSession

/-- What a call may answer and do. -/
def migrationAct {ν : Type} (db : SchemaDatabase) (t : MigrationSession) :
    (call : MigrationCall) → call.Answer ν → MigrationSession → SchemaDatabase → Prop
  | .acquire, _, t', db' => t' = t ∧ db' = db
  | .lock, none, t', db' => t' = { t with locked := true } ∧ db' = db
  -- the lock may have been taken although the answer was lost
  | .lock, some _, t', db' => (∃ locked, t' = { t with locked := locked }) ∧ db' = db
  | .snapshot, .error _, t', db' => t.Failed t' ∧ db' = db
  -- a row that cannot be scanned makes the snapshot incomplete
  | .snapshot, .ok snapshot, t', db' => t' = { t with inspected := some db.keys } ∧ db' = db ∧
      (snapshot = db.snapshot ∨ db.recorded ≠ [] ∧ snapshot = ⟨true, false, []⟩)
  | .begin, err, t', db' => t.After { t with pending := some [] } err t' ∧ db' = db
  | .exec sql, err, t', db' => t.After (t.executing (.sql sql)) err t' ∧ db' = db
  | .record version checksum, err, t', db' =>
    t.After (t.executing (.row version checksum)) err t' ∧ db' = db
  | .commit, none, t', db' => t' = { t with pending := none } ∧
      ∃ now, db' = db.commit now (t.pending.getD [])
  -- a commit that failed may have taken effect
  | .commit, some _, t', db' => t.Failed t' ∧
      (db' = db ∨ ∃ now, db' = db.commit now (t.pending.getD []))
  | .rollback, err, t', db' => t.After { t with pending := none } err t' ∧ db' = db
  | .unlock, .ok true, t', db' => t' = { t with locked := false } ∧ db' = db
  | .unlock, .ok false, t', db' => t' = t ∧ db' = db
  | .unlock, .error _, t', db' => t.Failed t' ∧ db' = db
  | .release, _, t', db' => t' = { t with pending := none } ∧ db' = db
  | .destroy, _, t', db' => t' = t.gone ∧ db' = db

/-- The version and the checksum of a migration. -/
def Migration.key (migration : Migration) : Int × ByteString :=
  (migration.version, migration.checksum)

/-- **What holds of the database**: the records are a prefix of the common list, and the SQL
committed since there were `base` records is that of the later ones, once each. -/
structure SchemaDatabase.Sound (common : List Migration) (base : Nat) (db : SchemaDatabase) :
    Prop where
  bound : base ≤ db.recorded.length ∧ db.recorded.length ≤ common.length
  keys : db.keys = (common.take db.recorded.length).map Migration.key
  committed : db.committed = ((common.take db.recorded.length).drop base).map Migration.sql

/-- What the instances share.  A commit is asked for under the lock only, of the next
migration of the common list, by an instance that carries it. -/
def migrationShared (ν : Type) (common : List Migration) (base : Nat) :
    Shared MigrationCall (MigrationCall.Answer ν) SchemaDatabase MigrationSession where
  act := migrationAct
  pre db t call := match call with
    | .commit => t.locked = true ∧ db.Sound common base ∧
        db.recorded.length < t.migrations.length ∧
        ∃ next, common[db.recorded.length]? = some next ∧
          t.pending = some [.sql next.sql, .row next.version next.checksum]
    | _ => True
  rely t db db' := (t.locked = true → db' = db) ∧
    (db.Sound common base → db'.Sound common base ∧ db.recorded <+: db'.recorded)
  compatible t u := ¬ (t.locked = true ∧ u.locked = true)

/-! ## What one call does -/

section
variable {ν : Type} {common : List Migration} {base : Nat} {db db' : SchemaDatabase}
  {t t' : MigrationSession} {call : MigrationCall} {answer : call.Answer ν}

/-- Only a commit writes to the database. -/
theorem migrationAct_database (h : migrationAct db t call answer t' db') :
    db' = db ∨ call = .commit ∧ ∃ now, db' = db.commit now (t.pending.getD []) := by
  cases call with
  | lock => cases answer with
    | none => exact .inl h.2
    | some err => exact .inl h.2
  | snapshot => cases answer with
    | error err => exact .inl h.2
    | ok snapshot => exact .inl h.2.1
  | commit => cases answer with
    | none => exact .inr ⟨rfl, h.2⟩
    | some err => exact h.2.imp_right fun h => ⟨rfl, h⟩
  | unlock => cases answer with
    | error err => exact .inl h.2
    | ok unlocked => cases unlocked with
      | false => exact .inl h.2
      | true => exact .inl h.2
  | acquire => exact .inl h.2
  | begin => exact .inl h.2
  | exec sql => exact .inl h.2
  | record version checksum => exact .inl h.2
  | rollback => exact .inl h.2
  | release => exact .inl h.2
  | destroy => exact .inl h.2

theorem MigrationSession.Failed.migrations_eq (h : t.Failed t') : t'.migrations = t.migrations := by
  obtain ⟨locked, pending, -, rfl⟩ := h
  rfl

theorem MigrationSession.After.migrations_eq {done : MigrationSession} {err : Option (GoError ν)}
    (h : t.After done err t') (hdone : done.migrations = t.migrations) :
    t'.migrations = t.migrations := by
  cases err with
  | none =>
    obtain rfl : t' = done := h
    exact hdone
  | some err => exact MigrationSession.Failed.migrations_eq h

/-- An instance carries the same migrations throughout. -/
theorem migrationAct_migrations (h : migrationAct db t call answer t' db') :
    t'.migrations = t.migrations := by
  cases call with
  | lock => cases answer with
    | none => rw [h.1]
    | some err =>
      obtain ⟨locked, rfl⟩ := h.1
      rfl
  | snapshot => cases answer with
    | error err => exact MigrationSession.Failed.migrations_eq h.1
    | ok snapshot => rw [h.1]
  | commit => cases answer with
    | none => rw [h.1]
    | some err => exact MigrationSession.Failed.migrations_eq h.1
  | unlock => cases answer with
    | error err => exact MigrationSession.Failed.migrations_eq h.1
    | ok unlocked => cases unlocked with
      | false => rw [h.1]
      | true => rw [h.1]
  | acquire => rw [h.1]
  | begin => exact MigrationSession.After.migrations_eq h.1 rfl
  | exec sql => exact MigrationSession.After.migrations_eq h.1 rfl
  | record version checksum => exact MigrationSession.After.migrations_eq h.1 rfl
  | rollback => exact MigrationSession.After.migrations_eq h.1 rfl
  | release => rw [h.1]
  | destroy => rw [h.1]; rfl

namespace SchemaDatabase.Sound

/-- A recorded version is at most the number of the records. -/
theorem version_le (hcommon : Contiguous common) (h : db.Sound common base)
    {applied : AppliedMigration} (happlied : applied ∈ db.recorded) :
    applied.version ≤ db.recorded.length := by
  have hkey : (applied.version, applied.checksum) ∈ db.keys :=
    List.mem_map_of_mem (f := fun applied => (applied.version, applied.checksum)) happlied
  rw [h.keys] at hkey
  obtain ⟨migration, hmem, heq⟩ := List.mem_map.mp hkey
  obtain ⟨j, hj⟩ := List.getElem?_of_mem hmem
  have hlt := (List.getElem?_eq_some_iff.mp hj).1
  rw [List.length_take] at hlt
  rw [List.getElem?_take_of_lt (by omega)] at hj
  rw [← (Prod.mk.inj heq).1, hcommon.version j migration hj]
  omega

/-- **The next migration is committed**: its record comes last, and its SQL is new. -/
theorem commit_next (hcommon : Contiguous common) (h : db.Sound common base) {next : Migration}
    (hnext : common[db.recorded.length]? = some next) (now : Time) :
    (db.commit now [.sql next.sql, .row next.version next.checksum]).Sound common base ∧
      db.recorded <+:
        (db.commit now [.sql next.sql, .row next.version next.checksum]).recorded := by
  have hversion := hcommon.version _ _ hnext
  have hrecorded : (db.commit now [.sql next.sql, .row next.version next.checksum]).recorded =
      db.recorded ++ [⟨next.version, next.checksum, now⟩] := by
    have hbelow : ∀ applied ∈ db.recorded, decide (¬ next.version ≤ applied.version) = true := by
      intro applied happlied
      have := h.version_le hcommon happlied
      exact decide_eq_true (by omega)
    refine (List.orderedInsert_eq_take_drop _ _ _).trans ?_
    exact congrArg₂ _ (List.takeWhile_eq_self_iff.mpr hbelow)
      (congrArg _ (List.dropWhile_eq_nil_iff.mpr hbelow))
  have hlt := (List.getElem?_eq_some_iff.mp hnext).1
  have htake : common.take (db.recorded.length + 1) = common.take db.recorded.length ++ [next] := by
    rw [List.take_add_one, hnext, Option.toList_some]
  refine ⟨⟨?_, ?_, ?_⟩, hrecorded ▸ List.prefix_append _ _⟩
  · rw [hrecorded, List.length_append, List.length_singleton]
    have := h.bound.1
    omega
  · rw [SchemaDatabase.keys, hrecorded, List.map_append, List.length_append,
      List.length_singleton, htake, List.map_append, ← h.keys]
    rfl
  · rw [hrecorded, List.length_append, List.length_singleton, htake,
      List.drop_append_of_le_length (by rw [List.length_take]; have := h.bound; omega),
      List.map_append, ← h.committed]
    rfl

/-- Records of the length of a prefix of the common list are those of the prefix. -/
theorem keys_of_length (h : db.Sound common base) {own : List Migration} (hown : own <+: common)
    (hlength : db.recorded.length = own.length) : db.keys = own.map Migration.key := by
  rw [h.keys, hlength, ← List.prefix_iff_eq_take.mp hown]

end SchemaDatabase.Sound

theorem migrationShared_lawful (hcommon : Contiguous common) :
    (migrationShared ν common base).Lawful where
  refl t db := ⟨fun _ => rfl, fun h => ⟨h, List.prefix_rfl⟩⟩
  trans t db₁ db₂ db₃ h h' := by
    refine ⟨fun hlocked => (h'.1 hlocked).trans (h.1 hlocked), fun hsound => ?_⟩
    obtain ⟨hsound₂, hprefix⟩ := h.2 hsound
    obtain ⟨hsound₃, hprefix'⟩ := h'.2 hsound₂
    exact ⟨hsound₃, hprefix.trans hprefix'⟩
  symm t u h h' := h h'.symm
  guarantee db t call answer t' db' u hpre hact hcompatible := by
    obtain rfl | ⟨rfl, now, rfl⟩ := migrationAct_database hact
    · exact ⟨fun _ => rfl, fun h => ⟨h, List.prefix_rfl⟩⟩
    · obtain ⟨hlocked, hsound, -, next, hnext, hpending⟩ := hpre
      rw [hpending]
      exact ⟨fun hu => absurd ⟨hu, hlocked⟩ hcompatible,
        fun _ => hsound.commit_next hcommon hnext now⟩

end

end OncallGateway
