import OncallGateway.MigrationRunner

/-! # Migrations by any number of instances

Each instance is followed alone first, while the others may do what `migrationShared` lets
them: under the lock nothing changes but by its own commits, each of which is the next
migration of the common list (`wp_runMigrations`).  A run ends unless it is given an error that
cannot be walked, and then it returns (`ends_runMigrations`, `yields_runMigrations`).  From this,
every interleaving with any number of instances that die at any point keeps the records a prefix
of the common list (`migrations_applied_once`).
-/

namespace OncallGateway

/-! ## One instance, while others run -/

/-- An instance that holds the lock, on a sound database. -/
structure HoldsLock (common : List Migration) (base : Nat) (own : List Migration)
    (s : SchemaDatabase × MigrationSession) : Prop where
  locked : s.2.locked = true
  carries : s.2.migrations = own
  sound : s.1.Sound common base

/-- A run that returns no error has found exactly its own migrations when it last looked. -/
def Reports (own : List Migration) (outcome : RunOutcome)
    (s : SchemaDatabase × MigrationSession) : Prop :=
  outcome = .returned none → s.2.inspected = some (own.map Migration.key)

/-- What an inspection may say of the database. -/
structure Inspects (own : List Migration) (db : SchemaDatabase) (inspection : Inspection) :
    Prop where
  version : inspection.status ≠ .invalid → inspection.currentVersion = db.recorded.length
  current : inspection.status = .current → db.recorded.length = own.length

theorem classifySnapshot_inspects {own : List Migration} {db : SchemaDatabase}
    {snapshot : MetadataSnapshot}
    (h : snapshot = db.snapshot ∨ db.recorded ≠ [] ∧ snapshot = ⟨true, false, []⟩) :
    ∃ inspection, classifySnapshot snapshot own = some inspection ∧ Inspects own db inspection := by
  obtain ⟨inspection, heq, -, habsent, hvalid, hinvalid⟩ := classifySnapshot_eq snapshot own
  refine ⟨inspection, heq, ?_⟩
  by_cases htable : snapshot.tableExists = false
  · obtain ⟨hstatus, hversion⟩ := habsent htable
    have hempty : db.recorded = [] := by
      by_contra hne
      rcases h with rfl | ⟨-, rfl⟩
      · simp [SchemaDatabase.snapshot, hne] at htable
      · cases htable
    refine ⟨fun _ => by rw [hversion, hempty]; rfl, fun h => ?_⟩
    rw [hstatus] at h
    cases h
  · by_cases hhistory : HistoryValid snapshot own
    · obtain ⟨hstatus, hversion⟩ := hvalid hhistory
      -- a complete snapshot is a true one
      have hrecorded : snapshot.applied = db.recorded := by
        rcases h with rfl | ⟨-, rfl⟩
        · unfold SchemaDatabase.snapshot
          split
          · rename_i hempty
            rw [hempty]
          · rfl
        · exact absurd hhistory.complete Bool.false_ne_true
      rw [hrecorded] at hstatus hversion
      exact ⟨fun _ => hversion, fun h => lengthStatus_current.mp (hstatus.symm.trans h)⟩
    · have hstatus := hinvalid (by simpa using htable) hhistory
      refine ⟨fun h => absurd hstatus h, fun h => ?_⟩
      rw [hstatus] at h
      cases h

section
variable {ν : Type} [ErrorGraph ν] {common own : List Migration} {base : Nat}
  {s : SchemaDatabase × MigrationSession}

omit [ErrorGraph ν] in
/-- Nobody interferes with a call that is made under the lock. -/
theorem wp_request_locked {call : MigrationCall}
    {Q : call.Answer ν → SchemaDatabase × MigrationSession → Prop} (hlocked : s.2.locked = true)
    (hpre : (migrationShared ν common base).pre s.1 s.2 call)
    (h : ∀ answer s', migrationAct s.1 s.2 call answer s'.2 s'.1 → Q answer s') :
    (Prog.request call : MigrationProg ν _).wp (migrationShared ν common base).environment Q s := by
  refine Prog.wp_request.mpr ⟨fun db hrely => ?_, ?_⟩
  · rw [hrely.1 hlocked]
    exact hpre
  · rintro answer s' ⟨db, hrely, hact⟩
    rw [hrely.1 hlocked] at hact
    exact h answer s' hact

omit [ErrorGraph ν] in
theorem wp_afterInspection {next : Inspection → MigrationProg ν RunOutcome}
    {Q : RunOutcome → SchemaDatabase × MigrationSession → Prop}
    (hs : HoldsLock common base own s) (herr : ∀ err s', Q (.returned (some err)) s')
    (hnext : ∀ inspection s', HoldsLock common base own s' → Inspects own s'.1 inspection →
      s'.2.inspected = some s'.1.keys →
      (next inspection).wp (migrationShared ν common base).environment Q s') :
    (afterInspection own next).wp (migrationShared ν common base).environment Q s := by
  unfold afterInspection inspectSchema
  rw [Prog.wp_bind, Prog.wp_bind]
  refine wp_request_locked hs.locked trivial fun answer s' hact => ?_
  cases answer with
  | error err => exact herr _ _
  | ok snapshot =>
    obtain ⟨hsession, hdatabase, hsnapshot⟩ := hact
    obtain ⟨inspection, heq, hinspects⟩ := @classifySnapshot_inspects own _ _ hsnapshot
    rw [← hdatabase] at hinspects
    dsimp only
    rw [heq]
    refine hnext inspection s' ⟨?_, ?_, ?_⟩ hinspects ?_
    · rw [hsession]
      exact hs.locked
    · rw [hsession]
      exact hs.carries
    · rw [hdatabase]
      exact hs.sound
    · rw [hsession, hdatabase]

/-- A migration that has failed is not recorded as done, whatever its rollback is answered. -/
theorem wp_failMigration {err : GoError ν} {operation : String} :
    (failMigration err operation).wp (migrationShared ν common base).environment
      (fun resultErr s' => resultErr = none → HoldsLock common base own s') s := by
  have hrollback : ∀ {resultErr : Option MigrationError}
      {Q : Option MigrationError → SchemaDatabase × MigrationSession → Prop},
      (∀ s', Q resultErr s') → (∀ err s', Q (some err) s') →
      (rollbackMigration resultErr).wp (migrationShared ν common base).environment Q s := by
    intro resultErr Q hsame hother
    unfold rollbackMigration
    rw [Prog.wp_bind]
    refine ⟨fun _ _ => trivial, fun answer s' _ => ?_⟩
    cases answer with
    | none => exact hsame s'
    | some err =>
      refine Prog.wp_bind.mpr (Prog.wp_settle (fun _ _ => trivial) fun closed _ => ?_)
      cases closed with
      | true => exact hsame s'
      | false => exact hother _ s'
  unfold failMigration
  split
  · exact hrollback (fun s' h => nomatch h) fun err s' h => nomatch h
  · rw [Prog.wp_bind]
    exact hrollback (fun _ => trivial) fun _ _ => trivial
  · trivial

/-- The statements of the next migration, in a transaction that was just begun. -/
theorem wp_executeMigration (hcommon : Contiguous common) {next : Migration}
    (hs : HoldsLock common base own s) (hlt : s.1.recorded.length < own.length)
    (hnext : common[s.1.recorded.length]? = some next) (hpending : s.2.pending = some []) :
    (executeMigration next).wp (migrationShared ν common base).environment
      (fun err s' => err = none → HoldsLock common base own s') s := by
  obtain ⟨db, t⟩ := s
  unfold executeMigration
  rw [Prog.wp_bind]
  refine wp_request_locked hs.locked trivial fun answer s₁ hexec => ?_
  cases answer with
  | some err => exact wp_failMigration
  | none =>
    obtain ⟨db₁, t₁⟩ := s₁
    obtain ⟨rfl, rfl⟩ : t₁ = t.executing (.sql next.sql) ∧ db₁ = db := hexec
    rw [Prog.wp_bind]
    refine wp_request_locked hs.locked trivial fun answer s₂ hrecord => ?_
    cases answer with
    | some err => exact wp_failMigration
    | none =>
      obtain ⟨db₂, t₂⟩ := s₂
      obtain ⟨rfl, rfl⟩ : t₂ = (t.executing (.sql next.sql)).executing
        (.row next.version next.checksum) ∧ db₂ = db₁ := hrecord
      have hstatements : ((t.executing (.sql next.sql)).executing
          (.row next.version next.checksum)).pending =
          some [.sql next.sql, .row next.version next.checksum] := by
        unfold MigrationSession.executing
        dsimp only at hpending ⊢
        rw [hpending]
        rfl
      rw [Prog.wp_bind]
      refine wp_request_locked hs.locked ⟨hs.locked, hs.sound, ?_, next, hnext, hstatements⟩
        fun answer s₃ hcommit => ?_
      · exact hs.carries.symm ▸ hlt
      · cases answer with
        | some err => exact wp_failMigration
        | none =>
          obtain ⟨hsession, now, hdatabase⟩ := hcommit
          rw [hstatements, Option.getD_some] at hdatabase
          refine fun _ => ⟨hsession ▸ hs.locked, hsession ▸ hs.carries, ?_⟩
          rw [hdatabase]
          exact (hs.sound.commit_next hcommon hnext now).1

theorem wp_applyMigration (hcommon : Contiguous common) {next : Migration}
    (hs : HoldsLock common base own s) (hlt : s.1.recorded.length < own.length)
    (hnext : common[s.1.recorded.length]? = some next) :
    (applyMigration next).wp (migrationShared ν common base).environment
      (fun err s' => err = none → HoldsLock common base own s') s := by
  unfold applyMigration
  rw [Prog.wp_bind]
  refine wp_request_locked hs.locked trivial fun answer s₁ hbegin => ?_
  cases answer with
  | some err =>
    exact Prog.wp_bind.mpr (Prog.wp_settle (fun _ _ => trivial) fun _ _ h => nomatch h)
  | none =>
    obtain ⟨db₁, t₁⟩ := s₁
    obtain ⟨rfl, rfl⟩ : t₁ = { s.2 with pending := some [] } ∧ db₁ = s.1 := hbegin
    exact wp_executeMigration hcommon ⟨hs.locked, hs.carries, hs.sound⟩ hlt hnext rfl

omit [ErrorGraph ν] in
/-- The last inspection of a run that returns no error. -/
theorem wp_verifySchema (hown : own <+: common) (hs : HoldsLock common base own s) :
    (verifySchema own).wp (migrationShared ν common base).environment (Reports own) s := by
  refine wp_afterInspection hs (fun err s' h => by cases h)
    fun inspection s' hs' hinspects hinspected => ?_
  by_cases hbad : inspection.status ≠ .current ∨ inspection.currentVersion ≠ (own.length : Int)
  · rw [if_pos hbad]
    exact fun h => by cases h
  · rw [if_neg hbad]
    rw [not_or, not_not] at hbad
    intro _
    rw [hinspected, hs'.sound.keys_of_length hown (hinspects.current hbad.1)]

theorem migrationAt_natCast (migrations : List Migration) (n : Nat) :
    migrationAt migrations n = migrations[n]? := by
  unfold migrationAt
  rw [if_pos (Int.natCast_nonneg n), Int.toNat_natCast]

/-- **The loop**: each round commits the next migration of the common list, or ends. -/
theorem wp_migrationLoop (hcommon : Contiguous common) (hown : own <+: common) (rounds : Nat)
    {inspection : Inspection} (hs : HoldsLock common base own s)
    (hversion : inspection.currentVersion = s.1.recorded.length) :
    (migrationLoop own rounds inspection).wp (migrationShared ν common base).environment
      (Reports own) s := by
  induction rounds generalizing inspection s with
  | zero => exact fun h => by cases h
  | succ rounds ih =>
    unfold migrationLoop
    rw [hversion]
    by_cases hlt : (s.1.recorded.length : Int) < (own.length : Int)
    · have hlt' : s.1.recorded.length < own.length := by omega
      rw [if_pos hlt, migrationAt_natCast, List.getElem?_eq_getElem hlt']
      -- the list of the instance and the common one agree on the index
      have hnext : common[s.1.recorded.length]? = some own[s.1.recorded.length] :=
        List.prefix_iff_getElem?.mp hown _ hlt'
      dsimp only
      rw [Prog.wp_bind]
      refine Prog.wp_mono (wp_applyMigration hcommon hs hlt' hnext) fun err s₁ happly => ?_
      cases err with
      | some err => exact fun h => by cases h
      | none =>
        refine wp_afterInspection (happly rfl) (fun err s' h => by cases h)
          fun inspection' s₂ hs₂ hinspects _ => ?_
        by_cases hbad : inspection'.currentVersion ≠ own[s.1.recorded.length].version ∨
            (inspection'.status ≠ .behind ∧ inspection'.status ≠ .current)
        · rw [if_pos hbad]
          exact fun h => by cases h
        · rw [if_neg hbad]
          refine ih hs₂ (hinspects.version fun hinvalid => hbad (.inr ?_))
          rw [hinvalid]
          exact ⟨fun h => (by cases h), fun h => (by cases h)⟩
    · rw [if_neg hlt]
      exact wp_verifySchema hown hs

theorem wp_migrateSession (hcommon : Contiguous common) (hown : own <+: common)
    (hs : HoldsLock common base own s) :
    (migrateSession own).wp (migrationShared ν common base).environment (Reports own) s := by
  refine wp_afterInspection hs (fun err s' h => by cases h)
    fun inspection s' hs' hinspects _ => ?_
  have hloop : inspection.status ≠ .invalid →
      (migrationLoop own (own.length + 1) inspection).wp
        (migrationShared ν common base).environment (Reports own) s' := fun hvalid =>
    wp_migrationLoop hcommon hown _ hs' (hinspects.version hvalid)
  cases hstatus : inspection.status with
  | ahead => exact fun h => by cases h
  | invalid => exact fun h => by cases h
  | queryError => exact fun h => by cases h
  | current => exact hloop (hstatus ▸ fun h => by cases h)
  | behind => exact hloop (hstatus ▸ fun h => by cases h)
  | uninitialized => exact hloop (hstatus ▸ fun h => by cases h)

omit [ErrorGraph ν] in
/-- The lock is given back without another look at the database. -/
theorem wp_finishMigrationConnection {runErr : Option MigrationError}
    (h : Reports own (.returned runErr) s) :
    (finishMigrationConnection runErr : MigrationProg ν _).wp
      (migrationShared ν common base).environment
      (fun err s' => Reports own (.returned err) s') s := by
  have hreports : ∀ s' : SchemaDatabase × MigrationSession, s'.2.inspected = s.2.inspected →
      Reports own (.returned runErr) s' := fun s' hsame hnone => hsame.trans (h hnone)
  unfold finishMigrationConnection
  by_cases hinterrupted : runErr.map MigrationError.kind = some .errMigrationInterrupted
  · rw [if_pos hinterrupted, Prog.wp_bind]
    refine ⟨fun _ _ => trivial, ?_⟩
    rintro _ s₁ ⟨db, _, hdestroy⟩
    refine hreports s₁ ?_
    rw [hdestroy.1]
    rfl
  · rw [if_neg hinterrupted, Prog.wp_bind]
    refine ⟨fun _ _ => trivial, ?_⟩
    rintro answer s₁ ⟨db, _, hunlock⟩
    -- an error of the run, or that of the lock
    have hfailed : ∀ err s₂, Reports own (.returned (some err)) s₂ :=
      fun err s₂ hnone => by cases hnone
    cases answer with
    | error err =>
      refine ⟨fun _ _ => trivial, fun _ s₂ _ => ?_⟩
      cases runErr with
      | some err => exact hfailed err s₂
      | none => exact hfailed _ s₂
    | ok unlocked => cases unlocked with
      | false =>
        refine ⟨fun _ _ => trivial, fun _ s₂ _ => ?_⟩
        cases runErr with
        | some err => exact hfailed err s₂
        | none => exact hfailed _ s₂
      | true =>
        refine ⟨fun _ _ => trivial, ?_⟩
        rintro _ s₂ ⟨db₂, _, hrelease⟩
        refine hreports s₂ ?_
        rw [hrelease.1, hunlock.1]

/-- **One instance**, from any sound database and whatever the others do. -/
theorem wp_runMigrations (hcommon : Contiguous common) (hown : own <+: common)
    (hsound : s.1.Sound common base) (hcarries : s.2.migrations = own) :
    (runMigrations own).wp (migrationShared ν common base).environment (Reports own) s := by
  unfold runMigrations
  rw [Prog.wp_bind]
  refine ⟨fun _ _ => trivial, fun answer s₁ ⟨db₁, hrely₁, hacquire⟩ => ?_⟩
  cases answer with
  | some err => exact fun h => by cases h
  | none =>
    have hsound₁ : s₁.1.Sound common base := by
      rw [hacquire.2]
      exact (hrely₁.2 hsound).1
    have hcarries₁ : s₁.2.migrations = own := by rw [hacquire.1, hcarries]
    show Prog.wp _ (Prog.request MigrationCall.lock >>= _) _ s₁
    rw [Prog.wp_bind]
    refine ⟨fun _ _ => trivial, fun answer s₂ ⟨db₂, hrely₂, hlock⟩ => ?_⟩
    cases answer with
    | some err => exact ⟨fun _ _ => trivial, fun _ s₃ _ h => by cases h⟩
    | none =>
      have hs₂ : HoldsLock common base own s₂ := by
        refine ⟨?_, ?_, ?_⟩
        · rw [hlock.1]
        · rw [hlock.1]
          exact hcarries₁
        · rw [hlock.2]
          exact (hrely₂.2 hsound₁).1
      show Prog.wp _ (migrateSession own >>= _) _ s₂
      rw [Prog.wp_bind]
      refine Prog.wp_mono (wp_migrateSession hcommon hown hs₂) fun outcome s₃ hreports => ?_
      cases outcome with
      | returned runErr =>
        show Prog.wp _ (finishMigrationConnection runErr >>= _) _ s₃
        rw [Prog.wp_bind]
        exact wp_finishMigrationConnection hreports
      | panicked => exact hreports
      | unfinished => exact hreports
      | died => exact hreports

end

/-! ## Every run ends

Each round that goes on has seen the version grow by one, so that a run which ends returns,
whatever it is answered.  It does not stop before unless an error cannot be walked. -/

section
variable {ν : Type} [ErrorGraph ν] {own : List Migration}

/-- The run came to an end of its own. -/
def RunOutcome.Returns (outcome : RunOutcome) : Prop := ∃ err, outcome = .returned err

variable {next : Inspection → MigrationProg ν RunOutcome}

omit [ErrorGraph ν] in
theorem yields_afterInspection
    (h : ∀ inspection, (inspection.status ≠ .invalid → 0 ≤ inspection.currentVersion) →
      (next inspection).Yields RunOutcome.Returns) :
    (afterInspection own next).Yields RunOutcome.Returns := by
  intro answer
  cases answer with
  | error err => exact ⟨_, rfl⟩
  | ok snapshot =>
    obtain ⟨inspection, heq, -, habsent, hvalid, hinvalid⟩ := classifySnapshot_eq snapshot own
    dsimp only [afterInspection, bind, Prog.bind]
    rw [heq]
    refine h inspection fun hstatus => ?_
    by_cases htable : snapshot.tableExists = false
    · rw [(habsent htable).2]
    · by_cases hhistory : HistoryValid snapshot own
      · rw [(hvalid hhistory).2]
        omega
      · exact absurd (hinvalid (by simpa using htable) hhistory) hstatus

omit [ErrorGraph ν] in
theorem yields_verifySchema : (verifySchema own : MigrationProg ν _).Yields RunOutcome.Returns := by
  refine yields_afterInspection fun inspection _ => ?_
  split
  · exact ⟨_, rfl⟩
  · exact ⟨_, rfl⟩

theorem yields_migrationLoop (hown : Contiguous own) {rounds : Nat} {inspection : Inspection}
    (hversion : 0 ≤ inspection.currentVersion) (hpos : 0 < rounds)
    (hrounds : (own.length : Int) < inspection.currentVersion + rounds) :
    (migrationLoop own rounds inspection : MigrationProg ν _).Yields RunOutcome.Returns := by
  induction rounds generalizing inspection with
  | zero => omega
  | succ rounds ih =>
    unfold migrationLoop
    by_cases hlt : inspection.currentVersion < (own.length : Int)
    · obtain ⟨n, hn⟩ := Int.eq_ofNat_of_zero_le hversion
      have hlt' : n < own.length := by omega
      rw [if_pos hlt, hn, migrationAt_natCast, List.getElem?_eq_getElem hlt']
      have hnext := hown.version n own[n] (List.getElem?_eq_getElem hlt')
      refine Prog.Yields.andThen _ fun err => ?_
      cases err with
      | some err => exact ⟨_, rfl⟩
      | none =>
        refine yields_afterInspection fun inspection' _ => ?_
        by_cases hbad : inspection'.currentVersion ≠ own[n].version ∨
            (inspection'.status ≠ .behind ∧ inspection'.status ≠ .current)
        · rw [if_pos hbad]
          exact ⟨_, rfl⟩
        · rw [if_neg hbad]
          simp only [not_or, ne_eq, not_not] at hbad
          -- there is a round left, as the version is one more and at most their number
          exact ih (by omega) (by omega) (by omega)
    · rw [if_neg hlt]
      exact yields_verifySchema

/-- **`Run` returns** where it ends, whatever it is answered. -/
theorem yields_runMigrations (hown : Contiguous own) :
    (runMigrations own : MigrationProg ν _).Yields RunOutcome.Returns := by
  have hsession : (migrateSession own : MigrationProg ν _).Yields RunOutcome.Returns := by
    refine yields_afterInspection fun inspection hversion => ?_
    have hloop : inspection.status ≠ .invalid →
        (migrationLoop own (own.length + 1) inspection : MigrationProg ν _).Yields
          RunOutcome.Returns := by
      intro hvalid
      have hnonneg := hversion hvalid
      exact yields_migrationLoop hown hnonneg (by omega) (by omega)
    cases hstatus : inspection.status with
    | ahead => exact ⟨_, rfl⟩
    | invalid => exact ⟨_, rfl⟩
    | queryError => exact ⟨_, rfl⟩
    | current => exact hloop (hstatus ▸ fun h => by cases h)
    | behind => exact hloop (hstatus ▸ fun h => by cases h)
    | uninitialized => exact hloop (hstatus ▸ fun h => by cases h)
  intro answer
  cases answer with
  | some err => exact ⟨_, rfl⟩
  | none =>
    intro answer
    cases answer with
    | some err => exact fun _ => ⟨_, rfl⟩
    | none =>
      refine hsession.bind ?_
      rintro _ ⟨runErr, rfl⟩
      exact Prog.Yields.andThen _ fun err => ⟨err, rfl⟩

/-- The errors that a run looks into can be walked. -/
def WalkableAnswer : (call : MigrationCall) → call.Answer ν → Prop
  | .begin, some err | .exec _, some err | .record _ _, some err | .commit, some err
  | .rollback, some err => err.Walkable
  | _, _ => True

theorem ends_rollbackMigration (resultErr : Option MigrationError) :
    (rollbackMigration resultErr : MigrationProg ν _).Ends WalkableAnswer := by
  intro rollbackErr hwalkable
  cases rollbackErr with
  | none => trivial
  | some err =>
    obtain ⟨closed, hclosed⟩ := GoError.Walkable.errorsIs hwalkable .pgxErrTxClosed
    dsimp only [Prog.bind]
    rw [hclosed]
    cases closed <;> trivial

theorem ends_failMigration {err : GoError ν} (h : err.Walkable) (operation : String) :
    (failMigration err operation).Ends WalkableAnswer := by
  obtain ⟨interrupted, hinterrupted⟩ := h.isConnectionInterruption
  rw [failMigration, migrationFailure, hinterrupted]
  cases interrupted <;> exact ends_rollbackMigration _

theorem ends_applyMigration (migration : Migration) :
    (applyMigration migration : MigrationProg ν _).Ends WalkableAnswer := by
  intro begun hbegun
  cases begun with
  | some err =>
    obtain ⟨interrupted, hinterrupted⟩ := GoError.Walkable.isConnectionInterruption hbegun
    dsimp only [Prog.bind]
    rw [migrationFailure, hinterrupted]
    cases interrupted <;> trivial
  | none =>
    intro executed hexecuted
    cases executed with
    | some err => exact ends_failMigration hexecuted _
    | none =>
      intro recorded hrecorded
      cases recorded with
      | some err => exact ends_failMigration hrecorded _
      | none =>
        intro committed hcommitted
        cases committed with
        | some err => exact ends_failMigration hcommitted _
        | none => trivial

theorem ends_afterInspection (h : ∀ inspection, (next inspection).Ends WalkableAnswer) :
    (afterInspection own next).Ends WalkableAnswer := by
  refine Prog.Ends.bind (fun snapshot _ => ?_) fun result => ?_
  · cases snapshot <;> trivial
  · cases result with
    | error err => trivial
    | ok inspection => cases inspection with
      | none => trivial
      | some inspection => exact h inspection

theorem ends_finishMigrationConnection (runErr : Option MigrationError) :
    (finishMigrationConnection runErr : MigrationProg ν _).Ends WalkableAnswer := by
  unfold finishMigrationConnection
  split
  · exact fun _ _ => trivial
  · intro unlocked _
    cases unlocked with
    | error err => exact fun _ _ => by cases runErr <;> trivial
    | ok unlocked => cases unlocked with
      | false => exact fun _ _ => by cases runErr <;> trivial
      | true => exact fun _ _ => trivial

/-- **`Run` terminates**, if the errors it looks into can be walked. -/
theorem ends_runMigrations : (runMigrations own : MigrationProg ν _).Ends WalkableAnswer := by
  have hloop : ∀ rounds inspection,
      (migrationLoop own rounds inspection : MigrationProg ν _).Ends WalkableAnswer := by
    intro rounds
    induction rounds with
    | zero => exact fun _ => trivial
    | succ rounds ih =>
      intro inspection
      unfold migrationLoop
      split
      · split
        · trivial
        · refine Prog.Ends.bind (ends_applyMigration _) fun err => ?_
          cases err with
          | some err => trivial
          | none =>
            refine ends_afterInspection fun inspection => ?_
            split
            · trivial
            · exact ih inspection
      · refine ends_afterInspection fun inspection => ?_
        split <;> trivial
  have hsession : (migrateSession own : MigrationProg ν _).Ends WalkableAnswer := by
    refine ends_afterInspection fun inspection => ?_
    cases inspection.status with
    | ahead | invalid | queryError => trivial
    | current | behind | uninitialized => exact hloop _ _
  intro acquired _
  cases acquired with
  | some err => trivial
  | none =>
    intro locked _
    cases locked with
    | some err => exact fun _ _ => trivial
    | none =>
      refine hsession.bind fun outcome => ?_
      cases outcome with
      | returned runErr =>
        exact (ends_finishMigrationConnection runErr).bind fun _ => trivial
      | _ => trivial

end

/-! ## Any number of instances -/

section
variable {ν ι : Type} [ErrorGraph ν] {common : List Migration} {base : Nat}
  {own : ι → List Migration}

/-- The instances and the database that they share. -/
abbrev MigrationConfig (ν ι : Type) :=
  Shared.Config MigrationCall (MigrationCall.Answer ν) SchemaDatabase MigrationSession RunOutcome ι

/-- An instance makes its next call, or its process dies and its session ends. -/
def MigrationMoves (ν : Type) {ι : Type} (common : List Migration) (base : Nat) :
    MigrationConfig ν ι → Shared.Move ι → MigrationConfig ν ι → Prop :=
  (migrationShared ν common base).Moves MigrationSession.gone .died

/-- Every instance is about to start, on a database with a prefix of the common list. -/
structure MigrationStart (common : List Migration) (own : ι → List Migration)
    (c : MigrationConfig ν ι) : Prop where
  recorded : c.shared.keys <+: common.map Migration.key
  committed : c.shared.committed = []
  locals : ∀ i, c.locals i = ⟨own i, false, none, none⟩
  progs : ∀ i, c.progs i = runMigrations (own i)

/-- What every move keeps. -/
structure MigrationInvariant (common : List Migration) (base : Nat) (own : ι → List Migration)
    (c : MigrationConfig ν ι) : Prop where
  correct : (migrationShared ν common base).Correct (fun i => Reports (own i)) c
  sound : c.shared.Sound common base
  carries : ∀ i, (c.locals i).migrations = own i
  returns : ∀ i, (c.progs i).Yields fun outcome => outcome = .died ∨ outcome.Returns

theorem Contiguous.of_isPrefix {migrations : List Migration} (hcommon : Contiguous common)
    (h : migrations <+: common) : Contiguous migrations := by
  refine ⟨fun j migration hj => hcommon.version j migration ?_,
    fun migration hmem => hcommon.checksum migration (h.subset hmem)⟩
  obtain ⟨hlt, rfl⟩ := List.getElem?_eq_some_iff.mp hj
  exact List.prefix_iff_getElem?.mp h j hlt

variable {c : MigrationConfig ν ι}

theorem MigrationStart.invariant (hcommon : Contiguous common) (hown : ∀ i, own i <+: common)
    (h : MigrationStart common own c) :
    MigrationInvariant common c.shared.recorded.length own c := by
  have hlength : c.shared.keys.length = c.shared.recorded.length := List.length_map _
  have hsound : c.shared.Sound common c.shared.recorded.length := by
    have hle := h.recorded.length_le
    rw [hlength, List.length_map] at hle
    refine ⟨⟨le_rfl, hle⟩, ?_, ?_⟩
    · rw [List.map_take, ← hlength]
      exact List.prefix_iff_eq_take.mp h.recorded
    · rw [h.committed, List.drop_eq_nil_of_le (by rw [List.length_take]; omega), List.map_nil]
  refine ⟨⟨fun i j _ => ?_, fun i => ?_⟩, hsound, fun i => ?_, fun i => ?_⟩
  · rw [h.locals i]
    exact fun hlocked => absurd hlocked.1 Bool.false_ne_true
  · rw [h.progs i]
    exact wp_runMigrations hcommon (hown i) hsound (by rw [h.locals i])
  · rw [h.locals i]
  · rw [h.progs i]
    exact (yields_runMigrations (hcommon.of_isPrefix (hown i))).mono fun _ => .inr

omit [ErrorGraph ν] in
/-- **One move** keeps the invariant and every record; and it writes only if it is a call of
an instance that carries more than was recorded. -/
theorem MigrationInvariant.moves (hcommon : Contiguous common) {c' : MigrationConfig ν ι}
    {move : Shared.Move ι} (h : MigrationInvariant common base own c)
    (hmove : MigrationMoves ν common base c move c') :
    MigrationInvariant common base own c' ∧ c.shared.recorded <+: c'.shared.recorded ∧
      (c'.shared = c.shared ∨
        ∃ i, move = .call i ∧ c.shared.recorded.length < (own i).length) := by
  have hstable : ∀ i outcome (t : MigrationSession) (db db' : SchemaDatabase),
      (migrationShared ν common base).rely t db db' →
      Reports (own i) outcome (db, t) → Reports (own i) outcome (db', t) :=
    fun i outcome t db db' _ h => h
  have hlawful := @migrationShared_lawful ν common base hcommon
  have hcorrect := hlawful.moves hstable (fun t u _ h => absurd h.1 Bool.false_ne_true)
    (fun i h => by cases h) h.correct hmove
  have hreturns := Shared.Moves.yields (.inl rfl) hmove h.returns
  cases move with
  | halt i =>
    obtain ⟨hshared, hlocal, -, hother⟩ := hmove
    refine ⟨⟨hcorrect, ?_, fun j => ?_, hreturns⟩, ?_, .inl hshared⟩
    · rw [hshared]
      exact h.sound
    · by_cases hj : j = i
      · rw [hj, hlocal]
        exact h.carries i
      · rw [(hother j hj).1]
        exact h.carries j
    · exact hshared ▸ List.prefix_rfl
  | call i =>
    obtain ⟨-, call, answer, hpre, hact⟩ := hlawful.step hstable h.correct hmove
    obtain ⟨_, _, _, _, _, _, hother⟩ := hmove
    have hcarries : ∀ j, (c'.locals j).migrations = own j := by
      intro j
      by_cases hj : j = i
      · rw [hj, migrationAct_migrations hact]
        exact h.carries i
      · rw [(hother j hj).1]
        exact h.carries j
    obtain hsame | ⟨rfl, now, hcommit⟩ := migrationAct_database hact
    · refine ⟨⟨hcorrect, ?_, hcarries, hreturns⟩, ?_, .inl hsame⟩
      · rw [hsame]
        exact h.sound
      · exact hsame ▸ List.prefix_rfl
    · obtain ⟨-, -, hlt, next, hnext, hpending⟩ := hpre
      rw [h.carries i] at hlt
      rw [hpending, Option.getD_some] at hcommit
      obtain ⟨hsound, hprefix⟩ := h.sound.commit_next hcommon hnext now
      rw [← hcommit] at hsound hprefix
      exact ⟨⟨hcorrect, hsound, hcarries, hreturns⟩, hprefix, .inr ⟨i, rfl, hlt⟩⟩

/-- **Migrations are applied once and in order**, by any number of instances that start, fail
and die at any time.  In every state that is reached the records are a prefix of the common
list and extend what was there at the start, and the SQL committed since is that of the new
records, once each.  No later move rewrites a record, and an instance that carries no more
than is recorded writes nothing.  A run whose errors can be walked ends, every end is a return,
and one that returns no error has found exactly its own list at its last inspection. -/
theorem migrations_applied_once (hcommon : Contiguous common) (hown : ∀ i, own i <+: common)
    {c₀ c : MigrationConfig ν ι} {moves : List (Shared.Move ι)}
    (hstart : MigrationStart common own c₀)
    (hrun : Run (MigrationMoves ν common c₀.shared.recorded.length) c₀ moves c) :
    c.shared.Sound common c₀.shared.recorded.length ∧
      c₀.shared.recorded <+: c.shared.recorded ∧
      (∀ move c', MigrationMoves ν common c₀.shared.recorded.length c move c' →
        c.shared.recorded <+: c'.shared.recorded ∧
        (c'.shared = c.shared ∨
          ∃ i, move = .call i ∧ c.shared.recorded.length < (own i).length)) ∧
      (∀ i, (c₀.progs i).Ends WalkableAnswer) ∧
      (∀ i, (c.progs i).Yields fun outcome => outcome = .died ∨ outcome.Returns) ∧
      ∀ i, c.progs i = .ret (.returned none) →
        (c.locals i).inspected = some ((own i).map Migration.key) := by
  obtain ⟨hinvariant, hprefix⟩ : MigrationInvariant common c₀.shared.recorded.length own c ∧
      c₀.shared.recorded <+: c.shared.recorded := by
    refine hrun.invariant (P := fun c => MigrationInvariant common c₀.shared.recorded.length own c ∧
      c₀.shared.recorded <+: c.shared.recorded) (fun c₁ move c₂ hc₁ hmove => ?_)
      ⟨hstart.invariant hcommon hown, List.prefix_rfl⟩
    obtain ⟨hinvariant, hgrows, -⟩ := hc₁.1.moves hcommon hmove
    exact ⟨hinvariant, hc₁.2.trans hgrows⟩
  refine ⟨hinvariant.sound, hprefix, fun move c' hmove => (hinvariant.moves hcommon hmove).2,
    fun i => hstart.progs i ▸ ends_runMigrations, hinvariant.returns, fun i hend => ?_⟩
  have hreports := hinvariant.correct.wp i
  rw [hend] at hreports
  exact hreports rfl

end

/-- Two migrations. -/
def sampleMigrations : List Migration :=
  [⟨1, .ascii "create table gateway_schema_migrations", .ascii "a1"⟩,
    ⟨2, .ascii "create table durable_acceptances", .ascii "b2"⟩]

/-- A database that answers every call, and commits at a time after Go's zero time. -/
def undisturbedDatabase (p : SchemaDatabase × MigrationSession) :
    (call : MigrationCall) → call.Answer Empty × (SchemaDatabase × MigrationSession)
  | .acquire => (none, p)
  | .lock => (none, p.1, { p.2 with locked := true })
  | .snapshot => (.ok p.1.snapshot, p.1, { p.2 with inspected := some p.1.keys })
  | .begin => (none, p.1, { p.2 with pending := some [] })
  | .exec sql => (none, p.1, p.2.executing (.sql sql))
  | .record version checksum => (none, p.1, p.2.executing (.row version checksum))
  | .commit => (none, p.1.commit ⟨1⟩ (p.2.pending.getD []), { p.2 with pending := none })
  | .rollback => (none, p.1, { p.2 with pending := none })
  | .unlock => (.ok true, p.1, { p.2 with locked := false })
  | .release => ((), p.1, { p.2 with pending := none })
  | .destroy => ((), p.1, p.2.gone)

/-- Two instances, before they start on an empty database. -/
def sampleStart : MigrationConfig Empty (Fin 2) :=
  ⟨⟨[], []⟩, fun _ => ⟨sampleMigrations, false, none, none⟩,
    fun _ => runMigrations sampleMigrations⟩

/-- The first instance dies in the transaction of the second migration. -/
def sampleInterrupted : MigrationConfig Empty (Fin 2) :=
  (sampleStart.follow undisturbedDatabase (1 :: List.replicate 9 0)).halt MigrationSession.gone
    .died 0

instance {ν : Type} {common : List Migration} {base : Nat} :
    DecidableRel (migrationShared ν common base).compatible :=
  fun t u => inferInstanceAs (Decidable (¬ (t.locked = true ∧ u.locked = true)))

theorem undisturbedDatabase_act (p : SchemaDatabase × MigrationSession) (call : MigrationCall) :
    (migrationShared Empty sampleMigrations 0).act p.1 p.2 call (undisturbedDatabase p call).1
      (undisturbedDatabase p call).2.2 (undisturbedDatabase p call).2.1 := by
  cases call with
  | snapshot => exact ⟨rfl, rfl, .inl rfl⟩
  | commit => exact ⟨rfl, _, rfl⟩
  | _ => exact ⟨rfl, rfl⟩

theorem sampleMigrations_contiguous : Contiguous sampleMigrations := by
  constructor
  · intro j migration hj
    have hlt : j < 2 := (List.getElem?_eq_some_iff.mp hj).1
    obtain rfl | rfl : j = 0 ∨ j = 1 := by omega
    · obtain rfl := Option.some.inj hj
      rfl
    · obtain rfl := Option.some.inj hj
      rfl
  · decide

/-- The other instance goes on from what was committed and runs to its end.  Both migrations
are committed, once each. -/
theorem sampleStart_migrated :
    ∃ moves c, Run (MigrationMoves Empty sampleMigrations 0) sampleStart moves c ∧
      sampleInterrupted.shared.committed = [.ascii "create table gateway_schema_migrations"] ∧
      c.progs 0 = .ret .died ∧ c.progs 1 = .ret (.returned none) ∧
      c.shared.committed = sampleMigrations.map Migration.sql ∧
      c.shared.Sound sampleMigrations 0 ∧
      (c.locals 1).inspected = some (sampleMigrations.map Migration.key) := by
  have hrun : Run (MigrationMoves Empty sampleMigrations 0) sampleStart
      ((1 :: List.replicate 9 0).map .call ++ .halt 0 :: (List.replicate 10 1).map .call)
      (sampleInterrupted.follow undisturbedDatabase (List.replicate 10 1)) :=
    (Shared.moves_follow undisturbedDatabase_act (by decide +kernel)).append
      (.cons (Shared.moves_halt _ 0)
        (Shared.moves_follow undisturbedDatabase_act (by decide +kernel)))
  have hend : (sampleInterrupted.follow undisturbedDatabase (List.replicate 10 1)).progs 1 =
      .ret (.returned none) := Prog.eq_ret_of_value? (by decide +kernel)
  have hstart : MigrationStart sampleMigrations (fun _ => sampleMigrations) sampleStart :=
    ⟨List.nil_prefix, rfl, fun _ => rfl, fun _ => rfl⟩
  obtain ⟨hsound, -, -, -, -, hinspected⟩ := migrations_applied_once sampleMigrations_contiguous
    (fun _ => List.prefix_rfl) hstart hrun
  exact ⟨_, _, hrun, by decide +kernel, Prog.eq_ret_of_value? (by decide +kernel), hend,
    by decide +kernel, hsound, hinspected 1 hend⟩

end OncallGateway
