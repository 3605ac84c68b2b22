import OncallGateway.GoTime
import OncallGateway.Lib.Bytes

/-! # Schema inspection

`classifySnapshot` compares the migrations recorded in the database with those that the
program carries.  An access to the list of migrations outside its range is `none` here,
and there is none (`schema_inspection_exact`).
-/

namespace OncallGateway

/-- `Migration`. -/
structure Migration where
  version : Int
  sql : ByteString
  checksum : ByteString
deriving DecidableEq

/-- `SchemaStatus`. -/
inductive SchemaStatus where
  | uninitialized | behind | current | ahead | invalid | queryError
deriving DecidableEq

/-- `AppliedMigration`. -/
structure AppliedMigration where
  version : Int
  checksum : ByteString
  appliedAt : Time
deriving DecidableEq

/-- `MetadataSnapshot`. -/
structure MetadataSnapshot where
  tableExists : Bool
  complete : Bool
  applied : List AppliedMigration
deriving DecidableEq

/-- `Inspection`. -/
structure Inspection where
  status : SchemaStatus
  currentVersion : Int
  targetVersion : Int
deriving DecidableEq

/-- The loop of `classifySnapshot` over the records from `index` on, and what follows it. -/
def classifyFrom (migrations : List Migration) (target : Int) :
    Nat → Int → List AppliedMigration → Option Inspection
  | _, currentVersion, [] =>
    if currentVersion > target then some ⟨.ahead, currentVersion, target⟩
    else if currentVersion < target then some ⟨.behind, currentVersion, target⟩
    else some ⟨.current, currentVersion, target⟩
  | index, currentVersion, applied :: rest =>
    let expectedVersion : Int := (index + 1 : Nat)
    if applied.version ≠ expectedVersion ∨ applied.checksum = [] ∨ applied.appliedAt = 0 then
      some ⟨.invalid, currentVersion, target⟩
    else if applied.version ≤ (migrations.length : Int) then
      match migrations[index]? with
      | none => none
      | some migration =>
        if applied.checksum ≠ migration.checksum then some ⟨.invalid, applied.version, target⟩
        else classifyFrom migrations target (index + 1) applied.version rest
    else classifyFrom migrations target (index + 1) applied.version rest

/-- `classifySnapshot`; `none` is an index out of range. -/
def classifySnapshot (snapshot : MetadataSnapshot) (migrations : List Migration) :
    Option Inspection :=
  let target : Int := migrations.length
  if snapshot.tableExists = false then some ⟨.uninitialized, 0, target⟩
  else if snapshot.complete = false ∨ snapshot.applied = [] then some ⟨.invalid, 0, target⟩
  else classifyFrom migrations target 0 0 snapshot.applied

/-- The record at index `j` is the one of a history that agrees with the migrations. -/
structure RecordValid (migrations : List Migration) (j : Nat) (applied : AppliedMigration) :
    Prop where
  version : applied.version = (j + 1 : Nat)
  checksum : applied.checksum ≠ []
  time : applied.appliedAt ≠ 0
  same : ∀ migration, migrations[j]? = some migration → applied.checksum = migration.checksum

/-- The status of so many records against so many migrations. -/
def lengthStatus (k n : Nat) : SchemaStatus :=
  if n < k then .ahead else if k < n then .behind else .current

/-- The records from `index` on agree with the migrations. -/
def RecordsValid (migrations : List Migration) (index : Nat) (rest : List AppliedMigration) :
    Prop :=
  ∀ j applied, rest[j]? = some applied → RecordValid migrations (index + j) applied

theorem recordsValid_cons {migrations : List Migration} {index : Nat} {applied : AppliedMigration}
    {rest : List AppliedMigration} :
    RecordsValid migrations index (applied :: rest) ↔
      RecordValid migrations index applied ∧ RecordsValid migrations (index + 1) rest := by
  constructor
  · intro h
    refine ⟨h 0 applied rfl, fun j a hj => ?_⟩
    rw [show index + 1 + j = index + (j + 1) by omega]
    exact h (j + 1) a hj
  · rintro ⟨hfirst, hrest⟩ j a hj
    match j with
    | 0 =>
      obtain rfl := Option.some.inj hj
      exact hfirst
    | j + 1 =>
      rw [show index + (j + 1) = index + 1 + j by omega]
      exact hrest j a hj

/-- What the loop finds: a history that agrees, by its length, or one that does not. -/
structure Finds (migrations : List Migration) (index : Nat) (rest : List AppliedMigration)
    (result : Inspection) : Prop where
  target : result.targetVersion = migrations.length
  valid : RecordsValid migrations index rest →
    result.status = lengthStatus (index + rest.length) migrations.length ∧
      result.currentVersion = (index + rest.length : Nat)
  invalid : ¬ RecordsValid migrations index rest → result.status = .invalid

theorem classifyFrom_eq (migrations : List Migration) (index : Nat) (current : Int)
    (rest : List AppliedMigration) (hcurrent : current = index) :
    ∃ result, classifyFrom migrations migrations.length index current rest = some result ∧
      Finds migrations index rest result := by
  subst hcurrent
  induction rest generalizing index with
  | nil =>
    refine ⟨⟨lengthStatus index migrations.length, index, migrations.length⟩, ?_, rfl,
      fun _ => ⟨rfl, rfl⟩, fun h => absurd (fun j applied hj => nomatch hj) h⟩
    unfold classifyFrom lengthStatus
    by_cases hahead : migrations.length < index
    · rw [if_pos (by omega), if_pos hahead]
    · rw [if_neg (by omega), if_neg hahead]
      by_cases hbehind : index < migrations.length
      · rw [if_pos (by omega), if_pos hbehind]
      · rw [if_neg (by omega), if_neg hbehind]
  | cons applied rest ih =>
    have hinvalid : ∀ version : Int, ¬ RecordValid migrations index applied →
        ∃ result, some (⟨.invalid, version, migrations.length⟩ : Inspection) = some result ∧
          Finds migrations index (applied :: rest) result := fun version h =>
      ⟨_, rfl, rfl, fun hall => absurd (recordsValid_cons.mp hall).1 h, fun _ => rfl⟩
    have hnext : ∀ version : Int, version = (index + 1 : Nat) →
        RecordValid migrations index applied →
        ∃ result, classifyFrom migrations migrations.length (index + 1) version rest =
          some result ∧ Finds migrations index (applied :: rest) result := by
      rintro _ rfl hfirst
      obtain ⟨result, hresult, hfinds⟩ := ih (index + 1)
      refine ⟨result, hresult, hfinds.target, fun h => ?_, fun h => hfinds.invalid fun hrest =>
        h (recordsValid_cons.mpr ⟨hfirst, hrest⟩)⟩
      rw [List.length_cons, show index + (rest.length + 1) = index + 1 + rest.length by omega]
      exact hfinds.valid (recordsValid_cons.mp h).2
    unfold classifyFrom
    dsimp only
    by_cases hrecord : applied.version ≠ (index + 1 : Nat) ∨ applied.checksum = [] ∨
        applied.appliedAt = 0
    · rw [if_pos hrecord]
      refine hinvalid _ fun h => ?_
      rcases hrecord with hversion | hchecksum | htime
      · exact hversion h.version
      · exact h.checksum hchecksum
      · exact h.time htime
    · rw [if_neg hrecord]
      simp only [not_or, ne_eq, not_not] at hrecord
      obtain ⟨hversion, hchecksum, htime⟩ := hrecord
      by_cases hknown : applied.version ≤ (migrations.length : Int)
      · rw [if_pos hknown]
        -- the record's version is its index and one, so the access is in range
        have hlt : index < migrations.length := by omega
        rw [List.getElem?_eq_getElem hlt]
        dsimp only
        by_cases hsame : applied.checksum = migrations[index].checksum
        · rw [if_neg (not_not.mpr hsame)]
          refine hnext _ hversion ⟨hversion, hchecksum, htime, fun migration hmigration => ?_⟩
          rw [List.getElem?_eq_getElem hlt, Option.some.injEq] at hmigration
          rw [hsame, hmigration]
        · rw [if_pos hsame]
          exact hinvalid _ fun h => hsame (h.same _ (List.getElem?_eq_getElem hlt))
      · rw [if_neg hknown]
        refine hnext _ hversion ⟨hversion, hchecksum, htime, fun migration hmigration => ?_⟩
        obtain ⟨hlt, -⟩ := List.getElem?_eq_some_iff.mp hmigration
        omega

/-- The history of a snapshot is complete, not empty, and agrees with the migrations. -/
structure HistoryValid (snapshot : MetadataSnapshot) (migrations : List Migration) : Prop where
  table : snapshot.tableExists = true
  complete : snapshot.complete = true
  present : snapshot.applied ≠ []
  records : ∀ j applied, snapshot.applied[j]? = some applied → RecordValid migrations j applied

/-- What `classifySnapshot` finds. -/
theorem classifySnapshot_eq (snapshot : MetadataSnapshot) (migrations : List Migration) :
    ∃ result, classifySnapshot snapshot migrations = some result ∧
      result.targetVersion = migrations.length ∧
      (snapshot.tableExists = false → result.status = .uninitialized ∧ result.currentVersion = 0) ∧
      (HistoryValid snapshot migrations →
        result.status = lengthStatus snapshot.applied.length migrations.length ∧
          result.currentVersion = snapshot.applied.length) ∧
      (snapshot.tableExists = true → ¬ HistoryValid snapshot migrations →
        result.status = .invalid) := by
  unfold classifySnapshot
  dsimp only
  by_cases htable : snapshot.tableExists = false
  · rw [if_pos htable]
    refine ⟨_, rfl, rfl, fun _ => ⟨rfl, rfl⟩, fun h => ?_, fun h => ?_⟩
    · exact absurd (htable.symm.trans h.table) Bool.false_ne_true
    · exact absurd (htable.symm.trans h) Bool.false_ne_true
  · rw [if_neg htable]
    by_cases hempty : snapshot.complete = false ∨ snapshot.applied = []
    · rw [if_pos hempty]
      refine ⟨_, rfl, rfl, fun h => absurd h htable, fun h => ?_, fun _ _ => rfl⟩
      rcases hempty with hcomplete | hnone
      · exact absurd (hcomplete.symm.trans h.complete) Bool.false_ne_true
      · exact absurd hnone h.present
    · rw [if_neg hempty]
      obtain ⟨result, hresult, htarget, hvalid, hbad⟩ :=
        classifyFrom_eq migrations 0 0 snapshot.applied rfl
      simp only [RecordsValid, Nat.zero_add] at hvalid hbad
      rw [not_or, Bool.not_eq_false] at hempty
      refine ⟨result, hresult, htarget, fun h => absurd h htable, fun h => hvalid h.records,
        fun _ h => hbad fun hrecords => h ⟨by simpa using htable, hempty.1, hempty.2, hrecords⟩⟩

variable {k n : Nat}

theorem lengthStatus_ahead : lengthStatus k n = .ahead ↔ n < k := by
  unfold lengthStatus
  by_cases h : n < k
  · simp [h]
  · by_cases h' : k < n <;> simp [h, h']

theorem lengthStatus_behind : lengthStatus k n = .behind ↔ k < n := by
  unfold lengthStatus
  by_cases h : n < k
  · rw [if_pos h]
    exact iff_of_false (fun heq => by cases heq) (by omega)
  · by_cases h' : k < n <;> simp [h, h']

theorem lengthStatus_current : lengthStatus k n = .current ↔ k = n := by
  unfold lengthStatus
  by_cases h : n < k
  · rw [if_pos h]
    exact iff_of_false (fun heq => by cases heq) (by omega)
  · by_cases h' : k < n
    · rw [if_neg h, if_pos h']
      exact iff_of_false (fun heq => by cases heq) (by omega)
    · rw [if_neg h, if_neg h']
      exact iff_of_true rfl (by omega)

/-- **Schema inspection is exact.** -/
theorem schema_inspection_exact (snapshot : MetadataSnapshot) (migrations : List Migration) :
    ∃ result, classifySnapshot snapshot migrations = some result ∧
      result.targetVersion = migrations.length ∧
      (result.status = .uninitialized ↔ snapshot.tableExists = false) ∧
      (result.status = .current ↔ HistoryValid snapshot migrations ∧
        snapshot.applied.length = migrations.length ∧ 1 ≤ migrations.length) ∧
      (result.status = .behind ↔ HistoryValid snapshot migrations ∧
        1 ≤ snapshot.applied.length ∧ snapshot.applied.length < migrations.length) ∧
      (result.status = .ahead ↔ HistoryValid snapshot migrations ∧
        migrations.length < snapshot.applied.length) ∧
      (result.status = .invalid ↔
        snapshot.tableExists = true ∧ ¬ HistoryValid snapshot migrations) ∧
      (result.status = .current ∨ result.status = .behind ∨ result.status = .ahead →
        result.currentVersion = snapshot.applied.length) := by
  obtain ⟨result, hresult, htarget, habsent, hvalid, hinvalid⟩ :=
    classifySnapshot_eq snapshot migrations
  refine ⟨result, hresult, htarget, ?_⟩
  by_cases htable : snapshot.tableExists = false
  · have hhistory : ¬ HistoryValid snapshot migrations := fun h =>
      absurd (htable.symm.trans h.table) Bool.false_ne_true
    obtain ⟨hstatus, -⟩ := habsent htable
    simp [hstatus, htable, hhistory]
  · by_cases hhistory : HistoryValid snapshot migrations
    · obtain ⟨hstatus, hversion⟩ := hvalid hhistory
      have hpos := List.length_pos_iff.mpr hhistory.present
      have hne : ∀ status, status = SchemaStatus.uninitialized ∨ status = .invalid →
          lengthStatus snapshot.applied.length migrations.length ≠ status := by
        rintro _ (rfl | rfl) <;> unfold lengthStatus <;> split <;> (try split) <;> simp
      rw [hstatus]
      refine ⟨iff_of_false (hne _ (.inl rfl)) htable, ?_, ?_, ?_,
        iff_of_false (hne _ (.inr rfl)) fun h => h.2 hhistory, fun _ => hversion⟩
      · rw [lengthStatus_current]
        exact ⟨fun h => ⟨hhistory, h, by omega⟩, fun h => h.2.1⟩
      · rw [lengthStatus_behind]
        exact ⟨fun h => ⟨hhistory, hpos, h⟩, fun h => h.2.2⟩
      · rw [lengthStatus_ahead]
        exact ⟨fun h => ⟨hhistory, h⟩, fun h => h.2⟩
    · have hstatus := hinvalid (by simpa using htable) hhistory
      simp [hstatus, hhistory, htable]

end OncallGateway
