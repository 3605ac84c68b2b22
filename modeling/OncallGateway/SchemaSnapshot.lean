import OncallGateway.MigrationRunner

/-! # Reading the metadata of the schema

`Snapshot` reads the metadata in three queries: whether the table of records exists, which
columns it has, and its rows.  Each may fail before, between and after its rows; a row that
cannot be scanned makes the snapshot incomplete, and an error at the end of the rows is
returned.

Here are the loops over the rows, and what they give for rows that a database delivers
(`columnsComplete_eq_true`, `snapshotRecords_delivered`).
-/

namespace OncallGateway

/-! ## Rows -/

/-- What `Query` gives when it gives rows: what each `Scan` answers, and `rows.Err()` at the
end. -/
structure QueriedRows (ε α : Type) where
  scans : List (Except ε α)
  terminal : Option ε

section
variable {ε α : Type}

/-- Rows are delivered from the first on, each as it is or with an error, and all of them
unless an error follows. -/
def QueriedRows.Delivers (rows : List α) (queried : QueriedRows ε α) : Prop :=
  ∃ delivered rest, rows = delivered ++ rest ∧
    List.Forall₂ (fun row scan => scan = .ok row ∨ ∃ err, scan = .error err) delivered
      queried.scans ∧
    (queried.terminal = none → rest = [])

/-- The query has failed after its rows. -/
def QueriedRows.Broken (queried : QueriedRows ε α) : Prop :=
  (∀ scan ∈ queried.scans, ∃ row, scan = .ok row) ∧ queried.terminal.isSome

/-- The rows that were scanned; `none` is a row that could not be. -/
def scanned : List (Except ε α) → Option (List α)
  | [] => some []
  | .error _ :: _ => none
  | .ok row :: rest => (scanned rest).map (row :: ·)

variable {rows : List α}

theorem scanned_eq_some {scans : List (Except ε α)} :
    scanned scans = some rows ↔ scans = rows.map .ok := by
  induction scans generalizing rows with
  | nil => cases rows <;> simp [scanned]
  | cons scan scans ih =>
    cases scan with
    | error err => cases rows <;> simp [scanned]
    | ok row =>
      cases rows with
      | nil => simp [scanned]
      | cons row' rows => simp [scanned, ih, and_comm]

variable {queried : QueriedRows ε α}

theorem QueriedRows.broken_of_scanned {err : ε} (hscanned : scanned queried.scans = some rows)
    (hterminal : queried.terminal = some err) :
    queried.Broken := by
  rw [scanned_eq_some] at hscanned
  refine ⟨fun scan hscan => ?_, by rw [hterminal]; rfl⟩
  rw [hscanned] at hscan
  obtain ⟨row, -, rfl⟩ := List.mem_map.mp hscan
  exact ⟨row, rfl⟩

/-- Rows that were all scanned, without an error at the end, are all there are. -/
theorem QueriedRows.Delivers.scanned_eq {scannedRows : List α} (h : queried.Delivers rows)
    (hscanned : scanned queried.scans = some scannedRows) (hterminal : queried.terminal = none) :
    scannedRows = rows := by
  obtain ⟨delivered, rest, rfl, hdelivered, hrest⟩ := h
  rw [hrest hterminal, List.append_nil]
  rw [scanned_eq_some] at hscanned
  rw [hscanned, List.forall₂_map_right_iff] at hdelivered
  have hsame : List.Forall₂ Eq delivered scannedRows := by
    refine hdelivered.imp fun row row' h => ?_
    rcases h with h | ⟨err, h⟩
    · exact (Except.ok.inj h).symm
    · cases h
  exact (List.forall₂_eq_eq_eq ▸ hsame : delivered = scannedRows).symm

end

/-! ## Columns -/

/-- A row of `information_schema.columns`. -/
structure ColumnRow where
  name : ByteString
  dataType : ByteString
  nullable : ByteString
deriving DecidableEq

/-- The map `expected` of `metadataColumnsComplete`. -/
def expectedColumns : List (ByteString × ByteString) :=
  [(.ascii "migration_version", .ascii "bigint"),
    (.ascii "migration_checksum", .ascii "text"),
    (.ascii "applied_at", .ascii "timestamp with time zone")]

/-- The column is one that is expected. -/
def ColumnRow.expected (row : ColumnRow) : Bool :=
  decide (expectedColumns.lookup row.name = some row.dataType ∧ row.nullable = .ascii "NO")

/-- The loop of `metadataColumnsComplete`, with the names in `seen`; `none` is a row that
cannot be scanned. -/
def seenColumns {ε : Type} : List ByteString → List (Except ε ColumnRow) → Option (List ByteString)
  | seen, [] => some seen
  | _, .error _ :: _ => none
  | seen, .ok row :: rest => seenColumns (if row.expected then row.name :: seen else seen) rest

/-- `metadataColumnsComplete`, of the rows that were queried. -/
def columnsComplete {ε : Type} (queried : QueriedRows ε ColumnRow) : Except ε Bool :=
  match seenColumns [] queried.scans with
  | none => .ok false
  | some seen =>
    match queried.terminal with
    | some err => .error err
    | none => .ok (expectedColumns.all fun column => seen.contains column.1)

variable {ε : Type}

/-- What the loop has seen. -/
theorem seenColumns_eq (seen : List ByteString) (scans : List (Except ε ColumnRow)) :
    seenColumns seen scans = (scanned scans).map fun rows =>
      ((rows.filter ColumnRow.expected).map ColumnRow.name).reverse ++ seen := by
  induction scans generalizing seen with
  | nil => rfl
  | cons scan scans ih =>
    cases scan with
    | error err => rfl
    | ok row =>
      rw [seenColumns, ih, scanned, Option.map_map]
      cases scanned scans with
      | none => rfl
      | some rows =>
        by_cases hrow : row.expected = true
        · simp [hrow]
        · simp [hrow]

/-- Only the expected type is looked up for an expected name. -/
theorem ColumnRow.expected_iff {row : ColumnRow} {column : ByteString × ByteString}
    (hcolumn : column ∈ expectedColumns) :
    row.expected = true ∧ row.name = column.1 ↔ row = ⟨column.1, column.2, .ascii "NO"⟩ := by
  have hlookup : ∀ column ∈ expectedColumns, expectedColumns.lookup column.1 = some column.2 := by
    decide
  rw [ColumnRow.expected, decide_eq_true_eq]
  obtain ⟨name, dataType, nullable⟩ := row
  constructor
  · rintro ⟨⟨hexpected, rfl⟩, rfl⟩
    rw [hlookup column hcolumn] at hexpected
    rw [Option.some.inj hexpected]
  · intro h
    cases h
    exact ⟨⟨hlookup column hcolumn, rfl⟩, rfl⟩

/-- **The columns are complete** if every row was scanned and each expected column is among
them, with its type and not null. -/
theorem columnsComplete_eq_true {queried : QueriedRows ε ColumnRow} :
    columnsComplete queried = .ok true ↔ queried.terminal = none ∧
      ∃ rows, scanned queried.scans = some rows ∧
        ∀ column ∈ expectedColumns, ⟨column.1, column.2, .ascii "NO"⟩ ∈ rows := by
  rw [columnsComplete, seenColumns_eq]
  cases scanned queried.scans with
  | none => simp
  | some rows =>
    cases queried.terminal with
    | some err => simp
    | none =>
      simp only [Option.map_some, Except.ok.injEq, List.all_eq_true, List.contains_iff_mem,
        List.append_nil, List.mem_reverse, List.mem_map, List.mem_filter, true_and,
        Option.some.injEq, exists_eq_left']
      refine forall_congr' fun column => imp_congr_right fun hcolumn => ?_
      constructor
      · rintro ⟨row, ⟨hrow, hexpected⟩, hname⟩
        rwa [← (ColumnRow.expected_iff hcolumn).mp ⟨hexpected, hname⟩]
      · intro hrow
        obtain ⟨hexpected, hname⟩ := (ColumnRow.expected_iff hcolumn).mpr rfl
        exact ⟨_, ⟨hrow, hexpected⟩, hname⟩

/-! ## Records -/

/-- What `Snapshot` makes of the rows of the table. -/
def snapshotRecords {ε : Type} (queried : QueriedRows ε AppliedMigration) :
    Except ε MetadataSnapshot :=
  match scanned queried.scans with
  | none => .ok ⟨true, false, []⟩
  | some applied =>
    match queried.terminal with
    | some err => .error err
    | none => .ok ⟨true, true, applied⟩

/-- **What is made of the rows of the table**: an error at their end, an incomplete snapshot, or
all of them. -/
theorem snapshotRecords_delivered {queried : QueriedRows ε AppliedMigration}
    {recorded : List AppliedMigration} (h : queried.Delivers recorded) :
    (∃ err, snapshotRecords queried = .error err ∧ queried.Broken) ∨
      snapshotRecords queried = .ok ⟨true, false, []⟩ ∨
      snapshotRecords queried = .ok ⟨true, true, recorded⟩ := by
  unfold snapshotRecords
  cases hscanned : scanned queried.scans with
  | none => exact .inr (.inl rfl)
  | some applied =>
    cases hterminal : queried.terminal with
    | some err => exact .inl ⟨err, rfl, QueriedRows.broken_of_scanned hscanned hterminal⟩
    | none =>
      rw [h.scanned_eq hscanned hterminal]
      exact .inr (.inr rfl)

end OncallGateway
