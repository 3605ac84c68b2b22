import OncallGateway.LifecycleCommand
import OncallGateway.Lib.Keyed
import OncallGateway.Lib.SqlLogic
import Mathlib.Data.Prod.Lex

/-! # The tables of destinations and tokens

The two tables of the second migration that the token lifecycle works on, with the
constraints it declares.  A `Store` carries the proof that its rows satisfy all of
them, so that a statement that would break one has no result but the violated
constraint: `Store.withTokens` is the only way to change the token table.

The `CHECK` constraints are written as the migration writes them, in SQL's logic of
three values, over columns that may be `NULL`.  A token's state is a text column with
a `CHECK` on its four values; it is the enumeration here, and its text is
`DestinationTokenState.text`.  A timestamp is finite: the driver writes no other from
a `time.Time`.

The statements that change tokens are one insertion and seven updates, each of which
names one record, the state it must be in and the time of its last change.  What a
statement did, when it reports that it affected one row, is stated on the table as a
function of the record (`Statement.exec_insert_ok`, `Statement.exec_update_ok`).
-/

namespace OncallGateway

/-! ## Rows and constraints -/

/-- A row of `gateway_destinations`. -/
structure DestinationRow where
  destinationID : DestinationID
  audienceID : GatewayAudienceID
  state : DestinationState
  createdAt : Timestamp
  stateChangedAt : Timestamp
deriving DecidableEq

/-- A row of `gateway_destination_tokens`. -/
structure TokenRow where
  recordID : DestinationTokenRecordID
  audienceID : GatewayAudienceID
  destinationID : DestinationID
  verifier : ByteString
  verifierKeyID : ByteString
  state : DestinationTokenState
  createdAt : Timestamp
  activatedAt : Option Timestamp
  retirementStartedAt : Option Timestamp
  revokedAt : Option Timestamp
  expiresAt : Timestamp
  stagedCleanupDeadline : Timestamp
  retirementOverlapDeadline : Option Timestamp
  stateChangedAt : Timestamp
deriving DecidableEq

/-- The constraints of `gateway_destination_tokens`, in the order PostgreSQL checks
them: the `CHECK`s by name, the unique indexes as they were created, and the foreign
key after the row is in place. -/
inductive TokenConstraint where
  | keyIDPresent | lifetime | recordIDNonzero | retirementBound | stagedCleanupBound | stateFields
  | stateTimeOrder | verifierSize
  | primaryKey | verifierUnique | oneStagedPerDestination | oneActivePerDestination
  | oneRetiringPerDestination
  | destinationFK
deriving DecidableEq

namespace TokenRow
open Sql

/-- `CHECK` constraints on the row. -/
def checkLifetime (row : TokenRow) : Truth :=
  and (compare (· < ·) (some row.createdAt) (some row.expiresAt))
    (compare (· ≤ ·) (some row.expiresAt) (some (row.createdAt.add (90 * day))))

@[inherit_doc checkLifetime]
def checkStagedCleanupBound (row : TokenRow) : Truth :=
  and (compare (· > ·) (some row.stagedCleanupDeadline) (some row.createdAt))
    (compare (· ≤ ·) (some row.stagedCleanupDeadline) (some (row.createdAt.add day)))

@[inherit_doc checkLifetime]
def checkStateTimeOrder (row : TokenRow) : Truth :=
  and (compare (· ≥ ·) (some row.stateChangedAt) (some row.createdAt))
    (and
      (or (isNull row.activatedAt)
        (and (compare (· ≥ ·) row.activatedAt (some row.createdAt))
          (compare (· ≤ ·) row.activatedAt (some row.stateChangedAt))))
      (and
        (or (isNull row.retirementStartedAt)
          (and (isNotNull row.activatedAt)
            (and (compare (· ≥ ·) row.retirementStartedAt row.activatedAt)
              (compare (· ≤ ·) row.retirementStartedAt (some row.stateChangedAt)))))
        (or (isNull row.revokedAt)
          (and (compare (· ≥ ·) row.revokedAt (some row.createdAt))
            (compare (· ≤ ·) row.revokedAt (some row.stateChangedAt))))))

@[inherit_doc checkLifetime]
def checkRetirementBound (row : TokenRow) : Truth :=
  or (and (isNull row.retirementStartedAt) (isNull row.retirementOverlapDeadline))
    (and (isNotNull row.retirementStartedAt)
      (and (isNotNull row.retirementOverlapDeadline)
        (and (compare (· > ·) row.retirementOverlapDeadline row.retirementStartedAt)
          (compare (· ≤ ·) row.retirementOverlapDeadline
            (row.retirementStartedAt.map fun started => started.add day)))))

@[inherit_doc checkLifetime]
def checkStateFields (row : TokenRow) : Truth :=
  or
    (and (some (decide (row.state = .staged)))
      (and (isNull row.activatedAt) (and (isNull row.retirementStartedAt)
        (and (isNull row.retirementOverlapDeadline) (isNull row.revokedAt)))))
    (or
      (and (some (decide (row.state = .active)))
        (and (isNotNull row.activatedAt) (and (isNull row.retirementStartedAt)
          (and (isNull row.retirementOverlapDeadline) (isNull row.revokedAt)))))
      (or
        (and (some (decide (row.state = .retiring)))
          (and (isNotNull row.activatedAt) (and (isNotNull row.retirementStartedAt)
            (and (isNotNull row.retirementOverlapDeadline) (isNull row.revokedAt)))))
        (and (some (decide (row.state = .revoked))) (isNotNull row.revokedAt))))

end TokenRow

/-- At most one row of a destination is in the state. -/
def OnePerDestination (state : DestinationTokenState) (tokens : List TokenRow) : Prop :=
  ((tokens.filter fun row => decide (row.state = state)).map fun row => row.destinationID).Nodup

instance (state : DestinationTokenState) (tokens : List TokenRow) :
    Decidable (OnePerDestination state tokens) :=
  inferInstanceAs (Decidable (List.Nodup _))

/-- What a constraint asks of the tables. -/
def TokenConstraint.Holds (destinations : List DestinationRow) (tokens : List TokenRow) :
    TokenConstraint → Prop
  | .keyIDPresent => ∀ row ∈ tokens, row.verifierKeyID.length > 0
  | .lifetime => ∀ row ∈ tokens, Sql.Holds row.checkLifetime
  | .recordIDNonzero => ∀ row ∈ tokens, ¬ row.recordID.IsZero
  | .retirementBound => ∀ row ∈ tokens, Sql.Holds row.checkRetirementBound
  | .stagedCleanupBound => ∀ row ∈ tokens, Sql.Holds row.checkStagedCleanupBound
  | .stateFields => ∀ row ∈ tokens, Sql.Holds row.checkStateFields
  | .stateTimeOrder => ∀ row ∈ tokens, Sql.Holds row.checkStateTimeOrder
  | .verifierSize => ∀ row ∈ tokens, row.verifier.length = 32
  | .primaryKey => (tokens.map fun row => row.recordID).Nodup
  | .verifierUnique =>
    (tokens.map fun row => (row.audienceID, row.verifierKeyID, row.verifier)).Nodup
  | .oneStagedPerDestination => OnePerDestination .staged tokens
  | .oneActivePerDestination => OnePerDestination .active tokens
  | .oneRetiringPerDestination => OnePerDestination .retiring tokens
  | .destinationFK => ∀ row ∈ tokens,
      (row.audienceID, row.destinationID) ∈
        destinations.map fun destination => (destination.audienceID, destination.destinationID)

instance (destinations : List DestinationRow) (tokens : List TokenRow) (c : TokenConstraint) :
    Decidable (c.Holds destinations tokens) :=
  match c with
  | .keyIDPresent => inferInstanceAs (Decidable (∀ row ∈ tokens, row.verifierKeyID.length > 0))
  | .lifetime => inferInstanceAs (Decidable (∀ row ∈ tokens, Sql.Holds row.checkLifetime))
  | .recordIDNonzero => inferInstanceAs (Decidable (∀ row ∈ tokens, ¬ row.recordID.IsZero))
  | .retirementBound =>
    inferInstanceAs (Decidable (∀ row ∈ tokens, Sql.Holds row.checkRetirementBound))
  | .stagedCleanupBound =>
    inferInstanceAs (Decidable (∀ row ∈ tokens, Sql.Holds row.checkStagedCleanupBound))
  | .stateFields => inferInstanceAs (Decidable (∀ row ∈ tokens, Sql.Holds row.checkStateFields))
  | .stateTimeOrder =>
    inferInstanceAs (Decidable (∀ row ∈ tokens, Sql.Holds row.checkStateTimeOrder))
  | .verifierSize => inferInstanceAs (Decidable (∀ row ∈ tokens, row.verifier.length = 32))
  | .primaryKey => inferInstanceAs (Decidable (List.Nodup _))
  | .verifierUnique => inferInstanceAs (Decidable (List.Nodup _))
  | .oneStagedPerDestination => inferInstanceAs (Decidable (OnePerDestination _ _))
  | .oneActivePerDestination => inferInstanceAs (Decidable (OnePerDestination _ _))
  | .oneRetiringPerDestination => inferInstanceAs (Decidable (OnePerDestination _ _))
  | .destinationFK => inferInstanceAs (Decidable (∀ row ∈ tokens, _ ∈ List.map _ destinations))

/-- All constraints, in the order they are checked. -/
def TokenConstraint.all : List TokenConstraint :=
  [.keyIDPresent, .lifetime, .recordIDNonzero, .retirementBound, .stagedCleanupBound, .stateFields,
    .stateTimeOrder, .verifierSize, .primaryKey, .verifierUnique, .oneStagedPerDestination,
    .oneActivePerDestination, .oneRetiringPerDestination, .destinationFK]

theorem TokenConstraint.mem_all (c : TokenConstraint) : c ∈ TokenConstraint.all := by
  cases c <;> decide

/-- What the constraints of `gateway_destinations` ask, and its reference to the
security realm, whose audience is not zero. -/
structure DestinationsValid (destinations : List DestinationRow) : Prop where
  primaryKey : (destinations.map fun row => row.destinationID).Nodup
  id : ∀ row ∈ destinations, ¬ row.destinationID.IsZero
  audience : ∀ row ∈ destinations, ¬ row.audienceID.IsZero
  stateTimeOrder : ∀ row ∈ destinations, row.createdAt ≤ row.stateChangedAt

/-- **The two tables, with every constraint satisfied.** -/
structure Store where
  destinations : List DestinationRow
  tokens : List TokenRow
  destinationsValid : DestinationsValid destinations
  tokensValid : ∀ c : TokenConstraint, c.Holds destinations tokens
deriving DecidableEq

namespace Store

/-- Replace the token table, or name the first constraint the new one breaks. -/
def withTokens (s : Store) (tokens : List TokenRow) : Except TokenConstraint Store :=
  match h : TokenConstraint.all.find? fun c => !decide (c.Holds s.destinations tokens) with
  | some c => .error c
  | none => .ok ⟨s.destinations, tokens, s.destinationsValid, fun c => by
      simpa using List.find?_eq_none.mp h c c.mem_all⟩

/-- The row of a token record. -/
def row? (s : Store) (id : DestinationTokenRecordID) : Option TokenRow :=
  Keyed.lookup TokenRow.recordID s.tokens id

/-- The row of a destination. -/
def destination? (s : Store) (id : DestinationID) : Option DestinationRow :=
  Keyed.lookup DestinationRow.destinationID s.destinations id

variable {s s' : Store} {row : TokenRow}

theorem withTokens_ok {tokens : List TokenRow} (h : s.withTokens tokens = .ok s') :
    s'.destinations = s.destinations ∧ s'.tokens = tokens := by
  unfold withTokens at h
  split at h
  · cases h
  · cases h
    exact ⟨rfl, rfl⟩

variable {id : DestinationTokenRecordID}

theorem recordID_of_row? (h : s.row? id = some row) :
    row.recordID = id :=
  Keyed.key_of_lookup h

theorem mem_of_row? (h : s.row? id = some row) : row ∈ s.tokens :=
  Keyed.mem_of_lookup h

theorem row?_of_mem (h : row ∈ s.tokens) : s.row? row.recordID = some row :=
  Keyed.lookup_of_mem (s.tokensValid .primaryKey) h

end Store

/-! ## Statements -/

/-- The row `insertLifecycleStagedTokenSQL` inserts. -/
def StagedTokenCandidate.row (candidate : StagedTokenCandidate) : TokenRow where
  recordID := candidate.recordID
  audienceID := candidate.audienceID
  destinationID := candidate.destination
  verifier := candidate.verifier.bytes.toList
  verifierKeyID := candidate.verifierKeyID.value
  state := .staged
  createdAt := .ofTime candidate.createdAt
  activatedAt := none
  retirementStartedAt := none
  revokedAt := none
  expiresAt := .ofTime candidate.expiresAt
  stagedCleanupDeadline := .ofTime candidate.stagedCleanupDeadline
  retirementOverlapDeadline := none
  stateChangedAt := .ofTime candidate.createdAt

/-- The times of a candidate. -/
def StagedTokenCandidate.times (candidate : StagedTokenCandidate) : List Time :=
  [candidate.createdAt, candidate.expiresAt, candidate.stagedCleanupDeadline]

/-- The `SET` clauses of the updates. -/
inductive Change where
  | activate (now : Time)
  | retire (now overlapDeadline : Time)
  | revoke (now : Time)
  | restore (now : Time)
deriving DecidableEq

/-- The row after a `SET` clause. -/
def Change.apply (row : TokenRow) : Change → TokenRow
  | .activate now =>
    { row with state := .active, activatedAt := some (.ofTime now), stateChangedAt := .ofTime now }
  | .retire now overlapDeadline =>
    { row with
      state := .retiring
      retirementStartedAt := some (.ofTime now)
      retirementOverlapDeadline := some (.ofTime overlapDeadline)
      stateChangedAt := .ofTime now }
  | .revoke now =>
    { row with state := .revoked, revokedAt := some (.ofTime now), stateChangedAt := .ofTime now }
  | .restore now =>
    { row with
      state := .active
      retirementStartedAt := none
      retirementOverlapDeadline := none
      stateChangedAt := .ofTime now }

/-- The times a `SET` clause stores. -/
def Change.times : Change → List Time
  | .activate now => [now]
  | .retire now overlapDeadline => [now, overlapDeadline]
  | .revoke now => [now]
  | .restore now => [now]

section
variable (row : TokenRow) (change : Change)

@[simp] theorem Change.apply_recordID :
    (change.apply row).recordID = row.recordID := by
  cases change <;> rfl

@[simp] theorem Change.apply_audienceID :
    (change.apply row).audienceID = row.audienceID := by
  cases change <;> rfl

@[simp] theorem Change.apply_destinationID :
    (change.apply row).destinationID = row.destinationID := by
  cases change <;> rfl

@[simp] theorem Change.apply_verifier :
    (change.apply row).verifier = row.verifier := by
  cases change <;> rfl

@[simp] theorem Change.apply_verifierKeyID :
    (change.apply row).verifierKeyID = row.verifierKeyID := by
  cases change <;> rfl

@[simp] theorem Change.apply_createdAt :
    (change.apply row).createdAt = row.createdAt := by
  cases change <;> rfl

@[simp] theorem Change.apply_expiresAt :
    (change.apply row).expiresAt = row.expiresAt := by
  cases change <;> rfl

@[simp] theorem Change.apply_stagedCleanupDeadline :
    (change.apply row).stagedCleanupDeadline = row.stagedCleanupDeadline := by
  cases change <;> rfl

end

/-- A statement of the lifecycle repository that changes tokens. -/
inductive Statement where
  | insert (candidate : StagedTokenCandidate)
  /-- The update of one record, guarded by the state it is in and the time of its
  last change. -/
  | update (state : DestinationTokenState) (audience : GatewayAudienceID)
      (destination : DestinationID) (record : DestinationTokenRecordID) (stateChangedAt : Time)
      (change : Change)
deriving DecidableEq

section
variable (audience : GatewayAudienceID) (destination : DestinationID)
  (record : DestinationTokenRecordID) (stateChangedAt now : Time)

/-- The SQL statements under their names in the source. -/
def activateInitialLifecycleTokenSQL : Statement :=
  .update .staged audience destination record stateChangedAt (.activate now)

@[inherit_doc activateInitialLifecycleTokenSQL]
def retireLifecycleTokenSQL (overlapDeadline : Time) : Statement :=
  .update .active audience destination record stateChangedAt (.retire now overlapDeadline)

@[inherit_doc activateInitialLifecycleTokenSQL]
def activateRotationLifecycleTokenSQL : Statement :=
  .update .staged audience destination record stateChangedAt (.activate now)

@[inherit_doc activateInitialLifecycleTokenSQL]
def revokeStagedLifecycleTokenSQL : Statement :=
  .update .staged audience destination record stateChangedAt (.revoke now)

@[inherit_doc activateInitialLifecycleTokenSQL]
def revokeActiveLifecycleTokenSQL : Statement :=
  .update .active audience destination record stateChangedAt (.revoke now)

@[inherit_doc activateInitialLifecycleTokenSQL]
def restoreRetiringLifecycleTokenSQL : Statement :=
  .update .retiring audience destination record stateChangedAt (.restore now)

@[inherit_doc activateInitialLifecycleTokenSQL]
def revokeRetiringLifecycleTokenSQL : Statement :=
  .update .retiring audience destination record stateChangedAt (.revoke now)

end

/-- The `WHERE` clause of the updates. -/
def Statement.selects (state : DestinationTokenState) (audience : GatewayAudienceID)
    (destination : DestinationID) (record : DestinationTokenRecordID) (stateChangedAt : Time)
    (row : TokenRow) : Bool :=
  decide (row.audienceID = audience ∧ row.destinationID = destination ∧ row.recordID = record ∧
    row.state = state ∧ row.stateChangedAt = .ofTime stateChangedAt)

/-- The token table after a statement. -/
def Statement.rewrite (tokens : List TokenRow) : Statement → List TokenRow
  | .insert candidate => tokens ++ [candidate.row]
  | .update state audience destination record stateChangedAt change =>
    Keyed.update (Statement.selects state audience destination record stateChangedAt)
      (fun row => change.apply row) tokens

/-- The number of rows a statement affects. -/
def Statement.affected (tokens : List TokenRow) : Statement → Nat
  | .insert _ => 1
  | .update state audience destination record stateChangedAt _ =>
    tokens.countP (Statement.selects state audience destination record stateChangedAt)

/-- Execute a statement: the new tables and the number of rows affected, or the
constraint that was violated. -/
def Statement.exec (s : Store) (statement : Statement) : Except TokenConstraint (Store × Nat) :=
  (s.withTokens (statement.rewrite s.tokens)).map fun s' => (s', statement.affected s.tokens)

/-! ## What a statement does -/

section
variable {s s' : Store} {n : Nat}

theorem Statement.exec_ok {statement : Statement} (h : statement.exec s = .ok (s', n)) :
    s'.destinations = s.destinations ∧ s'.tokens = statement.rewrite s.tokens ∧
      n = statement.affected s.tokens := by
  cases hw : s.withTokens (statement.rewrite s.tokens) with
  | error c => simp [Statement.exec, hw, Except.map] at h
  | ok s₁ =>
    simp only [Statement.exec, hw, Except.map, Except.ok.injEq, Prod.mk.injEq] at h
    obtain ⟨rfl, rfl⟩ := h
    exact ⟨(Store.withTokens_ok hw).1, (Store.withTokens_ok hw).2, rfl⟩

/-- **An insertion that succeeds** adds the row of a record that had none. -/
theorem Statement.exec_insert_ok {candidate : StagedTokenCandidate}
    (h : (Statement.insert candidate).exec s = .ok (s', n)) :
    n = 1 ∧ s'.destinations = s.destinations ∧ s.row? candidate.recordID = none ∧
    ∀ id, s'.row? id = if id = candidate.recordID then some candidate.row else s.row? id := by
  obtain ⟨hdest, htok, hn⟩ := Statement.exec_ok h
  have hfresh : s.row? candidate.recordID = none := by
    refine Keyed.lookup_eq_none.mpr fun row hrow heq => ?_
    have hkeys : (s'.tokens.map fun row => row.recordID).Nodup := s'.tokensValid .primaryKey
    rw [htok, Statement.rewrite, List.map_append, List.nodup_append] at hkeys
    exact hkeys.2.2 row.recordID (List.mem_map_of_mem hrow) candidate.recordID
      (by simp [StagedTokenCandidate.row]) heq
  refine ⟨hn, hdest, hfresh, fun id => ?_⟩
  rw [Store.row?, htok, Statement.rewrite, Keyed.lookup_append]
  change (s.row? id).or _ = _
  by_cases hid : id = candidate.recordID
  · rw [hid, hfresh, Option.none_or, if_pos rfl]
    exact if_pos rfl
  · rw [if_neg hid, if_neg (show ¬ candidate.row.recordID = id from fun h => hid h.symm),
      Option.or_none]

/-- **An update that reports one affected row** rewrote the row of its record, which
was as the `WHERE` clause asks. -/
theorem Statement.exec_update_ok {state : DestinationTokenState} {audience : GatewayAudienceID}
    {destination : DestinationID} {record : DestinationTokenRecordID} {stateChangedAt : Time}
    {change : Change}
    (h : (Statement.update state audience destination record stateChangedAt change).exec s =
      .ok (s', 1)) :
    ∃ row, s.row? record = some row ∧ row.audienceID = audience ∧
      row.destinationID = destination ∧ row.state = state ∧
      row.stateChangedAt = .ofTime stateChangedAt ∧ s'.destinations = s.destinations ∧
      ∀ id, s'.row? id = if id = record then some (change.apply row) else s.row? id := by
  obtain ⟨hdest, htok, hcount⟩ := Statement.exec_ok h
  obtain ⟨row, hrow, hsrow⟩ := (Keyed.countP_eq_one (k := record) (s.tokensValid .primaryKey)
    (by simp +contextual [Statement.selects])).mp hcount.symm
  have hmatch := hsrow
  simp only [Statement.selects, decide_eq_true_eq] at hmatch
  obtain ⟨ha, hd, -, hst, hsc⟩ := hmatch
  refine ⟨row, hrow, ha, hd, hst, hsc, hdest, fun id => ?_⟩
  rw [Store.row?, htok, Statement.rewrite,
    Keyed.lookup_update (fun row => Change.apply_recordID row change)]
  change (s.row? id).map _ = _
  split
  · rename_i hid
    subst hid
    rw [show s.row? id = some row from hrow]
    simp [hsrow]
  · rename_i hid
    cases hr : s.row? id with
    | none => rfl
    | some other =>
      have hother : ¬ Statement.selects state audience destination record stateChangedAt other := by
        intro hs
        simp only [Statement.selects, decide_eq_true_eq] at hs
        exact hid ((Store.recordID_of_row? hr).symm.trans hs.2.2.1)
      simp [hother]

end

end OncallGateway
