import OncallGateway.Lib.Layers
import OncallGateway.LifecycleContract

/-! # Beginning a rotation

`BeginRotation` creates a staged record, activates it in the place of the old one, and
aborts it again when it is certain that the activation has failed.  Each of the three
calls may fail with an unknown outcome, and others may interfere between any two of
them.  `Begun` lists the ways in which it ends, with the changes it has made by then:
nothing was changed; the record was inserted and revoked again; the handle is reported,
whatever was changed; or the rotation is confirmed.
-/

namespace OncallGateway
open Session Session.Spec

/-! ## What a mutation inserts -/

variable {id : DestinationTokenRecordID} {s s' : Store} {command : CreateRotationStagedTokenCommand}

section
variable {m : Mutation} {statements : List Statement}

/-- A statement that is not the insertion of a record does not make it appear. -/
theorem Statement.exec_absent {statement : Statement} {n : Nat} (h : statement.exec s = .ok (s', n))
    (hid : s.row? id = none)
    (hne : ∀ candidate, statement = .insert candidate → candidate.recordID ≠ id) :
    s'.row? id = none := by
  cases statement with
  | insert candidate =>
    obtain ⟨-, -, -, hrow⟩ := Statement.exec_insert_ok h
    rw [hrow, if_neg (hne candidate rfl).symm, hid]
  | update state audience destination record stateChangedAt change =>
    obtain ⟨-, htok, -⟩ := Statement.exec_ok h
    rw [Store.row?, htok, Statement.rewrite,
      Keyed.lookup_update (fun row => Change.apply_recordID row change)]
    exact Option.map_eq_none_iff.mpr hid

theorem applyStatements_absent (h : applyStatements statements s = .ok s') (hid : s.row? id = none)
    (hne : ∀ candidate, .insert candidate ∈ statements → candidate.recordID ≠ id) :
    s'.row? id = none := by
  induction statements generalizing s with
  | nil =>
    cases h
    exact hid
  | cons statement statements ih =>
    cases hexec : statement.exec s with
    | error c => simp [applyStatements, hexec] at h
    | ok result =>
      simp only [applyStatements, hexec] at h
      refine ih h (Statement.exec_absent hexec hid ?_)
        fun candidate hmem => hne candidate (List.mem_cons_of_mem _ hmem)
      rintro candidate rfl
      exact hne candidate List.mem_cons_self

theorem applyStatements_of_run (h : runStatements statements s = .ok s') :
    applyStatements statements s = .ok s' := by
  induction statements generalizing s with
  | nil => simpa [applyStatements] using runStatements_nil.mp h
  | cons statement statements ih =>
    obtain ⟨s₁, hexec, hrest⟩ := runStatements_cons.mp h
    simp [applyStatements, hexec, ih hrest]

/-- **A record appears by the insertion of its candidate only**, even if a transaction is
kept in part. -/
theorem Mutation.Leaves.inserted {mayKeep : Prop} (h : m.Leaves mayKeep s s')
    (hs : s.row? id = none) (hs' : s'.row? id ≠ none) :
    ∃ candidate, m.inserted = some candidate ∧ candidate.recordID = id := by
  have key : ∀ {state statements pending}, m.plan state = .ok statements → pending <+: statements →
      applyStatements pending s = .ok s' →
      ∃ candidate, m.inserted = some candidate ∧ candidate.recordID = id := by
    intro state statements pending hplan hpre happly
    by_contra hno
    refine hs' (applyStatements_absent happly hs fun candidate hmem hid => hno ?_)
    exact ⟨candidate, (Mutation.plan_statements hplan _ (hpre.subset hmem)).2 candidate rfl, hid⟩
  rcases h with h | ⟨-, rfl | ⟨statements, pending, ⟨-, -, state, -, hplan⟩, hpre, happly⟩⟩
  · obtain ⟨-, -, state, statements, -, hplan, hrun⟩ := Mutation.commit_eq_ok.mp h
    exact key hplan List.prefix_rfl (applyStatements_of_run hrun)
  · exact absurd hs hs'
  · exact key hplan hpre happly

/-- A creation of one statement is kept as a whole. -/
theorem Mutation.Leaves.createRotationStagedToken {mayKeep : Prop}
    {command : CreateRotationStagedTokenCommand}
    (h : (Mutation.createRotationStagedToken command).Leaves mayKeep s s') :
    s' = s ∨ (Mutation.createRotationStagedToken command).commit s = .ok s' := by
  rcases h with h | ⟨-, h | ⟨statements, pending, ⟨hinput, hzero, state, hload, hplan⟩, hpre, happly⟩⟩
  · exact Or.inr h
  · exact Or.inl h
  have hstatements : statements = [.insert command.candidate] := by
    simp only [Mutation.plan, Except.bind_eq_ok, Except.refuseIf_eq_ok, exists_const] at hplan
    obtain ⟨-, hplan⟩ := hplan
    split at hplan
    · cases hplan
    · simp only [Except.bind_eq_ok, Except.pure_eq_ok] at hplan
      obtain ⟨-, -, rfl⟩ := hplan
      rfl
  have hcases : pending = [] ∨ pending = statements := by
    rw [hstatements] at hpre ⊢
    rcases List.prefix_cons_iff.mp hpre with rfl | ⟨rest, rfl, hrest⟩
    · exact Or.inl rfl
    · rw [List.prefix_nil.mp hrest]
      exact Or.inr rfl
  rcases hcases with rfl | rfl
  · cases happly
    exact Or.inl rfl
  · refine Or.inr (Mutation.commit_eq_ok.mpr ⟨hinput, hzero, state, pending, hload, hplan, ?_⟩)
    rw [hstatements] at happly ⊢
    cases hexec : (Statement.insert command.candidate).exec s with
    | error c => simp [applyStatements, hexec] at happly
    | ok result =>
      obtain ⟨s₁, n⟩ := result
      obtain ⟨rfl, -⟩ := Statement.exec_insert_ok hexec
      simp only [applyStatements, hexec, Except.ok.injEq] at happly
      exact runStatements_cons.mpr ⟨s₁, hexec, runStatements_nil.mpr happly⟩

end

/-! ## The calls of a run -/

namespace ParticipantCall

/-- The calls for a creation, an activation and an abort. -/
def isCreate : ParticipantCall → Bool
  | .createRotationStagedToken _ _ _ _ => true
  | _ => false

@[inherit_doc isCreate]
def isActivate : ParticipantCall → Bool
  | .activateRotation _ _ _ _ => true
  | _ => false

@[inherit_doc isCreate]
def isAbort : ParticipantCall → Bool
  | .abortStagedToken _ _ _ => true
  | _ => false

end ParticipantCall

section
variable {ν : Type}

/-- How many creations, activations and aborts a run has called for. -/
structure Counts (trace : List (Sigma (ParticipantCall.Answer ν)))
    (creations activations aborts : Nat) : Prop where
  creations : trace.countP (fun made => made.1.isCreate) = creations
  activations : trace.countP (fun made => made.1.isActivate) = activations
  aborts : trace.countP (fun made => made.1.isAbort) = aborts

theorem Counts.nil : Counts ([] : List (Sigma (ParticipantCall.Answer ν))) 0 0 0 := ⟨rfl, rfl, rfl⟩

theorem Counts.call {trace : List (Sigma (ParticipantCall.Answer ν))} {c v a : Nat}
    (h : Counts trace c v a) (call : ParticipantCall) (answer : call.Answer ν) :
    Counts (trace ++ [⟨call, answer⟩]) (c + call.isCreate.toNat) (v + call.isActivate.toNat)
      (a + call.isAbort.toNat) := by
  constructor
  · rw [List.countP_append, h.creations]
    cases hk : call.isCreate <;> simp [hk]
  · rw [List.countP_append, h.activations]
    cases hk : call.isActivate <;> simp [hk]
  · rw [List.countP_append, h.aborts]
    cases hk : call.isAbort <;> simp [hk]

/-- What the participant's clock has shown last. -/
def lastReading (trace : List (Sigma (ParticipantCall.Answer ν))) : Option Time :=
  trace.reverse.findSome? fun
    | ⟨.clock, reading⟩ => some reading
    | _ => none

end

/-! ## How `BeginRotation` ends -/

section
variable {ν : Type} (world : World ν) (mayKeep : Prop) (hmac : KeyedHash)
  (service : DestinationTokenLifecycleService) (request : DestinationTokenRotationRequest)

/-- A command of this call's creation, beside the record `oldID`, and the token of it. -/
abbrev Staged (oldID : DestinationTokenRecordID) (token : ByteString)
    (command : CreateRotationStagedTokenCommand) : Prop :=
  StagedFor world hmac service.activeKeyID request.audienceID request.destination oldID
    request.currentToken token command

/-- **The ends of `BeginRotation`**: the calls that were made, what is returned, and the
changes of the store. -/
inductive Begun : List (Sigma (ParticipantCall.Answer ν)) →
    DestinationTokenRotationAttempt × Option Sentinel → List (Store × Store) → Prop
  | quiet {trace : List (Sigma (ParticipantCall.Answer ν))} {kind : Sentinel} :
      Begun trace (.zero, some kind) []
  | aborted {trace : List (Sigma (ParticipantCall.Answer ν))} {kind : Sentinel}
      {oldID : DestinationTokenRecordID} {token : ByteString}
      {command : CreateRotationStagedTokenCommand} {now : Time} {b a b' a' : Store} :
      Staged world hmac service request oldID token command →
      (Mutation.createRotationStagedToken command).commit b = .ok a →
      (Mutation.abortStagedToken request.audienceID request.destination command.candidate.recordID
        now).commit b' = .ok a' →
      Begun trace (.zero, some kind) [(b, a), (b', a')]
  | reported {trace : List (Sigma (ParticipantCall.Answer ν))} {kind : Sentinel}
      {oldID : DestinationTokenRecordID} {token : ByteString}
      {command : CreateRotationStagedTokenCommand} {changes : List (Store × Store)} :
      Staged world hmac service request oldID token command →
      (∀ change ∈ changes, ∃ m : Mutation, m.Leaves mayKeep change.1 change.2 ∧
        (m = .createRotationStagedToken command ∨ m.inserted = none)) →
      Begun trace (rotationReconciliationAttempt request command.candidate.recordID oldID,
        some kind) changes
  | confirmed {trace : List (Sigma (ParticipantCall.Answer ν))}
      {oldID : DestinationTokenRecordID} {token : ByteString}
      {command : CreateRotationStagedTokenCommand}
      {receipt : DestinationTokenRotationActivationReceipt} {reading : Time} {b a b' a' : Store} :
      Staged world hmac service request oldID token command →
      (Mutation.createRotationStagedToken command).commit b = .ok a →
      (Mutation.activateRotation ⟨request.audienceID, request.destination,
        command.candidate.recordID, oldID, receipt.activatedAt,
        receipt.retirementDeadline⟩).commit b' = .ok a' →
      lastReading trace = some reading → receipt.ValidAt reading →
      Begun trace (⟨⟨request.audienceID, request.destination, command.candidate.recordID, oldID⟩,
        token, receipt.activatedAt, receipt.retirementDeadline⟩, none) [(b, a), (b', a')]

/-- The end of a run that has called for at most one creation, activation and abort. -/
structure BegunOnce (trace : List (Sigma (ParticipantCall.Answer ν)))
    (result : DestinationTokenRotationAttempt × Option Sentinel) (changes : List (Store × Store)) :
    Prop where
  begun : Begun world mayKeep hmac service request trace result changes
  counts : ∃ c v a, Counts trace c v a ∧ c ≤ 1 ∧ v ≤ 1 ∧ a ≤ 1

end

variable {audience : GatewayAudienceID} {destination : DestinationID}

section
variable {ν : Type} [ErrorGraph ν] {world : World ν} {mayKeep : Prop}
  {hmac : KeyedHash} {service : DestinationTokenLifecycleService}
  {request : DestinationTokenRotationRequest} {trace : List (Sigma (ParticipantCall.Answer ν))}
  {changes : List (Store × Store)}

theorem wp_rotationContextError
    {Q : Option Sentinel → List (Sigma (ParticipantCall.Answer ν)) × List (Store × Store) → Prop}
    (hQ : ∀ r answer, Q r (trace ++ [⟨.contextErr, answer⟩], changes)) :
    (rotationContextError : ParticipantProg ν _).wp
      (contracts (participantContract world mayKeep hmac service)) Q (trace, changes) := by
  unfold rotationContextError
  rw [Prog.wp_bind]
  refine wp_call.mpr fun r more h => ?_
  obtain rfl : more = [] := h
  rw [List.append_nil]
  cases r with
  | none => exact hQ none _
  | some err =>
    refine Prog.wp_bind.mpr (Prog.wp_settle (fun _ _ => trivial) fun canceled _ => ?_)
    split
    · exact hQ _ _
    refine Prog.wp_bind.mpr (Prog.wp_settle (fun _ _ => trivial) fun expired _ => ?_)
    split <;> exact hQ _ _

/-- The input of an operation is read, and nothing is called for. -/
theorem wp_rotationInput {valid : Prop} [Decidable valid] {c v a : Nat}
    (hcounts : Counts trace c v a)
    {Q : Except Sentinel Time →
      List (Sigma (ParticipantCall.Answer ν)) × List (Store × Store) → Prop}
    (hQ : ∀ r trace', Counts trace' c v a → (∀ now, r = .ok now → valid) → Q r (trace', changes)) :
    (rotationInput valid : ParticipantProg ν _).wp
      (contracts (participantContract world mayKeep hmac service)) Q (trace, changes) := by
  unfold rotationInput
  split_ifs with hvalid
  swap
  · exact hQ _ _ hcounts nofun
  rw [Prog.wp_bind]
  refine wp_rotationContextError fun r answer => ?_
  cases r with
  | some cancellation => exact hQ _ _ (hcounts.call _ _) nofun
  | none =>
    dsimp only
    rw [Prog.wp_bind]
    refine wp_call.mpr fun now more h => ?_
    obtain rfl : more = [] := h
    rw [List.append_nil]
    split_ifs
    · exact hQ _ _ ((hcounts.call _ _).call _ _) nofun
    · exact hQ _ _ ((hcounts.call _ _).call _ _) fun _ _ => hvalid

variable {oldID : DestinationTokenRecordID} {token : ByteString} {b a : Store}
variable {M : Mutation → Prop} {err : Option Sentinel}

/-- What a mutation beside the creation has done. -/
theorem Verdict.leaves (h : Verdict mayKeep M err changes) :
    ∀ change ∈ changes, ∃ m : Mutation, M m ∧ m.Leaves mayKeep change.1 change.2 := by
  cases h with
  | committed hm hcommit => simpa using ⟨_, hm, Or.inl hcommit⟩
  | refused => simp
  | unknown hm hkept => simpa using ⟨_, hm, hkept⟩

/-- The creation, and after it a mutation that inserts nothing. -/
theorem leaves_after_create
    (hcreate : (Mutation.createRotationStagedToken command).commit b = .ok a)
    (h : Verdict mayKeep M err changes) (hM : ∀ m, M m → m.inserted = none) :
    ∀ change ∈ [(b, a)] ++ changes, ∃ m : Mutation, m.Leaves mayKeep change.1 change.2 ∧
      (m = .createRotationStagedToken command ∨ m.inserted = none) := by
  intro change hmem
  rcases List.mem_append.mp hmem with hmem | hmem
  · rw [List.mem_singleton.mp hmem]
    exact ⟨_, Or.inl hcreate, Or.inl rfl⟩
  · obtain ⟨m, hm, hleaves⟩ := h.leaves change hmem
    exact ⟨m, hleaves, Or.inr (hM m hm)⟩

omit [ErrorGraph ν] in
/-- The record is aborted, or its handle is reported. -/
theorem wp_compensate (hstaged : Staged world hmac service request oldID token command)
    (hcreate : (Mutation.createRotationStagedToken command).commit b = .ok a) {v : Nat}
    (hcounts : Counts trace 1 v 0) (hv : v ≤ 1) {err : Sentinel} :
    (compensate request command.candidate.recordID oldID err : ParticipantProg ν _).wp
      (contracts (participantContract world mayKeep hmac service))
      (fun result p => BegunOnce world mayKeep hmac service request p.1 result p.2)
      (trace, [(b, a)]) := by
  unfold compensate
  rw [Prog.wp_bind]
  refine wp_call.mpr fun r more h => ?_
  have hcount : ∃ c v a, Counts (trace ++ [⟨.abortStagedToken request.audienceID
      request.destination command.candidate.recordID, r⟩]) c v a ∧ c ≤ 1 ∧ v ≤ 1 ∧ a ≤ 1 :=
    ⟨_, _, _, hcounts.call _ _, le_rfl, hv, le_rfl⟩
  cases r with
  | some kind =>
    refine ⟨.reported hstaged (leaves_after_create hcreate h ?_), hcount⟩
    rintro m ⟨now, rfl⟩
    rfl
  | none =>
    obtain ⟨_, b', a', ⟨now, rfl⟩, rfl, hcommit⟩ := Verdict.of_none h
    exact ⟨.aborted hstaged hcreate hcommit, hcount⟩

/-- The activation is confirmed, or the handle is reported. -/
theorem wp_confirmRotation (hstaged : Staged world hmac service request oldID token command)
    (hcreate : (Mutation.createRotationStagedToken command).commit b = .ok a)
    {receipt : DestinationTokenRotationActivationReceipt} {b' a' : Store}
    (hactivate : (Mutation.activateRotation ⟨request.audienceID, request.destination,
      command.candidate.recordID, oldID, receipt.activatedAt,
      receipt.retirementDeadline⟩).commit b' = .ok a') (hcounts : Counts trace 1 1 0) :
    (confirmRotation request command.candidate.recordID oldID token receipt :
        ParticipantProg ν _).wp
      (contracts (participantContract world mayKeep hmac service))
      (fun result p => BegunOnce world mayKeep hmac service request p.1 result p.2)
      (trace, [(b, a), (b', a')]) := by
  have hreport : ∀ {trace' : List (Sigma (ParticipantCall.Answer ν))}, Counts trace' 1 1 0 →
      BegunOnce world mayKeep hmac service request trace'
        (rotationReconciliationAttempt request command.candidate.recordID oldID,
          some .errDestinationTokenRotationReconciliation) [(b, a), (b', a')] := by
    intro trace' hcounts'
    refine ⟨.reported hstaged (leaves_after_create hcreate
      (.committed (M := (· = _)) rfl hactivate) ?_), 1, 1, 0, hcounts', le_rfl, le_rfl, by simp⟩
    rintro m rfl
    rfl
  unfold confirmRotation
  dsimp only
  split
  · exact hreport hcounts
  rw [Prog.wp_bind]
  refine wp_call.mpr fun reading more h => ?_
  obtain rfl : more = [] := h
  rw [List.append_nil]
  split
  · exact hreport (hcounts.call _ _)
  rename_i hat
  rw [Prog.wp_bind]
  refine wp_rotationContextError fun r answer => ?_
  cases r with
  | some cancellation => exact hreport ((hcounts.call _ _).call _ _)
  | none =>
    dsimp only
    split
    · exact hreport ((hcounts.call _ _).call _ _)
    refine ⟨.confirmed hstaged hcreate hactivate ?_ (not_not.mp hat), 1, 1, 0,
      (hcounts.call _ _).call _ _, le_rfl, le_rfl, by simp⟩
    rw [lastReading, List.reverse_append, List.reverse_append]
    rfl

theorem rotationBeginActive_record {snapshot : DestinationLifecycleSnapshot}
    {active : LifecycleTokenView}
    (h : rotationBeginActive snapshot audience destination = .ok active) :
    ¬ active.recordID.IsZero := by
  unfold rotationBeginActive at h
  split_ifs at h
  split at h
  · cases h
  · split_ifs at h with hbad
    simp only [not_or] at hbad
    cases h
    exact hbad.2.2.2.2

omit [ErrorGraph ν] in
theorem handle_valid (hbinding : ValidRotationBinding request.audienceID request.destination)
    (hold : ¬ oldID.IsZero) (hstaged : Staged world hmac service request oldID token command) :
    DestinationTokenRotationHandle.Valid ⟨request.audienceID, request.destination,
      command.candidate.recordID, oldID⟩ := by
  have hread : ∀ {id : DestinationTokenRecordID}, ¬ id.IsZero →
      parseDestinationTokenRecordID (formatUUID id) = .ok id := fun {id} hid => by
    rw [parseDestinationTokenRecordID, parseUUID_formatUUID, if_neg hid]
  exact ⟨hbinding, hstaged.record, hold, hstaged.distinct, hread hstaged.record, hread hold⟩

namespace DestinationTokenRotationParticipantService

theorem wp_activateCreated
    (hbinding : ValidRotationBinding request.audienceID request.destination) (hold : ¬ oldID.IsZero)
    (hstaged : Staged world hmac service request oldID token command)
    (hcreate : (Mutation.createRotationStagedToken command).commit b = .ok a)
    (hcounts : Counts trace 1 0 0) :
    (activateCreated request ⟨command.candidate.recordID, token⟩ oldID : ParticipantProg ν _).wp
      (contracts (participantContract world mayKeep hmac service))
      (fun result p => BegunOnce world mayKeep hmac service request p.1 result p.2)
      (trace, [(b, a)]) := by
  unfold activateCreated
  dsimp only
  rw [if_neg hstaged.record, if_neg (not_not.mpr (handle_valid hbinding hold hstaged))]
  split
  · exact wp_compensate hstaged hcreate hcounts (by simp)
  rw [Prog.wp_bind]
  refine wp_rotationContextError fun r answer => ?_
  have hcounts₁ : Counts _ 1 0 0 := hcounts.call .contextErr answer
  cases r with
  | some cancellation => exact wp_compensate hstaged hcreate hcounts₁ (by simp)
  | none =>
    dsimp only
    rw [Prog.wp_bind]
    refine wp_call.mpr fun r more h => ?_
    have hcounts₂ := hcounts₁.call (.activateRotation request.audienceID request.destination
      command.candidate.recordID oldID) r
    cases h with
    | committed hvalid hactivate => exact wp_confirmRotation hstaged hcreate hactivate hcounts₂
    | @failed kind _ hverdict =>
      dsimp only
      cases hclass : classifyRotationActivationError (.sentinel kind : GoError ν) with
      | mk safeErr definite =>
        cases definite with
        | false =>
          refine ⟨.reported hstaged (leaves_after_create hcreate hverdict ?_), 1, 1, 0, hcounts₂,
            le_rfl, le_rfl, by simp⟩
          rintro m ⟨now, deadline, rfl⟩
          rfl
        | true =>
          -- a definite failure has changed nothing
          obtain rfl := hverdict.of_certain (certain_of_activation (by rw [hclass]))
          exact wp_compensate hstaged hcreate hcounts₂ le_rfl

theorem wp_createAndActivate
    (hbinding : ValidRotationBinding request.audienceID request.destination) (hold : ¬ oldID.IsZero)
    (hcounts : Counts trace 0 0 0) :
    (createAndActivate request oldID : ParticipantProg ν _).wp
      (contracts (participantContract world mayKeep hmac service))
      (fun result p => BegunOnce world mayKeep hmac service request p.1 result p.2)
      (trace, []) := by
  unfold createAndActivate
  rw [Prog.wp_bind]
  refine wp_call.mpr fun r more h => ?_
  have hcounts₁ := hcounts.call (.createRotationStagedToken request.audienceID request.destination
    oldID request.currentToken) r
  have hcount : ∀ {result changes}, Begun world mayKeep hmac service request _ result changes →
      BegunOnce world mayKeep hmac service request _ result changes :=
    fun hbegun => ⟨hbegun, 1, 0, 0, hcounts₁, le_rfl, by simp, by simp⟩
  rw [List.nil_append]
  cases h with
  | committed hstaged hcreate => exact wp_activateCreated hbinding hold hstaged hcreate hcounts₁
  | @refused kind =>
    dsimp only
    rw [if_neg]
    · exact hcount .quiet
    · -- there is no record, and so no handle
      rintro ⟨-, hvalid⟩
      exact hvalid.2.1 rfl
  | unknown hstaged hverdict =>
    dsimp only
    rw [if_pos ⟨by simp [classifyRotationCreateError, classifyRotationLifecycleError_unknown],
      handle_valid hbinding hold hstaged⟩]
    refine hcount (.reported hstaged fun change hmem => ?_)
    obtain ⟨m, rfl, hleaves⟩ := hverdict.leaves change hmem
    exact ⟨_, hleaves, Or.inl rfl⟩

/-- **How `BeginRotation` ends**, from the contracts of its calls. -/
theorem wp_beginRotation :
    (beginRotation request : ParticipantProg ν _).wp
      (contracts (participantContract world mayKeep hmac service))
      (fun result p => BegunOnce world mayKeep hmac service request p.1 result p.2) ([], []) := by
  have hquiet : ∀ {trace : List (Sigma (ParticipantCall.Answer ν))} {kind : Sentinel},
      Counts trace 0 0 0 → BegunOnce world mayKeep hmac service request trace
        (.zero, some kind) [] := fun hcounts => ⟨.quiet, 0, 0, 0, hcounts, by simp⟩
  unfold beginRotation beginInput
  rw [Prog.wp_bind]
  refine wp_rotationInput .nil fun r trace hcounts hvalid => ?_
  cases r with
  | error err => exact hquiet hcounts
  | ok now =>
    have hbinding := hvalid now rfl
    dsimp only
    rw [Prog.wp_bind]
    refine wp_call.mpr fun r more h => ?_
    obtain rfl : more = [] := h
    have hcounts₁ := hcounts.call (.resolve request.audienceID request.currentToken now) r
    cases r with
    | error err => exact hquiet hcounts₁
    | ok resolved =>
      dsimp only
      rw [Prog.wp_bind]
      refine wp_rotationContextError fun r answer => ?_
      have hcounts₂ := hcounts₁.call .contextErr answer
      cases r with
      | some cancellation => exact hquiet hcounts₂
      | none =>
        dsimp only
        split
        · exact hquiet hcounts₂
        rw [Prog.wp_bind]
        refine wp_call.mpr fun r more h => ?_
        obtain rfl : more = [] := h
        have hcounts₃ := hcounts₂.call (.inspectLifecycleState request.audienceID
          request.destination) r
        cases r with
        | error err => exact hquiet hcounts₃
        | ok snapshot =>
          dsimp only
          rw [Prog.wp_bind]
          refine wp_rotationContextError fun r answer => ?_
          have hcounts₄ := hcounts₃.call .contextErr answer
          cases r with
          | some cancellation => exact hquiet hcounts₄
          | none =>
            dsimp only
            cases hactive : rotationBeginActive snapshot request.audienceID request.destination with
            | error err => exact hquiet hcounts₄
            | ok oldActive =>
              exact wp_createAndActivate hbinding (rotationBeginActive_record hactive) hcounts₄

end DestinationTokenRotationParticipantService

end

/-! ## What a run leaves in the store -/

/-- A record inserted by one of the changes. -/
def Inserted (changes : List (Store × Store)) (id : DestinationTokenRecordID) : Prop :=
  ∃ change ∈ changes, change.1.row? id = none ∧ change.2.row? id ≠ none

/-- Others never touch a revoked row. -/
theorem revoked_of_others (h : Others s s') {row : TokenRow} (hrow : s.row? id = some row)
    (hst : row.state = .revoked) :
    s'.row? id = some row := by
  induction h with
  | refl => exact hrow
  | tail _ hm ih =>
    obtain ⟨m, hcommit⟩ := hm
    obtain ⟨_, _, _, _, hc⟩ := Mutation.commit_ok hcommit
    exact hc.frame ih (Or.inr hst)

/-- Others never change a verifier. -/
theorem verifier_of_others (h : Others s s') {row : TokenRow} (hrow : s.row? id = some row) :
    ∃ row', s'.row? id = some row' ∧ row'.verifier = row.verifier := by
  induction h with
  | refl => exact ⟨row, hrow, rfl⟩
  | tail _ hm ih =>
    obtain ⟨m, hcommit⟩ := hm
    obtain ⟨_, _, _, _, hc⟩ := Mutation.commit_ok hcommit
    obtain ⟨row', hrow', hv⟩ := ih
    obtain ⟨row'', hrow'', hv'⟩ := hc.verifier_eq hrow'
    exact ⟨row'', hrow'', hv'.trans hv⟩

/-- **The record a run inserts is that of its creation**, beside the active record it was
created for. -/
theorem inserted_by_create {mayKeep : Prop} {changes : List (Store × Store)}
    (h : ∀ change ∈ changes, ∃ m : Mutation, m.Leaves mayKeep change.1 change.2 ∧
      (m = .createRotationStagedToken command ∨ m.inserted = none)) (hid : Inserted changes id) :
    command.candidate.recordID = id ∧ ∃ change ∈ changes, change.1.row? id = none ∧
      ∃ active, change.1.row? command.expectedActiveRecordID = some active ∧
        active.state = .active ∧ active.destinationID = command.candidate.destination := by
  obtain ⟨change, hmem, hbefore, hafter⟩ := hid
  obtain ⟨m, hleaves, hm⟩ := h change hmem
  obtain ⟨candidate, hcandidate, rfl⟩ := hleaves.inserted hbefore hafter
  rcases hm with rfl | hm
  swap
  · rw [hm] at hcandidate
    cases hcandidate
  cases hcandidate
  rcases hleaves.createRotationStagedToken with heq | hcommit
  · rw [heq] at hafter
    exact absurd hbefore hafter
  · obtain ⟨active, hrow, hst, hd, -⟩ := Mutation.createRotationStagedToken_ok hcommit
    exact ⟨rfl, change, hmem, hbefore, active, hrow, hst, hd⟩

/-- A record that was inserted and aborted stays revoked, and no other row was touched. -/
theorem residue_of_aborted {now : Time} {b a b' a' : Store}
    (hcreate : (Mutation.createRotationStagedToken command).commit b = .ok a)
    (habort : (Mutation.abortStagedToken audience destination command.candidate.recordID
      now).commit b' = .ok a') (hhistory : History Others s [(b, a), (b', a')] s') :
    (∀ id, Inserted [(b, a), (b', a')] id → ∃ row, s'.row? id = some row ∧ row.state = .revoked) ∧
    ∀ change ∈ [(b, a), (b', a')], ∀ id, ¬ Inserted [(b, a), (b', a')] id →
      change.2.row? id = change.1.row? id := by
  obtain ⟨-, -, -, -, hfresh, hcreated⟩ := Mutation.createRotationStagedToken_ok hcreate
  obtain ⟨staged, -, -, haborted⟩ := Mutation.abortStagedToken_ok habort
  have hleaves : ∀ change ∈ [(b, a), (b', a')], ∃ m : Mutation, m.Leaves False change.1 change.2 ∧
      (m = .createRotationStagedToken command ∨ m.inserted = none) := by
    simp only [List.mem_cons, List.not_mem_nil, or_false, forall_eq_or_imp, forall_eq]
    exact ⟨⟨_, Or.inl hcreate, Or.inl rfl⟩, ⟨_, Or.inl habort, Or.inr rfl⟩⟩
  constructor
  · intro id hid
    rw [← (inserted_by_create hleaves hid).1]
    obtain _ | ⟨-, _ | ⟨-, ho | _⟩⟩ := hhistory
    exact ⟨_, revoked_of_others ho (by rw [haborted, if_pos rfl]) rfl, rfl⟩
  · intro change hmem id hid
    have hne : id ≠ command.candidate.recordID := by
      rintro rfl
      exact hid ⟨_, List.mem_cons_self, hfresh, by simp [hcreated]⟩
    simp only [List.mem_cons, List.not_mem_nil, or_false] at hmem
    rcases hmem with rfl | rfl
    · simp [hcreated, hne]
    · simp [haborted, hne]

/-! ## A sample -/

/-- A world in which everything answers, at one time. -/
def sampleWorld (now : Time) : (request : Outside) → request.Answer (GoError Empty)
  | .contextErr => (none : Option (GoError Empty))
  | .serviceClock => now
  | .participantClock => now
  | .newDestinationTokenRecordID => .ok (sampleID 4)
  | .entropy => .ok (Bytes.fill 32 7)
  | .destinationVerifierKey _ _ => .ok (List.replicate 32 1)
  | .resolve _ _ _ => .ok (sampleID 2)
  | .identifyRotationToken _ _ _ _ _ _ => .ok .new

theorem sampleKey_valid : ByteString.ascii "key" = [] ∨ validKeyID (ByteString.ascii "key") = true :=
  Or.inr (by decide)

/-- The verifier key of the samples. -/
def sampleKeyID : DestinationVerifierKeyID := ⟨ByteString.ascii "key", sampleKey_valid⟩

theorem sampleKeyID_present : ¬ sampleKeyID.IsZero := by decide

theorem sampleLifetime : 0 < 2 * day ∧ 2 * day ≤ tokenMaxLifetime := by decide

theorem sampleCleanup : 0 < day ∧ day ≤ tokenMaxCleanup := by decide

theorem sampleOutlives {overlap : Int} (h : 0 < overlap ∧ overlap ≤ tokenMaxOverlap) :
    overlap < 2 * day := by
  simp only [tokenMaxOverlap, day] at *
  omega

theorem sampleTimeout : (0 : Int) < 1000000000 ∧
    1000000000 ≤ maximumDestinationTokenRotationCompensationDuration := by decide

/-- A participant whose rotations overlap for some time. -/
def sampleParticipant (overlap : Int) (h : 0 < overlap ∧ overlap ≤ tokenMaxOverlap) :
    DestinationTokenRotationParticipantService where
  lifecycle := {
    activeKeyID := sampleKeyID
    tokenLifetime := 2 * day
    cleanupDuration := day
    overlapDuration := overlap
    key := sampleKeyID_present
    lifetime := sampleLifetime
    cleanup := sampleCleanup
    overlap := h
    outlives := sampleOutlives h }
  compensationTimeout := 1000000000
  timeout := sampleTimeout

/-- The request to replace the token of record 3. -/
def sampleRequest : DestinationTokenRotationRequest :=
  ⟨sampleID 1, sampleID 2, .fill 32 0⟩

/-- The keyed hash of the samples. -/
def sampleHmac (_ message : ByteString) : Bytes 32 :=
  ⟨(message ++ List.replicate 32 0).take 32, by simp⟩

/-- `BeginRotation` for the sample request, at one time and without faults: its calls and what it
returns, and the store after it. -/
def sampleBegin (service : DestinationTokenRotationParticipantService) (s : Store) (now : Time) :
    Except Stop (List (Sigma (ParticipantCall.Answer Empty)) ×
      DestinationTokenRotationAttempt × Option Sentinel) × (Store × Local Store LifecycleTx) :=
  ((DestinationTokenRotationParticipantService.beginRotation sampleRequest).implement
    (service.call sampleHmac)).eval (answerAll (sampleWorld now)) (s, ⟨none, []⟩)

theorem sampleBegin_traces {service : DestinationTokenRotationParticipantService} {now : Time}
    {trace : List (Sigma (ParticipantCall.Answer Empty))}
    {result : DestinationTokenRotationAttempt × Option Sentinel}
    (h : (sampleBegin service s now).1 = .ok (trace, result)) :
    (DestinationTokenRotationParticipantService.beginRotation sampleRequest).Traces
      ((lifecycleSpec (fun _ _ => True) False).clientStep (service.call sampleHmac))
      (s, ⟨none, []⟩) trace (result.1, result.2)
      ((sampleBegin service s now).2.1, (sampleBegin service s now).2.2) :=
  Prog.traces_of_eval_implement (answerAll_step (sampleWorld now) fun _ => trivial)
    (Prod.ext h rfl)

section
variable {ν : Type} [ErrorGraph ν] [DecidableEq ν] {world : World ν} {mayKeep : Prop}
  {hmac : KeyedHash} {service : DestinationTokenRotationParticipantService}
  {request : DestinationTokenRotationRequest} {s s' : Store} {l : Local Store LifecycleTx}
  {trace : List (Sigma (ParticipantCall.Answer ν))} {attempt : DestinationTokenRotationAttempt}
  {err : Option Sentinel}

open DestinationTokenRotationParticipantService

theorem begun_of_traces
    (h : (beginRotation request).Traces ((lifecycleSpec world mayKeep).clientStep (service.call hmac))
      (s, ⟨none, []⟩) trace (attempt, err) (s', l)) :
    History Others s l.own s' ∧
      BegunOnce world mayKeep hmac service.lifecycle request trace (attempt, err) l.own := by
  obtain ⟨changes, rfl, hhistory, hbegun⟩ :=
    Ends.client (P := BegunOnce world mayKeep hmac service.lifecycle request)
      lifecycle_interference (participant_contracts service hmac) wp_beginRotation h
  exact ⟨hhistory, hbegun⟩

/-- **`BeginRotation` tells the truth when it succeeds, and reveals nothing when it fails.**
Without an error, one of the run's own changes has activated the new record and retired
the old one, at the time and with the deadline that are reported, to the microsecond.  The
clock was read last between the two.  The verifier of the new row is that of the token,
which is not the current one.  With an error there is no token and no time. -/
theorem beginRotation_tells_the_truth
    (h : (beginRotation request).Traces ((lifecycleSpec world mayKeep).clientStep (service.call hmac))
      (s, ⟨none, []⟩) trace (attempt, err) (s', l)) :
    (err = none → attempt.handle.audienceID = request.audienceID ∧
      attempt.handle.destination = request.destination ∧
      ∃ b a staged active new old, (b, a) ∈ l.own ∧
        b.row? attempt.handle.newActiveRecordID = some staged ∧ staged.state = .staged ∧
        b.row? attempt.handle.oldRetiringRecordID = some active ∧ active.state = .active ∧
        a.row? attempt.handle.newActiveRecordID = some new ∧ new.state = .active ∧
        a.row? attempt.handle.oldRetiringRecordID = some old ∧ old.state = .retiring ∧
        new.activatedAt.map Timestamp.toTime = some attempt.activatedAt ∧
        old.retirementStartedAt.map Timestamp.toTime = some attempt.activatedAt ∧
        old.retirementOverlapDeadline.map Timestamp.toTime = some attempt.retirementDeadline ∧
        attempt.activatedAt < attempt.retirementDeadline ∧
        attempt.retirementDeadline.nanos - attempt.activatedAt.nanos ≤ day ∧
        (∃ confirmedAt, lastReading trace = some confirmedAt ∧
          attempt.activatedAt ≤ confirmedAt ∧ confirmedAt < attempt.retirementDeadline) ∧
        ∃ raw key verifier, parseOpaqueDestinationToken attempt.newToken = .ok raw ∧
          raw ≠ request.currentToken ∧
          world (.destinationVerifierKey request.audienceID service.lifecycle.activeKeyID)
            (.ok key) ∧
          computeDestinationTokenVerifier hmac request.audienceID raw key = .ok verifier ∧
          new.verifier = verifier.bytes.toList) ∧
    (err ≠ none → attempt.newToken = [] ∧ attempt.activatedAt = 0 ∧
      attempt.retirementDeadline = 0) := by
  obtain ⟨hhistory, hbegun, -⟩ := begun_of_traces h
  generalize l.own = own at hbegun hhistory
  cases hbegun with
  | quiet => exact ⟨nofun, fun _ => ⟨rfl, rfl, rfl⟩⟩
  | aborted => exact ⟨nofun, fun _ => ⟨rfl, rfl, rfl⟩⟩
  | reported => exact ⟨nofun, fun _ => ⟨rfl, rfl, rfl⟩⟩
  | @confirmed oldID token command receipt reading b a b' a' hstaged hcreate hactivate hlast hat =>
    refine ⟨fun _ => ⟨rfl, rfl, ?_⟩, fun h => absurd rfl h⟩
    obtain ⟨⟨-, hact, hdead, hlt, hbound⟩, -, hge, hbefore⟩ := hat
    -- the two times are whole microseconds, and stored as they are
    have hstored : ∀ {t : Time}, t = canonicalDestinationLifecycleTimestamp t →
        (Timestamp.ofTime t).toTime = t := fun ht => by
      rw [← Time.truncateMicrosecond_eq]
      exact ht.symm
    obtain ⟨staged, active, hs, hss, ha, has, hnew, hold, -⟩ :=
      Mutation.activateRotation_ok hactivate
    obtain ⟨raw, key, hparse, hne, hkey, hverifier⟩ := hstaged.verifier
    refine ⟨b', a', staged, active, _, _, by simp, hs, hss, ha, has, hnew, rfl, hold, rfl,
      congrArg some (hstored hact), congrArg some (hstored hact), congrArg some (hstored hdead),
      hlt, (Time.sub_le (by decide) (by decide)).mp hbound, ⟨reading, hlast, hge, hbefore⟩,
      raw, key, command.candidate.verifier, hparse, hne _ rfl, hkey, hverifier, ?_⟩
    -- others have kept the verifier between the creation and the activation
    obtain ⟨-, -, -, -, -, hcreated⟩ := Mutation.createRotationStagedToken_ok hcreate
    obtain _ | ⟨-, _ | ⟨ho, -⟩⟩ := hhistory
    obtain ⟨row, hrow, hv⟩ := verifier_of_others ho
      (show a.row? command.candidate.recordID = some command.candidate.row by
        rw [hcreated, if_pos rfl])
    rw [show b'.row? command.candidate.recordID = some staged from hs, Option.some.injEq] at hrow
    rw [Change.apply_verifier, hrow, hv]
    rfl

theorem sampleBegin_tells_the_truth :
    let run := sampleBegin (sampleParticipant 10000000000 (by decide))
      (sampleAfter (sampleRotation.take 2)) (sampleTime 30)
    ∃ trace attempt, run.1 = .ok (trace, attempt, none) ∧ attempt.activatedAt = sampleTime 30 ∧
      attempt.retirementDeadline = sampleTime 40 ∧
      run.2.1.tokens.map (fun row => row.state) = [.retiring, .active] ∧
      attempt.activatedAt < attempt.retirementDeadline := by
  intro run
  have hrun : (run.1.toOption.map (fun last =>
      (last.2.2, last.2.1.activatedAt, last.2.1.retirementDeadline)),
      run.2.1.tokens.map (fun row => row.state)) =
      (some (none, sampleTime 30, sampleTime 40), [.retiring, .active]) := by
    decide +kernel
  obtain ⟨hlast, htokens⟩ := Prod.mk.inj hrun
  obtain ⟨⟨trace, attempt, err⟩, hended, hvalues⟩ := Except.exists_of_toOption_map hlast
  obtain ⟨rfl, hvalues⟩ := Prod.mk.inj hvalues
  obtain ⟨hact, hdead⟩ := Prod.mk.inj hvalues
  obtain ⟨-, -, _, _, _, _, _, _, -, -, -, -, -, -, -, -, -, -, -, -, hlt, -⟩ :=
    (beginRotation_tells_the_truth (sampleBegin_traces hended)).1 rfl
  exact ⟨trace, attempt, hended, hact, hdead, htokens, hlt⟩

end

end OncallGateway
