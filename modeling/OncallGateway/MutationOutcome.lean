import OncallGateway.LifecycleTransaction

/-! # The outcome of a mutation -/

namespace OncallGateway
open Session Session.Spec

variable {ν : Type} [ErrorGraph ν] {world : World ν} {mayKeep : Prop}

/-- What others do beside a call, when it holds no lock. -/
abbrev Others : Store → Store → Prop :=
  Relation.ReflTransGen fun s s' => ∃ m : Mutation, m.commit s = .ok s'

variable {s s' : Store} {id : DestinationID} {own : List (Store × Store)}
  {statements : List Statement} {t : LifecycleTx}

omit [ErrorGraph ν] in
theorem others_of_rely {t : Option LifecycleTx} (h : (lifecycleSpec world mayKeep).rely t s s') :
    Others s s' :=
  Relation.ReflTransGen.mono (fun _ _ ⟨m, hm, _⟩ => ⟨m, hm⟩) _ _ h

omit [ErrorGraph ν] in
theorem lifecycle_interference : (lifecycleSpec world mayKeep).Interference Others where
  refl _ := .refl
  trans _ _ _ := Relation.ReflTransGen.trans
  rely _ _ _ := others_of_rely

section
variable {access : Access}

omit [ErrorGraph ν] in
theorem wp_queryDestination {lock : Bool}
    {Q : RowAnswer (GoError ν) LifecycleDestinationRecord → Store × Local Store LifecycleTx → Prop} :
    (queryDestination lock id).wp (lifecycleSpec world mayKeep).environment Q
        (s, ⟨some (access, t), own⟩) ↔
      ∀ s', (lifecycleSpec world mayKeep).rely (some t) s s' → ∀ r t',
        lifecycleSend s' access t (.destination lock id) r t' →
        Q r (s', ⟨some (access, t'), own⟩) :=
  Spec.wp_send

omit [ErrorGraph ν] in
theorem wp_queryTokens {lock : Bool}
    {Q : RowsAnswer (GoError ν) LifecycleTokenRecord → Store × Local Store LifecycleTx → Prop} :
    (queryTokens lock id).wp (lifecycleSpec world mayKeep).environment Q
        (s, ⟨some (access, t), own⟩) ↔
      ∀ s', (lifecycleSpec world mayKeep).rely (some t) s s' → ∀ r t',
        lifecycleSend s' access t (.tokens lock id) r t' → Q r (s', ⟨some (access, t'), own⟩) :=
  Spec.wp_send

omit [ErrorGraph ν] in
theorem wp_exec {statement : Statement}
    {Q : Except (GoError ν) Nat → Store × Local Store LifecycleTx → Prop} :
    (exec statement).wp (lifecycleSpec world mayKeep).environment Q (s, ⟨some (access, t), own⟩) ↔
      ∀ s', (lifecycleSpec world mayKeep).rely (some t) s s' → ∀ r t',
        lifecycleSend s' access t (.exec statement) r t' → Q r (s', ⟨some (access, t'), own⟩) :=
  Spec.wp_send

end

variable {audience : GatewayAudienceID} {now : Time}

/-- Rows that were delivered completely, and collected, are the rows of the query. -/
theorem collectScans_ok {destination : Destination} {terminal : Option (GoError ν)}
    {rows : List TokenRow} {scans : List (Except (GoError ν) LifecycleTokenRecord)}
    {tokens read : List DestinationToken} (hd : Delivered rows (.rows scans terminal))
    (h : collectScans audience destination terminal scans tokens = .ok read) :
    collectTokens audience destination (rows.map TokenRow.record) tokens = .ok read := by
  obtain ⟨delivered, rest, rfl, hscans, hend⟩ := hd
  induction hscans generalizing tokens with
  | nil =>
    cases terminal with
    | some err => simp [collectScans] at h
    | none =>
      rw [hend rfl]
      simpa [collectScans, collectTokens] using h
  | cons hrow _ ih =>
    rename_i row scan delivered scans hrest
    simp only [collectScans] at h
    split at h
    · cases h
    rename_i hlen
    cases scan with
    | error err =>
      simp only at h
      split at h <;> cases h
    | ok record =>
      obtain rfl := hrow record rfl
      simp only at h
      cases ht : row.record.token audience destination with
      | error e => simp [ht] at h
      | ok token =>
        simp only [ht] at h
        simp only [List.cons_append, List.map_cons, collectTokens, Except.bind_eq_ok,
          Except.refuseIf_eq_ok, exists_const, Except.relabel_eq_ok]
        exact ⟨hlen, token, ht, ih h⟩

theorem pending_queried {access : Access} {lock : Option DestinationID} :
    (t.queried s access lock).pending = t.pending := by
  cases access <;> rfl

/-- `loadDestinationLifecycleState` as the first queries of a transaction: it returns the
state of the rows seen by the second query, if the first one has seen the same destination. -/
theorem wp_load {access : Access} {lock : Bool}
    {Q : Except (GoError ν) LifecycleLockedState → Store × Local Store LifecycleTx → Prop}
    (hQ : ∀ r s₁ s' t₁ t, Others s s₁ → Others s₁ s' → t.pending = [] →
      (∀ state, r = .ok state →
        t₁ = (lifecycleSpec world mayKeep).initial.queried s₁ access
          (if lock then some id else none) ∧
        t = t₁.queried s' access t₁.lock ∧ (lifecycleSpec world mayKeep).rely (some t₁) s₁ s' ∧
        ((t₁.seen s').destination? id = s₁.destination? id →
          (t₁.seen s').loadState audience id now = .ok state)) →
      Q r (s', ⟨some (access, t), own⟩)) :
    (loadDestinationLifecycleState audience id now lock : LifecycleProg ν _).wp
      (lifecycleSpec world mayKeep).environment Q
      (s, ⟨some (access, (lifecycleSpec world mayKeep).initial), own⟩) := by
  unfold loadDestinationLifecycleState
  rw [Prog.wp_bind]
  refine wp_queryDestination.mpr fun s₁ h₁ r t₁ hsend => ?_
  have ho₁ := others_of_rely h₁
  have hfailed (err) (hp : t₁.pending = []) := hQ (.error err) s₁ s₁ t₁ t₁ ho₁ .refl hp (by simp)
  match r, hsend with
  | .absent, hsend =>
    refine hfailed _ ?_
    rcases hsend with rfl | rfl <;> exact pending_queried
  | .scanned (.error err), hsend =>
    have hp : t₁.pending = [] := by rcases hsend with rfl | rfl <;> exact pending_queried
    dsimp only
    split
    · exact hfailed _ hp
    · exact hfailed _ hp
  | .scanned (.ok record), hsend =>
    obtain ⟨⟨row, hrow, rfl⟩, ht₁⟩ := hsend
    have hp : t₁.pending = [] := ht₁ ▸ pending_queried
    dsimp only
    cases hdest : row.record.destination audience id now with
    | error e => exact hfailed _ hp
    | ok destination =>
      dsimp only
      rw [Prog.wp_bind]
      refine wp_queryTokens.mpr fun s₂ h₂ r₂ t₂ hsend₂ => ?_
      obtain ⟨hdeliver, rfl⟩ := hsend₂
      have hend (r) := hQ r s₁ s₂ t₁ (t₁.queried s₂ access t₁.lock) ho₁ (others_of_rely h₂)
        (pending_queried.trans hp)
      match r₂, hdeliver with
      | .failed err terminal, _ => exact hend _ (by simp)
      | .absent, _ => exact hend _ (by simp)
      | .rows scans terminal, hdeliver =>
        dsimp only
        cases hcollect : collectScans audience destination terminal scans [] with
        | error err => exact hend _ (by simp)
        | ok tokens =>
          dsimp only
          cases hsnap : newDestinationLifecycleSnapshot destination tokens now with
          | error err => exact hend _ (by simp)
          | ok snapshot =>
            refine hend _ fun state hstate => ⟨ht₁, rfl, h₂, fun hsame => ?_⟩
            cases hstate
            exact Store.loadState_of_collect (hsame.trans hrow) hdest
              (collectScans_ok hdeliver hcollect) hsnap

/-- **What `loadDestinationLifecycleState` returns under its lock** is the state of the
store, and it keeps to be. -/
theorem wp_load_lock
    {Q : Except (GoError ν) LifecycleLockedState → Store × Local Store LifecycleTx → Prop}
    (hQ : ∀ r s' t, Others s s' → t.pending = [] →
      (∀ state, r = .ok state → t.lock = some id ∧ s'.loadState audience id now = .ok state) →
      Q r (s', ⟨some (.readWrite, t), own⟩)) :
    (loadDestinationLifecycleState audience id now true : LifecycleProg ν _).wp
      (lifecycleSpec world mayKeep).environment Q
      (s, ⟨some (.readWrite, (lifecycleSpec world mayKeep).initial), own⟩) := by
  refine wp_load fun r s₁ s₂ t₁ t h₁ h₂ hp hload => hQ _ _ _ (h₁.trans h₂) hp fun state hstate => ?_
  obtain ⟨rfl, rfl, hrely, hload⟩ := hload state hstate
  -- the row was read under the lock, and the tokens after it
  exact ⟨rfl, hload (congrArg _ (agree_of_rely rfl hrely).1)⟩

/-! ## The transaction of a mutation -/

theorem runStatements_append {statements' : List Statement} :
    runStatements (statements ++ statements') s = .ok s' ↔
      ∃ s₁, runStatements statements s = .ok s₁ ∧ runStatements statements' s₁ = .ok s' := by
  induction statements generalizing s with
  | nil => simp [runStatements_nil]
  | cons statement statements ih =>
    simp only [List.cons_append, runStatements_cons, ih]
    constructor
    · rintro ⟨s₁, hexec, s₂, h₁, h₂⟩
      exact ⟨s₂, ⟨s₁, hexec, h₁⟩, h₂⟩
    · rintro ⟨s₂, ⟨s₁, hexec, h₁⟩, h₂⟩
      exact ⟨s₁, hexec, s₂, h₁, h₂⟩

/-- The pending statements of a transaction have affected one row each. -/
def LifecycleTx.Sent (t : LifecycleTx) (id : DestinationID) (statements : List Statement)
    (s : Store) : Prop :=
  t.lock = some id ∧ t.pending = statements ∧
    ∃ s₀ w₀, s₀.rowsOf id = s.rowsOf id ∧ runStatements statements s₀ = .ok w₀

theorem LifecycleTx.Sent.agree (h : t.Sent id statements s) (hagree : s.Agree id s') :
    t.Sent id statements s' := by
  obtain ⟨hlock, hpending, s₀, w₀, hrows, hrun⟩ := h
  exact ⟨hlock, hpending, s₀, w₀, hrows.trans hagree.2.symm, hrun⟩

/-- What is committed then, is what the statements do. -/
theorem LifecycleTx.Sent.result (h : t.Sent id statements s)
    (hd : ∀ statement ∈ statements, statement.destination = id)
    (hres : applyStatements t.pending s = .ok s') : runStatements statements s = .ok s' := by
  obtain ⟨-, hpending, s₀, w₀, hrows, hrun⟩ := h
  rw [hpending] at hres
  exact runStatements_of_apply hd hrows hrun hres

/-- The statements of a mutation: when all were sent, each has affected one row. -/
theorem wp_sendStatements {done : List Statement}
    {Q : Option (GoError ν) → Store × Local Store LifecycleTx → Prop}
    (hd : ∀ statement ∈ done ++ statements, statement.destination = id) (hsent : t.Sent id done s)
    (hQ : ∀ r s' t', Others s s' → s.Agree id s' →
      t'.lock = some id ∧ t'.pending <+: done ++ statements →
      (r = none → t'.Sent id (done ++ statements) s') →
      Q r (s', ⟨some (.readWrite, t'), own⟩)) :
    (sendStatements statements).wp (lifecycleSpec world mayKeep).environment Q
      (s, ⟨some (.readWrite, t), own⟩) := by
  induction statements generalizing done s t with
  | nil =>
    refine hQ none s t .refl .refl ⟨hsent.1, ?_⟩ fun _ => by simpa using hsent
    rw [hsent.2.1]
    exact List.prefix_append _ _
  | cons statement statements ih =>
    have hbefore : done <+: done ++ statement :: statements := List.prefix_append _ _
    have hthis : done ++ [statement] <+: done ++ statement :: statements := ⟨statements, by simp⟩
    unfold sendStatements
    rw [Prog.wp_bind]
    refine wp_exec.mpr fun s₁ h₁ r t₁ hsend => ?_
    have ho := others_of_rely h₁
    have hagree : s.Agree id s₁ := agree_of_rely (t := some t) hsent.1 h₁
    match r, hsend with
    | .error err, hsend =>
      refine hQ _ _ _ ho hagree ?_ (by simp)
      rcases hsend with rfl | rfl
      · exact ⟨hsent.1, hsent.2.1 ▸ hbefore⟩
      · exact ⟨hsent.1, hsent.2.1 ▸ hthis⟩
    | .ok affected, ⟨w, w', happly, hexec, ht₁⟩ =>
      dsimp only
      cases hone : lifecycleRowsAffected affected with
      | error kind =>
        refine hQ _ _ _ ho hagree ?_ (by simp)
        rw [ht₁]
        exact ⟨hsent.1, hsent.2.1 ▸ hthis⟩
      | ok u =>
        have hcount : affected = 1 := lifecycleRowsAffected_eq_ok.mp hone
        have hrun : runStatements (done ++ [statement]) s₁ = .ok w' := by
          refine runStatements_append.mpr ⟨w, (hsent.agree hagree).result
            (fun st hst => hd st (List.mem_append_left _ hst)) happly, ?_⟩
          exact runStatements_cons.mpr ⟨w', hcount ▸ hexec, runStatements_nil.mpr rfl⟩
        have hd' : ∀ st ∈ (done ++ [statement]) ++ statements, st.destination = id := by
          simpa using hd
        refine ih hd' ⟨?_, ?_, s₁, w', rfl, hrun⟩ ?_
        · rw [ht₁]
          exact hsent.1
        · rw [ht₁, ← hsent.2.1]
        · intro r s' t' ho' hagree' hpending hr
          refine hQ r s' t' (ho.trans ho') (hagree.trans hagree') (by simpa using hpending)
            fun hnone => ?_
          simpa using hr hnone

/-- The mutation would send these statements. -/
def Mutation.Planned (m : Mutation) (s : Store) (statements : List Statement) : Prop :=
  m.checkInput = .ok () ∧ ¬ (m.audience.IsZero ∨ m.destination.IsZero ∨ m.now = 0) ∧
    ∃ state, s.loadState m.audience m.destination m.now = .ok state ∧
      m.plan state = .ok statements

/-- What a transaction that was given up may have left, if it was kept: nothing, or what
the first of its statements do. -/
def Mutation.Remnant (m : Mutation) (b a : Store) : Prop :=
  a = b ∨ ∃ statements pending, m.Planned b statements ∧ pending <+: statements ∧
    applyStatements pending b = .ok a

/-- What a transaction of the mutation may have done to the store: what it is meant to do,
or what is left of it. -/
def Mutation.Leaves (mayKeep : Prop) (m : Mutation) (b a : Store) : Prop :=
  m.commit b = .ok a ∨ mayKeep ∧ m.Remnant b a

/-- **The outcomes of a mutation**: with the error it returns, the changes it has made. -/
inductive Outcome (mayKeep : Prop) (m : Mutation) :
    Option (GoError ν) → List (Store × Store) → Prop
  | committed {b a : Store} : m.commit b = .ok a → Outcome mayKeep m none [(b, a)]
  | refused {err : GoError ν} : Outcome mayKeep m (some err) []
  | unknown {operation : String} {b a : Store} : m.Leaves mayKeep b a →
      Outcome mayKeep m (some (.safe .errDestinationLifecycleOutcomeUnknown operation)) [(b, a)]

section
variable {m : Mutation}

omit [ErrorGraph ν] in
theorem ended_refused {err : GoError ν} (h : Others s s') :
    Ended Others s own (Outcome mayKeep m) (some err)
      ((s', ⟨none, own⟩) : Store × Local Store LifecycleTx) :=
  ⟨[], by simp, .nil h, .refused⟩

variable {s₀ : Store}

omit [ErrorGraph ν] in
/-- Hand the connection back and report an error, when nothing was changed. -/
theorem wp_handBack_refused {err : GoError ν} (destroyed : Bool) (h : Others s₀ s) :
    (do Session.handBack destroyed; return some err : LifecycleProg ν (Option (GoError ν))).wp
      (lifecycleSpec world mayKeep).environment (Ended Others s₀ own (Outcome mayKeep m))
      (s, ⟨none, own⟩) := by
  rw [Prog.wp_bind]
  exact Spec.wp_handBack.mpr fun s₁ h₁ => ended_refused (h.trans (others_of_rely h₁))

/-- The call has ended so, once the deferred functions have run. -/
def Closing (world : World ν) (mayKeep : Prop) (m : Mutation) (s₀ : Store)
    (own : List (Store × Store)) (outcome : Option (GoError ν) × Cleanup)
    (q : Store × Local Store LifecycleTx) : Prop :=
  (close (rollbackOpen (some
      (.safe .errDestinationLifecycleOutcomeUnknown "lifecycle mutation cleanup"))) outcome).wp
    (lifecycleSpec world mayKeep).environment (Ended Others s₀ own (Outcome mayKeep m)) q

/-- A rollback that fails leaves the outcome unknown; otherwise nothing has changed. -/
theorem wp_rollbackLifecycleMutation {cause : GoError ν} {t : LifecycleTx} (ho : Others s₀ s)
    (hkept : ∀ s', (lifecycleSpec world mayKeep).rely (some t) s s' → ∀ s'',
      applyStatements t.pending s' = .ok s'' → m.Remnant s' s'') :
    (rollbackLifecycleMutation cause ⟨true, true⟩).wp (lifecycleSpec world mayKeep).environment
      (Closing world mayKeep m s₀ own) (s, ⟨some (.readWrite, t), own⟩) := by
  unfold rollbackLifecycleMutation rollbackLifecycle
  rw [Prog.wp_bind]
  refine Spec.wp_rollback.mpr fun s₁ h₁ => ⟨fun r => ?_, fun hk e s₂ hres => ?_⟩
  · have ho₁ := ho.trans (others_of_rely h₁)
    cases r with
    | some err => exact wp_handBack_refused true ho₁
    | none => exact wp_close (wp_handBack_refused _ ho₁)
  · refine Spec.wp_destroy.mpr fun s₃ h₃ =>
      ⟨[(s₁, s₂)], rfl, ?_, .unknown (Or.inr ⟨hk, hkept s₁ h₁ s₂ hres⟩)⟩
    exact .cons (ho.trans (others_of_rely h₁)) (.nil (others_of_rely h₃))

omit [ErrorGraph ν] in
/-- Before the first statement there is nothing to keep. -/
theorem remnant_of_pending_nil {t : LifecycleTx} (h : t.pending = []) (s' : Store)
    (_ : (lifecycleSpec world mayKeep).rely (some t) s s') (s'' : Store)
    (hres : applyStatements t.pending s' = .ok s'') : m.Remnant s' s'' := by
  rw [h] at hres
  cases hres
  exact Or.inl rfl

omit [ErrorGraph ν] in
/-- The commit of a transaction that has sent the statements of its mutation. -/
theorem wp_commitLifecycleMutation {t : LifecycleTx} {state : LifecycleLockedState}
    (ho : Others s₀ s) (hinput : m.checkInput = .ok ())
    (hzero : ¬ (m.audience.IsZero ∨ m.destination.IsZero ∨ m.now = 0))
    (hload : s.loadState m.audience m.destination m.now = .ok state)
    (hplan : m.plan state = .ok statements) (hsent : t.Sent m.destination statements s) :
    (commitLifecycleMutation ⟨true, true⟩ : LifecycleProg ν _).wp
      (lifecycleSpec world mayKeep).environment (Closing world mayKeep m s₀ own)
      (s, ⟨some (.readWrite, t), own⟩) := by
  unfold commitLifecycleMutation
  rw [Prog.wp_bind]
  refine Spec.wp_commit.mpr fun s₁ h₁ => ⟨fun e => ?_, fun s₂ hres => ?_⟩
  · have ho₁ := ho.trans (others_of_rely h₁)
    dsimp only
    split
    · exact wp_handBack_refused false ho₁
    · exact wp_handBack_refused true ho₁
  · -- what others did while the lock was held does not concern this destination
    have hagree : s.Agree m.destination s₁ := agree_of_rely (t := some t) hsent.1 h₁
    have hcommit : m.commit s₁ = .ok s₂ := Mutation.commit_eq_ok.mpr ⟨hinput, hzero, state,
      statements, (hagree.loadState _ _).trans hload, hplan,
      (hsent.agree hagree).result (Mutation.plan_destination hplan) hres⟩
    have ho₁ := ho.trans (others_of_rely h₁)
    refine ⟨⟨m, hcommit, hsent.1⟩, ?_, fun e he => ?_⟩
    · exact Spec.wp_release.mpr fun s₃ h₃ =>
        ⟨_, rfl, .cons ho₁ (.nil (others_of_rely h₃)), .committed hcommit⟩
    · -- the error is not the one that tells of a rollback
      have hne : e.isSentinel .pgxErrTxCommitRollback = false := by
        refine Bool.eq_false_iff.mpr fun h => he ?_
        rw [GoError.isSentinel_iff.mp h]
        rfl
      dsimp only
      rw [hne, if_neg Bool.noConfusion]
      exact Spec.wp_destroy.mpr fun s₃ h₃ =>
        ⟨_, rfl, .cons ho₁ (.nil (others_of_rely h₃)), .unknown (Or.inl hcommit)⟩

/-- A mutation whose transaction is open. -/
theorem wp_mutateLifecycle (ho : Others s₀ s) (hinput : m.checkInput = .ok ())
    (hzero : ¬ (m.audience.IsZero ∨ m.destination.IsZero ∨ m.now = 0)) :
    (mutateLifecycle m ⟨true, true⟩).wp (lifecycleSpec world mayKeep).environment
      (Closing world mayKeep m s₀ own)
      (s, ⟨some (.readWrite, (lifecycleSpec world mayKeep).initial), own⟩) := by
  unfold mutateLifecycle
  rw [Prog.wp_bind]
  refine wp_load_lock fun r s₁ t h₁ hpending hstate => ?_
  have ho₁ := ho.trans h₁
  cases r with
  | error cause =>
    exact wp_rollbackLifecycleMutation ho₁ (remnant_of_pending_nil hpending)
  | ok state =>
    obtain ⟨hlock, hload⟩ := hstate state rfl
    dsimp only
    rw [Prog.wp_bind]
    unfold lifecycleMutation
    cases hplan : m.plan state with
    | error kind =>
      exact wp_rollbackLifecycleMutation ho₁ (remnant_of_pending_nil hpending)
    | ok statements =>
      dsimp only
      rw [Prog.wp_bind]
      have hsent : t.Sent m.destination [] s₁ := ⟨hlock, hpending, s₁, s₁, rfl, rfl⟩
      refine wp_sendStatements (Mutation.plan_destination hplan) hsent
        fun r s₂ t₂ h₂ hagree htx hr => ?_
      have ho₂ := ho₁.trans h₂
      have hload₂ := (hagree.loadState m.audience m.now).trans hload
      have hkept : ∀ s', (lifecycleSpec world mayKeep).rely (some t₂) s₂ s' → ∀ s'',
          applyStatements t₂.pending s' = .ok s'' → m.Remnant s' s'' := fun s' h' s'' hres => by
        have hagree' : s₂.Agree m.destination s' := agree_of_rely (t := some t₂) htx.1 h'
        exact Or.inr ⟨statements, t₂.pending, ⟨hinput, hzero, state,
          (hagree'.loadState _ _).trans hload₂, hplan⟩, htx.2, hres⟩
      rw [Prog.wp_pure]
      cases r with
      | some cause =>
        exact wp_rollbackLifecycleMutation ho₂ hkept
      | none =>
        cases hempty : statements.isEmpty with
        | true =>
          exact wp_rollbackLifecycleMutation ho₂ hkept
        | false => exact wp_commitLifecycleMutation ho₂ hinput hzero hload₂ hplan (hr rfl)

/-- The check of the arguments and the context. -/
theorem wp_validateLifecycleRepositoryInput
    {Q : Option (GoError ν) → Store × Local Store LifecycleTx → Prop} {l : Local Store LifecycleTx}
    (hinvalid : ∀ err s', Others s s' → Q (some err) (s', l))
    (hvalid : ¬ (audience.IsZero ∨ id.IsZero ∨ now = 0) → ∀ s', Others s s' → Q none (s', l)) :
    (validateLifecycleRepositoryInput audience id now).wp (lifecycleSpec world mayKeep).environment
      Q (s, l) := by
  unfold validateLifecycleRepositoryInput
  split
  · exact hinvalid _ s .refl
  rename_i hzero
  rw [Prog.wp_bind]
  refine Spec.wp_ask.mpr fun s₁ h₁ r _ => ?_
  split
  · exact hinvalid _ s₁ (others_of_rely h₁)
  · exact hvalid hzero s₁ (others_of_rely h₁)

/-- **Every outcome of a mutation of the repository.** -/
theorem ends_run : (lifecycleSpec world mayKeep).Ends Others m.run (Outcome mayKeep m) := by
  intro s own
  unfold Mutation.run
  cases hinput : m.checkInput with
  | error operation => exact ended_refused .refl
  | ok u =>
    dsimp only
    unfold runLifecycleMutation
    rw [Prog.wp_bind]
    refine wp_validateLifecycleRepositoryInput (fun _ _ => ended_refused) fun hzero s₁ ho₁ => ?_
    dsimp only
    rw [Prog.wp_bind]
    refine Spec.wp_acquire.mpr fun s₂ h₂ r₂ => ?_
    have ho₂ := ho₁.trans (others_of_rely h₂)
    cases r₂ with
    | failed err connection =>
      cases connection with
      | true =>
        simp only [if_true]
        rw [Prog.wp_bind]
        exact Spec.wp_destroy.mpr fun s₃ h₃ => ended_refused (ho₂.trans (others_of_rely h₃))
      | false => exact ended_refused ho₂
    | absent => exact ended_refused ho₂
    | opened =>
      dsimp only
      rw [Prog.wp_bind, mutateOnConnection, Prog.wp_bind]
      refine Spec.wp_begin.mpr fun s₃ h₃ => ?_
      have ho₃ := ho₂.trans (others_of_rely h₃)
      exact ⟨fun err value => wp_close (wp_handBack_refused _ ho₃), wp_handBack_refused true ho₃,
        wp_mutateLifecycle ho₃ hinput hzero⟩

end

end OncallGateway
