import OncallGateway.AttemptSnapshot
import OncallGateway.MutationOutcome
import OncallGateway.RotationParticipant
import OncallGateway.StoreInvariant

/-! # The verdict on a mutation

An error of the repository passes through three classifications before a coordinator
acts on it: the repository's own, that of the lifecycle service, and that of the
participant.  `Verdict` is what can be relied on after the second.  Without an error the
mutation was committed; `ErrDestinationLifecycleOutcomeUnknown` says nothing; **every
other error means that nothing was changed**.
-/

namespace OncallGateway
open Session Session.Spec

variable {ν : Type} [ErrorGraph ν] {world : World ν} {mayKeep : Prop}

/-- The error the service reports for one of the mutations `M`, and the changes made. -/
inductive Verdict (mayKeep : Prop) (M : Mutation → Prop) :
    Option Sentinel → List (Store × Store) → Prop
  | committed {m : Mutation} {b a : Store} : M m → m.commit b = .ok a →
      Verdict mayKeep M none [(b, a)]
  | refused {kind : Sentinel} : Verdict mayKeep M (some kind) []
  | unknown {m : Mutation} {b a : Store} : M m → m.Leaves mayKeep b a →
      Verdict mayKeep M (some .errDestinationLifecycleOutcomeUnknown) [(b, a)]

theorem classifyDestinationLifecycleError_some (err : GoError ν) :
    ∃ kind, classifyDestinationLifecycleError (some err) = some kind := by
  simp only [classifyDestinationLifecycleError]
  split_ifs <;> exact ⟨_, rfl⟩

@[simp] theorem classifyDestinationLifecycleError_unknown (operation : String) :
    classifyDestinationLifecycleError
        (some (.safe .errDestinationLifecycleOutcomeUnknown operation : GoError ν)) =
      some .errDestinationLifecycleOutcomeUnknown := by
  simp [classifyDestinationLifecycleError]

/-- **The service's classification of every outcome of the repository.** -/
theorem Outcome.verdict {m : Mutation} {M : Mutation → Prop} {err : Option (GoError ν)}
    {changes : List (Store × Store)} (h : Outcome mayKeep m err changes) (hm : M m) :
    Verdict mayKeep M (classifyDestinationLifecycleError err) changes := by
  cases h with
  | committed hcommit => exact .committed hm hcommit
  | @refused err =>
    obtain ⟨kind, hkind⟩ := classifyDestinationLifecycleError_some err
    rw [hkind]
    exact .refused
  | unknown hkept =>
    rw [classifyDestinationLifecycleError_unknown]
    exact .unknown hm hkept

namespace Verdict
variable {M M' : Mutation → Prop} {changes : List (Store × Store)}

theorem mono {err : Option Sentinel} (h : Verdict mayKeep M err changes) (hM : ∀ m, M m → M' m) :
    Verdict mayKeep M' err changes := by
  cases h with
  | committed hm hcommit => exact .committed (hM _ hm) hcommit
  | refused => exact .refused
  | unknown hm hkept => exact .unknown (hM _ hm) hkept

theorem of_none (h : Verdict mayKeep M none changes) :
    ∃ m b a, M m ∧ changes = [(b, a)] ∧ m.commit b = .ok a := by
  cases h with
  | committed hm hcommit => exact ⟨_, _, _, hm, rfl, hcommit⟩

/-- An error that is certain. -/
theorem of_certain {kind : Sentinel} (h : Verdict mayKeep M (some kind) changes)
    (hkind : kind ≠ .errDestinationLifecycleOutcomeUnknown) : changes = [] := by
  cases h with
  | refused => rfl
  | unknown => exact absurd rfl hkind

end Verdict

/-! ## The participant's classification -/

section
variable {kind : Sentinel}

theorem classifyRotationLifecycleError_unknown :
    classifyRotationLifecycleError
        (.sentinel .errDestinationLifecycleOutcomeUnknown : GoError ν) =
      (some .errDestinationTokenRotationOutcomeUnknown, true) := by
  simp [classifyRotationLifecycleError]

/-- What the participant takes for a definite failure of an activation is one. -/
theorem certain_of_activation
    (h : (classifyRotationActivationError (.sentinel kind : GoError ν)).2 = true) :
    kind ≠ .errDestinationLifecycleOutcomeUnknown := by
  rintro rfl
  simp [classifyRotationActivationError, classifyRotationLifecycleError_unknown] at h

end

/-- The sentinels that tell that nothing was committed. -/
def certainKinds : List Sentinel :=
  [.contextCanceled, .contextDeadlineExceeded, .errDestinationLifecycleCanceled,
    .errDestinationLifecycleDeadline, .errDestinationLifecycleInvalid,
    .errDestinationLifecycleConflict, .errDestinationLifecycleReconciliation,
    .errDestinationLifecycleUnavailable]

/-- The verdict on an error of a lifecycle repository, in a context with some error or none:
the kind that `classifyDestinationLifecycleError` gives it, and what
`classifyRotationActivationError` makes of the kind.  Neither looks at the context. -/
def activationVerdict (_context : Option (GoError ν)) (err : GoError ν) :
    Option Sentinel × Option (Sentinel × Bool) :=
  let kind := classifyDestinationLifecycleError (some err)
  (kind, kind.map fun kind => classifyRotationActivationError (.sentinel kind : GoError ν))

theorem activationVerdict_of_reaches {err : GoError ν} {t : Sentinel} (ht : t ∈ certainKinds)
    (h : err.Reaches 64 t) (context : Option (GoError ν)) :
    (activationVerdict context err).2.map Prod.snd = some true := by
  have hmatches := h.singleCauseMatches
  simp only [certainKinds, List.mem_cons, List.not_mem_nil, or_false] at ht
  -- the loops find the one sentinel that is reached
  rcases ht with rfl | rfl | rfl | rfl | rfl | rfl | rfl | rfl <;>
    simp [activationVerdict, classifyDestinationLifecycleError, firstKind, hmatches,
      classifyRotationActivationError, classifyRotationLifecycleError, rotationKinds]

theorem activationVerdict_of_not_reaches {err : GoError ν}
    (h : ∀ t ∈ certainKinds, ¬ err.Reaches 64 t) (context : Option (GoError ν)) :
    activationVerdict context err = (some .errDestinationLifecycleOutcomeUnknown,
      some (.errDestinationTokenRotationReconciliation, false)) := by
  have hmatches : ∀ t ∈ certainKinds, err.singleCauseMatches t = false := by
    intro t ht
    rw [← Bool.not_eq_true, GoError.singleCauseMatches_iff]
    exact h t ht
  simp only [certainKinds, List.forall_mem_cons] at hmatches
  obtain ⟨h₁, h₂, h₃, h₄, h₅, h₆, h₇, h₈, -⟩ := hmatches
  simp [activationVerdict, classifyDestinationLifecycleError, firstKind, h₁, h₂, h₃, h₄, h₅, h₆, h₇,
    h₈, classifyRotationActivationError, classifyRotationLifecycleError]

/-- **Uncertainty is never downgraded.**  An error of a lifecycle repository, of any graph, is
taken for a definite failure exactly if single causes lead from it to one of the sentinels
that tell so, within 64 nodes and before a node with several causes or a typed nil; every
other error is of unknown outcome, in particular one that joins errors.  The verdict is the
same in every context. -/
theorem uncertainty_never_downgraded (err : GoError ν) (context : Option (GoError ν)) :
    ∃ kind safe definite, activationVerdict context err = (some kind, some (safe, definite)) ∧
      (definite = true ↔ ∃ t ∈ certainKinds, err.Reaches 64 t) ∧
      ((¬ ∃ t ∈ certainKinds, err.Reaches 64 t) →
        kind = .errDestinationLifecycleOutcomeUnknown ∧ definite = false) ∧
      (∀ causes, err.unwrapMethod = .multiple causes →
        kind = .errDestinationLifecycleOutcomeUnknown ∧ definite = false) ∧
      ∀ context', activationVerdict context' err = activationVerdict context err := by
  have hambiguous : ∀ causes, err.unwrapMethod = .multiple causes →
      ¬ ∃ t ∈ certainKinds, err.Reaches 64 t := by
    rintro causes hcauses ⟨t, -, hreaches⟩
    cases hreaches with
    | here => cases hcauses
    | next _ hsingle _ _ => simp [GoError.ambiguous, hcauses] at hsingle
  by_cases h : ∃ t ∈ certainKinds, err.Reaches 64 t
  · obtain ⟨t, ht, hreaches⟩ := h
    obtain ⟨kind, hkind⟩ := classifyDestinationLifecycleError_some err
    obtain ⟨⟨safe, definite⟩, hsafe, hdefinite⟩ :=
      Option.map_eq_some_iff.mp (activationVerdict_of_reaches ht hreaches context)
    refine ⟨kind, safe, definite, Prod.ext hkind hsafe, iff_of_true hdefinite ⟨t, ht, hreaches⟩,
      fun hnone => absurd ⟨t, ht, hreaches⟩ hnone,
      fun causes hcauses => absurd ⟨t, ht, hreaches⟩ (hambiguous causes hcauses), fun _ => rfl⟩
  · have hverdict := activationVerdict_of_not_reaches
      (fun t ht hreaches => h ⟨t, ht, hreaches⟩) context
    exact ⟨_, _, _, hverdict, iff_of_false Bool.false_ne_true h, fun _ => ⟨rfl, rfl⟩,
      fun _ _ => ⟨rfl, rfl⟩, fun _ => rfl⟩

/-! ## Certain errors -/

/-- A database without faults, but that the acknowledgement of a commit is lost. -/
def answerLost (outside : (request : Outside) → request.Answer (GoError ν)) (lost : GoError ν)
    (p : Store × Local Store LifecycleTx) : (request : Request LifecycleSql Outside) →
      Reply (GoError ν) (LifecycleSql.Answer (GoError ν)) (Outside.Answer (GoError ν)) request ×
        (Store × Local Store LifecycleTx)
  | .db .commit =>
    let (err, p') : Option (GoError ν) × (Store × Local Store LifecycleTx) :=
      answerAll outside p (.db .commit)
    (some (err.getD lost), p')
  | request => answerAll outside p request

omit [ErrorGraph ν] in
theorem answerLost_step {outside : (request : Outside) → request.Answer (GoError ν)}
    {lost : GoError ν} (hworld : ∀ request, world request (outside request))
    (hlost : lost ≠ .sentinel .pgxErrTxCommitRollback) (p : Store × Local Store LifecycleTx)
    (request : Request LifecycleSql Outside) :
    (lifecycleSpec world mayKeep).environment.step p request (answerLost outside lost p request).1
      (answerLost outside lost p request).2 := by
  have hstep := @answerAll_step _ outside _ mayKeep hworld p request
  match request with
  | .db .commit =>
    obtain ⟨s₁, hrely, hact⟩ := hstep
    refine ⟨s₁, hrely, ?_⟩
    simp only [answerLost]
    cases herr : (answerAll outside p (.db .commit)).1 with
    | none =>
      rw [herr] at hact
      exact Or.inr ⟨hlost, hact⟩
    | some err =>
      rw [herr] at hact
      exact hact
  | .db .acquire => exact hstep
  | .db (.begin access) => exact hstep
  | .db (.send sql) => exact hstep
  | .db .rollback => exact hstep
  | .db .release => exact hstep
  | .db .destroy => exact hstep
  | .outside request => exact hstep

/-- **A certain error never hides a committed mutation.**  In every execution of a mutation
of the repository, whatever fails on the way: without an error it has committed exactly
its change.  If it returns an error and has changed something, the service calls the
outcome unknown, and the participant takes an activation for not definitely failed, asks
for reconciliation after a creation, and calls the outcome of a rollback or a finalization
unknown. -/
theorem certain_errors_hide_nothing {m : Mutation} {s s' : Store}
    {l : Local Store LifecycleTx} {err : Option (GoError ν)}
    (h : m.run.Runs (lifecycleSpec world mayKeep).environment.step (s, ⟨none, []⟩) err (s', l)) :
    l.tx = none ∧ History Others s l.own s' ∧
    (err = none → ∃ b a, l.own = [(b, a)] ∧ m.commit b = .ok a) ∧
    ∀ kind, classifyDestinationLifecycleError err = some kind → l.own ≠ [] →
      kind = .errDestinationLifecycleOutcomeUnknown ∧
      (classifyRotationActivationError (.sentinel kind : GoError ν)).2 = false ∧
      classifyRotationCreateError (.sentinel kind : GoError ν) =
        .errDestinationTokenRotationReconciliation ∧
      classifyRotationMutationError (some (.sentinel kind : GoError ν)) =
        some .errDestinationTokenRotationOutcomeUnknown := by
  obtain ⟨changes, rfl, hhistory, houtcome⟩ := ends_run.sound h
  refine ⟨rfl, hhistory, fun hnone => ?_, fun kind hkind hchanged => ?_⟩
  · subst hnone
    cases houtcome with
    | committed hcommit => exact ⟨_, _, rfl, hcommit⟩
  · have hverdict := houtcome.verdict (M := (· = m)) rfl
    rw [hkind] at hverdict
    have hunknown : kind = .errDestinationLifecycleOutcomeUnknown :=
      by_contra fun hne => hchanged (hverdict.of_certain hne)
    subst hunknown
    refine ⟨rfl, ?_, ?_, ?_⟩
    · simp [classifyRotationActivationError, classifyRotationLifecycleError_unknown]
    · simp [classifyRotationCreateError, classifyRotationLifecycleError_unknown]
    · simp [classifyRotationMutationError, classifyRotationLifecycleError_unknown]

/-- A first token is created, and the acknowledgement of the commit is lost. -/
def sampleLostCreation : Except Stop (Option (GoError Empty)) × (Store × Local Store LifecycleTx) :=
  Prog.eval (answerLost undisturbed (.sentinel .ioEOF))
    (Mutation.createStagedToken (sampleCandidate 3 (sampleTime 20)) (sampleTime 20)).run
    (sampleStore 10, ⟨none, []⟩)

theorem lost_acknowledgement_is_unknown : ∃ err s' l,
    (Mutation.createStagedToken (sampleCandidate 3 (sampleTime 20)) (sampleTime 20)).run.Runs
      (lifecycleSpec (fun _ _ => True) False).environment.step (sampleStore 10, ⟨none, []⟩)
      (err : Option (GoError Empty)) (s', l) ∧
    s'.tokens = [(sampleCandidate 3 (sampleTime 20)).row] ∧ l.own ≠ [] ∧
    classifyDestinationLifecycleError err = some .errDestinationLifecycleOutcomeUnknown ∧
    (classifyRotationActivationError
      (.sentinel .errDestinationLifecycleOutcomeUnknown : GoError Empty)).2 = false := by
  have hstep := @answerLost_step Empty (fun _ _ => True) False undisturbed (.sentinel .ioEOF)
    (fun _ => trivial) (by simp)
  have hvalues : (sampleLostCreation.1.toOption.map classifyDestinationLifecycleError,
      sampleLostCreation.2.1.tokens, sampleLostCreation.2.2.own.length) =
      (some (some .errDestinationLifecycleOutcomeUnknown),
        [(sampleCandidate 3 (sampleTime 20)).row], 1) := by decide +kernel
  generalize hresult : sampleLostCreation = result at hvalues
  obtain ⟨value, s', l⟩ := result
  obtain ⟨hvalue, hrest⟩ := Prod.mk.inj hvalues
  obtain ⟨htokens, hlength⟩ := Prod.mk.inj hrest
  obtain ⟨err, rfl, hkind⟩ := Except.exists_of_toOption_map hvalue
  have hrun := Prog.eval_runs hstep hresult
  have hchanged : l.own ≠ [] := List.ne_nil_of_length_pos (by rw [hlength]; decide)
  exact ⟨err, s', l, hrun, htokens, hchanged, hkind,
    ((certain_errors_hide_nothing hrun).2.2.2 _ hkind hchanged).2.1⟩

end OncallGateway
