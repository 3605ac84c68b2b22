import OncallGateway.AttemptSnapshot
import OncallGateway.StoreInvariant

/-! # A destination keeps its active token

Any number of calls of the repository run beside each other, in any interleaving, with
every fault of the database.  The committed state then changes by whole mutations only
(`lifecycle_lawful`), and no mutation takes the active token from a destination without
giving it another in the same commit (`Transition.keeps_active`).
-/

namespace OncallGateway
open Session

/-! ## Mutations beside each other -/

/-- The repository's transactions are safe beside each other: the lock on the row of the
destination keeps the others away. -/
theorem lifecycle_lawful {ν : Type} (world : World ν) :
    (lifecycleSpec world False).shared.Lawful := by
  refine Spec.lawful id (fun _ _ => .refl) (fun _ _ _ _ => Relation.ReflTransGen.trans)
    (fun t u h id hu ht => h id ht hu) ?_
  rintro t u s s' ⟨m, hcommit, hlock⟩ hcompatible
  refine .single ⟨m, hcommit, fun hu => ?_⟩
  exact hcompatible _ hu hlock

/-- The repository at the beginning of a run: each process calls a mutation. -/
structure Calls {ν ι : Type} [ErrorGraph ν] (ms : ι → Mutation)
    (c : Shared.Config (Request LifecycleSql Outside)
      (Reply (GoError ν) (LifecycleSql.Answer (GoError ν)) (Outside.Answer (GoError ν))) Store
      (Local Store LifecycleTx) (Option (GoError ν)) ι) : Prop where
  locals : ∀ i, c.locals i = ⟨none, []⟩
  progs : ∀ i, c.progs i = (ms i).run

section
variable {ν ι : Type} [ErrorGraph ν] {world : World ν} {ms : ι → Mutation}
  {c : Shared.Config (Request LifecycleSql Outside)
    (Reply (GoError ν) (LifecycleSql.Answer (GoError ν)) (Outside.Answer (GoError ν))) Store
    (Local Store LifecycleTx) (Option (GoError ν)) ι}

theorem Calls.correct (h : Calls ms c) :
    (lifecycleSpec world False).shared.Correct (fun _ _ _ => True) c where
  compatible i j _ := by
    rw [h.locals i]
    exact nofun
  wp i := by
    rw [h.locals i, h.progs i]
    exact Prog.wp_mono (ends_run c.shared []) fun _ _ _ => trivial

end

/-! ## The active token -/

/-- The number of active rows of a destination. -/
def Store.activeRows (s : Store) (destination : DestinationID) : Nat :=
  s.tokens.countP fun row => decide (row.destinationID = destination ∧ row.state = .active)

/-- The destination has an active token. -/
def Store.Provisioned (s : Store) (destination : DestinationID) : Prop :=
  ∃ tokens row, s.Represents destination tokens ∧ tokens.slot .active = some row

variable {destination : DestinationID} {s : Store}

theorem Store.Provisioned.activeRows_eq (h : s.Provisioned destination) :
    s.activeRows destination = 1 := by
  obtain ⟨tokens, row, hrep, hslot⟩ := h
  rw [Store.activeRows, hrep.countP_eq (by decide), hslot]
  rfl

/-- **No transition takes the active token away** without giving another. -/
theorem Transition.keeps_active {m : Mutation} {tokens tokens' : LiveTokens} {rows : List TokenRow}
    {row : TokenRow} (h : Transition s m tokens tokens' rows)
    (hactive : tokens.slot .active = some row) : ∃ row', tokens'.slot .active = some row' := by
  cases h with
  | createStagedToken => cases hactive
  | createRotationStagedToken => exact ⟨_, rfl⟩
  | activateInitialToken => exact ⟨_, rfl⟩
  | activateRotation => exact ⟨_, rfl⟩
  | abortInitial => cases hactive
  | abortRotation => exact ⟨_, rfl⟩
  | rollbackRotation => exact ⟨_, rfl⟩
  | finalizeRotation => exact ⟨_, rfl⟩

theorem Store.Provisioned.commit {s' : Store} {m : Mutation} (h : s.Provisioned destination)
    (hcommit : m.commit s = .ok s') :
    s'.Provisioned destination := by
  obtain ⟨old, row, hrep, hslot⟩ := h
  obtain ⟨_, tokens, tokens', rows, hc⟩ := Mutation.commit_ok hcommit
  by_cases hd : destination = m.destination
  · subst hd
    obtain rfl := hrep.unique hc.represents
    obtain ⟨row', hslot'⟩ := hc.transition.keeps_active hslot
    exact ⟨tokens', row', hc.after, hslot'⟩
  · exact ⟨old, row, hc.represents_other hd hrep, hslot⟩

theorem Store.Provisioned.of_activateInitialToken {s' : Store} {audience : GatewayAudienceID}
    {record : DestinationTokenRecordID} {now : Time}
    (hcommit : (Mutation.activateInitialToken audience destination record now).commit s = .ok s') :
    s'.Provisioned destination := by
  obtain ⟨_, tokens, tokens', rows, hc⟩ := Mutation.commit_ok hcommit
  have hafter := hc.after
  have htransition := hc.transition
  generalize hm : Mutation.activateInitialToken audience destination record now = m
    at htransition hafter
  cases htransition with
  | activateInitialToken =>
    cases hm
    exact ⟨_, _, hafter, rfl⟩
  | createStagedToken => cases hm
  | createRotationStagedToken => cases hm
  | activateRotation => cases hm
  | abortInitial => cases hm
  | abortRotation => cases hm
  | rollbackRotation => cases hm
  | finalizeRotation => cases hm

section
variable {ν ι : Type} [ErrorGraph ν] {world : World ν} {ms : ι → Mutation}
  {c₀ c₁ c₂ c : Shared.Config (Request LifecycleSql Outside)
    (Reply (GoError ν) (LifecycleSql.Answer (GoError ν)) (Outside.Answer (GoError ν))) Store
    (Local Store LifecycleTx) (Option (GoError ν)) ι}

/-- **A destination never loses its active token.**  Calls run in any interleaving; one
step commits the activation of an initial token, and from then on the destination has
exactly one active row in every state. -/
theorem one_active_row_since_activation (hcalls : Calls ms c₀) {is is' : List ι} {i : ι}
    {audience : GatewayAudienceID} {destination : DestinationID}
    {record : DestinationTokenRecordID} {now : Time}
    (hbefore : Run (lifecycleSpec world False).shared.Step c₀ is c₁)
    (hstep : (lifecycleSpec world False).shared.Step c₁ i c₂)
    (hcommit : (Mutation.activateInitialToken audience destination record now).commit c₁.shared =
      .ok c₂.shared)
    (hafter : Run (lifecycleSpec world False).shared.Step c₂ is' c) :
    c.shared.activeRows destination = 1 := by
  have hl := lifecycle_lawful world
  have hc₁ := hl.interleaving (fun _ _ _ _ _ _ => id) hcalls.correct hbefore
  have hc₂ := (hl.step (fun _ _ _ _ _ _ => id) hc₁ hstep).1
  have hprovisioned : c.shared.Provisioned destination := by
    refine Spec.invariant id hl (fun _ _ _ _ _ _ => id)
      (P := fun s => s.Provisioned destination) ?_ hafter hc₂ (.of_activateInitialToken hcommit)
    rintro t s s' ⟨m, hm, -⟩ hs
    exact hs.commit hm
  exact hprovisioned.activeRows_eq

end

/-- The activation of the first token of `sampleRotation`. -/
def sampleActivation : Mutation :=
  .activateInitialToken (sampleID 1) (sampleID 2) (sampleID 3) (sampleTime 21)

/-- The activation, and a rotation that two more processes make. -/
def sampleProcesses : Fin 3 → Mutation
  | 0 => sampleActivation
  | 1 => .createRotationStagedToken ⟨sampleCandidate 4 (sampleTime 22), sampleID 3, sampleTime 22⟩
  | 2 => .activateRotation ⟨sampleID 1, sampleID 2, sampleID 4, sampleID 3, sampleTime 23,
      sampleTime 33⟩

/-- The calls of the three processes, after the steps of a schedule. -/
def sampleTogether (is : List (Fin 3)) : Shared.Config (Request LifecycleSql Outside)
    (Reply (GoError Empty) (LifecycleSql.Answer (GoError Empty)) (Outside.Answer (GoError Empty)))
    Store (Local Store LifecycleTx) (Option (GoError Empty)) (Fin 3) :=
  Shared.Config.follow (answerAll undisturbed)
    ⟨sampleAfter (sampleRotation.take 1), fun _ => ⟨none, []⟩, fun i => (sampleProcesses i).run⟩ is

instance {ν : Type} {world : World ν} {mayKeep : Prop} :
    DecidableRel (lifecycleSpec world mayKeep).shared.compatible := fun l l' =>
  inferInstanceAs (Decidable (∀ id ∈ locked (l.tx.map Prod.snd),
    locked (l'.tx.map Prod.snd) ≠ some id))

/-- The three calls have begun.  The activation is about to commit, and the others wait for
the row that it has locked. -/
def sampleBefore : List (Fin 3) := [2, 1, 1, 2, 0, 0, 0, 0, 0, 0]

/-- Once the activation has committed, the others go on one after the other. -/
def sampleSince : List (Fin 3) := 0 :: (List.replicate 6 1 ++ List.replicate 7 2)

/-- The rotation replaces the active token, and leaves one. -/
theorem sampleTogether_keeps_active :
    Run (lifecycleSpec (fun _ _ => True) False).shared.Step (sampleTogether []) sampleBefore
      (sampleTogether sampleBefore) ∧
    Run (lifecycleSpec (fun _ _ => True) False).shared.Step (sampleTogether (sampleBefore ++ [0]))
      sampleSince (sampleTogether (sampleBefore ++ 0 :: sampleSince)) ∧
    (sampleTogether sampleBefore).shared.activeRows (sampleID 2) = 0 ∧
    (sampleTogether (sampleBefore ++ 0 :: sampleSince)).shared.tokens.map TokenRow.state =
      [.retiring, .active] ∧
    (sampleTogether (sampleBefore ++ 0 :: sampleSince)).shared.activeRows (sampleID 2) = 1 := by
  have hact : ∀ p request, (lifecycleSpec (fun _ _ => True) False).shared.act p.1 p.2 request
      (answerAll undisturbed p request).1 (answerAll undisturbed p request).2.2
      (answerAll undisturbed p request).2.1 :=
    answerAll_act undisturbed fun _ => trivial
  obtain ⟨hbefore, hstep, hafter⟩ := Shared.run_follow_cut hact
    (show (sampleTogether []).Admits (lifecycleSpec (fun _ _ => True) False).shared
      (answerAll undisturbed) (sampleBefore ++ 0 :: sampleSince) by decide +kernel)
  refine ⟨hbefore, hafter, by decide +kernel, by decide +kernel, ?_⟩
  have hcalls : Calls sampleProcesses (sampleTogether []) := ⟨fun _ => rfl, fun _ => rfl⟩
  exact one_active_row_since_activation hcalls hbefore hstep
    (show sampleActivation.commit _ = .ok (sampleTogether (sampleBefore ++ [0])).shared by
      decide +kernel) hafter

end OncallGateway
