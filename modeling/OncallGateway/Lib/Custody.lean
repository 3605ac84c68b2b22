import OncallGateway.Lib.Session

/-! # Connections that are handed back

What a program holds, followed along the calls it makes: a connection, a connection with a
transaction begun on it, or one whose transaction is known to have ended.  `Custody.next` is
undefined for a call that mishandles the connection: a second connection, a transaction beside
another, a statement outside of one, a connection that is handed back twice, or one that is
released although its transaction is not known to have ended.

A program is followed with every answer at once, as its own environment (`custodian`).  What
was proved there holds of every trace (`custody_of_traces`), and the program does not stop.  Such
a trace hands its connection back exactly once (`handedBackOnce_of_custody`).
-/

/-- Every call that the program may make is as `P` says, and it does not stop. -/
def Prog.Calls {E : Type} {R : E → Type} {α : Type} (P : E → Prop) : Prog E R α → Prop
  | .ret _ => True
  | .call e k => P e ∧ ∀ r, (k r).Calls P
  | .stop _ => False

theorem Prog.Calls.bind {E : Type} {R : E → Type} {α β : Type} {P : E → Prop} {p : Prog E R α}
    {f : α → Prog E R β} (h : p.Calls P) (hf : ∀ a, (f a).Calls P) : (p >>= f).Calls P := by
  show (p.bind f).Calls P
  induction p with
  | ret a => exact hf a
  | call e k ih => exact ⟨h.1, fun r => ih r (h.2 r)⟩
  | stop reason => exact h

namespace Session

/-- What a program holds. -/
inductive Custody where
  /-- No connection was obtained. -/
  | nothing
  /-- A connection that came with an error; it may be destroyed. -/
  | refused
  /-- A connection on which no transaction was begun. -/
  | connection
  /-- A transaction is open, or not known to have ended. -/
  | begun
  /-- The transaction is known to have ended. -/
  | ended
  /-- The connection was handed back. -/
  | returned
deriving DecidableEq

/-- A connection that was obtained without an error is in the program's hands. -/
def Custody.Holds : Custody → Prop
  | .connection | .begun | .ended => True
  | .nothing | .refused | .returned => False

/-- Nothing is held at the end. -/
def NotHeld {α : Type} (_ : α) (c : Custody) : Prop := ¬ c.Holds

/-- The errors of a commit and of a rollback after which the transaction has ended. -/
structure Confirming (ε : Type) where
  commit : ε → Bool
  rollback : ε → Bool

section
variable {ε S X σ α : Type} {A : S → Type} {B : X → Type}

/-- Whether the answer of a commit or of a rollback confirms the end. -/
def confirmedBy (confirms : ε → Bool) : Option ε → Bool
  | none => true
  | some err => confirms err

/-- A transaction after its commit or its rollback. -/
def Custody.after (confirms : ε → Bool) (err : Option ε) : Custody :=
  if confirmedBy confirms err then .ended else .begun

variable (confirming : Confirming ε)

/-- What is held after a call, if it may be made. -/
def Custody.next (c : Custody) : (request : Request S X) → Reply ε A B request → Option Custody
  | .db .acquire, .opened => if c = .nothing then some .connection else none
  | .db .acquire, .absent => if c = .nothing then some .nothing else none
  | .db .acquire, .failed _ value =>
    if c = .nothing then some (if value then .refused else .nothing) else none
  | .db (.begin _), .opened => if c = .connection then some .begun else none
  | .db (.begin _), .absent => if c = .connection then some .connection else none
  | .db (.begin _), .failed _ _ => if c = .connection then some .connection else none
  | .db (.send _), _ => if c = .begun then some .begun else none
  | .db .commit, err => if c = .begun then some (.after confirming.commit err) else none
  | .db .rollback, err => if c = .begun then some (.after confirming.rollback err) else none
  | .db .release, _ => if c = .connection ∨ c = .ended then some .returned else none
  | .db .destroy, _ => if c = .nothing ∨ c = .returned then none else some .returned
  | .outside _, _ => some c

/-- What is held after the calls of a trace. -/
def custody (c : Custody) (trace : List (Sigma (Reply ε A B))) : Option Custody :=
  trace.foldlM (fun c exchange => c.next confirming exchange.1 exchange.2) c

variable (ok : (request : Request S X) → Reply ε A B request → Prop)

/-- The environment that answers as `ok` allows, and asks for calls that may be made and for an
end. -/
def custodian : Environment (Request S X) (Reply ε A B) Custody where
  pre c request := ∀ r, ok request r → (c.next confirming request r).isSome
  step c request r c' := ok request r ∧ c.next confirming request r = some c'
  stops _ _ := False

variable {confirming ok}
variable {Q : α → Custody → Prop} {c c' : Custody} {p : Program ε A B α}
  {before rest trace : List (Sigma (Reply ε A B))}

/-- **What is proved of a program with the custodian holds of every trace.** -/
theorem custody_of_traces {s s' : σ} {a : α} (h : p.wp (custodian confirming ok) Q c)
    (ht : p.Traces (fun _ request r _ => ok request r) s trace a s') :
    ∃ c', custody confirming c trace = some c' ∧ Q a c' := by
  induction ht generalizing c with
  | ret => exact ⟨c, rfl, h⟩
  | @call _ _ _ e r _ _ _ hr _ ih =>
    obtain ⟨c₁, hc₁⟩ := Option.isSome_iff_exists.mp (h.1 r hr)
    obtain ⟨c', hc', hQ⟩ := ih (h.2 r c₁ ⟨hr, hc₁⟩)
    refine ⟨c', ?_, hQ⟩
    rw [custody, List.foldlM_cons, hc₁]
    exact hc'

/-- Such a program does not stop. -/
theorem not_stops_of_custodian {s s' : σ} {reason : Stop} (h : p.wp (custodian confirming ok) Q c) :
    ¬ p.Stops (fun _ request r _ => ok request r) s trace reason s' := by
  intro hs
  induction hs generalizing c with
  | stop => exact h
  | call hr _ ih =>
    obtain ⟨c₁, hc₁⟩ := Option.isSome_iff_exists.mp (h.1 _ hr)
    exact ih (h.2 _ c₁ ⟨hr, hc₁⟩)

/-! ## The rules of the calls -/

theorem wp_acquire_custodian {Q : Opened ε → Custody → Prop}
    (hfailed : ∀ err value, ok (.db .acquire) (Opened.failed err value) →
      Q (.failed err value) (if value then .refused else .nothing))
    (habsent : ok (.db .acquire) Opened.absent → Q .absent .nothing)
    (hopened : Q .opened .connection) :
    (acquire : Program ε A B _).wp (custodian confirming ok) Q .nothing := by
  refine ⟨fun r _ => by cases r <;> rfl, ?_⟩
  rintro (⟨err, value⟩ | _ | _) c' ⟨hok, hc'⟩
  · exact Option.some.inj hc' ▸ hfailed err value hok
  · exact Option.some.inj hc' ▸ habsent hok
  · exact Option.some.inj hc' ▸ hopened

theorem wp_begin_custodian {access : Access} {Q : Opened ε → Custody → Prop}
    (hfailed : ∀ err value, ok (.db (.begin access)) (Opened.failed err value) →
      Q (.failed err value) .connection)
    (habsent : ok (.db (.begin access)) Opened.absent → Q .absent .connection)
    (hopened : Q .opened .begun) :
    (begin access : Program ε A B _).wp (custodian confirming ok) Q .connection := by
  refine ⟨fun r _ => by cases r <;> rfl, ?_⟩
  rintro (⟨err, value⟩ | _ | _) c' ⟨hok, hc'⟩
  · exact Option.some.inj hc' ▸ hfailed err value hok
  · exact Option.some.inj hc' ▸ habsent hok
  · exact Option.some.inj hc' ▸ hopened

theorem wp_send_custodian {statement : S} {Q : A statement → Custody → Prop}
    (h : ∀ r, ok (.db (.send statement)) r → Q r .begun) :
    (send statement : Program ε A B _).wp (custodian confirming ok) Q .begun :=
  ⟨fun _ _ => rfl, fun r _ hr => Option.some.inj hr.2 ▸ h r hr.1⟩

theorem wp_ask_custodian {request : X} {Q : B request → Custody → Prop}
    (h : ∀ r, ok (.outside request) r → Q r c) :
    (ask request : Program ε A B _).wp (custodian confirming ok) Q c :=
  ⟨fun _ _ => rfl, fun r _ hr => Option.some.inj hr.2 ▸ h r hr.1⟩

theorem wp_commit_custodian {Q : Option ε → Custody → Prop}
    (h : ∀ err, Q err (.after confirming.commit err)) :
    (commit : Program ε A B _).wp (custodian confirming ok) Q .begun :=
  ⟨fun _ _ => rfl, fun err _ hr => Option.some.inj hr.2 ▸ h err⟩

theorem wp_rollback_custodian {Q : Option ε → Custody → Prop}
    (h : ∀ err, ok (.db .rollback) err → Q err (.after confirming.rollback err)) :
    (rollback : Program ε A B _).wp (custodian confirming ok) Q .begun :=
  ⟨fun _ _ => rfl, fun err _ hr => Option.some.inj hr.2 ▸ h err hr.1⟩

theorem wp_destroy_custodian {Q : Unit → Custody → Prop} (hc : c ≠ .nothing ∧ c ≠ .returned)
    (h : Q () .returned) :
    (destroy : Program ε A B _).wp (custodian confirming ok) Q c := by
  have hnext : (if c = .nothing ∨ c = .returned then none else some Custody.returned) =
      some .returned := if_neg (not_or.mpr hc)
  refine ⟨fun r _ => Option.isSome_iff_exists.mpr ⟨_, hnext⟩, fun r c' hc' => ?_⟩
  exact Option.some.inj (hnext.symm.trans hc'.2) ▸ h

theorem wp_release_custodian {Q : Unit → Custody → Prop} (hc : c = .connection ∨ c = .ended)
    (h : Q () .returned) :
    (release : Program ε A B _).wp (custodian confirming ok) Q c := by
  have hnext : (if c = .connection ∨ c = .ended then some Custody.returned else none) =
      some .returned := if_pos hc
  refine ⟨fun r _ => Option.isSome_iff_exists.mpr ⟨_, hnext⟩, fun r c' hc' => ?_⟩
  exact Option.some.inj (hnext.symm.trans hc'.2) ▸ h

/-- A connection that is held may be handed back, and released unless its transaction is not
known to have ended. -/
theorem wp_handBack_custodian {Q : Unit → Custody → Prop} {destroyed : Bool} (hc : c.Holds)
    (hbegun : c = .begun → destroyed = true) (h : Q () .returned) :
    (handBack destroyed : Program ε A B _).wp (custodian confirming ok) Q c := by
  cases destroyed with
  | true =>
    refine wp_destroy_custodian ⟨?_, ?_⟩ h
    · rintro rfl
      exact hc
    · rintro rfl
      exact hc
  | false =>
    refine wp_release_custodian ?_ h
    cases c with
    | connection => exact .inl rfl
    | ended => exact .inr rfl
    | begun => exact Bool.noConfusion (hbegun rfl)
    | nothing => exact hc.elim
    | refused => exact hc.elim
    | returned => exact hc.elim

/-- With the deferred functions that run after it, the program holds nothing in the end. -/
abbrev Closes {β : Type} (confirming : Confirming ε)
    (ok : (request : Request S X) → Reply ε A B request → Prop) (closing : β → Program ε A B α)
    (p : Program ε A B β) (c : Custody) : Prop :=
  p.wp (custodian confirming ok) (fun b => (closing b).wp (custodian confirming ok) NotHeld) c

theorem closes_handBack {rollbackOpen : α × Cleanup → Program ε A B (α × Cleanup)} {a : α}
    (destroyed : Bool) (hc : c.Holds) (hbegun : c = .begun → destroyed = true) :
    Closes confirming ok (close rollbackOpen)
      (do return (a, ← destroyConnectionIf destroyed ⟨true, false⟩)) c :=
  wp_close (Prog.wp_bind.mpr (wp_handBack_custodian hc hbegun id))

/-- Calls that a program makes within its transaction. -/
def Request.Within : Request S X → Prop
  | .db (.send _) | .outside _ => True
  | _ => False

/-- A program that stays within its transaction leaves it open. -/
theorem wp_within_custodian (hp : p.Calls Request.Within) (h : ∀ a, Q a .begun) :
    p.wp (custodian confirming ok) Q .begun := by
  induction p with
  | ret a => exact h a
  | call e k ih =>
    obtain ⟨he, hk⟩ := hp
    match e, he with
    | .db (.send _), _ =>
      exact ⟨fun _ _ => rfl, fun r _ hc' => Option.some.inj hc'.2 ▸ ih r (hk r)⟩
    | .outside _, _ => exact ⟨fun _ _ => rfl, fun r _ hc' => Option.some.inj hc'.2 ▸ ih r (hk r)⟩
  | stop reason => exact hp

/-- A program that makes no call on a connection leaves what is held. -/
theorem wp_outside_custodian (hp : p.Calls fun e => ∃ request, e = .outside request)
    (h : ∀ a, Q a c) :
    p.wp (custodian confirming ok) Q c := by
  induction p with
  | ret a => exact h a
  | call e k ih =>
    obtain ⟨⟨request, rfl⟩, hk⟩ := hp
    exact ⟨fun _ _ => rfl, fun r _ hc' => Option.some.inj hc'.2 ▸ ih r (hk r)⟩
  | stop reason => exact hp

/-! ## What a trace shows -/

/-- `Release` or `Destroy`. -/
def Request.handsBack : Request S X → Bool
  | .db .release | .db .destroy => true
  | _ => false

/-- A transaction was begun. -/
def opensTransaction : Sigma (Reply ε A B) → Bool
  | ⟨.db (.begin _), .opened⟩ => true
  | _ => false

variable (confirming) in
/-- The transaction is known to have ended. -/
def endsTransaction : Sigma (Reply ε A B) → Bool
  | ⟨.db .commit, err⟩ => confirmedBy confirming.commit err
  | ⟨.db .rollback, err⟩ => confirmedBy confirming.rollback err
  | _ => false

variable (confirming) in
/-- **The connection is handed back exactly once**: after a connection was obtained there is one
`Release` or `Destroy`, and no other; and it is a `Release` only if no transaction was begun
before, or its end was confirmed. -/
def HandedBackOnce (trace : List (Sigma (Reply ε A B))) : Prop :=
  ∀ before after, trace = before ++ ⟨.db .acquire, Opened.opened⟩ :: after →
    ∃ middle back rest, after = middle ++ back :: rest ∧ back.1.handsBack = true ∧
      (∀ x ∈ before ++ middle ++ rest, x.1.handsBack = false) ∧
      (back.1 = .db .release → (∀ x ∈ middle, opensTransaction x = false) ∨
        ∃ x ∈ middle, endsTransaction confirming x = true)

/-- What is known of a connection that was released. -/
theorem HandedBackOnce.released (middle : List (Sigma (Reply ε A B))) {r : Unit}
    (h : HandedBackOnce confirming
      (⟨.db .acquire, Opened.opened⟩ :: (middle ++ ⟨.db .release, r⟩ :: rest)))
    (hmiddle : ∀ x ∈ middle, x.1.handsBack = false) :
    (∀ x ∈ middle, opensTransaction x = false) ∨
      ∃ x ∈ middle, endsTransaction confirming x = true := by
  obtain ⟨middle', back, rest', heq, hback, hothers, hreleased⟩ := h [] _ rfl
  rcases List.append_eq_append_iff.mp heq with ⟨between, rfl, htail⟩ | ⟨between, rfl, htail⟩
  · cases between with
    | nil =>
      obtain ⟨rfl, -⟩ := List.cons.inj htail
      rw [List.append_nil] at hreleased
      exact hreleased rfl
    | cons x between =>
      obtain ⟨rfl, -⟩ := List.cons.inj htail
      have := hothers ⟨.db .release, r⟩ (by simp)
      cases this
  · cases between with
    | nil =>
      obtain ⟨rfl, -⟩ := List.cons.inj htail
      rw [List.append_nil]
      exact hreleased rfl
    | cons x between =>
      obtain ⟨rfl, -⟩ := List.cons.inj htail
      rw [hmiddle back (by simp)] at hback
      cases hback

theorem custody_cons {x : Sigma (Reply ε A B)} (h : custody confirming c (x :: trace) = some c') :
    ∃ c₁, c.next confirming x.1 x.2 = some c₁ ∧ custody confirming c₁ trace = some c' := by
  rw [custody, List.foldlM_cons] at h
  exact Option.bind_eq_some_iff.mp h

theorem custody_append {after : List (Sigma (Reply ε A B))}
    (h : custody confirming c (before ++ after) = some c') :
    ∃ c₁, custody confirming c before = some c₁ ∧ custody confirming c₁ after = some c' := by
  rw [custody, List.foldlM_append] at h
  exact Option.bind_eq_some_iff.mp h

theorem after_cases (confirms : ε → Bool) (err : Option ε) :
    (Custody.after confirms err).Holds ∧ Custody.after confirms err ≠ .connection ∧
      (Custody.after confirms err = .ended → confirmedBy confirms err = true) := by
  unfold Custody.after
  split
  · exact ⟨trivial, Custody.noConfusion, fun _ => ‹_›⟩
  · exact ⟨trivial, Custody.noConfusion, Custody.noConfusion⟩

/-- Nothing is held only if nothing was. -/
theorem next_eq_nothing {request : Request S X} {r : Reply ε A B request}
    (h : c.next confirming request r = some .nothing) :
    c = .nothing ∧ request.handsBack = false := by
  match request, r with
  | .outside _, _ => exact ⟨Option.some.inj h, rfl⟩
  | .db .acquire, .absent => exact ⟨(Option.ite_none_right_eq_some.mp h).1, rfl⟩
  | .db .acquire, .failed _ _ => exact ⟨(Option.ite_none_right_eq_some.mp h).1, rfl⟩
  | .db .acquire, .opened => cases (Option.ite_none_right_eq_some.mp h).2
  | .db (.begin _), .opened => cases (Option.ite_none_right_eq_some.mp h).2
  | .db (.begin _), .absent => cases (Option.ite_none_right_eq_some.mp h).2
  | .db (.begin _), .failed _ _ => cases (Option.ite_none_right_eq_some.mp h).2
  | .db (.send _), _ => cases (Option.ite_none_right_eq_some.mp h).2
  | .db .commit, err =>
    have hafter := Option.some.inj (Option.ite_none_right_eq_some.mp h).2
    exact absurd ((after_cases confirming.commit err).1) (hafter ▸ id)
  | .db .rollback, err =>
    have hafter := Option.some.inj (Option.ite_none_right_eq_some.mp h).2
    exact absurd ((after_cases confirming.rollback err).1) (hafter ▸ id)
  | .db .release, _ => cases (Option.ite_none_right_eq_some.mp h).2
  | .db .destroy, _ => cases (Option.ite_none_left_eq_some.mp h).2

/-- What a call does to a connection that is held: it hands it back, or leaves it held. -/
theorem next_of_holds {request : Request S X} {r : Reply ε A B request} (hc : c.Holds)
    (h : c.next confirming request r = some c') :
    request.handsBack = true ∧ c' = .returned ∧ (request = .db .release → c ≠ .begun) ∨
    request.handsBack = false ∧ c'.Holds ∧
      (c' = .connection → c = .connection ∧ opensTransaction ⟨request, r⟩ = false) ∧
      (c' = .ended → c = .ended ∨ endsTransaction confirming ⟨request, r⟩ = true) := by
  have hnothing : c ≠ .nothing := by
    rintro rfl
    exact hc
  match request, r with
  | .db .acquire, .opened => exact absurd (Option.ite_none_right_eq_some.mp h).1 hnothing
  | .db .acquire, .absent => exact absurd (Option.ite_none_right_eq_some.mp h).1 hnothing
  | .db .acquire, .failed _ _ => exact absurd (Option.ite_none_right_eq_some.mp h).1 hnothing
  | .db (.begin _), .opened =>
    obtain ⟨-, ⟨⟩⟩ := Option.ite_none_right_eq_some.mp h
    exact .inr ⟨rfl, trivial, Custody.noConfusion, Custody.noConfusion⟩
  | .db (.begin _), .absent =>
    obtain ⟨rfl, ⟨⟩⟩ := Option.ite_none_right_eq_some.mp h
    exact .inr ⟨rfl, trivial, fun _ => ⟨rfl, rfl⟩, Custody.noConfusion⟩
  | .db (.begin _), .failed _ _ =>
    obtain ⟨rfl, ⟨⟩⟩ := Option.ite_none_right_eq_some.mp h
    exact .inr ⟨rfl, trivial, fun _ => ⟨rfl, rfl⟩, Custody.noConfusion⟩
  | .db (.send _), _ =>
    obtain ⟨-, ⟨⟩⟩ := Option.ite_none_right_eq_some.mp h
    exact .inr ⟨rfl, trivial, Custody.noConfusion, Custody.noConfusion⟩
  | .db .commit, err =>
    obtain ⟨-, ⟨⟩⟩ := Option.ite_none_right_eq_some.mp h
    obtain ⟨hholds, hconnection, hended⟩ := after_cases confirming.commit err
    exact .inr ⟨rfl, hholds, fun h => absurd h hconnection, fun h => .inr (hended h)⟩
  | .db .rollback, err =>
    obtain ⟨-, ⟨⟩⟩ := Option.ite_none_right_eq_some.mp h
    obtain ⟨hholds, hconnection, hended⟩ := after_cases confirming.rollback err
    exact .inr ⟨rfl, hholds, fun h => absurd h hconnection, fun h => .inr (hended h)⟩
  | .db .release, _ =>
    obtain ⟨hreleasable, ⟨⟩⟩ := Option.ite_none_right_eq_some.mp h
    refine .inl ⟨rfl, rfl, ?_⟩
    rintro - rfl
    exact hreleasable.elim Custody.noConfusion Custody.noConfusion
  | .db .destroy, _ =>
    obtain ⟨-, ⟨⟩⟩ := Option.ite_none_left_eq_some.mp h
    exact .inl ⟨rfl, rfl, fun h => by cases h⟩
  | .outside _, _ =>
    obtain rfl := Option.some.inj h
    exact .inr ⟨rfl, hc, fun h => ⟨h, rfl⟩, .inl⟩

/-- A connection that is held, and in the end is not, was handed back. -/
theorem handedBack_of_holds {after : List (Sigma (Reply ε A B))} (hc : c.Holds) (hc' : ¬ c'.Holds)
    (h : custody confirming c after = some c') :
    ∃ middle back rest, after = middle ++ back :: rest ∧ back.1.handsBack = true ∧
      (∀ x ∈ middle, x.1.handsBack = false) ∧ custody confirming .returned rest = some c' ∧
      (back.1 = .db .release → (c = .connection ∧ ∀ x ∈ middle, opensTransaction x = false) ∨
        c = .ended ∨ ∃ x ∈ middle, endsTransaction confirming x = true) := by
  induction after generalizing c with
  | nil => exact absurd (Option.some.inj h ▸ hc) hc'
  | cons x after ih =>
    obtain ⟨c₁, hnext, hafter⟩ := custody_cons h
    rcases next_of_holds hc hnext with ⟨hback, rfl, hrelease⟩ | ⟨hback, hholds, hconnection, hended⟩
    · refine ⟨[], x, after, rfl, hback, by simp, hafter, fun hx => ?_⟩
      have hbegun := hrelease hx
      cases c with
      | connection => exact .inl ⟨rfl, by simp⟩
      | ended => exact .inr (.inl rfl)
      | begun => exact absurd rfl hbegun
      | nothing => exact hc.elim
      | refused => exact hc.elim
      | returned => exact hc.elim
    · obtain ⟨middle, back, rest, rfl, hhands, hmiddle, hrest, hreleasable⟩ := ih hholds hafter
      refine ⟨x :: middle, back, rest, rfl, hhands, List.forall_mem_cons.mpr ⟨hback, hmiddle⟩,
        hrest, fun hx => ?_⟩
      rcases hreleasable hx with ⟨h₁, hopens⟩ | h₁ | ⟨y, hy, hends⟩
      · obtain ⟨hc₁, hx'⟩ := hconnection h₁
        exact .inl ⟨hc₁, List.forall_mem_cons.mpr ⟨hx', hopens⟩⟩
      · rcases hended h₁ with hc₁ | hends
        · exact .inr (.inl hc₁)
        · exact .inr (.inr ⟨x, List.mem_cons_self, hends⟩)
      · exact .inr (.inr ⟨y, List.mem_cons_of_mem _ hy, hends⟩)

/-- Once the connection is handed back it is not handed back again. -/
theorem not_handsBack_of_returned (h : custody confirming .returned rest = some c') :
    ∀ x ∈ rest, x.1.handsBack = false := by
  induction rest with
  | nil => simp
  | cons x rest ih =>
    obtain ⟨c₁, hnext, hrest⟩ := custody_cons h
    match x, hnext with
    | ⟨.outside _, _⟩, hnext =>
      obtain rfl := Option.some.inj hnext
      exact List.forall_mem_cons.mpr ⟨rfl, ih hrest⟩
    | ⟨.db .acquire, .opened⟩, hnext => cases hnext
    | ⟨.db .acquire, .absent⟩, hnext => cases hnext
    | ⟨.db .acquire, .failed _ _⟩, hnext => cases hnext
    | ⟨.db (.begin _), .opened⟩, hnext => cases hnext
    | ⟨.db (.begin _), .absent⟩, hnext => cases hnext
    | ⟨.db (.begin _), .failed _ _⟩, hnext => cases hnext
    | ⟨.db (.send _), _⟩, hnext => cases hnext
    | ⟨.db .commit, _⟩, hnext => cases hnext
    | ⟨.db .rollback, _⟩, hnext => cases hnext
    | ⟨.db .release, _⟩, hnext => cases hnext
    | ⟨.db .destroy, _⟩, hnext => cases hnext

/-- As long as nothing was obtained nothing is handed back. -/
theorem not_handsBack_of_nothing (h : custody confirming c before = some .nothing) :
    c = .nothing ∧ ∀ x ∈ before, x.1.handsBack = false := by
  induction before generalizing c with
  | nil => exact ⟨Option.some.inj h, by simp⟩
  | cons x before ih =>
    obtain ⟨c₁, hnext, hbefore⟩ := custody_cons h
    obtain ⟨rfl, hhands⟩ := ih hbefore
    obtain ⟨hc, hx⟩ := next_eq_nothing hnext
    exact ⟨hc, List.forall_mem_cons.mpr ⟨hx, hhands⟩⟩

/-- **A trace after which nothing is held hands its connection back exactly once.** -/
theorem handedBackOnce_of_custody (h : custody confirming .nothing trace = some c')
    (hc' : ¬ c'.Holds) :
    HandedBackOnce confirming trace := by
  rintro before after rfl
  obtain ⟨c₁, hbefore, hacquire⟩ := custody_append h
  obtain ⟨c₂, hnext, hafter⟩ := custody_cons hacquire
  obtain ⟨rfl, ⟨⟩⟩ := Option.ite_none_right_eq_some.mp hnext
  have hholds : Custody.connection.Holds := trivial
  obtain ⟨middle, back, rest, rfl, hhands, hmiddle, hrest, hreleasable⟩ :=
    handedBack_of_holds hholds hc' hafter
  refine ⟨middle, back, rest, rfl, hhands, fun x hx => ?_, fun hback => ?_⟩
  · rw [List.mem_append, List.mem_append] at hx
    rcases hx with (hx | hx) | hx
    · exact (not_handsBack_of_nothing hbefore).2 x hx
    · exact hmiddle x hx
    · exact not_handsBack_of_returned hrest x hx
  · rcases hreleasable hback with ⟨-, hopens⟩ | hended | hends
    · exact .inl hopens
    · exact Custody.noConfusion hended
    · exact .inr hends

/-- **Every execution ends, and hands its connection back exactly once**, as long as the answers
are as `ok` allows. -/
def HandsBack (confirming : Confirming ε)
    (ok : (request : Request S X) → Reply ε A B request → Prop) (p : Program ε A B α) : Prop :=
  (∀ trace a, p.Traces (fun _ request r _ => ok request r) () trace a () →
    HandedBackOnce confirming trace) ∧
  ∀ trace reason, ¬ p.Stops (fun _ request r _ => ok request r) () trace reason ()

/-- The same of a program that was followed. -/
theorem handsBack_of_custodian (h : p.wp (custodian confirming ok) NotHeld .nothing) :
    HandsBack confirming ok p := by
  refine ⟨fun trace a ht => ?_, fun trace reason => not_stops_of_custodian h⟩
  obtain ⟨c', hc', hheld⟩ := custody_of_traces h ht
  exact handedBackOnce_of_custody hc' hheld

end

end Session
