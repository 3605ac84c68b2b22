import OncallGateway.Lib.Shared

/-! # Transactions of a database, with their faults

A program obtains a connection, begins a transaction on it, sends statements, commits
or rolls back, and hands the connection back.  Every one of these calls may fail, and
an error does not always tell what happened: the environment here is the one that
makes every such choice.

What a statement answers and does to its transaction is a parameter (`Spec.send`), and
so is what the committed state becomes (`Spec.result`).  Fixed is the meaning of the
two ends of a transaction.  A commit without an error has taken effect; one with an
error has or has not, unless the error is `definite`, and then it has not.  A rollback
without an error has dropped the transaction.  After a failed rollback the transaction
is dropped too, or, where `mayKeep` is allowed, it may even have taken effect.

A statement without a transaction does nothing; the programs here send none.

The log `own` keeps the changes of the committed state that this program's transactions
have made, as pairs of the state before and after.
-/

namespace Session

/-- The access mode of a transaction. -/
inductive Access where
  | readOnly
  | readWrite
deriving DecidableEq

/-- The calls on a connection; `S` are the statements. -/
inductive Call (S : Type) where
  | acquire
  | begin (access : Access)
  | send (statement : S)
  | commit
  | rollback
  | release
  | destroy

/-- The answer to a call that opens something: an error, with or without a value beside
it, a missing value, or a value. -/
inductive Opened (ε : Type) where
  | failed (error : ε) (value : Bool)
  | absent
  | opened

/-- Calls on a connection, and others, `X`. -/
inductive Request (S X : Type) where
  | db (call : Call S)
  | outside (request : X)

/-- The answers; `A` are those to the statements, `B` those to the other requests. -/
def Reply (ε : Type) {S X : Type} (A : S → Type) (B : X → Type) : Request S X → Type
  | .db .acquire => Opened ε
  | .db (.begin _) => Opened ε
  | .db (.send statement) => A statement
  | .db .commit => Option ε
  | .db .rollback => Option ε
  | .db .release => Unit
  | .db .destroy => Unit
  | .outside request => B request

/-- A program over such calls. -/
abbrev Program (ε : Type) {S X : Type} (A : S → Type) (B : X → Type) (α : Type) :=
  Prog (Request S X) (Reply ε A B) α

section
variable {ε S X : Type} {A : S → Type} {B : X → Type}

/-- The calls, as programs. -/
def acquire : Program ε A B (Opened ε) := .call (.db .acquire) .ret

@[inherit_doc acquire]
def begin (access : Access) : Program ε A B (Opened ε) := .call (.db (.begin access)) .ret

@[inherit_doc acquire]
def send (statement : S) : Program ε A B (A statement) := .call (.db (.send statement)) .ret

@[inherit_doc acquire]
def commit : Program ε A B (Option ε) := .call (.db .commit) .ret

@[inherit_doc acquire]
def rollback : Program ε A B (Option ε) := .call (.db .rollback) .ret

@[inherit_doc acquire]
def release : Program ε A B Unit := .call (.db .release) .ret

@[inherit_doc acquire]
def destroy : Program ε A B Unit := .call (.db .destroy) .ret

/-- Hand the connection back: destroy it, or release it for others. -/
def handBack (destroyed : Bool) : Program ε A B Unit := if destroyed then destroy else release

@[inherit_doc acquire]
def ask (request : X) : Program ε A B (B request) := .call (.outside request) .ret

/-! ## Deferred functions

A function that holds a connection keeps two variables and leaves the end to two deferred
functions, which run on every exit.  The variables are passed on, also through the helpers that
have pointers to them. -/

/-- The variables `release` and `transactionOpen`. -/
structure Cleanup where
  release : Bool
  transactionOpen : Bool

/-- `Destroy`, after which the connection is not released. -/
def destroyConnection (flags : Cleanup) : Program ε A B Cleanup := do
  destroy
  return { flags with release := false }

@[inherit_doc destroyConnection]
def destroyConnectionIf (condition : Bool) (flags : Cleanup) : Program ε A B Cleanup :=
  if condition then destroyConnection flags else return flags

/-- The deferred functions: `rollbackOpen` is for a transaction that is still open, and then the
connection is released. -/
def close {α : Type} (rollbackOpen : α × Cleanup → Program ε A B (α × Cleanup))
    (outcome : α × Cleanup) : Program ε A B α := do
  let outcome ← if outcome.2.transactionOpen then rollbackOpen outcome else pure outcome
  if outcome.2.release then release
  return outcome.1

/-- After the transaction has ended, they hand back a connection that was not destroyed. -/
theorem wp_close {σ α : Type} {env : Environment (Request S X) (Reply ε A B) σ} {destroyed : Bool}
    {rollbackOpen : α × Cleanup → Program ε A B (α × Cleanup)} {a : α} {Q : α → σ → Prop} {s : σ}
    (h : (do handBack destroyed; return a : Program ε A B α).wp env Q s) :
    (do return (a, ← destroyConnectionIf destroyed ⟨true, false⟩) : Program ε A B _).wp env
      (fun outcome => (close rollbackOpen outcome).wp env Q) s := by
  cases destroyed with
  | true => exact h
  | false => exact h

end

/-! ## Programs that only ask

A program that makes no call on a connection is proved once, from the answers it was given,
and then changes nothing over any database. -/

section
variable {ε S X σ α : Type} {A : S → Type} {B : X → Type}

/-- The requests of a trace that are not calls on a connection. -/
def asked (trace : List (Sigma (Reply ε A B))) : List (Sigma B) :=
  trace.filterMap fun exchange =>
    match exchange with
    | ⟨.outside request, r⟩ => some ⟨request, r⟩
    | ⟨.db _, _⟩ => none

variable {trace : List (Sigma (Reply ε A B))}

theorem mem_asked {request : X} {r : B request} :
    ⟨request, r⟩ ∈ asked trace ↔ ⟨.outside request, r⟩ ∈ trace := by
  unfold asked
  rw [List.mem_filterMap]
  constructor
  · rintro ⟨⟨call | request', r'⟩, hmem, heq⟩
    · cases heq
    · cases heq
      exact hmem
  · exact fun hmem => ⟨_, hmem, rfl⟩

/-- The environment that may answer anything, refuses calls on a connection, and keeps a record
of its answers. -/
def asking : Environment (Request S X) (Reply ε A B) (List (Sigma B)) where
  pre _ e := ∃ request, e = .outside request
  step record e r record' := record' = record ++ asked [⟨e, r⟩]

variable {record : List (Sigma B)}

@[simp] theorem wp_ask_asking {request : X} {Q : B request → List (Sigma B) → Prop} :
    (ask request : Program ε A B _).wp asking Q record ↔ ∀ r, Q r (record ++ [⟨request, r⟩]) := by
  constructor
  · exact fun h r => h.2 r _ rfl
  · intro h
    refine ⟨⟨request, rfl⟩, ?_⟩
    rintro r _ rfl
    exact h r

/-- What is proved with nothing assumed of the answers holds in every environment. -/
theorem asking_sound {step : σ → (e : Request S X) → Reply ε A B e → σ → Prop} {p : Program ε A B α}
    {Q : α → List (Sigma B) → Prop} {s s' : σ} {a : α} (h : p.wp asking Q record)
    (ht : p.Traces step s trace a s') : Q a (record ++ asked trace) := by
  induction ht generalizing record with
  | ret => simpa [asked] using Prog.wp_pure.mp h
  | call _ _ ih =>
    have hrest := ih (h.2 _ _ rfl)
    rwa [List.append_assoc, asked, asked, ← List.filterMap_append] at hrest

end

/-- A program's own transaction, and the log of the changes it has made. -/
@[ext] structure Local (σ τ : Type) where
  tx : Option (Access × τ)
  own : List (σ × σ)

/-- The database: what statements and commits do, and what others may do. -/
structure Spec (ε : Type) {S X : Type} (A : S → Type) (B : X → Type) (σ τ : Type) where
  /-- The transaction at its beginning. -/
  initial : τ
  /-- A statement in a transaction on the committed state. -/
  send : σ → Access → τ → (statement : S) → A statement → τ → Prop
  /-- The committed state after the transaction has taken effect. -/
  result : τ → σ → σ → Prop
  /-- The errors of a commit that has not taken effect. -/
  definite : ε → Prop
  /-- Whether a transaction may have taken effect although it was rolled back, when that
  failed. -/
  mayKeep : Prop
  /-- The answers to the other requests. -/
  answers : (request : X) → B request → Prop
  /-- The changes that transactions are meant to make. -/
  intended : τ → σ → σ → Prop
  /-- What others may do beside a transaction. -/
  rely : Option τ → σ → σ → Prop
  /-- The transactions that may be open at the same time. -/
  compatible : Option τ → Option τ → Prop

/-- The committed state moves from one to another: by what others do, and in between by
the changes of the list. -/
inductive History {σ : Type} (others : σ → σ → Prop) : σ → List (σ × σ) → σ → Prop
  | nil {s s' : σ} : others s s' → History others s [] s'
  | cons {s b a s' : σ} {changes : List (σ × σ)} :
      others s b → History others a changes s' → History others s ((b, a) :: changes) s'

namespace History
variable {σ : Type} {others : σ → σ → Prop} {s s' s'' : σ} {changes changes' : List (σ × σ)}

theorem before (htrans : ∀ a b c, others a b → others b c → others a c) (h : others s s')
    (h' : History others s' changes s'') : History others s changes s'' := by
  cases h' with
  | nil h₁ => exact .nil (htrans _ _ _ h h₁)
  | cons h₁ hrest => exact .cons (htrans _ _ _ h h₁) hrest

theorem append (htrans : ∀ a b c, others a b → others b c → others a c)
    (h : History others s changes s') (h' : History others s' changes' s'') :
    History others s (changes ++ changes') s'' := by
  induction h with
  | nil h₁ => exact h'.before htrans h₁
  | cons h₁ _ ih => exact .cons h₁ (ih h')

end History

namespace Spec
variable {ε S X σ τ : Type} {A : S → Type} {B : X → Type} (spec : Spec ε A B σ τ)

/-- The transaction is gone and has changed nothing. -/
def Dropped (s : σ) (l l' : Local σ τ) (s' : σ) : Prop := s' = s ∧ l' = ⟨none, l.own⟩

/-- The transaction has taken effect. -/
def Kept (s : σ) (l l' : Local σ τ) (s' : σ) : Prop :=
  match l.tx with
  | none => s' = s ∧ l' = ⟨none, l.own⟩
  | some (.readOnly, _) => s' = s ∧ l' = ⟨none, l.own⟩
  | some (.readWrite, t) => spec.result t s s' ∧ l' = ⟨none, l.own ++ [(s, s')]⟩

/-- What a call does. -/
def act (s : σ) (l : Local σ τ) :
    (request : Request S X) → Reply ε A B request → Local σ τ → σ → Prop
  | .db .acquire, _, l', s' => s' = s ∧ l' = l
  | .db (.begin access), .opened, l', s' => s' = s ∧ l' = ⟨some (access, spec.initial), l.own⟩
  | .db (.begin _), _, l', s' => s' = s ∧ l' = l
  | .db (.send statement), answer, l', s' => s' = s ∧
      match l.tx with
      | none => l' = l
      | some (access, t) =>
        ∃ t', spec.send s access t statement answer t' ∧ l' = ⟨some (access, t'), l.own⟩
  | .db .commit, none, l', s' => spec.Kept s l l' s'
  | .db .commit, some error, l', s' =>
      Dropped s l l' s' ∨ ¬ spec.definite error ∧ spec.Kept s l l' s'
  | .db .rollback, none, l', s' => Dropped s l l' s'
  | .db .rollback, some _, l', s' => Dropped s l l' s' ∨ spec.mayKeep ∧ spec.Kept s l l' s'
  | .db .release, _, l', s' => s' = s ∧ l' = l
  | .db .destroy, _, l', s' => s' = s ∧ l' = l
  | .outside request, answer, l', s' => s' = s ∧ l' = l ∧ spec.answers request answer

/-- A transaction that is about to be committed makes an intended change. -/
def pre (s : σ) (l : Local σ τ) : Request S X → Prop
  | .db .commit => ∀ t s', l.tx = some (.readWrite, t) → spec.result t s s' → spec.intended t s s'
  | _ => True

/-- Sessions that share the committed state. -/
def shared : Shared (Request S X) (Reply ε A B) σ (Local σ τ) where
  act := spec.act
  pre := spec.pre
  rely l := spec.rely (l.tx.map Prod.snd)
  compatible l l' := spec.compatible (l.tx.map Prod.snd) (l'.tx.map Prod.snd)

/-- A program with such a database. -/
def environment : Environment (Request S X) (Reply ε A B) (σ × Local σ τ) :=
  spec.shared.environment

/-! ## The rules of the calls

What must hold before a call, so that `Q` holds after it.  The others' interference
comes first. -/

section
variable {spec} {s : σ} {own : List (σ × σ)} {t : τ} {l : Local σ τ}

theorem wp_acquire {Q : Opened ε → σ × Local σ τ → Prop} :
    (acquire : Program ε A B _).wp spec.environment Q (s, l) ↔
      ∀ s', spec.rely (l.tx.map Prod.snd) s s' → ∀ r, Q r (s', l) := by
  constructor
  · exact fun h s' hs r => h.2 r (s', l) ⟨s', hs, rfl, rfl⟩
  · intro h
    refine ⟨fun _ _ => trivial, ?_⟩
    rintro r ⟨s', l'⟩ ⟨_, hs, rfl, rfl⟩
    exact h s' hs r

theorem wp_begin {access : Access} {Q : Opened ε → σ × Local σ τ → Prop} :
    (begin access : Program ε A B _).wp spec.environment Q (s, l) ↔
      ∀ s', spec.rely (l.tx.map Prod.snd) s s' → (∀ e v, Q (.failed e v) (s', l)) ∧
        Q .absent (s', l) ∧ Q .opened (s', ⟨some (access, spec.initial), l.own⟩) := by
  constructor
  · exact fun h s' hs => ⟨fun e v => h.2 (.failed e v) (s', l) ⟨s', hs, rfl, rfl⟩,
      h.2 .absent (s', l) ⟨s', hs, rfl, rfl⟩, h.2 .opened (s', _) ⟨s', hs, rfl, rfl⟩⟩
  · intro h
    refine ⟨fun _ _ => trivial, ?_⟩
    rintro (⟨e, v⟩ | _ | _) ⟨s', l'⟩ ⟨_, hs, rfl, rfl⟩
    · exact (h s' hs).1 e v
    · exact (h s' hs).2.1
    · exact (h s' hs).2.2

theorem wp_send {access : Access} {statement : S} {Q : A statement → σ × Local σ τ → Prop} :
    (Session.send statement : Program ε A B _).wp spec.environment Q (s, ⟨some (access, t), own⟩) ↔
      ∀ s', spec.rely (some t) s s' → ∀ r t', spec.send s' access t statement r t' →
        Q r (s', ⟨some (access, t'), own⟩) := by
  constructor
  · exact fun h s' hs r t' hsend => h.2 r (s', _) ⟨s', hs, rfl, t', hsend, rfl⟩
  · intro h
    refine ⟨fun _ _ => trivial, ?_⟩
    rintro r ⟨s', l'⟩ ⟨_, hs, rfl, t', hsend, rfl⟩
    exact h s' hs r t' hsend

variable {Q : Option ε → σ × Local σ τ → Prop}

theorem wp_rollback :
    (rollback : Program ε A B _).wp spec.environment Q (s, ⟨some (.readWrite, t), own⟩) ↔
      ∀ s', spec.rely (some t) s s' → (∀ r, Q r (s', ⟨none, own⟩)) ∧
        (spec.mayKeep → ∀ e s'', spec.result t s' s'' →
          Q (some e) (s'', ⟨none, own ++ [(s', s'')]⟩)) := by
  constructor
  · refine fun h s' hs => ⟨fun r => ?_, fun hk e s'' hres =>
      h.2 (some e) (s'', ⟨none, own ++ [(s', s'')]⟩) ⟨s', hs, Or.inr ⟨hk, hres, rfl⟩⟩⟩
    cases r with
    | none => exact h.2 none (s', _) ⟨s', hs, rfl, rfl⟩
    | some e => exact h.2 (some e) (s', _) ⟨s', hs, Or.inl ⟨rfl, rfl⟩⟩
  · intro h
    refine ⟨fun _ _ => trivial, ?_⟩
    rintro (_ | e) ⟨s'', l''⟩ ⟨s', hs, hact⟩
    · obtain ⟨rfl, rfl⟩ : s'' = s' ∧ l'' = ⟨none, own⟩ := hact
      exact (h s'' hs).1 none
    · rcases hact with ⟨rfl, rfl⟩ | ⟨hk, hres, hl⟩
      · exact (h s'' hs).1 (some e)
      · rw [show l'' = _ from hl]
        exact (h s' hs).2 hk e _ hres

theorem wp_commit :
    (commit : Program ε A B _).wp spec.environment Q (s, ⟨some (.readWrite, t), own⟩) ↔
      ∀ s', spec.rely (some t) s s' → (∀ e, Q (some e) (s', ⟨none, own⟩)) ∧
        ∀ s'', spec.result t s' s'' → spec.intended t s' s'' ∧
          Q none (s'', ⟨none, own ++ [(s', s'')]⟩) ∧
          ∀ e, ¬ spec.definite e → Q (some e) (s'', ⟨none, own ++ [(s', s'')]⟩) := by
  constructor
  · exact fun h s' hs => ⟨fun e => h.2 (some e) (s', _) ⟨s', hs, Or.inl ⟨rfl, rfl⟩⟩,
      fun s'' hres => ⟨h.1 s' hs t s'' rfl hres,
        h.2 none (s'', ⟨none, own ++ [(s', s'')]⟩) ⟨s', hs, hres, rfl⟩,
        fun e he => h.2 (some e) (s'', ⟨none, own ++ [(s', s'')]⟩)
          ⟨s', hs, Or.inr ⟨he, hres, rfl⟩⟩⟩⟩
  · intro h
    refine ⟨fun s' hs t' s'' htx hres => ?_, ?_⟩
    · cases htx
      exact ((h s' hs).2 s'' hres).1
    · rintro (_ | e) ⟨s'', l''⟩ ⟨s', hs, hact⟩
      · obtain ⟨hres, hl⟩ := hact
        rw [show l'' = _ from hl]
        exact ((h s' hs).2 _ hres).2.1
      · rcases hact with ⟨rfl, rfl⟩ | ⟨he, hres, hl⟩
        · exact (h s'' hs).1 e
        · rw [show l'' = _ from hl]
          exact ((h s' hs).2 _ hres).2.2 e he

/-- A transaction that only reads ends without a trace. -/
theorem wp_rollback_readOnly :
    (rollback : Program ε A B _).wp spec.environment Q (s, ⟨some (.readOnly, t), own⟩) ↔
      ∀ s', spec.rely (some t) s s' → ∀ r, Q r (s', ⟨none, own⟩) := by
  constructor
  · refine fun h s' hs r => ?_
    cases r with
    | none => exact h.2 none (s', _) ⟨s', hs, rfl, rfl⟩
    | some e => exact h.2 (some e) (s', _) ⟨s', hs, Or.inl ⟨rfl, rfl⟩⟩
  · intro h
    refine ⟨fun _ _ => trivial, ?_⟩
    rintro (_ | e) ⟨s'', l''⟩ ⟨s', hs, hact⟩
    · obtain ⟨rfl, rfl⟩ : s'' = s' ∧ l'' = ⟨none, own⟩ := hact
      exact h s'' hs none
    · rcases hact with ⟨rfl, rfl⟩ | ⟨-, rfl, rfl⟩ <;> exact h s'' hs (some e)

@[inherit_doc wp_rollback_readOnly]
theorem wp_commit_readOnly :
    (commit : Program ε A B _).wp spec.environment Q (s, ⟨some (.readOnly, t), own⟩) ↔
      ∀ s', spec.rely (some t) s s' → ∀ r, Q r (s', ⟨none, own⟩) := by
  constructor
  · refine fun h s' hs r => ?_
    cases r with
    | none => exact h.2 none (s', _) ⟨s', hs, rfl, rfl⟩
    | some e => exact h.2 (some e) (s', _) ⟨s', hs, Or.inl ⟨rfl, rfl⟩⟩
  · intro h
    refine ⟨fun _ _ _ _ htx => (by cases htx), ?_⟩
    rintro (_ | e) ⟨s'', l''⟩ ⟨s', hs, hact⟩
    · obtain ⟨rfl, rfl⟩ : s'' = s' ∧ l'' = ⟨none, own⟩ := hact
      exact h s'' hs none
    · rcases hact with ⟨rfl, rfl⟩ | ⟨-, rfl, rfl⟩ <;> exact h s'' hs (some e)

theorem wp_release {Q : Unit → σ × Local σ τ → Prop} :
    (release : Program ε A B _).wp spec.environment Q (s, l) ↔
      ∀ s', spec.rely (l.tx.map Prod.snd) s s' → Q () (s', l) := by
  constructor
  · exact fun h s' hs => h.2 () (s', l) ⟨s', hs, rfl, rfl⟩
  · intro h
    refine ⟨fun _ _ => trivial, ?_⟩
    rintro _ ⟨s', l'⟩ ⟨_, hs, rfl, rfl⟩
    exact h s' hs

theorem wp_destroy {Q : Unit → σ × Local σ τ → Prop} :
    (destroy : Program ε A B _).wp spec.environment Q (s, l) ↔
      ∀ s', spec.rely (l.tx.map Prod.snd) s s' → Q () (s', l) := by
  constructor
  · exact fun h s' hs => h.2 () (s', l) ⟨s', hs, rfl, rfl⟩
  · intro h
    refine ⟨fun _ _ => trivial, ?_⟩
    rintro _ ⟨s', l'⟩ ⟨_, hs, rfl, rfl⟩
    exact h s' hs

theorem wp_handBack {destroyed : Bool} {Q : Unit → σ × Local σ τ → Prop} :
    (handBack destroyed : Program ε A B _).wp spec.environment Q (s, l) ↔
      ∀ s', spec.rely (l.tx.map Prod.snd) s s' → Q () (s', l) := by
  cases destroyed with
  | true => exact wp_destroy
  | false => exact wp_release

theorem wp_ask {request : X} {Q : B request → σ × Local σ τ → Prop} :
    (ask request : Program ε A B _).wp spec.environment Q (s, l) ↔
      ∀ s', spec.rely (l.tx.map Prod.snd) s s' → ∀ r, spec.answers request r → Q r (s', l) := by
  constructor
  · exact fun h s' hs r hr => h.2 r (s', l) ⟨s', hs, rfl, rfl, hr⟩
  · intro h
    refine ⟨fun _ _ => trivial, ?_⟩
    rintro r ⟨s', l'⟩ ⟨_, hs, rfl, rfl, hr⟩
    exact h s' hs r hr

/-- A program that only asks leaves the transaction as it is, and was answered as the
specification allows. -/
theorem wp_of_asking {α : Type} {p : Program ε A B α} {R : σ → σ → Prop} (hrefl : ∀ s, R s s)
    (htrans : ∀ s s' s'', R s s' → R s' s'' → R s s'')
    (hrely : ∀ s s', spec.rely (l.tx.map Prod.snd) s s' → R s s')
    {Q : α → List (Sigma B) → Prop} {record : List (Sigma B)} (h : p.wp asking Q record)
    (hrecord : ∀ x ∈ record, spec.answers x.1 x.2) :
    p.wp spec.environment (fun a q => R s q.1 ∧ q.2 = l ∧
      ∃ record, (∀ x ∈ record, spec.answers x.1 x.2) ∧ Q a record) (s, l) := by
  induction p generalizing record s with
  | ret a => exact ⟨hrefl s, rfl, record, hrecord, h⟩
  | call e k ih =>
    obtain ⟨⟨request, rfl⟩, hstep⟩ := h
    refine ⟨fun _ _ => trivial, ?_⟩
    rintro r ⟨s', l'⟩ ⟨_, hs, rfl, rfl, hr⟩
    refine Prog.wp_mono (ih r (hstep r _ rfl) fun x hx => ?_) ?_
    · rcases List.mem_append.mp hx with hx | hx
      · exact hrecord x hx
      · rw [List.mem_singleton.mp hx]
        exact hr
    · rintro a q ⟨hs', hl, hrest⟩
      exact ⟨htrans _ _ _ (hrely _ _ hs) hs', hl, hrest⟩
  | stop reason => trivial

end

/-! ## Sessions beside each other

Where a rollback drops its transaction, the committed state changes by intended changes
only, and programs that are correct alone are correct together. -/

section
variable {spec} {s s' : σ} {l l' : Local σ τ}

theorem Kept.cases (h : spec.Kept s l l' s') :
    s' = s ∨ ∃ t, l.tx = some (.readWrite, t) ∧ spec.result t s s' := by
  unfold Kept at h
  split at h
  · exact .inl h.1
  · exact .inl h.1
  · exact .inr ⟨_, ‹_›, h.1⟩

/-- A call leaves the committed state as it is, or makes an intended change. -/
theorem act_cases (hkeep : ¬ spec.mayKeep) {request : Request S X} {reply : Reply ε A B request}
    (hpre : spec.pre s l request) (hact : spec.act s l request reply l' s') :
    s' = s ∨ ∃ t, l.tx = some (.readWrite, t) ∧ spec.intended t s s' := by
  have hkept : request = .db .commit → spec.Kept s l l' s' →
      s' = s ∨ ∃ t, l.tx = some (.readWrite, t) ∧ spec.intended t s s' := by
    rintro rfl h
    rcases h.cases with rfl | ⟨t, htx, hresult⟩
    · exact .inl rfl
    · exact .inr ⟨t, htx, hpre t s' htx hresult⟩
  match request, reply with
  | .db .acquire, _ => exact .inl hact.1
  | .db (.begin _), .opened => exact .inl hact.1
  | .db (.begin _), .absent => exact .inl hact.1
  | .db (.begin _), .failed _ _ => exact .inl hact.1
  | .db (.send _), _ => exact .inl hact.1
  | .db .commit, none => exact hkept rfl hact
  | .db .commit, some _ => exact hact.elim (fun h => .inl h.1) fun h => hkept rfl h.2
  | .db .rollback, none => exact .inl hact.1
  | .db .rollback, some _ => exact hact.elim (fun h => .inl h.1) fun h => absurd h.1 hkeep
  | .db .release, _ => exact .inl hact.1
  | .db .destroy, _ => exact .inl hact.1
  | .outside _, _ => exact .inl hact.1

/-- The law that the interleaving of sessions needs: an intended change is what the
sessions beside its transaction expect. -/
theorem lawful (hkeep : ¬ spec.mayKeep) (hrefl : ∀ t s, spec.rely t s s)
    (htrans : ∀ t s s' s'', spec.rely t s s' → spec.rely t s' s'' → spec.rely t s s'')
    (hsymm : ∀ t u, spec.compatible t u → spec.compatible u t)
    (hintended : ∀ t u s s', spec.intended t s s' → spec.compatible u (some t) →
      spec.rely u s s') : spec.shared.Lawful where
  refl _ := hrefl _
  trans _ := htrans _
  symm _ _ := hsymm _ _
  guarantee := by
    intro s l request reply l' s' u hpre hact hcompatible
    rcases act_cases hkeep hpre hact with rfl | ⟨t, htx, h⟩
    · exact hrefl _ _
    · refine hintended t _ s s' h ?_
      simpa only [shared, htx, Option.map_some] using hcompatible

variable {ι α : Type} {Q : ι → α → σ × Local σ τ → Prop}
  {c c' : Shared.Config (Request S X) (Reply ε A B) σ (Local σ τ) α ι}

/-- **What the intended changes keep holds of the committed state in every interleaving.** -/
theorem invariant (hkeep : ¬ spec.mayKeep) (hl : spec.shared.Lawful)
    (hQ : ∀ i a l s s', spec.shared.rely l s s' → Q i a (s, l) → Q i a (s', l)) {P : σ → Prop}
    (hP : ∀ t s s', spec.intended t s s' → P s → P s') {is : List ι}
    (hrun : Run spec.shared.Step c is c') (hc : spec.shared.Correct Q c) (h : P c.shared) :
    P c'.shared := by
  refine (hrun.invariant (P := fun c => spec.shared.Correct Q c ∧ P c.shared) ?_ ⟨hc, h⟩).2
  rintro c i c' ⟨hc, h⟩ hstep
  obtain ⟨hc', request, reply, hpre, hact⟩ := hl.step hQ hc hstep
  refine ⟨hc', ?_⟩
  rcases act_cases hkeep hpre hact with hs | ⟨t, -, hintended⟩
  · exact hs ▸ h
  · exact hP t _ _ hintended h

end

/-! ## Calls

A call starts and ends without a transaction.  What it returns, and the changes it has
made, are related by `P`, whatever others do meanwhile. -/

/-- The call has ended with `a`, and has made changes of which `P` holds. -/
def Ended {α : Type} (others : σ → σ → Prop) (s : σ) (own : List (σ × σ))
    (P : α → List (σ × σ) → Prop) (a : α) (p : σ × Local σ τ) : Prop :=
  ∃ changes, p.2 = ⟨none, own ++ changes⟩ ∧ History others s changes p.1 ∧ P a changes

/-- Every execution of the call ends so. -/
def Ends {α : Type} (others : σ → σ → Prop) (p : Program ε A B α)
    (P : α → List (σ × σ) → Prop) : Prop :=
  ∀ s own, p.wp spec.environment (Ended others s own P) (s, ⟨none, own⟩)

/-- `others` is what others do in the course of a call. -/
structure Interference (others : σ → σ → Prop) : Prop where
  refl : ∀ s, others s s
  trans : ∀ s s' s'', others s s' → others s' s'' → others s s''
  rely : ∀ t s s', spec.rely t s s' → others s s'

namespace Ends
variable {spec} {others : σ → σ → Prop} {α β : Type} {p : Program ε A B α}
  {P P' : α → List (σ × σ) → Prop}

/-- **What is proved of a call holds of all its executions.** -/
theorem sound (h : spec.Ends others p P) {s s' : σ} {own : List (σ × σ)} {a : α} {l : Local σ τ}
    (hr : p.Runs spec.environment.step (s, ⟨none, own⟩) a (s', l)) :
    ∃ changes, l = ⟨none, own ++ changes⟩ ∧ History others s changes s' ∧ P a changes :=
  Prog.wp_sound (h s own) hr

theorem mono (h : spec.Ends others p P) (hP : ∀ a changes, P a changes → P' a changes) :
    spec.Ends others p P' := by
  refine fun s own => Prog.wp_mono (h s own) ?_
  rintro a _ ⟨changes, hl, hh, ha⟩
  exact ⟨changes, hl, hh, hP a changes ha⟩

theorem pure (hi : spec.Interference others) {a : α} (h : P a []) :
    spec.Ends others (Pure.pure a) P :=
  fun s own => ⟨[], by simp, .nil (hi.refl s), h⟩

theorem ask (hi : spec.Interference others) {request : X} {P : B request → List (σ × σ) → Prop}
    (h : ∀ r, spec.answers request r → P r []) : spec.Ends others (Session.ask request) P :=
  fun _ _ => wp_ask.mpr fun s' hs r hr => ⟨[], by simp, .nil (hi.rely _ _ _ hs), h r hr⟩

variable {Q : β → List (σ × σ) → Prop} {f : α → Program ε A B β}

/-- A computation without calls, and what follows it. -/
theorem settle {x : Except Stop α} (hf : ∀ a, x = .ok a → spec.Ends others (f a) Q) :
    spec.Ends others ((liftM x : Program ε A B α) >>= f) Q :=
  fun s own => Prog.wp_bind.mpr (Prog.wp_settle (fun _ _ => trivial) fun a ha => hf a ha s own)

/-- One call after another: their changes are put together. -/
theorem bind (hi : spec.Interference others) (h : spec.Ends others p P)
    (hf : ∀ a changes, P a changes →
      spec.Ends others (f a) fun b more => Q b (changes ++ more)) :
    spec.Ends others (p >>= f) Q := by
  intro s own
  rw [Prog.wp_bind]
  refine Prog.wp_mono (h s own) ?_
  rintro a ⟨s', _⟩ ⟨changes, rfl, hh, ha⟩
  refine Prog.wp_mono (hf a changes ha s' (own ++ changes)) ?_
  rintro b ⟨s'', _⟩ ⟨more, rfl, hh', hb⟩
  exact ⟨changes ++ more, by simp, hh.append hi.trans hh', hb⟩

end Ends

/-- The call changes nothing. -/
def Reads {α : Type} (others : σ → σ → Prop) (p : Program ε A B α) (P : α → Prop) : Prop :=
  spec.Ends others p fun a changes => changes = [] ∧ P a

namespace Reads
variable {spec} {others : σ → σ → Prop} {α β : Type} {p : Program ε A B α} {P : α → Prop}

theorem pure (hi : spec.Interference others) {a : α} (h : P a) :
    spec.Reads others (Pure.pure a) P :=
  Ends.pure hi ⟨rfl, h⟩

theorem ask (hi : spec.Interference others) {request : X} :
    spec.Reads others (Session.ask request) (spec.answers request) :=
  Ends.ask hi fun _ hr => ⟨rfl, hr⟩

variable {f : α → Program ε A B β}

/-- A call after one that changes nothing. -/
theorem andThen (hi : spec.Interference others) {Q : β → List (σ × σ) → Prop}
    (h : spec.Reads others p P) (hf : ∀ a, P a → spec.Ends others (f a) Q) :
    spec.Ends others (p >>= f) Q := by
  refine Ends.bind hi h ?_
  rintro a _ ⟨rfl, ha⟩
  exact hf a ha

theorem bind (hi : spec.Interference others) {Q : β → Prop} (h : spec.Reads others p P)
    (hf : ∀ a, P a → spec.Reads others (f a) Q) :
    spec.Reads others (p >>= f) Q :=
  h.andThen hi hf

/-- A program that only asks changes nothing, and was answered as the specification allows. -/
theorem of_asking (hi : spec.Interference others) {Q : α → List (Sigma B) → Prop}
    (h : p.wp asking Q []) :
    spec.Reads others p fun a => ∃ record, (∀ x ∈ record, spec.answers x.1 x.2) ∧ Q a record := by
  intro s own
  refine Prog.wp_mono (wp_of_asking hi.refl hi.trans (fun _ _ => hi.rely _ _ _) h
    fun x hx => absurd hx List.not_mem_nil) ?_
  rintro a ⟨s', _⟩ ⟨hs, rfl, hrecord⟩
  exact ⟨[], by simp, .nil hs, rfl, hrecord⟩

end Reads

/-! ## Clients

A client is a program whose calls are themselves carried out by programs over the
database.  What each of these guarantees is its contract, and a client is proved from
the contracts alone. -/

section
variable {E : Type} {R : E → Type}

/-- The calls of a client are carried out over the database. -/
def clientStep (handler : (e : E) → Program ε A B (R e)) (p : σ × Local σ τ) (e : E) (r : R e)
    (p' : σ × Local σ τ) : Prop :=
  (handler e).Runs spec.environment.step p r p'

/-- The calls answer and change what their contract says.  The state is a record of both. -/
def contracts (contract : (e : E) → R e → List (σ × σ) → Prop) :
    Environment E R (List (Sigma R) × List (σ × σ)) where
  pre _ _ := True
  step p e r p' := ∃ changes, contract e r changes ∧ p' = (p.1 ++ [⟨e, r⟩], p.2 ++ changes)

variable {contract : (e : E) → R e → List (σ × σ) → Prop} {trace : List (Sigma R)}
  {changes : List (σ × σ)}

theorem wp_call {e : E} {Q : R e → List (Sigma R) × List (σ × σ) → Prop} :
    (Prog.request e).wp (contracts contract) Q (trace, changes) ↔
      ∀ r more, contract e r more → Q r (trace ++ [⟨e, r⟩], changes ++ more) := by
  constructor
  · exact fun h r more hr => h.2 r _ ⟨more, hr, rfl⟩
  · intro h
    refine ⟨trivial, ?_⟩
    rintro r _ ⟨more, hr, rfl⟩
    exact h r more hr

variable {spec} {α : Type} {others : σ → σ → Prop} {handler : (e : E) → Program ε A B (R e)}
variable {a : α} {made : List (Sigma R)} {own : List (σ × σ)} {p : Prog E R α} {s s' : σ}

section
variable (hi : spec.Interference others) (hcalls : ∀ e, spec.Ends others (handler e) (contract e))
include hi hcalls

/-- **What is proved of a client from the contracts holds of all its executions**, if the
calls meet their contracts. -/
theorem Ends.client {P : List (Sigma R) → α → List (σ × σ) → Prop}
    (hwp : p.wp (contracts contract) (fun a q => P q.1 a q.2) (trace, changes)) {l : Local σ τ}
    (hr : p.Traces (spec.clientStep handler) (s, ⟨none, own⟩) made a (s', l)) :
    ∃ more, l = ⟨none, own ++ more⟩ ∧ History others s more s' ∧
      P (trace ++ made) a (changes ++ more) := by
  generalize hstart : (s, (⟨none, own⟩ : Local σ τ)) = start at hr
  generalize hend : (s', l) = last at hr
  induction hr generalizing s own trace changes with
  | ret =>
    obtain ⟨rfl, rfl⟩ := Prod.mk.inj (hend.trans hstart.symm)
    refine ⟨[], by simp, .nil (hi.refl _), ?_⟩
    simpa only [List.append_nil] using Prog.wp_pure.mp hwp
  | call hstep _ ih =>
    subst hstart
    rename_i mid _ e r k rest a hrest
    obtain ⟨m, lm⟩ := mid
    obtain ⟨c, rfl, hh, hc⟩ := (hcalls e).sound hstep
    obtain ⟨more, rfl, hh', hP⟩ := ih (hwp.2 r _ ⟨c, hc, rfl⟩) rfl hend
    refine ⟨c ++ more, by simp, hh.append hi.trans hh', ?_⟩
    simpa using hP

/-- Whatever a client does, its changes are those of its calls. -/
theorem Ends.client_history {l : Local σ τ}
    (hr : p.Traces (spec.clientStep handler) (s, ⟨none, own⟩) made a (s', l)) :
    ∃ more, l = ⟨none, own ++ more⟩ ∧ History others s more s' := by
  have htrivial : ∀ (p : Prog E R α) q, p.wp (contracts contract) (fun _ _ => True) q := by
    intro p
    induction p with
    | ret => exact fun _ => trivial
    | call e k ih => exact fun _ => ⟨trivial, fun r q _ => ih r q⟩
    | stop reason => exact fun _ => trivial
  obtain ⟨more, hl, hh, -⟩ :=
    Ends.client (P := fun _ _ _ => True) hi hcalls (htrivial p ([], [])) hr
  exact ⟨more, hl, hh⟩

/-- **A call of a client that changes nothing** was carried out between two states that
others have made. -/
theorem Ends.client_call
    (hr : p.Traces (spec.clientStep handler) (s, ⟨none, own⟩) made a (s', ⟨none, own⟩)) {e : E}
    {r : R e} (hmem : ⟨e, r⟩ ∈ made) :
    ∃ s₁ s₂, others s s₁ ∧
      (handler e).Runs spec.environment.step (s₁, ⟨none, own⟩) r (s₂, ⟨none, own⟩) ∧
      others s₂ s' := by
  generalize hstart : (s, (⟨none, own⟩ : Local σ τ)) = start at hr
  generalize hend : (s', (⟨none, own⟩ : Local σ τ)) = last at hr
  induction hr generalizing s with
  | ret => cases hmem
  | call hstep hrest ih =>
    subst hstart hend
    rename_i mid _ _ _ _ _
    obtain ⟨m, _⟩ := mid
    obtain ⟨c, rfl, hh, -⟩ := (hcalls _).sound hstep
    obtain ⟨more, hl, hh'⟩ := Ends.client_history hi hcalls hrest
    -- the changes of this call and of the rest are none
    obtain ⟨rfl, rfl⟩ : c = [] ∧ more = [] := by simpa using congrArg Local.own hl
    obtain ⟨hs⟩ := hh
    obtain ⟨hs'⟩ := hh'
    rw [List.append_nil] at hstep ih
    rcases List.mem_cons.mp hmem with hhead | htail
    · cases hhead
      exact ⟨s, m, hi.refl s, hstep, hs'⟩
    · obtain ⟨s₁, s₂, h₁, hruns, h₂⟩ := ih htail rfl rfl
      exact ⟨s₁, s₂, hi.trans _ _ _ hs h₁, hruns, h₂⟩

end

end

end Spec

end Session
