import OncallGateway.Lib.Program
import Mathlib.Order.Basic

/-! # Error values and the walks over them

The program's own errors are few: package-level sentinels, a `*SafeError` around
one of them, a `lifecycleInternalError` around one of them, a
`replayOutcomeUnknownError`, and the join of two errors.  A driver or another
dependency may return anything: a value that wraps another, several others,
itself, or a typed nil pointer.  Such a value is a node `ν` of a graph, and
`ErrorValues.view` is what the program can see of it.  Nothing is assumed of the
graph; it may be cyclic or infinite.

The lifecycle code walks such a graph along single causes only and for at most 64 nodes
(`singleCauseMatches`, `singleCauseChain`), and it compares with a sentinel by
identity.  The standard library's `errors.Is` and `errors.As` follow every cause, in depth
first, until they find what they look for (`GoError.find`).  On a cycle they may not come
back, and what `errors.As` finds may be a nil pointer, whose fields cannot be read; the
program then stops (`errorsIs`, `isConnectionInterruption`).  An error that was found to be one
chain of single causes is `Walkable`: none of this happens (`walkable_of_singleCauseChain`).
-/

namespace OncallGateway

/-- The package-level error variables that the modelled code compares with or
returns. -/
inductive Sentinel where
  | contextCanceled | contextDeadlineExceeded
  | ioEOF | ioErrUnexpectedEOF | ioErrClosedPipe | netErrClosed
  | pgxErrNoRows | pgxErrTxClosed | pgxErrTxCommitRollback
  | errInvalidState | errAudienceMismatch | errDestinationNotFound
  | errCredentialNotFound | errPrincipalNotAuthorized | errReplayUnavailable
  | errReplayOutcomeUnknown
  | errAuthenticationStateIntegrity | errDestinationResolverIntegrity
  | errDestinationResolverUnavailable
  | errDestinationLifecycleInvalid | errDestinationLifecycleConflict
  | errDestinationLifecycleReconciliation | errDestinationLifecycleUnavailable
  | errDestinationLifecycleOutcomeUnknown | errDestinationLifecycleCanceled
  | errDestinationLifecycleDeadline
  | errDestinationTokenRotationInvalid | errDestinationTokenRotationConflict
  | errDestinationTokenRotationUnavailable | errDestinationTokenRotationOutcomeUnknown
  | errDestinationTokenRotationReconciliation | errDestinationTokenRotationCanceled
  | errDestinationTokenRotationDeadline
  | errInvalidAcceptance | errReceiptGeneration | errStoreUnavailable | errStoreOutcomeUnknown
  | errStoreCanceled | errStoreFailure | errStoredRecordUnreadable
  | errProtectionInvalid | errProtectionKeyUnavailable | errProtectionRandom
  | errProtectionFailed | errProtectedDigestUnreadable
  | errInvalidRequest | errCanceled | errCanonicalEvent
deriving DecidableEq

/-- An error value; `ν` are the values of the dependencies. -/
inductive GoError (ν : Type) where
  | sentinel (s : Sentinel)
  /-- `*SafeError`, which unwraps to its kind. -/
  | safe (kind : Sentinel) (operation : String)
  /-- `lifecycleInternalError`, which unwraps to its kind. -/
  | internal (kind : Sentinel) (destroy : Bool)
  /-- `replayOutcomeUnknownError`, which is the cancellation as well, if there is one. -/
  | replayUnknown (cancellation : Option Sentinel)
  /-- `errors.Join` of two errors. -/
  | joined (first second : GoError ν)
  | foreign (value : ν)
deriving DecidableEq

/-- The `Unwrap` method a value implements: none, the one that returns an error
(which may be nil), or the one that returns several. -/
inductive Unwrap (ε : Type) where
  | none
  | single (cause : Option ε)
  | multiple (causes : List ε)

/-- The dynamic types `errors.As` is asked for. -/
inductive DynamicType where
  | pgError (code constraintName : String)
  | connectError
  | timeout
  | netError
  | other
deriving DecidableEq

/-- What can be seen of a dependency's error value: whether it is a typed nil
pointer, whether its type is comparable, its `Unwrap` and its `Is` method, if it has
one, and its dynamic type. -/
structure ErrorView (ν : Type) where
  typedNil : Bool
  comparable : Bool
  unwrap : Unwrap (GoError ν)
  is : Option (Sentinel → Bool)
  dynamic : DynamicType

/-- What can be seen of the dependencies' error values. -/
class ErrorValues (ν : Type) where
  view : ν → ErrorView ν

/-- The first thing that is found in the list, by a search that need not end. -/
def firstOf {α β : Type} (search : α → Option (Option β)) : List α → Option (Option β)
  | [] => some none
  | a :: as =>
    match search a with
    | some none => firstOf search as
    | found => found

namespace GoError
variable {ν : Type} [ErrorValues ν]

/-- `nilInterface` of a non-nil error: it holds a nil pointer. -/
def typedNil : GoError ν → Bool
  | foreign v => (ErrorValues.view v).typedNil
  | _ => false

/-- `reflect.TypeOf(err).Comparable()`. -/
def comparable : GoError ν → Bool
  | foreign v => (ErrorValues.view v).comparable
  | _ => true

/-- The value's `Unwrap` method. -/
def unwrapMethod : GoError ν → Unwrap (GoError ν)
  | sentinel _ => .none
  | safe kind _ => .single (some (sentinel kind))
  | internal kind _ => .single (some (sentinel kind))
  | replayUnknown _ => .none
  | joined a b => .multiple [a, b]
  | foreign v => (ErrorValues.view v).unwrap

/-- The value implements `Unwrap() []error`. -/
def ambiguous (e : GoError ν) : Bool :=
  match e.unwrapMethod with
  | .multiple _ => true
  | _ => false

/-- `errors.Unwrap`: the single cause, nil when there is none. -/
def unwrap (e : GoError ν) : Option (GoError ν) :=
  match e.unwrapMethod with
  | .single cause => cause
  | _ => none

omit [ErrorValues ν] in
/-- `err == target` for a sentinel, which is a comparison of identities. -/
def isSentinel : GoError ν → Sentinel → Bool
  | sentinel s, t => decide (s = t)
  | _, _ => false

variable {e : GoError ν} {t : Sentinel}

omit [ErrorValues ν] in
theorem isSentinel_iff : e.isSentinel t = true ↔ e = sentinel t := by
  cases e <;> simp [isSentinel]

/-- The value's own `Is` method. -/
def isMethod : GoError ν → Sentinel → Bool
  | internal kind _, t => decide (t = kind)
  | replayUnknown cancellation, t =>
    decide (t = .errReplayOutcomeUnknown) || decide (cancellation = some t)
  | foreign v, t => (ErrorValues.view v).is.any fun is => is t
  | _, _ => false

/-- The value's dynamic type. -/
def dynamic : GoError ν → DynamicType
  | foreign v => (ErrorValues.view v).dynamic
  | _ => .other

/-! ## Walks along single causes -/

/-- The loop of the three `SingleCauseMatches` functions, with `n` nodes left. -/
def singleCauseMatchesFrom : Nat → Option (GoError ν) → Sentinel → Bool
  | 0, _, _ => false
  | _, none, _ => false
  | n + 1, some e, t =>
    if e.typedNil then false
    else if e.ambiguous then false
    else if e.comparable && e.isSentinel t then true
    else singleCauseMatchesFrom n e.unwrap t

/-- Whether the sentinel `t` is met by following single causes from `e`, within 64
nodes and before a node that is a typed nil or has several causes. -/
def singleCauseMatches (e : GoError ν) (t : Sentinel) : Bool := singleCauseMatchesFrom 64 (some e) t

/-- Single causes lead from the error to the sentinel `t`, over at most `n` nodes, none of
which is a typed nil or has several causes. -/
inductive Reaches : Nat → GoError ν → Sentinel → Prop
  | here {n : Nat} {t : Sentinel} : Reaches (n + 1) (sentinel t) t
  | next {n : Nat} {e cause : GoError ν} {t : Sentinel} (typedNil : e.typedNil = false)
      (ambiguous : e.ambiguous = false) (unwrap : e.unwrap = some cause)
      (rest : Reaches n cause t) : Reaches (n + 1) e t

/-- **The bounded loop finds what single causes lead to.** -/
theorem singleCauseMatchesFrom_iff {n : Nat} :
    singleCauseMatchesFrom n (some e) t = true ↔ Reaches n e t := by
  induction n generalizing e with
  | zero => exact iff_of_false (by simp [singleCauseMatchesFrom]) fun h => by cases h
  | succ n ih =>
    by_cases hhere : e = sentinel t
    · subst hhere
      exact iff_of_true (by simp [singleCauseMatchesFrom, typedNil, ambiguous, unwrapMethod,
        comparable, isSentinel]) .here
    · have hsentinel : e.isSentinel t = false := by
        rw [← Bool.not_eq_true, isSentinel_iff]
        exact hhere
      unfold singleCauseMatchesFrom
      constructor
      · intro h
        cases hnil : e.typedNil with
        | true => simp [hnil] at h
        | false =>
          cases hambiguous : e.ambiguous with
          | true => simp [hnil, hambiguous] at h
          | false =>
            simp only [hnil, hambiguous, hsentinel, Bool.and_false, Bool.false_eq_true,
              if_false] at h
            cases hunwrap : e.unwrap with
            | none =>
              rw [hunwrap] at h
              cases n <;> cases h
            | some cause =>
              rw [hunwrap] at h
              exact .next hnil hambiguous hunwrap (ih.mp h)
      · intro h
        cases h with
        | here => exact absurd rfl hhere
        | next hnil hambiguous hunwrap rest =>
          simp only [hnil, hambiguous, hsentinel, Bool.and_false, Bool.false_eq_true, if_false,
            hunwrap]
          exact ih.mpr rest

theorem singleCauseMatches_iff :
    e.singleCauseMatches t = true ↔ e.Reaches 64 t := singleCauseMatchesFrom_iff

/-- A sentinel has no cause, so that single causes lead to one of them only. -/
theorem Reaches.unique {n m : Nat} {u : Sentinel} (h : e.Reaches n t) (h' : e.Reaches m u) :
    t = u := by
  induction h generalizing m with
  | here =>
    cases h' with
    | here => rfl
    | next _ _ hunwrap _ => cases hunwrap
  | next _ _ hunwrap _ ih =>
    cases h' with
    | here => cases hunwrap
    | next _ _ hunwrap' rest =>
      cases hunwrap.symm.trans hunwrap'
      exact ih rest

theorem Reaches.singleCauseMatches (h : e.Reaches 64 t) (u : Sentinel) :
    e.singleCauseMatches u = decide (t = u) := by
  by_cases heq : t = u
  · rw [decide_eq_true heq, ← heq]
    exact singleCauseMatches_iff.mpr h
  · rw [decide_eq_false heq, ← Bool.not_eq_true, singleCauseMatches_iff]
    exact fun h' => heq (h.unique h')

/-- The loop of `singleCauseChain`. -/
def singleCauseChainFrom : Nat → GoError ν → Bool
  | 0, _ => false
  | n + 1, e =>
    if e.typedNil then false
    else if e.ambiguous then false
    else match e.unwrap with
      | none => true
      | some cause => singleCauseChainFrom n cause

/-- `lifecycleRepositorySingleCauseChain`: the error is one chain of single causes
that ends within 64 nodes. -/
def singleCauseChain (e : GoError ν) : Bool := singleCauseChainFrom 64 e

/-- The loop of `singleCausePostgresError`. -/
def singleCausePostgresErrorFrom : Nat → Option (GoError ν) → Bool
  | 0, _ => false
  | _, none => false
  | n + 1, some e =>
    if e.typedNil then false
    else if e.ambiguous then false
    else match e.dynamic with
      | .pgError _ _ => true
      | _ => singleCausePostgresErrorFrom n e.unwrap

/-- A `*pgconn.PgError` is met by following single causes. -/
def singleCausePostgresError (e : GoError ν) : Bool := singleCausePostgresErrorFrom 64 (some e)

@[simp] theorem singleCauseMatches_sentinel (s t : Sentinel) :
    (sentinel s : GoError ν).singleCauseMatches t = decide (s = t) :=
  Reaches.here.singleCauseMatches t

@[simp] theorem singleCauseMatches_safe (kind t : Sentinel) (operation : String) :
    (safe kind operation : GoError ν).singleCauseMatches t = decide (kind = t) :=
  (Reaches.next rfl rfl rfl .here).singleCauseMatches t

/-! ## The standard library's walk -/

/-- The walk of `errors.Is` and `errors.As` down to a depth of `n`: the first node that `p`
accepts, or that there is none; no answer if the walk goes deeper before. -/
def findWithin (p : GoError ν → Bool) : Nat → GoError ν → Option (Option (GoError ν))
  | 0, _ => none
  | n + 1, e =>
    if p e then some (some e)
    else match e.unwrapMethod with
      | .none => some none
      | .single none => some none
      | .single (some cause) => findWithin p n cause
      | .multiple causes => firstOf (findWithin p n) causes

end GoError

/-- The graph of the dependencies' error values.  A walk over it need not end, so that a graph
comes with what the walks from its nodes find. -/
class ErrorGraph (ν : Type) extends ErrorValues ν where
  find : (GoError ν → Bool) → ν → Option (Option (GoError ν))
  find_iff : ∀ {p v found},
    find p v = some found ↔ ∃ n, GoError.findWithin p n (.foreign v) = some found

/-- The graph without nodes: dependencies that only return sentinels. -/
instance : ErrorGraph Empty where
  view := Empty.elim
  find _ v := v.elim
  find_iff {_ v} := v.elim

section
variable {α β : Type} {search search' : α → Option (Option β)}
variable {as : List α}

theorem firstOf_mono (h : ∀ a found, search a = some found → search' a = some found)
    {found : Option β} (hfound : firstOf search as = some found) :
    firstOf search' as = some found := by
  induction as with
  | nil => exact hfound
  | cons a as ih =>
    rw [firstOf] at hfound ⊢
    cases hsearch : search a with
    | none =>
      rw [hsearch] at hfound
      cases hfound
    | some first =>
      rw [h a first hsearch]
      rw [hsearch] at hfound
      cases first with
      | none => exact ih hfound
      | some b => exact hfound

theorem firstOf_pair {a b : α} :
    firstOf search [a, b] =
      match search a with
      | some none => search b
      | found => found := by
  rcases ha : search a with _ | _ | found
  · simp [firstOf, ha]
  · rcases hb : search b with _ | _ | found <;> simp [firstOf, ha, hb]
  · simp [firstOf, ha]

/-- A search that ends with nothing ends at every element. -/
theorem firstOf_eq_none (h : firstOf search as = some none) :
    ∀ a ∈ as, search a = some none := by
  induction as with
  | nil => exact fun a ha => absurd ha List.not_mem_nil
  | cons a as ih =>
    rw [firstOf] at h
    split at h
    · rename_i hsearch
      exact List.forall_mem_cons.mpr ⟨hsearch, ih h⟩
    · rename_i hsearch
      exact absurd h hsearch

theorem firstOf_of_forall {P : β → Prop}
    (h : ∀ a ∈ as, ∃ found, search a = some found ∧ ∀ b ∈ found, P b) :
    ∃ found, firstOf search as = some found ∧ ∀ b ∈ found, P b := by
  induction as with
  | nil => exact ⟨none, rfl, nofun⟩
  | cons a as ih =>
    obtain ⟨hhead, htail⟩ := List.forall_mem_cons.mp h
    obtain ⟨found, hsearch, hP⟩ := hhead
    rw [firstOf, hsearch]
    cases found with
    | none => exact ih htail
    | some b => exact ⟨some b, rfl, hP⟩

end

namespace GoError
variable {ν : Type}

section
variable [ErrorValues ν] {p q : GoError ν → Bool} {n m : Nat} {e : GoError ν}
  {found : Option (GoError ν)}

theorem findWithin_mono (hle : n ≤ m) (h : findWithin p n e = some found) :
    findWithin p m e = some found := by
  induction n generalizing e m found with
  | zero => cases h
  | succ n ih =>
    obtain ⟨m, rfl⟩ : ∃ k, m = k + 1 := ⟨m - 1, by omega⟩
    have hle' : n ≤ m := Nat.le_of_succ_le_succ hle
    rw [findWithin] at h ⊢
    split
    · rename_i hp
      rw [if_pos hp] at h
      exact h
    · rename_i hp
      rw [if_neg hp] at h
      split
      · rename_i hunwrap
        rw [hunwrap] at h
        exact h
      · rename_i hunwrap
        rw [hunwrap] at h
        exact h
      · rename_i hunwrap
        rw [hunwrap] at h
        exact ih hle' h
      · rename_i hunwrap
        rw [hunwrap] at h
        exact firstOf_mono (fun _ _ => ih hle') h

/-- A walk that ends finds the same at every depth. -/
theorem findWithin_iff (hsome : (findWithin p n e).isSome = true) :
    findWithin p n e = some found ↔ ∃ m, findWithin p m e = some found := by
  obtain ⟨found', hfound'⟩ := Option.isSome_iff_exists.mp hsome
  refine ⟨fun h => ⟨n, h⟩, fun ⟨m, hm⟩ => ?_⟩
  have hmax := findWithin_mono (Nat.le_max_left m n) hm
  rw [findWithin_mono (Nat.le_max_right m n) hfound'] at hmax
  rw [hfound', hmax]

omit [ErrorValues ν] in
/-- Whatever is seen of the values, the walks over them make a graph. -/
theorem exists_graph (values : ErrorValues ν) :
    ∃ graph : ErrorGraph ν, graph.toErrorValues = values := by
  classical
  refine ⟨{ values with
    find := fun p v =>
      if h : ∃ found n, findWithin p n (.foreign v) = some found then some h.choose else none
    find_iff := ?_ }, rfl⟩
  intro p v found
  split
  · rename_i h
    obtain ⟨n, hn⟩ := h.choose_spec
    rw [← findWithin_iff (n := n) (Option.isSome_of_mem hn), hn]
  · rename_i h
    exact iff_of_false nofun fun ⟨n, hn⟩ => h ⟨found, n, hn⟩

/-- Once a walk has seen the whole error and met nothing for `q`, every walk over it ends, with
nothing for `q`. -/
theorem findWithin_of_none (h : findWithin q n e = some none) :
    ∃ found, findWithin p n e = some found ∧ ∀ node ∈ found, p node = true ∧ q node = false := by
  induction n generalizing e with
  | zero => cases h
  | succ n ih =>
    rw [findWithin] at h ⊢
    split at h
    · cases h
    rename_i hq
    by_cases hp : p e = true
    · rw [if_pos hp]
      refine ⟨_, rfl, fun node hnode => ?_⟩
      cases hnode
      exact ⟨hp, Bool.eq_false_iff.mpr hq⟩
    rw [if_neg hp]
    split at h
    · exact ⟨none, rfl, nofun⟩
    · exact ⟨none, rfl, nofun⟩
    · exact ih h
    · exact firstOf_of_forall fun cause hcause => ih (firstOf_eq_none h cause hcause)

end

variable [ErrorGraph ν]

/-- The walk of `errors.Is` and `errors.As`: the first node that `p` accepts, or that there is
none, if it ends. -/
def find (p : GoError ν → Bool) : GoError ν → Option (Option (GoError ν))
  | foreign v => ErrorGraph.find p v
  | joined first second =>
    if p (joined first second) then some (some (joined first second))
    else match find p first with
      | some none => find p second
      | found => found
  | e => findWithin p 2 e

variable {e : GoError ν}

/-- **What a walk finds is what it finds within some depth.** -/
theorem find_iff {p : GoError ν → Bool} {found : Option (GoError ν)} :
    e.find p = some found ↔ ∃ n, findWithin p n e = some found := by
  induction e generalizing found with
  | foreign v => exact ErrorGraph.find_iff
  | joined first second ihfirst ihsecond =>
    by_cases hp : p (joined first second) = true
    · have hhere : ∀ n, findWithin p (n + 1) (joined first second) =
          some (some (joined first second)) := fun n => if_pos hp
      rw [find, if_pos hp]
      constructor
      · exact fun h => ⟨1, (hhere 0).trans h⟩
      · rintro ⟨_ | n, hn⟩
        · cases hn
        · exact (hhere n).symm.trans hn
    have hcauses : ∀ n, findWithin p (n + 1) (joined first second) =
        firstOf (findWithin p n) [first, second] := fun n => if_neg hp
    rw [find, if_neg hp]
    constructor
    · intro h
      cases hfirst : first.find p with
      | none =>
        rw [hfirst] at h
        cases h
      | some found' =>
        rw [hfirst] at h
        obtain ⟨n, hn⟩ := ihfirst.mp hfirst
        cases found' with
        | some node => exact ⟨n + 1, by rw [hcauses, firstOf_pair, hn]; exact h⟩
        | none =>
          obtain ⟨m, hm⟩ := ihsecond.mp h
          refine ⟨max n m + 1, ?_⟩
          rw [hcauses, firstOf_pair, findWithin_mono (Nat.le_max_left n m) hn]
          exact findWithin_mono (Nat.le_max_right n m) hm
    · rintro ⟨_ | n, hn⟩
      · cases hn
      rw [hcauses, firstOf_pair] at hn
      cases hfirst : findWithin p n first with
      | none =>
        rw [hfirst] at hn
        cases hn
      | some found' =>
        rw [hfirst] at hn
        rw [ihfirst.mpr ⟨n, hfirst⟩]
        cases found' with
        | some node => exact hn
        | none => exact ihsecond.mpr ⟨n, hn⟩
  | sentinel s => exact findWithin_iff (by simp only [findWithin, unwrapMethod]; split <;> rfl)
  | replayUnknown c => exact findWithin_iff (by simp only [findWithin, unwrapMethod]; split <;> rfl)
  | safe kind operation => exact findWithin_iff (by grind [findWithin, unwrapMethod])
  | internal kind destroy => exact findWithin_iff (by grind [findWithin, unwrapMethod])

/-- The walk, as a computation. -/
def search (e : GoError ν) (p : GoError ν → Bool) : Except Stop (Option (GoError ν)) :=
  match e.find p with
  | none => .error .loop
  | some found => .ok found

/-- `errors.Is` with a sentinel. -/
def errorsIs (e : GoError ν) (t : Sentinel) : Except Stop Bool := do
  let found ← e.search fun node => node.comparable && node.isSentinel t || node.isMethod t
  return found.isSome

/-- `errors.Is` with one sentinel after the other; no error is none of them. -/
def errorsIsAny (ts : List Sentinel) : Option (GoError ν) → Except Stop Bool
  | none => .ok false
  | some e => ts.anyM e.errorsIs

theorem errorsIsAny_singleton (t : Sentinel) (e : GoError ν) :
    errorsIsAny [t] (some e) = e.errorsIs t := by
  rw [errorsIsAny, List.anyM]
  rcases e.errorsIs t with _ | _ | _ <;> rfl

/-- `errors.As` with a type that has no fields of interest. -/
def hasDynamic (e : GoError ν) (d : DynamicType) : Except Stop Bool := do
  let found ← e.search fun node => decide (node.dynamic = d)
  return found.isSome

/-- A `*pgconn.PgError`. -/
def isPgError (e : GoError ν) : Bool := e.dynamic matches .pgError _ _

/-- `errors.As` with a `*pgconn.PgError`, and the code and the constraint of the first one. -/
def asPgError (e : GoError ν) : Except Stop (Option (String × String)) := do
  match ← e.search isPgError with
  | none => return none
  | some node =>
    match node.typedNil, node.dynamic with
    | false, .pgError code constraintName => return some (code, constraintName)
    | _, _ => .error .panic

/-- `isConnectionInterruption` of the `postgres` package. -/
def isConnectionInterruption (e : GoError ν) : Except Stop Bool := do
  if ← errorsIsAny [.contextCanceled, .contextDeadlineExceeded, .ioEOF, .ioErrUnexpectedEOF,
      .ioErrClosedPipe, .netErrClosed] (some e) then return true
  else if ← e.hasDynamic .timeout then return true
  else match ← e.asPgError with
    | some (code, _) =>
      return code.startsWith "08" || code == "40003" || code == "57P01" || code == "57P02" ||
        code == "57P03" || code == "57P04" || code == "57P05"
    | none =>
      if ← e.hasDynamic .connectError then return true
      else e.hasDynamic .netError

/-! ### Walks that end -/

/-- A walk over the whole error ends, and it meets no nil `*pgconn.PgError`. -/
def Walkable (e : GoError ν) : Prop :=
  e.find (fun node => node.isPgError && node.typedNil) = some none

theorem Walkable.search (h : e.Walkable) (p : GoError ν → Bool) :
    ∃ found, e.search p = .ok found ∧
      ∀ node ∈ found, p node = true ∧ (node.isPgError && node.typedNil) = false := by
  obtain ⟨n, hn⟩ := find_iff.mp h
  obtain ⟨found, hfound, hnil⟩ := findWithin_of_none (p := p) hn
  refine ⟨found, ?_, hnil⟩
  rw [GoError.search, find_iff.mpr ⟨n, hfound⟩]

namespace Walkable
variable (h : e.Walkable)
include h

theorem errorsIs (t : Sentinel) : ∃ b, e.errorsIs t = .ok b := by
  obtain ⟨found, hfound, -⟩ := h.search _
  exact ⟨found.isSome, by rw [GoError.errorsIs, hfound]; rfl⟩

theorem errorsIsAny (ts : List Sentinel) : ∃ b, errorsIsAny ts (some e) = .ok b := by
  rw [GoError.errorsIsAny]
  induction ts with
  | nil => exact ⟨false, rfl⟩
  | cons t ts ih =>
    obtain ⟨b, hb⟩ := h.errorsIs t
    rw [List.anyM, hb]
    cases b with
    | true => exact ⟨true, rfl⟩
    | false => exact ih

theorem hasDynamic (d : DynamicType) : ∃ b, e.hasDynamic d = .ok b := by
  obtain ⟨found, hfound, -⟩ := h.search _
  exact ⟨found.isSome, by rw [GoError.hasDynamic, hfound]; rfl⟩

theorem asPgError : ∃ fields, e.asPgError = .ok fields := by
  obtain ⟨found, hfound, hnil⟩ := h.search isPgError
  rw [GoError.asPgError, hfound]
  cases found with
  | none => exact ⟨none, rfl⟩
  | some node =>
    obtain ⟨hpg, hnot⟩ := hnil node rfl
    rw [hpg, Bool.true_and] at hnot
    obtain ⟨code, constraintName, hdynamic⟩ : ∃ code name, node.dynamic = .pgError code name := by
      unfold isPgError at hpg
      split at hpg
      · exact ⟨_, _, ‹_›⟩
      · cases hpg
    exact ⟨some (code, constraintName), by simp only [bind, Except.bind, hnot, hdynamic]; rfl⟩

/-- **The interruption of a connection is recognised** in an error that can be walked. -/
theorem isConnectionInterruption : ∃ b, e.isConnectionInterruption = .ok b := by
  obtain ⟨sentinel, hsentinel⟩ := h.errorsIsAny [.contextCanceled, .contextDeadlineExceeded, .ioEOF,
    .ioErrUnexpectedEOF, .ioErrClosedPipe, .netErrClosed]
  obtain ⟨timeout, htimeout⟩ := h.hasDynamic .timeout
  obtain ⟨fields, hfields⟩ := h.asPgError
  obtain ⟨connect, hconnect⟩ := h.hasDynamic .connectError
  obtain ⟨network, hnetwork⟩ := h.hasDynamic .netError
  rw [GoError.isConnectionInterruption, hsentinel, htimeout, hfields, hconnect, hnetwork]
  cases sentinel with
  | true => exact ⟨_, rfl⟩
  | false => cases timeout with
    | true => exact ⟨_, rfl⟩
    | false => cases fields with
      | some fields => exact ⟨_, rfl⟩
      | none => cases connect with
        | true => exact ⟨_, rfl⟩
        | false => exact ⟨_, rfl⟩

end Walkable

/-- The gate of the lifecycle code lets only such errors pass. -/
theorem walkable_of_singleCauseChain (h : e.singleCauseChain = true) :
    e.Walkable := by
  have hfrom : ∀ n (e : GoError ν), singleCauseChainFrom n e = true →
      findWithin (fun node => node.isPgError && node.typedNil) n e = some none := by
    intro n
    induction n with
    | zero => exact fun e h => Bool.noConfusion h
    | succ n ih =>
      intro e h
      unfold singleCauseChainFrom ambiguous unwrap at h
      unfold findWithin
      split at h
      · cases h
      rename_i hnil
      rw [Bool.not_eq_true] at hnil
      rw [hnil, Bool.and_false, if_neg Bool.noConfusion]
      cases hunwrap : e.unwrapMethod with
      | none => rfl
      | multiple causes => simp [hunwrap] at h
      | single cause => cases cause with
        | none => rfl
        | some cause =>
          simp only [hunwrap] at h
          exact ih cause h
  exact find_iff.mpr ⟨64, hfrom 64 e h⟩

/-- `isConnectionInterruption` of an error that has passed the gate, or of one of the package's
own, for which it does not stop. -/
def interrupted (e : GoError ν) : Bool := e.isConnectionInterruption.toOption.getD false

theorem isConnectionInterruption_eq (h : e.singleCauseChain = true) :
    e.isConnectionInterruption = .ok e.interrupted := by
  obtain ⟨b, hb⟩ := (walkable_of_singleCauseChain h).isConnectionInterruption
  rw [interrupted, hb]
  rfl

end GoError

/-- What `QueryRow` and `Scan` answer: a nil row, or the result of the scan. -/
inductive RowAnswer (ε α : Type) where
  | absent
  | scanned (result : Except ε α)

section
variable {ν : Type}

/-- What a query may answer when it finds a row, or none: the row, that there is none, or a
failure. -/
inductive SelectAnswer {α : Type} (row : Option α) : RowAnswer (GoError ν) α → Prop
  | found {record : α} (found : row = some record) : SelectAnswer row (.scanned (.ok record))
  | noRows (missing : row = none) : SelectAnswer row (.scanned (.error (.sentinel .pgxErrNoRows)))
  | failed {err : GoError ν} (fault : err ≠ .sentinel .pgxErrNoRows) :
      SelectAnswer row (.scanned (.error err))
  | absent : SelectAnswer row .absent

variable {α : Type}

theorem SelectAnswer.eq_some {row : Option α} {record : α}
    (h : SelectAnswer row (.scanned (.ok record) : RowAnswer (GoError ν) α)) :
    row = some record := by
  cases h with
  | found found => exact found

theorem SelectAnswer.eq_none {row : Option α}
    (h : SelectAnswer row (.scanned (.error (.sentinel .pgxErrNoRows)) : RowAnswer (GoError ν) α)) :
    row = none := by
  cases h with
  | noRows missing => exact missing
  | failed fault => exact absurd rfl fault

/-- What a query answers when nothing fails. -/
def selected {α : Type} : Option α → RowAnswer (GoError ν) α
  | none => .scanned (.error (.sentinel .pgxErrNoRows))
  | some record => .scanned (.ok record)

theorem selected_answer (row : Option α) :
    SelectAnswer row (selected row : RowAnswer (GoError ν) α) := by
  cases row with
  | none => exact .noRows rfl
  | some record => exact .found rfl

end

end OncallGateway
