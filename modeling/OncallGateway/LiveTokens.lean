import OncallGateway.LifecycleLoad

/-! # The live tokens of a destination

What the lifecycle keeps for a destination, apart from tokens that are revoked, has
one of five shapes, named as the statuses of a snapshot: nothing, a first staged
token, an active token, an active token beside the staged one that is to replace it,
or beside the retiring one it has replaced.  `LiveTokens` is that abstract state;
`Store.Represents` connects it with the rows of the store.

A state that `loadDestinationLifecycleState` returns is the one of such a shape, and
its snapshot says no more and no less than the rows (`Store.loadState_ok`).
Conversely the tokens of a destination in such a shape are loaded, provided that each
row can be read (`Store.loadState_exists`).
-/

namespace OncallGateway

/-- The live tokens of a destination. -/
inductive LiveTokens where
  | unprovisioned
  | stagedInitial (staged : TokenRow)
  | active (active : TokenRow)
  | activeWithStaged (active staged : TokenRow)
  | activeWithRetiring (active retiring : TokenRow)

namespace LiveTokens

/-- The row in a state. -/
def slot : LiveTokens → DestinationTokenState → Option TokenRow
  | stagedInitial s, .staged => some s
  | active a, .active => some a
  | activeWithStaged a _, .active => some a
  | activeWithStaged _ s, .staged => some s
  | activeWithRetiring a _, .active => some a
  | activeWithRetiring _ r, .retiring => some r
  | _, _ => none

/-- The rows, in the order of the query. -/
def rows : LiveTokens → List TokenRow
  | unprovisioned => []
  | stagedInitial s => [s]
  | active a => [a]
  | activeWithStaged a s => [a, s]
  | activeWithRetiring a r => [a, r]

theorem mem_rows {tokens : LiveTokens} {row : TokenRow} :
    row ∈ tokens.rows ↔ ∃ state, tokens.slot state = some row := by
  constructor
  · intro h
    cases tokens <;> simp only [rows, List.mem_cons, List.not_mem_nil, or_false] at h
    case stagedInitial => exact ⟨.staged, h ▸ rfl⟩
    case active => exact ⟨.active, h ▸ rfl⟩
    case activeWithStaged =>
      rcases h with rfl | rfl
      · exact ⟨.active, rfl⟩
      · exact ⟨.staged, rfl⟩
    case activeWithRetiring =>
      rcases h with rfl | rfl
      · exact ⟨.active, rfl⟩
      · exact ⟨.retiring, rfl⟩
  · rintro ⟨state, h⟩
    cases tokens <;> cases state <;> cases h <;> simp [rows]

/-- A shape is known by its slots. -/
theorem ext_slot {tokens tokens' : LiveTokens} (h : ∀ state, tokens.slot state = tokens'.slot state) :
    tokens = tokens' := by
  have hs := h .staged
  have ha := h .active
  have hr := h .retiring
  cases tokens <;> cases tokens' <;> simp_all [slot]

/-- The times of an active and a retiring token are those of one activation. -/
def Paired : LiveTokens → Prop
  | activeWithRetiring a r => a.activatedAt = some a.stateChangedAt ∧
      r.retirementStartedAt = some r.stateChangedAt ∧ a.stateChangedAt = r.stateChangedAt
  | _ => True

end LiveTokens

/-- **The rows of a destination are its live tokens**, and revoked ones. -/
def Store.Represents (s : Store) (destination : DestinationID) (tokens : LiveTokens) : Prop :=
  ∀ state row, tokens.slot state = some row ↔ state ≠ .revoked ∧
    s.row? row.recordID = some row ∧ row.destinationID = destination ∧ row.state = state

namespace Store.Represents
variable {s : Store} {destination : DestinationID} {tokens tokens' : LiveTokens} {row : TokenRow}

theorem unique (h : s.Represents destination tokens) (h' : s.Represents destination tokens') :
    tokens = tokens' := by
  refine LiveTokens.ext_slot fun state => Option.ext fun row => ?_
  exact (h state row).trans (h' state row).symm

theorem mem_rows (h : s.Represents destination tokens) : row ∈ tokens.rows ↔
    s.row? row.recordID = some row ∧ row.destinationID = destination ∧ row.state ≠ .revoked := by
  rw [LiveTokens.mem_rows]
  constructor
  · rintro ⟨state, hs⟩
    obtain ⟨hne, hrow, hd, rfl⟩ := (h _ _).mp hs
    exact ⟨hrow, hd, hne⟩
  · rintro ⟨hrow, hd, hne⟩
    exact ⟨row.state, (h _ _).mpr ⟨hne, hrow, hd, rfl⟩⟩

end Store.Represents

/-! ## What was loaded -/

/-- The state loaded for a destination at `now` is that of its row and its live
tokens. -/
structure Loaded (s : Store) (audience : GatewayAudienceID) (id : DestinationID) (now : Time)
    (row : DestinationRow) (tokens : LiveTokens) (state : LifecycleLockedState) : Prop where
  destination : s.destination? id = some row
  ofAudience : row.audienceID = audience
  created : row.createdAt.toTime ≤ now
  changed : row.stateChangedAt.toTime ≤ now
  clock : now ≠ 0
  value : state.destination = row.value
  snapshotAudience : state.snapshot.audienceID = audience
  snapshotDestination : state.snapshot.destinationID = id
  snapshotEnabled : state.snapshot.destinationEnabled = decide (row.state = .enabled)
  represents : s.Represents id tokens
  slots : ∀ state', state.snapshot.slot state' = (tokens.slot state').map TokenRow.view
  present : ∀ token ∈ tokens.rows, token.TimesPresent ∧ token.audienceID = audience
  paired : tokens.Paired
  inDate : state.snapshot.status ≠ .reconciliationRequired ↔
    row.state = .enabled ∧ ∀ token ∈ tokens.rows, token.view.InDate now
  status : state.snapshot.status.Slots state.snapshot.staged state.snapshot.active
    state.snapshot.retiring

variable {id : DestinationID} {s : Store} {audience : GatewayAudienceID}
  {tokens : List DestinationToken} {now : Time} {destination : DestinationRow}

theorem Store.mem_liveRows {row : TokenRow} :
    row ∈ s.liveRows id ↔
      s.row? row.recordID = some row ∧ row.destinationID = id ∧ row.state ≠ .revoked := by
  rw [Store.liveRows, List.mem_filter, decide_eq_true_eq]
  exact and_congr_left fun _ => ⟨Store.row?_of_mem, Store.mem_of_row?⟩

theorem Store.mem_lifecycleTokens {s : Store} {id : DestinationID} {row : TokenRow}
    (hlen : (s.lifecycleTokens id).length ≤ 3) : row ∈ s.lifecycleTokens id ↔
    s.row? row.recordID = some row ∧ row.destinationID = id ∧ row.state ≠ .revoked := by
  have htake : s.lifecycleTokens id =
      (s.liveRows id).insertionSort fun a b => a.rank ≤ b.rank := by
    unfold Store.lifecycleTokens at hlen ⊢
    rw [List.length_take] at hlen
    exact List.take_of_length_le (by omega)
  rw [htake, List.mem_insertionSort, Store.mem_liveRows]

section
variable {rows : List TokenRow} {destination : Destination} (hread : List.Forall₂
  (fun (row : TokenRow) token => row.record.token audience destination = .ok token) rows tokens)
include hread

/-- The tokens read from rows show these rows. -/
theorem views_of_read :
    tokens.map lifecycleTokenView = rows.map TokenRow.view := by
  induction hread with
  | nil => rfl
  | cons h _ ih => rw [List.map_cons, List.map_cons, (TokenRow.view_of_token h).1, ih]

theorem present_of_read :
    ∀ row ∈ rows, row.TimesPresent ∧ row.audienceID = audience := by
  induction hread with
  | nil => simp
  | cons h _ ih =>
    intro row hrow
    rcases List.mem_cons.mp hrow with rfl | hrow
    · obtain ⟨ht, -, -, -, haud, -⟩ := TokenRow.token_eq_ok.mp h
      exact ⟨ht, haud⟩
    · exact ih row hrow

theorem destination_of_read :
    ∀ token ∈ tokens, token.spec.destination = destination := by
  induction hread with
  | nil => simp
  | cons h _ ih =>
    intro token ht
    rcases List.mem_cons.mp ht with rfl | ht
    · exact (TokenRow.view_of_token h).2
    · exact ih token ht

end

/-- Rows whose views fill the slots of a snapshot are live tokens in a shape. -/
theorem exists_liveTokens {rows : List TokenRow} {snapshot : DestinationLifecycleSnapshot}
    (hinj : ∀ a ∈ rows, ∀ b ∈ rows, a.recordID = b.recordID → a = b)
    (hslots : ∀ state view, snapshot.slot state = some view ↔
      ∃ row ∈ rows, row.view = view ∧ row.state = state)
    (hstatus : snapshot.status.Slots snapshot.staged snapshot.active snapshot.retiring) :
    ∃ tokens : LiveTokens,
      (∀ state row, tokens.slot state = some row ↔ row ∈ rows ∧ row.state = state) ∧
      ∀ state, snapshot.slot state = (tokens.slot state).map TokenRow.view := by
  -- a slot names one row
  have hrow : ∀ state, ∃ o : Option TokenRow, snapshot.slot state = o.map TokenRow.view ∧
      ∀ row, o = some row ↔ row ∈ rows ∧ row.state = state := by
    intro state
    cases hs : snapshot.slot state with
    | none =>
      refine ⟨none, rfl, fun row => ⟨nofun, ?_⟩⟩
      rintro ⟨hrow, rfl⟩
      have := (hslots _ _).mpr ⟨row, hrow, rfl, rfl⟩
      rw [hs] at this
      cases this
    | some view =>
      obtain ⟨row, hrow, rfl, rfl⟩ := (hslots _ _).mp hs
      refine ⟨some row, rfl, fun row' => ⟨?_, ?_⟩⟩
      · rintro ⟨⟩
        exact ⟨hrow, rfl⟩
      · rintro ⟨hrow', hst⟩
        have := (hslots _ _).mpr ⟨row', hrow', rfl, hst⟩
        rw [hs, Option.some.injEq] at this
        rw [hinj row hrow row' hrow' (congrArg LifecycleTokenView.recordID this)]
  obtain ⟨so, hs, hs'⟩ := hrow .staged
  obtain ⟨ao, ha, ha'⟩ := hrow .active
  obtain ⟨ro, hr, hr'⟩ := hrow .retiring
  obtain ⟨vo, hv, hv'⟩ := hrow .revoked
  have hvn : vo = none := by
    cases vo with
    | none => rfl
    | some row => cases hv
  have key : ∀ tokens : LiveTokens, tokens.slot .staged = so → tokens.slot .active = ao →
      tokens.slot .retiring = ro → tokens.slot .revoked = none →
      (∀ state row, tokens.slot state = some row ↔ row ∈ rows ∧ row.state = state) ∧
      ∀ state, snapshot.slot state = (tokens.slot state).map TokenRow.view := by
    intro tokens h₁ h₂ h₃ h₄
    constructor
    · intro state row
      cases state with
      | staged => rw [h₁, hs']
      | active => rw [h₂, ha']
      | retiring => rw [h₃, hr']
      | revoked => rw [h₄, ← hvn, hv']
    · intro state
      cases state with
      | staged => rw [h₁, hs]
      | active => rw [h₂, ha]
      | retiring => rw [h₃, hr]
      | revoked => rw [h₄, hv, hvn]
  change snapshot.staged = _ at hs
  change snapshot.active = _ at ha
  change snapshot.retiring = _ at hr
  rw [hs, ha, hr] at hstatus
  have hshape : ro.isSome = true → so = none ∧ ao.isSome = true := by
    intro hro
    cases hst : snapshot.status <;> rw [hst] at hstatus <;>
      simp_all [DestinationLifecycleStatus.Slots]
  cases ro with
  | some r =>
    obtain ⟨rfl, hao⟩ := hshape rfl
    obtain ⟨a, rfl⟩ := Option.isSome_iff_exists.mp hao
    exact ⟨.activeWithRetiring a r, key _ rfl rfl rfl rfl⟩
  | none =>
    cases so with
    | none =>
      cases ao with
      | none => exact ⟨.unprovisioned, key _ rfl rfl rfl rfl⟩
      | some a => exact ⟨.active a, key _ rfl rfl rfl rfl⟩
    | some st =>
      cases ao with
      | none => exact ⟨.stagedInitial st, key _ rfl rfl rfl rfl⟩
      | some a => exact ⟨.activeWithStaged a st, key _ rfl rfl rfl rfl⟩

/-- **A loaded state is that of the rows**: the destination's row and the shape of its
live tokens, each of which could be read. -/
theorem Store.loadState_ok {state : LifecycleLockedState}
    (h : s.loadState audience id now = .ok state) :
    ∃ row tokens, Loaded s audience id now row tokens state := by
  obtain ⟨row, hrow, hdest, hlen, read, hread, hsnap⟩ := Store.loadState_eq_ok.mp h
  obtain ⟨-, -, hcn, hsn, -, -, hid, haud, -, hval⟩ := DestinationRow.destination_eq_ok.mp hdest
  have hof := newDestinationLifecycleSnapshot_ok hsnap
  have hmem := fun token => @Store.mem_lifecycleTokens _ _ token hlen
  have hviews := views_of_read hread
  have hslots : ∀ state' view, state.snapshot.slot state' = some view ↔
      ∃ token ∈ s.lifecycleTokens id, token.view = view ∧ token.state = state' := by
    intro state' view
    rw [hof.slots, hviews, List.mem_map]
    constructor
    · rintro ⟨⟨token, ht, rfl⟩, rfl⟩
      exact ⟨token, ht, rfl, rfl⟩
    · rintro ⟨token, ht, rfl, rfl⟩
      exact ⟨⟨token, ht, rfl⟩, rfl⟩
  have hinj : ∀ a ∈ s.lifecycleTokens id, ∀ b ∈ s.lifecycleTokens id,
      a.recordID = b.recordID → a = b := by
    intro a ha b hb hab
    have h₁ := ((hmem a).mp ha).1
    rw [hab, ((hmem b).mp hb).1] at h₁
    exact (Option.some.inj h₁).symm
  obtain ⟨tokens, hrows, hviewslots⟩ := exists_liveTokens hinj hslots hof.status
  have hrep : s.Represents id tokens := by
    intro state' token
    rw [hrows, hmem]
    constructor
    · rintro ⟨⟨hr, hd, hne⟩, rfl⟩
      exact ⟨hne, hr, hd, rfl⟩
    · rintro ⟨hne, hr, hd, rfl⟩
      exact ⟨⟨hr, hd, hne⟩, rfl⟩
  have hrowsmem : ∀ token, token ∈ tokens.rows ↔ token ∈ s.lifecycleTokens id := by
    intro token
    rw [hrep.mem_rows, hmem]
  refine ⟨row, tokens, hrow, haud, hcn, hsn, hof.clock, hval.symm, ?_, ?_, ?_, hrep, hviewslots, ?_,
    ?_, ?_, hof.status⟩
  · rw [hof.audience, ← hval]
    exact haud
  · rw [hof.destinationID, ← hval]
    exact hid
  · rw [hof.enabled, ← hval]
    rfl
  · intro token ht
    exact present_of_read hread token ((hrowsmem token).mp ht)
  · cases tokens with
    | activeWithRetiring a r =>
      obtain ⟨-, hra, -, hsa⟩ := (hrep .active a).mp rfl
      obtain ⟨-, hrr, -, hsr⟩ := (hrep .retiring r).mp rfl
      obtain ⟨t, ht⟩ := Option.isSome_iff_exists.mp
        ((Store.checked (Store.mem_of_row? hra)).active hsa).1
      obtain ⟨u, hu⟩ := Option.isSome_iff_exists.mp
        ((Store.checked (Store.mem_of_row? hrr)).retiring hsr).2.1
      obtain ⟨h₁, h₂, h₃⟩ := hof.pair a.view r.view (hviewslots .active) (hviewslots .retiring)
      simp only [TokenRow.view, ht, hu, optionalTime_some, Timestamp.toTime_inj] at h₁ h₂ h₃
      exact ⟨by rw [ht, h₂], by rw [hu, h₃], by rw [h₂, h₃, h₁]⟩
    | unprovisioned => trivial
    | stagedInitial => trivial
    | active => trivial
    | activeWithStaged => trivial
  · rw [hof.inDate, hviews, List.forall_mem_map, ← hval]
    simp only [hrowsmem]
    exact Iff.rfl

/-! ## What can be loaded -/

/-- The row is read as a token of the destination. -/
def TokenRow.Readable (row : TokenRow) (destination : DestinationRow) : Prop :=
  ∃ token, row.record.token destination.audienceID destination.value = .ok token

/-- The rows of the shape are all live rows. -/
theorem Store.Represents.perm {tokens : LiveTokens} (h : s.Represents id tokens) :
    (s.liveRows id).Perm tokens.rows ∧ tokens.rows.Pairwise fun a b => a.rank < b.rank := by
  have hnodup : (s.liveRows id).Nodup :=
    (List.Nodup.of_map _ (s.tokensValid .primaryKey)).filter _
  have hstate : ∀ state row, tokens.slot state = some row → row.state = state :=
    fun state row hs => ((h state row).mp hs).2.2.2
  have hsorted : tokens.rows.Pairwise fun a b => a.rank < b.rank := by
    cases tokens with
    | activeWithStaged a st =>
      have h₁ := hstate .active a rfl
      have h₂ := hstate .staged st rfl
      simp [LiveTokens.rows, TokenRow.rank, h₁, h₂, Prod.Lex.toLex_lt_toLex]
    | activeWithRetiring a r =>
      have h₁ := hstate .active a rfl
      have h₂ := hstate .retiring r rfl
      simp [LiveTokens.rows, TokenRow.rank, h₁, h₂, Prod.Lex.toLex_lt_toLex]
    | unprovisioned => simp [LiveTokens.rows]
    | stagedInitial => simp [LiveTokens.rows]
    | active => simp [LiveTokens.rows]
  refine ⟨(List.perm_ext_iff_of_nodup hnodup ?_).mpr fun row => ?_, hsorted⟩
  · exact hsorted.imp fun hlt heq => (heq ▸ hlt).ne rfl
  · rw [Store.mem_liveRows, h.mem_rows]

/-- The rows in a state are the one of its slot. -/
theorem Store.Represents.countP_eq {tokens : LiveTokens} (h : s.Represents id tokens)
    {state : DestinationTokenState} (hne : state ≠ .revoked) :
    (s.tokens.countP fun row => decide (row.destinationID = id ∧ row.state = state)) =
      (tokens.slot state).toList.length := by
  rw [List.countP_eq_length_filter]
  refine ((List.perm_ext_iff_of_nodup ?_ ?_).mpr fun row => ?_).length_eq
  · exact (List.Nodup.of_map _ (s.tokensValid .primaryKey)).filter _
  · cases tokens.slot state <;> simp
  · rw [List.mem_filter, decide_eq_true_eq, Option.mem_toList, h state row]
    constructor
    · rintro ⟨hrow, hd, hs⟩
      exact ⟨hne, Store.row?_of_mem hrow, hd, hs⟩
    · rintro ⟨-, hrow, hd, hs⟩
      exact ⟨Store.mem_of_row? hrow, hd, hs⟩

/-- The query returns the rows of the shape, in its order. -/
theorem Store.lifecycleTokens_eq {tokens : LiveTokens} (h : s.Represents id tokens) :
    s.lifecycleTokens id = tokens.rows := by
  unfold Store.lifecycleTokens
  rw [Keyed.insertionSort_eq h.perm.1 h.perm.2]
  exact List.take_of_length_le (by cases tokens <;> simp [LiveTokens.rows])

theorem exists_read {rows : List TokenRow} (h : ∀ row ∈ rows, row.Readable destination) :
    ∃ read, List.Forall₂ (fun (row : TokenRow) token =>
      row.record.token destination.audienceID destination.value = .ok token) rows read := by
  induction rows with
  | nil => exact ⟨[], .nil⟩
  | cons row rows ih =>
    obtain ⟨token, ht⟩ := h row (by simp)
    obtain ⟨read, hread⟩ := ih fun r hr => h r (by simp [hr])
    exact ⟨token :: read, .cons ht hread⟩

/-- **The live tokens of a destination have a snapshot**, in whatever order they are
read and whatever the time. -/
theorem Store.Represents.snapshot_exists {tokens : LiveTokens} {rows : List TokenRow}
    {read : List DestinationToken} (hrow : s.destination? id = some destination)
    (hrep : s.Represents id tokens) (hpair : tokens.Paired) (hnow : now ≠ 0)
    (hperm : rows.Perm tokens.rows) (hread : List.Forall₂ (fun (row : TokenRow) token =>
      row.record.token destination.audienceID destination.value = .ok token) rows read) :
    ∃ snapshot, newDestinationLifecycleSnapshot destination.value read now = .ok snapshot := by
  have hmem := Keyed.mem_of_lookup hrow
  have hviews := views_of_read hread
  have hstate : ∀ state row, tokens.slot state = some row → row.state = state :=
    fun state row hs => ((hrep state row).mp hs).2.2.2
  -- a token of the list is the view of a row
  have hrowOf : ∀ token ∈ read, ∃ row ∈ tokens.rows, lifecycleTokenView token = row.view := by
    intro token ht
    have hv : lifecycleTokenView token ∈ rows.map TokenRow.view :=
      hviews ▸ List.mem_map_of_mem ht
    obtain ⟨row, hr, hv⟩ := List.mem_map.mp hv
    exact ⟨row, hperm.mem_iff.mp hr, hv.symm⟩
  have hids : (read.map fun token => token.spec.recordID) = rows.map TokenRow.recordID := by
    have := congrArg (List.map LifecycleTokenView.recordID) hviews
    rwa [List.map_map, List.map_map] at this
  have hstates : (read.map fun token => token.spec.state) = rows.map TokenRow.state := by
    have := congrArg (List.map LifecycleTokenView.state) hviews
    rwa [List.map_map, List.map_map] at this
  have hdist : (tokens.rows.map TokenRow.state).Nodup := by
    cases tokens with
    | activeWithStaged a st => simp [LiveTokens.rows, hstate .active a rfl, hstate .staged st rfl]
    | activeWithRetiring a r => simp [LiveTokens.rows, hstate .active a rfl, hstate .retiring r rfl]
    | unprovisioned => simp [LiveTokens.rows]
    | stagedInitial => simp [LiveTokens.rows]
    | active => simp [LiveTokens.rows]
  refine newDestinationLifecycleSnapshot_exists (s.destinationsValid.id _ hmem)
    (s.destinationsValid.audience _ hmem) hnow ?_ ?_ ?_ ?_ ?_
  · exact destination_of_read hread
  · intro token ht
    obtain ⟨row, hr, hv⟩ := hrowOf token ht
    rw [show token.spec.state = row.state from congrArg LifecycleTokenView.state hv]
    exact (hrep.mem_rows.mp hr).2.2
  · -- equal records would be one row
    rw [hids, (hperm.map _).nodup_iff]
    refine List.Nodup.map_on ?_ (List.Nodup.of_map _ hdist)
    intro a ha b hb hab
    have h₁ := (hrep.mem_rows.mp ha).1
    rw [hab, (hrep.mem_rows.mp hb).1] at h₁
    exact (Option.some.inj h₁).symm
  · rw [hstates, (hperm.map _).nodup_iff]
    exact hdist
  · intro retiring hr hst
    obtain ⟨row, hrow', hv⟩ := hrowOf retiring hr
    have hrs : row.state = .retiring := by
      rw [← hst]
      exact (congrArg LifecycleTokenView.state hv).symm
    have hslot : tokens.slot .retiring = some row :=
      (hrep _ _).mpr ⟨by simp, (hrep.mem_rows.mp hrow').1, (hrep.mem_rows.mp hrow').2.1, hrs⟩
    cases tokens with
    | activeWithRetiring a r =>
      cases hslot
      obtain ⟨h₁, h₂, h₃⟩ := hpair
      refine ⟨?_, ?_⟩
      · intro token ht hts
        obtain ⟨row', hr', hv'⟩ := hrowOf token ht
        have hs' : row'.state = .staged := by
          rw [← hts]
          exact (congrArg LifecycleTokenView.state hv').symm
        have := (hrep .staged row').mpr
          ⟨by simp, (hrep.mem_rows.mp hr').1, (hrep.mem_rows.mp hr').2.1, hs'⟩
        cases this
      · have hav : a.view ∈ read.map lifecycleTokenView := by
          rw [hviews]
          exact List.mem_map_of_mem (hperm.mem_iff.mpr (by simp [LiveTokens.rows]))
        obtain ⟨active, hact, hva⟩ := List.mem_map.mp hav
        refine ⟨active, hact, ?_, ?_, ?_, ?_⟩
        · rw [show active.spec.state = a.state from congrArg LifecycleTokenView.state hva]
          exact hstate .active a rfl
        · rw [show active.spec.activatedAt = a.view.activatedAt from
              congrArg LifecycleTokenView.activatedAt hva,
            show retiring.spec.retirementStartedAt = row.view.retirementStartedAt from
              congrArg LifecycleTokenView.retirementStartedAt hv]
          simp [TokenRow.view, h₁, h₂, h₃]
        · rw [show active.spec.stateChangedAt = a.view.stateChangedAt from
              congrArg LifecycleTokenView.stateChangedAt hva,
            show active.spec.activatedAt = a.view.activatedAt from
              congrArg LifecycleTokenView.activatedAt hva]
          simp [TokenRow.view, h₁]
        · rw [show retiring.spec.stateChangedAt = row.view.stateChangedAt from
              congrArg LifecycleTokenView.stateChangedAt hv,
            show retiring.spec.retirementStartedAt = row.view.retirementStartedAt from
              congrArg LifecycleTokenView.retirementStartedAt hv]
          simp [TokenRow.view, h₂]
    | unprovisioned => cases hslot
    | stagedInitial => cases hslot
    | active => cases hslot
    | activeWithStaged => cases hslot

/-- **Live tokens whose rows can be read are loaded** at every time that is not before
the destination's own. -/
theorem Store.loadState_exists {tokens : LiveTokens} (hrow : s.destination? id = some destination)
    (hc : destination.createdAt.micros ≠ 0) (hs : destination.stateChangedAt.micros ≠ 0)
    (hsn : destination.stateChangedAt.toTime ≤ now) (hnow : now ≠ 0) (hrep : s.Represents id tokens)
    (hread : ∀ token ∈ tokens.rows, token.Readable destination) (hpair : tokens.Paired) :
    ∃ state, s.loadState destination.audienceID id now = .ok state := by
  have hmem := Keyed.mem_of_lookup hrow
  have hid : destination.destinationID = id := Keyed.key_of_lookup hrow
  have horder := s.destinationsValid.stateTimeOrder _ hmem
  obtain ⟨read, hread'⟩ := exists_read hread
  obtain ⟨snapshot, hsnap⟩ := hrep.snapshot_exists hrow hpair hnow (.refl _) hread'
  have htokens := Store.lifecycleTokens_eq hrep
  refine ⟨⟨destination.value, snapshot⟩, Store.loadState_eq_ok.mpr ⟨destination, hrow, ?_, ?_, read,
    htokens ▸ hread', hsnap⟩⟩
  · exact DestinationRow.destination_eq_ok.mpr ⟨hc, hs, (Timestamp.toTime_le.mpr horder).trans hsn,
      hsn, s.destinationsValid.id _ hmem, s.destinationsValid.audience _ hmem, hid, rfl, horder, rfl⟩
  · rw [htokens]
    cases tokens <;> simp [LiveTokens.rows]

end OncallGateway
