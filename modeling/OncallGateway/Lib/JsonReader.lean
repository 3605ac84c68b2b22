import OncallGateway.Lib.Json

/-! # Reading JSON

`Json.read` reads a text one character at a time, with a stack of the arrays and objects
that are open; nothing else is remembered, so the reader is the run of `State.step` over
the text.  It reads exactly the texts of the grammar, and what they spell (`read_iff`).

One direction is by induction on the grammar: a text that spells a value is read as that
value wherever it stands.  The other goes from the end of the text to its beginning:
`Awaits` says, in terms of the grammar, what the rest of the text must be in each state,
and no step makes it false.
-/

namespace Json

/-! ## The reader -/

/-- An array or an object that is open: what it holds already and, for an object, the
name whose value is being read. -/
inductive Frame where
  | array (items : List Json)
  | object (members : List (List Char × Json)) (name : List Char)

/-- What is being read. -/
inductive Mode where
  | value
  | itemOrEnd
  | nameOrEnd
  | name
  | colon
  | afterValue
  | text (isName : Bool) (raw : List Char) (state : TextState)
  | number (text : List Char) (state : NumberState)
  | literal (rest : List Char) (j : Json)
  | done (j : Json)

/-- What is being read, in which arrays and objects, the innermost first. -/
structure State where
  mode : Mode
  stack : List Frame

/-- The deepest nesting that is read. -/
def maxDepth : Nat := 10000

/-- The state after a value has ended. -/
def complete (j : Json) : List Frame → State
  | [] => ⟨.done j, []⟩
  | .array items :: stack => ⟨.afterValue, .array (items ++ [j]) :: stack⟩
  | .object members name :: stack =>
    ⟨.afterValue, .object (members ++ [(name, j)]) [] :: stack⟩

/-- Open an array or an object. -/
def push (mode : Mode) (frame : Frame) (stack : List Frame) : Option State :=
  if stack.length < maxDepth then some ⟨mode, frame :: stack⟩ else none

/-- The first character of a value. -/
def beginValue (c : Char) (stack : List Frame) : Option State :=
  if c = '"' then some ⟨.text false [] .plain, stack⟩
  else if c = '\x7b' then push .nameOrEnd (.object [] []) stack
  else if c = '[' then push .itemOrEnd (.array []) stack
  else if c = 't' then some ⟨.literal ['r', 'u', 'e'] (.bool true), stack⟩
  else if c = 'f' then some ⟨.literal ['a', 'l', 's', 'e'] (.bool false), stack⟩
  else if c = 'n' then some ⟨.literal ['u', 'l', 'l'] .null, stack⟩
  else (NumberState.start c).map fun state => ⟨.number [c] state, stack⟩

/-- The first character after a value. -/
def State.afterStep (s : State) (c : Char) : Option State :=
  if IsSpace c then some s
  else
    match s with
    | ⟨.afterValue, .array items :: stack⟩ =>
      if c = ',' then some ⟨.value, .array items :: stack⟩
      else if c = ']' then some (complete (.array items) stack)
      else none
    | ⟨.afterValue, .object members name :: stack⟩ =>
      if c = ',' then some ⟨.name, .object members name :: stack⟩
      else if c = '\x7d' then some (complete (.object members) stack)
      else none
    | _ => none

/-- The end of a quoted text. -/
def endText (isName : Bool) (raw : List Char) (stack : List Frame) : Option State :=
  if isName then
    match stack with
    | .object members _ :: stack => some ⟨.colon, .object members raw :: stack⟩
    | _ => none
  else some (complete (.string raw) stack)

/-- **The reader**: one character. -/
def State.step (s : State) (c : Char) : Option State :=
  match s with
  | ⟨.value, stack⟩ => if IsSpace c then some s else beginValue c stack
  | ⟨.itemOrEnd, stack⟩ =>
    if IsSpace c then some s
    else if c = ']' then State.afterStep ⟨.afterValue, stack⟩ c
    else beginValue c stack
  | ⟨.nameOrEnd, stack⟩ =>
    if IsSpace c then some s
    else if c = '\x7d' then State.afterStep ⟨.afterValue, stack⟩ c
    else if c = '"' then some ⟨.text true [] .plain, stack⟩
    else none
  | ⟨.name, stack⟩ =>
    if IsSpace c then some s
    else if c = '"' then some ⟨.text true [] .plain, stack⟩
    else none
  | ⟨.colon, stack⟩ =>
    if IsSpace c then some s else if c = ':' then some ⟨.value, stack⟩ else none
  | ⟨.afterValue, _⟩ | ⟨.done _, _⟩ => s.afterStep c
  | ⟨.text isName raw state, stack⟩ =>
    if state = .plain ∧ c = '"' then endText isName raw stack
    else (state.step c).map fun state => ⟨.text isName (raw ++ [c]) state, stack⟩
  | ⟨.number text state, stack⟩ =>
    match state.step c with
    | some state => some ⟨.number (text ++ [c]) state, stack⟩
    -- only the character after a number tells that it has ended
    | none => if state.final then (complete (.number text) stack).afterStep c else none
  | ⟨.literal rest j, stack⟩ =>
    match rest with
    | [] => none
    | [last] => if c = last then some (complete j stack) else none
    | next :: rest => if c = next then some ⟨.literal rest j, stack⟩ else none

/-- A number at the end of what was read so far has ended; nothing else changes. -/
def State.settle : State → Option State
  | ⟨.number text state, stack⟩ =>
    if state.final then some (complete (.number text) stack) else none
  | s => some s

/-- Read on. -/
def run (s : State) (text : List Char) : Option State := text.foldlM State.step s

/-- The value that a whole text is. -/
def read (text : List Char) : Option Json :=
  match (run ⟨.value, []⟩ text).bind State.settle with
  | some ⟨.done j, _⟩ => some j
  | _ => none

/-! ## What is spelled is read -/

@[simp] theorem run_nil (s : State) : run s [] = some s := rfl

theorem run_cons (s : State) (c : Char) (text : List Char) :
    run s (c :: text) = (s.step c).bind (run · text) := List.foldlM_cons

theorem run_append (s : State) (t u : List Char) : run s (t ++ u) = (run s t).bind (run · u) :=
  List.foldlM_append

theorem settle_complete (j : Json) (stack : List Frame) :
    (complete j stack).settle = some (complete j stack) := by
  match stack with
  | [] => rfl
  | .array _ :: _ => rfl
  | .object _ _ :: _ => rfl

/-- The modes in which white space is passed over. -/
def Mode.skips : Mode → Bool
  | .value | .itemOrEnd | .nameOrEnd | .name | .colon => true
  | _ => false

theorem run_blank (mode : Mode) (stack : List Frame) {w : List Char} (hmode : mode.skips = true)
    (hw : Blank w) : run ⟨mode, stack⟩ w = some ⟨mode, stack⟩ := by
  have hstep : ∀ c, IsSpace c → State.step ⟨mode, stack⟩ c = some ⟨mode, stack⟩ := by
    intro c hc
    match mode with
    | .value | .itemOrEnd | .nameOrEnd | .name | .colon => exact if_pos hc
  induction w with
  | nil => rfl
  | cons c w ih =>
    rw [run_cons, hstep c (hw c List.mem_cons_self), Option.bind_some]
    exact ih fun d hd => hw d (List.mem_cons_of_mem c hd)

/-- No number goes on with white space or with what ends or separates values. -/
theorem NumberState.step_end {c : Char} (hc : c ∈ [' ', '\t', '\n', '\r', ',', ']', '\x7d'])
    (n : NumberState) : n.step c = none := by
  simp only [List.mem_cons, List.not_mem_nil, or_false] at hc
  rcases hc with rfl | rfl | rfl | rfl | rfl | rfl | rfl <;> cases n <;> rfl

/-- The character after a value finds it ended, a number included. -/
theorem step_of_settle {s t : State} {c : Char} (hs : s.settle = some t)
    (ht : t.step c = t.afterStep c) (hc : c ∈ [' ', '\t', '\n', '\r', ',', ']', '\x7d']) :
    s.step c = t.afterStep c := by
  match s with
  | ⟨.number text n, stack⟩ =>
    simp only [State.settle] at hs
    split at hs
    · rename_i hfinal
      rw [← Option.some.inj hs]
      simp only [State.step, NumberState.step_end hc, hfinal, if_true]
    · cases hs
  | ⟨.value, _⟩ | ⟨.itemOrEnd, _⟩ | ⟨.nameOrEnd, _⟩ | ⟨.name, _⟩ | ⟨.colon, _⟩ | ⟨.afterValue, _⟩
  | ⟨.text _ _ _, _⟩ | ⟨.literal _ _, _⟩ | ⟨.done _, _⟩ =>
    rw [Option.some.inj hs, ht]

/-- After a value: white space, then what ends it or goes on to the next. -/
theorem run_after {s t : State} {w rest : List Char} {c : Char} (hs : s.settle = some t)
    (ht : t.settle = some t) (hstep : ∀ d, t.step d = t.afterStep d) (hw : Blank w)
    (hc : c ∈ [',', ']', '\x7d']) :
    run s (w ++ c :: rest) = (t.afterStep c).bind (run · rest) := by
  induction w generalizing s with
  | nil =>
    have hmem : c ∈ [' ', '\t', '\n', '\r', ',', ']', '\x7d'] :=
      List.mem_append_right [' ', '\t', '\n', '\r'] hc
    rw [List.nil_append, run_cons, step_of_settle hs (hstep c) hmem]
  | cons d w ih =>
    have hspace : IsSpace d := hw d List.mem_cons_self
    have hmem : d ∈ [' ', '\t', '\n', '\r', ',', ']', '\x7d'] :=
      List.mem_append_left [',', ']', '\x7d'] hspace
    have hskip : t.afterStep d = some t := if_pos hspace
    rw [List.cons_append, run_cons, step_of_settle hs (hstep d) hmem, hskip, Option.bind_some]
    exact ih ht fun e he => hw e (List.mem_cons_of_mem d he)

variable {s s' : State} {stack : List Frame} {c : Char} {state : NumberState} {d : Nat}
  {t text : List Char} {j v : Json} {members : List (List Char × Json)}

/-- After the last value: white space to the end. -/
theorem run_end {t : State} {w : List Char} (hs : s.settle = some t) (ht : t.settle = some t)
    (hstep : ∀ d, t.step d = t.afterStep d) (hw : Blank w) :
    (run s w).bind State.settle = some t := by
  induction w generalizing s with
  | nil => exact hs
  | cons d w ih =>
    have hspace : IsSpace d := hw d List.mem_cons_self
    have hmem : d ∈ [' ', '\t', '\n', '\r', ',', ']', '\x7d'] :=
      List.mem_append_left [',', ']', '\x7d'] hspace
    have hskip : t.afterStep d = some t := if_pos hspace
    rw [run_cons, step_of_settle hs (hstep d) hmem, hskip, Option.bind_some]
    exact ih ht fun e he => hw e (List.mem_cons_of_mem d he)

/-- The rest of a quoted text, from any state of its reading. -/
theorem run_text {isName : Bool} {raw : List Char} {state : TextState} {before : List Char}
    (h : raw.foldlM TextState.step state = some .plain) :
    run ⟨.text isName before state, stack⟩ (raw ++ ['"']) =
      endText isName (before ++ raw) stack := by
  induction raw generalizing state before with
  | nil =>
    cases h
    simp [run_cons, State.step]
  | cons c raw ih =>
    rw [List.foldlM_cons] at h
    obtain ⟨state', hstate, hrest⟩ := Option.bind_eq_some_iff.mp h
    have hquote : ¬ (state = .plain ∧ c = '"') := by
      rintro ⟨rfl, rfl⟩
      exact nomatch (show none = some state' from hstate)
    rw [List.cons_append, run_cons]
    simp only [State.step, if_neg hquote, hstate, Option.map_some, Option.bind_some]
    rw [ih hrest, List.append_assoc, List.singleton_append]

/-- No number begins like white space, another value or the end of an array. -/
theorem NumberState.ne_of_start (h : NumberState.start c = some state) :
    ∀ d ∈ [' ', '\t', '\n', '\r', '"', '\x7b', '[', 't', 'f', 'n', ']'], c ≠ d := by
  rintro d hd rfl
  simp only [List.mem_cons, List.not_mem_nil, or_false] at hd
  rcases hd with rfl | rfl | rfl | rfl | rfl | rfl | rfl | rfl | rfl | rfl | rfl <;> cases h

theorem NumberState.not_isSpace_of_start (h : NumberState.start c = some state) : ¬ IsSpace c := by
  intro hc
  exact ne_of_start h c (List.mem_append_left ['"', '\x7b', '[', 't', 'f', 'n', ']'] hc) rfl

theorem step_number (h : NumberState.start c = some state) (stack : List Frame) :
    State.step ⟨.value, stack⟩ c = some ⟨.number [c] state, stack⟩ := by
  have hne := NumberState.ne_of_start h
  refine (if_neg (NumberState.not_isSpace_of_start h)).trans ?_
  unfold beginValue
  rw [if_neg (hne _ (by decide)), if_neg (hne _ (by decide)), if_neg (hne _ (by decide)),
    if_neg (hne _ (by decide)), if_neg (hne _ (by decide)), if_neg (hne _ (by decide)), h]
  rfl

/-- The rest of a number, from any state of its reading. -/
theorem run_number {rest before : List Char} {last : NumberState}
    (h : rest.foldlM NumberState.step state = some last) :
    run ⟨.number before state, stack⟩ rest = some ⟨.number (before ++ rest) last, stack⟩ := by
  induction rest generalizing state before with
  | nil =>
    cases h
    rw [List.append_nil, run_nil]
  | cons c rest ih =>
    rw [List.foldlM_cons] at h
    obtain ⟨state', hstate, hrest⟩ := Option.bind_eq_some_iff.mp h
    rw [run_cons]
    simp only [State.step, hstate, Option.bind_some]
    rw [ih hrest, List.append_assoc, List.singleton_append]

/-- An array or an object opens, unless too many are open. -/
theorem push_of_lt {mode : Mode} {frame : Frame} (h : stack.length < maxDepth) :
    push mode frame stack = some ⟨mode, frame :: stack⟩ := if_pos h

/-- What spells a value does not begin like white space or the end of an array. -/
theorem Spells.exists_cons (h : Spells d t v) :
    ∃ c rest, t = c :: rest ∧ ¬ IsSpace c ∧ c ≠ ']' := by
  cases h with
  | number hnumeral =>
    match t, hnumeral with
    | c :: rest, ⟨_, _, hfirst, _⟩ =>
      exact ⟨c, rest, rfl, NumberState.not_isSpace_of_start hfirst,
        NumberState.ne_of_start hfirst _ (by decide)⟩
  | _ => exact ⟨_, _, rfl, by decide, by decide⟩

/-- The first item of an array is read like any other value. -/
theorem Spells.run_item {d : Nat} {t : List Char} {v : Json} (h : Spells d t v)
    (stack : List Frame) : Json.run ⟨.itemOrEnd, stack⟩ t = Json.run ⟨.value, stack⟩ t := by
  obtain ⟨c, rest, rfl, hspace, hend⟩ := h.exists_cons
  have hitem : State.step ⟨.itemOrEnd, stack⟩ c = beginValue c stack :=
    (if_neg hspace).trans (if_neg hend)
  have hvalue : State.step ⟨.value, stack⟩ c = beginValue c stack := if_neg hspace
  rw [run_cons, run_cons, hitem, hvalue]

mutual

/-- What spells a value is read as that value, wherever a value may stand. -/
theorem Spells.run {d : Nat} {t : List Char} {v : Json} (h : Spells d t v) (stack : List Frame)
    (hd : stack.length + d ≤ maxDepth) :
    ∃ s, Json.run ⟨.value, stack⟩ t = some s ∧ s.settle = some (complete v stack) := by
  match h with
  | .null => exact ⟨_, rfl, settle_complete _ _⟩
  | .true => exact ⟨_, rfl, settle_complete _ _⟩
  | .false => exact ⟨_, rfl, settle_complete _ _⟩
  | .string hraw =>
    refine ⟨_, ?_, settle_complete _ _⟩
    rw [quoted, List.cons_append, run_cons]
    exact run_text hraw
  | @Spells.number _ (c :: rest) ⟨first, last, hfirst, hlast, hfinal⟩ =>
    refine ⟨⟨.number (c :: rest) last, stack⟩, ?_, if_pos hfinal⟩
    rw [run_cons, step_number hfirst]
    exact run_number hlast
  | .emptyArray (d := d) (w := w) hw =>
    refine ⟨complete (.array []) stack, ?_, settle_complete _ _⟩
    have hopen : State.step ⟨.value, stack⟩ '[' = some ⟨.itemOrEnd, .array [] :: stack⟩ :=
      push_of_lt (by omega)
    rw [run_cons, hopen, Option.bind_some, run_append, run_blank _ _ rfl hw]
    rfl
  | .array (d := d) hw ht hrest =>
    have hopen : State.step ⟨.value, stack⟩ '[' = some ⟨.itemOrEnd, .array [] :: stack⟩ :=
      push_of_lt (by omega)
    obtain ⟨s, hs, hsettle⟩ := ht.run (.array [] :: stack) (by rw [List.length_cons]; omega)
    refine ⟨_, ?_, settle_complete _ _⟩
    rw [run_cons, hopen, Option.bind_some, run_append, run_blank _ _ rfl hw, Option.bind_some,
      run_append, ht.run_item, hs, Option.bind_some]
    exact hrest.run s _ stack hsettle (by omega)
  | .emptyObject (d := d) (w := w) hw =>
    refine ⟨complete (.object []) stack, ?_, settle_complete _ _⟩
    have hopen : State.step ⟨.value, stack⟩ '\x7b' = some ⟨.nameOrEnd, .object [] [] :: stack⟩ :=
      push_of_lt (by omega)
    rw [run_cons, hopen, Option.bind_some, run_append, run_blank _ _ rfl hw]
    rfl
  | .object (d := d) hw hm hrest =>
    have hopen : State.step ⟨.value, stack⟩ '\x7b' = some ⟨.nameOrEnd, .object [] [] :: stack⟩ :=
      push_of_lt (by omega)
    obtain ⟨s, hs, hsettle⟩ := hm.run .nameOrEnd (Or.inr rfl) [] [] stack (by omega)
    refine ⟨_, ?_, settle_complete _ _⟩
    rw [run_cons, hopen, Option.bind_some, run_append, run_blank _ _ rfl hw,
      Option.bind_some, run_append, hs, Option.bind_some]
    exact hrest.run s _ stack hsettle (by omega)

theorem SpellsItems.run {d : Nat} {t : List Char} {items : List Json} (h : SpellsItems d t items)
    (s : State) (before : List Json) (stack : List Frame)
    (hs : s.settle = some ⟨.afterValue, .array before :: stack⟩)
    (hd : stack.length + 1 + d ≤ maxDepth) :
    Json.run s t = some (complete (.array (before ++ items)) stack) := by
  match h with
  | .close hw =>
    rw [run_after hs rfl (fun _ => rfl) hw (by decide), List.append_nil]
    rfl
  | .next hw hw' ht hrest =>
    obtain ⟨s', hrun, hs'⟩ := ht.run (.array before :: stack) (by rw [List.length_cons]; omega)
    rw [run_after hs rfl (fun _ => rfl) hw (by decide)]
    refine (Option.bind_some ..).trans ?_
    rw [run_append, run_blank _ _ rfl hw', Option.bind_some, run_append, hrun,
      Option.bind_some, hrest.run s' _ stack hs' hd, List.append_assoc, List.singleton_append]

theorem SpellsMember.run {d : Nat} {t : List Char} {m : List Char × Json} (h : SpellsMember d t m)
    (mode : Mode) (hmode : mode = .name ∨ mode = .nameOrEnd)
    (before : List (List Char × Json)) (name : List Char) (stack : List Frame)
    (hd : stack.length + 1 + d ≤ maxDepth) :
    ∃ s, Json.run ⟨mode, .object before name :: stack⟩ t = some s ∧
      s.settle = some ⟨.afterValue, .object (before ++ [m]) [] :: stack⟩ := by
  match h with
  | @SpellsMember.mk _ name' _ _ _ _ hname hw hw' ht =>
    have hquote : State.step ⟨mode, .object before name :: stack⟩ '"' =
        some ⟨.text true [] .plain, .object before name :: stack⟩ := by
      rcases hmode with rfl | rfl <;> rfl
    have hread : Json.run ⟨mode, .object before name :: stack⟩ (quoted name') =
        some ⟨.colon, .object before name' :: stack⟩ := by
      rw [quoted, List.cons_append, run_cons, hquote]
      exact run_text hname
    obtain ⟨s, hrun, hs⟩ := ht.run (.object before name' :: stack) (by rw [List.length_cons]; omega)
    refine ⟨s, ?_, hs⟩
    rw [run_append, hread, Option.bind_some, run_append, run_blank _ _ rfl hw,
      Option.bind_some, run_cons]
    refine (Option.bind_some ..).trans ?_
    rw [run_append, run_blank _ _ rfl hw', Option.bind_some, hrun]

theorem SpellsMembers.run {d : Nat} {t : List Char} {members : List (List Char × Json)}
    (h : SpellsMembers d t members) (s : State) (before : List (List Char × Json))
    (stack : List Frame) (hs : s.settle = some ⟨.afterValue, .object before [] :: stack⟩)
    (hd : stack.length + 1 + d ≤ maxDepth) :
    Json.run s t = some (complete (.object (before ++ members)) stack) := by
  match h with
  | .close hw =>
    rw [run_after hs rfl (fun _ => rfl) hw (by decide), List.append_nil]
    rfl
  | .next hw hw' hm hrest =>
    obtain ⟨s', hrun, hs'⟩ := hm.run .name (Or.inl rfl) before [] stack hd
    rw [run_after hs rfl (fun _ => rfl) hw (by decide)]
    refine (Option.bind_some ..).trans ?_
    rw [run_append, run_blank _ _ rfl hw', Option.bind_some, run_append, hrun,
      Option.bind_some, hrest.run s' _ stack hs' hd, List.append_assoc, List.singleton_append]

end

/-! ## What is read was spelled -/

/-- What may follow a value, with these arrays and objects open, for the whole text to be
`j`. -/
def Follows : List Frame → Json → List Char → Json → Prop
  | [], v, rest, j => v = j ∧ Blank rest
  | .array items :: stack, v, rest, j =>
    ∃ t later rest', rest = t ++ rest' ∧
      SpellsItems (maxDepth - (stack.length + 1)) t later ∧
      Follows stack (.array (items ++ v :: later)) rest' j
  | .object members name :: stack, v, rest, j =>
    ∃ t later rest', rest = t ++ rest' ∧
      SpellsMembers (maxDepth - (stack.length + 1)) t later ∧
      Follows stack (.object (members ++ (name, v) :: later)) rest' j

/-- A value, and what may follow it. -/
def Value (stack : List Frame) (rest : List Char) (j : Json) : Prop :=
  ∃ t v rest', rest = t ++ rest' ∧ Spells (maxDepth - stack.length) t v ∧ Follows stack v rest' j

/-- What the rest of the text must be, for the whole to be `j`. -/
def Awaits : State → List Char → Json → Prop
  | ⟨.value, stack⟩, text, j => ∃ w rest, Blank w ∧ text = w ++ rest ∧ Value stack rest j
  | ⟨.itemOrEnd, stack⟩, text, j =>
    ∃ w rest, Blank w ∧ text = w ++ rest ∧
      ((∃ items stack' rest', stack = .array items :: stack' ∧ rest = ']' :: rest' ∧
        Follows stack' (.array items) rest' j) ∨ Value stack rest j)
  | ⟨.nameOrEnd, .object members _ :: stack⟩, text, j =>
    ∃ w rest, Blank w ∧ text = w ++ rest ∧
      ((∃ rest', rest = '\x7d' :: rest' ∧ Follows stack (.object members) rest' j) ∨
        ∃ t m t' later rest', rest = t ++ (t' ++ rest') ∧
          SpellsMember (maxDepth - (stack.length + 1)) t m ∧
          SpellsMembers (maxDepth - (stack.length + 1)) t' later ∧
          Follows stack (.object (members ++ m :: later)) rest' j)
  | ⟨.name, .object members _ :: stack⟩, text, j =>
    ∃ w rest, Blank w ∧ text = w ++ rest ∧
      ∃ t m t' later rest', rest = t ++ (t' ++ rest') ∧
        SpellsMember (maxDepth - (stack.length + 1)) t m ∧
        SpellsMembers (maxDepth - (stack.length + 1)) t' later ∧
        Follows stack (.object (members ++ m :: later)) rest' j
  | ⟨.colon, stack⟩, text, j =>
    ∃ w w' rest, Blank w ∧ Blank w' ∧ text = w ++ ':' :: (w' ++ rest) ∧ Value stack rest j
  | ⟨.afterValue, .array items :: stack⟩, text, j =>
    ∃ t later rest, text = t ++ rest ∧ SpellsItems (maxDepth - (stack.length + 1)) t later ∧
      Follows stack (.array (items ++ later)) rest j
  | ⟨.afterValue, .object members _ :: stack⟩, text, j =>
    ∃ t later rest, text = t ++ rest ∧ SpellsMembers (maxDepth - (stack.length + 1)) t later ∧
      Follows stack (.object (members ++ later)) rest j
  | ⟨.text true raw state, .object members _ :: stack⟩, text, j =>
    ∃ raw' w w' rest, Blank w ∧ Blank w' ∧ text = raw' ++ '"' :: (w ++ ':' :: (w' ++ rest)) ∧
      raw'.foldlM TextState.step state = some .plain ∧
      Value (.object members (raw ++ raw') :: stack) rest j
  | ⟨.text false raw state, stack⟩, text, j =>
    ∃ raw' rest, text = raw' ++ '"' :: rest ∧
      raw'.foldlM TextState.step state = some .plain ∧ Follows stack (.string (raw ++ raw')) rest j
  | ⟨.number digits state, stack⟩, text, j =>
    ∃ more last rest, text = more ++ rest ∧ more.foldlM NumberState.step state = some last ∧
      last.final = true ∧ Follows stack (.number (digits ++ more)) rest j
  | ⟨.literal more v, stack⟩, text, j => ∃ rest, text = more ++ rest ∧ Follows stack v rest j
  | ⟨.done v, _⟩, text, j => v = j ∧ Blank text
  | _, _, _ => False

theorem awaits_complete (h : Awaits (complete v stack) text j) : Follows stack v text j := by
  match stack with
  | [] => exact h
  | .array items :: stack =>
    simp only [complete, Awaits, List.append_assoc, List.singleton_append] at h
    exact h
  | .object members name :: stack =>
    simp only [complete, Awaits, List.append_assoc, List.singleton_append] at h
    exact h

theorem Blank.cons {c : Char} {w : List Char} (hc : IsSpace c) (hw : Blank w) : Blank (c :: w) :=
  List.forall_mem_cons.mpr ⟨hc, hw⟩

theorem SpellsItems.cons_space {items : List Json} (hc : IsSpace c) (h : SpellsItems d t items) :
    SpellsItems d (c :: t) items := by
  cases h with
  | close hw => exact .close (hw.cons hc)
  | next hw hw' ht hrest => exact .next (hw.cons hc) hw' ht hrest

theorem SpellsMembers.cons_space (hc : IsSpace c) (h : SpellsMembers d t members) :
    SpellsMembers d (c :: t) members := by
  cases h with
  | close hw => exact .close (hw.cons hc)
  | next hw hw' ht hrest => exact .next (hw.cons hc) hw' ht hrest

/-- A value has ended. -/
def State.ended : State → Bool
  | ⟨.afterValue, _⟩ | ⟨.done _, _⟩ => true
  | _ => false

theorem ended_complete (v : Json) (stack : List Frame) : (complete v stack).ended = true := by
  match stack with
  | [] => rfl
  | .array _ :: _ => rfl
  | .object _ _ :: _ => rfl

theorem awaits_afterStep (hended : s.ended = true) (hs : s.afterStep c = some s')
    (h : Awaits s' text j) :
    Awaits s (c :: text) j := by
  unfold State.afterStep at hs
  split at hs
  · rename_i hc
    cases hs
    match s with
    | ⟨.afterValue, .array items :: stack⟩ =>
      obtain ⟨t, later, rest, rfl, ht, hrest⟩ := h
      exact ⟨c :: t, later, rest, rfl, ht.cons_space hc, hrest⟩
    | ⟨.afterValue, .object members name :: stack⟩ =>
      obtain ⟨t, later, rest, rfl, ht, hrest⟩ := h
      exact ⟨c :: t, later, rest, rfl, ht.cons_space hc, hrest⟩
    | ⟨.done v, _⟩ => exact ⟨h.1, h.2.cons hc⟩
  · split at hs
    · rename_i items stack
      split at hs
      · rename_i hcomma
        cases hs
        obtain ⟨w, _, hw, rfl, t, v, _, rfl, ht, t', later, rest, rfl, ht', hrest⟩ := h
        refine ⟨',' :: (w ++ (t ++ t')), v :: later, rest, ?_, ?_, hrest⟩
        · simp [hcomma]
        · exact @SpellsItems.next _ [] _ _ _ _ _ blank_nil hw ht ht'
      · split at hs
        · rename_i hclose
          cases hs
          exact ⟨[']'], [], text, by rw [hclose]; rfl, @SpellsItems.close _ [] blank_nil,
            by rw [List.append_nil]; exact awaits_complete h⟩
        · cases hs
    · rename_i members name stack
      split at hs
      · rename_i hcomma
        cases hs
        obtain ⟨w, _, hw, rfl, t, m, t', later, rest, rfl, ht, ht', hrest⟩ := h
        refine ⟨',' :: (w ++ (t ++ t')), m :: later, rest, ?_, ?_, hrest⟩
        · simp [hcomma]
        · exact @SpellsMembers.next _ [] _ _ _ _ _ blank_nil hw ht ht'
      · split at hs
        · rename_i hclose
          cases hs
          exact ⟨['\x7d'], [], text, by rw [hclose]; rfl, @SpellsMembers.close _ [] blank_nil,
            by rw [List.append_nil]; exact awaits_complete h⟩
        · cases hs
    · cases hs

theorem awaits_push {mode : Mode} {frame : Frame} (hs : push mode frame stack = some s) :
    s = ⟨mode, frame :: stack⟩ ∧ maxDepth - stack.length = maxDepth - (stack.length + 1) + 1 := by
  unfold push at hs
  split at hs
  · cases hs
    exact ⟨rfl, by omega⟩
  · cases hs

theorem awaits_beginValue (hs : beginValue c stack = some s) (h : Awaits s text j) :
    Value stack (c :: text) j := by
  unfold beginValue at hs
  split at hs
  · rename_i hc
    cases hs
    obtain ⟨raw, rest, rfl, hraw, hrest⟩ := h
    exact ⟨quoted raw, .string raw, rest, by simp [hc, quoted], .string hraw, hrest⟩
  split at hs
  · rename_i hc
    obtain ⟨rfl, hdepth⟩ := awaits_push hs
    rw [Value, hdepth]
    obtain ⟨w, _, hw, rfl, ⟨rest, rfl, hrest⟩ | ⟨t, m, t', later, rest, rfl, ht, ht', hrest⟩⟩ := h
    · exact ⟨_, _, rest, by simp [hc], .emptyObject hw, hrest⟩
    · exact ⟨_, _, rest, by simp [hc], .object hw ht ht', hrest⟩
  split at hs
  · rename_i hc
    obtain ⟨rfl, hdepth⟩ := awaits_push hs
    rw [Value, hdepth]
    obtain ⟨w, _, hw, rfl, ⟨_, _, rest, hstack, rfl, hrest⟩ |
      ⟨t, v, _, rfl, ht, t', later, rest, rfl, ht', hrest⟩⟩ := h
    · cases hstack
      exact ⟨_, _, rest, by simp [hc], .emptyArray hw, hrest⟩
    · exact ⟨_, _, rest, by simp [hc], .array hw ht ht', hrest⟩
  split at hs
  · rename_i hc
    cases hs
    obtain ⟨rest, rfl, hrest⟩ := h
    exact ⟨_, _, rest, by simp [hc], .true, hrest⟩
  split at hs
  · rename_i hc
    cases hs
    obtain ⟨rest, rfl, hrest⟩ := h
    exact ⟨_, _, rest, by simp [hc], .false, hrest⟩
  split at hs
  · rename_i hc
    cases hs
    obtain ⟨rest, rfl, hrest⟩ := h
    exact ⟨_, _, rest, by simp [hc], .null, hrest⟩
  · obtain ⟨first, hfirst, rfl⟩ := Option.map_eq_some_iff.mp hs
    obtain ⟨more, last, rest, rfl, hmore, hlast, hrest⟩ := h
    exact ⟨c :: more, _, rest, rfl, .number ⟨first, last, hfirst, hmore, hlast⟩, hrest⟩

theorem awaits_name {name : List Char}
    (h : Awaits ⟨.text true [] .plain, .object members name :: stack⟩ text j) :
    ∃ t m t' later rest, '"' :: text = t ++ (t' ++ rest) ∧
      SpellsMember (maxDepth - (stack.length + 1)) t m ∧
      SpellsMembers (maxDepth - (stack.length + 1)) t' later ∧
      Follows stack (.object (members ++ m :: later)) rest j := by
  obtain ⟨raw, w, w', _, hw, hw', rfl, hraw, t, v, _, rfl, ht, t', later, rest, rfl, ht', hrest⟩ := h
  refine ⟨_, (raw, v), t', later, rest, ?_, .mk hraw hw hw' ht, ht', hrest⟩
  simp [quoted]

/-- **No step changes what the rest of the text must be.** -/
theorem awaits_step (hs : s.step c = some s') (h : Awaits s' text j) : Awaits s (c :: text) j := by
  match s with
  | ⟨.value, stack⟩ =>
    simp only [State.step] at hs
    split at hs
    · rename_i hc
      cases hs
      obtain ⟨w, rest, hw, rfl, hrest⟩ := h
      exact ⟨c :: w, rest, hw.cons hc, rfl, hrest⟩
    · exact ⟨[], _, blank_nil, rfl, awaits_beginValue hs h⟩
  | ⟨.itemOrEnd, stack⟩ =>
    simp only [State.step] at hs
    split at hs
    · rename_i hc
      cases hs
      obtain ⟨w, rest, hw, rfl, hrest⟩ := h
      exact ⟨c :: w, rest, hw.cons hc, rfl, hrest⟩
    · split at hs
      · rename_i hspace hc
        subst hc
        match stack with
        | .array items :: stack =>
          cases hs
          exact ⟨[], _, blank_nil, rfl, .inl ⟨items, stack, text, rfl, rfl, awaits_complete h⟩⟩
      · exact ⟨[], _, blank_nil, rfl, .inr (awaits_beginValue hs h)⟩
  | ⟨.nameOrEnd, .object members name :: stack⟩ =>
    simp only [State.step] at hs
    split at hs
    · rename_i hc
      cases hs
      obtain ⟨w, rest, hw, rfl, hrest⟩ := h
      exact ⟨c :: w, rest, hw.cons hc, rfl, hrest⟩
    · split at hs
      · rename_i hspace hc
        subst hc
        cases hs
        exact ⟨[], _, blank_nil, rfl, .inl ⟨text, rfl, awaits_complete h⟩⟩
      · split at hs
        · rename_i hc
          cases hs
          rw [hc]
          exact ⟨[], _, blank_nil, rfl, .inr (awaits_name h)⟩
        · cases hs
  | ⟨.name, .object members name :: stack⟩ =>
    simp only [State.step] at hs
    split at hs
    · rename_i hc
      cases hs
      obtain ⟨w, rest, hw, rfl, hrest⟩ := h
      exact ⟨c :: w, rest, hw.cons hc, rfl, hrest⟩
    · split at hs
      · rename_i hc
        cases hs
        rw [hc]
        exact ⟨[], _, blank_nil, rfl, awaits_name h⟩
      · cases hs
  | ⟨.colon, stack⟩ =>
    simp only [State.step] at hs
    split at hs
    · rename_i hc
      cases hs
      obtain ⟨w, w', rest, hw, hw', rfl, hrest⟩ := h
      exact ⟨c :: w, w', rest, hw.cons hc, hw', rfl, hrest⟩
    · split at hs
      · rename_i hc
        cases hs
        obtain ⟨w, rest, hw, rfl, hrest⟩ := h
        exact ⟨[], w, rest, blank_nil, hw, by rw [hc]; rfl, hrest⟩
      · cases hs
  | ⟨.afterValue, stack⟩ => exact awaits_afterStep rfl hs h
  | ⟨.done v, stack⟩ => exact awaits_afterStep rfl hs h
  | ⟨.text true raw state, .object members name :: stack⟩ =>
    simp only [State.step] at hs
    split at hs
    · rename_i hend
      cases hs
      obtain ⟨w, w', rest, hw, hw', rfl, hrest⟩ := h
      refine ⟨[], w, w', rest, hw, hw', by rw [hend.2]; rfl, by rw [hend.1]; rfl, ?_⟩
      rw [List.append_nil]
      exact hrest
    · obtain ⟨state', hstate, rfl⟩ := Option.map_eq_some_iff.mp hs
      obtain ⟨raw', w, w', rest, hw, hw', rfl, hraw', hrest⟩ := h
      refine ⟨c :: raw', w, w', rest, hw, hw', rfl, ?_, ?_⟩
      · rw [List.foldlM_cons, hstate]
        exact hraw'
      · rw [List.append_cons]
        exact hrest
  | ⟨.text false raw state, stack⟩ =>
    simp only [State.step] at hs
    split at hs
    · rename_i hend
      cases hs
      refine ⟨[], text, by rw [hend.2]; rfl, by rw [hend.1]; rfl, ?_⟩
      rw [List.append_nil]
      exact awaits_complete h
    · obtain ⟨state', hstate, rfl⟩ := Option.map_eq_some_iff.mp hs
      obtain ⟨raw', rest, rfl, hraw', hrest⟩ := h
      refine ⟨c :: raw', rest, rfl, ?_, ?_⟩
      · rw [List.foldlM_cons, hstate]
        exact hraw'
      · rw [List.append_cons]
        exact hrest
  -- a name outside an object is never read
  | ⟨.nameOrEnd, []⟩ | ⟨.nameOrEnd, .array _ :: _⟩ =>
    simp only [State.step] at hs
    split at hs
    · cases hs
      exact h.elim
    · split at hs
      · rename_i hspace hc
        subst hc
        cases hs
      · split at hs
        · cases hs
          exact h.elim
        · cases hs
  | ⟨.name, []⟩ | ⟨.name, .array _ :: _⟩ =>
    simp only [State.step] at hs
    split at hs
    · cases hs
      exact h.elim
    · split at hs
      · cases hs
        exact h.elim
      · cases hs
  | ⟨.text true _ _, []⟩ | ⟨.text true _ _, .array _ :: _⟩ =>
    simp only [State.step] at hs
    split at hs
    · cases hs
    · obtain ⟨_, _, rfl⟩ := Option.map_eq_some_iff.mp hs
      exact h.elim
  | ⟨.number digits state, stack⟩ =>
    simp only [State.step] at hs
    split at hs
    · rename_i state' hstate
      cases hs
      obtain ⟨more, last, rest, rfl, hmore, hlast, hrest⟩ := h
      refine ⟨c :: more, last, rest, rfl, ?_, hlast, ?_⟩
      · rw [List.foldlM_cons, hstate]
        exact hmore
      · rw [List.append_cons]
        exact hrest
    · split at hs
      · rename_i hfinal
        have hrest := awaits_complete (awaits_afterStep (ended_complete _ _) hs h)
        exact ⟨[], state, c :: text, rfl, rfl, hfinal, by rw [List.append_nil]; exact hrest⟩
      · cases hs
  | ⟨.literal more v, stack⟩ =>
    simp only [State.step] at hs
    split at hs
    · cases hs
    · split at hs
      · rename_i hc
        cases hs
        exact ⟨text, by rw [hc]; rfl, awaits_complete h⟩
      · cases hs
    · split at hs
      · rename_i hc
        cases hs
        obtain ⟨rest, rfl, hrest⟩ := h
        exact ⟨rest, by rw [hc]; rfl, hrest⟩
      · cases hs

theorem awaits_run (hs : run s text = some s') (h : Awaits s' [] j) : Awaits s text j := by
  induction text generalizing s with
  | nil =>
    cases hs
    exact h
  | cons c text ih =>
    rw [run_cons] at hs
    obtain ⟨next, hnext, hrun⟩ := Option.bind_eq_some_iff.mp hs
    exact awaits_step hnext (ih hrun)

/-- Where the reading may end, nothing more is awaited. -/
theorem awaits_nil (hs : s.settle = some ⟨.done j, stack⟩) : Awaits s [] j := by
  match s with
  | ⟨.number digits state, stack'⟩ =>
    simp only [State.settle] at hs
    split at hs
    · rename_i hfinal
      match stack', hs with
      | [], hs =>
        cases hs
        exact ⟨[], state, [], rfl, rfl, hfinal, by rw [List.append_nil], blank_nil⟩
    · cases hs
  | ⟨.done v, _⟩ =>
    cases hs
    exact ⟨rfl, blank_nil⟩

/-- **The reader reads exactly the texts of the grammar**, nested at most `maxDepth` deep. -/
theorem read_iff : read text = some j ↔ Text maxDepth text j := by
  constructor
  · intro h
    unfold read at h
    split at h
    · rename_i stack heq
      cases h
      obtain ⟨s, hrun, hs⟩ := Option.bind_eq_some_iff.mp heq
      obtain ⟨w, _, hw, rfl, t, v, w', rfl, ht, rfl, hw'⟩ := awaits_run hrun (awaits_nil hs)
      exact ⟨w, t, w', hw, hw', rfl, ht⟩
    · cases h
  · rintro ⟨w, t, w', hw, hw', rfl, ht⟩
    obtain ⟨s, hrun, hs⟩ := ht.run [] (Nat.le_of_eq (Nat.zero_add _))
    unfold read
    rw [run_append, run_blank _ _ rfl hw, Option.bind_some, run_append, hrun, Option.bind_some,
      run_end hs rfl (fun _ => rfl) hw']
    rfl

end Json
