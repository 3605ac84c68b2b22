import Mathlib.Data.List.Induction
import OncallGateway.AuthenticationRequest
import OncallGateway.EventDecoding

/-! # The grammar of events

What `decodeEvent` accepts, said without its passes: `Document` is one JSON object in which
no name is used twice, and `Describes` are the rules for the members of each type of event.
`decodeFields_eq_ok` compares the rules with the decoders, member by member.

A rule about a string is about the text that it denotes, which a string with half of a
surrogate pair does not have.
-/

namespace OncallGateway

/-! ## Rules -/

/-- A string that denotes the text with these bytes. -/
def IsText (value : ByteString) (j : Json) : Prop :=
  ∃ raw us text, j = .string raw ∧ Json.Lexed raw us ∧ Json.Denotes us text ∧
    value = utf8Encode text

/-- The digits of a positive number that fits in 63 bits. -/
def IsPositive (value : Int64) (j : Json) : Prop :=
  ∃ n, 0 < n ∧ n < 2 ^ 63 ∧ j = .number (Nat.toDigits 10 n) ∧ value = Int64.ofNat n

/-- Bytes of printable ASCII. -/
def Printable (value : ByteString) : Prop := ∀ c ∈ value, 0x20 ≤ c ∧ c ≤ 0x7e

/-- Of `low` to `high` bytes. -/
def LengthIn (low high : Nat) (value : ByteString) : Prop :=
  low ≤ value.length ∧ value.length ≤ high

/-- An object of strings, with the entries of the map. -/
def IsTable (metaMap : EntryMap ByteString ByteString) (j : Json) : Prop :=
  ∃ members, j = .object members ∧ metaMap.size = members.length ∧
    (∀ m ∈ members, LengthIn 1 255 (utf8Encode (Json.unquote m.1)) ∧
      Printable (utf8Encode (Json.unquote m.1)) ∧
      ∃ value, IsText value m.2 ∧ metaMap[utf8Encode (Json.unquote m.1)]? = some value) ∧
    (metaMap.toList.map fun entry => entry.1.length + entry.2.length).sum ≤ 32768

/-- At most `count` code points. -/
def CodePoints (count : Nat) (value : ByteString) : Prop :=
  ∃ text, value = utf8Encode text ∧ text.length ≤ count

/-- A letter, letters, digits, blanks and three signs, and at the end no blank. -/
def ServiceNameShape (value : ByteString) : Prop :=
  ∃ first inner last, value = first :: (inner ++ [last]) ∧ letterByte first = true ∧
    (∀ c ∈ inner, serviceNameByte c = true ∨ c = 32) ∧ serviceNameByte last = true

/-- The member of that name is as `P` says. -/
def Member (members : List (List Char × Json)) (name : List Char) (P : Json → Prop) : Prop :=
  ∃ m ∈ members, Json.unquote m.1 = name ∧ P m.2

variable {members : List (List Char × Json)} {name : List Char} {value : ByteString}
  {metaMap : EntryMap ByteString ByteString} {order : RangeOrder (List Char) Json}

theorem Member.imp {P Q : Json → Prop} (h : Member members name P) (hPQ : ∀ {j}, P j → Q j) :
    Member members name Q := by
  obtain ⟨m, hm, hname, hP⟩ := h
  exact ⟨m, hm, hname, hPQ hP⟩

/-- The members have the names of that type of event, which `Type` names. -/
def OfType (members : List (List Char × Json)) (kind : EventType) : Prop :=
  (members.map fun m => Json.unquote m.1).Perm kind.names ∧
    Member members "Type".toList (IsText (utf8Encode kind.text))

/-- The rule of `AppName`. -/
def AppNameRule (value : ByteString) : Prop := LengthIn 1 32 value ∧ Printable value

/-- **The rules for the members of an event.** -/
def Describes (members : List (List Char × Json)) : EventValue → Prop
  | .test event =>
    OfType members .test ∧
    Member members "AppName".toList (IsText event.appName) ∧ AppNameRule event.appName
  | .verification event =>
    OfType members .verification ∧
    (Member members "AppName".toList (IsText event.appName) ∧ AppNameRule event.appName) ∧
    Member members "Code".toList (IsText event.code) ∧
      event.code.length = 6 ∧ ∀ c ∈ event.code, digitByte c = true
  | .alert event =>
    OfType members .alert ∧
    (Member members "AppName".toList (IsText event.appName) ∧ AppNameRule event.appName) ∧
    Member members "AlertID".toList (IsPositive event.alertID) ∧
    (Member members "Summary".toList (IsText event.summary) ∧ CodePoints 1024 event.summary) ∧
    (Member members "Details".toList (IsText event.details) ∧ CodePoints 6144 event.details) ∧
    (Member members "ServiceID".toList (IsText event.serviceID) ∧
      ∃ id : UUID, event.serviceID = formatUUID id) ∧
    (Member members "ServiceName".toList (IsText event.serviceName) ∧
      LengthIn 2 64 event.serviceName ∧ ServiceNameShape event.serviceName) ∧
    ∃ metaMap, event.metaMap = some metaMap ∧ Member members "Meta".toList (IsTable metaMap)
  | .alertStatus event =>
    OfType members .alertStatus ∧
    (Member members "AppName".toList (IsText event.appName) ∧ AppNameRule event.appName) ∧
    Member members "AlertID".toList (IsPositive event.alertID) ∧
    (Member members "LogEntry".toList (IsText event.logEntry) ∧ event.logEntry ≠ []) ∧
    Member members "AlertState".toList (IsText event.alertState) ∧
      event.alertState ∈ alertStates

/-- The bytes are one JSON object with these members, nested at most so deep, in which no
name is used twice. -/
def Document (depth : Nat) (data : ByteString) (members : List (List Char × Json)) : Prop :=
  ∃ text, data = utf8Encode text ∧ Json.Text depth text (.object members) ∧
    Json.DistinctNames (.object members)

/-! ## Strings -/

theorem read_quoted {raw raw' : List Char}
    (h : Json.read (Json.quoted raw) = some (.string raw')) : raw' = raw ∧ Json.Quotable raw := by
  obtain ⟨w, t, w', hw, hw', heq, ht⟩ := Json.read_iff.mp h
  cases ht with
  | string hraw =>
    -- no white space stands before or after a quotation mark
    match w with
    | c :: w =>
      have hc : '"' = c := (List.cons.inj heq).1
      exact absurd (hw c List.mem_cons_self) (hc ▸ by decide)
    | [] =>
      rcases List.eq_nil_or_concat w' with rfl | ⟨w', c, rfl⟩
      · simp only [Json.quoted, List.nil_append, List.append_nil, List.cons_append,
          List.cons.injEq, List.append_cancel_right_eq, true_and] at heq
        exact ⟨heq.symm, heq ▸ hraw⟩
      · have hlast : '"' = c := by
          have hlasts := congrArg List.getLast? heq
          simpa [Json.quoted, List.getLast?_cons, List.getLast?_append] using hlasts
        exact absurd (hw' c (by simp)) (hlast ▸ by decide)

theorem decodeRawString_eq_ok {j : Json} :
    decodeRawString j = .ok value ↔ IsText value j := by
  constructor
  · intro h
    match j, h with
    | .string raw, h =>
      have hraw : Json.Quotable raw := by
        have h' := h
        simp only [decodeRawString, decodeJSONString] at h'
        split at h'
        · cases h'
        · split at h'
          · cases h'
          · split at h'
            · cases h'
            · rename_i hunmarshal
              unfold unmarshalString at hunmarshal
              rw [utf8Decode?_utf8Encode, Option.bind_some] at hunmarshal
              split at hunmarshal
              · exact (read_quoted ‹_›).2
              · cases hunmarshal
      obtain ⟨us, hus⟩ := hraw.exists_lexed
      obtain ⟨text, htext, rfl⟩ := (decodeJSONString_eq_ok hraw hus).mp h
      exact ⟨raw, us, text, rfl, hus, htext, rfl⟩
  · rintro ⟨raw, us, text, rfl, hus, htext, rfl⟩
    exact (decodeJSONString_eq_ok hus.quotable hus).mpr ⟨text, htext, rfl⟩

/-! ## Fields -/

theorem exists_digitChar {c : Char} (h : c.isDigit = true) : ∃ v < 10, c = Nat.digitChar v := by
  have hrange : 48 ≤ c.toNat ∧ c.toNat ≤ 57 := by
    simpa [Char.isDigit, UInt32.le_iff_toNat_le] using h
  have hall : ∀ v < 10, Char.ofNat (48 + v) = Nat.digitChar v := by decide
  refine ⟨c.toNat - 48, by omega, ?_⟩
  rw [← hall _ (by omega), show 48 + (c.toNat - 48) = c.toNat by omega, Char.ofNat_toNat]

section
variable (h : (members.map fun m => Json.unquote m.1).Nodup)
include h

theorem rawFields_distinct :
    EntryMap.Distinct (members.map fun m => (Json.unquote m.1, m.2)) := by
  rw [EntryMap.distinct_iff, List.map_map]
  exact h

theorem getElem?_rawFields {j : Json} :
    (rawFields members)[name]? = some j ↔ Member members name (· = j) := by
  rw [rawFields, EntryMap.getElem?_ofList_iff (rawFields_distinct h), List.mem_map]
  constructor
  · rintro ⟨m, hm, hpair⟩
    exact ⟨m, hm, congrArg Prod.fst hpair, congrArg Prod.snd hpair⟩
  · rintro ⟨m, hm, hname, hvalue⟩
    exact ⟨m, hm, by rw [hname, hvalue]⟩

theorem exists_rawFields {P : Json → Prop} :
    (∃ j, (rawFields members)[name]? = some j ∧ P j) ↔ Member members name P := by
  simp only [getElem?_rawFields h]
  constructor
  · rintro ⟨_, ⟨m, hm, hname, rfl⟩, hP⟩
    exact ⟨m, hm, hname, hP⟩
  · rintro ⟨m, hm, hname, hP⟩
    exact ⟨m.2, ⟨m, hm, hname, rfl⟩, hP⟩

theorem hasExactFields_eq_true {names : List (List Char)} (hnames : names.Nodup) :
    hasExactFields (rawFields members) names = true ↔
      (members.map fun m => Json.unquote m.1).Perm names := by
  have hperm := EntryMap.toList_ofList_perm (rawFields_distinct h)
  have hsize : (rawFields members).size = members.length := by
    rw [← Std.ExtTreeMap.length_toList, rawFields, hperm.length_eq, List.length_map]
  have hmem : ∀ name, (rawFields members).contains name = true ↔
      name ∈ members.map fun m => Json.unquote m.1 := by
    intro name
    rw [← Std.ExtTreeMap.isSome_getElem?_eq_contains, Option.isSome_iff_exists, List.mem_map]
    simp only [getElem?_rawFields h, Member]
    constructor
    · rintro ⟨_, m, hm, hname, -⟩
      exact ⟨m, hm, hname⟩
    · rintro ⟨m, hm, hname⟩
      exact ⟨m.2, m, hm, hname, rfl⟩
  simp only [hasExactFields, hsize, Bool.and_eq_true, decide_eq_true_eq, List.all_eq_true, hmem]
  constructor
  · rintro ⟨hlength, hall⟩
    refine ((List.subperm_of_subset hnames hall).perm_of_length_le ?_).symm
    rw [List.length_map]
    omega
  · intro hnamed
    exact ⟨by rw [← hnamed.length_eq, List.length_map], fun name hname => hnamed.mem_iff.mpr hname⟩

theorem requiredString_eq_ok {value : ByteString} :
    requiredString (rawFields members) name = .ok value ↔ Member members name (IsText value) := by
  rw [← exists_rawFields h, requiredString]
  cases (rawFields members)[name]? with
  | none => simp
  | some j => simp [decodeRawString_eq_ok]

end

/-- The pattern of a positive integer describes the digits of one. -/
theorem positiveIntPattern_eq_true {text : List Char} :
    positiveIntPattern text = true ↔ ∃ n, 0 < n ∧ text = Nat.toDigits 10 n := by
  constructor
  · intro h
    match text, h with
    | c :: rest, h =>
      simp only [positiveIntPattern, Bool.and_eq_true, decide_eq_true_eq, List.all_eq_true] at h
      obtain ⟨⟨hdigit, hzero⟩, hrest⟩ := h
      -- on the digits from the last to the first: each one appends to a positive number
      induction rest using List.reverseRecOn with
      | nil =>
        obtain ⟨v, hv, rfl⟩ := exists_digitChar hdigit
        refine ⟨v, ?_, (Nat.toDigits_of_lt_base hv).symm⟩
        rcases Nat.eq_zero_or_pos v with rfl | hpos
        · exact absurd rfl hzero
        · exact hpos
      | append_singleton rest d ih =>
        obtain ⟨n, hn, heq⟩ := ih fun c hc => hrest c (by simp [hc])
        obtain ⟨v, hv, rfl⟩ := exists_digitChar (hrest d (by simp))
        refine ⟨10 * n + v, by omega, ?_⟩
        rw [← List.cons_append, heq, ← Nat.toDigits_of_lt_base hv,
          Nat.toDigits_append_toDigits (by omega) hn hv]
  · rintro ⟨n, hn, rfl⟩
    obtain ⟨c, rest, heq, hc⟩ := Json.toDigits_eq_cons hn
    obtain ⟨hdigit, hrest⟩ := Json.isDigit_of_toDigits heq
    rw [heq]
    simpa [positiveIntPattern, hdigit, hc] using hrest

theorem requiredPositiveInt_eq_ok (h : (members.map fun m => Json.unquote m.1).Nodup)
    {value : Int64} :
    requiredPositiveInt (rawFields members) name = .ok value ↔
      Member members name (IsPositive value) := by
  rw [← exists_rawFields h, requiredPositiveInt]
  cases (rawFields members)[name]? with
  | none => simp
  | some j =>
    simp only [Option.some.injEq, exists_eq_left']
    match j with
    | .number text =>
      constructor
      · intro hok
        simp only at hok
        split at hok
        · cases hok
        · split at hok
          · cases hok
          · rename_i hpattern hfits
            obtain ⟨n, hn, rfl⟩ := positiveIntPattern_eq_true.mp (by simpa using hpattern)
            rw [Nat.ofDigitChars_ten_toDigits] at hfits hok
            exact ⟨n, hn, by omega, rfl, (Except.ok.inj hok).symm⟩
      · rintro ⟨n, hn, hfits, htext, rfl⟩
        cases htext
        have hpattern := positiveIntPattern_eq_true.mpr ⟨n, hn, rfl⟩
        simp only [hpattern, Bool.true_eq_false, if_false, Nat.ofDigitChars_ten_toDigits]
        rw [if_neg (by omega)]
    | .null | .bool _ | .string _ | .array _ | .object _ => simp [IsPositive]

/-! ## The table -/

theorem printableASCII_eq_true :
    printableASCII value = true ↔ Printable value := by
  simp [printableASCII, Printable]

/-- What the loop puts into the map for an entry whose value it can decode. -/
def tableEntry (p : List Char × Json) : ByteString × ByteString :=
  (utf8Encode p.1, (decodeRawString p.2).toOption.getD [])

/-- The bytes that an entry counts for. -/
def entrySize (entry : ByteString × ByteString) : Nat := entry.1.length + entry.2.length

theorem tableEntry_eq {p : List Char × Json} {value : ByteString} (h : IsText value p.2) :
    tableEntry p = (utf8Encode p.1, value) := by
  rw [tableEntry, decodeRawString_eq_ok.mpr h]
  rfl

/-- The rule for an entry. -/
def EntryRule (p : List Char × Json) : Prop :=
  LengthIn 1 255 (utf8Encode p.1) ∧ Printable (utf8Encode p.1) ∧ ∃ value, IsText value p.2

theorem metaLoop_eq_ok {entries : List (List Char × Json)} {size : Nat}
    {start : EntryMap ByteString ByteString} (hsize : size ≤ 32768) :
    metaLoop entries size start = .ok metaMap ↔
      (∀ p ∈ entries, EntryRule p) ∧
        size + ((entries.map tableEntry).map entrySize).sum ≤ 32768 ∧
        start.insertMany (entries.map tableEntry) = metaMap := by
  induction entries generalizing size start with
  | nil => simp [metaLoop, hsize]
  | cons p entries ih =>
    obtain ⟨name, raw⟩ := p
    simp only [metaLoop, Except.bind_eq_ok, Except.refuseIf_eq_ok, decodeRawString_eq_ok,
      not_or, Bool.not_eq_false, printableASCII_eq_true, Nat.not_lt, List.forall_mem_cons,
      List.map_cons, List.sum_cons]
    constructor
    · rintro ⟨-, ⟨hmin, hmax, hprintable⟩, value, hvalue, -, hfits, hrest⟩
      obtain ⟨hrules, htotal, hmap⟩ := (ih hfits).mp hrest
      rw [tableEntry_eq hvalue, entrySize, Std.ExtTreeMap.insertMany_cons]
      refine ⟨⟨⟨⟨hmin, hmax⟩, hprintable, value, hvalue⟩, hrules⟩, ?_, hmap⟩
      dsimp only
      omega
    · rintro ⟨⟨⟨⟨hmin, hmax⟩, hprintable, value, hvalue⟩, hrules⟩, htotal, hmap⟩
      rw [tableEntry_eq hvalue, entrySize] at htotal
      rw [tableEntry_eq hvalue, Std.ExtTreeMap.insertMany_cons] at hmap
      have hfits : size + ((utf8Encode name).length + value.length) ≤ 32768 := by
        dsimp only at htotal
        omega
      exact ⟨(), ⟨hmin, hmax, hprintable⟩, value, hvalue, (), hfits,
        (ih hfits).mpr ⟨hrules, by dsimp only at htotal; omega, hmap⟩⟩

theorem tableEntry_distinct (h : (members.map fun m => Json.unquote m.1).Nodup) :
    EntryMap.Distinct (members.map fun m => tableEntry (Json.unquote m.1, m.2)) := by
  rw [EntryMap.distinct_iff, List.map_map]
  have hnodup := h.map (fun _ _ => utf8Encode_injective)
  rwa [List.map_map] at hnodup

/-- The entries of a table are those of its members. -/
theorem IsTable.perm (h : (members.map fun m => Json.unquote m.1).Nodup)
    (htable : IsTable metaMap (.object members)) :
    (members.map fun m => tableEntry (Json.unquote m.1, m.2)).Perm metaMap.toList := by
  obtain ⟨_, hmembers, hsize, hrules, -⟩ := htable
  cases hmembers
  -- they are all in the map, and as many as it has
  have hnodup := (EntryMap.distinct_iff.mp (tableEntry_distinct h)).of_map
  refine (List.subperm_of_subset hnodup ?_).perm_of_length_le
    (by rw [Std.ExtTreeMap.length_toList, hsize, List.length_map])
  intro entry hentry
  obtain ⟨m, hm, rfl⟩ := List.mem_map.mp hentry
  obtain ⟨-, -, value, hvalue, hget⟩ := hrules m hm
  rw [@tableEntry_eq (Json.unquote m.1, m.2) _ hvalue]
  exact Std.ExtTreeMap.mem_toList_iff_getElem?_eq_some.mpr hget

/-- **What the loop over the members of an object makes of them**, in any order. -/
theorem metaLoop_visit (h : (members.map fun m => Json.unquote m.1).Nodup) :
    metaLoop (order.visit (rawFields members)) 0 ∅ = .ok metaMap ↔
      IsTable metaMap (.object members) := by
  have hvisit : (order.visit (rawFields members)).Perm
      (members.map fun m => (Json.unquote m.1, m.2)) :=
    (order.perm _).trans (EntryMap.toList_ofList_perm (rawFields_distinct h))
  have hentries : ((order.visit (rawFields members)).map tableEntry).Perm
      (members.map fun m => tableEntry (Json.unquote m.1, m.2)) := by
    have hmapped := hvisit.map tableEntry
    rwa [List.map_map] at hmapped
  rw [metaLoop_eq_ok (Nat.zero_le _), ← Std.ExtTreeMap.ofList_eq_insertMany_empty, Nat.zero_add]
  simp only [hvisit.mem_iff, List.forall_mem_map]
  constructor
  · rintro ⟨hrules, htotal, rfl⟩
    have hperm := (EntryMap.toList_ofList_perm ((hentries.symm).pairwise (tableEntry_distinct h)
      fun hne heq => hne (Std.OrientedCmp.eq_symm heq))).trans hentries
    refine ⟨members, rfl, ?_, fun m hm => ?_, ?_⟩
    · rw [← Std.ExtTreeMap.length_toList, hperm.length_eq, List.length_map]
    · obtain ⟨hlength, hprintable, value, hvalue⟩ := hrules m hm
      refine ⟨hlength, hprintable, value, hvalue, ?_⟩
      rw [← Std.ExtTreeMap.mem_toList_iff_getElem?_eq_some, hperm.mem_iff, List.mem_map]
      exact ⟨m, hm, tableEntry_eq hvalue⟩
    · rw [(hperm.map _).sum_nat]
      rw [(hentries.map _).sum_nat] at htotal
      exact htotal
  · intro htable
    have hperm := htable.perm h
    obtain ⟨_, hmembers, -, hrules, htotal⟩ := htable
    cases hmembers
    refine ⟨fun m hm => ?_, ?_, EntryMap.ofList_of_perm (hentries.trans hperm)⟩
    · obtain ⟨hlength, hprintable, value, hvalue, -⟩ := hrules m hm
      exact ⟨hlength, hprintable, value, hvalue⟩
    · rw [((hentries.trans hperm).map _).sum_nat]
      exact htotal

theorem requiredMeta_eq_ok (h : Json.DistinctNames (.object members)) :
    requiredMeta order (rawFields members) name = .ok metaMap ↔
      Member members name (IsTable metaMap) := by
  obtain ⟨hnodup, hinner⟩ := Json.distinctNames_object.mp h
  rw [← exists_rawFields hnodup, requiredMeta]
  cases hfield : (rawFields members)[name]? with
  | none => simp
  | some j =>
    simp only [Option.some.injEq, exists_eq_left']
    match j with
    | .object inner =>
      obtain ⟨m, hm, -, heq⟩ := (getElem?_rawFields hnodup).mp hfield
      exact metaLoop_visit (Json.distinctNames_object.mp (heq ▸ hinner m hm)).1
    | .null | .bool _ | .number _ | .string _ | .array _ => simp [IsTable]

/-! ## The rules of the fields -/

theorem validAppName_eq_true :
    validAppName value = true ↔ AppNameRule value := by
  simp [validAppName, AppNameRule, LengthIn, printableASCII_eq_true]

theorem digitsPattern_eq_true :
    digitsPattern value = true ↔ value.length = 6 ∧ ∀ c ∈ value, digitByte c = true := by
  simp [digitsPattern]

theorem runeCount_le {raw : Json} (h : IsText value raw) {count : Nat} :
    ¬ count < runeCount value ↔ CodePoints count value := by
  obtain ⟨_, _, text, -, -, -, rfl⟩ := h
  rw [runeCount, utf8Decode?_utf8Encode, Option.map_some, Option.getD_some, Nat.not_lt]
  constructor
  · exact fun hle => ⟨text, rfl, hle⟩
  · rintro ⟨text', heq, hle⟩
    rwa [utf8Encode_injective heq]

theorem lowerHexByte_eq_true {c : UInt8} : lowerHexByte c = true ↔ ∃ v < 16, c = hexDigit v := by
  have hall : ∀ v < 16, lowerHexByte (hexDigit v) = true := by decide
  constructor
  · intro h
    simp only [lowerHexByte, digitByte, Bool.or_eq_true, decide_eq_true_eq,
      UInt8.le_iff_toNat_le] at h
    have hc := c.toNat_lt
    rcases h with ⟨hlow, hhigh⟩ | ⟨hlow, hhigh⟩
    · change 48 ≤ c.toNat at hlow
      change c.toNat ≤ 57 at hhigh
      refine ⟨c.toNat - 48, by omega, ?_⟩
      rw [hexDigit, if_pos (by omega), show 48 + (c.toNat - 48) = c.toNat by omega,
        UInt8.ofNat_toNat]
    · change 97 ≤ c.toNat at hlow
      change c.toNat ≤ 102 at hhigh
      refine ⟨c.toNat - 87, by omega, ?_⟩
      rw [hexDigit, if_neg (by omega), show 87 + (c.toNat - 87) = c.toNat by omega,
        UInt8.ofNat_toNat]
  · rintro ⟨v, hv, rfl⟩
    exact hall v hv

theorem lowerHexByte_of_mem_hexEncode {l : ByteString} {c : UInt8} (h : c ∈ hexEncode l) :
    lowerHexByte c = true := by
  induction l with
  | nil => cases h
  | cons b l ih =>
    have hb := b.toNat_lt
    simp only [hexEncode, List.mem_cons] at h
    rcases h with rfl | rfl | h
    · exact lowerHexByte_eq_true.mpr ⟨_, by omega, rfl⟩
    · exact lowerHexByte_eq_true.mpr ⟨_, by omega, rfl⟩
    · exact ih h

/-- **The pattern describes the texts of identifiers.** -/
theorem validCanonicalUUID_eq_true :
    validCanonicalUUID value = true ↔ ∃ id : UUID, value = formatUUID id := by
  simp only [validCanonicalUUID, Bool.and_eq_true, decide_eq_true_eq, List.all_eq_true]
  constructor
  · rintro ⟨⟨hlength, h8, h13, h18, h23⟩, hdigits⟩
    obtain ⟨l, hl, heq⟩ := @exists_hexEncode 16 (uuidDigits value) (by simp [uuidDigits, hlength])
      fun c hc => lowerHexByte_eq_true.mp (hdigits c hc)
    exact ⟨⟨l, hl⟩, UUIDShape.eq_formatUUID ⟨hlength, h8, h13, h18, h23⟩ heq.symm⟩
  · rintro ⟨id, rfl⟩
    obtain ⟨⟨hlength, h8, h13, h18, h23⟩, hdigits⟩ := formatUUID_shape id
    refine ⟨⟨hlength, h8, h13, h18, h23⟩, fun c hc => ?_⟩
    rw [hdigits] at hc
    exact lowerHexByte_of_mem_hexEncode hc

theorem serviceNamePattern_eq_true :
    serviceNamePattern value = true ↔ ServiceNameShape value := by
  constructor
  · intro h
    match value, h with
    | first :: rest, h =>
      rcases List.eq_nil_or_concat rest with rfl | ⟨inner, last, rfl⟩
      · simp [serviceNamePattern] at h
      · simp only [serviceNamePattern, List.concat_eq_append, List.dropLast_concat,
          List.getLast?_concat, Bool.and_eq_true, List.all_eq_true, Bool.or_eq_true,
          decide_eq_true_eq, Option.any_some] at h
        exact ⟨first, inner, last, by rw [List.concat_eq_append], h.1.1, h.1.2, h.2⟩
  · rintro ⟨first, inner, last, rfl, hfirst, hinner, hlast⟩
    simp only [serviceNamePattern, List.dropLast_concat, List.getLast?_concat, Bool.and_eq_true,
      List.all_eq_true, Bool.or_eq_true, decide_eq_true_eq, Option.any_some]
    exact ⟨⟨hfirst, hinner⟩, hlast⟩

/-- A service name of the right shape is printable. -/
theorem ServiceNameShape.printable (h : ServiceNameShape value) :
    Printable value := by
  have hletter : ∀ c : UInt8, letterByte c = true → 0x20 ≤ c ∧ c ≤ 0x7e := by
    intro c hc
    simp only [letterByte, decide_eq_true_eq, UInt8.le_iff_toNat_le] at hc ⊢
    change (65 ≤ c.toNat ∧ c.toNat ≤ 90) ∨ (97 ≤ c.toNat ∧ c.toNat ≤ 122) at hc
    change 32 ≤ c.toNat ∧ c.toNat ≤ 126
    omega
  have hbyte : ∀ c : UInt8, serviceNameByte c = true → 0x20 ≤ c ∧ c ≤ 0x7e := by
    intro c hc
    simp only [serviceNameByte, Bool.or_eq_true, decide_eq_true_eq] at hc
    rcases hc with (hc | hc) | rfl | rfl | rfl
    · exact hletter c hc
    · simp only [digitByte, decide_eq_true_eq, UInt8.le_iff_toNat_le] at hc ⊢
      change 48 ≤ c.toNat ∧ c.toNat ≤ 57 at hc
      change 32 ≤ c.toNat ∧ c.toNat ≤ 126
      omega
    all_goals decide
  obtain ⟨first, inner, last, rfl, hfirst, hinner, hlast⟩ := h
  intro c hc
  simp only [List.mem_cons, List.mem_append, List.not_mem_nil, or_false] at hc
  rcases hc with rfl | hc | rfl
  · exact hletter c hfirst
  · rcases hinner c hc with h | rfl
    · exact hbyte c h
    · decide
  · exact hbyte c hlast

theorem validServiceName_eq_true :
    validServiceName value = true ↔ LengthIn 2 64 value ∧ ServiceNameShape value := by
  simp only [validServiceName, Bool.and_eq_true, decide_eq_true_eq, printableASCII_eq_true,
    serviceNamePattern_eq_true]
  constructor
  · rintro ⟨⟨hlength, -⟩, hshape⟩
    exact ⟨hlength, hshape⟩
  · rintro ⟨hlength, hshape⟩
    exact ⟨⟨hlength, hshape.printable⟩, hshape⟩

/-! ## Decoders -/

theorem EventType.nodup_names (kind : EventType) : kind.names.Nodup := by
  cases kind <;> decide

/-- The decoder of a type of event. -/
def decodeAs (order : RangeOrder (List Char) Json) :
    EventType → RawFields → Except EventError EventValue
  | .test => decodeTest
  | .verification => decodeVerification
  | .alert => decodeAlert order
  | .alertStatus => decodeAlertStatus

theorem decodeFields_of_type {fields : RawFields} {kind : EventType}
    (h : requiredString fields "Type".toList = .ok (utf8Encode kind.text)) :
    decodeFields order fields = decodeAs order kind fields := by
  have hne : ∀ other : EventType, other ≠ kind →
      ¬ utf8Encode kind.text = utf8Encode other.text := fun other hother heq =>
    hother (EventType.text_injective (utf8Encode_injective heq)).symm
  unfold decodeFields
  rw [h]
  change (if _ then _ else _) = _
  cases kind with
  | test => exact if_pos rfl
  | verification => exact (if_neg (hne .test nofun)).trans (if_pos rfl)
  | alert =>
    exact (if_neg (hne .test nofun)).trans ((if_neg (hne .verification nofun)).trans (if_pos rfl))
  | alertStatus =>
    exact (if_neg (hne .test nofun)).trans ((if_neg (hne .verification nofun)).trans
      ((if_neg (hne .alert nofun)).trans (if_pos rfl)))

/-- The type is one of the four, or it is not supported. -/
theorem decodeFields_cases {order : RangeOrder (List Char) Json} {fields : RawFields}
    {typeName : ByteString} (h : requiredString fields "Type".toList = .ok typeName) :
    (∃ kind, typeName = utf8Encode kind.text ∧
      decodeFields order fields = decodeAs order kind fields) ∨
    (∀ kind : EventType, typeName ≠ utf8Encode kind.text) ∧
      decodeFields order fields = .error .errUnsupportedEvent := by
  by_cases hkind : ∃ kind : EventType, typeName = utf8Encode kind.text
  · obtain ⟨kind, rfl⟩ := hkind
    exact .inl ⟨kind, rfl, decodeFields_of_type h⟩
  · rw [not_exists] at hkind
    refine .inr ⟨hkind, ?_⟩
    unfold decodeFields
    rw [h]
    exact (if_neg (hkind .test)).trans ((if_neg (hkind .verification)).trans
      ((if_neg (hkind .alert)).trans (if_neg (hkind .alertStatus))))

section Decoders
variable {value : EventValue}

theorem decodeTest_eq_ok (h : (members.map fun m => Json.unquote m.1).Nodup)
    (htype : Member members "Type".toList (IsText (utf8Encode EventType.test.text))) :
    decodeTest (rawFields members) = .ok value ↔
      Describes members value ∧ value.kind = .test := by
  simp only [decodeTest, Except.bind_eq_ok, Except.refuseIf_eq_ok, Except.pure_eq_ok,
    Bool.not_eq_false, hasExactFields_eq_true h (EventType.nodup_names _),
    requiredString_eq_ok h, validAppName_eq_true]
  constructor
  · rintro ⟨-, hnames, appName, happ, -, hrule, rfl⟩
    exact ⟨⟨⟨hnames, htype⟩, happ, hrule⟩, rfl⟩
  · rintro ⟨hdescribes, hkind⟩
    cases value with
    | test event =>
      obtain ⟨⟨hnames, -⟩, happ, hrule⟩ := hdescribes
      exact ⟨(), hnames, event.appName, happ, (), hrule, rfl⟩
    | _ => cases hkind

theorem decodeVerification_eq_ok (h : (members.map fun m => Json.unquote m.1).Nodup)
    (htype : Member members "Type".toList (IsText (utf8Encode EventType.verification.text))) :
    decodeVerification (rawFields members) = .ok value ↔
      Describes members value ∧ value.kind = .verification := by
  simp only [decodeVerification, Except.bind_eq_ok, Except.refuseIf_eq_ok, Except.pure_eq_ok,
    Bool.not_eq_false, hasExactFields_eq_true h (EventType.nodup_names _),
    requiredString_eq_ok h, validAppName_eq_true, digitsPattern_eq_true]
  constructor
  · rintro ⟨-, hnames, appName, happ, -, hrule, code, hcode, -, hdigits, rfl⟩
    exact ⟨⟨⟨hnames, htype⟩, ⟨happ, hrule⟩, hcode, hdigits⟩, rfl⟩
  · rintro ⟨hdescribes, hkind⟩
    cases value with
    | verification event =>
      obtain ⟨⟨hnames, -⟩, ⟨happ, hrule⟩, hcode, hdigits⟩ := hdescribes
      exact ⟨(), hnames, event.appName, happ, (), hrule, event.code, hcode, (), hdigits, rfl⟩
    | _ => cases hkind

/-- A rule on a text, of the member that holds it. -/
theorem member_runeCount {text : ByteString} {count : Nat} (h : Member members name (IsText text)) :
    ¬ count < runeCount text ↔ CodePoints count text := by
  obtain ⟨m, -, -, hm⟩ := h
  exact runeCount_le hm

theorem decodeAlert_eq_ok (h : Json.DistinctNames (.object members))
    (htype : Member members "Type".toList (IsText (utf8Encode EventType.alert.text))) :
    decodeAlert order (rawFields members) = .ok value ↔
      Describes members value ∧ value.kind = .alert := by
  have hnodup := (Json.distinctNames_object.mp h).1
  simp only [decodeAlert, Except.bind_eq_ok, Except.refuseIf_eq_ok, Except.pure_eq_ok,
    Bool.not_eq_false, hasExactFields_eq_true hnodup (EventType.nodup_names _),
    requiredString_eq_ok hnodup, requiredPositiveInt_eq_ok hnodup, requiredMeta_eq_ok h,
    validAppName_eq_true, validCanonicalUUID_eq_true, validServiceName_eq_true]
  constructor
  · rintro ⟨-, hnames, appName, happ, -, hrule, alertID, hid, summary, hsummary, -, hcount, details,
      hdetails, -, hcount', serviceID, hservice, -, huuid, serviceName, hname, -, hshape, metaMap,
      hmeta, rfl⟩
    exact ⟨⟨⟨hnames, htype⟩, ⟨happ, hrule⟩, hid, ⟨hsummary, (member_runeCount hsummary).mp hcount⟩,
      ⟨hdetails, (member_runeCount hdetails).mp hcount'⟩, ⟨hservice, huuid⟩, ⟨hname, hshape⟩,
      metaMap, rfl, hmeta⟩, rfl⟩
  · rintro ⟨hdescribes, hkind⟩
    cases value with
    | alert event =>
      obtain ⟨appName, alertID, summary, details, serviceID, serviceName, _⟩ := event
      obtain ⟨⟨hnames, -⟩, ⟨happ, hrule⟩, hid, ⟨hsummary, hcount⟩, ⟨hdetails, hcount'⟩,
        ⟨hservice, huuid⟩, ⟨hname, hshape⟩, metaMap, rfl, hmeta⟩ := hdescribes
      exact ⟨(), hnames, appName, happ, (), hrule, alertID, hid, summary, hsummary, (),
        (member_runeCount hsummary).mpr hcount, details, hdetails, (),
        (member_runeCount hdetails).mpr hcount', serviceID, hservice, (), huuid, serviceName, hname,
        (), hshape, metaMap, hmeta, rfl⟩
    | _ => cases hkind

theorem decodeAlertStatus_eq_ok (h : (members.map fun m => Json.unquote m.1).Nodup)
    (htype : Member members "Type".toList (IsText (utf8Encode EventType.alertStatus.text))) :
    decodeAlertStatus (rawFields members) = .ok value ↔
      Describes members value ∧ value.kind = .alertStatus := by
  simp only [decodeAlertStatus, Except.bind_eq_ok, Except.refuseIf_eq_ok, Except.pure_eq_ok,
    Bool.not_eq_false, hasExactFields_eq_true h (EventType.nodup_names _),
    requiredString_eq_ok h, requiredPositiveInt_eq_ok h, validAppName_eq_true, List.contains_iff_mem]
  constructor
  · rintro ⟨-, hnames, appName, happ, -, hrule, alertID, hid, logEntry, hlog, -, hentry,
      alertState, hstate, -, hmem, rfl⟩
    exact ⟨⟨⟨hnames, htype⟩, ⟨happ, hrule⟩, hid, ⟨hlog, hentry⟩, hstate, hmem⟩, rfl⟩
  · rintro ⟨hdescribes, hkind⟩
    cases value with
    | alertStatus event =>
      obtain ⟨⟨hnames, -⟩, ⟨happ, hrule⟩, hid, ⟨hlog, hentry⟩, hstate, hmem⟩ := hdescribes
      exact ⟨(), hnames, event.appName, happ, (), hrule, event.alertID, hid, event.logEntry, hlog,
        (), hentry, event.alertState, hstate, (), hmem, rfl⟩
    | _ => cases hkind

theorem decodeAs_eq_ok (h : Json.DistinctNames (.object members)) {kind : EventType}
    (htype : Member members "Type".toList (IsText (utf8Encode kind.text))) :
    decodeAs order kind (rawFields members) = .ok value ↔
      Describes members value ∧ value.kind = kind := by
  have hnodup := (Json.distinctNames_object.mp h).1
  cases kind with
  | test => exact decodeTest_eq_ok hnodup htype
  | verification => exact decodeVerification_eq_ok hnodup htype
  | alert => exact decodeAlert_eq_ok h htype
  | alertStatus => exact decodeAlertStatus_eq_ok hnodup htype

theorem Describes.ofType (h : Describes members value) : OfType members value.kind := by
  match value, h with
  | .test _, h | .verification _, h | .alert _, h | .alertStatus _, h => exact h.1

/-- **The decoders follow the rules.** -/
theorem decodeFields_eq_ok (h : Json.DistinctNames (.object members)) :
    decodeFields order (rawFields members) = .ok value ↔ Describes members value := by
  have hnodup := (Json.distinctNames_object.mp h).1
  constructor
  · intro hok
    have hbind := hok
    simp only [decodeFields, Except.bind_eq_ok] at hbind
    obtain ⟨typeName, htype, -⟩ := hbind
    obtain ⟨kind, rfl, hdecode⟩ | ⟨-, hdecode⟩ := @decodeFields_cases order _ _ htype
    · rw [hdecode] at hok
      exact ((decodeAs_eq_ok h ((requiredString_eq_ok hnodup).mp htype)).mp hok).1
    · rw [hdecode] at hok
      cases hok
  · intro hdescribes
    have htype := hdescribes.ofType.2
    rw [decodeFields_of_type ((requiredString_eq_ok hnodup).mpr htype),
      decodeAs_eq_ok h htype]
    exact ⟨hdescribes, rfl⟩

end Decoders

/-! ## Errors -/

theorem decodeRawString_failsWith (j : Json) :
    Except.FailsWith .errInvalidEvent (decodeRawString j) := by
  match j with
  | .string raw =>
    simp only [decodeRawString, decodeJSONString]
    split
    · exact Except.failsWith_error _
    · split
      · exact Except.failsWith_error _
      · split
        · exact Except.failsWith_error _
        · exact Except.failsWith_ok _ _
  | .null | .bool _ | .number _ | .array _ | .object _ => exact Except.failsWith_error _

theorem requiredString_failsWith (fields : RawFields) (name : List Char) :
    Except.FailsWith .errInvalidEvent (requiredString fields name) := by
  unfold requiredString
  split
  · exact Except.failsWith_error _
  · exact decodeRawString_failsWith _

theorem requiredPositiveInt_failsWith (fields : RawFields) (name : List Char) :
    Except.FailsWith .errInvalidEvent (requiredPositiveInt fields name) := by
  unfold requiredPositiveInt
  split
  · split
    · exact Except.failsWith_error _
    · split
      · exact Except.failsWith_error _
      · exact Except.failsWith_ok _ _
  · exact Except.failsWith_error _

theorem metaLoop_failsWith (entries : List (List Char × Json)) (size : Nat)
    (metaMap : EntryMap ByteString ByteString) :
    Except.FailsWith .errInvalidEvent (metaLoop entries size metaMap) := by
  induction entries generalizing size metaMap with
  | nil => exact Except.failsWith_ok _ _
  | cons p entries ih =>
    exact (Except.failsWith_refuseIf _ _).bind fun _ => (decodeRawString_failsWith _).bind fun _ =>
      (Except.failsWith_refuseIf _ _).bind fun _ => ih _ _

theorem requiredMeta_failsWith (order : RangeOrder (List Char) Json) (fields : RawFields)
    (name : List Char) : Except.FailsWith .errInvalidEvent (requiredMeta order fields name) := by
  unfold requiredMeta
  split
  · exact metaLoop_failsWith _ _ _
  · exact Except.failsWith_error _

/-- A decoder fails with `errInvalidEvent` only. -/
theorem decodeAs_failsWith (order : RangeOrder (List Char) Json) (kind : EventType)
    (fields : RawFields) : Except.FailsWith .errInvalidEvent (decodeAs order kind fields) := by
  have refuse : ∀ {α : Type} (p : Prop) [Decidable p] {f : Unit → Except EventError α},
      (∀ u, Except.FailsWith .errInvalidEvent (f u)) →
      Except.FailsWith .errInvalidEvent (Except.refuseIf p .errInvalidEvent >>= f) :=
    fun p _ _ hf => (Except.failsWith_refuseIf p _).bind hf
  have text : ∀ {α : Type} (name : List Char) {f : ByteString → Except EventError α},
      (∀ value, Except.FailsWith .errInvalidEvent (f value)) →
      Except.FailsWith .errInvalidEvent (requiredString fields name >>= f) :=
    fun name _ hf => (requiredString_failsWith fields name).bind hf
  have integer : ∀ {α : Type} (name : List Char) {f : Int64 → Except EventError α},
      (∀ value, Except.FailsWith .errInvalidEvent (f value)) →
      Except.FailsWith .errInvalidEvent (requiredPositiveInt fields name >>= f) :=
    fun name _ hf => (requiredPositiveInt_failsWith fields name).bind hf
  -- one line for each line of the decoder
  cases kind with
  | test =>
    exact refuse _ fun _ => text _ fun _ => refuse _ fun _ => Except.failsWith_ok _ _
  | verification =>
    exact refuse _ fun _ => text _ fun _ => refuse _ fun _ => text _ fun _ => refuse _ fun _ =>
      Except.failsWith_ok _ _
  | alert =>
    exact refuse _ fun _ => text _ fun _ => refuse _ fun _ => integer _ fun _ => text _ fun _ =>
      refuse _ fun _ => text _ fun _ => refuse _ fun _ => text _ fun _ => refuse _ fun _ =>
      text _ fun _ => refuse _ fun _ => (requiredMeta_failsWith _ _ _).bind fun _ =>
      Except.failsWith_ok _ _
  | alertStatus =>
    exact refuse _ fun _ => text _ fun _ => refuse _ fun _ => integer _ fun _ => text _ fun _ =>
      refuse _ fun _ => text _ fun _ => refuse _ fun _ => Except.failsWith_ok _ _

theorem decodeFields_unsupported {fields : RawFields} :
    decodeFields order fields = .error .errUnsupportedEvent ↔
      ∃ typeName, requiredString fields "Type".toList = .ok typeName ∧
        ∀ kind : EventType, typeName ≠ utf8Encode kind.text := by
  constructor
  · intro h
    cases htype : requiredString fields "Type".toList with
    | error e =>
      have hinvalid := requiredString_failsWith fields "Type".toList e htype
      rw [decodeFields, htype] at h
      cases h
      cases hinvalid
    | ok typeName =>
      obtain ⟨kind, -, hdecode⟩ | ⟨hnone, -⟩ := @decodeFields_cases order _ _ htype
      · rw [hdecode] at h
        cases decodeAs_failsWith order kind fields _ h
      · exact ⟨typeName, rfl, hnone⟩
  · rintro ⟨typeName, htype, hnone⟩
    obtain ⟨kind, heq, -⟩ | ⟨-, hdecode⟩ := @decodeFields_cases order _ _ htype
    · exact absurd heq (hnone kind)
    · exact hdecode

/-! ## Names used twice -/

mutual

theorem consumeValue_eq_true (v : Json) : consumeValue v = true ↔ Json.DistinctNames v := by
  match v with
  | .array items => rw [consumeValue, consumeItems_eq_true, Json.distinctNames_array]
  | .object members =>
    rw [consumeValue, consumeObject_eq_true, Json.distinctNames_object]
    simp
  | .null | .bool _ | .number _ | .string _ =>
    refine iff_of_true (by rw [consumeValue] <;> simp) fun members hw => ?_
    cases hw

theorem consumeItems_eq_true (items : List Json) :
    consumeItems items = true ↔ ∀ v ∈ items, Json.DistinctNames v := by
  match items with
  | [] => simp [consumeItems]
  | item :: items =>
    rw [consumeItems, Bool.and_eq_true, consumeValue_eq_true item, consumeItems_eq_true items,
      List.forall_mem_cons]

theorem consumeObject_eq_true (seen : List (List Char)) (members : List (List Char × Json)) :
    consumeObject seen members = true ↔
      ((members.map fun m => Json.unquote m.1).Nodup ∧ ∀ m ∈ members, Json.DistinctNames m.2) ∧
        ∀ m ∈ members, Json.unquote m.1 ∉ seen := by
  match members with
  | [] => simp [consumeObject]
  | (name, value) :: members =>
    rw [consumeObject, Bool.and_eq_true, Bool.and_eq_true, decide_eq_true_eq,
      consumeValue_eq_true value, consumeObject_eq_true _ members]
    rw [List.forall_mem_cons, List.forall_mem_cons]
    simp only [List.map_cons, List.nodup_cons, List.mem_cons, not_or, List.mem_map, not_exists,
      not_and]
    constructor
    · rintro ⟨⟨hname, hvalue⟩, ⟨hnodup, hinner⟩, hseen⟩
      exact ⟨⟨⟨fun m hm heq => (hseen m hm).1 heq, hnodup⟩, hvalue, hinner⟩, hname,
        fun m hm => (hseen m hm).2⟩
    · rintro ⟨⟨⟨hfresh, hnodup⟩, hvalue, hinner⟩, hname, hseen⟩
      exact ⟨⟨hname, hvalue⟩, ⟨hnodup, hinner⟩, fun m hm => ⟨hfresh m hm, hseen m hm⟩⟩

end

/-! ## Documents -/

/-- The whole of `decodeEvent`, up to the fields. -/
theorem decodeEvent_eq {data : ByteString} {result : Except EventError Event}
    (hresult : result ≠ .error .errInvalidEvent) :
    decodeEvent order data = result ↔
      ∃ members, Document Json.maxDepth data members ∧
        (decodeFields order (rawFields members)).map .value = result := by
  constructor
  · intro h
    unfold decodeEvent at h
    split at h
    · rename_i members hread
      obtain ⟨text, htext, hread⟩ := Option.bind_eq_some_iff.mp hread
      split at h
      · exact absurd h.symm hresult
      · rename_i hconsume
        rw [Bool.not_eq_false] at hconsume
        exact ⟨members, ⟨text, (utf8Encode_of_decode htext).symm, Json.read_iff.mp hread,
          (consumeValue_eq_true (.object members)).mp (by rw [consumeValue, hconsume])⟩, h⟩
    · exact absurd h.symm hresult
  · rintro ⟨members, ⟨text, rfl, htext, hdistinct⟩, h⟩
    have hconsume := (consumeValue_eq_true (.object members)).mpr hdistinct
    rw [consumeValue] at hconsume
    unfold decodeEvent
    rw [utf8Decode?_utf8Encode, Option.bind_some, Json.read_iff.mpr htext]
    simp only [hconsume, Bool.true_eq_false, if_false]
    exact h

/-- The values of an event are not nested deeper than a table is. -/
theorem Describes.nested {value : EventValue} (h : Describes members value) (d : Nat) :
    Json.Nested (d + 2) (.object members) := by
  have htext : ∀ {value j}, IsText value j → Json.Nested (d + 1) j := by
    rintro _ _ ⟨_, _, _, rfl, -⟩
    exact .string
  have hinteger : ∀ {value j}, IsPositive value j → Json.Nested (d + 1) j := by
    rintro _ _ ⟨_, -, -, rfl, -⟩
    exact .number
  have htable : ∀ {metaMap j}, IsTable metaMap j → Json.Nested (d + 1) j := by
    rintro _ _ ⟨_, rfl, -, hentries, -⟩
    refine .object fun m hm => ?_
    obtain ⟨-, -, _, ⟨_, _, _, heq, -⟩, -⟩ := hentries m hm
    rw [heq]
    exact .string
  -- a member is the one that its name has a rule for
  refine .object fun m hm => ?_
  have hnodup := h.ofType.1.nodup_iff.mpr (EventType.nodup_names _)
  have hname : Json.unquote m.1 ∈ value.kind.names :=
    h.ofType.1.mem_iff.mp (List.mem_map_of_mem hm)
  obtain ⟨m', hm', heq, hnested⟩ : Member members (Json.unquote m.1) (Json.Nested (d + 1)) := by
    have htype := h.ofType.2.imp htext
    match value, h with
    | .test _, h =>
      obtain ⟨-, happ, -⟩ := h
      simp only [EventValue.kind, EventType.names, List.mem_cons, List.not_mem_nil, or_false]
        at hname
      rcases hname with hname | hname <;> rw [hname]
      exacts [happ.imp htext, htype]
    | .verification _, h =>
      obtain ⟨-, ⟨happ, -⟩, hcode, -⟩ := h
      simp only [EventValue.kind, EventType.names, List.mem_cons, List.not_mem_nil, or_false]
        at hname
      rcases hname with hname | hname | hname <;> rw [hname]
      exacts [happ.imp htext, htype, hcode.imp htext]
    | .alert _, h =>
      obtain ⟨-, ⟨happ, -⟩, hid, ⟨hsummary, -⟩, ⟨hdetails, -⟩, ⟨hservice, -⟩, ⟨hserviceName, -⟩,
        _, -, hmeta⟩ := h
      simp only [EventValue.kind, EventType.names, List.mem_cons, List.not_mem_nil, or_false]
        at hname
      rcases hname with hname | hname | hname | hname | hname | hname | hname | hname <;> rw [hname]
      exacts [happ.imp htext, htype, hid.imp hinteger, hsummary.imp htext, hdetails.imp htext,
        hservice.imp htext, hserviceName.imp htext, hmeta.imp htable]
    | .alertStatus _, h =>
      obtain ⟨-, ⟨happ, -⟩, hid, ⟨hlog, -⟩, hstate, -⟩ := h
      simp only [EventValue.kind, EventType.names, List.mem_cons, List.not_mem_nil, or_false]
        at hname
      rcases hname with hname | hname | hname | hname | hname <;> rw [hname]
      exacts [happ.imp htext, htype, hid.imp hinteger, hlog.imp htext, hstate.imp htext]
  rwa [List.inj_on_of_nodup_map hnodup hm hm' heq.symm]

/-- **A body is accepted exactly when it is a document with the members of an event.** -/
theorem decodeEvent_eq_ok {data : ByteString} {event : Event} :
    decodeEvent order data = .ok event ↔
      ∃ depth members value, Document depth data members ∧ Describes members value ∧
        event = .value value := by
  refine (decodeEvent_eq (by simp)).trans ?_
  constructor
  · rintro ⟨members, hdocument, hfields⟩
    obtain ⟨_, -, -, hdistinct⟩ := id hdocument
    cases hdecode : decodeFields order (rawFields members) with
    | error e =>
      rw [hdecode] at hfields
      cases hfields
    | ok value =>
      rw [hdecode] at hfields
      exact ⟨_, members, value, hdocument, (decodeFields_eq_ok hdistinct).mp hdecode,
        (Except.ok.inj hfields).symm⟩
  · rintro ⟨depth, members, value, ⟨text, rfl, ⟨w, t, w', hw, hw', rfl, ht⟩, hdistinct⟩,
      hdescribes, rfl⟩
    -- an event is nested two deep, so that the limit of the reader does not matter
    refine ⟨members, ⟨_, rfl, ⟨w, t, w', hw, hw', rfl, ht.of_nested (hdescribes.nested 9998)⟩,
      hdistinct⟩, ?_⟩
    rw [(decodeFields_eq_ok hdistinct).mpr hdescribes]
    rfl

/-- **What `decodeEvent` accepts, and what it makes of it.**  A body whose type is not one of
the four is refused with an error of its own. -/
theorem event_grammar (order : RangeOrder (List Char) Json) (data : ByteString) :
    (∀ event, decodeEvent order data = .ok event ↔
      ∃ depth members value, Document depth data members ∧ Describes members value ∧
        event = .value value) ∧
    (decodeEvent order data = .error .errUnsupportedEvent ↔
      ∃ members typeName, Document Json.maxDepth data members ∧
        Member members "Type".toList (IsText typeName) ∧
        ∀ kind : EventType, typeName ≠ utf8Encode kind.text) := by
  refine ⟨fun event => decodeEvent_eq_ok, ?_⟩
  refine (decodeEvent_eq (by simp)).trans ?_
  constructor
  · rintro ⟨members, hdocument, hfields⟩
    obtain ⟨_, -, -, hdistinct⟩ := id hdocument
    have hnodup := (Json.distinctNames_object.mp hdistinct).1
    have herror : decodeFields order (rawFields members) = .error .errUnsupportedEvent := by
      cases hdecode : decodeFields order (rawFields members) with
      | error e =>
        rw [hdecode] at hfields
        cases hfields
        rfl
      | ok value =>
        rw [hdecode] at hfields
        cases hfields
    obtain ⟨typeName, htype, hnone⟩ := decodeFields_unsupported.mp herror
    exact ⟨members, typeName, hdocument, (requiredString_eq_ok hnodup).mp htype, hnone⟩
  · rintro ⟨members, typeName, hdocument, htype, hnone⟩
    obtain ⟨_, -, -, hdistinct⟩ := id hdocument
    have hnodup := (Json.distinctNames_object.mp hdistinct).1
    have htyped := (requiredString_eq_ok hnodup).mpr htype
    refine ⟨members, hdocument, ?_⟩
    rw [decodeFields_unsupported.mpr ⟨typeName, htyped, hnone⟩]
    rfl

end OncallGateway
