import OncallGateway.GoError
import OncallGateway.Lib.Fallible
import OncallGateway.Lib.JsonReader
import OncallGateway.Lib.Ranging
import OncallGateway.Lib.Utf8

/-! # Canonical events

`CanonicalizeEvent` writes an event as one JSON object; duplicates are recognised by
comparing what it writes.  The text is built here as characters, in the pieces in which
the source appends bytes, and encoded at the end.

`EventValue.record` is what the text says: the members in their order, each a text, an
integer or a table of texts.  `canonicalizeEvent_eq_ok` ties the two together, for every
order in which the loop over the map may visit it.
-/

namespace OncallGateway

/-! ## Events -/

/-- `EventType`. -/
inductive EventType where
  | test | verification | alert | alertStatus
deriving DecidableEq

/-- `TestEvent`. -/
structure TestEvent where
  appName : ByteString
deriving DecidableEq

/-- `VerificationEvent`. -/
structure VerificationEvent where
  appName : ByteString
  code : ByteString
deriving DecidableEq

/-- `AlertEvent`; its map may be nil. -/
structure AlertEvent where
  appName : ByteString
  alertID : Int64
  summary : ByteString
  details : ByteString
  serviceID : ByteString
  serviceName : ByteString
  metaMap : Option (EntryMap ByteString ByteString)
deriving DecidableEq

/-- `AlertStatusEvent`. -/
structure AlertStatusEvent where
  appName : ByteString
  alertID : Int64
  logEntry : ByteString
  alertState : ByteString
deriving DecidableEq

/-- An event of one of the known types. -/
inductive EventValue where
  | test (event : TestEvent)
  | verification (event : VerificationEvent)
  | alert (event : AlertEvent)
  | alertStatus (event : AlertStatusEvent)
deriving DecidableEq

/-- A value of the interface `Event`: a known struct, a pointer to one, a nil pointer to
one of the four types, or anything else. -/
inductive Event where
  | value (event : EventValue)
  | pointer (event : EventValue)
  | nilPointer (kind : EventType)
  | foreign
deriving DecidableEq

/-- The struct that an interface value holds or points to. -/
def Event.deref : Event → Option EventValue
  | .value event | .pointer event => some event
  | .nilPointer _ | .foreign => none

/-! ## The writer -/

/-- `CanonicalEventFormatVersion`. -/
def canonicalEventFormatVersion : Int64 := 1

/-- `CanonicalEvent`. -/
structure CanonicalEvent where
  formatVersion : Int64
  data : ByteString
  digest : Bytes 32
deriving DecidableEq

/-- `printableASCII`. -/
def printableASCII (value : ByteString) : Bool :=
  value.all fun c => decide (¬ (c < 0x20 ∨ 0x7e < c))

/-- The digits of `appendCanonicalString`. -/
def lowerHex (v : Nat) : Char := "0123456789abcdef".toList.getD v '0'

/-- What `appendCanonicalString` writes for one character. -/
def canonicalChar (c : Char) : List Char :=
  if 0x80 ≤ c.toNat then
    if c ≠ '\u2028' ∧ c ≠ '\u2029' then [c]
    else ['\\', 'u', '2', '0', '2', lowerHex (c.toNat % 256 % 16)]
  else if 0x20 ≤ c.toNat ∧ c ≠ '"' ∧ c ≠ '\\' ∧ c ≠ '<' ∧ c ≠ '>' ∧ c ≠ '&' then [c]
  else if c = '"' ∨ c = '\\' then ['\\', c]
  else if c = '\x08' then ['\\', 'b']
  else if c = '\x0c' then ['\\', 'f']
  else if c = '\n' then ['\\', 'n']
  else if c = '\r' then ['\\', 'r']
  else if c = '\t' then ['\\', 't']
  else ['\\', 'u', '0', '0', lowerHex (c.toNat / 16), lowerHex (c.toNat % 16)]

/-- A text between its quotation marks. -/
def canonicalText (text : List Char) : List Char := text.flatMap canonicalChar

/-- `appendCanonicalString`. -/
def appendCanonicalString (data : List Char) (value : ByteString) :
    Except Sentinel (List Char) :=
  match utf8Decode? value with
  | none => .error .errCanonicalEvent
  | some text => .ok (data ++ ('"' :: canonicalText text ++ ['"']))

/-- `canonicalizeTest`. -/
def canonicalizeTest (event : TestEvent) : Except Sentinel (List Char) := do
  let data := "\x7b\"AppName\":".toList
  let data ← appendCanonicalString data event.appName
  return data ++ ",\"Type\":\"Test\"\x7d".toList

/-- `canonicalizeVerification`. -/
def canonicalizeVerification (event : VerificationEvent) : Except Sentinel (List Char) := do
  let data := "\x7b\"AppName\":".toList
  let data ← appendCanonicalString data event.appName
  let data := data ++ ",\"Type\":\"Verification\",\"Code\":".toList
  let data ← appendCanonicalString data event.code
  return data ++ ['\x7d']

/-- The first loop of `canonicalizeAlert`, over the entries in the order visited. -/
def collectKeys : List (ByteString × ByteString) → Except Sentinel (List ByteString)
  | [] => .ok []
  | (key, value) :: entries => do
    Except.refuseIf (printableASCII key = false ∨ utf8Valid value = false) .errCanonicalEvent
    let keys ← collectKeys entries
    return key :: keys

/-- The second loop of `canonicalizeAlert`, over the sorted keys from `index` on. -/
def appendEntries (metaMap : EntryMap ByteString ByteString) (index : Nat) :
    List ByteString → List Char → Except Sentinel (List Char)
  | [], data => .ok data
  | key :: keys, data => do
    let data := if 0 < index then data ++ [','] else data
    let data ← appendCanonicalString data key
    let data := data ++ [':']
    let data ← appendCanonicalString data (metaMap[key]?.getD [])
    appendEntries metaMap (index + 1) keys data

/-- `canonicalizeAlert`. -/
def canonicalizeAlert (order : RangeOrder ByteString ByteString) (event : AlertEvent) :
    Except Sentinel (List Char) :=
  match event.metaMap with
  | none => .error .errCanonicalEvent
  | some metaMap => do
    let data := "\x7b\"AppName\":".toList
    let data ← appendCanonicalString data event.appName
    let data := data ++ ",\"Type\":\"Alert\",\"AlertID\":".toList
    let data := data ++ Json.intText event.alertID.toInt
    let data := data ++ ",\"Summary\":".toList
    let data ← appendCanonicalString data event.summary
    let data := data ++ ",\"Details\":".toList
    let data ← appendCanonicalString data event.details
    let data := data ++ ",\"ServiceID\":".toList
    let data ← appendCanonicalString data event.serviceID
    let data := data ++ ",\"ServiceName\":".toList
    let data ← appendCanonicalString data event.serviceName
    let data := data ++ ",\"Meta\":\x7b".toList
    let keys ← collectKeys (order.visit metaMap)
    let data ← appendEntries metaMap 0 (keys.insertionSort EntryMap.KeyLE) data
    return data ++ ['\x7d', '\x7d']

/-- `canonicalizeAlertStatus`. -/
def canonicalizeAlertStatus (event : AlertStatusEvent) : Except Sentinel (List Char) := do
  let data := "\x7b\"AppName\":".toList
  let data ← appendCanonicalString data event.appName
  let data := data ++ ",\"Type\":\"AlertStatus\",\"AlertID\":".toList
  let data := data ++ Json.intText event.alertID.toInt
  let data := data ++ ",\"LogEntry\":".toList
  let data ← appendCanonicalString data event.logEntry
  let data := data ++ ",\"AlertState\":".toList
  let data ← appendCanonicalString data event.alertState
  return data ++ ['\x7d']

/-- The type switch of `CanonicalizeEvent`, at a struct. -/
def canonicalizeValue (order : RangeOrder ByteString ByteString) :
    EventValue → Except Sentinel (List Char)
  | .test event => canonicalizeTest event
  | .verification event => canonicalizeVerification event
  | .alert event => canonicalizeAlert order event
  | .alertStatus event => canonicalizeAlertStatus event

/-- `CanonicalizeEvent`, over the order of the loop and the hash. -/
def canonicalizeEvent (order : RangeOrder ByteString ByteString)
    (sum256 : Hash) (event : Event) : Except Sentinel CanonicalEvent :=
  match event.deref with
  | none => .error .errCanonicalEvent
  | some value => do
    let text ← (canonicalizeValue order value).relabel .errCanonicalEvent
    let data := utf8Encode text
    return ⟨canonicalEventFormatVersion, data, sum256 data⟩

/-! ## What is written -/

/-- What the canonical form says of one member. -/
inductive CanonicalField where
  | text (value : List Char)
  | integer (value : Int)
  | table (entries : List (List Char × List Char))
deriving DecidableEq

/-- The members of the canonical form, in their order. -/
abbrev CanonicalRecord := List (List Char × CanonicalField)

/-- How an entry of a table is written. -/
def writtenEntry (entry : List Char × List Char) : List Char × List Char :=
  (canonicalText entry.1, Json.quoted (canonicalText entry.2))

/-- How a member is written. -/
def CanonicalField.write : CanonicalField → List Char
  | .text value => Json.quoted (canonicalText value)
  | .integer value => Json.intText value
  | .table entries => Json.objectText (entries.map writtenEntry)

/-- The canonical form of a record. -/
def CanonicalRecord.write (r : CanonicalRecord) : List Char :=
  Json.objectText (r.map fun m => (m.1, m.2.write))

/-- The characters of an entry. -/
def decodeEntry (entry : ByteString × ByteString) : Option (List Char × List Char) := do
  return (← utf8Decode? entry.1, ← utf8Decode? entry.2)

/-- What the canonical form says of an event, if it has one. -/
def EventValue.record : EventValue → Option CanonicalRecord
  | .test event => do
    return [("AppName".toList, .text (← utf8Decode? event.appName)),
      ("Type".toList, .text "Test".toList)]
  | .verification event => do
    return [("AppName".toList, .text (← utf8Decode? event.appName)),
      ("Type".toList, .text "Verification".toList),
      ("Code".toList, .text (← utf8Decode? event.code))]
  | .alert event => do
    let metaMap ← event.metaMap
    guard (∀ key ∈ metaMap.keys, printableASCII key)
    return [("AppName".toList, .text (← utf8Decode? event.appName)),
      ("Type".toList, .text "Alert".toList),
      ("AlertID".toList, .integer event.alertID.toInt),
      ("Summary".toList, .text (← utf8Decode? event.summary)),
      ("Details".toList, .text (← utf8Decode? event.details)),
      ("ServiceID".toList, .text (← utf8Decode? event.serviceID)),
      ("ServiceName".toList, .text (← utf8Decode? event.serviceName)),
      ("Meta".toList, .table (← metaMap.toList.mapM decodeEntry))]
  | .alertStatus event => do
    return [("AppName".toList, .text (← utf8Decode? event.appName)),
      ("Type".toList, .text "AlertStatus".toList),
      ("AlertID".toList, .integer event.alertID.toInt),
      ("LogEntry".toList, .text (← utf8Decode? event.logEntry)),
      ("AlertState".toList, .text (← utf8Decode? event.alertState))]

@[simp] theorem appendCanonicalString_eq_ok {data out : List Char} {value : ByteString} :
    appendCanonicalString data value = .ok out ↔
      ∃ text, utf8Decode? value = some text ∧
        data ++ Json.quoted (canonicalText text) = out := by
  unfold appendCanonicalString Json.quoted
  split <;> simp_all

theorem write_test (appName : List Char) :
    "\x7b\"AppName\":".toList ++ Json.quoted (canonicalText appName) ++
        ",\"Type\":\"Test\"\x7d".toList =
      CanonicalRecord.write [("AppName".toList, .text appName),
        ("Type".toList, .text "Test".toList)] := by
  simp only [CanonicalRecord.write, List.map_cons, Json.objectText, Json.membersText,
    Json.memberText, CanonicalField.write, List.flatMap_cons, List.append_assoc]
  rfl

theorem canonicalizeTest_eq_ok {event : TestEvent} {text : List Char} :
    canonicalizeTest event = .ok text ↔
      ∃ r, (EventValue.test event).record = some r ∧ r.write = text := by
  simp only [canonicalizeTest, Except.bind_eq_ok, appendCanonicalString_eq_ok, Except.pure_eq_ok,
    EventValue.record, Option.bind_eq_bind, Option.bind_eq_some_iff, Option.pure_def,
    Option.some.injEq]
  constructor
  · rintro ⟨_, ⟨appName, happ, rfl⟩, rfl⟩
    exact ⟨_, ⟨appName, happ, rfl⟩, (write_test appName).symm⟩
  · rintro ⟨_, ⟨appName, happ, rfl⟩, rfl⟩
    exact ⟨_, ⟨appName, happ, rfl⟩, write_test appName⟩

theorem write_verification (appName code : List Char) :
    "\x7b\"AppName\":".toList ++ Json.quoted (canonicalText appName) ++
          ",\"Type\":\"Verification\",\"Code\":".toList ++
        Json.quoted (canonicalText code) ++ ['\x7d'] =
      CanonicalRecord.write [("AppName".toList, .text appName),
        ("Type".toList, .text "Verification".toList), ("Code".toList, .text code)] := by
  simp only [CanonicalRecord.write, List.map_cons, Json.objectText, Json.membersText,
    Json.memberText, CanonicalField.write, List.flatMap_cons, List.append_assoc]
  rfl

theorem canonicalizeVerification_eq_ok {event : VerificationEvent} {text : List Char} :
    canonicalizeVerification event = .ok text ↔
      ∃ r, (EventValue.verification event).record = some r ∧ r.write = text := by
  simp only [canonicalizeVerification, Except.bind_eq_ok, appendCanonicalString_eq_ok,
    Except.pure_eq_ok, EventValue.record, Option.bind_eq_bind, Option.bind_eq_some_iff,
    Option.pure_def, Option.some.injEq]
  constructor
  · rintro ⟨_, ⟨appName, happ, rfl⟩, _, ⟨code, hcode, rfl⟩, rfl⟩
    exact ⟨_, ⟨appName, happ, code, hcode, rfl⟩, (write_verification appName code).symm⟩
  · rintro ⟨_, ⟨appName, happ, code, hcode, rfl⟩, rfl⟩
    exact ⟨_, ⟨appName, happ, rfl⟩, _, ⟨code, hcode, rfl⟩, write_verification appName code⟩

theorem write_alertStatus (appName : List Char) (alertID : Int) (logEntry alertState : List Char) :
    "\x7b\"AppName\":".toList ++ Json.quoted (canonicalText appName) ++
          ",\"Type\":\"AlertStatus\",\"AlertID\":".toList ++ Json.intText alertID ++
        ",\"LogEntry\":".toList ++ Json.quoted (canonicalText logEntry) ++
      ",\"AlertState\":".toList ++ Json.quoted (canonicalText alertState) ++ ['\x7d'] =
      CanonicalRecord.write [("AppName".toList, .text appName),
        ("Type".toList, .text "AlertStatus".toList), ("AlertID".toList, .integer alertID),
        ("LogEntry".toList, .text logEntry), ("AlertState".toList, .text alertState)] := by
  simp only [CanonicalRecord.write, List.map_cons, Json.objectText, Json.membersText,
    Json.memberText, CanonicalField.write, List.flatMap_cons, List.append_assoc]
  rfl

theorem write_alert (appName : List Char) (alertID : Int)
    (summary details serviceID serviceName : List Char) (entries : List (List Char × List Char)) :
    "\x7b\"AppName\":".toList ++ Json.quoted (canonicalText appName) ++
          ",\"Type\":\"Alert\",\"AlertID\":".toList ++ Json.intText alertID ++
        ",\"Summary\":".toList ++ Json.quoted (canonicalText summary) ++
        ",\"Details\":".toList ++ Json.quoted (canonicalText details) ++
        ",\"ServiceID\":".toList ++ Json.quoted (canonicalText serviceID) ++
        ",\"ServiceName\":".toList ++ Json.quoted (canonicalText serviceName) ++
        ",\"Meta\":\x7b".toList ++ Json.membersText (entries.map writtenEntry) ++
      ['\x7d', '\x7d'] =
      CanonicalRecord.write [("AppName".toList, .text appName),
        ("Type".toList, .text "Alert".toList), ("AlertID".toList, .integer alertID),
        ("Summary".toList, .text summary), ("Details".toList, .text details),
        ("ServiceID".toList, .text serviceID), ("ServiceName".toList, .text serviceName),
        ("Meta".toList, .table entries)] := by
  simp only [CanonicalRecord.write, List.map_cons, Json.objectText, Json.membersText,
    Json.memberText, CanonicalField.write, List.flatMap_cons, List.append_assoc, List.cons_append]
  rfl

theorem canonicalizeAlertStatus_eq_ok {event : AlertStatusEvent} {text : List Char} :
    canonicalizeAlertStatus event = .ok text ↔
      ∃ r, (EventValue.alertStatus event).record = some r ∧ r.write = text := by
  simp only [canonicalizeAlertStatus, Except.bind_eq_ok, appendCanonicalString_eq_ok,
    Except.pure_eq_ok, EventValue.record, Option.bind_eq_bind, Option.bind_eq_some_iff,
    Option.pure_def, Option.some.injEq]
  constructor
  · rintro ⟨_, ⟨appName, happ, rfl⟩, _, ⟨logEntry, hlog, rfl⟩, _, ⟨state, hstate, rfl⟩, rfl⟩
    exact ⟨_, ⟨appName, happ, logEntry, hlog, state, hstate, rfl⟩, (write_alertStatus ..).symm⟩
  · rintro ⟨_, ⟨appName, happ, logEntry, hlog, state, hstate, rfl⟩, rfl⟩
    exact ⟨_, ⟨appName, happ, rfl⟩, _, ⟨logEntry, hlog, rfl⟩, _, ⟨state, hstate, rfl⟩,
      write_alertStatus ..⟩

variable {keys : List ByteString} {canonical : CanonicalEvent}

theorem collectKeys_eq_ok {entries : List (ByteString × ByteString)} :
    collectKeys entries = .ok keys ↔
      (∀ entry ∈ entries, printableASCII entry.1 = true ∧ utf8Valid entry.2 = true) ∧
        entries.map Prod.fst = keys := by
  induction entries generalizing keys with
  | nil => simp [collectKeys]
  | cons entry entries ih =>
    simp only [collectKeys, Except.bind_eq_ok, Except.refuseIf_eq_ok, Except.pure_eq_ok, ih,
      List.forall_mem_cons, List.map_cons]
    constructor
    · rintro ⟨_, hentry, _, ⟨hentries, rfl⟩, rfl⟩
      exact ⟨⟨by simpa using hentry, hentries⟩, rfl⟩
    · rintro ⟨⟨hentry, hentries⟩, rfl⟩
      exact ⟨(), by simpa using hentry, _, ⟨hentries, rfl⟩, rfl⟩

/-- The entry of a key, in characters. -/
def decodeKey (metaMap : EntryMap ByteString ByteString) (key : ByteString) :
    Option (List Char × List Char) :=
  decodeEntry (key, metaMap[key]?.getD [])

theorem appendEntries_eq_ok {metaMap : EntryMap ByteString ByteString} {index : Nat}
    {data out : List Char} :
    appendEntries metaMap index keys data = .ok out ↔
      ∃ entries, keys.mapM (decodeKey metaMap) = some entries ∧
        data ++ (if 0 < index then (entries.map writtenEntry).flatMap (',' :: Json.memberText ·)
          else Json.membersText (entries.map writtenEntry)) = out := by
  induction keys generalizing index data with
  | nil => simp [appendEntries, Json.membersText]
  | cons key keys ih =>
    simp only [appendEntries, Except.bind_eq_ok, appendCanonicalString_eq_ok, ih, List.mapM_cons,
      decodeKey, decodeEntry, Option.bind_eq_bind, Option.bind_eq_some_iff, Option.pure_def,
      Option.some.injEq]
    -- after the first entry every other one follows a comma
    constructor
    · rintro ⟨_, ⟨k, hk, rfl⟩, _, ⟨v, hv, rfl⟩, entries, hentries, rfl⟩
      refine ⟨(k, v) :: entries, ⟨_, ⟨k, hk, v, hv, rfl⟩, entries, hentries, rfl⟩, ?_⟩
      by_cases hindex : 0 < index <;>
        simp [hindex, writtenEntry, Json.memberText, Json.membersText]
    · rintro ⟨_, ⟨_, ⟨k, hk, v, hv, rfl⟩, entries, hentries, rfl⟩, rfl⟩
      refine ⟨_, ⟨k, hk, rfl⟩, _, ⟨v, hv, rfl⟩, entries, hentries, ?_⟩
      by_cases hindex : 0 < index <;>
        simp [hindex, writtenEntry, Json.memberText, Json.membersText]

theorem mapM_decodeKey (metaMap : EntryMap ByteString ByteString) :
    metaMap.keys.mapM (decodeKey metaMap) = metaMap.toList.mapM decodeEntry := by
  rw [← Std.ExtTreeMap.map_fst_toList_eq_keys, List.mapM_map]
  refine Option.mapM_congr fun entry hentry => ?_
  have hvalue : metaMap[entry.1]? = some entry.2 :=
    Std.ExtTreeMap.mem_toList_iff_getElem?_eq_some.mp hentry
  simp only [Function.comp_apply, decodeKey, hvalue, Option.getD_some]

theorem utf8Valid_of_decodeEntry {entry : ByteString × ByteString} {text : List Char × List Char}
    (h : decodeEntry entry = some text) : utf8Valid entry.2 = true := by
  simp only [decodeEntry, Option.bind_eq_bind, Option.bind_eq_some_iff] at h
  obtain ⟨_, _, _, hvalue, _⟩ := h
  rw [← utf8Decode?_isSome, hvalue, Option.isSome_some]

/-- Both loops of `canonicalizeAlert`, whatever the order in which the first visits. -/
theorem entries_eq_ok {order : RangeOrder ByteString ByteString}
    {metaMap : EntryMap ByteString ByteString} {data out : List Char} :
    (∃ keys, collectKeys (order.visit metaMap) = .ok keys ∧
      appendEntries metaMap 0 (keys.insertionSort EntryMap.KeyLE) data = .ok out) ↔
    (∀ key ∈ metaMap.keys, printableASCII key = true) ∧
      ∃ entries, metaMap.toList.mapM decodeEntry = some entries ∧
        data ++ Json.membersText (entries.map writtenEntry) = out := by
  have hvisit : ∀ entry, entry ∈ order.visit metaMap ↔ entry ∈ metaMap.toList :=
    fun entry => (order.perm metaMap).mem_iff
  have hsorted := EntryMap.insertionSort_visit order metaMap
  simp only [collectKeys_eq_ok, ← Std.ExtTreeMap.map_fst_toList_eq_keys, List.forall_mem_map]
  constructor
  · rintro ⟨_, ⟨hall, rfl⟩, hentries⟩
    rw [hsorted, appendEntries_eq_ok, mapM_decodeKey] at hentries
    exact ⟨fun entry hentry => (hall entry ((hvisit entry).mpr hentry)).1, hentries⟩
  · rintro ⟨hkeys, entries, hentries, rfl⟩
    refine ⟨_, ⟨fun entry hentry => ?_, rfl⟩, ?_⟩
    · have hmem := (hvisit entry).mp hentry
      obtain ⟨text, _, htext⟩ := Option.exists_of_mapM hentries hmem
      exact ⟨hkeys entry hmem, utf8Valid_of_decodeEntry htext⟩
    · rw [hsorted, appendEntries_eq_ok, mapM_decodeKey]
      exact ⟨entries, hentries, rfl⟩

variable {order : RangeOrder ByteString ByteString} {event : Event} {sum256 : Hash}
  {r : CanonicalRecord} {value : EventValue}

theorem canonicalizeAlert_eq_ok {event : AlertEvent} {text : List Char} :
    canonicalizeAlert order event = .ok text ↔
      ∃ r, (EventValue.alert event).record = some r ∧ r.write = text := by
  obtain ⟨_, alertID, _, _, _, _, metaMap?⟩ := event
  match metaMap? with
  | none => simp [canonicalizeAlert, EventValue.record]
  | some metaMap =>
    have hentries := @entries_eq_ok order metaMap
    simp only [canonicalizeAlert, Except.bind_eq_ok, appendCanonicalString_eq_ok,
      Except.pure_eq_ok, EventValue.record, Option.bind_eq_bind, Option.bind_some,
      Option.bind_eq_some_iff, Option.pure_def, Option.some.injEq]
    constructor
    · rintro ⟨_, ⟨appName, happ, rfl⟩, _, ⟨summary, hsummary, rfl⟩, _, ⟨details, hdetails, rfl⟩,
        _, ⟨serviceID, hid, rfl⟩, _, ⟨serviceName, hname, rfl⟩, keys, hkeys, out, hout, rfl⟩
      obtain ⟨hprintable, entries, hdecoded, rfl⟩ := hentries.mp ⟨keys, hkeys, hout⟩
      exact ⟨_, ⟨(), by simpa [guard] using hprintable, appName, happ, summary, hsummary, details,
        hdetails, serviceID, hid, serviceName, hname, entries, hdecoded, rfl⟩,
        (write_alert ..).symm⟩
    · rintro ⟨_, ⟨_, hprintable, appName, happ, summary, hsummary, details, hdetails, serviceID,
        hid, serviceName, hname, entries, hdecoded, rfl⟩, rfl⟩
      obtain ⟨keys, hkeys, hout⟩ :=
        hentries.mpr ⟨by simpa [guard] using hprintable, entries, hdecoded, rfl⟩
      exact ⟨_, ⟨appName, happ, rfl⟩, _, ⟨summary, hsummary, rfl⟩, _, ⟨details, hdetails, rfl⟩,
        _, ⟨serviceID, hid, rfl⟩, _, ⟨serviceName, hname, rfl⟩, keys, hkeys, _, hout,
        write_alert ..⟩

/-- **What `CanonicalizeEvent` writes**: the record of the event, in whatever order its map is
visited. -/
theorem canonicalizeEvent_eq_ok :
    canonicalizeEvent order sum256 event = .ok canonical ↔
      ∃ value r, event.deref = some value ∧ value.record = some r ∧
        ⟨canonicalEventFormatVersion, utf8Encode r.write, sum256 (utf8Encode r.write)⟩ =
          canonical := by
  have hvalue : ∀ value text, canonicalizeValue order value = .ok text ↔
      ∃ r, value.record = some r ∧ r.write = text := by
    intro value text
    match value with
    | .test _ => exact canonicalizeTest_eq_ok
    | .verification _ => exact canonicalizeVerification_eq_ok
    | .alert _ => exact canonicalizeAlert_eq_ok
    | .alertStatus _ => exact canonicalizeAlertStatus_eq_ok
  unfold canonicalizeEvent
  cases event.deref with
  | none => simp
  | some value =>
    simp only [Except.bind_eq_ok, Except.relabel_eq_ok, hvalue, Except.pure_eq_ok,
      Option.some.injEq]
    constructor
    · rintro ⟨_, ⟨r, hr, rfl⟩, rfl⟩
      exact ⟨value, r, rfl, hr, rfl⟩
    · rintro ⟨_, r, rfl, hr, rfl⟩
      exact ⟨_, ⟨r, hr, rfl⟩, rfl⟩

/-! ## What is written is read -/

theorem hexValue?_lowerHex : ∀ v < 16, Json.hexValue? (lowerHex v) = some v := by
  decide

theorem hex4?_lowerHex {n : Nat} (hn : n < 256) :
    Json.hex4? '0' '0' (lowerHex (n / 16)) (lowerHex (n % 16)) = some n := by
  have hzero : Json.hexValue? '0' = some 0 := rfl
  simp only [Json.hex4?, hzero, hexValue?_lowerHex (n / 16) (by omega),
    hexValue?_lowerHex (n % 16) (by omega), Option.bind_eq_bind, Option.bind_some, Option.pure_def,
    Option.some.injEq]
  omega

theorem plain_step {c : Char} (hc : 0x20 ≤ c.toNat) (hquote : c ≠ '"') (hslash : c ≠ '\\') :
    Json.TextState.plain.step c = some .plain := by
  have hend : ¬ (c = '"' ∨ c.toNat < 0x20) := by
    rintro (h | h)
    · exact hquote h
    · omega
  exact (if_neg hslash).trans (if_neg hend)

/-- A character is written as itself, with a backslash, or as a code that is not half a
pair. -/
theorem canonicalChar_cases (c : Char) :
    (canonicalChar c = [c] ∧ Json.TextState.plain.step c = some .plain) ∨
    (∃ e, canonicalChar c = ['\\', e] ∧ Json.TextState.escape.step e = some .plain ∧
      Json.escaped e = c) ∨
    ∃ a b d e, canonicalChar c = ['\\', 'u', a, b, d, e] ∧ Json.hex4? a b d e = some c.toNat ∧
      ¬ Json.IsSurrogate c.toNat := by
  unfold canonicalChar
  split
  · rename_i hwide
    split
    · have hne : ∀ d : Char, d.toNat < 0x80 → c ≠ d := by
        rintro d hd rfl
        omega
      exact Or.inl ⟨rfl, plain_step (by omega) (hne _ (by decide)) (hne _ (by decide))⟩
    · rename_i hseparator
      refine Or.inr (Or.inr ⟨'2', '0', '2', _, rfl, ?_⟩)
      by_cases h : c = '\u2028'
      · subst h
        decide
      · have h' : c = '\u2029' := by simpa [h] using hseparator
        subst h'
        decide
  · rename_i hascii
    split
    · rename_i hplain
      exact Or.inl ⟨rfl, plain_step hplain.1 hplain.2.1 hplain.2.2.1⟩
    · split
      · rename_i hself
        refine Or.inr (Or.inl ⟨c, rfl, ?_⟩)
        rcases hself with rfl | rfl <;> decide
      · have hescape : ∀ e d : Char, Json.TextState.escape.step e = some .plain →
            Json.escaped e = d → c = d →
            ∃ e', ['\\', e] = ['\\', e'] ∧ Json.TextState.escape.step e' = some .plain ∧
              Json.escaped e' = c := by
          rintro e d he hd rfl
          exact ⟨e, rfl, he, hd⟩
        split
        · exact Or.inr (Or.inl (hescape 'b' '\x08' rfl rfl ‹_›))
        · split
          · exact Or.inr (Or.inl (hescape 'f' '\x0c' rfl rfl ‹_›))
          · split
            · exact Or.inr (Or.inl (hescape 'n' '\n' rfl rfl ‹_›))
            · split
              · exact Or.inr (Or.inl (hescape 'r' '\r' rfl rfl ‹_›))
              · split
                · exact Or.inr (Or.inl (hescape 't' '\t' rfl rfl ‹_›))
                · refine Or.inr (Or.inr ⟨'0', '0', _, _, rfl, hex4?_lowerHex (by omega), ?_⟩)
                  unfold Json.IsSurrogate
                  omega

theorem foldlM_canonicalChar (c : Char) :
    (canonicalChar c).foldlM Json.TextState.step .plain = some .plain := by
  rcases canonicalChar_cases c with ⟨heq, hstep⟩ | ⟨e, heq, hstep, -⟩ | ⟨a, b, d, e, heq, hcode, -⟩
  · rw [heq, List.foldlM_cons, hstep]
    rfl
  · rw [heq, List.foldlM_cons]
    change (Json.TextState.escape.step e >>= fun state => [].foldlM Json.TextState.step state) = _
    rw [hstep]
    rfl
  · simp only [Json.hex4?, Option.bind_eq_bind, Option.bind_eq_some_iff] at hcode
    obtain ⟨_, ha, _, hb, _, hd, _, he, _⟩ := hcode
    rw [heq]
    simp [Json.TextState.step, ha, hb, hd, he]

theorem quotable_canonicalText (text : List Char) : Json.Quotable (canonicalText text) := by
  unfold Json.Quotable canonicalText
  induction text with
  | nil => rfl
  | cons c text ih =>
    rw [List.flatMap_cons, List.foldlM_append, foldlM_canonicalChar]
    exact ih

/-- **The escaping is undone by reading.** -/
theorem unquote_canonicalText (text : List Char) : Json.unquote (canonicalText text) = text := by
  unfold canonicalText
  induction text with
  | nil => rfl
  | cons c text ih =>
    rw [List.flatMap_cons]
    rcases canonicalChar_cases c with ⟨heq, hstep⟩ | ⟨e, heq, hstep, he⟩ |
      ⟨a, b, d, e, heq, hcode, hpair⟩
    · have hslash : c ≠ '\\' := by
        rintro rfl
        cases hstep
      rw [heq, List.singleton_append, Json.unquote_plain hslash, ih]
    · have hcode : e ≠ 'u' := by
        rintro rfl
        cases hstep
      rw [heq, List.cons_append, List.singleton_append, Json.unquote_escape hcode, he, ih]
    · simp only [heq, List.cons_append, List.nil_append]
      rw [Json.unquote_code hcode hpair, Char.ofNat_toNat, ih]

theorem canonicalText_injective {s t : List Char} (h : canonicalText s = canonicalText t) :
    s = t := by
  rw [← unquote_canonicalText s, h, unquote_canonicalText]

/-- The value that a member is read as. -/
def CanonicalField.json : CanonicalField → Json
  | .text value => .string (canonicalText value)
  | .integer value => .number (Json.intText value)
  | .table entries =>
    .object (entries.map fun entry => (canonicalText entry.1, .string (canonicalText entry.2)))

/-- The value that a record is read as. -/
def CanonicalRecord.json (r : CanonicalRecord) : Json :=
  .object (r.map fun m => (m.1, m.2.json))

theorem CanonicalField.spells (field : CanonicalField) (d : Nat) :
    Json.Spells (d + 1) field.write field.json := by
  match field with
  | .text value => exact .string (quotable_canonicalText value)
  | .integer value => exact .number (Json.numeral_intText value)
  | .table entries =>
    refine Json.spells_object ?_
    rw [List.forall₂_map_left_iff, List.forall₂_map_right_iff, List.forall₂_same]
    intro entry _
    exact ⟨rfl, quotable_canonicalText _, .string (quotable_canonicalText _)⟩

/-- **What is written for a record spells it.** -/
theorem CanonicalRecord.spells (hr : ∀ m ∈ r, Json.Quotable m.1) (d : Nat) :
    Json.Spells (d + 2) r.write r.json := by
  refine Json.spells_object ?_
  rw [List.forall₂_map_left_iff, List.forall₂_map_right_iff, List.forall₂_same]
  exact fun m hm => ⟨rfl, hr m hm, m.2.spells d⟩

theorem CanonicalRecord.read_write (hr : ∀ m ∈ r, Json.Quotable m.1) :
    Json.read r.write = some r.json :=
  Json.read_iff.mpr ⟨[], r.write, [], Json.blank_nil, Json.blank_nil,
    by rw [List.append_nil, List.nil_append], CanonicalRecord.spells hr 9998⟩

theorem CanonicalField.json_injective {f g : CanonicalField} (h : f.json = g.json) : f = g := by
  have hentry : Function.Injective fun entry : List Char × List Char =>
      (canonicalText entry.1, Json.string (canonicalText entry.2)) := by
    rintro ⟨k, v⟩ ⟨k', v'⟩ hpair
    simp only [Prod.mk.injEq, Json.string.injEq] at hpair
    rw [canonicalText_injective hpair.1, canonicalText_injective hpair.2]
  cases f <;> cases g <;> simp only [CanonicalField.json, Json.string.injEq, Json.number.injEq,
    Json.object.injEq, reduceCtorEq] at h
  · rw [canonicalText_injective h]
  · rw [Json.intText_injective h]
  · rw [List.map_injective_iff.mpr hentry h]

theorem CanonicalRecord.json_injective {s : CanonicalRecord} (h : r.json = s.json) : r = s := by
  refine List.map_injective_iff.mpr ?_ (Json.object.inj h)
  rintro ⟨n, f⟩ ⟨n', f'⟩ hpair
  simp only [Prod.mk.injEq] at hpair
  rw [hpair.1, CanonicalField.json_injective hpair.2]

/-! ## Which event was written -/

/-- The text of an `EventType`. -/
def EventType.text : EventType → List Char
  | .test => "Test".toList
  | .verification => "Verification".toList
  | .alert => "Alert".toList
  | .alertStatus => "AlertStatus".toList

/-- `Kind`. -/
def EventValue.kind : EventValue → EventType
  | .test _ => .test
  | .verification _ => .verification
  | .alert _ => .alert
  | .alertStatus _ => .alertStatus

theorem EventType.text_injective : ∀ {k k' : EventType}, k.text = k'.text → k = k' := by
  intro k k'
  cases k <;> cases k' <;> decide

/-- The names of the members, by the kind of event. -/
def EventType.names : EventType → List (List Char)
  | .test => ["AppName".toList, "Type".toList]
  | .verification => ["AppName".toList, "Type".toList, "Code".toList]
  | .alert => ["AppName".toList, "Type".toList, "AlertID".toList, "Summary".toList,
      "Details".toList, "ServiceID".toList, "ServiceName".toList, "Meta".toList]
  | .alertStatus => ["AppName".toList, "Type".toList, "AlertID".toList, "LogEntry".toList,
      "AlertState".toList]

theorem EventType.quotable_names (kind : EventType) : ∀ name ∈ kind.names, Json.Quotable name := by
  cases kind <;> decide

theorem EventValue.record_kind (h : value.record = some r) :
    r[1]? = some ("Type".toList, .text value.kind.text) ∧ r.map Prod.fst = value.kind.names := by
  cases value <;> simp only [EventValue.record, Option.bind_eq_bind, Option.bind_eq_some_iff,
    Option.pure_def, Option.some.injEq] at h
  · obtain ⟨_, -, rfl⟩ := h
    exact ⟨rfl, rfl⟩
  · obtain ⟨_, -, _, -, rfl⟩ := h
    exact ⟨rfl, rfl⟩
  · obtain ⟨_, -, _, -, _, -, _, -, _, -, _, -, _, -, _, -, rfl⟩ := h
    exact ⟨rfl, rfl⟩
  · obtain ⟨_, -, _, -, _, -, rfl⟩ := h
    exact ⟨rfl, rfl⟩

theorem EventValue.quotable_record (h : value.record = some r) : ∀ m ∈ r, Json.Quotable m.1 := by
  intro m hm
  refine value.kind.quotable_names m.1 ?_
  rw [← (EventValue.record_kind h).2]
  exact List.mem_map_of_mem hm

theorem utf8Decode?_injective {a b : ByteString} {text : List Char}
    (ha : utf8Decode? a = some text) (hb : utf8Decode? b = some text) : a = b := by
  rw [← utf8Encode_of_decode ha, utf8Encode_of_decode hb]

theorem decodeEntries_eq {l : List (ByteString × ByteString)}
    {entries : List (List Char × List Char)} (h : l.mapM decodeEntry = some entries) :
    l = entries.map fun entry => (utf8Encode entry.1, utf8Encode entry.2) := by
  rw [← List.forall₂_eq_eq_eq, List.forall₂_map_right_iff]
  refine (Option.mapM_eq_some_iff.mp h).imp fun entry text htext => ?_
  simp only [decodeEntry, Option.bind_eq_bind, Option.bind_eq_some_iff, Option.pure_def,
    Option.some.injEq] at htext
  obtain ⟨_, hkey, _, hvalue, rfl⟩ := htext
  rw [utf8Encode_of_decode hkey, utf8Encode_of_decode hvalue]

/-- **A record is that of one event.** -/
theorem EventValue.record_injective {value' : EventValue} (h : value.record = some r)
    (h' : value'.record = some r) : value = value' := by
  have hkind : value.kind = value'.kind := by
    have hmember := (record_kind h).1.symm.trans (record_kind h').1
    simp only [Option.some.injEq, Prod.mk.injEq, CanonicalField.text.injEq, true_and] at hmember
    exact EventType.text_injective hmember
  -- the same kind: compare the members one by one
  rcases value with ⟨⟨appName⟩⟩ | ⟨⟨appName, code⟩⟩ |
      ⟨⟨appName, alertID, summary, details, serviceID, serviceName, metaMap⟩⟩ |
      ⟨⟨appName, alertID, logEntry, alertState⟩⟩ <;>
    cases value' <;> cases hkind <;> simp only [EventValue.record, Option.bind_eq_bind,
      Option.bind_eq_some_iff, Option.pure_def, Option.some.injEq] at h h'
  · obtain ⟨_, happ, rfl⟩ := h
    obtain ⟨_, happ', heq⟩ := h'
    simp only [List.cons.injEq, Prod.mk.injEq, CanonicalField.text.injEq, true_and, and_true] at heq
    subst heq
    rw [utf8Decode?_injective happ happ']
  · obtain ⟨_, happ, _, hcode, rfl⟩ := h
    obtain ⟨_, happ', _, hcode', heq⟩ := h'
    simp only [List.cons.injEq, Prod.mk.injEq, CanonicalField.text.injEq, true_and, and_true] at heq
    obtain ⟨rfl, rfl⟩ := heq
    rw [utf8Decode?_injective happ happ', utf8Decode?_injective hcode hcode']
  · obtain ⟨_, hmeta, _, -, _, happ, _, hsum, _, hdet, _, hid, _, hname, _, hentries, rfl⟩ := h
    obtain ⟨_, hmeta', _, -, _, happ', _, hsum', _, hdet', _, hid', _, hname', _, hentries',
      heq⟩ := h'
    simp only [List.cons.injEq, Prod.mk.injEq, CanonicalField.text.injEq,
      CanonicalField.integer.injEq, CanonicalField.table.injEq, Int64.toInt_inj, true_and,
      and_true] at heq
    obtain ⟨rfl, halert, rfl, rfl, rfl, rfl, rfl⟩ := heq
    have hmap := Std.ExtTreeMap.toList_inj.mp
      ((decodeEntries_eq hentries).trans (decodeEntries_eq hentries').symm)
    rw [utf8Decode?_injective happ happ', utf8Decode?_injective hsum hsum',
      utf8Decode?_injective hdet hdet', utf8Decode?_injective hid hid',
      utf8Decode?_injective hname hname', ← halert, hmeta, hmap, ← hmeta']
  · obtain ⟨_, happ, _, hlog, _, hstate, rfl⟩ := h
    obtain ⟨_, happ', _, hlog', _, hstate', heq⟩ := h'
    simp only [List.cons.injEq, Prod.mk.injEq, CanonicalField.text.injEq,
      CanonicalField.integer.injEq, Int64.toInt_inj, true_and, and_true] at heq
    obtain ⟨rfl, halert, rfl, rfl⟩ := heq
    rw [utf8Decode?_injective happ happ', utf8Decode?_injective hlog hlog',
      utf8Decode?_injective hstate hstate', ← halert]

theorem canonicalizeEvent_error {e : Sentinel}
    (h : canonicalizeEvent order sum256 event = .error e) : e = .errCanonicalEvent := by
  unfold canonicalizeEvent at h
  split at h
  · cases h
    rfl
  · cases hvalue : canonicalizeValue order _ with
    | error => rw [hvalue] at h; cases h; rfl
    | ok => rw [hvalue] at h; cases h

/-- The outcome is the same for every order in which the map may be visited. -/
theorem canonicalizeEvent_order (order order' : RangeOrder ByteString ByteString)
    (sum256 : Hash) (event : Event) :
    canonicalizeEvent order sum256 event = canonicalizeEvent order' sum256 event := by
  cases h : canonicalizeEvent order sum256 event with
  | ok canonical => exact (canonicalizeEvent_eq_ok.mpr (canonicalizeEvent_eq_ok.mp h)).symm
  | error e =>
    cases h' : canonicalizeEvent order' sum256 event with
    | ok canonical =>
      rw [canonicalizeEvent_eq_ok.mpr (canonicalizeEvent_eq_ok.mp h')] at h
      cases h
    | error e' => rw [canonicalizeEvent_error h, canonicalizeEvent_error h']

/-- Canonical bytes are equal for equal structs, and only for them. -/
theorem canonical_data_iff {order' : RangeOrder ByteString ByteString} {event' : Event}
    {canonical' : CanonicalEvent} (h : canonicalizeEvent order sum256 event = .ok canonical)
    (h' : canonicalizeEvent order' sum256 event' = .ok canonical') :
    canonical.data = canonical'.data ↔ event.deref = event'.deref := by
  obtain ⟨value, r, hderef, hrecord, rfl⟩ := canonicalizeEvent_eq_ok.mp h
  obtain ⟨value', r', hderef', hrecord', rfl⟩ := canonicalizeEvent_eq_ok.mp h'
  rw [hderef, hderef', Option.some.injEq]
  constructor
  · intro hdata
    have hread := CanonicalRecord.read_write (EventValue.quotable_record hrecord)
    have hread' := CanonicalRecord.read_write (EventValue.quotable_record hrecord')
    rw [utf8Encode_injective hdata, hread'] at hread
    obtain rfl := CanonicalRecord.json_injective (Option.some.inj hread)
    exact EventValue.record_injective hrecord hrecord'
  · rintro rfl
    rw [hrecord, Option.some.injEq] at hrecord'
    rw [hrecord']

/-- **The canonical bytes say which event it is**, and nothing about the order in which its
map was visited. -/
theorem canonical_bytes_injective (sum256 : Hash) :
    (∀ (order order' : RangeOrder ByteString ByteString) (event : Event),
      canonicalizeEvent order sum256 event = canonicalizeEvent order' sum256 event) ∧
    ∀ (order order' : RangeOrder ByteString ByteString) (event event' : Event)
      (canonical canonical' : CanonicalEvent),
      canonicalizeEvent order sum256 event = .ok canonical →
      canonicalizeEvent order' sum256 event' = .ok canonical' →
      (canonical.data = canonical'.data ↔ event.deref = event'.deref) := by
  refine ⟨fun order order' => canonicalizeEvent_order order order' sum256, ?_⟩
  intro order order' event event' canonical canonical' h h'
  exact canonical_data_iff h h'

/-- Entries visited by ascending keys. -/
def sampleOrder : RangeOrder ByteString ByteString := ⟨fun m => m.toList, fun _ => .refl _⟩

/-- Entries visited by descending keys. -/
def sampleReverseOrder : RangeOrder ByteString ByteString :=
  ⟨fun m => m.toList.reverse, fun _ => List.reverse_perm _⟩

/-- An alert with two entries and a text that needs every kind of escape. -/
def sampleAlert : AlertEvent where
  appName := .ascii "Core"
  alertID := -7
  summary := utf8Encode "\"<\n\x01\u2028é".toList
  details := []
  serviceID := .ascii "a"
  serviceName := .ascii "b"
  metaMap := some (Std.ExtTreeMap.ofList [(ByteString.ascii "y", ByteString.ascii "1"),
    (ByteString.ascii "x", [])])

/-- Its canonical form, under a constant hash. -/
def sampleCanonical : CanonicalEvent where
  formatVersion := 1
  data := utf8Encode ("\x7b\"AppName\":\"Core\",\"Type\":\"Alert\",\"AlertID\":-7,\"Summary\":" ++
    "\"\\\"\\u003c\\n\\u0001\\u2028é\",\"Details\":\"\",\"ServiceID\":\"a\",\"ServiceName\":\"b\"" ++
    ",\"Meta\":\x7b\"x\":\"\",\"y\":\"1\"\x7d\x7d").toList
  digest := .zero 32

theorem sampleAlert_canonical :
    canonicalizeEvent sampleOrder (fun _ => .zero 32) (.value (.alert sampleAlert)) =
        .ok sampleCanonical ∧
      canonicalizeEvent sampleReverseOrder (fun _ => .zero 32) (.pointer (.alert sampleAlert)) =
        .ok sampleCanonical ∧
      (Event.value (.alert sampleAlert)).deref = (Event.pointer (.alert sampleAlert)).deref := by
  have h : canonicalizeEvent sampleOrder (fun _ => .zero 32) (.value (.alert sampleAlert)) =
      .ok sampleCanonical := Except.eq_ok_of_toOption (by decide +kernel)
  have h' : canonicalizeEvent sampleReverseOrder (fun _ => .zero 32)
      (.pointer (.alert sampleAlert)) = .ok sampleCanonical :=
    Except.eq_ok_of_toOption (by decide +kernel)
  exact ⟨h, h', ((canonical_bytes_injective _).2 _ _ _ _ _ _ h h').mp rfl⟩

end OncallGateway
