import OncallGateway.EventGrammar

/-! # Decoding undoes canonicalization

The canonical form of an accepted event satisfies the grammar again, with the same values
(`describes_record`), so that `decodeEvent` gives the event back.  The encoder and the
decoder are compared through the grammar only: neither is unfolded here.
-/

namespace OncallGateway

/-! ## Texts -/

/-- An escaped text denotes the text. -/
theorem denotes_canonicalText (text : List Char) :
    ∃ us, Json.Lexed (canonicalText text) us ∧ Json.Denotes us text := by
  unfold canonicalText
  induction text with
  | nil => exact ⟨[], .nil, .nil⟩
  | cons c text ih =>
    obtain ⟨us, hus, htext⟩ := ih
    rw [List.flatMap_cons]
    rcases canonicalChar_cases c with ⟨heq, hstep⟩ | ⟨e, heq, hstep, rfl⟩ |
      ⟨a, b, d, e, heq, hcode, hpair⟩
    · rw [heq]
      exact ⟨_, .plain hstep hus, .char htext⟩
    · rw [heq]
      exact ⟨_, .escape hstep hus, .char htext⟩
    · rw [heq]
      refine ⟨_, .code hcode hus, ?_⟩
      have hdenotes := Json.Denotes.code hpair htext
      rwa [Char.ofNat_toNat] at hdenotes

theorem isText_canonicalText (text : List Char) :
    IsText (utf8Encode text) (.string (canonicalText text)) := by
  obtain ⟨us, hus, htext⟩ := denotes_canonicalText text
  exact ⟨_, us, text, rfl, hus, htext, rfl⟩

theorem IsText.decode {value : ByteString} {j : Json} (h : IsText value j) :
    ∃ text, utf8Decode? value = some text ∧ IsText value (.string (canonicalText text)) := by
  obtain ⟨_, _, text, -, -, -, rfl⟩ := h
  exact ⟨text, utf8Decode?_utf8Encode text, isText_canonicalText text⟩

theorem IsPositive.intText {value : Int64} {j : Json} (h : IsPositive value j) :
    IsPositive value (.number (Json.intText value.toInt)) := by
  obtain ⟨n, hpos, hfits, -, rfl⟩ := h
  have hvalue : (Int64.ofNat n).toInt = n := Int64.toInt_ofNat_of_lt hfits
  refine ⟨n, hpos, hfits, ?_, rfl⟩
  rw [hvalue, Json.intText, if_neg (by omega), Int.natAbs_natCast]

/-! ## Tables -/

section Tables
variable {metaMap : EntryMap ByteString ByteString} {members : List (List Char × Json)}

/-- What the rules say of the entries of the map itself. -/
theorem IsTable.entry (h : (members.map fun m => Json.unquote m.1).Nodup)
    (htable : IsTable metaMap (.object members)) {entry : ByteString × ByteString}
    (hentry : entry ∈ metaMap.toList) :
    LengthIn 1 255 entry.1 ∧ Printable entry.1 ∧ ∃ text, decodeEntry entry = some text := by
  obtain ⟨m, hm, rfl⟩ := List.mem_map.mp ((htable.perm h).mem_iff.mpr hentry)
  obtain ⟨_, hmembers, -, hrules, -⟩ := htable
  cases hmembers
  obtain ⟨hlength, hprintable, value, hvalue, -⟩ := hrules m hm
  obtain ⟨text, htext, -⟩ := hvalue.decode
  rw [@tableEntry_eq (Json.unquote m.1, m.2) _ hvalue]
  refine ⟨hlength, hprintable, (Json.unquote m.1, text), ?_⟩
  simp [decodeEntry, utf8Decode?_utf8Encode, htext]

/-- **The canonical form of a table is a table with the same entries.** -/
theorem IsTable.canonical (h : (members.map fun m => Json.unquote m.1).Nodup)
    (htable : IsTable metaMap (.object members)) :
    ∃ entries, metaMap.toList.mapM decodeEntry = some entries ∧
      (∀ key ∈ metaMap.keys, printableASCII key = true) ∧
      IsTable metaMap (CanonicalField.table entries).json ∧
      Json.DistinctNames (CanonicalField.table entries).json := by
  obtain ⟨entries, hentries⟩ := Option.exists_mapM_eq_some fun entry hentry =>
    (htable.entry h hentry).2.2
  have hlist := decodeEntries_eq hentries
  -- an entry that is written is one of the map
  have hmem : ∀ e ∈ entries, (utf8Encode e.1, utf8Encode e.2) ∈ metaMap.toList := by
    intro e he
    rw [hlist]
    exact List.mem_map_of_mem he
  refine ⟨entries, hentries, fun key hkey => ?_, ⟨_, rfl, ?_, ?_, ?_⟩, ?_⟩
  · rw [← Std.ExtTreeMap.map_fst_toList_eq_keys] at hkey
    obtain ⟨entry, hentry, rfl⟩ := List.mem_map.mp hkey
    exact printableASCII_eq_true.mpr (htable.entry h hentry).2.1
  · rw [← Std.ExtTreeMap.length_toList, hlist, List.length_map, List.length_map]
  · intro m hm
    obtain ⟨e, he, rfl⟩ := List.mem_map.mp hm
    obtain ⟨hlength, hprintable, -⟩ := htable.entry h (hmem e he)
    dsimp only
    rw [unquote_canonicalText]
    exact ⟨hlength, hprintable, _, isText_canonicalText e.2,
      Std.ExtTreeMap.mem_toList_iff_getElem?_eq_some.mp (hmem e he)⟩
  · obtain ⟨_, -, -, -, htotal⟩ := htable
    exact htotal
  · refine Json.distinctNames_object.mpr ⟨?_, fun m hm => ?_⟩
    · have hkeys := EntryMap.distinct_iff.mp (@Std.ExtTreeMap.distinct_keys_toList _ _ _ metaMap _)
      rw [hlist, List.map_map] at hkeys
      simp only [List.map_map, Function.comp_def, unquote_canonicalText] at hkeys ⊢
      refine List.Nodup.of_map utf8Encode ?_
      rwa [List.map_map]
    · obtain ⟨e, -, rfl⟩ := List.mem_map.mp hm
      intro inner hw
      cases hw

end Tables

/-! ## Records -/

theorem EventType.unquote_names (kind : EventType) :
    ∀ name ∈ kind.names, Json.unquote name = name := by
  cases kind <;> decide +kernel

/-- The members that a record is read as. -/
def CanonicalRecord.members (r : CanonicalRecord) : List (List Char × Json) :=
  r.map fun m => (m.1, m.2.json)

section Records
variable {value : EventValue} {r : CanonicalRecord}

theorem unquote_members (h : value.record = some r) :
    (r.members.map fun m => Json.unquote m.1) = value.kind.names := by
  rw [← (EventValue.record_kind h).2, CanonicalRecord.members, List.map_map]
  refine List.map_congr_left fun m hm => ?_
  refine value.kind.unquote_names m.1 ?_
  rw [← (EventValue.record_kind h).2]
  exact List.mem_map_of_mem hm

variable {name : List Char}

/-- A member of the record, as it is read. -/
theorem member_members (h : value.record = some r) {field : CanonicalField} {P : Json → Prop}
    (hm : (name, field) ∈ r) (hP : P field.json) :
    Member r.members name P := by
  refine ⟨(name, field.json), List.mem_map_of_mem hm, value.kind.unquote_names name ?_, hP⟩
  rw [← (EventValue.record_kind h).2]
  exact List.mem_map_of_mem hm

theorem ofType_members (h : value.record = some r) : OfType r.members value.kind := by
  refine ⟨unquote_members h ▸ List.Perm.refl _, ?_⟩
  exact member_members h (List.mem_of_getElem? (EventValue.record_kind h).1)
    (isText_canonicalText _)

/-- A member of a document is a table whose own names are distinct. -/
theorem Member.table {members : List (List Char × Json)} (h : Json.DistinctNames (.object members))
    {metaMap : EntryMap ByteString ByteString} (hm : Member members name (IsTable metaMap)) :
    ∃ inner, (inner.map fun m : List Char × Json => Json.unquote m.1).Nodup ∧
      IsTable metaMap (.object inner) := by
  obtain ⟨m, hmem, -, htable⟩ := hm
  obtain ⟨inner, heq, -⟩ := id htable
  have hdistinct := (Json.distinctNames_object.mp h).2 m hmem
  rw [heq] at hdistinct htable
  exact ⟨inner, (Json.distinctNames_object.mp hdistinct).1, htable⟩

theorem Member.decode {members : List (List Char × Json)} {value : ByteString}
    (h : Member members name (IsText value)) :
    ∃ text, utf8Decode? value = some text ∧ IsText value (.string (canonicalText text)) := by
  obtain ⟨_, -, -, hvalue⟩ := h
  exact hvalue.decode

theorem Member.intText {members : List (List Char × Json)} {value : Int64}
    (h : Member members name (IsPositive value)) :
    IsPositive value (.number (Json.intText value.toInt)) := by
  obtain ⟨_, -, -, hvalue⟩ := h
  exact hvalue.intText

/-- Texts and integers hold no objects. -/
theorem distinctNames_members (hrecord : value.record = some r)
    (h : ∀ entries, ("Meta".toList, CanonicalField.table entries) ∈ r →
      Json.DistinctNames (CanonicalField.table entries).json)
    (hmeta : ∀ name entries, (name, CanonicalField.table entries) ∈ r → name = "Meta".toList) :
    Json.DistinctNames (.object r.members) := by
  refine Json.distinctNames_object.mpr ⟨?_, fun m hm => ?_⟩
  · rw [unquote_members hrecord]
    exact value.kind.nodup_names
  · obtain ⟨⟨name, field⟩, hfield, rfl⟩ := List.mem_map.mp hm
    match field with
    | .text _ | .integer _ =>
      intro inner hw
      cases hw
    | .table entries =>
      obtain rfl := hmeta name entries hfield
      exact h entries hfield

/-- **The canonical form of an event has the members of the event.** -/
theorem describes_record {members : List (List Char × Json)}
    (hdistinct : Json.DistinctNames (.object members)) (h : Describes members value) :
    ∃ r, value.record = some r ∧ Describes r.members value ∧
      Json.DistinctNames (.object r.members) := by
  match value, h with
  | .test ⟨appName⟩, h =>
    obtain ⟨-, happ, hrule⟩ := h
    obtain ⟨app, dapp, tapp⟩ := happ.decode
    have hrecord : (EventValue.test ⟨appName⟩).record =
        some [("AppName".toList, .text app), ("Type".toList, .text "Test".toList)] := by
      simp only [EventValue.record, dapp, Option.bind_eq_bind, Option.bind_some, Option.pure_def]
    refine ⟨_, hrecord, ⟨ofType_members hrecord, ?_, hrule⟩,
      distinctNames_members hrecord (by simp) (by simp)⟩
    exact member_members hrecord (List.mem_of_getElem? (i := 0) rfl) tapp
  | .verification ⟨appName, code⟩, h =>
    obtain ⟨-, ⟨happ, hrule⟩, hcode, hdigits⟩ := h
    obtain ⟨app, dapp, tapp⟩ := happ.decode
    obtain ⟨code', dcode, tcode⟩ := hcode.decode
    have hrecord : (EventValue.verification ⟨appName, code⟩).record =
        some [("AppName".toList, .text app), ("Type".toList, .text "Verification".toList),
          ("Code".toList, .text code')] := by
      simp only [EventValue.record, dapp, dcode, Option.bind_eq_bind, Option.bind_some,
        Option.pure_def]
    refine ⟨_, hrecord, ⟨ofType_members hrecord, ⟨?_, hrule⟩, ?_, hdigits⟩,
      distinctNames_members hrecord (by simp) (by simp)⟩
    · exact member_members hrecord (List.mem_of_getElem? (i := 0) rfl) tapp
    · exact member_members hrecord (List.mem_of_getElem? (i := 2) rfl) tcode
  | .alert ⟨appName, alertID, summary, details, serviceID, serviceName, _⟩, h =>
    obtain ⟨-, ⟨happ, hrule⟩, hid, ⟨hsummary, hcount⟩, ⟨hdetails, hcount'⟩, ⟨hservice, huuid⟩,
      ⟨hname, hshape⟩, metaMap, rfl, hmeta⟩ := h
    obtain ⟨app, dapp, tapp⟩ := happ.decode
    obtain ⟨summary', dsummary, tsummary⟩ := hsummary.decode
    obtain ⟨details', ddetails, tdetails⟩ := hdetails.decode
    obtain ⟨service', dservice, tservice⟩ := hservice.decode
    obtain ⟨name', dname, tname⟩ := hname.decode
    obtain ⟨inner, hnodup, htable⟩ := hmeta.table hdistinct
    obtain ⟨entries, dentries, hkeys, tentries, dnames⟩ := htable.canonical hnodup
    have hguard : (guard (∀ key ∈ metaMap.keys, printableASCII key = true) : Option Unit) =
        some () := if_pos hkeys
    have hrecord : (EventValue.alert ⟨appName, alertID, summary, details, serviceID, serviceName,
        some metaMap⟩).record =
        some [("AppName".toList, .text app), ("Type".toList, .text "Alert".toList),
          ("AlertID".toList, .integer alertID.toInt), ("Summary".toList, .text summary'),
          ("Details".toList, .text details'), ("ServiceID".toList, .text service'),
          ("ServiceName".toList, .text name'), ("Meta".toList, .table entries)] := by
      simp only [EventValue.record, hguard, dapp, dsummary, ddetails, dservice, dname, dentries,
        Option.bind_eq_bind, Option.bind_some, Option.pure_def]
    refine ⟨_, hrecord, ⟨ofType_members hrecord, ⟨?_, hrule⟩, ?_, ⟨?_, hcount⟩, ⟨?_, hcount'⟩,
      ⟨?_, huuid⟩, ⟨?_, hshape⟩, metaMap, rfl, ?_⟩, distinctNames_members hrecord ?_ (by simp)⟩
    · exact member_members hrecord (List.mem_of_getElem? (i := 0) rfl) tapp
    · exact member_members hrecord (List.mem_of_getElem? (i := 2) rfl) hid.intText
    · exact member_members hrecord (List.mem_of_getElem? (i := 3) rfl) tsummary
    · exact member_members hrecord (List.mem_of_getElem? (i := 4) rfl) tdetails
    · exact member_members hrecord (List.mem_of_getElem? (i := 5) rfl) tservice
    · exact member_members hrecord (List.mem_of_getElem? (i := 6) rfl) tname
    · exact member_members hrecord (List.mem_of_getElem? (i := 7) rfl) tentries
    · intro entries' hentries'
      obtain rfl : entries' = entries := by simpa using hentries'
      exact dnames
  | .alertStatus ⟨appName, alertID, logEntry, alertState⟩, h =>
    obtain ⟨-, ⟨happ, hrule⟩, hid, ⟨hlog, hentry⟩, hstate, hmem⟩ := h
    obtain ⟨app, dapp, tapp⟩ := happ.decode
    obtain ⟨log', dlog, tlog⟩ := hlog.decode
    obtain ⟨state', dstate, tstate⟩ := hstate.decode
    have hrecord : (EventValue.alertStatus ⟨appName, alertID, logEntry, alertState⟩).record =
        some [("AppName".toList, .text app), ("Type".toList, .text "AlertStatus".toList),
          ("AlertID".toList, .integer alertID.toInt), ("LogEntry".toList, .text log'),
          ("AlertState".toList, .text state')] := by
      simp only [EventValue.record, dapp, dlog, dstate, Option.bind_eq_bind, Option.bind_some,
        Option.pure_def]
    refine ⟨_, hrecord, ⟨ofType_members hrecord, ⟨?_, hrule⟩, ?_, ⟨?_, hentry⟩, ?_, hmem⟩,
      distinctNames_members hrecord (by simp) (by simp)⟩
    · exact member_members hrecord (List.mem_of_getElem? (i := 0) rfl) tapp
    · exact member_members hrecord (List.mem_of_getElem? (i := 2) rfl) hid.intText
    · exact member_members hrecord (List.mem_of_getElem? (i := 3) rfl) tlog
    · exact member_members hrecord (List.mem_of_getElem? (i := 4) rfl) tstate

end Records

/-! ## The round trip -/

/-- The canonical form of an accepted event is accepted, as the same event. -/
theorem decodeEvent_canonical {order order' : RangeOrder (List Char) Json} {data : ByteString}
    {event : Event} (h : decodeEvent order data = .ok event)
    (order'' : RangeOrder ByteString ByteString) (sum256 : Hash) :
    ∃ canonical, canonicalizeEvent order'' sum256 event = .ok canonical ∧
      decodeEvent order' canonical.data = .ok event := by
  obtain ⟨_, members, value, ⟨_, -, -, hdistinct⟩, hdescribes, rfl⟩ := decodeEvent_eq_ok.mp h
  obtain ⟨r, hrecord, hdescribes', hdistinct'⟩ := describes_record hdistinct hdescribes
  refine ⟨_, canonicalizeEvent_eq_ok.mpr ⟨value, r, rfl, hrecord, rfl⟩, ?_⟩
  have hspells := CanonicalRecord.spells (EventValue.quotable_record hrecord) 0
  exact decodeEvent_eq_ok.mpr ⟨_, r.members, value, ⟨r.write, rfl,
    ⟨[], r.write, [], Json.blank_nil, Json.blank_nil, by simp, hspells⟩, hdistinct'⟩,
    hdescribes', rfl⟩

theorem decodeEvent_value {order : RangeOrder (List Char) Json} {data : ByteString} {event : Event}
    (h : decodeEvent order data = .ok event) : ∃ value, event = .value value := by
  obtain ⟨_, _, value, -, -, heq⟩ := decodeEvent_eq_ok.mp h
  exact ⟨value, heq⟩

/-- **Decoding undoes canonicalization**, so that two accepted bodies have the same canonical
bytes exactly when they are the same event. -/
theorem decode_canonicalize (sum256 : Hash) (order : RangeOrder (List Char) Json)
    (data : ByteString) (event : Event) (h : decodeEvent order data = .ok event) :
    (∀ range : RangeOrder ByteString ByteString,
      ∃ canonical, canonicalizeEvent range sum256 event = .ok canonical ∧
        ∀ order', decodeEvent order' canonical.data = .ok event ∧
          ∀ event' range', decodeEvent order' canonical.data = .ok event' →
            canonicalizeEvent range' sum256 event' = .ok canonical) ∧
    ∀ (order' : RangeOrder (List Char) Json) (data' : ByteString) (event' : Event)
      (range range' : RangeOrder ByteString ByteString) (canonical canonical' : CanonicalEvent),
      decodeEvent order' data' = .ok event' →
      canonicalizeEvent range sum256 event = .ok canonical →
      canonicalizeEvent range' sum256 event' = .ok canonical' →
      (canonical.data = canonical'.data ↔ event = event') := by
  refine ⟨fun range => ?_, ?_⟩
  · obtain ⟨canonical, hcanonical, -⟩ := @decodeEvent_canonical order order data event h range sum256
    refine ⟨canonical, hcanonical, fun order' => ?_⟩
    obtain ⟨_, hsame, hdecode⟩ := @decodeEvent_canonical order order' data event h range sum256
    obtain rfl := Except.ok.inj (hcanonical.symm.trans hsame)
    refine ⟨hdecode, fun event' range' hdecode' => ?_⟩
    obtain rfl := Except.ok.inj (hdecode.symm.trans hdecode')
    rw [canonicalizeEvent_order range' range, hcanonical]
  · intro order' data' event' range range' canonical canonical' h' hc hc'
    obtain ⟨value, rfl⟩ := decodeEvent_value h
    obtain ⟨value', rfl⟩ := decodeEvent_value h'
    rw [canonical_data_iff hc hc']
    simp [Event.deref]

/-- Members visited by ascending names. -/
def sampleFieldOrder : RangeOrder (List Char) Json := ⟨fun m => m.toList, fun _ => .refl _⟩

/-- An alert with white space, an escaped name, a pair of codes and the members in another
order than the canonical one. -/
def sampleBody : ByteString :=
  utf8Encode ("\n\x7b \"Meta\" : \x7b\"b\":\"\\ud83d\\ude00\", \"\\u0061\":\"\"\x7d," ++
    "\"Type\":\"Alert\",\"AlertID\":9223372036854775807,\"Details\":\"\\/<\",\"Summary\":\"é\"," ++
    "\"ServiceName\":\"A_\",\"ServiceID\":\"00000000-0000-0000-0000-000000000000\"," ++
    "\"AppName\":\"Core\"\x7d ").toList

/-- The event in it. -/
def sampleEvent : Event := .value (.alert
  { appName := .ascii "Core"
    alertID := 9223372036854775807
    summary := utf8Encode "é".toList
    details := .ascii "/<"
    serviceID := .ascii "00000000-0000-0000-0000-000000000000"
    serviceName := .ascii "A_"
    metaMap := some (Std.ExtTreeMap.ofList [(ByteString.ascii "a", []),
      (ByteString.ascii "b", utf8Encode "😀".toList)]) })

theorem sampleBody_roundTrip :
    decodeEvent sampleFieldOrder sampleBody = .ok sampleEvent ∧
      ∃ canonical, canonicalizeEvent sampleOrder (fun _ => .zero 32) sampleEvent = .ok canonical ∧
        decodeEvent sampleFieldOrder canonical.data = .ok sampleEvent := by
  have h : decodeEvent sampleFieldOrder sampleBody = .ok sampleEvent :=
    Except.eq_ok_of_toOption (by decide +kernel)
  obtain ⟨canonical, hcanonical, hdecode⟩ :=
    (decode_canonicalize (fun _ => .zero 32) sampleFieldOrder sampleBody sampleEvent h).1 sampleOrder
  exact ⟨h, canonical, hcanonical, (hdecode sampleFieldOrder).1⟩

end OncallGateway
