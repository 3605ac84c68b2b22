import OncallGateway.EventRoundTrip
import OncallGateway.HttpHandler

/-! # What the HTTP handler answers

Over every execution of `ServeHTTP`, whatever the sink answers: the sink is called once for a
request that carries a delivery, and otherwise not at all; one response is written, one
counter is increased and one line is logged, and the three agree.  The bodies are JSON, and
what they say can be read back.
-/

namespace OncallGateway

/-! ## Bodies -/

/-- The encoding of a character begins no other's. -/
theorem utf8EncodeChar_append_inj {c c' : Char} {rest : ByteString}
    (h : String.utf8EncodeChar c ++ rest = String.utf8EncodeChar c') : c = c' ∧ rest = [] := by
  have hdecode := congrArg utf8Decode? h
  rw [← List.append_nil (String.utf8EncodeChar c'), utf8Decode?_utf8EncodeChar,
    utf8Decode?_utf8EncodeChar] at hdecode
  obtain ⟨text, htext, heq⟩ := Option.map_eq_some_iff.mp hdecode
  obtain ⟨rfl, rfl⟩ := List.cons.inj heq
  exact ⟨rfl, (utf8Encode_of_decode htext).symm⟩

theorem firstRune_utf8EncodeChar (c : Char) (l : ByteString) :
    firstRune (String.utf8EncodeChar c ++ l) = some (c, l) := by
  -- whichever length is tried first, only the length of `c` can succeed
  have hone : ∀ n c', utf8Decode? ((String.utf8EncodeChar c ++ l).take n) = some [c'] →
      (c', (String.utf8EncodeChar c ++ l).drop n) = (c, l) := by
    intro n c' h
    have henc : (String.utf8EncodeChar c ++ l).take n = String.utf8EncodeChar c' := by
      rw [← utf8Encode_of_decode h, utf8Encode_cons, utf8Encode_nil, List.append_nil]
    have hwhole := List.take_append_drop n (String.utf8EncodeChar c ++ l)
    rw [henc] at hwhole
    have hsame : c' = c := by
      rcases List.append_eq_append_iff.mp hwhole with ⟨rest, hc, -⟩ | ⟨rest, hc, -⟩
      · exact (utf8EncodeChar_append_inj hc.symm).1
      · exact (utf8EncodeChar_append_inj hc.symm).1.symm
    subst hsame
    rw [List.append_cancel_left hwhole]
  have hlength : (String.utf8EncodeChar c).length ∈ [1, 2, 3, 4] := by
    have hpos := Char.utf8Size_pos c
    have hfour := Char.utf8Size_le_four c
    rw [String.length_utf8EncodeChar]
    simp only [List.mem_cons, List.not_mem_nil, or_false]
    omega
  unfold firstRune
  cases hfind : List.findSome? _ _ with
  | none =>
    have hnone := List.findSome?_eq_none_iff.mp hfind _ hlength
    rw [List.take_left, ← List.append_nil (String.utf8EncodeChar c), utf8Decode?_utf8EncodeChar]
      at hnone
    cases hnone
  | some found =>
    obtain ⟨n, -, hn⟩ := List.exists_of_findSome?_eq_some hfind
    split at hn
    · rename_i c' hdecode
      rw [← hn, hone n c' hdecode]
    · cases hn

/-- A valid text is written with the escapes of `appendCanonicalString`. -/
theorem encodeRunes_utf8Encode {text : List Char} {fuel : Nat} (hfuel : text.length ≤ fuel) :
    encodeRunes fuel (utf8Encode text) = canonicalText text := by
  induction text generalizing fuel with
  | nil => cases fuel <;> rfl
  | cons c text ih =>
    rw [List.length_cons] at hfuel
    obtain ⟨fuel, rfl⟩ := Nat.exists_eq_succ_of_ne_zero (n := fuel) (by omega)
    have hrune := firstRune_utf8EncodeChar c (utf8Encode text)
    rw [utf8Encode_cons]
    cases hl : String.utf8EncodeChar c ++ utf8Encode text with
    | nil => exact absurd (List.append_eq_nil_iff.mp hl).1 (utf8EncodeChar_ne_nil c)
    | cons b l =>
      rw [hl] at hrune
      rw [encodeRunes, hrune]
      dsimp only
      rw [ih (by omega)]
      rfl

theorem length_le_utf8Encode (text : List Char) : text.length ≤ (utf8Encode text).length := by
  induction text with
  | nil => exact Nat.le_refl _
  | cons c text ih =>
    have hpos := List.length_pos_iff.mpr (utf8EncodeChar_ne_nil c)
    rw [utf8Encode_cons, List.length_append, List.length_cons]
    omega

theorem quotable_encodeRunes (fuel : Nat) (l : ByteString) :
    Json.Quotable (encodeRunes fuel l) := by
  have happend : ∀ {s t : List Char}, s.foldlM Json.TextState.step .plain = some .plain →
      Json.Quotable t → Json.Quotable (s ++ t) := by
    intro s t hs ht
    unfold Json.Quotable
    rw [List.foldlM_append, hs]
    exact ht
  induction fuel, l using encodeRunes.induct with
  | case1 l => exact rfl
  | case2 fuel => cases fuel <;> rfl
  | case3 fuel b l c rest hrune ih =>
    rw [encodeRunes, hrune]
    exact happend (foldlM_canonicalChar c) ih
  | case4 fuel b l hrune ih =>
    rw [encodeRunes, hrune]
    exact happend (by decide) ih

/-- A struct is read back as an object of its fields. -/
theorem read_encodeStruct {fields : List (String × List Char)} (values : List (String × Json))
    (h : List.Forall₂ (fun field value => value.1 = field.1 ∧ Json.Quotable field.1.toList ∧
      ∀ d, Json.Spells d field.2 value.2) fields values) :
    Json.read (encodeStruct fields) =
      some (.object (values.map fun value => (value.1.toList, value.2))) := by
  refine Json.read_iff.mpr ⟨[], Json.objectText (fields.map fun field => (field.1.toList, field.2)),
    ['\n'], Json.blank_nil, ?_, rfl, Json.spells_object ?_⟩
  · intro c hc
    rw [List.mem_singleton.mp hc]
    decide
  · rw [List.forall₂_map_left_iff, List.forall₂_map_right_iff]
    exact h.imp fun field value hv => ⟨congrArg String.toList hv.1, hv.2.1, hv.2.2 _⟩

/-- What `problem` says. -/
def problemJson (result : RequestResult) : Json :=
  .object [("type".toList, .string "about:blank".toList),
    ("title".toList, .string "Request rejected".toList),
    ("status".toList, .number (Json.intText result.status)),
    ("code".toList, .string result.text.toList)]

theorem read_problemText (result : RequestResult) :
    Json.read (problemText result result.status) = some (problemJson result) := by
  have hcode : Json.Quotable result.text.toList := by cases result <;> decide
  refine read_encodeStruct [("type", .string "about:blank".toList),
    ("title", .string "Request rejected".toList), ("status", .number (Json.intText result.status)),
    ("code", .string result.text.toList)] ?_
  refine .cons ⟨rfl, by decide, fun d => .string (by decide)⟩ ?_
  refine .cons ⟨rfl, by decide, fun d => .string (by decide)⟩ ?_
  refine .cons ⟨rfl, show Json.Quotable "status".toList by decide, fun d => ?_⟩ ?_
  · exact Json.Spells.number (Json.numeral_intText result.status)
  exact .cons ⟨rfl, show Json.Quotable "code".toList by decide, fun d => .string hcode⟩ .nil

/-- The body says that the delivery was accepted, with this receipt. -/
def ReadsReceipt (body : List Char) (acceptance : SinkAcceptance) : Prop :=
  ∃ raw, Json.read body = some (.object [("receipt_id".toList, .string raw),
      ("status".toList, .string "accepted".toList),
      ("duplicate".toList, .bool acceptance.duplicate)]) ∧
    ∀ text, acceptance.receiptID = utf8Encode text → Json.unquote raw = text

theorem readsReceipt_acceptedText (acceptance : SinkAcceptance) :
    ReadsReceipt (acceptedText acceptance) acceptance := by
  refine ⟨encodeRunes acceptance.receiptID.length acceptance.receiptID, ?_, ?_⟩
  · refine read_encodeStruct [("receipt_id", .string (encodeRunes _ _)),
      ("status", .string "accepted".toList), ("duplicate", .bool acceptance.duplicate)] ?_
    refine .cons ⟨rfl, show Json.Quotable "receipt_id".toList by decide,
      fun d => .string (quotable_encodeRunes _ _)⟩ ?_
    refine .cons ⟨rfl, by decide, fun d => .string (by decide)⟩ ?_
    refine .cons ⟨rfl, show Json.Quotable "duplicate".toList by decide, fun d => ?_⟩ .nil
    cases acceptance.duplicate with
    | false => exact .false
    | true => exact .true
  · intro text htext
    rw [htext, encodeRunes_utf8Encode (length_le_utf8Encode text), unquote_canonicalText]

/-! ## Observations -/

/-- The delivery that a call hands to the sink. -/
def HandlerCall.delivery? : HandlerCall → Option Delivery
  | .enqueue delivery => some delivery
  | _ => none

/-- The status and the header that a call writes. -/
def HandlerCall.response? : HandlerCall → Option (Nat × ResponseHeader)
  | .writeHeader status header => some (status, header)
  | _ => none

/-- The body that a call writes. -/
def HandlerCall.body? : HandlerCall → Option (List Char)
  | .write body => some body
  | _ => none

/-- `metricKey`. -/
@[ext] structure MetricKey where
  route : RequestRoute
  result : RequestResult
deriving DecidableEq

/-- The counter that a call increases. -/
def HandlerCall.counted? : HandlerCall → Option MetricKey
  | .increment route result => some ⟨route, result⟩
  | _ => none

/-- The line that a call logs. -/
def HandlerCall.line? : HandlerCall → Option RequestLog
  | .info line => some line
  | _ => none

/-- What is observed of the calls of an execution. -/
def observe {β : Type} (f : HandlerCall → Option β) (trace : List (Sigma HandlerCall.Answer)) :
    List β :=
  trace.filterMap fun exchange => f exchange.1

/-- **One response, one counter and one line of the log**, which agree with each other, with
what the sink has answered and with the event that the request carries. -/
structure Reported (h : HttpHandler) (r : HttpRequest) (trace : List (Sigma HandlerCall.Answer))
    (route : RequestRoute) (result : RequestResult) (eventType : Option EventType)
    (header : ResponseHeader) (body : List Char) : Prop where
  response : observe HandlerCall.response? trace = [(result.status, header)]
  written : observe HandlerCall.body? trace = [body]
  counted : observe HandlerCall.counted? trace = [⟨route, result⟩]
  line : observe HandlerCall.line? trace = [⟨route, result, result.status, eventType⟩]
  accepted : result = .accepted ↔
    ∃ d a, ⟨HandlerCall.enqueue d, .ok a⟩ ∈ trace ∧ a.receiptID ≠ []
  unavailable : result = .unavailable ↔
    ∃ d, ⟨HandlerCall.enqueue d, .error .errSinkUnavailable⟩ ∈ trace
  retryAfter : ("Retry-After", "30") ∈ header ↔ result = .unavailable
  kind : ∀ kind, eventType = some kind ↔
    ∃ d value, Admissible h r d ∧ d.event = .value value ∧ value.kind = kind
  receipt : ∀ d a, ⟨HandlerCall.enqueue d, .ok a⟩ ∈ trace → a.receiptID ≠ [] →
    ReadsReceipt body a
  problem : result ≠ .ok → result ≠ .accepted → Json.read body = some (problemJson result)

section
variable {h : HttpHandler} {r : HttpRequest}
variable {d : Delivery} {answer : Except SinkError SinkAcceptance} {eventType : Option EventType}
  {trace : List (Sigma HandlerCall.Answer)}

theorem Admissible.kind_eq_some (hd : Admissible h r d) (kind : EventType) :
    d.event.deref.map EventValue.kind = some kind ↔
      ∃ d value, Admissible h r d ∧ d.event = .value value ∧ value.kind = kind := by
  obtain ⟨-, -, -, value, -, -, -, -, hvalue⟩ := hd.event
  constructor
  · intro hkind
    rw [hvalue] at hkind
    exact ⟨d, value, hd, hvalue, Option.some.inj hkind⟩
  · rintro ⟨d', value', hd', hvalue', rfl⟩
    rw [hd.unique hd', hvalue']
    rfl

variable {header : ResponseHeader} {result : RequestResult} {route : RequestRoute}

/-- Whether the sink was called, and with what answer, is not affected by the response. -/
theorem mem_append_reply {calls : List (Sigma HandlerCall.Answer)} {body : List Char} :
    ⟨HandlerCall.enqueue d, answer⟩ ∈ calls ++ reply header body route result eventType ↔
      ⟨HandlerCall.enqueue d, answer⟩ ∈ calls := by
  simp [reply]

theorem Reported.of_reply (calls : List (Sigma HandlerCall.Answer)) {body : List Char}
    (hcalls : ∀ exchange ∈ calls, ∃ d answer, exchange = ⟨.enqueue d, answer⟩)
    (haccepted : result = .accepted ↔
      ∃ d a, ⟨HandlerCall.enqueue d, .ok a⟩ ∈ calls ∧ a.receiptID ≠ [])
    (hunavailable : result = .unavailable ↔
      ∃ d, ⟨HandlerCall.enqueue d, .error .errSinkUnavailable⟩ ∈ calls)
    (hretry : ("Retry-After", "30") ∈ header ↔ result = .unavailable)
    (hkind : ∀ kind, eventType = some kind ↔
      ∃ d value, Admissible h r d ∧ d.event = .value value ∧ value.kind = kind)
    (hreceipt : ∀ d a, ⟨HandlerCall.enqueue d, .ok a⟩ ∈ calls → a.receiptID ≠ [] →
      ReadsReceipt body a)
    (hproblem : result ≠ .ok → result ≠ .accepted → Json.read body = some (problemJson result)) :
    Reported h r (calls ++ reply header body route result eventType) route result eventType header
      body := by
  have hnone : ∀ {β : Type} (f : HandlerCall → Option β), (∀ d, f (.enqueue d) = none) →
      observe f calls = [] := by
    intro β f hf
    refine List.filterMap_eq_nil_iff.mpr fun exchange hexchange => ?_
    obtain ⟨d, answer, rfl⟩ := hcalls exchange hexchange
    exact hf d
  have hsplit : ∀ {β : Type} (f : HandlerCall → Option β), (∀ d, f (.enqueue d) = none) →
      observe f (calls ++ reply header body route result eventType) =
        observe f (reply header body route result eventType) := by
    intro β f hf
    have hempty := hnone f hf
    unfold observe at hempty ⊢
    rw [List.filterMap_append, hempty, List.nil_append]
  refine ⟨hsplit _ fun _ => rfl, hsplit _ fun _ => rfl, hsplit _ fun _ => rfl,
    hsplit _ fun _ => rfl, ?_, ?_, hretry, hkind, ?_, hproblem⟩
  · simpa only [mem_append_reply] using haccepted
  · simpa only [mem_append_reply] using hunavailable
  · simpa only [mem_append_reply] using hreceipt

theorem enqueue_notMem_sinkReply {answer' : Except SinkError SinkAcceptance} :
    ⟨HandlerCall.enqueue d, answer⟩ ∉ sinkReply eventType answer' := by
  unfold sinkReply
  split
  · simp [problemReply, reply]
  · simp [problemReply, reply]
  · split <;> simp [problemReply, reply]

/-- The sink is called before anything else. -/
theorem Served.enqueue_first {exchange : Sigma HandlerCall.Answer}
    (hs : Served h r (exchange :: trace))
    (hmem : ⟨HandlerCall.enqueue d, answer⟩ ∈ exchange :: trace) :
    exchange = ⟨.enqueue d, answer⟩ := by
  generalize htrace : exchange :: trace = whole at hs hmem
  cases hs with
  | refused | healthy | scraped | unconfigured => simp [problemReply, reply] at hmem
  | enqueued =>
    rcases List.mem_cons.mp hmem with hfirst | hrest
    · rw [hfirst]
      exact (List.cons.inj htrace).1
    · exact absurd hrest enqueue_notMem_sinkReply

theorem Served.reported (hs : Served h r trace) :
    ∃ route result eventType header body,
      Reported h r trace route result eventType header body := by
  have hnokind : (∀ d, ¬ Admissible h r d) → ∀ kind, (none : Option EventType) = some kind ↔
      ∃ d value, Admissible h r d ∧ d.event = .value value ∧ value.kind = kind := by
    intro hnone kind
    constructor
    · intro h
      cases h
    · rintro ⟨d, _, hd, _⟩
      exact absurd hd (hnone d)
  cases hs with
  | @refused route result hresult hnone =>
    refine ⟨_, _, _, _, _, Reported.of_reply [] (by simp) ?_ ?_ ?_ (hnokind hnone)
      (by simp) fun _ _ => read_problemText result⟩
    · cases result <;> simp_all [RequestResult.Rejection]
    · cases result <;> simp_all [RequestResult.Rejection]
    · cases route <;> cases result <;> simp_all [RequestResult.Rejection, rejectionHeader]
  | healthy hnone =>
    exact ⟨_, _, _, _, _, Reported.of_reply [] (by simp) (by simp) (by simp) (by simp)
      (hnokind hnone) (by simp) (by simp)⟩
  | scraped hnone =>
    exact ⟨.metrics, .ok, none, _, _, rfl, rfl, rfl, rfl, by simp, by simp, by simp,
      hnokind hnone, by simp, by simp⟩
  | @unconfigured d hsink hd =>
    exact ⟨_, _, _, _, _, Reported.of_reply [] (by simp) (by simp) (by simp) (by simp)
      hd.kind_eq_some (by simp) fun _ _ => read_problemText .internalError⟩
  | @enqueued d answer hsink hd =>
    have hcalls : ∀ exchange ∈ [⟨HandlerCall.enqueue d, answer⟩],
        ∃ d answer, exchange = (⟨.enqueue d, answer⟩ : Sigma HandlerCall.Answer) := by simp
    cases answer with
    | error err =>
      cases err with
      | errSinkUnavailable =>
        exact ⟨_, _, _, _, _, Reported.of_reply _ hcalls (by simp) (by simp) (by simp)
          hd.kind_eq_some (by simp) fun _ _ => read_problemText .unavailable⟩
      | other =>
        exact ⟨_, _, _, _, _, Reported.of_reply _ hcalls (by simp) (by simp) (by simp)
          hd.kind_eq_some (by simp) fun _ _ => read_problemText .internalError⟩
    | ok acceptance =>
      by_cases hreceipt : acceptance.receiptID = []
      · rw [sinkReply, if_pos hreceipt]
        exact ⟨_, _, _, _, _, Reported.of_reply _ hcalls (by simp [hreceipt]) (by simp) (by simp)
          hd.kind_eq_some (by simp [hreceipt]) fun _ _ => read_problemText .internalError⟩
      · rw [sinkReply, if_neg hreceipt]
        refine ⟨_, _, _, _, _, Reported.of_reply _ hcalls (by simp [hreceipt]) (by simp) (by simp)
          hd.kind_eq_some ?_ (by simp)⟩
        intro d' a ha _
        cases List.mem_singleton.mp ha
        exact readsReceipt_acceptedText acceptance

/-- **The sink is called for the requests that carry a delivery**, once and with it. -/
theorem delivery_iff_admissible {σ : Type} {step : σ → (c : HandlerCall) → c.Answer → σ → Prop}
    {s s' : σ} {trace : List (Sigma HandlerCall.Answer)}
    (ht : (h.serveHTTP r).Traces step s trace () s') :
    (observe HandlerCall.delivery? trace).length ≤ 1 ∧
      ∀ d, d ∈ observe HandlerCall.delivery? trace ↔ h.sink = true ∧ Admissible h r d := by
  have hreply : ∀ {header : ResponseHeader} {body : List Char} {route : RequestRoute}
      {result : RequestResult} {eventType : Option EventType},
      observe HandlerCall.delivery? (reply header body route result eventType) = [] := rfl
  have hsinkReply : ∀ (eventType : Option EventType) (answer : Except SinkError SinkAcceptance),
      observe HandlerCall.delivery? (sinkReply eventType answer) = [] := by
    intro eventType answer
    unfold sinkReply
    split
    · rfl
    · rfl
    · split <;> rfl
  cases serveHTTP_served ht with
  | refused _ hnone =>
    rw [problemReply, hreply]
    exact ⟨Nat.zero_le _, fun d => by simp [hnone d]⟩
  | healthy hnone =>
    rw [hreply]
    exact ⟨Nat.zero_le _, fun d => by simp [hnone d]⟩
  | scraped hnone =>
    exact ⟨Nat.zero_le _, fun d => by simp [observe, HandlerCall.delivery?, hnone d]⟩
  | unconfigured hsink =>
    rw [problemReply, hreply]
    exact ⟨Nat.zero_le _, fun d => by simp [hsink]⟩
  | @enqueued d answer hsink hd =>
    have hone : observe HandlerCall.delivery? (⟨.enqueue d, answer⟩ ::
        sinkReply (d.event.deref.map EventValue.kind) answer) = [d] :=
      congrArg (d :: ·) (hsinkReply _ answer)
    rw [hone]
    refine ⟨Nat.le_refl _, fun d' => ?_⟩
    rw [List.mem_singleton]
    constructor
    · rintro rfl
      exact ⟨hsink, hd⟩
    · exact fun h' => h'.2.unique hd

/-- A handler whose sink is there, and for which every type is JSON. -/
def sampleHandler : HttpHandler where
  sink := true
  parseMediaType _ := some (.ascii "application/json", ∅)
  order := sampleFieldOrder

/-- A test event, delivered under an identity. -/
def sampleWebhook : HttpRequest where
  method := .ascii "POST"
  path := .ascii "/v1/goalert/contact-method/token"
  rawQuery := []
  contentEncoding := []
  contentType := [.ascii "application/json"]
  idempotencyKey := [.ascii "6f9619ff-8b86-4d01-b42d-00cf4fc964ff"]
  contentLength := -1
  body := .chunk (.ascii "\x7b\"AppName\":\"A\",") (.eof (.ascii "\"Type\":\"Test\"\x7d"))

/-- The environment in which the sink takes whatever it is given. -/
def sampleHandlerAnswer (_ : Unit) : (c : HandlerCall) → c.Answer × Unit
  | .enqueue _ => (.ok ⟨.ascii "R", false⟩, ())
  | .render => ([], ())
  | .writeHeader _ _ | .write _ | .increment _ _ | .info _ => ((), ())

theorem evalTrace_sample {p : HandlerProg Unit}
    (hp : (Prog.evalTrace sampleHandlerAnswer p ()).2.1 = .ok ()) :
    p.Traces (fun _ _ _ _ => True) () (Prog.evalTrace sampleHandlerAnswer p ()).1 () () :=
  Prog.evalTrace_traces (fun _ _ => trivial) hp

/-- The calls that are made for the request. -/
def sampleWebhookCalls : List (Sigma HandlerCall.Answer) :=
  (Prog.evalTrace sampleHandlerAnswer (sampleHandler.serveHTTP sampleWebhook) ()).1

theorem sampleWebhook_traces :
    (sampleHandler.serveHTTP sampleWebhook).Traces (fun _ _ _ _ => True) () sampleWebhookCalls
      () () :=
  evalTrace_sample (by decide +kernel)

theorem delivery_iff_admissible_sample :
    (observe HandlerCall.delivery? sampleWebhookCalls).length = 1 ∧
      ∃ d, Admissible sampleHandler sampleWebhook d := by
  have hone : (observe HandlerCall.delivery? sampleWebhookCalls).length = 1 := by decide +kernel
  obtain ⟨d, hd⟩ := List.length_eq_one_iff.mp hone
  have hiff := (delivery_iff_admissible sampleWebhook_traces).2 d
  have hmem : d ∈ observe HandlerCall.delivery? sampleWebhookCalls := by
    rw [hd]
    exact List.mem_singleton_self d
  exact ⟨hone, d, (hiff.mp hmem).2⟩

end

end OncallGateway
