import Mathlib.Algebra.Order.Ring.Int
import OncallGateway.EventGrammar
import OncallGateway.Lib.Layers

/-! # The HTTP handler

`ServeHTTP` with the routes it serves.  A request is what the handler reads of it, its body
the reads that `io.ReadAll` makes of it; the sink, the response writer, the counters and the
logger are called.  Of an error of the sink only matters whether `errors.Is` finds
`ErrSinkUnavailable` in it.  `mime.ParseMediaType` is a parameter.

`Admissible` says which requests carry a delivery, and which one, without the order in which
the handler checks it; `examine_eq_ok` compares the two.
-/

namespace OncallGateway

/-! ## Requests -/

/-- A body: what each read gives, and how the reads end.  The last bytes may come together
with the end or with the failure. -/
inductive RequestBody where
  | chunk (data : ByteString) (rest : RequestBody)
  | eof (data : ByteString)
  | failed (data : ByteString)

/-- `io.ReadAll` of a body behind an `io.LimitReader`; nothing is read once the limit is
used up, so a failure behind it is not seen. -/
def RequestBody.readAll : Nat → RequestBody → Option ByteString
  | limit, .chunk data rest =>
    if limit ≤ data.length then some (data.take limit)
    else (readAll (limit - data.length) rest).map (data ++ ·)
  | limit, .eof data => some (data.take limit)
  | limit, .failed data =>
    if limit = 0 ∨ limit < data.length then some (data.take limit) else none

/-- What the handler reads of an `http.Request`. -/
structure HttpRequest where
  method : ByteString
  path : ByteString
  rawQuery : ByteString
  contentEncoding : List ByteString
  contentType : List ByteString
  idempotencyKey : List ByteString
  contentLength : Int64
  body : RequestBody

/-- `Delivery`. -/
structure Delivery where
  token : ByteString
  identity : ByteString
  event : Event
deriving DecidableEq

/-- `Acceptance`, of a sink. -/
structure SinkAcceptance where
  receiptID : ByteString
  duplicate : Bool
deriving DecidableEq

/-- An error of a sink: `errors.Is` finds `ErrSinkUnavailable` in it, or it does not. -/
inductive SinkError where
  | errSinkUnavailable
  | other
deriving DecidableEq

/-- `UnavailableSink.Enqueue`. -/
def unavailableSinkEnqueue (_ : Delivery) : Except SinkError SinkAcceptance :=
  .error .errSinkUnavailable

/-- `MaxBodyBytes`. -/
def maxBodyBytes : Nat := 262144

/-- `webhookPathPrefix`. -/
def webhookPathPrefix : ByteString := .ascii "/v1/goalert/contact-method/"

/-- `webhookToken`. -/
def webhookToken (path : ByteString) : Option ByteString :=
  if webhookPathPrefix.isPrefixOf path then
    let token := path.drop webhookPathPrefix.length
    if token = [] ∨ 47 ∈ token then none else some token
  else none

/-- The ASCII letter that a character folds to; besides the capitals, the long s and the
Kelvin sign do. -/
def foldChar (c : Char) : Char :=
  if c = 'ſ' then 's' else if c = 'K' then 'k' else c.toLower

/-- `strings.EqualFold` with an ASCII text. -/
def equalFold (value : ByteString) (text : String) : Bool :=
  match utf8Decode? value with
  | none => false
  | some chars => decide (chars.map foldChar = text.toList.map foldChar)

/-- `validContentEncoding`. -/
def validContentEncoding : List ByteString → Bool
  | [] => true
  | [value] => equalFold value "identity"
  | _ => false

/-- A media type and its parameters. -/
abbrev MediaType := ByteString × EntryMap ByteString ByteString

/-- `validContentType`. -/
def validContentType (parseMediaType : ByteString → Option MediaType) :
    List ByteString → Bool
  | [value] =>
    match parseMediaType value with
    | none => false
    | some (mediaType, params) =>
      if equalFold mediaType "application/json" = false then false
      else if params.size = 0 then true
      else
        match params[ByteString.ascii "charset"]? with
        | none => false
        | some charset => decide (params.size = 1) && equalFold charset "utf-8"
  | _ => false

/-! ## Calls -/

/-- A route, as the counters and the logger name it. -/
inductive RequestRoute where
  | notFound | health | metrics | webhook
deriving DecidableEq

def RequestRoute.text : RequestRoute → String
  | .notFound => "not_found"
  | .health => "health"
  | .metrics => "metrics"
  | .webhook => "webhook"

/-- A result, as the counters, the logger and the problems name it. -/
inductive RequestResult where
  | ok | notFound | methodNotAllowed | invalidRequest | unsupportedMediaType | requestTooLarge
  | unsupportedEventType | internalError | unavailable | accepted
deriving DecidableEq

def RequestResult.text : RequestResult → String
  | .ok => "ok"
  | .notFound => "not_found"
  | .methodNotAllowed => "method_not_allowed"
  | .invalidRequest => "invalid_request"
  | .unsupportedMediaType => "unsupported_media_type"
  | .requestTooLarge => "request_too_large"
  | .unsupportedEventType => "unsupported_event_type"
  | .internalError => "internal_error"
  | .unavailable => "unavailable"
  | .accepted => "accepted"

/-- The attributes of a line of the log; `event_type` is left out when it is empty. -/
structure RequestLog where
  route : RequestRoute
  result : RequestResult
  status : Nat
  eventType : Option EventType
deriving DecidableEq

/-- The fields that are set in the header of a response. -/
abbrev ResponseHeader := List (String × String)

/-- What the handler calls. -/
inductive HandlerCall where
  | enqueue (delivery : Delivery)
  | writeHeader (status : Nat) (header : ResponseHeader)
  | write (body : List Char)
  | increment (route : RequestRoute) (result : RequestResult)
  | render
  | info (line : RequestLog)
deriving DecidableEq

/-- What each call answers. -/
abbrev HandlerCall.Answer : HandlerCall → Type
  | .enqueue _ => Except SinkError SinkAcceptance
  | .render => List Char
  | .writeHeader _ _ | .write _ | .increment _ _ | .info _ => Unit

abbrev HandlerProg := Prog HandlerCall HandlerCall.Answer

/-- `Handler`: whether it has a sink, how `mime.ParseMediaType` reads, and the order in which
the decoder's loop visits a map. -/
structure HttpHandler where
  sink : Bool
  parseMediaType : ByteString → Option MediaType
  order : RangeOrder (List Char) Json

/-! ## The handler -/

/-- `json.NewEncoder(w).Encode` of a struct, with the texts of its fields. -/
def encodeStruct (fields : List (String × List Char)) : List Char :=
  Json.objectText (fields.map fun field => (field.1.toList, field.2)) ++ ['\n']

/-- What `problem` writes. -/
def problemText (result : RequestResult) (status : Nat) : List Char :=
  encodeStruct [("type", Json.quoted "about:blank".toList),
    ("title", Json.quoted "Request rejected".toList), ("status", Json.intText status),
    ("code", Json.quoted result.text.toList)]

/-- The rune at the beginning of a byte string, and what follows it. -/
def firstRune (l : ByteString) : Option (Char × ByteString) :=
  [1, 2, 3, 4].findSome? fun n =>
    match utf8Decode? (l.take n) with
    | some [c] => some (c, l.drop n)
    | _ => none

/-- A string as `encoding/json` writes it: the escapes are those of `appendCanonicalString`,
and a byte that is part of no rune is written as the replacement character.  `fuel` is the
number of the bytes. -/
def encodeRunes : Nat → ByteString → List Char
  | 0, _ | _, [] => []
  | fuel + 1, b :: l =>
    match firstRune (b :: l) with
    | some (c, rest) => canonicalChar c ++ encodeRunes fuel rest
    | none => "\\ufffd".toList ++ encodeRunes fuel l

/-- What is written for a delivery that was accepted. -/
def acceptedText (acceptance : SinkAcceptance) : List Char :=
  encodeStruct [
    ("receipt_id", Json.quoted (encodeRunes acceptance.receiptID.length acceptance.receiptID)),
    ("status", Json.quoted "accepted".toList),
    ("duplicate", if acceptance.duplicate then "true".toList else "false".toList)]

namespace HttpHandler

/-- `record`. -/
def record (route : RequestRoute) (result : RequestResult) (status : Nat)
    (eventType : Option EventType) : HandlerProg Unit := do
  Prog.request (HandlerCall.increment route result)
  Prog.request (HandlerCall.info ⟨route, result, status, eventType⟩)

/-- `problem`, with the fields of the header that are already set. -/
def problem (header : ResponseHeader) (route : RequestRoute) (result : RequestResult)
    (status : Nat) (eventType : Option EventType) : HandlerProg Unit := do
  Prog.request
    (HandlerCall.writeHeader status (header ++ [("Content-Type", "application/problem+json")]))
  Prog.request (HandlerCall.write (problemText result status))
  record route result status eventType

/-- `handleHealth`. -/
def handleHealth (r : HttpRequest) : HandlerProg Unit :=
  if r.method ≠ .ascii "GET" then
    problem [("Allow", "GET")] .health .methodNotAllowed 405 none
  else do
    Prog.request (HandlerCall.writeHeader 200 [("Content-Type", "text/plain; charset=utf-8")])
    Prog.request (HandlerCall.write "ok\n".toList)
    record .health .ok 200 none

/-- `handleMetrics`. -/
def handleMetrics (r : HttpRequest) : HandlerProg Unit :=
  if r.method ≠ .ascii "GET" then
    problem [("Allow", "GET")] .metrics .methodNotAllowed 405 none
  else do
    record .metrics .ok 200 none
    Prog.request
      (HandlerCall.writeHeader 200 [("Content-Type", "text/plain; version=0.0.4; charset=utf-8")])
    let text ← Prog.request HandlerCall.render
    Prog.request (HandlerCall.write text)

/-- `handleWebhook` once the event is decoded. -/
def handleDelivery (h : HttpHandler) (delivery : Delivery) : HandlerProg Unit := do
  let eventType := delivery.event.deref.map EventValue.kind
  if h.sink = false then
    problem [] .webhook .internalError 500 eventType
  else
    match ← Prog.request (HandlerCall.enqueue delivery) with
    | .error .errSinkUnavailable =>
      problem [("Retry-After", "30")] .webhook .unavailable 503 eventType
    | .error .other => problem [] .webhook .internalError 500 eventType
    | .ok acceptance =>
      if acceptance.receiptID = [] then
        problem [] .webhook .internalError 500 eventType
      else
        Prog.request (HandlerCall.writeHeader 202 [("Content-Type", "application/json")])
        Prog.request (HandlerCall.write (acceptedText acceptance))
        record .webhook .accepted 202 eventType

/-- `handleWebhook`. -/
def handleWebhook (h : HttpHandler) (r : HttpRequest) (token : ByteString) : HandlerProg Unit :=
  if r.method ≠ .ascii "POST" then
    problem [("Allow", "POST")] .webhook .methodNotAllowed 405 none
  else if r.rawQuery ≠ [] then
    problem [] .webhook .invalidRequest 400 none
  else if validContentEncoding r.contentEncoding = false ∨
      validContentType h.parseMediaType r.contentType = false then
    problem [] .webhook .unsupportedMediaType 415 none
  else
    match r.idempotencyKey with
    | [identity] =>
      if validCanonicalUUID identity = false then
        problem [] .webhook .invalidRequest 400 none
      else if maxBodyBytes < r.contentLength.toInt then
        problem [] .webhook .requestTooLarge 413 none
      else
        match r.body.readAll (maxBodyBytes + 1) with
        | none => problem [] .webhook .invalidRequest 400 none
        | some body =>
          if maxBodyBytes < body.length then
            problem [] .webhook .requestTooLarge 413 none
          else
            match decodeEvent h.order body with
            | .error .errUnsupportedEvent =>
              problem [] .webhook .unsupportedEventType 422 none
            | .error .errInvalidEvent => problem [] .webhook .invalidRequest 400 none
            | .ok event => h.handleDelivery ⟨token, identity, event⟩
    | _ => problem [] .webhook .invalidRequest 400 none

/-- `ServeHTTP`. -/
def serveHTTP (h : HttpHandler) (r : HttpRequest) : HandlerProg Unit :=
  if r.path = .ascii "/healthz" then handleHealth r
  else if r.path = .ascii "/metrics" then handleMetrics r
  else
    match webhookToken r.path with
    | none => problem [] .notFound .notFound 404 none
    | some token => h.handleWebhook r token

end HttpHandler

/-! ## What a request carries -/

/-- The reads give these bytes and end without a failure. -/
inductive RequestBody.Delivers : RequestBody → ByteString → Prop
  | eof {data : ByteString} : Delivers (.eof data) data
  | chunk {data rest : ByteString} {body : RequestBody} :
      Delivers body rest → Delivers (.chunk data body) (data ++ rest)

/-- One value, a JSON media type, with at most the parameter that names UTF-8. -/
def JsonContent (parseMediaType : ByteString → Option MediaType) (values : List ByteString) :
    Prop :=
  ∃ value mediaType params, values = [value] ∧ parseMediaType value = some (mediaType, params) ∧
    equalFold mediaType "application/json" = true ∧
    (params.toList = [] ∨ ∃ charset, params.toList = [(.ascii "charset", charset)] ∧
      equalFold charset "utf-8" = true)

/-- **The request carries the delivery.** -/
structure Admissible (h : HttpHandler) (r : HttpRequest) (delivery : Delivery) : Prop where
  method : r.method = .ascii "POST"
  path : r.path = webhookPathPrefix ++ delivery.token
  token : delivery.token ≠ [] ∧ 47 ∉ delivery.token
  query : r.rawQuery = []
  encoding : r.contentEncoding = [] ∨
    ∃ value, r.contentEncoding = [value] ∧ equalFold value "identity" = true
  content : JsonContent h.parseMediaType r.contentType
  identity : r.idempotencyKey = [delivery.identity] ∧
    ∃ id : UUID, delivery.identity = formatUUID id
  length : r.contentLength.toInt ≤ maxBodyBytes
  event : ∃ data depth members value, r.body.Delivers data ∧ data.length ≤ maxBodyBytes ∧
    Document depth data members ∧ Describes members value ∧ delivery.event = .value value

theorem RequestBody.readAll_eq_some {limit : Nat} {body : RequestBody} {data : ByteString}
    (hlimit : data.length < limit) : body.readAll limit = some data ↔ body.Delivers data := by
  induction body generalizing limit data with
  | eof data' =>
    rw [readAll, Option.some.injEq]
    constructor
    · intro h
      have hlength := congrArg List.length h
      rw [List.length_take] at hlength
      rw [List.take_of_length_le (by omega)] at h
      exact h ▸ .eof
    · rintro ⟨⟩
      exact List.take_of_length_le (by omega)
  | failed data' =>
    constructor
    · intro h
      rw [readAll] at h
      split at h
      · -- the limit would be reached by what was read
        have hlength := congrArg List.length (Option.some.inj h)
        rw [List.length_take] at hlength
        omega
      · cases h
    · intro h
      cases h
  | chunk data' rest ih =>
    rw [readAll]
    constructor
    · intro h
      split at h
      · have hlength := congrArg List.length (Option.some.inj h)
        rw [List.length_take] at hlength
        omega
      · obtain ⟨data'', hrest, rfl⟩ := Option.map_eq_some_iff.mp h
        rw [List.length_append] at hlimit
        exact .chunk ((ih (by omega)).mp hrest)
    · rintro (_ | ⟨hrest⟩)
      rw [List.length_append] at hlimit
      rw [if_neg (by omega), (ih (by omega)).mpr hrest]
      rfl

theorem webhookToken_eq_some {path token : ByteString} :
    webhookToken path = some token ↔
      path = webhookPathPrefix ++ token ∧ token ≠ [] ∧ 47 ∉ token := by
  unfold webhookToken
  constructor
  · intro h
    split at h
    · rename_i hprefix
      obtain ⟨rest, rfl⟩ := List.isPrefixOf_iff_prefix.mp hprefix
      simp only [List.drop_left] at h
      split at h
      · cases h
      · rename_i htoken
        cases h
        exact ⟨rfl, not_or.mp htoken⟩
    · cases h
  · rintro ⟨rfl, htoken⟩
    rw [if_pos (List.isPrefixOf_iff_prefix.mpr (List.prefix_append _ _))]
    simp only [List.drop_left]
    exact if_neg (not_or.mpr htoken)

variable {values : List ByteString}

theorem validContentEncoding_eq_true :
    validContentEncoding values = true ↔
      values = [] ∨ ∃ value, values = [value] ∧ equalFold value "identity" = true := by
  rcases values with _ | ⟨value, _ | ⟨_, _⟩⟩ <;> simp [validContentEncoding]

theorem toList_eq_singleton {params : EntryMap ByteString ByteString} {key value : ByteString} :
    params.toList = [(key, value)] ↔ params.size = 1 ∧ params[key]? = some value := by
  rw [← Std.ExtTreeMap.length_toList, ← Std.ExtTreeMap.mem_toList_iff_getElem?_eq_some]
  constructor
  · intro h
    rw [h]
    exact ⟨rfl, List.mem_singleton_self _⟩
  · rintro ⟨hlength, hmem⟩
    obtain ⟨entry, hentry⟩ := List.length_eq_one_iff.mp hlength
    rw [hentry, List.mem_singleton] at hmem
    rw [hentry, hmem]

theorem validContentType_eq_true {parseMediaType : ByteString → Option MediaType} :
    validContentType parseMediaType values = true ↔ JsonContent parseMediaType values := by
  constructor
  · intro h
    unfold validContentType at h
    split at h
    · rename_i value
      split at h
      · cases h
      · rename_i mediaType params hparse
        split at h
        · cases h
        · rename_i htype
          refine ⟨value, mediaType, params, rfl, hparse, by simpa using htype, ?_⟩
          split at h
          · rename_i hsize
            exact .inl (List.length_eq_zero_iff.mp (Std.ExtTreeMap.length_toList.trans hsize))
          · split at h
            · cases h
            · rename_i charset hcharset
              rw [Bool.and_eq_true, decide_eq_true_eq] at h
              exact .inr ⟨charset, toList_eq_singleton.mpr ⟨h.1, hcharset⟩, h.2⟩
    · cases h
  · rintro ⟨value, mediaType, params, rfl, hparse, htype, hparams⟩
    simp only [validContentType, hparse, htype]
    rcases hparams with hnone | ⟨charset, hone, hcharset⟩
    · have hsize : params.size = 0 := by rw [← Std.ExtTreeMap.length_toList, hnone]; rfl
      simp [hsize]
    · obtain ⟨hsize, hget⟩ := toList_eq_singleton.mp hone
      simp [hsize, hget, hcharset]

theorem admissible_iff {h : HttpHandler} {r : HttpRequest} {delivery : Delivery} :
    Admissible h r delivery ↔
      r.method = .ascii "POST" ∧ webhookToken r.path = some delivery.token ∧ r.rawQuery = [] ∧
      validContentEncoding r.contentEncoding = true ∧
      validContentType h.parseMediaType r.contentType = true ∧
      r.idempotencyKey = [delivery.identity] ∧ validCanonicalUUID delivery.identity = true ∧
      r.contentLength.toInt ≤ maxBodyBytes ∧
      ∃ data, r.body.readAll (maxBodyBytes + 1) = some data ∧ data.length ≤ maxBodyBytes ∧
        decodeEvent h.order data = .ok delivery.event := by
  rw [webhookToken_eq_some, validContentEncoding_eq_true, validContentType_eq_true,
    validCanonicalUUID_eq_true]
  simp only [decodeEvent_eq_ok]
  constructor
  · rintro ⟨hmethod, hpath, htoken, hquery, hencoding, hcontent, ⟨hkey, hid⟩, hlength, data, depth,
      members, value, hbody, hdata, hevent⟩
    exact ⟨hmethod, ⟨hpath, htoken⟩, hquery, hencoding, hcontent, hkey, hid, hlength, data,
      (RequestBody.readAll_eq_some (Nat.lt_succ_of_le hdata)).mpr hbody, hdata, depth, members,
      value, hevent⟩
  · rintro ⟨hmethod, ⟨hpath, htoken⟩, hquery, hencoding, hcontent, hkey, hid, hlength, data,
      hbody, hdata, depth, members, value, hevent⟩
    exact ⟨hmethod, hpath, htoken, hquery, hencoding, hcontent, ⟨hkey, hid⟩, hlength, data, depth,
      members, value, (RequestBody.readAll_eq_some (Nat.lt_succ_of_le hdata)).mp hbody, hdata,
      hevent⟩

/-- A request carries at most one delivery. -/
theorem Admissible.unique {h : HttpHandler} {r : HttpRequest} {d d' : Delivery}
    (hd : Admissible h r d) (hd' : Admissible h r d') : d = d' := by
  obtain ⟨-, htoken, -, -, -, hkey, -, -, data, hbody, -, hevent⟩ := admissible_iff.mp hd
  obtain ⟨-, htoken', -, -, -, hkey', -, -, data', hbody', -, hevent'⟩ := admissible_iff.mp hd'
  rw [hbody, Option.some.injEq] at hbody'
  rw [htoken, Option.some.injEq] at htoken'
  rw [hkey, List.cons.injEq] at hkey'
  rw [← hbody', hevent, Except.ok.injEq] at hevent'
  cases d
  cases d'
  simp_all

/-! ## The course of a request -/

/-- The status that belongs to a result. -/
def RequestResult.status : RequestResult → Nat
  | .ok => 200
  | .accepted => 202
  | .invalidRequest => 400
  | .notFound => 404
  | .methodNotAllowed => 405
  | .requestTooLarge => 413
  | .unsupportedMediaType => 415
  | .unsupportedEventType => 422
  | .internalError => 500
  | .unavailable => 503

/-- The results of a request that carries no delivery. -/
def RequestResult.Rejection (result : RequestResult) : Prop :=
  result ∉ [.ok, .accepted, .internalError, .unavailable]

instance (result : RequestResult) : Decidable result.Rejection :=
  inferInstanceAs (Decidable (_ ∉ _))

/-- The header of a request that carries no delivery, beside its content type. -/
def rejectionHeader : RequestRoute → RequestResult → ResponseHeader
  | .webhook, .methodNotAllowed => [("Allow", "POST")]
  | _, .methodNotAllowed => [("Allow", "GET")]
  | _, _ => []

namespace HttpHandler
variable (h : HttpHandler) (r : HttpRequest)

/-- The program refuses the request, which carries nothing. -/
def Refuses (p : HandlerProg Unit) : Prop :=
  ∃ route result, result.Rejection ∧ (∀ d, ¬ Admissible h r d) ∧
    p = problem (rejectionHeader route result) route result result.status none

theorem handleWebhook_cases {token : ByteString} (htoken : webhookToken r.path = some token) :
    h.Refuses r (h.handleWebhook r token) ∨
      ∃ d, Admissible h r d ∧ h.handleWebhook r token = h.handleDelivery d := by
  unfold handleWebhook
  split
  · rename_i hmethod
    exact .inl ⟨.webhook, .methodNotAllowed, by decide, fun d hd => hmethod hd.method, rfl⟩
  split
  · rename_i hquery
    exact .inl ⟨.webhook, .invalidRequest, by decide, fun d hd => hquery hd.query, rfl⟩
  split
  · rename_i hmedia
    refine .inl ⟨.webhook, .unsupportedMediaType, by decide, fun d hd => ?_, rfl⟩
    obtain ⟨-, -, -, hencoding, hcontent, -⟩ := admissible_iff.mp hd
    simp [hencoding, hcontent] at hmedia
  rename_i hmethod hquery hmedia
  split
  · rename_i identity hkey
    split
    · rename_i hid
      refine .inl ⟨.webhook, .invalidRequest, by decide, fun d hd => ?_, rfl⟩
      obtain ⟨-, -, -, -, -, hkey', hid', -⟩ := admissible_iff.mp hd
      rw [hkey, List.cons.injEq] at hkey'
      rw [hkey'.1, hid'] at hid
      cases hid
    split
    · rename_i hlength
      exact .inl ⟨.webhook, .requestTooLarge, by decide, fun d hd => absurd hd.length (by omega),
        rfl⟩
    rename_i hid hlength
    split
    · rename_i hbody
      refine .inl ⟨.webhook, .invalidRequest, by decide, fun d hd => ?_, rfl⟩
      obtain ⟨-, -, -, -, -, -, -, -, data, hbody', -⟩ := admissible_iff.mp hd
      rw [hbody] at hbody'
      cases hbody'
    · rename_i body hbody
      have hread : ∀ d, Admissible h r d →
          body.length ≤ maxBodyBytes ∧ decodeEvent h.order body = .ok d.event := by
        intro d hd
        obtain ⟨-, -, -, -, -, -, -, -, data, hbody', hdata⟩ := admissible_iff.mp hd
        rw [hbody, Option.some.injEq] at hbody'
        exact hbody' ▸ hdata
      split
      · rename_i hlarge
        exact .inl ⟨.webhook, .requestTooLarge, by decide,
          fun d hd => absurd (hread d hd).1 (by omega), rfl⟩
      rename_i hsmall
      split
      · rename_i hevent
        refine .inl ⟨.webhook, .unsupportedEventType, by decide, fun d hd => ?_, rfl⟩
        cases hevent.symm.trans (hread d hd).2
      · rename_i hevent
        refine .inl ⟨.webhook, .invalidRequest, by decide, fun d hd => ?_, rfl⟩
        cases hevent.symm.trans (hread d hd).2
      · rename_i event hevent
        refine .inr ⟨⟨token, identity, event⟩, admissible_iff.mpr ?_, rfl⟩
        simp only [not_or, Bool.not_eq_false] at hmedia
        exact ⟨not_not.mp hmethod, htoken, not_not.mp hquery, hmedia.1, hmedia.2, hkey,
          by simpa using hid, by omega, body, hbody, by omega, hevent⟩
  · rename_i hkey
    refine .inl ⟨.webhook, .invalidRequest, by decide, fun d hd => ?_, rfl⟩
    exact hkey _ hd.identity.1

/-- A request for a page of the handler's own carries nothing. -/
theorem not_admissible_of_path {path : ByteString} (hpath : r.path = path)
    (hother : webhookToken path = none) (d : Delivery) : ¬ Admissible h r d := by
  intro hd
  obtain ⟨-, htoken, -⟩ := admissible_iff.mp hd
  rw [hpath, hother] at htoken
  cases htoken

theorem serveHTTP_cases :
    h.Refuses r (h.serveHTTP r) ∨
      (∀ d, ¬ Admissible h r d) ∧ r.method = .ascii "GET" ∧
        (h.serveHTTP r = handleHealth r ∨ h.serveHTTP r = handleMetrics r) ∨
      ∃ d, Admissible h r d ∧ h.serveHTTP r = h.handleDelivery d := by
  unfold serveHTTP
  split
  · rename_i hpath
    have hnone := h.not_admissible_of_path r hpath (by decide)
    by_cases hmethod : r.method = .ascii "GET"
    · exact .inr (.inl ⟨hnone, hmethod, .inl rfl⟩)
    · exact .inl ⟨.health, .methodNotAllowed, by decide, hnone, if_pos hmethod⟩
  split
  · rename_i hpath
    have hnone := h.not_admissible_of_path r hpath (by decide)
    by_cases hmethod : r.method = .ascii "GET"
    · exact .inr (.inl ⟨hnone, hmethod, .inr rfl⟩)
    · exact .inl ⟨.metrics, .methodNotAllowed, by decide, hnone, if_pos hmethod⟩
  split
  · rename_i hpath
    exact .inl ⟨.notFound, .notFound, by decide, h.not_admissible_of_path r rfl hpath, rfl⟩
  · rename_i token htoken
    rcases h.handleWebhook_cases r htoken with hrefused | hdelivery
    · exact .inl hrefused
    · exact .inr (.inr hdelivery)

end HttpHandler

/-- A response that is written, counted and logged. -/
def reply (header : ResponseHeader) (body : List Char) (route : RequestRoute)
    (result : RequestResult) (eventType : Option EventType) :
    List (Sigma HandlerCall.Answer) :=
  [⟨.writeHeader result.status header, ()⟩, ⟨.write body, ()⟩, ⟨.increment route result, ()⟩,
    ⟨.info ⟨route, result, result.status, eventType⟩, ()⟩]

/-- The response that reports a problem. -/
def problemReply (header : ResponseHeader) (route : RequestRoute) (result : RequestResult)
    (eventType : Option EventType) : List (Sigma HandlerCall.Answer) :=
  reply (header ++ [("Content-Type", "application/problem+json")])
    (problemText result result.status) route result eventType

/-- The response to what the sink answered. -/
def sinkReply (eventType : Option EventType) :
    Except SinkError SinkAcceptance → List (Sigma HandlerCall.Answer)
  | .error .errSinkUnavailable =>
    problemReply [("Retry-After", "30")] .webhook .unavailable eventType
  | .error .other => problemReply [] .webhook .internalError eventType
  | .ok acceptance =>
    if acceptance.receiptID = [] then problemReply [] .webhook .internalError eventType
    else reply [("Content-Type", "application/json")] (acceptedText acceptance) .webhook .accepted
      eventType

/-- **The course of a request**: every call that is made for it, in order. -/
inductive Served (h : HttpHandler) (r : HttpRequest) : List (Sigma HandlerCall.Answer) → Prop
  | refused {route : RequestRoute} {result : RequestResult} :
      result.Rejection → (∀ d, ¬ Admissible h r d) →
      Served h r (problemReply (rejectionHeader route result) route result none)
  | healthy : (∀ d, ¬ Admissible h r d) →
      Served h r (reply [("Content-Type", "text/plain; charset=utf-8")] "ok\n".toList .health .ok
        none)
  | scraped {text : List Char} : (∀ d, ¬ Admissible h r d) →
      Served h r [⟨.increment .metrics .ok, ()⟩, ⟨.info ⟨.metrics, .ok, 200, none⟩, ()⟩,
        ⟨.writeHeader 200 [("Content-Type", "text/plain; version=0.0.4; charset=utf-8")], ()⟩,
        ⟨.render, text⟩, ⟨.write text, ()⟩]
  | unconfigured {d : Delivery} : h.sink = false → Admissible h r d →
      Served h r (problemReply [] .webhook .internalError (d.event.deref.map EventValue.kind))
  | enqueued {d : Delivery} {answer : Except SinkError SinkAcceptance} :
      h.sink = true → Admissible h r d →
      Served h r (⟨.enqueue d, answer⟩ :: sinkReply (d.event.deref.map EventValue.kind) answer)

section
variable {h : HttpHandler} {r : HttpRequest}
variable {Q : Unit → List (Sigma HandlerCall.Answer) → Prop}
  {trace : List (Sigma HandlerCall.Answer)}
variable {eventType : Option EventType} {route : RequestRoute}

theorem wp_record {result : RequestResult} {status : Nat}
    (hQ : Q () (trace ++ [⟨.increment route result, ()⟩,
      ⟨.info ⟨route, result, status, eventType⟩, ()⟩])) :
    (HttpHandler.record route result status eventType).wp (Prog.recording False) Q trace := by
  unfold HttpHandler.record
  simp only [Prog.wp_bind, Prog.wp_record]
  intro _ _
  simpa using hQ

theorem wp_problem (result : RequestResult) {header : ResponseHeader}
    (hQ : Q () (trace ++ problemReply header route result eventType)) :
    (HttpHandler.problem header route result result.status eventType).wp (Prog.recording False) Q
      trace := by
  unfold HttpHandler.problem
  simp only [Prog.wp_bind, Prog.wp_record]
  intro _ _
  refine wp_record ?_
  simpa [problemReply, reply] using hQ

theorem wp_handleDelivery {d : Delivery} (hd : Admissible h r d) :
    (h.handleDelivery d).wp (Prog.recording False) (fun _ trace => Served h r trace) [] := by
  unfold HttpHandler.handleDelivery
  cases hsink : h.sink with
  | false => exact wp_problem .internalError (.unconfigured hsink hd)
  | true =>
    simp only [reduceCtorEq, if_false, Prog.wp_bind, Prog.wp_record]
    intro answer
    have hserved := @Served.enqueued h r d answer hsink hd
    cases answer with
    | error err =>
      cases err with
      | errSinkUnavailable => exact wp_problem .unavailable hserved
      | other => exact wp_problem .internalError hserved
    | ok acceptance =>
      by_cases hreceipt : acceptance.receiptID = []
      · simp only [sinkReply, hreceipt, if_true] at hserved ⊢
        exact wp_problem .internalError hserved
      · simp only [sinkReply, hreceipt, if_false] at hserved ⊢
        simp only [Prog.wp_bind, Prog.wp_record]
        intro _ _
        exact wp_record hserved

theorem wp_serveHTTP :
    (h.serveHTTP r).wp (Prog.recording False) (fun _ trace => Served h r trace) [] := by
  rcases h.serveHTTP_cases r with ⟨route, result, hresult, hnone, heq⟩ |
    ⟨hnone, hmethod, heq | heq⟩ | ⟨d, hd, heq⟩
  · rw [heq]
    exact wp_problem result (.refused hresult hnone)
  · rw [heq, HttpHandler.handleHealth, if_neg (not_not.mpr hmethod)]
    simp only [Prog.wp_bind, Prog.wp_record]
    intro _ _
    exact wp_record (.healthy hnone)
  · rw [heq, HttpHandler.handleMetrics, if_neg (not_not.mpr hmethod), Prog.wp_bind]
    refine wp_record ?_
    simp only [Prog.wp_bind, Prog.wp_record]
    intro _ text _
    exact .scraped hnone
  · rw [heq]
    exact wp_handleDelivery hd

/-- **Every request takes one of these courses.** -/
theorem serveHTTP_served {σ : Type} {step : σ → (c : HandlerCall) → c.Answer → σ → Prop} {s s' : σ}
    (ht : (h.serveHTTP r).Traces step s trace () s') : Served h r trace :=
  Prog.wp_recorder_sound wp_serveHTTP ht

end

end OncallGateway
