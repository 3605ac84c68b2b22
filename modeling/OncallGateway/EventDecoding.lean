import Mathlib.Algebra.BigOperators.Group.List.Basic
import Mathlib.Algebra.Order.Ring.Int
import OncallGateway.CanonicalEvent
import OncallGateway.Identifiers
import OncallGateway.StringDecoding

/-! # Decoding events

`decodeEvent` reads the body of a request as an event.  Its two passes over the body, with
the token stream and with `json.Unmarshal`, are the one reader of `Json` here; a
`json.RawMessage` is the value that it holds, and its trimmed text that of a literal.
A loop over a map visits it in any order.

Every check that fails gives `errInvalidEvent`, except for the name of the type.
-/

namespace OncallGateway

/-- `map[string]json.RawMessage`. -/
abbrev RawFields := EntryMap (List Char) Json

/-! ## The rules of the fields -/

/-- A byte of `[0-9]`. -/
def digitByte (c : UInt8) : Bool := decide (48 ≤ c ∧ c ≤ 57)

/-- A byte of `[A-Za-z]`. -/
def letterByte (c : UInt8) : Bool := decide ((65 ≤ c ∧ c ≤ 90) ∨ (97 ≤ c ∧ c ≤ 122))

/-- A byte of `[A-Za-z0-9_'-]`. -/
def serviceNameByte (c : UInt8) : Bool :=
  letterByte c || digitByte c || decide (c = 95 ∨ c = 39 ∨ c = 45)

/-- A byte of `[0-9a-f]`. -/
def lowerHexByte (c : UInt8) : Bool := digitByte c || decide (97 ≤ c ∧ c ≤ 102)

/-- `validCanonicalUUID`, by `uuidPattern`. -/
def validCanonicalUUID (value : ByteString) : Bool :=
  decide (value.length = 36 ∧ value[8]? = some 45 ∧ value[13]? = some 45 ∧ value[18]? = some 45 ∧
    value[23]? = some 45) && (uuidDigits value).all lowerHexByte

/-- `digitsPattern`. -/
def digitsPattern (value : ByteString) : Bool := decide (value.length = 6) && value.all digitByte

/-- `positiveIntPattern`. -/
def positiveIntPattern : List Char → Bool
  | [] => false
  | c :: rest => c.isDigit && decide (c ≠ '0') && rest.all Char.isDigit

/-- `serviceNamePattern`. -/
def serviceNamePattern : ByteString → Bool
  | [] => false
  | first :: rest =>
    letterByte first && (rest.dropLast.all fun c => serviceNameByte c || decide (c = 32)) &&
      rest.getLast?.any serviceNameByte

/-- `validAppName`. -/
def validAppName (value : ByteString) : Bool :=
  decide (1 ≤ value.length ∧ value.length ≤ 32) && printableASCII value

/-- `validServiceName`. -/
def validServiceName (value : ByteString) : Bool :=
  decide (2 ≤ value.length ∧ value.length ≤ 64) && printableASCII value && serviceNamePattern value

/-- `AlertStateUnacknowledged`, `AlertStateAcknowledged` and `AlertStateClosed`. -/
def alertStates : List ByteString :=
  [.ascii "Unacknowledged", .ascii "Acknowledged", .ascii "Closed"]

/-! ## The fields -/

/-- `hasExactFields`. -/
def hasExactFields (fields : RawFields) (names : List (List Char)) : Bool :=
  decide (fields.size = names.length) && names.all fun name => fields.contains name

/-- `decodeJSONString` of a trimmed raw message; only a string begins with a quotation
mark. -/
def decodeRawString : Json → Except EventError ByteString
  | .string raw => decodeJSONString (utf8Encode (Json.quoted raw))
  | _ => .error .errInvalidEvent

/-- `requiredString`. -/
def requiredString (fields : RawFields) (name : List Char) : Except EventError ByteString :=
  match fields[name]? with
  | none => .error .errInvalidEvent
  | some raw => decodeRawString raw

/-- `requiredPositiveInt`; only a number begins with a digit. -/
def requiredPositiveInt (fields : RawFields) (name : List Char) : Except EventError Int64 :=
  match fields[name]? with
  | some (.number text) =>
    if positiveIntPattern text = false then .error .errInvalidEvent
    else if 2 ^ 63 ≤ Nat.ofDigitChars 10 text 0 then .error .errInvalidEvent
    else .ok (Int64.ofNat (Nat.ofDigitChars 10 text 0))
  | _ => .error .errInvalidEvent

/-- The fields of an object: `json.Unmarshal` into a map. -/
def rawFields (members : List (List Char × Json)) : RawFields :=
  .ofList (members.map fun m => (Json.unquote m.1, m.2))

/-- The loop of `requiredMeta`, over the entries in the order visited. -/
def metaLoop : List (List Char × Json) → Nat → EntryMap ByteString ByteString →
    Except EventError (EntryMap ByteString ByteString)
  | [], _, metaMap => .ok metaMap
  | (name, raw) :: entries, size, metaMap => do
    let key := utf8Encode name
    Except.refuseIf (key.length < 1 ∨ 255 < key.length ∨ printableASCII key = false)
      .errInvalidEvent
    let value ← decodeRawString raw
    let size := size + (key.length + value.length)
    Except.refuseIf (32768 < size) .errInvalidEvent
    metaLoop entries size (metaMap.insert key value)

/-- `requiredMeta`; only an object begins with a brace. -/
def requiredMeta (order : RangeOrder (List Char) Json) (fields : RawFields) (name : List Char) :
    Except EventError (EntryMap ByteString ByteString) :=
  match fields[name]? with
  | some (.object members) => metaLoop (order.visit (rawFields members)) 0 ∅
  | _ => .error .errInvalidEvent

/-! ## Duplicate names -/

mutual

/-- `consumeValue`. -/
def consumeValue : Json → Bool
  | .array items => consumeItems items
  | .object members => consumeObject [] members
  | _ => true

/-- The loop of `consumeValue` over an array. -/
def consumeItems : List Json → Bool
  | [] => true
  | item :: items => consumeValue item && consumeItems items

/-- `consumeObject`, with the names already seen. -/
def consumeObject (seen : List (List Char)) : List (List Char × Json) → Bool
  | [] => true
  | (name, value) :: members =>
    decide (Json.unquote name ∉ seen) && consumeValue value &&
      consumeObject (Json.unquote name :: seen) members

end

/-! ## Events -/

/-- `decodeTest`. -/
def decodeTest (fields : RawFields) : Except EventError EventValue := do
  Except.refuseIf (hasExactFields fields EventType.test.names = false) .errInvalidEvent
  let appName ← requiredString fields "AppName".toList
  Except.refuseIf (validAppName appName = false) .errInvalidEvent
  return .test ⟨appName⟩

/-- `decodeVerification`. -/
def decodeVerification (fields : RawFields) : Except EventError EventValue := do
  Except.refuseIf (hasExactFields fields EventType.verification.names = false) .errInvalidEvent
  let appName ← requiredString fields "AppName".toList
  Except.refuseIf (validAppName appName = false) .errInvalidEvent
  let code ← requiredString fields "Code".toList
  Except.refuseIf (digitsPattern code = false) .errInvalidEvent
  return .verification ⟨appName, code⟩

/-- `utf8.RuneCountInString`, of a valid string. -/
def runeCount (value : ByteString) : Nat := ((utf8Decode? value).map List.length).getD value.length

/-- `decodeAlert`. -/
def decodeAlert (order : RangeOrder (List Char) Json) (fields : RawFields) :
    Except EventError EventValue := do
  Except.refuseIf (hasExactFields fields EventType.alert.names = false) .errInvalidEvent
  let appName ← requiredString fields "AppName".toList
  Except.refuseIf (validAppName appName = false) .errInvalidEvent
  let alertID ← requiredPositiveInt fields "AlertID".toList
  let summary ← requiredString fields "Summary".toList
  Except.refuseIf (1024 < runeCount summary) .errInvalidEvent
  let details ← requiredString fields "Details".toList
  Except.refuseIf (6144 < runeCount details) .errInvalidEvent
  let serviceID ← requiredString fields "ServiceID".toList
  Except.refuseIf (validCanonicalUUID serviceID = false) .errInvalidEvent
  let serviceName ← requiredString fields "ServiceName".toList
  Except.refuseIf (validServiceName serviceName = false) .errInvalidEvent
  let metaMap ← requiredMeta order fields "Meta".toList
  return .alert ⟨appName, alertID, summary, details, serviceID, serviceName, some metaMap⟩

/-- `decodeAlertStatus`. -/
def decodeAlertStatus (fields : RawFields) : Except EventError EventValue := do
  Except.refuseIf (hasExactFields fields EventType.alertStatus.names = false) .errInvalidEvent
  let appName ← requiredString fields "AppName".toList
  Except.refuseIf (validAppName appName = false) .errInvalidEvent
  let alertID ← requiredPositiveInt fields "AlertID".toList
  let logEntry ← requiredString fields "LogEntry".toList
  Except.refuseIf (logEntry = []) .errInvalidEvent
  let alertState ← requiredString fields "AlertState".toList
  Except.refuseIf (alertStates.contains alertState = false) .errInvalidEvent
  return .alertStatus ⟨appName, alertID, logEntry, alertState⟩

/-- The switch of `decodeEvent` over the name of the type. -/
def decodeFields (order : RangeOrder (List Char) Json) (fields : RawFields) :
    Except EventError EventValue := do
  let typeName ← requiredString fields "Type".toList
  if typeName = utf8Encode EventType.test.text then decodeTest fields
  else if typeName = utf8Encode EventType.verification.text then decodeVerification fields
  else if typeName = utf8Encode EventType.alert.text then decodeAlert order fields
  else if typeName = utf8Encode EventType.alertStatus.text then decodeAlertStatus fields
  else .error .errUnsupportedEvent

/-- `decodeEvent`. -/
def decodeEvent (order : RangeOrder (List Char) Json) (data : ByteString) :
    Except EventError Event :=
  match (utf8Decode? data).bind Json.read with
  | some (.object members) =>
    if consumeObject [] members = false then .error .errInvalidEvent
    else (decodeFields order (rawFields members)).map .value
  | _ => .error .errInvalidEvent

end OncallGateway
