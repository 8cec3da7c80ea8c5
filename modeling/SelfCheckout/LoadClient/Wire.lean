import SelfCheckout.Data.Utf16
import SelfCheckout.Data.Writing
import SelfCheckout.Mock.Handlers

namespace SelfCheckout.LoadClient.Wire

open SelfCheckout.Data SelfCheckout.Data.Rfc8259 SelfCheckout.Mock

/-! # The calls on the wire

What `ApiClient` sends and reads, and what the mock server reads and writes.  Bodies travel as
UTF-8.  The server puts the strings of an answer between quotation marks as they are.  An id is
`"tx-"` and a number, which `enc` and `urlDecode` leave alone.
-/

inductive Method where
  | get
  | post
deriving DecidableEq, Repr

structure HttpRequest where
  method : Method
  path : Text
  body : Text
deriving DecidableEq, Repr

structure HttpResponse where
  status : Nat
  body : Text
deriving DecidableEq, Repr

/-- The request as the server reads it. -/
def HttpRequest.delivered (request : HttpRequest) : HttpRequest :=
  { request with body := transfer request.body }

/-- The response as the client reads it. -/
def HttpResponse.delivered (response : HttpResponse) : HttpResponse :=
  { response with body := transfer response.body }

def transactionId (tx : TxId) : Text := units "tx-" ++ decimal tx

section Reading

variable {Double : Type} (parseDouble : Text → Option Double) (double : Text → Double)
  (intValue : Double → Int) (shown : Value Double → Text)

/-- `Json.getString`; `shown` is `toString` of a value that is no string. -/
def getString (object : List (Text × Value Double)) (key : String) : Option Text :=
  match Table.lookupRows object (units key) with
  | none => none
  | some .null => none
  | some (.str text) => some text
  | some value => some (shown value)

/-- What a call of `ApiClient` throws. -/
inductive Failure where
  | api (statusCode : Int)
  | unreadable
  | notAnObject
  | missing (key : String)
  | notANumber (key : String)
deriving DecidableEq, Repr

/-- `Json.getDouble` -/
def getDouble (object : List (Text × Value Double)) (key : String) : Except Failure Double :=
  match Table.lookupRows object (units key) with
  | none => .error (.missing key)
  | some .null => .error (.missing key)
  | some (.num number) => .ok number
  | some _ => .error (.notANumber key)

/-- `Json.getInt` -/
def getInt (object : List (Text × Value Double)) (key : String) : Except Failure Int :=
  (getDouble object key).map intValue

/-- `Json.parseObject` -/
def parseObject (text : Text) : Except Failure (List (Text × Value Double)) :=
  match parse parseDouble text with
  | .ok (.obj object) => .ok object
  | .ok _ => .error .notAnObject
  | .error _ => .error .unreadable

namespace ApiClient

def startTransaction (stationId : Text) : HttpRequest :=
  ⟨.post, units "/transactions", units "\x7b\"stationId\":" ++ quote stationId ++ units "\x7d"⟩

def scanItem (tx : TxId) (sku : Mock.Sku) : HttpRequest :=
  ⟨.post, units "/transactions/" ++ transactionId tx ++ units "/items",
    units "\x7b\"sku\":" ++ quote sku ++ units "\x7d"⟩

def completeTransaction (tx : TxId) : HttpRequest :=
  ⟨.post, units "/transactions/" ++ transactionId tx ++ units "/complete", units "\x7b\x7d"⟩

/-- `send`, with the response if there is one. -/
def send (expectedStatus : Nat) : Option HttpResponse → Except Failure (List (Text × Value Double))
  | none => .error (.api (-1))
  | some response =>
      if response.status ≠ expectedStatus then .error (.api response.status)
      else if response.body.all isWhitespace then .ok []
      else parseObject parseDouble response.body

/-- A string may be null. -/
structure StartedTransaction where
  transactionId : Option Text
  stationId : Option Text
  status : Option Text
deriving DecidableEq, Repr

def started (response : Option HttpResponse) : Except Failure StartedTransaction := do
  let body ← send parseDouble 201 response
  return ⟨getString shown body "transactionId", getString shown body "stationId",
    getString shown body "status"⟩

structure ScanOutcome (Double : Type) where
  sku : Option Text
  unitPrice : Double
  itemCount : Int
  runningTotal : Double

def scanned (response : Option HttpResponse) : Except Failure (ScanOutcome Double) := do
  let body ← send parseDouble 200 response
  let unitPrice ← getDouble body "unitPrice"
  let itemCount ← getInt intValue body "itemCount"
  let runningTotal ← getDouble body "runningTotal"
  return ⟨getString shown body "sku", unitPrice, itemCount, runningTotal⟩

structure ReceiptSummary (Double : Type) where
  itemCount : Int
  totalAmount : Double

def receipt (response : Option HttpResponse) : Except Failure (ReceiptSummary Double) := do
  let body ← send parseDouble 200 response
  let itemCount ← getInt intValue body "itemCount"
  let totalAmount ← getDouble body "totalAmount"
  return ⟨itemCount, totalAmount⟩

end ApiClient

namespace MockServer

def readField (body : Text) (key : String) : Field :=
  match parseObject parseDouble body with
  | .error _ => .unreadable
  | .ok object =>
      match getString shown object key with
      | none => .missing
      | some text => .value text

/-- `/transactions/([^/]+)` and what follows it. -/
def segment (path : Text) : Option (Text × Text) :=
  if (units "/transactions/").isPrefixOf path then
    let rest := path.drop 14
    let group := rest.takeWhile (· ≠ unit '/')
    if group = [] then none else some (group, rest.drop group.length)
  else none

/-- The number of an id; the server knows no other ids. -/
def txNumber (id : Text) : Option TxId :=
  if (units "tx-").isPrefixOf id then numberOf (id.drop 3) else none

def noSuchRoute : ApiError := ⟨404, "NOT_FOUND", "No such route"⟩

def known (id : Text) (request : TxId → Mock.Request) : Except ApiError Mock.Request :=
  match txNumber id with
  | none => .error noSuchTransaction
  | some tx => .ok (request tx)

def handleTransactions (request : HttpRequest) : Except ApiError Mock.Request :=
  if request.path = units "/transactions" ∧ request.method = .post then
    .ok (.startTransaction (readField parseDouble shown request.body "stationId"))
  else
    match segment request.path with
    | none => .error noSuchRoute
    | some (id, rest) =>
        if rest = units "/items" ∧ request.method = .post then
          known id (.scanItem · (readField parseDouble shown request.body "sku"))
        else if rest = units "/complete" ∧ request.method = .post then known id .completeTransaction
        else if rest = [] ∧ request.method = .get then known id .getStatus
        else .error noSuchRoute

/-- What a `Response` leaves out: the texts Java writes for instants and doubles, and names. -/
structure Details where
  stationId : Text
  name : Text
  unitPrice : Text
  runningTotal : Text
  totalAmount : Text
  startedAt : Text
  completedAt : Text

def statusText : TxStatus → Text
  | .opened => units "OPEN"
  | .completed => units "COMPLETED"
  | .cancelled => units "CANCELLED"

def respond (details : Details) : Response → Option HttpResponse
  | .started tx stationId => some ⟨201,
      units "\x7b\"transactionId\":\"" ++ transactionId tx ++
      units "\",\"stationId\":\"" ++ stationId ++
      units "\",\"status\":\"OPEN\",\"itemCount\":0,\"runningTotal\":0.0,\"startedAt\":\"" ++
      details.startedAt ++ units "\"\x7d"⟩
  | .scanned tx sku itemCount => some ⟨200,
      units "\x7b\"transactionId\":\"" ++ transactionId tx ++ units "\",\"sku\":\"" ++ sku ++
      units "\",\"name\":\"" ++ details.name ++ units "\",\"unitPrice\":" ++ details.unitPrice ++
      units ",\"itemCount\":" ++ decimal itemCount ++
      units ",\"runningTotal\":" ++ details.runningTotal ++ units "\x7d"⟩
  | .receipt tx itemCount => some ⟨200,
      units "\x7b\"transactionId\":\"" ++ transactionId tx ++
      units "\",\"stationId\":\"" ++ details.stationId ++
      units "\",\"itemCount\":" ++ decimal itemCount ++
      units ",\"totalAmount\":" ++ details.totalAmount ++
      units ",\"startedAt\":\"" ++ details.startedAt ++
      units "\",\"completedAt\":\"" ++ details.completedAt ++ units "\",\"lines\":[]\x7d"⟩
  | .status tx status itemCount => some ⟨200,
      units "\x7b\"transactionId\":\"" ++ transactionId tx ++
      units "\",\"stationId\":\"" ++ details.stationId ++
      units "\",\"status\":\"" ++ statusText status ++
      units "\",\"itemCount\":" ++ decimal itemCount ++
      units ",\"runningTotal\":" ++ details.runningTotal ++
      units ",\"startedAt\":\"" ++ details.startedAt ++ units "\"\x7d"⟩
  | .failed error => some ⟨error.status,
      units "\x7b\"error\":\"" ++ units error.error ++ units "\",\"message\":\"" ++
      units error.message ++ units "\"\x7d"⟩
  | .closed => none

end MockServer

theorem parseValue_quote {text : Text} (fuel : Nat) (raw rest : Text) :
    parseValue parseDouble text (fuel + 1) (quote raw ++ rest) = .ok (.str raw, rest) := by
  have whole : quote raw ++ rest = unit '"' :: (raw.flatMap escaped ++ unit '"' :: rest) := by
    simp [quote]
  have read : parseStringValue text (unit '"' :: (raw.flatMap escaped ++ unit '"' :: rest)) =
      .ok (raw, rest) := by
    simp only [parseStringValue, expect_cons]
    exact stringLoop_quoted raw [] rest
  rw [whole, parseValue_cons (by decide), if_neg (by decide), if_neg (by decide), if_pos rfl, read]
  rfl

/-- A body with one string is read whatever the string. -/
theorem parseObject_quote {name key : Text} (chars : CharsText key name) (raw : Text) :
    parseObject parseDouble (unit '{' :: (unit '"' :: name ++ unit '"' :: ([] ++ unit ':' ::
      (quote raw ++ [unit '}'])))) = .ok [(key, .str raw)] := by
  have nothing : Ws [] := by decide
  have whole : ∀ fuel text, parseValue parseDouble text (fuel + 4) (unit '{' :: (unit '"' :: name ++
      unit '"' :: ([] ++ unit ':' :: (quote raw ++ [unit '}'])))) = .ok (.obj [(key, .str raw)], []) := by
    intro fuel text
    have quoted : parseValue parseDouble text (fuel + 1) (quote raw ++ [unit '}']) =
        .ok (.str raw, [] ++ unit '}' :: []) := parseValue_quote parseDouble fuel raw [unit '}']
    have member := memberLoop_member nothing nothing chars (by decide) quoted []
    rw [if_neg (by decide), expect_cons] at member
    rw [parseValue_cons (by decide), if_pos rfl]
    simp only [parseObjectValue, expect_cons, bind, Except.bind, List.cons_append]
    rw [skipWhitespace_cons (by decide)]
    simp only [peek]
    rw [if_neg (by decide)]
    exact member
  have enough : ∀ count, 3 * (count + 1) + 1 = 3 * count + 4 := by omega
  unfold parseObject parse
  simp only [skipWhitespace_cons (show isWhitespace (unit '{') = false by decide), List.length_cons,
    enough, whole, bind, Except.bind, pure, Except.pure]

theorem readField_quote {key : String} (plain : PlainText (units key)) (raw : Text) :
    MockServer.readField parseDouble shown (unit '{' :: (unit '"' :: units key ++ unit '"' :: ([] ++
      unit ':' :: (quote raw ++ [unit '}'])))) key = .value raw := by
  have read := parseObject_quote parseDouble (charsText_plain plain) raw
  simp only [MockServer.readField, read, getString, Table.lookupRows, ↓reduceIte]

theorem txNumber_transactionId (tx : TxId) :
    MockServer.txNumber (transactionId tx) = some tx := by
  have starts : (units "tx-").isPrefixOf (transactionId tx) = true :=
    List.isPrefixOf_iff_prefix.mpr (List.prefix_append _ _)
  have rest : (transactionId tx).drop 3 = decimal tx := rfl
  rw [MockServer.txNumber, if_pos starts, rest, numberOf_decimal]

theorem mem_transactionId {tx : TxId} {written : CodeUnit} (isIn : written ∈ transactionId tx) :
    Plain written ∧ written ≠ unit '/' := by
  have each : ∀ written ∈ units "tx-" ++ digits, Plain written ∧ written ≠ unit '/' :=
    List.all_iff_forall_prop.mp (by decide)
  refine each written ?_
  rcases List.mem_append.mp isIn with isName | isNumber
  · exact List.mem_append_left _ isName
  · obtain ⟨digit, isDigit, rfl⟩ := List.mem_map.mp isNumber
    exact List.mem_append_right _ (unit_digit ((canonical_toDigits tx).2.1 digit isDigit)).1

theorem segment_transactionId (tx : TxId) (more : Text) :
    MockServer.segment (units "/transactions/" ++ transactionId tx ++ unit '/' :: more) =
      some (transactionId tx, unit '/' :: more) := by
  have starts : (units "/transactions/").isPrefixOf
      (units "/transactions/" ++ transactionId tx ++ unit '/' :: more) = true := by
    rw [List.append_assoc]
    exact List.isPrefixOf_iff_prefix.mpr (List.prefix_append _ _)
  have rest : (units "/transactions/" ++ transactionId tx ++ unit '/' :: more).drop 14 =
      transactionId tx ++ unit '/' :: more := by
    rw [List.append_assoc]
    rfl
  have group : (transactionId tx ++ unit '/' :: more).takeWhile (fun written => written ≠ unit '/') =
      transactionId tx := by
    rw [List.takeWhile_append_of_pos (fun written isIn => decide_eq_true (mem_transactionId isIn).2),
      List.takeWhile_cons_of_neg (by decide), List.append_nil]
  have named : transactionId tx ≠ [] := by simp [transactionId, Rfc8259.units]
  unfold MockServer.segment
  simp only [starts, rest, group, named, ↓reduceIte, List.drop_left]

theorem not_transactions (more : Text) : units "/transactions/" ++ more ≠ units "/transactions" := by
  intro same
  have last := congrArg (List.drop 13) same
  contradiction

theorem single_escaped {written : CodeUnit} (alone : isSurrogate written = false) :
    escaped written ≠ [] ∧ Single (escaped written) := by
  unfold escaped
  split
  · decide
  split
  · decide
  split
  · decide
  split
  · decide
  split
  · decide
  · refine ⟨List.cons_ne_nil _ _, fun one isIn => ?_⟩
    rw [List.mem_singleton.mp isIn]
    exact alone

theorem ne_unit_of_surrogate {written : CodeUnit} (surrogate : isSurrogate written = true)
    {other : Char} (plain : isSurrogate (unit other) = false) : written ≠ unit other := by
  rintro rfl
  rw [plain] at surrogate
  cases surrogate

theorem escaped_surrogate {written : CodeUnit} (surrogate : isSurrogate written = true) :
    escaped written = [written] := by
  have quotation : written ≠ unit '"' := ne_unit_of_surrogate surrogate (by decide)
  have reverseSolidus : written ≠ unit '\\' := ne_unit_of_surrogate surrogate (by decide)
  have newline : written ≠ unit '\n' := ne_unit_of_surrogate surrogate (by decide)
  have carriage : written ≠ unit '\r' := ne_unit_of_surrogate surrogate (by decide)
  have tab : written ≠ unit '\t' := ne_unit_of_surrogate surrogate (by decide)
  simp only [escaped, quotation, reverseSolidus, newline, carriage, tab, ↓reduceIte]

/-- A body with one quoted string arrives with what UTF-8 makes of that string. -/
theorem transfer_body {opening : Text} (single : Single opening) (raw : Text) :
    transfer (opening ++ quote raw ++ units "\x7d") =
      opening ++ quote (transfer raw) ++ units "\x7d" := by
  have quotation : isSurrogate (unit '"') = false := by decide
  have closing : transfer (units "\x7d") = units "\x7d" := by decide
  have written : transfer (raw.flatMap escaped) = (transfer raw).flatMap escaped :=
    transfer_flatMap escaped (fun _ => escaped_surrogate) (fun _ => single_escaped) (by decide)
  have whole : ∀ chars : Text, opening ++ (unit '"' :: chars ++ [unit '"']) ++ units "\x7d" =
      opening ++ unit '"' :: (chars ++ unit '"' :: units "\x7d") := by
    simp
  rw [quote, quote, whole, whole, transfer_append single, transfer_cons quotation,
    transfer_append_cons quotation, written, closing]

theorem delivered_started (stationId : Text) :
    (ApiClient.startTransaction stationId).delivered =
      ApiClient.startTransaction (transfer stationId) := by
  simp only [ApiClient.startTransaction, HttpRequest.delivered, transfer_body
    (show Single (units "\x7b\"stationId\":") by decide)]

theorem delivered_scanned (tx : TxId) (sku : Mock.Sku) :
    (ApiClient.scanItem tx sku).delivered = ApiClient.scanItem tx (transfer sku) := by
  simp only [ApiClient.scanItem, HttpRequest.delivered, transfer_body
    (show Single (units "\x7b\"sku\":") by decide)]

theorem delivered_completed (tx : TxId) :
    (ApiClient.completeTransaction tx).delivered = ApiClient.completeTransaction tx := by
  have empty : transfer (units "\x7b\x7d") = units "\x7b\x7d" := by decide
  simp only [ApiClient.completeTransaction, HttpRequest.delivered, empty]

theorem handle_started (stationId : Text) :
    MockServer.handleTransactions parseDouble shown (ApiClient.startTransaction stationId) =
      .ok (.startTransaction (.value stationId)) := by
  have opening : units "\x7b\"stationId\":" =
      unit '{' :: (unit '"' :: units "stationId" ++ unit '"' :: ([] ++ unit ':' :: [])) := rfl
  have body : (ApiClient.startTransaction stationId).body = unit '{' :: (unit '"' :: units "stationId" ++
      unit '"' :: ([] ++ unit ':' :: (quote stationId ++ [unit '}']))) := by
    have closing : units "\x7d" = [unit '}'] := rfl
    simp only [ApiClient.startTransaction, opening, closing, List.append_assoc, List.cons_append,
      List.nil_append]
  have plain : PlainText (units "stationId") := by decide
  unfold MockServer.handleTransactions
  rw [if_pos ⟨rfl, rfl⟩, body, readField_quote parseDouble shown plain]

theorem handle_scanned (tx : TxId) (sku : Mock.Sku) :
    MockServer.handleTransactions parseDouble shown (ApiClient.scanItem tx sku) =
      .ok (.scanItem tx (.value sku)) := by
  have opening : units "\x7b\"sku\":" =
      unit '{' :: (unit '"' :: units "sku" ++ unit '"' :: ([] ++ unit ':' :: [])) := rfl
  have body : (ApiClient.scanItem tx sku).body = unit '{' :: (unit '"' :: units "sku" ++
      unit '"' :: ([] ++ unit ':' :: (quote sku ++ [unit '}']))) := by
    have closing : units "\x7d" = [unit '}'] := rfl
    simp only [ApiClient.scanItem, opening, closing, List.append_assoc, List.cons_append,
      List.nil_append]
  have plain : PlainText (units "sku") := by decide
  have path : MockServer.segment (ApiClient.scanItem tx sku).path =
      some (transactionId tx, units "/items") := segment_transactionId tx (units "items")
  have other : ¬ ((ApiClient.scanItem tx sku).path = units "/transactions" ∧
      (ApiClient.scanItem tx sku).method = .post) := by
    rintro ⟨same, _⟩
    rw [ApiClient.scanItem, List.append_assoc] at same
    exact not_transactions _ same
  unfold MockServer.handleTransactions
  rw [if_neg other, path]
  simp only
  rw [if_pos ⟨trivial, rfl⟩, body, readField_quote parseDouble shown plain, MockServer.known,
    txNumber_transactionId]

theorem handle_completed (tx : TxId) :
    MockServer.handleTransactions parseDouble shown (ApiClient.completeTransaction tx) =
      .ok (.completeTransaction tx) := by
  have path : MockServer.segment (ApiClient.completeTransaction tx).path =
      some (transactionId tx, units "/complete") := segment_transactionId tx (units "complete")
  have other : ¬ ((ApiClient.completeTransaction tx).path = units "/transactions" ∧
      (ApiClient.completeTransaction tx).method = .post) := by
    rintro ⟨same, _⟩
    rw [ApiClient.completeTransaction, List.append_assoc] at same
    exact not_transactions _ same
  unfold MockServer.handleTransactions
  rw [if_neg other, path]
  simp only
  have different : units "/complete" ≠ units "/items" := by decide
  rw [if_neg (fun both => different both.1), if_pos ⟨trivial, rfl⟩, MockServer.known,
    txNumber_transactionId]

/-- A member without whitespace. -/
def tight (key : String) (value : Value Text) (written : Text) : Member :=
  { before := [], key := units key, beforeValue := [], value, written, after := [] }

theorem text_tight {key : String} {value : Value Text} {written : Text} :
    (tight key value written).text = unit '"' :: (units key ++ unit '"' :: unit ':' :: written) := by
  simp only [Member.text, tight, List.append_assoc, List.cons_append, List.nil_append, List.append_nil]

theorem sound_tight {key : String} {value : Value Text} {written : Text}
    (plain : PlainText (units key)) (spelt : Spells (.value value) written) :
    (tight key value written).Sound := by
  have nothing : Ws [] := by decide
  exact ⟨⟨nothing, nothing, spelt⟩, plain, nothing⟩

/-- Between quotation marks as it is. -/
def marked (text : Text) : Text := unit '"' :: text ++ [unit '"']

theorem spells_marked {text : Text} (plain : PlainText text) :
    Spells (.value (.str text)) (marked text) :=
  .str _ _ (charsText_plain plain)

theorem parseObject_members
    (parses : ∀ literal, NumberText literal → parseDouble literal = some (double literal))
    {member : Member} {members : List Member} (sound : ∀ one ∈ member :: members, one.Sound)
    (distinct : (((member :: members).map Member.entry).map Prod.fst).Nodup) :
    parseObject parseDouble (unit '{' :: joined ((member :: members).map Member.text) ++ [unit '}']) =
      .ok (Value.mapMembers double ((member :: members).map Member.entry)) := by
  have spelt := Spells.obj _ _ distinct (spells_members sound)
  have document := JsonText.text _ [] _ [] (by decide) (by decide) spelt
  rw [List.nil_append, List.append_nil] at document
  unfold parseObject
  rw [parse_text parses document]
  rfl

def string (key : String) (text : Text) : Member := tight key (.str text) (marked text)

def number (key : String) (literal : Text) : Member := tight key (.num literal) literal

/-- The body of an answer that is no error. -/
def bodyOf (details : MockServer.Details) : Response → List Member
  | .started tx stationId =>
      [string "transactionId" (transactionId tx), string "stationId" stationId,
        string "status" (units "OPEN"), number "itemCount" (units "0"),
        number "runningTotal" (units "0.0"), string "startedAt" details.startedAt]
  | .scanned tx sku itemCount =>
      [string "transactionId" (transactionId tx), string "sku" sku, string "name" details.name,
        number "unitPrice" details.unitPrice, number "itemCount" (decimal itemCount),
        number "runningTotal" details.runningTotal]
  | .receipt tx itemCount =>
      [string "transactionId" (transactionId tx), string "stationId" details.stationId,
        number "itemCount" (decimal itemCount), number "totalAmount" details.totalAmount,
        string "startedAt" details.startedAt, string "completedAt" details.completedAt,
        tight "lines" (.arr []) (units "[]")]
  | .status tx status itemCount =>
      [string "transactionId" (transactionId tx), string "stationId" details.stationId,
        string "status" (MockServer.statusText status), number "itemCount" (decimal itemCount),
        number "runningTotal" details.runningTotal, string "startedAt" details.startedAt]
  | .failed _ | .closed => []

def braces (members : List Member) : Text :=
  unit '{' :: joined (members.map Member.text) ++ [unit '}']

section Texts

variable (details : MockServer.Details) (tx : TxId)

theorem opening_text : units "\x7b\"transactionId\":\"" =
    unit '{' :: unit '"' :: (units "transactionId" ++ [unit '"', unit ':', unit '"']) := rfl

theorem station_text : units "\",\"stationId\":\"" =
    unit '"' :: unit ',' :: unit '"' :: (units "stationId" ++ [unit '"', unit ':', unit '"']) := rfl

theorem count_text : units ",\"itemCount\":" =
    unit ',' :: unit '"' :: (units "itemCount" ++ [unit '"', unit ':']) := rfl

theorem closing_text : units "\"\x7d" = [unit '"', unit '}'] := rfl

theorem respond_started (stationId : Text) :
    MockServer.respond details (.started tx stationId) =
      some ⟨201, braces (bodyOf details (.started tx stationId))⟩ := by
  have status :
      units "\",\"status\":\"OPEN\",\"itemCount\":0,\"runningTotal\":0.0,\"startedAt\":\"" =
      unit '"' :: unit ',' :: unit '"' :: (units "status" ++ unit '"' :: unit ':' :: unit '"' ::
        (units "OPEN" ++ unit '"' :: unit ',' :: unit '"' :: (units "itemCount" ++ unit '"' ::
        unit ':' :: (units "0" ++ unit ',' :: unit '"' :: (units "runningTotal" ++ unit '"' ::
        unit ':' :: (units "0.0" ++ unit ',' :: unit '"' :: (units "startedAt" ++
        [unit '"', unit ':', unit '"']))))))) := rfl
  unfold MockServer.respond
  simp only [opening_text, station_text, closing_text, status, braces, bodyOf, string, number, marked,
    text_tight, joined, List.map_cons, List.map_nil, List.append_assoc, List.cons_append,
    List.nil_append]

theorem respond_scanned (sku : Mock.Sku) (itemCount : Nat) :
    MockServer.respond details (.scanned tx sku itemCount) =
      some ⟨200, braces (bodyOf details (.scanned tx sku itemCount))⟩ := by
  have skuKey : units "\",\"sku\":\"" =
      unit '"' :: unit ',' :: unit '"' :: (units "sku" ++ [unit '"', unit ':', unit '"']) := rfl
  have name : units "\",\"name\":\"" =
      unit '"' :: unit ',' :: unit '"' :: (units "name" ++ [unit '"', unit ':', unit '"']) := rfl
  have price : units "\",\"unitPrice\":" =
      unit '"' :: unit ',' :: unit '"' :: (units "unitPrice" ++ [unit '"', unit ':']) := rfl
  have total : units ",\"runningTotal\":" =
      unit ',' :: unit '"' :: (units "runningTotal" ++ [unit '"', unit ':']) := rfl
  have closing : units "\x7d" = [unit '}'] := rfl
  unfold MockServer.respond
  simp only [opening_text, skuKey, name, price, count_text, total, closing, braces, bodyOf, string,
    number, marked, text_tight, joined, List.map_cons, List.map_nil, List.append_assoc,
    List.cons_append, List.nil_append]

theorem respond_receipt (itemCount : Nat) :
    MockServer.respond details (.receipt tx itemCount) =
      some ⟨200, braces (bodyOf details (.receipt tx itemCount))⟩ := by
  have count : units "\",\"itemCount\":" =
      unit '"' :: unit ',' :: unit '"' :: (units "itemCount" ++ [unit '"', unit ':']) := rfl
  have total : units ",\"totalAmount\":" =
      unit ',' :: unit '"' :: (units "totalAmount" ++ [unit '"', unit ':']) := rfl
  have started : units ",\"startedAt\":\"" =
      unit ',' :: unit '"' :: (units "startedAt" ++ [unit '"', unit ':', unit '"']) := rfl
  have completed : units "\",\"completedAt\":\"" =
      unit '"' :: unit ',' :: unit '"' :: (units "completedAt" ++ [unit '"', unit ':', unit '"']) := rfl
  have lines : units "\",\"lines\":[]\x7d" =
      unit '"' :: unit ',' :: unit '"' :: (units "lines" ++ unit '"' :: unit ':' ::
        (units "[]" ++ [unit '}'])) := rfl
  unfold MockServer.respond
  simp only [opening_text, station_text, count, total, started, completed, lines, braces, bodyOf, string,
    number, marked, text_tight, joined, List.map_cons, List.map_nil, List.append_assoc,
    List.cons_append, List.nil_append]

theorem respond_status (status : TxStatus) (itemCount : Nat) :
    MockServer.respond details (.status tx status itemCount) =
      some ⟨200, braces (bodyOf details (.status tx status itemCount))⟩ := by
  have statusKey : units "\",\"status\":\"" =
      unit '"' :: unit ',' :: unit '"' :: (units "status" ++ [unit '"', unit ':', unit '"']) := rfl
  have count : units "\",\"itemCount\":" =
      unit '"' :: unit ',' :: unit '"' :: (units "itemCount" ++ [unit '"', unit ':']) := rfl
  have total : units ",\"runningTotal\":" =
      unit ',' :: unit '"' :: (units "runningTotal" ++ [unit '"', unit ':']) := rfl
  have started : units ",\"startedAt\":\"" =
      unit ',' :: unit '"' :: (units "startedAt" ++ [unit '"', unit ':', unit '"']) := rfl
  unfold MockServer.respond
  simp only [opening_text, station_text, statusKey, count, total, started, closing_text, braces, bodyOf,
    string, number, marked, text_tight, joined, List.map_cons, List.map_nil, List.append_assoc,
    List.cons_append, List.nil_append]

end Texts

/-- A string that needs no escape and has every surrogate in a pair. -/
structure Unescaped (text : Text) : Prop where
  plain : PlainText text
  wellFormed : WellFormed text

/-- The texts that the server puts into an answer. -/
structure PlainDetails (details : MockServer.Details) : Prop where
  stationId : Unescaped details.stationId
  name : Unescaped details.name
  unitPrice : NumberText details.unitPrice
  runningTotal : NumberText details.runningTotal
  totalAmount : NumberText details.totalAmount
  startedAt : Unescaped details.startedAt
  completedAt : Unescaped details.completedAt

def PlainResponse : Response → Prop
  | .started _ stationId => Unescaped stationId
  | .scanned _ sku _ => Unescaped sku
  | .failed error => 400 ≤ error.status
  | _ => True

theorem sound_string {key : String} {text : Text} (plainKey : PlainText (units key))
    (plain : PlainText text) : (string key text).Sound :=
  sound_tight plainKey (spells_marked plain)

theorem sound_number {key : String} {literal : Text} (plain : PlainText (units key))
    (isNumber : NumberText literal) : (number key literal).Sound :=
  sound_tight plain (.num _ isNumber)

theorem single_digits {text : Text} (areDigits : ∀ written ∈ text, written ∈ digits) : Single text := by
  have each : Single digits := by decide
  exact fun written isIn => each written (areDigits written isIn)

theorem unescaped_single {text : Text} (plain : PlainText text) (single : Single text) : Unescaped text :=
  ⟨plain, wellFormed_single single⟩

theorem unescaped_transactionId (tx : TxId) : Unescaped (transactionId tx) := by
  refine unescaped_single (fun _ isIn => (mem_transactionId isIn).1) fun written isIn => ?_
  have name : Single (units "tx-") := by decide
  rcases List.mem_append.mp isIn with isName | isNumber
  · exact name written isName
  · obtain ⟨digit, isDigit, rfl⟩ := List.mem_map.mp isNumber
    have isWritten : ∀ written ∈ [unit digit], written ∈ digits := by
      rintro _ isIn
      rw [List.mem_singleton.mp isIn]
      exact (unit_digit ((canonical_toDigits tx).2.1 digit isDigit)).1
    exact single_digits isWritten _ List.mem_cons_self

theorem single_number {literal : Text} (isNumber : NumberText literal) : Single literal := by
  have each : Single (units "-+0123456789.eE") := by decide
  exact fun written isIn => each written (of_decide_eq_true (numberCharacters isNumber written isIn))

theorem unescaped_statusText (status : TxStatus) : Unescaped (MockServer.statusText status) := by
  cases status
  · exact unescaped_single (by decide) (by decide)
  · exact unescaped_single (by decide) (by decide)
  · exact unescaped_single (by decide) (by decide)

/-- A member that can be parsed and sent. -/
structure Sends (member : Member) : Prop where
  sound : member.Sound
  wellFormed : WellFormed member.text

theorem sends_tight {key : String} {value : Value Text} {written : Text}
    (sound : (tight key value written).Sound) (single : Single (units key))
    (wellFormed : WellFormed written) : Sends (tight key value written) := by
  refine ⟨sound, ?_⟩
  rw [text_tight]
  exact .single _ _ (by decide) (wellFormed_append (wellFormed_single single)
    (.single _ _ (by decide) (.single _ _ (by decide) wellFormed)))

theorem sends_string {key : String} {text : Text} (plainKey : PlainText (units key))
    (single : Single (units key)) (unescaped : Unescaped text) : Sends (string key text) := by
  refine sends_tight (sound_string plainKey unescaped.plain) single ?_
  exact .single _ _ (by decide) (wellFormed_append unescaped.wellFormed (wellFormed_single (by decide)))

theorem sends_number {key : String} {literal : Text} (plainKey : PlainText (units key))
    (single : Single (units key)) (isNumber : NumberText literal) : Sends (number key literal) :=
  sends_tight (sound_number plainKey isNumber) single (wellFormed_single (single_number isNumber))

theorem sends_bodyOf {details : MockServer.Details} (plain : PlainDetails details) {response : Response}
    (isPlain : PlainResponse response) : ∀ member ∈ bodyOf details response, Sends member := by
  have zero : NumberText (units "0") := numberText_decimal 0
  have zeroPoint : NumberText (units "0.0") := by
    have one : Digits (units "0") := ⟨by decide, List.all_iff_forall_prop.mp (by decide)⟩
    exact ⟨[], units "0", units ".0", [], rfl, .inl rfl, .inl rfl, .inr ⟨units "0", rfl, one⟩, .inl rfl⟩
  have opened : Unescaped (units "OPEN") := unescaped_single (by decide) (by decide)
  cases response with
  | started tx stationId =>
      simp only [bodyOf, List.forall_mem_cons]
      exact ⟨sends_string (by decide) (by decide) (unescaped_transactionId tx), sends_string (by decide) (by decide) isPlain,
        sends_string (by decide) (by decide) opened, sends_number (by decide) (by decide) zero,
        sends_number (by decide) (by decide) zeroPoint, sends_string (by decide) (by decide) plain.startedAt,
        fun _ isIn => by contradiction⟩
  | scanned tx sku itemCount =>
      simp only [bodyOf, List.forall_mem_cons]
      exact ⟨sends_string (by decide) (by decide) (unescaped_transactionId tx), sends_string (by decide) (by decide) isPlain,
        sends_string (by decide) (by decide) plain.name, sends_number (by decide) (by decide) plain.unitPrice,
        sends_number (by decide) (by decide) (numberText_decimal _), sends_number (by decide) (by decide) plain.runningTotal,
        fun _ isIn => by contradiction⟩
  | receipt tx itemCount =>
      simp only [bodyOf, List.forall_mem_cons]
      exact ⟨sends_string (by decide) (by decide) (unescaped_transactionId tx),
        sends_string (by decide) (by decide) plain.stationId, sends_number (by decide) (by decide) (numberText_decimal _),
        sends_number (by decide) (by decide) plain.totalAmount, sends_string (by decide) (by decide) plain.startedAt,
        sends_string (by decide) (by decide) plain.completedAt,
        sends_tight (sound_tight (by decide) (.arr [] [] (.noItems [] (by decide)))) (by decide)
          (wellFormed_single (by decide)),
        fun _ isIn => by contradiction⟩
  | status tx status itemCount =>
      simp only [bodyOf, List.forall_mem_cons]
      exact ⟨sends_string (by decide) (by decide) (unescaped_transactionId tx),
        sends_string (by decide) (by decide) plain.stationId, sends_string (by decide) (by decide) (unescaped_statusText status),
        sends_number (by decide) (by decide) (numberText_decimal _), sends_number (by decide) (by decide) plain.runningTotal,
        sends_string (by decide) (by decide) plain.startedAt, fun _ isIn => by contradiction⟩
  | failed error => exact fun _ isIn => by contradiction
  | closed => exact fun _ isIn => by contradiction

theorem distinct_bodyOf (details : MockServer.Details) (response : Response) :
    (((bodyOf details response).map Member.entry).map Prod.fst).Nodup := by
  cases response with
  | started tx stationId =>
      show (["transactionId", "stationId", "status", "itemCount", "runningTotal",
        "startedAt"].map units).Nodup
      decide
  | scanned tx sku itemCount =>
      show (["transactionId", "sku", "name", "unitPrice", "itemCount", "runningTotal"].map units).Nodup
      decide
  | receipt tx itemCount =>
      show (["transactionId", "stationId", "itemCount", "totalAmount", "startedAt", "completedAt",
        "lines"].map units).Nodup
      decide
  | status tx status itemCount =>
      show (["transactionId", "stationId", "status", "itemCount", "runningTotal",
        "startedAt"].map units).Nodup
      decide
  | failed error => exact List.nodup_nil
  | closed => exact List.nodup_nil

section Answers

variable (parses : ∀ literal, NumberText literal → parseDouble literal = some (double literal))
  {details : MockServer.Details} {response : Response} (plain : PlainDetails details)
  (isPlain : PlainResponse response)

include parses plain isPlain in
theorem send_answer (status : Nat) (filled : bodyOf details response ≠ []) :
    ApiClient.send parseDouble status (some ⟨status, braces (bodyOf details response)⟩) =
      .ok (Value.mapMembers double ((bodyOf details response).map Member.entry)) := by
  have sound := fun member isIn => (sends_bodyOf plain isPlain member isIn).sound
  have distinct := distinct_bodyOf details response
  generalize bodyOf details response = members at filled sound distinct
  cases members with
  | nil => contradiction
  | cons member members =>
      have visible : (braces (member :: members)).all isWhitespace = false := by
        rw [braces, List.cons_append, List.all_cons]
        rfl
      rw [ApiClient.send, if_neg (fun different => different rfl), visible]
      exact parseObject_members parseDouble double parses sound distinct

theorem wellFormed_joined {texts : List Text} (each : ∀ text ∈ texts, WellFormed text) :
    WellFormed (joined texts) := by
  fun_induction joined texts with
  | case1 => exact .nil
  | case2 text => exact each text List.mem_cons_self
  | case3 text next texts ih =>
      exact wellFormed_append (each text List.mem_cons_self) (.single _ _ (by decide)
        (ih fun other isIn => each other (List.mem_cons_of_mem _ isIn)))

include plain isPlain in
/-- The body of an answer arrives as it was sent. -/
theorem delivered_answer (status : Nat) :
    HttpResponse.delivered ⟨status, braces (bodyOf details response)⟩ =
      ⟨status, braces (bodyOf details response)⟩ := by
  have members : WellFormed (joined ((bodyOf details response).map Member.text)) := by
    refine wellFormed_joined fun text isIn => ?_
    obtain ⟨member, listed, rfl⟩ := List.mem_map.mp isIn
    exact (sends_bodyOf plain isPlain member listed).wellFormed
  have whole : WellFormed (braces (bodyOf details response)) :=
    .single _ _ (by decide) (wellFormed_append members (wellFormed_single (by decide)))
  rw [HttpResponse.delivered, transfer_wellFormed whole]

theorem send_other {status other : Nat} {body : Text} (different : other ≠ status) :
    ApiClient.send parseDouble status (some ⟨other, body⟩) = .error (.api other) := by
  rw [ApiClient.send, if_pos different]

theorem started_other {status : Nat} {body : Text} (different : status ≠ 201) :
    ApiClient.started parseDouble shown (some ⟨status, body⟩) = .error (.api status) := by
  rw [ApiClient.started, send_other parseDouble different]
  rfl

theorem scanned_other {status : Nat} {body : Text} (different : status ≠ 200) :
    ApiClient.scanned parseDouble intValue shown (some ⟨status, body⟩) = .error (.api status) := by
  rw [ApiClient.scanned, send_other parseDouble different]
  rfl

theorem receipt_other {status : Nat} {body : Text} (different : status ≠ 200) :
    ApiClient.receipt parseDouble intValue (some ⟨status, body⟩) = .error (.api status) := by
  rw [ApiClient.receipt, send_other parseDouble different]
  rfl

include parses in
/-- The calls on the wire.  Whatever its station and SKU, the mock server takes a request of the
client for what it is, with what UTF-8 makes of the string; and the client takes an answer to its
call for what it is and no other answer for one, if the server puts no unpaired surrogate and
nothing that would need an escape into a string. -/
theorem calls_on_the_wire :
    (∀ stationId, MockServer.handleTransactions parseDouble shown
      (ApiClient.startTransaction stationId).delivered =
        .ok (.startTransaction (.value (transfer stationId)))) ∧
    (∀ tx sku, MockServer.handleTransactions parseDouble shown (ApiClient.scanItem tx sku).delivered =
      .ok (.scanItem tx (.value (transfer sku)))) ∧
    (∀ tx, MockServer.handleTransactions parseDouble shown
      (ApiClient.completeTransaction tx).delivered = .ok (.completeTransaction tx)) ∧
    (∀ text, WellFormed text → transfer text = text) ∧
    ∀ details response, PlainDetails details → PlainResponse response →
      (ApiClient.started parseDouble shown
          ((MockServer.respond details response).map HttpResponse.delivered) =
        match response with
        | .started tx stationId =>
            .ok ⟨some (transactionId tx), some stationId, some (units "OPEN")⟩
        | .failed error => .error (.api error.status)
        | .closed => .error (.api (-1))
        | _ => .error (.api 200)) ∧
      (ApiClient.scanned parseDouble intValue shown
          ((MockServer.respond details response).map HttpResponse.delivered) =
        match response with
        | .scanned _ sku itemCount => .ok ⟨some sku, double details.unitPrice,
            intValue (double (decimal itemCount)), double details.runningTotal⟩
        | .started _ _ => .error (.api 201)
        | .failed error => .error (.api error.status)
        | .closed => .error (.api (-1))
        | _ => .error (.missing "unitPrice")) ∧
      (ApiClient.receipt parseDouble intValue
          ((MockServer.respond details response).map HttpResponse.delivered) =
        match response with
        | .receipt _ itemCount =>
            .ok ⟨intValue (double (decimal itemCount)), double details.totalAmount⟩
        | .started _ _ => .error (.api 201)
        | .failed error => .error (.api error.status)
        | .closed => .error (.api (-1))
        | _ => .error (.missing "totalAmount")) := by
  refine ⟨?_, ?_, ?_, fun _ => transfer_wellFormed, fun details response plain isPlain => ?_⟩
  · intro stationId
    rw [delivered_started, handle_started]
  · intro tx sku
    rw [delivered_scanned, handle_scanned]
  · intro tx
    rw [delivered_completed, handle_completed]
  cases response with
  | started tx stationId =>
      rw [respond_started, Option.map_some, delivered_answer plain isPlain]
      refine ⟨?_, scanned_other parseDouble intValue shown (by decide),
        receipt_other parseDouble intValue (by decide)⟩
      rw [ApiClient.started,
        send_answer parseDouble double parses plain isPlain 201 (List.cons_ne_nil _ _)]
      rfl
  | scanned tx sku itemCount =>
      rw [respond_scanned, Option.map_some, delivered_answer plain isPlain]
      have body := send_answer parseDouble double parses plain isPlain 200 (List.cons_ne_nil _ _)
      refine ⟨started_other parseDouble shown (by decide), ?_, ?_⟩
      · simp only [ApiClient.scanned, body]
        rfl
      · simp only [ApiClient.receipt, body]
        rfl
  | receipt tx itemCount =>
      rw [respond_receipt, Option.map_some, delivered_answer plain isPlain]
      have body := send_answer parseDouble double parses plain isPlain 200 (List.cons_ne_nil _ _)
      refine ⟨started_other parseDouble shown (by decide), ?_, ?_⟩
      · simp only [ApiClient.scanned, body]
        rfl
      · simp only [ApiClient.receipt, body]
        rfl
  | status tx status itemCount =>
      rw [respond_status, Option.map_some, delivered_answer plain isPlain]
      have body := send_answer parseDouble double parses plain isPlain 200 (List.cons_ne_nil _ _)
      refine ⟨started_other parseDouble shown (by decide), ?_, ?_⟩
      · simp only [ApiClient.scanned, body]
        rfl
      · simp only [ApiClient.receipt, body]
        rfl
  | failed error =>
      have refused : 400 ≤ error.status := isPlain
      have notStarted : error.status ≠ 201 := by omega
      have notOk : error.status ≠ 200 := by omega
      exact ⟨started_other parseDouble shown notStarted,
        scanned_other parseDouble intValue shown notOk, receipt_other parseDouble intValue notOk⟩
  | closed => exact ⟨rfl, rfl, rfl⟩

end Answers

end Reading

def fiveEach : MockServer.Details :=
  { stationId := units "station-001", name := units "Item 1", unitPrice := decimal 5
    runningTotal := decimal 5, totalAmount := decimal 5, startedAt := units "2026-02-01T10:00:00Z"
    completedAt := units "2026-02-01T10:01:00Z" }

theorem calls_on_the_wire_fiveEach :
    MockServer.handleTransactions some (fun _ => [])
        (ApiClient.scanItem 12 (units "\"SKU\"" ++ [0xD800])).delivered =
          .ok (.scanItem 12 (.value (units "\"SKU\"?"))) ∧
      ApiClient.receipt some (fun _ => 5)
        ((MockServer.respond fiveEach (.receipt 12 5)).map HttpResponse.delivered) =
          .ok ⟨5, decimal 5⟩ ∧
      ApiClient.receipt some (fun _ => 5)
        ((MockServer.respond fiveEach (.failed emptyBasket)).map HttpResponse.delivered) =
          .error (.api 409) := by
  obtain ⟨-, scans, -, -, answers⟩ :=
    calls_on_the_wire some id (fun _ => 5) (fun _ => []) (fun _ _ => rfl)
  have plain : PlainDetails fiveEach := by
    refine ⟨?_, ?_, numberText_decimal 5, numberText_decimal 5, numberText_decimal 5, ?_, ?_⟩
    · exact unescaped_single (by decide) (by decide)
    · exact unescaped_single (by decide) (by decide)
    · exact unescaped_single (by decide) (by decide)
    · exact unescaped_single (by decide) (by decide)
  have refused : PlainResponse (.failed emptyBasket) := by
    show 400 ≤ emptyBasket.status
    decide
  exact ⟨scans 12 _, (answers fiveEach (.receipt 12 5) plain trivial).2.2,
    (answers fiveEach (.failed emptyBasket) plain refused).2.2⟩

end SelfCheckout.LoadClient.Wire
