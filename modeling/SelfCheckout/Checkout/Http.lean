import SelfCheckout.Bus.Wire
import SelfCheckout.Catalog.Snapshot
import SelfCheckout.Checkout.TxId

namespace SelfCheckout.Checkout.Http

open SelfCheckout.Bus SelfCheckout.Catalog

/-! # Start and scan over HTTP

The two operations twice: the routes of `api.py` on `repo.py`'s statements, and the handlers of
`hotpath.py` on those of `fastdb.py`.  A statement is atomic and commits on its own.
-/

structure TransactionRow where
  stationId : String
  status : TxStatus
  itemCount : Int
  runningTotalCents : Int
  startedAt : Time

structure ItemRow where
  transactionId : Int
  sku : String
  unitPriceCents : Int
  scannedAt : Time

/-- The two tables with their identity sequences, the clock, whether the server answers, and whether
the route's connection has come to a generic plan for `_SCAN`: its first executions are planned
for their own parameters. -/
structure Db where
  answers : Bool
  genericPlan : Bool
  transactions : Data.Table Int TransactionRow
  items : Data.Table Int ItemRow
  nextTransaction : Int
  nextItem : Int
  now : Time

/-- What runs against the database and may raise; an exception undoes no earlier statement. -/
abbrev Serve := ExceptT Raised (StateM Db)

/-- The values of an `integer` column, and of an `int` parameter. -/
def fitsInteger (value : Int) : Bool := decide (-2 ^ 31 ≤ value ∧ value < 2 ^ 31)

def fitsBigint (value : Int) : Bool := decide (-2 ^ 63 ≤ value ∧ value < 2 ^ 63)

/-- Sending a statement with its parameters, which are encoded first. -/
def send (encodes : Bool) : Serve Unit := do
  let db ← get
  if db.answers && encodes then pure () else throw .exception

/-- `INSERT INTO transaction … RETURNING` -/
def insertRow (stationId : String) : Serve (Int × TransactionRow) := do
  let db ← get
  let row : TransactionRow :=
    { stationId, status := .opened, itemCount := 0, runningTotalCents := 0, startedAt := db.now }
  match db.transactions.lookup db.nextTransaction with
  | some _ => throw .exception
  | none =>
      set { db with
        transactions := db.transactions.put db.nextTransaction row
        nextTransaction := db.nextTransaction + 1 }
      return (db.nextTransaction, row)

/-- The scan statement: the counters it returns, or no row.  Nothing is inserted without a row to
scan into, so only then is the price put into its `integer` column. -/
def scanRow (tx : Int) (sku : String) (priceCents : Int) : Serve (Option (Int × Int)) := do
  let db ← get
  match db.transactions.lookup tx with
  | none => return none
  | some row =>
      if row.status = .opened then
        let itemCount := row.itemCount + 1
        let runningTotalCents := row.runningTotalCents + priceCents
        if fitsInteger itemCount && fitsBigint runningTotalCents && fitsInteger priceCents &&
            (db.items.lookup db.nextItem).isNone then
          set { db with
            transactions := db.transactions.put tx { row with itemCount, runningTotalCents }
            items := db.items.put db.nextItem
              { transactionId := tx, sku, unitPriceCents := priceCents, scannedAt := db.now }
            nextItem := db.nextItem + 1 }
          return some (itemCount, runningTotalCents)
        else throw .exception
      else return none

def selectStatus (tx : Int) : Serve (Option TxStatus) := do
  let db ← get
  return (db.transactions.lookup tx).map TransactionRow.status

/-- `insert_transaction` -/
def insertTransaction (stationId : String) : Serve (Int × TransactionRow) := do
  send (isText stationId)
  insertRow stationId

/-- Planning `_SCAN`: a plan for this price casts it to `integer` before any row is looked for. -/
def planScan (priceCents : Int) : Serve Unit := do
  let db ← get
  if db.genericPlan || fitsInteger priceCents then pure () else throw .exception

/-- `scan_item`: the price's first use is to be added to a `bigint`, which gives the parameter its
type. -/
def scanItemRow (tx : Int) (sku : String) (priceCents : Int) : Serve (Option (Int × Int)) := do
  send (fitsBigint tx && fitsBigint priceCents && isText sku)
  planScan priceCents
  scanRow tx sku priceCents

/-- `get_status` -/
def getStatus (tx : Int) : Serve (Option TxStatus) := do
  send (fitsBigint tx)
  selectStatus tx

/-- `fetchrow(START, station_id)` -/
def fetchStart (stationId : String) : Serve (Int × TransactionRow) := do
  send (isText stationId)
  insertRow stationId

/-- `fetchrow(SCAN, tx_id, price_cents, sku)`, with `$2::int` -/
def fetchScan (tx priceCents : Int) (sku : String) : Serve (Option (Int × Int)) := do
  send (fitsBigint tx && fitsInteger priceCents && isText sku)
  scanRow tx sku priceCents

/-- `fetchrow(STATUS, tx_id)` -/
def fetchStatus (tx : Int) : Serve (Option TxStatus) := do
  send (fitsBigint tx)
  selectStatus tx

/-- What the service is given: `orjson.loads`, `cents_to_amount`, `isoformat`, and the catalog
snapshot of SKU to name and price. -/
structure Service where
  loads : ByteArray → Option Json
  centsToAmount : Int → Json
  isoformat : Time → String
  snapshot : TopicSnapshot (String × Int)

def publicId (tx : Int) : String := "tx-" ++ toString tx

def apiError (codeStatus : String × Nat) (message : String) : Raised :=
  .refused (.apiError ⟨codeStatus.1, codeStatus.2, message⟩)

def invalidRequest : String × Nat := ("INVALID_REQUEST", 400)
def transactionNotFound : String × Nat := ("TRANSACTION_NOT_FOUND", 404)
def skuNotFound : String × Nat := ("SKU_NOT_FOUND", 404)
def transactionNotOpen : String × Nat := ("TRANSACTION_NOT_OPEN", 409)
def internalError : String × Nat := ("INTERNAL_ERROR", 500)

/-- The value of a status, and what it reads in lower case. -/
def statusText : TxStatus → String
  | .opened => "OPEN"
  | .completing => "COMPLETING"
  | .completed => "COMPLETED"
  | .cancelled => "CANCELLED"

def notFoundMessage (tx : Int) : String := "Transaction " ++ publicId tx ++ " was not found."

def alreadyMessage (tx : Int) (status : TxStatus) : String :=
  "Transaction " ++ publicId tx ++ " is already " ++ (statusText status).toLower ++ "."

section

variable (service : Service)

/-- `get_snapshot().get(sku)` -/
def snapshotGet (sku : String) : Serve (Option (String × Int)) :=
  if service.snapshot.ready then return service.snapshot.get sku
  else throw (.refused (.upstreamUnavailable "catalog" "the catalog has not loaded yet"))

def startTransaction (stationId : String) : Serve Json := do
  let (id, row) ← insertTransaction stationId
  return .obj [("transactionId", .str (publicId id)), ("stationId", .str stationId),
    ("status", .str "OPEN"), ("itemCount", .int row.itemCount),
    ("runningTotal", service.centsToAmount row.runningTotalCents),
    ("startedAt", .str (service.isoformat row.startedAt))]

def raiseNotOpenOrMissing (tx : Int) : Serve Json := do
  match ← getStatus tx with
  | none => throw (apiError transactionNotFound (notFoundMessage tx))
  | some status => throw (apiError transactionNotOpen (alreadyMessage tx status))

def scanItem (tx : Int) (sku : String) : Serve Json := do
  match ← snapshotGet service sku with
  | none => throw (apiError skuNotFound ("SKU " ++ sku ++ " was not found."))
  | some (name, priceCents) =>
      match ← scanItemRow tx sku priceCents with
      | none => raiseNotOpenOrMissing tx
      | some (itemCount, runningTotalCents) =>
          return .obj [("transactionId", .str (publicId tx)), ("sku", .str sku), ("name", .str name),
            ("unitPrice", service.centsToAmount priceCents), ("itemCount", .int itemCount),
            ("runningTotal", service.centsToAmount runningTotalCents)]

def fastStartTransaction (stationId : String) : Serve Json := do
  let (id, row) ← fetchStart stationId
  return .obj [("transactionId", .str (publicId id)), ("stationId", .str stationId),
    ("status", .str "OPEN"), ("itemCount", .int row.itemCount),
    ("runningTotal", service.centsToAmount row.runningTotalCents),
    ("startedAt", .str (service.isoformat row.startedAt))]

def fastScanItem (tx : Int) (sku : String) : Serve Json := do
  match ← snapshotGet service sku with
  | none => throw (apiError skuNotFound ("SKU " ++ sku ++ " was not found."))
  | some (name, priceCents) =>
      match ← fetchScan tx priceCents sku with
      | none =>
          match ← fetchStatus tx with
          | none => throw (apiError transactionNotFound (notFoundMessage tx))
          | some status => throw (apiError transactionNotOpen (alreadyMessage tx status))
      | some (itemCount, runningTotalCents) =>
          return .obj [("transactionId", .str (publicId tx)), ("sku", .str sku), ("name", .str name),
            ("unitPrice", service.centsToAmount priceCents), ("itemCount", .int itemCount),
            ("runningTotal", service.centsToAmount runningTotalCents)]

/-- A POST request: the path with its percent-encoding decoded, and the whole body. -/
structure Request where
  path : String
  body : ByteArray

structure Response where
  status : Nat
  content : Json

def parseJsonBody (raw : ByteArray) (required : Bool) : Except Raised (List (String × Json)) :=
  if raw.size = 0 then
    if required then .error (apiError invalidRequest "A JSON body is required.") else .ok []
  else
    match service.loads raw with
    | none => .error (apiError invalidRequest "Request body is not valid JSON.")
    | some (.obj body) => .ok body
    | some _ => .error (apiError invalidRequest "Request body must be a JSON object.")

def requiredStr (body : List (String × Json)) (field : String) : Except Raised String :=
  match body.lookup field with
  | some (.str value) =>
      if value = "" then .error (apiError invalidRequest ("'" ++ field ++ "' must be a non-empty string."))
      else .ok value
  | _ => .error (apiError invalidRequest ("'" ++ field ++ "' must be a non-empty string."))

def errorBody (code message : String) : Json := .obj [("error", .str code), ("message", .str message)]

def pathParts (path : String) : List String := (path.toList.splitOn '/').map String.ofList

/-- `_is_hot`, of a POST request. -/
def isHot (path : String) : Bool :=
  if path = "/transactions" then true
  else
    match pathParts path with
    | [_, transactions, id, items] =>
        decide (transactions = "transactions" ∧ items = "items" ∧ id ≠ "")
    | _ => false

/-- `path.split("/")[2]` -/
def pathId (path : String) : Except Raised String :=
  match (pathParts path)[2]? with
  | some id => .ok id
  | none => .error .exception

/-- The body of `_handle`'s try. -/
def handleBody (request : Request) : Serve (Nat × Json) := do
  let body ← (parseJsonBody service request.body true : Except Raised _)
  if request.path = "/transactions" then
    let stationId ← (requiredStr body "stationId" : Except Raised _)
    return (201, ← fastStartTransaction service stationId)
  else
    let sku ← (requiredStr body "sku" : Except Raised _)
    let id ← (pathId request.path : Except Raised _)
    let tx ← (parseTxId id : Except Raised _)
    return (200, ← fastScanItem service tx sku)

/-- `_handle` -/
def handle (request : Request) (db : Db) : Response × Db :=
  match (handleBody service request).run.run db with
  | (.ok (status, content), after) => (⟨status, content⟩, after)
  | (.error (.refused (.apiError error)), after) =>
      (⟨error.httpStatus, errorBody error.code error.message⟩, after)
  | (.error (.refused (.upstreamUnavailable peer _)), after) =>
      (⟨503, errorBody internalError.1 (peer ++ " service is unavailable.")⟩, after)
  | (.error .exception, after) =>
      (⟨internalError.2, errorBody internalError.1 "An unexpected error occurred."⟩, after)

inductive Operation where
  | start
  | scan (transactionId : String)
deriving DecidableEq, Repr

/-- FastAPI's match of a POST path with the two routes, `{transaction_id}` being one or more
characters other than a slash; the end of a pattern is also before a final newline. -/
def route (path : String) : Option Operation :=
  if path = "/transactions" ∨ path = "/transactions\n" then some .start
  else
    match "/transactions/".toList.isPrefixOf? path.toList with
    | none => none
    | some rest =>
        if rest.takeWhile (· ≠ '/') ≠ [] ∧
            (rest.dropWhile (· ≠ '/') = "/items".toList ∨
              rest.dropWhile (· ≠ '/') = "/items\n".toList) then
          some (.scan (String.ofList (rest.takeWhile (· ≠ '/'))))
        else none

/-- The route's function. -/
def routeBody (request : Request) : Operation → Serve (Nat × Json)
  | .start => do
      let body ← (parseJsonBody service request.body true : Except Raised _)
      let stationId ← (requiredStr body "stationId" : Except Raised _)
      let result ← startTransaction service stationId
      return (201, result)
  | .scan transactionId => do
      let body ← (parseJsonBody service request.body true : Except Raised _)
      let sku ← (requiredStr body "sku" : Except Raised _)
      let tx ← (parseTxId transactionId : Except Raised _)
      let result ← scanItem service tx sku
      return (200, result)

/-- `_api_error`, `_upstream` and `_unhandled` -/
def exceptionHandler : Raised → Response
  | .refused (.apiError error) => ⟨error.httpStatus, errorBody error.code error.message⟩
  | .refused (.upstreamUnavailable peer _) =>
      ⟨503, errorBody internalError.1 (peer ++ " service is unavailable.")⟩
  | .exception => ⟨internalError.2, errorBody internalError.1 "An unexpected error occurred."⟩

/-- `_http`, of Starlette's own exceptions. -/
def httpHandler (statusCode : Nat) (detail : String) : Response :=
  let code :=
    if statusCode = 400 then invalidRequest.1
    else if statusCode = 404 then transactionNotFound.1
    else if statusCode = 409 then transactionNotOpen.1
    else internalError.1
  ⟨statusCode, errorBody code detail⟩

/-- The FastAPI application, of a path the hot path claims: one of no route has none with a slash
added either, so Starlette does not redirect it and answers 404. -/
def fastApi (request : Request) (db : Db) : Response × Db :=
  match route request.path with
  | none => (httpHandler 404 "Not Found", db)
  | some operation =>
      match (routeBody service request operation).run.run db with
      | (.ok (status, content), after) => (⟨status, content⟩, after)
      | (.error raised, after) => (exceptionHandler raised, after)

end

end SelfCheckout.Checkout.Http
