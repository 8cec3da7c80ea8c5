import SelfCheckout.Checkout.Http
import SelfCheckout.Data.Segments

namespace SelfCheckout.Checkout.Http

open SelfCheckout.Bus SelfCheckout.Catalog SelfCheckout.Data

/-! # The hot path answers as the routes do

Where the handlers of `hotpath.py` and the routes of `api.py` give one answer and leave one
database, and where they do not.
-/

/-- The operation `_handle` takes a path for. -/
def hotOperation (path : String) : Option Operation :=
  if path = "/transactions" then some .start else (pathParts path)[2]?.map .scan

/-- FastAPI routes the path to the same operation and transaction, and the two give the same answer
and leave the same tables.  The id and the time a row gets are the database's, so they are the
same as well. -/
structure SameAnswer (service : Service) (request : Request) (db : Db) : Prop where
  routed : route request.path = hotOperation request.path
  answered : handle service request db = fastApi service request db

/-- What `_is_hot` claims beside `/transactions`; `first` is what stands before the first slash. -/
structure ScanPath (path first id : String) : Prop where
  parts : pathParts path = [first, "transactions", id, "items"]
  text : path.toList = first.toList ++ "/transactions/".toList ++ (id.toList ++ "/items".toList)
  first_part : '/' ∉ first.toList
  id_part : '/' ∉ id.toList
  id_ne : id.toList ≠ []

theorem isHot_cases {path : String} (hot : isHot path = true) :
    path = "/transactions" ∨ ∃ first id, ScanPath path first id := by
  by_cases start : path = "/transactions"
  · exact .inl start
  right
  rw [isHot, if_neg start] at hot
  split at hot
  next first transactions id items parts =>
    simp only [decide_eq_true_eq] at hot
    obtain ⟨rfl, rfl, nonempty⟩ := hot
    have whole : path.toList.splitOn '/' =
        [first.toList, "transactions".toList, id.toList, "items".toList] := by
      simpa [pathParts, Function.comp_def] using congrArg (List.map String.toList) parts
    obtain ⟨firstPart, afterFirst, text, splitFirst⟩ := splitOn_cons_cons whole
    obtain ⟨-, afterSecond, rfl, splitSecond⟩ := splitOn_cons_cons splitFirst
    obtain ⟨idPart, afterId, rfl, splitId⟩ := splitOn_cons_cons splitSecond
    obtain ⟨-, ⟨-, rfl⟩ | ⟨_, -, more⟩⟩ := splitOn_cons splitId
    · exact ⟨first, id, parts, by simp [text], firstPart, idPart, by simpa using nonempty⟩
    · exact absurd more (List.splitOn_ne_nil _ _)
  next => cases hot

theorem ScanPath.four {path first id : String} (scan : ScanPath path first id) :
    (pathParts path).length = 4 := by
  rw [scan.parts]
  rfl

theorem ScanPath.ne_start {path first id : String} (scan : ScanPath path first id) :
    path ≠ "/transactions" := by
  rintro rfl
  exact absurd scan.four (by decide +kernel)

theorem ScanPath.ne_start_newline {path first id : String} (scan : ScanPath path first id) :
    path ≠ "/transactions\n" := by
  rintro rfl
  exact absurd scan.four (by decide +kernel)

theorem ScanPath.hotOperation_eq {path first id : String} (scan : ScanPath path first id) :
    hotOperation path = some (.scan id) := by
  simp [hotOperation, scan.ne_start, scan.parts]

theorem route_scan {path id : String} (scan : ScanPath path "" id) :
    route path = some (.scan id) := by
  have found : "/transactions/".toList.isPrefixOf? path.toList =
      some (id.toList ++ "/items".toList) := by
    rw [scan.text]; simp
  have taken : (id.toList ++ "/items".toList).takeWhile (· ≠ '/') = id.toList := by
    rw [List.takeWhile_append_of_pos fun letter member => by
      simpa using fun same : letter = '/' => scan.id_part (same ▸ member)]
    simp
  have dropped : (id.toList ++ "/items".toList).dropWhile (· ≠ '/') = "/items".toList := by
    rw [List.dropWhile_append_of_pos fun letter member => by
      simpa using fun same : letter = '/' => scan.id_part (same ▸ member)]
    simp
  simp only [route, scan.ne_start, scan.ne_start_newline, or_self, if_false, found]
  rw [taken, dropped, if_pos ⟨scan.id_ne, .inl rfl⟩, String.ofList_toList]

theorem ScanPath.head?_eq {path first id : String} (scan : ScanPath path first id) :
    path.toList.head? = some '/' ↔ first = "" := by
  rw [scan.text, ← String.toList_eq_nil_iff]
  cases letters : first.toList with
  | nil => simp
  | cons letter others =>
      have absent := scan.first_part
      rw [letters] at absent
      simp [show letter ≠ '/' by rintro rfl; simp at absent]

theorem route_none {path first id : String} (scan : ScanPath path first id) (extra : first ≠ "") :
    route path = none := by
  have found : "/transactions/".toList.isPrefixOf? path.toList = none := by
    have unslashed := mt scan.head?_eq.mp extra
    cases letters : path.toList with
    | nil => rfl
    | cons letter others =>
        rw [letters] at unslashed
        simp [List.isPrefixOf?, show '/' ≠ letter by rintro rfl; simp at unslashed]
  simp only [route, scan.ne_start, scan.ne_start_newline, or_self, if_false, found]

/-- What comes of it, and the database after it. -/
def Serve.exec {Result : Type} (serve : Serve Result) (db : Db) : Except Raised Result × Db :=
  serve.run.run db

section

variable {Result Next : Type} (db : Db)

theorem Serve.exec_bind (first : Serve Result) (next : Result → Serve Next) :
    (first >>= next).exec db =
      match first.exec db with
      | (.ok result, after) => (next result).exec after
      | (.error raised, after) => (.error raised, after) := by
  simp only [Serve.exec, ExceptT.run_bind, StateT.run_bind]
  cases outcome : first.run.run db with
  | mk result after => cases result <;> rfl

theorem Serve.exec_pure (result : Result) : (pure result : Serve Result).exec db = (.ok result, db) :=
  rfl

theorem Serve.exec_throw (raised : Raised) :
    (throw raised : Serve Result).exec db = (.error raised, db) := rfl

theorem Serve.exec_lift (result : Except Raised Result) :
    Serve.exec (liftM result) db = (result, db) := by
  cases result <;> rfl

end

theorem Serve.exec_get (db : Db) : (get : Serve Db).exec db = (.ok db, db) := rfl

theorem send_exec (encodes : Bool) (db : Db) :
    (send encodes).exec db =
      if (db.answers && encodes) = true then (.ok (), db) else (.error .exception, db) := by
  by_cases sent : (db.answers && encodes) = true
  · rw [if_pos sent]
    change Serve.exec (if (db.answers && encodes) = true then pure () else throw .exception) db = _
    rw [if_pos sent]; rfl
  · rw [if_neg sent]
    change Serve.exec (if (db.answers && encodes) = true then pure () else throw .exception) db = _
    rw [if_neg sent]; rfl

theorem planScan_exec (priceCents : Int) (db : Db) :
    (planScan priceCents).exec db =
      if (db.genericPlan || fitsInteger priceCents) = true then (.ok (), db)
      else (.error .exception, db) := by
  by_cases planned : (db.genericPlan || fitsInteger priceCents) = true
  · rw [if_pos planned]
    change Serve.exec (if (db.genericPlan || fitsInteger priceCents) = true then pure ()
      else throw .exception) db = _
    rw [if_pos planned]; rfl
  · rw [if_neg planned]
    change Serve.exec (if (db.genericPlan || fitsInteger priceCents) = true then pure ()
      else throw .exception) db = _
    rw [if_neg planned]; rfl

/-- The transaction is missing or not OPEN. -/
def NotOpen (tx : Int) (db : Db) : Prop :=
  ∀ row, db.transactions.lookup tx = some row → row.status ≠ .opened

theorem scanRow_notOpen {tx : Int} {db : Db} (notOpen : NotOpen tx db) (sku : String)
    (priceCents : Int) : (scanRow tx sku priceCents).exec db = (.ok none, db) := by
  cases found : db.transactions.lookup tx with
  | none =>
      simp only [scanRow, Serve.exec_bind, Serve.exec_get, found, Serve.exec_pure]
  | some row =>
      simp only [scanRow, Serve.exec_bind, Serve.exec_get, found, if_neg (notOpen row found),
        Serve.exec_pure]

theorem scanRow_open {tx : Int} {db : Db} {row : TransactionRow}
    (found : db.transactions.lookup tx = some row) (opened : row.status = .opened) (sku : String)
    {priceCents : Int} (large : fitsInteger priceCents = false) :
    (scanRow tx sku priceCents).exec db = (.error .exception, db) := by
  simp [scanRow, Serve.exec_bind, Serve.exec_get, found, opened, large, Serve.exec_throw]

theorem fitsBigint_of_fitsInteger {value : Int} (fits : fitsInteger value = true) :
    fitsBigint value = true := by
  simp only [fitsInteger, fitsBigint, decide_eq_true_eq] at fits ⊢
  omega

theorem fetchScan_fits (tx : Int) (sku : String) {priceCents : Int}
    (fits : fitsInteger priceCents = true) (db : Db) :
    (fetchScan tx priceCents sku).exec db = (scanItemRow tx sku priceCents).exec db := by
  simp only [fetchScan, scanItemRow, Serve.exec_bind, send_exec, planScan_exec, fits,
    fitsBigint_of_fitsInteger fits, Bool.or_true, if_true]

theorem fetchScan_large (tx : Int) (sku : String) {priceCents : Int}
    (large : fitsInteger priceCents = false) (db : Db) :
    (fetchScan tx priceCents sku).exec db = (.error .exception, db) := by
  simp [fetchScan, Serve.exec_bind, send_exec, large]

/-- The snapshot's price of the SKU fits `bigint` and not `integer`, the transaction is missing or
not OPEN, and nothing keeps the route's statement from the database, where a generic plan runs it. -/
structure OversizedPrice (service : Service) (db : Db) (tx : Int) (sku : String) : Prop where
  ready : service.snapshot.ready = true
  price : ∃ name priceCents, service.snapshot.get sku = some (name, priceCents) ∧
    fitsInteger priceCents = false ∧ fitsBigint priceCents = true
  answers : db.answers = true
  generic : db.genericPlan = true
  bigint : fitsBigint tx = true
  text : isText sku = true
  notOpen : NotOpen tx db

section

variable (service : Service) {db : Db} {tx : Int} {sku : String}

theorem scanItemRow_large {priceCents : Int} (large : fitsInteger priceCents = false)
    (other : ¬(db.answers = true ∧ db.genericPlan = true ∧ fitsBigint tx = true ∧
      fitsBigint priceCents = true ∧ isText sku = true ∧ NotOpen tx db)) :
    (scanItemRow tx sku priceCents).exec db = (.error .exception, db) := by
  by_cases encodes :
      (db.answers && (fitsBigint tx && fitsBigint priceCents && isText sku)) = true
  · rw [scanItemRow, Serve.exec_bind, send_exec, if_pos encodes]
    simp only [Serve.exec_bind, planScan_exec, large, Bool.or_false]
    cases generic : db.genericPlan with
    | false => simp
    | true =>
        simp only [Bool.and_eq_true] at encodes
        have opened : ¬NotOpen tx db := fun notOpen =>
          other ⟨encodes.1, generic, encodes.2.1.1, encodes.2.1.2, encodes.2.2, notOpen⟩
        simp only [NotOpen, not_forall, not_not] at opened
        obtain ⟨row, found, opened⟩ := opened
        simpa using scanRow_open found opened sku large
  · rw [scanItemRow, Serve.exec_bind, send_exec, if_neg encodes]

theorem snapshotGet_exec (sku : String) (db : Db) :
    (snapshotGet service sku).exec db =
      if service.snapshot.ready = true then (.ok (service.snapshot.get sku), db)
      else (.error (.refused (.upstreamUnavailable "catalog" "the catalog has not loaded yet")), db) := by
  rw [snapshotGet]
  split <;> rfl

/-- The two scans from the same snapshot differ in their statement only. -/
theorem fastScanItem_exec (fine : ¬OversizedPrice service db tx sku) :
    (fastScanItem service tx sku).exec db = (scanItem service tx sku).exec db := by
  rw [fastScanItem, scanItem, Serve.exec_bind, Serve.exec_bind, snapshotGet_exec]
  by_cases ready : service.snapshot.ready = true
  swap
  · rw [if_neg ready]
  rw [if_pos ready]
  cases priced : service.snapshot.get sku with
  | none => rfl
  | some entry =>
      obtain ⟨name, priceCents⟩ := entry
      cases size : fitsInteger priceCents with
      | true =>
          simp only [Serve.exec_bind, fetchScan_fits tx sku size]
          rfl
      | false =>
          have same : (fetchScan tx priceCents sku).exec db = (scanItemRow tx sku priceCents).exec db := by
            rw [fetchScan_large tx sku size, scanItemRow_large size]
            rintro ⟨answers, generic, bigint, fits, text, notOpen⟩
            exact fine ⟨ready, ⟨name, priceCents, priced, size, fits⟩, answers, generic, bigint,
              text, notOpen⟩
          simp only [Serve.exec_bind, same]
          rfl

theorem raiseNotOpenOrMissing_exec (answers : db.answers = true) (bigint : fitsBigint tx = true) :
    ∃ error, (raiseNotOpenOrMissing tx).exec db = (.error (.refused (.apiError error)), db) ∧
      error.httpStatus ≠ 500 := by
  simp only [raiseNotOpenOrMissing, getStatus, selectStatus, Serve.exec_bind, send_exec,
    answers, bigint, Bool.and_self, if_true, Serve.exec_get, Serve.exec_pure]
  cases db.transactions.lookup tx with
  | none => exact ⟨_, rfl, show 404 ≠ 500 by decide⟩
  | some row => exact ⟨_, rfl, show 409 ≠ 500 by decide⟩

theorem scan_oversized (oversized : OversizedPrice service db tx sku) :
    (fastScanItem service tx sku).exec db = (.error .exception, db) ∧
      ∃ error, (scanItem service tx sku).exec db = (.error (.refused (.apiError error)), db) ∧
        error.httpStatus ≠ 500 := by
  obtain ⟨ready, ⟨name, priceCents, priced, large, fits⟩, answers, generic, bigint, text,
    notOpen⟩ := oversized
  have reached : (scanItemRow tx sku priceCents).exec db = (.ok none, db) := by
    simp only [scanItemRow, Serve.exec_bind, send_exec, planScan_exec, answers, generic, bigint,
      fits, text, Bool.and_self, Bool.true_or, if_true, scanRow_notOpen notOpen]
  constructor
  · simp only [fastScanItem, Serve.exec_bind, snapshotGet_exec, if_pos ready, priced,
      fetchScan_large tx sku large]
  · simp only [scanItem, Serve.exec_bind, snapshotGet_exec, if_pos ready, priced, reached]
    exact raiseNotOpenOrMissing_exec answers bigint

end

/-- What both answer a scan from, in the order both check it. -/
def scanFields (service : Service) (raw : ByteArray) (id : String) : Except Raised (Int × String) := do
  let body ← parseJsonBody service raw true
  let sku ← requiredStr body "sku"
  let tx ← parseTxId id
  return (tx, sku)

/-- A scan of what a request was read as. -/
def scanOf (scan : Int → String → Serve Json) (db : Db) :
    Except Raised (Int × String) → Except Raised (Nat × Json) × Db
  | .ok (tx, sku) =>
      match (scan tx sku).exec db with
      | (.ok content, after) => (.ok (200, content), after)
      | (.error raised, after) => (.error raised, after)
  | .error raised => (.error raised, db)

/-- The request is a scan whose price is oversized. -/
def OversizedScan (service : Service) (request : Request) (db : Db) : Prop :=
  ∃ id tx sku, hotOperation request.path = some (.scan id) ∧
    scanFields service request.body id = .ok (tx, sku) ∧ OversizedPrice service db tx sku

/-- The response to what a handler returns or raises. -/
def respond : Except Raised (Nat × Json) × Db → Response × Db
  | (.ok (status, content), after) => (⟨status, content⟩, after)
  | (.error raised, after) => (exceptionHandler raised, after)

section

variable (service : Service) (request : Request) (db : Db)

theorem handle_eq : handle service request db = respond ((handleBody service request).exec db) := by
  rw [handle]
  change _ = respond ((handleBody service request).run.run db)
  split <;> next ran => rw [ran]; rfl

theorem fastApi_eq {operation : Operation} (routed : route request.path = some operation) :
    fastApi service request db = respond ((routeBody service request operation).exec db) := by
  rw [fastApi, routed]
  rfl

/-- Both run the same reads of a request before their scan. -/
theorem scanFields_exec (id : String) (scan : Int → String → Serve Json) :
    Serve.exec (do
        let body ← (parseJsonBody service request.body true : Except Raised _)
        let sku ← (requiredStr body "sku" : Except Raised _)
        let tx ← (parseTxId id : Except Raised _)
        let content ← scan tx sku
        return (200, content)) db =
      scanOf scan db (scanFields service request.body id) := by
  simp only [Serve.exec_bind, Serve.exec_lift, scanFields]
  cases parseJsonBody service request.body true with
  | error raised => rfl
  | ok body =>
      cases required : requiredStr body "sku" with
      | error raised => simp [required, Bind.bind, Except.bind, scanOf]
      | ok sku =>
          cases parseTxId id with
          | error raised => simp [required, Bind.bind, Except.bind, scanOf]
          | ok tx =>
              simp only [required, Bind.bind, Except.bind, pure, Except.pure, scanOf]
              cases (scan tx sku).exec db with
              | mk result after => cases result <;> rfl

theorem handleBody_start (start : request.path = "/transactions") :
    handleBody service request = routeBody service request .start := by
  simp only [handleBody, start, if_true, routeBody]
  rfl

theorem ScanPath.handle_eq {first id : String} (scan : ScanPath request.path first id) :
    handle service request db =
      respond (scanOf (fastScanItem service) db (scanFields service request.body id)) := by
  rw [Http.handle_eq, ← scanFields_exec]
  have pathId : pathId request.path = .ok id := by simp [pathId, scan.parts]
  simp only [handleBody, if_neg scan.ne_start, pathId]
  rfl

theorem fastApi_scan {id : String} (routed : route request.path = some (.scan id)) :
    fastApi service request db =
      respond (scanOf (scanItem service) db (scanFields service request.body id)) := by
  rw [fastApi_eq service request db routed, ← scanFields_exec]
  rfl

end

/-- One SKU at this price, and bodies that name it. -/
def appleService (priceCents : Int) : Service where
  loads raw :=
    if raw.data = "\x7b\"sku\":\"SKU-000001\"\x7d".toUTF8.data then
      some (.obj [("sku", .str "SKU-000001")])
    else none
  centsToAmount cents := if cents = 199 then .float "1.99" else .float "0.0"
  isoformat _ := "2026-01-01T00:00:00+00:00"
  snapshot :=
    { items := Table.empty.put "SKU-000001" ("Apple", priceCents), expected := some 1, ready := true }

/-- One open transaction, on a connection that has run many scans. -/
def openDb : Db where
  answers := true
  genericPlan := true
  transactions := Table.empty.put 1
    { stationId := "station-1", status := .opened, itemCount := 0, runningTotalCents := 0,
      startedAt := 0 }
  items := Table.empty
  nextTransaction := 2
  nextItem := 1
  now := 1

def scanRequest (path : String) : Request :=
  { path, body := "\x7b\"sku\":\"SKU-000001\"\x7d".toUTF8 }

end SelfCheckout.Checkout.Http
