import SelfCheckout.Catalog.Seed
import SelfCheckout.Data.Window
import SelfCheckout.LoadClient.Json

namespace SelfCheckout.Mock

open SelfCheckout.Data SelfCheckout.Data.Rfc8259

/-! # The mock server's handlers

Every request runs on a thread of its own.  The threads share concurrent collections and
atomics and lock nothing, so a step of a handler is one read or write of what they share.
A transaction's id is `"tx-"` and the number that stands for it here; any other id is unknown.
-/

abbrev Sku := Text

abbrev TxId := Nat

abbrev HandlerId := Nat

/-- `POPULARITY_WINDOW` -/
def popularityWindow : Nat := 1000

inductive TxStatus where
  | opened
  | completed
  | cancelled
deriving DecidableEq, Repr

structure TxState where
  stationId : Text
  basket : List Sku
  status : TxStatus
deriving DecidableEq, Repr

/-- What `Json.getString` finds in the body; a body that is no JSON object makes it throw. -/
inductive Field where
  | unreadable
  | missing
  | value (text : Text)
deriving DecidableEq, Repr

inductive Request where
  | startTransaction (stationId : Field)
  | scanItem (tx : TxId) (sku : Field)
  | completeTransaction (tx : TxId)
  | getStatus (tx : TxId)
deriving DecidableEq, Repr

structure ApiError where
  status : Nat
  error : String
  message : String
deriving DecidableEq, Repr

/-- An answer; prices, totals and times are left out. -/
inductive Response where
  | started (tx : TxId) (stationId : Text)
  | scanned (tx : TxId) (sku : Sku) (itemCount : Nat)
  | receipt (tx : TxId) (itemCount : Nat)
  | status (tx : TxId) (status : TxStatus) (itemCount : Nat)
  | failed (error : ApiError)
  /-- The handler threw, and the connection is closed. -/
  | closed
deriving DecidableEq, Repr

def stationRequired : ApiError := ⟨400, "INVALID_REQUEST", "stationId is required"⟩

def noSuchTransaction : ApiError := ⟨404, "NOT_FOUND", "No such transaction"⟩

def unknownSku : ApiError := ⟨404, "UNKNOWN_SKU", "No such SKU"⟩

def notOpen : ApiError := ⟨409, "TRANSACTION_NOT_OPEN", "Transaction is not open"⟩

def alreadyFinalized : ApiError := ⟨409, "TRANSACTION_NOT_OPEN", "Transaction already finalized"⟩

def emptyBasket : ApiError := ⟨409, "EMPTY_BASKET", "Cannot complete an empty transaction"⟩

/-- The next thing a handler does. -/
inductive Phase where
  | received (request : Request)
  /-- `startTransaction` has its number, and puts the transaction. -/
  | putting (tx : TxId) (stationId : Text)
  /-- `scanItem` found the transaction open and the SKU in the catalog. -/
  | adding (tx : TxId) (sku : Sku)
  | remembering (tx : TxId) (sku : Sku)
  | trimming (tx : TxId) (sku : Sku)
  | sizing (tx : TxId) (sku : Sku)
  /-- `completeTransaction` found the transaction open. -/
  | checkingBasket (tx : TxId)
  | marking (tx : TxId)
  | iterating (tx : TxId)
  /-- The iterator's node, and the item it has read there already. -/
  | selling (tx : TxId) (position : Nat) (nextItem : Option Sku)
  | decrementing (tx : TxId) (sku : Sku) (position : Nat) (nextItem : Option Sku)
  | answered (response : Response)
deriving DecidableEq, Repr

structure MockServer where
  catalog : List Sku
  stock : Sku → Int
  transactions : Table TxId TxState
  txSequence : Nat
  recentScans : Window Sku
  handlers : HandlerId → Option Phase
  /-- The transactions whose status was set to COMPLETED, and the units taken off the stock. -/
  completions : List TxId
  sales : List (TxId × Sku)

/-- `Math.max(0, current - 1)` on 32 bits. -/
def decremented (current : Int) : Int := max 0 (Int.bmod (current - 1) (2 ^ 32))

/-- `"SKU-" + String.format("%06d", i)` -/
def catalogSku (index : Nat) : Sku := units "SKU-" ++ (Catalog.zeroPadded 6 index).map unit

def mockServer (catalogSize : Nat) (stockPerItem : Int) : MockServer :=
  { catalog := (List.range' 1 catalogSize).map catalogSku
    stock := fun _ => stockPerItem
    transactions := .empty
    txSequence := 0
    recentScans := .empty
    handlers := fun _ => none
    completions := []
    sales := [] }

namespace MockServer

def goto (server : MockServer) (handler : HandlerId) (phase : Phase) : MockServer :=
  { server with handlers := Function.update server.handlers handler (some phase) }

def respond (server : MockServer) (handler : HandlerId) (response : Response) : MockServer :=
  server.goto handler (.answered response)

/-- The first reads of a request. -/
def begin (server : MockServer) (handler : HandlerId) : Request → MockServer
  | .startTransaction .unreadable => server.respond handler .closed
  | .startTransaction .missing => server.respond handler (.failed stationRequired)
  | .startTransaction (.value stationId) =>
      if stationId.all LoadClient.isWhitespace then server.respond handler (.failed stationRequired)
      else
        { server.goto handler (.putting (server.txSequence + 1) stationId) with
          txSequence := server.txSequence + 1 }
  | .scanItem tx sku =>
      match server.transactions.lookup tx with
      | none => server.respond handler (.failed noSuchTransaction)
      | some row =>
          if row.status = .opened then
            match sku with
            | .unreadable => server.respond handler .closed
            | .missing => server.respond handler (.failed unknownSku)
            | .value sku =>
                if sku ∈ server.catalog then server.goto handler (.adding tx sku)
                else server.respond handler (.failed unknownSku)
          else server.respond handler (.failed notOpen)
  | .completeTransaction tx =>
      match server.transactions.lookup tx with
      | none => server.respond handler (.failed noSuchTransaction)
      | some row =>
          if row.status = .opened then server.goto handler (.checkingBasket tx)
          else server.respond handler (.failed alreadyFinalized)
  | .getStatus tx =>
      match server.transactions.lookup tx with
      | none => server.respond handler (.failed noSuchTransaction)
      | some row => server.respond handler (.status tx row.status row.basket.length)

def lists (server : MockServer) (sku : Sku) : Bool := sku ∈ server.catalog

def basketOf (server : MockServer) (tx : TxId) : List Sku :=
  (server.transactions.lookup tx).elim [] TxState.basket

/-- A step of a handler; `none` where it has nothing to do. -/
def proceed (server : MockServer) (handler : HandlerId) : Phase → Option MockServer
  | .received request => some (server.begin handler request)
  | .putting tx stationId => some
      { server.respond handler (.started tx stationId) with
        transactions := server.transactions.put tx ⟨stationId, [], .opened⟩ }
  | .adding tx sku => some
      { server.goto handler (.remembering tx sku) with
        transactions := server.transactions.alter tx (fun row =>
          { row with basket := row.basket ++ [sku] }) }
  | .remembering tx sku =>
      (server.recentScans.step popularityWindow (.append handler sku)).map (fun recentScans =>
        { server.goto handler (.trimming tx sku) with recentScans })
  | .trimming tx sku =>
      (server.recentScans.step popularityWindow (.proceed handler)).map (fun recentScans =>
        { server.goto handler
            (if (recentScans.trims handler).isSome then .trimming tx sku else .sizing tx sku) with
          recentScans })
  | .sizing tx sku => some (server.respond handler (.scanned tx sku (server.basketOf tx).length))
  | .checkingBasket tx => some
      (if server.basketOf tx = [] then server.respond handler (.failed emptyBasket)
      else server.goto handler (.marking tx))
  | .marking tx => some
      { server.goto handler (.iterating tx) with
        transactions := server.transactions.alter tx (fun row => { row with status := .completed })
        completions := server.completions ++ [tx] }
  | .iterating tx => some (server.goto handler (.selling tx 0 (server.basketOf tx)[0]?))
  | .selling tx position (some sku) => some
      (server.goto handler
        (.decrementing tx sku (position + 1) (server.basketOf tx)[position + 1]?))
  | .selling tx _ none => some (server.respond handler (.receipt tx (server.basketOf tx).length))
  | .decrementing tx sku position nextItem => some
      { server.goto handler (.selling tx position nextItem) with
        stock := Function.update server.stock sku (decremented (server.stock sku))
        sales := server.sales ++ [(tx, sku)] }
  | .answered _ => none

end MockServer

inductive Action where
  | receive (handler : HandlerId) (request : Request)
  | proceed (handler : HandlerId)
  /-- `recentScans.size()` starts again. -/
  | restart (handler : HandlerId)
  /-- The answer is sent, or its connection is lost. -/
  | finish (handler : HandlerId)
deriving DecidableEq, Repr

def step (server : MockServer) : Action → Option MockServer
  | .receive handler request =>
      match server.handlers handler with
      | none => some (server.goto handler (.received request))
      | some _ => none
  | .proceed handler =>
      match server.handlers handler with
      | none => none
      | some phase => server.proceed handler phase
  | .restart handler =>
      (server.recentScans.step popularityWindow (.restart handler)).map (fun recentScans =>
        { server with recentScans })
  | .finish handler =>
      match server.handlers handler with
      | some (.answered _) =>
          some { server with handlers := Function.update server.handlers handler none }
      | _ => none

/-- The handler has no transaction to put and no scan to remember or trim. -/
def Phase.settled : Phase → Bool
  | .putting _ _ | .remembering _ _ | .trimming _ _ => false
  | _ => true

/-- The transaction that a handler has found. -/
def Phase.found : Phase → Option TxId
  | .adding tx _ | .remembering tx _ | .trimming tx _ | .sizing tx _ | .checkingBasket tx
  | .marking tx | .iterating tx | .selling tx _ _ | .decrementing tx _ _ _ => some tx
  | .received _ | .putting _ _ | .answered _ => none

section Steps

variable {server after : MockServer} {handler : HandlerId} {request : Request} {phase : Phase}
  {action : Action}

@[simp] theorem handlers_goto_self (phase : Phase) :
    (server.goto handler phase).handlers handler = some phase := by
  simp [MockServer.goto]

theorem handlers_goto_of_ne {other : HandlerId} (different : other ≠ handler) (phase : Phase) :
    (server.goto handler phase).handlers other = server.handlers other := by
  simp [MockServer.goto, different]

/-- What the first reads of a request lead to. -/
inductive Begins (server : MockServer) (handler : HandlerId) : MockServer → Prop where
  | responds (response : Response) : Begins server handler (server.respond handler response)
  | numbers (stationId : Text) : Begins server handler
      { server.goto handler (.putting (server.txSequence + 1) stationId) with
        txSequence := server.txSequence + 1 }
  | adds {tx : TxId} {sku : Sku} {row : TxState} (known : server.transactions.lookup tx = some row)
      (isOpen : row.status = .opened) (listed : sku ∈ server.catalog) :
      Begins server handler (server.goto handler (.adding tx sku))
  | completes {tx : TxId} {row : TxState} (known : server.transactions.lookup tx = some row)
      (isOpen : row.status = .opened) :
      Begins server handler (server.goto handler (.checkingBasket tx))

theorem begin_begins (server : MockServer) (handler : HandlerId) (request : Request) :
    Begins server handler (server.begin handler request) := by
  cases request with
  | startTransaction stationId =>
      cases stationId with
      | unreadable => exact .responds _
      | missing => exact .responds _
      | value stationId =>
          simp only [MockServer.begin]
          split
          · exact .responds _
          · exact .numbers stationId
  | scanItem tx sku =>
      simp only [MockServer.begin]
      split
      · exact .responds _
      · rename_i row known
        split
        · rename_i isOpen
          split
          · exact .responds _
          · exact .responds _
          · rename_i sku
            split
            · rename_i listed
              exact .adds known isOpen listed
            · exact .responds _
        · exact .responds _
  | completeTransaction tx =>
      simp only [MockServer.begin]
      split
      · exact .responds _
      · rename_i row known
        split
        · rename_i isOpen
          exact .completes known isOpen
        · exact .responds _
  | getStatus tx =>
      simp only [MockServer.begin]
      split
      · exact .responds _
      · exact .responds _

/-- Inversion of `step`. -/
inductive Takes (server : MockServer) : Action → MockServer → Prop where
  | receives {handler : HandlerId} {request : Request} (free : server.handlers handler = none) :
      Takes server (.receive handler request) (server.goto handler (.received request))
  | proceeds {handler : HandlerId} {phase : Phase} {after : MockServer}
      (here : server.handlers handler = some phase)
      (done : server.proceed handler phase = some after) : Takes server (.proceed handler) after
  | restarts {handler : HandlerId} {recentScans : Window Sku}
      (done : server.recentScans.step popularityWindow (.restart handler) = some recentScans) :
      Takes server (.restart handler) { server with recentScans }
  | finishes {handler : HandlerId} {response : Response}
      (here : server.handlers handler = some (.answered response)) :
      Takes server (.finish handler)
        { server with handlers := Function.update server.handlers handler none }

theorem step_takes (taken : step server action = some after) : Takes server action after := by
  cases action with
  | receive handler request =>
      simp only [step] at taken
      split at taken
      · rename_i free
        cases taken
        exact .receives free
      · contradiction
  | proceed handler =>
      simp only [step] at taken
      split at taken
      · contradiction
      · rename_i phase here
        exact .proceeds here taken
  | restart handler =>
      simp only [step, Option.map_eq_some_iff] at taken
      obtain ⟨recentScans, done, rfl⟩ := taken
      exact .restarts done
  | finish handler =>
      simp only [step] at taken
      split at taken
      · rename_i response here
        cases taken
        exact .finishes here
      · contradiction

/-- What a step of a handler does, the transaction it has found being there. -/
inductive Proceeds (server : MockServer) (handler : HandlerId) : Phase → MockServer → Prop where
  /-- It reads. -/
  | moves {phase next : Phase} (before : phase.settled = true)
      (later : next.settled = true)
      (found : ∀ tx, next.found = some tx → (server.transactions.lookup tx).isSome = true) :
      Proceeds server handler phase (server.goto handler next)
  | numbers {request : Request} (stationId : Text) : Proceeds server handler (.received request)
      { server.goto handler (.putting (server.txSequence + 1) stationId) with
        txSequence := server.txSequence + 1 }
  | puts {tx : TxId} {stationId : Text} : Proceeds server handler (.putting tx stationId)
      { server.respond handler (.started tx stationId) with
        transactions := server.transactions.put tx ⟨stationId, [], .opened⟩ }
  | adds {tx : TxId} {sku : Sku} : Proceeds server handler (.adding tx sku)
      { server.goto handler (.remembering tx sku) with
        transactions := server.transactions.alter tx (fun row =>
          { row with basket := row.basket ++ [sku] }) }
  | remembers {tx : TxId} {sku : Sku} {recentScans : Window Sku}
      (appended : server.recentScans.step popularityWindow (.append handler sku) = some recentScans) :
      Proceeds server handler (.remembering tx sku)
        { server.goto handler (.trimming tx sku) with recentScans }
  | trims {tx : TxId} {sku : Sku} {recentScans : Window Sku}
      (walked : server.recentScans.step popularityWindow (.proceed handler) = some recentScans) :
      Proceeds server handler (.trimming tx sku)
        { server.goto handler
            (if (recentScans.trims handler).isSome then .trimming tx sku else .sizing tx sku) with
          recentScans }
  | marks {tx : TxId} : Proceeds server handler (.marking tx)
      { server.goto handler (.iterating tx) with
        transactions := server.transactions.alter tx (fun row => { row with status := .completed })
        completions := server.completions ++ [tx] }
  | sells {tx : TxId} {sku : Sku} {position : Nat} {nextItem : Option Sku} :
      Proceeds server handler (.decrementing tx sku position nextItem)
        { server.goto handler (.selling tx position nextItem) with
          stock := Function.update server.stock sku (decremented (server.stock sku))
          sales := server.sales ++ [(tx, sku)] }

theorem proceed_proceeds
    (found : ∀ tx, phase.found = some tx → (server.transactions.lookup tx).isSome = true)
    (done : server.proceed handler phase = some after) : Proceeds server handler phase after := by
  cases phase with
  | received request =>
      have begins := begin_begins server handler request
      simp only [MockServer.proceed, Option.some.injEq] at done
      rw [done] at begins
      cases begins with
      | responds response => exact .moves rfl rfl (fun _ none => by contradiction)
      | numbers stationId => exact .numbers stationId
      | adds known =>
          refine .moves rfl rfl ?_
          rintro _ ⟨⟩
          simp [known]
      | completes known =>
          refine .moves rfl rfl ?_
          rintro _ ⟨⟩
          simp [known]
  | putting tx stationId =>
      cases done
      exact .puts
  | adding tx sku =>
      cases done
      exact .adds
  | remembering tx sku =>
      simp only [MockServer.proceed, Option.map_eq_some_iff] at done
      obtain ⟨recentScans, appended, rfl⟩ := done
      exact .remembers appended
  | trimming tx sku =>
      simp only [MockServer.proceed, Option.map_eq_some_iff] at done
      obtain ⟨recentScans, walked, rfl⟩ := done
      exact .trims walked
  | sizing tx sku =>
      cases done
      exact .moves rfl rfl (fun _ none => by contradiction)
  | checkingBasket tx =>
      simp only [MockServer.proceed, Option.some.injEq] at done
      subst done
      split
      · exact .moves rfl rfl (fun _ none => by contradiction)
      · exact .moves rfl rfl found
  | marking tx =>
      cases done
      exact .marks
  | iterating tx =>
      cases done
      exact .moves rfl rfl found
  | selling tx position nextItem =>
      cases nextItem with
      | none =>
          cases done
          exact .moves rfl rfl (fun _ none => by contradiction)
      | some sku =>
          cases done
          exact .moves rfl rfl found
  | decrementing tx sku position nextItem =>
      cases done
      exact .sells
  | answered response => contradiction

/-- The others are left alone, and the handler is somewhere. -/
theorem Proceeds.handlers (proceeds : Proceeds server handler phase after) :
    ∃ next, after.handlers = Function.update server.handlers handler (some next) := by
  cases proceeds <;> exact ⟨_, rfl⟩

end Steps

end SelfCheckout.Mock
