import SelfCheckout.Checkout.Tables

namespace SelfCheckout.Checkout

open SelfCheckout.Data

/-! # The local transactions of the saga

`_begin` decides under the transaction's row lock.  Every other local
transaction is one statement, or one statement and the request it queues.  A
take-over reads the completion record and writes it back with the row lock held
but the record itself unlocked, so it is two steps.
-/

structure ApiError where
  code : String
  httpStatus : Nat
  message : String
deriving DecidableEq, Repr

inductive Refusal where
  | apiError (error : ApiError)
  | upstreamUnavailable (peer detail : String)
deriving DecidableEq, Repr

def publicId (tx : TxId) : String := "tx-" ++ toString tx

def transactionNotFound (tx : TxId) : Refusal :=
  .apiError ⟨"TRANSACTION_NOT_FOUND", 404, "Transaction " ++ publicId tx ++ " was not found."⟩

/-- A transaction that cannot be completed, with the word for what it is. -/
def transactionNotOpen (tx : TxId) (word : String) : Refusal :=
  .apiError ⟨"TRANSACTION_NOT_OPEN", 409,
    "Transaction " ++ publicId tx ++ " is already " ++ word ++ "."⟩

def emptyBasket (tx : TxId) : Refusal :=
  .apiError ⟨"EMPTY_BASKET", 409, "Transaction " ++ publicId tx ++ " has no scanned items."⟩

def completionMissing : Refusal :=
  .upstreamUnavailable "checkout" "the completion record is missing"

/-- What `_begin` comes to; a take-over still has its write to do. -/
inductive Begin where
  | refused (refusal : Refusal)
  | started (epoch totalCents : Nat) (request : Request) (after : Database)
  | takingOver (record : Completion)
  | compensating (epoch : Nat)

/-- The OPEN branch of `_begin`. -/
def beginAttempt (db : Database) (tx : TxId) (now : Time) : Begin :=
  let basket := getBasket db tx
  if basket.isEmpty then .refused (emptyBasket tx)
  else
    let totalCents := totalOf basket
    let marked := markCompleting db tx totalCents now
    let request := Request.stockReservationRequested ⟨tx, marked.1⟩ (linesOf basket)
    .started marked.1 totalCents request (insertOutbox marked.2 request)

/-- The COMPLETING branch of `_begin`. -/
def beginAgain (db : Database) (tx : TxId) (lease : Nat) (now : Time) : Begin :=
  match db.completions.lookup tx with
  | none => .refused completionMissing
  | some record =>
      if record.state = .compensating then .compensating record.epoch
      else if record.fresh lease now then .refused (transactionNotOpen tx "completing")
      else .takingOver record

/-- `_begin` -/
def beginCompletion (db : Database) (tx : TxId) (lease : Nat) (now : Time) : Begin :=
  match db.transactions.lookup tx with
  | none => .refused (transactionNotFound tx)
  | some row =>
      match row.status with
      | .completed => .refused (transactionNotOpen tx "completed")
      | .cancelled => .refused (transactionNotOpen tx "cancelled")
      | .opened => beginAttempt db tx now
      | .completing => beginAgain db tx lease now

/-- `_mark_compensating` -/
def markCompensating (db : Database) (tx : TxId) (epoch : Nat) (reason : Option String)
    (now : Time) : Database :=
  insertOutbox (setCompletionState db tx .compensating reason now)
    (.stockReleaseRequested ⟨tx, epoch⟩)

/-- Checkout's database and the take-overs in progress: each holds its
transaction's row lock and has read this completion record. -/
structure Server where
  db : Database
  reading : TxId → Option Completion

def emptyServer : Server := { db := emptyDatabase, reading := fun _ => none }

/-- The local transactions, with whatever arguments their callers hold. -/
inductive Action where
  | insertTransaction (id : TxId) (now : Time)
  | scanItem (tx : TxId) (sku : Sku) (priceCents : Nat)
  | sweepAbandoned (minutes : Nat) (now : Time)
  | beginCompletion (tx : TxId) (lease : Nat) (now : Time)
  /-- The write and the commit of a take-over. -/
  | takeOver (tx : TxId) (now : Time)
  /-- A take-over rolls back. -/
  | dropTakeOver (tx : TxId)
  | setReserved (tx : TxId) (now : Time)
  | markCompensating (tx : TxId) (epoch : Nat) (reason : Option String) (now : Time)
  | finalize (tx : TxId) (totalCents : Nat) (now : Time)
  | reopen (tx : TxId) (now : Time)
  | claimStuck (claimed : List TxId) (lease limit : Nat) (now : Time)
deriving DecidableEq, Repr

/-- One local transaction: `none` where it waits for a row lock or cannot be issued. -/
def step (server : Server) : Action → Option Server
  | .insertTransaction id now =>
      match server.db.transactions.lookup id with
      | some _ => none
      | none => some { server with db := insertTransaction server.db id now }
  | .scanItem tx sku priceCents => some { server with db := scanItem server.db tx sku priceCents }
  | .sweepAbandoned minutes now => some { server with db := sweepAbandoned server.db minutes now }
  | .beginCompletion tx lease now =>
      match server.reading tx with
      | some _ => none
      | none =>
          match beginCompletion server.db tx lease now with
          | .refused _ => some server
          | .compensating _ => some server
          | .started _ _ _ after => some { server with db := after }
          | .takingOver record =>
              some { server with reading := Function.update server.reading tx (some record) }
  | .takeOver tx now =>
      match server.reading tx with
      | none => none
      | some record => some
          { db := setCompletionState server.db tx record.state none now
            reading := Function.update server.reading tx none }
  | .dropTakeOver tx =>
      match server.reading tx with
      | none => none
      | some _ => some { server with reading := Function.update server.reading tx none }
  | .setReserved tx now =>
      some { server with db := setCompletionState server.db tx .reserved none now }
  | .markCompensating tx epoch reason now =>
      some { server with db := markCompensating server.db tx epoch reason now }
  | .finalize tx totalCents now =>
      match server.reading tx with
      | some _ => none
      | none => some { server with db := (finalize server.db tx totalCents now).2 }
  | .reopen tx now =>
      match server.reading tx with
      | some _ => none
      | none => some { server with db := reopen server.db tx now }
  | .claimStuck claimed lease limit now =>
      (claimStuck server.db claimed lease limit now).map (fun done => { server with db := done.2 })

/-- Inversion of `_begin`: the rows it found, for what it comes to. -/
inductive Begins (db : Database) (tx : TxId) (lease : Nat) (now : Time) : Begin → Prop where
  | refused (refusal : Refusal) : Begins db tx lease now (.refused refusal)
  | started {row : Transaction} {marked : Nat × Database} {request : Request}
      (found : db.transactions.lookup tx = some row) (isOpen : row.status = .opened)
      (scanned : getBasket db tx ≠ [])
      (marks : markCompleting db tx (totalOf (getBasket db tx)) now = marked)
      (asks : request = .stockReservationRequested ⟨tx, marked.1⟩ (linesOf (getBasket db tx))) :
      Begins db tx lease now
        (.started marked.1 (totalOf (getBasket db tx)) request (insertOutbox marked.2 request))
  | compensating {row : Transaction} {record : Completion}
      (found : db.transactions.lookup tx = some row) (isCompleting : row.status = .completing)
      (read : db.completions.lookup tx = some record) (owes : record.state = .compensating) :
      Begins db tx lease now (.compensating record.epoch)
  | takingOver {row : Transaction} {record : Completion}
      (found : db.transactions.lookup tx = some row) (isCompleting : row.status = .completing)
      (read : db.completions.lookup tx = some record) (notOwing : record.state ≠ .compensating)
      (expired : record.fresh lease now = false) :
      Begins db tx lease now (.takingOver record)

theorem begins {db : Database} {tx : TxId} {lease : Nat} {now : Time} {result : Begin}
    (began : beginCompletion db tx lease now = result) : Begins db tx lease now result := by
  subst began
  unfold beginCompletion
  split
  · exact .refused _
  · rename_i row found
    split
    · exact .refused _
    · exact .refused _
    · rename_i isOpen
      unfold beginAttempt
      by_cases empty : (getBasket db tx).isEmpty = true
      · simp only [empty, ↓reduceIte]
        exact .refused _
      · simp only [empty, Bool.false_eq_true, ↓reduceIte]
        exact .started found isOpen (by simpa using empty) rfl rfl
    · rename_i isCompleting
      unfold beginAgain
      split
      · exact .refused _
      · rename_i record read
        split
        · rename_i owes
          exact .compensating found isCompleting read owes
        · rename_i notOwing
          split
          · exact .refused _
          · rename_i stale
            exact .takingOver found isCompleting read notOwing (by simpa using stale)

section Statements

variable (db : Database) (tx : TxId) (totalCents : Nat) (now : Time)

/-- Inversion of `_FINALIZE`: it takes effect on a COMPLETING transaction only. -/
theorem finalize_cases :
    finalize db tx totalCents now = (none, db) ∨
    ∃ row, db.transactions.lookup tx = some row ∧ row.status = .completing ∧
      finalize db tx totalCents now =
        (some now,
          { db with
            transactions := db.transactions.put tx
              { row with
                status := .completed
                completedAt := some now
                totalAmountCents := some totalCents }
            completions := db.completions.alter tx (fun record =>
              { record with state := .completed, updatedAt := now }) }) := by
  unfold finalize
  split
  · exact .inl rfl
  · rename_i row found
    split
    · rename_i isCompleting
      exact .inr ⟨row, found, isCompleting, rfl⟩
    · exact .inl rfl

/-- Inversion of `_REOPEN`, which has the same guard. -/
theorem reopen_cases :
    reopen db tx now = db ∨
    ∃ row, db.transactions.lookup tx = some row ∧ row.status = .completing ∧
      reopen db tx now =
        { db with
          transactions := db.transactions.put tx { row with status := .opened }
          completions := db.completions.alter tx (fun record =>
            if record.state.terminal then record
            else { record with state := .aborted, updatedAt := now }) } := by
  unfold reopen
  split
  · exact .inl rfl
  · rename_i row found
    split
    · rename_i isCompleting
      exact .inr ⟨row, found, isCompleting, rfl⟩
    · exact .inl rfl

/-- Neither statement does anything to a transaction that is not COMPLETING. -/
theorem finalize_idle (idle : ∀ row, db.transactions.lookup tx = some row →
    row.status ≠ .completing) : finalize db tx totalCents now = (none, db) := by
  rcases finalize_cases db tx totalCents now with missed | ⟨row, found, isCompleting, _⟩
  · exact missed
  · exact absurd isCompleting (idle row found)

theorem reopen_idle (idle : ∀ row, db.transactions.lookup tx = some row →
    row.status ≠ .completing) : reopen db tx now = db := by
  rcases reopen_cases db tx now with missed | ⟨row, found, isCompleting, _⟩
  · exact missed
  · exact absurd isCompleting (idle row found)

theorem finalize_rest :
    (finalize db tx totalCents now).2.items = db.items ∧
      (finalize db tx totalCents now).2.outbox = db.outbox := by
  rcases finalize_cases db tx totalCents now with missed | ⟨_, _, _, done⟩
  · rw [missed]
    exact ⟨rfl, rfl⟩
  · rw [done]
    exact ⟨rfl, rfl⟩

theorem reopen_rest :
    (reopen db tx now).items = db.items ∧ (reopen db tx now).outbox = db.outbox := by
  rcases reopen_cases db tx now with missed | ⟨_, _, _, done⟩
  · rw [missed]
    exact ⟨rfl, rfl⟩
  · rw [done]
    exact ⟨rfl, rfl⟩

theorem finalize_other {other : TxId} (different : other ≠ tx) :
    (finalize db tx totalCents now).2.completions.lookup other = db.completions.lookup other := by
  rcases finalize_cases db tx totalCents now with missed | ⟨_, _, _, done⟩
  · rw [missed]
  · simp [done, different]

theorem reopen_other {other : TxId} (different : other ≠ tx) :
    (reopen db tx now).completions.lookup other = db.completions.lookup other := by
  rcases reopen_cases db tx now with missed | ⟨_, _, _, done⟩
  · rw [missed]
  · simp [done, different]

end Statements

/-- Inversion of `step`, action by action. -/
inductive Takes (server : Server) : Action → Server → Prop where
  | inserts {id : TxId} {now : Time} (absent : server.db.transactions.lookup id = none) :
      Takes server (.insertTransaction id now)
        { server with db := insertTransaction server.db id now }
  | scans {tx : TxId} {sku : Sku} {priceCents : Nat} :
      Takes server (.scanItem tx sku priceCents)
        { server with db := scanItem server.db tx sku priceCents }
  | sweeps {minutes : Nat} {now : Time} :
      Takes server (.sweepAbandoned minutes now)
        { server with db := sweepAbandoned server.db minutes now }
  | refuses {tx : TxId} {lease : Nat} {now : Time} {refusal : Refusal}
      (free : server.reading tx = none)
      (began : beginCompletion server.db tx lease now = .refused refusal) :
      Takes server (.beginCompletion tx lease now) server
  | owes {tx : TxId} {lease epoch : Nat} {now : Time} (free : server.reading tx = none)
      (began : beginCompletion server.db tx lease now = .compensating epoch) :
      Takes server (.beginCompletion tx lease now) server
  | starts {tx : TxId} {lease epoch totalCents : Nat} {now : Time} {request : Request}
      {after : Database} (free : server.reading tx = none)
      (began : beginCompletion server.db tx lease now = .started epoch totalCents request after) :
      Takes server (.beginCompletion tx lease now) { server with db := after }
  | reads {tx : TxId} {lease : Nat} {now : Time} {record : Completion}
      (free : server.reading tx = none)
      (began : beginCompletion server.db tx lease now = .takingOver record) :
      Takes server (.beginCompletion tx lease now)
        { server with reading := Function.update server.reading tx (some record) }
  | takesOver {tx : TxId} {now : Time} {record : Completion}
      (reading : server.reading tx = some record) :
      Takes server (.takeOver tx now)
        { db := setCompletionState server.db tx record.state none now
          reading := Function.update server.reading tx none }
  | drops {tx : TxId} {record : Completion} (reading : server.reading tx = some record) :
      Takes server (.dropTakeOver tx)
        { server with reading := Function.update server.reading tx none }
  | reserves {tx : TxId} {now : Time} :
      Takes server (.setReserved tx now)
        { server with db := setCompletionState server.db tx .reserved none now }
  | compensates {tx : TxId} {epoch : Nat} {reason : Option String} {now : Time} :
      Takes server (.markCompensating tx epoch reason now)
        { server with db := markCompensating server.db tx epoch reason now }
  | finalizes {tx : TxId} {totalCents : Nat} {now : Time} (free : server.reading tx = none) :
      Takes server (.finalize tx totalCents now)
        { server with db := (finalize server.db tx totalCents now).2 }
  | reopens {tx : TxId} {now : Time} (free : server.reading tx = none) :
      Takes server (.reopen tx now) { server with db := reopen server.db tx now }
  | claims {claimed : List TxId} {lease limit : Nat} {now : Time} {rows : List StuckRow}
      {after : Database} (done : claimStuck server.db claimed lease limit now = some (rows, after)) :
      Takes server (.claimStuck claimed lease limit now) { server with db := after }

theorem step_takes {server after : Server} {action : Action}
    (taken : step server action = some after) : Takes server action after := by
  cases action with
  | insertTransaction id now =>
      simp only [step] at taken
      split at taken
      · contradiction
      · rename_i absent
        cases taken
        exact .inserts absent
  | scanItem tx sku priceCents =>
      cases taken
      exact .scans
  | sweepAbandoned minutes now =>
      cases taken
      exact .sweeps
  | beginCompletion tx lease now =>
      simp only [step] at taken
      split at taken
      · contradiction
      · rename_i free
        split at taken
        · rename_i began
          cases taken
          exact .refuses free began
        · rename_i began
          cases taken
          exact .owes free began
        · rename_i began
          cases taken
          exact .starts free began
        · rename_i began
          cases taken
          exact .reads free began
  | takeOver tx now =>
      simp only [step] at taken
      split at taken
      · contradiction
      · rename_i reading
        cases taken
        exact .takesOver reading
  | dropTakeOver tx =>
      simp only [step] at taken
      split at taken
      · contradiction
      · rename_i reading
        cases taken
        exact .drops reading
  | setReserved tx now =>
      cases taken
      exact .reserves
  | markCompensating tx epoch reason now =>
      cases taken
      exact .compensates
  | finalize tx totalCents now =>
      simp only [step] at taken
      split at taken
      · contradiction
      · rename_i free
        cases taken
        exact .finalizes free
  | reopen tx now =>
      simp only [step] at taken
      split at taken
      · contradiction
      · rename_i free
        cases taken
        exact .reopens free
  | claimStuck claimed lease limit now =>
      simp only [step, Option.map_eq_some_iff] at taken
      obtain ⟨done, claims, rfl⟩ := taken
      exact .claims claims

theorem started_eq {db after : Database} {tx : TxId} {lease epoch totalCents : Nat} {now : Time}
    {request : Request}
    (began : beginCompletion db tx lease now = .started epoch totalCents request after) :
    (db.transactions.lookup tx).map Transaction.status = some .opened ∧
      totalCents = totalOf (getBasket db tx) ∧
      epoch = (markCompleting db tx totalCents now).1 ∧
      request = .stockReservationRequested ⟨tx, epoch⟩ (linesOf (getBasket db tx)) ∧
      after = insertOutbox (markCompleting db tx totalCents now).2 request := by
  cases begins began with
  | started found isOpen scanned marks asks =>
      subst marks asks
      exact ⟨by simp [found, isOpen], rfl, rfl, rfl, rfl⟩

theorem scanItem_outbox (db : Database) (tx : TxId) (sku : Sku) (priceCents : Nat) :
    (scanItem db tx sku priceCents).outbox = db.outbox := by
  unfold scanItem
  split
  · rfl
  · split <;> rfl

theorem scanItem_completions (db : Database) (tx : TxId) (sku : Sku) (priceCents : Nat) :
    (scanItem db tx sku priceCents).completions = db.completions := by
  unfold scanItem
  split
  · rfl
  · split <;> rfl

theorem claims_rest (db : Database) (claimed : List TxId) (now : Time) :
    (claimed.foldl (fun db tx => claim db tx now) db).transactions = db.transactions ∧
      (claimed.foldl (fun db tx => claim db tx now) db).items = db.items ∧
      (claimed.foldl (fun db tx => claim db tx now) db).outbox = db.outbox := by
  induction claimed generalizing db with
  | nil => exact ⟨rfl, rfl, rfl⟩
  | cons first claimed ih => exact ih (claim db first now)

/-- A local transaction queues nothing, the reservation request of the attempt it
starts, or the release request of the attempt it gives up. -/
theorem step_outbox {server after : Server} {action : Action}
    (taken : step server action = some after) :
    after.db.outbox = server.db.outbox ∨
    (∃ tx lease now epoch totalCents request, action = .beginCompletion tx lease now ∧
      beginCompletion server.db tx lease now = .started epoch totalCents request after.db ∧
      after.db.outbox = server.db.outbox ++ [request]) ∨
    (∃ tx epoch reason now, action = .markCompensating tx epoch reason now ∧
      after.db.outbox = server.db.outbox ++ [.stockReleaseRequested ⟨tx, epoch⟩]) := by
  cases step_takes taken with
  | inserts absent => exact .inl rfl
  | scans => exact .inl (scanItem_outbox _ _ _ _)
  | sweeps => exact .inl rfl
  | refuses free began => exact .inl rfl
  | owes free began => exact .inl rfl
  | starts free began =>
      refine .inr (.inl ⟨_, _, _, _, _, _, rfl, began, ?_⟩)
      obtain ⟨_, _, _, _, rfl⟩ := started_eq began
      rfl
  | reads free began => exact .inl rfl
  | takesOver reading => exact .inl rfl
  | drops reading => exact .inl rfl
  | reserves => exact .inl rfl
  | compensates => exact .inr (.inr ⟨_, _, _, _, rfl, rfl⟩)
  | finalizes free => exact .inl (finalize_rest _ _ _ _).2
  | reopens free => exact .inl (reopen_rest _ _ _).2
  | claims done =>
      unfold claimStuck at done
      split at done
      · cases done
        exact .inl (claims_rest _ _ _).2.2
      · contradiction

theorem outbox_grows {server after : Server} {action : Action}
    (taken : step server action = some after) : server.db.outbox <+: after.db.outbox := by
  rcases step_outbox taken with same | ⟨_, _, _, _, _, _, _, _, same⟩ | ⟨_, _, _, _, _, same⟩
  · rw [same]
  · rw [same]
    exact List.prefix_append _ _
  · rw [same]
    exact List.prefix_append _ _

end SelfCheckout.Checkout
