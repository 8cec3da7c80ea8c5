import SelfCheckout.Checkout.Coupling

namespace SelfCheckout.Lease

open SelfCheckout.Data SelfCheckout.Checkout

/-! # `_begin` and `claim_stuck`, statement by statement

Database transactions on one transaction and its completion at READ COMMITTED.  A
statement locks the rows it writes until its database transaction ends; reading the
completion locks nothing.  `now()` is the time the database transaction began.
-/

abbrev SessionId := Nat

/-- How far a `_begin` has come that holds the transaction's row. -/
inductive Phase where
  | locked
  /-- It wrote both rows of a new attempt. -/
  | marked (epoch : Nat) (after : Database)
  /-- It read a COMPENSATING record, which it will hand over. -/
  | owing (epoch : Nat)
  /-- It read a record whose lease has expired. -/
  | read (record : Completion)
  /-- It wrote the state of that record back. -/
  | wrote (record : Completion)

/-- A `_begin` that holds the transaction's row. -/
structure Beginning where
  now : Time
  phase : Phase

/-- A `claim_stuck` that holds the completion's row. -/
structure Claiming where
  now : Time
  row : StuckRow

/-- `sessions` are the database transactions that have yet to run a statement. -/
structure Rows where
  db : Database
  clock : Time
  sessions : Table SessionId Time
  beginning : Option Beginning
  claiming : Option Claiming

def opening : Rows :=
  { db := emptyDatabase, clock := 0, sessions := Table.empty, beginning := none, claiming := none }

/-- Whether the `_begin` has written the completion's row. -/
def Phase.holdsCompletion : Phase → Bool
  | .marked _ _ => true
  | .wrote _ => true
  | .locked => false
  | .owing _ => false
  | .read _ => false

def Rows.completionFree (rows : Rows) : Bool :=
  rows.claiming.isNone && !(rows.beginning.any (fun beginning => beginning.phase.holdsCompletion))

/-- The other local transactions on the two rows, of one statement each. -/
inductive Statement where
  | insertTransaction
  | scanItem (sku : Sku) (priceCents : Nat)
  | setReserved
  | markCompensating (epoch : Nat) (reason : Option String)
  | finalize (totalCents : Nat)
  | reopen
deriving DecidableEq, Repr

def Statement.action (statement : Statement) (tx : TxId) (now : Time) : Action :=
  match statement with
  | .insertTransaction => .insertTransaction tx now
  | .scanItem sku priceCents => .scanItem tx sku priceCents
  | .setReserved => .setReserved tx now
  | .markCompensating epoch reason => .markCompensating tx epoch reason now
  | .finalize totalCents => .finalize tx totalCents now
  | .reopen => .reopen tx now

/-- Whether the statement touches the completion's row. -/
def Statement.writesRecord : Statement → Bool
  | .insertTransaction => false
  | .scanItem _ _ => false
  | .setReserved => true
  | .markCompensating _ _ => true
  | .finalize _ => true
  | .reopen => true

/-- Whether the statement finds the rows it writes unlocked. -/
def Statement.ready (statement : Statement) (rows : Rows) : Bool :=
  match statement with
  | .insertTransaction => true
  | .scanItem _ _ => rows.beginning.isNone
  | .setReserved => rows.completionFree
  | .markCompensating _ _ => rows.completionFree
  | .finalize _ => rows.beginning.isNone && rows.completionFree
  | .reopen => rows.beginning.isNone && rows.completionFree

inductive Label where
  | tick (time : Time)
  /-- BEGIN -/
  | start (id : SessionId)
  /-- A database transaction ends that changed nothing here: it failed, or it was a
  `claim_stuck` that returns other rows. -/
  | leave (id : SessionId)
  /-- `lock_transaction` -/
  | lock (id : SessionId)
  /-- The statements from `get_basket` to the answer or the first write. -/
  | decide
  /-- `set_completion_state` -/
  | writeBack
  | commit
  | rollBack
  | claim (id : SessionId)
  | commitClaim
  | rollBackClaim
  | drive (id : SessionId) (statement : Statement)
deriving DecidableEq, Repr

def stuckRow (tx : TxId) (record : Completion) : StuckRow :=
  ⟨tx, record.epoch, record.state, record.totalCents⟩

/-- `none` where a statement waits for a lock or cannot be issued. -/
def step (tx : TxId) (lease : Nat) (rows : Rows) : Label → Option Rows
  | .tick time => if rows.clock ≤ time then some { rows with clock := time } else none
  | .start id =>
      match rows.sessions.lookup id with
      | some _ => none
      | none => some { rows with sessions := rows.sessions.put id rows.clock }
  | .leave id => some { rows with sessions := rows.sessions.erase id }
  | .lock id =>
      match rows.sessions.lookup id, rows.beginning with
      | some now, none => some
          { rows with
            sessions := rows.sessions.erase id
            beginning := some ⟨now, .locked⟩ }
      | _, _ => none
  | .decide =>
      match rows.beginning with
      | some ⟨now, .locked⟩ =>
          match beginCompletion rows.db tx lease now with
          | .refused _ => some { rows with beginning := none }
          | .started epoch _ _ after =>
              if rows.completionFree then
                some { rows with beginning := some ⟨now, .marked epoch after⟩ }
              else none
          | .takingOver record => some { rows with beginning := some ⟨now, .read record⟩ }
          | .compensating epoch => some { rows with beginning := some ⟨now, .owing epoch⟩ }
      | _ => none
  | .writeBack =>
      match rows.beginning with
      | some ⟨now, .read record⟩ =>
          if rows.completionFree then
            some { rows with beginning := some ⟨now, .wrote record⟩ }
          else none
      | _ => none
  | .commit =>
      match rows.beginning with
      | some ⟨_, .marked _ after⟩ => some { rows with db := after, beginning := none }
      | some ⟨_, .owing _⟩ => some { rows with beginning := none }
      | some ⟨now, .wrote record⟩ => some
          { rows with
            db := setCompletionState rows.db tx record.state none now
            beginning := none }
      | _ => none
  | .rollBack =>
      match rows.beginning with
      | none => none
      | some _ => some { rows with beginning := none }
  | .claim id =>
      match rows.sessions.lookup id, rows.db.completions.lookup tx with
      | some now, some record =>
          if rows.completionFree && record.stuck lease now then some
            { rows with
              sessions := rows.sessions.erase id
              claiming := some ⟨now, stuckRow tx record⟩ }
          else none
      | _, _ => none
  | .commitClaim =>
      match rows.claiming with
      | none => none
      | some claiming => some
          { rows with
            db := Checkout.claim rows.db tx claiming.now
            claiming := none }
  | .rollBackClaim =>
      match rows.claiming with
      | none => none
      | some _ => some { rows with claiming := none }
  | .drive id statement =>
      match rows.sessions.lookup id with
      | none => none
      | some now =>
          if statement.ready rows then
            (Checkout.step ⟨rows.db, fun _ => none⟩ (statement.action tx now)).map (fun server =>
              { rows with
                db := server.db
                sessions := rows.sessions.erase id })
          else none

/-- Inversion of `step`. -/
inductive Does (tx : TxId) (lease : Nat) (rows : Rows) : Label → Rows → Prop where
  | ticks {time : Time} (later : rows.clock ≤ time) :
      Does tx lease rows (.tick time) { rows with clock := time }
  | begins {id : SessionId} :
      Does tx lease rows (.start id) { rows with sessions := rows.sessions.put id rows.clock }
  | leaves {id : SessionId} :
      Does tx lease rows (.leave id) { rows with sessions := rows.sessions.erase id }
  | locks {id : SessionId} {now : Time} (begun : rows.sessions.lookup id = some now)
      (free : rows.beginning = none) :
      Does tx lease rows (.lock id)
        { rows with
          sessions := rows.sessions.erase id
          beginning := some ⟨now, .locked⟩ }
  | refuses {now : Time} {refusal : Refusal} (held : rows.beginning = some ⟨now, .locked⟩)
      (began : beginCompletion rows.db tx lease now = .refused refusal) :
      Does tx lease rows .decide { rows with beginning := none }
  | marks {now : Time} {epoch totalCents : Nat} {request : Request} {after : Database}
      (held : rows.beginning = some ⟨now, .locked⟩) (free : rows.completionFree = true)
      (began : beginCompletion rows.db tx lease now = .started epoch totalCents request after) :
      Does tx lease rows .decide { rows with beginning := some ⟨now, .marked epoch after⟩ }
  | reads {now : Time} {record : Completion} (held : rows.beginning = some ⟨now, .locked⟩)
      (began : beginCompletion rows.db tx lease now = .takingOver record) :
      Does tx lease rows .decide { rows with beginning := some ⟨now, .read record⟩ }
  | owes {now : Time} {epoch : Nat} (held : rows.beginning = some ⟨now, .locked⟩)
      (began : beginCompletion rows.db tx lease now = .compensating epoch) :
      Does tx lease rows .decide { rows with beginning := some ⟨now, .owing epoch⟩ }
  | writesBack {now : Time} {record : Completion}
      (held : rows.beginning = some ⟨now, .read record⟩) (free : rows.completionFree = true) :
      Does tx lease rows .writeBack { rows with beginning := some ⟨now, .wrote record⟩ }
  | starts {now : Time} {epoch : Nat} {after : Database}
      (held : rows.beginning = some ⟨now, .marked epoch after⟩) :
      Does tx lease rows .commit { rows with db := after, beginning := none }
  | handsOver {now : Time} {epoch : Nat} (held : rows.beginning = some ⟨now, .owing epoch⟩) :
      Does tx lease rows .commit { rows with beginning := none }
  | takesOver {now : Time} {record : Completion}
      (held : rows.beginning = some ⟨now, .wrote record⟩) :
      Does tx lease rows .commit
        { rows with
          db := setCompletionState rows.db tx record.state none now
          beginning := none }
  | rollsBack {beginning : Beginning} (held : rows.beginning = some beginning) :
      Does tx lease rows .rollBack { rows with beginning := none }
  | claims {id : SessionId} {now : Time} {record : Completion}
      (begun : rows.sessions.lookup id = some now) (free : rows.completionFree = true)
      (found : rows.db.completions.lookup tx = some record)
      (stuck : record.stuck lease now = true) :
      Does tx lease rows (.claim id)
        { rows with
          sessions := rows.sessions.erase id
          claiming := some ⟨now, stuckRow tx record⟩ }
  | commitsClaim {claiming : Claiming} (held : rows.claiming = some claiming) :
      Does tx lease rows .commitClaim
        { rows with
          db := Checkout.claim rows.db tx claiming.now
          claiming := none }
  | dropsClaim {claiming : Claiming} (held : rows.claiming = some claiming) :
      Does tx lease rows .rollBackClaim { rows with claiming := none }
  | drives {id : SessionId} {now : Time} {statement : Statement} {server : Server}
      (begun : rows.sessions.lookup id = some now) (ready : statement.ready rows = true)
      (done : Checkout.step ⟨rows.db, fun _ => none⟩ (statement.action tx now) = some server) :
      Does tx lease rows (.drive id statement)
        { rows with
          db := server.db
          sessions := rows.sessions.erase id }

theorem step_does {tx : TxId} {lease : Nat} {rows after : Rows} {label : Label}
    (taken : step tx lease rows label = some after) : Does tx lease rows label after := by
  cases label with
  | tick time =>
      simp only [step] at taken
      split at taken
      · rename_i later
        cases taken
        exact .ticks later
      · contradiction
  | start id =>
      simp only [step] at taken
      split at taken
      · contradiction
      · cases taken
        exact .begins
  | leave id =>
      cases taken
      exact .leaves
  | lock id =>
      simp only [step] at taken
      split at taken
      · rename_i begun free
        cases taken
        exact .locks begun free
      · contradiction
  | decide =>
      simp only [step] at taken
      split at taken
      · rename_i held
        split at taken
        · rename_i began
          cases taken
          exact .refuses held began
        · rename_i began
          split at taken
          · rename_i free
            cases taken
            exact .marks held free began
          · contradiction
        · rename_i began
          cases taken
          exact .reads held began
        · rename_i began
          cases taken
          exact .owes held began
      · contradiction
  | writeBack =>
      simp only [step] at taken
      split at taken
      · rename_i held
        split at taken
        · rename_i free
          cases taken
          exact .writesBack held free
        · contradiction
      · contradiction
  | commit =>
      simp only [step] at taken
      split at taken
      · rename_i held
        cases taken
        exact .starts held
      · rename_i held
        cases taken
        exact .handsOver held
      · rename_i held
        cases taken
        exact .takesOver held
      · contradiction
  | rollBack =>
      simp only [step] at taken
      split at taken
      · contradiction
      · rename_i held
        cases taken
        exact .rollsBack held
  | claim id =>
      simp only [step] at taken
      split at taken
      · rename_i begun found
        split at taken
        · rename_i enabled
          rw [Bool.and_eq_true] at enabled
          cases taken
          exact .claims begun enabled.1 found enabled.2
        · contradiction
      · contradiction
  | commitClaim =>
      simp only [step] at taken
      split at taken
      · contradiction
      · rename_i held
        cases taken
        exact .commitsClaim held
  | rollBackClaim =>
      simp only [step] at taken
      split at taken
      · contradiction
      · rename_i held
        cases taken
        exact .dropsClaim held
  | drive id statement =>
      simp only [step] at taken
      split at taken
      · contradiction
      · rename_i now begun
        split at taken
        · rename_i ready
          obtain ⟨server, done, rfl⟩ := Option.map_eq_some_iff.mp taken
          exact .drives begun ready done
        · contradiction

end SelfCheckout.Lease
