import SelfCheckout.Lease.Sessions

namespace SelfCheckout.Lease

open SelfCheckout.Data SelfCheckout.Checkout

/-! # What the row locks keep

What a statement decided still holds when its database transaction commits, so a run
of statements is a run of local transactions, with the take-over still in two steps.
-/

variable {tx : TxId} {lease : Nat} {rows after : Rows} {label : Label}

/-- The record a take-over in progress has read. -/
def Phase.reading : Phase → Option Completion
  | .read record => some record
  | .wrote record => some record
  | .locked => none
  | .marked _ _ => none
  | .owing _ => none

def Rows.reading (rows : Rows) : Option Completion :=
  rows.beginning.bind (fun beginning => beginning.phase.reading)

@[simp] theorem reading_none (db : Database) (clock : Time) (sessions : Table SessionId Time)
    (claiming : Option Claiming) : (Rows.mk db clock sessions none claiming).reading = none := rfl

@[simp] theorem reading_some (db : Database) (clock : Time) (sessions : Table SessionId Time)
    (beginning : Beginning) (claiming : Option Claiming) :
    (Rows.mk db clock sessions (some beginning) claiming).reading = beginning.phase.reading := rfl

def view (tx : TxId) (rows : Rows) : Server :=
  { db := rows.db, reading := Function.update (fun _ => none) tx rows.reading }

structure Locked (tx : TxId) (lease : Nat) (rows : Rows) : Prop where
  sessions : ∀ id now, rows.sessions.lookup id = some now → now ≤ rows.clock
  began : ∀ beginning, rows.beginning = some beginning → beginning.now ≤ rows.clock
  claimed : ∀ claiming, rows.claiming = some claiming → claiming.now ≤ rows.clock
  marked : ∀ now epoch after, rows.beginning = some ⟨now, .marked epoch after⟩ →
    ∃ totalCents request,
      beginCompletion rows.db tx lease now = .started epoch totalCents request after
  stuck : ∀ claiming, rows.claiming = some claiming →
    ∃ record, rows.db.completions.lookup tx = some record ∧
      record.stuck lease claiming.now = true ∧ claiming.row = stuckRow tx record
  apart : ∀ claiming beginning, rows.claiming = some claiming → rows.beginning = some beginning →
    beginning.phase.holdsCompletion = false

theorem completionFree_iff : rows.completionFree = true ↔
    rows.claiming = none ∧
      ∀ beginning, rows.beginning = some beginning → beginning.phase.holdsCompletion = false := by
  unfold Rows.completionFree
  cases rows.beginning <;> simp

section Drive

variable {statement : Statement} {server : Server} {now time : Time}

/-- A statement on locked rows changes neither. -/
theorem drive_marked {epoch totalCents : Nat} {request : Request} {marked : Database}
    (held : rows.beginning = some ⟨now, .marked epoch marked⟩)
    (began : beginCompletion rows.db tx lease now = .started epoch totalCents request marked)
    (ready : statement.ready rows = true)
    (done : Checkout.step ⟨rows.db, fun _ => none⟩ (statement.action tx time) = some server) :
    False := by
  have locked : rows.completionFree = false := by
    simp [Rows.completionFree, held, Phase.holdsCompletion]
  cases statement with
  | insertTransaction =>
      obtain ⟨isOpen, _⟩ := started_eq began
      obtain ⟨row, found, _⟩ := Option.map_eq_some_iff.mp isOpen
      simp [Statement.action, Checkout.step, found] at done
  | scanItem sku priceCents => simp [Statement.ready, held] at ready
  | setReserved => simp [Statement.ready, locked] at ready
  | markCompensating epoch reason => simp [Statement.ready, locked] at ready
  | finalize totalCents => simp [Statement.ready, locked] at ready
  | reopen => simp [Statement.ready, locked] at ready

theorem drive_claimed {claiming : Claiming} (held : rows.claiming = some claiming)
    (ready : statement.ready rows = true)
    (done : Checkout.step ⟨rows.db, fun _ => none⟩ (statement.action tx now) = some server) :
    server.db.completions = rows.db.completions := by
  have locked : rows.completionFree = false := by
    simp [Rows.completionFree, held]
  cases statement with
  | insertTransaction =>
      cases step_takes done with
      | inserts absent => rfl
  | scanItem sku priceCents =>
      cases step_takes done with
      | scans => exact scanItem_completions _ _ _ _
  | setReserved => simp [Statement.ready, locked] at ready
  | markCompensating epoch reason => simp [Statement.ready, locked] at ready
  | finalize totalCents => simp [Statement.ready, locked] at ready
  | reopen => simp [Statement.ready, locked] at ready

end Drive

theorem Locked.opening (tx : TxId) (lease : Nat) : Locked tx lease opening where
  sessions _ _ found := by contradiction
  began _ found := by contradiction
  claimed _ found := by contradiction
  marked _ _ _ found := by contradiction
  stuck _ found := by contradiction
  apart _ _ found := by contradiction

/-- The `_begin` that holds the transaction's row goes on. -/
theorem Locked.goesOn (locked : Locked tx lease rows) {now : Time} {phase : Phase}
    (began : now ≤ rows.clock)
    (marked : ∀ epoch after, phase = .marked epoch after → ∃ totalCents request,
      beginCompletion rows.db tx lease now = .started epoch totalCents request after)
    (apart : phase.holdsCompletion = true → rows.claiming = none) :
    Locked tx lease { rows with beginning := some ⟨now, phase⟩ } where
  sessions := locked.sessions
  began other same := by
    cases same
    exact began
  claimed := locked.claimed
  marked _ epoch after same := by
    cases same
    exact marked epoch after rfl
  stuck := locked.stuck
  apart claiming other held same := by
    cases same
    cases holds : phase.holdsCompletion with
    | false => rfl
    | true =>
        rw [apart holds] at held
        contradiction

/-- It ends, and writes nothing to a completion that is claimed. -/
theorem Locked.ends (locked : Locked tx lease rows) {db : Database}
    (kept : ∀ claiming, rows.claiming = some claiming →
      db.completions.lookup tx = rows.db.completions.lookup tx) :
    Locked tx lease { rows with db, beginning := none } where
  sessions := locked.sessions
  began _ found := by contradiction
  claimed := locked.claimed
  marked _ _ _ found := by contradiction
  stuck claiming held := by
    rw [kept claiming held]
    exact locked.stuck claiming held
  apart _ _ _ found := by contradiction

theorem Locked.notClaimed (locked : Locked tx lease rows) {beginning : Beginning}
    (held : rows.beginning = some beginning) (holds : beginning.phase.holdsCompletion = true)
    (claiming : Claiming) : rows.claiming ≠ some claiming := by
  intro claimed
  rw [locked.apart claiming beginning claimed held] at holds
  contradiction

theorem Locked.forgets (locked : Locked tx lease rows) (id : SessionId) :
    Locked tx lease { rows with sessions := rows.sessions.erase id } where
  sessions other now found := by
    rw [Table.lookup_erase] at found
    split at found
    · contradiction
    · exact locked.sessions other now found
  began := locked.began
  claimed := locked.claimed
  marked := locked.marked
  stuck := locked.stuck
  apart := locked.apart

theorem Locked.step (locked : Locked tx lease rows) (does : Does tx lease rows label after) :
    Locked tx lease after := by
  cases does with
  | ticks later =>
      exact
        { locked with
          sessions := fun id now found => (locked.sessions id now found).trans later
          began := fun beginning held => (locked.began beginning held).trans later
          claimed := fun claiming held => (locked.claimed claiming held).trans later }
  | @begins id =>
      refine { locked with sessions := fun other now found => ?_ }
      rw [Table.lookup_put] at found
      split at found
      · cases found
        exact Nat.le_refl _
      · exact locked.sessions other now found
  | leaves => exact locked.forgets _
  | @locks id now begun free =>
      refine (locked.forgets id).goesOn (locked.sessions id now begun) ?_ ?_
      · intro _ _ same
        contradiction
      · intro holds
        contradiction
  | refuses held began => exact locked.ends (fun _ _ => rfl)
  | marks held free began =>
      have past := locked.began _ held
      refine locked.goesOn past ?_ (fun _ => (completionFree_iff.mp free).1)
      intro _ _ same
      cases same
      exact ⟨_, _, began⟩
  | reads held began =>
      have past := locked.began _ held
      refine locked.goesOn past ?_ ?_
      · intro _ _ same
        contradiction
      · intro holds
        contradiction
  | owes held began =>
      have past := locked.began _ held
      refine locked.goesOn past ?_ ?_
      · intro _ _ same
        contradiction
      · intro holds
        contradiction
  | writesBack held free =>
      have past := locked.began _ held
      refine locked.goesOn past ?_ (fun _ => (completionFree_iff.mp free).1)
      intro _ _ same
      contradiction
  | starts held =>
      exact locked.ends (fun claiming claimed =>
        absurd claimed (locked.notClaimed held rfl claiming))
  | handsOver held => exact locked.ends (fun _ _ => rfl)
  | takesOver held =>
      exact locked.ends (fun claiming claimed =>
        absurd claimed (locked.notClaimed held rfl claiming))
  | rollsBack held => exact locked.ends (fun _ _ => rfl)
  | @claims id now record begun free found stuck =>
      refine
        { locked.forgets id with
          claimed := ?_
          stuck := ?_
          apart := ?_ }
      · intro claiming same
        cases same
        exact locked.sessions id now begun
      · intro claiming same
        cases same
        exact ⟨record, found, stuck, rfl⟩
      · intro claiming beginning _ held
        exact (completionFree_iff.mp free).2 beginning held
  | @commitsClaim claiming held =>
      refine
        { locked with
          claimed := fun _ found => by contradiction
          marked := ?_
          stuck := fun _ found => by contradiction
          apart := fun _ _ found => by contradiction }
      intro now epoch marked holds
      exact absurd held (locked.notClaimed holds rfl claiming)
  | dropsClaim held =>
      exact
        { locked with
          claimed := fun _ found => by contradiction
          stuck := fun _ found => by contradiction
          apart := fun _ _ found => by contradiction }
  | @drives id now statement server begun ready done =>
      refine { locked.forgets id with marked := ?_, stuck := ?_ }
      · intro began epoch marked held
        have held : rows.beginning = some ⟨began, .marked epoch marked⟩ := held
        obtain ⟨totalCents, request, began⟩ := locked.marked began epoch marked held
        exact (drive_marked held began ready done).elim
      · intro claiming held
        have held : rows.claiming = some claiming := held
        have kept : server.db.completions = rows.db.completions := drive_claimed held ready done
        rw [kept]
        exact locked.stuck claiming held

section View

theorem reading_of_held {now : Time} {phase : Phase} (held : rows.beginning = some ⟨now, phase⟩) :
    rows.reading = phase.reading := by
  unfold Rows.reading
  rw [held]
  rfl

theorem view_same (db : after.db = rows.db) (reading : after.reading = rows.reading) :
    Reaches Checkout.step (view tx rows) (view tx after) := by
  have same : view tx after = view tx rows := by
    unfold view
    rw [db, reading]
  rw [same]
  exact .refl _

/-- A take-over that ends without its write. -/
theorem view_drops (tx : TxId) (rows : Rows) :
    Reaches Checkout.step (view tx rows) (view tx { rows with beginning := none }) := by
  cases reading : rows.reading with
  | none => exact view_same rfl reading.symm
  | some record =>
      have drops : Checkout.step (view tx rows) (.dropTakeOver tx) =
          some (view tx { rows with beginning := none }) := by
        simp [Checkout.step, view, reading]
      exact .single drops

theorem view_drives {statement : Statement} {server : Server} {now : Time}
    (ready : statement.ready rows = true)
    (done : Checkout.step ⟨rows.db, fun _ => none⟩ (statement.action tx now) = some server) :
    Checkout.step (view tx rows) (statement.action tx now) =
      some (view tx { rows with db := server.db }) := by
  have unlocked (free : rows.beginning.isNone = true) (db : Database) :
      view tx { rows with db } = ⟨db, fun _ => none⟩ := by
    simp [view, Rows.reading, Option.isNone_iff_eq_none.mp free]
  cases statement with
  | insertTransaction =>
      cases step_takes done with
      | inserts absent =>
          have absent : rows.db.transactions.lookup tx = none := absent
          simp only [Statement.action, Checkout.step, view, absent]
          rfl
  | scanItem sku priceCents =>
      cases step_takes done with
      | scans => rfl
  | setReserved =>
      cases step_takes done with
      | reserves => rfl
  | markCompensating epoch reason =>
      cases step_takes done with
      | compensates => rfl
  | finalize totalCents =>
      rw [Statement.ready, Bool.and_eq_true] at ready
      cases step_takes done with
      | finalizes _ =>
          have before : view tx rows = ⟨rows.db, fun _ => none⟩ := unlocked ready.1 rows.db
          rw [before, unlocked ready.1]
          exact done
  | reopen =>
      rw [Statement.ready, Bool.and_eq_true] at ready
      cases step_takes done with
      | reopens _ =>
          have before : view tx rows = ⟨rows.db, fun _ => none⟩ := unlocked ready.1 rows.db
          rw [before, unlocked ready.1]
          exact done

/-- Refinement: what a statement does, local transactions do. -/
theorem Locked.answers (locked : Locked tx lease rows) (does : Does tx lease rows label after) :
    Reaches Checkout.step (view tx rows) (view tx after) := by
  cases does with
  | ticks later => exact .refl _
  | begins => exact .refl _
  | leaves => exact .refl _
  | locks begun free =>
      have idle : rows.reading = none := by simp [Rows.reading, free]
      exact view_same rfl idle.symm
  | refuses held began => exact view_drops tx rows
  | marks held free began => exact view_same rfl (reading_of_held held).symm
  | @reads now record held began =>
      have idle : rows.reading = none := reading_of_held held
      have reads : Checkout.step (view tx rows) (.beginCompletion tx lease now) =
          some (view tx { rows with beginning := some ⟨now, .read record⟩ }) := by
        simp [Checkout.step, view, idle, began, Phase.reading]
      exact .single reads
  | owes held began => exact view_same rfl (reading_of_held held).symm
  | writesBack held free => exact view_same rfl (reading_of_held held).symm
  | @starts now epoch marked held =>
      have idle : rows.reading = none := reading_of_held held
      obtain ⟨totalCents, request, began⟩ := locked.marked now epoch marked held
      have starts : Checkout.step (view tx rows) (.beginCompletion tx lease now) =
          some (view tx { rows with db := marked, beginning := none }) := by
        simp [Checkout.step, view, idle, began]
      exact .single starts
  | handsOver held => exact view_drops tx rows
  | @takesOver now record held =>
      have reading : rows.reading = some record := reading_of_held held
      have takesOver : Checkout.step (view tx rows) (.takeOver tx now) =
          some (view tx
            { rows with
              db := setCompletionState rows.db tx record.state none now
              beginning := none }) := by
        simp [Checkout.step, view, reading]
      exact .single takesOver
  | rollsBack held => exact view_drops tx rows
  | claims begun free found stuck => exact view_same rfl rfl
  | @commitsClaim claiming held =>
      obtain ⟨record, found, stuck, _⟩ := locked.stuck claiming held
      have claims : Checkout.step (view tx rows) (.claimStuck [tx] lease 20 claiming.now) =
          some (view tx
            { rows with
              db := Checkout.claim rows.db tx claiming.now
              claiming := none }) := by
        simp [Checkout.step, claimStuck, view, found, stuck, Rows.reading]
      exact .single claims
  | dropsClaim held => exact view_same rfl rfl
  | drives begun ready done => exact .single (view_drives ready done)

end View

/-- What every run of statements keeps. -/
theorem locked_of_run {allowed : Rows → Label → Prop} {labels : List Label}
    (run : Run (step tx lease) allowed opening labels rows) :
    Locked tx lease rows ∧ Coherent (view tx rows) := by
  have kept : Locked tx lease rows ∧ Reaches Checkout.step (view tx opening) (view tx rows) := by
    induction run with
    | start => exact ⟨.opening tx lease, .refl _⟩
    | snoc past permitted taken ih =>
        have does := step_does taken
        exact ⟨ih.1.step does, ih.2.trans (ih.1.answers does)⟩
  obtain ⟨actions, reached⟩ := kept.2
  have empty : view tx opening = emptyServer := by
    simp [view, Rows.reading, opening, emptyServer]
  rw [empty] at reached
  exact ⟨kept.1, coherent_of_run reached⟩

end SelfCheckout.Lease
