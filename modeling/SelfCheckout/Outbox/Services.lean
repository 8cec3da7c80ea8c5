import SelfCheckout.Checkout.Saga
import SelfCheckout.Inventory.Reading
import SelfCheckout.Outbox.Delivery

namespace SelfCheckout.Outbox

open SelfCheckout.Data

/-! # Checkout's and Inventory's outbox

Both services run the same outbox over their own local transactions.  Checkout
also publishes reservation requests it has no row for: a take-over asks again
with a fresh event.  Inventory's transactions run statement by statement.
-/

def checkoutService : Service Checkout.Server Checkout.Action Request where
  topic := "checkout.completions.v1"
  asks := true
  key request := Checkout.publicId request.attempt.transactionId
  transact := Checkout.step
  queued server := server.db.outbox
  appends taken := Checkout.outbox_grows taken

def inventorySessions (threshold : Int) :
    Service Inventory.Watched Inventory.Action Outcome where
  topic := "inventory.stock.v1"
  asks := false
  key outcome := Checkout.publicId outcome.attempt.transactionId
  transact := Inventory.watchedStep threshold
  queued watched := watched.server.db.outbox
  appends taken := Inventory.watchedStep_outbox taken

/-- Every event on the topic carries the payload of a row whose transaction made
or found the record it reports. -/
def ReportsRecords (threshold : Int)
    (state : State Inventory.Watched Inventory.Action Outcome) : Prop :=
  ∀ envelope ∈ state.stored, ∃ commit ∈ state.history,
    commit.envelopes = [envelope] ∧
      Inventory.AnswersRecord threshold commit.before envelope.payload commit.work

/-- `_RECORD_REJECTED` is run only where the refusal stands. -/
def RefusalsStand : State Inventory.Watched Inventory.Action Outcome →
    Action Inventory.Action Outcome → Prop :=
  Transacts (fun watched action => Inventory.refusalsStand watched.server action = true)

theorem reportsRecords {threshold : Int} {levels : Table Sku Nat}
    {actions : List (Action Inventory.Action Outcome)}
    {state : State Inventory.Watched Inventory.Action Outcome}
    (run : Run (step (inventorySessions threshold)) RefusalsStand
      (initial (Inventory.watch (Inventory.idle (Inventory.seeded levels)))) actions state) :
    ReportsRecords threshold state := by
  have safe : Safe (inventorySessions threshold) state := safe_of_run run.unrestricted
  have watching : ∀ commit ∈ state.history, Inventory.Watching commit.before :=
    history_of_run run (Inventory.Watching.start levels)
      (fun _ _ _ watching permitted taken => watching.step permitted taken)
  intro envelope stored
  obtain ⟨commit, listed, inserted⟩ := List.mem_flatMap.mp (safe.committed rfl envelope stored)
  obtain ⟨transacted, payloads, _⟩ := safe.history commit listed
  rcases (watching commit listed).answers transacted with same | ⟨outcome, queued, answers⟩
  · have none : commit.envelopes.map Envelope.payload = [] := by
      rw [payloads]
      simp [inventorySessions, same]
    rw [List.map_eq_nil_iff] at none
    rw [none] at inserted
    contradiction
  · have single : commit.envelopes.map Envelope.payload = [outcome] := by
      rw [payloads]
      simp [inventorySessions, queued]
    obtain ⟨only, rest, rfl⟩ := List.map_eq_singleton_iff.mp single
    rw [rest, List.mem_singleton] at inserted
    subst inserted
    exact ⟨commit, listed, rest, answers⟩

/-- In every run, of Checkout's outbox and of Inventory's: no committed row is
lost and purges leave unpublished rows alone.  Where every refusal recorded
stands, Inventory's events report records their transactions made or found. -/
theorem outbox_loses_and_invents_nothing (threshold : Int) (levels : Table Sku Nat)
    (checkoutActions : List (Action Checkout.Action Request))
    (checkout : State Checkout.Server Checkout.Action Request)
    (checkoutRun : Run (step checkoutService) Any (initial Checkout.emptyServer) checkoutActions
      checkout)
    (inventoryActions : List (Action Inventory.Action Outcome))
    (inventory : State Inventory.Watched Inventory.Action Outcome)
    (inventoryRun : Run (step (inventorySessions threshold)) Any
      (initial (Inventory.watch (Inventory.idle (Inventory.seeded levels)))) inventoryActions
      inventory) :
    (NothingLost checkout ∧ PurgesPublished checkoutService checkout) ∧
      NothingLost inventory ∧ PurgesPublished (inventorySessions threshold) inventory ∧
      (Run (step (inventorySessions threshold)) RefusalsStand
          (initial (Inventory.watch (Inventory.idle (Inventory.seeded levels)))) inventoryActions
          inventory →
        ReportsRecords threshold inventory) :=
  ⟨⟨(safe_of_run checkoutRun).nothingLost, purgesPublished _ _⟩,
    (safe_of_run inventoryRun).nothingLost, purgesPublished _ _, reportsRecords⟩

/-- A handler's transaction, in so many statements and locks. -/
def handles (request : Request) (statements : Nat) (now : Time) :
    List (Action Inventory.Action Outcome) :=
  .transact (.begin 0 (.handle request)) now ::
    List.replicate statements (.transact (.proceed 0) now)

/-- A completion whose call publishes its request and dies before the mark. -/
def diesBeforeMark : List (Action Checkout.Action Request) :=
  let asked := Request.stockReservationRequested ⟨1, 1⟩ [("SKU-000001", 1)]
  [.transact (.insertTransaction 1 0) 0, .transact (.scanItem 1 "SKU-000001" 250) 1,
    .transact (.beginCompletion 1 60 2) 2,
    .publishNow 0 ⟨"checkout.completions.v1", "tx-1", 0, asked⟩, .publish 0 .acknowledged,
    .crash 0]

theorem diesBeforeMark_runs : (diesBeforeMark.foldlM (step checkoutService)
    (initial Checkout.emptyServer)).isSome = true := by
  decide +kernel

/-- A row a sweeper publishes and rolls back, a second one publishes again, marks
and commits, and a purge deletes. -/
def sweptTwice : List (Action Inventory.Action Outcome) :=
  handles (.stockReleaseRequested ⟨1, 1⟩) 2 0 ++
    [.sweep 2 0 100 5, .sweepPublish 2 .acknowledged, .sweepRollback 2, .sweep 3 0 100 9,
      .sweepPublish 3 .acknowledged, .sweepCommit 3 9, .purge 1 5000]

instance (state : State Inventory.Watched Inventory.Action Outcome)
    (action : Action Inventory.Action Outcome) : Decidable (RefusalsStand state action) := by
  unfold RefusalsStand Transacts
  cases action <;> infer_instance

theorem sweptTwice_runs : (sweptTwice.foldlM (guarded (step (inventorySessions 5)) RefusalsStand)
    (initial (Inventory.watch (Inventory.idle (Inventory.seeded Table.empty))))).isSome = true := by
  decide +kernel

theorem outbox_loses_and_invents_nothing_sweptTwice :
    ReportsRecords 5 ((sweptTwice.foldlM (guarded (step (inventorySessions 5)) RefusalsStand)
      (initial (Inventory.watch (Inventory.idle (Inventory.seeded Table.empty))))).get
        sweptTwice_runs) := by
  have run : Run (step (inventorySessions 5)) RefusalsStand _ sweptTwice _ :=
    .of_guarded (Option.some_get sweptTwice_runs).symm
  exact (outbox_loses_and_invents_nothing 5 Table.empty diesBeforeMark _
    (.of_foldlM (Option.some_get diesBeforeMark_runs).symm) sweptTwice _
    run.unrestricted).2.2.2 run

/-- The race for the last unit, and a handler that publishes what the loser
committed. -/
def raceOnTheTopic : List (Action Inventory.Action Outcome) :=
  Inventory.racing.map (fun action => .transact action 0) ++
    [.publishNow 0 ⟨"inventory.stock.v1", "tx-1", 1, .stockRejected ⟨1, 1⟩ ["SKU-000001"]⟩,
      .publish 0 .acknowledged]

theorem raceOnTheTopic_runs : (raceOnTheTopic.foldlM (step (inventorySessions 10))
    (initial (Inventory.watch (Inventory.idle (Inventory.seeded
      (Table.empty.put "SKU-000001" 1)))))).isSome = true := by
  decide +kernel

/-- The event on the topic reports a refusal that its transaction neither made
nor found. -/
theorem race_reports_no_record : ∃ state,
    Run (step (inventorySessions 10)) Any
      (initial (Inventory.watch (Inventory.idle (Inventory.seeded
        (Table.empty.put "SKU-000001" 1))))) raceOnTheTopic state ∧
      ¬ ReportsRecords 10 state := by
  refine ⟨_, .of_foldlM (Option.some_get raceOnTheTopic_runs).symm, ?_⟩
  unfold ReportsRecords
  decide +kernel

end SelfCheckout.Outbox
