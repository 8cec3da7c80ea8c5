import SelfCheckout.Analytics.Gaps
import SelfCheckout.Outbox.Services
import SelfCheckout.Relay.Delivery
import SelfCheckout.Report.AtRest

namespace SelfCheckout.Report

open SelfCheckout.Data SelfCheckout.Checkout

/-! # What has arrived when the check passes

The reports come from services that all run: the saga, the outbox of each service, the relay
and Analytics' tail, each by its own steps on the tables they share.  Where the check passes,
nothing is stranded between a state change and its event.
-/

variable {Instant Db Work Payload : Type}

/-- The services when they report.  The outboxes and the relay are on the tables of the saga. -/
structure Services (Instant : Type) where
  system : Saga.System
  checkout : Outbox.State Checkout.Server Checkout.Action Request
  inventory : Outbox.State Inventory.Watched Inventory.Action Outcome
  relay : Relay.System
  tail : Analytics.TailIngest Instant
  checkoutTables : checkout.db.db = system.checkout
  inventoryTables : inventory.db.server.db = system.inventory
  scanRows : relay.scans.map (fun scan => (scan.transactionId, scan.sku)) =
    system.checkout.items.map (fun item => (item.transactionId, item.sku))

def outboxRows (rows : List (Outbox.Row Payload)) : List OutboxRow :=
  rows.map (fun row => ⟨row.createdAt, row.publishedAt⟩)

/-- `relay_state` answers 0 where no position is saved. -/
def Services.checkoutStore (services : Services Instant) (now : Time) : CheckoutStore :=
  { database := services.checkout.db.db
    scanIds := services.relay.scans.map Relay.Scan.id
    relayPosition := (services.relay.relayState.map Prod.fst).getD 0
    outbox := outboxRows services.checkout.rows
    now }

def Services.inventoryStore (services : Services Instant) (now : Time) : InventoryStore :=
  { database := services.inventory.db.server.db
    outbox := outboxRows services.inventory.rows
    now }

/-- `state.cursor` is the tail's. -/
def Services.cursor (services : Services Instant) : CursorReport := ⟨services.tail.lastId⟩

/-- The verdict of `check` on their reports. -/
def Services.check (services : Services Instant) (now : Time) : Bool :=
  (Report.check (soldReport (services.checkoutStore now)) (scanCountReport (services.checkoutStore now))
    (stockReport (services.inventoryStore now)) services.cursor).1

/-- The event of every row that was committed is on its topic, or the row is too young for
`unpublished_count`. -/
def EventsArrived (outbox : Outbox.State Db Work Payload) (now : Time) : Prop :=
  ∀ envelope ∈ outbox.committed, envelope ∈ outbox.stored ∨
    ∃ row ∈ outbox.rows, row.envelope = envelope ∧ now ≤ row.createdAt + unpublishedAge

/-- Every event is where it was to go.  Every scan of the log was acknowledged on its topic, or
declared a gap by a pass that had not read it; and the tail has emitted, once, every scan of
the log that a read gave it. -/
structure Services.Arrived (services : Services Instant)
    (passes : List (Analytics.Read × Instant)) (now : Time) : Prop where
  requests : EventsArrived services.checkout now
  outcomes : EventsArrived services.inventory now
  scans : ∀ scan ∈ services.relay.scans,
    (scan.event ∈ services.relay.acknowledged ∧
        ∃ log, (log, scan.event) ∈ services.relay.topic) ∨
      ∃ pass ∈ services.relay.passes, scan.id ∈ pass.skipped ∧
        scan.id ∉ pass.rows.map Relay.Scan.id
  emitted : ∀ row ∈ Analytics.returned passes,
    row.scanId ∈ services.relay.scans.map Relay.Scan.id →
      (Analytics.scans services.tail.out).count row = 1

/-- What the services are started with. -/
structure Deployed (Instant : Type) where
  threshold : Int
  levels : Table Sku Nat
  token : Relay.Token
  relayGrace : Time
  tail : Analytics.TailSettings Instant
  log : Nat → Sku
  logId : Option String
  startAfter : Nat
  firstBoundary : Option Nat

section Runs

variable [Sub Instant] [LE Instant] [DecidableLE Instant]

/-- Runs of the services, with one driver at a time on a transaction, one request handled at a
time, one scan log, and no hole given up that is partly filled. -/
structure Deployed.Reaches (deployed : Deployed Instant) (services : Services Instant)
    (passes : List (Analytics.Read × Instant)) : Prop where
  saga : ∃ labels, Run (Saga.step deployed.threshold) Saga.OneDriver (Saga.opening deployed.levels)
    labels services.system
  checkout : ∃ actions, Run (Outbox.step Outbox.checkoutService) Any
    (Outbox.initial emptyServer) actions services.checkout
  inventory : ∃ actions, Run (Outbox.step (Outbox.inventorySessions deployed.threshold)) Any
    (Outbox.initial (Inventory.watch (Inventory.idle (Inventory.seeded deployed.levels)))) actions
    services.inventory
  relay : ∃ labels, Run (Relay.step deployed.relayGrace) Relay.FixedLog
    (Relay.initial deployed.token) labels services.relay
  tail : Run (Analytics.TailIngest.step deployed.tail)
    (fun tail given => Analytics.WellRead deployed.log tail given ∧
      Analytics.HoleStaysEmpty deployed.tail tail given)
    (Analytics.TailIngest.start deployed.tail deployed.logId deployed.startAfter
      deployed.firstBoundary) passes services.tail

theorem le_foldl_max {ids : List Nat} {id : Nat} (member : id ∈ ids) : id ≤ ids.foldl max 0 := by
  rw [List.foldl_max]
  exact (List.le_max?_getD_of_mem member).trans (Nat.le_max_right _ _)

/-- Where no row waits, what was committed is stored or young. -/
theorem eventsArrived {outbox : Outbox.State Db Work Payload} {now : Time}
    (kept : Outbox.NothingLost outbox)
    (noneWaits : ∀ row ∈ outboxRows outbox.rows, ¬ row.Waits unpublishedAge now) :
    EventsArrived outbox now := by
  intro envelope committed
  rcases kept envelope committed with ⟨row, listed, same, unpublished⟩ | stored
  · refine .inr ⟨row, listed, same, ?_⟩
    have young := noneWaits _ (List.mem_map_of_mem listed)
    by_contra old
    exact young ⟨unpublished, not_le.mp old⟩
  · exact .inl stored

variable {deployed : Deployed Instant} {services : Services Instant}
  {passes : List (Analytics.Read × Instant)} {now : Time}

/-- A saved position that is the highest scan id has passed every scan. -/
theorem Deployed.Reaches.scans (reaches : deployed.Reaches services passes)
    (relayed : (services.checkoutStore now).relayPosition =
      (services.checkoutStore now).scanIds.foldl max 0) :
    ∀ scan ∈ services.relay.scans,
      (scan.event ∈ services.relay.acknowledged ∧
          ∃ log, (log, scan.event) ∈ services.relay.topic) ∨
        ∃ pass ∈ services.relay.passes, scan.id ∈ pass.skipped ∧
          scan.id ∉ pass.rows.map Relay.Scan.id := by
  intro scan committed
  obtain ⟨labels, relayRun⟩ := reaches.relay
  have sound := Relay.sound_of_run relayRun
  have below := le_foldl_max (List.mem_map_of_mem (f := Relay.Scan.id) committed)
  simp only [Services.checkoutStore] at relayed
  rw [← relayed] at below
  cases found : services.relay.relayState with
  | none =>
      have positive := sound.positive scan committed
      rw [found] at below
      simp only [Option.map_none, Option.getD_none] at below
      omega
  | some saved =>
      rw [found] at below
      exact sound.delivered found committed below

theorem Deployed.Reaches.arrived (reaches : deployed.Reaches services passes)
    (rest : AtRest (services.checkoutStore now) (services.inventoryStore now) services.cursor) :
    services.Arrived passes now := by
  obtain ⟨_, checkoutRun⟩ := reaches.checkout
  obtain ⟨_, inventoryRun⟩ := reaches.inventory
  refine ⟨eventsArrived (Outbox.safe_of_run checkoutRun).nothingLost rest.sent,
    eventsArrived (Outbox.safe_of_run inventoryRun).nothingLost rest.answered,
    reaches.scans rest.relayed, fun row given listed => ?_⟩
  have cursor : row.scanId ≤ services.tail.lastId := by
    rw [show services.tail.lastId = _ from rest.read]
    exact le_foldl_max listed
  exact (Analytics.exact_of_run reaches.tail).emitsEveryScan.once row given cursor

/-- The check says what it is for.  In every run with one driver at a time on a transaction,
whatever was lost, repeated, refused or rolled back on the way, it passes exactly if nothing is
under way; and where it passes, every event and every scan has arrived. -/
theorem check_passes_iff_at_rest (stocked : deployed.levels.rows ≠ [])
    (reaches : deployed.Reaches services passes) (now : Time) :
    (services.check now = true ↔
        AtRest (services.checkoutStore now) (services.inventoryStore now) services.cursor) ∧
      (services.check now = true → services.Arrived passes now) := by
  obtain ⟨_, sagaRun⟩ := reaches.saga
  have verdict : services.check now = true ↔
      AtRest (services.checkoutStore now) (services.inventoryStore now) services.cursor :=
    passes_iff_atRest sagaRun services.checkoutTables services.inventoryTables stocked
  exact ⟨verdict, fun passed => reaches.arrived (verdict.mp passed)⟩

end Runs

/-- Checkout's local transactions in the run `completedSecond`, and a sweep after them. -/
def checkoutActions : List (Outbox.Action Checkout.Action Request) :=
  [.transact (.insertTransaction 1 0) 0, .transact (.scanItem 1 "SKU-000001" 250) 1,
    .transact (.scanItem 1 "SKU-000001" 250) 2, .transact (.beginCompletion 1 60 10) 10,
    .transact (.claimStuck [1] 60 20 100) 100,
    .transact (.markCompensating 1 1 (some "recovered from RESERVING") 101) 101,
    .transact (.reopen 1 102) 102, .transact (.beginCompletion 1 60 110) 110,
    .transact (.setReserved 1 112) 112, .transact (.finalize 1 500 113) 113,
    .sweep 0 2 100 113, .sweepPublish 0 .acknowledged, .sweepPublish 0 .acknowledged,
    .sweepPublish 0 .acknowledged, .sweepCommit 0 113]

/-- Inventory's, with a sweep that finds the last two rows too young. -/
def inventoryActions : List (Outbox.Action Inventory.Action Outcome) :=
  let first := Request.stockReservationRequested ⟨1, 1⟩ [("SKU-000001", 2)]
  let second := Request.stockReservationRequested ⟨1, 2⟩ [("SKU-000001", 2)]
  Outbox.handles first 4 20 ++ Outbox.handles (.stockReleaseRequested ⟨1, 1⟩) 5 103 ++
    Outbox.handles second 4 111 ++ Outbox.handles first 4 112 ++
    [.sweep 0 2 100 113, .sweepPublish 0 .acknowledged, .sweepPublish 0 .acknowledged,
      .sweepCommit 0 113]

def relayLabels : List Relay.Label :=
  [.commit ⟨1, 1, "SKU-000001"⟩, .commit ⟨2, 1, "SKU-000001"⟩, .start 0, .readState 0,
    .readToken 0, .branch 0 id, .save 0, .readState 0, .readToken 0, .branch 0 id, .store 0,
    .store 0, .acknowledge 0, .save 0]

theorem checkoutActions_run : (checkoutActions.foldlM (Outbox.step Outbox.checkoutService)
    (Outbox.initial emptyServer)).isSome = true := by
  decide +kernel

theorem inventoryActions_run : (inventoryActions.foldlM (Outbox.step (Outbox.inventorySessions 5))
    (Outbox.initial (Inventory.watch (Inventory.idle (Inventory.seeded
      (Table.empty.put "SKU-000001" 5)))))).isSome = true := by
  decide +kernel

theorem relayLabels_run : (relayLabels.foldlM (guarded (Relay.step 5) Relay.FixedLog)
    (Relay.initial 1)).isSome = true := by
  decide +kernel

theorem tailPasses_run : (Analytics.filledInTime.foldlM
    (guarded (Analytics.TailIngest.step Analytics.shortGrace)
      (fun tail given => Analytics.WellRead (fun _ => "SKU-000001") tail given ∧
        Analytics.HoleStaysEmpty Analytics.shortGrace tail given))
    (Analytics.TailIngest.start Analytics.shortGrace none 0 none)).isSome = true := by
  decide +kernel

/-- The first attempt was rolled back and the second sold both items. -/
def settled : Services Nat where
  system := Option.get _ Saga.completedSecond_runs
  checkout := Option.get _ checkoutActions_run
  inventory := Option.get _ inventoryActions_run
  relay := Option.get _ relayLabels_run
  tail := Option.get _ tailPasses_run
  checkoutTables := by rfl
  inventoryTables := by rfl
  scanRows := by decide +kernel

def oneShop : Deployed Nat where
  threshold := 5
  levels := Table.empty.put "SKU-000001" 5
  token := 1
  relayGrace := 5
  tail := Analytics.shortGrace
  log := fun _ => "SKU-000001"
  logId := none
  startAfter := 0
  firstBoundary := none

theorem settled_reached : oneShop.Reaches settled Analytics.filledInTime where
  saga := ⟨_, .of_guarded (Option.some_get Saga.completedSecond_runs).symm⟩
  checkout := ⟨_, .of_foldlM (Option.some_get checkoutActions_run).symm⟩
  inventory := ⟨_, .of_foldlM (Option.some_get inventoryActions_run).symm⟩
  relay := ⟨_, .of_guarded (Option.some_get relayLabels_run).symm⟩
  tail := .of_guarded (Option.some_get tailPasses_run).symm

theorem check_passes_iff_at_rest_completedSecond :
    settled.check 113 = true ∧ settled.Arrived Analytics.filledInTime 113 := by
  have verdict := check_passes_iff_at_rest (by decide) settled_reached 113
  have passed : settled.check 113 = true := verdict.1.mpr
    ⟨openCompletions_eq_zero.mp (by decide +kernel), by decide +kernel, by decide +kernel,
      by decide +kernel, by decide +kernel⟩
  exact ⟨passed, verdict.2 passed⟩

end SelfCheckout.Report
