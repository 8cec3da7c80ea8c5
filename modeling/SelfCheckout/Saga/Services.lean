import SelfCheckout.Inventory.Conservation
import SelfCheckout.Inventory.Serial
import SelfCheckout.Saga.System

namespace SelfCheckout.Saga

open SelfCheckout.Data SelfCheckout.Checkout

/-! # The services inside the system

Seen from Checkout, a run of the system is a run of its local transactions; seen
from Inventory it is a run of sessions that follow one another.  What holds in
every run of a service alone holds of it in the system.
-/

/-- Checkout with no take-over between its read and its write. -/
def System.checkoutServer (system : System) : Checkout.Server :=
  { db := system.checkout, reading := fun _ => none }

section Checkout

variable {threshold : Int} {system after : System} {label : Label}

/-- A driver's local transaction is one of Checkout's, a take-over its two. -/
theorem writes_checkout {driver : Driver} {db after : Checkout.Database} {lease : Nat} {now : Time}
    (writes : Writes driver db lease now after) :
    Reaches Checkout.step { db, reading := fun _ => none }
      { db := after, reading := fun _ => none } := by
  cases writes with
  | nothing quiet => exact .refl _
  | started phase began =>
      have taken : Checkout.step { db, reading := fun _ => none }
          (.beginCompletion driver.tx lease now) =
          some { db := after, reading := fun _ => none } := by
        simp [Checkout.step, began]
      exact .single taken
  | @tookOver again record phase began =>
      have reads : Checkout.step { db, reading := fun _ => none }
          (.beginCompletion driver.tx lease now) =
          some { db, reading := Function.update (fun _ => none) driver.tx (some record) } := by
        simp [Checkout.step, began]
      have writes : Checkout.step
          { db, reading := Function.update (fun _ => none) driver.tx (some record) }
          (.takeOver driver.tx now) =
          some { db := takeOver db driver.tx record now, reading := fun _ => none } := by
        simp [Checkout.step, takeOver]
      exact (Reaches.single reads).snoc writes
  | reserved phase =>
      exact .single (rfl : Checkout.step _ (.setReserved driver.tx now) = some _)
  | @finalized begun phase =>
      exact .single (rfl : Checkout.step _ (.finalize driver.tx begun.totalCents now) = some _)
  | @rolledForward _ totalCents phase =>
      exact .single (rfl : Checkout.step _ (.finalize driver.tx totalCents now) = some _)
  | @compensated epoch reason _ phase =>
      exact .single
        (rfl : Checkout.step _ (.markCompensating driver.tx epoch (some reason) now) = some _)
  | reopened phase =>
      exact .single (rfl : Checkout.step _ (.reopen driver.tx now) = some _)

theorem step_checkout (taken : Saga.step threshold system label = some after) :
    Reaches Checkout.step system.checkoutServer after.checkoutServer := by
  cases step_does taken with
  | @inserts tx now absent =>
      have inserted : Checkout.step system.checkoutServer (.insertTransaction tx now) =
          some { db := insertTransaction system.checkout tx now, reading := fun _ => none } := by
        simp [Checkout.step, System.checkoutServer, absent]
      exact .single inserted
  | @scans tx sku priceCents =>
      exact .single (rfl : Checkout.step _ (.scanItem tx sku priceCents) = some _)
  | @sweeps minutes now =>
      exact .single (rfl : Checkout.step _ (.sweepAbandoned minutes now) = some _)
  | calls free => exact .refl _
  | @claims _ claimed lease limit now rows db free done =>
      have claimed : Checkout.step system.checkoutServer (.claimStuck claimed lease limit now) =
          some { db, reading := fun _ => none } := by
        simp [Checkout.step, System.checkoutServer, done]
      exact .single claimed
  | commits running writes goes => exact writes_checkout writes
  | raisesAfterCommit running raised writes => exact writes_checkout writes
  | raises running raised => exact .refl _
  | receives running onTopic received => exact .refl _
  | timesOut running timedOut => exact .refl _
  | crashes => exact .refl _
  | publishes known => exact .refl _
  | handles onTopic done => exact .refl _
  | publishesOutcome queued => exact .refl _

/-- Inventory handles one request at a time, each in a session of its own. -/
theorem step_inventory (taken : Saga.step threshold system label = some after) :
    Reaches (Inventory.step threshold) (Inventory.idle system.inventory)
      (Inventory.idle after.inventory) := by
  cases step_does taken with
  | handles onTopic done => exact Inventory.handle_alone done
  | inserts absent => exact .refl _
  | scans => exact .refl _
  | sweeps => exact .refl _
  | calls free => exact .refl _
  | claims free done => exact .refl _
  | commits running writes goes => exact .refl _
  | raisesAfterCommit running raised writes => exact .refl _
  | raises running raised => exact .refl _
  | receives running onTopic received => exact .refl _
  | timesOut running timedOut => exact .refl _
  | crashes => exact .refl _
  | publishes known => exact .refl _
  | publishesOutcome queued => exact .refl _

end Checkout

section Runs

variable {threshold : Int} {allowed : System → Label → Prop} {levels : Table Sku Nat}
  {labels : List Label} {system : System}

/-- Refinement: Checkout's tables in a run of the system are those of a run of its server alone. -/
theorem checkout_of_run (run : Run (Saga.step threshold) allowed (opening levels) labels system) :
    Reaches Checkout.step Checkout.emptyServer system.checkoutServer :=
  .of_run System.checkoutServer run (fun _ _ _ taken => step_checkout taken)

/-- And Inventory's are those of its handlers. -/
theorem inventory_of_run (run : Run (Saga.step threshold) allowed (opening levels) labels system) :
    Reaches (Inventory.step threshold) (Inventory.idle (Inventory.seeded levels))
      (Inventory.idle system.inventory) :=
  .of_run (fun system => Inventory.idle system.inventory) run
    (fun _ _ _ taken => step_inventory taken)

/-- Whatever the drivers do, the system's stock ledger balances. -/
theorem system_stock_balances
    (run : Run (Saga.step threshold) allowed (opening levels) labels system) :
    Inventory.Conserved system.inventory := by
  obtain ⟨actions, inventory⟩ := inventory_of_run run
  have sound : Inventory.Sound (Inventory.idle system.inventory) :=
    inventory.invariant (Inventory.Sound.idle levels)
      (fun _ _ _ sound _ taken => sound.step taken)
  exact sound.conserved

end Runs

end SelfCheckout.Saga
