import Mathlib.Data.Fintype.EquivFin
import SelfCheckout.Saga.Sound

namespace SelfCheckout.Saga

open SelfCheckout.Data SelfCheckout.Checkout

/-! # Recovery can always finish

Whatever the drivers have done and wherever they were cut off: from every state of the
system a recovery pass, the two outboxes and Inventory can settle every open completion
without the drivers that are still there.  RESERVED is rolled forward, anything else back.
-/

/-- What recovery makes of a completion. -/
def recovered : CompletionState → CompletionState
  | .reserving => .aborted
  | .reserved => .completed
  | .completed => .completed
  | .compensating => .aborted
  | .aborted => .aborted

/-- Only recovery passes that were not there yet act, and the outboxes and Inventory. -/
def Recovering (drivers : Table DriverId Driver) (_ : System) : Label → Prop
  | .runOnce id _ _ _ _ => drivers.lookup id = none
  | .commit id _ _ => drivers.lookup id = none
  | .reply id _ => drivers.lookup id = none
  | .publish _ => True
  | .handle _ => True
  | .publishOutcome _ => True
  | _ => False

/-- What settling one completion leaves behind, and what it leaves alone. -/
structure Settles (system after : System) (id : DriverId) (tx : TxId) (record : Completion) :
    Prop where
  closed : ∃ settled, after.checkout.completions.lookup tx = some settled ∧
    settled.epoch = record.epoch ∧ settled.state = recovered record.state
  undone : recovered record.state = .aborted → Undone after.inventory ⟨tx, record.epoch⟩
  others : ∀ other ≠ tx,
    after.checkout.completions.lookup other = system.checkout.completions.lookup other
  kept : ∀ attempt ≠ ⟨tx, record.epoch⟩,
    after.inventory.adjustments.lookup attempt = system.inventory.adjustments.lookup attempt
  drivers : ∀ other ≠ id, after.drivers.lookup other = system.drivers.lookup other

/-- A pass of one row. -/
def pass (tx : TxId) (phase : Phase) : Driver := { tx, origin := .recovery [] 0, phase }

section One

variable {threshold : Int} {system : System} {id : DriverId} {tx : TxId} {record : Completion}
  {drivers : Table DriverId Driver}

/-- The pass's first step: it claims the completion and starts on it. -/
theorem claims_one (threshold : Int) (free : system.drivers.lookup id = none)
    (found : system.checkout.completions.lookup tx = some record)
    (live : record.state.terminal = false) (lease limit : Nat) (room : 0 < limit) :
    step threshold system (.runOnce id [tx] lease limit (record.updatedAt + lease + 1)) =
      some ({ system with checkout := claim system.checkout tx (record.updatedAt + lease + 1) }
        |>.setDriver id (some
          (pass tx (recover ⟨tx, record.epoch, record.state, record.totalCents⟩)))) := by
  have stuck : record.stuck lease (record.updatedAt + lease + 1) = true := by
    simp [Completion.stuck, live]
  have claims : claimStuck system.checkout [tx] lease limit (record.updatedAt + lease + 1) =
      some ([⟨tx, record.epoch, record.state, record.totalCents⟩],
        claim system.checkout tx (record.updatedAt + lease + 1)) := by
    rw [claimStuck, if_pos ⟨List.nodup_singleton tx, room, by simp [found, stuck]⟩]
    simp [found]
  simp [step, free, claims, firstRow, pass]

theorem completing_of_live
    (coupled : Coupled (system.checkout.transactions.lookup tx)
      (system.checkout.completions.lookup tx))
    (found : system.checkout.completions.lookup tx = some record)
    (live : record.state.terminal = false) :
    ∃ row, system.checkout.transactions.lookup tx = some row ∧ row.status = .completing := by
  rw [found] at coupled
  cases row : system.checkout.transactions.lookup tx with
  | none =>
      rw [row] at coupled
      contradiction
  | some row' =>
      rw [row] at coupled
      refine ⟨row', rfl, ?_⟩
      cases state : record.state with
      | completed => simp [state, CompletionState.terminal] at live
      | aborted => simp [state, CompletionState.terminal] at live
      | _ =>
          simp only [Coupled, state] at coupled
          exact coupled.1

theorem claim_other {db : Checkout.Database} {now : Time} {other : TxId} (different : other ≠ tx) :
    (claim db tx now).completions.lookup other = db.completions.lookup other := by
  simp [claim, different]

theorem claim_found {db : Checkout.Database} {now : Time}
    (found : db.completions.lookup tx = some record) :
    (claim db tx now).completions.lookup tx =
      some { record with attempts := record.attempts + 1, updatedAt := now } := by
  simp [claim, found]

/-- The local transaction of a driver that was just set; it publishes nothing by itself. -/
theorem commits (threshold : Int) (base : System) (id : DriverId) {driver next : Driver}
    {db : Checkout.Database} {lease : Nat} {now : Time}
    (done : driver.transact base.checkout lease now = some (db, next, [])) :
    step threshold (base.setDriver id (some driver)) (.commit id lease now) =
      some (({ base.setDriver id (some driver) with checkout := db } : System).setDriver id
        (some next)) := by
  have same : (base.setDriver id (some driver)).checkout = base.checkout := rfl
  simp [step, setDriver_self, same, done]

theorem setDriver_other (system : System) {other : DriverId} (different : other ≠ id)
    (driver : Option Driver) :
    (system.setDriver id driver).drivers.lookup other = system.drivers.lookup other := by
  rw [setDriver_drivers, if_neg different]

/-- A RESERVED completion is rolled forward in two steps. -/
theorem rolls_forward (free : system.drivers.lookup id = none) (fresh : drivers.lookup id = none)
    (coupled : Coupled (system.checkout.transactions.lookup tx)
      (system.checkout.completions.lookup tx))
    (found : system.checkout.completions.lookup tx = some record)
    (reserved : record.state = .reserved) (lease limit : Nat) (room : 0 < limit) :
    ∃ labels after, Run (step threshold) (Recovering drivers) system labels after ∧
      Settles system after id tx record := by
  have live : record.state.terminal = false := by
    rw [reserved]
    rfl
  obtain ⟨row, foundRow, isCompleting⟩ := completing_of_live coupled found live
  have claimed := claims_one threshold free found live lease limit room
  generalize claimedAt : record.updatedAt + lease + 1 = now at claimed
  rw [recover, if_pos reserved] at claimed
  have commit := commits threshold { system with checkout := claim system.checkout tx now } id
    (show (pass tx (.rollForward record.epoch record.totalCents)).transact
      (claim system.checkout tx now) lease now = some _ from rfl)
  refine ⟨[.runOnce id [tx] lease limit now, .commit id lease now], _,
    .cons fresh claimed (.cons fresh commit .start), ?_, ?_, ?_, ?_, ?_⟩
  · refine ⟨{ record with attempts := record.attempts + 1, state := .completed, updatedAt := now },
      ?_, rfl, by rw [reserved]; rfl⟩
    simp [System.setDriver, pass, Checkout.finalize, claim, foundRow, isCompleting, found]
  · simp [reserved, recovered]
  · intro other different
    exact (finalize_other _ _ _ _ different).trans (claim_other different)
  · intro attempt _
    rfl
  · intro other different
    exact (setDriver_other _ different _).trans (setDriver_other _ different _)

/-- Inventory answers the release of any attempt it can store. -/
theorem releases (threshold : Int) (db : Inventory.Database) {attempt : Attempt}
    (storable : Inventory.bindable attempt [] = true) :
    ∃ units already after, Inventory.handle db threshold (.stockReleaseRequested attempt) =
      some (.stockReleased attempt units already, after) := by
  simp only [Inventory.handle, Inventory.handleRelease, Inventory.release, storable, ↓reduceIte]
  split <;> exact ⟨_, _, _, rfl⟩

/-- A queued request is stored and handled, and its outcome stored, with no driver acting. -/
theorem served_run {request : Request} {outcome : Outcome} {inventory : Inventory.Database}
    (queued : request ∈ system.checkout.outbox)
    (handled : Inventory.handle system.inventory threshold request = some (outcome, inventory)) :
    ∃ after, Run (step threshold) (Recovering drivers) system
        [.publish request, .handle request, .publishOutcome outcome] after ∧
      after.checkout = system.checkout ∧ after.inventory = inventory ∧
      after.drivers = system.drivers ∧ outcome ∈ after.stock := by
  have publishes : step threshold system (.publish request) =
      some { system with completions := system.completions ++ [request] } := by
    simp [step, queued]
  have handles : step threshold { system with completions := system.completions ++ [request] }
      (.handle request) =
      some { system with completions := system.completions ++ [request], inventory } := by
    simp [step, handled]
  have announced : outcome ∈ inventory.outbox := by
    rw [Inventory.handle_outbox handled]
    simp
  have announces : step threshold
      { system with completions := system.completions ++ [request], inventory }
      (.publishOutcome outcome) =
      some { system with
        completions := system.completions ++ [request], inventory
        stock := system.stock ++ [outcome] } := by
    simp [step, announced]
  exact ⟨_, .cons trivial publishes (.cons trivial handles (.cons trivial announces .start)), rfl,
    rfl, rfl, by simp⟩

/-- The pass that waits for its release gets its reply and reopens the transaction. -/
theorem reopens_run (threshold : Int) {epoch units : Nat} {already : Bool}
    (fresh : drivers.lookup id = none)
    (running : system.drivers.lookup id = some (pass tx (.awaitRelease epoch (.leave .settled))))
    (onTopic : .stockReleased ⟨tx, epoch⟩ units already ∈ system.stock) (lease : Nat) (now : Time) :
    ∃ labels after, Run (step threshold) (Recovering drivers) system labels after ∧
      after.checkout = Checkout.reopen system.checkout tx now ∧
      after.inventory = system.inventory ∧
      ∀ other ≠ id, after.drivers.lookup other = system.drivers.lookup other := by
  have replies : step threshold system (.reply id (.stockReleased ⟨tx, epoch⟩ units already)) =
      some (system.setDriver id (some (pass tx (.reopen epoch (.leave .settled))))) := by
    simp [step, running, onTopic, Driver.receive, pass, Outcome.attempt, Driver.goto]
  have reopens := commits threshold system id
    (show (pass tx (.reopen epoch (.leave .settled))).transact system.checkout lease now =
      some _ from rfl)
  refine ⟨[.reply id (.stockReleased ⟨tx, epoch⟩ units already), .commit id lease now], _,
    .cons fresh replies (.cons fresh reopens .start), rfl, rfl, fun other different => ?_⟩
  exact (setDriver_other _ different _).trans (setDriver_other _ different _)

/-- The pass claims a completion that is not RESERVED and commits COMPENSATING. -/
theorem marks_run (threshold : Int) (free : system.drivers.lookup id = none)
    (fresh : drivers.lookup id = none)
    (found : system.checkout.completions.lookup tx = some record)
    (live : record.state.terminal = false) (notReserved : record.state ≠ .reserved)
    (lease limit : Nat) (room : 0 < limit) :
    ∃ labels after reason now, Run (step threshold) (Recovering drivers) system labels after ∧
      after.checkout = Checkout.markCompensating (claim system.checkout tx now) tx record.epoch
        (some reason) now ∧
      after.inventory = system.inventory ∧
      after.drivers.lookup id = some (pass tx (.awaitRelease record.epoch (.leave .settled))) ∧
      ∀ other ≠ id, after.drivers.lookup other = system.drivers.lookup other := by
  have claimed := claims_one threshold free found live lease limit room
  generalize record.updatedAt + lease + 1 = now at claimed
  rw [recover, if_neg notReserved] at claimed
  generalize "recovered from " ++ stateName record.state = reason at claimed
  have marks := commits threshold { system with checkout := claim system.checkout tx now } id
    (show (pass tx (.markCompensating record.epoch reason (.leave .settled))).transact
      (claim system.checkout tx now) lease now = some _ from rfl)
  refine ⟨[.runOnce id [tx] lease limit now, .commit id lease now], _, reason, now,
    .cons fresh claimed (.cons fresh marks .start), rfl, rfl, setDriver_self _ id _,
    fun other different => ?_⟩
  exact (setDriver_other _ different _).trans (setDriver_other _ different _)

/-- A completion that is not RESERVED is rolled back: COMPENSATING, the release, and the
reopen that follows its outcome. -/
theorem rolls_back (free : system.drivers.lookup id = none) (fresh : drivers.lookup id = none)
    (coupled : Coupled (system.checkout.transactions.lookup tx)
      (system.checkout.completions.lookup tx))
    (found : system.checkout.completions.lookup tx = some record)
    (live : record.state.terminal = false) (notReserved : record.state ≠ .reserved)
    (storable : Inventory.bindable ⟨tx, record.epoch⟩ [] = true) (lease limit : Nat)
    (room : 0 < limit) :
    ∃ labels after, Run (step threshold) (Recovering drivers) system labels after ∧
      Settles system after id tx record := by
  obtain ⟨row, foundRow, isCompleting⟩ := completing_of_live coupled found live
  obtain ⟨first, waiting, reason, now, marked, isMarked, inventory, running, spared⟩ :=
    marks_run threshold free fresh found live notReserved lease limit room
  have queued : .stockReleaseRequested ⟨tx, record.epoch⟩ ∈ waiting.checkout.outbox := by
    rw [isMarked]
    simp [Checkout.markCompensating, insertOutbox]
  obtain ⟨units, already, released, handled⟩ := releases threshold waiting.inventory storable
  obtain ⟨answered, served, sameCheckout, isReleased, sameDrivers, onTopic⟩ :=
    served_run queued handled
  rw [← sameDrivers] at running
  obtain ⟨last, after, reopened, isReopened, sameInventory, unmoved⟩ :=
    reopens_run threshold fresh running onTopic lease now
  have aborts : recovered record.state = .aborted := by
    cases state : record.state with
    | reserved => exact absurd state notReserved
    | completed => simp [state, CompletionState.terminal] at live
    | _ => rfl
  have checkout : after.checkout = Checkout.reopen (Checkout.markCompensating
      (claim system.checkout tx now) tx record.epoch (some reason) now) tx now := by
    rw [isReopened, sameCheckout, isMarked]
  refine ⟨_, after, (marked.append served).append reopened, ?_, ?_, ?_, ?_, ?_⟩
  · rw [checkout, aborts]
    have compensating : (Checkout.markCompensating (claim system.checkout tx now) tx record.epoch
        (some reason) now).completions.lookup tx = some { record with
          attempts := record.attempts + 1, state := .compensating, updatedAt := now
          lastError := some reason } := by
      simp [Checkout.markCompensating, insertOutbox, setCompletionState, claim_found found, live]
    have isOpen : (Checkout.markCompensating (claim system.checkout tx now) tx record.epoch
        (some reason) now).transactions.lookup tx = some row := foundRow
    simp only [Checkout.reopen, isOpen, isCompleting, ↓reduceIte, Table.lookup_alter, compensating,
      Option.map_some]
    exact ⟨_, rfl, rfl, rfl⟩
  · intro _
    rw [sameInventory, isReleased]
    exact .inr (handle_honours handled)
  · intro other different
    rw [checkout, reopen_other _ _ _ different]
    simp [Checkout.markCompensating, insertOutbox, setCompletionState, claim, different]
  · intro attempt different
    rw [sameInventory, isReleased, Inventory.handle_other_attempt handled different, inventory]
  · intro other different
    rw [unmoved other different, sameDrivers, spared other different]

theorem settles_run (free : system.drivers.lookup id = none) (fresh : drivers.lookup id = none)
    (coupled : Coupled (system.checkout.transactions.lookup tx)
      (system.checkout.completions.lookup tx))
    (found : system.checkout.completions.lookup tx = some record)
    (live : record.state.terminal = false)
    (storable : Inventory.bindable ⟨tx, record.epoch⟩ [] = true) (lease limit : Nat)
    (room : 0 < limit) :
    ∃ labels after, Run (step threshold) (Recovering drivers) system labels after ∧
      Settles system after id tx record := by
  by_cases reserved : record.state = .reserved
  · exact rolls_forward free fresh coupled found reserved lease limit room
  · exact rolls_back free fresh coupled found live reserved storable lease limit room

end One

/-- The transactions of `done` have been settled, the others are as they were. -/
structure SettledAll (system after : System) (done : List TxId) : Prop where
  closed : ∀ tx ∈ done, ∀ record, system.checkout.completions.lookup tx = some record →
    ∃ settled, after.checkout.completions.lookup tx = some settled ∧
      settled.epoch = record.epoch ∧ settled.state = recovered record.state ∧
      (record.state.terminal = false → settled.state = .aborted →
        Undone after.inventory ⟨tx, record.epoch⟩)
  others : ∀ tx ∉ done,
    after.checkout.completions.lookup tx = system.checkout.completions.lookup tx
  drivers : ∀ id driver, system.drivers.lookup id = some driver →
    after.drivers.lookup id = some driver

theorem recovered_terminal {state : CompletionState} (terminal : state.terminal = true) :
    recovered state = state := by
  cases state with
  | completed => rfl
  | aborted => rfl
  | _ => contradiction

section All

variable {threshold : Int} {system after : System} {done : List TxId} {tx : TxId}

theorem SettledAll.start (system : System) : SettledAll system system [] where
  closed := by simp
  others _ _ := rfl
  drivers _ _ running := running

/-- A closed completion, or none, needs no work. -/
theorem SettledAll.skip (settled : SettledAll system after done) (new : tx ∉ done)
    (closed : ∀ record, system.checkout.completions.lookup tx = some record →
      record.state.terminal = true) : SettledAll system after (tx :: done) where
  closed := by
    intro other member record found
    rcases List.mem_cons.mp member with rfl | member
    · have terminal := closed record found
      refine ⟨record, (settled.others other new).trans found, rfl,
        (recovered_terminal terminal).symm, fun live => ?_⟩
      rw [terminal] at live
      contradiction
    · exact settled.closed other member record found
  others other absent := settled.others other (fun member => absent (List.mem_cons_of_mem _ member))
  drivers := settled.drivers

theorem SettledAll.extend {later : System} {id : DriverId} {record : Completion}
    (settled : SettledAll system after done) (new : tx ∉ done)
    (found : system.checkout.completions.lookup tx = some record)
    (free : after.drivers.lookup id = none) (settles : Settles after later id tx record) :
    SettledAll system later (tx :: done) where
  closed := by
    intro other member record' found'
    rcases List.mem_cons.mp member with rfl | earlier
    · cases found.symm.trans found'
      obtain ⟨new, foundNew, epoch, state⟩ := settles.closed
      refine ⟨new, foundNew, epoch, state, fun _ aborted => ?_⟩
      rw [state] at aborted
      exact settles.undone aborted
    · have different : other ≠ tx := by
        rintro rfl
        exact new earlier
      obtain ⟨old, foundOld, epoch, state, undone⟩ := settled.closed other earlier record' found'
      refine ⟨old, (settles.others other different).trans foundOld, epoch, state, ?_⟩
      intro live aborted
      have kept := settles.kept ⟨other, record'.epoch⟩ (by simp [different])
      have before := undone live aborted
      unfold Undone adjustmentState at before ⊢
      rwa [kept]
  others other absent := by
    rw [List.mem_cons, not_or] at absent
    exact (settles.others other absent.1).trans (settled.others other absent.2)
  drivers other driver running := by
    have still := settled.drivers other driver running
    refine (settles.drivers other ?_).trans still
    rintro rfl
    rw [free] at still
    contradiction

theorem fresh_driver (first second : Table DriverId Driver) :
    ∃ id, first.lookup id = none ∧ second.lookup id = none := by
  obtain ⟨id, absent⟩ := Infinite.exists_notMem_finset
    ((first.rows.map Prod.fst) ++ (second.rows.map Prod.fst)).toFinset
  rw [List.mem_toFinset, List.mem_append, not_or] at absent
  exact ⟨id, Table.lookup_eq_none.mpr absent.1, Table.lookup_eq_none.mpr absent.2⟩

variable {levels : Table Sku Nat} {labels : List Label}

/-- Run lemma: one completion after another is settled, each by a pass of its own. -/
theorem settles_each (run : Run (Saga.step threshold) Any (opening levels) labels system)
    (storable : ∀ tx record, system.checkout.completions.lookup tx = some record →
      record.state.terminal = false → Inventory.bindable ⟨tx, record.epoch⟩ [] = true)
    (lease limit : Nat) (room : 0 < limit) {owing : List TxId} (nodup : owing.Nodup) :
    ∃ further after, Run (step threshold) (Recovering system.drivers) system further after ∧
      SettledAll system after owing := by
  induction owing with
  | nil => exact ⟨[], system, .start, .start system⟩
  | cons tx owing ih =>
      obtain ⟨new, nodup⟩ := List.nodup_cons.mp nodup
      obtain ⟨further, middle, past, settled⟩ := ih nodup
      cases found : system.checkout.completions.lookup tx with
      | none =>
          exact ⟨further, middle, past, settled.skip new (by simp [found])⟩
      | some record =>
          cases live : record.state.terminal with
          | true =>
              refine ⟨further, middle, past, settled.skip new fun other found' => ?_⟩
              cases found.symm.trans found'
              exact live
          | false =>
              obtain ⟨id, fresh, free⟩ := fresh_driver system.drivers middle.drivers
              have sound := sound_of_run (run.append past.unrestricted)
              obtain ⟨last, after, next, settles⟩ := settles_run free fresh (sound.coupled tx)
                ((settled.others tx new).trans found) live (storable tx record found live)
                lease limit room
              exact ⟨further ++ last, after, past.append next,
                settled.extend new found free settles⟩

/-- Recovery can always finish.  From every state any run has reached, recovery passes that
were not there yet, the outboxes and Inventory settle every open completion, however the other
drivers were cut off: RESERVED becomes COMPLETED and the rest ABORTED, at the epoch they had,
Inventory holds nothing for what was aborted, and no driver that was there is needed. -/
theorem recovery_settles_everything
    (run : Run (Saga.step threshold) Any (opening levels) labels system)
    (storable : ∀ tx record, system.checkout.completions.lookup tx = some record →
      record.state.terminal = false → Inventory.bindable ⟨tx, record.epoch⟩ [] = true)
    (lease limit : Nat) (room : 0 < limit) :
    ∃ further after, Run (step threshold) (Recovering system.drivers) system further after ∧
      (∀ tx record, after.checkout.completions.lookup tx = some record →
        record.state.terminal = true) ∧
      (∀ tx record, system.checkout.completions.lookup tx = some record →
        ∃ settled, after.checkout.completions.lookup tx = some settled ∧
          settled.epoch = record.epoch ∧ settled.state = recovered record.state ∧
          (record.state.terminal = false → settled.state = .aborted →
            Undone after.inventory ⟨tx, record.epoch⟩)) ∧
      ∀ id driver, system.drivers.lookup id = some driver →
        after.drivers.lookup id = some driver := by
  obtain ⟨further, after, later, settled⟩ :=
    settles_each run storable lease limit room system.checkout.completions.keysNodup
  have listed : ∀ tx record, system.checkout.completions.lookup tx = some record →
      tx ∈ system.checkout.completions.rows.map Prod.fst := by
    intro tx record found
    exact List.mem_map.mpr ⟨_, Table.mem_of_lookupRows found, rfl⟩
  refine ⟨further, after, later, ?_, fun tx record found =>
    settled.closed tx (listed tx record found) record found, settled.drivers⟩
  intro tx record found
  cases before : system.checkout.completions.lookup tx with
  | none =>
      have same := settled.others tx (Table.lookup_eq_none.mp before)
      rw [found, before] at same
      contradiction
  | some old =>
      obtain ⟨new, foundNew, _, state, _⟩ := settled.closed tx (listed tx old before) old before
      cases found.symm.trans foundNew
      rw [state]
      cases old.state <;> rfl

end All

/-- Two calls are cut off, one before its request was stored and one with its stock held. -/
def cutOff : List Label :=
  let request := Request.stockReservationRequested ⟨2, 1⟩ [("SKU-000001", 1)]
  let reserved := Outcome.stockReserved ⟨2, 1⟩ false
  [.insertTransaction 1 0, .scanItem 1 "SKU-000001" 250, .complete 0 1, .commit 0 60 10, .crash 0,
    .insertTransaction 2 0, .scanItem 2 "SKU-000001" 250, .complete 1 2, .commit 1 60 11,
    .publish request, .handle request, .publishOutcome reserved, .reply 1 reserved,
    .commit 1 60 12]

theorem cutOff_runs : (cutOff.foldlM (step 5)
    (opening (Table.empty.put "SKU-000001" 5))).isSome = true := by
  decide +kernel

theorem cutOff_storable : ((Option.get _ cutOff_runs).checkout.completions.rows.all (fun row =>
    Inventory.bindable ⟨row.1, row.2.epoch⟩ [])) = true := by
  decide +kernel

theorem recovery_settles_everything_cutOff :
    ∃ further after, Run (step 5) (Recovering (Option.get _ cutOff_runs).drivers)
        (Option.get _ cutOff_runs) further after ∧
      ∀ tx record, after.checkout.completions.lookup tx = some record →
        record.state.terminal = true := by
  obtain ⟨further, after, later, settled, _⟩ := recovery_settles_everything
    (.of_foldlM (Option.some_get cutOff_runs).symm)
    (fun tx record found _ => List.all_eq_true.mp cutOff_storable _ (Table.mem_of_lookupRows found))
    60 20 (by decide)
  exact ⟨further, after, later, settled⟩

end SelfCheckout.Saga
