import SelfCheckout.Checkout.Ledger
import SelfCheckout.Saga.Answers

namespace SelfCheckout.Saga

open SelfCheckout.Data SelfCheckout.Checkout

/-! # What a completed sale is charged

A driver learns the total and the basket of its attempt when it is let in, and writes
the total whenever it gets to finalize.  What it learnt is right for as long as the
completion is at its epoch; `_FINALIZE` checks that the transaction is COMPLETING and
not that it is completing the driver's attempt.
-/

/-- Of an attempt that is still the current one, the total and the basket are its items'. -/
def BegunBilled (db : Checkout.Database) (tx : TxId) (begun : Begun) : Prop :=
  (billOf db tx).Knows begun.epoch (fun items =>
    begun.totalCents = pricesOf items ∧ begun.basket = basketOf items)

def TotalBilled (db : Checkout.Database) (tx : TxId) (epoch totalCents : Nat) : Prop :=
  (billOf db tx).Knows epoch (fun items => totalCents = pricesOf items)

/-- A receipt of the COMPLETED transaction, for exactly its items. -/
structure ReceiptBilled (db : Checkout.Database) (tx : TxId) (receipt : Receipt) : Prop where
  transactionId : receipt.transactionId = tx
  completed : ∃ row, db.transactions.lookup tx = some row ∧ row.status = .completed ∧
    row.completedAt = some receipt.completedAt
  lines : receipt.lines = basketOf (itemsOf db tx)
  itemCount : receipt.itemCount = (itemsOf db tx).length
  totalCents : receipt.totalCents = pricesOf (itemsOf db tx)

def PhaseBilled (db : Checkout.Database) (tx : TxId) : Phase → Prop
  | .begin _ => True
  | .awaitReserve begun => BegunBilled db tx begun
  | .setReserved begun => BegunBilled db tx begun
  | .finalize begun => BegunBilled db tx begun
  | .readStatus begun => BegunBilled db tx begun
  | .rollForward epoch totalCents => TotalBilled db tx epoch totalCents
  | .markCompensating _ _ next => next.afterRollback
  | .awaitRelease _ next => next.afterRollback
  | .reopen _ next => next.afterRollback
  | .left (.receipt receipt) => ReceiptBilled db tx receipt
  | .left _ => True

def RowBilled (db : Checkout.Database) (row : StuckRow) : Prop :=
  TotalBilled db row.transactionId row.epoch row.totalCents

/-- The bills after a local transaction. -/
def BillsOn (Charges : TxId → Nat → Prop) (db after : Checkout.Database) : Prop :=
  ∀ tx, Bills (Charges tx) (billOf db tx) (billOf after tx)

/-- The amounts a driver's next local transaction may write. -/
def Driver.charges (driver : Driver) (tx : TxId) (totalCents : Nat) : Prop :=
  tx = driver.tx ∧ ((∃ begun, driver.phase = .finalize begun ∧ totalCents = begun.totalCents) ∨
    ∃ epoch, driver.phase = .rollForward epoch totalCents)

section Bills

variable {Charges : TxId → Nat → Prop} {db after : Checkout.Database} {driver : Driver}
  {lease : Nat} {now : Time}

theorem BillsOn.of_eq (same : ∀ tx, billOf after tx = billOf db tx) : BillsOn Charges db after := by
  intro tx
  rw [same]
  exact .same _

/-- What charges nothing new. -/
def NoCharge (_ : TxId) (_ : Nat) : Prop := False

theorem bills_takeOver (db : Checkout.Database) (tx : TxId) (record : Completion) (now : Time) :
    BillsOn NoCharge db (takeOver db tx record now) :=
  fun other => bills_setCompletionState db tx other now record.state none

theorem bills_writes (writes : Writes driver db lease now after) :
    BillsOn driver.charges db after := by
  intro tx
  cases writes with
  | nothing quiet => exact .same _
  | started phase began => exact bills_beginCompletion db driver.tx tx now lease began
  | tookOver phase began => exact bills_setCompletionState db driver.tx tx now _ none
  | reserved phase => exact bills_setCompletionState db driver.tx tx now .reserved none
  | @finalized begun phase =>
      exact bills_finalize db driver.tx tx now _ (fun here => ⟨here, .inl ⟨begun, phase, rfl⟩⟩)
  | @rolledForward epoch totalCents phase =>
      exact bills_finalize db driver.tx tx now _ (fun here => ⟨here, .inr ⟨epoch, phase⟩⟩)
  | compensated phase => exact bills_markCompensating db driver.tx tx now _ _
  | reopened phase => exact bills_reopen db driver.tx tx now

theorem ReceiptBilled.bills {tx : TxId} {receipt : Receipt} (bills : BillsOn Charges db after)
    (billed : ReceiptBilled db tx receipt) : ReceiptBilled after tx receipt := by
  obtain ⟨row, found, completed, time⟩ := billed.completed
  have kept := (bills tx).completed found completed
  have items : itemsOf after tx = itemsOf db tx := kept.2
  exact
    { transactionId := billed.transactionId
      completed := ⟨row, kept.1, completed, time⟩
      lines := by rw [items, billed.lines]
      itemCount := by rw [items, billed.itemCount]
      totalCents := by rw [items, billed.totalCents] }

theorem BegunBilled.bills {tx : TxId} {begun : Begun} (bills : BillsOn Charges db after)
    (billed : BegunBilled db tx begun) : BegunBilled after tx begun :=
  (bills tx).knows billed

theorem TotalBilled.bills {tx : TxId} {epoch totalCents : Nat} (bills : BillsOn Charges db after)
    (billed : TotalBilled db tx epoch totalCents) : TotalBilled after tx epoch totalCents :=
  (bills tx).knows billed

theorem PhaseBilled.bills {tx : TxId} {phase : Phase} (bills : BillsOn Charges db after)
    (billed : PhaseBilled db tx phase) : PhaseBilled after tx phase := by
  cases phase with
  | begin again => trivial
  | awaitReserve begun => exact BegunBilled.bills bills billed
  | setReserved begun => exact BegunBilled.bills bills billed
  | finalize begun => exact BegunBilled.bills bills billed
  | readStatus begun => exact BegunBilled.bills bills billed
  | rollForward epoch totalCents => exact TotalBilled.bills bills billed
  | markCompensating epoch reason next => exact billed
  | awaitRelease epoch next => exact billed
  | reopen epoch next => exact billed
  | left exit =>
      cases exit with
      | receipt receipt => exact ReceiptBilled.bills bills billed
      | _ => trivial

theorem obeys_bills (bills : BillsOn Charges db after)
    (obeys : driver.Obeys (PhaseBilled db) (RowBilled db)) :
    driver.Obeys (PhaseBilled after) (RowBilled after) :=
  obeys.imp (fun billed => billed.bills bills) (fun _ _ billed => TotalBilled.bills bills billed)

theorem recover_billed {row : StuckRow} (billed : RowBilled db row) :
    PhaseBilled db row.transactionId (recover row) := by
  unfold recover
  split
  · exact billed
  · exact ⟨rfl, fun _ same => by cases same⟩

theorem leave_billed (rows : ∀ row ∈ driver.remaining, RowBilled db row) {exit : Exit}
    (left : PhaseBilled db driver.tx (.left exit)) :
    (driver.leave exit).Obeys (PhaseBilled db) (RowBilled db) :=
  leave_obeys rows exit left (fun _ _ billed => recover_billed billed)

theorem goto_billed (rows : ∀ row ∈ driver.remaining, RowBilled db row) {phase : Phase}
    (billed : PhaseBilled db driver.tx phase) :
    (driver.goto phase).Obeys (PhaseBilled db) (RowBilled db) :=
  ⟨billed, rows⟩

end Bills

/-- A finalize that takes effect is of the attempt the completion is at. -/
def FinalizesOwn (db : Checkout.Database) (driver : Driver) : Prop :=
  ∀ epoch ∈ driver.phase.finalizing,
    statusOf db driver.tx = some .completing → epochOf db driver.tx = epoch

/-- A status read finds its own attempt COMPLETED, if any. -/
def AnswersOwn (db : Checkout.Database) (driver : Driver) : Prop :=
  ∀ begun, driver.phase = .readStatus begun →
    statusOf db driver.tx = some .completed → epochOf db driver.tx = begun.epoch

instance (db : Checkout.Database) (driver : Driver) : Decidable (FinalizesOwn db driver) :=
  inferInstanceAs (Decidable (∀ epoch ∈ driver.phase.finalizing, _))

instance (db : Checkout.Database) (driver : Driver) : Decidable (AnswersOwn db driver) :=
  match reading : driver.phase with
  | .readStatus begun =>
      decidable_of_iff (statusOf db driver.tx = some .completed →
          epochOf db driver.tx = begun.epoch) (by simp [AnswersOwn, reading])
  | .begin _ | .awaitReserve _ | .setReserved _ | .finalize _ | .rollForward _ _
  | .markCompensating _ _ _ | .awaitRelease _ _ | .reopen _ _ | .left _ =>
      .isTrue (by simp [AnswersOwn, reading])

/-- A driver finalizes and answers for its own attempt. -/
def OnOwnAttempt (system : System) : Label → Prop
  | .commit id _ _ => ∀ driver ∈ system.drivers.lookup id,
      FinalizesOwn system.checkout driver ∧ AnswersOwn system.checkout driver
  | .raise id true _ _ _ => ∀ driver ∈ system.drivers.lookup id,
      FinalizesOwn system.checkout driver
  | _ => True

instance (system : System) : ∀ label, Decidable (OnOwnAttempt system label)
  | .commit _ _ _ => inferInstanceAs (Decidable (∀ driver ∈ _, _))
  | .raise _ true _ _ _ => inferInstanceAs (Decidable (∀ driver ∈ _, _))
  | .raise _ false _ _ _ | .insertTransaction _ _ | .scanItem _ _ _ | .sweepAbandoned _ _
  | .complete _ _ | .runOnce _ _ _ _ _ | .reply _ _ | .timeOut _ | .crash _ | .publish _
  | .handle _ | .publishOutcome _ => inferInstanceAs (Decidable True)

section Own

variable {db after : Checkout.Database} {driver next : Driver} {lease : Nat} {now : Time}

theorem knows_current {tx : TxId} {epoch : Nat} {holds : List TransactionItem → Prop}
    (knows : (billOf db tx).Knows epoch holds) (current : epochOf db tx = epoch)
    (fixed : (billOf db tx).Fixed) : holds (itemsOf db tx) := by
  obtain ⟨record, found, _, facts⟩ := knows
  have found : db.completions.lookup tx = some record := found
  refine facts ?_ fixed
  rw [← current, epochOf, found]
  rfl

theorem BegunBilled.current {tx : TxId} {begun : Begun} (billed : BegunBilled db tx begun)
    (current : epochOf db tx = begun.epoch) (fixed : (billOf db tx).Fixed) :
    begun.totalCents = pricesOf (itemsOf db tx) ∧ begun.basket = basketOf (itemsOf db tx) :=
  knows_current billed current fixed

theorem TotalBilled.current {tx : TxId} {epoch totalCents : Nat}
    (billed : TotalBilled db tx epoch totalCents) (current : epochOf db tx = epoch)
    (fixed : (billOf db tx).Fixed) : totalCents = pricesOf (itemsOf db tx) :=
  knows_current billed current fixed

theorem fixed_of_status {tx : TxId} {status : TxStatus} (found : statusOf db tx = some status)
    (fixed : status = .completing ∨ status = .completed) : (billOf db tx).Fixed := by
  obtain ⟨row, foundRow, rfl⟩ := Option.map_eq_some_iff.mp found
  exact ⟨row, foundRow, fixed⟩

/-- What a driver writes of its own attempt is the price of the items. -/
theorem charges_own (billed : PhaseBilled db driver.tx driver.phase) (own : FinalizesOwn db driver)
    (tx : TxId) (row : Transaction) (found : db.transactions.lookup tx = some row)
    (completing : row.status = .completing) (total : Nat) (charges : driver.charges tx total) :
    total = pricesOf (itemsOf db tx) := by
  have status : statusOf db tx = some .completing := by
    rw [statusOf, found, Option.map_some, completing]
  obtain ⟨rfl, ⟨begun, phase, rfl⟩ | ⟨epoch, phase⟩⟩ := charges
  · rw [phase] at billed
    have current := own begun.epoch (by rw [phase]; rfl) status
    exact (BegunBilled.current billed current (fixed_of_status status (.inl rfl))).1
  · rw [phase] at billed
    have current := own epoch (by rw [phase]; rfl) status
    exact TotalBilled.current billed current (fixed_of_status status (.inl rfl))

theorem receipt_billed {tx : TxId} {begun : Begun} {row : Transaction} {completedAt : Time}
    (found : db.transactions.lookup tx = some row) (completed : row.status = .completed)
    (time : row.completedAt = some completedAt)
    (facts : begun.totalCents = pricesOf (itemsOf db tx) ∧ begun.basket = basketOf (itemsOf db tx)) :
    ReceiptBilled db tx (begun.receipt tx completedAt) where
  transactionId := rfl
  completed := ⟨row, found, completed, time⟩
  lines := facts.2
  itemCount := by rw [Begun.receipt, facts.2, quantity_basketOf]
  totalCents := facts.1

theorem statusExit_billed {tx : TxId} {begun : Begun} (billed : BegunBilled db tx begun)
    (own : statusOf db tx = some .completed → epochOf db tx = begun.epoch) :
    PhaseBilled db tx (.left (statusExit db tx begun)) := by
  unfold statusExit
  split
  · trivial
  · rename_i row found
    split
    · rename_i completed
      split
      · rename_i completedAt time
        have status : statusOf db tx = some .completed := by
          rw [statusOf, found, Option.map_some, completed]
        exact receipt_billed found completed time
          (billed.current (own status) (fixed_of_status status (.inr rfl)))
      · trivial
    · trivial

/-- The receipt of a finalize that took effect. -/
theorem finalize_billed {begun : Begun} {completedAt : Time}
    (done : Checkout.finalize db driver.tx begun.totalCents now = (some completedAt, after))
    (billed : BegunBilled db driver.tx begun)
    (own : statusOf db driver.tx = some .completing → epochOf db driver.tx = begun.epoch) :
    ReceiptBilled after driver.tx (begun.receipt driver.tx completedAt) := by
  rcases finalize_cases db driver.tx begun.totalCents now with missed | ⟨row, found, completing, wrote⟩
  · rw [missed] at done
    cases done
  · rw [wrote] at done
    cases done
    have status : statusOf db driver.tx = some .completing := by
      rw [statusOf, found, Option.map_some, completing]
    exact receipt_billed (Table.lookup_put_self _ _ _) rfl rfl
      (billed.current (own status) (fixed_of_status status (.inl rfl)))

theorem leave_not_awaiting (driver : Driver) (exit : Exit) (begun : Begun) :
    (driver.leave exit).phase ≠ .awaitReserve begun := by
  unfold Driver.leave
  split
  · simp [Driver.goto]
  · simp
  · simp only [recover]
    split <;> simp

/-- What the completion record charges is right while the transaction is fixed. -/
theorem record_billed {tx : TxId} {record : Completion} (charged : (billOf db tx).Charged)
    (found : db.completions.lookup tx = some record) :
    TotalBilled db tx record.epoch record.totalCents := by
  refine ⟨record, found, Nat.le_refl _, fun _ fixed => ?_⟩
  obtain ⟨other, foundOther, total⟩ := charged.agreed fixed
  cases found.symm.trans foundOther
  exact total

theorem takeOver_billed {tx : TxId} {epoch totalCents : Nat}
    (billed : TotalBilled db tx epoch totalCents) :
    BegunBilled db tx ⟨getBasket db tx, totalCents, epoch⟩ := by
  obtain ⟨record, found, reached, facts⟩ := billed
  exact ⟨record, found, reached, fun current fixed => ⟨facts current fixed, rfl⟩⟩

theorem started_billed {tx : TxId} {epoch totalCents : Nat} {request : Request}
    (began : beginCompletion db tx lease now = .started epoch totalCents request after) :
    BegunBilled after tx ⟨getBasket db tx, totalCents, epoch⟩ := by
  obtain ⟨_, ⟨record, found, rfl, _⟩, _, _, items, _⟩ := started_lookup began
  have same : itemsOf after tx = itemsOf db tx := by rw [itemsOf, itemsOf, items]
  refine ⟨record, found, Nat.le_refl _, fun _ _ => ?_⟩
  have bill : (billOf after tx).items = itemsOf db tx := same
  rw [bill]
  refine ⟨?_, rfl⟩
  rw [(started_eq began).2.1, getBasket_eq, totalOf_basketOf]

/-- What a driver knows that has been let in. -/
theorem goes_billed {asked : List Request} {begun : Begun}
    (charged : (billOf db driver.tx).Charged) (goes : Goes driver db lease now after next asked)
    (waits : next.phase = .awaitReserve begun) : BegunBilled after driver.tx begun := by
  cases goes with
  | leaves exit => exact absurd waits (leave_not_awaiting driver exit begun)
  | owesRollback phase began => contradiction
  | started phase began =>
      cases waits
      exact started_billed began
  | @tookOver again record phase began =>
      cases waits
      have known := record_billed charged (takingOver_lookup began).1
      exact (takeOver_billed known).bills (bills_takeOver db driver.tx record now)
  | reserved phase => contradiction
  | foundClosed phase found => contradiction
  | compensated phase => contradiction
  | beginsAgain phase => contradiction

/-- A driver's own transaction makes good what its next phase carries. -/
theorem transact_billed {asked : List Request}
    (billed : driver.Obeys (PhaseBilled db) (RowBilled db))
    (charged : (billOf db driver.tx).Charged) (finalizes : FinalizesOwn db driver)
    (answers : AnswersOwn db driver)
    (done : driver.transact db lease now = some (after, next, asked)) :
    next.Obeys (PhaseBilled after) (RowBilled after) := by
  have bills := bills_writes (transact_cases done).1
  have later := obeys_bills bills billed
  rcases transact_leaves done with ⟨exit, rfl, leaves⟩ | ⟨phase, rfl, leads⟩
  · refine leave_billed later.rows ?_
    have carries := billed.phase
    cases leaves with
    | refused phase began => trivial
    | stillOwed phase => trivial
    | completed phase finalized =>
        rw [phase] at carries
        refine finalize_billed finalized carries (finalizes _ ?_)
        rw [phase]
        rfl
    | readStatus phase =>
        rw [phase] at carries
        exact statusExit_billed carries (answers _ phase)
    | rolledForward phase => trivial
    | reopened phase =>
        rw [phase] at carries
        cases exit with
        | receipt receipt => exact absurd rfl (carries.2 receipt)
        | _ => trivial
  · refine goto_billed later.rows ?_
    have carries := later.phase
    cases leads with
    | owes phase => trivial
    | begins phase => exact goes_billed charged (transact_cases done).2 rfl
    | reserves phase =>
        rw [phase] at carries
        exact carries
    | misses phase found =>
        rw [phase] at carries
        exact carries
    | compensates phase =>
        rw [phase] at carries
        exact carries
    | reopens phase => trivial

theorem raised_billed {error : String} (billed : driver.Obeys (PhaseBilled db) (RowBilled db))
    (raised : driver.raised error = some next) : next.Obeys (PhaseBilled db) (RowBilled db) := by
  unfold Driver.raised at raised
  split at raised
  · cases raised
    exact goto_billed billed.rows ⟨rfl, fun _ same => by cases same⟩
  all_goals
    cases raised
    try exact leave_billed billed.rows trivial

theorem received_billed {outcome : Outcome} (billed : driver.Obeys (PhaseBilled db) (RowBilled db))
    (received : driver.receive outcome = some next) :
    next.Obeys (PhaseBilled db) (RowBilled db) := by
  have carries := billed.phase
  unfold Driver.receive at received
  split at received
  · rename_i begun phase
    rw [phase] at carries
    split at received
    · cases outcome with
      | stockReserved attempt replayed =>
          cases received
          exact goto_billed billed.rows carries
      | stockRejected attempt short =>
          cases received
          exact goto_billed billed.rows ⟨rfl, fun _ same => by cases same⟩
      | reservationRefused attempt =>
          cases received
          exact goto_billed billed.rows ⟨rfl, fun _ same => by cases same⟩
      | stockReleased attempt units already => contradiction
    · contradiction
  · rename_i epoch more phase
    rw [phase] at carries
    split at received
    · cases outcome with
      | stockReleased attempt units already =>
          cases received
          exact goto_billed billed.rows carries
      | stockReserved attempt replayed => contradiction
      | stockRejected attempt short => contradiction
      | reservationRefused attempt => contradiction
    · contradiction
  · contradiction

theorem timedOut_billed (billed : driver.Obeys (PhaseBilled db) (RowBilled db))
    (timedOut : driver.timeOut = some next) : next.Obeys (PhaseBilled db) (RowBilled db) := by
  unfold Driver.timeOut at timedOut
  split at timedOut
  · cases timedOut
    exact goto_billed billed.rows ⟨rfl, fun _ same => by cases same⟩
  · cases timedOut
    exact leave_billed billed.rows trivial
  · contradiction

end Own

/-- Every bill is exact and charged, and every driver knows what its attempt costs. -/
structure Billed (system : System) : Prop where
  exact : ∀ tx, (billOf system.checkout tx).Exact
  charged : ∀ tx, (billOf system.checkout tx).Charged
  drivers : ∀ id driver, system.drivers.lookup id = some driver →
    driver.Obeys (PhaseBilled system.checkout) (RowBilled system.checkout)

section Steps

variable {threshold : Int} {system after : System} {label : Label} {id : DriverId}
  {driver next : Driver} {db : Checkout.Database}

/-- What a label's driver may write. -/
def Label.charges (system : System) (label : Label) (tx : TxId) (totalCents : Nat) : Prop :=
  ∃ id driver lease now, Writer label id lease now ∧ system.drivers.lookup id = some driver ∧
    driver.charges tx totalCents

theorem does_bills (does : Does threshold system label after) :
    BillsOn (label.charges system) system.checkout after.checkout := by
  have written : ∀ {id driver lease now db}, Writer label id lease now →
      system.drivers.lookup id = some driver → Writes driver system.checkout lease now db →
      BillsOn (label.charges system) system.checkout db := by
    intro id driver lease now db writer running writes tx
    exact (bills_writes writes tx).weaken (fun total charges =>
      ⟨id, driver, lease, now, writer, running, charges⟩)
  cases does with
  | inserts absent => exact fun tx => bills_insertTransaction system.checkout _ tx _ absent
  | scans => exact fun tx => bills_scanItem system.checkout _ tx _ _
  | sweeps => exact fun tx => bills_sweepAbandoned system.checkout tx _ _
  | claims free done => exact fun tx => bills_claimStuck system.checkout tx _ done
  | commits running writes goes => exact written (.commit _ _ _) running writes
  | raisesAfterCommit running raised writes => exact written (.raise _ _ _ _) running writes
  | calls free => exact .of_eq (fun _ => rfl)
  | raises running raised => exact .of_eq (fun _ => rfl)
  | receives running onTopic received => exact .of_eq (fun _ => rfl)
  | timesOut running timedOut => exact .of_eq (fun _ => rfl)
  | crashes => exact .of_eq (fun _ => rfl)
  | publishes known => exact .of_eq (fun _ => rfl)
  | handles onTopic done => exact .of_eq (fun _ => rfl)
  | publishesOutcome queued => exact .of_eq (fun _ => rfl)

theorem OnOwnAttempt.finalizes {lease : Nat} {now : Time} (own : OnOwnAttempt system label)
    (writer : Writer label id lease now) (running : system.drivers.lookup id = some driver) :
    FinalizesOwn system.checkout driver := by
  cases writer with
  | commit id lease now => exact (own driver running).1
  | raise id error lease now => exact own driver running

theorem Billed.bills (billed : Billed system) (own : OnOwnAttempt system label)
    (does : Does threshold system label after) (tx : TxId) :
    (billOf after.checkout tx).Charged := by
  refine (does_bills does tx).charged (billed.charged tx) ?_
  rintro row found completing total ⟨id, driver, lease, now, writer, running, charges⟩
  exact charges_own (billed.drivers id driver running).phase (own.finalizes writer running) tx row
    found completing total charges

/-- The driver that acts still knows what its attempt costs. -/
theorem Acts.billed (acts : Acts system driver label db next) (billed : Billed system)
    (own : OnOwnAttempt system label) (isDriver : label.driver = some id)
    (running : system.drivers.lookup id = some driver) :
    next.Obeys (PhaseBilled db) (RowBilled db) := by
  have obeys := billed.drivers id driver running
  cases acts with
  | commits done =>
      cases isDriver
      have own := own driver running
      exact transact_billed obeys (billed.charged driver.tx) own.1 own.2 done
  | raisesAfterCommit raised done =>
      exact raised_billed (obeys_bills (bills_writes (transact_cases done).1) obeys) raised
  | raises raised => exact raised_billed obeys raised
  | receives onTopic received => exact received_billed obeys received
  | timesOut timedOut => exact timedOut_billed obeys timedOut

/-- A recovery pass knows what the records it claims charge. -/
theorem firstRow_billed {claimed : List TxId} {lease limit : Nat} {now : Time}
    {rows : List StuckRow} (billed : Billed system)
    (done : claimStuck system.checkout claimed lease limit now = some (rows, db))
    (first : firstRow rows = some driver) :
    driver.Obeys (PhaseBilled system.checkout) (RowBilled system.checkout) := by
  have rowsBilled : ∀ row ∈ rows, RowBilled system.checkout row := by
    intro row member
    obtain ⟨_, _, rfl, _⟩ := claimStuck_eq system.checkout now done
    obtain ⟨tx, _, claims⟩ := List.mem_filterMap.mp member
    obtain ⟨record, found, rfl⟩ := Option.map_eq_some_iff.mp claims
    exact record_billed (billed.charged tx) found
  cases rows with
  | nil => contradiction
  | cons row remaining =>
      cases first
      exact ⟨recover_billed (rowsBilled row List.mem_cons_self),
        fun other member => rowsBilled other (List.mem_cons_of_mem row member)⟩

/-- The step lemma. -/
theorem Billed.step (billed : Billed system) (own : OnOwnAttempt system label)
    (stepped : Saga.step threshold system label = some after) : Billed after where
  exact tx := (does_bills (step_does stepped) tx).exact (billed.exact tx)
  charged tx := billed.bills own (step_does stepped) tx
  drivers id driver running := by
    have does := step_does stepped
    by_cases isDriver : label.driver = some id
    · cases before : system.drivers.lookup id with
      | some old =>
          rcases step_acts stepped isDriver before with rfl | ⟨next, found, acts⟩
          · cases does with
            | crashes =>
                rw [setDriver_drivers, if_pos rfl] at running
                contradiction
          · cases running.symm.trans found
            exact acts.billed billed own isDriver before
      | none =>
          rcases step_drivers does running with
            same | ⟨tx, rfl⟩ | ⟨_, _, _, _, rows, _, done, first⟩ | ⟨old, found, _⟩
          · cases before.symm.trans same
          · exact ⟨trivial, fun _ member => by contradiction⟩
          · exact obeys_bills (does_bills does) (firstRow_billed billed done first)
          · cases before.symm.trans found
    · rw [other_driver does isDriver] at running
      exact obeys_bills (does_bills does) (billed.drivers id driver running)

theorem Billed.initial (levels : Table Sku Nat) : Billed (opening levels) where
  exact _ := ⟨fun _ => rfl, fun _ found => by contradiction, fun _ found => by contradiction⟩
  charged _ := ⟨fun fixed => by obtain ⟨_, found, _⟩ := fixed; contradiction,
    fun _ found => by contradiction⟩
  drivers _ _ found := by contradiction

/-- A write that charges nothing, and where its driver goes. -/
theorem Billed.turn (billed : Billed system) {asked : List Request}
    (bills : BillsOn NoCharge system.checkout db) (id : DriverId)
    (obeys : next.Obeys (PhaseBilled db) (RowBilled db)) :
    Billed ({ system with checkout := db, asked }.setDriver id (some next)) where
  exact tx := (bills tx).exact (billed.exact tx)
  charged tx := (bills tx).charged (billed.charged tx) (fun _ _ _ _ none => none.elim)
  drivers other driver running := by
    rcases setDriver_found running with ⟨_, same⟩ | before
    · cases same
      exact obeys
    · exact obeys_bills bills (billed.drivers other driver before)

end Steps

/-- A take-over in progress has read what the record charges. -/
structure ContestBilled (contest : Contest) : Prop where
  system : Billed contest.system
  waiting : ∀ tx reading, contest.reading tx = some reading →
    InBegin contest.system tx reading.id
  readings : ∀ tx reading, contest.reading tx = some reading →
    TotalBilled contest.system.checkout tx reading.record.epoch reading.record.totalCents

/-- Drivers finalize and answer for their own attempts. -/
def KeepsToOwn (contest : Contest) : Move → Prop
  | .act label => OnOwnAttempt contest.system label
  | _ => True

instance (contest : Contest) : ∀ move, Decidable (KeepsToOwn contest move)
  | .act label => inferInstanceAs (Decidable (OnOwnAttempt contest.system label))
  | .read _ _ _ | .writeBack _ | .writeBackRaises _ _ | .drop _ _ | .answerLate _ _ =>
      inferInstanceAs (Decidable True)

section Contest

variable {threshold : Int} {contest next : Contest} {move : Move}

theorem InBegin.later {system after : System} {tx : TxId} {id : DriverId}
    (waiting : InBegin system tx id)
    (same : after.drivers.lookup id = system.drivers.lookup id) : InBegin after tx id := by
  rw [InBegin, same]
  exact waiting

/-- The end of a take-over: its driver goes on, the others wait. -/
theorem ContestBilled.ended (billed : ContestBilled contest) {tx : TxId} {reading : Reading}
    {driver : Driver} {db : Checkout.Database} {asked : List Request}
    {holder : TxId → Option DriverId} (found : contest.reading tx = some reading)
    (bills : BillsOn NoCharge contest.system.checkout db)
    (obeys : driver.Obeys (PhaseBilled db) (RowBilled db)) :
    ContestBilled
      { system := { contest.system with checkout := db, asked }.setDriver reading.id (some driver)
        reading := Function.update contest.reading tx none
        holder } where
  system := billed.system.turn bills reading.id obeys
  waiting other otherReading remains := by
    obtain ⟨different, before⟩ := reads_rest remains
    exact (billed.waiting other otherReading before).later
      (lookup_ends billed.waiting found ⟨some driver, rfl⟩ before different)
  readings other otherReading remains :=
    TotalBilled.bills bills (billed.readings other otherReading (reads_rest remains).2)

/-- The step lemma, with take-overs. -/
theorem ContestBilled.step (billed : ContestBilled contest) (own : KeepsToOwn contest move)
    (taken : contest.step threshold move = some next) : ContestBilled next := by
  cases step_moved taken with
  | @acts label after enabled stepped =>
      have does := step_does stepped
      refine ⟨billed.system.step own stepped, fun tx reading remains => ?_,
        fun tx reading remains => ?_⟩
      · have found := readingAfter_some remains
        rcases inBegin_elsewhere (billed.waiting tx reading found) found enabled does with
          other | rfl
        · exact (billed.waiting tx reading found).later (other_driver does other)
        · simp [Contest.readingAfter, found] at remains
      · exact TotalBilled.bills (does_bills does)
          (billed.readings tx reading (readingAfter_some remains))
  | @reads id lease now driver record running free began =>
      obtain ⟨⟨again, phase⟩, began⟩ := begins_takingOver began
      refine ⟨billed.system, fun tx reading remains => ?_, fun tx reading remains => ?_⟩
      · rcases reads_another remains with ⟨rfl, rfl⟩ | before
        · exact ⟨driver, again, running, rfl, phase⟩
        · exact billed.waiting tx reading before
      · rcases reads_another remains with ⟨rfl, rfl⟩ | before
        · exact record_billed (billed.system.charged driver.tx) (takingOver_lookup began).1
        · exact billed.readings tx reading before
  | @writesBack tx reading driver found running =>
      have bills := bills_takeOver contest.system.checkout tx reading.record reading.now
      obtain ⟨_, again, same, rfl, _⟩ := billed.waiting tx reading found
      cases running.symm.trans same
      have rows := (obeys_bills bills (billed.system.drivers reading.id driver running)).rows
      have begun := (takeOver_billed (billed.readings driver.tx reading found)).bills bills
      exact billed.ended found bills (goto_billed rows begun)
  | @raises tx error reading driver found running =>
      have bills := bills_takeOver contest.system.checkout tx reading.record reading.now
      have rows := (obeys_bills bills (billed.system.drivers reading.id driver running)).rows
      exact billed.ended found bills (leave_billed rows trivial)
  | @drops tx error reading driver found running =>
      have bills : BillsOn NoCharge contest.system.checkout contest.system.checkout :=
        .of_eq (fun _ => rfl)
      have rows := (billed.system.drivers reading.id driver running).rows
      exact billed.ended found bills (leave_billed rows trivial)
  | answersLate recorded =>
      exact ⟨⟨billed.system.exact, billed.system.charged, billed.system.drivers⟩, billed.waiting,
        billed.readings⟩

end Contest

/-- While drivers finalize and answer for their own attempts: a COMPLETED transaction is
charged for exactly its items, whatever attempts there were, and a receipt lists exactly
those items. -/
theorem charged_for_its_items (threshold : Int) (levels : Table Sku Nat) (moves : List Move)
    (contest : Contest)
    (run : Run (Contest.step threshold) KeepsToOwn (contestOpening levels) moves contest) :
    (∀ tx row, contest.system.checkout.transactions.lookup tx = some row →
      row.status = .completed →
        row.totalAmountCents = some (pricesOf (itemsOf contest.system.checkout tx)) ∧
        row.runningTotalCents = pricesOf (itemsOf contest.system.checkout tx) ∧
        ∃ record, contest.system.checkout.completions.lookup tx = some record ∧
          record.totalCents = pricesOf (itemsOf contest.system.checkout tx)) ∧
    ∀ id driver receipt, contest.system.drivers.lookup id = some driver →
      driver.phase = .left (.receipt receipt) →
        receipt.transactionId = driver.tx ∧
        statusOf contest.system.checkout driver.tx = some .completed ∧
        receipt.lines = getBasket contest.system.checkout driver.tx ∧
        receipt.itemCount = (itemsOf contest.system.checkout driver.tx).length ∧
        receipt.totalCents = pricesOf (itemsOf contest.system.checkout driver.tx) ∧
        ∀ line, line ∈ receipt.lines ↔ 0 < line.qty ∧
          line.qty = ((itemsOf contest.system.checkout driver.tx).map (fun item =>
            (item.sku, item.unitPriceCents))).count (line.sku, line.unitPriceCents) := by
  have billed : ContestBilled contest :=
    run.invariant
      ⟨Billed.initial levels, fun _ _ found => by contradiction, fun _ _ found => by contradiction⟩
      (fun _ _ _ billed own taken => billed.step own taken)
  refine ⟨fun tx row found completed => ?_, fun id driver receipt running left => ?_⟩
  · have charged := billed.system.charged tx
    exact ⟨charged.paid row found completed, (billed.system.exact tx).total row found,
      charged.agreed ⟨row, found, .inr completed⟩⟩
  · have carries := (billed.system.drivers id driver running).phase
    rw [left] at carries
    have answered : ReceiptBilled contest.system.checkout driver.tx receipt := carries
    obtain ⟨row, found, completed, _⟩ := answered.completed
    refine ⟨answered.transactionId, ?_, answered.lines, answered.itemCount, answered.totalCents,
      fun line => ?_⟩
    · rw [statusOf, found, Option.map_some, completed]
    · rw [answered.lines]
      exact mem_basketOf

def twoSkus : Table Sku Nat := (Table.empty.put "SKU-000001" 5).put "SKU-000002" 5

/-- A basket of one item, whose first attempt gets no reply and is rolled back. -/
def secondAttempt : List Label :=
  let release := Request.stockReleaseRequested ⟨1, 1⟩
  let released := Outcome.stockReleased ⟨1, 1⟩ 0 false
  let request := Request.stockReservationRequested ⟨1, 2⟩ [("SKU-000001", 1), ("SKU-000002", 1)]
  let reserved := Outcome.stockReserved ⟨1, 2⟩ false
  [.insertTransaction 1 0, .scanItem 1 "SKU-000001" 250, .complete 0 1, .commit 0 60 10, .timeOut 0,
    .commit 0 60 20, .publish release, .handle release, .publishOutcome released, .reply 0 released,
    .commit 0 60 21, .scanItem 1 "SKU-000002" 300, .complete 1 1, .commit 1 60 30, .publish request,
    .handle request, .publishOutcome reserved, .reply 1 reserved, .commit 1 60 31, .commit 1 60 32]

theorem secondAttempt_runs : ((secondAttempt.map Move.act).foldlM
    (guarded (Contest.step 5) KeepsToOwn) (contestOpening twoSkus)).isSome = true := by
  decide +kernel

theorem charged_for_its_items_secondAttempt :
    let contest := ((secondAttempt.map Move.act).foldlM (guarded (Contest.step 5) KeepsToOwn)
      (contestOpening twoSkus)).get secondAttempt_runs
    ∃ row, contest.system.checkout.transactions.lookup 1 = some row ∧ row.status = .completed ∧
      row.totalAmountCents = some (pricesOf (itemsOf contest.system.checkout 1)) ∧
      pricesOf (itemsOf contest.system.checkout 1) = 550 := by
  have sold : (((secondAttempt.map Move.act).foldlM (guarded (Contest.step 5) KeepsToOwn)
      (contestOpening twoSkus)).get secondAttempt_runs).system.checkout.transactions.lookup 1 =
        some ⟨.completed, 2, 550, some 550, 0, some 32⟩ := by
    decide +kernel
  have price : pricesOf (itemsOf (((secondAttempt.map Move.act).foldlM
      (guarded (Contest.step 5) KeepsToOwn) (contestOpening twoSkus)).get
        secondAttempt_runs).system.checkout 1) = 550 := by
    decide +kernel
  exact ⟨_, sold, rfl, ((charged_for_its_items 5 twoSkus (secondAttempt.map Move.act) _
    (.of_guarded (Option.some_get secondAttempt_runs).symm)).1 1 _ sold rfl).1, price⟩

/-- A call sleeps after its reservation was answered.  A recovery pass rolls its attempt back,
the shopper scans one more item and completes again, and the sleeper goes on. -/
def staleTotal : List Label :=
  let request := Request.stockReservationRequested ⟨1, 1⟩ [("SKU-000001", 1)]
  let reserved := Outcome.stockReserved ⟨1, 1⟩ false
  let release := Request.stockReleaseRequested ⟨1, 1⟩
  let released := Outcome.stockReleased ⟨1, 1⟩ 1 false
  [.insertTransaction 1 0, .scanItem 1 "SKU-000001" 250, .complete 0 1, .commit 0 60 10,
    .publish request, .handle request, .publishOutcome reserved, .reply 0 reserved,
    .runOnce 1 [1] 60 10 100, .commit 1 60 101, .publish release, .handle release,
    .publishOutcome released, .reply 1 released, .commit 1 60 102, .scanItem 1 "SKU-000002" 300,
    .complete 2 1, .commit 2 60 110, .commit 0 60 111, .commit 0 60 112]

theorem staleTotal_runs : ((staleTotal.map Move.act).foldlM (Contest.step 5)
    (contestOpening twoSkus)).isSome = true := by
  decide +kernel

/-- A transaction with items for 550 is charged 250, and the receipt lists one item. -/
theorem charged_an_old_total :
    ¬ ∀ (threshold : Int) (levels : Table Sku Nat) (moves : List Move) (contest : Contest),
      Run (Contest.step threshold) Any (contestOpening levels) moves contest →
        (∀ tx row, contest.system.checkout.transactions.lookup tx = some row →
          row.status = .completed →
            row.totalAmountCents = some (pricesOf (itemsOf contest.system.checkout tx))) ∧
        ∀ id driver receipt, contest.system.drivers.lookup id = some driver →
          driver.phase = .left (.receipt receipt) →
            receipt.lines = getBasket contest.system.checkout driver.tx := by
  intro charges
  have charged := charges 5 twoSkus (staleTotal.map Move.act) _
    (.of_foldlM (Option.some_get staleTotal_runs).symm)
  have paid := charged.1 1 ⟨.completed, 2, 550, some 250, 0, some 112⟩ (by decide +kernel) rfl
  have price : pricesOf (itemsOf (((staleTotal.map Move.act).foldlM (Contest.step 5)
      (contestOpening twoSkus)).get staleTotal_runs).system.checkout 1) = 550 := by
    decide +kernel
  rw [price] at paid
  contradiction

end SelfCheckout.Saga
