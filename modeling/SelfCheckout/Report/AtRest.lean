import SelfCheckout.Inventory.Verdict
import SelfCheckout.Report.Reconciliation
import SelfCheckout.Saga.Agreement
import SelfCheckout.Saga.Services

namespace SelfCheckout.Report

open SelfCheckout.Data SelfCheckout.Checkout

/-! # The check and the system it checks

As long as no transaction has two drivers at a time, what the check finds wrong is work that
is not finished, and nothing else: a system at rest passes, whatever was lost, repeated or
retried on the way.
-/

/-- Every line of an APPLIED adjustment names a SKU that has a stock row. -/
def Stocked (db : Inventory.Database) : Prop :=
  ∀ attempt lines, Holds db attempt lines → ∀ line ∈ lines, (db.stock.lookup line.1).isSome = true

/-- The SKUs that have a stock row. -/
def SameSkus (before after : Table Sku Inventory.StockRow) : Prop :=
  ∀ sku, (after.lookup sku).isSome = (before.lookup sku).isSome

theorem writeStock_sameSkus (stock : Table Sku Inventory.StockRow) (writes : List (Sku × Int)) :
    SameSkus stock (Inventory.writeStock stock writes) := by
  intro sku
  rw [Inventory.lookup_writeStock, Option.isSome_map]

section Handlers

variable {db after : Inventory.Database} {threshold : Int} {request : Request} {outcome : Outcome}

theorem handle_sameSkus (done : Inventory.handle db threshold request = some (outcome, after)) :
    SameSkus db.stock after.stock := by
  rcases Inventory.handle_cases done with ⟨_, _, _, _, _, ran, _, rfl⟩ | ⟨_, _, _, _, ran, _, rfl⟩
  · rcases Inventory.reserve_cases ran with ⟨_, _, _, rfl⟩ | ⟨_, _, _, rfl⟩ | ⟨_, _, _, rfl⟩
    · exact fun _ => rfl
    · exact writeStock_sameSkus _ _
    · exact fun _ => rfl
  · rcases Inventory.release_cases ran with ⟨_, _, rfl⟩ | ⟨_, _, _, rfl⟩ | ⟨_, _, _, rfl⟩ |
      ⟨_, _, _, rfl⟩
    · exact fun _ => rfl
    · exact fun _ => rfl
    · exact fun _ => rfl
    · exact writeStock_sameSkus _ _

/-- An adjustment that becomes APPLIED had all its lines covered. -/
theorem handle_holds (done : Inventory.handle db threshold request = some (outcome, after))
    {attempt : Attempt} {lines : List (Sku × Nat)} (holds : Holds after attempt lines) :
    Holds db attempt lines ∨ ∀ line ∈ lines, (db.stock.lookup line.1).isSome = true := by
  have unwritten : ∀ {row : Inventory.Adjustment} {other : Attempt},
      (∀ lines, row ≠ .applied lines) →
      (db.adjustments.put other row).lookup attempt = some (.applied lines) →
      Holds db attempt lines := by
    intro row other notApplied found
    rw [Table.lookup_put] at found
    split at found
    · cases found
      exact absurd rfl (notApplied lines)
    · exact found
  rcases Inventory.handle_cases done with ⟨_, asked, _, _, _, ran, _, rfl⟩ | ⟨_, _, _, _, ran, _, rfl⟩
  · rcases Inventory.reserve_cases ran with ⟨_, _, _, rfl⟩ | ⟨_, covered, _, rfl⟩ | ⟨_, _, _, rfl⟩
    · exact .inl holds
    · simp only [Holds, Inventory.insertOutbox, Inventory.applyReserve, Table.lookup_put] at holds
      split at holds
      · cases holds
        refine .inr fun line member => ?_
        have listed : line.1 ∈ asked.map Prod.fst :=
          mem_merge_keys.mp (List.mem_map_of_mem member)
        have enough := (Inventory.ok_locked_iff.mp covered).2 line.1
        cases stocked : db.stock.lookup line.1 with
        | some row => rfl
        | none => exact absurd ⟨listed, by simp [stocked]⟩ enough
      · exact .inl holds
    · exact .inl (unwritten (by simp) holds)
  · rcases Inventory.release_cases ran with ⟨_, _, rfl⟩ | ⟨_, _, _, rfl⟩ | ⟨_, _, _, rfl⟩ |
      ⟨_, _, _, rfl⟩
    · exact .inl (unwritten (by simp) holds)
    · exact .inl holds
    · exact .inl (unwritten (by simp) holds)
    · exact .inl (unwritten (by simp) holds)

theorem Stocked.handle (stocked : Stocked db)
    (done : Inventory.handle db threshold request = some (outcome, after)) : Stocked after := by
  intro attempt lines holds line member
  rw [handle_sameSkus done]
  rcases handle_holds done holds with before | covered
  · exact stocked attempt lines before line member
  · exact covered line member

end Handlers

section System

open Saga

variable {threshold : Int} {levels : Table Sku Nat} {labels : List Saga.Label} {system : System}

/-- Run lemma: the SKUs stay the seeded ones, and nothing else is ever held. -/
theorem stocked_of_run
    (run : Run (Saga.step threshold) OneDriver (opening levels) labels system) :
    Stocked system.inventory ∧
      ∀ sku, (system.inventory.stock.lookup sku).isSome = (levels.lookup sku).isSome := by
  induction run with
  | start =>
      refine ⟨fun attempt lines holds => ?_, fun sku => ?_⟩
      · simp [Holds, opening, Inventory.seeded] at holds
      · simp [opening, Inventory.seeded]
  | snoc past permitted taken ih =>
      obtain ⟨stocked, skus⟩ := ih
      cases step_does taken with
      | handles onTopic done =>
          exact ⟨stocked.handle done, fun sku => (handle_sameSkus done sku).trans (skus sku)⟩
      | _ => exact ⟨stocked, skus⟩

/-- No completion is left in a state it has to leave. -/
def Finished (db : Checkout.Database) : Prop :=
  ∀ tx record, db.completions.lookup tx = some record → record.state.terminal = true

theorem completed_iff {db : Checkout.Database} {tx : TxId} :
    isCompleted db tx = true ↔ statusOf db tx = some .completed := by
  unfold isCompleted statusOf
  cases db.transactions.lookup tx <;> simp

theorem unitsOf_itemLines (db : Checkout.Database) (tx : TxId) :
    unitsOf (itemLines db tx) = itemsOf db tx := by
  apply Multiset.ext.mpr
  intro sku
  have keyed := units_map_const ((db.items.filter (fun item =>
    decide (item.transactionId = tx))).map TransactionItem.sku) 1 sku
  rw [count_unitsOf, itemLines, units_merge, itemsOf]
  simpa [List.map_map, Function.comp_def] using keyed

section Rest

variable (agreed : Agreed system) (finished : Finished system.checkout)

include agreed finished

/-- What is held is held for a sale: an older attempt and an aborted one hold nothing. -/
theorem held_completed {tx : TxId} {epoch : Nat} {lines : List (Sku × Nat)}
    (holds : Holds system.inventory ⟨tx, epoch⟩ lines) : CompletedAt system.checkout tx epoch := by
  obtain ⟨positive, record, found, below⟩ := agreed.toSound.reached holds
  have closed := finished tx record found
  have notUndone := not_undone_of_applied holds
  rcases Nat.lt_or_eq_of_le below with earlier | current
  · exact absurd ((agreed.old tx record found).1 epoch positive earlier) notUndone
  · cases current
    cases state : record.state with
    | completed =>
        have completed := (agreed.coupled tx).rows.completed.mpr (by simp [stateOf, found, state])
        exact ⟨completed, by rw [found, Option.map_some]⟩
    | aborted => exact absurd ((agreed.old tx record found).2 state) notUndone
    | _ => simp [state, CompletionState.terminal] at closed

theorem held_lines {attempt : Attempt} {lines : List (Sku × Nat)}
    (holds : Holds system.inventory attempt lines) :
    unitsOf lines = itemsOf system.checkout attempt.transactionId := by
  have applied := agreed.applied (held_completed agreed finished holds)
  cases holds.symm.trans applied
  exact unitsOf_itemLines _ _

theorem held_iff_completed (tx : TxId) :
    (∃ epoch lines, Holds system.inventory ⟨tx, epoch⟩ lines) ↔
      isCompleted system.checkout tx = true := by
  rw [completed_iff]
  constructor
  · rintro ⟨epoch, lines, holds⟩
    exact (held_completed agreed finished holds).1
  · intro completed
    have state := (agreed.coupled tx).rows.completed.mp completed
    obtain ⟨record, found, _⟩ := Option.map_eq_some_iff.mp state
    exact ⟨record.epoch, _, agreed.applied ⟨completed, by rw [found, Option.map_some]⟩⟩

/-- The transactions held for are the completed ones, each once. -/
theorem held_perm_completed :
    ((heldRows system.inventory).map (fun row => row.1.transactionId)).Perm
      (completedIds system.checkout) := by
  have nodup : ((heldRows system.inventory).map (fun row => row.1.transactionId)).Nodup := by
    refine List.Nodup.map_on ?_ (nodup_heldRows system.inventory).of_map
    rintro ⟨⟨tx, first⟩, lines⟩ held ⟨⟨other, second⟩, others⟩ alsoHeld same
    cases same
    have one := (held_completed agreed finished (mem_heldRows.mp held)).2
    have another := (held_completed agreed finished (mem_heldRows.mp alsoHeld)).2
    cases one.symm.trans another
    cases (mem_heldRows.mp held).symm.trans (mem_heldRows.mp alsoHeld)
    rfl
  apply (List.perm_ext_iff_of_nodup nodup (nodup_completedIds _)).mpr
  intro tx
  rw [mem_completedIds, ← held_iff_completed agreed finished]
  constructor
  · intro member
    obtain ⟨⟨attempt, lines⟩, held, rfl⟩ := List.mem_map.mp member
    exact ⟨attempt.epoch, lines, mem_heldRows.mp held⟩
  · rintro ⟨epoch, lines, holds⟩
    exact List.mem_map.mpr ⟨(⟨tx, epoch⟩, lines), mem_heldRows.mpr holds, rfl⟩

theorem held_eq_soldItems :
    ((heldRows system.inventory).map (fun row => unitsOf row.2)).sum =
      soldItems system.checkout := by
  have each : (heldRows system.inventory).map (fun row => unitsOf row.2) =
      (heldRows system.inventory).map (fun row => itemsOf system.checkout row.1.transactionId) :=
    List.map_congr_left fun row member => held_lines agreed finished (mem_heldRows.mp member)
  have permuted := (held_perm_completed agreed finished).map (itemsOf system.checkout)
  rw [List.map_map] at permuted
  rw [each, ← sum_itemsOf_completed]
  exact permuted.sum_eq

end Rest

/-- Nothing is under way: no completion is open, no outbox row has waited for longer than
`unpublishedAge`, and the relay and Analytics are at the highest scan id. -/
structure AtRest (checkout : CheckoutStore) (inventory : InventoryStore) (analytics : CursorReport) :
    Prop where
  finished : Finished checkout.database
  relayed : checkout.relayPosition = checkout.scanIds.foldl max 0
  read : analytics.lastScanId = checkout.scanIds.foldl max 0
  sent : ∀ row ∈ checkout.outbox, ¬ row.Waits unpublishedAge checkout.now
  answered : ∀ row ∈ inventory.outbox, ¬ row.Waits unpublishedAge inventory.now

theorem unpublishedCount_eq_zero {rows : List OutboxRow} {now : Time} :
    unpublishedCount rows now = 0 ↔ ∀ row ∈ rows, ¬ row.Waits unpublishedAge now := by
  simp [unpublishedCount, List.length_eq_zero_iff, List.filter_eq_nil_iff]

theorem openCompletions_eq_zero {db : Checkout.Database} :
    openCompletions db = 0 ↔ Finished db := by
  rw [openCompletions, List.length_eq_zero_iff, List.filter_eq_nil_iff]
  constructor
  · intro closed tx record found
    simpa using closed _ (Table.lookup_eq_some.mp found)
  · intro finished row member
    simpa using finished row.1 row.2 (Table.lookup_eq_some.mpr member)

theorem completingCount_eq_zero (agreed : Agreed system) (finished : Finished system.checkout) :
    completingCount system.checkout = 0 := by
  rw [completingCount, List.length_eq_zero_iff, List.filter_eq_nil_iff]
  intro row member
  have found := Table.lookup_eq_some.mpr member
  have coupled := agreed.coupled row.1
  rw [found] at coupled
  simp only [decide_eq_true_eq]
  intro isCompleting
  obtain ⟨_, record, foundRecord, live⟩ := coupled.of_completing isCompleting
  rw [finished row.1 record foundRecord] at live
  contradiction

section Verdict

variable {checkout : CheckoutStore} {inventory : InventoryStore} {analytics : CursorReport}

theorem stockAgrees_passed
    (balanced : ∀ line ∈ (stockReport inventory).stock,
      line.initial - line.current = ((soldReport checkout).soldOf line.sku : Int))
    (nonneg : ∀ line ∈ (stockReport inventory).stock, 0 ≤ line.current)
    (known : ∀ sku ∈ (soldReport checkout).sold.map Prod.fst,
      sku ∈ (stockReport inventory).stock.map StockLine.sku) :
    (stockAgrees (soldReport checkout) (stockReport inventory)).passed = true := by
  have noDrift : mismatched (soldReport checkout) (stockReport inventory) = [] := by
    rw [mismatched, List.filter_eq_nil_iff]
    intro line member
    simpa using balanced line member
  have noneBelow : negative (stockReport inventory) = [] := by
    rw [negative, List.filter_eq_nil_iff]
    intro line member
    simpa using nonneg line member
  have noneMissing : unknown (soldReport checkout) (stockReport inventory) = [] :=
    sortedDifference_eq_nil.mpr known
  simp [stockAgrees, noDrift, noneBelow, noneMissing]

theorem analyticsCaughtUp_passed {scanCount : ScanCountReport} :
    (analyticsCaughtUp scanCount analytics).passed = true ↔
      analytics.lastScanId = scanCount.maxScanId := by
  unfold analyticsCaughtUp
  split <;> simp_all

theorem outboxEmpty_passed {name : String} {unpublished : Nat} :
    (outboxEmpty name unpublished).passed = true ↔ unpublished = 0 := by
  unfold outboxEmpty
  split <;> simp_all

theorem relayCaughtUp_passed {scanCount : ScanCountReport} :
    (relayCaughtUp scanCount).passed = true ↔
      scanCount.relayPosition.getD scanCount.maxScanId = scanCount.maxScanId := by
  unfold relayCaughtUp
  dsimp only
  split <;> simp_all

/-- The check passes where its findings about the stores do and the pipelines are caught up. -/
theorem check_passed_iff :
    (check (soldReport checkout) (scanCountReport checkout) (stockReport inventory)
      analytics).1 = true ↔
    (noStock (stockReport inventory)).passed = true ∧
      (stockAgrees (soldReport checkout) (stockReport inventory)).passed = true ∧
      (nothingUnfinished (soldReport checkout)).passed = true ∧
      (reservationsAgree (soldReport checkout) (stockReport inventory)).passed = true ∧
      analytics.lastScanId = checkout.scanIds.foldl max 0 ∧
      (∀ row ∈ checkout.outbox, ¬ row.Waits unpublishedAge checkout.now) ∧
      (∀ row ∈ inventory.outbox, ¬ row.Waits unpublishedAge inventory.now) ∧
      checkout.relayPosition = checkout.scanIds.foldl max 0 := by
  simp only [check, findings, List.all_cons, List.all_nil, Bool.and_true, Bool.and_eq_true, counts,
    pending, analyticsCaughtUp_passed, outboxEmpty_passed, relayCaughtUp_passed, true_and,
    ← unpublishedCount_eq_zero]
  rfl

variable (run : Run (Saga.step threshold) OneDriver (opening levels) labels system)
  (ofCheckout : checkout.database = system.checkout)
  (ofInventory : inventory.database = system.inventory)

include run ofCheckout ofInventory

/-- Per SKU, the stock that is missing is what the completed transactions sold. -/
theorem balanced_at_rest (finished : Finished system.checkout) :
    ∀ line ∈ (stockReport inventory).stock,
      line.initial - line.current = ((soldReport checkout).soldOf line.sku : Int) ∧
        0 ≤ line.current := by
  intro line member
  have agreed := agreed_of_run run
  have found := mem_stockLines.mp member
  rw [ofInventory] at found
  obtain ⟨nonneg, balance⟩ := system_stock_balances run line.sku _ found
  refine ⟨?_, nonneg⟩
  rw [soldOf_soldReport, ofCheckout, ← held_eq_soldItems agreed finished, count_held]
  exact balance

/-- Every SKU that was sold has a stock row: its sale holds an adjustment that names it. -/
theorem known_at_rest (finished : Finished system.checkout) :
    ∀ sku ∈ (soldReport checkout).sold.map Prod.fst,
      sku ∈ (stockReport inventory).stock.map StockLine.sku := by
  intro sku sold
  have agreed := agreed_of_run run
  simp only [soldReport, soldBySku] at sold
  rw [mem_merge_keys, List.map_map, ofCheckout] at sold
  simp only [List.mem_map, List.mem_filter, Function.comp_apply] at sold
  obtain ⟨item, ⟨listed, completed⟩, rfl⟩ := sold
  obtain ⟨epoch, lines, holds⟩ := (held_iff_completed agreed finished item.transactionId).mpr completed
  cases holds.symm.trans (agreed.applied (held_completed agreed finished holds))
  have named : item.sku ∈ (itemLines system.checkout item.transactionId).map Prod.fst := by
    rw [itemLines, mem_merge_keys, List.map_map]
    exact List.mem_map.mpr ⟨item, List.mem_filter.mpr ⟨listed, by simp⟩, rfl⟩
  obtain ⟨line, member, same⟩ := List.mem_map.mp named
  obtain ⟨row, found⟩ :=
    Option.isSome_iff_exists.mp ((stocked_of_run run).1 _ _ holds line member)
  rw [same, ← ofInventory] at found
  exact List.mem_map.mpr ⟨⟨item.sku, row.initialStock, row.currentStock⟩,
    mem_stockLines.mpr found, rfl⟩

theorem reservations_at_rest (finished : Finished system.checkout) :
    (reservationsAgree (soldReport checkout) (stockReport inventory)).passed = true := by
  have agreed := agreed_of_run run
  have named : ∀ tx, txName tx ∈ adjustmentsIn inventory.database .applied ↔
      tx ∈ completedIds checkout.database := by
    intro tx
    rw [mem_adjustmentsIn_applied, mem_completedIds, ofCheckout, ofInventory]
    exact held_iff_completed agreed finished tx
  have applied : adjustmentsIn inventory.database .applied ⊆
      (completedIds checkout.database).map txName := by
    intro name member
    obtain ⟨entry, listed, rfl⟩ := List.mem_map.mp member
    exact List.mem_map_of_mem ((named entry.1).mp member)
  have completed : (completedIds checkout.database).map txName ⊆
      adjustmentsIn inventory.database .applied := by
    intro name member
    obtain ⟨tx, listed, rfl⟩ := List.mem_map.mp member
    exact (named tx).mpr listed
  rw [reservationsAgree, if_pos ⟨applied, completed⟩]

/-- The check has no false alarm: what it demands of stock, sales and reservations holds by
itself once nothing is under way. -/
theorem passes_iff_atRest (stocked : levels.rows ≠ []) :
    (check (soldReport checkout) (scanCountReport checkout) (stockReport inventory)
      analytics).1 = true ↔ AtRest checkout inventory analytics := by
  have agreed := agreed_of_run run
  rw [check_passed_iff]
  constructor
  · rintro ⟨_, _, unfinished, _, read, sent, answered, relayed⟩
    refine ⟨openCompletions_eq_zero.mp ?_, relayed, read, sent, answered⟩
    unfold nothingUnfinished at unfinished
    split at unfinished
    · contradiction
    · rename_i idle
      simp only [soldReport] at idle
      omega
  · rintro ⟨finished, relayed, read, sent, answered⟩
    rw [ofCheckout] at finished
    have balanced := balanced_at_rest run ofCheckout ofInventory finished
    refine ⟨?_, stockAgrees_passed (fun line member => (balanced line member).1)
      (fun line member => (balanced line member).2)
      (known_at_rest run ofCheckout ofInventory finished), ?_,
      reservations_at_rest run ofCheckout ofInventory finished, read, sent, answered, relayed⟩
    · obtain ⟨⟨sku, level⟩, rows, isCons⟩ := List.exists_cons_of_ne_nil stocked
      have seeded : (levels.lookup sku).isSome = true := by
        rw [Table.lookup_eq_some.mpr (show (sku, level) ∈ levels.rows by simp [isCons])]
        rfl
      rw [← (stocked_of_run run).2 sku, ← ofInventory] at seeded
      obtain ⟨row, found⟩ := Option.isSome_iff_exists.mp seeded
      have listed : ⟨sku, row.initialStock, row.currentStock⟩ ∈ (stockReport inventory).stock :=
        mem_stockLines.mpr found
      rw [noStock, if_neg (by simpa using List.ne_nil_of_mem listed)]
    · have noneOpen := openCompletions_eq_zero.mpr finished
      have noneCompleting := completingCount_eq_zero agreed finished
      simp [nothingUnfinished, soldReport, ofCheckout, noneOpen, noneCompleting]

end Verdict

end System

end SelfCheckout.Report
