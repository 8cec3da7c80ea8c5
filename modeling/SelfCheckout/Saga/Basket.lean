import SelfCheckout.Checkout.Ledger
import SelfCheckout.Saga.Sound

namespace SelfCheckout.Saga

open SelfCheckout.Data SelfCheckout.Checkout

/-! # The basket an attempt asks for

Items are added to OPEN transactions only, so every copy of an attempt's request,
also one a take-over builds anew, asks for the same basket.
-/

/-- A transaction's items, counted per SKU. -/
def itemLines (db : Checkout.Database) (tx : TxId) : List (Sku × Nat) :=
  merge ((db.items.filter (fun item => decide (item.transactionId = tx))).map (fun item =>
    (item.sku, 1)))

theorem itemLines_congr {before after : Checkout.Database} (same : after.items = before.items)
    (tx : TxId) : itemLines after tx = itemLines before tx := by
  rw [itemLines, itemLines, same]

theorem linesOf_getBasket (db : Checkout.Database) (tx : TxId) :
    linesOf (getBasket db tx) = itemLines db tx :=
  linesOf_basketOf (itemsOf db tx)

theorem basket_of_item {db : Checkout.Database} {tx : TxId} {item : TransactionItem}
    (member : item ∈ db.items) (own : item.transactionId = tx) : getBasket db tx ≠ [] := by
  intro empty
  have listed : toLex (item.sku, item.unitPriceCents) ∈
      (merge ((db.items.filter (fun item => decide (item.transactionId = tx))).map (fun item =>
        (toLex (item.sku, item.unitPriceCents), 1)))).map Prod.fst := by
    rw [mem_merge_keys]
    simp only [List.map_map, List.mem_map, List.mem_filter]
    exact ⟨item, ⟨member, by simpa using own⟩, rfl⟩
  simp only [getBasket, List.map_eq_nil_iff] at empty
  rw [empty] at listed
  contradiction

theorem item_of_basket {db : Checkout.Database} {tx : TxId} (scanned : getBasket db tx ≠ []) :
    ∃ item ∈ db.items, item.transactionId = tx := by
  obtain ⟨line, member⟩ := List.exists_mem_of_ne_nil _ scanned
  obtain ⟨total, listed, _⟩ := List.mem_map.mp member
  have key := mem_merge_keys.mp (List.mem_map.mpr ⟨total, listed, rfl⟩)
  rw [List.map_map] at key
  obtain ⟨item, filtered, _⟩ := List.mem_map.mp key
  exact ⟨item, (List.mem_filter.mp filtered).1, by simpa using (List.mem_filter.mp filtered).2⟩

/-- Checkout queued the request or handed it to the broker. -/
def Known (system : System) (request : Request) : Prop :=
  request ∈ system.checkout.outbox ∨ request ∈ system.asked

/-- What the current attempt of each transaction asks for, unless it was given up. -/
structure BasketsAsked (system : System) : Prop extends Sound system where
  asks : ∀ tx record lines, system.checkout.completions.lookup tx = some record →
    record.state ≠ .aborted →
    Known system (.stockReservationRequested ⟨tx, record.epoch⟩ lines) →
    lines = itemLines system.checkout tx

section Steps

variable {threshold : Int} {system after : System} {label : Label}

theorem items_writes {driver : Driver} {db after : Checkout.Database} {lease : Nat} {now : Time}
    (writes : Writes driver db lease now after) : after.items = db.items := by
  cases writes with
  | nothing quiet => rfl
  | started phase began => exact (started_lookup began).2.2.2.2.1
  | tookOver phase began => rfl
  | reserved phase => rfl
  | finalized phase => exact (finalize_rest _ _ _ _).1
  | rolledForward phase => exact (finalize_rest _ _ _ _).1
  | compensated phase => rfl
  | reopened phase => exact (reopen_rest _ _ _).1

/-- Items are never removed. -/
theorem step_items (does : Does threshold system label after) (item : TransactionItem)
    (member : item ∈ system.checkout.items) : item ∈ after.checkout.items := by
  cases does with
  | scans =>
      simp only [scanItem]
      split
      · exact member
      · split
        · exact List.mem_append_left _ member
        · exact member
  | claims free done => exact (claimStuck_rest _ _ done).1.symm ▸ member
  | commits running writes goes => exact (items_writes writes).symm ▸ member
  | raisesAfterCommit running raised writes => exact (items_writes writes).symm ▸ member
  | _ => exact member

theorem writes_reservation {driver : Driver} {db after : Checkout.Database} {lease : Nat}
    {now : Time} {attempt : Attempt} {lines : List (Sku × Nat)}
    (writes : Writes driver db lease now after)
    (queued : .stockReservationRequested attempt lines ∈ after.outbox) :
    .stockReservationRequested attempt lines ∈ db.outbox ∨
      lines = itemLines db attempt.transactionId := by
  cases writes with
  | nothing quiet => exact .inl queued
  | started phase began =>
      obtain ⟨_, _, rfl, outbox, _⟩ := started_lookup began
      rw [outbox, List.mem_append, List.mem_singleton] at queued
      apply queued.imp_right
      intro same
      cases same
      exact linesOf_getBasket _ _
  | tookOver phase began => exact .inl queued
  | reserved phase => exact .inl queued
  | finalized phase =>
      rw [(finalize_rest _ _ _ _).2] at queued
      exact .inl queued
  | rolledForward phase =>
      rw [(finalize_rest _ _ _ _).2] at queued
      exact .inl queued
  | compensated phase =>
      rcases List.mem_append.mp queued with old | new
      · exact .inl old
      · cases List.mem_singleton.mp new
  | reopened phase =>
      rw [(reopen_rest _ _ _).2] at queued
      exact .inl queued

theorem goes_reservation {driver next : Driver} {db after : Checkout.Database} {lease : Nat}
    {now : Time} {asked : List Request} {attempt : Attempt} {lines : List (Sku × Nat)}
    (goes : Goes driver db lease now after next asked)
    (asks : .stockReservationRequested attempt lines ∈ asked) :
    lines = itemLines db attempt.transactionId := by
  cases goes with
  | tookOver phase began =>
      cases List.mem_singleton.mp asks
      exact linesOf_getBasket _ _
  | leaves exit => contradiction
  | owesRollback phase began => contradiction
  | started phase began => contradiction
  | reserved phase => contradiction
  | foundClosed phase found => contradiction
  | compensated phase => contradiction
  | beginsAgain phase => contradiction

theorem not_aborted_of_live {state : CompletionState} (live : state.terminal = false) :
    state ≠ .aborted := by
  intro aborted
  rw [aborted] at live
  contradiction

theorem BasketsAsked.writes (baskets : BasketsAsked system) {driver : Driver}
    {checkout : Checkout.Database} {lease : Nat} {now : Time}
    (writes : Writes driver system.checkout lease now checkout) {tx : TxId} {new : Completion}
    {lines : List (Sku × Nat)} (found : checkout.completions.lookup tx = some new)
    (notAborted : new.state ≠ .aborted)
    (known : Known system (.stockReservationRequested ⟨tx, new.epoch⟩ lines)) :
    lines = itemLines checkout tx := by
  rw [itemLines_congr (items_writes writes)]
  have turns := turns_writes baskets.coupled writes tx
  rw [found] at turns
  generalize before : system.checkout.completions.lookup tx = record at turns
  have same : ∀ old, record = some old → new.epoch = old.epoch → old.state ≠ .aborted →
      lines = itemLines system.checkout tx := by
    intro old same epoch wasNot
    subst same
    rw [epoch] at known
    exact baskets.asks tx old lines before wasNot known
  cases turns with
  | keeps unchanged spared =>
      obtain ⟨old, rfl, epoch, state⟩ := sameState_some unchanged rfl
      exact same old rfl epoch (by rwa [← state])
  | starts phase closed epoch state =>
      -- a request of the new epoch cannot have been known before
      have reached : Reached system.checkout ⟨driver.tx, new.epoch⟩ := by
        rcases known with queued | asked
        · exact baskets.queued _ queued
        · exact (baskets.asked _ asked).1
      obtain ⟨_, old, foundOld, below⟩ := reached
      cases before.symm.trans foundOld
      simp only [epoch, nextEpoch] at below
      omega
  | reserves phase live epoch state =>
      exact same _ rfl epoch (not_aborted_of_live live)
  | finalizes phase live epoch state =>
      exact same _ rfl epoch (not_aborted_of_live live)
  | compensates phase live epoch state =>
      exact same _ rfl epoch (not_aborted_of_live live)
  | reopens phase live epoch state => exact absurd state notAborted

theorem BasketsAsked.scans (baskets : BasketsAsked system) {scanned tx : TxId} {sku : Sku}
    {priceCents : Nat} {record : Completion}
    (found : system.checkout.completions.lookup tx = some record)
    (notAborted : record.state ≠ .aborted) :
    itemLines (scanItem system.checkout scanned sku priceCents) tx =
      itemLines system.checkout tx := by
  unfold scanItem
  split
  · rfl
  · rename_i row foundRow
    split
    · rename_i isOpen
      by_cases own : scanned = tx
      · subst own
        have coupled := baskets.coupled scanned
        rw [foundRow] at coupled
        exact absurd ((coupled.of_opened isOpen).2 record found) notAborted
      · simp [itemLines, own]
    · rfl

/-- Step lemma: every step keeps what the attempts ask for. -/
theorem BasketsAsked.step (baskets : BasketsAsked system)
    (does : Does threshold system label after) : BasketsAsked after where
  toSound := baskets.toSound.step does
  asks tx new lines found notAborted known := by
    cases does with
    | inserts absent => exact baskets.asks tx new lines found notAborted known
    | scans =>
        simp only [scanItem_completions] at found
        simp only [Known, scanItem_outbox] at known
        rw [baskets.scans found notAborted]
        exact baskets.asks tx new lines found notAborted known
    | sweeps => exact baskets.asks tx new lines found notAborted known
    | calls free => exact baskets.asks tx new lines found notAborted known
    | claims free done =>
        obtain ⟨old, foundOld, epoch, state⟩ :=
          sameState_some ((rests_claimStuck done).same tx) found
        obtain ⟨items, outbox⟩ := claimStuck_rest system.checkout _ done
        refine Eq.trans ?_ (itemLines_congr items tx).symm
        apply baskets.asks tx old lines foundOld (by rwa [← state])
        rw [← epoch]
        exact known.imp_left (fun queued => outbox ▸ queued)
    | commits running writes goes =>
        rcases known with queued | asked
        · rcases writes_reservation writes queued with old | fresh
          · exact baskets.writes writes found notAborted (.inl old)
          · exact fresh.trans (itemLines_congr (items_writes writes) tx).symm
        · rcases List.mem_append.mp asked with old | fresh
          · exact baskets.writes writes found notAborted (.inr old)
          · exact (goes_reservation goes fresh).trans (itemLines_congr (items_writes writes) tx).symm
    | raisesAfterCommit running raised writes =>
        rcases known with queued | asked
        · rcases writes_reservation writes queued with old | fresh
          · exact baskets.writes writes found notAborted (.inl old)
          · exact fresh.trans (itemLines_congr (items_writes writes) tx).symm
        · exact baskets.writes writes found notAborted (.inr asked)
    | raises running raised => exact baskets.asks tx new lines found notAborted known
    | receives running onTopic received => exact baskets.asks tx new lines found notAborted known
    | timesOut running timedOut => exact baskets.asks tx new lines found notAborted known
    | crashes => exact baskets.asks tx new lines found notAborted known
    | publishes isKnown => exact baskets.asks tx new lines found notAborted known
    | handles onTopic done => exact baskets.asks tx new lines found notAborted known
    | publishesOutcome queued => exact baskets.asks tx new lines found notAborted known

end Steps

end SelfCheckout.Saga
