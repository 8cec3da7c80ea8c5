import SelfCheckout.Checkout.Coupling
import Mathlib.Algebra.Group.Nat.Hom

namespace SelfCheckout.Checkout

open SelfCheckout.Data

/-! # The ledger of a basket

A transaction's running figures, its items and what its completion record charges.
What one local transaction does to the three is said once, by `Bills`.
-/

/-- The item rows of a transaction. -/
def itemsOf (db : Database) (tx : TxId) : List TransactionItem :=
  db.items.filter (fun item => decide (item.transactionId = tx))

def pricesOf (items : List TransactionItem) : Nat :=
  (items.map TransactionItem.unitPriceCents).sum

/-- The items grouped by SKU and price. -/
def basketOf (items : List TransactionItem) : List BasketLine :=
  (merge (items.map (fun item => (toLex (item.sku, item.unitPriceCents), 1)))).map (fun line =>
    ⟨(ofLex line.1).1, (ofLex line.1).2, line.2⟩)

theorem getBasket_eq (db : Database) (tx : TxId) : getBasket db tx = basketOf (itemsOf db tx) := rfl

theorem pricesOf_append (items : List TransactionItem) (item : TransactionItem) :
    pricesOf (items ++ [item]) = pricesOf items + item.unitPriceCents := by
  simp [pricesOf]

/-- The basket costs what its items cost. -/
theorem totalOf_basketOf (items : List TransactionItem) :
    totalOf (basketOf items) = pricesOf items := by
  have weighed := sum_measure_merge
    (fun key : Sku ×ₗ Nat => AddMonoidHom.mulLeft (ofLex key).2)
    (items.map (fun item => (toLex (item.sku, item.unitPriceCents), 1)))
  simpa [totalOf, basketOf, pricesOf, Function.comp_def] using weighed

/-- Merged by SKU, the basket counts the items: grouping by price first makes no difference. -/
theorem linesOf_basketOf (items : List TransactionItem) :
    linesOf (basketOf items) = merge (items.map (fun item => (item.sku, 1))) := by
  have finer := merge_projected_merge (fun key : Sku ×ₗ Nat => (ofLex key).1)
    (items.map (fun item => (toLex (item.sku, item.unitPriceCents), 1)))
  simpa [linesOf, basketOf, projected, Function.comp_def] using finer

theorem quantity_basketOf (items : List TransactionItem) :
    ((basketOf items).map BasketLine.qty).sum = items.length := by
  have counted := sum_measure_merge (fun _ : Sku ×ₗ Nat => AddMonoidHom.id Nat)
    (items.map (fun item => (toLex (item.sku, item.unitPriceCents), 1)))
  simpa [basketOf, Function.comp_def] using counted

theorem units_items (items : List TransactionItem) (sku : Sku) (price : Nat) :
    units (items.map (fun item => (toLex (item.sku, item.unitPriceCents), 1)))
        (toLex (sku, price)) =
      (items.map (fun item => (item.sku, item.unitPriceCents))).count (sku, price) := by
  induction items with
  | nil => rfl
  | cons item items ih =>
      rw [List.map_cons, List.map_cons, units_cons, ih, List.count_cons, Nat.add_comm]
      congr 1
      simp

/-- A line for each SKU and price that was scanned, with how often it was. -/
theorem mem_basketOf {items : List TransactionItem} {line : BasketLine} :
    line ∈ basketOf items ↔ 0 < line.qty ∧
      line.qty = (items.map (fun item => (item.sku, item.unitPriceCents))).count
        (line.sku, line.unitPriceCents) := by
  obtain ⟨sku, price, qty⟩ := line
  have merged : (⟨sku, price, qty⟩ : BasketLine) ∈ basketOf items ↔
      (toLex (sku, price), qty) ∈
        merge (items.map (fun item => (toLex (item.sku, item.unitPriceCents), 1))) := by
    rw [basketOf, List.mem_map]
    constructor
    · rintro ⟨⟨key, amount⟩, member, same⟩
      cases same
      exact member
    · exact fun member => ⟨_, member, rfl⟩
  have scanned : toLex (sku, price) ∈ (items.map (fun item =>
        (toLex (item.sku, item.unitPriceCents), 1))).map Prod.fst ↔
      0 < (items.map (fun item => (item.sku, item.unitPriceCents))).count (sku, price) := by
    rw [List.count_pos_iff]
    simp
  rw [merged, mem_merge, units_items, scanned]
  constructor
  · rintro ⟨listed, rfl⟩
    exact ⟨listed, rfl⟩
  · rintro ⟨positive, same⟩
    exact ⟨same ▸ positive, same⟩

structure Bill where
  row : Option Transaction
  items : List TransactionItem
  record : Option Completion

def billOf (db : Database) (tx : TxId) : Bill :=
  ⟨db.transactions.lookup tx, itemsOf db tx, db.completions.lookup tx⟩

/-- The record is of the same attempt and charges the same. -/
def SameTerms (before after : Option Completion) : Prop :=
  after.map (fun record => (record.epoch, record.totalCents)) =
    before.map (fun record => (record.epoch, record.totalCents))

def Transaction.scanned (row : Transaction) (item : TransactionItem) : Transaction :=
  { row with
    itemCount := row.itemCount + 1
    runningTotalCents := row.runningTotalCents + item.unitPriceCents }

def Transaction.charged (row : Transaction) (totalCents : Nat) (now : Time) : Transaction :=
  { row with
    status := .completed
    completedAt := some now
    totalAmountCents := some totalCents }

/-- A row gives up being OPEN or COMPLETING without being charged. -/
def Lapses (before after : TxStatus) : Prop :=
  before = .opened ∧ after = .cancelled ∨ before = .completing ∧ after = .opened

/-- What one local transaction does to a transaction's bill.  `Charges` holds of the amounts
it may write. -/
inductive Bills (Charges : Nat → Prop) : Bill → Bill → Prop where
  | stays {row : Option Transaction} {items : List TransactionItem}
      {before after : Option Completion} (same : SameTerms before after) :
      Bills Charges ⟨row, items, before⟩ ⟨row, items, after⟩
  | inserted {row : Transaction} {items : List TransactionItem} {record : Option Completion}
      (isOpen : row.status = .opened) (count : row.itemCount = 0) (total : row.runningTotalCents = 0) :
      Bills Charges ⟨none, items, record⟩ ⟨some row, items, record⟩
  | scanned {row : Transaction} {items : List TransactionItem} {record : Option Completion}
      {item : TransactionItem} (isOpen : row.status = .opened) :
      Bills Charges ⟨some row, items, record⟩ ⟨some (row.scanned item), items ++ [item], record⟩
  | started {row : Transaction} {items : List TransactionItem} {before : Option Completion}
      {after : Completion} (isOpen : row.status = .opened) (epoch : after.epoch = nextEpoch before)
      (total : after.totalCents = pricesOf items) :
      Bills Charges ⟨some row, items, before⟩
        ⟨some { row with status := .completing }, items, some after⟩
  | lapsed {row : Transaction} {status : TxStatus} {items : List TransactionItem}
      {before after : Option Completion} (lapses : Lapses row.status status)
      (same : SameTerms before after) :
      Bills Charges ⟨some row, items, before⟩ ⟨some { row with status }, items, after⟩
  | finalized {row : Transaction} {items : List TransactionItem} {before after : Option Completion}
      {totalCents : Nat} {now : Time} (wasCompleting : row.status = .completing)
      (charges : Charges totalCents) (same : SameTerms before after) :
      Bills Charges ⟨some row, items, before⟩ ⟨some (row.charged totalCents now), items, after⟩

theorem Bills.same {Charges : Nat → Prop} (bill : Bill) : Bills Charges bill bill := .stays rfl

theorem Bills.weaken {Charges Wider : Nat → Prop} {before after : Bill}
    (bills : Bills Charges before after) (covers : ∀ total, Charges total → Wider total) :
    Bills Wider before after := by
  cases bills with
  | stays same => exact .stays same
  | inserted isOpen count total => exact .inserted isOpen count total
  | scanned isOpen => exact .scanned isOpen
  | started isOpen epoch total => exact .started isOpen epoch total
  | lapsed lapses same => exact .lapsed lapses same
  | finalized wasCompleting charges same =>
      exact .finalized wasCompleting (covers _ charges) same

section Statements

variable {Charges : Nat → Prop} (db : Database) (tx other : TxId) (now : Time)

theorem bills_insertTransaction (absent : db.transactions.lookup tx = none) :
    Bills Charges (billOf db other) (billOf (insertTransaction db tx now) other) := by
  by_cases here : other = tx
  · subst here
    simp only [billOf, insertTransaction, Table.lookup_put, ↓reduceIte, absent]
    exact .inserted rfl rfl rfl
  · simp only [billOf, insertTransaction, Table.lookup_put, here, ↓reduceIte]
    exact .same _

theorem bills_scanItem (sku : Sku) (priceCents : Nat) :
    Bills Charges (billOf db other) (billOf (scanItem db tx sku priceCents) other) := by
  unfold scanItem
  split
  · exact .same _
  · rename_i row found
    split
    · rename_i isOpen
      by_cases here : other = tx
      · subst here
        have scanned : Bills Charges ⟨some row, itemsOf db other, db.completions.lookup other⟩
            ⟨some (row.scanned ⟨other, sku, priceCents⟩),
              itemsOf db other ++ [⟨other, sku, priceCents⟩], db.completions.lookup other⟩ :=
          .scanned isOpen
        simpa [billOf, itemsOf, found, Transaction.scanned] using scanned
      · have same : billOf { db with
              transactions := db.transactions.put tx
                { row with
                  itemCount := row.itemCount + 1
                  runningTotalCents := row.runningTotalCents + priceCents }
              items := db.items ++ [⟨tx, sku, priceCents⟩] } other = billOf db other := by
          simp [billOf, itemsOf, here, Ne.symm here]
        rw [same]
        exact .same _
    · exact .same _

theorem bills_sweepAbandoned (minutes : Nat) :
    Bills Charges (billOf db other) (billOf (sweepAbandoned db minutes now) other) := by
  simp only [billOf, sweepAbandoned, Table.lookup_mapValues]
  cases found : db.transactions.lookup other with
  | none => exact .same _
  | some row =>
      simp only [Option.map_some]
      split
      · rename_i abandoned
        exact .lapsed (.inl ⟨abandoned.1, rfl⟩) rfl
      · exact .same _

theorem bills_beginCompletion (lease : Nat) {epoch totalCents : Nat} {request : Request}
    {after : Database} (began : beginCompletion db tx lease now =
      .started epoch totalCents request after) :
    Bills Charges (billOf db other) (billOf after other) := by
  cases begins began with
  | started found isOpen scanned marks asks =>
      subst marks asks
      by_cases here : other = tx
      · subst here
        simp only [billOf, insertOutbox, markCompleting, Table.lookup_alter, Table.lookup_put,
          ↓reduceIte, found, Option.map_some]
        refine .started isOpen ?_ (totalOf_basketOf _)
        cases db.completions.lookup other <;> rfl
      · simp only [billOf, insertOutbox, markCompleting, Table.lookup_alter, Table.lookup_put, here,
          ↓reduceIte]
        exact .same _

theorem bills_setCompletionState (state : CompletionState) (error : Option String) :
    Bills Charges (billOf db other) (billOf (setCompletionState db tx state error now) other) := by
  refine .stays ?_
  by_cases here : other = tx
  · subst here
    simp only [SameTerms, setCompletionState, Table.lookup_alter, ↓reduceIte]
    cases db.completions.lookup other with
    | none => rfl
    | some record =>
        simp only [Option.map_some]
        split <;> rfl
  · simp only [SameTerms, setCompletionState, Table.lookup_alter, here, ↓reduceIte]

theorem bills_markCompensating (epoch : Nat) (reason : Option String) :
    Bills Charges (billOf db other) (billOf (markCompensating db tx epoch reason now) other) :=
  bills_setCompletionState db tx other now .compensating reason

theorem bills_finalize (totalCents : Nat) (charges : other = tx → Charges totalCents) :
    Bills Charges (billOf db other) (billOf (finalize db tx totalCents now).2 other) := by
  rcases finalize_cases db tx totalCents now with missed | ⟨row, found, isCompleting, done⟩
  · rw [missed]
    exact .same _
  · rw [done]
    by_cases here : other = tx
    · subst here
      simp only [billOf, Table.lookup_put, Table.lookup_alter, ↓reduceIte, found]
      refine .finalized isCompleting (charges rfl) ?_
      cases db.completions.lookup other <;> rfl
    · simp only [billOf, Table.lookup_put, Table.lookup_alter, here, ↓reduceIte]
      exact .same _

theorem bills_reopen :
    Bills Charges (billOf db other) (billOf (reopen db tx now) other) := by
  rcases reopen_cases db tx now with missed | ⟨row, found, isCompleting, done⟩
  · rw [missed]
    exact .same _
  · rw [done]
    by_cases here : other = tx
    · subst here
      simp only [billOf, Table.lookup_put, Table.lookup_alter, ↓reduceIte, found]
      refine .lapsed (.inr ⟨isCompleting, rfl⟩) ?_
      cases db.completions.lookup other with
      | none => rfl
      | some record =>
          simp only [SameTerms, Option.map_some]
          split <;> rfl
    · simp only [billOf, Table.lookup_put, Table.lookup_alter, here, ↓reduceIte]
      exact .same _

theorem bills_claimStuck {claimed : List TxId} {lease limit : Nat} {rows : List StuckRow}
    {after : Database} (done : claimStuck db claimed lease limit now = some (rows, after)) :
    Bills Charges (billOf db other) (billOf after other) := by
  obtain ⟨nodup, _, _, rfl⟩ := claimStuck_eq db now done
  have rest := claims_rest db claimed now
  simp only [billOf, itemsOf, rest.1, rest.2.1, lookup_claims db other now nodup]
  refine .stays ?_
  split
  · cases db.completions.lookup other <;> rfl
  · rfl

end Statements

/-- The running figures are those of the items. -/
structure Bill.Exact (bill : Bill) : Prop where
  absent : bill.row = none → bill.items = []
  count : ∀ row, bill.row = some row → row.itemCount = bill.items.length
  total : ∀ row, bill.row = some row → row.runningTotalCents = pricesOf bill.items

/-- The transaction is COMPLETING or COMPLETED. -/
def Bill.Fixed (bill : Bill) : Prop :=
  ∃ row, bill.row = some row ∧ (row.status = .completing ∨ row.status = .completed)

/-- A fixed bill's record charges its items, and so does the amount of a completed one. -/
structure Bill.Charged (bill : Bill) : Prop where
  agreed : bill.Fixed → ∃ record, bill.record = some record ∧ record.totalCents = pricesOf bill.items
  paid : ∀ row, bill.row = some row → row.status = .completed →
    row.totalAmountCents = some (pricesOf bill.items)

/-- What is known of the items at an epoch: it holds for as long as the bill is fixed there. -/
def Bill.Knows (bill : Bill) (epoch : Nat) (holds : List TransactionItem → Prop) : Prop :=
  ∃ record, bill.record = some record ∧ epoch ≤ record.epoch ∧
    (epoch = record.epoch → bill.Fixed → holds bill.items)

section Bills

variable {Charges : Nat → Prop} {before after : Bill}

theorem SameTerms.found {record recordAfter : Option Completion} (same : SameTerms record recordAfter)
    {old : Completion} (found : record = some old) :
    ∃ new, recordAfter = some new ∧ new.epoch = old.epoch ∧ new.totalCents = old.totalCents := by
  subst found
  cases recordAfter with
  | none => contradiction
  | some new =>
      simp only [SameTerms, Option.map_some, Option.some.injEq, Prod.mk.injEq] at same
      exact ⟨new, rfl, same⟩

theorem Bill.not_fixed_of_opened {row : Transaction} (isOpen : row.status = .opened)
    {bill : Bill} (found : bill.row = some row) : ¬ bill.Fixed := by
  rintro ⟨other, foundOther, fixed⟩
  cases found.symm.trans foundOther
  rcases fixed with completing | completed
  · cases isOpen.symm.trans completing
  · cases isOpen.symm.trans completed

theorem Lapses.not_fixed {row : Transaction} {status : TxStatus} (lapses : Lapses row.status status)
    (items : List TransactionItem) (record : Option Completion) :
    ¬ Bill.Fixed ⟨some { row with status }, items, record⟩ := by
  rintro ⟨other, found, fixed⟩
  cases found
  rcases lapses with ⟨_, rfl⟩ | ⟨_, rfl⟩
  · rcases fixed with completing | completed <;> contradiction
  · rcases fixed with completing | completed <;> contradiction

theorem Bill.Exact.kept {row new : Transaction} {items : List TransactionItem}
    {record recordAfter : Option Completion} (exact : Bill.Exact ⟨some row, items, record⟩)
    (count : new.itemCount = row.itemCount)
    (total : new.runningTotalCents = row.runningTotalCents) :
    Bill.Exact ⟨some new, items, recordAfter⟩ where
  absent none := by contradiction
  count other found := by
    cases found
    exact count.trans (exact.count row rfl)
  total other found := by
    cases found
    exact total.trans (exact.total row rfl)

theorem Bills.exact (bills : Bills Charges before after) (exact : before.Exact) : after.Exact := by
  cases bills with
  | stays same => exact ⟨exact.absent, exact.count, exact.total⟩
  | inserted isOpen count total =>
      have empty := exact.absent rfl
      refine ⟨fun none => by contradiction, ?_, ?_⟩
      · intro row found
        cases found
        simp only at empty ⊢
        rw [empty, count]
        rfl
      · intro row found
        cases found
        simp only at empty ⊢
        rw [empty, total]
        rfl
  | scanned isOpen =>
      refine ⟨fun none => by contradiction, ?_, ?_⟩
      · intro row found
        cases found
        rw [List.length_append, ← exact.count _ rfl]
        rfl
      · intro row found
        cases found
        rw [pricesOf_append, ← exact.total _ rfl]
        rfl
  | started isOpen epoch total => exact exact.kept rfl rfl
  | lapsed lapses same => exact exact.kept rfl rfl
  | finalized wasCompleting charges same => exact exact.kept rfl rfl

/-- As long as what is written to a COMPLETING transaction is its price, fixed bills stay
charged. -/
theorem Bills.charged (bills : Bills Charges before after) (charged : before.Charged)
    (charges : ∀ row, before.row = some row → row.status = .completing →
      ∀ total, Charges total → total = pricesOf before.items) : after.Charged := by
  cases bills with
  | stays same =>
      refine ⟨fun fixed => ?_, charged.paid⟩
      obtain ⟨record, found, total⟩ := charged.agreed fixed
      obtain ⟨new, foundNew, _, sameTotal⟩ := same.found found
      exact ⟨new, foundNew, sameTotal.trans total⟩
  | inserted isOpen count total =>
      refine ⟨fun fixed => absurd fixed (Bill.not_fixed_of_opened isOpen rfl), ?_⟩
      rintro row ⟨⟩ completed
      cases isOpen.symm.trans completed
  | @scanned row _ _ item isOpen =>
      have stillOpen : (row.scanned item).status = .opened := isOpen
      refine ⟨fun fixed => absurd fixed (Bill.not_fixed_of_opened stillOpen rfl), ?_⟩
      rintro _ ⟨⟩ completed
      cases stillOpen.symm.trans completed
  | started isOpen epoch total =>
      refine ⟨fun _ => ⟨_, rfl, total⟩, ?_⟩
      rintro row ⟨⟩ completed
      contradiction
  | @lapsed row status items _ recordAfter lapses same =>
      have lapsed := lapses.not_fixed items recordAfter
      refine ⟨fun fixed => absurd fixed lapsed, ?_⟩
      rintro _ ⟨⟩ completed
      exact absurd ⟨_, rfl, .inr completed⟩ lapsed
  | finalized wasCompleting written same =>
      refine ⟨fun _ => ?_, ?_⟩
      · obtain ⟨record, found, total⟩ := charged.agreed ⟨_, rfl, .inl wasCompleting⟩
        obtain ⟨new, foundNew, _, sameTotal⟩ := same.found found
        exact ⟨new, foundNew, sameTotal.trans total⟩
      · rintro row ⟨⟩ _
        exact congrArg some (charges _ rfl wasCompleting _ written)

/-- What is known at an epoch stays known: a later attempt has a later epoch. -/
theorem Bills.knows {epoch : Nat} {holds : List TransactionItem → Prop}
    (bills : Bills Charges before after) (known : before.Knows epoch holds) : after.Knows epoch holds := by
  obtain ⟨record, found, reached, facts⟩ := known
  cases bills with
  | stays same =>
      obtain ⟨new, foundNew, sameEpoch, _⟩ := same.found found
      refine ⟨new, foundNew, sameEpoch ▸ reached, fun current fixed => ?_⟩
      exact facts (current.trans sameEpoch) fixed
  | inserted isOpen count total =>
      exact ⟨record, found, reached, fun _ fixed =>
        absurd fixed (Bill.not_fixed_of_opened isOpen rfl)⟩
  | @scanned row _ _ item isOpen =>
      have stillOpen : (row.scanned item).status = .opened := isOpen
      exact ⟨record, found, reached, fun _ fixed =>
        absurd fixed (Bill.not_fixed_of_opened stillOpen rfl)⟩
  | started isOpen next total =>
      cases found
      simp only [nextEpoch] at next
      exact ⟨_, rfl, by omega, fun current _ => by omega⟩
  | lapsed lapses same =>
      obtain ⟨new, foundNew, sameEpoch, _⟩ := same.found found
      exact ⟨new, foundNew, sameEpoch ▸ reached, fun _ fixed =>
        absurd fixed (lapses.not_fixed _ _)⟩
  | finalized wasCompleting charges same =>
      obtain ⟨new, foundNew, sameEpoch, _⟩ := same.found found
      refine ⟨new, foundNew, sameEpoch ▸ reached, fun current _ => ?_⟩
      exact facts (current.trans sameEpoch) ⟨_, rfl, .inl wasCompleting⟩

/-- Items are added to OPEN transactions only, and leave them OPEN. -/
theorem Bills.opened_of_items (bills : Bills Charges before after)
    (changed : after.items ≠ before.items) :
    ∃ row rowAfter, before.row = some row ∧ row.status = .opened ∧
      after.row = some rowAfter ∧ rowAfter.status = .opened := by
  cases bills with
  | scanned isOpen => exact ⟨_, _, rfl, isOpen, rfl, isOpen⟩
  | stays same => exact absurd rfl changed
  | inserted isOpen count total => exact absurd rfl changed
  | started isOpen epoch total => exact absurd rfl changed
  | lapsed lapses same => exact absurd rfl changed
  | finalized wasCompleting charges same => exact absurd rfl changed

/-- A completed transaction's row and items never change. -/
theorem Bills.completed (bills : Bills Charges before after) {row : Transaction}
    (found : before.row = some row) (completed : row.status = .completed) :
    after.row = some row ∧ after.items = before.items := by
  cases bills with
  | stays same => exact ⟨found, rfl⟩
  | inserted isOpen count total => contradiction
  | scanned isOpen =>
      cases found
      cases isOpen.symm.trans completed
  | started isOpen epoch total =>
      cases found
      cases isOpen.symm.trans completed
  | lapsed lapses same =>
      cases found
      rcases lapses with ⟨isOpen, _⟩ | ⟨completing, _⟩
      · cases isOpen.symm.trans completed
      · cases completing.symm.trans completed
  | finalized wasCompleting charges same =>
      cases found
      cases wasCompleting.symm.trans completed

end Bills

end SelfCheckout.Checkout
