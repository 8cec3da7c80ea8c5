import SelfCheckout.Checkout.Saga
import SelfCheckout.Data.Run

namespace SelfCheckout.Checkout

open SelfCheckout.Data

/-! # Transaction and completion rows

What one local transaction can do to one transaction's two rows is said once, by
`Moves`; the coupling and the arrows of both rows are read off it.
-/

/-- A transaction's row is COMPLETED, with its amount and time, or has neither. -/
def Transaction.Amounts (row : Transaction) (set : Bool) : Prop :=
  row.totalAmountCents.isSome = set ∧ row.completedAt.isSome = set

/-- The coupling of a transaction's row and its completion record. -/
def Coupled : Option Transaction → Option Completion → Prop
  | none, none => True
  | none, some _ => False
  | some row, none =>
      (row.status = .opened ∨ row.status = .cancelled) ∧ row.Amounts false
  | some row, some record =>
      match record.state with
      | .completed => row.status = .completed ∧ row.Amounts true
      | .aborted => (row.status = .opened ∨ row.status = .cancelled) ∧ row.Amounts false
      | .reserving => row.status = .completing ∧ row.Amounts false
      | .reserved => row.status = .completing ∧ row.Amounts false
      | .compensating => row.status = .completing ∧ row.Amounts false

def nextEpoch : Option Completion → Nat
  | none => 1
  | some record => record.epoch + 1

/-- What one local transaction does to the two rows of one transaction, whose row
is `free` or locked by a take-over in progress. -/
inductive Moves : Bool → Option Transaction → Option Completion →
    Option Transaction → Option Completion → Prop where
  | same {free : Bool} (row : Option Transaction) (record : Option Completion) :
      Moves free row record row record
  | inserted {free : Bool} (row : Transaction) (record : Option Completion) (isOpen : row.status = .opened)
      (unset : row.Amounts false) : Moves free none record (some row) record
  | scanned {free : Bool} (row after : Transaction) (record : Option Completion)
      (wasOpen : row.status = .opened) (isOpen : after.status = .opened)
      (amounts : after.totalAmountCents = row.totalAmountCents)
      (time : after.completedAt = row.completedAt) :
      Moves free (some row) record (some after) record
  | cancelled {free : Bool} (row : Transaction) (record : Option Completion)
      (wasOpen : row.status = .opened) :
      Moves free (some row) record (some { row with status := .cancelled }) record
  | started {free : Bool} (row : Transaction) (record : Option Completion) (after : Completion)
      (wasOpen : row.status = .opened) (epoch : after.epoch = nextEpoch record)
      (state : after.state = .reserving) :
      Moves free (some row) record (some { row with status := .completing }) (some after)
  | driven {free : Bool} (row : Option Transaction) (record after : Completion)
      (live : record.state.terminal = false) (stillLive : after.state.terminal = false)
      (epoch : after.epoch = record.epoch) (total : after.totalCents = record.totalCents) :
      Moves free row (some record) row (some after)
  | finalized (row : Transaction) (record : Option Completion) (totalCents : Nat) (now : Time)
      (wasCompleting : row.status = .completing) :
      Moves true (some row) record
        (some { row with
          status := .completed
          completedAt := some now
          totalAmountCents := some totalCents })
        (record.map (fun record => { record with state := .completed, updatedAt := now }))
  | reopened (row : Transaction) (record : Option Completion) (now : Time)
      (wasCompleting : row.status = .completing) :
      Moves true (some row) record (some { row with status := .opened })
        (record.map (fun record =>
          if record.state.terminal then record
          else { record with state := .aborted, updatedAt := now }))

/-- A take-over in progress has read a live record of the current epoch. -/
def Reads (row : Option Transaction) (record read : Option Completion) : Prop :=
  ∀ seen, read = some seen → seen.state.terminal = false ∧
    (∃ row', row = some row' ∧ row'.status = .completing) ∧
    ∃ record', record = some record' ∧ record'.epoch = seen.epoch ∧
      record'.totalCents = seen.totalCents

structure Coherent (server : Server) : Prop where
  coupled : ∀ tx, Coupled (server.db.transactions.lookup tx) (server.db.completions.lookup tx)
  reads : ∀ tx, Reads (server.db.transactions.lookup tx) (server.db.completions.lookup tx)
    (server.reading tx)

section Statements

variable {free : Bool} (db : Database) (tx other : TxId) (now : Time)

theorem moves_insertTransaction (absent : db.transactions.lookup tx = none) :
    Moves free (db.transactions.lookup other) (db.completions.lookup other)
      ((insertTransaction db tx now).transactions.lookup other)
      ((insertTransaction db tx now).completions.lookup other) := by
  by_cases here : other = tx
  · subst here
    simp only [insertTransaction, Table.lookup_put, ↓reduceIte, absent]
    exact .inserted _ _ rfl ⟨rfl, rfl⟩
  · simp only [insertTransaction, Table.lookup_put, here, ↓reduceIte]
    exact .same _ _

theorem moves_scanItem (sku : Sku) (priceCents : Nat) :
    Moves free (db.transactions.lookup other) (db.completions.lookup other)
      ((scanItem db tx sku priceCents).transactions.lookup other)
      ((scanItem db tx sku priceCents).completions.lookup other) := by
  unfold scanItem
  split
  · exact .same _ _
  · rename_i row found
    split
    · rename_i isOpen
      by_cases here : other = tx
      · subst here
        simp only [Table.lookup_put, ↓reduceIte, found]
        exact .scanned row _ _ isOpen isOpen rfl rfl
      · simp only [Table.lookup_put, here, ↓reduceIte]
        exact .same _ _
    · exact .same _ _

theorem moves_sweepAbandoned (minutes : Nat) :
    Moves free (db.transactions.lookup other) (db.completions.lookup other)
      ((sweepAbandoned db minutes now).transactions.lookup other)
      ((sweepAbandoned db minutes now).completions.lookup other) := by
  simp only [sweepAbandoned, Table.lookup_mapValues]
  cases found : db.transactions.lookup other with
  | none => exact .same _ _
  | some row =>
      simp only [Option.map_some]
      split
      · rename_i abandoned
        exact .cancelled row _ abandoned.1
      · exact .same _ _

theorem moves_beginCompletion (lease : Nat) {epoch totalCents : Nat} {request : Request}
    {after : Database} (began : beginCompletion db tx lease now =
      .started epoch totalCents request after) :
    Moves free (db.transactions.lookup other) (db.completions.lookup other)
      (after.transactions.lookup other) (after.completions.lookup other) := by
  cases begins began with
  | started found isOpen scanned marks asks =>
      subst marks asks
      by_cases here : other = tx
      · subst here
        simp only [insertOutbox, markCompleting, Table.lookup_alter, Table.lookup_put,
          ↓reduceIte, found, Option.map_some]
        refine .started _ _ _ isOpen ?_ rfl
        cases db.completions.lookup other <;> rfl
      · simp only [insertOutbox, markCompleting, Table.lookup_alter, Table.lookup_put, here,
          ↓reduceIte]
        exact .same _ _

theorem moves_setCompletionState {state : CompletionState} (error : Option String)
    (live : state.terminal = false) :
    Moves free (db.transactions.lookup other) (db.completions.lookup other)
      ((setCompletionState db tx state error now).transactions.lookup other)
      ((setCompletionState db tx state error now).completions.lookup other) := by
  by_cases here : other = tx
  · subst here
    simp only [setCompletionState, Table.lookup_alter, ↓reduceIte]
    cases found : db.completions.lookup other with
    | none => exact .same _ _
    | some record =>
        simp only [Option.map_some]
        split
        · exact .same _ _
        · rename_i wasLive
          exact .driven _ record _ (by simpa using wasLive) live rfl rfl
  · simp only [setCompletionState, Table.lookup_alter, here, ↓reduceIte]
    exact .same _ _

theorem moves_finalize (totalCents : Nat) (unlocked : other = tx → free = true) :
    Moves free (db.transactions.lookup other) (db.completions.lookup other)
      ((finalize db tx totalCents now).2.transactions.lookup other)
      ((finalize db tx totalCents now).2.completions.lookup other) := by
  rcases finalize_cases db tx totalCents now with missed | ⟨row, found, isCompleting, done⟩
  · rw [missed]
    exact .same _ _
  · rw [done]
    by_cases here : other = tx
    · subst here
      cases unlocked rfl
      simp only [Table.lookup_put, Table.lookup_alter, ↓reduceIte, found]
      exact .finalized row _ totalCents now isCompleting
    · simp only [Table.lookup_put, Table.lookup_alter, here, ↓reduceIte]
      exact .same _ _

theorem moves_reopen (unlocked : other = tx → free = true) :
    Moves free (db.transactions.lookup other) (db.completions.lookup other)
      ((reopen db tx now).transactions.lookup other)
      ((reopen db tx now).completions.lookup other) := by
  rcases reopen_cases db tx now with missed | ⟨row, found, isCompleting, done⟩
  · rw [missed]
    exact .same _ _
  · rw [done]
    by_cases here : other = tx
    · subst here
      cases unlocked rfl
      simp only [Table.lookup_put, Table.lookup_alter, ↓reduceIte, found]
      exact .reopened row _ now isCompleting
    · simp only [Table.lookup_put, Table.lookup_alter, here, ↓reduceIte]
      exact .same _ _

theorem lookup_claims {claimed : List TxId} (nodup : claimed.Nodup) :
    (claimed.foldl (fun db tx => claim db tx now) db).completions.lookup other =
      if other ∈ claimed then
        (db.completions.lookup other).map (fun record =>
          { record with attempts := record.attempts + 1, updatedAt := now })
      else db.completions.lookup other := by
  induction claimed generalizing db with
  | nil => simp
  | cons first claimed ih =>
      rw [List.nodup_cons] at nodup
      rw [List.foldl_cons, ih _ nodup.2]
      by_cases here : other = first
      · subst here
        simp [nodup.1, claim]
      · simp [here, claim]

theorem claimStuck_eq {claimed : List TxId} {lease limit : Nat} {rows : List StuckRow}
    {after : Database} (done : claimStuck db claimed lease limit now = some (rows, after)) :
    claimed.Nodup ∧
      (∀ tx ∈ claimed, ∃ record, db.completions.lookup tx = some record ∧
        record.state.terminal = false) ∧
      rows = claimed.filterMap (fun tx => (db.completions.lookup tx).map (fun row =>
        ⟨tx, row.epoch, row.state, row.totalCents⟩)) ∧
      after = claimed.foldl (fun db tx => claim db tx now) db := by
  unfold claimStuck at done
  split at done
  · rename_i valid
    cases done
    refine ⟨valid.1, ?_, rfl, rfl⟩
    intro tx member
    obtain ⟨record, found, stuck⟩ := (Option.any_eq_true _ _).mp (valid.2.2 tx member)
    simp only [Completion.stuck, Bool.and_eq_true, Bool.not_eq_true'] at stuck
    exact ⟨record, found, stuck.1⟩
  · contradiction

theorem claimStuck_rest {claimed : List TxId} {lease limit : Nat} {rows : List StuckRow}
    {after : Database} (done : claimStuck db claimed lease limit now = some (rows, after)) :
    after.items = db.items ∧ after.outbox = db.outbox := by
  obtain ⟨_, _, _, rfl⟩ := claimStuck_eq db now done
  exact (claims_rest db claimed now).2

theorem moves_claimStuck {claimed : List TxId} {lease limit : Nat} {rows : List StuckRow}
    {after : Database} (done : claimStuck db claimed lease limit now = some (rows, after)) :
    Moves free (db.transactions.lookup other) (db.completions.lookup other)
      (after.transactions.lookup other) (after.completions.lookup other) := by
  obtain ⟨nodup, live, _, rfl⟩ := claimStuck_eq db now done
  rw [(claims_rest db claimed now).1, lookup_claims db other now nodup]
  split
  · rename_i member
    obtain ⟨record, found, wasLive⟩ := live other member
    rw [found, Option.map_some]
    exact .driven _ record _ wasLive wasLive rfl rfl
  · exact .same _ _

end Statements

/-- Inversion of `step` for the rows of one transaction.  What a take-over writes
back is the live state it read. -/
theorem step_moves {server after : Server} {action : Action} (coherent : Coherent server)
    (taken : step server action = some after) (tx : TxId) :
    Moves (server.reading tx).isNone (server.db.transactions.lookup tx) (server.db.completions.lookup tx)
      (after.db.transactions.lookup tx) (after.db.completions.lookup tx) := by
  cases step_takes taken with
  | inserts absent => exact moves_insertTransaction server.db _ tx _ absent
  | scans => exact moves_scanItem server.db _ tx _ _
  | sweeps => exact moves_sweepAbandoned server.db tx _ _
  | refuses free began => exact .same _ _
  | owes free began => exact .same _ _
  | starts free began => exact moves_beginCompletion server.db _ tx _ _ began
  | reads free began => exact .same _ _
  | takesOver reading =>
      exact moves_setCompletionState server.db _ tx _ none (coherent.reads _ _ reading).1
  | drops reading => exact .same _ _
  | reserves => exact moves_setCompletionState server.db _ tx _ none rfl
  | compensates => exact moves_setCompletionState server.db _ tx _ _ rfl
  | finalizes free =>
      exact moves_finalize server.db _ tx _ _ (fun here => by rw [here, free]; rfl)
  | reopens free => exact moves_reopen server.db _ tx _ (fun here => by rw [here, free]; rfl)
  | claims done => exact moves_claimStuck server.db tx _ done

theorem Coupled.of_opened {row : Transaction} {record : Option Completion}
    (coupled : Coupled (some row) record) (isOpen : row.status = .opened) :
    row.Amounts false ∧ ∀ live, record = some live → live.state = .aborted := by
  cases record with
  | none => exact ⟨coupled.2, fun _ found => by contradiction⟩
  | some record =>
      simp only [Coupled] at coupled
      cases state : record.state <;> simp [state, isOpen] at coupled
      exact ⟨coupled, fun live found => by rw [← Option.some.inj found, state]⟩

theorem Coupled.of_completing {row : Transaction} {record : Option Completion}
    (coupled : Coupled (some row) record) (isCompleting : row.status = .completing) :
    row.Amounts false ∧ ∃ live, record = some live ∧ live.state.terminal = false := by
  cases record with
  | none => simp [Coupled, isCompleting] at coupled
  | some record =>
      simp only [Coupled] at coupled
      cases state : record.state <;> simp [state, isCompleting] at coupled <;>
        exact ⟨coupled, record, rfl, by rw [state]; rfl⟩

theorem Coupled.of_live {row : Option Transaction} {record : Completion}
    (coupled : Coupled row (some record)) (live : record.state.terminal = false) :
    ∃ transaction, row = some transaction ∧ transaction.status = .completing ∧
      transaction.Amounts false := by
  cases row with
  | none => exact coupled.elim
  | some row =>
      simp only [Coupled] at coupled
      cases state : record.state with
      | completed => simp [state, CompletionState.terminal] at live
      | aborted => simp [state, CompletionState.terminal] at live
      | reserving => exact ⟨row, rfl, by simpa [state] using coupled⟩
      | reserved => exact ⟨row, rfl, by simpa [state] using coupled⟩
      | compensating => exact ⟨row, rfl, by simpa [state] using coupled⟩

theorem coupled_live {row : Transaction} {record : Completion}
    (isCompleting : row.status = .completing) (unset : row.Amounts false)
    (live : record.state.terminal = false) : Coupled (some row) (some record) := by
  simp only [Coupled]
  cases state : record.state with
  | completed => simp [state, CompletionState.terminal] at live
  | aborted => simp [state, CompletionState.terminal] at live
  | reserving => exact ⟨isCompleting, unset⟩
  | reserved => exact ⟨isCompleting, unset⟩
  | compensating => exact ⟨isCompleting, unset⟩

theorem coupled_closed {row : Transaction} {record : Option Completion}
    (isClosed : row.status = .opened ∨ row.status = .cancelled) (unset : row.Amounts false)
    (aborted : ∀ live, record = some live → live.state = .aborted) :
    Coupled (some row) record := by
  cases record with
  | none => exact ⟨isClosed, unset⟩
  | some record =>
      simp only [Coupled, aborted record rfl]
      exact ⟨isClosed, unset⟩

/-- While no attempt is live, the transaction is not COMPLETING. -/
theorem Coupled.idle {row : Option Transaction} {record : Option Completion}
    (coupled : Coupled row record)
    (closed : ∀ old, record = some old → old.state.terminal = true) (transaction : Transaction)
    (found : row = some transaction) : transaction.status ≠ .completing := by
  intro isCompleting
  subst found
  obtain ⟨_, old, same, live⟩ := coupled.of_completing isCompleting
  rw [closed old same] at live
  contradiction

/-- Step lemma: every move keeps the coupling. -/
theorem Coupled.moves {free : Bool} {row after : Option Transaction}
    {record recordAfter : Option Completion} (coupled : Coupled row record)
    (moves : Moves free row record after recordAfter) :
    Coupled after recordAfter := by
  cases moves with
  | same => exact coupled
  | inserted row record isOpen unset =>
      cases record with
      | none => exact ⟨.inl isOpen, unset⟩
      | some record => exact coupled.elim
  | scanned row after record wasOpen isOpen amounts time =>
      obtain ⟨unset, aborted⟩ := coupled.of_opened wasOpen
      refine coupled_closed (.inl isOpen) ?_ aborted
      simpa only [Transaction.Amounts, amounts, time] using unset
  | cancelled row record wasOpen =>
      obtain ⟨unset, aborted⟩ := coupled.of_opened wasOpen
      exact coupled_closed (.inr rfl) unset aborted
  | started row record after wasOpen epoch state =>
      obtain ⟨unset, _⟩ := coupled.of_opened wasOpen
      exact coupled_live rfl unset (by rw [state]; rfl)
  | driven row record after live stillLive epoch total =>
      obtain ⟨transaction, rfl, isCompleting, unset⟩ := coupled.of_live live
      exact coupled_live isCompleting unset stillLive
  | finalized row record totalCents now wasCompleting =>
      obtain ⟨_, live, rfl, _⟩ := coupled.of_completing wasCompleting
      exact ⟨rfl, rfl, rfl⟩
  | reopened row record now wasCompleting =>
      obtain ⟨unset, live, rfl, wasLive⟩ := coupled.of_completing wasCompleting
      refine coupled_closed (.inl rfl) unset ?_
      intro closed found
      simp only [wasLive, Option.map_some, Bool.false_eq_true, ↓reduceIte, Option.some.injEq]
        at found
      rw [← found]

theorem Reads.moves {row after : Option Transaction} {record recordAfter read : Option Completion}
    (reads : Reads row record read)
    (moves : Moves read.isNone row record after recordAfter) : Reads after recordAfter read := by
  intro seen found
  obtain ⟨live, ⟨row', isRow, completing⟩, old, isOld, epoch, total⟩ := reads seen found
  subst found
  subst isRow
  subst isOld
  cases moves with
  | same => exact ⟨live, ⟨row', rfl, completing⟩, old, rfl, epoch, total⟩
  | scanned _ after _ wasOpen => simp [wasOpen] at completing
  | cancelled _ _ wasOpen => simp [wasOpen] at completing
  | started _ _ _ wasOpen => simp [wasOpen] at completing
  | driven _ _ new _ _ sameEpoch sameTotal =>
      exact ⟨live, ⟨row', rfl, completing⟩, new, rfl, sameEpoch.trans epoch, sameTotal.trans total⟩

theorem reads_takingOver {db : Database} {tx : TxId} {lease : Nat} {now : Time}
    {record : Completion} (coupled : Coupled (db.transactions.lookup tx) (db.completions.lookup tx))
    (began : beginCompletion db tx lease now = .takingOver record) :
    Reads (db.transactions.lookup tx) (db.completions.lookup tx) (some record) := by
  cases begins began with
  | takingOver found isCompleting read notOwing expired =>
      rw [found, read] at coupled
      obtain ⟨_, live, isLive, wasLive⟩ := coupled.of_completing isCompleting
      cases isLive
      intro seen same
      cases same
      exact ⟨wasLive, ⟨_, found, isCompleting⟩, _, read, rfl, rfl⟩

/-- The take-overs in progress before a step that are still in progress after it,
or that it starts. -/
theorem step_reading {server after : Server} {action : Action}
    (taken : step server action = some after) (tx : TxId) :
    after.reading tx = server.reading tx ∨ after.reading tx = none ∨
      ∃ lease now record, beginCompletion server.db tx lease now = .takingOver record ∧
        after.db = server.db ∧ after.reading tx = some record := by
  cases step_takes taken with
  | @reads id lease now record free began =>
      by_cases here : tx = id
      · subst here
        exact .inr (.inr ⟨lease, now, record, began, rfl, by simp⟩)
      · exact .inl (by simp [here])
  | @takesOver id _ _ reading =>
      by_cases here : tx = id
      · subst here
        exact .inr (.inl (by simp))
      · exact .inl (by simp [here])
  | @drops id _ reading =>
      by_cases here : tx = id
      · subst here
        exact .inr (.inl (by simp))
      · exact .inl (by simp [here])
  | inserts absent => exact .inl rfl
  | scans => exact .inl rfl
  | sweeps => exact .inl rfl
  | refuses free began => exact .inl rfl
  | owes free began => exact .inl rfl
  | starts free began => exact .inl rfl
  | reserves => exact .inl rfl
  | compensates => exact .inl rfl
  | finalizes free => exact .inl rfl
  | reopens free => exact .inl rfl
  | claims done => exact .inl rfl

/-- Step lemma: one local transaction keeps the rows coherent. -/
theorem Coherent.step {server after : Server} {action : Action} (coherent : Coherent server)
    (taken : Checkout.step server action = some after) : Coherent after := by
  refine ⟨fun tx => (coherent.coupled tx).moves (step_moves coherent taken tx), fun tx => ?_⟩
  rcases step_reading taken tx with same | none | ⟨lease, now, record, began, sameDb, started⟩
  · rw [same]
    exact (coherent.reads tx).moves (step_moves coherent taken tx)
  · rw [none]
    intro seen found
    contradiction
  · rw [sameDb, started]
    exact reads_takingOver (coherent.coupled tx) began

theorem Coherent.empty : Coherent emptyServer where
  coupled _ := trivial
  reads _ _ found := by contradiction

def statusOf (db : Database) (tx : TxId) : Option TxStatus :=
  (db.transactions.lookup tx).map Transaction.status

def stateOf (db : Database) (tx : TxId) : Option CompletionState :=
  (db.completions.lookup tx).map Completion.state

/-- A transaction's epoch; 0 before its first attempt. -/
def epochOf (db : Database) (tx : TxId) : Nat :=
  ((db.completions.lookup tx).map Completion.epoch).getD 0

/-- The coupling of one transaction, as its two rows show it. -/
structure RowsCoupled (db : Database) (tx : TxId) : Prop where
  completing : statusOf db tx = some .completing ↔
    stateOf db tx = some .reserving ∨ stateOf db tx = some .reserved ∨
      stateOf db tx = some .compensating
  completed : statusOf db tx = some .completed ↔ stateOf db tx = some .completed
  closed : statusOf db tx = some .opened ∨ statusOf db tx = some .cancelled →
    stateOf db tx = none ∨ stateOf db tx = some .aborted
  amounts : ∀ row, db.transactions.lookup tx = some row →
    (row.totalAmountCents.isSome ↔ row.status = .completed) ∧
      (row.completedAt.isSome ↔ row.status = .completed)

/-- What a step may do to one transaction: COMPLETED and CANCELLED are kept, and
the epoch grows by one where the transaction goes from OPEN to COMPLETING and
nowhere else. -/
structure RowsAdvance (before after : Database) (tx : TxId) : Prop where
  completed : statusOf before tx = some .completed → statusOf after tx = some .completed
  cancelled : statusOf before tx = some .cancelled → statusOf after tx = some .cancelled
  started : statusOf before tx = some .opened → statusOf after tx = some .completing →
    epochOf after tx = epochOf before tx + 1
  otherwise : ¬ (statusOf before tx = some .opened ∧ statusOf after tx = some .completing) →
    epochOf after tx = epochOf before tx

theorem Coupled.rows {db : Database} {tx : TxId}
    (coupled : Coupled (db.transactions.lookup tx) (db.completions.lookup tx)) :
    RowsCoupled db tx := by
  cases row : db.transactions.lookup tx with
  | none =>
      cases record : db.completions.lookup tx with
      | none => constructor <;> simp [statusOf, stateOf, row, record]
      | some record' => simp [Coupled, row, record] at coupled
  | some row' =>
      cases record : db.completions.lookup tx with
      | none =>
          simp only [Coupled, row, record, Transaction.Amounts] at coupled
          obtain ⟨isOpen | isCancelled, total, time⟩ := coupled
          · constructor <;> simp [statusOf, stateOf, row, record, isOpen, total, time]
          · constructor <;> simp [statusOf, stateOf, row, record, isCancelled, total, time]
      | some record' =>
          simp only [Coupled, row, record, Transaction.Amounts] at coupled
          cases state : record'.state with
          | aborted =>
              rw [state] at coupled
              obtain ⟨isOpen | isCancelled, total, time⟩ := coupled
              · constructor <;> simp [statusOf, stateOf, row, record, state, isOpen, total, time]
              · constructor <;>
                  simp [statusOf, stateOf, row, record, state, isCancelled, total, time]
          | completed =>
              rw [state] at coupled
              obtain ⟨status, total, time⟩ := coupled
              constructor <;> simp [statusOf, stateOf, row, record, state, status, total, time]
          | reserving =>
              rw [state] at coupled
              obtain ⟨status, total, time⟩ := coupled
              constructor <;> simp [statusOf, stateOf, row, record, state, status, total, time]
          | reserved =>
              rw [state] at coupled
              obtain ⟨status, total, time⟩ := coupled
              constructor <;> simp [statusOf, stateOf, row, record, state, status, total, time]
          | compensating =>
              rw [state] at coupled
              obtain ⟨status, total, time⟩ := coupled
              constructor <;> simp [statusOf, stateOf, row, record, state, status, total, time]

theorem Moves.advance {free : Bool} {before after : Database} {tx : TxId}
    (coupled : Coupled (before.transactions.lookup tx) (before.completions.lookup tx))
    (moves : Moves free (before.transactions.lookup tx) (before.completions.lookup tx)
      (after.transactions.lookup tx) (after.completions.lookup tx)) :
    RowsAdvance before after tx := by
  generalize rowBefore : before.transactions.lookup tx = row at moves
  generalize recordBefore : before.completions.lookup tx = record at moves
  generalize rowAfter : after.transactions.lookup tx = row' at moves
  generalize recordAfter : after.completions.lookup tx = record' at moves
  rw [rowBefore, recordBefore] at coupled
  cases moves with
  | same =>
      constructor <;> simp_all [statusOf, epochOf]
  | inserted row record isOpen unset =>
      constructor <;> simp_all [statusOf, epochOf]
  | scanned row after record wasOpen isOpen amounts time =>
      constructor <;> simp_all [statusOf, epochOf]
  | cancelled row record wasOpen =>
      constructor <;> simp_all [statusOf, epochOf]
  | started row record after wasOpen epoch state =>
      have grows : after.epoch = (record.map Completion.epoch).getD 0 + 1 := by
        rw [epoch]
        cases record <;> simp [nextEpoch]
      constructor <;> simp_all [statusOf, epochOf]
  | driven row record after live stillLive epoch total =>
      constructor <;> simp_all [statusOf, epochOf]
  | finalized row record totalCents now wasCompleting =>
      obtain ⟨_, live, rfl, _⟩ := coupled.of_completing wasCompleting
      constructor <;> simp_all [statusOf, epochOf]
  | reopened row record now wasCompleting =>
      obtain ⟨_, live, rfl, wasLive⟩ := coupled.of_completing wasCompleting
      constructor <;> simp_all [statusOf, epochOf]

theorem coherent_of_run {actions : List Action} {server : Server}
    (run : Run step Any emptyServer actions server) : Coherent server :=
  run.invariant Coherent.empty (fun _ _ _ coherent _ taken => coherent.step taken)

/-- Transaction and completion rows stay coupled: whatever local transactions run
in whatever order, each transaction's two rows agree after every step, and every
step advances them as it may. -/
theorem rows_stay_coupled (actions : List Action) (server : Server)
    (run : Run step Any emptyServer actions server) :
    (∀ tx, RowsCoupled server.db tx) ∧
      ∀ action after, step server action = some after →
        ∀ tx, RowsAdvance server.db after.db tx :=
  have coherent := coherent_of_run run
  ⟨fun tx => (coherent.coupled tx).rows,
    fun _ _ taken tx => Moves.advance (coherent.coupled tx) (step_moves coherent taken tx)⟩

def oneSale : List Action :=
  [.insertTransaction 1 0, .scanItem 1 "SKU-000001" 250, .beginCompletion 1 10 5,
    .setReserved 1 6, .finalize 1 250 7]

theorem oneSale_runs : (oneSale.foldlM step emptyServer).isSome = true := by
  decide

theorem rows_stay_coupled_oneSale :
    RowsCoupled ((oneSale.foldlM step emptyServer).get oneSale_runs).db 1 :=
  (rows_stay_coupled oneSale _ (.of_foldlM (Option.some_get oneSale_runs).symm)).1 1

end SelfCheckout.Checkout
