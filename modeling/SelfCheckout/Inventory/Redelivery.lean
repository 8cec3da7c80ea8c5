import SelfCheckout.Inventory.Reserve

namespace SelfCheckout.Inventory

open SelfCheckout.Data

/-! # Delivery of a request, once and again

The adjustment record is what makes a second delivery harmless.  `Settled` says
what a delivered request leaves behind; later deliveries keep it, and a settled
request changes nothing but the outbox.
-/

/-- Everything in the database but the outcomes queued for publication. -/
structure Ledger where
  stock : Table Sku StockRow
  adjustments : Table Attempt Adjustment
  alerts : List LowStockAlert

def Database.ledger (db : Database) : Ledger :=
  { stock := db.stock, adjustments := db.adjustments, alerts := db.alerts }

@[simp] theorem ledger_insertOutbox (db : Database) (outcome : Outcome) :
    (insertOutbox db outcome).ledger = db.ledger := rfl

/-- The answer an existing record gives to a reservation request. -/
def Adjustment.answer : Adjustment → ReserveResult
  | .applied _ => .reserved true
  | .rejected short => .short short
  | .released _ => .alreadyReleased

theorem reserve_cases {db after : Database} {attempt : Attempt} {lines : List (Sku × Nat)}
    {threshold : Int} {result : ReserveResult}
    (done : reserve db attempt lines threshold = some (result, after)) :
    (∃ row, db.adjustments.lookup attempt = some row ∧ result = row.answer ∧ after = db) ∨
    (db.adjustments.lookup attempt = none ∧
      ok (normalize lines) (lockedRows db.stock (normalize lines)) none = true ∧
      result = .reserved false ∧ after = applyReserve db attempt (normalize lines) threshold) ∨
    (db.adjustments.lookup attempt = none ∧
      ok (normalize lines) (lockedRows db.stock (normalize lines)) none = false ∧
      result = .short (shortSkus (normalize lines) (lockedRows db.stock (normalize lines))) ∧
      after = recordRejected db attempt
        (shortSkus (normalize lines) (lockedRows db.stock (normalize lines)))) := by
  simp only [reserve] at done
  split at done
  · cases record : db.adjustments.lookup attempt with
    | none =>
        simp only [record, Option.map_none] at done
        cases verdict : ok (normalize lines) (lockedRows db.stock (normalize lines)) none with
        | true =>
            simp only [verdict, ↓reduceIte, Option.some.injEq, Prod.mk.injEq] at done
            exact .inr (.inl ⟨rfl, rfl, done.1.symm, done.2.symm⟩)
        | false =>
            simp only [verdict, Bool.false_eq_true, ↓reduceIte, Option.some.injEq,
              Prod.mk.injEq] at done
            exact .inr (.inr ⟨rfl, rfl, done.1.symm, done.2.symm⟩)
    | some row =>
        refine .inl ⟨row, rfl, ?_⟩
        cases row <;>
          simp only [record, Option.map_some, Adjustment.state, recorded, Option.some.injEq,
            Prod.mk.injEq] at done <;>
          exact ⟨done.1.symm, done.2.symm⟩
  · contradiction

theorem release_cases {db after : Database} {attempt : Attempt} {result : Released}
    (done : release db attempt = some (result, after)) :
    (db.adjustments.lookup attempt = none ∧ result = ⟨0, false⟩ ∧
      after = { db with adjustments := db.adjustments.put attempt (.released (.taken [])) }) ∨
    (∃ lines, db.adjustments.lookup attempt = some (.released lines) ∧ result = ⟨0, true⟩ ∧
      after = db) ∨
    (∃ short, db.adjustments.lookup attempt = some (.rejected short) ∧ result = ⟨0, false⟩ ∧
      after = { db with adjustments := db.adjustments.put attempt (.released (.short short)) }) ∨
    (∃ lines, db.adjustments.lookup attempt = some (.applied lines) ∧
      result = ⟨((normalize lines).map Prod.snd).sum, false⟩ ∧
      after = applyRelease db attempt lines) := by
  simp only [release] at done
  split at done
  · cases record : db.adjustments.lookup attempt with
    | none =>
        simp only [record, Option.some.injEq, Prod.mk.injEq] at done
        exact .inl ⟨rfl, done.1.symm, done.2.symm⟩
    | some row =>
        cases row with
        | released lines =>
            simp only [record, Option.some.injEq, Prod.mk.injEq] at done
            exact .inr (.inl ⟨lines, rfl, done.1.symm, done.2.symm⟩)
        | rejected short =>
            simp only [record, Option.some.injEq, Prod.mk.injEq] at done
            exact .inr (.inr (.inl ⟨short, rfl, done.1.symm, done.2.symm⟩))
        | applied lines =>
            simp only [record, Option.some.injEq, Prod.mk.injEq] at done
            exact .inr (.inr (.inr ⟨lines, rfl, done.1.symm, done.2.symm⟩))
  · contradiction

/-- A handler queues one outcome and otherwise does what its function does. -/
theorem handle_cases {db after : Database} {threshold : Int} {request : Request}
    {outcome : Outcome} (done : handle db threshold request = some (outcome, after)) :
    (∃ attempt lines result inner, request = .stockReservationRequested attempt lines ∧
      reserve db attempt lines threshold = some (result, inner) ∧
      outcome = result.outcome attempt ∧ after = insertOutbox inner outcome) ∨
    (∃ attempt result inner, request = .stockReleaseRequested attempt ∧
      release db attempt = some (result, inner) ∧
      outcome = result.outcome attempt ∧ after = insertOutbox inner outcome) := by
  cases request with
  | stockReservationRequested attempt lines =>
      simp only [handle, handleReservation, Option.map_eq_some_iff, Prod.mk.injEq] at done
      obtain ⟨⟨result, inner⟩, ran, same, queued⟩ := done
      subst same
      exact .inl ⟨attempt, lines, result, inner, rfl, ran, rfl, queued.symm⟩
  | stockReleaseRequested attempt =>
      simp only [handle, handleRelease, Option.map_eq_some_iff, Prod.mk.injEq] at done
      obtain ⟨⟨result, inner⟩, ran, same, queued⟩ := done
      subst same
      exact .inr ⟨attempt, result, inner, rfl, ran, rfl, queued.symm⟩

theorem handle_outbox {db after : Database} {threshold : Int} {request : Request}
    {outcome : Outcome} (done : handle db threshold request = some (outcome, after)) :
    after.outbox = db.outbox ++ [outcome] := by
  rcases handle_cases done with
    ⟨attempt, lines, result, inner, rfl, ran, rfl, rfl⟩ | ⟨attempt, result, inner, rfl, ran, rfl, rfl⟩
  · rcases reserve_cases ran with ⟨_, _, _, rfl⟩ | ⟨_, _, _, rfl⟩ | ⟨_, _, _, rfl⟩ <;> rfl
  · rcases release_cases ran with ⟨_, _, rfl⟩ | ⟨_, _, _, rfl⟩ | ⟨_, _, _, rfl⟩ | ⟨_, _, _, rfl⟩ <;>
      rfl

/-- The arrows of an attempt's record: none to APPLIED to RELEASED, none to
REJECTED to RELEASED, none to RELEASED; a release keeps the lines it found. -/
inductive AdjustmentArrow : Option Adjustment → Option Adjustment → Prop where
  | apply (lines : List (Sku × Nat)) : AdjustmentArrow none (some (.applied lines))
  | reject (short : List Sku) : AdjustmentArrow none (some (.rejected short))
  | releaseFirst : AdjustmentArrow none (some (.released (.taken [])))
  | releaseApplied (lines : List (Sku × Nat)) :
      AdjustmentArrow (some (.applied lines)) (some (.released (.taken lines)))
  | releaseRejected (short : List Sku) :
      AdjustmentArrow (some (.rejected short)) (some (.released (.short short)))

/-- A record is untouched, or follows an arrow. -/
def Adjustment.Follows (before after : Option Adjustment) : Prop :=
  after = before ∨ AdjustmentArrow before after

theorem follows_put {adjustments : Table Attempt Adjustment} {attempt : Attempt}
    {row : Adjustment} (arrow : AdjustmentArrow (adjustments.lookup attempt) (some row))
    (other : Attempt) :
    Adjustment.Follows (adjustments.lookup other) ((adjustments.put attempt row).lookup other) := by
  by_cases same : other = attempt
  · subst same
    exact .inr (by simpa using arrow)
  · exact .inl (Table.lookup_put_of_ne _ _ same)

theorem reserve_follows {db after : Database} {attempt : Attempt} {lines : List (Sku × Nat)}
    {threshold : Int} {result : ReserveResult}
    (done : reserve db attempt lines threshold = some (result, after)) (other : Attempt) :
    Adjustment.Follows (db.adjustments.lookup other) (after.adjustments.lookup other) := by
  rcases reserve_cases done with ⟨_, _, _, rfl⟩ | ⟨fresh, _, _, rfl⟩ | ⟨fresh, _, _, rfl⟩
  · exact .inl rfl
  · exact follows_put (by rw [fresh]; exact .apply _) other
  · exact follows_put (by rw [fresh]; exact .reject _) other

theorem release_follows {db after : Database} {attempt : Attempt} {result : Released}
    (done : release db attempt = some (result, after)) (other : Attempt) :
    Adjustment.Follows (db.adjustments.lookup other) (after.adjustments.lookup other) := by
  rcases release_cases done with
    ⟨fresh, _, rfl⟩ | ⟨_, _, _, rfl⟩ | ⟨_, found, _, rfl⟩ | ⟨_, found, _, rfl⟩
  · exact follows_put (by rw [fresh]; exact .releaseFirst) other
  · exact .inl rfl
  · exact follows_put (by rw [found]; exact .releaseRejected _) other
  · exact follows_put (by rw [found]; exact .releaseApplied _) other

theorem handle_follows {db after : Database} {threshold : Int} {request : Request}
    {outcome : Outcome} (done : handle db threshold request = some (outcome, after))
    (other : Attempt) :
    Adjustment.Follows (db.adjustments.lookup other) (after.adjustments.lookup other) := by
  rcases handle_cases done with
    ⟨_, _, _, _, _, ran, _, rfl⟩ | ⟨_, _, _, _, ran, _, rfl⟩
  · exact reserve_follows ran other
  · exact release_follows ran other

theorem handle_other_attempt {db after : Database} {threshold : Int} {request : Request}
    {outcome : Outcome} (done : handle db threshold request = some (outcome, after))
    {other : Attempt} (different : other ≠ request.attempt) :
    after.adjustments.lookup other = db.adjustments.lookup other := by
  rcases handle_cases done with
    ⟨attempt, _, _, _, rfl, ran, _, rfl⟩ | ⟨attempt, _, _, rfl, ran, _, rfl⟩
  · rcases reserve_cases ran with ⟨_, _, _, rfl⟩ | ⟨_, _, _, rfl⟩ | ⟨_, _, _, rfl⟩
    · rfl
    · exact Table.lookup_put_of_ne _ _ different
    · exact Table.lookup_put_of_ne _ _ different
  · rcases release_cases ran with ⟨_, _, rfl⟩ | ⟨_, _, _, rfl⟩ | ⟨_, _, _, rfl⟩ | ⟨_, _, _, rfl⟩
    · exact Table.lookup_put_of_ne _ _ different
    · rfl
    · exact Table.lookup_put_of_ne _ _ different
    · exact Table.lookup_put_of_ne _ _ different

theorem deliver_eq {db after : Database} {threshold : Int} {request : Request}
    {outcome : Outcome} (done : handle db threshold request = some (outcome, after)) :
    deliver threshold db request = after := by
  simp [deliver, done]

theorem deliver_of_raise {db : Database} {threshold : Int} {request : Request}
    (raised : handle db threshold request = none) : deliver threshold db request = db := by
  simp [deliver, raised]

theorem deliver_follows (threshold : Int) (db : Database) (request : Request) (other : Attempt) :
    Adjustment.Follows (db.adjustments.lookup other)
      ((deliver threshold db request).adjustments.lookup other) := by
  cases done : handle db threshold request with
  | none =>
      rw [deliver_of_raise done]
      exact .inl rfl
  | some pair =>
      rw [deliver_eq done]
      exact handle_follows done other

theorem deliver_other_attempt (threshold : Int) (db : Database) {request : Request}
    {other : Attempt} (different : other ≠ request.attempt) :
    (deliver threshold db request).adjustments.lookup other = db.adjustments.lookup other := by
  cases done : handle db threshold request with
  | none => rw [deliver_of_raise done]
  | some pair =>
      rw [deliver_eq done]
      exact handle_other_attempt done different

theorem deliver_ledger_congr (threshold : Int) {left right : Database} (request : Request)
    (same : left.ledger = right.ledger) :
    (deliver threshold left request).ledger = (deliver threshold right request).ledger := by
  obtain ⟨stock, adjustments, alerts, outbox⟩ := left
  obtain ⟨stock', adjustments', alerts', outbox'⟩ := right
  simp only [Database.ledger, Ledger.mk.injEq] at same
  obtain ⟨rfl, rfl, rfl⟩ := same
  cases request with
  | stockReservationRequested attempt lines =>
      simp only [deliver, handle, handleReservation, reserve, recorded]
      split
      · cases adjustments.lookup attempt with
        | none =>
            simp only [Option.map_none]
            split <;> rfl
        | some row => cases row <;> rfl
      · rfl
  | stockReleaseRequested attempt =>
      simp only [deliver, handle, handleRelease, release]
      split
      · cases adjustments.lookup attempt with
        | none => rfl
        | some row => cases row <;> rfl
      · rfl

/-- A request that cannot change the ledger any more: it raises, or the record
it would make is there. -/
def Settled (db : Database) : Request → Prop
  | .stockReservationRequested attempt lines =>
      bindable attempt (normalize lines) = true → ∃ row, db.adjustments.lookup attempt = some row
  | .stockReleaseRequested attempt =>
      bindable attempt [] = true → ∃ lines, db.adjustments.lookup attempt = some (.released lines)

theorem Settled.of_deliver (threshold : Int) (db : Database) (request : Request) :
    Settled (deliver threshold db request) request := by
  cases request with
  | stockReservationRequested attempt lines =>
      intro bound
      cases record : db.adjustments.lookup attempt with
      | none =>
          cases verdict : ok (normalize lines) (lockedRows db.stock (normalize lines)) none <;>
            simp [deliver, handle, handleReservation, reserve, bound, record, verdict,
              insertOutbox, applyReserve, recordRejected]
      | some row =>
          have kept : (deliver threshold db (.stockReservationRequested attempt lines)).adjustments =
              db.adjustments := by
            cases row <;>
              simp [deliver, handle, handleReservation, reserve, recorded, bound, record,
                Adjustment.state, insertOutbox]
          exact ⟨row, by rw [kept]; exact record⟩
  | stockReleaseRequested attempt =>
      intro bound
      cases record : db.adjustments.lookup attempt with
      | none => simp [deliver, handle, handleRelease, release, bound, record, insertOutbox]
      | some row =>
          cases row <;>
            simp [deliver, handle, handleRelease, release, bound, record, insertOutbox,
              applyRelease]

theorem Settled.deliver {db : Database} {settled : Request} (holds : Settled db settled)
    (threshold : Int) (request : Request) :
    Settled (Inventory.deliver threshold db request) settled := by
  cases settled with
  | stockReservationRequested attempt lines =>
      intro bound
      obtain ⟨row, found⟩ := holds bound
      rcases deliver_follows threshold db request attempt with same | arrow
      · exact ⟨row, same.trans found⟩
      · rw [found] at arrow
        cases record : (Inventory.deliver threshold db request).adjustments.lookup attempt with
        | none =>
            rw [record] at arrow
            cases row <;> cases arrow
        | some row => exact ⟨row, rfl⟩
  | stockReleaseRequested attempt =>
      intro bound
      obtain ⟨lines, found⟩ := holds bound
      rcases deliver_follows threshold db request attempt with same | arrow
      · exact ⟨lines, same.trans found⟩
      · rw [found] at arrow
        cases arrow

theorem Settled.deliver_ledger {db : Database} {request : Request} (settled : Settled db request)
    (threshold : Int) : (Inventory.deliver threshold db request).ledger = db.ledger := by
  cases request with
  | stockReservationRequested attempt lines =>
      cases bound : bindable attempt (normalize lines) with
      | false => simp [Inventory.deliver, handle, handleReservation, reserve, bound]
      | true =>
          obtain ⟨row, found⟩ := settled bound
          cases row <;>
            simp [Inventory.deliver, handle, handleReservation, reserve, recorded, bound, found,
              Adjustment.state]
  | stockReleaseRequested attempt =>
      cases bound : bindable attempt [] with
      | false => simp [Inventory.deliver, handle, handleRelease, release, bound]
      | true =>
          obtain ⟨lines, found⟩ := settled bound
          simp [Inventory.deliver, handle, handleRelease, release, bound, found]

/-- `Redelivered seen original repeated`: the deliveries of `original` in their
order, with any number of repeats of requests delivered before (`seen` counts as
delivered) at any later positions. -/
inductive Redelivered : List Request → List Request → List Request → Prop where
  | done (seen : List Request) : Redelivered seen [] []
  | first {seen original repeated : List Request} {request : Request}
      (rest : Redelivered (request :: seen) original repeated) :
      Redelivered seen (request :: original) (request :: repeated)
  | again {seen original repeated : List Request} {request : Request}
      (delivered : request ∈ seen) (rest : Redelivered seen original repeated) :
      Redelivered seen original (request :: repeated)

/-- Run lemma: two databases that agree on the ledger and have settled what was
seen still agree after the deliveries with and without the repeats. -/
theorem Redelivered.ledger_eq {seen original repeated : List Request} (threshold : Int)
    (redelivered : Redelivered seen original repeated) {left right : Database}
    (same : left.ledger = right.ledger) (settled : ∀ request ∈ seen, Settled left request) :
    (repeated.foldl (Inventory.deliver threshold) left).ledger =
      (original.foldl (Inventory.deliver threshold) right).ledger := by
  induction redelivered generalizing left right with
  | done => exact same
  | first rest ih =>
      rename_i seen _ _ request
      apply ih (deliver_ledger_congr threshold request same)
      intro other member
      rcases List.mem_cons.mp member with rfl | member
      · exact Settled.of_deliver threshold left other
      · exact (settled other member).deliver threshold request
  | again delivered rest ih =>
      rename_i request
      apply ih (((settled request delivered).deliver_ledger threshold).trans same)
      intro other member
      exact (settled other member).deliver threshold request

/-- Redelivery changes nothing: whatever repeats of delivered requests are mixed
in, stock, alerts and adjustments end as without them; every record moves along
the arrows of its diagram; and a request touches only its own epoch's record. -/
theorem redelivery_changes_nothing (threshold : Int) (start : Database)
    (original repeated : List Request) (redelivered : Redelivered [] original repeated) :
    (repeated.foldl (deliver threshold) start).ledger =
        (original.foldl (deliver threshold) start).ledger ∧
      (∀ before request after, repeated = before ++ request :: after → ∀ attempt,
        Adjustment.Follows
          ((before.foldl (deliver threshold) start).adjustments.lookup attempt)
          (((before ++ [request]).foldl (deliver threshold) start).adjustments.lookup attempt)) ∧
      (∀ before request after, repeated = before ++ request :: after →
        ∀ attempt, attempt ≠ request.attempt →
          ((before ++ [request]).foldl (deliver threshold) start).adjustments.lookup attempt =
            (before.foldl (deliver threshold) start).adjustments.lookup attempt) := by
  refine ⟨redelivered.ledger_eq threshold rfl (by simp), ?_, ?_⟩
  · intro before request after _ attempt
    rw [List.foldl_append]
    exact deliver_follows threshold _ request attempt
  · intro before request after _ attempt different
    rw [List.foldl_append]
    exact deliver_other_attempt threshold _ different

theorem redelivery_changes_nothing_example :
    ([Request.stockReservationRequested ⟨1, 1⟩ [("SKU-000001", 2)],
        .stockReservationRequested ⟨1, 1⟩ [("SKU-000001", 2)],
        .stockReleaseRequested ⟨1, 1⟩,
        .stockReservationRequested ⟨1, 1⟩ [("SKU-000001", 2)]].foldl (deliver 10)
          (seeded (Table.empty.put "SKU-000001" 5))).ledger =
      ([Request.stockReservationRequested ⟨1, 1⟩ [("SKU-000001", 2)],
        .stockReleaseRequested ⟨1, 1⟩].foldl (deliver 10)
          (seeded (Table.empty.put "SKU-000001" 5))).ledger :=
  (redelivery_changes_nothing 10 (seeded (Table.empty.put "SKU-000001" 5)) _ _
    (.first (.again (by simp) (.first (.again (by simp) (.done _)))))).1

end SelfCheckout.Inventory
