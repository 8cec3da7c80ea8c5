import SelfCheckout.Bus.Handler
import SelfCheckout.Inventory.Redelivery

namespace SelfCheckout.Inventory

open SelfCheckout.Data
open SelfCheckout.Bus (Record Said Consuming GroupKey Partition)

/-! # Inventory consumes its requests

The handlers under the consumer loop.  A record is delivered at least once, and its
transaction commits any number of times; on stock it has the effect of its first, and a
record's first comes after those of the earlier records of its transaction.
-/

/-- Inventory's handler, whatever the events of the records say. -/
def handler (threshold : Int) (said : Record → Said Request) : Bus.Handler Database Request :=
  { said, transact := fun db request => (handle db threshold request).map Prod.snd }

/-- What a record asks of Inventory. -/
def request (said : Record → Said Request) (record : Record) : Option Request :=
  match said record with
  | .work request => some request
  | _ => none

def requests (said : Record → Said Request) (records : List Record) : List Request :=
  records.filterMap (request said)

/-- The records, each only where it comes first and none that was seen. -/
def firsts (seen : List Record) : List Record → List Record
  | [] => []
  | record :: records =>
      if record ∈ seen then firsts seen records else record :: firsts (record :: seen) records

section Requests

variable {threshold : Int} {said : Record → Said Request}

theorem requests_cons (record : Record) (records : List Record) :
    requests said (record :: records) = (request said record).toList ++ requests said records := by
  cases asked : request said record with
  | none => simp [requests, asked]
  | some asks => simp [requests, asked]

/-- Every record after its first is a redelivery. -/
theorem redelivered_firsts (seen records : List Record) :
    Redelivered (requests said seen) (requests said (firsts seen records)) (requests said records) := by
  induction records generalizing seen with
  | nil => exact .done _
  | cons record records ih =>
      cases asked : request said record with
      | none =>
          rw [requests_cons, asked, Option.toList_none, List.nil_append]
          by_cases again : record ∈ seen
          · simpa only [firsts, again, ↓reduceIte] using ih seen
          · have skipped : requests said (record :: seen) = requests said seen := by
              rw [requests_cons, asked]
              rfl
            rw [firsts, if_neg again, requests_cons, asked, ← skipped]
            exact ih (record :: seen)
      | some asks =>
          rw [requests_cons, asked]
          by_cases again : record ∈ seen
          · rw [firsts, if_pos again]
            exact .again (List.mem_filterMap.mpr ⟨record, again, asked⟩) (ih seen)
          · have added : requests said (record :: seen) = asks :: requests said seen := by
              rw [requests_cons, asked]
              rfl
            rw [firsts, if_neg again, requests_cons, asked]
            refine .first ?_
            rw [← added]
            exact ih (record :: seen)

theorem handle_answers {db after : Database} {asks : Request} {outcome : Outcome}
    (done : handle db threshold asks = some (outcome, after)) : outcome.attempt = asks.attempt := by
  rcases handle_cases done with ⟨_, _, result, _, rfl, _, rfl, _⟩ | ⟨_, _, _, rfl, _, rfl, _⟩
  · cases result <;> rfl
  · rfl

/-- What the committed transactions made of the database, and what they answered. -/
theorem performed {records : List Record} {db after : Database}
    (done : records.foldlM (Consuming.perform (handler threshold said)) db = some after) :
    after = (requests said records).foldl (deliver threshold) db ∧
      after.outbox.map Outcome.attempt =
        db.outbox.map Outcome.attempt ++ (requests said records).map Request.attempt := by
  induction records generalizing db with
  | nil =>
      cases done
      simp [requests]
  | cons record records ih =>
      rw [List.foldlM_cons] at done
      obtain ⟨middle, first, rest⟩ := Option.bind_eq_some_iff.mp done
      unfold Consuming.perform at first
      split at first
      · rename_i asks isSaid
        obtain ⟨⟨outcome, _⟩, handled, rfl⟩ := Option.map_eq_some_iff.mp first
        have asked : request said record = some asks := by
          unfold request
          rw [show said record = .work asks from isSaid]
        obtain ⟨effect, answers⟩ := ih rest
        rw [requests_cons, asked]
        constructor
        · rw [effect]
          simp [deliver_eq handled]
        · rw [answers, handle_outbox handled]
          simp [handle_answers handled]
      · contradiction

end Requests

/-- Delivered at least once, a request takes effect once.  Whatever crashes, failures and late
commits there were: stock, alerts and adjustments are what each record's first transaction
made of them, and every transaction queued one answer for its attempt; a transaction commits
only when the earlier records of its key have committed theirs, were of an unknown type or
were dead-lettered; and so have all records below a committed offset. -/
theorem request_takes_effect_once (threshold : Int) (said : Record → Said Request)
    (settings : Bus.Settings) (partitions : Nat) (start : Database) (labels : List Consuming.Label)
    (consuming : Consuming Database)
    (run : Run (Consuming.step (handler threshold said) settings) Any
      (Consuming.initial partitions start) labels consuming) :
    consuming.db.ledger =
        ((requests said (firsts [] consuming.applied)).foldl (deliver threshold) start).ledger ∧
      consuming.db.outbox.map Outcome.attempt =
        start.outbox.map Outcome.attempt ++
          (requests said consuming.applied).map Request.attempt ∧
      (∀ label after record, Consuming.step (handler threshold said) settings consuming label = some after →
        after.applied = consuming.applied ++ [record] →
        ∀ earlier ∈ consuming.loop.bus.log record.partition, earlier.groupKey = record.groupKey →
          earlier.offset < record.offset → consuming.Passed (handler threshold said) earlier) ∧
      ∀ offsets, consuming.loop.bus.committed = some offsets → ∀ partition,
        ∀ record ∈ (consuming.loop.bus.log partition).take (offsets partition),
          consuming.Passed (handler threshold said) record := by
  have accounts := Consuming.Accounts.of_run run
  obtain ⟨effect, answers⟩ := performed accounts.effects
  refine ⟨?_, answers, ?_, ?_⟩
  · rw [effect]
    exact (redelivered_firsts [] consuming.applied).ledger_eq threshold rfl (by simp [requests])
  · intro label after record taken applied
    exact (accounts.in_order taken applied).2
  · intro offsets found partition record below
    exact accounts.committed found below

/-! A reservation whose COMMIT lands after its process died, handled once more by the next
process, and the release behind it. -/

def reserveThenRelease (record : Record) : Said Request :=
  match record.value with
  | "reserve" => .work (.stockReservationRequested ⟨1, 1⟩ [("SKU-000001", 2)])
  | "release" => .work (.stockReleaseRequested ⟨1, 1⟩)
  | "scan" => .ignored
  | _ => .malformed

def lateThenAgain : List Consuming.Label :=
  let key : GroupKey := (0, some "tx-1")
  [.loop (.publish 0 (some "tx-1") "reserve"), .loop (.publish 0 (some "tx-2") "\x7b"),
    .loop (.publish 0 (some "tx-1") "release"), .loop (.poll 2), .loop (.acquire key),
    .loop (.next key), .restart, .lateCommit ⟨0, 0, some "tx-1", "reserve"⟩, .loop (.poll 2),
    .loop (.acquire key), .loop (.next key), .transact key, .ends key .transient, .transact key,
    .ends key .returned, .loop (.next key), .loop (.acquire (0, some "tx-2")),
    .loop (.next (0, some "tx-2")), .ends (0, some "tx-2") .decodeError,
    .loop (.publishDeadLetter (0, some "tx-2") true), .loop (.next (0, some "tx-2")),
    .loop .commit, .loop (.poll 2), .loop (.acquire key), .loop (.next key), .transact key,
    .ends key .returned]

theorem lateThenAgain_runs :
    (lateThenAgain.foldlM (Consuming.step (handler 10 reserveThenRelease) ⟨6, 5⟩)
      (Consuming.initial 1 (seeded (Table.empty.put "SKU-000001" 5)))).isSome = true := by
  decide +kernel

theorem request_takes_effect_once_lateThenAgain :
    let consuming := (lateThenAgain.foldlM (Consuming.step (handler 10 reserveThenRelease) ⟨6, 5⟩)
      (Consuming.initial 1 (seeded (Table.empty.put "SKU-000001" 5)))).get lateThenAgain_runs
    consuming.db.ledger =
      ((requests reserveThenRelease (firsts [] consuming.applied)).foldl (deliver 10)
        (seeded (Table.empty.put "SKU-000001" 5))).ledger :=
  (request_takes_effect_once 10 reserveThenRelease ⟨6, 5⟩ 1 _ lateThenAgain _
    (.of_foldlM (Option.some_get lateThenAgain_runs).symm)).1

end SelfCheckout.Inventory
