import SelfCheckout.Inventory.Redelivery
import SelfCheckout.Inventory.Sessions
import Mathlib.Algebra.Order.BigOperators.Group.List

namespace SelfCheckout.Inventory

open SelfCheckout.Data

/-! # The stock ledger under concurrency

What is missing from a SKU's initial stock is what the applied adjustments hold.
The argument is two-phase locking: a session's locked reads stay current until
it commits, because no other session can commit a row it owns.
-/

/-- The units of `sku` an adjustment holds: only an applied one holds any. -/
def appliedUnits (sku : Sku) (row : Adjustment) : Int :=
  match row with
  | .applied lines => ((units lines sku : Nat) : Int)
  | .rejected _ => 0
  | .released _ => 0

/-- The units of `sku` over all adjustments in state APPLIED. -/
def appliedTotal (adjustments : Table Attempt Adjustment) (sku : Sku) : Int :=
  adjustments.sum (fun _ row => appliedUnits sku row)

/-- No SKU is oversold, and its missing stock is held by applied adjustments. -/
def Conserved (db : Database) : Prop :=
  ∀ sku row, db.stock.lookup sku = some row →
    0 ≤ row.currentStock ∧ row.initialStock - row.currentStock = appliedTotal db.adjustments sku

theorem appliedUnits_nonneg (sku : Sku) (row : Adjustment) : 0 ≤ appliedUnits sku row := by
  cases row <;> simp [appliedUnits]

theorem appliedTotal_nonneg (adjustments : Table Attempt Adjustment) (sku : Sku) :
    0 ≤ appliedTotal adjustments sku := by
  apply List.sum_nonneg
  intro amount member
  obtain ⟨row, _, rfl⟩ := List.mem_map.mp member
  exact appliedUnits_nonneg sku row.2

theorem appliedTotal_put (adjustments : Table Attempt Adjustment) (attempt : Attempt)
    (row : Adjustment) (sku : Sku) :
    appliedTotal (adjustments.put attempt row) sku =
      appliedTotal adjustments sku + appliedUnits sku row -
        ((adjustments.lookup attempt).map (appliedUnits sku)).getD 0 :=
  Table.sum_put adjustments (fun _ row => appliedUnits sku row) attempt row

theorem lookup_writeStock (stock : Table Sku StockRow) (writes : List (Sku × Int)) (sku : Sku) :
    (writeStock stock writes).lookup sku = (stock.lookup sku).map (fun row =>
      match Table.lookupRows writes sku with
      | none => row
      | some current => { row with currentStock := current }) :=
  Table.lookup_mapValues stock _ sku

theorem ok_iff {basket : List (Sku × Nat)} {locked : List (Sku × Int)}
    {prior : Option AdjustmentState} :
    ok basket locked prior = true ↔
      basket ≠ [] ∧ (∀ line ∈ basket, ∃ current,
        Table.lookupRows locked line.1 = some current ∧ (line.2 : Int) ≤ current) ∧
      prior = none := by
  simp only [ok, Bool.and_eq_true, decide_eq_true_eq, joined, List.filterMap_length_eq_length,
    Bool.not_eq_eq_eq_not, Bool.not_true, List.isEmpty_eq_false_iff, List.all_eq_true,
    Option.isNone_iff_eq_none, List.mem_filterMap]
  constructor
  · intro both
    obtain ⟨⟨present, nonempty, enough⟩, fresh⟩ := both
    refine ⟨?_, ?_, fresh⟩
    · intro same
      subst same
      exact nonempty rfl
    · intro line member
      obtain ⟨current, found⟩ := Option.isSome_iff_exists.mp (present line member)
      obtain ⟨stock, read, rfl⟩ := Option.map_eq_some_iff.mp found
      exact ⟨stock, read, enough (stock, line.2) ⟨line, member, found⟩⟩
  · intro both
    obtain ⟨nonempty, covered, fresh⟩ := both
    refine ⟨⟨?_, ?_, ?_⟩, fresh⟩
    · intro line member
      obtain ⟨current, found, _⟩ := covered line member
      simp [found]
    · obtain ⟨line, rest, rfl⟩ := List.exists_cons_of_ne_nil nonempty
      obtain ⟨current, found, _⟩ := covered line (by simp)
      simp [found]
    · rintro pair ⟨line, member, found⟩
      obtain ⟨current, read, enough⟩ := covered line member
      rw [read, Option.map_some, Option.some.injEq] at found
      subst found
      exact enough

theorem lookupRows_taking (basket : List (Sku × Nat)) (locked : List (Sku × Int))
    (threshold : Int) (outcome : Option Outcome) (sku : Sku) :
    Table.lookupRows (taking basket locked threshold outcome).stock sku =
      (Table.lookupRows basket sku).bind (fun quantity =>
        (Table.lookupRows locked sku).map (fun current => current - (quantity : Int))) := by
  have flat : (taking basket locked threshold outcome).stock =
      basket.filterMap (fun line => (Table.lookupRows locked line.1).map
        (fun current => (line.1, current - (line.2 : Int)))) := by
    simp only [taking, dec, List.map_filterMap, Option.map_map]
    rfl
  rw [flat]
  exact Table.lookupRows_join basket (Table.lookupRows locked)
    (fun current quantity => current - (quantity : Int)) sku

theorem lookupRows_restored (lines : List (Sku × Nat)) (locked : List (Sku × Int)) (sku : Sku) :
    Table.lookupRows (restored lines locked) sku =
      (Table.lookupRows lines sku).bind (fun quantity =>
        (Table.lookupRows locked sku).map (fun current => current + (quantity : Int))) :=
  Table.lookupRows_join lines (Table.lookupRows locked)
    (fun current quantity => current + (quantity : Int)) sku

/-- Reads made under lock: the session owns the rows and they are current. -/
def ReadsHeld (server : Server) (id : SessionId) (locked : List (Sku × Int)) : Prop :=
  ∀ sku current, Table.lookupRows locked sku = some current →
    server.stockOwner sku = some id ∧
      ∃ row, server.db.stock.lookup sku = some row ∧ row.currentStock = current

/-- Every line with a stock row is locked or still to lock. -/
def Covers (server : Server) (lines : List (Sku × Nat)) (waiting : List Sku)
    (locked : List (Sku × Int)) : Prop :=
  ∀ sku ∈ lines.map Prod.fst, (server.db.stock.lookup sku).isSome →
    sku ∈ waiting ∨ ∃ current, Table.lookupRows locked sku = some current

/-- The session owns the attempt's record, which is this one. -/
def RecordHeld (server : Server) (id : SessionId) (attempt : Attempt) (row : Option Adjustment) :
    Prop :=
  server.attemptOwner attempt = some id ∧ server.db.adjustments.lookup attempt = row

/-- Writes that keep the ledger: the session owns every row it writes, and the
stock moves by `change`, which the adjustment accounts for. -/
structure WritesHeld (server : Server) (id : SessionId) (attempt : Attempt) (writes : Writes)
    (change : Sku → Int) : Prop where
  untouched : ∀ sku, (server.db.stock.lookup sku).isSome →
    Table.lookupRows writes.stock sku = none → change sku = 0
  written : ∀ sku current, Table.lookupRows writes.stock sku = some current →
    server.stockOwner sku = some id ∧ ∃ row, server.db.stock.lookup sku = some row ∧
      current = row.currentStock + change sku ∧ 0 ≤ current
  unrecorded : writes.adjustment = none → ∀ sku, change sku = 0
  recorded : ∀ row, writes.adjustment = some row → ∃ old, RecordHeld server id attempt old ∧
    AdjustmentArrow old (some row) ∧
    ∀ sku, appliedUnits sku row - (old.map (appliedUnits sku)).getD 0 = - change sku

def SessionHeld (server : Server) (id : SessionId) (session : Session) : Prop :=
  match session.phase with
  | .locking _ _ _ locked => ReadsHeld server id locked
  | .restoring lines waiting locked =>
      ReadsHeld server id locked ∧ Covers server (normalize lines) waiting locked ∧
        RecordHeld server id session.attempt (some (.applied lines))
  | .committing writes => ∃ change, WritesHeld server id session.attempt writes change
  | _ => True

/-- What the steps of the other sessions leave alone: the rows a session owns,
and which stock rows there are. -/
structure Keeps (id : SessionId) (server after : Server) : Prop where
  stock : ∀ sku, server.stockOwner sku = some id →
    after.stockOwner sku = some id ∧ after.db.stock.lookup sku = server.db.stock.lookup sku
  record : ∀ attempt, server.attemptOwner attempt = some id →
    after.attemptOwner attempt = some id ∧
      after.db.adjustments.lookup attempt = server.db.adjustments.lookup attempt
  present : ∀ sku, (after.db.stock.lookup sku).isSome = (server.db.stock.lookup sku).isSome

section Frame

variable {server after : Server} {id : SessionId}

theorem ReadsHeld.frame {locked : List (Sku × Int)} (held : ReadsHeld server id locked)
    (keeps : Keeps id server after) : ReadsHeld after id locked := by
  intro sku current found
  obtain ⟨owned, row, stocked, same⟩ := held sku current found
  obtain ⟨stillOwned, unchanged⟩ := keeps.stock sku owned
  exact ⟨stillOwned, row, unchanged.trans stocked, same⟩

theorem Covers.frame {lines : List (Sku × Nat)} {waiting : List Sku} {locked : List (Sku × Int)}
    (covers : Covers server lines waiting locked) (keeps : Keeps id server after) :
    Covers after lines waiting locked := by
  intro sku member present
  exact covers sku member (by rwa [← keeps.present sku])

theorem RecordHeld.frame {attempt : Attempt} {row : Option Adjustment}
    (held : RecordHeld server id attempt row) (keeps : Keeps id server after) :
    RecordHeld after id attempt row := by
  obtain ⟨stillOwned, unchanged⟩ := keeps.record attempt held.1
  exact ⟨stillOwned, unchanged.trans held.2⟩

theorem WritesHeld.frame {attempt : Attempt} {writes : Writes} {change : Sku → Int}
    (held : WritesHeld server id attempt writes change) (keeps : Keeps id server after) :
    WritesHeld after id attempt writes change where
  untouched sku present absent := held.untouched sku (by rwa [← keeps.present sku]) absent
  written sku current found := by
    obtain ⟨owned, row, stocked, moved, nonneg⟩ := held.written sku current found
    obtain ⟨stillOwned, unchanged⟩ := keeps.stock sku owned
    exact ⟨stillOwned, row, unchanged.trans stocked, moved, nonneg⟩
  unrecorded := held.unrecorded
  recorded row found := by
    obtain ⟨old, owned, arrow, accounted⟩ := held.recorded row found
    exact ⟨old, owned.frame keeps, arrow, accounted⟩

theorem SessionHeld.frame {session : Session} (held : SessionHeld server id session)
    (keeps : Keeps id server after) : SessionHeld after id session := by
  obtain ⟨attempt, basket, phase⟩ := session
  cases phase with
  | locking caller prior waiting locked => exact ReadsHeld.frame held keeps
  | restoring lines waiting locked =>
      obtain ⟨reads, covers, record⟩ := held
      exact ⟨reads.frame keeps, covers.frame keeps, record.frame keeps⟩
  | committing writes =>
      obtain ⟨change, writesHeld⟩ := held
      exact ⟨change, writesHeld.frame keeps⟩
  | reserve caller => trivial
  | replaying caller => trivial
  | recordRejected caller short => trivial
  | rereading => trivial
  | tombstone => trivial
  | lockAdjustment => trivial

end Frame

def Server.lockStock (server : Server) (id : SessionId) (sku : Sku) : Server :=
  { server with stockOwner := Function.update server.stockOwner sku (some id) }

def Server.lockAttempt (server : Server) (id : SessionId) (attempt : Attempt) : Server :=
  { server with attemptOwner := Function.update server.attemptOwner attempt (some id) }

/-- An effect leaves its session with what the session may rely on. -/
def EffectSound (server : Server) (id : SessionId) (session : Session) : Effect → Prop
  | .goto phase => SessionHeld server id { session with phase }
  | .lockStock sku phase => ∀ row, server.db.stock.lookup sku = some row →
      SessionHeld (server.lockStock id sku) id { session with phase := phase row.currentStock }
  | .lockAttempt phase =>
      SessionHeld (server.lockAttempt id session.attempt) id { session with phase }
  | .rollback none => True
  | .rollback (some phase) => ∀ other, SessionHeld other id { session with phase }
  | .commit writes => ∃ change, WritesHeld server id session.attempt writes change

section Statements

variable {server : Server} {id : SessionId} {attempt : Attempt}

theorem Keeps.of_eq {after : Server} (sameDb : after.db = server.db)
    (sameStock : after.stockOwner = server.stockOwner)
    (sameAttempts : after.attemptOwner = server.attemptOwner) : Keeps id server after where
  stock _ owned := ⟨by rwa [sameStock], by rw [sameDb]⟩
  record _ owned := ⟨by rwa [sameAttempts], by rw [sameDb]⟩
  present _ := by rw [sameDb]

theorem keeps_lockStock_self (server : Server) (id : SessionId) (sku : Sku) :
    Keeps id server (server.lockStock id sku) where
  stock other owned := by
    by_cases same : other = sku
    · subst same
      exact ⟨by simp [Server.lockStock], rfl⟩
    · exact ⟨by simpa [Server.lockStock, same] using owned, rfl⟩
  record _ owned := ⟨owned, rfl⟩
  present _ := rfl

theorem ReadsHeld.nil : ReadsHeld server id [] := by
  intro sku current found
  contradiction

private theorem lookupRows_snoc (locked : List (Sku × Int)) (sku other : Sku) (current : Int) :
    Table.lookupRows (locked ++ [(sku, current)]) other =
      (Table.lookupRows locked other).or (if sku = other then some current else none) := by
  induction locked with
  | nil => rfl
  | cons row rows ih =>
      by_cases here : row.1 = other
      · simp [Table.lookupRows, here]
      · simp [Table.lookupRows, here, ih]

theorem ReadsHeld.lock {locked : List (Sku × Int)} (held : ReadsHeld server id locked) {sku : Sku}
    {row : StockRow} (stocked : server.db.stock.lookup sku = some row) :
    ReadsHeld (server.lockStock id sku) id (locked ++ [(sku, row.currentStock)]) := by
  intro other current found
  rw [lookupRows_snoc, Option.or_eq_some_iff] at found
  rcases found with earlier | ⟨_, granted⟩
  · exact held.frame (keeps_lockStock_self server id sku) other current earlier
  · split at granted
    · rename_i same
      subst same
      cases granted
      exact ⟨by simp [Server.lockStock], row, stocked, rfl⟩
    · contradiction

theorem Covers.start (lines : List (Sku × Nat)) :
    Covers server lines (stocked server.db lines) [] := by
  intro sku member present
  exact .inl (List.mem_filter.mpr ⟨member, by simpa using present⟩)

theorem Covers.lock {lines : List (Sku × Nat)} {sku : Sku} {waiting : List Sku}
    {locked : List (Sku × Int)} (covers : Covers server lines (sku :: waiting) locked)
    (current : Int) :
    Covers (server.lockStock id sku) lines waiting (locked ++ [(sku, current)]) := by
  intro other member present
  rcases covers other member present with here | ⟨earlier, found⟩
  · rcases List.mem_cons.mp here with rfl | rest
    · right
      rw [lookupRows_snoc]
      cases Table.lookupRows locked other with
      | none => exact ⟨current, by simp⟩
      | some earlier => exact ⟨earlier, by simp⟩
    · exact .inl rest
  · exact .inr ⟨earlier, by simp [lookupRows_snoc, found]⟩

theorem RecordHeld.lock {row : Option Adjustment}
    (found : server.db.adjustments.lookup attempt = row) :
    RecordHeld (server.lockAttempt id attempt) id attempt row :=
  ⟨by simp [Server.lockAttempt], found⟩

theorem WritesHeld.answering (outcome : Option Outcome) :
    WritesHeld server id attempt (Inventory.answering outcome) (fun _ => 0) where
  untouched _ _ _ := rfl
  written _ _ found := by contradiction
  unrecorded _ _ := rfl
  recorded _ found := by contradiction

theorem WritesHeld.recording {row : Adjustment} {old : Option Adjustment}
    {outcome : Option Outcome} (record : RecordHeld server id attempt old)
    (arrow : AdjustmentArrow old (some row)) (holdsNone : ∀ sku, appliedUnits sku row = 0)
    (heldNone : ∀ sku, (old.map (appliedUnits sku)).getD 0 = 0) :
    WritesHeld server id attempt (Inventory.recording row outcome) (fun _ => 0) where
  untouched _ _ _ := rfl
  written _ _ found := by contradiction
  unrecorded _ _ := rfl
  recorded _ found := by
    cases found
    exact ⟨old, record, arrow, fun sku => by simp [holdsNone, heldNone]⟩

/-- `_RESERVE` with `ok` takes what it records. -/
theorem WritesHeld.taking {basket : List (Sku × Nat)} {locked : List (Sku × Int)}
    {threshold : Int} {outcome : Option Outcome} (nodup : (basket.map Prod.fst).Nodup)
    (reads : ReadsHeld server id locked) (verdict : ok basket locked none = true)
    (record : RecordHeld server id attempt none) :
    WritesHeld server id attempt (Inventory.taking basket locked threshold outcome)
      (fun sku => -((units basket sku : Nat) : Int)) where
  untouched sku _ absent := by
    rw [lookupRows_taking, Option.bind_eq_none_iff] at absent
    rw [units_eq_lookupRows nodup]
    cases line : Table.lookupRows basket sku with
    | none => simp
    | some quantity =>
        obtain ⟨current, found, _⟩ :=
          (ok_iff.mp verdict).2.1 (sku, quantity) (Table.mem_of_lookupRows line)
        have missing := absent quantity line
        rw [found] at missing
        contradiction
  written sku after found := by
    rw [lookupRows_taking, Option.bind_eq_some_iff] at found
    obtain ⟨quantity, line, found⟩ := found
    obtain ⟨current, read, rfl⟩ := Option.map_eq_some_iff.mp found
    obtain ⟨owned, row, stocked, rfl⟩ := reads sku current read
    obtain ⟨current, again, enough⟩ :=
      (ok_iff.mp verdict).2.1 (sku, quantity) (Table.mem_of_lookupRows line)
    rw [read, Option.some.injEq] at again
    refine ⟨owned, row, stocked, ?_, ?_⟩
    · rw [units_eq_lookupRows nodup, line]
      rfl
    · simp only at enough
      omega
  unrecorded none := by contradiction
  recorded _ found := by
    cases found
    exact ⟨none, record, .apply basket, fun sku => by simp [appliedUnits]⟩

/-- `_RESTORE` and `_MARK_RELEASED` give back what the record holds. -/
theorem WritesHeld.givingBack {lines : List (Sku × Nat)} {locked : List (Sku × Int)}
    {outcome : Option Outcome}
    (nonneg : ∀ sku row, server.db.stock.lookup sku = some row → 0 ≤ row.currentStock)
    (reads : ReadsHeld server id locked) (covers : Covers server (normalize lines) [] locked)
    (record : RecordHeld server id attempt (some (.applied lines))) :
    WritesHeld server id attempt (Inventory.givingBack lines locked outcome)
      (fun sku => ((units lines sku : Nat) : Int)) where
  untouched sku present absent := by
    have absent : Table.lookupRows (restored (normalize lines) locked) sku = none := absent
    rw [lookupRows_restored, Option.bind_eq_none_iff] at absent
    rw [← units_merge, units_eq_lookupRows (nodup_merge_keys lines)]
    cases line : Table.lookupRows (merge lines) sku with
    | none => simp
    | some quantity =>
        have member := List.mem_map_of_mem (f := Prod.fst) (Table.mem_of_lookupRows line)
        rcases covers sku member present with none | ⟨current, found⟩
        · contradiction
        · have missing := absent quantity line
          rw [found] at missing
          contradiction
  written sku after found := by
    have found : Table.lookupRows (restored (normalize lines) locked) sku = some after := found
    rw [lookupRows_restored, Option.bind_eq_some_iff] at found
    obtain ⟨quantity, line, found⟩ := found
    obtain ⟨current, read, rfl⟩ := Option.map_eq_some_iff.mp found
    obtain ⟨owned, row, stocked, rfl⟩ := reads sku current read
    have enough := nonneg sku row stocked
    refine ⟨owned, row, stocked, ?_, by omega⟩
    rw [← units_merge, units_eq_lookupRows (nodup_merge_keys lines)]
    rw [show Table.lookupRows (merge lines) sku = some quantity from line]
    rfl
  unrecorded none := by contradiction
  recorded _ found := by
    cases found
    exact ⟨_, record, .releaseApplied lines, fun sku => by simp [appliedUnits]⟩

/-- One statement: a session that may rely on its reads leaves itself with what
the next statement relies on. -/
theorem effect_sound (threshold : Int) {session : Session} (conserved : Conserved server.db)
    (nodup : (session.basket.map Prod.fst).Nodup) (held : SessionHeld server id session) :
    EffectSound server id session (effect threshold server.db session) := by
  obtain ⟨attempt, basket, phase⟩ := session
  cases phase with
  | reserve caller =>
      simp only [effect]
      split
      · exact ReadsHeld.nil
      · trivial
  | locking caller prior waiting locked =>
      cases waiting with
      | cons sku waiting =>
          intro row stocked
          exact ReadsHeld.lock held stocked
      | nil =>
          cases prior with
          | some state =>
              cases state with
              | applied => exact ⟨_, .answering _⟩
              | released => exact ⟨_, .answering _⟩
              | rejected => trivial
          | none =>
              cases verdict : ok basket locked none with
              | false =>
                  simp only [effect, verdict, Bool.false_eq_true, ↓reduceIte]
                  trivial
              | true =>
                  cases record : server.db.adjustments.lookup attempt with
                  | none =>
                      simp only [effect, verdict, record, ↓reduceIte]
                      exact ⟨_, .taking nodup held verdict (.lock record)⟩
                  | some row =>
                      simp only [effect, verdict, record, ↓reduceIte]
                      rcases caller with ⟨_ | _⟩ | _
                      · intro other
                        trivial
                      · trivial
                      · intro other
                        trivial
  | replaying caller => exact ⟨_, .answering _⟩
  | recordRejected caller short =>
      cases record : server.db.adjustments.lookup attempt with
      | some row =>
          simp only [effect, record]
          exact ⟨_, .answering _⟩
      | none =>
          simp only [effect, record]
          exact ⟨_, .recording (.lock record) (.reject short) (fun _ => rfl) (fun _ => rfl)⟩
  | rereading => exact ⟨_, .answering none⟩
  | tombstone =>
      simp only [effect]
      split
      · cases record : server.db.adjustments.lookup attempt with
        | some row => trivial
        | none =>
            exact ⟨_, .recording (.lock record) .releaseFirst (fun _ => rfl) (fun _ => rfl)⟩
      · trivial
  | lockAdjustment =>
      cases record : server.db.adjustments.lookup attempt with
      | none =>
          simp only [effect, record]
          trivial
      | some row =>
          cases row with
          | released lines =>
              simp only [effect, record]
              exact ⟨_, .answering _⟩
          | rejected short =>
              simp only [effect, record]
              exact ⟨_, .recording (.lock record) (.releaseRejected short) (fun _ => rfl)
                (fun _ => rfl)⟩
          | applied lines =>
              simp only [effect, record]
              exact ⟨ReadsHeld.nil, Covers.start _, RecordHeld.lock record⟩
  | restoring lines waiting locked =>
      obtain ⟨reads, covers, record⟩ := held
      cases waiting with
      | cons sku waiting =>
          intro row stocked
          exact ⟨reads.lock stocked, covers.lock _, record⟩
      | nil =>
          exact ⟨_, .givingBack (fun sku row found => (conserved sku row found).1) reads covers
            record⟩
  | committing writes => exact held

end Statements

theorem Conserved.applyWrites {server : Server} {id : SessionId} {attempt : Attempt}
    {writes : Writes} {change : Sku → Int} (conserved : Conserved server.db)
    (held : WritesHeld server id attempt writes change) :
    Conserved (applyWrites server.db attempt writes) := by
  intro sku row found
  have total : appliedTotal (Inventory.applyWrites server.db attempt writes).adjustments sku =
      appliedTotal server.db.adjustments sku - change sku := by
    cases adjustment : writes.adjustment with
    | none => simp [Inventory.applyWrites, adjustment, held.unrecorded adjustment sku]
    | some row =>
        obtain ⟨old, record, _, accounted⟩ := held.recorded row adjustment
        have moved := accounted sku
        simp only [Inventory.applyWrites, adjustment, appliedTotal_put, record.2]
        omega
  rw [total]
  simp only [Inventory.applyWrites, lookup_writeStock, Option.map_eq_some_iff] at found
  obtain ⟨old, stocked, rfl⟩ := found
  obtain ⟨nonneg, balance⟩ := conserved sku old stocked
  cases write : Table.lookupRows writes.stock sku with
  | none =>
      have still := held.untouched sku (by simp [stocked]) write
      simp only
      omega
  | some current =>
      obtain ⟨_, same, stockedAgain, moved, nonnegAfter⟩ := held.written sku current write
      rw [stocked, Option.some.injEq] at stockedAgain
      subst stockedAgain
      simp only
      omega

/-- What holds between two statements. -/
structure Sound (server : Server) : Prop where
  conserved : Conserved server.db
  nodup : ∀ id session, server.sessions id = some session →
    (session.basket.map Prod.fst).Nodup
  held : ∀ id session, server.sessions id = some session → SessionHeld server id session

section Perform

variable {server after : Server} {id other : SessionId} {session : Session}

theorem keeps_unlock (server : Server) (different : other ≠ id) :
    Keeps other server (server.unlock id) where
  stock _ owned := ⟨held_released.mpr ⟨owned, different⟩, rfl⟩
  record _ owned := ⟨held_released.mpr ⟨owned, different⟩, rfl⟩
  present _ := rfl

/-- A commit touches the rows its session owns, so none of another's. -/
theorem keeps_commit {writes : Writes} {change : Sku → Int} (different : other ≠ id)
    (held : WritesHeld server id session.attempt writes change) :
    Keeps other server { server.finish id with
      db := applyWrites server.db session.attempt writes } where
  stock sku owned := by
    refine ⟨((keeps_unlock server different).stock sku owned).1, ?_⟩
    have unwritten : Table.lookupRows writes.stock sku = none := by
      cases write : Table.lookupRows writes.stock sku with
      | none => rfl
      | some current =>
          have mine := (held.written sku current write).1
          rw [owned, Option.some.injEq] at mine
          exact absurd mine different
    simp [applyWrites, lookup_writeStock, unwritten]
  record attempt owned := by
    refine ⟨((keeps_unlock server different).record attempt owned).1, ?_⟩
    cases adjustment : writes.adjustment with
    | none => simp [applyWrites, adjustment]
    | some row =>
        obtain ⟨old, record, _⟩ := held.recorded row adjustment
        have unwritten : attempt ≠ session.attempt := by
          intro same
          subst same
          have mine := record.1
          rw [owned, Option.some.injEq] at mine
          exact different mine
        simp [applyWrites, adjustment, unwritten]
  present sku := by simp [applyWrites, lookup_writeStock]

/-- What carrying out an effect leaves: the other sessions' rows, this session's
new assertion, and the ledger. -/
theorem perform_sound {effect : Effect} (conserved : Conserved server.db)
    (sound : EffectSound server id session effect)
    (done : server.perform id session effect = some after) :
    Conserved after.db ∧ (∀ other, other ≠ id → Keeps other server after) ∧
      (∀ other, other ≠ id → after.sessions other = server.sessions other) ∧
      ∀ next, after.sessions id = some next →
        next.basket = session.basket ∧ SessionHeld after id next := by
  have elsewhere : ∀ (value : Option Session) other, other ≠ id →
      Function.update server.sessions id value other = server.sessions other :=
    fun value other different => Function.update_of_ne different _ _
  cases effect with
  | goto phase =>
      simp only [Server.perform, Option.some.injEq] at done
      subst done
      refine ⟨conserved, fun other _ => .of_eq rfl rfl rfl, elsewhere _, ?_⟩
      intro next found
      simp only [Server.setPhase, Function.update_self, Option.some.injEq] at found
      subst found
      exact ⟨rfl, SessionHeld.frame sound (.of_eq rfl rfl rfl)⟩
  | lockStock sku phase =>
      simp only [Server.perform] at done
      split at done
      · rename_i row free stocked
        simp only [Option.some.injEq] at done
        subst done
        refine ⟨conserved, ?_, elsewhere _, ?_⟩
        · exact fun other _ => ⟨fun _ owned => ⟨held_after_grant free owned, rfl⟩,
            fun _ owned => ⟨owned, rfl⟩, fun _ => rfl⟩
        · intro next found
          simp only [Server.setPhase, Function.update_self, Option.some.injEq] at found
          subst found
          exact ⟨rfl, SessionHeld.frame (sound row stocked) (.of_eq rfl rfl rfl)⟩
      · contradiction
  | lockAttempt phase =>
      simp only [Server.perform] at done
      split at done
      · rename_i free
        simp only [Option.some.injEq] at done
        subst done
        refine ⟨conserved, ?_, elsewhere _, ?_⟩
        · exact fun other _ => ⟨fun _ owned => ⟨owned, rfl⟩,
            fun _ owned => ⟨held_after_grant free owned, rfl⟩, fun _ => rfl⟩
        · intro next found
          simp only [Server.setPhase, Function.update_self, Option.some.injEq] at found
          subst found
          exact ⟨rfl, SessionHeld.frame sound (.of_eq rfl rfl rfl)⟩
      · contradiction
  | rollback rest =>
      cases rest with
      | none =>
          simp only [Server.perform, Option.some.injEq] at done
          subst done
          refine ⟨conserved, fun other different => ?_, elsewhere _, ?_⟩
          · obtain ⟨stock, record, present⟩ := keeps_unlock server different
            exact ⟨stock, record, present⟩
          · intro next found
            simp [Server.finish] at found
      | some phase =>
          simp only [Server.perform, Option.some.injEq] at done
          subst done
          refine ⟨conserved, fun other different => ?_, elsewhere _, ?_⟩
          · obtain ⟨stock, record, present⟩ := keeps_unlock server different
            exact ⟨stock, record, present⟩
          · intro next found
            simp only [Server.setPhase, Function.update_self, Option.some.injEq] at found
            subst found
            exact ⟨rfl, sound _⟩
  | commit writes =>
      obtain ⟨change, held⟩ := sound
      simp only [Server.perform, Option.some.injEq] at done
      subst done
      refine ⟨conserved.applyWrites held, fun other different => keeps_commit different held,
        elsewhere _, ?_⟩
      intro next found
      simp [Server.finish] at found

end Perform

theorem Call.nodup_basket (call : Call) : (call.session.basket.map Prod.fst).Nodup := by
  cases call with
  | handle request =>
      cases request with
      | stockReservationRequested attempt lines => exact nodup_merge_keys lines
      | stockReleaseRequested attempt => exact List.nodup_nil
  | reserveOnce attempt lines => exact nodup_merge_keys lines

theorem Call.held (server : Server) (id : SessionId) (call : Call) :
    SessionHeld server id call.session := by
  cases call with
  | handle request =>
      cases request with
      | stockReservationRequested attempt lines => trivial
      | stockReleaseRequested attempt => trivial
  | reserveOnce attempt lines => trivial

theorem Sound.step {threshold : Int} {server after : Server} {action : Action}
    (sound : Sound server) (taken : step threshold server action = some after) : Sound after := by
  rcases step_cases taken with ⟨id, call, rfl, absent, rfl⟩ | ⟨id, session, rfl, found, done⟩ |
    ⟨id, session, rfl, found, rfl⟩
  · refine ⟨sound.conserved, ?_, ?_⟩
    · intro other session found
      by_cases same : other = id
      · subst same
        simp only [Function.update_self, Option.some.injEq] at found
        subst found
        exact call.nodup_basket
      · simp only [Function.update_of_ne same] at found
        exact sound.nodup other session found
    · intro other session found
      by_cases same : other = id
      · subst same
        simp only [Function.update_self, Option.some.injEq] at found
        subst found
        exact call.held _ _
      · simp only [Function.update_of_ne same] at found
        exact (sound.held other session found).frame (.of_eq rfl rfl rfl)
  · obtain ⟨conserved, keeps, unchanged, next⟩ := perform_sound sound.conserved
      (effect_sound threshold sound.conserved (sound.nodup id session found) (sound.held id session found))
      done
    refine ⟨conserved, ?_, ?_⟩
    · intro other session' found'
      by_cases same : other = id
      · subst same
        rw [(next session' found').1]
        exact sound.nodup other session found
      · rw [unchanged other same] at found'
        exact sound.nodup other session' found'
    · intro other session' found'
      by_cases same : other = id
      · subst same
        exact (next session' found').2
      · rw [unchanged other same] at found'
        exact (sound.held other session' found').frame (keeps other same)
  · refine ⟨sound.conserved, ?_, ?_⟩
    · intro other session' found'
      by_cases same : other = id
      · subst same
        simp [Server.finish] at found'
      · simp only [Server.finish, Function.update_of_ne same] at found'
        exact sound.nodup other session' found'
    · intro other session' found'
      by_cases same : other = id
      · subst same
        simp [Server.finish] at found'
      · simp only [Server.finish, Function.update_of_ne same] at found'
        obtain ⟨stock, record, present⟩ := keeps_unlock server same
        exact (sound.held other session' found').frame ⟨stock, record, present⟩

theorem Sound.idle (levels : Table Sku Nat) : Sound (idle (seeded levels)) where
  conserved sku row found := by
    simp only [Inventory.idle, seeded, Table.lookup_mapValues, Option.map_eq_some_iff] at found
    obtain ⟨level, _, rfl⟩ := found
    refine ⟨Int.natCast_nonneg level, ?_⟩
    simp [Inventory.idle, seeded, appliedTotal, Table.sum, Table.empty]
  nodup _ _ found := by contradiction
  held _ _ found := by contradiction

theorem WritesHeld.follows {server : Server} {id : SessionId} {attempt : Attempt}
    {writes : Writes} {change : Sku → Int} (held : WritesHeld server id attempt writes change)
    (other : Attempt) :
    Adjustment.Follows (server.db.adjustments.lookup other)
      ((applyWrites server.db attempt writes).adjustments.lookup other) := by
  cases adjustment : writes.adjustment with
  | none => exact .inl (by simp [applyWrites, adjustment])
  | some row =>
      obtain ⟨old, record, arrow, _⟩ := held.recorded row adjustment
      have moved := follows_put (by rw [record.2]; exact arrow) other
      simpa only [applyWrites, adjustment] using moved

/-- Concurrent sessions move a record along its arrows too. -/
theorem Sound.step_follows {threshold : Int} {server after : Server} {action : Action}
    (sound : Sound server) (taken : Inventory.step threshold server action = some after)
    (attempt : Attempt) :
    Adjustment.Follows (server.db.adjustments.lookup attempt)
      (after.db.adjustments.lookup attempt) := by
  rcases step_cases taken with ⟨id, call, rfl, absent, rfl⟩ | ⟨id, session, rfl, found, done⟩ |
    ⟨id, session, rfl, found, rfl⟩
  · exact .inl rfl
  · rcases perform_db done with same | ⟨writes, next, same⟩
    · exact .inl (by rw [same])
    · have established := effect_sound threshold sound.conserved
        (sound.nodup id session found) (sound.held id session found)
      rw [next] at established
      obtain ⟨change, held⟩ := established
      rw [same]
      exact held.follows attempt
  · exact .inl rfl

theorem step_initialStock {threshold : Int} {server after : Server} {action : Action}
    (taken : step threshold server action = some after) (sku : Sku) :
    (after.db.stock.lookup sku).map StockRow.initialStock =
      (server.db.stock.lookup sku).map StockRow.initialStock := by
  rcases step_cases taken with ⟨id, call, rfl, absent, rfl⟩ | ⟨id, session, rfl, found, done⟩ |
    ⟨id, session, rfl, found, rfl⟩
  · rfl
  · rcases perform_db done with same | ⟨writes, _, same⟩
    · rw [same]
    · rw [same]
      simp only [applyWrites, lookup_writeStock, Option.map_map]
      congr 1
      funext row
      simp only [Function.comp_apply]
      cases Table.lookupRows writes.stock sku <;> rfl
  · rfl

theorem run_initialStock {threshold : Int} {start server : Server} {labels : List Action}
    (run : Run (step threshold) Any start labels server) (sku : Sku) :
    (server.db.stock.lookup sku).map StockRow.initialStock =
      (start.db.stock.lookup sku).map StockRow.initialStock := by
  induction run with
  | start => rfl
  | snoc past permitted taken ih => exact (step_initialStock taken sku).trans ih

/-- The stock ledger is conserved and never oversold: whatever sessions reserve
and release, in whatever interleaving, every committed stock level lies between
zero and its initial level, and what is missing is what APPLIED adjustments hold. -/
theorem stock_conserved (threshold : Int) (levels : Table Sku Nat) (labels : List Action)
    (server : Server) (run : Run (step threshold) Any (idle (seeded levels)) labels server)
    (sku : Sku) (row : StockRow) (found : server.db.stock.lookup sku = some row) :
    0 ≤ row.currentStock ∧ row.currentStock ≤ row.initialStock ∧
      (levels.lookup sku).map Int.ofNat = some row.initialStock ∧
      row.initialStock - row.currentStock = appliedTotal server.db.adjustments sku := by
  have sound : Sound server :=
    run.invariant (Sound.idle levels) (fun _ _ _ holds _ taken => holds.step taken)
  have initial : (server.db.stock.lookup sku).map StockRow.initialStock =
      (levels.lookup sku).map Int.ofNat := by
    rw [run_initialStock run sku]
    simp only [idle, seeded, Table.lookup_mapValues, Option.map_map]
    rfl
  obtain ⟨nonneg, balance⟩ := sound.conserved sku row found
  have missing := appliedTotal_nonneg server.db.adjustments sku
  refine ⟨nonneg, by omega, ?_, balance⟩
  rw [← initial, found]
  rfl

/-- One session reserves two units of five and commits. -/
def reserving : List Action :=
  .begin 0 (.handle (.stockReservationRequested ⟨1, 1⟩ [("SKU-000001", 2)])) ::
    List.replicate 4 (.proceed 0)

theorem reserving_runs : (reserving.foldlM (step 10)
    (idle (seeded (Table.empty.put "SKU-000001" 5)))).isSome = true := by
  decide

theorem stock_conserved_reserving :
    (0 : Int) ≤ 3 ∧ (3 : Int) ≤ 5 ∧
      ((Table.empty.put "SKU-000001" 5).lookup "SKU-000001").map Int.ofNat = some (5 : Int) ∧
      (5 : Int) - 3 = appliedTotal
        ((reserving.foldlM (step 10)
          (idle (seeded (Table.empty.put "SKU-000001" 5)))).get reserving_runs).db.adjustments
        "SKU-000001" :=
  stock_conserved 10 (Table.empty.put "SKU-000001" 5) reserving _
    (.of_foldlM (Option.some_get reserving_runs).symm) "SKU-000001" ⟨3, 5⟩ (by decide)

end SelfCheckout.Inventory
