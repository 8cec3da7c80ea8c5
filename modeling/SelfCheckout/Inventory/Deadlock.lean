import SelfCheckout.Inventory.Conservation
import Mathlib.Order.WithBot
import Mathlib.Logic.Relation

namespace SelfCheckout.Inventory

open SelfCheckout.Data

/-! # Waits and deadlocks

Reserve takes stock rows and then the adjustment key, release the key and then
stock rows.  What orders them is that a key is waited for by an insert only while
its holder has nothing left to wait for, and by a `FOR UPDATE` only before the
waiting transaction holds anything.
-/

section Ascending

universe u v

variable {Node : Type u} {Rank : Type v} [Preorder Rank] {edge : Node → Node → Prop}
  {rank : Node → Rank}

/-- The rank goes up along every edge that another edge follows. -/
def Ascends (edge : Node → Node → Prop) (rank : Node → Rank) : Prop :=
  ∀ first second third, edge first second → edge second third → rank first < rank second

theorem Ascends.path {first last beyond : Node} (ascends : Ascends edge rank)
    (path : Relation.TransGen edge first last) (on : edge last beyond) :
    rank first < rank last := by
  induction path generalizing beyond with
  | single step => exact ascends _ _ _ step on
  | tail _ step ih => exact lt_trans (ih step) (ascends _ _ _ step on)

theorem Ascends.acyclic (ascends : Ascends edge rank) (node : Node) :
    ¬ Relation.TransGen edge node node := by
  intro cycle
  obtain ⟨next, step, _⟩ := Relation.TransGen.head'_iff.mp cycle
  exact lt_irrefl _ (ascends.path cycle step)

end Ascending

/-- `other` has inserted or updated the attempt's record and not committed. -/
def Uncommitted (server : Server) (attempt : Attempt) (other : SessionId) : Prop :=
  server.attemptOwner attempt = some other ∧ ∃ session writes,
    server.sessions other = some session ∧ session.phase = .committing writes ∧
      writes.adjustment ≠ none

/-- The session's next row lock or insert is held up by `other`.  An insert of the
key waits only for an uncommitted insert or update of it, `_LOCK_ADJUSTMENT` for
whoever holds the row. -/
def WaitsFor (server : Server) (session : Session) (other : SessionId) : Prop :=
  match session.phase with
  | .locking _ _ (sku :: _) _ => server.stockOwner sku = some other
  | .restoring _ (sku :: _) _ => server.stockOwner sku = some other
  | .locking _ none [] locked =>
      ok session.basket locked none = true ∧ Uncommitted server session.attempt other
  | .recordRejected _ _ => Uncommitted server session.attempt other
  | .tombstone => bindable session.attempt [] = true ∧ Uncommitted server session.attempt other
  | .lockAdjustment =>
      server.db.adjustments.lookup session.attempt ≠ none ∧
        server.attemptOwner session.attempt = some other
  | _ => False

def Waits (server : Server) (id other : SessionId) : Prop :=
  ∃ session, server.sessions id = some session ∧ WaitsFor server session other

/-- The stock rows a statement has still to lock. -/
def Phase.waiting : Phase → List Sku
  | .locking _ _ waiting _ => waiting
  | .restoring _ waiting _ => waiting
  | _ => []

/-- The phases in which the transaction holds no lock yet. -/
def Phase.bare : Phase → Bool
  | .reserve _ => true
  | .rereading => true
  | .tombstone => true
  | .lockAdjustment => true
  | _ => false

/-- Where a waiting session stands: before all stock, at a SKU, or past them. -/
def Phase.rank : Phase → WithBot (WithTop Sku)
  | .locking _ _ (sku :: _) _ => ((sku : WithTop Sku) : WithBot (WithTop Sku))
  | .restoring _ (sku :: _) _ => ((sku : WithTop Sku) : WithBot (WithTop Sku))
  | .lockAdjustment => ⊥
  | _ => ⊤

def Server.rank (server : Server) (id : SessionId) : WithBot (WithTop Sku) :=
  (server.sessions id).elim ⊤ (fun session => session.phase.rank)

/-- The session holds no lock. -/
def HoldsNothing (server : Server) (id : SessionId) : Prop :=
  (∀ sku, server.stockOwner sku ≠ some id) ∧ ∀ attempt, server.attemptOwner attempt ≠ some id

/-- What a session keeps of the lock order: the rows it has still to lock exist,
ascend, and are above those it holds. -/
structure SessionRanked (server : Server) (id : SessionId) (session : Session) : Prop where
  basket : (session.basket.map Prod.fst).Pairwise (· < ·)
  ascending : session.phase.waiting.Pairwise (· < ·)
  present : ∀ sku ∈ session.phase.waiting, (server.db.stock.lookup sku).isSome
  above : ∀ sku, server.stockOwner sku = some id → ∀ later ∈ session.phase.waiting, sku < later
  bare : session.phase.bare = true → HoldsNothing server id

/-- A key is held by the transaction that has written it, or its record exists. -/
def Claimed (server : Server) : Prop :=
  ∀ attempt id, server.attemptOwner attempt = some id →
    Uncommitted server attempt id ∨ server.db.adjustments.lookup attempt ≠ none

structure Ranked (server : Server) : Prop where
  absent : ∀ id, server.sessions id = none → HoldsNothing server id
  ranked : ∀ id session, server.sessions id = some session → SessionRanked server id session
  claimed : Claimed server

section Ranks

variable {server : Server} {id other : SessionId} {session : Session}

/-- A session that holds a row and waits, waits above it. -/
theorem SessionRanked.lt_rank {sku : Sku} (ranked : SessionRanked server id session)
    (owned : server.stockOwner sku = some id) (waits : WaitsFor server session other) :
    ((sku : WithTop Sku) : WithBot (WithTop Sku)) < session.phase.rank := by
  obtain ⟨_, _, _, above, bare⟩ := ranked
  obtain ⟨attempt, basket, phase⟩ := session
  cases phase with
  | locking caller prior waiting locked =>
      cases waiting with
      | nil => exact WithBot.coe_lt_coe.mpr (WithTop.coe_lt_top sku)
      | cons later waiting =>
          exact WithBot.coe_lt_coe.mpr (WithTop.coe_lt_coe.mpr
            (above sku owned later List.mem_cons_self))
  | restoring lines waiting locked =>
      cases waiting with
      | nil => exact WithBot.coe_lt_coe.mpr (WithTop.coe_lt_top sku)
      | cons later waiting =>
          exact WithBot.coe_lt_coe.mpr (WithTop.coe_lt_coe.mpr
            (above sku owned later List.mem_cons_self))
  | recordRejected caller short => exact WithBot.coe_lt_coe.mpr (WithTop.coe_lt_top sku)
  | lockAdjustment => exact absurd owned ((bare rfl).1 sku)
  | tombstone => exact absurd owned ((bare rfl).1 sku)
  | reserve caller => contradiction
  | replaying caller => contradiction
  | rereading => contradiction
  | committing writes => contradiction

/-- The holder of a key is not about to lock one. -/
theorem SessionRanked.bot_lt_rank {attempt : Attempt} (ranked : SessionRanked server id session)
    (owned : server.attemptOwner attempt = some id) : ⊥ < session.phase.rank := by
  rw [bot_lt_iff_ne_bot]
  intro lowest
  have bare : session.phase.bare = true := by
    obtain ⟨_, _, phase⟩ := session
    cases phase with
    | lockAdjustment => rfl
    | locking caller prior waiting locked => cases waiting <;> simp [Phase.rank] at lowest
    | restoring lines waiting locked => cases waiting <;> simp [Phase.rank] at lowest
    | _ => simp [Phase.rank] at lowest
  exact (ranked.bare bare).2 attempt owned

/-- A transaction that has written the key waits for nothing more. -/
theorem Uncommitted.not_waits {attempt : Attempt} (written : Uncommitted server attempt id)
    (found : server.sessions id = some session) : ¬ WaitsFor server session other := by
  obtain ⟨_, holder, writes, holding, committing, _⟩ := written
  rw [found, Option.some.injEq] at holding
  subst holding
  simp [WaitsFor, committing]

theorem Ranked.ascends (ranked : Ranked server) : Ascends (Waits server) server.rank := by
  rintro first second third ⟨session, found, waits⟩ ⟨holder, holding, on⟩
  have held := ranked.ranked second holder holding
  have place : ∀ {id session}, server.sessions id = some session →
      server.rank id = session.phase.rank := by
    intro id session found
    simp [Server.rank, found]
  rw [place found, place holding]
  obtain ⟨attempt, basket, phase⟩ := session
  cases phase with
  | locking caller prior waiting locked =>
      cases waiting with
      | cons sku waiting => exact held.lt_rank waits on
      | nil =>
          cases prior with
          | some state => contradiction
          | none => exact absurd on (waits.2.not_waits holding)
  | restoring lines waiting locked =>
      cases waiting with
      | cons sku waiting => exact held.lt_rank waits on
      | nil => contradiction
  | recordRejected caller short => exact absurd on (Uncommitted.not_waits waits holding)
  | tombstone => exact absurd on (waits.2.not_waits holding)
  | lockAdjustment => exact held.bot_lt_rank waits.2
  | reserve caller => contradiction
  | replaying caller => contradiction
  | rereading => contradiction
  | committing writes => contradiction

end Ranks

/-- An effect leaves its session in the lock order. -/
def EffectRanked (server : Server) (id : SessionId) (session : Session) : Effect → Prop
  | .goto phase => SessionRanked server id { session with phase }
  | .lockStock sku phase => ∀ current,
      SessionRanked (server.lockStock id sku) id { session with phase := phase current }
  | .lockAttempt phase =>
      SessionRanked (server.lockAttempt id session.attempt) id { session with phase } ∧
        ((∃ writes, phase = .committing writes ∧ writes.adjustment ≠ none) ∨
          server.db.adjustments.lookup session.attempt ≠ none)
  | .rollback none => True
  | .rollback (some phase) => phase.bare = true
  | .commit _ => True

theorem Phase.waiting_of_bare {phase : Phase} (bare : phase.bare = true) : phase.waiting = [] := by
  cases phase <;> first | rfl | contradiction

theorem stocked_present (db : Database) (basket : List (Sku × Nat)) :
    ∀ sku ∈ stocked db basket, (db.stock.lookup sku).isSome := by
  intro sku member
  simpa using (List.mem_filter.mp member).2

theorem stocked_sorted (db : Database) {basket : List (Sku × Nat)}
    (sorted : (basket.map Prod.fst).Pairwise (· < ·)) :
    (stocked db basket).Pairwise (· < ·) :=
  List.Pairwise.sublist List.filter_sublist sorted

section Steps

variable {server after : Server} {id : SessionId} {session : Session}

/-- A statement without row locks goes on under the locks it has. -/
theorem SessionRanked.goes (ranked : SessionRanked server id session) {phase : Phase}
    (none : phase.waiting = []) (bare : phase.bare = true → HoldsNothing server id) :
    SessionRanked server id { session with phase } where
  basket := ranked.basket
  ascending := by simp [none]
  present := by simp [none]
  above := by simp [none]
  bare := bare

theorem SessionRanked.claims (ranked : SessionRanked server id session) {phase : Phase}
    (none : phase.waiting = []) (taken : phase.bare = false) (attempt : Attempt) :
    SessionRanked (server.lockAttempt id attempt) id { session with phase } where
  basket := ranked.basket
  ascending := by simp [none]
  present := by simp [none]
  above := by simp [none]
  bare := by simp [taken]

/-- The first row a statement waits for is granted. -/
theorem SessionRanked.locks {sku : Sku} {rest : List Sku} {phase : Phase}
    (ranked : SessionRanked server id session) (head : session.phase.waiting = sku :: rest)
    (tail : phase.waiting = rest) (taken : phase.bare = false) :
    SessionRanked (server.lockStock id sku) id { session with phase } := by
  obtain ⟨basket, ascending, present, above, _⟩ := ranked
  rw [head] at ascending present above
  obtain ⟨first, ascending⟩ := List.pairwise_cons.mp ascending
  refine ⟨basket, tail ▸ ascending, ?_, ?_, by simp [taken]⟩
  · intro later member
    rw [tail] at member
    exact present later (List.mem_cons_of_mem _ member)
  · intro held owned later member
    rw [tail] at member
    by_cases same : held = sku
    · subst same
      exact first later member
    · have before : server.stockOwner held = some id := by
        simpa [Server.lockStock, same] using owned
      exact above held before later (List.mem_cons_of_mem _ member)

/-- One statement: the rows of a basket are locked from the lowest SKU up, and
only after nothing else of the stock is held. -/
theorem effect_ranked (threshold : Int) (ranked : SessionRanked server id session) :
    EffectRanked server id session (effect threshold server.db session) := by
  have held := ranked
  obtain ⟨attempt, basket, phase⟩ := session
  cases phase with
  | reserve caller =>
      obtain ⟨nothing, _⟩ := ranked.bare rfl
      simp only [effect]
      split
      · exact ⟨ranked.basket, stocked_sorted server.db ranked.basket, stocked_present _ _,
          fun sku owned => absurd owned (nothing sku), by simp [Phase.bare]⟩
      · trivial
  | locking caller prior waiting locked =>
      cases waiting with
      | cons sku waiting => exact fun current => held.locks rfl rfl rfl
      | nil =>
          cases prior with
          | some state => cases state <;> exact held.goes rfl (by simp [Phase.bare])
          | none =>
              cases verdict : ok basket locked none with
              | false =>
                  simp only [effect, verdict, Bool.false_eq_true, ↓reduceIte]
                  exact held.goes rfl (by simp [Phase.bare])
              | true =>
                  cases record : server.db.adjustments.lookup attempt with
                  | none =>
                      simp only [effect, verdict, record, ↓reduceIte]
                      exact ⟨held.claims rfl rfl _, .inl ⟨_, rfl, by simp [taking]⟩⟩
                  | some row =>
                      simp only [effect, verdict, record, ↓reduceIte]
                      rcases caller with ⟨_ | _⟩ | _
                      · rfl
                      · trivial
                      · rfl
  | replaying caller => exact held.goes rfl (by simp [Phase.bare])
  | recordRejected caller short =>
      cases record : server.db.adjustments.lookup attempt with
      | some row =>
          simp only [effect, record]
          exact held.goes rfl (by simp [Phase.bare])
      | none =>
          simp only [effect, record]
          exact ⟨held.claims rfl rfl _, .inl ⟨_, rfl, by simp [recording]⟩⟩
  | rereading => trivial
  | tombstone =>
      simp only [effect]
      split
      · cases record : server.db.adjustments.lookup attempt with
        | some row => exact held.goes rfl (fun _ => ranked.bare rfl)
        | none => exact ⟨held.claims rfl rfl _, .inl ⟨_, rfl, by simp [recording]⟩⟩
      · trivial
  | lockAdjustment =>
      obtain ⟨nothing, _⟩ := ranked.bare rfl
      cases record : server.db.adjustments.lookup attempt with
      | none =>
          simp only [effect, record]
          trivial
      | some row =>
          cases row with
          | released lines =>
              simp only [effect, record]
              exact ⟨held.claims rfl rfl _, .inr (by simp [record])⟩
          | rejected short =>
              simp only [effect, record]
              exact ⟨held.claims rfl rfl _, .inr (by simp [record])⟩
          | applied lines =>
              simp only [effect, record]
              exact ⟨⟨ranked.basket, stocked_sorted server.db (merge_sorted lines),
                stocked_present _ _, fun sku owned => absurd owned (nothing sku),
                by simp [Phase.bare]⟩, .inr (by simp [record])⟩
  | restoring lines waiting locked =>
      cases waiting with
      | cons sku waiting => exact fun current => held.locks rfl rfl rfl
      | nil => exact held.goes rfl (by simp [Phase.bare])
  | committing writes => trivial

/-- Locks only ever pass to the session that steps, and no row disappears. -/
structure Steps (id : SessionId) (server after : Server) : Prop where
  sessions : ∀ other, other ≠ id → after.sessions other = server.sessions other
  present : ∀ sku, (server.db.stock.lookup sku).isSome → (after.db.stock.lookup sku).isSome
  recorded : ∀ attempt, server.db.adjustments.lookup attempt ≠ none →
    after.db.adjustments.lookup attempt ≠ none
  stock : ∀ other, other ≠ id → ∀ sku, after.stockOwner sku = some other →
    server.stockOwner sku = some other
  attempts : ∀ other, other ≠ id → ∀ attempt, after.attemptOwner attempt = some other →
    server.attemptOwner attempt = some other

theorem SessionRanked.frame {other : SessionId} (ranked : SessionRanked server other session)
    (steps : Steps id server after) (different : other ≠ id) :
    SessionRanked after other session where
  basket := ranked.basket
  ascending := ranked.ascending
  present sku member := steps.present sku (ranked.present sku member)
  above sku owned := ranked.above sku (steps.stock other different sku owned)
  bare idle :=
    ⟨fun sku owned => (ranked.bare idle).1 sku (steps.stock other different sku owned),
      fun attempt owned =>
        (ranked.bare idle).2 attempt (steps.attempts other different attempt owned)⟩

theorem Ranked.frame (ranked : Ranked server) (steps : Steps id server after)
    (absent : after.sessions id = none → HoldsNothing after id)
    (mine : ∀ next, after.sessions id = some next → SessionRanked after id next)
    (claims : ∀ attempt, after.attemptOwner attempt = some id →
      Uncommitted after attempt id ∨ after.db.adjustments.lookup attempt ≠ none) :
    Ranked after where
  absent other gone := by
    by_cases same : other = id
    · subst same
      exact absent gone
    · rw [steps.sessions other same] at gone
      obtain ⟨stock, attempts⟩ := ranked.absent other gone
      exact ⟨fun sku owned => stock sku (steps.stock other same sku owned),
        fun attempt owned => attempts attempt (steps.attempts other same attempt owned)⟩
  ranked other next found := by
    by_cases same : other = id
    · subst same
      exact mine next found
    · rw [steps.sessions other same] at found
      exact (ranked.ranked other next found).frame steps same
  claimed attempt other owned := by
    by_cases same : other = id
    · subst same
      exact claims attempt owned
    · rcases ranked.claimed attempt other (steps.attempts other same attempt owned) with
        ⟨_, holder, writes, found, committing, written⟩ | recorded
      · exact .inl ⟨owned, holder, writes, (steps.sessions other same).trans found, committing,
          written⟩
      · exact .inr (steps.recorded attempt recorded)

/-- The session goes on, and the others keep their places. -/
theorem Ranked.continues (ranked : Ranked server) (steps : Steps id server after) {next : Session}
    (running : after.sessions id = some next) (mine : SessionRanked after id next)
    (claims : ∀ attempt, after.attemptOwner attempt = some id →
      Uncommitted after attempt id ∨ after.db.adjustments.lookup attempt ≠ none) :
    Ranked after := by
  refine ranked.frame steps (fun gone => ?_) (fun other found => ?_) claims
  · cases running.symm.trans gone
  · cases running.symm.trans found
    exact mine

/-- A key held before an effect that is no commit has its record already. -/
theorem Ranked.recordOf (ranked : Ranked server) (found : server.sessions id = some session)
    (notCommitting : ∀ writes, session.phase ≠ .committing writes) (attempt : Attempt)
    (owned : server.attemptOwner attempt = some id) :
    server.db.adjustments.lookup attempt ≠ none := by
  rcases ranked.claimed attempt id owned with ⟨_, holder, writes, holding, committing, _⟩ | kept
  · rw [found, Option.some.injEq] at holding
    subst holding
    exact absurd committing (notCommitting writes)
  · exact kept

theorem holdsNothing_unlock (server : Server) (id : SessionId) :
    HoldsNothing (server.unlock id) id :=
  ⟨fun _ owned => (held_released.mp owned).2 rfl, fun _ owned => (held_released.mp owned).2 rfl⟩

theorem steps_unlock (server : Server) (id : SessionId) (value : Option Session)
    {db : Database}
    (present : ∀ sku, (server.db.stock.lookup sku).isSome → (db.stock.lookup sku).isSome)
    (recorded : ∀ attempt, server.db.adjustments.lookup attempt ≠ none →
      db.adjustments.lookup attempt ≠ none) :
    Steps id server { server.unlock id with
      db := db, sessions := Function.update server.sessions id value } where
  sessions _ different := Function.update_of_ne different _ _
  present := present
  recorded := recorded
  stock _ _ _ owned := (held_released.mp owned).1
  attempts _ _ _ owned := (held_released.mp owned).1

theorem applyWrites_present {db : Database} {attempt : Attempt} {writes : Writes} (sku : Sku)
    (present : (db.stock.lookup sku).isSome) :
    ((applyWrites db attempt writes).stock.lookup sku).isSome := by
  simpa [applyWrites, lookup_writeStock] using present

theorem applyWrites_recorded {db : Database} {attempt : Attempt} {writes : Writes}
    (other : Attempt) (recorded : db.adjustments.lookup other ≠ none) :
    (applyWrites db attempt writes).adjustments.lookup other ≠ none := by
  cases adjustment : writes.adjustment with
  | none => simpa [applyWrites, adjustment] using recorded
  | some row =>
      by_cases same : other = attempt
      · simp [applyWrites, adjustment, same]
      · simpa [applyWrites, adjustment, same] using recorded

/-- A transaction that has ended, or starts over, holds nothing. -/
theorem Ranked.unlocks (ranked : Ranked server) {db : Database} {value : Option Session}
    (present : ∀ sku, (server.db.stock.lookup sku).isSome → (db.stock.lookup sku).isSome)
    (recorded : ∀ attempt, server.db.adjustments.lookup attempt ≠ none →
      db.adjustments.lookup attempt ≠ none)
    (fresh : ∀ next, value = some next →
      (next.basket.map Prod.fst).Pairwise (· < ·) ∧ next.phase.bare = true) :
    Ranked { server.unlock id with
      db := db, sessions := Function.update server.sessions id value } := by
  have nothing := holdsNothing_unlock server id
  refine ranked.frame (steps_unlock server id value present recorded) (fun _ => nothing) ?_ ?_
  · intro next found
    have found : value = some next := by simpa using found
    obtain ⟨sorted, bare⟩ := fresh next found
    have none := Phase.waiting_of_bare bare
    exact ⟨sorted, by simp [none], by simp [none], by simp [none], fun _ => nothing⟩
  · intro attempt owned
    exact absurd owned (nothing.2 attempt)

theorem perform_ranked {effect : Effect} (ranked : Ranked server)
    (found : server.sessions id = some session)
    (kept : EffectRanked server id session effect)
    (working : (∀ writes, session.phase ≠ .committing writes) ∨ ∃ writes, effect = .commit writes)
    (done : server.perform id session effect = some after) : Ranked after := by
  have mine := ranked.ranked id session found
  have elsewhere : ∀ (value : Option Session) other, other ≠ id →
      Function.update server.sessions id value other = server.sessions other :=
    fun value other different => Function.update_of_ne different _ _
  cases effect with
  | goto phase =>
      simp only [Server.perform, Option.some.injEq] at done
      subst done
      obtain notCommitting | ⟨_, wrong⟩ := working
      · refine ranked.continues ⟨elsewhere _, fun _ kept => kept, fun _ kept => kept,
          fun _ _ _ owned => owned, fun _ _ _ owned => owned⟩ (Function.update_self ..) ?_
          (fun attempt owned => .inr (ranked.recordOf found notCommitting attempt owned))
        exact ⟨kept.basket, kept.ascending, kept.present, kept.above, kept.bare⟩
      · contradiction
  | lockStock sku phase =>
      simp only [Server.perform] at done
      split at done
      · rename_i row free stocked
        simp only [Option.some.injEq] at done
        subst done
        obtain notCommitting | ⟨_, wrong⟩ := working
        · refine ranked.continues ⟨elsewhere _, fun _ kept => kept, fun _ kept => kept,
            fun _ different _ owned => held_before_grant owned different, fun _ _ _ owned => owned⟩
            (Function.update_self ..) ?_
            (fun attempt owned => .inr (ranked.recordOf found notCommitting attempt owned))
          obtain ⟨basket, ascending, present, above, bare⟩ := kept row.currentStock
          exact ⟨basket, ascending, present, above, bare⟩
        · contradiction
      · contradiction
  | lockAttempt phase =>
      simp only [Server.perform] at done
      split at done
      · rename_i free
        simp only [Option.some.injEq] at done
        subst done
        obtain notCommitting | ⟨_, wrong⟩ := working
        · refine ranked.continues ⟨elsewhere _, fun _ kept => kept, fun _ kept => kept,
            fun _ _ _ owned => owned, fun _ different _ owned => held_before_grant owned different⟩
            (Function.update_self ..) ?_ ?_
          · obtain ⟨basket, ascending, present, above, bare⟩ := kept.1
            exact ⟨basket, ascending, present, above, bare⟩
          · intro attempt owned
            by_cases same : attempt = session.attempt
            · subst same
              rcases kept.2 with ⟨writes, committing, written⟩ | recorded
              · exact .inl ⟨owned, { session with phase }, writes, by simp [Server.setPhase],
                  committing, written⟩
              · exact .inr recorded
            · exact .inr (ranked.recordOf found notCommitting attempt (by simpa [same] using owned))
        · contradiction
      · contradiction
  | rollback rest =>
      cases rest with
      | none =>
          simp only [Server.perform, Option.some.injEq] at done
          subst done
          exact ranked.unlocks (fun _ kept => kept) (fun _ kept => kept) (by simp)
      | some phase =>
          simp only [Server.perform, Option.some.injEq] at done
          subst done
          refine ranked.unlocks (fun _ kept => kept) (fun _ kept => kept) ?_
          intro next here
          cases here
          exact ⟨mine.basket, kept⟩
  | commit writes =>
      simp only [Server.perform, Option.some.injEq] at done
      subst done
      exact ranked.unlocks applyWrites_present applyWrites_recorded (by simp)

end Steps

theorem effect_working {threshold : Int} {db : Database} {session : Session} :
    (∀ writes, session.phase ≠ .committing writes) ∨
      ∃ writes, effect threshold db session = .commit writes := by
  obtain ⟨attempt, basket, phase⟩ := session
  cases phase with
  | committing writes => exact .inr ⟨writes, rfl⟩
  | _ => exact .inl (by simp)

theorem Call.basket_sorted (call : Call) :
    (call.session.basket.map Prod.fst).Pairwise (· < ·) := by
  cases call with
  | handle request =>
      cases request with
      | stockReservationRequested attempt lines => exact merge_sorted lines
      | stockReleaseRequested attempt => exact .nil
  | reserveOnce attempt lines => exact merge_sorted lines

theorem Call.bare (call : Call) : call.session.phase.bare = true := by
  cases call with
  | handle request => cases request <;> rfl
  | reserveOnce attempt lines => rfl

theorem Ranked.step {threshold : Int} {server after : Server} {action : Action}
    (ranked : Ranked server) (taken : step threshold server action = some after) :
    Ranked after := by
  rcases step_cases taken with ⟨id, call, rfl, gone, rfl⟩ | ⟨id, session, rfl, found, done⟩ |
    ⟨id, session, rfl, found, rfl⟩
  · have nothing := ranked.absent id gone
    have steps : Steps id server { server with
        sessions := Function.update server.sessions id (some call.session) } :=
      ⟨fun other different => Function.update_of_ne different _ _, fun _ kept => kept,
        fun _ kept => kept, fun _ _ _ owned => owned, fun _ _ _ owned => owned⟩
    refine ranked.frame steps (fun _ => nothing) ?_
      (fun attempt owned => absurd owned (nothing.2 attempt))
    intro next here
    simp only [Function.update_self, Option.some.injEq] at here
    subst here
    have none := Phase.waiting_of_bare call.bare
    exact ⟨call.basket_sorted, by simp [none], by simp [none], by simp [none], fun _ => nothing⟩
  · exact perform_ranked ranked found (effect_ranked threshold (ranked.ranked id session found))
      effect_working done
  · exact ranked.unlocks (fun _ kept => kept) (fun _ kept => kept) (by simp)

theorem Ranked.idle (db : Database) : Ranked (idle db) where
  absent _ _ := ⟨fun _ owned => by contradiction, fun _ owned => by contradiction⟩
  ranked _ _ found := by contradiction
  claimed _ _ owned := by contradiction

section Blocked

variable {server : Server} {id : SessionId} {session : Session}

theorem lockStock_stuck {sku : Sku} {phase : Int → Phase}
    (stuck : server.perform id session (.lockStock sku phase) = none)
    (present : (server.db.stock.lookup sku).isSome) :
    ∃ other, server.stockOwner sku = some other := by
  cases owner : server.stockOwner sku with
  | some other => exact ⟨other, rfl⟩
  | none =>
      obtain ⟨row, stocked⟩ := Option.isSome_iff_exists.mp present
      simp [Server.perform, owner, stocked] at stuck

theorem lockAttempt_stuck {phase : Phase}
    (stuck : server.perform id session (.lockAttempt phase) = none) :
    ∃ other, server.attemptOwner session.attempt = some other := by
  cases owner : server.attemptOwner session.attempt with
  | some other => exact ⟨other, rfl⟩
  | none => simp [Server.perform, owner] at stuck

/-- With no record of the attempt, whoever holds its key has written it. -/
theorem Claimed.uncommitted {attempt : Attempt} {other : SessionId} (claimed : Claimed server)
    (fresh : server.db.adjustments.lookup attempt = none)
    (owned : server.attemptOwner attempt = some other) : Uncommitted server attempt other := by
  rcases claimed attempt other owned with uncommitted | recorded
  · exact uncommitted
  · exact absurd fresh recorded

/-- A statement that cannot be carried out waits for a lock somebody holds. -/
theorem SessionRanked.stuck_waits {threshold : Int} (ranked : SessionRanked server id session)
    (claimed : Claimed server)
    (stuck : server.perform id session (effect threshold server.db session) = none) :
    ∃ other, WaitsFor server session other := by
  obtain ⟨attempt, basket, phase⟩ := session
  cases phase with
  | reserve caller => simp only [effect] at stuck; split at stuck <;> simp [Server.perform] at stuck
  | locking caller prior waiting locked =>
      cases waiting with
      | cons sku waiting => exact lockStock_stuck stuck (ranked.present sku List.mem_cons_self)
      | nil =>
          cases prior with
          | some state => cases state <;> simp [effect, Server.perform] at stuck
          | none =>
              cases verdict : ok basket locked none with
              | false => simp [effect, verdict, Server.perform] at stuck
              | true =>
                  cases record : server.db.adjustments.lookup attempt with
                  | none =>
                      simp only [effect, verdict, record, ↓reduceIte] at stuck
                      obtain ⟨other, owned⟩ := lockAttempt_stuck stuck
                      exact ⟨other, verdict, claimed.uncommitted record owned⟩
                  | some row =>
                      rcases caller with ⟨_ | _⟩ | _ <;>
                        simp [effect, verdict, record, Caller.afterConflict, Server.perform] at stuck
  | replaying caller => simp [effect, Server.perform] at stuck
  | recordRejected caller short =>
      cases record : server.db.adjustments.lookup attempt with
      | some row => simp [effect, record, Server.perform] at stuck
      | none =>
          simp only [effect, record] at stuck
          obtain ⟨other, owned⟩ := lockAttempt_stuck stuck
          exact ⟨other, claimed.uncommitted record owned⟩
  | rereading => simp [effect, Server.perform] at stuck
  | tombstone =>
      cases bound : bindable attempt [] with
      | false => simp [effect, bound, Server.perform] at stuck
      | true =>
          cases record : server.db.adjustments.lookup attempt with
          | some row => simp [effect, bound, record, Server.perform] at stuck
          | none =>
              simp only [effect, bound, record, ↓reduceIte] at stuck
              obtain ⟨other, owned⟩ := lockAttempt_stuck stuck
              exact ⟨other, bound, claimed.uncommitted record owned⟩
  | lockAdjustment =>
      cases record : server.db.adjustments.lookup attempt with
      | none => simp [effect, record, Server.perform] at stuck
      | some row =>
          obtain ⟨other, owned⟩ : ∃ other, server.attemptOwner attempt = some other := by
            cases row <;> simp only [effect, record] at stuck <;> exact lockAttempt_stuck stuck
          exact ⟨other, by simp [record], owned⟩
  | restoring lines waiting locked =>
      cases waiting with
      | cons sku waiting => exact lockStock_stuck stuck (ranked.present sku List.mem_cons_self)
      | nil => simp [effect, Server.perform] at stuck
  | committing writes => simp [effect, Server.perform] at stuck

end Blocked

/-- No run of concurrent reserves and releases reaches a cycle of waits, and who
cannot go on waits for somebody. -/
theorem reserves_and_releases_cannot_deadlock (threshold : Int) (db : Database)
    (labels : List Action) (server : Server)
    (run : Run (step threshold) Any (idle db) labels server) :
    (∀ id, ¬ Relation.TransGen (Waits server) id id) ∧
      ∀ id session, server.sessions id = some session →
        step threshold server (.proceed id) = none → ∃ other, Waits server id other := by
  have ranked : Ranked server :=
    run.invariant (Ranked.idle db) (fun _ _ _ holds _ taken => holds.step taken)
  refine ⟨fun id => ranked.ascends.acyclic id, fun id session found stuck => ?_⟩
  simp only [step, found] at stuck
  obtain ⟨other, waits⟩ := (ranked.ranked id session found).stuck_waits ranked.claimed stuck
  exact ⟨other, session, found, waits⟩

/-- Two baskets in opposite orders and a release of the first: the second
reservation waits for a row of the first one, the release for its key. -/
def crossing : List Action :=
  [.begin 0 (.handle (.stockReservationRequested ⟨1, 1⟩ [("SKU-000001", 1), ("SKU-000002", 1)])),
    .begin 1 (.handle (.stockReservationRequested ⟨2, 1⟩ [("SKU-000002", 1), ("SKU-000001", 1)])),
    .begin 2 (.handle (.stockReleaseRequested ⟨1, 1⟩)),
    .proceed 0, .proceed 1, .proceed 0, .proceed 0, .proceed 0]

theorem crossing_runs : (crossing.foldlM (step 10)
    (idle (seeded ((Table.empty.put "SKU-000001" 5).put "SKU-000002" 5)))).isSome = true := by
  decide

theorem reserves_and_releases_cannot_deadlock_crossing :
    ∃ server, Run (step 10) Any
        (idle (seeded ((Table.empty.put "SKU-000001" 5).put "SKU-000002" 5))) crossing server ∧
      Waits server 1 0 ∧ Waits server 2 0 ∧ ¬ Relation.TransGen (Waits server) 0 0 := by
  have run := Run.of_foldlM (Option.some_get crossing_runs).symm
  exact ⟨_, run, ⟨_, rfl, rfl⟩, ⟨_, rfl, rfl, rfl, _, _, rfl, rfl, by simp [taking]⟩,
    (reserves_and_releases_cannot_deadlock 10 _ crossing _ run).1 0⟩

end SelfCheckout.Inventory
