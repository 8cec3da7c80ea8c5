import SelfCheckout.Checkout.Frozen
import SelfCheckout.Data.Waiting

namespace SelfCheckout.Checkout.Sessions

open SelfCheckout.Data

/-! # Sessions finish

A session locks a transaction's row before its completion record, `_SET_COMPLETION_STATE`
locks records only, and `_CLAIM_STUCK` waits for none.  Where every `_SWEEP_ABANDONED` visits
the rows in one order, no cycle of waiting sessions can close, and every session comes to its
end.
-/

/-- The row is one that a session in this phase can hold: a sweep holds rows that it visits
before those it still has to lock. -/
def Phase.HoldsRow (visits : List TxId) : Phase → TxId → Prop
  | .getBasket _ _ _, _ | .markCompleting _ _ _, _ | .getCompletion _ _ _ _, _ | .takeOver _ _ _ _, _
  | .takeOverLocking _ _ _ _, _ | .finalizeRecord _ _ _, _ | .reopenRecord _ _, _
  | .committing _, _ | .raising, _ => True
  | .sweeping _ waiting _, tx => ∀ later ∈ waiting, visitRank visits tx < visitRank visits later
  | _, _ => False

/-- A session that can hold a completion record has no lock left to wait for. -/
def Phase.holdsRecord : Phase → Bool
  | .claiming _ _ _ _ | .committing _ | .raising => true
  | _ => false

/-- A sweep visits the rows in this order. -/
def Phase.SweepsIn (visits : List TxId) : Phase → Prop
  | .sweep _ own => own = visits
  | .sweeping _ waiting _ =>
      waiting.Pairwise (fun one later => visitRank visits one < visitRank visits later)
  | _ => True

/-- A session holds what its phase can hold. -/
structure Disciplined (visits : List TxId) (server : Server) (id : SessionId) (phase : Phase) :
    Prop where
  rows : ∀ tx, server.rowOwner tx = some id → phase.HoldsRow visits tx
  records : ∀ tx, server.recordOwner tx = some id → phase.holdsRecord = true
  sweeps : phase.SweepsIn visits

/-- Nobody holds what his phase cannot hold, and who is gone holds nothing. -/
structure Orderly (visits : List TxId) (server : Server) : Prop where
  running : ∀ id session, server.sessions id = some session →
    Disciplined visits server id session.phase
  gone : ∀ id, server.sessions id = none →
    (∀ tx, server.rowOwner tx ≠ some id) ∧ ∀ tx, server.recordOwner tx ≠ some id

/-- The phases an effect leads to keep the discipline, with the lock it takes. -/
def Effect.Orders (visits : List TxId) (before : Phase) : Effect → Prop
  | .goto phase =>
      (∀ tx, before.HoldsRow visits tx → phase.HoldsRow visits tx) ∧
        (before.holdsRecord = true → phase.holdsRecord = true) ∧ phase.SweepsIn visits
  | .lockRow tx phase =>
      (∀ other, before.HoldsRow visits other → visitRank visits other < visitRank visits tx) ∧
        before.holdsRecord = false ∧ ∀ latest,
          (∀ other, other = tx ∨ before.HoldsRow visits other →
            (phase latest).HoldsRow visits other) ∧ (phase latest).SweepsIn visits
  | .lockRecord _ phase => before.holdsRecord = false ∧ ∀ latest,
      (∀ other, before.HoldsRow visits other → (phase latest).HoldsRow visits other) ∧
        (phase latest).holdsRecord = true ∧ (phase latest).SweepsIn visits
  | .tryLockRecord _ skipped phase =>
      (∀ other, ¬ before.HoldsRow visits other) ∧ skipped.holdsRecord = true ∧
        skipped.SweepsIn visits ∧ ∀ latest,
          (phase latest).holdsRecord = true ∧ (phase latest).SweepsIn visits
  | .rollback | .commit _ => True

theorem visitRank_injective (visits : List TxId) : Function.Injective (visitRank visits) := by
  intro one other same
  exact congrArg (fun rank => (ofLex rank).2) same

/-- A sweep has every row once, in the order it visits them. -/
theorem abandoned_ascending (db : Database) (minutes : Nat) (now : Time) (visits : List TxId) :
    (abandoned db minutes now visits).Pairwise
      (fun one later => visitRank visits one < visitRank visits later) := by
  have total : Std.Total (fun one other : TxId => visitRank visits one ≤ visitRank visits other) :=
    ⟨fun one other => le_total (visitRank visits one) (visitRank visits other)⟩
  have transitive : IsTrans TxId (fun one other => visitRank visits one ≤ visitRank visits other) :=
    ⟨fun _ _ _ first second => le_trans first second⟩
  have once : ((db.transactions.rows.filter (fun row => decide (Abandoned row.2 minutes now))).map
      Prod.fst).Nodup :=
    db.transactions.keysNodup.sublist (List.filter_sublist.map _)
  have different : (abandoned db minutes now visits).Pairwise (fun one later => one ≠ later) :=
    (List.perm_insertionSort _ _).nodup_iff.mpr once
  have sorted : (abandoned db minutes now visits).Pairwise
      (fun one later => visitRank visits one ≤ visitRank visits later) :=
    List.pairwise_insertionSort _ _
  exact (sorted.and different).imp
    (fun both => lt_of_le_of_ne both.1 (fun same => both.2 (visitRank_injective visits same)))

theorem effect_orders (db : Database) (now : Time) {visits : List TxId} {phase : Phase}
    (sweeps : phase.SweepsIn visits) : (effect db now phase).Orders visits phase := by
  cases phase with
  | insert tx =>
      refine ⟨fun _ => False.elim, rfl, fun latest => ?_⟩
      cases latest <;> exact ⟨fun _ _ => trivial, trivial⟩
  | scan tx sku priceCents =>
      simp only [effect]
      split <;> exact ⟨fun _ => False.elim, fun _ => by contradiction, trivial⟩
  | scanLocking tx sku priceCents =>
      refine ⟨fun _ => False.elim, rfl, fun latest => ?_⟩
      simp only
      split <;> exact ⟨fun _ _ => trivial, trivial⟩
  | lockTransaction tx lease =>
      simp only [effect]
      split
      · trivial
      · exact ⟨fun _ => False.elim, fun _ => by contradiction, trivial⟩
  | locking tx lease =>
      refine ⟨fun _ => False.elim, rfl, fun latest => ?_⟩
      cases latest <;> exact ⟨fun _ _ => trivial, trivial⟩
  | getBasket tx lease row =>
      simp only [effect]
      split
      · trivial
      · trivial
      · split
        · trivial
        · exact ⟨fun _ _ => trivial, fun _ => by contradiction, trivial⟩
      · exact ⟨fun _ _ => trivial, fun _ => by contradiction, trivial⟩
  | markCompleting tx row basket => exact ⟨rfl, fun _ => ⟨fun _ _ => trivial, rfl, trivial⟩⟩
  | getCompletion tx lease row basket =>
      simp only [effect]
      split
      · trivial
      · split
        · exact ⟨fun _ _ => trivial, fun _ => rfl, trivial⟩
        · split
          · trivial
          · exact ⟨fun _ _ => trivial, fun _ => by contradiction, trivial⟩
  | takeOver tx row basket read =>
      simp only [effect]
      split
      · exact ⟨fun _ _ => trivial, fun _ => rfl, trivial⟩
      · exact ⟨fun _ _ => trivial, fun _ => by contradiction, trivial⟩
  | takeOverLocking tx row basket read => exact ⟨rfl, fun _ => ⟨fun _ _ => trivial, rfl, trivial⟩⟩
  | setState tx state error release =>
      simp only [effect]
      split <;> exact ⟨fun _ => False.elim, fun _ => by contradiction, trivial⟩
  | setStateLocking tx state error release => exact ⟨rfl, fun _ => ⟨fun _ => False.elim, rfl, trivial⟩⟩
  | finalize tx totalCents =>
      simp only [effect]
      split <;> exact ⟨fun _ => False.elim, fun _ => by contradiction, trivial⟩
  | finalizeLocking tx totalCents found =>
      refine ⟨fun _ => False.elim, rfl, fun latest => ?_⟩
      simp only
      split
      · exact ⟨fun _ _ => trivial, trivial⟩
      · split <;> exact ⟨fun _ _ => trivial, trivial⟩
  | finalizeRecord tx totalCents row => exact ⟨rfl, fun _ => ⟨fun _ _ => trivial, rfl, trivial⟩⟩
  | reopen tx =>
      simp only [effect]
      split <;> exact ⟨fun _ => False.elim, fun _ => by contradiction, trivial⟩
  | reopenLocking tx found =>
      refine ⟨fun _ => False.elim, rfl, fun latest => ?_⟩
      simp only
      split
      · exact ⟨fun _ _ => trivial, trivial⟩
      · split <;> exact ⟨fun _ _ => trivial, trivial⟩
  | reopenRecord tx row => exact ⟨rfl, fun _ => ⟨fun _ _ => trivial, rfl, trivial⟩⟩
  | sweep minutes own =>
      obtain rfl : own = visits := sweeps
      exact ⟨fun _ => False.elim, fun _ => by contradiction, abandoned_ascending db minutes now own⟩
  | sweeping minutes waiting swept =>
      cases waiting with
      | nil => exact ⟨fun _ _ => trivial, fun _ => rfl, trivial⟩
      | cons tx waiting =>
          obtain ⟨first, rest⟩ := List.pairwise_cons.mp sweeps
          have held : ∀ other, other = tx ∨ (∀ later ∈ tx :: waiting,
              visitRank visits other < visitRank visits later) →
              ∀ later ∈ waiting, visitRank visits other < visitRank visits later := by
            rintro other (rfl | before) later isLater
            · exact first later isLater
            · exact before later (List.mem_cons_of_mem _ isLater)
          refine ⟨fun other before => before tx List.mem_cons_self, rfl, fun latest => ?_⟩
          simp only
          split
          · exact ⟨held, rest⟩
          · split <;> exact ⟨held, rest⟩
  | claim lease limit =>
      exact ⟨fun _ => False.elim, fun _ => rfl, trivial⟩
  | claiming lease limit waiting claimed =>
      cases waiting with
      | nil => exact ⟨fun _ => False.elim, fun _ => rfl, trivial⟩
      | cons tx waiting =>
          simp only [effect]
          split
          · refine ⟨fun _ => id, rfl, trivial, fun latest => ?_⟩
            simp only
            split <;> exact ⟨rfl, trivial⟩
          · exact ⟨fun _ => False.elim, fun _ => rfl, trivial⟩
  | committing work => trivial
  | raising => trivial

section Steps

variable {visits : List TxId} {server after : Server} {id other : SessionId} {phase : Phase}

theorem Disciplined.frame (disciplined : Disciplined visits server other phase)
    (rows : ∀ tx, after.rowOwner tx = some other → server.rowOwner tx = some other)
    (records : ∀ tx, after.recordOwner tx = some other → server.recordOwner tx = some other) :
    Disciplined visits after other phase where
  rows tx held := disciplined.rows tx (rows tx held)
  records tx held := disciplined.records tx (records tx held)
  sweeps := disciplined.sweeps

/-- A step of one session: the others are left alone. -/
theorem Orderly.next (orderly : Orderly visits server) {next : Option Session}
    (sessions : after.sessions = Function.update server.sessions id next)
    (rows : ∀ other, other ≠ id → ∀ tx, after.rowOwner tx = some other →
      server.rowOwner tx = some other)
    (records : ∀ other, other ≠ id → ∀ tx, after.recordOwner tx = some other →
      server.recordOwner tx = some other)
    (own : ∀ session, next = some session → Disciplined visits after id session.phase)
    (leaves : next = none →
      (∀ tx, after.rowOwner tx ≠ some id) ∧ ∀ tx, after.recordOwner tx ≠ some id) :
    Orderly visits after := by
  constructor
  · intro other session found
    rw [sessions] at found
    by_cases here : other = id
    · subst here
      rw [Function.update_self] at found
      exact own session found
    · rw [Function.update_of_ne here] at found
      exact (orderly.running other session found).frame (rows other here) (records other here)
  · intro other ended
    rw [sessions] at ended
    by_cases here : other = id
    · subst here
      rw [Function.update_self] at ended
      exact leaves ended
    · rw [Function.update_of_ne here] at ended
      obtain ⟨noRow, noRecord⟩ := orderly.gone other ended
      exact ⟨fun tx held => noRow tx (rows other here tx held),
        fun tx held => noRecord tx (records other here tx held)⟩

/-- The end of a session gives its locks back. -/
theorem Orderly.finish (orderly : Orderly visits server) {db : Database} {begun : List Begun} :
    Orderly visits { server.finish id with db, begun } :=
  orderly.next rfl (fun _ _ _ held => (held_released.mp held).1)
    (fun _ _ _ held => (held_released.mp held).1) (fun _ ended => by contradiction)
    (fun _ => ⟨fun _ held => (held_released.mp held).2 rfl, fun _ held => (held_released.mp held).2 rfl⟩)

theorem Orderly.performs (orderly : Orderly visits server) {session : Session}
    (running : server.sessions id = some session)
    (done : server.perform id session (effect server.db session.now session.phase) = some after) :
    Orderly visits after := by
  have own := orderly.running id session running
  have orders := effect_orders server.db session.now own.sweeps
  generalize effect server.db session.now session.phase = next at done orders
  cases next with
  | goto phase =>
      cases done
      obtain ⟨rows, records, sweeps⟩ := orders
      refine orderly.next rfl (fun _ _ _ held => held) (fun _ _ _ held => held) ?_
        (fun ended => by contradiction)
      rintro _ ⟨⟩
      exact ⟨fun tx held => rows tx (own.rows tx held),
        fun tx held => records (own.records tx held), sweeps⟩
  | lockRow tx phase =>
      simp only [Server.perform] at done
      split at done
      · contradiction
      · cases done
        obtain ⟨-, noRecord, takes⟩ := orders
        obtain ⟨rows, sweeps⟩ := takes (server.db.transactions.lookup tx)
        refine orderly.next rfl (fun _ different _ held => held_before_grant held different)
          (fun _ _ _ held => held) ?_ (fun ended => by contradiction)
        rintro _ ⟨⟩
        refine ⟨fun other held => rows other ?_, fun other held => ?_, sweeps⟩
        · by_cases same : other = tx
          · exact .inl same
          · exact .inr (own.rows other ((Function.update_of_ne same _ _).symm.trans held))
        · have held := own.records other held
          rw [noRecord] at held
          contradiction
  | lockRecord tx phase =>
      simp only [Server.perform] at done
      split at done
      · contradiction
      · cases done
        obtain ⟨rows, holds, sweeps⟩ := orders.2 (server.db.completions.lookup tx)
        refine orderly.next rfl (fun _ _ _ held => held)
          (fun _ different _ held => held_before_grant held different) ?_
          (fun ended => by contradiction)
        rintro _ ⟨⟩
        exact ⟨fun other held => rows other (own.rows other held), fun _ _ => holds, sweeps⟩
  | tryLockRecord tx skipped phase =>
      obtain ⟨noRow, skippedHolds, skippedSweeps, takes⟩ := orders
      simp only [Server.perform] at done
      split at done
      · cases done
        refine orderly.next rfl (fun _ _ _ held => held) (fun _ _ _ held => held) ?_
          (fun ended => by contradiction)
        rintro _ ⟨⟩
        exact ⟨fun other held => absurd (own.rows other held) (noRow other), fun _ _ => skippedHolds,
          skippedSweeps⟩
      · cases done
        obtain ⟨holds, sweeps⟩ := takes (server.db.completions.lookup tx)
        refine orderly.next rfl (fun _ _ _ held => held)
          (fun _ different _ held => held_before_grant held different) ?_
          (fun ended => by contradiction)
        rintro _ ⟨⟩
        exact ⟨fun other held => absurd (own.rows other held) (noRow other), fun _ _ => holds,
          sweeps⟩
  | rollback =>
      cases done
      exact orderly.finish
  | commit work =>
      cases done
      exact orderly.finish

/-- Every sweep visits the rows in this order. -/
def SweepsAlike (visits : List TxId) : Action → Prop
  | .begin _ _ (.sweepAbandoned _ own) => own = visits
  | _ => True

instance (visits : List TxId) : ∀ action, Decidable (SweepsAlike visits action)
  | .begin _ _ (.sweepAbandoned _ _) => inferInstanceAs (Decidable (_ = _))
  | .begin _ _ (.start _ _) | .begin _ _ (.scan _ _ _ _) | .begin _ _ (.begin _ _)
  | .begin _ _ (.setState _ _ _) | .begin _ _ (.markCompensating _ _ _) | .begin _ _ (.finalize _ _)
  | .begin _ _ (.reopen _) | .begin _ _ (.claimStuck _ _) | .proceed _ | .abort _ => .isTrue trivial

theorem sweepsIn_call {now : Time} {call : Call} (alike : SweepsAlike visits (.begin id now call)) :
    call.phase.SweepsIn visits := by
  cases call with
  | start path tx => cases path <;> trivial
  | scan path tx sku priceCents => cases path <;> trivial
  | sweepAbandoned minutes own => exact alike
  | _ => trivial

/-- Step lemma. -/
theorem Orderly.step {action : Action} (orderly : Orderly visits server)
    (alike : SweepsAlike visits action) (taken : Sessions.step server action = some after) :
    Orderly visits after := by
  cases step_takes taken with
  | begins free =>
      obtain ⟨noRow, noRecord⟩ := orderly.gone _ free
      refine orderly.next rfl (fun _ _ _ held => held) (fun _ _ _ held => held) ?_
        (fun ended => by contradiction)
      rintro _ ⟨⟩
      exact ⟨fun tx held => absurd held (noRow tx), fun tx held => absurd held (noRecord tx),
        sweepsIn_call alike⟩
  | proceeds running done => exact orderly.performs running done
  | aborts running => exact orderly.finish

theorem Orderly.idle (visits : List TxId) (db : Database) : Orderly visits (idle db) where
  running _ _ found := by contradiction
  gone _ _ := ⟨fun _ held => by contradiction, fun _ held => by contradiction⟩

end Steps

/-- The lock that a session asks for next is held by `other`. -/
def WaitsFor (server : Server) (session : Session) (other : SessionId) : Prop :=
  match effect server.db session.now session.phase with
  | .lockRow tx _ => server.rowOwner tx = some other
  | .lockRecord tx _ => server.recordOwner tx = some other
  | _ => False

def Waits (server : Server) (id other : SessionId) : Prop :=
  ∃ session, server.sessions id = some session ∧ WaitsFor server session other

/-- Rows in the order the sweeps visit them, records after them. -/
def Server.rank (visits : List TxId) (server : Server) (id : SessionId) : WithTop (Nat ×ₗ Nat) :=
  match server.sessions id with
  | none => ⊤
  | some session =>
      match effect server.db session.now session.phase with
      | .lockRow tx _ => WithTop.some (visitRank visits tx)
      | _ => ⊤

section Progress

variable {visits : List TxId} {server after : Server} {id : SessionId} {session : Session}

/-- A session that is waited for waits itself only for what ranks higher. -/
theorem Orderly.ascends (orderly : Orderly visits server) (first second third : SessionId)
    (waits : Waits server first second) (onward : Waits server second third) :
    server.rank visits first < server.rank visits second := by
  obtain ⟨waiter, isWaiter, wants⟩ := waits
  obtain ⟨holder, isHolder, onward⟩ := onward
  have held := orderly.running second holder isHolder
  have orders := effect_orders server.db holder.now held.sweeps
  simp only [Server.rank, isWaiter, isHolder]
  unfold WaitsFor at wants onward
  cases wanted : effect server.db waiter.now waiter.phase with
  | lockRow tx phase =>
      rw [wanted] at wants
      simp only at wants
      cases next : effect server.db holder.now holder.phase with
      | lockRow later _ =>
          rw [next] at orders
          exact WithTop.coe_lt_coe.mpr (orders.1 tx (held.rows tx wants))
      | lockRecord => exact WithTop.coe_lt_top _
      | goto | tryLockRecord | rollback | commit =>
          rw [next] at onward
          exact onward.elim
  | lockRecord tx phase =>
      rw [wanted] at wants
      have holds := held.records tx wants
      cases next : effect server.db holder.now holder.phase with
      | lockRow later _ =>
          rw [next] at orders
          rw [orders.2.1] at holds
          contradiction
      | lockRecord =>
          rw [next] at orders
          rw [orders.1] at holds
          contradiction
      | goto | tryLockRecord | rollback | commit =>
          rw [next] at onward
          exact onward.elim
  | goto | tryLockRecord | rollback | commit =>
      rw [wanted] at wants
      exact wants.elim

/-- Who cannot go on waits for a session. -/
theorem waits_of_stuck (running : server.sessions id = some session)
    (stuck : Sessions.step server (.proceed id) = none) : ∃ other, Waits server id other := by
  simp only [Sessions.step, running] at stuck
  cases wanted : effect server.db session.now session.phase with
  | lockRow tx phase =>
      rw [wanted] at stuck
      simp only [Server.perform] at stuck
      split at stuck
      · rename_i other owned
        refine ⟨other, session, running, ?_⟩
        simpa only [WaitsFor, wanted] using owned
      · contradiction
  | lockRecord tx phase =>
      rw [wanted] at stuck
      simp only [Server.perform] at stuck
      split at stuck
      · rename_i other owned
        refine ⟨other, session, running, ?_⟩
        simpa only [WaitsFor, wanted] using owned
      · contradiction
  | tryLockRecord tx skipped phase =>
      rw [wanted] at stuck
      simp only [Server.perform] at stuck
      split at stuck <;> contradiction
  | goto | rollback | commit =>
      rw [wanted] at stuck
      contradiction

theorem Orderly.holder (orderly : Orderly visits server) {other : SessionId}
    (waits : Waits server id other) : ∃ holder, server.sessions other = some holder := by
  cases running : server.sessions other with
  | some holder => exact ⟨holder, rfl⟩
  | none =>
      obtain ⟨noRow, noRecord⟩ := orderly.gone other running
      obtain ⟨waiter, _, wants⟩ := waits
      unfold WaitsFor at wants
      split at wants
      · exact absurd wants (noRow _)
      · exact absurd wants (noRecord _)
      · exact wants.elim

/-- The sessions that are running are among these. -/
def Among (server : Server) (ids : Finset SessionId) : Prop :=
  ∀ id session, server.sessions id = some session → id ∈ ids

theorem Orderly.someone (orderly : Orderly visits server) {ids : Finset SessionId}
    (among : Among server ids) (running : server.sessions id = some session) :
    ∃ other, (Sessions.step server (.proceed other)).isSome = true := by
  obtain ⟨free, isFree, nobody⟩ := exists_not_waiting orderly.ascends
    (⟨id, Finset.mem_filter.mpr ⟨among id session running, by simp [running]⟩⟩ :
      (ids.filter fun id => (server.sessions id).isSome).Nonempty)
  obtain ⟨last, isLast⟩ := Option.isSome_iff_exists.mp (Finset.mem_filter.mp isFree).2
  refine ⟨free, ?_⟩
  by_contra stuck
  obtain ⟨other, waits⟩ := waits_of_stuck isLast (by simpa using stuck)
  obtain ⟨holder, isHolder⟩ := orderly.holder waits
  exact nobody other (Finset.mem_filter.mpr ⟨among other holder isHolder, by simp [isHolder]⟩) waits

end Progress

/-- At least the statements and locks a session in this phase still takes. -/
def Phase.cost (bound : Nat) : Phase → Nat
  | .insert _ => 2
  | .scan _ _ _ => 3
  | .scanLocking _ _ _ => 2
  | .lockTransaction _ _ => 7
  | .locking _ _ => 6
  | .getBasket _ _ _ => 5
  | .markCompleting _ _ _ => 2
  | .getCompletion _ _ _ _ => 4
  | .takeOver _ _ _ _ => 3
  | .takeOverLocking _ _ _ _ => 2
  | .setState _ _ _ _ => 3
  | .setStateLocking _ _ _ _ => 2
  | .finalize _ _ => 4
  | .finalizeLocking _ _ _ => 3
  | .finalizeRecord _ _ _ => 2
  | .reopen _ => 4
  | .reopenLocking _ _ => 3
  | .reopenRecord _ _ => 2
  | .sweep _ _ => bound + 3
  | .sweeping _ waiting _ => waiting.length + 2
  | .claim _ _ => bound + 3
  | .claiming _ _ waiting _ => waiting.length + 2
  | .committing _ => 1
  | .raising => 1

/-- The tables hold at most `bound` transactions and as many completion records, and every
sweep visits the rows in one order. -/
def Holding (bound : Nat) (visits : List TxId) (server : Server) (action : Action) : Prop :=
  server.db.transactions.rows.length ≤ bound ∧ server.db.completions.rows.length ≤ bound ∧
    SweepsAlike visits action

instance (bound : Nat) (visits : List TxId) (server : Server) (action : Action) :
    Decidable (Holding bound visits server action) :=
  inferInstanceAs (Decidable (_ ∧ _ ∧ _))

theorem cost_pos (bound : Nat) (phase : Phase) : 0 < phase.cost bound := by
  cases phase <;> simp [Phase.cost]

theorem cost_call (bound : Nat) (call : Call) : call.phase.cost bound ≤ bound + 7 := by
  cases call with
  | start path tx => cases path <;> simp [Call.phase, Phase.cost]
  | scan path tx sku priceCents => cases path <;> simp [Call.phase, Phase.cost]
  | _ => simp [Call.phase, Phase.cost]

theorem length_abandoned (db : Database) (minutes : Nat) (now : Time) (visits : List TxId) :
    (abandoned db minutes now visits).length ≤ db.transactions.rows.length := by
  simpa [abandoned, List.length_insertionSort] using
    List.length_filter_le _ db.transactions.rows

theorem length_stuck (db : Database) (lease : Nat) (now : Time) :
    (stuck db lease now).length ≤ db.completions.rows.length := by
  simpa [stuck, List.length_insertionSort] using List.length_filter_le _ db.completions.rows

/-- The phases an effect leads to cost less than `cost`. -/
def Effect.Cheaper (bound cost : Nat) : Effect → Prop
  | .goto phase => phase.cost bound < cost
  | .lockRow _ phase => ∀ latest, (phase latest).cost bound < cost
  | .lockRecord _ phase => ∀ latest, (phase latest).cost bound < cost
  | .tryLockRecord _ skipped phase =>
      skipped.cost bound < cost ∧ ∀ latest, (phase latest).cost bound < cost
  | .rollback | .commit _ => True

/-- Each statement or lock costs its session at least one. -/
theorem effect_cheaper {db : Database} {bound : Nat} (now : Time) (phase : Phase)
    (rows : db.transactions.rows.length ≤ bound) (records : db.completions.rows.length ≤ bound) :
    (effect db now phase).Cheaper bound (phase.cost bound) := by
  cases phase with
  | insert tx =>
      intro latest
      cases latest <;> simp [Phase.cost]
  | scan tx sku priceCents =>
      simp only [effect]
      split <;> simp [Effect.Cheaper, Phase.cost]
  | scanLocking tx sku priceCents =>
      intro latest
      simp only
      split <;> simp [Phase.cost]
  | lockTransaction tx lease =>
      simp only [effect]
      split <;> simp [Effect.Cheaper, Phase.cost]
  | locking tx lease =>
      intro latest
      cases latest <;> simp [Phase.cost]
  | getBasket tx lease row =>
      simp only [effect]
      split
      · trivial
      · trivial
      · split <;> simp [Effect.Cheaper, Phase.cost]
      · simp [Effect.Cheaper, Phase.cost]
  | getCompletion tx lease row basket =>
      simp only [effect]
      split
      · trivial
      · split
        · simp [Effect.Cheaper, Phase.cost]
        · split <;> simp [Effect.Cheaper, Phase.cost]
  | takeOver tx row basket read =>
      simp only [effect]
      split <;> simp [Effect.Cheaper, Phase.cost]
  | setState tx state error release =>
      simp only [effect]
      split <;> simp [Effect.Cheaper, Phase.cost]
  | finalize tx totalCents =>
      simp only [effect]
      split <;> simp [Effect.Cheaper, Phase.cost]
  | finalizeLocking tx totalCents found =>
      intro latest
      simp only
      split
      · simp [Phase.cost]
      · split <;> simp [Phase.cost]
  | reopen tx =>
      simp only [effect]
      split <;> simp [Effect.Cheaper, Phase.cost]
  | reopenLocking tx found =>
      intro latest
      simp only
      split
      · simp [Phase.cost]
      · split <;> simp [Phase.cost]
  | sweep minutes visits =>
      have listed := (length_abandoned db minutes now visits).trans rows
      simp only [effect, Effect.Cheaper, Phase.cost]
      omega
  | sweeping minutes waiting swept =>
      cases waiting with
      | nil => simp [effect, Effect.Cheaper, Phase.cost]
      | cons tx waiting =>
          intro latest
          simp only
          split
          · simp [Phase.cost]
          · split <;> simp [Phase.cost]
  | claim lease limit =>
      have listed := (length_stuck db lease now).trans records
      simp only [effect, Effect.Cheaper, Phase.cost]
      omega
  | claiming lease limit waiting claimed =>
      cases waiting with
      | nil => simp [effect, Effect.Cheaper, Phase.cost]
      | cons tx waiting =>
          simp only [effect]
          split
          · refine ⟨by simp [Phase.cost], fun latest => ?_⟩
            simp only
            split <;> simp [Phase.cost]
          · simp [Effect.Cheaper, Phase.cost]
  | markCompleting | takeOverLocking | setStateLocking | finalizeRecord | reopenRecord =>
      intro latest
      simp [Phase.cost]
  | committing work => trivial
  | raising => trivial

/-- What a session may still take; none where it is over. -/
def Server.cost (server : Server) (bound : Nat) (id : SessionId) : Nat :=
  (server.sessions id).elim 0 (fun session => session.phase.cost bound)

/-- What a new call of this session may come to. -/
def Action.allowance (bound : Nat) (id : SessionId) : Action → Nat
  | .begin other _ _ => if other = id then bound + 7 else 0
  | .proceed _ => 0
  | .abort _ => 0

section Runs

variable {bound : Nat} {visits : List TxId} {server after : Server} {action : Action}

/-- The others are left alone, and the session is over or goes on with less to do. -/
theorem perform_sessions {id : SessionId} {session : Session} {effect : Effect} {cost : Nat}
    (cheaper : effect.Cheaper bound cost)
    (done : server.perform id session effect = some after) :
    (∀ other, other ≠ id → after.sessions other = server.sessions other) ∧
    ∀ next, after.sessions id = some next → next.phase.cost bound < cost := by
  have moves : ∀ phase : Phase, phase.cost bound < cost →
      ((∀ other, other ≠ id →
        (server.setPhase id session phase).sessions other = server.sessions other) ∧
      ∀ next, (server.setPhase id session phase).sessions id = some next →
        next.phase.cost bound < cost) := by
    intro phase less
    refine ⟨fun other different => Function.update_of_ne different _ _, fun next here => ?_⟩
    simp only [Server.setPhase, Function.update_self, Option.some.injEq] at here
    subst here
    exact less
  have ends : (∀ other, other ≠ id → (server.finish id).sessions other = server.sessions other) ∧
      ∀ next, (server.finish id).sessions id = some next → next.phase.cost bound < cost := by
    refine ⟨fun other different => Function.update_of_ne different _ _, fun next here => ?_⟩
    simp [Server.finish] at here
  cases effect with
  | goto phase =>
      cases done
      exact moves phase cheaper
  | lockRow tx phase =>
      simp only [Server.perform] at done
      split at done
      · contradiction
      · cases done
        exact moves _ (cheaper _)
  | lockRecord tx phase =>
      simp only [Server.perform] at done
      split at done
      · contradiction
      · cases done
        exact moves _ (cheaper _)
  | tryLockRecord tx skipped phase =>
      simp only [Server.perform] at done
      split at done
      · cases done
        exact moves _ cheaper.1
      · cases done
        exact moves _ (cheaper.2 _)
  | rollback =>
      cases done
      exact ends
  | commit work =>
      cases done
      exact ends

/-- A statement costs its session one, and only a new call gives it more. -/
theorem step_cost (id : SessionId) (holding : Holding bound visits server action)
    (taken : step server action = some after) :
    (if action = .proceed id then 1 else 0) + after.cost bound id ≤
      server.cost bound id + action.allowance bound id := by
  cases step_takes taken with
  | @begins other now call free =>
      by_cases own : id = other
      · subst own
        have most := cost_call bound call
        simp only [reduceCtorEq, ↓reduceIte, Server.cost, Function.update_self, Option.elim_some,
          Action.allowance]
        omega
      · simp [Server.cost, own]
  | @proceeds other session after running done =>
      obtain ⟨others, mine⟩ :=
        perform_sessions (effect_cheaper session.now session.phase holding.1 holding.2.1) done
      by_cases own : id = other
      · subst own
        have before : server.cost bound id = session.phase.cost bound := by
          simp [Server.cost, running]
        have less : after.cost bound id < session.phase.cost bound := by
          cases still : after.sessions id with
          | none => simpa [Server.cost, still] using cost_pos bound session.phase
          | some next => simpa [Server.cost, still] using mine next still
        simp only [↓reduceIte, Action.allowance]
        omega
      · have same : after.cost bound id = server.cost bound id := by
          simp only [Server.cost, others id own]
        simp [same, Ne.symm own]
  | @aborts other session running =>
      by_cases own : id = other
      · simp [Server.cost, Server.finish, own]
      · simp [Server.cost, Server.finish, own]

theorem Among.step {ids : Finset SessionId} (among : Among server ids)
    (holding : Holding bound visits server action) (taken : step server action = some after) :
    ∃ more, Among after more := by
  cases step_takes taken with
  | @begins id now call free =>
      refine ⟨insert id ids, fun other next here => ?_⟩
      by_cases own : other = id
      · simp [own]
      · exact Finset.mem_insert_of_mem (among other next (by simpa [own] using here))
  | @proceeds id session after running done =>
      obtain ⟨others, _⟩ :=
        perform_sessions (effect_cheaper session.now session.phase holding.1 holding.2.1) done
      refine ⟨ids, fun other next here => ?_⟩
      by_cases own : other = id
      · exact own ▸ among id session running
      · exact among other next ((others other own).symm.trans here)
  | @aborts id session running =>
      refine ⟨ids, fun other next here => ?_⟩
      by_cases own : other = id
      · exact own ▸ among id session running
      · exact among other next (by simpa [Server.finish, own] using here)

/-- Sessions finish.  In every run of checkout's statements over tables of at most `bound` rows,
with rollbacks and crashes anywhere, in which all sweeps visit the rows in one order: a call
takes at most `bound + 7` statements and locks; while any session is running one of them can go
on; and when none is, nothing is locked. -/
theorem sessions_finish {db : Database} {labels : List Action}
    (run : Run step (Holding bound visits) (idle db) labels server) :
    (∀ id, labels.countP (fun action => action = .proceed id) + server.cost bound id ≤
      (labels.map (Action.allowance bound id)).sum) ∧
    ((∃ id session, server.sessions id = some session) →
      ∃ id, (step server (.proceed id)).isSome = true) ∧
    ((∀ id, server.sessions id = none) →
      (∀ tx, server.rowOwner tx = none) ∧ ∀ tx, server.recordOwner tx = none) := by
  have all : Orderly visits server ∧ (∃ ids, Among server ids) ∧
      ∀ id, labels.countP (fun action => action = .proceed id) + server.cost bound id ≤
        (labels.map (Action.allowance bound id)).sum := by
    induction run with
    | start =>
        exact ⟨.idle visits db, ⟨∅, fun _ _ found => by contradiction⟩,
          fun id => by simp [Server.cost, idle]⟩
    | snoc past permitted taken ih =>
        obtain ⟨orderly, ⟨ids, among⟩, cost⟩ := ih
        refine ⟨orderly.step permitted.2.2 taken, among.step permitted taken, fun id => ?_⟩
        have before := cost id
        have next := step_cost id permitted taken
        simp only [List.countP_append, List.countP_cons, List.countP_nil, decide_eq_true_eq,
          List.map_append, List.map_cons, List.map_nil, List.sum_append, List.sum_cons,
          List.sum_nil, add_zero, zero_add]
        omega
  obtain ⟨orderly, ⟨ids, among⟩, cost⟩ := all
  refine ⟨cost, ?_, fun ended => ⟨fun tx => ?_, fun tx => ?_⟩⟩
  · rintro ⟨id, session, running⟩
    exact orderly.someone among running
  · cases owner : server.rowOwner tx with
    | none => rfl
    | some id => exact absurd owner ((orderly.gone id (ended id)).1 tx)
  · cases owner : server.recordOwner tx with
    | none => rfl
    | some id => exact absurd owner ((orderly.gone id (ended id)).2 tx)

end Runs

/-- A sweep has locked one transaction and waits for another, which `_begin` holds; a second
sweep waits for the first. -/
def sweepBehindBegin : List Action :=
  [.begin 0 0 (.start .fast 1), .proceed 0, .proceed 0,
    .begin 0 0 (.start .session 2), .proceed 0, .proceed 0,
    .begin 0 5 (.scan .fast 2 "SKU-000001" 250), .proceed 0, .proceed 0, .proceed 0,
    .begin 1 4000 (.begin 2 60), .proceed 1, .proceed 1,
    .begin 2 4000 (.sweepAbandoned 30 []), .proceed 2, .proceed 2,
    .begin 3 4000 (.sweepAbandoned 30 []), .proceed 3]

theorem sweepBehindBegin_runs :
    (sweepBehindBegin.foldlM (Data.guarded step (Holding 2 [])) (idle emptyDatabase)).isSome = true := by
  decide +kernel

/-- Two of the three sessions wait, and `_begin` can go on. -/
theorem sessions_finish_sweepBehindBegin :
    ∃ id, (step (Option.get _ sweepBehindBegin_runs) (.proceed id)).isSome = true := by
  have finish := sessions_finish (.of_guarded (Option.some_get sweepBehindBegin_runs).symm)
  exact finish.2.1 ⟨1, Option.get _ (show
    ((Option.get _ sweepBehindBegin_runs).sessions 1).isSome = true by decide +kernel),
    (Option.some_get _).symm⟩

example :
    let server := Option.get _ sweepBehindBegin_runs
    (step server (.proceed 1)).isSome = true ∧ step server (.proceed 2) = none ∧
      step server (.proceed 3) = none := by
  refine ⟨by decide +kernel, ?_, ?_⟩ <;> exact Option.isNone_iff_eq_none.mp (by decide +kernel)

/-- Two sweeps that visit the rows in different orders: each waits for the row the other has. -/
def crossingSweeps : List Action :=
  [.begin 0 0 (.start .fast 1), .proceed 0, .proceed 0,
    .begin 0 0 (.start .session 2), .proceed 0, .proceed 0,
    .begin 1 4000 (.sweepAbandoned 30 [1, 2]), .begin 2 4000 (.sweepAbandoned 30 [2, 1]),
    .proceed 1, .proceed 2, .proceed 1, .proceed 2]

example : (crossingSweeps.foldlM step (idle emptyDatabase)).map (fun server =>
    ((step server (.proceed 1)).isSome, (step server (.proceed 2)).isSome)) =
      some (false, false) := by
  decide +kernel

end SelfCheckout.Checkout.Sessions
