import Mathlib.Algebra.BigOperators.Group.Finset.Basic
import Mathlib.Algebra.Order.BigOperators.Group.List
import SelfCheckout.LoadClient.Accounts

namespace SelfCheckout.LoadClient.Stations

open SelfCheckout.Data SelfCheckout.Mock

/-! # The totals of a load test

`Main` reports what the stations counted.  It is held here against the baskets, the completed
transactions and the stock of the server, whichever answers were lost on the way.
-/

section Totals

variable {config : Config} {system after : System} {station : StationId} {handler : HandlerId}

/-- What `Main` adds up over the workers. -/
def System.total (system : System) (config : Config) (counter : Worker → Nat) : Nat :=
  ∑ station ∈ Finset.range config.stations, counter (system.workers station)

/-- Every counter is the length of what it counts. -/
structure Counted (config : Config) (system : System) : Prop where
  completed : system.total config Worker.transactionsCompleted = system.history.receipts.length
  scanned : system.total config Worker.itemsScanned = system.history.scans.length
  completions : system.successes .completeTransaction = system.history.receipts.length
  scans : system.successes .scanItem = system.history.scans.length
  lostCompletions :
    system.history.unansweredCompletions.length ≤ system.errors .completeTransaction
  lostScans : system.history.unansweredScans.length ≤ system.errors .scanItem

theorem total_succ {counter : Worker → Nat} {worker : Worker} (inside : station < config.stations)
    (one : counter worker = counter (system.workers station) + 1) :
    ∑ other ∈ Finset.range config.stations,
      counter (Function.update system.workers station worker other) =
        system.total config counter + 1 := by
  have isIn := Finset.mem_range.mpr inside
  have others : ∑ other ∈ (Finset.range config.stations).erase station,
        counter (Function.update system.workers station worker other) =
      ∑ other ∈ (Finset.range config.stations).erase station, counter (system.workers other) :=
    Finset.sum_congr rfl fun other member => by
      rw [Function.update_of_ne (Finset.ne_of_mem_erase member)]
  unfold System.total
  rw [← Finset.add_sum_erase _ _ isIn, Function.update_self, others, one, Nat.add_right_comm,
    Finset.add_sum_erase _ (fun other => counter (system.workers other)) isIn]

theorem total_same {counter : Worker → Nat} {worker : Worker}
    (same : counter worker = counter (system.workers station)) :
    ∑ other ∈ Finset.range config.stations,
      counter (Function.update system.workers station worker other) =
        system.total config counter := by
  refine Finset.sum_congr rfl fun other _ => ?_
  by_cases own : other = station
  · rw [own, Function.update_self, same]
  · rw [Function.update_of_ne own]

/-- A step that counts no success. -/
theorem Counted.keeps (counted : Counted config system)
    (workers : ∃ station thread, after.workers =
      Function.update system.workers station { system.workers station with thread })
    (successes : ∀ operation, operation ≠ .startTransaction →
      after.successes operation = system.successes operation)
    (receipts : after.history.receipts = system.history.receipts)
    (scans : after.history.scans = system.history.scans)
    (completions : after.history.unansweredCompletions.length + system.errors .completeTransaction ≤
      system.history.unansweredCompletions.length + after.errors .completeTransaction)
    (lostScans : after.history.unansweredScans.length + system.errors .scanItem ≤
      system.history.unansweredScans.length + after.errors .scanItem) : Counted config after := by
  obtain ⟨station, thread, workers⟩ := workers
  have total : ∀ counter : Worker → Nat, (∀ worker : Worker,
      counter { worker with thread } = counter worker) →
      after.total config counter = system.total config counter := by
    intro counter blind
    unfold System.total
    rw [workers]
    exact total_same (blind _)
  refine ⟨?_, ?_, ?_, ?_, ?_, ?_⟩
  · rw [total _ (fun _ => rfl), receipts]
    exact counted.completed
  · rw [total _ (fun _ => rfl), scans]
    exact counted.scanned
  · rw [successes .completeTransaction (by decide), receipts]
    exact counted.completions
  · rw [successes .scanItem (by decide), scans]
    exact counted.scans
  · have before := counted.lostCompletions
    omega
  · have before := counted.lostScans
    omega

theorem Counted.sends {request : Mock.Request} {next : Thread} (counted : Counted config system)
    (sent : system.send station handler request next = some after) : Counted config after := by
  simp only [System.send, Option.map_eq_some_iff] at sent
  obtain ⟨server, _, rfl⟩ := sent
  exact counted.keeps ⟨station, _, rfl⟩ (fun _ _ => rfl) rfl rfl le_rfl le_rfl

theorem Counted.calls {sku : Mock.Sku} {thread : Thread} (counted : Counted config system)
    (called : system.call station handler sku thread = some after) : Counted config after := by
  simp only [System.call] at called
  split at called
  · split at called
    · contradiction
    · exact counted.sends called
  · exact counted.sends called
  · split at called
    · exact counted.sends called
    · contradiction
  · contradiction

theorem le_recordError (system : System) (failed operation : Operation) :
    system.errors operation ≤ (system.recordError failed).errors operation := by
  by_cases same : operation = failed
  · simp [System.recordError, same]
  · simp [System.recordError, same]

theorem Counted.receives {basketSize : Nat} {response : Response} (counted : Counted config system)
    (inside : station < config.stations)
    (received : system.receive config station basketSize (system.thread station) response =
      some after) : Counted config after := by
  have failed : ∀ operation handler, Counted config
      (((system.hangUp handler).setThread station .idle).recordError operation) := by
    intro operation handler
    exact counted.keeps ⟨station, _, rfl⟩ (fun _ _ => rfl) rfl rfl
      (Nat.add_le_add_left (le_recordError system operation _) _)
      (Nat.add_le_add_left (le_recordError system operation _) _)
  cases at_ : system.thread station with
  | starting own =>
      rw [at_] at received
      cases response with
      | started tx stationId =>
          simp only [System.receive] at received
          split at received
          · cases received
            exact counted.keeps ⟨station, _, rfl⟩ (fun _ other => Function.update_of_ne other _ _) rfl rfl
              le_rfl le_rfl
          · contradiction
      | _ =>
          cases received
          exact failed _ _
  | scanning tx left own =>
      rw [at_] at received
      cases response with
      | scanned other sku itemCount =>
          cases received
          obtain ⟨completed, scanned, completions, scans, lostCompletions, lostScans⟩ := counted
          refine ⟨?_, ?_, completions, ?_, lostCompletions, lostScans⟩
          · refine Eq.trans ?_ completed
            exact total_same rfl
          · refine (total_succ inside rfl).trans ?_
            show _ = (system.history.scans ++ [tx]).length
            rw [scanned, List.length_append]
            rfl
          · show system.successes .scanItem + 1 = (system.history.scans ++ [tx]).length
            rw [scans, List.length_append]
            rfl
      | _ =>
          cases received
          exact failed _ _
  | completing tx own =>
      rw [at_] at received
      cases response with
      | receipt other itemCount =>
          cases received
          obtain ⟨completed, scanned, completions, scans, lostCompletions, lostScans⟩ := counted
          refine ⟨?_, ?_, ?_, scans, lostCompletions, lostScans⟩
          · refine (total_succ inside rfl).trans ?_
            show _ = (system.history.receipts ++ [tx]).length
            rw [completed, List.length_append]
            rfl
          · refine Eq.trans ?_ scanned
            exact total_same rfl
          · show system.successes .completeTransaction + 1 = (system.history.receipts ++ [tx]).length
            rw [completions, List.length_append]
            rfl
      | _ =>
          cases received
          exact failed _ _
  | idle | shopping | returned =>
      rw [at_] at received
      contradiction

theorem Counted.fails (counted : Counted config system)
    (failed : system.fail station (system.thread station) = some after) : Counted config after := by
  have still := Function.update_eq_self station system.workers
  cases at_ : system.thread station with
  | idle =>
      simp only [at_, System.fail] at failed
      split at failed
      · contradiction
      · cases failed
        exact counted.keeps ⟨station, _, still.symm⟩ (fun _ _ => rfl) rfl rfl le_rfl le_rfl
  | starting own =>
      rw [at_] at failed
      cases failed
      exact counted.keeps ⟨station, _, rfl⟩ (fun _ _ => rfl) rfl rfl le_rfl le_rfl
  | shopping tx left =>
      rw [at_] at failed
      cases failed
      exact counted.keeps ⟨station, _, rfl⟩ (fun _ _ => rfl) rfl rfl
        (Nat.add_le_add_left (le_recordError system _ _) _)
        (Nat.add_le_add_left (le_recordError system _ _) _)
  | scanning tx left own =>
      rw [at_] at failed
      cases failed
      refine counted.keeps ⟨station, _, rfl⟩ (fun _ _ => rfl) rfl rfl le_rfl ?_
      rw [List.length_append, Nat.add_assoc]
      exact (Nat.add_left_cancel_iff.mpr (Nat.add_comm _ _)).le
  | completing tx own =>
      rw [at_] at failed
      cases failed
      refine counted.keeps ⟨station, _, rfl⟩ (fun _ _ => rfl) rfl rfl ?_ le_rfl
      rw [List.length_append, Nat.add_assoc]
      exact (Nat.add_left_cancel_iff.mpr (Nat.add_comm _ _)).le
  | returned =>
      rw [at_] at failed
      contradiction

/-- Step lemma. -/
theorem Counted.step {action : Action} (counted : Counted config system)
    (taken : Stations.step config system action = some after) : Counted config after := by
  have still := Function.update_eq_self 0 system.workers
  cases action with
  | call station handler sku =>
      simp only [Stations.step] at taken
      split at taken
      · exact counted.calls taken
      · contradiction
  | receive station basketSize =>
      simp only [Stations.step] at taken
      split at taken
      · rename_i inside
        split at taken
        · exact counted.receives inside taken
        · contradiction
      · contradiction
  | fail station =>
      simp only [Stations.step] at taken
      split at taken
      · exact counted.fails taken
      · contradiction
  | leave station =>
      simp only [Stations.step] at taken
      split at taken
      · cases taken
        exact counted.keeps ⟨station, _, rfl⟩ (fun _ _ => rfl) rfl rfl le_rfl le_rfl
      · contradiction
  | serve handler | restart handler =>
      simp only [Stations.step, Option.map_eq_some_iff] at taken
      obtain ⟨server, _, rfl⟩ := taken
      exact counted.keeps ⟨0, _, still.symm⟩ (fun _ _ => rfl) rfl rfl le_rfl le_rfl
  | drop handler =>
      simp only [Stations.step] at taken
      split at taken
      · cases taken
        exact counted.keeps ⟨0, _, still.symm⟩ (fun _ _ => rfl) rfl rfl le_rfl le_rfl
      · cases taken
        exact counted.keeps ⟨0, _, still.symm⟩ (fun _ _ => rfl) rfl rfl le_rfl le_rfl
      · contradiction
  | requestStop =>
      cases taken
      exact counted.keeps ⟨0, _, still.symm⟩ (fun _ _ => rfl) rfl rfl le_rfl le_rfl

/-- The items in all baskets. -/
def basketItems (server : MockServer) : Nat :=
  (server.transactions.rows.map (fun row => row.2.basket.length)).sum

theorem sum_ite_eq_count {Key : Type*} [DecidableEq Key] (one : Key) (keys : List Key) :
    (keys.map (fun key => if one = key then 1 else 0)).sum = keys.count one := by
  induction keys with
  | nil => rfl
  | cons key keys ih =>
      rw [List.map_cons, List.sum_cons, ih, List.count_cons, Nat.add_comm]
      by_cases same : one = key
      · simp [same]
      · simp [same, Ne.symm same]

/-- The entries of some keys are counted key by key. -/
theorem sum_countP_keys {Entry Key : Type*} [DecidableEq Key] (keyOf : Entry → Key)
    {keys : List Key} (nodup : keys.Nodup) (entries : List Entry) :
    (keys.map (fun key => entries.countP (fun entry => keyOf entry = key))).sum =
      entries.countP (fun entry => keyOf entry ∈ keys) := by
  induction entries with
  | nil => simp
  | cons entry entries ih =>
      simp only [List.countP_cons, List.sum_map_add, ih, decide_eq_true_eq, sum_ite_eq_count,
        nodup.count]

theorem sum_count_keys {Key : Type*} [DecidableEq Key] {keys : List Key} (nodup : keys.Nodup)
    (entries : List Key) :
    (keys.map entries.count).sum = entries.countP (fun entry => entry ∈ keys) := by
  refine Eq.trans (congrArg List.sum (List.map_congr_left fun key _ => ?_))
    (sum_countP_keys id nodup entries)
  rw [List.count_eq_countP]
  exact List.countP_congr fun entry _ => by simp

/-- What is sold is what is sold of the completed transactions. -/
theorem sold_eq_sum {server : MockServer} (ledger : Ledger server) (sku : Mock.Sku) :
    server.sold sku =
      (server.completions.map (fun tx => (server.soldOf tx).count sku)).sum := by
  have isClosed : ∀ sale ∈ server.sales, sale.1 ∈ server.completions := by
    intro sale member
    by_contra isOpen
    have isIn : sale.2 ∈ server.soldOf sale.1 :=
      List.mem_map_of_mem (List.mem_filter.mpr ⟨member, by simp⟩)
    rw [ledger.unsold sale.1 isOpen] at isIn
    contradiction
  have byTx : ∀ tx, (server.soldOf tx).count sku =
      (server.sales.filter (fun sale => sale.2 = sku)).countP (fun sale => sale.1 = tx) := by
    intro tx
    rw [MockServer.soldOf, List.count_eq_countP, List.countP_map, List.countP_filter, List.countP_filter]
    exact List.countP_congr fun sale _ => by simp [and_comm]
  simp only [byTx]
  rw [sum_countP_keys Prod.fst ledger.nodup, List.countP_filter, MockServer.sold,
    List.count_eq_countP, List.countP_map]
  exact List.countP_congr fun sale member => by simp [isClosed sale member]

theorem basketItems_eq_sum (server : MockServer) :
    basketItems server = ((server.transactions.rows.map Prod.fst).map (length server)).sum := by
  rw [basketItems, List.map_map]
  refine congrArg List.sum (List.map_congr_left fun row member => ?_)
  have found : server.transactions.lookup row.1 = some row.2 :=
    Table.lookup_eq_some.mpr member
  simp [length, MockServer.basketOf, found]

theorem call_server {sku : Mock.Sku} {thread : Thread}
    (called : system.call station handler sku thread = some after) :
    ∃ request, Mock.step system.server (.receive handler request) = some after.server := by
  have sent : ∀ {request next}, system.send station handler request next = some after →
      ∃ request, Mock.step system.server (.receive handler request) = some after.server := by
    intro request next sent
    simp only [System.send, Option.map_eq_some_iff] at sent
    obtain ⟨server, received, rfl⟩ := sent
    exact ⟨request, received⟩
  simp only [System.call] at called
  split at called
  · split at called
    · contradiction
    · exact sent called
  · exact sent called
  · split at called
    · exact sent called
    · contradiction
  · contradiction

theorem receive_server {basketSize : Nat} {thread : Thread} {response : Response}
    (received : system.receive config station basketSize thread response = some after) :
    ∃ handlers, after.server = { system.server with handlers } := by
  simp only [System.receive] at received
  split at received
  · split at received
    · cases received
      exact ⟨_, rfl⟩
    · contradiction
  all_goals
    cases received <;> exact ⟨_, rfl⟩

theorem fail_server {thread : Thread} (failed : system.fail station thread = some after) :
    after.server = system.server := by
  simp only [System.fail] at failed
  split at failed
  · split at failed
    · contradiction
    · cases failed
      rfl
  all_goals
    cases failed <;> rfl

/-- The stations change nothing in the stock. -/
theorem Sound.stocked {stockPerItem : Int} {action : Action} (sound : Sound system)
    (stocked : Stocked stockPerItem system.server)
    (taken : Stations.step config system action = some after) : Stocked stockPerItem after.server := by
  cases action with
  | call station handler sku =>
      simp only [Stations.step] at taken
      split at taken
      · obtain ⟨request, received⟩ := call_server taken
        exact stocked.step sound.serving.numbered received
      · contradiction
  | receive station basketSize =>
      simp only [Stations.step] at taken
      split at taken
      · split at taken
        · obtain ⟨handlers, same⟩ := receive_server taken
          rw [same]
          exact stocked
        · contradiction
      · contradiction
  | fail station =>
      simp only [Stations.step] at taken
      split at taken
      · rw [fail_server taken]
        exact stocked
      · contradiction
  | leave station =>
      simp only [Stations.step] at taken
      split at taken
      · cases taken
        exact stocked
      · contradiction
  | serve handler | restart handler =>
      simp only [Stations.step, Option.map_eq_some_iff] at taken
      obtain ⟨server, served, rfl⟩ := taken
      exact stocked.step sound.serving.numbered served
  | drop handler =>
      simp only [Stations.step] at taken
      split at taken
      · cases taken
        exact stocked
      · cases taken
        exact stocked
      · contradiction
  | requestStop =>
      cases taken
      exact stocked

theorem start_sound (catalogSize : Nat) (stockPerItem : Int) :
    Sound (start (mockServer catalogSize stockPerItem)) := by
  have serving : Serving (mockServer catalogSize stockPerItem) := by
    refine ⟨⟨?_, ?_, ?_, ?_⟩, ⟨?_, List.nodup_nil, ?_, fun _ _ => rfl, ?_⟩, ?_⟩
    · exact fun tx isKnown => by contradiction
    · exact fun handler tx stationId here => by contradiction
    · exact fun one other tx first second here => by contradiction
    · exact fun handler phase tx here => by contradiction
    · exact fun tx row found => by contradiction
    · exact fun tx isClosed => by contradiction
    · exact fun tx isClosed => by contradiction
    · exact fun handler phase here => by contradiction
  refine ⟨serving, ⟨?_, ?_, ?_, ?_, ?_⟩, ⟨?_, ?_, ?_, ?_, ?_, ?_, List.nodup_nil, ?_, ?_⟩⟩
  · exact fun station handler waits => by contradiction
  · exact fun station handler owns => by contradiction
  · exact fun one other tx first => by contradiction
  · exact fun one other tx first => by contradiction
  · exact fun station handler tx mine => by contradiction
  · exact fun station => trivial
  · exact fun handler phase tx here => by contradiction
  · exact fun handler phase tx here => by contradiction
  · exact fun handler phase tx here => by contradiction
  · exact fun tx => Nat.le_refl 0
  · exact fun tx => .inl (Nat.le_refl 0)
  · exact fun tx counted => by contradiction
  · exact fun tx isClosed => by contradiction

theorem start_counted (server : MockServer) : Counted config (start server) := by
  refine ⟨?_, ?_, rfl, rfl, Nat.le_refl 0, Nat.le_refl 0⟩
  · exact Finset.sum_const_zero
  · exact Finset.sum_const_zero

theorem completions_between (sound : Sound system)
    (ended : ∀ station, (system.thread station).waits = none) :
    system.history.receipts.length ≤ system.server.completions.length ∧
      system.server.completions.length ≤
        system.history.receipts.length + system.history.unansweredCompletions.length := by
  constructor
  · exact (List.subperm_of_subset sound.books.nodup (fun tx => sound.books.closed tx)).length_le
  · rw [← List.length_append]
    refine (List.subperm_of_subset sound.serving.ledger.nodup fun tx isClosed => ?_).length_le
    rcases sound.books.completed tx isClosed with counted | lost | ⟨station, completing⟩
    · exact List.mem_append_left _ counted
    · exact List.mem_append_right _ lost
    · rw [call_of_quiet (ended station)] at completing
      contradiction

theorem items_between (sound : Sound system) (ended : ∀ station, (system.thread station).waits = none) :
    system.history.scans.length ≤ basketItems system.server ∧
      basketItems system.server ≤
        system.history.scans.length + system.history.unansweredScans.length := by
  have nodup := system.server.transactions.keysNodup
  have scanned : ∀ tx ∈ system.history.scans, tx ∈ system.server.transactions.rows.map Prod.fst := by
    intro tx member
    by_contra absent
    have unknown : system.server.transactions.lookup tx = none := Table.lookupRows_eq_none.mpr absent
    have counted := sound.books.least tx
    simp only [length, MockServer.basketOf, unknown, Option.elim_none, List.length_nil] at counted
    exact absurd (List.count_pos_iff.mpr member) (Nat.not_lt.mpr counted)
  have all := sum_count_keys nodup system.history.scans
  rw [List.countP_eq_length.mpr (fun tx member => decide_eq_true (scanned tx member))] at all
  rw [basketItems_eq_sum, ← all]
  constructor
  · exact List.sum_le_sum fun tx _ => sound.books.least tx
  · have lost := sum_count_keys nodup system.history.unansweredScans
    calc ((system.server.transactions.rows.map Prod.fst).map (length system.server)).sum
      _ ≤ ((system.server.transactions.rows.map Prod.fst).map (fun tx =>
            system.history.scans.count tx + system.history.unansweredScans.count tx)).sum := by
          refine List.sum_le_sum fun tx _ => ?_
          rcases sound.books.most tx with most | ⟨⟨station, scanning⟩, _⟩
          · exact most
          · rw [call_of_quiet (ended station)] at scanning
            contradiction
      _ = _ := List.sum_map_add
      _ ≤ _ := by
          rw [lost]
          exact Nat.add_le_add_left List.countP_le_length _

/-- What the load test reports of the server.  In every run of the stations against the mock
server, whichever requests and answers are lost: no call is refused; a transaction has the items
of the scans its station counted, and of some whose answer never came; each receipt is of a
completed transaction of its own, and every other completed one was asked for by a call whose
answer never came.  Once no station waits any more, the totals of the report are the counts of
the metrics, the server has completed as many transactions and holds as many items, and what it
has beyond them is less than the errors recorded.  And once no handler sells, the stock is the
initial one less the baskets of the completed transactions, and never below zero. -/
theorem stations_account {catalogSize : Nat} {stockPerItem : Int} {actions : List Action}
    (least : 0 ≤ stockPerItem) (most : stockPerItem < 2 ^ 31)
    (run : Run (step config) Any (start (mockServer catalogSize stockPerItem)) actions system) :
    (∀ handler response, system.server.handlers handler = some (.answered response) →
      (Phase.answered response).call ≠ none) ∧
    (∀ tx, system.history.scans.count tx ≤ (system.server.basketOf tx).length ∧
      ((system.server.basketOf tx).length ≤
          system.history.scans.count tx + system.history.unansweredScans.count tx ∨
        (∃ station, (system.thread station).call = some (.scan tx)) ∧
          (system.server.basketOf tx).length ≤
            system.history.scans.count tx + system.history.unansweredScans.count tx + 1)) ∧
    (system.history.receipts.Nodup ∧ system.server.completions.Nodup ∧ ∀ tx,
      (tx ∈ system.history.receipts → tx ∈ system.server.completions) ∧
      (tx ∈ system.server.completions → tx ∈ system.history.receipts ∨
        tx ∈ system.history.unansweredCompletions ∨
        ∃ station, (system.thread station).call = some (.complete tx))) ∧
    (system.total config Worker.transactionsCompleted = system.successes .completeTransaction ∧
      system.total config Worker.itemsScanned = system.successes .scanItem ∧
      ((∀ station, (system.thread station).waits = none) →
        system.successes .completeTransaction ≤ system.server.completions.length ∧
        system.server.completions.length ≤
          system.successes .completeTransaction + system.errors .completeTransaction ∧
        system.successes .scanItem ≤ basketItems system.server ∧
        basketItems system.server ≤ system.successes .scanItem + system.errors .scanItem)) ∧
    ((∀ handler phase, system.server.handlers handler = some phase → phase.sells = none) →
      ∀ sku, system.server.stock sku = max 0 (stockPerItem -
        ((system.server.completions.map (fun tx =>
          (system.server.basketOf tx).count sku)).sum : Nat))) := by
  have all : Sound system ∧ Counted config system ∧ Stocked stockPerItem system.server := by
    induction run with
    | start => exact ⟨start_sound catalogSize stockPerItem, start_counted _, fun _ => rfl⟩
    | snoc past permitted taken ih =>
        obtain ⟨sound, counted, stocked⟩ := ih
        exact ⟨sound.step taken, counted.step taken, sound.stocked stocked taken⟩
  obtain ⟨sound, counted, stocked⟩ := all
  have books := sound.books
  refine ⟨fun handler response here => ?_, fun tx => ⟨books.least tx, books.most tx⟩,
    ⟨books.nodup, sound.serving.ledger.nodup, fun tx => ⟨books.closed tx, books.completed tx⟩⟩,
    ⟨?_, ?_, fun ended => ?_⟩, fun silent sku => ?_⟩
  · have facts := sound.serving.facts handler _ here
    cases response <;> first | exact facts.elim | exact fun _ => by contradiction
  · rw [counted.completed, counted.completions]
  · rw [counted.scanned, counted.scans]
  · have completions := completions_between sound ended
    have items := items_between sound ended
    rw [counted.completions, counted.scans]
    exact ⟨completions.1, completions.2.trans (Nat.add_le_add_left counted.lostCompletions _), items.1,
      items.2.trans (Nat.add_le_add_left counted.lostScans _)⟩
  · rw [stocked sku, decremented_iterate least most, sold_eq_sum sound.serving.ledger]
    refine congrArg (fun sold : Nat => max 0 (stockPerItem - (sold : Int)))
      (congrArg List.sum (List.map_congr_left fun tx isClosed => ?_))
    rcases sound.serving.ledger.settled tx isClosed with ⟨handler, phase, here, selling⟩ | done
    · rw [silent handler phase here] at selling
      contradiction
    · rw [done]

end Totals

def twoStations : Config := ⟨2, 1, 2, by decide⟩

def served (station : StationId) (handler : HandlerId) (steps : Nat) : List Action :=
  .call station handler (catalogSku 1) :: List.replicate steps (.serve handler)

/-- A scan and a request to complete are answered when their stations wait no longer. -/
def answersLost : List Action :=
  served 0 0 2 ++ [.receive 0 2] ++ served 0 0 7 ++ [.receive 0 0] ++ served 0 0 2 ++ [.fail 0] ++
  List.replicate 6 (.serve 0) ++ [.drop 0] ++
  served 1 1 2 ++ [.receive 1 1] ++ served 1 1 9 ++ [.receive 1 0] ++ served 1 1 2 ++ [.fail 1] ++
  served 0 0 2 ++ [.receive 0 1] ++ served 0 0 10 ++ [.receive 0 0] ++
  served 0 0 7 ++ [.receive 0 0] ++
  List.replicate 5 (.serve 1) ++ [.drop 1, .requestStop, .leave 0, .leave 1]

theorem answersLost_runs :
    (answersLost.foldlM (step twoStations) (start (mockServer 1 3))).isSome = true := by
  decide +kernel

theorem stations_account_answersLost :
    let system := Option.get _ answersLost_runs
    system.history.scans.count 1 ≤ (system.server.basketOf 1).length ∧
      system.server.completions.Nodup ∧
      system.total twoStations Worker.itemsScanned = system.successes .scanItem :=
  have account := stations_account (by decide) (by decide)
    (.of_foldlM (Option.some_get answersLost_runs).symm)
  ⟨(account.2.1 1).1, account.2.2.1.2.1, account.2.2.2.1.2.1⟩

example :
    let system := Option.get _ answersLost_runs
    (system.successes .scanItem, basketItems system.server, system.successes .completeTransaction,
      system.server.completions, system.server.stock (catalogSku 1)) = (3, 4, 1, [3, 2], 1) := by
  decide +kernel

end SelfCheckout.LoadClient.Stations
