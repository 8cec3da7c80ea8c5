import SelfCheckout.Mock.Counts

namespace SelfCheckout.Mock

open SelfCheckout.Data SelfCheckout.Data.Rfc8259

/-! # Calls that follow one another

What a handler knows of its transaction while no other handler works on it: then no call is
refused, and what is sold of a transaction is its basket, item by item.
-/

/-- The units of a transaction taken off the stock. -/
def MockServer.soldOf (server : MockServer) (tx : TxId) : List Sku :=
  (server.sales.filter (fun sale => sale.1 = tx)).map Prod.snd

inductive Call where
  | start
  | scan (tx : TxId)
  | complete (tx : TxId)
deriving DecidableEq, Repr

/-- The call that a handler serves or has served; none if it is refused. -/
def Phase.call : Phase → Option Call
  | .received (.startTransaction _) | .putting _ _ | .answered (.started _ _) => some .start
  | .received (.scanItem tx _) | .adding tx _ | .remembering tx _ | .trimming tx _ | .sizing tx _
  | .answered (.scanned tx _ _) => some (.scan tx)
  | .received (.completeTransaction tx) | .checkingBasket tx | .marking tx | .iterating tx
  | .selling tx _ _ | .decrementing tx _ _ _ | .answered (.receipt tx _) => some (.complete tx)
  | .received (.getStatus _) | .answered _ => none

/-- The transaction that a handler is about, as long as anything may still come of it. -/
def Phase.tx : Phase → Option TxId
  | .received (.scanItem tx _) | .received (.completeTransaction tx) | .putting tx _ | .adding tx _
  | .remembering tx _ | .trimming tx _ | .sizing tx _ | .checkingBasket tx | .marking tx
  | .iterating tx | .selling tx _ _ | .decrementing tx _ _ _ | .answered (.started tx _) => some tx
  | .received _ | .answered _ => none

/-- The handler is taking the transaction's units off the stock. -/
def Phase.sells : Phase → Option TxId
  | .iterating tx | .selling tx _ _ | .decrementing tx _ _ _ => some tx
  | _ => none

/-- The items a scan has put into the basket. -/
def Phase.items : Phase → Nat
  | .remembering _ _ | .trimming _ _ | .sizing _ _ | .answered (.scanned _ _ _) => 1
  | _ => 0

/-- What a handler knows if it alone works on its transaction. -/
def Phase.Facts (server : MockServer) : Phase → Prop
  | .received (.startTransaction (.value stationId)) => stationId.all LoadClient.isWhitespace = false
  | .received (.scanItem tx (.value sku)) =>
      sku ∈ server.catalog ∧ (server.transactions.lookup tx).isSome ∧ tx ∉ server.completions
  | .received (.completeTransaction tx) => server.basketOf tx ≠ [] ∧ tx ∉ server.completions
  | .putting _ _ => True
  | .answered (.started tx _) =>
      (server.transactions.lookup tx).isSome ∧ server.basketOf tx = [] ∧ tx ∉ server.completions
  | .adding tx _ => (server.transactions.lookup tx).isSome ∧ tx ∉ server.completions
  | .remembering tx _ | .trimming tx _ | .sizing tx _ | .checkingBasket tx =>
      server.basketOf tx ≠ [] ∧ tx ∉ server.completions
  | .answered (.scanned tx _ _) => server.basketOf tx ≠ []
  | .marking tx => (server.transactions.lookup tx).isSome ∧ tx ∉ server.completions
  | .iterating tx => tx ∈ server.completions ∧ server.soldOf tx = []
  | .selling tx position nextItem => tx ∈ server.completions ∧
      server.soldOf tx = (server.basketOf tx).take position ∧
      nextItem = (server.basketOf tx)[position]?
  | .decrementing tx sku position nextItem => tx ∈ server.completions ∧ ∃ sold, position = sold + 1 ∧
      (server.basketOf tx)[sold]? = some sku ∧ server.soldOf tx = (server.basketOf tx).take sold ∧
      nextItem = (server.basketOf tx)[position]?
  | .answered (.receipt tx _) => tx ∈ server.completions
  | .received _ | .answered _ => False

/-- Nothing has become of a transaction. -/
structure Same (before after : MockServer) (tx : TxId) : Prop where
  known : (after.transactions.lookup tx).isSome = (before.transactions.lookup tx).isSome
  basket : after.basketOf tx = before.basketOf tx
  closed : tx ∈ after.completions ↔ tx ∈ before.completions
  sold : after.soldOf tx = before.soldOf tx

/-- What is in a basket or completed stays so. -/
structure Grows (before after : MockServer) : Prop where
  catalog : after.catalog = before.catalog
  known : ∀ tx, (before.transactions.lookup tx).isSome = true →
    (after.transactions.lookup tx).isSome = true
  basket : ∀ tx, before.basketOf tx <+: after.basketOf tx
  closed : ∀ tx ∈ before.completions, tx ∈ after.completions

/-- Every completed transaction was completed once, and is sold or being sold. -/
structure Ledger (server : MockServer) : Prop where
  statuses : ∀ tx row, server.transactions.lookup tx = some row →
    row.status = if tx ∈ server.completions then .completed else .opened
  nodup : server.completions.Nodup
  known : ∀ tx ∈ server.completions, (server.transactions.lookup tx).isSome = true
  unsold : ∀ tx, tx ∉ server.completions → server.soldOf tx = []
  settled : ∀ tx ∈ server.completions,
    (∃ handler phase, server.handlers handler = some phase ∧ phase.sells = some tx) ∨
      server.soldOf tx = server.basketOf tx

section Steps

variable {server after : MockServer} {handler : HandlerId} {phase : Phase} {tx : TxId}

theorem Grows.filled (grows : Grows server after) (filled : server.basketOf tx ≠ []) :
    after.basketOf tx ≠ [] := by
  intro empty
  have before := grows.basket tx
  rw [empty, List.prefix_nil] at before
  exact filled before

theorem Phase.Facts.kept (facts : phase.Facts server)
    (same : ∀ tx, phase.tx = some tx → Same server after tx) (grows : Grows server after) :
    phase.Facts after := by
  cases phase with
  | received request =>
      cases request with
      | startTransaction stationId => cases stationId <;> exact facts
      | scanItem tx sku =>
          cases sku with
          | value sku =>
              obtain ⟨known, _, closed, _⟩ := same tx rfl
              simpa only [Phase.Facts, grows.catalog, known, closed] using facts
          | _ => exact facts
      | completeTransaction tx =>
          obtain ⟨_, basket, closed, _⟩ := same tx rfl
          simpa only [Phase.Facts, basket, closed] using facts
      | getStatus tx => exact facts
  | answered response =>
      cases response with
      | started tx stationId =>
          obtain ⟨known, basket, closed, _⟩ := same tx rfl
          simpa only [Phase.Facts, known, basket, closed] using facts
      | scanned tx sku itemCount => exact grows.filled facts
      | receipt tx itemCount => exact grows.closed tx facts
      | _ => exact facts
  | putting tx stationId => trivial
  | _ tx =>
      obtain ⟨known, basket, closed, sold⟩ := same tx rfl
      simpa only [Phase.Facts, known, basket, closed, sold] using facts

/-- What a step of a handler comes to if it alone works on its transaction. -/
structure Serves (server : MockServer) (handler : HandlerId) (phase next : Phase)
    (after : MockServer) : Prop where
  handlers : after.handlers = Function.update server.handlers handler (some next)
  facts : next.Facts after
  call : next.call = phase.call
  tx : next.tx = phase.tx ∨ next.tx = none ∨
    phase.tx = none ∧ next.tx = some (server.txSequence + 1)
  others : ∀ tx, phase.tx ≠ some tx → Same server after tx
  grows : Grows server after
  closes : ∀ tx ∈ after.completions, tx ∈ server.completions ∨ phase.call = some (.complete tx)
  items : ∀ tx, (after.basketOf tx).length +
      (if phase.call = some (.scan tx) then phase.items else 0) =
    (server.basketOf tx).length + (if phase.call = some (.scan tx) then next.items else 0)

theorem basketOf_put_of_ne {other : TxId} (different : other ≠ tx) (row : TxState) :
    ((server.transactions.put tx row).lookup other).elim [] TxState.basket =
      server.basketOf other := by
  simp [MockServer.basketOf, different]

/-- A step that writes no transaction and sells nothing. -/
theorem Serves.frame (next : Phase)
    (handlers : after.handlers = Function.update server.handlers handler (some next))
    (catalog : after.catalog = server.catalog)
    (transactions : after.transactions = server.transactions)
    (completions : after.completions = server.completions) (sales : after.sales = server.sales)
    (facts : next.Facts server) (call : next.call = phase.call) (items : next.items = phase.items)
    (sameTx : next.tx = phase.tx ∨ next.tx = none ∨
      phase.tx = none ∧ next.tx = some (server.txSequence + 1)) :
    Serves server handler phase next after := by
  have baskets : ∀ tx, after.basketOf tx = server.basketOf tx := by
    intro tx
    unfold MockServer.basketOf
    rw [transactions]
  have same : ∀ tx, Same server after tx := by
    intro tx
    refine ⟨by rw [transactions], baskets tx, by rw [completions], ?_⟩
    unfold MockServer.soldOf
    rw [sales]
  have grows : Grows server after :=
    ⟨catalog, fun tx => by rw [transactions]; exact fun isKnown => isKnown,
      fun tx => by rw [baskets], fun tx isClosed => completions ▸ isClosed⟩
  refine ⟨handlers, facts.kept (fun tx _ => same tx) grows, call, sameTx, fun tx _ => same tx, grows,
    fun tx isClosed => .inl (completions ▸ isClosed), fun tx => ?_⟩
  rw [items, baskets]

theorem basketOf_alter (server : MockServer) (tx : TxId) (change : TxState → TxState) (other : TxId) :
    ((server.transactions.alter tx change).lookup other).elim [] TxState.basket =
      if other = tx then ((server.transactions.lookup tx).map change).elim [] TxState.basket
      else server.basketOf other := by
  rw [Table.lookup_alter]
  split <;> rfl

/-- Appending to a basket leaves the others alone. -/
theorem serves_adds {sku : Sku} (facts : (Phase.adding tx sku).Facts server) :
    Serves server handler (.adding tx sku) (.remembering tx sku)
      { server.goto handler (.remembering tx sku) with
        transactions := server.transactions.alter tx (fun row =>
          { row with basket := row.basket ++ [sku] }) } := by
  obtain ⟨isKnown, isOpen⟩ := facts
  obtain ⟨row, known⟩ := Option.isSome_iff_exists.mp isKnown
  have baskets := basketOf_alter server tx (fun row =>
    { row with basket := row.basket ++ [sku] })
  refine ⟨rfl, ⟨?_, isOpen⟩, rfl, .inl rfl, fun other different => ⟨?_, ?_, Iff.rfl, rfl⟩,
    ⟨rfl, fun other => by rw [isSome_lookup_alter]; exact fun isKnown => isKnown, fun other => ?_,
      fun _ isClosed => isClosed⟩, fun _ isClosed => .inl isClosed, fun other => ?_⟩
  · refine ne_of_eq_of_ne (baskets tx) ?_
    simp [known]
  · exact isSome_lookup_alter _ _ _ _
  · refine (baskets other).trans (if_neg ?_)
    rintro rfl
    exact different rfl
  · show _ <+: ((server.transactions.alter tx _).lookup other).elim [] TxState.basket
    rw [baskets other]
    split
    · rename_i same
      simp [MockServer.basketOf, same, known]
    · exact List.prefix_rfl
  · show (((server.transactions.alter tx _).lookup other).elim [] TxState.basket).length + _ = _
    rw [baskets other]
    by_cases same : other = tx
    · simp [MockServer.basketOf, same, known, Phase.call, Phase.items]
    · simp [same, Phase.call, Ne.symm same]

theorem soldOf_sells (other : TxId) (sku : Sku) :
    ((server.sales ++ [(tx, sku)]).filter (fun sale => decide (sale.1 = other))).map Prod.snd =
      server.soldOf other ++ if other = tx then [sku] else [] := by
  by_cases same : other = tx
  · simp [MockServer.soldOf, same]
  · simp [MockServer.soldOf, same, Ne.symm same]

/-- Where one handler is moved, whoever was selling still is, or is done. -/
theorem Ledger.settles (ledger : Ledger server) (here : server.handlers handler = some phase)
    (next : Option Phase) (handlers : after.handlers = Function.update server.handlers handler next)
    (sells : ∀ tx, phase.sells = some tx →
      next.bind Phase.sells = some tx ∨ after.soldOf tx = after.basketOf tx)
    {tx : TxId} (isClosed : tx ∈ server.completions) (sold : after.soldOf tx = server.soldOf tx ∨
      next.bind Phase.sells = some tx) (basket : after.basketOf tx = server.basketOf tx) :
    (∃ handler phase, after.handlers handler = some phase ∧ phase.sells = some tx) ∨
      after.soldOf tx = after.basketOf tx := by
  have moved : next.bind Phase.sells = some tx →
      ∃ handler phase, after.handlers handler = some phase ∧ phase.sells = some tx := by
    intro selling
    obtain ⟨phase, rfl, selling⟩ := Option.bind_eq_some_iff.mp selling
    exact ⟨handler, phase, by rw [handlers, Function.update_self], selling⟩
  rcases ledger.settled tx isClosed with ⟨other, otherPhase, there, selling⟩ | done
  · by_cases own : other = handler
    · subst own
      cases here.symm.trans there
      exact (sells tx selling).imp_left moved
    · exact .inl ⟨other, otherPhase, by rw [handlers, Function.update_of_ne own, there], selling⟩
  · rcases sold with same | selling
    · exact .inr (by rw [same, basket, done])
    · exact .inl (moved selling)

/-- A step that writes no transaction and sells nothing. -/
theorem Ledger.frame (ledger : Ledger server) (here : server.handlers handler = some phase)
    (next : Option Phase) (handlers : after.handlers = Function.update server.handlers handler next)
    (transactions : after.transactions = server.transactions)
    (completions : after.completions = server.completions) (sales : after.sales = server.sales)
    (sells : ∀ tx, phase.sells = some tx →
      next.bind Phase.sells = some tx ∨ server.soldOf tx = server.basketOf tx) : Ledger after := by
  have baskets : ∀ tx, after.basketOf tx = server.basketOf tx := by
    intro tx
    unfold MockServer.basketOf
    rw [transactions]
  have sold : ∀ tx, after.soldOf tx = server.soldOf tx := by
    intro tx
    unfold MockServer.soldOf
    rw [sales]
  constructor
  · rw [transactions, completions]
    exact ledger.statuses
  · rw [completions]
    exact ledger.nodup
  · rw [transactions, completions]
    exact ledger.known
  · intro tx isOpen
    rw [sold]
    exact ledger.unsold tx (completions ▸ isOpen)
  · intro tx isClosed
    refine ledger.settles here next handlers (fun tx selling => ?_) (completions ▸ isClosed)
      (.inl (sold tx)) (baskets tx)
    rw [sold, baskets]
    exact sells tx selling

theorem Ledger.adds {sku : Sku} (ledger : Ledger server)
    (here : server.handlers handler = some (.adding tx sku))
    (facts : (Phase.adding tx sku).Facts server) :
    Ledger { server.goto handler (.remembering tx sku) with
      transactions := server.transactions.alter tx (fun row =>
        { row with basket := row.basket ++ [sku] }) } := by
  refine ⟨fun other row found => ?_, ledger.nodup, fun other isClosed => ?_, ledger.unsold,
    fun other isClosed => ?_⟩
  · simp only [Table.lookup_alter] at found
    split at found
    · rename_i same
      obtain ⟨before, known, rfl⟩ := Option.map_eq_some_iff.mp found
      subst same
      exact ledger.statuses other before known
    · exact ledger.statuses other row found
  · rw [isSome_lookup_alter]
    exact ledger.known other isClosed
  · refine ledger.settles here (some (.remembering tx sku)) rfl (fun _ _ => by contradiction)
      isClosed (.inl rfl) ?_
    refine (basketOf_alter _ _ _ other).trans (if_neg ?_)
    rintro rfl
    exact facts.2 isClosed

theorem Ledger.puts {stationId : Text} (ledger : Ledger server)
    (here : server.handlers handler = some (.putting tx stationId))
    (absent : server.transactions.lookup tx = none) :
    Ledger { server.respond handler (.started tx stationId) with
      transactions := server.transactions.put tx ⟨stationId, [], .opened⟩ } := by
  have isOpen : tx ∉ server.completions := by
    intro isClosed
    have known := ledger.known tx isClosed
    rw [absent] at known
    contradiction
  refine ⟨fun other row found => ?_, ledger.nodup, fun other isClosed => ?_, ledger.unsold,
    fun other isClosed => ?_⟩
  · simp only [Table.lookup_put] at found
    split at found
    · rename_i same
      cases found
      subst same
      exact (if_neg isOpen).symm
    · exact ledger.statuses other row found
  · simp only [Table.lookup_put]
    split
    · rfl
    · exact ledger.known other isClosed
  · refine ledger.settles here (some (.answered (.started tx stationId))) rfl
      (fun _ _ => by contradiction) isClosed (.inl rfl) (basketOf_put_of_ne ?_ _)
    rintro rfl
    exact isOpen isClosed

theorem Ledger.marks (ledger : Ledger server) (here : server.handlers handler = some (.marking tx))
    (facts : (Phase.marking tx).Facts server) :
    Ledger { server.goto handler (.iterating tx) with
      transactions := server.transactions.alter tx (fun row => { row with status := .completed })
      completions := server.completions ++ [tx] } := by
  refine ⟨fun other row found => ?_, ?_, fun other isClosed => ?_, fun other isOpen => ?_,
    fun other isClosed => ?_⟩
  · simp only [Table.lookup_alter] at found
    split at found
    · rename_i same
      obtain ⟨before, known, rfl⟩ := Option.map_eq_some_iff.mp found
      simp [same]
    · rename_i different
      simpa [different] using ledger.statuses other row found
  · exact List.nodup_append.mpr ⟨ledger.nodup, List.nodup_singleton _,
      by rintro other isClosed _ member rfl; exact facts.2 (List.mem_singleton.mp member ▸ isClosed)⟩
  · rw [isSome_lookup_alter]
    rcases List.mem_append.mp isClosed with before | now
    · exact ledger.known other before
    · rw [List.mem_singleton.mp now]
      exact facts.1
  · exact ledger.unsold other (fun isClosed => isOpen (List.mem_append_left _ isClosed))
  · rcases List.mem_append.mp isClosed with before | now
    · refine ledger.settles here (some (.iterating tx)) rfl (fun _ _ => by contradiction) before
        (.inl rfl) ?_
      refine (basketOf_alter _ _ _ other).trans (if_neg ?_)
      rintro rfl
      exact facts.2 before
    · rw [List.mem_singleton.mp now]
      exact .inl ⟨handler, _, handlers_goto_self _, rfl⟩

theorem Ledger.sells {sku : Sku} {position : Nat} {nextItem : Option Sku} (ledger : Ledger server)
    (here : server.handlers handler = some (.decrementing tx sku position nextItem))
    (facts : (Phase.decrementing tx sku position nextItem).Facts server) :
    Ledger { server.goto handler (.selling tx position nextItem) with
      stock := Function.update server.stock sku (decremented (server.stock sku))
      sales := server.sales ++ [(tx, sku)] } := by
  refine ⟨ledger.statuses, ledger.nodup, ledger.known, fun other isOpen => ?_, fun other isClosed => ?_⟩
  · refine (soldOf_sells other sku).trans ?_
    rw [ledger.unsold other isOpen, if_neg]
    · rfl
    · rintro rfl
      exact isOpen facts.1
  · refine ledger.settles here (some (.selling tx position nextItem)) rfl (fun _ selling => .inl selling)
      isClosed ?_ rfl
    by_cases same : other = tx
    · exact .inr (congrArg some same.symm)
    · exact .inl ((soldOf_sells other sku).trans (by rw [if_neg same, List.append_nil]))

theorem serves_puts {stationId : Text} (ledger : Ledger server)
    (absent : server.transactions.lookup tx = none) :
    Serves server handler (.putting tx stationId) (.answered (.started tx stationId))
      { server.respond handler (.started tx stationId) with
        transactions := server.transactions.put tx ⟨stationId, [], .opened⟩ } := by
  have baskets : ∀ other, ((server.transactions.put tx ⟨stationId, [], .opened⟩).lookup other).elim []
      TxState.basket = server.basketOf other := by
    intro other
    by_cases same : other = tx
    · simp [MockServer.basketOf, same, absent]
    · exact basketOf_put_of_ne same _
  refine ⟨rfl, ⟨?_, ?_, ?_⟩, rfl, .inl rfl, fun other different => ⟨?_, baskets other, Iff.rfl, rfl⟩,
    ⟨rfl, fun other isKnown => ?_, fun other => ?_, fun _ isClosed => isClosed⟩,
    fun _ isClosed => .inl isClosed, fun other => congrArg List.length (baskets other)⟩
  · simp
  · simp [MockServer.basketOf]
  · intro isClosed
    have known := ledger.known tx isClosed
    rw [absent] at known
    contradiction
  · simp [Ne.symm (fun same => different (congrArg some same))]
  · simp only [Table.lookup_put]
    split
    · rfl
    · exact isKnown
  · show _ <+: ((server.transactions.put tx _).lookup other).elim [] TxState.basket
    rw [baskets other]

theorem serves_marks (ledger : Ledger server) (facts : (Phase.marking tx).Facts server) :
    Serves server handler (.marking tx) (.iterating tx)
      { server.goto handler (.iterating tx) with
        transactions := server.transactions.alter tx (fun row => { row with status := .completed })
        completions := server.completions ++ [tx] } := by
  have baskets : ∀ other, ((server.transactions.alter tx (fun row =>
      { row with status := .completed })).lookup other).elim [] TxState.basket =
        server.basketOf other := by
    intro other
    rw [basketOf_alter]
    split
    · rename_i same
      rw [same]
      unfold MockServer.basketOf
      cases server.transactions.lookup tx <;> rfl
    · rfl
  refine ⟨rfl, ⟨List.mem_append_right _ List.mem_cons_self, ledger.unsold tx facts.2⟩, rfl, .inl rfl,
    fun other different => ⟨isSome_lookup_alter _ _ _ _, baskets other, ?_, rfl⟩,
    ⟨rfl, fun other => by rw [isSome_lookup_alter]; exact fun isKnown => isKnown, fun other => ?_,
      fun _ isClosed => List.mem_append_left _ isClosed⟩, fun other isClosed => ?_,
    fun other => congrArg List.length (baskets other)⟩
  · have apart : other ≠ tx := fun same => different (congrArg some same.symm)
    simp [apart]
  · show _ <+: ((server.transactions.alter tx _).lookup other).elim [] TxState.basket
    rw [baskets other]
  · rcases List.mem_append.mp isClosed with before | now
    · exact .inl before
    · exact .inr (by rw [List.mem_singleton.mp now]; rfl)

theorem serves_sells {sku : Sku} {position : Nat} {nextItem : Option Sku}
    (facts : (Phase.decrementing tx sku position nextItem).Facts server) :
    Serves server handler (.decrementing tx sku position nextItem) (.selling tx position nextItem)
      { server.goto handler (.selling tx position nextItem) with
        stock := Function.update server.stock sku (decremented (server.stock sku))
        sales := server.sales ++ [(tx, sku)] } := by
  obtain ⟨isClosed, sold, rfl, item, taken, follows⟩ := facts
  refine ⟨rfl, ⟨isClosed, ?_, follows⟩, rfl, .inl rfl, fun other different => ⟨rfl, rfl, Iff.rfl, ?_⟩,
    ⟨rfl, fun _ isKnown => isKnown, fun _ => List.prefix_rfl, fun _ isClosed => isClosed⟩,
    fun _ isClosed => .inl isClosed, fun _ => rfl⟩
  · refine (soldOf_sells tx sku).trans ?_
    rw [if_pos rfl, taken]
    show _ = (server.basketOf tx).take (sold + 1)
    rw [List.take_add_one, item]
    rfl
  · refine (soldOf_sells other sku).trans ?_
    rw [if_neg (fun same => different (congrArg some same.symm)), List.append_nil]

/-- No call is refused. -/
theorem proceed_serves (numbered : Numbered server) (ledger : Ledger server)
    (here : server.handlers handler = some phase) (facts : phase.Facts server)
    (done : server.proceed handler phase = some after) :
    (∃ next, Serves server handler phase next after) ∧ Ledger after := by
  cases phase with
  | received request =>
      cases request with
      | startTransaction stationId =>
          cases stationId with
          | value stationId =>
              simp only [MockServer.proceed, MockServer.begin, Option.some.injEq] at done
              rw [if_neg (by rw [facts]; decide)] at done
              subst done
              exact ⟨⟨_, .frame _ rfl rfl rfl rfl rfl trivial rfl rfl (.inr (.inr ⟨rfl, rfl⟩))⟩,
                ledger.frame here _ rfl rfl rfl rfl (fun _ _ => by contradiction)⟩
          | _ => exact facts.elim
      | scanItem tx sku =>
          cases sku with
          | value sku =>
              obtain ⟨listed, isKnown, isOpen⟩ := facts
              obtain ⟨row, known⟩ := Option.isSome_iff_exists.mp isKnown
              have status := ledger.statuses tx row known
              rw [if_neg isOpen] at status
              simp only [MockServer.proceed, MockServer.begin, known, status, listed, ↓reduceIte,
                Option.some.injEq] at done
              subst done
              exact ⟨⟨_, .frame _ rfl rfl rfl rfl rfl ⟨isKnown, isOpen⟩ rfl rfl (.inl rfl)⟩,
                ledger.frame here _ rfl rfl rfl rfl (fun _ _ => by contradiction)⟩
          | _ => exact facts.elim
      | completeTransaction tx =>
          obtain ⟨filled, isOpen⟩ := facts
          cases known : server.transactions.lookup tx with
          | none => simp [MockServer.basketOf, known] at filled
          | some row =>
              have status := ledger.statuses tx row known
              rw [if_neg isOpen] at status
              simp only [MockServer.proceed, MockServer.begin, known, status, ↓reduceIte,
                Option.some.injEq] at done
              subst done
              exact ⟨⟨_, .frame _ rfl rfl rfl rfl rfl ⟨filled, isOpen⟩ rfl rfl (.inl rfl)⟩,
                ledger.frame here _ rfl rfl rfl rfl (fun _ _ => by contradiction)⟩
      | getStatus tx => exact facts.elim
  | putting tx stationId =>
      cases done
      have absent := (numbered.fresh handler tx stationId here).2
      exact ⟨⟨_, serves_puts ledger absent⟩, ledger.puts here absent⟩
  | adding tx sku =>
      cases done
      exact ⟨⟨_, serves_adds facts⟩, ledger.adds here facts⟩
  | remembering tx sku =>
      simp only [MockServer.proceed, Option.map_eq_some_iff] at done
      obtain ⟨recentScans, _, rfl⟩ := done
      exact ⟨⟨_, .frame _ rfl rfl rfl rfl rfl facts rfl rfl (.inl rfl)⟩,
        ledger.frame here _ rfl rfl rfl rfl (fun _ _ => by contradiction)⟩
  | trimming tx sku =>
      simp only [MockServer.proceed, Option.map_eq_some_iff] at done
      obtain ⟨recentScans, _, rfl⟩ := done
      refine ⟨⟨_, .frame _ rfl rfl rfl rfl rfl ?_ ?_ ?_ (.inl ?_)⟩,
        ledger.frame here _ rfl rfl rfl rfl (fun _ _ => by contradiction)⟩
      · split <;> exact facts
      · split <;> rfl
      · split <;> rfl
      · split <;> rfl
  | sizing tx sku =>
      cases done
      exact ⟨⟨_, .frame _ rfl rfl rfl rfl rfl facts.1 rfl rfl (.inr (.inl rfl))⟩,
        ledger.frame here _ rfl rfl rfl rfl (fun _ _ => by contradiction)⟩
  | checkingBasket tx =>
      simp only [MockServer.proceed, facts.1, ↓reduceIte, Option.some.injEq] at done
      subst done
      refine ⟨⟨_, .frame _ rfl rfl rfl rfl rfl ⟨?_, facts.2⟩ rfl rfl (.inl rfl)⟩,
        ledger.frame here _ rfl rfl rfl rfl (fun _ _ => by contradiction)⟩
      exact numbered.found handler _ tx here rfl
  | marking tx =>
      cases done
      exact ⟨⟨_, serves_marks ledger facts⟩, ledger.marks here facts⟩
  | iterating tx =>
      cases done
      exact ⟨⟨_, .frame _ rfl rfl rfl rfl rfl ⟨facts.1, facts.2, rfl⟩ rfl rfl (.inl rfl)⟩,
        ledger.frame here _ rfl rfl rfl rfl (fun _ selling => .inl selling)⟩
  | selling tx position nextItem =>
      obtain ⟨isClosed, sold, follows⟩ := facts
      cases nextItem with
      | none =>
          cases done
          refine ⟨⟨_, .frame _ rfl rfl rfl rfl rfl isClosed rfl rfl (.inr (.inl rfl))⟩,
            ledger.frame here _ rfl rfl rfl rfl ?_⟩
          rintro _ ⟨⟩
          exact .inr (sold.trans (List.take_of_length_le (List.getElem?_eq_none_iff.mp follows.symm)))
      | some sku =>
          cases done
          exact ⟨⟨_, .frame _ rfl rfl rfl rfl rfl ⟨isClosed, position, rfl, follows.symm, sold, rfl⟩ rfl
            rfl (.inl rfl)⟩,
            ledger.frame here _ rfl rfl rfl rfl (fun _ selling => .inl selling)⟩
  | decrementing tx sku position nextItem =>
      cases done
      exact ⟨⟨_, serves_sells facts⟩, ledger.sells here facts⟩
  | answered response => contradiction

structure Serving (server : MockServer) : Prop where
  numbered : Numbered server
  ledger : Ledger server
  facts : ∀ handler phase, server.handlers handler = some phase → phase.Facts server

theorem Serving.receives {request : Request} (serving : Serving server)
    (free : server.handlers handler = none) (facts : (Phase.received request).Facts server) :
    Serving (server.goto handler (.received request)) := by
  have kept : ∀ phase : Phase, phase.Facts server → phase.Facts (server.goto handler (.received request)) :=
    fun phase facts => facts.kept (fun _ _ => ⟨rfl, rfl, Iff.rfl, rfl⟩)
      ⟨rfl, fun _ isKnown => isKnown, fun _ => List.prefix_rfl, fun _ isClosed => isClosed⟩
  have taken : step server (.receive handler request) =
      some (server.goto handler (.received request)) := by
    simp [step, free]
  obtain ⟨statuses, nodup, known, unsold, settled⟩ := serving.ledger
  refine ⟨serving.numbered.step taken, ⟨statuses, nodup, known, unsold, fun tx isClosed => ?_⟩, ?_⟩
  · refine (settled tx isClosed).imp_left ?_
    rintro ⟨other, phase, here, selling⟩
    have different : other ≠ handler := by
      rintro rfl
      rw [free] at here
      contradiction
    exact ⟨other, phase, (handlers_goto_of_ne different _).trans here, selling⟩
  · intro other phase here
    by_cases own : other = handler
    · subst own
      cases (handlers_goto_self _).symm.trans here
      exact kept _ facts
    · exact kept phase (serving.facts other phase ((handlers_goto_of_ne own _).symm.trans here))

theorem Serving.finishes (serving : Serving server) (here : server.handlers handler = some phase)
    (quiet : phase.sells = none) :
    Serving { server with handlers := Function.update server.handlers handler none } := by
  refine ⟨serving.numbered.frame none rfl (fun _ => rfl) rfl (fun _ _ _ => by contradiction)
      (fun _ _ _ => by contradiction),
    serving.ledger.frame here none rfl rfl rfl rfl (fun tx selling => ?_), fun other phase there => ?_⟩
  · rw [quiet] at selling
    contradiction
  · change Function.update server.handlers handler none other = some phase at there
    by_cases own : other = handler
    · rw [own, Function.update_self] at there
      contradiction
    · rw [Function.update_of_ne own] at there
      exact (serving.facts other phase there).kept (fun _ _ => ⟨rfl, rfl, Iff.rfl, rfl⟩)
        ⟨rfl, fun _ isKnown => isKnown, fun _ => List.prefix_rfl, fun _ isClosed => isClosed⟩

/-- A handler that alone works on its transaction takes a step. -/
theorem Serving.proceeds (serving : Serving server) (here : server.handlers handler = some phase)
    (alone : ∀ other tx, phase.tx = some tx →
      (server.handlers other).bind Phase.tx = some tx → other = handler)
    (done : server.proceed handler phase = some after) :
    (∃ next, Serves server handler phase next after) ∧ Serving after := by
  have taken : step server (.proceed handler) = some after := by
    simp [step, here, done]
  obtain ⟨⟨next, serves⟩, ledger⟩ := proceed_serves serving.numbered serving.ledger here
    (serving.facts handler phase here) done
  refine ⟨⟨next, serves⟩, serving.numbered.step taken, ledger, fun other otherPhase there => ?_⟩
  by_cases own : other = handler
  · subst own
    rw [serves.handlers, Function.update_self] at there
    cases there
    exact serves.facts
  · rw [serves.handlers, Function.update_of_ne own] at there
    refine (serving.facts other otherPhase there).kept (fun tx about => ?_) serves.grows
    exact serves.others tx (fun mine => own (alone other tx mine (by simp [there, about])))

theorem Serving.restarts {recentScans : Window Sku} (serving : Serving server) :
    Serving { server with recentScans } := by
  obtain ⟨⟨numbered, fresh, apart, found⟩, ⟨statuses, nodup, known, unsold, settled⟩, facts⟩ := serving
  refine ⟨⟨numbered, fresh, apart, found⟩, ⟨statuses, nodup, known, unsold, settled⟩, ?_⟩
  exact fun handler phase here => (facts handler phase here).kept (fun _ _ => ⟨rfl, rfl, Iff.rfl, rfl⟩)
    ⟨rfl, fun _ isKnown => isKnown, fun _ => List.prefix_rfl, fun _ isClosed => isClosed⟩

/-- A transaction that anything may still come of has its number. -/
theorem Serving.tx_le (serving : Serving server) (here : server.handlers handler = some phase)
    (about : phase.tx = some tx) : tx ≤ server.txSequence := by
  have facts := serving.facts handler phase here
  have known : (server.transactions.lookup tx).isSome = true → tx ≤ server.txSequence :=
    serving.numbered.numbered tx
  have filled : server.basketOf tx ≠ [] → (server.transactions.lookup tx).isSome = true := by
    intro filled
    cases found : server.transactions.lookup tx with
    | none => simp [MockServer.basketOf, found] at filled
    | some row => rfl
  cases phase with
  | received request =>
      cases request with
      | scanItem other sku =>
          cases about
          cases sku with
          | value sku => exact known facts.2.1
          | _ => exact facts.elim
      | completeTransaction other =>
          cases about
          exact known (filled facts.1)
      | _ => contradiction
  | answered response =>
      cases response with
      | started other stationId =>
          cases about
          exact known facts.1
      | _ => contradiction
  | putting other stationId =>
      cases about
      exact (serving.numbered.fresh handler tx stationId here).1
  | _ =>
      cases about
      exact known (serving.numbered.found handler _ tx here rfl)

end Steps

end SelfCheckout.Mock
