import SelfCheckout.Mock.Handlers

namespace SelfCheckout.Mock

open SelfCheckout.Data SelfCheckout.Data.Rfc8259

/-! # What the mock server counts

Whoever calls and however the handlers interleave: the stock of an item is what its sales leave
of it, every scan of a basket comes to `recentScans` once, and the handlers keep these near
`POPULARITY_WINDOW`, though they count them while others come and go.
-/

/-- The handler is inside the loop that trims `recentScans`. -/
def Phase.trims : Phase → Bool
  | .trimming _ _ => true
  | _ => false

/-- The handler has added the SKU to its basket, and not to `recentScans` yet. -/
def Phase.remembers (sku : Sku) : Phase → Bool
  | .remembering _ own => own == sku
  | _ => false

/-- How many of the handlers are in such a phase. -/
def MockServer.handling (server : MockServer) (slots : Nat) (test : Phase → Bool) : Nat :=
  ((Finset.range slots).filter (fun handler => (server.handlers handler).any test)).card

/-- At most `slots` requests are handled at a time. -/
def Slots (slots : Nat) (_ : MockServer) : Action → Prop
  | .receive handler _ => handler < slots
  | .proceed _ => True
  | .restart _ => True
  | .finish _ => True

instance (slots : Nat) (server : MockServer) (action : Action) :
    Decidable (Slots slots server action) :=
  match action with
  | .receive _ _ => inferInstanceAs (Decidable (_ < _))
  | .proceed _ => .isTrue trivial
  | .restart _ => .isTrue trivial
  | .finish _ => .isTrue trivial

structure Numbered (server : MockServer) : Prop where
  numbered : ∀ tx, (server.transactions.lookup tx).isSome = true → tx ≤ server.txSequence
  fresh : ∀ handler tx stationId, server.handlers handler = some (.putting tx stationId) →
    tx ≤ server.txSequence ∧ server.transactions.lookup tx = none
  apart : ∀ one other tx first second, server.handlers one = some (.putting tx first) →
    server.handlers other = some (.putting tx second) → one = other
  found : ∀ handler phase tx, server.handlers handler = some phase → phase.found = some tx →
    (server.transactions.lookup tx).isSome = true

section Steps

variable {server after : MockServer} {handler : HandlerId} {phase : Phase} {action : Action}
  {slots : Nat} {stockPerItem : Int}

theorem Numbered.proceeds (numbered : Numbered server)
    (here : server.handlers handler = some phase) (done : server.proceed handler phase = some after) :
    Proceeds server handler phase after :=
  proceed_proceeds (fun tx => numbered.found handler phase tx here) done

/-- A step that changes one handler, and leaves the transactions where they are. -/
theorem Numbered.frame (numbered : Numbered server) (next : Option Phase)
    (handlers : after.handlers = Function.update server.handlers handler next)
    (rows : ∀ tx, (after.transactions.lookup tx).isSome = (server.transactions.lookup tx).isSome)
    (sequence : after.txSequence = server.txSequence)
    (found : ∀ phase tx, next = some phase → phase.found = some tx →
      (server.transactions.lookup tx).isSome = true)
    (notPutting : ∀ tx stationId, next ≠ some (.putting tx stationId)) : Numbered after := by
  have before : ∀ other tx stationId, after.handlers other = some (.putting tx stationId) →
      server.handlers other = some (.putting tx stationId) := by
    intro other tx stationId here
    rw [handlers] at here
    by_cases own : other = handler
    · subst own
      rw [Function.update_self] at here
      exact absurd here (notPutting tx stationId)
    · rwa [Function.update_of_ne own] at here
  constructor
  · intro tx isKnown
    rw [sequence]
    exact numbered.numbered tx ((rows tx).symm.trans isKnown)
  · intro other tx stationId here
    obtain ⟨least, absent⟩ := numbered.fresh other tx stationId (before other tx stationId here)
    refine ⟨sequence ▸ least, ?_⟩
    have none := rows tx
    simp only [absent, Option.isSome_none, Option.isSome_eq_false_iff, Option.isNone_iff_eq_none]
      at none
    exact none
  · exact fun one other tx first second here there =>
      numbered.apart one other tx first second (before one tx first here) (before other tx second there)
  · intro other phase tx here isFound
    rw [rows]
    rw [handlers] at here
    by_cases own : other = handler
    · subst own
      rw [Function.update_self] at here
      exact found phase tx here isFound
    · rw [Function.update_of_ne own] at here
      exact numbered.found other phase tx here isFound

theorem Numbered.numbers (numbered : Numbered server) (stationId : Text) :
    Numbered { server.goto handler (.putting (server.txSequence + 1) stationId) with
      txSequence := server.txSequence + 1 } := by
  have others : ∀ other, other ≠ handler →
      (server.goto handler (.putting (server.txSequence + 1) stationId)).handlers other =
        server.handlers other :=
    fun other different => handlers_goto_of_ne different _
  have own : (server.goto handler (.putting (server.txSequence + 1) stationId)).handlers handler =
      some (.putting (server.txSequence + 1) stationId) :=
    handlers_goto_self _
  constructor
  · exact fun tx isKnown => (numbered.numbered tx isKnown).trans (Nat.le_succ _)
  · intro other tx second here
    by_cases same : other = handler
    · subst same
      cases own.symm.trans here
      refine ⟨Nat.le_refl _, ?_⟩
      by_contra isKnown
      exact Nat.not_succ_le_self _ (numbered.numbered (server.txSequence + 1)
        (Option.isSome_iff_ne_none.mpr isKnown))
    · obtain ⟨small, absent⟩ := numbered.fresh other tx second ((others other same).symm.trans here)
      exact ⟨small.trans (Nat.le_succ _), absent⟩
  · intro one other tx first second here there
    by_cases oneOwn : one = handler
    · by_cases otherOwn : other = handler
      · exact oneOwn.trans otherOwn.symm
      · have small := (numbered.fresh other tx second ((others other otherOwn).symm.trans there)).1
        subst oneOwn
        cases own.symm.trans here
        exact absurd small (Nat.not_succ_le_self _)
    · have before : server.handlers one = some (.putting tx first) :=
        (others one oneOwn).symm.trans here
      by_cases otherOwn : other = handler
      · have small := (numbered.fresh one tx first before).1
        subst otherOwn
        cases own.symm.trans there
        exact absurd small (Nat.not_succ_le_self _)
      · exact numbered.apart one other tx first second before
          ((others other otherOwn).symm.trans there)
  · intro other phase tx here isFound
    by_cases same : other = handler
    · subst same
      cases own.symm.trans here
      contradiction
    · exact numbered.found other phase tx ((others other same).symm.trans here) isFound

theorem Numbered.puts (numbered : Numbered server) {tx : TxId} {stationId : Text}
    (here : server.handlers handler = some (.putting tx stationId)) :
    Numbered { server.respond handler (.started tx stationId) with
      transactions := server.transactions.put tx ⟨stationId, [], .opened⟩ } := by
  obtain ⟨small, absent⟩ := numbered.fresh handler tx stationId here
  have before : ∀ other phase, phase ≠ .answered (.started tx stationId) →
      (server.respond handler (.started tx stationId)).handlers other = some phase →
        other ≠ handler ∧ server.handlers other = some phase := by
    intro other phase different there
    by_cases same : other = handler
    · subst same
      exact absurd (Option.some.inj (there.symm.trans (handlers_goto_self _))) different
    · exact ⟨same, (handlers_goto_of_ne same _).symm.trans there⟩
  constructor
  · intro other isKnown
    simp only [Table.lookup_put] at isKnown
    split at isKnown
    · rename_i same
      exact same ▸ small
    · exact numbered.numbered other isKnown
  · intro other otherTx second there
    obtain ⟨different, elsewhere⟩ := before other (.putting otherTx second) (fun _ => by contradiction) there
    obtain ⟨least, none⟩ := numbered.fresh other otherTx second elsewhere
    refine ⟨least, ?_⟩
    rw [Table.lookup_put, if_neg, none]
    rintro rfl
    exact different (numbered.apart other handler otherTx second stationId elsewhere here)
  · intro one other otherTx first second there elsewhere
    exact numbered.apart one other otherTx first second
      (before one (.putting otherTx first) (fun _ => by contradiction) there).2
      (before other (.putting otherTx second) (fun _ => by contradiction) elsewhere).2
  · intro other phase otherTx there isFound
    have isKnown := numbered.found other phase otherTx
      (before other phase (by rintro rfl; contradiction) there).2 isFound
    simp only [Table.lookup_put]
    split
    · rfl
    · exact isKnown

theorem isSome_lookup_alter (table : Table TxId TxState) (tx other : TxId)
    (change : TxState → TxState) :
    ((table.alter tx change).lookup other).isSome = (table.lookup other).isSome := by
  rw [Table.lookup_alter]
  split
  · rename_i same
    simp [same]
  · rfl

theorem Numbered.step (numbered : Numbered server) (taken : step server action = some after) :
    Numbered after := by
  cases step_takes taken with
  | @receives handler request free =>
      exact numbered.frame _ rfl (fun _ => rfl) rfl (by rintro _ tx ⟨⟩ isFound; contradiction)
        (fun _ _ same => by cases same)
  | @finishes handler response here =>
      exact numbered.frame none rfl (fun _ => rfl) rfl (fun _ _ same => by cases same)
        (fun _ _ same => by cases same)
  | restarts done =>
      exact ⟨numbered.numbered, numbered.fresh, numbered.apart, numbered.found⟩
  | @proceeds handler phase after here done =>
      have kept := numbered.found handler phase
      cases numbered.proceeds here done with
      | @moves _ next before later found =>
          refine numbered.frame _ rfl (fun _ => rfl) rfl ?_ ?_
          · rintro _ tx ⟨⟩
            exact found tx
          · rintro tx stationId ⟨⟩
            contradiction
      | numbers stationId => exact numbered.numbers stationId
      | puts => exact numbered.puts here
      | adds =>
          refine numbered.frame _ rfl (isSome_lookup_alter _ _ · _) rfl ?_ (fun _ _ same => by cases same)
          rintro _ tx ⟨⟩ isFound
          exact kept tx here isFound
      | remembers appended =>
          refine numbered.frame _ rfl (fun _ => rfl) rfl ?_ (fun _ _ same => by cases same)
          rintro _ tx ⟨⟩ isFound
          exact kept tx here isFound
      | trims walked =>
          refine numbered.frame _ rfl (fun _ => rfl) rfl ?_ ?_
          · rintro _ tx ⟨⟩ isFound
            refine kept tx here ?_
            split at isFound <;> exact isFound
          · intro tx stationId
            split <;> exact fun same => by cases same
      | marks =>
          refine numbered.frame _ rfl (isSome_lookup_alter _ _ · _) rfl ?_ (fun _ _ same => by cases same)
          rintro _ tx ⟨⟩ isFound
          exact kept tx here isFound
      | sells =>
          refine numbered.frame _ rfl (fun _ => rfl) rfl ?_ (fun _ _ same => by cases same)
          rintro _ tx ⟨⟩ isFound
          exact kept tx here isFound

/-- Who trims `recentScans` is in its loop. -/
structure Windowed (slots : Nat) (server : MockServer) : Prop where
  trimmed : server.recentScans.Trimmed popularityWindow slots
  loops : ∀ handler,
    (server.recentScans.trims handler).isSome = (server.handlers handler).any Phase.trims
  inside : ∀ handler phase, server.handlers handler = some phase → handler < slots

theorem trims_of_settled (settled : phase.settled = true) : phase.trims = false := by
  cases phase <;> first | rfl | contradiction

theorem remembers_of_settled (settled : phase.settled = true) (sku : Sku) :
    phase.remembers sku = false := by
  cases phase <;> first | rfl | contradiction

theorem Windowed.frame (windowed : Windowed slots server) (next : Option Phase)
    (handlers : after.handlers = Function.update server.handlers handler next)
    (window : after.recentScans.Trimmed popularityWindow slots)
    (others : ∀ other, other ≠ handler →
      after.recentScans.trims other = server.recentScans.trims other)
    (own : (after.recentScans.trims handler).isSome = next.any Phase.trims)
    (isInside : handler < slots) : Windowed slots after := by
  refine ⟨window, fun other => ?_, fun other phase here => ?_⟩
  · rw [handlers]
    by_cases same : other = handler
    · subst same
      rw [Function.update_self]
      exact own
    · rw [Function.update_of_ne same, others other same]
      exact windowed.loops other
  · rw [handlers] at here
    by_cases same : other = handler
    · exact same ▸ isInside
    · rw [Function.update_of_ne same] at here
      exact windowed.inside other phase here

/-- A step that leaves `recentScans` alone. -/
theorem Windowed.keep (windowed : Windowed slots server) (next : Option Phase)
    (handlers : after.handlers = Function.update server.handlers handler next)
    (same : after.recentScans = server.recentScans)
    (outside : (server.handlers handler).any Phase.trims = false)
    (stays : next.any Phase.trims = false) (isInside : handler < slots) : Windowed slots after := by
  refine windowed.frame next handlers (same ▸ windowed.trimmed) (fun other _ => by rw [same]) ?_ isInside
  rw [same, windowed.loops handler, outside, stays]

theorem Windowed.step (windowed : Windowed slots server) (numbered : Numbered server)
    (allowed : Slots slots server action) (taken : step server action = some after) :
    Windowed slots after := by
  cases step_takes taken with
  | @receives handler request free =>
      exact windowed.keep _ rfl rfl (by simp [free]) rfl allowed
  | @finishes handler response here =>
      exact windowed.keep none rfl rfl (by simp [here, Phase.trims]) rfl
        (windowed.inside handler _ here)
  | @restarts handler recentScans done =>
      obtain ⟨position, count, here, _, same⟩ := Window.step_restart done
      refine ⟨windowed.trimmed.step done trivial, fun other => ?_, windowed.inside⟩
      have loops := windowed.loops other
      by_cases own : other = handler
      · subst own
        simpa [same, Window.trims_setTrim_self, here] using loops
      · simpa [same, Window.trims_setTrim_of_ne own] using loops
  | @proceeds handler phase after here done =>
      have isInside := windowed.inside handler phase here
      cases numbered.proceeds here done with
      | moves before later found =>
          exact windowed.keep _ rfl rfl (by simp [here, trims_of_settled before])
            (by simp [trims_of_settled later]) isInside
      | numbers stationId => exact windowed.keep _ rfl rfl (by simp [here, Phase.trims]) rfl isInside
      | puts => exact windowed.keep _ rfl rfl (by simp [here, Phase.trims]) rfl isInside
      | adds => exact windowed.keep _ rfl rfl (by simp [here, Phase.trims]) rfl isInside
      | marks => exact windowed.keep _ rfl rfl (by simp [here, Phase.trims]) rfl isInside
      | sells => exact windowed.keep _ rfl rfl (by simp [here, Phase.trims]) rfl isInside
      | @remembers tx sku recentScans appended =>
          obtain ⟨_, same⟩ := Window.step_append appended
          refine windowed.frame _ rfl (windowed.trimmed.step appended isInside) ?_ ?_ isInside
          · intro other different
            show recentScans.trims other = _
            rw [same]
            exact Window.trims_setTrim_of_ne different _
          · show (recentScans.trims handler).isSome = _
            rw [same]
            exact congrArg Option.isSome (Window.trims_setTrim_self _)
      | @trims tx sku recentScans walked =>
          obtain ⟨trim, _, same⟩ := Window.step_proceed walked
          refine windowed.frame _ rfl (windowed.trimmed.step walked trivial) ?_ ?_ isInside
          · intro other different
            show recentScans.trims other = _
            rw [same]
            exact Window.trims_advance_of_ne different trim
          · show (recentScans.trims handler).isSome = _
            cases (recentScans.trims handler).isSome <;> rfl

/-- The units of an item in all the baskets. -/
def MockServer.scanned (server : MockServer) (sku : Sku) : Int :=
  server.transactions.sum (fun _ row => (row.basket.count sku : Int))

def Remembered (slots : Nat) (server : MockServer) : Prop :=
  ∀ sku, server.scanned sku =
    server.recentScans.log.count sku + server.handling slots (Phase.remembers sku)

theorem handling_update (next : Option Phase) (test : Phase → Bool)
    (handlers : after.handlers = Function.update server.handlers handler next)
    (isInside : handler < slots) :
    after.handling slots test + (if (server.handlers handler).any test then 1 else 0) =
      server.handling slots test + (if next.any test then 1 else 0) := by
  unfold MockServer.handling
  rw [handlers]
  exact card_filter_update (Finset.range slots) server.handlers (Option.any test)
    (Finset.mem_range.mpr isInside) next

/-- What a step adds to the baskets its handler owes, and what it remembers it owes no more. -/
theorem Remembered.owes (remembered : Remembered slots server) (next : Option Phase)
    (added : Sku → Int) (more : List Sku)
    (handlers : after.handlers = Function.update server.handlers handler next)
    (isInside : handler < slots) (baskets : ∀ sku, after.scanned sku = server.scanned sku + added sku)
    (log : after.recentScans.log = server.recentScans.log ++ more)
    (balance : ∀ sku, added sku +
        (if (server.handlers handler).any (Phase.remembers sku) then 1 else 0) =
      more.count sku + (if next.any (Phase.remembers sku) then 1 else 0)) :
    Remembered slots after := by
  intro sku
  have handling := handling_update next (Phase.remembers sku) handlers isInside
  have before := remembered sku
  have balance := balance sku
  rw [baskets, log, List.count_append]
  split at handling <;> split at handling <;> simp_all <;> omega

/-- A step that adds and remembers nothing. -/
theorem Remembered.keep (remembered : Remembered slots server) (next : Option Phase)
    (handlers : after.handlers = Function.update server.handlers handler next)
    (baskets : ∀ sku, after.scanned sku = server.scanned sku)
    (log : after.recentScans.log = server.recentScans.log)
    (outside : ∀ sku, (server.handlers handler).any (Phase.remembers sku) = false)
    (stays : ∀ sku, next.any (Phase.remembers sku) = false) (isInside : handler < slots) :
    Remembered slots after :=
  remembered.owes next (fun _ => 0) [] handlers isInside (fun sku => by simp [baskets])
    (by simp [log]) (fun sku => by simp [outside, stays])

theorem scanned_alter {tx : TxId} {row : TxState} (known : server.transactions.lookup tx = some row)
    (change : TxState → TxState) (sku : Sku) :
    (server.transactions.alter tx change).sum (fun _ row => (row.basket.count sku : Int)) =
      server.scanned sku + (change row).basket.count sku - row.basket.count sku := by
  simp [Table.alter, known, Table.sum_put, MockServer.scanned]

theorem Remembered.step (remembered : Remembered slots server) (windowed : Windowed slots server)
    (numbered : Numbered server) (allowed : Slots slots server action)
    (taken : step server action = some after) : Remembered slots after := by
  cases step_takes taken with
  | @receives handler request free =>
      exact remembered.keep _ rfl (fun _ => rfl) rfl (by simp [free]) (fun _ => rfl) allowed
  | @finishes handler response here =>
      exact remembered.keep none rfl (fun _ => rfl) rfl (by simp [here, Phase.remembers])
        (fun _ => rfl) (windowed.inside handler _ here)
  | @restarts handler recentScans done =>
      obtain ⟨_, _, _, _, rfl⟩ := Window.step_restart done
      exact remembered
  | @proceeds handler phase after here done =>
      have isInside := windowed.inside handler phase here
      cases numbered.proceeds here done with
      | moves before later found =>
          exact remembered.keep _ rfl (fun _ => rfl) rfl
            (fun sku => by simp [here, remembers_of_settled before])
            (fun sku => by simp [remembers_of_settled later]) isInside
      | numbers stationId =>
          exact remembered.keep _ rfl (fun _ => rfl) rfl (by simp [here, Phase.remembers])
            (fun _ => rfl) isInside
      | @puts tx stationId =>
          refine remembered.keep _ rfl (fun sku => ?_) rfl (by simp [here, Phase.remembers])
            (fun _ => rfl) isInside
          have absent := (numbered.fresh handler tx stationId here).2
          simp [MockServer.scanned, Table.sum_put, absent]
      | @adds tx sku =>
          obtain ⟨row, known⟩ := Option.isSome_iff_exists.mp (numbered.found handler _ tx here rfl)
          refine remembered.owes _ (fun other => ([sku].count other : Int)) [] rfl isInside
            (fun other => ?_) (List.append_nil _).symm (fun other => ?_)
          · refine (scanned_alter known _ other).trans ?_
            rw [List.count_append]
            omega
          · simp [here, Phase.remembers, List.count_singleton]
      | @remembers tx sku recentScans appended =>
          obtain ⟨_, rfl⟩ := Window.step_append appended
          refine remembered.owes _ (fun _ => 0) [sku] rfl isInside (fun _ => (add_zero _).symm) rfl
            (fun other => ?_)
          simp [here, Phase.remembers, List.count_singleton]
      | @trims tx sku recentScans walked =>
          obtain ⟨trim, _, rfl⟩ := Window.step_proceed walked
          refine remembered.keep _ rfl (fun _ => rfl) (Window.log_advance trim)
            (by simp [here, Phase.remembers]) (fun other => ?_) isInside
          split <;> rfl
      | @marks tx =>
          obtain ⟨row, known⟩ := Option.isSome_iff_exists.mp (numbered.found handler _ tx here rfl)
          refine remembered.keep _ rfl (fun sku => ?_) rfl (by simp [here, Phase.remembers])
            (fun _ => rfl) isInside
          exact (scanned_alter known _ sku).trans (by simp)
      | sells =>
          exact remembered.keep _ rfl (fun _ => rfl) rfl (by simp [here, Phase.remembers])
            (fun _ => rfl) isInside

/-- The units of an item taken off the stock. -/
def MockServer.sold (server : MockServer) (sku : Sku) : Nat :=
  (server.sales.map Prod.snd).count sku

def Stocked (stockPerItem : Int) (server : MockServer) : Prop :=
  ∀ sku, server.stock sku = decremented^[server.sold sku] stockPerItem

theorem decremented_iterate (least : 0 ≤ stockPerItem) (most : stockPerItem < 2 ^ 31) (count : Nat) :
    decremented^[count] stockPerItem = max 0 (stockPerItem - count) := by
  induction count with
  | zero => simp [least]
  | succ count ih =>
      rw [Function.iterate_succ_apply', ih, decremented, Int.bmod_eq_of_le (by omega) (by omega)]
      omega

theorem Stocked.step (stocked : Stocked stockPerItem server) (numbered : Numbered server)
    (taken : step server action = some after) : Stocked stockPerItem after := by
  cases step_takes taken with
  | receives free => exact stocked
  | finishes here => exact stocked
  | restarts done => exact stocked
  | @proceeds handler phase after here done =>
      cases numbered.proceeds here done with
      | moves => exact stocked
      | numbers => exact stocked
      | puts => exact stocked
      | adds => exact stocked
      | remembers => exact stocked
      | trims => exact stocked
      | marks => exact stocked
      | @sells tx sku position nextItem =>
          intro other
          have before := stocked other
          by_cases same : other = sku
          · subst same
            simp only [MockServer.sold, List.map_append, List.map_cons, List.map_nil, List.count_append,
              List.count_singleton_self, Function.update_self, Function.iterate_succ_apply']
            rw [before]
            rfl
          · simp only [MockServer.sold, List.map_append, List.map_cons, List.map_nil, List.count_append,
              List.count_singleton, Function.update_of_ne same]
            rw [before]
            simp [MockServer.sold, Ne.symm same]

/-- No handler waits for another. -/
theorem Windowed.unblocked (windowed : Windowed slots server)
    (here : server.handlers handler = some phase) :
    (∃ response, phase = .answered response) ∨
      (Mock.step server (.proceed handler)).isSome = true := by
  have loops := windowed.loops handler
  simp only [Mock.step, here]
  cases phase with
  | answered response => exact .inl ⟨response, rfl⟩
  | remembering tx sku =>
      simp only [here, Option.any_some, Phase.trims, Option.isSome_eq_false_iff,
        Option.isNone_iff_eq_none] at loops
      exact .inr (by simp [MockServer.proceed, Window.step, loops])
  | trimming tx sku =>
      simp only [here, Option.any_some, Phase.trims] at loops
      obtain ⟨trim, isIn⟩ := Option.isSome_iff_exists.mp loops
      exact .inr (by simp [MockServer.proceed, Window.step, isIn])
  | selling tx position nextItem =>
      cases nextItem with
      | none => exact .inr rfl
      | some sku => exact .inr rfl
  | _ => exact .inr rfl

/-- What the mock server counts.  In every run of at most `slots` concurrent requests, whatever
they ask for: the stock of an item is `stockPerItem` less its sales, and never less than zero;
a scan is in a basket as often as it was remembered or is about to be; `recentScans` holds no
more than the window and one for each handler that still trims, and has lost no more than one
for each handler; and no handler waits for another. -/
theorem mock_server_counts {catalogSize : Nat} {labels : List Action} (least : 0 ≤ stockPerItem)
    (most : stockPerItem < 2 ^ 31)
    (run : Run step (Slots slots) (mockServer catalogSize stockPerItem) labels server) :
    (∀ sku, server.stock sku = max 0 (stockPerItem - server.sold sku)) ∧
    (∀ sku, server.scanned sku =
      server.recentScans.log.count sku + server.handling slots (Phase.remembers sku)) ∧
    server.recentScans.entries.length ≤ popularityWindow + server.handling slots Phase.trims ∧
    min server.recentScans.log.length (popularityWindow + 1 - slots) ≤
      server.recentScans.entries.length ∧
    ∀ handler phase, server.handlers handler = some phase →
      (∃ response, phase = .answered response) ∨
        (step server (.proceed handler)).isSome = true := by
  have all : Numbered server ∧ Windowed slots server ∧ Remembered slots server ∧
      Stocked stockPerItem server := by
    induction run with
    | start =>
        refine ⟨⟨?_, ?_, ?_, ?_⟩, ⟨Window.trimmed_empty, fun _ => rfl, ?_⟩, fun sku => ?_, fun sku => rfl⟩
        · exact fun tx isKnown => by contradiction
        · exact fun handler tx stationId here => by contradiction
        · exact fun one other tx first second here => by contradiction
        · exact fun handler phase tx here => by contradiction
        · exact fun handler phase here => by contradiction
        · simp [MockServer.scanned, MockServer.handling, mockServer, Window.empty, Table.sum, Table.empty]
    | snoc past permitted taken ih =>
        obtain ⟨numbered, windowed, remembered, stocked⟩ := ih
        exact ⟨numbered.step taken, windowed.step numbered permitted taken,
          remembered.step windowed numbered permitted taken, stocked.step numbered taken⟩
  obtain ⟨numbered, windowed, remembered, stocked⟩ := all
  have busy : (server.recentScans.busy slots).card = server.handling slots Phase.trims := by
    simp only [Window.busy, MockServer.handling, windowed.loops]
  refine ⟨fun sku => ?_, remembered, busy ▸ windowed.trimmed.length_le, windowed.trimmed.le_length,
    fun handler phase here => windowed.unblocked here⟩
  rw [stocked sku, decremented_iterate least most]

end Steps

/-- Two scans of one transaction, and two requests to complete it, each step of one between
two of the other. -/
def completedTwice : List Action :=
  [.receive 0 (.startTransaction (.value (units "station-001"))), .proceed 0, .proceed 0, .finish 0,
    .receive 0 (.scanItem 1 (.value (catalogSku 1))), .receive 1 (.scanItem 1 (.value (catalogSku 1)))] ++
  (List.replicate 8 [.proceed 0, .proceed 1]).flatten ++ [.finish 0, .finish 1] ++
  [.receive 0 (.completeTransaction 1), .receive 1 (.completeTransaction 1)] ++
  (List.replicate 9 [.proceed 0, .proceed 1]).flatten

theorem completedTwice_runs :
    (completedTwice.foldlM (guarded step (Slots 2)) (mockServer 1 3)).isSome = true := by
  decide +kernel

/-- Of three in stock four are sold. -/
theorem mock_server_counts_completedTwice :
    (Option.get _ completedTwice_runs).stock (catalogSku 1) =
      max 0 (3 - ((Option.get _ completedTwice_runs).sold (catalogSku 1) : Int)) :=
  (mock_server_counts (by decide) (by decide)
    (.of_guarded (Option.some_get completedTwice_runs).symm)).1 (catalogSku 1)

example :
    let server := Option.get _ completedTwice_runs
    (server.sold (catalogSku 1), server.stock (catalogSku 1), server.completions) = (4, 0, [1, 1]) := by
  decide +kernel

end SelfCheckout.Mock
