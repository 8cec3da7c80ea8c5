import SelfCheckout.LoadClient.Stations

namespace SelfCheckout.LoadClient.Stations

open SelfCheckout.Data SelfCheckout.Data.Rfc8259 SelfCheckout.Mock

/-! # The stations' accounts

A station has one call under way at a time and never comes back to a transaction that a call
failed for.  So a transaction has one station or one handler, the server refuses no call, and
what the stations count can be held against what the server did.
-/

/-- The call that a thread waits for. -/
def Thread.call : Thread → Option Call
  | .starting _ => some .start
  | .scanning tx _ _ => some (.scan tx)
  | .completing tx _ => some (.complete tx)
  | _ => none

def Thread.tx : Thread → Option Mock.TxId
  | .shopping tx _ | .scanning tx _ _ | .completing tx _ => some tx
  | _ => none

def phaseTx (handlers : HandlerId → Option Phase) (handler : HandlerId) : Option Mock.TxId :=
  (handlers handler).bind Phase.tx

structure Linked (thread : StationId → Thread) (handlers : HandlerId → Option Phase)
    (owner : HandlerId → Option StationId) : Prop where
  owned : ∀ station handler, (thread station).waits = some handler → owner handler = some station ∧
    ∃ phase, handlers handler = some phase ∧ phase.call = (thread station).call
  owner : ∀ station handler, owner handler = some station → (thread station).waits = some handler
  oneStation : ∀ one other tx, (thread one).tx = some tx → (thread other).tx = some tx → one = other
  oneHandler : ∀ one other tx, phaseTx handlers one = some tx → phaseTx handlers other = some tx →
    one = other
  waits : ∀ station handler tx, (thread station).tx = some tx → phaseTx handlers handler = some tx →
    (thread station).waits = some handler

section Linked

variable {thread : StationId → Thread} {handlers : HandlerId → Option Phase}
  {owner : HandlerId → Option StationId} {station : StationId} {handler : HandlerId}
  {phase : Phase}

theorem phaseTx_update_self (next : Option Phase) :
    phaseTx (Function.update handlers handler next) handler = next.bind Phase.tx := by
  simp [phaseTx]

theorem phaseTx_update_of_ne {other : HandlerId} (different : other ≠ handler) (next : Option Phase) :
    phaseTx (Function.update handlers handler next) other = phaseTx handlers other := by
  simp [phaseTx, different]

/-- Who waits for a handler is its owner, and nobody else. -/
theorem Linked.alone (linked : Linked thread handlers owner) {other : StationId}
    (waits : (thread station).waits = some handler) (also : (thread other).waits = some handler) :
    other = station :=
  Option.some.inj ((linked.owned other handler also).1.symm.trans (linked.owned station handler waits).1)

/-- A call is sent. -/
theorem Linked.sends (linked : Linked thread handlers owner) (quiet : (thread station).waits = none)
    (free : handlers handler = none) {next : Thread} (waits : next.waits = some handler)
    (call : phase.call = next.call) (threadTx : next.tx = (thread station).tx)
    (sameTx : phase.tx = (thread station).tx) :
    Linked (Function.update thread station next) (Function.update handlers handler (some phase))
      (Function.update owner handler (some station)) := by
  have unowned : ∀ other, (thread other).waits ≠ some handler := by
    intro other also
    obtain ⟨_, phase, here, _⟩ := linked.owned other handler also
    rw [free] at here
    contradiction
  have txs : ∀ other, (Function.update thread station next other).tx = (thread other).tx := by
    intro other
    by_cases own : other = station
    · rw [own, Function.update_self, threadTx]
    · rw [Function.update_of_ne own]
  have nobody : ∀ other tx, (thread station).tx = some tx → phaseTx handlers other ≠ some tx := by
    intro other tx mine also
    have same := linked.waits station other tx mine also
    rw [quiet] at same
    contradiction
  constructor
  · intro other otherHandler also
    by_cases own : other = station
    · subst own
      rw [Function.update_self, waits] at also
      cases also
      rw [Function.update_self, Function.update_self, Function.update_self]
      exact ⟨rfl, phase, rfl, call⟩
    · rw [Function.update_of_ne own] at also ⊢
      have different : otherHandler ≠ handler := fun same => unowned other (same ▸ also)
      rw [Function.update_of_ne different, Function.update_of_ne different]
      exact linked.owned other otherHandler also
  · intro other otherHandler owns
    by_cases same : otherHandler = handler
    · subst same
      rw [Function.update_self] at owns
      cases owns
      rw [Function.update_self, waits]
    · rw [Function.update_of_ne same] at owns
      have also := linked.owner other otherHandler owns
      have different : other ≠ station := by
        rintro rfl
        rw [quiet] at also
        contradiction
      rwa [Function.update_of_ne different]
  · intro one other tx first second
    rw [txs] at first second
    exact linked.oneStation one other tx first second
  · intro one other tx first second
    by_cases oneOwn : one = handler
    · by_cases otherOwn : other = handler
      · exact oneOwn.trans otherOwn.symm
      · rw [oneOwn, phaseTx_update_self, Option.bind_some, sameTx] at first
        rw [phaseTx_update_of_ne otherOwn] at second
        exact absurd second (nobody other tx first)
    · rw [phaseTx_update_of_ne oneOwn] at first
      by_cases otherOwn : other = handler
      · rw [otherOwn, phaseTx_update_self, Option.bind_some, sameTx] at second
        exact absurd first (nobody one tx second)
      · rw [phaseTx_update_of_ne otherOwn] at second
        exact linked.oneHandler one other tx first second
  · intro other otherHandler tx mine also
    rw [txs] at mine
    by_cases same : otherHandler = handler
    · rw [same, phaseTx_update_self, Option.bind_some, sameTx] at also
      rw [linked.oneStation other station tx mine also, Function.update_self, waits, same]
    · rw [phaseTx_update_of_ne same] at also
      have different : other ≠ station := by
        rintro rfl
        exact nobody otherHandler tx mine also
      rw [Function.update_of_ne different]
      exact linked.waits other otherHandler tx mine also

/-- The answer to a call is received. -/
theorem Linked.receives (linked : Linked thread handlers owner)
    (waits : (thread station).waits = some handler) (here : handlers handler = some phase)
    {next : Thread} (quiet : next.waits = none)
    (nextTx : ∀ tx, next.tx = some tx → (thread station).tx = some tx ∨ phase.tx = some tx) :
    Linked (Function.update thread station next) (Function.update handlers handler none)
      (Function.update owner handler none) := by
  have others : ∀ other otherHandler,
      (Function.update thread station next other).waits = some otherHandler →
        other ≠ station ∧ otherHandler ≠ handler ∧ (thread other).waits = some otherHandler := by
    intro other otherHandler also
    by_cases own : other = station
    · rw [own, Function.update_self, quiet] at also
      contradiction
    · rw [Function.update_of_ne own] at also
      refine ⟨own, ?_, also⟩
      rintro rfl
      exact own (linked.alone waits also)
  have placed : ∀ otherHandler tx,
      phaseTx (Function.update handlers handler none) otherHandler = some tx →
        otherHandler ≠ handler ∧ phaseTx handlers otherHandler = some tx := by
    intro otherHandler tx also
    by_cases same : otherHandler = handler
    · rw [same, phaseTx_update_self] at also
      contradiction
    · rw [phaseTx_update_of_ne same] at also
      exact ⟨same, also⟩
  have mine : ∀ tx, next.tx = some tx → ∀ other, (thread other).tx = some tx → other = station := by
    intro tx nowTx other also
    rcases nextTx tx nowTx with before | served
    · exact linked.oneStation other station tx also before
    · exact linked.alone waits (linked.waits other handler tx also (by simp [phaseTx, here, served]))
  constructor
  · intro other otherHandler also
    obtain ⟨own, different, also⟩ := others other otherHandler also
    rw [Function.update_of_ne own, Function.update_of_ne different, Function.update_of_ne different]
    exact linked.owned other otherHandler also
  · intro other otherHandler owns
    by_cases same : otherHandler = handler
    · rw [same, Function.update_self] at owns
      contradiction
    · rw [Function.update_of_ne same] at owns
      have also := linked.owner other otherHandler owns
      have different : other ≠ station := by
        rintro rfl
        exact same (Option.some.inj (also.symm.trans waits))
      rwa [Function.update_of_ne different]
  · intro one other tx first second
    by_cases oneOwn : one = station
    · by_cases otherOwn : other = station
      · exact oneOwn.trans otherOwn.symm
      · rw [oneOwn, Function.update_self] at first
        rw [Function.update_of_ne otherOwn] at second
        exact absurd (mine tx first other second) otherOwn
    · rw [Function.update_of_ne oneOwn] at first
      by_cases otherOwn : other = station
      · rw [otherOwn, Function.update_self] at second
        exact absurd (mine tx second one first) oneOwn
      · rw [Function.update_of_ne otherOwn] at second
        exact linked.oneStation one other tx first second
  · intro one other tx first second
    exact linked.oneHandler one other tx (placed one tx first).2 (placed other tx second).2
  · intro other otherHandler tx nowTx also
    obtain ⟨different, also⟩ := placed otherHandler tx also
    by_cases own : other = station
    · rw [own, Function.update_self] at nowTx
      rcases nextTx tx nowTx with before | served
      · have same := linked.waits station otherHandler tx before also
        exact absurd (Option.some.inj (same.symm.trans waits)) different
      · exact absurd (linked.oneHandler otherHandler handler tx also (by simp [phaseTx, here, served]))
          different
    · rw [Function.update_of_ne own] at nowTx ⊢
      exact linked.waits other otherHandler tx nowTx also

/-- A station stops waiting; its handler, if it has one, is nobody's now. -/
theorem Linked.hangs (linked : Linked thread handlers owner) {next : Thread}
    (quiet : next.waits = none) (nothing : next.tx = none) {freed : HandlerId → Option StationId}
    (gone : ∀ handler, (thread station).waits = some handler → freed handler = none)
    (kept : ∀ handler, (thread station).waits ≠ some handler → freed handler = owner handler) :
    Linked (Function.update thread station next) handlers freed := by
  have others : ∀ other handler, (Function.update thread station next other).waits = some handler →
      other ≠ station ∧ (thread other).waits = some handler := by
    intro other handler also
    by_cases own : other = station
    · rw [own, Function.update_self, quiet] at also
      contradiction
    · rw [Function.update_of_ne own] at also
      exact ⟨own, also⟩
  have placed : ∀ other tx, (Function.update thread station next other).tx = some tx →
      other ≠ station ∧ (thread other).tx = some tx := by
    intro other tx nowTx
    by_cases own : other = station
    · rw [own, Function.update_self, nothing] at nowTx
      contradiction
    · rw [Function.update_of_ne own] at nowTx
      exact ⟨own, nowTx⟩
  constructor
  · intro other handler also
    obtain ⟨own, also⟩ := others other handler also
    rw [Function.update_of_ne own, kept handler (fun waits => own (linked.alone waits also))]
    exact linked.owned other handler also
  · intro other handler owns
    by_cases waits : (thread station).waits = some handler
    · rw [gone handler waits] at owns
      contradiction
    · rw [kept handler waits] at owns
      have also := linked.owner other handler owns
      have different : other ≠ station := by
        rintro rfl
        exact waits also
      rwa [Function.update_of_ne different]
  · intro one other tx first second
    exact linked.oneStation one other tx (placed one tx first).2 (placed other tx second).2
  · exact linked.oneHandler
  · intro other handler tx nowTx also
    obtain ⟨own, nowTx⟩ := placed other tx nowTx
    rw [Function.update_of_ne own]
    exact linked.waits other handler tx nowTx also

/-- A handler takes a step. -/
theorem Linked.serves (linked : Linked thread handlers owner) (here : handlers handler = some phase)
    {next : Phase} (call : next.call = phase.call)
    (nextTx : ∀ tx, next.tx = some tx → phase.tx = some tx ∨
      (∀ station, (thread station).tx ≠ some tx) ∧ ∀ handler, phaseTx handlers handler ≠ some tx) :
    Linked thread (Function.update handlers handler (some next)) owner := by
  have mine : phaseTx handlers handler = phase.tx := by simp [phaseTx, here]
  have own : ∀ tx, next.tx = some tx → ∀ other, phaseTx handlers other = some tx → other = handler := by
    intro tx nowTx other also
    rcases nextTx tx nowTx with before | ⟨_, fresh⟩
    · exact linked.oneHandler other handler tx also (mine.trans before)
    · exact absurd also (fresh other)
  constructor
  · intro station otherHandler waits
    obtain ⟨owned, otherPhase, there, same⟩ := linked.owned station otherHandler waits
    refine ⟨owned, ?_⟩
    by_cases isOwn : otherHandler = handler
    · subst isOwn
      cases here.symm.trans there
      exact ⟨next, Function.update_self _ _ _, call.trans same⟩
    · exact ⟨otherPhase, (Function.update_of_ne isOwn _ _).trans there, same⟩
  · exact linked.owner
  · exact linked.oneStation
  · intro one other tx first second
    by_cases oneOwn : one = handler
    · by_cases otherOwn : other = handler
      · exact oneOwn.trans otherOwn.symm
      · rw [oneOwn, phaseTx_update_self, Option.bind_some] at first
        rw [phaseTx_update_of_ne otherOwn] at second
        exact absurd (own tx first other second) otherOwn
    · rw [phaseTx_update_of_ne oneOwn] at first
      by_cases otherOwn : other = handler
      · rw [otherOwn, phaseTx_update_self, Option.bind_some] at second
        exact absurd (own tx second one first) oneOwn
      · rw [phaseTx_update_of_ne otherOwn] at second
        exact linked.oneHandler one other tx first second
  · intro station otherHandler tx nowTx also
    by_cases isOwn : otherHandler = handler
    · rw [isOwn, phaseTx_update_self, Option.bind_some] at also
      rcases nextTx tx also with before | ⟨fresh, _⟩
      · rw [isOwn]
        exact linked.waits station handler tx nowTx (mine.trans before)
      · exact absurd nowTx (fresh station)
    · rw [phaseTx_update_of_ne isOwn] at also
      exact linked.waits station otherHandler tx nowTx also

/-- What nobody waits for is gone. -/
theorem Linked.drops (linked : Linked thread handlers owner) (unowned : owner handler = none) :
    Linked thread (Function.update handlers handler none) owner := by
  have placed : ∀ other tx, phaseTx (Function.update handlers handler none) other = some tx →
      phaseTx handlers other = some tx := by
    intro other tx also
    by_cases same : other = handler
    · rw [same, phaseTx_update_self] at also
      contradiction
    · rwa [phaseTx_update_of_ne same] at also
  refine ⟨fun station other waits => ?_, linked.owner, linked.oneStation, ?_, ?_⟩
  · obtain ⟨owned, phase, there, call⟩ := linked.owned station other waits
    have different : other ≠ handler := by
      rintro rfl
      rw [unowned] at owned
      contradiction
    exact ⟨owned, phase, (Function.update_of_ne different _ _).trans there, call⟩
  · exact fun one other tx first second =>
      linked.oneHandler one other tx (placed one tx first) (placed other tx second)
  · exact fun station other tx nowTx also => linked.waits station other tx nowTx (placed other tx also)

end Linked

/-- What a call scans, and what it completes. -/
def scansOf : Option Call → List Mock.TxId
  | some (.scan tx) => [tx]
  | _ => []

def completionsOf : Option Call → List Mock.TxId
  | some (.complete tx) => [tx]
  | _ => []

def length (server : MockServer) (tx : Mock.TxId) : Nat := (server.basketOf tx).length

/-- What a station knows of its transaction. -/
def Thread.Facts (server : MockServer) (history : History) : Thread → Prop
  | .shopping tx left => (server.transactions.lookup tx).isSome = true ∧ tx ∉ server.completions ∧
      (left = 0 → server.basketOf tx ≠ []) ∧ length server tx = history.scans.count tx
  | .scanning tx _ _ => (server.transactions.lookup tx).isSome = true ∧ tx ∉ server.completions
  | .completing tx _ => (server.transactions.lookup tx).isSome = true ∧ tx ∉ history.receipts
  | _ => True

structure Books (server : MockServer) (thread : StationId → Thread)
    (owner : HandlerId → Option StationId) (history : History) : Prop where
  threads : ∀ station, (thread station).Facts server history
  scanned : ∀ handler phase tx, server.handlers handler = some phase → phase.call = some (.scan tx) →
    phase.tx = some tx ∨ owner handler ≠ none → length server tx = history.scans.count tx + phase.items
  orphanScans : ∀ handler phase tx, server.handlers handler = some phase → owner handler = none →
    phase.call = some (.scan tx) → tx ∈ history.unansweredScans
  orphanCompletions : ∀ handler phase tx, server.handlers handler = some phase →
    owner handler = none → phase.call = some (.complete tx) → tx ∈ history.unansweredCompletions
  least : ∀ tx, history.scans.count tx ≤ length server tx
  most : ∀ tx, length server tx ≤ history.scans.count tx + history.unansweredScans.count tx ∨
    (∃ station, (thread station).call = some (.scan tx)) ∧
      length server tx ≤ history.scans.count tx + history.unansweredScans.count tx + 1
  nodup : history.receipts.Nodup
  closed : ∀ tx ∈ history.receipts, tx ∈ server.completions
  completed : ∀ tx ∈ server.completions, tx ∈ history.receipts ∨
    tx ∈ history.unansweredCompletions ∨ ∃ station, (thread station).call = some (.complete tx)

section Books

variable {server after : MockServer} {thread : StationId → Thread}
  {owner : HandlerId → Option StationId} {history later : History} {station : StationId}
  {handler : HandlerId} {phase : Phase} {tx : Mock.TxId}

theorem Thread.Facts.kept {thread : Thread} (facts : thread.Facts server history)
    (same : ∀ tx, thread.tx = some tx → Same server after tx)
    (scans : ∀ tx, thread.tx = some tx → later.scans.count tx = history.scans.count tx)
    (receipts : ∀ tx, thread.tx = some tx → tx ∈ later.receipts → tx ∈ history.receipts) :
    thread.Facts after later := by
  cases thread with
  | shopping tx left =>
      obtain ⟨known, basket, closed, _⟩ := same tx rfl
      obtain ⟨isKnown, isOpen, filled, counted⟩ := facts
      refine ⟨known.trans isKnown, fun isClosed => isOpen (closed.mp isClosed), ?_, ?_⟩
      · rw [basket]
        exact filled
      · rw [scans tx rfl, length, basket]
        exact counted
  | scanning tx left handler =>
      obtain ⟨known, _, closed, _⟩ := same tx rfl
      exact ⟨known.trans facts.1, fun isClosed => facts.2 (closed.mp isClosed)⟩
  | completing tx handler =>
      obtain ⟨known, _, _, _⟩ := same tx rfl
      exact ⟨known.trans facts.1, fun counted => facts.2 (receipts tx rfl counted)⟩
  | _ => trivial

theorem tx_of_thread_scan {thread : Thread} (call : thread.call = some (.scan tx)) :
    thread.tx = some tx := by
  cases thread <;> cases call
  rfl

theorem tx_of_thread_complete {thread : Thread} (call : thread.call = some (.complete tx)) :
    thread.tx = some tx := by
  cases thread <;> cases call
  rfl

theorem call_of_quiet {thread : Thread} (quiet : thread.waits = none) : thread.call = none := by
  cases thread <;> first | rfl | contradiction

/-- A handler that still works on a call is about its transaction. -/
theorem tx_of_proceed (call : phase.call = some (.scan tx))
    (done : server.proceed handler phase = some after) : phase.tx = some tx := by
  cases phase with
  | received request =>
      cases request <;> cases call
      rfl
  | answered response => contradiction
  | _ =>
      cases call <;> rfl

/-- A scan that is still counted is waited for by the station of its transaction. -/
theorem Linked.waitsForScan (linked : Linked thread server.handlers owner)
    (here : server.handlers handler = some phase) (call : phase.call = some (.scan tx))
    (counts : phase.tx = some tx ∨ owner handler ≠ none) (mine : (thread station).tx = some tx) :
    (thread station).waits = some handler := by
  rcases counts with about | owned
  · exact linked.waits station handler tx mine (by simp [phaseTx, here, about])
  · obtain ⟨other, isOwner⟩ := Option.ne_none_iff_exists'.mp owned
    have waits := linked.owner other handler isOwner
    obtain ⟨_, _, there, same⟩ := linked.owned other handler waits
    cases here.symm.trans there
    rw [linked.oneStation station other tx mine (tx_of_thread_scan (same.symm.trans call))]
    exact waits

/-- Two scans that are still counted are of two transactions. -/
theorem Linked.oneScan (linked : Linked thread server.handlers owner) {other : HandlerId}
    {otherPhase : Phase} (mine : phaseTx server.handlers handler = some tx)
    (there : server.handlers other = some otherPhase) (call : otherPhase.call = some (.scan tx))
    (counts : otherPhase.tx = some tx ∨ owner other ≠ none) : other = handler := by
  rcases counts with about | owned
  · exact linked.oneHandler other handler tx (by simp [phaseTx, there, about]) mine
  · obtain ⟨station, isOwner⟩ := Option.ne_none_iff_exists'.mp owned
    have waits := linked.owner station other isOwner
    obtain ⟨_, _, here, same⟩ := linked.owned station other waits
    cases there.symm.trans here
    have about := tx_of_thread_scan (same.symm.trans call)
    exact Option.some.inj (waits.symm.trans (linked.waits station handler tx about mine))

theorem count_scansOf (call : Option Call) (tx : Mock.TxId) :
    (scansOf call).count tx = if call = some (.scan tx) then 1 else 0 := by
  cases call with
  | none => rfl
  | some call => cases call <;> simp [scansOf, List.count_singleton]

theorem mem_completionsOf {call : Option Call} :
    tx ∈ completionsOf call ↔ call = some (.complete tx) := by
  cases call with
  | none => simp [completionsOf]
  | some call => cases call <;> simp [completionsOf, eq_comm]

/-- A call is sent. -/
theorem Books.sends (books : Books server thread owner history)
    (quiet : (thread station).waits = none) (free : server.handlers handler = none)
    {request : Mock.Request} {next : Thread} (call : (Phase.received request).call = next.call)
    (facts : next.Facts server history)
    (scan : ∀ tx, next.call = some (.scan tx) → length server tx = history.scans.count tx) :
    Books (server.goto handler (.received request)) (Function.update thread station next)
      (Function.update owner handler (some station)) history := by
  have silent := call_of_quiet quiet
  have calls : ∀ {call other}, (thread other).call = some call →
      (Function.update thread station next other).call = some call := by
    intro call other calling
    have different : other ≠ station := by
      rintro rfl
      rw [silent] at calling
      contradiction
    rwa [Function.update_of_ne different]
  have before : ∀ other phase, (server.goto handler (.received request)).handlers other = some phase →
      other = handler ∧ phase = .received request ∨
        other ≠ handler ∧ server.handlers other = some phase := by
    intro other phase there
    by_cases own : other = handler
    · rw [own, handlers_goto_self] at there
      exact .inl ⟨own, (Option.some.inj there).symm⟩
    · exact .inr ⟨own, (handlers_goto_of_ne own _).symm.trans there⟩
  refine ⟨fun other => ?_, ?_, ?_, ?_, books.least, fun tx => ?_, books.nodup, books.closed,
    fun tx isClosed => ?_⟩
  · by_cases own : other = station
    · rw [own, Function.update_self]
      exact facts.kept (fun _ _ => ⟨rfl, rfl, Iff.rfl, rfl⟩) (fun _ _ => rfl) (fun _ _ counted => counted)
    · rw [Function.update_of_ne own]
      exact (books.threads other).kept (fun _ _ => ⟨rfl, rfl, Iff.rfl, rfl⟩) (fun _ _ => rfl)
        (fun _ _ counted => counted)
  · intro other phase tx there scanning counts
    rcases before other phase there with ⟨rfl, rfl⟩ | ⟨own, there⟩
    · exact scan tx (call.symm.trans scanning)
    · rw [Function.update_of_ne own] at counts
      exact books.scanned other phase tx there scanning counts
  · intro other phase tx there unowned scanning
    rcases before other phase there with ⟨rfl, rfl⟩ | ⟨own, there⟩
    · rw [Function.update_self] at unowned
      contradiction
    · rw [Function.update_of_ne own] at unowned
      exact books.orphanScans other phase tx there unowned scanning
  · intro other phase tx there unowned completing
    rcases before other phase there with ⟨rfl, rfl⟩ | ⟨own, there⟩
    · rw [Function.update_self] at unowned
      contradiction
    · rw [Function.update_of_ne own] at unowned
      exact books.orphanCompletions other phase tx there unowned completing
  · refine (books.most tx).imp_right ?_
    rintro ⟨⟨other, calling⟩, bound⟩
    exact ⟨⟨other, calls calling⟩, bound⟩
  · refine (books.completed tx isClosed).imp_right (.imp_right ?_)
    rintro ⟨other, calling⟩
    exact ⟨other, calls calling⟩

/-- The answer to a call is received and counted. -/
theorem Books.receives {response : Response} (books : Books server thread owner history)
    (linked : Linked thread server.handlers owner) (serving : Serving server)
    (waits : (thread station).waits = some handler)
    (here : server.handlers handler = some (.answered response)) {next : Thread}
    (facts : next.Facts server { history with
      scans := history.scans ++ scansOf (thread station).call
      receipts := history.receipts ++ completionsOf (thread station).call }) :
    Books { server with handlers := Function.update server.handlers handler none }
      (Function.update thread station next) (Function.update owner handler none)
      { history with
        scans := history.scans ++ scansOf (thread station).call
        receipts := history.receipts ++ completionsOf (thread station).call } := by
  obtain ⟨owned, phase, isPhase, call⟩ := linked.owned station handler waits
  cases here.symm.trans isPhase
  have items : ∀ tx, (thread station).call = some (.scan tx) →
      length server tx = history.scans.count tx + 1 := by
    intro tx calling
    have counted := books.scanned handler _ tx here (call.trans calling) (.inr (by simp [owned]))
    cases response with
    | scanned => exact counted
    | _ =>
        have same := call.trans calling
        cases same
  have elsewhere : ∀ tx, (thread station).tx ≠ some tx →
      (history.scans ++ scansOf (thread station).call).count tx = history.scans.count tx ∧
        (tx ∈ history.receipts ++ completionsOf (thread station).call → tx ∈ history.receipts) := by
    intro tx different
    refine ⟨?_, fun counted => (List.mem_append.mp counted).resolve_right fun now => ?_⟩
    · rw [List.count_append, count_scansOf, if_neg fun calling => different (tx_of_thread_scan calling)]
      rfl
    · exact different (tx_of_thread_complete (mem_completionsOf.mp now))
  have before : ∀ other phase, Function.update server.handlers handler none other = some phase →
      other ≠ handler ∧ server.handlers other = some phase := by
    intro other phase there
    by_cases own : other = handler
    · rw [own, Function.update_self] at there
      contradiction
    · exact ⟨own, (Function.update_of_ne own _ _).symm.trans there⟩
  refine ⟨fun other => ?_, ?_, ?_, ?_, fun tx => ?_, fun tx => ?_, ?_, ?_, fun tx isClosed => ?_⟩
  · by_cases own : other = station
    · rw [own, Function.update_self]
      exact facts.kept (fun _ _ => ⟨rfl, rfl, Iff.rfl, rfl⟩) (fun _ _ => rfl) (fun _ _ counted => counted)
    · rw [Function.update_of_ne own]
      have apart : ∀ tx, (thread other).tx = some tx → (thread station).tx ≠ some tx :=
        fun tx about mine => own (linked.oneStation other station tx about mine)
      exact (books.threads other).kept (fun _ _ => ⟨rfl, rfl, Iff.rfl, rfl⟩)
        (fun tx about => (elsewhere tx (apart tx about)).1)
        (fun tx about => (elsewhere tx (apart tx about)).2)
  · intro other phase tx there scanning counts
    obtain ⟨own, there⟩ := before other phase there
    rw [Function.update_of_ne own] at counts
    have counted := books.scanned other phase tx there scanning counts
    have apart : (thread station).tx ≠ some tx := fun mine =>
      own (Option.some.inj ((linked.waitsForScan there scanning counts mine).symm.trans waits))
    exact counted.trans (by rw [(elsewhere tx apart).1])
  · intro other phase tx there unowned scanning
    obtain ⟨own, there⟩ := before other phase there
    rw [Function.update_of_ne own] at unowned
    exact books.orphanScans other phase tx there unowned scanning
  · intro other phase tx there unowned completing
    obtain ⟨own, there⟩ := before other phase there
    rw [Function.update_of_ne own] at unowned
    exact books.orphanCompletions other phase tx there unowned completing
  · show (history.scans ++ scansOf (thread station).call).count tx ≤ length server tx
    rw [List.count_append, count_scansOf]
    split
    · rename_i calling
      exact (items tx calling).ge
    · exact books.least tx
  · show length server tx ≤ (history.scans ++ scansOf (thread station).call).count tx + _ ∨ _
    rw [List.count_append, count_scansOf]
    by_cases calling : (thread station).call = some (.scan tx)
    · rw [if_pos calling, items tx calling]
      exact .inl (Nat.le_add_right _ _)
    · rw [if_neg calling]
      refine (books.most tx).imp_right ?_
      rintro ⟨⟨other, scanning⟩, bound⟩
      refine ⟨⟨other, ?_⟩, bound⟩
      rwa [Function.update_of_ne]
      rintro rfl
      exact calling scanning
  · refine List.nodup_append.mpr ⟨books.nodup, ?_, ?_⟩
    · unfold completionsOf
      split
      · exact List.nodup_singleton _
      · exact List.nodup_nil
    · rintro tx counted _ now rfl
      have completing := mem_completionsOf.mp now
      have facts := books.threads station
      generalize thread station = calling at completing facts
      cases calling with
      | completing other otherHandler =>
          cases completing
          exact facts.2 counted
      | _ => cases completing
  · intro tx counted
    rcases List.mem_append.mp counted with before | now
    · exact books.closed tx before
    · have facts := serving.facts handler _ here
      have completing := call.trans (mem_completionsOf.mp now)
      cases response with
      | receipt other itemCount =>
          cases completing
          exact facts
      | _ => cases completing
  · rcases books.completed tx isClosed with counted | lost | ⟨other, calling⟩
    · exact .inl (List.mem_append_left _ counted)
    · exact .inr (.inl lost)
    · by_cases own : other = station
      · exact .inl (List.mem_append_right _ (mem_completionsOf.mpr (own ▸ calling)))
      · exact .inr (.inr ⟨other, by rwa [Function.update_of_ne own]⟩)

/-- A station stops waiting; what becomes of its call stays open. -/
theorem Books.hangs (books : Books server thread owner history)
    (linked : Linked thread server.handlers owner) {next : Thread} (nothing : next.tx = none)
    {freed : HandlerId → Option StationId}
    (gone : ∀ handler, (thread station).waits = some handler → freed handler = none)
    (kept : ∀ handler, (thread station).waits ≠ some handler → freed handler = owner handler) :
    Books server (Function.update thread station next) freed
      { history with
        unansweredScans := history.unansweredScans ++ scansOf (thread station).call
        unansweredCompletions :=
          history.unansweredCompletions ++ completionsOf (thread station).call } := by
  have called : ∀ handler phase, server.handlers handler = some phase →
      (thread station).waits = some handler → phase.call = (thread station).call := by
    intro handler phase here waits
    obtain ⟨_, _, there, call⟩ := linked.owned station handler waits
    cases here.symm.trans there
    exact call
  refine ⟨fun other => ?_, ?_, ?_, ?_, books.least, fun tx => ?_, books.nodup, books.closed,
    fun tx isClosed => ?_⟩
  · by_cases own : other = station
    · rw [own, Function.update_self]
      cases next <;> trivial
    · rw [Function.update_of_ne own]
      exact (books.threads other).kept (fun _ _ => ⟨rfl, rfl, Iff.rfl, rfl⟩) (fun _ _ => rfl)
        (fun _ _ counted => counted)
  · intro handler phase tx here scanning counts
    refine books.scanned handler phase tx here scanning (counts.imp_right fun owned unowned => ?_)
    by_cases waits : (thread station).waits = some handler
    · exact owned (gone handler waits)
    · exact owned ((kept handler waits).trans unowned)
  · intro handler phase tx here unowned scanning
    by_cases waits : (thread station).waits = some handler
    · refine List.mem_append_right _ ?_
      rw [← called handler phase here waits, scanning]
      exact List.mem_cons_self
    · rw [kept handler waits] at unowned
      exact List.mem_append_left _ (books.orphanScans handler phase tx here unowned scanning)
  · intro handler phase tx here unowned completing
    by_cases waits : (thread station).waits = some handler
    · refine List.mem_append_right _ (mem_completionsOf.mpr ?_)
      rw [← called handler phase here waits, completing]
    · rw [kept handler waits] at unowned
      exact List.mem_append_left _ (books.orphanCompletions handler phase tx here unowned completing)
  · show length server tx ≤ _ + (history.unansweredScans ++ scansOf (thread station).call).count tx ∨
      _ ∧ length server tx ≤ _ + (history.unansweredScans ++ scansOf (thread station).call).count tx + 1
    rw [List.count_append, count_scansOf]
    by_cases calling : (thread station).call = some (.scan tx)
    · rw [if_pos calling]
      refine .inl ?_
      rcases books.most tx with bound | ⟨_, bound⟩
      · exact bound.trans (Nat.add_le_add_left (Nat.le_succ _) _)
      · exact bound
    · rw [if_neg calling]
      refine (books.most tx).imp_right ?_
      rintro ⟨⟨other, scanning⟩, bound⟩
      refine ⟨⟨other, ?_⟩, bound⟩
      rwa [Function.update_of_ne]
      rintro rfl
      exact calling scanning
  · rcases books.completed tx isClosed with counted | lost | ⟨other, calling⟩
    · exact .inl counted
    · exact .inr (.inl (List.mem_append_left _ lost))
    · by_cases own : other = station
      · exact .inr (.inl (List.mem_append_right _ (mem_completionsOf.mpr (own ▸ calling))))
      · exact .inr (.inr ⟨other, by rwa [Function.update_of_ne own]⟩)

/-- What nobody waits for is gone. -/
theorem Books.drops (books : Books server thread owner history) :
    Books { server with handlers := Function.update server.handlers handler none } thread owner
      history := by
  have before : ∀ other phase, Function.update server.handlers handler none other = some phase →
      server.handlers other = some phase := by
    intro other phase there
    by_cases own : other = handler
    · rw [own, Function.update_self] at there
      contradiction
    · exact (Function.update_of_ne own _ _).symm.trans there
  refine ⟨fun station => ?_, ?_, ?_, ?_, books.least, books.most, books.nodup, books.closed,
    books.completed⟩
  · exact (books.threads station).kept (fun _ _ => ⟨rfl, rfl, Iff.rfl, rfl⟩) (fun _ _ => rfl)
      (fun _ _ counted => counted)
  · exact fun other phase tx there => books.scanned other phase tx (before other phase there)
  · exact fun other phase tx there => books.orphanScans other phase tx (before other phase there)
  · exact fun other phase tx there => books.orphanCompletions other phase tx (before other phase there)

theorem items_le (phase : Phase) : phase.items ≤ 1 := by
  cases phase with
  | answered response => cases response <;> simp [Phase.items]
  | _ => simp [Phase.items]

/-- A handler takes a step. -/
theorem Books.serves (books : Books server thread owner history)
    (linked : Linked thread server.handlers owner) (here : server.handlers handler = some phase)
    {next : Phase} (serves : Serves server handler phase next after)
    (about : ∀ tx, phase.call = some (.scan tx) → phase.tx = some tx) :
    Books after thread owner history := by
  have mine : phaseTx server.handlers handler = phase.tx := by simp [phaseTx, here]
  have waiting : ∀ {station tx}, (thread station).tx = some tx → phase.tx = some tx →
      phase.call = (thread station).call ∧ owner handler = some station := by
    intro station tx itsTx phaseTx
    obtain ⟨owned, _, there, call⟩ := linked.owned station handler
      (linked.waits station handler tx itsTx (mine.trans phaseTx))
    cases here.symm.trans there
    exact ⟨call, owned⟩
  have lengths : ∀ tx, phase.call ≠ some (.scan tx) → length after tx = length server tx := by
    intro tx different
    have items := serves.items tx
    simp only [if_neg different, Nat.add_zero] at items
    exact items
  have grown : ∀ tx, phase.call = some (.scan tx) →
      length after tx = history.scans.count tx + next.items := by
    intro tx scanning
    have items := serves.items tx
    have counted := books.scanned handler phase tx here scanning (.inl (about tx scanning))
    simp only [if_pos scanning, length] at items counted ⊢
    omega
  have before : ∀ other otherPhase, after.handlers other = some otherPhase →
      other = handler ∧ otherPhase = next ∨
        other ≠ handler ∧ server.handlers other = some otherPhase := by
    intro other otherPhase there
    rw [serves.handlers] at there
    by_cases own : other = handler
    · rw [own, Function.update_self] at there
      exact .inl ⟨own, (Option.some.inj there).symm⟩
    · exact .inr ⟨own, (Function.update_of_ne own _ _).symm.trans there⟩
  refine ⟨fun station => ?_, ?_, ?_, ?_, fun tx => ?_, fun tx => ?_, books.nodup, ?_, fun tx isClosed => ?_⟩
  · by_cases apart : ∀ tx, (thread station).tx = some tx → phase.tx ≠ some tx
    · exact (books.threads station).kept (fun tx itsTx => serves.others tx (apart tx itsTx))
        (fun _ _ => rfl) (fun _ _ counted => counted)
    · push Not at apart
      obtain ⟨tx, itsTx, phaseTx⟩ := apart
      have call := (waiting itsTx phaseTx).1
      have waits := linked.waits station handler tx itsTx (mine.trans phaseTx)
      have facts := books.threads station
      generalize thread station = itsThread at facts itsTx call waits
      cases itsThread with
      | scanning own left itsHandler =>
          refine ⟨serves.grows.known own facts.1, fun isClosed => ?_⟩
          rcases serves.closes own isClosed with before | completing
          · exact facts.2 before
          · have same := call.symm.trans completing
            cases same
      | completing own itsHandler => exact ⟨serves.grows.known own facts.1, facts.2⟩
      | shopping own left => contradiction
      | _ => trivial
  · intro other otherPhase tx there scanning counts
    rcases before other otherPhase there with ⟨rfl, rfl⟩ | ⟨own, there⟩
    · exact grown tx (serves.call.symm.trans scanning)
    · rw [lengths tx]
      · exact books.scanned other otherPhase tx there scanning counts
      · intro same
        exact own (linked.oneScan (mine.trans (about tx same)) there scanning counts)
  · intro other otherPhase tx there unowned scanning
    rcases before other otherPhase there with ⟨rfl, rfl⟩ | ⟨own, there⟩
    · exact books.orphanScans other phase tx here unowned (serves.call.symm.trans scanning)
    · exact books.orphanScans other otherPhase tx there unowned scanning
  · intro other otherPhase tx there unowned completing
    rcases before other otherPhase there with ⟨rfl, rfl⟩ | ⟨own, there⟩
    · exact books.orphanCompletions other phase tx here unowned (serves.call.symm.trans completing)
    · exact books.orphanCompletions other otherPhase tx there unowned completing
  · exact (books.least tx).trans (serves.grows.basket tx).length_le
  · by_cases scanning : phase.call = some (.scan tx)
    · have items := items_le next
      rw [grown tx scanning]
      cases isOwner : owner handler with
      | some station =>
          obtain ⟨_, _, there, call⟩ := linked.owned station handler (linked.owner station handler isOwner)
          cases here.symm.trans there
          exact .inr ⟨⟨station, call.symm.trans scanning⟩, by omega⟩
      | none =>
          have lost := List.count_pos_iff.mpr
            (books.orphanScans handler phase tx here isOwner scanning)
          exact .inl (by omega)
    · rw [lengths tx scanning]
      exact books.most tx
  · exact fun tx counted => serves.grows.closed tx (books.closed tx counted)
  · rcases serves.closes tx isClosed with before | completing
    · exact books.completed tx before
    · cases isOwner : owner handler with
      | some station =>
          obtain ⟨_, _, there, call⟩ := linked.owned station handler (linked.owner station handler isOwner)
          cases here.symm.trans there
          exact .inr (.inr ⟨station, call.symm.trans completing⟩)
      | none => exact .inr (.inl (books.orphanCompletions handler phase tx here isOwner completing))

end Books

structure Sound (system : System) : Prop where
  serving : Serving system.server
  linked : Linked system.thread system.server.handlers system.owner
  books : Books system.server system.thread system.owner system.history

section Runs

variable {config : Config} {system after : System} {station : StationId} {handler : HandlerId}
  {tx : Mock.TxId}

theorem stationId_visible (station : StationId) : (stationId station).all isWhitespace = false := by
  rfl

theorem thread_update (system : System) (station : StationId) (worker : Worker) :
    (fun other => (Function.update system.workers station worker other).thread) =
      Function.update system.thread station worker.thread := by
  funext other
  by_cases own : other = station
  · rw [own, Function.update_self, Function.update_self]
  · rw [Function.update_of_ne own, Function.update_of_ne own]
    rfl

theorem Sound.sends (sound : Sound system) {request : Mock.Request} {next : Thread}
    (sent : system.send station handler request next = some after)
    (quiet : (system.thread station).waits = none) (waits : next.waits = some handler)
    (call : (Phase.received request).call = next.call)
    (threadTx : next.tx = (system.thread station).tx)
    (sameTx : (Phase.received request).tx = (system.thread station).tx)
    (request_ : (Phase.received request).Facts system.server)
    (facts : next.Facts system.server system.history)
    (scan : ∀ tx, next.call = some (.scan tx) →
      length system.server tx = system.history.scans.count tx) : Sound after := by
  simp only [System.send, Mock.step, Option.map_eq_some_iff] at sent
  obtain ⟨server, received, rfl⟩ := sent
  split at received
  · rename_i free
    cases received
    have threads := thread_update system station { system.workers station with thread := next }
    refine ⟨sound.serving.receives free request_, ?_, ?_⟩
    · have linked := sound.linked.sends quiet free waits call threadTx sameTx
      rw [← threads] at linked
      exact linked
    · have books := sound.books.sends quiet free call facts scan
      rw [← threads] at books
      exact books
  · contradiction

theorem Sound.calls {sku : Mock.Sku} (sound : Sound system)
    (called : system.call station handler sku (system.thread station) = some after) : Sound after := by
  have facts := sound.books.threads station
  cases here : system.thread station with
  | idle =>
      simp only [here, System.call] at called
      split at called
      · contradiction
      · exact sound.sends called (by rw [here]; rfl) rfl rfl (by rw [here]; rfl) (by rw [here]; rfl)
          (stationId_visible station) trivial (fun _ same => by cases same)
  | shopping tx left =>
      rw [here] at facts called
      obtain ⟨isKnown, isOpen, filled, counted⟩ := facts
      cases left with
      | zero =>
          exact sound.sends called (by rw [here]; rfl) rfl rfl (by rw [here]; rfl) (by rw [here]; rfl)
            ⟨filled rfl, isOpen⟩ ⟨isKnown, fun paid => isOpen (sound.books.closed tx paid)⟩
            (fun _ same => by cases same)
      | succ left =>
          simp only [System.call] at called
          split at called
          · rename_i listed
            refine sound.sends called (by rw [here]; rfl) rfl rfl (by rw [here]; rfl)
              (by rw [here]; rfl) ⟨of_decide_eq_true listed, isKnown, isOpen⟩
              ⟨isKnown, isOpen⟩ ?_
            rintro _ ⟨⟩
            exact counted
          · contradiction
  | starting | scanning | completing | returned =>
      rw [here] at called
      contradiction

/-- The answer to a call is received and counted. -/
theorem Sound.answers {response : Response} (sound : Sound system) (worker : Worker) {next : Thread}
    (waits : (system.thread station).waits = some handler)
    (here : system.server.handlers handler = some (.answered response)) (quiet : next.waits = none)
    (nextTx : ∀ tx, next.tx = some tx →
      (system.thread station).tx = some tx ∨ (Phase.answered response).tx = some tx)
    (facts : next.Facts system.server { system.history with
      scans := system.history.scans ++ scansOf (system.thread station).call
      receipts := system.history.receipts ++ completionsOf (system.thread station).call })
    (isNext : worker.thread = next) :
    Sound { system.hangUp handler with
      workers := Function.update system.workers station worker
      history := { system.history with
        scans := system.history.scans ++ scansOf (system.thread station).call
        receipts := system.history.receipts ++ completionsOf (system.thread station).call } } := by
  have threads := thread_update system station worker
  rw [isNext] at threads
  have silent : (Phase.answered response).sells = none := rfl
  refine ⟨sound.serving.finishes here silent, ?_, ?_⟩
  · have linked := sound.linked.receives waits here quiet nextTx
    rw [← threads] at linked
    exact linked
  · have books := sound.books.receives sound.linked sound.serving waits here facts
    rw [← threads] at books
    exact books

/-- The metrics and the stop flag are nothing to it. -/
theorem Sound.congr (sound : Sound system) (server : after.server = system.server)
    (workers : after.workers = system.workers) (owner : after.owner = system.owner)
    (history : after.history = system.history) : Sound after := by
  have threads : after.thread = system.thread := by
    funext other
    unfold System.thread
    rw [workers]
  refine ⟨?_, ?_, ?_⟩
  · rw [server]
    exact sound.serving
  · rw [threads, server, owner]
    exact sound.linked
  · rw [threads, server, owner, history]
    exact sound.books

theorem Sound.receives {basketSize : Nat} {response : Response} (sound : Sound system)
    (waits : (system.thread station).waits = some handler)
    (here : system.server.handlers handler = some (.answered response))
    (received : system.receive config station basketSize (system.thread station) response = some after) :
    Sound after := by
  obtain ⟨owned, phase, isPhase, call⟩ := sound.linked.owned station handler waits
  cases here.symm.trans isPhase
  have knows := sound.serving.facts handler _ here
  have facts := sound.books.threads station
  cases at_ : system.thread station with
  | starting own =>
      rw [at_] at waits received call facts
      cases waits
      cases response with
      | started tx name =>
          obtain ⟨isKnown, empty, isOpen⟩ := knows
          simp only [System.receive] at received
          split at received
          · rename_i sizes
            cases received
            have least := sound.books.least tx
            have none_ : length system.server tx = 0 := by rw [length, empty]; rfl
            refine (sound.answers { system.workers station with thread := .shopping tx basketSize }
              (by rw [at_]; rfl) here rfl ?_ ?_ rfl).congr rfl rfl rfl ?_
            · rintro _ ⟨⟩
              exact .inr rfl
            · refine ⟨isKnown, isOpen, fun last => ?_, ?_⟩
              · have positive := config.sizes.1.trans sizes.1
                omega
              · rw [at_, none_]
                simp only [Thread.call, scansOf, List.append_nil]
                omega
            · simp [at_, Thread.call, scansOf, completionsOf]
              rfl
          · contradiction
      | _ => cases call
  | scanning tx left own =>
      rw [at_] at waits received call facts
      cases waits
      cases response with
      | scanned other sku itemCount =>
          cases call
          cases received
          have counted := sound.books.scanned handler _ tx here rfl (.inr (by simp [owned]))
          refine (sound.answers
            { system.workers station with
              thread := .shopping tx left
              itemsScanned := (system.workers station).itemsScanned + 1 }
            (by rw [at_]; rfl) here rfl ?_ ?_ rfl).congr rfl rfl rfl ?_
          · rintro _ ⟨⟩
            exact .inl (by rw [at_]; rfl)
          · refine ⟨facts.1, facts.2, fun _ => knows, ?_⟩
            rw [at_, counted]
            simp [Thread.call, scansOf, Phase.items]
          · simp [at_, Thread.call, scansOf, completionsOf]
            rfl
      | _ => cases call
  | completing tx own =>
      rw [at_] at waits received call
      cases waits
      cases response with
      | receipt other itemCount =>
          cases call
          cases received
          refine (sound.answers
            { system.workers station with
              thread := .idle
              transactionsCompleted := (system.workers station).transactionsCompleted + 1 }
            (by rw [at_]; rfl) here rfl ?_ ?_ rfl).congr rfl rfl rfl ?_
          · exact fun _ _ => by contradiction
          · trivial
          · simp [at_, Thread.call, scansOf, completionsOf]
            rfl
      | _ => cases call
  | idle | shopping | returned =>
      rw [at_] at waits
      contradiction

/-- A station stops waiting, or never called. -/
theorem Sound.hangs (sound : Sound system) (worker : Worker) {next : Thread}
    {freed : HandlerId → Option StationId} (quiet : next.waits = none) (nothing : next.tx = none)
    (gone : ∀ handler, (system.thread station).waits = some handler → freed handler = none)
    (kept : ∀ handler, (system.thread station).waits ≠ some handler →
      freed handler = system.owner handler)
    (isNext : worker.thread = next) :
    Sound { system with
      workers := Function.update system.workers station worker
      owner := freed
      history := { system.history with
        unansweredScans := system.history.unansweredScans ++ scansOf (system.thread station).call
        unansweredCompletions :=
          system.history.unansweredCompletions ++ completionsOf (system.thread station).call } } := by
  have threads := thread_update system station worker
  rw [isNext] at threads
  refine ⟨sound.serving, ?_, ?_⟩
  · have linked := sound.linked.hangs quiet nothing gone kept
    rw [← threads] at linked
    exact linked
  · have books := sound.books.hangs sound.linked nothing gone kept
    rw [← threads] at books
    exact books

theorem Sound.fails (sound : Sound system)
    (failed : system.fail station (system.thread station) = some after) : Sound after := by
  have freed : ∀ own, (system.thread station).waits = some own → ∀ handler,
      ((system.thread station).waits = some handler →
        Function.update system.owner own none handler = none) ∧
      ((system.thread station).waits ≠ some handler →
        Function.update system.owner own none handler = system.owner handler) := by
    intro own waits handler
    refine ⟨fun same => ?_, fun different => ?_⟩
    · rw [Option.some.inj (same.symm.trans waits), Function.update_self]
    · exact Function.update_of_ne (fun same : handler = own => different (same ▸ waits)) _ _
  have kept : (system.thread station).waits = none → ∀ handler,
      ((system.thread station).waits = some handler → system.owner handler = none) := by
    intro quiet handler waits
    rw [quiet] at waits
    contradiction
  cases at_ : system.thread station with
  | idle =>
      simp only [at_, System.fail] at failed
      split at failed
      · contradiction
      · cases failed
        exact sound.congr rfl rfl rfl rfl
  | starting own =>
      rw [at_] at failed
      cases failed
      have owner := freed own (by rw [at_]; rfl)
      refine (sound.hangs { system.workers station with thread := .idle } rfl rfl
        (fun handler => (owner handler).1) (fun handler => (owner handler).2) rfl).congr rfl rfl rfl ?_
      simp [at_, Thread.call, scansOf, completionsOf]
      rfl
  | shopping tx left =>
      rw [at_] at failed
      cases failed
      refine (sound.hangs { system.workers station with thread := .idle } rfl rfl
        (kept (by rw [at_]; rfl)) (fun _ _ => rfl) rfl).congr rfl rfl rfl ?_
      simp [at_, Thread.call, scansOf, completionsOf]
      rfl
  | scanning tx left own =>
      rw [at_] at failed
      cases failed
      have owner := freed own (by rw [at_]; rfl)
      refine (sound.hangs { system.workers station with thread := .idle } rfl rfl
        (fun handler => (owner handler).1) (fun handler => (owner handler).2) rfl).congr rfl rfl rfl ?_
      simp [at_, Thread.call, scansOf, completionsOf]
  | completing tx own =>
      rw [at_] at failed
      cases failed
      have owner := freed own (by rw [at_]; rfl)
      refine (sound.hangs { system.workers station with thread := .idle } rfl rfl
        (fun handler => (owner handler).1) (fun handler => (owner handler).2) rfl).congr rfl rfl rfl ?_
      simp [at_, Thread.call, scansOf, completionsOf]
  | returned =>
      rw [at_] at failed
      contradiction

/-- A station's transaction has its number. -/
theorem Sound.tx_le (sound : Sound system) (itsTx : (system.thread station).tx = some tx) :
    tx ≤ system.server.txSequence := by
  have facts := sound.books.threads station
  refine sound.serving.numbered.numbered tx ?_
  generalize system.thread station = thread at itsTx facts
  cases thread <;> first | contradiction | (cases itsTx; exact facts.1)

theorem Sound.serves {server : MockServer} (sound : Sound system)
    (taken : Mock.step system.server (.proceed handler) = some server) :
    Sound { system with server } := by
  simp only [Mock.step] at taken
  split at taken
  · contradiction
  · rename_i phase here
    have mine : phaseTx system.server.handlers handler = phase.tx := by simp [phaseTx, here]
    obtain ⟨⟨next, serves⟩, serving⟩ := sound.serving.proceeds here
      (fun other tx about also => sound.linked.oneHandler other handler tx also (mine.trans about)) taken
    refine ⟨serving, ?_, ?_⟩
    · show Linked system.thread server.handlers system.owner
      rw [serves.handlers]
      refine sound.linked.serves here serves.call fun tx about => ?_
      rcases serves.tx with same | none | ⟨_, fresh⟩
      · exact .inl (same.symm.trans about)
      · have same := none.symm.trans about
        cases same
      · cases fresh.symm.trans about
        refine .inr ⟨fun station itsTx => ?_, fun other isTx => ?_⟩
        · exact Nat.not_succ_le_self _ (sound.tx_le itsTx)
        · obtain ⟨otherPhase, there, about⟩ := Option.bind_eq_some_iff.mp isTx
          exact Nat.not_succ_le_self _ (sound.serving.tx_le there about)
    · exact sound.books.serves sound.linked here serves
        (fun tx scanning => tx_of_proceed scanning taken)

theorem Sound.restarts {server : MockServer} (sound : Sound system)
    (taken : Mock.step system.server (.restart handler) = some server) :
    Sound { system with server } := by
  simp only [Mock.step, Option.map_eq_some_iff] at taken
  obtain ⟨recentScans, _, rfl⟩ := taken
  obtain ⟨threads, scanned, orphanScans, orphanCompletions, least, most, nodup, closed, completed⟩ :=
    sound.books
  refine ⟨sound.serving.restarts, sound.linked, ⟨fun station => ?_, scanned, orphanScans,
    orphanCompletions, least, most, nodup, closed, completed⟩⟩
  exact (threads station).kept (fun _ _ => ⟨rfl, rfl, Iff.rfl, rfl⟩) (fun _ _ => rfl)
    (fun _ _ counted => counted)

theorem Sound.drops {phase : Phase} (sound : Sound system) (unowned : system.owner handler = none)
    (here : system.server.handlers handler = some phase) (quiet : phase.sells = none) :
    Sound (system.hangUp handler) := by
  have same : Function.update system.owner handler none = system.owner := by
    rw [← unowned, Function.update_eq_self]
  refine ⟨sound.serving.finishes here quiet, ?_, ?_⟩
  · show Linked system.thread (Function.update system.server.handlers handler none) _
    rw [System.hangUp, same]
    exact sound.linked.drops unowned
  · show Books _ system.thread _ system.history
    rw [System.hangUp, same]
    exact sound.books.drops

/-- Step lemma. -/
theorem Sound.step {action : Action} (sound : Sound system)
    (taken : Stations.step config system action = some after) : Sound after := by
  cases action with
  | call station handler sku =>
      simp only [Stations.step] at taken
      split at taken
      · exact sound.calls taken
      · contradiction
  | receive station basketSize =>
      simp only [Stations.step] at taken
      split at taken
      · split at taken
        · rename_i response found
          obtain ⟨handler, waits, here⟩ := Option.bind_eq_some_iff.mp found
          exact sound.receives waits here taken
        · contradiction
      · contradiction
  | fail station =>
      simp only [Stations.step] at taken
      split at taken
      · exact sound.fails taken
      · contradiction
  | leave station =>
      simp only [Stations.step] at taken
      split at taken
      · rename_i left
        cases taken
        have quiet : (system.thread station).waits = none := by rw [left.1]; rfl
        refine (sound.hangs { system.workers station with thread := .returned } rfl rfl
          (fun handler waits => ?_) (fun _ _ => rfl) rfl).congr rfl rfl rfl ?_
        · rw [quiet] at waits
          contradiction
        · simp [left.1, Thread.call, scansOf, completionsOf]
          rfl
      · contradiction
  | serve handler =>
      simp only [Stations.step, Option.map_eq_some_iff] at taken
      obtain ⟨server, served, rfl⟩ := taken
      exact sound.serves served
  | restart handler =>
      simp only [Stations.step, Option.map_eq_some_iff] at taken
      obtain ⟨server, restarted, rfl⟩ := taken
      exact sound.restarts restarted
  | drop handler =>
      simp only [Stations.step] at taken
      split at taken
      · rename_i unowned here
        cases taken
        exact sound.drops unowned here rfl
      · rename_i unowned here
        cases taken
        exact sound.drops unowned here rfl
      · contradiction
  | requestStop =>
      cases taken
      exact sound.congr rfl rfl rfl rfl

end Runs

end SelfCheckout.LoadClient.Stations
