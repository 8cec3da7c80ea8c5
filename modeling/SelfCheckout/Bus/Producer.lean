import SelfCheckout.Data.Run
import SelfCheckout.Data.Table

namespace SelfCheckout.Bus

open SelfCheckout.Data

/-! # KafkaBus's producer

The bus has one producer at a time, connected by a background task.  A call of `publish` or
`publish_batch` keeps the producer it read when it started, and reports how it failed to a bus
that may have another one by then.
-/

abbrev ProducerId := Nat
abbrev CallId := Nat

/-- `_FATAL`, by the names of the exceptions' types. -/
def fatalErrors : List String :=
  ["OutOfOrderSequenceNumber", "DuplicateSequenceNumber", "UnknownProducerId",
    "InvalidProducerEpoch", "InvalidProducerIdMapping", "ProducerFenced", "ProducerClosed"]

def isFatal (error : String) : Bool := decide (error ∈ fatalErrors)

/-- A call in flight: the producer it holds, and the exception it raises once a send failed. -/
structure Call where
  producer : ProducerId
  raised : Option String
deriving DecidableEq, Repr

/-- The bus with its running connectors, the producers it connected so far, those on which a
send failed fatally, and those it discarded. -/
structure KafkaBus where
  started : Bool
  producer : Option ProducerId
  connectors : Nat
  made : Nat
  calls : Table CallId Call
  failed : List ProducerId
  discarded : List ProducerId

def KafkaBus.init : KafkaBus :=
  { started := false, producer := none, connectors := 0, made := 0, calls := Table.empty,
    failed := [], discarded := [] }

inductive BusLabel where
  | start
  | connectFails
  | connectSucceeds
  | publish (call : CallId)
  | acknowledged (call : CallId)
  | sendFails (call : CallId) (error : String)
  | report (call : CallId)
deriving DecidableEq, Repr

/-- `_reset_producer`: it takes whatever producer the bus has. -/
def KafkaBus.resetProducer (bus : KafkaBus) : KafkaBus :=
  match bus.producer with
  | none => bus
  | some old =>
      if bus.started then
        { bus with
          producer := none, connectors := bus.connectors + 1, discarded := bus.discarded ++ [old] }
      else { bus with producer := none }

/-- `_reset_if_fatal` -/
def KafkaBus.resetIfFatal (bus : KafkaBus) (error : String) : KafkaBus :=
  if isFatal error then bus.resetProducer else bus

/-- One step.  A publish without a producer raises and changes nothing.  Any send of a call may
fail at any time, also because its producer is being stopped; the first failure is what the
call raises, and the call reports it when its task goes on. -/
def KafkaBus.step (bus : KafkaBus) : BusLabel → Option KafkaBus
  | .start =>
      some (if bus.started then bus else { bus with started := true, connectors := bus.connectors + 1 })
  | .connectFails => if 0 < bus.connectors then some bus else none
  | .connectSucceeds =>
      if 0 < bus.connectors then
        some { bus with
          producer := some bus.made, connectors := bus.connectors - 1, made := bus.made + 1 }
      else none
  | .publish call =>
      match bus.calls.lookup call with
      | some _ => none
      | none =>
          some
            (match bus.producer with
            | none => bus
            | some producer => { bus with calls := bus.calls.put call ⟨producer, none⟩ })
  | .acknowledged call =>
      match bus.calls.lookup call with
      | some ⟨_, none⟩ => some { bus with calls := bus.calls.erase call }
      | _ => none
  | .sendFails call error =>
      (bus.calls.lookup call).map (fun held =>
        { bus with
          calls := bus.calls.put call { held with raised := held.raised.or (some error) }
          failed := if isFatal error then held.producer :: bus.failed else bus.failed })
  | .report call =>
      match bus.calls.lookup call with
      | some ⟨_, some error⟩ =>
          some (KafkaBus.resetIfFatal { bus with calls := bus.calls.erase call } error)
      | _ => none

/-- Every producer discarded so far had a send fail fatally. -/
def KafkaBus.DiscardsFailed (bus : KafkaBus) : Prop :=
  ∀ producer ∈ bus.discarded, producer ∈ bus.failed

/-- A call that reports a fatal failure finds the producer it held, or none. -/
def ReportsOwn (bus : KafkaBus) : BusLabel → Prop
  | .report call => ∀ producer error, bus.calls.lookup call = some ⟨producer, some error⟩ →
      isFatal error → bus.producer = none ∨ bus.producer = some producer
  | _ => True

instance (bus : KafkaBus) : ∀ label, Decidable (ReportsOwn bus label)
  | .report call => decidable_of_iff
      (∀ held ∈ bus.calls.lookup call, ∀ error ∈ held.raised,
        isFatal error → bus.producer = none ∨ bus.producer = some held.producer)
      ⟨fun own producer error found => own ⟨producer, some error⟩ found error rfl,
        fun own held found error raised => own held.producer error (by
          rw [Option.mem_def] at found raised
          rw [found, ← raised])⟩
  | .start => .isTrue trivial
  | .connectFails => .isTrue trivial
  | .connectSucceeds => .isTrue trivial
  | .publish _ => .isTrue trivial
  | .acknowledged _ => .isTrue trivial
  | .sendFails _ _ => .isTrue trivial

/-- A connector runs only while there is no producer, and alone. -/
structure KafkaBus.OneConnector (bus : KafkaBus) : Prop where
  atMostOne : bus.connectors ≤ 1
  connected : bus.producer ≠ none → bus.connectors = 0
  idle : bus.started = false → bus.connectors = 0 ∧ bus.producer = none

variable {bus after : KafkaBus}

theorem KafkaBus.OneConnector.reset (one : bus.OneConnector) : bus.resetProducer.OneConnector := by
  unfold KafkaBus.resetProducer
  split
  · exact one
  · rename_i old isOld
    have none := one.connected (by simp [isOld])
    split
    · rename_i started
      exact
        { atMostOne := by simp [none], connected := by simp
          idle := by simp [started] }
    · rename_i idle
      exact absurd (one.idle (by simpa using idle)).2 (by simp [isOld])

theorem KafkaBus.OneConnector.step {label : BusLabel} (one : bus.OneConnector)
    (taken : bus.step label = some after) : after.OneConnector := by
  cases label with
  | start =>
      simp only [KafkaBus.step, Option.some.injEq] at taken
      subst taken
      split
      · exact one
      · rename_i idle
        obtain ⟨none, noProducer⟩ := one.idle (by simpa using idle)
        exact
          { atMostOne := by simp [none], connected := fun some => absurd noProducer some
            idle := by simp }
  | connectFails =>
      simp only [KafkaBus.step] at taken
      split at taken
      · cases taken
        exact one
      · contradiction
  | connectSucceeds =>
      simp only [KafkaBus.step] at taken
      split at taken
      · rename_i running
        cases taken
        have atMostOne := one.atMostOne
        refine ⟨by simp only; omega, fun _ => by simp only; omega, fun idle => ?_⟩
        have none := (one.idle idle).1
        omega
      · contradiction
  | publish call =>
      simp only [KafkaBus.step] at taken
      split at taken
      · contradiction
      · cases taken
        split
        · exact one
        · exact ⟨one.atMostOne, one.connected, one.idle⟩
  | acknowledged call =>
      simp only [KafkaBus.step] at taken
      split at taken
      · cases taken
        exact ⟨one.atMostOne, one.connected, one.idle⟩
      · contradiction
  | sendFails call error =>
      simp only [KafkaBus.step] at taken
      obtain ⟨held, -, rfl⟩ := Option.map_eq_some_iff.mp taken
      exact ⟨one.atMostOne, one.connected, one.idle⟩
  | report call =>
      simp only [KafkaBus.step] at taken
      split at taken
      · cases taken
        have same : KafkaBus.OneConnector { bus with calls := bus.calls.erase call } :=
          ⟨one.atMostOne, one.connected, one.idle⟩
        rw [KafkaBus.resetIfFatal]
        split
        · exact same.reset
        · exact same
      · contradiction

/-- What a call raises fatally happened on the producer it holds. -/
structure KafkaBus.Sound (bus : KafkaBus) : Prop where
  calls : ∀ call held error, bus.calls.lookup call = some held → held.raised = some error →
    isFatal error → held.producer ∈ bus.failed
  discards : bus.DiscardsFailed

/-- A reset discards the producer there is, and nothing else. -/
theorem KafkaBus.reset_discards (bus : KafkaBus) :
    bus.resetProducer.calls = bus.calls ∧ bus.resetProducer.failed = bus.failed ∧
      ∀ producer ∈ bus.resetProducer.discarded,
        producer ∈ bus.discarded ∨ bus.producer = some producer := by
  unfold KafkaBus.resetProducer
  split
  · exact ⟨rfl, rfl, fun producer isIn => .inl isIn⟩
  · rename_i old isOld
    split
    · refine ⟨rfl, rfl, fun producer isIn => ?_⟩
      rcases List.mem_append.mp isIn with earlier | isNew
      · exact .inl earlier
      · rw [List.mem_singleton.mp isNew]
        exact .inr isOld
    · exact ⟨rfl, rfl, fun producer isIn => .inl isIn⟩

theorem KafkaBus.Sound.erase (sound : bus.Sound) (call : CallId) :
    KafkaBus.Sound { bus with calls := bus.calls.erase call } where
  calls other held error found raised fatal := by
    rw [Table.lookup_erase] at found
    split at found
    · contradiction
    · exact sound.calls other held error found raised fatal
  discards := sound.discards

theorem KafkaBus.Sound.publish (sound : bus.Sound) (call : CallId) (producer : ProducerId) :
    KafkaBus.Sound { bus with calls := bus.calls.put call ⟨producer, none⟩ } where
  calls other held error found raised fatal := by
    rw [Table.lookup_put] at found
    split at found
    · cases found
      contradiction
    · exact sound.calls other held error found raised fatal
  discards := sound.discards

theorem KafkaBus.Sound.sendFails (sound : bus.Sound) {call : CallId} {held : Call} (error : String)
    (isHeld : bus.calls.lookup call = some held) :
    KafkaBus.Sound { bus with
      calls := bus.calls.put call { held with raised := held.raised.or (some error) }
      failed := if isFatal error then held.producer :: bus.failed else bus.failed } := by
  have grows : ∀ producer ∈ bus.failed,
      producer ∈ if isFatal error then held.producer :: bus.failed else bus.failed := by
    intro producer isIn
    split
    · exact List.mem_cons_of_mem _ isIn
    · exact isIn
  refine ⟨fun other current raised found isRaised fatal => ?_,
    fun producer isIn => grows producer (sound.discards producer isIn)⟩
  rw [Table.lookup_put] at found
  split at found
  · cases found
    cases first : held.raised with
    | some earlier =>
        rw [first, Option.some_or, Option.some.injEq] at isRaised
        exact grows _ (sound.calls call held raised isHeld (isRaised ▸ first) fatal)
    | none =>
        rw [first, Option.none_or, Option.some.injEq] at isRaised
        simp only [isRaised, fatal, if_true]
        exact List.mem_cons_self
  · exact grows _ (sound.calls other current raised found isRaised fatal)

/-- A report of its own producer's failure discards no other. -/
theorem KafkaBus.Sound.report (sound : bus.Sound) {call : CallId} {producer : ProducerId}
    {error : String} (isHeld : bus.calls.lookup call = some ⟨producer, some error⟩)
    (own : isFatal error → bus.producer = none ∨ bus.producer = some producer) :
    (KafkaBus.resetIfFatal { bus with calls := bus.calls.erase call } error).Sound := by
  have erased := sound.erase call
  rw [KafkaBus.resetIfFatal]
  split
  · rename_i fatal
    obtain ⟨sameCalls, sameFailed, discards⟩ :=
      KafkaBus.reset_discards { bus with calls := bus.calls.erase call }
    refine ⟨by rw [sameCalls, sameFailed]; exact erased.calls, fun discarded isIn => ?_⟩
    rw [sameFailed]
    rcases discards discarded isIn with earlier | isCurrent
    · exact sound.discards discarded earlier
    · -- the producer the bus has is the one the failure is about
      rcases own fatal with none | isOwn
      · rw [none] at isCurrent
        contradiction
      · cases isOwn.symm.trans isCurrent
        exact sound.calls call _ error isHeld rfl fatal
  · exact erased

theorem KafkaBus.Sound.step {label : BusLabel} (sound : bus.Sound) (own : ReportsOwn bus label)
    (taken : bus.step label = some after) : after.Sound := by
  cases label with
  | start =>
      simp only [KafkaBus.step, Option.some.injEq] at taken
      subst taken
      split
      · exact sound
      · exact ⟨sound.calls, sound.discards⟩
  | connectFails =>
      simp only [KafkaBus.step] at taken
      split at taken
      · cases taken
        exact sound
      · contradiction
  | connectSucceeds =>
      simp only [KafkaBus.step] at taken
      split at taken
      · cases taken
        exact ⟨sound.calls, sound.discards⟩
      · contradiction
  | publish call =>
      simp only [KafkaBus.step] at taken
      split at taken
      · contradiction
      · cases taken
        split
        · exact sound
        · exact sound.publish call _
  | acknowledged call =>
      simp only [KafkaBus.step] at taken
      split at taken
      · cases taken
        exact sound.erase call
      · contradiction
  | sendFails call error =>
      simp only [KafkaBus.step] at taken
      obtain ⟨held, isHeld, rfl⟩ := Option.map_eq_some_iff.mp taken
      exact sound.sendFails error isHeld
  | report call =>
      simp only [KafkaBus.step] at taken
      split at taken
      · rename_i producer error isHeld
        cases taken
        exact sound.report isHeld (own producer error isHeld)
      · contradiction

/-- At most one connector runs, whatever happens.  In a run in which every fatal failure is
reported while its producer is the bus's, or while there is none, a producer is discarded only
after a send on it failed fatally; any other report discards a producer that is not its own. -/
theorem discards_failed_of_ownReports {labels : List BusLabel} :
    (∀ bus, Run KafkaBus.step Any KafkaBus.init labels bus → bus.connectors ≤ 1) ∧
    (∀ bus, Run KafkaBus.step ReportsOwn KafkaBus.init labels bus → bus.DiscardsFailed) ∧
    ∀ bus label after, Run KafkaBus.step Any KafkaBus.init labels bus →
      ¬ ReportsOwn bus label → bus.step label = some after →
      ∃ call held other, label = .report call ∧ bus.calls.lookup call = some held ∧
        other ≠ held.producer ∧ after.discarded = bus.discarded ++ [other] := by
  have start : KafkaBus.init.OneConnector :=
    ⟨by decide, fun some => absurd rfl some, fun _ => ⟨rfl, rfl⟩⟩
  have connectors : ∀ bus, Run KafkaBus.step Any KafkaBus.init labels bus → bus.OneConnector :=
    fun bus run => run.invariant start (fun _ _ _ one _ taken => one.step taken)
  refine ⟨fun bus run => (connectors bus run).atMostOne, fun bus run => ?_, ?_⟩
  · have sound : bus.Sound :=
      run.invariant ⟨by simp [KafkaBus.init], by simp [KafkaBus.DiscardsFailed, KafkaBus.init]⟩
        (fun _ _ _ sound own taken => sound.step own taken)
    exact sound.discards
  · intro bus label after run notOwn taken
    cases label with
    | report call =>
        simp only [ReportsOwn, not_forall] at notOwn
        obtain ⟨producer, error, isHeld, fatal, others⟩ := notOwn
        rw [not_or] at others
        obtain ⟨some, different⟩ := others
        obtain ⟨other, isOther⟩ := Option.ne_none_iff_exists'.mp some
        have started : bus.started = true := by
          by_contra idle
          exact some ((connectors bus run).idle (by simpa using idle)).2
        simp only [KafkaBus.step, isHeld, KafkaBus.resetIfFatal, fatal, if_true,
          KafkaBus.resetProducer, isOther, started, Option.some.injEq] at taken
        refine ⟨call, _, other, rfl, isHeld, ?_, by rw [← taken]⟩
        rintro rfl
        exact different isOther
    | start => exact absurd trivial notOwn
    | connectFails => exact absurd trivial notOwn
    | connectSucceeds => exact absurd trivial notOwn
    | publish call => exact absurd trivial notOwn
    | acknowledged call => exact absurd trivial notOwn
    | sendFails call error => exact absurd trivial notOwn

/-- Two calls hold the first producer, a send of each fails, and both report it before the next
producer is connected. -/
def promptReports : List BusLabel :=
  [.start, .connectSucceeds, .publish 1, .publish 2, .sendFails 1 "OutOfOrderSequenceNumber",
    .sendFails 2 "ProducerClosed", .report 1, .report 2, .connectSucceeds, .publish 3]

theorem promptReports_runs :
    (promptReports.foldlM (guarded KafkaBus.step ReportsOwn) KafkaBus.init).isSome = true := by
  decide +kernel

theorem discards_failed_of_ownReports_prompt :
    (Option.get _ promptReports_runs).DiscardsFailed ∧
      (Option.get _ promptReports_runs).discarded = [0] :=
  ⟨discards_failed_of_ownReports.2.1 _ (.of_guarded (Option.some_get promptReports_runs).symm),
    by decide +kernel⟩

/-- Two calls hold the first producer.  One fails and has it replaced; the other's send fails
as the first producer is stopped, and its report discards the second. -/
def lateReport : List BusLabel :=
  [.start, .connectSucceeds, .publish 1, .publish 2, .sendFails 1 "OutOfOrderSequenceNumber",
    .report 1, .connectSucceeds, .sendFails 2 "ProducerClosed", .report 2]

theorem lateReport_runs : (lateReport.foldlM KafkaBus.step KafkaBus.init).isSome = true := by
  decide +kernel

theorem late_report_discards_successor :
    ∃ bus, Run KafkaBus.step Any KafkaBus.init lateReport bus ∧ bus.discarded = [0, 1] ∧
      bus.failed = [0, 0] ∧ ¬ bus.DiscardsFailed :=
  ⟨Option.get _ lateReport_runs, .of_foldlM (Option.some_get lateReport_runs).symm,
    by decide +kernel, by decide +kernel, by unfold KafkaBus.DiscardsFailed; decide +kernel⟩

end SelfCheckout.Bus
