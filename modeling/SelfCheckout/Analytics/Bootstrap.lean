import SelfCheckout.Analytics.Source
import SelfCheckout.Data.Run
import Mathlib.Data.List.Infix

namespace SelfCheckout.Analytics

open SelfCheckout.Data

/-! # Reading the retained topic

`KafkaScanSource.run` over its consumer.  The consumer starts when the broker can be
reached and is then positioned `replay` records before the end of the one partition; a
poll returns the next records, or nothing.  `run` takes any empty poll for the end of
the replay.
-/

/-- The reader of the scan topic once it is positioned: where the topic ended then,
and the next offset. -/
structure KafkaConsumer where
  ended : Nat
  position : Nat
deriving DecidableEq, Repr

/-- The retained records, the consumer if it has started, the source, and what
`_apply` was called with. -/
structure ScanReader where
  topic : List ScanEvent
  consumer : Option KafkaConsumer
  source : KafkaScanSource
  applied : List ScanEvent

/-- How a poll ends. -/
inductive Poll where
  /-- `_ensure_started` returned False. -/
  | notStarted
  /-- `getmany` raised. -/
  | failed
  /-- `getmany` returned the next records; none if it timed out. -/
  | fetched (count : Nat)
deriving DecidableEq, Repr

inductive ScanLabel where
  | publish (event : ScanEvent)
  /-- `_ensure_started` succeeds. -/
  | start
  | poll (poll : Poll)
deriving DecidableEq, Repr

/-- `max_records` of a poll. -/
def pollRecords : Nat := 500

namespace ScanReader

/-- `__init__`, over the records retained so far. -/
def create (topic : List ScanEvent) : ScanReader :=
  { topic, consumer := none, source := KafkaScanSource.empty, applied := [] }

/-- A poll returned nothing. -/
def idle (reader : ScanReader) : ScanReader :=
  { reader with source := { reader.source with caughtUp := true } }

/-- `_apply`, record by record. -/
def consume (keep : Nat) (reader : ScanReader) (consumer : KafkaConsumer) (count : Nat) :
    ScanReader :=
  let records := (reader.topic.drop consumer.position).take count
  { reader with
    consumer := some { consumer with position := consumer.position + count }
    source := records.foldl (KafkaScanSource.apply keep) reader.source
    applied := reader.applied ++ records }

def step (keep replay : Nat) (reader : ScanReader) : ScanLabel → Option ScanReader
  | .publish event => some { reader with topic := reader.topic ++ [event] }
  | .start =>
      match reader.consumer with
      | some _ => none
      | none => some { reader with
          consumer := some ⟨reader.topic.length, reader.topic.length - replay⟩ }
  | .poll .notStarted =>
      match reader.consumer with
      | some _ => none
      | none => some reader.idle
  | .poll .failed => reader.consumer.map (fun _ => reader.idle)
  | .poll (.fetched count) =>
      match reader.consumer with
      | none => none
      | some consumer =>
          if count ≤ pollRecords ∧ consumer.position + count ≤ reader.topic.length then
            if count = 0 then some reader.idle else some (reader.consume keep consumer count)
          else none

/-- The last `replay` records there were when the consumer was positioned have been
applied. -/
def ReplayApplied (replay : Nat) (reader : ScanReader) : Prop :=
  ∃ consumer, reader.consumer = some consumer ∧
    (reader.topic.take consumer.ended).drop (consumer.ended - replay) <+: reader.applied

/-- `read` and `max_scan_id` answer from a complete replay. -/
def AnswersWhole (replay : Nat) (reader : ScanReader) : Prop :=
  ∀ after limit, reader.source.read after limit ≠ .upstreamUnavailable →
    ReplayApplied replay reader

end ScanReader

def Poll.empty : Poll → Bool
  | .notStarted => true
  | .failed => true
  | .fetched count => count == 0

/-- An empty poll happens only where the consumer has read what was there when it was
positioned. -/
def EmptyAtEnd (reader : ScanReader) : ScanLabel → Prop
  | .poll poll => poll.empty = true → ∃ consumer ∈ reader.consumer,
      consumer.ended ≤ consumer.position
  | _ => True

instance (reader : ScanReader) : ∀ label, Decidable (EmptyAtEnd reader label)
  | .publish _ => inferInstanceAs (Decidable True)
  | .start => inferInstanceAs (Decidable True)
  | .poll poll => inferInstanceAs (Decidable (poll.empty = true → ∃ consumer ∈ reader.consumer, _))

namespace ScanReader

variable {keep replay : Nat} {topic : List ScanEvent} {reader after : ScanReader}

/-- What has been applied is what lies between the start position and the next offset. -/
structure Following (keep replay : Nat) (reader : ScanReader) : Prop where
  unread : reader.consumer = none → reader.applied = []
  read : ∀ consumer, reader.consumer = some consumer →
    consumer.ended ≤ reader.topic.length ∧ consumer.ended - replay ≤ consumer.position ∧
      consumer.position ≤ reader.topic.length ∧
      reader.applied = (reader.topic.take consumer.position).drop (consumer.ended - replay)
  source : ∃ caughtUp, reader.source =
    { reader.applied.foldl (KafkaScanSource.apply keep) KafkaScanSource.empty with caughtUp }

/-- Inversion of `step`. -/
inductive Steps (keep replay : Nat) (reader : ScanReader) : ScanLabel → ScanReader → Prop where
  | publishes (event : ScanEvent) :
      Steps keep replay reader (.publish event) { reader with topic := reader.topic ++ [event] }
  | starts (unstarted : reader.consumer = none) :
      Steps keep replay reader .start { reader with
        consumer := some ⟨reader.topic.length, reader.topic.length - replay⟩ }
  | nothing {poll : Poll} (empty : poll.empty = true) :
      Steps keep replay reader (.poll poll) reader.idle
  | consumes {consumer : KafkaConsumer} {count : Nat} (found : reader.consumer = some consumer)
      (fetches : count ≠ 0) (available : consumer.position + count ≤ reader.topic.length) :
      Steps keep replay reader (.poll (.fetched count)) (reader.consume keep consumer count)

theorem step_steps {label : ScanLabel} (taken : reader.step keep replay label = some after) :
    Steps keep replay reader label after := by
  cases label with
  | publish event =>
      cases taken
      exact .publishes event
  | start =>
      cases found : reader.consumer with
      | some consumer => simp [ScanReader.step, found] at taken
      | none =>
          simp only [ScanReader.step, found, Option.some.injEq] at taken
          exact taken ▸ .starts found
  | poll poll =>
      cases poll with
      | notStarted =>
          cases found : reader.consumer with
          | some consumer => simp [ScanReader.step, found] at taken
          | none =>
              simp only [ScanReader.step, found, Option.some.injEq] at taken
              exact taken ▸ .nothing rfl
      | failed =>
          obtain ⟨_, _, rfl⟩ := Option.map_eq_some_iff.mp taken
          exact .nothing rfl
      | fetched count =>
          cases found : reader.consumer with
          | none => simp [ScanReader.step, found] at taken
          | some consumer =>
              simp only [ScanReader.step, found] at taken
              split at taken
              · rename_i fits
                split at taken
                · rename_i none
                  cases taken
                  exact .nothing (by simp [Poll.empty, none])
                · rename_i fetches
                  cases taken
                  exact .consumes found fetches fits.2
              · contradiction

theorem apply_caughtUp (source : KafkaScanSource) (caughtUp : Bool) (event : ScanEvent) :
    KafkaScanSource.apply keep { source with caughtUp } event =
      { source.apply keep event with caughtUp } := by
  cases event with
  | scanRecorded scanId sku =>
      simp only [KafkaScanSource.apply]
      cases source.rows.lookup scanId <;> rfl
  | scanLogReset logId => rfl
  | other => rfl

theorem foldl_apply_caughtUp (source : KafkaScanSource) (caughtUp : Bool)
    (events : List ScanEvent) :
    events.foldl (KafkaScanSource.apply keep) { source with caughtUp } =
      { events.foldl (KafkaScanSource.apply keep) source with caughtUp } := by
  induction events generalizing source with
  | nil => rfl
  | cons event events ih => rw [List.foldl_cons, apply_caughtUp, ih, List.foldl_cons]

theorem foldl_caughtUp (source : KafkaScanSource) (events : List ScanEvent) :
    (events.foldl (KafkaScanSource.apply keep) source).caughtUp = source.caughtUp := by
  have kept : events.foldl (KafkaScanSource.apply keep) source =
      { events.foldl (KafkaScanSource.apply keep) source with caughtUp := source.caughtUp } :=
    foldl_apply_caughtUp source source.caughtUp events
  rw [kept]

theorem Following.create (keep replay : Nat) (topic : List ScanEvent) :
    Following keep replay (ScanReader.create topic) :=
  ⟨fun _ => rfl, fun _ found => by contradiction, false, rfl⟩

theorem Following.idle (following : Following keep replay reader) :
    Following keep replay reader.idle := by
  obtain ⟨caughtUp, same⟩ := following.source
  refine ⟨following.unread, following.read, true, ?_⟩
  simp only [ScanReader.idle, same]

theorem Following.consume {consumer : KafkaConsumer} {count : Nat}
    (following : Following keep replay reader) (found : reader.consumer = some consumer)
    (available : consumer.position + count ≤ reader.topic.length) :
    Following keep replay (reader.consume keep consumer count) := by
  obtain ⟨ended, start, _, applied⟩ := following.read consumer found
  obtain ⟨caughtUp, same⟩ := following.source
  refine ⟨fun none => by contradiction, ?_, caughtUp, ?_⟩
  · intro next here
    simp only [ScanReader.consume, Option.some.injEq] at here
    subst here
    refine ⟨ended, by simp only; omega, available, ?_⟩
    simp only [ScanReader.consume, applied]
    rw [← List.drop_append_of_le_length (by rw [List.length_take]; omega), ← List.take_add]
  · simp only [ScanReader.consume]
    rw [same, foldl_apply_caughtUp, ← List.foldl_append]

theorem Following.step {label : ScanLabel} (following : Following keep replay reader)
    (taken : reader.step keep replay label = some after) : Following keep replay after := by
  cases step_steps taken with
  | publishes event =>
      refine ⟨following.unread, fun consumer found => ?_, following.source⟩
      obtain ⟨ended, start, position, applied⟩ := following.read consumer found
      rw [List.length_append]
      refine ⟨by omega, start, by omega, ?_⟩
      simp only [applied]
      rw [List.take_append_of_le_length position]
  | starts unstarted =>
      refine ⟨fun none => by contradiction, ?_, following.source⟩
      intro consumer same
      simp only [Option.some.injEq] at same
      subst same
      simp [following.unread unstarted]
  | nothing empty => exact following.idle
  | consumes found fetches available => exact following.consume found available

theorem answersWhole_iff :
    AnswersWhole replay reader ↔ (reader.source.caughtUp = true → ReplayApplied replay reader) := by
  cases caughtUp : reader.source.caughtUp <;> simp [AnswersWhole, KafkaScanSource.read, caughtUp]

/-- The replay is applied once the next offset is past the end there was. -/
theorem Following.replayApplied_iff {consumer : KafkaConsumer}
    (following : Following keep replay reader) (found : reader.consumer = some consumer) :
    ReplayApplied replay reader ↔ consumer.ended ≤ consumer.position := by
  obtain ⟨ended, start, position, applied⟩ := following.read consumer found
  constructor
  · rintro ⟨other, same, whole⟩
    rw [found, Option.some.injEq] at same
    subst same
    have length := whole.length_le
    rw [applied, List.length_drop, List.length_drop, List.length_take, List.length_take,
      Nat.min_eq_left ended, Nat.min_eq_left position] at length
    omega
  · intro passed
    refine ⟨consumer, found, ?_⟩
    have early : reader.topic.take consumer.ended <+: reader.topic.take consumer.position :=
      List.take_prefix_take_left passed
    rw [applied]
    exact early.drop _

theorem ReplayApplied.step {label : ScanLabel} (following : Following keep replay reader)
    (whole : ReplayApplied replay reader) (taken : reader.step keep replay label = some after) :
    ReplayApplied replay after := by
  obtain ⟨consumer, found, prior⟩ := whole
  obtain ⟨ended, _⟩ := following.read consumer found
  cases step_steps taken with
  | publishes event =>
      refine ⟨consumer, found, ?_⟩
      rwa [List.take_append_of_le_length ended]
  | starts unstarted =>
      rw [unstarted] at found
      contradiction
  | nothing empty => exact ⟨consumer, found, prior⟩
  | consumes here fetches available =>
      cases found.symm.trans here
      exact ⟨_, rfl, prior.trans (List.prefix_append _ _)⟩

/-- An empty poll declares the source caught up and touches nothing else. -/
theorem step_empty {poll : Poll} (empty : poll.empty = true)
    (taken : reader.step keep replay (.poll poll) = some after) : after = reader.idle := by
  cases step_steps taken with
  | nothing empty => rfl
  | consumes found fetches available => exact absurd (by simpa [Poll.empty] using empty) fetches

/-- Only an empty poll declares the source caught up. -/
theorem step_caughtUp {label : ScanLabel} (taken : reader.step keep replay label = some after)
    (caughtUp : after.source.caughtUp = true) :
    reader.source.caughtUp = true ∨ ∃ poll, label = .poll poll ∧ poll.empty = true := by
  cases step_steps taken with
  | publishes event => exact .inl caughtUp
  | starts unstarted => exact .inl caughtUp
  | nothing empty => exact .inr ⟨_, rfl, empty⟩
  | consumes found fetches available => exact .inl (by rwa [consume, foldl_caughtUp] at caughtUp)

theorem following_of_run {labels : List ScanLabel}
    (run : Run (ScanReader.step keep replay) Any (create topic) labels reader) :
    Following keep replay reader :=
  run.invariant (Following.create keep replay topic)
    (fun _ _ _ following _ taken => following.step taken)

/-- An empty poll at the end of the replay leaves it applied. -/
theorem Following.idle_applied {poll : Poll} (following : Following keep replay reader)
    (empty : poll.empty = true) (atEnd : EmptyAtEnd reader (.poll poll)) :
    ReplayApplied replay reader.idle := by
  obtain ⟨consumer, found, passed⟩ := atEnd empty
  exact (following.idle.replayApplied_iff found).mpr passed

/-- What is caught up has its replay applied, if empty polls come at the end only. -/
theorem Following.caughtUp_step {label : ScanLabel} (following : Following keep replay reader)
    (whole : reader.source.caughtUp = true → ReplayApplied replay reader)
    (atEnd : EmptyAtEnd reader label) (taken : reader.step keep replay label = some after) :
    after.source.caughtUp = true → ReplayApplied replay after := by
  intro caughtUp
  rcases step_caughtUp taken caughtUp with before | ⟨poll, rfl, empty⟩
  · exact (whole before).step following taken
  · rw [step_empty empty taken]
    exact following.idle_applied empty atEnd

theorem answersWhole_of_run {labels : List ScanLabel}
    (run : Run (ScanReader.step keep replay) EmptyAtEnd (create topic) labels reader) :
    AnswersWhole replay reader := by
  rw [answersWhole_iff]
  induction run with
  | start => exact fun caughtUp => by contradiction
  | snoc past permitted taken ih =>
      exact (following_of_run past.unrestricted).caughtUp_step ih permitted taken

/-- The scan source answers from a complete replay, up to every point of a run, if
and only if every poll that returns nothing does so with the consumer past the end the
topic had when it was positioned. -/
theorem answers_from_whole_replay_iff (keep replay : Nat) (topic : List ScanEvent)
    (labels : List ScanLabel) (reader : ScanReader)
    (run : Run (ScanReader.step keep replay) Any (create topic) labels reader) :
    (∃ caughtUp, reader.source =
      { reader.applied.foldl (KafkaScanSource.apply keep) KafkaScanSource.empty with caughtUp }) ∧
    ((∀ earlier state, earlier <+: labels →
      Run (ScanReader.step keep replay) Any (create topic) earlier state →
      AnswersWhole replay state) ↔
    (∀ earlier label state, earlier ++ [label] <+: labels →
      Run (ScanReader.step keep replay) Any (create topic) earlier state →
      EmptyAtEnd state label)) := by
  refine ⟨(following_of_run run).source, fun whole earlier label state part reached => ?_,
    fun atEnd earlier state part reached => ?_⟩
  · cases label with
    | publish event => trivial
    | start => trivial
    | poll poll =>
        intro empty
        obtain ⟨rest, rfl⟩ := part
        obtain ⟨after, first, _⟩ := run.split
        obtain ⟨before, past, _, taken⟩ := first.last
        cases past.deterministic reached
        have answers := whole _ after (List.prefix_append _ _) first
        have same := step_empty empty taken
        subst same
        obtain ⟨consumer, found, prior⟩ := answersWhole_iff.mp answers rfl
        have following := (following_of_run past).idle
        exact ⟨consumer, found, (following.replayApplied_iff found).mp ⟨consumer, found, prior⟩⟩
  · obtain ⟨rest, rfl⟩ := part
    obtain ⟨other, past, _⟩ := (run.restrict atEnd).split
    cases past.deterministic reached
    exact answersWhole_of_run (past.weaken (fun _ _ both => both.2))

end ScanReader

end SelfCheckout.Analytics
