import SelfCheckout.Analytics.Bootstrap
import SelfCheckout.Analytics.Replay
import Mathlib.Data.List.TakeWhile

namespace SelfCheckout.Analytics

open SelfCheckout.Data

/-! # The first window after a start

`_run_pipeline` over the scan source, which goes on reading the topic.  A pipeline
bootstraps from the highest id the source names at that moment, its tail reads what the
source has in its buffer from turn to turn, and a replaced log ends it.
-/

variable {Instant : Type}

def ScanEvent.isReset : ScanEvent → Bool
  | .scanLogReset _ => true
  | _ => false

def ScanEvent.scan? : ScanEvent → Option ScanData
  | .scanRecorded scanId sku => some ⟨scanId, sku⟩
  | _ => none

/-- The scans of the log that is current once this record is read as well. -/
def ScanEvent.onto (known : List ScanData) : ScanEvent → List ScanData
  | .scanRecorded scanId sku => known ++ [⟨scanId, sku⟩]
  | .scanLogReset _ => []
  | .other => known

/-- The scans of the log that is current at the end of these records. -/
def currentScans (records : List ScanEvent) : List ScanData := records.foldl ScanEvent.onto []

/-- The scans of these records up to the next reset. -/
def scansUntilReset (records : List ScanEvent) : List ScanData :=
  (records.takeWhile (fun event => !event.isReset)).filterMap ScanEvent.scan?

namespace ScanReader

/-- The next offset. -/
def offset (reader : ScanReader) : Nat :=
  match reader.consumer with
  | none => 0
  | some consumer => consumer.position

/-- The records before the next offset. -/
def past (reader : ScanReader) : List ScanEvent := reader.topic.take reader.offset

/-- The records a step hands to `_apply`. -/
def fetched (reader : ScanReader) : ScanLabel → List ScanEvent
  | .poll (.fetched count) => (reader.topic.drop reader.offset).take count
  | _ => []

end ScanReader

/-- A pipeline of `_run_pipeline`: the highest id it bootstrapped from, the source's next
offset then, and its tail. -/
structure Rebuild (Instant : Type) where
  maxSeq : Nat
  offset : Nat
  tail : TailIngest Instant

structure Startup (Instant : Type) where
  reader : ScanReader
  rebuild : Option (Rebuild Instant)

inductive StartupLabel (Instant : Type) where
  | source (label : ScanLabel)
  | bootstrap
  /-- A pass of the tail; CursorAhead ends the pipeline. -/
  | turn (now : Instant)
  /-- The pipeline fails otherwise. -/
  | fail

def Startup.create (topic : List ScanEvent) : Startup Instant :=
  { reader := ScanReader.create topic, rebuild := none }

namespace Rebuild

/-- The log was replaced since the bootstrap, as far as the source has read. -/
def Replaced (reader : ScanReader) (rebuild : Rebuild Instant) : Prop :=
  ∃ event ∈ reader.past.drop rebuild.offset, event.isReset = true

instance (reader : ScanReader) (rebuild : Rebuild Instant) : Decidable (rebuild.Replaced reader) :=
  inferInstanceAs (Decidable (∃ event ∈ reader.past.drop rebuild.offset, _))

/-- The scans of the log that was current at the bootstrap, as far as the source has read. -/
def log (reader : ScanReader) (rebuild : Rebuild Instant) : List ScanData :=
  currentScans (reader.past.take rebuild.offset ++
    (reader.past.drop rebuild.offset).takeWhile (fun event => !event.isReset))

def startAfter (settings : PipelineSettings Instant) (rebuild : Rebuild Instant) : Nat :=
  (bootstrap settings rebuild.maxSeq).1

def firstBoundary (settings : PipelineSettings Instant) (rebuild : Rebuild Instant) : Nat :=
  (bootstrap settings rebuild.maxSeq).2

/-- The first window published, if any. -/
def firstWindow (settings : PipelineSettings Instant) (rebuild : Rebuild Instant) :
    Option WindowCounts :=
  (windowCounts settings (rebuild.startAfter settings) rebuild.tail.out).head?

end Rebuild

section Step

variable [Sub Instant] [LE Instant] [DecidableLE Instant]

def Startup.step (settings : PipelineSettings Instant) (keep replay : Nat)
    (startup : Startup Instant) : StartupLabel Instant → Option (Startup Instant)
  | .source label =>
      (startup.reader.step keep replay label).map (fun reader => { startup with reader })
  | .bootstrap =>
      match startup.rebuild, startup.reader.source.read 0 0 with
      | none, .rows _ maxSeq logId =>
          some { startup with
            rebuild := some
              { maxSeq
                offset := startup.reader.offset
                tail := TailIngest.start settings.toTailSettings logId (bootstrap settings maxSeq).1
                  (some (bootstrap settings maxSeq).2) } }
      | _, _ => none
  | .turn now =>
      startup.rebuild.map (fun rebuild =>
        { startup with
          rebuild := (rebuild.tail.step settings.toTailSettings
            (startup.reader.source.read rebuild.tail.lastId settings.batch, now)).map
              (fun tail => { rebuild with tail }) })
  | .fail => startup.rebuild.map (fun _ => { startup with rebuild := none })

end Step

/-- The source answers from a complete replay, a pipeline bootstrapped from one, and the first
window it publishes has the counts of all distinct scans of its log that have been read. -/
structure Startup.FromWholeReplay (settings : PipelineSettings Instant) (replay : Nat)
    (startup : Startup Instant) : Prop where
  answers : startup.reader.AnswersWhole replay
  replayed : ∀ rebuild ∈ startup.rebuild, startup.reader.ReplayApplied replay
  firstWindow : ∀ rebuild ∈ startup.rebuild, ∀ item ∈ rebuild.firstWindow settings,
    CountsOf settings (rebuild.log startup.reader).dedup (rebuild.firstBoundary settings) item

/-- Ids start at 1 and have one SKU each. -/
structure OneLog (log : List ScanData) : Prop where
  positive : ∀ data ∈ log, 0 < data.scanId
  single : ∀ data ∈ log, ∀ other ∈ log, data.scanId = other.scanId → data = other

/-- Each of these scans is a repetition, or above everything before it. -/
def InIdOrder : List ScanData → List ScanData → Prop
  | _, [] => True
  | known, data :: rest =>
      (data ∈ known ∨ newest known < data.scanId) ∧ InIdOrder (known ++ [data]) rest

/-- The tail has what its first window needs from here on, or can read it; a replaced log has
another name. -/
def Rebuild.InReach (settings : PipelineSettings Instant) (reader : ScanReader)
    (rebuild : Rebuild Instant) : Prop :=
  (rebuild.Replaced reader → reader.source.logId ≠ rebuild.tail.logId) ∧
  (¬ rebuild.Replaced reader → ∀ data ∈ rebuild.log reader, rebuild.tail.lastId < data.scanId →
    data.scanId ≤ rebuild.firstBoundary settings →
    rebuild.tail.Awaits data ∨ reader.source.rows.lookup data.scanId = some data.sku)

/-- An empty poll happens at the end of the replay only; the topic is one log at a bootstrap
and goes on in id order; and a turn finds what the first window needs. -/
def Startup.Whole (settings : PipelineSettings Instant) (startup : Startup Instant) :
    StartupLabel Instant → Prop
  | .source label => EmptyAtEnd startup.reader label ∧
      ∀ rebuild ∈ startup.rebuild, ¬ rebuild.Replaced startup.reader →
        InIdOrder (rebuild.log startup.reader) (scansUntilReset (startup.reader.fetched label))
  | .bootstrap => OneLog (currentScans startup.reader.past)
  | .turn _ => ∀ rebuild ∈ startup.rebuild, rebuild.InReach settings startup.reader
  | .fail => True

section Decide

instance (log : List ScanData) : Decidable (OneLog log) :=
  decidable_of_iff ((∀ data ∈ log, 0 < data.scanId) ∧
      ∀ data ∈ log, ∀ other ∈ log, data.scanId = other.scanId → data = other)
    ⟨fun both => ⟨both.1, both.2⟩, fun one => ⟨one.positive, one.single⟩⟩

instance decidableInIdOrder : ∀ known rest, Decidable (InIdOrder known rest)
  | _, [] => inferInstanceAs (Decidable True)
  | known, data :: rest =>
      have := decidableInIdOrder (known ++ [data]) rest
      inferInstanceAs (Decidable (_ ∧ _))

instance (tail : TailIngest Instant) (data : ScanData) : Decidable (tail.Awaits data) :=
  inferInstanceAs (Decidable (_ = _))

instance (settings : PipelineSettings Instant) (reader : ScanReader) (rebuild : Rebuild Instant) :
    Decidable (rebuild.InReach settings reader) :=
  inferInstanceAs (Decidable ((rebuild.Replaced reader → _) ∧
    (¬ rebuild.Replaced reader → ∀ data ∈ rebuild.log reader, _)))

instance (settings : PipelineSettings Instant) (startup : Startup Instant) :
    ∀ label, Decidable (startup.Whole settings label)
  | .source label => inferInstanceAs (Decidable (EmptyAtEnd startup.reader label ∧
      ∀ rebuild ∈ startup.rebuild, ¬ rebuild.Replaced startup.reader → _))
  | .bootstrap => inferInstanceAs (Decidable (OneLog _))
  | .turn _ => inferInstanceAs (Decidable (∀ rebuild ∈ startup.rebuild, _))
  | .fail => inferInstanceAs (Decidable True)

end Decide

section Logs

variable {keep replay : Nat} {known : List ScanData} {source : KafkaScanSource}
  {reader after : ScanReader} {label : ScanLabel}

theorem newest_append (known : List ScanData) (data : ScanData) :
    newest (known ++ [data]) = max (newest known) data.scanId := by
  simp [newest, List.foldl_append]

/-- What the source has in its buffer and its highest id are of these scans. -/
structure KafkaScanSource.Within (source : KafkaScanSource) (known : List ScanData) : Prop where
  rows : ∀ id sku, source.rows.lookup id = some sku → ⟨id, sku⟩ ∈ known
  maxId : source.maxId ≤ newest known

theorem KafkaScanSource.Within.apply (within : source.Within known) (event : ScanEvent) :
    (source.apply keep event).Within (event.onto known) := by
  cases event with
  | scanLogReset logId => exact ⟨fun _ _ found => by contradiction, Nat.zero_le _⟩
  | other => exact within
  | scanRecorded scanId sku =>
      have grown := newest_append known ⟨scanId, sku⟩
      have upTo := within.maxId
      simp only [KafkaScanSource.apply, ScanEvent.onto]
      split
      · refine ⟨fun id other found => List.mem_append_left _ (within.rows id other found), ?_⟩
        rw [grown]
        omega
      · refine ⟨fun id other found => ?_, by simp only [grown]; omega⟩
        have isRow := List.mem_of_mem_drop (Table.lookup_eq_some.mp found)
        have put := Table.lookup_eq_some.mpr isRow
        rw [Table.lookup_put] at put
        split at put
        · rename_i same
          cases put
          exact List.mem_append_right _ (by simp [same])
        · exact List.mem_append_left _ (within.rows id other put)

theorem KafkaScanSource.Within.foldl (within : source.Within known) (events : List ScanEvent) :
    (events.foldl (KafkaScanSource.apply keep) source).Within (events.foldl ScanEvent.onto known) := by
  induction events generalizing source known with
  | nil => exact within
  | cons event events ih => exact ih (within.apply event)

theorem foldl_onto {events : List ScanEvent} (noReset : ∀ event ∈ events, event.isReset = false) :
    events.foldl ScanEvent.onto known = known ++ events.filterMap ScanEvent.scan? := by
  induction events generalizing known with
  | nil => simp
  | cons event events ih =>
      rw [List.foldl_cons, ih (fun later isIn => noReset later (List.mem_cons_of_mem _ isIn))]
      have first := noReset event List.mem_cons_self
      cases event with
      | scanRecorded scanId sku => simp [ScanEvent.onto, ScanEvent.scan?]
      | scanLogReset logId => contradiction
      | other => rw [List.filterMap_cons_none rfl, ScanEvent.onto]

theorem foldl_apply_logId {events : List ScanEvent}
    (noReset : ∀ event ∈ events, event.isReset = false) :
    (events.foldl (KafkaScanSource.apply keep) source).logId = source.logId := by
  induction events generalizing source with
  | nil => rfl
  | cons event events ih =>
      rw [List.foldl_cons, ih (fun later isIn => noReset later (List.mem_cons_of_mem _ isIn))]
      have first := noReset event List.mem_cons_self
      cases event with
      | scanRecorded scanId sku =>
          simp only [KafkaScanSource.apply]
          split <;> rfl
      | scanLogReset logId => contradiction
      | other => rfl

/-- The source's buffer is of the log that is current where it reads. -/
theorem ScanReader.Following.within (following : reader.Following keep replay) :
    reader.source.Within (currentScans reader.past) := by
  obtain ⟨caughtUp, same⟩ := following.source
  have empty : ∀ known, KafkaScanSource.empty.Within known :=
    fun known => ⟨fun _ _ found => by contradiction, Nat.zero_le _⟩
  have applied : (reader.applied.foldl (KafkaScanSource.apply keep) KafkaScanSource.empty).Within
      (currentScans reader.past) := by
    cases found : reader.consumer with
    | none =>
        rw [following.unread found]
        exact empty _
    | some consumer =>
        obtain ⟨_, _, _, applied⟩ := following.read consumer found
        have position : reader.past = reader.topic.take consumer.position := by
          simp only [ScanReader.past, ScanReader.offset, found]
        rw [applied, position, currentScans,
          ← List.take_append_drop (consumer.ended - replay) (reader.topic.take consumer.position),
          List.foldl_append, List.take_append_drop]
        exact (empty _).foldl _
  rw [same]
  exact ⟨applied.rows, applied.maxId⟩

theorem Poll.fetched_empty {poll : Poll} (empty : poll.empty = true) :
    reader.fetched (.poll poll) = [] := by
  cases poll with
  | notStarted => rfl
  | failed => rfl
  | fetched count =>
      have none : count = 0 := by simpa [Poll.empty] using empty
      simp [ScanReader.fetched, none]

/-- A step of a started reader reads on. -/
theorem ScanReader.past_step {consumer : KafkaConsumer} (following : reader.Following keep replay)
    (found : reader.consumer = some consumer)
    (taken : reader.step keep replay label = some after) :
    after.past = reader.past ++ reader.fetched label := by
  obtain ⟨_, _, position, _⟩ := following.read consumer found
  cases step_steps taken with
  | publishes event =>
      simp only [past, offset, found, fetched, List.append_nil]
      exact List.take_append_of_le_length position
  | starts unstarted =>
      rw [unstarted] at found
      contradiction
  | nothing empty => rw [Poll.fetched_empty empty, List.append_nil, past, past, offset, offset, idle]
  | consumes here fetches available =>
      cases found.symm.trans here
      simp only [past, offset, consume, found, fetched]
      exact List.take_add

theorem ScanReader.logId_step (noReset : ∀ event ∈ reader.fetched label, event.isReset = false)
    (taken : reader.step keep replay label = some after) :
    after.source.logId = reader.source.logId := by
  cases step_steps taken with
  | publishes event => rfl
  | starts unstarted => rfl
  | nothing empty => rfl
  | consumes found fetches available =>
      simp only [fetched, offset, found] at noReset
      exact foldl_apply_logId noReset

end Logs

/-- The scans read of one log. -/
def OneLog.known {log : List ScanData} (one : OneLog log) : KnownLog where
  has data := data ∈ log
  newest := newest log
  single data other isIn otherIn same := one.single data isIn other otherIn same
  upTo _ isIn := le_newest isIn

theorem OneLog.snoc {known : List ScanData} {data : ScanData} (one : OneLog known)
    (ordered : data ∈ known ∨ newest known < data.scanId) :
    ∃ more : OneLog (known ++ [data]), one.known.Grows more.known := by
  have cases : ∀ scan ∈ known ++ [data],
      scan ∈ known ∨ scan = data ∧ newest known < data.scanId := by
    intro scan isIn
    rcases List.mem_append.mp isIn with before | last
    · exact .inl before
    · rw [List.mem_singleton] at last
      subst last
      exact ordered.imp_right (fun above => ⟨rfl, above⟩)
  have more : OneLog (known ++ [data]) := by
    refine ⟨fun scan isIn => ?_, fun scan isIn other otherIn same => ?_⟩
    · rcases cases scan isIn with before | ⟨rfl, above⟩
      · exact one.positive scan before
      · omega
    · rcases cases scan isIn with before | ⟨rfl, above⟩ <;>
        rcases cases other otherIn with otherBefore | ⟨rfl, otherAbove⟩
      · exact one.single scan before other otherBefore same
      · have upTo := le_newest before
        omega
      · have upTo := le_newest otherBefore
        omega
      · rfl
  refine ⟨more, fun scan isIn => List.mem_append_left _ isIn, fun scan isIn => ?_, ?_⟩
  · rcases cases scan isIn with before | ⟨rfl, above⟩
    · exact .inl before
    · exact .inr above
  · exact newest_mono (List.subset_append_left _ _)

theorem OneLog.grow {known fetched : List ScanData} (one : OneLog known)
    (ordered : InIdOrder known fetched) :
    ∃ more : OneLog (known ++ fetched), one.known.Grows more.known := by
  induction fetched generalizing known with
  | nil =>
      rw [List.append_nil]
      exact ⟨one, .refl _⟩
  | cons data rest ih =>
      obtain ⟨next, grows⟩ := one.snoc ordered.1
      obtain ⟨more, further⟩ := ih next ordered.2
      rw [List.append_cons]
      exact ⟨more, grows.trans further⟩

section Rebuilds

variable {settings : PipelineSettings Instant} {keep replay : Nat} {reader later : ScanReader}
  {rebuild : Rebuild Instant} {fetched : List ScanEvent}

theorem Rebuild.takeWhile_of_not_replaced (same : ¬ rebuild.Replaced reader) :
    (reader.past.drop rebuild.offset).takeWhile (fun event => !event.isReset) =
      reader.past.drop rebuild.offset := by
  refine List.takeWhile_eq_self_iff.mpr (fun event isIn => ?_)
  cases reset : event.isReset with
  | false => rfl
  | true => exact absurd ⟨event, isIn, reset⟩ same

theorem Rebuild.log_of_not_replaced (same : ¬ rebuild.Replaced reader) :
    rebuild.log reader = currentScans reader.past := by
  rw [log, takeWhile_of_not_replaced same, List.take_append_drop]

/-- Reading on adds to the log what comes before the next reset. -/
theorem Rebuild.log_append (inside : rebuild.offset ≤ reader.past.length)
    (reads : later.past = reader.past ++ fetched) :
    rebuild.log later = rebuild.log reader ++
      if rebuild.Replaced reader then [] else scansUntilReset fetched := by
  have taken : later.past.take rebuild.offset = reader.past.take rebuild.offset := by
    rw [reads, List.take_append_of_le_length inside]
  have dropped : later.past.drop rebuild.offset = reader.past.drop rebuild.offset ++ fetched := by
    rw [reads, List.drop_append_of_le_length inside]
  split
  · rename_i replaced
    obtain ⟨event, isIn, reset⟩ := replaced
    have stops : ((reader.past.drop rebuild.offset).takeWhile
        (fun event => !event.isReset)).length ≠ (reader.past.drop rebuild.offset).length := by
      intro whole
      have all := List.takeWhile_eq_self_iff.mp
        ((List.takeWhile_prefix _).eq_of_length whole) event isIn
      simp [reset] at all
    rw [log, log, taken, dropped, List.takeWhile_append, if_neg stops, List.append_nil]
  · rename_i same
    have noReset : ∀ event ∈ fetched.takeWhile (fun event => !event.isReset),
        event.isReset = false := by
      intro event isIn
      simpa using List.mem_takeWhile_imp isIn
    rw [log_of_not_replaced same, log, taken, dropped, List.takeWhile_append,
      takeWhile_of_not_replaced same, if_pos rfl,
      ← List.append_assoc, List.take_append_drop, currentScans, List.foldl_append,
      foldl_onto noReset]
    rfl

theorem Rebuild.Replaced.grow (reads : later.past = reader.past ++ fetched)
    (inside : rebuild.offset ≤ reader.past.length) :
    rebuild.Replaced later ↔
      rebuild.Replaced reader ∨ ∃ event ∈ fetched, event.isReset = true := by
  simp only [Replaced, reads, List.drop_append_of_le_length inside, List.mem_append, or_and_right,
    exists_or]

/-- The tail of a running pipeline follows the log it bootstrapped from. -/
structure Rebuild.Sound (settings : PipelineSettings Instant) (reader : ScanReader)
    (rebuild : Rebuild Instant) : Prop where
  offset : rebuild.offset ≤ reader.past.length
  named : ¬ rebuild.Replaced reader → reader.source.logId = rebuild.tail.logId
  ordered : Ordered settings.toTailSettings (rebuild.startAfter settings)
    (rebuild.firstBoundary settings) rebuild.tail
  follows : ∃ one : OneLog (rebuild.log reader),
    Following one.known (rebuild.firstBoundary settings) (rebuild.startAfter settings) rebuild.tail ∧
      Timed one.known (rebuild.firstBoundary settings) rebuild.tail

/-- The source reads on. -/
theorem Rebuild.Sound.read (sound : rebuild.Sound settings reader)
    (reads : later.past = reader.past ++ fetched)
    (named : (∀ event ∈ fetched, event.isReset = false) →
      later.source.logId = reader.source.logId)
    (ordered : ¬ rebuild.Replaced reader →
      InIdOrder (rebuild.log reader) (scansUntilReset fetched)) :
    rebuild.Sound settings later where
  offset := by
    rw [reads, List.length_append]
    exact Nat.le_add_right_of_le sound.offset
  named same := by
    rw [Replaced.grow reads sound.offset, not_or] at same
    refine (named fun event isIn => ?_).trans (sound.named same.1)
    cases reset : event.isReset with
    | false => rfl
    | true => exact absurd ⟨event, isIn, reset⟩ same.2
  ordered := sound.ordered
  follows := by
    obtain ⟨one, following, timed⟩ := sound.follows
    have goesOn : InIdOrder (rebuild.log reader)
        (if rebuild.Replaced reader then [] else scansUntilReset fetched) := by
      split
      · trivial
      · rename_i same
        exact ordered same
    obtain ⟨more, grows⟩ := one.grow goesOn
    have same := log_append sound.offset reads
    rw [same]
    exact ⟨more, following.grow grows, timed.grow grows⟩

/-- `_run_pipeline` up to its tasks. -/
theorem Rebuild.Sound.start {maxSeq : Nat} (following : reader.Following keep replay)
    (one : OneLog (currentScans reader.past)) (isMax : reader.source.maxId = maxSeq) :
    Rebuild.Sound settings reader
      { maxSeq, offset := reader.offset
        tail := TailIngest.start settings.toTailSettings reader.source.logId
          (bootstrap settings maxSeq).1 (some (bootstrap settings maxSeq).2) } := by
  have inside : reader.offset ≤ reader.past.length := by
    rw [ScanReader.past, List.length_take]
    cases found : reader.consumer with
    | none => simp [ScanReader.offset, found]
    | some consumer =>
        obtain ⟨_, _, position, _⟩ := following.read consumer found
        simp only [ScanReader.offset, found]
        omega
  have read : reader.past.drop reader.offset = [] := by
    rw [List.drop_eq_nil_iff, ScanReader.past, List.length_take]
    exact Nat.min_le_left _ _
  have upTo : (bootstrap settings maxSeq).1 ≤ newest (currentScans reader.past) :=
    (bootstrap_start_le settings maxSeq).trans (isMax ▸ following.within.maxId)
  refine ⟨inside, fun _ => rfl, Ordered.start _ (bootstrap_ahead settings _), ?_⟩
  rw [log_of_not_replaced (by simp [Replaced, read])]
  exact ⟨one, .start upTo, .stopped rfl⟩

section Turn

variable [Sub Instant] [LE Instant] [DecidableLE Instant]

/-- A pass of the tail over what the source has in its buffer. -/
theorem Rebuild.Sound.turn {now : Instant} {tail : TailIngest Instant}
    (sound : rebuild.Sound settings reader) (following : reader.Following keep replay)
    (inReach : rebuild.InReach settings reader)
    (taken : rebuild.tail.step settings.toTailSettings
      (reader.source.read rebuild.tail.lastId settings.batch, now) = some tail) :
    Rebuild.Sound settings reader { rebuild with tail } := by
  have sameLog := TailIngest.step_logId taken
  refine ⟨sound.offset, fun same => (sound.named same).trans sameLog.symm,
    sound.ordered.step taken, ?_⟩
  obtain ⟨one, follows, timed⟩ := sound.follows
  refine ⟨one, ?_⟩
  unfold KafkaScanSource.read at taken
  split at taken
  · obtain ⟨named, _⟩ := TailIngest.step_named taken
    have same : ¬ rebuild.Replaced reader := fun replaced => inReach.1 replaced named
    have fetched : Fetched one.known (rebuild.firstBoundary settings) rebuild.tail
        ((reader.source.rowsAfter rebuild.tail.lastId).take settings.batch) := by
      refine .of_read (fun id sku stored => ?_) (fun data isIn needed above =>
        inReach.2 same data isIn above needed)
      have isCurrent := following.within.rows id sku stored
      rwa [← log_of_not_replaced same] at isCurrent
    exact follows.turn timed fetched taken
  · cases taken
    exact ⟨follows, timed⟩

end Turn

/-- The first window is counted from every scan of the log within its bounds. -/
theorem Rebuild.Sound.firstWindow {item : WindowCounts} (sound : rebuild.Sound settings reader)
    (isFirst : rebuild.firstWindow settings = some item) :
    CountsOf settings (rebuild.log reader).dedup (rebuild.firstBoundary settings) item := by
  obtain ⟨one, follows, _⟩ := sound.follows
  obtain ⟨reached, counted⟩ := sound.ordered.firstWindow isFirst
  have sameScans : ∀ data,
      data ∈ inWindow settings.window (rebuild.firstBoundary settings) (scans rebuild.tail.out) ↔
      data ∈ inWindow settings.window (rebuild.firstBoundary settings)
        (rebuild.log reader).dedup := by
    intro data
    rw [mem_inWindow, mem_inWindow, List.mem_dedup]
    refine ⟨fun inside => ⟨follows.sound data inside.1, inside.2⟩, fun inside => ?_⟩
    obtain ⟨isIn, above, upTo⟩ := inside
    have positive := one.positive data isIn
    have beyond : rebuild.startAfter settings < data.scanId := by
      simp only [firstBoundary, startAfter, bootstrap] at above ⊢
      split at above <;> omega
    exact ⟨follows.complete data isIn upTo beyond (upTo.trans reached), above, upTo⟩
  have perm := (List.perm_ext_iff_of_nodup (sound.ordered.nodup_scans.filter _)
    ((rebuild.log reader).nodup_dedup.filter _)).mpr sameScans
  exact counted.of_inWindow (fun sku => (perm.map ScanData.sku).count_eq sku)

end Rebuilds

structure Startup.Sound (settings : PipelineSettings Instant) (keep replay : Nat)
    (startup : Startup Instant) : Prop where
  reader : startup.reader.Following keep replay
  caughtUp : startup.reader.source.caughtUp = true → startup.reader.ReplayApplied replay
  replayed : ∀ rebuild ∈ startup.rebuild, startup.reader.ReplayApplied replay
  rebuild : ∀ rebuild ∈ startup.rebuild, rebuild.Sound settings startup.reader

section Runs

variable [Sub Instant] [LE Instant] [DecidableLE Instant] {settings : PipelineSettings Instant}
  {keep replay : Nat} {topic : List ScanEvent} {startup after : Startup Instant}

theorem Startup.Sound.step {label : StartupLabel Instant} (sound : startup.Sound settings keep replay)
    (whole : startup.Whole settings label)
    (taken : startup.step settings keep replay label = some after) :
    after.Sound settings keep replay := by
  cases label with
  | source label =>
      obtain ⟨reader, read, rfl⟩ := Option.map_eq_some_iff.mp taken
      refine ⟨sound.reader.step read, sound.reader.caughtUp_step sound.caughtUp whole.1 read,
        fun rebuild isRunning => (sound.replayed rebuild isRunning).step sound.reader read,
        fun rebuild isRunning => ?_⟩
      obtain ⟨consumer, found, _⟩ := sound.replayed rebuild isRunning
      exact (sound.rebuild rebuild isRunning).read (ScanReader.past_step sound.reader found read)
        (fun noReset => ScanReader.logId_step noReset read) (whole.2 rebuild isRunning)
  | bootstrap =>
      simp only [Startup.step] at taken
      split at taken
      · rename_i rows maxSeq logId _ answered
        cases taken
        unfold KafkaScanSource.read at answered
        split at answered
        · rename_i caughtUp
          injection answered with _ isMax isLog
          refine ⟨sound.reader, sound.caughtUp, fun _ _ => sound.caughtUp caughtUp,
            fun rebuild isRunning => ?_⟩
          cases isRunning
          exact isLog ▸ .start sound.reader whole isMax
        · contradiction
      · contradiction
  | turn now =>
      obtain ⟨rebuild, isRunning, rfl⟩ := Option.map_eq_some_iff.mp taken
      refine ⟨sound.reader, sound.caughtUp, fun _ _ => sound.replayed rebuild isRunning,
        fun next isNext => ?_⟩
      obtain ⟨tail, passed, rfl⟩ := Option.map_eq_some_iff.mp isNext
      exact (sound.rebuild rebuild isRunning).turn sound.reader (whole rebuild isRunning) passed
  | fail =>
      obtain ⟨rebuild, _, rfl⟩ := Option.map_eq_some_iff.mp taken
      exact ⟨sound.reader, sound.caughtUp, fun _ isRunning => by contradiction,
        fun _ isRunning => by contradiction⟩

end Runs

def retainedScans : List ScanEvent :=
  [.scanRecorded 1 "SKU-000001", .scanRecorded 2 "SKU-000002", .scanRecorded 3 "SKU-000001",
    .scanRecorded 4 "SKU-000002", .scanRecorded 5 "SKU-000001"]

/-- The last four are replayed and nothing more is there; a sixth scan arrives while the
pipeline runs. -/
def patient : List (StartupLabel Nat) :=
  [.source .start, .source (.poll (.fetched 4)), .source (.poll (.fetched 0)), .bootstrap,
    .source (.publish (.scanRecorded 6 "SKU-000002")), .turn 0, .source (.poll (.fetched 1)),
    .turn 1]

theorem patient_runs :
    (patient.foldlM (guarded (Startup.step twoScanWindow 8 4) (Startup.Whole twoScanWindow))
      (Startup.create retainedScans)).isSome = true := by
  decide +kernel

/-- The service starts before its broker: the first poll returns nothing, the source answers
that there is no scan, and the pipeline bootstraps from there. -/
def unreachable : List (StartupLabel Nat) :=
  [.source (.poll .notStarted), .bootstrap, .source .start, .source (.poll (.fetched 4)), .turn 0,
    .turn 20]

theorem unreachable_runs :
    (unreachable.foldlM (Startup.step twoScanWindow 8 4) (Startup.create retainedScans)).isSome =
      true := by
  decide +kernel

end SelfCheckout.Analytics
