import SelfCheckout.Analytics.Output

namespace SelfCheckout.Analytics

open SelfCheckout.Data

/-! # PipelineSupervisor

One pipeline after another over a source whose highest scan id does not go down.  What the
read path shows is set by OutputFilter and outlives the pipeline that published it.
-/

variable {Instant : Type}

/-- A pipeline: its tail, what of the tail's items is on the first queue, and its output. -/
structure Pipeline (Instant : Type) where
  maxSeq : Nat
  tail : TailIngest Instant
  queue : List Item
  stopped : Bool
  output : Output

structure Supervisor (Instant : Type) where
  maxId : Nat
  pipeline : Option (Pipeline Instant)
  latest : Option Published

def Supervisor.start (maxId : Nat) : Supervisor Instant :=
  { maxId, pipeline := none, latest := none }

inductive SupervisorLabel (Instant : Type) where
  | grow (maxId : Nat)
  | bootstrap (logId : Option String)
  | pass (read : Read) (now : Instant)
  | stop (cut : Nat)
  | output (label : OutputLabel)
  | fail

/-- No row of the read is above the source's highest id. -/
def Read.upTo (maxId : Nat) : Read → Bool
  | .upstreamUnavailable => true
  | .rows found _ _ => found.all (fun row => decide (row.scanId ≤ maxId))

/-- The windows RankingFilter makes of the queue. -/
def Pipeline.windows (settings : PipelineSettings Instant) (pipeline : Pipeline Instant) :
    List RankedData :=
  ranked settings (bootstrap settings pipeline.maxSeq).1 pipeline.queue

/-- The queues between the filters keep their order: RankingFilter puts its next window, and
TERMINATE follows the last. -/
def Pipeline.next (settings : PipelineSettings Instant) (pipeline : Pipeline Instant) :
    OutputLabel → Bool
  | .put data => decide ((pipeline.windows settings)[pipeline.output.puts.length]? = some data)
  | .terminate =>
      pipeline.stopped && decide (pipeline.output.puts.length = (pipeline.windows settings).length)
  | _ => true

/-- `_run_pipeline` up to its tasks. -/
def Pipeline.bootstrap (settings : PipelineSettings Instant) (logId : Option String) (maxSeq : Nat) :
    Pipeline Instant :=
  { maxSeq
    tail := TailIngest.start settings.toTailSettings logId (Analytics.bootstrap settings maxSeq).1
      (some (Analytics.bootstrap settings maxSeq).2)
    queue := [], stopped := false, output := Output.start }

section Step

variable [Sub Instant] [LE Instant] [DecidableLE Instant]

/-- A failure cancels every task before the next bootstrap.  A stopped tail may have been cut
off within its last pass.  A scan-log reset, which forgets what was published, is left out. -/
def Supervisor.step (settings : PipelineSettings Instant) (supervisor : Supervisor Instant) :
    SupervisorLabel Instant → Option (Supervisor Instant)
  | .grow maxId =>
      if supervisor.maxId ≤ maxId then some { supervisor with maxId } else none
  | .bootstrap logId =>
      match supervisor.pipeline with
      | some _ => none
      | none =>
          some { supervisor with
            pipeline := some (Pipeline.bootstrap settings logId supervisor.maxId) }
  | .pass read now =>
      supervisor.pipeline.bind (fun pipeline =>
        if pipeline.stopped = false ∧ read.upTo supervisor.maxId then
          (pipeline.tail.step settings.toTailSettings (read, now)).map (fun tail =>
            { supervisor with pipeline := some { pipeline with tail, queue := tail.out } })
        else none)
  | .stop cut =>
      supervisor.pipeline.bind (fun pipeline =>
        if pipeline.stopped = false then
          some { supervisor with
            pipeline := some { pipeline with stopped := true, queue := pipeline.tail.out.take cut } }
        else none)
  | .output label =>
      supervisor.pipeline.bind (fun pipeline =>
        if pipeline.next settings label then
          (pipeline.output.step label).map (fun output =>
            { supervisor with
              pipeline := some { pipeline with output }
              latest := (pipeline.output.publishes label).or supervisor.latest })
        else none)
  | .fail => supervisor.pipeline.map (fun _ => { supervisor with pipeline := none })

end Step

/-- No id the tail knows of is above the bound. -/
structure TailIngest.Within (bound : Nat) (tail : TailIngest Instant) : Prop where
  cursor : tail.lastId ≤ bound
  pending : ∀ id sku, tail.pending.lookup id = some sku → id ≤ bound
  hole : tail.holeUpto ≤ bound

section Within

variable {settings : TailSettings Instant} {tail : TailIngest Instant} {bound : Nat}

theorem TailIngest.Within.hold {rows : List ScanData} (within : tail.Within bound)
    (upTo : ∀ row ∈ rows, row.scanId ≤ bound) : (tail.hold rows).Within bound := by
  have kept : ∀ pending : Table Nat Sku, (∀ id sku, pending.lookup id = some sku → id ≤ bound) →
      ∀ id sku, (rows.foldl (fun pending row =>
        if tail.lastId < row.scanId then pending.put row.scanId row.sku else pending)
          pending).lookup id = some sku → id ≤ bound := by
    induction rows with
    | nil => exact fun _ bounded => bounded
    | cons row rows ih =>
        intro pending bounded
        rw [List.foldl_cons]
        refine ih (fun other isIn => upTo other (by simp [isIn])) _ ?_
        split
        · intro id sku found
          rw [Table.lookup_put] at found
          split at found
          · rename_i same
            have here := upTo row (by simp)
            omega
          · exact bounded id sku found
        · exact bounded
  exact ⟨within.cursor, kept _ within.pending, within.hole⟩

theorem TailIngest.Within.advance {scanId : Nat} (within : tail.Within bound)
    (upTo : scanId ≤ bound) : (tail.advance settings scanId).Within bound :=
  ⟨upTo, within.pending, within.hole⟩

theorem TailIngest.Within.drain (within : tail.Within bound) :
    (tail.drain settings).1.Within bound := by
  refine drain_kept settings (TailIngest.Within bound) (fun tail sku found within => ?_) within
  have erased : TailIngest.Within bound
      { tail with
        pending := tail.pending.erase (tail.lastId + 1)
        out := tail.out ++ [.scan ⟨tail.lastId + 1, sku⟩] } := by
    refine ⟨within.cursor, fun id other present => ?_, within.hole⟩
    rw [Table.lookup_erase] at present
    split at present
    · contradiction
    · exact within.pending id other present
  exact erased.advance (within.pending _ _ found)

variable [Sub Instant] [LE Instant] [DecidableLE Instant]

theorem TailIngest.Within.skip {now : Instant} (within : tail.Within bound) :
    (tail.skipExpiredHole settings now).1.Within bound := by
  unfold TailIngest.skipExpiredHole
  split
  · exact ⟨within.cursor, within.pending, within.hole⟩
  · rename_i lowest isLowest
    split
    · have isIn := List.min?_mem isLowest
      obtain ⟨row, isRow, rfl⟩ := List.mem_map.mp isIn
      have upTo := within.pending row.1 row.2 (Table.lookup_eq_some.mpr isRow)
      refine ⟨within.cursor, within.pending, ?_⟩
      simp only
      omega
    · split
      · exact within
      · have hole := within.hole
        have skipped := skip_kept settings (TailIngest.Within bound) tail.holeUpto
          (fun other below within => within.advance (by omega : other.lastId + 1 ≤ bound)) within
        exact ⟨skipped.cursor, skipped.pending, skipped.hole⟩

/-- Step lemma: a pass over rows within the bound stays within it. -/
theorem TailIngest.Within.step {read : Read} {now : Instant} {after : TailIngest Instant}
    (within : tail.Within bound) (upTo : read.upTo bound)
    (taken : tail.step settings (read, now) = some after) : after.Within bound := by
  cases read with
  | upstreamUnavailable =>
      cases taken
      exact within
  | rows rows maxScanId logId =>
      have rowsUpTo : ∀ row ∈ rows, row.scanId ≤ bound := by
        simpa [Read.upTo] using upTo
      have drained : ((tail.hold rows).drain settings).1.Within bound := (within.hold rowsUpTo).drain
      simp only [TailIngest.step, TailIngest.pass] at taken
      by_cases replaced : logId ≠ tail.logId
      · simp [replaced] at taken
      by_cases behind : maxScanId < tail.lastId
      · simp [replaced, behind] at taken
      simp only [replaced, behind, ↓reduceIte] at taken
      generalize isTimed : (if ((tail.hold rows).drain settings).2 = true then
        { ((tail.hold rows).drain settings).1 with holeSince := none }
        else ((tail.hold rows).drain settings).1) = timed at taken
      have timedWithin : timed.Within bound := by
        rw [← isTimed]
        split
        · exact ⟨drained.cursor, drained.pending, drained.hole⟩
        · exact drained
      have skipped : (timed.skipExpiredHole settings now).1.Within bound := timedWithin.skip
      by_cases again : (timed.skipExpiredHole settings now).2 = true
      · simp only [again, ↓reduceIte, Option.some.injEq] at taken
        exact taken ▸ skipped.drain
      · simp only [again, Bool.false_eq_true, ↓reduceIte, Option.some.injEq] at taken
        exact taken ▸ skipped

end Within

section Invariant

variable {settings : PipelineSettings Instant} {pipeline : Pipeline Instant}
  {supervisor after : Supervisor Instant}

/-- The boundary with this index. -/
def Pipeline.boundary (settings : PipelineSettings Instant) (pipeline : Pipeline Instant)
    (index : Nat) : Nat :=
  (Analytics.bootstrap settings pipeline.maxSeq).2 + index * settings.slide

structure Pipeline.Sound (settings : PipelineSettings Instant) (maxId : Nat)
    (latest : Option Published) (pipeline : Pipeline Instant) : Prop where
  seq : pipeline.maxSeq ≤ maxId
  ordered : Ordered settings.toTailSettings (Analytics.bootstrap settings pipeline.maxSeq).1
    (Analytics.bootstrap settings pipeline.maxSeq).2 pipeline.tail
  within : pipeline.tail.Within maxId
  queue : pipeline.queue <+: pipeline.tail.out
  output : pipeline.output.Sound
  puts : pipeline.output.puts.map RankedData.windowEnd =
    (List.range pipeline.output.puts.length).map (pipeline.boundary settings)
  reached : ∀ data ∈ pipeline.output.puts, data.windowEnd ≤ maxId
  latest : ∀ published, latest = some published →
    pipeline.output.published = [] ∧ published.data.windowEnd ≤ pipeline.boundary settings 0 ∨
      pipeline.output.published.getLast? = some published

/-- What is shown ends at a boundary the source has reached. -/
structure Supervisor.Sound (settings : PipelineSettings Instant) (supervisor : Supervisor Instant) :
    Prop where
  reached : ∀ published, supervisor.latest = some published →
    settings.slide ∣ published.data.windowEnd ∧ published.data.windowEnd ≤ supervisor.maxId
  pipeline : ∀ pipeline, supervisor.pipeline = some pipeline →
    pipeline.Sound settings supervisor.maxId supervisor.latest

theorem dvd_first (settings : PipelineSettings Instant) (maxSeq : Nat) :
    settings.slide ∣ (bootstrap settings maxSeq).2 := by
  simp only [bootstrap]
  split
  · exact Nat.dvd_sub_mod maxSeq
  · exact dvd_refl _

theorem first_pos (settings : PipelineSettings Instant) (maxSeq : Nat) :
    0 < (bootstrap settings maxSeq).2 := by
  have slide := settings.slidePos
  simp only [bootstrap]
  split
  · assumption
  · exact slide

/-- A boundary the source had reached is not above the first of a new pipeline. -/
theorem le_first (settings : PipelineSettings Instant) {maxSeq boundary : Nat}
    (multiple : settings.slide ∣ boundary) (upTo : boundary ≤ maxSeq) :
    boundary ≤ (bootstrap settings maxSeq).2 := by
  have below : boundary ≤ maxSeq - maxSeq % settings.slide := by
    obtain ⟨count, rfl⟩ := multiple
    have quotient : count ≤ maxSeq / settings.slide :=
      (Nat.le_div_iff_mul_le settings.slidePos).mpr (by rwa [Nat.mul_comm])
    have whole := Nat.div_add_mod maxSeq settings.slide
    have product := Nat.mul_le_mul_left settings.slide quotient
    omega
  simp only [bootstrap]
  split
  · exact below
  · omega

theorem InOrder.of_part {startAfter : Nat} {part queue : List Item} (ordered : InOrder startAfter queue)
    (isPart : part <+: queue) : InOrder startAfter part :=
  ⟨ordered.sorted.sublist (isPart.sublist.map _), fun item isIn => ordered.above item (isPart.subset isIn)⟩

theorem map_windowEnd_ranked {startAfter : Nat} {queue : List Item}
    (ordered : InOrder startAfter queue) :
    (ranked settings startAfter queue).map RankedData.windowEnd = marks queue := by
  rw [(counted_of_inOrder settings ordered).out, List.map_map]
  exact List.map_id _

variable {maxId : Nat} {latest : Option Published}

/-- The windows of the queue end at the boundaries, one after another, and the tail has passed
them all. -/
theorem Pipeline.Sound.windows (sound : pipeline.Sound settings maxId latest) :
    ∃ count, (pipeline.windows settings).map RankedData.windowEnd =
        (List.range count).map (pipeline.boundary settings) ∧
      ∀ data ∈ pipeline.windows settings, data.windowEnd ≤ pipeline.tail.lastId := by
  have inOrder : InOrder (Analytics.bootstrap settings pipeline.maxSeq).1 pipeline.tail.out :=
    ⟨sound.ordered.sorted, sound.ordered.above⟩
  have ends : (pipeline.windows settings).map RankedData.windowEnd = marks pipeline.queue :=
    map_windowEnd_ranked (inOrder.of_part sound.queue)
  obtain ⟨count, marked, -⟩ := sound.ordered.marked
  have part : marks pipeline.queue <+: marks pipeline.tail.out := sound.queue.filterMap _
  rw [List.prefix_iff_eq_take, marked, ← List.map_take, List.take_range] at part
  refine ⟨_, ends.trans part, fun data isIn => ?_⟩
  have isMark : data.windowEnd ∈ marks pipeline.queue := by
    rw [← ends]
    exact List.mem_map_of_mem isIn
  have upTo := sound.ordered.upTo _ (sound.queue.subset (mem_marks.mp isMark))
  simp only [Item.key] at upTo
  omega

/-- RankingFilter's next window ends at the next boundary. -/
theorem Pipeline.Sound.next (sound : pipeline.Sound settings maxId latest) {data : RankedData}
    (isNext : (pipeline.windows settings)[pipeline.output.puts.length]? = some data) :
    data.windowEnd = pipeline.boundary settings pipeline.output.puts.length ∧
      data.windowEnd ≤ pipeline.tail.lastId := by
  obtain ⟨count, ends, upTo⟩ := sound.windows
  refine ⟨?_, upTo data (List.mem_of_getElem? isNext)⟩
  have isEnd := congrArg (fun boundaries => boundaries[pipeline.output.puts.length]?) ends
  simp only [List.getElem?_map, isNext, Option.map_some] at isEnd
  rw [eq_comm, Option.map_eq_some_iff] at isEnd
  obtain ⟨index, found, same⟩ := isEnd
  obtain ⟨below, value⟩ := List.getElem?_eq_some_iff.mp found
  rw [List.getElem_range] at value
  rw [← same, value]

theorem Pipeline.Sound.earlier (sound : pipeline.Sound settings maxId latest) {data : RankedData}
    (isPut : data ∈ pipeline.output.puts) :
    ∃ index < pipeline.output.puts.length, data.windowEnd = pipeline.boundary settings index := by
  have isEnd : data.windowEnd ∈ pipeline.output.puts.map RankedData.windowEnd :=
    List.mem_map_of_mem isPut
  rw [sound.puts] at isEnd
  obtain ⟨index, inRange, same⟩ := List.mem_map.mp isEnd
  exact ⟨index, List.mem_range.mp inRange, same.symm⟩

theorem Pipeline.Sound.put {data : RankedData} {output : Output}
    (sound : pipeline.Sound settings maxId latest)
    (isNext : (pipeline.windows settings)[pipeline.output.puts.length]? = some data)
    (taken : pipeline.output.step (.put data) = some output) :
    Pipeline.Sound settings maxId latest { pipeline with output } := by
  obtain ⟨atBoundary, upTo⟩ := sound.next isNext
  have first := first_pos settings pipeline.maxSeq
  have allowed : Ascending pipeline.output (.put data) := by
    refine ⟨?_, fun earlier isPut => ?_⟩
    · rw [atBoundary, Pipeline.boundary]
      omega
    · obtain ⟨index, below, same⟩ := sound.earlier isPut
      rw [same, atBoundary, Pipeline.boundary, Pipeline.boundary]
      have apart := Nat.mul_lt_mul_of_pos_right below settings.slidePos
      omega
  have next := sound.output.put allowed taken
  simp only [Output.step] at taken
  split at taken
  · contradiction
  cases taken
  exact
    { seq := sound.seq, ordered := sound.ordered, within := sound.within, queue := sound.queue
      output := next
      puts := by
        simp only [List.map_append, List.map_cons, List.map_nil, List.length_append,
          List.length_cons, List.length_nil, Nat.zero_add, List.range_succ, sound.puts, atBoundary]
        rfl
      reached := by
        intro other isPut
        rcases List.mem_append.mp isPut with earlier | isNew
        · exact sound.reached other earlier
        · rw [List.mem_singleton.mp isNew]
          exact upTo.trans sound.within.cursor
      latest := sound.latest }

theorem Pipeline.Sound.quiet {label : OutputLabel} {output : Output} (quiet : label.Quiet)
    (sound : pipeline.Sound settings maxId latest)
    (taken : pipeline.output.step label = some output) :
    Pipeline.Sound settings maxId latest { pipeline with output } := by
  obtain ⟨samePuts, samePublished, -, allowed⟩ := Output.step_quiet quiet taken
  exact
    { seq := sound.seq, ordered := sound.ordered, within := sound.within, queue := sound.queue
      output := sound.output.step allowed taken
      puts := by
        simp only [samePuts]
        exact sound.puts
      reached := by
        simp only [samePuts]
        exact sound.reached
      latest := by
        simp only [samePublished]
        exact sound.latest }

/-- What a pipeline publishes ends at a boundary it has passed, and not before what was shown. -/
theorem Pipeline.Sound.write {now : Time} {output : Output}
    (sound : pipeline.Sound settings maxId latest)
    (taken : pipeline.output.step (.write now) = some output) :
    ∃ data, pipeline.output.publishes (.write now) = some ⟨data, now⟩ ∧
      settings.slide ∣ data.windowEnd ∧ data.windowEnd ≤ maxId ∧
      (∀ published, latest = some published → published.data.windowEnd ≤ data.windowEnd) ∧
      Pipeline.Sound settings maxId (some ⟨data, now⟩) { pipeline with output } := by
  obtain ⟨data, holds, publishes, isPublished, samePuts, next⟩ := sound.output.write taken
  have newer := sound.output.newer holds
  have isPut : data ∈ pipeline.output.puts := by
    apply sound.output.chain.subset
    simp [Output.chain, holds, OutputTask.held]
  obtain ⟨index, -, atBoundary⟩ := sound.earlier isPut
  refine ⟨data, publishes, ?_, sound.reached data isPut, ?_, ?_⟩
  · rw [atBoundary, Pipeline.boundary]
    exact Nat.dvd_add (dvd_first settings _) (Dvd.intro_left index rfl)
  · intro published isLatest
    rcases sound.latest published isLatest with ⟨-, belowFirst⟩ | isLast
    · refine belowFirst.trans ?_
      rw [atBoundary, Pipeline.boundary, Pipeline.boundary]
      omega
    · have written := sound.output.written
      rw [List.getLast?_map, isLast] at written
      simp only [Option.map_some, Option.getD_some] at written
      omega
  · exact
      { seq := sound.seq, ordered := sound.ordered, within := sound.within, queue := sound.queue
        output := next
        puts := by
          simp only [samePuts]
          exact sound.puts
        reached := by
          simp only [samePuts]
          exact sound.reached
        latest := by
          rintro published ⟨⟩
          right
          simp [isPublished] }

/-- A greater highest id leaves a pipeline as it is. -/
theorem Pipeline.Sound.grow {larger : Nat} (sound : pipeline.Sound settings maxId latest)
    (upTo : maxId ≤ larger) : pipeline.Sound settings larger latest :=
  { sound with
    seq := sound.seq.trans upTo
    within :=
      ⟨sound.within.cursor.trans upTo, fun id sku found => (sound.within.pending id sku found).trans upTo,
        sound.within.hole.trans upTo⟩
    reached := fun data isPut => (sound.reached data isPut).trans upTo }

theorem Supervisor.Sound.bootstrap (sound : supervisor.Sound settings) (logId : Option String) :
    (Pipeline.bootstrap settings logId supervisor.maxId).Sound settings supervisor.maxId
      supervisor.latest where
  seq := le_refl _
  ordered := .start logId (bootstrap_ahead settings _)
  within :=
    { cursor := by
        simp only [Pipeline.bootstrap, TailIngest.start, Analytics.bootstrap]
        omega
      pending := by simp [Pipeline.bootstrap, TailIngest.start]
      hole := Nat.zero_le _ }
  queue := List.prefix_rfl
  output := .start
  puts := rfl
  reached := by simp [Pipeline.bootstrap, Output.start]
  latest := by
    intro published isLatest
    obtain ⟨multiple, upTo⟩ := sound.reached published isLatest
    refine .inl ⟨rfl, ?_⟩
    rw [Pipeline.boundary, Nat.zero_mul, Nat.add_zero]
    exact le_first settings multiple upTo

/-- What was shown is kept, or something that does not end earlier is shown. -/
def Supervisor.NotOlder (before after : Supervisor Instant) : Prop :=
  ∀ published, before.latest = some published →
    ∃ newer, after.latest = some newer ∧ published.data.windowEnd ≤ newer.data.windowEnd

theorem Supervisor.NotOlder.of_same (same : after.latest = supervisor.latest) :
    supervisor.NotOlder after :=
  fun published isLatest => ⟨published, same.trans isLatest, le_refl _⟩

theorem Supervisor.Sound.replace (sound : supervisor.Sound settings)
    (kept : pipeline.Sound settings supervisor.maxId supervisor.latest) :
    Supervisor.Sound settings { supervisor with pipeline := some pipeline } ∧
      supervisor.NotOlder { supervisor with pipeline := some pipeline } := by
  refine ⟨⟨sound.reached, ?_⟩, .of_same rfl⟩
  rintro _ ⟨⟩
  exact kept

theorem Supervisor.Sound.output {label : OutputLabel} {output : Output}
    (sound : supervisor.Sound settings)
    (before : pipeline.Sound settings supervisor.maxId supervisor.latest)
    (isNext : pipeline.next settings label) (taken : pipeline.output.step label = some output) :
    Supervisor.Sound settings
        { supervisor with
          pipeline := some { pipeline with output }
          latest := (pipeline.output.publishes label).or supervisor.latest } ∧
      supervisor.NotOlder
        { supervisor with
          pipeline := some { pipeline with output }
          latest := (pipeline.output.publishes label).or supervisor.latest } := by
  cases label with
  | put data => exact sound.replace (before.put (by simpa [Pipeline.next] using isNext) taken)
  | terminate => exact sound.replace (before.quiet (show OutputLabel.Quiet .terminate from trivial) taken)
  | check => exact sound.replace (before.quiet (show OutputLabel.Quiet .check from trivial) taken)
  | resume => exact sound.replace (before.quiet (show OutputLabel.Quiet .resume from trivial) taken)
  | write now =>
      obtain ⟨data, publishes, multiple, upTo, notOlder, kept⟩ := before.write taken
      rw [publishes, Option.some_or]
      refine ⟨⟨?_, ?_⟩, fun published isLatest => ⟨_, rfl, notOlder published isLatest⟩⟩
      · rintro _ ⟨⟩
        exact ⟨multiple, upTo⟩
      · rintro _ ⟨⟩
        exact kept

variable [Sub Instant] [LE Instant] [DecidableLE Instant]

/-- Step lemma: every step keeps the invariant, and what is shown does not go back. -/
theorem Supervisor.Sound.step {label : SupervisorLabel Instant} (sound : supervisor.Sound settings)
    (taken : supervisor.step settings label = some after) :
    after.Sound settings ∧ supervisor.NotOlder after := by
  cases label with
  | grow maxId =>
      simp only [Supervisor.step] at taken
      split at taken
      · rename_i upTo
        cases taken
        refine ⟨⟨fun published isLatest => ?_, fun pipeline isPipeline => ?_⟩, .of_same rfl⟩
        · obtain ⟨multiple, reached⟩ := sound.reached published isLatest
          exact ⟨multiple, reached.trans upTo⟩
        · exact (sound.pipeline pipeline isPipeline).grow upTo
      · contradiction
  | bootstrap logId =>
      simp only [Supervisor.step] at taken
      split at taken
      · contradiction
      · cases taken
        exact sound.replace (sound.bootstrap logId)
  | pass read now =>
      simp only [Supervisor.step, Option.bind_eq_some_iff] at taken
      obtain ⟨pipeline, isPipeline, taken⟩ := taken
      have before := sound.pipeline pipeline isPipeline
      split at taken
      · rename_i running
        obtain ⟨tail, passed, rfl⟩ := Option.map_eq_some_iff.mp taken
        refine sound.replace ?_
        exact
          { seq := before.seq, ordered := before.ordered.step passed
            within := before.within.step running.2 passed, queue := List.prefix_rfl
            output := before.output, puts := before.puts, reached := before.reached
            latest := before.latest }
      · contradiction
  | stop cut =>
      simp only [Supervisor.step, Option.bind_eq_some_iff] at taken
      obtain ⟨pipeline, isPipeline, taken⟩ := taken
      have before := sound.pipeline pipeline isPipeline
      split at taken
      · cases taken
        exact sound.replace { before with queue := List.take_prefix _ _ }
      · contradiction
  | output label =>
      simp only [Supervisor.step, Option.bind_eq_some_iff] at taken
      obtain ⟨pipeline, isPipeline, taken⟩ := taken
      have before := sound.pipeline pipeline isPipeline
      split at taken
      · rename_i isNext
        obtain ⟨output, stepped, rfl⟩ := Option.map_eq_some_iff.mp taken
        exact sound.output before isNext stepped
      · contradiction
  | fail =>
      obtain ⟨pipeline, isPipeline, rfl⟩ := Option.map_eq_some_iff.mp taken
      exact ⟨⟨sound.reached, by simp⟩, .of_same rfl⟩

theorem Supervisor.sound_of_run {labels : List (SupervisorLabel Instant)} {maxId : Nat}
    (run : Run (Supervisor.step settings) Any (Supervisor.start maxId) labels supervisor) :
    supervisor.Sound settings :=
  run.invariant ⟨by simp [Supervisor.start], by simp [Supervisor.start]⟩
    (fun _ _ _ sound _ taken => (sound.step taken).1)

/-- Run lemma: over any further run what is shown does not go back. -/
theorem Supervisor.Sound.notOlder {labels : List (SupervisorLabel Instant)}
    (sound : supervisor.Sound settings)
    (run : Run (Supervisor.step settings) Any supervisor labels after) :
    supervisor.NotOlder after := by
  induction run with
  | start => exact .of_same rfl
  | snoc past _ taken ih =>
      have before : Supervisor.Sound settings _ :=
        past.invariant sound (fun _ _ _ sound _ taken => (sound.step taken).1)
      intro published isLatest
      obtain ⟨middle, shown, notOlder⟩ := ih published isLatest
      obtain ⟨newer, isNewer, further⟩ := (before.step taken).2 middle shown
      exact ⟨newer, isNewer, notOlder.trans further⟩

/-- The windows published go forward and were put; the last one put is published before the
filter returns, and after TERMINATE it does return. -/
structure Output.Forward (output : Output) : Prop where
  increasing : (output.published.map (fun published => published.data.windowEnd)).Pairwise (· < ·)
  wasPut : ∀ published ∈ output.published, published.data ∈ output.puts
  newest : output.task = .returned → output.slot.closed = true ∧
    (output.published.map Published.data).getLast? = output.puts.getLast?
  returns : output.slot.closed = true → output.Drains

theorem Output.Sound.forward {output : Output} (sound : output.Sound) : output.Forward where
  increasing := by
    have ends := sound.ascending.sublist (sound.published.map RankedData.windowEnd)
    rwa [List.map_map] at ends
  wasPut published isIn := sound.published.subset (List.mem_map_of_mem isIn)
  newest returned := ⟨(sound.done returned).2, sound.returned returned⟩
  returns closed := sound.drains closed

/-- In every interleaving of the puts, the gets and TERMINATE the windows go forward; so they do
in every pipeline of the supervisor, and over its pipelines what is shown never goes back. -/
theorem published_windows_advance {outputLabels : List OutputLabel} {output : Output} {maxId : Nat}
    {labels further : List (SupervisorLabel Instant)}
    (interleaving : Run Output.step Ascending Output.start outputLabels output)
    (run : Run (Supervisor.step settings) Any (Supervisor.start maxId) labels supervisor)
    (later : Run (Supervisor.step settings) Any supervisor further after) :
    output.Forward ∧
      (∀ pipeline, supervisor.pipeline = some pipeline → pipeline.output.Forward) ∧
      ∀ published, supervisor.latest = some published → ∃ newer, after.latest = some newer ∧
        published.data.windowEnd ≤ newer.data.windowEnd := by
  have sound := Supervisor.sound_of_run run
  have outputSound : output.Sound :=
    interleaving.invariant .start (fun _ _ _ sound allowed taken => sound.step allowed taken)
  exact ⟨outputSound.forward,
    fun pipeline isPipeline => (sound.pipeline pipeline isPipeline).output.forward,
    sound.notOlder later⟩

end Invariant

def twoWindows : List OutputLabel :=
  let window : Nat → RankedData := fun windowEnd => ⟨3, 2, windowEnd - 3, windowEnd, []⟩
  [.check, .put (window 2), .put (window 4), .resume, .check, .terminate, .write 7, .check]

theorem twoWindows_runs :
    (twoWindows.foldlM (guarded Output.step Ascending) Output.start).isSome = true := by
  decide +kernel

/-- Four scans are read, the window of the boundary 4 is published, and the pipeline fails. -/
def publishAndFail : List (SupervisorLabel Nat) :=
  let window : RankedData := ⟨3, 2, 1, 4, [("SKU-000002", 2), ("SKU-000001", 1)]⟩
  [.bootstrap none, .pass (.rows [⟨2, "SKU-000002"⟩, ⟨3, "SKU-000002"⟩, ⟨4, "SKU-000001"⟩] 4 none) 0,
    .output (.put window), .output .check, .output (.write 1), .fail]

def publishAgain : List (SupervisorLabel Nat) :=
  let window : RankedData := ⟨3, 2, 1, 4, [("SKU-000002", 2), ("SKU-000001", 1)]⟩
  [.grow 5, .bootstrap none,
    .pass (.rows [⟨2, "SKU-000002"⟩, ⟨3, "SKU-000002"⟩, ⟨4, "SKU-000001"⟩] 5 none) 0,
    .output (.put window), .output .check, .output (.write 2)]

theorem publishAndFail_runs : (publishAndFail.foldlM (Supervisor.step smallWindow)
    (Supervisor.start 4)).isSome = true := by
  decide +kernel

theorem publishAgain_runs : (publishAgain.foldlM (Supervisor.step smallWindow)
    (Option.get _ publishAndFail_runs)).isSome = true := by
  decide +kernel

theorem published_windows_advance_again :
    (Option.get _ twoWindows_runs).Forward ∧
      ∃ newer, (Option.get _ publishAgain_runs).latest = some newer ∧ 4 ≤ newer.data.windowEnd := by
  have advance := published_windows_advance
    (.of_guarded (Option.some_get twoWindows_runs).symm)
    (.of_foldlM (Option.some_get publishAndFail_runs).symm)
    (.of_foldlM (Option.some_get publishAgain_runs).symm)
  exact ⟨advance.1,
    advance.2.2 ⟨⟨3, 2, 1, 4, [("SKU-000002", 2), ("SKU-000001", 1)]⟩, 1⟩ (by decide +kernel)⟩

end SelfCheckout.Analytics
