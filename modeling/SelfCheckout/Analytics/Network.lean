import SelfCheckout.Analytics.Supervisor
import SelfCheckout.Data.Stages

namespace SelfCheckout.Analytics

open SelfCheckout.Data

/-! # The five tasks of a pipeline

`_run_pipeline` runs the tail and the four filters as tasks joined by bounded queues.  A
step here is one task between two of its waits, so every schedule of the loop is a run.
The tail decides what it emits in a pass and then puts it item by item; `stop` cuts it off
between two puts and puts TERMINATE itself.
-/

variable {Instant : Type}

/-- The `maxsize` of the three queues. -/
structure QueueSizes where
  first : Nat
  second : Nat
  third : Nat
deriving DecidableEq, Repr

/-- `q1`, `q2` and `q3` -/
def pipelineQueues : QueueSizes := { first := 10000, second := 64, third := 64 }

structure QueueSizes.Positive (sizes : QueueSizes) : Prop where
  first : 0 < sizes.first
  second : 0 < sizes.second
  third : 0 < sizes.third

example : pipelineQueues.Positive := ⟨by decide, by decide, by decide⟩

/-- RankingFilter has no state. -/
def RankingFilter.work (settings : PipelineSettings Instant) (state : Unit) (item : WindowCounts) :
    Unit × Option RankedData :=
  (state, some (RankingFilter.receive settings item))

/-- A pipeline with its tasks: what the tail has still to put, the three queues and the
three filters between them.  OutputFilter and the slot are the pipeline's `output`. -/
structure Network (Instant : Type) where
  pipeline : Pipeline Instant
  unput : List (Signal Item)
  q1 : List (Signal Item)
  window : Stage WindowFilter Slide
  q2 : List (Signal Slide)
  aggregation : Stage (Table Sku Int) WindowCounts
  q3 : List (Signal WindowCounts)
  ranking : Stage Unit RankedData

/-- `_run_pipeline` up to its tasks. -/
def Network.bootstrap (settings : PipelineSettings Instant) (logId : Option String) (maxSeq : Nat) :
    Network Instant :=
  { pipeline := Pipeline.bootstrap settings logId maxSeq
    unput := [], q1 := [], window := .start ⟨[], (Analytics.bootstrap settings maxSeq).1⟩
    q2 := [], aggregation := .start Table.empty, q3 := [], ranking := .start () }

inductive NetworkLabel (Instant : Type) where
  | pass (read : Read) (now : Instant)
  | stop
  | tailPut
  | windowTake
  | windowPut
  | aggregationTake
  | aggregationPut
  | rankingTake
  | rankingPut
  | output (label : OutputLabel)

/-- What RankingFilter's `out.put` is to the slot. -/
def slotLabel : Signal RankedData → OutputLabel
  | .item data => .put data
  | .terminate => .terminate

/-- OutputFilter's own steps. -/
def OutputLabel.own : OutputLabel → Bool
  | .put _ => false
  | .terminate => false
  | .check => true
  | .resume => true
  | .write _ => true

/-- Of what the tail emitted, what it put before it was cancelled. -/
def Network.emitted (network : Network Instant) : List Item :=
  network.pipeline.tail.out.take (network.pipeline.tail.out.length - network.unput.length)

section Step

variable [Sub Instant] [LE Instant] [DecidableLE Instant]

/-- A pass starts when everything the last one emitted is put. -/
def Network.step (settings : PipelineSettings Instant) (sizes : QueueSizes)
    (network : Network Instant) : NetworkLabel Instant → Option (Network Instant)
  | .pass read now =>
      if network.pipeline.stopped = false ∧ network.unput = [] then
        (network.pipeline.tail.step settings.toTailSettings (read, now)).map (fun tail =>
          { network with
            pipeline := { network.pipeline with tail, queue := tail.out }
            unput := (tail.out.drop network.pipeline.tail.out.length).map .item })
      else none
  | .stop =>
      if network.pipeline.stopped = false then
        some { network with
          pipeline := { network.pipeline with stopped := true, queue := network.emitted }
          unput := [.terminate] }
      else none
  | .tailPut =>
      match network.unput with
      | signal :: unput =>
          if network.q1.length < sizes.first then
            some { network with unput, q1 := network.q1 ++ [signal] }
          else none
      | [] => none
  | .windowTake =>
      (network.window.take (WindowFilter.receive settings.window) network.q1).map (fun done =>
        { network with window := done.1, q1 := done.2 })
  | .windowPut =>
      (network.window.put sizes.second network.q2).map (fun done =>
        { network with window := done.1, q2 := done.2 })
  | .aggregationTake =>
      (network.aggregation.take AggregationFilter.receive network.q2).map (fun done =>
        { network with aggregation := done.1, q2 := done.2 })
  | .aggregationPut =>
      (network.aggregation.put sizes.third network.q3).map (fun done =>
        { network with aggregation := done.1, q3 := done.2 })
  | .rankingTake =>
      (network.ranking.take (RankingFilter.work settings) network.q3).map (fun done =>
        { network with ranking := done.1, q3 := done.2 })
  | .rankingPut =>
      match network.ranking.holding with
      | some signal =>
          (network.pipeline.output.step (slotLabel signal)).map (fun output =>
            { network with
              pipeline := { network.pipeline with output }, ranking := network.ranking.release })
      | none => none
  | .output label =>
      if label.own then
        (network.pipeline.output.step label).map (fun output =>
          { network with pipeline := { network.pipeline with output } })
      else none

end Step

/-! What the filters have put into the slot and what they will still put is, for whatever the
tail goes on to put, what the three filters make of it one after another.
-/

section Invariant

variable {settings : PipelineSettings Instant} {sizes : QueueSizes} {network after : Network Instant}

/-- The three filters from their start, one after another. -/
def throughFilters (settings : PipelineSettings Instant) (startAfter : Nat)
    (signals : List (Signal Item)) : List (Signal RankedData) :=
  outputs (RankingFilter.work settings) ()
    (outputs AggregationFilter.receive Table.empty
      (outputs (WindowFilter.receive settings.window) ⟨[], startAfter⟩ signals))

/-- What WindowFilter, then AggregationFilter, then RankingFilter will still put. -/
def Network.slides (settings : PipelineSettings Instant) (network : Network Instant)
    (more : List (Signal Item)) : List (Signal Slide) :=
  network.window.rest (WindowFilter.receive settings.window) (network.q1 ++ more)

def Network.counts (settings : PipelineSettings Instant) (network : Network Instant)
    (more : List (Signal Item)) : List (Signal WindowCounts) :=
  network.aggregation.rest AggregationFilter.receive (network.q2 ++ network.slides settings more)

def Network.coming (settings : PipelineSettings Instant) (network : Network Instant)
    (more : List (Signal Item)) : List (Signal RankedData) :=
  network.ranking.rest (RankingFilter.work settings) (network.q3 ++ network.counts settings more)

/-- What was put into the slot, TERMINATE included. -/
def Output.signals (output : Output) : List (Signal RankedData) :=
  output.puts.map .item ++ ending RankedData output.slot.closed

theorem ranked_signals (startAfter : Nat) (queue : List Item) :
    throughFilters settings startAfter (queue.map .item) =
      (ranked settings startAfter queue).map .item := by
  have stateless : ∀ (counted : List WindowCounts) (made : List RankedData),
      (counted.foldl (fun done item => ((RankingFilter.work settings done.1 item).1,
        done.2 ++ (RankingFilter.work settings done.1 item).2.toList)) ((), made)).2 =
        made ++ counted.map (RankingFilter.receive settings) := by
    intro counted
    induction counted with
    | nil => simp
    | cons item counted ih =>
        intro made
        simp only [List.foldl_cons, RankingFilter.work, Option.toList_some, List.map_cons] at ih ⊢
        rw [ih]
        simp
  simp only [throughFilters, outputs_items, stateless, List.nil_append, ranked, feed]

theorem ranked_signals_terminate (startAfter : Nat) (queue : List Item) :
    throughFilters settings startAfter (queue.map .item ++ [.terminate]) =
      (ranked settings startAfter queue).map .item ++ [.terminate] := by
  rw [← ranked_signals, throughFilters, throughFilters, outputs_items_terminate, outputs_items,
    outputs_items_terminate, outputs_items, outputs_items_terminate]

/-- The step lemma's invariant: `given` is what the tail has put. -/
structure Network.Faithful (settings : PipelineSettings Instant) (network : Network Instant)
    (given : List (Signal Item)) : Prop where
  account : given ++ network.unput = network.pipeline.queue.map .item ++
    ending Item network.pipeline.stopped
  coming : ∀ more, network.pipeline.output.signals ++ network.coming settings more =
    throughFilters settings (Analytics.bootstrap settings network.pipeline.maxSeq).1 (given ++ more)
  queue : network.pipeline.stopped = false → network.pipeline.queue = network.pipeline.tail.out
  within : network.pipeline.queue <+: network.pipeline.tail.out

theorem Network.Faithful.start (logId : Option String) (maxSeq : Nat) :
    (Network.bootstrap settings logId maxSeq).Faithful settings [] where
  account := rfl
  coming _ := rfl
  queue _ := rfl
  within := List.prefix_rfl

/-- A tail only adds to what it emitted. -/
theorem TailIngest.step_out [Sub Instant] [LE Instant] [DecidableLE Instant]
    {settings : TailSettings Instant} {tail next : TailIngest Instant} {read : Read} {now : Instant}
    (taken : tail.step settings (read, now) = some next) : tail.out <+: next.out := by
  have advances : ∀ (earlier : TailIngest Instant) (scanId : Nat),
      earlier.out <+: (earlier.advance settings scanId).out := fun _ _ => List.prefix_append _ _
  have drains : ∀ earlier : TailIngest Instant, tail.out <+: earlier.out →
      tail.out <+: (earlier.drain settings).1.out := by
    intro earlier grown
    refine earlier.drain_kept settings (fun later => tail.out <+: later.out) ?_ grown
    intro later sku _ grown
    have emitted : tail.out <+: later.out ++ [.scan ⟨later.lastId + 1, sku⟩] :=
      grown.trans (List.prefix_append _ _)
    exact emitted.trans (List.prefix_append _ _)
  rcases TailIngest.step_cases taken with ⟨-, rfl⟩ | ⟨rows, _, _, -, outcome⟩
  · exact List.prefix_rfl
  · rcases outcome with ⟨⟨since, upto, rfl⟩, -⟩ | ⟨-, -, rfl⟩
    · exact drains (tail.hold rows) List.prefix_rfl
    · refine drains _ ?_
      have held : tail.out <+: (tail.hold rows).out := List.prefix_rfl
      exact TailIngest.skip_kept settings (fun later => tail.out <+: later.out) tail.holeUpto
        (fun later _ grown => grown.trans (advances later _)) held

section Filters

variable {given : List (Signal Item)}

/-- A step that leaves the tail and the slot alone, and everything that is to come. -/
theorem Network.Faithful.inner (faithful : network.Faithful settings given)
    (pipeline : after.pipeline = network.pipeline) (unput : after.unput = network.unput)
    (coming : ∀ more, after.coming settings more = network.coming settings more) :
    after.Faithful settings given where
  account := by
    rw [pipeline, unput]
    exact faithful.account
  coming more := by
    rw [pipeline, coming]
    exact faithful.coming more
  queue := by
    rw [pipeline]
    exact faithful.queue
  within := by
    rw [pipeline]
    exact faithful.within

theorem slot_open {output next : Output} {signal : Signal RankedData}
    (taken : output.step (slotLabel signal) = some next) : output.slot.closed = false := by
  cases closed : output.slot.closed with
  | false => rfl
  | true => cases signal <;> simp [slotLabel, Output.step, closed] at taken

theorem signals_slot {output next : Output} {signal : Signal RankedData}
    (taken : output.step (slotLabel signal) = some next) :
    next.signals = output.signals ++ [signal] := by
  have isOpen := slot_open taken
  cases signal with
  | item data =>
      simp only [slotLabel, Output.step, isOpen, Bool.false_eq_true, ↓reduceIte,
        Option.some.injEq] at taken
      subst taken
      simp [Output.signals, isOpen, ending]
  | terminate =>
      simp only [slotLabel, Output.step, isOpen, Bool.false_eq_true, ↓reduceIte,
        Option.some.injEq] at taken
      subst taken
      simp [Output.signals, isOpen, ending]

/-- OutputFilter's own steps put nothing. -/
theorem puts_own {output next : Output} {label : OutputLabel} (own : label.own = true)
    (taken : output.step label = some next) :
    next.puts = output.puts ∧ next.slot.closed = output.slot.closed := by
  cases label with
  | put data => contradiction
  | terminate => contradiction
  | check =>
      simp only [Output.step] at taken
      split at taken
      · cases taken
        unfold Output.check
        split <;> exact ⟨rfl, rfl⟩
      · contradiction
  | resume =>
      simp only [Output.step] at taken
      split at taken
      · cases taken
        exact ⟨rfl, rfl⟩
      · contradiction
  | write now =>
      simp only [Output.step] at taken
      split at taken
      · cases taken
        split <;> exact ⟨rfl, rfl⟩
      · contradiction

theorem Network.Faithful.outer (faithful : network.Faithful settings given) {output : Output}
    {ranking : Stage Unit RankedData}
    (coming : ∀ more, output.signals ++
        Network.coming settings { network with ranking := ranking } more =
      network.pipeline.output.signals ++ network.coming settings more) :
    Network.Faithful settings
      { network with pipeline := { network.pipeline with output }, ranking } given where
  account := faithful.account
  coming more := (coming more).trans (faithful.coming more)
  queue := faithful.queue
  within := faithful.within

variable [Sub Instant] [LE Instant] [DecidableLE Instant]

/-- Step lemma: whatever task goes next, nothing that is to come changes. -/
theorem Network.Faithful.step {label : NetworkLabel Instant}
    (faithful : network.Faithful settings given)
    (taken : network.step settings sizes label = some after) :
    ∃ given, after.Faithful settings given := by
  cases label with
  | pass read now =>
      simp only [Network.step] at taken
      split at taken
      · rename_i ready
        obtain ⟨running, allPut⟩ := ready
        obtain ⟨tail, passed, rfl⟩ := Option.map_eq_some_iff.mp taken
        have account := faithful.account
        rw [allPut, List.append_nil, faithful.queue running, ending, running] at account
        obtain ⟨new, emitted⟩ := TailIngest.step_out passed
        refine ⟨given, ?_, faithful.coming, fun _ => rfl, List.prefix_rfl⟩
        simp [account, ← emitted, ending, running]
      · contradiction
  | stop =>
      simp only [Network.step] at taken
      split at taken
      · rename_i running
        cases taken
        have account := faithful.account
        rw [faithful.queue running, ending, running, if_neg (by simp),
          List.append_nil] at account
        have length : given.length = network.pipeline.tail.out.length - network.unput.length := by
          have both := congrArg List.length account
          rw [List.length_append, List.length_map] at both
          omega
        refine ⟨given, ?_, faithful.coming, by simp, List.take_prefix _ _⟩
        simp only [ending, ↓reduceIte, Network.emitted, List.map_take, ← account, ← length,
          List.take_left]
      · contradiction
  | tailPut =>
      simp only [Network.step] at taken
      split at taken
      · rename_i signal unput allUnput
        split at taken
        · cases taken
          refine ⟨given ++ [signal], ?_, ?_, faithful.queue, faithful.within⟩
          · rw [← faithful.account, allUnput, List.append_assoc]
            rfl
          · intro more
            have coming := faithful.coming (signal :: more)
            rw [List.append_assoc]
            simp only [Network.coming, Network.counts, Network.slides, List.append_assoc,
              List.singleton_append] at coming ⊢
            exact coming
        · contradiction
      · contradiction
  | windowTake =>
      obtain ⟨done, took, rfl⟩ := Option.map_eq_some_iff.mp taken
      refine ⟨given, faithful.inner rfl rfl fun more => ?_⟩
      simp only [Network.coming, Network.counts, Network.slides, rest_take took]
  | windowPut =>
      obtain ⟨done, gave, rfl⟩ := Option.map_eq_some_iff.mp taken
      refine ⟨given, faithful.inner rfl rfl fun more => ?_⟩
      simp only [Network.coming, Network.counts, Network.slides, rest_put gave]
  | aggregationTake =>
      obtain ⟨done, took, rfl⟩ := Option.map_eq_some_iff.mp taken
      refine ⟨given, faithful.inner rfl rfl fun more => ?_⟩
      simp only [Network.coming, Network.counts, Network.slides, rest_take took]
  | aggregationPut =>
      obtain ⟨done, gave, rfl⟩ := Option.map_eq_some_iff.mp taken
      refine ⟨given, faithful.inner rfl rfl fun more => ?_⟩
      simp only [Network.coming, Network.counts, Network.slides, rest_put gave]
  | rankingTake =>
      obtain ⟨done, took, rfl⟩ := Option.map_eq_some_iff.mp taken
      refine ⟨given, faithful.inner rfl rfl fun more => ?_⟩
      simp only [Network.coming, Network.counts, Network.slides, rest_take took]
  | rankingPut =>
      simp only [Network.step] at taken
      split at taken
      · rename_i signal holds
        obtain ⟨output, put, rfl⟩ := Option.map_eq_some_iff.mp taken
        refine ⟨given, faithful.outer fun more => ?_⟩
        rw [signals_slot put, List.append_assoc]
        simp only [Network.coming, rest_release holds, Network.counts, Network.slides,
          List.singleton_append]
      · contradiction
  | output label =>
      simp only [Network.step] at taken
      split at taken
      · rename_i own
        obtain ⟨output, stepped, rfl⟩ := Option.map_eq_some_iff.mp taken
        obtain ⟨puts, closed⟩ := puts_own own stepped
        refine ⟨given, faithful.outer fun more => ?_⟩
        rw [Output.signals, puts, closed]
        rfl
      · contradiction

end Filters

/-- Up to the slot: the windows of what the tail has put, then TERMINATE once it was stopped. -/
theorem Network.Faithful.stream {given : List (Signal Item)}
    (faithful : network.Faithful settings given) :
    network.pipeline.output.puts.map .item ++
        (ending RankedData network.pipeline.output.slot.closed ++
          network.coming settings network.unput) =
      (network.pipeline.windows settings).map .item ++
        ending RankedData network.pipeline.stopped := by
  have coming := faithful.coming network.unput
  rw [faithful.account] at coming
  rw [← List.append_assoc]
  refine coming.trans ?_
  cases network.pipeline.stopped with
  | true => exact ranked_signals_terminate _ _
  | false =>
      simp only [ending, Bool.false_eq_true, ↓reduceIte, List.append_nil]
      exact ranked_signals _ _

/-- RankingFilter's next put is the next window, or TERMINATE after the last. -/
theorem Network.Faithful.next {given : List (Signal Item)} {signal : Signal RankedData}
    {output : Output} (faithful : network.Faithful settings given)
    (holds : network.ranking.holding = some signal)
    (put : network.pipeline.output.step (slotLabel signal) = some output) :
    network.pipeline.next settings (slotLabel signal) = true := by
  have stream := faithful.stream
  rw [slot_open put, Network.coming, rest_release holds] at stream
  cases signal with
  | item data => exact decide_eq_true (next_of_stream stream)
  | terminate =>
      obtain ⟨all, stopped, -⟩ := end_of_stream stream
      simp only [slotLabel, Pipeline.next, stopped, all, Bool.true_and, decide_true]

end Invariant

/-- The supervisor with the tasks of the pipeline it runs. -/
structure Deployment (Instant : Type) where
  maxId : Nat
  network : Option (Network Instant)
  latest : Option Published

def Deployment.start (maxId : Nat) : Deployment Instant :=
  { maxId, network := none, latest := none }

inductive DeploymentLabel (Instant : Type) where
  | grow (maxId : Nat)
  | bootstrap (logId : Option String)
  | network (label : NetworkLabel Instant)
  | fail

/-- What a task's step publishes. -/
def Network.publishes (network : Network Instant) : NetworkLabel Instant → Option Published
  | .output label => network.pipeline.output.publishes label
  | _ => none

/-- The source gives no row above its highest id. -/
def NetworkLabel.upTo (maxId : Nat) : NetworkLabel Instant → Bool
  | .pass read _ => read.upTo maxId
  | _ => true

section Deployment

variable [Sub Instant] [LE Instant] [DecidableLE Instant]

def Deployment.step (settings : PipelineSettings Instant) (sizes : QueueSizes)
    (deployment : Deployment Instant) : DeploymentLabel Instant → Option (Deployment Instant)
  | .grow maxId =>
      if deployment.maxId ≤ maxId then some { deployment with maxId } else none
  | .bootstrap logId =>
      match deployment.network with
      | some _ => none
      | none =>
          some { deployment with
            network := some (Network.bootstrap settings logId deployment.maxId) }
  | .network label =>
      deployment.network.bind (fun network =>
        if label.upTo deployment.maxId then
          (network.step settings sizes label).map (fun next =>
            { deployment with
              network := some next
              latest := (network.publishes label).or deployment.latest })
        else none)
  | .fail => deployment.network.map (fun _ => { deployment with network := none })

end Deployment

/-- The supervisor as if each pipeline were one machine. -/
def Deployment.view (deployment : Deployment Instant) : Supervisor Instant :=
  { maxId := deployment.maxId
    pipeline := deployment.network.map Network.pipeline
    latest := deployment.latest }

section Refinement

variable [Sub Instant] [LE Instant] [DecidableLE Instant] {settings : PipelineSettings Instant}
  {sizes : QueueSizes} {network next : Network Instant} {deployment after : Deployment Instant}

/-- A task's step is a step of the machine, or one between its queues that it does not see. -/
theorem Network.Faithful.simulates {given : List (Signal Item)} {label : NetworkLabel Instant}
    {maxId : Nat} {latest : Option Published} (faithful : network.Faithful settings given)
    (upTo : label.upTo maxId = true) (taken : network.step settings sizes label = some next) :
    Reaches (Supervisor.step settings) { maxId, pipeline := some network.pipeline, latest }
      { maxId, pipeline := some next.pipeline
        latest := (network.publishes label).or latest } := by
  have unseen : next.pipeline = network.pipeline → network.publishes label = none →
      Reaches (Supervisor.step settings) { maxId, pipeline := some network.pipeline, latest }
        { maxId, pipeline := some next.pipeline
          latest := (network.publishes label).or latest } := by
    intro same quiet
    rw [same, quiet]
    exact .refl _
  have seen : ∀ outputLabel output, network.pipeline.next settings outputLabel = true →
      network.pipeline.output.step outputLabel = some output →
      Reaches (Supervisor.step settings) { maxId, pipeline := some network.pipeline, latest }
        { maxId, pipeline := some { network.pipeline with output }
          latest := (network.pipeline.output.publishes outputLabel).or latest } := by
    intro outputLabel output isNext stepped
    refine .single (show Supervisor.step settings _ (.output outputLabel) = _ from ?_)
    simp [Supervisor.step, isNext, stepped]
  cases label with
  | pass read now =>
      simp only [Network.step] at taken
      split at taken
      · rename_i ready
        obtain ⟨tail, passed, rfl⟩ := Option.map_eq_some_iff.mp taken
        refine .single (show Supervisor.step settings _ (.pass read now) = _ from ?_)
        simp only [NetworkLabel.upTo] at upTo
        simp [Supervisor.step, ready.1, upTo, passed, Network.publishes]
      · contradiction
  | stop =>
      simp only [Network.step] at taken
      split at taken
      · rename_i running
        cases taken
        refine .single (show Supervisor.step settings _ (.stop
          (network.pipeline.tail.out.length - network.unput.length)) = _ from ?_)
        simp [Supervisor.step, running, Network.publishes, Network.emitted]
      · contradiction
  | tailPut =>
      refine unseen ?_ rfl
      simp only [Network.step] at taken
      split at taken
      · split at taken
        · cases taken
          rfl
        · contradiction
      · contradiction
  | windowTake =>
      obtain ⟨done, _, rfl⟩ := Option.map_eq_some_iff.mp taken
      exact unseen rfl rfl
  | windowPut =>
      obtain ⟨done, _, rfl⟩ := Option.map_eq_some_iff.mp taken
      exact unseen rfl rfl
  | aggregationTake =>
      obtain ⟨done, _, rfl⟩ := Option.map_eq_some_iff.mp taken
      exact unseen rfl rfl
  | aggregationPut =>
      obtain ⟨done, _, rfl⟩ := Option.map_eq_some_iff.mp taken
      exact unseen rfl rfl
  | rankingTake =>
      obtain ⟨done, _, rfl⟩ := Option.map_eq_some_iff.mp taken
      exact unseen rfl rfl
  | rankingPut =>
      simp only [Network.step] at taken
      split at taken
      · rename_i signal holds
        obtain ⟨output, put, rfl⟩ := Option.map_eq_some_iff.mp taken
        have sees := seen _ output (faithful.next holds put) put
        cases signal <;> exact sees
      · contradiction
  | output label =>
      simp only [Network.step] at taken
      split at taken
      · rename_i own
        obtain ⟨output, stepped, rfl⟩ := Option.map_eq_some_iff.mp taken
        refine seen label output ?_ stepped
        cases label <;> first | contradiction | rfl
      · contradiction

def Deployment.Faithful (settings : PipelineSettings Instant) (deployment : Deployment Instant) :
    Prop :=
  ∀ network, deployment.network = some network → ∃ given, network.Faithful settings given

theorem Deployment.Faithful.step {label : DeploymentLabel Instant}
    (faithful : deployment.Faithful settings)
    (taken : deployment.step settings sizes label = some after) :
    after.Faithful settings ∧ Reaches (Supervisor.step settings) deployment.view after.view := by
  cases label with
  | grow maxId =>
      simp only [Deployment.step] at taken
      split at taken
      · rename_i upTo
        cases taken
        refine ⟨faithful, .single (show Supervisor.step settings _ (.grow maxId) = _ from ?_)⟩
        simp [Supervisor.step, Deployment.view, upTo]
      · contradiction
  | bootstrap logId =>
      simp only [Deployment.step] at taken
      split at taken
      · contradiction
      · rename_i idle
        cases taken
        refine ⟨?_, .single (show Supervisor.step settings _ (.bootstrap logId) = _ from ?_)⟩
        · rintro _ ⟨⟩
          exact ⟨[], .start logId _⟩
        · simp [Supervisor.step, Deployment.view, idle, Network.bootstrap]
  | network label =>
      simp only [Deployment.step, Option.bind_eq_some_iff] at taken
      obtain ⟨network, isNetwork, taken⟩ := taken
      obtain ⟨given, before⟩ := faithful network isNetwork
      split at taken
      · rename_i upTo
        obtain ⟨next, stepped, rfl⟩ := Option.map_eq_some_iff.mp taken
        refine ⟨?_, ?_⟩
        · rintro _ ⟨⟩
          exact before.step stepped
        · have simulated : Reaches (Supervisor.step settings)
              ⟨deployment.maxId, some network.pipeline, deployment.latest⟩ _ :=
            before.simulates upTo stepped
          simpa [Deployment.view, isNetwork] using simulated
      · contradiction
  | fail =>
      obtain ⟨network, isNetwork, rfl⟩ := Option.map_eq_some_iff.mp taken
      refine ⟨by simp [Deployment.Faithful],
        .single (show Supervisor.step settings _ .fail = _ from ?_)⟩
      simp [Supervisor.step, Deployment.view, isNetwork]

theorem Deployment.faithful_of_run {labels : List (DeploymentLabel Instant)} {maxId : Nat}
    (run : Run (Deployment.step settings sizes) Any (Deployment.start maxId) labels deployment) :
    deployment.Faithful settings ∧
      Reaches (Supervisor.step settings) (Supervisor.start maxId) deployment.view := by
  induction run with
  | start => exact ⟨by simp [Deployment.Faithful, Deployment.start], .refl _⟩
  | snoc past permitted taken ih =>
      obtain ⟨faithful, simulated⟩ := ih.1.step taken
      exact ⟨faithful, ih.2.trans simulated⟩

/-- The tasks compute the pipeline.  However the loop schedules the tail and the filters, and
whatever the sizes of their queues, the supervisor goes through states of the machine that
runs them one after another; what was put into the slot is what the three filters make, in
order, of what the tail put; and every window published is the fresh count of its bounds. -/
theorem tasks_compute_the_pipeline {labels : List (DeploymentLabel Instant)} {maxId : Nat}
    (run : Run (Deployment.step settings sizes) Any (Deployment.start maxId) labels deployment) :
    Reaches (Supervisor.step settings) (Supervisor.start maxId) deployment.view ∧
      ∀ network, deployment.network = some network →
        network.pipeline.output.puts <+: network.pipeline.windows settings ∧
        ∀ published ∈ network.pipeline.output.published,
          ∃ boundary ∈ marks network.pipeline.queue,
            published.data = fresh settings (scans network.pipeline.queue) boundary := by
  obtain ⟨faithful, simulated⟩ := Deployment.faithful_of_run run
  refine ⟨simulated, fun network isNetwork => ?_⟩
  obtain ⟨given, isFaithful⟩ := faithful network isNetwork
  have windows := items_of_stream isFaithful.stream
  refine ⟨windows, fun published isPublished => ?_⟩
  obtain ⟨steps, machine⟩ := simulated
  have sound := (Supervisor.sound_of_run machine).pipeline network.pipeline
    (by simp [Deployment.view, isNetwork])
  have isWindow : published.data ∈ network.pipeline.windows settings :=
    windows.subset (sound.output.forward.wasPut published isPublished)
  have inOrder : InOrder (Analytics.bootstrap settings network.pipeline.maxSeq).1
      network.pipeline.tail.out := ⟨sound.ordered.sorted, sound.ordered.above⟩
  rw [Pipeline.windows, (counted_of_inOrder settings (inOrder.of_part sound.queue)).out] at isWindow
  obtain ⟨boundary, marked, same⟩ := List.mem_map.mp isWindow
  exact ⟨boundary, marked, same.symm⟩

end Refinement

/-! Queues of one place: the tail is held up by the filters, a window is published, and the
pipeline is stopped between two puts of the next. -/

def oneByOne : List (DeploymentLabel Nat) :=
  [.grow 4, .bootstrap none] ++
    [.output .check, .pass (.rows [⟨2, "SKU-000002"⟩, ⟨3, "SKU-000002"⟩, ⟨4, "SKU-000001"⟩] 4 none) 0,
      .tailPut, .windowTake, .tailPut, .windowTake, .tailPut, .windowTake, .tailPut, .windowTake,
      .windowPut, .aggregationTake, .aggregationPut, .rankingTake, .rankingPut, .output .resume,
      .output .check, .output (.write 7)].map .network

theorem oneByOne_runs : (oneByOne.foldlM (Deployment.step smallWindow ⟨1, 1, 1⟩)
    (Deployment.start 0)).isSome = true := by
  decide +kernel

theorem tasks_compute_the_pipeline_oneByOne :
    Reaches (Supervisor.step smallWindow) (Supervisor.start 0)
      (Deployment.view ((oneByOne.foldlM (Deployment.step smallWindow ⟨1, 1, 1⟩)
        (Deployment.start 0)).get oneByOne_runs)) :=
  (tasks_compute_the_pipeline (.of_foldlM (Option.some_get oneByOne_runs).symm)).1

end SelfCheckout.Analytics
