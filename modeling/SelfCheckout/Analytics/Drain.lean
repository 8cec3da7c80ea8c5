import SelfCheckout.Analytics.Network

namespace SelfCheckout.Analytics

open SelfCheckout.Data

/-! # A stopped pipeline drains

After `stop` the tasks take a bounded number of steps, and they cannot get stuck before
TERMINATE has gone through: full queues and empty ones hold nobody up for ever.  So the
last window whose watermark the tail had put is published before the tasks are done,
unless one of them fails or `stop` has waited long enough and they are cancelled.
-/

variable {Instant : Type}

def OutputTask.left : OutputTask → Nat
  | .checking => 1
  | .waiting woken => if woken then 2 else 0
  | .holding _ => 2
  | .returned => 0

def Output.left (output : Output) : Nat :=
  output.task.left + if output.slot.item.isSome then 2 else 0

/-- More than the steps the tasks can still take once the tail is cancelled: a signal costs
one for each queue and each filter it has still to pass, and five at the slot. -/
def Network.left (network : Network Instant) : Nat :=
  11 * network.unput.length + 10 * network.q1.length + 9 * network.window.load +
    8 * network.q2.length + 7 * network.aggregation.load + 6 * network.q3.length +
    5 * network.ranking.load + network.pipeline.output.left

theorem wake_left (task : OutputTask) : task.wake.left ≤ task.left + 2 := by
  cases task <;> simp [OutputTask.wake, OutputTask.left]

theorem slot_left {output next : Output} {signal : Signal RankedData}
    (taken : output.step (slotLabel signal) = some next) : next.left < output.left + 5 := by
  have isOpen := slot_open taken
  have woken := wake_left output.task
  cases signal with
  | item data =>
      simp only [slotLabel, Output.step, isOpen, Bool.false_eq_true, ↓reduceIte,
        Option.some.injEq] at taken
      subst taken
      simp only [Output.left, Option.isSome_some, ↓reduceIte]
      omega
  | terminate =>
      simp only [slotLabel, Output.step, isOpen, Bool.false_eq_true, ↓reduceIte,
        Option.some.injEq] at taken
      subst taken
      simp only [Output.left]
      omega

/-- Each of OutputFilter's steps is one less. -/
theorem own_left {output next : Output} {label : OutputLabel} (own : label.own = true)
    (taken : output.step label = some next) : next.left < output.left := by
  cases label with
  | put data => contradiction
  | terminate => contradiction
  | check =>
      simp only [Output.step] at taken
      split at taken
      · rename_i checking
        cases taken
        unfold Output.check
        split
        · simp [Output.left, OutputTask.left, checking]
        · cases found : output.slot.item <;> simp [Output.left, OutputTask.left, checking, found]
      · contradiction
  | resume =>
      simp only [Output.step] at taken
      split at taken
      · rename_i woken
        cases taken
        simp [Output.left, OutputTask.left, woken]
      · contradiction
  | write now =>
      simp only [Output.step] at taken
      split at taken
      · rename_i data holds
        cases taken
        split <;> simp [Output.left, OutputTask.left, holds]
      · contradiction

/-- A filter has returned once TERMINATE is past it. -/
structure Network.Returning (network : Network Instant) : Prop where
  window : Chained network.window network.q2 network.aggregation
  aggregation : Chained network.aggregation network.q3 network.ranking
  ranking : network.pipeline.output.slot.closed = true → network.ranking.returned = true

theorem Network.Returning.start (settings : PipelineSettings Instant) (logId : Option String)
    (maxSeq : Nat) : (Network.bootstrap settings logId maxSeq).Returning where
  window := .start _ _
  aggregation := .start _ _
  ranking := by simp [Network.bootstrap, Pipeline.bootstrap, Output.start]

section Steps

variable [Sub Instant] [LE Instant] [DecidableLE Instant] {settings : PipelineSettings Instant}
  {sizes : QueueSizes} {network after : Network Instant} {label : NetworkLabel Instant}

/-- Step lemma: a stopped pipeline stays stopped, with the same windows to rank, and has
less left to do. -/
theorem Network.step_left (stopped : network.pipeline.stopped = true)
    (taken : network.step settings sizes label = some after) :
    after.pipeline.stopped = true ∧
      after.pipeline.windows settings = network.pipeline.windows settings ∧
      after.left < network.left := by
  cases label with
  | pass read now => simp [Network.step, stopped] at taken
  | stop => simp [Network.step, stopped] at taken
  | tailPut =>
      simp only [Network.step] at taken
      split at taken
      · rename_i signal unput allUnput
        split at taken
        · cases taken
          refine ⟨stopped, rfl, ?_⟩
          simp only [Network.left, allUnput, List.length_cons, List.length_append, List.length_nil]
          omega
        · contradiction
      · contradiction
  | windowTake =>
      obtain ⟨done, took, rfl⟩ := Option.map_eq_some_iff.mp taken
      obtain ⟨shorter, free, load⟩ := take_load took
      refine ⟨stopped, rfl, ?_⟩
      simp only [Network.left]
      omega
  | windowPut =>
      obtain ⟨done, gave, rfl⟩ := Option.map_eq_some_iff.mp taken
      obtain ⟨longer, held, free⟩ := put_load gave
      refine ⟨stopped, rfl, ?_⟩
      simp only [Network.left]
      omega
  | aggregationTake =>
      obtain ⟨done, took, rfl⟩ := Option.map_eq_some_iff.mp taken
      obtain ⟨shorter, free, load⟩ := take_load took
      refine ⟨stopped, rfl, ?_⟩
      simp only [Network.left]
      omega
  | aggregationPut =>
      obtain ⟨done, gave, rfl⟩ := Option.map_eq_some_iff.mp taken
      obtain ⟨longer, held, free⟩ := put_load gave
      refine ⟨stopped, rfl, ?_⟩
      simp only [Network.left]
      omega
  | rankingTake =>
      obtain ⟨done, took, rfl⟩ := Option.map_eq_some_iff.mp taken
      obtain ⟨shorter, free, load⟩ := take_load took
      refine ⟨stopped, rfl, ?_⟩
      simp only [Network.left]
      omega
  | rankingPut =>
      simp only [Network.step] at taken
      split at taken
      · rename_i signal holds
        obtain ⟨output, put, rfl⟩ := Option.map_eq_some_iff.mp taken
        have slot := slot_left put
        have held := load_of_holding holds
        have free := load_release network.ranking
        refine ⟨stopped, rfl, ?_⟩
        simp only [Network.left]
        omega
      · contradiction
  | output label =>
      simp only [Network.step] at taken
      split at taken
      · rename_i own
        obtain ⟨output, stepped, rfl⟩ := Option.map_eq_some_iff.mp taken
        have less := own_left own stepped
        refine ⟨stopped, rfl, ?_⟩
        simp only [Network.left]
        omega
      · contradiction

theorem Network.Returning.step (returning : network.Returning)
    (taken : network.step settings sizes label = some after) : after.Returning := by
  cases label with
  | pass read now =>
      simp only [Network.step] at taken
      split at taken
      · obtain ⟨tail, _, rfl⟩ := Option.map_eq_some_iff.mp taken
        exact ⟨returning.window, returning.aggregation, returning.ranking⟩
      · contradiction
  | stop =>
      simp only [Network.step] at taken
      split at taken
      · cases taken
        exact ⟨returning.window, returning.aggregation, returning.ranking⟩
      · contradiction
  | tailPut =>
      simp only [Network.step] at taken
      split at taken
      · split at taken
        · cases taken
          exact ⟨returning.window, returning.aggregation, returning.ranking⟩
        · contradiction
      · contradiction
  | windowTake =>
      obtain ⟨done, took, rfl⟩ := Option.map_eq_some_iff.mp taken
      exact ⟨returning.window.takesEarlier took, returning.aggregation, returning.ranking⟩
  | windowPut =>
      obtain ⟨done, gave, rfl⟩ := Option.map_eq_some_iff.mp taken
      exact ⟨returning.window.putsEarlier gave, returning.aggregation, returning.ranking⟩
  | aggregationTake =>
      obtain ⟨done, took, rfl⟩ := Option.map_eq_some_iff.mp taken
      exact ⟨returning.window.takesLater took, returning.aggregation.takesEarlier took,
        returning.ranking⟩
  | aggregationPut =>
      obtain ⟨done, gave, rfl⟩ := Option.map_eq_some_iff.mp taken
      refine ⟨?_, returning.aggregation.putsEarlier gave, returning.ranking⟩
      obtain ⟨_, _, _, _, same⟩ := put_cases gave
      simp only [same]
      exact returning.window.releasesLater
  | rankingTake =>
      obtain ⟨done, took, rfl⟩ := Option.map_eq_some_iff.mp taken
      refine ⟨returning.window, returning.aggregation.takesLater took, fun closed => ?_⟩
      obtain ⟨_, running, _⟩ := take_cases took
      rw [returning.ranking closed] at running
      contradiction
  | rankingPut =>
      simp only [Network.step] at taken
      split at taken
      · rename_i signal holds
        obtain ⟨output, put, rfl⟩ := Option.map_eq_some_iff.mp taken
        refine ⟨returning.window, returning.aggregation.releasesLater, fun closed => ?_⟩
        have isOpen := slot_open put
        cases signal with
        | item data =>
            simp only [slotLabel, Output.step, isOpen, Bool.false_eq_true, ↓reduceIte,
              Option.some.injEq] at put
            subst put
            contradiction
        | terminate =>
            simp [returned_release, Stage.ended, holds]
      · contradiction
  | output label =>
      simp only [Network.step] at taken
      split at taken
      · rename_i own
        obtain ⟨output, stepped, rfl⟩ := Option.map_eq_some_iff.mp taken
        refine ⟨returning.window, returning.aggregation, fun closed => ?_⟩
        simp only [(puts_own own stepped).2] at closed
        exact returning.ranking closed
      · contradiction

/-- Before TERMINATE has reached the slot, some task of a stopped pipeline can go on. -/
theorem Network.Faithful.goesOn {given : List (Signal Item)}
    (faithful : network.Faithful settings given) (positive : sizes.Positive)
    (stopped : network.pipeline.stopped = true)
    (isOpen : network.pipeline.output.slot.closed = false) :
    ∃ label, (network.step settings sizes label).isSome = true := by
  have stream := faithful.stream
  rw [isOpen, stopped] at stream
  have toCome : .terminate ∈ network.coming settings network.unput := by
    have last : (.terminate : Signal RankedData) ∈
        (network.pipeline.windows settings).map .item ++ ending RankedData true := by
      simp [ending]
    rw [← stream] at last
    simpa [ending] using last
  rcases holds_or_comes toCome with ⟨signal, holds⟩ | ⟨waiting, running, comes⟩
  · refine ⟨.rankingPut, ?_⟩
    cases signal <;> simp [Network.step, holds, slotLabel, Output.step, isOpen]
  cases queued : network.q3 with
  | cons signal q3 =>
      exact ⟨.rankingTake, by simp [Network.step, queued, take_some waiting running]⟩
  | nil =>
  rw [queued, List.nil_append] at comes
  rcases holds_or_comes comes with ⟨signal, holds⟩ | ⟨waiting, running, comes⟩
  · exact ⟨.aggregationPut, by simp [Network.step, queued, put_empty holds positive.third]⟩
  cases queued : network.q2 with
  | cons signal q2 =>
      exact ⟨.aggregationTake, by simp [Network.step, queued, take_some waiting running]⟩
  | nil =>
  rw [queued, List.nil_append] at comes
  rcases holds_or_comes comes with ⟨signal, holds⟩ | ⟨waiting, running, comes⟩
  · exact ⟨.windowPut, by simp [Network.step, queued, put_empty holds positive.second]⟩
  cases queued : network.q1 with
  | cons signal q1 =>
      exact ⟨.windowTake, by simp [Network.step, queued, take_some waiting running]⟩
  | nil =>
  rw [queued, List.nil_append] at comes
  obtain ⟨signal, unput, allUnput⟩ := List.exists_cons_of_ne_nil (List.ne_nil_of_mem comes)
  exact ⟨.tailPut, by simp [Network.step, queued, allUnput, positive.first]⟩

/-- Where no task can take a step, all of them have returned. -/
theorem Network.Faithful.allReturned {given : List (Signal Item)}
    (faithful : network.Faithful settings given) (returning : network.Returning)
    (sound : network.pipeline.output.Sound) (positive : sizes.Positive)
    (stopped : network.pipeline.stopped = true)
    (stuck : ∀ label, network.step settings sizes label = none) :
    network.window.returned = true ∧ network.aggregation.returned = true ∧
      network.ranking.returned = true ∧ network.pipeline.output.task = .returned := by
  have closed : network.pipeline.output.slot.closed = true := by
    cases closed : network.pipeline.output.slot.closed with
    | true => rfl
    | false =>
        obtain ⟨label, goes⟩ := faithful.goesOn positive stopped closed
        rw [stuck label] at goes
        contradiction
  have ranked := returning.ranking closed
  have counted := returning.aggregation (.inr (ended_of_returned ranked))
  refine ⟨returning.window (.inr (ended_of_returned counted)), counted, ranked, ?_⟩
  cases task : network.pipeline.output.task with
  | checking =>
      have goes := stuck (.output .check)
      simp [Network.step, OutputLabel.own, Output.step, task] at goes
  | waiting woken =>
      cases woken with
      | true =>
          have goes := stuck (.output .resume)
          simp [Network.step, OutputLabel.own, Output.step, task] at goes
      | false =>
          have isOpen := (sound.asleep task).2
          rw [closed] at isOpen
          contradiction
  | holding data =>
      have goes := stuck (.output (.write 0))
      simp [Network.step, OutputLabel.own, Output.step, task] at goes
  | returned => rfl

end Steps

section Runs

variable [Sub Instant] [LE Instant] [DecidableLE Instant] {settings : PipelineSettings Instant}
  {sizes : QueueSizes} {deployment after : Deployment Instant} {network : Network Instant}

/-- Until the supervisor starts another pipeline.  `fail` is the end of `stop`'s waiting time
as well: what is left of the tasks is cancelled then. -/
def SamePipeline (_ : Deployment Instant) : DeploymentLabel Instant → Prop
  | .bootstrap _ => False
  | _ => True

instance (deployment : Deployment Instant) (label : DeploymentLabel Instant) :
    Decidable (SamePipeline deployment label) :=
  match label with
  | .network _ => .isTrue trivial
  | .grow _ => .isTrue trivial
  | .bootstrap _ => .isFalse id
  | .fail => .isTrue trivial

def DeploymentLabel.isTask : DeploymentLabel Instant → Bool
  | .network _ => true
  | _ => false

theorem Deployment.returning_step {label : DeploymentLabel Instant}
    (returning : ∀ network, deployment.network = some network → network.Returning)
    (taken : deployment.step settings sizes label = some after) :
    ∀ network, after.network = some network → network.Returning := by
  cases label with
  | grow maxId =>
      simp only [Deployment.step] at taken
      split at taken
      · cases taken
        exact returning
      · contradiction
  | bootstrap logId =>
      simp only [Deployment.step] at taken
      split at taken
      · contradiction
      · cases taken
        rintro _ ⟨⟩
        exact .start settings logId _
  | network label =>
      simp only [Deployment.step, Option.bind_eq_some_iff] at taken
      obtain ⟨network, isNetwork, taken⟩ := taken
      split at taken
      · obtain ⟨next, stepped, rfl⟩ := Option.map_eq_some_iff.mp taken
        rintro _ ⟨⟩
        exact (returning network isNetwork).step stepped
      · contradiction
  | fail =>
      obtain ⟨network, isNetwork, rfl⟩ := Option.map_eq_some_iff.mp taken
      simp

theorem Deployment.returning_of_run {labels : List (DeploymentLabel Instant)} {maxId : Nat}
    (run : Run (Deployment.step settings sizes) Any (Deployment.start maxId) labels deployment) :
    ∀ network, deployment.network = some network → network.Returning := by
  refine run.invariant ?_ fun _ _ _ returning _ taken => Deployment.returning_step returning taken
  simp [Deployment.start]

/-- Run lemma: of a stopped pipeline every task step is one less to do, until it is cut off. -/
theorem Deployment.left_of_run {further : List (DeploymentLabel Instant)}
    (isNetwork : deployment.network = some network) (stopped : network.pipeline.stopped = true)
    (later : Run (Deployment.step settings sizes) SamePipeline deployment further after) :
    (after.network = none ∧ further.countP DeploymentLabel.isTask ≤ network.left) ∨
    ∃ last, after.network = some last ∧ last.pipeline.stopped = true ∧
      last.pipeline.windows settings = network.pipeline.windows settings ∧
      further.countP DeploymentLabel.isTask + last.left ≤ network.left := by
  induction later with
  | start => exact .inr ⟨network, isNetwork, stopped, rfl, by simp⟩
  | @snoc labels before after label past permitted taken ih =>
      rw [List.countP_append]
      cases label with
      | bootstrap logId => contradiction
      | grow maxId =>
          simp only [Deployment.step] at taken
          split at taken
          · cases taken
            exact ih
          · contradiction
      | fail =>
          obtain ⟨middle, isMiddle, rfl⟩ := Option.map_eq_some_iff.mp taken
          left
          refine ⟨rfl, ?_⟩
          simp only [List.countP_singleton, DeploymentLabel.isTask, Bool.false_eq_true, ↓reduceIte]
          rcases ih with ⟨_, left⟩ | ⟨_, _, _, _, left⟩ <;> omega
      | network label =>
          simp only [Deployment.step, Option.bind_eq_some_iff] at taken
          obtain ⟨middle, isMiddle, taken⟩ := taken
          rcases ih with ⟨cutOff, _⟩ | ⟨other, isOther, still, windows, left⟩
          · rw [isMiddle] at cutOff
            contradiction
          · rw [isMiddle, Option.some.injEq] at isOther
            subst isOther
            split at taken
            · obtain ⟨next, stepped, rfl⟩ := Option.map_eq_some_iff.mp taken
              obtain ⟨stillStopped, sameWindows, less⟩ := Network.step_left still stepped
              refine .inr ⟨next, rfl, stillStopped, sameWindows.trans windows, ?_⟩
              simp only [List.countP_singleton, DeploymentLabel.isTask, ↓reduceIte]
              omega
            · contradiction

/-- Every task has returned, and the last window of what the tail had put is published. -/
structure Network.Drained (settings : PipelineSettings Instant) (network : Network Instant) :
    Prop where
  window : network.window.returned = true
  aggregation : network.aggregation.returned = true
  ranking : network.ranking.returned = true
  output : network.pipeline.output.task = .returned
  newest : (network.pipeline.output.published.map Published.data).getLast? =
    (network.pipeline.windows settings).getLast?

/-- Nothing was lost on the way: the slot is closed, so all the windows went into it, and the
last of them was not overwritten. -/
theorem Network.Faithful.drained {given : List (Signal Item)}
    (faithful : network.Faithful settings given) (returning : network.Returning)
    (sound : network.pipeline.output.Sound) (positive : sizes.Positive)
    (stopped : network.pipeline.stopped = true)
    (stuck : ∀ label, network.step settings sizes label = none) : network.Drained settings := by
  obtain ⟨window, aggregation, ranking, output⟩ :=
    faithful.allReturned returning sound positive stopped stuck
  obtain ⟨closed, newest⟩ := sound.forward.newest output
  have stream := faithful.stream
  rw [closed, ending, if_pos rfl, List.singleton_append] at stream
  obtain ⟨allPut, -, -⟩ := end_of_stream stream
  rw [allPut] at newest
  exact ⟨window, aggregation, ranking, output, newest⟩

/-- A stopped pipeline drains.  Once `stop` has cancelled a tail that had not failed, the
tasks take no more steps than were left to do.  As long as none of them fails and `stop`'s
waiting time is not over, they can only stop once all have returned and the last window of
everything the tail had put was published. -/
theorem stopped_pipeline_drains {labels further : List (DeploymentLabel Instant)} {maxId : Nat}
    (positive : sizes.Positive)
    (run : Run (Deployment.step settings sizes) Any (Deployment.start maxId) labels deployment)
    (isNetwork : deployment.network = some network) (stopped : network.pipeline.stopped = true)
    (later : Run (Deployment.step settings sizes) SamePipeline deployment further after) :
    further.countP DeploymentLabel.isTask ≤ network.left ∧
      (after.network = none ∨ ∃ last, after.network = some last ∧
        last.pipeline.windows settings = network.pipeline.windows settings ∧
        ((∀ label, after.step settings sizes (.network label) = none) → last.Drained settings)) := by
  rcases Deployment.left_of_run isNetwork stopped later with
    ⟨cutOff, left⟩ | ⟨last, isLast, stillStopped, windows, left⟩
  · exact ⟨left, .inl cutOff⟩
  refine ⟨by omega, .inr ⟨last, isLast, windows, fun stuck => ?_⟩⟩
  have whole := run.append later.unrestricted
  obtain ⟨faithful, steps, machine⟩ := Deployment.faithful_of_run whole
  obtain ⟨given, isFaithful⟩ := faithful last isLast
  have sound := (Supervisor.sound_of_run machine).pipeline last.pipeline
    (by simp [Deployment.view, isLast])
  refine isFaithful.drained (Deployment.returning_of_run whole last isLast) sound.output positive
    stillStopped fun label => ?_
  -- a stopped pipeline reads nothing, so no task waits for the source
  cases label with
  | pass read now => simp [Network.step, stillStopped]
  | stop => simp [Network.step, stillStopped]
  | tailPut => simpa [Deployment.step, isLast, NetworkLabel.upTo] using stuck .tailPut
  | windowTake => simpa [Deployment.step, isLast, NetworkLabel.upTo] using stuck .windowTake
  | windowPut => simpa [Deployment.step, isLast, NetworkLabel.upTo] using stuck .windowPut
  | aggregationTake => simpa [Deployment.step, isLast, NetworkLabel.upTo] using stuck .aggregationTake
  | aggregationPut => simpa [Deployment.step, isLast, NetworkLabel.upTo] using stuck .aggregationPut
  | rankingTake => simpa [Deployment.step, isLast, NetworkLabel.upTo] using stuck .rankingTake
  | rankingPut => simpa [Deployment.step, isLast, NetworkLabel.upTo] using stuck .rankingPut
  | output label => simpa [Deployment.step, isLast, NetworkLabel.upTo] using stuck (.output label)

end Runs

/-! The pipeline of `oneByOne` is stopped with a window in WindowFilter's hands and nothing
published. -/

def stopEarly : List (DeploymentLabel Nat) := oneByOne.take 12 ++ [.network .stop]

/-- The window goes through before TERMINATE, one task at a time. -/
def drainEarly : List (DeploymentLabel Nat) :=
  [.windowPut, .tailPut, .windowTake, .aggregationTake, .aggregationPut, .rankingTake, .rankingPut,
    .output .resume, .output .check, .output (.write 7), .windowPut, .aggregationTake,
    .aggregationPut, .rankingTake, .rankingPut, .output .check].map .network

theorem stopEarly_runs : (stopEarly.foldlM (Deployment.step smallWindow ⟨1, 1, 1⟩)
    (Deployment.start 0)).isSome = true := by
  decide +kernel

theorem stopEarly_network : (Option.get _ stopEarly_runs).network.isSome = true := by
  decide +kernel

theorem drainEarly_runs : (drainEarly.foldlM
    (guarded (Deployment.step smallWindow ⟨1, 1, 1⟩) SamePipeline)
    (Option.get _ stopEarly_runs)).isSome = true := by
  decide +kernel

theorem stopped_pipeline_drains_early : ∃ last, (Option.get _ drainEarly_runs).network = some last ∧
    last.pipeline.windows smallWindow =
      (Option.get _ stopEarly_network).pipeline.windows smallWindow ∧ last.Drained smallWindow := by
  have drains := (stopped_pipeline_drains ⟨by decide, by decide, by decide⟩
    (.of_foldlM (Option.some_get stopEarly_runs).symm) (Option.some_get stopEarly_network).symm
    (by decide +kernel) (.of_guarded (Option.some_get drainEarly_runs).symm)).2
  have running : (Option.get _ drainEarly_runs).network ≠ none :=
    fun cutOff => absurd (congrArg Option.isSome cutOff) (by decide +kernel)
  obtain ⟨last, isLast, windows, drained⟩ := drains.resolve_left running
  have nothingLeft : (Option.get _ drainEarly_runs).network.map
      (fun network => (network.left, network.pipeline.stopped)) = some (0, true) := by
    decide +kernel
  rw [isLast, Option.map_some, Option.some.injEq, Prod.mk.injEq] at nothingLeft
  refine ⟨last, isLast, windows, drained fun label => ?_⟩
  simp only [Deployment.step, isLast, Option.bind_some]
  split
  · cases stepped : last.step smallWindow ⟨1, 1, 1⟩ label with
    | none => rfl
    | some next =>
        have less := (Network.step_left nothingLeft.2 stepped).2.2
        omega
  · rfl

end SelfCheckout.Analytics
