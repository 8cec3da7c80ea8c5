import SelfCheckout.Analytics.Filters

namespace SelfCheckout.Analytics

open SelfCheckout.Data

/-! # LatestSlot and OutputFilter

RankingFilter puts windows into a slot that holds one, OutputFilter takes what it finds there
and publishes it.  The two run as tasks of one loop; the steps here are finer than the
switches between them, so that every interleaving of the tasks is one of these.
-/

structure LatestSlot where
  item : Option RankedData
  closed : Bool
  ready : Bool
deriving DecidableEq, Repr

/-- Where OutputFilter's task stands in `run` and in the `get` it calls. -/
inductive OutputTask where
  | checking
  | waiting (woken : Bool)
  | holding (data : RankedData)
  | returned
deriving DecidableEq, Repr

/-- A window with the time it was published at. -/
structure Published where
  data : RankedData
  computedAt : Time
deriving DecidableEq, Repr

/-- The slot and OutputFilter, with what was put and what was published so far. -/
structure Output where
  slot : LatestSlot
  task : OutputTask
  lastWrittenEnd : Nat
  puts : List RankedData
  published : List Published
deriving DecidableEq, Repr

def Output.start : Output :=
  { slot := { item := none, closed := false, ready := false }
    task := .checking, lastWrittenEnd := 0, puts := [], published := [] }

inductive OutputLabel where
  | put (data : RankedData)
  | terminate
  | check
  | resume
  | write (now : Time)
deriving DecidableEq, Repr

/-- `_ready.set()`, with the waiter it wakes. -/
def OutputTask.wake : OutputTask → OutputTask
  | .waiting _ => .waiting true
  | task => task

/-- The loop condition of `get`, and what follows it up to the next switch or the return. -/
def Output.check (output : Output) : Output :=
  if output.slot.item = none ∧ output.slot.closed = false then
    { output with slot := { output.slot with ready := false }, task := .waiting false }
  else
    { output with
      slot := { output.slot with item := none }
      task :=
        match output.slot.item with
        | some data => .holding data
        | none => .returned }

/-- The window OutputFilter publishes of what it took; `none` where it is not newer. -/
def Output.publishes (output : Output) : OutputLabel → Option Published
  | .write now =>
      match output.task with
      | .holding data => if data.windowEnd ≤ output.lastWrittenEnd then none else some ⟨data, now⟩
      | _ => none
  | _ => none

/-- One step; after TERMINATE RankingFilter puts nothing. -/
def Output.step (output : Output) (label : OutputLabel) : Option Output :=
  match label with
  | .put data =>
      if output.slot.closed then none
      else
        some { output with
          slot := { output.slot with item := some data, ready := true }
          task := output.task.wake, puts := output.puts ++ [data] }
  | .terminate =>
      if output.slot.closed then none
      else
        some { output with
          slot := { output.slot with closed := true, ready := true }, task := output.task.wake }
  | .check => if output.task = .checking then some output.check else none
  | .resume => if output.task = .waiting true then some { output with task := .checking } else none
  | .write now =>
      match output.task with
      | .holding data =>
          some
            (match output.publishes (.write now) with
            | none => { output with task := .checking }
            | some published =>
                { output with
                  task := .checking, lastWrittenEnd := data.windowEnd
                  published := output.published ++ [published] })
      | _ => none

/-- RankingFilter's windows end one after another, the first at a positive id. -/
def Ascending (output : Output) : OutputLabel → Prop
  | .put data => 0 < data.windowEnd ∧ ∀ earlier ∈ output.puts, earlier.windowEnd < data.windowEnd
  | _ => True

instance (output : Output) (label : OutputLabel) : Decidable (Ascending output label) :=
  match label with
  | .put _ => inferInstanceAs (Decidable (_ ∧ _))
  | .terminate => .isTrue trivial
  | .check => .isTrue trivial
  | .resume => .isTrue trivial
  | .write _ => .isTrue trivial

def OutputTask.held : OutputTask → Option RankedData
  | .holding data => some data
  | _ => none

/-- What was published, what OutputFilter holds, and what lies in the slot. -/
def Output.chain (output : Output) : List RankedData :=
  output.published.map Published.data ++ output.task.held.toList ++ output.slot.item.toList

/-- The chain runs through the puts in their order and ends with the last of them. -/
structure Output.Sound (output : Output) : Prop where
  ascending : (output.puts.map RankedData.windowEnd).Pairwise (· < ·)
  positive : ∀ data ∈ output.puts, 0 < data.windowEnd
  chain : output.chain.Sublist output.puts
  newest : output.chain.getLast? = output.puts.getLast?
  written : output.lastWrittenEnd =
    ((output.published.map Published.data).getLast?.map RankedData.windowEnd).getD 0
  asleep : output.task = .waiting false → output.slot.item = none ∧ output.slot.closed = false
  done : output.task = .returned → output.slot.item = none ∧ output.slot.closed = true

theorem Output.Sound.start : Output.start.Sound where
  ascending := List.Pairwise.nil
  positive := by simp [Output.start]
  chain := List.Sublist.refl _
  newest := rfl
  written := rfl
  asleep := by simp [Output.start]
  done := by simp [Output.start]

@[simp] theorem OutputTask.held_wake (task : OutputTask) : task.wake.held = task.held := by
  cases task <;> rfl

theorem OutputTask.wake_asleep (task : OutputTask) : task.wake ≠ .waiting false := by
  cases task <;> simp [OutputTask.wake]

theorem OutputTask.of_wake_returned {task : OutputTask} (returned : task.wake = .returned) :
    task = .returned := by
  cases task <;> simp [OutputTask.wake] at returned ⊢

variable {output after : Output}

/-- What it takes is newer than what it published. -/
theorem Output.Sound.newer {data : RankedData} (sound : output.Sound)
    (holds : output.task = .holding data) : output.lastWrittenEnd < data.windowEnd := by
  have isChain : output.chain =
      output.published.map Published.data ++ [data] ++ output.slot.item.toList := by
    rw [Output.chain, holds]
    rfl
  have inPuts : data ∈ output.puts := by
    apply sound.chain.subset
    rw [isChain]
    simp
  have ascending : (output.chain.map RankedData.windowEnd).Pairwise (· < ·) :=
    sound.ascending.sublist (sound.chain.map _)
  rw [sound.written]
  cases last : (output.published.map Published.data).getLast? with
  | none => exact sound.positive data inPuts
  | some earlier =>
      obtain ⟨before, isLast⟩ := List.getLast?_eq_some_iff.mp last
      rw [isChain, isLast, List.map_append, List.map_append, List.map_append,
        List.pairwise_append] at ascending
      have pairs := ascending.1
      rw [List.pairwise_append] at pairs
      exact pairs.2.2 _ (by simp) _ (by simp)

theorem Output.Sound.put {data : RankedData} (sound : output.Sound)
    (allowed : Ascending output (.put data)) (taken : output.step (.put data) = some after) :
    after.Sound := by
  simp only [Output.step] at taken
  split at taken
  · contradiction
  rename_i isOpen
  cases taken
  obtain ⟨positive, newer⟩ := allowed
  have settled : (output.published.map Published.data ++ output.task.held.toList).Sublist output.puts :=
    (List.sublist_append_left _ _).trans sound.chain
  constructor
  · simp only [List.map_append, List.map_cons, List.map_nil]
    rw [List.pairwise_append]
    refine ⟨sound.ascending, by simp, fun earlier isIn last isLast => ?_⟩
    obtain ⟨put, isPut, rfl⟩ := List.mem_map.mp isIn
    rw [List.mem_singleton.mp isLast]
    exact newer put isPut
  · intro other isIn
    rcases List.mem_append.mp isIn with earlier | isNew
    · exact sound.positive other earlier
    · rwa [List.mem_singleton.mp isNew]
  · simp only [Output.chain, OutputTask.held_wake]
    exact settled.append (List.Sublist.refl _)
  · simp [Output.chain]
  · exact sound.written
  · exact fun asleep => absurd asleep (OutputTask.wake_asleep _)
  · intro returned
    have before := OutputTask.of_wake_returned returned
    exact absurd (sound.done before).2 (by simpa using isOpen)

theorem Output.Sound.terminate (sound : output.Sound)
    (taken : output.step .terminate = some after) : after.Sound := by
  simp only [Output.step] at taken
  split at taken
  · contradiction
  rename_i isOpen
  cases taken
  constructor
  · exact sound.ascending
  · exact sound.positive
  · simpa [Output.chain] using sound.chain
  · simpa [Output.chain] using sound.newest
  · exact sound.written
  · exact fun asleep => absurd asleep (OutputTask.wake_asleep _)
  · intro returned
    have before := OutputTask.of_wake_returned returned
    exact absurd (sound.done before).2 (by simpa using isOpen)

/-- Taking moves the window from the slot into the filter's hands. -/
theorem Output.Sound.check (sound : output.Sound) (atCheck : output.task = .checking) :
    output.check.Sound := by
  unfold Output.check
  split
  · rename_i nothing
    constructor
    · exact sound.ascending
    · exact sound.positive
    · simpa [Output.chain, atCheck, OutputTask.held] using sound.chain
    · simpa [Output.chain, atCheck, OutputTask.held] using sound.newest
    · exact sound.written
    · exact fun _ => nothing
    · simp
  · rename_i something
    have chain := sound.chain
    have newest := sound.newest
    cases item : output.slot.item with
    | none =>
        have closed : output.slot.closed = true := by simpa [item] using something
        simp only [Output.chain, atCheck, item, OutputTask.held] at chain newest
        exact
          { ascending := sound.ascending, positive := sound.positive
            chain := by simpa [Output.chain, OutputTask.held] using chain
            newest := by simpa [Output.chain, OutputTask.held] using newest
            written := sound.written, asleep := by simp, done := fun _ => ⟨rfl, closed⟩ }
    | some data =>
        simp only [Output.chain, atCheck, item, OutputTask.held] at chain newest
        exact
          { ascending := sound.ascending, positive := sound.positive
            chain := by simpa [Output.chain, OutputTask.held] using chain
            newest := by simpa [Output.chain, OutputTask.held] using newest
            written := sound.written, asleep := by simp, done := by simp }

theorem Output.Sound.resume (sound : output.Sound)
    (taken : output.step .resume = some after) : after.Sound := by
  simp only [Output.step] at taken
  split at taken
  · rename_i woken
    cases taken
    exact
      { ascending := sound.ascending, positive := sound.positive
        chain := by simpa [Output.chain, woken, OutputTask.held] using sound.chain
        newest := by simpa [Output.chain, woken, OutputTask.held] using sound.newest
        written := sound.written, asleep := by simp, done := by simp }
  · contradiction

/-- What it holds is newer, so it is published. -/
theorem Output.Sound.write {now : Time} (sound : output.Sound)
    (taken : output.step (.write now) = some after) :
    ∃ data, output.task = .holding data ∧ output.publishes (.write now) = some ⟨data, now⟩ ∧
      after.published = output.published ++ [⟨data, now⟩] ∧ after.puts = output.puts ∧
      after.Sound := by
  cases task : output.task with
  | checking => simp [Output.step, task] at taken
  | waiting woken => simp [Output.step, task] at taken
  | returned => simp [Output.step, task] at taken
  | holding data =>
      have isNewer : ¬ data.windowEnd ≤ output.lastWrittenEnd := not_le.mpr (sound.newer task)
      have publishes : output.publishes (.write now) = some ⟨data, now⟩ := by
        simp [Output.publishes, task, isNewer]
      simp only [Output.step, task, publishes, Option.some.injEq] at taken
      refine ⟨data, rfl, publishes, by rw [← taken], by rw [← taken], ?_⟩
      rw [← taken]
      have chain := sound.chain
      have newest := sound.newest
      simp only [Output.chain, task, OutputTask.held] at chain newest
      exact
        { ascending := sound.ascending, positive := sound.positive
          chain := by simpa [Output.chain, OutputTask.held] using chain
          newest := by simpa [Output.chain, OutputTask.held] using newest
          written := by simp, asleep := by simp, done := by simp }

theorem Output.Sound.step {label : OutputLabel} (sound : output.Sound)
    (allowed : Ascending output label) (taken : output.step label = some after) : after.Sound := by
  cases label with
  | put data => exact sound.put allowed taken
  | terminate => exact sound.terminate taken
  | check =>
      simp only [Output.step] at taken
      split at taken
      · rename_i atCheck
        cases taken
        exact sound.check atCheck
      · contradiction
  | resume => exact sound.resume taken
  | write now =>
      obtain ⟨_, _, _, _, _, sound⟩ := sound.write taken
      exact sound

/-- The labels by which nothing is put and nothing published. -/
def OutputLabel.Quiet : OutputLabel → Prop
  | .put _ => False
  | .write _ => False
  | _ => True

theorem Output.step_quiet {label : OutputLabel} (quiet : label.Quiet)
    (taken : output.step label = some after) :
    after.puts = output.puts ∧ after.published = output.published ∧
      output.publishes label = none ∧ Ascending output label := by
  cases label with
  | put data => contradiction
  | write now => contradiction
  | terminate =>
      simp only [Output.step] at taken
      split at taken
      · contradiction
      · cases taken
        exact ⟨rfl, rfl, rfl, trivial⟩
  | check =>
      simp only [Output.step, Output.check] at taken
      split at taken
      · split at taken <;> cases taken <;> exact ⟨rfl, rfl, rfl, trivial⟩
      · contradiction
  | resume =>
      simp only [Output.step] at taken
      split at taken
      · cases taken
        exact ⟨rfl, rfl, rfl, trivial⟩
      · contradiction

/-- Once it has returned, nothing is on the way. -/
theorem Output.Sound.returned (sound : output.Sound) (isReturned : output.task = .returned) :
    (output.published.map Published.data).getLast? = output.puts.getLast? := by
  have newest := sound.newest
  simpa [Output.chain, isReturned, OutputTask.held, (sound.done isReturned).1] using newest

/-- What is published runs through the puts, in their order. -/
theorem Output.Sound.published (sound : output.Sound) :
    (output.published.map Published.data).Sublist output.puts := by
  have whole := sound.chain
  rw [Output.chain, List.append_assoc] at whole
  exact (List.sublist_append_left _ _).trans whole

/-- A step OutputFilter takes by itself. -/
def Own (_ : Output) : OutputLabel → Prop
  | .put _ => False
  | .terminate => False
  | _ => True

/-- OutputFilter, left to itself from here, returns; nothing is put meanwhile. -/
def Output.Drains (output : Output) : Prop :=
  ∃ labels final, Run Output.step Own output labels final ∧ final.task = .returned ∧
    final.puts = output.puts

theorem Output.Drains.before {label : OutputLabel} (own : Own output label)
    (taken : output.step label = some after) (samePuts : after.puts = output.puts)
    (drains : after.Drains) : output.Drains := by
  obtain ⟨labels, final, run, returned, puts⟩ := drains
  have first : Run Output.step Own output ([] ++ [label]) after := .snoc .start own taken
  exact ⟨_, final, first.append run, returned, puts.trans samePuts⟩

theorem Output.drains_of_returned (isReturned : output.task = .returned) : output.Drains :=
  ⟨[], output, .start, isReturned, rfl⟩

/-- At the loop condition with nothing to take, it returns. -/
theorem Output.drains_empty (atCheck : output.task = .checking) (nothing : output.slot.item = none)
    (closed : output.slot.closed = true) : output.Drains := by
  have taken : output.step .check = some output.check := if_pos atCheck
  refine .before (show Own output .check from trivial) taken ?_ (drains_of_returned ?_)
  · simp [Output.check, nothing, closed]
  · simp [Output.check, nothing, closed]

theorem Output.Sound.drains_holding {data : RankedData} (sound : output.Sound)
    (holds : output.task = .holding data)
    (rest : ∀ after : Output, after.Sound → after.task = .checking →
      after.slot = output.slot → after.Drains) : output.Drains := by
  have publishes : output.publishes (.write 0) = some ⟨data, 0⟩ := by
    simp [Output.publishes, holds, not_le.mpr (sound.newer holds)]
  obtain ⟨after, taken, atCheck, sameSlot⟩ : ∃ after, output.step (.write 0) = some after ∧
      after.task = .checking ∧ after.slot = output.slot := by
    simp [Output.step, holds, publishes]
  obtain ⟨_, _, _, _, samePuts, next⟩ := sound.write taken
  exact .before (show Own output (.write 0) from trivial) taken samePuts (rest after next atCheck sameSlot)

theorem Output.Sound.drains_checking (sound : output.Sound) (atCheck : output.task = .checking)
    (closed : output.slot.closed = true) : output.Drains := by
  cases item : output.slot.item with
  | none => exact drains_empty atCheck item closed
  | some data =>
      have taken : output.step .check = some output.check := if_pos atCheck
      have checked : output.check =
          { output with slot := { output.slot with item := none }, task := .holding data } := by
        simp [Output.check, item]
      refine .before (show Own output .check from trivial) taken (by rw [checked])
        ((sound.check atCheck).drains_holding (by rw [checked]) ?_)
      intro after next atEnd sameSlot
      exact drains_empty atEnd (by rw [sameSlot, checked]) (by rw [sameSlot, checked]; exact closed)

/-- No wakeup is lost: after TERMINATE the filter finds its way out, wherever it stands. -/
theorem Output.Sound.drains (sound : output.Sound) (closed : output.slot.closed = true) :
    output.Drains := by
  cases task : output.task with
  | checking => exact sound.drains_checking task closed
  | waiting woken =>
      cases woken with
      | false => exact absurd (sound.asleep task).2 (by simp [closed])
      | true =>
          have taken : output.step .resume = some { output with task := .checking } := if_pos task
          exact .before (show Own output .resume from trivial) taken rfl
            ((sound.resume taken).drains_checking rfl closed)
  | holding data =>
      refine sound.drains_holding task (fun after next atCheck sameSlot => ?_)
      exact next.drains_checking atCheck (by rw [sameSlot]; exact closed)
  | returned => exact drains_of_returned task

end SelfCheckout.Analytics
