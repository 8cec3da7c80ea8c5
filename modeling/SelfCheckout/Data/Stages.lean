import Mathlib.Data.List.Basic

namespace SelfCheckout.Data

/-! # Stages between queues

A stage is a task that takes a signal from a queue, works on it, and puts what it made
of it, if anything, into the next queue.  It ends after it has passed TERMINATE on.
Nothing of what a stage did is recorded: `rest` is what it has still to put, for the
signals that are still to come, and taking and putting keep it.
-/

universe u v w

/-- What travels on a queue. -/
inductive Signal (Item : Type u) where
  | item (item : Item)
  | terminate
deriving DecidableEq, Repr

/-- A stage: its state, the signal it is putting, and whether it has returned. -/
structure Stage (State : Type u) (Out : Type v) where
  state : State
  holding : Option (Signal Out)
  returned : Bool

variable {State : Type u} {In : Type v} {Out : Type w}

def Stage.start (state : State) : Stage State Out :=
  { state, holding := none, returned := false }

/-- The work on a signal. -/
def Stage.receive (work : State → In → State × Option Out) (stage : Stage State Out) :
    Signal In → Stage State Out
  | .item item =>
      { stage with
        state := (work stage.state item).1
        holding := (work stage.state item).2.map .item }
  | .terminate => { stage with holding := some .terminate }

/-- What is left of a stage once the signal it holds is put. -/
def Stage.release (stage : Stage State Out) : Stage State Out :=
  { stage with
    holding := none
    returned :=
      match stage.holding with
      | some .terminate => true
      | _ => stage.returned }

/-- Take the first signal of a queue; waits while there is none. -/
def Stage.take (work : State → In → State × Option Out) (stage : Stage State Out)
    (queue : List (Signal In)) : Option (Stage State Out × List (Signal In)) :=
  match stage.holding, stage.returned, queue with
  | none, false, signal :: queue => some (stage.receive work signal, queue)
  | _, _, _ => none

/-- Put what is held into a queue; waits while the queue is full. -/
def Stage.put (stage : Stage State Out) (capacity : Nat) (queue : List (Signal Out)) :
    Option (Stage State Out × List (Signal Out)) :=
  match stage.holding with
  | some signal =>
      if queue.length < capacity then some (stage.release, queue ++ [signal]) else none
  | none => none

/-- What a stage puts for these signals; what follows TERMINATE is not read. -/
def outputs (work : State → In → State × Option Out) (state : State) :
    List (Signal In) → List (Signal Out)
  | [] => []
  | .item item :: signals =>
      (work state item).2.toList.map .item ++ outputs work (work state item).1 signals
  | .terminate :: _ => [.terminate]

/-- The stage takes nothing more. -/
def Stage.ended (stage : Stage State Out) : Bool :=
  match stage.holding with
  | some .terminate => true
  | _ => stage.returned

/-- What a stage will still put, if these signals come. -/
def Stage.rest (work : State → In → State × Option Out) (stage : Stage State Out)
    (signals : List (Signal In)) : List (Signal Out) :=
  stage.holding.toList ++ if stage.ended then [] else outputs work stage.state signals

variable {work : State → In → State × Option Out} {stage after : Stage State Out}

@[simp] theorem rest_start (state : State) (signals : List (Signal In)) :
    (Stage.start state : Stage State Out).rest work signals = outputs work state signals := rfl

theorem rest_receive (waiting : stage.holding = none) (running : stage.returned = false)
    (signal : Signal In) (signals : List (Signal In)) :
    (stage.receive work signal).rest work signals = stage.rest work (signal :: signals) := by
  obtain ⟨state, holding, returned⟩ := stage
  cases waiting
  cases running
  cases signal with
  | item item =>
      cases made : (work state item).2 with
      | none => simp [Stage.receive, Stage.rest, Stage.ended, outputs, made]
      | some out => simp [Stage.receive, Stage.rest, Stage.ended, outputs, made]
  | terminate => rfl

/-- Putting the signal it holds is the first thing a stage does next. -/
theorem rest_release {signal : Signal Out} (holds : stage.holding = some signal)
    (signals : List (Signal In)) :
    stage.rest work signals = signal :: stage.release.rest work signals := by
  obtain ⟨state, holding, returned⟩ := stage
  cases holds
  cases signal <;> rfl

theorem take_cases {queue left : List (Signal In)}
    (taken : stage.take work queue = some (after, left)) :
    stage.holding = none ∧ stage.returned = false ∧
      ∃ signal, queue = signal :: left ∧ after = stage.receive work signal := by
  unfold Stage.take at taken
  split at taken
  · rename_i waiting running
    cases taken
    exact ⟨waiting, running, _, rfl, rfl⟩
  · contradiction

theorem put_cases {capacity : Nat} {queue longer : List (Signal Out)}
    (given : stage.put capacity queue = some (after, longer)) :
    ∃ signal, stage.holding = some signal ∧ queue.length < capacity ∧
      longer = queue ++ [signal] ∧ after = stage.release := by
  unfold Stage.put at given
  split at given
  · rename_i signal holds
    split at given
    · rename_i room
      cases given
      exact ⟨signal, holds, room, rfl, rfl⟩
    · contradiction
  · contradiction

/-- Taking a signal changes nothing of what is to come. -/
theorem rest_take {queue left : List (Signal In)}
    (taken : stage.take work queue = some (after, left)) (more : List (Signal In)) :
    after.rest work (left ++ more) = stage.rest work (queue ++ more) := by
  obtain ⟨waiting, running, signal, rfl, rfl⟩ := take_cases taken
  exact rest_receive waiting running signal (left ++ more)

/-- Putting a signal only moves it into the queue. -/
theorem rest_put {capacity : Nat} {queue longer : List (Signal Out)}
    (given : stage.put capacity queue = some (after, longer)) (signals : List (Signal In)) :
    longer ++ after.rest work signals = queue ++ stage.rest work signals := by
  obtain ⟨signal, holds, _, rfl, rfl⟩ := put_cases given
  rw [rest_release holds, List.append_assoc]
  rfl

theorem outputs_items (state : State) (items : List In) :
    outputs work state (items.map .item) =
      (items.foldl (fun done item =>
        ((work done.1 item).1, done.2 ++ (work done.1 item).2.toList)) (state, [])).2.map .item := by
  have general : ∀ made : List Out, made.map .item ++ outputs work state (items.map .item) =
      (items.foldl (fun done item =>
        ((work done.1 item).1, done.2 ++ (work done.1 item).2.toList)) (state, made)).2.map
          .item := by
    induction items generalizing state with
    | nil => simp [outputs]
    | cons item items ih =>
        intro made
        simp only [List.map_cons, outputs, List.foldl_cons]
        rw [← ih, List.map_append, List.append_assoc]
  simpa using general []

theorem outputs_items_terminate (state : State) (items : List In) (signals : List (Signal In)) :
    outputs work state (items.map .item ++ .terminate :: signals) =
      outputs work state (items.map .item) ++ [.terminate] := by
  induction items generalizing state with
  | nil => rfl
  | cons item items ih =>
      simp only [List.map_cons, List.cons_append, outputs, ih, List.append_assoc]

/-- The end of a stream: TERMINATE, or nothing yet. -/
def ending (Item : Type u) (ended : Bool) : List (Signal Item) :=
  if ended then [.terminate] else []

section Streams

variable {Item : Type u} {early all : List Item} {rest : List (Signal Item)} {ended : Bool}

theorem items_of_stream (same : early.map .item ++ rest = all.map .item ++ ending Item ended) :
    early <+: all := by
  induction early generalizing all with
  | nil => exact List.nil_prefix
  | cons item early ih =>
      cases all with
      | nil => cases ended <;> simp [ending] at same
      | cons other all =>
          simp only [List.map_cons, List.cons_append, List.cons.injEq, Signal.item.injEq] at same
          obtain ⟨rfl, same⟩ := same
          exact (List.prefix_cons_inj item).mpr (ih same)

/-- After these items comes the next one of the stream. -/
theorem next_of_stream {item : Item}
    (same : early.map .item ++ .item item :: rest = all.map .item ++ ending Item ended) :
    all[early.length]? = some item := by
  induction early generalizing all with
  | nil =>
      cases all with
      | nil => cases ended <;> simp [ending] at same
      | cons other all =>
          simp only [List.map_nil, List.nil_append, List.map_cons, List.cons_append,
            List.cons.injEq, Signal.item.injEq] at same
          simp [same.1]
  | cons first early ih =>
      cases all with
      | nil => cases ended <;> simp [ending] at same
      | cons other all =>
          simp only [List.map_cons, List.cons_append, List.cons.injEq] at same
          exact ih same.2

/-- TERMINATE comes once, after all the items. -/
theorem end_of_stream
    (same : early.map .item ++ .terminate :: rest = all.map .item ++ ending Item ended) :
    early = all ∧ ended = true ∧ rest = [] := by
  induction early generalizing all with
  | nil =>
      cases all with
      | nil => cases ended <;> simp [ending] at same ⊢; exact same
      | cons other all => simp at same
  | cons first early ih =>
      cases all with
      | nil => cases ended <;> simp [ending] at same
      | cons other all =>
          simp only [List.map_cons, List.cons_append, List.cons.injEq, Signal.item.injEq] at same
          obtain ⟨rfl, same⟩ := same
          obtain ⟨rfl, ends⟩ := ih same
          exact ⟨rfl, ends⟩

end Streams

theorem terminate_of_outputs {state : State} {signals : List (Signal In)}
    (ends : .terminate ∈ outputs work state signals) : .terminate ∈ signals := by
  induction signals generalizing state with
  | nil => contradiction
  | cons signal signals ih =>
      cases signal with
      | item item =>
          simp only [outputs, List.mem_append, List.mem_map, reduceCtorEq, and_false, exists_false,
            false_or] at ends
          exact List.mem_cons_of_mem _ (ih ends)
      | terminate => exact List.mem_cons_self

/-- A stage that will still put TERMINATE holds a signal, or one is to come. -/
theorem holds_or_comes {signals : List (Signal In)} (ends : .terminate ∈ stage.rest work signals) :
    (∃ signal, stage.holding = some signal) ∨
      stage.holding = none ∧ stage.returned = false ∧ .terminate ∈ signals := by
  cases held : stage.holding with
  | some signal => exact .inl ⟨signal, rfl⟩
  | none =>
      refine .inr ⟨rfl, ?_⟩
      simp only [Stage.rest, Stage.ended, held, Option.toList_none, List.nil_append] at ends
      split at ends
      · contradiction
      · rename_i running
        exact ⟨by simpa using running, terminate_of_outputs ends⟩

theorem take_some {signal : Signal In} {queue : List (Signal In)} (waiting : stage.holding = none)
    (running : stage.returned = false) :
    stage.take work (signal :: queue) = some (stage.receive work signal, queue) := by
  simp only [Stage.take, waiting, running]

theorem put_some {signal : Signal Out} {capacity : Nat} {queue : List (Signal Out)}
    (holds : stage.holding = some signal) (room : queue.length < capacity) :
    stage.put capacity queue = some (stage.release, queue ++ [signal]) := by
  simp only [Stage.put, holds, if_pos room]

theorem put_empty {signal : Signal Out} {capacity : Nat} (holds : stage.holding = some signal)
    (room : 0 < capacity) : stage.put capacity [] = some (stage.release, [signal]) :=
  put_some holds room

/-- One while a signal is held. -/
def Stage.load (stage : Stage State Out) : Nat := stage.holding.toList.length

theorem load_le (stage : Stage State Out) : stage.load ≤ 1 := by
  cases held : stage.holding <;> simp [Stage.load, held]

theorem load_release (stage : Stage State Out) : stage.release.load = 0 := rfl

theorem load_of_holding {signal : Signal Out} (holds : stage.holding = some signal) :
    stage.load = 1 := by
  simp [Stage.load, holds]

theorem take_load {queue left : List (Signal In)}
    (taken : stage.take work queue = some (after, left)) :
    queue.length = left.length + 1 ∧ stage.load = 0 ∧ after.load ≤ 1 := by
  obtain ⟨waiting, _, signal, rfl, _⟩ := take_cases taken
  exact ⟨rfl, by simp [Stage.load, waiting], load_le after⟩

theorem put_load {capacity : Nat} {queue longer : List (Signal Out)}
    (given : stage.put capacity queue = some (after, longer)) :
    longer.length = queue.length + 1 ∧ stage.load = 1 ∧ after.load = 0 := by
  obtain ⟨signal, holds, _, rfl, rfl⟩ := put_cases given
  exact ⟨by simp, load_of_holding holds, load_release stage⟩

section Chains

universe x y

variable {Next : Type x} {Later : Type y} {earlier : Stage State Out} {later : Stage Later Next}
  {queue : List (Signal Out)}

/-- A stage has returned once its TERMINATE is on the queue or beyond it. -/
def Chained (earlier : Stage State Out) (queue : List (Signal Out)) (later : Stage Later Next) :
    Prop :=
  .terminate ∈ queue ∨ later.ended = true → earlier.returned = true

theorem Chained.start (state : State) (other : Later) :
    Chained (.start state : Stage State Out) [] (.start other : Stage Later Next) := by
  rintro (listed | ended)
  · contradiction
  · contradiction

theorem ended_of_returned (returned : stage.returned = true) : stage.ended = true := by
  unfold Stage.ended
  split
  · rfl
  · exact returned

theorem ended_release (stage : Stage State Out) : stage.release.ended = stage.ended := by
  obtain ⟨state, holding, returned⟩ := stage
  rcases holding with _ | (item | _) <;> rfl

theorem returned_release (stage : Stage State Out) : stage.release.returned = stage.ended := by
  obtain ⟨state, holding, returned⟩ := stage
  rcases holding with _ | (item | _) <;> rfl

theorem Chained.takesEarlier {work : State → In → State × Option Out} {signals left : List (Signal In)}
    {after : Stage State Out} (chained : Chained earlier queue later)
    (taken : earlier.take work signals = some (after, left)) : Chained after queue later := by
  obtain ⟨_, _, signal, _, rfl⟩ := take_cases taken
  intro passed
  have returned := chained passed
  cases signal <;> exact returned

theorem Chained.putsEarlier {capacity : Nat} {longer : List (Signal Out)} {after : Stage State Out}
    (chained : Chained earlier queue later)
    (given : earlier.put capacity queue = some (after, longer)) : Chained after longer later := by
  obtain ⟨signal, holds, _, rfl, rfl⟩ := put_cases given
  rw [Chained, returned_release]
  rintro (listed | ended)
  · rcases List.mem_append.mp listed with before | here
    · exact ended_of_returned (chained (.inl before))
    · cases List.mem_singleton.mp here
      simp [Stage.ended, holds]
  · exact ended_of_returned (chained (.inr ended))

theorem Chained.takesLater {work : Later → Out → Later × Option Next} {left : List (Signal Out)}
    {after : Stage Later Next} (chained : Chained earlier queue later)
    (taken : later.take work queue = some (after, left)) : Chained earlier left after := by
  obtain ⟨waiting, running, signal, rfl, rfl⟩ := take_cases taken
  rintro (listed | ended)
  · exact chained (.inl (List.mem_cons_of_mem _ listed))
  · cases signal with
    | item item =>
        have goesOn : (later.receive work (.item item)).ended = false := by
          cases made : (work later.state item).2 <;>
            simp [Stage.ended, Stage.receive, made, running]
        rw [goesOn] at ended
        contradiction
    | terminate => exact chained (.inl List.mem_cons_self)

theorem Chained.releasesLater (chained : Chained earlier queue later) :
    Chained earlier queue later.release := by
  rw [Chained, ended_release]
  exact chained

end Chains

end SelfCheckout.Data
