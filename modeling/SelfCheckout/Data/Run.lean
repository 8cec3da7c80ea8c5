import Mathlib.Data.List.Induction

namespace SelfCheckout.Data

/-! # Runs of a labelled machine

A machine is a partial step function: `step state label` is undefined where the
step is not enabled.  A run is judged by the labels it took, so its states are
determined by where it started, and a property of a run's past is a property of
the states at the prefixes of its labels.
-/

universe u v

variable {State : Type u} {Label : Type v}

/-- `Run step allowed start labels state`: taking `labels` from `start` ends in
`state`, and every step was `allowed` in the state it was taken in. -/
inductive Run (step : State → Label → Option State) (allowed : State → Label → Prop)
    (start : State) : List Label → State → Prop where
  | start : Run step allowed start [] start
  | snoc {labels : List Label} {before after : State} {label : Label}
      (past : Run step allowed start labels before) (permitted : allowed before label)
      (taken : step before label = some after) : Run step allowed start (labels ++ [label]) after

/-- No restriction on the steps. -/
def Any (_ : State) (_ : Label) : Prop := True

/-- The machine that takes only the permitted steps. -/
def guarded (step : State → Label → Option State) (allowed : State → Label → Prop)
    [∀ state label, Decidable (allowed state label)] (state : State) (label : Label) :
    Option State :=
  if allowed state label then step state label else none

variable {step : State → Label → Option State} {allowed : State → Label → Prop}
  {start state : State} {labels : List Label}

namespace Run

/-- The invariant rule: what holds at the start and is kept by every allowed
step holds of every state a run reaches. -/
theorem invariant {Holds : State → Prop} (run : Run step allowed start labels state)
    (initially : Holds start)
    (kept : ∀ before label after, Holds before → allowed before label →
      step before label = some after → Holds after) : Holds state := by
  induction run with
  | start => exact initially
  | snoc past permitted taken ih => exact kept _ _ _ ih permitted taken

theorem invariant_labels {Holds : List Label → State → Prop}
    (run : Run step allowed start labels state) (initially : Holds [] start)
    (kept : ∀ past before label after, Run step allowed start past before → Holds past before →
      allowed before label → step before label = some after → Holds (past ++ [label]) after) :
    Holds labels state := by
  induction run with
  | start => exact initially
  | snoc past permitted taken ih => exact kept _ _ _ _ past ih permitted taken

theorem weaken {wider : State → Label → Prop} (run : Run step allowed start labels state)
    (covers : ∀ state label, allowed state label → wider state label) :
    Run step wider start labels state := by
  induction run with
  | start => exact .start
  | snoc _ permitted taken ih => exact .snoc ih (covers _ _ permitted) taken

theorem unrestricted (run : Run step allowed start labels state) :
    Run step Any start labels state :=
  run.weaken (fun _ _ _ => trivial)

theorem append {middle : State} {later : List Label} (first : Run step allowed start labels middle)
    (second : Run step allowed middle later state) :
    Run step allowed start (labels ++ later) state := by
  induction second with
  | start => simpa using first
  | snoc _ permitted taken ih =>
      rw [← List.append_assoc]
      exact .snoc ih permitted taken

/-- Taking labels one after another is what the run's state is computed by. -/
theorem foldlM_eq (run : Run step allowed start labels state) :
    labels.foldlM step start = some state := by
  induction run with
  | start => rfl
  | snoc _ _ taken ih => simp [List.foldlM_append, ih, taken]

theorem of_foldlM (computed : labels.foldlM step start = some state) :
    Run step Any start labels state := by
  induction labels using List.reverseRecOn generalizing state with
  | nil =>
      cases computed
      exact .start
  | append_singleton labels label ih =>
      rw [List.foldlM_append] at computed
      cases middle : labels.foldlM step start with
      | none => simp [middle] at computed
      | some before =>
          have taken : step before label = some state := by simpa [middle] using computed
          exact .snoc (ih middle) trivial taken

theorem of_guarded [∀ state label, Decidable (allowed state label)]
    (computed : labels.foldlM (guarded step allowed) start = some state) :
    Run step allowed start labels state := by
  have run := of_foldlM computed
  induction run with
  | start => exact .start
  | snoc past _ taken ih =>
      simp only [guarded] at taken
      split at taken
      · rename_i permitted
        exact .snoc (ih past.foldlM_eq) permitted taken
      · contradiction

theorem deterministic {permitted : State → Label → Prop} {other : State}
    (first : Run step allowed start labels state)
    (second : Run step permitted start labels other) : state = other :=
  Option.some.inj (first.foldlM_eq.symm.trans second.foldlM_eq)

theorem last {label : Label} (run : Run step allowed start (labels ++ [label]) state) :
    ∃ before, Run step allowed start labels before ∧ allowed before label ∧
      step before label = some state := by
  generalize whole : labels ++ [label] = all at run
  cases run with
  | start => simp at whole
  | snoc past permitted taken =>
      obtain ⟨same, last⟩ := List.append_inj' whole rfl
      cases same
      cases last
      exact ⟨_, past, permitted, taken⟩

theorem restrict {also : State → Label → Prop} (run : Run step allowed start labels state)
    (permits : ∀ earlier label before, earlier ++ [label] <+: labels →
      Run step Any start earlier before → also before label) :
    Run step (fun state label => allowed state label ∧ also state label) start labels state := by
  induction run with
  | start => exact .start
  | snoc past permitted taken ih =>
      refine .snoc (ih fun earlier label before isPrefix reached => ?_)
        ⟨permitted, permits _ _ _ List.prefix_rfl past.unrestricted⟩ taken
      exact permits earlier label before (isPrefix.trans (List.prefix_append _ _)) reached

theorem split {later : List Label} (run : Run step allowed start (labels ++ later) state) :
    ∃ middle, Run step allowed start labels middle ∧ Run step allowed middle later state := by
  induction later using List.reverseRecOn generalizing state with
  | nil => exact ⟨state, by simpa using run, .start⟩
  | append_singleton later label ih =>
      rw [← List.append_assoc] at run
      obtain ⟨before, past, permitted, taken⟩ := run.last
      obtain ⟨middle, first, second⟩ := ih past
      exact ⟨middle, first, .snoc second permitted taken⟩

theorem cons {label : Label} {next : State} (permitted : allowed start label)
    (taken : step start label = some next) (rest : Run step allowed next labels state) :
    Run step allowed start (label :: labels) state := by
  have single : Run step allowed start ([] ++ [label]) next := .snoc .start permitted taken
  exact single.append rest

theorem uncons {label : Label} (run : Run step allowed start (label :: labels) state) :
    ∃ next, allowed start label ∧ step start label = some next ∧
      Run step allowed next labels state := by
  have parts : Run step allowed start ([label] ++ labels) state := run
  obtain ⟨next, first, rest⟩ := parts.split
  have single : Run step allowed start ([] ++ [label]) next := first
  obtain ⟨before, past, permitted, taken⟩ := single.last
  have here : Run step allowed start [] start := .start
  cases past.deterministic here
  exact ⟨next, permitted, taken, rest⟩

/-- The part of a run between two states its steps compute. -/
theorem between {past more : List Label} {before after : State}
    (run : Run step allowed start labels state) (isPrefix : past ++ more <+: labels)
    (reached : past.foldlM step start = some before) (later : more.foldlM step before = some after) :
    Run step allowed start past before ∧ Run step allowed before more after := by
  obtain ⟨rest, rfl⟩ := isPrefix
  obtain ⟨_, whole, _⟩ := run.split
  obtain ⟨middle, first, second⟩ := whole.split
  cases reached.symm.trans first.foldlM_eq
  cases later.symm.trans second.foldlM_eq
  exact ⟨first, second⟩

/-- A step of a run, with what comes before and after it. -/
theorem through {past more : List Label} {label : Label} {before middle after : State}
    (run : Run step allowed start labels state) (isPrefix : past ++ label :: more <+: labels)
    (reached : past.foldlM step start = some before) (taken : step before label = some middle)
    (later : more.foldlM step middle = some after) :
    Run step allowed start past before ∧ allowed before label ∧
      Run step allowed middle more after := by
  have further : (label :: more).foldlM step before = some after := by
    rw [List.foldlM_cons, taken]
    exact later
  obtain ⟨first, second⟩ := run.between isPrefix reached further
  obtain ⟨_, permitted, step, rest⟩ := second.uncons
  cases taken.symm.trans step
  exact ⟨first, permitted, rest⟩

end Run

/-- How many of the steps are counted, each in the state it is taken in. -/
def countSteps (step : State → Label → Option State) (counted : State → Label → Prop)
    [∀ state label, Decidable (counted state label)] : State → List Label → Nat
  | _, [] => 0
  | state, label :: labels =>
      (if counted state label then 1 else 0) +
        ((step state label).map (fun next => countSteps step counted next labels)).getD 0

theorem Run.countSteps_snoc {counted : State → Label → Prop}
    [∀ state label, Decidable (counted state label)] (run : Run step allowed start labels state)
    (label : Label) :
    countSteps step counted start (labels ++ [label]) =
      countSteps step counted start labels + if counted state label then 1 else 0 := by
  have reached := run.foldlM_eq
  clear run
  induction labels generalizing start with
  | nil =>
      obtain rfl : start = state := Option.some.inj reached
      cases taken : step start label <;> simp [countSteps, taken]
  | cons first labels ih =>
      cases taken : step start first with
      | none => simp [taken] at reached
      | some next =>
          have rest := ih (by simpa [taken] using reached)
          simp only [List.cons_append, countSteps, taken, Option.map_some, Option.getD_some, rest]
          omega

/-- `Once step start labels Held`: at some point of the run that took `labels`,
its last state included, the state satisfied `Held`. -/
def Once (step : State → Label → Option State) (start : State) (labels : List Label)
    (Held : State → Prop) : Prop :=
  ∃ earlier, earlier <+: labels ∧ ∃ state, earlier.foldlM step start = some state ∧ Held state

namespace Once

variable {Held : State → Prop}

theorem now (run : Run step allowed start labels state) (holds : Held state) :
    Once step start labels Held :=
  ⟨labels, List.prefix_rfl, state, run.foldlM_eq, holds⟩

theorem later {more : List Label} (once : Once step start labels Held) :
    Once step start (labels ++ more) Held := by
  obtain ⟨earlier, isPrefix, state, reached, holds⟩ := once
  exact ⟨earlier, isPrefix.trans (List.prefix_append _ _), state, reached, holds⟩

theorem imp {Wider : State → Prop} (once : Once step start labels Held)
    (covers : ∀ state, Held state → Wider state) : Once step start labels Wider := by
  obtain ⟨earlier, isPrefix, state, reached, holds⟩ := once
  exact ⟨earlier, isPrefix, state, reached, covers _ holds⟩

/-- Of two things a run did, one came first. -/
theorem ordered {Other : State → Prop} (one : Once step start labels Held)
    (another : Once step start labels Other) :
    (∃ before middle after last, Run step Any start before middle ∧ Held middle ∧
      Run step Any middle after last ∧ Other last) ∨
    (∃ before middle after last, Run step Any start before middle ∧ Other middle ∧
      Run step Any middle after last ∧ Held last) := by
  obtain ⟨first, firstPrefix, state, reached, holds⟩ := one
  obtain ⟨second, secondPrefix, other, otherReached, otherHolds⟩ := another
  rcases List.prefix_or_prefix_of_prefix firstPrefix secondPrefix with ⟨rest, rfl⟩ | ⟨rest, rfl⟩
  · obtain ⟨middle, past, future⟩ := (Run.of_foldlM otherReached).split
    cases past.foldlM_eq.symm.trans reached
    exact .inl ⟨first, state, rest, other, past, holds, future, otherHolds⟩
  · obtain ⟨middle, past, future⟩ := (Run.of_foldlM reached).split
    cases past.foldlM_eq.symm.trans otherReached
    exact .inr ⟨second, other, rest, state, past, otherHolds, future, holds⟩

end Once

/-- Some labels lead from `start` to `state`. -/
def Reaches (step : State → Label → Option State) (start state : State) : Prop :=
  ∃ labels, Run step Any start labels state

namespace Reaches

theorem refl (state : State) : Reaches step state state := ⟨[], .start⟩

theorem trans {middle : State} (first : Reaches step start middle)
    (second : Reaches step middle state) : Reaches step start state := by
  obtain ⟨early, past⟩ := first
  obtain ⟨late, future⟩ := second
  exact ⟨early ++ late, past.append future⟩

theorem snoc {middle : State} {label : Label} (first : Reaches step start middle)
    (taken : step middle label = some state) : Reaches step start state := by
  obtain ⟨early, past⟩ := first
  exact ⟨early ++ [label], past.snoc trivial taken⟩

theorem single {label : Label} (taken : step start label = some state) : Reaches step start state :=
  (refl start).snoc taken

/-- The simulation rule: where another machine answers each step of a run, it
answers the run. -/
theorem of_run {Other : Type*} {OtherLabel : Type*} {answer : Other → OtherLabel → Option Other}
    (view : State → Other) (run : Run step allowed start labels state)
    (answers : ∀ before label after, step before label = some after →
      Reaches answer (view before) (view after)) :
    Reaches answer (view start) (view state) := by
  induction run with
  | start => exact refl _
  | snoc past permitted taken ih => exact ih.trans (answers _ _ _ taken)

end Reaches

end SelfCheckout.Data
