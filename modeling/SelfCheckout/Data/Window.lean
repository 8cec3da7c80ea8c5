import Mathlib.Algebra.BigOperators.Group.Finset.Piecewise
import Mathlib.Data.Finset.Range
import SelfCheckout.Data.Run

namespace SelfCheckout.Data

/-! # A window trimmed by its writers

Writers append to a queue, and each then removes entries from its front for as long as it
counts more than the capacity.  Nothing is locked: counting is a walk over the nodes, which
meets entries that come while it walks and has counted some that are gone when it ends.  So
writers remove too much, but never more than one entry each.
-/

universe u

/-- One of a family is changed: how many pass a test changes by that one. -/
theorem card_filter_update {Index Value : Type*} [DecidableEq Index] (indices : Finset Index)
    (values : Index → Value) (test : Value → Bool) {index : Index} (inside : index ∈ indices)
    (value : Value) :
    (indices.filter (fun other => test (Function.update values index value other))).card +
        (if test (values index) then 1 else 0) =
      (indices.filter (fun other => test (values other))).card + (if test value then 1 else 0) := by
  have others : ∑ other ∈ indices.erase index,
        (if test (Function.update values index value other) then 1 else 0) =
      ∑ other ∈ indices.erase index, (if test (values other) then 1 else 0) := by
    refine Finset.sum_congr rfl fun other member => ?_
    rw [Function.update_of_ne (Finset.ne_of_mem_erase member)]
  rw [Finset.card_filter, Finset.card_filter, ← Finset.add_sum_erase _ _ inside,
    ← Finset.add_sum_erase _ (fun other => if test (values other) then 1 else 0) inside, others,
    Function.update_self]
  omega

/-- Where a writer is in its loop. -/
inductive Trim where
  /-- Before it counts. -/
  | checking
  /-- The next node of the walk, and how many entries it met. -/
  | counting (position count : Nat)
  /-- It counted more than the capacity. -/
  | popping
deriving DecidableEq, Repr

/-- All that was appended, how much of it was removed, and the writers in their loops. -/
structure Window (Entry : Type u) where
  log : List Entry
  popped : Nat
  trims : Nat → Option Trim

inductive Move (Entry : Type u) where
  | append (writer : Nat) (entry : Entry)
  | proceed (writer : Nat)
  /-- The walk met a node that is no longer linked, and starts again. -/
  | restart (writer : Nat)
deriving DecidableEq, Repr

namespace Window

variable {Entry : Type u}

def empty : Window Entry := { log := [], popped := 0, trims := fun _ => none }

/-- What the queue holds. -/
def entries (window : Window Entry) : List Entry := window.log.drop window.popped

def setTrim (window : Window Entry) (writer : Nat) (next : Option Trim) : Window Entry :=
  { window with trims := Function.update window.trims writer next }

/-- Append an entry and enter the loop. -/
def append (window : Window Entry) (writer : Nat) (entry : Entry) : Window Entry :=
  { window.setTrim writer (some .checking) with log := window.log ++ [entry] }

def advance (capacity : Nat) (window : Window Entry) (writer : Nat) : Trim → Window Entry
  | .checking => window.setTrim writer (some (.counting window.popped 0))
  | .counting position count =>
      if position < window.log.length then
        window.setTrim writer
          (some (.counting (position + 1) (if window.popped ≤ position then count + 1 else count)))
      else window.setTrim writer (if capacity < count then some .popping else none)
  | .popping =>
      { window.setTrim writer (some .checking) with
        popped := min (window.popped + 1) window.log.length }

def step (capacity : Nat) (window : Window Entry) : Move Entry → Option (Window Entry)
  | .append writer entry =>
      match window.trims writer with
      | none => some (window.append writer entry)
      | some _ => none
  | .proceed writer =>
      match window.trims writer with
      | none => none
      | some trim => some (window.advance capacity writer trim)
  | .restart writer =>
      match window.trims writer with
      | some (.counting position _) =>
          if position < window.popped then some (window.setTrim writer (some .checking)) else none
      | _ => none

/-- The writers are numbered below `slots`. -/
def Slots (slots : Nat) (_ : Window Entry) : Move Entry → Prop
  | .append writer _ => writer < slots
  | .proceed _ => True
  | .restart _ => True

instance (slots : Nat) (window : Window Entry) (move : Move Entry) :
    Decidable (Slots slots window move) :=
  match move with
  | .append _ _ => inferInstanceAs (Decidable (_ < _))
  | .proceed _ => .isTrue trivial
  | .restart _ => .isTrue trivial

section Moves

variable {capacity writer : Nat} {window after : Window Entry} {move : Move Entry}

@[simp] theorem log_setTrim (next : Option Trim) :
    (window.setTrim writer next).log = window.log := rfl

theorem trims_setTrim_self (next : Option Trim) :
    (window.setTrim writer next).trims writer = next := by
  simp [setTrim]

theorem trims_setTrim_of_ne {other : Nat} (different : other ≠ writer) (next : Option Trim) :
    (window.setTrim writer next).trims other = window.trims other := by
  simp [setTrim, different]

theorem log_advance (trim : Trim) : (window.advance capacity writer trim).log = window.log := by
  cases trim with
  | checking => rfl
  | popping => rfl
  | counting position count =>
      simp only [advance]
      split <;> rfl

theorem trims_advance_of_ne {other : Nat} (different : other ≠ writer) (trim : Trim) :
    (window.advance capacity writer trim).trims other = window.trims other := by
  cases trim with
  | checking => exact trims_setTrim_of_ne different _
  | popping => exact trims_setTrim_of_ne different _
  | counting position count =>
      simp only [advance]
      split
      · exact trims_setTrim_of_ne different _
      · exact trims_setTrim_of_ne different _

theorem step_append {entry : Entry} (taken : window.step capacity (.append writer entry) = some after) :
    window.trims writer = none ∧ after = window.append writer entry := by
  simp only [step] at taken
  split at taken
  · rename_i free
    exact ⟨free, (Option.some.inj taken).symm⟩
  · contradiction

theorem step_proceed (taken : window.step capacity (.proceed writer) = some after) :
    ∃ trim, window.trims writer = some trim ∧ after = window.advance capacity writer trim := by
  simp only [step] at taken
  split at taken
  · contradiction
  · rename_i trim here
    exact ⟨trim, here, (Option.some.inj taken).symm⟩

theorem step_restart (taken : window.step capacity (.restart writer) = some after) :
    ∃ position count, window.trims writer = some (.counting position count) ∧
      position < window.popped ∧ after = window.setTrim writer (some .checking) := by
  simp only [step] at taken
  split at taken
  · rename_i position count here
    split at taken
    · rename_i gone
      exact ⟨position, count, here, gone, (Option.some.inj taken).symm⟩
    · contradiction
  · contradiction

end Moves

/-- What the walk comes to if nothing more is appended or removed. -/
def reach (capacity : Nat) (window : Window Entry) : Trim → Nat
  | .checking => window.log.length - window.popped
  | .counting position count => count + (window.log.length - max position window.popped)
  | .popping => capacity + 1

def reaches (capacity : Nat) (window : Window Entry) (writer : Nat) : Nat :=
  (window.trims writer).elim 0 (window.reach capacity)

/-- The writers that will have counted at least `count`. -/
def crowd (capacity slots : Nat) (window : Window Entry) (count : Nat) : Finset Nat :=
  (Finset.range slots).filter (fun writer => count ≤ window.reaches capacity writer)

/-- The writers in their loops. -/
def busy (slots : Nat) (window : Window Entry) : Finset Nat :=
  (Finset.range slots).filter (fun writer => (window.trims writer).isSome)

/-- The walk of a writer. -/
def Walks (capacity : Nat) (window : Window Entry) : Trim → Prop
  | .checking => True
  | .counting position count =>
      position ≤ window.log.length ∧ position ≤ window.popped + count ∧ count ≤ position
  | .popping => capacity < window.log.length

/-- The more will be counted than there is, the fewer count it. -/
def Paid (capacity slots : Nat) (window : Window Entry) : Prop :=
  ∀ count ≤ capacity + 1,
    (window.crowd capacity slots count).card + count ≤ window.log.length - window.popped + slots

structure Trimmed (capacity slots : Nat) (window : Window Entry) : Prop where
  inside : ∀ writer trim, window.trims writer = some trim → writer < slots
  popped : window.popped ≤ window.log.length
  walks : ∀ writer trim, window.trims writer = some trim → window.Walks capacity trim
  most : window.log.length ≤ window.popped + capacity + (window.busy slots).card
  least : window.popped = 0 ∨ window.Paid capacity slots

section Steps

variable {capacity slots writer : Nat} {window after : Window Entry} {trim : Trim}

theorem trimmed_empty : Trimmed capacity slots (empty : Window Entry) where
  inside _ _ found := by contradiction
  popped := Nat.le_refl 0
  walks _ _ found := by contradiction
  most := Nat.zero_le _
  least := .inl rfl

theorem card_crowd_le (window : Window Entry) (capacity slots count : Nat) :
    (window.crowd capacity slots count).card ≤ slots := by
  simpa [crowd] using Finset.card_filter_le (Finset.range slots) _

theorem reaches_setTrim (next : Option Trim) (other : Nat) :
    (window.setTrim writer next).reaches capacity other =
      if other = writer then next.elim 0 (window.reach capacity)
      else window.reaches capacity other := by
  unfold reaches setTrim
  by_cases own : other = writer
  · subst own
    simp only [Function.update_self, ↓reduceIte]
    rfl
  · simp only [Function.update_of_ne own, own, ↓reduceIte]
    rfl

theorem card_busy_setTrim_some (window : Window Entry) (slots writer : Nat) (next : Trim) :
    (window.busy slots).card ≤ ((window.setTrim writer (some next)).busy slots).card := by
  refine Finset.card_le_card fun other member => ?_
  obtain ⟨inRange, isBusy⟩ := Finset.mem_filter.mp member
  refine Finset.mem_filter.mpr ⟨inRange, ?_⟩
  by_cases own : other = writer
  · simp [setTrim, own]
  · simpa [setTrim, own] using isBusy

/-- A step in which a writer only walks or stops. -/
theorem Trimmed.setTrim (trimmed : Trimmed capacity slots window)
    (here : window.trims writer = some trim) {next : Option Trim}
    (walks : ∀ trim, next = some trim → window.Walks capacity trim)
    (less : next.elim 0 (window.reach capacity) ≤ window.reach capacity trim)
    (stops : next = none → window.log.length ≤ window.popped + capacity) :
    Trimmed capacity slots (window.setTrim writer next) := by
  have isInside := trimmed.inside writer trim here
  have fewer : ∀ other, (window.setTrim writer next).reaches capacity other ≤
      window.reaches capacity other := by
    intro other
    rw [reaches_setTrim]
    split
    · rename_i own
      subst own
      simpa [reaches, here] using less
    · exact Nat.le_refl _
  constructor
  · intro other otherTrim found
    by_cases own : other = writer
    · exact own ▸ isInside
    · exact trimmed.inside other otherTrim ((trims_setTrim_of_ne own next).symm.trans found)
  · exact trimmed.popped
  · intro other otherTrim found
    by_cases own : other = writer
    · subst own
      exact walks otherTrim ((trims_setTrim_self next).symm.trans found)
    · exact trimmed.walks other otherTrim ((trims_setTrim_of_ne own next).symm.trans found)
  · cases next with
    | none =>
        have most := stops rfl
        exact most.trans (Nat.le_add_right _ _)
    | some next =>
        have more := card_busy_setTrim_some window slots writer next
        have most := trimmed.most
        show window.log.length ≤ window.popped + capacity + _
        omega
  · refine trimmed.least.imp (fun none => none) fun paid count small => ?_
    have subset : (window.setTrim writer next).crowd capacity slots count ⊆
        window.crowd capacity slots count := by
      intro other member
      obtain ⟨inRange, counts⟩ := Finset.mem_filter.mp member
      exact Finset.mem_filter.mpr ⟨inRange, counts.trans (fewer other)⟩
    have smaller := Finset.card_le_card subset
    have before := paid count small
    show _ ≤ window.log.length - window.popped + slots
    omega

/-- Before anything is removed nobody has counted more than there is. -/
theorem Trimmed.paid_of_popping (trimmed : Trimmed capacity slots window)
    (here : window.trims writer = some .popping) : window.Paid capacity slots := by
  rcases trimmed.least with none | paid
  · intro count small
    have full := trimmed.walks writer .popping here
    have fewer := card_crowd_le window capacity slots count
    simp only [Walks] at full
    omega
  · exact paid

theorem Trimmed.pop (trimmed : Trimmed capacity slots window)
    (here : window.trims writer = some .popping) :
    Trimmed capacity slots (window.advance capacity writer .popping) := by
  have isInside := trimmed.inside writer .popping here
  have paid := trimmed.paid_of_popping here
  have bounded := trimmed.popped
  have trims : ∀ other, other ≠ writer →
      (window.advance capacity writer .popping).trims other = window.trims other :=
    fun other different => Function.update_of_ne different _ _
  have own : (window.advance capacity writer .popping).trims writer = some .checking :=
    Function.update_self writer _ window.trims
  have reached : ∀ other, other ≠ writer →
      (window.advance capacity writer .popping).reaches capacity other ≤
        window.reaches capacity other := by
    intro other different
    unfold reaches
    rw [trims other different]
    cases window.trims other with
    | none => exact Nat.le_refl _
    | some trim => cases trim <;> simp only [advance, reach, log_setTrim, Option.elim_some] <;> omega
  have ownReached : (window.advance capacity writer .popping).reaches capacity writer =
      window.log.length - min (window.popped + 1) window.log.length := by
    unfold reaches
    rw [own]
    rfl
  constructor
  · intro other trim found
    by_cases same : other = writer
    · exact same ▸ isInside
    · exact trimmed.inside other trim ((trims other same).symm.trans found)
  · exact Nat.min_le_right _ _
  · intro other trim found
    by_cases same : other = writer
    · subst same
      cases own.symm.trans found
      trivial
    · have walks := trimmed.walks other trim ((trims other same).symm.trans found)
      cases trim with
      | checking => trivial
      | popping => exact walks
      | counting position count =>
          obtain ⟨inside, met, fewer⟩ := walks
          refine ⟨inside, ?_, fewer⟩
          show position ≤ min (window.popped + 1) window.log.length + count
          omega
  · have more := card_busy_setTrim_some window slots writer .checking
    have most := trimmed.most
    show window.log.length ≤ min (window.popped + 1) window.log.length + capacity +
      ((window.setTrim writer (some .checking)).busy slots).card
    omega
  · refine .inr fun count small => ?_
    have before := paid count small
    show _ ≤ window.log.length - min (window.popped + 1) window.log.length + slots
    by_cases high : window.log.length - min (window.popped + 1) window.log.length < count
    · -- the writer itself counted it before and does not now
      have subset : (window.advance capacity writer .popping).crowd capacity slots count ⊆
          (window.crowd capacity slots count).erase writer := by
        intro other member
        obtain ⟨inRange, counts⟩ := Finset.mem_filter.mp member
        have different : other ≠ writer := by
          rintro rfl
          omega
        exact Finset.mem_erase.mpr ⟨different,
          Finset.mem_filter.mpr ⟨inRange, counts.trans (reached other different)⟩⟩
      have member : writer ∈ window.crowd capacity slots count :=
        Finset.mem_filter.mpr ⟨Finset.mem_range.mpr isInside, by simpa [reaches, here, reach] using small⟩
      have fewer := Finset.card_le_card subset
      have less := Finset.card_erase_lt_of_mem member
      omega
    · have few := card_crowd_le (window.advance capacity writer .popping) capacity slots count
      omega

theorem Trimmed.append (trimmed : Trimmed capacity slots window)
    (free : window.trims writer = none) (isInside : writer < slots) (entry : Entry) :
    Trimmed capacity slots (window.append writer entry) := by
  have bounded := trimmed.popped
  have longer : (window.append writer entry).log.length = window.log.length + 1 :=
    List.length_append
  have trims : ∀ other, other ≠ writer →
      (window.append writer entry).trims other = window.trims other :=
    fun other different => Function.update_of_ne different _ _
  have own : (window.append writer entry).trims writer = some .checking :=
    Function.update_self writer _ window.trims
  have reached : ∀ other, other ≠ writer →
      (window.append writer entry).reaches capacity other ≤ window.reaches capacity other + 1 := by
    intro other different
    unfold reaches
    rw [trims other different]
    cases window.trims other with
    | none => exact Nat.zero_le _
    | some trim =>
        have same : (window.append writer entry).popped = window.popped := rfl
        cases trim <;> simp only [reach, longer, same, Option.elim_some] <;> omega
  have ownReached : (window.append writer entry).reaches capacity writer =
      window.log.length + 1 - window.popped := by
    unfold reaches
    rw [own]
    simp only [Option.elim_some, reach, longer]
    rfl
  constructor
  · intro other trim found
    by_cases same : other = writer
    · exact same ▸ isInside
    · exact trimmed.inside other trim ((trims other same).symm.trans found)
  · rw [longer]
    exact bounded.trans (Nat.le_succ _)
  · intro other trim found
    by_cases same : other = writer
    · subst same
      cases own.symm.trans found
      trivial
    · have walks := trimmed.walks other trim ((trims other same).symm.trans found)
      cases trim with
      | checking => trivial
      | popping =>
          simp only [Walks] at walks ⊢
          omega
      | counting position count =>
          simp only [Walks] at walks ⊢
          exact ⟨by omega, walks.2.1, walks.2.2⟩
  · have more := card_filter_update (Finset.range slots) window.trims Option.isSome
      (Finset.mem_range.mpr isInside) (some .checking)
    simp only [free, Option.isSome_none, Option.isSome_some, Bool.false_eq_true, ↓reduceIte,
      add_zero] at more
    have most := trimmed.most
    rw [longer]
    show window.log.length + 1 ≤ window.popped + capacity + ((Finset.range slots).filter fun other =>
      (Function.update window.trims writer (some .checking) other).isSome = true).card
    rw [more]
    exact Nat.succ_le_succ most
  · refine trimmed.least.imp (fun none => none) fun paid count small => ?_
    rw [longer]
    show _ ≤ window.log.length + 1 - window.popped + slots
    by_cases high : window.log.length + 1 - window.popped < count
    · -- who will have counted so much would have counted one less before
      have subset : (window.append writer entry).crowd capacity slots count ⊆
          window.crowd capacity slots (count - 1) := by
        intro other member
        obtain ⟨inRange, counts⟩ := Finset.mem_filter.mp member
        have different : other ≠ writer := by
          rintro rfl
          omega
        have before := reached other different
        exact Finset.mem_filter.mpr ⟨inRange, by omega⟩
      have fewer := Finset.card_le_card subset
      have before := paid (count - 1) (by omega)
      omega
    · have few := card_crowd_le (window.append writer entry) capacity slots count
      omega

/-- Step lemma. -/
theorem Trimmed.step {move : Move Entry} (trimmed : Trimmed capacity slots window)
    (taken : window.step capacity move = some after) (allowed : Slots slots window move) :
    Trimmed capacity slots after := by
  cases move with
  | append writer entry =>
      obtain ⟨free, rfl⟩ := step_append taken
      exact trimmed.append free allowed entry
  | proceed writer =>
      obtain ⟨trim, here, rfl⟩ := step_proceed taken
      cases trim with
      | checking =>
          refine trimmed.setTrim here ?_ ?_ (fun stopped => by contradiction)
          · rintro _ ⟨⟩
            exact ⟨trimmed.popped, Nat.le_add_right _ _, Nat.zero_le _⟩
          · simp [reach]
      | popping => exact trimmed.pop here
      | counting position count =>
          obtain ⟨inside, met, fewer⟩ := trimmed.walks writer _ here
          simp only [advance]
          split
          · refine trimmed.setTrim here ?_ ?_ (fun stopped => by contradiction)
            · rintro _ ⟨⟩
              simp only [Walks]
              split <;> omega
            · simp only [Option.elim_some, reach]
              split <;> omega
          · split
            · refine trimmed.setTrim here ?_ ?_ (fun stopped => by contradiction)
              · rintro _ ⟨⟩
                simp only [Walks]
                omega
              · simp only [Option.elim_some, reach]
                omega
            · refine trimmed.setTrim here (fun _ stopped => by contradiction) (Nat.zero_le _) ?_
              intro
              omega
  | restart writer =>
      obtain ⟨position, count, here, gone, rfl⟩ := step_restart taken
      refine trimmed.setTrim here ?_ ?_ (fun stopped => by contradiction)
      · rintro _ ⟨⟩
        trivial
      · simp only [Option.elim_some, reach]
        omega

theorem Trimmed.length_le (trimmed : Trimmed capacity slots window) :
    window.entries.length ≤ capacity + (window.busy slots).card := by
  have most := trimmed.most
  simp only [entries, List.length_drop]
  omega

theorem Trimmed.le_length (trimmed : Trimmed capacity slots window) :
    min window.log.length (capacity + 1 - slots) ≤ window.entries.length := by
  simp only [entries, List.length_drop]
  rcases trimmed.least with none | paid
  · omega
  · have most := paid (capacity + 1) (Nat.le_refl _)
    omega

end Steps

/-- Two writers count two entries where one is wanted, and each removes one. -/
example :
    let moves := [.append 0 'a', .append 1 'b'] ++
      (List.replicate 5 [.proceed 0, .proceed 1]).flatten
    (moves.foldlM (step 1) empty).map (fun window => (window.entries, window.trims 0)) =
      some ([], some .checking) := by
  decide +kernel

end Window

end SelfCheckout.Data
