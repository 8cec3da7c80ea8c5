import Mathlib.Data.List.Induction
import Mathlib.Data.List.TakeDrop

namespace SelfCheckout.Data

/-! # Parts of a list

`slice` is what stands between two positions of a log, and `since` what came after
the last mark of a history.  A split at a separator is taken apart from its first part.
-/

universe u

variable {Item : Type u}

def slice (items : List Item) (start stop : Nat) : List Item :=
  (items.drop start).take (stop - start)

section Slice

variable {items : List Item} {start middle stop : Nat}

@[simp] theorem slice_self (items : List Item) (start : Nat) : slice items start start = [] := by
  simp [slice]

theorem slice_append_slice (first : start ≤ middle) (second : middle ≤ stop) :
    slice items start middle ++ slice items middle stop = slice items start stop := by
  unfold slice
  have whole : stop - start = (middle - start) + (stop - middle) := by omega
  rw [whole, List.take_add, List.drop_drop, Nat.add_sub_cancel' first]

/-- A chunk that is taken from a position ends where its length says. -/
theorem take_drop_eq_slice (items : List Item) (start count : Nat) :
    (items.drop start).take count =
      slice items start (start + ((items.drop start).take count).length) := by
  unfold slice
  rw [Nat.add_sub_cancel_left, List.length_take, List.take_eq_take_iff]
  simp

/-- What is appended stands beyond the positions there were. -/
theorem slice_append (inside : stop ≤ items.length) (more : List Item) :
    slice (items ++ more) start stop = slice items start stop := by
  unfold slice
  by_cases within : start ≤ items.length
  · rw [List.drop_append_of_le_length within, List.take_append_of_le_length]
    rw [List.length_drop]
    omega
  · rw [show stop - start = 0 by omega, List.take_zero, List.take_zero]

theorem mem_slice {item : Item} :
    item ∈ slice items start stop ↔ ∃ index, start ≤ index ∧ index < stop ∧ items[index]? = some item := by
  unfold slice
  rw [List.mem_iff_getElem?]
  constructor
  · intro found
    obtain ⟨index, here⟩ := found
    rw [List.getElem?_take, List.getElem?_drop] at here
    split at here
    · exact ⟨start + index, by omega, by omega, here⟩
    · contradiction
  · intro found
    obtain ⟨index, above, below, here⟩ := found
    refine ⟨index - start, ?_⟩
    rw [List.getElem?_take, List.getElem?_drop, if_pos (by omega), Nat.add_sub_cancel' above]
    exact here

theorem mem_slice_split {item : Item} (middle : Nat) (member : item ∈ slice items start stop) :
    item ∈ slice items start middle ∨ item ∈ slice items middle stop := by
  obtain ⟨index, above, below, here⟩ := mem_slice.mp member
  by_cases early : index < middle
  · exact .inl (mem_slice.mpr ⟨index, above, early, here⟩)
  · exact .inr (mem_slice.mpr ⟨index, by omega, below, here⟩)

theorem slice_prefix_drop (items : List Item) (start stop : Nat) :
    slice items start stop <+: items.drop start :=
  List.take_prefix _ _

end Slice

/-- An item that is not among the last ones stands before them. -/
theorem append_eq_append_cons {items more before after : List Item} {item : Item}
    (same : items ++ more = before ++ item :: after) (absent : item ∉ more) :
    ∃ rest, after = rest ++ more ∧ items = before ++ item :: rest := by
  rcases List.append_eq_append_iff.mp same with ⟨past, _, inMore⟩ | ⟨past, whole, ending⟩
  · rw [inMore] at absent
    simp at absent
  · cases past with
    | nil =>
        rw [List.nil_append] at ending
        rw [← ending] at absent
        simp at absent
    | cons first past =>
        cases ending
        exact ⟨past, rfl, whole⟩

theorem append_singleton_eq_append_cons {items before after : List Item} {item last : Item}
    (same : items ++ [last] = before ++ item :: after) :
    (after = [] ∧ items = before ∧ last = item) ∨
      ∃ rest, after = rest ++ [last] ∧ items = before ++ item :: rest := by
  rcases List.eq_nil_or_concat after with rfl | ⟨rest, other, rfl⟩
  · obtain ⟨sameItems, sameLast⟩ := List.append_inj' same rfl
    exact .inl ⟨rfl, sameItems, List.singleton_inj.mp sameLast⟩
  · rw [List.concat_eq_append] at same ⊢
    rw [← List.cons_append, ← List.append_assoc] at same
    obtain ⟨sameItems, sameLast⟩ := List.append_inj' same rfl
    exact .inr ⟨rest, by rw [List.singleton_inj.mp sameLast], sameItems⟩

/-- The events after the last marked one. -/
def since (mark : Item → Bool) (history : List Item) : List Item :=
  history.foldl (fun events event => if mark event then [] else events ++ [event]) []

section Since

variable {mark : Item → Bool} {history : List Item} {event : Item}

theorem since_snoc (mark : Item → Bool) (history : List Item) (event : Item) :
    since mark (history ++ [event]) = if mark event then [] else since mark history ++ [event] := by
  simp [since, List.foldl_append]

theorem since_append (mark : Item → Bool) (history : List Item) {events : List Item}
    (unmarked : ∀ event ∈ events, mark event = false) :
    since mark (history ++ events) = since mark history ++ events := by
  induction events using List.reverseRecOn with
  | nil => simp
  | append_singleton events event ih =>
      rw [← List.append_assoc, since_snoc, unmarked event (by simp),
        ih (fun other member => unmarked other (by simp [member]))]
      simp

theorem since_suffix (mark : Item → Bool) (history : List Item) :
    since mark history <:+ history := by
  induction history using List.reverseRecOn with
  | nil => exact List.suffix_refl _
  | append_singleton history event ih =>
      rw [since_snoc]
      split
      · exact List.nil_suffix
      · exact (List.suffix_append_inj_of_length_eq rfl).mpr ⟨ih, rfl⟩

end Since

section Split

variable [DecidableEq Item] {separator : Item}

/-- The first part of a split, and what the others are a split of. -/
theorem splitOn_cons {items first : List Item} {others : List (List Item)}
    (parts : items.splitOn separator = first :: others) :
    separator ∉ first ∧
      (others = [] ∧ items = first ∨
        ∃ rest, items = first ++ separator :: rest ∧ rest.splitOn separator = others) := by
  by_cases separated : separator ∈ items
  · obtain ⟨before, rest, rfl, absent⟩ := List.eq_append_cons_of_mem separated
    rw [List.splitOn_append_cons_self_of_not_mem absent] at parts
    cases parts
    exact ⟨absent, .inr ⟨rest, rfl, rfl⟩⟩
  · rw [List.splitOn_eq_singleton separated] at parts
    cases parts
    exact ⟨separated, .inl ⟨rfl, rfl⟩⟩

theorem splitOn_cons_cons {items first second : List Item} {others : List (List Item)}
    (parts : items.splitOn separator = first :: second :: others) :
    separator ∉ first ∧
      ∃ rest, items = first ++ separator :: rest ∧ rest.splitOn separator = second :: others := by
  obtain ⟨absent, ⟨none, -⟩ | found⟩ := splitOn_cons parts
  · cases none
  · exact ⟨absent, found⟩

end Split

end SelfCheckout.Data
