import Mathlib.Logic.Function.Basic

namespace SelfCheckout.Data

/-! # Exclusive locks

Who holds which key is a partial function.  A lock is granted by an update where nobody
holds the key, and the locks of a holder are given back all at once.
-/

universe u v

variable {Key : Type u} {Holder : Type v} {owner : Key → Option Holder} {id holder : Holder}
  {granted key : Key}

section Granting

variable [DecidableEq Key]

/-- A grant takes no lock away. -/
theorem held_after_grant (free : owner granted = none) (held : owner key = some holder) :
    Function.update owner granted (some id) key = some holder := by
  have different : key ≠ granted := by
    rintro rfl
    cases free.symm.trans held
  rwa [Function.update_of_ne different]

/-- ... and gives none to anyone else. -/
theorem held_before_grant (held : Function.update owner granted (some id) key = some holder)
    (different : holder ≠ id) : owner key = some holder := by
  by_cases same : key = granted
  · subst same
    rw [Function.update_self, Option.some.injEq] at held
    exact absurd held.symm different
  · rwa [Function.update_of_ne same] at held

end Granting

/-- What is held once `id` has given its locks back. -/
theorem held_released [DecidableEq Holder] :
    (if owner key = some id then none else owner key) = some holder ↔
      owner key = some holder ∧ holder ≠ id := by
  split
  · rename_i own
    simp [own, eq_comm]
  · rename_i other
    constructor
    · intro held
      refine ⟨held, ?_⟩
      rintro rfl
      exact other held
    · exact And.left

end SelfCheckout.Data
