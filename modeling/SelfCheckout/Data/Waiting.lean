import Mathlib.Data.Finset.Max

namespace SelfCheckout.Data

/-! # Somebody does not wait

Where waiting goes up a rank, of any finitely many that run one waits for none of them.
-/

universe u v

variable {Node : Type u} {Rank : Type v} [LinearOrder Rank] {waits : Node → Node → Prop}
  {rank : Node → Rank}

/-- The one that waits highest would wait for one that waits higher. -/
theorem exists_not_waiting
    (ascends : ∀ first second third, waits first second → waits second third → rank first < rank second)
    {running : Finset Node} (some_ : running.Nonempty) :
    ∃ node ∈ running, ∀ other ∈ running, ¬ waits node other := by
  by_contra nobody
  have everybody : ∀ node ∈ running, ∃ other ∈ running, waits node other := by
    intro node isRunning
    by_contra none_
    exact nobody ⟨node, isRunning, fun other isOther waitsFor => none_ ⟨other, isOther, waitsFor⟩⟩
  obtain ⟨top, isTop, highest⟩ := Finset.exists_max_image running rank some_
  obtain ⟨next, isNext, waitsFor⟩ := everybody top isTop
  obtain ⟨beyond, _, onward⟩ := everybody next isNext
  exact absurd (ascends top next beyond waitsFor onward) (not_lt_of_ge (highest next isNext))

end SelfCheckout.Data
