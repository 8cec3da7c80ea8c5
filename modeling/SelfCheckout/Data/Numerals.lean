import Mathlib.Algebra.Group.Nat.Hom
import Mathlib.Data.List.Lex

namespace SelfCheckout.Data

/-! # Decimal numerals

What `Nat.toDigits 10` writes, and numerals of one length in their lexicographic order.
-/

/-- One or more ASCII digits, the first of several not a zero. -/
def Canonical (digits : List Char) : Prop :=
  digits ≠ [] ∧ (∀ digit ∈ digits, digit.isDigit) ∧ (digits.head? = some '0' → digits = ['0'])

theorem digitChar_of_isDigit {digit : Char} (isDigit : digit.isDigit) :
    Nat.digitChar (digit.toNat - 48) = digit ∧ digit.toNat - 48 < 10 := by
  have range : 48 ≤ digit.toNat ∧ digit.toNat ≤ 57 := by
    simpa [Char.isDigit, UInt32.le_iff_toNat_le] using isDigit
  have small : digit.toNat - 48 < 10 := by omega
  refine ⟨Char.toNat_inj.mp ?_, small⟩
  rw [Nat.toNat_digitChar_of_lt_ten small]
  omega

theorem toDigits_append_ofDigitChars {value : Nat} (positive : 0 < value) (digits : List Char)
    (areDigits : ∀ digit ∈ digits, digit.isDigit) :
    Nat.toDigits 10 value ++ digits = Nat.toDigits 10 (Nat.ofDigitChars 10 digits value) := by
  induction digits generalizing value with
  | nil => simp
  | cons digit digits ih =>
      obtain ⟨isChar, small⟩ := digitChar_of_isDigit (areDigits digit (by simp))
      have more : 0 < 10 * value + (digit.toNat - 48) := by omega
      have one : Nat.toDigits 10 value ++ [digit] =
          Nat.toDigits 10 (10 * value + (digit.toNat - 48)) := by
        rw [← Nat.toDigits_append_toDigits (by decide) positive small,
          Nat.toDigits_of_lt_base small, isChar]
      calc
        Nat.toDigits 10 value ++ digit :: digits = (Nat.toDigits 10 value ++ [digit]) ++ digits := by
          simp
        _ = Nat.toDigits 10 (10 * value + (digit.toNat - 48)) ++ digits := by rw [one]
        _ = Nat.toDigits 10 (Nat.ofDigitChars 10 (digit :: digits) value) := by
          rw [ih more (fun other isIn => areDigits other (by simp [isIn])), Nat.ofDigitChars_cons]
          rfl

/-- A canonical numeral is the one its value is written as. -/
theorem toDigits_ofDigitChars {digits : List Char} (canonical : Canonical digits) :
    Nat.toDigits 10 (Nat.ofDigitChars 10 digits 0) = digits := by
  obtain ⟨nonempty, areDigits, leading⟩ := canonical
  cases digits with
  | nil => contradiction
  | cons digit digits =>
      by_cases isZero : digit = '0'
      · cases leading (by simp [isZero])
        simp [Nat.ofDigitChars_cons]
      · obtain ⟨isChar, small⟩ := digitChar_of_isDigit (areDigits digit (by simp))
        have positive : 0 < digit.toNat - 48 := by
          rcases Nat.eq_zero_or_pos (digit.toNat - 48) with zero | positive
          · rw [zero] at isChar
            exact absurd isChar.symm isZero
          · exact positive
        have whole := toDigits_append_ofDigitChars positive digits
          (fun other isIn => areDigits other (by simp [isIn]))
        rw [Nat.toDigits_of_lt_base small, isChar] at whole
        rw [Nat.ofDigitChars_cons, Nat.mul_zero, Nat.zero_add]
        exact whole.symm

theorem toDigits_injective : Function.Injective (Nat.toDigits 10) := by
  intro value other same
  simpa using congrArg (Nat.ofDigitChars 10 · 0) same

theorem canonical_toDigits (value : Nat) : Canonical (Nat.toDigits 10 value) := by
  refine ⟨by simp, fun digit isIn => Nat.isDigit_of_mem_toDigits (by decide) (by decide) isIn, ?_⟩
  intro leading
  induction value using Nat.strongRecOn with
  | ind value ih =>
      rw [Nat.toDigits_eq_if (by decide)] at leading ⊢
      split at leading
      · rename_i small
        simpa [small] using leading
      · rename_i large
        rw [List.head?_append_of_ne_nil _ (by simp)] at leading
        -- the digits before the last are those of a number that is not zero
        have zero := ih (value / 10) (by omega) leading
        have value0 : value / 10 = 0 := toDigits_injective (by simpa using zero)
        omega

theorem ofDigitChars_lt (digits : List Char) (areDigits : ∀ digit ∈ digits, digit.isDigit) :
    Nat.ofDigitChars 10 digits 0 < 10 ^ digits.length := by
  induction digits with
  | nil => simp
  | cons digit digits ih =>
      obtain ⟨-, small⟩ := digitChar_of_isDigit (areDigits digit (by simp))
      have rest := ih (fun other isIn => areDigits other (by simp [isIn]))
      rw [Nat.ofDigitChars_cons, Nat.ofDigitChars_eq_ofDigitChars_zero, Nat.mul_zero, Nat.zero_add,
        List.length_cons, Nat.pow_succ]
      have first : 10 ^ digits.length * (digit.toNat - '0'.toNat) ≤ 10 ^ digits.length * 9 :=
        Nat.mul_le_mul_left _ (by simpa using Nat.le_of_lt_succ small)
      omega

/-- Of two numerals of one length the one with the smaller value comes first. -/
theorem lt_of_ofDigitChars_lt {digits others : List Char} (lengths : digits.length = others.length)
    (areDigits : ∀ digit ∈ digits, digit.isDigit) (otherDigits : ∀ digit ∈ others, digit.isDigit)
    (less : Nat.ofDigitChars 10 digits 0 < Nat.ofDigitChars 10 others 0) : digits < others := by
  induction digits generalizing others with
  | nil =>
      cases others with
      | nil => simp at less
      | cons other others => exact List.Lex.nil
  | cons digit digits ih =>
      cases others with
      | nil => simp at lengths
      | cons other others =>
          have sameLength : digits.length = others.length := by simpa using lengths
          obtain ⟨isChar, -⟩ := digitChar_of_isDigit (areDigits digit (by simp))
          obtain ⟨isOther, -⟩ := digitChar_of_isDigit (otherDigits other (by simp))
          have below := ofDigitChars_lt others (fun each isIn => otherDigits each (by simp [isIn]))
          rw [Nat.ofDigitChars_cons, Nat.ofDigitChars_cons, Nat.ofDigitChars_eq_ofDigitChars_zero,
            Nat.ofDigitChars_eq_ofDigitChars_zero (l := others), sameLength] at less
          rw [List.cons_lt_cons_iff]
          rcases Nat.lt_trichotomy (digit.toNat - 48) (other.toNat - 48) with smaller | same | larger
          · exact .inl (UInt32.lt_iff_toNat_lt.mpr (show digit.toNat < other.toNat by omega))
          · -- equal first digits leave the comparison to the rest
            have sameDigit : digit = other := by rw [← isChar, ← isOther, same]
            subst sameDigit
            exact .inr ⟨rfl, ih sameLength (fun each isIn => areDigits each (by simp [isIn]))
              (fun each isIn => otherDigits each (by simp [isIn])) (by omega)⟩
          · have carry : 10 ^ others.length * (other.toNat - 48 + 1) ≤
                10 ^ others.length * (digit.toNat - 48) := Nat.mul_le_mul_left _ larger
            rw [Nat.mul_add] at carry
            simp only [Nat.mul_zero, Nat.zero_add] at less
            change _ + _ < 10 ^ others.length * (other.toNat - 48) + _ at less
            change 10 ^ others.length * (digit.toNat - 48) + _ < _ at less
            omega

end SelfCheckout.Data
