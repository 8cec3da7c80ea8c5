import SelfCheckout.Data.Rfc8259

namespace SelfCheckout.Data.Rfc8259

/-! # UTF-16 texts sent as UTF-8

A text may hold a surrogate that is no half of a pair.  UTF-8 has no bytes for one, and an encoder
that replaces writes a question mark.
-/

def isHigh (written : CodeUnit) : Bool := decide (0xD800 ≤ written ∧ written ≤ 0xDBFF)

def isLow (written : CodeUnit) : Bool := decide (0xDC00 ≤ written ∧ written ≤ 0xDFFF)

def isSurrogate (written : CodeUnit) : Bool := isHigh written || isLow written

/-- Every surrogate is a half of a pair. -/
inductive WellFormed : Text → Prop where
  | nil : WellFormed []
  | single (written : CodeUnit) (rest : Text) (alone : isSurrogate written = false)
      (others : WellFormed rest) : WellFormed (written :: rest)
  | pair (high low : CodeUnit) (rest : Text) (isFirst : isHigh high = true)
      (isSecond : isLow low = true) (others : WellFormed rest) : WellFormed (high :: low :: rest)

/-- What stands for a code unit outside a pair. -/
def replaced (written : CodeUnit) : CodeUnit :=
  if isSurrogate written then unit '?' else written

/-- A text encoded in UTF-8 and decoded again. -/
def transfer : Text → Text
  | [] => []
  | [written] => [replaced written]
  | first :: second :: rest =>
      if isHigh first && isLow second then first :: second :: transfer rest
      else replaced first :: transfer (second :: rest)

/-- No code unit of the text is a surrogate. -/
def Single (text : Text) : Prop := ∀ written ∈ text, isSurrogate written = false

instance (text : Text) : Decidable (Single text) :=
  List.decidableBAll (isSurrogate · = false) text

variable {text rest : Text} {written : CodeUnit}

theorem replaced_single (alone : isSurrogate written = false) : replaced written = written :=
  if_neg (by simp [alone])

theorem isHigh_single (alone : isSurrogate written = false) : isHigh written = false :=
  (Bool.or_eq_false_iff.mp alone).1

theorem transfer_cons (alone : isSurrogate written = false) :
    transfer (written :: rest) = written :: transfer rest := by
  cases rest with
  | nil => simp only [transfer, replaced_single alone]
  | cons next rest =>
      rw [transfer, isHigh_single alone, Bool.false_and, if_neg Bool.false_ne_true,
        replaced_single alone]

theorem transfer_append (single : Single text) : transfer (text ++ rest) = text ++ transfer rest := by
  induction text with
  | nil => rfl
  | cons first text ih =>
      rw [List.cons_append, transfer_cons (single first List.mem_cons_self),
        ih fun written isIn => single written (List.mem_cons_of_mem _ isIn), List.cons_append]

/-- A code unit that is no surrogate ends every pair before it. -/
theorem transfer_append_cons (alone : isSurrogate written = false) :
    transfer (text ++ written :: rest) = transfer text ++ written :: transfer rest := by
  have notLow : isLow written = false := (Bool.or_eq_false_iff.mp alone).2
  fun_induction transfer text with
  | case1 => exact transfer_cons alone
  | case2 first =>
      rw [List.cons_append, List.nil_append, transfer, notLow, Bool.and_false,
        if_neg Bool.false_ne_true, transfer_cons alone]
      rfl
  | case3 first second more pair ih =>
      rw [List.cons_append, List.cons_append, transfer, if_pos pair, ih]
      rfl
  | case4 first second more unpaired ih =>
      rw [List.cons_append] at ih
      rw [List.cons_append, List.cons_append, transfer, if_neg unpaired, ih]
      rfl

theorem transfer_wellFormed (wellFormed : WellFormed text) : transfer text = text := by
  induction wellFormed with
  | nil => rfl
  | single written rest alone _ ih => rw [transfer_cons alone, ih]
  | pair high low rest isFirst isSecond _ ih =>
      rw [transfer, isFirst, isSecond, Bool.and_self, if_pos rfl, ih]

theorem wellFormed_append (wellFormed : WellFormed text) (others : WellFormed rest) :
    WellFormed (text ++ rest) := by
  induction wellFormed with
  | nil => exact others
  | single written rest alone _ ih => exact .single _ _ alone ih
  | pair high low rest isFirst isSecond _ ih => exact .pair _ _ _ isFirst isSecond ih

theorem wellFormed_single (single : Single text) : WellFormed text := by
  induction text with
  | nil => exact .nil
  | cons first text ih =>
      exact .single _ _ (single first List.mem_cons_self)
        (ih fun written isIn => single written (List.mem_cons_of_mem _ isIn))

/-- Writing a text code unit by code unit, surrogates as they are, and sending it. -/
theorem transfer_flatMap (write : CodeUnit → Text)
    (surrogate : ∀ written, isSurrogate written = true → write written = [written])
    (single : ∀ written, isSurrogate written = false → write written ≠ [] ∧ Single (write written))
    (mark : write (unit '?') = [unit '?']) :
    transfer (text.flatMap write) = (transfer text).flatMap write := by
  fun_induction transfer text with
  | case1 => rfl
  | case2 first =>
      rw [List.flatMap_singleton, List.flatMap_singleton]
      cases alone : isSurrogate first with
      | true => rw [surrogate first alone, transfer, replaced, if_pos alone, mark]
      | false =>
          have whole : transfer (write first ++ []) = write first ++ transfer [] :=
            transfer_append (single first alone).2
          rw [List.append_nil, transfer, List.append_nil] at whole
          rw [whole, replaced_single alone]
  | case3 first second more pair ih =>
      have both := Bool.and_eq_true_iff.mp pair
      have one := surrogate first (by simp [isSurrogate, both.1])
      have other := surrogate second (by simp [isSurrogate, both.2])
      simp only [List.flatMap_cons, one, other, List.cons_append, List.nil_append]
      rw [transfer, if_pos pair, ih]
  | case4 first second more unpaired ih =>
      have after : (replaced first :: transfer (second :: more)).flatMap write =
          write (replaced first) ++ transfer ((second :: more).flatMap write) := by
        rw [List.flatMap_cons, ih]
      rw [after, List.flatMap_cons]
      cases alone : isSurrogate first with
      | false => rw [transfer_append (single first alone).2, replaced_single alone]
      | true =>
          rw [surrogate first alone, replaced, if_pos alone, mark, List.flatMap_cons]
          obtain ⟨next, others, writes, notPair⟩ : ∃ next others, write second = next :: others ∧
              ¬ (isHigh first && isLow next) = true := by
            cases aloneToo : isSurrogate second with
            | true => exact ⟨second, [], surrogate second aloneToo, unpaired⟩
            | false =>
                obtain ⟨next, others, writes⟩ := List.exists_cons_of_ne_nil (single second aloneToo).1
                have isSingle := (single second aloneToo).2 next (by simp [writes])
                refine ⟨next, others, writes, ?_⟩
                simp [(Bool.or_eq_false_iff.mp isSingle).2]
          rw [writes, List.cons_append, List.cons_append, List.nil_append, transfer, if_neg notPair,
            replaced, if_pos alone]
          rfl

end SelfCheckout.Data.Rfc8259
