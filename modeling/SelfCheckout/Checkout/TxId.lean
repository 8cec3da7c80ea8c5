import SelfCheckout.Checkout.Saga
import SelfCheckout.Python
import Mathlib.Data.Bool.AllAny
import Mathlib.Data.List.TakeWhile

namespace SelfCheckout.Checkout

open SelfCheckout.Data SelfCheckout.Python

/-! # Transaction ids

`public_id` prints an id and `parse_tx_id` reads one from a path.  Which texts it reads as
the id they print, and which it reads although they are no printed id.
-/

/-- What a handler raises: an error of the contract, or any other exception. -/
inductive Raised where
  | refused (refusal : Refusal)
  | exception
deriving DecidableEq, Repr

/-- The largest value of the `bigint` column. -/
def bigintMax : Nat := 2 ^ 63 - 1

/-- `_TX_ID.match`, with its group: `\d` is a decimal digit of any script, and `$` also
matches before a newline that ends the text.  Giving back digits cannot help `$`. -/
def matchTxId : List Char → Option (List Char)
  | 't' :: 'x' :: '-' :: rest =>
      if rest.takeWhile isDecimal ≠ [] ∧
          (rest.dropWhile isDecimal = [] ∨ rest.dropWhile isDecimal = ['\n']) then
        some (rest.takeWhile isDecimal)
      else none
  | _ => none

def txIdNotFound (publicId : String) : Refusal :=
  .apiError ⟨"TRANSACTION_NOT_FOUND", 404, "Transaction " ++ publicId ++ " was not found."⟩

/-- `parse_tx_id` -/
def parseTxId (publicId : String) : Except Raised Int :=
  match matchTxId publicId.toList with
  | none => .error (.refused (txIdNotFound publicId))
  | some group =>
      match int group with
      | some number => .ok number
      | none => .error .exception

/-- The text is read as the number it prints, and where it prints none that a row can have, the
answer is the 404. -/
def ParsesAsPrinted (text : String) : Prop :=
  (∀ number : Int, parseTxId text = .ok number ↔
    ∃ tx : Nat, number = tx ∧ tx ≤ bigintMax ∧ text = publicId tx) ∧
  ((∀ tx ≤ bigintMax, text ≠ publicId tx) → parseTxId text = .error (.refused (txIdNotFound text)))

/-- `tx-` and decimal digits, and at most a newline after them. -/
structure TxIdText (text : String) (digits ending : List Char) : Prop where
  text_eq : text.toList = 't' :: 'x' :: '-' :: (digits ++ ending)
  nonempty : digits ≠ []
  decimals : ∀ digit ∈ digits, isDecimal digit
  ends : ending = [] ∨ ending = ['\n']

/-- The digits are ASCII digits, the first of several is not a zero, no newline follows, and
the number fits its column. -/
structure PrintedForm (digits ending : List Char) : Prop where
  canonical : Canonical digits
  noNewline : ending = []
  fits : Nat.ofDigitChars 10 digits 0 ≤ bigintMax

variable {text : String} {digits ending : List Char}

theorem toList_publicId (tx : Nat) :
    (publicId tx).toList = 't' :: 'x' :: '-' :: Nat.toDigits 10 tx := by
  simp [publicId]

/-- A run of digits and an ending without one are told apart. -/
theorem takeWhile_digits (decimals : ∀ digit ∈ digits, isDecimal digit)
    (ends : ending = [] ∨ ending = ['\n']) :
    (digits ++ ending).takeWhile isDecimal = digits ∧
      (digits ++ ending).dropWhile isDecimal = ending := by
  have stops : ending.takeWhile isDecimal = [] ∧ ending.dropWhile isDecimal = ending := by
    rcases ends with rfl | rfl <;> decide
  rw [List.takeWhile_append_of_pos decimals, List.dropWhile_append_of_pos decimals, stops.1, stops.2]
  simp

theorem matchTxId_of_text (isText : TxIdText text digits ending) :
    matchTxId text.toList = some digits := by
  obtain ⟨taken, dropped⟩ := takeWhile_digits isText.decimals isText.ends
  simp only [isText.text_eq, matchTxId, taken, dropped]
  exact if_pos ⟨isText.nonempty, isText.ends⟩

theorem text_of_matchTxId {group : List Char} (found : matchTxId text.toList = some group) :
    ∃ ending, TxIdText text group ending := by
  unfold matchTxId at found
  split at found
  · rename_i rest isPrefixed
    split at found
    · rename_i holds
      cases found
      exact ⟨rest.dropWhile isDecimal, by rw [isPrefixed, List.takeWhile_append_dropWhile], holds.1,
        fun digit isIn => List.mem_takeWhile_imp isIn, holds.2⟩
    · contradiction
  · contradiction

theorem txIdText_publicId (tx : Nat) : TxIdText (publicId tx) (Nat.toDigits 10 tx) [] where
  text_eq := by simp [toList_publicId]
  nonempty := by simp
  decimals digit isIn :=
    isDecimal_of_isDigit (Nat.isDigit_of_mem_toDigits (by decide) (by decide) isIn)
  ends := .inl rfl

theorem parseTxId_of_text (isText : TxIdText text digits ending) :
    parseTxId text = match int digits with
      | some number => .ok number
      | none => .error .exception := by
  rw [parseTxId, matchTxId_of_text isText]

theorem parseTxId_of_noText (noText : ∀ digits ending, ¬ TxIdText text digits ending) :
    parseTxId text = .error (.refused (txIdNotFound text)) := by
  cases found : matchTxId text.toList with
  | none => rw [parseTxId, found]
  | some group =>
      obtain ⟨ending, isText⟩ := text_of_matchTxId found
      exact absurd isText (noText group ending)

/-- A number of the column has few enough digits for `int`. -/
theorem short_of_fits {tx : Nat} (fits : tx ≤ bigintMax) :
    (Nat.toDigits 10 tx).length ≤ maxStrDigits := by
  have less : tx < 10 ^ 19 := by
    have bound : bigintMax < 10 ^ 19 := by decide
    omega
  have length : (Nat.toDigits 10 tx).length ≤ 19 :=
    (Nat.length_toDigits_le_iff (by decide) (by decide)).mpr less
  have limit : (19 : Nat) ≤ maxStrDigits := by decide
  omega

theorem parseTxId_publicId {tx : Nat} (fits : tx ≤ bigintMax) :
    parseTxId (publicId tx) = .ok (tx : Int) := by
  rw [parseTxId_of_text (txIdText_publicId tx), int_toDigits (short_of_fits fits)]

theorem text_of_printedForm (isText : TxIdText text digits ending)
    (printed : PrintedForm digits ending) : text = publicId (Nat.ofDigitChars 10 digits 0) := by
  apply String.toList_injective
  rw [isText.text_eq, toList_publicId, toDigits_ofDigitChars printed.canonical, printed.noNewline,
    List.append_nil]

theorem printedForm_of_text {tx : Nat} (isText : TxIdText (publicId tx) digits ending)
    (fits : tx ≤ bigintMax) : PrintedForm digits ending := by
  have same : Nat.toDigits 10 tx = digits ++ ending := by
    simpa [toList_publicId] using isText.text_eq
  have noNewline : ending = [] := by
    rcases isText.ends with noNewline | newline
    · exact noNewline
    · have isIn : '\n' ∈ Nat.toDigits 10 tx := by simp [same, newline]
      exact absurd (Nat.isDigit_of_mem_toDigits (by decide) (by decide) isIn) (by decide)
  rw [noNewline, List.append_nil] at same
  exact
    { canonical := same ▸ canonical_toDigits tx
      noNewline
      fits := by rwa [← same, Nat.ofDigitChars_ten_toDigits] }

/-- A text parses as the id it prints exactly if it does not have the form `parse_tx_id` looks
for, or has it as `public_id` prints it.  Where all texts do, two ids that are accepted name two
transactions, and every one fits its column. -/
theorem parseTxId_as_printed (text : String) :
    (ParsesAsPrinted text ↔
      ∀ digits ending, TxIdText text digits ending → PrintedForm digits ending) ∧
    (∀ number : Int, ParsesAsPrinted text → parseTxId text = .ok number →
      0 ≤ number ∧ number ≤ bigintMax ∧
      ∀ other, ParsesAsPrinted other → parseTxId other = .ok number → other = text) := by
  refine ⟨⟨?_, ?_⟩, ?_⟩
  · rintro ⟨accepts, rejects⟩ digits ending isText
    -- what has the form does not get the 404, so it is a printed id
    have printed : ∃ tx ≤ bigintMax, text = publicId tx := by
      by_contra none
      have raised := rejects (fun tx fits same => none ⟨tx, fits, same⟩)
      rw [parseTxId_of_text isText] at raised
      cases found : int digits with
      | some number => simp [found] at raised
      | none => simp [found] at raised
    obtain ⟨tx, fits, rfl⟩ := printed
    exact printedForm_of_text isText fits
  · intro form
    by_cases noText : ∀ digits ending, ¬ TxIdText text digits ending
    · have raised := parseTxId_of_noText noText
      refine ⟨fun number => ⟨fun found => ?_, ?_⟩, fun _ => raised⟩
      · rw [raised] at found
        contradiction
      · rintro ⟨tx, -, -, rfl⟩
        exact absurd (txIdText_publicId tx) (noText _ _)
    · simp only [not_forall, not_not] at noText
      obtain ⟨digits, ending, isText⟩ := noText
      have printed := form digits ending isText
      have isPublic := text_of_printedForm isText printed
      have parsed := parseTxId_publicId printed.fits
      rw [← isPublic] at parsed
      refine ⟨fun number => ⟨fun found => ?_, ?_⟩, fun none => absurd isPublic (none _ printed.fits)⟩
      · rw [parsed] at found
        cases found
        exact ⟨_, rfl, printed.fits, isPublic⟩
      · rintro ⟨tx, rfl, fits, rfl⟩
        exact parseTxId_publicId fits
  · intro number law found
    obtain ⟨tx, rfl, fits, isPublic⟩ := (law.1 number).mp found
    refine ⟨by omega, by exact_mod_cast fits, fun other otherLaw otherFound => ?_⟩
    obtain ⟨otherTx, same, -, otherPublic⟩ := (otherLaw.1 _).mp otherFound
    rw [isPublic, otherPublic, Int.ofNat_inj.mp same]

/-- A trailing newline, a leading zero and an Arabic digit are read as transaction 1, and a
number no row can have is handed to the database. -/
theorem parseTxId_not_as_printed :
    parseTxId "tx-1\n" = .ok 1 ∧ parseTxId "tx-01" = .ok 1 ∧ parseTxId "tx-١" = .ok 1 ∧
      parseTxId "tx-9223372036854775808" = .ok 9223372036854775808 ∧
      ¬ ∀ text, ParsesAsPrinted text := by
  have newline : parseTxId "tx-1\n" = .ok 1 := by decide +kernel
  refine ⟨newline, by decide +kernel, by decide +kernel, by decide +kernel, fun law => ?_⟩
  obtain ⟨tx, -, -, isPublic⟩ := ((law "tx-1\n").1 1).mp newline
  have isIn : '\n' ∈ (publicId tx).toList := isPublic ▸ (by decide)
  rw [toList_publicId] at isIn
  have digit : '\n' ∈ Nat.toDigits 10 tx := by simpa using isIn
  exact absurd (Nat.isDigit_of_mem_toDigits (by decide) (by decide) digit) (by decide)

end SelfCheckout.Checkout
