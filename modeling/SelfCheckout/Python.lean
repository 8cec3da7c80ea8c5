import SelfCheckout.Data.Numerals

namespace SelfCheckout.Python

open SelfCheckout.Data

/-! # Texts as Python's standard library reads them

The decimal digits and the white space of Unicode, and the number `int` makes of a text.
-/

/-- The zeros of the decimal digits, Unicode category Nd; their nine successors follow each. -/
def decimalZeros : List Nat :=
  [48, 1632, 1776, 1984, 2406, 2534, 2662, 2790, 2918, 3046, 3174, 3302, 3430, 3558, 3664, 3792,
    3872, 4160, 4240, 6112, 6160, 6470, 6608, 6784, 6800, 6992, 7088, 7232, 7248, 42528, 43216,
    43264, 43472, 43504, 43600, 44016, 65296, 66720, 68912, 69734, 69872, 69942, 70096, 70384,
    70736, 70864, 71248, 71360, 71472, 71904, 72016, 72784, 73040, 73120, 92768, 92864, 93008,
    120782, 120792, 120802, 120812, 120822, 123200, 123632, 125264, 130032]

/-- The value of a decimal digit of any script. -/
def decimalValue (digit : Char) : Option Nat :=
  (decimalZeros.find? (fun first => decide (first ≤ digit.toNat ∧ digit.toNat < first + 10))).map
    (fun first => digit.toNat - first)

def isDecimal (character : Char) : Bool := (decimalValue character).isSome

def spaces : List Nat :=
  [9, 10, 11, 12, 13, 28, 29, 30, 31, 32, 133, 160, 5760, 8192, 8193, 8194, 8195, 8196, 8197, 8198,
    8199, 8200, 8201, 8202, 8232, 8233, 8239, 8287, 12288]

/-- `str.isspace` -/
def isSpace (character : Char) : Bool := decide (character.toNat ∈ spaces)

/-- `str.strip` -/
def strip (text : List Char) : List Char :=
  ((text.dropWhile isSpace).reverse.dropWhile isSpace).reverse

/-- Digits with single underscores between them, and nothing else. -/
def digitPart : List Char → Option (List Nat)
  | [] => none
  | [digit] => (decimalValue digit).map (fun value => [value])
  | digit :: '_' :: rest =>
      (decimalValue digit).bind (fun value => (digitPart rest).map (fun values => value :: values))
  | digit :: next :: rest =>
      (decimalValue digit).bind (fun value =>
        (digitPart (next :: rest)).map (fun values => value :: values))

def numberOf (digits : List Nat) : Nat := digits.foldl (fun sofar digit => 10 * sofar + digit) 0

/-- `sys.int_info.default_max_str_digits` -/
def maxStrDigits : Nat := 4300

def signed : List Char → Int × List Char
  | '-' :: rest => (-1, rest)
  | '+' :: rest => (1, rest)
  | text => (1, text)

/-- `int` of a text; `none` where it raises `ValueError`. -/
def int (text : List Char) : Option Int :=
  (digitPart (signed (strip text)).2).bind (fun digits =>
    if digits.length ≤ maxStrDigits then some ((signed (strip text)).1 * numberOf digits) else none)

theorem decimalValue_of_isDigit {digit : Char} (isDigit : digit.isDigit) :
    decimalValue digit = some (digit.toNat - 48) := by
  have range : 48 ≤ digit.toNat ∧ digit.toNat ≤ 57 := by
    simpa [Char.isDigit, UInt32.le_iff_toNat_le] using isDigit
  have within : 48 ≤ digit.toNat ∧ digit.toNat < 48 + 10 := by omega
  rw [decimalValue, decimalZeros, List.find?_cons_of_pos (by simpa using within)]
  rfl

theorem isDecimal_of_isDigit {digit : Char} (isDigit : digit.isDigit) : isDecimal digit := by
  simp [isDecimal, decimalValue_of_isDigit isDigit]

/-- No decimal digit is white space. -/
theorem isSpace_of_isDecimal {character : Char} (decimal : isDecimal character) :
    isSpace character = false := by
  have apart : ∀ space ∈ spaces, ∀ first ∈ decimalZeros, ¬ (first ≤ space ∧ space < first + 10) := by
    decide +kernel
  simp only [isDecimal, decimalValue, Option.isSome_map, List.find?_isSome, decide_eq_true_eq]
    at decimal
  obtain ⟨first, isIn, range⟩ := decimal
  simp only [isSpace, decide_eq_false_iff_not]
  intro space
  exact apart _ space first isIn range

theorem strip_of_decimals {text : List Char} (decimals : ∀ digit ∈ text, isDecimal digit) :
    strip text = text := by
  have whole : ∀ other : List Char, (∀ digit ∈ other, isDecimal digit) →
      other.dropWhile isSpace = other := by
    intro other areDecimals
    cases other with
    | nil => rfl
    | cons digit rest =>
        rw [List.dropWhile_cons_of_neg (by simp [isSpace_of_isDecimal (areDecimals digit (by simp))])]
  rw [strip, whole text decimals, whole text.reverse (fun digit isIn => decimals digit (by simpa using isIn)),
    List.reverse_reverse]

theorem digitPart_of_decimals {text : List Char} (nonempty : text ≠ [])
    (decimals : ∀ digit ∈ text, isDecimal digit) :
    digitPart text = some (text.map (fun digit => (decimalValue digit).getD 0)) := by
  have value : ∀ digit, isDecimal digit → decimalValue digit = some ((decimalValue digit).getD 0) := by
    intro digit decimal
    cases found : decimalValue digit with
    | none => simp [isDecimal, found] at decimal
    | some _ => rfl
  induction text using digitPart.induct with
  | case1 => exact absurd rfl nonempty
  | case2 digit =>
      rw [digitPart, value digit (decimals digit (by simp))]
      rfl
  | case3 digit rest ih =>
      exact absurd (decimals '_' (by simp)) (by decide)
  | case4 digit next rest noUnderscore ih =>
      rw [digitPart, value digit (decimals digit (by simp)),
        ih (by simp) (fun other isIn => decimals other (by simp [isIn]))]
      · rfl
      · exact noUnderscore

theorem signed_of_decimals {text : List Char} (decimals : ∀ digit ∈ text, isDecimal digit) :
    signed text = (1, text) := by
  unfold signed
  split
  · exact absurd (decimals '-' (by simp)) (by decide)
  · exact absurd (decimals '+' (by simp)) (by decide)
  · rfl

/-- `int` of a text of decimal digits. -/
theorem int_of_decimals {text : List Char} (nonempty : text ≠ [])
    (decimals : ∀ digit ∈ text, isDecimal digit) :
    int text = if text.length ≤ maxStrDigits then
      some (numberOf (text.map (fun digit => (decimalValue digit).getD 0)) : Int) else none := by
  rw [int, strip_of_decimals decimals, signed_of_decimals decimals,
    digitPart_of_decimals nonempty decimals]
  simp

theorem numberOf_digits {text : List Char} (areDigits : ∀ digit ∈ text, digit.isDigit) :
    numberOf (text.map (fun digit => (decimalValue digit).getD 0)) = Nat.ofDigitChars 10 text 0 := by
  have start : ∀ sofar, (text.map (fun digit => (decimalValue digit).getD 0)).foldl
      (fun sofar digit => 10 * sofar + digit) sofar = Nat.ofDigitChars 10 text sofar := by
    induction text with
    | nil => simp
    | cons digit rest ih =>
        intro sofar
        rw [List.map_cons, List.foldl_cons, decimalValue_of_isDigit (areDigits digit (by simp)),
          ih (fun other isIn => areDigits other (by simp [isIn])), Nat.ofDigitChars_cons]
        rfl
  exact start 0

/-- `int` reads back what `str` writes. -/
theorem int_toDigits {value : Nat} (short : (Nat.toDigits 10 value).length ≤ maxStrDigits) :
    int (Nat.toDigits 10 value) = some (value : Int) := by
  have areDigits : ∀ digit ∈ Nat.toDigits 10 value, digit.isDigit :=
    fun digit isIn => Nat.isDigit_of_mem_toDigits (by decide) (by decide) isIn
  rw [int_of_decimals (by simp) (fun digit isIn => isDecimal_of_isDigit (areDigits digit isIn)),
    if_pos short, numberOf_digits areDigits, Nat.ofDigitChars_ten_toDigits]

end SelfCheckout.Python
