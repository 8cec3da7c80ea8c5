import SelfCheckout.Data.Numerals
import SelfCheckout.Data.Rfc8259

namespace SelfCheckout.Data.Rfc8259

/-! # Writing JSON

Objects and arrays written one member after another, with any whitespace around each, and the
texts that need no escape between quotation marks.
-/

/-- A code unit that stands for itself in a string. -/
def Plain (written : CodeUnit) : Prop :=
  0x20 ≤ written ∧ written ≠ unit '"' ∧ written ≠ unit '\\'

instance (written : CodeUnit) : Decidable (Plain written) :=
  inferInstanceAs (Decidable (_ ∧ _ ∧ _))

def PlainText (text : Text) : Prop := ∀ written ∈ text, Plain written

instance (text : Text) : Decidable (PlainText text) :=
  List.decidableBAll Plain text

theorem charsText_plain {text : Text} (plain : PlainText text) : CharsText text text := by
  induction text with
  | nil => exact .nil
  | cons first rest ih =>
      obtain ⟨control, quotation, reverseSolidus⟩ := plain first List.mem_cons_self
      exact .cons (.unescaped first control quotation reverseSolidus)
        (ih fun written isIn => plain written (List.mem_cons_of_mem _ isIn))

/-- An item as it is written. -/
structure Item where
  before : Text
  value : Value Text
  written : Text
  after : Text

def Item.text (item : Item) : Text := item.before ++ item.written ++ item.after

structure Item.Sound (item : Item) : Prop where
  before : Ws item.before
  after : Ws item.after
  spelt : Spells (.value item.value) item.written

/-- A member as it is written; its key needs no escape. -/
structure Member extends Item where
  key : Text
  beforeValue : Text

def Member.text (member : Member) : Text :=
  member.before ++ unit '"' :: member.key ++ unit '"' :: [] ++ unit ':' :: member.beforeValue ++
    member.written ++ member.after

def Member.entry (member : Member) : Text × Value Text := (member.key, member.value)

structure Member.Sound (member : Member) : Prop extends member.toItem.Sound where
  key : PlainText member.key
  beforeValue : Ws member.beforeValue

def joined : List Text → Text
  | [] => []
  | [text] => text
  | text :: next :: texts => text ++ unit ',' :: joined (next :: texts)

theorem spells_members {member : Member} {members : List Member}
    (sound : ∀ one ∈ member :: members, one.Sound) :
    Spells (.members ((member :: members).map Member.entry))
      (joined ((member :: members).map Member.text)) := by
  induction members generalizing member with
  | nil =>
      obtain ⟨⟨before, after, spelt⟩, key, beforeValue⟩ := sound member List.mem_cons_self
      exact .member _ _ _ _ [] _ _ _ before (by decide) beforeValue after (charsText_plain key) spelt
  | cons next members ih =>
      obtain ⟨⟨before, after, spelt⟩, key, beforeValue⟩ := sound member List.mem_cons_self
      exact .moreMembers _ _ _ _ _ _ [] _ _ _ _ before (by decide) beforeValue after
        (charsText_plain key) spelt (ih fun one isIn => sound one (List.mem_cons_of_mem _ isIn))

def decimal (number : Nat) : Text := (Nat.toDigits 10 number).map unit

/-- The number that a numeral without leading zeros writes. -/
def numberOf (text : Text) : Option Nat :=
  let number := Nat.ofDigitChars 10 (text.map (fun written => Char.ofNat written.toNat)) 0
  if decimal number = text then some number else none

theorem unit_digit {digit : Char} (isDigit : digit.isDigit) :
    unit digit ∈ digits ∧ Char.ofNat (unit digit).toNat = digit ∧ Plain (unit digit) ∧
      (unit digit = unit '0' → digit = '0') := by
  have all : ∀ value < 10, unit (Nat.digitChar value) ∈ digits ∧
      Char.ofNat (unit (Nat.digitChar value)).toNat = Nat.digitChar value ∧
      Plain (unit (Nat.digitChar value)) ∧
      (unit (Nat.digitChar value) = unit '0' → Nat.digitChar value = '0') := by
    decide
  obtain ⟨isChar, small⟩ := digitChar_of_isDigit isDigit
  have one := all _ small
  rwa [isChar] at one

theorem numberOf_decimal (number : Nat) : numberOf (decimal number) = some number := by
  have back : (decimal number).map (fun written => Char.ofNat written.toNat) =
      Nat.toDigits 10 number := by
    rw [decimal, List.map_map]
    refine (List.map_congr_left fun digit isIn => ?_).trans (List.map_id _)
    exact (unit_digit ((canonical_toDigits number).2.1 digit isIn)).2.1
  have value : Nat.ofDigitChars 10 (Nat.toDigits 10 number) 0 = number := by simp
  simp only [numberOf, back, value, ↓reduceIte]

/-- A decimal numeral is the `int` of a number. -/
theorem int_decimal (number : Nat) :
    decimal number = [unit '0'] ∨ Digits (decimal number) ∧ (decimal number).head? ≠ some (unit '0') := by
  obtain ⟨_, areDigits, leading⟩ := canonical_toDigits number
  by_cases zero : Nat.toDigits 10 number = ['0']
  · exact .inl (by rw [decimal, zero]; rfl)
  · refine .inr ⟨⟨by simp [decimal], fun digit isIn => ?_⟩, fun first => zero (leading ?_)⟩
    · obtain ⟨char, isChar, rfl⟩ := List.mem_map.mp isIn
      exact (unit_digit (areDigits char isChar)).1
    · rw [decimal, List.head?_map] at first
      obtain ⟨char, isFirst, same⟩ := Option.map_eq_some_iff.mp first
      rw [isFirst, (unit_digit (areDigits char (List.mem_of_head? isFirst))).2.2.2 same]

theorem numberText_decimal (number : Nat) : NumberText (decimal number) :=
  ⟨[], decimal number, [], [], by simp, .inl rfl, int_decimal number, .inl rfl, .inl rfl⟩

/-- A number with its sign. -/
def integer (number : Int) : Text :=
  if number < 0 then unit '-' :: decimal number.natAbs else decimal number.natAbs

theorem numberText_integer (number : Int) : NumberText (integer number) := by
  unfold integer
  split
  · exact ⟨[unit '-'], decimal number.natAbs, [], [], by simp, .inr rfl, int_decimal _, .inl rfl,
      .inl rfl⟩
  · exact numberText_decimal number.natAbs

end SelfCheckout.Data.Rfc8259
