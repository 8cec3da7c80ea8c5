import Mathlib.Data.List.Nodup

namespace SelfCheckout.Data.Rfc8259

/-! # JSON texts

Value trees over UTF-16 code units, with any kind of number at their leaves, and the texts of
RFC 8259 that spell them.  A tree's objects list their members in the order of the text.
-/

abbrev CodeUnit := UInt16

abbrev Text := List CodeUnit

/-- The code unit of an ASCII character. -/
def unit (character : Char) : CodeUnit := UInt16.ofNat character.toNat

def units (text : String) : Text := text.toList.map unit

inductive Value (Number : Type) where
  | null
  | bool (value : Bool)
  | num (number : Number)
  | str (text : Text)
  | arr (items : List (Value Number))
  | obj (members : List (Text × Value Number))

mutual

/-- The tree with each number read. -/
def Value.map {Number Read : Type} (read : Number → Read) : Value Number → Value Read
  | .null => .null
  | .bool value => .bool value
  | .num number => .num (read number)
  | .str text => .str text
  | .arr items => .arr (Value.mapItems read items)
  | .obj members => .obj (Value.mapMembers read members)

def Value.mapItems {Number Read : Type} (read : Number → Read) :
    List (Value Number) → List (Value Read)
  | [] => []
  | item :: items => item.map read :: Value.mapItems read items

def Value.mapMembers {Number Read : Type} (read : Number → Read) :
    List (Text × Value Number) → List (Text × Value Read)
  | [] => []
  | (key, value) :: members => (key, value.map read) :: Value.mapMembers read members

end

theorem Value.keys_mapMembers {Number Read : Type} (read : Number → Read)
    (members : List (Text × Value Number)) :
    (Value.mapMembers read members).map Prod.fst = members.map Prod.fst := by
  induction members with
  | nil => rfl
  | cons member members ih =>
      obtain ⟨key, value⟩ := member
      simp only [Value.mapMembers, List.map_cons, ih]

/-- `ws` -/
def Ws (text : Text) : Prop :=
  ∀ space ∈ text, space ∈ [unit ' ', unit '\t', unit '\n', unit '\r']

instance (text : Text) : Decidable (Ws text) :=
  List.decidableBAll (· ∈ [unit ' ', unit '\t', unit '\n', unit '\r']) text

inductive HexDigit : Nat → CodeUnit → Prop where
  | digit (value : Nat) (bound : value < 10) : HexDigit value (UInt16.ofNat (0x30 + value))
  | upper (value : Nat) (bound : value < 6) : HexDigit (10 + value) (UInt16.ofNat (0x41 + value))
  | lower (value : Nat) (bound : value < 6) : HexDigit (10 + value) (UInt16.ofNat (0x61 + value))

/-- A code unit and the letter of its short escape. -/
def shortEscapes : List (CodeUnit × CodeUnit) :=
  [(unit '"', unit '"'), (unit '\\', unit '\\'), (unit '/', unit '/'), (0x08, unit 'b'),
    (0x0C, unit 'f'), (0x0A, unit 'n'), (0x0D, unit 'r'), (0x09, unit 't')]

/-- `char`: the ways to write a code unit in a string. -/
inductive CharText : CodeUnit → Text → Prop where
  | unescaped (written : CodeUnit) (control : 0x20 ≤ written) (quotation : written ≠ unit '"')
      (reverseSolidus : written ≠ unit '\\') : CharText written [written]
  | short (meant letter : CodeUnit) (escape : (meant, letter) ∈ shortEscapes) :
      CharText meant [unit '\\', letter]
  | hex (first second third fourth : Nat) (one two three four : CodeUnit)
      (isOne : HexDigit first one) (isTwo : HexDigit second two) (isThree : HexDigit third three)
      (isFour : HexDigit fourth four) :
      CharText (UInt16.ofNat (((first * 16 + second) * 16 + third) * 16 + fourth))
        [unit '\\', unit 'u', one, two, three, four]

/-- What stands between the quotation marks of a string. -/
inductive CharsText : Text → Text → Prop where
  | nil : CharsText [] []
  | cons {meant : CodeUnit} {text : Text} {written more : Text} (first : CharText meant written)
      (rest : CharsText text more) : CharsText (meant :: text) (written ++ more)

def digits : Text := units "0123456789"

/-- `1*DIGIT` -/
def Digits (text : Text) : Prop := text ≠ [] ∧ ∀ digit ∈ text, digit ∈ digits

/-- `number` -/
structure NumberText (text : Text) : Prop where
  parts : ∃ minus int frac exp, text = minus ++ int ++ frac ++ exp ∧
    (minus = [] ∨ minus = [unit '-']) ∧
    (int = [unit '0'] ∨ Digits int ∧ int.head? ≠ some (unit '0')) ∧
    (frac = [] ∨ ∃ ds, frac = unit '.' :: ds ∧ Digits ds) ∧
    (exp = [] ∨ ∃ e sign ds, exp = e :: sign ++ ds ∧ e ∈ units "eE" ∧
      (sign = [] ∨ sign = [unit '-'] ∨ sign = [unit '+']) ∧ Digits ds)

/-- The parts of a text that the grammar derives. -/
inductive Phrase where
  | value (value : Value Text)
  | items (items : List (Value Text))
  | members (members : List (Text × Value Text))

/-- What stands between the brackets, or the braces, of a value is spelt with the whitespace around
its structural characters; an object's keys are distinct. -/
inductive Spells : Phrase → Text → Prop where
  | null : Spells (.value .null) (units "null")
  | true : Spells (.value (.bool true)) (units "true")
  | false : Spells (.value (.bool false)) (units "false")
  | num (literal : Text) (number : NumberText literal) : Spells (.value (.num literal)) literal
  | str (text written : Text) (chars : CharsText text written) :
      Spells (.value (.str text)) (unit '"' :: written ++ [unit '"'])
  | arr (items : List (Value Text)) (written : Text) (spelt : Spells (.items items) written) :
      Spells (.value (.arr items)) (unit '[' :: written ++ [unit ']'])
  | obj (members : List (Text × Value Text)) (written : Text)
      (distinct : (members.map Prod.fst).Nodup) (spelt : Spells (.members members) written) :
      Spells (.value (.obj members)) (unit '{' :: written ++ [unit '}'])
  | noItems (space : Text) (ws : Ws space) : Spells (.items []) space
  | item (value : Value Text) (before written after : Text) (wsBefore : Ws before)
      (wsAfter : Ws after) (spelt : Spells (.value value) written) :
      Spells (.items [value]) (before ++ written ++ after)
  | moreItems (value next : Value Text) (items : List (Value Text))
      (before written after others : Text) (wsBefore : Ws before) (wsAfter : Ws after)
      (spelt : Spells (.value value) written) (more : Spells (.items (next :: items)) others) :
      Spells (.items (value :: next :: items)) (before ++ written ++ after ++ unit ',' :: others)
  | noMembers (space : Text) (ws : Ws space) : Spells (.members []) space
  | member (key : Text) (value : Value Text) (before name afterName beforeValue written after : Text)
      (wsBefore : Ws before) (wsName : Ws afterName) (wsValue : Ws beforeValue) (wsAfter : Ws after)
      (chars : CharsText key name) (spelt : Spells (.value value) written) :
      Spells (.members [(key, value)])
        (before ++ unit '"' :: name ++ unit '"' :: afterName ++ unit ':' :: beforeValue ++ written ++
          after)
  | moreMembers (key : Text) (value : Value Text) (next : Text × Value Text)
      (members : List (Text × Value Text))
      (before name afterName beforeValue written after others : Text)
      (wsBefore : Ws before) (wsName : Ws afterName) (wsValue : Ws beforeValue) (wsAfter : Ws after)
      (chars : CharsText key name) (spelt : Spells (.value value) written)
      (more : Spells (.members (next :: members)) others) :
      Spells (.members ((key, value) :: next :: members))
        (before ++ unit '"' :: name ++ unit '"' :: afterName ++ unit ':' :: beforeValue ++ written ++
          after ++ unit ',' :: others)

/-- `JSON-text` -/
inductive JsonText : Value Text → Text → Prop where
  | text (value : Value Text) (before written after : Text) (wsBefore : Ws before)
      (wsAfter : Ws after) (spelt : Spells (.value value) written) :
      JsonText value (before ++ written ++ after)

end SelfCheckout.Data.Rfc8259
