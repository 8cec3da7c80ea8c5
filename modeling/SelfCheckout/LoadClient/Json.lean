import Mathlib.Data.Bool.AllAny
import Mathlib.Data.List.DropRight
import Mathlib.Tactic.IntervalCases
import SelfCheckout.Data.Rfc8259
import SelfCheckout.Data.Table
import SelfCheckout.Python

namespace SelfCheckout.LoadClient

open SelfCheckout.Data SelfCheckout.Data.Rfc8259

/-! # The load client's JSON parser

`Parser` over a string of UTF-16 code units.  Its cursor is kept as what is left of the string;
`pos` is what has been read.  Of `Double.parseDouble` nothing is assumed here.
-/

inductive Thrown where
  | illegalArgument (message : Text)
  | stringIndexOutOfBounds
  | numberFormat
  | outOfFuel
deriving DecidableEq, Repr

/-- `Character.isWhitespace`: space separators that break, line and paragraph separators, and the
control characters that are taken for space. -/
def isWhitespace (character : CodeUnit) : Bool :=
  let code := character.toNat
  decide (0x09 ≤ code ∧ code ≤ 0x0D ∨ 0x1C ≤ code ∧ code ≤ 0x20 ∨ code = 0x1680 ∨
    0x2000 ≤ code ∧ code ≤ 0x200A ∧ code ≠ 0x2007 ∨ code = 0x2028 ∨ code = 0x2029 ∨
    code = 0x205F ∨ code = 0x3000)

/-- `Character.digit(character, 16)` -/
def hexDigit (character : CodeUnit) : Option Nat :=
  let code := character.toNat
  if 0x41 ≤ code ∧ code ≤ 0x46 then some (code - 0x41 + 10)
  else if 0x61 ≤ code ∧ code ≤ 0x66 then some (code - 0x61 + 10)
  else if 0xFF21 ≤ code ∧ code ≤ 0xFF26 then some (code - 0xFF21 + 10)
  else if 0xFF41 ≤ code ∧ code ≤ 0xFF46 then some (code - 0xFF41 + 10)
  else (Python.decimalZeros.find? (fun first => first ≤ code ∧ code < first + 10)).map (code - ·)

def hexNumber (text : Text) : Option Nat :=
  text.foldlM (fun sofar character => (hexDigit character).map (16 * sofar + ·)) 0

/-- `Integer.parseInt(text, 16)`, of at most four code units. -/
def parseInt16 : Text → Option Int
  | [] => none
  | sign :: rest =>
      if sign = unit '-' then if rest = [] then none else (hexNumber rest).map (fun value => -(value : Int))
      else if sign = unit '+' then if rest = [] then none else (hexNumber rest).map Int.ofNat
      else (hexNumber (sign :: rest)).map Int.ofNat

def skipWhitespace (rest : Text) : Text := rest.dropWhile isWhitespace

def peek : Text → Except Thrown CodeUnit
  | [] => .error .stringIndexOutOfBounds
  | character :: _ => .ok character

def pos (s rest : Text) : Nat := s.length - rest.length

def context (s rest : Text) : Text :=
  let start := pos s rest - 20
  let stop := min s.length (pos s rest + 20)
  (s.drop start).take (stop - start)

def expect (s : Text) (c : CodeUnit) (rest : Text) : Except Thrown Text :=
  if rest.head? = some c then .ok rest.tail
  else .error (.illegalArgument (units "Expected '" ++ [c] ++ units "' at position " ++
    units (toString (pos s rest)) ++ units " in: " ++ context s rest))

def invalidLiteral (s rest : Text) : Thrown :=
  .illegalArgument (units "Invalid literal at " ++ units (toString (pos s rest)) ++ units ": " ++
    context s rest)

/-- What an escape other than `u` stands for. -/
def unescape (esc : CodeUnit) : Option CodeUnit :=
  [(unit '"', unit '"'), (unit '\\', unit '\\'), (unit '/', unit '/'), (unit 'n', 0x0A),
    (unit 't', 0x09), (unit 'r', 0x0D), (unit 'b', 0x08), (unit 'f', 0x0C)].lookup esc

/-- The loop of `parseStringValue`. -/
def stringLoop (sb : Text) : Text → Except Thrown (Text × Text)
  | [] => .error .stringIndexOutOfBounds
  | c :: rest =>
      if c = unit '"' then .ok (sb, rest)
      else if c = unit '\\' then
        match rest with
        | [] => .error .stringIndexOutOfBounds
        | esc :: rest =>
            if esc = unit 'u' then
              match rest with
              | one :: two :: three :: four :: rest =>
                  match parseInt16 [one, two, three, four] with
                  | some value => stringLoop (sb ++ [UInt16.ofInt value]) rest
                  | none => .error .numberFormat
              | _ => .error .stringIndexOutOfBounds
            else
              match unescape esc with
              | some meant => stringLoop (sb ++ [meant]) rest
              | none => .error (.illegalArgument (units "Unknown escape: \\" ++ [esc]))
      else stringLoop (sb ++ [c]) rest

def parseStringValue (s rest : Text) : Except Thrown (Text × Text) := do
  let rest ← expect s (unit '"') rest
  stringLoop [] rest

section

variable {Double : Type} (parseDouble : Text → Option Double) (s : Text)

def parseBooleanValue (rest : Text) : Except Thrown (Value Double × Text) :=
  if (units "true").isPrefixOf rest then .ok (.bool true, rest.drop 4)
  else if (units "false").isPrefixOf rest then .ok (.bool false, rest.drop 5)
  else .error (invalidLiteral s rest)

def parseNullValue (rest : Text) : Except Thrown (Value Double × Text) :=
  if (units "null").isPrefixOf rest then .ok (.null, rest.drop 4)
  else .error (invalidLiteral s rest)

def isNumberCharacter (character : CodeUnit) : Bool :=
  decide (character ∈ units "-+0123456789.eE")

def parseNumberValue (rest : Text) : Except Thrown (Value Double × Text) :=
  match parseDouble (rest.takeWhile isNumberCharacter) with
  | some value => .ok (.num value, rest.dropWhile isNumberCharacter)
  | none => .error .numberFormat

mutual

def parseValue : Nat → Text → Except Thrown (Value Double × Text)
  | 0, _ => .error .outOfFuel
  | fuel + 1, rest => do
      let rest := skipWhitespace rest
      let c ← peek rest
      if c = unit '{' then parseObjectValue fuel rest
      else if c = unit '[' then parseArrayValue fuel rest
      else if c = unit '"' then
        let (text, rest) ← parseStringValue s rest
        return (.str text, rest)
      else if c = unit 't' ∨ c = unit 'f' then parseBooleanValue s rest
      else if c = unit 'n' then parseNullValue s rest
      else parseNumberValue parseDouble rest

def parseObjectValue : Nat → Text → Except Thrown (Value Double × Text)
  | 0, _ => .error .outOfFuel
  | fuel + 1, rest => do
      let rest ← expect s (unit '{') rest
      let rest := skipWhitespace rest
      if (← peek rest) = unit '}' then return (.obj [], rest.tail)
      else memberLoop fuel [] rest

/-- The loop of `parseObjectValue`, with the map so far. -/
def memberLoop : Nat → List (Text × Value Double) → Text → Except Thrown (Value Double × Text)
  | 0, _, _ => .error .outOfFuel
  | fuel + 1, map, rest => do
      let (key, rest) ← parseStringValue s (skipWhitespace rest)
      let rest ← expect s (unit ':') (skipWhitespace rest)
      let (value, rest) ← parseValue fuel rest
      let map := Table.putRows map key value
      let rest := skipWhitespace rest
      if (← peek rest) = unit ',' then memberLoop fuel map rest.tail
      else
        let rest ← expect s (unit '}') rest
        return (.obj map, rest)

def parseArrayValue : Nat → Text → Except Thrown (Value Double × Text)
  | 0, _ => .error .outOfFuel
  | fuel + 1, rest => do
      let rest ← expect s (unit '[') rest
      let rest := skipWhitespace rest
      if (← peek rest) = unit ']' then return (.arr [], rest.tail)
      else elementLoop fuel [] rest

/-- The loop of `parseArrayValue`, with the list so far. -/
def elementLoop : Nat → List (Value Double) → Text → Except Thrown (Value Double × Text)
  | 0, _, _ => .error .outOfFuel
  | fuel + 1, list, rest => do
      let (value, rest) ← parseValue fuel rest
      let list := list ++ [value]
      let rest := skipWhitespace rest
      if (← peek rest) = unit ',' then elementLoop fuel list rest.tail
      else
        let rest ← expect s (unit ']') rest
        return (.arr list, rest)

end

end

/-- `Json.parse`; the fuel is more than any text of this length takes. -/
def parse {Double : Type} (parseDouble : Text → Option Double) (text : Text) :
    Except Thrown (Value Double) := do
  let rest := skipWhitespace text
  let (value, _) ← parseValue parseDouble text (3 * rest.length + 1) rest
  return value

/-- The switch of `quote`. -/
def escaped (c : CodeUnit) : Text :=
  if c = unit '"' then units "\\\""
  else if c = unit '\\' then units "\\\\"
  else if c = unit '\n' then units "\\n"
  else if c = unit '\r' then units "\\r"
  else if c = unit '\t' then units "\\t"
  else [c]

/-- `Json.quote` -/
def quote (raw : Text) : Text := unit '"' :: raw.flatMap escaped ++ [unit '"']

theorem isWhitespace_of_ws {space : CodeUnit}
    (isIn : space ∈ [unit ' ', unit '\t', unit '\n', unit '\r']) : isWhitespace space = true := by
  have each : ∀ space ∈ [unit ' ', unit '\t', unit '\n', unit '\r'], isWhitespace space = true :=
    List.all_iff_forall_prop.mp (by decide)
  exact each space isIn

theorem skipWhitespace_append {space : Text} (ws : Ws space) (rest : Text) :
    skipWhitespace (space ++ rest) = skipWhitespace rest := by
  unfold skipWhitespace
  induction space with
  | nil => rfl
  | cons first space ih =>
      have white := isWhitespace_of_ws (ws first List.mem_cons_self)
      rw [List.cons_append, List.dropWhile_cons_of_pos white]
      exact ih (fun other isIn => ws other (List.mem_cons_of_mem _ isIn))

theorem skipWhitespace_cons {first : CodeUnit} (visible : isWhitespace first = false) (rest : Text) :
    skipWhitespace (first :: rest) = first :: rest := by
  unfold skipWhitespace
  rw [List.dropWhile_cons_of_neg (by rw [visible]; exact Bool.false_ne_true)]

theorem skipWhitespace_skipWhitespace (rest : Text) :
    skipWhitespace (skipWhitespace rest) = skipWhitespace rest :=
  List.dropWhile_idempotent _ _

theorem expect_cons (s : Text) (c : CodeUnit) (rest : Text) : expect s c (c :: rest) = .ok rest := by
  simp [expect]

theorem hexDigit_of {value : Nat} {digit : CodeUnit} (spelt : HexDigit value digit) :
    hexDigit digit = some value ∧ digit ≠ unit '-' ∧ digit ≠ unit '+' := by
  cases spelt with
  | digit value bound => interval_cases value <;> decide
  | upper value bound => interval_cases value <;> decide
  | lower value bound => interval_cases value <;> decide

theorem parseInt16_of {first second third fourth : Nat} {one two three four : CodeUnit}
    (isOne : HexDigit first one) (isTwo : HexDigit second two) (isThree : HexDigit third three)
    (isFour : HexDigit fourth four) :
    parseInt16 [one, two, three, four] =
      some (((((first * 16 + second) * 16 + third) * 16 + fourth : Nat)) : Int) := by
  obtain ⟨readOne, notMinus, notPlus⟩ := hexDigit_of isOne
  have number : hexNumber [one, two, three, four] =
      some (((first * 16 + second) * 16 + third) * 16 + fourth) := by
    simp only [hexNumber, List.foldlM_cons, List.foldlM_nil, readOne, (hexDigit_of isTwo).1,
      (hexDigit_of isThree).1, (hexDigit_of isFour).1, Option.map_some, Option.bind_eq_bind,
      Option.bind_some, Option.pure_def, Option.some.injEq]
    omega
  simp only [parseInt16, notMinus, notPlus, ↓reduceIte, number, Option.map_some]
  rfl

theorem stringLoop_plain {c : CodeUnit} (quotation : c ≠ unit '"')
    (reverseSolidus : c ≠ unit '\\') (sb rest : Text) :
    stringLoop sb (c :: rest) = stringLoop (sb ++ [c]) rest := by
  rw [stringLoop.eq_def]
  simp only [quotation, reverseSolidus, ↓reduceIte]

theorem stringLoop_quotation (sb rest : Text) :
    stringLoop sb (unit '"' :: rest) = .ok (sb, rest) := by
  rw [stringLoop.eq_def]
  simp only [↓reduceIte]

theorem stringLoop_unescape {esc meant : CodeUnit} (known : unescape esc = some meant)
    (sb rest : Text) :
    stringLoop sb (unit '\\' :: esc :: rest) = stringLoop (sb ++ [meant]) rest := by
  have quotation : unit '\\' ≠ unit '"' := by decide
  have notHex : esc ≠ unit 'u' := by
    intro same
    have unknown : unescape (unit 'u') = none := rfl
    rw [same, unknown] at known
    cases known
  rw [stringLoop.eq_def]
  simp only [quotation, notHex, known, ↓reduceIte]

theorem stringLoop_hex {one two three four : CodeUnit} {value : Int}
    (number : parseInt16 [one, two, three, four] = some value) (sb rest : Text) :
    stringLoop sb (unit '\\' :: unit 'u' :: one :: two :: three :: four :: rest) =
      stringLoop (sb ++ [UInt16.ofInt value]) rest := by
  have quotation : unit '\\' ≠ unit '"' := by decide
  rw [stringLoop.eq_def]
  simp only [quotation, number, ↓reduceIte]

theorem unescape_short {meant letter : CodeUnit} (escape : (meant, letter) ∈ shortEscapes) :
    unescape letter = some meant := by
  revert escape
  simp only [shortEscapes, List.mem_cons, Prod.mk.injEq, List.not_mem_nil, or_false]
  rintro (⟨rfl, rfl⟩ | ⟨rfl, rfl⟩ | ⟨rfl, rfl⟩ | ⟨rfl, rfl⟩ | ⟨rfl, rfl⟩ | ⟨rfl, rfl⟩ | ⟨rfl, rfl⟩ |
    ⟨rfl, rfl⟩) <;> rfl

theorem ofInt_natCast (value : Nat) : UInt16.ofInt (value : Int) = UInt16.ofNat value := by
  have same : ((value : Int) % 2 ^ 16).toNat = value % UInt16.size := by
    rw [UInt16.size]
    omega
  rw [UInt16.ofInt, same, UInt16.ofNat_mod_size]

/-- A written code unit is read as the one it means. -/
theorem stringLoop_char {meant : CodeUnit} {written : Text} (spelt : CharText meant written)
    (sb rest : Text) : stringLoop sb (written ++ rest) = stringLoop (sb ++ [meant]) rest := by
  cases spelt with
  | unescaped _ control quotation reverseSolidus =>
      exact stringLoop_plain quotation reverseSolidus sb rest
  | short _ letter escape => exact stringLoop_unescape (unescape_short escape) sb rest
  | hex first second third fourth one two three four isOne isTwo isThree isFour =>
      rw [← ofInt_natCast]
      exact stringLoop_hex (parseInt16_of isOne isTwo isThree isFour) sb rest

theorem stringLoop_chars {text written : Text} (spelt : CharsText text written) (sb rest : Text) :
    stringLoop sb (written ++ unit '"' :: rest) = .ok (sb ++ text, rest) := by
  induction spelt generalizing sb with
  | nil =>
      rw [List.nil_append, stringLoop_quotation, List.append_nil]
  | cons first _ ih =>
      rw [List.append_assoc, stringLoop_char first, ih, List.append_assoc]
      rfl

theorem parseStringValue_chars {text written : Text} (spelt : CharsText text written)
    (s rest : Text) :
    parseStringValue s (unit '"' :: written ++ unit '"' :: rest) = .ok (text, rest) := by
  simp only [parseStringValue, List.cons_append, expect_cons]
  exact stringLoop_chars spelt [] rest

/-- Nothing that a number would take in comes next. -/
def Delimited (rest : Text) : Prop :=
  ∀ first, rest.head? = some first → isNumberCharacter first = false

theorem delimited_cons {first : CodeUnit} {rest : Text} (outside : isNumberCharacter first = false) :
    Delimited (first :: rest) := by
  intro other isFirst
  rw [List.head?_cons, Option.some.injEq] at isFirst
  rw [← isFirst]
  exact outside

theorem Delimited.ws_append {space rest : Text} (delimited : Delimited rest) (ws : Ws space) :
    Delimited (space ++ rest) := by
  cases space with
  | nil => exact delimited
  | cons first space =>
      apply delimited_cons
      have outside : ∀ white ∈ [unit ' ', unit '\t', unit '\n', unit '\r'],
          isNumberCharacter white = false := List.all_iff_forall_prop.mp (by decide)
      exact outside first (ws first List.mem_cons_self)

theorem isNumberCharacter_of_digit {digit : CodeUnit} (isIn : digit ∈ digits) :
    isNumberCharacter digit = true := by
  have each : ∀ digit ∈ digits, isNumberCharacter digit = true :=
    List.all_iff_forall_prop.mp (by decide)
  exact each digit isIn

theorem numberCharacters_of_digits {text : Text} (spelt : Digits text) :
    ∀ character ∈ text, isNumberCharacter character = true := by
  intro character isIn
  exact isNumberCharacter_of_digit (spelt.2 character isIn)

/-- A number is of characters that the scan takes in. -/
theorem numberCharacters {literal : Text} (number : NumberText literal) :
    ∀ character ∈ literal, isNumberCharacter character = true := by
  obtain ⟨minus, int, frac, exp, rfl, isMinus, isInt, isFrac, isExp⟩ := number.parts
  intro character isIn
  simp only [List.mem_append] at isIn
  rcases isIn with ((inMinus | inInt) | inFrac) | inExp
  · rcases isMinus with rfl | rfl
    · cases inMinus
    · rw [List.mem_singleton.mp inMinus]
      decide
  · rcases isInt with rfl | ⟨spelt, -⟩
    · rw [List.mem_singleton.mp inInt]
      decide
    · exact numberCharacters_of_digits spelt character inInt
  · rcases isFrac with rfl | ⟨ds, rfl, spelt⟩
    · cases inFrac
    · rcases List.mem_cons.mp inFrac with rfl | inDigits
      · decide
      · exact numberCharacters_of_digits spelt character inDigits
  · rcases isExp with rfl | ⟨e, sign, ds, rfl, isE, isSign, spelt⟩
    · cases inExp
    · simp only [List.cons_append, List.mem_cons, List.mem_append] at inExp
      rcases inExp with rfl | inSign | inDigits
      · have exponent : ∀ e ∈ units "eE", isNumberCharacter e = true :=
          List.all_iff_forall_prop.mp (by decide)
        exact exponent character isE
      · rcases isSign with rfl | rfl | rfl
        · cases inSign
        · rw [List.mem_singleton.mp inSign]
          decide
        · rw [List.mem_singleton.mp inSign]
          decide
      · exact numberCharacters_of_digits spelt character inDigits

theorem number_start {literal : Text} (number : NumberText literal) :
    ∃ first more, literal = first :: more ∧ first ∈ unit '-' :: digits := by
  obtain ⟨minus, int, frac, exp, rfl, isMinus, isInt, -⟩ := number.parts
  rcases isMinus with rfl | rfl
  · rcases isInt with rfl | ⟨⟨nonempty, areDigits⟩, -⟩
    · exact ⟨unit '0', frac ++ exp, by simp, by decide⟩
    · cases int with
      | nil => exact absurd rfl nonempty
      | cons first more =>
          exact ⟨first, more ++ frac ++ exp, by simp,
            List.mem_cons_of_mem _ (areDigits first List.mem_cons_self)⟩
  · exact ⟨unit '-', int ++ frac ++ exp, by simp, List.mem_cons_self⟩

section

variable {Double : Type} {parseDouble : Text → Option Double} {double : Text → Double} {s : Text}

theorem parseNumberValue_literal {literal rest : Text} {value : Double}
    (number : NumberText literal) (delimited : Delimited rest)
    (parsed : parseDouble literal = some value) :
    parseNumberValue parseDouble (literal ++ rest) = .ok (.num value, rest) := by
  have taken : rest.takeWhile isNumberCharacter = [] ∧ rest.dropWhile isNumberCharacter = rest := by
    cases rest with
    | nil => exact ⟨rfl, rfl⟩
    | cons first more =>
        have outside := delimited first rfl
        simp [outside]
  unfold parseNumberValue
  rw [List.takeWhile_append_of_pos (numberCharacters number),
    List.dropWhile_append_of_pos (numberCharacters number), taken.1, taken.2, List.append_nil, parsed]

/-- The first characters of values. -/
def starts : Text :=
  [unit '{', unit '[', unit '"', unit 't', unit 'f', unit 'n'] ++ unit '-' :: digits

theorem value_start {value : Value Text} {text : Text} (spelt : Spells (.value value) text) :
    ∃ first more, text = first :: more ∧ first ∈ starts := by
  cases spelt with
  | null => exact ⟨unit 'n', _, rfl, by decide⟩
  | true => exact ⟨unit 't', _, rfl, by decide⟩
  | false => exact ⟨unit 'f', _, rfl, by decide⟩
  | num literal number =>
      obtain ⟨first, more, same, isIn⟩ := number_start number
      exact ⟨first, more, same, List.mem_append_right _ isIn⟩
  | str text written chars => exact ⟨unit '"', _, rfl, by decide⟩
  | arr items written inner => exact ⟨unit '[', _, rfl, by decide⟩
  | obj members written distinct inner => exact ⟨unit '{', _, rfl, by decide⟩

theorem start_visible {first : CodeUnit} (isIn : first ∈ starts) :
    isWhitespace first = false ∧ first ≠ unit ']' ∧ first ≠ unit '}' := by
  have each : ∀ first ∈ starts,
      isWhitespace first = false ∧ first ≠ unit ']' ∧ first ≠ unit '}' :=
    List.all_iff_forall_prop.mp (by decide)
  exact each first isIn

theorem parseValue_cons {first : CodeUnit} (visible : isWhitespace first = false) (fuel : Nat)
    (rest : Text) :
    parseValue parseDouble s (fuel + 1) (first :: rest) =
      if first = unit '{' then parseObjectValue parseDouble s fuel (first :: rest)
      else if first = unit '[' then parseArrayValue parseDouble s fuel (first :: rest)
      else if first = unit '"' then
        (parseStringValue s (first :: rest)).map (fun read => (.str read.1, read.2))
      else if first = unit 't' ∨ first = unit 'f' then parseBooleanValue s (first :: rest)
      else if first = unit 'n' then parseNullValue s (first :: rest)
      else parseNumberValue parseDouble (first :: rest) := by
  simp only [parseValue, skipWhitespace_cons visible, peek, bind, Except.bind]
  cases parseStringValue s (first :: rest) <;> rfl

theorem parseValue_skip (fuel : Nat) (rest : Text) :
    parseValue parseDouble s fuel (skipWhitespace rest) = parseValue parseDouble s fuel rest := by
  cases fuel with
  | zero => rfl
  | succ fuel => simp only [parseValue, skipWhitespace_skipWhitespace]

theorem parseValue_ws {space : Text} (ws : Ws space) (fuel : Nat) (rest : Text) :
    parseValue parseDouble s fuel (space ++ rest) = parseValue parseDouble s fuel rest := by
  rw [← parseValue_skip, skipWhitespace_append ws, parseValue_skip]

theorem elementLoop_ws {space : Text} (ws : Ws space) (fuel : Nat) (list : List (Value Double))
    (rest : Text) :
    elementLoop parseDouble s fuel list (space ++ rest) =
      elementLoop parseDouble s fuel list rest := by
  cases fuel with
  | zero => rfl
  | succ fuel => simp only [elementLoop, parseValue_ws ws]

theorem memberLoop_ws {space : Text} (ws : Ws space) (fuel : Nat) (map : List (Text × Value Double))
    (rest : Text) :
    memberLoop parseDouble s fuel map (space ++ rest) = memberLoop parseDouble s fuel map rest := by
  cases fuel with
  | zero => rfl
  | succ fuel => simp only [memberLoop, skipWhitespace_append ws]

/-- An element, then a comma and the others. -/
theorem elementLoop_comma {value : Value Double} {fuel : Nat} {text after others : Text}
    (wsAfter : Ws after)
    (read : parseValue parseDouble s fuel text = .ok (value, after ++ unit ',' :: others))
    (list : List (Value Double)) :
    elementLoop parseDouble s (fuel + 1) list text =
      elementLoop parseDouble s fuel (list ++ [value]) others := by
  have comma : skipWhitespace (after ++ unit ',' :: others) = unit ',' :: others := by
    rw [skipWhitespace_append wsAfter, skipWhitespace_cons (by decide)]
  simp only [elementLoop, read, bind, Except.bind, comma, peek, ↓reduceIte, List.tail_cons]

/-- The last element, then the bracket. -/
theorem elementLoop_bracket {value : Value Double} {fuel : Nat} {text after rest : Text}
    (wsAfter : Ws after)
    (read : parseValue parseDouble s fuel text = .ok (value, after ++ unit ']' :: rest))
    (list : List (Value Double)) :
    elementLoop parseDouble s (fuel + 1) list text = .ok (.arr (list ++ [value]), rest) := by
  have bracket : skipWhitespace (after ++ unit ']' :: rest) = unit ']' :: rest := by
    rw [skipWhitespace_append wsAfter, skipWhitespace_cons (by decide)]
  have different : unit ']' ≠ unit ',' := by decide
  simp only [elementLoop, read, bind, Except.bind, bracket, peek, different, ↓reduceIte, expect_cons,
    pure, Except.pure]

/-- A member's name and value, up to what follows the value. -/
theorem memberLoop_member {key : Text} {value : Value Double} {fuel : Nat}
    {name afterName text after rest : Text} {mark : CodeUnit} (wsName : Ws afterName)
    (wsAfter : Ws after) (chars : CharsText key name) (visible : isWhitespace mark = false)
    (read : parseValue parseDouble s fuel text = .ok (value, after ++ mark :: rest))
    (map : List (Text × Value Double)) :
    memberLoop parseDouble s (fuel + 1) map
        (unit '"' :: name ++ unit '"' :: (afterName ++ unit ':' :: text)) =
      if mark = unit ',' then memberLoop parseDouble s fuel (Table.putRows map key value) rest
      else (expect s (unit '}') (mark :: rest)).map
        (fun rest => (.obj (Table.putRows map key value), rest)) := by
  have first : skipWhitespace (unit '"' :: name ++ unit '"' :: (afterName ++ unit ':' :: text)) =
      unit '"' :: name ++ unit '"' :: (afterName ++ unit ':' :: text) :=
    skipWhitespace_cons (by decide) _
  have colon : skipWhitespace (afterName ++ unit ':' :: text) = unit ':' :: text := by
    rw [skipWhitespace_append wsName, skipWhitespace_cons (by decide)]
  have next : skipWhitespace (after ++ mark :: rest) = mark :: rest := by
    rw [skipWhitespace_append wsAfter, skipWhitespace_cons visible]
  simp only [memberLoop, first, parseStringValue_chars chars, bind, Except.bind, colon, expect_cons,
    read, next, peek, List.tail_cons]
  split
  · rfl
  · cases expect s (unit '}') (mark :: rest) <;> rfl

theorem putRows_fresh {map : List (Text × Value Double)} {key : Text} {value : Value Double}
    (fresh : key ∉ map.map Prod.fst) : Table.putRows map key value = map ++ [(key, value)] := by
  induction map with
  | nil => rfl
  | cons row map ih =>
      rw [List.map_cons, List.mem_cons, not_or] at fresh
      rw [Table.putRows, if_neg (Ne.symm fresh.1), ih fresh.2, List.cons_append]

theorem fresh_of_nodup {map : List (Text × Value Double)} {key : Text} {value : Value Text}
    {members : List (Text × Value Text)}
    (keys : ((map ++ Value.mapMembers double ((key, value) :: members)).map Prod.fst).Nodup) :
    key ∉ map.map Prod.fst := by
  simp only [Value.mapMembers, List.map_append, List.map_cons] at keys
  intro isIn
  exact (List.nodup_append.mp keys).2.2 key isIn key List.mem_cons_self rfl

/-- What the parser makes of a phrase, with whatever comes after it. -/
def Reads (parseDouble : Text → Option Double) (double : Text → Double) (s : Text) :
    Phrase → Text → Prop
  | .value value, text => ∀ fuel rest, 3 * text.length + 1 ≤ fuel → Delimited rest →
      parseValue parseDouble s fuel (text ++ rest) = .ok (value.map double, rest)
  | .items items, text => ∀ fuel list rest, items ≠ [] → 3 * text.length + 2 ≤ fuel →
      elementLoop parseDouble s fuel list (text ++ unit ']' :: rest) =
        .ok (.arr (list ++ Value.mapItems double items), rest)
  | .members members, text => ∀ fuel map rest, members ≠ [] → 3 * text.length + 2 ≤ fuel →
      ((map ++ Value.mapMembers double members).map Prod.fst).Nodup →
      memberLoop parseDouble s fuel map (text ++ unit '}' :: rest) =
        .ok (.obj (map ++ Value.mapMembers double members), rest)

theorem reads_num {literal : Text} (number : NumberText literal)
    (parses : parseDouble literal = some (double literal)) :
    Reads parseDouble double s (.value (.num literal)) literal := by
  intro fuel rest enough delimited
  obtain ⟨fuel, rfl⟩ := Nat.exists_eq_add_of_le' (show 1 ≤ fuel by omega)
  obtain ⟨first, more, same, isIn⟩ := number_start number
  have only : ∀ first ∈ unit '-' :: digits, isWhitespace first = false ∧ first ≠ unit '{' ∧
      first ≠ unit '[' ∧ first ≠ unit '"' ∧ ¬ (first = unit 't' ∨ first = unit 'f') ∧
      first ≠ unit 'n' := List.all_iff_forall_prop.mp (by decide)
  obtain ⟨visible, notBrace, notBracket, notQuotation, notBoolean, notNull⟩ := only first isIn
  have read := parseNumberValue_literal number delimited parses
  rw [same, List.cons_append] at read ⊢
  rw [parseValue_cons visible, if_neg notBrace, if_neg notBracket, if_neg notQuotation,
    if_neg notBoolean, if_neg notNull, read, ← same]
  rfl

theorem reads_str {text written : Text} (chars : CharsText text written) :
    Reads parseDouble double s (.value (.str text)) (unit '"' :: written ++ [unit '"']) := by
  intro fuel rest enough _
  obtain ⟨fuel, rfl⟩ := Nat.exists_eq_add_of_le' (show 1 ≤ fuel by
    simp only [List.length_cons, List.length_append] at enough
    omega)
  have read := parseStringValue_chars chars s rest
  have whole : unit '"' :: written ++ [unit '"'] ++ rest = unit '"' :: written ++ unit '"' :: rest := by
    simp
  rw [whole, List.cons_append] at *
  rw [parseValue_cons (by decide), if_neg (by decide), if_neg (by decide), if_pos rfl, read]
  rfl

theorem items_start {item : Value Text} {items : List (Value Text)} {text : Text}
    (spelt : Spells (.items (item :: items)) text) :
    ∃ space first more, text = space ++ first :: more ∧ Ws space ∧ first ∈ starts := by
  cases spelt with
  | item _ before written after wsBefore _ inner =>
      obtain ⟨first, more, rfl, isIn⟩ := value_start inner
      exact ⟨before, first, more ++ after, by simp, wsBefore, isIn⟩
  | moreItems _ next items before written after others wsBefore _ inner _ =>
      obtain ⟨first, more, rfl, isIn⟩ := value_start inner
      exact ⟨before, first, more ++ after ++ unit ',' :: others, by simp, wsBefore, isIn⟩

theorem members_start {member : Text × Value Text} {members : List (Text × Value Text)} {text : Text}
    (spelt : Spells (.members (member :: members)) text) :
    ∃ space more, text = space ++ unit '"' :: more ∧ Ws space := by
  cases spelt with
  | member _ _ before name afterName beforeValue written after wsBefore =>
      exact ⟨before, _, by simp only [List.append_assoc, List.cons_append]; rfl, wsBefore⟩
  | moreMembers _ _ _ _ before name afterName beforeValue written after others wsBefore =>
      exact ⟨before, _, by simp only [List.append_assoc, List.cons_append]; rfl, wsBefore⟩

theorem reads_arr {items : List (Value Text)} {written : Text}
    (spelt : Spells (.items items) written)
    (inner : Reads parseDouble double s (.items items) written) :
    Reads parseDouble double s (.value (.arr items)) (unit '[' :: written ++ [unit ']']) := by
  intro fuel rest enough _
  simp only [List.cons_append, List.length_cons, List.length_append, List.length_nil] at enough
  obtain ⟨fuel, rfl⟩ := Nat.exists_eq_add_of_le' (show 2 ≤ fuel by omega)
  have whole : unit '[' :: written ++ [unit ']'] ++ rest = unit '[' :: (written ++ unit ']' :: rest) := by
    simp
  rw [whole, parseValue_cons (by decide), if_neg (by decide), if_pos rfl]
  simp only [parseArrayValue, expect_cons, bind, Except.bind]
  cases items with
  | nil =>
      cases spelt with
      | noItems _ ws =>
          rw [skipWhitespace_append ws, skipWhitespace_cons (by decide)]
          rfl
  | cons item items =>
      obtain ⟨space, first, more, rfl, ws, isStart⟩ := items_start spelt
      obtain ⟨visible, notBracket, -⟩ := start_visible isStart
      have skipped : skipWhitespace (space ++ first :: more ++ unit ']' :: rest) =
          first :: more ++ unit ']' :: rest := by
        rw [List.append_assoc, skipWhitespace_append ws, List.cons_append, skipWhitespace_cons visible]
      have loop := inner fuel [] rest (List.cons_ne_nil _ _) (by omega)
      rw [List.append_assoc, elementLoop_ws ws] at loop
      rw [skipped]
      simp only [List.cons_append, peek, notBracket, ↓reduceIte]
      exact loop

theorem reads_obj {members : List (Text × Value Text)} {written : Text}
    (distinct : (members.map Prod.fst).Nodup) (spelt : Spells (.members members) written)
    (inner : Reads parseDouble double s (.members members) written) :
    Reads parseDouble double s (.value (.obj members)) (unit '{' :: written ++ [unit '}']) := by
  intro fuel rest enough _
  simp only [List.cons_append, List.length_cons, List.length_append, List.length_nil] at enough
  obtain ⟨fuel, rfl⟩ := Nat.exists_eq_add_of_le' (show 2 ≤ fuel by omega)
  have whole : unit '{' :: written ++ [unit '}'] ++ rest = unit '{' :: (written ++ unit '}' :: rest) := by
    simp
  rw [whole, parseValue_cons (by decide), if_pos rfl]
  simp only [parseObjectValue, expect_cons, bind, Except.bind]
  cases members with
  | nil =>
      cases spelt with
      | noMembers _ ws =>
          rw [skipWhitespace_append ws, skipWhitespace_cons (by decide)]
          rfl
  | cons member members =>
      obtain ⟨space, more, rfl, ws⟩ := members_start spelt
      have skipped : skipWhitespace (space ++ unit '"' :: more ++ unit '}' :: rest) =
          unit '"' :: more ++ unit '}' :: rest := by
        rw [List.append_assoc, skipWhitespace_append ws, List.cons_append,
          skipWhitespace_cons (by decide)]
      have different : unit '"' ≠ unit '}' := by decide
      have keys : (([] ++ Value.mapMembers double (member :: members)).map Prod.fst).Nodup := by
        rw [List.nil_append, Value.keys_mapMembers]
        exact distinct
      have loop := inner fuel [] rest (List.cons_ne_nil _ _) (by omega) keys
      rw [List.append_assoc, memberLoop_ws ws] at loop
      rw [skipped]
      simp only [List.cons_append, peek, different, ↓reduceIte]
      exact loop

/-- Every phrase of the grammar is read as the tree it spells. -/
theorem reads_phrase (parses : ∀ literal, NumberText literal → parseDouble literal = some (double literal))
    {phrase : Phrase} {text : Text} (spelt : Spells phrase text) :
    Reads parseDouble double s phrase text := by
  induction spelt with
  | null =>
      intro fuel rest enough _
      obtain ⟨fuel, rfl⟩ := Nat.exists_eq_add_of_le' (show 1 ≤ fuel by omega)
      rfl
  | true =>
      intro fuel rest enough _
      obtain ⟨fuel, rfl⟩ := Nat.exists_eq_add_of_le' (show 1 ≤ fuel by omega)
      rfl
  | false =>
      intro fuel rest enough _
      obtain ⟨fuel, rfl⟩ := Nat.exists_eq_add_of_le' (show 1 ≤ fuel by omega)
      rfl
  | num literal number => exact reads_num number (parses literal number)
  | str text written chars => exact reads_str chars
  | arr items written spelt ih => exact reads_arr spelt ih
  | obj members written distinct spelt ih => exact reads_obj distinct spelt ih
  | noItems space ws =>
      intro fuel list rest nonempty
      exact absurd rfl nonempty
  | item value before written after wsBefore wsAfter spelt ih =>
      intro fuel list rest _ enough
      simp only [List.length_append] at enough
      obtain ⟨fuel, rfl⟩ := Nat.exists_eq_add_of_le' (show 1 ≤ fuel by omega)
      have delimited : Delimited (after ++ unit ']' :: rest) :=
        (delimited_cons (by decide)).ws_append wsAfter
      have read := ih fuel _ (by omega) delimited
      rw [List.append_assoc, List.append_assoc, elementLoop_ws wsBefore,
        elementLoop_bracket wsAfter read]
      rfl
  | moreItems value next items before written after others wsBefore wsAfter spelt more ih ihMore =>
      intro fuel list rest _ enough
      simp only [List.length_append, List.length_cons] at enough
      obtain ⟨fuel, rfl⟩ := Nat.exists_eq_add_of_le' (show 1 ≤ fuel by omega)
      have delimited : Delimited (after ++ unit ',' :: (others ++ unit ']' :: rest)) :=
        (delimited_cons (by decide)).ws_append wsAfter
      have read := ih fuel _ (by omega) delimited
      have whole : before ++ written ++ after ++ unit ',' :: others ++ unit ']' :: rest =
          before ++ (written ++ (after ++ unit ',' :: (others ++ unit ']' :: rest))) := by
        simp
      rw [whole, elementLoop_ws wsBefore, elementLoop_comma wsAfter read,
        ihMore fuel _ rest (List.cons_ne_nil _ _) (by omega), List.append_assoc]
      rfl
  | noMembers space ws =>
      intro fuel map rest nonempty
      exact absurd rfl nonempty
  | member key value before name afterName beforeValue written after wsBefore wsName wsValue wsAfter
      chars spelt ih =>
      intro fuel map rest _ enough keys
      simp only [List.length_append, List.length_cons] at enough
      obtain ⟨fuel, rfl⟩ := Nat.exists_eq_add_of_le' (show 1 ≤ fuel by omega)
      have delimited : Delimited (after ++ unit '}' :: rest) :=
        (delimited_cons (by decide)).ws_append wsAfter
      have read := ih fuel _ (by omega) delimited
      rw [← parseValue_ws wsValue] at read
      have whole : before ++ unit '"' :: name ++ unit '"' :: afterName ++ unit ':' :: beforeValue ++
          written ++ after ++ unit '}' :: rest = before ++ (unit '"' :: name ++ unit '"' ::
            (afterName ++ unit ':' :: (beforeValue ++ (written ++ (after ++ unit '}' :: rest))))) := by
        simp
      rw [whole, memberLoop_ws wsBefore, memberLoop_member wsName wsAfter chars (by decide) read,
        if_neg (by decide), expect_cons, putRows_fresh (fresh_of_nodup keys)]
      rfl
  | moreMembers key value next members before name afterName beforeValue written after others
      wsBefore wsName wsValue wsAfter chars spelt more ih ihMore =>
      intro fuel map rest _ enough keys
      simp only [List.length_append, List.length_cons] at enough
      obtain ⟨fuel, rfl⟩ := Nat.exists_eq_add_of_le' (show 1 ≤ fuel by omega)
      have delimited : Delimited (after ++ unit ',' :: (others ++ unit '}' :: rest)) :=
        (delimited_cons (by decide)).ws_append wsAfter
      have read := ih fuel _ (by omega) delimited
      rw [← parseValue_ws wsValue] at read
      have whole : before ++ unit '"' :: name ++ unit '"' :: afterName ++ unit ':' :: beforeValue ++
          written ++ after ++ unit ',' :: others ++ unit '}' :: rest =
            before ++ (unit '"' :: name ++ unit '"' :: (afterName ++ unit ':' :: (beforeValue ++
              (written ++ (after ++ unit ',' :: (others ++ unit '}' :: rest)))))) := by
        simp
      have together : map ++ [(key, value.map double)] ++ Value.mapMembers double (next :: members) =
          map ++ Value.mapMembers double ((key, value) :: next :: members) := by
        rw [List.append_assoc]
        rfl
      rw [whole, memberLoop_ws wsBefore, memberLoop_member wsName wsAfter chars (by decide) read,
        if_pos rfl, putRows_fresh (fresh_of_nodup keys),
        ihMore fuel _ rest (List.cons_ne_nil _ _) (by omega) (by rw [together]; exact keys), together]

end

/-- A result that leaves no more than so much, or an exception of Java's. -/
def Within {Result : Type} (bound : Nat) : Except Thrown (Result × Text) → Prop
  | .ok (_, rest) => rest.length ≤ bound
  | .error thrown => thrown ≠ .outOfFuel

theorem Within.bind {Result Next : Type} {bound last : Nat} {first : Except Thrown (Result × Text)}
    {next : Result × Text → Except Thrown (Next × Text)} (within : Within bound first)
    (others : ∀ result rest, rest.length ≤ bound → Within last (next (result, rest))) :
    Within last (first >>= next) := by
  cases first with
  | error thrown => exact within
  | ok result => exact others result.1 result.2 within

theorem Within.le {Result : Type} {bound larger : Nat} {result : Except Thrown (Result × Text)}
    (within : Within bound result) (le : bound ≤ larger) : Within larger result := by
  cases result with
  | error thrown => exact within
  | ok result => exact Nat.le_trans within le

theorem within_expect {Next : Type} {last : Nat} {s : Text} {c : CodeUnit} {rest : Text}
    {next : Text → Except Thrown (Next × Text)}
    (others : ∀ after, rest = c :: after → Within last (next after)) :
    Within last (expect s c rest >>= next) := by
  cases rest with
  | nil => simp [expect, Within, bind, Except.bind]
  | cons first after =>
      by_cases same : first = c
      · subst same
        rw [expect_cons]
        exact others after rfl
      · simp [expect, Within, bind, Except.bind, same]

theorem within_peek {Next : Type} {last : Nat} {rest : Text}
    {next : CodeUnit → Except Thrown (Next × Text)}
    (others : ∀ first after, rest = first :: after → Within last (next first)) :
    Within last (peek rest >>= next) := by
  cases rest with
  | nil => simp [peek, Within, bind, Except.bind]
  | cons first after => exact others first after rfl

theorem length_skipWhitespace (rest : Text) : (skipWhitespace rest).length ≤ rest.length :=
  (List.dropWhile_sublist _).length_le

theorem stringLoop_within (sb rest : Text) : Within rest.length (stringLoop sb rest) := by
  fun_induction stringLoop sb rest with
  | case1 => simp [Within]
  | case2 sb rest => simp [Within]
  | case3 => simp [Within]
  | case4 => rename_i ih; exact ih.le (by simp only [List.length_cons]; omega)
  | case5 => simp [Within]
  | case6 => simp [Within]
  | case7 => rename_i ih; exact ih.le (by simp only [List.length_cons]; omega)
  | case8 => simp [Within]
  | case9 => rename_i ih; exact ih.le (by simp only [List.length_cons]; omega)

theorem parseStringValue_within (s rest : Text) :
    Within (rest.length - 1) (parseStringValue s rest) := by
  refine within_expect ?_
  rintro after rfl
  exact stringLoop_within [] after

section

variable {Double : Type} (parseDouble : Text → Option Double) (s : Text)

theorem parseBooleanValue_within (rest : Text) :
    Within rest.length (parseBooleanValue s rest : Except Thrown (Value Double × Text)) := by
  unfold parseBooleanValue
  split
  · simp [Within]
  · split
    · simp [Within]
    · simp [Within, invalidLiteral]

theorem parseNullValue_within (rest : Text) :
    Within rest.length (parseNullValue s rest : Except Thrown (Value Double × Text)) := by
  unfold parseNullValue
  split
  · simp [Within]
  · simp [Within, invalidLiteral]

theorem parseNumberValue_within (rest : Text) :
    Within rest.length (parseNumberValue parseDouble rest) := by
  unfold parseNumberValue
  split
  · exact (List.dropWhile_sublist _).length_le
  · simp [Within]

/-- With three units of fuel for each character left, none of the parser's functions runs out. -/
structure Enough (fuel : Nat) : Prop where
  value : ∀ rest, 3 * rest.length + 1 ≤ fuel →
    Within rest.length (parseValue parseDouble s fuel rest)
  object : ∀ rest, 3 * rest.length ≤ fuel → 1 ≤ fuel →
    Within rest.length (parseObjectValue parseDouble s fuel rest)
  members : ∀ map rest, 3 * rest.length + 2 ≤ fuel →
    Within rest.length (memberLoop parseDouble s fuel map rest)
  array : ∀ rest, 3 * rest.length ≤ fuel → 1 ≤ fuel →
    Within rest.length (parseArrayValue parseDouble s fuel rest)
  elements : ∀ list rest, 3 * rest.length + 2 ≤ fuel →
    Within rest.length (elementLoop parseDouble s fuel list rest)

variable {parseDouble s} {fuel : Nat}

theorem Enough.next_value (enough : Enough parseDouble s fuel) (rest : Text)
    (fits : 3 * rest.length + 1 ≤ fuel + 1) :
    Within rest.length (parseValue parseDouble s (fuel + 1) rest) := by
  have shorter := length_skipWhitespace rest
  refine within_peek ?_
  intro first after same
  have nonempty : 1 ≤ (skipWhitespace rest).length := by
    rw [same, List.length_cons]
    omega
  split
  · exact (enough.object _ (by omega) (by omega)).le shorter
  · split
    · exact (enough.array _ (by omega) (by omega)).le shorter
    · split
      · refine (parseStringValue_within s _).bind ?_
        intro text left le
        exact Nat.le_trans le (by omega)
      · split
        · exact (parseBooleanValue_within s _).le shorter
        · split
          · exact (parseNullValue_within s _).le shorter
          · exact (parseNumberValue_within parseDouble _).le shorter

theorem Enough.next_object (enough : Enough parseDouble s fuel) (rest : Text)
    (fits : 3 * rest.length ≤ fuel + 1) :
    Within rest.length (parseObjectValue parseDouble s (fuel + 1) rest) := by
  refine within_expect ?_
  rintro after rfl
  rw [List.length_cons] at fits ⊢
  have shorter := length_skipWhitespace after
  refine within_peek ?_
  intro first others same
  split
  · rw [same]
    rw [same, List.length_cons] at shorter
    exact Nat.le_trans (Nat.le_of_succ_le shorter) (Nat.le_succ _)
  · exact (enough.members [] _ (by omega)).le (by omega)

theorem Enough.next_members (enough : Enough parseDouble s fuel) (map : List (Text × Value Double))
    (rest : Text) (fits : 3 * rest.length + 2 ≤ fuel + 1) :
    Within rest.length (memberLoop parseDouble s (fuel + 1) map rest) := by
  have shorter := length_skipWhitespace rest
  refine (parseStringValue_within s _).bind ?_
  intro key left le
  have skipped := length_skipWhitespace left
  refine within_expect ?_
  intro after same
  rw [same, List.length_cons] at skipped
  refine (enough.value after (by omega)).bind ?_
  intro read left le
  have skippedAgain := length_skipWhitespace left
  refine within_peek ?_
  intro first others isNext
  split
  · rw [isNext]
    rw [isNext, List.length_cons] at skippedAgain
    exact (enough.members _ others (by omega)).le (by omega)
  · refine within_expect ?_
    intro last same
    rw [same, List.length_cons] at skippedAgain
    have left : last.length ≤ rest.length := by omega
    exact left

theorem Enough.next_array (enough : Enough parseDouble s fuel) (rest : Text)
    (fits : 3 * rest.length ≤ fuel + 1) :
    Within rest.length (parseArrayValue parseDouble s (fuel + 1) rest) := by
  refine within_expect ?_
  rintro after rfl
  rw [List.length_cons] at fits ⊢
  have shorter := length_skipWhitespace after
  refine within_peek ?_
  intro first others same
  split
  · rw [same]
    rw [same, List.length_cons] at shorter
    exact Nat.le_trans (Nat.le_of_succ_le shorter) (Nat.le_succ _)
  · exact (enough.elements [] _ (by omega)).le (by omega)

theorem Enough.next_elements (enough : Enough parseDouble s fuel) (list : List (Value Double))
    (rest : Text) (fits : 3 * rest.length + 2 ≤ fuel + 1) :
    Within rest.length (elementLoop parseDouble s (fuel + 1) list rest) := by
  refine (enough.value rest (by omega)).bind ?_
  intro read left le
  have skipped := length_skipWhitespace left
  refine within_peek ?_
  intro first others isNext
  split
  · rw [isNext]
    rw [isNext, List.length_cons] at skipped
    exact (enough.elements _ others (by omega)).le (by omega)
  · refine within_expect ?_
    intro last same
    rw [same, List.length_cons] at skipped
    have left : last.length ≤ rest.length := by omega
    exact left

variable (parseDouble s)

theorem parser_within (fuel : Nat) : Enough parseDouble s fuel := by
  induction fuel with
  | zero =>
      refine ⟨?_, ?_, ?_, ?_, ?_⟩ <;> intros <;> omega
  | succ fuel enough =>
      exact
        { value := enough.next_value
          object := fun rest fits _ => enough.next_object rest fits
          members := enough.next_members
          array := fun rest fits _ => enough.next_array rest fits
          elements := enough.next_elements }

end

/-- `parse` ends on every text, with a tree or an exception. -/
theorem parse_ends {Double : Type} (parseDouble : Text → Option Double) (text : Text) :
    parse parseDouble text ≠ .error .outOfFuel := by
  have within := (parser_within parseDouble text (3 * (skipWhitespace text).length + 1)).value
    (skipWhitespace text) (Nat.le_refl _)
  simp only [parse, bind, Except.bind]
  cases read : parseValue parseDouble text (3 * (skipWhitespace text).length + 1)
      (skipWhitespace text) with
  | error thrown =>
      rw [read] at within
      intro same
      exact within (Except.error.inj same)
  | ok result =>
      intro same
      cases same

/-- A quoted character is read as itself. -/
theorem stringLoop_escaped (c : CodeUnit) (sb rest : Text) :
    stringLoop sb (escaped c ++ rest) = stringLoop (sb ++ [c]) rest := by
  unfold escaped
  split
  · rename_i same
    rw [same]
    exact stringLoop_unescape rfl sb rest
  · rename_i quotation
    split
    · rename_i same
      rw [same]
      exact stringLoop_unescape rfl sb rest
    · rename_i reverseSolidus
      split
      · rename_i same
        rw [same]
        exact stringLoop_unescape rfl sb rest
      · split
        · rename_i same
          rw [same]
          exact stringLoop_unescape rfl sb rest
        · split
          · rename_i same
            rw [same]
            exact stringLoop_unescape rfl sb rest
          · exact stringLoop_plain quotation reverseSolidus sb rest

theorem stringLoop_quoted (raw sb rest : Text) :
    stringLoop sb (raw.flatMap escaped ++ unit '"' :: rest) = .ok (sb ++ raw, rest) := by
  induction raw generalizing sb with
  | nil => rw [List.flatMap_nil, List.nil_append, stringLoop_quotation, List.append_nil]
  | cons c raw ih =>
      rw [List.flatMap_cons, List.append_assoc, stringLoop_escaped, ih, List.append_assoc]
      rfl

theorem parse_quote {Double : Type} (parseDouble : Text → Option Double) (raw : Text) :
    parse parseDouble (quote raw) = .ok (.str raw) := by
  have whole : quote raw = unit '"' :: (raw.flatMap escaped ++ unit '"' :: []) := rfl
  have read : parseStringValue (quote raw) (unit '"' :: (raw.flatMap escaped ++ unit '"' :: [])) =
      .ok (raw, []) := by
    simp only [parseStringValue, expect_cons]
    exact stringLoop_quoted raw [] []
  unfold parse
  rw [whole, skipWhitespace_cons (by decide), ← whole]
  simp only [whole] at read ⊢
  rw [parseValue_cons (by decide), if_neg (by decide), if_neg (by decide), if_pos rfl, read]
  rfl

theorem parse_text {Double : Type} {parseDouble : Text → Option Double} {double : Text → Double}
    (parses : ∀ literal, NumberText literal → parseDouble literal = some (double literal))
    {value : Value Text} {text : Text} (document : JsonText value text) :
    parse parseDouble text = .ok (value.map double) := by
  obtain ⟨before, written, after, wsBefore, wsAfter, spelt⟩ := document
  have delimited : Delimited after := by
    have nothing : Delimited [] := by
      intro first isFirst
      cases isFirst
    have closed := nothing.ws_append wsAfter
    rwa [List.append_nil] at closed
  obtain ⟨first, more, same, isStart⟩ := value_start spelt
  have skipped : skipWhitespace (before ++ written ++ after) = written ++ after := by
    rw [List.append_assoc, skipWhitespace_append wsBefore, same, List.cons_append,
      skipWhitespace_cons (start_visible isStart).1]
  have enough : 3 * written.length + 1 ≤ 3 * (written ++ after).length + 1 := by
    rw [List.length_append]
    omega
  unfold parse
  rw [skipped]
  simp only [reads_phrase parses spelt _ after enough delimited, bind, Except.bind]
  rfl

/-- Every JSON text is parsed into the tree it spells, each number as `Double.parseDouble` reads its
literal; and what `quote` writes is parsed into the string it was given. -/
theorem json_parse {Double : Type} (parseDouble : Text → Option Double) (double : Text → Double)
    (parses : ∀ literal, NumberText literal → parseDouble literal = some (double literal)) :
    (∀ value text, JsonText value text → parse parseDouble text = .ok (value.map double)) ∧
      ∀ raw, parse parseDouble (quote raw) = .ok (.str raw) :=
  ⟨fun _ _ document => parse_text parses document, parse_quote parseDouble⟩

/-- `Double.parseDouble` of one literal. -/
def tenOf (literal : Text) : Int := if literal = units "10" then 10 else 0

theorem json_parse_ten :
    parse (fun literal => some (tenOf literal)) (units " [10, \"\\u0041\"]\n") =
        .ok (.arr [.num 10, .str (units "A")]) ∧
      parse (fun literal => some (tenOf literal)) (quote (units "\"\n")) =
        .ok (.str (units "\"\n")) := by
  have reads := json_parse (fun literal => some (tenOf literal)) tenOf (fun _ _ => rfl)
  have ten : NumberText (units "10") := by
    refine ⟨[], units "10", [], [], by simp, .inl rfl, .inr ⟨⟨by decide, ?_⟩, by decide⟩,
      .inl rfl, .inl rfl⟩
    exact List.all_iff_forall_prop.mp (by decide)
  have letter : CharsText (units "A") (units "\\u0041") := by
    have char := CharText.hex 0 0 4 1 _ _ _ _ (.digit 0 (by decide)) (.digit 0 (by decide))
      (.digit 4 (by decide)) (.digit 1 (by decide))
    exact .cons char .nil
  have last : Spells (.items [.str (units "A")]) (units " \"\\u0041\"") :=
    .item _ (units " ") _ [] (by decide) (by decide) (.str _ _ letter)
  have items : Spells (.items [.num (units "10"), .str (units "A")]) (units "10, \"\\u0041\"") :=
    .moreItems _ _ _ [] _ [] _ (by decide) (by decide) (.num _ ten) last
  have document : JsonText (.arr [.num (units "10"), .str (units "A")])
      (units " [10, \"\\u0041\"]\n") :=
    .text _ (units " ") _ (units "\n") (by decide) (by decide) (.arr _ _ items)
  exact ⟨reads.1 _ _ document, reads.2 _⟩

end SelfCheckout.LoadClient
