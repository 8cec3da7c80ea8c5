import Mathlib.Data.List.Basic

namespace SelfCheckout.Csv

/-! # Python's csv module

The reader and the writer of the `excel` dialect, the writer with the line terminator `"\n"`.
The reader is the state machine of `csv.reader` over the lines of a file opened with
`newline=""`.
-/

/-- The lines of a file, each with the terminator it ends in; `line` is read backwards. -/
def splitLines (line : List Char) : List Char → List (List Char)
  | [] => if line = [] then [] else [line.reverse]
  | '\r' :: '\n' :: rest => (line.reverse ++ ['\r', '\n']) :: splitLines [] rest
  | '\r' :: rest => (line.reverse ++ ['\r']) :: splitLines [] rest
  | '\n' :: rest => (line.reverse ++ ['\n']) :: splitLines [] rest
  | character :: rest => splitLines (character :: line) rest

inductive ReaderState where
  | startRecord
  | startField
  | inField
  | inQuotedField
  | quoteInQuotedField
  | eatCrnl
deriving DecidableEq, Repr

structure Reader where
  state : ReaderState
  field : List Char
  fields : List String
deriving DecidableEq, Repr

/-- `parse_reset` -/
def Reader.reset : Reader := { state := .startRecord, field := [], fields := [] }

def fieldLimit : Nat := 131072

/-- `parse_add_char`; `none` where the field grows too large. -/
def Reader.add (reader : Reader) (character : Char) (state : ReaderState) : Option Reader :=
  if reader.field.length < fieldLimit then
    some { reader with field := reader.field ++ [character], state }
  else none

/-- `parse_save_field` -/
def Reader.save (reader : Reader) (state : ReaderState) : Reader :=
  { state, field := [], fields := reader.fields ++ [String.ofList reader.field] }

def isBreak (character : Char) : Bool := character = '\n' || character = '\r'

/-- The state `START_FIELD`, into which `START_RECORD` falls through. -/
def Reader.startField (reader : Reader) : Option Char → Option Reader
  | none => some (reader.save .startRecord)
  | some character =>
      if isBreak character then some (reader.save .eatCrnl)
      else if character = '"' then some { reader with state := .inQuotedField }
      else if character = ',' then some (reader.save .startField)
      else reader.add character .inField

/-- `parse_process_char`, with `none` for the end of the line; no result where it raises. -/
def Reader.process (reader : Reader) (read : Option Char) : Option Reader :=
  match reader.state, read with
  | .startRecord, none => some reader
  | .startRecord, some character =>
      if isBreak character then some { reader with state := .eatCrnl }
      else reader.startField (some character)
  | .startField, _ => reader.startField read
  | .inField, none => some (reader.save .startRecord)
  | .inField, some character =>
      if isBreak character then some (reader.save .eatCrnl)
      else if character = ',' then some (reader.save .startField)
      else reader.add character .inField
  | .inQuotedField, none => some reader
  | .inQuotedField, some character =>
      if character = '"' then some { reader with state := .quoteInQuotedField }
      else reader.add character .inQuotedField
  | .quoteInQuotedField, none => some (reader.save .startRecord)
  | .quoteInQuotedField, some character =>
      if character = '"' then reader.add character .inQuotedField
      else if character = ',' then some (reader.save .startField)
      else if isBreak character then some (reader.save .eatCrnl)
      else reader.add character .inField
  | .eatCrnl, none => some { reader with state := .startRecord }
  | .eatCrnl, some character => if isBreak character then some reader else none

def Reader.readLine (reader : Reader) (line : List Char) : Option Reader :=
  (line.map some ++ [none]).foldlM Reader.process reader

/-- What `next` returns time after time; `none` where it raises, and nothing follows. -/
def Reader.rows (reader : Reader) : List (List Char) → List (Option (List String))
  | [] =>
      if reader.field ≠ [] ∨ reader.state = .inQuotedField then
        [some (reader.save .startRecord).fields]
      else []
  | line :: lines =>
      match reader.readLine line with
      | none => [none]
      | some after =>
          if after.state = .startRecord then some after.fields :: Reader.reset.rows lines
          else after.rows lines

/-- `csv.reader` of a file's text. -/
def readRows (text : List Char) : List (Option (List String)) :=
  Reader.reset.rows (splitLines [] text)

def needsQuotes (character : Char) : Bool :=
  character = ',' || character = '"' || character = '\n'

/-- One field, quoted where it has to be. -/
def writeField (field : String) : List Char :=
  if field.toList.any needsQuotes then
    '"' :: (field.toList.flatMap (fun character =>
      if character = '"' then ['"', '"'] else [character])) ++ ['"']
  else field.toList

/-- `writerow`: a single empty field is quoted too. -/
def writeRow (fields : List String) : List Char :=
  (if fields = [""] then ['"', '"'] else [','].intercalate (fields.map writeField)) ++ ['\n']

/-- A field that stands in the file as it is. -/
structure Plain (field : String) : Prop where
  nonempty : field.toList ≠ []
  short : field.toList.length ≤ fieldLimit
  unquoted : ∀ character ∈ field.toList,
    character ≠ ',' ∧ character ≠ '"' ∧ isBreak character = false

theorem Plain.writeField_eq {field : String} (plain : Plain field) :
    writeField field = field.toList := by
  have noQuotes : field.toList.any needsQuotes = false := by
    rw [List.any_eq_false]
    intro character isIn
    obtain ⟨noComma, noQuote, noBreak⟩ := plain.unquoted character isIn
    simp only [isBreak, Bool.or_eq_false_iff, decide_eq_false_iff_not] at noBreak
    simp [needsQuotes, noComma, noQuote, noBreak.1]
  rw [writeField, noQuotes]
  rfl

/-- Up to the next newline a text without line breaks is one line. -/
theorem splitLines_line (line content rest : List Char)
    (unbroken : ∀ character ∈ content, isBreak character = false) :
    splitLines line (content ++ '\n' :: rest) =
      (line.reverse ++ content ++ ['\n']) :: splitLines [] rest := by
  induction content generalizing line with
  | nil => simp [splitLines]
  | cons character content ih =>
      have noBreak := unbroken character (by simp)
      simp only [isBreak, Bool.or_eq_false_iff, decide_eq_false_iff_not] at noBreak
      rw [List.cons_append, splitLines]
      · rw [ih _ (fun other isIn => unbroken other (by simp [isIn]))]
        simp
      · intro more isReturn
        exact absurd isReturn noBreak.2
      · exact noBreak.2
      · exact noBreak.1

/-- Inside an unquoted field the characters are collected. -/
theorem Reader.collect (fields : List String) (field content : List Char)
    (plain : ∀ character ∈ content,
      character ≠ ',' ∧ character ≠ '"' ∧ isBreak character = false)
    (short : (field ++ content).length ≤ fieldLimit) :
    (content.map some).foldlM Reader.process { state := .inField, field, fields } =
      some { state := .inField, field := field ++ content, fields } := by
  induction content generalizing field with
  | nil => simp
  | cons character content ih =>
      obtain ⟨noComma, noQuote, noBreak⟩ := plain character (by simp)
      have room : field.length < fieldLimit := by
        simp only [List.length_append, List.length_cons] at short
        omega
      have one : Reader.process { state := .inField, field, fields } (some character) =
          some { state := .inField, field := field ++ [character], fields } := by
        simp [Reader.process, noBreak, noComma, Reader.add, room]
      rw [List.map_cons, List.foldlM_cons, one]
      rw [Option.bind_eq_bind, Option.bind_some,
        ih (field ++ [character]) (fun other isIn => plain other (by simp [isIn])) (by simpa using short)]
      simp

/-- A plain field read at the start of a record or of a field. -/
theorem Reader.readField {state : ReaderState} {field : String} (fields : List String)
    (starts : state = .startRecord ∨ state = .startField) (plain : Plain field) :
    (field.toList.map some).foldlM Reader.process { state, field := [], fields } =
      some { state := .inField, field := field.toList, fields } := by
  cases isText : field.toList with
  | nil => exact absurd isText plain.nonempty
  | cons character content =>
      obtain ⟨noComma, noQuote, noBreak⟩ := plain.unquoted character (by simp [isText])
      have one : Reader.process { state, field := [], fields } (some character) =
          some { state := .inField, field := [character], fields } := by
        have room : (0 : Nat) < fieldLimit := by decide
        rcases starts with rfl | rfl <;>
          simp [Reader.process, Reader.startField, noBreak, noComma, noQuote, Reader.add, room]
      rw [List.map_cons, List.foldlM_cons, one]
      exact Reader.collect fields [character] content
        (fun other isIn => plain.unquoted other (by simp [isText, isIn]))
        (by simpa [isText] using plain.short)

/-- The fields of a row, up to the end of its line. -/
theorem Reader.readFields {state : ReaderState} {row : List String} (fields : List String)
    (starts : state = .startRecord ∨ state = .startField) (nonempty : row ≠ [])
    (plain : ∀ field ∈ row, Plain field) :
    Reader.readLine { state, field := [], fields }
        ([','].intercalate (row.map writeField) ++ ['\n']) =
      some { state := .startRecord, field := [], fields := fields ++ row } := by
  induction row generalizing state fields with
  | nil => contradiction
  | cons field row ih =>
      have isPlain := plain field (by simp)
      cases row with
      | nil =>
          rw [List.map_cons, List.map_nil, List.intercalate_singleton, isPlain.writeField_eq,
            Reader.readLine, List.map_append, List.append_assoc, List.foldlM_append,
            Reader.readField fields starts isPlain]
          simp [Reader.process, isBreak, Reader.save]
      | cons next row =>
          have atField : ReaderState.startField = .startRecord ∨ ReaderState.startField = .startField :=
            .inr rfl
          have rest := ih (fields ++ [field]) atField (by simp)
            (fun other isIn => plain other (by simp [isIn]))
          rw [List.map_cons, List.intercalate_cons_of_ne_nil (by simp), isPlain.writeField_eq,
            Reader.readLine]
          simp only [List.append_assoc, List.map_append, List.foldlM_append]
          rw [Reader.readField fields starts isPlain]
          simp only [Reader.readLine, List.append_assoc, List.map_append, List.foldlM_append] at rest
          simpa [Reader.process, isBreak, Reader.save] using rest

/-- No line break stands in a row of plain fields. -/
theorem unbroken_row {row : List String} (plain : ∀ field ∈ row, Plain field) :
    ∀ character ∈ [','].intercalate (row.map writeField), isBreak character = false := by
  induction row with
  | nil => simp
  | cons field row ih =>
      have isPlain := plain field (by simp)
      have first : ∀ character ∈ field.toList, isBreak character = false :=
        fun character isIn => (isPlain.unquoted character isIn).2.2
      have others := ih (fun other isIn => plain other (by simp [isIn]))
      cases row with
      | nil =>
          rw [List.map_cons, List.map_nil, List.intercalate_singleton, isPlain.writeField_eq]
          exact first
      | cons next row =>
          rw [List.map_cons, List.intercalate_cons_of_ne_nil (by simp), isPlain.writeField_eq]
          intro character isIn
          simp only [List.append_assoc, List.mem_append, List.mem_singleton] at isIn
          rcases isIn with inField | rfl | inRest
          · exact first character inField
          · rfl
          · exact others character inRest

theorem readRows_row {row : List String} (rest : List Char) (nonempty : row ≠ [])
    (plain : ∀ field ∈ row, Plain field) :
    readRows (writeRow row ++ rest) = some row :: readRows rest := by
  have notQuoted : row ≠ [""] := by
    rintro rfl
    exact (plain "" (by simp)).nonempty rfl
  have line := Reader.readFields [] (.inl rfl) nonempty plain
  rw [writeRow, if_neg notQuoted, readRows, List.append_assoc, List.singleton_append,
    splitLines_line [] _ rest (unbroken_row plain), List.reverse_nil, List.nil_append, Reader.rows,
    Reader.reset, line]
  simp [readRows, Reader.reset]

/-- Rows of plain fields are read back as they were written, whatever follows them. -/
theorem readRows_written (table : List (List String)) (rest : List Char)
    (nonempty : ∀ row ∈ table, row ≠ []) (plain : ∀ row ∈ table, ∀ field ∈ row, Plain field) :
    readRows (table.flatMap writeRow ++ rest) = table.map some ++ readRows rest := by
  induction table with
  | nil => rfl
  | cons row table ih =>
      rw [List.flatMap_cons, List.append_assoc,
        readRows_row _ (nonempty row (by simp)) (plain row (by simp)),
        ih (fun other isIn => nonempty other (by simp [isIn]))
          (fun other isIn => plain other (by simp [isIn]))]
      rfl

end SelfCheckout.Csv
