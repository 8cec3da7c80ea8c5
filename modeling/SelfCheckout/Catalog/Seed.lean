import SelfCheckout.Catalog.Snapshot
import SelfCheckout.Csv
import SelfCheckout.Python
import Mathlib.Data.Bool.AllAny
import Mathlib.Data.String.Basic
import Mathlib.Data.List.Range

namespace SelfCheckout.Catalog

open SelfCheckout.Data SelfCheckout.Csv

/-! # The catalog file and Inventory's seed

Catalog's seed writes the file and `load` reads it at startup.  Inventory's seed makes its
stock rows from the same size, with PostgreSQL's padding in place of Python's.
-/

/-- The number `significand / 2 ^ places`. -/
structure Double where
  significand : Nat
  places : Nat

/-- To 53 significant bits, ties to even; no price is out of a double's range. -/
def Double.round (exact : Double) : Double :=
  let excess := exact.significand.log2 + 1 - 53
  let kept := exact.significand / 2 ^ excess
  let dropped := exact.significand % 2 ^ excess
  let up := 2 ^ excess < 2 * dropped ∨ 2 ^ excess = 2 * dropped ∧ kept % 2 = 1
  { significand := (if up then kept + 1 else kept) * 2 ^ (excess - exact.places)
    places := exact.places - excess }

def Double.ofNat (number : Nat) : Double := ⟨number, 0⟩

def Double.add (one other : Double) : Double :=
  Double.round
    { significand := one.significand * 2 ^ other.places + other.significand * 2 ^ one.places
      places := one.places + other.places }

def Double.mul (one other : Double) : Double :=
  Double.round
    { significand := one.significand * other.significand, places := one.places + other.places }

def Double.floor (number : Double) : Nat := number.significand / 2 ^ number.places

/-- The doubles `0.5` and `0.35`. -/
def half : Double := ⟨1, 1⟩

def thirtyFiveCents : Double := ⟨3152519739159347, 53⟩

/-- `catalog_price_cents` -/
def catalogPriceCents (index : Nat) : Nat :=
  let price := half.add ((Double.ofNat (index % 47)).mul thirtyFiveCents)
  ((price.mul (Double.ofNat 100)).add half).floor

/-- `:06d` -/
def zeroPadded (width : Nat) (number : Nat) : List Char :=
  List.replicate (width - (Nat.toDigits 10 number).length) '0' ++ Nat.toDigits 10 number

/-- PostgreSQL's `lpad`, which cuts a longer text. -/
def lpad (text : List Char) (width : Nat) (fill : Char) : List Char :=
  if width ≤ text.length then text.take width
  else List.replicate (width - text.length) fill ++ text

/-- `f"SKU-{i:06d}"` -/
def seedSku (index : Nat) : Sku := "SKU-" ++ String.ofList (zeroPadded 6 index)

def seedRow (index : Nat) : List String :=
  [seedSku index, "Item " ++ toString index, toString (catalogPriceCents index)]

def header : List String := ["sku", "name", "price_cents"]

/-- The text `write` puts in the file, for all sizes Python prints. -/
def seedFile (size : Nat) : List Char :=
  (header :: (List.range' 1 size).map seedRow).flatMap writeRow

/-- `'SKU-' || lpad(g::text, 6, '0')` -/
def stockSku (number : Nat) : Sku := "SKU-" ++ String.ofList (lpad (Nat.toDigits 10 number) 6 '0')

/-- The SKUs of the stock rows Inventory's seed inserts, in one statement; `none` where the
primary key is violated. -/
def seedStock (size : Nat) : Option (List Sku) :=
  if ((List.range' 1 size).map stockSku).Nodup then some ((List.range' 1 size).map stockSku) else none

/-- What `load` raises. -/
inductive LoadFailure where
  | catalogFileError (message : String)
  | csvError
deriving DecidableEq, Repr

/-- The variables of the loop. -/
structure Loading where
  seen : List Sku
  previous : Sku
  items : List Item
deriving DecidableEq, Repr

def Loading.start : Loading := { seen := [], previous := "", items := [] }

def failAt (path : String) (line : Nat) (problem : String) : LoadFailure :=
  .catalogFileError (path ++ ":" ++ toString line ++ ": " ++ problem)

/-- The body of the loop. -/
def Loading.row (path : String) (line : Nat) (loading : Loading) :
    List String → Except LoadFailure Loading
  | [sku, name, price] =>
      if sku = "" ∨ name = "" then .error (failAt path line "sku and name must be non-empty")
      else if sku ∈ loading.seen then .error (failAt path line ("duplicate sku " ++ sku))
      else if sku < loading.previous then
        .error (failAt path line "rows must be in ascending sku order")
      else
        match Python.int price.toList with
        | none => .error (failAt path line "price_cents is not an integer")
        | some cents =>
            if cents ≤ 0 then .error (failAt path line "price_cents must be > 0")
            else
              .ok
                { seen := sku :: loading.seen, previous := sku
                  items := loading.items ++ [⟨sku, name, cents.toNat⟩] }
  | row => .error (failAt path line ("expected 3 columns, got " ++ toString row.length))

def Loading.rows (path : String) (line : Nat) (loading : Loading) :
    List (Option (List String)) → Except LoadFailure Loading
  | [] => .ok loading
  | none :: _ => .error .csvError
  | some row :: rest =>
      match loading.row path line row with
      | .error failure => .error failure
      | .ok after => after.rows path (line + 1) rest

/-- `load` of a file with this text. -/
def load (path : String) (text : List Char) : Except LoadFailure (List Item) :=
  match readRows text with
  | [] => .error (failAt path 1 "header must be exactly sku,name,price_cents")
  | none :: _ => .error .csvError
  | some first :: rest =>
      if first = header then (Loading.start.rows path 2 rest).map Loading.items
      else .error (failAt path 1 "header must be exactly sku,name,price_cents")

/-- Before every row: the items are in strictly ascending SKU order and have prices. -/
structure Loading.Sound (loading : Loading) : Prop where
  seen : ∀ sku, sku ∈ loading.seen ↔ sku ∈ loading.items.map Item.sku
  ascending : (loading.items.map Item.sku).Pairwise (· < ·)
  last : ∀ sku ∈ loading.items.map Item.sku, sku ≤ loading.previous
  known : loading.previous = "" ∨ loading.previous ∈ loading.seen
  priced : ∀ item ∈ loading.items, 0 < item.priceCents

theorem Loading.Sound.row {path : String} {line : Nat} {loading after : Loading} {row : List String}
    (sound : loading.Sound) (taken : loading.row path line row = .ok after) : after.Sound := by
  unfold Loading.row at taken
  split at taken
  · rename_i sku name price
    split at taken
    · contradiction
    rename_i named
    split at taken
    · contradiction
    rename_i unseen
    split at taken
    · contradiction
    rename_i inOrder
    split at taken
    · contradiction
    rename_i cents isCents
    split at taken
    · contradiction
    rename_i positive
    cases taken
    have above : loading.previous < sku := by
      refine lt_of_le_of_ne (not_lt.mp inOrder) ?_
      rintro rfl
      rcases sound.known with isEmpty | known
      · exact named (.inl isEmpty)
      · exact unseen known
    exact
      { seen := fun other => by simp [sound.seen, or_comm]
        ascending := by
          simp only [List.map_append, List.map_cons, List.map_nil]
          rw [List.pairwise_append]
          refine ⟨sound.ascending, by simp, fun earlier isIn last isLast => ?_⟩
          rw [List.mem_singleton.mp isLast]
          exact lt_of_le_of_lt (sound.last earlier isIn) above
        last := by
          intro other isIn
          simp only [List.map_append, List.map_cons, List.map_nil, List.mem_append,
            List.mem_singleton] at isIn
          rcases isIn with earlier | rfl
          · exact le_of_lt (lt_of_le_of_lt (sound.last other earlier) above)
          · exact le_refl _
        known := .inr (by simp)
        priced := by
          intro item isIn
          rcases List.mem_append.mp isIn with earlier | isNew
          · exact sound.priced item earlier
          · rw [List.mem_singleton.mp isNew]
            simp only
            omega }
  · contradiction

theorem Loading.Sound.rows {path : String} {rows : List (Option (List String))} {line : Nat}
    {loading after : Loading} (sound : loading.Sound)
    (taken : loading.rows path line rows = .ok after) : after.Sound := by
  induction rows generalizing line loading with
  | nil =>
      cases taken
      exact sound
  | cons row rows ih =>
      cases row with
      | none => contradiction
      | some row =>
          rw [Loading.rows] at taken
          cases found : loading.row path line row with
          | error failure =>
              rw [found] at taken
              contradiction
          | ok next =>
              rw [found] at taken
              exact ih (sound.row found) taken

/-- Whatever file it reads, what `load` returns has strictly ascending SKUs and prices. -/
theorem load_sound {path : String} {text : List Char} {items : List Item}
    (loaded : load path text = .ok items) :
    (items.map Item.sku).Pairwise (· < ·) ∧ ∀ item ∈ items, 0 < item.priceCents := by
  have start : Loading.start.Sound :=
    { seen := by simp [Loading.start], ascending := by simp [Loading.start],
      last := by simp [Loading.start], known := .inl rfl, priced := by simp [Loading.start] }
  unfold load at loaded
  split at loaded
  · contradiction
  · contradiction
  · rename_i rest isRows
    split at loaded
    · cases found : Loading.start.rows path 2 rest with
      | error failure =>
          rw [found] at loaded
          contradiction
      | ok after =>
          rw [found] at loaded
          cases loaded
          have sound := start.rows found
          exact ⟨sound.ascending, sound.priced⟩
    · contradiction

theorem catalogPriceCents_eq (index : Nat) : catalogPriceCents index = 50 + 35 * (index % 47) := by
  have residues : ∀ residue < 47, catalogPriceCents residue = 50 + 35 * residue := by decide +kernel
  have small : index % 47 < 47 := Nat.mod_lt _ (by decide)
  have same : catalogPriceCents index = catalogPriceCents (index % 47) := by
    simp [catalogPriceCents]
  rw [same, residues _ small]

theorem toList_seedSku (index : Nat) :
    (seedSku index).toList = ['S', 'K', 'U', '-'] ++ zeroPadded 6 index := by
  simp [seedSku]

theorem isDigit_zeroPadded {width number : Nat} {digit : Char}
    (isIn : digit ∈ zeroPadded width number) : digit.isDigit := by
  rcases List.mem_append.mp isIn with isZero | isDigit
  · rw [(List.mem_replicate.mp isZero).2]
    rfl
  · exact Nat.isDigit_of_mem_toDigits (by decide) (by decide) isDigit

theorem length_zeroPadded {number : Nat} (small : number ≤ 999999) :
    (zeroPadded 6 number).length = 6 := by
  have digits : (Nat.toDigits 10 number).length ≤ 6 :=
    (Nat.length_toDigits_le_iff (by decide) (by decide)).mpr (by omega)
  simp only [zeroPadded, List.length_append, List.length_replicate]
  omega

theorem ofDigitChars_zeroPadded (width number : Nat) :
    Nat.ofDigitChars 10 (zeroPadded width number) 0 = number := by
  simp [zeroPadded, Nat.ofDigitChars_append]

theorem seedSku_lt {index later : Nat} (less : index < later) (small : later ≤ 999999) :
    seedSku index < seedSku later := by
  have padded : zeroPadded 6 index < zeroPadded 6 later :=
    lt_of_ofDigitChars_lt
      (by rw [length_zeroPadded (by omega : index ≤ 999999), length_zeroPadded small])
      (fun digit isIn => isDigit_zeroPadded isIn) (fun digit isIn => isDigit_zeroPadded isIn)
      (by rwa [ofDigitChars_zeroPadded, ofDigitChars_zeroPadded])
  rw [String.lt_iff_toList_lt, toList_seedSku, toList_seedSku]
  exact List.append_left_lt padded

/-- Up to six digits the two paddings are one. -/
theorem stockSku_eq {number : Nat} (small : number ≤ 999999) : stockSku number = seedSku number := by
  have digits : (Nat.toDigits 10 number).length ≤ 6 :=
    (Nat.length_toDigits_le_iff (by decide) (by decide)).mpr (by omega)
  rw [stockSku, seedSku, lpad, zeroPadded]
  split
  · have six : (Nat.toDigits 10 number).length = 6 := by omega
    simp [six, List.take_of_length_le]
  · rfl

def letters : List Char := "SKU-Item skunameprice_cents".toList

theorem plain_of_characters {field : String} (nonempty : field.toList ≠ [])
    (short : field.toList.length ≤ 100)
    (characters : ∀ character ∈ field.toList, character.isDigit ∨ character ∈ letters) :
    Plain field where
  nonempty
  short := by
    have limit : 100 ≤ fieldLimit := by decide
    omega
  unquoted character isIn := by
    have special : ∀ other : Char, other ∈ letters →
        other ≠ ',' ∧ other ≠ '"' ∧ isBreak other = false :=
      List.all_iff_forall_prop.mp (by decide)
    rcases characters character isIn with isDigit | isLetter
    · refine ⟨?_, ?_, ?_⟩
      · rintro rfl
        exact absurd isDigit (by decide)
      · rintro rfl
        exact absurd isDigit (by decide)
      · simp only [isBreak, Bool.or_eq_false_iff, decide_eq_false_iff_not]
        refine ⟨?_, ?_⟩
        · rintro rfl
          exact absurd isDigit (by decide)
        · rintro rfl
          exact absurd isDigit (by decide)
    · exact special character isLetter

theorem length_toDigits_le_seven {number : Nat} (small : number ≤ 1000000) :
    (Nat.toDigits 10 number).length ≤ 7 :=
  (Nat.length_toDigits_le_iff (by decide) (by decide)).mpr (by omega)

theorem plain_seedRow {index : Nat} (small : index ≤ 1000000) :
    ∀ field ∈ seedRow index, Plain field := by
  have digits := length_toDigits_le_seven small
  have price : (Nat.toDigits 10 (catalogPriceCents index)).length ≤ 7 := by
    refine length_toDigits_le_seven ?_
    rw [catalogPriceCents_eq]
    omega
  have areDigits : ∀ number, ∀ digit ∈ Nat.toDigits 10 number, digit.isDigit :=
    fun number digit isIn => Nat.isDigit_of_mem_toDigits (by decide) (by decide) isIn
  intro field isIn
  simp only [seedRow, List.mem_cons, List.not_mem_nil, or_false] at isIn
  rcases isIn with rfl | rfl | rfl
  · refine plain_of_characters (by simp [toList_seedSku]) ?_ ?_
    · simp only [toList_seedSku, zeroPadded, List.length_append, List.length_replicate,
        List.length_cons, List.length_nil]
      omega
    · intro character isIn
      rw [toList_seedSku] at isIn
      rcases List.mem_append.mp isIn with isLetter | isDigit
      · have areLetters : ∀ letter ∈ ['S', 'K', 'U', '-'], letter ∈ letters :=
          List.all_iff_forall_prop.mp (by decide)
        exact .inr (areLetters character isLetter)
      · exact .inl (isDigit_zeroPadded isDigit)
  · refine plain_of_characters (by simp) ?_ ?_
    · simp
      omega
    · intro character isIn
      rw [String.toList_append] at isIn
      rcases List.mem_append.mp isIn with isLetter | isDigit
      · have areLetters : ∀ letter ∈ "Item ".toList, letter ∈ letters :=
          List.all_iff_forall_prop.mp (by decide)
        exact .inr (areLetters character isLetter)
      · exact .inl (areDigits index character (by simpa using isDigit))
  · refine plain_of_characters (by simp) ?_ ?_
    · simp
      omega
    · intro character isIn
      exact .inl (areDigits _ character (by simpa using isIn))

theorem plain_header : ∀ field ∈ header, Plain field := by
  have nonempty : ∀ field ∈ header, field.toList ≠ [] := by decide
  have short : ∀ field ∈ header, field.toList.length ≤ 100 := by decide
  have areLetters : ∀ character ∈ header.flatMap String.toList, character ∈ letters :=
    List.all_iff_forall_prop.mp (by decide)
  intro field isIn
  exact plain_of_characters (nonempty field isIn) (short field isIn)
    (fun character isCharacter => .inr (areLetters character
      (List.mem_flatMap.mpr ⟨field, isIn, isCharacter⟩)))

def seedRows (first count : Nat) : List (List String) := (List.range' first count).map seedRow

/-- What the reader makes of the file, up to a row with at most seven digits. -/
theorem readRows_seedFile {size upTo : Nat} (within : upTo ≤ size) (small : upTo ≤ 1000000) :
    readRows (seedFile size) =
      some header :: ((seedRows 1 upTo).map some ++
        readRows ((seedRows (1 + upTo) (size - upTo)).flatMap writeRow)) := by
  have split : List.range' 1 size = List.range' 1 upTo ++ List.range' (1 + upTo) (size - upTo) := by
    rw [List.range'_append_1, Nat.add_sub_cancel' within]
  rw [seedFile, split, List.map_append, ← List.cons_append, List.flatMap_append, readRows_written]
  · rfl
  · intro row isIn
    rcases List.mem_cons.mp isIn with rfl | isRow
    · decide
    · obtain ⟨index, -, rfl⟩ := List.mem_map.mp isRow
      simp [seedRow]
  · intro row isIn
    rcases List.mem_cons.mp isIn with rfl | isRow
    · exact plain_header
    · obtain ⟨index, isIndex, rfl⟩ := List.mem_map.mp isRow
      have bounds := List.mem_range'_1.mp isIndex
      exact plain_seedRow (by omega)

def seedItem (index : Nat) : Item :=
  { sku := seedSku index, name := "Item " ++ toString index, priceCents := catalogPriceCents index }

/-- The loop's variables after the rows up to `upTo`. -/
def seededLoading (upTo : Nat) : Loading :=
  { seen := ((List.range' 1 upTo).map seedSku).reverse
    previous := if upTo = 0 then "" else seedSku upTo
    items := (List.range' 1 upTo).map seedItem }

theorem seedSku_ne_empty (index : Nat) : seedSku index ≠ "" := by
  intro isEmpty
  have texts := congrArg String.toList isEmpty
  rw [toList_seedSku] at texts
  simp at texts

theorem previous_lt {upTo : Nat} (small : upTo < 999999) :
    (seededLoading upTo).previous < seedSku (upTo + 1) := by
  simp only [seededLoading]
  split
  · rw [String.lt_iff_toList_lt, toList_seedSku]
    exact List.Lex.nil
  · exact seedSku_lt (by omega) (by omega)

theorem int_price (index : Nat) :
    Python.int (toString (catalogPriceCents index)).toList = some (catalogPriceCents index : Int) := by
  have digits : (Nat.toDigits 10 (catalogPriceCents index)).length ≤ 7 := by
    refine length_toDigits_le_seven ?_
    rw [catalogPriceCents_eq]
    omega
  have limit : 7 ≤ Python.maxStrDigits := by decide
  simpa using Python.int_toDigits (digits.trans limit)

/-- A row in its place is taken. -/
theorem row_taken {path : String} {line cents : Nat} {loading : Loading} {sku name price : String}
    (named : name ≠ "") (unseen : sku ∉ loading.seen) (inOrder : loading.previous < sku)
    (isPrice : Python.int price.toList = some (cents : Int)) (priced : 0 < cents) :
    loading.row path line [sku, name, price] =
      .ok
        { seen := sku :: loading.seen, previous := sku
          items := loading.items ++ [⟨sku, name, cents⟩] } := by
  have isNamed : ¬ (sku = "" ∨ name = "") := by
    rintro (rfl | isEmpty)
    · exact absurd (String.lt_iff_toList_lt.mp inOrder) (by simp)
    · exact named isEmpty
  have isPositive : ¬ (cents : Int) ≤ 0 := by omega
  rw [Loading.row, if_neg isNamed, if_neg unseen, if_neg (lt_asymm inOrder), isPrice]
  simp only [if_neg isPositive, Int.toNat_natCast]

/-- A row of six digits is taken. -/
theorem row_seedRow {path : String} {line upTo : Nat} (small : upTo < 999999) :
    (seededLoading upTo).row path line (seedRow (upTo + 1)) = .ok (seededLoading (upTo + 1)) := by
  have unseen : seedSku (upTo + 1) ∉ (seededLoading upTo).seen := by
    simp only [seededLoading, List.mem_reverse, List.mem_map, List.mem_range'_1, not_exists, not_and]
    intro index bounds
    exact ne_of_lt (seedSku_lt (by omega) (by omega))
  have priced : 0 < catalogPriceCents (upTo + 1) := by
    rw [catalogPriceCents_eq]
    omega
  have next : List.range' 1 (upTo + 1) = List.range' 1 upTo ++ [upTo + 1] := by
    rw [List.range'_1_concat, Nat.add_comm 1]
  rw [seedRow, row_taken (by simp) unseen (previous_lt small) (int_price _) priced, seededLoading,
    seededLoading, next, List.map_append, List.map_append, if_neg (Nat.succ_ne_zero upTo),
    List.reverse_append]
  rfl

/-- Rows of up to six digits are taken, whatever follows them. -/
theorem rows_seedRows {path : String} {line : Nat} (rest : List (Option (List String))) {upTo : Nat}
    (small : upTo ≤ 999999) :
    Loading.start.rows path line
        ((seedRows 1 upTo).map some ++ rest) =
      (seededLoading upTo).rows path (line + upTo) rest := by
  induction upTo generalizing rest with
  | zero => rfl
  | succ upTo ih =>
      have next : seedRows 1 (upTo + 1) = seedRows 1 upTo ++ [seedRow (upTo + 1)] := by
        rw [seedRows, List.range'_1_concat, List.map_append, Nat.add_comm 1]
        rfl
      rw [next, List.map_append, List.append_assoc, ih _ (by omega)]
      simp only [List.map_cons, List.map_nil, List.singleton_append, Loading.rows,
        row_seedRow (show upTo < 999999 by omega)]
      rfl

theorem load_rows {path : String} {text : List Char} {rows : List (Option (List String))}
    (isRows : readRows text = some header :: rows) :
    load path text = (Loading.start.rows path 2 rows).map Loading.items := by
  rw [load, isRows]
  exact if_pos rfl

theorem load_seedFile {size : Nat} (path : String) (small : size ≤ 999999) :
    load path (seedFile size) = .ok ((List.range' 1 size).map seedItem) := by
  have noMore : readRows ((seedRows (1 + size) (size - size)).flatMap writeRow) = [] := by
    rw [Nat.sub_self]
    rfl
  rw [load_rows (readRows_seedFile (le_refl size) (by omega)), rows_seedRows _ small, noMore]
  rfl

theorem toDigits_million : Nat.toDigits 10 1000000 = ['1', '0', '0', '0', '0', '0', '0'] := by
  decide +kernel

theorem seedSku_million_lt : seedSku 1000000 < seedSku 999999 := by
  have digits : Nat.toDigits 10 999999 = ['9', '9', '9', '9', '9', '9'] := by decide +kernel
  rw [String.lt_iff_toList_lt, toList_seedSku, toList_seedSku, zeroPadded, zeroPadded,
    toDigits_million, digits]
  decide

/-- The first row of seven digits is not in order. -/
theorem row_million (path : String) (line : Nat) :
    (seededLoading 999999).row path line (seedRow 1000000) =
      .error (failAt path line "rows must be in ascending sku order") := by
  have named : ¬ (seedSku 1000000 = "" ∨ "Item " ++ toString 1000000 = "") := by
    simp [seedSku_ne_empty]
  have unseen : seedSku 1000000 ∉ (seededLoading 999999).seen := by
    simp only [seededLoading, List.mem_reverse, List.mem_map, List.mem_range'_1, not_exists, not_and]
    intro index bounds same
    have lengths := congrArg (fun sku => sku.toList.length) same
    have seven : (zeroPadded 6 1000000).length = 7 := by
      rw [zeroPadded, toDigits_million]
      rfl
    simp only [toList_seedSku, List.length_append, length_zeroPadded (show index ≤ 999999 by omega),
      seven] at lengths
    omega
  have below : seedSku 1000000 < (seededLoading 999999).previous := seedSku_million_lt
  rw [seedRow, Loading.row, if_neg named, if_neg unseen, if_pos below]

theorem load_seedFile_large {size : Nat} (path : String) (large : 999999 < size) :
    load path (seedFile size) =
      .error (failAt path 1000001 "rows must be in ascending sku order") := by
  obtain ⟨last, isLast⟩ : ∃ last, last = 999999 := ⟨_, rfl⟩
  have next : seedRows 1 (last + 1) = seedRows 1 last ++ [seedRow (last + 1)] := by
    rw [seedRows, List.range'_1_concat, List.map_append, Nat.add_comm 1]
    rfl
  have stops : ∀ rest, (seededLoading last).rows path (2 + last) (some (seedRow (last + 1)) :: rest) =
      .error (failAt path 1000001 "rows must be in ascending sku order") := by
    intro rest
    have million : last + 1 = 1000000 := by omega
    have lineNumber : 2 + last = 1000001 := by omega
    rw [Loading.rows, lineNumber, million, isLast, row_million]
  have within : last + 1 ≤ size := by omega
  rw [load_rows (readRows_seedFile within (by omega)), next, List.map_append,
    List.append_assoc, rows_seedRows _ (by omega)]
  simp only [List.map_cons, List.map_nil, List.singleton_append, stops]
  rfl

theorem seedSku_injective {index other : Nat} (small : index ≤ 999999) (otherSmall : other ≤ 999999)
    (same : seedSku index = seedSku other) : index = other := by
  rcases Nat.lt_trichotomy index other with less | isSame | greater
  · exact absurd same (ne_of_lt (seedSku_lt less otherSmall))
  · exact isSame
  · exact absurd same.symm (ne_of_lt (seedSku_lt greater small))

theorem seedStock_small {size : Nat} (small : size ≤ 999999) :
    seedStock size = some ((List.range' 1 size).map seedSku) := by
  have bounds : ∀ index ∈ List.range' 1 size, index ≤ 999999 := by
    intro index isIn
    have within := List.mem_range'_1.mp isIn
    omega
  have sameSkus : (List.range' 1 size).map stockSku = (List.range' 1 size).map seedSku :=
    List.map_congr_left (fun index isIn => stockSku_eq (bounds index isIn))
  have nodup : ((List.range' 1 size).map seedSku).Nodup :=
    List.Nodup.map_on (fun index isIn other otherIn same =>
      seedSku_injective (bounds index isIn) (bounds other otherIn) same) List.nodup_range'
  rw [seedStock, sameSkus, if_pos nodup]

/-- The first row of seven digits has the SKU of another. -/
theorem seedStock_large {size : Nat} (large : 999999 < size) : seedStock size = none := by
  have clash : stockSku 1000000 = stockSku 100000 := by
    have digits : Nat.toDigits 10 100000 = ['1', '0', '0', '0', '0', '0'] := by decide +kernel
    rw [stockSku, stockSku, toDigits_million, digits]
    rfl
  rw [seedStock, if_neg]
  intro nodup
  have isIn : ∀ number, 1 ≤ number → number ≤ 1000000 → number ∈ List.range' 1 size := by
    intro number above below
    rw [List.mem_range'_1]
    omega
  have same := List.inj_on_of_nodup_map nodup (isIn 1000000 (by omega) (by omega))
    (isIn 100000 (by omega) (by omega)) clash
  omega

/-- `load` takes the file of this size, its SKUs are in strictly ascending order, one for each
item, and Inventory's stock rows are for exactly these. -/
def SeedsAgree (path : String) (size : Nat) : Prop :=
  ∃ items stocked, load path (seedFile size) = .ok items ∧ items.length = size ∧
    (items.map Item.sku).Pairwise (· < ·) ∧ seedStock size = some stocked ∧
    ∀ sku, sku ∈ stocked ↔ sku ∈ items.map Item.sku

theorem not_seedsAgree {path : String} {size : Nat} (large : 999999 < size) :
    ¬ SeedsAgree path size := by
  rintro ⟨items, stocked, loaded, -⟩
  rw [load_seedFile_large path large] at loaded
  contradiction

theorem seeds_agree_iff (path : String) (size : Nat) : SeedsAgree path size ↔ size ≤ 999999 := by
  by_cases small : size ≤ 999999
  · have loaded := load_seedFile path small
    have sameSkus : ((List.range' 1 size).map seedItem).map Item.sku =
        (List.range' 1 size).map seedSku := by simp [seedItem, Function.comp_def]
    refine iff_of_true ⟨_, _, loaded, by simp, (load_sound loaded).1, seedStock_small small, ?_⟩ small
    intro sku
    rw [sameSkus]
  · exact iff_of_false (not_seedsAgree (by omega)) small

/-- At a million items the file is refused at its last line, and the stock rows do not go in. -/
theorem seeds_disagree_at_a_million :
    load "catalog.csv" (seedFile 1000000) = .error
        (failAt "catalog.csv" 1000001 "rows must be in ascending sku order") ∧
      seedStock 1000000 = none ∧ ¬ ∀ size, 1 ≤ size → SeedsAgree "catalog.csv" size := by
  have large : 999999 < 1000000 := by decide
  exact ⟨load_seedFile_large "catalog.csv" large, seedStock_large large,
    fun all => not_seedsAgree large (all 1000000 (by decide))⟩

end SelfCheckout.Catalog
