import EquityGuard.Framing

/-!
Strings as sequences of UTF-16 code units, and the JSON text of nested arrays over
strings, integers and booleans. The text determines the value: a string ends at the
first quote that is not escaped, a number where its digits end.
-/
namespace EquityGuard.JsonText
open EquityGuard.Framing

/-! ### Strings -/

abbrev Text := List UInt16
instance : LawfulBEq Text := inferInstance

/-- The code units of a character. -/
def unitsOf (letter : Char) : Text :=
  if letter.toNat < 0x10000 then [UInt16.ofNat letter.toNat]
  else [UInt16.ofNat (0xd800 + (letter.toNat - 0x10000) / 0x400), UInt16.ofNat (0xdc00 + (letter.toNat - 0x10000) % 0x400)]
def text (literal : String) : Text := literal.toList.flatMap unitsOf
instance : Coe String Text := ⟨text⟩

/-- An ASCII text is its letters, one code unit each. -/
theorem units_ascii {string : String} (ascii : ∀ letter ∈ string.toList, letter.toNat < 128) :
    (text string).map (fun unit => Char.ofNat unit.toNat) = string.toList := by
  unfold text
  generalize string.toList = letters at ascii
  induction letters with
  | nil => rfl
  | cons letter rest ih =>
    obtain ⟨small, others⟩ := List.forall_mem_cons.mp ascii
    have unit : (UInt16.ofNat letter.toNat).toNat = letter.toNat := by
      rw [UInt16.toNat_ofNat']
      omega
    rw [List.flatMap_cons, unitsOf, if_pos (by omega), List.map_append, ih others, List.map_singleton, unit, Char.ofNat_toNat]
    rfl

/-! ### Integers in decimal -/

def digits (number : Nat) : Text := (Nat.toDigits 10 number).map (fun digit => UInt16.ofNat digit.toNat)
def decimal : Int → Text
  | .ofNat number => digits number
  | .negSucc number => 45 :: digits (number + 1)

def IsDigit (unit : UInt16) : Prop := 48 ≤ unit ∧ unit ≤ 57
instance : DecidablePred IsDigit := fun unit => inferInstanceAs (Decidable (48 ≤ unit ∧ unit ≤ 57))

theorem char_isDigit {digit : Char} (decimalDigit : digit.isDigit = true) : 48 ≤ digit.toNat ∧ digit.toNat ≤ 57 := by
  simpa [Char.isDigit, UInt32.le_iff_toNat_le] using decimalDigit
theorem digit_unit {digit : Char} (decimalDigit : digit.isDigit = true) :
    (UInt16.ofNat digit.toNat).toNat = digit.toNat := by
  obtain ⟨_, high⟩ := char_isDigit decimalDigit
  exact UInt16.toNat_ofNat_of_lt (Nat.lt_of_le_of_lt high (by decide))
theorem isDigit_of_mem {number : Nat} {unit : UInt16} (member : unit ∈ digits number) : IsDigit unit := by
  obtain ⟨digit, found, rfl⟩ := List.mem_map.mp member
  have decimalDigit := Nat.isDigit_of_mem_toDigits (by decide) (by decide) found
  simp only [IsDigit, UInt16.le_iff_toNat_le, digit_unit decimalDigit]
  exact char_isDigit decimalDigit
theorem digits_injective : Function.Injective digits := by
  intro left right same
  have characters (number : Nat) :
      (digits number).map (fun unit => Char.ofNat unit.toNat) = Nat.toDigits 10 number := by
    rw [digits, List.map_map]
    refine (List.map_congr_left fun digit found => ?_).trans (List.map_id _)
    have decimalDigit := Nat.isDigit_of_mem_toDigits (by decide) (by decide) found
    simp only [Function.comp_apply, digit_unit decimalDigit, Char.ofNat_toNat, id_eq]
  rw [← @Nat.ofDigitChars_ten_toDigits left, ← characters, same, characters, Nat.ofDigitChars_ten_toDigits]
theorem digits_ne_nil (number : Nat) : digits number ≠ [] := by
  simp [digits]

/-- Nothing that continues a number. -/
def Ends (rest : Text) : Prop := ∀ unit ∈ rest.head?, ¬ IsDigit unit

theorem takeWhile_digits (number : Nat) {rest : Text} (ends : Ends rest) :
    (digits number ++ rest).takeWhile (fun unit => decide (IsDigit unit)) = digits number := by
  rw [List.takeWhile_append_of_pos (fun unit member => decide_eq_true (isDigit_of_mem member))]
  cases rest with
  | nil => simp
  | cons unit tail => simp [ends unit rfl]
theorem digits_delimited {left right : Nat} {leftRest rightRest : Text} (leftEnds : Ends leftRest)
    (rightEnds : Ends rightRest) (same : digits left ++ leftRest = digits right ++ rightRest) :
    left = right ∧ leftRest = rightRest := by
  have numbers : digits left = digits right := by
    rw [← takeWhile_digits left leftEnds, same, takeWhile_digits right rightEnds]
  rw [numbers] at same
  exact ⟨digits_injective numbers, List.append_cancel_left same⟩
/-- No digit is a minus sign. -/
theorem digits_ne_minus {number : Nat} {rest other : Text} : digits number ++ rest ≠ 45 :: other := by
  intro same
  cases shape : digits number with
  | nil => exact digits_ne_nil number shape
  | cons unit tail =>
    have digit : IsDigit unit := isDigit_of_mem (by rw [shape]; exact List.mem_cons_self)
    rw [shape, List.cons_append, List.cons.injEq] at same
    rw [same.1] at digit
    exact absurd digit (by decide)
theorem decimal_delimited {left right : Int} {leftRest rightRest : Text} (leftEnds : Ends leftRest)
    (rightEnds : Ends rightRest) (same : decimal left ++ leftRest = decimal right ++ rightRest) :
    left = right ∧ leftRest = rightRest := by
  cases left with
  | ofNat left =>
    cases right with
    | ofNat right =>
      obtain ⟨rfl, rests⟩ := digits_delimited leftEnds rightEnds same
      exact ⟨rfl, rests⟩
    | negSucc right => exact absurd same digits_ne_minus
  | negSucc left =>
    cases right with
    | ofNat right => exact absurd same.symm digits_ne_minus
    | negSucc right =>
      obtain ⟨numbers, rests⟩ := digits_delimited leftEnds rightEnds (List.cons.inj same).2
      exact ⟨by omega, rests⟩
theorem decimal_injective : Function.Injective decimal := by
  intro left right same
  exact (@decimal_delimited left right [] [] nofun nofun (by rw [same])).1

/-! ### Quoted strings -/

def IsHigh (unit : UInt16) : Prop := 0xd800 ≤ unit ∧ unit ≤ 0xdbff
instance : DecidablePred IsHigh := fun unit => inferInstanceAs (Decidable (0xd800 ≤ unit ∧ unit ≤ 0xdbff))
def IsLow (unit : UInt16) : Prop := 0xdc00 ≤ unit ∧ unit ≤ 0xdfff
instance : DecidablePred IsLow := fun unit => inferInstanceAs (Decidable (0xdc00 ≤ unit ∧ unit ≤ 0xdfff))

def hexUnit (value : Nat) : UInt16 := if value < 10 then UInt16.ofNat (48 + value) else UInt16.ofNat (87 + value)
/-- A backslash, `u` and four lower-case hexadecimal digits. -/
def unicodeEscape (unit : UInt16) : Text :=
  [92, 117, hexUnit (unit.toNat / 4096), hexUnit (unit.toNat / 256 % 16), hexUnit (unit.toNat / 16 % 16),
    hexUnit (unit.toNat % 16)]
/-- The letters of the two-unit escapes. -/
def shortEscapes : List (UInt16 × UInt16) := [(8, 98), (9, 116), (10, 110), (12, 102), (13, 114), (34, 34), (92, 92)]
/-- One unit that is not half of a pair. -/
def escapeUnit (unit : UInt16) : Text :=
  match shortEscapes.lookup unit with
  | some letter => [92, letter]
  | none => if unit < 32 ∨ IsHigh unit ∨ IsLow unit then unicodeEscape unit else [unit]

inductive CodePoint where
  | pair (high low : UInt16)
  | single (unit : UInt16)
namespace CodePoint
def units : CodePoint → Text
  | pair high low => [high, low]
  | single unit => [unit]
def Paired : CodePoint → Prop
  | pair high low => IsHigh high ∧ IsLow low
  | single _ => True
/-- A pair of surrogates stands for itself; what stands alone is escaped where it has to be. -/
def escape : CodePoint → Text
  | pair high low => [high, low]
  | single unit => escapeUnit unit
end CodePoint
/-- `StringToCodePoints`. -/
def codePoints : Text → List CodePoint
  | high :: low :: rest =>
    if IsHigh high ∧ IsLow low then .pair high low :: codePoints rest else .single high :: codePoints (low :: rest)
  | [unit] => [.single unit]
  | [] => []
/-- `QuoteJSONString`. -/
def quote (string : Text) : Text := 34 :: ((codePoints string).flatMap CodePoint.escape ++ [34])

theorem codePoints_units (string : Text) : (codePoints string).flatMap CodePoint.units = string := by
  fun_induction codePoints string with
  | case1 high low rest pair ih => simp [CodePoint.units, ih]
  | case2 high low rest alone ih => simp [CodePoint.units, ih]
  | case3 unit => rfl
  | case4 => rfl
theorem codePoints_paired (string : Text) : ∀ point ∈ codePoints string, point.Paired := by
  fun_induction codePoints string with
  | case1 high low rest pair ih => exact List.forall_mem_cons.mpr ⟨pair, ih⟩
  | case2 high low rest alone ih => exact List.forall_mem_cons.mpr ⟨trivial, ih⟩
  | case3 unit => simp [CodePoint.Paired]
  | case4 => simp
theorem codePoints_injective : Function.Injective codePoints := by
  intro left right same
  rw [← codePoints_units left, same, codePoints_units]

def hexOfUnit (unit : UInt16) : Nat := if unit < 97 then unit.toNat - 48 else unit.toNat - 87
/-- The unit at the front of an escaped string, and what follows it. -/
def readUnit : Text → Option (UInt16 × Text)
  | [] => none
  | unit :: rest =>
    if unit ≠ 92 then some (unit, rest)
    else match rest with
      | [] => none
      | letter :: rest =>
        if letter ≠ 117 then some (((shortEscapes.map Prod.swap).lookup letter).getD letter, rest)
        else match rest with
          | first :: second :: third :: fourth :: rest =>
            some (UInt16.ofNat (4096 * hexOfUnit first + 256 * hexOfUnit second + 16 * hexOfUnit third +
              hexOfUnit fourth), rest)
          | _ => none

theorem hexOfUnit_hexUnit {value : Nat} (small : value < 16) : hexOfUnit (hexUnit value) = value := by
  have table : ∀ value < 16, hexOfUnit (hexUnit value) = value := by decide
  exact table value small
theorem readUnit_unicodeEscape (unit : UInt16) (rest : Text) :
    readUnit (unicodeEscape unit ++ rest) = some (unit, rest) := by
  have small := unit.toNat_lt
  have value : 4096 * (unit.toNat / 4096) + 256 * (unit.toNat / 256 % 16) + 16 * (unit.toNat / 16 % 16) +
      unit.toNat % 16 = unit.toNat := by omega
  simp only [unicodeEscape, List.cons_append, List.nil_append, readUnit]
  rw [if_neg (by decide), if_neg (by decide), hexOfUnit_hexUnit (by omega), hexOfUnit_hexUnit (by omega),
    hexOfUnit_hexUnit (by omega), hexOfUnit_hexUnit (by omega), value, UInt16.ofNat_toNat]
theorem lookup_mem {unit letter : UInt16} (found : shortEscapes.lookup unit = some letter) :
    (unit, letter) ∈ shortEscapes := by
  obtain ⟨before, after, split, _⟩ := List.lookup_eq_some_iff.mp found
  rw [split]
  simp
theorem readUnit_escapeUnit (unit : UInt16) (rest : Text) : readUnit (escapeUnit unit ++ rest) = some (unit, rest) := by
  unfold escapeUnit
  split
  · rename_i letter found
    have table : shortEscapes.all (fun pair =>
        decide (pair.2 ≠ 117 ∧ (shortEscapes.map Prod.swap).lookup pair.2 = some pair.1)) = true := by decide
    obtain ⟨single, back⟩ := of_decide_eq_true (List.all_eq_true.mp table _ (lookup_mem found))
    simp only [List.cons_append, List.nil_append, readUnit]
    rw [if_neg (by decide), if_pos single, back]
    rfl
  · rename_i absent
    split
    · exact readUnit_unicodeEscape unit rest
    · have bare : unit ≠ 92 := by
        rintro rfl
        exact absurd absent (by decide)
      simp only [List.cons_append, List.nil_append, readUnit]
      rw [if_pos bare]
/-- What an escape starts with is neither a quote nor half of a pair. -/
theorem escapeUnit_head (unit : UInt16) :
    ∃ head tail, escapeUnit unit = head :: tail ∧ head ≠ 34 ∧ ¬ IsHigh head := by
  unfold escapeUnit
  split
  · exact ⟨92, _, rfl, by decide, by decide⟩
  · rename_i absent
    split
    · exact ⟨92, _, rfl, by decide, by decide⟩
    · rename_i plain
      refine ⟨unit, [], rfl, ?_, fun high => plain (.inr (.inl high))⟩
      rintro rfl
      exact absurd absent (by decide)
theorem escape_delimited : Delimited CodePoint.escape CodePoint.Paired := by
  have differ {high low unit : UInt16} {leftRest rightRest : Text} (paired : IsHigh high) :
      high :: low :: leftRest ≠ escapeUnit unit ++ rightRest := by
    intro same
    obtain ⟨head, tail, escaped, _, single⟩ := escapeUnit_head unit
    rw [escaped, List.cons_append, List.cons.injEq] at same
    exact single (same.1 ▸ paired)
  intro left right leftRest rightRest leftPaired rightPaired same
  cases left with
  | pair high low =>
    cases right with
    | pair => simpa [CodePoint.escape, and_assoc] using same
    | single => exact absurd same (differ leftPaired.1)
  | single left =>
    cases right with
    | pair => exact absurd same.symm (differ rightPaired.1)
    | single right =>
      have reads := readUnit_escapeUnit left leftRest
      rw [show escapeUnit left ++ leftRest = escapeUnit right ++ rightRest from same, readUnit_escapeUnit] at reads
      cases reads
      exact ⟨rfl, rfl⟩
theorem escape_head (point : CodePoint) (paired : point.Paired) :
    ∃ head tail, point.escape = head :: tail ∧ head ≠ 34 := by
  cases point with
  | pair high low =>
    refine ⟨high, [low], rfl, ?_⟩
    rintro rfl
    exact absurd paired.1 (by decide)
  | single unit =>
    obtain ⟨head, tail, escaped, unquoted, _⟩ := escapeUnit_head unit
    exact ⟨head, tail, escaped, unquoted⟩
theorem quote_delimited : Delimited quote (fun _ => True) := by
  intro left right leftRest rightRest _ _ same
  simp only [quote, List.cons_append, List.append_assoc, List.nil_append, List.cons.injEq, true_and] at same
  obtain ⟨points, rests⟩ := escape_delimited.terminated escape_head _ _ _ _ (codePoints_paired left)
    (codePoints_paired right) same
  exact ⟨codePoints_injective points, rests⟩

/-! ### Values -/

inductive Json where
  | boolean (value : Bool)
  | number (value : Int)
  | string (value : Text)
  | array (items : List Json)

mutual
/-- `JSON.stringify` without indentation. -/
def stringify : Json → Text
  | .boolean true => [116, 114, 117, 101]
  | .boolean false => [102, 97, 108, 115, 101]
  | .number value => decimal value
  | .string value => quote value
  | .array [] => [91, 93]
  | .array (first :: rest) => 91 :: (stringify first ++ stringifyRest rest)
/-- The items after the first, up to the closing bracket. -/
def stringifyRest : List Json → Text
  | [] => [93]
  | item :: rest => 44 :: (stringify item ++ stringifyRest rest)
end

/-- The kind of a value, and the kind its text starts like. -/
def Json.kind : Json → Nat
  | boolean _ => 0
  | number _ => 1
  | string _ => 2
  | array _ => 3
def kindOf (unit : UInt16) : Nat :=
  if unit = 34 then 2 else if unit = 91 then 3 else if unit = 116 ∨ unit = 102 then 0
  else if unit = 45 ∨ IsDigit unit then 1 else 4

theorem kindOf_digit {unit : UInt16} (digit : IsDigit unit) : kindOf unit = 1 := by
  have differs {other : UInt16} (outside : ¬ IsDigit other) : unit ≠ other := by
    rintro rfl
    exact outside digit
  rw [kindOf, if_neg (differs (by decide)), if_neg (differs (by decide)),
    if_neg (not_or.mpr ⟨differs (by decide), differs (by decide)⟩), if_pos (.inr digit)]
theorem decimal_head (value : Int) : ∃ head tail, decimal value = head :: tail ∧ kindOf head = 1 := by
  cases value with
  | ofNat number =>
    cases shape : digits number with
    | nil => exact absurd shape (digits_ne_nil number)
    | cons unit tail =>
      have digit : IsDigit unit := isDigit_of_mem (by rw [shape]; exact List.mem_cons_self)
      exact ⟨unit, tail, shape, kindOf_digit digit⟩
  | negSucc number => exact ⟨45, _, rfl, by decide⟩
theorem stringify_head (value : Json) : ∃ head tail, stringify value = head :: tail ∧ kindOf head = value.kind := by
  cases value with
  | boolean value =>
    cases value with
    | true => exact ⟨116, _, by rw [stringify], rfl⟩
    | false => exact ⟨102, _, by rw [stringify], rfl⟩
  | number value => simpa only [stringify, Json.kind] using decimal_head value
  | string value => exact ⟨34, _, by rw [stringify, quote], rfl⟩
  | array items =>
    cases items with
    | nil => exact ⟨91, _, by rw [stringify], rfl⟩
    | cons first rest => exact ⟨91, _, by rw [stringify], rfl⟩
theorem kind_eq {left right : Json} {leftRest rightRest : Text}
    (same : stringify left ++ leftRest = stringify right ++ rightRest) : left.kind = right.kind := by
  obtain ⟨leftHead, _, leftText, leftKind⟩ := stringify_head left
  obtain ⟨rightHead, _, rightText, rightKind⟩ := stringify_head right
  rw [leftText, rightText] at same
  rw [← leftKind, ← rightKind, (List.cons.inj same).1]
/-- No item starts with the bracket that closes an array. -/
theorem stringify_ne_close {value : Json} {rest other : Text} : stringify value ++ rest ≠ 93 :: other := by
  intro same
  obtain ⟨head, _, shape, kind⟩ := stringify_head value
  rw [shape, List.cons_append, List.cons.injEq] at same
  rw [same.1, show kindOf 93 = 4 by decide] at kind
  cases value <;> cases kind
theorem ends_cons {unit : UInt16} (other : ¬ IsDigit unit) (rest : Text) : Ends (unit :: rest) := by
  rintro _ ⟨⟩
  exact other
theorem stringifyRest_ends (items : List Json) (rest : Text) : Ends (stringifyRest items ++ rest) := by
  cases items with
  | nil =>
    rw [stringifyRest]
    exact ends_cons (by decide) rest
  | cons item items =>
    rw [stringifyRest]
    exact ends_cons (by decide) _

mutual
theorem stringify_delimited : ∀ (left right : Json) (leftRest rightRest : Text), Ends leftRest → Ends rightRest →
    stringify left ++ leftRest = stringify right ++ rightRest → left = right ∧ leftRest = rightRest := by
  intro left right leftRest rightRest leftEnds rightEnds same
  have kinds := kind_eq same
  cases left with
  | boolean left =>
    cases right with
    | boolean right => cases left <;> cases right <;> simp_all [stringify]
    | _ => cases kinds
  | number left =>
    cases right with
    | number right =>
      simp only [stringify] at same
      obtain ⟨rfl, rests⟩ := decimal_delimited leftEnds rightEnds same
      exact ⟨rfl, rests⟩
    | _ => cases kinds
  | string left =>
    cases right with
    | string right =>
      simp only [stringify] at same
      obtain ⟨rfl, rests⟩ := quote_delimited _ _ _ _ trivial trivial same
      exact ⟨rfl, rests⟩
    | _ => cases kinds
  | array left =>
    cases right with
    | array right =>
      cases left with
      | nil =>
        cases right with
        | nil => simpa [stringify] using same
        | cons first rest =>
          simp only [stringify, List.cons_append, List.nil_append, List.append_assoc, List.cons.injEq, true_and] at same
          exact absurd same.symm stringify_ne_close
      | cons leftFirst leftItems =>
        cases right with
        | nil =>
          simp only [stringify, List.cons_append, List.nil_append, List.append_assoc, List.cons.injEq, true_and] at same
          exact absurd same stringify_ne_close
        | cons rightFirst rightItems =>
          simp only [stringify, List.cons_append, List.append_assoc, List.cons.injEq, true_and] at same
          obtain ⟨rfl, rests⟩ := stringify_delimited leftFirst rightFirst _ _ (stringifyRest_ends _ _)
            (stringifyRest_ends _ _) same
          obtain ⟨rfl, rest⟩ := stringifyRest_delimited leftItems rightItems _ _ rests
          exact ⟨rfl, rest⟩
    | _ => cases kinds
theorem stringifyRest_delimited : ∀ (left right : List Json) (leftRest rightRest : Text),
    stringifyRest left ++ leftRest = stringifyRest right ++ rightRest → left = right ∧ leftRest = rightRest := by
  intro left right leftRest rightRest same
  cases left with
  | nil =>
    cases right with
    | nil => simpa [stringifyRest] using same
    | cons item items => simp [stringifyRest] at same
  | cons leftFirst leftItems =>
    cases right with
    | nil => simp [stringifyRest] at same
    | cons rightFirst rightItems =>
      simp only [stringifyRest, List.cons_append, List.append_assoc, List.cons.injEq, true_and] at same
      obtain ⟨rfl, rests⟩ := stringify_delimited leftFirst rightFirst _ _ (stringifyRest_ends _ _)
        (stringifyRest_ends _ _) same
      obtain ⟨rfl, rest⟩ := stringifyRest_delimited leftItems rightItems _ _ rests
      exact ⟨rfl, rest⟩
end
theorem stringify_injective : Function.Injective stringify := by
  intro left right same
  exact (stringify_delimited left right [] [] nofun nofun (by rw [same])).1

end EquityGuard.JsonText
