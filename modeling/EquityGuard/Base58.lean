import Mathlib.Data.Nat.Digits.Lemmas

/-!
Base58 text for byte strings: the leading zeros are kept one for one, the rest is
the positional value rewritten in the other base. Decoding and encoding invert
each other, so a byte string has exactly one text.
-/
namespace EquityGuard.Base58

/-! ### Numerals in two bases -/

/-- The value of digits written most significant first. -/
def value (base : Nat) (digits : List Nat) : Nat := Nat.ofDigits base digits.reverse
def leadingZeros (digits : List Nat) : Nat := (digits.takeWhile (· == 0)).length
/-- The numeral with the given number of leading zeros and the given value. -/
def numeral (base zeros number : Nat) : List Nat := List.replicate zeros 0 ++ (Nat.digits base number).reverse
/-- A numeral rewritten in another base, with as many leading zeros. -/
def convert (source target : Nat) (digits : List Nat) : List Nat :=
  numeral target (leadingZeros digits) (value source digits)

theorem leadingZeros_numeral (base zeros number : Nat) : leadingZeros (numeral base zeros number) = zeros := by
  have stop : ((Nat.digits base number).reverse).takeWhile (· == 0) = [] := by
    cases written : (Nat.digits base number).reverse with
    | nil => rfl
    | cons head rest =>
      have reversed : Nat.digits base number = rest.reverse ++ [head] := by
        rw [← List.reverse_cons, ← written, List.reverse_reverse]
      have nonzero : number ≠ 0 := by rintro rfl; simp at reversed
      have last := Nat.getLast_digit_ne_zero base nonzero
      have headNonzero : head ≠ 0 := by simpa [reversed] using last
      simp [headNonzero]
  have zerosPass : ∀ digit ∈ List.replicate zeros 0, (digit == 0) = true := by
    intro digit member
    simp [List.eq_of_mem_replicate member]
  rw [leadingZeros, numeral, List.takeWhile_append_of_pos zerosPass, stop]
  simp
theorem value_numeral (base zeros number : Nat) : value base (numeral base zeros number) = number := by
  simp [value, numeral, Nat.ofDigits_append, Nat.ofDigits_digits]
/-- A numeral is its leading zeros followed by the digits of its value. -/
theorem numeral_of_digits {base : Nat} (large : 1 < base) (digits : List Nat) (small : ∀ digit ∈ digits, digit < base) :
    numeral base (leadingZeros digits) (value base digits) = digits := by
  induction digits with
  | nil => simp [numeral, leadingZeros, value]
  | cons head rest ih =>
    by_cases zero : head = 0
    · have tail := ih (fun digit member => small digit (List.mem_cons_of_mem _ member))
      have sameValue : value base (head :: rest) = value base rest := by
        simp [value, zero, Nat.ofDigits_append]
      have moreZeros : leadingZeros (head :: rest) = leadingZeros rest + 1 := by simp [leadingZeros, zero]
      rw [sameValue, moreZeros, zero]
      rw [numeral, List.replicate_succ, List.cons_append]
      exact congrArg (0 :: ·) tail
    · have noZeros : leadingZeros (head :: rest) = 0 := by simp [leadingZeros, zero]
      have all : ∀ digit ∈ (head :: rest).reverse, digit < base :=
        fun digit member => small digit (List.mem_reverse.mp member)
      have last : ∀ nonempty, ((head :: rest).reverse).getLast nonempty ≠ 0 := by
        intro nonempty
        simpa using zero
      rw [noZeros, numeral, value, Nat.digits_ofDigits base large _ all last]
      simp
theorem convert_convert (target : Nat) {source : Nat} (large : 1 < source) (digits : List Nat)
    (small : ∀ digit ∈ digits, digit < source) : convert target source (convert source target digits) = digits := by
  rw [convert, convert, leadingZeros_numeral, value_numeral, numeral_of_digits large digits small]
theorem convert_lt (source : Nat) {target : Nat} (large : 1 < target) (digits : List Nat) :
    ∀ digit ∈ convert source target digits, digit < target := by
  intro digit member
  rcases List.mem_append.mp member with zero | positional
  · rw [List.eq_of_mem_replicate zero]
    omega
  · exact Nat.digits_lt_base large (List.mem_reverse.mp positional)

/-! ### The text -/

def alphabet : List Char := "123456789ABCDEFGHJKLMNPQRSTUVWXYZabcdefghijkmnopqrstuvwxyz".toList
/-- The digit of a letter, if the alphabet has it. -/
def digitOf (letter : Char) : Option Nat := alphabet.idxOf? letter
def letterOf (digit : Nat) : Char := alphabet.getD digit '1'

/-- The bytes a text stands for; a letter outside the alphabet refuses it. -/
def decode (text : String) : Option (List UInt8) :=
  (text.toList.mapM digitOf).map (fun digits => (convert 58 256 digits).map UInt8.ofNat)
/-- The text of a byte string. -/
def encode (bytes : List UInt8) : String :=
  String.ofList ((convert 256 58 (bytes.map UInt8.toNat)).map letterOf)

theorem digitOf_letterOf {digit : Nat} (small : digit < 58) : digitOf (letterOf digit) = some digit := by
  have table : ∀ digit : Fin 58, digitOf (letterOf digit.val) = some digit.val := by decide
  exact table ⟨digit, small⟩
theorem letterOf_digitOf {letter : Char} {digit : Nat} (known : digitOf letter = some digit) :
    digit < 58 ∧ letterOf digit = letter := by
  obtain ⟨inside, found, _⟩ := List.idxOf?_eq_some_iff.mp known
  have size : alphabet.length = 58 := by decide
  refine ⟨by omega, ?_⟩
  simp [letterOf, List.getD, inside, found]

theorem mapM_digitOf_letters (digits : List Nat) (small : ∀ digit ∈ digits, digit < 58) :
    (digits.map letterOf).mapM digitOf = some digits := by
  induction digits with
  | nil => rfl
  | cons head rest ih =>
    have tail := ih (fun digit member => small digit (List.mem_cons_of_mem _ member))
    simp [List.mapM_cons, digitOf_letterOf (small head List.mem_cons_self), tail]
theorem letters_of_mapM {letters : List Char} {digits : List Nat} (known : letters.mapM digitOf = some digits) :
    (∀ digit ∈ digits, digit < 58) ∧ digits.map letterOf = letters := by
  induction letters generalizing digits with
  | nil =>
    simp only [List.mapM_nil, Option.pure_def, Option.some.injEq] at known
    subst known
    simp
  | cons letter rest ih =>
    simp only [List.mapM_cons, Option.bind_eq_bind, Option.bind_eq_some_iff, Option.pure_def,
      Option.some.injEq] at known
    obtain ⟨head, headKnown, tail, tailKnown, rfl⟩ := known
    obtain ⟨headSmall, headLetter⟩ := letterOf_digitOf headKnown
    obtain ⟨tailSmall, tailLetters⟩ := ih tailKnown
    refine ⟨?_, by simp [headLetter, tailLetters]⟩
    intro digit member
    rcases List.mem_cons.mp member with rfl | later
    · exact headSmall
    · exact tailSmall digit later

theorem byte_digits_lt (bytes : List UInt8) : ∀ digit ∈ bytes.map UInt8.toNat, digit < 256 := by
  intro digit member
  obtain ⟨byte, _, rfl⟩ := List.mem_map.mp member
  exact byte.toNat_lt
theorem map_toNat_ofNat (digits : List Nat) (small : ∀ digit ∈ digits, digit < 256) :
    (digits.map UInt8.ofNat).map UInt8.toNat = digits := by
  induction digits with
  | nil => rfl
  | cons head rest ih =>
    have headSmall := small head List.mem_cons_self
    have tail := ih (fun digit member => small digit (List.mem_cons_of_mem _ member))
    rw [List.map_cons, List.map_cons, tail]
    simp only [UInt8.toNat_ofNat', List.cons.injEq, and_true]
    omega

/-- Every byte string is the reading of its own text. -/
theorem decode_encode (bytes : List UInt8) : decode (encode bytes) = some bytes := by
  have letters := mapM_digitOf_letters _ (convert_lt 256 (by omega : 1 < 58) (bytes.map UInt8.toNat))
  have back := convert_convert 58 (by omega : 1 < 256) _ (byte_digits_lt bytes)
  rw [decode, encode, String.toList_ofList, letters, Option.map_some, back, List.map_map]
  simp [Function.comp_def]
/-- A text that has a reading is the text of that reading. -/
theorem encode_of_decode {text : String} {bytes : List UInt8} (read : decode text = some bytes) : encode bytes = text := by
  obtain ⟨digits, known, rfl⟩ := Option.map_eq_some_iff.mp read
  obtain ⟨small, letters⟩ := letters_of_mapM known
  rw [encode, map_toNat_ofNat _ (convert_lt _ (by omega) digits), convert_convert _ (by omega) digits small, letters,
    String.ofList_toList]

end EquityGuard.Base58
