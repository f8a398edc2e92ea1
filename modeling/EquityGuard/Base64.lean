import Mathlib.Data.List.Basic

/-!
Base64 text for byte strings: three bytes are four digits. Encoding a byte string
gives a text of the alphabet that reads back as that byte string.
-/
namespace EquityGuard.Base64

/-! ### Digits -/

/-- The base-64 digits of a byte string; a group of one or two bytes at the end is zero-filled. -/
def digitsOf : List UInt8 → List Nat
  | a :: b :: c :: rest =>
    a.toNat / 4 :: (a.toNat % 4 * 16 + b.toNat / 16) :: (b.toNat % 16 * 4 + c.toNat / 64) :: c.toNat % 64 :: digitsOf rest
  | [a, b] => [a.toNat / 4, a.toNat % 4 * 16 + b.toNat / 16, b.toNat % 16 * 4]
  | [a] => [a.toNat / 4, a.toNat % 4 * 16]
  | [] => []
/-- The whole bytes in a string of digits. -/
def bytesOf : List Nat → List UInt8
  | p :: q :: r :: s :: rest =>
    UInt8.ofNat (p * 4 + q / 16) :: UInt8.ofNat (q % 16 * 16 + r / 4) :: UInt8.ofNat (r % 4 * 64 + s) :: bytesOf rest
  | [p, q, r] => [UInt8.ofNat (p * 4 + q / 16), UInt8.ofNat (q % 16 * 16 + r / 4)]
  | [p, q] => [UInt8.ofNat (p * 4 + q / 16)]
  | _ => []

theorem ofNat_of_eq (byte : UInt8) {value : Nat} (same : value = byte.toNat) : UInt8.ofNat value = byte := by
  rw [same, UInt8.ofNat_toNat]
theorem bytesOf_digitsOf (bytes : List UInt8) : bytesOf (digitsOf bytes) = bytes := by
  induction bytes using digitsOf.induct with
  | case1 a b c rest ih =>
    have := a.toNat_lt; have := b.toNat_lt; have := c.toNat_lt
    rw [digitsOf, bytesOf, ih, ofNat_of_eq a, ofNat_of_eq b, ofNat_of_eq c] <;> omega
  | case2 a b =>
    have := a.toNat_lt; have := b.toNat_lt
    rw [digitsOf, bytesOf, ofNat_of_eq a, ofNat_of_eq b] <;> omega
  | case3 a =>
    have := a.toNat_lt
    rw [digitsOf, bytesOf, ofNat_of_eq a]; omega
  | case4 => rfl
theorem digitsOf_lt (bytes : List UInt8) : ∀ digit ∈ digitsOf bytes, digit < 64 := by
  induction bytes using digitsOf.induct with
  | case1 a b c rest ih =>
    have := a.toNat_lt; have := b.toNat_lt; have := c.toNat_lt
    simp only [digitsOf, List.forall_mem_cons]
    exact ⟨by omega, by omega, by omega, by omega, ih⟩
  | case2 a b =>
    have := a.toNat_lt; have := b.toNat_lt
    simp only [digitsOf, List.forall_mem_cons]
    exact ⟨by omega, by omega, by omega, by simp⟩
  | case3 a =>
    have := a.toNat_lt
    simp only [digitsOf, List.forall_mem_cons]
    exact ⟨by omega, by omega, by simp⟩
  | case4 => simp [digitsOf]

/-! ### Text -/

/-- The letters are `A`-`Z`, `a`-`z`, `0`-`9`, `+` and `/`, in this order. -/
def digitOf (letter : Char) : Option Nat :=
  let code := letter.toNat
  if 65 ≤ code ∧ code ≤ 90 then some (code - 65)
  else if 97 ≤ code ∧ code ≤ 122 then some (code - 71)
  else if 48 ≤ code ∧ code ≤ 57 then some (code + 4)
  else if code = 43 then some 62
  else if code = 47 then some 63
  else none
def letterOf (digit : Nat) : Char :=
  Char.ofNat (if digit < 26 then digit + 65 else if digit < 52 then digit + 71 else if digit < 62 then digit - 4
    else if digit = 62 then 43 else 47)

/-- The text of a byte string, padded to groups of four. -/
def encode (bytes : List UInt8) : String :=
  String.ofList ((digitsOf bytes).map letterOf ++ List.replicate ((3 - bytes.length % 3) % 3) '=')
/-- The bytes of a text; what is not a letter of the alphabet is skipped. -/
def decode (text : String) : List UInt8 := bytesOf (text.toList.filterMap digitOf)
/-- Letters of the alphabet and padding only. -/
def isValid (text : String) : Bool := text.toList.all (fun letter => (digitOf letter).isSome || letter == '=')

theorem digitOf_letterOf {digit : Nat} (small : digit < 64) : digitOf (letterOf digit) = some digit := by
  have table : ∀ digit : Fin 64, digitOf (letterOf digit.val) = some digit.val := by decide
  exact table ⟨digit, small⟩
theorem decode_encode (bytes : List UInt8) : decode (encode bytes) = bytes := by
  have letters : ((digitsOf bytes).map letterOf).filterMap digitOf = digitsOf bytes := by
    rw [List.filterMap_map]
    calc (digitsOf bytes).filterMap (digitOf ∘ letterOf) = (digitsOf bytes).filterMap some :=
          List.filterMap_congr (fun digit member => digitOf_letterOf (digitsOf_lt bytes digit member))
      _ = digitsOf bytes := List.filterMap_some
  have padding : (List.replicate ((3 - bytes.length % 3) % 3) '=').filterMap digitOf = [] := by
    rw [List.filterMap_replicate_of_none (by decide)]
  rw [decode, encode, String.toList_ofList, List.filterMap_append, letters, padding, List.append_nil, bytesOf_digitsOf]
theorem isValid_encode (bytes : List UInt8) : isValid (encode bytes) = true := by
  rw [isValid, encode, String.toList_ofList, List.all_append, Bool.and_eq_true, List.all_eq_true, List.all_eq_true]
  constructor
  · intro letter member
    obtain ⟨digit, inside, rfl⟩ := List.mem_map.mp member
    rw [digitOf_letterOf (digitsOf_lt bytes digit inside)]
    rfl
  · intro letter member
    rw [List.eq_of_mem_replicate member]
    exact Bool.or_true _
/-- Only ASCII letters are written. -/
theorem encode_ascii (bytes : List UInt8) : ∀ letter ∈ (encode bytes).toList, letter.toNat < 128 := by
  have valid := isValid_encode bytes
  rw [isValid, List.all_eq_true] at valid
  have below {letter : Char} {digit : Nat} (known : digitOf letter = some digit) : letter.toNat < 128 := by
    dsimp only [digitOf] at known
    split_ifs at known <;> omega
  intro letter member
  obtain known | padding := Bool.or_eq_true_iff.mp (valid letter member)
  · obtain ⟨digit, found⟩ := Option.isSome_iff_exists.mp known
    exact below found
  · rw [eq_of_beq padding]
    decide

end EquityGuard.Base64
