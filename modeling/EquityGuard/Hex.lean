import EquityGuard.ClientJupiter
import EquityGuard.JsonText

/-!
`Buffer`'s hexadecimal encoding, both ways.
-/
namespace EquityGuard.Hex
open EquityGuard.ClientJupiter EquityGuard.JsonText

def hexValue (unit : Nat) : Option Nat :=
  if 48 ≤ unit ∧ unit ≤ 57 then some (unit - 48)
  else if 97 ≤ unit ∧ unit ≤ 102 then some (unit - 87)
  else if 65 ≤ unit ∧ unit ≤ 70 then some (unit - 55)
  else none
def hexBytes : List Nat → List UInt8
  | high :: low :: rest =>
    match hexValue high, hexValue low with
    | some high, some low => UInt8.ofNat (16 * high + low) :: hexBytes rest
    | _, _ => []
  | _ => []
/-- `Buffer.from(text, "hex")` keeps what stands before the first pair that is not hexadecimal. -/
def bufferFromHex (text : String) : List UInt8 := hexBytes (text.toList.map Char.toNat)
/-- The same on code units. -/
def fromHex (hex : Text) : List UInt8 := hexBytes (hex.map UInt16.toNat)
def toHex (bytes : List UInt8) : Text := text (hexOf bytes)

theorem hexValue_hexDigit {value : Nat} (small : value < 16) : hexValue (hexDigit value).toNat = some value := by
  have table : ∀ value < 16, hexValue (hexDigit value).toNat = some value := by decide
  exact table value small
theorem hexBytes_hexOf (bytes : List UInt8) : hexBytes ((hexOf bytes).toList.map Char.toNat) = bytes := by
  rw [hexOf, String.toList_ofList]
  induction bytes with
  | nil => rfl
  | cons byte rest ih =>
    have small := byte.toNat_lt
    have high := hexValue_hexDigit (show byte.toNat / 16 < 16 by omega)
    have low := hexValue_hexDigit (show byte.toNat % 16 < 16 by omega)
    have whole : 16 * (byte.toNat / 16) + byte.toNat % 16 = byte.toNat := Nat.div_add_mod _ _
    simp only [List.flatMap_cons, List.cons_append, List.nil_append, List.map_cons, hexBytes, high, low, whole,
      UInt8.ofNat_toNat, ih]
theorem bufferFromHex_hexOf (bytes : List UInt8) : bufferFromHex (hexOf bytes) = bytes := hexBytes_hexOf bytes
/-- Hexadecimal digits are single code units. -/
theorem text_hexOf (bytes : List UInt8) : (text (hexOf bytes)).map UInt16.toNat = (hexOf bytes).toList.map Char.toNat := by
  have digit : ∀ value < 16, (unitsOf (hexDigit value)).map UInt16.toNat = [(hexDigit value).toNat] := by decide
  rw [text, hexOf, String.toList_ofList]
  induction bytes with
  | nil => rfl
  | cons byte rest ih =>
    have small := byte.toNat_lt
    have high := digit (byte.toNat / 16) (by omega)
    have low := digit (byte.toNat % 16) (by omega)
    simp only [List.flatMap_cons, List.cons_append, List.nil_append, List.map_append, List.map_cons, high, low, ih]
theorem fromHex_toHex (bytes : List UInt8) : fromHex (toHex bytes) = bytes := by
  rw [fromHex, toHex, text_hexOf, hexBytes_hexOf]
theorem toHex_injective : Function.Injective toHex := by
  intro left right same
  rw [← fromHex_toHex left, same, fromHex_toHex]

end EquityGuard.Hex
