import FieldGateway.Text.Numeral

/-!
# Percent signs in addresses

In an address a byte may be written as a percent sign and two hexadecimal digits. A percent sign
without them stands for itself.
-/

namespace FieldGateway.Text

def hexValue? (c : UInt8) : Option UInt8 :=
  if 0x30 ≤ c ∧ c ≤ 0x39 then some (c - 0x30)
  else if 0x41 ≤ c ∧ c ≤ 0x46 then some (c - 0x41 + 10)
  else if 0x61 ≤ c ∧ c ≤ 0x66 then some (c - 0x61 + 10)
  else none

/-- The bytes that pairs of hexadecimal digits stand for. -/
def hexBytes? : List UInt8 → Option (List UInt8)
  | [] => some []
  | a :: b :: r => do return ((← hexValue? a) * 16 + (← hexValue? b)) :: (← hexBytes? r)
  | [_] => none

/-- The bytes that an address stands for. -/
def percentBytes : List UInt8 → List UInt8
  | 0x25 :: a :: b :: r =>
    match hexValue? a, hexValue? b with
    | some h, some l => (h * 16 + l) :: percentBytes r
    | _, _ => 0x25 :: percentBytes (a :: b :: r)
  | c :: r => c :: percentBytes r
  | [] => []

/-- The text that an address stands for; `none` if it is not UTF-8. -/
def percentDecoded? (s : String) : Option String :=
  String.fromUTF8? (ByteArray.mk (percentBytes s.toUTF8.toList).toArray)

end FieldGateway.Text
