/-!
# Decimal numerals

A numeral is a non-empty run of ASCII digits; leading zeros are allowed and other scripts' digits
are not. Where a sign may stand, it is a single plus.

* `beforeDigits_append_trailingDigits`: a text is what its last digits leave, and those digits.
-/

namespace FieldGateway.Text

def digitValue (c : Char) : Nat := c.toNat - '0'.toNat

/-- The number a run of digits stands for, after `n` was read. -/
def digitsFrom (n : Nat) (s : List Char) : Nat := s.foldl (fun n c => 10 * n + digitValue c) n

/-- The number a numeral stands for. -/
def digitsValue? (s : List Char) : Option Nat :=
  if s ≠ [] ∧ s.all Char.isDigit then some (digitsFrom 0 s) else none

/-- A numeral with at most one plus in front, below `bound`. -/
def unsigned? (bound : Nat) (s : String) : Option Nat :=
  let digits := match s.toList with
    | '+' :: r => r
    | r => r
  (digitsValue? digits).filter (· < bound)

/-- The run of digits at the end. -/
def trailingDigits (s : List Char) : List Char := (s.reverse.takeWhile Char.isDigit).reverse

/-- What stands before the run of digits at the end. -/
def beforeDigits (s : List Char) : List Char := (s.reverse.dropWhile Char.isDigit).reverse

/-- The number of 8 bits that a numeral stands for. -/
def digitsByte? (s : List Char) : Option UInt8 :=
  ((digitsValue? s).filter (· < 256)).map UInt8.ofNat

theorem beforeDigits_append_trailingDigits (s : List Char) :
    beforeDigits s ++ trailingDigits s = s := by
  rw [beforeDigits, trailingDigits, ← List.reverse_append, List.takeWhile_append_dropWhile,
    List.reverse_reverse]

end FieldGateway.Text
