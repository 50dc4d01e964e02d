/-!
# Comparing text without regard to case

Tokens of the IEC 61850 naming scheme are written in ASCII, and a client may spell them in any
case. Letters outside ASCII are compared as they are.

* `eqIgnoreCase_iff`: two texts match when folding the ASCII letters makes them equal.
-/

namespace FieldGateway.Text

/-- The text with its ASCII capitals made small. -/
def foldCase (s : List Char) : List Char := s.map Char.toLower

/-- Equality up to the case of ASCII letters. -/
def eqIgnoreCase (s t : String) : Bool := foldCase s.toList == foldCase t.toList

theorem eqIgnoreCase_iff {s t : String} :
    eqIgnoreCase s t = true ↔ foldCase s.toList = foldCase t.toList := by
  simp [eqIgnoreCase]

end FieldGateway.Text
