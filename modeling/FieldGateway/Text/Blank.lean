/-!
# Blank characters

The blanks are the characters with the Unicode property White_Space. Trimming takes them off both
ends of a text and leaves those inside.
-/

namespace FieldGateway.Text

/-- The characters with the property White_Space. -/
def isBlank (c : Char) : Bool :=
  let n := c.toNat
  (0x09 ≤ n && n ≤ 0x0d) || n == 0x20 || n == 0x85 || n == 0xa0 || n == 0x1680 ||
    (0x2000 ≤ n && n ≤ 0x200a) || n == 0x2028 || n == 0x2029 || n == 0x202f || n == 0x205f ||
    n == 0x3000

/-- The list without the blanks at its end. -/
def trimRight : List Char → List Char
  | [] => []
  | c :: r =>
    match trimRight r with
    | [] => if isBlank c then [] else [c]
    | d :: t => c :: d :: t

/-- The list without the blanks at either end. -/
def trimChars (s : List Char) : List Char := trimRight (s.dropWhile isBlank)

/-- The text without the blanks at either end. -/
def trim (s : String) : String := String.ofList (trimChars s.toList)

/-- Holds of the empty text and of one that has blanks only. -/
def isAllBlank (s : String) : Bool := s.toList.all isBlank

theorem trimRight_eq_nil {s : List Char} : trimRight s = [] ↔ ∀ c ∈ s, isBlank c = true := by
  induction s with
  | nil => simp [trimRight]
  | cons c r ih =>
    simp only [trimRight]
    split
    · next h =>
      by_cases hc : isBlank c
      · simpa [hc] using ih.mp h
      · simp [hc]
    · next h =>
      have : ¬ ∀ c ∈ r, isBlank c = true := fun hr => by simp [ih.mpr hr] at h
      simp only [reduceCtorEq, List.mem_cons, forall_eq_or_imp, false_iff]
      exact fun hr => this hr.2

end FieldGateway.Text
