import FieldGateway.Text.Numeral

/-!
# What numerals stand for

A numeral stands for the number that its digits write in base ten. A number that is written is read
again, and a text is read as an unsigned number just if it is a numeral, with at most one plus in
front, and the number is not too large.

* `Text.digitsFrom_eq`: the number that digits stand for.
* `Text.digitsByte?_toString`: a number that is written is read again.
* `Text.unsigned?_eq_some`: which texts are read as unsigned numbers.
-/

namespace FieldGateway.Text

theorem digitsFrom_eq (s : List Char) (n : Nat) : digitsFrom n s = Nat.ofDigitChars 10 s n := by
  rw [Nat.ofDigitChars_eq_foldl]
  rfl

theorem isDigit_of_mem_toString {c : Char} {n : Nat} (h : c ∈ (toString n).toList) :
    c.isDigit = true := by
  rw [Nat.toString_eq_ofList_toDigits, String.toList_ofList] at h
  exact Nat.isDigit_of_mem_toDigits (by decide) (by decide) h

theorem toList_toString_ne_nil (n : Nat) : (toString n).toList ≠ [] := by
  rw [Nat.toString_eq_ofList_toDigits, String.toList_ofList]
  exact Nat.toDigits_ne_nil

theorem digitsValue?_toString (n : Nat) : digitsValue? (toString n).toList = some n := by
  have hall : (toString n).toList.all Char.isDigit = true :=
    List.all_eq_true.2 fun _ hc => isDigit_of_mem_toString hc
  rw [digitsValue?, if_pos ⟨toList_toString_ne_nil n, hall⟩, digitsFrom_eq,
    Nat.toString_eq_ofList_toDigits, String.toList_ofList, Nat.ofDigitChars_ten_toDigits]

theorem digitsByte?_toString (i : UInt8) : digitsByte? (toString i.toNat).toList = some i := by
  have hi : i.toNat < 256 := i.toNat_lt
  rw [digitsByte?, digitsValue?_toString, Option.filter_some, if_pos (decide_eq_true hi),
    Option.map_some, UInt8.ofNat_toNat]

/-! ## Unsigned numbers -/

/-- The text is a decimal integer, with at most one plus in front, and writes the number. -/
def Writes (s : String) (n : Nat) : Prop :=
  ∃ digits : List Char, digits ≠ [] ∧ (∀ c ∈ digits, c.isDigit = true) ∧
    (s.toList = digits ∨ s.toList = '+' :: digits) ∧ n = Nat.ofDigitChars 10 digits 0

theorem digitsValue?_eq_some {s : List Char} {n : Nat} : digitsValue? s = some n ↔
    s ≠ [] ∧ (∀ c ∈ s, c.isDigit = true) ∧ n = Nat.ofDigitChars 10 s 0 := by
  rw [digitsValue?, Option.ite_none_right_eq_some, digitsFrom_eq, Option.some.injEq,
    List.all_eq_true, and_assoc, eq_comm (b := n)]

/-- A text is read as an unsigned number just if it writes one below the bound. -/
theorem unsigned?_eq_some {bound : Nat} {s : String} {n : Nat} :
    unsigned? bound s = some n ↔ Writes s n ∧ n < bound := by
  simp only [unsigned?, Option.filter_eq_some_iff, digitsValue?_eq_some, decide_eq_true_eq]
  refine and_congr_left fun _ => ?_
  constructor
  · rintro ⟨hne, hdigits, hn⟩
    refine ⟨_, hne, hdigits, ?_, hn⟩
    split
    · next h => exact .inr h
    · exact .inl rfl
  · rintro ⟨digits, hne, hdigits, hs | hs, hn⟩
    · -- a plus in front would be no digit
      rw [hs]
      split
      · exact absurd (hdigits '+' List.mem_cons_self) (by decide)
      · exact ⟨hne, hdigits, hn⟩
    · simp only [hs]
      exact ⟨hne, hdigits, hn⟩

end FieldGateway.Text
