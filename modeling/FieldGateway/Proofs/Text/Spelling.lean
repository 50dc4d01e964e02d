import FieldGateway.Text.Ascii
import FieldGateway.Text.Blank
import Mathlib

/-!
# Spellings of a text

A text is taken for another if, without the blanks around it, it has the same letters but for the
case of ASCII letters.

* `Text.trimChars_eq_iff`: which text is left without the blanks around it.
* `Text.foldCase_eq_iff`: when two texts match.
* `Text.Spells.isBlank`: a spelling of a text without blanks has none.
-/

namespace FieldGateway.Text

variable {s t : List Char} {c d : Char}

/-! ## Blanks around a text -/

/-- The second text is what is left of the first without the blanks around it. -/
structure Trimmed (s t : List Char) : Prop where
  around : ∃ front back, (∀ c ∈ front, isBlank c = true) ∧ (∀ c ∈ back, isBlank c = true) ∧
    s = front ++ t ++ back
  first : ∀ c, t.head? = some c → isBlank c = false
  last : ∀ c, t.getLast? = some c → isBlank c = false

theorem getLast?_trimRight (s : List Char) :
    ∀ c, (trimRight s).getLast? = some c → isBlank c = false := by
  induction s with
  | nil => simp [trimRight]
  | cons c r ih =>
    rw [trimRight]
    split
    · split
      · simp
      · next hc => simpa using hc
    · next d t hr =>
      rw [hr] at ih
      simpa using ih

/-- What is taken off at the end is blank. -/
theorem trimRight_append (s : List Char) :
    ∃ back, (∀ c ∈ back, isBlank c = true) ∧ s = trimRight s ++ back := by
  induction s with
  | nil => exact ⟨[], by simp, rfl⟩
  | cons c r ih =>
    obtain ⟨back, hback, hr⟩ := ih
    rw [trimRight]
    split
    · next hnil =>
      rw [hnil, List.nil_append] at hr
      subst hr
      split
      · next hc => exact ⟨c :: r, by simpa [hc] using hback, rfl⟩
      · exact ⟨r, hback, rfl⟩
    · next d t hd =>
      rw [hd] at hr
      exact ⟨back, hback, by rw [hr]; rfl⟩

/-- Blanks at the end are taken off, and nothing else. -/
theorem trimRight_of_append {back : List Char} (hback : ∀ c ∈ back, isBlank c = true)
    (hlast : ∀ c, t.getLast? = some c → isBlank c = false) : trimRight (t ++ back) = t := by
  induction t with
  | nil => exact trimRight_eq_nil.2 hback
  | cons c t ih =>
    -- the last character stays because it is not blank, the others because something stays behind
    cases t with
    | nil =>
      have hc : isBlank c = false := hlast c rfl
      simp [trimRight, trimRight_eq_nil.2 hback, hc]
    | cons d t =>
      have hrest : trimRight ((d :: t) ++ back) = d :: t :=
        ih fun e he => hlast e (by simpa using he)
      rw [List.cons_append, trimRight, hrest]

theorem trimmed_trimChars (s : List Char) : Trimmed s (trimChars s) := by
  obtain ⟨back, hback, hs⟩ := trimRight_append (s.dropWhile isBlank)
  have hhead : ∀ c, (s.dropWhile isBlank).head? = some c → isBlank c = false := by
    intro c hc
    have hnot := List.head?_dropWhile_not isBlank s
    rwa [hc] at hnot
  refine ⟨⟨s.takeWhile isBlank, back, fun c => List.mem_takeWhile_imp, hback, ?_⟩, fun c hc => ?_,
    getLast?_trimRight _⟩
  · rw [List.append_assoc, trimChars, ← hs, List.takeWhile_append_dropWhile]
  · apply hhead
    rw [hs, List.head?_append]
    simp only [trimChars] at hc
    rw [hc]
    rfl

/-- Only one text is left. -/
theorem trimChars_eq_iff : trimChars s = t ↔ Trimmed s t := by
  constructor
  · rintro rfl
    exact trimmed_trimChars s
  · rintro ⟨⟨front, back, hfront, hback, rfl⟩, hfirst, hlast⟩
    rw [trimChars, List.append_assoc, List.dropWhile_append_of_pos hfront]
    cases t with
    | nil => simpa [trimRight_eq_nil] using fun c hc => hback c (List.dropWhile_subset _ hc)
    | cons c t =>
      have hc : isBlank c = false := hfirst c rfl
      rw [List.cons_append, List.dropWhile_cons_of_neg (by simp [hc])]
      exact trimRight_of_append hback hlast

/-! ## The case of letters -/

/-- The same character, or an ASCII letter once as a capital and once as a small one. -/
def SameLetter (c d : Char) : Prop :=
  c = d ∨ (c.isUpper = true ∧ d.toNat = c.toNat + 32) ∨ (d.isUpper = true ∧ c.toNat = d.toNat + 32)

/-- The texts have the same letters. -/
def Spells (s t : List Char) : Prop := List.Forall₂ SameLetter s t

theorem isUpper_iff : c.isUpper = true ↔ 65 ≤ c.toNat ∧ c.toNat ≤ 90 := by
  simp only [Char.isUpper, decide_eq_true_eq, ge_iff_le, UInt32.le_iff_toNat_le]
  rfl

theorem toNat_toLower (c : Char) :
    c.toLower.toNat = if c.isUpper = true then c.toNat + 32 else c.toNat := by
  split
  · next h =>
    have hvalid : (c.toNat + 32).isValidChar := .inl (by have := (isUpper_iff.1 h).2; omega)
    rw [Char.toLower_eq_of_isUpper h, Char.toNat_ofNat, if_pos hvalid]
  · next h => rw [Char.toLower_eq_of_not_isUpper h]

theorem toLower_eq_iff : c.toLower = d.toLower ↔ SameLetter c d := by
  have heq : ∀ c d : Char, c = d ↔ c.toNat = d.toNat := fun c d => Char.toNat_inj.symm
  simp only [SameLetter, heq, toNat_toLower, isUpper_iff]
  split <;> split <;> omega

/-- Texts match just if they have the same letters. -/
theorem foldCase_eq_iff : foldCase s = foldCase t ↔ Spells s t := by
  rw [foldCase, foldCase, ← List.forall₂_eq_eq_eq, List.forall₂_map_left_iff,
    List.forall₂_map_right_iff]
  simp only [toLower_eq_iff]
  rfl

theorem SameLetter.isBlank (h : SameLetter c d) : isBlank c = isBlank d := by
  have hletter : ∀ n, 65 ≤ n → n ≤ 122 → ∀ c : Char, c.toNat = n → Text.isBlank c = false := by
    intro n hlow hhigh c hc
    simp only [Text.isBlank, hc]
    simp
    omega
  rcases h with rfl | ⟨hc, hd⟩ | ⟨hd, hc⟩
  · rfl
  · obtain ⟨hlow, hhigh⟩ := isUpper_iff.1 hc
    rw [hletter _ hlow (by omega) c rfl, hletter _ (by omega) (by omega) d hd]
  · obtain ⟨hlow, hhigh⟩ := isUpper_iff.1 hd
    rw [hletter _ hlow (by omega) d rfl, hletter _ (by omega) (by omega) c hc]

/-- A spelling of a text without blanks has none. -/
theorem Spells.isBlank (h : Spells s t) (ht : ∀ c ∈ t, isBlank c = false) :
    ∀ c ∈ s, isBlank c = false := by
  induction h with
  | nil => simp
  | cons hletter _ ih =>
    simp only [List.forall_mem_cons] at ht ⊢
    exact ⟨hletter.isBlank.trans ht.1, ih ht.2⟩

end FieldGateway.Text
