import FieldGateway.Address.Reference
import FieldGateway.Proofs.Text.Spelling

/-!
# The names of attributes

An attribute has a name in the device and one towards the platform. Either is taken in any case and
with blanks around it, and no text is a name of two attributes, so that it does not matter in which
order they are searched.

* `Attribute.eq_of_goesBy`: no two attributes share a name.
* `Attribute.find?_isNamed`: what a search through all attributes finds.
* `Attribute.named_as_spelled`: which texts name which attributes.
-/

namespace FieldGateway.Attribute

open Text (Spells Trimmed isBlank foldCase)

variable {a b : Attribute} {name : List Char}

/-- The text is a name of the attribute, in some case. -/
def GoesBy (a : Attribute) (name : List Char) : Prop :=
  Spells name a.token.toList ∨ Spells name a.measurementName.toList

/-- The names of an attribute, in small letters. -/
def foldedNames (a : Attribute) : List (List Char) :=
  [foldCase a.token.toList, foldCase a.measurementName.toList]

theorem goesBy_iff_mem_foldedNames : a.GoesBy name ↔ foldCase name ∈ a.foldedNames := by
  simp only [GoesBy, foldedNames, ← Text.foldCase_eq_iff, List.mem_cons, List.not_mem_nil, or_false]

theorem isNamed_iff_goesBy : a.isNamed (String.ofList name) = true ↔ a.GoesBy name := by
  simp only [isNamed, GoesBy, Bool.or_eq_true, Text.eqIgnoreCase_iff, String.toList_ofList,
    ← Text.foldCase_eq_iff, eq_comm (a := foldCase name)]

/-- No two attributes share a name. -/
theorem eq_of_goesBy (ha : a.GoesBy name) (hb : b.GoesBy name) : a = b := by
  have hnames : ∀ a ∈ all, ∀ b ∈ all, ∀ n ∈ a.foldedNames, n ∈ b.foldedNames → a = b := by
    decide +kernel
  exact hnames a a.mem_all b b.mem_all (foldCase name) (goesBy_iff_mem_foldedNames.1 ha)
    (goesBy_iff_mem_foldedNames.1 hb)

theorem isBlank_of_goesBy (h : a.GoesBy name) : ∀ c ∈ name, isBlank c = false := by
  have hnames : ∀ a ∈ all, a.token.toList.any isBlank = false ∧
      a.measurementName.toList.any isBlank = false := by decide +kernel
  obtain ⟨htoken, hmeasurement⟩ := hnames a a.mem_all
  rcases h with h | h
  · exact h.isBlank (by simpa using htoken)
  · exact h.isBlank (by simpa using hmeasurement)

/-- A search through all attributes, in whatever order, finds the one that goes by the name. -/
theorem find?_isNamed {order : List Attribute} (horder : ∀ a, a ∈ order) :
    order.find? (·.isNamed (String.ofList name)) = some a ↔ a.GoesBy name := by
  constructor
  · intro h
    have hnamed := List.find?_some h
    exact isNamed_iff_goesBy.1 hnamed
  · intro h
    have hsome : (order.find? (·.isNamed (String.ofList name))).isSome = true :=
      List.find?_isSome.2 ⟨a, horder a, isNamed_iff_goesBy.2 h⟩
    obtain ⟨b, hb⟩ := Option.isSome_iff_exists.1 hsome
    -- the search may have met another one first, but there is none
    have hnamed := List.find?_some hb
    rw [hb, eq_of_goesBy h (isNamed_iff_goesBy.1 hnamed)]

theorem named_eq_ok {s : String} : named s = .ok a ↔ a.GoesBy (Text.trimChars s.toList) := by
  rw [← find?_isNamed mem_all]
  unfold named ofName? Text.trim
  split <;> simp [*]

theorem trimmed_pad {front back : List Char} (hfront : ∀ c ∈ front, isBlank c = true)
    (hback : ∀ c ∈ back, isBlank c = true) (h : a.GoesBy name) :
    Trimmed (front ++ name ++ back) name where
  around := ⟨front, back, hfront, hback, rfl⟩
  first c hc := isBlank_of_goesBy h c (List.mem_of_head? hc)
  last c hc := isBlank_of_goesBy h c (List.mem_of_getLast? hc)

/-- A text names an attribute just if what is left of it without the blanks around it is the
attribute's name in the device or that towards the platform, but for the case of ASCII letters. It
names at most one, whatever the order in which the attributes are searched, and a text that names
none is refused as not fitting. So every spelling of a name with blanks around it names the
attribute. -/
theorem named_as_spelled :
    (∀ s : String, ∃ name, (∀ t, Trimmed s.toList t ↔ t = name) ∧
      (∀ a, named s = .ok a ↔ a.GoesBy name) ∧
      (∀ a b : Attribute, a.GoesBy name → b.GoesBy name → a = b) ∧
      (∀ order : List Attribute, order.Perm all →
        order.find? (·.isNamed (Text.trim s)) = ofName? s) ∧
      ((∃ a, named s = .ok a) ∨ (named s).mapError .configuration =
        .error (Failure.configuration (.unknownAttribute (String.ofList name))))) ∧
    ∀ (a : Attribute) (name front back : List Char), a.GoesBy name →
      (∀ c ∈ front, isBlank c = true) → (∀ c ∈ back, isBlank c = true) →
      named (String.ofList (front ++ name ++ back)) = .ok a := by
  constructor
  · intro s
    refine ⟨Text.trimChars s.toList, fun t => ?_, fun a => named_eq_ok,
      fun a b ha hb => eq_of_goesBy ha hb, fun order hperm => ?_, ?_⟩
    · rw [← Text.trimChars_eq_iff, eq_comm]
    · have horder : ∀ a, a ∈ order := fun a => hperm.mem_iff.2 a.mem_all
      refine Option.ext fun a => ?_
      rw [Text.trim, ofName?, Text.trim, find?_isNamed horder, find?_isNamed mem_all]
    · unfold named
      split
      · next a _ => exact .inl ⟨a, rfl⟩
      · exact .inr rfl
  · intro a name front back h hfront hback
    have htrimmed := Text.trimChars_eq_iff.2 (trimmed_pad hfront hback h)
    rw [named_eq_ok, String.toList_ofList, htrimmed]
    exact h

/-- Blanks of several kinds around a name that the platform uses, half of it in capitals; and a
blank inside a name. -/
theorem named_as_spelled_padded :
    GoesBy .alarmOne "aLARm1".toList ∧
      (∀ c ∈ "\t\u00a0".toList, isBlank c = true) ∧ (∀ c ∈ "\u3000\n".toList, isBlank c = true) ∧
      named (String.ofList ("\t\u00a0".toList ++ "aLARm1".toList ++ "\u3000\n".toList)) =
        .ok .alarmOne ∧
      named " alarm 1" = .error (.unknownAttribute "alarm 1") := by
  have hname : GoesBy .alarmOne "aLARm1".toList :=
    .inr (Text.foldCase_eq_iff.1 (by decide +kernel))
  have hfront : ∀ c ∈ "\t\u00a0".toList, isBlank c = true :=
    List.all_eq_true.1 (by decide +kernel)
  have hback : ∀ c ∈ "\u3000\n".toList, isBlank c = true :=
    List.all_eq_true.1 (by decide +kernel)
  exact ⟨hname, hfront, hback, named_as_spelled.2 _ _ _ _ hname hfront hback, by decide +kernel⟩

end FieldGateway.Attribute
