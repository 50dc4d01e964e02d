import FieldGateway.Address.Reference
import FieldGateway.Command.Catalog

/-!
# What the standard catalog finds

A point of the standard catalog is found under its own attribute and number, in the family it was
put in for, and nothing else is found.

* `Catalog.find?_addAll`: what is found after points were added.
* `Catalog.lookup_standard`: what is found is a point of the family, under its own key.
* `Catalog.find?_of_mem_standardPoints`: every point is found.
-/

namespace FieldGateway

namespace PointKey

theorem make_inj {f g : Family} {a b : Attribute} {i j : Option UInt8}
    (h : make f a i = make g b j) : f = g ∧ a = b ∧ (a.usesIndex = true → i = j) := by
  obtain ⟨hf, ha, hi⟩ := mk.inj h
  subst ha
  refine ⟨hf, rfl, fun huses => ?_⟩
  rwa [if_pos huses, if_pos huses] at hi

end PointKey

namespace Catalog

variable {c : Catalog} {family : Family} {attr : Attribute} {index : Option UInt8} {k : PointKey}
  {p : Point}

/-- What is found after points were added was one of them, under its own key, or was found
before. -/
theorem find?_addAll {ps : List Point} (h : (c.addAll family ps).find? k = some p) :
    (p ∈ ps ∧ k = .make family p.attr p.index) ∨ c.find? k = some p := by
  induction ps generalizing c with
  | nil => exact .inr h
  | cons q ps ih =>
    rcases ih h with ⟨hmem, hk⟩ | hbefore
    · exact .inl ⟨List.mem_cons_of_mem q hmem, hk⟩
    · unfold add at hbefore
      rw [find?_register] at hbefore
      split at hbefore
      · next hk =>
        obtain rfl := Option.some.inj hbefore
        exact .inl ⟨List.mem_cons_self, hk⟩
      · exact .inr hbefore

theorem find?_foldl_addAll {points : Family → List Point} {fs : List Family}
    (h : (fs.foldl (fun c f => c.addAll f (points f)) c).find? k = some p) :
    (∃ f ∈ fs, p ∈ points f ∧ k = .make f p.attr p.index) ∨ c.find? k = some p := by
  induction fs generalizing c with
  | nil => exact .inr h
  | cons f fs ih =>
    rcases ih h with ⟨f', hf', hp⟩ | hbefore
    · exact .inl ⟨f', List.mem_cons_of_mem f hf', hp⟩
    · rcases find?_addAll hbefore with hp | hbefore
      · exact .inl ⟨f, List.mem_cons_self, hp⟩
      · exact .inr hbefore

theorem lookup_eq_ok : c.lookup family attr index = .ok p ↔
    c.find? (.make family attr index) = some p := by
  unfold lookup
  dsimp only
  cases c.find? (.make family attr index) <;> simp

/-- What the standard catalog finds is a point of the family, under its own attribute and, where
the attribute has several values, its own number. -/
theorem lookup_standard (h : standard.lookup family attr index = .ok p) :
    p ∈ standardPoints family ∧ p.attr = attr ∧ (attr.usesIndex = true → p.index = index) := by
  rcases find?_foldl_addAll (lookup_eq_ok.1 h) with ⟨f, -, hp, hk⟩ | hempty
  · obtain ⟨rfl, rfl, hindex⟩ := PointKey.make_inj hk
    exact ⟨hp, rfl, fun huses => (hindex huses).symm⟩
  · cases hempty

theorem find?_of_mem_standardPoints (hp : p ∈ standardPoints family) :
    standard.find? (.make family p.attr p.index) = some p := by
  have hall : ∀ f ∈ Family.all, ∀ p ∈ standardPoints f,
      standard.find? (.make f p.attr p.index) = some p := by decide +kernel
  exact hall family family.mem_all p hp

/-- Every point of the standard has a logical node that can stand in a reference. -/
theorem isLogicalNode_of_mem_standardPoints (hp : p ∈ standardPoints family) :
    Reference.isLogicalNode p.logicalNode = true := by
  have hall : ∀ f ∈ Family.all, ∀ p ∈ standardPoints f,
      Reference.isLogicalNode p.logicalNode = true := by decide +kernel
  exact hall family family.mem_all p hp

end Catalog

end FieldGateway
