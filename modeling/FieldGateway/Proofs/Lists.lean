import FieldGateway.Model.Basic
import Mathlib.Data.List.Forall2

/-!
# Lists

A list in which one element is changed has the others as they were, at their positions.

* `getElem?_modifyFirst`: which element is changed.
* `forall₂_modifyFirst`, `map_modifyFirst`, `filter_modifyFirst`: what a change keeps.
-/

namespace FieldGateway

open List (Forall₂)

variable {α : Type}

theorem forall₂_trans {r : α → α → Prop} (hr : ∀ {a b c}, r a b → r b c → r a c) {xs ys zs : List α}
    (hxy : Forall₂ r xs ys) (hyz : Forall₂ r ys zs) : Forall₂ r xs zs := by
  induction hxy generalizing zs with
  | nil => exact hyz
  | cons h _ ih =>
    cases hyz with
    | cons h' hyz => exact .cons (hr h h') (ih hyz)

theorem eraseDups_concat [BEq α] [LawfulBEq α] (l : List α) (a : α) :
    (l ++ [a]).eraseDups = if a ∈ l then l.eraseDups else l.eraseDups ++ [a] := by
  rw [List.eraseDups_append]
  split
  · next h => simp [List.removeAll, h]
  · next h => simp [List.removeAll, h, List.eraseDups_cons]

/-! ## Changing the first -/

variable {p : α → Bool} {f : α → α}

theorem modifyFirst_append (l m : List α) : modifyFirst p f (l ++ m) =
    if (l.find? p).isSome then modifyFirst p f l ++ m else l ++ modifyFirst p f m := by
  induction l with
  | nil => rfl
  | cons a l ih =>
    by_cases ha : p a = true
    · simp [modifyFirst, ha]
    · simp only [List.cons_append, modifyFirst, if_neg ha, ih, List.find?_cons_of_neg ha]
      split <;> rfl

/-- A change is one of the element that is found first. -/
theorem getElem?_modifyFirst (l : List α) (k : Nat) :
    (modifyFirst p f l)[k]? = l[k]?.map fun a => if l.findIdx? p = some k then f a else a := by
  induction l generalizing k with
  | nil => rfl
  | cons a l ih =>
    by_cases ha : p a = true
    · cases k <;> simp [modifyFirst, ha, List.findIdx?_cons]
    · cases k with
      | zero => simp [modifyFirst, ha, List.findIdx?_cons]
      | succ k => simp [modifyFirst, ha, List.findIdx?_cons, ih]

theorem modifyFirst_of_none {l : List α} (h : l.find? p = none) : modifyFirst p f l = l := by
  have hidx : l.findIdx? p = none := List.findIdx?_eq_none_iff.2 fun a ha => by
    simpa using List.find?_eq_none.1 h a ha
  refine List.ext_getElem? fun k => ?_
  simp [getElem?_modifyFirst, hidx]

theorem length_modifyFirst (l : List α) : (modifyFirst p f l).length = l.length := by
  induction l with
  | nil => rfl
  | cons a l ih =>
    by_cases ha : p a = true
    · simp [modifyFirst, ha]
    · simp [modifyFirst, ha, ih]

theorem forall₂_modifyFirst {R : α → α → Prop} (hrefl : ∀ a, R a a)
    (hf : ∀ a, p a = true → R a (f a)) (l : List α) : Forall₂ R l (modifyFirst p f l) := by
  induction l with
  | nil => exact .nil
  | cons a l ih =>
    unfold modifyFirst
    split
    · next ha => exact .cons (hf a ha) (List.forall₂_same.2 fun b _ => hrefl b)
    · exact .cons (hrefl a) ih

/-- What a change keeps of an element it keeps of the list. -/
theorem map_modifyFirst {β : Type} {g : α → β} (h : ∀ a, p a = true → g (f a) = g a) (l : List α) :
    (modifyFirst p f l).map g = l.map g := by
  induction l with
  | nil => rfl
  | cons a r ih => by_cases ha : p a = true <;> simp [modifyFirst, ha, h, ih]

/-- Elements that are not changed and do not come of a change stay. -/
theorem filter_modifyFirst {q : α → Bool} (h : ∀ a, p a = true → q a = false ∧ q (f a) = false)
    (l : List α) : (modifyFirst p f l).filter q = l.filter q := by
  induction l with
  | nil => rfl
  | cons a r ih => by_cases ha : p a = true <;> simp [modifyFirst, ha, h, ih, List.filter_cons]

end FieldGateway
