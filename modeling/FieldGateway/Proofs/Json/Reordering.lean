import FieldGateway.Json.Fields
import Mathlib.Data.List.Forall2
import Mathlib.Data.Option.Basic

/-!
# Members in another order

The members of an object may be put into another order, anywhere in a value. Where several members
go by one name it can matter which of them comes last, so that an order may have to keep such
members apart from the others as they are.

* `Json.Order`: the orders that count, and two of them.
* `Json.Reordered`: a value with the members of one object in another order.
* `Json.Reordered.held_eq`: whether a value can be held in memory does not depend on it.
* `Json.Reordered.given`, `Json.Reordered.fields?`, `Json.Reordered.tagged?`: what becomes of the
  values of a record and of an alternative.
-/

namespace FieldGateway.Json

open List (Forall₂)

/-- Which members of an object may stand in which other order. -/
structure Order where
  rel : List (String × Json) → List (String × Json) → Prop
  perm : ∀ {l r}, rel l r → l.Perm r
  filter : ∀ {l r} (p : String × Json → Bool), rel l r → rel (l.filter p) (r.filter p)

namespace Order

/-- Any order. -/
def any : Order := ⟨List.Perm, id, fun p h => h.filter p⟩

/-- Members of one name keep their order among themselves. -/
def stable : Order where
  rel l r := l.Perm r ∧ ∀ n, l.filter (·.1 == n) = r.filter (·.1 == n)
  perm h := h.1
  filter p h := ⟨h.1.filter p, fun n => by rw [List.filter_comm, h.2, List.filter_comm]⟩

/-- Members of different names may stand in any order. -/
theorem stable_of_nodup {l r : List (String × Json)} (hnames : (l.map (·.1)).Nodup)
    (h : l.Perm r) : stable.rel l r := by
  refine ⟨h, fun n => ?_⟩
  have hperm := h.filter (·.1 == n)
  have hnamed : ∀ x ∈ l.filter (·.1 == n), x.1 = n := fun x hx =>
    beq_iff_eq.1 (List.mem_filter.1 hx).2
  have hdistinct : ((l.filter (·.1 == n)).map (·.1)).Nodup :=
    hnames.sublist (List.filter_sublist.map _)
  -- One member of a name at most is left, so that there is nothing to reorder.
  generalize l.filter (·.1 == n) = named at hperm hnamed hdistinct
  match named with
  | [] => exact (List.perm_nil.1 hperm.symm).symm
  | [m] => exact (List.perm_singleton.1 hperm.symm).symm
  | m :: m' :: _ => simp [hnamed m, hnamed m'] at hdistinct

end Order

/-- The members of one object, which may stand anywhere in the value, are in another order. -/
inductive Reordered (ok : Order) : Json → Json → Prop
  | here {l r : List (String × Json)} (h : ok.rel l r) : Reordered ok (.object l) (.object r)
  | item {v w : Json} (l r : List Json) (h : Reordered ok v w) :
      Reordered ok (.array (l ++ v :: r)) (.array (l ++ w :: r))
  | member {v w : Json} (n : String) (l r : List (String × Json)) (h : Reordered ok v w) :
      Reordered ok (.object (l ++ (n, v) :: r)) (.object (l ++ (n, w) :: r))

/-- The values are the same but for the order of the members in one object. -/
def Step (ok : Order) (v w : Json) : Prop := v = w ∨ Reordered ok v w

variable {ok : Order} {v w : Json} {l r : List (String × Json)}

/-! ## Depth -/

theorem held_object_iff {room : Nat} :
    (object l).held room = true ↔ 0 < room ∧ ∀ m ∈ l, m.2.held (room - 1) = true := by
  rw [held, Bool.and_eq_true, decide_eq_true_eq, heldMembers_iff]

theorem held_array_iff {room : Nat} {items : List Json} :
    (array items).held room = true ↔ 0 < room ∧ ∀ x ∈ items, x.held (room - 1) = true := by
  rw [held, Bool.and_eq_true, decide_eq_true_eq, heldItems_iff]

theorem Reordered.held_eq (h : Reordered ok v w) (room : Nat) : v.held room = w.held room := by
  induction h generalizing room with
  | here h =>
    rw [Bool.eq_iff_iff, held_object_iff, held_object_iff]
    simp only [(ok.perm h).mem_iff]
  | item l r _ ih =>
    rw [Bool.eq_iff_iff, held_array_iff, held_array_iff]
    simp only [List.forall_mem_append, List.forall_mem_cons, ih]
  | member n l r _ ih =>
    rw [Bool.eq_iff_iff, held_object_iff, held_object_iff]
    simp only [List.forall_mem_append, List.forall_mem_cons, ih]

/-! ## Records -/

theorem given_member (f : Field) (l r : List (String × Json)) (n : String) (v : Json) :
    given f (l ++ (n, v) :: r) =
      given f l ++ ((if f.isNamed n then [v] else []) ++ given f r) := by
  rw [given_append]
  cases h : f.isNamed n <;> simp [given, h]

theorem Step.refl_slot (x : Option Json) : Option.Rel (Step ok) x x := by
  cases x with
  | none => exact .none
  | some v => exact .some (.inl rfl)

/-- A field that is given once at most is given what it was, perhaps with members in another
order. -/
theorem Reordered.given {f : Field} {x : Option Json}
    (h : Reordered ok (.object l) (.object r)) (hx : given f l = x.toList) :
    ∃ y, Json.given f r = Option.toList y ∧ Option.Rel (Step ok) x y := by
  cases h with
  | here h =>
    have hperm := given_perm f (ok.perm h)
    rw [hx] at hperm
    refine ⟨x, ?_, Step.refl_slot x⟩
    cases x with
    | none => exact List.perm_nil.1 hperm.symm
    | some v => exact List.perm_singleton.1 hperm.symm
  | @member v w n l r h =>
    rw [given_member] at hx ⊢
    cases hn : f.isNamed n with
    | false => exact ⟨x, by simpa [hn] using hx, Step.refl_slot x⟩
    | true =>
      rw [hn, if_pos rfl] at hx
      cases x with
      | none => simp at hx
      | some u =>
        obtain ⟨hl, rfl, hr⟩ : Json.given f l = [] ∧ v = u ∧ Json.given f r = [] := by
          have hlength := congrArg List.length hx
          simp only [List.length_append, List.length_singleton, Option.toList_some] at hlength
          have hl : Json.given f l = [] := List.eq_nil_of_length_eq_zero (by omega)
          have hr : Json.given f r = [] := List.eq_nil_of_length_eq_zero (by omega)
          rw [hl, hr] at hx
          exact ⟨hl, by simpa using hx, hr⟩
        exact ⟨some w, by simp [hl, hr], .some (.inr h)⟩

theorem slot?_eq_some {f : Field} {x : Option Json} :
    slot? f l = some x ↔ given f l = x.toList := by
  unfold slot?
  split <;> cases x <;> simp_all

theorem slots?_eq_some {fs : List Field} {xs : List (Option Json)} :
    slots? fs l = some xs ↔ fs.map (given · l) = xs.map Option.toList := by
  unfold slots?
  induction fs generalizing xs with
  | nil => cases xs <;> simp
  | cons f fs ih =>
    cases xs with
    | nil => simp [List.mapM_cons, Option.bind_eq_some_iff]
    | cons x xs => simp [List.mapM_cons, Option.bind_eq_some_iff, slot?_eq_some, ih]

theorem Reordered.slots? {fs : List Field} {xs : List (Option Json)}
    (h : Reordered ok (.object l) (.object r)) (hx : slots? fs l = some xs) :
    ∃ ys, Json.slots? fs r = some ys ∧ Forall₂ (Option.Rel (Step ok)) xs ys := by
  rw [slots?_eq_some] at hx
  simp only [slots?_eq_some]
  induction fs generalizing xs with
  | nil =>
    obtain rfl : xs = [] := by simpa using hx.symm
    exact ⟨[], rfl, .nil⟩
  | cons f fs ih =>
    obtain ⟨x, xs, rfl, hfirst, hrest⟩ := List.map_eq_cons_iff.1 hx.symm
    obtain ⟨y, hy, hxy⟩ := h.given hfirst.symm
    obtain ⟨ys, hys, hall⟩ := ih hrest.symm
    exact ⟨y :: ys, by simp [hy, hys], .cons hxy hall⟩

/-- The values of a record are what they were, each perhaps with members in another order. -/
theorem Reordered.fields? {fs : List Field} {xs : List (Option Json)} (h : Reordered ok v w)
    (hx : v.fields? fs = some xs) :
    ∃ ys, w.fields? fs = some ys ∧ Forall₂ (Option.Rel (Step ok)) xs ys := by
  cases h with
  | here h => exact (Reordered.here h).slots? hx
  | member n l r h => exact (Reordered.member n l r h).slots? hx
  | @item v w l r h =>
    simp only [Json.fields?, Option.ite_none_right_eq_some, Option.some.injEq] at hx ⊢
    obtain ⟨hlength, rfl⟩ := hx
    refine ⟨_, ⟨by simpa using hlength, rfl⟩, ?_⟩
    simp only [List.map_append, List.map_cons, List.append_assoc, List.length_append,
      List.length_cons, List.cons_append]
    exact List.rel_append (List.forall₂_same.2 fun x _ => Step.refl_slot x)
      (.cons (.some (.inr h)) (List.forall₂_same.2 fun x _ => Step.refl_slot x))

/-! ## Alternatives -/

/-- What is left of an object without the members of some names. -/
theorem Reordered.without (h : Reordered ok (.object l) (.object r)) (p : String → Bool) :
    Step ok (.object (l.filter fun m => p m.1)) (.object (r.filter fun m => p m.1)) := by
  cases h with
  | here h => exact .inr (.here (ok.filter _ h))
  | member n l r h =>
    cases hn : p n with
    | false => exact .inl (by simp [hn])
    | true =>
      simp only [List.filter_append, List.filter_cons, hn, if_true]
      exact .inr (.member n _ _ h)

theorem tagged?_object_iff {tag : String} {t c : Json} :
    (object l).tagged? tag = some (t, c) ↔
      given tag l = [t] ∧ c = .object (l.filter fun m => m.1 != tag) := by
  have hslot : slot? tag l = some (some t) ↔ given tag l = [t] := slot?_eq_some
  rw [← hslot, tagged?]
  split
  · next t' ht => simp [ht, eq_comm]
  · next hne => exact ⟨fun h => (nomatch h), fun h => (hne t h.1).elim⟩

theorem Reordered.tagged? {tag : String} {t c : Json} (h : Reordered ok v w)
    (hv : v.tagged? tag = some (t, c)) :
    ∃ t' c', w.tagged? tag = some (t', c') ∧ Step ok t t' ∧ Step ok c c' := by
  have objects : ∀ {l r : List (String × Json)}, Reordered ok (.object l) (.object r) →
      Json.tagged? tag (.object l) = some (t, c) →
        ∃ t' c', Json.tagged? tag (.object r) = some (t', c') ∧ Step ok t t' ∧ Step ok c c' := by
    intro l r h hv
    obtain ⟨ht, rfl⟩ := tagged?_object_iff.1 hv
    obtain ⟨y, hy, hty⟩ := h.given (x := some t) ht
    cases hty with
    | @some t t' htt' => exact ⟨t', _, tagged?_object_iff.2 ⟨hy, rfl⟩, htt', h.without (· != tag)⟩
  cases h with
  | here h => exact objects (.here h) hv
  | member n l r h => exact objects (.member n l r h) hv
  | @item v w l r h =>
    cases l with
    | nil =>
      obtain ⟨rfl, rfl⟩ := Prod.mk.inj (Option.some.inj hv)
      exact ⟨w, .array r, rfl, .inr h, .inl rfl⟩
    | cons x l =>
      obtain ⟨rfl, rfl⟩ := Prod.mk.inj (Option.some.inj hv)
      exact ⟨x, _, rfl, .inl rfl, .inr (.item l r h)⟩

end FieldGateway.Json
