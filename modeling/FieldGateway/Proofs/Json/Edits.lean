import FieldGateway.Proofs.Json.Tables
import Mathlib.Logic.Relation

/-!
# Other ways to say the same

Members that nobody asks for may be added to an object, and a member may stand under another name of
its field, in every part of a value. The result is alike to what it was made of, so that a reader of
the form gives the same for it, if the parts that must be held in memory still can be.

* `Form.Edited`: the changes, in every part of a form.
* `Form.Edited.alike`: what they lead to is alike.
* `Form.Edited.tagged_added`: a member added beside the tag of an alternative.
* `Form.Presents`: what is decoded does not depend on the presentation.
* `Form.IsReadBy.presents`: so it is for the reader of a form.
-/

namespace FieldGateway.Json

open List (Forall₂)
open Relation (ReflTransGen)

variable {α : Type} {ok : Order} {v w : Json} {l r : List (String × Json)}

namespace Form

variable {F : Form} {fields : List (Field × Form)}

/-- A member is added or given another name, in the value itself or in some part of it. -/
inductive Edited : Form → Json → Json → Prop
  /-- A member is added that goes by no name of a field. -/
  | added {fields : List (Field × Form)} (l r : List (String × Json)) (n : String) (x : Json)
      (h : ∀ p ∈ fields, p.1.isNamed n = false) :
      Edited (record fields) (.object (l ++ r)) (.object (l ++ (n, x) :: r))
  /-- A member is given another name, by which the same fields go. -/
  | renamed {fields : List (Field × Form)} (l r : List (String × Json)) (n m : String) (x : Json)
      (h : ∀ p ∈ fields, p.1.isNamed n = p.1.isNamed m) :
      Edited (record fields) (.object (l ++ (n, x) :: r)) (.object (l ++ (m, x) :: r))
  /-- The value given for a field is changed; anything may become of what no field takes. -/
  | member {fields : List (Field × Form)} {v w : Json} (l r : List (String × Json)) (n : String)
      (h : ∀ p ∈ fields, p.1.isNamed n = true → Edited p.2 v w) :
      Edited (record fields) (.object (l ++ (n, v) :: r)) (.object (l ++ (n, w) :: r))
  /-- The value that a sequence gives for a field is changed. -/
  | place {fields : List (Field × Form)} {v w : Json} (l r : List Json)
      (h : ∀ p, fields[l.length]? = some p → Edited p.2 v w) :
      Edited (record fields) (.array (l ++ v :: r)) (.array (l ++ w :: r))
  | item {F : Form} {v w : Json} (l r : List Json) (h : Edited F v w) :
      Edited (list F) (.array (l ++ v :: r)) (.array (l ++ w :: r))
  /-- What stands beside the tag is changed. -/
  | contents {tag : String} {kind? : Json → Option String} {room : Option Nat}
      {cases : String → List (Field × Form)} {v w t c c' : Json} {k : String}
      (hv : v.tagged? tag = some (t, c)) (hw : w.tagged? tag = some (t, c'))
      (hk : kind? t = some k) (h : Edited (record (cases k)) c c') :
      Edited (tagged tag kind? room cases) v w
  | entry {F : Form} {v w : Json} (l r : List (String × Json)) (n : String) (h : Edited F v w) :
      Edited (table F) (.object (l ++ (n, v) :: r)) (.object (l ++ (n, w) :: r))
  | only {F : Form} {p : Json → Bool} {v w : Json} (h : Edited F v w)
      (hp : p v = true → p w = true) : Edited (F.only p) v w
  | guarded {F : Form} {p : Json → Bool} {v w : Json} (h : Edited F v w) :
      Edited (F.guarded p) v w

/-! ## What is alike -/

theorem allAlike_map_iff {xs ys : Field → List Json} :
    AllAlike fields ((fields.map (·.1)).map xs) ((fields.map (·.1)).map ys) ↔
      ∀ p ∈ fields, Forall₂ p.2.alike (xs p.1) (ys p.1) := by
  induction fields with
  | nil => simp [AllAlike]
  | cons p fields ih =>
    rw [List.forall_mem_cons, ← ih]
    rfl

/-- Objects are alike if the values given for each field are. -/
theorem record_alike_object_iff :
    (record fields).alike (.object l) (.object r) ↔
      ∀ p ∈ fields, Forall₂ p.2.alike (given p.1 l) (given p.1 r) :=
  (and_iff_right trivial).trans allAlike_map_iff

theorem allAlike_itemsFor {l r : List Json}
    (h : ∀ p, fields[l.length]? = some p → p.2.alike v w) :
    AllAlike fields (itemsFor (fields.map (·.1)) (l ++ v :: r))
      (itemsFor (fields.map (·.1)) (l ++ w :: r)) := by
  induction fields generalizing l with
  | nil => rfl
  | cons p fields ih =>
    cases l with
    | nil => exact ⟨.cons (h p rfl) .nil, allAlike_refl _ _⟩
    | cons x l => exact ⟨.cons (p.2.alike_refl x) .nil, ih h⟩

theorem Edited.alike (h : Edited F v w) : F.alike v w := by
  induction h with
  | added l r n x h =>
    refine record_alike_object_iff.2 fun p hp => ?_
    rw [given_append, given_member, if_neg (by simp [h p hp])]
    exact forall₂_alike_refl p.2 _
  | renamed l r n m x h =>
    refine record_alike_object_iff.2 fun p hp => ?_
    rw [given_member, given_member, h p hp]
    exact forall₂_alike_refl p.2 _
  | member l r n _ ih =>
    exact record_alike_object_iff.2 fun p hp => forall₂_given_member l r (ih p hp)
  | place l r _ ih => exact ⟨by simp [SameKind], allAlike_itemsFor ih⟩
  | @item F _ _ l r _ ih =>
    exact List.rel_append (forall₂_alike_refl F l) (.cons ih (forall₂_alike_refl F r))
  | contents hv hw hk _ ih =>
    refine .inr ⟨_, _, _, _, hv, hw, rfl, fun k' hk' => ?_⟩
    cases hk.symm.trans hk'
    exact ih
  | entry l r n _ ih => exact fun _ => forall₂_given_member l r fun _ => ih
  | only _ hp ih => exact ⟨ih, hp⟩
  | guarded _ ih => exact ih

/-- A member added beside the tag of an alternative, if the case has no field of its name. -/
theorem Edited.tagged_added {tag : String} {kind? : Json → Option String} {room : Option Nat}
    {cases : String → List (Field × Form)} {t : Json} {k : String} {n : String} (x : Json)
    (htag : given tag (l ++ r) = [t]) (hk : kind? t = some k) (hn : n ≠ tag)
    (h : ∀ p ∈ cases k, p.1.isNamed n = false) :
    Edited (tagged tag kind? room cases) (.object (l ++ r)) (.object (l ++ (n, x) :: r)) := by
  have htag' : given tag (l ++ (n, x) :: r) = [t] := by
    rw [given_member, if_neg (by simp [Field.isNamed, hn.symm]), List.nil_append, ← given_append,
      htag]
  refine .contents (tagged?_object_iff.2 ⟨htag, rfl⟩) (tagged?_object_iff.2 ⟨htag', rfl⟩) hk ?_
  rw [List.filter_append, List.filter_append, List.filter_cons_of_pos (by simpa using hn)]
  exact .added _ _ n x h

/-! ## Presentation -/

/-- One change of how a value is presented: members stand in another order somewhere, or a member is
added or renamed and all still fits. -/
def Change (ok : Order) (F : Form) (v w : Json) : Prop :=
  Reordered ok v w ∨ Edited F v w ∧ F.fits w

/-- What is decoded does not depend on how a value is presented, but on whether the parts of it that
must be held in memory can be. -/
structure Presents (ok : Order) (F : Form) (read? : Json → Option α) : Prop where
  /-- However often the presentation of what is decoded is changed, it is decoded the same. -/
  changed : ∀ {v w a}, read? v = some a → ReflTransGen (Change ok F) v w → read? w = some a
  /-- What does not fit is refused. -/
  unfit : ∀ {w}, ¬ F.fits w → read? w = none
  /-- So is what gives a field twice. -/
  doubled : ∀ {w}, F.doubled w → read? w = none

variable {read? : Json → Option α}

theorem IsReadBy.change {a : α} (h : F.IsReadBy ok read?) (hv : read? v = some a)
    (hchange : Change ok F v w) : read? w = some a := by
  rcases hchange with hr | ⟨he, hfits⟩
  · obtain ⟨halike, hfits⟩ := h.reordered hv hr
    exact h.same hv halike hfits
  · exact h.same hv he.alike hfits

theorem IsReadBy.presents (h : F.IsReadBy ok read?) : F.Presents ok read? where
  changed {v w a} hv hchanges := by
    induction hchanges with
    | refl => exact hv
    | tail _ hchange ih => exact h.change ih hchange
  unfit {w} hfits := by
    cases hw : read? w with
    | none => rfl
    | some a => exact absurd (h.fits hw) hfits
  doubled {w} hdoubled := by
    cases hw : read? w with
    | none => rfl
    | some a => exact absurd hdoubled (h.single hw)

/-! ## What fits -/

/-- Nothing of the form must be held in memory. -/
def Free (F : Form) : Prop := ∀ v, F.fits v

@[simp] theorem free_plain : plain.Free := fun _ => trivial

@[simp] theorem free_list : F.list.Free ↔ F.Free := by
  refine ⟨fun h x => h (.array [x]) x List.mem_cons_self, fun h v => ?_⟩
  cases v with
  | array => exact fun x _ => h x
  | _ => trivial

@[simp] theorem free_table : F.table.Free ↔ F.Free := by
  refine ⟨fun h x => h (.object [("", x)]) _ List.mem_cons_self, fun h v => ?_⟩
  cases v with
  | object => exact fun m _ => h m.2
  | _ => trivial

@[simp] theorem free_only {p : Json → Bool} : (F.only p).Free ↔ F.Free := Iff.rfl

theorem allFit_map_iff {xs : Field → List Json} :
    AllFit fields ((fields.map (·.1)).map xs) ↔ ∀ p ∈ fields, ∀ x ∈ xs p.1, p.2.fits x := by
  induction fields with
  | nil => simp [AllFit]
  | cons p fields ih =>
    rw [List.forall_mem_cons, ← ih]
    rfl

/-- An object fits if all values given for its fields do. -/
theorem record_fits_object_iff :
    (record fields).fits (.object l) ↔ ∀ p ∈ fields, ∀ x ∈ given p.1 l, p.2.fits x :=
  allFit_map_iff

theorem allFit_of_free (h : ∀ p ∈ fields, p.2.Free) (xss : List (List Json)) :
    AllFit fields xss := by
  induction fields generalizing xss with
  | nil => trivial
  | cons p fields ih =>
    rw [List.forall_mem_cons] at h
    cases xss with
    | nil => trivial
    | cons xs xss => exact ⟨fun x _ => h.1 x, ih h.2 xss⟩

@[simp] theorem free_record : (record fields).Free ↔ ∀ p ∈ fields, p.2.Free := by
  refine ⟨fun h p hp x => ?_, fun h v => allFit_of_free h _⟩
  refine record_fits_object_iff.1 (h (.object [(p.1.name, x)])) p hp x ?_
  simp [given, Field.isNamed]

/-- What stands beside the tag of an alternative can be held in memory. -/
def HeldBeside (tag : String) (room : Nat) (v : Json) : Prop :=
  ∀ t c, v.tagged? tag = some (t, c) → c.held room = true

section Alternatives

variable {tag : String} {kind? : Json → Option String} {cases : String → List (Field × Form)}

theorem tagged_fits_iff {room : Nat} (h : ∀ k, (record (cases k)).Free) :
    (tagged tag kind? (some room) cases).fits v ↔ HeldBeside tag room v := by
  refine ⟨fun hv t c htag => (hv t c htag).1 room rfl, fun hv t c htag =>
    ⟨fun n hn => ?_, fun k _ => h k c⟩⟩
  obtain rfl := Option.some.inj hn
  exact hv t c htag

theorem free_tagged (h : ∀ k, (record (cases k)).Free) : (tagged tag kind? none cases).Free :=
  fun _ _ c _ => ⟨nofun, fun k _ => h k c⟩

end Alternatives

/-! ## What is given twice -/

theorem anyDoubled_map_iff {xs : Field → List Json} :
    AnyDoubled fields ((fields.map (·.1)).map xs) ↔
      ∃ p ∈ fields, 2 ≤ (xs p.1).length ∨ ∃ x ∈ xs p.1, p.2.doubled x := by
  induction fields with
  | nil => simp [AnyDoubled]
  | cons p fields ih =>
    rw [List.exists_mem_cons_iff, ← ih, or_assoc]
    rfl

/-- An object gives a field twice under the names of the field, or a value for a field does. -/
theorem record_doubled_object_iff :
    (record fields).doubled (.object l) ↔
      ∃ p ∈ fields, 2 ≤ (given p.1 l).length ∨ ∃ x ∈ given p.1 l, p.2.doubled x :=
  anyDoubled_map_iff

end Form

end FieldGateway.Json
