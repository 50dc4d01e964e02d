import FieldGateway.Proofs.Json.Forms
import FieldGateway.Proofs.Tables

/-!
# Objects that are tables

An object may be read as a table, with any names for keys. Of two members of one name the later
counts, so that members of one name have to keep their order; apart from that the order of the
members does not matter.

* `Json.Form.table`: the form of a table.
* `Json.Form.IsReadBy.table`: its reader.
-/

namespace FieldGateway

open List (Forall₂)

namespace Json

variable {α : Type} {v w : Json} {l r : List (String × Json)}

theorem Order.given_stable (h : Order.stable.rel l r) (n : String) : given n l = given n r := by
  have hnamed : ∀ m : String × Json, Field.isNamed n m.1 = (m.1 == n) := fun m => by
    simp [Field.isNamed, Bool.beq_comm]
  simp only [given, hnamed, h.2 n]

theorem mem_given_iff {n : String} {x : Json} : x ∈ given n l ↔ (n, x) ∈ l := by
  simp [given, Field.isNamed]

namespace Form

/-- An object with any names over values of one form. -/
def table (F : Form) : Form where
  alike
    | .object l, .object r => ∀ n : String, Forall₂ F.alike (given n l) (given n r)
    | v, w => v = w
  doubled
    | .object l => ∃ m ∈ l, F.doubled m.2
    | _ => False
  fits
    | .object l => ∀ m ∈ l, F.fits m.2
    | _ => True
  alike_refl v := by
    cases v with
    | object l => exact fun n => forall₂_alike_refl F _
    | _ => rfl
  alike_trans {u v w} huv hvw := by
    cases u with
    | object =>
      cases v with
      | object =>
        cases w with
        | object => exact fun n => forall₂_trans (r := F.alike) F.alike_trans (huv n) (hvw n)
        | _ => cases hvw
      | _ => cases huv
    | _ => obtain rfl := show _ = v from huv; exact hvw

section Reader

variable {F : Form} {item? : Json → Option α}

/-- The pair that a member gives. -/
def pair? (item? : Json → Option α) (m : String × Json) : Option (String × α) :=
  (item? m.2).map fun a => (m.1, a)

theorem pair?_eq_some {m : String × Json} {e : String × α} :
    pair? item? m = some e ↔ e.1 = m.1 ∧ item? m.2 = some e.2 := by
  unfold pair?
  constructor
  · intro h
    obtain ⟨a, ha, rfl⟩ := Option.map_eq_some_iff.1 h
    exact ⟨rfl, ha⟩
  · rintro ⟨hname, hitem⟩
    rw [hitem, Option.map_some, ← hname]

theorem exists_of_mapM_pair? {es : List (String × α)} (h : l.mapM (pair? item?) = some es)
    {m : String × Json} (hm : m ∈ l) : ∃ a, item? m.2 = some a := by
  obtain ⟨e, -, he⟩ := exists_of_forall₂ (mapM_eq_some.1 h) hm
  exact ⟨e.2, (pair?_eq_some.1 he).2⟩

theorem exists_mapM_pair? (h : ∀ m ∈ l, ∃ a, item? m.2 = some a) :
    ∃ es, l.mapM (pair? item?) = some es := by
  simp only [mapM_eq_some]
  induction l with
  | nil => exact ⟨[], .nil⟩
  | cons m l ih =>
    rw [List.forall_mem_cons] at h
    obtain ⟨⟨a, ha⟩, hrest⟩ := h
    obtain ⟨es, hes⟩ := ih hrest
    exact ⟨(m.1, a) :: es, .cons (pair?_eq_some.2 ⟨rfl, ha⟩) hes⟩

/-- The pairs of a name are the values given for it. -/
theorem given_of_mapM_pair? {es : List (String × α)} (h : l.mapM (pair? item?) = some es)
    (n : String) :
    Forall₂ (fun x e => e.1 = n ∧ item? x = some e.2) (given n l) (es.filter (·.1 = n)) := by
  rw [mapM_eq_some] at h
  induction h with
  | nil => exact .nil
  | @cons m e l es he _ ih =>
    obtain ⟨hname, hitem⟩ := pair?_eq_some.1 he
    by_cases hn : m.1 = n
    · simpa [given, Field.isNamed, hn, hname] using And.intro hitem ih
    · simpa [given, Field.isNamed, hn, hname, Ne.symm hn] using ih

/-- Values that are alike and fit give the same pairs. -/
theorem pairs_eq (h : F.IsReadBy .stable item?) {n : String} {xs ys : List Json}
    {es fs : List (String × α)} (hxs : Forall₂ (fun x e => e.1 = n ∧ item? x = some e.2) xs es)
    (hys : Forall₂ (fun y f => f.1 = n ∧ item? y = some f.2) ys fs)
    (halike : Forall₂ F.alike xs ys) (hfits : ∀ y ∈ ys, F.fits y) : es = fs := by
  induction halike generalizing es fs with
  | nil => cases hxs; cases hys; rfl
  | @cons x y xs ys hxy _ ih =>
    cases hxs with
    | @cons _ e _ es hx hxs =>
      cases hys with
      | @cons _ f _ fs hy hys =>
        rw [List.forall_mem_cons] at hfits
        have hsame := h.same hx.2 hxy hfits.1
        rw [hy.2, Option.some.injEq] at hsame
        rw [ih hxs hys hfits.2, Prod.ext (hx.1.trans hy.1.symm) hsame.symm]

/-- A reader of tables. -/
theorem IsReadBy.table {read? : Json → Option (Table String α)} (h : F.IsReadBy .stable item?)
    (hread : ∀ l, read? (.object l) = (l.mapM (pair? item?)).map .ofList)
    (hobject : ∀ {v t}, read? v = some t → ∃ l, v = .object l) :
    F.table.IsReadBy .stable read? := by
  have hpairs : ∀ {v t}, read? v = some t →
      ∃ l es, v = .object l ∧ l.mapM (pair? item?) = some es ∧ t = .ofList es := by
    intro v t hv
    obtain ⟨l, rfl⟩ := hobject hv
    rw [hread] at hv
    obtain ⟨es, hes, rfl⟩ := Option.map_eq_some_iff.1 hv
    exact ⟨l, es, rfl, hes, rfl⟩
  refine ⟨fun {v w t} hv halike hfits => ?_, fun {v t} hv => ?_, fun {v t} hv => ?_,
    fun {v w t} hv hr => ?_⟩ <;> obtain ⟨l, es, rfl, hes, rfl⟩ := hpairs hv
  · cases w with
    | object r =>
      obtain ⟨fs, hfs⟩ : ∃ fs, r.mapM (pair? item?) = some fs := by
        refine exists_mapM_pair? fun m hm => ?_
        obtain ⟨x, hx, hxm⟩ :=
          exists_of_forall₂ (halike m.1).flip (mem_given_iff.2 hm)
        obtain ⟨a, ha⟩ := exists_of_mapM_pair? hes (mem_given_iff.1 hx)
        exact ⟨a, h.same ha hxm (hfits m hm)⟩
      rw [hread, hfs, Option.map_some]
      -- The members may be pairs in another order, but name by name the pairs are the same.
      refine congrArg some (Table.ofList_congr fun n => ?_)
      exact (pairs_eq h (given_of_mapM_pair? hes n) (given_of_mapM_pair? hfs n) (halike n)
        fun y hy => hfits _ (mem_given_iff.1 hy)).symm
    | _ => cases halike
  · intro m hm
    obtain ⟨a, ha⟩ := exists_of_mapM_pair? hes hm
    exact h.fits ha
  · rintro ⟨m, hm, hdoubled⟩
    obtain ⟨a, ha⟩ := exists_of_mapM_pair? hes hm
    exact h.single ha hdoubled
  · have hfits : ∀ m ∈ l, F.fits m.2 := fun m hm =>
      have ⟨_, ha⟩ := exists_of_mapM_pair? hes hm
      h.fits ha
    cases hr with
    | here hrel =>
      refine ⟨fun n => ?_, fun m hm => hfits m (hrel.1.mem_iff.2 hm)⟩
      rw [Order.given_stable hrel n]
      exact forall₂_alike_refl F _
    | @member x y n l r hr =>
      obtain ⟨a, ha⟩ := exists_of_mapM_pair? hes (m := (n, x)) (by simp)
      obtain ⟨halike, hfitsy⟩ := h.reordered ha hr
      refine ⟨fun k => forall₂_given_member l r fun _ => halike, fun m hm => ?_⟩
      rcases List.mem_append.1 hm with hm | hm
      · exact hfits m (List.mem_append_left _ hm)
      · rcases List.mem_cons.1 hm with rfl | hm
        · exact hfitsy
        · exact hfits m (by simp [hm])

end Reader

end Form

end Json

end FieldGateway
