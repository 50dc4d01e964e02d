import FieldGateway.Proofs.Json.Reordering
import FieldGateway.Proofs.Lists

/-!
# The form of a value

What a value looks like to the reader of its type: which fields a record has, which parts are read
as what. Two values of a form are alike if they give the same for every field, however the members
are ordered, under whichever of its names a field is given, and whatever members there are besides.

A form tells three things of a value, and what they mean for a reader is said once for each way of
putting forms together.

* `Form`: when values are alike, when a field is given twice, and whether all is held that must be.
* `Form.plain`, `Form.list`, `Form.record`, `Form.tagged`, `Form.only`, `Form.guarded`: the ways to
  put forms together.
* `Form.IsReadBy`: what a form tells of its reader.
* `Form.IsReadBy.list`, `Form.IsReadBy.record`, `Form.IsReadBy.tagged`, `Form.IsReadBy.only`,
  `Form.IsReadBy.guarded`: readers put together.
-/

namespace FieldGateway.Json

open List (Forall₂)

/-- What the reader of a type makes out in a value. -/
structure Form where
  /-- Holds of two values that say the same in different ways. -/
  alike : Json → Json → Prop
  /-- Holds of a value in which some field is given twice. -/
  doubled : Json → Prop
  /-- Holds of a value in which all parts can be held in memory that must be. -/
  fits : Json → Prop
  alike_refl : ∀ v, alike v v
  alike_trans : ∀ {u v w}, alike u v → alike v w → alike u w

variable {α β : Type} {ok : Order} {v w : Json}

/-- The values given for each of some fields, by the items of a sequence. -/
def itemsFor : List Field → List Json → List (List Json)
  | [], _ => []
  | _ :: fs, [] => [] :: itemsFor fs []
  | _ :: fs, v :: items => [v] :: itemsFor fs items

/-- The values given for each of some fields, by an object or by a sequence. -/
def givenFor (fs : List Field) : Json → List (List Json)
  | .object members => fs.map (given · members)
  | .array items => itemsFor fs items
  | _ => []

/-- Holds of two objects, and of two sequences of one length. -/
def SameKind : Json → Json → Prop
  | .object _, .object _ => True
  | .array l, .array r => l.length = r.length
  | v, w => v = w

theorem Reordered.sameKind (h : Reordered ok v w) : SameKind v w := by
  cases h with
  | item l r _ => simp [SameKind]
  | _ => trivial

/-- What stands for nothing has no other order. -/
theorem Reordered.eq_of_isNothing {source : Source} (h : Reordered ok v w)
    (hv : source.isNothing v = true) : v = w := by
  cases h with
  | here h =>
    unfold Source.isNothing at hv
    split at hv
    · next heq => cases heq
    · next heq =>
      cases heq
      rw [(ok.perm h).symm.eq_nil]
    · cases hv
  | item l r _ => cases source <;> cases hv
  | member n l r _ => cases source <;> cases l <;> cases hv

namespace Form

/-- Field by field, the values given are alike. -/
def AllAlike : List (Field × Form) → List (List Json) → List (List Json) → Prop
  | (_, F) :: fields, xs :: xss, ys :: yss => Forall₂ F.alike xs ys ∧ AllAlike fields xss yss
  | _, xss, yss => xss = yss

/-- A field is given twice, or a field is given twice in one of the values. -/
def AnyDoubled : List (Field × Form) → List (List Json) → Prop
  | (_, F) :: fields, xs :: xss =>
    2 ≤ xs.length ∨ (∃ x ∈ xs, F.doubled x) ∨ AnyDoubled fields xss
  | _, _ => False

/-- All values given for the fields fit. -/
def AllFit : List (Field × Form) → List (List Json) → Prop
  | (_, F) :: fields, xs :: xss => (∀ x ∈ xs, F.fits x) ∧ AllFit fields xss
  | _, _ => True

theorem forall₂_alike_refl (F : Form) (l : List Json) : Forall₂ F.alike l l :=
  List.forall₂_same.2 fun x _ => F.alike_refl x

theorem allAlike_refl (fields : List (Field × Form)) (xss : List (List Json)) :
    AllAlike fields xss xss := by
  induction fields generalizing xss with
  | nil => cases xss <;> rfl
  | cons p fields ih =>
    cases xss with
    | nil => rfl
    | cons xs xss => exact ⟨forall₂_alike_refl p.2 xs, ih xss⟩

theorem AllAlike.trans {fields : List (Field × Form)} {xss yss zss : List (List Json)}
    (hxy : AllAlike fields xss yss) (hyz : AllAlike fields yss zss) : AllAlike fields xss zss := by
  induction fields generalizing xss yss zss with
  | nil => exact Eq.trans hxy hyz
  | cons p fields ih =>
    cases xss with
    | nil => obtain rfl : [] = yss := hxy; exact hyz
    | cons xs xss =>
      cases yss with
      | nil => cases hxy
      | cons ys yss =>
        cases zss with
        | nil => cases hyz
        | cons zs zss =>
          exact ⟨forall₂_trans (r := p.2.alike) p.2.alike_trans hxy.1 hyz.1, ih hxy.2 hyz.2⟩

theorem sameKind_refl (v : Json) : SameKind v v := by
  cases v <;> simp [SameKind]

theorem sameKind_trans {u v w : Json} (huv : SameKind u v) (hvw : SameKind v w) :
    SameKind u w := by
  cases u with
  | object | array =>
    cases v <;> cases w <;> simp_all [SameKind]
  | _ => obtain rfl := show _ = v from huv; exact hvw

/-- What is given for a field is alike if a member of its name is. -/
theorem forall₂_given_member {F : Form} {f : Field} {n : String} (l r : List (String × Json))
    (h : f.isNamed n = true → F.alike v w) :
    Forall₂ F.alike (given f (l ++ (n, v) :: r)) (given f (l ++ (n, w) :: r)) := by
  rw [given_member, given_member]
  refine List.rel_append (forall₂_alike_refl F _)
    (List.rel_append ?_ (forall₂_alike_refl F _))
  split
  · next hn => exact .cons (h hn) .nil
  · exact .nil

/-- A value that is the same only to itself: a scalar, or one of a list of names. -/
def plain : Form := ⟨Eq, fun _ => False, fun _ => True, fun _ => rfl, Eq.trans⟩

/-- A sequence of values of one form. -/
def list (F : Form) : Form where
  alike
    | .array l, .array r => Forall₂ F.alike l r
    | v, w => v = w
  doubled
    | .array l => ∃ x ∈ l, F.doubled x
    | _ => False
  fits
    | .array l => ∀ x ∈ l, F.fits x
    | _ => True
  alike_refl v := by
    cases v with
    | array l => exact forall₂_alike_refl F l
    | _ => rfl
  alike_trans {u v w} huv hvw := by
    cases u with
    | array =>
      cases v with
      | array =>
        cases w with
        | array => exact forall₂_trans (r := F.alike) F.alike_trans huv hvw
        | _ => cases hvw
      | _ => cases huv
    | _ => obtain rfl := show _ = v from huv; exact hvw

/-- A record with some fields. -/
def record (fields : List (Field × Form)) : Form where
  alike v w := SameKind v w ∧
    AllAlike fields (givenFor (fields.map (·.1)) v) (givenFor (fields.map (·.1)) w)
  doubled v := AnyDoubled fields (givenFor (fields.map (·.1)) v)
  fits v := AllFit fields (givenFor (fields.map (·.1)) v)
  alike_refl v := ⟨sameKind_refl v, allAlike_refl _ _⟩
  alike_trans huv hvw := by exact ⟨sameKind_trans huv.1 hvw.1, huv.2.trans hvw.2⟩

/-- An alternative: beside its tag it has the fields of the case that the tag names. What is held in
memory until the tag is known must fit into some room. -/
def tagged (tag : String) (kind? : Json → Option String) (room : Option Nat)
    (cases : String → List (Field × Form)) : Form where
  alike v w := v = w ∨ ∃ t c t' c', v.tagged? tag = some (t, c) ∧ w.tagged? tag = some (t', c') ∧
    kind? t' = kind? t ∧ ∀ k, kind? t = some k → (record (cases k)).alike c c'
  doubled v := (∃ l, v = .object l ∧ 2 ≤ (given tag l).length) ∨
    ∃ t c k, v.tagged? tag = some (t, c) ∧ kind? t = some k ∧ (record (cases k)).doubled c
  fits v := ∀ t c, v.tagged? tag = some (t, c) → (∀ n ∈ room, c.held n = true) ∧
    ∀ k, kind? t = some k → (record (cases k)).fits c
  alike_refl _ := .inl rfl
  alike_trans {u v w} huv hvw := by
    rcases huv with rfl | ⟨t, c, t', c', hu, hv, hkind, halike⟩
    · exact hvw
    · rcases hvw with rfl | ⟨_, _, t'', c'', hv', hw, hkind', halike'⟩
      · exact .inr ⟨t, c, t', c', hu, hv, hkind, halike⟩
      · cases hv.symm.trans hv'
        exact .inr ⟨t, c, t'', c'', hu, hw, hkind'.trans hkind, fun k hk =>
          alike_trans _ (halike k hk) (halike' k (hkind.trans hk))⟩

/-- Only such values of a form as are looked for. -/
def only (p : Json → Bool) (F : Form) : Form where
  alike v w := F.alike v w ∧ (p v = true → p w = true)
  doubled := F.doubled
  fits := F.fits
  alike_refl v := ⟨F.alike_refl v, id⟩
  alike_trans huv hvw := ⟨F.alike_trans huv.1 hvw.1, hvw.2 ∘ huv.2⟩

/-- A form with a further condition on what must be held. -/
def guarded (p : Json → Bool) (F : Form) : Form where
  alike := F.alike
  doubled := F.doubled
  fits v := F.fits v ∧ p v = true
  alike_refl := F.alike_refl
  alike_trans := F.alike_trans

/-! ## Readers -/

/-- What a form tells of the reader of a type: a value like one that is read gives the same, if it
fits; what does not fit or gives a field twice is not read; and members in another order do not
matter. -/
structure IsReadBy (ok : Order) (F : Form) (read? : Json → Option α) : Prop where
  same : ∀ {v w a}, read? v = some a → F.alike v w → F.fits w → read? w = some a
  fits : ∀ {v a}, read? v = some a → F.fits v
  single : ∀ {v a}, read? v = some a → ¬ F.doubled v
  reordered : ∀ {v w a}, read? v = some a → Reordered ok v w → F.alike v w ∧ F.fits w

/-- The same of what takes the value given for a field. -/
structure IsTakenBy (ok : Order) (F : Form) (take? : Option Json → Option α) : Prop where
  same : ∀ {x ys a}, take? x = some a → Forall₂ F.alike x.toList ys → (∀ y ∈ ys, F.fits y) →
    ∃ y, ys = Option.toList y ∧ take? y = some a
  fits : ∀ {x a}, take? x = some a → ∀ v ∈ x.toList, F.fits v
  single : ∀ {x a}, take? x = some a → ∀ v ∈ x.toList, ¬ F.doubled v
  reordered : ∀ {v w a}, take? (some v) = some a → Reordered ok v w → F.alike v w ∧ F.fits w

/-- The same of what takes the values given for the fields of a record. -/
structure AreTakenBy (ok : Order) (fields : List (Field × Form))
    (take? : List (Option Json) → Option α) : Prop where
  same : ∀ {xs yss a}, take? xs = some a → AllAlike fields (xs.map Option.toList) yss →
    AllFit fields yss → ∃ ys, yss = ys.map Option.toList ∧ take? ys = some a
  fits : ∀ {xs a}, take? xs = some a → AllFit fields (xs.map Option.toList)
  single : ∀ {xs a}, take? xs = some a → ¬ AnyDoubled fields (xs.map Option.toList)
  reordered : ∀ {xs ys a}, take? xs = some a → Forall₂ (Option.Rel (Step ok)) xs ys →
    AllAlike fields (xs.map Option.toList) (ys.map Option.toList) ∧
      AllFit fields (ys.map Option.toList)

variable {F : Form} {fields : List (Field × Form)} {read? : Json → Option α}

/-- A reader of scalars. -/
theorem IsReadBy.scalar (ho : ∀ l, read? (.object l) = none) (ha : ∀ l, read? (.array l) = none) :
    plain.IsReadBy ok read? where
  same h heq _ := heq ▸ h
  fits _ := trivial
  single _ h := h
  reordered h hr := by
    cases hr with
    | here | member => rw [ho] at h; cases h
    | item => rw [ha] at h; cases h

/-- A reader of one of a list of names. -/
theorem IsReadBy.choice (source : Source) (choices : List (String × α)) :
    plain.IsReadBy ok (choice? source choices) where
  same h heq _ := heq ▸ h
  fits _ := trivial
  single _ h := h
  reordered {v w a} h hr := by
    refine ⟨?_, trivial⟩
    change v = w
    unfold choice? at h
    split at h
    · cases hr
    · next n u =>
      -- One member has one order only, and in what stands for nothing there is none to change.
      have hu : source.isNothing u = true := (Option.ite_none_right_eq_some.1 h).1
      generalize hl : [(n, u)] = l at hr
      cases hr with
      | here hrel =>
        rw [← hl] at hrel ⊢
        rw [List.perm_singleton.1 (ok.perm hrel).symm]
      | @member x y m l r hr =>
        have hnil : l = [] ∧ r = [] := by
          have hlength := congrArg List.length hl
          simp only [List.length_append, List.length_cons, List.length_nil] at hlength
          exact ⟨List.eq_nil_of_length_eq_zero (by omega),
            List.eq_nil_of_length_eq_zero (by omega)⟩
        obtain ⟨rfl, rfl⟩ := hnil
        cases hl
        rw [hr.eq_of_isNothing hu]
    · cases h

theorem mapM_eq_some {f : α → Option β} {l : List α} {bs : List β} :
    l.mapM f = some bs ↔ Forall₂ (fun a b => f a = some b) l bs := by
  induction l generalizing bs with
  | nil => cases bs <;> simp
  | cons a l ih =>
    cases bs with
    | nil => simp [List.mapM_cons, Option.bind_eq_some_iff]
    | cons b bs => simp [List.mapM_cons, Option.bind_eq_some_iff, ih]

theorem list?_eq_some {as : List α} :
    list? read? v = some as ↔ ∃ l, v = .array l ∧ Forall₂ (fun x a => read? x = some a) l as := by
  unfold list?
  split
  · simp [mapM_eq_some]
  · next hne => exact ⟨fun h => (nomatch h), fun ⟨l, h, _⟩ => (hne l h).elim⟩

theorem exists_of_forall₂ {γ : Type} {r : β → γ → Prop} {xs : List β} {ys : List γ}
    (h : Forall₂ r xs ys) {x : β} (hx : x ∈ xs) : ∃ y ∈ ys, r x y := by
  induction h with
  | nil => cases hx
  | cons hxy _ ih =>
    rcases List.mem_cons.1 hx with rfl | hx
    · exact ⟨_, List.mem_cons_self, hxy⟩
    · obtain ⟨y, hy, hxy⟩ := ih hx
      exact ⟨y, List.mem_cons_of_mem _ hy, hxy⟩

theorem exists_of_list? {l : List Json} {as : List α} (h : list? read? (.array l) = some as)
    {x : Json} (hx : x ∈ l) : ∃ a, read? x = some a := by
  obtain ⟨_, heq, hl⟩ := list?_eq_some.1 h
  cases heq
  obtain ⟨a, -, ha⟩ := exists_of_forall₂ hl hx
  exact ⟨a, ha⟩

/-- A reader of sequences. -/
theorem IsReadBy.list (h : F.IsReadBy ok read?) : F.list.IsReadBy ok (list? read?) where
  same {v w as} hv halike hfits := by
    obtain ⟨l, rfl, hl⟩ := list?_eq_some.1 hv
    clear hv
    cases w with
    | array r =>
      refine list?_eq_some.2 ⟨r, rfl, ?_⟩
      change Forall₂ F.alike l r at halike
      change ∀ y ∈ r, F.fits y at hfits
      induction hl generalizing r with
      | nil => cases halike; exact .nil
      | cons ha _ ih =>
        cases halike with
        | cons hy hr =>
          rw [List.forall_mem_cons] at hfits
          exact .cons (h.same ha hy hfits.1) (ih _ hr hfits.2)
    | _ => cases halike
  fits {v as} hv := by
    obtain ⟨l, rfl, -⟩ := list?_eq_some.1 hv
    intro x hx
    obtain ⟨a, ha⟩ := exists_of_list? hv hx
    exact h.fits ha
  single {v as} hv := by
    obtain ⟨l, rfl, -⟩ := list?_eq_some.1 hv
    rintro ⟨x, hx, hdoubled⟩
    obtain ⟨a, ha⟩ := exists_of_list? hv hx
    exact h.single ha hdoubled
  reordered {v w as} hv hr := by
    cases hr with
    | @item x y l r hr =>
      obtain ⟨a, ha⟩ := exists_of_list? hv (x := x) (by simp)
      obtain ⟨halike, hfits⟩ := h.reordered ha hr
      refine ⟨List.rel_append (forall₂_alike_refl F l) (.cons halike (forall₂_alike_refl F r)),
        fun z hz => ?_⟩
      rcases List.mem_append.1 hz with hz | hz
      · obtain ⟨b, hb⟩ := exists_of_list? hv (x := z) (List.mem_append_left _ hz)
        exact h.fits hb
      · rcases List.mem_cons.1 hz with rfl | hz
        · exact hfits
        · obtain ⟨b, hb⟩ := exists_of_list? hv (x := z) (by simp [hz])
          exact h.fits hb
    | _ => cases hv

/-! ## Fields -/

/-- What is done with a value that is given; it is nothing of the form's if none is. -/
theorem IsTakenBy.of_read {take? : Option Json → Option α}
    (h : F.IsReadBy ok fun v => take? (some v)) : F.IsTakenBy ok take? where
  same {x ys a} hx halike hfits := by
    cases x with
    | none =>
      cases halike
      exact ⟨none, rfl, hx⟩
    | some v =>
      cases halike with
      | @cons _ w _ _ hw hnil =>
        cases hnil
        exact ⟨some w, rfl, h.same hx hw (hfits w List.mem_cons_self)⟩
  fits {x a} hx v hv := by
    obtain rfl := Option.mem_toList.1 hv
    exact h.fits hx
  single {x a} hx v hv := by
    obtain rfl := Option.mem_toList.1 hv
    exact h.single hx
  reordered hv hr := h.reordered hv hr

theorem IsTakenBy.required (h : F.IsReadBy ok read?) : F.IsTakenBy ok (required? read?) :=
  .of_read h

theorem IsTakenBy.default (h : F.IsReadBy ok read?) (a : α) : F.IsTakenBy ok (default? read? a) :=
  .of_read h

theorem IsTakenBy.optional (h : plain.IsReadBy ok read?) :
    plain.IsTakenBy ok (optional? read?) := by
  refine .of_read ⟨fun hv heq _ => heq ▸ hv, fun _ => trivial, fun _ => id, fun {v w a} hv hr => ?_⟩
  unfold optional? at hv
  split at hv
  · next heq => cases heq
  · next heq =>
    cases heq
    cases hr
  · next u _ heq =>
    cases heq
    obtain ⟨b, hb, -⟩ := Option.map_eq_some_iff.1 hv
    exact h.reordered hb hr

/-- What is left to be taken after the first field. -/
def take (take? : Option Json → Option α) (next? : α → List (Option Json) → Option β) :
    List (Option Json) → Option β
  | x :: xs => (take? x).bind fun a => next? a xs
  | [] => none

/-- Nothing is left to be taken. -/
def done (b : β) : List (Option Json) → Option β
  | [] => some b
  | _ :: _ => none

theorem AreTakenBy.done (b : β) : AreTakenBy ok [] (done b) where
  same {xs yss a} hx halike _ := by
    cases xs with
    | nil => exact ⟨[], halike.symm, hx⟩
    | cons x xs => cases hx
  fits _ := trivial
  single _ := id
  reordered {xs ys a} hx hstep := by
    cases xs with
    | nil =>
      cases hstep
      exact ⟨rfl, trivial⟩
    | cons x xs => cases hx

/-- What is taken next may depend on what was taken. -/
theorem AreTakenBy.take_of {f : Field} {take? : Option Json → Option α}
    {next? : α → List (Option Json) → Option β} (h : F.IsTakenBy ok take?)
    (hnext : ∀ x a, take? x = some a → AreTakenBy ok fields (next? a)) :
    AreTakenBy ok ((f, F) :: fields) (take take? next?) where
  same {xs yss b} hx halike hfits := by
    cases xs with
    | nil => cases hx
    | cons x xs =>
      obtain ⟨a, ha, hb⟩ := Option.bind_eq_some_iff.1 hx
      cases yss with
      | nil => cases halike
      | cons ys yss =>
        -- The same is taken from the first field, so that the others are taken alike.
        obtain ⟨y, rfl, hy⟩ := h.same ha halike.1 hfits.1
        obtain ⟨ys, rfl, hys⟩ := (hnext x a ha).same hb halike.2 hfits.2
        exact ⟨y :: ys, rfl, Option.bind_eq_some_iff.2 ⟨a, hy, hys⟩⟩
  fits {xs b} hx := by
    cases xs with
    | nil => cases hx
    | cons x xs =>
      obtain ⟨a, ha, hb⟩ := Option.bind_eq_some_iff.1 hx
      exact ⟨h.fits ha, (hnext x a ha).fits hb⟩
  single {xs b} hx hdoubled := by
    cases xs with
    | nil => cases hx
    | cons x xs =>
      obtain ⟨a, ha, hb⟩ := Option.bind_eq_some_iff.1 hx
      rcases hdoubled with htwo | ⟨v, hv, hdoubled⟩ | hrest
      · cases x <;> simp at htwo
      · exact h.single ha v hv hdoubled
      · exact (hnext x a ha).single hb hrest
  reordered {xs ys b} hx hstep := by
    cases hstep with
    | nil => cases hx
    | @cons x y xs ys hxy hstep =>
      obtain ⟨a, ha, hb⟩ := Option.bind_eq_some_iff.1 hx
      obtain ⟨halike, hfits⟩ := (hnext x a ha).reordered hb hstep
      suffices hfirst : Forall₂ F.alike x.toList y.toList ∧ ∀ w ∈ y.toList, F.fits w from
        ⟨⟨hfirst.1, halike⟩, hfirst.2, hfits⟩
      cases hxy with
      | none => exact ⟨.nil, by simp⟩
      | @some v w hvw =>
        simp only [Option.toList_some, List.forall₂_cons, List.forall₂_nil_left_iff, and_true,
          List.mem_singleton, forall_eq]
        rcases hvw with rfl | hr
        · exact ⟨F.alike_refl v, h.fits ha v (by simp)⟩
        · exact h.reordered ha hr

theorem AreTakenBy.take {f : Field} {take? : Option Json → Option α}
    {next? : α → List (Option Json) → Option β} (h : F.IsTakenBy ok take?)
    (hnext : ∀ a, AreTakenBy ok fields (next? a)) :
    AreTakenBy ok ((f, F) :: fields) (take take? next?) :=
  .take_of h fun _ a _ => hnext a

/-! ## Records -/

theorem itemsFor_eq {fs : List Field} {items : List Json} (h : items.length ≤ fs.length) :
    (items.map some ++ List.replicate (fs.length - items.length) none).map Option.toList =
      itemsFor fs items := by
  induction fs generalizing items with
  | nil =>
    obtain rfl : items = [] := List.eq_nil_of_length_eq_zero (Nat.le_zero.1 h)
    rfl
  | cons f fs ih =>
    cases items with
    | nil => simpa [itemsFor, List.replicate_succ] using @ih [] (Nat.zero_le _)
    | cons v items => simpa [itemsFor] using ih (Nat.le_of_succ_le_succ h)

theorem map_toList_inj {xs ys : List (Option Json)}
    (h : xs.map Option.toList = ys.map Option.toList) : xs = ys := by
  refine List.map_injective_iff.2 (fun x y hxy => ?_) h
  cases x <;> cases y <;> simp_all

theorem fields?_eq_some {fs : List Field} {xs : List (Option Json)} :
    v.fields? fs = some xs ↔
      ((∃ l, v = .object l) ∨ ∃ l, v = .array l ∧ l.length ≤ fs.length) ∧
        givenFor fs v = xs.map Option.toList := by
  cases v with
  | object l => simp [fields?, givenFor, slots?_eq_some]
  | array l =>
    simp only [fields?, givenFor, Option.ite_none_right_eq_some, Option.some.injEq, reduceCtorEq,
      exists_false, array.injEq, exists_eq_left', false_or]
    refine and_congr_right fun hlength => ?_
    rw [← itemsFor_eq hlength]
    exact ⟨congrArg _, map_toList_inj⟩
  | _ => simp [fields?]

/-- There is one value or none for each field that is given. -/
theorem length_of_fields? {fs : List Field} {xs : List (Option Json)}
    (h : v.fields? fs = some xs) : xs.length = fs.length := by
  obtain ⟨⟨l, rfl⟩ | ⟨l, rfl, hlength⟩, hgiven⟩ := fields?_eq_some.1 h
  · simpa [givenFor, eq_comm] using congrArg List.length hgiven
  · rw [givenFor, ← itemsFor_eq hlength] at hgiven
    have := congrArg List.length hgiven
    simp only [List.length_map, List.length_append, List.length_replicate] at this
    omega

theorem fields?_bind_congr {fs : List Field} {k k' : List (Option Json) → Option α}
    (h : ∀ xs, xs.length = fs.length → k xs = k' xs) :
    (v.fields? fs).bind k = (v.fields? fs).bind k' := by
  cases hxs : v.fields? fs with
  | none => rfl
  | some xs => exact h xs (length_of_fields? hxs)

/-- A reader of records, by what is taken from their fields. -/
theorem IsReadBy.record {take? : List (Option Json) → Option α}
    (htake : AreTakenBy ok fields take?)
    (hread : ∀ v, read? v = (v.fields? (fields.map (·.1))).bind take?) :
    (record fields).IsReadBy ok read? where
  same {v w a} hv halike hfits := by
    rw [hread, Option.bind_eq_some_iff] at hv ⊢
    obtain ⟨xs, hxs, ha⟩ := hv
    obtain ⟨hkind, hgiven⟩ := fields?_eq_some.1 hxs
    obtain ⟨hsame, hall⟩ := halike
    rw [hgiven] at hall
    -- What is read depends on the values given for the fields alone, and on the kind of value.
    obtain ⟨ys, hys, hb⟩ := htake.same ha hall hfits
    refine ⟨ys, fields?_eq_some.2 ⟨?_, hys⟩, hb⟩
    rcases hkind with ⟨l, rfl⟩ | ⟨l, rfl, hlength⟩
    · cases w with
      | object r => exact .inl ⟨r, rfl⟩
      | _ => cases hsame
    · cases w with
      | array r => exact .inr ⟨r, rfl, (show l.length = r.length from hsame) ▸ hlength⟩
      | _ => cases hsame
  fits {v a} hv := by
    rw [hread, Option.bind_eq_some_iff] at hv
    obtain ⟨xs, hxs, ha⟩ := hv
    change AllFit _ (givenFor _ v)
    rw [(fields?_eq_some.1 hxs).2]
    exact htake.fits ha
  single {v a} hv := by
    rw [hread, Option.bind_eq_some_iff] at hv
    obtain ⟨xs, hxs, ha⟩ := hv
    change ¬ AnyDoubled _ (givenFor _ v)
    rw [(fields?_eq_some.1 hxs).2]
    exact htake.single ha
  reordered {v w a} hv hr := by
    rw [hread, Option.bind_eq_some_iff] at hv
    obtain ⟨xs, hxs, ha⟩ := hv
    obtain ⟨ys, hys, hstep⟩ := hr.fields? hxs
    obtain ⟨halike, hfits⟩ := htake.reordered ha hstep
    rw [← (fields?_eq_some.1 hxs).2, ← (fields?_eq_some.1 hys).2] at halike
    rw [← (fields?_eq_some.1 hys).2] at hfits
    exact ⟨⟨hr.sameKind, halike⟩, hfits⟩

/-! ## Conditions -/

theorem IsReadBy.only {p : Json → Bool} {inner? : Json → Option α} (h : F.IsReadBy ok inner?)
    (hread : ∀ v a, read? v = some a ↔ p v = true ∧ inner? v = some a)
    (hp : ∀ {v w a}, read? v = some a → Reordered ok v w → p w = true) :
    (F.only p).IsReadBy ok read? where
  same {v w a} hv halike hfits := by
    obtain ⟨hpv, hv⟩ := (hread v a).1 hv
    exact (hread w a).2 ⟨halike.2 hpv, h.same hv halike.1 hfits⟩
  fits {v a} hv := h.fits ((hread v a).1 hv).2
  single {v a} hv := h.single ((hread v a).1 hv).2
  reordered {v _ a} hv hr :=
    have ⟨halike, hfits⟩ := h.reordered ((hread v a).1 hv).2 hr
    ⟨⟨halike, fun _ => hp hv hr⟩, hfits⟩

theorem IsReadBy.guarded {p : Json → Bool} {inner? : Json → Option α} (h : F.IsReadBy ok inner?)
    (hread : ∀ v a, read? v = some a ↔ p v = true ∧ inner? v = some a)
    (hp : ∀ {v w a}, read? v = some a → Reordered ok v w → p w = true) :
    (F.guarded p).IsReadBy ok read? where
  same {v w a} hv halike hfits :=
    (hread w a).2 ⟨hfits.2, h.same ((hread v a).1 hv).2 halike hfits.1⟩
  fits {v a} hv := ⟨h.fits ((hread v a).1 hv).2, ((hread v a).1 hv).1⟩
  single {v a} hv := h.single ((hread v a).1 hv).2
  reordered {v _ a} hv hr :=
    have ⟨halike, hfits⟩ := h.reordered ((hread v a).1 hv).2 hr
    ⟨halike, hfits, hp hv hr⟩

/-! ## Alternatives -/

theorem IsReadBy.never (F : Form) : F.IsReadBy ok fun _ => (none : Option α) :=
  ⟨nofun, nofun, nofun, nofun⟩

variable {tag : String} {kind? : Json → Option String} {room : Option Nat}
  {cases : String → List (Field × Form)}

/-- A reader of alternatives, by the readers of their cases. -/
theorem IsReadBy.tagged {case? : Json → String → Option α} (hkind : plain.IsReadBy ok kind?)
    (hcase : ∀ k, (Form.record (cases k)).IsReadBy ok (case? · k))
    (hread : ∀ v a, read? v = some a ↔ ∃ t c k, v.tagged? tag = some (t, c) ∧
      (∀ n ∈ room, c.held n = true) ∧ kind? t = some k ∧ case? c k = some a) :
    (tagged tag kind? room cases).IsReadBy ok read? where
  same {v w a} hv halike hfits := by
    rcases halike with rfl | ⟨t, c, t', c', hv', hw, hkinds, halike⟩
    · exact hv
    · obtain ⟨_, _, k, htag, -, hk, ha⟩ := (hread v a).1 hv
      cases hv'.symm.trans htag
      obtain ⟨hheld, hfits⟩ := hfits t' c' hw
      have hk' := hkinds.trans hk
      exact (hread w a).2 ⟨t', c', k, hw, hheld, hk',
        (hcase k).same ha (halike k hk) (hfits k hk')⟩
  fits {v a} hv t c htag := by
    obtain ⟨_, _, k, htag', hheld, hk, ha⟩ := (hread v a).1 hv
    cases htag.symm.trans htag'
    refine ⟨hheld, fun k' hk' => ?_⟩
    cases hk'.symm.trans hk
    exact (hcase k).fits ha
  single {v a} hv := by
    obtain ⟨t, c, k, htag, hheld, hk, ha⟩ := (hread v a).1 hv
    rintro (⟨l, rfl, htwo⟩ | ⟨_, _, _, htag', hk', hdoubled⟩)
    · rw [(tagged?_object_iff.1 htag).1] at htwo
      simp at htwo
    · cases htag.symm.trans htag'
      cases hk.symm.trans hk'
      exact (hcase k).single ha hdoubled
  reordered {v w a} hv hr := by
    obtain ⟨t, c, k, htag, hheld, hk, ha⟩ := (hread v a).1 hv
    obtain ⟨t', c', hw, htt', hcc'⟩ := hr.tagged? htag
    -- A tag has no members to reorder, so that the case is the same and its reader goes on.
    obtain rfl : t = t' := htt'.elim id fun h => (hkind.reordered hk h).1
    suffices hcontents : (Form.record (cases k)).alike c c' ∧ (Form.record (cases k)).fits c' ∧
        ∀ n ∈ room, c'.held n = true by
      refine ⟨.inr ⟨t, c, t, c', htag, hw, rfl, fun k' hk' => ?_⟩, fun _ _ hw' => ?_⟩
      · cases hk'.symm.trans hk
        exact hcontents.1
      · cases hw'.symm.trans hw
        refine ⟨hcontents.2.2, fun k' hk' => ?_⟩
        cases hk'.symm.trans hk
        exact hcontents.2.1
    rcases hcc' with rfl | hr'
    · exact ⟨alike_refl _ c, (hcase k).fits ha, hheld⟩
    · obtain ⟨halike, hfits⟩ := (hcase k).reordered ha hr'
      exact ⟨halike, hfits, fun n hn => hr'.held_eq n ▸ hheld n hn⟩

end Form

end FieldGateway.Json
