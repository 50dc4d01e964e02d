import FieldGateway.Json.Fields
import FieldGateway.Table

/-!
# What is read of JSON values that were written

Scalars, sequences, records and tagged alternatives, as far as they do not depend on what is
written. A float that is infinite or no number is written as `null`, which is no number again.

* `Json.slots?_of_names`, `Json.fields?_object`: a record gives the values of its fields.
* `Json.list?_ofList`: a sequence is read again if all its items are.
* `Json.tagged?_object`: an alternative gives its tag and its contents.
* `Json.held_object`, `Json.held_ofList`: how deep what was written nests.
* `Table.ofList_entries`: a table is made again of its entries.
-/

namespace FieldGateway

namespace Json

variable {α : Type}

/-! ## Scalars -/

@[simp] theorem string?_string (s : String) : (string s).string? = some s := rfl

@[simp] theorem bool?_bool (b : Bool) : (bool b).bool? = some b := rfl

theorem within?_int {low high n : Int} (hl : low ≤ n) (hh : n < high) :
    (int n).within? low high = some n := if_pos ⟨hl, hh⟩

@[simp] theorem uint8?_toNat (n : UInt8) : (int n.toNat).uint8? = some n := by
  have hn : (n.toNat : Int) < UInt8.size := Int.ofNat_lt.2 n.toNat_lt
  rw [uint8?, within?_int (Int.natCast_nonneg _) hn, Option.map_some, Int.toNat_natCast,
    UInt8.ofNat_toNat]

@[simp] theorem uint32?_toNat (n : UInt32) : (int n.toNat).uint32? = some n := by
  have hn : (n.toNat : Int) < UInt32.size := Int.ofNat_lt.2 n.toNat_lt
  rw [uint32?, within?_int (Int.natCast_nonneg _) hn, Option.map_some, Int.toNat_natCast,
    UInt32.ofNat_toNat]

@[simp] theorem int32?_toInt (n : Int32) : (int n.toInt).int32? = some n := by
  have hl : -0x80000000 ≤ n.toInt := n.le_toInt
  have hh : n.toInt < 0x80000000 := n.toInt_lt
  rw [int32?, within?_int hl hh, Option.map_some, Int32.ofInt_toInt]

@[simp] theorem int64?_toInt (n : Int64) : (int n.toInt).int64? = some n := by
  have hl : -0x8000000000000000 ≤ n.toInt := n.le_toInt
  have hh : n.toInt < 0x8000000000000000 := n.toInt_lt
  rw [int64?, within?_int hl hh, Option.map_some, Int64.ofInt_toInt]

@[simp] theorem float?_ofFloat (x : Float) :
    (ofFloat x).float? = if x.isFinite then some x else none := by
  unfold ofFloat
  split <;> rfl

/-! ## Fields -/

@[simp] theorem required?_some (read? : Json → Option α) (v : Json) :
    required? read? (some v) = read? v := rfl

@[simp] theorem default?_some (read? : Json → Option α) (a : α) (v : Json) :
    default? read? a (some v) = read? v := rfl

@[simp] theorem optional?_string (s : Option String) :
    optional? string? (some (ofOption string s)) = some s := by
  cases s <;> rfl

@[simp] theorem optional?_uint8 (n : Option UInt8) :
    optional? uint8? (some (ofOption (fun n : UInt8 => int n.toNat) n)) = some n := by
  cases n with
  | none => rfl
  | some n => simp [ofOption, optional?]

/-- A sequence is read again if all its items are. -/
theorem list?_ofList {write : α → Json} {read? : Json → Option α} {good : α → Bool}
    (h : ∀ a, read? (write a) = if good a then some a else none) (l : List α) :
    (ofList write l).list? read? = if l.all good then some l else none := by
  simp only [ofList, list?]
  induction l with
  | nil => rfl
  | cons a l ih =>
    rw [List.map_cons, List.mapM_cons, h, ih, List.all_cons]
    cases good a <;> cases l.all good <;> rfl

theorem list?_ofList_of {write : α → Json} {read? : Json → Option α}
    (h : ∀ a, read? (write a) = some a) (l : List α) :
    (ofList write l).list? read? = some l := by
  have hgood : ∀ a, read? (write a) = if (fun _ => true) a then some a else none := h
  rw [list?_ofList hgood, if_pos (List.all_eq_true.2 fun _ _ => rfl)]

/-! ## Records -/

theorem isNamed_self (f : Field) : f.isNamed f.name = true := by simp [Field.isNamed]

theorem given_cons_of_not {f : Field} {m : String × Json} {members : List (String × Json)}
    (h : f.isNamed m.1 = false) : given f (m :: members) = given f members := by
  simp [given, h]

theorem mapM_of_map {β γ : Type} {f : β → Option γ} {l : List β} {cs : List γ}
    (h : l.map f = cs.map some) : l.mapM f = some cs := by
  induction l generalizing cs with
  | nil =>
    obtain rfl : cs = [] := List.map_eq_nil_iff.1 h.symm
    rfl
  | cons b l ih =>
    obtain ⟨c, cs, rfl, hc, hcs⟩ := List.map_eq_cons_iff.1 h.symm
    rw [List.mapM_cons, ← hc, ih hcs.symm]
    rfl

/-- Members that give the fields of a record one by one, if no two fields go by one name. -/
theorem slots?_of_names {fs : List Field} {members : List (String × Json)}
    (hnames : members.map (·.1) = fs.map (·.name))
    (hapart : fs.Pairwise fun f g => f.isNamed g.name = false ∧ g.isNamed f.name = false) :
    slots? fs members = some (members.map fun m => some m.2) := by
  refine mapM_of_map ?_
  rw [List.map_map]
  induction fs generalizing members with
  | nil =>
    obtain rfl : members = [] := List.map_eq_nil_iff.1 hnames
    rfl
  | cons f fs ih =>
    obtain ⟨m, ms, rfl, hm, hms⟩ := List.map_eq_cons_iff.1 hnames
    obtain ⟨hf, hfs⟩ := List.pairwise_cons.1 hapart
    have hothers : ∀ n ∈ ms, f.isNamed n.1 = false := by
      intro n hn
      have hname : n.1 ∈ fs.map (·.name) := hms ▸ List.mem_map_of_mem hn
      obtain ⟨g, hg, hgn⟩ := List.mem_map.1 hname
      rw [← hgn]
      exact (hf g hg).1
    have hown : slot? f ([m] ++ ms) = some (some m.2) := by
      rw [slot?_append f hothers]
      simp [slot?, given, hm, isNamed_self]
    have hrest : fs.map (slot? · (m :: ms)) = fs.map (slot? · ms) := by
      refine List.map_congr_left fun g hg => ?_
      have hskip : g.isNamed m.1 = false := by
        rw [hm]
        exact (hf g hg).2
      unfold slot?
      rw [given_cons_of_not hskip]
    rw [List.singleton_append] at hown
    rw [List.map_cons, List.map_cons, hrest, ih hms hfs, hown]
    rfl

/-- A record that was written gives the values of its fields. -/
theorem fields?_object {fs : List Field} {members : List (String × Json)}
    (hnames : members.map (·.1) = fs.map (·.name))
    (hapart : fs.Pairwise fun f g => f.isNamed g.name = false ∧ g.isNamed f.name = false) :
    fields? fs (.object members) = some (members.map fun m => some m.2) :=
  slots?_of_names hnames hapart

/-- Members that no field takes may stand behind. -/
theorem slots?_append {fs : List Field} {l r : List (String × Json)}
    (h : ∀ f ∈ fs, ∀ m ∈ r, f.isNamed m.1 = false) : slots? fs (l ++ r) = slots? fs l := by
  unfold slots?
  induction fs with
  | nil => rfl
  | cons f fs ih =>
    rw [List.mapM_cons, List.mapM_cons, slot?_append f (h f List.mem_cons_self),
      ih fun g hg => h g (List.mem_cons_of_mem _ hg)]

theorem slots?_append_comm (fs : List Field) (l r : List (String × Json)) :
    slots? fs (l ++ r) = slots? fs (r ++ l) := by
  have hslot : (slot? · (l ++ r)) = (slot? · (r ++ l)) :=
    funext fun f => slot?_perm f List.perm_append_comm
  unfold slots?
  rw [hslot]

/-! ## Alternatives -/

/-- An alternative that was written gives its tag and its contents. -/
theorem tagged?_object {tag : String} {t : Json} {members : List (String × Json)}
    (h : ∀ m ∈ members, m.1 ≠ tag) :
    tagged? tag (.object ((tag, t) :: members)) = some (t, .object members) := by
  have hslot : slot? tag ([(tag, t)] ++ members) = slot? tag [(tag, t)] :=
    slot?_append _ fun m hm => by simpa [Field.isNamed] using (h m hm).symm
  have hfilter : members.filter (fun m => m.1 != tag) = members :=
    List.filter_eq_self.2 fun m hm => by simpa using h m hm
  rw [List.singleton_append] at hslot
  simp only [tagged?, hslot]
  simp [slot?, given, Field.isNamed, hfilter]

/-! ## Depth -/

/-- A check that is passed is of no further matter. -/
theorem guard_bind {b : Bool} (h : b = true) (next : Unit → Option α) :
    (guard b >>= next) = next () := by
  subst h
  rfl

@[simp] theorem held_object (room : Nat) (members : List (String × Json)) :
    held (room + 1) (.object members) = heldMembers room members := by
  simp [held]

@[simp] theorem held_ofList {α : Type} (room : Nat) (write : α → Json) (l : List α) :
    held (room + 1) (ofList write l) = l.all fun a => held room (write a) := by
  simp only [held, ofList, Nat.zero_lt_succ, decide_true, Bool.true_and, Nat.add_sub_cancel]
  induction l with
  | nil => rfl
  | cons a l ih => rw [List.map_cons, heldItems, ih, List.all_cons]

@[simp] theorem held_ofOption_int (room : Nat) (o : Option UInt8) :
    held room (ofOption (fun n : UInt8 => int n.toNat) o) = true := by
  cases o <;> simp [ofOption, held]

@[simp] theorem held_ofFloat (room : Nat) (x : Float) : held room (ofFloat x) = true := by
  unfold ofFloat
  split <;> simp [held]

end Json

namespace Table

variable {κ ν : Type} [Ord κ] [Std.TransOrd κ] [Std.LawfulEqOrd κ]

omit [Std.LawfulEqOrd κ] in
theorem insertEntry_last {k : κ} {v : ν} {l : List (κ × ν)}
    (h : ∀ e ∈ l, compare e.1 k = .lt) : insertEntry k v l = l ++ [(k, v)] := by
  induction l with
  | nil => rfl
  | cons e l ih =>
    obtain ⟨j, w⟩ := e
    have hgt : compare k j = .gt := Std.OrientedCmp.gt_of_lt (h (j, w) List.mem_cons_self)
    simp only [insertEntry, hgt, List.cons_append]
    rw [ih fun e he => h e (List.mem_cons_of_mem _ he)]

/-- A table is made again of its entries. -/
theorem ofList_entries (t : Table κ ν) : ofList t.entries = t := by
  suffices hall : ∀ (l : List (κ × ν)) (s : Table κ ν),
      (s.entries ++ l).Pairwise (fun a b => compare a.1 b.1 = .lt) →
      (l.foldl (fun t e => t.insert e.1 e.2) s).entries = s.entries ++ l from
    ext (hall t.entries empty t.ascending)
  intro l
  induction l with
  | nil => intro s _; simp
  | cons e l ih =>
    intro s hs
    have hlast : (s.insert e.1 e.2).entries = s.entries ++ [e] :=
      insertEntry_last fun f hf => (List.pairwise_append.1 hs).2.2 f hf e List.mem_cons_self
    rw [List.foldl_cons, ih (s.insert e.1 e.2), hlast, List.append_assoc, List.singleton_append]
    rwa [hlast, List.append_assoc, List.singleton_append]

end Table

end FieldGateway
