import FieldGateway.Plant.Ied
import FieldGateway.Proofs.Lists
import FieldGateway.Proofs.Tables

/-!
# What a write changes

A node that is written is merged into the one that the device has, and a control value shows in the
status of the same object. Every value of the node is written, so that a value that has changed in
the meantime is lost unless it is the one that was to be written.

* `Node.get?_merge`: the values after a merge.
* `Ied.keptBy_written`: the nodes of a model after a write.
* `value?_written_self`, `value?_written_status`, `value?_written_of_ne`: every value of a model
  after a write.
* `onlyWritten_iff`: when a write with one value set changes that value alone.
-/

namespace FieldGateway

/-! ## Merging nodes -/

namespace Node

theorem get?_foldl_set {l : List (String × Value)}
    (h : l.Pairwise fun a b => compare a.1 b.1 = .lt) (n : Node) (path : String) :
    (l.foldl (fun n e => n.set e.1 e.2) n).get? path =
      (Table.valueIn? path l).or (n.get? path) := by
  induction l generalizing n with
  | nil => rfl
  | cons e r ih =>
    obtain ⟨k, v⟩ := e
    obtain ⟨hk, hr⟩ := List.pairwise_cons.1 h
    rw [List.foldl_cons, ih hr, Table.valueIn?]
    by_cases hp : path = k
    · subst hp
      rw [Table.valueIn?_eq_none hk]
      simp [Std.compare_self]
    · rw [if_neg fun hc => hp (Std.LawfulEqCmp.compare_eq_iff_eq.1 hc), get?_set_of_ne _ _ hp]

/-- After a merge the values of the second node stand before those of the first. -/
theorem get?_merge (n m : Node) (path : String) :
    (n.merge m).get? path = (m.get? path).or (n.get? path) :=
  get?_foldl_set m.values.ascending n path

theorem isAt_foldl_set (l : List (String × Value)) (n : Node) (r : String) (c : Constraint) :
    (l.foldl (fun n e => n.set e.1 e.2) n).isAt r c = n.isAt r c := by
  induction l generalizing n with
  | nil => rfl
  | cons e l ih => exact ih (n.set e.1 e.2)

theorem isAt_merge (n m : Node) (r : String) (c : Constraint) :
    (n.merge m).isAt r c = n.isAt r c := isAt_foldl_set _ n r c

theorem isAt_iff {n : Node} {r : String} {c : Constraint} :
    n.isAt r c = true ↔ n.reference = r ∧ n.constraint = c := by
  simp [isAt, and_comm]

/-! ## Nodes that a write keeps -/

section
variable {w n n' n'' : Node}

/-- A write of `w` carries a value for a path of the node `n`: one of its own, or the status that
mirrors its control value. -/
def Carries (w n : Node) (path : String) : Prop :=
  n.reference = w.reference ∧
    (n.constraint = w.constraint ∧ (w.get? path).isSome ∨
      w.constraint = .control ∧ (w.get? "Oper.ctlVal").isSome ∧ n.constraint = .status ∧
        path = "stVal")

/-- The node is the same but for values that a write of `w` carries. -/
structure KeptBy (w n n' : Node) : Prop where
  reference : n'.reference = n.reference
  constraint : n'.constraint = n.constraint
  values : ∀ path, n'.get? path ≠ n.get? path → w.Carries n path

theorem KeptBy.refl (w n : Node) : w.KeptBy n n := ⟨rfl, rfl, fun _ hne => absurd rfl hne⟩

theorem KeptBy.trans (h : w.KeptBy n n') (h' : w.KeptBy n' n'') : w.KeptBy n n'' := by
  refine ⟨h'.reference.trans h.reference, h'.constraint.trans h.constraint, fun path hne => ?_⟩
  by_cases hn : n'.get? path = n.get? path
  · have hcarries := h'.values path fun heq => hne (heq.trans hn)
    rwa [Carries, h.reference, h.constraint] at hcarries
  · exact h.values path hn

theorem keptBy_merge (h : n.isAt w.reference w.constraint = true) : w.KeptBy n (n.merge w) := by
  have hat : (n.merge w).isAt w.reference w.constraint = true := by rw [isAt_merge, h]
  obtain ⟨hr, hc⟩ := isAt_iff.1 h
  obtain ⟨hr', hc'⟩ := isAt_iff.1 hat
  refine ⟨hr'.trans hr.symm, hc'.trans hc.symm, fun path hne => ⟨hr, .inl ⟨hc, ?_⟩⟩⟩
  rw [get?_merge] at hne
  cases hw : w.get? path with
  | none => simp [hw] at hne
  | some v => rfl

theorem keptBy_mirror {v : Value} (hw : w.constraint = .control)
    (hv : w.get? "Oper.ctlVal" = some v) (h : n.isAt w.reference .status = true) :
    w.KeptBy n (n.set "stVal" v) := by
  obtain ⟨hr, hc⟩ := isAt_iff.1 h
  refine ⟨rfl, rfl, fun path hne => ⟨hr, .inr ⟨hw, by rw [hv]; rfl, hc, ?_⟩⟩⟩
  exact Decidable.byContradiction fun hp => hne (get?_set_of_ne n v hp)

end

end Node

namespace ServerModel

/-! ## Changing a node of a model -/

theorem isAt_of_findNode? {m : ServerModel} {r : String} {c : Constraint} {n : Node}
    (h : m.findNode? r c = some n) : n.reference = r ∧ n.constraint = c := by
  have hat := List.find?_some h
  exact Node.isAt_iff.1 hat

/-- A change that keeps reference and constraint is seen in its node and nowhere else. -/
theorem findNode?_modifyNode (m : ServerModel) {f : Node → Node}
    (hf : ∀ n r c, (f n).isAt r c = n.isAt r c) (r r' : String) (c c' : Constraint) :
    (m.modifyNode r c f).findNode? r' c' =
      if r' = r ∧ c' = c then (m.findNode? r' c').map f else m.findNode? r' c' := by
  split
  · next h =>
    obtain ⟨rfl, rfl⟩ := h
    exact find?_modifyFirst_self (fun n hn => (hf n _ _).trans hn) m.nodes
  · next h =>
    have hne : ∀ n : Node, n.isAt r c = true → n.isAt r' c' = false := by
      intro n hn
      obtain ⟨rfl, rfl⟩ := Node.isAt_iff.1 hn
      simp only [Node.isAt, Bool.and_eq_false_iff, beq_eq_false_iff_ne]
      exact Decidable.or_iff_not_imp_left.2 fun hc hr => h ⟨hr.symm, (Decidable.not_not.1 hc).symm⟩
    exact find?_modifyFirst_of_disjoint (fun n hn => (hf n _ _).trans (hne n hn)) hne m.nodes

/-- The value under a path of a node. -/
def value? (m : ServerModel) (reference : String) (constraint : Constraint) (path : String) :
    Option Value := (m.findNode? reference constraint).bind (·.get? path)

/-- The models have the same nodes and report control blocks, and the same values but for one that
was written, and the status of a control value that was. -/
structure OnlyWritten (m m' : ServerModel) (reference : String) (constraint : Constraint)
    (path : String) : Prop where
  /-- The buffered report control blocks are the same. -/
  buffered : m'.buffered = m.buffered
  /-- The unbuffered report control blocks are the same. -/
  unbuffered : m'.unbuffered = m.unbuffered
  /-- The nodes are the same. -/
  nodes : ∀ r c, (m'.findNode? r c).isSome = (m.findNode? r c).isSome
  /-- The values are the same but for those. -/
  values : ∀ r c q, m'.value? r c q ≠ m.value? r c q →
    r = reference ∧ c = constraint ∧ q = path ∨
      constraint = .control ∧ path = "Oper.ctlVal" ∧ r = reference ∧ c = .status ∧ q = "stVal"

/-- A device still has the values of a node but for one, and where the node has a control value that
is not this one, still shows it in the status. -/
structure Keeps (m : ServerModel) (node : Node) (path : String) : Prop where
  /-- It has the other values. -/
  values : ∀ q v, q ≠ path → node.get? q = some v →
    m.value? node.reference node.constraint q = some v
  /-- It shows the control value. -/
  status : node.constraint = .control → path ≠ "Oper.ctlVal" →
    (m.findNode? node.reference .status).isSome → ∀ v, node.get? "Oper.ctlVal" = some v →
      m.value? node.reference .status "stVal" = some v

end ServerModel

namespace Ied

open ServerModel

variable {m : ServerModel} {node : Node}

/-! ## Values after a write -/

theorem findNode?_reflect (m : ServerModel) (node : Node) (r : String) (c : Constraint) :
    (reflect m node).findNode? r c =
      match node.constraint, node.get? "Oper.ctlVal" with
      | .control, some v =>
        if r = node.reference ∧ c = .status then (m.findNode? r c).map (·.set "stVal" v)
        else m.findNode? r c
      | _, _ => m.findNode? r c := by
  unfold reflect
  cases node.get? "Oper.ctlVal" with
  | none => cases node.constraint <;> rfl
  | some v =>
    cases node.constraint with
    | control => exact findNode?_modifyNode m (f := (·.set "stVal" v)) (fun _ _ _ => rfl) _ _ _ _
    | _ => rfl

theorem findNode?_merged (m : ServerModel) (node : Node) (r : String) (c : Constraint) :
    (m.modifyNode node.reference node.constraint fun n => n.merge node).findNode? r c =
      if r = node.reference ∧ c = node.constraint then (m.findNode? r c).map (·.merge node)
      else m.findNode? r c :=
  findNode?_modifyNode m (fun n => Node.isAt_merge n node) _ _ _ _

/-- A write adds no node and drops none. -/
theorem isSome_findNode?_written (m : ServerModel) (node : Node) (r : String) (c : Constraint) :
    ((written m node).findNode? r c).isSome = (m.findNode? r c).isSome := by
  rw [written, findNode?_reflect]
  split
  · split <;> simp only [findNode?_merged] <;> split <;> simp
  · rw [findNode?_merged]
    split <;> simp

theorem findNode?_written_self (m : ServerModel) (node : Node) :
    (written m node).findNode? node.reference node.constraint =
      (m.findNode? node.reference node.constraint).map (·.merge node) := by
  rw [written, findNode?_reflect, findNode?_merged]
  split
  · next hc _ => simp [hc]
  · simp

/-- Of the node that is written, the values that are written, and the others as they were. -/
theorem value?_written_self (node : Node)
    (hm : (m.findNode? node.reference node.constraint).isSome) (path : String) :
    (written m node).value? node.reference node.constraint path =
      (node.get? path).or (m.value? node.reference node.constraint path) := by
  obtain ⟨n, hn⟩ := Option.isSome_iff_exists.1 hm
  simp [value?, findNode?_written_self, hn, Node.get?_merge]

/-- A control value shows in the status. -/
theorem value?_written_status (node : Node) {v : Value} (hc : node.constraint = .control)
    (hv : node.get? "Oper.ctlVal" = some v)
    (hm : (m.findNode? node.reference .status).isSome) :
    (written m node).value? node.reference .status "stVal" = some v := by
  obtain ⟨n, hn⟩ := Option.isSome_iff_exists.1 hm
  rw [value?, written, findNode?_reflect, findNode?_merged]
  simp [hc, hv, hn]

/-- All other values are as they were. -/
theorem value?_written_of_ne {r path : String} {c : Constraint}
    (hne : ¬ (r = node.reference ∧ c = node.constraint))
    (hst : ¬ (node.constraint = .control ∧ (node.get? "Oper.ctlVal").isSome ∧
      r = node.reference ∧ c = .status ∧ path = "stVal")) :
    (written m node).value? r c path = m.value? r c path := by
  rw [value?, written, findNode?_reflect, findNode?_merged, if_neg hne]
  split
  · next hc hv =>
    split
    · next h =>
      have hp : path ≠ "stVal" := fun hp => hst ⟨hc, by simp [hv], h.1, h.2, hp⟩
      cases hn : m.findNode? r c with
      | none => simp [value?, hn]
      | some n => simp [value?, hn, Node.get?_set_of_ne n _ hp]
    · rfl
  · rfl

theorem buffered_written (m : ServerModel) (node : Node) :
    (written m node).buffered = m.buffered := by
  unfold written reflect
  split <;> rfl

theorem unbuffered_written (m : ServerModel) (node : Node) :
    (written m node).unbuffered = m.unbuffered := by
  unfold written reflect
  split <;> rfl

/-- What a write carries is all that it changes in the nodes of a model. -/
theorem keptBy_written (m : ServerModel) (node : Node) :
    List.Forall₂ node.KeptBy m.nodes (written m node).nodes := by
  have hmerged : List.Forall₂ node.KeptBy m.nodes
      (m.modifyNode node.reference node.constraint fun n => n.merge node).nodes :=
    forall₂_modifyFirst (Node.KeptBy.refl node) (fun n hn => Node.keptBy_merge hn) m.nodes
  unfold written reflect
  split
  · next v hcontrol hv =>
    refine forall₂_trans (r := node.KeptBy) Node.KeptBy.trans hmerged ?_
    exact forall₂_modifyFirst (Node.KeptBy.refl node)
      (fun n hn => Node.keptBy_mirror hcontrol hv hn) _
  · exact hmerged

/-! ## Writes of a single value -/

section
variable {path : String} {value : Value}

theorem value?_written_absent {r : String} {c : Constraint} (h : m.findNode? r c = none)
    (q : String) : (written m node).value? r c q = m.value? r c q := by
  have hstill : (written m node).findNode? r c = none := by
    rw [← Option.not_isSome_iff_eq_none, isSome_findNode?_written, h]
    simp
  rw [value?, value?, h, hstill]

/-- The other values of the node are written as well. -/
theorem value?_written_set (hm : (m.findNode? node.reference node.constraint).isSome) {q : String}
    (hq : q ≠ path) :
    (written m (node.set path value)).value? node.reference node.constraint q =
      (node.get? q).or (m.value? node.reference node.constraint q) := by
  rw [← Node.get?_set_of_ne node value hq]
  exact value?_written_self (node.set path value) hm q

theorem value?_written_set_status {v : Value} (hc : node.constraint = .control)
    (hp : path ≠ "Oper.ctlVal") (hs : (m.findNode? node.reference .status).isSome)
    (hv : node.get? "Oper.ctlVal" = some v) :
    (written m (node.set path value)).value? node.reference .status "stVal" = some v := by
  refine value?_written_status (node.set path value) hc ?_ hs
  rw [Node.get?_set_of_ne node value (Ne.symm hp), hv]

/-- What is written unchanged was there before. -/
theorem keeps_of_onlyWritten (hm : (m.findNode? node.reference node.constraint).isSome)
    (h : OnlyWritten m (written m (node.set path value)) node.reference node.constraint path) :
    m.Keeps node path := by
  refine ⟨fun q v hq hv => ?_, fun hc hp hs v hv => ?_⟩
  · by_cases he : (written m (node.set path value)).value? node.reference node.constraint q =
        m.value? node.reference node.constraint q
    · rw [← he, value?_written_set hm hq, hv]
      rfl
    · rcases h.values _ _ _ he with ⟨-, -, rfl⟩ | ⟨hc, -, -, hs, -⟩
      · exact absurd rfl hq
      · rw [hc] at hs
        cases hs
  · by_cases he : (written m (node.set path value)).value? node.reference .status "stVal" =
        m.value? node.reference .status "stVal"
    · rw [← he, value?_written_set_status hc hp hs hv]
    · rcases h.values _ _ _ he with ⟨-, hs, -⟩ | ⟨-, rfl, -⟩
      · rw [hc] at hs
        cases hs
      · exact absurd rfl hp

theorem onlyWritten_of_keeps (hm : (m.findNode? node.reference node.constraint).isSome)
    (h : m.Keeps node path) :
    OnlyWritten m (written m (node.set path value)) node.reference node.constraint path := by
  refine ⟨buffered_written _ _, unbuffered_written _ _, isSome_findNode?_written _ _,
    fun r c q hne => ?_⟩
  by_cases hat : r = node.reference ∧ c = node.constraint
  · -- A value of the node itself.
    obtain ⟨rfl, rfl⟩ := hat
    by_cases hq : q = path
    · exact .inl ⟨rfl, rfl, hq⟩
    · rw [value?_written_set hm hq] at hne
      cases hv : node.get? q with
      | none => simp [hv] at hne
      | some v => simp [hv, h.values q v hq hv] at hne
  · -- A value of another node; only the status can change.
    refine Decidable.byContradiction fun hno => hne (value?_written_of_ne hat ?_)
    rintro ⟨hc, hv, rfl, rfl, rfl⟩
    have hc : node.constraint = .control := hc
    have hp : path ≠ "Oper.ctlVal" := fun hp => hno (.inr ⟨hc, hp, rfl, rfl, rfl⟩)
    rw [Node.get?_set_of_ne node value (Ne.symm hp)] at hv
    obtain ⟨v, hv⟩ := Option.isSome_iff_exists.1 hv
    cases hs : m.findNode? node.reference .status with
    | none => exact hne (value?_written_absent hs _)
    | some n =>
      have hs : (m.findNode? node.reference .status).isSome := by rw [hs]; rfl
      have hw : (written m (node.set path value)).value? node.reference .status "stVal" = some v :=
        value?_written_set_status hc hp hs hv
      exact hne (hw.trans (h.status hc hp hs v hv).symm)

/-- A node that is written with one value set changes that value alone just if the device still has
all its other values, and still shows its control value in the status. -/
theorem onlyWritten_iff (hm : (m.findNode? node.reference node.constraint).isSome) :
    OnlyWritten m (written m (node.set path value)) node.reference node.constraint path ↔
      m.Keeps node path := ⟨keeps_of_onlyWritten hm, onlyWritten_of_keeps hm⟩

end

end Ied

end FieldGateway
