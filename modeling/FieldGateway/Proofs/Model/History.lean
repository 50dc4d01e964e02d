import FieldGateway.Proofs.Model.Blocks
import FieldGateway.Proofs.Model.Written
import Mathlib.Data.List.Induction

/-!
# The history of a model

A model grows from an empty one by nodes that are put in, values that are changed in them, report
control blocks that are added, and sequence numbers that are set. Nodes are searched for by their
references and constraints, blocks by their references alone, and neither search may come to
anything but what a change of the same reference comes to.

* `ServerModel.places_insertNode`: where a node goes that is put in.
* `ServerModel.findNode?_apply`: what one change does to what is found.
* `ServerModel.told_after`: what is found after a history.
* `ServerModel.designates_findIdx?`: looking up and changing a block come to the same one.
* `ServerModel.kept_of_history`: all of this for every history of a model.
-/

namespace FieldGateway

namespace Node

/-- What a node is found by. -/
def place (n : Node) : String × Constraint := (n.reference, n.constraint)

theorem isAt_iff_place {n : Node} {r : String} {c : Constraint} :
    n.isAt r c = true ↔ n.place = (r, c) := by
  rw [isAt_iff, place, Prod.mk.injEq]

end Node

namespace ServerModel

/-- What may happen to a model. -/
inductive Change where
  | insert (node : Node)
  /-- The values of a node are changed where it stands. -/
  | edit (reference : String) (constraint : Constraint)
    (f : Table String Value → Table String Value)
  | add (block : ControlBlock)
  | number (reference : String) (n : UInt32)

/-- The node with its values changed. -/
def Change.onValues (f : Table String Value → Table String Value) (n : Node) : Node :=
  { n with values := f n.values }

variable {m : ServerModel} {place : String × Constraint}

def apply (m : ServerModel) : Change → ServerModel
  | .insert node => m.insertNode node
  | .edit r c f => m.modifyNode r c (Change.onValues f)
  | .add block => m.addBlock block
  | .number r n => m.modifyBlock r fun b => { b with sequence := n }

/-- The model after a history. -/
def after (cs : List Change) : ServerModel := cs.foldl apply empty

namespace Change

def inserted? : Change → Option (String × Constraint)
  | .insert node => some node.place
  | _ => none

/-- The places of the nodes that were put in. -/
def inserted (cs : List Change) : List (String × Constraint) := cs.filterMap inserted?

/-- A node of a place after a change that puts no other one there. -/
def edited (place : String × Constraint) (n : Node) : Change → Node
  | .edit r c f => if (r, c) = place then onValues f n else n
  | _ => n

/-- What a history tells of a place: nothing if no node was put in there, and otherwise the node
that was put in last with all changes of its values since. -/
inductive Told (place : String × Constraint) : List Change → Option Node → Prop where
  | never {cs : List Change} (h : place ∉ inserted cs) : Told place cs none
  | last {before later : List Change} {node : Node} (hn : node.place = place)
      (h : place ∉ inserted later) :
      Told place (before ++ .insert node :: later) (some (later.foldl (edited place) node))

end Change

open Change

/-- The places of the nodes in order. -/
def places (m : ServerModel) : List (String × Constraint) := m.nodes.map Node.place

/-- The nodes of the other places in order. -/
def others (m : ServerModel) (place : String × Constraint) : List Node :=
  m.nodes.filter fun n => n.place ≠ place

/-- What a change is not about is as it was. -/
def Change.Spares (m m' : ServerModel) : Change → Prop
  | .insert node =>
    m'.others node.place = m.others node.place ∧ m'.buffered = m.buffered ∧
      m'.unbuffered = m.unbuffered
  | .edit r c _ =>
    m'.places = m.places ∧ m'.others (r, c) = m.others (r, c) ∧ m'.buffered = m.buffered ∧
      m'.unbuffered = m.unbuffered
  | .add b =>
    m'.nodes = m.nodes ∧ m.buffered <+: m'.buffered ∧ m.unbuffered <+: m'.unbuffered ∧
      m'.blocks.Perm (b :: m.blocks)
  | .number r n =>
    m'.nodes = m.nodes ∧ m'.buffered.length = m.buffered.length ∧
      m'.blocks.length = m.blocks.length ∧
      ∀ i b, m.blocks[i]? = some b →
        m'.blocks[i]? = some (if m.blocks.findIdx? (·.reference == r) = some i then
          { b with sequence := n } else b)

/-! ## Nodes -/

theorem mem_places_iff {r : String} {c : Constraint} :
    (r, c) ∈ m.places ↔ (m.findNode? r c).isSome := by
  simp [places, findNode?, Node.isAt_iff_place]

theorem place_onValues (f : Table String Value → Table String Value) (n : Node) :
    (onValues f n).place = n.place := rfl

/-- A node takes the position of the one that it replaces, or the last one. -/
theorem places_insertNode (m : ServerModel) (node : Node) :
    (m.insertNode node).places =
      if node.place ∈ m.places then m.places else m.places ++ [node.place] := by
  have hmem : node.place ∈ m.places ↔ (m.findNode? node.reference node.constraint).isSome :=
    mem_places_iff
  unfold insertNode
  simp only [hmem]
  split
  · exact map_modifyFirst (fun n hn => (Node.isAt_iff_place.1 hn).symm) m.nodes
  · simp [places]

theorem places_modifyNode (m : ServerModel) (r : String) (c : Constraint)
    (f : Table String Value → Table String Value) :
    (m.modifyNode r c (onValues f)).places = m.places :=
  map_modifyFirst (fun _ _ => place_onValues f _) m.nodes

theorem others_modifyNode {r : String} {c : Constraint} {f : Node → Node}
    (hf : ∀ n : Node, n.place = (r, c) → (f n).place = (r, c)) :
    (m.modifyNode r c f).others (r, c) = m.others (r, c) := by
  refine filter_modifyFirst (fun n hn => ?_) m.nodes
  have hplace := Node.isAt_iff_place.1 hn
  simp [hplace, hf n hplace]

theorem others_insertNode (m : ServerModel) (node : Node) :
    (m.insertNode node).others node.place = m.others node.place := by
  unfold insertNode
  split
  · exact others_modifyNode fun _ _ => rfl
  · simp [others]

theorem nodes_addBlock (m : ServerModel) (b : ControlBlock) : (m.addBlock b).nodes = m.nodes := by
  unfold addBlock
  split <;> rfl

theorem findNode?_congr {m m' : ServerModel} (h : m'.nodes = m.nodes) (r : String)
    (c : Constraint) : m'.findNode? r c = m.findNode? r c := by
  rw [findNode?, findNode?, h]

/-- A change puts a node at its place, or changes what stands at a place. -/
theorem findNode?_apply (m : ServerModel) (c : Change) (place : String × Constraint) :
    (m.apply c).findNode? place.1 place.2 =
      match c with
      | .insert node => if node.place = place then some node else m.findNode? place.1 place.2
      | c => (m.findNode? place.1 place.2).map fun n => edited place n c := by
  cases c with
  | insert node => simp [apply, findNode?_insertNode, Node.isAt_iff_place]
  | edit r k f =>
    rw [apply, findNode?_modifyNode m (f := onValues f) fun _ _ _ => rfl]
    by_cases h : (r, k) = place
    · subst h
      simp [edited]
    · have hne : ¬ (place.1 = r ∧ place.2 = k) := fun hp => h (Prod.ext hp.1.symm hp.2.symm)
      simp [edited, h, hne]
  | add b => simp [apply, edited, findNode?_congr (nodes_addBlock m b)]
  | number r n => simp [apply, edited, findNode?_congr (nodes_modifyBlock m r _)]

/-- Every change leaves alone what it is not about. -/
theorem spares_apply (m : ServerModel) (c : Change) : c.Spares m (m.apply c) := by
  cases c with
  | insert node =>
    refine ⟨others_insertNode m node, ?_, ?_⟩ <;>
    · simp only [apply, insertNode]
      split <;> rfl
  | edit r k f =>
    exact ⟨places_modifyNode m r k f, others_modifyNode fun n hn => (place_onValues f n).trans hn,
      rfl, rfl⟩
  | add b => exact ⟨nodes_addBlock m b, blocks_addBlock m b⟩
  | number r n =>
    refine ⟨nodes_modifyBlock m r _, length_buffered_modifyBlock m r _, ?_, fun i b hb => ?_⟩
    · rw [apply, blocks_modifyBlock, length_modifyFirst]
    · rw [apply, blocks_modifyBlock, getElem?_modifyFirst, hb, Option.map_some]

/-! ## Histories -/

theorem after_concat (cs : List Change) (c : Change) :
    after (cs ++ [c]) = (after cs).apply c := by
  simp [after]

theorem inserted_concat (cs : List Change) (c : Change) :
    inserted (cs ++ [c]) = inserted cs ++ (inserted? c).toList := by
  cases h : inserted? c <;> simp [inserted, h]

theorem places_apply (m : ServerModel) (c : Change) :
    (m.apply c).places =
      match inserted? c with
      | some place => if place ∈ m.places then m.places else m.places ++ [place]
      | none => m.places := by
  cases c with
  | insert node => exact places_insertNode m node
  | edit r k f => exact places_modifyNode m r k f
  | add b => exact congrArg (List.map Node.place) (nodes_addBlock m b)
  | number r n => exact congrArg (List.map Node.place) (nodes_modifyBlock m r _)

/-- The nodes stand in the order in which something was first put in at their places. -/
theorem places_after (cs : List Change) : (after cs).places = (inserted cs).eraseDups := by
  induction cs using List.reverseRecOn with
  | nil => rfl
  | append_singleton cs c ih =>
    rw [after_concat, places_apply, inserted_concat]
    cases inserted? c with
    | none => simpa using ih
    | some place =>
      simp only [Option.toList_some, eraseDups_concat, ih, List.mem_eraseDups]


/-- No place is taken twice. -/
theorem nodup_places_after (cs : List Change) : (after cs).places.Nodup := by
  induction cs using List.reverseRecOn with
  | nil => exact .nil
  | append_singleton cs c ih =>
    rw [after_concat, places_apply]
    split
    · split
      · exact ih
      · next h =>
        refine List.nodup_append.2 ⟨ih, List.pairwise_singleton _ _, fun a ha b hb => ?_⟩
        rw [List.mem_singleton.1 hb]
        exact fun hab => h (hab ▸ ha)
    · exact ih

theorem Change.Told.concat {cs : List Change} {n? : Option Node} (h : Told place cs n?)
    {c : Change} (hc : inserted? c ≠ some place) :
    Told place (cs ++ [c]) (n?.map fun n => edited place n c) := by
  have hnot {cs : List Change} (h : place ∉ inserted cs) : place ∉ inserted (cs ++ [c]) := by
    rw [inserted_concat]
    simp [h, hc]
  cases h with
  | never h => exact .never (hnot h)
  | @last before later node hn h =>
    have hlast : Told place (before ++ .insert node :: (later ++ [c]))
        (some ((later ++ [c]).foldl (edited place) node)) := .last hn (hnot h)
    simpa using hlast

/-- At every place the node is found that was put in last, as it was changed since. -/
theorem told_after (cs : List Change) (place : String × Constraint) :
    Told place cs ((after cs).findNode? place.1 place.2) := by
  induction cs using List.reverseRecOn with
  | nil => exact .never (by simp [inserted])
  | append_singleton cs c ih =>
    rw [after_concat, findNode?_apply]
    cases c with
    | insert node =>
      by_cases hn : node.place = place
      · have hlast : Told place (cs ++ [.insert node]) (some node) := .last hn List.not_mem_nil
        simpa [hn] using hlast
      · simpa [hn, edited] using ih.concat (c := .insert node) (by simpa [inserted?] using hn)
    | edit r k f => exact ih.concat (by simp [inserted?])
    | add b => exact ih.concat (by simp [inserted?])
    | number r n => exact ih.concat (by simp [inserted?])

/-- After every history of a model no two nodes share reference and constraint; the nodes stand in
the order in which something was first put in under theirs; under every reference and constraint the
node is found that was put in last, with all changes of its values since, and none where none was
put in; whatever happens next leaves the other nodes and blocks as they are; and looking up and
changing the block of a reference come to the same block, the first one of that reference. -/
theorem kept_of_history (cs : List Change) :
    let m := after cs
    m.places.Nodup ∧ m.places = (inserted cs).eraseDups ∧
      (∀ place : String × Constraint, Told place cs (m.findNode? place.1 place.2)) ∧
      (∀ c : Change, c.Spares m (m.apply c)) ∧
      ∀ reference, m.Designates reference (m.blocks.findIdx? (·.reference == reference)) :=
  ⟨nodup_places_after cs, places_after cs, told_after cs, spares_apply _, designates_findIdx? _⟩

end ServerModel

end FieldGateway
