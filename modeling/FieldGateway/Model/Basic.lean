import FieldGateway.Model.Node

/-!
# Server models

What a device offers: its nodes, and the report control blocks by which it can be made to report
changes of them. A device keeps the reports of a buffered block while nobody listens.

* `findNode?_insertNode`: what is found after a node was put in.
-/

namespace FieldGateway

/-- A report that a device can be made to send. -/
structure ControlBlock where
  reference : String
  /-- Whether reports are kept while nobody listens. -/
  buffered : Bool
  enabled : Bool
  /-- The sequence number of the next report. -/
  sequence : UInt32
deriving DecidableEq, Repr, Inhabited

/-- A block as a device has it at first. -/
def ControlBlock.fresh (reference : String) (buffered : Bool) : ControlBlock :=
  ⟨reference, buffered, false, 0⟩

/-- The list with its first element that satisfies `p` changed by `f`. -/
def modifyFirst {α : Type} (p : α → Bool) (f : α → α) : List α → List α
  | [] => []
  | a :: r => if p a then f a :: r else a :: modifyFirst p f r

structure ServerModel where
  /-- The nodes, in the order in which they came. -/
  nodes : List Node
  buffered : List ControlBlock
  unbuffered : List ControlBlock
deriving DecidableEq, Repr, Inhabited

namespace ServerModel

def empty : ServerModel := ⟨[], [], []⟩

def findNode? (m : ServerModel) (reference : String) (constraint : Constraint) : Option Node :=
  m.nodes.find? (·.isAt reference constraint)

/-- The model with the node of a reference under a constraint changed by `f`. -/
def modifyNode (m : ServerModel) (reference : String) (constraint : Constraint)
    (f : Node → Node) : ServerModel :=
  { m with nodes := modifyFirst (·.isAt reference constraint) f m.nodes }

/-- The model with a node, in place of the one of its reference and constraint. -/
def insertNode (m : ServerModel) (node : Node) : ServerModel :=
  if (m.findNode? node.reference node.constraint).isSome then
    m.modifyNode node.reference node.constraint fun _ => node
  else { m with nodes := m.nodes ++ [node] }

def addBlock (m : ServerModel) (b : ControlBlock) : ServerModel :=
  if b.buffered then { m with buffered := m.buffered ++ [b] }
  else { m with unbuffered := m.unbuffered ++ [b] }

/-- The report control blocks, the buffered ones first. -/
def blocks (m : ServerModel) : List ControlBlock := m.buffered ++ m.unbuffered

def buffered? (m : ServerModel) (reference : String) : Option ControlBlock :=
  m.buffered.find? (·.reference == reference)

def unbuffered? (m : ServerModel) (reference : String) : Option ControlBlock :=
  m.unbuffered.find? (·.reference == reference)

/-- The block of a reference; a buffered one goes before an unbuffered one. -/
def block? (m : ServerModel) (reference : String) : Option ControlBlock :=
  (m.buffered? reference).or (m.unbuffered? reference)

/-- The model with the block of a reference changed by `f`. -/
def modifyBlock (m : ServerModel) (reference : String) (f : ControlBlock → ControlBlock) :
    ServerModel :=
  if (m.buffered? reference).isSome then
    { m with buffered := modifyFirst (·.reference == reference) f m.buffered }
  else { m with unbuffered := modifyFirst (·.reference == reference) f m.unbuffered }

theorem block?_eq_find? (m : ServerModel) (reference : String) :
    m.block? reference = m.blocks.find? (·.reference == reference) := by
  simp [block?, blocks, buffered?, unbuffered?, List.find?_append]

end ServerModel

/-- A change that keeps `p` is seen where `p` is looked for. -/
theorem find?_modifyFirst_self {α : Type} {p : α → Bool} {f : α → α}
    (h : ∀ a, p a = true → p (f a) = true) (l : List α) :
    (modifyFirst p f l).find? p = (l.find? p).map f := by
  induction l with
  | nil => rfl
  | cons a r ih => by_cases ha : p a = true <;> simp [modifyFirst, ha, h, ih]

/-- A change of what satisfies `p` is not seen where something else is looked for. -/
theorem find?_modifyFirst_of_disjoint {α : Type} {p q : α → Bool} {f : α → α}
    (hf : ∀ a, p a = true → q (f a) = false) (hp : ∀ a, p a = true → q a = false)
    (l : List α) : (modifyFirst p f l).find? q = l.find? q := by
  induction l with
  | nil => rfl
  | cons a r ih =>
    by_cases ha : p a = true
    · simp [modifyFirst, ha, hf, hp]
    · simp only [modifyFirst, ha, Bool.false_eq_true, if_false, List.find?_cons, ih]

namespace ServerModel

/-- What is found after a node was put in: the node itself under its own reference and constraint,
and elsewhere what was found before. -/
theorem findNode?_insertNode (m : ServerModel) (n : Node) (r : String) (c : Constraint) :
    (m.insertNode n).findNode? r c = if n.isAt r c then some n else m.findNode? r c := by
  unfold insertNode
  split
  · next h =>
    split
    · next hn =>
      obtain ⟨rfl, rfl⟩ : n.constraint = c ∧ n.reference = r := by simpa [Node.isAt] using hn
      refine (find?_modifyFirst_self (f := fun _ => n) (fun _ _ => hn) m.nodes).trans ?_
      obtain ⟨a, ha⟩ := Option.isSome_iff_exists.mp h
      exact congrArg (Option.map fun _ => n) ha
    · next hn =>
      refine find?_modifyFirst_of_disjoint (fun _ _ => by simpa using hn) (fun a ha => ?_) m.nodes
      simp only [Node.isAt, Bool.and_eq_true, beq_iff_eq] at ha hn
      simpa [Node.isAt, ha.1, ha.2] using hn
  · next h =>
    rw [findNode?, List.find?_append]
    split
    · next hn =>
      obtain ⟨rfl, rfl⟩ : n.constraint = c ∧ n.reference = r := by simpa [Node.isAt] using hn
      have : m.nodes.find? (·.isAt n.reference n.constraint) = none :=
        Option.not_isSome_iff_eq_none.mp h
      rw [this, Option.none_or, List.find?_singleton, if_pos hn]
    · next hn => simp [hn, findNode?]

end ServerModel

end FieldGateway
