import FieldGateway.Address.Constraint
import FieldGateway.Model.Value
import FieldGateway.Table

/-!
# Nodes

A node is one data object under one functional constraint. Its values stand under their paths inside
the object, as in `mag.f` or `Oper.ctlVal`, in the order of the paths.
-/

namespace FieldGateway

/-- A data object under a functional constraint. -/
structure Node where
  reference : String
  constraint : Constraint
  values : Table String Value
deriving DecidableEq, Repr, Inhabited

namespace Node

def bare (reference : String) (constraint : Constraint) : Node := ⟨reference, constraint, .empty⟩

def ofList (reference : String) (constraint : Constraint) (values : List (String × Value)) : Node :=
  ⟨reference, constraint, .ofList values⟩

def get? (n : Node) (path : String) : Option Value := n.values.find? path

def set (n : Node) (path : String) (value : Value) : Node :=
  { n with values := n.values.insert path value }

/-- The node with all values of another one. -/
def merge (n m : Node) : Node :=
  m.values.entries.foldl (fun n e => n.set e.1 e.2) n

/-- Whether the node is the object of a reference under a constraint. -/
def isAt (n : Node) (reference : String) (constraint : Constraint) : Bool :=
  n.constraint == constraint && n.reference == reference

/-- The last part of the reference. -/
def name (n : Node) : String :=
  String.ofList (n.reference.toList.reverse.takeWhile fun c => c != '.' && c != '/').reverse

@[simp] theorem get?_set_self (n : Node) (path : String) (v : Value) :
    (n.set path v).get? path = some v := by
  simp [get?, set]

theorem get?_set_of_ne (n : Node) {p q : String} (v : Value) (h : p ≠ q) :
    (n.set q v).get? p = n.get? p := by
  simp [get?, set, Table.find?_insert_of_ne _ _ h]

end Node

end FieldGateway
