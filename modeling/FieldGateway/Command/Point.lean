import FieldGateway.Address.Reference
import FieldGateway.Model.Node
import FieldGateway.Outcome.Basic

/-!
# Points

A point says where a value of a system is found in the device: logical node, constraint, path, and
how the value is written there. It is read as a measurement, with its quality bits and its time if
the device gives them.
-/

namespace FieldGateway

/-- How a number is written as a value. -/
inductive Encoding where
  /-- As "not 0". -/
  | bool
  /-- As the nearest integer; a half goes away from 0. -/
  | int
  /-- As it is. -/
  | float
deriving DecidableEq, Repr, Inhabited

def Encoding.encode : Encoding → Float → Value
  | .bool, x => .bool (x != 0.0)
  | .int, x => .int x.round.toInt64
  | .float, x => .float x

def Encoding.ofJson? : Json → Option Encoding :=
  Json.choice? .text [("bool", .bool), ("int", .int), ("float", .float)]

/-- Where a value of a system is found. -/
structure Point where
  attr : Attribute
  index : Option UInt8
  logicalNode : String
  constraint : Constraint
  /-- The path of the value in the node. -/
  path : String
  encoding : Encoding
  writable : Bool
deriving DecidableEq, Repr, Inhabited

namespace Point

/-- A status value of the device as a whole. -/
def status (attr : Attribute) : Point := ⟨attr, none, "LLN0", .status, "stVal", .int, false⟩

def genericInput (attr : Attribute) : Point :=
  ⟨attr, none, "GGIO1", .status, "stVal", .int, false⟩

def schedule (attr : Attribute) (index : UInt8) : Point :=
  ⟨attr, some index, "DSCH" ++ toString index.toNat, .setPoint, "setVal", .int, true⟩

def switchNode (index : UInt8) : String := "XSWC" ++ toString index.toNat

def switchPosition (index : UInt8) : Point :=
  ⟨.position, some index, switchNode index, .status, "stVal", .bool, false⟩

/-- Where the value is in one of several logical devices. -/
def address (p : Point) (device : LogicalDevice) (id : UInt8) : Address :=
  ⟨device, some id, p.logicalNode, p.attr, p.constraint⟩

/-- The quality bits of a node; none are set where none are given. -/
def quality (node : Node) : Int32 := (((node.get? "q").bind Value.int?).getD 0).toInt32

/-- The time of a node; now where none is given. -/
def time (node : Node) (now : Int64) : Int64 :=
  ((node.get? "t").bind Value.timestamp?).getD now

/-- The measurement that a node gives. -/
def measure (p : Point) (now : Int64) (node : Node) : Except Failure Measurement :=
  match (node.get? p.path).bind Value.float? with
  | none => .error (.unexpected (.noNumber node.reference p.path))
  | some value =>
    .ok ⟨p.attr.measurementName, p.index, quality node, time node now, value⟩

end Point

end FieldGateway
