import FieldGateway.Address.LogicalDevice
import FieldGateway.Failure
import FieldGateway.Text.Numeral

/-!
# Object references

A reference names a node in the whole of a device's model:
server name, logical device, its number, a slash, logical node, a dot, attribute, as in
`ZOWN_POCPV1/MMXU1.TotW`. Devices match references as texts, so that the marks between the parts
must not occur inside them.

* `resolve`: the reference of an address.
* `split?`: the parts of a reference.
-/

namespace FieldGateway

/-- The logical device with a name, in any case. -/
def LogicalDevice.named (token : String) : Except Misfit LogicalDevice :=
  match ofToken? token with
  | some d => .ok d
  | none => .error (.unknownLogicalDevice token)

/-- The attribute with a name, in any case and with blanks around it. -/
def Attribute.named (name : String) : Except Misfit Attribute :=
  match ofName? name with
  | some a => .ok a
  | none => .error (.unknownAttribute (Text.trim name))

/-- Where a node is in the model of a device. -/
structure Address where
  logicalDevice : LogicalDevice
  /-- Which logical device of the kind, from 1 on. -/
  instanceId : Option UInt8
  logicalNode : String
  attr : Attribute
  constraint : Constraint
deriving DecidableEq, Repr, Inhabited

/-- The parts of a reference, without the server name. -/
structure ReferenceParts where
  logicalDevice : String
  instanceId : Option UInt8
  logicalNode : String
  attr : String
deriving DecidableEq, Repr, Inhabited

def ReferenceParts.toJson (p : ReferenceParts) : Json :=
  .object [("logicalDevice", .string p.logicalDevice),
    ("instance", Json.ofOption (.int ·.toNat) p.instanceId),
    ("logicalNode", .string p.logicalNode), ("dataAttribute", .string p.attr)]

namespace Reference

/-- Holds of a logical node that can stand in a reference. -/
def isLogicalNode (node : String) : Bool :=
  !node.isEmpty && !node.toList.contains '/' && !node.toList.contains '.'

/-- The full name of a logical device. -/
def logicalDeviceName (server : String) (device : LogicalDevice) (instanceId : Option UInt8) :
    Except Misfit String :=
  if device.token.isEmpty then .error .namelessLogicalDevice
  else if device.single then .ok (server ++ device.token)
  else
    match instanceId with
    | none => .error (.instanceMissing device.token)
    | some i =>
      if i = 0 then .error (.instanceZero device.token)
      else .ok (server ++ device.token ++ toString i.toNat)

/-- The reference of an address. -/
def resolve (server : String) (address : Address) : Except Misfit String :=
  if isLogicalNode address.logicalNode then
    match logicalDeviceName server address.logicalDevice address.instanceId with
    | .error e => .error e
    | .ok device => .ok (device ++ "/" ++ address.logicalNode ++ "." ++ address.attr.token)
  else .error (.invalidLogicalNode address.logicalNode)

/-- The reference of a report, by its number among those of its name. -/
def report (server logicalDevice : String) (index : Nat) (logicalNode : String) : String :=
  server ++ logicalDevice ++ toString index ++ "/" ++ logicalNode

/-- The first two segments of a path, if neither is empty. -/
def firstSegments? (path : List Char) : Option (List Char × List Char) :=
  match path.takeWhile (· != '.'), path.dropWhile (· != '.') with
  | node@(_ :: _), _ :: rest =>
    match rest.takeWhile (· != '.') with
    | [] => none
    | attr => some (node, attr)
  | _, _ => none

/-- The kind of a logical device and which of the kind it is; fails if the number is too large. -/
def splitDevice? (device : List Char) : Option (List Char × Option UInt8) :=
  match Text.trailingDigits device with
  | [] => some (Text.beforeDigits device, none)
  | digits => (Text.digitsByte? digits).map fun i => (Text.beforeDigits device, some i)

/-- The parts of a reference that begins with the server name. -/
def split? (server reference : String) : Option ReferenceParts := do
  let rest ← server.toList.isPrefixOf? reference.toList
  match rest.dropWhile (· != '/') with
  | [] => none
  | _ :: path =>
    let (token, instanceId) ← splitDevice? (rest.takeWhile (· != '/'))
    let (node, attr) ← firstSegments? path
    return {
      logicalDevice := String.ofList token
      instanceId
      logicalNode := String.ofList node
      attr := String.ofList attr }

example : split? "ZOWN_POC" "ZOWN_POCPV1/MMXU1.TotW" = some ⟨"PV", some 1, "MMXU1", "TotW"⟩ := by
  decide +kernel

end Reference

end FieldGateway
