import FieldGateway.Model.Basic

/-!
# Server models as JSON

A model may be kept as a text in place of asking the device for it.
-/

namespace FieldGateway

namespace Node

def toJson (n : Node) : Json :=
  .object [("reference", .string n.reference), ("fc", n.constraint.toJson),
    ("attributes", .object (n.values.entries.map fun e => (e.1, e.2.toJson)))]

/-- The values by their paths that a JSON object gives; of two under one path the later counts. -/
def valuesOfJson? : Json → Option (Table String Value)
  | .object members =>
    (members.mapM fun m => (Value.ofJson? m.2).map fun v => (m.1, v)).map .ofList
  | _ => none

def ofJson? (v : Json) : Option Node := do
  let [reference, constraint, values] ← v.fields? ["reference", "fc", "attributes"] | none
  return {
    reference := ← Json.required? Json.string? reference
    constraint := ← Json.required? Constraint.ofJson? constraint
    values := ← Json.default? valuesOfJson? .empty values }

end Node

namespace ControlBlock

def toJson (b : ControlBlock) : Json :=
  .object [("reference", .string b.reference), ("buffered", .bool b.buffered),
    ("enabled", .bool b.enabled), ("sq_num", .int b.sequence.toNat)]

def ofJson? (v : Json) : Option ControlBlock := do
  let [reference, buffered, enabled, sequence] ←
    v.fields? ["reference", "buffered", "enabled", "sq_num"] | none
  return {
    reference := ← Json.required? Json.string? reference
    buffered := ← Json.required? Json.bool? buffered
    enabled := ← Json.default? Json.bool? false enabled
    sequence := ← Json.default? Json.uint32? 0 sequence }

end ControlBlock

namespace ServerModel

def toJson (m : ServerModel) : Json :=
  .object [("nodes", Json.ofList Node.toJson m.nodes),
    ("brcbs", Json.ofList ControlBlock.toJson m.buffered),
    ("urcbs", Json.ofList ControlBlock.toJson m.unbuffered)]

def ofJson? (v : Json) : Option ServerModel := do
  let [nodes, buffered, unbuffered] ← v.fields? ["nodes", "brcbs", "urcbs"] | none
  return {
    nodes := ← Json.default? (Json.list? Node.ofJson?) [] nodes
    buffered := ← Json.default? (Json.list? ControlBlock.ofJson?) [] buffered
    unbuffered := ← Json.default? (Json.list? ControlBlock.ofJson?) [] unbuffered }

end ServerModel

end FieldGateway
