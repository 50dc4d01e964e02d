import FieldGateway.Request.Basic

/-!
# Requests as JSON

An operation carries its type beside its contents, in any order, so that it is held in memory until
the type is known.
-/

namespace FieldGateway

namespace Filter

def toJson (f : Filter) : Json :=
  .object [("node", .string f.node), ("index", Json.ofOption (.int ·.toNat) f.index)]

def ofJson? (v : Json) : Option Filter := do
  let [node, index] ← v.fields? ["node", "index"] | none
  return {
    node := ← Json.required? Json.string? node
    index := ← Json.optional? Json.uint8? index }

end Filter

namespace SystemQuery

def toJson (q : SystemQuery) : Json :=
  .object [("id", .int q.id.toNat), ("family", q.family.toJson),
    ("filters", Json.ofList Filter.toJson q.filters)]

def ofJson? (v : Json) : Option SystemQuery := do
  let [id, family, filters] ← v.fields? ["id", "family", "filters"] | none
  return {
    id := ← Json.required? Json.uint8? id
    family := ← Json.required? (Family.ofJson? .memory) family
    filters := ← Json.required? (Json.list? Filter.ofJson?) filters }

end SystemQuery

namespace SetPoint

def toJson (p : SetPoint) : Json :=
  .object [("node", .string p.node), ("index", Json.ofOption (.int ·.toNat) p.index),
    ("value", Json.ofFloat p.value)]

def ofJson? (v : Json) : Option SetPoint := do
  let [node, index, value] ← v.fields? ["node", "index", "value"] | none
  return {
    node := ← Json.required? Json.string? node
    index := ← Json.optional? Json.uint8? index
    value := ← Json.required? Json.float? value }

end SetPoint

namespace SystemSetting

def toJson (s : SystemSetting) : Json :=
  .object [("id", .int s.id.toNat), ("family", s.family.toJson),
    ("setPoints", Json.ofList SetPoint.toJson s.setPoints)]

def ofJson? (v : Json) : Option SystemSetting := do
  let [id, family, setPoints] ← v.fields? ["id", "family", "setPoints"] | none
  return {
    id := ← Json.required? Json.uint8? id
    family := ← Json.required? (Family.ofJson? .memory) family
    setPoints := ← Json.required? (Json.list? SetPoint.ofJson?) setPoints }

end SystemSetting

namespace LightValue

def toJson (l : LightValue) : Json :=
  .object [("index", .int l.index.toNat), ("on", .bool l.on)]

def ofJson? (v : Json) : Option LightValue := do
  let [index, on] ← v.fields? ["index", "on"] | none
  return {
    index := ← Json.required? Json.uint8? index
    on := ← Json.required? Json.bool? on }

end LightValue

namespace Operation

def toJson : Operation → Json
  | .getData systems =>
    .object [("type", .string "GET_DATA"), ("systems", Json.ofList SystemQuery.toJson systems)]
  | .setData systems =>
    .object [("type", .string "SET_DATA"), ("systems", Json.ofList SystemSetting.toJson systems)]
  | .setLight values =>
    .object [("type", .string "SET_LIGHT"), ("values", Json.ofList LightValue.toJson values)]
  | .getStatus => .object [("type", .string "GET_STATUS")]
  | .enableReporting => .object [("type", .string "ENABLE_REPORTING")]

/-- The only field of a record that has one. -/
def onlyField? {α : Type} (name : String) (read? : Json → Option α) (v : Json) : Option α := do
  let [slot] ← v.fields? [name] | none
  Json.required? read? slot

/-- The operation of a type with the given contents. -/
def ofContents? (contents : Json) : String → Option Operation
  | "GET_DATA" => .getData <$> onlyField? "systems" (Json.list? SystemQuery.ofJson?) contents
  | "SET_DATA" => .setData <$> onlyField? "systems" (Json.list? SystemSetting.ofJson?) contents
  | "SET_LIGHT" => .setLight <$> onlyField? "values" (Json.list? LightValue.ofJson?) contents
  | "GET_STATUS" => contents.nothing?.map fun _ => .getStatus
  | "ENABLE_REPORTING" => contents.nothing?.map fun _ => .enableReporting
  | _ => none

/-- The operation that a JSON value gives, in a text that may go `room` deeper. -/
def ofJson? (room : Nat) (v : Json) : Option Operation := do
  let (tag, contents) ← v.tagged? "type"
  guard (contents.held room)
  ofContents? contents (← tag.string?)

end Operation

namespace Request

def toJson (r : Request) : Json :=
  .object [("correlationUid", .string r.correlationId),
    ("organisationId", .string r.organisationId), ("deviceId", .string r.deviceId),
    ("operation", r.operation.toJson)]

/-- The request that a JSON value gives, in a text that may go `room` deeper. -/
def ofJson? (room : Nat) (v : Json) : Option Request := do
  let [correlation, organisation, device, operation] ←
    v.fields? ["correlationUid", "organisationId", "deviceId", "operation"] | none
  return {
    correlationId := ← Json.required? Json.string? correlation
    organisationId := ← Json.required? Json.string? organisation
    deviceId := ← Json.required? Json.string? device
    operation := ← Json.required? (Operation.ofJson? (room - 1)) operation }

end Request

end FieldGateway
