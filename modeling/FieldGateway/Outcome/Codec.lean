import FieldGateway.Outcome.Basic
import FieldGateway.Request.Codec

/-!
# Outcomes as JSON

An outcome and its payload carry their type beside their contents. The payload is read from what is
already held in memory; there its type may also be given by its place in the list of types.
-/

namespace FieldGateway

namespace Measurement

def toJson (m : Measurement) : Json :=
  .object [("node", .string m.node), ("index", Json.ofOption (.int ·.toNat) m.index),
    ("qualifier", .int m.qualifier.toInt), ("timeMs", .int m.time.toInt),
    ("value", Json.ofFloat m.value)]

def ofJson? (v : Json) : Option Measurement := do
  let [node, index, qualifier, time, value] ←
    v.fields? ["node", "index", "qualifier", "timeMs", "value"] | none
  return {
    node := ← Json.required? Json.string? node
    index := ← Json.optional? Json.uint8? index
    qualifier := ← Json.required? Json.int32? qualifier
    time := ← Json.required? Json.int64? time
    value := ← Json.required? Json.float? value }

end Measurement

namespace SystemMeasurements

def toJson (s : SystemMeasurements) : Json :=
  .object [("id", .int s.id.toNat), ("family", s.family.toJson),
    ("measurements", Json.ofList Measurement.toJson s.measurements)]

def ofJson? (source : Json.Source) (v : Json) : Option SystemMeasurements := do
  let [id, family, measurements] ← v.fields? ["id", "family", "measurements"] | none
  return {
    id := ← Json.required? Json.uint8? id
    family := ← Json.required? (Family.ofJson? source) family
    measurements := ← Json.required? (Json.list? Measurement.ofJson?) measurements }

end SystemMeasurements

namespace Status

def members (s : Status) : List (String × Json) :=
  [("lightValues", Json.ofList LightValue.toJson s.lights),
    ("eventBufferFilter", .string s.eventFilter), ("lightType", .string s.lightType)]

def toJson (s : Status) : Json := .object s.members

def ofJson? (v : Json) : Option Status := do
  let [lights, filter, lightType] ←
    v.fields? ["lightValues", "eventBufferFilter", "lightType"] | none
  return {
    lights := ← Json.required? (Json.list? LightValue.ofJson?) lights
    eventFilter := ← Json.required? Json.string? filter
    lightType := ← Json.required? Json.string? lightType }

end Status

namespace Payload

def toJson : Payload → Json
  | .empty => .object [("kind", .string "EMPTY")]
  | .data systems skipped =>
    .object [("kind", .string "DATA"), ("systems", Json.ofList SystemMeasurements.toJson systems),
      ("skipped", Json.ofList .string skipped)]
  | .status s => .object (("kind", .string "STATUS") :: s.members)

/-- The type that a tag in memory names. -/
def kind? : Json → Option String
  | .string s => some s
  | .int 0 => some "EMPTY"
  | .int 1 => some "DATA"
  | .int 2 => some "STATUS"
  | _ => none

/-- The payload of a type with the given contents. -/
def ofContents? (contents : Json) : String → Option Payload
  | "EMPTY" => contents.nothing?.map fun _ => .empty
  | "DATA" => do
    let [systems, skipped] ← contents.fields? ["systems", "skipped"] | none
    return .data (← Json.required? (Json.list? (SystemMeasurements.ofJson? .memory)) systems)
      (← Json.required? (Json.list? Json.string?) skipped)
  | "STATUS" => .status <$> Status.ofJson? contents
  | _ => none

/-- The payload that a JSON value in memory gives. -/
def ofJson? (v : Json) : Option Payload := do
  let (tag, contents) ← v.tagged? "kind"
  ofContents? contents (← kind? tag)

end Payload

namespace Outcome

def toJson : Outcome → Json
  | .success payload => .object [("result", .string "SUCCESS"), ("payload", payload.toJson)]
  | .operationFailure reason =>
    .object [("result", .string "OPERATION_FAILURE"), ("reason", .string reason)]
  | .connectionFailure reason =>
    .object [("result", .string "CONNECTION_FAILURE"), ("reason", .string reason)]

/-- The outcome of a type with the given contents. -/
def ofContents? (contents : Json) : String → Option Outcome
  | "SUCCESS" => .success <$> Operation.onlyField? "payload" Payload.ofJson? contents
  | "OPERATION_FAILURE" =>
    .operationFailure <$> Operation.onlyField? "reason" Json.string? contents
  | "CONNECTION_FAILURE" =>
    .connectionFailure <$> Operation.onlyField? "reason" Json.string? contents
  | _ => none

/-- The outcome that a JSON value gives, in a text that may go `room` deeper. -/
def ofJson? (room : Nat) (v : Json) : Option Outcome := do
  let (tag, contents) ← v.tagged? "result"
  guard (contents.held room)
  ofContents? contents (← tag.string?)

end Outcome

namespace Response

def members (r : Response) : List (String × Json) :=
  [("correlationUid", .string r.correlationId), ("organisationId", .string r.organisationId),
    ("deviceId", .string r.deviceId), ("operation", .string r.operation),
    ("outcome", r.outcome.toJson)]

def toJson (r : Response) : Json := .object r.members

/-- The response that a JSON value gives, in a text that may go `room` deeper. -/
def ofJson? (room : Nat) (v : Json) : Option Response := do
  let [correlation, organisation, device, operation, outcome] ←
    v.fields? ["correlationUid", "organisationId", "deviceId", "operation", "outcome"] | none
  return {
    correlationId := ← Json.required? Json.string? correlation
    organisationId := ← Json.required? Json.string? organisation
    deviceId := ← Json.required? Json.string? device
    operation := ← Json.required? Json.string? operation
    outcome := ← Json.required? (Outcome.ofJson? (room - 1)) outcome }

end Response

end FieldGateway
