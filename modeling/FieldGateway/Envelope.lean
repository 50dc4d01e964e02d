import FieldGateway.Event.Notification
import FieldGateway.Outcome.Codec
import FieldGateway.Text.Blank

/-!
# Envelopes

What travels between the platform and the gateway. A request may leave out what the topic it came
on, or the gateway itself, can supply; what is sent back carries the device and mostly the time.

* `Envelope.toRequest`: the request of an envelope, or why there is none.
-/

namespace FieldGateway

/-- A request as it arrives. -/
structure Envelope where
  /-- What shall tie the response to the request. -/
  correlationId : Option String
  organisationId : Option String
  deviceId : Option String
  operation : Operation
deriving DecidableEq, Repr, Inhabited

/-- Why an envelope holds no request. -/
inductive Rejection where
  /-- Neither the envelope nor the topic names a device. -/
  | missingDevice
  /-- The envelope and the topic name different devices. -/
  | deviceMismatch (topic payload : String)
deriving DecidableEq, Repr, Inhabited

def Rejection.message : Rejection → String
  | .missingDevice => "missing device id"
  | .deviceMismatch topic payload =>
    "device id mismatch: topic " ++ topic ++ ", payload " ++ payload

namespace Envelope

/-- The fields of an envelope; the names of the identifiers have a second spelling. -/
def fields : List Json.Field :=
  [⟨"correlationUid", ["correlation_uid"]⟩, ⟨"organisationId", ["organisation_id"]⟩,
    ⟨"deviceId", ["device_id"]⟩, "operation"]

def toJson (e : Envelope) : Json :=
  .object [("correlationUid", Json.ofOption .string e.correlationId),
    ("organisationId", Json.ofOption .string e.organisationId),
    ("deviceId", Json.ofOption .string e.deviceId), ("operation", e.operation.toJson)]

/-- The envelope that a JSON value gives, in a text that may go `room` deeper. -/
def ofJson? (room : Nat) (v : Json) : Option Envelope := do
  let [correlation, organisation, device, operation] ← v.fields? fields | none
  return {
    correlationId := ← Json.optional? Json.string? correlation
    organisationId := ← Json.optional? Json.string? organisation
    deviceId := ← Json.optional? Json.string? device
    operation := ← Json.required? (Operation.ofJson? (room - 1)) operation }

/-- The device that a topic and an envelope name, together or alone. -/
def device (topic payload : Option String) : Except Rejection String :=
  match topic, payload with
  | none, none => .error .missingDevice
  | some t, none => .ok t
  | none, some p => .ok p
  | some t, some p => if t = p then .ok p else .error (.deviceMismatch t p)

/-- The given identifier, unless it is missing or blank. -/
def identifier (given : Option String) (fresh : String) : String :=
  match given with
  | none => fresh
  | some s => if Text.isAllBlank s then fresh else s

/-- The request of an envelope that arrived on a topic naming a device, or not. -/
def toRequest (e : Envelope) (topic : Option String) (fresh : String) : Except Rejection Request :=
  (device topic e.deviceId).map fun deviceId =>
    ⟨identifier e.correlationId fresh, e.organisationId.getD "", deviceId, e.operation⟩

end Envelope

structure Reply where
  response : Response
  /-- When it was sent, in milliseconds since 1970. -/
  time : Int64
deriving DecidableEq, Repr, Inhabited

namespace Reply

def toJson (r : Reply) : Json := .object (r.response.members ++ [("tsMs", .int r.time.toInt)])

/-- The reply that a JSON value gives, in a text that may go `room` deeper. -/
def ofJson? (room : Nat) (v : Json) : Option Reply := do
  let [correlation, organisation, device, operation, outcome, time] ←
    v.fields?
      ["correlationUid", "organisationId", "deviceId", "operation", "outcome", "tsMs"] | none
  return {
    response := {
      correlationId := ← Json.required? Json.string? correlation
      organisationId := ← Json.required? Json.string? organisation
      deviceId := ← Json.required? Json.string? device
      operation := ← Json.required? Json.string? operation
      outcome := ← Json.required? (Outcome.ofJson? (room - 1)) outcome }
    time := ← Json.required? Json.int64? time }

end Reply

/-- The events of a device that are told at once. -/
structure EventBatch where
  deviceId : String
  /-- The events, oldest first. -/
  notifications : List Notification
deriving DecidableEq, Repr, Inhabited

namespace EventBatch

def toJson (b : EventBatch) : Json :=
  .object [("deviceId", .string b.deviceId),
    ("notifications", Json.ofList Notification.toJson b.notifications)]

def ofJson? (v : Json) : Option EventBatch := do
  let [device, notifications] ← v.fields? ["deviceId", "notifications"] | none
  return {
    deviceId := ← Json.required? Json.string? device
    notifications := ← Json.required? (Json.list? Notification.ofJson?) notifications }

end EventBatch

structure MeasurementBatch where
  deviceId : String
  systems : List SystemMeasurements
deriving DecidableEq, Repr, Inhabited

namespace MeasurementBatch

def members (b : MeasurementBatch) : List (String × Json) :=
  [("deviceId", .string b.deviceId),
    ("systems", Json.ofList SystemMeasurements.toJson b.systems)]

/-- A batch of measurements as JSON, with the time it is sent. -/
def toJson (b : MeasurementBatch) (time : Int64) : Json :=
  .object (b.members ++ [("tsMs", .int time.toInt)])

/-- The batch of measurements that a JSON value gives, with the time it was sent. -/
def ofJson? (v : Json) : Option (MeasurementBatch × Int64) := do
  let [device, systems, time] ← v.fields? ["deviceId", "systems", "tsMs"] | none
  let deviceId ← Json.required? Json.string? device
  let systems ← Json.required? (Json.list? (SystemMeasurements.ofJson? .text)) systems
  return (⟨deviceId, systems⟩, ← Json.required? Json.int64? time)

end MeasurementBatch

end FieldGateway
