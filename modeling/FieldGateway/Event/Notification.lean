import FieldGateway.Event.Kind

/-!
# Event notifications

What the platform is told of an event: which device, when, what, and which relay, by the relay's
number towards the platform. Number 0 means that no relay is concerned.
-/

namespace FieldGateway

/-- An event of a device, as the platform is told of it. -/
structure Notification where
  deviceId : String
  /-- When it happened, in milliseconds since 1970. -/
  time : Int64
  kind : EventKind
  description : String
  /-- The relay's number towards the platform, or 0. -/
  index : UInt8
deriving DecidableEq, Repr, Inhabited

namespace Notification

def toJson (n : Notification) : Json :=
  .object [("deviceId", .string n.deviceId), ("dateTimeMs", .int n.time.toInt),
    ("eventType", n.kind.toJson), ("description", .string n.description),
    ("index", .int n.index.toNat)]

def ofJson? (v : Json) : Option Notification := do
  let [deviceId, time, kind, description, index] ←
    v.fields? ["deviceId", "dateTimeMs", "eventType", "description", "index"] | none
  return {
    deviceId := ← Json.required? Json.string? deviceId
    time := ← Json.required? Json.int64? time
    kind := ← Json.required? EventKind.ofJson? kind
    description := ← Json.required? Json.string? description
    index := ← Json.required? Json.uint8? index }

end Notification

end FieldGateway
