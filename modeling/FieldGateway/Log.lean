import FieldGateway.Envelope

/-!
# Where there is no broker

What would be sent is noted in the log instead, in one line with named parts.
-/

namespace FieldGateway

structure LogEntry where
  message : String
  parts : List (String × String)
deriving DecidableEq, Repr, Inhabited

namespace LogEntry

def ofResponse (r : Response) : LogEntry where
  message := "response_logged"
  parts := [("correlation_uid", r.correlationId), ("device_id", r.deviceId),
    ("operation", r.operation), ("result", r.outcome.label)]

def ofEvents (b : EventBatch) : LogEntry where
  message := "event_notifications_logged"
  parts := [("device_id", b.deviceId), ("count", toString b.notifications.length)]

def ofMeasurements (b : MeasurementBatch) : LogEntry where
  message := "measurements_logged"
  parts := [("device_id", b.deviceId), ("systems", toString b.systems.length),
    ("measurements", toString (b.systems.flatMap (·.measurements)).length)]

def toJson (e : LogEntry) : Json :=
  .object [("message", .string e.message),
    ("fields", .object (e.parts.map fun p => (p.1, .string p.2)))]

end LogEntry

end FieldGateway
