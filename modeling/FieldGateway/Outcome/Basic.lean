import FieldGateway.Request.Basic

/-!
# Outcomes and responses

Every request has one outcome: it succeeded, the device could not be reached, or the operation
failed. The response repeats what ties it to the request.
-/

namespace FieldGateway

structure Measurement where
  node : String
  index : Option UInt8
  /-- The quality bits of the device. -/
  qualifier : Int32
  /-- When it was taken, in milliseconds since 1970. -/
  time : Int64
  value : Float
deriving DecidableEq, Repr, Inhabited

/-- The values that were read of one system. -/
structure SystemMeasurements where
  id : UInt8
  family : Family
  measurements : List Measurement
deriving DecidableEq, Repr, Inhabited

structure Status where
  lights : List LightValue
  /-- Which events the device keeps. -/
  eventFilter : String
  lightType : String
deriving DecidableEq, Repr, Inhabited

/-- What a successful request brings. -/
inductive Payload where
  | empty
  /-- Values of systems, and descriptions of what was passed over. -/
  | data (systems : List SystemMeasurements) (skipped : List String)
  | status (status : Status)
deriving DecidableEq, Repr, Inhabited

inductive Outcome where
  | success (payload : Payload)
  /-- The device was reached, or not even looked for, but the operation failed. -/
  | operationFailure (reason : String)
  /-- The device could not be reached, or the connection broke. -/
  | connectionFailure (reason : String)
deriving DecidableEq, Repr, Inhabited

namespace Outcome

/-- Whether the request was carried out. -/
def isSuccess : Outcome → Bool
  | .success _ => true
  | _ => false

/-- The name of an outcome in the log. -/
def label : Outcome → String
  | .success _ => "success"
  | .operationFailure _ => "operation_failure"
  | .connectionFailure _ => "connection_failure"

end Outcome

structure Response where
  /-- What ties the response to the request. -/
  correlationId : String
  organisationId : String
  deviceId : String
  operation : String
  outcome : Outcome
deriving DecidableEq, Repr, Inhabited

/-- The response to a request with a given outcome. -/
def Request.respond (r : Request) (outcome : Outcome) : Response :=
  ⟨r.correlationId, r.organisationId, r.deviceId, r.operation.name, outcome⟩

end FieldGateway
