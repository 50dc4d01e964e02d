import FieldGateway.Device.Family

/-!
# Requests

What the platform may ask of a device: to read or set values of the systems behind a terminal unit,
to switch light, to tell its status, or to report its events.
-/

namespace FieldGateway

/-- A value to be read: its name, and its number where there are several of that name. -/
structure Filter where
  node : String
  index : Option UInt8
deriving DecidableEq, Repr, Inhabited

structure SystemQuery where
  /-- The number of the system, from 1 on. -/
  id : UInt8
  family : Family
  filters : List Filter
deriving DecidableEq, Repr, Inhabited

structure SetPoint where
  node : String
  index : Option UInt8
  value : Float
deriving DecidableEq, Repr, Inhabited

structure SystemSetting where
  /-- The number of the system, from 1 on. -/
  id : UInt8
  family : Family
  setPoints : List SetPoint
deriving DecidableEq, Repr, Inhabited

/-- The state of a relay, wanted or found. -/
structure LightValue where
  /-- The relay's number towards the platform; 0 stands for all relays that switch light. -/
  index : UInt8
  on : Bool
deriving DecidableEq, Repr, Inhabited

/-- What is asked of a device. -/
inductive Operation where
  | getData (systems : List SystemQuery)
  | setData (systems : List SystemSetting)
  | setLight (values : List LightValue)
  | getStatus
  | enableReporting
deriving DecidableEq, Repr, Inhabited

/-- The name of an operation in responses. -/
def Operation.name : Operation → String
  | .getData _ => "GetData"
  | .setData _ => "SetData"
  | .setLight _ => "SetLight"
  | .getStatus => "GetStatus"
  | .enableReporting => "EnableReporting"

structure Request where
  /-- What ties the response to the request. -/
  correlationId : String
  organisationId : String
  deviceId : String
  operation : Operation
deriving DecidableEq, Repr, Inhabited

end FieldGateway
