import FieldGateway.Command.Catalog
import FieldGateway.Model.Basic
import FieldGateway.Retry.Basic

/-!
# The gateway

What is fixed while the gateway runs: how devices are approached, how often commands are tried, how
long sessions that wait for reports stay open, and which values systems have.
-/

namespace FieldGateway

/-- What is fixed while the gateway runs. -/
structure Gateway where
  streetlightPort : UInt16
  rtuPort : UInt16
  /-- How long a device may take to be reached, and to tell its model, in milliseconds. -/
  connectTimeout : UInt64
  policy : Policy
  /-- How long a session that waits for reports stays open, in milliseconds. -/
  disconnectDelay : UInt64
  /-- How long after its registration a device is asked for reports, in milliseconds. -/
  registrationDelay : UInt64
  reportsAfterRegistration : Bool
  /-- The model that all devices are taken to have. -/
  template : Option ServerModel
  catalog : Catalog
deriving DecidableEq, Repr, Inhabited

namespace Gateway

/-- The gateway where nothing else is set. -/
def standard : Gateway where
  streetlightPort := 102
  rtuPort := 102
  connectTimeout := 10000
  policy := .standard
  disconnectDelay := 5000
  registrationDelay := 5000
  reportsAfterRegistration := false
  template := none
  catalog := .standard

end Gateway

end FieldGateway
