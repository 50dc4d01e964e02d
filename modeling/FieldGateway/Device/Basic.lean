import FieldGateway.Device.Family

/-!
# Devices

What is known of a device before it is talked to: where it is, which family it belongs to, how its
relays are numbered towards the platform, and which of its reports are wanted.
-/

namespace FieldGateway

/-- Who a device is and where it is reached. -/
structure Identity where
  deviceId : String
  host : String
  family : Family
  /-- The configured server name, which stands in front of every object reference. -/
  configuredServer : Option String
deriving DecidableEq, Repr, Inhabited

/-- The server name in force: the configured one, else that of the family. -/
def Identity.serverName (i : Identity) : String :=
  i.configuredServer.getD i.family.defaultServerName

inductive RelayKind where
  | light
  | tariff
  | tariffReversed
deriving DecidableEq, Repr, Inhabited

namespace RelayKind

/-- The name in device records. -/
def name : RelayKind → String
  | .light => "LIGHT"
  | .tariff => "TARIFF"
  | .tariffReversed => "TARIFF_REVERSED"

/-- The name in error messages. -/
def label : RelayKind → String
  | .light => "Light"
  | .tariff => "Tariff"
  | .tariffReversed => "TariffReversed"

def all : List RelayKind := [.light, .tariff, .tariffReversed]

end RelayKind

/-- How a relay of the device is numbered towards the platform. -/
structure OutputSetting where
  /-- The number of the relay in the device. -/
  internalId : UInt8
  /-- The number of the relay towards the platform. -/
  externalId : UInt8
  kind : RelayKind
deriving DecidableEq, Repr, Inhabited

/-- A report that is wanted, in every instance the device has of it. -/
structure ReportSelection where
  /-- The logical device, without its instance number. -/
  logicalDevice : String
  /-- The path of the report inside the logical device. -/
  logicalNode : String
deriving DecidableEq, Repr, Inhabited

structure Device where
  identity : Identity
  outputs : List OutputSetting
  wantsAllReports : Bool
  /-- The reports that are wanted otherwise. -/
  selections : List ReportSelection
deriving DecidableEq, Repr, Inhabited

namespace Device

/-- A device of which nothing but its identity is configured. -/
def ofIdentity (i : Identity) : Device := ⟨i, [], false, []⟩

/-- The name of the device towards the platform. -/
def id (d : Device) : String := d.identity.deviceId

def family (d : Device) : Family := d.identity.family

/-- Whether any reports are wanted. -/
def hasReporting (d : Device) : Bool := d.wantsAllReports || !d.selections.isEmpty

/-- The first setting with a number towards the platform. -/
def output? (d : Device) (externalId : UInt8) : Option OutputSetting :=
  d.outputs.find? (·.externalId == externalId)

/-- The relays that switch light. -/
def lightRelays (d : Device) : List OutputSetting := d.outputs.filter (·.kind == .light)

end Device

end FieldGateway
