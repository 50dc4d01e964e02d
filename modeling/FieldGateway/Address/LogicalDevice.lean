import FieldGateway.Device.Family
import FieldGateway.Text.Ascii

/-!
# Logical devices

A device presents itself as several logical devices, one for each system behind it. Logical devices
of a kind are numbered from 1 on, except that there is only one for the lights.
-/

namespace FieldGateway

/-- A kind of logical device. -/
structure LogicalDevice where
  token : String
  /-- Whether a device has only one of the kind. -/
  single : Bool
deriving DecidableEq, Repr, Inhabited

namespace LogicalDevice

/-- The lights of a streetlight controller. -/
def lighting : LogicalDevice := ⟨"IO", true⟩

/-- A remote terminal unit itself. -/
def rtu : LogicalDevice := ⟨"RTU", false⟩

/-- A solar plant. -/
def pv : LogicalDevice := ⟨"PV", false⟩

def battery : LogicalDevice := ⟨"BATTERY", false⟩

/-- A combined heat and power plant. -/
def engine : LogicalDevice := ⟨"ENGINE", false⟩

def boiler : LogicalDevice := ⟨"BOILER", false⟩

def load : LogicalDevice := ⟨"LOAD", false⟩

/-- The kinds that go by a fixed name. -/
def known : List LogicalDevice := [lighting, rtu, pv, battery, engine, boiler, load]

/-- The known kind with a name, in any case. -/
def ofToken? (token : String) : Option LogicalDevice :=
  known.find? fun d => Text.eqIgnoreCase d.token token

/-- The kind that presents systems of a family. -/
def ofFamily : Family → LogicalDevice
  | .streetlightController => lighting
  | .genericRtu | .daRtu => rtu
  | .battery => battery
  | .pv => pv
  | .chp => engine
  | .boiler => boiler

/-- The family of the systems that a kind presents. -/
def family? (d : LogicalDevice) : Option Family :=
  [("IO", .streetlightController), ("RTU", .genericRtu), ("PV", .pv), ("BATTERY", .battery),
    ("ENGINE", .chp), ("BOILER", .boiler)].lookup d.token

/-- A family is known again by its logical device, but for the two kinds of terminal unit. -/
theorem family?_ofFamily (f : Family) :
    (ofFamily f).family? = some (if f = .daRtu then .genericRtu else f) := by
  cases f <;> decide

end LogicalDevice

end FieldGateway
