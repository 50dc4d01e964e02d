import FieldGateway.Json.Fields

/-!
# Device families

A family is both what a device is (a streetlight controller, a remote terminal unit) and what a
system behind a remote terminal unit is (a battery, a solar plant, a boiler).
-/

namespace FieldGateway

/-- A kind of device, or of system behind a device. -/
inductive Family where
  | streetlightController
  | genericRtu
  | battery
  | pv
  | chp
  | boiler
  | daRtu
deriving DecidableEq, Repr, Inhabited

namespace Family

/-- The families in the order in which measurements are listed. -/
def all : List Family :=
  [.streetlightController, .genericRtu, .battery, .pv, .chp, .boiler, .daRtu]

def rank : Family → Nat
  | .streetlightController => 0
  | .genericRtu => 1
  | .battery => 2
  | .pv => 3
  | .chp => 4
  | .boiler => 5
  | .daRtu => 6

def name : Family → String
  | .streetlightController => "STREETLIGHT_CONTROLLER"
  | .genericRtu => "GENERIC_RTU"
  | .battery => "BATTERY"
  | .pv => "PV"
  | .chp => "CHP"
  | .boiler => "BOILER"
  | .daRtu => "DA_RTU"

/-- The server name of a device that has none configured. -/
def defaultServerName : Family → String
  | .streetlightController => "SWDeviceGeneric"
  | .daRtu => "DA_RTU"
  | _ => "ZOWN_POC"

/-- Every family but the streetlight controllers is a terminal unit with systems behind it. -/
def isRtu (f : Family) : Bool := f != .streetlightController

def toJson (f : Family) : Json := .string f.name

def ofJson? (source : Json.Source) : Json → Option Family :=
  Json.choice? source (all.map fun f => (f.name, f))

theorem mem_all (f : Family) : f ∈ all := by cases f <;> decide

theorem ofJson?_toJson (source : Json.Source) (f : Family) :
    ofJson? source f.toJson = some f := by
  cases source <;> cases f <;> decide +kernel

theorem rank_injective {f g : Family} (h : f.rank = g.rank) : f = g := by
  cases f <;> cases g <;> simp_all [rank]

end Family

end FieldGateway
