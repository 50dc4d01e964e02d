import FieldGateway.Plant.Ied
import FieldGateway.Plant.Preset
import FieldGateway.Table

/-!
# The network

Devices by their addresses. A device that is put where another one is replaces it.
-/

namespace FieldGateway

structure Network where
  hosts : Table String Ied
deriving DecidableEq, Repr, Inhabited

namespace Network

def empty : Network := ⟨.empty⟩

def find? (n : Network) (host : String) : Option Ied := n.hosts.find? host

def insert (n : Network) (host : String) (d : Ied) : Network := ⟨n.hosts.insert host d⟩

/-- The network with the device at an address, if there is one, changed by `f`. -/
def modify (n : Network) (host : String) (f : Ied → Ied) : Network := ⟨n.hosts.modify host f⟩

/-- The network of some devices, each with the model its family starts with. -/
def ofDevices (ds : List Device) : Network :=
  ds.foldl (fun n d => n.insert d.identity.host (.ofModel (Preset.ofIdentity d.identity))) empty

/-- What is answered where there is no device. -/
def noRoute (host : String) (port : UInt16) : Fault :=
  .io ("no route to host " ++ host ++ ":" ++ toString port.toNat)

/-- What is answered by a device that refuses. -/
def refused (host : String) (port : UInt16) : Fault :=
  .io ("connection refused by " ++ host ++ ":" ++ toString port.toNat)

/-- Whether an association can be made, and why not. -/
def reach (n : Network) (host : String) (port : UInt16) : Except Fault Unit :=
  match n.find? host with
  | none => .error (noRoute host port)
  | some d => if d.refuses then .error (refused host port) else .ok ()

/-- What was done at each address since earlier. -/
def activitySince (n earlier : Network) : List (String × Activity) :=
  n.hosts.entries.map fun e =>
    (e.1, e.2.activity.since ((earlier.find? e.1).elim .none (·.activity)))

end Network

end FieldGateway
