import FieldGateway.Device.Codec
import FieldGateway.Json.Reader
import FieldGateway.Table

/-!
# The registry of devices

The registry knows each device by its identifier. A device that is put in again replaces what was
known of it. Devices are listed in the order of their identifiers.
-/

namespace FieldGateway

structure Registry where
  devices : Table String Device
deriving DecidableEq, Repr, Inhabited

namespace Registry

def empty : Registry := ⟨.empty⟩

def insert (r : Registry) (d : Device) : Registry := ⟨r.devices.insert d.id d⟩

/-- The registry of some devices; of two with one identifier the later counts. -/
def ofList (ds : List Device) : Registry := ds.foldl insert empty

def find? (r : Registry) (id : String) : Option Device := r.devices.find? id

def toList (r : Registry) : List Device := r.devices.values

def size (r : Registry) : Nat := r.devices.size

/-- The registry that a JSON text gives. -/
def ofText? (text : String) : Option Registry :=
  ((Json.ofText? text).bind (Device.listOfJson? Json.maxDepth)).map ofList

theorem find?_insert (r : Registry) (d : Device) (id : String) :
    (r.insert d).find? id = if id = d.id then some d else r.find? id := by
  rw [find?, insert, Table.find?_insert]
  by_cases h : id = d.id
  · simp [h, Std.compare_self]
  · rw [if_neg h, if_neg fun hc => h (Std.LawfulEqCmp.compare_eq_iff_eq.mp hc)]
    rfl

end Registry

end FieldGateway
