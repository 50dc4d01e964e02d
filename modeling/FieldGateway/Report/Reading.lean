import FieldGateway.Command.Catalog
import FieldGateway.Report.Basic

/-!
# Measurements in reports

A member of a terminal unit's report is known by its reference: the logical device gives the family
and the number of the system, the attribute and the number in the logical node give the point. The
measurements of a report are told by system, in the order of families and numbers, and within a
system in the order of the report.
-/

namespace FieldGateway

/-- What reads the measurements of a device's reports. -/
structure Reader where
  deviceId : String
  /-- The server name, which stands in front of every reference. -/
  server : String
  catalog : Catalog
deriving DecidableEq, Repr, Inhabited

/-- A measurement with the system it belongs to. -/
structure SystemMeasurement where
  family : Family
  id : UInt8
  measurement : Measurement
deriving DecidableEq, Repr, Inhabited

namespace Reader

def partsOf (r : Reader) (member : Node) : Except Misfit ReferenceParts :=
  match Reference.split? r.server member.reference with
  | some parts => .ok parts
  | none => .error (.unexpectedReference member.reference)

/-- The family of the systems that a logical device presents. -/
def familyOf (token : String) : Except Misfit Family := do
  match (← LogicalDevice.named token).family? with
  | some family => return family
  | none => throw (.noFamily token)

/-- The number at the end of a logical node. -/
def nodeIndex? (logicalNode : String) : Option UInt8 :=
  Text.digitsByte? (Text.trailingDigits logicalNode.toList)

/-- The point that a member is of, with the system it belongs to. -/
def locate (r : Reader) (member : Node) : Except Misfit (Family × UInt8 × Point) := do
  let parts ← r.partsOf member
  let family ← familyOf parts.logicalDevice
  let attr ← Attribute.named parts.attr
  let index := if attr.usesIndex then nodeIndex? parts.logicalNode else none
  let point ← (r.catalog.lookup family attr index).mapError .missingCommand
  return (family, parts.instanceId.getD 1, point)

def measure (r : Reader) (now : Int64) (member : Node) : Except Failure SystemMeasurement := do
  let (family, id, point) ← (r.locate member).mapError .configuration
  let measurement ← point.measure now member
  return ⟨family, id, measurement⟩

/-- The place of a system among all systems. -/
def systemRank (family : Family) (id : UInt8) : Nat := family.rank * 256 + id.toNat

/-- The measurements by system, with one more. -/
def addTo (systems : Table Nat SystemMeasurements) (m : SystemMeasurement) :
    Table Nat SystemMeasurements :=
  let k := systemRank m.family m.id
  systems.insert k
    (match systems.find? k with
    | none => ⟨m.id, m.family, [m.measurement]⟩
    | some s => { s with measurements := s.measurements ++ [m.measurement] })

/-- The measurements by system. -/
def grouped (ms : List SystemMeasurement) : List SystemMeasurements :=
  (ms.foldl addTo .empty).values

/-- The measurements of a report, without the members that give none. -/
def systems (r : Reader) (clock : Clock) (report : Report) : List SystemMeasurements :=
  grouped ((report.timed clock).filterMap fun (m, now) => (r.measure now m).toOption)

theorem systemRank_injective {f g : Family} {i j : UInt8}
    (h : systemRank f i = systemRank g j) : f = g ∧ i = j := by
  have hi : i.toNat < 256 := i.toNat_lt
  have hj : j.toNat < 256 := j.toNat_lt
  simp only [systemRank] at h
  exact ⟨Family.rank_injective (by omega), UInt8.toNat_inj.mp (by omega)⟩

end Reader

end FieldGateway
