import FieldGateway.Command.Point
import FieldGateway.Table

/-!
# The catalog of points

The catalog tells which values systems of a family have. A value is asked for by its attribute, and
by its number where the attribute has several values; for any other attribute a number is ignored.

* `find?_register`: what is found after a registration.
-/

namespace FieldGateway

/-- What a value is asked for by. -/
structure PointKey where
  family : Family
  attr : Attribute
  index : Option UInt8
deriving DecidableEq, Repr, Inhabited

namespace PointKey

/-- The key of a value; a number is kept only where the attribute has several values. -/
def make (family : Family) (attr : Attribute) (index : Option UInt8) : PointKey :=
  ⟨family, attr, if attr.usesIndex then index else none⟩

/-- The place of an index, with none in front. -/
def indexRank : Option UInt8 → Nat
  | none => 0
  | some i => i.toNat + 1

/-- The place of a key among all keys. -/
def rank (k : PointKey) : Nat := (k.family.rank * 27 + k.attr.rank) * 257 + indexRank k.index

theorem rank_lt (a : Attribute) : a.rank < 27 := by cases a <;> decide

theorem indexRank_lt (i : Option UInt8) : indexRank i < 257 := by
  cases i with
  | none => decide
  | some i =>
    have : i.toNat < 256 := i.toNat_lt
    simp only [indexRank]
    omega

theorem indexRank_injective {i j : Option UInt8} (h : indexRank i = indexRank j) : i = j := by
  cases i <;> cases j <;> simp_all [indexRank, UInt8.toNat_inj]

theorem rank_injective {k l : PointKey} (h : k.rank = l.rank) : k = l := by
  obtain ⟨f, a, i⟩ := k
  obtain ⟨g, b, j⟩ := l
  simp only [rank] at h
  have ha := rank_lt a
  have hb := rank_lt b
  have hi := indexRank_lt i
  have hj := indexRank_lt j
  obtain rfl := Family.rank_injective (show f.rank = g.rank by omega)
  obtain rfl := Attribute.rank_injective (show a.rank = b.rank by omega)
  obtain rfl := indexRank_injective (show indexRank i = indexRank j by omega)
  rfl

end PointKey

/-- Which values systems have. -/
structure Catalog where
  /-- The points by the place of their keys. -/
  points : Table Nat Point
deriving DecidableEq, Repr, Inhabited

namespace Catalog

def empty : Catalog := ⟨.empty⟩

/-- The catalog with a point under a key, in place of what stood there. -/
def register (c : Catalog) (k : PointKey) (p : Point) : Catalog := ⟨c.points.insert k.rank p⟩

/-- The catalog with a point of a family under its own attribute and index. -/
def add (c : Catalog) (family : Family) (p : Point) : Catalog :=
  c.register (.make family p.attr p.index) p

/-- The catalog with points of a family under their own attributes and indexes. -/
def addAll (c : Catalog) (family : Family) (ps : List Point) : Catalog :=
  ps.foldl (fun c p => c.add family p) c

def find? (c : Catalog) (k : PointKey) : Option Point := c.points.find? k.rank

/-- The point of an attribute of a family. -/
def lookup (c : Catalog) (family : Family) (attr : Attribute) (index : Option UInt8) :
    Except MissingCommand Point :=
  let k := PointKey.make family attr index
  match c.find? k with
  | some p => .ok p
  | none => .error ⟨k.family, k.attr, k.index⟩

def size (c : Catalog) : Nat := c.points.size

def describe (c : Catalog) : String :=
  "CommandCatalog \x7b commands: " ++ toString c.size ++ " \x7d"

/-- The status values of every system. -/
def statusPoints : List Point := [.status .behaviour, .status .health, .status .mode]

/-- The values of a terminal unit. -/
def rtuPoints : List Point :=
  statusPoints ++
    [Attribute.alarmOne, .alarmTwo, .alarmThree, .alarmFour, .alarmOther, .warningOne, .warningTwo,
      .warningThree, .warningFour, .warningOther].map .genericInput

/-- The numbers of the schedules and of the switches. -/
def indexes : List UInt8 := [1, 2, 3, 4]

/-- The values of what generates or stores energy. -/
def generationPoints : List Point :=
  statusPoints ++
    [⟨.actualPower, none, "MMXU1", .measurand, "mag.f", .float, false⟩,
      ⟨.totalEnergy, none, "DGEN1", .measurand, "actVal", .int, false⟩,
      ⟨.generatorState, none, "DGEN1", .status, "stVal", .int, false⟩,
      ⟨.operationalHours, none, "DGEN1", .status, "stVal", .int, false⟩,
      ⟨.outputSetting, none, "DRCC1", .setPoint, "setMag.f", .float, false⟩,
      ⟨.maximumPower, none, "DGEN1", .setPoint, "setMag.f", .float, false⟩] ++
    indexes.flatMap fun i =>
      [.schedule .scheduleId i, .schedule .scheduleType i, .schedule .scheduleCategory i]

/-- The points that systems of a family have by the standard. -/
def standardPoints : Family → List Point
  | .genericRtu | .daRtu => rtuPoints
  | .pv | .battery | .chp | .boiler => generationPoints
  | .streetlightController => indexes.map .switchPosition

/-- The points of all families by the standard. -/
def standard : Catalog := Family.all.foldl (fun c f => c.addAll f (standardPoints f)) empty

/-- What is found after a registration: the point itself under its key, and elsewhere what was found
before. -/
theorem find?_register (c : Catalog) (k j : PointKey) (p : Point) :
    (c.register k p).find? j = if j = k then some p else c.find? j := by
  rw [find?, register, Table.find?_insert]
  by_cases h : j = k
  · simp [h, Std.compare_self]
  · rw [if_neg h, if_neg]
    · rfl
    · exact fun hc => h (PointKey.rank_injective (Std.LawfulEqCmp.compare_eq_iff_eq.mp hc))

end Catalog

end FieldGateway
