import FieldGateway.Proofs.Command.Catalog
import FieldGateway.Proofs.Tables
import Mathlib.Data.List.Dedup

/-!
# The history of a catalog

A catalog grows from an empty one by points that are put in, either under an attribute and a number
that are told or under their own. The number counts only for an attribute that has several values,
both when a point is put in and when one is looked up, so that the two agree on what is the same.

* `Catalog.after_eq`: a catalog as a table of what was put in.
* `Catalog.lookup_after`, `Catalog.size_after`: what is found, and how much there is.
* `Catalog.standard_eq_after`: the standard catalog holds points under their own attributes.
* `Catalog.last_put_in_found`: all of this for every history of a catalog.
-/

namespace FieldGateway

/-- What is put into a catalog. -/
inductive Registration where
  /-- A point under an attribute and a number that are told. -/
  | told (family : Family) (attr : Attribute) (index : Option UInt8) (point : Point)
  /-- A point under its own attribute and number. -/
  | own (family : Family) (point : Point)
deriving DecidableEq, Repr, Inhabited

namespace Registration

def family : Registration → Family
  | .told family _ _ _ | .own family _ => family

def attr : Registration → Attribute
  | .told _ attr _ _ => attr
  | .own _ point => point.attr

def index : Registration → Option UInt8
  | .told _ _ index _ => index
  | .own _ point => point.index

def point : Registration → Point
  | .told _ _ _ point | .own _ point => point

/-- Whether it is what somebody asks for. -/
def Answers (r : Registration) (family : Family) (attr : Attribute) (index : Option UInt8) : Prop :=
  r.family = family ∧ r.attr = attr ∧ (attr.usesIndex = true → r.index = index)

instance (r : Registration) (family : Family) (attr : Attribute) (index : Option UInt8) :
    Decidable (r.Answers family attr index) :=
  inferInstanceAs (Decidable (_ ∧ _))

/-- What it is found by. -/
def key (r : Registration) : PointKey := .make r.family r.attr r.index

theorem key_eq_iff {r : Registration} {family : Family} {attr : Attribute} {index : Option UInt8} :
    r.key = .make family attr index ↔ r.Answers family attr index := by
  constructor
  · intro h
    obtain ⟨hfamily, hattr, hindex⟩ := PointKey.make_inj h
    exact ⟨hfamily, hattr, fun huses => hindex (hattr ▸ huses)⟩
  · rintro ⟨rfl, rfl, hindex⟩
    by_cases huses : r.attr.usesIndex = true
    · rw [key, hindex huses]
    · simp [key, PointKey.make, huses]

end Registration

namespace Catalog

variable {family : Family} {attr : Attribute} {index : Option UInt8} {p : Point}

/-- The catalog with a point put in. -/
def put (c : Catalog) : Registration → Catalog
  | .told family attr index point => c.register (.make family attr index) point
  | .own family point => c.add family point

/-- The catalog after a history. -/
def after (rs : List Registration) : Catalog := rs.foldl put empty

/-- The last of some registrations that answers somebody who asks. -/
def lastOf? (rs : List Registration) (family : Family) (attr : Attribute) (index : Option UInt8) :
    Option Registration :=
  (rs.filter fun r => r.Answers family attr index).getLast?

theorem put_eq (c : Catalog) (r : Registration) : c.put r = c.register r.key r.point := by
  cases r <;> rfl

/-- A catalog is a table of the points that were put in. -/
theorem after_eq (rs : List Registration) :
    after rs = ⟨.ofList (rs.map fun r => (r.key.rank, r.point))⟩ := by
  rw [after, Table.ofList, List.foldl_map]
  exact List.foldl_hom Catalog.mk fun t r => put_eq ⟨t⟩ r

/-- The point of the last registration that answers is found. -/
theorem find?_after (rs : List Registration) (family : Family) (attr : Attribute)
    (index : Option UInt8) :
    (after rs).find? (.make family attr index) = (lastOf? rs family attr index).map (·.point) := by
  have hkey : ∀ r : Registration, decide (r.key.rank = (PointKey.make family attr index).rank) =
      decide (r.Answers family attr index) := by
    intro r
    rw [decide_eq_decide, ← Registration.key_eq_iff]
    exact ⟨PointKey.rank_injective, congrArg PointKey.rank⟩
  rw [after_eq, find?, Table.find?_ofList, List.filter_map, List.getLast?_map, Option.map_map,
    lastOf?]
  simp only [Function.comp_def, hkey]

/-- Who asks gets the point of the last registration that answers, or is told what is missing. -/
theorem lookup_after (rs : List Registration) (family : Family) (attr : Attribute)
    (index : Option UInt8) :
    (after rs).lookup family attr index =
      match lastOf? rs family attr index with
      | some r => .ok r.point
      | none => .error ⟨family, attr, if attr.usesIndex then index else none⟩ := by
  unfold lookup
  dsimp only
  rw [find?_after]
  cases lastOf? rs family attr index <;> rfl

/-- There are as many points as there are keys. -/
theorem size_after (rs : List Registration) :
    (after rs).size = (rs.map Registration.key).dedup.length := by
  have hrank : (rs.map fun r => (r.key.rank, r.point)).map (·.1) =
      (rs.map Registration.key).map PointKey.rank := by
    rw [List.map_map, List.map_map]
    rfl
  rw [after_eq, size, Table.size_ofList, hrank,
    List.dedup_map_of_injective fun _ _ => PointKey.rank_injective, List.length_map]

/-- What is found among points under their own attributes has the attribute that was asked for, and
the number where it counts. -/
theorem attr_of_lookup_after {rs : List Registration}
    (hown : ∀ r ∈ rs, r.attr = r.point.attr ∧ r.index = r.point.index)
    (h : (after rs).lookup family attr index = .ok p) :
    p.attr = attr ∧ (attr.usesIndex = true → p.index = index) := by
  rw [lookup_after] at h
  split at h
  · next r hr =>
    cases h
    have hmem := List.mem_of_getLast? hr
    rw [List.mem_filter, decide_eq_true_eq] at hmem
    obtain ⟨hmem, -, hattr, hindex⟩ := hmem
    rw [← (hown r hmem).1, ← (hown r hmem).2]
    exact ⟨hattr, hindex⟩
  · cases h

/-- The points of the standard, family by family. -/
def standardHistory : List Registration :=
  Family.all.flatMap fun f => (standardPoints f).map (.own f)

theorem standard_eq_after : standard = after standardHistory := by
  rw [after, standardHistory, List.foldl_flatMap]
  simp only [List.foldl_map]
  rfl

theorem own_of_mem_standardHistory {r : Registration} (h : r ∈ standardHistory) :
    ∃ family point, r = .own family point := by
  obtain ⟨f, -, hr⟩ := List.mem_flatMap.1 h
  obtain ⟨p, -, rfl⟩ := List.mem_map.1 hr
  exact ⟨f, p, rfl⟩

/-- After every history of a catalog somebody who asks for an attribute of a family gets the point
of the last registration of that family and attribute and, where the attribute has several values,
of that number; if there is none, it is told what is missing, with a number only where it counts.
There are as many points as registrations that differ in these. If all points were put in under
their own attributes and numbers, as those of the standard catalog were, whatever is found has the
attribute that was asked for and, where it counts, the number. -/
theorem last_put_in_found (rs : List Registration) :
    (∀ family attr index, (after rs).lookup family attr index =
      match (rs.filter fun r => r.Answers family attr index).getLast? with
      | some r => .ok r.point
      | none => .error ⟨family, attr, if attr.usesIndex then index else none⟩) ∧
    ((after rs).size = (rs.map Registration.key).dedup.length ∧
      ∀ q r : Registration, q.key = r.key ↔ q.Answers r.family r.attr r.index) ∧
    ((∀ r ∈ rs, ∃ family point, r = .own family point) → ∀ family attr index p,
      (after rs).lookup family attr index = .ok p →
        p.attr = attr ∧ (attr.usesIndex = true → p.index = index)) ∧
    standard = after standardHistory ∧
      ∀ r ∈ standardHistory, ∃ family point, r = .own family point := by
  refine ⟨lookup_after rs, ⟨size_after rs, fun q r => Registration.key_eq_iff⟩, ?_,
    standard_eq_after, fun r => own_of_mem_standardHistory⟩
  intro hown family attr index p hp
  refine attr_of_lookup_after (fun r hr => ?_) hp
  obtain ⟨f, q, rfl⟩ := hown r hr
  exact ⟨rfl, rfl⟩

/-- Points of a solar plant under their own attributes, the first with a number that does not count
and the last in its place. -/
def revised : List Registration :=
  [.own .pv { Point.status .mode with index := some 7 }, .own .pv (.schedule .scheduleId 2),
    .own .pv (.genericInput .mode)]

theorem last_put_in_found_revised :
    (∀ r ∈ revised, ∃ family point, r = .own family point) ∧
      (after revised).lookup .pv .mode (some 9) = .ok (.genericInput .mode) ∧
      (after revised).lookup .pv .scheduleId (some 2) = .ok (.schedule .scheduleId 2) ∧
      (after revised).lookup .pv .scheduleId (some 3) = .error ⟨.pv, .scheduleId, some 3⟩ ∧
      (after revised).lookup .pv .health (some 3) = .error ⟨.pv, .health, none⟩ ∧
      (after revised).size = 2 ∧
      (Point.genericInput .mode).attr = .mode := by
  have hown : ∀ r ∈ revised, ∃ family point, r = .own family point := by
    simp [revised]
  obtain ⟨hlookup, ⟨hsize, -⟩, hfound, -, -⟩ := last_put_in_found revised
  have hmode : (after revised).lookup .pv .mode (some 9) = .ok (.genericInput .mode) := by
    rw [hlookup]
    decide +kernel
  refine ⟨hown, hmode, ?_, ?_, ?_, ?_, (hfound hown _ _ _ _ hmode).1⟩
  · rw [hlookup]
    decide +kernel
  · rw [hlookup]
    decide +kernel
  · rw [hlookup]
    decide +kernel
  · rw [hsize]
    decide +kernel

end Catalog

end FieldGateway
