import FieldGateway.Model.Basic

/-!
# Reports

A device sends a report when values of a data set change. Reports of a control block are numbered;
one that does not fit into a message is sent in segments under one number. The time of entry is
counted by the device from 1984 on; times near the end of 64 bits cannot be counted from 1970.

* `Report.toInt_of_ofEntryTime?`, `Report.toEntryTime?_of_ofEntryTime?`: a time that can be told in
  both counts is told exactly, and there and back it is the same.
-/

namespace FieldGateway

/-- What the clock shows while a report is handled, in milliseconds since 1970. Each member that
needs the time has a reading of its own, known by the place of the member. -/
abbrev Clock := Nat → Int64

/-- A clock that shows the same all the time. -/
def Clock.still (now : Int64) : Clock := fun _ => now

structure DataSet where
  reference : String
  members : List Node
deriving DecidableEq, Repr, Inhabited

/-- What a device sends of its own accord. -/
structure Report where
  id : String
  block : String
  sequence : Option UInt32
  segment : Option UInt32
  /-- Whether more segments follow. -/
  continued : Bool
  /-- Whether the device had to drop reports before this one. -/
  overflow : Bool
  /-- The time of entry, in milliseconds since 1984. -/
  entry : Option Int64
  dataSet : Option DataSet
deriving DecidableEq, Repr, Inhabited

namespace Report

/-- The milliseconds from 1970 to 1984. -/
def epochShift : Int64 := 441763200000

/-- The number of 64 bits that an integer is, if it is one. -/
def int64? (n : Int) : Option Int64 :=
  if Int64.minValue.toInt ≤ n ∧ n ≤ Int64.maxValue.toInt then some (.ofInt n) else none

/-- The milliseconds since 1970 at a time counted from 1984, if they can be told. -/
def ofEntryTime? (t : Int64) : Option Int64 := int64? (t.toInt + epochShift.toInt)

/-- The milliseconds since 1984 at a time counted from 1970, if they can be told. -/
def toEntryTime? (t : Int64) : Option Int64 := int64? (t.toInt - epochShift.toInt)

/-- The time of entry, in milliseconds since 1970. -/
def time? (r : Report) : Option Int64 := r.entry.bind ofEntryTime?

/-- Whether there is a time of entry that cannot be told: whoever asks for it breaks off. -/
def breaksOff (r : Report) : Bool := r.entry.any fun t => (ofEntryTime? t).isNone

def members (r : Report) : List Node :=
  match r.dataSet with
  | none => []
  | some d => d.members

/-- The members, each with its reading of the clock. -/
def timed (r : Report) (clock : Clock) : List (Node × Int64) :=
  r.members.mapIdx fun i m => (m, clock i)

/-- An optional part of a text; a dash where it is missing. -/
def orDash (s : Option String) : String := s.getD "-"

def describe (r : Report) (deviceId : String) : String :=
  "device: " ++ deviceId ++ ", reportId: " ++ r.id ++
    ", timeOfEntry: " ++ orDash (r.time?.map fun t => toString t.toInt) ++
    ", sqNum: " ++ orDash (r.sequence.map fun n => toString n.toNat) ++
    (match r.segment with
      | none => ""
      | some n => " subSqNum: " ++ toString n.toNat) ++
    (if r.continued then " (more segments follow for this sqNum)" else "")

theorem toInt_of_int64? {n : Int} {t : Int64} (h : int64? n = some t) : t.toInt = n := by
  unfold int64? at h
  split at h
  · next hn => exact Option.some.inj h ▸ Int64.toInt_ofInt_of_le hn.1 (Int.lt_add_one_of_le hn.2)
  · cases h

theorem int64?_toInt (t : Int64) : int64? t.toInt = some t := by
  have hn : Int64.minValue.toInt ≤ t.toInt ∧ t.toInt ≤ Int64.maxValue.toInt :=
    ⟨t.minValue_le_toInt, t.toInt_le⟩
  rw [int64?, if_pos hn, Int64.ofInt_toInt]

theorem toInt_of_ofEntryTime? {t u : Int64} (h : ofEntryTime? t = some u) :
    u.toInt = t.toInt + epochShift.toInt := toInt_of_int64? h

theorem toEntryTime?_of_ofEntryTime? {t u : Int64} (h : ofEntryTime? t = some u) :
    toEntryTime? u = some t := by
  rw [toEntryTime?, toInt_of_ofEntryTime? h, Int.add_sub_cancel]
  exact int64?_toInt t

/-- The two counts differ by the days of fourteen years, three of them leap years. -/
theorem epochShift_eq : epochShift = (14 * 365 + 3) * 24 * 60 * 60 * 1000 := by decide

end Report

end FieldGateway
