import FieldGateway.Json.Basic

/-!
# Taking JSON values apart

A record is read from an object, or from a sequence that gives the values of its fields in the order
of the declaration. In an object the members may stand in any order and members of other names are
passed over, but no field may be given twice, not even under two of its names.

* `slot?_perm`: the order of an object's members does not matter.
* `slot?_append`: nor do members that no field takes.
-/

namespace FieldGateway.Json

/-- How deep a text may nest where its reader holds the value in memory. -/
def maxDepth : Nat := 127

/-! ## Scalars -/

def bool? : Json → Option Bool
  | .bool b => some b
  | _ => none

def string? : Json → Option String
  | .string s => some s
  | _ => none

/-- An integer from `low` on and below `high`. -/
def within? (low high : Int) : Json → Option Int
  | .int n => if low ≤ n ∧ n < high then some n else none
  | _ => none

def uint8? (v : Json) : Option UInt8 := (v.within? 0 UInt8.size).map fun n => UInt8.ofNat n.toNat

def uint16? (v : Json) : Option UInt16 :=
  (v.within? 0 UInt16.size).map fun n => UInt16.ofNat n.toNat

def uint32? (v : Json) : Option UInt32 :=
  (v.within? 0 UInt32.size).map fun n => UInt32.ofNat n.toNat

def uint64? (v : Json) : Option UInt64 :=
  (v.within? 0 UInt64.size).map fun n => UInt64.ofNat n.toNat

def int32? (v : Json) : Option Int32 := (v.within? (-0x80000000) 0x80000000).map Int32.ofInt

def int64? (v : Json) : Option Int64 :=
  (v.within? (-0x8000000000000000) 0x8000000000000000).map Int64.ofInt

/-- Any number, as the nearest float. -/
def float? : Json → Option Float
  | .int n => some (Float.ofInt n)
  | .float x => some x
  | _ => none

/-- A float as a number; there is none for infinities and what is not a number. -/
def ofFloat (x : Float) : Json := if x.isFinite then .float x else .null

def list? {α : Type} (item? : Json → Option α) : Json → Option (List α)
  | .array items => items.mapM item?
  | _ => none

/-- Where a value is read from. -/
inductive Source where
  /-- The text itself. -/
  | text
  /-- Memory, where a value waits for its type to be known. -/
  | memory
deriving DecidableEq, Repr, Inhabited

/-- Holds of what stands for nothing: `null`, and in memory an object without members too. -/
def Source.isNothing : Source → Json → Bool
  | _, .null => true
  | .memory, .object [] => true
  | _, _ => false

/-- One of a list of names; a name may also stand as the only member of an object, over nothing. -/
def choice? {α : Type} (source : Source) (choices : List (String × α)) : Json → Option α
  | .string s => choices.lookup s
  | .object [(s, v)] => if source.isNothing v then choices.lookup s else none
  | _ => none

/-! ## Records -/

/-- The names that a field may be given under. -/
structure Field where
  name : String
  /-- Further names that are read. -/
  aliases : List String

instance : Coe String Field := ⟨fun name => ⟨name, []⟩⟩

/-- Holds of a name the field may be given under. -/
def Field.isNamed (f : Field) (name : String) : Bool := f.name == name || f.aliases.contains name

/-- The values given for a field. -/
def given (f : Field) (members : List (String × Json)) : List Json :=
  (members.filter fun m => f.isNamed m.1).map (·.2)

/-- The value given for a field, if there is one; fails if it is given twice. -/
def slot? (f : Field) (members : List (String × Json)) : Option (Option Json) :=
  match given f members with
  | [] => some none
  | [v] => some (some v)
  | _ => none

/-- The values given for the fields of a record, in their order. -/
def slots? (fields : List Field) (members : List (String × Json)) : Option (List (Option Json)) :=
  fields.mapM (slot? · members)

/-- The values given for the fields of a record, by an object or by a sequence. -/
def fields? (fields : List Field) : Json → Option (List (Option Json))
  | .object members => slots? fields members
  | .array items =>
    if items.length ≤ fields.length then
      some (items.map some ++ List.replicate (fields.length - items.length) none)
    else none
  | _ => none

/-- The values given for the fields of a record none of which need be given; what is no object gives
none. -/
def optionalFields? (fields : List Field) : Json → Option (List (Option Json))
  | .object members => slots? fields members
  | _ => some (fields.map fun _ => none)

/-- A field that must be given. -/
def required? {α : Type} (read? : Json → Option α) (slot : Option Json) : Option α :=
  slot.bind read?

/-- A field that may be missing or `null`. -/
def optional? {α : Type} (read? : Json → Option α) : Option Json → Option (Option α)
  | none | some .null => some none
  | some v => (read? v).map some

/-- A field that has a given value where it is missing or `null`. -/
def optionalOr? {α : Type} (read? : Json → Option α) (value : α) (slot : Option Json) : Option α :=
  (optional? read? slot).map (·.getD value)

/-- A field that may be missing, but not `null`. -/
def default? {α : Type} (read? : Json → Option α) (value : α) : Option Json → Option α
  | none => some value
  | some v => read? v

/-! ## Single members -/

/-- The value of the first member of a name, `null` where there is none. -/
def get (v : Json) (name : String) : Json :=
  match v with
  | .object members => (members.lookup name).getD .null
  | _ => .null

/-- Whether there is a member of a name that is not `null`. -/
def has (v : Json) (name : String) : Bool :=
  match v.get name with
  | .null => false
  | _ => true

/-! ## Alternatives -/

/-- The tag of an alternative, and the value without it. -/
def tagged? (tag : String) : Json → Option (Json × Json)
  | .object members =>
    match slot? tag members with
    | some (some t) => some (t, .object (members.filter fun m => m.1 != tag))
    | _ => none
  | .array (t :: r) => some (t, .array r)
  | _ => none

/-- The contents of an alternative that has none. -/
def nothing? : Json → Option Unit
  | .object _ | .array [] => some ()
  | _ => none

theorem given_append (f : Field) (l r : List (String × Json)) :
    given f (l ++ r) = given f l ++ given f r := by
  simp [given]

theorem given_perm (f : Field) {l r : List (String × Json)} (h : l.Perm r) :
    (given f l).Perm (given f r) :=
  (h.filter _).map _

/-- Which value a field has does not depend on the order of the members. -/
theorem slot?_perm (f : Field) {l r : List (String × Json)} (h : l.Perm r) :
    slot? f l = slot? f r := by
  have hp := given_perm f h
  have hl := hp.length_eq
  unfold slot?
  match hg : given f l, hr : given f r with
  | [], [] => rfl
  | [v], [w] => simpa [hg, hr] using hp
  | _ :: _ :: _, _ :: _ :: _ => rfl
  | [], _ :: _ | _ :: _, [] => simp [hg, hr] at hl
  | [_], _ :: _ :: _ | _ :: _ :: _, [_] => simp [hg, hr] at hl

/-- Members of other names do not change the value of a field. -/
theorem slot?_append (f : Field) {l r : List (String × Json)}
    (h : ∀ m ∈ r, f.isNamed m.1 = false) : slot? f (l ++ r) = slot? f l := by
  have : given f r = [] := by simpa [given, List.filter_eq_nil_iff] using h
  simp [slot?, given_append, this]

end FieldGateway.Json
