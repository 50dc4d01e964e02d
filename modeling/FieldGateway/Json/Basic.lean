/-!
# JSON values

A value as it was read: the members of an object keep their order and may repeat a name, and a
number remembers whether it was written as an integer that fits in 64 bits.

Some texts follow the grammar and still have no value: a string with half of a surrogate pair, a
number beyond the largest float, an object with a name of that kind. They are `unreadable`, which
harms only a reader that needs the value. A reader that holds a value in memory before it knows the
value's type needs all of it, and has room for a limited depth: this is `Json.held`.
-/

namespace FieldGateway

inductive Json where
  | null
  | bool (b : Bool)
  /-- An integer of 64 bits, with or without sign. -/
  | int (n : Int)
  | float (x : Float)
  | string (s : String)
  | array (items : List Json)
  /-- Members in the order of the text. -/
  | object (members : List (String × Json))
  /-- A text of the grammar that stands for no value. -/
  | unreadable
deriving Inhabited, Repr

namespace Json

def ofMembers (members : List (String × Json)) : Json := .object members

def ofOption {α : Type} (f : α → Json) : Option α → Json
  | none => .null
  | some a => f a

def ofList {α : Type} (f : α → Json) (l : List α) : Json := .array (l.map f)

/-- A member, unless there is nothing in it. -/
def unlessEmpty (name : String) : Json → List (String × Json)
  | .array [] | .object [] => []
  | v => [(name, v)]

mutual

/-- Holds of a value that has a value in every part and nests at most `room` deep. -/
def held (room : Nat) : Json → Bool
  | .array items => 0 < room && heldItems (room - 1) items
  | .object members => 0 < room && heldMembers (room - 1) members
  | .unreadable => false
  | _ => true

/-- `held` for the items of a sequence. -/
def heldItems (room : Nat) : List Json → Bool
  | [] => true
  | v :: r => held room v && heldItems room r

/-- `held` for the members of an object. -/
def heldMembers (room : Nat) : List (String × Json) → Bool
  | [] => true
  | (_, v) :: r => held room v && heldMembers room r

end

theorem heldItems_iff {room : Nat} {l : List Json} :
    heldItems room l = true ↔ ∀ v ∈ l, held room v = true := by
  induction l with
  | nil => simp [heldItems]
  | cons v r ih => simp [heldItems, ih]

theorem heldMembers_iff {room : Nat} {l : List (String × Json)} :
    heldMembers room l = true ↔ ∀ m ∈ l, held room m.2 = true := by
  induction l with
  | nil => simp [heldMembers]
  | cons m r ih => simp [heldMembers, ih]

end Json

end FieldGateway
