import FieldGateway.Json.Fields

/-!
# Values of a model

A value may be looked at as a value of another type where nothing is lost by it: a truth value as 0
or 1, an integer as a number or as "not 0".
-/

namespace FieldGateway

/-- A value of a device's model. -/
inductive Value where
  | bool (b : Bool)
  | int (n : Int64)
  | float (x : Float)
  | text (s : String)
  /-- A time, in milliseconds since 1970. -/
  | timestamp (t : Int64)
deriving DecidableEq, Repr, Inhabited

namespace Value

def bool? : Value → Option Bool
  | .bool b => some b
  | .int n => some (n != 0)
  | _ => none

def int? : Value → Option Int64
  | .int n => some n
  | .bool b => some (if b then 1 else 0)
  | _ => none

def float? : Value → Option Float
  | .float x => some x
  | .int n => some (Float.ofInt n.toInt)
  | .bool b => some (if b then 1.0 else 0.0)
  | _ => none

def text? : Value → Option String
  | .text s => some s
  | _ => none

def timestamp? : Value → Option Int64
  | .timestamp t => some t
  | _ => none

/-- A value as JSON, beside the name of its type. -/
def toJson : Value → Json
  | .bool b => .object [("type", .string "bool"), ("value", .bool b)]
  | .int n => .object [("type", .string "int"), ("value", .int n.toInt)]
  | .float x => .object [("type", .string "float"), ("value", Json.ofFloat x)]
  | .text s => .object [("type", .string "text"), ("value", .string s)]
  | .timestamp t => .object [("type", .string "timestamp"), ("value", .int t.toInt)]

/-- The readers of the types by their names. -/
def readers : List (String × (Json → Option Value)) :=
  [("bool", fun v => v.bool?.map .bool), ("int", fun v => v.int64?.map .int),
    ("float", fun v => v.float?.map .float), ("text", fun v => v.string?.map .text),
    ("timestamp", fun v => v.int64?.map .timestamp)]

/-- The value that a JSON value gives: an object, or a sequence that begins with a plain name. -/
def ofJson? : Json → Option Value
  | .array [.string type, contents] => (readers.lookup type).bind (· contents)
  | .object members => do
    let [tag, contents] ← Json.slots? ["type", "value"] members | none
    let read? ← Json.required? (Json.choice? .text readers) tag
    read? (← contents)
  | _ => none

end Value

end FieldGateway
