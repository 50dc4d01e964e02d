import FieldGateway.Json.Token

/-!
# Reading JSON texts

The words of a text are taken in one after the other, with the brackets that are still open on a
stack, so that reading needs no recursion of its own. A text is one value with nothing behind it.
-/

namespace FieldGateway.Json

/-- An open bracket and what was read inside it, last part first. -/
inductive Frame where
  /-- Inside a sequence. -/
  | array (read : List Json)
  /-- Inside an object; `none` is a name without a text. -/
  | object (read : List (Option String × Json))
  /-- Inside an object, after a name and its colon. -/
  | member (read : List (Option String × Json)) (name : Option String)
deriving Inhabited, Repr

inductive Expect where
  | value
  /-- A value or the end of a sequence that has none yet. -/
  | firstItem
  | name
  /-- A name or the end of an object that has none yet. -/
  | firstName
  | colon (name : Option String)
  /-- A comma, the end of the innermost bracket, or the end of the text. -/
  | next
deriving Inhabited, Repr

/-- The open brackets, innermost first, what may come next, and the value once it is complete. -/
structure Reading where
  /-- The open brackets, innermost first. -/
  opened : List Frame
  expect : Expect
  /-- The value of the text, once it is complete. -/
  result : Option Json
deriving Inhabited, Repr

/-- An object of the members; it cannot be read if one of the names cannot. -/
def ofNamed (members : List (Option String × Json)) : Json :=
  match members.mapM fun m => m.1.map (·, m.2) with
  | some ms => .object ms
  | none => .unreadable

namespace Reading

def start : Reading := ⟨[], .value, none⟩

/-- A complete value, put where it belongs. -/
def put? (opened : List Frame) (v : Json) : Option Reading :=
  match opened with
  | [] => some ⟨[], .next, some v⟩
  | .array read :: r => some ⟨.array (v :: read) :: r, .next, none⟩
  | .member read name :: r => some ⟨.object ((name, v) :: read) :: r, .next, none⟩
  | .object _ :: _ => none

/-- A value that starts here, if one may. -/
def value? (s : Reading) (v : Json) : Option Reading :=
  match s.expect with
  | .value | .firstItem => put? s.opened v
  | _ => none

/-- The reading after one more word; `none` if it may not stand there. -/
def step? (s : Reading) (t : Token) : Option Reading :=
  match t with
  | .scalar v => s.value? v
  | .text x =>
    match s.expect with
    | .name | .firstName => some { s with expect := .colon x }
    | _ => s.value? (match x with
      | some x => .string x
      | none => .unreadable)
  | .openArray =>
    match s.expect with
    | .value | .firstItem => some ⟨.array [] :: s.opened, .firstItem, none⟩
    | _ => none
  | .openObject =>
    match s.expect with
    | .value | .firstItem => some ⟨.object [] :: s.opened, .firstName, none⟩
    | _ => none
  | .closeArray =>
    match s.expect, s.opened with
    | .firstItem, .array read :: r | .next, .array read :: r => put? r (.array read.reverse)
    | _, _ => none
  | .closeObject =>
    match s.expect, s.opened with
    | .firstName, .object read :: r | .next, .object read :: r => put? r (ofNamed read.reverse)
    | _, _ => none
  | .comma =>
    match s.expect, s.opened with
    | .next, .array _ :: _ => some { s with expect := .value }
    | .next, .object _ :: _ => some { s with expect := .name }
    | _, _ => none
  | .colon =>
    match s.expect, s.opened with
    | .colon name, .object read :: r => some ⟨.member read name :: r, .value, none⟩
    | _, _ => none

end Reading

/-- The value that a text of bytes stands for; `none` if it does not follow the grammar. -/
def ofBytes? (bytes : List UInt8) : Option Json := do
  let ts ← tokens? bytes
  let s ← ts.foldlM Reading.step? Reading.start
  s.result

/-- The value that a text stands for; `none` if it does not follow the grammar. -/
def ofText? (s : String) : Option Json := ofBytes? s.toUTF8.toList

end FieldGateway.Json
