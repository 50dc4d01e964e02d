import FieldGateway.Gateway.Handle
import FieldGateway.Text.Percent

/-!
# Over HTTP

The gateway tells over HTTP that it is alive and what it has counted, and is told that a device has
registered. Answers are wrapped alike: whether it went well, and then either the data or an error
with a code.
-/

namespace FieldGateway.Http

inductive Body where
  | none
  | text (s : String)
  | json (v : Json)
deriving Inhabited, Repr

structure Answer where
  status : Nat
  body : Body
deriving Inhabited, Repr

namespace Answer

/-- It went well. -/
def success (data : Json) : Answer :=
  ⟨200, .json (.object [("success", .bool true), ("data", data), ("error", .null)])⟩

/-- It went wrong. -/
def error (status : Nat) (code message : String) : Answer :=
  ⟨status, .json (.object [("success", .bool false), ("data", .null),
    ("error", .object [("code", .string code), ("message", .string message)])])⟩

/-- Nothing is to be had there. -/
def notFound : Answer := ⟨404, .none⟩

/-- Nothing is to be had there in that way. -/
def notAllowed : Answer := ⟨405, .none⟩

/-- An answer of which only the head is wanted. -/
def headOnly (a : Answer) : Answer := { a with body := .none }

/-- An answer as JSON; nothing is an empty text. -/
def toJson (a : Answer) : Json :=
  .object [("status", .int a.status), ("body", match a.body with
    | .none => .string ""
    | .text s => .string s
    | .json v => v)]

end Answer

inductive Route where
  | health
  | metrics
  /-- A device has registered; its identifier as it stands in the address. -/
  | registered (deviceId : String)
deriving DecidableEq, Repr, Inhabited

/-- What stands in front of the query and the fragment of an address. -/
def withoutQuery (uri : List Char) : List Char := uri.takeWhile fun c => c != '?' && c != '#'

/-- An address without the scheme and the server, in case it names them. -/
def withoutServer (uri : List Char) : List Char :=
  match uri.takeWhile (· != '/'), uri.dropWhile (· != '/') with
  | scheme, '/' :: '/' :: r => if scheme.getLast? = some ':' then r.dropWhile (· != '/') else uri
  | _, _ => uri

def pathOf (uri : String) : List Char := withoutServer (withoutQuery uri.toList)

example : pathOf "http://localhost:8080/health?x=1" = "/health".toList := by decide +kernel

example : pathOf "http://localhost:8080?x=/health" = [] := by decide +kernel

def segments : List Char → List (List Char)
  | [] => [[]]
  | c :: r =>
    if c = '/' then [] :: segments r
    else
      match segments r with
      | [] => [[c]]
      | s :: ss => (c :: s) :: ss

def Route.ofUri? (uri : String) : Option Route :=
  match (segments (pathOf uri)).map String.ofList with
  | ["", "health"] => some .health
  | ["", "metrics"] => some .metrics
  | ["", "devices", id, "registered"] => some (.registered id)
  | _ => none

/-- Whether the gateway is alive, and how many devices it knows. -/
def health (brokerEnabled : Bool) : Work Answer := do
  let devices ← Action.listDevices.perform
  let n := match devices with
    | .ok ds => ds.length
    | .error _ => 0
  return .success (.object [("status", .string "ok"), ("mqttEnabled", .bool brokerEnabled),
    ("devices", .int n)])

def metrics : Work Answer := do
  let counters ← Action.counts.perform
  return .success (.object counters.members)

def registered (g : Gateway) (deviceId : String) : Work Answer := do
  match ← (Action.findDevice deviceId).perform with
  | .error f => return .error 500 "INTERNAL.ERROR" f.message
  | .ok none => return .error 404 "DEVICE.NOT_FOUND" ("unknown device: " ++ deviceId)
  | .ok (some _) =>
    match ← g.registered deviceId with
    | .error f => return .error 500 "INTERNAL.ERROR" f.message
    | .ok job =>
      return .success (.object [("deviceId", .string deviceId),
        ("reportingScheduled", .bool job.isSome), ("delayMs", .int g.registrationDelay.toNat)])

/-- A device has registered, by its identifier as it stands in the address. -/
def registeredAt (g : Gateway) (id : String) : Work Answer :=
  match Text.percentDecoded? id with
  | some deviceId => registered g deviceId
  | none => return ⟨400, .text "Invalid URL: Invalid UTF-8 in `device_id`"⟩

def answer (g : Gateway) (brokerEnabled : Bool) (method uri : String) : Work Answer :=
  match Route.ofUri? uri, method with
  | none, _ => return .notFound
  | some .health, "GET" => health brokerEnabled
  | some .health, "HEAD" => return (← health brokerEnabled).headOnly
  | some .metrics, "GET" => metrics
  | some .metrics, "HEAD" => return (← metrics).headOnly
  | some (.registered id), "POST" => registeredAt g id
  | some _, _ => return .notAllowed

end FieldGateway.Http
