import FieldGateway.Gateway.Basic
import FieldGateway.Plant.Basic
import FieldGateway.Report.Codec
import FieldGateway.Report.Selection
import FieldGateway.Session

/-!
# The plant as JSON

How a plant is set up, and what happened in it within some time. What did not change is left out of
an account of the changes.
-/

namespace FieldGateway

/-! ## Setting up -/

/-- The policy that a JSON value gives; where none is given, the standard one. -/
def Policy.ofJson? : Json → Option Policy
  | .null => some .standard
  | v => do
    let [attempts, retries, backoff] ← v.fields? ["maxAttempts", "retries", "backoffMs"] | none
    let backoff ← Json.optionalOr? Json.uint64? 0 backoff
    match ← Json.optional? Json.uint32? attempts with
    | some n => return .make n backoff
    | none => return .ofRetries (← Json.required? Json.uint32? retries) backoff

/-- The model that a JSON value gives, by the name of a preset or else as it is. -/
def ServerModel.ofPresetJson? (v : Json) : Option ServerModel := do
  match v with
  | .object members =>
    match members.lookup "preset" with
    | some (.string "ssld") => return Preset.streetlight
    | some (.string "rtu") =>
      return Preset.rtu (← Json.required? Json.string? (members.lookup "server"))
    | some (.string "empty") => return .empty
    | _ => ofJson? v
  | _ => ofJson? v

def Fault.ofJson? (v : Json) : Option Fault := do
  let [refusal, breakage] ← v.fields? ["service", "io"] | none
  match ← Json.optional? Json.string? refusal with
  | some text => return .service text
  | none => return .io (← Json.required? Json.string? breakage)

def Preset.Occurrence.ofJson? (v : Json) : Option Occurrence := do
  let [code, relay, position, trigger, time, remark] ←
    v.optionalFields? ["evnType", "swNum", "swVal", "trgType", "trgTime", "remark"] | none
  return {
    code := ← Json.optional? Json.int64? code
    relay := ← Json.optional? Json.int64? relay
    position := ← Json.optional? Json.bool? position
    trigger := ← Json.optional? Json.int64? trigger
    time := ← Json.optional? Json.int64? time
    remark := ← Json.optional? Json.string? remark }

/-- The blockage that a JSON value gives; where nothing is named, there is none. -/
def Blockage.ofJson? (v : Json) : Option Blockage := do
  let [responses, events, measurements] ←
    v.optionalFields? ["responses", "events", "measurements"] | Option.none
  return {
    responses := ← Json.optional? Json.string? responses
    events := ← Json.optional? Json.string? events
    measurements := ← Json.optional? Json.string? measurements }

namespace Interference

/-- A delay, in milliseconds; none where it is missing. -/
def delay? (slot : Option Json) : Option Nat :=
  (Json.optionalOr? Json.uint64? 0 slot).map (·.toNat)

/-- Faults; none where they are missing. -/
def faults? (slot : Option Json) : Option (List Fault) :=
  Json.optionalOr? (Json.list? Fault.ofJson?) [] slot

/-- The delays that a JSON value gives, and its faults behind those that are still to come. -/
def extended? (i : Interference) (v : Json) : Option Interference := do
  let [associate, model, read, models, enables, disables] ← v.optionalFields?
    ["associateDelayMs", "modelDelayMs", "readDelayMs", "model", "enables", "disables"]
    | Option.none
  return {
    associateDelay := ← delay? associate
    modelDelay := ← delay? model
    readDelay := ← delay? read
    modelFaults := i.modelFaults ++ (← faults? models)
    enableFaults := i.enableFaults ++ (← faults? enables)
    disableFaults := i.disableFaults ++ (← faults? disables) }

end Interference

/-- The gateway with a catalog that a JSON value gives; what is missing is as in the standard one,
and no device is taken to have a certain model. -/
def Gateway.ofJson? (catalog : Catalog) (v : Json) : Option Gateway := do
  let [streetlightPort, rtuPort, timeout, policy, disconnect, registration, after] ←
    v.optionalFields? ["ssldPort", "rtuPort", "connectTimeoutMs", "policy", "disconnectDelayMs",
      "registrationReportingDelayMs", "reportingAfterRegistration"] | none
  let g := Gateway.standard
  return {
    streetlightPort := ← Json.optionalOr? Json.uint16? g.streetlightPort streetlightPort
    rtuPort := ← Json.optionalOr? Json.uint16? g.rtuPort rtuPort
    connectTimeout := ← Json.optionalOr? Json.uint64? g.connectTimeout timeout
    policy := ← Policy.ofJson? (policy.getD .null)
    disconnectDelay := ← Json.optionalOr? Json.uint64? g.disconnectDelay disconnect
    registrationDelay := ← Json.optionalOr? Json.uint64? g.registrationDelay registration
    reportsAfterRegistration := ← Json.optionalOr? Json.bool? g.reportsAfterRegistration after
    template := none
    catalog }

/-- The network with further devices, by the models at their addresses. -/
def Network.extended? (n : Network) : Json → Option Network
  | .object members =>
    members.foldlM (fun n m => (ServerModel.ofPresetJson? m.2).map fun model =>
      n.insert m.1 (.ofModel model)) n
  | _ => some n

/-! ## Telling what happened -/

def Session.toJson (s : Session) : Json :=
  .object [("deviceId", .string s.deviceId), ("ip", .string s.identity.host),
    ("server", .string s.server), ("nodes", .int s.model.nodes.length),
    ("brcbs", .int s.model.buffered.length), ("urcbs", .int s.model.unbuffered.length)]

def Enabling.toJson (e : Enabling) : Json :=
  .object [("enabled", Json.ofList .string e.enabled), ("failed", Json.ofList .string e.failed)]

def Activity.toJson (a : Activity) : Json :=
  let count (name : String) (n : Nat) : List (String × Json) :=
    if n = 0 then [] else [(name, .int n)]
  .object (count "associations" a.associations ++ count "closes" a.releases ++
    count "reads" a.reads ++ Json.unlessEmpty "writes" (Json.ofList Node.toJson a.writes) ++
    Json.unlessEmpty "enabled" (Json.ofList .string a.enabled) ++
    Json.unlessEmpty "disabled" (Json.ofList .string a.disabled))

def Sound.toJson : Sound → Json
  | .report r => .object [("report", r.toJson)]
  | .closed => .object [("closed", .null)]

def Outbox.members (o : Outbox) : List (String × Json) :=
  Json.unlessEmpty "responses" (Json.ofList Response.toJson o.responses) ++
    Json.unlessEmpty "events" (Json.ofList EventBatch.toJson o.events) ++
    Json.unlessEmpty "measurements" (Json.ofList (.object ·.members) o.measurements)

/-- What happened in the plant since earlier. -/
def Plant.changesSince (p earlier : Plant) : List (String × Json) :=
  let hosts := (p.network.activitySince earlier.network).flatMap fun (host, a) =>
    Json.unlessEmpty host a.toJson
  Json.unlessEmpty "hosts" (.object hosts) ++ (p.outbox.since earlier.outbox).members ++
    Json.unlessEmpty "heard" (Json.ofList Sound.toJson (p.heard.drop earlier.heard.length)) ++
    Json.unlessEmpty "metrics" (.object (p.counters.since earlier.counters).grown)

end FieldGateway
