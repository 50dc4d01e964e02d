import FieldGateway.Device.Basic

/-!
# Devices as JSON

In a device record the members of the identity stand beside those of the record itself, so that a
record is always an object. Its members are held in memory until all names are known.
-/

namespace FieldGateway

/-- The server name is the one member of an identity that may be missing. -/
def Identity.members (i : Identity) : List (String × Json) :=
  [("deviceId", .string i.deviceId), ("ipAddress", .string i.host), ("family", i.family.toJson),
    ("serverName", Json.ofOption .string i.configuredServer)]

def Identity.fields : List Json.Field := ["deviceId", "ipAddress", "family", "serverName"]

/-- The identity that the values of the fields give. -/
def Identity.ofSlots? (source : Json.Source) : List (Option Json) → Option Identity
  | [deviceId, host, family, server] => do
    return {
      deviceId := ← Json.required? Json.string? deviceId
      host := ← Json.required? Json.string? host
      family := ← Json.required? (Family.ofJson? source) family
      configuredServer := ← Json.optional? Json.string? server }
  | _ => none

def Identity.toJson (i : Identity) : Json := .object i.members

def Identity.ofJson? (v : Json) : Option Identity := (v.fields? fields).bind (ofSlots? .text)

def RelayKind.toJson (k : RelayKind) : Json := .string k.name

def RelayKind.ofJson? : Json → Option RelayKind :=
  Json.choice? .text (all.map fun k => (k.name, k))

def OutputSetting.toJson (o : OutputSetting) : Json :=
  .object [("internalId", .int o.internalId.toNat), ("externalId", .int o.externalId.toNat),
    ("relayType", o.kind.toJson)]

def OutputSetting.ofJson? (v : Json) : Option OutputSetting := do
  let [internal, external, kind] ← v.fields? ["internalId", "externalId", "relayType"] | none
  return {
    internalId := ← Json.required? Json.uint8? internal
    externalId := ← Json.required? Json.uint8? external
    kind := ← Json.required? RelayKind.ofJson? kind }

def ReportSelection.toJson (r : ReportSelection) : Json :=
  .object [("logicalDevice", .string r.logicalDevice), ("logicalNode", .string r.logicalNode)]

def ReportSelection.ofJson? (v : Json) : Option ReportSelection := do
  let [device, node] ← v.fields? ["logicalDevice", "logicalNode"] | none
  return {
    logicalDevice := ← Json.required? Json.string? device
    logicalNode := ← Json.required? Json.string? node }

namespace Device

def toJson (d : Device) : Json :=
  .object (d.identity.members ++
    [("outputSettings", Json.ofList OutputSetting.toJson d.outputs),
      ("enableAllReportsOnConnect", .bool d.wantsAllReports),
      ("reportSelections", Json.ofList ReportSelection.toJson d.selections)])

/-- The fields of a record beside those of its identity. -/
def fields : List Json.Field :=
  ["outputSettings", "enableAllReportsOnConnect", "reportSelections"]

/-- The members that no field of the record itself takes. -/
def restOf (members : List (String × Json)) : List (String × Json) :=
  members.filter fun m => !fields.any (·.isNamed m.1)

/-- The device that a JSON value gives, in a text that may go `room` deeper. -/
def ofJson? (room : Nat) : Json → Option Device
  | .object members => do
    guard (Json.heldMembers (room - 1) (restOf members))
    let identity ← (Json.slots? Identity.fields members).bind (Identity.ofSlots? .memory)
    let [outputs, all, selections] ← Json.slots? fields members | none
    return {
      identity
      outputs := ← Json.default? (Json.list? OutputSetting.ofJson?) [] outputs
      wantsAllReports := ← Json.default? Json.bool? false all
      selections := ← Json.default? (Json.list? ReportSelection.ofJson?) [] selections }
  | _ => none

/-- The devices that a JSON sequence gives. -/
def listOfJson? (room : Nat) (v : Json) : Option (List Device) :=
  v.list? (ofJson? (room - 1))

end Device

end FieldGateway
