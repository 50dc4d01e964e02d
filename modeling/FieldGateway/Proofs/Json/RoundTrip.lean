import FieldGateway.Device.Codec
import FieldGateway.Envelope
import FieldGateway.Model.Codec
import FieldGateway.Proofs.Json.Written

/-!
# What is written as JSON is read again

Requests, outcomes, records of devices, models and everything that travels in envelopes are written
as JSON values and read from them by rules of their own. Reading gives back what was written,
whatever it was; only a float that is infinite or no number is written as `null` and not read again.

* `isFinite`, for all that holds floats: whether all of them are finite.
* `Operation.ofJson?_toJson`, `Outcome.ofJson?_toJson`: the two that are held in memory to be read.
* `Json.read_of_written`: all that the platform and the gateway exchange or keep.
-/

namespace FieldGateway

/-! ## Requests -/

namespace Filter

theorem ofJson?_toJson (f : Filter) : ofJson? f.toJson = some f := by
  rw [toJson, ofJson?, Json.fields?_object rfl (by decide)]
  simp

theorem held_toJson (room : Nat) (f : Filter) : f.toJson.held (room + 1) = true := by
  simp [toJson, Json.heldMembers, Json.held]

end Filter

namespace SystemQuery

theorem ofJson?_toJson (q : SystemQuery) : ofJson? q.toJson = some q := by
  rw [toJson, ofJson?, Json.fields?_object rfl (by decide)]
  simp [Family.ofJson?_toJson, Json.list?_ofList_of Filter.ofJson?_toJson]

theorem held_toJson (room : Nat) (q : SystemQuery) : q.toJson.held (room + 3) = true := by
  simp [toJson, Json.heldMembers, Json.held, Family.toJson, Filter.held_toJson]

end SystemQuery

namespace SetPoint

def isFinite (p : SetPoint) : Bool := p.value.isFinite

theorem ofJson?_toJson (p : SetPoint) :
    ofJson? p.toJson = if p.isFinite then some p else none := by
  rw [toJson, ofJson?, Json.fields?_object rfl (by decide)]
  cases h : p.value.isFinite <;> simp [isFinite, h]

theorem held_toJson (room : Nat) (p : SetPoint) : p.toJson.held (room + 1) = true := by
  simp [toJson, Json.heldMembers, Json.held]

end SetPoint

namespace SystemSetting

def isFinite (s : SystemSetting) : Bool := s.setPoints.all SetPoint.isFinite

theorem ofJson?_toJson (s : SystemSetting) :
    ofJson? s.toJson = if s.isFinite then some s else none := by
  rw [toJson, ofJson?, Json.fields?_object rfl (by decide)]
  cases h : s.setPoints.all SetPoint.isFinite <;>
    simp [Family.ofJson?_toJson, Json.list?_ofList SetPoint.ofJson?_toJson, isFinite, h]

theorem held_toJson (room : Nat) (s : SystemSetting) : s.toJson.held (room + 3) = true := by
  simp [toJson, Json.heldMembers, Json.held, Family.toJson, SetPoint.held_toJson]

end SystemSetting

namespace LightValue

theorem ofJson?_toJson (l : LightValue) : ofJson? l.toJson = some l := by
  rw [toJson, ofJson?, Json.fields?_object rfl (by decide)]
  simp

theorem held_toJson (room : Nat) (l : LightValue) : l.toJson.held (room + 1) = true := rfl

end LightValue

namespace Operation

def isFinite : Operation → Bool
  | .setData systems => systems.all SystemSetting.isFinite
  | _ => true

/-- The only field of a record that was written. -/
theorem onlyField?_object {α : Type} (name : String) (read? : Json → Option α) (v : Json) :
    onlyField? name read? (.object [(name, v)]) = read? v := by
  rw [onlyField?, Json.fields?_object rfl (List.pairwise_singleton _ _)]
  rfl

theorem ofJson?_object {room : Nat} {name : String} {v : Json} (hname : name ≠ "type")
    (hheld : v.held room = true) (type : String) :
    ofJson? (room + 1) (.object [("type", .string type), (name, v)]) =
      ofContents? (.object [(name, v)]) type := by
  have hcontents : (Json.object [(name, v)]).held (room + 1) = true := by
    simp [Json.heldMembers, hheld]
  rw [ofJson?, Json.tagged?_object (by simpa using hname)]
  show (guard ((Json.object [(name, v)]).held (room + 1)) >>= fun _ =>
    ofContents? (.object [(name, v)]) type) = _
  rw [Json.guard_bind hcontents]

/-- An operation is read again where the text may go five levels deeper. -/
theorem ofJson?_toJson (room : Nat) (o : Operation) :
    ofJson? (room + 5) o.toJson = if o.isFinite then some o else none := by
  cases o with
  | getData systems =>
    rw [toJson, ofJson?_object (by decide) (by simp [SystemQuery.held_toJson])]
    simp [ofContents?, onlyField?_object, Json.list?_ofList_of SystemQuery.ofJson?_toJson,
      isFinite]
  | setData systems =>
    rw [toJson, ofJson?_object (by decide) (by simp [SystemSetting.held_toJson])]
    cases h : systems.all SystemSetting.isFinite <;>
      simp [ofContents?, onlyField?_object, Json.list?_ofList SystemSetting.ofJson?_toJson,
        isFinite, h]
  | setLight values =>
    rw [toJson, ofJson?_object (by decide) (by simp [LightValue.held_toJson])]
    simp [ofContents?, onlyField?_object, Json.list?_ofList_of LightValue.ofJson?_toJson, isFinite]
  | getStatus => rfl
  | enableReporting => rfl

end Operation

theorem Request.ofJson?_toJson (room : Nat) (r : Request) :
    ofJson? (room + 6) r.toJson = if r.operation.isFinite then some r else none := by
  rw [toJson, ofJson?, Json.fields?_object rfl (by decide)]
  cases h : r.operation.isFinite <;> simp [Operation.ofJson?_toJson, h]

/-! ## Outcomes -/

namespace Measurement

def isFinite (m : Measurement) : Bool := m.value.isFinite

theorem ofJson?_toJson (m : Measurement) :
    ofJson? m.toJson = if m.isFinite then some m else none := by
  rw [toJson, ofJson?, Json.fields?_object rfl (by decide)]
  cases h : m.value.isFinite <;> simp [isFinite, h]

theorem held_toJson (room : Nat) (m : Measurement) : m.toJson.held (room + 1) = true := by
  simp [toJson, Json.heldMembers, Json.held]

end Measurement

namespace SystemMeasurements

def isFinite (s : SystemMeasurements) : Bool := s.measurements.all Measurement.isFinite

theorem ofJson?_toJson (source : Json.Source) (s : SystemMeasurements) :
    ofJson? source s.toJson = if s.isFinite then some s else none := by
  rw [toJson, ofJson?, Json.fields?_object rfl (by decide)]
  cases h : s.measurements.all Measurement.isFinite <;>
    simp [Family.ofJson?_toJson, Json.list?_ofList Measurement.ofJson?_toJson, isFinite, h]

theorem held_toJson (room : Nat) (s : SystemMeasurements) : s.toJson.held (room + 3) = true := by
  simp [toJson, Json.heldMembers, Json.held, Family.toJson, Measurement.held_toJson]

end SystemMeasurements

theorem Status.ofJson?_toJson (s : Status) : ofJson? s.toJson = some s := by
  rw [toJson, members, ofJson?, Json.fields?_object rfl (by decide)]
  simp [Json.list?_ofList_of LightValue.ofJson?_toJson]

namespace Payload

def isFinite : Payload → Bool
  | .data systems _ => systems.all SystemMeasurements.isFinite
  | _ => true

theorem ofJson?_toJson (p : Payload) : ofJson? p.toJson = if p.isFinite then some p else none := by
  cases p with
  | empty => rfl
  | data systems skipped =>
    have hskipped : (Json.ofList Json.string skipped).list? Json.string? = some skipped :=
      Json.list?_ofList_of Json.string?_string skipped
    rw [toJson, ofJson?, Json.tagged?_object (by simp)]
    simp only [kind?, Option.bind_eq_bind, Option.bind_some, ofContents?]
    rw [Json.fields?_object rfl (by decide)]
    cases h : systems.all SystemMeasurements.isFinite <;>
      simp [Json.list?_ofList (SystemMeasurements.ofJson?_toJson .memory), hskipped, isFinite, h]
  | status s =>
    rw [toJson, ofJson?, Json.tagged?_object (by simp [Status.members])]
    have hread : Status.ofJson? (.object s.members) = some s := s.ofJson?_toJson
    simp [kind?, ofContents?, hread, isFinite]

theorem held_toJson (room : Nat) (p : Payload) : p.toJson.held (room + 5) = true := by
  cases p with
  | empty => rfl
  | data systems skipped =>
    simp [toJson, Json.heldMembers, Json.held, SystemMeasurements.held_toJson]
  | status s =>
    simp [toJson, Status.members, Json.heldMembers, Json.held, LightValue.held_toJson]

end Payload

namespace Outcome

def isFinite : Outcome → Bool
  | .success p => p.isFinite
  | _ => true

theorem ofJson?_object {room : Nat} {name : String} {v : Json} (hname : name ≠ "result")
    (hheld : v.held room = true) (type : String) :
    ofJson? (room + 1) (.object [("result", .string type), (name, v)]) =
      ofContents? (.object [(name, v)]) type := by
  have hcontents : (Json.object [(name, v)]).held (room + 1) = true := by
    simp [Json.heldMembers, hheld]
  rw [ofJson?, Json.tagged?_object (by simpa using hname)]
  show (guard ((Json.object [(name, v)]).held (room + 1)) >>= fun _ =>
    ofContents? (.object [(name, v)]) type) = _
  rw [Json.guard_bind hcontents]

/-- An outcome is read again where the text may go six levels deeper. -/
theorem ofJson?_toJson (room : Nat) (o : Outcome) :
    ofJson? (room + 6) o.toJson = if o.isFinite then some o else none := by
  cases o with
  | success p =>
    rw [toJson, ofJson?_object (by decide) (p.held_toJson room)]
    cases h : p.isFinite <;>
      simp [ofContents?, Operation.onlyField?_object, Payload.ofJson?_toJson, isFinite, h]
  | operationFailure reason | connectionFailure reason =>
    rw [toJson, ofJson?_object (by decide) (by simp [Json.held])]
    simp [ofContents?, Operation.onlyField?_object, isFinite]

end Outcome

theorem Response.ofJson?_toJson (room : Nat) (r : Response) :
    ofJson? (room + 7) r.toJson = if r.outcome.isFinite then some r else none := by
  rw [toJson, members, ofJson?, Json.fields?_object rfl (by decide)]
  cases h : r.outcome.isFinite <;> simp [Outcome.ofJson?_toJson, h]

/-! ## Envelopes -/

theorem Envelope.ofJson?_toJson (room : Nat) (e : Envelope) :
    ofJson? (room + 6) e.toJson = if e.operation.isFinite then some e else none := by
  rw [toJson, ofJson?, Json.fields?_object rfl (by decide)]
  cases h : e.operation.isFinite <;> simp [Operation.ofJson?_toJson, h]

theorem Reply.ofJson?_toJson (room : Nat) (r : Reply) :
    ofJson? (room + 7) r.toJson = if r.response.outcome.isFinite then some r else none := by
  rw [toJson, Response.members, ofJson?, Json.fields?_object rfl (by decide)]
  cases h : r.response.outcome.isFinite <;> simp [Outcome.ofJson?_toJson, h]

theorem Notification.ofJson?_toJson (n : Notification) : ofJson? n.toJson = some n := by
  rw [toJson, ofJson?, Json.fields?_object rfl (by decide)]
  simp [EventKind.ofJson?_toJson]

theorem EventBatch.ofJson?_toJson (b : EventBatch) : ofJson? b.toJson = some b := by
  rw [toJson, ofJson?, Json.fields?_object rfl (by decide)]
  simp [Json.list?_ofList_of Notification.ofJson?_toJson]

theorem MeasurementBatch.ofJson?_toJson (b : MeasurementBatch) (time : Int64) :
    ofJson? (b.toJson time) =
      if b.systems.all SystemMeasurements.isFinite then some (b, time) else none := by
  rw [toJson, members, ofJson?, Json.fields?_object rfl (by decide)]
  cases h : b.systems.all SystemMeasurements.isFinite <;>
    simp [Json.list?_ofList (SystemMeasurements.ofJson?_toJson .text), h]

/-! ## Devices -/

theorem OutputSetting.ofJson?_toJson (o : OutputSetting) : ofJson? o.toJson = some o := by
  have hkind : RelayKind.ofJson? o.kind.toJson = some o.kind := by
    cases o.kind <;> decide +kernel
  rw [toJson, ofJson?, Json.fields?_object rfl (by decide)]
  simp [hkind]

theorem ReportSelection.ofJson?_toJson (r : ReportSelection) : ofJson? r.toJson = some r := by
  rw [toJson, ofJson?, Json.fields?_object rfl (by decide)]
  simp

namespace Device

/-- The members of a record beside those of its identity. -/
def ownMembers (d : Device) : List (String × Json) :=
  [("outputSettings", Json.ofList OutputSetting.toJson d.outputs),
    ("enableAllReportsOnConnect", .bool d.wantsAllReports),
    ("reportSelections", Json.ofList ReportSelection.toJson d.selections)]

theorem slots?_identity (d : Device) :
    (Json.slots? Identity.fields (d.identity.members ++ d.ownMembers)).bind
      (Identity.ofSlots? .memory) = some d.identity := by
  have hothers : ∀ f ∈ Identity.fields, ∀ m ∈ d.ownMembers, f.isNamed m.1 = false := by
    simp [Identity.fields, ownMembers, Json.Field.isNamed]
  rw [Json.slots?_append hothers, Json.slots?_of_names rfl (by decide)]
  simp [Identity.members, Identity.ofSlots?, Family.ofJson?_toJson]

theorem slots?_own (d : Device) : Json.slots? fields (d.identity.members ++ d.ownMembers) =
    some (d.ownMembers.map fun m => some m.2) := by
  have hothers : ∀ f ∈ fields, ∀ m ∈ d.identity.members, f.isNamed m.1 = false := by
    simp [fields, Identity.members, Json.Field.isNamed]
  rw [Json.slots?_append_comm, Json.slots?_append hothers, Json.slots?_of_names rfl (by decide)]

theorem restOf_members (d : Device) :
    restOf (d.identity.members ++ d.ownMembers) = d.identity.members := by
  simp [restOf, fields, Identity.members, ownMembers, Json.Field.isNamed]

theorem ofJson?_toJson (room : Nat) (d : Device) : ofJson? room d.toJson = some d := by
  have hheld : Json.heldMembers (room - 1) d.identity.members = true := by
    cases h : d.identity.configuredServer <;>
      simp [Identity.members, Json.heldMembers, Json.held, Family.toJson, Json.ofOption, h]
  have hjson : d.toJson = .object (d.identity.members ++ d.ownMembers) := rfl
  rw [hjson, ofJson?, restOf_members, slots?_identity, slots?_own, Json.guard_bind hheld]
  simp [ownMembers, Json.list?_ofList_of OutputSetting.ofJson?_toJson,
    Json.list?_ofList_of ReportSelection.ofJson?_toJson]

end Device

/-! ## Models -/

namespace Value

def isFinite : Value → Bool
  | .float x => x.isFinite
  | _ => true

theorem ofJson?_toJson (v : Value) : ofJson? v.toJson = if v.isFinite then some v else none := by
  have hread : ∀ (type : String) (contents : Json),
      ofJson? (.object [("type", .string type), ("value", contents)]) =
        (readers.lookup type).bind fun read? => read? contents := by
    intro type contents
    rw [ofJson?, Json.slots?_of_names rfl (by decide)]
    simp [Json.choice?]
  cases v with
  | float x =>
    rw [toJson, hread]
    cases h : x.isFinite <;> simp [readers, isFinite, h, List.lookup_cons]
  | _ =>
    rw [toJson, hread]
    simp [readers, isFinite, List.lookup_cons]

end Value

namespace Node

def isFinite (n : Node) : Bool := n.values.entries.all (·.2.isFinite)

theorem valuesOfJson?_entries (t : Table String Value) :
    valuesOfJson? (.object (t.entries.map fun e => (e.1, e.2.toJson))) =
      if t.entries.all (·.2.isFinite) then some t else none := by
  have hmembers (l : List (String × Value)) :
      (l.map fun e => (e.1, e.2.toJson)).mapM
          (fun m => (Value.ofJson? m.2).map fun v => (m.1, v)) =
        if l.all (·.2.isFinite) then some l else none := by
    induction l with
    | nil => rfl
    | cons e l ih =>
      rw [List.map_cons, List.mapM_cons, ih, Value.ofJson?_toJson, List.all_cons]
      cases e.2.isFinite <;> cases l.all (·.2.isFinite) <;> rfl
  rw [valuesOfJson?, hmembers]
  cases t.entries.all (·.2.isFinite)
  · rfl
  · exact congrArg some t.ofList_entries

theorem ofJson?_toJson (n : Node) : ofJson? n.toJson = if n.isFinite then some n else none := by
  rw [toJson, ofJson?, Json.fields?_object rfl (by decide)]
  cases h : n.values.entries.all (·.2.isFinite) <;>
    simp [Constraint.ofJson?_toJson, valuesOfJson?_entries, isFinite, h]

end Node

theorem ControlBlock.ofJson?_toJson (b : ControlBlock) : ofJson? b.toJson = some b := by
  rw [toJson, ofJson?, Json.fields?_object rfl (by decide)]
  -- by unfolding, a check of these steps would count up to the bound of the number
  simp -implicitDefEqProofs

namespace ServerModel

def isFinite (m : ServerModel) : Bool := m.nodes.all Node.isFinite

theorem ofJson?_toJson (m : ServerModel) :
    ofJson? m.toJson = if m.isFinite then some m else none := by
  rw [toJson, ofJson?, Json.fields?_object rfl (by decide)]
  cases h : m.nodes.all Node.isFinite <;>
    simp [Json.list?_ofList Node.ofJson?_toJson,
      Json.list?_ofList_of ControlBlock.ofJson?_toJson, isFinite, h]

end ServerModel

/-! ## All together -/

/-- What the platform and the gateway exchange or keep is read again as it was written, in any text
that may go seven levels deeper, exactly if all floats in it are finite. -/
theorem Json.read_of_written (room : Nat) :
    (∀ r : Request, Request.ofJson? (room + 7) r.toJson =
      if r.operation.isFinite then some r else none) ∧
    (∀ o : Outcome, Outcome.ofJson? (room + 7) o.toJson = if o.isFinite then some o else none) ∧
    (∀ r : Response, Response.ofJson? (room + 7) r.toJson =
      if r.outcome.isFinite then some r else none) ∧
    (∀ r : Reply, Reply.ofJson? (room + 7) r.toJson =
      if r.response.outcome.isFinite then some r else none) ∧
    (∀ e : Envelope, Envelope.ofJson? (room + 7) e.toJson =
      if e.operation.isFinite then some e else none) ∧
    (∀ d : Device, Device.ofJson? (room + 7) d.toJson = some d) ∧
    (∀ b : EventBatch, EventBatch.ofJson? b.toJson = some b) ∧
    (∀ (b : MeasurementBatch) (time : Int64), MeasurementBatch.ofJson? (b.toJson time) =
      if b.systems.all SystemMeasurements.isFinite then some (b, time) else none) ∧
    ∀ m : ServerModel, ServerModel.ofJson? m.toJson = if m.isFinite then some m else none :=
  ⟨Request.ofJson?_toJson (room + 1), Outcome.ofJson?_toJson (room + 1),
    Response.ofJson?_toJson room, Reply.ofJson?_toJson room, Envelope.ofJson?_toJson (room + 1),
    Device.ofJson?_toJson (room + 7), EventBatch.ofJson?_toJson, MeasurementBatch.ofJson?_toJson,
    ServerModel.ofJson?_toJson⟩

end FieldGateway
