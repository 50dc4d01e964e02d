import FieldGateway.Device.Codec
import FieldGateway.Envelope
import FieldGateway.Model.Codec
import FieldGateway.Proofs.Json.Edits

/-!
# Forms of what is decoded

The forms of requests, envelopes, outcomes, devices and server models, each with the proof that its
reader goes by it.

* `Request.isReadBy`, `Envelope.isReadBy`, `Outcome.isReadBy`, `Device.isReadBy`: for members in any
  order.
* `ServerModel.isReadBy`: for members that keep their order where they have one name.
-/

namespace FieldGateway

open Json (Form)
open Json.Form

variable {ok : Json.Order} {α β : Type}

namespace Json.Form

/-! ## Readers of parts -/

theorem isReadBy_bool? : plain.IsReadBy ok bool? := .scalar (fun _ => rfl) fun _ => rfl

theorem isReadBy_string? : plain.IsReadBy ok string? := .scalar (fun _ => rfl) fun _ => rfl

theorem isReadBy_uint8? : plain.IsReadBy ok uint8? := .scalar (fun _ => rfl) fun _ => rfl

theorem isReadBy_uint32? : plain.IsReadBy ok uint32? := .scalar (fun _ => rfl) fun _ => rfl

theorem isReadBy_int32? : plain.IsReadBy ok int32? := .scalar (fun _ => rfl) fun _ => rfl

theorem isReadBy_int64? : plain.IsReadBy ok int64? := .scalar (fun _ => rfl) fun _ => rfl

theorem isReadBy_float? : plain.IsReadBy ok float? := .scalar (fun _ => rfl) fun _ => rfl

theorem isReadBy_nothing? : (record []).IsReadBy ok nothing? :=
  .record (.done ()) fun
    | .object _ | .array [] | .array (_ :: _) | .null | .bool _ | .int _ | .float _ | .string _
    | .unreadable => rfl

theorem IsReadBy.map {F : Form} {read? : Json → Option α} (h : F.IsReadBy ok read?) (f : α → β) :
    F.IsReadBy ok fun v => (read? v).map f where
  same {v w b} hv halike hfits := by
    obtain ⟨a, ha, rfl⟩ := Option.map_eq_some_iff.1 hv
    exact Option.map_eq_some_iff.2 ⟨a, h.same ha halike hfits, rfl⟩
  fits {v b} hv := by
    obtain ⟨a, ha, -⟩ := Option.map_eq_some_iff.1 hv
    exact h.fits ha
  single {v b} hv := by
    obtain ⟨a, ha, -⟩ := Option.map_eq_some_iff.1 hv
    exact h.single ha
  reordered {v w b} hv hr := by
    obtain ⟨a, ha, -⟩ := Option.map_eq_some_iff.1 hv
    exact h.reordered ha hr

theorem isReadBy_onlyField? {F : Form} {read? : Json → Option α} (name : String)
    (h : F.IsReadBy ok read?) :
    (record [(name, F)]).IsReadBy ok (Operation.onlyField? name read?) :=
  .record (.take (.required h) fun a => .done a)
    fun _ => fields?_bind_congr fun | [_], _ => (Option.bind_fun_some _).symm

end Json.Form

theorem Family.isReadBy (source : Json.Source) : Form.plain.IsReadBy ok (ofJson? source) :=
  .choice source _

/-! ## Requests -/

namespace Filter

def form : Form := .record [("node", .plain), ("index", .plain)]

theorem isReadBy : form.IsReadBy ok ofJson? :=
  .record (.take (.required isReadBy_string?) fun node =>
      .take (.optional isReadBy_uint8?) fun index => .done ⟨node, index⟩)
    fun _ => fields?_bind_congr fun | [_, _], _ => rfl

end Filter

namespace SystemQuery

def form : Form := .record [("id", .plain), ("family", .plain), ("filters", .list Filter.form)]

theorem isReadBy : form.IsReadBy ok ofJson? :=
  .record (.take (.required isReadBy_uint8?) fun id =>
      .take (.required (Family.isReadBy .memory)) fun family =>
      .take (.required (.list Filter.isReadBy)) fun filters => .done ⟨id, family, filters⟩)
    fun _ => fields?_bind_congr fun | [_, _, _], _ => rfl

end SystemQuery

namespace SetPoint

def form : Form := .record [("node", .plain), ("index", .plain), ("value", .plain)]

theorem isReadBy : form.IsReadBy ok ofJson? :=
  .record (.take (.required isReadBy_string?) fun node =>
      .take (.optional isReadBy_uint8?) fun index =>
      .take (.required isReadBy_float?) fun value => .done ⟨node, index, value⟩)
    fun _ => fields?_bind_congr fun | [_, _, _], _ => rfl

end SetPoint

namespace SystemSetting

def form : Form := .record [("id", .plain), ("family", .plain), ("setPoints", .list SetPoint.form)]

theorem isReadBy : form.IsReadBy ok ofJson? :=
  .record (.take (.required isReadBy_uint8?) fun id =>
      .take (.required (Family.isReadBy .memory)) fun family =>
      .take (.required (.list SetPoint.isReadBy)) fun setPoints => .done ⟨id, family, setPoints⟩)
    fun _ => fields?_bind_congr fun | [_, _, _], _ => rfl

end SystemSetting

namespace LightValue

def form : Form := .record [("index", .plain), ("on", .plain)]

theorem isReadBy : form.IsReadBy ok ofJson? :=
  .record (.take (.required isReadBy_uint8?) fun index =>
      .take (.required isReadBy_bool?) fun on => .done ⟨index, on⟩)
    fun _ => fields?_bind_congr fun | [_, _], _ => rfl

end LightValue

namespace Operation

/-- The fields of an operation beside its type. -/
def fieldsOf : String → List (Json.Field × Form)
  | "GET_DATA" => [("systems", .list SystemQuery.form)]
  | "SET_DATA" => [("systems", .list SystemSetting.form)]
  | "SET_LIGHT" => [("values", .list LightValue.form)]
  | _ => []

def form (room : Nat) : Form := .tagged "type" Json.string? (some room) fieldsOf

theorem isReadBy_ofContents? (k : String) :
    (Form.record (fieldsOf k)).IsReadBy ok fun c => ofContents? c k := by
  unfold ofContents?
  split
  · exact (isReadBy_onlyField? _ (.list SystemQuery.isReadBy)).map _
  · exact (isReadBy_onlyField? _ (.list SystemSetting.isReadBy)).map _
  · exact (isReadBy_onlyField? _ (.list LightValue.isReadBy)).map _
  · exact isReadBy_nothing?.map _
  · exact isReadBy_nothing?.map _
  · exact .never _

theorem isReadBy (room : Nat) : (form room).IsReadBy ok (ofJson? room) :=
  .tagged isReadBy_string? isReadBy_ofContents? fun v a => by
    simp [ofJson?, Option.bind_eq_some_iff, guard]

end Operation

namespace Request

def form (room : Nat) : Form :=
  .record [("correlationUid", .plain), ("organisationId", .plain), ("deviceId", .plain),
    ("operation", Operation.form (room - 1))]

theorem isReadBy (room : Nat) : (form room).IsReadBy ok (ofJson? room) :=
  .record (.take (.required isReadBy_string?) fun correlation =>
      .take (.required isReadBy_string?) fun organisation =>
      .take (.required isReadBy_string?) fun device =>
      .take (.required (Operation.isReadBy _)) fun operation =>
      .done ⟨correlation, organisation, device, operation⟩)
    fun _ => fields?_bind_congr fun | [_, _, _, _], _ => rfl

end Request

namespace Envelope

def form (room : Nat) : Form :=
  .record [(⟨"correlationUid", ["correlation_uid"]⟩, .plain),
    (⟨"organisationId", ["organisation_id"]⟩, .plain), (⟨"deviceId", ["device_id"]⟩, .plain),
    ("operation", Operation.form (room - 1))]

theorem isReadBy (room : Nat) : (form room).IsReadBy ok (ofJson? room) :=
  .record (.take (.optional isReadBy_string?) fun correlation =>
      .take (.optional isReadBy_string?) fun organisation =>
      .take (.optional isReadBy_string?) fun device =>
      .take (.required (Operation.isReadBy _)) fun operation =>
      .done ⟨correlation, organisation, device, operation⟩)
    fun _ => fields?_bind_congr fun | [_, _, _, _], _ => rfl

end Envelope

/-! ## Outcomes -/

namespace Measurement

def form : Form :=
  .record [("node", .plain), ("index", .plain), ("qualifier", .plain), ("timeMs", .plain),
    ("value", .plain)]

theorem isReadBy : form.IsReadBy ok ofJson? :=
  .record (.take (.required isReadBy_string?) fun node =>
      .take (.optional isReadBy_uint8?) fun index =>
      .take (.required isReadBy_int32?) fun qualifier =>
      .take (.required isReadBy_int64?) fun time =>
      .take (.required isReadBy_float?) fun value => .done ⟨node, index, qualifier, time, value⟩)
    fun _ => fields?_bind_congr fun | [_, _, _, _, _], _ => rfl

end Measurement

namespace SystemMeasurements

def form : Form :=
  .record [("id", .plain), ("family", .plain), ("measurements", .list Measurement.form)]

theorem isReadBy (source : Json.Source) : form.IsReadBy ok (ofJson? source) :=
  .record (.take (.required isReadBy_uint8?) fun id =>
      .take (.required (Family.isReadBy source)) fun family =>
      .take (.required (.list Measurement.isReadBy)) fun measurements =>
      .done ⟨id, family, measurements⟩)
    fun _ => fields?_bind_congr fun | [_, _, _], _ => rfl

end SystemMeasurements

namespace Status

def form : Form :=
  .record [("lightValues", .list LightValue.form), ("eventBufferFilter", .plain),
    ("lightType", .plain)]

theorem isReadBy : form.IsReadBy ok ofJson? :=
  .record (.take (.required (.list LightValue.isReadBy)) fun lights =>
      .take (.required isReadBy_string?) fun filter =>
      .take (.required isReadBy_string?) fun lightType => .done ⟨lights, filter, lightType⟩)
    fun _ => fields?_bind_congr fun | [_, _, _], _ => rfl

end Status

namespace Payload

/-- The fields of a payload beside its type. -/
def fieldsOf : String → List (Json.Field × Form)
  | "DATA" => [("systems", .list SystemMeasurements.form), ("skipped", .list .plain)]
  | "STATUS" =>
    [("lightValues", .list LightValue.form), ("eventBufferFilter", .plain), ("lightType", .plain)]
  | _ => []

def form : Form := .tagged "kind" kind? none fieldsOf

theorem isReadBy_ofContents? (k : String) :
    (Form.record (fieldsOf k)).IsReadBy ok fun c => ofContents? c k := by
  unfold ofContents?
  split
  · exact isReadBy_nothing?.map _
  · exact .record (.take (.required (.list (SystemMeasurements.isReadBy .memory))) fun systems =>
        .take (.required (.list isReadBy_string?)) fun skipped => .done (.data systems skipped))
      fun _ => fields?_bind_congr fun | [_, _], _ => rfl
  · exact Status.isReadBy.map _
  · exact .never _

theorem isReadBy : form.IsReadBy ok ofJson? :=
  .tagged (.scalar (fun _ => rfl) fun _ => rfl) isReadBy_ofContents? fun v a => by
    simp [ofJson?, Option.bind_eq_some_iff]

end Payload

namespace Outcome

/-- The fields of an outcome beside its type. -/
def fieldsOf : String → List (Json.Field × Form)
  | "SUCCESS" => [("payload", Payload.form)]
  | "OPERATION_FAILURE" => [("reason", .plain)]
  | "CONNECTION_FAILURE" => [("reason", .plain)]
  | _ => []

def form (room : Nat) : Form := .tagged "result" Json.string? (some room) fieldsOf

theorem isReadBy_ofContents? (k : String) :
    (Form.record (fieldsOf k)).IsReadBy ok fun c => ofContents? c k := by
  unfold ofContents?
  split
  · exact (isReadBy_onlyField? _ Payload.isReadBy).map _
  · exact (isReadBy_onlyField? _ isReadBy_string?).map _
  · exact (isReadBy_onlyField? _ isReadBy_string?).map _
  · exact .never _

theorem isReadBy (room : Nat) : (form room).IsReadBy ok (ofJson? room) :=
  .tagged isReadBy_string? isReadBy_ofContents? fun v a => by
    simp [ofJson?, Option.bind_eq_some_iff, guard]

end Outcome

/-! ## Devices -/

namespace OutputSetting

def form : Form :=
  .record [("internalId", .plain), ("externalId", .plain), ("relayType", .plain)]

theorem isReadBy : form.IsReadBy ok ofJson? :=
  .record (.take (.required isReadBy_uint8?) fun internal =>
      .take (.required isReadBy_uint8?) fun external =>
      .take (.required (.choice .text _)) fun kind => .done ⟨internal, external, kind⟩)
    fun _ => fields?_bind_congr fun | [_, _, _], _ => rfl

end OutputSetting

namespace ReportSelection

def form : Form := .record [("logicalDevice", .plain), ("logicalNode", .plain)]

theorem isReadBy : form.IsReadBy ok ofJson? :=
  .record (.take (.required isReadBy_string?) fun device =>
      .take (.required isReadBy_string?) fun node => .done ⟨device, node⟩)
    fun _ => fields?_bind_congr fun | [_, _], _ => rfl

end ReportSelection

namespace Device

/-- Holds of an object whose members can be held in memory, but for those that a field of the record
itself takes. -/
def isHeld (room : Nat) : Json → Bool
  | .object members => Json.heldMembers (room - 1) (restOf members)
  | _ => false

def form (room : Nat) : Form :=
  .guarded (isHeld room) (.record
    [("deviceId", .plain), ("ipAddress", .plain), ("family", .plain), ("serverName", .plain),
      ("outputSettings", .list OutputSetting.form), ("enableAllReportsOnConnect", .plain),
      ("reportSelections", .list ReportSelection.form)])

theorem isHeld_of_reordered {room : Nat} {v w : Json} (hv : isHeld room v = true)
    (h : Json.Reordered ok v w) : isHeld room w = true := by
  have hobjects : ∀ {l r : List (String × Json)}, isHeld room (.object l) = true →
      Json.Reordered ok (.object l) (.object r) → isHeld room (.object r) = true := by
    intro l r hl h
    have hheld : ∀ l, isHeld room (.object l) = (Json.object (restOf l)).held (room - 1 + 1) :=
      fun l => by simp [isHeld, Json.held]
    rw [hheld] at hl ⊢
    rcases h.without fun n => !fields.any (·.isNamed n) with heq | hr
    · exact (congrArg (Json.held _) heq).symm.trans hl
    · exact (hr.held_eq _).symm.trans hl
  cases h with
  | here h => exact hobjects hv (.here h)
  | item => cases hv
  | member n l r h => exact hobjects hv (.member n l r h)

/-- The device that the values of all fields give. -/
def ofFields? (v : Json) : Option Device := do
  let [device, host, family, server, outputs, all, selections] ←
    v.fields? (Identity.fields ++ fields) | none
  return {
    identity := {
      deviceId := ← Json.required? Json.string? device
      host := ← Json.required? Json.string? host
      family := ← Json.required? (Family.ofJson? .memory) family
      configuredServer := ← Json.optional? Json.string? server }
    outputs := ← Json.default? (Json.list? OutputSetting.ofJson?) [] outputs
    wantsAllReports := ← Json.default? Json.bool? false all
    selections := ← Json.default? (Json.list? ReportSelection.ofJson?) [] selections }

/-- The fields of the identity and those of the record are read side by side. -/
theorem fields?_eq (l : List (String × Json)) :
    (Json.object l).fields? (Identity.fields ++ fields) =
      (Json.slots? Identity.fields l).bind fun xs => (Json.slots? fields l).map (xs ++ ·) := by
  change List.mapM (m := Option) (Json.slot? · l) (Identity.fields ++ fields) = _
  rw [List.mapM_append]
  simp [Json.slots?, Option.map_eq_bind]

theorem ofJson?_object {room : Nat} {l : List (String × Json)}
    (h : isHeld room (.object l) = true) : ofJson? room (.object l) = ofFields? (.object l) := by
  change Json.heldMembers (room - 1) (restOf l) = true at h
  unfold ofJson? ofFields?
  rw [fields?_eq]
  simp only [h, guard_true, Option.pure_def, Option.bind_eq_bind, Option.bind_some]
  cases hxs : Json.slots? Identity.fields l with
  | none => rfl
  | some xs =>
    cases hys : Json.slots? fields l with
    | none => simp
    | some ys =>
      have hlengths : xs.length = 4 ∧ ys.length = 3 :=
        ⟨length_of_fields? (v := .object l) hxs, length_of_fields? (v := .object l) hys⟩
      match xs, ys, hlengths with
      | [_, _, _, _], [_, _, _], _ => simp [Identity.ofSlots?, Option.bind_assoc]

theorem ofJson?_eq_some {room : Nat} {v : Json} {d : Device} :
    ofJson? room v = some d ↔ isHeld room v = true ∧ ofFields? v = some d := by
  cases v with
  | object l =>
    cases h : isHeld room (.object l) with
    | true => simp [ofJson?_object h]
    | false => 
      change Json.heldMembers (room - 1) (restOf l) = false at h
      simp [ofJson?, h, guard]
  | _ => simp [ofJson?, isHeld]

theorem isReadBy_ofFields? :
    (Form.record [("deviceId", .plain), ("ipAddress", .plain), ("family", .plain),
      ("serverName", .plain), ("outputSettings", .list OutputSetting.form),
      ("enableAllReportsOnConnect", .plain),
      ("reportSelections", .list ReportSelection.form)]).IsReadBy ok ofFields? :=
  .record (.take (.required isReadBy_string?) fun device =>
      .take (.required isReadBy_string?) fun host =>
      .take (.required (Family.isReadBy .memory)) fun family =>
      .take (.optional isReadBy_string?) fun server =>
      .take (.default (.list OutputSetting.isReadBy) []) fun outputs =>
      .take (.default isReadBy_bool? false) fun all =>
      .take (.default (.list ReportSelection.isReadBy) []) fun selections =>
      .done ⟨⟨device, host, family, server⟩, outputs, all, selections⟩)
    fun _ => fields?_bind_congr fun | [_, _, _, _, _, _, _], _ => rfl

theorem isReadBy (room : Nat) : (form room).IsReadBy ok (ofJson? room) :=
  .guarded isReadBy_ofFields? (fun _ _ => ofJson?_eq_some) fun hv =>
    isHeld_of_reordered (ofJson?_eq_some.1 hv).1

end Device

/-! ## Server models -/

namespace ControlBlock

def form : Form :=
  .record [("reference", .plain), ("buffered", .plain), ("enabled", .plain), ("sq_num", .plain)]

theorem isReadBy : form.IsReadBy ok ofJson? :=
  .record (.take (.required isReadBy_string?) fun reference =>
      .take (.required isReadBy_bool?) fun buffered =>
      .take (.default isReadBy_bool? false) fun enabled =>
      .take (.default isReadBy_uint32? 0) fun sequence =>
      .done ⟨reference, buffered, enabled, sequence⟩)
    fun _ => fields?_bind_congr fun | [_, _, _, _], _ => rfl

end ControlBlock

namespace Value

/-- Holds of an object, and of a sequence of two that begins with a plain name. -/
def isNamed : Json → Bool
  | .object _ => true
  | .array (.string _ :: items) => items.length == 1
  | _ => false

def form : Form := .only isNamed (.record [("type", .plain), ("value", .plain)])

/-- The value that the values of the fields give. -/
def ofFields? (v : Json) : Option Value := do
  let [tag, contents] ← v.fields? ["type", "value"] | none
  let read? ← Json.required? (Json.choice? .text readers) tag
  Json.required? read? contents

theorem ofJson?_eq_some {v : Json} {a : Value} :
    ofJson? v = some a ↔ isNamed v = true ∧ ofFields? v = some a := by
  unfold ofJson?
  split
  · simp [isNamed, ofFields?, Json.fields?, Json.required?, Json.choice?]
  · next l =>
    simp only [isNamed, true_and]
    exact Iff.rfl
  · next harray hobject =>
    have hv : isNamed v = false := by
      unfold isNamed
      split
      · next l => exact absurd rfl (hobject l)
      · next s items =>
        refine beq_false_of_ne fun hlength => ?_
        obtain ⟨c, rfl⟩ := List.length_eq_one_iff.1 hlength
        exact absurd rfl (harray s c)
      · rfl
    simp [hv]

theorem isNamed_of_reordered {v w : Json} (hv : isNamed v = true) (h : Json.Reordered ok v w) :
    isNamed w = true := by
  cases h with
  | here | member => rfl
  | item l r h =>
    cases l with
    | nil => cases h <;> cases hv
    | cons y l =>
      cases y with
      | string => simpa [isNamed] using hv
      | _ => cases hv

theorem isReadBy_of_choice {tag : Json} {read? : Json → Option Value}
    (h : Json.choice? .text readers tag = some read?) : Form.plain.IsReadBy ok read? := by
  have hmem : ∃ s, readers.lookup s = some read? := by
    unfold Json.choice? at h
    split at h
    · next s => exact ⟨s, h⟩
    · next s u => exact ⟨s, (Option.ite_none_right_eq_some.1 h).2⟩
    · cases h
  obtain ⟨s, hs⟩ := hmem
  obtain ⟨l, r, heq, -⟩ := List.lookup_eq_some_iff.1 hs
  have hmem : (s, read?) ∈ readers := heq ▸ by simp
  simp only [readers, List.mem_cons, Prod.mk.injEq, List.not_mem_nil, or_false] at hmem
  rcases hmem with ⟨-, rfl⟩ | ⟨-, rfl⟩ | ⟨-, rfl⟩ | ⟨-, rfl⟩ | ⟨-, rfl⟩ <;>
    exact .scalar (fun _ => rfl) fun _ => rfl

theorem isReadBy_ofFields? :
    (Form.record [("type", .plain), ("value", .plain)]).IsReadBy ok ofFields? := by
  have htake : AreTakenBy ok [("type", .plain), ("value", .plain)]
      (take (Json.required? (Json.choice? .text readers)) fun read? =>
        take (Json.required? read?) done) := by
    refine .take_of (.required (.choice .text readers)) fun x read? hread => ?_
    obtain ⟨tag, -, htag⟩ := Option.bind_eq_some_iff.1 hread
    exact .take (.required (isReadBy_of_choice htag)) fun a => .done a
  exact .record htake fun _ => fields?_bind_congr fun
    | [_, _], _ => by simp [take, done, Option.bind_fun_some]

theorem isReadBy : form.IsReadBy ok ofJson? :=
  .only isReadBy_ofFields? (fun _ _ => ofJson?_eq_some) fun hv =>
    isNamed_of_reordered (ofJson?_eq_some.1 hv).1

end Value

namespace Node

def form : Form :=
  .record [("reference", .plain), ("fc", .plain), ("attributes", .table Value.form)]

theorem isReadBy : form.IsReadBy .stable ofJson? :=
  .record (.take (.required isReadBy_string?) fun reference =>
      .take (.required (.choice .text _)) fun constraint =>
      .take (.default (.table Value.isReadBy (fun _ => rfl) fun {v _} h => by
        cases v <;> first | exact ⟨_, rfl⟩ | cases h) .empty) fun values =>
      .done ⟨reference, constraint, values⟩)
    fun _ => fields?_bind_congr fun | [_, _, _], _ => rfl

end Node

namespace ServerModel

def form : Form :=
  .record [("nodes", .list Node.form), ("brcbs", .list ControlBlock.form),
    ("urcbs", .list ControlBlock.form)]

theorem isReadBy : form.IsReadBy .stable ofJson? :=
  .record (.take (.default (.list Node.isReadBy) []) fun nodes =>
      .take (.default (.list ControlBlock.isReadBy) []) fun buffered =>
      .take (.default (.list ControlBlock.isReadBy) []) fun unbuffered =>
      .done ⟨nodes, buffered, unbuffered⟩)
    fun _ => fields?_bind_congr fun | [_, _, _], _ => rfl

end ServerModel

end FieldGateway
