import FieldGateway.Json.Reader
import FieldGateway.Proofs.Json.Decoders

/-!
# What is decoded does not depend on how it is presented

Requests, envelopes, outcomes, devices and server models are decoded the same however the members of
their objects are ordered, under whichever of its names a field is given, and whatever members there
are besides, and they are refused if a field is given twice. Two things count all the same: what is
held in memory must be such that it can be held, and of two values of a node under one path the
later one stands.

* `Json.decoded_as_presented`: the main result, with what must be held told for each type.
* `Json.presentation_counts`: the two things that count.
-/

namespace FieldGateway

open Json (Form)
open Json.Form

/-! ## What must be held -/

theorem Operation.free_fieldsOf (k : String) : (Form.record (fieldsOf k)).Free := by
  unfold fieldsOf
  split <;> simp [SystemQuery.form, Filter.form, SystemSetting.form, SetPoint.form, LightValue.form]

theorem Payload.free : form.Free := free_tagged fun k => by
  unfold fieldsOf
  split <;> simp [SystemMeasurements.form, Measurement.form, LightValue.form]

theorem Outcome.free_fieldsOf (k : String) : (Form.record (fieldsOf k)).Free := by
  unfold fieldsOf
  split <;> simp [Payload.free]

theorem ServerModel.free : form.Free := by
  simp [form, Node.form, Value.form, ControlBlock.form]

/-- A request fits if the contents of its operation can be held. -/
theorem Request.fits_iff {room : Nat} {l : List (String × Json)} :
    (form room).fits (.object l) ↔
      ∀ v ∈ Json.given "operation" l, HeldBeside "type" (room - 1) v := by
  refine record_fits_object_iff.trans ?_
  simp [Operation.form, tagged_fits_iff Operation.free_fieldsOf, free_plain _]

theorem Envelope.fits_iff {room : Nat} {l : List (String × Json)} :
    (form room).fits (.object l) ↔
      ∀ v ∈ Json.given "operation" l, HeldBeside "type" (room - 1) v := by
  refine record_fits_object_iff.trans ?_
  simp [Operation.form, tagged_fits_iff Operation.free_fieldsOf, free_plain _]

theorem Device.fits_iff {room : Nat} {l : List (String × Json)} :
    (form room).fits (.object l) ↔ Json.heldMembers (room - 1) (restOf l) = true := by
  refine and_iff_right (free_record.2 ?_ _)
  simp [OutputSetting.form, ReportSelection.form]

/-- The two spellings of the identifiers of an envelope. -/
def Envelope.spellings : List (String × String) :=
  [("correlationUid", "correlation_uid"), ("organisationId", "organisation_id"),
    ("deviceId", "device_id")]

theorem Envelope.edited_of_spelling {room : Nat} {p : String × String} (hp : p ∈ spellings)
    (l r : List (String × Json)) (x : Json) :
    Edited (form room) (.object (l ++ (p.1, x) :: r)) (.object (l ++ (p.2, x) :: r)) := by
  have hfields : ∀ f ∈ fields, f.isNamed p.1 = f.isNamed p.2 := by
    revert p
    decide
  exact .renamed l r p.1 p.2 x fun f hf => hfields f.1 (List.mem_map_of_mem (f := (·.1)) hf)

/-! ## The presentation does not count -/

/-- What is decoded does not depend on how it is presented. In a server model members of one name
keep their order among themselves; where no name comes twice they may stand in any order. -/
theorem Json.decoded_as_presented (room : Nat) :
    ((Request.form room).Presents .any (Request.ofJson? room) ∧
      ∀ l, (Request.form room).fits (.object l) ↔
        ∀ v ∈ Json.given "operation" l, HeldBeside "type" (room - 1) v) ∧
    ((Envelope.form room).Presents .any (Envelope.ofJson? room) ∧
      (∀ l, (Envelope.form room).fits (.object l) ↔
        ∀ v ∈ Json.given "operation" l, HeldBeside "type" (room - 1) v) ∧
      ∀ p ∈ Envelope.spellings, ∀ l r x, Edited (Envelope.form room)
        (.object (l ++ (p.1, x) :: r)) (.object (l ++ (p.2, x) :: r))) ∧
    ((Outcome.form room).Presents .any (Outcome.ofJson? room) ∧
      ∀ v, (Outcome.form room).fits v ↔ HeldBeside "result" room v) ∧
    ((Device.form room).Presents .any (Device.ofJson? room) ∧
      ∀ l, (Device.form room).fits (.object l) ↔
        Json.heldMembers (room - 1) (Device.restOf l) = true) ∧
    (ServerModel.form.Presents .stable ServerModel.ofJson? ∧ (∀ v, ServerModel.form.fits v) ∧
      ∀ l r : List (String × Json), (l.map (·.1)).Nodup → l.Perm r → Json.Order.stable.rel l r) :=
  ⟨⟨(Request.isReadBy room).presents, fun _ => Request.fits_iff⟩,
    ⟨(Envelope.isReadBy room).presents, fun _ => Envelope.fits_iff, fun _ hp =>
      Envelope.edited_of_spelling hp⟩,
    ⟨(Outcome.isReadBy room).presents, fun _ => tagged_fits_iff Outcome.free_fieldsOf⟩,
    ⟨(Device.isReadBy room).presents, fun _ => Device.fits_iff⟩,
    ServerModel.isReadBy.presents, ServerModel.free, fun _ _ => Json.Order.stable_of_nodup⟩

/-- An envelope that asks device `d` for its status, in other words and with a note, says the same;
with the device in both spellings it says nothing. -/
theorem Json.decoded_as_presented_status :
    Envelope.ofJson? Json.maxDepth (.object [("device_id", .string "d"), ("note", .null),
        ("operation", .object [("type", .string "GET_STATUS")])]) =
      some ⟨none, none, some "d", .getStatus⟩ ∧
    Envelope.ofJson? Json.maxDepth (.object [("device_id", .string "d"),
      ("operation", .object [("type", .string "GET_STATUS")]), ("deviceId", .string "d")]) =
        none := by
  obtain ⟨-, ⟨hpresents, hfits, hspelling⟩, -⟩ := Json.decoded_as_presented Json.maxDepth
  let operation : Json := .object [("type", .string "GET_STATUS")]
  have hheld : HeldBeside "type" (Json.maxDepth - 1) operation := by
    intro t c h
    obtain ⟨rfl, rfl⟩ := Prod.mk.inj (Option.some.inj h)
    rfl
  constructor
  · have hplain : Envelope.ofJson? Json.maxDepth
        (.object [("operation", operation), ("deviceId", .string "d")]) =
          some ⟨none, none, some "d", .getStatus⟩ := by decide +kernel
    refine hpresents.changed hplain (.tail (.tail (.tail .refl (.inl (.here (.swap _ _ _))))
      (.inr ⟨hspelling ("deviceId", "device_id") (by decide) [] [("operation", operation)] _, ?_⟩))
      (.inr ⟨.added [("device_id", .string "d")] [("operation", operation)] "note" .null ?_, ?_⟩))
    · exact (hfits _).2 fun v hv => List.mem_singleton.1 hv ▸ hheld
    · simp [Json.Field.isNamed]
    · exact (hfits _).2 fun v hv => List.mem_singleton.1 hv ▸ hheld
  · refine hpresents.doubled (record_doubled_object_iff.2 ⟨(⟨"deviceId", ["device_id"]⟩, .plain),
      by simp, .inl ?_⟩)
    simp [Json.given, Json.Field.isNamed]

/-! ## Where the presentation counts -/

/-- A model of one node that has two values under one path. -/
def ServerModel.twoValued (x y : Bool) : Json :=
  .object [("nodes", .array [.object [("reference", .string "LD/LLN0.Mod"), ("fc", .string "ST"),
    ("attributes", .object [("stVal", (Value.bool x).toJson), ("stVal", (Value.bool y).toJson)])]])]

theorem ServerModel.reordered_twoValued (x y : Bool) :
    Json.Reordered .any (twoValued x y) (twoValued y x) :=
  .member "nodes" [] [] (.item [] [] (.member "attributes" [_, _] [] (.here (.swap _ _ _))))

/-- A request with some members beside the type of its operation. -/
def Request.noted (notes : List (String × Json)) : Json :=
  .object [("correlationUid", .string "c"), ("organisationId", .string "o"),
    ("deviceId", .string "d"), ("operation", .object (("type", .string "GET_STATUS") :: notes))]

theorem Request.edited_noted (room : Nat) (x : Json) :
    Edited (form room) (noted []) (noted [("note", x)]) := by
  have hoperation : Edited (Operation.form (room - 1)) (.object [("type", .string "GET_STATUS")])
      (.object [("type", .string "GET_STATUS"), ("note", x)]) :=
    Edited.tagged_added (l := [("type", .string "GET_STATUS")]) (r := []) x rfl rfl (by decide)
      fun p hp => by cases hp
  refine .member [_, _, _] [] "operation" fun p hp hn => ?_
  simp only [List.mem_cons, List.not_mem_nil, or_false] at hp
  rcases hp with rfl | rfl | rfl | rfl
  · simp [Json.Field.isNamed] at hn
  · simp [Json.Field.isNamed] at hn
  · simp [Json.Field.isNamed] at hn
  · exact hoperation

/-- The order of members counts where two values stand under one path of a node, and an additional
member where it must be held in memory and cannot be. -/
theorem Json.presentation_counts :
    (¬ ∀ v w m, ServerModel.ofJson? v = some m → Json.Reordered .any v w →
      ServerModel.ofJson? w = some m) ∧
    ¬ ∀ v w r, Request.ofJson? Json.maxDepth v = some r →
      Edited (Request.form Json.maxDepth) v w → Request.ofJson? Json.maxDepth w = some r := by
  constructor
  · intro h
    have hmodel : ServerModel.ofJson? (ServerModel.twoValued true false) =
        some ⟨[.ofList "LD/LLN0.Mod" .status [("stVal", .bool false)]], [], []⟩ := by
      decide +kernel
    exact absurd (h _ _ _ hmodel (ServerModel.reordered_twoValued true false)) (by decide +kernel)
  · intro h
    have hrequest : Request.ofJson? Json.maxDepth (Request.noted []) =
        some ⟨"c", "o", "d", .getStatus⟩ := by decide +kernel
    exact absurd (h _ _ _ hrequest (Request.edited_noted _ .unreadable)) (by decide +kernel)

/-- No value in memory stands for a number beyond the largest float. -/
example : (Json.ofText? ("\x7b\"correlationUid\":\"c\",\"organisationId\":\"o\"," ++
    "\"deviceId\":\"d\",\"operation\":\x7b\"type\":\"GET_STATUS\",\"note\":1e999\x7d\x7d")).bind
      (Request.ofJson? Json.maxDepth) = none := by decide +kernel

end FieldGateway
