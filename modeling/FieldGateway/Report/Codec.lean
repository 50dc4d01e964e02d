import FieldGateway.Model.Codec
import FieldGateway.Outcome.Codec
import FieldGateway.Report.Reading

/-!
# Reports as JSON

What a report leaves out is `null`. A report without members carries no data set.
-/

namespace FieldGateway

namespace Report

def toJson (r : Report) : Json :=
  .object [("rptId", .string r.id), ("rcb", .string r.block),
    ("sqNum", Json.ofOption (.int ·.toNat) r.sequence),
    ("subSqNum", Json.ofOption (.int ·.toNat) r.segment), ("more", .bool r.continued),
    ("overflow", .bool r.overflow), ("timeOfEntry", Json.ofOption (.int ·.toInt) r.entry),
    ("dataSet", Json.ofOption (.string ·.reference) r.dataSet),
    ("members", Json.ofOption (fun d => Json.ofList Node.toJson d.members) r.dataSet)]

def ofJson? (v : Json) : Option Report := do
  let [id, block, sequence, segment, continued, overflow, entry, dataSet, members] ← v.fields?
    ["rptId", "rcb", "sqNum", "subSqNum", "more", "overflow", "timeOfEntry", "dataSet", "members"]
    | none
  let reference ← Json.optionalOr? Json.string? "" dataSet
  let members ← Json.optional? (Json.list? Node.ofJson?) members
  return {
    id := ← Json.required? Json.string? id
    block := ← Json.optionalOr? Json.string? "" block
    sequence := ← Json.optional? Json.uint32? sequence
    segment := ← Json.optional? Json.uint32? segment
    continued := ← Json.optionalOr? Json.bool? false continued
    overflow := ← Json.optionalOr? Json.bool? false overflow
    entry := ← Json.optional? Json.int64? entry
    dataSet := members.map fun members => ⟨reference, members⟩ }

end Report

def SystemMeasurement.toJson (m : SystemMeasurement) : Json :=
  .object [("family", m.family.toJson), ("id", .int m.id.toNat),
    ("measurement", m.measurement.toJson)]

end FieldGateway
