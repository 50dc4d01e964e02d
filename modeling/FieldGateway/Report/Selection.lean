import FieldGateway.Address.Reference
import FieldGateway.Model.Basic

/-!
# Which reports are wanted

Either all reports of a device are wanted, or some by name. A report may have several instances,
numbered from 1 on; all are wanted that come before the first number the device does not have.
-/

namespace FieldGateway

/-- What came of enabling reports. -/
structure Enabling where
  enabled : List String
  failed : List String
deriving DecidableEq, Repr, Inhabited

namespace Selection

/-- The references of the instances of a selected report that a model has. No number beyond the
number of blocks can be there if all before it are, so that the search may stop there. -/
def instances (model : ServerModel) (server : String) (s : ReportSelection) : List String :=
  ((List.range' 1 model.blocks.length).map fun i =>
      Reference.report server s.logicalDevice i s.logicalNode).takeWhile
    fun reference => (model.block? reference).isSome

/-- The references of the reports that are wanted of a device, by a model and a server name. A
streetlight controller is asked for its events in another way. -/
def wanted (model : ServerModel) (server : String) (d : Device) : List String :=
  if d.family = .streetlightController then []
  else if d.wantsAllReports then model.blocks.map (·.reference)
  else d.selections.flatMap (instances model server)

end Selection

end FieldGateway
