import FieldGateway.Gateway.Basic
import FieldGateway.Report.Selection
import FieldGateway.Session

/-!
# Asking for reports

A terminal unit sends measurements by the reports that are wanted of it; one that cannot be enabled
is passed over. A streetlight controller sends its events by a report of its own: the collector
takes reports before the report is enabled, so that none is missed, and learns afterwards from which
number on they are new.
-/

namespace FieldGateway

namespace Session

/-- A report is enabled, or noted as failed. -/
def enableInto (s : Session) (e : Enabling) (reference : String) : Work Enabling := do
  match ← (s.enable reference).run with
  | .ok _ => return { e with enabled := e.enabled ++ [reference] }
  | .error _ => return { e with failed := e.failed ++ [reference] }

/-- The reports that are wanted of a device are enabled. -/
def enableWanted (s : Session) (d : Device) : Work Enabling :=
  (Selection.wanted s.model s.server d).foldlM s.enableInto ⟨[], []⟩

end Session

namespace Gateway

/-- The control block of the events of a streetlight controller. -/
def eventBlock (server : String) : Except Misfit String :=
  (Reference.logicalDeviceName server .lighting none).map (· ++ "/LLN0.evn_rpn01")

/-- The events of a streetlight controller are collected until the session is ended, which it will
be after a delay. -/
def collectEvents (g : Gateway) (s : Session) : Attempt Unit := do
  let reference ← Attempt.ofMisfit (eventBlock s.server)
  (Action.activate s.link).perform
  let block ← Attempt.retried g.policy (s.enable reference)
  (Action.setBoundary s.link block.sequence).perform
  let _ ← s.scheduleDisconnect g.disconnectDelay (some reference)

/-- The reports that are wanted of a terminal unit are taken until the session is ended, which it
will be after a delay. A session without reports is ended at once. -/
def finish (g : Gateway) (s : Session) (d : Device) : Work Unit := do
  if d.family.isRtu && d.hasReporting then
    let _ ← s.enableWanted d
    let _ ← s.scheduleDisconnect g.disconnectDelay none
    return ()
  else s.disconnect

end Gateway

end FieldGateway
