import FieldGateway.Course
import FieldGateway.Json.Fields
import FieldGateway.Retry.Basic

/-!
# Rehearsing attempts

A rehearsal plays a command whose results are written down beforehand, one for each call, and notes
how often it was called, how long was waited, and what was counted. Where the script ends, the
command succeeds with 0.
-/

namespace FieldGateway

/-- The results still to come, and what was noted. -/
structure Rehearsal where
  /-- The results of the next calls. -/
  script : List (Except Failure Int)
  calls : Nat
  /-- How long was waited, in milliseconds. -/
  waited : Nat
  counters : Counters
deriving Inhabited

namespace Rehearsal

/-- The failure of a kind with a text. -/
def failureOf? (text : String) : String → Option Failure
  | "device" => some (.device text)
  | "connection" => some (.connection (.reported text))
  | "timeout" => some (.timeout (.other text))
  | "configuration" => some (.configuration (.other text))
  | "unexpected" => some (.unexpected (.other text))
  | "exhausted" => some (.exhausted 1 (.device text))
  | "service" => some (Fault.raise (.service text))
  | "io" => some (Fault.raise (.io text))
  | _ => none

def resultOfJson? : Json → Option (Except Failure Int)
  | .object [("ok", v)] => v.int64?.map fun n => .ok n.toInt
  | .object [(kind, .string text)] => (failureOf? text kind).map .error
  | _ => none

/-- A rehearsal before the first call. -/
def ofScript (script : List (Except Failure Int)) : Rehearsal := ⟨script, 0, 0, .zero⟩

instance : Paced (StateM Rehearsal) where
  pause ms := modify fun r => { r with waited := r.waited + Course.spell ms }
  count c := modify fun r => { r with counters := r.counters.add c 1 }

/-- The next call of the command. -/
def call : StateM Rehearsal (Except Failure Int) := fun r =>
  match r.script with
  | [] => (.ok 0, { r with calls := r.calls + 1 })
  | result :: script => (result, { r with script, calls := r.calls + 1 })

/-- The result of a scripted command under a policy, and what was noted. -/
def run (p : Policy) (script : List (Except Failure Int)) : Except Failure Int × Rehearsal :=
  StateT.run (m := Id) (p.execute call) (ofScript script)

end Rehearsal

end FieldGateway
