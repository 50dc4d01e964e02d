import FieldGateway.Command.Access
import FieldGateway.Gateway.Basic

/-!
# Reading and setting values

Values of several systems are read or set in one request. What does not fit the device is passed
over and listed; anything else that fails makes the whole request fail.
-/

namespace FieldGateway.Gateway

/-- What was asked for, as it is listed when it is passed over. -/
def entry (family : Family) (id : UInt8) (node : String) (index : Option UInt8) : String :=
  family.name ++ toString id.toNat ++ "." ++ node ++ bracketed index

def lookup (g : Gateway) (family : Family) (node : String) (index : Option UInt8) :
    Except Misfit Point := do
  let attr ← Attribute.named node
  (g.catalog.lookup family attr index).mapError .missingCommand

/-- What does not fit the device is counted and passed over; the entry stands in its place. -/
def passOver {α : Type} (entry : String) (w : Attempt α) : Attempt (Except String α) :=
  ExceptT.mk do
    match ← w.run with
    | .ok a => return .ok (.ok a)
    | .error e =>
      if e.isMisfit then
        Paced.count (m := Work) .filtersSkipped
        return .ok (.error entry)
      else return .error e

def readFilter (g : Gateway) (s : Session) (family : Family) (id : UInt8) (f : Filter) :
    Attempt (Except String Measurement) :=
  passOver (entry family id f.node f.index) do
    let point ← Attempt.ofMisfit (g.lookup family f.node f.index)
    Attempt.retried g.policy (point.read s (.ofFamily family) id)

def writePoint (g : Gateway) (s : Session) (family : Family) (id : UInt8) (p : SetPoint) :
    Attempt (Except String Unit) :=
  passOver (entry family id p.node p.index) do
    let point ← Attempt.ofMisfit (g.lookup family p.node p.index)
    Attempt.retried g.policy (point.write s (.ofFamily family) id p.value)

def kept {ε α : Type} (rs : List (Except ε α)) : List α := rs.filterMap (·.toOption)

def skipped {ε α : Type} (rs : List (Except ε α)) : List ε :=
  rs.filterMap fun
    | .ok _ => none
    | .error e => some e

/-- The values of a system, and what was passed over. -/
def readSystem (g : Gateway) (s : Session) (q : SystemQuery) :
    Attempt (SystemMeasurements × List String) := do
  let rs ← q.filters.mapM (g.readFilter s q.family q.id)
  return (⟨q.id, q.family, kept rs⟩, skipped rs)

def getData (g : Gateway) (s : Session) (qs : List SystemQuery) : Attempt Payload := do
  let rs ← qs.mapM (g.readSystem s)
  return .data (rs.map (·.1)) (rs.flatMap (·.2))

/-- Values of a system are set; what was passed over. -/
def writeSystem (g : Gateway) (s : Session) (q : SystemSetting) : Attempt (List String) := do
  let rs ← q.setPoints.mapM (g.writePoint s q.family q.id)
  return skipped rs

def setData (g : Gateway) (s : Session) (qs : List SystemSetting) : Attempt Payload := do
  let rs ← qs.mapM (g.writeSystem s)
  return .data [] rs.flatten

end FieldGateway.Gateway
