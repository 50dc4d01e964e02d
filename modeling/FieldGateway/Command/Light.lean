import FieldGateway.Command.Point
import FieldGateway.Session

/-!
# Switching light

The platform knows the relays of a streetlight controller by numbers of its own; number 0 stands for
all that switch light. To switch a relay its operation is enabled first, if it is not. The status of
a controller tells the position of every relay, whatever it switches.
-/

namespace FieldGateway

namespace Light

/-- The relays that a light value is for. -/
def relays (d : Device) (v : LightValue) : Except Misfit (List UInt8) :=
  if v.index = 0 then .ok (d.lightRelays.map (·.internalId))
  else
    match d.output? v.index with
    | none => .error (.noOutput v.index)
    | some o => if o.kind = .light then .ok [o.internalId] else .error (.notLight v.index o.kind)

/-- Where something about a relay is found. -/
def switchAddress (relay : UInt8) (attr : Attribute) (constraint : Constraint) : Address :=
  ⟨.lighting, none, Point.switchNode relay, attr, constraint⟩

def configurationAddress (attr : Attribute) : Address :=
  ⟨.lighting, none, "CSLC", attr, .configuration⟩

/-- Whether a relay may be operated, by its configuration. -/
def mayOperate (node : Node) : Bool := ((node.get? "enbOper").bind Value.bool?).getD false

/-- A relay is switched, once. -/
def switch (s : Session) (relay : UInt8) (on : Bool) : Attempt Unit := do
  let control := switchAddress relay .masterControl .configuration
  let position := switchAddress relay .position .control
  let node ← s.read control
  unless mayOperate node do
    s.write control "enbOper" (.bool true)
  let _ ← s.read position
  s.write position "Oper.ctlVal" (.bool on)

/-- The relays of one light value are switched one after the other. -/
def set (p : Policy) (s : Session) (d : Device) (v : LightValue) : Attempt Unit := do
  let rs ← Attempt.ofMisfit (relays d v)
  rs.forM fun relay => Attempt.retried p (switch s relay v.on)

/-- Light values are set one after the other. -/
def setAll (p : Policy) (s : Session) (d : Device) (vs : List LightValue) : Attempt Unit :=
  vs.forM (set p s d)

def position (node : Node) : Except Failure Bool :=
  match (node.get? "stVal").bind Value.bool? with
  | some on => .ok on
  | none => .error (.unexpected (.noValue node.reference "stVal"))

/-- The state of the relay of an output setting. -/
def readOutput (s : Session) (o : OutputSetting) : Attempt LightValue := do
  let node ← s.read (switchAddress o.internalId .position .status)
  let on ← Attempt.ofExcept (position node)
  return ⟨o.externalId, on⟩

/-- Which events the controller keeps, as it puts it. -/
def eventFilter (node : Node) : String :=
  match node.get? "enbEvnType" with
  | none => ""
  | some (.text s) => s
  | some v => (v.int?.map fun n => toString n.toInt).getD ""

/-- The kind of lamp; a relay where the controller does not tell. -/
def lightType (node : Node) : String :=
  (((node.get? "LT").bind Value.text?).filter fun s => !s.isEmpty).getD "RELAY"

/-- The status of a controller, asked for once. -/
def readStatus (s : Session) (d : Device) : Attempt Status := do
  let lights ← d.outputs.mapM (readOutput s)
  let events ← s.read (configurationAddress .eventBuffer)
  let software ← s.read (configurationAddress .softwareConfiguration)
  return ⟨lights, eventFilter events, lightType software⟩

def status (p : Policy) (s : Session) (d : Device) : Attempt Status :=
  Attempt.retried p (readStatus s d)

end Light

end FieldGateway
