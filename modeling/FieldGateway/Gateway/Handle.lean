import FieldGateway.Command.Light
import FieldGateway.Gateway.Data
import FieldGateway.Gateway.Reporting

/-!
# Handling requests

A request has its device looked up, a session opened, the operation carried out, and the session
ended, at once or after a delay. Whatever happens, there is one response, and it is sent once.
-/

namespace FieldGateway.Gateway

/-- How a session goes on after the operation. -/
inductive Ending where
  /-- It will be ended after a delay. -/
  | scheduled
  /-- It is still to be ended. -/
  | open
deriving DecidableEq, Repr, Inhabited

def findDevice (id : String) : Attempt Device := do
  match ← (Action.findDevice id).perform with
  | .error f => throw (.unexpected (.other f.message))
  | .ok none => throw (.configuration (.unknownDevice id))
  | .ok (some d) => return d

/-- Only streetlight controllers have some of the operations. -/
def requireStreetlight (d : Device) (operation : String) : Except Misfit Unit :=
  if d.family = .streetlightController then .ok ()
  else .error (.unsupported operation d.family d.id)

def listenerFor (g : Gateway) (d : Device) : Listener :=
  if d.family = .streetlightController then .events (.make d.id d.outputs)
  else if d.hasReporting then .measurements ⟨d.id, d.identity.serverName, g.catalog⟩
  else .silent

def approach (g : Gateway) (family : Family) : Approach where
  port := if family = .streetlightController then g.streetlightPort else g.rtuPort
  limit := g.connectTimeout
  template := g.template

/-- The status of a controller, whose events are collected afterwards if that can be done. -/
def getStatus (g : Gateway) (s : Session) (d : Device) : Attempt (Payload × Ending) := do
  Attempt.ofMisfit (requireStreetlight d "GetStatus")
  let status ← Light.status g.policy s d
  match ← Attempt.result (g.collectEvents s) with
  | .ok () => return (.status status, .scheduled)
  | .error _ => return (.status status, .open)

def carryOut (g : Gateway) (s : Session) (d : Device) : Operation → Attempt (Payload × Ending)
  | .getData systems => return (← g.getData s systems, .open)
  | .setData systems => return (← g.setData s systems, .open)
  | .setLight values => do
    Attempt.ofMisfit (requireStreetlight d "SetLight")
    Light.setAll g.policy s d values
    return (.empty, .open)
  | .getStatus => g.getStatus s d
  | .enableReporting => do
    if d.family = .streetlightController then
      g.collectEvents s
      return (.empty, .scheduled)
    else return (.empty, .open)

/-- The session is ended in the way that the operation asks for. -/
def conclude (g : Gateway) (s : Session) (d : Device) :
    Except Failure (Payload × Ending) → Attempt Payload
  | .ok (payload, .scheduled) => return payload
  | .ok (payload, .open) => do
    g.finish s d
    return payload
  | .error e => do
    s.disconnect
    throw e

def run (g : Gateway) (r : Request) : Attempt Payload := do
  let d ← findDevice r.deviceId
  let s ← Session.connect d.identity (g.approach d.family) (g.listenerFor d)
  let result ← Attempt.result (g.carryOut s d r.operation)
  g.conclude s d result

def outcome : Except Failure Payload → Outcome
  | .ok payload => .success payload
  | .error e =>
    if e.isFatal then .connectionFailure e.message else .operationFailure e.message

/-- A response is sent, and it is counted if it was. -/
def sendResponse (r : Response) : Work Unit := do
  match ← (Action.sendResponse r).perform with
  | none => Paced.count .responsesSent
  | some _ => return ()

def handle (g : Gateway) (r : Request) : Work Response := do
  let result ← (g.run r).run
  let response := r.respond (outcome result)
  sendResponse response
  return response

/-! ## Registration -/

/-- Why a registration failed. -/
inductive RegistrationFault where
  | registry (fault : RegistryFault)
  | unknownDevice (deviceId : String)
deriving DecidableEq, Repr, Inhabited

def RegistrationFault.message : RegistrationFault → String
  | .registry fault => "registry error: " ++ fault.message
  | .unknownDevice deviceId => "registry error: unknown device: " ++ deviceId

/-- A device that has registered is asked for reports after a delay, if that is set; the number of
the job. -/
def registered (g : Gateway) (deviceId : String) :
    Work (Except RegistrationFault (Option Nat)) := do
  match ← (Action.findDevice deviceId).perform with
  | .error f => return .error (.registry f)
  | .ok none => return .error (.unknownDevice deviceId)
  | .ok (some d) =>
    if g.reportsAfterRegistration then
      let correlationId ← Action.freshId.perform
      let request : Request := ⟨correlationId, "registration", d.id, .enableReporting⟩
      let job ← (Action.start (.request g.registrationDelay.toNat request)).perform
      return .ok (some job)
    else return .ok none

/-- What a job does; a request has a response. -/
def jobWork (g : Gateway) : Job → Work (Option Response)
  | .disconnect s delay clear => do
    s.disconnectLater delay clear
    return none
  | .request delay r => do
    Course.pause delay
    return some (← g.handle r)

end FieldGateway.Gateway
