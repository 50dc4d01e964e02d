import FieldGateway.Action

/-!
# Sessions

A session is opened on a device within time limits, and closed once, whoever closes it first. What
is asked over it is looked up in the model that the device offered at the beginning, so that a
request that does not fit never reaches the device.
-/

namespace FieldGateway

structure Approach where
  port : UInt16
  /-- How long the device may take to be reached, and to tell its model, in milliseconds. -/
  limit : UInt64
  /-- The model that the device is taken to have. -/
  template : Option ServerModel
deriving DecidableEq, Repr, Inhabited

namespace Session

def deviceId (s : Session) : String := s.identity.deviceId

/-- The server name, which stands in front of every reference. -/
def server (s : Session) : String := s.identity.serverName

/-! ## Opening -/

/-- Something that takes the device some time, as far as that can be waited for at once; `none` once
it is more than the limit. -/
def within {α : Type} (limit : UInt64) (stage : Stage) (w : Work α) : Work (Option α) := do
  let latency ← (Action.latency stage).perform
  if Course.spell latency ≤ limit.toNat then
    Course.pause latency
    return some (← w)
  else
    Course.pause limit.toNat
    return none

/-- The failure to open a session is counted. -/
def refuse {α : Type} (f : Failure) : Attempt α := do
  Paced.count (m := Work) .connectionFailures
  throw f

def associate (i : Identity) (a : Approach) (listener : Listener) : Attempt Nat := do
  match ← within a.limit .associating (Action.associate i.host a.port listener).perform with
  | some (.ok link) => return link
  | some (.error f) => refuse (.connection (.unreachable i.host a.port f))
  | none => refuse (.timeout (.connecting i.host a.port a.limit))

/-- The model of the device; without it the association is given up. -/
def retrieve (link : Nat) (limit : UInt64) : Attempt ServerModel := do
  match ← within limit .retrieving (Action.retrieve link).perform with
  | some (.ok model) => return model
  | some (.error f) =>
    (Action.release link).perform
    refuse (.connection (.noModel f))
  | none =>
    (Action.release link).perform
    refuse (.timeout (.retrieving limit))

def connect (i : Identity) (a : Approach) (listener : Listener) : Attempt Session := do
  let link ← associate i a listener
  let model ← match a.template with
    | some m => pure m
    | none => retrieve link a.limit
  Paced.count (m := Work) .sessionsOpened
  return ⟨i, model, link⟩

/-! ## Requests -/

/-- Nothing is asked over a session that was ended. -/
def ensureOpen (s : Session) : Attempt Unit := do
  if ← (Action.isOpen s.link).perform then return ()
  else throw (.connection (.sessionClosed s.deviceId))

/-- The node of an address, as the device offered it at the beginning. -/
def locate (s : Session) (a : Address) : Except Misfit Node :=
  match Reference.resolve s.server a with
  | .error e => .error e
  | .ok reference =>
    match s.model.findNode? reference a.constraint with
    | some node => .ok node
    | none => .error (.absentNode reference a.constraint s.deviceId)

def read (s : Session) (a : Address) : Attempt Node := do
  s.ensureOpen
  let node ← Attempt.ofMisfit (s.locate a)
  let latency ← (Action.latency .reading).perform
  Course.pause (Q := Action) (A := Action.Answer) latency
  Attempt.ofFault (Action.read s.link node.reference node.constraint).perform

/-- One value of the node of an address is written; the others are written as the device offered
them at the beginning. -/
def write (s : Session) (a : Address) (path : String) (value : Value) : Attempt Unit := do
  s.ensureOpen
  let node ← Attempt.ofMisfit (s.locate a)
  Attempt.ofFault (Action.write s.link (node.set path value)).perform

/-- A report that the device offered is switched on. -/
def enable (s : Session) (reference : String) : Attempt ControlBlock := do
  s.ensureOpen
  match s.model.block? reference with
  | none => throw (.configuration (.absentReport reference s.deviceId))
  | some _ => Attempt.ofFault (Action.enable s.link reference).perform

def disable (s : Session) (reference : String) : Attempt Unit := do
  s.ensureOpen
  Attempt.ofFault (Action.disable s.link reference).perform

/-! ## Closing -/

/-- Events are sent, if there are any, and it is counted what became of them. -/
def sendEvents (batch : EventBatch) : Work Unit := do
  if batch.notifications.isEmpty then return ()
  else
    match ← (Action.sendEvents batch).perform with
    | none => (Action.count .notificationsFlushed batch.notifications.length).perform
    | some _ => (Action.count .notificationFlushFailures 1).perform

/-- The listener of a session that is over sends what it has collected. -/
def hangUp (link : Nat) : Work Unit := do
  match ← (Action.hangUp link).perform with
  | none => return ()
  | some batch =>
    sendEvents batch
    (Action.settle link).perform

/-- The session is ended, unless it was ended before. -/
def disconnect (s : Session) : Work Unit := do
  if ← (Action.retire s.link).perform then
    (Action.release s.link).perform
    hangUp s.link
  else return ()

/-- A report is switched off, if the session was not ended; a failure is of no matter. -/
def clear (s : Session) (reference : String) : Work Unit := do
  if ← (Action.isOpen s.link).perform then
    let _ ← (s.disable reference).run
    return ()
  else return ()

/-- The session is ended after a delay, and before that a report is switched off. -/
def disconnectLater (s : Session) (delay : Nat) (report : Option String) : Work Unit := do
  Course.pause delay
  match report with
  | none => s.disconnect
  | some reference =>
    s.clear reference
    s.disconnect

/-- The session will be ended after a delay; the number of the job. -/
def scheduleDisconnect (s : Session) (delay : UInt64) (report : Option String) : Work Nat :=
  (Action.start (.disconnect s delay.toNat report)).perform

end Session

end FieldGateway
