import FieldGateway.Course
import FieldGateway.Envelope
import FieldGateway.Report.Collector
import FieldGateway.Report.Reading
import FieldGateway.Retry.Basic

/-!
# What the gateway does to the world

Everything that the gateway asks of its surroundings is an action with an answer: of the registry,
of the devices, of those the results are sent to, of the clock. The work of the gateway is a course
of such actions.

An association with a device is known by the number of its link. The link also holds what listens to
the reports of the device, and whether the session over it was ended.
-/

namespace FieldGateway

inductive Listener where
  | events (collector : Collector)
  | measurements (reader : Reader)
  | watcher
  | silent
deriving DecidableEq, Repr, Inhabited

structure Session where
  identity : Identity
  /-- What the device offered when the session began, or is taken to offer. -/
  model : ServerModel
  link : Nat
deriving DecidableEq, Repr, Inhabited

/-- Work that goes on by itself, after some time. -/
inductive Job where
  /-- End a session, and before that switch off a report. -/
  | disconnect (session : Session) (delay : Nat) (clear : Option String)
  | request (delay : Nat) (request : Request)
deriving DecidableEq, Repr, Inhabited

/-- What may take a device some time. -/
inductive Stage where
  | associating
  | retrieving
  | reading
deriving DecidableEq, Repr, Inhabited

/-- What is asked of the world. -/
inductive Action where
  | findDevice (id : String)
  | listDevices
  /-- How long the device takes for something. -/
  | latency (stage : Stage)
  | associate (host : String) (port : UInt16) (listener : Listener)
  | retrieve (link : Nat)
  | read (link : Nat) (reference : String) (constraint : Constraint)
  | write (link : Nat) (node : Node)
  | enable (link : Nat) (reference : String)
  | disable (link : Nat) (reference : String)
  /-- Give up the association. -/
  | release (link : Nat)
  | isOpen (link : Nat)
  /-- End the session; whether it was not ended yet. -/
  | retire (link : Nat)
  /-- Let the listener take reports. -/
  | activate (link : Nat)
  /-- Tell the listener the number of the first new report. -/
  | setBoundary (link : Nat) (sequence : UInt32)
  /-- Tell the listener that the session is over; the events it gives up, if it does. -/
  | hangUp (link : Nat)
  /-- Tell the listener that its events were dealt with. -/
  | settle (link : Nat)
  /-- Send events; why it failed, if it did. -/
  | sendEvents (batch : EventBatch)
  /-- Send a response; why it failed, if it did. -/
  | sendResponse (response : Response)
  /-- The time, in milliseconds since 1970. -/
  | now
  /-- An identifier that was never used. -/
  | freshId
  | count (counter : Counter) (n : Nat)
  | counts
  /-- Let work go on by itself; its number. -/
  | start (job : Job)

abbrev Action.Answer : Action → Type
  | .findDevice _ => Except RegistryFault (Option Device)
  | .listDevices => Except RegistryFault (List Device)
  | .latency _ => Nat
  | .associate _ _ _ => Except Fault Nat
  | .retrieve _ => Except Fault ServerModel
  | .read _ _ _ => Except Fault Node
  | .write _ _ => Except Fault Unit
  | .enable _ _ => Except Fault ControlBlock
  | .disable _ _ => Except Fault Unit
  | .release _ => Unit
  | .isOpen _ => Bool
  | .retire _ => Bool
  | .activate _ => Unit
  | .setBoundary _ _ => Unit
  | .hangUp _ => Option EventBatch
  | .settle _ => Unit
  | .sendEvents _ => Option String
  | .sendResponse _ => Option String
  | .now => Int64
  | .freshId => String
  | .count _ _ => Unit
  | .counts => Counters
  | .start _ => Nat

abbrev Work := Course Action Action.Answer

abbrev Attempt := ExceptT Failure Work

abbrev Action.perform (a : Action) : Work a.Answer := Course.query a

instance : Paced Work where
  pause := Course.pause
  count c := (Action.count c 1).perform

namespace Attempt

def ofExcept {α : Type} (r : Except Failure α) : Attempt α := ExceptT.mk (pure r)

def ofMisfit {α : Type} (r : Except Misfit α) : Attempt α := ofExcept (r.mapError .configuration)

/-- An action that the device may answer with a fault. -/
def ofFault {α : Type} (w : Work (Except Fault α)) : Attempt α :=
  ExceptT.mk (do return (← w).mapError Fault.raise)

/-- How work ends, be it with a failure. -/
def result {α : Type} (w : Attempt α) : Attempt (Except Failure α) :=
  ExceptT.mk (do return .ok (← w.run))

def retried {α : Type} (p : Policy) (w : Attempt α) : Attempt α :=
  ExceptT.mk (p.execute (m := Work) w.run)

end Attempt

end FieldGateway
