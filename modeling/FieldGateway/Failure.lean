import FieldGateway.Address.Attribute
import FieldGateway.Address.Constraint
import FieldGateway.Device.Basic
import FieldGateway.Text.Quoted

/-!
# Failures

A device may answer with an error over a sound connection, or the connection itself may break. The
gateway adds reasons of its own: a request that does not fit the device, a time limit, an answer
that makes no sense. How severe a failure is decides whether a command is tried again and how the
outcome is told.

* `Fault.severity_raise`: an error of the device may be tried again, a broken connection may not.
-/

namespace FieldGateway

/-- What a device or the connection to it answers in place of a result. -/
inductive Fault where
  /-- The device refuses; the connection is sound. -/
  | service (text : String)
  /-- The connection is broken. -/
  | io (text : String)
deriving DecidableEq, Repr, Inhabited

def Fault.message : Fault → String
  | .service text => "service error: " ++ text
  | .io text => "io error: " ++ text

/-- No command is known for an attribute of a family. -/
structure MissingCommand where
  family : Family
  attr : Attribute
  /-- Which one of several, for an attribute that has several. -/
  index : Option UInt8
deriving DecidableEq, Repr, Inhabited

def bracketed : Option UInt8 → String
  | none => ""
  | some i => "[" ++ toString i.toNat ++ "]"

def MissingCommand.message (m : MissingCommand) : String :=
  "no command registered for " ++ m.family.name ++ " " ++ m.attr.token ++ bracketed m.index

/-- Why something does not fit the device. -/
inductive Misfit where
  | unknownLogicalDevice (token : String)
  | unknownAttribute (name : String)
  /-- A logical node that would not stand for one in a reference. -/
  | invalidLogicalNode (node : String)
  | namelessLogicalDevice
  /-- Instances are counted from 1 on. -/
  | instanceZero (token : String)
  /-- One of several logical devices, and not told which. -/
  | instanceMissing (token : String)
  | absentNode (reference : String) (constraint : Constraint) (deviceId : String)
  | absentReport (reference : String) (deviceId : String)
  | notWritable (attr : Attribute)
  | missingCommand (missing : MissingCommand)
  /-- A relay number that the device does not use towards the platform. -/
  | noOutput (externalId : UInt8)
  | notLight (externalId : UInt8) (kind : RelayKind)
  | unknownDevice (deviceId : String)
  | unsupported (operation : String) (family : Family) (deviceId : String)
  /-- A reference in a report that does not follow the naming scheme. -/
  | unexpectedReference (reference : String)
  /-- A logical device that presents no family of systems. -/
  | noFamily (token : String)
  | other (text : String)
deriving DecidableEq, Repr, Inhabited

def Misfit.message : Misfit → String
  | .unknownLogicalDevice token => "unknown logical device: " ++ token
  | .unknownAttribute name => "unknown data attribute: " ++ name
  | .invalidLogicalNode node => "invalid logical node: " ++ Text.quoted node
  | .namelessLogicalDevice => "empty logical device token"
  | .instanceZero token => "instance index of " ++ token ++ " must start at 1"
  | .instanceMissing token => "logical device " ++ token ++ " requires an instance index"
  | .absentNode reference constraint deviceId =>
    "node " ++ reference ++ " [" ++ constraint.code ++ "] not found in model of " ++ deviceId
  | .absentReport reference deviceId =>
    "report control block " ++ reference ++ " not found in model of " ++ deviceId
  | .notWritable attr => "data attribute " ++ attr.token ++ " is not writable"
  | .missingCommand missing => missing.message
  | .noOutput externalId => "no output setting for external index " ++ toString externalId.toNat
  | .notLight externalId kind =>
    "relay " ++ toString externalId.toNat ++ " is not a light relay (" ++ kind.label ++ ")"
  | .unknownDevice deviceId => "unknown device: " ++ deviceId
  | .unsupported operation family deviceId =>
    operation ++ " is not supported for " ++ family.name ++ " device " ++ deviceId
  | .unexpectedReference reference => "unexpected member reference " ++ reference
  | .noFamily token => "logical device " ++ token ++ " has no device family"
  | .other text => text

/-- Why there is no connection. -/
inductive Breakage where
  | unreachable (host : String) (port : UInt16) (fault : Fault)
  | noModel (fault : Fault)
  | sessionClosed (deviceId : String)
  | reported (text : String)
deriving DecidableEq, Repr, Inhabited

def Breakage.message : Breakage → String
  | .unreachable host port fault =>
    "could not connect to " ++ host ++ ":" ++ toString port.toNat ++ ": " ++ fault.message
  | .noModel fault => "model retrieval failed: " ++ fault.message
  | .sessionClosed deviceId => "session for " ++ deviceId ++ " is closed"
  | .reported text => text

/-- Which time limit passed. -/
inductive Overrun where
  | connecting (host : String) (port : UInt16) (limit : UInt64)
  | retrieving (limit : UInt64)
  | other (text : String)
deriving DecidableEq, Repr, Inhabited

def Overrun.message : Overrun → String
  | .connecting host port limit =>
    "connect to " ++ host ++ ":" ++ toString port.toNat ++ " exceeded " ++ toString limit.toNat
      ++ " ms"
  | .retrieving limit => "model retrieval exceeded " ++ toString limit.toNat ++ " ms"
  | .other text => text

/-- What makes no sense. -/
inductive Surprise where
  | noNumber (reference : String) (path : String)
  | noValue (reference : String) (path : String)
  | other (text : String)
deriving DecidableEq, Repr, Inhabited

def Surprise.message : Surprise → String
  | .noNumber reference path => reference ++ " has no numeric " ++ path
  | .noValue reference path => reference ++ " has no " ++ path
  | .other text => text

/-- Why an operation failed. -/
inductive Failure where
  | configuration (misfit : Misfit)
  | device (text : String)
  | connection (breakage : Breakage)
  | timeout (overrun : Overrun)
  /-- The device refused every time. -/
  | exhausted (attempts : Nat) (last : Failure)
  | unexpected (surprise : Surprise)
deriving DecidableEq, Repr, Inhabited

/-- What may be done about a failure. -/
inductive Severity where
  /-- The connection is sound: it may be tried again. -/
  | retryable
  /-- The connection is gone. -/
  | fatal
  /-- It would fail again. -/
  | lasting
deriving DecidableEq, Repr, Inhabited

namespace Failure

def message : Failure → String
  | .configuration misfit => "configuration error: " ++ misfit.message
  | .device text => "device error: " ++ text
  | .connection breakage => "connection error: " ++ breakage.message
  | .timeout overrun => "timeout: " ++ overrun.message
  | .exhausted attempts last =>
    "operation failed after " ++ toString attempts ++ " attempts: " ++ last.message
  | .unexpected surprise => "unexpected error: " ++ surprise.message

def severity : Failure → Severity
  | .device _ => .retryable
  | .connection _ | .timeout _ => .fatal
  | .configuration _ | .exhausted _ _ | .unexpected _ => .lasting

/-- Whether the device counts as out of reach. -/
def isFatal (f : Failure) : Bool := f.severity == .fatal

/-- Whether what failed does not fit the device. -/
def isMisfit : Failure → Bool
  | .configuration _ => true
  | _ => false

end Failure

def Fault.raise : Fault → Failure
  | .service text => .device text
  | .io text => .connection (.reported text)

/-- A refusal may be tried again and a broken connection may not. -/
theorem Fault.severity_raise (f : Fault) :
    f.raise.severity = match f with
      | .service _ => .retryable
      | .io _ => .fatal := by
  cases f <;> rfl

/-- Why the registry of devices gave no answer. -/
inductive RegistryFault where
  /-- It was left locked. -/
  | locked
deriving DecidableEq, Repr, Inhabited

def RegistryFault.message : RegistryFault → String
  | .locked => "device registry lock poisoned"

end FieldGateway
