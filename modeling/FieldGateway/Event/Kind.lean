import FieldGateway.Json.Fields

/-!
# Kinds of events

A streetlight controller tells the kind of an event by a code. Events of the firmware are further
divided by the firmware they concern.

* `ofCode?_code`: reading the code of a kind gives the kind back.
* `code_of_ofCode?`: a code that is read is the code of what it is read as.
-/

namespace FieldGateway

/-- Which firmware an event concerns. -/
inductive Firmware where
  | functional
  | security
deriving DecidableEq, Repr, Inhabited

def Firmware.name : Firmware → String
  | .functional => "Functional"
  | .security => "Security"

inductive EventKind where
  | general
  | lightOn
  | lightOff
  | tariffOn
  | tariffOff
  | functionalActivating
  | functionalNotFound
  | functionalFailed
  | securityActivating
  | securityNotFound
  | securityFailed
  | lightFailure
  | tariffFailure
deriving DecidableEq, Repr, Inhabited

namespace EventKind

/-- All kinds, by ascending code. -/
def all : List EventKind :=
  [.general, .lightOn, .lightOff, .tariffOn, .tariffOff, .functionalActivating,
    .functionalNotFound, .functionalFailed, .securityActivating, .securityNotFound,
    .securityFailed, .lightFailure, .tariffFailure]

def code : EventKind → UInt8
  | .general => 1
  | .lightOn => 11
  | .lightOff => 12
  | .tariffOn => 21
  | .tariffOff => 22
  | .functionalActivating => 31
  | .functionalNotFound => 32
  | .functionalFailed => 33
  | .securityActivating => 41
  | .securityNotFound => 42
  | .securityFailed => 43
  | .lightFailure => 51
  | .tariffFailure => 52

def name : EventKind → String
  | .general => "DIAG_EVENTS_GENERAL"
  | .lightOn => "LIGHT_EVENTS_LIGHT_ON"
  | .lightOff => "LIGHT_EVENTS_LIGHT_OFF"
  | .tariffOn => "TARIFF_EVENTS_TARIFF_ON"
  | .tariffOff => "TARIFF_EVENTS_TARIFF_OFF"
  | .functionalActivating => "FUNCTION_FIRMWARE_EVENTS_ACTIVATING"
  | .functionalNotFound => "FUNCTION_FIRMWARE_EVENTS_DOWNLOAD_NOTFOUND"
  | .functionalFailed => "FUNCTION_FIRMWARE_EVENTS_DOWNLOAD_FAILED"
  | .securityActivating => "SECURITY_FIRMWARE_EVENTS_ACTIVATING"
  | .securityNotFound => "SECURITY_FIRMWARE_EVENTS_DOWNLOAD_NOTFOUND"
  | .securityFailed => "SECURITY_FIRMWARE_EVENTS_DOWNLOAD_FAILED"
  | .lightFailure => "ALARM_EVENTS_LIGHT_FAILURE"
  | .tariffFailure => "ALARM_EVENTS_TARIFF_FAILURE"

/-- The firmware that an event of the kind concerns, if it is one of the firmware. -/
def firmware? : EventKind → Option Firmware
  | .functionalActivating | .functionalNotFound | .functionalFailed => some .functional
  | .securityActivating | .securityNotFound | .securityFailed => some .security
  | _ => none

def ofCode? (code : UInt8) : Option EventKind := all.find? (·.code == code)

def toJson (k : EventKind) : Json := .string k.name

def ofJson? : Json → Option EventKind := Json.choice? .text (all.map fun k => (k.name, k))

theorem ofCode?_code (k : EventKind) : ofCode? k.code = some k := by cases k <;> decide

theorem code_of_ofCode? {c : UInt8} {k : EventKind} (h : ofCode? c = some k) : k.code = c := by
  simpa using List.find?_some h

theorem ofJson?_toJson (k : EventKind) : ofJson? k.toJson = some k := by
  cases k <;> decide +kernel

end EventKind

end FieldGateway
