import FieldGateway.Device.Basic
import FieldGateway.Event.Notification
import FieldGateway.Report.Basic
import FieldGateway.Text.Ascii

/-!
# Events in reports

Each member of a streetlight controller's report is an event: its kind, the relay, the time it was
triggered, what triggered it, and a remark. A member is told to the platform only if its kind is
known and it names a relay; a relay the platform has no number for is told as number 0.
-/

namespace FieldGateway

/-- Why a member of a report is no event. -/
inductive EventFault where
  | missingValue (reference path : String)
  | unknownCode (code : Int64)
deriving DecidableEq, Repr, Inhabited

def EventFault.message : EventFault → String
  | .missingValue reference path =>
    "no '" ++ path ++ "' child in data set member " ++ reference
  | .unknownCode code => "unknown event type code: " ++ toString code.toInt

namespace Event

/-- The number of 8 bits that an integer is, if it is one. -/
def byte? (n : Int64) : Option UInt8 :=
  if 0 ≤ n.toInt ∧ n.toInt < 256 then some (UInt8.ofNat n.toInt.toNat) else none

/-- What triggered an event, in words. -/
def triggerText (code : Int64) : String :=
  if code = 1 then "light trigger (sensor trigger)"
  else if code = 2 then "ad-hoc trigger"
  else if code = 3 then "fixed time trigger"
  else if code = 4 then "autonomous trigger"
  else "trgType=" ++ toString code.toInt

/-- What triggered the event of a member, if that is told. -/
def trigger? (member : Node) : Option String :=
  (((member.get? "trgType").bind Value.int?).filter (0 < ·)).map triggerText

/-- Which firmware an event concerns, in words. -/
def firmwareText : Firmware → String
  | .functional => "functional firmware"
  | .security => "security firmware"

/-- The remark of a member; its own name stands for none. -/
def remark? (member : Node) : Option String :=
  ((member.get? "remark").bind Value.text?).filter fun s => !Text.eqIgnoreCase s "remark"

/-- What is known of an event beside its kind: trigger and firmware, and the remark in brackets. -/
def description (member : Node) (kind : EventKind) : String :=
  let known := "; ".intercalate
    ((trigger? member).toList ++ (kind.firmware?.map firmwareText).toList)
  match remark? member with
  | none => known
  | some remark => known ++ (if known.isEmpty then "" else " ") ++ "(" ++ remark ++ ")"

/-- When the event of a member happened: when it was triggered, else when the report was entered,
else now. -/
def time (member : Node) (entered : Option Int64) (now : Int64) : Int64 :=
  (((member.get? "trgTime").bind Value.timestamp?).or entered).getD now

/-- The relays' numbers towards the platform, by their numbers in the device. Of two settings of one
relay the later counts; number 0 is no relay, unless a setting says so. -/
def externalIds (outputs : List OutputSetting) : Table UInt8 UInt8 :=
  .ofList ((0, 0) :: outputs.map fun o => (o.internalId, o.externalId))

/-- A relay's number towards the platform, or 0. -/
def externalId (ids : Table UInt8 UInt8) (internalId : Int64) : UInt8 :=
  ((byte? internalId).bind ids.find?).getD 0

def required (member : Node) (path : String) : Except EventFault Int64 :=
  match (member.get? path).bind Value.int? with
  | some n => .ok n
  | none => .error (.missingValue member.reference path)

def kindOf (code : Int64) : Except EventFault EventKind :=
  match (byte? code).bind EventKind.ofCode? with
  | some kind => .ok kind
  | none => .error (.unknownCode code)

def ofMember (deviceId : String) (ids : Table UInt8 UInt8) (entered : Option Int64) (now : Int64)
    (member : Node) : Except EventFault Notification := do
  let kind ← kindOf (← required member "evnType")
  let relay ← required member "swNum"
  return {
    deviceId
    time := time member entered now
    kind
    description := description member kind
    index := externalId ids relay }

end Event

end FieldGateway
