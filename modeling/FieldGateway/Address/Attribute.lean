import FieldGateway.Text.Ascii
import FieldGateway.Text.Blank

/-!
# Data attributes

An attribute is what a node is about: a switch position, a measured power, an alarm. In the device
it goes by a token; towards the platform the alarms and warnings go by a more telling name. A client
may use either, in any case and with blanks around it.
-/

namespace FieldGateway

/-- What a node is about. -/
inductive Attribute where
  | position
  | masterControl
  | eventBuffer
  | softwareConfiguration
  | reporting
  | behaviour
  | health
  | mode
  | alarmOne
  | alarmTwo
  | alarmThree
  | alarmFour
  | alarmOther
  | warningOne
  | warningTwo
  | warningThree
  | warningFour
  | warningOther
  | totalEnergy
  | actualPower
  | generatorState
  | operationalHours
  | outputSetting
  | maximumPower
  | scheduleId
  | scheduleType
  | scheduleCategory
deriving DecidableEq, Repr, Inhabited

namespace Attribute

def all : List Attribute :=
  [.position, .masterControl, .eventBuffer, .softwareConfiguration, .reporting, .behaviour,
    .health, .mode, .alarmOne, .alarmTwo, .alarmThree, .alarmFour, .alarmOther, .warningOne,
    .warningTwo, .warningThree, .warningFour, .warningOther, .totalEnergy, .actualPower,
    .generatorState, .operationalHours, .outputSetting, .maximumPower, .scheduleId, .scheduleType,
    .scheduleCategory]

/-- The name in the device. -/
def token : Attribute → String
  | .position => "Pos"
  | .masterControl => "CfSt"
  | .eventBuffer => "EvnBuf"
  | .softwareConfiguration => "SWCf"
  | .reporting => "evn_rpn01"
  | .behaviour => "Beh"
  | .health => "Health"
  | .mode => "Mod"
  | .alarmOne => "Alm1"
  | .alarmTwo => "Alm2"
  | .alarmThree => "Alm3"
  | .alarmFour => "Alm4"
  | .alarmOther => "IntIn1"
  | .warningOne => "Wrn1"
  | .warningTwo => "Wrn2"
  | .warningThree => "Wrn3"
  | .warningFour => "Wrn4"
  | .warningOther => "IntIn2"
  | .totalEnergy => "TotWh"
  | .actualPower => "TotW"
  | .generatorState => "GnOpSt"
  | .operationalHours => "OpTmsRs"
  | .outputSetting => "OutWSet"
  | .maximumPower => "MaxWLim"
  | .scheduleId => "SchdId"
  | .scheduleType => "SchdTyp"
  | .scheduleCategory => "SchCat"

/-- The name towards the platform. -/
def measurementName : Attribute → String
  | .alarmOne => "Alarm1"
  | .alarmTwo => "Alarm2"
  | .alarmThree => "Alarm3"
  | .alarmFour => "Alarm4"
  | .alarmOther => "AlarmOther"
  | .warningOne => "Warning1"
  | .warningTwo => "Warning2"
  | .warningThree => "Warning3"
  | .warningFour => "Warning4"
  | .warningOther => "WarningOther"
  | a => a.token

/-- Whether a device has several values of an attribute, told apart by a number. -/
def usesIndex : Attribute → Bool
  | .position | .scheduleId | .scheduleType | .scheduleCategory => true
  | _ => false

/-- The place of an attribute in `all`. -/
def rank (a : Attribute) : Nat := all.idxOf a

/-- Whether a name, without blanks around it, is one of the attribute's. -/
def isNamed (a : Attribute) (name : String) : Bool :=
  Text.eqIgnoreCase a.token name || Text.eqIgnoreCase a.measurementName name

/-- The attribute with a name. -/
def ofName? (name : String) : Option Attribute := all.find? (·.isNamed (Text.trim name))

theorem mem_all (a : Attribute) : a ∈ all := by cases a <;> decide

theorem rank_injective {a b : Attribute} (h : a.rank = b.rank) : a = b := by
  have (x : Attribute) : all[x.rank]? = some x := by cases x <;> decide
  simpa [h, this b] using (this a).symm

end Attribute

end FieldGateway
