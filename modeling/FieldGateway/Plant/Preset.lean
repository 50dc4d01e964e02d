import FieldGateway.Device.Basic
import FieldGateway.Model.Basic
import FieldGateway.Report.Basic

/-!
# Preset models

The models of a streetlight controller with four relays, and of a terminal unit with a solar plant
and a battery behind it, as the plant starts with them; and the reports a streetlight controller
sends.
-/

namespace FieldGateway.Preset

def streetlightServer : String := "SWDeviceGeneric"

def streetlightDevice : String := streetlightServer ++ "IO"

def eventBlock : String := streetlightDevice ++ "/LLN0.evn_rpn01"

def relayNodes (relay : Nat) : List Node :=
  let switch := streetlightDevice ++ "/XSWC" ++ toString relay
  [.ofList (switch ++ ".Pos") .status [("stVal", .bool false), ("q", .int 0)],
    .ofList (switch ++ ".Pos") .control [("Oper.ctlVal", .bool false)],
    .ofList (switch ++ ".CfSt") .configuration [("enbOper", .bool false)]]

/-- A streetlight controller with four relays. -/
def streetlight : ServerModel where
  nodes :=
    [1, 2, 3, 4].flatMap relayNodes ++
      [.ofList (streetlightDevice ++ "/CSLC.EvnBuf") .configuration
          [("enbEvnType", .text "LIGHT_EVENTS")],
        .ofList (streetlightDevice ++ "/CSLC.SWCf") .configuration [("LT", .text "")]]
  buffered := [.fresh eventBlock true]
  unbuffered := []

def statusNodes (device : String) : List Node :=
  ["Beh", "Health", "Mod"].map fun token =>
    .ofList (device ++ "/LLN0." ++ token) .status [("stVal", .int 1), ("q", .int 0)]

def inputNodes (device : String) : List Node :=
  ["Alm1", "Alm2", "Alm3", "Alm4", "IntIn1", "Wrn1", "Wrn2", "Wrn3", "Wrn4", "IntIn2"].map
    fun token => .ofList (device ++ "/GGIO1." ++ token) .status [("stVal", .int 0), ("q", .int 0)]

def scheduleNodes (device : String) (schedule : Nat) : List Node :=
  ["SchdId", "SchdTyp", "SchCat"].map fun token =>
    .ofList (device ++ "/DSCH" ++ toString schedule ++ "." ++ token) .setPoint [("setVal", .int 0)]

/-- The nodes of what generates or stores energy. -/
def generationNodes (device : String) : List Node :=
  [.ofList (device ++ "/MMXU1.TotW") .measurand [("mag.f", .float 0.0), ("q", .int 0)],
    .ofList (device ++ "/DGEN1.TotWh") .measurand [("actVal", .int 0)],
    .ofList (device ++ "/DGEN1.GnOpSt") .status [("stVal", .int 1)],
    .ofList (device ++ "/DGEN1.OpTmsRs") .status [("stVal", .int 0)],
    .ofList (device ++ "/DGEN1.MaxWLim") .setPoint [("setMag.f", .float 0.0)],
    .ofList (device ++ "/DRCC1.OutWSet") .setPoint [("setMag.f", .float 0.0)]] ++
    [1, 2, 3, 4].flatMap (scheduleNodes device)

/-- A terminal unit with a solar plant and a battery. -/
def rtu (server : String) : ServerModel :=
  let devices := [server ++ "RTU1", server ++ "PV1", server ++ "BATTERY1"]
  { nodes :=
      statusNodes (server ++ "RTU1") ++ inputNodes (server ++ "RTU1") ++
        (statusNodes (server ++ "PV1") ++ generationNodes (server ++ "PV1")) ++
        (statusNodes (server ++ "BATTERY1") ++ generationNodes (server ++ "BATTERY1"))
    buffered := devices.map fun d => .fresh (d ++ "/LLN0.Status") true
    unbuffered := devices.map fun d => .fresh (d ++ "/LLN0.Measurements") false }

/-- The model that a device of a family starts with. -/
def ofIdentity (i : Identity) : ServerModel :=
  if i.family = .streetlightController then streetlight else rtu i.serverName

/-- An event as the streetlight controller has it; what is missing is not reported. -/
structure Occurrence where
  code : Option Int64
  relay : Option Int64
  position : Option Bool
  trigger : Option Int64
  /-- When it was triggered, in milliseconds since 1970. -/
  time : Option Int64
  remark : Option String
deriving DecidableEq, Repr, Inhabited

/-- The values of an event that is reported. -/
def Occurrence.values (o : Occurrence) : List (String × Value) :=
  (o.code.map fun n => ("evnType", Value.int n)).toList ++
    (o.relay.map fun n => ("swNum", Value.int n)).toList ++
    (o.position.map fun b => ("swVal", Value.bool b)).toList ++
    (o.trigger.map fun n => ("trgType", Value.int n)).toList ++
    (o.time.map fun t => ("trgTime", Value.timestamp t)).toList ++
    (o.remark.map fun s => ("remark", Value.text s)).toList

/-- The member of a report that tells an event, by its place in the report. -/
def Occurrence.member (o : Occurrence) (place : Nat) : Node :=
  .ofList (streetlightDevice ++ "/CSLC.EvnRpn" ++ toString place) .bufferedReport o.values

def eventReport (sequence : UInt32) (entry : Option Int64) (events : List Occurrence) : Report where
  id := "evn_rpn01"
  block := eventBlock
  sequence := some sequence
  segment := none
  continued := false
  overflow := false
  entry
  dataSet := some
    { reference := streetlightDevice ++ "/LLN0.EvnRpn"
      members := events.mapIdx fun i e => e.member (i + 1) }

end FieldGateway.Preset
