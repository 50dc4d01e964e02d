import FieldGateway.Json.Fields
import FieldGateway.Text.Ascii
import FieldGateway.Text.Numeral
import FieldGateway.Text.Percent

/-!
# Settings

The gateway is set up by variables of its environment. A variable whose value is not UTF-8 counts as
unset. The first variable, in the order in which they are read, that is missing or holds no number
of the right size stops the reading.
-/

namespace FieldGateway

structure Settings where
  httpAddress : String
  /-- How long a device may take to be reached, and to tell its model, in milliseconds. -/
  connectTimeout : UInt64
  streetlightPort : UInt16
  rtuPort : UInt16
  /-- How often a command is tried again. -/
  retries : UInt32
  /-- The pause before it is tried again, in milliseconds. -/
  backoff : UInt64
  /-- How long a session that waits for reports stays open, in milliseconds. -/
  disconnectDelay : UInt64
  /-- How long after its registration a device is asked for reports, in milliseconds. -/
  registrationDelay : UInt64
  reportsAfterRegistration : Bool
  /-- A file with the model that all devices are taken to have. -/
  modelTemplatePath : Option String
  /-- A file with the devices. -/
  registryPath : Option String
  brokerEnabled : Bool
  brokerHost : String
  brokerPort : UInt16
  brokerUser : Option String
  brokerPassword : Option String
  /-- What all topics begin with. -/
  topicRoot : String
  qualityOfService : UInt8
deriving DecidableEq, Repr, Inhabited

/-- Why the settings cannot be read. -/
inductive SettingFault where
  /-- A variable that must be set is not. -/
  | missing (key : String)
  /-- A variable holds no number of the right size. -/
  | invalid (key value : String)
deriving DecidableEq, Repr, Inhabited

def SettingFault.message : SettingFault → String
  | .missing key => "missing required env: " ++ key
  | .invalid key value => "invalid value for " ++ key ++ ": " ++ value

/-- The variables that are set, with the bytes of their values. -/
abbrev Environment := List (String × List UInt8)

namespace Environment

/-- The bytes of a value that is given as a text, or by the hexadecimal digits of its bytes. -/
def bytesOfJson? : Json → Option (List UInt8)
  | .string s => some s.toUTF8.toList
  | v => do
    let [digits] ← v.fields? ["hex"] | none
    Text.hexBytes? (← Json.required? Json.string? digits).toUTF8.toList

/-- The environment that a JSON object gives. -/
def ofJson? : Json → Option Environment
  | .object members => members.mapM fun m => (bytesOfJson? m.2).map fun bytes => (m.1, bytes)
  | _ => none

/-- The value of a variable; `none` if it is unset or no text. -/
def text? (env : Environment) (key : String) : Option String :=
  (env.lookup key).bind fun bytes => String.fromUTF8? (ByteArray.mk bytes.toArray)

/-- The value of a variable that is not empty. -/
def filled? (env : Environment) (key : String) : Option String :=
  (env.text? key).filter fun s => !s.isEmpty

/-- Whether a variable is switched on. -/
def isOn (env : Environment) (key : String) : Bool :=
  match env.text? key with
  | none => false
  | some s => ["1", "true", "on"].any (Text.eqIgnoreCase · s)

/-- The number in the value of a variable. -/
def parsed (bound : Nat) (key value : String) : Except SettingFault Nat :=
  match Text.unsigned? bound value with
  | some n => .ok n
  | none => .error (.invalid key value)

/-- The number below `bound` that a variable holds; the variable must be set. -/
def number (env : Environment) (bound : Nat) (key : String) : Except SettingFault Nat :=
  match env.text? key with
  | none => .error (.missing key)
  | some s => parsed bound key s

/-- The number below `bound` that a variable holds, or another if it is unset. -/
def numberOr (env : Environment) (bound : Nat) (key : String) (unset : Nat) :
    Except SettingFault Nat :=
  match env.text? key with
  | none => .ok unset
  | some s => parsed bound key s

end Environment

namespace Settings

/-- The settings that an environment makes. -/
def ofEnvironment (env : Environment) : Except SettingFault Settings := do
  let connectTimeout ← env.number UInt64.size "IEC61850_CONNECT_TIMEOUT_MS"
  let streetlightPort ← env.numberOr UInt16.size "IEC61850_SSLD_PORT" 102
  let rtuPort ← env.numberOr UInt16.size "IEC61850_RTU_PORT" 102
  let retries ← env.numberOr UInt32.size "IEC61850_MAX_RETRY_COUNT" 2
  let backoff ← env.numberOr UInt64.size "IEC61850_RETRY_BACKOFF_MS" 200
  let disconnectDelay ← env.numberOr UInt64.size "IEC61850_DISCONNECT_DELAY_MS" 5000
  let registrationDelay ←
    env.numberOr UInt64.size "IEC61850_REGISTRATION_REPORTING_DELAY_MS" 5000
  let brokerPort ← env.numberOr UInt16.size "IEC61850_MQTT_PORT" 1883
  let qualityOfService ← env.numberOr UInt8.size "IEC61850_MQTT_QOS" 1
  return {
    httpAddress := (env.text? "IEC61850_HTTP_ADDR").getD "127.0.0.1:8080"
    connectTimeout := .ofNat connectTimeout
    streetlightPort := .ofNat streetlightPort
    rtuPort := .ofNat rtuPort
    retries := .ofNat retries
    backoff := .ofNat backoff
    disconnectDelay := .ofNat disconnectDelay
    registrationDelay := .ofNat registrationDelay
    reportsAfterRegistration := env.isOn "IEC61850_REPORTING_AFTER_REGISTRATION"
    modelTemplatePath := env.filled? "IEC61850_MODEL_TEMPLATE_PATH"
    registryPath := env.filled? "IEC61850_DEVICE_REGISTRY_PATH"
    brokerEnabled := env.isOn "IEC61850_MQTT"
    brokerHost := (env.text? "IEC61850_MQTT_HOST").getD "127.0.0.1"
    brokerPort := .ofNat brokerPort
    brokerUser := env.filled? "IEC61850_MQTT_USERNAME"
    brokerPassword := env.filled? "IEC61850_MQTT_PASSWORD"
    topicRoot := (env.text? "IEC61850_MQTT_TOPIC_PREFIX").getD "osgp/iec61850"
    qualityOfService := .ofNat qualityOfService }

def toJson (s : Settings) : Json :=
  .object [("httpAddr", .string s.httpAddress),
    ("connectTimeoutMs", .int s.connectTimeout.toNat),
    ("ssldPort", .int s.streetlightPort.toNat), ("rtuPort", .int s.rtuPort.toNat),
    ("maxRetryCount", .int s.retries.toNat), ("retryBackoffMs", .int s.backoff.toNat),
    ("disconnectDelayMs", .int s.disconnectDelay.toNat),
    ("registrationReportingDelayMs", .int s.registrationDelay.toNat),
    ("reportingAfterRegistration", .bool s.reportsAfterRegistration),
    ("modelTemplatePath", Json.ofOption .string s.modelTemplatePath),
    ("deviceRegistryPath", Json.ofOption .string s.registryPath),
    ("mqttEnabled", .bool s.brokerEnabled), ("mqttHost", .string s.brokerHost),
    ("mqttPort", .int s.brokerPort.toNat),
    ("mqttUsername", Json.ofOption .string s.brokerUser),
    ("mqttPassword", Json.ofOption .string s.brokerPassword),
    ("mqttTopicPrefix", .string s.topicRoot), ("mqttQos", .int s.qualityOfService.toNat)]

end Settings

end FieldGateway
