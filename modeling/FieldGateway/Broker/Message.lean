import FieldGateway.Broker.Topic
import FieldGateway.Envelope

/-!
# Messages

What the gateway publishes: responses, events and measurements, each under its topic. A message is
never kept by the broker for those who subscribe later.
-/

namespace FieldGateway

/-- How surely messages are delivered. -/
inductive Quality where
  | atMostOnce
  | atLeastOnce
  | exactlyOnce
deriving DecidableEq, Repr, Inhabited

namespace Quality

/-- The quality of a level; an unknown level is taken as the middle one. -/
def ofLevel : UInt8 → Quality
  | 0 => .atMostOnce
  | 2 => .exactlyOnce
  | _ => .atLeastOnce

def level : Quality → UInt8
  | .atMostOnce => 0
  | .atLeastOnce => 1
  | .exactlyOnce => 2

theorem ofLevel_level (q : Quality) : ofLevel q.level = q := by cases q <;> rfl

end Quality

/-- How the gateway uses a broker. -/
structure BrokerLink where
  /-- What all topics begin with. -/
  root : String
  quality : Quality
  user : Option String
  password : Option String
deriving DecidableEq, Repr, Inhabited

namespace BrokerLink

/-- After how many seconds of silence the gateway gives a sign of life. -/
def keepAlive : Nat := 30

/-- The name and the password to log in with; without either there is no login. -/
def login? (b : BrokerLink) : Option (String × String) :=
  match b.user, b.password with
  | some user, some password => some (user, password)
  | _, _ => none

end BrokerLink

structure Message where
  topic : String
  quality : Quality
  /-- Whether the broker keeps it. -/
  retained : Bool
  payload : Json
deriving Inhabited, Repr

namespace Message

/-- A message under a topic, unless nothing can be published there. -/
def publish? (b : BrokerLink) (topic : String) (payload : Json) : Option Message :=
  if Topic.isPublishable topic then some ⟨topic, b.quality, false, payload⟩ else none

def ofResponse? (b : BrokerLink) (now : Int64) (r : Response) : Option Message :=
  publish? b (Topic.response b.root r.deviceId r.correlationId) (Reply.mk r now).toJson

def ofEvents? (b : BrokerLink) (batch : EventBatch) : Option Message :=
  publish? b (Topic.events b.root batch.deviceId) batch.toJson

def ofMeasurements? (b : BrokerLink) (now : Int64) (batch : MeasurementBatch) : Option Message :=
  publish? b (Topic.measurements b.root batch.deviceId) (batch.toJson now)

end Message

end FieldGateway
