import FieldGateway.Broker.Topic
import FieldGateway.Envelope
import FieldGateway.Json.Reader

/-!
# Admitting requests

Each message that comes in is taken for itself: it holds a request if it can be read and names a
device, or its topic does, without contradiction. A message that holds none is passed over.
-/

namespace FieldGateway.Admission

/-- Why a message holds no request. -/
inductive Refusal where
  | unreadable
  /-- It is not clear which device is meant. -/
  | rejected (reason : Rejection)
deriving DecidableEq, Repr, Inhabited

def envelope? (payload : List UInt8) : Option Envelope :=
  (Json.ofBytes? payload).bind (Envelope.ofJson? Json.maxDepth)

/-- The request in a message; an identifier it lacks is a fresh one. -/
def request (root topic : String) (payload : List UInt8) (fresh : String) :
    Except Refusal Request :=
  match envelope? payload with
  | none => .error .unreadable
  | some e => (e.toRequest (Topic.deviceOf? root topic) fresh).mapError .rejected

structure Arrival where
  topic : String
  payload : List UInt8
  /-- The identifier it gets if it has none. -/
  fresh : String
deriving DecidableEq, Repr, Inhabited

/-- The requests in messages, in their order. -/
def requests (root : String) (arrivals : List Arrival) : List Request :=
  arrivals.filterMap fun a => (request root a.topic a.payload a.fresh).toOption

end FieldGateway.Admission
