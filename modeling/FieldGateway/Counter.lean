import FieldGateway.Json.Basic

/-!
# Counters

The gateway counts what it does.
-/

namespace FieldGateway

/-- What is counted. -/
inductive Counter where
  | sessionsOpened
  | connectionFailures
  | commandsExecuted
  | commandFailures
  | commandRetries
  | filtersSkipped
  | reportsReceived
  | reportsSkippedStale
  | notificationsFlushed
  | notificationFlushFailures
  | responsesSent
deriving DecidableEq, Repr, Inhabited

namespace Counter

def all : List Counter :=
  [.sessionsOpened, .connectionFailures, .commandsExecuted, .commandFailures, .commandRetries,
    .filtersSkipped, .reportsReceived, .reportsSkippedStale, .notificationsFlushed,
    .notificationFlushFailures, .responsesSent]

def name : Counter → String
  | .sessionsOpened => "sessionsOpened"
  | .connectionFailures => "connectionFailures"
  | .commandsExecuted => "commandsExecuted"
  | .commandFailures => "commandFailures"
  | .commandRetries => "commandRetries"
  | .filtersSkipped => "filtersSkipped"
  | .reportsReceived => "reportsReceived"
  | .reportsSkippedStale => "reportsSkippedStale"
  | .notificationsFlushed => "notificationsFlushed"
  | .notificationFlushFailures => "notificationFlushFailures"
  | .responsesSent => "responsesSent"

end Counter

/-- How much was counted of each. -/
structure Counters where
  get : Counter → Nat

namespace Counters

def zero : Counters := ⟨fun _ => 0⟩

instance : Inhabited Counters := ⟨zero⟩

/-- The counters with `n` more of one of them. -/
def add (cs : Counters) (c : Counter) (n : Nat) : Counters :=
  ⟨fun d => if d = c then cs.get d + n else cs.get d⟩

def since (cs earlier : Counters) : Counters := ⟨fun c => cs.get c - earlier.get c⟩

def members (cs : Counters) : List (String × Json) :=
  Counter.all.map fun c => (c.name, .int (cs.get c))

/-- The counts that are not zero, by name. -/
def grown (cs : Counters) : List (String × Json) :=
  (Counter.all.filter fun c => cs.get c != 0).map fun c => (c.name, .int (cs.get c))

@[simp] theorem get_add (cs : Counters) (c d : Counter) (n : Nat) :
    (cs.add c n).get d = if d = c then cs.get d + n else cs.get d := rfl

end Counters

end FieldGateway
