import FieldGateway.Counter
import FieldGateway.Failure

/-!
# Trying again

A command that the device refuses is tried again after a pause, up to a number of attempts. One that
fails in any other way is not.

* `Policy.attempts_pos`: there is always a first attempt.
-/

namespace FieldGateway

/-- How often a command is tried, and how long to wait in between. -/
structure Policy where
  /-- The number of attempts, the first one included. -/
  maxAttempts : UInt32
  /-- The pause before another attempt, in milliseconds. -/
  backoff : UInt64
deriving DecidableEq, Repr, Inhabited

namespace Policy

/-- A policy with at least one attempt. -/
def make (maxAttempts : UInt32) (backoff : UInt64) : Policy :=
  ⟨if maxAttempts = 0 then 1 else maxAttempts, backoff⟩

/-- The policy that allows some attempts after the first; there cannot be more than 2³² - 1. -/
def ofRetries (retries : UInt32) (backoff : UInt64) : Policy :=
  make (UInt32.ofNat (min (retries.toNat + 1) (UInt32.size - 1))) backoff

/-- The policy where nothing else is set. -/
def standard : Policy := ofRetries 2 200

def attempts (p : Policy) : Nat := max p.maxAttempts.toNat 1

theorem attempts_pos (p : Policy) : 0 < p.attempts := Nat.le_max_right _ _

end Policy

/-- What can wait and count. -/
class Paced (m : Type → Type) where
  pause (ms : Nat) : m Unit
  count (c : Counter) : m Unit

namespace Policy

variable {m : Type → Type} [Monad m] [Paced m] {α : Type}

/-- Whether a result is an error that may be gone at the next attempt. -/
def isRefusal : Except Failure α → Bool
  | .ok _ => false
  | .error e => e.severity == .retryable

/-- What is told of the last attempt, the `tried`-th. -/
def conclusion (tried : Nat) : Except Failure α → Except Failure α
  | .ok a => .ok a
  | .error e => .error (if e.severity = .retryable then .exhausted tried e else e)

/-- The last attempt is counted and told. -/
def conclude (tried : Nat) (result : Except Failure α) : m (Except Failure α) := do
  Paced.count (if result.isOk then .commandsExecuted else .commandFailures)
  return conclusion tried result

/-- A command after `tried` attempts, with so many more allowed behind the next one. -/
def executeFrom (p : Policy) (command : m (Except Failure α)) (tried : Nat) :
    Nat → m (Except Failure α)
  | 0 => do conclude (tried + 1) (← command)
  | left + 1 => do
    let result ← command
    if isRefusal result then
      Paced.count .commandRetries
      Paced.pause p.backoff.toNat
      executeFrom p command (tried + 1) left
    else conclude (tried + 1) result

/-- A command with as many attempts as the policy allows. -/
def execute (p : Policy) (command : m (Except Failure α)) : m (Except Failure α) :=
  p.executeFrom command 0 (p.attempts - 1)

end Policy

end FieldGateway
