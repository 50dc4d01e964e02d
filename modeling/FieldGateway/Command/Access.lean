import FieldGateway.Command.Point
import FieldGateway.Session

/-!
# Reading and writing points

The value of a system is read or written at its point, in the logical device that presents the
system.
-/

namespace FieldGateway.Point

/-- The value of a system. -/
def read (p : Point) (s : Session) (device : LogicalDevice) (id : UInt8) : Attempt Measurement := do
  let node ← s.read (p.address device id)
  let now ← Action.now.perform
  Attempt.ofExcept (p.measure now node)

/-- The value of a system is set, if it may be. -/
def write (p : Point) (s : Session) (device : LogicalDevice) (id : UInt8) (value : Float) :
    Attempt Unit :=
  if p.writable then s.write (p.address device id) p.path (p.encoding.encode value)
  else throw (.configuration (.notWritable p.attr))

end FieldGateway.Point
