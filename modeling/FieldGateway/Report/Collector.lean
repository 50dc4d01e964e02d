import FieldGateway.Report.Event

/-!
# Collecting events

A session with a streetlight controller collects the events of the reports that come in while it
waits for them, and tells them all at once when it ends.

Until it is activated, a collector takes no reports. When the session ends the events are taken out
and sent; meanwhile the collector is draining and neither takes reports nor can be drained again.
Reports that the device had kept from earlier are known by a number below a boundary and left out.
The time of entry is asked for before anything else: where it cannot be told, the handling of the
report breaks off, and the collector is as it was.

* `startDrain_phase`: after the start of a drain the collector is draining and holds nothing.
-/

namespace FieldGateway

inductive Phase where
  | idle
  | active
  | draining
deriving DecidableEq, Repr, Inhabited

def Phase.name : Phase → String
  | .idle => "Idle"
  | .active => "Active"
  | .draining => "Draining"

/-- What collects the events of a session. -/
structure Collector where
  deviceId : String
  /-- The relays' numbers towards the platform. -/
  ids : Table UInt8 UInt8
  phase : Phase
  /-- The events so far, in the order they came in. -/
  buffer : List Notification
  /-- The number of the first report that is new. -/
  boundary : Option UInt32
deriving DecidableEq, Repr, Inhabited

inductive Verdict where
  /-- The time of entry cannot be told. -/
  | brokenOff
  | inactive
  /-- The report carries nothing. -/
  | vacant
  /-- The report is from before the boundary. -/
  | stale
  | taken
deriving DecidableEq, Repr, Inhabited

namespace Collector

/-- A collector for a device with the given relays. -/
def make (deviceId : String) (outputs : List OutputSetting) : Collector :=
  ⟨deviceId, Event.externalIds outputs, .idle, [], none⟩

/-- The collector takes reports from now on, unless it is draining. -/
def activate (c : Collector) : Collector :=
  if c.phase = .idle then { c with phase := .active } else c

/-- Reports with numbers below `n` are left out from now on. -/
def setBoundary (c : Collector) (n : UInt32) : Collector := { c with boundary := some n }

/-- Whether a report is from before the boundary. -/
def isStale (c : Collector) (r : Report) : Bool :=
  match c.boundary, r.sequence with
  | some b, some n => n < b
  | _, _ => false

def verdict (c : Collector) (r : Report) : Verdict :=
  if r.breaksOff then .brokenOff
  else if c.phase ≠ .active then .inactive
  else if r.members.isEmpty then .vacant
  else if c.isStale r then .stale
  else .taken

/-- The events of a report, without the members that are none. A report that breaks off tells of no
event. -/
def events (c : Collector) (clock : Clock) (r : Report) : List Notification :=
  if r.breaksOff then []
  else (r.timed clock).filterMap fun (m, now) =>
    (Event.ofMember c.deviceId c.ids r.time? now m).toOption

/-- The collector after a report came in. -/
def receive (c : Collector) (clock : Clock) (r : Report) : Collector :=
  if c.verdict r = .taken then { c with buffer := c.buffer ++ c.events clock r } else c

/-- Events in the order in which they happened; of events of one time the earlier told goes
first. -/
def inOrder (batch : List Notification) : List Notification :=
  batch.mergeSort fun a b => decide (a.time ≤ b.time)

/-- The events taken out to be sent, in order; `none` if they are being sent already. -/
def startDrain (c : Collector) : Option (List Notification) × Collector :=
  if c.phase = .draining then (none, c)
  else (some (inOrder c.buffer), { c with phase := .draining, buffer := [] })

/-- The collector once the events have been sent, or lost. -/
def finishDrain (c : Collector) : Collector := { c with phase := .idle }

theorem startDrain_phase (c : Collector) : c.startDrain.2.phase = .draining := by
  unfold startDrain
  split
  · assumption
  · rfl

/-- Sending neither loses nor adds an event. -/
theorem inOrder_perm (batch : List Notification) : (inOrder batch).Perm batch :=
  List.mergeSort_perm _ _

end Collector

end FieldGateway
