import FieldGateway.Action
import FieldGateway.Plant.Network
import FieldGateway.Registry

/-!
# The plant

The surroundings of the gateway as a whole: a clock, a registry, a network of simulated devices,
what lies between the gateway and the network, the links that were made, those the results are sent
to, the counters, and the jobs that were started. Every action of the gateway changes the plant in
one step.

* `perform`: the answer to an action, and the plant after it.
-/

namespace FieldGateway

structure Link where
  host : String
  listener : Listener
  /-- Whether what lies between the gateway and the network is passed by. -/
  direct : Bool
  released : Bool
  retired : Bool
deriving DecidableEq, Repr, Inhabited

/-- What lies between the gateway and the network: delays, and faults that are answered one by one
in place of the devices. -/
structure Interference where
  associateDelay : Nat
  modelDelay : Nat
  readDelay : Nat
  modelFaults : List Fault
  enableFaults : List Fault
  disableFaults : List Fault
deriving DecidableEq, Repr, Inhabited

def Interference.none : Interference := ⟨0, 0, 0, [], [], []⟩

def Interference.delay (i : Interference) : Stage → Nat
  | .associating => i.associateDelay
  | .retrieving => i.modelDelay
  | .reading => i.readDelay

/-- What was sent, be it in vain. -/
structure Outbox where
  responses : List Response
  events : List EventBatch
  measurements : List MeasurementBatch
deriving DecidableEq, Repr, Inhabited

def Outbox.empty : Outbox := ⟨[], [], []⟩

def Outbox.since (o earlier : Outbox) : Outbox where
  responses := o.responses.drop earlier.responses.length
  events := o.events.drop earlier.events.length
  measurements := o.measurements.drop earlier.measurements.length

/-- Why nothing can be sent, where it cannot. -/
structure Blockage where
  responses : Option String
  events : Option String
  measurements : Option String
deriving DecidableEq, Repr, Inhabited

def Blockage.none : Blockage := ⟨.none, .none, .none⟩

inductive Sound where
  | report (report : Report)
  | closed
deriving DecidableEq, Repr, Inhabited

structure Plant where
  /-- The milliseconds that were waited since the start. -/
  time : Nat
  /-- The time of day that the clock shows, in milliseconds since 1970. Waiting does not move it. -/
  now : Int64
  registry : Registry
  /-- Whether the next look-ups in the registry fail. -/
  findFaults : List Bool
  /-- Whether the next listings of the registry fail. -/
  listFaults : List Bool
  network : Network
  interference : Interference
  /-- The links that were made, by their numbers. -/
  links : List Link
  outbox : Outbox
  blockage : Blockage
  heard : List Sound
  counters : Counters
  /-- The jobs that were started, by their numbers. -/
  jobs : List Job
  /-- What a generated identifier reads as. -/
  identifier : String
deriving Inhabited

namespace Plant

/-- The plant of some known devices and a network, before anything happens. -/
def start (registry : Registry) (network : Network) (now : Int64) (identifier : String) :
    Plant where
  time := 0
  now
  registry
  findFaults := []
  listFaults := []
  network
  interference := .none
  links := []
  outbox := .empty
  blockage := .none
  heard := []
  counters := .zero
  jobs := []
  identifier

/-! ## Parts of the plant -/

def count (p : Plant) (c : Counter) (n : Nat) : Plant := { p with counters := p.counters.add c n }

def listener? (p : Plant) (link : Nat) : Option Listener := p.links[link]?.map Link.listener

def modifyLink (p : Plant) (link : Nat) (f : Link → Link) : Plant :=
  { p with links := p.links.modify link f }

def modifyCollector (p : Plant) (link : Nat) (f : Collector → Collector) : Plant :=
  p.modifyLink link fun l =>
    match l.listener with
    | .events c => { l with listener := .events (f c) }
    | _ => l

def modifyIed (p : Plant) (host : String) (f : Ied → Ied) : Plant :=
  { p with network := p.network.modify host f }

def sendEvents (p : Plant) (batch : EventBatch) : Plant :=
  { p with outbox := { p.outbox with events := p.outbox.events ++ [batch] } }

def sendResponse (p : Plant) (r : Response) : Plant :=
  { p with outbox := { p.outbox with responses := p.outbox.responses ++ [r] } }

def sendMeasurements (p : Plant) (batch : MeasurementBatch) : Plant :=
  { p with outbox := { p.outbox with measurements := p.outbox.measurements ++ [batch] } }

def hear (p : Plant) (s : Sound) : Plant := { p with heard := p.heard ++ [s] }

/-! ## Reports -/

/-- What a collector makes of a report is counted. -/
def collect (p : Plant) (link : Nat) (c : Collector) (clock : Clock) (r : Report) : Plant :=
  let p := (p.count .reportsReceived 1).modifyCollector link fun c => c.receive clock r
  if c.verdict r = .stale then p.count .reportsSkippedStale 1 else p

/-- The measurements of a report are sent, if there are any. -/
def forward (p : Plant) (reader : Reader) (clock : Clock) (r : Report) : Plant :=
  let p := p.count .reportsReceived 1
  match reader.systems clock r with
  | [] => p
  | systems => p.sendMeasurements ⟨reader.deviceId, systems⟩

/-- A report comes in over a link. -/
def deliver (p : Plant) (link : Nat) (clock : Clock) (r : Report) : Plant :=
  match p.listener? link with
  | some (.events c) => p.collect link c clock r
  | some (.measurements reader) => p.forward reader clock r
  | some .watcher => p.hear (.report r)
  | some .silent | none => p

/-- Whether whoever delivers a report is broken off: only a collector asks for the time of entry. -/
def breaksOff (p : Plant) (link : Nat) (r : Report) : Bool :=
  match p.listener? link with
  | some (.events c) => c.verdict r = .brokenOff
  | _ => false

/-- The device at an address sends a report over the link that was made last. It learns whether
there is one, unless it is broken off. -/
def push (p : Plant) (host : String) (clock : Clock) (r : Report) : Option Bool × Plant :=
  match (p.network.find? host).bind (·.lastLink) with
  | some link => (if p.breaksOff link r then none else some true, p.deliver link clock r)
  | none => (some false, p)

/-! ## Actions -/

/-- The device at the other end of a link, while the association stands. -/
def far (p : Plant) (link : Nat) : Except Fault (String × Ied) :=
  match p.links[link]? with
  | none => .error (.io "association closed")
  | some l =>
    if l.released then .error (.io "association closed")
    else
      match p.network.find? l.host with
      | none => .error (.io "association closed")
      | some d => .ok (l.host, d)

/-- Whether what lies between the gateway and the network has a part in a link. -/
def interferes (p : Plant) (link : Nat) : Bool :=
  match p.links[link]? with
  | some l => !l.direct
  | none => false

/-- A request over a link, which the device answers. -/
def ask {α : Type} (p : Plant) (link : Nat) (f : Ied → Except Fault α × Ied) :
    Except Fault α × Plant :=
  match p.far link with
  | .error e => (.error e, p)
  | .ok (host, d) =>
    let (a, d) := f d
    (a, p.modifyIed host fun _ => d)

def associate (p : Plant) (host : String) (port : UInt16) (listener : Listener) (direct : Bool) :
    Except Fault Nat × Plant :=
  match p.network.reach host port with
  | .error e => (.error e, p)
  | .ok () =>
    let link := p.links.length
    (.ok link,
      { p.modifyIed host fun d => d.associate link with
        links := p.links ++ [⟨host, listener, direct, false, false⟩] })

/-- The model of the device, unless a fault lies in between. -/
def retrieve (p : Plant) (link : Nat) : Except Fault ServerModel × Plant :=
  match p.interference.modelFaults, p.interferes link with
  | f :: rest, true =>
    (.error f, { p with interference := { p.interference with modelFaults := rest } })
  | _, _ => p.ask link fun d => (.ok d.model, d)

/-- A report is switched on, unless a fault lies in between. -/
def enable (p : Plant) (link : Nat) (reference : String) : Except Fault ControlBlock × Plant :=
  match p.interference.enableFaults, p.interferes link with
  | f :: rest, true =>
    (.error f, { p with interference := { p.interference with enableFaults := rest } })
  | _, _ => p.ask link fun d => d.enable reference

/-- A report is switched off, unless a fault lies in between. -/
def disable (p : Plant) (link : Nat) (reference : String) : Except Fault Unit × Plant :=
  match p.interference.disableFaults, p.interferes link with
  | f :: rest, true =>
    (.error f, { p with interference := { p.interference with disableFaults := rest } })
  | _, _ => p.ask link fun d => d.disable reference

/-- The association is given up, if it stands. -/
def release (p : Plant) (link : Nat) : Plant :=
  match p.far link with
  | .error _ => p
  | .ok (host, _) => (p.modifyIed host Ied.release).modifyLink link ({ · with released := true })

/-- Whether the session over a link was not ended. -/
def isOpen (p : Plant) (link : Nat) : Bool :=
  match p.links[link]? with
  | some l => !l.retired
  | none => false

/-- The listener of a link is told that the session is over. -/
def hangUp (p : Plant) (link : Nat) : Option EventBatch × Plant :=
  match p.listener? link with
  | some (.events c) =>
    (c.startDrain.1.map fun batch => ⟨c.deviceId, batch⟩,
      p.modifyCollector link fun c => c.startDrain.2)
  | some .watcher => (none, p.hear .closed)
  | _ => (none, p)

/-- The device with an identifier, unless the registry fails. -/
def findDevice (p : Plant) (id : String) : Except RegistryFault (Option Device) × Plant :=
  (if p.findFaults.head?.getD false then .error .locked else .ok (p.registry.find? id),
    { p with findFaults := p.findFaults.tail })

/-- All devices, unless the registry fails. -/
def listDevices (p : Plant) : Except RegistryFault (List Device) × Plant :=
  (if p.listFaults.head?.getD false then .error .locked else .ok p.registry.toList,
    { p with listFaults := p.listFaults.tail })

/-- The answer to an action, and the plant after it. -/
def perform (p : Plant) : (a : Action) → a.Answer × Plant
  | .findDevice id => p.findDevice id
  | .listDevices => p.listDevices
  | .latency stage => (p.interference.delay stage, p)
  | .associate host port listener => p.associate host port listener false
  | .retrieve link => p.retrieve link
  | .read link reference constraint => p.ask link fun d => d.read reference constraint
  | .write link node => p.ask link fun d => d.write node
  | .enable link reference => p.enable link reference
  | .disable link reference => p.disable link reference
  | .release link => ((), p.release link)
  | .isOpen link => (p.isOpen link, p)
  | .retire link => (p.isOpen link, p.modifyLink link ({ · with retired := true }))
  | .activate link => ((), p.modifyCollector link Collector.activate)
  | .setBoundary link n => ((), p.modifyCollector link (·.setBoundary n))
  | .hangUp link => p.hangUp link
  | .settle link => ((), p.modifyCollector link Collector.finishDrain)
  | .sendEvents batch => (p.blockage.events, p.sendEvents batch)
  | .sendResponse r => (p.blockage.responses, p.sendResponse r)
  | .now => (p.now, p)
  | .freshId => (p.identifier, p)
  | .count c n => ((), p.count c n)
  | .counts => (p.counters, p)
  | .start job => (p.jobs.length, { p with jobs := p.jobs ++ [job] })

end Plant

end FieldGateway
