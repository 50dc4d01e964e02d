import FieldGateway.Failure
import FieldGateway.Model.Basic

/-!
# Intelligent electronic devices

A device as the plant simulates it: one model that all its associations read and write, faults that
are waiting to be answered in place of results, and a record of what was done. Every request of an
association either is carried out or leaves model and record of writes and reports as they were; the
faults are answered one by one, in the order they were put in.
-/

namespace FieldGateway

structure Activity where
  associations : Nat
  releases : Nat
  reads : Nat
  writes : List Node
  enabled : List String
  disabled : List String
deriving DecidableEq, Repr, Inhabited

namespace Activity

def none : Activity := ⟨0, 0, 0, [], [], []⟩

def since (a earlier : Activity) : Activity where
  associations := a.associations - earlier.associations
  releases := a.releases - earlier.releases
  reads := a.reads - earlier.reads
  writes := a.writes.drop earlier.writes.length
  enabled := a.enabled.drop earlier.enabled.length
  disabled := a.disabled.drop earlier.disabled.length

end Activity

structure Ied where
  /-- What the device offers, as it stands. -/
  model : ServerModel
  refuses : Bool
  /-- The faults that the next reads are answered with. -/
  readFaults : List Fault
  /-- The faults that the next writes are answered with. -/
  writeFaults : List Fault
  activity : Activity
  /-- The link that was made last, which reports go to. -/
  lastLink : Option Nat
deriving DecidableEq, Repr, Inhabited

namespace Ied

def ofModel (model : ServerModel) : Ied := ⟨model, false, [], [], .none, none⟩

/-- What a device answers where it has no such node. -/
def noObject (reference : String) (constraint : Constraint) : Fault :=
  .service ("object " ++ reference ++ " [" ++ constraint.code ++ "] not found")

/-- What a device answers where it has no such report. -/
def noReport (reference : String) : Fault :=
  .service ("report control block " ++ reference ++ " not found")

def associate (d : Ied) (link : Nat) : Ied :=
  { d with
    lastLink := some link
    activity := { d.activity with associations := d.activity.associations + 1 } }

def release (d : Ied) : Ied :=
  { d with activity := { d.activity with releases := d.activity.releases + 1 } }

def countRead (d : Ied) : Ied :=
  { d with activity := { d.activity with reads := d.activity.reads + 1 } }

/-- A read is counted, and answered with a waiting fault if there is one. -/
def read (d : Ied) (reference : String) (constraint : Constraint) : Except Fault Node × Ied :=
  match d.readFaults with
  | f :: rest => (.error f, { d.countRead with readFaults := rest })
  | [] =>
    match d.model.findNode? reference constraint with
    | none => (.error (noObject reference constraint), d.countRead)
    | some node => (.ok node, d.countRead)

/-- A control value shows in the status of the same object. -/
def reflect (m : ServerModel) (node : Node) : ServerModel :=
  match node.constraint, node.get? "Oper.ctlVal" with
  | .control, some v => m.modifyNode node.reference .status fun n => n.set "stVal" v
  | _, _ => m

/-- The model after the values of a node were written. -/
def written (m : ServerModel) (node : Node) : ServerModel :=
  reflect (m.modifyNode node.reference node.constraint fun n => n.merge node) node

/-- A write is answered with a waiting fault if there is one. -/
def write (d : Ied) (node : Node) : Except Fault Unit × Ied :=
  match d.writeFaults with
  | f :: rest => (.error f, { d with writeFaults := rest })
  | [] =>
    match d.model.findNode? node.reference node.constraint with
    | none => (.error (noObject node.reference node.constraint), d)
    | some _ =>
      (.ok (),
        { d with
          model := written d.model node
          activity := { d.activity with writes := d.activity.writes ++ [node] } })

/-- A report is switched on and answered with its control block. -/
def enable (d : Ied) (reference : String) : Except Fault ControlBlock × Ied :=
  match d.model.block? reference with
  | none => (.error (noReport reference), d)
  | some b =>
    (.ok { b with enabled := true },
      { d with
        model := d.model.modifyBlock reference fun b => { b with enabled := true }
        activity := { d.activity with enabled := d.activity.enabled ++ [reference] } })

def disable (d : Ied) (reference : String) : Except Fault Unit × Ied :=
  match d.model.block? reference with
  | none => (.error (noReport reference), d)
  | some _ =>
    (.ok (),
      { d with
        model := d.model.modifyBlock reference fun b => { b with enabled := false }
        activity := { d.activity with disabled := d.activity.disabled ++ [reference] } })

/-! ## What happens at the device itself -/

def failReads (d : Ied) (count : Nat) (f : Fault) : Ied :=
  { d with readFaults := d.readFaults ++ List.replicate count f }

def failWrites (d : Ied) (count : Nat) (f : Fault) : Ied :=
  { d with writeFaults := d.writeFaults ++ List.replicate count f }

def setNode (d : Ied) (node : Node) : Ied := { d with model := d.model.insertNode node }

/-- The device counts the reports of a block from another number on. -/
def setSequence (d : Ied) (reference : String) (n : UInt32) : Ied :=
  { d with model := d.model.modifyBlock reference fun b => { b with sequence := n } }

end Ied

end FieldGateway
