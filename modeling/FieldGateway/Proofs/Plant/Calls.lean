import FieldGateway.Proofs.Plant.Devices

/-!
# What a device answers

Whatever is asked of a device over an association is carried out, or answered with a fault. The
faults that wait for reads and those that wait for writes are two queues, and only a call of the
kind takes a fault from either.

* `Ied.answer`: the reply of a device to a call, and the device after it.
* `Ied.waiting_answer`, `Ied.reply_of_waiting`: what a call does to the faults that wait, and what
  they do to it.
* `Ied.reply_read`, `Ied.reply_write_iff`: what is answered while none waits.
* `Ied.record_answer`: a fault leaves what is recorded of a device.
* `Ied.wrote_answer`: what a write changes that is carried out.
-/

namespace FieldGateway

/-- What is asked of a device over an association. -/
inductive Ied.Call where
  | retrieve
  | read (reference : String) (constraint : Constraint)
  | write (node : Node)
  | enable (reference : String)
  | disable (reference : String)

namespace Ied.Call

inductive Reply where
  | model (m : ServerModel)
  | node (n : Node)
  | block (b : ControlBlock)
  | done
  | fault (f : Fault)
deriving DecidableEq

def Reply.ofExcept {α : Type} (reply : α → Reply) : Except Fault α → Reply
  | .ok a => reply a
  | .error f => .fault f

end Ied.Call

namespace Ied

/-- The faults that are put in wait for reads or for writes. -/
inductive Queue where
  | reads
  | writes
deriving DecidableEq

def waiting (d : Ied) : Queue → List Fault
  | .reads => d.readFaults
  | .writes => d.writeFaults

def fail (d : Ied) (q : Queue) (count : Nat) (f : Fault) : Ied :=
  match q with
  | .reads => d.failReads count f
  | .writes => d.failWrites count f

def answer (d : Ied) : Call → Call.Reply × Ied
  | .retrieve => (.model d.model, d)
  | .read reference constraint => (d.read reference constraint).map (.ofExcept .node) id
  | .write node => (d.write node).map (.ofExcept fun _ => .done) id
  | .enable reference => (d.enable reference).map (.ofExcept .block) id
  | .disable reference => (d.disable reference).map (.ofExcept fun _ => .done) id

end Ied

/-- The queue that a call may take a fault from. -/
def Ied.Call.queue? : Ied.Call → Option Ied.Queue
  | .read _ _ => some .reads
  | .write _ => some .writes
  | _ => none

namespace Ied

variable {d : Ied} {c : Call} {q : Queue} {f : Fault} {node : Node}

/-! ## Faults -/

/-- A call of the kind takes the first fault that waits, if there is one, and no other call does. -/
theorem waiting_answer (d : Ied) (c : Call) (q : Queue) :
    (d.answer c).2.waiting q =
      if c.queue? = some q then (d.waiting q).tail else d.waiting q := by
  cases c with
  | retrieve => rfl
  | read r k =>
    simp only [answer, read]
    split
    · next f rest hf => cases q <;> simp [waiting, Call.queue?, hf, countRead]
    · next hf => split <;> cases q <;> simp [waiting, Call.queue?, hf, countRead]
  | write node =>
    simp only [answer, write]
    split
    · next f rest hf => cases q <;> simp [waiting, Call.queue?, hf]
    · next hf => split <;> cases q <;> simp [waiting, Call.queue?, hf]
  | enable r =>
    simp only [answer, enable]
    split <;> cases q <;> rfl
  | disable r =>
    simp only [answer, disable]
    split <;> cases q <;> rfl

/-- A call of the kind is answered with the first fault that waits. -/
theorem reply_of_waiting {rest : List Fault} (hc : c.queue? = some q)
    (h : d.waiting q = f :: rest) : (d.answer c).1 = .fault f := by
  cases c with
  | read r k =>
    obtain rfl : Queue.reads = q := by simpa [Call.queue?] using hc
    have h : d.readFaults = f :: rest := h
    simp [answer, read, h, Call.Reply.ofExcept]
  | write node =>
    obtain rfl : Queue.writes = q := by simpa [Call.queue?] using hc
    have h : d.writeFaults = f :: rest := h
    simp [answer, write, h, Call.Reply.ofExcept]
  | _ => cases hc

/-- While no fault waits, a read is answered from the model. -/
theorem reply_read (h : d.waiting .reads = []) (reference : String) (constraint : Constraint) :
    (d.answer (.read reference constraint)).1 =
      match d.model.findNode? reference constraint with
      | some node => .node node
      | none => .fault (noObject reference constraint) := by
  have h : d.readFaults = [] := h
  cases hn : d.model.findNode? reference constraint <;>
    simp [answer, read, h, hn, Call.Reply.ofExcept]

/-- While no fault waits, a write is carried out just if there is such a node. -/
theorem reply_write_iff (h : d.waiting .writes = []) (node : Node) :
    (d.answer (.write node)).1 = .done ↔
      (d.model.findNode? node.reference node.constraint).isSome := by
  have h : d.writeFaults = [] := h
  cases hn : d.model.findNode? node.reference node.constraint <;>
    simp [answer, write, h, hn, Call.Reply.ofExcept]

theorem waiting_fail (d : Ied) (q q' : Queue) (count : Nat) (f : Fault) :
    (d.fail q count f).waiting q' =
      d.waiting q' ++ if q = q' then List.replicate count f else [] := by
  cases q <;> cases q' <;> simp [fail, failReads, failWrites, waiting]

/-- The model of a device, and the writes and the switched reports that it has recorded. -/
def record (d : Ied) : ServerModel × List Node × List String × List String :=
  (d.model, d.activity.writes, d.activity.enabled, d.activity.disabled)

/-- A fault leaves what is recorded. -/
theorem record_answer (h : (d.answer c).1 = .fault f) : (d.answer c).2.record = d.record := by
  cases c with
  | retrieve => cases h
  | read r k =>
    simp only [answer, read]
    split
    · rfl
    · split <;> rfl
  | write node =>
    simp only [answer, write] at h ⊢
    split at h
    · rfl
    · split at h
      · rfl
      · cases h
  | enable r =>
    simp only [answer, enable] at h ⊢
    split at h
    · rfl
    · cases h
  | disable r =>
    simp only [answer, disable] at h ⊢
    split at h
    · rfl
    · cases h

end Ied

/-! ## Writes -/

namespace Ied

variable {d : Ied} {node : Node}

/-- A device after a write was carried out. -/
structure Wrote (d : Ied) (node : Node) (d' : Ied) : Prop where
  /-- The nodes are the same but for values that were carried. -/
  nodes : List.Forall₂ node.KeptBy d.model.nodes d'.model.nodes
  blocks : d'.blocks = d.blocks
  /-- The values that were carried are held. -/
  carried : ∀ path v, node.get? path = some v →
    d'.model.value? node.reference node.constraint path = some v
  /-- A control value shows in the status, if there is one. -/
  mirrored : node.constraint = .control → (d.model.findNode? node.reference .status).isSome →
    ∀ v, node.get? "Oper.ctlVal" = some v →
      d'.model.value? node.reference .status "stVal" = some v
  /-- Nothing else is changed but that the write is noted. -/
  rest : d' = { d with
    model := d'.model
    activity := { d.activity with writes := d.activity.writes ++ [node] } }

theorem wrote_answer (h : (d.answer (.write node)).1 = .done) :
    d.Wrote node (d.answer (.write node)).2 := by
  simp only [answer, write] at h ⊢
  split at h
  · cases h
  · split at h
    · cases h
    · next n hn =>
      have hsome : (d.model.findNode? node.reference node.constraint).isSome := by rw [hn]; rfl
      exact
        { nodes := keptBy_written d.model node
          blocks := Prod.ext (buffered_written _ _) (unbuffered_written _ _)
          carried := fun path v hv => (value?_written_self node hsome path).trans (by rw [hv]; rfl)
          mirrored := fun hc hst v hv => value?_written_status node hc hv hst
          rest := rfl }

/-! ## Releases -/

/-- A device that has counted so many releases. -/
def withReleases (d : Ied) (n : Nat) : Ied :=
  { d with activity := { d.activity with releases := n } }

/-- How often associations were given up does not matter to any call. -/
theorem answer_withReleases (d : Ied) (n : Nat) (c : Call) :
    (d.withReleases n).answer c = ((d.answer c).1, (d.answer c).2.withReleases n) := by
  cases c with
  | retrieve => rfl
  | read r k =>
    cases hf : d.readFaults <;> cases hn : d.model.findNode? r k <;>
      simp [answer, read, hf, hn, withReleases, countRead]
  | write node =>
    cases hf : d.writeFaults <;> cases hn : d.model.findNode? node.reference node.constraint <;>
      simp [answer, write, hf, hn, withReleases]
  | enable r =>
    cases hb : d.model.block? r <;> simp [answer, enable, hb, withReleases]
  | disable r =>
    cases hb : d.model.block? r <;> simp [answer, disable, hb, withReleases]

end Ied

end FieldGateway
