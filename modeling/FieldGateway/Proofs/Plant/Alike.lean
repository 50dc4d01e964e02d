import FieldGateway.Proofs.Plant.Devices

/-!
# Plants that are alike

A fault that is told in place of a result changes nothing at the device but what faults wait, and
how many reads were counted. Plants that differ in no more than that, in the time and in what the
gateway keeps for itself, answer almost every action alike and are alike afterwards; only where
faults wait may a read or a write be refused.

* `Plant.Alike.perform`: what is answered alike.
* `Plant.Shadows.read`, `Plant.Shadows.write`: what is answered alike unless it is refused.
* `Plant.shadows_calm`: every plant is alike to itself without the faults that wait.
-/

namespace FieldGateway

/-! ## Devices -/

namespace Ied

/-- A device without the faults that wait. -/
def calm (d : Ied) : Ied := { d with readFaults := [], writeFaults := [] }

/-- A device as far as reads and faults leave it alone. -/
def core (d : Ied) : Ied := { d.calm with activity := { d.activity with reads := 0 } }

/-- No faults wait. -/
def IsCalm (d : Ied) : Prop := d.readFaults = [] ∧ d.writeFaults = []

@[simp] theorem model_core (d : Ied) : d.core.model = d.model := rfl

theorem core_associate (d : Ied) (link : Nat) :
    (d.associate link).core = d.core.associate link := rfl

theorem core_release (d : Ied) : d.release.core = d.core.release := rfl

theorem core_read (d : Ied) (reference : String) (constraint : Constraint) :
    (d.read reference constraint).2.core = d.core := by
  unfold read
  split
  · rfl
  · split <;> rfl

theorem read_core {d : Ied} (h : d.readFaults = []) (reference : String) (constraint : Constraint) :
    (d.core.read reference constraint).1 = (d.read reference constraint).1 := by
  have hcore : d.core.readFaults = [] := rfl
  simp only [read, h, hcore, model_core]
  cases d.model.findNode? reference constraint <;> rfl

theorem read_refused {d : Ied} (h : d.readFaults ≠ []) (reference : String)
    (constraint : Constraint) : ∃ f, (d.read reference constraint).1 = .error f := by
  unfold read
  split
  · next f rest _ => exact ⟨f, rfl⟩
  · next hno => exact absurd hno h

theorem core_write_error {d : Ied} {node : Node} {f : Fault} (h : (d.write node).1 = .error f) :
    (d.write node).2.core = d.core := by
  unfold write at h ⊢
  split
  · rfl
  · split
    · rfl
    · simp_all

theorem write_core {d : Ied} (h : d.writeFaults = []) (node : Node) :
    d.core.write node = ((d.write node).1, (d.write node).2.core) := by
  have hcore : d.core.writeFaults = [] := rfl
  simp only [write, h, hcore, model_core]
  cases d.model.findNode? node.reference node.constraint <;> rfl

theorem write_refused {d : Ied} (h : d.writeFaults ≠ []) (node : Node) :
    ∃ f, (d.write node).1 = .error f := by
  unfold write
  split
  · next f rest _ => exact ⟨f, rfl⟩
  · next hno => exact absurd hno h

theorem enable_core (d : Ied) (reference : String) :
    d.core.enable reference = ((d.enable reference).1, (d.enable reference).2.core) := by
  simp only [enable, model_core]
  cases d.model.block? reference <;> rfl

theorem disable_core (d : Ied) (reference : String) :
    d.core.disable reference = ((d.disable reference).1, (d.disable reference).2.core) := by
  simp only [disable, model_core]
  cases d.model.block? reference <;> rfl

variable {d : Ied}

theorem IsCalm.read (h : d.IsCalm) (reference : String) (constraint : Constraint) :
    (d.read reference constraint).2.IsCalm := by
  unfold Ied.read
  split
  · next hf => exact absurd (h.1.symm.trans hf) (by simp)
  · split <;> exact h

theorem IsCalm.write (h : d.IsCalm) (node : Node) : (d.write node).2.IsCalm := by
  unfold Ied.write
  split
  · next hf => exact absurd (h.2.symm.trans hf) (by simp)
  · split <;> exact h

theorem IsCalm.enable (h : d.IsCalm) (reference : String) : (d.enable reference).2.IsCalm := by
  unfold Ied.enable
  split <;> exact h

theorem IsCalm.disable (h : d.IsCalm) (reference : String) : (d.disable reference).2.IsCalm := by
  unfold Ied.disable
  split <;> exact h

end Ied

/-! ## Plants -/

namespace Plant

/-- A plant apart from the devices, the time, the counters and the responses that were sent. -/
def frame (p : Plant) : Plant :=
  { p with
    time := 0
    now := 0
    network := .empty
    outbox := { p.outbox with responses := [] }
    counters := .zero }

/-- Plants that differ in no more than faults that wait, reads that were counted, the time, the
counters and the responses that were sent. -/
structure Alike (p q : Plant) : Prop where
  frame : p.frame = q.frame
  devices : ∀ host, (p.network.find? host).map Ied.core = (q.network.find? host).map Ied.core

/-- No faults wait at any device. -/
def IsCalm (p : Plant) : Prop := ∀ host d, p.network.find? host = some d → d.IsCalm

/-- Plants that are alike, and in the second one no faults wait. -/
structure Shadows (p q : Plant) : Prop extends Alike p q where
  calm : q.IsCalm

variable {p p' q q' : Plant} {link : Nat} {host : String} {α : Type}

namespace Alike

theorem refl (p : Plant) : p.Alike p := ⟨rfl, fun _ => rfl⟩

theorem symm (h : p.Alike q) : q.Alike p := ⟨h.frame.symm, fun host => (h.devices host).symm⟩

theorem trans (h : p.Alike p') (h' : p'.Alike q) : p.Alike q :=
  ⟨h.frame.trans h'.frame, fun host => (h.devices host).trans (h'.devices host)⟩

/-- What depends on the frame alone is the same. -/
theorem congr {β : Type} (h : p.Alike q) (f : Plant → β) : f p.frame = f q.frame :=
  congrArg f h.frame

theorem links (h : p.Alike q) : p.links = q.links := h.congr fun p => p.links

theorem listener? (h : p.Alike q) (link : Nat) : p.listener? link = q.listener? link :=
  h.congr fun p => p.listener? link

theorem isOpen (h : p.Alike q) (link : Nat) : p.isOpen link = q.isOpen link :=
  h.congr fun p => p.isOpen link

theorem interferes (h : p.Alike q) (link : Nat) : p.interferes link = q.interferes link :=
  h.congr fun p => p.interferes link

theorem interference (h : p.Alike q) : p.interference = q.interference :=
  h.congr fun p => p.interference

/-- What is found at an address is the same device, apart from faults and reads. -/
theorem find? (h : p.Alike q) (host : String) :
    (p.network.find? host = none ∧ q.network.find? host = none) ∨
      ∃ d d', p.network.find? host = some d ∧ q.network.find? host = some d' ∧
        d.core = d'.core := by
  have hcore := h.devices host
  cases hp : p.network.find? host with
  | none =>
    cases hq : q.network.find? host with
    | none => exact .inl ⟨rfl, rfl⟩
    | some d' => simp [hp, hq] at hcore
  | some d =>
    cases hq : q.network.find? host with
    | none => simp [hp, hq] at hcore
    | some d' => exact .inr ⟨d, d', rfl, rfl, by simpa [hp, hq] using hcore⟩

theorem far (h : p.Alike q) (link : Nat) :
    (∃ f, p.far link = .error f ∧ q.far link = .error f) ∨
      ∃ host d d', p.far link = .ok (host, d) ∧ q.far link = .ok (host, d') ∧ d.core = d'.core := by
  simp only [Plant.far, h.links]
  cases q.links[link]? with
  | none => exact .inl ⟨_, rfl, rfl⟩
  | some l =>
    dsimp only
    cases l.released with
    | true => exact .inl ⟨_, rfl, rfl⟩
    | false =>
      rcases h.find? l.host with ⟨hp, hq⟩ | ⟨d, d', hp, hq, hd⟩
      · exact .inl ⟨.io "association closed", by simp [hp], by simp [hq]⟩
      · exact .inr ⟨l.host, d, d', by simp [hp], by simp [hq], hd⟩

theorem modifyIed (h : p.Alike q) {f f' : Ied → Ied}
    (hf : ∀ d d', p.network.find? host = some d → q.network.find? host = some d' →
      d.core = d'.core → (f d).core = (f' d').core) :
    (p.modifyIed host f).Alike (q.modifyIed host f') := by
  refine ⟨h.frame, fun host' => ?_⟩
  rw [find?_modifyIed, find?_modifyIed]
  split
  · rcases h.find? host with ⟨hp, hq⟩ | ⟨d, d', hp, hq, hd⟩
    · simp [hp, hq]
    · simp [hp, hq, hf d d' hp hq hd]
  · exact h.devices host'

/-- A device that is changed in nothing but faults and reads. -/
theorem modifyIed_self {f : Ied → Ied} (hf : ∀ d, p.network.find? host = some d →
    (f d).core = d.core) : (p.modifyIed host f).Alike p := by
  refine ⟨rfl, fun host' => ?_⟩
  rw [find?_modifyIed]
  split
  · next heq =>
    rw [heq]
    cases hp : p.network.find? host with
    | none => rfl
    | some d => simp [hf d hp]
  · rfl

theorem modifyLink (h : p.Alike q) (link : Nat) (f : Link → Link) :
    (p.modifyLink link f).Alike (q.modifyLink link f) :=
  ⟨congrArg (fun p : Plant => p.modifyLink link f) h.frame, h.devices⟩

/-- What is asked of a device is answered alike if neither faults nor reads matter to it. -/
theorem ask (h : p.Alike q) {f : Ied → Except Fault α × Ied}
    (hf : ∀ d : Ied, f d.core = ((f d).1, (f d).2.core)) :
    (p.ask link f).1 = (q.ask link f).1 ∧ (p.ask link f).2.Alike (q.ask link f).2 := by
  rcases h.far link with ⟨e, hp, hq⟩ | ⟨host, d, d', hp, hq, hd⟩
  · simp only [Plant.ask, hp, hq]
    exact ⟨trivial, h⟩
  · have hsame : ((f d).1, (f d).2.core) = ((f d').1, (f d').2.core) := by
      rw [← hf, ← hf, hd]
    obtain ⟨hanswer, hcore⟩ := Prod.mk.inj hsame
    rw [ask_of_far hp, ask_of_far hq]
    exact ⟨hanswer, h.modifyIed fun _ _ _ _ _ => hcore⟩

theorem associate (h : p.Alike q) (host : String) (port : UInt16) (listener : Listener) :
    (p.associate host port listener false).1 = (q.associate host port listener false).1 ∧
      (p.associate host port listener false).2.Alike (q.associate host port listener false).2 := by
  have hreach : p.network.reach host port = q.network.reach host port := by
    unfold Network.reach
    rcases h.find? host with ⟨hp, hq⟩ | ⟨d, d', hp, hq, hd⟩
    · rw [hp, hq]
    · have hrefuses : d.core.refuses = d'.core.refuses := by rw [hd]
      have hrefuses : d.refuses = d'.refuses := hrefuses
      simp only [hp, hq, hrefuses]
  simp only [Plant.associate, hreach, h.links]
  split
  · exact ⟨rfl, h⟩
  · have hdevices : (p.modifyIed host (·.associate q.links.length)).Alike
        (q.modifyIed host (·.associate q.links.length)) :=
      h.modifyIed fun d d' _ _ hd => by rw [Ied.core_associate, Ied.core_associate, hd]
    let made : Link := ⟨host, listener, false, false, false⟩
    exact ⟨rfl, h.congr fun p => { p with links := q.links ++ [made] }, hdevices.devices⟩

theorem retrieve (h : p.Alike q) (link : Nat) :
    (p.retrieve link).1 = (q.retrieve link).1 ∧ (p.retrieve link).2.Alike (q.retrieve link).2 := by
  simp only [Plant.retrieve, h.interferes, h.interference]
  split
  · next rest _ _ =>
    exact ⟨rfl, h.congr fun p => { p with
      interference := { q.interference with modelFaults := rest } }, h.devices⟩
  · exact h.ask fun _ => rfl

theorem enable (h : p.Alike q) (link : Nat) (reference : String) :
    (p.enable link reference).1 = (q.enable link reference).1 ∧
      (p.enable link reference).2.Alike (q.enable link reference).2 := by
  simp only [Plant.enable, h.interferes, h.interference]
  split
  · next rest _ _ =>
    exact ⟨rfl, h.congr fun p => { p with
      interference := { q.interference with enableFaults := rest } }, h.devices⟩
  · exact h.ask fun d => d.enable_core reference

theorem disable (h : p.Alike q) (link : Nat) (reference : String) :
    (p.disable link reference).1 = (q.disable link reference).1 ∧
      (p.disable link reference).2.Alike (q.disable link reference).2 := by
  simp only [Plant.disable, h.interferes, h.interference]
  split
  · next rest _ _ =>
    exact ⟨rfl, h.congr fun p => { p with
      interference := { q.interference with disableFaults := rest } }, h.devices⟩
  · exact h.ask fun d => d.disable_core reference

theorem release (h : p.Alike q) (link : Nat) : (p.release link).Alike (q.release link) := by
  unfold Plant.release
  rcases h.far link with ⟨e, hp, hq⟩ | ⟨host, d, d', hp, hq, -⟩
  · simp only [hp, hq]
    exact h
  · simp only [hp, hq]
    have hdevices : (p.modifyIed host Ied.release).Alike (q.modifyIed host Ied.release) :=
      h.modifyIed fun d d' _ _ hd => by rw [Ied.core_release, Ied.core_release, hd]
    exact hdevices.modifyLink link _

theorem hangUp (h : p.Alike q) (link : Nat) :
    (p.hangUp link).1 = (q.hangUp link).1 ∧ (p.hangUp link).2.Alike (q.hangUp link).2 := by
  simp only [Plant.hangUp, h.listener?]
  split
  · exact ⟨rfl, h.modifyLink link _⟩
  · exact ⟨rfl, h.congr fun p => p.hear .closed, h.devices⟩
  · exact ⟨rfl, h⟩

end Alike

end Plant

/-- Holds of what neither faults that wait nor the time have a part in. -/
def Action.IsSteady : Action → Prop
  | .read _ _ _ | .write _ _ | .now | .counts => False
  | _ => True

/-- Holds of what leaves a plant alike. -/
def Action.IsIdle : Action → Prop
  | .latency _ | .read _ _ _ | .isOpen _ | .sendResponse _ | .now | .count _ _ => True
  | _ => False

namespace Plant

variable {p q : Plant} {link : Nat}

/-- Plants that are alike answer all but reads and writes alike, and are alike afterwards. -/
theorem Alike.perform (h : p.Alike q) {a : Action} (ha : a.IsSteady) :
    (p.perform a).1 = (q.perform a).1 ∧ (p.perform a).2.Alike (q.perform a).2 := by
  cases a with
  | findDevice id =>
    exact ⟨h.congr fun p => (p.findDevice id).1,
      h.congr fun p => (p.findDevice id).2, h.devices⟩
  | listDevices =>
    exact ⟨h.congr fun p => p.listDevices.1,
      h.congr fun p => p.listDevices.2, h.devices⟩
  | latency stage => exact ⟨congrArg (·.delay stage) h.interference, h⟩
  | associate host port listener => exact h.associate host port listener
  | retrieve l => exact h.retrieve l
  | read l reference constraint => exact ha.elim
  | write l node => exact ha.elim
  | enable l reference => exact h.enable l reference
  | disable l reference => exact h.disable l reference
  | release l => exact ⟨rfl, h.release l⟩
  | isOpen l => exact ⟨h.isOpen l, h⟩
  | retire l => exact ⟨h.isOpen l, h.modifyLink l _⟩
  | activate l => exact ⟨rfl, h.modifyLink l _⟩
  | setBoundary l n => exact ⟨rfl, h.modifyLink l _⟩
  | hangUp l => exact h.hangUp l
  | settle l => exact ⟨rfl, h.modifyLink l _⟩
  | sendEvents batch =>
    exact ⟨h.congr fun p => p.blockage.events,
      h.congr fun p => p.sendEvents batch, h.devices⟩
  | sendResponse r => exact ⟨h.congr fun p => p.blockage.responses, h.frame, h.devices⟩
  | now => exact ha.elim
  | freshId => exact ⟨h.congr fun p => p.identifier, h⟩
  | count c n => exact ⟨rfl, h.frame, h.devices⟩
  | counts => exact ha.elim
  | start job =>
    exact ⟨h.congr fun p => p.jobs.length,
      h.congr fun p => { p with jobs := p.jobs ++ [job] }, h.devices⟩

theorem alike_ask {α : Type} {f : Ied → Except Fault α × Ied}
    (hf : ∀ host d, p.far link = .ok (host, d) → (f d).2.core = d.core) :
    (p.ask link f).2.Alike p := by
  cases hfar : p.far link with
  | error e =>
    simp only [ask, hfar]
    exact .refl p
  | ok x =>
    obtain ⟨host, d⟩ := x
    rw [ask_of_far hfar]
    refine .modifyIed_self fun d' hd => ?_
    obtain rfl : d' = d := Option.some.inj (hd.symm.trans (find?_far hfar))
    exact hf host d' hfar

theorem alike_perform {a : Action} (ha : a.IsIdle) : (p.perform a).2.Alike p := by
  cases a with
  | read l reference constraint => exact alike_ask fun _ d _ => d.core_read reference constraint
  | latency stage => exact .refl p
  | isOpen l => exact .refl p
  | now => exact .refl p
  | sendResponse o => exact ⟨rfl, fun _ => rfl⟩
  | count c n => exact ⟨rfl, fun _ => rfl⟩
  | _ => exact ha.elim

/-- A write that is refused leaves the plant as it was. -/
theorem alike_write {node : Node} {f : Fault} (h : (p.perform (.write link node)).1 = .error f) :
    (p.perform (.write link node)).2.Alike p := by
  refine alike_ask fun host d hfar => Ied.core_write_error (f := f) ?_
  have hask : (p.ask link fun d => d.write node).1 = .error f := h
  rwa [ask_of_far hfar] at hask

/-! ## Plants without faults -/

namespace IsCalm

variable {host : String}

theorem modifyIed (h : p.IsCalm) {f : Ied → Ied}
    (hf : ∀ d, p.network.find? host = some d → d.IsCalm → (f d).IsCalm) :
    (p.modifyIed host f).IsCalm := by
  intro host' d hd
  rw [find?_modifyIed] at hd
  split at hd
  · obtain ⟨d', hd', rfl⟩ := Option.map_eq_some_iff.1 hd
    exact hf d' hd' (h host d' hd')
  · exact h host' d hd

theorem ask {α : Type} (h : p.IsCalm) {f : Ied → Except Fault α × Ied}
    (hf : ∀ d : Ied, d.IsCalm → (f d).2.IsCalm) : (p.ask link f).2.IsCalm := by
  cases hfar : p.far link with
  | error e =>
    simp only [Plant.ask, hfar]
    exact h
  | ok x =>
    obtain ⟨host, d⟩ := x
    rw [ask_of_far hfar]
    exact h.modifyIed fun _ _ _ => hf d (h host d (find?_far hfar))

/-- Faults wait only because somebody put them in. -/
theorem perform (h : p.IsCalm) (a : Action) : (p.perform a).2.IsCalm := by
  cases a with
  | associate host port listener =>
    simp only [Plant.perform, Plant.associate]
    split
    · exact h
    · exact h.modifyIed (f := (·.associate p.links.length)) fun _ _ hd => hd
  | retrieve l =>
    simp only [Plant.perform, Plant.retrieve]
    split
    · exact h
    · exact h.ask fun _ hd => hd
  | read l reference constraint => exact h.ask fun _ hd => hd.read reference constraint
  | write l node => exact h.ask fun _ hd => hd.write node
  | enable l reference =>
    simp only [Plant.perform, Plant.enable]
    split
    · exact h
    · exact h.ask fun _ hd => hd.enable reference
  | disable l reference =>
    simp only [Plant.perform, Plant.disable]
    split
    · exact h
    · exact h.ask fun _ hd => hd.disable reference
  | release l =>
    simp only [Plant.perform, Plant.release]
    split
    · exact h
    · exact h.modifyIed (f := Ied.release) fun _ _ hd => hd
  | hangUp l =>
    simp only [Plant.perform, Plant.hangUp]
    split <;> exact h
  | _ => exact h

end IsCalm

namespace Shadows

variable {p' : Plant}

theorem of_alike (h : p.Shadows q) (hp : p'.Alike p) : p'.Shadows q := ⟨hp.trans h.toAlike, h.calm⟩

theorem perform (h : p.Shadows q) {a : Action} (ha : a.IsSteady) :
    (p.perform a).1 = (q.perform a).1 ∧ (p.perform a).2.Shadows (q.perform a).2 := by
  obtain ⟨hanswer, halike⟩ := h.toAlike.perform ha
  exact ⟨hanswer, halike, h.calm.perform a⟩

/-- A read is refused where a fault waits. Otherwise it is answered alike. -/
theorem read (h : p.Shadows q) (link : Nat) (reference : String) (constraint : Constraint) :
    (∃ f, (p.perform (.read link reference constraint)).1 = .error f) ∨
      (p.perform (.read link reference constraint)).1 =
        (q.perform (.read link reference constraint)).1 ∧
      (p.perform (.read link reference constraint)).2.Shadows
        (q.perform (.read link reference constraint)).2 := by
  have hcalm := h.calm.perform (.read link reference constraint)
  have hidle : (Action.read link reference constraint).IsIdle := trivial
  have halike : (p.perform (.read link reference constraint)).2.Alike
      (q.perform (.read link reference constraint)).2 :=
    ((alike_perform hidle).trans h.toAlike).trans (alike_perform hidle).symm
  simp only [Plant.perform] at hcalm halike ⊢
  rcases h.far link with ⟨f, hp, -⟩ | ⟨host, d, d', hp, hq, hd⟩
  · exact .inl ⟨f, by simp only [ask, hp]⟩
  · by_cases hf : d.readFaults = []
    · refine .inr ⟨?_, halike, hcalm⟩
      have hf' : d'.readFaults = [] := (h.calm host d' (find?_far hq)).1
      rw [ask_of_far hp, ask_of_far hq, ← Ied.read_core hf, ← Ied.read_core hf', hd]
    · obtain ⟨f, hrefused⟩ := Ied.read_refused hf reference constraint
      exact .inl ⟨f, by rw [ask_of_far hp, hrefused]⟩

theorem write (h : p.Shadows q) (link : Nat) (node : Node) :
    (∃ f, (p.perform (.write link node)).1 = .error f) ∨
      (p.perform (.write link node)).1 = (q.perform (.write link node)).1 ∧
      (p.perform (.write link node)).2.Shadows (q.perform (.write link node)).2 := by
  have hcalm := h.calm.perform (.write link node)
  simp only [Plant.perform] at hcalm ⊢
  rcases h.far link with ⟨f, hp, -⟩ | ⟨host, d, d', hp, hq, hd⟩
  · exact .inl ⟨f, by simp only [ask, hp]⟩
  · by_cases hf : d.writeFaults = []
    · have hf' : d'.writeFaults = [] := (h.calm host d' (find?_far hq)).2
      have hsame : ((d.write node).1, (d.write node).2.core) =
          ((d'.write node).1, (d'.write node).2.core) := by
        rw [← Ied.write_core hf, ← Ied.write_core hf', hd]
      obtain ⟨hanswer, hcore⟩ := Prod.mk.inj hsame
      rw [ask_of_far hp, ask_of_far hq] at *
      exact .inr ⟨hanswer, h.toAlike.modifyIed fun _ _ _ _ _ => hcore, hcalm⟩
    · obtain ⟨f, hrefused⟩ := Ied.write_refused hf node
      exact .inl ⟨f, by rw [ask_of_far hp, hrefused]⟩

end Shadows

end Plant

/-! ## Taking the faults away -/

/-- The table with all values changed by `f`. -/
def Table.mapValues {κ ν μ : Type} [Ord κ] (f : ν → μ) (t : Table κ ν) : Table κ μ :=
  ⟨t.entries.map fun e => (e.1, f e.2), List.pairwise_map.2 t.ascending⟩

theorem Table.find?_mapValues {κ ν μ : Type} [Ord κ] (f : ν → μ) (t : Table κ ν) (k : κ) :
    (t.mapValues f).find? k = (t.find? k).map f := by
  unfold mapValues find?
  dsimp only
  induction t.entries with
  | nil => rfl
  | cons e r ih =>
    obtain ⟨j, v⟩ := e
    simp only [List.map_cons, valueIn?]
    split
    · rfl
    · exact ih

namespace Plant

/-- The plant without the faults that wait at devices. -/
def calm (p : Plant) : Plant := { p with network := ⟨p.network.hosts.mapValues Ied.calm⟩ }

theorem find?_calm (p : Plant) (host : String) :
    p.calm.network.find? host = (p.network.find? host).map Ied.calm :=
  Table.find?_mapValues Ied.calm p.network.hosts host

theorem shadows_calm (p : Plant) : p.Shadows p.calm := by
  refine ⟨⟨rfl, fun host => ?_⟩, fun host d hd => ?_⟩
  · rw [find?_calm, Option.map_map]
    rfl
  · rw [find?_calm] at hd
    obtain ⟨d', -, rfl⟩ := Option.map_eq_some_iff.1 hd
    exact ⟨rfl, rfl⟩

end Plant

end FieldGateway
