import FieldGateway.Plant.Basic

/-!
# What actions do to links and jobs

The links of the plant are few things to few actions: an association adds one, the end of a session
marks one, and four actions change what listens at one. Every other action leaves what is told here
of the links as it was.

* `links_ask`, `jobs_ask`: what is asked of a device changes neither links nor jobs.
* `collector?_perform`: the collector of a link after an action.
* `isOpen_perform`: whether a session is open after an action.
* `jobs_perform`: the jobs after an action.
-/

namespace FieldGateway

/-- The collector that listens at a link. -/
def Link.collector? (l : Link) : Option Collector :=
  match l.listener with
  | .events c => some c
  | _ => none

namespace Plant

variable {p : Plant} {link : Nat}

/-- The collector that listens at a link. -/
def collector? (p : Plant) (link : Nat) : Option Collector := p.links[link]?.bind Link.collector?

theorem collector?_eq_some {c : Collector} :
    p.collector? link = some c ↔ p.listener? link = some (.events c) := by
  unfold collector? listener?
  cases p.links[link]? with
  | none => simp
  | some l => obtain ⟨_, listener, _, _, _⟩ := l; cases listener <;> simp [Link.collector?]

theorem isOpen_eq : p.isOpen link = (p.links[link]?.any fun l => !l.retired) := by
  unfold isOpen
  cases p.links[link]? <;> rfl

/-! ## Changes of one link -/

theorem collector?_modifyLink {f : Link → Link} (hf : ∀ l, (f l).collector? = l.collector?)
    (k : Nat) : (p.modifyLink k f).collector? link = p.collector? link := by
  simp only [collector?, modifyLink, List.getElem?_modify]
  cases p.links[link]? with
  | none => rfl
  | some l =>
    split
    · exact hf l
    · rfl

theorem collector?_modifyCollector (k : Nat) (f : Collector → Collector) :
    (p.modifyCollector k f).collector? link =
      if k = link then (p.collector? link).map f else p.collector? link := by
  simp only [collector?, modifyCollector, modifyLink, List.getElem?_modify]
  cases p.links[link]? with
  | none => simp
  | some l =>
    obtain ⟨_, listener, _, _, _⟩ := l
    split <;> cases listener <;> rfl

theorem isOpen_modifyLink {f : Link → Link} (hf : ∀ l, (f l).retired = l.retired) (k : Nat) :
    (p.modifyLink k f).isOpen link = p.isOpen link := by
  simp only [isOpen_eq, modifyLink, List.getElem?_modify]
  cases p.links[link]? with
  | none => rfl
  | some l =>
    split
    · exact congrArg not (hf l)
    · rfl

theorem isOpen_modifyCollector (k : Nat) (f : Collector → Collector) :
    (p.modifyCollector k f).isOpen link = p.isOpen link :=
  isOpen_modifyLink (fun l => by obtain ⟨_, listener, _, _, _⟩ := l; cases listener <;> rfl) k

theorem isOpen_retire (k : Nat) :
    (p.modifyLink k ({ · with retired := true })).isOpen link =
      if k = link then false else p.isOpen link := by
  simp only [isOpen_eq, modifyLink, List.getElem?_modify]
  cases p.links[link]? with
  | none => simp
  | some l => split <;> simp_all

theorem length_modifyLink (k : Nat) (f : Link → Link) :
    (p.modifyLink k f).links.length = p.links.length := by
  simp [modifyLink]

/-! ## Requests to devices -/

variable {α : Type}

@[simp] theorem links_modifyIed (host : String) (f : Ied → Ied) :
    (p.modifyIed host f).links = p.links := rfl

@[simp] theorem links_ask (f : Ied → Except Fault α × Ied) : (p.ask link f).2.links = p.links := by
  unfold ask
  split <;> rfl

@[simp] theorem jobs_ask (f : Ied → Except Fault α × Ied) : (p.ask link f).2.jobs = p.jobs := by
  unfold ask
  split <;> rfl

@[simp] theorem links_retrieve : (p.retrieve link).2.links = p.links := by
  unfold retrieve
  split <;> simp

@[simp] theorem jobs_retrieve : (p.retrieve link).2.jobs = p.jobs := by
  unfold retrieve
  split <;> simp

@[simp] theorem links_enable (reference : String) :
    (p.enable link reference).2.links = p.links := by
  unfold enable
  split <;> simp

@[simp] theorem jobs_enable (reference : String) : (p.enable link reference).2.jobs = p.jobs := by
  unfold enable
  split <;> simp

@[simp] theorem links_disable (reference : String) :
    (p.disable link reference).2.links = p.links := by
  unfold disable
  split <;> simp

@[simp] theorem jobs_disable (reference : String) :
    (p.disable link reference).2.jobs = p.jobs := by
  unfold disable
  split <;> simp

/-! ## Actions -/

end Plant

namespace Action

/-- What an action does to the collector of a link. -/
def onCollector (link : Nat) : Action → Collector → Collector
  | .activate l => if l = link then Collector.activate else id
  | .setBoundary l n => if l = link then (·.setBoundary n) else id
  | .hangUp l => if l = link then (·.startDrain.2) else id
  | .settle l => if l = link then Collector.finishDrain else id
  | _ => id

/-- Whether an action ends the session over a link. -/
def retires (link : Nat) : Action → Bool
  | .retire l => l = link
  | _ => false

/-- The jobs that an action starts. -/
def started : Action → List Job
  | .start job => [job]
  | _ => []

/-- How many links an action adds, by its answer. -/
def linked : (a : Action) → a.Answer → Nat
  | .associate _ _ _, .ok _ => 1
  | _, _ => 0

/-- The answer that tells a fault, if the action asks something of a device. -/
def answerFault? : (a : Action) → Fault → Option a.Answer
  | .associate _ _ _, f => some (.error f)
  | .retrieve _, f => some (.error f)
  | .read _ _ _, f => some (.error f)
  | .write _ _, f => some (.error f)
  | .enable _ _, f => some (.error f)
  | .disable _ _, f => some (.error f)
  | _, _ => none

end Action

namespace Plant

variable {p q : Plant} {link : Nat}

theorem collector?_congr (h : q.links = p.links) : q.collector? link = p.collector? link := by
  unfold collector?
  rw [h]

theorem isOpen_congr (h : q.links = p.links) : q.isOpen link = p.isOpen link := by
  unfold isOpen
  rw [h]

theorem collector?_release (l : Nat) : (p.release l).collector? link = p.collector? link := by
  unfold release
  split
  · rfl
  · exact collector?_modifyLink (f := ({ · with released := true })) (fun _ => rfl) l

theorem isOpen_release (l : Nat) : (p.release l).isOpen link = p.isOpen link := by
  unfold release
  split
  · rfl
  · exact isOpen_modifyLink (f := ({ · with released := true })) (fun _ => rfl) l

theorem length_release (l : Nat) : (p.release l).links.length = p.links.length := by
  unfold release
  split
  · rfl
  · exact length_modifyLink l _

theorem hangUp_of_some {l : Nat} {c : Collector} (h : p.collector? l = some c) :
    p.hangUp l = (c.startDrain.1.map fun batch => ⟨c.deviceId, batch⟩,
      p.modifyCollector l (·.startDrain.2)) := by
  unfold hangUp
  rw [collector?_eq_some.1 h]

theorem hangUp_of_none {l : Nat} (h : p.collector? l = none) :
    (p.hangUp l).1 = none ∧ (p.hangUp l).2.links = p.links := by
  unfold hangUp
  split
  · next c hc => rw [collector?_eq_some.2 hc] at h; cases h
  · exact ⟨rfl, rfl⟩
  · exact ⟨rfl, rfl⟩

theorem collector?_hangUp (l : Nat) :
    (p.hangUp l).2.collector? link =
      if l = link then (p.collector? link).map (·.startDrain.2) else p.collector? link := by
  cases h : p.collector? l with
  | none =>
    rw [collector?_congr (hangUp_of_none h).2]
    split
    · next hl => rw [← hl, h]; rfl
    · rfl
  | some c => rw [hangUp_of_some h, collector?_modifyCollector]

theorem isOpen_hangUp (l : Nat) : (p.hangUp l).2.isOpen link = p.isOpen link := by
  cases h : p.collector? l with
  | none => exact isOpen_congr (hangUp_of_none h).2
  | some c => rw [hangUp_of_some h, isOpen_modifyCollector]

theorem length_hangUp (l : Nat) : (p.hangUp l).2.links.length = p.links.length := by
  cases h : p.collector? l with
  | none => rw [(hangUp_of_none h).2]
  | some c => rw [hangUp_of_some h, modifyCollector, length_modifyLink]

theorem associate_of_ok {host : String} {port : UInt16} {listener : Listener} {direct : Bool}
    {l : Nat} (h : (p.associate host port listener direct).1 = .ok l) :
    l = p.links.length ∧ (p.associate host port listener direct).2.links =
      p.links ++ [⟨host, listener, direct, false, false⟩] := by
  unfold associate at h ⊢
  split at h
  · cases h
  · cases h; exact ⟨rfl, rfl⟩

theorem associate_of_error {host : String} {port : UInt16} {listener : Listener} {direct : Bool}
    {f : Fault} (h : (p.associate host port listener direct).1 = .error f) :
    (p.associate host port listener direct).2 = p := by
  unfold associate at h ⊢
  split at h
  · rfl
  · cases h

theorem links_associate (host : String) (port : UInt16) (listener : Listener) (direct : Bool) :
    ∃ fresh, (p.associate host port listener direct).2.links = p.links ++ fresh := by
  cases h : (p.associate host port listener direct).1 with
  | ok l => exact ⟨_, (associate_of_ok h).2⟩
  | error f => exact ⟨[], by rw [associate_of_error h, List.append_nil]⟩

/-- The collector of a link after an action. -/
theorem collector?_perform (a : Action) (h : link < p.links.length) :
    (p.perform a).2.collector? link = (p.collector? link).map (a.onCollector link) := by
  cases a with
  | activate l | setBoundary l n | settle l =>
    simp only [perform, Action.onCollector, collector?_modifyCollector]
    split <;> simp
  | retire l =>
    simpa [perform, Action.onCollector] using
      collector?_modifyLink (f := ({ · with retired := true })) (fun _ => rfl) l
  | hangUp l =>
    simp only [perform, Action.onCollector, collector?_hangUp]
    split <;> simp
  | release l => simp [perform, Action.onCollector, collector?_release]
  | associate host port listener =>
    obtain ⟨fresh, hf⟩ := links_associate (p := p) host port listener false
    simp [perform, Action.onCollector, collector?, hf, List.getElem?_append_left h]
  | _ =>
    simp [perform, Action.onCollector, collector?, findDevice, listDevices, sendEvents,
      sendResponse, count]

/-- A session stays open until it is ended. -/
theorem isOpen_perform (a : Action) (h : link < p.links.length) :
    (p.perform a).2.isOpen link = (!a.retires link && p.isOpen link) := by
  cases a with
  | activate l | setBoundary l n | settle l =>
    simp [perform, Action.retires, isOpen_modifyCollector]
  | retire l =>
    simp only [perform, Action.retires, isOpen_retire]
    split <;> simp_all
  | hangUp l => simp [perform, Action.retires, isOpen_hangUp]
  | release l => simp [perform, Action.retires, isOpen_release]
  | associate host port listener =>
    obtain ⟨fresh, hf⟩ := links_associate (p := p) host port listener false
    simp [perform, Action.retires, isOpen, hf, List.getElem?_append_left h]
  | _ =>
    simp [perform, Action.retires, isOpen, findDevice, listDevices, sendEvents, sendResponse, count]

theorem length_perform (a : Action) :
    (p.perform a).2.links.length = p.links.length + a.linked (p.perform a).1 := by
  cases a with
  | activate l | setBoundary l n | settle l | retire l =>
    simp [perform, Action.linked, modifyCollector, length_modifyLink]
  | hangUp l => simp [perform, Action.linked, length_hangUp]
  | release l => simp [perform, Action.linked, length_release]
  | associate host port listener =>
    simp only [perform]
    cases h : (p.associate host port listener false).1 with
    | ok l => simp [(associate_of_ok h).2, Action.linked]
    | error f => simp [associate_of_error h, Action.linked]
  | _ =>
    simp [perform, Action.linked, findDevice, listDevices, sendEvents, sendResponse, count]

theorem jobs_release (l : Nat) : (p.release l).jobs = p.jobs := by
  unfold release
  split <;> rfl

theorem jobs_hangUp (l : Nat) : (p.hangUp l).2.jobs = p.jobs := by
  unfold hangUp
  split <;> rfl

theorem jobs_associate (host : String) (port : UInt16) (listener : Listener) (direct : Bool) :
    (p.associate host port listener direct).2.jobs = p.jobs := by
  unfold associate
  split <;> rfl

/-- Jobs are only added. -/
theorem jobs_perform (a : Action) : (p.perform a).2.jobs = p.jobs ++ a.started := by
  cases a <;>
    simp [perform, Action.started, modifyCollector, modifyLink, jobs_release, jobs_hangUp,
      jobs_associate, findDevice, listDevices, sendEvents, sendResponse, count]

end Plant

end FieldGateway
