import FieldGateway.Proofs.Report.Grouping
import FieldGateway.Proofs.Yard.Twins

/-!
# One step for a device in two plants

What is asked for a device in two plants that are the same for it is answered the same, and leaves
them the same for it. It concerns no other device. The same holds of a report that the device sends.

* `Asks.twin`, `Asks.confined`: one action.
* `Plant.Twin.push`, `Plant.Twin.confined_push`: one report.
-/

namespace FieldGateway

variable {φ : Focus} {names : List Nat} {i j : Nat}

/-! ## Actions -/

namespace Ied

variable (d : Ied) (last : Option Nat)

theorem read_relinked (reference : String) (constraint : Constraint) :
    { d with lastLink := last }.read reference constraint =
      ((d.read reference constraint).1,
        { (d.read reference constraint).2 with lastLink := last }) := by
  obtain ⟨model, refuses, readFaults, writeFaults, activity, lastLink⟩ := d
  cases readFaults with
  | cons f rest => rfl
  | nil =>
    simp only [read]
    cases model.findNode? reference constraint <;> rfl

theorem write_relinked (node : Node) :
    { d with lastLink := last }.write node =
      ((d.write node).1, { (d.write node).2 with lastLink := last }) := by
  obtain ⟨model, refuses, readFaults, writeFaults, activity, lastLink⟩ := d
  cases writeFaults with
  | cons f rest => rfl
  | nil =>
    simp only [write]
    cases model.findNode? node.reference node.constraint <;> rfl

theorem enable_relinked (reference : String) :
    { d with lastLink := last }.enable reference =
      ((d.enable reference).1, { (d.enable reference).2 with lastLink := last }) := by
  simp only [enable]
  cases d.model.block? reference <;> rfl

theorem disable_relinked (reference : String) :
    { d with lastLink := last }.disable reference =
      ((d.disable reference).1, { (d.disable reference).2 with lastLink := last }) := by
  simp only [disable]
  cases d.model.block? reference <;> rfl

end Ied

variable {p p' : Plant} {a a' : Action} {R : List Nat → a.Answer → a'.Answer → Prop}

/-- What is asked for the device in both plants is answered the same, and they stay the same for the
device. -/
theorem Asks.twin (ha : Asks φ names a a' R) (h : p.Twin φ names p')
    (hnow : φ.time p.now p'.now) (hname : φ.name p.identifier p'.identifier) :
    ∃ names', names <+: names' ∧ R names' (p.perform a).1 (p'.perform a').1 ∧
      (p.perform a).2.Twin φ names' (p'.perform a').2 := by
  have hlatency : ∀ stage, p.interference.delay stage = p'.interference.delay stage := fun stage =>
    by rw [h.fair.interference, h.fair'.interference]
  cases ha with
  | findDevice =>
    refine ⟨names, List.prefix_rfl, ?_⟩
    simp only [Plant.perform, h.fair.findDevice_eq, h.fair'.findDevice_eq]
    exact ⟨⟨trivial, trivial⟩, h⟩
  | latency stage => exact ⟨names, List.prefix_rfl, hlatency stage, h⟩
  | associate hd port hl => exact h.associate (by rw [Focus.host?, hd]; rfl) port hl false
  | retrieve hij =>
    refine ⟨names, List.prefix_rfl, ?_⟩
    simp only [Plant.perform, h.fair.retrieve_eq, h.fair'.retrieve_eq]
    exact h.ask hij fun _ _ => rfl
  | read hij reference constraint =>
    exact ⟨names, List.prefix_rfl, h.ask hij fun d last => d.read_relinked last _ _⟩
  | write hij node =>
    exact ⟨names, List.prefix_rfl, h.ask hij fun d last => d.write_relinked last _⟩
  | enable hij reference =>
    refine ⟨names, List.prefix_rfl, ?_⟩
    simp only [Plant.perform, h.fair.enable_eq, h.fair'.enable_eq]
    exact h.ask hij fun d last => d.enable_relinked last _
  | disable hij reference =>
    refine ⟨names, List.prefix_rfl, ?_⟩
    simp only [Plant.perform, h.fair.disable_eq, h.fair'.disable_eq]
    exact h.ask hij fun d last => d.disable_relinked last _
  | release hij => exact ⟨names, List.prefix_rfl, trivial, h.release hij⟩
  | isOpen hij => exact ⟨names, List.prefix_rfl, h.isOpen hij, h⟩
  | retire hij =>
    exact ⟨names, List.prefix_rfl, h.isOpen hij, h.modifyLink hij fun l l' hl =>
      ⟨hl.host, by rw [hl.same], hl.listener⟩⟩
  | activate hij =>
    refine ⟨names, List.prefix_rfl, trivial, h.modifyCollector hij (fun _ _ hc => hc.activate) ?_⟩
    intro c
    unfold Collector.activate
    split <;> rfl
  | setBoundary hij n =>
    exact ⟨names, List.prefix_rfl, trivial,
      h.modifyCollector hij (fun _ _ hc => hc.setBoundary n) fun _ => rfl⟩
  | hangUp hij => exact ⟨names, List.prefix_rfl, h.hangUp hij⟩
  | settle hij =>
    exact ⟨names, List.prefix_rfl, trivial,
      h.modifyCollector hij (fun _ _ hc => hc.finishDrain) fun _ => rfl⟩
  | sendEvents hid hb =>
    exact ⟨names, List.prefix_rfl, by simp only [Plant.perform, h.fair.blockage, h.fair'.blockage],
      h.sendEvents hid hb⟩
  | sendResponse hid hr =>
    exact ⟨names, List.prefix_rfl, by simp only [Plant.perform, h.fair.blockage, h.fair'.blockage],
      h.sendResponse hid hr⟩
  | now => exact ⟨names, List.prefix_rfl, hnow, h⟩
  | freshId => exact ⟨names, List.prefix_rfl, hname, h⟩
  | count c c' n n' => exact ⟨names, List.prefix_rfl, trivial, h.count c c' n n'⟩
  | start hjob =>
    exact ⟨names, List.prefix_rfl, trivial, h.congr rfl rfl⟩

/-- What is asked for the device concerns no other device. -/
theorem Asks.confined (ha : Asks φ names a a' R) (h : p.Twin φ names p') :
    p.Confined φ (p.perform a).2 := by
  cases ha with
  | findDevice =>
    simp only [Plant.perform, h.fair.findDevice_eq]
    exact .refl p
  | associate hd port hl => exact Plant.Twin.confined_associate (by rw [Focus.host?, hd]; rfl) _ _ _
  | retrieve hij =>
    simp only [Plant.perform, h.fair.retrieve_eq]
    exact h.confined_ask hij _
  | read hij reference constraint => exact h.confined_ask hij _
  | write hij node => exact h.confined_ask hij _
  | enable hij reference =>
    simp only [Plant.perform, h.fair.enable_eq]
    exact h.confined_ask hij _
  | disable hij reference =>
    simp only [Plant.perform, h.fair.disable_eq]
    exact h.confined_ask hij _
  | release hij => exact h.confined_release hij
  | retire hij | activate hij | setBoundary hij n | settle hij =>
    exact h.confined_modifyLink hij _
  | hangUp hij => exact h.confined_hangUp hij
  | sendEvents hid hb => exact Plant.confined_sendEvents hid
  | sendResponse hid hr => exact Plant.confined_sendResponse hid
  | _ => exact .of_bare rfl

/-! ## Reports -/

namespace Plant

namespace Twin

variable {clock clock' : Clock}

theorem deliver (h : p.Twin φ names p') (hclock : ∀ k, φ.time (clock k) (clock' k))
    (hij : Named names i j) (r : Report) :
    (p.deliver i clock r).Twin φ names (p'.deliver j clock' r) := by
  obtain ⟨l, l', hl, hl', htwin⟩ := h.listener? hij
  have hcounted : (p.count .reportsReceived 1).Twin φ names (p'.count .reportsReceived 1) :=
    h.count _ _ 1 1
  simp only [Plant.deliver, hl, hl']
  cases htwin with
  | @events c c' hid hc =>
    have hverdict : c'.verdict r = c.verdict r := by
      rw [hc.1]
      rfl
    have hreceived : ((p.count .reportsReceived 1).modifyCollector i fun c =>
        c.receive clock r).Twin φ names ((p'.count .reportsReceived 1).modifyCollector j fun c =>
          c.receive clock' r) := by
      refine hcounted.modifyCollector hij (fun _ _ hc => hc.receive hclock r) fun c => ?_
      unfold Collector.receive
      split <;> rfl
    simp only [collect, hverdict]
    split
    · exact hreceived.count _ _ 1 1
    · exact hreceived
  | @measurements reader hid =>
    dsimp only
    have hsystems := reader.resembles_systems hclock r
    generalize hs : reader.systems clock r = systems at hsystems
    generalize hs' : reader.systems clock' r = systems' at hsystems
    cases hsystems with
    | nil =>
      rw [forward_of_nil hs, forward_of_nil hs']
      exact hcounted
    | cons hfirst hrest =>
      rw [forward_of_cons hs, forward_of_cons hs']
      exact hcounted.sendMeasurements hid ⟨rfl, .cons hfirst hrest⟩
  | silent => exact h

theorem confined_deliver (h : p.Twin φ names p') (hij : Named names i j) (clock : Clock)
    (r : Report) : p.Confined φ (p.deliver i clock r) := by
  obtain ⟨l, l', hl, -, htwin⟩ := h.listener? hij
  have hcounted : p.Confined φ (p.count .reportsReceived 1) := .of_bare rfl
  simp only [Plant.deliver, hl]
  cases htwin with
  | events hid hc =>
    have htwin := h.count .reportsReceived .reportsReceived 1 1
    have hreceived := hcounted.trans (htwin.confined_modifyCollector hij (·.receive clock r))
    simp only [collect]
    split
    · exact hreceived.trans (.of_bare rfl)
    · exact hreceived
  | @measurements reader hid =>
    dsimp only
    cases hs : reader.systems clock r with
    | nil =>
      rw [forward_of_nil hs]
      exact hcounted
    | cons s ss =>
      rw [forward_of_cons hs]
      exact hcounted.trans (confined_sendMeasurements hid)
  | silent => exact .refl p

/-- A report goes over the link that was made last, the same in both plants, or nowhere. -/
theorem cases_push (h : p.Twin φ names p') {host : String} (hhost : φ.host? = some host)
    (clock clock' : Clock) (r : Report) :
    ((p.push host clock r).2 = p ∧ (p'.push host clock' r).2 = p') ∨
      ∃ i j, Named names i j ∧ (p.push host clock r).2 = p.deliver i clock r ∧
        (p'.push host clock' r).2 = p'.deliver j clock' r := by
  unfold Plant.push
  rcases cases_option_rel (h.ied host hhost) with ⟨hp, hp'⟩ | ⟨d, d', hp, hp', last, rfl, hlast⟩
  · exact .inl ⟨by simp [hp], by simp [hp']⟩
  · rcases cases_option_rel hlast with ⟨hd, rfl⟩ | ⟨i, j, hd, rfl, hij⟩
    · exact .inl ⟨by simp [hp, hd], by simp [hp']⟩
    · exact .inr ⟨i, j, hij, by simp [hp, hd], by simp [hp']⟩

/-- The device sends a report. -/
theorem push (h : p.Twin φ names p') (hclock : ∀ k, φ.time (clock k) (clock' k)) {host : String}
    (hhost : φ.host? = some host) (r : Report) :
    (p.push host clock r).2.Twin φ names (p'.push host clock' r).2 := by
  rcases h.cases_push hhost clock clock' r with ⟨hp, hp'⟩ | ⟨i, j, hij, hp, hp'⟩
  · rw [hp, hp']
    exact h
  · rw [hp, hp']
    exact h.deliver hclock hij r

theorem confined_push (h : p.Twin φ names p') {host : String} (hhost : φ.host? = some host)
    (clock : Clock) (r : Report) : p.Confined φ (p.push host clock r).2 := by
  rcases h.cases_push hhost clock clock r with ⟨hp, -⟩ | ⟨i, j, hij, hp, -⟩
  · rw [hp]
    exact .refl p
  · rw [hp]
    exact h.confined_deliver hij clock r

end Twin

end Plant

end FieldGateway
