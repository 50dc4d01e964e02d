import FieldGateway.Proofs.Plant.Devices
import FieldGateway.Proofs.Yard.Pairs
import Mathlib.Data.List.Nodup

/-!
# Plants with the same device

Two plants are the same for one device if it is found at its address in the same state, if its
links are the same but for their numbers, and if the same was sent for it. What is done for the
device in both leaves them the same for it. What is done for it in one of them is confined to the
device: whatever else is there stays as it was.

* `Plant.Twin.ask`, `Plant.Twin.associate`, `Plant.Twin.release`, `Plant.Twin.hangUp`: plants stay
  the same for a device.
* `Plant.Twin.frame`: so they do if something happens but at another device.
-/

namespace FieldGateway

open List (Forall₂)

variable {φ ψ : Focus} {names names' : List Nat} {i j : Nat}

/-- Where the device is found. -/
def Focus.host? (φ : Focus) : Option String := φ.device?.map (·.identity.host)

/-- No two links have the same number. -/
theorem Named.eq_iff (hnames : names.Nodup) {k l : Nat} (h : Named names i j)
    (h' : Named names k l) : i = k ↔ j = l := by
  obtain ⟨hj, hi⟩ := List.getElem?_eq_some_iff.1 h
  obtain ⟨hl, hk⟩ := List.getElem?_eq_some_iff.1 h'
  rw [← hi, ← hk, hnames.getElem_inj_iff]

theorem Named.concat (names : List Nat) (n : Nat) : Named (names ++ [n]) n names.length :=
  List.getElem?_concat_length

theorem Named.cases_concat {n : Nat} (h : Named (names ++ [n]) i j) :
    Named names i j ∨ i = n ∧ j = names.length := by
  unfold Named at h ⊢
  rw [List.getElem?_append] at h
  split at h
  · exact .inl h
  · next hj =>
    obtain ⟨hlt, hi⟩ := List.getElem?_eq_some_iff.1 h
    have hlast : j = names.length := by
      have hone : j - names.length < 1 := hlt
      omega
    exact .inr ⟨(List.eq_of_mem_singleton (hi ▸ List.getElem_mem hlt)), hlast⟩

/-! ## What was sent -/

namespace Outbox

/-- What was sent for a device. -/
def of (o : Outbox) (id : String) : Outbox where
  responses := o.responses.filter (·.deviceId = id)
  events := o.events.filter (·.deviceId = id)
  measurements := o.measurements.filter (·.deviceId = id)

/-- The same was sent, but for stamps and generated identifiers. -/
structure Resembles (τ : Tolerance) (o o' : Outbox) : Prop where
  responses : Forall₂ (Response.Resembles τ) o.responses o'.responses
  events : Forall₂ (EventBatch.Resembles τ) o.events o'.events
  measurements : Forall₂ (MeasurementBatch.Resembles τ) o.measurements o'.measurements

theorem Resembles.eq {o o' : Outbox} (h : o.Resembles .exact o') : o = o' := by
  obtain ⟨responses, events, measurements⟩ := o
  obtain ⟨responses', events', measurements'⟩ := o'
  obtain rfl := forall₂_eq (fun _ _ => Response.Resembles.eq) h.responses
  obtain rfl := forall₂_eq (fun _ _ => EventBatch.Resembles.eq) h.events
  obtain rfl := forall₂_eq (fun _ _ => MeasurementBatch.Resembles.eq) h.measurements
  rfl

end Outbox

section
variable {α : Type} {f : α → String} {id : String} (l : List α) {a : α}

theorem filter_concat_of_eq (h : f a = id) :
    (l ++ [a]).filter (f · = id) = l.filter (f · = id) ++ [a] := by
  simp [List.filter_append, h]

theorem filter_concat_of_ne (h : f a ≠ id) :
    (l ++ [a]).filter (f · = id) = l.filter (f · = id) := by
  simp [List.filter_append, h]

end

/-! ## What is the same for a device -/

/-- Devices that differ in the number of the link that was made last. -/
def Ied.Twin (names : List Nat) (d d' : Ied) : Prop :=
  ∃ last, d' = { d with lastLink := last } ∧ Option.Rel (Named names) d.lastLink last

/-- What listens to the device, in each plant. -/
inductive Listener.Twin (φ : Focus) : Listener → Listener → Prop
  | events {c c' : Collector} (hid : c.deviceId = φ.id) (hc : c.Resembles φ.toTolerance c') :
      Twin φ (.events c) (.events c')
  | measurements {reader : Reader} (hid : reader.deviceId = φ.id) :
      Twin φ (.measurements reader) (.measurements reader)
  | silent : Twin φ .silent .silent

theorem Listener.twin_of_isNewOf {l : Listener} (h : l.IsNewOf φ.id) : l.Twin φ l := by
  cases l with
  | events c => exact .events h.1 (.refl_of_vacant h.2)
  | measurements reader => exact .measurements h
  | watcher => exact h.elim
  | silent => exact .silent

/-- Links to the device, one in each plant. -/
structure Link.Twin (φ : Focus) (l l' : Link) : Prop where
  host : φ.host? = some l.host
  same : l' = { l with listener := l'.listener }
  listener : l.listener.Twin φ l'.listener

theorem Link.Twin.modifyCollector {l l' : Link} (h : l.Twin φ l') {f f' : Collector → Collector}
    (hf : ∀ c c', c.Resembles φ.toTolerance c' → (f c).Resembles φ.toTolerance (f' c'))
    (hid : ∀ c, (f c).deviceId = c.deviceId) :
    Link.Twin φ
      (match l.listener with
      | .events c => { l with listener := .events (f c) }
      | _ => l)
      (match l'.listener with
      | .events c => { l' with listener := .events (f' c) }
      | _ => l') := by
  obtain ⟨host, listener, direct, released, retired⟩ := l
  obtain ⟨host', listener', direct', released', retired'⟩ := l'
  obtain ⟨hhost, hsame, hlistener⟩ := h
  cases hlistener with
  | events hid' hc => exact ⟨hhost, by simpa using hsame, .events ((hid _).trans hid') (hf _ _ hc)⟩
  | measurements hid' => exact ⟨hhost, hsame, .measurements hid'⟩
  | silent => exact ⟨hhost, hsame, .silent⟩

namespace Plant

/-- A plant apart from the clock and from what the gateway keeps for itself. -/
def bare (p : Plant) : Plant :=
  { p with time := 0, now := 0, identifier := "", heard := [], counters := .zero, jobs := [] }

/-- What of a plant no work changes, as long as nothing lies between the gateway and the devices. -/
def setting (p : Plant) : Registry × List Bool × Interference × Blockage :=
  (p.registry, p.findFaults, p.interference, p.blockage)

/-- Nothing lies between the gateway and the devices, all can be sent, and the device is known for
what it is. -/
structure Fair (φ : Focus) (p : Plant) : Prop where
  known : p.registry.find? φ.id = φ.device?
  findFaults : p.findFaults = []
  interference : p.interference = .none
  blockage : p.blockage = .none

/-- Two plants with the same device; the links of the second plant are all to this device. -/
structure Twin (φ : Focus) (names : List Nat) (p p' : Plant) : Prop where
  fair : p.Fair φ
  fair' : p'.Fair φ
  ied : ∀ host, φ.host? = some host →
    Option.Rel (Ied.Twin names) (p.network.find? host) (p'.network.find? host)
  links : ∀ i j, Named names i j → ∃ l l', p.links[i]? = some l ∧ p'.links[j]? = some l' ∧
    l.Twin φ l'
  length : names.length = p'.links.length
  nodup : names.Nodup
  outbox : (p.outbox.of φ.id).Resembles φ.toTolerance p'.outbox

/-- Whatever is different in the second plant concerns the device. -/
structure Confined (φ : Focus) (p q : Plant) : Prop where
  setting : q.setting = p.setting
  ied : ∀ host, φ.host? ≠ some host → q.network.find? host = p.network.find? host
  links : ∀ (i : Nat) (l : Link), p.links[i]? = some l → φ.host? ≠ some l.host →
    q.links[i]? = some l
  outbox : ∀ id, id ≠ φ.id → q.outbox.of id = p.outbox.of id

variable {p p' q q' : Plant}

namespace Fair

theorem congr (h : p.Fair φ) (hq : q.setting = p.setting) : q.Fair φ := by
  obtain ⟨hregistry, hfind, hinterference, hblockage⟩ : q.registry = p.registry ∧
      q.findFaults = p.findFaults ∧ q.interference = p.interference ∧ q.blockage = p.blockage := by
    simpa [Plant.setting] using hq
  exact ⟨hregistry ▸ h.known, hfind ▸ h.findFaults, hinterference ▸ h.interference,
    hblockage ▸ h.blockage⟩

theorem findDevice_eq (h : p.Fair φ) : p.findDevice φ.id = (.ok φ.device?, p) := by
  obtain ⟨hknown, hfaults, -, -⟩ := h
  cases p
  subst hfaults
  simp only [findDevice, hknown]
  rfl

theorem retrieve_eq (h : p.Fair φ) (i : Nat) :
    p.retrieve i = p.ask i fun d => (.ok d.model, d) := by
  simp only [retrieve, h.interference, Interference.none]

theorem enable_eq (h : p.Fair φ) (i : Nat) (reference : String) :
    p.enable i reference = p.ask i fun d => d.enable reference := by
  simp only [enable, h.interference, Interference.none]

theorem disable_eq (h : p.Fair φ) (i : Nat) (reference : String) :
    p.disable i reference = p.ask i fun d => d.disable reference := by
  simp only [disable, h.interference, Interference.none]

end Fair

/-! ## What concerns the device alone -/

namespace Confined

theorem refl (p : Plant) : p.Confined φ p := ⟨rfl, fun _ _ => rfl, fun _ _ h _ => h, fun _ _ => rfl⟩

theorem trans {r : Plant} (h : p.Confined φ q) (h' : q.Confined φ r) : p.Confined φ r :=
  ⟨h'.setting.trans h.setting, fun host hhost => (h'.ied host hhost).trans (h.ied host hhost),
    fun i l hl hhost => h'.links i l (h.links i l hl hhost) hhost,
    fun id hid => (h'.outbox id hid).trans (h.outbox id hid)⟩

theorem modifyIed {host : String} (hhost : φ.host? = some host) (f : Ied → Ied) :
    p.Confined φ (p.modifyIed host f) := by
  refine ⟨rfl, fun other hother => ?_, fun _ _ hl _ => hl, fun _ _ => rfl⟩
  have hne : other ≠ host := fun heq => hother (hhost.trans (congrArg some heq.symm))
  rw [find?_modifyIed, if_neg hne]

theorem modifyLink {l : Link} (hl : p.links[i]? = some l) (hhost : φ.host? = some l.host)
    (f : Link → Link) : p.Confined φ (p.modifyLink i f) := by
  refine ⟨rfl, fun _ _ => rfl, fun k m hm hother => ?_, fun _ _ => rfl⟩
  have hne : i ≠ k := fun heq => by
    subst heq
    rw [hl] at hm
    cases hm
    exact hother hhost
  rw [Plant.modifyLink, List.getElem?_modify_ne _ _ hne, hm]

/-- Something is sent for the device. -/
theorem sends {o : Outbox} (h : ∀ id, id ≠ φ.id → o.of id = p.outbox.of id) :
    p.Confined φ { p with outbox := o } :=
  ⟨rfl, fun _ _ => rfl, fun _ _ hl _ => hl, h⟩

theorem of_bare (h : q.bare = p.bare) : p.Confined φ q := by
  have hnetwork : q.network = p.network := (congrArg Plant.network h :)
  have hlinks : q.links = p.links := (congrArg Plant.links h :)
  have houtbox : q.outbox = p.outbox := (congrArg Plant.outbox h :)
  exact ⟨(congrArg Plant.setting h :), fun _ _ => by rw [hnetwork],
    fun _ _ hl _ => by rw [hlinks, hl], fun _ _ => by rw [houtbox]⟩

end Confined

namespace Twin

/-- Two plants stay the same for a device if something happens but at another one. -/
theorem frame (h : Twin ψ names p p') (hc : p.Confined φ q) (hid : ψ.id ≠ φ.id)
    (hhost : ∀ host, ψ.host? = some host → φ.host? ≠ some host) : Twin ψ names q p' where
  fair := h.fair.congr hc.setting
  fair' := h.fair'
  ied host hψ := by
    rw [hc.ied host (hhost host hψ)]
    exact h.ied host hψ
  links i j hij := by
    obtain ⟨l, l', hl, hl', htwin⟩ := h.links i j hij
    exact ⟨l, l', hc.links i l hl (hhost _ htwin.host), hl', htwin⟩
  length := h.length
  nodup := h.nodup
  outbox := by
    rw [hc.outbox _ hid]
    exact h.outbox

/-! ## What is done in both plants -/

theorem congr (h : Twin φ names p p') (hq : q.bare = p.bare) (hq' : q'.bare = p'.bare) :
    Twin φ names q q' := by
  have hnetwork : q.network = p.network := (congrArg Plant.network hq :)
  have hnetwork' : q'.network = p'.network := (congrArg Plant.network hq' :)
  have hlinks : q.links = p.links := (congrArg Plant.links hq :)
  have hlinks' : q'.links = p'.links := (congrArg Plant.links hq' :)
  have houtbox : q.outbox = p.outbox := (congrArg Plant.outbox hq :)
  have houtbox' : q'.outbox = p'.outbox := (congrArg Plant.outbox hq' :)
  exact {
    fair := h.fair.congr (congrArg Plant.setting hq :)
    fair' := h.fair'.congr (congrArg Plant.setting hq' :)
    ied := by rw [hnetwork, hnetwork']; exact h.ied
    links := by rw [hlinks, hlinks']; exact h.links
    length := by rw [hlinks']; exact h.length
    nodup := h.nodup
    outbox := by rw [houtbox, houtbox']; exact h.outbox }

theorem count (h : Twin φ names p p') (c c' : Counter) (n n' : Nat) :
    Twin φ names (p.count c n) (p'.count c' n') := h.congr rfl rfl

theorem far (h : Twin φ names p p') (hij : Named names i j) :
    (∃ e, p.far i = .error e ∧ p'.far j = .error e) ∨
      ∃ host d d', φ.host? = some host ∧ p.far i = .ok (host, d) ∧ p'.far j = .ok (host, d') ∧
        d.Twin names d' := by
  obtain ⟨l, l', hl, hl', htwin⟩ := h.links i j hij
  have hhost : l'.host = l.host := by rw [htwin.same]
  have hreleased : l'.released = l.released := by rw [htwin.same]
  simp only [Plant.far, hl, hl', hhost, hreleased]
  cases l.released with
  | true => exact .inl ⟨_, rfl, rfl⟩
  | false =>
    rcases cases_option_rel (h.ied l.host htwin.host) with ⟨hp, hp'⟩ | ⟨d, d', hp, hp', hd⟩
    · exact .inl ⟨.io "association closed", by simp [hp], by simp [hp']⟩
    · exact .inr ⟨l.host, d, d', htwin.host, by simp [hp], by simp [hp'], hd⟩

theorem modifyIed (h : Twin φ names p p') {host : String} (hhost : φ.host? = some host)
    {f f' : Ied → Ied} (hf : ∀ d d', d.Twin names d' → (f d).Twin names (f' d')) :
    Twin φ names (p.modifyIed host f) (p'.modifyIed host f') where
  fair := h.fair.congr rfl
  fair' := h.fair'.congr rfl
  ied other hother := by
    obtain rfl : host = other := Option.some.inj (hhost.symm.trans hother)
    rw [find?_modifyIed, find?_modifyIed, if_pos rfl, if_pos rfl]
    rcases cases_option_rel (h.ied host hhost) with ⟨hp, hp'⟩ | ⟨d, d', hp, hp', hd⟩
    · rw [hp, hp']
      exact .none
    · rw [hp, hp']
      exact .some (hf d d' hd)
  links := h.links
  length := h.length
  nodup := h.nodup
  outbox := h.outbox

/-- A request that does not depend on the link that was made last, nor changes it. -/
theorem ask {α : Type} (h : Twin φ names p p') (hij : Named names i j)
    {f : Ied → Except Fault α × Ied}
    (hf : ∀ d last, f { d with lastLink := last } = ((f d).1, { (f d).2 with lastLink := last })) :
    (p.ask i f).1 = (p'.ask j f).1 ∧ Twin φ names (p.ask i f).2 (p'.ask j f).2 := by
  rcases h.far hij with ⟨e, hp, hp'⟩ | ⟨host, d, d', hhost, hp, hp', last, rfl, hlast⟩
  · simp only [Plant.ask, hp, hp']
    exact ⟨trivial, h⟩
  · -- putting back the link that is there changes nothing, so the request keeps it
    have hkeeps : (f d).2.lastLink = d.lastLink := by
      have hsame : f d = ((f d).1, { (f d).2 with lastLink := d.lastLink }) := hf d d.lastLink
      exact congrArg (·.2.lastLink) hsame
    rw [ask_of_far hp, ask_of_far hp', hf d last]
    refine ⟨rfl, h.modifyIed hhost fun _ _ _ => ⟨last, rfl, ?_⟩⟩
    rwa [hkeeps]

theorem confined_ask {α : Type} (h : Twin φ names p p') (hij : Named names i j)
    (f : Ied → Except Fault α × Ied) : p.Confined φ (p.ask i f).2 := by
  rcases h.far hij with ⟨e, hp, -⟩ | ⟨host, d, d', hhost, hp, -, -⟩
  · simp only [Plant.ask, hp]
    exact .refl p
  · rw [ask_of_far hp]
    exact .modifyIed hhost _

theorem modifyLink (h : Twin φ names p p') (hij : Named names i j) {f f' : Link → Link}
    (hf : ∀ l l', l.Twin φ l' → (f l).Twin φ (f' l')) :
    Twin φ names (p.modifyLink i f) (p'.modifyLink j f') where
  fair := h.fair.congr rfl
  fair' := h.fair'.congr rfl
  ied := h.ied
  links k m hkm := by
    obtain ⟨l, l', hl, hl', htwin⟩ := h.links k m hkm
    simp only [Plant.modifyLink, List.getElem?_modify, hl, hl', hij.eq_iff h.nodup hkm]
    by_cases hjm : j = m
    · exact ⟨f l, f' l', by simp [hjm], by simp [hjm], hf l l' htwin⟩
    · exact ⟨l, l', by simp [hjm], by simp [hjm], htwin⟩
  length := by
    rw [h.length]
    exact (length_modifyLink j f').symm
  nodup := h.nodup
  outbox := h.outbox

theorem confined_modifyLink (h : Twin φ names p p') (hij : Named names i j) (f : Link → Link) :
    p.Confined φ (p.modifyLink i f) := by
  obtain ⟨l, l', hl, -, htwin⟩ := h.links i j hij
  exact .modifyLink hl htwin.host f

theorem modifyCollector (h : Twin φ names p p') (hij : Named names i j)
    {f f' : Collector → Collector}
    (hf : ∀ c c', c.Resembles φ.toTolerance c' → (f c).Resembles φ.toTolerance (f' c'))
    (hid : ∀ c, (f c).deviceId = c.deviceId) :
    Twin φ names (p.modifyCollector i f) (p'.modifyCollector j f') :=
  h.modifyLink hij fun _ _ hl => hl.modifyCollector hf hid

theorem confined_modifyCollector (h : Twin φ names p p') (hij : Named names i j)
    (f : Collector → Collector) : p.Confined φ (p.modifyCollector i f) :=
  h.confined_modifyLink hij _

theorem isOpen (h : Twin φ names p p') (hij : Named names i j) : p.isOpen i = p'.isOpen j := by
  obtain ⟨l, l', hl, hl', htwin⟩ := h.links i j hij
  have hretired : l'.retired = l.retired := by rw [htwin.same]
  simp only [Plant.isOpen, hl, hl', hretired]

theorem reach (h : Twin φ names p p') {host : String} (hhost : φ.host? = some host)
    (port : UInt16) : p.network.reach host port = p'.network.reach host port := by
  unfold Network.reach
  rcases cases_option_rel (h.ied host hhost) with ⟨hp, hp'⟩ | ⟨d, d', hp, hp', last, rfl, -⟩
  · rw [hp, hp']
  · simp only [hp, hp']

theorem length_notMem (h : Twin φ names p p') : p.links.length ∉ names := fun hmem => by
  obtain ⟨k, hk⟩ := List.getElem?_of_mem hmem
  obtain ⟨l, l', hl, -⟩ := h.links _ k hk
  exact absurd (List.getElem?_eq_some_iff.1 hl).1 (Nat.lt_irrefl _)

/-- The links with one more at the end. -/
theorem links_concat (h : Twin φ names p p') {made : Link} (hmade : made.Twin φ made) {k m : Nat}
    (hkm : Named (names ++ [p.links.length]) k m) :
    ∃ l l', (p.links ++ [made])[k]? = some l ∧ (p'.links ++ [made])[m]? = some l' ∧
      l.Twin φ l' := by
  rcases hkm.cases_concat with hkm | ⟨rfl, rfl⟩
  · obtain ⟨l, l', hl, hl', htwin⟩ := h.links k m hkm
    refine ⟨l, l', ?_, ?_, htwin⟩
    · rw [List.getElem?_append_left (List.getElem?_eq_some_iff.1 hl).1, hl]
    · rw [List.getElem?_append_left (List.getElem?_eq_some_iff.1 hl').1, hl']
  · refine ⟨made, made, List.getElem?_concat_length, ?_, hmade⟩
    rw [h.length]
    exact List.getElem?_concat_length

/-- A link more, which has a number of its own in either plant. -/
theorem associate (h : Twin φ names p p') {host : String} (hhost : φ.host? = some host)
    (port : UInt16) {listener : Listener} (hl : listener.IsNewOf φ.id) (direct : Bool) :
    ∃ names', names <+: names' ∧
      Except.Alike (Named names') (p.associate host port listener direct).1
        (p'.associate host port listener direct).1 ∧
      Twin φ names' (p.associate host port listener direct).2
        (p'.associate host port listener direct).2 := by
  simp only [Plant.associate, h.reach hhost port]
  cases p'.network.reach host port with
  | error e => exact ⟨names, List.prefix_rfl, rfl, h⟩
  | ok _ =>
    let made : Link := ⟨host, listener, direct, false, false⟩
    have hmade : made.Twin φ made := ⟨hhost, rfl, Listener.twin_of_isNewOf hl⟩
    have hnamed : Named (names ++ [p.links.length]) p.links.length p'.links.length :=
      h.length ▸ Named.concat names p.links.length
    refine ⟨names ++ [p.links.length], List.prefix_append _ _, hnamed, ?_⟩
    exact {
      fair := h.fair.congr rfl
      fair' := h.fair'.congr rfl
      ied := fun other hother => by
        obtain rfl : host = other := Option.some.inj (hhost.symm.trans hother)
        change Option.Rel _ ((p.modifyIed host _).network.find? host)
          ((p'.modifyIed host _).network.find? host)
        rw [find?_modifyIed, find?_modifyIed, if_pos rfl, if_pos rfl]
        rcases cases_option_rel (h.ied host hhost) with ⟨hp, hp'⟩ | ⟨d, d', hp, hp', last, rfl, -⟩
        · rw [hp, hp']
          exact .none
        · rw [hp, hp']
          exact .some ⟨some p'.links.length, rfl, .some hnamed⟩
      links := fun k m hkm => h.links_concat hmade hkm
      length := by simp [h.length]
      nodup := h.nodup.append (List.nodup_singleton _) (List.disjoint_singleton.2 h.length_notMem)
      outbox := h.outbox }

theorem confined_associate {host : String} (hhost : φ.host? = some host) (port : UInt16)
    (listener : Listener) (direct : Bool) :
    p.Confined φ (p.associate host port listener direct).2 := by
  unfold Plant.associate
  cases p.network.reach host port with
  | error e => exact .refl p
  | ok _ =>
    refine (Confined.modifyIed hhost (·.associate p.links.length)).trans
      ⟨rfl, fun _ _ => rfl, fun i l hl _ => ?_, fun _ _ => rfl⟩
    exact (List.getElem?_append_left (List.getElem?_eq_some_iff.1 hl).1).trans hl

theorem release (h : Twin φ names p p') (hij : Named names i j) :
    Twin φ names (p.release i) (p'.release j) := by
  unfold Plant.release
  rcases h.far hij with ⟨e, hp, hp'⟩ | ⟨host, d, d', hhost, hp, hp', -⟩
  · simp only [hp, hp']
    exact h
  · simp only [hp, hp']
    have hreleased : Twin φ names (p.modifyIed host Ied.release)
        (p'.modifyIed host Ied.release) := by
      refine h.modifyIed hhost ?_
      rintro d _ ⟨last, rfl, hlast⟩
      exact ⟨last, rfl, hlast⟩
    exact hreleased.modifyLink hij fun l l' hl => ⟨hl.host, by rw [hl.same], hl.listener⟩

theorem confined_release (h : Twin φ names p p') (hij : Named names i j) :
    p.Confined φ (p.release i) := by
  unfold Plant.release
  obtain ⟨l, l', hl, -, htwin⟩ := h.links i j hij
  rcases h.far hij with ⟨e, hp, -⟩ | ⟨host, d, d', hhost, hp, -, -⟩
  · simp only [hp]
    exact .refl p
  · simp only [hp]
    have hreleased : p.Confined φ (p.modifyIed host Ied.release) := .modifyIed hhost _
    exact hreleased.trans (.modifyLink (p := p.modifyIed host Ied.release) hl htwin.host _)

/-- What listens at a link of the device. -/
theorem listener? (h : Twin φ names p p') (hij : Named names i j) :
    ∃ l l', p.listener? i = some l ∧ p'.listener? j = some l' ∧ l.Twin φ l' := by
  obtain ⟨l, l', hl, hl', htwin⟩ := h.links i j hij
  exact ⟨l.listener, l'.listener, by simp [Plant.listener?, hl], by simp [Plant.listener?, hl'],
    htwin.listener⟩

theorem hangUp (h : Twin φ names p p') (hij : Named names i j) :
    Option.Rel (fun b b' => b.deviceId = φ.id ∧ b.Resembles φ.toTolerance b') (p.hangUp i).1
        (p'.hangUp j).1 ∧
      Twin φ names (p.hangUp i).2 (p'.hangUp j).2 := by
  obtain ⟨l, l', hl, hl', htwin⟩ := h.listener? hij
  unfold Plant.hangUp
  simp only [hl, hl']
  cases htwin with
  | events hid hc =>
    dsimp only
    refine ⟨?_, h.modifyCollector hij (fun c c' hc => hc.startDrain.2) fun c => ?_⟩
    · rcases cases_option_rel hc.startDrain.1 with ⟨hb, hb'⟩ | ⟨b, b', hb, hb', hbb⟩
      · rw [hb, hb']
        exact .none
      · rw [hb, hb']
        obtain ⟨_, -, rfl⟩ := Option.map_eq_some_iff.1 hb
        exact .some ⟨hid, hbb⟩
    · unfold Collector.startDrain
      split <;> rfl
  | measurements hid => exact ⟨.none, h⟩
  | silent => exact ⟨.none, h⟩

theorem confined_hangUp (h : Twin φ names p p') (hij : Named names i j) :
    p.Confined φ (p.hangUp i).2 := by
  unfold Plant.hangUp
  split
  · exact h.confined_modifyLink hij _
  · exact .of_bare rfl
  · exact .refl p

/-! ### Sending -/

theorem sends (h : Twin φ names p p') {o o' : Outbox}
    (ho : (o.of φ.id).Resembles φ.toTolerance o') :
    Twin φ names { p with outbox := o } { p' with outbox := o' } where
  fair := h.fair.congr rfl
  fair' := h.fair'.congr rfl
  ied := h.ied
  links := h.links
  length := h.length
  nodup := h.nodup
  outbox := ho

theorem sendResponse (h : Twin φ names p p') {r r' : Response} (hid : r.deviceId = φ.id)
    (hr : r.Resembles φ.toTolerance r') :
    Twin φ names (p.sendResponse r) (p'.sendResponse r') := by
  refine h.sends ⟨?_, h.outbox.events, h.outbox.measurements⟩
  simp only [Outbox.of, filter_concat_of_eq p.outbox.responses hid]
  exact List.rel_append h.outbox.responses (.cons hr .nil)

theorem sendEvents (h : Twin φ names p p') {b b' : EventBatch} (hid : b.deviceId = φ.id)
    (hb : b.Resembles φ.toTolerance b') : Twin φ names (p.sendEvents b) (p'.sendEvents b') := by
  refine h.sends ⟨h.outbox.responses, ?_, h.outbox.measurements⟩
  simp only [Outbox.of, filter_concat_of_eq p.outbox.events hid]
  exact List.rel_append h.outbox.events (.cons hb .nil)

theorem sendMeasurements (h : Twin φ names p p') {b b' : MeasurementBatch}
    (hid : b.deviceId = φ.id) (hb : b.Resembles φ.toTolerance b') :
    Twin φ names (p.sendMeasurements b) (p'.sendMeasurements b') := by
  refine h.sends ⟨h.outbox.responses, h.outbox.events, ?_⟩
  simp only [Outbox.of, filter_concat_of_eq p.outbox.measurements hid]
  exact List.rel_append h.outbox.measurements (.cons hb .nil)

end Twin

theorem confined_sendResponse {r : Response} (h : r.deviceId = φ.id) :
    p.Confined φ (p.sendResponse r) := by
  refine .sends fun id hid => ?_
  simp only [Outbox.of, filter_concat_of_ne p.outbox.responses (h.trans_ne hid.symm)]

theorem confined_sendEvents {b : EventBatch} (h : b.deviceId = φ.id) :
    p.Confined φ (p.sendEvents b) := by
  refine .sends fun id hid => ?_
  simp only [Outbox.of, filter_concat_of_ne p.outbox.events (h.trans_ne hid.symm)]

theorem confined_sendMeasurements {b : MeasurementBatch} (h : b.deviceId = φ.id) :
    p.Confined φ (p.sendMeasurements b) := by
  refine .sends fun id hid => ?_
  simp only [Outbox.of, filter_concat_of_ne p.outbox.measurements (h.trans_ne hid.symm)]

end Plant

end FieldGateway
