import FieldGateway.Proofs.Plant.Devices
import FieldGateway.Proofs.Plant.Nodes

/-!
# Reports that are switched on and off

A report of a device is on or off. It is switched by those actions on its control block that succeed
over a link to the device, and by nothing else but what happens at the device itself: how it stands
after any log is told by the last switch in the log.

* `Action.switch?`: how an action with its answer switches a report.
* `Plant.Answers.isOn?`, `Crew.Step.isOn?`: one action, and one step.
* `lastSwitch?`: the last switch of a log.
-/

namespace FieldGateway

theorem ServerModel.block?_modifyBlock (m : ServerModel) {f : ControlBlock → ControlBlock}
    (hf : ∀ b, (f b).reference = b.reference) (r reference : String) :
    (m.modifyBlock r f).block? reference =
      if r = reference then (m.block? reference).map f else m.block? reference := by
  have hself : ∀ l : List ControlBlock, (modifyFirst (·.reference == r) f l).find?
      (·.reference == r) = (l.find? (·.reference == r)).map f :=
    find?_modifyFirst_self fun b hb => by rwa [hf]
  have hother : r ≠ reference → ∀ l : List ControlBlock,
      (modifyFirst (·.reference == r) f l).find? (·.reference == reference) =
        l.find? (·.reference == reference) := by
    intro hne
    have hdiffer : ∀ b : ControlBlock, (b.reference == r) = true →
        (b.reference == reference) = false := by
      intro b hb
      rw [beq_iff_eq.1 hb]
      exact beq_false_of_ne hne
    exact find?_modifyFirst_of_disjoint (fun b hb => by rw [hf]; exact hdiffer b hb) hdiffer
  unfold modifyBlock
  split
  · next hbuffered =>
    split
    · next he =>
      subst he
      obtain ⟨b, hb⟩ := Option.isSome_iff_exists.1 hbuffered
      have hfound := hself m.buffered
      unfold buffered? at hb
      simp only [block?, buffered?, hfound, hb, Option.map_some, Option.some_or]
    · next hne => simp only [block?, buffered?, unbuffered?, hother hne]
  · next hbuffered =>
    split
    · next he =>
      subst he
      have hnone : m.buffered? r = none := by simpa using hbuffered
      have hfound := hself m.unbuffered
      unfold buffered? at hnone
      simp only [block?, buffered?, unbuffered?, hnone, hfound, Option.none_or]
    · next hne => simp only [block?, buffered?, unbuffered?, hother hne]

namespace Plant

variable {p q : Plant} {link : Nat} {host reference : String}

/-- Whether a report of the device at an address is on. -/
def isOn? (p : Plant) (host reference : String) : Option Bool :=
  (p.network.find? host).bind fun d => (d.model.block? reference).map (·.enabled)

theorem isOn?_of_blocks? (h : q.blocks? host = p.blocks? host) :
    q.isOn? host reference = p.isOn? host reference := by
  have hblocks : ∀ r : Plant, r.isOn? host reference = (r.blocks? host).bind fun b =>
      ((⟨[], b.1, b.2⟩ : ServerModel).block? reference).map (·.enabled) := by
    intro r
    unfold isOn? blocks?
    cases r.network.find? host <;> rfl
  rw [hblocks, hblocks, h]

end Plant

/-- How an action with its answer switches a report of the device at an address. -/
def Action.switch? (p : Plant) (host reference : String) : (a : Action) → a.Answer → Option Bool
  | .enable link r, .ok _ => if p.host? link = some host ∧ r = reference then some true else none
  | .disable link r, .ok _ => if p.host? link = some host ∧ r = reference then some false else none
  | _, _ => none

namespace Plant

variable {p q : Plant} {link : Nat} {host reference : String}

/-- What a request that sets a control block makes of the reports. -/
theorem isOn?_of_ask {α : Type} {f : Ied → Except Fault α × Ied} {r : String} {b : Bool} {x : α}
    (h : p.ask link f = (.ok x, q))
    (hf : ∀ d d', f d = (.ok x, d') → (d.model.block? r).isSome ∧
      d'.model = d.model.modifyBlock r ({ · with enabled := b })) :
    q.isOn? host reference = (if p.host? link = some host ∧ r = reference then some b else none).or
      (p.isOn? host reference) := by
  obtain ⟨far, d, d', hfar, hd, rfl⟩ := ask_ok h
  obtain ⟨hthere, hmodel⟩ := hf d d' hd
  obtain ⟨block, hblock⟩ := Option.isSome_iff_exists.1 hthere
  rw [host?_of_far hfar]
  unfold isOn?
  rw [find?_modifyIed]
  by_cases hhost : host = far
  · subst hhost
    have hset := d.model.block?_modifyBlock (f := ({ · with enabled := b })) (fun _ => rfl) r
      reference
    rw [if_pos rfl, find?_far hfar, Option.map_some, Option.bind_some, Option.bind_some, hmodel,
      hset]
    by_cases hr : r = reference
    · subst hr
      simp [hblock]
    · simp [hr]
  · rw [if_neg hhost, if_neg fun he => hhost (Option.some.inj he.1).symm, Option.none_or]

theorem Answers.isOn? {a : Action} {answer : a.Answer} (h : p.Answers a answer q) :
    q.isOn? host reference =
      (a.switch? p host reference answer).or (p.isOn? host reference) := by
  by_cases hspares : a.SparesBlocks answer
  · have hnone : a.switch? p host reference answer = none := by
      cases a with
      | enable l r | disable l r =>
        cases answer with
        | ok _ => exact hspares.elim
        | error f => rfl
      | _ => rfl
    rw [hnone, Option.none_or]
    exact isOn?_of_blocks? (h.blocks? hspares)
  · cases a with
    | enable l r =>
      cases answer with
      | error f => exact absurd trivial hspares
      | ok block =>
        have hp : p.enable l r = (.ok block, q) := h.perform_eq fun f hf => by cases hf
        unfold enable at hp
        split at hp
        · cases hp
        · refine isOn?_of_ask hp fun d d' hd => ?_
          unfold Ied.enable at hd
          split at hd
          · cases hd
          · next hblock =>
            cases hd
            exact ⟨by rw [hblock]; rfl, rfl⟩
    | disable l r =>
      cases answer with
      | error f => exact absurd trivial hspares
      | ok u =>
        have hp : p.disable l r = (.ok u, q) := h.perform_eq fun f hf => by cases hf
        unfold disable at hp
        split at hp
        · cases hp
        · refine isOn?_of_ask hp fun d d' hd => ?_
          unfold Ied.disable at hd
          split at hd
          · cases hd
          · next hblock =>
            cases hd
            exact ⟨by rw [hblock]; rfl, rfl⟩
    | _ => exact absurd trivial hspares

theorem network_deliver (l : Nat) (readings : Clock) (r : Report) :
    (p.deliver l readings r).network = p.network := by
  unfold deliver
  split
  · unfold collect
    dsimp only
    split <;> rfl
  · unfold forward
    dsimp only
    split <;> rfl
  all_goals rfl

/-- Whatever befalls the plant, a report is switched only at its device. -/
theorem isOn?_meet {e : Incident} (h : ∀ d, e ≠ .device host d) :
    (p.meet e).isOn? host reference = p.isOn? host reference := by
  cases e with
  | device far d =>
    have hne : host ≠ far := fun he => h d (by rw [he])
    unfold isOn? meet
    dsimp only
    rw [show (p.network.insert far d).find? host = p.network.find? host from
      Table.find?_insert_of_ne _ d hne]
  | report l readings r =>
    unfold isOn?
    rw [show (p.meet (.report l readings r)).network = p.network from
      network_deliver l readings r]
  | _ => rfl

end Plant

/-! ## Logs -/

/-- How something that happened switches a report. -/
def Entry.switch? (host reference : String) (e : Entry) : Option Bool :=
  match e.event with
  | .did _ a answer => a.switch? e.before host reference answer
  | .met _ => none

/-- Whether the device at an address changed by itself. -/
def Entry.changes (host : String) (e : Entry) : Bool :=
  match e.event with
  | .met (.device far _) => far == host
  | _ => false

/-- How a report was switched last in a log. -/
def lastSwitch? (host reference : String) (log : List Entry) : Option Bool :=
  log.reverse.findSome? (Entry.switch? host reference)

section
variable {host reference : String} {log : List Entry} {e : Entry}

theorem lastSwitch?_concat : lastSwitch? host reference (log ++ [e]) =
    (e.switch? host reference).or (lastSwitch? host reference log) := by
  rw [lastSwitch?, List.reverse_concat, List.findSome?_cons, lastSwitch?]
  cases e.switch? host reference <;> rfl

theorem lastSwitch?_cons : lastSwitch? host reference (e :: log) =
    (lastSwitch? host reference log).or (e.switch? host reference) := by
  rw [lastSwitch?, List.reverse_cons, List.findSome?_append, lastSwitch?]
  congr 1
  cases h : e.switch? host reference <;> simp [h]

/-- What switches a report off is done to its control block. -/
theorem Entry.eq_of_switch?_false (h : e.switch? host reference = some false) :
    ∃ i link, e.event = .did i (.disable link reference) (.ok ()) := by
  obtain ⟨p, event, q⟩ := e
  cases event with
  | met m => cases h
  | did i a answer =>
    have h : a.switch? p host reference answer = some false := h
    cases a with
    | enable l r =>
      cases answer with
      | error f => cases h
      | ok b =>
        have h : (if p.host? l = some host ∧ r = reference then some true else none) =
          some false := h
        split at h <;> cases h
    | disable l r =>
      cases answer with
      | error f => cases h
      | ok u =>
        have h : (if p.host? l = some host ∧ r = reference then some false else none) =
          some false := h
        split at h
        · next hr => exact ⟨i, l, by rw [hr.2]⟩
        · cases h
    | _ => cases h

end

/-- A step is not written down, and leaves the plant alone, or it is written down, with what it
makes of a report. -/
theorem Crew.Step.isOn? {α : Type} {w w' : Crew α} (h : w.Step w') :
    (w'.log = w.log ∧ w'.plant = w.plant) ∨
    ∃ e, w'.log = w.log ++ [e] ∧ e.before = w.plant ∧ ∀ host reference,
      e.changes host = false → w'.plant.isOn? host reference =
        (e.switch? host reference).or (w.plant.isOn? host reference) := by
  cases h with
  | act hc ha => exact .inr ⟨_, rfl, rfl, fun host reference _ => ha.isOn?⟩
  | goOn hc => exact .inl ⟨rfl, rfl⟩
  | meet e =>
    refine .inr ⟨_, rfl, rfl, fun host reference hcalm => Plant.isOn?_meet ?_⟩
    rintro d rfl
    simp [Entry.changes] at hcalm

end FieldGateway
