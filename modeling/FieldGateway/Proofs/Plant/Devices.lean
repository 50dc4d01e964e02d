import FieldGateway.Proofs.Crew.Basic
import FieldGateway.Proofs.Model.Written

/-!
# What actions do to devices

A request over a link reaches one device, or none, so that an action leaves the device at an address
alone or makes of it what one request does. The report control blocks of a device change only when a
report is switched on or off.

* `Plant.ask_ok`: a request that succeeds was carried out at one device.
* `Plant.cases_found`: what an action makes of the device at an address.
* `Plant.Answers.blocks?`: the report control blocks after an action.
-/

namespace FieldGateway

namespace Plant

variable {p q : Plant} {link : Nat} {host : String}

theorem find?_far {d : Ied} (h : p.far link = .ok (host, d)) : p.network.find? host = some d := by
  unfold far at h
  split at h
  · cases h
  · split at h
    · cases h
    · split at h
      · cases h
      · next hd =>
        cases h
        exact hd

theorem find?_modifyIed (p : Plant) (at_ host : String) (f : Ied → Ied) :
    (p.modifyIed at_ f).network.find? host =
      if host = at_ then (p.network.find? at_).map f else p.network.find? host := by
  refine (Table.find?_modify _ host at_ f).trans ?_
  simp only [Std.LawfulEqCmp.compare_eq_iff_eq]
  rfl

theorem ask_ok {α : Type} {f : Ied → Except Fault α × Ied} {r : α}
    (h : p.ask link f = (.ok r, q)) : ∃ host d d', p.far link = .ok (host, d) ∧
      f d = (.ok r, d') ∧ q = p.modifyIed host fun _ => d' := by
  unfold ask at h
  split at h
  · cases h
  · next host d hf =>
    cases hd : f d with
    | mk r' d' =>
      rw [hd] at h
      cases h
      exact ⟨host, d, d', hf, hd, rfl⟩

theorem ask_of_far {α : Type} {f : Ied → Except Fault α × Ied} {d : Ied}
    (h : p.far link = .ok (host, d)) :
    p.ask link f = ((f d).1, p.modifyIed host fun _ => (f d).2) := by
  unfold ask
  rw [h]

end Plant

/-- What a device can become by an action with its answer. -/
def Ied.Becomes (d : Ied) : (a : Action) → a.Answer → Ied → Prop
  | .associate _ _ _, _, d' => ∃ link, d' = d.associate link
  | .retrieve _, _, d' => d' = d
  | .release _, _, d' => d' = d.release
  | .read _ reference constraint, answer, d' => d.read reference constraint = (answer, d')
  | .write _ node, answer, d' => d.write node = (answer, d')
  | .enable _ reference, answer, d' => d.enable reference = (answer, d')
  | .disable _ reference, answer, d' => d.disable reference = (answer, d')
  | _, _, _ => False

namespace Plant

variable {p : Plant} {link : Nat} {host : String}

theorem cases_modifyIed {f : Ied → Ied} (far : String) :
    (p.modifyIed far f).network.find? host = p.network.find? host ∨
      ∃ d, p.network.find? host = some d ∧
        (p.modifyIed far f).network.find? host = some (f d) := by
  rw [find?_modifyIed]
  split
  · next h =>
    subst h
    cases p.network.find? host with
    | none => exact .inl rfl
    | some d => exact .inr ⟨d, rfl, rfl⟩
  · exact .inl rfl

theorem cases_ask {α : Type} {f : Ied → Except Fault α × Ied} :
    (p.ask link f).2.network.find? host = p.network.find? host ∨
      ∃ d d', p.network.find? host = some d ∧
        (p.ask link f).2.network.find? host = some d' ∧ f d = ((p.ask link f).1, d') := by
  cases h : p.far link with
  | error e => exact .inl (by simp only [ask, h])
  | ok r =>
    obtain ⟨far, d⟩ := r
    rw [ask_of_far h, find?_modifyIed]
    split
    · next hhost =>
      subst hhost
      rw [find?_far h]
      exact .inr ⟨d, (f d).2, rfl, rfl, rfl⟩
    · exact .inl rfl

/-- What an action makes of the device at an address: nothing, or what one request does. -/
theorem cases_found (p : Plant) (a : Action) (host : String) :
    (p.perform a).2.network.find? host = p.network.find? host ∨
      ∃ d d', p.network.find? host = some d ∧ (p.perform a).2.network.find? host = some d' ∧
        d.Becomes a (p.perform a).1 d' := by
  cases a with
  | associate far port listener =>
    simp only [perform, associate]
    split
    · exact .inl rfl
    · refine (cases_modifyIed (p := p) far).imp id ?_
      rintro ⟨d, hd, hd'⟩
      exact ⟨d, _, hd, hd', p.links.length, rfl⟩
  | retrieve l =>
    simp only [perform, retrieve]
    split
    · exact .inl rfl
    · refine cases_ask.imp id ?_
      rintro ⟨d, d', hd, hd', hsame⟩
      exact ⟨d, d', hd, hd', (congrArg Prod.snd hsame).symm⟩
  | read l reference constraint => exact cases_ask
  | write l node => exact cases_ask
  | enable l reference =>
    simp only [perform, enable]
    split
    · exact .inl rfl
    · exact cases_ask
  | disable l reference =>
    simp only [perform, disable]
    split
    · exact .inl rfl
    · exact cases_ask
  | release l =>
    simp only [perform, release]
    split
    · exact .inl rfl
    · next far d _ =>
      refine (cases_modifyIed (p := p) (f := Ied.release) far).imp id ?_
      rintro ⟨d, hd, hd'⟩
      exact ⟨d, _, hd, hd', rfl⟩
  | hangUp l =>
    refine .inl ?_
    simp only [perform, hangUp]
    split <;> rfl
  | _ => exact .inl rfl

end Plant

/-! ## Report control blocks -/

/-- The report control blocks of a device. -/
def Ied.blocks (d : Ied) : List ControlBlock × List ControlBlock :=
  (d.model.buffered, d.model.unbuffered)

theorem Ied.blocks_write (d : Ied) (node : Node) : (d.write node).2.blocks = d.blocks := by
  unfold write
  split
  · rfl
  · split
    · rfl
    · exact Prod.ext (buffered_written _ _) (unbuffered_written _ _)

theorem Ied.model_read (d : Ied) (reference : String) (constraint : Constraint) :
    (d.read reference constraint).2.model = d.model := by
  unfold read
  split
  · rfl
  · split <;> rfl

/-- Holds of an action, with its answer, that switches no report on or off. -/
def Action.SparesBlocks : (a : Action) → a.Answer → Prop
  | .enable _ _, .ok _ => False
  | .disable _ _, .ok _ => False
  | _, _ => True

theorem Ied.Becomes.blocks {d d' : Ied} {a : Action} {answer : a.Answer} (h : d.Becomes a answer d')
    (ha : a.SparesBlocks answer) : d'.blocks = d.blocks := by
  cases a with
  | associate host port listener =>
    obtain ⟨link, rfl⟩ := h
    rfl
  | retrieve link | release link =>
    obtain rfl := h
    rfl
  | read link reference constraint =>
    obtain rfl := congrArg Prod.snd h
    rw [Ied.blocks, model_read]
    rfl
  | write link node =>
    obtain rfl := congrArg Prod.snd h
    exact d.blocks_write node
  | enable link reference =>
    cases answer with
    | ok block => exact ha.elim
    | error f =>
      have h : d.enable reference = (.error f, d') := h
      unfold enable at h
      split at h
      · cases h
        rfl
      · cases h
  | disable link reference =>
    cases answer with
    | ok u => exact ha.elim
    | error f =>
      have h : d.disable reference = (.error f, d') := h
      unfold disable at h
      split at h
      · cases h
        rfl
      · cases h
  | _ => exact h.elim

namespace Plant

variable {p q : Plant}

/-- The report control blocks of the device at an address. -/
def blocks? (p : Plant) (host : String) : Option (List ControlBlock × List ControlBlock) :=
  (p.network.find? host).map Ied.blocks

/-- The report control blocks change only when a report is switched on or off. -/
theorem Answers.blocks? {host : String} {a : Action} {answer : a.Answer} (h : p.Answers a answer q)
    (ha : a.SparesBlocks answer) : q.blocks? host = p.blocks? host := by
  rcases h with h | ⟨-, rfl⟩
  · obtain rfl : (p.perform a).1 = answer := congrArg Prod.fst h
    obtain rfl : (p.perform a).2 = q := congrArg Prod.snd h
    unfold Plant.blocks?
    rcases p.cases_found a host with hsame | ⟨d, d', hd, hd', hbecomes⟩
    · rw [hsame]
    · rw [hd, hd']
      exact congrArg some (hbecomes.blocks ha)
  · rfl

end Plant

end FieldGateway
