import FieldGateway.Proofs.Plant.Alone

/-!
# What is left of nodes and links

The nodes of devices change only when one is written. What the gateway knows of devices, and which
device a link leads to, is changed by no action at all. So it is with courses of such actions.

* `Plant.plain?_perform`, `Plant.host?_perform`, `Plant.registry_perform`: one action.
* `Plant.cases_ask_device`: what is asked of the device that a link leads to.
* `Plant.plain?_runBy`, `Plant.host?_runBy`, `Plant.registry_runBy`: a course.
-/

namespace FieldGateway

/-- The model apart from the report control blocks. -/
def ServerModel.plain (m : ServerModel) : ServerModel := ⟨m.nodes, [], []⟩

namespace Ied

theorem plain_modifyBlock (m : ServerModel) (reference : String)
    (f : ControlBlock → ControlBlock) : (m.modifyBlock reference f).plain = m.plain := by
  unfold ServerModel.modifyBlock
  split <;> rfl

theorem plain_enable (d : Ied) (reference : String) :
    (d.enable reference).2.model.plain = d.model.plain := by
  unfold enable
  split
  · rfl
  · exact plain_modifyBlock _ _ _

theorem plain_disable (d : Ied) (reference : String) :
    (d.disable reference).2.model.plain = d.model.plain := by
  unfold disable
  split
  · rfl
  · exact plain_modifyBlock _ _ _

theorem plain_written (m : ServerModel) (node : Node) :
    (written m node).plain = written m.plain node := by
  unfold written reflect
  split <;> rfl

end Ied

/-- Holds of an action that writes no node. -/
def Action.SparesNodes : Action → Prop
  | .write _ _ => False
  | _ => True

theorem Ied.Becomes.plain {d d' : Ied} {a : Action} {answer : a.Answer} (h : d.Becomes a answer d')
    (ha : a.SparesNodes) : d'.model.plain = d.model.plain := by
  cases a with
  | associate host port listener =>
    obtain ⟨link, rfl⟩ := h
    rfl
  | retrieve link | release link =>
    obtain rfl := h
    rfl
  | read link reference constraint =>
    obtain rfl := congrArg Prod.snd h
    rw [model_read]
  | write link node => exact ha.elim
  | enable link reference =>
    obtain rfl := congrArg Prod.snd h
    exact d.plain_enable reference
  | disable link reference =>
    obtain rfl := congrArg Prod.snd h
    exact d.plain_disable reference
  | _ => exact h.elim

namespace Plant

variable {p q : Plant} {link : Nat} {host : String}

/-! ## One action -/

/-- The nodes of the device at an address. -/
def plain? (p : Plant) (host : String) : Option ServerModel :=
  (p.network.find? host).map (·.model.plain)

/-- The address that a link leads to. -/
def host? (p : Plant) (link : Nat) : Option String := p.links[link]?.map Link.host

theorem plain?_perform {a : Action} (ha : a.SparesNodes) (host : String) :
    (p.perform a).2.plain? host = p.plain? host := by
  unfold plain?
  rcases p.cases_found a host with h | ⟨d, d', hd, hd', hbecomes⟩
  · rw [h]
  · rw [hd, hd']
    exact congrArg some (hbecomes.plain ha)

theorem host?_modifyLink {f : Link → Link} (hf : ∀ l, (f l).host = l.host) (k : Nat) :
    (p.modifyLink k f).host? link = p.host? link := by
  simp only [host?, modifyLink, List.getElem?_modify]
  cases p.links[link]? with
  | none => rfl
  | some l =>
    split
    · exact congrArg some (hf l)
    · rfl

theorem host?_modifyCollector (k : Nat) (f : Collector → Collector) :
    (p.modifyCollector k f).host? link = p.host? link :=
  host?_modifyLink (fun l => by obtain ⟨_, listener, _, _, _⟩ := l; cases listener <;> rfl) k

theorem host?_of_far {d : Ied} (h : p.far link = .ok (host, d)) : p.host? link = some host := by
  unfold far at h
  unfold host?
  split at h
  · cases h
  · next l hl =>
    split at h
    · cases h
    · split at h
      · cases h
      · cases h
        rw [hl]
        rfl

theorem host?_congr (h : q.links = p.links) : q.host? link = p.host? link := by
  unfold host?
  rw [h]

theorem host?_hangUp (l : Nat) : (p.hangUp l).2.host? link = p.host? link := by
  cases h : p.collector? l with
  | none => exact host?_congr (hangUp_of_none h).2
  | some c => rw [hangUp_of_some h, host?_modifyCollector]

theorem host?_release (l : Nat) : (p.release l).host? link = p.host? link := by
  unfold release
  split
  · rfl
  · exact host?_modifyLink (f := ({ · with released := true })) (fun _ => rfl) l

/-- A link leads where it led before. -/
theorem host?_perform (a : Action) (h : p.host? link = some host) :
    (p.perform a).2.host? link = some host := by
  cases a with
  | activate l | setBoundary l n | settle l => exact (host?_modifyCollector l _).trans h
  | retire l =>
    exact (host?_modifyLink (f := ({ · with retired := true })) (fun _ => rfl) l).trans h
  | hangUp l => exact (host?_hangUp l).trans h
  | release l => exact (host?_release l).trans h
  | associate far port listener =>
    obtain ⟨fresh, hfresh⟩ := links_associate (p := p) far port listener false
    have hlt : link < p.links.length := by
      obtain ⟨l, hl, -⟩ := Option.map_eq_some_iff.1 h
      exact (List.getElem?_eq_some_iff.1 hl).1
    simp only [perform, host?, hfresh, List.getElem?_append_left hlt]
    exact h
  | _ => exact (host?_congr (by simp [perform, findDevice, listDevices, sendEvents, sendResponse,
      count])).trans h

/-- The device that a link leads to, whether or not the association stands. -/
def device? (p : Plant) (link : Nat) : Option (String × Ied) :=
  (p.host? link).bind fun host => (p.network.find? host).map (host, ·)

theorem device?_eq_some {d : Ied} : p.device? link = some (host, d) ↔
    p.host? link = some host ∧ p.network.find? host = some d := by
  simp [device?, Option.bind_eq_some_iff]

/-- A request over a link is refused on the way, or reaches the device of the link. -/
theorem cases_ask_device {α : Type} {d : Ied} {f : Ied → Except Fault α × Ied}
    {answer : Except Fault α}
    (h : p.ask link f = (answer, q)) (hd : p.device? link = some (host, d)) :
    (∃ e, answer = .error e ∧ q = p) ∨
      ∃ d', f d = (answer, d') ∧ q.device? link = some (host, d') := by
  obtain ⟨hhost, hfound⟩ := device?_eq_some.1 hd
  cases hfar : p.far link with
  | error e =>
    simp only [ask, hfar] at h
    cases h
    exact .inl ⟨e, rfl, rfl⟩
  | ok target =>
    obtain ⟨host', d₀⟩ := target
    obtain rfl : host' = host := Option.some.inj ((host?_of_far hfar).symm.trans hhost)
    obtain rfl : d₀ = d := Option.some.inj ((find?_far hfar).symm.trans hfound)
    rw [ask_of_far hfar] at h
    cases h
    refine .inr ⟨(f d₀).2, rfl, device?_eq_some.2 ⟨hhost, ?_⟩⟩
    rw [find?_modifyIed, if_pos rfl, hfound]
    rfl

theorem registry_perform (a : Action) : (p.perform a).2.registry = p.registry := by
  have hask : ∀ {α : Type} {l : Nat} {f : Ied → Except Fault α × Ied},
      (p.ask l f).2.registry = p.registry := by
    intro α l f
    unfold ask
    split <;> rfl
  cases a with
  | associate far port listener =>
    simp only [perform, associate]
    split <;> rfl
  | retrieve l =>
    simp only [perform, retrieve]
    split
    · rfl
    · exact hask
  | read l reference constraint => exact hask
  | write l node => exact hask
  | enable l reference =>
    simp only [perform, enable]
    split
    · rfl
    · exact hask
  | disable l reference =>
    simp only [perform, disable]
    split
    · rfl
    · exact hask
  | release l =>
    simp only [perform, release]
    split <;> rfl
  | hangUp l =>
    simp only [perform, hangUp]
    split <;> rfl
  | _ => rfl

/-! ## Courses -/

variable {α : Type} {clock : Nat → Int64}

theorem host?_runBy (w : Work α) (h : p.host? link = some host) :
    (p.runBy clock w).2.host? link = some host := by
  induction w generalizing p with
  | done a => exact h
  | ask a next ih => exact ih _ (host?_perform (p := p.showing clock) a h)
  | wait ms rest ih => exact ih (p := { p with time := p.time + ms }) h

theorem registry_runBy (w : Work α) (p : Plant) :
    (p.runBy clock w).2.registry = p.registry := by
  induction w generalizing p with
  | done a => rfl
  | ask a next ih => exact (ih _ _).trans (registry_perform (p := p.showing clock) a)
  | wait ms rest ih => exact ih { p with time := p.time + ms }

theorem plain?_runBy {w : Work α} (hw : w.Within Action.SparesNodes) (p : Plant)
    (host : String) : (p.runBy clock w).2.plain? host = p.plain? host := by
  induction w generalizing p with
  | done a => rfl
  | ask a next ih =>
    obtain ⟨ha, hnext⟩ := Course.within_ask.1 hw
    exact (ih _ (hnext _) _).trans (plain?_perform (p := p.showing clock) ha host)
  | wait ms rest ih => exact ih (Course.within_wait.1 hw) { p with time := p.time + ms }

end Plant

end FieldGateway
