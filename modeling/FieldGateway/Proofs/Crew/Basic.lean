import FieldGateway.Proofs.Plant.Links

/-!
# Courses side by side

A crew is a plant and the courses that go on in it, in any order: at each step one of them asks its
next question or goes on after a wait, or something befalls the plant from outside. What is asked of
a device may be answered with a fault at any time, whatever the device would have answered. All that
happens is written down, with the plant before and after it.

Nothing is assumed of the order: a statement about all crews that can be reached holds of every
interleaving, at the grain of single actions.

* `Crew.Step`: one step.
* `Crew.play`, `Crew.play_induction`, `Crew.exists_play_done`: a run by a list of moves.
-/

namespace FieldGateway

/-- What befalls the plant from outside. -/
inductive Incident where
  /-- A report comes in over a link, and the clock is read for its members. -/
  | report (link : Nat) (readings : Clock) (report : Report)
  /-- Time goes by, and the clock is set. -/
  | clock (time : Nat) (now : Int64)
  /-- Results can be sent, or cannot. -/
  | blockage (blockage : Blockage)
  /-- Delays and faults lie between the gateway and the network. -/
  | interference (interference : Interference)
  /-- A device at an address changes in any way. -/
  | device (host : String) (ied : Ied)
  /-- The registry changes, or fails. -/
  | registry (registry : Registry) (findFaults listFaults : List Bool)

namespace Incident

def onCollector (link : Nat) : Incident → Collector → Collector
  | report l readings r => if l = link then (·.receive readings r) else id
  | _ => id

end Incident

namespace Plant

variable {p q : Plant} {link : Nat}

def meet (p : Plant) : Incident → Plant
  | .report link readings r => p.deliver link readings r
  | .clock time now => { p with time, now }
  | .blockage blockage => { p with blockage }
  | .interference interference => { p with interference }
  | .device host d => { p with network := p.network.insert host d }
  | .registry registry findFaults listFaults => { p with registry, findFaults, listFaults }

/-- The action can be answered in this way, which leads from the plant to `q`: it is carried out,
or a fault is told in its place and nothing happens. -/
def Answers (p : Plant) (a : Action) (answer : a.Answer) (q : Plant) : Prop :=
  p.perform a = (answer, q) ∨ (∃ f, a.answerFault? f = some answer) ∧ q = p

theorem answers_perform (a : Action) : p.Answers a (p.perform a).1 (p.perform a).2 := .inl rfl

/-! ## Incidents -/

theorem jobs_collect (l : Nat) (c : Collector) (readings : Clock) (r : Report) :
    (p.collect l c readings r).jobs = p.jobs := by
  unfold collect
  dsimp only
  split <;> rfl

theorem links_collect (l : Nat) (c : Collector) (readings : Clock) (r : Report) :
    (p.collect l c readings r).links =
      (p.modifyCollector l fun c => c.receive readings r).links := by
  unfold collect
  dsimp only
  split <;> rfl

theorem links_forward (reader : Reader) (readings : Clock) (r : Report) :
    (p.forward reader readings r).links = p.links := by
  unfold forward
  dsimp only
  split <;> rfl

theorem jobs_forward (reader : Reader) (readings : Clock) (r : Report) :
    (p.forward reader readings r).jobs = p.jobs := by
  unfold forward
  dsimp only
  split <;> rfl

theorem links_deliver (l : Nat) (readings : Clock) (r : Report) :
    (p.deliver l readings r).links = p.links ∨ (p.deliver l readings r).links =
      (p.modifyCollector l fun c => c.receive readings r).links := by
  unfold deliver
  split
  · exact .inr (links_collect _ _ _ _)
  · exact .inl (links_forward _ _ _)
  all_goals exact .inl rfl

theorem collector?_deliver (l : Nat) (readings : Clock) (r : Report) :
    (p.deliver l readings r).collector? link =
      if l = link then (p.collector? link).map (·.receive readings r)
      else p.collector? link := by
  cases h : p.collector? l with
  | some c =>
    rw [deliver, collector?_eq_some.1 h]
    simp only
    rw [collector?_congr (links_collect l c readings r), collector?_modifyCollector]
  | none =>
    have hl : (p.deliver l readings r).links = p.links := by
      unfold deliver
      split
      · next c hc => rw [collector?_eq_some.2 hc] at h; cases h
      · exact links_forward _ _ _
      all_goals rfl
    rw [collector?_congr hl]
    split
    · next he => rw [← he, h]; rfl
    · rfl

/-- The collector of a link after an incident. -/
theorem collector?_meet (e : Incident) :
    (p.meet e).collector? link = (p.collector? link).map (e.onCollector link) := by
  cases e with
  | report l readings r =>
    simp only [meet, Incident.onCollector, collector?_deliver]
    split <;> simp
  | _ => simp [meet, Incident.onCollector, collector?]

/-- No incident ends a session. -/
theorem isOpen_meet (e : Incident) : (p.meet e).isOpen link = p.isOpen link := by
  cases e with
  | report l readings r =>
    rcases links_deliver (p := p) l readings r with h | h
    · exact isOpen_congr h
    · exact (isOpen_congr h).trans (isOpen_modifyCollector l _)
  | _ => rfl

theorem length_meet (e : Incident) : (p.meet e).links.length = p.links.length := by
  cases e with
  | report l readings r =>
    rcases links_deliver (p := p) l readings r with h | h
    · exact congrArg List.length h
    · exact (congrArg List.length h).trans (length_modifyLink l _)
  | _ => rfl

theorem jobs_meet (e : Incident) : (p.meet e).jobs = p.jobs := by
  cases e with
  | report l readings r =>
    simp only [meet, deliver]
    split
    · exact jobs_collect _ _ _ _
    · exact jobs_forward _ _ _
    all_goals rfl
  | _ => rfl

/-! ## Actions that may be answered with faults -/

namespace Answers

variable {a : Action} {answer : a.Answer}

/-- An answer that is no fault is that of the action carried out. -/
theorem perform_eq (h : p.Answers a answer q) (hf : ∀ f, a.answerFault? f ≠ some answer) :
    p.perform a = (answer, q) := by
  rcases h with h | ⟨⟨f, h⟩, -⟩
  · exact h
  · exact absurd h (hf f)

theorem associate {host : String} {port : UInt16} {listener : Listener}
    (h : p.Answers (.associate host port listener) (.ok link) q) :
    link = p.links.length ∧ q.links = p.links ++ [⟨host, listener, false, false, false⟩] := by
  have h := h.perform_eq fun f hf => by cases hf
  have h1 : (p.associate host port listener false).1 = .ok link := congrArg Prod.fst h
  have h2 : (p.associate host port listener false).2 = q := congrArg Prod.snd h
  rw [← h2]
  exact associate_of_ok h1

theorem hangUp {l : Nat} {answer : Option EventBatch} (h : p.Answers (.hangUp l) answer q) :
    answer = (p.collector? l).bind fun c =>
      c.startDrain.1.map fun batch => ⟨c.deviceId, batch⟩ := by
  have h := h.perform_eq fun f hf => by cases hf
  have h1 : (p.hangUp l).1 = answer := congrArg Prod.fst h
  rw [← h1]
  cases hc : p.collector? l with
  | none => exact (hangUp_of_none hc).1
  | some c =>
    rw [hangUp_of_some hc]
    rfl

theorem collector? (h : p.Answers a answer q) (hl : link < p.links.length) :
    q.collector? link = (p.collector? link).map (a.onCollector link) := by
  rcases h with h | ⟨⟨f, h⟩, rfl⟩
  · simpa [h] using collector?_perform (p := p) a hl
  · cases a <;> simp_all [Action.answerFault?, Action.onCollector]

theorem isOpen (h : p.Answers a answer q) (hl : link < p.links.length) :
    q.isOpen link = (!a.retires link && p.isOpen link) := by
  rcases h with h | ⟨⟨f, h⟩, rfl⟩
  · simpa [h] using isOpen_perform (p := p) a hl
  · cases a <;> simp_all [Action.answerFault?, Action.retires]

theorem length (h : p.Answers a answer q) :
    q.links.length = p.links.length + a.linked answer := by
  rcases h with h | ⟨⟨f, h⟩, rfl⟩
  · simpa [h] using length_perform (p := p) a
  · cases a <;> simp_all [Action.answerFault?, Action.linked]
    subst h
    rfl

theorem jobs (h : p.Answers a answer q) : q.jobs = p.jobs ++ a.started := by
  rcases h with h | ⟨⟨f, h⟩, rfl⟩
  · simpa [h] using jobs_perform (p := p) a
  · cases a <;> simp_all [Action.answerFault?, Action.started]

end Answers

end Plant

/-! ## Crews -/

/-- Something that happened. -/
inductive Occurrence where
  | did (course : Nat) (action : Action) (answer : action.Answer)
  | met (incident : Incident)

/-- Something that happened, and the plant around it. -/
structure Entry where
  before : Plant
  event : Occurrence
  after : Plant

/-- What a course does until it ends, whatever becomes of the plant between its actions. -/
inductive Work.Runs {α : Type} (i : Nat) : Work α → List Entry → α → Prop
  | done (r : α) : Runs i (.done r) [] r
  | ask {a : Action} {next : a.Answer → Work α} {answer : a.Answer} {p q : Plant}
      {log : List Entry} {r : α} (ha : p.Answers a answer q) (h : Runs i (next answer) log r) :
      Runs i (.ask a next) (⟨p, .did i a answer, q⟩ :: log) r
  | wait {ms : Nat} {next : Work α} {log : List Entry} {r : α} (h : Runs i next log r) :
      Runs i (.wait ms next) log r

/-- Courses that go on side by side in a plant. -/
structure Crew (α : Type) where
  plant : Plant
  /-- What is left of each course. -/
  courses : List (Work α)
  log : List Entry

namespace Crew

variable {α : Type} {w w' : Crew α}

/-- One more course begins. -/
def join (w : Crew α) (c : Work α) : Crew α := { w with courses := w.courses ++ [c] }

/-- A course among others, one of which was replaced. -/
theorem of_set {cs : List (Work α)} {i j : Nat} {c k : Work α} (h : (cs.set i c)[j]? = some k) :
    j = i ∧ k = c ∨ j ≠ i ∧ cs[j]? = some k := by
  rw [List.getElem?_set] at h
  split at h
  · next hij =>
    split at h
    · exact .inl ⟨hij.symm, (Option.some.inj h).symm⟩
    · cases h
  · next hij => exact .inr ⟨Ne.symm hij, h⟩

/-- All courses have ended. -/
def AtRest (w : Crew α) : Prop := ∀ c ∈ w.courses, ∃ a, c = .done a

instance : (c : Work α) → Decidable (∃ a, c = .done a)
  | .done a => .isTrue ⟨a, rfl⟩
  | .ask _ _ => .isFalse nofun
  | .wait _ _ => .isFalse nofun

instance (w : Crew α) : Decidable w.AtRest :=
  inferInstanceAs (Decidable (∀ c ∈ w.courses, ∃ a, c = .done a))

theorem AtRest.exists_done {i : Nat} (h : w.AtRest) (hi : i < w.courses.length) :
    ∃ a, w.courses[i]? = some (.done a) := by
  obtain ⟨a, ha⟩ := h _ (List.getElem_mem hi)
  exact ⟨a, (List.getElem?_eq_getElem hi).trans (congrArg some ha)⟩

/-- One step: a course acts, a course has waited long enough, or something befalls the plant. -/
inductive Step : Crew α → Crew α → Prop
  | act {w : Crew α} {i : Nat} {a : Action} {next : a.Answer → Work α} {answer : a.Answer}
      {p : Plant} (hc : w.courses[i]? = some (.ask a next)) (ha : w.plant.Answers a answer p) :
      Step w ⟨p, w.courses.set i (next answer), w.log ++ [⟨w.plant, .did i a answer, p⟩]⟩
  | goOn {w : Crew α} {i ms : Nat} {next : Work α} (hc : w.courses[i]? = some (.wait ms next)) :
      Step w { w with courses := w.courses.set i next }
  | meet (w : Crew α) (e : Incident) :
      Step w { w with
        plant := w.plant.meet e
        log := w.log ++ [⟨w.plant, .met e, w.plant.meet e⟩] }

/-! ## Runs by lists of moves -/

/-- What is to happen next. -/
inductive Move where
  | go (course : Nat)
  /-- A course goes on, and is told a fault if it asks something of a device. -/
  | fail (course : Nat) (fault : Fault)
  | meet (incident : Incident)

/-- The crew after a move; one that is not possible changes nothing. -/
def move (w : Crew α) : Move → Crew α
  | .go i =>
    match w.courses[i]? with
    | some (.ask a next) =>
      ⟨(w.plant.perform a).2, w.courses.set i (next (w.plant.perform a).1),
        w.log ++ [⟨w.plant, .did i a (w.plant.perform a).1, (w.plant.perform a).2⟩]⟩
    | some (.wait _ next) => { w with courses := w.courses.set i next }
    | _ => w
  | .fail i f =>
    match w.courses[i]? with
    | some (.ask a next) =>
      match a.answerFault? f with
      | some answer =>
        ⟨w.plant, w.courses.set i (next answer), w.log ++ [⟨w.plant, .did i a answer, w.plant⟩]⟩
      | none => w
    | _ => w
  | .meet e => ⟨w.plant.meet e, w.courses, w.log ++ [⟨w.plant, .met e, w.plant.meet e⟩]⟩

theorem step_move (w : Crew α) (m : Move) : w.move m = w ∨ Step w (w.move m) := by
  cases m with
  | go i =>
    unfold move
    dsimp only
    split
    · next hc => exact .inr (.act hc (Plant.answers_perform _))
    · next hc => exact .inr (.goOn hc)
    · exact .inl rfl
  | fail i f =>
    unfold move
    dsimp only
    split
    · next a next hc =>
      split
      · next answer hf => exact .inr (.act hc (.inr ⟨⟨f, hf⟩, rfl⟩))
      · exact .inl rfl
    · exact .inl rfl
  | meet e => exact .inr (.meet w e)

/-- The crew after some moves. -/
def play (w : Crew α) (ms : List Move) : Crew α := ms.foldl move w

/-- A course can always be brought to its end, while the others stay where they are. -/
theorem exists_play_done {i : Nat} {c : Work α} (w : Crew α) (h : w.courses[i]? = some c) :
    ∃ ms a, (w.play ms).courses = w.courses.set i (.done a) := by
  have hi : i < w.courses.length := (List.getElem?_eq_some_iff.1 h).1
  induction c generalizing w with
  | done a =>
    obtain ⟨hlt, ha⟩ := List.getElem?_eq_some_iff.1 h
    have hsame : w.courses.set i (.done a) = w.courses := by rw [← ha, List.set_getElem_self]
    exact ⟨[], a, hsame.symm⟩
  | ask q next ih =>
    have hmove : (w.move (.go i)).courses = w.courses.set i (next (w.plant.perform q).1) := by
      simp only [move, h]
    obtain ⟨ms, a, hms⟩ := ih _ (w.move (.go i)) (by rw [hmove, List.getElem?_set_self hi])
      (by rw [hmove, List.length_set]; exact hi)
    refine ⟨.go i :: ms, a, ?_⟩
    rw [hmove, List.set_set] at hms
    exact hms
  | wait n next ih =>
    have hmove : (w.move (.go i)).courses = w.courses.set i next := by simp only [move, h]
    obtain ⟨ms, a, hms⟩ := ih (w.move (.go i)) (by rw [hmove, List.getElem?_set_self hi])
      (by rw [hmove, List.length_set]; exact hi)
    refine ⟨.go i :: ms, a, ?_⟩
    rw [hmove, List.set_set] at hms
    exact hms

/-- What every step keeps holds after any moves. -/
theorem play_induction {P : Crew α → Prop} (hP : ∀ {w w'}, P w → Step w w' → P w')
    (ms : List Move) (h : P w) : P (w.play ms) := by
  induction ms generalizing w with
  | nil => exact h
  | cons m ms ih =>
    refine ih ?_
    rcases w.step_move m with hm | hm
    · rwa [hm]
    · exact hP h hm

/-- What has happened remains written down. -/
theorem log_play (w : Crew α) (ms : List Move) : w.log <+: (w.play ms).log := by
  refine play_induction (P := fun w' => w.log <+: w'.log) (fun h hs => ?_) ms (List.prefix_refl _)
  cases hs with
  | act hc ha => exact h.trans (List.prefix_append _ _)
  | goOn hc => exact h
  | meet m => exact h.trans (List.prefix_append _ _)

end Crew

end FieldGateway
