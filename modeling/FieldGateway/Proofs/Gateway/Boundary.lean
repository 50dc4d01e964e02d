import FieldGateway.Proofs.Gateway.Ending

/-!
# Reports from before the boundary

A report is stale if its number is below the one that the device told when the report was enabled.
The collector is activated before that, and told the number only afterwards: a stale report that
comes in between is not known as such, and its events are sent with the others.

* `Heard`: what a collector has gathered, by how the session stands; `Tale.heard` derives it for
  every tale.
* `Handles.batch_fresh_iff`: just when the events that are sent are free of stale ones.
-/

namespace FieldGateway

open Standing
open Collector (inOrder)

/-! ## What the log tells of reports -/

namespace Entry

/-- The events that a report carries to the collector of a link, taken or not. -/
def carried (link : Nat) (e : Entry) : List Notification :=
  match e.event with
  | .met (.report l clock r) =>
    match e.before.collector? link with
    | some c => if l = link then c.events clock r else []
    | none => []
  | _ => []

/-- Whether a report came in over a link with a number below `n`. -/
def isStale (link : Nat) (n : UInt32) (e : Entry) : Bool :=
  match e.event with
  | .met (.report l _ r) => l == link && r.sequence.any (· < n)
  | _ => false

/-- A course activated the collector of a link. -/
def IsActivation (link : Nat) (e : Entry) : Prop := e.Did fun a _ => a = .activate link

/-- A course told the collector of a link a boundary. -/
def IsBoundary (link : Nat) (n : UInt32) (e : Entry) : Prop :=
  e.Did fun a _ => a = .setBoundary link n

end Entry

/-- The number that a device tells when a report is enabled. -/
def Action.sequence? : (a : Action) → a.Answer → Option UInt32
  | .enable _ _, .ok b => some b.sequence
  | _, _ => none

/-- The numbers that devices told when reports were enabled. -/
def sequences (log : List Entry) : List UInt32 := log.filterMap (Entry.did? Action.sequence?)

/-! ## Entries that change little -/

/-- An entry that does not concern the collector of a link but for the events that a report may
add to it. -/
structure Plain (link : Nat) (e : Entry) : Prop where
  unsent : e.handed = []
  grows : ∀ c', e.after.collector? link = some c' → ∃ c, e.before.collector? link = some c ∧
    c'.phase = c.phase ∧ c'.boundary = c.boundary ∧ c'.buffer = c.buffer ++ e.appended link
  /-- A collector that is not active takes nothing. -/
  closed : (∀ c, e.before.collector? link = some c → c.phase ≠ .active) → e.appended link = []
  /-- An active collector without a boundary takes everything. -/
  eager : (∀ c, e.before.collector? link = some c → c.phase = .active ∧ c.boundary = none) →
    e.appended link = e.carried link
  /-- One with a boundary leaves out what is stale. -/
  minded : ∀ n, (∀ c, e.before.collector? link = some c → c.boundary = some n) →
    e.isStale link n → e.appended link = []

/-- Holds of actions that no collector takes part in. -/
def Action.IsPlain : Action → Prop
  | activate _ | setBoundary _ _ | hangUp _ | settle _ | sendEvents _ => False
  | _ => True

theorem Action.isPlain_of_isQuiet {a : Action} (h : a.isQuiet) : a.IsPlain := by
  cases a <;> trivial

theorem Action.IsPlain.unsent {a : Action} {answer : a.Answer} (h : a.IsPlain) (i : Nat)
    (p q : Plant) : Entry.handed ⟨p, .did i a answer, q⟩ = [] := by
  cases a <;> first | rfl | exact h.elim

namespace Plain

variable {link i : Nat} {p q : Plant}

theorem of_act {a : Action} {answer : a.Answer} (ha : p.Answers a answer q)
    (hl : link < p.links.length) (hp : a.IsPlain) : Plain link ⟨p, .did i a answer, q⟩ := by
  have hc : q.collector? link = p.collector? link := by
    have hid : a.onCollector link = id := by cases a <;> first | rfl | exact hp.elim
    rw [ha.collector? hl, hid, Option.map_id, id]
  refine ⟨hp.unsent i p q, fun c' h' => ⟨c', ?_, rfl, rfl,
    (List.append_nil _).symm⟩, fun _ => rfl, fun _ => rfl, fun _ _ _ => rfl⟩
  rw [← hc]
  exact h'

theorem of_meet (m : Incident) : Plain link ⟨p, .met m, p.meet m⟩ := by
  cases m with
  | report l clock r =>
    refine ⟨rfl, fun c' h' => ?_, fun h => ?_, fun h => ?_, fun n h hs => ?_⟩
    · -- The report is taken, or the collector stays as it is.
      rw [Plant.collector?_meet] at h'
      obtain ⟨c, hc, rfl⟩ := Option.map_eq_some_iff.1 h'
      refine ⟨c, hc, ?_⟩
      simp only [Incident.onCollector, Entry.appended, hc]
      by_cases hl : l = link
      · by_cases hv : c.verdict r = .taken <;> simp [hl, hv, Collector.receive]
      · simp [hl]
    · cases hc : p.collector? link with
      | none => simp [Entry.appended, hc]
      | some c =>
        have hv : c.verdict r ≠ .taken := fun hv => h c hc (Collector.phase_of_taken hv)
        simp [Entry.appended, hc, hv]
    · cases hc : p.collector? link with
      | none => simp [Entry.appended, Entry.carried, hc]
      | some c =>
        obtain ⟨hp, hb⟩ := h c hc
        by_cases hv : c.verdict r = .taken
        · simp [Entry.appended, Entry.carried, hc, hv]
        · have hfresh : c.isStale r = false := by simp [Collector.isStale, hb]
          simp [Entry.appended, Entry.carried, hc, hv,
            Collector.events_of_not_taken hp hv hfresh clock]
    · obtain ⟨rfl, hany⟩ : l = link ∧ r.sequence.any (· < n) = true := by
        simpa [Entry.isStale] using hs
      obtain ⟨k, hk, hlt⟩ := (Option.any_eq_true _ _).1 hany
      have hlt : k < n := of_decide_eq_true hlt
      cases hc : p.collector? l with
      | none => simp [Entry.appended, hc]
      | some c =>
        have hst : c.isStale r = true := by simp [Collector.isStale, h c hc, hk, hlt]
        have hv : c.verdict r ≠ .taken := fun hv => by
          rw [Collector.isStale_of_taken hv] at hst
          cases hst
        simp [Entry.appended, hc, hv]
  | _ =>
    refine ⟨rfl, fun c' h' => ?_, fun _ => rfl, fun _ => rfl, fun _ _ _ => rfl⟩
    rw [Plant.collector?_meet] at h'
    obtain ⟨c, hc, rfl⟩ := Option.map_eq_some_iff.1 h'
    exact ⟨c, hc, rfl, rfl, (List.append_nil _).symm⟩

end Plain

/-! ## What a collector has gathered -/

/-- The collector of a link has taken nothing, and nothing was sent. -/
structure Silent (link : Nat) (log : List Entry) : Prop where
  unsent : handed log = []
  appended : appended link log = []

/-- It is idle, as it was at first. -/
structure Deaf (link : Nat) (log : List Entry) (p : Plant) : Prop where
  silent : Silent link log
  collector : ∀ c, p.collector? link = some c →
    c.phase = .idle ∧ c.buffer = [] ∧ c.boundary = none

/-- It was activated at some time, and has taken all reports since. -/
def Since (link : Nat) (log : List Entry) : Prop :=
  ∃ before e during, log = before ++ e :: during ∧ e.IsActivation link ∧
    (∀ d ∈ before, d.appended link = []) ∧ ∀ d ∈ during, d.appended link = d.carried link

/-- It was activated at some time, has taken all reports until it was told a boundary, and none from
before the boundary since. -/
def Window (link : Nat) (n : UInt32) (log : List Entry) : Prop :=
  ∃ before e during b after, log = before ++ e :: during ++ b :: after ∧ e.IsActivation link ∧
    b.IsBoundary link n ∧ (∀ d ∈ before, d.appended link = []) ∧
    (∀ d ∈ during, d.appended link = d.carried link) ∧
    ∀ d ∈ after, d.isStale link n → d.appended link = []

/-- It takes all reports. -/
structure Eager (link : Nat) (log : List Entry) (p : Plant) : Prop where
  since : Since link log
  unsent : handed log = []
  collector : ∀ c, p.collector? link = some c →
    c.phase = .active ∧ c.boundary = none ∧ c.buffer = appended link log

/-- It takes the reports from the boundary on. -/
structure Minded (link : Nat) (n : UInt32) (log : List Entry) (p : Plant) : Prop where
  window : Window link n log
  unsent : handed log = []
  collector : ∀ c, p.collector? link = some c →
    c.phase = .active ∧ c.boundary = some n ∧ c.buffer = appended link log

/-- It has given up all that it had taken, to be sent. -/
structure Emptied (link : Nat) (n : UInt32) (h : Option Held) (log : List Entry) (p : Plant) :
    Prop where
  window : Window link n log
  collector : ∀ c, p.collector? link = some c → c.phase ≠ .active
  sent : ∀ b ∈ handed log ++ Held.pending h, b.notifications = inOrder (appended link log)

/-- It was never active, and has given up nothing. -/
structure Muted (link : Nat) (h : Option Held) (log : List Entry) (p : Plant) : Prop where
  silent : Silent link log
  collector : ∀ c, p.collector? link = some c → c.phase ≠ .active
  pending : Held.pending h = []

section
variable {link : Nat} {n : UInt32} {log : List Entry} {e : Entry} {held : Option Held}

theorem Silent.snoc (h : Silent link log) (hu : e.handed = []) (ha : e.appended link = []) :
    Silent link (log ++ [e]) := by
  constructor
  · rw [handed_concat, h.unsent, hu]
    rfl
  · rw [appended_concat, h.appended, ha]
    rfl

theorem Deaf.plain (h : Deaf link log e.before) (he : Plain link e) :
    Deaf link (log ++ [e]) e.after := by
  have ha : e.appended link = [] := he.closed fun c hc => by rw [(h.collector c hc).1]; simp
  refine ⟨h.silent.snoc he.unsent ha, fun c' hc' => ?_⟩
  obtain ⟨c, hc, hp, hb, hbuf⟩ := he.grows c' hc'
  obtain ⟨hp', hbuf', hb'⟩ := h.collector c hc
  rw [hp, hb, hbuf, ha, hbuf']
  exact ⟨hp', rfl, hb'⟩

theorem Since.snoc (h : Since link log) (he : e.appended link = e.carried link) :
    Since link (log ++ [e]) := by
  obtain ⟨before, a, during, rfl, ha, hb, hd⟩ := h
  refine ⟨before, a, during ++ [e], by simp, ha, hb, fun d hm => ?_⟩
  rcases List.mem_append.1 hm with hm | hm
  · exact hd d hm
  · rwa [List.mem_singleton.1 hm]

theorem Window.snoc (h : Window link n log) (he : e.isStale link n → e.appended link = []) :
    Window link n (log ++ [e]) := by
  obtain ⟨before, a, during, b, after, rfl, ha, hb, hbefore, hduring, hafter⟩ := h
  refine ⟨before, a, during, b, after ++ [e], by simp, ha, hb, hbefore, hduring, fun d hm => ?_⟩
  rcases List.mem_append.1 hm with hm | hm
  · exact hafter d hm
  · rwa [List.mem_singleton.1 hm]

theorem Eager.plain (h : Eager link log e.before) (he : Plain link e) :
    Eager link (log ++ [e]) e.after := by
  have ha : e.appended link = e.carried link :=
    he.eager fun c hc => ⟨(h.collector c hc).1, (h.collector c hc).2.1⟩
  refine ⟨h.since.snoc ha, by rw [handed_concat, h.unsent, he.unsent]; rfl, fun c' hc' => ?_⟩
  obtain ⟨c, hc, hp, hb, hbuf⟩ := he.grows c' hc'
  obtain ⟨hp', hb', hbuf'⟩ := h.collector c hc
  rw [hp, hb, hbuf, hbuf', appended_concat]
  exact ⟨hp', hb', rfl⟩

theorem Minded.plain (h : Minded link n log e.before) (he : Plain link e) :
    Minded link n (log ++ [e]) e.after := by
  refine ⟨h.window.snoc (he.minded n fun c hc => (h.collector c hc).2.1),
    by rw [handed_concat, h.unsent, he.unsent]; rfl, fun c' hc' => ?_⟩
  obtain ⟨c, hc, hp, hb, hbuf⟩ := he.grows c' hc'
  obtain ⟨hp', hb', hbuf'⟩ := h.collector c hc
  rw [hp, hb, hbuf, hbuf', appended_concat]
  exact ⟨hp', hb', rfl⟩

theorem Muted.plain (h : Muted link held log e.before) (he : Plain link e) :
    Muted link held (log ++ [e]) e.after := by
  refine ⟨h.silent.snoc he.unsent (he.closed h.collector), fun c' hc' => ?_, h.pending⟩
  obtain ⟨c, hc, hp, -, -⟩ := he.grows c' hc'
  rw [hp]
  exact h.collector c hc

theorem Emptied.plain (h : Emptied link n held log e.before)
    (he : Plain link e) : Emptied link n held (log ++ [e]) e.after := by
  have ha : e.appended link = [] := he.closed h.collector
  refine ⟨h.window.snoc fun _ => ha, fun c' hc' => ?_, ?_⟩
  · obtain ⟨c, hc, hp, -, -⟩ := he.grows c' hc'
    rw [hp]
    exact h.collector c hc
  · rw [handed_concat, he.unsent, List.append_nil, appended_concat, ha, List.append_nil]
    exact h.sent

end

/-- What the collector of a link has gathered, by how the session over it stands. -/
def Heard (link : Nat) (log : List Entry) (p : Plant) : Standing → Prop
  | unopened => Silent link log ∧ sequences log = []
  | linked _ | lost _ | abandoned _ | opened _ => Deaf link log p ∧ sequences log = []
  | reporting _ => Deaf link log p
  | listening _ => Eager link log p ∧ sequences log = []
  | enabled _ n => Eager link log p ∧ sequences log = [n]
  | bounded _ n => Minded link n log p ∧ sequences log = [n]
  | scheduled _ _ _ | due _ | parting true _ .retired | parting true _ .released =>
    Deaf link log p ∨ ∃ n, Minded link n log p ∧ sequences log = [n]
  | parting true _ (.told held) =>
    Muted link held log p ∨ ∃ n, Emptied link n held log p ∧ sequences log = [n]
  | parting false _ .retired | parting false _ .released => Deaf link log p ∨ sequences log = []
  | parting false _ (.told held) => Muted link held log p ∨ sequences log = []

theorem sequences_concat (log : List Entry) (e : Entry) :
    sequences (log ++ [e]) = sequences log ++ (e.did? Action.sequence?).toList := by
  rw [sequences, List.filterMap_append, ← sequences]
  cases h : e.did? Action.sequence? <;> simp [h]

theorem Heard.plain {link : Nat} {log : List Entry} {e : Entry} {x : Standing}
    (h : Heard link log e.before x) (he : Plain link e)
    (hs : e.did? Action.sequence? = none)
    (hx : x = unopened → e.appended link = []) : Heard link (log ++ [e]) e.after x := by
  have hseq : sequences (log ++ [e]) = sequences log := by
    rw [sequences_concat, hs]
    exact List.append_nil _
  cases x with
  | unopened => exact ⟨h.1.snoc he.unsent (hx rfl), hseq.trans h.2⟩
  | linked _ | lost _ | abandoned _ | opened _ => exact ⟨h.1.plain he, hseq.trans h.2⟩
  | reporting _ => exact Deaf.plain h he
  | listening _ | enabled _ _ => exact ⟨h.1.plain he, hseq.trans h.2⟩
  | bounded _ _ => exact ⟨h.1.plain he, hseq.trans h.2⟩
  | scheduled _ _ _ | due _ =>
    rcases h with h | ⟨n, hm, hn⟩
    · exact .inl (h.plain he)
    · exact .inr ⟨n, hm.plain he, hseq.trans hn⟩
  | parting byJob _ part =>
    match byJob, part with
    | false, .retired | false, .released | false, .told _ =>
      rcases h with h | hn
      · exact .inl (h.plain he)
      · exact .inr (hseq.trans hn)
    | true, .retired | true, .released | true, .told _ =>
      rcases h with h | ⟨n, hm, hn⟩
      · exact .inl (h.plain he)
      · exact .inr ⟨n, hm.plain he, hseq.trans hn⟩

/-! ## Steps -/

section
variable {link i : Nat} {log : List Entry} {p q : Plant}

theorem Deaf.activate (h : Deaf link log p) (hl : link < p.links.length)
    (ha : p.Answers (.activate link) () q) :
    Eager link (log ++ [⟨p, .did i (.activate link) (), q⟩]) q := by
  have hbefore : ∀ d ∈ log, d.appended link = [] :=
    List.flatMap_eq_nil_iff.1 h.silent.appended
  refine ⟨⟨log, _, [], rfl, rfl, hbefore, by simp⟩,
    by rw [handed_concat, h.silent.unsent]; rfl, fun c' hc' => ?_⟩
  rw [ha.collector? hl] at hc'
  obtain ⟨c, hc, rfl⟩ := Option.map_eq_some_iff.1 hc'
  obtain ⟨hp, hbuf, hb⟩ := h.collector c hc
  rw [appended_concat, h.silent.appended]
  simp [Action.onCollector, Collector.activate, hp, hbuf, hb, Entry.appended]

theorem Eager.setBoundary {n : UInt32} (h : Eager link log p) (hl : link < p.links.length)
    (ha : p.Answers (.setBoundary link n) () q) :
    Minded link n (log ++ [⟨p, .did i (.setBoundary link n) (), q⟩]) q := by
  obtain ⟨before, a, during, rfl, hact, hbefore, hduring⟩ := h.since
  refine ⟨⟨before, a, during, _, [], rfl, hact, rfl, hbefore, hduring, by simp⟩,
    by rw [handed_concat, h.unsent]; rfl, fun c' hc' => ?_⟩
  rw [ha.collector? hl] at hc'
  obtain ⟨c, hc, rfl⟩ := Option.map_eq_some_iff.1 hc'
  obtain ⟨hp, hb, hbuf⟩ := h.collector c hc
  rw [appended_concat]
  simp [Action.onCollector, Collector.setBoundary, hp, hbuf, Entry.appended]

/-- Whoever was told to give up its events takes no more. -/
theorem Plant.Answers.phase_hangUp {answer : Option EventBatch}
    (ha : p.Answers (.hangUp link) answer q) (hl : link < p.links.length) :
    ∀ c', q.collector? link = some c' → c'.phase ≠ .active := by
  intro c' hc'
  rw [ha.collector? hl] at hc'
  obtain ⟨c, hc, rfl⟩ := Option.map_eq_some_iff.1 hc'
  simp [Action.onCollector, c.startDrain_phase]

/-- A collector that was idle has nothing to give up. -/
theorem Deaf.hangUp {answer : Option EventBatch} (h : Deaf link log p)
    (hl : link < p.links.length) (ha : p.Answers (.hangUp link) answer q) :
    Muted link (answer.map .batch) (log ++ [⟨p, .did i (.hangUp link) answer, q⟩]) q := by
  refine ⟨h.silent.snoc rfl rfl, ha.phase_hangUp hl, ?_⟩
  rw [ha.hangUp]
  cases hc : p.collector? link with
  | none => rfl
  | some c =>
    obtain ⟨hp, hbuf, -⟩ := h.collector c hc
    have hempty : inOrder c.buffer = [] := Collector.inOrder_eq_nil.2 hbuf
    simp [Collector.startDrain_of_ne (show c.phase ≠ .draining by simp [hp]), Held.pending, hempty]

/-- The collector gives up what it has taken, in order. -/
theorem Minded.hangUp {n : UInt32} {answer : Option EventBatch} (h : Minded link n log p)
    (hl : link < p.links.length) (ha : p.Answers (.hangUp link) answer q) :
    Emptied link n (answer.map .batch) (log ++ [⟨p, .did i (.hangUp link) answer, q⟩]) q := by
  refine ⟨h.window.snoc fun _ => rfl, ha.phase_hangUp hl, fun b hb => ?_⟩
  rw [handed_concat, h.unsent, ha.hangUp] at hb
  rw [appended_concat]
  cases hc : p.collector? link with
  | none =>
    rw [hc] at hb
    cases hb
  | some c =>
    obtain ⟨hp, -, hbuf⟩ := h.collector c hc
    rw [hc, Option.bind_some, Collector.startDrain_of_ne (by simp [hp])] at hb
    obtain rfl : b = ⟨c.deviceId, inOrder c.buffer⟩ := Held.eq_of_mem_pending hb
    rw [hbuf]
    exact congrArg inOrder (List.append_nil _).symm

section
variable {held : Held} {held' : Option Held} {a : Action} {answer : a.Answer}

/-- What is sent was in hand before. -/
theorem handed_drain (hd : Held.next link (some held) a answer = some held') :
    Entry.handed ⟨p, .did i a answer, q⟩ ++ Held.pending held' = Held.pending (some held) := by
  rcases Held.next_cases hd with ⟨b, rfl, hb, rfl, rfl⟩ | ⟨b, rfl, hb, rfl, rfl⟩ |
    ⟨k, m, rfl, rfl, rfl⟩ | ⟨rfl, rfl, rfl⟩
  · simp [Entry.handed, Held.pending, hb]
  · simp [Entry.handed, Held.pending, hb]
  · rfl
  · rfl

theorem phase_drain (hd : Held.next link (some held) a answer = some held')
    (ha : p.Answers a answer q) (hl : link < p.links.length)
    (h : ∀ c, p.collector? link = some c → c.phase ≠ .active) :
    ∀ c', q.collector? link = some c' → c'.phase ≠ .active := by
  intro c' hc'
  rw [ha.collector? hl] at hc'
  obtain ⟨c, hc, rfl⟩ := Option.map_eq_some_iff.1 hc'
  rcases Step.drain_cases hd with ⟨b, rfl⟩ | ⟨k, m, rfl⟩ | rfl
  · exact h c hc
  · exact h c hc
  · simp [Action.onCollector, Collector.finishDrain]

theorem Muted.drain (h : Muted link (some held) log p) (hl : link < p.links.length)
    (ha : p.Answers a answer q) (hd : Held.next link (some held) a answer = some held') :
    Muted link held' (log ++ [⟨p, .did i a answer, q⟩]) q := by
  have hsent := handed_drain (i := i) (p := p) (q := q) hd
  rw [h.pending, List.append_eq_nil_iff] at hsent
  exact ⟨h.silent.snoc hsent.1 rfl, phase_drain hd ha hl h.collector, hsent.2⟩

theorem Emptied.drain {n : UInt32} (h : Emptied link n (some held) log p)
    (hl : link < p.links.length) (ha : p.Answers a answer q)
    (hd : Held.next link (some held) a answer = some held') :
    Emptied link n held' (log ++ [⟨p, .did i a answer, q⟩]) q := by
  refine ⟨h.window.snoc fun _ => rfl, phase_drain hd ha hl h.collector, ?_⟩
  rw [handed_concat, List.append_assoc, handed_drain hd, appended_concat]
  simpa [Entry.appended] using h.sent

end

end

theorem Action.sequence?_of_isQuiet {a : Action} (h : a.isQuiet) (answer : a.Answer) :
    a.sequence? answer = none := by
  cases a <;> first | rfl | exact h.elim

/-- Every action keeps account of what was gathered. -/
theorem Heard.act {limit link i : Nat} {log : List Entry} {p q : Plant} {x y : Standing}
    {a : Action} {answer : a.Answer} (h : Heard link log p x) (hx : x.link? = some link)
    (hl : link < p.links.length) (ha : p.Answers a answer q) (hs : Step limit x a answer y) :
    Heard link (log ++ [⟨p, .did i a answer, q⟩]) q y := by
  have hopen : x = unopened → Entry.appended link ⟨p, .did i a answer, q⟩ = [] := fun _ => rfl
  have plain : a.IsPlain → Plain link ⟨p, .did i a answer, q⟩ := Plain.of_act ha hl
  have hseq := sequences_concat log ⟨p, .did i a answer, q⟩
  cases hs with
  | quiet hq =>
    exact h.plain (plain (Action.isPlain_of_isQuiet hq)) (Action.sequence?_of_isQuiet hq answer)
      hopen
  | unreached | link => cases hx
  | inTime | late | model | noModel | giveUp | «open» | clear | partByJob =>
    have hnext := h.plain (plain trivial) rfl hopen
    exact hnext
  | unenabled => exact h.plain (plain trivial) rfl hopen
  | activate =>
    obtain rfl := Option.some.inj hx
    exact ⟨h.1.activate hl ha, by rw [hseq, h.2]; rfl⟩
  | report => exact h.1.plain (plain trivial)
  | another => exact Deaf.plain h (plain trivial)
  | enable => exact ⟨h.1.plain (plain trivial), by rw [hseq, h.2]; rfl⟩
  | bound =>
    obtain rfl := Option.some.inj hx
    exact ⟨h.1.setBoundary hl ha, by rw [hseq, h.2]; rfl⟩
  | schedule hw =>
    rcases hw.cases with rfl | rfl | ⟨n, rfl⟩
    · exact .inl (h.1.plain (plain trivial))
    · exact .inl (Deaf.plain h (plain trivial))
    · exact .inr ⟨n, h.1.plain (plain trivial), by rw [hseq, h.2]; rfl⟩
  | part hw =>
    rcases hw.cases with rfl | rfl
    · exact .inl (h.1.plain (plain trivial))
    · exact .inr (by rw [hseq, h.2]; rfl)
  | @release byJob =>
    have hnext := h.plain (plain trivial) rfl hopen
    cases byJob <;> exact hnext
  | @tell byJob l told =>
    obtain rfl := Option.some.inj hx
    cases byJob with
    | true =>
      rcases h with h | ⟨n, hm, hn⟩
      · exact .inl (h.hangUp hl ha)
      · exact .inr ⟨n, hm.hangUp hl ha, by rw [hseq, hn]; rfl⟩
    | false =>
      rcases h with h | hn
      · exact .inl (h.hangUp hl ha)
      · exact .inr (by rw [hseq, hn]; rfl)
  | @drain byJob l held held' _ _ hd =>
    obtain rfl := Option.some.inj hx
    have hnone : a.sequence? answer = none := by
      rcases Step.drain_cases hd with ⟨b, rfl⟩ | ⟨c, n, rfl⟩ | rfl <;> rfl
    have hseq : sequences (log ++ [⟨p, .did i a answer, q⟩]) = sequences log := by
      rw [hseq]
      simp [Entry.did?, hnone]
    cases byJob with
    | true =>
      rcases h with h | ⟨n, hm, hn⟩
      · exact .inl (h.drain hl ha hd)
      · exact .inr ⟨n, hm.drain hl ha hd, hseq.trans hn⟩
    | false =>
      rcases h with h | hn
      · exact .inl (h.drain hl ha hd)
      · exact .inr (hseq.trans hn)

/-- Before there is an association, nothing comes of a link that is still to be made. -/
theorem Heard.act_unopened {limit link i : Nat} {log : List Entry} {p q : Plant} {y : Standing}
    {a : Action} {answer : a.Answer} (h : Heard link log p unopened)
    (ha : p.Answers a answer q) (hs : Step limit unopened a answer y)
    (hy : ∀ l, y.link? = some l → l = link) :
    Heard link (log ++ [⟨p, .did i a answer, q⟩]) q y := by
  obtain ⟨hp, hnone⟩ : a.IsPlain ∧ a.sequence? answer = none := by
    cases hs with
    | quiet hq => exact ⟨Action.isPlain_of_isQuiet hq, Action.sequence?_of_isQuiet hq answer⟩
    | unreached | link | unenabled => exact ⟨trivial, rfl⟩
    | schedule hx => exact hx.elim
    | part hx => exact hx.elim
  have hsilent : Silent link (log ++ [⟨p, .did i a answer, q⟩]) :=
    h.1.snoc (hp.unsent i p q) rfl
  have hseq : sequences (log ++ [⟨p, .did i a answer, q⟩]) = [] := by
    rw [sequences_concat, h.2]
    simp [Entry.did?, hnone]
  cases hs with
  | quiet | unreached | unenabled => exact ⟨hsilent, hseq⟩
  | @link host port listener l hf =>
    obtain rfl := hy l rfl
    refine ⟨⟨hsilent, fun c hc => ?_⟩, hseq⟩
    -- The listener of the new link is as it was made.
    obtain ⟨rfl, hlinks⟩ := ha.associate
    have hlistener : listener = .events c := by
      simpa [Plant.listener?, hlinks] using Plant.collector?_eq_some.1 hc
    rw [hlistener] at hf
    exact hf
  | schedule hx => exact hx.elim
  | part hx => exact hx.elim

theorem Plant.collector?_of_le {p : Plant} {link : Nat} (h : p.links.length ≤ link) :
    p.collector? link = none := by
  rw [collector?, List.getElem?_eq_none h]
  rfl

/-- What a collector has gathered, at any point of a tale. -/
theorem Tale.heard {limit : Nat} {p q : Plant} {log : List Entry} {x : Standing} {link : Nat}
    (h : Tale limit p log q x)
    (hl : x.link? = some link ∨ x.link? = none ∧ q.links.length ≤ link) : Heard link log q x := by
  induction h with
  | start => exact ⟨⟨rfl, rfl⟩, rfl⟩
  | @act log q q' x y i a answer ht ha hs ih =>
    have hq := ha.length
    obtain ⟨heq, hor⟩ := hs.link?_eq
    cases hx : x.link? with
    | some l =>
      have hm : a.made answer = none := by
        rcases hor with hm | rfl
        · exact hm
        · cases hx
      rw [hm, hx, Option.none_or] at heq
      obtain rfl : l = link := by
        rcases hl with hl | ⟨hl, -⟩
        · exact Option.some.inj (heq.symm.trans hl)
        · rw [heq] at hl
          cases hl
      exact (ih (.inl hx)).act hx (ht.link hx).2.1 ha hs
    | none =>
      obtain rfl : x = unopened := by
        cases x <;> first | rfl | cases hx
      have hle : q.links.length ≤ link := by
        rcases hl with hl | ⟨-, hl⟩
        · rw [heq, hx, Option.or_none] at hl
          exact Nat.le_of_eq (ha.made hl).1.symm
        · omega
      refine (ih (.inr ⟨hx, hle⟩)).act_unopened ha hs fun l hy => ?_
      rcases hl with hl | ⟨hl, -⟩
      · exact Option.some.inj (hy.symm.trans hl)
      · rw [hl] at hy
        cases hy
  | @meet log q x ht m ih =>
    rw [Plant.length_meet] at hl
    refine (ih hl).plain (.of_meet m) rfl fun hx => ?_
    subst hx
    rcases hl with hl | ⟨-, hl⟩
    · cases hl
    · refine (Plain.of_meet m).closed fun c hc => ?_
      rw [Plant.collector?_of_le hl] at hc
      cases hc
  | takeUp _ ih => exact ih hl

/-! ## Batches -/

/-- If a number was told and a batch was sent, the batch is what the collector took. -/
theorem Heard.emptied {link : Nat} {n : UInt32} {batch : EventBatch} {log : List Entry} {p : Plant}
    {x : Standing} (h : Heard link log p x) (hn : n ∈ sequences log) (hb : batch ∈ handed log) :
    ∃ held, Emptied link n held log p := by
  have hsent : handed log ≠ [] := List.ne_nil_of_mem hb
  have htold : sequences log ≠ [] := List.ne_nil_of_mem hn
  cases x with
  | unopened => exact absurd h.1.unsent hsent
  | linked _ | lost _ | abandoned _ | opened _ => exact absurd h.1.silent.unsent hsent
  | reporting _ => exact absurd (Deaf.silent h).unsent hsent
  | listening _ | enabled _ _ => exact absurd h.1.unsent hsent
  | bounded _ _ => exact absurd h.1.unsent hsent
  | scheduled _ _ _ | due _ =>
    rcases h with h | ⟨n, h, -⟩
    · exact absurd h.silent.unsent hsent
    · exact absurd h.unsent hsent
  | parting byJob _ part =>
    match byJob, part with
    | true, .retired | true, .released =>
      rcases h with h | ⟨n, h, -⟩
      · exact absurd h.silent.unsent hsent
      · exact absurd h.unsent hsent
    | true, .told held =>
      rcases h with h | ⟨m, h, hm⟩
      · exact absurd h.silent.unsent hsent
      · rw [hm] at hn
        obtain rfl := List.mem_singleton.1 hn
        exact ⟨held, h⟩
    | false, .retired | false, .released | false, .told _ =>
      rcases h with h | h
      · exact absurd h.silent.unsent hsent
      · exact absurd h htold

theorem Entry.appended_of_did {link : Nat} {e : Entry} {P : (a : Action) → a.Answer → Prop}
    (h : e.Did P) : e.appended link = [] := by
  obtain ⟨p, d | m, q⟩ := e
  · rfl
  · exact h.elim

/-- A stale report adds nothing to what was taken just if none that came in before the boundary
carried an event. -/
theorem Window.fresh_iff {link : Nat} {before during after : List Entry} {a b : Entry} {n : UInt32}
    (ha : a.IsActivation link) (hb : b.IsBoundary link n)
    (hbefore : ∀ d ∈ before, d.appended link = [])
    (hduring : ∀ d ∈ during, d.appended link = d.carried link)
    (hafter : ∀ d ∈ after, d.isStale link n → d.appended link = []) :
    (∀ e ∈ before ++ a :: during ++ b :: after, e.isStale link n → e.appended link = []) ↔
      ∀ e ∈ during, e.isStale link n → e.carried link = [] := by
  constructor
  · intro h e he hs
    rw [← hduring e he]
    exact h e (by simp [he]) hs
  · intro h e he hs
    simp only [List.append_assoc, List.mem_append, List.mem_cons, List.cons_append] at he
    rcases he with he | rfl | he | rfl | he
    · exact hbefore e he
    · exact Entry.appended_of_did ha
    · rw [hduring e he]
      exact h e he hs
    · exact Entry.appended_of_did hb
    · exact hafter e he hs

/-- In the crew of a request, that collector is the one of the link that was made. -/
theorem Handles.emptied {g : Gateway} {p : Plant} {r : Request} {w : Crew (Option Response)}
    {n : UInt32} {batch : EventBatch} (hw : Handles g p r w) (hn : n ∈ sequences w.log)
    (hb : batch ∈ handed w.log) :
    ∃ link held, made w.log = [link] ∧ Emptied link n held w.log w.plant := by
  obtain ⟨x, ht, -⟩ := hw.tale
  rw [ht.made_eq]
  cases hx : x.link? with
  | some link =>
    obtain ⟨held, h⟩ := (ht.heard (.inl hx)).emptied hn hb
    exact ⟨link, held, rfl, h⟩
  | none =>
    -- Nothing is sent before there is a link.
    obtain rfl : x = unopened := by
      cases x <;> first | rfl | cases hx
    have h := ht.heard (.inr ⟨rfl, Nat.le_refl w.plant.links.length⟩)
    rw [h.1.unsent] at hb
    cases hb

/-- If a device told a number when a report was enabled, and events were sent, then they are those
that the collector took, in order. None of them is from a report below the number just if no such
report carried any after the collector was activated and before it was told the number. -/
theorem Handles.batch_fresh_iff {g : Gateway} {p : Plant} {r : Request}
    {w : Crew (Option Response)} {n : UInt32} {batch : EventBatch} (hw : Handles g p r w)
    (hn : n ∈ sequences w.log) (hb : batch ∈ handed w.log) :
    ∃ link before a during b after, made w.log = [link] ∧
      w.log = before ++ a :: during ++ b :: after ∧
      a.IsActivation link ∧ b.IsBoundary link n ∧
      batch.notifications = inOrder (appended link w.log) ∧
      ((∀ e ∈ w.log, e.isStale link n → e.appended link = []) ↔
        ∀ e ∈ during, e.isStale link n → e.carried link = []) := by
  obtain ⟨link, held, hmade, hwindow, -, hsent⟩ := hw.emptied hn hb
  obtain ⟨before, a, during, b, after, hlog, ha, hbound, hbefore, hduring, hafter⟩ := hwindow
  refine ⟨link, before, a, during, b, after, hmade, hlog, ha, hbound,
    hsent batch (List.mem_append_left _ hb), ?_⟩
  rw [hlog]
  exact Window.fresh_iff ha hbound hbefore hduring hafter

/-- A controller that has sent ten reports is asked to report its events, and is busy at first.
While the gateway waits to ask again, a report from before comes in. -/
def Crew.overtaken : Crew (Option Response) :=
  let relay : Node :=
    .ofList "IO/CSLC.EvnRpn1" .bufferedReport [("evnType", .int 11), ("swNum", .int 1)]
  let report : Report :=
    ⟨"evn_rpn01", "IO/LLN0.evn_rpn01", some 3, none, false, false, none, some ⟨"EvnRpn", [relay]⟩⟩
  let ied : Ied := .ofModel ⟨[], [⟨"SWDeviceGenericIO/LLN0.evn_rpn01", true, false, 10⟩], []⟩
  let w : Crew (Option Response) :=
    ⟨.controller, [Gateway.standard.jobWork (.request 0 .reportEvents)], []⟩
  let busy : List Crew.Move :=
    [.fail 0 (.service "busy"), .go 0, .meet (.report 0 (.still 0) report)]
  ((w.play (.meet (.device "10.0.0.1" ied) :: List.replicate 8 (.go 0) ++ busy ++
    List.replicate 20 (.go 0))).takeUp .standard .controller).play (List.replicate 20 (.go 1))

theorem Handles.overtaken : Handles .standard .controller .reportEvents Crew.overtaken :=
  ((start.play _).next).play _

theorem Handles.batch_fresh_iff_overtaken :
    Handles .standard .controller .reportEvents Crew.overtaken ∧
      (10 : UInt32) ∈ sequences Crew.overtaken.log ∧ ∃ batch ∈ handed Crew.overtaken.log,
      ∃ link before a during b after, made Crew.overtaken.log = [link] ∧
        Crew.overtaken.log = before ++ a :: during ++ b :: after ∧
        a.IsActivation link ∧ b.IsBoundary link 10 ∧
        batch.notifications = inOrder (appended link Crew.overtaken.log) ∧
        ((∀ e ∈ Crew.overtaken.log, e.isStale link 10 → e.appended link = []) ↔
          ∀ e ∈ during, e.isStale link 10 → e.carried link = []) := by
  have hn : (10 : UInt32) ∈ sequences Crew.overtaken.log := by decide +kernel
  have hlength : (handed Crew.overtaken.log).length = 1 := by decide +kernel
  obtain ⟨batch, hlist⟩ := List.length_eq_one_iff.1 hlength
  have hb : batch ∈ handed Crew.overtaken.log := by simp [hlist]
  exact ⟨Handles.overtaken, hn, batch, hb, Handles.overtaken.batch_fresh_iff hn hb⟩

/-- An event of the report from before is sent. -/
theorem Handles.stale_event_sent :
    Handles .standard .controller .reportEvents Crew.overtaken ∧
      sequences Crew.overtaken.log = [10] ∧ made Crew.overtaken.log = [0] ∧
      ∃ e ∈ Crew.overtaken.log, e.isStale 0 10 ∧ ∃ event ∈ e.appended 0,
        ∃ batch ∈ handed Crew.overtaken.log, event ∈ batch.notifications := by
  have hseq : sequences Crew.overtaken.log = [10] := by decide +kernel
  have hmade : made Crew.overtaken.log = [0] := by decide +kernel
  have hstale : ∃ e ∈ Crew.overtaken.log, e.isStale 0 10 ∧ e.appended 0 ≠ [] := by decide +kernel
  have hhanded : handed Crew.overtaken.log ≠ [] := by
    have : (handed Crew.overtaken.log).length = 1 := by decide +kernel
    exact List.ne_nil_of_length_eq_add_one this
  obtain ⟨e, he, hs, hne⟩ := hstale
  obtain ⟨event, hevent⟩ := List.exists_mem_of_ne_nil _ hne
  obtain ⟨batch, hb⟩ := List.exists_mem_of_ne_nil _ hhanded
  refine ⟨Handles.overtaken, hseq, hmade, e, he, hs, event, hevent, batch, hb, ?_⟩
  have hn : (10 : UInt32) ∈ sequences Crew.overtaken.log := by simp [hseq]
  obtain ⟨link, held, hlink, hemptied⟩ := Handles.overtaken.emptied hn hb
  obtain rfl : 0 = link := by simpa [hmade] using hlink
  rw [hemptied.sent batch (List.mem_append_left _ hb)]
  exact (Collector.inOrder_perm _).mem_iff.2 (List.mem_flatMap.2 ⟨e, he, hevent⟩)

end FieldGateway
