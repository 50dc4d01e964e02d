import FieldGateway.Proofs.Collector.Basic
import FieldGateway.Proofs.Course.Protocol
import FieldGateway.Proofs.Crew.Basic
import FieldGateway.Session

/-!
# Draining a collector

Any number of callers activate a collector, set its boundary and hang up on it, while reports come
in: a hang-up takes the events out, sends them and only then lets the collector rest, and all the
others may go on between these actions. No event is lost or sent twice:

* `Collecting`: the crews of such callers, in any order of their actions.
* `drain`: the protocol that each of them keeps (`Call.drains`).
* `Turn`: what one step does to the collector and to the events that were taken out; `turn_act`
  derives it from the protocol.
* `Ledger`: the books of a collector, kept by every turn (`Ledger.turn`).
* `events_drained_once`: what the books say of every crew.
-/

namespace FieldGateway

open Collector (inOrder)

/-! ## What the log tells of a collector -/

namespace Entry

/-- The events that a report added to the collector of a link. -/
def appended (link : Nat) (e : Entry) : List Notification :=
  match e.event with
  | .met (.report l clock r) =>
    match e.before.collector? link with
    | some c => if l = link ∧ c.verdict r = .taken then c.events clock r else []
    | none => []
  | _ => []

/-- The events that were taken out of the collector of a link. -/
def taken (link : Nat) (e : Entry) : List EventBatch :=
  match e.event with
  | .did _ (.hangUp l) (some batch) => if l = link then [batch] else []
  | _ => []

/-- The events that were sent, be it in vain. -/
def handed (e : Entry) : List EventBatch :=
  match e.event with
  | .did _ (.sendEvents batch) _ => [batch]
  | _ => []

/-- The collector of a link, which was idle, was activated. -/
def Activates (link : Nat) (e : Entry) : Prop :=
  match e.event with
  | .did _ (.activate l) _ => l = link ∧ ∃ c, e.before.collector? link = some c ∧ c.phase = .idle
  | _ => False

end Entry

def appended (link : Nat) (log : List Entry) : List Notification := log.flatMap (·.appended link)

def taken (link : Nat) (log : List Entry) : List EventBatch := log.flatMap (·.taken link)

def handed (log : List Entry) : List EventBatch := log.flatMap Entry.handed

/-! ## Callers -/

/-- What is asked of a collector from outside. -/
inductive Call where
  /-- Take reports from now on. -/
  | activate
  /-- Leave out reports with lower numbers. -/
  | setBoundary (sequence : UInt32)
  /-- The session is over. -/
  | hangUp

def Call.work (link : Nat) : Call → Work Unit
  | activate => (Action.activate link).perform
  | setBoundary n => (Action.setBoundary link n).perform
  | hangUp => Session.hangUp link

/-- A crew of callers to the collector of a link. -/
inductive Collecting (link : Nat) (p : Plant) : Crew Unit → Prop
  | start : Collecting link p ⟨p, [], []⟩
  | call {w : Crew Unit} (h : Collecting link p w) (k : Call) :
      Collecting link p (w.join (k.work link))
  | step {w w' : Crew Unit} (h : Collecting link p w) (hs : w.Step w') : Collecting link p w'

/-- What a caller has in hand. -/
inductive Held where
  /-- Events that are to be sent. -/
  | batch (batch : EventBatch)
  /-- Nothing, but the collector is still to be told that the events were dealt with. -/
  | sent
deriving DecidableEq

/-- What a caller has in hand after an action. -/
def Held.next (link : Nat) : Option Held → (a : Action) → a.Answer → Option (Option Held)
  | none, .activate l, _ => if l = link then some none else none
  | none, .setBoundary l _, _ => if l = link then some none else none
  | none, .hangUp l, answer => if l = link then some (answer.map .batch) else none
  | some (.batch b), .sendEvents b', _ =>
    if b' = b ∧ b.notifications ≠ [] then some (some .sent) else none
  | some (.batch b), .settle l, _ =>
    if l = link ∧ b.notifications = [] then some none else none
  | some .sent, .count _ _, _ => some (some .sent)
  | some .sent, .settle l, _ => if l = link then some none else none
  | _, _, _ => none

/-- What was taken out is sent and counted, and then the collector is told; nothing is not sent. -/
theorem Held.next_cases {link : Nat} {x : Held} {y : Option Held} {a : Action} {answer : a.Answer}
    (h : Held.next link (some x) a answer = some y) :
    (∃ b, x = .batch b ∧ b.notifications ≠ [] ∧ a = .sendEvents b ∧ y = some .sent) ∨
      (∃ b, x = .batch b ∧ b.notifications = [] ∧ a = .settle link ∧ y = none) ∨
      (∃ c n, x = .sent ∧ a = .count c n ∧ y = some .sent) ∨
      x = .sent ∧ a = .settle link ∧ y = none := by
  cases x with
  | batch b =>
    cases a <;> simp only [Held.next, reduceCtorEq, Option.ite_none_right_eq_some] at h
    case sendEvents b' =>
      obtain ⟨⟨rfl, hb⟩, h⟩ := h
      exact .inl ⟨b', rfl, hb, rfl, (Option.some.inj h).symm⟩
    case settle l =>
      obtain ⟨⟨rfl, hb⟩, h⟩ := h
      exact .inr (.inl ⟨b, rfl, hb, rfl, (Option.some.inj h).symm⟩)
  | sent =>
    cases a <;> simp only [Held.next, reduceCtorEq, Option.ite_none_right_eq_some] at h
    case count c n => exact .inr (.inr (.inl ⟨c, n, rfl, rfl, (Option.some.inj h).symm⟩))
    case settle l =>
      obtain ⟨rfl, h⟩ := h
      exact .inr (.inr (.inr ⟨rfl, rfl, (Option.some.inj h).symm⟩))

/-- How callers treat a collector: what was taken out is sent if there is any, and then the
collector is told. -/
def drain (link : Nat) : Protocol Action Action.Answer (Option Held) where
  step x a answer y := Held.next link x a answer = some y
  admits _ _ _ := True

/-- A caller to whom the protocol applies, and who will have nothing in hand at the end. -/
abbrev Drains (link : Nat) (x : Option Held) (c : Work Unit) : Prop :=
  (drain link).Conforms x c fun y _ => y = none

theorem Session.drains_hangUp (link : Nat) : Drains link none (Session.hangUp link) := by
  refine .bind (.query fun answer _ => ⟨answer.map .batch, if_pos rfl, ?_⟩)
  cases answer with
  | none => rfl
  | some b =>
    have settle : ∀ x, Held.next link x (.settle link) () = some none →
        Drains link x (Action.settle link).perform := fun x h => .query fun _ _ => ⟨none, h, rfl⟩
    by_cases hb : b.notifications = []
    · refine .bind ?_
      simp only [Session.sendEvents, hb, List.isEmpty_nil, if_true]
      exact settle _ (if_pos ⟨rfl, hb⟩)
    · refine .bind ?_
      have : b.notifications.isEmpty = false := by simpa using hb
      simp only [Session.sendEvents, this, Bool.false_eq_true, if_false]
      refine .bind (.query fun answer _ => ⟨some .sent, if_pos ⟨rfl, hb⟩, ?_⟩)
      cases answer <;> exact .query fun _ _ => ⟨some .sent, rfl, settle _ (if_pos rfl)⟩

theorem Call.drains (link : Nat) (k : Call) : Drains link none (k.work link) := by
  cases k with
  | activate => exact .query fun _ _ => ⟨none, if_pos rfl, rfl⟩
  | setBoundary n => exact .query fun _ _ => ⟨none, if_pos rfl, rfl⟩
  | hangUp => exact Session.drains_hangUp link

/-! ## The books -/

/-- What one entry of the log means for a collector and for what was taken out of it. -/
inductive Turn (link : Nat) : Collector → Option Held → Entry → Collector → Option Held → Prop
  | quiet {c c' : Collector} {h : Option Held} {e : Entry} (hp : c'.phase = c.phase)
      (hb : c'.buffer = c.buffer) (ha : e.appended link = []) (ht : e.taken link = [])
      (hh : e.handed = []) : Turn link c h e c' h
  | add {c : Collector} {h : Option Held} {e : Entry} (hp : c.phase = .active)
      (ht : e.taken link = []) (hh : e.handed = []) :
      Turn link c h e { c with buffer := c.buffer ++ e.appended link } h
  /-- The collector begins to take reports. -/
  | wake {c : Collector} {h : Option Held} {e : Entry} (hp : c.phase = .idle)
      (hw : e.Activates link) (ha : e.appended link = []) (ht : e.taken link = [])
      (hh : e.handed = []) : Turn link c h e { c with phase := .active } h
  | take {c : Collector} {b : EventBatch} {e : Entry} (hp : c.phase ≠ .draining)
      (hb : b.notifications = inOrder c.buffer) (ha : e.appended link = [])
      (ht : e.taken link = [b]) (hh : e.handed = []) :
      Turn link c none e { c with phase := .draining, buffer := [] } (some (.batch b))
  | hand {c : Collector} {b : EventBatch} {e : Entry} (hb : b.notifications ≠ [])
      (ha : e.appended link = []) (ht : e.taken link = []) (hh : e.handed = [b]) :
      Turn link c (some (.batch b)) e c (some .sent)
  /-- The collector is told that they were dealt with. -/
  | settle {c : Collector} {x : Held} {e : Entry}
      (hx : ∀ b, x = .batch b → b.notifications = []) (ha : e.appended link = [])
      (ht : e.taken link = []) (hh : e.handed = []) :
      Turn link c (some x) e { c with phase := .idle } none

/-- The batches that are still to be sent. -/
def Held.pending : Option Held → List EventBatch
  | some (.batch b) => if b.notifications = [] then [] else [b]
  | _ => []

theorem Held.eq_of_mem_pending {b b' : EventBatch} (h : b ∈ Held.pending (some (.batch b'))) :
    b = b' := by
  simp only [pending] at h
  split at h
  · cases h
  · exact List.mem_singleton.1 h

/-- How many batches can be sent before the collector is activated again. -/
def credit (c : Collector) (h : Option Held) : Nat :=
  if c.phase = .active then 1 else (Held.pending h).length

/-- The books of a collector: the log of what happened, where the collector stands, and what was
taken out of it and not dealt with yet. -/
structure Ledger (link : Nat) (log : List Entry) (c : Collector) (h : Option Held) : Prop where
  /-- Someone has events in hand just while the collector is draining. -/
  draining : h.isSome ↔ c.phase = .draining
  /-- Only an active collector holds events. -/
  vacant : c.phase ≠ .active → c.buffer = []
  /-- The events that came in are in the batches that were taken out, one after the other, or in
  the collector. -/
  shares : ∃ shares : List (List Notification), appended link log = shares.flatten ++ c.buffer ∧
    (taken link log).map (·.notifications) = shares.map inOrder
  /-- What was taken out was sent, once and in order, or is to be sent; nothing is not sent. -/
  sent : (taken link log).filter (!·.notifications.isEmpty) = handed log ++ Held.pending h
  /-- What can be sent until the next activation. -/
  recent : ∀ l, l <:+ log → (∀ e ∈ l, ¬ e.Activates link) → (handed l).length + credit c h ≤ 1
  /-- Between two activations one batch is sent at most. -/
  paced : ∀ l, l <:+: log → (∀ e ∈ l, ¬ e.Activates link) → (handed l).length ≤ 1

theorem appended_concat (link : Nat) (log : List Entry) (e : Entry) :
    appended link (log ++ [e]) = appended link log ++ e.appended link := by
  simp [appended]

theorem taken_concat (link : Nat) (log : List Entry) (e : Entry) :
    taken link (log ++ [e]) = taken link log ++ e.taken link := by
  simp [taken]

theorem handed_concat (log : List Entry) (e : Entry) :
    handed (log ++ [e]) = handed log ++ e.handed := by
  simp [handed]

namespace Ledger

variable {link : Nat} {log : List Entry} {c c' : Collector} {h h' : Option Held} {e : Entry}

theorem start (hp : c.phase = .idle) (hb : c.buffer = []) : Ledger link [] c none := by
  refine ⟨by simp [hp], fun _ => hb, ⟨[], by simp [appended, taken, hb]⟩,
    by simp [taken, handed, Held.pending], fun l hl _ => ?_, fun l hl _ => ?_⟩
  · obtain rfl := List.suffix_nil.1 hl
    simp [handed, credit, hp, Held.pending]
  · obtain rfl := List.infix_nil.1 hl
    simp [handed]

theorem phase_of_some {x : Held} (hl : Ledger link log c (some x)) : c.phase = .draining :=
  hl.draining.1 rfl

/-- Nothing is sent on credit: a turn sends what was due, unless it activates the collector. -/
theorem credit_turn (hl : Ledger link log c h) (ht : Turn link c h e c' h') :
    credit c' h' ≤ 1 ∧ (¬ e.Activates link → e.handed.length + credit c' h' ≤ credit c h) := by
  have hc : credit c h ≤ 1 := by simpa [handed] using hl.recent [] List.nil_suffix (by simp)
  cases ht with
  | quiet hp _ _ _ hh =>
    have : credit c' h = credit c h := by simp [credit, hp]
    exact ⟨this ▸ hc, fun _ => by simp [hh, this]⟩
  | add hp _ hh => exact ⟨hc, fun _ => by simp [hh, credit]⟩
  | wake _ hw => exact ⟨by simp [credit], fun hn => absurd hw hn⟩
  | @take b _ hp hb _ _ hh =>
    have hle : (Held.pending (some (.batch b))).length ≤ credit c none := by
      by_cases ha : c.phase = .active
      · simp only [Held.pending, credit, ha, if_true]
        split <;> simp
      · have hnone : b.notifications = [] := by
          rw [hb, hl.vacant ha]
          exact Collector.inOrder_eq_nil.2 rfl
        simp [Held.pending, hnone]
    refine ⟨Nat.le_trans hle hc, fun _ => ?_⟩
    simpa [hh, credit] using hle
  | hand hb _ _ hh =>
    have := hl.phase_of_some
    simp [hh, credit, this, Held.pending, hb]
  | settle _ _ _ hh => simp [hh, credit, Held.pending]

/-- The books are kept by every turn. -/
theorem turn (hl : Ledger link log c h) (ht : Turn link c h e c' h') :
    Ledger link (log ++ [e]) c' h' := by
  obtain ⟨hone, hdue⟩ := hl.credit_turn ht
  have hrecent : ∀ l, l <:+ log ++ [e] → (∀ e ∈ l, ¬ e.Activates link) →
      (handed l).length + credit c' h' ≤ 1 := by
    intro l hs hn
    rcases List.suffix_concat_iff.1 hs with rfl | ⟨t, rfl, ht⟩
    · simpa [handed] using hone
    · have h1 := hl.recent t ht fun e he => hn e (List.mem_append_left _ he)
      have h2 := hdue (hn e (by simp))
      rw [handed_concat, List.length_append]
      omega
  obtain ⟨hd, hv, ⟨shares, hs, hm⟩, hsent, -, hpaced⟩ := hl
  have hinfix : ∀ l, l <:+: log ++ [e] → (∀ e ∈ l, ¬ e.Activates link) → (handed l).length ≤ 1 := by
    intro l hi hn
    rcases List.infix_concat_iff.1 hi with hs | hi
    · exact Nat.le_of_add_right_le (hrecent l hs hn)
    · exact hpaced l hi hn
  cases ht with
  | quiet hp hb ha ht hh =>
    exact ⟨hp ▸ hd, fun hn => hb ▸ hv (hp ▸ hn), ⟨shares, by simp [appended_concat, ha, hs, hb],
      by simp [taken_concat, ht, hm]⟩, by simp [taken_concat, handed_concat, ht, hh, hsent],
      hrecent, hinfix⟩
  | add hp ht hh =>
    exact ⟨hd, fun hn => absurd hp hn, ⟨shares, by simp [appended_concat, hs],
      by simp [taken_concat, ht, hm]⟩, by simp [taken_concat, handed_concat, ht, hh, hsent],
      hrecent, hinfix⟩
  | wake hp hw ha ht hh =>
    exact ⟨by simpa [hp] using hd, fun hn => absurd rfl hn,
      ⟨shares, by simp [appended_concat, ha, hs], by simp [taken_concat, ht, hm]⟩,
      by simp [taken_concat, handed_concat, ht, hh, hsent], hrecent, hinfix⟩
  | @take b _ hp hb ha ht hh =>
    refine ⟨by simp, fun _ => rfl, ⟨shares ++ [c.buffer], by simp [appended_concat, ha, hs],
      by simp [taken_concat, ht, hm, hb]⟩, ?_, hrecent, hinfix⟩
    rw [taken_concat, handed_concat, List.filter_append, hsent, ht, hh]
    by_cases hn : b.notifications = [] <;> simp [Held.pending, hn]
  | hand hb ha ht hh =>
    exact ⟨by simpa using hd, hv, ⟨shares, by simp [appended_concat, ha, hs],
      by simp [taken_concat, ht, hm]⟩,
      by simp [taken_concat, handed_concat, ht, hh, hsent, Held.pending, hb], hrecent, hinfix⟩
  | @settle x _ hx ha ht hh =>
    have hp : c.phase = .draining := hd.1 rfl
    have hpend : Held.pending (some x) = [] := by
      cases x with
      | batch b => simp [Held.pending, hx b rfl]
      | sent => rfl
    refine ⟨by simp, fun _ => hv (by simp [hp]), ⟨shares, by simp [appended_concat, ha, hs],
      by simp [taken_concat, ht, hm]⟩, ?_, hrecent, hinfix⟩
    rw [taken_concat, handed_concat, ht, hh, List.append_nil, List.append_nil, hsent, hpend]
    rfl

end Ledger

/-! ## Crews of callers -/

/-- What the caller with a number has in hand, if one has something. -/
def handOf (o : Option (Nat × Held)) (i : Nat) : Option Held :=
  match o with
  | some (j, x) => if j = i then some x else none
  | none => none

/-- The books are kept, and each caller keeps to the protocol from where it stands. -/
structure Tracked (link : Nat) (w : Crew Unit) (c : Collector) (o : Option (Nat × Held)) :
    Prop where
  collector : w.plant.collector? link = some c
  /-- What is left of each caller keeps to the protocol. -/
  drains : ∀ i k, w.courses[i]? = some k → Drains link (handOf o i) k
  /-- Only a caller has something in hand. -/
  present : ∀ i x, o = some (i, x) → i < w.courses.length
  ledger : Ledger link w.log c (o.map (·.2))

theorem handOf_some {o : Option (Nat × Held)} {i : Nat} {x : Held} (h : handOf o i = some x) :
    o = some (i, x) := by
  cases o with
  | none => cases h
  | some jx =>
    obtain ⟨j, y⟩ := jx
    simp only [handOf] at h
    split at h
    · next hj => cases h; rw [hj]
    · cases h

/-- A report is added, or does not matter. -/
theorem turn_meet {p : Plant} {link : Nat} {c : Collector} {h : Option Held}
    (hc : p.collector? link = some c) (e : Incident) :
    Turn link c h ⟨p, .met e, p.meet e⟩ (e.onCollector link c) h := by
  cases e with
  | report l clock r =>
    by_cases hr : l = link ∧ c.verdict r = .taken
    · have ha : c.events clock r =
          Entry.appended link ⟨p, .met (.report l clock r), p.meet (.report l clock r)⟩ := by
        simp [Entry.appended, hc, hr]
      simp only [Incident.onCollector, hr.1, if_true, Collector.receive, hr.2, ha]
      exact hr.1 ▸ .add (Collector.phase_of_taken hr.2) rfl rfl
    · have hid : Incident.onCollector link (.report l clock r) c = c := by
        simp only [Incident.onCollector]
        split
        · next hl => exact if_neg fun h => hr ⟨hl, h⟩
        · rfl
      rw [hid]
      exact .quiet rfl rfl (by simp [Entry.appended, hc, hr]) rfl rfl
  | _ => exact .quiet rfl rfl rfl rfl rfl

section
variable {p q : Plant} {link i : Nat} {c : Collector} {a : Action} {answer : a.Answer}

/-- A caller with nothing in hand changes nothing of that, or takes out the events. -/
theorem turn_of_none {h y : Option Held} {log : List Entry} (hc : p.collector? link = some c)
    (hl : Ledger link log c h) (ha : p.Answers a answer q)
    (hy : Held.next link none a answer = some y) :
    y = none ∧ Turn link c h ⟨p, .did i a answer, q⟩ (a.onCollector link c) h ∨
      h = none ∧ Turn link c none ⟨p, .did i a answer, q⟩ (a.onCollector link c) y := by
  cases a <;> simp only [Held.next, reduceCtorEq, Option.ite_none_right_eq_some] at hy
  case activate l =>
    obtain ⟨rfl, hy⟩ := hy
    refine .inl ⟨(Option.some.inj hy).symm, ?_⟩
    simp only [Action.onCollector, if_true, Collector.activate]
    split
    · next hp => exact .wake hp ⟨rfl, c, hc, hp⟩ rfl rfl rfl
    · exact .quiet rfl rfl rfl rfl rfl
  case setBoundary l n =>
    obtain ⟨rfl, hy⟩ := hy
    refine .inl ⟨(Option.some.inj hy).symm, ?_⟩
    simp only [Action.onCollector, if_true]
    exact .quiet rfl rfl rfl rfl rfl
  case hangUp l =>
    obtain ⟨rfl, hy⟩ := hy
    obtain rfl : answer = c.startDrain.1.map fun batch => ⟨c.deviceId, batch⟩ := by
      rw [ha.hangUp, hc]
      rfl
    simp only [Action.onCollector, if_true]
    by_cases hp : c.phase = .draining
    · rw [Collector.startDrain_of_draining hp] at hy ⊢
      exact .inl ⟨(Option.some.inj hy).symm, .quiet rfl rfl rfl rfl rfl⟩
    · -- The collector is not draining, so that nobody else has anything in hand.
      have hnone : h = none := by
        cases h with
        | none => rfl
        | some _ => exact absurd (hl.draining.1 rfl) hp
      rw [Collector.startDrain_of_ne hp] at hy ⊢
      obtain rfl := Option.some.inj hy
      exact .inr ⟨hnone, .take hp rfl rfl (by simp [Entry.taken]) rfl⟩

theorem turn_of_some {x : Held} {y : Option Held} (hy : Held.next link (some x) a answer = some y) :
    Turn link c (some x) ⟨p, .did i a answer, q⟩ (a.onCollector link c) y := by
  rcases Held.next_cases hy with ⟨b, rfl, hb, rfl, rfl⟩ | ⟨b, rfl, hb, rfl, rfl⟩ |
    ⟨k, n, rfl, rfl, rfl⟩ | ⟨rfl, rfl, rfl⟩
  · exact .hand hb rfl rfl rfl
  · simp only [Action.onCollector, if_true]
    exact .settle (fun b' h => by cases h; exact hb) rfl rfl rfl
  · exact .quiet rfl rfl rfl rfl rfl
  · simp only [Action.onCollector, if_true]
    exact .settle (fun b h => by cases h) rfl rfl rfl

end

/-- If nobody else had anything in hand, nobody else has. -/
theorem handOf_map {o : Option (Nat × Held)} {i : Nat} (ho : ∀ j x, o = some (j, x) → j = i)
    (y : Option Held) (j : Nat) :
    handOf (y.map (i, ·)) j = if j = i then y else handOf o j := by
  by_cases h : j = i
  · subst h
    cases y <;> simp [handOf]
  · have hy : handOf (y.map (i, ·)) j = none := by cases y <;> simp [handOf, Ne.symm h]
    have hj : handOf o j = none := by
      cases hx : handOf o j with
      | none => rfl
      | some x => exact absurd (ho j x (handOf_some hx)) h
    rw [if_neg h, hy, hj]

/-- What a caller does is a turn, after which it has in hand what the protocol says. -/
theorem turn_act {p q : Plant} {link i : Nat} {c : Collector} {o : Option (Nat × Held)}
    {a : Action} {answer : a.Answer} {y : Option Held} {log : List Entry}
    (hc : p.collector? link = some c) (hl : Ledger link log c (o.map (·.2)))
    (ha : p.Answers a answer q) (hy : Held.next link (handOf o i) a answer = some y) :
    ∃ o', Turn link c (o.map (·.2)) ⟨p, .did i a answer, q⟩ (a.onCollector link c) (o'.map (·.2)) ∧
      (∀ j, handOf o' j = if j = i then y else handOf o j) ∧
      ∀ j x, o' = some (j, x) → j = i ∨ o = some (j, x) := by
  have hback : (y.map (i, ·)).map (·.2) = y := by cases y <;> rfl
  have hmine : ∀ j x, y.map (i, ·) = some (j, x) → j = i ∨ o = some (j, x) := by
    intro j x h
    obtain ⟨z, -, h⟩ := Option.map_eq_some_iff.1 h
    exact .inl (congrArg Prod.fst h).symm
  cases hx : handOf o i with
  | none =>
    rw [hx] at hy
    rcases turn_of_none hc hl ha hy with ⟨rfl, ht⟩ | ⟨ho, ht⟩
    · refine ⟨o, ht, fun j => ?_, fun j x h => .inr h⟩
      split
      · next h => rw [h, hx]
      · rfl
    · obtain rfl := Option.map_eq_none_iff.1 ho
      exact ⟨y.map (i, ·), by rw [hback]; exact ht, handOf_map (by simp) y, hmine⟩
  | some x =>
    obtain rfl := handOf_some hx
    rw [hx] at hy
    refine ⟨y.map (i, ·), by rw [hback]; exact turn_of_some hy, handOf_map ?_ y, hmine⟩
    rintro j z h
    exact (congrArg Prod.fst (Option.some.inj h)).symm

namespace Tracked

variable {link : Nat} {w w' : Crew Unit} {c : Collector} {o : Option (Nat × Held)}

theorem start {p : Plant} (hc : p.collector? link = some c) (hp : c.phase = .idle)
    (hb : c.buffer = []) : Tracked link ⟨p, [], []⟩ c none :=
  ⟨hc, by simp, by simp, .start hp hb⟩

/-- A caller is added, with nothing in hand. -/
theorem call (h : Tracked link w c o) (k : Call) : Tracked link (w.join (k.work link)) c o := by
  have hpres : ∀ i x, o = some (i, x) → i < (w.courses ++ [k.work link]).length := fun i x ho => by
    have := h.present i x ho
    simp only [List.length_append]
    omega
  refine ⟨h.collector, fun i d hd => ?_, hpres, h.ledger⟩
  rcases Nat.lt_or_ge i w.courses.length with hi | hi
  · exact h.drains i d (by rwa [Crew.join, List.getElem?_append_left hi] at hd)
  · -- Nobody beyond the callers so far has anything in hand.
    have hn : handOf o i = none := by
      cases ho : handOf o i with
      | none => rfl
      | some x => exact absurd (h.present i x (handOf_some ho)) (by omega)
    rw [hn]
    obtain rfl : d = k.work link := by
      rw [Crew.join, List.getElem?_append_right hi] at hd
      exact List.mem_singleton.1 (List.mem_of_getElem? hd)
    exact k.drains link

theorem step (h : Tracked link w c o) (hs : w.Step w') : ∃ c' o', Tracked link w' c' o' := by
  have hlen : link < w.plant.links.length := by
    obtain ⟨l, hl, -⟩ := Option.bind_eq_some_iff.1 h.collector
    exact (List.getElem?_eq_some_iff.1 hl).1
  cases hs with
  | @act i a next answer p hc ha =>
    obtain ⟨y, hy, hnext⟩ := h.drains i _ hc answer trivial
    obtain ⟨o', ht, hand, hpres⟩ := turn_act h.collector h.ledger ha hy
    refine ⟨_, o', by rw [ha.collector? hlen, h.collector]; rfl, fun j k hk => ?_, fun j x hj => ?_,
      h.ledger.turn ht⟩
    · rw [hand j]
      rcases Crew.of_set hk with ⟨rfl, rfl⟩ | ⟨hji, hk⟩
      · simpa using hnext
      · simpa [hji] using h.drains j k hk
    · rw [List.length_set]
      rcases hpres j x hj with rfl | ho
      · exact (List.getElem?_eq_some_iff.1 hc).1
      · exact h.present j x ho
  | @goOn i ms next hc =>
    refine ⟨c, o, h.collector, fun j k hk => ?_, by simpa using h.present, h.ledger⟩
    rcases Crew.of_set hk with ⟨rfl, rfl⟩ | ⟨-, hk⟩
    · have := h.drains j _ hc
      exact this
    · exact h.drains j k hk
  | meet e =>
    refine ⟨e.onCollector link c, o, ?_, h.drains, h.present,
      h.ledger.turn (turn_meet h.collector e)⟩
    rw [Plant.collector?_meet, h.collector]
    rfl

end Tracked

theorem Collecting.tracked {link : Nat} {p : Plant} {w : Crew Unit} {c : Collector}
    (hc : p.collector? link = some c) (hp : c.phase = .idle) (hb : c.buffer = [])
    (h : Collecting link p w) : ∃ c' o, Tracked link w c' o := by
  induction h with
  | start => exact ⟨c, none, .start hc hp hb⟩
  | call _ k ih =>
    obtain ⟨c', o, h⟩ := ih
    exact ⟨c', o, h.call k⟩
  | step _ hs ih =>
    obtain ⟨c', o, h⟩ := ih
    exact h.step hs

theorem Collecting.play {link : Nat} {p : Plant} {w : Crew Unit} (h : Collecting link p w)
    (ms : List Crew.Move) : Collecting link p (w.play ms) := Crew.play_induction .step ms h

theorem Tracked.pending_of_atRest {link : Nat} {w : Crew Unit} {c : Collector}
    {o : Option (Nat × Held)} (h : Tracked link w c o) (hr : w.AtRest) :
    Held.pending (o.map (·.2)) = [] := by
  cases o with
  | none => rfl
  | some ix =>
    -- The caller who has something in hand would have ended with it.
    obtain ⟨i, x⟩ := ix
    have hi := List.getElem?_eq_getElem (h.present i x rfl)
    obtain ⟨u, hu⟩ := hr _ (List.mem_of_getElem? hi)
    have := h.drains i _ hi
    rw [hu, handOf, if_pos rfl] at this
    cases this

theorem Held.length_pending_le (h : Option Held) : (Held.pending h).length ≤ 1 := by
  unfold Held.pending
  split
  · split <;> simp
  · simp

/-- A plant with one session with a streetlight controller. -/
def Plant.single : Plant :=
  { Plant.start .empty .empty 0 "" with
    links := [⟨"10.0.0.1", .events (.make "SSLD-1" []), false, false, false⟩] }

/-- Whoever calls a collector, in any number and in any order of their actions, while reports come
in: a collector that takes no reports holds no events; the events that came in are, share by share,
in the batches that were taken out, and the rest in the collector; of these batches those with
events were sent in turn, all but the one that is about to be sent, if there is one; and from one
activation of the idle collector to the next one batch is sent at most. -/
theorem events_drained_once {p : Plant} {link : Nat} {deviceId : String}
    {outputs : List OutputSetting} {w : Crew Unit}
    (hp : p.listener? link = some (.events (.make deviceId outputs))) (hw : Collecting link p w) :
    ∃ c, w.plant.listener? link = some (.events c) ∧
      (c.phase ≠ .active → c.buffer = []) ∧
      (∃ shares : List (List Notification),
        appended link w.log = shares.flatten ++ c.buffer ∧
          (taken link w.log).map (·.notifications) = shares.map inOrder) ∧
      (∃ pending, (taken link w.log).filter (!·.notifications.isEmpty) = handed w.log ++ pending ∧
        pending.length ≤ 1 ∧ (w.AtRest → pending = [])) ∧
      ∀ l, l <:+: w.log → (∀ e ∈ l, ¬ e.Activates link) → (handed l).length ≤ 1 := by
  obtain ⟨c, o, h⟩ := hw.tracked (Plant.collector?_eq_some.2 hp) rfl rfl
  exact ⟨c, Plant.collector?_eq_some.1 h.collector, h.ledger.vacant, h.ledger.shares,
    ⟨_, h.ledger.sent, Held.length_pending_le _, h.pending_of_atRest⟩, h.ledger.paced⟩

/-- A session with a streetlight controller, whose collector is called by five at a time: reports
come in before it is activated, below the boundary and above it, and two hang up, one of them while
the other is sending; what they send is refused. -/
def Collecting.race : Crew Unit :=
  let relay : Node :=
    .ofList "IO/CSLC.EvnRpn1" .bufferedReport [("evnType", .int 11), ("swNum", .int 1)]
  let report (n : UInt32) : Crew.Move := .meet (.report 0 (.still 0)
    ⟨"evn_rpn01", "IO/LLN0.evn_rpn01", some n, none, false, false, none, some ⟨"EvnRpn", [relay]⟩⟩)
  let callers : List (Work Unit) := [.activate, .setBoundary 5, .hangUp, .hangUp, .activate].map
    fun k : Call => k.work 0
  Crew.play ⟨Plant.single, callers, []⟩
    [report 6, .go 0, .go 1, report 4, .meet (.blockage ⟨none, some "full", none⟩), report 6,
      .go 2, .go 4, .go 3, report 7, .go 2, .go 2, .go 2]

theorem events_drained_once_race :
    Plant.single.listener? 0 = some (.events (.make "SSLD-1" [])) ∧
      Collecting 0 Plant.single Collecting.race ∧
      (appended 0 Collecting.race.log).length = 1 ∧ (handed Collecting.race.log).length = 1 ∧
      ∃ c, Collecting.race.plant.listener? 0 = some (.events c) ∧
        (c.phase ≠ .active → c.buffer = []) ∧
        (∃ shares : List (List Notification),
          appended 0 Collecting.race.log = shares.flatten ++ c.buffer ∧
            (taken 0 Collecting.race.log).map (·.notifications) = shares.map inOrder) ∧
        (∃ pending, (taken 0 Collecting.race.log).filter (!·.notifications.isEmpty) =
          handed Collecting.race.log ++ pending ∧ pending.length ≤ 1 ∧
            (Collecting.race.AtRest → pending = [])) ∧
        ∀ l, l <:+: Collecting.race.log → (∀ e ∈ l, ¬ e.Activates 0) → (handed l).length ≤ 1 := by
  have hrace : Collecting 0 Plant.single Collecting.race :=
    ((((Collecting.start.call .activate).call (.setBoundary 5)).call .hangUp).call .hangUp
      |>.call .activate).play _
  exact ⟨rfl, hrace, by decide +kernel, by decide +kernel, events_drained_once rfl hrace⟩

end FieldGateway
