import FieldGateway.Proofs.Gateway.Boundary
import FieldGateway.Proofs.Gateway.Parts

/-!
# Gathering events

The collector of a session with a streetlight controller is the one that was put at its link. Once
it knows the number that the device has told, it takes the reports that are not from before, until
it is told that the session is over; then it gives up what it has taken, in the order of the times.

* `Tale.offered_eq`: the events that are sent are those that the listener gave up.
* `Tale.attended`, `Heard.minded`: what the collector is, and what it takes.
-/

namespace FieldGateway

open Standing
open Collector (inOrder)

/-! ## Reports and what they bring -/

namespace Entry

/-- A report came in over a link. -/
def IsReport (link : Nat) (e : Entry) : Prop := ∃ clock r, e.event = .met (.report link clock r)

/-- A report that came in, with the link over which it came. -/
def report? (e : Entry) : Option (Nat × Report) :=
  match e.event with
  | .met (.report link _ r) => some (link, r)
  | _ => none

theorem not_isReport_of_report? {link : Nat} {e : Entry} (h : e.report? = none) :
    ¬ e.IsReport link := by
  rintro ⟨clock, r, hr⟩
  rw [report?, hr] at h
  cases h

/-- The events of a report over the link of a device, if it is not from before the number `n`: of
all its members, those that are events. One that breaks off has none. -/
def news (d : Device) (link : Nat) (n : UInt32) (e : Entry) : List Notification :=
  match e.event with
  | .met (.report l clock r) =>
    if l = link ∧ r.sequence.all (n ≤ ·) then
      (Collector.make d.id d.outputs).events clock r
    else []
  | _ => []

end Entry

/-- The events that have come in over a link. -/
def news (d : Device) (link : Nat) (n : UInt32) (log : List Entry) : List Notification :=
  log.flatMap (·.news d link n)

theorem Entry.news_of_not_isReport {d : Device} {link : Nat} {n : UInt32} {e : Entry}
    (h : ¬ e.IsReport link) : e.news d link n = [] := by
  obtain ⟨p, _ | m, q⟩ := e
  · rfl
  · cases m with
    | report l clock r =>
      have hl : l ≠ link := by
        rintro rfl
        exact h ⟨clock, r, rfl⟩
      simp [news, hl]
    | _ => rfl

theorem Entry.appended_of_not_isReport {link : Nat} {e : Entry} (h : ¬ e.IsReport link) :
    e.appended link = [] := by
  obtain ⟨p, _ | m, q⟩ := e
  · rfl
  · cases m with
    | report l clock r =>
      have hl : l ≠ link := by
        rintro rfl
        exact h ⟨clock, r, rfl⟩
      simp only [appended, hl, false_and, if_false]
      split <;> rfl
    | _ => rfl

/-- A collector that knows the number takes just what is new. -/
theorem Entry.appended_eq_news {d : Device} {link : Nat} {n : UInt32} {e : Entry} {c : Collector}
    (hc : e.before.collector? link = some c) (hp : c.phase = .active) (hb : c.boundary = some n)
    (hd : c.deviceId = d.id) (hids : c.ids = Event.externalIds d.outputs) :
    e.appended link = e.news d link n := by
  obtain ⟨p, _ | m, q⟩ := e
  · rfl
  · cases m with
    | report l clock r =>
      have hevents : c.events clock r = (Collector.make d.id d.outputs).events clock r := by
        simp only [Collector.events, Collector.make, hd, hids]
      have hstale : c.isStale r = !r.sequence.all (n ≤ ·) := by
        simp only [Collector.isStale, hb]
        cases r.sequence with
        | none => rfl
        | some k => simp [← UInt32.not_le]
      simp only [appended, news, hc, ← hevents]
      cases hall : r.sequence.all (n ≤ ·) with
      | false =>
        have hv : c.verdict r ≠ .taken := fun hv => by
          simpa [hstale, hall] using Collector.isStale_of_taken hv
        simp [hv]
      | true =>
        by_cases hv : c.verdict r = .taken
        · simp [hv]
        · have hnone : c.events clock r = [] :=
            Collector.events_of_not_taken hp hv (by simp [hstale, hall]) clock
          simp [hnone]
    | _ => rfl

/-! ## What the listener gives up -/

/-- The events that a listener gives up to be sent, if there are any. -/
def Action.offered? : (a : Action) → a.Answer → Option EventBatch
  | .hangUp _, some b => if b.notifications = [] then none else some b
  | _, _ => none

/-- The events that listeners gave up to be sent. -/
def offered (log : List Entry) : List EventBatch := log.filterMap (Entry.did? Action.offered?)

/-- The events that are still to be sent. -/
def Standing.pending : Standing → List EventBatch
  | parting _ _ (.told held) => Held.pending held
  | _ => []

theorem Standing.Step.handed_pending {limit : Nat} {x y : Standing} {a : Action}
    {answer : a.Answer} (h : Step limit x a answer y) (i : Nat) (p q : Plant) :
    Entry.handed ⟨p, .did i a answer, q⟩ ++ y.pending =
      x.pending ++ (a.offered? answer).toList := by
  cases h with
  | quiet ha => cases a <;> first | exact (List.append_nil _).symm | exact ha.elim
  | drain hd =>
    have hoffered : a.offered? answer = none := by
      rcases drain_cases hd with ⟨b, rfl⟩ | ⟨c, n, rfl⟩ | rfl <;> rfl
    rw [hoffered]
    exact (handed_drain hd).trans (List.append_nil _).symm
  | @tell j l answer =>
    cases answer with
    | none => rfl
    | some b =>
      by_cases hb : b.notifications = [] <;>
        simp [Entry.handed, pending, Held.pending, Action.offered?, hb]
  | unenabled => exact (List.append_nil _).symm
  | schedule hx => rcases hx.cases with rfl | rfl | ⟨n, rfl⟩ <;> rfl
  | part hx => rcases hx.cases with rfl | rfl <;> rfl
  | _ => rfl

/-- What the listener gave up was sent, or is still to be sent. -/
theorem Tale.offered_eq {limit : Nat} {p q : Plant} {log : List Entry} {x : Standing}
    (h : Tale limit p log q x) : handed log ++ x.pending = offered log := by
  induction h with
  | start => rfl
  | @act log q q' x y i a answer _ _ hs ih =>
    rw [handed_concat, List.append_assoc, hs.handed_pending, ← List.append_assoc, ih, offered,
      offered, List.filterMap_append]
    cases ho : a.offered? answer <;> simp [Entry.did?, ho]
  | meet _ e ih =>
    rw [handed_concat, offered, List.filterMap_append, ← offered, ← ih]
    simp [Entry.handed, Entry.did?]
  | takeUp _ ih => exact ih

theorem offered_of_told {log : List Entry} (h : told log = []) : offered log = [] := by
  refine List.filterMap_eq_nil_iff.2 fun e he => ?_
  have hnone := List.filterMap_eq_nil_iff.1 h e he
  obtain ⟨p, d | m, q⟩ := e
  · rename_i a answer
    cases a <;> first | rfl | cases hnone
  · rfl

/-! ## The collector of a session -/

/-- The collector of a link is the one that was put there, and it knows a boundary if it was told
one. -/
def Attended (c₀ : Collector) (link : Nat) (log : List Entry) (p : Plant) : Prop :=
  ∃ c, p.collector? link = some c ∧ c.deviceId = c₀.deviceId ∧ c.ids = c₀.ids ∧
    ((∃ e ∈ log, ∃ n, e.IsBoundary link n) → c.boundary.isSome)

theorem Collector.receive_kept (c : Collector) (clock : Clock) (r : Report) :
    (c.receive clock r).deviceId = c.deviceId ∧ (c.receive clock r).ids = c.ids ∧
      (c.receive clock r).boundary = c.boundary := by
  unfold receive
  split <;> exact ⟨rfl, rfl, rfl⟩

theorem Collector.startDrain_kept (c : Collector) :
    c.startDrain.2.deviceId = c.deviceId ∧ c.startDrain.2.ids = c.ids ∧
      c.startDrain.2.boundary = c.boundary := by
  unfold startDrain
  split <;> exact ⟨rfl, rfl, rfl⟩

theorem Action.onCollector_kept (link : Nat) (a : Action) (c : Collector) :
    (a.onCollector link c).deviceId = c.deviceId ∧ (a.onCollector link c).ids = c.ids ∧
      (c.boundary.isSome → (a.onCollector link c).boundary.isSome) := by
  cases a with
  | activate l =>
    simp only [onCollector]
    split
    · unfold Collector.activate
      split <;> exact ⟨rfl, rfl, id⟩
    · exact ⟨rfl, rfl, id⟩
  | setBoundary l n =>
    simp only [onCollector]
    split
    · exact ⟨rfl, rfl, fun _ => rfl⟩
    · exact ⟨rfl, rfl, id⟩
  | hangUp l =>
    simp only [onCollector]
    split
    · obtain ⟨hd, hids, hb⟩ := c.startDrain_kept
      exact ⟨hd, hids, fun h => hb ▸ h⟩
    · exact ⟨rfl, rfl, id⟩
  | settle l =>
    simp only [onCollector]
    split <;> exact ⟨rfl, rfl, id⟩
  | _ => exact ⟨rfl, rfl, id⟩

theorem Attended.act {c₀ : Collector} {link i : Nat} {log : List Entry} {p q : Plant} {a : Action}
    {answer : a.Answer} (h : Attended c₀ link log p) (hl : link < p.links.length)
    (ha : p.Answers a answer q) : Attended c₀ link (log ++ [⟨p, .did i a answer, q⟩]) q := by
  obtain ⟨c, hc, hd, hids, hb⟩ := h
  obtain ⟨hd', hids', hb'⟩ := a.onCollector_kept link c
  refine ⟨a.onCollector link c, by rw [ha.collector? hl, hc]; rfl, hd'.trans hd, hids'.trans hids,
    ?_⟩
  rintro ⟨e, he, n, hn⟩
  rcases List.mem_append.1 he with he | he
  · exact hb' (hb ⟨e, he, n, hn⟩)
  · obtain rfl := List.mem_singleton.1 he
    obtain rfl : a = .setBoundary link n := hn
    simp [Action.onCollector, Collector.setBoundary]

theorem Attended.meet {c₀ : Collector} {link : Nat} {log : List Entry} {p : Plant} (m : Incident)
    (h : Attended c₀ link log p) :
    Attended c₀ link (log ++ [⟨p, .met m, p.meet m⟩]) (p.meet m) := by
  obtain ⟨c, hc, hd, hids, hb⟩ := h
  have hkept : (m.onCollector link c).deviceId = c.deviceId ∧
      (m.onCollector link c).ids = c.ids ∧
      (m.onCollector link c).boundary = c.boundary := by
    cases m with
    | report l clock r =>
      simp only [Incident.onCollector]
      split
      · exact c.receive_kept clock r
      · exact ⟨rfl, rfl, rfl⟩
    | _ => exact ⟨rfl, rfl, rfl⟩
  obtain ⟨hd', hids', hb'⟩ := hkept
  refine ⟨m.onCollector link c, by rw [Plant.collector?_meet, hc]; rfl, hd'.trans hd,
    hids'.trans hids, ?_⟩
  rintro ⟨e, he, n, hn⟩
  rw [hb']
  rcases List.mem_append.1 he with he | he
  · exact hb ⟨e, he, n, hn⟩
  · obtain rfl := List.mem_singleton.1 he
    exact hn.elim

/-- Before there is an association, no collector is told anything. -/
theorem Tale.plain_of_unopened {limit : Nat} {p q : Plant} {log : List Entry} {x : Standing}
    (h : Tale limit p log q x) (hx : x.link? = none) : ∀ e ∈ log, e.Kept Action.IsPlain := by
  induction h with
  | start => simp
  | @act log q q' x y i a answer _ _ hs ih =>
    obtain ⟨heq, hor⟩ := hs.link?_eq
    rw [hx, eq_comm, Option.or_eq_none_iff] at heq
    refine List.forall_mem_append.2 ⟨ih heq.2, List.forall_mem_singleton.2 ?_⟩
    have hunopened : x = unopened := by
      cases x <;> first | rfl | cases heq.2
    subst hunopened
    cases hs with
    | quiet ha => exact Action.isPlain_of_isQuiet ha
    | unreached | link | unenabled => trivial
    | schedule hwait => exact hwait.elim
    | part hpart => exact hpart.elim
  | meet _ m ih => exact List.forall_mem_append.2 ⟨ih hx, List.forall_mem_singleton.2 trivial⟩
  | takeUp _ _ => cases hx

theorem Tale.attended {limit : Nat} {p q : Plant} {log : List Entry} {x : Standing} {link : Nat}
    {c₀ : Collector} (h : Tale limit p log q x) (hl : x.link? = some link)
    (hlog : ∀ e ∈ log, e.Kept (Action.Attaches (.events c₀))) : Attended c₀ link log q := by
  induction h with
  | start => cases hl
  | @act log q q' x y i a answer ht ha hs ih =>
    obtain ⟨hkept, hlast⟩ := List.forall_mem_append.1 hlog
    obtain ⟨heq, hor⟩ := hs.link?_eq
    cases hm : a.made answer with
    | none =>
      rw [hm, Option.none_or, hl] at heq
      exact (ih heq.symm hkept).act (ht.link heq.symm).2.1 ha
    | some l =>
      -- The link was made just now, and the collector is as it was put there.
      rw [hm, Option.some_or, hl] at heq
      obtain rfl := Option.some.inj heq
      obtain rfl : x = unopened := by simpa [hm] using hor
      cases a with
      | associate host port listener =>
        cases answer with
        | error f => cases hm
        | ok l =>
          obtain rfl := Option.some.inj hm
          obtain ⟨hnew, hlinks⟩ := ha.associate
          obtain rfl : listener = .events c₀ := by simpa [Entry.Kept, Action.Attaches] using hlast
          refine ⟨c₀, Plant.collector?_eq_some.2 ?_, rfl, rfl, ?_⟩
          · simp [Plant.listener?, hlinks, hnew]
          · rintro ⟨e, he, n, hn⟩
            rcases List.mem_append.1 he with he | he
            · have hplain := ht.plain_of_unopened rfl e he
              obtain ⟨p₁, event, q₁⟩ := e
              cases event with
              | did j b answer =>
                have hno : b.IsPlain := hplain
                rw [show b = .setBoundary _ n from hn] at hno
                exact hno.elim
              | met m => exact hn.elim
            · obtain rfl := List.mem_singleton.1 he
              cases hn
      | _ => cases hm
  | meet _ m ih => exact (ih hl (List.forall_mem_append.1 hlog).1).meet m
  | takeUp _ ih => exact ih hl hlog

/-- A collector that was told the number, and not yet that the session is over, takes reports from
the number on. -/
theorem Heard.minded {link : Nat} {n : UInt32} {log : List Entry} {p : Plant} {x : Standing}
    {c : Collector} (h : Heard link log p x) (hn : n ∈ sequences log) (ht : x.told = [])
    (hc : p.collector? link = some c) (hb : c.boundary.isSome) : Minded link n log p := by
  have htold : sequences log ≠ [] := List.ne_nil_of_mem hn
  have hdeaf : ¬ Deaf link log p := by
    intro hd
    rw [(hd.collector c hc).2.2] at hb
    cases hb
  have heager : ¬ Eager link log p := by
    intro he
    rw [(he.collector c hc).2.1] at hb
    cases hb
  have hmine : ∀ {m}, Minded link m log p ∧ sequences log = [m] → Minded link n log p := by
    rintro m ⟨h, hm⟩
    rw [hm] at hn
    rw [List.mem_singleton.1 hn]
    exact h
  cases x with
  | unopened => exact absurd h.2 htold
  | linked _ | lost _ | abandoned _ | opened _ => exact absurd h.1 hdeaf
  | reporting _ => exact absurd h hdeaf
  | listening _ | enabled _ _ => exact absurd h.1 heager
  | bounded _ _ => exact hmine h
  | scheduled _ _ _ | due _ =>
    rcases h with h | ⟨m, h⟩
    · exact absurd h hdeaf
    · exact hmine h
  | parting byJob _ part =>
    match byJob, part with
    | true, .retired | true, .released =>
      rcases h with h | ⟨m, h⟩
      · exact absurd h hdeaf
      · exact hmine h
    | false, .retired | false, .released =>
      rcases h with h | h
      · exact absurd h hdeaf
      · exact absurd h htold
    | true, .told _ | false, .told _ => cases ht

end FieldGateway
