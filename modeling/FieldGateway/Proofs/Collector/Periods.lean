import FieldGateway.Proofs.Collector.Redelivery
import FieldGateway.Proofs.Gateway.Gathering
import FieldGateway.Proofs.Plant.Alone
import FieldGateway.Proofs.Plant.Outbox

/-!
# The periods of a collector

Where one thing happens to a collector after the other, what it sends can be told from the sequence
alone. The ends of sessions cut the sequence into periods; of each period the events of those
reports are sent that came in after it was activated and were not from before the boundary, which
lasts from one period to the next. Reports that break off are as if they had not come in.

* `Happening.adds`, `Happening.periods`, `Happening.batches`: what is to be sent, by what happened.
* `Plant.Stands.undergo_meets`, `Plant.Stands.undergo_ends`: what one thing does to the collector.
* `Collector.sent_by_periods`: what was sent is what is to be sent.
-/

namespace FieldGateway

open Collector (inOrder)

/-- What happens to a collector. -/
inductive Happening where
  | meets (delivery : Delivery)
  /-- The session ends; why events cannot be sent then, if they cannot. -/
  | ends (obstacle : Option String)

/-! ## What is to be sent -/

namespace Happening

def delivery? : Happening → Option Delivery
  | meets d => some d
  | ends _ => none

def isEnd : Happening → Bool
  | ends _ => true
  | meets _ => false

def isActivation : Happening → Bool
  | meets .activate => true
  | _ => false

/-- Whether reports are taken after what happened: there was an activation since a session ended
last. -/
def isAwake (past : List Happening) : Bool :=
  (past.reverse.takeWhile (!·.isEnd)).any isActivation

/-- The events that come in, after what happened before: those of a report that is taken and not
from before the boundary that was set last, without the members that are no events. -/
def adds (deviceId : String) (outputs : List OutputSetting) (past : List Happening) :
    Happening → List Notification
  | meets (.report clock r) =>
    if isAwake past && !r.overtakenIn (past.filterMap delivery?) then
      (r.timed clock).filterMap fun (m, now) =>
        (Event.ofMember deviceId (Event.externalIds outputs) r.time? now m).toOption
    else []
  | _ => []

/-- What happened, each with all that happened before it. -/
def withPast (past : List Happening) : List Happening → List (List Happening × Happening)
  | [] => []
  | h :: hs => (past, h) :: withPast (past ++ [h]) hs

/-- The events of each period, the one that has not ended included. -/
def shares (deviceId : String) (outputs : List OutputSetting) (past hs : List Happening) :
    List (List Notification) :=
  ((withPast past hs).splitOnP (·.2.isEnd)).map (·.flatMap fun e => e.2.adds deviceId outputs e.1)

/-- The events of each period that has ended, in the order in which they came in. -/
def periods (deviceId : String) (outputs : List OutputSetting) (hs : List Happening) :
    List (List Notification) :=
  (shares deviceId outputs [] hs).dropLast

/-- What is sent of a period; nothing if there were no events. -/
def batch? (deviceId : String) (period : List Notification) : Option EventBatch :=
  if period = [] then none else some ⟨deviceId, inOrder period⟩

/-- The batches that are sent, from what happened alone. -/
def batches (deviceId : String) (outputs : List OutputSetting) (hs : List Happening) :
    List EventBatch :=
  (periods deviceId outputs hs).filterMap (batch? deviceId)

/-- What happened, as if no report told that others follow or were dropped. -/
def unflagged : Happening → Happening
  | meets (.report clock r) =>
    meets (.report clock { r with continued := false, overflow := false })
  | h => h

/-- Whether a report broke off. -/
def breaksOff : Happening → Bool
  | meets (.report _ r) => r.breaksOff
  | _ => false

/-- What happened, but for the reports that broke off. -/
def unbroken (hs : List Happening) : List Happening := hs.filter (!·.breaksOff)

variable {deviceId : String} {outputs : List OutputSetting} {past hs : List Happening}

theorem unbroken_cons_of_breaksOff {h : Happening} (hx : h.breaksOff = true) :
    unbroken (h :: hs) = unbroken hs := List.filter_cons_of_neg (by simp [hx])

theorem unbroken_cons {h : Happening} (hx : h.breaksOff = false) :
    unbroken (h :: hs) = h :: unbroken hs := List.filter_cons_of_pos (by simp [hx])

theorem isAwake_concat (past : List Happening) (h : Happening) :
    isAwake (past ++ [h]) = (!h.isEnd && (h.isActivation || isAwake past)) := by
  simp only [isAwake, List.reverse_append, List.reverse_singleton, List.singleton_append,
    List.takeWhile_cons]
  cases h.isEnd <;> simp

theorem shares_ne_nil : shares deviceId outputs past hs ≠ [] := by
  simp [shares, List.splitOnP_ne_nil]

theorem shares_cons_end {h : Happening} (hend : h.isEnd = true) :
    shares deviceId outputs past (h :: hs) =
      [] :: shares deviceId outputs (past ++ [h]) hs := by
  simp [shares, withPast, List.splitOnP_cons_eq_if_modifyHead, hend]

theorem shares_cons {h : Happening} (hend : h.isEnd = false) :
    shares deviceId outputs past (h :: hs) =
      (shares deviceId outputs (past ++ [h]) hs).modifyHead
        (h.adds deviceId outputs past ++ ·) := by
  simp only [shares, withPast, List.splitOnP_cons_eq_if_modifyHead, hend]
  cases (withPast (past ++ [h]) hs).splitOnP (·.2.isEnd) <;> simp

theorem modifyHead_shares :
    (shares deviceId outputs past hs).modifyHead ([] ++ ·) = shares deviceId outputs past hs := by
  cases shares deviceId outputs past hs <;> rfl

/-- Of each period with events one batch is sent, with the events by their times. -/
theorem forall₂_batches :
    List.Forall₂ (fun period batch => batch.deviceId = deviceId ∧ ByTime period batch.notifications)
      ((periods deviceId outputs hs).filter (!·.isEmpty)) (batches deviceId outputs hs) := by
  unfold batches
  induction periods deviceId outputs hs with
  | nil => exact .nil
  | cons period rest ih =>
    by_cases hnone : period = []
    · simpa [batch?, hnone] using ih
    · simpa [batch?, hnone] using ⟨Collector.byTime_inOrder period, ih⟩

/-! ### What is told of other reports -/

theorem isEnd_unflagged (h : Happening) : h.unflagged.isEnd = h.isEnd := by
  rcases h with (_ | _ | _) | _ <;> rfl

theorem isAwake_unflagged : isAwake (past.map unflagged) = isAwake past := by
  have hactivation (h : Happening) : h.unflagged.isActivation = h.isActivation := by
    rcases h with (_ | _ | _) | _ <;> rfl
  rw [isAwake, ← List.map_reverse, List.takeWhile_map, List.any_map]
  simp only [Function.comp_def, isEnd_unflagged, hactivation]
  rfl

theorem lastBoundary_unflagged :
    Delivery.lastBoundary ((past.map unflagged).filterMap delivery?) =
      Delivery.lastBoundary (past.filterMap delivery?) := by
  have hboundary (h : Happening) :
      h.unflagged.delivery?.bind Delivery.boundary? = h.delivery?.bind Delivery.boundary? := by
    rcases h with (_ | _ | _) | _ <;> rfl
  simp only [Delivery.lastBoundary, List.filterMap_filterMap, List.filterMap_map,
    Function.comp_def, hboundary]

theorem adds_unflagged (h : Happening) :
    h.unflagged.adds deviceId outputs (past.map unflagged) = h.adds deviceId outputs past := by
  rcases h with (_ | _ | ⟨clock, r⟩) | _
  case meets.report =>
    have hover : Report.overtakenIn { r with continued := false, overflow := false }
        ((past.map unflagged).filterMap delivery?) = r.overtakenIn (past.filterMap delivery?) := by
      unfold Report.overtakenIn
      rw [lastBoundary_unflagged]
    simp only [unflagged, adds, isAwake_unflagged, hover]
    rfl
  all_goals rfl

theorem shares_unflagged (past hs : List Happening) :
    shares deviceId outputs (past.map unflagged) (hs.map unflagged) =
      shares deviceId outputs past hs := by
  induction hs generalizing past with
  | nil => rfl
  | cons h hs ih =>
    have hnext := ih (past ++ [h])
    rw [List.map_append, List.map_singleton] at hnext
    rw [List.map_cons]
    cases hend : h.isEnd with
    | true =>
      rw [shares_cons_end hend, shares_cons_end (h.isEnd_unflagged.trans hend), hnext]
    | false =>
      rw [shares_cons hend, shares_cons (h.isEnd_unflagged.trans hend), hnext, adds_unflagged]

theorem unbroken_unflagged (hs : List Happening) :
    unbroken (hs.map unflagged) = (unbroken hs).map unflagged := by
  have hbreaks (h : Happening) : h.unflagged.breaksOff = h.breaksOff := by
    rcases h with (_ | _ | _) | _ <;> rfl
  simp only [unbroken, List.filter_map, Function.comp_def, hbreaks]

theorem batches_unflagged (hs : List Happening) :
    batches deviceId outputs (hs.map unflagged) = batches deviceId outputs hs := by
  have hshares : shares deviceId outputs [] (hs.map unflagged) = shares deviceId outputs [] hs :=
    shares_unflagged [] hs
  rw [batches, periods, hshares, batches, periods]

end Happening

/-! ## What a collector becomes -/

namespace Collector

variable {deviceId : String} {outputs : List OutputSetting} {past : List Happening}
  {pending : List Notification}

/-- The collector after what happened, with the events that are still to be sent. -/
def after (deviceId : String) (outputs : List OutputSetting) (past : List Happening)
    (pending : List Notification) : Collector where
  deviceId
  ids := Event.externalIds outputs
  phase := if Happening.isAwake past then .active else .idle
  buffer := pending
  boundary := Delivery.lastBoundary (past.filterMap Happening.delivery?)

theorem activate_after :
    (after deviceId outputs past pending).activate =
      after deviceId outputs (past ++ [Happening.meets .activate]) pending := by
  have hawake : Happening.isAwake (past ++ [Happening.meets .activate]) = true := by
    simp [Happening.isAwake_concat, Happening.isEnd, Happening.isActivation]
  have hboundary : Delivery.lastBoundary
      ((past ++ [Happening.meets .activate]).filterMap Happening.delivery?) =
        Delivery.lastBoundary (past.filterMap Happening.delivery?) := by
    simp [Delivery.lastBoundary, Happening.delivery?, Delivery.boundary?]
  unfold after
  rw [hawake, hboundary]
  cases Happening.isAwake past <;> rfl

theorem setBoundary_after (n : UInt32) :
    (after deviceId outputs past pending).setBoundary n =
      after deviceId outputs (past ++ [.meets (.boundary n)]) pending := by
  simp [after, setBoundary, Happening.isAwake_concat, Happening.isEnd, Happening.isActivation,
    Delivery.lastBoundary, Happening.delivery?, Delivery.boundary?]

/-- A collector takes of a report what is told of it by what happened. -/
theorem receive_after {r : Report} (hr : r.breaksOff = false) (clock : Clock) :
    (after deviceId outputs past pending).receive clock r =
      after deviceId outputs (past ++ [.meets (.report clock r)])
        (pending ++ (Happening.meets (.report clock r)).adds deviceId outputs past) := by
  have hnext : ∀ events, after deviceId outputs (past ++ [.meets (.report clock r)]) events =
      { after deviceId outputs past pending with buffer := events } := by
    intro events
    simp [after, Happening.isAwake_concat, Happening.isEnd, Happening.isActivation,
      Delivery.lastBoundary, Happening.delivery?, Delivery.boundary?]
  have hstale : (after deviceId outputs past pending).isStale r =
      r.overtakenIn (past.filterMap Happening.delivery?) := rfl
  have hevents : (after deviceId outputs past pending).events clock r =
      (r.timed clock).filterMap fun (m, now) =>
        (Event.ofMember deviceId (Event.externalIds outputs) r.time? now m).toOption := by
    rw [events, hr]
    rfl
  have hvacant : r.members.isEmpty = true →
      (after deviceId outputs past pending).events clock r = [] := fun h => by
    rw [hevents, Report.timed, List.isEmpty_iff.1 h, List.mapIdx_nil, List.filterMap_nil]
  rw [hnext]
  simp only [receive, verdict, hr, Bool.false_eq_true, if_false, Happening.adds, hstale, ← hevents]
  cases hawake : Happening.isAwake past with
  | false => simp [after, hawake]
  | true =>
    cases r.overtakenIn (past.filterMap Happening.delivery?) <;>
      cases hmembers : r.members.isEmpty <;> simp_all [after]

theorem phase_after_ne_draining : (after deviceId outputs past pending).phase ≠ .draining := by
  unfold after
  cases Happening.isAwake past <;> simp

/-- A collector that was drained is as it is after a session has ended. -/
theorem drained_after (obstacle : Option String) :
    (after deviceId outputs past pending).startDrain.2.finishDrain =
      after deviceId outputs (past ++ [.ends obstacle]) [] := by
  rw [Collector.startDrain_of_ne phase_after_ne_draining]
  simp [after, finishDrain, Happening.isAwake_concat, Happening.isEnd, List.filterMap_cons,
    Happening.delivery?]

end Collector

/-! ## What happens in a plant -/

namespace Plant

/-- The plant after something happened to the collector of a link and was dealt with to the end. -/
def undergo (link : Nat) (p : Plant) : Happening → Plant
  | .meets .activate => (p.perform (.activate link)).2
  | .meets (.boundary n) => (p.perform (.setBoundary link n)).2
  | .meets (.report clock r) => p.meet (.report link clock r)
  | .ends obstacle =>
    (runAlone (Session.hangUp link)
      (p.meet (.blockage { p.blockage with events := obstacle }))).2

def undergoAll (link : Nat) (p : Plant) (hs : List Happening) : Plant := hs.foldl (undergo link) p

/-- What collects at a link, and the batches that were sent so far. -/
structure Stands (link : Nat) (c : Collector) (sent : List EventBatch) (p : Plant) : Prop where
  collector : p.collector? link = some c
  events : p.outbox.events = sent

variable {deviceId : String} {outputs : List OutputSetting} {link : Nat} {past : List Happening}
  {pending : List Notification} {p : Plant} {c : Collector} {sent : List EventBatch}

namespace Stands

theorem length (h : p.Stands link c sent) : link < p.links.length := by
  obtain ⟨l, hl, -⟩ := Option.bind_eq_some_iff.1 h.collector
  exact (List.getElem?_eq_some_iff.1 hl).1

theorem perform (h : p.Stands link c sent) (a : Action) :
    (p.perform a).2.Stands link (a.onCollector link c) (a.sent p.outbox).events where
  collector := by rw [collector?_perform a h.length, h.collector, Option.map_some]
  events := by rw [outbox_perform]

theorem meet (h : p.Stands link c sent) (e : Incident) :
    (p.meet e).Stands link (e.onCollector link c) sent where
  collector := by rw [collector?_meet, h.collector, Option.map_some]
  events := by rw [(sent_meet e).2, h.events]

/-- Events are sent if there are any, whether that fails or not. -/
theorem sendEvents (h : p.Stands link c sent) (batch : EventBatch) :
    (runAlone (Session.sendEvents batch) p).2.Stands link c
      (sent ++ if batch.notifications = [] then [] else [batch]) := by
  unfold Session.sendEvents
  by_cases hnone : batch.notifications = []
  · rw [if_pos hnone, if_pos (List.isEmpty_iff.2 hnone), List.append_nil]
    exact h
  · have hsent : (p.perform (.sendEvents batch)).2.Stands link c (sent ++ [batch]) := by
      simpa [Action.onCollector, Action.sent, h.events] using h.perform (.sendEvents batch)
    have hcounted (counter : Counter) (n : Nat) :
        ((p.perform (.sendEvents batch)).2.perform (.count counter n)).2.Stands link c
          (sent ++ [batch]) := by
      simpa [Action.onCollector, Action.sent, hsent.events] using hsent.perform (.count counter n)
    rw [if_neg hnone, if_neg (by simpa using hnone), runAlone_bind]
    -- whatever the answer, only a counter is moved on
    split <;> exact hcounted _ _

/-- The end of a session: the events are sent if there are any, and the collector is drained. -/
theorem hangUp (h : p.Stands link c sent) (hc : c.phase ≠ .draining) :
    (runAlone (Session.hangUp link) p).2.Stands link c.startDrain.2.finishDrain
      (sent ++ if c.buffer = [] then [] else [⟨c.deviceId, inOrder c.buffer⟩]) := by
  have hanswer : (runAlone (Action.hangUp link).perform p).1 =
      some ⟨c.deviceId, inOrder c.buffer⟩ := by
    change (p.hangUp link).1 = _
    rw [hangUp_of_some h.collector, Collector.startDrain_of_ne hc, Option.map_some]
  have hdrained : (p.perform (.hangUp link)).2.Stands link c.startDrain.2 sent := by
    simpa [Action.onCollector, Action.sent, h.events] using h.perform (.hangUp link)
  have hsent := hdrained.sendEvents ⟨c.deviceId, inOrder c.buffer⟩
  simp only [Collector.inOrder_eq_nil] at hsent
  have hsettled := hsent.perform (.settle link)
  simp only [Action.onCollector, if_true, Action.sent, hsent.events] at hsettled
  rw [Session.hangUp, runAlone_bind, hanswer]
  dsimp only
  rw [runAlone_bind]
  exact hsettled

/-- A report that breaks off changes nothing for the collector. -/
theorem undergo_of_breaksOff (h : p.Stands link c sent) {x : Happening} (hx : x.breaksOff = true) :
    (p.undergo link x).Stands link c sent := by
  rcases x with (_ | _ | ⟨clock, r⟩) | _
  case meets.report =>
    simpa [undergo, Incident.onCollector, Collector.receive_of_breaksOff hx] using
      h.meet (.report link clock r)
  all_goals cases hx

/-- What happens to a collector before the end of the session. -/
theorem undergo_meets (h : p.Stands link (Collector.after deviceId outputs past pending) sent)
    {d : Delivery} (hd : (Happening.meets d).breaksOff = false) :
    (p.undergo link (.meets d)).Stands link
      (Collector.after deviceId outputs (past ++ [.meets d])
        (pending ++ (Happening.meets d).adds deviceId outputs past)) sent := by
  cases d with
  | activate =>
    rw [show (Happening.meets .activate).adds deviceId outputs past = [] from rfl, List.append_nil,
      ← Collector.activate_after]
    simpa [undergo, Action.onCollector, Action.sent, h.events] using h.perform (.activate link)
  | boundary n =>
    rw [show (Happening.meets (.boundary n)).adds deviceId outputs past = [] from rfl,
      List.append_nil, ← Collector.setBoundary_after]
    simpa [undergo, Action.onCollector, Action.sent, h.events] using
      h.perform (.setBoundary link n)
  | report clock r =>
    rw [← Collector.receive_after hd]
    simpa [undergo, Incident.onCollector] using h.meet (.report link clock r)

theorem undergo_ends (h : p.Stands link (Collector.after deviceId outputs past pending) sent)
    (obstacle : Option String) :
    (p.undergo link (.ends obstacle)).Stands link
      (Collector.after deviceId outputs (past ++ [.ends obstacle]) [])
      (sent ++ (Happening.batch? deviceId pending).toList) := by
  have hblocked : (p.meet (.blockage { p.blockage with events := obstacle })).Stands link
      (Collector.after deviceId outputs past pending) sent :=
    h.meet (.blockage _)
  have hended := hblocked.hangUp Collector.phase_after_ne_draining
  rw [Collector.drained_after obstacle] at hended
  have hbatch : (if pending = [] then [] else [⟨deviceId, inOrder pending⟩]) =
      (Happening.batch? deviceId pending).toList := by
    unfold Happening.batch?
    split <;> rfl
  rw [← hbatch]
  exact hended

/-- After any happenings, what was sent are the batches of the periods that have ended; the events
that are pending stand before those of the first one. -/
theorem undergoAll (h : p.Stands link (Collector.after deviceId outputs past pending) sent)
    (hs : List Happening) :
    ∃ rest, (p.undergoAll link hs).Stands link
      (Collector.after deviceId outputs (past ++ Happening.unbroken hs) rest)
      (sent ++ ((Happening.shares deviceId outputs past (Happening.unbroken hs)).modifyHead
        (pending ++ ·)).dropLast.filterMap (Happening.batch? deviceId)) := by
  induction hs generalizing p past pending sent with
  | nil =>
    exact ⟨pending, by
      simpa [Plant.undergoAll, Happening.unbroken, Happening.shares, Happening.withPast] using h⟩
  | cons x hs ih =>
    cases hx : x.breaksOff with
    | true =>
      obtain ⟨rest, hrest⟩ := ih (h.undergo_of_breaksOff hx)
      refine ⟨rest, ?_⟩
      rw [Happening.unbroken_cons_of_breaksOff hx]
      exact hrest
    | false =>
      rw [Happening.unbroken_cons hx]
      cases x with
      | meets d =>
        obtain ⟨rest, hrest⟩ := ih (h.undergo_meets hx)
        refine ⟨rest, ?_⟩
        rw [List.append_assoc] at hrest
        rw [Happening.shares_cons rfl, List.modifyHead_modifyHead]
        simpa [Plant.undergoAll, Function.comp_def] using hrest
      | ends obstacle =>
        obtain ⟨rest, hrest⟩ := ih (h.undergo_ends obstacle)
        refine ⟨rest, ?_⟩
        rw [List.append_assoc] at hrest
        rw [Happening.shares_cons_end rfl, List.modifyHead_cons,
          List.dropLast_cons_of_ne_nil Happening.shares_ne_nil, List.append_nil]
        rw [Happening.modifyHead_shares] at hrest
        cases hb : Happening.batch? deviceId pending <;>
          simpa [Plant.undergoAll, List.filterMap_cons, hb] using hrest

end Stands

end Plant

namespace Collector

variable {deviceId : String} {outputs : List OutputSetting} {link : Nat} {p : Plant}

/-- Whatever happens to a new collector, one thing after the other, and whether events can be sent
or not: the batches that are sent are told by what happens alone, but for the reports that break
off, one for each period with events, with those events by their times; and it is of no matter
whether reports tell that others follow or were dropped. -/
theorem sent_by_periods (hp : p.listener? link = some (.events (make deviceId outputs)))
    (hs : List Happening) :
    (p.undergoAll link hs).outbox.events =
        p.outbox.events ++ Happening.batches deviceId outputs (Happening.unbroken hs) ∧
      List.Forall₂
        (fun period batch => batch.deviceId = deviceId ∧ ByTime period batch.notifications)
        ((Happening.periods deviceId outputs (Happening.unbroken hs)).filter (!·.isEmpty))
        (Happening.batches deviceId outputs (Happening.unbroken hs)) ∧
      ∀ hs' : List Happening, hs'.map Happening.unflagged = hs.map Happening.unflagged →
        (p.undergoAll link hs').outbox.events = (p.undergoAll link hs).outbox.events := by
  have hstart : p.Stands link (after deviceId outputs [] []) p.outbox.events :=
    ⟨Plant.collector?_eq_some.2 hp, rfl⟩
  have hsent (hs : List Happening) : (p.undergoAll link hs).outbox.events =
      p.outbox.events ++ Happening.batches deviceId outputs (Happening.unbroken hs) := by
    obtain ⟨rest, hrest⟩ := hstart.undergoAll hs
    rw [hrest.events, Happening.modifyHead_shares]
    rfl
  refine ⟨hsent hs, Happening.forall₂_batches, fun hs' hsame => ?_⟩
  rw [hsent hs', hsent hs, ← Happening.batches_unflagged (Happening.unbroken hs'),
    ← Happening.unbroken_unflagged, hsame, Happening.unbroken_unflagged,
    Happening.batches_unflagged]

/-- A report that a light was switched on at some time, and of one thing that is no event. -/
def switchedOnAt (sequence : UInt32) (time : Int64) : Report :=
  { switchedOn with
    sequence := some sequence
    dataSet := some
      ⟨"SWDeviceGenericIO/LLN0.EvnRpn",
        [.ofList "SWDeviceGenericIO/CSLC.EvnRpn0" .bufferedReport [],
          .ofList "SWDeviceGenericIO/CSLC.EvnRpn1" .bufferedReport
            [("evnType", .int 11), ("swNum", .int 1), ("trgTime", .timestamp time)]]⟩ }

/-- A plant with one link, at which a new collector listens. -/
def newcomer : Plant :=
  { Plant.start .empty .empty 0 "" with
    links :=
      [⟨"10.0.0.1", .events (make "SSLD-1" [⟨1, 3, .light⟩]), false, false, false⟩] }

/-- Two periods that end twice each, the first while events cannot be sent. The boundary, which is
set in the first one, holds in the second one too. -/
def twoPeriods : List Happening :=
  let report (sequence : UInt32) (time : Int64) : Happening :=
    .meets (.report (.still 0) (switchedOnAt sequence time))
  [.meets .activate, .meets (.boundary 4), report 5 3000, report 3 1000, .ends (some "refused"),
    .ends none, report 6 4000, .meets .activate, report 7 9000, report 2 1000, report 8 7000,
    .ends none, .ends none]

theorem sent_by_periods_two :
    newcomer.listener? 0 = some (.events (make "SSLD-1" [⟨1, 3, .light⟩])) ∧
      ∃ first second, (newcomer.undergoAll 0 twoPeriods).outbox.events = [first, second] ∧
        ByTime [⟨"SSLD-1", 3000, .lightOn, "", 3⟩] first.notifications ∧
        ByTime [⟨"SSLD-1", 9000, .lightOn, "", 3⟩, ⟨"SSLD-1", 7000, .lightOn, "", 3⟩]
          second.notifications := by
  have hp : newcomer.listener? 0 = some (.events (make "SSLD-1" [⟨1, 3, .light⟩])) := by
    decide +kernel
  have hperiods : (Happening.periods "SSLD-1" [⟨1, 3, .light⟩]
      (Happening.unbroken twoPeriods)).filter (!·.isEmpty) =
        [[⟨"SSLD-1", 3000, .lightOn, "", 3⟩],
          [⟨"SSLD-1", 9000, .lightOn, "", 3⟩, ⟨"SSLD-1", 7000, .lightOn, "", 3⟩]] := by
    decide +kernel
  obtain ⟨hsent, hbatches, -⟩ := sent_by_periods hp twoPeriods
  rw [hperiods] at hbatches
  rw [hsent]
  generalize Happening.batches "SSLD-1" [⟨1, 3, .light⟩] (Happening.unbroken twoPeriods) = batches
    at hbatches
  cases hbatches with
  | cons hfirst hrest =>
    cases hrest with
    | cons hsecond hnone =>
      cases hnone
      exact ⟨hp, _, _, rfl, hfirst.2, hsecond.2⟩

/-- A period with one report. It tells when its event was triggered, but its time of entry cannot
be told. -/
def lateEntry : List Happening :=
  [.meets .activate,
    .meets (.report (.still 0) { switchedOnAt 5 3000 with entry := some Int64.maxValue }),
    .ends none]

/-- Its event is not sent, though what happened tells of it. -/
theorem late_entry_left_out :
    newcomer.listener? 0 = some (.events (make "SSLD-1" [⟨1, 3, .light⟩])) ∧
      Happening.batches "SSLD-1" [⟨1, 3, .light⟩] lateEntry =
        [⟨"SSLD-1", [⟨"SSLD-1", 3000, .lightOn, "", 3⟩]⟩] ∧
      newcomer.outbox.events = [] ∧ (newcomer.undergoAll 0 lateEntry).outbox.events = [] :=
  ⟨by decide +kernel, by decide +kernel, rfl, by decide +kernel⟩

end Collector

end FieldGateway
