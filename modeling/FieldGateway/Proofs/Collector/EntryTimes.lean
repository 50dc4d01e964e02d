import FieldGateway.Proofs.Collector.Redelivery
import FieldGateway.Proofs.Report.Relays
import Mathlib.Algebra.Group.Int.Defs

/-!
# Times of entry

A member without a time of its own happened when its report was entered. Times of entry are counted
from 1984; moved to 1970 they stay as they are, but those within fourteen years of the end of 64
bits cannot be moved at all: a report with such a time breaks off, and its events are lost.

* `Report.breaksOff_eq_false_iff`: which reports break off.
* `Collector.Enters`: the events that have their time from a time of entry.
* `Collector.entry_times_sent`: which reports are taken, the times of their events, and the order of
  these in the batch.
-/

namespace FieldGateway

namespace Report

/-- Holds of a time of entry that can be told as a time since 1970. -/
def Fits (t : Int64) : Prop := t.toInt + 441763200000 < 2 ^ 63

instance (t : Int64) : Decidable (Fits t) := inferInstanceAs (Decidable (_ < _))

theorem toInt_epochShift : epochShift.toInt = 441763200000 := by decide

theorem isSome_ofEntryTime?_iff {t : Int64} : (ofEntryTime? t).isSome ↔ Fits t := by
  have hlow := t.le_toInt
  have hmin : Int64.minValue.toInt = -2 ^ 63 := by decide
  have hmax : Int64.maxValue.toInt = 2 ^ 63 - 1 := by decide
  rw [ofEntryTime?, int64?, toInt_epochShift, hmin, hmax]
  unfold Fits
  split
  · exact iff_of_true rfl (by omega)
  · exact iff_of_false (by simp) (by omega)

/-- A report breaks off unless its time of entry can be told. -/
theorem breaksOff_eq_false_iff {r : Report} {t : Int64} (h : r.entry = some t) :
    r.breaksOff = false ↔ Fits t := by
  rw [breaksOff, h, Option.any_some, ← isSome_ofEntryTime?_iff]
  cases ofEntryTime? t <;> simp

end Report

namespace Collector

variable {c : Collector} {ds : List Delivery} {t : Int64} {e : Notification}

/-- An event that has its time from the time of entry `t`: that of a member without a time of its
own, of a report that the collector takes at some moment. -/
def Enters (c : Collector) (ds : List Delivery) (t : Int64) (e : Notification) : Prop :=
  ∃ before clock r after member now, ds = before ++ .report clock r :: after ∧
    (c.meetAll before).verdict r = .taken ∧ r.entry = some t ∧ (member, now) ∈ r.timed clock ∧
    (member.get? "trgTime").bind Value.timestamp? = none ∧
    Event.ofMember c.deviceId c.ids r.time? now member = .ok e

/-- Such an event has the time of entry, counted from 1970 on. -/
theorem Enters.time (h : c.Enters ds t e) : e.time.toInt = t.toInt + 441763200000 := by
  obtain ⟨before, clock, r, after, member, now, -, htaken, hentry, -, htrigger, he⟩ := h
  obtain ⟨kind, switch, -, rfl⟩ := Event.ofMember_eq_ok_iff.1 he
  have hfits : Report.Fits t :=
    (Report.breaksOff_eq_false_iff hentry).1 (verdict_eq_taken_iff.1 htaken).1
  obtain ⟨u, hu⟩ := Option.isSome_iff_exists.1 (Report.isSome_ofEntryTime?_iff.2 hfits)
  have htime : r.time? = some u := by rw [Report.time?, hentry, Option.bind_some, hu]
  rw [← Report.toInt_epochShift, ← Report.toInt_of_ofEntryTime? hu]
  simp [Event.time, htrigger, htime]

/-- Events that came in are held until the session ends. -/
theorem Enters.mem_buffer (hactive : c.phase = .active) (h : c.Enters ds t e) :
    e ∈ (c.meetAll ds).buffer := by
  obtain ⟨before, clock, r, after, member, now, rfl, htaken, -, hmember, -, he⟩ := h
  have hevents : e ∈ (c.meetAll before).events clock r := by
    rw [events_meetAll hactive, events, (verdict_eq_taken_iff.1 htaken).1,
      if_neg Bool.false_ne_true]
    exact List.mem_filterMap.2 ⟨(member, now), hmember, congrArg Except.toOption he⟩
  have hreceive := receive_of_taken htaken clock
  have hawake : ((c.meetAll before).receive clock r).phase = .active := by
    rw [hreceive]
    exact phase_meetAll hactive before
  rw [meetAll_append, meetAll_cons]
  refine mem_buffer_meetAll hawake after ?_
  rw [hreceive]
  exact List.mem_append_right _ hevents

/-- What becomes of times of entry, whatever an active collector meets before the session ends. A
report that carries something and is not from before the boundary is taken exactly if its time of
entry can be counted from 1970 on in 64 bits, and otherwise it is as if it had not come in. Of the
reports that were taken, the events that have their time from the time of entry are sent with just
that time, and in the order of the times of entry. -/
theorem entry_times_sent (hactive : c.phase = .active) (ds : List Delivery) :
    (∀ before clock r after t, ds = before ++ .report clock r :: after → r.entry = some t →
      ((c.meetAll before).verdict r = .taken ↔
        Report.Fits t ∧ r.members ≠ [] ∧ (c.meetAll before).isStale r = false) ∧
      (¬ Report.Fits t → c.meetAll ds = c.meetAll (before ++ after))) ∧
    ∃ batch, (c.meetAll ds).startDrain.1 = some batch ∧
      (∀ t e, c.Enters ds t e → e ∈ batch ∧ e.time.toInt = t.toInt + 441763200000) ∧
      batch.Pairwise fun a b => ∀ s t, c.Enters ds s a → c.Enters ds t b → s ≤ t := by
  constructor
  · rintro before clock r after t rfl hentry
    have hunbroken := Report.breaksOff_eq_false_iff hentry
    refine ⟨?_, fun hfits => ?_⟩
    · rw [verdict_eq_taken_iff, hunbroken, and_iff_right (phase_meetAll hactive before)]
    · have hbreaks : r.breaksOff = true :=
        Bool.of_not_eq_false (mt hunbroken.1 hfits)
      have hsame : (c.meetAll before).meet (.report clock r) = c.meetAll before :=
        receive_of_breaksOff hbreaks clock
      rw [meetAll_append, meetAll_cons, hsame, ← meetAll_append]
  · have hbatch := byTime_inOrder (c.meetAll ds).buffer
    refine ⟨_, startDrain_of_active (phase_meetAll hactive ds), fun t e h =>
      ⟨hbatch.perm.mem_iff.2 (h.mem_buffer hactive), h.time⟩, ?_⟩
    refine hbatch.ordered.imp fun {a b} hle s t ha hb => ?_
    rw [Int64.le_iff_toInt_le, ha.time, hb.time] at hle
    rw [Int64.le_iff_toInt_le]
    omega

/-- A report that was entered at a time and tells of one event. -/
def enteredAt (t : Int64) : Report :=
  { switchedOn with
    entry := some t, dataSet := some ⟨"SWDeviceGenericIO/LLN0.EvnRpn", [Event.lightOnAt 1]⟩ }

theorem lightOnAt_untimed :
    ((Event.lightOnAt 1).get? "trgTime").bind Value.timestamp? = none := by decide +kernel

theorem shows_lightOnAt : Event.Shows (Event.lightOnAt 1) .lightOn 1 :=
  ⟨by decide +kernel, by decide +kernel⟩

theorem exists_enters (before after : List Delivery) (clock : Clock) (t : Int64)
    (htaken : (awake.meetAll before).verdict (enteredAt t) = .taken) :
    ∃ e, awake.Enters (before ++ .report clock (enteredAt t) :: after) t e :=
  ⟨_, before, clock, enteredAt t, after, Event.lightOnAt 1, clock 0, rfl, htaken, rfl, .head _,
    lightOnAt_untimed, Event.ofMember_eq_ok_iff.2 ⟨_, _, shows_lightOnAt, rfl⟩⟩

/-- Two reports, of which the one that was entered first comes in last. -/
theorem entry_times_sent_backwards :
    awake.phase = .active ∧
      ∃ batch, (awake.meetAll
          [.report (.still 0) (enteredAt 5), .report (.still 0) (enteredAt 3)]).startDrain.1 =
            some batch ∧
        (∃ e ∈ batch, e.time.toInt = 5 + 441763200000) ∧
        (∃ e ∈ batch, e.time.toInt = 3 + 441763200000) ∧
        batch.Pairwise fun a b => ∀ s t,
          awake.Enters [.report (.still 0) (enteredAt 5), .report (.still 0) (enteredAt 3)] s a →
          awake.Enters [.report (.still 0) (enteredAt 5), .report (.still 0) (enteredAt 3)] t b →
            s ≤ t := by
  have hactive : awake.phase = .active := by decide +kernel
  obtain ⟨-, batch, hbatch, htimes, horder⟩ := entry_times_sent hactive
    [.report (.still 0) (enteredAt 5), .report (.still 0) (enteredAt 3)]
  obtain ⟨a, ha⟩ := exists_enters [] [.report (.still 0) (enteredAt 3)] (.still 0) 5
    (by decide +kernel)
  obtain ⟨b, hb⟩ := exists_enters [.report (.still 0) (enteredAt 5)] [] (.still 0) 3
    (by decide +kernel)
  exact ⟨hactive, batch, hbatch, ⟨a, htimes 5 a ha⟩, ⟨b, htimes 3 b hb⟩, horder⟩

/-- The last time of entry there is cannot be told: the report is not taken, though it tells of an
event and is not from before a boundary, and just the event of the report before it is sent. -/
theorem last_entry_never_sent :
    awake.phase = .active ∧ Report.ofEntryTime? Int64.maxValue = none ∧
      (enteredAt Int64.maxValue).entry = some Int64.maxValue ∧
      (enteredAt Int64.maxValue).members = [Event.lightOnAt 1] ∧
      Event.Shows (Event.lightOnAt 1) .lightOn 1 ∧
      ((Event.lightOnAt 1).get? "trgTime").bind Value.timestamp? = none ∧
      (awake.meetAll [.report (.still 0) (enteredAt 0)]).isStale (enteredAt Int64.maxValue) =
        false ∧
      (awake.meetAll [.report (.still 0) (enteredAt 0),
          .report (.still 0) (enteredAt Int64.maxValue)]).startDrain.1 =
        some [⟨"SSLD-1", 441763200000, .lightOn, "", 3⟩] :=
  ⟨by decide +kernel, by decide +kernel, rfl, rfl, shows_lightOnAt, lightOnAt_untimed,
    by decide +kernel, by decide +kernel⟩

end Collector

end FieldGateway
