import FieldGateway.Proofs.Collector.Basic

/-!
# Reports that come in again

A collector does not remember which reports it took. It knows old reports by the boundary alone, so
that a report that comes in again is taken again, unless a boundary that was set in between leaves
it out.

* `Collector.Richer`: two collectors that differ in events that only one of them holds; kept by
  whatever both of them meet (`Richer.meetAll`).
* `Collector.isStale_again`: when a report that was taken is left out later.
* `Collector.batch_redelivered`: what a report that comes in again adds to the batch.
-/

namespace FieldGateway

/-- What reaches a collector before its session ends. -/
inductive Delivery where
  | activate
  | boundary (sequence : UInt32)
  | report (clock : Clock) (r : Report)

namespace Delivery

def boundary? : Delivery → Option UInt32
  | boundary n => some n
  | _ => none

/-- The boundary that was set last. -/
def lastBoundary (ds : List Delivery) : Option UInt32 := (ds.filterMap boundary?).getLast?

end Delivery

/-- Reports of one name and one number: each is the other one again. -/
def Report.IsAgain (r r' : Report) : Prop :=
  r'.id = r.id ∧ r'.sequence = r.sequence ∧ r'.segment = r.segment

instance (r r' : Report) : Decidable (r.IsAgain r') := inferInstanceAs (Decidable (_ ∧ _))

/-- Holds of a report with a number below the boundary that was set last among `ds`. -/
def Report.overtakenIn (r : Report) (ds : List Delivery) : Bool :=
  match Delivery.lastBoundary ds, r.sequence with
  | some b, some n => n < b
  | _, _ => false

namespace Collector

def meet (c : Collector) : Delivery → Collector
  | .activate => c.activate
  | .boundary n => c.setBoundary n
  | .report clock r => c.receive clock r

def meetAll (c : Collector) (ds : List Delivery) : Collector := ds.foldl meet c

theorem meetAll_append (c : Collector) (ds es : List Delivery) :
    c.meetAll (ds ++ es) = (c.meetAll ds).meetAll es := List.foldl_append

theorem meetAll_cons (c : Collector) (d : Delivery) (ds : List Delivery) :
    c.meetAll (d :: ds) = (c.meet d).meetAll ds := rfl

variable {c c' : Collector} {held es : List Notification}

/-! ## What deliveries change -/

/-- A delivery to an active collector changes its boundary and adds to its events at most. -/
theorem meet_of_active (h : c.phase = .active) (d : Delivery) :
    ∃ es, c.meet d =
      { c with boundary := d.boundary?.or c.boundary, buffer := c.buffer ++ es } := by
  cases d with
  | activate =>
    have hsame : c.activate = c := if_neg (by simp [h])
    exact ⟨[], by simp [meet, hsame, Delivery.boundary?]⟩
  | boundary n => exact ⟨[], by simp [meet, setBoundary, Delivery.boundary?]⟩
  | report clock r =>
    by_cases hr : c.verdict r = .taken
    · exact ⟨c.events clock r, by simp [meet, receive, hr, Delivery.boundary?]⟩
    · exact ⟨[], by simp [meet, receive, hr, Delivery.boundary?]⟩

theorem meetAll_of_active (h : c.phase = .active) (ds : List Delivery) :
    ∃ es, c.meetAll ds = { c with
      boundary := (Delivery.lastBoundary ds).or c.boundary, buffer := c.buffer ++ es } := by
  induction ds generalizing c with
  | nil => exact ⟨[], by simp [meetAll, Delivery.lastBoundary]⟩
  | cons d ds ih =>
    obtain ⟨fs, hfs⟩ := meet_of_active h d
    obtain ⟨gs, hgs⟩ := ih (c := c.meet d) (by rw [hfs]; exact h)
    refine ⟨fs ++ gs, ?_⟩
    rw [meetAll_cons, hgs, hfs]
    cases hd : d.boundary? <;> simp [Delivery.lastBoundary, hd, List.getLast?_cons]

theorem phase_meetAll (h : c.phase = .active) (ds : List Delivery) :
    (c.meetAll ds).phase = .active := by
  obtain ⟨es, hes⟩ := meetAll_of_active h ds
  rw [hes]
  exact h

theorem events_meetAll (h : c.phase = .active) (ds : List Delivery) (clock : Clock) (r : Report) :
    (c.meetAll ds).events clock r = c.events clock r := by
  obtain ⟨es, hes⟩ := meetAll_of_active h ds
  rw [hes]
  rfl

/-- What an active collector holds it keeps. -/
theorem mem_buffer_meetAll (h : c.phase = .active) (ds : List Delivery) {e : Notification}
    (he : e ∈ c.buffer) : e ∈ (c.meetAll ds).buffer := by
  obtain ⟨es, hes⟩ := meetAll_of_active h ds
  rw [hes]
  exact List.mem_append_left _ he

/-! ## Collectors that differ in some events -/

/-- Collectors alike but for some events that only the second holds, one after the other and behind
those that were held before. -/
structure Richer (held es : List Notification) (c c' : Collector) : Prop where
  alike : c' = { c with buffer := c'.buffer }
  buffer : ∃ later, c.buffer = held ++ later ∧ c'.buffer = held ++ es ++ later

namespace Richer

theorem same (c : Collector) : Richer c.buffer [] c c := ⟨rfl, [], by simp⟩

theorem eq_of_nil (h : Richer held [] c c') : c' = c := by
  obtain ⟨halike, later, hl, hl'⟩ := h
  rw [halike, hl', List.append_nil, ← hl]

/-- What is sent are in both cases the events by their times, with those events among them in the
second case. -/
theorem byTime (h : Richer held es c c') : ∃ later, ByTime (held ++ later) (inOrder c.buffer) ∧
    ByTime (held ++ es ++ later) (inOrder c'.buffer) := by
  obtain ⟨-, later, hl, hl'⟩ := h
  exact ⟨later, hl ▸ byTime_inOrder c.buffer, hl' ▸ byTime_inOrder c'.buffer⟩

/-- Whatever both meet, they go on to differ in the same events. -/
theorem meet (h : Richer held es c c') (d : Delivery) : Richer held es (c.meet d) (c'.meet d) := by
  obtain ⟨halike, later, hl, hl'⟩ := h
  generalize c'.buffer = buffer at halike hl'
  subst halike
  cases d with
  | activate =>
    simp only [Collector.meet, activate]
    split <;> exact ⟨rfl, later, hl, hl'⟩
  | boundary n => exact ⟨rfl, later, hl, hl'⟩
  | report clock report =>
    have hverdict : verdict { c with buffer } report = c.verdict report := rfl
    have hevents : events { c with buffer } clock report = c.events clock report := rfl
    simp only [Collector.meet, receive, hverdict, hevents]
    split
    · -- the new events stand behind in both
      exact ⟨rfl, later ++ c.events clock report, by simp [hl], by simp [hl']⟩
    · exact ⟨rfl, later, hl, hl'⟩

theorem meetAll (h : Richer held es c c') (ds : List Delivery) :
    Richer held es (c.meetAll ds) (c'.meetAll ds) := by
  induction ds generalizing c c' with
  | nil => exact h
  | cons d ds ih => exact ih (h.meet d)

end Richer

/-- Among events by their times, more of them: the batch has those in addition. -/
theorem perm_of_byTime {held later once twice : List Notification}
    (honce : ByTime (held ++ later) once) (htwice : ByTime (held ++ es ++ later) twice) :
    twice.Perm (once ++ es) :=
  calc twice.Perm (held ++ (es ++ later)) := by
        rw [← List.append_assoc]
        exact htwice.perm
    List.Perm _ (held ++ (later ++ es)) := List.perm_append_comm.append_left _
    List.Perm _ (once ++ es) := by
        rw [← List.append_assoc]
        exact honce.perm.symm.append_right _

/-! ## Reports that come in again -/

/-- A report that was taken is left out later exactly if the boundary that was set last in between
is above its number. -/
theorem isStale_again {r r' : Report} (htaken : c.verdict r = .taken) (hagain : r.IsAgain r')
    {b : Option UInt32} {ds : List Delivery}
    (hb : b = (Delivery.lastBoundary ds).or c.boundary) :
    isStale { c with boundary := b } r' = r.overtakenIn ds := by
  have hfresh := isStale_of_taken htaken
  unfold Report.overtakenIn
  simp only [isStale, hagain.2.1, hb]
  cases Delivery.lastBoundary ds with
  | none => simpa [isStale] using hfresh
  | some b => rfl

/-- A report that comes in again adds its events once more, unless it is left out. -/
theorem richer_redelivered {r r' : Report} (htaken : c.verdict r = .taken) (hagain : r.IsAgain r')
    (clock clock' : Clock) (between : List Delivery) :
    Richer ((c.receive clock r).meetAll between).buffer
      (if r.overtakenIn between then [] else c.events clock' r')
      ((c.receive clock r).meetAll between)
      (((c.receive clock r).meetAll between).receive clock' r') := by
  have hreceive := receive_of_taken htaken clock
  have hawake : (c.receive clock r).phase = .active := by
    rw [hreceive]
    exact phase_of_taken htaken
  have hstale : ((c.receive clock r).meetAll between).isStale r' = r.overtakenIn between := by
    obtain ⟨es, hes⟩ := meetAll_of_active hawake between
    rw [← isStale_again htaken hagain rfl, hes, hreceive]
    rfl
  have hevents : ((c.receive clock r).meetAll between).events clock' r' = c.events clock' r' := by
    rw [events_meetAll hawake, hreceive]
    rfl
  have hphase := phase_meetAll hawake between
  generalize (c.receive clock r).meetAll between = d at hstale hevents hphase
  by_cases hverdict : d.verdict r' = .taken
  · have hfresh := isStale_of_taken hverdict
    rw [← hstale, hfresh, if_neg Bool.false_ne_true, receive_of_taken hverdict, hevents]
    exact ⟨rfl, [], by simp⟩
  · have hnone : (if r.overtakenIn between then [] else c.events clock' r') = [] := by
      cases hover : r.overtakenIn between with
      | true => rfl
      | false =>
        rw [← hevents]
        exact events_of_not_taken hphase hverdict (hstale.trans hover) clock'
    rw [hnone, receive, if_neg hverdict]
    exact .same d

/-- Whatever an active collector meets before and after: a report that it took and that comes in
again before the session ends adds its events once more to the batch that is sent, and changes it
no further. The events stand by their times, and those of one time in the order in which they came
in, the ones in addition behind what was held when they came in. It adds none exactly if its number
is below the boundary that was set last in between, or if it tells of no event. -/
theorem batch_redelivered (hactive : c.phase = .active) {before : List Delivery} {r r' : Report}
    (htaken : (c.meetAll before).verdict r = .taken) (hagain : r.IsAgain r')
    (clock clock' : Clock) (between after : List Delivery) :
    ∃ once twice,
      (c.meetAll (before ++ .report clock r :: (between ++ after))).startDrain.1 = some once ∧
      (c.meetAll
        (before ++ .report clock r :: (between ++ .report clock' r' :: after))).startDrain.1 =
          some twice ∧
      twice.Perm (once ++ if r.overtakenIn between then [] else c.events clock' r') ∧
      (∃ held later, (c.meetAll (before ++ .report clock r :: between)).buffer = held ∧
        ByTime (held ++ later) once ∧
        ByTime (held ++ (if r.overtakenIn between then [] else c.events clock' r') ++ later)
          twice) ∧
      (twice = once ↔ r.overtakenIn between = true ∨ c.events clock' r' = []) := by
  have hevents := events_meetAll hactive before clock' r'
  have hricher := (richer_redelivered htaken hagain clock clock' between).meetAll after
  rw [hevents] at hricher
  have hheld : c.meetAll (before ++ .report clock r :: between) =
      ((c.meetAll before).receive clock r).meetAll between := by
    rw [meetAll_append, meetAll_cons]
    rfl
  have honce : c.meetAll (before ++ .report clock r :: (between ++ after)) =
      (((c.meetAll before).receive clock r).meetAll between).meetAll after := by
    rw [meetAll_append, meetAll_cons, meetAll_append]
    rfl
  have htwice : c.meetAll (before ++ .report clock r :: (between ++ .report clock' r' :: after)) =
      ((((c.meetAll before).receive clock r).meetAll between).receive clock' r').meetAll after := by
    rw [meetAll_append, meetAll_cons, meetAll_append, meetAll_cons]
    rfl
  refine ⟨_, _, startDrain_of_active (phase_meetAll hactive _),
    startDrain_of_active (phase_meetAll hactive _), ?_⟩
  rw [honce, htwice, hheld]
  obtain ⟨later, honce, htwice⟩ := hricher.byTime
  have hperm := perm_of_byTime honce htwice
  refine ⟨hperm, ⟨_, later, rfl, honce, htwice⟩, fun hsame => ?_, fun hnone => ?_⟩
  · -- the same number of events, so that none came in addition
    have hlength := hperm.length_eq
    rw [hsame, List.length_append, Nat.left_eq_add, List.length_eq_zero_iff] at hlength
    cases hover : r.overtakenIn between with
    | true => exact .inl rfl
    | false =>
      rw [hover] at hlength
      exact .inr hlength
  · have hnil : (if r.overtakenIn between then [] else c.events clock' r') = [] := by
      rcases hnone with hover | hempty
      · rw [if_pos hover]
      · rw [hempty, ite_self]
    rw [hnil] at hricher
    rw [hricher.eq_of_nil]

/-- A collector that was activated, and a report that tells of one event. -/
def awake : Collector := (make "SSLD-1" [⟨1, 3, .light⟩]).activate

def switchedOn : Report where
  id := "evn_rpn01"
  block := "SWDeviceGenericIO/LLN0.evn_rpn01"
  sequence := some 5
  segment := some 0
  continued := false
  overflow := false
  entry := none
  dataSet := some
    ⟨"SWDeviceGenericIO/LLN0.EvnRpn",
      [.ofList "SWDeviceGenericIO/CSLC.EvnRpn1" .bufferedReport
        [("evnType", .int 11), ("swNum", .int 1), ("trgTime", .timestamp 3000)]]⟩

/-- A report that comes in again after a boundary below it and before another report. -/
theorem batch_redelivered_after_boundary :
    awake.phase = .active ∧ (awake.meetAll []).verdict switchedOn = .taken ∧
      switchedOn.IsAgain { switchedOn with overflow := true } ∧
      ∃ once twice,
        (awake.meetAll [.report (.still 7) switchedOn, .boundary 4,
          .report (.still 9) { switchedOn with sequence := some 6 }]).startDrain.1 = some once ∧
        (awake.meetAll [.report (.still 7) switchedOn, .boundary 4,
          .report (.still 8) { switchedOn with overflow := true },
          .report (.still 9) { switchedOn with sequence := some 6 }]).startDrain.1 = some twice ∧
        twice.length = once.length + 1 := by
  have hactive : awake.phase = .active := by decide +kernel
  have htaken : (awake.meetAll []).verdict switchedOn = .taken := by decide +kernel
  have hagain : switchedOn.IsAgain { switchedOn with overflow := true } := by decide +kernel
  obtain ⟨once, twice, honce, htwice, hperm, -⟩ := batch_redelivered hactive htaken hagain
    (.still 7) (.still 8) [.boundary 4] [.report (.still 9) { switchedOn with sequence := some 6 }]
  refine ⟨hactive, htaken, hagain, once, twice, honce, htwice, ?_⟩
  have hone : (if switchedOn.overtakenIn [.boundary 4] then [] else
      awake.events (.still 8) { switchedOn with overflow := true }).length = 1 := by decide +kernel
  rw [hperm.length_eq, List.length_append, hone]

/-- A report that comes in twice is told of twice. -/
theorem switchedOn_told_twice :
    awake.phase = .active ∧ awake.verdict switchedOn = .taken ∧
      ∃ e, (awake.meetAll [.report (.still 0) switchedOn]).startDrain.1 = some [e] ∧
        (awake.meetAll
          [.report (.still 0) switchedOn, .report (.still 0) switchedOn]).startDrain.1 =
            some [e, e] := by
  have hsorted (e : Notification) : inOrder [e, e] = [e, e] :=
    List.mergeSort_of_pairwise (by simp)
  refine ⟨by decide +kernel, by decide +kernel, ⟨"SSLD-1", 3000, .lightOn, "", 3⟩,
    by decide +kernel, ?_⟩
  rw [startDrain_of_active (by decide +kernel), ← hsorted]
  exact congrArg (fun b => some (inOrder b)) (by decide +kernel)

end Collector

end FieldGateway
