import FieldGateway.Report.Collector

/-!
# What a collector takes and gives up

The two ends of a collector: which reports it takes, and the order in which it gives their events
up again.

* `Collector.byTime_inOrder`: the order of a batch.
* `Collector.verdict_eq_taken_iff`: which reports are taken.
* `Collector.startDrain_of_ne`, `Collector.startDrain_of_draining`: what it gives up.
-/

namespace FieldGateway

/-! ## The order of a batch -/

/-- The same events by their times; events of one time are in the order they had. -/
structure ByTime (events sorted : List Notification) : Prop where
  perm : sorted.Perm events
  ordered : sorted.Pairwise fun a b => a.time ≤ b.time
  stable : ∀ t, sorted.filter (·.time = t) = events.filter (·.time = t)

namespace Collector

theorem byTime_inOrder (events : List Notification) : ByTime events (inOrder events) := by
  have htrans : ∀ a b c : Notification, decide (a.time ≤ b.time) = true →
      decide (b.time ≤ c.time) = true → decide (a.time ≤ c.time) = true := by
    intro a b c hab hbc
    exact decide_eq_true (Int64.le_trans (of_decide_eq_true hab) (of_decide_eq_true hbc))
  have htotal : ∀ a b : Notification,
      (decide (a.time ≤ b.time) || decide (b.time ≤ a.time)) = true := by
    intro a b
    simpa using Int64.le_total a.time b.time
  refine ⟨inOrder_perm events, ?_, fun t => ?_⟩
  · exact (List.pairwise_mergeSort htrans htotal events).imp of_decide_eq_true
  · have hequal : (events.filter (·.time = t)).Pairwise
        fun a b => decide (a.time ≤ b.time) = true := by
      refine List.pairwise_of_forall_mem_list fun a ha b hb => ?_
      have hat : a.time = t := of_decide_eq_true (List.mem_filter.1 ha).2
      have hbt : b.time = t := of_decide_eq_true (List.mem_filter.1 hb).2
      rw [hat, hbt]
      exact decide_eq_true (Int64.le_refl t)
    -- The events of one time are a sublist after sorting, and there are as many as before.
    have hsub : (events.filter (·.time = t)).Sublist (inOrder events) :=
      List.sublist_mergeSort htrans htotal hequal List.filter_sublist
    have hsub' := hsub.filter (·.time = t)
    rw [List.filter_filter] at hsub'
    have hlength := ((inOrder_perm events).filter (·.time = t)).length_eq
    exact (hsub'.eq_of_length (by simpa using hlength.symm)).symm.trans (by simp)

theorem inOrder_eq_nil {l : List Notification} : inOrder l = [] ↔ l = [] := by
  rw [← List.length_eq_zero_iff, inOrder, List.length_mergeSort, List.length_eq_zero_iff]

/-! ## Reports -/

variable {c : Collector} {r : Report}

/-- A report is taken if it does not break off, the collector takes reports, there is something in
it, and it is not from before the boundary. -/
theorem verdict_eq_taken_iff : c.verdict r = .taken ↔
    r.breaksOff = false ∧ c.phase = .active ∧ r.members ≠ [] ∧ c.isStale r = false := by
  unfold verdict
  cases r.breaksOff <;> by_cases hphase : c.phase = .active <;>
    by_cases hvacant : r.members = [] <;> cases c.isStale r <;> simp [hphase, hvacant]

theorem phase_of_taken (h : c.verdict r = .taken) : c.phase = .active :=
  (verdict_eq_taken_iff.1 h).2.1

theorem isStale_of_taken (h : c.verdict r = .taken) : c.isStale r = false :=
  (verdict_eq_taken_iff.1 h).2.2.2

theorem receive_of_taken (h : c.verdict r = .taken) (clock : Clock) :
    c.receive clock r = { c with buffer := c.buffer ++ c.events clock r } := if_pos h

theorem receive_of_breaksOff (h : r.breaksOff = true) (clock : Clock) : c.receive clock r = c := by
  refine if_neg fun hv => ?_
  rw [(verdict_eq_taken_iff.1 hv).1] at h
  cases h

/-- What an active collector does not take, though it is not from before the boundary, tells of no
event. -/
theorem events_of_not_taken (h : c.phase = .active) (hr : c.verdict r ≠ .taken)
    (hfresh : c.isStale r = false) (clock : Clock) : c.events clock r = [] := by
  by_cases hbreaks : r.breaksOff
  · rw [events, if_pos hbreaks]
  · have hvacant : r.members = [] := Decidable.byContradiction fun hsome =>
      hr (verdict_eq_taken_iff.2 ⟨Bool.eq_false_iff.2 hbreaks, h, hsome, hfresh⟩)
    simp [events, Report.timed, hvacant]

/-! ## The end of a session -/

theorem startDrain_of_draining (h : c.phase = .draining) : c.startDrain = (none, c) := if_pos h

theorem startDrain_of_ne (h : c.phase ≠ .draining) :
    c.startDrain = (some (inOrder c.buffer), { c with phase := .draining, buffer := [] }) :=
  if_neg h

theorem startDrain_of_active (h : c.phase = .active) :
    c.startDrain.1 = some (inOrder c.buffer) := by
  rw [startDrain_of_ne (by simp [h])]

end Collector

end FieldGateway
