import FieldGateway.Proofs.Gateway.Account
import FieldGateway.Proofs.Gateway.Gathering

/-!
# The batch of a session

A session with a streetlight controller whose events are collected is ended by a job, and the
listener is told then. Of the reports that have come in until then, those that are not from before
the number that the device told give one batch of events, in the order of their times.

* `Account.bounded`: the listener is told the number before the session is left to the job.
* `Handles.minded`: from then on the collector takes what is new.
* `Handles.events_sent_at_end`: what is sent when the session is over.
-/

namespace FieldGateway

open Standing
open Collector (inOrder)

/-! ## The events of a streetlight controller -/

/-- Holds of what is done neither to end a session nor to leave it to a job. -/
def Action.IsStaying (a : Action) : Prop := ¬ a.IsParting ∧ a.told? = none

theorem Session.runs_enable {s : Session} {reference : String} {i : Nat} {log : List Entry}
    {r : Except Failure ControlBlock} (h : (s.enable reference).run.Runs i log r) :
    (∀ e ∈ log, e.Kept Action.IsStaying) ∧
      sequences log = match r with
        | .ok block => [block.sequence]
        | .error _ => [] := by
  have hstays : ∀ e ∈ log, e.Kept Action.IsStaying := by
    refine h.kept ?_
    refine Attempt.within_bind (within_ensureOpen_of ⟨id, rfl⟩) fun _ => ?_
    split
    · exact Attempt.within_throw _
    · exact Attempt.within_ofFault (Course.within_query ⟨id, rfl⟩)
  refine ⟨hstays, ?_⟩
  have looks : ∀ {l : List Entry} {x : Except Failure Unit}, s.ensureOpen.run.Runs i l x →
      sequences l = [] := fun hl =>
    filterMap_of_kept (hl.kept s.within_ensureOpen) fun a answer ha =>
      Action.sequence?_of_isQuiet ha answer
  rcases Attempt.runs_bind.1 h with ⟨l₁, _, l₂, h₁, h₂, rfl⟩ | ⟨e, h₁, rfl⟩
  · rw [sequences, List.filterMap_append, ← sequences, looks h₁, List.nil_append]
    split at h₂
    · obtain ⟨rfl, rfl⟩ := Attempt.runs_throw.1 h₂
      rfl
    · obtain ⟨answer, h₃, rfl⟩ := Attempt.runs_ofFault.1 h₂
      obtain ⟨p, q, -, rfl⟩ := Work.runs_perform.1 h₃
      cases answer <;> rfl
  · exact looks h₁

theorem sequences_append (l m : List Entry) : sequences (l ++ m) = sequences l ++ sequences m :=
  List.filterMap_append

/-- The listener is told the number that the device has told, and the session is left to a job, or
the device has told none. -/
inductive Collects (s : Session) (i : Nat) : List Entry → Except Failure Unit → Prop
  | told {log : List Entry} {n : UInt32} {p₁ q₁ p₂ q₂ : Plant} {job : Job} {k : Nat}
      (hlog : ∀ e ∈ log, e.Kept Action.IsStaying) (hn : sequences log = [n]) :
      Collects s i (log ++ [⟨p₁, .did i (.setBoundary s.link n) (), q₁⟩,
        ⟨p₂, .did i (.start job) k, q₂⟩]) (.ok ())
  | untold {log : List Entry} {e : Failure} (hn : sequences log = []) : Collects s i log (.error e)

namespace Gateway

variable {g : Gateway} {s : Session} {d : Device} {i : Nat} {log : List Entry}

theorem runs_retried_enable {policy : Policy} {reference : String}
    {r : Except Failure ControlBlock}
    (h : (Attempt.retried policy (s.enable reference)).run.Runs i log r) :
    (∀ e ∈ log, e.Kept Action.IsStaying) ∧
      sequences log = match r with
        | .ok block => [block.sequence]
        | .error _ => [] := by
  obtain ⟨earlier, last, x, n, p, q, c, hearlier, hlast, rfl, hc, rfl⟩ := Attempt.runs_retried h
  obtain ⟨hstays, hseq⟩ := Session.runs_enable hlast
  -- A refused attempt has told no number.
  have hspent : ∀ e ∈ earlier, e.Kept Action.IsStaying ∧ e.did? Action.sequence? = none := by
    intro e he
    rcases hearlier e he with ⟨l, y, hrun, hrefused, hmem⟩ | ⟨p', q', rfl⟩
    · obtain ⟨hstays', hseq'⟩ := Session.runs_enable hrun
      cases y with
      | ok block => cases hrefused
      | error f => exact ⟨hstays' e hmem, List.filterMap_eq_nil_iff.1 hseq' e hmem⟩
    · exact ⟨⟨id, rfl⟩, rfl⟩
  have hnone : sequences earlier = [] :=
    List.filterMap_eq_nil_iff.2 fun e he => (hspent e he).2
  refine ⟨List.forall_mem_append.2 ⟨fun e he => (hspent e he).1,
    List.forall_mem_append.2 ⟨hstays, List.forall_mem_singleton.2 ⟨id, rfl⟩⟩⟩, ?_⟩
  rw [sequences_append, sequences_append, hnone, hseq]
  cases x <;> rfl

theorem runs_collectEvents {r : Except Failure Unit} (h : (g.collectEvents s).run.Runs i log r) :
    Collects s i log r := by
  rcases Attempt.runs_bind.1 h with ⟨l₁, reference, l₂, h₁, h₂, rfl⟩ | ⟨e, h₁, rfl⟩
  · obtain ⟨rfl, -⟩ := Attempt.runs_ofMisfit.1 h₁
    obtain ⟨l₃, _, l₄, h₃, h₄, rfl⟩ := Attempt.runs_liftThen.1 h₂
    obtain ⟨p, q, -, rfl⟩ := Work.runs_perform.1 h₃
    rcases Attempt.runs_bind.1 h₄ with ⟨l₅, block, l₆, h₅, h₆, rfl⟩ | ⟨e, h₅, rfl⟩
    · obtain ⟨hstays, hseq⟩ := runs_retried_enable h₅
      obtain ⟨l₇, _, l₈, h₇, h₈, rfl⟩ := Attempt.runs_liftThen.1 h₆
      obtain ⟨p₁, q₁, -, rfl⟩ := Work.runs_perform.1 h₇
      obtain ⟨l₉, k, l₁₀, h₉, h₁₀, rfl⟩ := Attempt.runs_liftThen.1 h₈
      obtain ⟨p₂, q₂, -, rfl⟩ := Work.runs_perform.1 h₉
      obtain ⟨rfl, rfl⟩ := Attempt.runs_pure.1 h₁₀
      let activation : Entry := ⟨p, .did i (.activate s.link) (), q⟩
      have hstays' : ∀ e ∈ activation :: l₅, e.Kept Action.IsStaying :=
        List.forall_mem_cons.2 ⟨⟨id, rfl⟩, hstays⟩
      have hseq' : sequences (activation :: l₅) = [block.sequence] := hseq
      let boundary : Entry := ⟨p₁, .did i (.setBoundary s.link block.sequence) (), q₁⟩
      let departure : Entry := ⟨p₂, .did i (.start (.disconnect s g.disconnectDelay.toNat
        (some reference))) k, q₂⟩
      have htold : Collects s i ((activation :: l₅) ++ [boundary, departure]) (.ok ()) :=
        .told hstays' hseq'
      simpa using htold
    · refine .untold ?_
      rw [List.nil_append, sequences_append, (runs_retried_enable h₅).2]
      rfl
  · obtain ⟨rfl, -⟩ := Attempt.runs_ofMisfit.1 h₁
    exact .untold rfl

theorem sequences_of_quiet {α : Type} {c : Work α} {r : α} (h : c.Runs i log r)
    (hc : c.Within Action.isQuiet) : sequences log = [] :=
  filterMap_of_kept (h.kept hc) fun _ answer ha => Action.sequence?_of_isQuiet ha answer

theorem isStaying_of_isQuiet {a : Action} (h : a.isQuiet) : a.IsStaying := by
  cases a <;> first | exact ⟨id, rfl⟩ | exact h.elim

/-- An operation in which a device tells a number ends with the events being collected. -/
theorem runs_carryOut {o : Operation} {r : Except Failure (Payload × Ending)}
    (h : (g.carryOut s d o).run.Runs i log r) (hd : d.family = .streetlightController) :
    sequences log = [] ∨ (∃ payload, r = .ok (payload, .scheduled)) ∧ ∃ l₁ l₂, log = l₁ ++ l₂ ∧
      (∀ e ∈ l₁, e.Kept Action.IsStaying) ∧ sequences l₁ = [] ∧ Collects s i l₂ (.ok ()) := by
  cases o with
  | getData systems =>
    refine .inl (sequences_of_quiet h ?_)
    exact Attempt.within_bind (g.within_getData s systems) fun _ => Attempt.within_pure _
  | setData systems =>
    refine .inl (sequences_of_quiet h ?_)
    exact Attempt.within_bind (g.within_setData s systems) fun _ => Attempt.within_pure _
  | setLight values =>
    refine .inl (sequences_of_quiet h ?_)
    exact Attempt.within_bind (Attempt.within_ofMisfit _) fun _ =>
      Attempt.within_bind (Light.within_setAll g.policy s d values) fun _ => Attempt.within_pure _
  | getStatus =>
    rcases Attempt.runs_bind.1 h with ⟨l₁, _, l₂, h₁, h₂, rfl⟩ | ⟨e, h₁, rfl⟩
    · obtain ⟨rfl, -⟩ := Attempt.runs_ofMisfit.1 h₁
      have hquiet := Light.within_status g.policy s d
      rcases Attempt.runs_bind.1 h₂ with ⟨l₃, status, l₄, h₃, h₄, rfl⟩ | ⟨e, h₃, rfl⟩
      · have hnone := sequences_of_quiet h₃ hquiet
        rcases Attempt.runs_bind.1 h₄ with ⟨l₅, x, l₆, h₅, h₆, rfl⟩ | ⟨e, h₅, rfl⟩
        · obtain ⟨_, h₇, hxy⟩ := Attempt.runs_result.1 h₅
          obtain rfl := Except.ok.inj hxy
          cases x with
          | ok u =>
            obtain ⟨rfl, rfl⟩ := Attempt.runs_pure.1 h₆
            refine .inr ⟨⟨_, rfl⟩, l₃, l₅, by simp, ?_, hnone, g.runs_collectEvents h₇⟩
            exact fun e he => (h₃.kept hquiet e he).mono fun _ => isStaying_of_isQuiet
          | error e =>
            obtain ⟨rfl, rfl⟩ := Attempt.runs_pure.1 h₆
            cases g.runs_collectEvents h₇ with
            | untold hn => exact .inl (by simp [sequences_append, hnone, hn])
        · obtain ⟨y, -, hxy⟩ := Attempt.runs_result.1 h₅
          cases hxy
      · exact .inl (sequences_of_quiet h₃ hquiet)
    · obtain ⟨rfl, -⟩ := Attempt.runs_ofMisfit.1 h₁
      exact .inl rfl
  | enableReporting =>
    simp only [carryOut, hd, if_true] at h
    rcases Attempt.runs_bind.1 h with ⟨l₁, _, l₂, h₁, h₂, rfl⟩ | ⟨e, h₁, rfl⟩
    · obtain ⟨rfl, rfl⟩ := Attempt.runs_pure.1 h₂
      exact .inr ⟨⟨_, rfl⟩, [], l₁, by simp, by simp, rfl, g.runs_collectEvents h₁⟩
    · cases g.runs_collectEvents h₁ with
      | untold hn => exact .inl hn

end Gateway

/-- The jobs that an entry starts. -/
def Entry.started (e : Entry) : List Job :=
  match e.event with
  | .did _ a _ => a.started
  | .met _ => []

theorem Tale.jobs_eq {limit : Nat} {p q : Plant} {log : List Entry} {x : Standing}
    (h : Tale limit p log q x) : q.jobs = p.jobs ++ log.flatMap Entry.started := by
  induction h with
  | start => simp
  | act _ ha _ ih => simp [ha.jobs, ih, Entry.started]
  | meet _ e ih => simp [Plant.jobs_meet, ih, Entry.started]
  | takeUp _ ih => exact ih

/-- A request to a streetlight controller that told its listener the number before it left the
session to a job, and never that the session is over. -/
structure Bounded (d : Device) (link : Nat) (n : UInt32) (log : List Entry) : Prop where
  made : made log = [link]
  attaches : ∀ e ∈ log, e.Kept (Action.Attaches (.events (.make d.id d.outputs)))
  untold : ∀ e ∈ log, e.Kept fun a => a.told? = none
  started : ∃ e ∈ log, e.started ≠ []
  split : ∃ early b late, log = early ++ b :: late ∧ b.IsBoundary link n ∧ n ∈ sequences early ∧
    ∀ e ∈ early, e.started = []

namespace Account

variable {g : Gateway} {r : Request} {o : Response} {log : List Entry}

theorem attaches_of_isLater {listener : Listener} {a : Action} (h : Action.IsLater a) :
    a.Attaches listener := by
  cases a <;> first | trivial | exact absurd trivial (not_isOnset_of_isLater h)

theorem sequences_of_kept {N : Action → Prop} (h : ∀ e ∈ log, e.Kept N)
    (hN : ∀ l reference, ¬ N (.enable l reference)) : sequences log = [] :=
  filterMap_of_kept h fun a answer ha => by
    cases a <;> first | rfl | exact absurd ha (hN _ _)

theorem started_of_isStaying {e : Entry} (h : e.Kept Action.IsStaying) : e.started = [] := by
  obtain ⟨p, event, q⟩ := e
  cases event with
  | did i a answer =>
    have hstays : a.IsStaying := h
    cases a <;> first | rfl | exact absurd trivial hstays.1
  | met m => rfl

/-- A request to a streetlight controller in which the device told a number. -/
theorem bounded (h : Account g r o log) {d : Device} {n : UInt32} (hd : d ∈ found log)
    (hfamily : d.family = .streetlightController) (hn : n ∈ sequences log) :
    ∃ link, Bounded d link n log := by
  cases h with
  | @unserved before last e hbefore _ _ hlast _ =>
    rw [sequences_append, sequences_of_kept hbefore fun _ _ h => h,
      sequences_of_kept hlast fun _ _ h => h] at hn
    cases hn
  | @served before work closing last d' s result y hbefore hfound hopened hwork hy hcarried
      hconclude ho hlast hsent =>
    have hclosing := hconclude.kept (g.within_closing_conclude s d' result)
    have hlater := kept_later hy hclosing hlast
    have hmade : FieldGateway.made (before ++ (work ++ (closing ++ last))) = [s.link] :=
      (made_append_later hlater).trans hopened.made
    obtain rfl : d = d' := by
      rw [found_append_later hlater, hfound] at hd
      exact List.mem_singleton.1 hd
    have hrtu : d.family.isRtu = false := by rw [hfamily]; rfl
    have hending := hconclude.kept (g.within_ending_conclude s d hrtu result)
    rw [sequences_append, sequences_append, sequences_append,
      sequences_of_kept hbefore fun _ _ h => h, sequences_of_kept hending fun _ _ h => h,
      sequences_of_kept hlast fun _ _ h => h, List.nil_append, List.append_nil,
      List.append_nil] at hn
    rcases Gateway.runs_carryOut hwork hfamily with
      hnone | ⟨⟨payload, rfl⟩, l₁, l₂, rfl, hl₁, hseq, hl₂⟩
    · rw [hnone] at hn
      cases hn
    · obtain ⟨rfl, -⟩ := Attempt.runs_pure.1 hconclude
      cases hl₂ with
      | @told l₃ m p₁ q₁ p₂ q₂ job k hl₃ hm =>
        obtain rfl : n = m := by
          rw [sequences_append, sequences_append, hseq, hm] at hn
          exact List.mem_singleton.1 hn
        have hlistener : g.listenerFor d = .events (.make d.id d.outputs) := if_pos hfamily
        refine ⟨s.link, hmade, ?_, ?_, ?_, ?_⟩
        · refine List.forall_mem_append.2 ⟨?_, fun e he => (hlater e he).mono fun _ =>
            attaches_of_isLater⟩
          rw [← hlistener]
          exact hopened.listener
        · refine List.forall_mem_append.2 ⟨fun e he => (hbefore e he).mono fun a ha => ?_,
            List.forall_mem_append.2 ⟨fun e he => (kept_work hy e he).mono fun a ha => ?_,
              fun e he => (hlast e he).mono fun a ha => ?_⟩⟩
          all_goals cases a <;> first | rfl | exact ha.elim | exact ha.elim False.elim False.elim
        · refine ⟨⟨p₂, .did 0 (.start job) k, q₂⟩, by simp, ?_⟩
          exact List.cons_ne_nil _ _
        · refine ⟨before ++ (l₁ ++ l₃), ⟨p₁, .did 0 (.setBoundary s.link n) (), q₁⟩,
            ⟨p₂, .did 0 (.start job) k, q₂⟩ :: last, by simp, rfl, ?_, ?_⟩
          · rw [sequences_append, sequences_append, hm]
            simp
          · refine List.forall_mem_append.2 ⟨fun e he => ?_, List.forall_mem_append.2
              ⟨fun e he => started_of_isStaying (hl₁ e he),
                fun e he => started_of_isStaying (hl₃ e he)⟩⟩
            refine started_of_isStaying ((hbefore e he).mono fun a ha => ?_)
            cases a <;> first | exact ⟨id, rfl⟩ | exact ha.elim

end Account

/-! ## Crews of requests -/

/-- The job was started only after the number was known. -/
theorem Bounded.of_started {d : Device} {link : Nat} {n : UInt32} {l₁ l₂ : List Entry}
    (hb : Bounded d link n (l₁ ++ l₂)) (hs : ∃ e ∈ l₁, e.started ≠ []) :
    (∃ b ∈ l₁, b.IsBoundary link n) ∧ n ∈ sequences l₁ := by
  obtain ⟨early, b, late, hsplit, hbound, hn, hnone⟩ := hb.split
  obtain ⟨e, he, hstarted⟩ := hs
  rcases List.append_eq_append_iff.1 hsplit with ⟨l', rfl, -⟩ | ⟨m', rfl, hm⟩
  · exact absurd (hnone e (List.mem_append_left _ he)) hstarted
  · cases m' with
    | nil =>
      rw [List.append_nil] at he
      exact absurd (hnone e he) hstarted
    | cons b' m' =>
      obtain ⟨rfl, -⟩ := List.cons.inj hm
      refine ⟨⟨b, by simp, hbound⟩, ?_⟩
      rw [sequences_append]
      exact List.mem_append_left _ hn

theorem exists_between {early late before rest : List Entry} {e : Entry}
    (h : early ++ late = before ++ e :: rest) (he : e ∉ early) :
    ∃ between, before = early ++ between ∧ late = between ++ e :: rest := by
  rcases List.append_eq_append_iff.1 h with hafter | ⟨l, rfl, hl⟩
  · exact hafter
  · cases l with
    | nil => exact ⟨[], by simp, hl.symm⟩
    | cons e' l =>
      obtain ⟨rfl, -⟩ := List.cons.inj hl
      exact absurd (by simp) he

theorem entriesOf_eq_nil {i : Nat} {log : List Entry} (h : ∀ e ∈ log, e.course? ≠ some i) :
    entriesOf i log = [] :=
  List.filter_eq_nil_iff.2 fun e he => by simpa using h e he

/-- The listener was told once. -/
theorem exists_of_told {l : Nat} {log : List Entry} (h : told log = [l]) :
    ∃ before p i answer q after, log = before ++ ⟨p, .did i (.hangUp l) answer, q⟩ :: after ∧
      told before = [] ∧ told after = [] := by
  obtain ⟨before, e, after, rfl, hbefore, he, hafter⟩ := List.filterMap_eq_cons_iff.1 h
  obtain ⟨p, event, q⟩ := e
  cases event with
  | did i a answer =>
    have hlink : a.told? = some l := he
    obtain rfl : a = .hangUp l := by
      cases a with
      | hangUp k => rw [Option.some.inj hlink]
      | _ => cases hlink
    exact ⟨before, p, i, answer, q, after, rfl, List.filterMap_eq_nil_iff.2 hbefore, hafter⟩
  | met m => cases he

namespace Handles

variable {g : Gateway} {p : Plant} {r : Request} {w : Crew (Option Response)} {o : Response}
  {d : Device} {link : Nat} {n : UInt32}

theorem bounded (hw : Handles g p r w) (hc : w.courses[0]? = some (.done (some o)))
    (hd : d ∈ found w.log) (hfamily : d.family = .streetlightController)
    (hn : n ∈ sequences w.log) : ∃ link, Bounded d link n (entriesOf 0 w.log) := by
  rw [hw.found_entriesOf] at hd
  rw [sequences, hw.filterMap_entriesOf fun a _ ha => by
    cases a <;> first | rfl | exact ha.elim] at hn
  exact (hw.account hc).bounded hd hfamily hn

/-- Until it is told that the session is over, the collector takes what is new, once it was told the
number. -/
theorem minded (hw : Handles g p r w) (hb : Bounded d link n (entriesOf 0 w.log))
    {before after : List Entry} {e : Entry} (hlog : w.log = before ++ e :: after)
    (hs : ∃ e ∈ entriesOf 0 before, e.started ≠ []) (ht : told before = []) :
    ∃ c, e.before.collector? link = some c ∧ c.phase = .active ∧ c.boundary = some n ∧
      c.buffer = appended link before ∧ c.deviceId = d.id ∧
      c.ids = Event.externalIds d.outputs := by
  have hattaches : ∀ e ∈ before, e.Kept (Action.Attaches (.events (.make d.id d.outputs))) := by
    intro e' he'
    have hmem : e' ∈ w.log := by simp [hlog, he']
    by_cases hi : e'.course? = some 0
    · exact hb.attaches e' (mem_entriesOf.2 ⟨hmem, hi⟩)
    · refine (hw.kept_ending hmem hi).mono fun a ha => ?_
      cases a <;> trivial
  have hmade : made w.log = [link] := by
    rw [hw.made_entriesOf]
    exact hb.made
  rw [hlog, entriesOf_append] at hb
  obtain ⟨⟨b, hmem, hbound⟩, hn⟩ := hb.of_started hs
  have hsub : ∀ {β : Type} (f : Entry → Option β),
      (entriesOf 0 before).filterMap f ⊆ before.filterMap f := fun f =>
    List.filterMap_subset f List.filter_sublist.subset
  obtain ⟨w₁, hw₁, rfl, hplant, -⟩ := hw.before hlog
  obtain ⟨x, htale, -⟩ := hw₁.tale
  have hlink : x.link? = some link := by
    cases hx : x.link? with
    | some l =>
      have hl : l ∈ made w.log := by
        rw [hlog, made, List.filterMap_append, ← made, htale.made_eq, hx]
        exact List.mem_append_left _ (List.mem_singleton.2 rfl)
      rw [hmade] at hl
      rw [List.mem_singleton.1 hl]
    | none =>
      have hplain := htale.plain_of_unopened hx b (mem_entriesOf.1 hmem).1
      obtain ⟨q, event, q'⟩ := b
      cases event with
      | did j a answer =>
        have hno : a.IsPlain := hplain
        rw [show a = .setBoundary link n from hbound] at hno
        exact hno.elim
      | met m => exact hbound.elim
  obtain ⟨c, hc, hd, hids, hboundary⟩ := htale.attended hlink hattaches
  have hminded := (htale.heard (.inl hlink)).minded (hsub _ hn) (by rw [← htale.told_eq, ht]) hc
    (hboundary ⟨b, (mem_entriesOf.1 hmem).1, n, hbound⟩)
  obtain ⟨hp, hbn, hbuf⟩ := hminded.collector c hc
  rw [← hplant]
  exact ⟨c, hc, hp, hbn, hbuf, hd, hids⟩

/-- Whoever tells the listener that the session is over is the job that was started for that. -/
theorem started_before (hw : Handles g p r w) (hb : Bounded d link n (entriesOf 0 w.log))
    {before after : List Entry} {q q' : Plant} {i : Nat} {answer : Option EventBatch}
    (hlog : w.log = before ++ ⟨q, .did i (.hangUp link) answer, q'⟩ :: after) :
    ∃ e ∈ entriesOf 0 before, e.started ≠ [] := by
  have hi : i ≠ 0 := by
    rintro rfl
    have hmem : ⟨q, .did 0 (.hangUp link) answer, q'⟩ ∈ entriesOf 0 w.log :=
      mem_entriesOf.2 ⟨by simp [hlog], rfl⟩
    cases hb.untold _ hmem
  obtain ⟨w₁, hw₁, rfl, -, hdid⟩ := hw.before hlog
  obtain ⟨-, next, hcourse⟩ := hdid i (.hangUp link) answer rfl
  obtain ⟨x, htale, hplaced⟩ := hw₁.tale
  obtain ⟨l, hbyJob⟩ := hplaced.byJob_of_ne_zero hcourse hi
  obtain ⟨js, hjobs, hstarted⟩ := htale.jobs
  obtain ⟨s, delay, clear, rfl, -⟩ := started_of_byJob hbyJob hstarted
  rw [htale.jobs_eq] at hjobs
  have hjob : Job.disconnect s delay clear ∈ w₁.log.flatMap Entry.started := by
    rw [List.append_cancel_left hjobs]
    exact List.mem_singleton.2 rfl
  obtain ⟨e, he, hjob⟩ := List.mem_flatMap.1 hjob
  refine ⟨e, mem_entriesOf.2 ⟨he, ?_⟩, List.ne_nil_of_mem hjob⟩
  refine Decidable.byContradiction fun hcourse => ?_
  have hending := hw₁.kept_ending he hcourse
  obtain ⟨q₁, event, q₂⟩ := e
  cases event with
  | did j a answer =>
    have hno : a.IsEnding := hending
    cases a <;> first | exact hno | cases hjob
  | met m => cases hjob

/-- What the collector has taken when it is told that the session is over. -/
theorem appended_eq_news (hw : Handles g p r w) (hb : Bounded d link n (entriesOf 0 w.log))
    {early late before after : List Entry} {e : Entry} (hsplit : w.log = early ++ late)
    (hlate : ∀ e ∈ late, e.course? ≠ some 0) (hearly : ∀ e ∈ early, ¬ e.IsReport link)
    (hlog : w.log = before ++ e :: after) (ht : told before = []) :
    appended link before = news d link n before := by
  rw [appended, FieldGateway.news, List.flatMap_def, List.flatMap_def]
  refine congrArg List.flatten (List.map_congr_left fun e' he' => ?_)
  by_cases hr : e'.IsReport link
  · obtain ⟨b₁, b₂, rfl⟩ := List.append_of_mem he'
    -- The report came in after all that the request did.
    have hne : e' ∉ early := fun he' => hearly e' he' hr
    have hlog' : early ++ late = b₁ ++ e' :: (b₂ ++ e :: after) := by
      rw [← hsplit, hlog]
      simp
    obtain ⟨l', rfl, rfl⟩ := exists_between hlog' hne
    have hall : entriesOf 0 w.log = entriesOf 0 (early ++ l') := by
      rw [hsplit, hlog', entriesOf_append,
        entriesOf_eq_nil fun e he => hlate e (List.mem_append_right _ he), List.append_nil]
    have ht' : told (early ++ l') = [] := by
      rw [told, List.filterMap_append] at ht
      exact (List.append_eq_nil_iff.1 ht).1
    have hstarted := hb.started
    rw [hall] at hstarted
    obtain ⟨c, hc, hp, hbn, -, hd, hids⟩ := hw.minded hb (hsplit.trans hlog') hstarted ht'
    exact Entry.appended_eq_news hc hp hbn hd hids
  · rw [Entry.appended_of_not_isReport hr, Entry.news_of_not_isReport hr]

/-- Once the job that was started has ended, the listener was told that the session is over. -/
theorem told_of_hasEnded (hw : Handles g p r w) (hend : w.hasEnded 1 = true) :
    ∃ link, made w.log = [link] ∧ told w.log = [link] ∧ handed w.log = offered w.log := by
  obtain ⟨x, htale, hplaced⟩ := hw.tale
  obtain ⟨l, rfl⟩ : ∃ l, x = parting true l (.told none) := by
    unfold Crew.hasEnded at hend
    split at hend
    · next a hcourse =>
      generalize w.courses = cs at hplaced hcourse
      cases hplaced with
      | alone _ _ => cases hcourse
      | @withJob k j x s delay clear _ hj _ =>
        obtain rfl := Option.some.inj hcourse
        exact ⟨s.link, hj⟩
    · cases hend
  refine ⟨l, htale.made_eq, htale.told_eq, ?_⟩
  rw [← htale.offered_eq]
  exact (List.append_nil _).symm

/-- The job that was started can be brought to its end. -/
theorem exists_play_hasEnded (hw : Handles g p r w) (hc : w.courses[0]? = some (.done (some o)))
    (hs : ∃ e ∈ w.log, e.started ≠ []) : ∃ ms, ((w.takeUp g p).play ms).hasEnded 1 = true := by
  obtain ⟨ms, hu⟩ := hw.exists_play hc
  refine ⟨ms, ?_⟩
  have hjobs : w.plant.jobs <+: ((w.takeUp g p).play ms).plant.jobs := by
    refine Crew.play_induction (P := fun w' => w.plant.jobs <+: w'.plant.jobs)
      (fun h hstep => h.trans hstep.jobs_prefix) ms ?_
    unfold Crew.takeUp
    split <;> exact List.prefix_rfl
  have hw' := hw.next.play ms
  generalize (w.takeUp g p).play ms = w' at hu hjobs hw'
  obtain ⟨x, htale, -⟩ := hw.tale
  obtain ⟨x', htale', -⟩ := hw'.tale
  obtain ⟨js, hjs, hstarted⟩ := htale'.jobs
  have hne : js ≠ [] := by
    rintro rfl
    rw [hjs, htale.jobs_eq, List.append_nil] at hjobs
    obtain ⟨more, hmore⟩ := hjobs
    have hnone : w.log.flatMap Entry.started = [] := by
      have hlength := congrArg List.length hmore
      simp only [List.length_append] at hlength
      exact List.length_eq_zero_iff.1 (by omega)
    obtain ⟨e, he, hjob⟩ := hs
    exact hjob (List.flatMap_eq_nil_iff.1 hnone e he)
  obtain ⟨s, delay, clear, rfl⟩ := started_singleton hstarted hne
  rw [Crew.unfinished_of_one hjs] at hu
  cases hend : w'.hasEnded 1 with
  | true => rfl
  | false =>
    rw [hend] at hu
    cases hu

/-- A request to a streetlight controller was answered, and the report of its events was enabled
with a number; no report came in over the link before that. The job that was started then can be
brought to its end. Once it has ended, one batch was sent if any events came in before the listener
was told that the session is over, and none otherwise: the events of all reports without a number or
from that number on, by their times. Reports that broke off have none. Whatever came in afterwards
is not among them. -/
theorem events_sent_at_end (hw : Handles g p r w) (hc : w.courses[0]? = some (.done (some o)))
    (hd : d ∈ found w.log) (hfamily : d.family = .streetlightController)
    (hn : n ∈ sequences w.log) :
    (∃ ms, ((w.takeUp g p).play ms).hasEnded 1 = true) ∧
    (w.hasEnded 1 = true → ∀ early late, w.log = early ++ late →
      (∀ e ∈ late, e.course? ≠ some 0) → (∀ e ∈ early, ∀ l ∈ made w.log, ¬ e.IsReport l) →
      ∃ link before h after sorted, made w.log = [link] ∧ w.log = before ++ h :: after ∧
        h.Did (fun a _ => a = .hangUp link) ∧ ByTime (news d link n before) sorted ∧
        handed w.log = (if news d link n before = [] then [] else [⟨d.id, sorted⟩]) ∧
        w.plant.outbox.events = p.outbox.events ++ handed w.log) := by
  obtain ⟨link, hb⟩ := hw.bounded hc hd hfamily hn
  constructor
  · obtain ⟨e, he, hjob⟩ := hb.started
    exact hw.exists_play_hasEnded hc ⟨e, (mem_entriesOf.1 he).1, hjob⟩
  · intro hend early late hsplit hlate hearly
    obtain ⟨l, hmade, htold, hoffered⟩ := hw.told_of_hasEnded hend
    have hmade' : made w.log = [link] := by
      rw [hw.made_entriesOf]
      exact hb.made
    obtain rfl : l = link := by
      rw [hmade] at hmade'
      exact List.singleton_inj.1 hmade'
    obtain ⟨before, q, i, answer, q', after, hlog, hbefore, hafter⟩ := exists_of_told htold
    obtain ⟨c, hcol, hp, -, hbuf, hid, -⟩ :=
      hw.minded hb hlog (hw.started_before hb hlog) hbefore
    have hnews := hw.appended_eq_news hb hsplit hlate
      (fun e he => hearly e he l (by rw [hmade]; exact List.mem_singleton.2 rfl)) hlog hbefore
    obtain ⟨w₁, -, -, -, hdid⟩ := hw.before hlog
    have hanswer : answer = some ⟨d.id, inOrder (news d l n before)⟩ := by
      rw [(hdid i (.hangUp l) answer rfl).1.hangUp, hcol, Option.bind_some,
        Collector.startDrain_of_ne (by simp [hp]), hbuf, hnews, hid]
      rfl
    refine ⟨l, before, _, after, inOrder (news d l n before), hmade, hlog, rfl,
      Collector.byTime_inOrder _, ?_, hw.tale.choose_spec.1.outbox.2⟩
    rw [hoffered, hlog, hanswer, offered, List.filterMap_append, ← offered,
      offered_of_told hbefore, List.nil_append, List.filterMap_cons, ← offered,
      offered_of_told hafter]
    by_cases hempty : news d l n before = [] <;>
      simp [Entry.did?, Action.offered?, Collector.inOrder_eq_nil, hempty]

end Handles

/-- A controller that has sent ten reports is asked to report its events. Then two reports come in,
one of them from before, each with an event and a member that is none. A last one comes in when the
session is over. -/
def Crew.gathered : Crew (Option Response) :=
  let event : Node :=
    .ofList "IO/CSLC.EvnRpn1" .bufferedReport [("evnType", .int 11), ("swNum", .int 1)]
  let other : Node := .ofList "IO/CSLC.EvnRpn2" .bufferedReport []
  let report (n : UInt32) : Crew.Move := .meet (.report 0 (.still 0)
    ⟨"evn_rpn01", "IO/LLN0.evn_rpn01", some n, none, false, false, none,
      some ⟨"EvnRpn", [event, other]⟩⟩)
  let ied : Ied := .ofModel ⟨[], [⟨"SWDeviceGenericIO/LLN0.evn_rpn01", true, false, 10⟩], []⟩
  let w : Crew (Option Response) :=
    ⟨.controller, [Gateway.standard.jobWork (.request 0 .reportEvents)], []⟩
  let during : List Crew.Move := [report 9, report 10]
  ((w.play (.meet (.device "10.0.0.1" ied) :: List.replicate 20 (.go 0) ++ during)).takeUp
    .standard .controller).play (List.replicate 20 (.go 1) ++ [report 11])

theorem Handles.events_sent_at_end_gathered :
    Handles .standard .controller .reportEvents Crew.gathered ∧
      (handed Crew.gathered.log).map (·.notifications.length) = [1] ∧
      ∃ o, Crew.gathered.courses[0]? = some (.done (some o)) ∧
        ∃ d ∈ found Crew.gathered.log, d.family = .streetlightController ∧
          (10 : UInt32) ∈ sequences Crew.gathered.log ∧ Crew.gathered.hasEnded 1 = true ∧
          ∃ early late, Crew.gathered.log = early ++ late ∧
            (∀ e ∈ late, e.course? ≠ some 0) ∧
            (∀ e ∈ early, ∀ l ∈ made Crew.gathered.log, ¬ e.IsReport l) ∧
            ∃ link before h after sorted, made Crew.gathered.log = [link] ∧
              Crew.gathered.log = before ++ h :: after ∧ h.Did (fun a _ => a = .hangUp link) ∧
              ByTime (news d link 10 before) sorted ∧
              handed Crew.gathered.log =
                (if news d link 10 before = [] then [] else [⟨d.id, sorted⟩]) ∧
              Crew.gathered.plant.outbox.events =
                Plant.controller.outbox.events ++ handed Crew.gathered.log := by
  have hw : Handles .standard .controller .reportEvents Crew.gathered :=
    ((start.play _).next).play _
  have hdone : Crew.gathered.answer?.isSome = true := by decide +kernel
  have hfamily : (found Crew.gathered.log).map (·.family) = [.streetlightController] := by
    decide +kernel
  have hn : (10 : UInt32) ∈ sequences Crew.gathered.log := by decide +kernel
  have hend : Crew.gathered.hasEnded 1 = true := by decide +kernel
  have hlate : ∀ e ∈ Crew.gathered.log.drop 15, e.course? ≠ some 0 := by decide +kernel
  have hnone : ∀ e ∈ Crew.gathered.log.take 15, e.report? = none := by decide +kernel
  have hearly : ∀ e ∈ Crew.gathered.log.take 15, ∀ l ∈ made Crew.gathered.log, ¬ e.IsReport l :=
    fun e he _ _ => Entry.not_isReport_of_report? (hnone e he)
  obtain ⟨d, hd, hfamily⟩ := List.map_eq_singleton_iff.1 hfamily
  have hmem : d ∈ found Crew.gathered.log := by simp [hd]
  have hsplit := (List.take_append_drop 15 Crew.gathered.log).symm
  obtain ⟨o, ho⟩ := Option.isSome_iff_exists.1 hdone
  have hc := Crew.done_of_answer? ho
  exact ⟨hw, by decide +kernel, o, hc, d, hmem, hfamily, hn, hend, _, _, hsplit, hlate, hearly,
    (hw.events_sent_at_end hc hmem hfamily hn).2 hend _ _ hsplit hlate hearly⟩

/-- A report of one event that tells when it was triggered; its time of entry is the last there
is. -/
def Report.enteredLast : Report where
  id := "evn_rpn01"
  block := "IO/LLN0.evn_rpn01"
  sequence := some 10
  segment := none
  continued := false
  overflow := false
  entry := some Int64.maxValue
  dataSet := some ⟨"EvnRpn", [.ofList "IO/CSLC.EvnRpn1" .bufferedReport
    [("evnType", .int 11), ("swNum", .int 1), ("trgTime", .timestamp 5000)]]⟩

/-- A controller that has sent ten reports is asked to report its events, and sends this one. -/
def Crew.enteredLast : Crew (Option Response) :=
  let ied : Ied := .ofModel ⟨[], [⟨"SWDeviceGenericIO/LLN0.evn_rpn01", true, false, 10⟩], []⟩
  let w : Crew (Option Response) :=
    ⟨.controller, [Gateway.standard.jobWork (.request 0 .reportEvents)], []⟩
  ((w.play (.meet (.device "10.0.0.1" ied) :: List.replicate 20 (.go 0) ++
    [.meet (.report 0 (.still 0) .enteredLast)])).takeUp .standard .controller).play
      (List.replicate 20 (.go 1))

/-- Its event is not sent: the report, which is not from before the number, came in after the
response and before the listener was told of the end, but it broke off. -/
theorem Handles.late_entry_unsent :
    Handles .standard .controller .reportEvents Crew.enteredLast ∧
      Crew.enteredLast.answer?.isSome ∧
      (found Crew.enteredLast.log).map (·.family) = [.streetlightController] ∧
      sequences Crew.enteredLast.log = [10] ∧ made Crew.enteredLast.log = [0] ∧
      Crew.enteredLast.hasEnded 1 = true ∧
      (∃ early during late, Crew.enteredLast.log = early ++ (during ++ late) ∧
        (∀ e ∈ during ++ late, e.course? ≠ some 0) ∧ early.filterMap Entry.report? = [] ∧
        during.filterMap Entry.report? = [(0, .enteredLast)] ∧ told (early ++ during) = []) ∧
      Report.enteredLast.sequence = some 10 ∧
      (Report.enteredLast.members.filterMap fun m =>
        (Event.ofMember "SSLD-1" (Event.externalIds []) Report.enteredLast.time? 0 m).toOption) =
          [⟨"SSLD-1", 5000, .lightOn, "", 0⟩] ∧
      handed Crew.enteredLast.log = [] ∧ Crew.enteredLast.plant.outbox.events = [] := by
  have hw : Handles .standard .controller .reportEvents Crew.enteredLast :=
    ((start.play _).next).play _
  refine ⟨hw, by decide +kernel, by decide +kernel, by decide +kernel, by decide +kernel,
    by decide +kernel, ⟨Crew.enteredLast.log.take 15, (Crew.enteredLast.log.drop 15).take 1,
      (Crew.enteredLast.log.drop 15).drop 1, ?_, ?_⟩, rfl, by decide +kernel, by decide +kernel,
    by decide +kernel⟩
  · rw [List.take_append_drop, List.take_append_drop]
  · rw [List.take_append_drop]
    exact ⟨by decide +kernel, by decide +kernel, by decide +kernel, by decide +kernel⟩

end FieldGateway
