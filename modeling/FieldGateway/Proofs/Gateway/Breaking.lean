import FieldGateway.Proofs.Gateway.Account

/-!
# Broken connections

Every request has one response, which is sent once. Its outcome tells whether the connection broke:
after a call that finds it broken nothing more is read or written, the session is ended, and the
request fails for want of a connection; without such a call, it never does.
-/

namespace FieldGateway

open Contact
open Protocol (Leads)

/-! ## Failures -/

section
variable {P : Entry → Prop} {l m early late : List Entry} {e : Entry}

theorem split_right (h : l ++ m = early ++ e :: late) (hl : ∀ d ∈ l, ¬ P d) (he : P e) :
    ∃ early', m = early' ++ e :: late := by
  rcases List.append_eq_append_iff.1 h with ⟨l', -, hm⟩ | ⟨m', hl', hm⟩
  · exact ⟨l', hm⟩
  · cases m' with
    | nil => exact ⟨[], hm.symm⟩
    | cons d m' =>
      obtain ⟨rfl, -⟩ := List.cons.inj hm
      exact absurd he (hl e (by rw [hl']; simp))

theorem split_left (h : l ++ m = early ++ e :: late) (hm : ∀ d ∈ m, ¬ P d) (he : P e) :
    ∃ late', l = early ++ e :: late' ∧ late = late' ++ m := by
  rcases List.append_eq_append_iff.1 h with ⟨l', -, hm'⟩ | ⟨m', hl', hm'⟩
  · exact absurd he (hm e (by rw [hm']; simp))
  · cases m' with
    | nil => exact absurd he (hm e (by rw [← List.nil_append m, ← hm']; simp))
    | cons d m' =>
      obtain ⟨rfl, rfl⟩ := List.cons.inj hm'
      exact ⟨m', hl', rfl⟩

end

/-- An entry that fails a needed call is neither from before the operation nor from after it. -/
theorem Entry.not_fails {N : Action → Prop} {strict : Prop} {e : Entry} (he : e.Kept N)
    (hN : ∀ a, N a → ¬ a.IsNeeded strict) : ¬ e.Did (Action.Fails strict) := by
  obtain ⟨p, d | m, q⟩ := e
  · exact fun hf => hN _ he hf.1
  · exact id

namespace Account

variable {g : Gateway} {r : Request} {o : Response} {log : List Entry}

theorem not_needed_of_isBeginning {strict : Prop} {a : Action} (h : a.IsBeginning) :
    ¬ a.IsNeeded strict := by
  cases a <;> first | exact id | exact h.elim

theorem not_needed_of_isSending {strict : Prop} {a : Action} (h : a.IsSending) :
    ¬ a.IsNeeded strict := by
  cases a <;> first | exact id | exact h.elim

/-- A terminal unit is enabled to report in the end, but that is not its operation. -/
theorem not_needed_of_isClosing {strict : Prop} {a : Action} (h : a.IsClosing)
    (hs : strict → a.IsEnding) : ¬ a.IsNeeded strict := by
  cases a with
  | enable l reference => exact fun hneeded => hs hneeded
  | _ => first | exact id | exact h.elim

theorem not_transfer_of_isAside {a : Action} (h : a.IsAside) : ¬ a.IsTransfer := by
  cases a <;> first | exact id | exact h.elim

theorem not_transfer_of_isClosing {a : Action} (h : a.IsClosing) : ¬ a.IsTransfer := by
  cases a <;> first | exact id | exact h.elim

theorem not_transfer_of_isSending {a : Action} (h : a.IsSending) : ¬ a.IsTransfer := by
  cases a <;> first | exact id | exact h.elim

/-- If a needed call found the connection broken, the request failed for that, and nothing was read
or written afterwards. -/
theorem of_fails (h : Account g r o log) {early late : List Entry} {e : Entry}
    (hlog : log = early ++ e :: late)
    (he : e.Did (Action.Fails (∃ d ∈ found log, r.operation.IsReporting d))) :
    (∃ reason, o.outcome = .connectionFailure reason) ∧
      (∀ d ∈ late, d.Kept fun a => ¬ a.IsTransfer) ∧
      (∃ link, made log = [link]) ∧ ¬ Modelless g.connectTimeout.toNat log := by
  cases h with
  | unserved hbefore _ _ hlast _ =>
    obtain ⟨early', hlog⟩ := split_right hlog
      (fun d hd => Entry.not_fails (hbefore d hd) fun _ => not_needed_of_isBeginning) he
    have hmem := hlast e (by rw [hlog]; simp)
    exact absurd he (Entry.not_fails hmem fun _ => not_needed_of_isSending)
  | @served before work closing last d s result y hbefore hfound hopened hwork hy hcarried hconclude
      ho hlast hsent =>
    have hclosing := hconclude.kept (g.within_closing_conclude s d result)
    have hlater := kept_later hy hclosing hlast
    have hfound' : found (before ++ (work ++ (closing ++ last))) = [d] :=
      (found_append_later hlater).trans hfound
    have hmade : made (before ++ (work ++ (closing ++ last))) = [s.link] :=
      (made_append_later hlater).trans hopened.made
    have hclosing' : ∀ e ∈ closing,
        e.Kept fun a => a.IsClosing ∧ (r.operation.IsReporting d → a.IsEnding) := by
      intro e he
      have hkept := hclosing e he
      have hkept' : r.operation.IsReporting d → e.Kept Action.IsEnding := fun hs =>
        hconclude.kept (g.within_ending_conclude s d (by rw [hs.2]; rfl) result) e he
      obtain ⟨p, d | m, q⟩ := e
      · exact ⟨hkept, hkept'⟩
      · trivial
    have hstrict : (∃ d' ∈ [d], r.operation.IsReporting d') = r.operation.IsReporting d := by simp
    rw [hfound', hstrict] at he
    obtain ⟨early', hrest⟩ := split_right hlog
      (fun d hd => Entry.not_fails (hbefore d hd) fun _ => not_needed_of_isBeginning) he
    have hafter : ∀ d' ∈ closing ++ last, ¬ d'.Did (Action.Fails (r.operation.IsReporting d)) := by
      refine List.forall_mem_append.2 ⟨fun d' hd' => ?_, fun d' hd' => ?_⟩
      · exact Entry.not_fails (hclosing' d' hd') fun _ h => not_needed_of_isClosing h.1 h.2
      · exact Entry.not_fails (hlast d' hd') fun _ => not_needed_of_isSending
    obtain ⟨late', hwork', rfl⟩ := split_left hrest hafter he
    obtain ⟨rfl, haside⟩ := broken_of_fails hy hwork' he
    obtain ⟨e', rfl, hfatal⟩ : ∃ e', result = .error e' ∧ e'.isFatal = true := by
      rcases result with e' | ⟨payload, ending⟩
      · rcases hcarried with ⟨hfatal, -⟩ | ⟨-, hsound⟩
        · exact ⟨e', rfl, hfatal⟩
        · cases hsound
      · cases ending <;> cases hcarried
    refine ⟨⟨e'.message, ?_⟩, ?_, ⟨s.link, hmade⟩, ?_⟩
    · rw [ho]
      simp [Request.respond, Except.map, Gateway.outcome, hfatal]
    · refine List.forall_mem_append.2 ⟨fun d hd => ?_, List.forall_mem_append.2
        ⟨fun d hd => ?_, fun d hd => ?_⟩⟩
      · exact (haside d hd).mono fun _ => not_transfer_of_isAside
      · exact (hclosing d hd).mono fun _ => not_transfer_of_isClosing
      · exact (hlast d hd).mono fun _ => not_transfer_of_isSending
    · rw [Session.modelless_append]
      exact fun h => h.elim hopened.inTime (not_modelless_of_later hlater)

/-- If no call found the connection broken, the request did not fail for that. -/
theorem of_sound (h : Account g r o log) (hmade : made log ≠ [])
    (htime : ¬ Modelless g.connectTimeout.toNat log) (hsound : ∀ e ∈ log, ¬ e.Did Action.Breaks)
    (reason : String) : o.outcome ≠ .connectionFailure reason := by
  cases h with
  | @unserved before last e hbefore hopening ho hlast hsent =>
    rw [made_append_later fun e he => (hlast e he).mono fun _ h => .inr (.inr h)] at hmade
    rcases hopening with hnone | hlate
    · exact absurd hnone hmade
    · exact absurd (Session.modelless_append.2 (.inl hlate)) htime
  | @served before work closing last d s result y hbefore hfound hopened hwork hy hcarried hconclude
      ho hlast hsent =>
    rw [ho]
    rcases result with e | ⟨payload, ending⟩
    · rcases hcarried with ⟨-, rfl⟩ | ⟨hfatal, -⟩
      · obtain ⟨d', hd', hf⟩ := exists_fails hy Contact.noConfusion
        refine absurd ?_ (hsound d' (List.mem_append_right _ (List.mem_append_left _ hd')))
        obtain ⟨q, ev | m, q'⟩ := d'
        · exact hf.2
        · exact hf.elim
      · simp [Request.respond, Except.map, Gateway.outcome, hfatal]
    · simp [Request.respond, Except.map, Gateway.outcome]

end Account

/-! ## Crews of requests -/

/-- A request that is carried out as long as it has to ends with a response. There is one response,
it is sent once, and it belongs to the request. If a read or a write finds the connection broken,
or, where the request consists in that, the enabling of the report of events does, then the request
fails for want of a connection, nothing is read or written afterwards, and the session is over,
without a job being left. If there was a session and no call found the connection broken, the
request does not fail for want of a connection. -/
theorem Handles.broken_connection_told {g : Gateway} {p : Plant} {r : Request}
    {w : Crew (Option Response)} (hw : Handles g p r w) :
    (∃ ms o, (w.play ms).courses[0]? = some (.done (some o))) ∧
    ∀ o, w.courses[0]? = some (.done (some o)) →
      (responses w.log = [o] ∧ w.plant.outbox.responses = p.outbox.responses ++ [o] ∧
        o.correlationId = r.correlationId ∧ o.organisationId = r.organisationId ∧
        o.deviceId = r.deviceId ∧ o.operation = r.operation.name) ∧
      (∀ early e late, w.log = early ++ e :: late →
        e.Did (Action.Fails (∃ d ∈ found w.log, r.operation.IsReporting d)) →
        (∃ reason, o.outcome = .connectionFailure reason) ∧
          (∀ d ∈ late, d.Kept fun a => ¬ a.IsTransfer) ∧
          ∃ link, made w.log = [link] ∧ w.Ended p link) ∧
      (made w.log ≠ [] → ¬ Modelless g.connectTimeout.toNat w.log →
        (∀ e ∈ w.log, ¬ e.Did Action.Breaks) →
        ∀ reason, o.outcome ≠ .connectionFailure reason) := by
  refine ⟨hw.exists_response, fun o hc => ?_⟩
  have hresponses := hw.responses_eq hc
  have haccount := hw.account hc
  have hmodelless : Modelless g.connectTimeout.toNat w.log ↔
      Modelless g.connectTimeout.toNat (entriesOf 0 w.log) := hw.modelless_entriesOf
  refine ⟨⟨hresponses, hresponses ▸ hw.tale.choose_spec.1.outbox.1, ?_⟩, ?_, ?_⟩
  · obtain ⟨-, x, -, -, -, -, -, rfl, -⟩ := hw.handled hc
    exact ⟨rfl, rfl, rfl, rfl⟩
  · intro early e late hlog he
    have hcourse : e.course? = some 0 := by
      refine Decidable.byContradiction fun hi => ?_
      have hending := hw.kept_ending (e := e) (by rw [hlog]; simp) hi
      exact Entry.not_fails hending (fun a ha => by cases a <;> first | exact id | exact ha.elim) he
    have hpart : entriesOf 0 w.log = entriesOf 0 early ++ e :: entriesOf 0 late := by
      rw [hlog, entriesOf_append]
      simp [entriesOf, hcourse]
    rw [hw.found_entriesOf] at he
    obtain ⟨⟨reason, ho⟩, htransfer, ⟨link, hlink⟩, htime⟩ := haccount.of_fails hpart he
    refine ⟨⟨reason, ho⟩, fun d hd => ?_, link, hw.made_entriesOf.trans hlink, ?_⟩
    · by_cases hi : d.course? = some 0
      · exact htransfer d (mem_entriesOf.2 ⟨hd, hi⟩)
      · have hending := hw.kept_ending (e := d) (by rw [hlog]; simp [hd]) hi
        exact hending.mono fun a ha => by cases a <;> first | exact id | exact ha.elim
    · rcases hw.association hc with ⟨hnone, -⟩ | ⟨l, hl, ⟨hlate, -⟩ | ⟨-, hended | hleft⟩⟩
      · rw [hw.made_entriesOf, hlink] at hnone
        cases hnone
      · exact absurd (hmodelless.1 hlate) htime
      · rw [hw.made_entriesOf, hlink] at hl
        rwa [List.singleton_inj.1 hl]
      · have hsuccess := hleft.success
        rw [ho] at hsuccess
        cases hsuccess
  · intro hne htime hsound
    exact haccount.of_sound (hw.made_entriesOf ▸ hne) (fun h => htime (hmodelless.2 h))
      fun e he => hsound e (mem_entriesOf.1 he).1

/-- The controller is to report its events, and the connection breaks at that. -/
def Crew.cutOff : Crew (Option Response) :=
  let w : Crew (Option Response) :=
    ⟨.controller, [Gateway.standard.jobWork (.request 0 .reportEvents)], []⟩
  w.play (List.replicate 8 (.go 0) ++ .fail 0 (.io "reset") :: List.replicate 20 (.go 0))

/-- How the connection broke when a report was to be enabled. -/
def Action.cut? : (a : Action) → a.Answer → Option String
  | .enable _ _, .error (.io text) => some text
  | _, _ => none

theorem Action.did_of_cut? {strict : Prop} {e : Entry} {text : String} (hs : strict)
    (h : e.did? Action.cut? = some text) : e.Did (Action.Fails strict) := by
  obtain ⟨p, event, q⟩ := e
  cases event with
  | met m => cases h
  | did i a answer =>
    have hcut : a.cut? answer = some text := h
    unfold Action.cut? at hcut
    split at hcut
    · exact ⟨hs, _, rfl⟩
    · cases hcut

theorem Handles.broken_connection_told_cutOff :
    Handles .standard .controller .reportEvents Crew.cutOff ∧
      ∃ o early e late, Crew.cutOff.courses[0]? = some (.done (some o)) ∧
        Crew.cutOff.log = early ++ e :: late ∧
        e.Did (Action.Fails
          (∃ d ∈ found Crew.cutOff.log, Request.reportEvents.operation.IsReporting d)) ∧
        responses Crew.cutOff.log = [o] ∧ (∃ reason, o.outcome = .connectionFailure reason) ∧
        (∀ d ∈ late, d.Kept fun a => ¬ a.IsTransfer) ∧
        ∃ link, made Crew.cutOff.log = [link] ∧ Crew.cutOff.Ended .controller link := by
  have hw : Handles .standard .controller .reportEvents Crew.cutOff := Handles.start.play _
  have hdone : Crew.cutOff.answer?.isSome = true := by decide +kernel
  have hcut : Crew.cutOff.log.filterMap (Entry.did? Action.cut?) = ["reset"] := by decide +kernel
  have hfamily : (found Crew.cutOff.log).map (·.family) = [.streetlightController] := by
    decide +kernel
  obtain ⟨o, ho⟩ := Option.isSome_iff_exists.1 hdone
  have hc := Crew.done_of_answer? ho
  obtain ⟨early, e, late, hlog, -, he, -⟩ := List.filterMap_eq_cons_iff.1 hcut
  have hreporting : ∃ d ∈ found Crew.cutOff.log, Request.reportEvents.operation.IsReporting d := by
    obtain ⟨d, hd, hfamily⟩ := List.map_eq_singleton_iff.1 hfamily
    exact ⟨d, by simp [hd], rfl, hfamily⟩
  have hfails := Action.did_of_cut? hreporting he
  obtain ⟨-, htells⟩ := hw.broken_connection_told
  obtain ⟨⟨hresponses, -⟩, hends, -⟩ := htells o hc
  obtain ⟨ho, htransfer, hended⟩ := hends early e late hlog hfails
  exact ⟨hw, o, early, e, late, hc, hlog, hfails, hresponses, ho, htransfer, hended⟩

end FieldGateway
