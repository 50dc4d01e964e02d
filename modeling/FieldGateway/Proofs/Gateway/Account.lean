import FieldGateway.Proofs.Gateway.Contact
import FieldGateway.Proofs.Gateway.Parts
import FieldGateway.Proofs.Plant.Outbox

/-!
# The account of a request

What a request that was answered did is told part by part: what came before there was a session, the
operation with what became of the connection, the end of the session, and the response.

* `Handles.account`: every request that was answered gives such an account.
* `Handles.responses_eq`: it was answered once.
* `Handles.exists_response`: it can always be brought to its answer.
* `Tale.outbox`: what was received by those the results are sent to is what was sent to them.
-/

namespace FieldGateway

open Contact
open Protocol (Leads)

/-! ## The connection, by the log of an operation -/

namespace Action

/-- Holds of what an operation does. -/
def IsWork : Action → Prop
  | isOpen _ | start _ => True
  | a => a.IsCall ∨ a.IsAside

/-- Holds of what moves a value between the gateway and a device. -/
def IsTransfer : Action → Prop
  | read _ _ _ | write _ _ => True
  | _ => False

end Action

section
variable {strict : Prop} {link : Nat} {x y : Contact} {log : List Entry}

theorem Contact.Step.isWork {a : Action} {answer : a.Answer} (h : Step strict x a answer y) :
    a.IsWork := by
  cases h with
  | aside ha => cases a <;> first | exact ha.elim | exact .inr ha
  | look => trivial
  | call ha _ | fail ha _ => cases a <;> first | exact ha.elim | exact .inl ha
  | leave => trivial

theorem Action.not_aside_of_needed {a : Action} (h : a.IsNeeded strict) : ¬ a.IsAside := by
  cases a <;> first | exact id | exact h.elim

/-- What an operation did. -/
theorem kept_work (h : Leads (contact strict link) x log y) : ∀ e ∈ log, e.Kept Action.IsWork := by
  induction h with
  | refl => simp
  | step hs _ ih => exact List.forall_mem_cons.2 ⟨Contact.Step.isWork hs, ih⟩

/-- Nothing comes after the connection was found broken, or the session was left to a job. -/
theorem kept_aside (h : Leads (contact strict link) x log y) (hx : x ≠ sound) :
    y = x ∧ ∀ e ∈ log, e.Kept Action.IsAside := by
  induction h with
  | refl => exact ⟨rfl, by simp⟩
  | step hs _ ih =>
    cases hs with
    | aside ha =>
      obtain ⟨hy, hlog⟩ := ih hx
      exact ⟨hy, List.forall_mem_cons.2 ⟨ha, hlog⟩⟩
    | look | call | fail | leave => exact absurd rfl hx

/-- The first needed call that fails is the last one. -/
theorem broken_of_fails (h : Leads (contact strict link) x log y) {early late : List Entry}
    {e : Entry} (hlog : log = early ++ e :: late) (he : e.Did (Action.Fails strict)) :
    y = broken ∧ ∀ d ∈ late, d.Kept Action.IsAside := by
  induction h generalizing early with
  | refl => simp at hlog
  | @step x z y i a answer p q log hs h ih =>
    cases early with
    | nil =>
      obtain ⟨rfl, rfl⟩ := List.cons.inj hlog
      have hf : a.Fails strict answer := he
      cases hs with
      | aside ha => exact absurd ha (Action.not_aside_of_needed hf.1)
      | look => exact hf.1.elim
      | call _ hn => exact absurd hf hn
      | fail _ _ => exact kept_aside h Contact.noConfusion
      | leave => exact hf.1.elim
    | cons d early =>
      obtain ⟨-, hlog⟩ := List.cons.inj hlog
      exact ih hlog

theorem exists_fails (h : Leads (contact strict link) x log broken) (hx : x ≠ broken) :
    ∃ e ∈ log, e.Did (Action.Fails strict) := by
  generalize hz : broken = z at h
  induction h with
  | refl => exact absurd hz.symm hx
  | step hs h ih =>
    cases hs with
    | fail _ hf => exact ⟨_, List.mem_cons_self, hf⟩
    | aside | look | call =>
      obtain ⟨e, he, hf⟩ := ih hx hz
      exact ⟨e, List.mem_cons_of_mem _ he, hf⟩
    | leave =>
      obtain ⟨e, he, hf⟩ := ih Contact.noConfusion hz
      exact ⟨e, List.mem_cons_of_mem _ he, hf⟩

/-- While the connection is sound, the session is neither ended nor left to a job. -/
theorem not_parting (h : Leads (contact strict link) x log sound) :
    ∀ e ∈ log, e.Kept fun a => ¬ a.IsParting := by
  generalize hz : sound = z at h
  induction h with
  | refl => simp
  | @step x z y i a answer p q log hs h ih =>
    have ha : ¬ a.IsParting := by
      cases hs with
      | aside ha => cases a <;> first | exact id | exact ha.elim
      | look => exact id
      | call ha _ | fail ha _ => cases a <;> first | exact id | exact ha.elim
      | leave =>
        have hy := (kept_aside h Contact.noConfusion).1
        rw [← hz] at hy
        cases hy
    exact List.forall_mem_cons.2 ⟨ha, ih hz⟩

end

/-! ## Crews -/

/-- What was sent since the beginning. -/
theorem Tale.outbox {limit : Nat} {p q : Plant} {log : List Entry} {x : Standing}
    (h : Tale limit p log q x) :
    q.outbox.responses = p.outbox.responses ++ responses log ∧
      q.outbox.events = p.outbox.events ++ handed log := by
  induction h with
  | start => simp [responses, handed]
  | @act log q q' x y i a answer _ ha _ ih =>
    rw [ha.outbox, handed_concat]
    cases a <;> simp [Action.sent, responses, Entry.did?, Action.response?, Entry.handed, ih]
  | meet _ e ih =>
    rw [(Plant.sent_meet e).1, (Plant.sent_meet e).2, handed_concat]
    simp [responses, Entry.did?, Entry.handed, ih]
  | takeUp _ ih => exact ih

theorem entriesOf_eq_append_cons {i : Nat} {log l₁ l₂ : List Entry} {e : Entry}
    (h : entriesOf i log = l₁ ++ e :: l₂) :
    ∃ early late, log = early ++ e :: late ∧ entriesOf i early = l₁ ∧ entriesOf i late = l₂ := by
  obtain ⟨m₁, m₂, rfl, h₁, h₂⟩ := List.filter_eq_append_iff.1 h
  obtain ⟨m₃, m₄, rfl, hnone, -, h₄⟩ := List.filter_eq_cons_iff.1 h₂
  refine ⟨m₁ ++ m₃, m₄, by simp, ?_, h₄⟩
  have hm₃ : entriesOf i m₃ = [] := List.filter_eq_nil_iff.2 hnone
  rw [entriesOf_append, hm₃, List.append_nil]
  exact h₁

namespace Handles

variable {g : Gateway} {p : Plant} {r : Request} {w : Crew (Option Response)} {o : Response}

/-- What only the request can have done is in its part of the log. -/
theorem filterMap_entriesOf {β : Type} {f : (a : Action) → a.Answer → Option β}
    (hw : Handles g p r w) (hf : ∀ a answer, a.IsEnding → f a answer = none) :
    w.log.filterMap (Entry.did? f) = (entriesOf 0 w.log).filterMap (Entry.did? f) := by
  have hnone : ∀ e ∈ w.log, e.course? ≠ some 0 → e.did? f = none := fun e he hi =>
    Entry.did?_of_kept (hw.kept_ending he hi) hf
  generalize w.log = log at hnone
  induction log with
  | nil => rfl
  | cons e log ih =>
    have htail := ih fun d hd => hnone d (List.mem_cons_of_mem _ hd)
    by_cases hi : e.course? = some 0
    · simp [entriesOf, hi, List.filterMap_cons, htail]
    · simp [entriesOf, hi, htail, hnone e List.mem_cons_self hi]

theorem made_entriesOf (hw : Handles g p r w) : made w.log = made (entriesOf 0 w.log) :=
  hw.filterMap_entriesOf fun a _ ha => by cases a <;> first | rfl | exact ha.elim

theorem found_entriesOf (hw : Handles g p r w) : found w.log = found (entriesOf 0 w.log) :=
  hw.filterMap_entriesOf fun a _ ha => by cases a <;> first | rfl | exact ha.elim

/-- The parts of a request that was answered. -/
theorem handled (hw : Handles g p r w) (hc : w.courses[0]? = some (.done (some o))) :
    ∃ l₁ x l₂ q refused q', Gateway.Handled g r 0 l₁ x ∧ o = r.respond (Gateway.outcome x) ∧
      entriesOf 0 w.log = l₁ ++ ⟨q, .did 0 (.sendResponse o) refused, q'⟩ :: l₂ ∧
      ∀ e ∈ l₂, e.Kept fun a => a = .count .responsesSent 1 := by
  obtain ⟨job, hjob, hruns⟩ := hw.runs hc
  obtain rfl : Job.request 0 r = job := Option.some.inj hjob
  have h := hruns [] (some o) (.done _)
  rw [List.append_nil] at h
  obtain ⟨l₁, _, l₂, h₁, h₂, hlog⟩ := Work.runs_bind.1 h
  obtain ⟨l₃, o', l₄, h₃, h₄, rfl⟩ := Work.runs_bind.1 h₂
  obtain rfl := Work.runs_pause.1 h₁
  obtain ⟨rfl, ho⟩ := Work.runs_pure.1 h₄
  obtain rfl := Option.some.inj ho
  obtain ⟨l₅, x, l₆, q, refused, q', hx, ho, rfl, hl₆⟩ := Gateway.runs_handle h₃
  exact ⟨l₅, x, l₆, q, refused, q', hx, ho, by simpa using hlog, hl₆⟩

/-- The operation of a request tells what became of the connection. -/
theorem contact (hw : Handles g p r w) {before work after : List Entry} {s : Session} {d : Device}
    {result : Except Failure (Payload × Gateway.Ending)}
    (hlog : entriesOf 0 w.log = before ++ (work ++ after)) (hmade : s.link ∈ made before)
    (hbefore : ∀ e ∈ before, e.Kept fun a => ¬ a.IsParting)
    (hwork : (g.carryOut s d r.operation).run.Runs 0 work result) :
    ∃ y, Leads (FieldGateway.contact (r.operation.IsReporting d) s.link) sound work y ∧
      Carried y result := by
  refine (g.contact_carryOut s d r.operation).leads hwork
    fun early q a answer q' late y hsplit hy => ?_
  cases y with
  | broken | left => trivial
  | sound =>
    cases a with
    | isOpen l =>
      rintro rfl
      rw [hsplit, List.append_assoc, ← List.append_assoc] at hlog
      obtain ⟨pre, post, hw', hpre, -⟩ := entriesOf_eq_append_cons hlog
      obtain ⟨w₁, hw₁, rfl, hplant, hanswers⟩ := hw.before hw'
      -- Nobody has ended the session or left it to a job before, so that it is open.
      have hn : ∀ e ∈ entriesOf 0 w₁.log, e.Kept fun a => ¬ a.IsParting := by
        rw [hpre]
        exact List.forall_mem_append.2 ⟨hbefore, not_parting hy⟩
      obtain ⟨x, ht, -, hx⟩ := hw₁.held hn
      have hlink : x.link? = some s.link := by
        have hmem : s.link ∈ made w₁.log := by
          have hsub : made (entriesOf 0 w₁.log) ⊆ made w₁.log :=
            List.filterMap_subset _ List.filter_sublist.subset
          refine hsub ?_
          rw [hpre, Session.made_append]
          exact List.mem_append_left _ hmade
        rw [ht.made_eq] at hmem
        simpa using hmem
      have hopen := (ht.link hlink).2.2
      rw [hx.isOver, hplant] at hopen
      have hanswer := (hanswers 0 _ answer rfl).1.perform_eq fun f hf => by cases hf
      have : q.isOpen s.link = answer := congrArg Prod.fst hanswer
      rw [← this]
      exact hopen
    | _ => trivial

end Handles

/-! ## Accounts -/

namespace Action

/-- Holds of what is done before the operation. -/
def IsBeginning : Action → Prop
  | findDevice _ => True
  | a => a.IsOpening

/-- Holds of what is done after the session was concluded. -/
def IsSending : Action → Prop
  | sendResponse _ | count _ _ => True
  | _ => False

theorem isBeginning_of_isOpening {a : Action} (h : a.IsOpening) : a.IsBeginning := by
  cases a <;> trivial

end Action

/-- What a request did that was answered, part by part. -/
inductive Account (g : Gateway) (r : Request) (o : Response) : List Entry → Prop
  /-- There was no session. -/
  | unserved {before last : List Entry} {e : Failure}
      (hbefore : ∀ d ∈ before, d.Kept Action.IsBeginning)
      (hopening : made before = [] ∨ Modelless g.connectTimeout.toNat before)
      (ho : o = r.respond (Gateway.outcome (.error e)))
      (hlast : ∀ d ∈ last, d.Kept Action.IsSending) (hsent : responses last = [o]) :
      Account g r o (before ++ last)
  /-- The operation was carried out, as far as it could be. -/
  | served {before work closing last : List Entry} {d : Device} {s : Session}
      {result : Except Failure (Payload × Gateway.Ending)} {y : Contact}
      (hbefore : ∀ d ∈ before, d.Kept Action.IsBeginning) (hfound : found before = [d])
      (hopened : s.Opened d.identity (g.approach d.family) (g.listenerFor d) before)
      (hwork : (g.carryOut s d r.operation).run.Runs 0 work result)
      (hy : Leads (contact (r.operation.IsReporting d) s.link) sound work y)
      (hcarried : Carried y result)
      (hclosing : (g.conclude s d result).run.Runs 0 closing (result.map (·.1)))
      (ho : o = r.respond (Gateway.outcome (result.map (·.1))))
      (hlast : ∀ d ∈ last, d.Kept Action.IsSending) (hsent : responses last = [o]) :
      Account g r o (before ++ (work ++ (closing ++ last)))

theorem Gateway.runs_conclude {g : Gateway} {s : Session} {d : Device} {i : Nat} {log : List Entry}
    {result : Except Failure (Payload × Ending)} {x : Except Failure Payload}
    (h : (g.conclude s d result).run.Runs i log x) : x = result.map (·.1) := by
  rcases result with e | ⟨payload, ending⟩
  · obtain ⟨-, -, l₂, -, h₂, -⟩ := Attempt.runs_liftThen.1 h
    exact (Attempt.runs_throw.1 h₂).2
  · cases ending with
    | scheduled => exact (Attempt.runs_pure.1 h).2
    | «open» =>
      obtain ⟨-, -, l₂, -, h₂, -⟩ := Attempt.runs_liftThen.1 h
      exact (Attempt.runs_pure.1 h₂).2

namespace Account

variable {log : List Entry}

/-- Holds of what is done once there is a session. -/
def Action.IsLater (a : Action) : Prop := a.IsWork ∨ a.IsClosing ∨ a.IsSending

theorem kept_later {strict : Prop} {link : Nat} {x y : Contact} {work closing last : List Entry}
    (hy : Leads (contact strict link) x work y) (hclosing : ∀ e ∈ closing, e.Kept Action.IsClosing)
    (hlast : ∀ e ∈ last, e.Kept Action.IsSending) :
    ∀ e ∈ work ++ (closing ++ last), e.Kept Action.IsLater :=
  List.forall_mem_append.2 ⟨fun e he => (kept_work hy e he).mono fun _ => .inl,
    List.forall_mem_append.2 ⟨fun e he => (hclosing e he).mono fun _ h => .inr (.inl h),
      fun e he => (hlast e he).mono fun _ h => .inr (.inr h)⟩⟩

/-- Holds of what is done only to find the device and to open the session. -/
def Action.IsOnset : Action → Prop
  | .findDevice _ | .associate _ _ _ | .retrieve _ | .latency .retrieving => True
  | _ => False

theorem not_isOnset_of_isLater {a : Action} (h : Action.IsLater a) : ¬ Action.IsOnset a := by
  cases a with
  | latency stage =>
    cases stage with
    | retrieving => simp [Action.IsLater, Action.IsWork, Action.IsCall, Action.IsAside,
        Action.IsClosing, Action.IsEnding, Action.IsSending] at h
    | _ => exact id
  | findDevice _ | associate _ _ _ | retrieve _ =>
    simp [Action.IsLater, Action.IsWork, Action.IsCall, Action.IsAside, Action.IsClosing,
      Action.IsEnding, Action.IsSending] at h
  | _ => exact id

theorem found_append_later {before later : List Entry}
    (h : ∀ e ∈ later, e.Kept Action.IsLater) : found (before ++ later) = found before := by
  have hnone : later.filterMap (Entry.did? Action.found) = [] :=
    filterMap_of_kept h fun a _ ha => by
    cases a <;> first | rfl | exact absurd trivial (not_isOnset_of_isLater ha)
  rw [found, List.filterMap_append, hnone, List.append_nil]
  rfl

theorem made_append_later {before later : List Entry}
    (h : ∀ e ∈ later, e.Kept Action.IsLater) : made (before ++ later) = made before := by
  have hnone : later.filterMap (Entry.did? Action.made) = [] := filterMap_of_kept h fun a _ ha => by
    cases a <;> first | rfl | exact absurd trivial (not_isOnset_of_isLater ha)
  rw [made, List.filterMap_append, hnone, List.append_nil]
  rfl

theorem not_modelless_of_later {limit : Nat} (h : ∀ e ∈ log, e.Kept Action.IsLater) :
    ¬ Modelless limit log := by
  rintro ⟨⟨p, d | m, q⟩, he, hd⟩
  · rename_i a answer
    have honset : ¬ Action.IsOnset a := not_isOnset_of_isLater (h _ he)
    cases a with
    | latency stage =>
      cases stage with
      | retrieving => exact honset trivial
      | _ => exact hd
    | retrieve l => exact honset trivial
    | _ => exact hd
  · exact hd

end Account

namespace Handles

variable {g : Gateway} {p : Plant} {r : Request} {w : Crew (Option Response)} {o : Response}

theorem account (hw : Handles g p r w) (hc : w.courses[0]? = some (.done (some o))) :
    Account g r o (entriesOf 0 w.log) := by
  obtain ⟨l₁, x, l₂, q, refused, q', hx, ho, hlog, hl₂⟩ := hw.handled hc
  have hsent : responses (⟨q, .did 0 (.sendResponse o) refused, q'⟩ :: l₂) = [o] := by
    have hnone : responses l₂ = [] := filterMap_of_kept hl₂ fun a _ ha => by rw [ha]; rfl
    simpa [responses, Entry.did?, Action.response?] using hnone
  have hlast : ∀ e ∈ (⟨q, .did 0 (.sendResponse o) refused, q'⟩ : Entry) :: l₂,
      e.Kept Action.IsSending :=
    List.forall_mem_cons.2 ⟨trivial, fun e he => (hl₂ e he).mono fun a ha => by rw [ha]; trivial⟩
  have hbeginning : ∀ {l : List Entry}, (∀ e ∈ l, e.Kept Action.IsOpening) →
      ∀ e ∈ l, e.Kept Action.IsBeginning := fun h e he =>
    (h e he).mono fun _ => Action.isBeginning_of_isOpening
  cases hx with
  | unknown hf =>
    obtain ⟨q₁, q₂, answer, rfl, -⟩ := Gateway.runs_findDevice hf
    rw [hlog]
    exact .unserved (by simp [Entry.Kept, Action.IsBeginning]) (.inl rfl) ho hlast hsent
  | @unreached finding opening d e hf hop =>
    obtain ⟨q₁, q₂, answer, rfl, -⟩ := Gateway.runs_findDevice hf
    obtain ⟨hkept, hmade⟩ := Session.runs_connect hop
    rw [hlog]
    refine .unserved (List.forall_mem_cons.2 ⟨trivial, hbeginning hkept⟩) ?_ ho hlast hsent
    rcases hmade with hmade | hmade
    · exact .inl hmade
    · exact .inr (Session.modelless_append.2 (.inr hmade))
  | @served finding opening work closing d s result x hf hop hwork hcl =>
    obtain ⟨q₁, q₂, answer, rfl, hanswer⟩ := Gateway.runs_findDevice hf
    obtain rfl : answer = .ok (some d) := hanswer
    obtain ⟨hkept, hopened⟩ := Session.runs_connect hop
    obtain rfl := Gateway.runs_conclude hcl
    have hbefore : ∀ e ∈
        (⟨q₁, .did 0 (.findDevice r.deviceId) (.ok (some d)), q₂⟩ : Entry) :: opening,
        e.Kept Action.IsBeginning := List.forall_mem_cons.2 ⟨trivial, hbeginning hkept⟩
    have hlog' : entriesOf 0 w.log =
        (⟨q₁, .did 0 (.findDevice r.deviceId) (.ok (some d)), q₂⟩ :: opening) ++
          (work ++ (closing ++ (⟨q, .did 0 (.sendResponse o) refused, q'⟩ :: l₂))) := by
      rw [hlog]
      simp
    have hopened' : s.Opened d.identity (g.approach d.family) (g.listenerFor d)
        (⟨q₁, .did 0 (.findDevice r.deviceId) (.ok (some d)), q₂⟩ :: opening) := by
      refine ⟨hopened.identity, hopened.made,
        List.forall_mem_cons.2 ⟨trivial, hopened.listener⟩, hopened.model,
        fun h => hopened.inTime ?_⟩
      rcases Session.modelless_append (l := [_]).1 h with h | h
      · simp [Modelless, Entry.Did, Action.Modelless] at h
      · exact h
    have hnone : found opening = [] :=
      filterMap_of_kept hkept fun a _ ha => by cases a <;> first | rfl | exact ha.elim
    have hmade : s.link ∈
        made ((⟨q₁, .did 0 (.findDevice r.deviceId) (.ok (some d)), q₂⟩ : Entry) :: opening) := by
      rw [hopened'.made]
      exact List.mem_singleton.2 rfl
    obtain ⟨y, hy, hcarried⟩ := hw.contact hlog' hmade
      (fun e he => (hbefore e he).mono fun a ha => by cases a <;> first | exact id | exact ha.elim)
      hwork
    rw [hlog']
    refine .served hbefore ?_ hopened' hwork hy hcarried hcl ho hlast hsent
    simpa [found, Entry.did?, Action.found] using hnone

theorem modelless_entriesOf {limit : Nat} (hw : Handles g p r w) :
    Modelless limit w.log ↔ Modelless limit (entriesOf 0 w.log) := by
  constructor
  · rintro ⟨e, he, hd⟩
    refine ⟨e, mem_entriesOf.2 ⟨he, ?_⟩, hd⟩
    refine Decidable.byContradiction fun hi => ?_
    have hending := hw.kept_ending he hi
    obtain ⟨p, d | m, q⟩ := e
    · rename_i a answer
      cases a <;> first | exact hd | exact hending
    · exact hd
  · rintro ⟨e, he, hd⟩
    exact ⟨e, (mem_entriesOf.1 he).1, hd⟩

/-! ## Responses and failures -/

/-- A request that goes on as long as it has to ends with a response. -/
theorem exists_response (hw : Handles g p r w) :
    ∃ ms o, (w.play ms).courses[0]? = some (.done (some o)) := by
  obtain ⟨ms, a, hms⟩ := w.exists_play_done (List.getElem?_eq_getElem hw.lt_length.1)
  have hdone : (w.play ms).courses[0]? = some (.done a) := by
    rw [hms, List.getElem?_set_self hw.lt_length.1]
  obtain ⟨job, hjob, hruns⟩ := (hw.play ms).runs hdone
  obtain rfl : Job.request 0 r = job := Option.some.inj hjob
  obtain ⟨-, -, l₂, -, h₂, -⟩ := Work.runs_bind.1 (hruns [] a (.done a))
  obtain ⟨-, o, l₄, -, h₄, -⟩ := Work.runs_bind.1 h₂
  obtain ⟨-, rfl⟩ := Work.runs_pure.1 h₄
  exact ⟨ms, o, hdone⟩

theorem responses_eq (hw : Handles g p r w) (hc : w.courses[0]? = some (.done (some o))) :
    responses w.log = [o] := by
  have happend : ∀ l m : List Entry, responses (l ++ m) = responses l ++ responses m :=
    fun l m => List.filterMap_append
  have hnone : ∀ {l : List Entry} {N : Action → Prop}, (∀ e ∈ l, e.Kept N) →
      (∀ o, ¬ N (.sendResponse o)) → responses l = [] := fun hl hN =>
    filterMap_of_kept hl fun a _ ha => by cases a <;> first | rfl | exact absurd ha (hN _)
  rw [responses, hw.filterMap_entriesOf fun a _ ha => by cases a <;> first | rfl | exact ha.elim]
  have haccount := hw.account hc
  generalize entriesOf 0 w.log = log at haccount
  cases haccount with
  | unserved hbefore _ _ _ hsent =>
    exact (happend _ _).trans (by rw [hnone hbefore fun _ h => h, hsent]; rfl)
  | @served before work closing last d s result y hbefore _ _ _ hy _ hclosing _ _ hsent =>
    have hclosing := hclosing.kept (g.within_closing_conclude s d result)
    refine (happend _ _).trans ?_
    rw [happend, happend, hnone hbefore fun _ h => h, hsent, hnone hclosing fun _ h => h,
      hnone (kept_work hy) fun _ h => h.elim id id]
    rfl

end Handles

end FieldGateway
