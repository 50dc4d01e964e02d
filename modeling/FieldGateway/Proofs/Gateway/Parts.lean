import FieldGateway.Proofs.Crew.Runs
import FieldGateway.Proofs.Gateway.Ending

/-!
# The parts of a request

What a request does falls into parts: its device is looked up, a session is opened, the operation is
carried out, the session is concluded, and the response is sent. Each part has actions of its own.

* `Handled`, `Gateway.runs_handle`: the parts of a run.
* `Handles.runs`: what a course of the crew of a request did is a run of it, as far as it has come.
* `Handles.before`: whatever happened, the crew was one of the request before it.
* `Handles.held`: until the request ends its session or leaves it to a job, nobody else ends it.
-/

namespace FieldGateway

open Standing

variable {α : Type} {i : Nat} {log : List Entry}

/-! ## What is told of a request -/

namespace Action

/-- The device that a look-up finds. -/
def found : (a : Action) → a.Answer → Option Device
  | .findDevice _, .ok (some d) => some d
  | _, _ => none

/-- The model that a device tells. -/
def model? : (a : Action) → a.Answer → Option ServerModel
  | .retrieve _, .ok m => some m
  | _, _ => none

/-- The response that an action sends. -/
def response? : Action → Option Response
  | .sendResponse o => some o
  | _ => none

/-- Holds of an action that makes no association but one with the given listener. -/
def Attaches (listener : Listener) : Action → Prop
  | associate _ _ l => l = listener
  | _ => True

/-- Holds of what is done to open a session. -/
def IsOpening : Action → Prop
  | latency _ | associate _ _ _ | retrieve _ | release _ | count _ _ => True
  | _ => False

/-- Holds of what is done to open a session for a listener. -/
def Opens (listener : Listener) (a : Action) : Prop := a.IsOpening ∧ a.Attaches listener

/-- Holds of what is done to end a session. -/
def IsEnding : Action → Prop
  | isOpen _ | disable _ _ | retire _ | release _ | hangUp _ | sendEvents _ | settle _
  | count _ _ => True
  | _ => False

/-- Holds of what is done to end a session, when no report is to be switched off. -/
def IsLeaving : Action → Prop
  | retire _ | release _ | hangUp _ | sendEvents _ | settle _ | count _ _ => True
  | _ => False

theorem isEnding_of_isLeaving {a : Action} (h : a.IsLeaving) : a.IsEnding := by
  cases a <;> trivial

/-- Holds of what is done to end a session or to leave it to a job. -/
def IsClosing : Action → Prop
  | enable _ _ | start _ => True
  | a => a.IsEnding

/-- Holds of what ends a session, now or by a job. -/
def IsParting : Action → Prop
  | start _ | retire _ => True
  | _ => False

end Action

/-- The devices that were found. -/
def found (log : List Entry) : List Device := log.filterMap (Entry.did? Action.found)

/-- The models that devices told. -/
def models (log : List Entry) : List ServerModel := log.filterMap (Entry.did? Action.model?)

/-- The responses that were sent, be it in vain. -/
def responses (log : List Entry) : List Response :=
  log.filterMap (Entry.did? fun a _ => a.response?)

theorem Entry.did?_of_kept {β : Type} {N : Action → Prop} {f : (a : Action) → a.Answer → Option β}
    {e : Entry} (he : e.Kept N) (hf : ∀ a answer, N a → f a answer = none) : e.did? f = none := by
  obtain ⟨p, d | m, q⟩ := e
  · exact hf _ _ he
  · rfl

theorem filterMap_of_kept {β : Type} {N : Action → Prop} {f : (a : Action) → a.Answer → Option β}
    (h : ∀ e ∈ log, e.Kept N) (hf : ∀ a answer, N a → f a answer = none) :
    log.filterMap (Entry.did? f) = [] := by
  refine List.filterMap_eq_nil_iff.2 fun e he => ?_
  exact Entry.did?_of_kept (h e he) hf

theorem Entry.Kept.mono {N N' : Action → Prop} {e : Entry} (he : e.Kept N) (hN : ∀ a, N a → N' a) :
    e.Kept N' := by
  obtain ⟨p, d | m, q⟩ := e
  · exact hN _ he
  · trivial

/-! ## Opening -/

namespace Session

variable {s : Session}

/-- In time, or not. -/
theorem runs_within {limit : UInt64} {stage : Stage} {w : Work α} {x : Option α}
    (h : (within limit stage w).Runs i log x) :
    ∃ p n q part, log = ⟨p, .did i (.latency stage) n, q⟩ :: part ∧
      (Course.spell n ≤ limit.toNat ∧ (∃ a, w.Runs i part a ∧ x = some a) ∨
        limit.toNat < Course.spell n ∧ part = [] ∧ x = none) := by
  obtain ⟨l₁, n, l₂, h₁, h₂, rfl⟩ := Work.runs_bind.1 h
  obtain ⟨p, q, -, rfl⟩ := Work.runs_perform.1 h₁
  refine ⟨p, n, q, l₂, rfl, ?_⟩
  by_cases hn : Course.spell n ≤ limit.toNat
  · simp only [hn, if_true] at h₂
    obtain ⟨l₃, _, l₄, h₃, h₄, rfl⟩ := Work.runs_bind.1 h₂
    obtain ⟨l₅, a, l₆, h₅, h₆, rfl⟩ := Work.runs_bind.1 h₄
    obtain rfl := Work.runs_pause.1 h₃
    obtain ⟨rfl, rfl⟩ := Work.runs_pure.1 h₆
    exact .inl ⟨hn, a, by simpa using h₅, rfl⟩
  · simp only [hn, if_false] at h₂
    obtain ⟨l₃, _, l₄, h₃, h₄, rfl⟩ := Work.runs_bind.1 h₂
    obtain rfl := Work.runs_pause.1 h₃
    obtain ⟨rfl, rfl⟩ := Work.runs_pure.1 h₄
    exact .inr ⟨Nat.lt_of_not_le hn, rfl, rfl⟩

theorem runs_refuse {f : Failure} {r : Except Failure α}
    (h : (refuse f : Attempt α).run.Runs i log r) :
    r = .error f ∧ ∃ p q, log = [⟨p, .did i (.count .connectionFailures 1) (), q⟩] := by
  obtain ⟨l₁, _, l₂, h₁, h₂, rfl⟩ := Attempt.runs_liftThen.1 h
  obtain ⟨rfl, rfl⟩ := Attempt.runs_throw.1 h₂
  obtain ⟨p, q, -, rfl⟩ := Work.runs_perform.1 h₁
  exact ⟨rfl, p, q, rfl⟩

theorem runs_associate {identity : Identity} {a : Approach} {listener : Listener}
    {r : Except Failure Nat} (h : (associate identity a listener).run.Runs i log r) :
    models log = [] ∧ (∀ n, ¬ Modelless n log) ∧ (∀ e ∈ log, e.Kept Action.IsOpening) ∧
      match r with
      | .ok link => made log = [link]
      | .error _ => made log = [] := by
  obtain ⟨l₁, x, l₂, h₁, h₂, rfl⟩ := Attempt.runs_liftThen.1 h
  obtain ⟨p, n, q, part, rfl, hpart⟩ := runs_within h₁
  rcases hpart with ⟨-, answer, hanswer, rfl⟩ | ⟨-, rfl, rfl⟩
  · obtain ⟨p', q', -, rfl⟩ := Work.runs_perform.1 hanswer
    cases answer with
    | ok link =>
      obtain ⟨rfl, rfl⟩ := Attempt.runs_pure.1 h₂
      refine ⟨rfl, ?_, ?_, rfl⟩
      · simp [Modelless, Entry.Did, Action.Modelless]
      · simp [Entry.Kept, Action.IsOpening]
    | error f =>
      obtain ⟨rfl, p'', q'', rfl⟩ := runs_refuse h₂
      refine ⟨rfl, ?_, ?_, rfl⟩
      · simp [Modelless, Entry.Did, Action.Modelless]
      · simp [Entry.Kept, Action.IsOpening]
  · obtain ⟨rfl, p'', q'', rfl⟩ := runs_refuse h₂
    refine ⟨rfl, ?_, ?_, rfl⟩
    · simp [Modelless, Entry.Did, Action.Modelless]
    · simp [Entry.Kept, Action.IsOpening]

theorem runs_retrieve {link : Nat} {limit : UInt64} {r : Except Failure ServerModel}
    (h : (retrieve link limit).run.Runs i log r) :
    made log = [] ∧ (∀ e ∈ log, e.Kept Action.IsOpening) ∧ match r with
      | .ok m => models log = [m] ∧ ¬ Modelless limit.toNat log
      | .error _ => Modelless limit.toNat log := by
  obtain ⟨l₁, x, l₂, h₁, h₂, rfl⟩ := Attempt.runs_liftThen.1 h
  obtain ⟨p, n, q, part, rfl, hpart⟩ := runs_within h₁
  rcases hpart with ⟨hn, answer, hanswer, rfl⟩ | ⟨hn, rfl, rfl⟩
  · obtain ⟨p', q', -, rfl⟩ := Work.runs_perform.1 hanswer
    cases answer with
    | ok m =>
      obtain ⟨rfl, rfl⟩ := Attempt.runs_pure.1 h₂
      refine ⟨rfl, ?_, rfl, ?_⟩
      · simp [Entry.Kept, Action.IsOpening]
      · simpa [Modelless, Entry.Did, Action.Modelless] using hn
    | error f =>
      obtain ⟨l₃, _, l₄, h₃, h₄, rfl⟩ := Attempt.runs_liftThen.1 h₂
      obtain ⟨p₃, q₃, -, rfl⟩ := Work.runs_perform.1 h₃
      obtain ⟨rfl, p'', q'', rfl⟩ := runs_refuse h₄
      refine ⟨rfl, ?_, _, List.mem_cons_of_mem _ List.mem_cons_self, trivial⟩
      simp [Entry.Kept, Action.IsOpening]
  · obtain ⟨l₃, _, l₄, h₃, h₄, rfl⟩ := Attempt.runs_liftThen.1 h₂
    obtain ⟨p₃, q₃, -, rfl⟩ := Work.runs_perform.1 h₃
    obtain ⟨rfl, p'', q'', rfl⟩ := runs_refuse h₄
    refine ⟨rfl, ?_, _, List.mem_cons_self, hn⟩
    simp [Entry.Kept, Action.IsOpening]

/-- A session that was opened over a link that was made for it, with the model that it was to have
or that the device told. -/
structure Opened (identity : Identity) (a : Approach) (listener : Listener) (log : List Entry)
    (s : Session) : Prop where
  identity : s.identity = identity
  made : made log = [s.link]
  listener : ∀ e ∈ log, e.Kept (Action.Attaches listener)
  model : a.template = some s.model ∧ models log = [] ∨
    a.template = none ∧ models log = [s.model]
  inTime : ¬ Modelless a.limit.toNat log

theorem made_append (l m : List Entry) :
    FieldGateway.made (l ++ m) = FieldGateway.made l ++ FieldGateway.made m :=
  List.filterMap_append

theorem modelless_append {limit : Nat} {l m : List Entry} :
    Modelless limit (l ++ m) ↔ Modelless limit l ∨ Modelless limit m := by
  simp [Modelless, or_and_right, exists_or]

theorem models_append (l m : List Entry) : models (l ++ m) = models l ++ models m :=
  List.filterMap_append

theorem within_opens_refuse {listener : Listener} (f : Failure) :
    Course.Within (Action.Opens listener) (refuse f : Attempt α).run :=
  Attempt.within_bind (Attempt.within_lift (Course.within_query ⟨trivial, trivial⟩))
    fun _ => Attempt.within_throw f

theorem within_opens_within {listener : Listener} {limit : UInt64} {stage : Stage} {w : Work α}
    (hw : w.Within (Action.Opens listener)) :
    (within limit stage w).Within (Action.Opens listener) := by
  refine Course.Within.bind (Course.within_query ⟨trivial, trivial⟩) fun n => ?_
  split
  · exact (Course.within_pause _).bind fun _ => hw.bind fun _ => Course.within_pure _
  · exact (Course.within_pause _).bind fun _ => Course.within_pure _

theorem within_opens_retrieve {listener : Listener} (link : Nat) (limit : UInt64) :
    Course.Within (Action.Opens listener) (retrieve link limit).run := by
  refine Attempt.within_bind (Attempt.within_lift (within_opens_within
    (Course.within_query ⟨trivial, trivial⟩))) fun x => ?_
  have fails : ∀ f : Failure, Course.Within (Action.Opens listener)
      (do (Action.release link).perform; refuse f : Attempt ServerModel).run := fun f =>
    Attempt.within_bind (Attempt.within_lift (Course.within_query ⟨trivial, trivial⟩))
      fun _ => within_opens_refuse f
  split
  · exact Attempt.within_pure _
  · exact fails _
  · exact fails _

theorem within_opens_associate (identity : Identity) (a : Approach) (listener : Listener) :
    Course.Within (Action.Opens listener) (associate identity a listener).run := by
  refine Attempt.within_bind (Attempt.within_lift (within_opens_within
    (Course.within_query ⟨trivial, rfl⟩))) fun x => ?_
  split
  · exact Attempt.within_pure _
  · exact within_opens_refuse _
  · exact within_opens_refuse _

theorem within_opens_connect (identity : Identity) (a : Approach) (listener : Listener) :
    Course.Within (Action.Opens listener) (connect identity a listener).run := by
  have counts : ∀ m link, Course.Within (Action.Opens listener)
      (do Paced.count (m := Work) .sessionsOpened; return ⟨identity, m, link⟩ :
        Attempt Session).run := fun m link =>
    Attempt.within_bind (Attempt.within_lift (Course.within_query ⟨trivial, trivial⟩))
      fun _ => Attempt.within_pure _
  refine Attempt.within_bind (within_opens_associate identity a listener) fun link => ?_
  dsimp only
  split
  · exact counts _ link
  · exact Attempt.within_bind (within_opens_retrieve link a.limit) fun m => counts m link

theorem runs_connect {identity : Identity} {a : Approach} {listener : Listener}
    {r : Except Failure Session} (h : (connect identity a listener).run.Runs i log r) :
    (∀ e ∈ log, e.Kept Action.IsOpening) ∧ match r with
      | .ok s => Opened identity a listener log s
      | .error _ => FieldGateway.made log = [] ∨ Modelless a.limit.toNat log := by
  have hattaches : ∀ e ∈ log, e.Kept (Action.Attaches listener) := fun e he =>
    (h.kept (within_opens_connect identity a listener) e he).mono fun _ ha => ha.2
  have counts : ∀ {m : ServerModel} {link : Nat} {l : List Entry} {r : Except Failure Session},
      (do Paced.count (m := Work) .sessionsOpened; return ⟨identity, m, link⟩ :
        Attempt Session).run.Runs i l r →
      r = .ok ⟨identity, m, link⟩ ∧ ∃ p q, l = [⟨p, .did i (.count .sessionsOpened 1) (), q⟩] := by
    intro m link l r h
    obtain ⟨l₁, _, l₂, h₁, h₂, rfl⟩ := Attempt.runs_liftThen.1 h
    obtain ⟨rfl, rfl⟩ := Attempt.runs_pure.1 h₂
    obtain ⟨p, q, -, rfl⟩ := Work.runs_perform.1 h₁
    exact ⟨rfl, p, q, rfl⟩
  rcases Attempt.runs_bind.1 h with ⟨l₁, link, l₂, h₁, h₂, rfl⟩ | ⟨e, h₁, rfl⟩
  · obtain ⟨hmodels, htime, hkept, hmade⟩ := runs_associate h₁
    have hcount : ∀ (n : Nat) (p q : Plant),
        ¬ Modelless n [⟨p, .did i (.count .sessionsOpened 1) (), q⟩] := by
      simp [Modelless, Entry.Did, Action.Modelless]
    dsimp only at hmade h₂
    split at h₂
    · next m htemplate =>
      obtain ⟨rfl, p, q, rfl⟩ := counts h₂
      refine ⟨?_, rfl, ?_, hattaches, .inl ⟨htemplate, ?_⟩, ?_⟩
      · simpa [Entry.Kept, Action.IsOpening, or_imp, forall_and] using hkept
      · rw [made_append, hmade]
        rfl
      · rw [models_append, hmodels]
        rfl
      · exact fun h => (modelless_append.1 h).elim (htime _) (hcount _ p q)
    · next htemplate =>
      rcases Attempt.runs_bind.1 h₂ with ⟨l₃, m, l₄, h₃, h₄, rfl⟩ | ⟨e, h₃, rfl⟩
      · obtain ⟨hnone, hkept', hm, htime'⟩ := runs_retrieve h₃
        obtain ⟨rfl, p, q, rfl⟩ := counts h₄
        refine ⟨?_, rfl, ?_, hattaches, .inr ⟨htemplate, ?_⟩, ?_⟩
        · simp only [List.forall_mem_append]
          exact ⟨hkept, hkept', by simp [Entry.Kept, Action.IsOpening]⟩
        · rw [made_append, made_append, hmade, hnone]
          rfl
        · rw [models_append, models_append, hmodels, hm]
          rfl
        · rw [modelless_append, modelless_append]
          exact fun h => h.elim (htime _) fun h => h.elim htime' (hcount _ p q)
      · obtain ⟨hnone, hkept', e', he', hlate⟩ := runs_retrieve h₃
        exact ⟨List.forall_mem_append.2 ⟨hkept, hkept'⟩,
          .inr ⟨e', List.mem_append_right _ he', hlate⟩⟩
  · obtain ⟨-, -, hkept, hmade⟩ := runs_associate h₁
    exact ⟨hkept, .inl hmade⟩

/-! ## Closing -/

/-- The session is looked at once, and nothing more is done if it was ended. -/
theorem runs_ensureOpen {x : Except Failure Unit} (h : s.ensureOpen.run.Runs i log x) :
    ∃ p isOpen q, p.Answers (.isOpen s.link) isOpen q ∧
      log = [⟨p, .did i (.isOpen s.link) isOpen, q⟩] ∧
      x = if isOpen then .ok () else .error (.connection (.sessionClosed s.deviceId)) := by
  obtain ⟨l₁, isOpen, l₂, h₁, h₂, rfl⟩ := Attempt.runs_liftThen.1 h
  obtain ⟨p, q, hopen, rfl⟩ := Work.runs_perform.1 h₁
  refine ⟨p, isOpen, q, hopen, ?_⟩
  cases isOpen with
  | true =>
    obtain ⟨rfl, rfl⟩ := Attempt.runs_pure.1 h₂
    exact ⟨rfl, rfl⟩
  | false =>
    obtain ⟨rfl, rfl⟩ := Attempt.runs_throw.1 h₂
    exact ⟨rfl, rfl⟩

theorem within_ensureOpen_of {N : Action → Prop} (h : N (.isOpen s.link)) :
    Course.Within N s.ensureOpen.run := by
  refine Attempt.within_bind (Attempt.within_lift (Course.within_query h)) fun answer => ?_
  split
  · exact Attempt.within_pure ()
  · exact Attempt.within_throw _

theorem within_leaving_disconnect : s.disconnect.Within Action.IsLeaving := by
  refine Course.Within.bind (Course.within_query trivial) fun retired => ?_
  split
  · refine Course.Within.bind (Course.within_query trivial) fun _ => ?_
    refine Course.Within.bind (Course.within_query trivial) fun batch => ?_
    cases batch with
    | none => exact Course.within_pure _
    | some b =>
      refine Course.Within.bind ?_ fun _ => Course.within_query trivial
      unfold sendEvents
      split
      · exact Course.within_pure _
      · refine Course.Within.bind (Course.within_query trivial) fun refused => ?_
        cases refused <;> exact Course.within_query trivial
  · exact Course.within_pure _

theorem within_ending_disconnect : s.disconnect.Within Action.IsEnding :=
  within_leaving_disconnect.mono fun _ => Action.isEnding_of_isLeaving

/-- The session is ended, and before that a report is switched off if it is to be. -/
theorem within_disconnectLater_of {N : Action → Prop} (delay : Nat) {report : Option String}
    (hleaving : ∀ a, a.IsLeaving → N a) (hopen : N (.isOpen s.link))
    (hdisable : ∀ reference, report = some reference → N (.disable s.link reference)) :
    (s.disconnectLater delay report).Within N := by
  have hdisconnect : s.disconnect.Within N := within_leaving_disconnect.mono hleaving
  refine Course.Within.bind (Course.within_pause _) fun _ => ?_
  cases report with
  | none => exact hdisconnect
  | some reference =>
    refine Course.Within.bind ?_ fun _ => hdisconnect
    refine Course.Within.bind (Course.within_query hopen) fun isOpen => ?_
    split
    · refine Course.Within.bind ?_ fun _ => Course.within_pure _
      exact Attempt.within_bind (within_ensureOpen_of hopen) fun _ =>
        Attempt.within_ofFault (Course.within_query (hdisable reference rfl))
    · exact Course.within_pure _

theorem within_ending_disconnectLater (delay : Nat) (report : Option String) :
    (s.disconnectLater delay report).Within Action.IsEnding :=
  within_disconnectLater_of delay (fun _ => Action.isEnding_of_isLeaving) trivial
    fun _ _ => trivial

theorem within_closing_enableWanted (s : Session) (d : Device) :
    (s.enableWanted d).Within Action.IsClosing := by
  have one : ∀ (e : Enabling) (reference : String),
      (s.enableInto e reference).Within Action.IsClosing := by
    intro e reference
    refine Course.Within.bind (Attempt.within_bind (within_ensureOpen_of trivial) fun _ => ?_)
      fun r => by cases r <;> exact Course.within_pure _
    split
    · exact Attempt.within_throw _
    · exact Attempt.within_ofFault (Course.within_query trivial)
  suffices h : ∀ (l : List String) (e : Enabling),
      (l.foldlM s.enableInto e).Within Action.IsClosing from h _ _
  intro l
  induction l with
  | nil => exact fun e => Course.within_pure e
  | cons reference l ih =>
    intro e
    rw [List.foldlM_cons]
    exact (one e reference).bind ih

end Session

theorem Action.isClosing_of_isEnding {a : Action} (h : a.IsEnding) : a.IsClosing := by
  cases a <;> trivial

namespace Gateway

variable (g : Gateway) (s : Session) (d : Device)

theorem within_closing_finish : (g.finish s d).Within Action.IsClosing := by
  unfold finish
  split
  · refine (s.within_closing_enableWanted d).bind fun _ => ?_
    exact Course.Within.bind (Course.within_query trivial) fun _ => Course.within_pure _
  · exact Session.within_ending_disconnect.mono fun _ => Action.isClosing_of_isEnding

theorem within_closing_conclude (r : Except Failure (Payload × Ending)) :
    Course.Within Action.IsClosing (g.conclude s d r).run := by
  rcases r with e | ⟨payload, ending⟩
  · refine Attempt.within_bind (Attempt.within_lift ?_) fun _ => Attempt.within_throw e
    exact Session.within_ending_disconnect.mono fun _ => Action.isClosing_of_isEnding
  · cases ending with
    | scheduled => exact Attempt.within_pure payload
    | «open» =>
      exact Attempt.within_bind (Attempt.within_lift (g.within_closing_finish s d))
        fun _ => Attempt.within_pure payload

/-- Only the session of a terminal unit goes on by itself. -/
theorem within_ending_conclude (hd : d.family.isRtu = false)
    (r : Except Failure (Payload × Ending)) :
    Course.Within Action.IsEnding (g.conclude s d r).run := by
  rcases r with e | ⟨payload, ending⟩
  · exact Attempt.within_bind (Attempt.within_lift Session.within_ending_disconnect)
      fun _ => Attempt.within_throw e
  · cases ending with
    | scheduled => exact Attempt.within_pure payload
    | «open» =>
      refine Attempt.within_bind (Attempt.within_lift ?_) fun _ => Attempt.within_pure payload
      simp only [finish, hd, Bool.false_and, Bool.false_eq_true, if_false]
      exact Session.within_ending_disconnect

/-! ## The parts of a run -/

variable {g s d} {r : Request}

theorem isSuccess_outcome_error (e : Failure) :
    (outcome (.error e)).isSuccess = false := by
  simp only [outcome]
  split <;> rfl

theorem runs_findDevice {id : String} {x : Except Failure Device}
    (h : (findDevice id).run.Runs i log x) :
    ∃ p q answer, log = [⟨p, .did i (.findDevice id) answer, q⟩] ∧ match x with
      | .ok d => answer = .ok (some d)
      | .error e => e.isFatal = false ∧ ∀ d, answer ≠ .ok (some d) := by
  obtain ⟨l₁, answer, l₂, h₁, h₂, rfl⟩ := Attempt.runs_liftThen.1 h
  obtain ⟨p, q, -, rfl⟩ := Work.runs_perform.1 h₁
  refine ⟨p, q, answer, ?_⟩
  rcases answer with f | _ | d
  · obtain ⟨rfl, rfl⟩ := Attempt.runs_throw.1 h₂
    exact ⟨rfl, rfl, by simp⟩
  · obtain ⟨rfl, rfl⟩ := Attempt.runs_throw.1 h₂
    exact ⟨rfl, rfl, by simp⟩
  · obtain ⟨rfl, rfl⟩ := Attempt.runs_pure.1 h₂
    exact ⟨rfl, rfl⟩

/-- The parts of a run that carries out a request. -/
inductive Handled (g : Gateway) (r : Request) (i : Nat) : List Entry → Except Failure Payload → Prop
  | unknown {finding : List Entry} {e : Failure}
      (hf : (findDevice r.deviceId).run.Runs i finding (.error e)) :
      Handled g r i finding (.error e)
  | unreached {finding opening : List Entry} {d : Device} {e : Failure}
      (hf : (findDevice r.deviceId).run.Runs i finding (.ok d))
      (ho : (Session.connect d.identity (g.approach d.family) (g.listenerFor d)).run.Runs i opening
        (.error e)) :
      Handled g r i (finding ++ opening) (.error e)
  | served {finding opening work closing : List Entry} {d : Device} {s : Session}
      {result : Except Failure (Payload × Ending)} {x : Except Failure Payload}
      (hf : (findDevice r.deviceId).run.Runs i finding (.ok d))
      (ho : (Session.connect d.identity (g.approach d.family) (g.listenerFor d)).run.Runs i opening
        (.ok s))
      (hw : (g.carryOut s d r.operation).run.Runs i work result)
      (hc : (g.conclude s d result).run.Runs i closing x) :
      Handled g r i (finding ++ (opening ++ (work ++ closing))) x

theorem runs_run {x : Except Failure Payload} (h : (g.run r).run.Runs i log x) :
    Handled g r i log x := by
  rcases Attempt.runs_bind.1 h with ⟨finding, d, l₁, hf, h₁, rfl⟩ | ⟨e, hf, rfl⟩
  · rcases Attempt.runs_bind.1 h₁ with ⟨opening, s, l₂, ho, h₂, rfl⟩ | ⟨e, ho, rfl⟩
    · rcases Attempt.runs_bind.1 h₂ with ⟨work, result, closing, hw, hc, rfl⟩ | ⟨e, hw, -⟩
      · obtain ⟨result', hw, hr⟩ := Attempt.runs_result.1 hw
        obtain rfl := Except.ok.inj hr
        exact .served hf ho hw hc
      · obtain ⟨result', -, hr⟩ := Attempt.runs_result.1 hw
        cases hr
    · exact .unreached hf ho
  · exact .unknown hf

/-- The response tells how carrying out the request ended; it is sent once. -/
theorem runs_handle {o : Response} (h : (g.handle r).Runs i log o) :
    ∃ l₁ x l₂ p refused q, Handled g r i l₁ x ∧ o = r.respond (outcome x) ∧
      log = l₁ ++ ⟨p, .did i (.sendResponse o) refused, q⟩ :: l₂ ∧
      ∀ e ∈ l₂, e.Kept fun a => a = .count .responsesSent 1 := by
  obtain ⟨l₁, x, l₂, h₁, h₂, rfl⟩ := Work.runs_bind.1 h
  obtain ⟨l₃, _, l₄, h₃, h₄, rfl⟩ := Work.runs_bind.1 h₂
  obtain ⟨rfl, rfl⟩ := Work.runs_pure.1 h₄
  obtain ⟨l₅, refused, l₆, h₅, h₆, rfl⟩ := Work.runs_bind.1 h₃
  obtain ⟨p, q, -, rfl⟩ := Work.runs_perform.1 h₅
  refine ⟨l₁, x, l₆, p, refused, q, runs_run h₁, rfl, by simp, ?_⟩
  cases refused with
  | none =>
    obtain ⟨p, q, -, rfl⟩ := Work.runs_perform.1 h₆
    simp [Entry.Kept]
  | some reason =>
    obtain ⟨rfl, -⟩ := Work.runs_pure.1 h₆
    simp

end Gateway

/-! ## Crews -/

namespace Standing

/-- A session that neither was ended nor was left to a job. -/
def IsHeld : Standing → Prop
  | scheduled _ _ _ | due _ | parting _ _ _ => False
  | _ => True

theorem Step.held {limit : Nat} {x y : Standing} {a : Action} {answer : a.Answer}
    (h : Step limit x a answer y) (hx : x.IsHeld) (ha : ¬ a.IsParting) : y.IsHeld := by
  cases h with
  | quiet | unenabled => exact hx
  | schedule => exact absurd trivial ha
  | part | partByJob => exact absurd trivial ha
  | _ => first | exact hx.elim | trivial

theorem not_held_of_byJob {link : Nat} {x : Standing} (h : x.ByJob link) : ¬ x.IsHeld := by
  cases x <;> first | exact h.elim | exact id

theorem IsHeld.isOver {x : Standing} (h : x.IsHeld) : x.isOver = false := by
  cases x <;> first | rfl | exact h.elim

/-- No more than one job is started, to end the session. -/
theorem started_singleton {x : Standing} {jobs : List Job} (h : x.Started jobs) (hne : jobs ≠ []) :
    ∃ s delay clear, jobs = [.disconnect s delay clear] := by
  cases x with
  | scheduled s delay clear => exact ⟨s, delay, clear, h⟩
  | due l =>
    obtain ⟨s, delay, clear, hj, -⟩ := h
    exact ⟨s, delay, clear, hj⟩
  | parting byJob l part =>
    cases byJob with
    | true =>
      obtain ⟨s, delay, clear, hj, -⟩ := h
      exact ⟨s, delay, clear, hj⟩
    | false => exact absurd h hne
  | _ => exact absurd h hne

end Standing

/-- What the request of a crew was answered with. -/
def Crew.answer? (w : Crew (Option Response)) : Option Response :=
  match (w.courses[0]? : Option (Work (Option Response))) with
  | some (.done o) => o
  | _ => none

theorem Crew.done_of_answer? {w : Crew (Option Response)} {o : Response}
    (h : w.answer? = some o) : w.courses[0]? = some (.done (some o)) := by
  unfold Crew.answer? at h
  split at h
  · next o' hc => rw [hc, h]
  · cases h

theorem Placed.byJob_of_ne_zero {limit i : Nat} {cs : List (Work (Option Response))}
    {x : Standing} {k : Work (Option Response)} (h : Placed limit cs x) (hc : cs[i]? = some k)
    (hi : i ≠ 0) : ∃ link, x.ByJob link := by
  cases h with
  | alone _ _ =>
    obtain ⟨j, rfl⟩ := Nat.exists_eq_succ_of_ne_zero hi
    cases hc
  | withJob _ _ hx => exact ⟨_, hx⟩

theorem Work.exists_runs (i : Nat) (c : Work α) : ∃ log r, c.Runs i log r := by
  induction c with
  | done r => exact ⟨[], r, .done r⟩
  | ask q next ih =>
    obtain ⟨log, r, h⟩ := ih ((default : Plant).perform q).1
    exact ⟨_, r, .ask (Plant.answers_perform q) h⟩
  | wait ms next ih =>
    obtain ⟨log, r, h⟩ := ih
    exact ⟨log, r, .wait h⟩

theorem Plant.Answers.jobs_prefix {p q : Plant} {a : Action} {answer : a.Answer}
    (h : p.Answers a answer q) : p.jobs <+: q.jobs := by
  rw [h.jobs]
  exact List.prefix_append _ _

theorem Crew.Step.jobs_prefix {w w' : Crew α} (hs : w.Step w') :
    w.plant.jobs <+: w'.plant.jobs := by
  cases hs with
  | act _ ha => exact ha.jobs_prefix
  | goOn _ => exact List.prefix_rfl
  | meet e => exact ⟨[], (List.append_nil _).trans (Plant.jobs_meet e).symm⟩

theorem Crew.Step.length_courses {w w' : Crew α} (hs : w.Step w') :
    w'.courses.length = w.courses.length := by
  cases hs with
  | act _ _ => exact List.length_set
  | goOn _ => exact List.length_set
  | meet _ => rfl

namespace Handles

variable {g : Gateway} {p : Plant} {r : Request} {w : Crew (Option Response)}

/-- What each course of the crew is to do. -/
def assigned (p : Plant) (r : Request) (w : Crew (Option Response)) : List Job :=
  .request 0 r :: w.plant.jobs.drop p.jobs.length

theorem assigned_of_prefix {w' : Crew (Option Response)} {job : Job} {i : Nat}
    (h : w.plant.jobs <+: w'.plant.jobs) (hj : (assigned p r w)[i]? = some job) :
    (assigned p r w')[i]? = some job := by
  obtain ⟨more, hmore⟩ := h
  cases i with
  | zero => exact hj
  | succ i =>
    simp only [assigned, List.getElem?_cons_succ, List.getElem?_drop] at hj ⊢
    have hlt := (List.getElem?_eq_some_iff.1 hj).1
    rw [← hmore, List.getElem?_append_left hlt]
    exact hj

/-- A course that has begun has work left, and only such courses have done anything. -/
theorem lt_length (hw : Handles g p r w) :
    0 < w.courses.length ∧ ∀ e ∈ w.log, ∀ i, e.course? = some i → i < w.courses.length := by
  induction hw with
  | start => simp
  | step _ hs ih =>
    refine ⟨by rw [hs.length_courses]; exact ih.1, ?_⟩
    rw [hs.length_courses]
    cases hs with
    | @act j a next answer q hc ha =>
      intro e he i hi
      rcases List.mem_append.1 he with he | he
      · exact ih.2 e he i hi
      · obtain rfl := List.mem_singleton.1 he
        obtain rfl := Option.some.inj hi
        exact (List.getElem?_eq_some_iff.1 hc).1
    | goOn _ => exact ih.2
    | meet m =>
      intro e he i hi
      rcases List.mem_append.1 he with he | he
      · exact ih.2 e he i hi
      · obtain rfl := List.mem_singleton.1 he
        cases hi
  | takeUp _ _ ih =>
    have hlength : ∀ (w : Crew (Option Response)) (c : Work (Option Response)),
        (w.join c).courses.length = w.courses.length + 1 := fun w c => List.length_append
    rw [hlength]
    exact ⟨Nat.succ_pos _, fun e he i hi => Nat.lt_succ_of_lt (ih.2 e he i hi)⟩

/-- What a course of the crew did and what is left of it are a run of what it was to do. -/
theorem runs (hw : Handles g p r w) {i : Nat} {k : Work (Option Response)}
    (hk : w.courses[i]? = some k) :
    ∃ job, (assigned p r w)[i]? = some job ∧
      ∀ log o, k.Runs i log o → (g.jobWork job).Runs i (entriesOf i w.log ++ log) o := by
  induction hw generalizing k with
  | start =>
    obtain ⟨rfl, rfl⟩ : i = 0 ∧ k = g.jobWork (.request 0 r) := by
      cases i with
      | zero => exact ⟨rfl, (Option.some.inj hk).symm⟩
      | succ i => cases hk
    exact ⟨_, rfl, fun log o h => h⟩
  | step _ hs ih =>
    obtain ⟨k', part, hk', hpart, hruns⟩ := hs.runs hk
    obtain ⟨job, hjob, h⟩ := ih hk'
    refine ⟨job, assigned_of_prefix hs.jobs_prefix hjob, fun log o hlog => ?_⟩
    rw [hpart, List.append_assoc]
    exact h _ _ (hruns _ _ hlog)
  | @takeUp w job hw hj ih =>
    obtain ⟨hpos, hlt⟩ := hw.lt_length
    rcases Nat.lt_or_ge i w.courses.length with hi | hi
    · exact ih (by rwa [Crew.join, List.getElem?_append_left hi] at hk)
    · -- The course is the one that was just taken up, and has done nothing yet.
      rw [Crew.join, List.getElem?_append_right hi] at hk
      obtain ⟨rfl, rfl⟩ : i = w.courses.length ∧ k = g.jobWork job := by
        cases hsub : i - w.courses.length with
        | zero =>
          rw [hsub] at hk
          exact ⟨by omega, (Option.some.inj hk).symm⟩
        | succ n =>
          rw [hsub] at hk
          cases hk
      have hnone : entriesOf w.courses.length w.log = [] := by
        refine List.filter_eq_nil_iff.2 fun e he hi => ?_
        exact Nat.lt_irrefl _ (hlt e he _ (by simpa using hi))
      refine ⟨job, ?_, fun log o h => ?_⟩
      · obtain ⟨n, hn⟩ : ∃ n, w.courses.length = n + 1 := ⟨_, (Nat.succ_pred_eq_of_pos hpos).symm⟩
        rw [hn] at hj ⊢
        simpa [assigned, Crew.join, List.getElem?_drop] using hj
      · show (g.jobWork job).Runs _ (entriesOf _ w.log ++ log) o
        rwa [hnone]

/-- Whatever happened, the crew was one of the request before it. -/
theorem before (hw : Handles g p r w) {early late : List Entry} {e : Entry}
    (hlog : w.log = early ++ e :: late) :
    ∃ w₁, Handles g p r w₁ ∧ w₁.log = early ∧ w₁.plant = e.before ∧
      ∀ i a answer, e.event = .did i a answer →
        e.before.Answers a answer e.after ∧ ∃ next, w₁.courses[i]? = some (.ask a next) := by
  induction hw generalizing late with
  | start => simp at hlog
  | @step w w' hw hs ih =>
    cases hs with
    | @act i a next answer q hc ha =>
      rcases snoc_eq hlog with ⟨rfl, rfl, -⟩ | ⟨late', -, hl⟩
      · refine ⟨w, hw, rfl, rfl, fun j b answer' he => ?_⟩
        cases he
        exact ⟨ha, next, hc⟩
      · exact ih hl
    | goOn _ => exact ih hlog
    | meet m =>
      rcases snoc_eq hlog with ⟨rfl, rfl, -⟩ | ⟨late', -, hl⟩
      · refine ⟨w, hw, rfl, rfl, fun j b answer' he => ?_⟩
        cases he
      · exact ih hl
  | takeUp _ _ ih => exact ih hlog

/-- Until the request ends its session or leaves it to a job, the session is the request's. -/
theorem held (hw : Handles g p r w)
    (hn : ∀ e ∈ entriesOf 0 w.log, e.Kept fun a => ¬ a.IsParting) :
    ∃ x, Tale g.connectTimeout.toNat p w.log w.plant x ∧
      Placed g.connectTimeout.toNat w.courses x ∧ x.IsHeld := by
  induction hw with
  | start => exact ⟨unopened, .start, g.placed_request r, trivial⟩
  | @step w w' _ hs ih =>
    cases hs with
    | @act i a next answer q hc ha =>
      rw [entriesOf_append] at hn
      obtain ⟨x, ht, hp, hx⟩ := ih fun e he => hn e (List.mem_append_left _ he)
      obtain ⟨y, hy, hp'⟩ := hp.act hc (ht.admits ha)
      refine ⟨y, ht.act ha hy, hp', ?_⟩
      by_cases hi : i = 0
      · subst hi
        have hlast : ⟨w.plant, .did 0 a answer, q⟩ ∈
            entriesOf 0 [(⟨w.plant, .did 0 a answer, q⟩ : Entry)] :=
          mem_entriesOf.2 ⟨List.mem_singleton.2 rfl, rfl⟩
        have ha' : ¬ a.IsParting := hn _ (List.mem_append_right _ hlast)
        exact hy.held hx ha'
      · obtain ⟨link, hb⟩ := hp.byJob_of_ne_zero hc hi
        exact absurd hx (not_held_of_byJob hb)
    | goOn hc =>
      obtain ⟨x, ht, hp, hx⟩ := ih hn
      exact ⟨x, ht, hp.goOn hc, hx⟩
    | meet e =>
      rw [entriesOf_append] at hn
      obtain ⟨x, ht, hp, hx⟩ := ih fun e he => hn e (List.mem_append_left _ he)
      exact ⟨x, ht.meet e, hp, hx⟩
  | takeUp _ hj ih =>
    obtain ⟨x, ht, hp, hx⟩ := ih hn
    obtain ⟨js, hq, hstarted⟩ := ht.jobs
    rw [hq, List.getElem?_append_right (by omega), Nat.add_sub_cancel_left] at hj
    obtain ⟨s, delay, clear, rfl, -⟩ := hp.takeUp hstarted hj
    exact hx.elim

/-- Every job that was started ends a session. -/
theorem assigned_succ (hw : Handles g p r w) {i : Nat} {job : Job}
    (hj : (assigned p r w)[i + 1]? = some job) :
    ∃ s delay clear, job = .disconnect s delay clear := by
  obtain ⟨x, ht, -⟩ := hw.tale
  obtain ⟨js, hjobs, hstarted⟩ := ht.jobs
  simp only [assigned, hjobs, List.drop_left, List.getElem?_cons_succ] at hj
  have hmem := List.mem_of_getElem? hj
  obtain ⟨s, delay, clear, rfl⟩ := started_singleton hstarted (List.ne_nil_of_mem hmem)
  exact ⟨s, delay, clear, List.mem_singleton.1 hmem⟩

/-- What courses other than the request did belongs to the end of a session. -/
theorem kept_ending (hw : Handles g p r w) {e : Entry} (he : e ∈ w.log)
    (hi : e.course? ≠ some 0) : e.Kept Action.IsEnding := by
  cases hcourse : e.course? with
  | none =>
    obtain ⟨q, d | m, q'⟩ := e
    · cases hcourse
    · trivial
  | some i =>
    obtain ⟨j, rfl⟩ : ∃ j, i = j + 1 := by
      cases i with
      | zero => exact absurd hcourse hi
      | succ j => exact ⟨j, rfl⟩
    have hlt := hw.lt_length.2 e he _ hcourse
    obtain ⟨job, hjob, hruns⟩ := hw.runs (List.getElem?_eq_getElem hlt)
    obtain ⟨s, delay, clear, rfl⟩ := hw.assigned_succ hjob
    obtain ⟨log, o, hlog⟩ := Work.exists_runs (j + 1) w.courses[j + 1]
    have hwithin : (g.jobWork (.disconnect s delay clear)).Within Action.IsEnding :=
      Course.Within.bind (Session.within_ending_disconnectLater _ _) fun _ => Course.within_pure _
    exact (hruns _ _ hlog).kept hwithin e
      (List.mem_append_left _ (mem_entriesOf.2 ⟨he, hcourse⟩))

end Handles

end FieldGateway
