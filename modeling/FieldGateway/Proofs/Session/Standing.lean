import FieldGateway.Proofs.Collector.Drain

/-!
# How a session stands

A session goes through stages: an association is made, the model is fetched or the association is
given up again, reports are enabled, and the session is ended, now or by a job that is started for
that. Which action leads from which stage to which is said once, by `Standing.Step`; what concerns
neither associations nor reports leaves every stage alone.

* `lifecycle`: the stages as a protocol.
* `Session.lifecycle_connect`, `Session.lifecycle_enable`, `Session.lifecycle_disconnect`,
  `Session.lifecycle_disconnectLater`: what is done with sessions keeps to it.
-/

namespace FieldGateway

/-- How far the end of a session has come. -/
inductive Parting where
  /-- The session is over. -/
  | retired
  /-- The association was given up. -/
  | released
  /-- The listener was told; what it has given up is still to be dealt with. -/
  | told (held : Option Held)

/-- How a session stands. -/
inductive Standing where
  /-- There is no association. -/
  | unopened
  /-- There is an association. -/
  | linked (link : Nat)
  /-- The device has not told its model. -/
  | lost (link : Nat)
  /-- It has not, and the association was given up. -/
  | abandoned (link : Nat)
  /-- There is a session. -/
  | opened (link : Nat)
  /-- A report that the listener takes at any time was enabled. -/
  | reporting (link : Nat)
  /-- The listener was told to take reports. -/
  | listening (link : Nat)
  /-- The report was enabled, and the first new one has a number. -/
  | enabled (link : Nat) (sequence : UInt32)
  /-- The listener was told the number. -/
  | bounded (link : Nat) (sequence : UInt32)
  /-- A job was started that will end the session. -/
  | scheduled (session : Session) (delay : Nat) (clear : Option String)
  /-- The job is at work. -/
  | due (link : Nat)
  /-- The session is being ended, by a job or at once. -/
  | parting (byJob : Bool) (link : Nat) (part : Parting)

namespace Action

/-- Holds of what concerns neither associations nor reports. -/
def isQuiet : Action → Prop
  | findDevice _ | listDevices | read _ _ _ | write _ _ | isOpen _ | sendResponse _ | now | freshId
  | counts => True
  | latency stage => stage ≠ .retrieving
  | count c _ => c ≠ .sessionsOpened
  | _ => False

end Action

/-- A listener as it is when an association is made. -/
def Listener.IsFresh : Listener → Prop
  | events c => c.phase = .idle ∧ c.buffer = [] ∧ c.boundary = none
  | _ => True

namespace Standing

/-- Whether a job can be started that will end the session over a link. -/
def CanWait (link : Nat) : Standing → Prop
  | opened l | reporting l | bounded l _ => l = link
  | _ => False

/-- Whether a session can be ended at once. -/
def CanPart (link : Nat) : Standing → Prop
  | opened l | listening l => l = link
  | _ => False

theorem CanWait.cases {link : Nat} {x : Standing} (h : x.CanWait link) :
    x = opened link ∨ x = reporting link ∨ ∃ n, x = bounded link n := by
  cases x with
  | opened l => exact .inl (congrArg opened h)
  | reporting l => exact .inr (.inl (congrArg reporting h))
  | bounded l n => exact .inr (.inr ⟨n, congrArg (bounded · n) h⟩)
  | _ => exact h.elim

theorem CanPart.cases {link : Nat} {x : Standing} (h : x.CanPart link) :
    x = opened link ∨ x = listening link := by
  cases x with
  | opened l => exact .inl (congrArg opened h)
  | listening l => exact .inr (congrArg listening h)
  | _ => exact h.elim

/-- What an action and its answer make of a session, when models are waited for up to a limit. -/
inductive Step (limit : Nat) : Standing → (a : Action) → a.Answer → Standing → Prop
  | quiet {x : Standing} {a : Action} {answer : a.Answer} (ha : a.isQuiet) : Step limit x a answer x
  | unreached {host : String} {port : UInt16} {listener : Listener} {f : Fault} :
      Step limit unopened (.associate host port listener) (.error f) unopened
  | link {host : String} {port : UInt16} {listener : Listener} {l : Nat} (hf : listener.IsFresh) :
      Step limit unopened (.associate host port listener) (.ok l) (linked l)
  | inTime {l n : Nat} (hn : Course.spell n ≤ limit) :
      Step limit (linked l) (.latency .retrieving) n (linked l)
  | late {l n : Nat} (hn : limit < Course.spell n) :
      Step limit (linked l) (.latency .retrieving) n (lost l)
  | model {l : Nat} {m : ServerModel} : Step limit (linked l) (.retrieve l) (.ok m) (linked l)
  | noModel {l : Nat} {f : Fault} : Step limit (linked l) (.retrieve l) (.error f) (lost l)
  | giveUp {l : Nat} : Step limit (lost l) (.release l) () (abandoned l)
  | open {l : Nat} : Step limit (linked l) (.count .sessionsOpened 1) () (opened l)
  | activate {l : Nat} : Step limit (opened l) (.activate l) () (listening l)
  | unenabled {x : Standing} {l : Nat} {r : String} {f : Fault} :
      Step limit x (.enable l r) (.error f) x
  | report {l : Nat} {r : String} {b : ControlBlock} :
      Step limit (opened l) (.enable l r) (.ok b) (reporting l)
  | another {l : Nat} {r : String} {b : ControlBlock} :
      Step limit (reporting l) (.enable l r) (.ok b) (reporting l)
  | enable {l : Nat} {r : String} {b : ControlBlock} :
      Step limit (listening l) (.enable l r) (.ok b) (enabled l b.sequence)
  | bound {l : Nat} {n : UInt32} : Step limit (enabled l n) (.setBoundary l n) () (bounded l n)
  | schedule {x : Standing} {s : Session} {delay : Nat} {clear : Option String} {job : Nat}
      (hx : x.CanWait s.link) :
      Step limit x (.start (.disconnect s delay clear)) job (scheduled s delay clear)
  | clear {l : Nat} {r : String} {answer : Except Fault Unit} :
      Step limit (due l) (.disable l r) answer (due l)
  | part {x : Standing} {l : Nat} (hx : x.CanPart l) :
      Step limit x (.retire l) true (parting false l .retired)
  | partByJob {l : Nat} : Step limit (due l) (.retire l) true (parting true l .retired)
  | release {j : Bool} {l : Nat} :
      Step limit (parting j l .retired) (.release l) () (parting j l .released)
  | tell {j : Bool} {l : Nat} {answer : Option EventBatch} :
      Step limit (parting j l .released) (.hangUp l) answer
        (parting j l (.told (answer.map .batch)))
  | drain {j : Bool} {l : Nat} {h : Held} {h' : Option Held} {a : Action} {answer : a.Answer}
      (hd : Held.next l (some h) a answer = some h') :
      Step limit (parting j l (.told (some h))) a answer (parting j l (.told h'))

/-- A session over a link that was not ended. -/
def IsOpen (link : Nat) : Standing → Prop
  | opened l | reporting l | listening l | enabled l _ | bounded l _ | due l => l = link
  | scheduled s _ _ => s.link = link
  | _ => False

/-- Whoever ends a session that is open is told so. -/
def Admits (x : Standing) : (a : Action) → a.Answer → Prop
  | .retire l, answer => x.IsOpen l → answer = true
  | _, _ => True

end Standing

/-- The stages of a session as a protocol. -/
def lifecycle (limit : Nat) : Protocol Action Action.Answer Standing where
  step := Standing.Step limit
  admits := Standing.Admits

open Standing
open Protocol (Ends)

variable {limit : Nat} {x : Standing}

theorem Action.isQuiet_count {c : Counter} {n : Nat} (h : c ≠ .sessionsOpened) :
    (Action.count c n).isQuiet := h

theorem Policy.isQuiet_tally (c : Counter) (hc : c ∈ tally) : (Action.count c 1).isQuiet := by
  refine Action.isQuiet_count ?_
  rintro rfl
  revert hc
  decide

theorem lifecycle_tally (y : Standing) (c : Counter) (hc : c ∈ Policy.tally) :
    (lifecycle limit).step y (.count c 1) () y := .quiet (Policy.isQuiet_tally c hc)

/-- What is quiet leaves the session as it stands. -/
theorem lifecycle_of_quiet {α : Type} {c : Work α} (h : c.Within Action.isQuiet) :
    (lifecycle limit).Conforms x c fun y _ => y = x :=
  .of_within h fun _ _ => .quiet

namespace Session

variable {s : Session}

/-! ## Requests -/

theorem within_ensureOpen (s : Session) : Course.Within Action.isQuiet s.ensureOpen.run := by
  refine Attempt.within_bind (Attempt.within_lift (Course.within_query trivial)) fun b => ?_
  split
  · exact Attempt.within_pure ()
  · exact Attempt.within_throw _

theorem within_read (s : Session) (a : Address) : Course.Within Action.isQuiet (s.read a).run := by
  refine Attempt.within_bind s.within_ensureOpen fun _ => ?_
  refine Attempt.within_bind (Attempt.within_ofMisfit _) fun node => ?_
  refine Attempt.within_bind (Attempt.within_lift (Course.within_query ?_)) fun latency => ?_
  · exact (by decide : Stage.reading ≠ .retrieving)
  · refine Attempt.within_bind (Attempt.within_lift (Course.within_pause _)) fun _ => ?_
    exact Attempt.within_ofFault (Course.within_query trivial)

theorem within_write (s : Session) (a : Address) (path : String) (value : Value) :
    Course.Within Action.isQuiet (s.write a path value).run := by
  refine Attempt.within_bind s.within_ensureOpen fun _ => ?_
  refine Attempt.within_bind (Attempt.within_ofMisfit _) fun node => ?_
  exact Attempt.within_ofFault (Course.within_query trivial)

theorem lifecycle_ensureOpen (s : Session) :
    (lifecycle limit).Conforms x s.ensureOpen.run (Ends (fun y _ => y = x) fun y => y = x) :=
  .ends_of_within s.within_ensureOpen fun _ _ => .quiet

/-- A report is enabled, or the session stands as it did. -/
theorem lifecycle_enable {f : ControlBlock → Standing} {reference : String}
    (h : ∀ b, Step limit x (.enable s.link reference) (.ok b) (f b)) :
    (lifecycle limit).Conforms x (s.enable reference).run
      (Ends (fun y b => y = f b) fun y => y = x) := by
  refine s.lifecycle_ensureOpen.andThen (fun y u hy => ?_) fun y hy => hy
  subst hy
  split
  · rfl
  · refine .bind (.query fun answer _ => ?_)
    cases answer with
    | ok b => exact ⟨f b, h b, rfl⟩
    | error f => exact ⟨_, .unenabled, rfl⟩

/-! ## Opening -/

theorem lifecycle_refuse {α : Type} {P : Standing → α → Prop} {N : Standing → Prop} (e : Failure)
    (h : N x) : (lifecycle limit).Conforms x (refuse e : Attempt α).run (Ends P N) :=
  .liftThen (.query fun _ _ => ⟨x, .quiet (Action.isQuiet_count (by decide)), h⟩)

theorem lifecycle_associate (i : Identity) (a : Approach) {listener : Listener}
    (hl : listener.IsFresh) :
    (lifecycle limit).Conforms unopened (associate i a listener).run
      (Ends (fun y l => y = linked l) fun y => y = unopened) := by
  refine .liftThen (.bind (.query fun n _ => ⟨_, .quiet (by exact Stage.noConfusion), ?_⟩))
  split
  · refine .bind (.pause (.bind (.query fun answer _ => ?_)))
    cases answer with
    | ok l => exact ⟨_, .link hl, rfl⟩
    | error f => exact ⟨_, .unreached, lifecycle_refuse _ rfl⟩
  · exact .bind (.pause (lifecycle_refuse _ rfl))

theorem lifecycle_retrieve (l : Nat) (limit : UInt64) :
    (lifecycle limit.toNat).Conforms (linked l) (retrieve l limit).run
      (Ends (fun y _ => y = linked l) fun y => y = abandoned l) := by
  have fails : ∀ e : Failure, (lifecycle limit.toNat).Conforms (lost l)
      (do (Action.release l).perform; refuse e : Attempt ServerModel).run
      (Ends (fun y _ => y = linked l) fun y => y = abandoned l) := fun e =>
    .liftThen (.query fun _ _ => ⟨_, .giveUp, lifecycle_refuse e rfl⟩)
  refine .liftThen (.bind (.query fun n _ => ?_))
  by_cases hn : Course.spell n ≤ limit.toNat
  · refine ⟨_, .inTime hn, ?_⟩
    simp only [hn, if_true]
    refine .bind (.pause (.bind (.query fun answer _ => ?_)))
    cases answer with
    | ok m => exact ⟨_, .model, rfl⟩
    | error f => exact ⟨_, .noModel, fails _⟩
  · refine ⟨_, .late (Nat.lt_of_not_le hn), ?_⟩
    simp only [hn, if_false]
    exact .bind (.pause (fails _))

/-- A session is opened, or there is no association, or it was given up. -/
theorem lifecycle_connect (i : Identity) (a : Approach) {listener : Listener}
    (hl : listener.IsFresh) :
    (lifecycle a.limit.toNat).Conforms unopened (connect i a listener).run
      (Ends (fun y s => y = opened s.link) fun y => y = unopened ∨ ∃ l, y = abandoned l) := by
  refine (lifecycle_associate i a hl).andThen (fun y l hy => ?_) fun y hy => .inl hy
  subst hy
  have opens : ∀ m : ServerModel, (lifecycle a.limit.toNat).Conforms (linked l)
      (do Paced.count (m := Work) .sessionsOpened; return ⟨i, m, l⟩ : Attempt Session).run
      (Ends (fun y s => y = opened s.link) fun y => y = unopened ∨ ∃ l, y = abandoned l) :=
    fun m => .liftThen (.query fun _ _ => ⟨_, .open, rfl⟩)
  dsimp only
  split
  · next m _ => exact opens m
  · refine (lifecycle_retrieve l a.limit).andThen (fun y m hy => ?_) fun y hy => .inr ⟨l, hy⟩
    subst hy
    exact opens m

/-! ## Closing -/

theorem lifecycle_sendEvents {j : Bool} {l : Nat} {b : EventBatch}
    (hb : b.notifications.isEmpty = false) :
    (lifecycle limit).Conforms (parting j l (.told (some (.batch b)))) (Session.sendEvents b)
      fun y _ => y = parting j l (.told (some .sent)) := by
  have hne : b.notifications ≠ [] := by simpa using hb
  simp only [Session.sendEvents, hb, Bool.false_eq_true, if_false]
  refine .bind (.query fun answer _ => ⟨_, .drain (if_pos ⟨rfl, hne⟩), ?_⟩)
  cases answer <;> exact .query fun _ _ => ⟨_, .drain rfl, rfl⟩

/-- The listener is told, and what it gives up is sent. -/
theorem lifecycle_hangUp (j : Bool) (l : Nat) :
    (lifecycle limit).Conforms (parting j l .released) (Session.hangUp l) fun y _ =>
      y = parting j l (.told none) := by
  refine .bind (.query fun answer _ => ⟨_, .tell, ?_⟩)
  cases answer with
  | none => rfl
  | some b =>
    refine .bind ?_
    cases hb : b.notifications.isEmpty with
    | true =>
      simp only [Session.sendEvents, hb, if_true]
      have he : b.notifications = [] := List.isEmpty_iff.1 hb
      exact .query fun _ _ => ⟨_, .drain (if_pos ⟨rfl, he⟩), rfl⟩
    | false =>
      refine (lifecycle_sendEvents hb).mono fun y _ hy => ?_
      subst hy
      exact .query fun _ _ => ⟨_, .drain (if_pos rfl), rfl⟩

/-- A session that is open is ended. -/
theorem lifecycle_disconnect (hx : x.CanPart s.link) :
    (lifecycle limit).Conforms x s.disconnect fun y _ =>
      y = parting false s.link (.told none) := by
  refine .bind (.query fun answer ha => ?_)
  have hopen : x.IsOpen s.link := by rcases hx.cases with rfl | rfl <;> rfl
  obtain rfl : answer = true := ha hopen
  refine ⟨_, .part hx, .bind (.query fun _ _ => ⟨_, .release, lifecycle_hangUp _ _⟩)⟩

theorem lifecycle_disconnect_byJob :
    (lifecycle limit).Conforms (due s.link) s.disconnect fun y _ =>
      y = parting true s.link (.told none) := by
  refine .bind (.query fun answer ha => ?_)
  obtain rfl : answer = true := ha rfl
  exact ⟨_, .partByJob, .bind (.query fun _ _ => ⟨_, .release, lifecycle_hangUp _ _⟩)⟩

theorem lifecycle_clear (reference : String) :
    (lifecycle limit).Conforms (due s.link) (s.clear reference) fun y _ => y = due s.link := by
  have disables : (lifecycle limit).Conforms (due s.link) (s.disable reference).run
      (Ends (fun y _ => y = due s.link) fun y => y = due s.link) := by
    refine s.lifecycle_ensureOpen.andThen (fun y _ hy => ?_) fun y hy => hy
    subst hy
    refine .bind (.query fun answer _ => ⟨_, .clear, ?_⟩)
    cases answer <;> rfl
  refine .bind (.query fun answer _ => ⟨_, .quiet trivial, ?_⟩)
  split
  · refine .bind (disables.mono fun y r hy => ?_)
    cases r <;> exact hy
  · rfl

/-- The job that ends a session. -/
theorem lifecycle_disconnectLater (delay : Nat) (report : Option String) :
    (lifecycle limit).Conforms (due s.link) (s.disconnectLater delay report) fun y _ =>
      y = parting true s.link (.told none) := by
  refine .bind (.pause ?_)
  cases report with
  | none => exact lifecycle_disconnect_byJob
  | some reference =>
    refine .bind ((lifecycle_clear reference).mono fun y _ hy => ?_)
    subst hy
    exact lifecycle_disconnect_byJob

end Session

end FieldGateway
