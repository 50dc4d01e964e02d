import FieldGateway.Gateway.Handle
import FieldGateway.Proofs.Crew.Runs

/-!
# The connection under an operation

An operation asks one thing after another of a device over a connection that is sound at first. Once
a call finds it broken, nothing more is asked of the device, and the operation fails with that;
whatever else fails, the connection counts as sound.

Enabling the report of events is such a call only for an operation that consists in it: the status
of a controller is told even if the report cannot be enabled. Whether it is one is a parameter,
`strict`.

* `contact`: what the operation asks as a protocol.
* `Gateway.contact_carryOut`: every operation keeps to it and tells how it ended.
-/

namespace FieldGateway

open Gateway (Ending)

/-- How the connection under an operation fares. -/
inductive Contact where
  | sound
  | broken
  /-- The session was left to a job. -/
  | left

namespace Action

/-- Holds of what is asked of a device to carry out an operation. -/
def IsCall : Action → Prop
  | read _ _ _ | write _ _ | enable _ _ => True
  | _ => False

/-- Holds of a call that an operation cannot do without. -/
def IsNeeded (strict : Prop) : Action → Prop
  | read _ _ _ | write _ _ => True
  | enable _ _ => strict
  | _ => False

/-- Holds of what an operation does besides, which touches neither the device nor the session. -/
def IsAside : Action → Prop
  | latency stage => stage ≠ .retrieving
  | count _ _ | now | activate _ | setBoundary _ _ => True
  | _ => False

/-- The answer tells that the connection is broken. -/
def Breaks (a : Action) (answer : a.Answer) : Prop :=
  ∃ text, a.answerFault? (.io text) = some answer

/-- A needed call finds the connection broken. -/
def Fails (strict : Prop) (a : Action) (answer : a.Answer) : Prop :=
  a.IsNeeded strict ∧ a.Breaks answer

end Action

namespace Contact

/-- What an action and its answer mean for the connection. -/
inductive Step (strict : Prop) : Contact → (a : Action) → a.Answer → Contact → Prop
  | aside {x : Contact} {a : Action} {answer : a.Answer} (ha : a.IsAside) : Step strict x a answer x
  | look {link : Nat} {answer : Bool} : Step strict sound (.isOpen link) answer sound
  | call {a : Action} {answer : a.Answer} (ha : a.IsCall) (hf : ¬ a.Fails strict answer) :
      Step strict sound a answer sound
  | fail {a : Action} {answer : a.Answer} (ha : a.IsCall) (hf : a.Fails strict answer) :
      Step strict sound a answer broken
  | leave {s : Session} {delay : Nat} {clear : Option String} {job : Nat} :
      Step strict sound (.start (.disconnect s delay clear)) job left

/-- The session is open while the operation is at work. -/
def Admits (link : Nat) : Contact → (a : Action) → a.Answer → Prop
  | sound, .isOpen l, answer => l = link → answer = true
  | _, _, _ => True

/-- How an attempt tells what became of the connection: if a needed call found it broken, it fails
fatally. -/
def Tells {α : Type} (needed : Prop) : Contact → Except Failure α → Prop
  | y, .ok _ => y = sound
  | y, .error e =>
    needed ∧ e.isFatal = true ∧ y = broken ∨ ¬ (needed ∧ e.isFatal = true) ∧ y = sound

end Contact

/-- What an operation asks over a link, as a protocol. -/
def contact (strict : Prop) (link : Nat) : Protocol Action Action.Answer Contact where
  step := Contact.Step strict
  admits := Contact.Admits link

open Contact

variable {strict needed : Prop} {link : Nat} {α β : Type}

/-- An attempt, begun over a sound connection, that tells what became of it. -/
structure Reliable (strict needed : Prop) (link : Nat) (w : Attempt α) : Prop where
  conforms : (contact strict link).Conforms sound w.run (Tells needed)

/-- A failure that is not fatal tells that the connection is sound. -/
theorem Contact.tells_sound {e : Failure} (h : e.isFatal = false) :
    Tells needed sound (.error e : Except Failure α) := .inr ⟨by simp [h], rfl⟩

theorem Contact.tally (y : Contact) (c : Counter) (_ : c ∈ Policy.tally) :
    (contact strict link).step y (.count c 1) () y := .aside trivial

/-! ## Attempts -/

namespace Reliable

theorem pure (a : α) : Reliable strict needed link (pure a : Attempt α) := ⟨rfl⟩

theorem throw {e : Failure} (h : e.isFatal = false) :
    Reliable strict needed link (throw e : Attempt α) := ⟨tells_sound h⟩

theorem ofExcept {r : Except Failure α} (h : ∀ e, r = .error e → e.isFatal = false) :
    Reliable strict needed link (Attempt.ofExcept r) := by
  cases r with
  | ok a => exact ⟨rfl⟩
  | error e => exact ⟨tells_sound (h e rfl)⟩

theorem ofMisfit (r : Except Misfit α) : Reliable strict needed link (Attempt.ofMisfit r) := by
  cases r with
  | ok a => exact ⟨rfl⟩
  | error e => exact ⟨tells_sound rfl⟩

theorem bind {w : Attempt α} {f : α → Attempt β} (hw : Reliable strict needed link w)
    (hf : ∀ a, Reliable strict needed link (f a)) : Reliable strict needed link (w >>= f) := by
  refine ⟨hw.conforms.attempt (fun y a hy => ?_) fun y e hy => hy⟩
  obtain rfl : y = sound := hy
  exact (hf a).conforms

theorem aside {a : Action} (ha : a.IsAside) {f : a.Answer → Attempt β}
    (hf : ∀ answer, Reliable strict needed link (f answer)) :
    Reliable strict needed link ((liftM a.perform : Attempt a.Answer) >>= f) :=
  ⟨.liftThen (.query fun answer _ => ⟨sound, .aside ha, (hf answer).conforms⟩)⟩

theorem pause {ms : Nat} {w : Attempt β} (hw : Reliable strict needed link w) :
    Reliable strict needed link
      ((liftM (Course.pause ms : Work Unit) : Attempt Unit) >>= fun _ => w) :=
  ⟨.liftThen (.pause hw.conforms)⟩

/-- A call tells whether the connection broke, if it is needed. -/
theorem call {w : Work (Except Fault α)}
    (hw : (contact strict link).Conforms sound w fun y x =>
      Tells needed y (x.mapError Fault.raise)) :
    Reliable strict needed link (Attempt.ofFault w) := ⟨.bind hw⟩

theorem forM {f : α → Attempt Unit} (hf : ∀ a, Reliable strict needed link (f a)) (l : List α) :
    Reliable strict needed link (l.forM f) := by
  induction l with
  | nil => exact pure ()
  | cons a l ih => exact bind (hf a) fun _ => ih

theorem mapM {f : α → Attempt β} (hf : ∀ a, Reliable strict needed link (f a)) (l : List α) :
    Reliable strict needed link (l.mapM f) := by
  induction l with
  | nil => exact pure []
  | cons a l ih =>
    rw [List.mapM_cons]
    exact bind (hf a) fun b => bind ih fun bs => pure (b :: bs)

/-- What is tried again was refused over a sound connection. -/
theorem retried {p : Policy} {w : Attempt α} (hw : Reliable strict needed link w) :
    Reliable strict needed link (Attempt.retried p w) := by
  refine ⟨Protocol.Conforms.executeFrom tally (hw.conforms.mono fun y r hy => ?_) _ _⟩
  cases r with
  | ok a => exact ⟨fun n => hy, fun h => by cases h⟩
  | error e =>
    by_cases he : e.severity = .retryable
    · have hsound : y = sound := by
        rcases hy with ⟨-, hfatal, -⟩ | ⟨-, hy⟩
        · simp [Failure.isFatal, he] at hfatal
        · exact hy
      subst hsound
      refine ⟨fun n => tells_sound ?_, fun _ => rfl⟩
      rw [if_pos he]
      rfl
    · refine ⟨fun n => ?_, fun h => absurd (by simpa [Policy.isRefusal] using h) he⟩
      simp only [Policy.conclusion, he, if_false]
      exact hy

end Reliable

/-! ## Sessions -/

/-- What a call means for the connection, and what is told of it. -/
theorem Contact.step_call {a : Action} {answer : a.Answer} {x : Except Fault α}
    (ha : a.IsCall) (hn : a.IsNeeded strict ↔ needed)
    (hx : ∀ text, a.answerFault? (.io text) = some answer ↔ x = .error (.io text)) :
    ∃ y, Step strict sound a answer y ∧ Tells needed y (x.mapError Fault.raise) := by
  by_cases hf : a.Fails strict answer
  · obtain ⟨text, htext⟩ := hf.2
    rw [(hx text).1 htext]
    exact ⟨broken, .fail ha hf, .inl ⟨hn.1 hf.1, rfl, rfl⟩⟩
  · refine ⟨sound, .call ha hf, ?_⟩
    cases x with
    | ok a => rfl
    | error f =>
      cases f with
      | service text => exact tells_sound rfl
      | io text =>
        refine .inr ⟨fun h => hf ⟨hn.2 h.1, text, (hx text).2 rfl⟩, rfl⟩

namespace Session

variable (s : Session)

theorem reliable_ensureOpen : Reliable strict needed s.link s.ensureOpen := by
  refine ⟨.liftThen (.query fun answer hanswer => ⟨sound, .look, ?_⟩)⟩
  obtain rfl : answer = true := hanswer rfl
  exact (Reliable.pure ()).conforms

theorem reliable_read (a : Address) : Reliable strict True s.link (s.read a) := by
  refine .bind s.reliable_ensureOpen fun _ => .bind (.ofMisfit _) fun node => ?_
  refine .aside (a := .latency .reading) Stage.noConfusion fun latency =>
    .pause (.call (.query fun _ _ => ?_))
  exact step_call trivial Iff.rfl fun text => by simp [Action.answerFault?, eq_comm]

theorem reliable_write (a : Address) (path : String) (value : Value) :
    Reliable strict True s.link (s.write a path value) := by
  refine .bind s.reliable_ensureOpen fun _ => .bind (.ofMisfit _) fun node => ?_
  refine .call (.query fun _ _ => ?_)
  exact step_call trivial Iff.rfl fun text => by simp [Action.answerFault?, eq_comm]

theorem reliable_enable (reference : String) :
    Reliable strict strict s.link (s.enable reference) := by
  refine .bind s.reliable_ensureOpen fun _ => ?_
  split
  · exact .throw rfl
  · refine .call (.query fun _ _ => ?_)
    exact step_call trivial Iff.rfl fun text => by simp [Action.answerFault?, eq_comm]

end Session

/-! ## Commands -/

namespace Point

variable (p : Point) (s : Session) (device : LogicalDevice) (id : UInt8)

theorem isFatal_measure {now : Int64} {node : Node} {e : Failure}
    (h : p.measure now node = .error e) : e.isFatal = false := by
  unfold measure at h
  split at h
  · cases h
    rfl
  · cases h

theorem reliable_read : Reliable strict True s.link (p.read s device id) := by
  refine .bind (s.reliable_read _) fun node => .aside (a := .now) trivial fun now => ?_
  exact .ofExcept fun e => p.isFatal_measure

theorem reliable_write (value : Float) :
    Reliable strict True s.link (p.write s device id value) := by
  unfold write
  split
  · exact s.reliable_write _ _ _
  · exact .throw rfl

end Point

namespace Light

variable (p : Policy) (s : Session) (d : Device)

theorem reliable_switch (relay : UInt8) (on : Bool) :
    Reliable strict True s.link (switch s relay on) := by
  refine .bind (s.reliable_read _) fun node => ?_
  have rest : Reliable strict True s.link (do
      let _ ← s.read (switchAddress relay .position .control)
      s.write (switchAddress relay .position .control) "Oper.ctlVal" (.bool on)) :=
    .bind (s.reliable_read _) fun _ => s.reliable_write _ _ _
  dsimp only
  split
  · exact rest
  · exact .bind (s.reliable_write _ _ _) fun _ => rest

theorem reliable_setAll (vs : List LightValue) :
    Reliable strict True s.link (setAll p s d vs) := by
  refine .forM (fun v => .bind (.ofMisfit _) fun relays => ?_) vs
  exact .forM (fun relay => .retried (reliable_switch s relay v.on)) relays

theorem isFatal_position {node : Node} {e : Failure} (h : position node = .error e) :
    e.isFatal = false := by
  unfold position at h
  split at h
  · cases h
  · cases h
    rfl

theorem reliable_readOutput (o : OutputSetting) :
    Reliable strict True s.link (readOutput s o) := by
  refine .bind (s.reliable_read _) fun node => ?_
  exact .bind (.ofExcept fun e => isFatal_position) fun on => .pure _

theorem reliable_status : Reliable strict True s.link (status p s d) := by
  refine .retried (.bind (.mapM (reliable_readOutput s) _) fun lights => ?_)
  refine .bind (s.reliable_read _) fun events => ?_
  exact .bind (s.reliable_read _) fun software => .pure _

end Light

/-! ## Operations -/

namespace Gateway

variable (g : Gateway) (s : Session) (d : Device)

/-- What is passed over was refused over a sound connection. -/
theorem reliable_passOver (entry : String) {w : Attempt α} (hw : Reliable strict True s.link w) :
    Reliable strict True s.link (passOver entry w) := by
  refine ⟨.bind (hw.conforms.mono fun y r hy => ?_)⟩
  cases r with
  | ok a => exact hy
  | error e =>
    dsimp only
    split
    · next hmisfit =>
      have hfatal : e.isFatal = false := by cases e <;> first | rfl | cases hmisfit
      have hsound : y = sound := by simpa [Tells, hfatal] using hy
      subst hsound
      exact .bind (.query fun _ _ => ⟨sound, .aside trivial, rfl⟩)
    · exact hy

theorem reliable_readFilter (family : Family) (id : UInt8) (f : Filter) :
    Reliable strict True s.link (g.readFilter s family id f) := by
  apply reliable_passOver
  apply Reliable.bind (.ofMisfit _)
  intro point
  exact .retried (point.reliable_read s _ _)

theorem reliable_writePoint (family : Family) (id : UInt8) (p : SetPoint) :
    Reliable strict True s.link (g.writePoint s family id p) := by
  apply reliable_passOver
  apply Reliable.bind (.ofMisfit _)
  intro point
  exact .retried (point.reliable_write s _ _ _)

theorem reliable_getData (qs : List SystemQuery) :
    Reliable strict True s.link (g.getData s qs) := by
  refine .bind (.mapM (fun q => ?_) qs) fun rs => .pure _
  exact .bind (.mapM (g.reliable_readFilter s _ _) _) fun rs => .pure _

theorem reliable_setData (qs : List SystemSetting) :
    Reliable strict True s.link (g.setData s qs) := by
  refine .bind (.mapM (fun q => ?_) qs) fun rs => .pure _
  exact .bind (.mapM (g.reliable_writePoint s _ _) _) fun rs => .pure _

/-- Once events are collected the session is left to a job. -/
theorem contact_collectEvents :
    (contact strict s.link).Conforms sound (g.collectEvents s).run fun y r =>
      match r with
      | .ok _ => y = left
      | .error e => Tells strict y (.error e : Except Failure Unit) := by
  have names : Reliable strict strict s.link (Attempt.ofMisfit (eventBlock s.server)) := .ofMisfit _
  refine names.conforms.attempt (fun y reference hy => ?_) fun y e hy => hy
  obtain rfl : y = sound := hy
  refine .liftThen (.query fun _ _ => ⟨sound, .aside trivial, ?_⟩)
  have enables : Reliable strict strict s.link
      (Attempt.retried g.policy (s.enable reference)) := .retried (s.reliable_enable reference)
  refine enables.conforms.attempt (fun y block hy => ?_) fun y e hy => hy
  obtain rfl : y = sound := hy
  refine .liftThen (.query fun _ _ => ⟨sound, .aside trivial, ?_⟩)
  exact .liftThen (.query fun _ _ => ⟨left, .leave, rfl⟩)

end Gateway

/-- Holds of an operation of a device that consists in having its events reported. -/
def Operation.IsReporting (o : Operation) (d : Device) : Prop :=
  o = .enableReporting ∧ d.family = .streetlightController

/-- How an operation tells what became of the connection and of the session. -/
def Contact.Carried : Contact → Except Failure (Payload × Ending) → Prop
  | y, .ok (_, .scheduled) => y = left
  | y, .ok (_, .open) => y = sound
  | y, .error e => e.isFatal = true ∧ y = broken ∨ e.isFatal = false ∧ y = sound

theorem Contact.carried_error {y : Contact} {e : Failure}
    (h : Tells True y (.error e : Except Failure α)) :
    Carried y (.error e) := by
  rcases h with ⟨-, he, hy⟩ | ⟨he, hy⟩
  · exact .inl ⟨he, hy⟩
  · exact .inr ⟨by simpa using he, hy⟩

theorem Reliable.carried {w : Attempt α} (hw : Reliable strict True link w) {f : α → Payload} :
    (contact strict link).Conforms sound
      (do return (f (← w), .open) : Attempt (Payload × Ending)).run Carried :=
  hw.conforms.attempt (fun _ _ hy => hy) fun _ _ hy => Contact.carried_error hy

namespace Gateway

variable (g : Gateway) (s : Session) (d : Device)

theorem contact_getStatus :
    (contact (Operation.getStatus.IsReporting d) s.link).Conforms sound (g.getStatus s d).run
      Carried := by
  have requires : Reliable (Operation.getStatus.IsReporting d) True s.link
      (Attempt.ofMisfit (requireStreetlight d "GetStatus")) := .ofMisfit _
  refine requires.conforms.attempt (fun y _ hy => ?_) fun y e hy => Contact.carried_error hy
  obtain rfl : y = sound := hy
  refine (Light.reliable_status g.policy s d).conforms.attempt (fun y status hy => ?_)
    fun y e hy => Contact.carried_error hy
  obtain rfl : y = sound := hy
  -- If events cannot be collected, the connection counts as sound whatever the reason is.
  rw [ExceptT.run_bind]
  refine .bind (.bind ((g.contact_collectEvents s).mono fun y r hy => ?_))
  cases r with
  | ok u => exact hy
  | error e =>
    rcases hy with ⟨⟨hno, -⟩, -⟩ | ⟨-, hy⟩
    · cases hno
    · exact hy

theorem contact_enableReporting :
    (contact (Operation.enableReporting.IsReporting d) s.link).Conforms sound
      (g.carryOut s d .enableReporting).run Carried := by
  simp only [carryOut]
  split
  · next hd =>
    refine (g.contact_collectEvents s).attempt (fun y _ hy => hy) fun y e hy => ?_
    have hneeded : Operation.enableReporting.IsReporting d := ⟨rfl, hd⟩
    simpa [Tells, Carried, hneeded] using hy
  · exact rfl

/-- Every operation tells how it ended. -/
theorem contact_carryOut (o : Operation) :
    (contact (o.IsReporting d) s.link).Conforms sound (g.carryOut s d o).run Carried := by
  cases o with
  | getData systems => exact (g.reliable_getData s systems).carried
  | setData systems => exact (g.reliable_setData s systems).carried
  | setLight values =>
    have requires : Reliable ((Operation.setLight values).IsReporting d) True s.link
        (Attempt.ofMisfit (requireStreetlight d "SetLight")) := .ofMisfit _
    refine requires.conforms.attempt (fun y _ hy => ?_) fun y e hy => Contact.carried_error hy
    obtain rfl : y = sound := hy
    exact (Light.reliable_setAll g.policy s d values).carried (f := fun _ => .empty)
  | getStatus => exact g.contact_getStatus s d
  | enableReporting => exact g.contact_enableReporting s d

end Gateway

end FieldGateway
