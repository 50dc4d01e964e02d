import FieldGateway.Gateway.Handle
import FieldGateway.Proofs.Session.Standing

/-!
# How the gateway treats sessions

Values are read and set without touching the session; the other operations enable reports, and some
leave the session to a job. A request is handled along the stages of `lifecycle`:

* `Gateway.lifecycle_carryOut`: how the session stands after the operation of a request.
* `Gateway.lifecycle_handle`: how it stands once the request has been answered.
-/

namespace FieldGateway

open Standing
open Protocol (Ends)

/-! ## Reading and setting values -/

theorem Policy.within_retried {α : Type} (p : Policy) {w : Attempt α}
    (h : Course.Within Action.isQuiet w.run) :
    Course.Within Action.isQuiet (Attempt.retried p w).run :=
  Attempt.within_retried isQuiet_tally p h

namespace Point

variable (p : Point) (s : Session) (device : LogicalDevice) (id : UInt8)

theorem within_read : Course.Within Action.isQuiet (p.read s device id).run := by
  refine Attempt.within_bind (s.within_read _) fun node => ?_
  refine Attempt.within_bind (Attempt.within_lift (Course.within_query trivial)) fun now => ?_
  exact Attempt.within_ofExcept _

theorem within_write (value : Float) :
    Course.Within Action.isQuiet (p.write s device id value).run := by
  unfold write
  split
  · exact s.within_write _ _ _
  · exact Attempt.within_throw _

end Point

namespace Light

variable (p : Policy) (s : Session) (d : Device)

theorem within_switch (relay : UInt8) (on : Bool) :
    Course.Within Action.isQuiet (switch s relay on).run := by
  refine Attempt.within_bind (s.within_read _) fun node => ?_
  have rest : Course.Within Action.isQuiet (do
      let _ ← s.read (switchAddress relay .position .control)
      s.write (switchAddress relay .position .control) "Oper.ctlVal" (.bool on) :
        Attempt Unit).run :=
    Attempt.within_bind (s.within_read _) fun _ => s.within_write _ _ _
  dsimp only
  split
  · exact rest
  · exact Attempt.within_bind (s.within_write _ _ _) fun _ => rest

theorem within_setAll (vs : List LightValue) :
    Course.Within Action.isQuiet (setAll p s d vs).run := by
  refine Attempt.within_forM (fun v => ?_) vs
  refine Attempt.within_bind (Attempt.within_ofMisfit _) fun rs => ?_
  exact Attempt.within_forM (fun relay => p.within_retried (within_switch s relay v.on)) rs

theorem within_readOutput (o : OutputSetting) :
    Course.Within Action.isQuiet (readOutput s o).run := by
  refine Attempt.within_bind (s.within_read _) fun node => ?_
  exact Attempt.within_bind (Attempt.within_ofExcept _) fun on => Attempt.within_pure _

theorem within_status : Course.Within Action.isQuiet (status p s d).run := by
  refine p.within_retried ?_
  refine Attempt.within_bind (Attempt.within_mapM (within_readOutput s) _) fun lights => ?_
  refine Attempt.within_bind (s.within_read _) fun events => ?_
  exact Attempt.within_bind (s.within_read _) fun software => Attempt.within_pure _

end Light

namespace Gateway

variable (g : Gateway) (s : Session) {d : Device} {limit : Nat}

theorem within_passOver {α : Type} (entry : String) {w : Attempt α}
    (h : Course.Within Action.isQuiet w.run) :
    Course.Within Action.isQuiet (passOver entry w).run := by
  refine Course.Within.bind h fun r => ?_
  cases r with
  | ok a => exact Course.within_pure _
  | error e =>
    dsimp only
    split
    · exact Course.Within.bind (Course.within_query (Action.isQuiet_count (by decide)))
        fun _ => Course.within_pure _
    · exact Course.within_pure _

theorem within_readFilter (family : Family) (id : UInt8) (f : Filter) :
    Course.Within Action.isQuiet (g.readFilter s family id f).run := by
  apply within_passOver
  apply Attempt.within_bind (Attempt.within_ofMisfit _)
  intro point
  exact g.policy.within_retried (point.within_read s _ _)

theorem within_writePoint (family : Family) (id : UInt8) (p : SetPoint) :
    Course.Within Action.isQuiet (g.writePoint s family id p).run := by
  apply within_passOver
  apply Attempt.within_bind (Attempt.within_ofMisfit _)
  intro point
  exact g.policy.within_retried (point.within_write s _ _ _)

theorem within_getData (qs : List SystemQuery) :
    Course.Within Action.isQuiet (g.getData s qs).run := by
  refine Attempt.within_bind (Attempt.within_mapM (fun q => ?_) qs) fun rs => Attempt.within_pure _
  exact Attempt.within_bind (Attempt.within_mapM (g.within_readFilter s _ _) _)
    fun rs => Attempt.within_pure _

theorem within_setData (qs : List SystemSetting) :
    Course.Within Action.isQuiet (g.setData s qs).run := by
  refine Attempt.within_bind (Attempt.within_mapM (fun q => ?_) qs) fun rs => Attempt.within_pure _
  exact Attempt.within_bind (Attempt.within_mapM (g.within_writePoint s _ _) _)
    fun rs => Attempt.within_pure _

/-! ## Reports -/

/-- Events are collected until a job ends the session, or that is not possible. -/
theorem lifecycle_collectEvents :
    (lifecycle limit).Conforms (opened s.link) (g.collectEvents s).run
      (Ends (fun y _ => ∃ delay clear, y = scheduled s delay clear) fun y => y.CanPart s.link) := by
  have names : (lifecycle limit).Conforms (opened s.link)
      (Attempt.ofMisfit (eventBlock s.server)).run
      (Ends (fun y _ => y = opened s.link) fun y => y = opened s.link) :=
    .ends_of_within (Attempt.within_ofMisfit _) fun _ _ => .quiet
  refine names.andThen (fun y reference hy => ?_) fun y hy => hy ▸ rfl
  subst hy
  refine .liftThen (.query fun _ _ => ⟨_, .activate, ?_⟩)
  have enables : (lifecycle limit).Conforms (listening s.link)
      (Attempt.retried g.policy (s.enable reference)).run
      (Ends (fun y b => y = enabled s.link b.sequence) fun y => y = listening s.link) :=
    .retried lifecycle_tally (Session.lifecycle_enable fun b => .enable)
  refine enables.andThen (fun y b hy => ?_) fun y hy => hy ▸ rfl
  subst hy
  refine .liftThen (.query fun _ _ => ⟨_, .bound, ?_⟩)
  exact .liftThen (.query fun _ _ => ⟨_, .schedule rfl, _, _, rfl⟩)

/-- The reports that are wanted are enabled, as far as that is possible. -/
theorem lifecycle_enableWanted (d : Device) :
    (lifecycle limit).Conforms (opened s.link) (s.enableWanted d) fun y _ =>
      y = opened s.link ∨ y = reporting s.link := by
  suffices h : ∀ (l : List String) (e : Enabling) (x : Standing),
      x = opened s.link ∨ x = reporting s.link →
        (lifecycle limit).Conforms x (l.foldlM s.enableInto e) fun y _ =>
          y = opened s.link ∨ y = reporting s.link from h _ _ _ (.inl rfl)
  intro l
  induction l with
  | nil => exact fun e x hx => hx
  | cons reference l ih =>
    intro e x hx
    have hok : ∀ b, Step limit x (.enable s.link reference) (.ok b) (reporting s.link) := by
      rintro b
      rcases hx with rfl | rfl
      · exact .report
      · exact .another
    have one : (lifecycle limit).Conforms x (s.enableInto e reference) fun y _ =>
        y = opened s.link ∨ y = reporting s.link := by
      refine .bind ((Session.lifecycle_enable hok).mono fun y r hy => ?_)
      cases r with
      | ok b => exact .inr hy
      | error e =>
        obtain rfl : y = x := hy
        exact hx
    rw [List.foldlM_cons]
    exact .bind (one.mono fun y e hy => ih e y hy)

/-- The session is ended, or left to a job. -/
theorem lifecycle_finish {x : Standing} (hx : x.CanPart s.link)
    (hd : d.family.isRtu → x = opened s.link) :
    (lifecycle limit).Conforms x (g.finish s d) fun y _ =>
      (∃ delay clear, y = scheduled s delay clear) ∨ y = parting false s.link (.told none) := by
  unfold finish
  split
  · next h =>
    obtain rfl := hd (by simp_all)
    refine .bind ((lifecycle_enableWanted s d).mono fun y _ hy => ?_)
    have hwait : y.CanWait s.link := by rcases hy with rfl | rfl <;> rfl
    exact .bind (.query fun _ _ => ⟨_, .schedule hwait, .inl ⟨_, _, rfl⟩⟩)
  · exact (Session.lifecycle_disconnect hx).mono fun y _ hy => .inr hy

/-! ## Operations -/

/-- How a session may stand after an operation: left to a job, still to be ended, or, after a
failure, without any report enabled. -/
def Carried (s : Session) (d : Device) (y : Standing) : Payload × Ending → Prop
  | (_, .scheduled) => ∃ delay clear, y = scheduled s delay clear
  | (_, .open) => y.CanPart s.link ∧ (d.family.isRtu → y = opened s.link)

theorem lifecycle_quietly {α : Type} {w : Attempt α} (hw : Course.Within Action.isQuiet w.run)
    {f : α → Payload} (d : Device) :
    (lifecycle limit).Conforms (opened s.link) (do return (f (← w), .open) :
      Attempt (Payload × Ending)).run (Ends (Carried s d) fun y => y.CanPart s.link) := by
  have hw : (lifecycle limit).Conforms (opened s.link) w.run
      (Ends (fun y _ => y = opened s.link) fun y => y = opened s.link) :=
    .ends_of_within hw fun _ _ => .quiet
  refine hw.andThen (fun y a hy => ?_) fun y hy => hy ▸ rfl
  subst hy
  exact ⟨rfl, fun _ => rfl⟩

/-- Only streetlight controllers get further. -/
theorem lifecycle_requireStreetlight (d : Device) (operation : String) :
    (lifecycle limit).Conforms (opened s.link)
      (Attempt.ofMisfit (requireStreetlight d operation)).run
      (Ends (fun y _ => y = opened s.link ∧ d.family.isRtu = false)
        fun y => y = opened s.link) := by
  unfold requireStreetlight
  split
  · next h => exact ⟨rfl, by rw [h]; rfl⟩
  · exact rfl

theorem lifecycle_getStatus (d : Device) :
    (lifecycle limit).Conforms (opened s.link) (g.getStatus s d).run
      (Ends (Carried s d) fun y => y.CanPart s.link) := by
  refine (lifecycle_requireStreetlight s d _).andThen (fun y _ hy => ?_) fun y hy => hy ▸ rfl
  obtain ⟨rfl, hd⟩ := hy
  have status : (lifecycle limit).Conforms (opened s.link) (Light.status g.policy s d).run
      (Ends (fun y _ => y = opened s.link) fun y => y = opened s.link) :=
    .ends_of_within (Light.within_status g.policy s d) fun _ _ => .quiet
  refine status.andThen (fun y status hy => ?_) fun y hy => hy ▸ rfl
  subst hy
  -- Whether events can be collected decides only how the session goes on.
  rw [ExceptT.run_bind]
  refine .bind (.bind ((g.lifecycle_collectEvents s).mono fun y r hy => ?_))
  cases r with
  | ok u => exact hy
  | error e => exact ⟨hy, fun h => by rw [hd] at h; cases h⟩

theorem lifecycle_enableReporting (d : Device) :
    (lifecycle limit).Conforms (opened s.link) (g.carryOut s d .enableReporting).run
      (Ends (Carried s d) fun y => y.CanPart s.link) := by
  simp only [carryOut]
  split
  · exact (g.lifecycle_collectEvents s).andThen (fun y _ hy => hy) fun y hy => hy
  · exact ⟨rfl, fun _ => rfl⟩

theorem lifecycle_carryOut (d : Device) (o : Operation) :
    (lifecycle limit).Conforms (opened s.link) (g.carryOut s d o).run
      (Ends (Carried s d) fun y => y.CanPart s.link) := by
  cases o with
  | getData systems => exact lifecycle_quietly s (g.within_getData s systems) d
  | setData systems => exact lifecycle_quietly s (g.within_setData s systems) d
  | setLight values =>
    refine (lifecycle_requireStreetlight s d _).andThen (fun y _ hy => ?_) fun y hy => hy ▸ rfl
    obtain ⟨rfl, -⟩ := hy
    exact lifecycle_quietly s (Light.within_setAll g.policy s d values) d (f := fun _ => .empty)
  | getStatus => exact g.lifecycle_getStatus s d
  | enableReporting => exact g.lifecycle_enableReporting s d

/-! ## Requests -/

/-- How a session may stand once a request has been answered. -/
def Settled (y : Standing) (o : Outcome) : Prop :=
  match y with
  | unopened | abandoned _ | parting false _ (.told none) => True
  | scheduled _ _ _ => o.isSuccess
  | _ => False

theorem lifecycle_conclude {d : Device} {y : Standing}
    {r : Except Failure (Payload × Ending)} (hy : Ends (Carried s d) (·.CanPart s.link) y r) :
    (lifecycle limit).Conforms y (g.conclude s d r).run fun y r => Settled y (outcome r) := by
  rcases r with e | ⟨payload, ending⟩
  · refine .liftThen ((Session.lifecycle_disconnect hy).mono fun y _ hy => ?_)
    subst hy
    trivial
  · cases ending with
    | scheduled =>
      obtain ⟨delay, clear, rfl⟩ := hy
      exact rfl
    | «open» =>
      refine .liftThen ((g.lifecycle_finish s hy.1 hy.2).mono fun y _ hy => ?_)
      rcases hy with ⟨delay, clear, rfl⟩ | rfl
      · exact rfl
      · trivial

theorem listenerFor_isFresh (d : Device) : (g.listenerFor d).IsFresh := by
  unfold listenerFor
  split
  · exact ⟨rfl, rfl, rfl⟩
  · split <;> trivial

theorem within_findDevice {N : Action → Prop} {id : String} (h : N (.findDevice id)) :
    Course.Within N (findDevice id).run := by
  refine Attempt.within_bind (Attempt.within_lift (Course.within_query h)) fun answer => ?_
  split <;> exact Course.within_pure _

theorem lifecycle_run (r : Request) :
    (lifecycle g.connectTimeout.toNat).Conforms unopened (g.run r).run fun y r =>
      Settled y (outcome r) := by
  have finds : (lifecycle g.connectTimeout.toNat).Conforms unopened (findDevice r.deviceId).run
      fun y _ => y = unopened := lifecycle_of_quiet (within_findDevice trivial)
  unfold run
  rw [ExceptT.run_bind]
  refine .bind (finds.mono fun y d hy => ?_)
  subst hy
  cases d with
  | error e => trivial
  | ok d =>
    simp only [ExceptT.run_bind]
    refine .bind ((Session.lifecycle_connect d.identity (g.approach d.family)
      (g.listenerFor_isFresh d)).mono fun y s hy => ?_)
    cases s with
    | error e =>
      rcases hy with rfl | ⟨l, rfl⟩ <;> trivial
    | ok s =>
      obtain rfl : y = opened s.link := hy
      exact .bind (.bind ((g.lifecycle_carryOut s d r.operation).mono fun y r hy =>
        g.lifecycle_conclude s hy))

/-- Once a request has been answered, the session is ended, or left to a job after a success. -/
theorem lifecycle_handle (r : Request) :
    (lifecycle g.connectTimeout.toNat).Conforms unopened (g.handle r) fun y o =>
      Settled y o.outcome := by
  refine .bind ((g.lifecycle_run r).mono fun y result hy => ?_)
  have sends : ∀ o : Response, (sendResponse o).Within Action.isQuiet := fun o =>
    Course.Within.bind (Course.within_query trivial) fun answer => by
      cases answer with
      | none => exact Course.within_query (Action.isQuiet_count (by decide))
      | some reason => exact Course.within_pure _
  refine .bind ((lifecycle_of_quiet (sends _)).mono fun z _ hz => ?_)
  subst hz
  exact hy

end Gateway

end FieldGateway
