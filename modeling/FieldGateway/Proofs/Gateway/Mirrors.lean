import FieldGateway.Proofs.Gateway.Parts
import FieldGateway.Proofs.Plant.Alone
import FieldGateway.Proofs.Session.Write

/-!
# Commands that are tried again

A command that a device refuses is begun again. A value that is read or written is read or written
once, but to switch a relay takes two stages: its operation is enabled, and then it is operated.
Where the first stage was carried out before, it does nothing.

* `Session.mirrors_read`, `Session.mirrors_write`: requests over a session.
* `Light.prepare_again`: the first stage of switching a relay is not carried out twice.
* `Point.mirrors_read_retried`, `Point.mirrors_write_retried`, `Light.mirrors_switch_retried`,
  `Light.mirrors_status`: the commands, tried again as often as need be.
-/

namespace FieldGateway

variable {clock clock' : Nat → Int64}

/-! ## Requests over a session -/

/-- What is told a device's fault, or the same as in the shadow. -/
theorem Settles.of_fault {β : Type} {x y : Except Fault β × Plant}
    (h : (∃ f, x.1 = .error f) ∨ x.1 = y.1 ∧ x.2.Shadows y.2) :
    Settles Eq (x.1.mapError Fault.raise, x.2) (y.1.mapError Fault.raise, y.2) := by
  obtain ⟨x, p⟩ := x
  obtain ⟨y, q⟩ := y
  cases x with
  | error f => exact .of_failure rfl (by cases f <;> rfl)
  | ok b =>
    rcases h with ⟨f, h⟩ | ⟨rfl, hshadows⟩
    · cases h
    · exact ⟨b, rfl, rfl, hshadows⟩

namespace Session

variable (s : Session) (a : Address)

theorem within_idle_read : Course.Within Action.IsIdle (s.read a).run := by
  refine Attempt.within_bind (within_ensureOpen_of trivial) fun _ => ?_
  refine Attempt.within_bind (Attempt.within_ofMisfit _) fun node => ?_
  refine Attempt.within_bind (Attempt.within_lift (Course.within_query trivial)) fun latency => ?_
  refine Attempt.within_bind (Attempt.within_lift (Course.within_pause _)) fun _ => ?_
  exact Attempt.within_ofFault (Course.within_query trivial)

theorem mirrors_read : Attempt.Mirrors clock clock' Eq (s.read a) (s.read a) := by
  refine .bind (.of_steady (within_ensureOpen_of trivial)) fun _ _ _ => ?_
  refine .bind (.of_steady (Attempt.within_ofMisfit _)) fun node _ hnode => ?_
  subst hnode
  refine .bind (.of_steady (Attempt.within_lift (Course.within_query trivial)))
    fun latency _ hlatency => ?_
  subst hlatency
  refine .bind (.of_steady (Attempt.within_lift (Course.within_pause _))) fun _ _ _ => ?_
  intro p q h
  exact .of_fault ((h.showing clock clock').read s.link _ _)

variable (path : String) (value : Value)

theorem mirrors_write :
    Attempt.Mirrors clock clock' Eq (s.write a path value) (s.write a path value) := by
  refine .bind (.of_steady (within_ensureOpen_of trivial)) fun _ _ _ => ?_
  refine .bind (.of_steady (Attempt.within_ofMisfit _)) fun node _ hnode => ?_
  subst hnode
  intro p q h
  exact .of_fault ((h.showing clock clock').write s.link _)

theorem isAtomic_write : Attempt.IsAtomic clock (s.write a path value) := by
  refine .bind (within_ensureOpen_of trivial) fun _ => ?_
  refine .bind (Attempt.within_ofMisfit _) fun node => ?_
  intro p e he
  refine .trans ?_ (Plant.alike_showing clock p)
  cases hx : ((p.showing clock).perform (.write s.link (node.set path value))).1 with
  | ok u =>
    have he : (((p.showing clock).perform (.write s.link (node.set path value))).1.mapError
      Fault.raise) = .error e := he
    rw [hx] at he
    cases he
  | error f => exact Plant.alike_write hx

end Session

/-! ## Values -/

/-- Measurements that agree, apart from the times at which they were taken where the device does not
tell. -/
def Measurement.Agrees (clock clock' : Nat → Int64) (m m' : Measurement) : Prop :=
  m' = { m with time := m'.time } ∧
    (m'.time = m.time ∨ (∃ n, m.time = clock n) ∧ ∃ n, m'.time = clock' n)

/-- The clock is read at some moment. -/
theorem mirrors_now : Attempt.Mirrors clock clock'
    (fun now now' => (∃ n, now = clock n) ∧ ∃ n, now' = clock' n)
    (liftM Action.now.perform) (liftM Action.now.perform) :=
  fun p q h => ⟨clock' q.time, rfl, ⟨⟨p.time, rfl⟩, q.time, rfl⟩, h.showing clock clock'⟩

namespace Point

variable (p : Point) (s : Session) (device : LogicalDevice) (id : UInt8)

theorem mirrors_measure {now now' : Int64} (hnow : ∃ n, now = clock n)
    (hnow' : ∃ n, now' = clock' n)
    (node : Node) : Attempt.Mirrors clock clock' (Measurement.Agrees clock clock')
      (Attempt.ofExcept (p.measure now node)) (Attempt.ofExcept (p.measure now' node)) := by
  unfold measure
  cases (node.get? p.path).bind Value.float? with
  | none => exact fun _ _ _ => .of_failure rfl rfl
  | some value =>
    refine .pure ⟨rfl, ?_⟩
    dsimp only [time]
    cases (node.get? "t").bind Value.timestamp? with
    | none => exact .inr ⟨hnow, hnow'⟩
    | some t => exact .inl rfl

theorem mirrors_read : Attempt.Mirrors clock clock' (Measurement.Agrees clock clock')
    (p.read s device id) (p.read s device id) := by
  refine .bind (s.mirrors_read _) fun node _ hnode => ?_
  subst hnode
  exact .bind mirrors_now fun now now' hnow => p.mirrors_measure hnow.1 hnow.2 node

theorem within_idle_read : Course.Within Action.IsIdle (p.read s device id).run := by
  refine Attempt.within_bind (s.within_idle_read _) fun node => ?_
  refine Attempt.within_bind (Attempt.within_lift (Course.within_query trivial)) fun now => ?_
  exact Attempt.within_ofExcept _

theorem mirrors_read_retried (policy : Policy) :
    Attempt.Mirrors clock clock' (Measurement.Agrees clock clock')
      (Attempt.retried policy (p.read s device id)) (Attempt.retried policy (p.read s device id)) :=
  ((p.mirrors_read s device id).persists
    (.of_idle (p.within_idle_read s device id))).mirrors_retried policy

theorem mirrors_write_retried (policy : Policy) (value : Float) :
    Attempt.Mirrors clock clock' Eq (Attempt.retried policy (p.write s device id value))
      (Attempt.retried policy (p.write s device id value)) := by
  refine Attempt.Persists.mirrors_retried (Attempt.Mirrors.persists ?_ ?_) policy
  all_goals
    unfold write
    split
  · exact s.mirrors_write _ _ _
  · exact .of_steady (Attempt.within_throw _)
  · exact s.isAtomic_write _ _ _
  · exact .of_idle (Attempt.within_throw _)

end Point

/-! ## Light -/

namespace Session

/-- What the device tells over the session of the node of an address, if no fault waits. -/
def Shows (s : Session) (a : Address) (p : Plant) (node : Node) : Prop :=
  ∃ place host d, s.locate a = .ok place ∧ p.far s.link = .ok (host, d) ∧
    d.model.findNode? place.reference place.constraint = some node

variable {s : Session} {a : Address} {p q : Plant} {node node' : Node}

theorem Shows.eq (h : s.Shows a p node) (h' : s.Shows a p node') : node = node' := by
  obtain ⟨place, host, d, hplace, hfar, hnode⟩ := h
  obtain ⟨place', host', d', hplace', hfar', hnode'⟩ := h'
  rw [hplace] at hplace'
  obtain rfl := Except.ok.inj hplace'
  rw [hfar] at hfar'
  obtain ⟨rfl, rfl⟩ := Prod.mk.inj (Except.ok.inj hfar')
  exact Option.some.inj (hnode.symm.trans hnode')

theorem Shows.of_alike (h : s.Shows a p node) (halike : p.Alike q) : s.Shows a q node := by
  obtain ⟨place, host, d, hplace, hfar, hnode⟩ := h
  rcases halike.far s.link with ⟨f, hp, -⟩ | ⟨host', d₁, d₂, hp, hq, hcore⟩
  · rw [hp] at hfar
    cases hfar
  · rw [hp] at hfar
    obtain ⟨rfl, rfl⟩ := Prod.mk.inj (Except.ok.inj hfar)
    have hmodel : d₁.core.model = d₂.core.model := by rw [hcore]
    have hmodel : d₁.model = d₂.model := hmodel
    exact ⟨place, host', d₂, hplace, hq, by rw [← hmodel, hnode]⟩

theorem shows_of_answer {place : Node} (hplace : s.locate a = .ok place)
    (h : (p.perform (.read s.link place.reference place.constraint)).1 = .ok node) :
    s.Shows a p node := by
  have hask : p.ask s.link (fun d => d.read place.reference place.constraint) =
    (.ok node, (p.perform (.read s.link place.reference place.constraint)).2) := Prod.ext h rfl
  obtain ⟨host, d, d', hfar, hd, -⟩ := Plant.ask_ok hask
  refine ⟨place, host, d, hplace, hfar, ?_⟩
  unfold Ied.read at hd
  split at hd
  · cases hd
  · split at hd
    · cases hd
    · next hnode =>
      cases hd
      exact hnode

theorem runBy_ensureOpen (s : Session) (p : Plant) :
    (p.runBy clock s.ensureOpen.run).1 =
      if p.isOpen s.link then .ok () else .error (.connection (.sessionClosed s.deviceId)) := by
  unfold ensureOpen
  rw [Plant.runBy_liftThen]
  have hopen : (p.runBy clock (Action.isOpen s.link).perform).1 = p.isOpen s.link := rfl
  rw [hopen]
  split <;> rfl

/-- What is read is what the device shows, and it does not fit only where the model of the session
has no such node. -/
theorem cases_read (s : Session) (a : Address) (clock : Nat → Int64) (p : Plant) :
    (∃ node, (p.runBy clock (s.read a).run).1 = .ok node ∧ s.Shows a p node) ∨
      ∃ e, (p.runBy clock (s.read a).run).1 = .error e ∧
        (e.isMisfit = true → ∃ m, s.locate a = .error m) := by
  rcases Plant.cases_andThen (within_ensureOpen_of trivial) _ p with
    ⟨e, he, hrun⟩ | ⟨_, p₁, -, h₁, hrun⟩
  · refine .inr ⟨e, hrun, fun hmisfit => ?_⟩
    rw [runBy_ensureOpen] at he
    split at he
    · cases he
    · cases he
      cases hmisfit
  rcases Plant.cases_andThen (Attempt.within_ofMisfit (s.locate a)) _ p₁ with
    ⟨e, he, hrun₁⟩ | ⟨place, p₂, hplace, h₂, hrun₁⟩
  · refine .inr ⟨e, (congrArg Prod.fst hrun).trans hrun₁, fun _ => ?_⟩
    cases hlocate : s.locate a with
    | ok place =>
      rw [hlocate] at he
      cases he
    | error m => exact ⟨m, rfl⟩
  have hlocate : s.locate a = .ok place := by
    cases hlocate : s.locate a with
    | ok place' =>
      rw [hlocate] at hplace
      exact congrArg Except.ok (Except.ok.inj hplace)
    | error m =>
      rw [hlocate] at hplace
      cases hplace
  obtain ⟨q, hq, hrun₂⟩ : ∃ q : Plant, q.Alike p ∧ (p.runBy clock (s.read a).run).1 =
      (q.perform (.read s.link place.reference place.constraint)).1.mapError Fault.raise := by
    let told := p₂.runBy clock (Action.latency .reading).perform
    have hidle : (Action.latency .reading).IsIdle := trivial
    have hlatency : told.2.Alike p₂ := Plant.alike_runBy (Course.within_query hidle) clock p₂
    have hpause := Plant.alike_runBy (Course.within_pause told.1) clock told.2
    refine ⟨(told.2.runBy clock (Course.pause told.1)).2.showing clock, ?_, ?_⟩
    · exact (((Plant.alike_showing clock _).trans hpause).trans hlatency).trans (h₂.trans h₁)
    · exact congrArg Prod.fst ((hrun.trans hrun₁).trans
        ((Plant.runBy_liftThen _ _ p₂).trans (Plant.runBy_liftThen _ _ _)))
  cases hanswer : (q.perform (.read s.link place.reference place.constraint)).1 with
  | ok node =>
    rw [hanswer] at hrun₂
    exact .inl ⟨node, hrun₂, (shows_of_answer hlocate hanswer).of_alike hq⟩
  | error f =>
    rw [hanswer] at hrun₂
    exact .inr ⟨_, hrun₂, fun hmisfit => by cases f <;> cases hmisfit⟩

theorem far_modifyIed {link : Nat} {host : String} {d : Ied} {f : Ied → Ied}
    (h : p.far link = .ok (host, d)) : (p.modifyIed host f).far link = .ok (host, f d) := by
  have hfind := Plant.find?_far h
  unfold Plant.far at h ⊢
  rw [Plant.links_modifyIed]
  cases hl : p.links[link]? with
  | none => simp [hl] at h
  | some l =>
    simp only [hl] at h ⊢
    split at h
    · cases h
    · next hreleased =>
      rw [if_neg hreleased]
      split at h
      · cases h
      · cases h
        rw [Plant.find?_modifyIed, if_pos rfl, hfind]
        rfl

theorem write_of_answer {link : Nat} {node : Node}
    (h : (p.perform (.write link node)).1 = .ok ()) :
    ∃ host d d', p.far link = .ok (host, d) ∧
      (d.model.findNode? node.reference node.constraint).isSome ∧
      (p.perform (.write link node)).2.far link = .ok (host, d') ∧
      d'.model = Ied.written d.model node := by
  have hask : p.ask link (fun d => d.write node) = (.ok (), (p.perform (.write link node)).2) :=
    Prod.ext h rfl
  obtain ⟨host, d, d', hfar, hd, hq⟩ := Plant.ask_ok hask
  refine ⟨host, d, d', hfar, ?_⟩
  rw [hq, far_modifyIed hfar]
  unfold Ied.write at hd
  split at hd
  · cases hd
  · split at hd
    · cases hd
    · next hnode =>
      cases hd
      exact ⟨by rw [hnode]; rfl, rfl, rfl⟩

/-- A write is carried out at the device, or fails; it does not fit only where the model of the
session has no such node. -/
theorem cases_write (s : Session) (a : Address) (path : String) (value : Value)
    (clock : Nat → Int64) (p : Plant) :
    (∃ place host d d', (p.runBy clock (s.write a path value).run).1 = .ok () ∧
      s.locate a = .ok place ∧ p.far s.link = .ok (host, d) ∧
      (d.model.findNode? place.reference place.constraint).isSome ∧
      (p.runBy clock (s.write a path value).run).2.far s.link = .ok (host, d') ∧
      d'.model = Ied.written d.model (place.set path value)) ∨
    ∃ e, (p.runBy clock (s.write a path value).run).1 = .error e ∧
      (e.isMisfit = true → ∃ m, s.locate a = .error m) := by
  rw [run_write]
  simp only [Plant.runBy]
  cases hopen : ((p.showing clock).perform (.isOpen s.link)).1 with
  | false => exact .inr ⟨_, rfl, fun hmisfit => by cases hmisfit⟩
  | true =>
    cases hplace : s.locate a with
    | error m => exact .inr ⟨_, rfl, fun _ => ⟨m, rfl⟩⟩
    | ok place =>
      dsimp only [Plant.runBy]
      have hfar : ((((p.showing clock).perform (.isOpen s.link)).2.showing clock).far s.link) =
        p.far s.link := rfl
      generalize (((p.showing clock).perform (.isOpen s.link)).2.showing clock) = q at hfar ⊢
      cases hanswer : (q.perform (.write s.link (place.set path value))).1 with
      | ok u =>
        obtain ⟨host, d, d', hd, hfind, hd', hmodel⟩ := write_of_answer hanswer
        exact .inl ⟨place, host, d, d', rfl, rfl, hfar.symm.trans hd, hfind, hd', hmodel⟩
      | error f => exact .inr ⟨_, rfl, fun hmisfit => by cases f <;> cases hmisfit⟩

/-- A value that is written is shown. -/
theorem shows_of_write {path : String} {value : Value}
    (h : (p.runBy clock (s.write a path value).run).1 = .ok ()) :
    ∃ node, s.Shows a (p.runBy clock (s.write a path value).run).2 node ∧
      node.get? path = some value := by
  rcases s.cases_write a path value clock p with
    ⟨place, host, d, d', -, hplace, -, hfind, hfar', hmodel⟩ | ⟨e, he, -⟩
  · have hshown : (Ied.written d.model (place.set path value)).value? place.reference
        place.constraint path = some value := by
      refine (Ied.value?_written_self (place.set path value) hfind path).trans ?_
      rw [Node.get?_set_self, Option.some_or]
    obtain ⟨node, hnode, hvalue⟩ := Option.bind_eq_some_iff.1 hshown
    exact ⟨node, ⟨place, host, d', hplace, hfar', by rw [hmodel, hnode]⟩, hvalue⟩
  · rw [h] at he
    cases he

end Session

namespace Light

variable (s : Session) (relay : UInt8) (on : Bool)

/-- Where it is found whether a relay may be operated. -/
def permission : Address := switchAddress relay .masterControl .configuration

/-- The first stage of switching a relay: its operation is enabled, if it is not. -/
def prepare : Attempt Unit := do
  let node ← s.read (permission relay)
  unless mayOperate node do
    s.write (permission relay) "enbOper" (.bool true)

/-- The second stage. -/
def operate : Attempt Unit := do
  let _ ← s.read (switchAddress relay .position .control)
  s.write (switchAddress relay .position .control) "Oper.ctlVal" (.bool on)

theorem switch_eq : switch s relay on = (prepare s relay >>= fun _ => operate s relay on) := by
  unfold switch prepare operate
  rw [bind_assoc]
  refine congrArg (s.read (permission relay) >>= ·) (funext fun node => ?_)
  dsimp only
  split
  · rfl
  · rfl

theorem mirrors_prepare :
    Attempt.Mirrors clock clock' Eq (prepare s relay) (prepare s relay) := by
  refine .bind (s.mirrors_read _) fun node _ hnode => ?_
  subst hnode
  split
  · exact .pure rfl
  · exact s.mirrors_write _ _ _

theorem isAtomic_prepare : Attempt.IsAtomic clock (prepare s relay) := by
  refine .bind (s.within_idle_read _) fun node => ?_
  split
  · exact .of_idle (Attempt.within_pure ())
  · exact s.isAtomic_write _ _ _

theorem mirrors_operate :
    Attempt.Mirrors clock clock' Eq (operate s relay on) (operate s relay on) :=
  .bind (s.mirrors_read _) fun _ _ _ => s.mirrors_write _ _ _

theorem isAtomic_operate : Attempt.IsAtomic clock (operate s relay on) :=
  .bind (s.within_idle_read _) fun _ => s.isAtomic_write _ _ _

/-- After the first stage the device shows that the relay may be operated. -/
theorem shows_of_prepare {q : Plant} (h : (q.runBy clock (prepare s relay).run).1 = .ok ()) :
    ∃ node, s.Shows (permission relay) (q.runBy clock (prepare s relay).run).2 node ∧
      mayOperate node = true := by
  unfold prepare at h ⊢
  have halike := Plant.alike_runBy (s.within_idle_read (permission relay)) clock q
  rcases s.cases_read (permission relay) clock q with ⟨node, hread, hshows⟩ | ⟨e, hread, -⟩
  · rw [Plant.runBy_andThen, hread] at h ⊢
    dsimp only at h ⊢
    cases hmay : mayOperate node with
    | true =>
      simp only [if_true]
      exact ⟨node, hshows.of_alike halike.symm, hmay⟩
    | false =>
      simp only [hmay, Bool.false_eq_true, if_false] at h ⊢
      obtain ⟨node', hshows', hvalue⟩ := Session.shows_of_write h
      exact ⟨node', hshows', by simp [mayOperate, hvalue, Value.bool?]⟩
  · rw [Plant.runBy_andThen, hread] at h
    cases h

/-- The first stage is not carried out again. -/
theorem prepare_again {p q : Plant} (hok : (q.runBy clock' (prepare s relay).run).1 = .ok ())
    (hshadows : p.Shadows (q.runBy clock' (prepare s relay).run).2) :
    (p.runBy clock (prepare s relay).run).2.Alike p ∧
      ∀ e, (p.runBy clock (prepare s relay).run).1 = .error e → e.isMisfit = false := by
  obtain ⟨node, hshows, hmay⟩ := shows_of_prepare s relay hok
  have hshows := hshows.of_alike hshadows.symm
  have halike := Plant.alike_runBy (s.within_idle_read (permission relay)) clock p
  unfold prepare
  rcases s.cases_read (permission relay) clock p with
    ⟨node', hread, hshows'⟩ | ⟨e, hread, hmisfit⟩
  · obtain rfl := hshows.eq hshows'
    rw [Plant.runBy_andThen, hread]
    simp only [hmay, if_true]
    exact ⟨halike, fun e he => by cases he⟩
  · rw [Plant.runBy_andThen, hread]
    refine ⟨halike, fun e' he => ?_⟩
    obtain rfl := Except.error.inj he
    refine Bool.eq_false_iff.2 fun he => ?_
    obtain ⟨m, hm⟩ := hmisfit he
    obtain ⟨place, host, d, hplace, -⟩ := hshows
    rw [hm] at hplace
    cases hplace

theorem mirrors_switch_retried (policy : Policy) :
    Attempt.Mirrors clock clock' Eq (Attempt.retried policy (switch s relay on))
      (Attempt.retried policy (switch s relay on)) := by
  rw [switch_eq]
  refine Attempt.Persists.mirrors_retried
    (Attempt.Mirrors.persists_twoStage (mirrors_prepare s relay)
    (mirrors_operate s relay on) (isAtomic_prepare s relay) (isAtomic_operate s relay on)
    fun p q _ hok hshadows => prepare_again s relay hok hshadows) policy

theorem mirrors_setAll (policy : Policy) (d : Device) (vs : List LightValue) :
    Attempt.Mirrors clock clock' Eq (setAll policy s d vs) (setAll policy s d vs) := by
  refine .forM (fun v => ?_) vs
  refine .bind (.of_steady (Attempt.within_ofMisfit _)) fun rs _ hrs => ?_
  subst hrs
  exact .forM (fun relay => mirrors_switch_retried s relay v.on policy) rs

theorem mirrors_readOutput (o : OutputSetting) :
    Attempt.Mirrors clock clock' Eq (readOutput s o) (readOutput s o) := by
  refine .bind (s.mirrors_read _) fun node _ hnode => ?_
  subst hnode
  refine .bind (.of_steady (Attempt.within_ofExcept _)) fun b _ hb => ?_
  subst hb
  exact .pure rfl

theorem mirrors_readStatus (d : Device) :
    Attempt.Mirrors clock clock' Eq (readStatus s d) (readStatus s d) := by
  refine .bind (.mapM_eq (mirrors_readOutput s) d.outputs) fun lights _ hlights => ?_
  subst hlights
  refine .bind (s.mirrors_read _) fun events _ hevents => ?_
  subst hevents
  refine .bind (s.mirrors_read _) fun software _ hsoftware => ?_
  subst hsoftware
  exact .pure rfl

theorem within_idle_readStatus (d : Device) : Course.Within Action.IsIdle (readStatus s d).run := by
  refine Attempt.within_bind (Attempt.within_mapM (fun o => ?_) _) fun lights => ?_
  · refine Attempt.within_bind (s.within_idle_read _) fun node => ?_
    exact Attempt.within_bind (Attempt.within_ofExcept _) fun on => Attempt.within_pure _
  · refine Attempt.within_bind (s.within_idle_read _) fun events => ?_
    exact Attempt.within_bind (s.within_idle_read _) fun software => Attempt.within_pure _

theorem mirrors_status (policy : Policy) (d : Device) :
    Attempt.Mirrors clock clock' Eq (status policy s d) (status policy s d) :=
  ((mirrors_readStatus s d).persists (.of_idle (within_idle_readStatus s d))).mirrors_retried policy

end Light

end FieldGateway
