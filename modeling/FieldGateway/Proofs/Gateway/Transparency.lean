import FieldGateway.Proofs.Gateway.Mirrors

/-!
# Faults that leave no trace

A device may answer reads and writes with faults, and what it refuses is tried again. If a request
succeeds all the same, it has come to what it would have come to without the faults: the same
outcome, but for the times at which values were taken, the same model and the same writes at every
device.

* `Gateway.mirrors_carryOut`: every operation comes to the same in plants that are alike.
* `Gateway.retries_transparent`: requests leave no trace of the faults.
-/

namespace FieldGateway

variable {α β : Type} {clock clock' : Nat → Int64}

/-! ## Payloads -/

/-- Values of a system that agree. -/
def SystemMeasurements.Agrees (clock clock' : Nat → Int64) (s t : SystemMeasurements) : Prop :=
  t.id = s.id ∧ t.family = s.family ∧
    List.Forall₂ (Measurement.Agrees clock clock') s.measurements t.measurements

/-- Payloads that agree apart from the times at which values were taken. -/
def Payload.Agrees (clock clock' : Nat → Int64) : Payload → Payload → Prop
  | .data systems skipped, .data systems' skipped' =>
    List.Forall₂ (SystemMeasurements.Agrees clock clock') systems systems' ∧ skipped' = skipped
  | payload, payload' => payload' = payload

theorem Payload.Agrees.refl (payload : Payload) : payload.Agrees clock clock' payload := by
  cases payload with
  | data systems skipped =>
    refine ⟨List.forall₂_same.2 fun s _ => ⟨rfl, rfl, ?_⟩, rfl⟩
    exact List.forall₂_same.2 fun m _ => ⟨rfl, .inl rfl⟩
  | empty => rfl
  | status status => rfl

namespace Gateway

/-- Results of which one was passed over if the other one was. -/
def PassedAlike (R : α → β → Prop) : Except String α → Except String β → Prop
  | .ok a, .ok b => R a b
  | .error entry, .error entry' => entry = entry'
  | _, _ => False

theorem runBy_passOver (entry : String) (v : Attempt α) (p : Plant) :
    p.runBy clock (passOver entry v).run =
      match (p.runBy clock v.run).1 with
      | .ok a => (.ok (.ok a), (p.runBy clock v.run).2)
      | .error e =>
        if e.isMisfit then
          (.ok (.error entry),
            ((p.runBy clock v.run).2.runBy clock (Action.count .filtersSkipped 1).perform).2)
        else (.error e, (p.runBy clock v.run).2) := by
  unfold passOver
  rw [ExceptT.run_mk, Plant.runBy_bind]
  cases (p.runBy clock v.run).1 with
  | ok a => rfl
  | error e =>
    dsimp only
    split <;> rfl

theorem mirrors_passOver {R : α → β → Prop} {v : Attempt α} {w : Attempt β}
    (h : Attempt.Mirrors clock clock' R v w) (entry : String) :
    Attempt.Mirrors clock clock' (PassedAlike R) (passOver entry v) (passOver entry w) := by
  intro p q hshadows
  have hsettles := h p q hshadows
  rw [runBy_passOver, runBy_passOver]
  unfold Settles at hsettles
  cases hx : (p.runBy clock v.run).1 with
  | ok a =>
    rw [hx] at hsettles
    obtain ⟨b, hb, hR, hsettled⟩ := hsettles
    rw [hb]
    exact ⟨.ok b, rfl, hR, hsettled⟩
  | error e =>
    rw [hx] at hsettles
    cases he : e.isMisfit with
    | true =>
      obtain ⟨hb, hsettled⟩ := hsettles he
      have hsteady : (Action.count .filtersSkipped 1).perform.Within Action.IsSteady :=
        Course.within_query trivial
      rw [hb]
      simp only [he, if_true]
      exact ⟨.error entry, rfl, rfl, (hsettled.runBy hsteady clock clock').2⟩
    | false =>
      simp only [he, Bool.false_eq_true, if_false]
      exact .of_failure rfl he

theorem kept_passedAlike {R : α → β → Prop} {rs : List (Except String α)}
    {rs' : List (Except String β)} (h : List.Forall₂ (PassedAlike R) rs rs') :
    List.Forall₂ R (kept rs) (kept rs') ∧ skipped rs' = skipped rs := by
  induction h with
  | nil => exact ⟨.nil, rfl⟩
  | @cons x y rs rs' hxy _ ih =>
    obtain ⟨hkept, hskipped⟩ := ih
    cases x with
    | ok a =>
      cases y with
      | ok b => exact ⟨.cons hxy hkept, hskipped⟩
      | error entry => exact hxy.elim
    | error entry =>
      cases y with
      | ok b => exact hxy.elim
      | error entry' =>
        obtain rfl : entry = entry' := hxy
        exact ⟨hkept, congrArg (entry :: ·) hskipped⟩

/-! ## Operations -/

variable (g : Gateway) (s : Session)

theorem mirrors_readFilter (family : Family) (id : UInt8) (f : Filter) :
    Attempt.Mirrors clock clock' (PassedAlike (Measurement.Agrees clock clock'))
      (g.readFilter s family id f) (g.readFilter s family id f) := by
  refine mirrors_passOver ?_ _
  refine .bind (.of_steady (Attempt.within_ofMisfit _)) fun point _ hpoint => ?_
  subst hpoint
  exact point.mirrors_read_retried s _ id g.policy

theorem mirrors_writePoint (family : Family) (id : UInt8) (setPoint : SetPoint) :
    Attempt.Mirrors clock clock' (PassedAlike Eq)
      (g.writePoint s family id setPoint) (g.writePoint s family id setPoint) := by
  refine mirrors_passOver ?_ _
  refine .bind (.of_steady (Attempt.within_ofMisfit _)) fun point _ hpoint => ?_
  subst hpoint
  exact point.mirrors_write_retried s _ id g.policy setPoint.value

theorem mirrors_readSystem (q : SystemQuery) :
    Attempt.Mirrors clock clock'
      (fun x y => x.1.Agrees clock clock' y.1 ∧ y.2 = x.2)
      (g.readSystem s q) (g.readSystem s q) := by
  refine .bind (.mapM (g.mirrors_readFilter s q.family q.id) q.filters) fun rs rs' h => ?_
  obtain ⟨hkept, hskipped⟩ := kept_passedAlike h
  exact .pure ⟨⟨rfl, rfl, hkept⟩, hskipped⟩

theorem mirrors_getData (qs : List SystemQuery) :
    Attempt.Mirrors clock clock' (Payload.Agrees clock clock') (g.getData s qs)
      (g.getData s qs) := by
  refine .bind (.mapM (g.mirrors_readSystem s) qs) fun xs ys h => .pure ?_
  induction h with
  | nil => exact ⟨.nil, rfl⟩
  | @cons x y xs ys hxy _ ih =>
    obtain ⟨hsystems, hskipped⟩ := ih
    refine ⟨.cons hxy.1 hsystems, ?_⟩
    simp only [List.flatMap_cons, hxy.2, hskipped]

theorem mirrors_setData (qs : List SystemSetting) :
    Attempt.Mirrors clock clock' (Payload.Agrees clock clock') (g.setData s qs)
      (g.setData s qs) := by
  refine .bind (.mapM_eq (fun q => ?_) qs) fun rs _ hrs => ?_
  · refine .bind (.mapM (g.mirrors_writePoint s q.family q.id) q.setPoints) fun rs rs' h => ?_
    exact .pure (kept_passedAlike h).2.symm
  · subst hrs
    exact .pure (.refl _)

theorem within_steady_collectEvents : Course.Within Action.IsSteady (g.collectEvents s).run := by
  have enables : ∀ reference, Course.Within Action.IsSteady (s.enable reference).run := by
    intro reference
    refine Attempt.within_bind (Session.within_ensureOpen_of trivial) fun _ => ?_
    split
    · exact Attempt.within_throw _
    · exact Attempt.within_ofFault (Course.within_query trivial)
  refine Attempt.within_bind (Attempt.within_ofMisfit _) fun reference => ?_
  refine Attempt.within_bind (Attempt.within_lift (Course.within_query trivial)) fun _ => ?_
  refine Attempt.within_bind
    (Attempt.within_retried (fun _ _ => trivial) _ (enables reference)) fun block => ?_
  refine Attempt.within_bind (Attempt.within_lift (Course.within_query trivial)) fun _ => ?_
  exact Attempt.within_bind (Attempt.within_lift (Course.within_query trivial))
    fun _ => Attempt.within_pure _

variable (d : Device)

theorem mirrors_getStatus :
    Attempt.Mirrors clock clock' Eq (g.getStatus s d) (g.getStatus s d) := by
  refine .bind (.of_steady (Attempt.within_ofMisfit _)) fun _ _ _ => ?_
  refine .bind (Light.mirrors_status s g.policy d) fun status _ hstatus => ?_
  subst hstatus
  refine .of_steady (Attempt.within_bind
    (Attempt.within_lift (g.within_steady_collectEvents s)) fun x => ?_)
  split <;> exact Attempt.within_pure _

/-- Every operation comes to the same in plants that are alike. -/
theorem mirrors_carryOut (operation : Operation) :
    Attempt.Mirrors clock clock' (fun x y => x.1.Agrees clock clock' y.1 ∧ y.2 = x.2)
      (g.carryOut s d operation) (g.carryOut s d operation) := by
  cases operation with
  | getData systems =>
    exact .bind (g.mirrors_getData s systems) fun _ _ h => .pure ⟨h, rfl⟩
  | setData systems =>
    exact .bind (g.mirrors_setData s systems) fun _ _ h => .pure ⟨h, rfl⟩
  | setLight values =>
    refine .bind (.of_steady (Attempt.within_ofMisfit _)) fun _ _ _ => ?_
    exact .bind (Light.mirrors_setAll s g.policy d values) fun _ _ _ => .pure ⟨rfl, rfl⟩
  | getStatus =>
    refine (g.mirrors_getStatus s d).mono fun x y hxy => ?_
    subst hxy
    exact ⟨.refl _, rfl⟩
  | enableReporting =>
    refine Attempt.Mirrors.mono (.of_steady ?_) fun x y hxy => ?_
    · simp only [carryOut]
      split
      · exact Attempt.within_bind (g.within_steady_collectEvents s) fun _ => Attempt.within_pure _
      · exact Attempt.within_pure _
    · subst hxy
      exact ⟨.refl _, rfl⟩

theorem mirrors_conclude {x y : Payload × Ending} (hpayload : x.1.Agrees clock clock' y.1)
    (hending : y.2 = x.2) : Attempt.Mirrors clock clock' (Payload.Agrees clock clock')
      (g.conclude s d (.ok x)) (g.conclude s d (.ok y)) := by
  obtain ⟨payload, ending⟩ := x
  obtain ⟨payload', ending'⟩ := y
  obtain rfl : ending' = ending := hending
  cases ending' with
  | scheduled => exact .pure hpayload
  | «open» =>
    have hfinish : (g.finish s d).Within Action.IsSteady :=
      (g.within_closing_finish s d).mono fun a ha => by cases a <;> trivial
    exact .bind (.of_steady (Attempt.within_lift hfinish)) fun _ _ _ => .pure hpayload

theorem mirrors_run (r : Request) :
    Attempt.Mirrors clock clock' (Payload.Agrees clock clock') (g.run r) (g.run r) := by
  refine .bind (.of_steady (within_findDevice trivial)) fun d _ hd => ?_
  subst hd
  refine .bind (.of_steady ?_) fun s _ hs => ?_
  · refine (Session.within_opens_connect _ _ _).mono fun a ha => ?_
    cases a <;> first | trivial | exact ha.1.elim
  subst hs
  refine .result (g.mirrors_carryOut s d r.operation)
    (fun x y hxy => g.mirrors_conclude s d hxy.1 hxy.2) (fun e => ?_) fun e p => ?_
  · refine Attempt.Mirrors.mono (.of_steady ?_) fun x y hxy => hxy ▸ .refl x
    exact (g.within_closing_conclude s d _).mono fun a ha => by cases a <;> trivial
  · exact congrArg Prod.fst (Plant.runBy_liftThen _ _ p)

end Gateway

/-! ## Requests -/

/-- The model of the device at an address, and the nodes that were written to it. -/
def Plant.record? (p : Plant) (host : String) : Option (ServerModel × List Node) :=
  (p.network.find? host).map fun d => (d.model, d.activity.writes)

theorem Plant.Alike.record? {p q : Plant} (h : p.Alike q) (host : String) :
    p.record? host = q.record? host := by
  have hrecord := congrArg (Option.map fun d : Ied => (d.model, d.activity.writes)) (h.devices host)
  rw [Option.map_map, Option.map_map] at hrecord
  exact hrecord

namespace Gateway

variable {g : Gateway} {r : Request} {p : Plant}

theorem runBy_handle (g : Gateway) (r : Request) (clock : Nat → Int64) (p : Plant) :
    ∃ q : Plant, q.Alike (p.runBy clock (g.run r).run).2 ∧
      p.runBy clock (g.handle r) = (r.respond (outcome (p.runBy clock (g.run r).run).1), q) := by
  unfold handle
  rw [Plant.runBy_bind, Plant.runBy_bind]
  refine ⟨_, Plant.alike_runBy ?_ clock _, rfl⟩
  refine Course.Within.bind (Course.within_query trivial) fun refused => ?_
  cases refused with
  | none => exact Course.within_query trivial
  | some _ => exact Course.within_pure _

/-- A request that is handled alone, with whatever faults waiting at the devices for reads and
writes, leaves no trace of them if it succeeds. Without them it succeeds as well; the payloads agree
but for the times at which values were taken. All devices have the same model, and were written the
same nodes in the same order; the same jobs were started, and so it stays when a job ends the
session. -/
theorem retries_transparent (clock' : Nat → Int64)
    (hs : (p.runBy clock (g.handle r)).1.outcome.isSuccess = true) :
    (∃ payload payload', (p.runBy clock (g.handle r)).1 = r.respond (.success payload) ∧
      (p.calm.runBy clock' (g.handle r)).1 = r.respond (.success payload') ∧
      payload.Agrees clock clock' payload') ∧
    (∀ host, (p.runBy clock (g.handle r)).2.record? host =
      (p.calm.runBy clock' (g.handle r)).2.record? host) ∧
    (p.runBy clock (g.handle r)).2.jobs = (p.calm.runBy clock' (g.handle r)).2.jobs ∧
    ∀ (s : Session) (delay : Nat) (report : Option String) host,
      ((p.runBy clock (g.handle r)).2.runBy clock (s.disconnectLater delay report)).2.record? host =
        ((p.calm.runBy clock' (g.handle r)).2.runBy clock'
          (s.disconnectLater delay report)).2.record? host := by
  have hsettles : Settles _ (p.runBy clock (g.run r).run) (p.calm.runBy clock' (g.run r).run) :=
    g.mirrors_run r p p.calm p.shadows_calm
  obtain ⟨q, hq, hrun⟩ := runBy_handle g r clock p
  obtain ⟨q', hq', hrun'⟩ := runBy_handle g r clock' p.calm
  rw [hrun] at hs ⊢
  rw [hrun']
  unfold Settles at hsettles
  cases hx : (p.runBy clock (g.run r).run).1 with
  | error e =>
    rw [hx] at hs
    exact absurd (hs.symm.trans (isSuccess_outcome_error e)) (by simp)
  | ok payload =>
    rw [hx] at hsettles
    obtain ⟨payload', hpayload', hagrees, hshadows⟩ := hsettles
    rw [hpayload']
    have hcalm : (p.calm.runBy clock' (g.handle r)).2.IsCalm := p.shadows_calm.calm.runBy _
    rw [hrun'] at hcalm
    have hshadows' : q.Shadows q' := hshadows.congr hq hq' hcalm
    refine ⟨⟨payload, payload', rfl, rfl, hagrees⟩, hshadows'.record?,
      hshadows'.toAlike.congr fun p => p.jobs, fun s delay report host => ?_⟩
    have hends : (s.disconnectLater delay report).Within Action.IsSteady :=
      (Session.within_ending_disconnectLater delay report).mono fun a ha => by cases a <;> trivial
    exact (hshadows'.runBy hends clock clock').2.record? host

end Gateway

/-- A controller of one light, which refuses a read and a write. -/
def Plant.refusing : Plant :=
  let d : Device :=
    ⟨⟨"SSLD-1", "10.0.0.1", .streetlightController, none⟩, [⟨1, 1, .light⟩], false, []⟩
  let permission : Node :=
    .ofList "SWDeviceGenericIO/XSWC1.CfSt" .configuration [("enbOper", .bool false)]
  let control : Node :=
    .ofList "SWDeviceGenericIO/XSWC1.Pos" .control [("Oper.ctlVal", .bool false)]
  let ied : Ied := .ofModel ⟨[permission, control], [], []⟩
  let refusing := (ied.failReads 1 (.service "busy")).failWrites 1 (.service "locked")
  Plant.start (.ofList [d]) (Network.empty.insert "10.0.0.1" refusing) 0 ""

def Request.lightUp : Request := ⟨"1", "platform", "SSLD-1", .setLight [⟨1, true⟩]⟩

/-- The clock shows the milliseconds that were waited. -/
def Plant.waited (time : Nat) : Int64 := .ofNat time

theorem Gateway.retries_transparent_refusing :
    (Plant.refusing.runBy Plant.waited (standard.handle .lightUp)).1.outcome.isSuccess = true ∧
    (Plant.refusing.runBy Plant.waited (standard.handle .lightUp)).2.time = 400 ∧
    ((Plant.refusing.runBy Plant.waited (standard.handle .lightUp)).2.record? "10.0.0.1").map
      (·.2.length) = some 2 ∧
    (∃ payload payload', (Plant.refusing.runBy Plant.waited (standard.handle .lightUp)).1 =
        Request.lightUp.respond (.success payload) ∧
      (Plant.refusing.calm.runBy Plant.waited (standard.handle .lightUp)).1 =
        Request.lightUp.respond (.success payload') ∧
      payload.Agrees Plant.waited Plant.waited payload') ∧
    ∀ host, (Plant.refusing.runBy Plant.waited (standard.handle .lightUp)).2.record? host =
      (Plant.refusing.calm.runBy Plant.waited (standard.handle .lightUp)).2.record? host := by
  have hs : (Plant.refusing.runBy Plant.waited
      (standard.handle .lightUp)).1.outcome.isSuccess = true := by decide +kernel
  obtain ⟨hpayload, hrecord, -⟩ := Gateway.retries_transparent Plant.waited hs
  exact ⟨hs, by decide +kernel, by decide +kernel, hpayload, hrecord⟩

end FieldGateway
