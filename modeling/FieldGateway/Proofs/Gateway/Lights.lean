import FieldGateway.Proofs.Address.Parts
import FieldGateway.Proofs.Gateway.Effects

/-!
# Lights that were set

To set a light goes from its number towards the platform to relays, and from each of them to a
control value that the device mirrors in the status; to tell it goes back from the status. A relay
may be meant by several values of a request, and by several settings of the device: the last value
that means it counts.

* `Light.meets_switch_retried`: what switching a relay makes of the positions.
* `Light.meets_setAll`: what a list of light values makes of them.
* `Light.meets_status`: what is told of them.
* `Gateway.status_after_setting`: a status that follows on light values.
-/

namespace FieldGateway

variable {clock : Nat → Int64} {host : String}

namespace Light

/-! ## Positions -/

/-- The reference of the position of a relay. -/
def positionReference (server : String) (relay : UInt8) : String :=
  server ++ "IO/" ++ Point.switchNode relay ++ ".Pos"

/-- The position of a relay, as a device with the model tells it. -/
def position? (m : ServerModel) (server : String) (relay : UInt8) : Option Bool :=
  (m.value? (positionReference server relay) .status "stVal").bind Value.bool?

theorem isLogicalNode_switchNode (relay : UInt8) :
    Reference.isLogicalNode (Point.switchNode relay) = true := by
  have hmark : ∀ c, c.isDigit = false → c ∉ "XSWC".toList →
      c ∉ (Point.switchNode relay).toList := by
    intro c hc hprefix hmem
    rw [Point.switchNode, String.toList_append] at hmem
    rcases List.mem_append.1 hmem with hmem | hmem
    · exact hprefix hmem
    · rw [Text.isDigit_of_mem_toString hmem] at hc
      cases hc
  refine Reference.isLogicalNode_iff.2 ⟨?_, hmark _ (by decide) (by decide),
    hmark _ (by decide) (by decide)⟩
  rw [Point.switchNode, String.toList_append]
  exact List.cons_ne_nil _ _

/-- The reference of something about a relay. -/
def switchReference (server : String) (relay : UInt8) (attr : Attribute) : String :=
  server ++ "IO/" ++ Point.switchNode relay ++ "." ++ attr.token

theorem resolve_switchAddress (server : String) (relay : UInt8) (attr : Attribute)
    (c : Constraint) : Reference.resolve server (switchAddress relay attr c) =
      .ok (switchReference server relay attr) := by
  have htoken : LogicalDevice.lighting.token.isEmpty = false := by decide +kernel
  refine Reference.resolve_eq_ok.2 ⟨isLogicalNode_switchNode relay, htoken, .inl rfl, ?_⟩
  apply String.toList_inj.1
  simp [switchReference, switchAddress, LogicalDevice.lighting, Address.shownInstance,
    Reference.numeral, String.toList_append]

theorem resolve_position (server : String) (relay : UInt8) (c : Constraint) :
    Reference.resolve server (switchAddress relay .position c) =
      .ok (positionReference server relay) := by
  have hposition : switchReference server relay .position = positionReference server relay :=
    String.append_assoc
  rw [resolve_switchAddress, hposition]

theorem switchNode_inj {i j : UInt8} (h : Point.switchNode i = Point.switchNode j) : i = j := by
  have hdigits : (toString i.toNat).toList = (toString j.toNat).toList := by
    have hlist := congrArg String.toList h
    rw [Point.switchNode, Point.switchNode, String.toList_append, String.toList_append] at hlist
    exact List.append_cancel_left hlist
  have hi := Text.digitsByte?_toString i
  rw [hdigits, Text.digitsByte?_toString] at hi
  exact (Option.some.inj hi).symm

theorem positionReference_inj {server : String} {i j : UInt8}
    (h : positionReference server i = positionReference server j) : i = j := by
  have hplain : LogicalDevice.lighting.IsPlain :=
    LogicalDevice.isPlain_ofFamily .streetlightController
  have hi := resolve_position server i .status
  rw [h] at hi
  obtain ⟨-, -, hnode, -⟩ :=
    Reference.resolve_inj hplain hplain hi (resolve_position server j .status)
  exact switchNode_inj hnode

/-- Where a device tells the position of a relay, it is this one. -/
def Lit (server : String) (f : UInt8 → Option Bool) (m : ServerModel) : Prop :=
  ∀ relay, (m.findNode? (positionReference server relay) .status).isSome →
    position? m server relay = f relay

/-- The positions with some relays switched. -/
def switched (relays : List UInt8) (on : Bool) (f : UInt8 → Option Bool) : UInt8 → Option Bool :=
  fun relay => if relay ∈ relays then some on else f relay

theorem switched_append (relays : List UInt8) (relay : UInt8) (on : Bool)
    (f : UInt8 → Option Bool) :
    switched [relay] on (switched relays on f) = switched (relays ++ [relay]) on f := by
  funext r
  by_cases hr : r = relay <;> by_cases hmem : r ∈ relays <;> simp [switched, hr, hmem]

section
variable {server : String} {f : UInt8 → Option Bool} {m : ServerModel} {node : Node}

/-- A configuration that is written moves no relay. -/
theorem Lit.written_configuration (h : Lit server f m) (hc : node.constraint = .configuration) :
    Lit server f (Ied.written m node) := by
  intro relay hsome
  rw [Ied.isSome_findNode?_written] at hsome
  rw [position?, Ied.value?_written_of_ne (by simp [hc]) (by simp [hc])]
  exact h relay hsome

/-- A control value that is written moves its relay, and no other. -/
theorem Lit.written_control {relay : UInt8} {on : Bool} (h : Lit server f m)
    (hc : node.constraint = .control) (hreference : node.reference = positionReference server relay)
    (hvalue : node.get? "Oper.ctlVal" = some (.bool on)) :
    Lit server (switched [relay] on f) (Ied.written m node) := by
  intro r hsome
  rw [Ied.isSome_findNode?_written] at hsome
  by_cases hr : r = relay
  · subst hr
    rw [← hreference] at hsome
    rw [position?, ← hreference, Ied.value?_written_status node hc hvalue hsome]
    simp [switched, Value.bool?]
  · have hne : positionReference server r ≠ node.reference := by
      rw [hreference]
      exact fun he => hr (positionReference_inj he)
    have hbefore : position? m server r = switched [relay] on f r := by
      simpa [switched, hr] using h r hsome
    rwa [position?, Ied.value?_written_of_ne (by simp [hc]) (by simp [hne])]

end

/-! ## Switching relays -/

section
open Attempt

variable (s : Session) (relay : UInt8) (on : Bool) {f : UInt8 → Option Bool}

theorem meets_prepare : Meets clock s.link host (Lit s.server f) (prepare s relay)
    (fun _ => Lit s.server f) fun _ => Lit s.server f := by
  unfold prepare
  refine Meets.bind ((s.meets_read _).imp (fun _ m hm => hm.1) fun _ m hm => hm.1) fun node => ?_
  split
  · exact Meets.pure fun _ => id
  · refine (s.meets_write (permission relay) "enbOper" (.bool true)
      fun m place hm hplace _ => ?_).imp (fun _ m hm => hm.1) fun _ m hm => hm.1
    exact hm.written_configuration (Session.constraint_of_locate hplace)

theorem meets_operate : Meets clock s.link host (Lit s.server f) (operate s relay on)
    (fun _ => Lit s.server (switched [relay] on f)) fun _ => Lit s.server f := by
  unfold operate
  refine Meets.bind ((s.meets_read _).imp (fun _ m hm => hm.1) fun _ m hm => hm.1) fun _ => ?_
  refine (s.meets_write (switchAddress relay .position .control) "Oper.ctlVal" (.bool on)
    fun m place hm hplace _ => ?_).imp (fun _ m hm => hm.1) fun _ m hm => hm.1
  have hresolve := (Session.locate_eq_ok.1 hplace).1
  rw [resolve_position] at hresolve
  exact hm.written_control (Session.constraint_of_locate hplace) (Except.ok.inj hresolve).symm
    (Node.get?_set_self place _ _)

/-- However often it is tried, switching a relay moves it if it succeeds, and nothing else. -/
theorem meets_switch_retried (policy : Policy) :
    Meets clock s.link host (Lit s.server f) (retried policy (switch s relay on))
      (fun _ => Lit s.server (switched [relay] on f)) fun _ => Lit s.server f := by
  have hswitch : Meets clock s.link host (Lit s.server f) (switch s relay on)
      (fun _ => Lit s.server (switched [relay] on f))
      fun e m => Lit s.server f m ∧ (e.isMisfit = true → True) := by
    rw [switch_eq]
    refine Meets.bind ((meets_prepare s relay).imp_error fun _ m hm => ?_) fun _ => ?_
    · exact ⟨hm, fun _ => trivial⟩
    · exact (meets_operate s relay on).imp_error fun _ m hm => ⟨hm, fun _ => trivial⟩
  exact (hswitch.retried policy).imp_error fun _ m hm => hm.1

end

/-! ## Light values -/

/-- The relays that a light value means: all that switch light, or that of the first setting with
its number. -/
def covered (d : Device) (v : LightValue) : List UInt8 :=
  if v.index = 0 then (d.outputs.filter fun o => o.kind = .light).map (·.internalId)
  else ((d.outputs.find? fun o => o.externalId = v.index).map (·.internalId)).toList

/-- Whether the last of some light values that means a relay switches it on. -/
def lastFlag? (d : Device) (vs : List LightValue) (relay : UInt8) : Option Bool :=
  (vs.reverse.find? fun v => relay ∈ covered d v).map (·.on)

theorem eq_covered {d : Device} {v : LightValue} {rs : List UInt8} (h : relays d v = .ok rs) :
    rs = covered d v := by
  unfold relays at h
  unfold covered
  split at h
  · next hzero =>
    cases h
    rw [if_pos hzero, Device.lightRelays]
    congr 2
  · next hzero =>
    rw [if_neg hzero]
    unfold Device.output? at h
    have hsame : (d.outputs.find? fun o => decide (o.externalId = v.index)) =
        d.outputs.find? fun o => o.externalId == v.index := rfl
    rw [hsame]
    split at h
    · cases h
    · next o ho =>
      split at h
      · cases h
        rw [ho]
        rfl
      · cases h

theorem foldl_switched (d : Device) (vs : List LightValue) (f : UInt8 → Option Bool)
    (relay : UInt8) : vs.foldl (fun f v => switched (covered d v) v.on f) f relay =
      (lastFlag? d vs relay).or (f relay) := by
  induction vs generalizing f with
  | nil => rfl
  | cons v vs ih =>
    rw [List.foldl_cons, ih, lastFlag?, lastFlag?, List.reverse_cons, List.find?_append,
      List.find?_singleton]
    cases vs.reverse.find? fun v => decide (relay ∈ covered d v) with
    | some w => rfl
    | none => by_cases hmem : relay ∈ covered d v <;> simp [switched, hmem]

section
open Attempt

variable (s : Session) (d : Device) (policy : Policy)

theorem meets_set (v : LightValue) (f : UInt8 → Option Bool) :
    Meets clock s.link host (Lit s.server f) (set policy s d v)
      (fun _ => Lit s.server (switched (covered d v) v.on f)) fun _ _ => True := by
  unfold set
  refine Meets.bind (Meets.ofMisfit.imp_error fun _ _ _ => trivial) fun rs => ?_
  refine Meets.of_imp (fun m hm => hm.2) fun hrs => ?_
  rw [← eq_covered hrs]
  have hall : ∀ done, Meets clock s.link host (Lit s.server (switched done v.on f))
      (rs.forM fun relay => retried policy (switch s relay v.on))
      (fun _ => Lit s.server (switched (done ++ rs) v.on f)) fun _ _ => True := by
    refine Meets.forM rs fun done relay => ?_
    rw [← switched_append]
    exact (meets_switch_retried s relay v.on policy).imp_error fun _ _ _ => trivial
  exact (hall []).mono (fun m hm => hm.1) (fun _ _ => id) fun _ _ => id

/-- After light values, each relay is as the last one that means it says. -/
theorem meets_setAll (vs : List LightValue) (f : UInt8 → Option Bool) :
    Meets clock s.link host (Lit s.server f) (setAll policy s d vs)
      (fun _ => Lit s.server fun relay => (lastFlag? d vs relay).or (f relay)) fun _ _ => True := by
  have hall : ∀ done : List LightValue, Meets clock s.link host
      (Lit s.server (done.foldl (fun f v => switched (covered d v) v.on f) f))
      (vs.forM (set policy s d))
      (fun _ => Lit s.server ((done ++ vs).foldl (fun f v => switched (covered d v) v.on f) f))
      fun _ _ => True := by
    refine Meets.forM vs fun done v => ?_
    rw [List.foldl_append]
    exact meets_set s d policy v _
  exact (hall []).imp (fun _ m hm relay hsome =>
    (hm relay hsome).trans (foldl_switched d vs f relay)) fun _ _ => id

end

/-! ## The status -/

section
open Attempt

variable (s : Session) (d : Device) (policy : Policy)

/-- A light value tells of an output setting what the model has. -/
def Tells (m : ServerModel) (server : String) (o : OutputSetting) (v : LightValue) : Prop :=
  v.index = o.externalId ∧
    (m.findNode? (positionReference server o.internalId) .status).isSome ∧
    position? m server o.internalId = some v.on

theorem meets_readOutput (m : ServerModel) (o : OutputSetting) :
    Meets clock s.link host (· = m) (readOutput s o)
      (fun v m' => m' = m ∧ Tells m s.server o v) fun _ => (· = m) := by
  unfold readOutput
  refine Meets.bind ((s.meets_read _).imp_error fun _ _ hm => hm.1) fun node => ?_
  refine Meets.of_imp (X := m.findNode? (positionReference s.server o.internalId) .status =
    some node) ?_ fun hnode => ?_
  · rintro _ ⟨rfl, place, hplace, hnode⟩
    have hresolve := (Session.locate_eq_ok.1 hplace).1
    rw [resolve_position] at hresolve
    rw [Except.ok.inj hresolve]
    exact hnode
  · refine Meets.bind (Meets.ofExcept.imp_error fun _ _ hm => hm.1.1) fun on => ?_
    refine Meets.pure fun m' hm => ⟨hm.1.1, rfl, by rw [hnode]; rfl, ?_⟩
    have hposition := hm.2
    unfold position at hposition
    rw [position?, ServerModel.value?, hnode, Option.bind_some]
    split at hposition
    · next on' hon =>
      rw [hon, Except.ok.inj hposition]
    · cases hposition

theorem meets_readStatus (m : ServerModel) :
    Meets clock s.link host (· = m) (readStatus s d)
      (fun st m' => m' = m ∧ List.Forall₂ (Tells m s.server) d.outputs st.lights)
      fun _ => (· = m) := by
  unfold readStatus
  have hlights : Meets clock s.link host (· = m) (d.outputs.mapM (readOutput s))
      (fun vs m' => m' = m ∧ List.Forall₂ (Tells m s.server) d.outputs vs) fun _ => (· = m) :=
    Meets.mapM (I := fun _ => (· = m)) d.outputs (fun _ o => meets_readOutput s m o) []
  refine hlights.bind fun lights => ?_
  refine Meets.of_imp (fun _ hm => hm.2) fun hlights => ?_
  refine Meets.bind ((s.meets_read _).mono (fun _ hm => hm.1) (fun _ _ hm => hm.1)
    fun _ _ hm => hm.1) fun events => ?_
  refine Meets.bind ((s.meets_read _).imp (fun _ _ hm => hm.1)
    fun _ _ hm => hm.1) fun software => ?_
  exact Meets.pure fun _ hm => ⟨hm, hlights⟩

theorem meets_status (m : ServerModel) :
    Meets clock s.link host (· = m) (status policy s d)
      (fun st m' => m' = m ∧ List.Forall₂ (Tells m s.server) d.outputs st.lights)
      fun _ => (· = m) := by
  have hstatus : Meets clock s.link host (· = m) (readStatus s d)
      (fun st m' => m' = m ∧ List.Forall₂ (Tells m s.server) d.outputs st.lights)
      fun e m' => m' = m ∧ (e.isMisfit = true → True) :=
    (meets_readStatus s d m).imp_error fun _ _ hm => ⟨hm, fun _ => trivial⟩
  exact (hstatus.retried policy).imp_error fun _ _ hm => hm.1

end

end Light

/-! ## Requests -/

namespace Gateway

open Attempt

variable {g : Gateway} {p : Plant}

theorem meets_setLight (s : Session) (d : Device) (vs : List LightValue)
    (f : UInt8 → Option Bool) :
    Meets clock s.link host (Light.Lit s.server f) (g.carryOut s d (.setLight vs))
      (fun _ => Light.Lit s.server fun relay => (Light.lastFlag? d vs relay).or (f relay))
      fun _ _ => True := by
  refine Meets.bind (Meets.ofMisfit.imp (fun _ _ hm => hm.1) fun _ _ _ => trivial) fun _ => ?_
  exact (Light.meets_setAll s d g.policy vs f).bind fun _ => Meets.pure fun _ => id

theorem meets_getStatus (s : Session) (d : Device) (m : ServerModel) :
    Meets clock s.link host (· = m) (g.carryOut s d .getStatus)
      (fun x m' => m' = m ∧ ∃ st, x.1 = .status st ∧
        List.Forall₂ (Light.Tells m s.server) d.outputs st.lights)
      fun _ _ => True := by
  refine Meets.bind (Meets.ofMisfit.imp (fun _ _ hm => hm.1) fun _ _ _ => trivial) fun _ => ?_
  refine Meets.bind ((Light.meets_status s d g.policy m).imp_error
    fun _ _ _ => trivial) fun st => ?_
  refine Meets.of_imp (fun _ hm => hm.2) fun hst => ?_
  refine Meets.bind ((Meets.lift (g.within_spares_collectEvents s)).mono (fun _ hm => hm.1)
    (fun _ _ => id) fun _ _ _ => trivial) fun x => ?_
  cases x with
  | ok _ => exact Meets.pure fun _ hm => ⟨hm, st, rfl, hst⟩
  | error e => exact Meets.pure fun _ hm => ⟨hm, st, rfl, hst⟩

/-- The status of a controller that follows on light values has a light value for each output
setting, in their order: with the setting's number towards the platform, and on or off as the last
value said that means the setting's relay, or else as the relay was before. -/
theorem status_after_setting {clock' : Nat → Int64} {set get : Request} {vs : List LightValue}
    (hset : set.operation = .setLight vs) (hget : get.operation = .getStatus)
    (hsame : get.deviceId = set.deviceId)
    (hs : (p.runBy clock (g.handle set)).1.outcome.isSuccess = true)
    (hs' : ((p.runBy clock (g.handle set)).2.runBy clock'
      (g.handle get)).1.outcome.isSuccess = true) :
    ∃ d ied st, p.registry.find? set.deviceId = some d ∧
      p.network.find? d.identity.host = some ied ∧
      ((p.runBy clock (g.handle set)).2.runBy clock' (g.handle get)).1 =
        get.respond (.success (.status st)) ∧
      List.Forall₂ (fun o v => v.index = o.externalId ∧
        some v.on = (Light.lastFlag? d vs o.internalId).or
          (Light.position? ied.model d.identity.serverName o.internalId)) d.outputs st.lights := by
  obtain ⟨d, s, m, payload, ending, opened, h⟩ := succeeds_of_isSuccess hs
  obtain ⟨d', s', m', payload', ending', opened', h'⟩ := succeeds_of_isSuccess hs'
  obtain ⟨ied, hied, rfl⟩ := Option.map_eq_some_iff.1 h.there
  have hserver : s.server = d.identity.serverName := congrArg Identity.serverName h.identity
  have hserver' : s'.server = d'.identity.serverName := congrArg Identity.serverName h'.identity
  -- The first request leaves every relay as the last value that means it says.
  let before := Light.position? ied.model d.identity.serverName
  have hlit : (p.runBy clock (g.handle set)).2.Has s.link d.identity.host
      (Light.Lit s.server fun relay => (Light.lastFlag? d vs relay).or (before relay)) := by
    refine h.meets (Q := fun _ => _) (E := fun _ _ => True) ?_
    rw [hset]
    refine (meets_setLight s d vs before).mono ?_ (fun _ _ => id) fun _ _ => id
    rintro _ rfl relay -
    rw [hserver]
    rfl
  obtain ⟨rfl, hpositions⟩ := h.next h' hsame hlit
  -- The second request tells what the first one left.
  obtain ⟨-, -, -, st, hst, hlights⟩ := (h'.meets (by
    rw [hget]
    exact meets_getStatus s' d' m')).offers
  obtain rfl : payload' = .status st := hst
  refine ⟨d', ied, st, h.known, hied, h'.tells, hlights.imp fun o v htells => ?_⟩
  obtain ⟨hindex, hthere, hposition⟩ := htells
  rw [hserver', ← hserver] at hthere hposition
  exact ⟨hindex, hposition.symm.trans (hpositions o.internalId hthere)⟩

end Gateway

namespace Plant

/-- A controller with one relay that two settings share, and one that switches a tariff. -/
def sharing : Plant :=
  let d : Device :=
    ⟨⟨"SSLD-1", "10.0.0.1", .streetlightController, none⟩,
      [⟨1, 1, .light⟩, ⟨2, 2, .light⟩, ⟨3, 3, .tariff⟩, ⟨2, 5, .light⟩], false, []⟩
  let on : Node := .ofList "SWDeviceGenericIO/XSWC3.Pos" .status [("stVal", .bool true)]
  Plant.start (.ofList [d])
    (Network.empty.insert "10.0.0.1" (.ofModel (Preset.streetlight.insertNode on))) 0 ""

end Plant

namespace Request

/-- A relay on, all lights off, and one of them on again by its other number. -/
def overlapping : Request :=
  ⟨"1", "platform", "SSLD-1", .setLight [⟨1, true⟩, ⟨0, false⟩, ⟨5, true⟩]⟩

def statusOf : Request := ⟨"2", "platform", "SSLD-1", .getStatus⟩

end Request

theorem Gateway.status_after_setting_overlapping :
    (Plant.sharing.runBy Plant.waited
      (standard.handle .overlapping)).1.outcome.isSuccess = true ∧
    ((Plant.sharing.runBy Plant.waited (standard.handle .overlapping)).2.runBy Plant.waited
      (standard.handle .statusOf)).1.outcome =
        .success (.status
          ⟨[⟨1, false⟩, ⟨2, true⟩, ⟨3, true⟩, ⟨5, true⟩], "LIGHT_EVENTS", "RELAY"⟩) ∧
    ∃ d ied st, Plant.sharing.registry.find? "SSLD-1" = some d ∧
      Plant.sharing.network.find? d.identity.host = some ied ∧
      ((Plant.sharing.runBy Plant.waited (standard.handle .overlapping)).2.runBy Plant.waited
        (standard.handle .statusOf)).1 = Request.statusOf.respond (.success (.status st)) ∧
      List.Forall₂ (fun o v => v.index = o.externalId ∧
        some v.on = (Light.lastFlag? d [⟨1, true⟩, ⟨0, false⟩, ⟨5, true⟩] o.internalId).or
          (Light.position? ied.model d.identity.serverName o.internalId)) d.outputs st.lights := by
  have hs : (Plant.sharing.runBy Plant.waited
      (standard.handle .overlapping)).1.outcome.isSuccess = true := by decide +kernel
  have hstatus : ((Plant.sharing.runBy Plant.waited (standard.handle .overlapping)).2.runBy
      Plant.waited (standard.handle .statusOf)).1.outcome = .success (.status
        ⟨[⟨1, false⟩, ⟨2, true⟩, ⟨3, true⟩, ⟨5, true⟩], "LIGHT_EVENTS", "RELAY"⟩) := by
    decide +kernel
  have hs' : ((Plant.sharing.runBy Plant.waited (standard.handle .overlapping)).2.runBy
      Plant.waited (standard.handle .statusOf)).1.outcome.isSuccess = true := by rw [hstatus]; rfl
  have hset : Request.overlapping.operation =
      .setLight [⟨1, true⟩, ⟨0, false⟩, ⟨5, true⟩] := rfl
  have hget : Request.statusOf.operation = .getStatus := rfl
  have hsame : Request.statusOf.deviceId = Request.overlapping.deviceId := rfl
  exact ⟨hs, hstatus, Gateway.status_after_setting hset hget hsame hs hs'⟩

end FieldGateway
