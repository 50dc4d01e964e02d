import FieldGateway.Proofs.Gateway.Account
import FieldGateway.Proofs.Gateway.Lights
import FieldGateway.Proofs.Gateway.SetPoints
import FieldGateway.Proofs.Gateway.Tasks
import FieldGateway.Proofs.Lists

/-!
# What a request leaves behind

However a request ends, the tasks that it was expanded into were carried out up to some point, and
nothing else of the device was changed: of the relays that were switched, the permissions and the
positions, and otherwise the nodes that were written.

* `Ied.keptBut_after`: which nodes writes change.
* `Task.keptBut_of_reached`: which nodes tasks change that have come so far.
* `Gateway.first_tasks_carried_out`: what a request leaves behind.
-/

namespace FieldGateway

/-! ## Nodes that are changed -/

/-- The node is the same, and its values are unless `T` holds of its place. -/
structure Node.KeptBut (T : String → Constraint → Prop) (n n' : Node) : Prop where
  reference : n'.reference = n.reference
  constraint : n'.constraint = n.constraint
  values : ¬ T n.reference n.constraint → n'.values = n.values

namespace Node

variable {T T' : String → Constraint → Prop} {n n' n'' : Node}

theorem KeptBut.refl (T : String → Constraint → Prop) (n : Node) : KeptBut T n n :=
  ⟨rfl, rfl, fun _ => rfl⟩

theorem KeptBut.trans (h : KeptBut T n n') (h' : KeptBut T n' n'') : KeptBut T n n'' := by
  refine ⟨h'.reference.trans h.reference, h'.constraint.trans h.constraint, fun hT => ?_⟩
  have hT' : ¬ T n'.reference n'.constraint := by
    rwa [h.reference, h.constraint]
  exact (h'.values hT').trans (h.values hT)

/-- Where a write carries nothing, nothing is changed. -/
theorem KeptBy.keptBut {w : Node} (h : w.KeptBy n n')
    (hT : ∀ path, w.Carries n path → T n.reference n.constraint) : KeptBut T n n' := by
  refine ⟨h.reference, h.constraint, fun hno => Table.ext_find? fun path => ?_⟩
  exact Decidable.byContradiction fun hne => hno (hT path (h.values path hne))

end Node

namespace Ied

open Node

variable {T : String → Constraint → Prop} {m : ServerModel}

/-- A write changes the node that is written, and the status that mirrors a control value. -/
theorem keptBut_written {node : Node} (hnode : T node.reference node.constraint)
    (hstatus : node.constraint = .control → T node.reference .status) :
    List.Forall₂ (KeptBut T) m.nodes (written m node).nodes := by
  refine (keptBy_written m node).imp fun n n' h => h.keptBut fun path hcarries => ?_
  obtain ⟨hr, ⟨hc, -⟩ | ⟨hcontrol, -, hc, -⟩⟩ := hcarries
  · rwa [hr, hc]
  · rw [hr, hc]
    exact hstatus hcontrol

theorem keptBut_after {ws : List Node} (h : ∀ w ∈ ws, T w.reference w.constraint ∧
    (w.constraint = .control → T w.reference .status)) :
    List.Forall₂ (KeptBut T) m.nodes (ws.foldl written m).nodes := by
  induction ws generalizing m with
  | nil => exact List.forall₂_same.2 fun n _ => KeptBut.refl T n
  | cons w ws ih =>
    obtain ⟨hw, hws⟩ := List.forall_mem_cons.1 h
    exact forall₂_trans (r := KeptBut T) KeptBut.trans (keptBut_written hw.1 hw.2) (ih hws)

end Ied

namespace Task

/-- Where the first write of a task may change something: the permission of a relay. -/
def Prepares (server : String) (t : Task) (reference : String) (c : Constraint) : Prop :=
  match t with
  | switch relay _ =>
    reference = Light.switchReference server relay .masterControl ∧ c = .configuration
  | write _ => False

/-- Where a task changes something: the permission and the position of a relay, as it is set and as
it is shown; or the node that is written, and the status that mirrors it if it is a control. -/
def Changes (server : String) (t : Task) (reference : String) (c : Constraint) : Prop :=
  match t with
  | switch relay _ => t.Prepares server reference c ∨
      reference = Light.switchReference server relay .position ∧ (c = .control ∨ c = .status)
  | write node => reference = node.reference ∧
      (c = node.constraint ∨ node.constraint = .control ∧ c = .status)

/-- Where something may have changed when tasks were carried out up to the `k`-th, and the next one
was begun perhaps. -/
def Changed (server : String) (ts : List Task) (k : Nat) (reference : String) (c : Constraint) :
    Prop :=
  (∃ t ∈ ts.take k, t.Changes server reference c) ∨
    ∃ t, ts[k]? = some t ∧ t.Prepares server reference c

variable {s : Session} {m : ServerModel} {t : Task} {ts : List Task} {w : Node}

theorem reference_of_locate {relay : UInt8} {attr : Attribute} {c : Constraint} {place : Node}
    (h : s.locate (Light.switchAddress relay attr c) = .ok place) :
    place.reference = Light.switchReference s.server relay attr := by
  have hresolve := (Session.locate_eq_ok.1 h).1
  rw [Light.resolve_switchAddress] at hresolve
  exact (Except.ok.inj hresolve).symm

theorem prepares_of_mem_ahead (h : w ∈ t.ahead s m) :
    t.Prepares s.server w.reference w.constraint ∧ w.constraint ≠ .control := by
  cases t with
  | switch relay on =>
    cases hplace : s.locate (Light.permission relay) with
    | error e =>
      simp only [ahead, hplace] at h
      cases h
    | ok place =>
      rw [ahead_switch hplace] at h
      have hreference : place.reference =
          Light.switchReference s.server relay .masterControl := reference_of_locate hplace
      have hc : place.constraint = .configuration := Session.constraint_of_locate hplace
      split at h
      · cases h
      · obtain rfl := List.mem_singleton.1 h
        refine ⟨⟨hreference, hc⟩, ?_⟩
        show place.constraint ≠ .control
        rw [hc]
        decide
  | write node => cases h

theorem changes_of_mem_main (h : w ∈ t.main s) :
    t.Changes s.server w.reference w.constraint ∧
      (w.constraint = .control → t.Changes s.server w.reference .status) := by
  cases t with
  | switch relay on =>
    cases hplace : s.locate (Light.switchAddress relay .position .control) with
    | error e =>
      simp only [main, hplace] at h
      cases h
    | ok place =>
      rw [main_switch hplace] at h
      obtain rfl := List.mem_singleton.1 h
      have hreference := reference_of_locate hplace
      exact ⟨.inr ⟨hreference, .inl (Session.constraint_of_locate hplace)⟩,
        fun _ => .inr ⟨hreference, .inr rfl⟩⟩
  | write node =>
    obtain rfl := List.mem_singleton.1 h
    exact ⟨⟨rfl, .inl rfl⟩, fun hc => ⟨rfl, .inr ⟨hc, rfl⟩⟩⟩

theorem changes_of_prepares {server reference : String} {c : Constraint}
    (h : t.Prepares server reference c) : t.Changes server reference c := by
  cases t with
  | switch relay on => exact .inl h
  | write node => exact h.elim

theorem changes_of_mem_allWrites (h : w ∈ allWrites s m ts) : ∃ t ∈ ts,
    t.Changes s.server w.reference w.constraint ∧
      (w.constraint = .control → t.Changes s.server w.reference .status) := by
  induction ts generalizing m with
  | nil => cases h
  | cons t ts ih =>
    rcases List.mem_append.1 h with h | h
    · refine ⟨t, List.mem_cons_self, ?_⟩
      rcases List.mem_append.1 h with h | h
      · obtain ⟨hprepares, hc⟩ := prepares_of_mem_ahead h
        exact ⟨changes_of_prepares hprepares, fun hcontrol => absurd hcontrol hc⟩
      · exact changes_of_mem_main h
    · obtain ⟨u, hu, hchanges⟩ := ih h
      exact ⟨u, List.mem_cons_of_mem t hu, hchanges⟩

/-- Nothing is changed but where tasks have come to. -/
theorem keptBut_of_reached {l l' : Stock} {k : Nat} {more : List Node}
    (h : Reached s ts l l' k more) :
    List.Forall₂ (Node.KeptBut (Changed s.server ts k)) l.model.nodes l'.model.nodes := by
  rw [h.stock]
  refine Ied.keptBut_after fun w hw => ?_
  rcases List.mem_append.1 hw with hw | hw
  · obtain ⟨t, ht, hchanges, hstatus⟩ := changes_of_mem_allWrites hw
    exact ⟨.inl ⟨t, ht, hchanges⟩, fun hc => .inl ⟨t, ht, hstatus hc⟩⟩
  · rcases h.begun with rfl | ⟨t, ht, rfl⟩
    · cases hw
    · obtain ⟨hprepares, hc⟩ := prepares_of_mem_ahead hw
      exact ⟨.inr ⟨t, ht, hprepares⟩, fun hcontrol => absurd hcontrol hc⟩

end Task

/-! ## Requests -/

namespace Gateway

variable {g : Gateway} {r : Request} {i : Nat} {log : List Entry} {o : Response} {p q : Plant}
  {d : Device} {ied : Ied} {others : String → Prop}

/-- With the standard catalog nothing is written to a node but a set point. -/
theorem constraint_of_mem_tasks {s : Session} {operation : Operation} {node : Node}
    (hcatalog : g.catalog = .standard) (h : .write node ∈ g.tasks s d operation) :
    node.constraint = .setPoint := by
  cases operation with
  | setData systems =>
    obtain ⟨q, -, h⟩ := List.mem_flatMap.1 h
    obtain ⟨v, -, h⟩ := List.mem_filterMap.1 h
    unfold task? at h
    split at h
    · cases h
    · next point hlookup =>
      split at h
      · next hw =>
        split at h
        · cases h
        · next place hplace =>
          obtain rfl := Task.write.inj (Option.some.inj h)
          have hpoint := (lookup_standard hcatalog hlookup).1
          exact (Session.constraint_of_locate hplace).trans (Point.of_writable hpoint hw).1
      · cases h
  | setLight values =>
    have hno : ∀ vs : List LightValue, .write node ∉ Light.expansion d vs := by
      intro vs
      induction vs with
      | nil => exact List.not_mem_nil
      | cons v vs ih =>
        cases hrelays : Light.relays d v with
        | ok rs => simp [Light.expansion, hrelays, ih]
        | error e => simp [Light.expansion, hrelays]
    exact absurd h (hno values)
  | _ => cases h

theorem within_sendResponse {N : Action → Prop} (h : N (.sendResponse o))
    (hcount : N (.count .responsesSent 1)) : (sendResponse o).Within N := by
  refine Course.Within.bind (Course.within_query h) fun refused => ?_
  cases refused with
  | none => exact Course.within_query hcount
  | some reason => exact Course.within_pure _

theorem found_of_findDevice {id : String} {x : Except Failure Device}
    (h : (findDevice id).run.Runs i log x) : found log = match x with
      | .ok d => [d]
      | .error _ => [] := by
  obtain ⟨p₁, q₁, answer, rfl, hanswer⟩ := runs_findDevice h
  cases x with
  | ok d =>
    obtain rfl : answer = .ok (some d) := hanswer
    rfl
  | error e =>
    rcases answer with f | _ | d
    · rfl
    · rfl
    · exact absurd rfl (hanswer.2 d)

/-- A device that was found is the one that was looked up. -/
theorem eq_of_findDevice {id : String} {d' : Device} {rest : List Entry}
    (h : (findDevice id).run.Runs i log (.ok d')) (hfound : found (log ++ rest) = [d]) :
    d = d' := by
  have hfirst : found log = [d'] := found_of_findDevice h
  have hboth : found (log ++ rest) = found log ++ found rest := List.filterMap_append
  rw [hboth, hfirst] at hfound
  exact (List.cons.inj hfound).1.symm

/-- The part of a request up to its response. -/
theorem reached_of_handled {x : Except Failure Payload} (hlive : g.template = none)
    (h : Handled g r i log x) (hfound : found log = [d])
    (hspans : Spans (Plant.Spares d.identity.host others) p log q)
    (hied : p.network.find? d.identity.host = some ied) :
    ∃ s l k more, s.identity = d.identity ∧ s.model.plain = ied.model.plain ∧
      q.stock? d.identity.host = some l ∧ p.SparesOthers d.identity.host others q ∧
      Reached s (g.tasks s d r.operation) ied.stock l k more ∧
      (x.isOk = true → k = (g.tasks s d r.operation).length ∧
        ∀ vs, r.operation = .setLight vs → ∀ v ∈ vs, ∃ rs, Light.relays d v = .ok rs) := by
  have hp : p.stock? d.identity.host = some ied.stock := by
    unfold Plant.stock?
    rw [hied]
    rfl
  have hfinds : Course.Within Action.SparesNodes (findDevice r.deviceId).run :=
    within_findDevice trivial
  cases h with
  | unknown hf =>
    rw [found_of_findDevice hf] at hfound
    cases hfound
  | unreached hf ho =>
    -- No session was opened, so that any one will do: no task is carried out.
    obtain rfl := eq_of_findDevice hf hfound
    have hopens : Course.Within Action.SparesNodes
        (Session.connect d.identity (g.approach d.family) (g.listenerFor d)).run :=
      (Session.within_opens_connect _ _ _).mono fun _ => Action.sparesNodes_of_opens
    obtain ⟨m, hfirst, hthen⟩ := spans_append (Plant.Spares.refl _ _) hspans
    have hspared := (hf.spares hfinds hfirst).trans (ho.spares hopens hthen)
    exact ⟨⟨d.identity, ied.model, 0⟩, ied.stock, 0, [], rfl, rfl, hspared.stock.trans hp,
      hspared.others, .nothing, nofun⟩
  | @served finding opening work closing d' s result _ hf ho hw hc =>
    obtain rfl := eq_of_findDevice hf hfound
    obtain ⟨m₁, hfinding, hspans⟩ := spans_append (Plant.Spares.refl _ _) hspans
    obtain ⟨m₂, hopening, hspans⟩ := spans_append (Plant.Spares.refl _ _) hspans
    obtain ⟨m₃, hwork, hclosing⟩ := spans_append (Plant.Spares.refl _ _) hspans
    have hfinding := hf.spares hfinds hfinding
    obtain ⟨hidentity, hmodel, hstocked, hconnected⟩ :=
      Session.stocked_of_connect hlive ho hopening (hfinding.stock.trans hp)
    obtain ⟨l', hstocked', hworked, k, more, hreached, hok⟩ :=
      ((performs_carryOut d r.operation).takes ied.stock).ends others i work result m₂ m₃ hw hwork
        hstocked
    have hclosed := hc.spares (g.within_spares_conclude s d result) hclosing
    refine ⟨s, l', k, more, hidentity, hmodel, hclosed.stock.trans hstocked'.stock, ?_, hreached,
      fun hx => hok ?_⟩
    · exact ((hfinding.others.trans hconnected).trans hworked).trans hclosed.others
    · rw [runs_conclude hc] at hx
      cases result with
      | ok result => rfl
      | error e => cases hx

/-- However a request to a device ends that tells its model, whatever faults the device answers
with, and whatever else happens meanwhile, provided that nobody else writes to the device: the
tasks that the request was expanded into were carried out up to the `k`-th, and `more` was written
of the next one, which can only be that its relay may be operated. Nothing else was written, and
other nodes have the values they had; so have the devices that nobody else writes to. All tasks
were carried out if the request succeeded. It does not succeed if one of several light values is
for no light, and nothing is expanded from there on. -/
theorem first_tasks_carried_out (hlive : g.template = none) (hrun : (g.handle r).Runs i log o)
    (hfound : found log = [d]) (hspans : Spans (Plant.Spares d.identity.host others) p log q)
    (hied : p.network.find? d.identity.host = some ied) :
    ∃ s ied' k more, s.identity = d.identity ∧ s.model.plain = ied.model.plain ∧
      q.network.find? d.identity.host = some ied' ∧
      Reached s (g.tasks s d r.operation) ied.stock ied'.stock k more ∧
      (o.outcome.isSuccess = true → k = (g.tasks s d r.operation).length) ∧
      (∀ before v after e, r.operation = .setLight (before ++ v :: after) →
        Light.relays d v = .error e → o.outcome.isSuccess = false ∧
          g.tasks s d r.operation = g.tasks s d (.setLight before)) ∧
      List.Forall₂ (Node.KeptBut (Task.Changed s.server (g.tasks s d r.operation) k))
        ied.model.nodes ied'.model.nodes ∧
      (g.catalog = .standard → ∀ node, .write node ∈ g.tasks s d r.operation →
        node.constraint = .setPoint) ∧
      p.SparesOthers d.identity.host others q := by
  obtain ⟨l₁, x, l₂, h₁, h₂, rfl⟩ := Work.runs_bind.1 hrun
  obtain ⟨l₃, _, l₄, h₃, h₄, rfl⟩ := Work.runs_bind.1 h₂
  obtain ⟨rfl, rfl⟩ := Work.runs_pure.1 h₄
  rw [List.append_nil] at hspans hfound
  have hsent : ∀ e ∈ l₃, e.Kept fun a => ∀ answer, a.found answer = none :=
    h₃.kept (within_sendResponse (fun _ => rfl) fun _ => rfl)
  have hnone : found l₃ = [] := filterMap_of_kept hsent fun a answer ha => ha answer
  have hfound₁ : found l₁ = [d] := by
    rw [found, List.filterMap_append] at hfound
    unfold found at hnone
    rwa [hnone, List.append_nil] at hfound
  obtain ⟨m, hfirst, hthen⟩ := spans_append (Plant.Spares.refl _ _) hspans
  obtain ⟨s, l, k, more, hidentity, hmodel, hstock, hothers, hreached, hok⟩ :=
    reached_of_handled hlive (runs_run h₁) hfound₁ hfirst hied
  have hspared := h₃.spares (within_sendResponse trivial trivial) hthen
  obtain ⟨ied', hied', rfl⟩ := Option.map_eq_some_iff.1 (hspared.stock.trans hstock)
  have hsuccess : (r.respond (outcome x)).outcome.isSuccess = true → x.isOk = true := by
    intro hs
    cases x with
    | ok payload => rfl
    | error e =>
      have hs : (outcome (.error e)).isSuccess = true := hs
      rw [isSuccess_outcome_error] at hs
      cases hs
  refine ⟨s, ied', k, more, hidentity, hmodel, hied', hreached, fun hs => (hok (hsuccess hs)).1,
    ?_, Task.keptBut_of_reached hreached, fun hcatalog node => constraint_of_mem_tasks hcatalog,
    hothers.trans hspared.others⟩
  intro before v after e hoperation hrelays
  refine ⟨?_, ?_⟩
  · refine Bool.eq_false_iff.2 fun hs => ?_
    obtain ⟨rs, hrs⟩ := (hok (hsuccess hs)).2 _ hoperation v (by simp)
    rw [hrelays] at hrs
    cases hrs
  · rw [hoperation]
    exact Light.expansion_of_misfit hrelays

end Gateway

/-! ## A request that stops halfway -/

/-- A controller with two lights. -/
def Device.twoLights : Device :=
  ⟨⟨"SSLD-1", "10.0.0.1", .streetlightController, none⟩,
    [⟨1, 1, .light⟩, ⟨2, 2, .light⟩], false, []⟩

/-- It has lost the position of the second one. -/
def Ied.halfWired : Ied :=
  .ofModel ⟨Preset.relayNodes 1 ++
    [.ofList "SWDeviceGenericIO/XSWC2.CfSt" .configuration [("enbOper", .bool false)]], [], []⟩

def Plant.halfWired : Plant :=
  Plant.start (.ofList [.twoLights]) (Network.empty.insert "10.0.0.1" .halfWired) 0 ""

def Request.allLights : Request := ⟨"1", "platform", "SSLD-1", .setLight [⟨0, true⟩]⟩

/-- The first light is switched on, and that the second one may be switched is all that is
written of it. -/
theorem Gateway.first_tasks_carried_out_halfway :
    standard.template = none ∧
    Plant.halfWired.network.find? "10.0.0.1" = some .halfWired ∧
    ∃ log o q, (standard.handle .allLights).Runs 0 log o ∧ found log = [.twoLights] ∧
      Spans (Plant.Spares "10.0.0.1" fun _ => True) Plant.halfWired log q ∧
      o.outcome.isSuccess = false ∧
      ∃ s ied' k more, q.network.find? "10.0.0.1" = some ied' ∧
        Reached s (standard.tasks s .twoLights (.setLight [⟨0, true⟩])) Ied.halfWired.stock
          ied'.stock k more ∧
        ied'.activity.writes.map (·.reference) = ["SWDeviceGenericIO/XSWC1.CfSt",
          "SWDeviceGenericIO/XSWC1.Pos", "SWDeviceGenericIO/XSWC2.CfSt"] := by
  have hlive : standard.template = none := rfl
  have hruns := Plant.runs_trace 0 (standard.handle .allLights) Plant.halfWired
  have hspans : Spans (Plant.Spares "10.0.0.1" fun _ => True) Plant.halfWired
      (Plant.halfWired.trace 0 (standard.handle .allLights)) _ :=
    Plant.spans_trace (Plant.Spares.refl _ _) Plant.Spares.trans
      (fun _ _ => ⟨fun _ => id, rfl, fun _ _ _ => rfl⟩) 0 _ _
  have hfound : found (Plant.halfWired.trace 0 (standard.handle .allLights)) =
      [.twoLights] := by decide +kernel
  have hthere : Plant.halfWired.network.find? "10.0.0.1" = some .halfWired := by decide +kernel
  have hfails : (Plant.halfWired.runAlone
      (standard.handle .allLights)).1.outcome.isSuccess = false := by decide +kernel
  have hwrites : ((Plant.halfWired.runAlone (standard.handle .allLights)).2.network.find?
      "10.0.0.1").map (fun d => d.activity.writes.map (·.reference)) =
        some ["SWDeviceGenericIO/XSWC1.CfSt", "SWDeviceGenericIO/XSWC1.Pos",
          "SWDeviceGenericIO/XSWC2.CfSt"] := by decide +kernel
  obtain ⟨s, ied', k, more, -, -, hied', hreached, -⟩ :=
    Gateway.first_tasks_carried_out hlive hruns hfound hspans hthere
  have hied' : (Plant.halfWired.runAlone (standard.handle .allLights)).2.network.find?
      "10.0.0.1" = some ied' := hied'
  rw [hied'] at hwrites
  exact ⟨hlive, hthere, _, _, _, hruns, hfound, hspans, hfails, s, ied', k, more, hied', hreached,
    Option.some.inj hwrites⟩

end FieldGateway
