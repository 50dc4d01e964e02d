import FieldGateway.Command.Light
import FieldGateway.Gateway.Reporting
import FieldGateway.Plant.Network
import FieldGateway.Proofs.Address.Parts
import FieldGateway.Proofs.Command.Catalog

/-!
# What is found in the preset models

A session looks for everything under the server name of its device. The preset model of a terminal
unit is made for that name; the one of a streetlight controller has a name of its own, whatever
name is configured.

* `Network.find?_ofDevices`: which model stands at the address of each device.
* `Preset.exists_findNode?_rtu`: what a terminal unit of any name has.
* `Preset.findNode?_streetlight_eq_none`: what a controller has under another name: nothing.
* `Network.ofDevices_serves_iff`: who finds all that is asked of a device.
-/

namespace FieldGateway

/-! ## The devices of a network -/

namespace Network

theorem find?_insert (n : Network) (host at_ : String) (d : Ied) :
    (n.insert host d).find? at_ = if at_ = host then some d else n.find? at_ := by
  rw [find?, insert, Table.find?_insert]
  by_cases h : at_ = host
  · simp [h, Std.compare_self]
  · rw [if_neg h, if_neg fun hc => h (Std.LawfulEqCmp.compare_eq_iff_eq.mp hc)]
    rfl

/-- The model a device starts with stands at its address, if no other device has that address. -/
theorem find?_ofDevices {ds : List Device} (hapart : (ds.map (·.identity.host)).Nodup) {d : Device}
    (hd : d ∈ ds) : (ofDevices ds).find? d.identity.host =
      some (.ofModel (Preset.ofIdentity d.identity)) := by
  unfold ofDevices
  generalize empty = n
  induction ds generalizing n with
  | nil => cases hd
  | cons e ds ih =>
    obtain ⟨he, hds⟩ := List.nodup_cons.1 hapart
    rw [List.foldl_cons]
    rcases List.mem_cons.1 hd with rfl | hd
    · -- nothing that comes later stands at the address
      have hlater : ∀ (es : List Device) (n : Network),
          d.identity.host ∉ es.map (·.identity.host) →
          (es.foldl (fun n e => n.insert e.identity.host (.ofModel (Preset.ofIdentity e.identity)))
            n).find? d.identity.host = n.find? d.identity.host := by
        intro es
        induction es with
        | nil => intro n _; rfl
        | cons e es ih =>
          intro n hes
          obtain ⟨hne, hes⟩ := not_or.1 (mt List.mem_cons.2 hes)
          rw [List.foldl_cons, ih _ hes, find?_insert, if_neg hne]
      rw [hlater ds _ he, find?_insert, if_pos rfl]
    · exact ih hds hd _

end Network

/-! ## What a model offers -/

/-- Whether the node of an address is there, under a server name. -/
def ServerModel.offers (m : ServerModel) (server : String) (a : Address) : Bool :=
  ((Reference.resolve server a).toOption.bind fun r => m.findNode? r a.constraint).isSome

theorem ServerModel.offers_iff {m : ServerModel} {server : String} {a : Address} :
    m.offers server a = true ↔ ∃ r, Reference.resolve server a = .ok r ∧
      ∃ n ∈ m.nodes, n.isAt r a.constraint = true := by
  unfold offers
  cases Reference.resolve server a <;> simp [Except.toOption, findNode?]

namespace Session

/-- A session finds what the model offers under the server name of its device. -/
theorem exists_locate {s : Session} {a : Address} :
    (∃ n, s.locate a = .ok n) ↔ s.model.offers s.server a = true := by
  unfold locate ServerModel.offers
  cases Reference.resolve s.server a with
  | error e => simp [Except.toOption]
  | ok r =>
    simp only [Except.toOption, Option.bind_some]
    cases s.model.findNode? r a.constraint <;> simp

/-- All values of terminal units, solar plants and batteries, of the first system of each, are
found. -/
def FindsPoints (s : Session) : Prop :=
  ∀ family ∈ [Family.genericRtu, .daRtu, .pv, .battery], ∀ attr index p,
    Catalog.standard.lookup family attr index = .ok p →
      ∃ n, s.locate (p.address (.ofFamily family) 1) = .ok n

/-- What is asked of a streetlight controller is found: of every relay the position, its operation
and whether it may be operated, what the controller tells of itself, and the block of the events. -/
structure FindsLights (s : Session) : Prop where
  position : ∀ relay ∈ Catalog.indexes,
    ∃ n, s.locate (Light.switchAddress relay .position .status) = .ok n
  operation : ∀ relay ∈ Catalog.indexes,
    ∃ n, s.locate (Light.switchAddress relay .position .control) = .ok n
  release : ∀ relay ∈ Catalog.indexes,
    ∃ n, s.locate (Light.switchAddress relay .masterControl .configuration) = .ok n
  eventBuffer : ∃ n, s.locate (Light.configurationAddress .eventBuffer) = .ok n
  software : ∃ n, s.locate (Light.configurationAddress .softwareConfiguration) = .ok n
  events : ∃ r b, Gateway.eventBlock s.server = .ok r ∧ s.model.block? r = some b

end Session

/-! ## Terminal units -/

theorem Reference.resolve_of_empty {server r : String} {a : Address} (h : resolve "" a = .ok r) :
    resolve server a = .ok (server ++ r) := by
  obtain ⟨hnode, htoken, hinstance, rfl⟩ := resolve_eq_ok.1 h
  refine resolve_eq_ok.2 ⟨hnode, htoken, hinstance, ?_⟩
  simp [String.append_assoc]

namespace Preset

/-- The model of a terminal unit has the nodes of one without a name, under its own name. -/
theorem nodes_rtu (server : String) : (rtu server).nodes =
    (rtu "").nodes.map fun n => { n with reference := server ++ n.reference } := by
  simp [rtu, statusNodes, inputNodes, generationNodes, scheduleNodes, Node.ofList,
    String.append_assoc]

/-- What a terminal unit offers does not depend on its name. -/
theorem offers_rtu {a : Address} (h : (rtu "").offers "" a = true) (server : String) :
    (rtu server).offers server a = true := by
  obtain ⟨r, hr, n, hn, hat⟩ := ServerModel.offers_iff.1 h
  refine ServerModel.offers_iff.2 ⟨server ++ r, Reference.resolve_of_empty hr,
    { n with reference := server ++ n.reference }, ?_, ?_⟩
  · rw [nodes_rtu]
    exact List.mem_map_of_mem hn
  · simpa [Node.isAt] using hat

end Preset

theorem Session.findsPoints_rtu (i : Identity) (link : Nat) :
    FindsPoints ⟨i, Preset.rtu i.serverName, link⟩ := by
  intro family hfamily attr index p hlookup
  have hall : ∀ f ∈ [Family.genericRtu, .daRtu, .pv, .battery], ∀ p ∈ Catalog.standardPoints f,
      (Preset.rtu "").offers "" (p.address (.ofFamily f) 1) = true := by decide +kernel
  have hp : p ∈ Catalog.standardPoints family := (Catalog.lookup_standard hlookup).1
  exact exists_locate.2 (Preset.offers_rtu (hall family hfamily p hp) i.serverName)

/-! ## Streetlight controllers -/

namespace Reference

/-- What a reference begins with, up to its last slash. -/
def upToSlash (r : String) : List Char := (r.toList.reverse.dropWhile (· != '/')).reverse

theorem upToSlash_append {t : String} (h : '/' ∉ t.toList) (s : String) :
    upToSlash (s ++ "/" ++ t) = s.toList ++ ['/'] := by
  have hreverse : (s ++ "/" ++ t).toList.reverse = t.toList.reverse ++ '/' :: s.toList.reverse := by
    simp [String.toList_append]
  rw [upToSlash, hreverse, (takeWhile_mark (mt List.mem_reverse.1 h) _).2]
  simp

theorem upToSlash_resolve {server r : String} {a : Address} (hlight : a.logicalDevice = .lighting)
    (h : resolve server a = .ok r) : upToSlash r = (server ++ "IO").toList ++ ['/'] := by
  obtain ⟨hnode, -, -, rfl⟩ := resolve_eq_ok.1 h
  have htoken : '/' ∉ a.attr.token.toList := by cases a.attr <;> decide
  have hrest : '/' ∉ (a.logicalNode ++ "." ++ a.attr.token).toList := by
    simp [String.toList_append, htoken, (isLogicalNode_iff.1 hnode).2.1]
  rw [← upToSlash_append hrest]
  simp [hlight, LogicalDevice.lighting, Address.shownInstance, numeral, String.append_assoc]

end Reference

namespace Preset

/-- A controller offers nothing of its lights under another name than its own. -/
theorem server_of_offers_streetlight {server : String} {a : Address}
    (hlight : a.logicalDevice = .lighting) (h : streetlight.offers server a = true) :
    server = streetlightServer := by
  obtain ⟨r, hr, n, hn, hat⟩ := ServerModel.offers_iff.1 h
  have hall : ∀ n ∈ streetlight.nodes,
      Reference.upToSlash n.reference = (streetlightServer ++ "IO").toList ++ ['/'] := by
    decide +kernel
  have hreference : n.reference = r := by
    simp only [Node.isAt, Bool.and_eq_true, beq_iff_eq] at hat
    exact hat.2
  have hname := hall n hn
  rw [hreference, Reference.upToSlash_resolve hlight hr, String.toList_append,
    String.toList_append] at hname
  exact String.toList_injective (List.append_cancel_right (List.append_cancel_right hname))

end Preset

theorem Session.findsLights_streetlight {i : Identity}
    (hserver : i.serverName = Preset.streetlightServer) (link : Nat) :
    FindsLights ⟨i, Preset.streetlight, link⟩ := by
  have hfinds {a : Address} (h : Preset.streetlight.offers Preset.streetlightServer a = true) :
      ∃ n, locate ⟨i, Preset.streetlight, link⟩ a = .ok n := by
    refine exists_locate.2 ?_
    rwa [server, hserver]
  have hrelays : ∀ relay ∈ Catalog.indexes, ∀ ac ∈ [(Attribute.position, Constraint.status),
      (.position, .control), (.masterControl, .configuration)],
      Preset.streetlight.offers Preset.streetlightServer
        (Light.switchAddress relay ac.1 ac.2) = true := by decide +kernel
  exact {
    position := fun relay h => hfinds (hrelays relay h (.position, .status) (by decide))
    operation := fun relay h => hfinds (hrelays relay h (.position, .control) (by decide))
    release := fun relay h =>
      hfinds (hrelays relay h (.masterControl, .configuration) (by decide))
    eventBuffer := hfinds (by decide +kernel)
    software := hfinds (by decide +kernel)
    events := by
      have hblock : Preset.streetlight.block? Preset.eventBlock =
          some (.fresh Preset.eventBlock true) := by decide +kernel
      refine ⟨Preset.eventBlock, .fresh Preset.eventBlock true, ?_, hblock⟩
      rw [server, hserver]
      decide +kernel }

theorem Session.server_of_locate_streetlight {i : Identity} {link : Nat} {a : Address} {n : Node}
    (hlight : a.logicalDevice = .lighting)
    (h : locate ⟨i, Preset.streetlight, link⟩ a = .ok n) :
    i.serverName = Preset.streetlightServer := by
  have hoffers := exists_locate.1 ⟨n, h⟩
  exact Preset.server_of_offers_streetlight hlight hoffers

theorem Session.findsLights_streetlight_iff {i : Identity} {link : Nat} :
    FindsLights ⟨i, Preset.streetlight, link⟩ ↔ i.serverName = Preset.streetlightServer := by
  refine ⟨fun h => ?_, fun hserver => findsLights_streetlight hserver link⟩
  obtain ⟨n, hn⟩ := h.software
  exact server_of_locate_streetlight rfl hn

/-! ## Every device of a network -/

/-- At the address of a device stands a model in which a session with the device finds all that is
asked of it; but in a streetlight controller only if no other server name than that of the preset is
configured, and otherwise nothing of the lights at all. -/
theorem Network.ofDevices_serves_iff {ds : List Device}
    (hapart : (ds.map (·.identity.host)).Nodup) {d : Device} (hd : d ∈ ds) (link : Nat) :
    ∃ ied, (ofDevices ds).find? d.identity.host = some ied ∧
      let s : Session := ⟨d.identity, ied.model, link⟩
      if d.family = .streetlightController then
        (s.FindsLights ↔ d.identity.serverName = Preset.streetlightServer) ∧
          (d.identity.serverName ≠ Preset.streetlightServer →
            ∀ a n, a.logicalDevice = .lighting → s.locate a ≠ .ok n)
      else s.FindsPoints := by
  refine ⟨_, find?_ofDevices hapart hd, ?_⟩
  dsimp only [Ied.ofModel, Preset.ofIdentity, Device.family]
  split
  · refine ⟨Session.findsLights_streetlight_iff, fun hserver a n hlight hn => hserver ?_⟩
    exact Session.server_of_locate_streetlight hlight hn
  · exact Session.findsPoints_rtu d.identity link

/-- A controller that goes by the name of the preset beside a terminal unit at another address. -/
theorem Network.ofDevices_serves_preset_name :
    let d : Device := .ofIdentity ⟨"SSLD-1", "10.0.0.1", .streetlightController, none⟩
    let e : Device := .ofIdentity ⟨"RTU-1", "10.0.0.2", .genericRtu, some "SITE_A"⟩
    ([d, e].map (·.identity.host)).Nodup ∧ d ∈ [d, e] ∧
      ∃ ied, (ofDevices [d, e]).find? "10.0.0.1" = some ied ∧
        (Session.FindsLights ⟨d.identity, ied.model, 0⟩ ↔
          d.identity.serverName = Preset.streetlightServer) := by
  intro d e
  have hapart : ([d, e].map (·.identity.host)).Nodup := by decide +kernel
  have hd : d ∈ [d, e] := List.mem_cons_self
  obtain ⟨ied, hied, hfinds⟩ := ofDevices_serves_iff hapart hd 0
  exact ⟨hapart, hd, ied, hied, hfinds.1⟩

/-- A controller with a server name of its own is looked for under that name, and not found. -/
theorem Network.own_name_not_served :
    let d : Device := .ofIdentity ⟨"SSLD-5", "10.0.0.5", .streetlightController, some "SITE_S"⟩
    (ofDevices [d]).find? "10.0.0.5" = some (.ofModel Preset.streetlight) ∧
      Reference.resolve d.identity.serverName (Light.switchAddress 1 .position .status) =
        .ok "SITE_SIO/XSWC1.Pos" ∧
      Preset.streetlight.findNode? "SITE_SIO/XSWC1.Pos" .status = none ∧
      ∀ link, ¬ Session.FindsLights ⟨d.identity, Preset.streetlight, link⟩ := by
  refine ⟨by decide +kernel, by decide +kernel, by decide +kernel, fun link hfinds => ?_⟩
  exact absurd (Session.findsLights_streetlight_iff.1 hfinds) (by decide +kernel)

end FieldGateway
