import FieldGateway.Proofs.Gateway.Effects
import FieldGateway.Proofs.Report.Agreement

/-!
# Values that were set

A value is set at the node of its point, and read there again. Two points of the standard catalog
have one node only if they agree in family, number of the system, attribute and index, provided that
one of them may be written, so that a value is what was set last under its own name, in whatever
spelling.

* `Point.eq_of_resolve`: points with one node.
* `ServerModel.Rewritten`: the model of a device after some values were set.
* `Gateway.meets_setData`, `Gateway.meets_getData`: what setting and reading come to.
* `Gateway.read_after_setting`: values that are read after some were set.
-/

namespace FieldGateway

variable {clock : Nat → Int64} {host : String}

/-! ## Points that may be written -/

namespace Point

variable {p q : Point} {f f' : Family}

/-- Only the settings of schedules may be written. -/
theorem of_writable (hp : p ∈ Catalog.standardPoints f) (hw : p.writable = true) :
    p.constraint = .setPoint ∧ p.path = "setVal" ∧ p.attr.usesIndex = true := by
  have hall : ∀ f ∈ Family.all, ∀ p ∈ Catalog.standardPoints f, p.writable = true →
      p.constraint = .setPoint ∧ p.path = "setVal" ∧ p.attr.usesIndex = true := by decide +kernel
  exact hall f f.mem_all p hp hw

/-- A logical device that presents systems with values to be written presents those of one family
only. -/
theorem family_of_writable (hp : p ∈ Catalog.standardPoints f) (hw : p.writable = true)
    (htoken : (LogicalDevice.ofFamily f).token = (LogicalDevice.ofFamily f').token) :
    f = f' ∧ f.isRtu = true := by
  have hall : ∀ f ∈ Family.all, (∃ p ∈ Catalog.standardPoints f, p.writable = true) →
      f.isRtu = true ∧ ∀ f' ∈ Family.all,
        (LogicalDevice.ofFamily f).token = (LogicalDevice.ofFamily f').token → f = f' := by
    decide +kernel
  obtain ⟨hrtu, hunique⟩ := hall f f.mem_all ⟨p, hp, hw⟩
  exact ⟨hunique f' f'.mem_all htoken, hrtu⟩

/-- Two points with one node, one of which may be written, are of one system and agree in attribute
and index. -/
theorem eq_of_resolve {server r : String} {i j : UInt8} (hp : p ∈ Catalog.standardPoints f)
    (hq : q ∈ Catalog.standardPoints f') (hw : p.writable = true)
    (hpr : Reference.resolve server (p.address (.ofFamily f) i) = .ok r)
    (hqr : Reference.resolve server (q.address (.ofFamily f') j) = .ok r) :
    f = f' ∧ i = j ∧ p.attr = q.attr ∧ p.index = q.index := by
  obtain ⟨htoken, hinstance, hnode, hattr⟩ := Reference.resolve_inj
    (LogicalDevice.isPlain_ofFamily f) (LogicalDevice.isPlain_ofFamily f') hpr hqr
  obtain ⟨rfl, hrtu⟩ := family_of_writable hp hw htoken
  rw [shownInstance_address hrtu, shownInstance_address hrtu] at hinstance
  have huses := (of_writable hp hw).2.2
  have hattr : p.attr = q.attr := hattr
  have hnode : p.logicalNode = q.logicalNode := hnode
  refine ⟨rfl, Option.some.inj hinstance, hattr, ?_⟩
  rw [← Reader.nodeIndex?_logicalNode hp huses, hnode]
  exact Reader.nodeIndex?_logicalNode hq (hattr ▸ huses)

end Point

/-! ## Models after values were set -/

/-- What was written last at a reference. -/
def lastWritten? (ws : List (String × Value)) (reference : String) : Option Value :=
  (ws.reverse.find? (·.1 == reference)).map (·.2)

namespace ServerModel

/-- The model has the same nodes as an earlier one. Those that were set show what was written last,
and the others are as they were. -/
structure Rewritten (before : ServerModel) (ws : List (String × Value)) (m : ServerModel) :
    Prop where
  nodes : ∀ r c, (m.findNode? r c).isSome = (before.findNode? r c).isSome
  others : ∀ r c, (c = .setPoint → ∀ w ∈ ws, w.1 ≠ r) → m.findNode? r c = before.findNode? r c
  last : ∀ r v, lastWritten? ws r = some v → (m.findNode? r .setPoint).isSome →
    m.value? r .setPoint "setVal" = some v

variable {before m : ServerModel} {ws : List (String × Value)} {node : Node}

theorem Rewritten.refl (m : ServerModel) : Rewritten m [] m where
  nodes _ _ := rfl
  others _ _ _ := rfl
  last _ _ h := by cases h

/-- The report control blocks are of no account. -/
theorem Rewritten.of_plain (h : before.plain.Rewritten ws m) : before.Rewritten ws m :=
  ⟨h.nodes, h.others, h.last⟩

theorem findNode?_written_of_ne (hc : node.constraint = .setPoint) {r : String} {c : Constraint}
    (hne : ¬ (r = node.reference ∧ c = .setPoint)) :
    (Ied.written m node).findNode? r c = m.findNode? r c := by
  rw [Ied.written, Ied.findNode?_reflect, hc]
  dsimp only
  rw [← hc, Ied.findNode?_merged, hc, if_neg hne]

theorem Rewritten.write (h : Rewritten before ws m) (hc : node.constraint = .setPoint)
    (hthere : (m.findNode? node.reference .setPoint).isSome) (v : Value) :
    Rewritten before (ws ++ [(node.reference, v)]) (Ied.written m (node.set "setVal" v)) := by
  have hset : (node.set "setVal" v).constraint = .setPoint := hc
  refine ⟨fun r c => ?_, fun r c hno => ?_, fun r w hlast hsome => ?_⟩
  · rw [Ied.isSome_findNode?_written, h.nodes]
  · rw [findNode?_written_of_ne hset, h.others]
    · exact fun hsp w hw => hno hsp w (List.mem_append_left _ hw)
    · rintro ⟨rfl, hsp⟩
      exact hno hsp _ (List.mem_append_right _ List.mem_cons_self) rfl
  · rw [lastWritten?, List.reverse_append] at hlast
    by_cases hr : node.reference = r
    · subst hr
      obtain rfl : v = w := by simpa using hlast
      have hself := Ied.value?_written_self (m := m) (node.set "setVal" v)
        (by rw [hset]; exact hthere) "setVal"
      rw [hset, Node.get?_set_self, Option.some_or] at hself
      exact hself
    · have hne : ¬ (r = (node.set "setVal" v).reference ∧ Constraint.setPoint = .setPoint) :=
        fun he => hr he.1.symm
      rw [findNode?_written_of_ne hset hne] at hsome
      rw [value?, findNode?_written_of_ne hset hne]
      refine h.last r w ?_ hsome
      simpa [lastWritten?, hr] using hlast

end ServerModel

/-! ## Sessions that differ in no node -/

namespace Session

/-- Sessions with the same server name, whose models have the same nodes. -/
structure Congruent (s s' : Session) : Prop where
  server : s'.server = s.server
  nodes : ∀ r c, (s'.model.findNode? r c).isSome = (s.model.findNode? r c).isSome

variable {s s' : Session} {a : Address}

theorem Congruent.symm (h : s.Congruent s') : s'.Congruent s :=
  ⟨h.server.symm, fun r c => (h.nodes r c).symm⟩

theorem Congruent.locate (h : s.Congruent s') {place : Node} (hplace : s.locate a = .ok place) :
    ∃ place', s'.locate a = .ok place' ∧ place'.reference = place.reference := by
  obtain ⟨hresolve, hfind⟩ := locate_eq_ok.1 hplace
  have hsome : (s'.model.findNode? place.reference a.constraint).isSome := by
    rw [h.nodes, hfind]
    rfl
  obtain ⟨place', hfind'⟩ := Option.isSome_iff_exists.1 hsome
  have hreference := (ServerModel.isAt_of_findNode? hfind').1
  refine ⟨place', locate_eq_ok.2 ?_, hreference⟩
  rw [hreference, h.server]
  exact ⟨hresolve, hfind'⟩

end Session

/-! ## Setting values -/

/-- A value as it is listed when it is passed over. -/
def SystemSetting.describe (q : SystemSetting) (v : SetPoint) : String :=
  Gateway.entry q.family q.id v.node v.index

namespace Gateway

variable (g : Gateway) (s : Session)

/-- The point that may be written under a name, and the reference of its node, if the device has
both. -/
def target? (family : Family) (id : UInt8) (node : String) (index : Option UInt8) :
    Option (Point × String) :=
  match g.lookup family node index with
  | .error _ => none
  | .ok p =>
    if p.writable then
      match s.locate (p.address (.ofFamily family) id) with
      | .error _ => none
      | .ok place => some (p, place.reference)
    else none

/-- Whether a value that is to be set fits the device. -/
def accepts (q : SystemSetting) (v : SetPoint) : Bool :=
  (g.target? s q.family q.id v.node v.index).isSome

/-- What a value that is set writes, and where, unless it is passed over. -/
def written? (q : SystemSetting) (v : SetPoint) : Option (String × Value) :=
  (g.target? s q.family q.id v.node v.index).map fun t => (t.2, t.1.encoding.encode v.value)

variable {g s} {family : Family} {id : UInt8} {node : String} {index : Option UInt8} {p : Point}
  {r : String}

theorem lookup_eq_ok : g.lookup family node index = .ok p ↔
    ∃ attr, Attribute.ofName? node = some attr ∧ g.catalog.lookup family attr index = .ok p := by
  unfold lookup Attribute.named
  cases Attribute.ofName? node with
  | none => exact ⟨nofun, nofun⟩
  | some attr =>
    have hmap : ((g.catalog.lookup family attr index).mapError .missingCommand) =
        (.ok p : Except Misfit Point) ↔ g.catalog.lookup family attr index = .ok p := by
      cases g.catalog.lookup family attr index with
      | ok p' => exact ⟨fun h => congrArg Except.ok (Except.ok.inj h), fun h => by rw [h]; rfl⟩
      | error e => exact ⟨nofun, nofun⟩
    exact hmap.trans ⟨fun h => ⟨attr, rfl, h⟩, fun ⟨_, hattr, h⟩ => Option.some.inj hattr ▸ h⟩

/-- What the standard catalog has under a name. -/
theorem lookup_standard (hcatalog : g.catalog = .standard)
    (h : g.lookup family node index = .ok p) :
    p ∈ Catalog.standardPoints family ∧ Attribute.ofName? node = some p.attr ∧
      (p.attr.usesIndex = true → p.index = index) := by
  obtain ⟨attr, hattr, hp⟩ := lookup_eq_ok.1 h
  rw [hcatalog] at hp
  obtain ⟨hmem, rfl, hindex⟩ := Catalog.lookup_standard hp
  exact ⟨hmem, hattr, hindex⟩

theorem target?_eq_some : g.target? s family id node index = some (p, r) ↔
    g.lookup family node index = .ok p ∧ p.writable = true ∧
      ∃ place, s.locate (p.address (.ofFamily family) id) = .ok place ∧ place.reference = r := by
  unfold target?
  cases g.lookup family node index with
  | error e => simp
  | ok p' =>
    by_cases hw : p'.writable = true
    · cases hl : s.locate (p'.address (.ofFamily family) id) with
      | error e =>
        simp only [hw, hl, if_true, reduceCtorEq, false_iff, Except.ok.injEq]
        rintro ⟨rfl, -, place, hplace, -⟩
        rw [hl] at hplace
        cases hplace
      | ok place =>
        simp only [hw, hl, if_true, Option.some.injEq, Prod.mk.injEq, Except.ok.injEq]
        constructor
        · rintro ⟨rfl, rfl⟩
          exact ⟨rfl, hw, place, hl, rfl⟩
        · rintro ⟨rfl, -, place', hplace, rfl⟩
          rw [hl] at hplace
          exact ⟨rfl, by rw [Except.ok.inj hplace]⟩
    · simp only [hw, Bool.false_eq_true, if_false, reduceCtorEq, false_iff, Except.ok.injEq]
      rintro ⟨rfl, hw', -⟩
      exact hw hw'

/-- A name counts by its attribute. -/
theorem target?_congr {node' : String} (h : Attribute.ofName? node = Attribute.ofName? node') :
    g.target? s family id node index = g.target? s family id node' index := by
  refine Option.ext fun t => ?_
  obtain ⟨p, r⟩ := t
  rw [target?_eq_some, target?_eq_some, lookup_eq_ok, lookup_eq_ok, h]

section
open Attempt

variable (g s) {before m : ServerModel} {ws : List (String × Value)}

theorem meets_write_point (family : Family) (id : UInt8) {node : String} {index : Option UInt8}
    (value : Float) (hcatalog : g.catalog = .standard)
    (hlookup : g.lookup family node index = .ok p) :
    Meets clock s.link host (before.Rewritten ws) (p.write s (.ofFamily family) id value)
      (fun _ m => ∃ r, g.target? s family id node index = some (p, r) ∧
        before.Rewritten (ws ++ [(r, p.encoding.encode value)]) m)
      fun e m => before.Rewritten ws m ∧
        (e.isMisfit = true → g.target? s family id node index = none) := by
  unfold Point.write
  split
  · next hwritable =>
    obtain ⟨hmem, -, -⟩ := lookup_standard hcatalog hlookup
    obtain ⟨hconstraint, hpath, -⟩ := Point.of_writable hmem hwritable
    cases hlocate : s.locate (p.address (.ofFamily family) id) with
    | error e =>
      refine (s.meets_write (R := fun _ => True) _ p.path _ fun _ _ _ _ _ => trivial).imp ?_
        fun e m hm => ⟨hm.1, fun _ => ?_⟩
      · rintro _ m ⟨-, place, hplace⟩
        rw [hlocate] at hplace
        cases hplace
      · unfold target?
        simp only [hlookup, hwritable, if_true, hlocate]
    | ok place =>
      refine (s.meets_write (R := before.Rewritten
        (ws ++ [(place.reference, p.encoding.encode value)])) _ p.path _ ?_).imp
        (fun _ m hm => ⟨place.reference, ?_, hm.1⟩) fun e m hm => ⟨hm.1, fun hmisfit => ?_⟩
      · intro m place' hm hplace hthere
        obtain rfl : place = place' := Except.ok.inj (hlocate.symm.trans hplace)
        have hplace : place.constraint = .setPoint :=
          (Session.constraint_of_locate hlocate).trans hconstraint
        have hthere : (m.findNode? place.reference .setPoint).isSome := hconstraint ▸ hthere
        rw [hpath]
        exact hm.write hplace hthere _
      · exact target?_eq_some.2 ⟨hlookup, hwritable, place, hlocate, rfl⟩
      · obtain ⟨x, hx⟩ := hm.2 hmisfit
        rw [hlocate] at hx
        cases hx
  · next hwritable =>
    refine Meets.throw fun m hm => ⟨hm, fun _ => ?_⟩
    unfold target?
    simp only [hlookup, hwritable, Bool.false_eq_true, if_false]

/-- A value is set if it fits the device, and otherwise passed over. -/
theorem meets_writePoint (q : SystemSetting) (v : SetPoint) (hcatalog : g.catalog = .standard) :
    Meets clock s.link host (before.Rewritten ws) (g.writePoint s q.family q.id v)
      (fun x m => before.Rewritten (ws ++ (g.written? s q v).toList) m ∧
        skipped [x] = if g.accepts s q v then [] else [q.describe v])
      fun _ _ => True := by
  have hinner : Meets clock s.link host (before.Rewritten ws)
      (do
        let point ← Attempt.ofMisfit (g.lookup q.family v.node v.index)
        Attempt.retried g.policy (point.write s (.ofFamily q.family) q.id v.value))
      (fun _ m => ∃ w, g.written? s q v = some w ∧ before.Rewritten (ws ++ [w]) m)
      fun e m => before.Rewritten ws m ∧
        (e.isMisfit = true → g.target? s q.family q.id v.node v.index = none) := by
    refine Meets.bind (Meets.ofMisfit.imp_error ?_) fun p => ?_
    · rintro e m ⟨hm, y, hy, rfl⟩
      refine ⟨hm, fun _ => ?_⟩
      unfold target?
      rw [hy]
    · refine Meets.of_imp (fun m hm => hm.2) fun hlookup => ?_
      refine ((meets_write_point g s q.family q.id v.value hcatalog hlookup).retried
        g.policy).mono (fun m hm => hm.1) ?_ fun _ _ => id
      rintro _ m ⟨r, htarget, hm⟩
      exact ⟨_, by rw [written?, htarget]; rfl, hm⟩
  refine (hinner.passOver (q.describe v)).imp ?_ fun _ _ _ => trivial
  rintro (text | u) m hx
  · obtain ⟨rfl, e, hmisfit, hm, hnone⟩ := hx
    have hnone := hnone hmisfit
    rw [written?, accepts, hnone]
    exact ⟨by rwa [Option.map_none, Option.toList_none, List.append_nil], rfl⟩
  · obtain ⟨w, hw, hm⟩ := hx
    have haccepts : g.accepts s q v = true := by
      unfold written? at hw
      obtain ⟨t, ht, -⟩ := Option.map_eq_some_iff.1 hw
      rw [accepts, ht]
      rfl
    rw [hw, haccepts]
    exact ⟨hm, rfl⟩

/-- What the values that are set in a system write, in their order. -/
def writes (q : SystemSetting) : List (String × Value) := q.setPoints.filterMap (g.written? s q)

/-- The values of a system that do not fit the device, as they are listed. -/
def rejected (q : SystemSetting) : List String :=
  (q.setPoints.filter fun v => !g.accepts s q v).map q.describe

theorem skipped_of_accepts {q : SystemSetting} {vs : List SetPoint} {xs : List (Except String Unit)}
    (h : List.Forall₂
      (fun v x => skipped [x] = if g.accepts s q v then [] else [q.describe v]) vs xs) :
    skipped xs = (vs.filter fun v => !g.accepts s q v).map q.describe := by
  induction h with
  | nil => rfl
  | @cons v x vs xs hx _ ih =>
    have hskipped : skipped (x :: xs) = skipped [x] ++ skipped xs :=
      List.filterMap_append (l := [x])
    rw [hskipped, hx, ih]
    cases hv : g.accepts s q v <;> simp [hv]

theorem meets_writeSystem (q : SystemSetting) (hcatalog : g.catalog = .standard) :
    Meets clock s.link host (before.Rewritten ws) (g.writeSystem s q)
      (fun texts m => before.Rewritten (ws ++ g.writes s q) m ∧ g.rejected s q = texts)
      fun _ _ => True := by
  have hall : ∀ done : List SetPoint, Meets clock s.link host
      (before.Rewritten (ws ++ done.filterMap (g.written? s q)))
      (q.setPoints.mapM (g.writePoint s q.family q.id))
      (fun xs m => before.Rewritten (ws ++ (done ++ q.setPoints).filterMap (g.written? s q)) m ∧
        List.Forall₂ (fun v x => skipped [x] = if g.accepts s q v then [] else [q.describe v])
          q.setPoints xs) fun _ _ => True := by
    refine Meets.mapM (I := fun done => before.Rewritten (ws ++ done.filterMap (g.written? s q)))
      q.setPoints fun done v => ?_
    have hone : [v].filterMap (g.written? s q) = (g.written? s q v).toList := by
      cases hv : g.written? s q v <;> simp [hv]
    rw [List.filterMap_append, hone, ← List.append_assoc]
    exact meets_writePoint g s q v hcatalog
  have hfirst := hall []
  rw [List.filterMap_nil, List.append_nil] at hfirst
  exact hfirst.bind fun xs => Meets.pure fun m hm => ⟨hm.1, (skipped_of_accepts g s hm.2).symm⟩

/-- After values were set, those that fit the device are written in their order, and the others
listed. -/
theorem meets_setData (qs : List SystemSetting) (m₀ : ServerModel)
    (hcatalog : g.catalog = .standard) :
    Meets clock s.link host (· = m₀) (g.setData s qs)
      (fun x m => m₀.Rewritten (qs.flatMap (g.writes s)) m ∧
        x = .data [] (qs.flatMap (g.rejected s))) fun _ _ => True := by
  have hall : ∀ done : List SystemSetting, Meets clock s.link host
      (m₀.Rewritten (done.flatMap (g.writes s))) (qs.mapM (g.writeSystem s))
      (fun xs m => m₀.Rewritten ((done ++ qs).flatMap (g.writes s)) m ∧
        List.Forall₂ (fun q texts => g.rejected s q = texts) qs xs) fun _ _ => True := by
    refine Meets.mapM (I := fun done => m₀.Rewritten (done.flatMap (g.writes s))) qs
      fun done q => ?_
    rw [List.flatMap_append, List.flatMap_singleton]
    exact meets_writeSystem g s q hcatalog
  refine ((hall []).mono ?_ (fun _ _ hm => hm) fun _ _ hm => hm).bind fun xs =>
    Meets.pure fun m hm => ⟨hm.1, ?_⟩
  · rintro _ rfl
    exact .refl _
  · have htexts := List.forall₂_map_left_iff.2 hm.2
    rw [List.forall₂_eq_eq_eq] at htexts
    rw [← htexts, List.flatMap_def]

end

/-! ## Reading values -/

/-- What a filter comes to at a device with the model. -/
inductive Gives (g : Gateway) (s : Session) (m : ServerModel) (q : SystemQuery) (f : Filter) :
    Except String Measurement → Prop
  | skipped (hfits : g.fits s q f = false) : Gives g s m q f (.error (q.describe f))
  | measured {p : Point} {place node : Node} {now : Int64} {measurement : Measurement}
      (hlookup : g.lookup q.family f.node f.index = .ok p)
      (hlocate : s.locate (q.place p) = .ok place)
      (hnode : m.findNode? place.reference p.constraint = some node)
      (hmeasure : p.measure now node = .ok measurement) : Gives g s m q f (.ok measurement)

section
open Attempt

variable (g s) (m : ServerModel)

theorem meets_readPoint (p : Point) (q : SystemQuery) :
    Meets clock s.link host (· = m) (p.read s (.ofFamily q.family) q.id)
      (fun x m' => m' = m ∧ ∃ place node now, s.locate (q.place p) = .ok place ∧
        m.findNode? place.reference p.constraint = some node ∧ p.measure now node = .ok x)
      fun e m' => m' = m ∧ (e.isMisfit = true → ∃ x, s.locate (q.place p) = .error x) := by
  unfold Point.read
  refine Meets.bind (s.meets_read _) fun node => ?_
  refine Meets.of_imp (X := ∃ place, s.locate (q.place p) = .ok place ∧
    m.findNode? place.reference p.constraint = some node) ?_ fun ⟨place, hplace, hnode⟩ => ?_
  · rintro _ ⟨rfl, hm⟩
    exact hm
  have hnow : Course.Within Action.SparesNodes (Action.now.perform : Work Int64) :=
    Course.within_query trivial
  refine Meets.bind ((Meets.lift hnow).mono (fun _ hm => hm.1) (fun _ _ hm => hm)
    fun _ _ hm => hm.elim) fun now => ?_
  refine Meets.ofExcept.imp (fun x _ hm => ⟨hm.1, place, node, now, hplace, hnode,
    hm.2⟩) fun e _ hm => ⟨hm.1, fun hmisfit => ?_⟩
  have hmeasure := hm.2
  unfold Point.measure at hmeasure
  split at hmeasure
  · cases hmeasure
    cases hmisfit
  · cases hmeasure

/-- A filter that fits the device has its value read, and otherwise is passed over. -/
theorem meets_readFilter (q : SystemQuery) (f : Filter) :
    Meets clock s.link host (· = m) (g.readFilter s q.family q.id f)
      (fun x m' => m' = m ∧ g.Gives s m q f x) fun _ _ => True := by
  have hinner : Meets clock s.link host (· = m)
      (do
        let point ← Attempt.ofMisfit (g.lookup q.family f.node f.index)
        Attempt.retried g.policy (point.read s (.ofFamily q.family) q.id))
      (fun x m' => m' = m ∧ g.Gives s m q f (.ok x))
      fun e m' => m' = m ∧ (e.isMisfit = true → g.fits s q f = false) := by
    refine Meets.bind (Meets.ofMisfit.imp_error ?_) fun p => ?_
    · rintro e _ ⟨hm, y, hy, rfl⟩
      exact ⟨hm, fun _ => by rw [fits, hy]⟩
    · refine Meets.of_imp (fun _ hm => hm.2) fun hlookup => ?_
      refine ((meets_readPoint s m p q).retried g.policy).mono (fun _ hm => hm.1) ?_ ?_
      · rintro x _ ⟨hm, place, node, now, hplace, hnode, hmeasure⟩
        exact ⟨hm, .measured hlookup hplace hnode hmeasure⟩
      · rintro e _ ⟨hm, hmisfit⟩
        refine ⟨hm, fun h => ?_⟩
        obtain ⟨x, hx⟩ := hmisfit h
        rw [fits, hlookup]
        simp only [hx]
        rfl
  refine (hinner.passOver (q.describe f)).imp ?_ fun _ _ _ => trivial
  rintro (text | x) _ hx
  · obtain ⟨rfl, e, hmisfit, hm, hfits⟩ := hx
    exact ⟨hm, .skipped (hfits hmisfit)⟩
  · exact hx

theorem meets_readSystem (q : SystemQuery) :
    Meets clock s.link host (· = m) (g.readSystem s q)
      (fun y m' => m' = m ∧ ∃ rs, List.Forall₂ (g.Gives s m q) q.filters rs ∧
        y = (told q rs, skipped rs)) fun _ _ => True := by
  have hall : Meets clock s.link host (· = m) (q.filters.mapM (g.readFilter s q.family q.id))
      (fun rs m' => m' = m ∧ List.Forall₂ (g.Gives s m q) q.filters rs) fun _ _ => True :=
    Meets.mapM (I := fun _ => (· = m)) q.filters (fun _ f => meets_readFilter g s m q f) []
  exact hall.bind fun rs => Meets.pure fun _ hm => ⟨hm.1, rs, hm.2, rfl⟩

/-- What is told of a device is what its model has for the filters that fit it, and the others are
listed. -/
theorem meets_getData (qs : List SystemQuery) :
    Meets clock s.link host (· = m) (g.getData s qs)
      (fun x m' => m' = m ∧ ∃ rss,
        List.Forall₂ (fun q rs => List.Forall₂ (g.Gives s m q) q.filters rs) qs rss ∧
        x = .data (List.zipWith told qs rss) (rss.flatMap skipped)) fun _ _ => True := by
  have hall : Meets clock s.link host (· = m) (qs.mapM (g.readSystem s))
      (fun ys m' => m' = m ∧ List.Forall₂ (fun q y => ∃ rs,
        List.Forall₂ (g.Gives s m q) q.filters rs ∧ y = (told q rs, skipped rs)) qs ys)
      fun _ _ => True :=
    Meets.mapM (I := fun _ => (· = m)) qs (fun _ q => meets_readSystem g s m q) []
  refine hall.bind fun ys => Meets.pure fun _ hm => ⟨hm.1, ?_⟩
  suffices h : ∃ rss, List.Forall₂ (fun q rs => List.Forall₂ (g.Gives s m q) q.filters rs) qs rss ∧
      ys.map (·.1) = List.zipWith told qs rss ∧ ys.flatMap (·.2) = rss.flatMap skipped by
    obtain ⟨rss, hrss, htold, hskipped⟩ := h
    exact ⟨rss, hrss, by rw [htold, hskipped]⟩
  have hys := hm.2
  clear hall hm
  induction hys with
  | nil => exact ⟨[], .nil, rfl, rfl⟩
  | cons h _ ih =>
    obtain ⟨rs, hrs, rfl⟩ := h
    obtain ⟨rss, hrss, htold, hskipped⟩ := ih
    refine ⟨rs :: rss, .cons hrs hrss, ?_, ?_⟩
    · rw [List.map_cons, htold, List.zipWith_cons_cons]
    · rw [List.flatMap_cons, hskipped, List.flatMap_cons]

end

/-! ## Names -/

/-- Whether a value that is set goes by the same family, number, attribute and index as a filter. -/
def IsSetBy (q : SystemQuery) (f : Filter) (e : SystemSetting × SetPoint) : Prop :=
  e.1.family = q.family ∧ e.1.id = q.id ∧
    Attribute.ofName? e.2.node = Attribute.ofName? f.node ∧ e.2.index = f.index

instance (q : SystemQuery) (f : Filter) (e : SystemSetting × SetPoint) :
    Decidable (IsSetBy q f e) :=
  inferInstanceAs (Decidable (_ ∧ _))

/-- The values that a request sets, in their order. -/
def settingsOf (qs : List SystemSetting) : List (SystemSetting × SetPoint) :=
  qs.flatMap fun q => q.setPoints.map (q, ·)

/-- The last value that a request sets under the name of a filter. -/
def lastSet? (qs : List SystemSetting) (q : SystemQuery) (f : Filter) : Option SetPoint :=
  ((settingsOf qs).reverse.find? (IsSetBy q f ·)).map (·.2)

theorem flatMap_writes (qs : List SystemSetting) : qs.flatMap (g.writes s) =
    (settingsOf qs).filterMap fun e => g.written? s e.1 e.2 := by
  rw [settingsOf, List.filterMap_flatMap]
  simp only [List.filterMap_map, Function.comp_def]
  rfl

section
variable {q : SystemQuery} {f : Filter} {e : SystemSetting × SetPoint} {place : Node}
  {qs : List SystemSetting}

/-- A value that is set under the name of a filter is set at the filter's node. -/
theorem target?_of_isSetBy (h : IsSetBy q f e) (hlookup : g.lookup q.family f.node f.index = .ok p)
    (hlocate : s.locate (q.place p) = .ok place) (hw : p.writable = true) :
    g.target? s e.1.family e.1.id e.2.node e.2.index = some (p, place.reference) := by
  obtain ⟨hfamily, hid, hattr, hindex⟩ := h
  rw [hfamily, hid, hindex, target?_congr hattr]
  exact target?_eq_some.2 ⟨hlookup, hw, place, hlocate, rfl⟩

/-- A value that is set at the node of a filter is set under its name. -/
theorem isSetBy_of_target? {t : Point × String} (hcatalog : g.catalog = .standard)
    (hlookup : g.lookup q.family f.node f.index = .ok p)
    (hlocate : s.locate (q.place p) = .ok place)
    (h : g.target? s e.1.family e.1.id e.2.node e.2.index = some t)
    (hr : t.2 = place.reference) : IsSetBy q f e := by
  obtain ⟨hlookup', hw, place', hlocate', hr'⟩ := target?_eq_some.1 h
  obtain ⟨hmem, hattr, hindex⟩ := lookup_standard hcatalog hlookup
  obtain ⟨hmem', hattr', hindex'⟩ := lookup_standard hcatalog hlookup'
  have hresolve := (Session.locate_eq_ok.1 hlocate).1
  have hresolve' := (Session.locate_eq_ok.1 hlocate').1
  rw [hr', hr] at hresolve'
  obtain ⟨hfamily, hid, hsame, hnumber⟩ := Point.eq_of_resolve hmem' hmem hw hresolve' hresolve
  have huses := (Point.of_writable hmem' hw).2.2
  refine ⟨hfamily, hid, by rw [hattr', hattr, hsame], ?_⟩
  rw [← hindex' huses, ← hindex (hsame ▸ huses), hnumber]

/-- Whether what is set last is written at the node of a filter is told by the names. -/
theorem any_written? (hcatalog : g.catalog = .standard)
    (hlookup : g.lookup q.family f.node f.index = .ok p)
    (hlocate : s.locate (q.place p) = .ok place) (hw : p.writable = true) :
    (g.written? s e.1 e.2).any (·.1 == place.reference) = decide (IsSetBy q f e) := by
  rw [written?]
  cases htarget : g.target? s e.1.family e.1.id e.2.node e.2.index with
  | none =>
    refine (decide_eq_false fun h => ?_).symm
    rw [target?_of_isSetBy h hlookup hlocate hw] at htarget
    cases htarget
  | some t =>
    rw [Option.map_some, Option.any_some, Bool.eq_iff_iff, beq_iff_eq, decide_eq_true_iff]
    refine ⟨isSetBy_of_target? hcatalog hlookup hlocate htarget, fun h => ?_⟩
    rw [target?_of_isSetBy h hlookup hlocate hw] at htarget
    rw [← Option.some.inj htarget]

/-- What is written last at the node of a filter is what is set last under its name. -/
theorem lastWritten?_writes (qs : List SystemSetting) (hcatalog : g.catalog = .standard)
    (hlookup : g.lookup q.family f.node f.index = .ok p)
    (hlocate : s.locate (q.place p) = .ok place) (hw : p.writable = true) :
    lastWritten? (qs.flatMap (g.writes s)) place.reference =
      (lastSet? qs q f).map fun v => p.encoding.encode v.value := by
  rw [flatMap_writes, lastWritten?, ← List.filterMap_reverse, List.find?_filterMap, lastSet?]
  simp only [any_written? hcatalog hlookup hlocate hw]
  cases hlast : (settingsOf qs).reverse.find? (IsSetBy q f ·) with
  | none => rfl
  | some e =>
    have hset : IsSetBy q f e := by simpa using List.find?_some hlast
    rw [Option.bind_some, written?, target?_of_isSetBy hset hlookup hlocate hw]
    rfl

end

/-! ## Requests -/

section
variable {s s' : Session} {q : SystemQuery} {f : Filter} {qs : List SystemSetting}
  {x : Except String Measurement} {before m : ServerModel}

theorem fits_iff : g.fits s q f = true ↔
    ∃ p place, g.lookup q.family f.node f.index = .ok p ∧ s.locate (q.place p) = .ok place := by
  unfold fits
  cases g.lookup q.family f.node f.index with
  | error e => simp
  | ok p => cases hlocate : s.locate (q.place p) <;> simp [hlocate, Except.isOk, Except.toBool]

theorem fits_of_congruent (h : s.Congruent s') (hfits : g.fits s q f = true) :
    g.fits s' q f = true := by
  obtain ⟨p, place, hlookup, hlocate⟩ := fits_iff.1 hfits
  obtain ⟨place', hlocate', -⟩ := h.locate hlocate
  exact fits_iff.2 ⟨p, place', hlookup, hlocate'⟩

/-- What a filter comes to after values were set: the number that was set last under its name, as
the device has it, or else what it came to before. -/
structure ReadsBack (g : Gateway) (s : Session) (before : ServerModel) (qs : List SystemSetting)
    (q : SystemQuery) (f : Filter) (x : Except String Measurement) : Prop where
  set : ∀ e ∈ settingsOf qs, g.accepts s e.1 e.2 = true → IsSetBy q f e →
    ∃ p last measurement, g.lookup q.family f.node f.index = .ok p ∧
      lastSet? qs q f = some last ∧ x = .ok measurement ∧
      measurement.node = p.attr.measurementName ∧ measurement.index = f.index ∧
      (p.encoding.encode last.value).float? = some measurement.value
  kept : (∀ e ∈ settingsOf qs, g.accepts s e.1 e.2 = true → ¬ IsSetBy q f e) →
    g.Gives s before q f x

/-- Where a value fits the device, a filter of its name gives a number, the one that was set last
under that name. -/
theorem measured_of_isSetBy (hcatalog : g.catalog = .standard) (h : s.Congruent s')
    (hm : before.Rewritten (qs.flatMap (g.writes s)) m) (hx : g.Gives s' m q f x)
    {e : SystemSetting × SetPoint} (he : e ∈ settingsOf qs) (haccepts : g.accepts s e.1 e.2 = true)
    (hset : IsSetBy q f e) :
    ∃ p last measurement, g.lookup q.family f.node f.index = .ok p ∧
      lastSet? qs q f = some last ∧ x = .ok measurement ∧
      measurement.node = p.attr.measurementName ∧ measurement.index = f.index ∧
      (p.encoding.encode last.value).float? = some measurement.value := by
  obtain ⟨p, place, hlookup, hwritable, hlocate⟩ : ∃ p place,
      g.lookup q.family f.node f.index = .ok p ∧ p.writable = true ∧
        s.locate (q.place p) = .ok place := by
    obtain ⟨⟨p, r⟩, htarget⟩ := Option.isSome_iff_exists.1 haccepts
    obtain ⟨hfamily, hid, hattr, hindex⟩ := hset
    rw [hfamily, hid, hindex, target?_congr hattr] at htarget
    obtain ⟨hlookup, hwritable, place, hlocate, -⟩ := target?_eq_some.1 htarget
    exact ⟨p, place, hlookup, hwritable, hlocate⟩
  obtain ⟨hmem, -, hnumber⟩ := lookup_standard hcatalog hlookup
  obtain ⟨hconstraint, hpath, huses⟩ := Point.of_writable hmem hwritable
  obtain ⟨place', hlocate', hplace⟩ := h.locate hlocate
  obtain ⟨last, hlast⟩ : ∃ last, lastSet? qs q f = some last := by
    refine Option.isSome_iff_exists.1 ?_
    rw [lastSet?, Option.isSome_map, List.find?_isSome]
    exact ⟨e, List.mem_reverse.2 he, decide_eq_true hset⟩
  cases hx with
  | skipped hfits =>
    rw [fits_iff.2 ⟨p, place', hlookup, hlocate'⟩] at hfits
    cases hfits
  | @measured p' place'' node now measurement hlookup' hlocate'' hnode hmeasure =>
    obtain rfl : p = p' := Except.ok.inj (hlookup.symm.trans hlookup')
    obtain rfl : place' = place'' := Except.ok.inj (hlocate'.symm.trans hlocate'')
    have hwritten := lastWritten?_writes qs hcatalog hlookup hlocate hwritable
    rw [hlast, Option.map_some, ← hplace] at hwritten
    rw [hconstraint] at hnode
    have hvalue := hm.last _ _ hwritten (by rw [hnode]; rfl)
    rw [ServerModel.value?, hnode, Option.bind_some, ← hpath] at hvalue
    unfold Point.measure at hmeasure
    rw [hvalue, Option.bind_some] at hmeasure
    split at hmeasure
    · cases hmeasure
    · next value hfloat =>
      cases hmeasure
      exact ⟨p, last, _, hlookup, hlast, rfl, rfl, hnumber huses, hfloat⟩

/-- Where no value that fits the device has its name, a filter gives what it gave before. -/
theorem gives_of_not_isSetBy (hcatalog : g.catalog = .standard) (h : s.Congruent s')
    (hm : before.Rewritten (qs.flatMap (g.writes s)) m) (hx : g.Gives s' m q f x)
    (hno : ∀ e ∈ settingsOf qs, g.accepts s e.1 e.2 = true → ¬ IsSetBy q f e) :
    g.Gives s before q f x := by
  cases hx with
  | skipped hfits =>
    exact .skipped (Bool.eq_false_iff.2 fun hthere => by
      rw [fits_of_congruent h hthere] at hfits
      cases hfits)
  | @measured p place' node now measurement hlookup hlocate' hnode hmeasure =>
    obtain ⟨place, hlocate, hplace⟩ := h.symm.locate hlocate'
    refine .measured hlookup hlocate ?_ hmeasure
    rw [← hnode, hplace, hm.others]
    rintro - w hw hr
    rw [flatMap_writes] at hw
    obtain ⟨e, he, hwritten⟩ := List.mem_filterMap.1 hw
    obtain ⟨t, htarget, rfl⟩ := Option.map_eq_some_iff.1 hwritten
    refine hno e he (by rw [accepts, htarget]; rfl) ?_
    exact isSetBy_of_target? hcatalog hlookup hlocate htarget (hr.trans hplace.symm)

/-- What is told after values were set is, for every filter that goes by the name of a value that
was not passed over, the number that was set last under that name, and for every other filter what
the device had before. -/
theorem read_after_setting {p : Plant} {clock' : Nat → Int64} {set get : Request}
    {settings : List SystemSetting} {queries : List SystemQuery} (hcatalog : g.catalog = .standard)
    (hset : set.operation = .setData settings) (hget : get.operation = .getData queries)
    (hsame : get.deviceId = set.deviceId)
    (hs : (p.runBy clock (g.handle set)).1.outcome.isSuccess = true)
    (hs' : ((p.runBy clock (g.handle set)).2.runBy clock'
      (g.handle get)).1.outcome.isSuccess = true) :
    ∃ d ied s rss, p.registry.find? set.deviceId = some d ∧
      p.network.find? d.identity.host = some ied ∧ s.identity = d.identity ∧
      s.model.plain = (g.template.map ServerModel.plain).getD ied.model.plain ∧
      (p.runBy clock (g.handle set)).1 =
        set.respond (.success (.data [] (settings.flatMap (g.rejected s)))) ∧
      ((p.runBy clock (g.handle set)).2.runBy clock' (g.handle get)).1 =
        get.respond (.success (.data (List.zipWith told queries rss) (rss.flatMap skipped))) ∧
      List.Forall₂ (fun q rs => List.Forall₂ (g.ReadsBack s ied.model settings q) q.filters rs)
        queries rss := by
  obtain ⟨d, s, m, payload, ending, opened, h⟩ := succeeds_of_isSuccess hs
  obtain ⟨d', s', m', payload', ending', opened', h'⟩ := succeeds_of_isSuccess hs'
  obtain ⟨ied, hied, rfl⟩ := Option.map_eq_some_iff.1 h.there
  -- The first request leaves what it set last.
  have hwritten := h.meets (Q := fun x m => ied.model.plain.Rewritten
      (settings.flatMap (g.writes s)) m ∧ x.1 = .data [] (settings.flatMap (g.rejected s)))
    (E := fun _ _ => True) (by
      rw [hset]
      exact (meets_setData g s settings ied.model.plain hcatalog).bind fun x =>
        Attempt.Meets.pure fun _ hm => hm)
  obtain ⟨rfl, hrewritten, hpayload⟩ := h.next h' hsame hwritten
  -- So both sessions find the same nodes.
  have hcongruent : s.Congruent s' := by
    refine ⟨congrArg Identity.serverName (h'.identity.trans h.identity.symm), fun r c => ?_⟩
    have hoffered : (s'.model.plain.findNode? r c).isSome =
        (s.model.plain.findNode? r c).isSome := by
      rw [h'.offered, h.offered]
      cases g.template with
      | some t => rfl
      | none => exact hrewritten.nodes r c
    exact hoffered
  -- The second request tells what it finds there.
  have htold := h'.meets (Q := fun x m => m = m' ∧ ∃ rss,
      List.Forall₂ (fun q rs => List.Forall₂ (g.Gives s' m' q) q.filters rs) queries rss ∧
      x.1 = .data (List.zipWith told queries rss) (rss.flatMap skipped))
    (E := fun _ _ => True) (by
      rw [hget]
      exact (meets_getData g s' m' queries).bind fun x => Attempt.Meets.pure fun _ hm => hm)
  obtain ⟨-, -, -, rss, hrss, hpayload'⟩ := htold.offers
  refine ⟨d', ied, s, rss, h.known, hied, h.identity, h.offered, by rw [h.tells, ← hpayload],
    by rw [h'.tells, ← hpayload'], hrss.imp fun q rs hrs => hrs.imp fun f x hx => ?_⟩
  exact ⟨fun e he haccepts => measured_of_isSetBy hcatalog hcongruent hrewritten.of_plain hx he
      haccepts, gives_of_not_isSetBy hcatalog hcongruent hrewritten.of_plain hx⟩

end

end Gateway

namespace Plant

/-- A terminal unit with a solar plant and a battery. -/
def storing : Plant :=
  let d : Device := ⟨⟨"RTU-1", "10.0.0.2", .genericRtu, some "ZOWN_POC"⟩, [], false, []⟩
  Plant.start (.ofList [d])
    (Network.empty.insert "10.0.0.2" (.ofModel (Preset.rtu d.identity.serverName))) 0 ""

end Plant

/-- A setting in two spellings, and two that the terminal unit does not have. -/
def schedules : List SystemSetting :=
  [⟨1, .battery, [⟨"SchdTyp", some 2, 3.0⟩, ⟨"SchdId", some 9, 1.0⟩]⟩,
    ⟨2, .battery, [⟨"SchdTyp", some 2, 5.0⟩]⟩, ⟨1, .battery, [⟨" schdtyp ", some 2, 4.0⟩]⟩]

def scheduleQueries : List SystemQuery :=
  [⟨1, .battery, [⟨"SCHDTYP", some 2⟩, ⟨"SchdTyp", some 1⟩]⟩, ⟨1, .pv, [⟨"SchdTyp", some 2⟩]⟩]

namespace Request

def scheduling : Request := ⟨"1", "platform", "RTU-1", .setData schedules⟩

def scheduleOf : Request := ⟨"2", "platform", "RTU-1", .getData scheduleQueries⟩

end Request

theorem Gateway.read_after_setting_schedules :
    (Plant.storing.runBy Plant.waited (standard.handle .scheduling)).1.outcome =
      .success (.data [] ["BATTERY1.SchdId[9]", "BATTERY2.SchdTyp[2]"]) ∧
    ((Plant.storing.runBy Plant.waited (standard.handle .scheduling)).2.runBy Plant.waited
      (standard.handle .scheduleOf)).1.outcome.isSuccess = true ∧
    (lastSet? schedules ⟨1, .battery, []⟩ ⟨"SCHDTYP", some 2⟩).map (·.node) = some " schdtyp " ∧
    ∃ d ied s rss, Plant.storing.registry.find? "RTU-1" = some d ∧
      Plant.storing.network.find? d.identity.host = some ied ∧ s.identity = d.identity ∧
      s.model.plain = ied.model.plain ∧
      (Plant.storing.runBy Plant.waited (standard.handle .scheduling)).1 =
        Request.scheduling.respond (.success
          (.data [] (schedules.flatMap (standard.rejected s)))) ∧
      ((Plant.storing.runBy Plant.waited (standard.handle .scheduling)).2.runBy Plant.waited
        (standard.handle .scheduleOf)).1 = Request.scheduleOf.respond (.success
          (.data (List.zipWith told scheduleQueries rss) (rss.flatMap skipped))) ∧
      List.Forall₂ (fun q rs => List.Forall₂
        (standard.ReadsBack s ied.model schedules q) q.filters rs) scheduleQueries rss := by
  have hwritten : (Plant.storing.runBy Plant.waited (standard.handle .scheduling)).1.outcome =
      .success (.data [] ["BATTERY1.SchdId[9]", "BATTERY2.SchdTyp[2]"]) := by decide +kernel
  have hs : (Plant.storing.runBy Plant.waited
      (standard.handle .scheduling)).1.outcome.isSuccess = true := by rw [hwritten]; rfl
  have hs' : ((Plant.storing.runBy Plant.waited (standard.handle .scheduling)).2.runBy
      Plant.waited (standard.handle .scheduleOf)).1.outcome.isSuccess = true := by decide +kernel
  have hcatalog : standard.catalog = .standard := rfl
  have hset : Request.scheduling.operation = .setData schedules := rfl
  have hget : Request.scheduleOf.operation = .getData scheduleQueries := rfl
  have hsame : Request.scheduleOf.deviceId = Request.scheduling.deviceId := rfl
  exact ⟨hwritten, hs', by decide +kernel,
    Gateway.read_after_setting hcatalog hset hget hsame hs hs'⟩

end FieldGateway
