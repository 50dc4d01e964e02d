import FieldGateway.Proofs.Address.Parts
import FieldGateway.Proofs.Command.Catalog
import FieldGateway.Proofs.Gateway.Reading
import FieldGateway.Proofs.Session.Write

/-!
# Values that are asked for and values that are reported

A value reaches the platform in two ways: a client asks for it by the family and the number of a
system, or the device reports its node, and where it belongs is read off the reference. Both come to
the same, but that reports do not tell the two kinds of terminal unit apart.

* `Reader.locate_of_resolve`: the point of a reported node.
* `Gateway.measure_of_readings`: what a client is told of a node that the device tells.
* `Reader.reported_as_read`: both ways come to the same.
-/

namespace FieldGateway

/-! ## From a reference back to a point -/

/-- The family that reports tell for the systems of a family. -/
def Family.inReports (f : Family) : Family := if f = .daRtu then .genericRtu else f

theorem LogicalDevice.single_ofFamily {f : Family} (h : f.isRtu = true) :
    (ofFamily f).single = false := by
  cases f <;> first | rfl | cases h

namespace Point

variable {p : Point} {family : Family} {id : UInt8}

theorem shownInstance_address (h : family.isRtu = true) :
    (p.address (.ofFamily family) id).shownInstance = some id := by
  unfold Address.shownInstance
  rw [if_neg]
  · rfl
  · rw [address, LogicalDevice.single_ofFamily h]
    decide

/-- A system from number 1 on has references for all its points. -/
theorem exists_resolve (server : String) (hid : id ≠ 0)
    (hp : p ∈ Catalog.standardPoints family) :
    ∃ r, Reference.resolve server (p.address (.ofFamily family) id) = .ok r := by
  have htoken : (LogicalDevice.ofFamily family).token.isEmpty = false := by
    cases family <;> decide +kernel
  exact ⟨_, Reference.resolve_eq_ok.2 ⟨Catalog.isLogicalNode_of_mem_standardPoints hp, htoken,
    .inr ⟨id, hid, rfl⟩, rfl⟩⟩

end Point

namespace Reader

variable {reader : Reader} {family : Family} {id : UInt8} {attr : Attribute}
  {index : Option UInt8} {point : Point} {member : Node}

theorem familyOf_ofFamily (f : Family) :
    familyOf (LogicalDevice.ofFamily f).token = .ok f.inReports := by
  cases f <;> decide +kernel

/-- The number of a schedule is read off its logical node. -/
theorem nodeIndex?_logicalNode (h : point ∈ Catalog.standardPoints family)
    (huses : point.attr.usesIndex = true) : nodeIndex? point.logicalNode = point.index := by
  have hall : ∀ f ∈ Family.all, ∀ p ∈ Catalog.standardPoints f, p.attr.usesIndex = true →
      nodeIndex? p.logicalNode = p.index := by decide +kernel
  exact hall family family.mem_all point h huses

theorem mem_standardPoints_inReports (h : point ∈ Catalog.standardPoints family) :
    point ∈ Catalog.standardPoints family.inReports := by
  cases family <;> exact h

/-- The reference of a point leads back to it. -/
theorem locate_of_resolve (hcatalog : reader.catalog = .standard) (hfamily : family.isRtu = true)
    (hpoint : point ∈ Catalog.standardPoints family)
    (hresolve : Reference.resolve reader.server (point.address (.ofFamily family) id) =
      .ok member.reference) :
    reader.locate member = .ok (family.inReports, id, point) := by
  have hsplit := Reference.split?_resolve (LogicalDevice.isPlain_ofFamily family) hresolve
  rw [Point.shownInstance_address hfamily] at hsplit
  have hparts : reader.partsOf member = .ok ⟨(LogicalDevice.ofFamily family).token, some id,
      point.logicalNode, point.attr.token⟩ := by
    unfold partsOf
    rw [hsplit]
    rfl
  have hlookup : reader.catalog.lookup family.inReports point.attr
      (if point.attr.usesIndex then nodeIndex? point.logicalNode else none) = .ok point := by
    have hfind := Catalog.find?_of_mem_standardPoints (mem_standardPoints_inReports hpoint)
    rw [hcatalog, Catalog.lookup_eq_ok, ← hfind]
    unfold PointKey.make
    by_cases huses : point.attr.usesIndex = true
    · simp only [huses, if_true, nodeIndex?_logicalNode hpoint huses]
    · simp only [huses, if_false, Bool.false_eq_true]
  unfold locate
  rw [hparts]
  simp only [bind, Except.bind, familyOf_ofFamily, Attribute.named_token, hlookup, Except.mapError,
    Option.getD_some]
  rfl

end Reader

/-! ## What a client is told -/

theorem Work.Runs.answers {α : Type} {i : Nat} {log : List Entry} {c : Work α} {r : α}
    (h : c.Runs i log r) : ∀ e ∈ log, ∃ a answer, e.event = .did i a answer ∧
      e.before.Answers a answer e.after := by
  induction h with
  | done r => simp
  | ask ha _ ih => exact List.forall_mem_cons.2 ⟨⟨_, _, rfl, ha⟩, ih⟩
  | wait _ ih => exact ih

/-- A device tells a node by the reference that it was asked for. -/
theorem Plant.reference_of_answers {p q : Plant} {link : Nat} {r : String} {c : Constraint}
    {node : Node} (h : p.Answers (.read link r c) (.ok node) q) : node.reference = r := by
  obtain ⟨host, d, d', -, hd, -⟩ := ask_ok (h.perform_eq fun f hf => by cases hf)
  have hd : d.read r c = (.ok node, d') := hd
  unfold Ied.read at hd
  split at hd
  · cases hd
  · split at hd
    · cases hd
    · next hfind =>
      cases hd
      exact (ServerModel.isAt_of_findNode? hfind).1

section
variable {i : Nat} {log : List Entry} {s : Session} {node : Node}

/-- A node that was told over a session is the one that was asked for. -/
theorem Session.of_readings {a : Address} {x : Except Failure Node}
    (h : (s.read a).run.Runs i log x) (hnode : node ∈ readings log) :
    Reference.resolve s.server a = .ok node.reference ∧ x = .ok node := by
  rcases Session.runs_read h with ⟨hnone, -⟩ | ⟨place, answer, hlocate, rfl, hlog, hread⟩
  · rw [hnone] at hnode
    cases hnode
  · obtain ⟨e, he, htold⟩ := List.mem_filterMap.1 hnode
    obtain ⟨b, told, hevent, hanswers⟩ := h.answers e he
    have hkept := hlog e he
    rw [Entry.did?, hevent] at htold
    rw [Entry.Kept, hevent] at hkept
    have hreference : node.reference = place.reference := by
      cases b with
      | read l r c =>
        cases told with
        | ok n =>
          obtain rfl : n = node := Option.some.inj htold
          obtain ⟨-, rfl, -⟩ := hkept
          exact Plant.reference_of_answers hanswers
        | error f => cases htold
      | _ => cases htold
    rw [hread] at hnode
    cases answer with
    | ok n =>
      obtain rfl : node = n := List.mem_singleton.1 hnode
      exact ⟨by rw [hreference]; exact (Session.locate_eq_ok.1 hlocate).1, rfl⟩
    | error f => cases hnode

/-- What an attempt at reading a point comes to is what the point makes of the node. -/
theorem Point.measure_of_readings {p : Point} {device : LogicalDevice} {id : UInt8}
    {x : Except Failure Measurement} (h : (p.read s device id).run.Runs i log x)
    (hnode : node ∈ readings log) :
    Reference.resolve s.server (p.address device id) = .ok node.reference ∧
      ∃ now, (∃ q q', ⟨q, .did i .now now, q'⟩ ∈ log) ∧ x = p.measure now node := by
  rcases Attempt.runs_bind.1 h with ⟨l₁, n, l₂, h₁, h₂, rfl⟩ | ⟨e, h₁, rfl⟩
  · obtain ⟨l₃, now, l₄, h₃, h₄, rfl⟩ := Attempt.runs_liftThen.1 h₂
    obtain ⟨q, q', -, rfl⟩ := Work.runs_perform.1 h₃
    obtain ⟨rfl, rfl⟩ := Attempt.runs_ofExcept.1 h₄
    have hfirst : node ∈ readings l₁ := by
      rw [readings_append] at hnode
      exact (List.mem_append.1 hnode).resolve_right List.not_mem_nil
    obtain ⟨hresolve, hn⟩ := Session.of_readings h₁ hfirst
    obtain rfl := Except.ok.inj hn
    exact ⟨hresolve, now, ⟨q, q', by simp⟩, rfl⟩
  · cases (Session.of_readings h₁ hnode).2

/-- A value that does not fit its point is neither tried again nor passed over. -/
theorem Point.cases_measure (p : Point) (now : Int64) (node : Node) :
    (∃ m, p.measure now node = .ok m) ∨
      p.measure now node = .error (.unexpected (.noNumber node.reference p.path)) := by
  unfold measure
  cases (node.get? p.path).bind Value.float? with
  | none => exact .inr rfl
  | some v => exact .inl ⟨_, rfl⟩

/-- What a filter comes to, if the device tells a node, is what the point makes of it. -/
theorem Gateway.measure_of_readings {g : Gateway} {family : Family} {id : UInt8} {f : Filter}
    {p : Point} {x : Except Failure (Except String Measurement)}
    (hlookup : g.lookup family f.node f.index = .ok p)
    (h : (g.readFilter s family id f).run.Runs i log x) (hnode : node ∈ readings log) :
    Reference.resolve s.server (p.address (.ofFamily family) id) = .ok node.reference ∧
      ∃ now, (∃ q q', ⟨q, .did i .now now, q'⟩ ∈ log) ∧ x = (p.measure now node).map .ok := by
  obtain ⟨part, y, more, rfl, hpart, hmore, hx⟩ := runs_passOver h
  have hcounts : ∀ {l : List Entry}, (∀ e ∈ l, e.Kept Action.IsCount) → readings l = [] :=
    fun hl => filterMap_of_kept hl fun _ answer ha => Action.read?_of_isCount ha answer
  rcases Attempt.runs_bind.1 hpart with ⟨l₁, p', l₂, h₁, h₂, rfl⟩ | ⟨e, h₁, rfl⟩
  · obtain ⟨rfl, hp'⟩ := Attempt.cases_ofMisfit h₁
    obtain rfl : p' = p := Except.ok.inj (hp'.symm.trans hlookup)
    obtain ⟨earlier, last, z, n, q₁, q₂, c, hearlier, hlast, rfl, hc, rfl⟩ :=
      Attempt.runs_retried h₂
    have hsilent := (Point.of_spent hearlier).1
    have htold : node ∈ readings last := by
      have hafter : readings (⟨q₁, .did i (.count c 1) (), q₂⟩ :: more) = [] :=
        hcounts (List.forall_mem_cons.2 ⟨trivial, hmore⟩)
      simpa [readings_append, hsilent, hafter] using hnode
    obtain ⟨hresolve, now, ⟨q₃, q₄, hnow⟩, rfl⟩ := Point.measure_of_readings hlast htold
    refine ⟨hresolve, now, ⟨q₃, q₄, by simp [hnow]⟩, ?_⟩
    rcases p'.cases_measure now node with ⟨m, hm⟩ | hm
    · rw [hm] at hx ⊢
      exact hx
    · rw [hm] at hx ⊢
      exact hx
  · obtain ⟨rfl, m, hm, rfl⟩ := Attempt.cases_ofMisfit h₁
    rw [hlookup] at hm
    cases hm

end

/-! ## Both ways -/

/-- For every point of the standard catalog, a report that brings the node of its reference is taken
for that point of that system, and what is measured, or why nothing is, is the same as when a client
asks for the value and the device tells the node. Only the family is told as that of the logical
device, which the two kinds of terminal unit share. -/
theorem Reader.reported_as_read {reader : Reader} {family : Family} {id : UInt8}
    {attr : Attribute} {index : Option UInt8} {point : Point}
    (hcatalog : reader.catalog = .standard) (hfamily : family.isRtu = true) (hid : id ≠ 0)
    (hpoint : Catalog.standard.lookup family attr index = .ok point) :
    ∃ r, Reference.resolve reader.server (point.address (.ofFamily family) id) = .ok r ∧
      (∀ (member : Node) (now : Int64), member.reference = r →
        reader.locate member = .ok (family.inReports, id, point) ∧
        reader.measure now member = (point.measure now member).map (⟨family.inReports, id, ·⟩)) ∧
      ∀ (g : Gateway) (s : Session) (f : Filter) (i : Nat) (log : List Entry) (node : Node)
        (x : Except Failure (Except String Measurement)), s.server = reader.server →
        g.lookup family f.node f.index = .ok point →
        (g.readFilter s family id f).run.Runs i log x → node ∈ readings log →
        node.reference = r ∧ ∃ now, (∃ q q', ⟨q, .did i .now now, q'⟩ ∈ log) ∧
          x = (point.measure now node).map .ok := by
  have hmem := (Catalog.lookup_standard hpoint).1
  obtain ⟨r, hr⟩ := Point.exists_resolve reader.server hid hmem
  refine ⟨r, hr, fun member now hmember => ?_, fun g s f i log node x hs hlookup hrun hnode => ?_⟩
  · have hlocate : reader.locate member = .ok (family.inReports, id, point) :=
      locate_of_resolve hcatalog hfamily hmem (by rw [hr, hmember])
    refine ⟨hlocate, ?_⟩
    simp only [measure, hlocate, Except.mapError, bind, Except.bind]
    cases point.measure now member <;> rfl
  · obtain ⟨hresolve, htold⟩ := Gateway.measure_of_readings hlookup hrun hnode
    rw [hs, hr] at hresolve
    exact ⟨(Except.ok.inj hresolve).symm, htold⟩

namespace Reader

/-- What reads the reports of a plant with a battery behind it. -/
def ofPlant : Reader := ⟨"RTU-1", "ZOWN_POC", .standard⟩

/-- The type of the third schedule of the second battery. -/
def scheduled : Node :=
  .ofList "ZOWN_POCBATTERY2/DSCH3.SchdTyp" .setPoint [("setVal", .int 4), ("t", .timestamp 9)]

theorem reported_as_read_schedule :
    Catalog.standard.lookup .battery .scheduleType (some 3) =
      .ok (.schedule .scheduleType 3) ∧
    ofPlant.locate scheduled = .ok (.battery, 2, .schedule .scheduleType 3) ∧
    (∀ now, ofPlant.measure now scheduled =
      ((Point.schedule .scheduleType 3).measure now scheduled).map (⟨.battery, 2, ·⟩)) ∧
    ∀ (g : Gateway) (s : Session) (i : Nat) (log : List Entry) (node : Node)
      (x : Except Failure (Except String Measurement)), s.server = "ZOWN_POC" →
      g.lookup .battery " schdtyp " (some 3) = .ok (.schedule .scheduleType 3) →
      (g.readFilter s .battery 2 ⟨" schdtyp ", some 3⟩).run.Runs i log x → node ∈ readings log →
      node.reference = scheduled.reference ∧ ∃ now, (∃ q q', ⟨q, .did i .now now, q'⟩ ∈ log) ∧
        x = ((Point.schedule .scheduleType 3).measure now node).map .ok := by
  have hlookup : Catalog.standard.lookup .battery .scheduleType (some 3) =
      .ok (.schedule .scheduleType 3) := by decide +kernel
  have hreference : Reference.resolve ofPlant.server ((Point.schedule .scheduleType 3).address
      (.ofFamily .battery) 2) = .ok scheduled.reference := by decide +kernel
  have hcatalog : ofPlant.catalog = .standard := rfl
  have hfamily : Family.battery.isRtu = true := rfl
  have hid : (2 : UInt8) ≠ 0 := by decide
  obtain ⟨r, hr, hreported, htold⟩ := reported_as_read hcatalog hfamily hid hlookup
  have hsame : scheduled.reference = r := Except.ok.inj (hreference.symm.trans hr)
  refine ⟨hlookup, (hreported scheduled 0 hsame).1,
    fun now => (hreported scheduled now hsame).2, fun g s i log node x hs hf hrun hnode => ?_⟩
  rw [hsame]
  exact htold g s ⟨" schdtyp ", some 3⟩ i log node x hs hf hrun hnode

/-- The health of a terminal unit of one kind is reported as that of the other kind. -/
theorem terminal_unit_reported_as_generic :
    let reader : Reader := ⟨"RTU-1", "DA_RTU", .standard⟩
    let health : Node :=
      .ofList "DA_RTURTU1/LLN0.Health" .status [("stVal", .int 2), ("t", .timestamp 9)]
    Catalog.standard.lookup .daRtu .health none = .ok (.status .health) ∧
    Reference.resolve reader.server ((Point.status .health).address (.ofFamily .daRtu) 1) =
      .ok health.reference ∧
    reader.locate health = .ok (.genericRtu, 1, .status .health) ∧
    reader.locate health ≠ .ok (.daRtu, 1, .status .health) ∧
    reader.measure 0 health ≠ ((Point.status .health).measure 0 health).map (⟨.daRtu, 1, ·⟩) := by
  intro reader health
  have hlocate : reader.locate health = .ok (.genericRtu, 1, .status .health) := by
    decide +kernel
  have hfamily : (reader.measure 0 health).map (·.family) = .ok .genericRtu := by decide +kernel
  refine ⟨by decide +kernel, by decide +kernel, hlocate, by rw [hlocate]; decide, fun h => ?_⟩
  rw [h] at hfamily
  cases hm : (Point.status .health).measure 0 health with
  | ok m =>
    rw [hm] at hfamily
    have hsame : Family.daRtu = .genericRtu := Except.ok.inj hfamily
    cases hsame
  | error e =>
    rw [hm] at hfamily
    cases hfamily

end Reader

end FieldGateway
