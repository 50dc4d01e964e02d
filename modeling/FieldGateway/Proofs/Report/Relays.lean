import FieldGateway.Command.Light
import FieldGateway.Report.Collector

/-!
# Relays in events

A light value names a relay by its number towards the platform, a report by its number in the
device. Both numbers are looked up in the output settings: of the settings with one number towards
the platform the first counts, of those of one relay the last.

* `Event.ofMember_eq_ok_iff`: which members are events, and of what.
* `Event.externalId_of_isLastOf`, `Event.externalId_eq_zero`: the number that is told of a relay.
* `Event.index_by_switch`: the number that is told, for every switch number.
* `Light.told_index`: what is told of the relay that a light value is for.
-/

namespace FieldGateway

namespace Table

variable {κ ν : Type} [Ord κ] [Std.TransOrd κ] [Std.LawfulEqOrd κ]

theorem find?_foldl_insert_of_ne {k : κ} {l : List (κ × ν)} (h : ∀ e ∈ l, e.1 ≠ k)
    (t : Table κ ν) : (l.foldl (fun t e => t.insert e.1 e.2) t).find? k = t.find? k := by
  induction l generalizing t with
  | nil => rfl
  | cons e l ih =>
    rw [List.foldl_cons, ih fun e' he' => h e' (List.mem_cons_of_mem _ he'),
      find?_insert_of_ne _ _ (h e List.mem_cons_self).symm]

/-- Of the pairs with one key the last is found. -/
theorem find?_ofList_append {k : κ} {after : List (κ × ν)} (h : ∀ e ∈ after, e.1 ≠ k)
    (before : List (κ × ν)) (v : ν) : (ofList (before ++ (k, v) :: after)).find? k = some v := by
  rw [ofList, List.foldl_append, List.foldl_cons, find?_foldl_insert_of_ne h,
    find?_insert_self]

end Table

/-! ## Output settings -/

/-- Holds of the last of some settings that is of a relay. -/
def OutputSetting.IsLastOf (o : OutputSetting) (relay : UInt8) (outputs : List OutputSetting) :
    Prop :=
  ∃ before after, outputs = before ++ o :: after ∧ o.internalId = relay ∧
    ∀ p ∈ after, p.internalId ≠ relay

namespace OutputSetting

variable {o p : OutputSetting} {relay : UInt8} {outputs : List OutputSetting}

theorem IsLastOf.mem (h : o.IsLastOf relay outputs) : o ∈ outputs := by
  obtain ⟨before, after, rfl, -⟩ := h
  exact List.mem_append_right _ List.mem_cons_self

theorem IsLastOf.internalId (h : o.IsLastOf relay outputs) : o.internalId = relay := by
  obtain ⟨before, after, -, ho, -⟩ := h
  exact ho

theorem exists_isLastOf (h : ∃ o ∈ outputs, o.internalId = relay) :
    ∃ o : OutputSetting, o.IsLastOf relay outputs := by
  induction outputs with
  | nil => simp at h
  | cons p outputs ih =>
    by_cases hrest : ∃ o ∈ outputs, o.internalId = relay
    · obtain ⟨o, before, after, rfl, ho, hafter⟩ := ih hrest
      exact ⟨o, p :: before, after, rfl, ho, hafter⟩
    · have hp : p.internalId = relay := by simpa [hrest] using h
      exact ⟨p, [], outputs, rfl, hp, fun q hq hrelay => hrest ⟨q, hq, hrelay⟩⟩

end OutputSetting

/-! ## Events -/

namespace Event

/-- A member of a report that tells of an event of some kind at the switch with a number. -/
structure Shows (member : Node) (kind : EventKind) (switch : Int64) : Prop where
  kind : ((member.get? "evnType").bind Value.int?).bind
    (fun code => (byte? code).bind EventKind.ofCode?) = some kind
  switch : (member.get? "swNum").bind Value.int? = some switch

variable {deviceId : String} {ids : Table UInt8 UInt8} {entered : Option Int64} {now : Int64}
  {member : Node} {outputs : List OutputSetting} {o : OutputSetting} {relay : UInt8} {n : Int64}

theorem required_eq_ok_iff {path : String} :
    required member path = .ok n ↔ (member.get? path).bind Value.int? = some n := by
  unfold required
  cases (member.get? path).bind Value.int? <;> simp

theorem kindOf_eq_ok_iff {code : Int64} {kind : EventKind} :
    kindOf code = .ok kind ↔ (byte? code).bind EventKind.ofCode? = some kind := by
  unfold kindOf
  cases (byte? code).bind EventKind.ofCode? <;> simp

/-- Which members are events, and what is told of them. -/
theorem ofMember_eq_ok_iff {e : Notification} :
    ofMember deviceId ids entered now member = .ok e ↔
      ∃ kind switch, Shows member kind switch ∧
        e = ⟨deviceId, time member entered now, kind, description member kind,
          externalId ids switch⟩ := by
  constructor
  · intro h
    unfold ofMember at h
    cases hcode : required member "evnType" with
    | error f => simp [hcode, bind, Except.bind] at h
    | ok code =>
      cases hkind : kindOf code with
      | error f => simp [hcode, hkind, bind, Except.bind] at h
      | ok kind =>
        cases hswitch : required member "swNum" with
        | error f => simp [hcode, hkind, hswitch, bind, Except.bind] at h
        | ok switch =>
          simp only [hcode, hkind, hswitch, bind, Except.bind, pure, Except.pure,
            Except.ok.injEq] at h
          refine ⟨kind, switch, ⟨?_, required_eq_ok_iff.1 hswitch⟩, h.symm⟩
          rw [required_eq_ok_iff.1 hcode]
          exact kindOf_eq_ok_iff.1 hkind
  · rintro ⟨kind, switch, ⟨hkind, hswitch⟩, rfl⟩
    obtain ⟨code, hcode, hkind⟩ := Option.bind_eq_some_iff.1 hkind
    rw [ofMember, required_eq_ok_iff.2 hcode, required_eq_ok_iff.2 hswitch]
    simp only [kindOf_eq_ok_iff.2 hkind, bind, Except.bind, pure, Except.pure]

/-! ### The number of a relay -/

theorem byte?_eq_some_iff : byte? n = some relay ↔ n.toInt = relay.toNat := by
  rw [byte?, Option.ite_none_right_eq_some, Option.some.injEq, ← UInt8.toNat_inj]
  constructor
  · rintro ⟨⟨hnonneg, hsmall⟩, h⟩
    have hlt : n.toInt.toNat < 256 := by omega
    rw [UInt8.toNat_ofNat_of_lt' hlt] at h
    omega
  · intro h
    have hrelay : relay.toNat < 256 := relay.toNat_lt
    refine ⟨by omega, ?_⟩
    rw [h, Int.toNat_natCast, UInt8.toNat_ofNat_of_lt' hrelay]

/-- A switch number that is no relay of the settings is told as 0. -/
theorem externalId_eq_zero (h : ∀ o ∈ outputs, n.toInt ≠ o.internalId.toNat) :
    externalId (externalIds outputs) n = 0 := by
  unfold externalId
  cases hrelay : byte? n with
  | none => rfl
  | some relay =>
    have hne : ∀ e ∈ outputs.map fun o => (o.internalId, o.externalId), e.1 ≠ relay := by
      rintro e he rfl
      obtain ⟨o, ho, rfl⟩ := List.mem_map.1 he
      exact h o ho (byte?_eq_some_iff.1 hrelay)
    rw [Option.bind_some, externalIds, Table.ofList, List.foldl_cons,
      Table.find?_foldl_insert_of_ne hne]
    -- without a setting only the reserved number can be found
    rw [Table.find?_insert]
    split <;> rfl

theorem externalId_of_isLastOf (h : o.IsLastOf relay outputs) (hn : n.toInt = relay.toNat) :
    externalId (externalIds outputs) n = o.externalId := by
  obtain ⟨before, after, rfl, rfl, hafter⟩ := h
  have hne : ∀ e ∈ after.map fun o => (o.internalId, o.externalId), e.1 ≠ o.internalId := by
    intro e he
    obtain ⟨p, hp, rfl⟩ := List.mem_map.1 he
    exact hafter p hp
  rw [externalId, byte?_eq_some_iff.2 hn, Option.bind_some, externalIds, List.map_append,
    List.map_cons, ← List.cons_append, Table.find?_ofList_append hne, Option.getD_some]

/-- What is told of an event at a switch, whatever the settings are: the number of the last setting
of that relay, and 0 if there is none, as for all numbers that no relay can have. Switch 0 itself is
told as 0 exactly if the last setting of relay 0, if there is one, has no other number for it. -/
theorem index_by_switch (outputs : List OutputSetting) {kind : EventKind}
    (h : Shows member kind n) (deviceId : String) (entered : Option Int64) (now : Int64) :
    ∃ e, ofMember deviceId (externalIds outputs) entered now member = .ok e ∧
      (¬ (0 ≤ n.toInt ∧ n.toInt ≤ 255) → e.index = 0) ∧
      ((∀ o ∈ outputs, n.toInt ≠ o.internalId.toNat) → e.index = 0) ∧
      (∀ (o : OutputSetting) (relay : UInt8), n.toInt = relay.toNat → o.IsLastOf relay outputs →
        e.index = o.externalId) ∧
      (n = 0 → (e.index = 0 ↔ ∀ o : OutputSetting, o.IsLastOf 0 outputs → o.externalId = 0)) := by
  refine ⟨_, ofMember_eq_ok_iff.2 ⟨kind, n, h, rfl⟩, fun hrange => ?_, externalId_eq_zero,
    fun o relay hn ho => externalId_of_isLastOf ho hn, ?_⟩
  · refine externalId_eq_zero fun o ho hn => hrange ?_
    have := o.internalId.toNat_lt
    omega
  · rintro rfl
    refine ⟨fun hzero o ho => (externalId_of_isLastOf ho rfl).symm.trans hzero, fun hlast => ?_⟩
    by_cases hrelay : ∃ o ∈ outputs, o.internalId = 0
    · obtain ⟨o, ho⟩ := OutputSetting.exists_isLastOf hrelay
      exact (externalId_of_isLastOf ho rfl).trans (hlast o ho)
    · refine externalId_eq_zero fun o ho hzero => hrelay ⟨o, ho, UInt8.toNat_inj.1 ?_⟩
      exact Int.ofNat.inj hzero.symm

/-- A light that was switched on, at the switch with a number. -/
def lightOnAt (n : Int64) : Node :=
  .ofList "SWDeviceGenericIO/CSLC.EvnRpn1" .bufferedReport [("evnType", .int 11), ("swNum", .int n)]

/-- Two settings of one relay, and a switch number that no relay can have. -/
theorem index_by_switch_renumbered :
    Shows (lightOnAt 2) .lightOn 2 ∧
      (⟨2, 7, .tariff⟩ : OutputSetting).IsLastOf 2 [⟨2, 5, .light⟩, ⟨2, 7, .tariff⟩] ∧
      Shows (lightOnAt 256) .lightOn 256 ∧
      (∃ e, ofMember "SSLD-1" (externalIds [⟨2, 5, .light⟩, ⟨2, 7, .tariff⟩]) none 0
        (lightOnAt 2) = .ok e ∧ e.index = 7) ∧
      ∃ e, ofMember "SSLD-1" (externalIds [⟨2, 5, .light⟩, ⟨2, 7, .tariff⟩]) none 0
        (lightOnAt 256) = .ok e ∧ e.index = 0 := by
  have hshows : Shows (lightOnAt 2) .lightOn 2 := ⟨by decide +kernel, by decide +kernel⟩
  have hbeyond : Shows (lightOnAt 256) .lightOn 256 := ⟨by decide +kernel, by decide +kernel⟩
  have hlast : (⟨2, 7, .tariff⟩ : OutputSetting).IsLastOf 2 [⟨2, 5, .light⟩, ⟨2, 7, .tariff⟩] :=
    ⟨[⟨2, 5, .light⟩], [], rfl, rfl, by simp⟩
  obtain ⟨e, he, -, -, hindex, -⟩ :=
    index_by_switch [⟨2, 5, .light⟩, ⟨2, 7, .tariff⟩] hshows "SSLD-1" none 0
  obtain ⟨e', he', hzero, -⟩ :=
    index_by_switch [⟨2, 5, .light⟩, ⟨2, 7, .tariff⟩] hbeyond "SSLD-1" none 0
  exact ⟨hshows, hlast, hbeyond, ⟨e, he, hindex _ 2 (by decide) hlast⟩, e', he',
    hzero (by decide)⟩

/-- A setting of relay 0 gives switch 0 another number. -/
theorem switch_zero_told_as_nine :
    Shows (lightOnAt 0) .lightOn 0 ∧
      ∃ e, ofMember "SSLD-1" (externalIds [⟨0, 9, .light⟩]) none 0 (lightOnAt 0) = .ok e ∧
        e.index = 9 := by
  have hshows : Shows (lightOnAt 0) .lightOn 0 := ⟨by decide +kernel, by decide +kernel⟩
  exact ⟨hshows, _, ofMember_eq_ok_iff.2 ⟨_, _, hshows, rfl⟩, by decide +kernel⟩

end Event

namespace Light

/-- What is told of an event at the relay that a light value is for: the number of the last setting
of that relay, and thus that of the light value if no setting has another number for the relay. -/
theorem told_index {d : Device} {v : LightValue} {relay : UInt8} (hv : v.index ≠ 0)
    (hrelays : relays d v = .ok [relay]) {member : Node} {kind : EventKind} {n : Int64}
    (hn : n.toInt = relay.toNat) (h : Event.Shows member kind n) (entered : Option Int64)
    (now : Int64) :
    ∃ e, ∃ o : OutputSetting,
      Event.ofMember d.id (Collector.make d.id d.outputs).ids entered now member = .ok e ∧
        o.IsLastOf relay d.outputs ∧ e.index = o.externalId ∧
        ((∀ p ∈ d.outputs, p.internalId = relay → p.externalId = v.index) →
          e.index = v.index) := by
  have hrelay : ∃ o ∈ d.outputs, o.internalId = relay := by
    rw [relays, if_neg hv] at hrelays
    cases ho : d.output? v.index with
    | none => simp [ho] at hrelays
    | some o =>
      refine ⟨o, List.mem_of_find?_eq_some ho, ?_⟩
      by_cases hlight : o.kind = .light
      · simpa [ho, hlight] using hrelays
      · simp [ho, hlight] at hrelays
  obtain ⟨o, ho⟩ := OutputSetting.exists_isLastOf hrelay
  have hindex : Event.externalId (Event.externalIds d.outputs) n = o.externalId :=
    Event.externalId_of_isLastOf ho hn
  refine ⟨_, o, Event.ofMember_eq_ok_iff.2 ⟨kind, n, h, rfl⟩, ho, hindex, fun hall => ?_⟩
  exact hindex.trans (hall o ho.mem ho.internalId)

/-- A streetlight controller with some relays. -/
def controller (outputs : List OutputSetting) : Device :=
  { Device.ofIdentity ⟨"SSLD-1", "10.0.0.1", .streetlightController, none⟩ with outputs }

/-- A relay with two settings that agree. -/
theorem told_index_agreeing :
    relays (controller [⟨1, 3, .light⟩, ⟨2, 4, .light⟩, ⟨1, 3, .tariff⟩]) ⟨3, true⟩ = .ok [1] ∧
      Event.Shows (Event.lightOnAt 1) .lightOn 1 ∧
      ∃ e, Event.ofMember "SSLD-1" (Collector.make "SSLD-1"
          [⟨1, 3, .light⟩, ⟨2, 4, .light⟩, ⟨1, 3, .tariff⟩]).ids none 0 (Event.lightOnAt 1) =
        .ok e ∧ e.index = 3 := by
  have hrelays : relays (controller [⟨1, 3, .light⟩, ⟨2, 4, .light⟩, ⟨1, 3, .tariff⟩])
    ⟨3, true⟩ = .ok [1] := rfl
  have hshows : Event.Shows (Event.lightOnAt 1) .lightOn 1 := ⟨by decide +kernel, by decide +kernel⟩
  obtain ⟨e, o, he, -, -, hindex⟩ :=
    told_index (by decide) hrelays (by decide) hshows none 0
  exact ⟨hrelays, hshows, e, he, hindex (by decide)⟩

/-- A later setting of the relay has another number for it. -/
theorem told_as_other_number :
    relays (controller [⟨1, 1, .light⟩, ⟨1, 2, .tariff⟩]) ⟨1, true⟩ = .ok [1] ∧
      Event.Shows (Event.lightOnAt 1) .lightOn 1 ∧
      ∃ e, Event.ofMember "SSLD-1" (Collector.make "SSLD-1"
          [⟨1, 1, .light⟩, ⟨1, 2, .tariff⟩]).ids none 0 (Event.lightOnAt 1) = .ok e ∧
        e.index = 2 := by
  have hshows : Event.Shows (Event.lightOnAt 1) .lightOn 1 := ⟨by decide +kernel, by decide +kernel⟩
  exact ⟨rfl, hshows, _, Event.ofMember_eq_ok_iff.2 ⟨_, _, hshows, rfl⟩, by decide +kernel⟩

end Light

end FieldGateway
