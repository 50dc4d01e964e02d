import FieldGateway.Plant.Basic
import FieldGateway.Proofs.Model.Written
import FieldGateway.Proofs.Report.Agreement
import Mathlib.Data.List.Induction
import Mathlib.Data.List.TakeWhile

/-!
# Measurements by system

The members of a report are sorted into systems. What a system shows is what the members of its
family and number give, in their order; which system that is, is read off the reference, where the
case of letters, zeros in front of a number, and a first number that is left out do not count.

* `Reader.find?_tableOf`: the measurements of a system after any members.
* `Reader.grouped_ascending`, `Reader.mem_grouped_iff`: the systems that are told.
* `Plant.measurements_by_system`: what becomes of a report.
* `Reader.merged_iff`: which references are of one system.
-/

namespace FieldGateway

/-- An insertion that adds one thing to what was under the key adds it to the whole. -/
theorem Table.flatMap_insertEntry_perm {κ ν μ : Type} [Ord κ] [Std.TransOrd κ]
    [Std.LawfulEqOrd κ] {g : ν → List μ} {k : κ} {v : ν} {x : μ} {l : List (κ × ν)}
    (hl : l.Pairwise fun a b => compare a.1 b.1 = .lt)
    (hv : g v = ((valueIn? k l).elim [] g) ++ [x]) :
    ((insertEntry k v l).flatMap fun e => g e.2).Perm ((l.flatMap fun e => g e.2) ++ [x]) := by
  induction l with
  | nil => simp [insertEntry, valueIn?, hv]
  | cons e r ih =>
    obtain ⟨j, w⟩ := e
    obtain ⟨hj, hr⟩ := List.pairwise_cons.1 hl
    rw [insertEntry]
    split
    · next hk =>
      -- The key stands before all others, so that nothing was under it.
      have hnone : valueIn? k ((j, w) :: r) = none :=
        valueIn?_eq_none (List.forall_mem_cons.2
          ⟨hk, fun e he => Std.TransCmp.lt_trans hk (hj e he)⟩)
      rw [hnone] at hv
      rw [List.flatMap_cons, hv]
      exact List.perm_append_comm
    · next hk =>
      rw [valueIn?, if_pos hk] at hv
      rw [List.flatMap_cons, List.flatMap_cons, hv, Option.elim_some, List.append_assoc,
        List.append_assoc]
      exact List.perm_append_comm.append_left (g w)
    · next hk =>
      have hne : compare k j ≠ .eq := by simp [hk]
      rw [valueIn?, if_neg hne] at hv
      rw [List.flatMap_cons, List.flatMap_cons, List.append_assoc]
      exact (ih hr hv).append_left (g w)

/-- A system stands before another one by its family or, within a family, by its number. -/
def SystemMeasurements.Precedes (s t : SystemMeasurements) : Prop :=
  s.family.rank < t.family.rank ∨ s.family = t.family ∧ s.id < t.id

/-- Among the measurements of a system is one of its own family and number. -/
def SystemMeasurements.Holds (s : SystemMeasurements) (m : SystemMeasurement) : Prop :=
  s.family = m.family ∧ s.id = m.id ∧ m.measurement ∈ s.measurements

namespace Reader

variable {ms : List SystemMeasurement} {f : Family} {i : UInt8}

/-! ## Sorting -/

/-- The measurements of one system. -/
def ofSystem (f : Family) (i : UInt8) (ms : List SystemMeasurement) : List SystemMeasurement :=
  ms.filter fun m => m.family = f ∧ m.id = i

/-- The systems after some members: each with its own measurements, in their order. -/
def tableOf (ms : List SystemMeasurement) : Table Nat SystemMeasurements := ms.foldl addTo .empty

theorem tableOf_concat (ms : List SystemMeasurement) (m : SystemMeasurement) :
    tableOf (ms ++ [m]) = addTo (tableOf ms) m := by
  rw [tableOf, List.foldl_append]
  rfl

/-- What is found of a system after any members. -/
theorem find?_tableOf (ms : List SystemMeasurement) (f : Family) (i : UInt8) :
    (tableOf ms).find? (systemRank f i) =
      if ofSystem f i ms = [] then none
      else some ⟨i, f, (ofSystem f i ms).map (·.measurement)⟩ := by
  induction ms using List.reverseRecOn with
  | nil => rfl
  | append_singleton ms m ih =>
    have hsplit : ofSystem f i (ms ++ [m]) =
        ofSystem f i ms ++ if m.family = f ∧ m.id = i then [m] else [] := by
      rw [ofSystem, List.filter_append]
      by_cases hm : m.family = f ∧ m.id = i <;> simp [ofSystem, hm]
    rw [tableOf_concat, addTo, Table.find?_insert, hsplit]
    by_cases hm : m.family = f ∧ m.id = i
    · obtain ⟨rfl, rfl⟩ := hm
      rw [ih]
      by_cases hnone : ofSystem m.family m.id ms = [] <;> simp [hnone, Std.compare_self]
    · have hne : compare (systemRank f i) (systemRank m.family m.id) ≠ .eq := by
        intro he
        obtain ⟨rfl, rfl⟩ := systemRank_injective (Std.LawfulEqCmp.compare_eq_iff_eq.1 he)
        exact hm ⟨rfl, rfl⟩
      rw [if_neg hne, ih, if_neg hm, List.append_nil]

/-- Every system stands under its own rank. -/
theorem rank_of_mem_tableOf (ms : List SystemMeasurement) :
    ∀ e ∈ (tableOf ms).entries, e.1 = systemRank e.2.family e.2.id := by
  induction ms using List.reverseRecOn with
  | nil => exact nofun
  | append_singleton ms m ih =>
    intro e he
    rw [tableOf_concat, addTo] at he
    rcases Table.mem_insertEntry he with rfl | he
    · dsimp only
      split
      · rfl
      · next s hs =>
        have hrank := ih _ (Table.find?_eq_some_iff.1 hs)
        exact hrank
    · exact ih e he

/-- A system is told if it has measurements, with all of them in their order. -/
theorem mem_grouped_iff {s : SystemMeasurements} : s ∈ grouped ms ↔
    ofSystem s.family s.id ms ≠ [] ∧
      s.measurements = (ofSystem s.family s.id ms).map (·.measurement) := by
  have hfind := find?_tableOf ms s.family s.id
  constructor
  · intro hs
    obtain ⟨e, he, rfl⟩ := List.mem_map.1 hs
    have hfound : (tableOf ms).find? (systemRank e.2.family e.2.id) = some e.2 :=
      Table.find?_eq_some_iff.2 (rank_of_mem_tableOf ms e he ▸ he)
    rw [hfound] at hfind
    split at hfind
    · cases hfind
    · next hsome => exact ⟨hsome, congrArg SystemMeasurements.measurements (Option.some.inj hfind)⟩
  · rintro ⟨hsome, hmeasurements⟩
    rw [if_neg hsome, ← hmeasurements] at hfind
    exact List.mem_map.2 ⟨_, Table.find?_eq_some_iff.1 hfind, rfl⟩

/-- The system of a measurement is told, and holds it. -/
theorem exists_holds_of_mem {x : SystemMeasurement} (hx : x ∈ ms) :
    ∃ s ∈ grouped ms, s.Holds x := by
  have hmem : x ∈ ofSystem x.family x.id ms := List.mem_filter.2 ⟨hx, by simp⟩
  refine ⟨⟨x.id, x.family, (ofSystem x.family x.id ms).map (·.measurement)⟩, ?_, rfl, rfl, ?_⟩
  · exact mem_grouped_iff.2 ⟨List.ne_nil_of_mem hmem, rfl⟩
  · exact List.mem_map_of_mem hmem

/-- A family and a number are those of one system. -/
theorem grouped_ext {s s' : SystemMeasurements} (hs : s ∈ grouped ms) (hs' : s' ∈ grouped ms)
    (hfamily : s.family = s'.family) (hid : s.id = s'.id) : s = s' := by
  obtain ⟨-, hmeasurements⟩ := mem_grouped_iff.1 hs
  obtain ⟨-, hmeasurements'⟩ := mem_grouped_iff.1 hs'
  rw [← hfamily, ← hid, ← hmeasurements] at hmeasurements'
  obtain ⟨id, family, measurements⟩ := s
  obtain ⟨id', family', measurements'⟩ := s'
  cases hfamily
  cases hid
  cases hmeasurements'
  rfl

theorem precedes_of_systemRank_lt {s t : SystemMeasurements}
    (h : systemRank s.family s.id < systemRank t.family t.id) : s.Precedes t := by
  have hs : s.id.toNat < 256 := s.id.toNat_lt
  have ht : t.id.toNat < 256 := t.id.toNat_lt
  simp only [systemRank] at h
  by_cases hfamily : s.family.rank = t.family.rank
  · refine .inr ⟨Family.rank_injective hfamily, UInt8.lt_iff_toNat_lt.2 ?_⟩
    omega
  · left
    omega

/-- Systems are told in the order of their families and numbers, each once. -/
theorem grouped_ascending (ms : List SystemMeasurement) :
    (grouped ms).Pairwise SystemMeasurements.Precedes := by
  have hascending := (tableOf ms).ascending
  have hrank := rank_of_mem_tableOf ms
  refine List.pairwise_map.2 (hascending.imp_of_mem fun {a b} ha hb hlt => ?_)
  rw [hrank a ha, hrank b hb] at hlt
  exact precedes_of_systemRank_lt (Nat.compare_eq_lt.1 hlt)

/-- Every measurement is told, as often as it came in. -/
theorem grouped_perm (ms : List SystemMeasurement) :
    ((grouped ms).flatMap (·.measurements)).Perm (ms.map (·.measurement)) := by
  have hflat : ∀ t : Table Nat SystemMeasurements,
      t.values.flatMap (·.measurements) = t.entries.flatMap fun e => e.2.measurements :=
    fun t => List.flatMap_map ..
  show ((tableOf ms).values.flatMap (·.measurements)).Perm _
  rw [hflat]
  induction ms using List.reverseRecOn with
  | nil => exact .refl _
  | append_singleton ms m ih =>
    rw [tableOf_concat, List.map_append]
    refine (Table.flatMap_insertEntry_perm (g := (·.measurements)) (x := m.measurement)
      (tableOf ms).ascending ?_).trans (ih.append_right _)
    unfold Table.find?
    cases Table.valueIn? (systemRank m.family m.id) (tableOf ms).entries <;> rfl

/-! ## Reports -/

/-- What the members of a report translate to, in their order. -/
def translated (r : Reader) (clock : Clock) (report : Report) : List SystemMeasurement :=
  (report.timed clock).filterMap fun (m, now) => (r.measure now m).toOption

/-- The members that give a measurement, with their readings. -/
def telling (r : Reader) (clock : Clock) (report : Report) : List (Node × Int64) :=
  (report.timed clock).filter fun (m, now) => (r.measure now m).isOk

/-- The report without the members that give no measurement. -/
def withoutFailing (r : Reader) (clock : Clock) (report : Report) : Report :=
  { report with dataSet := report.dataSet.map fun d =>
      { d with members := (r.telling clock report).map Prod.fst } }

/-- The clock as the members that are left then have read it. -/
def clockLeft (r : Reader) (clock : Clock) (report : Report) : Clock :=
  fun place => ((r.telling clock report)[place]?.map Prod.snd).getD (clock place)

/-- Each member that is left has kept its reading. -/
theorem timed_withoutFailing (r : Reader) (clock : Clock) (report : Report) :
    (r.withoutFailing clock report).timed (r.clockLeft clock report) =
      r.telling clock report := by
  have hmembers : (r.withoutFailing clock report).members =
      (r.telling clock report).map Prod.fst := by
    unfold withoutFailing Report.members
    cases hd : report.dataSet with
    | none => simp [telling, Report.timed, Report.members, hd]
    | some d => rfl
  rw [Report.timed, hmembers]
  refine List.ext_getElem? fun place => ?_
  simp only [clockLeft, List.getElem?_mapIdx, List.getElem?_map]
  cases (r.telling clock report)[place]? <;> rfl

theorem translated_withoutFailing (r : Reader) (clock : Clock) (report : Report) :
    r.translated (r.clockLeft clock report) (r.withoutFailing clock report) =
      r.translated clock report := by
  have hisOk (x : Except Failure SystemMeasurement) :
      (if x.isOk then x.toOption else none) = x.toOption := by cases x <;> rfl
  rw [translated, timed_withoutFailing, telling, translated, List.filterMap_filter]
  congr 1
  funext ⟨m, now⟩
  exact hisOk (r.measure now m)

theorem systems_eq_nil_iff {r : Reader} {clock : Clock} {report : Report} :
    r.systems clock report = [] ↔ r.translated clock report = [] := by
  have hperm := grouped_perm (r.translated clock report)
  constructor
  · intro hnone
    have hgrouped : grouped (r.translated clock report) = [] := hnone
    rw [hgrouped] at hperm
    exact List.map_eq_nil_iff.1 hperm.symm.eq_nil
  · intro hnone
    show grouped (r.translated clock report) = []
    rw [hnone]
    rfl

end Reader

namespace Plant

variable {p : Plant} {reader : Reader} {clock : Clock} {report : Report}

theorem forward_of_nil (h : reader.systems clock report = []) :
    p.forward reader clock report = p.count .reportsReceived 1 := by
  simp only [forward, h]

theorem forward_of_cons {s : SystemMeasurements} {ss : List SystemMeasurements}
    (h : reader.systems clock report = s :: ss) :
    p.forward reader clock report =
      (p.count .reportsReceived 1).sendMeasurements ⟨reader.deviceId, s :: ss⟩ := by
  simp only [forward, h]

/-- Of a report, the measurements are sent once if there are any, and otherwise nothing is sent.
They are sent by systems, in the order of families and numbers. None of these is empty; each
measurement that a member translates to is in the one system of its family and number, among the
others of that system in the order of the members. Members that do not translate are as if they were
not there. -/
theorem measurements_by_system (p : Plant) (reader : Reader) (clock : Clock) (report : Report) :
    (p.forward reader clock report).outbox.measurements = p.outbox.measurements ++
      (if reader.translated clock report = [] then []
        else [⟨reader.deviceId, reader.systems clock report⟩]) ∧
    (reader.systems clock report).Pairwise SystemMeasurements.Precedes ∧
    (∀ s ∈ reader.systems clock report, s.measurements ≠ [] ∧ s.measurements =
      (Reader.ofSystem s.family s.id (reader.translated clock report)).map (·.measurement)) ∧
    (∀ m ∈ reader.translated clock report,
      ∃! s, s ∈ reader.systems clock report ∧ s.family = m.family ∧ s.id = m.id) ∧
    ((reader.systems clock report).flatMap (·.measurements)).Perm
      ((reader.translated clock report).map (·.measurement)) ∧
    p.forward reader (reader.clockLeft clock report) (reader.withoutFailing clock report) =
      p.forward reader clock report := by
  have hgrouped : reader.systems clock report = Reader.grouped (reader.translated clock report) :=
    rfl
  refine ⟨?_, Reader.grouped_ascending _, fun s hs => ?_, fun m hm => ?_,
    Reader.grouped_perm _, ?_⟩
  · cases hsystems : reader.systems clock report with
    | nil =>
      rw [if_pos (Reader.systems_eq_nil_iff.1 hsystems), forward_of_nil hsystems, List.append_nil]
      rfl
    | cons s ss =>
      have hsome : reader.translated clock report ≠ [] := by
        intro hnone
        rw [Reader.systems_eq_nil_iff.2 hnone] at hsystems
        cases hsystems
      rw [if_neg hsome, forward_of_cons hsystems]
      rfl
  · obtain ⟨hsome, hmeasurements⟩ := Reader.mem_grouped_iff.1 hs
    refine ⟨?_, hmeasurements⟩
    rw [hmeasurements]
    simpa using hsome
  · obtain ⟨s, hs, hfamily, hid, -⟩ := Reader.exists_holds_of_mem hm
    refine ⟨s, ⟨hs, hfamily, hid⟩, ?_⟩
    rintro s' ⟨hs', hfamily', hid'⟩
    exact Reader.grouped_ext hs' hs (hfamily'.trans hfamily.symm) (hid'.trans hid.symm)
  · have hsame : reader.systems (reader.clockLeft clock report)
        (reader.withoutFailing clock report) = reader.systems clock report :=
      congrArg Reader.grouped (reader.translated_withoutFailing clock report)
    cases hsystems : reader.systems clock report with
    | nil => rw [forward_of_nil hsystems, forward_of_nil (hsame.trans hsystems)]
    | cons s ss => rw [forward_of_cons hsystems, forward_of_cons (hsame.trans hsystems)]

end Plant

/-! ## References of one system -/

namespace LogicalDevice

variable {token token' : String} {d : LogicalDevice}

/-- A token names a kind if it is the kind's own up to the case of its letters. -/
theorem ofToken?_eq_some (h : ofToken? token = some d) :
    d ∈ known ∧ Text.foldCase d.token.toList = Text.foldCase token.toList := by
  obtain ⟨hname, hmem⟩ := And.intro (List.find?_some h) (List.mem_of_find?_eq_some h)
  exact ⟨hmem, Text.eqIgnoreCase_iff.1 hname⟩

theorem ofToken?_congr (h : Text.foldCase token.toList = Text.foldCase token'.toList) :
    ofToken? token = ofToken? token' := by
  simp only [ofToken?, Text.eqIgnoreCase, h]

/-- The kinds that present systems present systems of different families. -/
theorem family?_inj {d' : LogicalDevice} {f : Family} (hd : d ∈ known) (hd' : d' ∈ known)
    (h : d.family? = some f) (h' : d'.family? = some f) : d = d' := by
  have hall : ∀ d ∈ known, ∀ d' ∈ known, d.family?.isSome = true → d.family? = d'.family? →
      d = d' := by decide +kernel
  exact hall d hd d' hd' (by rw [h]; rfl) (h.trans h'.symm)

end LogicalDevice

namespace Reference

/-- What stands between the server name and the first slash of a reference. -/
def devicePart? (server reference : String) : Option (List Char) :=
  (server.toList.isPrefixOf? reference.toList).bind fun rest =>
    if '/' ∈ rest then some (rest.takeWhile (· != '/')) else none

/-- The name of a system in what stands for it: its last digits, if there are any, are a number. -/
def systemName (part : List Char) : List Char := Text.foldCase (Text.beforeDigits part)

/-- The number of a system in what stands for it; the first one where there is none. -/
def systemNumber (part : List Char) : Nat :=
  if Text.trailingDigits part = [] then 1 else Text.digitsFrom 0 (Text.trailingDigits part)

theorem devicePart_of_split {server reference : String} {parts : ReferenceParts}
    (h : split? server reference = some parts) :
    ∃ part, devicePart? server reference = some part ∧
      splitDevice? part = some (parts.logicalDevice.toList, parts.instanceId) := by
  simp only [split?, Option.bind_eq_bind] at h
  obtain ⟨rest, hrest, h⟩ := Option.bind_eq_some_iff.1 h
  have hslash : '/' ∈ rest := by
    by_contra hnot
    have hdrop : rest.dropWhile (· != '/') = [] := by
      rw [List.dropWhile_eq_nil_iff]
      intro c hc
      have hne : c ≠ '/' := fun he => hnot (he ▸ hc)
      simpa using hne
    simp only [hdrop] at h
    cases h
  refine ⟨rest.takeWhile (· != '/'), ?_, ?_⟩
  · simp only [devicePart?, hrest, Option.bind_some, if_pos hslash]
  · split at h
    · cases h
    · obtain ⟨⟨token, instanceId⟩, hdevice, h⟩ := Option.bind_eq_some_iff.1 h
      obtain ⟨⟨node, attr⟩, -, h⟩ := Option.bind_eq_some_iff.1 h
      cases h
      rw [hdevice, String.toList_ofList]

theorem systemNumber_of_split {part token : List Char} {instanceId : Option UInt8}
    (h : splitDevice? part = some (token, instanceId)) :
    token = Text.beforeDigits part ∧ (instanceId.getD 1).toNat = systemNumber part := by
  unfold splitDevice? at h
  unfold systemNumber
  cases hdigits : Text.trailingDigits part with
  | nil =>
    rw [hdigits] at h
    cases h
    exact ⟨rfl, rfl⟩
  | cons c cs =>
    rw [hdigits] at h
    obtain ⟨i, hi, h⟩ := Option.map_eq_some_iff.1 h
    cases h
    refine ⟨rfl, ?_⟩
    obtain ⟨n, hn, rfl⟩ := Option.map_eq_some_iff.1 hi
    obtain ⟨hvalue, hbound⟩ := Option.filter_eq_some_iff.1 hn
    obtain ⟨-, rfl⟩ := Option.ite_none_right_eq_some.1 hvalue |>.imp_right Option.some.inj
    have hlt : Text.digitsFrom 0 (c :: cs) < 256 := of_decide_eq_true hbound
    simp only [Option.getD_some, if_neg (List.cons_ne_nil c cs), UInt8.toNat_ofNat']
    exact Nat.mod_eq_of_lt hlt

end Reference

namespace Reader

variable {r : Reader} {now : Int64} {member : Node} {x : SystemMeasurement}

theorem of_bind_ok {ε α β : Type} {e : Except ε α} {f : α → Except ε β} {b : β}
    (h : e >>= f = .ok b) : ∃ a, e = .ok a ∧ f a = .ok b := by
  cases e with
  | error ε => cases h
  | ok a => exact ⟨a, rfl, h⟩

theorem of_mapError_ok {ε ε' α : Type} {e : Except ε α} {f : ε → ε'} {a : α}
    (h : e.mapError f = .ok a) : e = .ok a := by
  cases e with
  | error ε => cases h
  | ok a' => exact congrArg Except.ok (Except.ok.inj h)

theorem family_of_familyOf {token : String} {f : Family} (h : familyOf token = .ok f) :
    ∃ d, LogicalDevice.ofToken? token = some d ∧ d.family? = some f := by
  obtain ⟨d, hd, hfamily⟩ := of_bind_ok h
  refine ⟨d, ?_, ?_⟩
  · unfold LogicalDevice.named at hd
    split at hd
    · next h' => rw [h', Except.ok.inj hd]
    · cases hd
  · split at hfamily
    · next f' hf => rw [hf, Except.ok.inj hfamily]
    · cases hfamily

/-- What is known of the system of a measurement: its reference begins with the server name, what
stands up to the first slash names the family, and the digits at its end, if any, are the number. -/
theorem place_of_measure (h : r.measure now member = .ok x) :
    ∃ part, Reference.devicePart? r.server member.reference = some part ∧
      familyOf (String.ofList (Text.beforeDigits part)) = .ok x.family ∧
      x.id.toNat = Reference.systemNumber part := by
  obtain ⟨⟨family, id, point⟩, hlocate, h⟩ := of_bind_ok h
  obtain ⟨measurement, -, hx⟩ := of_bind_ok h
  obtain rfl := Except.ok.inj hx
  obtain ⟨parts, hparts, h⟩ := of_bind_ok (of_mapError_ok hlocate)
  obtain ⟨family, hfamily, h⟩ := of_bind_ok h
  obtain ⟨attr, -, h⟩ := of_bind_ok h
  obtain ⟨point, -, hplace⟩ := of_bind_ok h
  cases Except.ok.inj hplace
  have hsplit : Reference.split? r.server member.reference = some parts := by
    unfold partsOf at hparts
    split at hparts
    · next parts' hs => rw [hs, Except.ok.inj hparts]
    · cases hparts
  obtain ⟨part, hpart, hdevice⟩ := Reference.devicePart_of_split hsplit
  obtain ⟨htoken, hnumber⟩ := Reference.systemNumber_of_split hdevice
  refine ⟨part, hpart, ?_, hnumber⟩
  rw [← htoken, String.ofList_toList]
  exact hfamily

/-- A family goes by one token only, in any case. -/
theorem familyOf_eq_iff {token token' : String} {f f' : Family} (h : familyOf token = .ok f)
    (h' : familyOf token' = .ok f') :
    f = f' ↔ Text.foldCase token.toList = Text.foldCase token'.toList := by
  obtain ⟨d, hd, hfamily⟩ := family_of_familyOf h
  obtain ⟨d', hd', hfamily'⟩ := family_of_familyOf h'
  obtain ⟨hknown, hname⟩ := LogicalDevice.ofToken?_eq_some hd
  obtain ⟨hknown', hname'⟩ := LogicalDevice.ofToken?_eq_some hd'
  constructor
  · rintro rfl
    obtain rfl := LogicalDevice.family?_inj hknown hknown' hfamily hfamily'
    exact hname.symm.trans hname'
  · intro hfold
    rw [LogicalDevice.ofToken?_congr hfold] at hd
    obtain rfl := Option.some.inj (hd.symm.trans hd')
    exact Option.some.inj (hfamily.symm.trans hfamily')

theorem mem_translated {clock : Clock} {report : Report}
    (hmember : (member, now) ∈ report.timed clock) (h : r.measure now member = .ok x) :
    x ∈ r.translated clock report :=
  List.mem_filterMap.2 ⟨(member, now), hmember, congrArg Except.toOption h⟩

/-- Two members of a report are told in one system exactly if what stands for the system in their
references agrees in its name, up to the case of letters, and in its number: zeros in front of a
number do not count, and where there is none the first is meant. -/
theorem merged_iff {r : Reader} {clock : Clock} {report : Report} {m₁ m₂ : Node}
    {now₁ now₂ : Int64} {x₁ x₂ : SystemMeasurement} (hm₁ : (m₁, now₁) ∈ report.timed clock)
    (hm₂ : (m₂, now₂) ∈ report.timed clock) (h₁ : r.measure now₁ m₁ = .ok x₁)
    (h₂ : r.measure now₂ m₂ = .ok x₂) :
    ∃ part₁ part₂, Reference.devicePart? r.server m₁.reference = some part₁ ∧
      Reference.devicePart? r.server m₂.reference = some part₂ ∧
      ((∃ s ∈ r.systems clock report, s.Holds x₁ ∧ s.Holds x₂) ↔
        Reference.systemName part₁ = Reference.systemName part₂ ∧
          Reference.systemNumber part₁ = Reference.systemNumber part₂) := by
  obtain ⟨part₁, hpart₁, hfamily₁, hid₁⟩ := place_of_measure h₁
  obtain ⟨part₂, hpart₂, hfamily₂, hid₂⟩ := place_of_measure h₂
  refine ⟨part₁, part₂, hpart₁, hpart₂, ?_⟩
  have hname : x₁.family = x₂.family ↔
      Reference.systemName part₁ = Reference.systemName part₂ := by
    have hiff := familyOf_eq_iff hfamily₁ hfamily₂
    rw [String.toList_ofList, String.toList_ofList] at hiff
    exact hiff
  have hnumber : x₁.id = x₂.id ↔
      Reference.systemNumber part₁ = Reference.systemNumber part₂ := by
    rw [← hid₁, ← hid₂, UInt8.toNat_inj]
  rw [← hname, ← hnumber]
  constructor
  · rintro ⟨s, -, ⟨hfamily, hid, -⟩, hfamily', hid', -⟩
    exact ⟨hfamily.symm.trans hfamily', hid.symm.trans hid'⟩
  · rintro ⟨hfamily, hid⟩
    obtain ⟨s, hs, hheld⟩ := exists_holds_of_mem (mem_translated hm₁ h₁)
    obtain ⟨s', hs', hheld'⟩ := exists_holds_of_mem (mem_translated hm₂ h₂)
    have hsame : s = s' :=
      grouped_ext hs hs' (by rw [hheld.1, hheld'.1, hfamily]) (by rw [hheld.2.1, hheld'.2.1, hid])
    exact ⟨s, hs, hheld, hsame ▸ hheld'⟩

/-- The power of what stands in a reference between the server name and the slash. -/
def powerOf (part : String) (value : Float) : Node :=
  .ofList ("ZOWN_POC" ++ part ++ "/MMXU1.TotW") .measurand
    [("mag.f", .float value), ("t", .timestamp 1000)]

/-- A report on a first solar system, spelled in four ways, and on a second one. -/
def spellings : Report where
  id := "Measurements"
  block := "ZOWN_POCPV1/LLN0.Measurements"
  sequence := none
  segment := none
  continued := false
  overflow := false
  entry := none
  dataSet := some ⟨"ds", [powerOf "PV1" 1.5, powerOf "pv1" 2.5, powerOf "PV01" 3.5,
    powerOf "PV" 4.5, powerOf "PV2" 5.5]⟩

/-- What a power of the first solar system is told as. -/
def power (value : Float) : SystemMeasurement := ⟨.pv, 1, ⟨"TotW", none, 0, 1000, value⟩⟩

theorem merged_iff_spellings :
    (powerOf "PV1" 1.5, 0) ∈ spellings.timed (.still 0) ∧
    (powerOf "PV01" 3.5, 0) ∈ spellings.timed (.still 0) ∧
    ofPlant.measure 0 (powerOf "PV1" 1.5) = .ok (power 1.5) ∧
    ofPlant.measure 0 (powerOf "PV01" 3.5) = .ok (power 3.5) ∧
    ∃ part₁ part₂,
      Reference.devicePart? "ZOWN_POC" (powerOf "PV1" 1.5).reference = some part₁ ∧
      Reference.devicePart? "ZOWN_POC" (powerOf "PV01" 3.5).reference = some part₂ ∧
      ((∃ s ∈ ofPlant.systems (.still 0) spellings, s.Holds (power 1.5) ∧ s.Holds (power 3.5)) ↔
        Reference.systemName part₁ = Reference.systemName part₂ ∧
          Reference.systemNumber part₁ = Reference.systemNumber part₂) := by
  have hmem : (powerOf "PV1" 1.5, 0) ∈ spellings.timed (.still 0) := .head _
  have hmem' : (powerOf "PV01" 3.5, 0) ∈ spellings.timed (.still 0) := .tail _ (.tail _ (.head _))
  have h : ofPlant.measure 0 (powerOf "PV1" 1.5) = .ok (power 1.5) := by rfl
  have h' : ofPlant.measure 0 (powerOf "PV01" 3.5) = .ok (power 3.5) := by rfl
  exact ⟨hmem, hmem', h, h', merged_iff hmem hmem' h h'⟩

/-- The spelling of a logical device is not told: members whose references differ in it are told in
one system. -/
theorem spellings_merged :
    Reference.devicePart? "ZOWN_POC" (powerOf "PV1" 1.5).reference = some "PV1".toList ∧
    Reference.devicePart? "ZOWN_POC" (powerOf "pv1" 2.5).reference = some "pv1".toList ∧
    (powerOf "PV1" 1.5, 0) ∈ spellings.timed (.still 0) ∧
    (powerOf "pv1" 2.5, 0) ∈ spellings.timed (.still 0) ∧
    ofPlant.measure 0 (powerOf "PV1" 1.5) = .ok (power 1.5) ∧
    ofPlant.measure 0 (powerOf "pv1" 2.5) = .ok (power 2.5) ∧
    ∃ s ∈ ofPlant.systems (.still 0) spellings, s.Holds (power 1.5) ∧ s.Holds (power 2.5) := by
  have hmem : (powerOf "PV1" 1.5, 0) ∈ spellings.timed (.still 0) := .head _
  have hmem' : (powerOf "pv1" 2.5, 0) ∈ spellings.timed (.still 0) := .tail _ (.head _)
  have h : ofPlant.measure 0 (powerOf "PV1" 1.5) = .ok (power 1.5) := by rfl
  have h' : ofPlant.measure 0 (powerOf "pv1" 2.5) = .ok (power 2.5) := by rfl
  obtain ⟨s, hs, hfamily, hid, hheld⟩ := exists_holds_of_mem (mem_translated hmem h)
  obtain ⟨s', hs', hfamily', hid', hheld'⟩ := exists_holds_of_mem (mem_translated hmem' h')
  have hpv : s'.family = .pv := hfamily'
  have hfirst : s'.id = 1 := hid'
  obtain rfl : s = s' := grouped_ext hs hs' (by rw [hpv]; exact hfamily) (by rw [hfirst]; exact hid)
  exact ⟨by decide +kernel, by decide +kernel, hmem, hmem', h, h', s, hs, ⟨hfamily, hid, hheld⟩,
    hfamily', hid', hheld'⟩

end Reader

end FieldGateway
