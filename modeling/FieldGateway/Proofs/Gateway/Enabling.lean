import FieldGateway.Gateway.Reporting
import FieldGateway.Proofs.Gateway.Parts
import FieldGateway.Proofs.Model.Blocks
import FieldGateway.Proofs.Plant.Devices
import FieldGateway.Proofs.Plant.Nodes
import FieldGateway.Proofs.Report.Selection

/-!
# Reports switched on

The reports that are wanted of a terminal unit are asked for one by one, whatever came of those
before. Those that the device has granted, and no others, are switched on when this is over.

* `Ied.SwitchedOn.trans`: some reports and then others.
* `Session.runs_enableWanted`: one attempt for each report, in order.
* `Session.reports_enabled`: which are asked for, what is told of them, and what the device becomes.
-/

namespace FieldGateway

/-! ## Control blocks -/

namespace ServerModel

variable {m : ServerModel} {r : String}

/-- The control block that a reference finds is the `k`-th, where the buffered ones come first. -/
def Finds (m : ServerModel) (r : String) (k : Nat) : Prop :=
  m.blocks.findIdx? (·.reference == r) = some k

instance (m : ServerModel) (r : String) (k : Nat) : Decidable (m.Finds r k) :=
  inferInstanceAs (Decidable (_ = _))

theorem isSome_block?_iff : (m.block? r).isSome = true ↔ ∃ k, m.Finds r k := by
  simp only [Finds]
  rw [← Option.isSome_iff_exists, List.findIdx?_isSome, block?_eq_find?, List.find?_isSome,
    List.any_eq_true]

end ServerModel

/-- A device after some reports were switched on: the blocks that their references find are, and
nothing else is changed but that it is noted. -/
structure Ied.SwitchedOn (d : Ied) (references : List String) (d' : Ied) : Prop where
  found : ∀ r ∈ references, ∃ k, d.model.Finds r k
  nodes : d'.model.nodes = d.model.nodes
  buffered : d'.model.buffered.length = d.model.buffered.length
  blocks : ∀ k, d'.model.blocks[k]? = d.model.blocks[k]?.map fun b =>
    if ∃ r ∈ references, d.model.Finds r k then { b with enabled := true } else b
  rest : d' = { d with
    model := d'.model
    activity := { d.activity with enabled := d.activity.enabled ++ references } }

namespace Ied

variable {d d' d'' : Ied} {references references' : List String} {r : String}

theorem switchedOn_nil (d : Ied) : d.SwitchedOn [] d where
  found := by simp
  nodes := rfl
  buffered := rfl
  blocks := by simp
  rest := by simp

theorem SwitchedOn.finds_iff (h : d.SwitchedOn references d') {k : Nat} :
    d'.model.Finds r k ↔ d.model.Finds r k := by
  have hreferences : d'.model.blocks.map (·.reference) = d.model.blocks.map (·.reference) := by
    apply List.ext_getElem?
    intro k
    rw [List.getElem?_map, List.getElem?_map, h.blocks, Option.map_map]
    congr 1
    funext b
    show (if _ then _ else b : ControlBlock).reference = b.reference
    split <;> rfl
  have hfind : ∀ m : ServerModel, m.blocks.findIdx? (·.reference == r) =
      (m.blocks.map (·.reference)).findIdx? (· == r) := by
    intro m
    rw [List.findIdx?_map]
    rfl
  unfold ServerModel.Finds
  rw [hfind, hfind, hreferences]

theorem SwitchedOn.trans (h : d.SwitchedOn references d') (h' : d'.SwitchedOn references' d'') :
    d.SwitchedOn (references ++ references') d'' where
  found := by
    intro r hr
    rcases List.mem_append.1 hr with hr | hr
    · exact h.found r hr
    · obtain ⟨k, hk⟩ := h'.found r hr
      exact ⟨k, h.finds_iff.1 hk⟩
  nodes := h'.nodes.trans h.nodes
  buffered := h'.buffered.trans h.buffered
  blocks := by
    intro k
    rw [h'.blocks, h.blocks, Option.map_map]
    congr 1
    funext b
    have hsame : (∃ r ∈ references', d'.model.Finds r k) ↔ ∃ r ∈ references', d.model.Finds r k :=
      exists_congr fun r => and_congr_right fun _ => h.finds_iff
    by_cases hfirst : ∃ r ∈ references, d.model.Finds r k
    · by_cases hthen : ∃ r ∈ references', d.model.Finds r k <;>
        simp [Function.comp, hfirst, hthen, hsame, or_and_right, exists_or]
    · by_cases hthen : ∃ r ∈ references', d.model.Finds r k <;>
        simp [Function.comp, hfirst, hthen, hsame, or_and_right, exists_or]
  rest := by
    rw [h'.rest, h.rest]
    simp [List.append_assoc]

/-- A report that is switched on. -/
theorem switchedOn_enable {b : ControlBlock} (h : d.enable r = (.ok b, d')) :
    d.SwitchedOn [r] d' := by
  unfold enable at h
  split at h
  · cases h
  · next b hb =>
    cases h
    refine ⟨?_, ServerModel.nodes_modifyBlock _ _ _, ServerModel.length_buffered_modifyBlock _ _ _,
      fun k => ?_, rfl⟩
    · intro r' hr'
      obtain rfl := List.mem_singleton.1 hr'
      exact ServerModel.isSome_block?_iff.1 (by rw [hb]; rfl)
    · show ((d.model.modifyBlock r _).blocks)[k]? = _
      rw [ServerModel.blocks_modifyBlock, getElem?_modifyFirst]
      simp only [List.mem_singleton, exists_eq_left]
      rfl

theorem eq_of_enable_error {f : Fault} (h : d.enable r = (.error f, d')) : d' = d := by
  unfold enable at h
  split at h <;> cases h
  rfl

end Ied

/-! ## What a device is asked for -/

namespace Plant

variable {p q : Plant} {link : Nat} {r : String} {host : String} {d : Ied}

/-- What a report that is asked for makes of the device: it is switched on if it is granted. -/
theorem Answers.switchedOn {answer : Except Fault ControlBlock}
    (h : p.Answers (.enable link r) answer q) (hd : p.device? link = some (host, d)) :
    ∃ d', q.device? link = some (host, d') ∧
      d.SwitchedOn (if answer.isOk then [r] else []) d' := by
  rcases h with h | ⟨⟨f, hf⟩, rfl⟩
  · have h : p.enable link r = (answer, q) := h
    unfold enable at h
    split at h
    · cases h
      exact ⟨d, hd, d.switchedOn_nil⟩
    · rcases cases_ask_device h hd with ⟨e, rfl, rfl⟩ | ⟨d', hd', hq⟩
      · exact ⟨d, hd, d.switchedOn_nil⟩
      · refine ⟨d', hq, ?_⟩
        cases answer with
        | ok b => exact Ied.switchedOn_enable hd'
        | error e =>
          obtain rfl := Ied.eq_of_enable_error hd'
          exact d'.switchedOn_nil
  · cases hf
    exact ⟨d, hd, d.switchedOn_nil⟩

end Plant

/-! ## Reports one by one -/

namespace Session

variable {s : Session} {i : Nat} {log part : List Entry} {r : String} {references : List String}

/-- The reports that a device was asked for. -/
def asked (log : List Entry) : List String :=
  log.filterMap fun e =>
    match e.event with
    | .did _ (.enable _ r) _ => some r
    | _ => none

/-- The references whose attempts succeeded, or those whose attempts failed. -/
def ending (ok : Bool) (references : List String)
    (results : List (Except Failure ControlBlock)) : List String :=
  ((references.zip results).filter fun x => x.2.isOk == ok).map (·.1)

theorem ending_cons (ok : Bool) (r : String) (x : Except Failure ControlBlock)
    (results : List (Except Failure ControlBlock)) :
    ending ok (r :: references) (x :: results) =
      (if x.isOk = ok then [r] else []) ++ ending ok references results := by
  by_cases hx : x.isOk = ok
  · simp [ending, hx]
  · simp [ending, hx]

/-- Each report is tried once, in order, whatever came of those before; what failed and what did not
are told apart. -/
theorem runs_foldlM_enableInto {e₀ e : Enabling}
    (h : (references.foldlM s.enableInto e₀).Runs i log e) :
    ∃ results, Each (fun r part x => (s.enable r).run.Runs i part x) references log results ∧
      e.enabled = e₀.enabled ++ ending true references results ∧
      e.failed = e₀.failed ++ ending false references results := by
  induction references generalizing e₀ log with
  | nil =>
    obtain ⟨rfl, rfl⟩ := Work.runs_pure.1 h
    exact ⟨[], .nil, (List.append_nil _).symm, (List.append_nil _).symm⟩
  | cons r references ih =>
    rw [List.foldlM_cons] at h
    obtain ⟨l₁, e₁, l₂, h₁, h₂, rfl⟩ := Work.runs_bind.1 h
    obtain ⟨l₃, x, l₄, h₃, h₄, rfl⟩ := Work.runs_bind.1 h₁
    obtain ⟨results, heach, henabled, hfailed⟩ := ih h₂
    cases x with
    | ok b =>
      obtain ⟨rfl, rfl⟩ := Work.runs_pure.1 h₄
      rw [List.append_nil]
      refine ⟨.ok b :: results, .cons h₃ heach, ?_, ?_⟩
      · rw [henabled, ending_cons, List.append_assoc]
        rfl
      · rw [hfailed, ending_cons]
        rfl
    | error f =>
      obtain ⟨rfl, rfl⟩ := Work.runs_pure.1 h₄
      rw [List.append_nil]
      refine ⟨.error f :: results, .cons h₃ heach, ?_, ?_⟩
      · rw [henabled, ending_cons]
        rfl
      · rw [hfailed, ending_cons, List.append_assoc]
        rfl

/-- One attempt: the session is looked at, and if it was not ended, the device is asked once. -/
inductive Tried (s : Session) (i : Nat) (r : String) :
    List Entry → Except Failure ControlBlock → Prop
  | closed {p q : Plant} (h : p.Answers (.isOpen s.link) false q) :
      Tried s i r [⟨p, .did i (.isOpen s.link) false, q⟩]
        (.error (.connection (.sessionClosed s.deviceId)))
  | asked {p q p' q' : Plant} {answer : Except Fault ControlBlock}
      (h : p.Answers (.isOpen s.link) true q) (h' : p'.Answers (.enable s.link r) answer q') :
      Tried s i r [⟨p, .did i (.isOpen s.link) true, q⟩, ⟨p', .did i (.enable s.link r) answer, q'⟩]
        (answer.mapError Fault.raise)

theorem tried_of_runs {x : Except Failure ControlBlock} (hr : (s.model.block? r).isSome = true)
    (h : (s.enable r).run.Runs i part x) : Tried s i r part x := by
  obtain ⟨b, hb⟩ := Option.isSome_iff_exists.1 hr
  unfold enable at h
  rw [hb] at h
  rcases Attempt.runs_bind.1 h with ⟨l₁, _, l₂, h₁, h₂, rfl⟩ | ⟨e, h₁, rfl⟩
  · obtain ⟨p, isOpen, q, hopen, rfl, hx⟩ := runs_ensureOpen h₁
    obtain ⟨answer, h₃, rfl⟩ := Attempt.runs_ofFault.1 h₂
    obtain ⟨p', q', hasked, rfl⟩ := Work.runs_perform.1 h₃
    cases isOpen with
    | true => exact .asked hopen hasked
    | false => cases hx
  · obtain ⟨p, isOpen, q, hopen, rfl, hx⟩ := runs_ensureOpen h₁
    cases isOpen with
    | true => cases hx
    | false =>
      cases hx
      exact .closed hopen

variable {x : Except Failure ControlBlock} {p q : Plant} {host : String} {d : Ied}

theorem asked_of_tried (h : Tried s i r part x) :
    asked part = [r] ∨ asked part = [] ∧ x = .error (.connection (.sessionClosed s.deviceId)) := by
  cases h with
  | closed h => exact .inr ⟨rfl, rfl⟩
  | asked h h' => exact .inl rfl

/-- The device of a link is as it was. -/
def Spared (link : Nat) (p q : Plant) : Prop := q.device? link = p.device? link

theorem Spared.refl (link : Nat) (p : Plant) : Spared link p p := rfl

theorem Spared.trans {link : Nat} {o p q : Plant} (h : Spared link o p) (h' : Spared link p q) :
    Spared link o q := Eq.trans h' h

theorem Spared.has {link : Nat} {p q : Plant} (h : Spared link p q)
    (hd : p.device? link = some (host, d)) : q.device? link = some (host, d) := Eq.trans h hd

/-- What an attempt makes of the device. -/
theorem switchedOn_of_tried (h : Tried s i r part x) (hd : p.device? s.link = some (host, d))
    (hspans : Spans (Spared s.link) p part q) :
    ∃ d', q.device? s.link = some (host, d') ∧ d.SwitchedOn (if x.isOk then [r] else []) d' := by
  have hlook : ∀ {p q : Plant} {b : Bool}, p.Answers (.isOpen s.link) b q → q = p := by
    intro p q b h
    rcases h with h | ⟨⟨f, hf⟩, -⟩
    · exact (congrArg Prod.snd h).symm
    · cases hf
  cases h with
  | closed h =>
    obtain ⟨hbefore, hafter⟩ := hspans
    obtain rfl := hlook h
    exact ⟨d, hafter.has (hbefore.has hd), d.switchedOn_nil⟩
  | @asked p₁ q₁ p₂ q₂ answer h h' =>
    obtain ⟨hbefore, hbetween, hafter⟩ := hspans
    obtain rfl := hlook h
    obtain ⟨d', hd', hon⟩ := h'.switchedOn (hbetween.has (hbefore.has hd))
    refine ⟨d', hafter.has hd', ?_⟩
    cases answer <;> exact hon

/-- What the attempts of a list make of the device. -/
theorem switchedOn_of_each {results : List (Except Failure ControlBlock)}
    (h : Each (Tried s i) references log results) (hd : p.device? s.link = some (host, d))
    (hspans : Spans (Spared s.link) p log q) :
    ∃ d', q.device? s.link = some (host, d') ∧
      d.SwitchedOn (ending true references results) d' := by
  induction h generalizing p d with
  | nil => exact ⟨d, Spared.has hspans hd, d.switchedOn_nil⟩
  | @cons r references x results part log hr _ ih =>
    obtain ⟨m, hfirst, hthen⟩ := spans_append (Spared.refl s.link) hspans
    obtain ⟨d₁, hd₁, hon⟩ := switchedOn_of_tried hr hd hfirst
    obtain ⟨d', hd', hon'⟩ := ih hd₁ hthen
    refine ⟨d', hd', ?_⟩
    rw [ending_cons]
    exact hon.trans hon'

/-- The reports that are wanted of a terminal unit: all that it has, the buffered ones first, or the
instances of those that are selected, as far as they are numbered without a gap. Each is tried once
and in this order, whatever came of those before: the device is asked for it, unless the session was
ended. Those that failed and those that did not are told apart. If nobody else changes the device
meanwhile, those that did not fail are switched on when this is over, and nothing else is
changed. -/
theorem reports_enabled {device : Device} {e : Enabling}
    (hfamily : device.family ≠ .streetlightController)
    (hrun : (s.enableWanted device).Runs i log e) :
    ∃ wanted results,
      (device.wantsAllReports = true → wanted =
        s.model.buffered.map (·.reference) ++ s.model.unbuffered.map (·.reference)) ∧
      (device.wantsAllReports = false → ∃ last : ReportSelection → Nat,
        (∀ x, IsGreatest {k | ∀ n, 1 ≤ n → n ≤ k → (s.model.block? (Reference.report s.server
          x.logicalDevice n x.logicalNode)).isSome = true} (last x)) ∧
        wanted = device.selections.flatMap fun x => (List.range' 1 (last x)).map fun n =>
          Reference.report s.server x.logicalDevice n x.logicalNode) ∧
      Each (fun r part x => (s.enable r).run.Runs i part x ∧ (asked part = [r] ∨
        asked part = [] ∧ x = .error (.connection (.sessionClosed s.deviceId))))
        wanted log results ∧
      e.enabled = ending true wanted results ∧ e.failed = ending false wanted results ∧
      ∀ p q host d, p.device? s.link = some (host, d) → Spans (Spared s.link) p log q →
        ∃ d', q.device? s.link = some (host, d') ∧ d.SwitchedOn e.enabled d' := by
  obtain ⟨results, heach, henabled, hfailed⟩ := runs_foldlM_enableInto hrun
  refine ⟨Selection.wanted s.model s.server device, results, ?_, ?_, ?_, henabled, hfailed, ?_⟩
  · intro hall
    rw [Selection.wanted, if_neg hfamily, if_pos hall]
    exact List.map_append
  · intro hselected
    choose last hgreatest hinstances using Selection.exists_instances s.model s.server
    refine ⟨last, hgreatest, ?_⟩
    rw [Selection.wanted, if_neg hfamily, if_neg (by simp [hselected])]
    exact List.flatMap_congr fun x _ => hinstances x
  · refine heach.mono_mem fun r hr part x hx => ⟨hx, ?_⟩
    exact asked_of_tried (tried_of_runs (Selection.isSome_of_wanted hr) hx)
  · intro p q host d hd hspans
    have htried : Each (Tried s i) (Selection.wanted s.model s.server device) log results :=
      heach.mono_mem fun r hr part x hx => tried_of_runs (Selection.isSome_of_wanted hr) hx
    rw [henabled, List.nil_append]
    exact switchedOn_of_each htried hd hspans

/-- A terminal unit of which the reports of its solar plants are wanted, as it happens twice. -/
def wanting : Device :=
  ⟨⟨"RTU-1", "10.0.0.2", .genericRtu, some "W"⟩, [], false,
    [⟨"PV", "LLN0.S"⟩, ⟨"PV", "LLN0.S"⟩]⟩

/-- A session in which the reports of three solar plants were offered, one of them behind a gap. -/
def gappy : Session :=
  ⟨wanting.identity,
    ⟨[], [.fresh "WPV1/LLN0.S" true], [.fresh "WPV2/LLN0.S" false, .fresh "WPV4/LLN0.S" false]⟩, 0⟩

/-- The device of the session, which has lost the second report since. -/
def keeper : Ied := .ofModel ⟨[], [.fresh "WPV1/LLN0.S" true], [.fresh "WPV4/LLN0.S" false]⟩

def surroundings : Plant :=
  { Plant.start .empty (Network.empty.insert "10.0.0.2" keeper) 0 "" with
    links := [⟨"10.0.0.2", .silent, false, false, false⟩] }

/-- What is found there is enabled twice over, what is not found fails twice over. -/
theorem reports_enabled_gappy :
    wanting.family ≠ .streetlightController ∧
    ∃ log e q, (gappy.enableWanted wanting).Runs 0 log e ∧
      surroundings.device? gappy.link = some ("10.0.0.2", keeper) ∧
      Spans (Spared gappy.link) surroundings log q ∧
      e = ⟨["WPV1/LLN0.S", "WPV1/LLN0.S"], ["WPV2/LLN0.S", "WPV2/LLN0.S"]⟩ ∧
      ∃ d', q.device? gappy.link = some ("10.0.0.2", d') ∧ keeper.SwitchedOn e.enabled d' := by
  have hfamily : wanting.family ≠ .streetlightController := by decide
  have hruns := Plant.runs_trace 0 (gappy.enableWanted wanting) surroundings
  have hspans : Spans (Spared gappy.link) surroundings
      (surroundings.trace 0 (gappy.enableWanted wanting)) _ :=
    Plant.spans_trace (Spared.refl gappy.link) Spared.trans (fun _ _ => rfl) 0 _ _
  have hstart : surroundings.device? gappy.link = some ("10.0.0.2", keeper) := by decide +kernel
  have htold : (surroundings.runAlone (gappy.enableWanted wanting)).1 =
      ⟨["WPV1/LLN0.S", "WPV1/LLN0.S"], ["WPV2/LLN0.S", "WPV2/LLN0.S"]⟩ := by decide +kernel
  obtain ⟨wanted, results, -, -, -, -, -, hdevice⟩ := reports_enabled hfamily hruns
  exact ⟨hfamily, _, _, _, hruns, hstart, hspans, htold, hdevice _ _ _ _ hstart hspans⟩

end Session

end FieldGateway
