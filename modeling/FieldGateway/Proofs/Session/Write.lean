import FieldGateway.Proofs.Plant.Devices
import FieldGateway.Session

/-!
# Writing a value over a session

A session writes a value by sending the node as the device offered it at the beginning, with that
value set. All the values of the node are sent, so that those that have changed since are lost.

* `Plant.write_ok`: what a write that succeeds does to the network.
* `Session.write_only_iff`: when a write over a session changes nothing but the value.
-/

namespace FieldGateway

namespace Plant

variable {p q : Plant} {link : Nat}

/-- A write that succeeds is carried out at one device, which has the node. -/
theorem write_ok {node : Node} (h : p.Answers (.write link node) (.ok ()) q) :
    ∃ host d d', p.far link = .ok (host, d) ∧
      (d.model.findNode? node.reference node.constraint).isSome ∧
      d'.model = Ied.written d.model node ∧
      ∀ host', q.network.find? host' =
        if host' = host then some d' else p.network.find? host' := by
  obtain ⟨host, d, d', hf, hd, rfl⟩ := ask_ok (h.perform_eq fun f hf => by cases hf)
  have hfind := fun host' => p.find?_modifyIed host host' fun _ => d'
  simp only [find?_far hf, Option.map_some] at hfind
  have hd : d.write node = (.ok (), d') := hd
  unfold Ied.write at hd
  split at hd
  · cases hd
  · split at hd
    · cases hd
    · next hn =>
      cases hd
      exact ⟨host, d, _, hf, by rw [hn]; rfl, rfl, hfind⟩

end Plant

namespace Session

variable {s : Session} {a : Address} {path : String} {value : Value} {i : Nat} {log : List Entry}

theorem locate_eq_ok {node : Node} : s.locate a = .ok node ↔
    Reference.resolve s.server a = .ok node.reference ∧
      s.model.findNode? node.reference a.constraint = some node := by
  unfold locate
  constructor
  · intro h
    split at h
    · cases h
    · next r hr =>
      split at h
      · next n hn =>
        cases h
        obtain ⟨rfl, -⟩ := ServerModel.isAt_of_findNode? hn
        exact ⟨hr, hn⟩
      · cases h
  · rintro ⟨hr, hn⟩
    simp only [hr, hn]

theorem constraint_of_locate {node : Node} (h : s.locate a = .ok node) :
    node.constraint = a.constraint :=
  (ServerModel.isAt_of_findNode? (locate_eq_ok.1 h).2).2

theorem run_write (s : Session) (a : Address) (path : String) (value : Value) :
    (s.write a path value).run = .ask (.isOpen s.link) fun
      | false => .done (.error (.connection (.sessionClosed s.deviceId)))
      | true =>
        match s.locate a with
        | .error e => .done (.error (.configuration e))
        | .ok node =>
          .ask (.write s.link (node.set path value)) fun r => .done (r.mapError Fault.raise) := by
  refine congrArg (Course.ask (Action.isOpen s.link)) (funext fun b => ?_)
  cases b with
  | false => rfl
  | true =>
    cases s.locate a with
    | error e => rfl
    | ok node => rfl

/-- A write that succeeds ends with the action of writing. -/
theorem write_runs (h : (s.write a path value).run.Runs i log (.ok ())) :
    ∃ node p q, s.locate a = .ok node ∧
      p.Answers (.write s.link (node.set path value)) (.ok ()) q ∧
      log.getLast? = some ⟨p, .did i (.write s.link (node.set path value)) (.ok ()), q⟩ := by
  rw [run_write] at h
  cases h with
  | @ask _ _ answer p₀ q₀ log₀ _ ha h =>
    cases answer with
    | false => cases h
    | true =>
      cases hn : s.locate a with
      | error e =>
        rw [hn] at h
        cases h
      | ok node =>
        rw [hn] at h
        cases h with
        | @ask _ _ answer p q log _ ha h =>
          cases answer with
          | error f => cases h
          | ok u =>
            cases h
            exact ⟨node, p, q, rfl, ha, rfl⟩

/-- A write over a session that succeeds sets the value at the device, whatever has become of the
device since the session began. It changes nothing else just if the device still has all other
values of the node as they were offered at the beginning, and, where the node has a control value
that is not the one to be written, still shows it in the status. -/
theorem write_only_iff (h : (s.write a path value).run.Runs i log (.ok ())) :
    ∃ node e host d d', s.locate a = .ok node ∧ log.getLast? = some e ∧
      e.event = .did i (.write s.link (node.set path value)) (.ok ()) ∧
      e.before.far s.link = .ok (host, d) ∧
      (∀ host', e.after.network.find? host' =
        if host' = host then some d' else e.before.network.find? host') ∧
      d'.model.value? node.reference node.constraint path = some value ∧
      (d.model.OnlyWritten d'.model node.reference node.constraint path ↔
        d.model.Keeps node path) := by
  obtain ⟨node, p, q, hn, ha, hlog⟩ := write_runs h
  obtain ⟨host, d, d', hf, hfind, hm, hq⟩ := Plant.write_ok ha
  refine ⟨node, _, host, d, d', hn, hlog, rfl, hf, hq, ?_, ?_⟩
  · rw [hm]
    refine (Ied.value?_written_self (node.set path value) hfind path).trans ?_
    rw [Node.get?_set_self]
    rfl
  · rw [hm]
    exact Ied.onlyWritten_iff hfind

/-! ## A value that is lost -/

/-- What a streetlight controller tells of its lights. -/
def lights (kind : String) : Node :=
  .ofList "SWDeviceGenericIO/CSLC.SWCf" .configuration
    [("LT", .text kind), ("enbOper", .bool false)]

/-- Where it tells it. -/
def lightsAddress : Address := ⟨.lighting, none, "CSLC", .softwareConfiguration, .configuration⟩

/-- A session that began when the lights were switched by relays. -/
def early : Session :=
  ⟨⟨"SSLD-1", "10.0.0.1", .streetlightController, none⟩, ⟨[lights "RELAY"], [], []⟩, 0⟩

/-- The plant after the device was told that it has diodes. -/
def later : Plant :=
  { Plant.start .empty (Network.empty.insert "10.0.0.1" (.ofModel ⟨[lights "LED"], [], []⟩)) 0 ""
    with links := [⟨"10.0.0.1", .silent, false, false, false⟩] }

/-- What the device gets when the session writes another value. -/
def overwriting : Action := .write 0 ((lights "RELAY").set "enbOper" (.bool true))

/-- The session writes another value. -/
def overwrite : List Entry :=
  [⟨later, .did 0 (.isOpen 0) true, later⟩,
    ⟨later, .did 0 overwriting (.ok ()), (later.perform overwriting).2⟩]

theorem overwrite_runs :
    (early.write lightsAddress "enbOper" (.bool true)).run.Runs 0 overwrite (.ok ()) := by
  rw [run_write]
  refine .ask (.inl rfl) ?_
  have hn : early.locate lightsAddress = .ok (lights "RELAY") := by rfl
  rw [hn]
  exact .ask (.inl rfl) (.done _)

theorem write_only_iff_overwrite :
    (early.write lightsAddress "enbOper" (.bool true)).run.Runs 0 overwrite (.ok ()) ∧
    ∃ node e host d d', early.locate lightsAddress = .ok node ∧ overwrite.getLast? = some e ∧
      e.event = .did 0 (.write early.link (node.set "enbOper" (.bool true))) (.ok ()) ∧
      e.before.far early.link = .ok (host, d) ∧
      (∀ host', e.after.network.find? host' =
        if host' = host then some d' else e.before.network.find? host') ∧
      d'.model.value? node.reference node.constraint "enbOper" = some (.bool true) ∧
      (d.model.OnlyWritten d'.model node.reference node.constraint "enbOper" ↔
        d.model.Keeps node "enbOper") :=
  ⟨overwrite_runs, write_only_iff overwrite_runs⟩

/-- A session that writes one value undoes what became of another one in the meantime. -/
theorem write_undoes_other_value :
    (early.write lightsAddress "enbOper" (.bool true)).run.Runs 0 overwrite (.ok ()) ∧
    ∃ e d d', overwrite.getLast? = some e ∧ e.before.network.find? "10.0.0.1" = some d ∧
      e.after.network.find? "10.0.0.1" = some d' ∧
      d.model.value? "SWDeviceGenericIO/CSLC.SWCf" .configuration "LT" = some (.text "LED") ∧
      d'.model.value? "SWDeviceGenericIO/CSLC.SWCf" .configuration "LT" = some (.text "RELAY") ∧
      ¬ d.model.OnlyWritten d'.model "SWDeviceGenericIO/CSLC.SWCf" .configuration "enbOper" := by
  have hbefore : (later.network.find? "10.0.0.1").map (·.model.value?
      "SWDeviceGenericIO/CSLC.SWCf" .configuration "LT") = some (some (.text "LED")) := by
    decide +kernel
  have hafter : ((later.perform overwriting).2.network.find? "10.0.0.1").map (·.model.value?
      "SWDeviceGenericIO/CSLC.SWCf" .configuration "LT") = some (some (.text "RELAY")) := by
    decide +kernel
  obtain ⟨d, hd, hled⟩ := Option.map_eq_some_iff.1 hbefore
  obtain ⟨d', hd', hrelay⟩ := Option.map_eq_some_iff.1 hafter
  refine ⟨overwrite_runs, _, d, d', rfl, hd, hd', hled, hrelay, fun h => ?_⟩
  rcases h.values "SWDeviceGenericIO/CSLC.SWCf" .configuration "LT" (by rw [hled, hrelay]; decide)
    with ⟨-, -, hp⟩ | ⟨hc, -⟩
  · exact absurd hp (by decide)
  · cases hc

end Session

end FieldGateway
