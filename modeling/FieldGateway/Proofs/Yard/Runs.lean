import FieldGateway.Proofs.Plant.Presets
import FieldGateway.Proofs.Yard.Handling
import FieldGateway.Proofs.Yard.Steps

/-!
# Devices beside each other

The work for many devices goes on side by side: any course may go on at any time by one step, and
any device may send a report. If no two devices have the same address, then whatever is done for the
others, a device cannot tell: its requests come to the same, the same is sent for it, and it is left
in the same state as if only its own work had been done.

* `Yard.play`: a run by a list of moves, each at a moment of its own.
* `Yard.Twin.step`: what one move for the device does in both runs.
* `Yard.twin_play`: what a run for all devices and a run for one of them have in common.
* `Gateway.devices_independent`: what they come to for the device.
-/

namespace FieldGateway

open List (Forall₂)

/-! ## What is known at the start -/

theorem Registry.mem_of_find?_ofList {ds : List Device} {id : String} {d : Device}
    (h : (ofList ds).find? id = some d) : d ∈ ds ∧ d.id = id := by
  have hfold : ∀ (ds : List Device) (r : Registry), (ds.foldl insert r).find? id = some d →
      (d ∈ ds ∧ d.id = id) ∨ r.find? id = some d := by
    intro ds
    induction ds with
    | nil => exact fun r h => .inr h
    | cons e ds ih =>
      intro r h
      rcases ih (r.insert e) h with ⟨hmem, hid⟩ | hr
      · exact .inl ⟨List.mem_cons_of_mem _ hmem, hid⟩
      · rw [find?_insert] at hr
        split at hr
        · next hid =>
          cases hr
          exact .inl ⟨List.mem_cons_self, hid.symm⟩
        · exact .inr hr
  exact (hfold ds empty h).resolve_right nofun

/-- No link was made to any device yet. -/
def Network.IsFresh (n : Network) : Prop := ∀ host d, n.find? host = some d → d.lastLink = none

theorem Network.isFresh_ofDevices (ds : List Device) : (ofDevices ds).IsFresh := by
  have hfold : ∀ (ds : List Device) (n : Network), n.IsFresh →
      (ds.foldl (fun n d => n.insert d.identity.host (.ofModel (Preset.ofIdentity d.identity)))
        n).IsFresh := by
    intro ds
    induction ds with
    | nil => exact fun n h => h
    | cons e ds ih =>
      refine fun n h => ih _ fun host d hd => ?_
      rw [find?_insert] at hd
      split at hd
      · cases hd
        rfl
      · exact h host d hd
  exact hfold ds empty nofun

/-- A device in view, of those that are known. -/
def Focus.on (ds : List Device) (τ : Tolerance) (id : String) : Focus where
  toTolerance := τ
  id
  device? := (Registry.ofList ds).find? id
  known _ hd := (Registry.mem_of_find?_ofList hd).2

/-- Two devices are not found at the same address. -/
theorem Focus.host?_ne {ds : List Device} (hhosts : (ds.map (·.identity.host)).Nodup)
    {τ τ₂ : Tolerance} {id id₂ : String} (hid : id ≠ id₂) (host : String)
    (h : (on ds τ id).host? = some host) : (on ds τ₂ id₂).host? ≠ some host := by
  intro h₂
  obtain ⟨d, hd, hhost⟩ := Option.map_eq_some_iff.1 h
  obtain ⟨e, he, hhost₂⟩ := Option.map_eq_some_iff.1 h₂
  obtain ⟨hdmem, hdid⟩ := Registry.mem_of_find?_ofList hd
  obtain ⟨hemem, heid⟩ := Registry.mem_of_find?_ofList he
  have hsame : d = e := List.inj_on_of_nodup_map hhosts hdmem hemem (hhost.trans hhost₂.symm)
  exact hid (hdid.symm.trans ((congrArg _ hsame).trans heid))

/-! ## Runs -/

/-- How a course ended, if it did. -/
def Course.result? {Q : Type} {A : Q → Type} {α : Type} : Course Q A α → Option α
  | .done a => some a
  | _ => none

/-- A plant, and what is left of the work for each device, by its identifier. -/
structure Yard where
  plant : Plant
  courses : String → List (Work (Option Response))

namespace Yard

/-- The yard of some devices in a network, before anything happens. -/
def start (ds : List Device) (network : Network) : Yard :=
  ⟨.start (.ofList ds) network 0 "", fun _ => []⟩

/-- What is to happen next. -/
inductive Move where
  /-- A request comes in. -/
  | request (r : Request)
  /-- A device registers. -/
  | registration (deviceId : String)
  /-- A course for a device goes on by one step. -/
  | go (deviceId : String) (course : Nat)
  /-- A device sends a report. -/
  | push (deviceId : String) (report : Report)

/-- The device that a move is for. -/
def Move.deviceId : Move → String
  | .request r => r.deviceId
  | .registration deviceId => deviceId
  | .go deviceId _ => deviceId
  | .push deviceId _ => deviceId

/-- A move, and what the clock shows and what a generated identifier reads as at that moment. -/
structure Moment where
  now : Int64
  /-- What the clock shows to the members of a report. -/
  readings : Clock
  identifier : String
  move : Move

variable (g : Gateway) (y : Yard)

def put (id : String) (courses : List (Work (Option Response))) : Yard :=
  { y with courses := Function.update y.courses id courses }

/-- A course for a device goes on by one step: it acts, or it has waited long enough. The jobs that
it starts are courses for the same device. -/
def go (id : String) (k : Nat) : Yard :=
  match (y.courses id)[k]? with
  | some (.ask a next) =>
    { y.put id ((y.courses id).set k (next (y.plant.perform a).1) ++ a.started.map g.jobWork) with
      plant := (y.plant.perform a).2 }
  | some (.wait _ next) => y.put id ((y.courses id).set k next)
  | _ => y

def move (readings : Clock) : Move → Yard
  | .request r => y.put r.deviceId (y.courses r.deviceId ++ [g.jobWork (.request 0 r)])
  | .registration id =>
    y.put id (y.courses id ++ [do
      let _ ← g.registered id
      return none])
  | .go id k => y.go g id k
  | .push id r =>
    match y.plant.registry.find? id with
    | some d => { y with plant := (y.plant.push d.identity.host readings r).2 }
    | none => y

/-- The clock shows another time, and a generated identifier will read otherwise. -/
def atMoment (m : Moment) : Yard :=
  { y with plant := { y.plant with now := m.now, identifier := m.identifier } }

def step (m : Moment) : Yard := (y.atMoment m).move g m.readings m.move

/-- The yard after some moves. -/
def play (ms : List Moment) : Yard := ms.foldl (step g) y

/-! ## Two runs -/

/-- Two yards with the same device, for which the same is left to do. -/
structure Twin (φ : Focus) (names : List Nat) (y y' : Yard) : Prop where
  plant : y.plant.Twin φ names y'.plant
  courses : Forall₂ (Work.Paired φ (fun _ => Option.Rel (Response.Resembles φ.toTolerance)) names)
    (y.courses φ.id) (y'.courses φ.id)

/-- Whatever is different in the second yard concerns the device. -/
structure Confined (φ : Focus) (y z : Yard) : Prop where
  plant : y.plant.Confined φ z.plant
  courses : ∀ id, id ≠ φ.id → z.courses id = y.courses id

/-- The same move, at moments that may stand for each other. -/
structure Moment.Paired (τ : Tolerance) (m m' : Moment) : Prop where
  move : m'.move = m.move
  now : τ.time m.now m'.now
  readings : ∀ i, τ.time (m.readings i) (m'.readings i)
  identifier : τ.name m.identifier m'.identifier

end Yard

section
variable {α β : Type} {Q : α → β → Prop} {l : List α} {l' : List β}

theorem forall₂_getElem? (h : Forall₂ Q l l') (k : Nat) : Option.Rel Q l[k]? l'[k]? := by
  induction h generalizing k with
  | nil => exact .none
  | cons hab _ ih =>
    cases k with
    | zero => exact .some hab
    | succ k => exact ih k

theorem forall₂_set (h : Forall₂ Q l l') (k : Nat) {a : α} {b : β} (hab : Q a b) :
    Forall₂ Q (l.set k a) (l'.set k b) := by
  induction h generalizing k with
  | nil => exact .nil
  | cons hcd hrest ih =>
    cases k with
    | zero => exact .cons hab hrest
    | succ k => exact .cons hcd (ih k)

end

variable {g : Gateway} {φ ψ : Focus} {names names' : List Nat}

/-- The same jobs are started in both runs. -/
theorem Asks.started {a a' : Action} {R : List Nat → a.Answer → a'.Answer → Prop}
    (h : Asks φ names a a' R) : Forall₂ (Job.Paired φ names) a.started a'.started := by
  cases h with
  | start hjob => exact .cons hjob .nil
  | _ => exact .nil

namespace Yard

variable {y y' z : Yard}

@[simp] theorem courses_put_self (id : String) (cs : List (Work (Option Response))) :
    (y.put id cs).courses id = cs := Function.update_self ..

theorem courses_put_of_ne {id other : String} (h : other ≠ id)
    (cs : List (Work (Option Response))) : (y.put id cs).courses other = y.courses other :=
  Function.update_of_ne h ..

namespace Confined

theorem refl (y : Yard) : Confined φ y y := ⟨.refl _, fun _ _ => rfl⟩

theorem put (h : Confined φ y z) (cs : List (Work (Option Response))) :
    Confined φ y (z.put φ.id cs) :=
  ⟨h.plant, fun id hid => (courses_put_of_ne hid cs).trans (h.courses id hid)⟩

end Confined

namespace Twin

variable {readings readings' : Clock}

/-- Two yards stay the same for a device if something happens but at another one. -/
theorem frame (h : Twin ψ names y y') (hc : Confined φ y z) (hid : ψ.id ≠ φ.id)
    (hhost : ∀ host, ψ.host? = some host → φ.host? ≠ some host) : Twin ψ names z y' := by
  refine ⟨h.plant.frame hc.plant hid hhost, ?_⟩
  rw [hc.courses _ hid]
  exact h.courses

theorem atMoment (h : Twin φ names y y') (m m' : Moment) :
    Twin φ names (y.atMoment m) (y'.atMoment m') :=
  ⟨h.plant.congr rfl rfl, h.courses⟩

/-- The courses of the device with more links. -/
theorem courses_mono (h : Twin φ names y y') (hn : names <+: names') :
    Forall₂ (Work.Paired φ (fun _ => Option.Rel (Response.Resembles φ.toTolerance)) names')
      (y.courses φ.id) (y'.courses φ.id) :=
  h.courses.imp fun _ _ hc => hc.mono (fun _ hab => hab) hn

theorem join (h : Twin φ names y y') {c c' : Work (Option Response)}
    (hc : Work.Paired φ (fun _ => Option.Rel (Response.Resembles φ.toTolerance)) names c c') :
    Twin φ names (y.put φ.id (y.courses φ.id ++ [c])) (y'.put φ.id (y'.courses φ.id ++ [c'])) := by
  refine ⟨h.plant, ?_⟩
  rw [courses_put_self, courses_put_self]
  exact List.rel_append h.courses (.cons hc .nil)

/-- A course for the device goes on in both yards. -/
theorem go (h : Twin φ names y y') (hnow : φ.time y.plant.now y'.plant.now)
    (hname : φ.name y.plant.identifier y'.plant.identifier) (k : Nat) :
    (∃ names', Twin φ names' (y.go g φ.id k) (y'.go g φ.id k)) ∧
      Confined φ y (y.go g φ.id k) := by
  unfold Yard.go
  rcases cases_option_rel (forall₂_getElem? h.courses k) with ⟨hc, hc'⟩ | ⟨c, c', hc, hc', hpaired⟩
  · rw [hc, hc']
    exact ⟨⟨names, h⟩, .refl y⟩
  rw [hc, hc']
  cases hpaired with
  | done => exact ⟨⟨names, h⟩, .refl y⟩
  | wait hnext =>
    refine ⟨⟨names, h.plant, ?_⟩, (Confined.refl y).put _⟩
    rw [courses_put_self, courses_put_self]
    exact forall₂_set h.courses k hnext
  | @ask _ a a' _ next next' ha hnext =>
    obtain ⟨names', hn, hanswers, hplant⟩ := ha.twin h.plant hnow hname
    refine ⟨⟨names', hplant, ?_⟩, ha.confined h.plant, ((Confined.refl y).put _).courses⟩
    have hjobs : Forall₂ (Work.Paired φ
        (fun _ => Option.Rel (Response.Resembles φ.toTolerance)) names')
        (a.started.map g.jobWork) (a'.started.map g.jobWork) :=
      List.forall₂_map_left_iff.2 (List.forall₂_map_right_iff.2
        (ha.started.imp fun _ _ hjob => g.paired_jobWork (hjob.mono hn)))
    simp only [courses_put_self]
    exact List.rel_append (forall₂_set (h.courses_mono hn) k (hnext names' _ _ hn hanswers)) hjobs

theorem push (h : Twin φ names y y') (hreadings : ∀ i, φ.time (readings i) (readings' i))
    (r : Report) :
    Twin φ names (y.move g readings (.push φ.id r)) (y'.move g readings' (.push φ.id r)) ∧
      Confined φ y (y.move g readings (.push φ.id r)) := by
  simp only [move, h.plant.fair.known, h.plant.fair'.known]
  cases hd : φ.device? with
  | none => exact ⟨h, .refl y⟩
  | some d =>
    have hhost : φ.host? = some d.identity.host := by rw [Focus.host?, hd]; rfl
    exact ⟨⟨h.plant.push hreadings hhost r, h.courses⟩,
      h.plant.confined_push hhost readings r, fun _ _ => rfl⟩

/-- A move for the device does the same in both yards, and nothing but at the device. -/
theorem move (h : Twin φ names y y') (hnow : φ.time y.plant.now y'.plant.now)
    (hreadings : ∀ i, φ.time (readings i) (readings' i))
    (hname : φ.name y.plant.identifier y'.plant.identifier) {m : Move} (hm : m.deviceId = φ.id) :
    (∃ names', Twin φ names' (y.move g readings m) (y'.move g readings' m)) ∧
      Confined φ y (y.move g readings m) := by
  cases m with
  | request r =>
    have hr : r.deviceId = φ.id := hm
    simp only [Yard.move, hr]
    exact ⟨⟨names, h.join (g.paired_jobWork (.request 0 (.refl hr)))⟩, (Confined.refl y).put _⟩
  | registration id =>
    obtain rfl : id = φ.id := hm
    refine ⟨⟨names, h.join ?_⟩, (Confined.refl y).put _⟩
    exact g.paired_registered.bind fun _ _ _ _ _ => .done .none
  | go id k =>
    obtain rfl : id = φ.id := hm
    exact h.go hnow hname k
  | push id r =>
    obtain rfl : id = φ.id := hm
    exact ⟨⟨names, (h.push hreadings r).1⟩, (h.push hreadings r).2⟩

theorem step (h : Twin φ names y y') {m m' : Moment} (hm : m.Paired φ.toTolerance m')
    (hid : m.move.deviceId = φ.id) :
    (∃ names', Twin φ names' (y.step g m) (y'.step g m')) ∧ Confined φ y (y.step g m) := by
  have hmoved := (h.atMoment m m').move (g := g) hm.now hm.readings hm.identifier hid
  unfold Yard.step
  rw [hm.move]
  have hset : y.plant.Confined φ (y.atMoment m).plant := .of_bare rfl
  exact ⟨hmoved.1, hset.trans hmoved.2.plant, hmoved.2.courses⟩

end Twin

/-! ## All devices and one of them -/

variable {ds : List Device} {τ : Tolerance} {id : String}

theorem Moment.Paired.refl (m : Moment) : m.Paired τ m :=
  ⟨rfl, τ.time_refl _, fun _ => τ.time_refl _, τ.name_refl _⟩

/-- Each device is the same in some other yard. Which one is of no matter: it shows that all that is
left to do for the device asks for nothing but this device. -/
def IsOrderly (ds : List Device) (y : Yard) : Prop :=
  ∀ id, ∃ names z, y.Twin (.on ds .exact id) names z

/-- Two yards stay the same for a device if something happens but at one with another address. -/
theorem Twin.apart (hhosts : (ds.map (·.identity.host)).Nodup)
    (h : y.Twin (.on ds τ id) names y') {τ₂ : Tolerance} {id₂ : String}
    (hc : Confined (.on ds τ₂ id₂) y z) (hid : id ≠ id₂) : z.Twin (.on ds τ id) names y' :=
  h.frame hc hid (Focus.host?_ne hhosts hid)

/-- A move concerns no other device than its own. -/
theorem IsOrderly.confined (h : IsOrderly ds y) (g : Gateway) (m : Moment) :
    Confined (.on ds .exact m.move.deviceId) y (y.step g m) := by
  obtain ⟨names, z, hz⟩ := h m.move.deviceId
  exact (hz.step (.refl m) rfl).2

/-- What is done for one device is done in the other yard as well, and leaves the others alone. -/
theorem IsOrderly.step (hhosts : (ds.map (·.identity.host)).Nodup) (h : IsOrderly ds y)
    (g : Gateway) (m : Moment) : IsOrderly ds (y.step g m) := by
  intro id
  obtain ⟨names, z, hz⟩ := h id
  by_cases hid : id = m.move.deviceId
  · obtain ⟨⟨names', hstep⟩, -⟩ := hz.step (g := g) (.refl m) hid.symm
    exact ⟨names', _, hstep⟩
  · exact ⟨names, z, hz.apart hhosts (h.confined g m) hid⟩

/-- A run for all devices, and one for one of them. -/
theorem twin_play (hhosts : (ds.map (·.identity.host)).Nodup) (horderly : IsOrderly ds y)
    (h : y.Twin (.on ds τ id) names y') {ms ms' : List Moment}
    (hms : Forall₂ (Moment.Paired τ) (ms.filter (·.move.deviceId = id)) ms') :
    ∃ names', (y.play g ms).Twin (.on ds τ id) names' (y'.play g ms') := by
  induction ms generalizing y y' names ms' with
  | nil =>
    cases hms
    exact ⟨names, h⟩
  | cons m ms ih =>
    have horderly' := horderly.step hhosts g m
    by_cases hid : m.move.deviceId = id
    · -- both runs make the move
      rw [List.filter_cons_of_pos (by simpa using hid)] at hms
      cases hms with
      | cons hm hrest =>
        obtain ⟨⟨names', hstep⟩, -⟩ := h.step (g := g) hm hid
        exact ih horderly' hstep hrest
    · -- only the run for all devices makes the move
      rw [List.filter_cons_of_neg (by simpa using hid)] at hms
      exact ih horderly' (h.apart hhosts (horderly.confined g m) (Ne.symm hid)) hms

theorem twin_start {network : Network} (hfresh : network.IsFresh) (ds : List Device)
    (τ : Tolerance) (id : String) :
    (start ds network).Twin (.on ds τ id) [] (start ds network) where
  plant := {
    fair := ⟨rfl, rfl, rfl, rfl⟩
    fair' := ⟨rfl, rfl, rfl, rfl⟩
    ied := fun host _ => by
      have hnetwork : (start ds network).plant.network = network := rfl
      rw [hnetwork]
      cases hd : network.find? host with
      | none => exact .none
      | some d =>
        refine .some ⟨d.lastLink, rfl, ?_⟩
        rw [hfresh host d hd]
        exact .none
    links := nofun
    length := rfl
    nodup := .nil
    outbox := ⟨.nil, .nil, .nil⟩ }
  courses := .nil

end Yard

/-! ## What it comes to -/

/-- A device, whatever the number of the link that was made last. -/
def Ied.unnumbered (d : Ied) : Ied := { d with lastLink := d.lastLink.map fun _ => 0 }

theorem Ied.Twin.unnumbered {d d' : Ied} (h : d.Twin names d') : d.unnumbered = d'.unnumbered := by
  obtain ⟨last, rfl, hlast⟩ := h
  rcases cases_option_rel hlast with ⟨hd, rfl⟩ | ⟨i, j, hd, rfl, -⟩
  · simp only [Ied.unnumbered, hd]
  · simp only [Ied.unnumbered, hd, Option.map_some]

/-- Courses that ask the same have ended in the same way, if they have. -/
theorem Work.Paired.result? {α β : Type} {Q : List Nat → α → β → Prop} {c : Work α} {c' : Work β}
    (h : Work.Paired φ Q names c c') :
    Option.Rel (fun a b => ∃ names, Q names a b) c.result? c'.result? := by
  cases h with
  | done h => exact .some ⟨names, h⟩
  | ask => exact .none
  | wait => exact .none

namespace Yard

variable {y y' : Yard}

/-- Two runs came to the same for a device, but for stamps and generated identifiers; in the second
one, nothing was sent but for this device. -/
structure AgreesOn (φ : Focus) (y y' : Yard) : Prop where
  /-- The same courses have ended, and those of requests with the same responses. -/
  responses : Forall₂ (Option.Rel (Option.Rel (Response.Resembles φ.toTolerance)))
    ((y.courses φ.id).map (·.result?)) ((y'.courses φ.id).map (·.result?))
  sent : (y.plant.outbox.of φ.id).Resembles φ.toTolerance y'.plant.outbox
  device : ∀ d, φ.device? = some d →
    (y.plant.network.find? d.identity.host).map Ied.unnumbered =
      (y'.plant.network.find? d.identity.host).map Ied.unnumbered

theorem Twin.agreesOn (h : y.Twin φ names y') : y.AgreesOn φ y' where
  responses := by
    refine List.forall₂_map_left_iff.2 (List.forall₂_map_right_iff.2 ?_)
    refine h.courses.imp fun c c' hc => ?_
    rcases cases_option_rel hc.result? with ⟨hr, hr'⟩ | ⟨a, b, hr, hr', -, hab⟩
    · rw [hr, hr']
      exact .none
    · rw [hr, hr']
      exact .some hab
  sent := h.plant.outbox
  device d hd := by
    have hhost : φ.host? = some d.identity.host := by rw [Focus.host?, hd]; rfl
    rcases cases_option_rel (h.plant.ied _ hhost) with ⟨hp, hp'⟩ | ⟨d, d', hp, hp', hdd⟩
    · rw [hp, hp']
    · rw [hp, hp', Option.map_some, Option.map_some, hdd.unnumbered]

/-- Where the clock showed the same at the same moves, there is no difference at all. -/
theorem AgreesOn.eq {ds : List Device} {id : String} (h : y.AgreesOn (.on ds .exact id) y') :
    (y.courses id).map (·.result?) = (y'.courses id).map (·.result?) ∧
      y.plant.outbox.of id = y'.plant.outbox :=
  ⟨forall₂_eq (fun _ _ => option_rel_eq fun _ _ => option_rel_eq fun _ _ =>
    Response.Resembles.eq) h.responses, h.sent.eq⟩

end Yard

/-- Requests, registrations and reports of devices at different addresses are handled in any
interleaving, at the grain of single actions, with all pauses, and with delayed ends of sessions.
For each of the devices it comes to the same as if only the moves for this device were made, in
their order: its requests have the same responses, the same events and measurements are sent, and
the device itself is left in the same state. The moments may be others; then only the stamps and
identifiers that come of them may differ, in what stands for each other at these moments. -/
theorem Gateway.devices_independent (g : Gateway) {ds : List Device}
    (hhosts : (ds.map (·.identity.host)).Nodup) {network : Network} (hfresh : network.IsFresh)
    (τ : Tolerance) (id : String) {ms ms' : List Yard.Moment}
    (hms : Forall₂ (Yard.Moment.Paired τ) (ms.filter (·.move.deviceId = id)) ms') :
    ((Yard.start ds network).play g ms).AgreesOn (.on ds τ id)
      ((Yard.start ds network).play g ms') := by
  have horderly : Yard.IsOrderly ds (Yard.start ds network) := fun other =>
    ⟨[], _, Yard.twin_start hfresh ds .exact other⟩
  obtain ⟨names, htwin⟩ :=
    Yard.twin_play (g := g) hhosts horderly (Yard.twin_start hfresh ds τ id) hms
  exact htwin.agreesOn

namespace Yard

/-- Two controllers of one light each. -/
def controllers : List Device :=
  [("SSLD-1", "10.0.0.1"), ("SSLD-2", "10.0.0.2")].map fun at_ =>
    ⟨⟨at_.1, at_.2, .streetlightController, none⟩, [⟨1, 1, .light⟩], false, []⟩

/-- The moves for both controllers, in turns: a request for events and one to switch a light, an
event of the first controller, and the delayed end of its session. -/
def evening : List Moment :=
  let event : Report :=
    Preset.eventReport 5 none [⟨some 1, some 1, some true, some 1, none, none⟩]
  let turns (k : Nat) (course : Nat) : List Move :=
    (List.replicate k [Move.go "SSLD-2" course, .go "SSLD-1" course]).flatten
  let moves : List Move :=
    [.request ⟨"1", "platform", "SSLD-1", .enableReporting⟩,
      .request ⟨"2", "platform", "SSLD-2", .setLight [⟨1, true⟩]⟩] ++
    turns 30 0 ++ [.push "SSLD-1" event] ++ turns 20 1
  moves.zipIdx.map fun move => ⟨.ofNat move.2, .still (.ofNat move.2), "", move.1⟩

end Yard

/-- One controller is asked for its events and tells one, while the other one switches its light. -/
theorem Gateway.devices_independent_controllers :
    let network := Network.ofDevices Yard.controllers
    let alone := Yard.evening.filter (·.move.deviceId = "SSLD-1")
    let y := (Yard.start Yard.controllers network).play standard Yard.evening
    let z := (Yard.start Yard.controllers network).play standard alone
    (Yard.controllers.map (·.identity.host)).Nodup ∧ network.IsFresh ∧
    Forall₂ (Yard.Moment.Paired .exact) alone alone ∧
    y.plant.outbox.responses.length = 2 ∧ (y.plant.outbox.of "SSLD-1").events.length = 1 ∧
    y.AgreesOn (.on Yard.controllers .exact "SSLD-1") z ∧
    y.plant.outbox.of "SSLD-1" = z.plant.outbox := by
  intro network alone y z
  have hhosts : (Yard.controllers.map (·.identity.host)).Nodup := by decide +kernel
  have hfresh : network.IsFresh := Network.isFresh_ofDevices _
  have halone : Forall₂ (Yard.Moment.Paired .exact) alone alone :=
    List.forall₂_same.2 fun m _ => .refl m
  have hagrees : y.AgreesOn (.on Yard.controllers .exact "SSLD-1") z :=
    Gateway.devices_independent standard hhosts hfresh .exact "SSLD-1" halone
  exact ⟨hhosts, hfresh, halone, by decide +kernel, by decide +kernel, hagrees, hagrees.eq.2⟩

end FieldGateway
