import FieldGateway.Proofs.Gateway.Transparency
import FieldGateway.Report.Collector

/-!
# What agrees but for stamps

The same things done at other times come to the same results, except that the gateway puts the time
of day where a device tells none, and a generated identifier where a request has none. Two runs are
compared up to what may differ in this way. Events are sent in the order of their times, so that
other stamps may bring them into another order.

* `Tolerance`: which times and identifiers may stand for each other.
* `Collector.Resembles`: kept by whatever both collectors are asked and told.
* `Reader.resembles_systems`: what a report tells at one time and at another.
-/

namespace FieldGateway

open List (Forall₂)

/-- What may differ between two runs. -/
structure Tolerance where
  /-- Times of day that may stand for each other. -/
  time : Int64 → Int64 → Prop
  /-- Identifiers that may stand for each other. -/
  name : String → String → Prop
  time_refl : ∀ t, time t t
  name_refl : ∀ s, name s s

/-- Nothing may differ. -/
def Tolerance.exact : Tolerance := ⟨Eq, Eq, fun _ => rfl, fun _ => rfl⟩

/-- Both fail in the same way, or both succeed with results that are related. -/
def Except.Alike {ε α β : Type} (Q : α → β → Prop) : Except ε α → Except ε β → Prop
  | .ok a, .ok b => Q a b
  | .error e, .error e' => e = e'
  | _, _ => False

theorem Except.Alike.cases {ε α β : Type} {Q : α → β → Prop} {x : Except ε α} {y : Except ε β}
    (h : Alike Q x y) :
    (∃ e, x = .error e ∧ y = .error e) ∨ ∃ a b, x = .ok a ∧ y = .ok b ∧ Q a b := by
  cases x with
  | ok a =>
    cases y with
    | ok b => exact .inr ⟨a, b, rfl, rfl, h⟩
    | error e => exact h.elim
  | error e =>
    cases y with
    | ok b => exact h.elim
    | error e' => exact .inl ⟨e, rfl, congrArg _ (Eq.symm h)⟩

theorem Except.Alike.toOption {ε α β : Type} {Q : α → β → Prop} {x : Except ε α} {y : Except ε β}
    (h : Alike Q x y) : Option.Rel Q x.toOption y.toOption := by
  rcases h.cases with ⟨e, rfl, rfl⟩ | ⟨a, b, rfl, rfl, hab⟩
  · exact .none
  · exact .some hab

theorem cases_option_rel {α β : Type} {Q : α → β → Prop} {x : Option α} {y : Option β}
    (h : Option.Rel Q x y) :
    (x = none ∧ y = none) ∨ ∃ a b, x = some a ∧ y = some b ∧ Q a b := by
  cases h with
  | none => exact .inl ⟨rfl, rfl⟩
  | some hab => exact .inr ⟨_, _, rfl, rfl, hab⟩

theorem option_rel_eq {α : Type} {Q : α → α → Prop} (hQ : ∀ a b, Q a b → a = b) {x y : Option α}
    (h : Option.Rel Q x y) : x = y := by
  cases h with
  | none => rfl
  | some hab => rw [hQ _ _ hab]

variable (τ : Tolerance)

/-! ## Outcomes -/

def Measurement.Resembles (m m' : Measurement) : Prop :=
  m' = { m with time := m'.time } ∧ τ.time m.time m'.time

def SystemMeasurements.Resembles (s s' : SystemMeasurements) : Prop :=
  s' = { s with measurements := s'.measurements } ∧
    Forall₂ (Measurement.Resembles τ) s.measurements s'.measurements

def Payload.Resembles : Payload → Payload → Prop
  | .data systems skipped, .data systems' skipped' =>
    Forall₂ (SystemMeasurements.Resembles τ) systems systems' ∧ skipped' = skipped
  | payload, payload' => payload' = payload

def Outcome.Resembles : Outcome → Outcome → Prop
  | .success payload, .success payload' => payload.Resembles τ payload'
  | outcome, outcome' => outcome' = outcome

/-- Responses that agree but for stamps and generated identifiers. -/
def Response.Resembles (r r' : Response) : Prop :=
  r' = { r with correlationId := r'.correlationId, outcome := r'.outcome } ∧
    τ.name r.correlationId r'.correlationId ∧ r.outcome.Resembles τ r'.outcome

/-- Measurements that agree but for stamps. -/
def MeasurementBatch.Resembles (b b' : MeasurementBatch) : Prop :=
  b'.deviceId = b.deviceId ∧ Forall₂ (SystemMeasurements.Resembles τ) b.systems b'.systems

def Notification.Resembles (n n' : Notification) : Prop :=
  n' = { n with time := n'.time } ∧ τ.time n.time n'.time

/-- Events that were told in the same order and agree but for stamps, each time put into the order
of the times. -/
def EventBatch.Resembles (b b' : EventBatch) : Prop :=
  b'.deviceId = b.deviceId ∧ ∃ told told', Forall₂ (Notification.Resembles τ) told told' ∧
    b.notifications = Collector.inOrder told ∧ b'.notifications = Collector.inOrder told'

variable {τ}

theorem Measurement.Resembles.refl (m : Measurement) : m.Resembles τ m := ⟨rfl, τ.time_refl _⟩

theorem SystemMeasurements.Resembles.refl (s : SystemMeasurements) : s.Resembles τ s :=
  ⟨rfl, List.forall₂_same.2 fun m _ => .refl m⟩

theorem Payload.Resembles.refl (payload : Payload) : payload.Resembles τ payload := by
  cases payload with
  | data systems skipped => exact ⟨List.forall₂_same.2 fun s _ => .refl s, rfl⟩
  | empty => rfl
  | status status => rfl

theorem EventBatch.Resembles.isEmpty {b b' : EventBatch} (h : b.Resembles τ b') :
    b.notifications.isEmpty = b'.notifications.isEmpty := by
  obtain ⟨-, told, told', htold, hb, hb'⟩ := h
  have hlength : b.notifications.length = b'.notifications.length := by
    rw [hb, hb', (Collector.inOrder_perm told).length_eq, (Collector.inOrder_perm told').length_eq]
    exact htold.length_eq
  rw [Bool.eq_iff_iff, List.isEmpty_iff, List.isEmpty_iff, ← List.length_eq_zero_iff, hlength,
    List.length_eq_zero_iff]

/-! ## Nothing may differ -/

section
variable {r r' : Response}

theorem forall₂_eq {α : Type} {Q : α → α → Prop} (hQ : ∀ a b, Q a b → a = b) {l l' : List α}
    (h : Forall₂ Q l l') : l = l' := by
  induction h with
  | nil => rfl
  | cons hab _ ih => rw [hQ _ _ hab, ih]

theorem Measurement.Resembles.eq {m m' : Measurement} (h : m.Resembles .exact m') : m = m' := by
  obtain ⟨hm, htime⟩ := h
  have htime : m.time = m'.time := htime
  rw [hm, ← htime]

theorem SystemMeasurements.Resembles.eq {s s' : SystemMeasurements} (h : s.Resembles .exact s') :
    s = s' := by
  obtain ⟨hs, hms⟩ := h
  rw [hs, ← forall₂_eq (fun _ _ => Measurement.Resembles.eq) hms]

theorem MeasurementBatch.Resembles.eq {b b' : MeasurementBatch} (h : b.Resembles .exact b') :
    b = b' := by
  obtain ⟨hid, hsystems⟩ := h
  have hsystems := forall₂_eq (fun _ _ => SystemMeasurements.Resembles.eq) hsystems
  cases b
  cases b'
  simp_all

theorem Notification.Resembles.eq {n n' : Notification} (h : n.Resembles .exact n') : n = n' := by
  obtain ⟨hn, htime⟩ := h
  have htime : n.time = n'.time := htime
  rw [hn, ← htime]

theorem EventBatch.Resembles.eq {b b' : EventBatch} (h : b.Resembles .exact b') : b = b' := by
  obtain ⟨hid, told, told', htold, hb, hb'⟩ := h
  obtain rfl := forall₂_eq (fun _ _ => Notification.Resembles.eq) htold
  cases b
  cases b'
  simp_all

theorem Outcome.Resembles.eq {o o' : Outcome} (h : o.Resembles .exact o') : o = o' := by
  cases o with
  | success payload =>
    cases o' with
    | success payload' =>
      cases payload with
      | data systems skipped =>
        cases payload' with
        | data systems' skipped' =>
          obtain ⟨hsystems, hskipped⟩ := h
          rw [forall₂_eq (fun _ _ => SystemMeasurements.Resembles.eq) hsystems, hskipped]
        | empty => cases h
        | status status => cases h
      | empty => exact congrArg _ h.symm
      | status status => exact congrArg _ h.symm
    | operationFailure reason => cases h
    | connectionFailure reason => cases h
  | operationFailure reason => exact h.symm
  | connectionFailure reason => exact h.symm

theorem Response.Resembles.eq (h : r.Resembles .exact r') : r = r' := by
  obtain ⟨hr, hname, houtcome⟩ := h
  have hname : r.correlationId = r'.correlationId := hname
  rw [hr, ← hname, ← houtcome.eq]

end

/-! ## Measurements of one node at two times -/

variable {now now' : Int64} {clock clock' : Clock}

/-- The members of a report, read by one clock and by another. -/
theorem Report.forall₂_timed (h : ∀ i, τ.time (clock i) (clock' i)) (r : Report) :
    Forall₂ (fun e e' => e'.1 = e.1 ∧ τ.time e.2 e'.2) (r.timed clock) (r.timed clock') := by
  rw [timed, timed, List.mapIdx_eq_zipIdx_map, List.mapIdx_eq_zipIdx_map]
  exact List.forall₂_map_left_iff.2 (List.forall₂_map_right_iff.2
    (List.forall₂_same.2 fun e _ => ⟨rfl, h e.2⟩))

theorem Point.alike_measure (p : Point) (h : τ.time now now') (node : Node) :
    Except.Alike (Measurement.Resembles τ) (p.measure now node) (p.measure now' node) := by
  unfold measure
  cases (node.get? p.path).bind Value.float? with
  | none => rfl
  | some value =>
    refine ⟨rfl, ?_⟩
    dsimp only [time]
    cases (node.get? "t").bind Value.timestamp? with
    | none => exact h
    | some t => exact τ.time_refl t

/-! ## Collectors -/

theorem Event.alike_ofMember (deviceId : String) (ids : Table UInt8 UInt8) (entered : Option Int64)
    (h : τ.time now now') (member : Node) : Except.Alike (Notification.Resembles τ)
      (ofMember deviceId ids entered now member) (ofMember deviceId ids entered now' member) := by
  have htime : τ.time (time member entered now) (time member entered now') := by
    unfold time
    cases ((member.get? "trgTime").bind Value.timestamp?).or entered with
    | none => exact h
    | some t => exact τ.time_refl t
  unfold ofMember
  cases required member "evnType" with
  | error e => rfl
  | ok code =>
    cases hkind : kindOf code with
    | error e =>
      simp only [Bind.bind, Except.bind, hkind]
      rfl
    | ok kind =>
      cases hrelay : required member "swNum" with
      | error e =>
        simp only [Bind.bind, Except.bind, hkind]
        rfl
      | ok relay =>
        simp only [Bind.bind, Except.bind, hkind]
        exact ⟨rfl, htime⟩

namespace Collector

/-- Collectors that differ in the stamps of their events at most. -/
def Resembles (τ : Tolerance) (c c' : Collector) : Prop :=
  c' = { c with buffer := c'.buffer } ∧ Forall₂ (Notification.Resembles τ) c.buffer c'.buffer

theorem Resembles.refl_of_vacant {c : Collector} (h : c.buffer = []) : c.Resembles τ c :=
  ⟨rfl, by rw [h]; exact .nil⟩

variable {c c' : Collector}

theorem Resembles.receive (h : c.Resembles τ c') (hclock : ∀ i, τ.time (clock i) (clock' i))
    (r : Report) :
    (c.receive clock r).Resembles τ (c'.receive clock' r) := by
  obtain ⟨hc, hbuffer⟩ := h
  generalize c'.buffer = buffer at hc hbuffer
  subst hc
  have hverdict : verdict { c with buffer } r = c.verdict r := rfl
  unfold Collector.receive
  rw [hverdict]
  split
  · refine ⟨rfl, List.rel_append hbuffer ?_⟩
    unfold events
    split
    · exact .nil
    · refine List.rel_filterMap ?_ (r.forall₂_timed hclock)
      rintro ⟨m, now⟩ ⟨m, now'⟩ ⟨rfl, hnow⟩
      exact (Event.alike_ofMember c.deviceId c.ids r.time? hnow m).toOption
  · exact ⟨rfl, hbuffer⟩

theorem Resembles.activate (h : c.Resembles τ c') : c.activate.Resembles τ c'.activate := by
  obtain ⟨hc, hbuffer⟩ := h
  rw [hc]
  unfold Collector.activate
  dsimp only
  split <;> exact ⟨rfl, hbuffer⟩

theorem Resembles.setBoundary (h : c.Resembles τ c') (n : UInt32) :
    (c.setBoundary n).Resembles τ (c'.setBoundary n) := by
  obtain ⟨hc, hbuffer⟩ := h
  rw [hc]
  exact ⟨rfl, hbuffer⟩

theorem Resembles.finishDrain (h : c.Resembles τ c') :
    c.finishDrain.Resembles τ c'.finishDrain := by
  obtain ⟨hc, hbuffer⟩ := h
  rw [hc]
  exact ⟨rfl, hbuffer⟩

theorem Resembles.startDrain (h : c.Resembles τ c') :
    Option.Rel (EventBatch.Resembles τ) (c.startDrain.1.map fun batch => ⟨c.deviceId, batch⟩)
        (c'.startDrain.1.map fun batch => ⟨c'.deviceId, batch⟩) ∧
      c.startDrain.2.Resembles τ c'.startDrain.2 := by
  obtain ⟨hc, hbuffer⟩ := h
  generalize c'.buffer = buffer at hc hbuffer
  subst hc
  unfold Collector.startDrain
  dsimp only
  split
  · exact ⟨.none, rfl, hbuffer⟩
  · exact ⟨.some ⟨rfl, c.buffer, buffer, hbuffer, rfl, rfl⟩, rfl, .nil⟩

end Collector

/-! ## Readers -/

namespace Table

variable {κ ν : Type} [Ord κ]

/-- Entries with the same keys and values that are related. -/
def EntriesRelated (Q : ν → ν → Prop) : List (κ × ν) → List (κ × ν) → Prop :=
  Forall₂ fun e e' => e'.1 = e.1 ∧ Q e.2 e'.2

variable {Q : ν → ν → Prop} {l l' : List (κ × ν)}

theorem EntriesRelated.valueIn? (h : EntriesRelated Q l l') (k : κ) :
    Option.Rel Q (valueIn? k l) (valueIn? k l') := by
  induction h with
  | nil => exact .none
  | @cons e e' l l' he _ ih =>
    obtain ⟨j, v⟩ := e
    obtain ⟨j', v'⟩ := e'
    obtain ⟨rfl, hv⟩ := he
    simp only [Table.valueIn?]
    split
    · exact .some hv
    · exact ih

theorem EntriesRelated.insertEntry (h : EntriesRelated Q l l') (k : κ) {v v' : ν} (hv : Q v v') :
    EntriesRelated Q (insertEntry k v l) (insertEntry k v' l') := by
  induction h with
  | nil => exact .cons ⟨rfl, hv⟩ .nil
  | @cons e e' l l' he hl ih =>
    obtain ⟨j, w⟩ := e
    obtain ⟨j', w'⟩ := e'
    obtain ⟨rfl, hw⟩ := he
    simp only [Table.insertEntry]
    split
    · exact .cons ⟨rfl, hv⟩ (.cons ⟨rfl, hw⟩ hl)
    · exact .cons ⟨rfl, hv⟩ hl
    · exact .cons ⟨rfl, hw⟩ ih

end Table

def SystemMeasurement.Resembles (τ : Tolerance) (m m' : SystemMeasurement) : Prop :=
  m' = { m with measurement := m'.measurement } ∧ m.measurement.Resembles τ m'.measurement

namespace Reader

theorem alike_measure (r : Reader) (h : τ.time now now') (member : Node) :
    Except.Alike (SystemMeasurement.Resembles τ) (r.measure now member)
      (r.measure now' member) := by
  unfold measure
  cases r.locate member with
  | error e => rfl
  | ok place =>
    obtain ⟨family, id, point⟩ := place
    simp only [Except.mapError, Bind.bind, Except.bind]
    rcases (point.alike_measure h member).cases with ⟨e, hm, hm'⟩ | ⟨m, m', hm, hm', hmm⟩
    · rw [hm, hm']
      rfl
    · rw [hm, hm']
      exact ⟨rfl, hmm⟩

/-- The measurements by system, with one more that resembles on both sides. -/
theorem related_addTo {t t' : Table Nat SystemMeasurements}
    (ht : Table.EntriesRelated (SystemMeasurements.Resembles τ) t.entries t'.entries)
    {m m' : SystemMeasurement} (hm : m.Resembles τ m') :
    Table.EntriesRelated (SystemMeasurements.Resembles τ) (addTo t m).entries
      (addTo t' m').entries := by
  obtain ⟨hm, hmeasurement⟩ := hm
  generalize m'.measurement = measurement at hm hmeasurement
  subst hm
  refine ht.insertEntry _ ?_
  unfold Table.find?
  dsimp only
  rcases cases_option_rel (ht.valueIn? (systemRank m.family m.id)) with
    ⟨hs, hs'⟩ | ⟨s, s', hs, hs', hss, hms⟩
  · rw [hs, hs']
    exact ⟨rfl, .cons hmeasurement .nil⟩
  · rw [hs, hs', hss]
    exact ⟨rfl, List.rel_append hms (.cons hmeasurement .nil)⟩

/-- What a report tells by one clock and by another. -/
theorem resembles_systems (r : Reader) (h : ∀ i, τ.time (clock i) (clock' i)) (report : Report) :
    Forall₂ (SystemMeasurements.Resembles τ) (r.systems clock report)
      (r.systems clock' report) := by
  have hms : Forall₂ (SystemMeasurement.Resembles τ)
      ((report.timed clock).filterMap fun e => (r.measure e.2 e.1).toOption)
      ((report.timed clock').filterMap fun e => (r.measure e.2 e.1).toOption) := by
    refine List.rel_filterMap ?_ (report.forall₂_timed h)
    rintro ⟨m, now⟩ ⟨m, now'⟩ ⟨rfl, hnow⟩
    exact (r.alike_measure hnow m).toOption
  have hfold : ∀ {ms ms' : List SystemMeasurement},
      Forall₂ (SystemMeasurement.Resembles τ) ms ms' → ∀ {t t' : Table Nat SystemMeasurements},
      Table.EntriesRelated (SystemMeasurements.Resembles τ) t.entries t'.entries →
      Table.EntriesRelated (SystemMeasurements.Resembles τ) (ms.foldl addTo t).entries
        (ms'.foldl addTo t').entries := by
    intro ms ms' hms
    induction hms with
    | nil => exact fun ht => ht
    | cons hm _ ih => exact fun ht => ih (related_addTo ht hm)
  have hnone : Table.EntriesRelated (SystemMeasurements.Resembles τ)
      (Table.empty : Table Nat SystemMeasurements).entries
      (Table.empty : Table Nat SystemMeasurements).entries := .nil
  unfold systems grouped Table.values
  refine List.forall₂_map_left_iff.2 (List.forall₂_map_right_iff.2 ?_)
  exact (hfold hms hnone).imp fun _ _ he => he.2

end Reader

end FieldGateway
