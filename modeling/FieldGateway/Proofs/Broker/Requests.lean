import FieldGateway.Broker.Admission

/-!
# Requests in messages

What it takes for a message to hold a request, and how the request is put together from the topic
and the payload.

* `Envelope.device_eq_ok`, `Envelope.exists_device_iff`: the device that a topic and an envelope
  name, and when they name one.
* `Request.IsOf`: how a request is put together.
* `Admission.request_eq_ok`, `Admission.exists_request_iff`: the request in a message, and when
  there is one.
-/

namespace FieldGateway

namespace Envelope

variable {topic payload : Option String} {d : String}

theorem device_eq_ok : device topic payload = .ok d ↔
    (topic ≠ none ∨ payload ≠ none) ∧ (∀ t, topic = some t → t = d) ∧
      ∀ p, payload = some p → p = d := by
  unfold device
  cases topic with
  | none => cases payload <;> simp
  | some t =>
    cases payload with
    | none => simp
    | some p =>
      by_cases h : t = p
      · simp [h]
      · have hd : t = d → p ≠ d := fun ht hp => h (ht.trans hp.symm)
        simpa [h] using hd

theorem exists_device_iff : (∃ d, device topic payload = .ok d) ↔
    (topic ≠ none ∨ payload ≠ none) ∧
      ∀ t p, topic = some t → payload = some p → t = p := by
  constructor
  · rintro ⟨d, h⟩
    obtain ⟨hnamed, ht, hp⟩ := device_eq_ok.1 h
    exact ⟨hnamed, fun t p htopic hpayload => (ht t htopic).trans (hp p hpayload).symm⟩
  · rintro ⟨hnamed, hsame⟩
    cases topic with
    | some t => exact ⟨t, device_eq_ok.2 ⟨hnamed, fun _ h => (Option.some.inj h).symm,
        fun p h => (hsame t p rfl h).symm⟩⟩
    | none =>
      obtain ⟨p, rfl⟩ := Option.ne_none_iff_exists'.1 (hnamed.resolve_left fun h => h rfl)
      exact ⟨p, rfl⟩

/-- An identifier is kept if it shows anything, and a fresh one stands in for it else. -/
theorem identifier_spec (given : Option String) (fresh : String) :
    (∀ s, given = some s → Text.isAllBlank s = false → identifier given fresh = s) ∧
      ((∀ s, given = some s → Text.isAllBlank s = true) → identifier given fresh = fresh) := by
  cases given with
  | none => simp [identifier]
  | some s => simp +contextual [identifier]

end Envelope

/-- How a request is put together from the device that a topic names and an envelope. -/
structure Request.IsOf (r : Request) (topic : Option String) (e : Envelope) (fresh : String) :
    Prop where
  byTopic : ∀ t, topic = some t → r.deviceId = t
  byEnvelope : ∀ d, e.deviceId = some d → r.deviceId = d
  given : ∀ s, e.correlationId = some s → Text.isAllBlank s = false → r.correlationId = s
  /-- A fresh identifier stands in for one that is missing or blank. -/
  generated : (∀ s, e.correlationId = some s → Text.isAllBlank s = true) → r.correlationId = fresh
  organisation : r.organisationId = e.organisationId.getD ""
  operation : r.operation = e.operation

namespace Admission

variable {root topic fresh : String} {payload : List UInt8} {r : Request}

/-- The request in a message: what the envelope holds, with what the topic and the fresh identifier
supply. -/
theorem request_eq_ok : request root topic payload fresh = .ok r ↔
    ∃ e, envelope? payload = some e ∧
      Envelope.device (Topic.deviceOf? root topic) e.deviceId = .ok r.deviceId ∧
      r.correlationId = Envelope.identifier e.correlationId fresh ∧
      r.organisationId = e.organisationId.getD "" ∧ r.operation = e.operation := by
  unfold request Envelope.toRequest
  cases envelope? payload with
  | none => simp
  | some e =>
    dsimp only
    cases hd : Envelope.device (Topic.deviceOf? root topic) e.deviceId with
    | error reason =>
      refine ⟨fun h => ?_, ?_⟩
      · cases show Except.error (Refusal.rejected reason) = .ok r from h
      · rintro ⟨_, ⟨⟩, hdevice, -⟩
        cases hd.symm.trans hdevice
    | ok d =>
      change Except.ok _ = Except.ok r ↔ _
      simp only [Except.ok.injEq, Option.some.injEq, exists_eq_left', hd]
      constructor
      · rintro rfl
        exact ⟨rfl, rfl, rfl, rfl⟩
      · rintro ⟨rfl, hcorrelation, horganisation, hoperation⟩
        rw [← hcorrelation, ← horganisation, ← hoperation]

/-- The request in a message is put together from its topic and its envelope. -/
theorem isOf_of_request (h : request root topic payload fresh = .ok r) :
    ∃ e, envelope? payload = some e ∧ r.IsOf (Topic.deviceOf? root topic) e fresh := by
  obtain ⟨e, hread, hdevice, hcorrelation, horganisation, hoperation⟩ := request_eq_ok.1 h
  obtain ⟨-, htopic, henvelope⟩ := Envelope.device_eq_ok.1 hdevice
  obtain ⟨hgiven, hgenerated⟩ := Envelope.identifier_spec e.correlationId fresh
  exact ⟨e, hread, fun t ht => (htopic t ht).symm, fun d hd => (henvelope d hd).symm,
    fun s hs hblank => hcorrelation.trans (hgiven s hs hblank),
    fun hblank => hcorrelation.trans (hgenerated hblank), horganisation, hoperation⟩

/-- A message holds a request if it can be read and a device is named without contradiction. -/
theorem exists_request_iff : (∃ r, request root topic payload fresh = .ok r) ↔
    ∃ e, envelope? payload = some e ∧
      (Topic.deviceOf? root topic ≠ none ∨ e.deviceId ≠ none) ∧
      ∀ t p, Topic.deviceOf? root topic = some t → e.deviceId = some p → t = p := by
  constructor
  · rintro ⟨r, h⟩
    obtain ⟨e, hread, hdevice, -⟩ := request_eq_ok.1 h
    exact ⟨e, hread, Envelope.exists_device_iff.1 ⟨_, hdevice⟩⟩
  · rintro ⟨e, hread, hnamed⟩
    obtain ⟨d, hdevice⟩ := Envelope.exists_device_iff.2 hnamed
    exact ⟨⟨_, _, d, _⟩, request_eq_ok.2 ⟨e, hread, hdevice, rfl, rfl, rfl⟩⟩

end Admission

end FieldGateway
