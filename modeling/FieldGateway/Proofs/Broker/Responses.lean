import FieldGateway.Broker.Message
import FieldGateway.Proofs.Broker.Requests
import FieldGateway.Proofs.Broker.Topics

/-!
# Topics of responses

The topic of a response ends with the device and the identifier of its request, parted by a slash.
A device that a topic names has no slash in its name, but an envelope may name any device and bear
any identifier, so that the two can meet at another slash than they part at.

* `Topic.append_slash_eq_iff`: how two texts can be the same around a slash each.
* `Request.answerTopic_eq_iff`: when two requests are answered under one topic.
* `Admission.same_answer_topic_iff`: when two requests that came in are.
* `Admission.answers_under_one_topic`: two requests of different devices that are.
-/

namespace FieldGateway

namespace Topic

/-- Two texts are the same around a slash each if the slashes are at one place, or if one slash is
inside what the other has on its other side. -/
theorem append_slash_eq_iff {s t s' t' : List Char} :
    s ++ '/' :: t = s' ++ '/' :: t' ↔
      (s = s' ∧ t = t') ∨ (∃ u, s = s' ++ '/' :: u ∧ t' = u ++ '/' :: t) ∨
        ∃ u, s' = s ++ '/' :: u ∧ t = u ++ '/' :: t' := by
  constructor
  · intro h
    rcases List.append_eq_append_iff.1 h with ⟨u, hs', ht⟩ | ⟨u, hs, ht'⟩
    · cases u with
      | nil => exact .inl ⟨by simpa using hs'.symm, (List.cons.inj ht).2⟩
      | cons c u =>
        obtain ⟨hc, ht⟩ := List.cons.inj ht
        exact .inr (.inr ⟨u, hc ▸ hs', ht⟩)
    · cases u with
      | nil => exact .inl ⟨by simpa using hs, (List.cons.inj ht').2.symm⟩
      | cons c u =>
        obtain ⟨hc, ht'⟩ := List.cons.inj ht'
        exact .inr (.inl ⟨u, hc ▸ hs, ht'⟩)
  · rintro (⟨rfl, rfl⟩ | ⟨u, rfl, rfl⟩ | ⟨u, rfl, rfl⟩) <;> simp

/-- The device that a topic names has no slash in its name. -/
theorem slash_notMem_of_deviceOf? {root topic d : String} (h : deviceOf? root topic = some d) :
    '/' ∉ d.toList := by
  obtain ⟨rest, -, h⟩ := Option.bind_eq_some_iff.1 h
  obtain ⟨level, -, h⟩ := Option.bind_eq_some_iff.1 h
  obtain ⟨device, hdevice, h⟩ := Option.bind_eq_some_iff.1 h
  obtain rfl : String.ofList device = d := Option.some.inj h
  rw [String.toList_ofList]
  cases level with
  | nil => cases hdevice
  | cons c level =>
    rw [deviceLevel?_cons, Option.ite_none_right_eq_some] at hdevice
    exact Option.some.inj hdevice.2 ▸ hdevice.1.2.2

end Topic

namespace Request

/-- The topic under which a request is answered. -/
def answerTopic (root : String) (r : Request) : String :=
  Topic.response root r.deviceId r.correlationId

/-- Whatever is published in answer to a request is published there. -/
theorem topic_of_response {b : BrokerLink} {now : Int64} {r : Request} {outcome : Outcome}
    {m : Message} (h : Message.ofResponse? b now (r.respond outcome) = some m) :
    m.topic = r.answerTopic b.root := by
  obtain ⟨-, h⟩ := Option.ite_none_right_eq_some.1 h
  exact Option.some.inj h ▸ rfl

/-- The device of a request takes in, behind a slash, the front of the other's identifier. -/
def ReachesInto (r r' : Request) : Prop :=
  ∃ levels, r.deviceId = r'.deviceId ++ "/" ++ levels ∧
    r'.correlationId = levels ++ "/" ++ r.correlationId

theorem ReachesInto.slash_mem {r r' : Request} (h : r.ReachesInto r') :
    '/' ∈ r.deviceId.toList := by
  obtain ⟨levels, h, -⟩ := h
  simp [h, String.toList_append]

theorem reachesInto_iff {r r' : Request} : r.ReachesInto r' ↔
    ∃ u, r.deviceId.toList = r'.deviceId.toList ++ '/' :: u ∧
      r'.correlationId.toList = u ++ '/' :: r.correlationId.toList := by
  constructor
  · rintro ⟨levels, hdevice, hcorrelation⟩
    exact ⟨levels.toList, by simp [hdevice, String.toList_append],
      by simp [hcorrelation, String.toList_append]⟩
  · rintro ⟨u, hdevice, hcorrelation⟩
    refine ⟨String.ofList u, String.toList_injective ?_, String.toList_injective ?_⟩
    · simpa [String.toList_append] using hdevice
    · simpa [String.toList_append] using hcorrelation

/-- Two requests are answered under one topic if they have one device and one identifier, or if the
device of one takes in the front of the other's identifier. -/
theorem answerTopic_eq_iff (root : String) (r r' : Request) :
    r.answerTopic root = r'.answerTopic root ↔
      (r.deviceId = r'.deviceId ∧ r.correlationId = r'.correlationId) ∨
        r.ReachesInto r' ∨ r'.ReachesInto r := by
  have htopic : r.answerTopic root = r'.answerTopic root ↔
      r.deviceId.toList ++ '/' :: r.correlationId.toList =
        r'.deviceId.toList ++ '/' :: r'.correlationId.toList := by
    rw [← String.toList_inj]
    simp [answerTopic, Topic.response, Topic.under, String.toList_append]
  rw [htopic, Topic.append_slash_eq_iff, reachesInto_iff, reachesInto_iff, String.toList_inj,
    String.toList_inj]

end Request

namespace Admission

variable {root : String} {x y : Arrival} {r r' : Request}

theorem slash_notMem_device (h : request root x.topic x.payload x.fresh = .ok r)
    (hnamed : Topic.deviceOf? root x.topic ≠ none) : '/' ∉ r.deviceId.toList := by
  obtain ⟨e, -, hdevice, -⟩ := request_eq_ok.1 h
  obtain ⟨t, ht⟩ := Option.ne_none_iff_exists'.1 hnamed
  exact (Envelope.device_eq_ok.1 hdevice).2.1 t ht ▸ Topic.slash_notMem_of_deviceOf? ht

/-- Two requests that came in are answered under one topic if they have one device and one
identifier, or if the device of one takes in the front of the other's identifier; then the topic
that it came on names no device. So requests whose topics name their devices are answered under one
topic only if device and identifier are the same. A request is answered under its topic whatever the
outcome and the time. -/
theorem same_answer_topic_iff (hx : request root x.topic x.payload x.fresh = .ok r)
    (hy : request root y.topic y.payload y.fresh = .ok r') :
    (r.answerTopic root = r'.answerTopic root ↔
      (r.deviceId = r'.deviceId ∧ r.correlationId = r'.correlationId) ∨
        (Topic.deviceOf? root x.topic = none ∧ r.ReachesInto r') ∨
        (Topic.deviceOf? root y.topic = none ∧ r'.ReachesInto r)) ∧
      (Topic.deviceOf? root x.topic ≠ none → Topic.deviceOf? root y.topic ≠ none →
        r.answerTopic root = r'.answerTopic root →
          r.deviceId = r'.deviceId ∧ r.correlationId = r'.correlationId) ∧
      ∀ (b : BrokerLink) now outcome m, b.root = root →
        Message.ofResponse? b now (r.respond outcome) = some m → m.topic = r.answerTopic root := by
  have hunnamed : ∀ {z : Arrival} {s s' : Request},
      request root z.topic z.payload z.fresh = .ok s → s.ReachesInto s' →
        Topic.deviceOf? root z.topic = none := fun hz hs =>
    Classical.byContradiction fun hnamed => slash_notMem_device hz hnamed hs.slash_mem
  have htopic : r.answerTopic root = r'.answerTopic root ↔
      (r.deviceId = r'.deviceId ∧ r.correlationId = r'.correlationId) ∨
        (Topic.deviceOf? root x.topic = none ∧ r.ReachesInto r') ∨
        (Topic.deviceOf? root y.topic = none ∧ r'.ReachesInto r) := by
    rw [Request.answerTopic_eq_iff, and_iff_right_of_imp (hunnamed hx),
      and_iff_right_of_imp (hunnamed hy)]
  refine ⟨htopic, fun hnamed hnamed' heq => ?_, fun b now outcome m hroot hm =>
    hroot ▸ Request.topic_of_response hm⟩
  rcases htopic.1 heq with hsame | ⟨hnone, -⟩ | ⟨hnone, -⟩
  · exact hsame
  · exact absurd hnone hnamed
  · exact absurd hnone hnamed'

/-- An envelope that names a device with a slash, on a topic that names none. -/
def slashedDevice : Arrival where
  topic := "grid/requests"
  payload := ("\x7b\"correlationUid\":\"c\",\"deviceId\":\"a/b\"," ++
    "\"operation\":\x7b\"type\":\"GET_STATUS\"\x7d\x7d").toUTF8.toList
  fresh := "f1"

/-- An envelope whose identifier has a slash, on the topic of its device. -/
def slashedIdentifier : Arrival where
  topic := "grid/requests/a"
  payload := ("\x7b\"correlationUid\":\"b/c\"," ++
    "\"operation\":\x7b\"type\":\"GET_STATUS\"\x7d\x7d").toUTF8.toList
  fresh := "f2"

theorem request_slashedDevice : request "grid" slashedDevice.topic slashedDevice.payload
    slashedDevice.fresh = .ok ⟨"c", "", "a/b", .getStatus⟩ := by decide +kernel

theorem request_slashedIdentifier : request "grid" slashedIdentifier.topic
    slashedIdentifier.payload slashedIdentifier.fresh = .ok ⟨"b/c", "", "a", .getStatus⟩ := by
  decide +kernel

/-- The two came in, and what was shown of them holds. -/
theorem same_answer_topic_slashed :
    request "grid" slashedDevice.topic slashedDevice.payload slashedDevice.fresh =
        .ok ⟨"c", "", "a/b", .getStatus⟩ ∧
      request "grid" slashedIdentifier.topic slashedIdentifier.payload slashedIdentifier.fresh =
        .ok ⟨"b/c", "", "a", .getStatus⟩ ∧
      (Request.mk "c" "" "a/b" .getStatus).answerTopic "grid" =
        (Request.mk "b/c" "" "a" .getStatus).answerTopic "grid" :=
  ⟨request_slashedDevice, request_slashedIdentifier,
    (same_answer_topic_iff request_slashedDevice request_slashedIdentifier).1.2
      (.inr (.inl ⟨by decide +kernel, "b", rfl, rfl⟩))⟩

/-- Two requests of different devices can be answered under one topic. -/
theorem answers_under_one_topic : ¬ ∀ (root : String) (x y : Arrival) (r r' : Request),
    request root x.topic x.payload x.fresh = .ok r →
      request root y.topic y.payload y.fresh = .ok r' →
        r.answerTopic root = r'.answerTopic root →
          r.deviceId = r'.deviceId ∧ r.correlationId = r'.correlationId := by
  intro h
  have hsame := h "grid" _ _ _ _ request_slashedDevice request_slashedIdentifier (by decide +kernel)
  exact absurd hsame.1 (by decide)

end Admission

end FieldGateway
