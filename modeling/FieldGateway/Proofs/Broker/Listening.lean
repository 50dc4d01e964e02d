import FieldGateway.Proofs.Broker.Requests
import FieldGateway.Proofs.Gateway.Windows

/-!
# Listening for requests

The gateway takes messages as they come in, at any time and in any number. The request in a message
goes on as a course of its own beside all that goes on already; a message without a request is
passed over, and the next one is waited for.

* `Admission.job?`, `Gateway.receive`: what becomes of a message.
* `Listens`: the crews that messages can lead to, in any interleaving.
* `Listens.requests_eq`: which requests were handed on.
* `Serves.runs`: what each course did is a run of its job.
* `Listens.filter_iff`: messages without a request leave no trace.
* `Listens.admission`: all of this for every sequence of messages.
-/

namespace FieldGateway

/-- The request that a job carries out. -/
def Job.request? : Job → Option Request
  | .request _ r => some r
  | .disconnect _ _ _ => none

namespace Admission

/-- What there is to do for a message: nothing if it holds no request. -/
def job? (root : String) (x : Arrival) : Option Job :=
  (request root x.topic x.payload x.fresh).toOption.map (.request 0)

theorem job?_eq_some {root : String} {x : Arrival} {job : Job} : job? root x = some job ↔
    ∃ r, request root x.topic x.payload x.fresh = .ok r ∧ job = .request 0 r := by
  unfold job?
  cases request root x.topic x.payload x.fresh <;> simp [Except.toOption, eq_comm]

theorem requests_eq (root : String) (xs : List Arrival) :
    requests root xs = (xs.filterMap (job? root)).filterMap Job.request? := by
  rw [List.filterMap_filterMap, requests]
  congr 1
  funext x
  cases h : request root x.topic x.payload x.fresh <;> simp [job?, h, Except.toOption, Job.request?]

end Admission

open Admission (job? request)

/-- The crew after a message was taken. -/
def Gateway.receive (g : Gateway) (root : String) (x : Admission.Arrival)
    (w : Crew (Option Response)) : Crew (Option Response) :=
  match job? root x with
  | some job => w.join (g.jobWork job)
  | none => w

/-- The crews that messages can lead to, with the messages and the jobs of the courses: a message
may come in at any time, what was started is taken up at some time, once and in its turn, and all
goes on in any order. The number counts what was taken up. -/
inductive Listens (g : Gateway) (root : String) (p : Plant) :
    List Admission.Arrival → Nat → List Job → Crew (Option Response) → Prop
  | start : Listens g root p [] 0 [] ⟨p, [], []⟩
  | arrive {xs : List Admission.Arrival} {n : Nat} {jobs : List Job} {w : Crew (Option Response)}
      (h : Listens g root p xs n jobs w) (x : Admission.Arrival) :
      Listens g root p (xs ++ [x]) n (jobs ++ (job? root x).toList) (g.receive root x w)
  | takeUp {xs : List Admission.Arrival} {n : Nat} {jobs : List Job} {w : Crew (Option Response)}
      {job : Job} (h : Listens g root p xs n jobs w)
      (hj : w.plant.jobs[p.jobs.length + n]? = some job) :
      Listens g root p xs (n + 1) (jobs ++ [job]) (w.join (g.jobWork job))
  | step {xs : List Admission.Arrival} {n : Nat} {jobs : List Job} {w w' : Crew (Option Response)}
      (h : Listens g root p xs n jobs w) (hs : w.Step w') : Listens g root p xs n jobs w'

/-! ## Courses and jobs -/

/-- There is a course for each job, and what it did and what is left of it are a run of the job. -/
structure Gateway.Carries (g : Gateway) (jobs : List Job) (w : Crew (Option Response)) : Prop where
  length : w.courses.length = jobs.length
  runs : ∀ i job k, jobs[i]? = some job → w.courses[i]? = some k →
    ∀ log o, k.Runs i log o → (g.jobWork job).Runs i (entriesOf i w.log ++ log) o

namespace Serves

variable {g : Gateway} {p : Plant} {n : Nat} {jobs : List Job} {w : Crew (Option Response)}

/-- A course that just began has done nothing. -/
theorem entriesOf_length (h : Serves g p n jobs w) : entriesOf jobs.length w.log = [] := by
  refine List.filter_eq_nil_iff.2 fun e he hi => ?_
  obtain ⟨q, d | m, q'⟩ := e
  · have hlt := h.courses_lt _ he _ _ _ rfl
    rw [h.isServing.length] at hlt
    simp only [Entry.course?, beq_iff_eq, Option.some.injEq] at hi
    omega
  · cases hi

theorem carries_join (h : Serves g p n jobs w) (hw : g.Carries jobs w) (job : Job) :
    g.Carries (jobs ++ [job]) (w.join (g.jobWork job)) := by
  refine ⟨by simp [Crew.join, hw.length], fun i job' k hi hk => ?_⟩
  rcases Nat.lt_or_ge i jobs.length with hlt | hge
  · rw [List.getElem?_append_left hlt] at hi
    rw [Crew.join, List.getElem?_append_left (hw.length ▸ hlt)] at hk
    exact hw.runs i job' k hi hk
  · obtain rfl : i = jobs.length := by
      have := (List.getElem?_eq_some_iff.1 hi).1
      simp only [List.length_append, List.length_singleton] at this
      omega
    rw [Crew.join, ← hw.length, List.getElem?_concat_length, Option.some.injEq] at hk
    rw [List.getElem?_concat_length, Option.some.injEq] at hi
    subst hi hk
    intro log o hlog
    change (g.jobWork job).Runs _ (entriesOf jobs.length w.log ++ log) o
    rw [h.entriesOf_length]
    exact hlog

theorem carries (h : Serves g p n jobs w) : g.Carries jobs w := by
  induction h with
  | start => exact ⟨rfl, fun i job k hi => by cases hi⟩
  | arrive h r ih => exact h.carries_join ih _
  | takeUp h _ ih => exact h.carries_join ih _
  | step _ hs ih =>
    refine ⟨hs.length_courses.trans ih.length, fun i job k hi hk log o hlog => ?_⟩
    obtain ⟨k', part, hk', hpart, hruns⟩ := hs.runs hk
    rw [hpart, List.append_assoc]
    exact ih.runs i job k' hi hk' _ _ (hruns _ _ hlog)

/-- What was started on the way ends a session. -/
theorem request?_eq_none (h : Serves g p n jobs w) {job : Job}
    (hj : w.plant.jobs[p.jobs.length + n]? = some job) : job.request? = none := by
  have hmem : job ∈ w.plant.jobs.drop p.jobs.length := by
    refine List.mem_of_getElem? (i := n) ?_
    rwa [List.getElem?_drop]
  have hcloses := h.isServing.started job hmem
  cases job with
  | disconnect s delay clear => rfl
  | request delay r => exact hcloses.elim

/-- Only a request sends a response. -/
theorem sent_by_request (h : Serves g p n jobs w) {e : Entry} (he : e ∈ w.log) {i : Nat}
    {o : Response} {refused : Option String} (hsent : e.event = .did i (.sendResponse o) refused) :
    ∃ r, jobs[i]? = some (.request 0 r) := by
  have hi := h.courses_lt e he i _ _ hsent
  have hcourse := List.getElem?_eq_getElem hi
  have hlt : i < jobs.length := h.isServing.length ▸ hi
  have hjob := List.getElem?_eq_getElem hlt
  generalize jobs[i] = job at hjob
  cases h.isServing.charged i job _ hjob hcourse with
  | @request r => exact ⟨r, hjob⟩
  | @task s delay clear =>
    -- What ends a session sends no response, so that this course cannot have sent one.
    obtain ⟨log, a, hlog⟩ := Work.exists_runs i w.courses[i]
    have hsilent : (g.jobWork (.disconnect s delay clear)).Within fun a => a.response? = none :=
      Course.Within.bind (Session.within_disconnectLater_of delay
        (fun a ha => by cases a <;> first | rfl | exact ha.elim) rfl fun _ _ => rfl)
        fun _ => Course.within_pure _
    have hkept := (h.carries.runs i _ _ hjob hcourse log a hlog).kept hsilent e
      (List.mem_append_left _ (mem_entriesOf.2 ⟨he, by rw [Entry.course?, hsent]⟩))
    rw [Entry.Kept, hsent] at hkept
    cases hkept

/-- A request can be brought to its end, which is its response. -/
theorem exists_answer (h : Serves g p n jobs w) {i : Nat} {r : Request}
    (hi : jobs[i]? = some (.request 0 r)) :
    ∃ ms outcome, (w.play ms).courses[i]? = some (.done (some (r.respond outcome))) := by
  have hlt : i < w.courses.length := h.isServing.length ▸ (List.getElem?_eq_some_iff.1 hi).1
  obtain ⟨ms, a, hms⟩ := w.exists_play_done (List.getElem?_eq_getElem hlt)
  have hdone : (w.play ms).courses[i]? = some (.done a) := by
    rw [hms, List.getElem?_set_self hlt]
  have hruns := (h.play ms).carries.runs i _ _ hi hdone [] a (.done a)
  obtain ⟨-, -, l₂, -, h₂, -⟩ := Work.runs_bind.1 hruns
  obtain ⟨l₃, o, l₄, h₃, h₄, -⟩ := Work.runs_bind.1 h₂
  obtain ⟨-, rfl⟩ := Work.runs_pure.1 h₄
  obtain ⟨-, x, -, -, -, -, -, rfl, -⟩ := Gateway.runs_handle h₃
  exact ⟨ms, _, hdone⟩

end Serves

/-! ## Messages and requests -/

namespace Listens

variable {g : Gateway} {root : String} {p : Plant} {xs ys : List Admission.Arrival} {n : Nat}
  {jobs : List Job} {w : Crew (Option Response)}

theorem serves (h : Listens g root p xs n jobs w) : Serves g p n jobs w := by
  induction h with
  | start => exact .start
  | arrive _ x ih =>
    unfold Gateway.receive
    cases hx : job? root x with
    | none => simpa using ih
    | some job =>
      obtain ⟨r, -, rfl⟩ := Admission.job?_eq_some.1 hx
      exact ih.arrive r
  | takeUp _ hj ih => exact ih.takeUp hj
  | step _ hs ih => exact ih.step hs

/-- The requests that were handed on are those in the messages, each once and in their order. -/
theorem requests_eq (h : Listens g root p xs n jobs w) :
    jobs.filterMap Job.request? = Admission.requests root xs := by
  induction h with
  | start => rfl
  | @arrive xs _ _ _ _ x ih =>
    rw [Admission.requests_eq] at ih ⊢
    rw [List.filterMap_append, List.filterMap_append, List.filterMap_append, ih]
    cases hx : job? root x <;> simp [hx]
  | takeUp h hj ih => simp [ih, h.serves.request?_eq_none hj]
  | step _ _ ih => exact ih

/-- A message without a request changes nothing. -/
theorem pass (h : Listens g root p xs n jobs w) {x : Admission.Arrival} (hx : job? root x = none) :
    Listens g root p (xs ++ [x]) n jobs w := by
  simpa [hx, Gateway.receive] using h.arrive x

theorem pass_all (h : Listens g root p xs n jobs w) (hys : ∀ y ∈ ys, job? root y = none) :
    Listens g root p (xs ++ ys) n jobs w := by
  induction ys generalizing xs with
  | nil => simpa using h
  | cons y ys ih =>
    rw [List.forall_mem_cons] at hys
    rw [List.append_cons]
    exact ih (h.pass hys.1) hys.2

/-- All goes as it would have gone without the messages that hold no request. -/
theorem filter_iff : Listens g root p xs n jobs w ↔
    Listens g root p (xs.filter fun x => (job? root x).isSome) n jobs w := by
  constructor
  · intro h
    induction h with
    | start => exact .start
    | @arrive xs _ _ _ _ x ih =>
      rw [List.filter_append]
      cases hx : job? root x with
      | none => simpa [hx, Gateway.receive] using ih
      | some job => simpa [hx] using ih.arrive x
    | takeUp _ hj ih => exact ih.takeUp hj
    | step _ hs ih => exact ih.step hs
  · intro h
    generalize hys : xs.filter (fun x => (job? root x).isSome) = ys at h
    induction h generalizing xs with
    | start =>
      have hnone : ∀ x ∈ xs, job? root x = none := by simpa using hys
      simpa using Listens.start.pass_all hnone
    | @arrive ys _ _ _ _ y ih =>
      obtain ⟨before, rest, rfl, hbefore, hrest⟩ := List.filter_eq_append_iff.1 hys
      obtain ⟨early, late, rfl, hearly, -, hlate⟩ := List.filter_eq_cons_iff.1 hrest
      have hnone : ∀ z ∈ early, job? root z = none := by simpa using hearly
      have hnone' : ∀ z ∈ late, job? root z = none := by simpa using hlate
      simpa using (((ih hbefore).pass_all hnone).arrive y).pass_all hnone'
    | takeUp _ hj ih => exact (ih hys).takeUp hj
    | step _ hs ih => exact (ih hys).step hs

/-- Whatever messages come in, and however all goes on in between: the requests in the messages are
handed on in their order, each once, and each goes on as a course of its own, which can always be
brought to its end. There is a request in a message exactly if its payload is an envelope and topic
and envelope name a device without contradiction; the request is put together from both. A message
without a request leaves no trace, and nothing but a request is responded to. -/
theorem admission (h : Listens g root p xs n jobs w) :
    jobs.filterMap Job.request? = Admission.requests root xs ∧
      (∀ x : Admission.Arrival, (∃ r, request root x.topic x.payload x.fresh = .ok r) ↔
        ∃ e, Admission.envelope? x.payload = some e ∧
          (Topic.deviceOf? root x.topic ≠ none ∨ e.deviceId ≠ none) ∧
          ∀ t d, Topic.deviceOf? root x.topic = some t → e.deviceId = some d → t = d) ∧
      (∀ (x : Admission.Arrival) (r : Request),
        request root x.topic x.payload x.fresh = .ok r →
          ∃ e, Admission.envelope? x.payload = some e ∧
            r.IsOf (Topic.deviceOf? root x.topic) e x.fresh) ∧
      g.Carries jobs w ∧
      (∀ (i : Nat) (r : Request), jobs[i]? = some (.request 0 r) →
        ∃ ms outcome, (w.play ms).courses[i]? = some (.done (some (r.respond outcome)))) ∧
      (∀ e ∈ w.log, ∀ (i : Nat) o refused, e.event = .did i (.sendResponse o) refused →
        ∃ r ∈ Admission.requests root xs, jobs[i]? = some (.request 0 r)) ∧
      ∀ n' jobs' w', Listens g root p xs n' jobs' w' ↔
        Listens g root p (xs.filter fun x => (job? root x).isSome) n' jobs' w' := by
  refine ⟨h.requests_eq, fun x => Admission.exists_request_iff, fun x r hr => ?_, h.serves.carries,
    fun i r hi => h.serves.exists_answer hi, fun e he i o refused hsent => ?_,
    fun n' jobs' w' => filter_iff⟩
  · exact Admission.isOf_of_request hr
  · obtain ⟨r, hi⟩ := h.serves.sent_by_request he hsent
    refine ⟨r, ?_, hi⟩
    rw [← h.requests_eq]
    exact List.mem_filterMap.2 ⟨_, List.mem_of_getElem? hi, rfl⟩

/-- An envelope for another device than the topic names. -/
def mismatched : Admission.Arrival where
  topic := "grid/requests/a"
  payload := ("\x7b\"deviceId\":\"b\"," ++
    "\"operation\":\x7b\"type\":\"GET_STATUS\"\x7d\x7d").toUTF8.toList
  fresh := "f1"

/-- An envelope that breaks off. -/
def brokenOff : Admission.Arrival where
  topic := "grid/requests/a"
  payload := "\x7b\"deviceId\":\"a\"".toUTF8.toList
  fresh := "f2"

/-- An envelope whose identifier is blank, on the topic of a device. -/
def unidentified : Admission.Arrival where
  topic := "grid/requests/a"
  payload := ("\x7b\"correlation_uid\":\" \"," ++
    "\"operation\":\x7b\"type\":\"GET_STATUS\"\x7d\x7d").toUTF8.toList
  fresh := "f3"

theorem of_mixed : Listens .standard "grid" .controller [mismatched, brokenOff, unidentified] 0
    [.request 0 ⟨"f3", "", "a", .getStatus⟩]
    (Crew.join ⟨.controller, [], []⟩
      (Gateway.standard.jobWork (.request 0 ⟨"f3", "", "a", .getStatus⟩))) := by
  have hfirst : job? "grid" mismatched = none := by decide +kernel
  have hsecond : job? "grid" brokenOff = none := by decide +kernel
  have hlast : job? "grid" unidentified = some (.request 0 ⟨"f3", "", "a", .getStatus⟩) := by
    decide +kernel
  have h := ((Listens.start (g := .standard) (p := .controller)).pass hfirst).pass hsecond
  simpa [hlast, Gateway.receive] using h.arrive unidentified

/-- Of three messages only the last one holds a request. -/
theorem admission_mixed :
    Listens .standard "grid" .controller [mismatched, brokenOff, unidentified] 0
        [.request 0 ⟨"f3", "", "a", .getStatus⟩]
        (Crew.join ⟨.controller, [], []⟩
          (Gateway.standard.jobWork (.request 0 ⟨"f3", "", "a", .getStatus⟩))) ∧
      Admission.requests "grid" [mismatched, brokenOff, unidentified] =
        [⟨"f3", "", "a", .getStatus⟩] :=
  ⟨of_mixed, of_mixed.admission.1.symm⟩

end Listens

end FieldGateway
