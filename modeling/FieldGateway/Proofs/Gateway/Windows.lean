import FieldGateway.Proofs.Gateway.Handling
import FieldGateway.Proofs.Gateway.Parts
import FieldGateway.Proofs.Plant.Switches

/-!
# Windows of reporting

While the events of a controller are collected, the report of its events is on: a request switches
it on, and leaves it to a job that switches it off when it ends the session. Any number of requests
may be served at a time, and none knows of the others, so that a job may switch off what another
request still relies on.

* `switching`: what a request does with reports, as a protocol.
* `Serves`: the crews that any number of requests can lead to.
* `Crew.IsServing.step`: whoever switches off a report is a job, and a request had switched it on.
* `Serves.on_in_window`: what becomes of a report that a request has switched on.
-/

namespace FieldGateway

/-! ## What a request does with reports -/

/-- Holds of what neither switches a report nor lets work go on by itself. -/
def Action.SparesReports : Action → Prop
  | .enable _ _ | .disable _ _ | .start _ => False
  | _ => True

/-- What a request may do with reports, by which it has switched on over which link: it switches
them on over one link, and may leave to a job to switch off one of them. -/
inductive Switching : List (Nat × String) → (a : Action) → a.Answer → List (Nat × String) → Prop
  | spared {on : List (Nat × String)} {a : Action} {answer : a.Answer} (ha : a.SparesReports) :
      Switching on a answer on
  | refused {on : List (Nat × String)} {link : Nat} {r : String} {f : Fault} :
      Switching on (.enable link r) (.error f) on
  | on {on : List (Nat × String)} {link : Nat} {r : String} {b : ControlBlock}
      (hlink : ∀ x ∈ on, x.1 = link) : Switching on (.enable link r) (.ok b) ((link, r) :: on)
  | left {on : List (Nat × String)} {s : Session} {delay job : Nat} {clear : Option String}
      (hclear : ∀ r, clear = some r → (s.link, r) ∈ on) :
      Switching on (.start (.disconnect s delay clear)) job on

/-- What a request does with reports. -/
def switching : Protocol Action Action.Answer (List (Nat × String)) where
  step := Switching
  admits _ _ _ := True

open Protocol (Ends)

theorem switching_tally (on : List (Nat × String)) (c : Counter) (_ : c ∈ Policy.tally) :
    switching.step on (.count c 1) () on := .spared trivial

section
variable {on : List (Nat × String)} {α : Type} {s : Session}

theorem switching_of_quiet {w : Attempt α} (hw : Course.Within Action.isQuiet w.run) :
    switching.Conforms on w.run (Ends (fun y _ => y = on) fun y => y = on) :=
  .ends_of_within hw fun a _ ha => .spared (by cases a <;> trivial)

/-- All reports that were switched on were over the link. -/
def Over (link : Nat) (on : List (Nat × String)) : Prop := ∀ x ∈ on, x.1 = link

namespace Session

theorem switching_enable (reference : String) (h : Over s.link on) :
    switching.Conforms on (s.enable reference).run
      (Ends (fun y _ => y = (s.link, reference) :: on) fun y => y = on) := by
  refine (switching_of_quiet s.within_ensureOpen).andThen (fun y _ hy => ?_) fun y hy => hy
  subst hy
  split
  · rfl
  · refine .bind (.query fun answer _ => ?_)
    cases answer with
    | ok b => exact ⟨_, .on h, rfl⟩
    | error f => exact ⟨_, .refused, rfl⟩

theorem switching_disconnect : switching.Conforms on s.disconnect fun y _ => y = on :=
  .of_within within_leaving_disconnect fun a _ ha =>
    .spared (by cases a <;> trivial)

theorem switching_enableWanted (d : Device) (h : Over s.link on) :
    switching.Conforms on (s.enableWanted d) fun _ _ => True := by
  suffices hall : ∀ (l : List String) (e : Enabling) (on : List (Nat × String)), Over s.link on →
      switching.Conforms on (l.foldlM s.enableInto e) fun _ _ => True from hall _ _ _ h
  intro l
  induction l with
  | nil => exact fun _ _ _ => trivial
  | cons reference l ih =>
    intro e on h
    have hone : switching.Conforms on (s.enableInto e reference) fun y _ => Over s.link y := by
      refine .bind ((switching_enable reference h).mono fun y r hy => ?_)
      cases r with
      | ok b =>
        subst hy
        exact List.forall_mem_cons.2 ⟨rfl, h⟩
      | error e =>
        subst hy
        exact h
    rw [List.foldlM_cons]
    exact .bind (hone.mono fun y e hy => ih e y hy)

end Session

namespace Gateway

variable (g : Gateway)

theorem switching_collectEvents (h : Over s.link on) :
    switching.Conforms on (g.collectEvents s).run
      (Ends (fun y _ => Over s.link y) fun y => Over s.link y) := by
  refine (switching_of_quiet (Attempt.within_ofMisfit _)).andThen (fun y reference hy => ?_)
    fun y hy => hy ▸ h
  subst hy
  refine .liftThen (.query fun _ _ => ⟨_, .spared trivial, ?_⟩)
  refine (Protocol.Conforms.retried switching_tally (s.switching_enable reference h)).andThen
    (fun y b hy => ?_) fun y hy => hy ▸ h
  subst hy
  refine .liftThen (.query fun _ _ => ⟨_, .spared trivial, ?_⟩)
  refine .liftThen (.query fun _ _ => ⟨_, .left fun r hr => ?_, List.forall_mem_cons.2 ⟨rfl, h⟩⟩)
  cases hr
  exact List.mem_cons_self

theorem switching_getStatus (d : Device) (h : Over s.link on) :
    switching.Conforms on (g.getStatus s d).run
      (Ends (fun y _ => Over s.link y) fun y => Over s.link y) := by
  refine (switching_of_quiet (Attempt.within_ofMisfit _)).andThen (fun y _ hy => ?_)
    fun y hy => hy ▸ h
  subst hy
  refine (switching_of_quiet (Light.within_status g.policy s d)).andThen (fun y status hy => ?_)
    fun y hy => hy ▸ h
  subst hy
  rw [ExceptT.run_bind]
  refine .bind (.bind ((g.switching_collectEvents h).mono fun y r hy => ?_))
  cases r <;> exact hy

theorem switching_carryOut (d : Device) (o : Operation) (h : Over s.link on) :
    switching.Conforms on (g.carryOut s d o).run
      (Ends (fun y _ => Over s.link y) fun y => Over s.link y) := by
  have quietly : ∀ {α : Type} {w : Attempt α} (f : α → Payload × Ending),
      Course.Within Action.isQuiet w.run → switching.Conforms on (do return f (← w) :
        Attempt (Payload × Ending)).run (Ends (fun y _ => Over s.link y) fun y => Over s.link y) :=
    fun f hw => (switching_of_quiet hw).andThen (fun y _ hy => by subst hy; exact h)
      fun y hy => hy ▸ h
  cases o with
  | getData systems => exact quietly (fun x => (x, .open)) (g.within_getData s systems)
  | setData systems => exact quietly (fun x => (x, .open)) (g.within_setData s systems)
  | setLight values =>
    refine (switching_of_quiet (Attempt.within_ofMisfit _)).andThen (fun y _ hy => ?_)
      fun y hy => hy ▸ h
    subst hy
    exact quietly (fun _ => (.empty, .open)) (Light.within_setAll g.policy s d values)
  | getStatus => exact g.switching_getStatus d h
  | enableReporting =>
    simp only [carryOut]
    split
    · exact (g.switching_collectEvents h).andThen (fun y _ hy => hy) fun y hy => hy
    · exact h

theorem switching_finish (d : Device) (h : Over s.link on) :
    switching.Conforms on (g.finish s d) fun _ _ => True := by
  unfold finish
  split
  · refine .bind ((s.switching_enableWanted d h).mono fun y _ _ => ?_)
    exact .bind (.query fun _ _ => ⟨_, .left nofun, trivial⟩)
  · exact Session.switching_disconnect.mono fun _ _ _ => trivial

theorem switching_conclude (d : Device) (r : Except Failure (Payload × Ending))
    (h : Over s.link on) : switching.Conforms on (g.conclude s d r).run fun _ _ => True := by
  rcases r with e | ⟨payload, ending⟩
  · exact .liftThen (Session.switching_disconnect.mono fun _ _ _ => trivial)
  · cases ending with
    | scheduled => exact trivial
    | «open» => exact .liftThen ((g.switching_finish d h).mono fun _ _ _ => trivial)

theorem switching_run (r : Request) : switching.Conforms [] (g.run r).run fun _ _ => True := by
  unfold run
  refine (switching_of_quiet (within_findDevice trivial)).attempt (fun y d hy => ?_)
    fun _ _ _ => trivial
  obtain rfl : y = [] := hy
  have hopens : switching.Conforms [] (Session.connect d.identity (g.approach d.family)
      (g.listenerFor d)).run (Ends (fun y _ => y = []) fun y => y = []) :=
    .ends_of_within (Session.within_opens_connect _ _ _) fun a _ ha =>
      .spared (by cases a <;> first | trivial | exact ha.1.elim)
  refine hopens.attempt (fun y s hy => ?_) fun _ _ _ => trivial
  obtain rfl : y = [] := hy
  rw [ExceptT.run_bind]
  refine .bind (.bind ((g.switching_carryOut d r.operation fun _ hx => by cases hx).mono
    fun y result hy => ?_))
  refine g.switching_conclude d result ?_
  cases result <;> exact hy

theorem switching_handle (r : Request) :
    switching.Conforms [] (g.handle r) fun _ _ => True := by
  have hsends : ∀ o : Response, (sendResponse o).Within Action.SparesReports := fun o =>
    Course.Within.bind (Course.within_query trivial) fun answer => by
      cases answer with
      | none => exact Course.within_query trivial
      | some reason => exact Course.within_pure _
  refine .bind ((g.switching_run r).mono fun y result _ => .bind ?_)
  exact (Protocol.Conforms.of_within (hsends _) fun _ _ => Switching.spared).mono
    fun _ _ _ => trivial

end Gateway

end

/-! ## Requests that are served side by side -/

/-- The crews that any number of requests can lead to, with the jobs that the courses do: a request
may come in at any time, what is started for one is taken up at some time, once and in its turn, and
all goes on in any order. The first number counts what was taken up. -/
inductive Serves (g : Gateway) (p : Plant) : Nat → List Job → Crew (Option Response) → Prop
  | start : Serves g p 0 [] ⟨p, [], []⟩
  | arrive {n : Nat} {jobs : List Job} {w : Crew (Option Response)} (h : Serves g p n jobs w)
      (r : Request) : Serves g p n (jobs ++ [.request 0 r]) (w.join (g.jobWork (.request 0 r)))
  | takeUp {n : Nat} {jobs : List Job} {w : Crew (Option Response)} {job : Job}
      (h : Serves g p n jobs w) (hj : w.plant.jobs[p.jobs.length + n]? = some job) :
      Serves g p (n + 1) (jobs ++ [job]) (w.join (g.jobWork job))
  | step {n : Nat} {jobs : List Job} {w w' : Crew (Option Response)} (h : Serves g p n jobs w)
      (hs : w.Step w') : Serves g p n jobs w'

/-- A course switched a report on. -/
def Entry.IsOn (i link : Nat) (reference : String) (e : Entry) : Prop :=
  ∃ b, e.event = .did i (.enable link reference) (.ok b)

/-- The course, the link and the report, where one was switched on. -/
def Entry.on? (e : Entry) : Option (Nat × Nat × String) :=
  match e.event with
  | .did i (.enable link r) (.ok _) => some (i, link, r)
  | _ => none

theorem Entry.isOn_iff {i link : Nat} {reference : String} {e : Entry} :
    e.IsOn i link reference ↔ e.on? = some (i, link, reference) := by
  obtain ⟨p, event, q⟩ := e
  constructor
  · rintro ⟨b, rfl⟩
    rfl
  · intro h
    unfold on? at h
    split at h
    · next b he =>
      cases h
      exact ⟨b, he⟩
    · cases h

instance (i link : Nat) (reference : String) (e : Entry) : Decidable (e.IsOn i link reference) :=
  decidable_of_iff _ Entry.isOn_iff.symm

/-- Something that the job did which ends the session over a link. -/
def Entry.isByTask (jobs : List Job) (link : Nat) (e : Entry) : Bool :=
  match e.event with
  | .did i _ _ =>
    match jobs[i]? with
    | some (.disconnect s _ _) => s.link == link
    | _ => false
  | .met _ => false

/-- A request switched the report on. -/
def SwitchedOn (jobs : List Job) (log : List Entry) (link : Nat) (reference : String) : Prop :=
  ∃ i r, jobs[i]? = some (.request 0 r) ∧ ∃ e ∈ log, e.IsOn i link reference

/-- The job ends a session, and switches off only what a request has switched on. -/
def Job.Closes (jobs : List Job) (log : List Entry) : Job → Prop
  | .disconnect s _ clear =>
    ∀ reference, clear = some reference → SwitchedOn jobs log s.link reference
  | .request _ _ => False

/-- Holds of what such a job does. -/
def Action.Clears (link : Nat) (clear : Option String) : Action → Prop
  | .disable l r => l = link ∧ clear = some r
  | .enable _ _ | .start _ => False
  | _ => True

/-- What is left of a course, by the job that it does. -/
inductive Charged (jobs : List Job) (log : List Entry) (i : Nat) :
    Job → Work (Option Response) → Prop
  /-- A request goes by what it has switched on, all over one link. -/
  | request {r : Request} {c : Work (Option Response)} {link : Nat} {on : List (Nat × String)}
      (hc : switching.Conforms on c fun _ _ => True) (hlink : Over link on)
      (hon : ∀ l reference, (∃ e ∈ log, e.IsOn i l reference) ↔ (l, reference) ∈ on) :
      Charged jobs log i (.request 0 r) c
  | task {s : Session} {delay : Nat} {clear : Option String} {c : Work (Option Response)}
      (hc : c.Within (Action.Clears s.link clear))
      (hcloses : Job.Closes jobs log (.disconnect s delay clear)) :
      Charged jobs log i (.disconnect s delay clear) c

/-- What is known of a crew of requests. -/
structure Crew.IsServing (p : Plant) (jobs : List Job) (w : Crew (Option Response)) : Prop where
  length : w.courses.length = jobs.length
  later : p.jobs.length ≤ w.plant.jobs.length
  charged : ∀ i job c, jobs[i]? = some job → w.courses[i]? = some c → Charged jobs w.log i job c
  started : ∀ job ∈ w.plant.jobs.drop p.jobs.length, job.Closes jobs w.log
  /-- Whoever switched off a report was a job, and a request had switched it on before. -/
  cleared : ∀ before e after i link reference answer, w.log = before ++ e :: after →
    e.event = .did i (.disable link reference) answer →
      (∃ s delay, jobs[i]? = some (.disconnect s delay (some reference)) ∧ s.link = link) ∧
        SwitchedOn jobs before link reference

section
variable {jobs : List Job} {log : List Entry} {i link : Nat} {reference : String} {job : Job}
  {c : Work (Option Response)} {e : Entry}

theorem SwitchedOn.mono {jobs' : List Job} {log' : List Entry}
    (h : SwitchedOn jobs log link reference) (hjobs : jobs <+: jobs') (hlog : log ⊆ log') :
    SwitchedOn jobs' log' link reference := by
  obtain ⟨i, r, hi, e, he, hon⟩ := h
  obtain ⟨js, rfl⟩ := hjobs
  have hi' : (jobs ++ js)[i]? = some (.request 0 r) := by
    rw [List.getElem?_append_left (List.getElem?_eq_some_iff.1 hi).1, hi]
  exact ⟨i, r, hi', e, hlog he, hon⟩

theorem Job.Closes.mono {jobs' : List Job} {log' : List Entry} (h : job.Closes jobs log)
    (hjobs : jobs <+: jobs') (hlog : log ⊆ log') : job.Closes jobs' log' := by
  cases job with
  | disconnect s delay clear => exact fun reference hr => (h reference hr).mono hjobs hlog
  | request delay r => exact h.elim

/-- More jobs do not matter to a course. -/
theorem Charged.append (h : Charged jobs log i job c) (js : List Job) :
    Charged (jobs ++ js) log i job c := by
  cases h with
  | request hc hlink hon => exact .request hc hlink hon
  | task hc hcloses =>
    exact .task hc (hcloses.mono (List.prefix_append _ _) (List.Subset.refl _))

theorem exists_isOn_concat : (∃ x ∈ log ++ [e], x.IsOn i link reference) ↔
    (∃ x ∈ log, x.IsOn i link reference) ∨ e.IsOn i link reference := by
  simp only [List.mem_append, List.mem_singleton, or_and_right, exists_or, exists_eq_left]

/-- What others do does not matter to a course. -/
theorem Charged.more (h : Charged jobs log i job c) (he : ∀ l r, ¬ e.IsOn i l r) :
    Charged jobs (log ++ [e]) i job c := by
  cases h with
  | request hc hlink hon =>
    refine .request hc hlink fun l r => ?_
    rw [exists_isOn_concat, hon]
    exact or_iff_left (he l r)
  | task hc hcloses =>
    exact .task hc (hcloses.mono (List.prefix_refl _) (List.subset_append_left _ _))

theorem Charged.goOn {ms : Nat} (h : Charged jobs log i job (.wait ms c)) :
    Charged jobs log i job c := by
  cases h with
  | request hc hlink hon => exact .request hc hlink hon
  | task hc hcloses => exact .task (Course.within_wait.1 hc) hcloses

/-- What a course does, by its job: it goes on as the job says, starts what ends a session, and
switches off something only if that is its job. -/
theorem Charged.act {a : Action} {next : a.Answer → Work (Option Response)}
    (h : Charged jobs log i job (.ask a next)) (hi : jobs[i]? = some job) (answer : a.Answer)
    (p q : Plant) :
    Charged jobs (log ++ [⟨p, .did i a answer, q⟩]) i job (next answer) ∧
    (∀ j ∈ a.started, j.Closes jobs log) ∧
    ∀ link reference, a = .disable link reference →
      (∃ s delay, job = .disconnect s delay (some reference) ∧ s.link = link) ∧
        SwitchedOn jobs log link reference := by
  cases h with
  | @request r _ link on hc hlink hon =>
    obtain ⟨y, hy, hn⟩ := hc answer trivial
    cases hy with
    | spared ha =>
      refine ⟨(Charged.request hn hlink hon).more ?_, ?_, ?_⟩
      · rintro l r ⟨b, he⟩
        cases he
        exact ha
      · cases a with
        | start j => exact ha.elim
        | _ => exact fun j hj => by cases hj
      · rintro link reference rfl
        exact ha.elim
    | refused =>
      refine ⟨(Charged.request hn hlink hon).more ?_, nofun, nofun⟩
      rintro l r ⟨b, he⟩
      cases he
    | @on l reference b hl =>
      refine ⟨.request hn (List.forall_mem_cons.2 ⟨rfl, hl⟩) fun l' reference' => ?_, nofun, nofun⟩
      rw [exists_isOn_concat, hon, List.mem_cons, or_comm]
      refine or_congr_left ⟨?_, ?_⟩
      · rintro ⟨b', he⟩
        cases he
        rfl
      · intro he
        cases he
        exact ⟨b, rfl⟩
    | @left s delay n clear hclear =>
      refine ⟨(Charged.request hn hlink hon).more ?_, ?_, nofun⟩
      · rintro l r ⟨b, he⟩
        cases he
      · intro j hj
        obtain rfl := List.mem_singleton.1 hj
        exact fun reference hr => ⟨i, r, hi, (hon s.link reference).2 (hclear reference hr)⟩
  | @task s delay clear _ hc hcloses =>
    obtain ⟨ha, hn⟩ := Course.within_ask.1 hc
    refine ⟨(Charged.task (hn answer) hcloses).more ?_, ?_, ?_⟩
    · rintro l r ⟨b, he⟩
      cases he
      exact ha
    · cases a with
      | start j => exact ha.elim
      | _ => exact fun j hj => by cases hj
    · rintro link reference rfl
      obtain ⟨rfl, rfl⟩ := ha
      exact ⟨⟨s, delay, rfl, rfl⟩, hcloses reference rfl⟩

end

namespace Crew.IsServing

variable {g : Gateway} {p : Plant} {n : Nat} {jobs : List Job} {w w' : Crew (Option Response)}
  {job : Job}

theorem exists_job (h : w.IsServing p jobs) {i : Nat} {c : Work (Option Response)}
    (hc : w.courses[i]? = some c) : ∃ job, jobs[i]? = some job := by
  have hlt : i < jobs.length := h.length ▸ (List.getElem?_eq_some_iff.1 hc).1
  exact ⟨jobs[i], List.getElem?_eq_getElem hlt⟩

/-- One more course. -/
theorem join (h : w.IsServing p jobs) {c : Work (Option Response)}
    (hc : Charged (jobs ++ [job]) w.log jobs.length job c) :
    (w.join c).IsServing p (jobs ++ [job]) := by
  refine ⟨by simp [Crew.join, h.length], h.later, fun i j k hi hk => ?_, fun j hj =>
    (h.started j hj).mono (List.prefix_append _ _) (List.Subset.refl _),
    fun before e after i l r answer hlog he => ?_⟩
  · by_cases hlt : i < jobs.length
    · rw [List.getElem?_append_left hlt] at hi
      have hk : w.courses[i]? = some k := by
        rw [← hk]
        exact (List.getElem?_append_left (h.length ▸ hlt)).symm
      exact (h.charged i j k hi hk).append [job]
    · have heq : i = jobs.length := by
        have hlen := (List.getElem?_eq_some_iff.1 hi).1
        rw [List.length_append, List.length_singleton] at hlen
        omega
      subst heq
      have hj : job = j := by simpa using hi
      have hk : c = k := by simpa [Crew.join, ← h.length] using hk
      rwa [← hj, ← hk]
  · obtain ⟨⟨s, delay, hi, hs⟩, hon⟩ := h.cleared before e after i l r answer hlog he
    refine ⟨⟨s, delay, ?_, hs⟩, hon.mono (List.prefix_append _ _) (List.Subset.refl _)⟩
    rw [List.getElem?_append_left (List.getElem?_eq_some_iff.1 hi).1, hi]

/-- Each step keeps what is known of the crew. -/
theorem step (h : w.IsServing p jobs) (hs : w.Step w') : w'.IsServing p jobs := by
  cases hs with
  | @act i a next answer q hc ha =>
    obtain ⟨job, hi⟩ := h.exists_job hc
    obtain ⟨hcharged, hstarted, hcleared⟩ :=
      (h.charged i job _ hi hc).act hi answer w.plant q
    have hjobs := ha.jobs
    have hlater : p.jobs.length ≤ q.jobs.length := by
      rw [hjobs, List.length_append]
      exact Nat.le_add_right_of_le h.later
    refine ⟨by rw [List.length_set, h.length], hlater, fun j job' k hj hk => ?_, fun j hj => ?_,
      fun before e after j l r answer' hlog he => ?_⟩
    · rcases Crew.of_set hk with ⟨rfl, rfl⟩ | ⟨hne, hk⟩
      · obtain rfl : job = job' := Option.some.inj (hi.symm.trans hj)
        exact hcharged
      · refine (h.charged j job' k hj hk).more ?_
        rintro l r ⟨b, he⟩
        cases he
        exact hne rfl
    · rw [hjobs, List.drop_append_of_le_length h.later] at hj
      have hcloses : j.Closes jobs w.log := (List.mem_append.1 hj).elim (h.started j) (hstarted j)
      exact hcloses.mono (List.prefix_refl _) (List.subset_append_left _ _)
    · rcases snoc_eq hlog with ⟨rfl, rfl, rfl⟩ | ⟨more, rfl, hl⟩
      · cases he
        obtain ⟨⟨s, delay, rfl, hs⟩, hon⟩ := hcleared l r rfl
        exact ⟨⟨s, delay, hi, hs⟩, hon⟩
      · exact h.cleared before e more j l r answer' hl he
  | @goOn i ms next hc =>
    refine ⟨by rw [List.length_set, h.length], h.later, fun j job k hj hk => ?_, h.started,
      h.cleared⟩
    rcases Crew.of_set hk with ⟨rfl, rfl⟩ | ⟨-, hk⟩
    · exact (h.charged j job _ hj hc).goOn
    · exact h.charged j job k hj hk
  | meet e =>
    refine ⟨h.length, by rw [Plant.jobs_meet]; exact h.later, fun j job k hj hk => ?_,
      fun j hj => ?_, fun before x after j l r answer hlog hx => ?_⟩
    · refine (h.charged j job k hj hk).more ?_
      rintro l r ⟨b, he⟩
      cases he
    · rw [Plant.jobs_meet] at hj
      exact (h.started j hj).mono (List.prefix_refl _) (List.subset_append_left _ _)
    · rcases snoc_eq hlog with ⟨rfl, rfl, rfl⟩ | ⟨more, rfl, hl⟩
      · cases hx
      · exact h.cleared before x more j l r answer hl hx

end Crew.IsServing

namespace Serves

variable {g : Gateway} {p : Plant} {n : Nat} {jobs : List Job} {w : Crew (Option Response)}

/-- A course that does not exist yet has done nothing. -/
theorem courses_lt (h : Serves g p n jobs w) : ∀ e ∈ w.log, ∀ i a answer,
    e.event = .did i a answer → i < w.courses.length := by
  induction h with
  | start => exact fun e he => by cases he
  | arrive _ _ ih | takeUp _ _ ih =>
    intro e he i a answer hi
    have := ih e he i a answer hi
    simp only [Crew.join, List.length_append, List.length_singleton]
    omega
  | step _ hs ih =>
    cases hs with
    | @act i a next answer q hc ha =>
      intro e he j b answer' hj
      rw [List.length_set]
      rcases List.mem_append.1 he with he | he
      · exact ih e he j b answer' hj
      · rw [List.mem_singleton.1 he] at hj
        cases hj
        exact (List.getElem?_eq_some_iff.1 hc).1
    | goOn hc =>
      intro e he j b answer' hj
      rw [List.length_set]
      exact ih e he j b answer' hj
    | meet m =>
      intro e he j b answer' hj
      rcases List.mem_append.1 he with he | he
      · exact ih e he j b answer' hj
      · rw [List.mem_singleton.1 he] at hj
        cases hj

theorem isServing (h : Serves g p n jobs w) : w.IsServing p jobs := by
  induction h with
  | start =>
    refine ⟨rfl, Nat.le_refl _, nofun, fun job hj => ?_, fun before e after i l r answer hlog => ?_⟩
    · rw [List.drop_length] at hj
      cases hj
    · simp at hlog
  | @arrive n jobs w h r ih =>
    refine ih.join (@Charged.request _ _ _ r _ 0 [] ?_ nofun fun l reference => ?_)
    · exact .bind (.pause (.bind ((g.switching_handle r).mono fun _ _ _ => trivial)))
    · constructor
      · rintro ⟨e, he, b, hb⟩
        have hlt := h.courses_lt e he _ _ _ hb
        rw [ih.length] at hlt
        exact absurd hlt (Nat.lt_irrefl _)
      · exact fun h => by cases h
  | @takeUp n jobs w job h hj ih =>
    have hmem : job ∈ w.plant.jobs.drop p.jobs.length := by
      refine List.mem_of_getElem? (i := n) ?_
      rwa [List.getElem?_drop]
    have hcloses := ih.started job hmem
    cases job with
    | disconnect s delay clear =>
      refine ih.join (.task ?_ (hcloses.mono (List.prefix_append _ _) (List.Subset.refl _)))
      refine Course.Within.bind ?_ fun _ => Course.within_pure _
      exact Session.within_disconnectLater_of delay (fun a ha => by cases a <;> trivial) trivial
        fun reference hr => ⟨rfl, hr⟩
    | request delay r => exact hcloses.elim
  | step _ hs ih => exact ih.step hs

/-- How a report stands is told by its last switch. -/
theorem isOn?_of_log (h : Serves g p n jobs w) {host reference : String}
    {before during : List Entry} {e : Entry} (hlog : w.log = before ++ e :: during)
    (hcalm : ∀ x ∈ e :: during, x.changes host = false) :
    w.plant.isOn? host reference =
      (lastSwitch? host reference (e :: during)).or (e.before.isOn? host reference) := by
  induction h generalizing during with
  | start => simp at hlog
  | arrive _ _ ih | takeUp _ _ ih => exact ih hlog hcalm
  | step _ hs ih =>
    rcases hs.isOn? with ⟨hl, hplant⟩ | ⟨x, hl, hx, hison⟩
    · rw [hplant]
      exact ih (hl ▸ hlog) hcalm
    · rw [hl] at hlog
      rcases snoc_eq hlog with ⟨-, rfl, rfl⟩ | ⟨more, rfl, hl⟩
      · rw [hison host reference (hcalm x List.mem_cons_self), hx, lastSwitch?_cons]
        rfl
      · rw [← List.cons_append] at hcalm ⊢
        rw [hison host reference (hcalm x (List.mem_append_right _ List.mem_cons_self)),
          lastSwitch?_concat, Option.or_assoc,
          ih hl fun y hy => hcalm y (List.mem_append_left _ hy)]

/-- While the job has not begun that ends the session over which a request has switched a report on,
the report stands as it was switched last, at first on; and whenever it is switched off, that is by
the job of another request, which had switched it on over a session of its own. -/
theorem on_in_window (h : Serves g p n jobs w) {host reference : String} {i link : Nat}
    {before during : List Entry} {e : Entry} (hlog : w.log = before ++ e :: during)
    (hon : e.IsOn i link reference) (hhost : e.before.host? link = some host)
    (hown : ∀ x ∈ during, x.isByTask jobs link = false)
    (hcalm : ∀ x ∈ during, x.changes host = false) :
    w.plant.isOn? host reference = some ((lastSwitch? host reference during).getD true) ∧
      ∀ early x late, during = early ++ x :: late → x.switch? host reference = some false →
        ∃ j s delay k r, x.event = .did j (.disable s.link reference) (.ok ()) ∧
          jobs[j]? = some (.disconnect s delay (some reference)) ∧ s.link ≠ link ∧
          jobs[k]? = some (.request 0 r) ∧ k ≠ i ∧
          ∃ y ∈ before ++ e :: early, y.IsOn k s.link reference := by
  have hserving := h.isServing
  constructor
  · obtain ⟨q, event, q'⟩ := e
    obtain ⟨b, rfl⟩ := hon
    have hswitch : (⟨q, .did i (.enable link reference) (.ok b), q'⟩ : Entry).switch? host
        reference = some true := if_pos ⟨hhost, rfl⟩
    rw [h.isOn?_of_log hlog (List.forall_mem_cons.2 ⟨rfl, hcalm⟩), lastSwitch?_cons, hswitch]
    cases lastSwitch? host reference during <;> rfl
  · rintro early x late rfl hswitch
    obtain ⟨j, l, hx⟩ := Entry.eq_of_switch?_false hswitch
    rw [← List.cons_append, ← List.append_assoc] at hlog
    obtain ⟨⟨s, delay, hj, rfl⟩, k, r, hk, y, hy, hyon⟩ :=
      hserving.cleared _ x late j l reference _ hlog hx
    have hne : s.link ≠ link := by
      rintro rfl
      have hmine := hown x (List.mem_append_right _ List.mem_cons_self)
      simp [Entry.isByTask, hx, hj] at hmine
    refine ⟨j, s, delay, k, r, hx, hj, hne, hk, ?_, y, hy, hyon⟩
    -- All that a request switches on is over one link.
    rintro rfl
    obtain ⟨c, hc⟩ : ∃ c, w.courses[k]? = some c :=
      ⟨_, List.getElem?_eq_getElem (hserving.length ▸ (List.getElem?_eq_some_iff.1 hk).1)⟩
    have hmem : ∀ z ∈ before ++ e :: early, z ∈ w.log := fun z hz => by
      rw [hlog]
      exact List.mem_append_left _ hz
    cases hserving.charged k _ c hk hc with
    | request _ hover hcharged =>
      have hfirst := (hcharged link reference).1 ⟨e, hmem e (by simp), hon⟩
      have hsecond := (hcharged s.link reference).1 ⟨y, hmem y hy, hyon⟩
      exact hne ((hover _ hsecond).trans (hover _ hfirst).symm)

theorem play (h : Serves g p n jobs w) (ms : List Crew.Move) : Serves g p n jobs (w.play ms) :=
  Crew.play_induction .step ms h

end Serves

/-! ## Windows that overlap -/

/-- The session of the first of two requests. -/
def Session.earlier : Session :=
  ⟨⟨"SSLD-1", "10.0.0.1", .streetlightController, none⟩,
    ⟨[], [.fresh "SWDeviceGenericIO/LLN0.evn_rpn01" true], []⟩, 0⟩

/-- Two requests, and the job that ends the session of the first one. -/
def Job.overlapping : List Job :=
  [.request 0 .reportEvents, .request 0 .reportEvents,
    .disconnect .earlier 5000 (some "SWDeviceGenericIO/LLN0.evn_rpn01")]

/-- The controller is asked twice to report its events, and the session of the first request comes
to its end while that of the second one goes on. -/
def Crew.overlapping : Crew (Option Response) :=
  let request := Gateway.standard.jobWork (.request 0 .reportEvents)
  let task := Gateway.standard.jobWork
    (.disconnect .earlier 5000 (some "SWDeviceGenericIO/LLN0.evn_rpn01"))
  let w := (Crew.join ⟨.controller, [], []⟩ request).play (List.replicate 20 (.go 0))
  let w := (w.join request).play (List.replicate 20 (.go 1))
  (w.join task).play (List.replicate 4 (.go 2))

theorem Serves.overlapping : Serves .standard .controller 1 Job.overlapping Crew.overlapping := by
  have hfirst := (Serves.start (g := .standard) (p := .controller)).arrive .reportEvents
  have hsecond := ((hfirst.play (List.replicate 20 (.go 0))).arrive .reportEvents).play
    (List.replicate 20 (.go 1))
  exact (hsecond.takeUp (by decide +kernel)).play (List.replicate 4 (.go 2))

/-- The second request switched the report on over its own link, and nothing else began of what ends
its session. -/
theorem Crew.window_overlapping : ∃ before e during,
    overlapping.log = before ++ e :: during ∧
      e.IsOn 1 1 "SWDeviceGenericIO/LLN0.evn_rpn01" ∧ e.before.host? 1 = some "10.0.0.1" ∧
      (∀ x ∈ during, x.isByTask Job.overlapping 1 = false) ∧
      ∀ x ∈ during, x.changes "10.0.0.1" = false := by
  have hlt : 22 < overlapping.log.length := by decide +kernel
  refine ⟨overlapping.log.take 22, overlapping.log.get ⟨22, by decide +kernel⟩,
    overlapping.log.drop 23, ?_, by decide +kernel, by decide +kernel, by decide +kernel,
    by decide +kernel⟩
  rw [List.get_eq_getElem, ← List.drop_eq_getElem_cons hlt, List.take_append_drop]

theorem Serves.on_in_window_overlapping :
    Serves .standard .controller 1 Job.overlapping Crew.overlapping ∧
      ∃ before e during, Crew.overlapping.log = before ++ e :: during ∧
        e.IsOn 1 1 "SWDeviceGenericIO/LLN0.evn_rpn01" ∧ e.before.host? 1 = some "10.0.0.1" ∧
        (∀ x ∈ during, x.isByTask Job.overlapping 1 = false) ∧
        (∀ x ∈ during, x.changes "10.0.0.1" = false) ∧
        Crew.overlapping.plant.isOn? "10.0.0.1" "SWDeviceGenericIO/LLN0.evn_rpn01" =
          some ((lastSwitch? "10.0.0.1" "SWDeviceGenericIO/LLN0.evn_rpn01" during).getD true) ∧
        ∀ early x late, during = early ++ x :: late →
          x.switch? "10.0.0.1" "SWDeviceGenericIO/LLN0.evn_rpn01" = some false →
          ∃ j s delay k r,
            x.event = .did j (.disable s.link "SWDeviceGenericIO/LLN0.evn_rpn01") (.ok ()) ∧
            Job.overlapping[j]? =
              some (.disconnect s delay (some "SWDeviceGenericIO/LLN0.evn_rpn01")) ∧
            s.link ≠ 1 ∧ Job.overlapping[k]? = some (.request 0 r) ∧ k ≠ 1 ∧
            ∃ y ∈ before ++ e :: early, y.IsOn k s.link "SWDeviceGenericIO/LLN0.evn_rpn01" := by
  obtain ⟨before, e, during, hlog, hon, hhost, hown, hcalm⟩ := Crew.window_overlapping
  exact ⟨Serves.overlapping, before, e, during, hlog, hon, hhost, hown, hcalm,
    Serves.overlapping.on_in_window hlog hon hhost hown hcalm⟩

/-- The report is off while the second of the requests still relies on it. -/
theorem Serves.off_in_window :
    Serves .standard .controller 1 Job.overlapping Crew.overlapping ∧
      ∃ before e during, Crew.overlapping.log = before ++ e :: during ∧
        e.IsOn 1 1 "SWDeviceGenericIO/LLN0.evn_rpn01" ∧ e.before.host? 1 = some "10.0.0.1" ∧
        (∀ x ∈ during, x.isByTask Job.overlapping 1 = false) ∧
        (∀ x ∈ during, x.changes "10.0.0.1" = false) ∧
        Crew.overlapping.plant.isOn? "10.0.0.1" "SWDeviceGenericIO/LLN0.evn_rpn01" =
          some false := by
  obtain ⟨before, e, during, hlog, hon, hhost, hown, hcalm⟩ := Crew.window_overlapping
  exact ⟨Serves.overlapping, before, e, during, hlog, hon, hhost, hown, hcalm, by decide +kernel⟩

end FieldGateway
