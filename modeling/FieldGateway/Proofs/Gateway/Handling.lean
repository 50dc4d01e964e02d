import FieldGateway.Proofs.Gateway.Conduct

/-!
# The crew of a request

A request is handled by a course of its own, and the session it opens may be left to a job. Both go
on side by side, in any order of their actions, while the plant changes in any way:

* `Handles`: the crews that a request can lead to.
* `Tale`: what such a crew does, as a tale of how the session stands; `Handles.tale` tells it for
  every crew, and also where its courses are.
-/

namespace FieldGateway

open Standing

/-! ## What one action does to a session -/

namespace Action

/-- The link that an action makes. -/
def made : (a : Action) → a.Answer → Option Nat
  | .associate _ _ _, .ok l => some l
  | _, _ => none

theorem made_of_isQuiet {a : Action} (h : a.isQuiet) (answer : a.Answer) :
    a.made answer = none := by
  cases a <;> first | rfl | exact h.elim

theorem started_of_isQuiet {a : Action} (h : a.isQuiet) : a.started = [] := by
  cases a <;> first | rfl | exact h.elim

theorem retires_of_isQuiet {a : Action} (h : a.isQuiet) (link : Nat) : a.retires link = false := by
  cases a <;> first | rfl | exact h.elim

end Action

namespace Standing

variable {limit : Nat} {x y : Standing} {a : Action} {answer : a.Answer}

/-- The link of a session. -/
def link? : Standing → Option Nat
  | unopened => none
  | linked l | lost l | abandoned l | opened l | reporting l | listening l | enabled l _
  | bounded l _ | due l | parting _ l _ => some l
  | scheduled s _ _ => some s.link

/-- Whether a session was ended. -/
def isOver : Standing → Bool
  | parting _ _ _ => true
  | _ => false

/-- A session that a job is ending. -/
def ByJob (link : Nat) : Standing → Prop
  | due l => l = link
  | parting j l _ => j = true ∧ l = link
  | _ => False

/-- The jobs that were started for a session. -/
def Started : Standing → List Job → Prop
  | scheduled s delay clear, jobs => jobs = [.disconnect s delay clear]
  | due l, jobs | parting true l _, jobs =>
    ∃ s delay clear, jobs = [.disconnect s delay clear] ∧ s.link = l
  | _, jobs => jobs = []

/-- A job that is ending a session is the one that was started for it. -/
theorem started_of_byJob {link : Nat} {jobs : List Job} (h : x.ByJob link) (hj : x.Started jobs) :
    ∃ s delay clear, jobs = [.disconnect s delay clear] ∧ s.link = link := by
  cases x with
  | due l =>
    obtain rfl : l = link := h
    exact hj
  | parting byJob l part =>
    obtain ⟨rfl, rfl⟩ : byJob = true ∧ l = link := h
    exact hj
  | _ => exact h.elim

namespace Step

/-- What a drain does is an event to be sent, a count, or that the listener is told. -/
theorem drain_cases {link : Nat} {h : Held} {h' : Option Held}
    (hd : Held.next link (some h) a answer = some h') :
    (∃ batch, a = .sendEvents batch) ∨ (∃ c n, a = .count c n) ∨ a = .settle link := by
  rcases Held.next_cases hd with ⟨b, -, -, ha, -⟩ | ⟨b, -, -, ha, -⟩ | ⟨c, n, -, ha, -⟩ | ⟨-, ha, -⟩
  · exact .inl ⟨b, ha⟩
  · exact .inr (.inr ha)
  · exact .inr (.inl ⟨c, n, ha⟩)
  · exact .inr (.inr ha)

/-- A session has the link of the first association. -/
theorem link?_eq (h : Step limit x a answer y) :
    y.link? = (a.made answer).or x.link? ∧ (a.made answer = none ∨ x = unopened) := by
  cases h with
  | quiet ha => simp [Action.made_of_isQuiet ha]
  | drain hd =>
    rcases drain_cases hd with ⟨b, rfl⟩ | ⟨c, n, rfl⟩ | rfl <;> exact ⟨rfl, .inl rfl⟩
  | schedule hx => rcases hx.cases with rfl | rfl | ⟨n, rfl⟩ <;> exact ⟨rfl, .inl rfl⟩
  | part hx => rcases hx.cases with rfl | rfl <;> exact ⟨rfl, .inl rfl⟩
  | _ => first | exact ⟨rfl, .inl rfl⟩ | exact ⟨rfl, .inr rfl⟩

/-- A session is over once it was ended. -/
theorem isOver_eq (h : Step limit x a answer y) {link : Nat} (hl : y.link? = some link) :
    y.isOver = (a.retires link || x.isOver) := by
  cases h with
  | quiet ha => simp [Action.retires_of_isQuiet ha]
  | drain hd => rcases drain_cases hd with ⟨b, rfl⟩ | ⟨c, n, rfl⟩ | rfl <;> rfl
  | part hx | partByJob =>
    obtain rfl := Option.some.inj hl
    simp [isOver, Action.retires]
  | schedule hx => rcases hx.cases with rfl | rfl | ⟨n, rfl⟩ <;> rfl
  | _ => rfl

/-- Only a job can be ending a session for which one was started. -/
theorem started (h : Step limit x a answer y) {jobs : List Job} (hj : x.Started jobs) :
    y.Started (jobs ++ a.started) := by
  cases h with
  | quiet ha => simpa [Action.started_of_isQuiet ha] using hj
  | drain hd =>
    rename_i j l h h'
    rcases drain_cases hd with ⟨b, rfl⟩ | ⟨c, n, rfl⟩ | rfl <;>
      cases j <;> simpa [Started, Action.started] using hj
  | schedule hx =>
    have hnone : jobs = [] := by rcases hx.cases with rfl | rfl | ⟨n, rfl⟩ <;> exact hj
    simp [Started, Action.started, hnone]
  | part hx =>
    have hnone : jobs = [] := by rcases hx.cases with rfl | rfl <;> exact hj
    simp [Started, Action.started, hnone]
  | @release j | @tell j => cases j <;> simpa [Started, Action.started] using hj
  | _ => simpa [Started, Action.started] using hj

theorem byJob_iff (h : Step limit x a answer y) {link : Nat} : y.ByJob link ↔ x.ByJob link := by
  cases h with
  | schedule hx => rcases hx.cases with rfl | rfl | ⟨n, rfl⟩ <;> exact Iff.rfl
  | part hx => rcases hx.cases with rfl | rfl <;> simp [ByJob]
  | _ => simp [ByJob]

/-- Of a session that was left to a job, whoever left it does nothing more. -/
theorem of_scheduled {s : Session} {delay : Nat} {clear : Option String}
    (h : Step limit (scheduled s delay clear) a answer y) :
    y = scheduled s delay clear ∧ ∀ z, Step limit z a answer z := by
  cases h with
  | quiet ha => exact ⟨rfl, fun _ => .quiet ha⟩
  | unenabled => exact ⟨rfl, fun _ => .unenabled⟩
  | schedule hx => exact hx.elim
  | part hx => exact hx.elim

end Step

end Standing

/-! ## Tales -/

/-- What happened since a plant `p`, the plant it led to, and how the session stands then. -/
inductive Tale (limit : Nat) (p : Plant) : List Entry → Plant → Standing → Prop
  | start : Tale limit p [] p unopened
  | act {log : List Entry} {q q' : Plant} {x y : Standing} {i : Nat} {a : Action}
      {answer : a.Answer} (h : Tale limit p log q x) (ha : q.Answers a answer q')
      (hs : Step limit x a answer y) : Tale limit p (log ++ [⟨q, .did i a answer, q'⟩]) q' y
  | meet {log : List Entry} {q : Plant} {x : Standing} (h : Tale limit p log q x) (e : Incident) :
      Tale limit p (log ++ [⟨q, .met e, q.meet e⟩]) (q.meet e) x
  | takeUp {log : List Entry} {q : Plant} {s : Session} {delay : Nat} {clear : Option String}
      (h : Tale limit p log q (scheduled s delay clear)) : Tale limit p log q (due s.link)

theorem Plant.Answers.made {p q : Plant} {a : Action} {answer : a.Answer} {link : Nat}
    (h : p.Answers a answer q) (hl : a.made answer = some link) :
    link = p.links.length ∧ q.isOpen link = true := by
  cases a with
  | associate host port listener =>
    cases answer with
    | error f => cases hl
    | ok l =>
      obtain rfl := Option.some.inj hl
      obtain ⟨rfl, hlinks⟩ := h.associate
      exact ⟨rfl, by simp [Plant.isOpen, hlinks]⟩
  | _ => cases hl

namespace Tale

variable {limit : Nat} {p q : Plant} {log : List Entry} {x : Standing}

/-- The link of the session was made by the request, and the session is open until it is ended. -/
theorem link (h : Tale limit p log q x) {l : Nat} (hl : x.link? = some l) :
    p.links.length ≤ l ∧ l < q.links.length ∧ q.isOpen l = !x.isOver := by
  suffices hlen : p.links.length ≤ q.links.length ∧ ∀ l, x.link? = some l →
      p.links.length ≤ l ∧ l < q.links.length ∧ q.isOpen l = !x.isOver from hlen.2 l hl
  clear hl l
  induction h with
  | start => exact ⟨Nat.le_refl _, fun l hl => by cases hl⟩
  | @act log q q' x y i a answer _ ha hs ih =>
    have hq := ha.length
    refine ⟨by omega, fun l hl => ?_⟩
    obtain ⟨heq, hor⟩ := hs.link?_eq
    have hover := hs.isOver_eq hl
    cases hm : a.made answer with
    | none =>
      rw [hm, Option.none_or, hl] at heq
      obtain ⟨hle, hlt, hopen⟩ := ih.2 l heq.symm
      refine ⟨hle, by omega, ?_⟩
      rw [ha.isOpen hlt, hopen, hover, Bool.not_or]
    | some m =>
      -- The link is the one that was made just now.
      rw [hm, Option.some_or, hl] at heq
      obtain rfl := Option.some.inj heq
      obtain ⟨rfl, hopen⟩ := ha.made hm
      obtain rfl : x = unopened := by simpa [hm] using hor
      have hnew : a.linked answer = 1 ∧ a.retires q.links.length = false := by
        cases a with
        | associate host port listener =>
          cases answer with
          | ok l => exact ⟨rfl, rfl⟩
          | error f => cases hm
        | _ => cases hm
      refine ⟨ih.1, by omega, ?_⟩
      rw [hopen, hover, hnew.2]
      rfl
  | @meet log q x _ e ih =>
    rw [Plant.length_meet]
    exact ⟨ih.1, fun l hl => by rw [Plant.isOpen_meet]; exact ih.2 l hl⟩
  | takeUp _ ih => exact ⟨ih.1, fun l hl => ih.2 l hl⟩

/-- The jobs that were started since. -/
theorem jobs (h : Tale limit p log q x) : ∃ js, q.jobs = p.jobs ++ js ∧ x.Started js := by
  induction h with
  | start => exact ⟨[], (List.append_nil _).symm, rfl⟩
  | @act log q q' x y i a answer _ ha hs ih =>
    obtain ⟨js, hq, hj⟩ := ih
    exact ⟨js ++ a.started, by rw [ha.jobs, hq, List.append_assoc], hs.started hj⟩
  | meet _ e ih =>
    obtain ⟨js, hq, hj⟩ := ih
    exact ⟨js, by rw [Plant.jobs_meet, hq], hj⟩
  | takeUp _ ih =>
    obtain ⟨js, hq, hj⟩ := ih
    exact ⟨js, hq, _, _, _, hj, rfl⟩

/-- What is answered is what the protocol admits. -/
theorem admits (h : Tale limit p log q x) {a : Action} {answer : a.Answer} {q' : Plant}
    (ha : q.Answers a answer q') : x.Admits a answer := by
  cases a with
  | retire l =>
    intro hx
    have hl : x.link? = some l ∧ x.isOver = false := by
      cases x <;> first | exact hx.elim | exact ⟨congrArg some hx, rfl⟩
    have ha := ha.perform_eq fun f hf => by cases hf
    have hanswer : q.isOpen l = answer := congrArg Prod.fst ha
    rw [← hanswer, (h.link hl.1).2.2, hl.2]
    rfl
  | _ => trivial

end Tale

/-! ## Crews -/

/-- The crews that a request can lead to: what is started for it is taken up at some time, and all
goes on in any order. -/
inductive Handles (g : Gateway) (p : Plant) (r : Request) : Crew (Option Response) → Prop
  | start : Handles g p r ⟨p, [g.jobWork (.request 0 r)], []⟩
  | step {w w' : Crew (Option Response)} (h : Handles g p r w) (hs : w.Step w') : Handles g p r w'
  | takeUp {w : Crew (Option Response)} {job : Job} (h : Handles g p r w)
      (hj : w.plant.jobs[p.jobs.length + (w.courses.length - 1)]? = some job) :
      Handles g p r (w.join (g.jobWork job))

/-- A request was answered, and the session was settled. -/
def Answered (y : Standing) (o : Option Response) : Prop :=
  ∃ response, o = some response ∧ Gateway.Settled y response.outcome

/-- Where the courses of a request are. -/
inductive Placed (limit : Nat) : List (Work (Option Response)) → Standing → Prop
  /-- There is the request alone. -/
  | alone {k : Work (Option Response)} {x : Standing} (hk : (lifecycle limit).Conforms x k Answered)
      (hx : ∀ l, ¬ x.ByJob l) : Placed limit [k] x
  /-- There is also the job that was started for it. -/
  | withJob {k j : Work (Option Response)} {x : Standing} {s : Session} {delay : Nat}
      {clear : Option String}
      (hk : (lifecycle limit).Conforms (scheduled s delay clear) k Answered)
      (hj : (lifecycle limit).Conforms x j fun y _ => y = parting true s.link (.told none))
      (hx : x.ByJob s.link) : Placed limit [k, j] x

theorem Gateway.placed_request (g : Gateway) (r : Request) :
    Placed g.connectTimeout.toNat [g.jobWork (.request 0 r)] unopened := by
  refine .alone ?_ fun l hl => hl
  refine .bind (.pause (.bind ((g.lifecycle_handle r).mono fun y o hy => ?_)))
  exact ⟨o, rfl, hy⟩

theorem Gateway.lifecycle_job (g : Gateway) {limit : Nat} (s : Session) (delay : Nat)
    (clear : Option String) :
    (lifecycle limit).Conforms (due s.link) (g.jobWork (.disconnect s delay clear))
      fun y _ => y = parting true s.link (.told none) :=
  .bind (Session.lifecycle_disconnectLater delay clear)

namespace Placed

variable {limit : Nat} {cs : List (Work (Option Response))} {x : Standing} {i : Nat}

/-- The course that acts goes on as the protocol says, and the other one stays where it is. -/
theorem act {a : Action} {next : a.Answer → Work (Option Response)} {answer : a.Answer}
    (h : Placed limit cs x) (hc : cs[i]? = some (.ask a next)) (ha : x.Admits a answer) :
    ∃ y, Step limit x a answer y ∧ Placed limit (cs.set i (next answer)) y := by
  cases h with
  | @alone k _ hk hx =>
    obtain ⟨rfl, rfl⟩ : i = 0 ∧ k = .ask a next := by
      cases i with
      | zero => exact ⟨rfl, Option.some.inj hc⟩
      | succ i => cases hc
    obtain ⟨y, hs, hn⟩ := hk answer ha
    exact ⟨y, hs, .alone hn fun l hl => hx l (hs.byJob_iff.1 hl)⟩
  | @withJob k j _ s delay clear hk hj hx =>
    match i with
    | 0 =>
      obtain rfl := Option.some.inj hc
      -- The request is past its last say in the session, so that any answer is admitted.
      have hadm : (scheduled s delay clear).Admits a answer := by
        cases a with
        | retire l =>
          intro hl
          obtain ⟨y, hs, -⟩ := hk true fun _ => rfl
          cases hs with
          | quiet ha => exact ha.elim
          | part hx => exact hx.elim
        | _ => trivial
      obtain ⟨y, hs, hn⟩ := hk answer hadm
      obtain ⟨rfl, hall⟩ := hs.of_scheduled
      exact ⟨x, hall x, .withJob hn hj hx⟩
    | 1 =>
      obtain rfl := Option.some.inj hc
      obtain ⟨y, hs, hn⟩ := hj answer ha
      exact ⟨y, hs, .withJob hk hn (hs.byJob_iff.2 hx)⟩
    | i + 2 => cases hc

theorem goOn {ms : Nat} {next : Work (Option Response)} (h : Placed limit cs x)
    (hc : cs[i]? = some (.wait ms next)) : Placed limit (cs.set i next) x := by
  cases h with
  | @alone k _ hk hx =>
    obtain ⟨rfl, rfl⟩ : i = 0 ∧ k = .wait ms next := by
      cases i with
      | zero => exact ⟨rfl, Option.some.inj hc⟩
      | succ i => cases hc
    exact .alone hk hx
  | withJob hk hj hx =>
    match i with
    | 0 =>
      obtain rfl := Option.some.inj hc
      exact .withJob hk hj hx
    | 1 =>
      obtain rfl := Option.some.inj hc
      exact .withJob hk hj hx
    | i + 2 => cases hc

/-- What can be taken up is the job that will end the session. -/
theorem takeUp {g : Gateway} {js : List Job} {job : Job}
    (h : Placed g.connectTimeout.toNat cs x) (hx : x.Started js)
    (hj : js[cs.length - 1]? = some job) :
    ∃ s delay clear, x = scheduled s delay clear ∧
      Placed g.connectTimeout.toNat (cs ++ [g.jobWork job]) (due s.link) := by
  cases h with
  | alone hk hn =>
    have hne : js ≠ [] := by
      rintro rfl
      cases hj
    cases x with
    | scheduled s delay clear =>
      obtain rfl : js = [.disconnect s delay clear] := hx
      obtain rfl := Option.some.inj hj
      exact ⟨s, delay, clear, rfl, .withJob hk (g.lifecycle_job s delay clear) rfl⟩
    | due l => exact absurd rfl (hn l)
    | parting byJob l part =>
      cases byJob with
      | false => exact absurd hx hne
      | true => exact absurd ⟨rfl, rfl⟩ (hn l)
    | _ => exact absurd hx hne
  | withJob _ _ hb =>
    obtain ⟨s, delay, clear, rfl, -⟩ := started_of_byJob hb hx
    cases hj

end Placed

/-- What any crew of a request does is a tale of the session, and the courses are placed in it. -/
theorem Handles.tale {g : Gateway} {p : Plant} {r : Request} {w : Crew (Option Response)}
    (h : Handles g p r w) : ∃ x, Tale g.connectTimeout.toNat p w.log w.plant x ∧
      Placed g.connectTimeout.toNat w.courses x := by
  induction h with
  | start => exact ⟨unopened, .start, g.placed_request r⟩
  | step _ hs ih =>
    obtain ⟨x, ht, hp⟩ := ih
    cases hs with
    | act hc ha =>
      obtain ⟨y, hy, hp⟩ := hp.act hc (ht.admits ha)
      exact ⟨y, ht.act ha hy, hp⟩
    | goOn hc => exact ⟨x, ht, hp.goOn hc⟩
    | meet e => exact ⟨x, ht.meet e, hp⟩
  | takeUp _ hj ih =>
    obtain ⟨x, ht, hp⟩ := ih
    obtain ⟨js, hq, hx⟩ := ht.jobs
    rw [hq, List.getElem?_append_right (by omega), Nat.add_sub_cancel_left] at hj
    obtain ⟨s, delay, clear, rfl, hnew⟩ := hp.takeUp hx hj
    exact ⟨due s.link, ht.takeUp, hnew⟩

/-! ## Runs by lists of moves -/

/-- The crew after the job that was started next is taken up, if there is one. -/
def Crew.takeUp (g : Gateway) (p : Plant) (w : Crew (Option Response)) : Crew (Option Response) :=
  match w.plant.jobs[p.jobs.length + (w.courses.length - 1)]? with
  | some job => w.join (g.jobWork job)
  | none => w

theorem Crew.takeUp_of_some {g : Gateway} {p : Plant} {w : Crew (Option Response)} {job : Job}
    (h : w.plant.jobs[p.jobs.length + (w.courses.length - 1)]? = some job) :
    w.takeUp g p = w.join (g.jobWork job) := by simp only [takeUp, h]

theorem Crew.takeUp_of_none {g : Gateway} {p : Plant} {w : Crew (Option Response)}
    (h : w.plant.jobs[p.jobs.length + (w.courses.length - 1)]? = none) :
    w.takeUp g p = w := by simp only [takeUp, h]

namespace Handles

variable {g : Gateway} {p : Plant} {r : Request} {w : Crew (Option Response)}

theorem play (h : Handles g p r w) (ms : List Crew.Move) : Handles g p r (w.play ms) :=
  Crew.play_induction .step ms h

theorem next (h : Handles g p r w) : Handles g p r (w.takeUp g p) := by
  cases hj : w.plant.jobs[p.jobs.length + (w.courses.length - 1)]? with
  | some job =>
    rw [Crew.takeUp_of_some hj]
    exact h.takeUp hj
  | none =>
    rw [Crew.takeUp_of_none hj]
    exact h

end Handles

end FieldGateway
