import FieldGateway.Proofs.Gateway.Handling
import FieldGateway.Proofs.Plant.Devices

/-!
# Every session ends once

A request makes one association at most. Once it has been answered, the association was given up for
want of a model, or the session was ended, or it was left to one job that will end it; in the end
every association was given up once. A request that failed has switched no report on or off.

* `Tale.made_eq`, `Tale.released_eq`, `Tale.told_eq`, `Tale.modelless_iff`, `Tale.sparesBlocks`:
  what a tale tells of associations, listeners and reports, by how the session stands.
* `Handles.session_ends_once`: what that means for every crew of a request.
-/

namespace FieldGateway

open Standing

/-! ## What the log tells of associations -/

namespace Action

/-- The link that an action gives up. -/
def released? : Action → Option Nat
  | .release l => some l
  | _ => none

/-- The link whose listener an action tells that the session is over. -/
def told? : Action → Option Nat
  | .hangUp l => some l
  | _ => none

/-- Holds of an action, with its answer, by which a device has not told its model in time. -/
def Modelless (limit : Nat) : (a : Action) → a.Answer → Prop
  | .retrieve _, .error _ => True
  | .latency .retrieving, n => limit < Course.spell n
  | _, _ => False

end Action

namespace Entry

/-- What courses did satisfies `P`. -/
def Did (P : (a : Action) → a.Answer → Prop) (e : Entry) : Prop :=
  match e.event with
  | .did _ a answer => P a answer
  | .met _ => False

/-- What there is of what courses did. -/
def did? {α : Type} (f : (a : Action) → a.Answer → Option α) (e : Entry) : Option α :=
  match e.event with
  | .did _ a answer => f a answer
  | .met _ => none

end Entry

/-- The links that were made. -/
def made (log : List Entry) : List Nat := log.filterMap (Entry.did? Action.made)

/-- The links whose associations were given up, as often as that was done. -/
def released (log : List Entry) : List Nat := log.filterMap (Entry.did? fun a _ => a.released?)

/-- The links whose listeners were told that the session was over, as often as they were told. -/
def told (log : List Entry) : List Nat := log.filterMap (Entry.did? fun a _ => a.told?)

/-- Some device has not told its model in time. -/
def Modelless (limit : Nat) (log : List Entry) : Prop := ∃ e ∈ log, e.Did (Action.Modelless limit)

namespace Standing

variable {limit : Nat} {x y : Standing} {a : Action} {answer : a.Answer}

/-- The associations that were given up. -/
def released : Standing → List Nat
  | abandoned l | parting _ l .released | parting _ l (.told _) => [l]
  | _ => []

/-- The listeners that were told. -/
def told : Standing → List Nat
  | parting _ l (.told _) => [l]
  | _ => []

/-- The device has not told its model. -/
def IsModelless : Standing → Prop
  | lost _ | abandoned _ => True
  | _ => False

/-- No report was switched on or off. -/
def IsClean : Standing → Prop
  | unopened | linked _ | lost _ | abandoned _ | opened _ | listening _ => True
  | parting byJob _ _ => byJob = false
  | _ => False

namespace Step

theorem made_eq (h : Step limit x a answer y) :
    y.link?.toList = x.link?.toList ++ (a.made answer).toList := by
  obtain ⟨heq, hor⟩ := h.link?_eq
  rw [heq]
  rcases hor with hm | rfl
  · simp [hm]
  · cases a.made answer <;> rfl

theorem released_eq (h : Step limit x a answer y) :
    y.released = x.released ++ a.released?.toList := by
  cases h with
  | quiet ha => cases a <;> first | exact (List.append_nil _).symm | exact ha.elim
  | drain hd => rcases drain_cases hd with ⟨b, rfl⟩ | ⟨c, n, rfl⟩ | rfl <;> rfl
  | schedule hx => rcases hx.cases with rfl | rfl | ⟨n, rfl⟩ <;> rfl
  | part hx => rcases hx.cases with rfl | rfl <;> rfl
  | unenabled => exact (List.append_nil _).symm
  | _ => rfl

theorem told_eq (h : Step limit x a answer y) : y.told = x.told ++ a.told?.toList := by
  cases h with
  | quiet ha => cases a <;> first | exact (List.append_nil _).symm | exact ha.elim
  | drain hd => rcases drain_cases hd with ⟨b, rfl⟩ | ⟨c, n, rfl⟩ | rfl <;> rfl
  | schedule hx => rcases hx.cases with rfl | rfl | ⟨n, rfl⟩ <;> rfl
  | part hx => rcases hx.cases with rfl | rfl <;> rfl
  | unenabled => exact (List.append_nil _).symm
  | _ => rfl

theorem isModelless_iff (h : Step limit x a answer y) :
    y.IsModelless ↔ x.IsModelless ∨ a.Modelless limit answer := by
  cases h with
  | quiet ha =>
    have hno : ¬ a.Modelless limit answer := by
      intro hm
      cases a with
      | latency stage =>
        cases stage with
        | retrieving => exact ha rfl
        | _ => exact hm
      | retrieve l => exact ha.elim
      | _ => exact hm
    simp [hno]
  | drain hd =>
    rcases drain_cases hd with ⟨b, rfl⟩ | ⟨c, n, rfl⟩ | rfl <;>
      simp [IsModelless, Action.Modelless]
  | schedule hx =>
    rcases hx.cases with rfl | rfl | ⟨n, rfl⟩ <;> simp [IsModelless, Action.Modelless]
  | part hx => rcases hx.cases with rfl | rfl <;> simp [IsModelless, Action.Modelless]
  | inTime hn => simp [IsModelless, Action.Modelless, Nat.not_lt.2 hn]
  | late hn => simp [IsModelless, Action.Modelless, hn]
  | _ => simp [IsModelless, Action.Modelless]

/-- A session stays clean only by what spares the reports. -/
theorem clean (h : Step limit x a answer y) (hy : y.IsClean) :
    x.IsClean ∧ a.SparesBlocks answer := by
  cases h with
  | quiet ha =>
    refine ⟨hy, ?_⟩
    cases a <;> trivial
  | drain hd =>
    refine ⟨hy, ?_⟩
    rcases drain_cases hd with ⟨b, rfl⟩ | ⟨c, n, rfl⟩ | rfl <;> trivial
  | part hx =>
    rcases hx.cases with rfl | rfl <;> exact ⟨trivial, trivial⟩
  | unenabled => exact ⟨hy, trivial⟩
  | partByJob => cases hy
  | release | tell => exact ⟨hy, trivial⟩
  | _ => first | exact ⟨trivial, trivial⟩ | exact hy.elim

end Step

end Standing

namespace Tale

variable {limit : Nat} {p q : Plant} {log : List Entry} {x : Standing}

/-- What courses did is told by how the session stands, if every step tells what was done by it. -/
theorem filterMap_eq {β : Type} {f : (a : Action) → a.Answer → Option β} {F : Standing → List β}
    (h : Tale limit p log q x) (hstart : F unopened = [])
    (hstep : ∀ {x a answer y}, Step limit x a answer y → F y = F x ++ (f a answer).toList)
    (hjob : ∀ s delay clear, F (due s.link) = F (scheduled s delay clear)) :
    log.filterMap (Entry.did? f) = F x := by
  induction h with
  | start => exact hstart.symm
  | @act log q q' x y i a answer _ ha hs ih =>
    rw [List.filterMap_append, ih, hstep hs]
    cases hf : f a answer <;> simp [Entry.did?, hf]
  | meet _ e ih =>
    rw [List.filterMap_append, ih]
    exact List.append_nil _
  | takeUp _ ih => rw [ih, hjob]

theorem made_eq (h : Tale limit p log q x) : made log = x.link?.toList :=
  h.filterMap_eq (F := fun x => x.link?.toList) rfl Step.made_eq fun _ _ _ => rfl

theorem released_eq (h : Tale limit p log q x) : released log = x.released :=
  h.filterMap_eq rfl Step.released_eq fun _ _ _ => rfl

theorem told_eq (h : Tale limit p log q x) : told log = x.told :=
  h.filterMap_eq rfl Step.told_eq fun _ _ _ => rfl

theorem modelless_iff (h : Tale limit p log q x) : Modelless limit log ↔ x.IsModelless := by
  induction h with
  | start => simp [Modelless, IsModelless]
  | @act log q q' x y i a answer _ ha hs ih =>
    rw [hs.isModelless_iff, ← ih]
    simp [Modelless, Entry.Did, or_and_right, exists_or]
  | meet _ e ih =>
    rw [← ih]
    simp [Modelless, Entry.Did, or_and_right, exists_or]
  | takeUp _ ih => simpa [IsModelless] using ih

/-- While a session is clean, nobody has switched a report on or off for it. -/
theorem sparesBlocks (h : Tale limit p log q x) (hx : x.IsClean) :
    ∀ e ∈ log, (∃ i a answer, e.event = .did i a answer) → ∀ host,
      e.after.blocks? host = e.before.blocks? host := by
  induction h with
  | start => simp
  | @act log q q' x y i a answer _ ha hs ih =>
    obtain ⟨hclean, hspares⟩ := hs.clean hx
    intro e he hd host
    rcases List.mem_append.1 he with he | he
    · exact ih hclean e he hd host
    · obtain rfl := List.mem_singleton.1 he
      exact ha.blocks? hspares
  | meet _ m ih =>
    intro e he hd host
    rcases List.mem_append.1 he with he | he
    · exact ih hx e he hd host
    · obtain rfl := List.mem_singleton.1 he
      obtain ⟨i, a, answer, hd⟩ := hd
      cases hd
  | takeUp _ ih => exact hx.elim

end Tale

/-! ## Crews -/

namespace Crew

variable (w : Crew (Option Response)) (p : Plant) (link : Nat)

/-- Whether a course has ended. -/
def hasEnded (i : Nat) : Bool :=
  match w.courses[i]? with
  | some (.done _) => true
  | _ => false

/-- The jobs that were started since `p` and have not ended. -/
def unfinished : List Job :=
  ((w.plant.jobs.drop p.jobs.length).zipIdx.filter fun e => !w.hasEnded (e.2 + 1)).map (·.1)

/-- The session is over: the association was given up once, the listener was told once, and no job
is left. -/
structure Ended : Prop where
  isOpen : w.plant.isOpen link = false
  released : released w.log = [link]
  told : told w.log = [link]
  unfinished : w.unfinished p = []

/-- One job is left, which will end the session, and the request was carried out. -/
structure Left (o : Response) : Prop where
  unfinished : ∃ s delay clear, w.unfinished p = [.disconnect s delay clear] ∧ s.link = link
  success : o.outcome.isSuccess

variable {w p link}

theorem not_ended_and_left {o : Response} : ¬ (w.Ended p link ∧ w.Left p link o) := by
  rintro ⟨he, hl⟩
  obtain ⟨s, delay, clear, hu, -⟩ := hl.unfinished
  rw [he.unfinished] at hu
  cases hu

theorem unfinished_of_none (h : w.plant.jobs = p.jobs) : w.unfinished p = [] := by
  simp [unfinished, h]

theorem unfinished_of_one {job : Job} (h : w.plant.jobs = p.jobs ++ [job]) :
    w.unfinished p = if w.hasEnded 1 then [] else [job] := by
  rw [unfinished, h, List.drop_left]
  cases he : w.hasEnded 1 <;> simp [he]

end Crew

theorem Tale.ended {limit : Nat} {p : Plant} {w : Crew (Option Response)} {byJob : Bool} {l : Nat}
    (h : Tale limit p w.log w.plant (parting byJob l (.told none))) (hu : w.unfinished p = []) :
    w.Ended p l := ⟨(h.link rfl).2.2, h.released_eq, h.told_eq, hu⟩

/-- Where the courses are once the request has been answered: it has settled the session itself, or
has left it to the job. -/
theorem Placed.of_done {limit : Nat} {cs : List (Work (Option Response))} {x : Standing}
    {o : Response} (h : Placed limit cs x) (hc : cs[0]? = some (.done (some o))) :
    (cs = [.done (some o)] ∧ Gateway.Settled x o.outcome) ∨
      ∃ (j : Work (Option Response)) (s : Session), cs = [.done (some o), j] ∧
        o.outcome.isSuccess ∧ x.ByJob s.link ∧
        (lifecycle limit).Conforms x j fun y _ => y = parting true s.link (.told none) := by
  cases h with
  | alone hk hx =>
    obtain rfl := Option.some.inj hc
    obtain ⟨_, ho, hs⟩ := hk
    obtain rfl := Option.some.inj ho
    exact .inl ⟨rfl, hs⟩
  | @withJob k j _ s delay clear hk hj hx =>
    obtain rfl := Option.some.inj hc
    obtain ⟨_, ho, hs⟩ := hk
    obtain rfl := Option.some.inj ho
    exact .inr ⟨j, s, rfl, hs, hx, hj⟩

section
variable {g : Gateway} {p : Plant} {r : Request} {w : Crew (Option Response)} {o : Response}

/-- What becomes of the association of a request that was answered. -/
theorem Handles.association (hw : Handles g p r w) (hc : w.courses[0]? = some (.done (some o))) :
    made w.log = [] ∧ released w.log = [] ∨
      ∃ l, made w.log = [l] ∧
        (Modelless g.connectTimeout.toNat w.log ∧ released w.log = [l] ∨
          ¬ Modelless g.connectTimeout.toNat w.log ∧ (w.Ended p l ∨ w.Left p l o)) := by
  obtain ⟨x, ht, hp⟩ := hw.tale
  obtain ⟨js, hjobs, hstarted⟩ := ht.jobs
  rw [ht.modelless_iff, ht.made_eq, ht.released_eq]
  rcases hp.of_done hc with ⟨hcs, hs⟩ | ⟨j, s, hcs, hsuccess, hx, hj⟩
  · have hnone : w.hasEnded 1 = false := by rw [Crew.hasEnded, hcs]; rfl
    cases x with
    | unopened => exact .inl ⟨rfl, rfl⟩
    | abandoned l => exact .inr ⟨l, rfl, .inl ⟨trivial, rfl⟩⟩
    | scheduled s delay clear =>
      obtain rfl : js = [.disconnect s delay clear] := hstarted
      have hu := Crew.unfinished_of_one hjobs
      rw [hnone] at hu
      exact .inr ⟨s.link, rfl, .inr ⟨False.elim, .inr ⟨⟨s, delay, clear, hu, rfl⟩, hs⟩⟩⟩
    | parting byJob l part =>
      match byJob, part, hs with
      | false, .told none, _ =>
        obtain rfl : js = [] := hstarted
        have hu := Crew.unfinished_of_none (hjobs.trans (List.append_nil _))
        exact .inr ⟨l, rfl, .inr ⟨False.elim, .inl (ht.ended hu)⟩⟩
    | _ => exact hs.elim
  · -- The session was left to a job, which has ended with it or has not ended.
    have hlink : x.link? = some s.link ∧ ¬ x.IsModelless := by
      cases x with
      | due l => exact ⟨congrArg some hx, False.elim⟩
      | parting byJob l part => exact ⟨congrArg some hx.2, False.elim⟩
      | _ => exact hx.elim
    obtain ⟨s', delay, clear, rfl, hs'⟩ := started_of_byJob hx hstarted
    have hu := Crew.unfinished_of_one hjobs
    rw [hlink.1]
    refine .inr ⟨s.link, rfl, .inr ⟨hlink.2, ?_⟩⟩
    cases hend : w.hasEnded 1 with
    | false =>
      rw [hend] at hu
      exact .inr ⟨⟨s', delay, clear, hu, hs'⟩, hsuccess⟩
    | true =>
      rw [hend] at hu
      simp only [Crew.hasEnded, hcs, List.getElem?_cons_succ, List.getElem?_cons_zero] at hend
      cases j with
      | done a =>
        obtain rfl : x = parting true s.link (.told none) := hj
        exact .inl (ht.ended hu)
      | ask a next => cases hend
      | wait ms next => cases hend

theorem Handles.unfinished_of_done {c : Work (Option Response)} {a : Option Response}
    (hw : Handles g p r w) (hc : w.courses = [c, .done a]) : w.unfinished p = [] := by
  obtain ⟨x, ht, hp⟩ := hw.tale
  obtain ⟨js, hjobs, hstarted⟩ := ht.jobs
  rw [hc] at hp
  cases hp with
  | withJob _ _ hx =>
    obtain ⟨s, delay, clear, rfl, -⟩ := started_of_byJob hx hstarted
    rw [Crew.unfinished_of_one hjobs]
    simp [Crew.hasEnded, hc]

/-- A job that was left can be taken up and brought to its end. -/
theorem Handles.exists_play (hw : Handles g p r w)
    (hc : w.courses[0]? = some (.done (some o))) :
    ∃ ms, ((w.takeUp g p).play ms).unfinished p = [] := by
  have brings : ∀ c j, (w.takeUp g p).courses = [c, j] →
      ∃ ms, ((w.takeUp g p).play ms).unfinished p = [] := by
    intro c j hcs
    obtain ⟨ms, a, hms⟩ := (w.takeUp g p).exists_play_done (i := 1) (by rw [hcs]; rfl)
    rw [hcs] at hms
    exact ⟨ms, (hw.next.play ms).unfinished_of_done hms⟩
  obtain ⟨x, ht, hp⟩ := hw.tale
  obtain ⟨js, hjobs, hstarted⟩ := ht.jobs
  have hat : ∀ k, w.plant.jobs[p.jobs.length + k]? = js[k]? := by
    intro k
    rw [hjobs, List.getElem?_append_right (by omega), Nat.add_sub_cancel_left]
  rcases hp.of_done hc with ⟨hcs, -⟩ | ⟨j, s, hcs, -, hx, -⟩
  · cases hjs : js[0]? with
    | none =>
      have hnone : w.takeUp g p = w := Crew.takeUp_of_none (by rw [hat, hcs]; exact hjs)
      obtain rfl : js = [] := by simpa using hjs
      exact ⟨[], by rw [hnone]; exact Crew.unfinished_of_none (hjobs.trans (List.append_nil _))⟩
    | some job =>
      have hsome : w.takeUp g p = w.join (g.jobWork job) :=
        Crew.takeUp_of_some (by rw [hat, hcs]; exact hjs)
      exact brings _ _ (by rw [hsome, Crew.join, hcs]; rfl)
  · obtain ⟨s', delay, clear, rfl, -⟩ := started_of_byJob hx hstarted
    have hnone : w.takeUp g p = w := Crew.takeUp_of_none (by rw [hat, hcs]; rfl)
    exact brings _ _ (by rw [hnone, hcs])

/-- A request that failed has switched no report on or off. -/
theorem Handles.sparesBlocks (hw : Handles g p r w) (hc : w.courses[0]? = some (.done (some o)))
    (ho : o.outcome.isSuccess = false) : ∀ e ∈ w.log,
      (∃ i a answer, e.event = .did i a answer) → ∀ host,
        e.after.blocks? host = e.before.blocks? host := by
  obtain ⟨x, ht, hp⟩ := hw.tale
  refine ht.sparesBlocks ?_
  rcases hp.of_done hc with ⟨-, hs⟩ | ⟨j, s, -, hsuccess, -, -⟩
  · cases x with
    | unopened | abandoned l => trivial
    | scheduled s delay clear =>
      have hs : o.outcome.isSuccess = true := hs
      rw [ho] at hs
      cases hs
    | parting byJob l part =>
      match byJob, part, hs with
      | false, .told none, _ => rfl
    | _ => exact hs.elim
  · rw [ho] at hsuccess
    cases hsuccess

/-- Whatever fails and however long anything takes, a request makes one association at most. Once it
was answered, the association was given up once if the device has not told its model; otherwise the
session is over, or it is left to one job, but not both. When no job is left, to which the crew can
always be brought, every association was given up once. If the request failed, it has changed no
report control block of any device. -/
theorem Handles.session_ends_once (hw : Handles g p r w) :
    (made w.log).length ≤ 1 ∧
    ∀ o, w.courses[0]? = some (.done (some o)) →
      (∀ l ∈ made w.log,
        (Modelless g.connectTimeout.toNat w.log → released w.log = [l]) ∧
        (¬ Modelless g.connectTimeout.toNat w.log →
          (w.Ended p l ∨ w.Left p l o) ∧ ¬ (w.Ended p l ∧ w.Left p l o))) ∧
      (w.unfinished p = [] → released w.log = made w.log) ∧
      (∃ ms, ((w.takeUp g p).play ms).unfinished p = []) ∧
      (o.outcome.isSuccess = false → ∀ e ∈ w.log, (∃ i a answer, e.event = .did i a answer) →
        ∀ host, e.after.blocks? host = e.before.blocks? host) := by
  refine ⟨?_, fun o hc => ⟨?_, ?_, hw.exists_play hc, hw.sparesBlocks hc⟩⟩
  · obtain ⟨x, ht, -⟩ := hw.tale
    rw [ht.made_eq]
    cases x.link? <;> simp
  · intro l hl
    rcases hw.association hc with ⟨hmade, -⟩ | ⟨k, hmade, h⟩
    · rw [hmade] at hl
      cases hl
    · rw [hmade] at hl
      obtain rfl := List.mem_singleton.1 hl
      rcases h with ⟨hm, hr⟩ | ⟨hm, he⟩
      · exact ⟨fun _ => hr, fun hn => absurd hm hn⟩
      · exact ⟨fun h => absurd h hm, fun _ => ⟨he, Crew.not_ended_and_left⟩⟩
  · intro hu
    rcases hw.association hc with ⟨hmade, hr⟩ | ⟨l, hmade, ⟨-, hr⟩ | ⟨-, he | hl⟩⟩
    · rw [hmade, hr]
    · rw [hmade, hr]
    · rw [hmade, he.released]
    · obtain ⟨s, delay, clear, hleft, -⟩ := hl.unfinished
      rw [hu] at hleft
      cases hleft

end

/-- A streetlight controller with nothing but the report of its events. -/
def Plant.controller : Plant :=
  let d : Device := .ofIdentity ⟨"SSLD-1", "10.0.0.1", .streetlightController, none⟩
  let block : ControlBlock := .fresh "SWDeviceGenericIO/LLN0.evn_rpn01" true
  Plant.start (.ofList [d]) (Network.empty.insert "10.0.0.1" (.ofModel ⟨[], [block], []⟩)) 0 ""

/-- It is to report its events. -/
def Request.reportEvents : Request := ⟨"1", "platform", "SSLD-1", .enableReporting⟩

/-- It was asked to; the session was left to a job, which has ended it. -/
def Crew.reported : Crew (Option Response) :=
  let w : Crew (Option Response) :=
    ⟨.controller, [Gateway.standard.jobWork (.request 0 .reportEvents)], []⟩
  ((w.play (List.replicate 20 (.go 0))).takeUp .standard .controller).play
    (List.replicate 20 (.go 1))

theorem Handles.session_ends_once_reported :
    Handles .standard .controller .reportEvents Crew.reported ∧
      Crew.reported.hasEnded 0 = true ∧ Crew.reported.unfinished .controller = [] ∧
      made Crew.reported.log = [0] ∧ (made Crew.reported.log).length ≤ 1 ∧
      ∀ o, Crew.reported.courses[0]? = some (.done (some o)) →
        (¬ Modelless Gateway.standard.connectTimeout.toNat Crew.reported.log →
          Crew.reported.Ended .controller 0 ∨ Crew.reported.Left .controller 0 o) ∧
        released Crew.reported.log = made Crew.reported.log := by
  have hw : Handles .standard .controller .reportEvents Crew.reported :=
    ((start.play _).next).play _
  have hmade : made Crew.reported.log = [0] := by decide +kernel
  have hu : Crew.reported.unfinished .controller = [] := by decide +kernel
  obtain ⟨hone, hends⟩ := hw.session_ends_once
  refine ⟨hw, by decide +kernel, hu, hmade, hone, fun o hc => ?_⟩
  obtain ⟨hlink, hreleased, -⟩ := hends o hc
  exact ⟨fun hm => ((hlink 0 (by rw [hmade]; exact List.mem_singleton.2 rfl)).2 hm).1,
    hreleased hu⟩

end FieldGateway
