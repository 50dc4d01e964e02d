import FieldGateway.Proofs.Gateway.Transparency
import FieldGateway.Proofs.Plant.Nodes

/-!
# What attempts make of a device

What is asked over a link reaches one device, and of what that device offers only its nodes matter.
An attempt that is begun while they are of one kind leaves them of another kind, depending on how it
ends; nothing else happens in the meantime but that the clock goes on.

* `Attempt.Meets`: what an attempt makes of the model at the far end of a link.
* `Session.meets_read`, `Session.meets_write`: requests over a session.
* `Attempt.Meets.bind`, `Attempt.Meets.mapM`, `Attempt.Meets.retried`: attempts put together.
-/

namespace FieldGateway

variable {α β : Type} {clock : Nat → Int64} {link : Nat} {host : String} {K K' : ServerModel → Prop}

/-- The link leads to the address, and the model of the device there is of a kind, apart from the
report control blocks. -/
structure Plant.Has (link : Nat) (host : String) (K : ServerModel → Prop) (p : Plant) : Prop where
  leads : p.host? link = some host
  offers : ∃ m, p.plain? host = some m ∧ K m

namespace Plant.Has

variable {p q : Plant}

theorem mono (h : p.Has link host K) (hK : ∀ m, K m → K' m) : p.Has link host K' := by
  obtain ⟨m, hm, hkind⟩ := h.offers
  exact ⟨h.leads, m, hm, hK m hkind⟩

theorem runBy {w : Work α} (h : p.Has link host K) (hw : w.Within Action.SparesNodes)
    (clock : Nat → Int64) : (p.runBy clock w).2.Has link host K := by
  obtain ⟨m, hm, hkind⟩ := h.offers
  exact ⟨host?_runBy w h.leads, m, by rw [plain?_runBy hw, hm], hkind⟩

theorem plain?_of_alike (h : q.Alike p) (host : String) : q.plain? host = p.plain? host := by
  have hplain := congrArg (Option.map fun d : Ied => d.model.plain) (h.devices host)
  rwa [Option.map_map, Option.map_map] at hplain

theorem of_alike (h : p.Has link host K) (halike : q.Alike p) : q.Has link host K := by
  obtain ⟨m, hm, hkind⟩ := h.offers
  exact ⟨(host?_congr halike.links).trans h.leads, m, (plain?_of_alike halike host).trans hm, hkind⟩

theorem of_far {host' : String} {d : Ied} (hfar : p.far link = .ok (host', d)) :
    p.host? link = some host' ∧ p.plain? host' = some d.model.plain :=
  ⟨host?_of_far hfar, by rw [plain?, find?_far hfar]; rfl⟩

/-- The device at the far end is the one at the address. -/
theorem far (h : p.Has link host K) {host' : String} {d : Ied}
    (hfar : p.far link = .ok (host', d)) : host' = host ∧ K d.model.plain := by
  obtain ⟨hhost, hplain⟩ := of_far hfar
  obtain ⟨m, hm, hkind⟩ := h.offers
  obtain rfl : host' = host := Option.some.inj (hhost.symm.trans h.leads)
  obtain rfl : d.model.plain = m := Option.some.inj (hplain.symm.trans hm)
  exact ⟨rfl, hkind⟩

end Plant.Has

/-- Begun while the model at the far end of the link is in `K`, the attempt succeeds with a model in
`Q`, or fails with one in `E`. -/
structure Attempt.Meets (clock : Nat → Int64) (link : Nat) (host : String) (K : ServerModel → Prop)
    (v : Attempt α) (Q : α → ServerModel → Prop) (E : Failure → ServerModel → Prop) : Prop where
  after : ∀ p : Plant, p.Has link host K → match (p.runBy clock v.run).1 with
    | .ok a => (p.runBy clock v.run).2.Has link host (Q a)
    | .error e => (p.runBy clock v.run).2.Has link host (E e)

namespace Attempt.Meets

variable {v : Attempt α} {Q Q' : α → ServerModel → Prop} {E E' : Failure → ServerModel → Prop}

theorem mono (h : Meets clock link host K v Q E) (hK : ∀ m, K' m → K m)
    (hQ : ∀ a m, Q a m → Q' a m) (hE : ∀ e m, E e m → E' e m) :
    Meets clock link host K' v Q' E' := by
  refine ⟨fun p hp => ?_⟩
  have hv := h.after p (hp.mono hK)
  cases hx : (p.runBy clock v.run).1 with
  | ok a =>
    rw [hx] at hv
    exact hv.mono (hQ a)
  | error e =>
    rw [hx] at hv
    exact hv.mono (hE e)

theorem imp (h : Meets clock link host K v Q E) (hQ : ∀ a m, Q a m → Q' a m)
    (hE : ∀ e m, E e m → E' e m) : Meets clock link host K v Q' E' := h.mono (fun _ => id) hQ hE

theorem imp_error (h : Meets clock link host K v Q E) (hE : ∀ e m, E e m → E' e m) :
    Meets clock link host K v Q E' := h.imp (fun _ _ => id) hE

/-- A fact about the model at the beginning that does not depend on it may be used. -/
theorem of_imp {X : Prop} (h : ∀ m, K m → X) (hv : X → Meets clock link host K v Q E) :
    Meets clock link host K v Q E := by
  refine ⟨fun p hp => ?_⟩
  obtain ⟨m, -, hm⟩ := hp.offers
  exact (hv (h m hm)).after p hp

theorem pure {a : α} (h : ∀ m, K m → Q a m) : Meets clock link host K (pure a) Q E :=
  ⟨fun _ hp => hp.mono h⟩

theorem throw {e : Failure} (h : ∀ m, K m → E e m) :
    Meets clock link host K (throw e : Attempt α) Q E := ⟨fun _ hp => hp.mono h⟩

theorem bind {R : β → ServerModel → Prop} {w : Attempt β} {f : β → Attempt α}
    (h : Meets clock link host K w R E) (hf : ∀ b, Meets clock link host (R b) (f b) Q E) :
    Meets clock link host K (w >>= f) Q E := by
  refine ⟨fun p hp => ?_⟩
  have hw := h.after p hp
  rw [Plant.runBy_andThen]
  cases hx : (p.runBy clock w.run).1 with
  | ok b =>
    rw [hx] at hw
    exact (hf b).after _ hw
  | error e =>
    rw [hx] at hw
    exact hw

/-- A course cannot fail, and leaves the model alone if it writes no node. -/
theorem lift {w : Work α} (hw : w.Within Action.SparesNodes) :
    Meets clock link host K (liftM w) (fun _ => K) fun _ _ => False := by
  refine ⟨fun p hp => ?_⟩
  have hrun : p.runBy clock (liftM w : Attempt α).run =
      (.ok (p.runBy clock w).1, (p.runBy clock w).2) := Plant.runBy_bind w _ p
  rw [hrun]
  exact hp.runBy hw clock

theorem ofMisfit {x : Except Misfit α} : Meets clock link host K (ofMisfit x)
    (fun a m => K m ∧ x = .ok a) fun e m => K m ∧ ∃ y, x = .error y ∧ e = .configuration y := by
  cases x with
  | ok a => exact pure fun m hm => ⟨hm, rfl⟩
  | error y => exact throw fun m hm => ⟨hm, y, rfl, rfl⟩

theorem ofExcept {x : Except Failure α} : Meets clock link host K (ofExcept x)
    (fun a m => K m ∧ x = .ok a) fun e m => K m ∧ x = .error e := by
  cases x with
  | ok a => exact pure fun m hm => ⟨hm, rfl⟩
  | error e => exact throw fun m hm => ⟨hm, rfl⟩

/-! ## Lists -/

/-- The same attempt for each of a list, where `I` tells what those that are done have made of the
model. -/
theorem forM {f : β → Attempt Unit} {I : List β → ServerModel → Prop} (l : List β)
    (h : ∀ done b, Meets clock link host (I done) (f b) (fun _ => I (done ++ [b])) E) :
    ∀ done, Meets clock link host (I done) (l.forM f) (fun _ => I (done ++ l)) E := by
  induction l with
  | nil => exact fun done => pure fun m hm => by rwa [List.append_nil]
  | cons b l ih =>
    intro done
    refine bind (h done b) fun _ => ?_
    have hrest := ih (done ++ [b])
    rwa [List.append_assoc, List.singleton_append] at hrest

theorem mapM {f : β → Attempt α} {I : List β → ServerModel → Prop} {R : β → α → Prop} (l : List β)
    (h : ∀ done b, Meets clock link host (I done) (f b)
      (fun a m => I (done ++ [b]) m ∧ R b a) E) :
    ∀ done, Meets clock link host (I done) (l.mapM f)
      (fun as m => I (done ++ l) m ∧ List.Forall₂ R l as) E := by
  induction l with
  | nil => exact fun done => pure fun m hm => ⟨by rwa [List.append_nil], .nil⟩
  | cons b l ih =>
    intro done
    rw [List.mapM_cons]
    refine bind (h done b) fun a => ?_
    refine of_imp (fun m hm => hm.2) fun ha => ?_
    have hrest := ih (done ++ [b])
    rw [List.append_assoc, List.singleton_append] at hrest
    refine bind (hrest.mono (fun m hm => hm.1) (fun _ _ => id) fun _ _ => id) fun as => ?_
    exact pure fun m hm => ⟨hm.1, .cons ha hm.2⟩

/-! ## Trying again -/

section
open Policy

theorem within_spares_count (c : Counter) :
    (Paced.count c : Work Unit).Within Action.SparesNodes :=
  Course.within_query (trivial : (Action.count c 1).SparesNodes)

/-- What is told of the last attempt is as good as the attempt itself. -/
theorem concluded {X : Prop} (n : Nat)
    (h : Meets clock link host K v Q fun e m => K m ∧ (e.isMisfit = true → X)) :
    Meets clock link host K (ExceptT.mk (v.run >>= conclude n)) Q
      fun e m => K m ∧ (e.isMisfit = true → X) := by
  have hspares : ∀ x : Except Failure α, (conclude (m := Work) n x).Within Action.SparesNodes :=
    fun x => Course.Within.bind (within_spares_count _) fun _ => Course.within_pure _
  refine ⟨fun p hp => ?_⟩
  have hv := h.after p hp
  rw [ExceptT.run_mk, Plant.runBy_bind]
  cases hx : (p.runBy clock v.run).1 with
  | ok a =>
    rw [hx] at hv
    exact hv.runBy (hspares _) clock
  | error e =>
    rw [hx] at hv
    refine (hv.runBy (hspares (.error e)) clock).mono fun m hm => ⟨hm.1, fun hmisfit => hm.2 ?_⟩
    by_cases hretry : e.severity = .retryable
    · simp only [hretry, if_true] at hmisfit
      cases hmisfit
    · simpa only [hretry, if_false] using hmisfit

/-- A failed attempt leaves the model of the kind it was, so that any number of them does. That
something does not fit is told at once. -/
theorem retried {X : Prop} (policy : Policy)
    (h : Meets clock link host K v Q fun e m => K m ∧ (e.isMisfit = true → X)) :
    Meets clock link host K (Attempt.retried policy v) Q
      fun e m => K m ∧ (e.isMisfit = true → X) := by
  refine ⟨fun p hp => ?_⟩
  unfold Attempt.retried execute
  generalize policy.attempts - 1 = left
  generalize 0 = tried
  induction left generalizing tried p with
  | zero => exact (concluded (tried + 1) h).after p hp
  | succ left ih =>
    rw [ExceptT.run_mk]
    cases hrefused : isRefusal (p.runBy clock v.run).1 with
    | false =>
      rw [Persists.runBy_executeFrom policy tried (left + 1) hrefused, ← Plant.runBy_bind]
      exact (concluded (tried + 1) h).after p hp
    | true =>
      rw [executeFrom, Plant.runBy_bind]
      simp only [hrefused, if_true]
      rw [Plant.runBy_bind, Plant.runBy_bind]
      have hv := h.after p hp
      obtain ⟨e, he⟩ : ∃ e, (p.runBy clock v.run).1 = .error e := by
        cases hx : (p.runBy clock v.run).1 with
        | ok a => simp [hx, isRefusal] at hrefused
        | error e => exact ⟨e, rfl⟩
      rw [he] at hv
      have hkind : (p.runBy clock v.run).2.Has link host K := hv.mono fun m hm => hm.1
      have hcounted := hkind.runBy (within_spares_count .commandRetries) clock
      exact ih _ (hcounted.runBy (Course.within_pause _) clock) _

end

/-- What does not fit is passed over, and any other failure is told. -/
theorem passOver (entry : String) (h : Meets clock link host K v Q E) :
    Meets clock link host K (Gateway.passOver entry v)
      (fun x m => match x with
        | .ok a => Q a m
        | .error text => text = entry ∧ ∃ e, e.isMisfit = true ∧ E e m)
      fun e m => E e m ∧ e.isMisfit = false := by
  refine ⟨fun p hp => ?_⟩
  have hv := h.after p hp
  rw [Gateway.runBy_passOver]
  cases hx : (p.runBy clock v.run).1 with
  | ok a =>
    rw [hx] at hv
    exact hv
  | error e =>
    rw [hx] at hv
    cases hmisfit : e.isMisfit with
    | true =>
      have hcount : (Action.count .filtersSkipped 1).perform.Within Action.SparesNodes :=
        Course.within_query trivial
      simp only [hmisfit, if_true]
      exact (hv.runBy hcount clock).mono fun m hm => ⟨trivial, e, hmisfit, hm⟩
    | false =>
      simp only [hmisfit, Bool.false_eq_true, if_false]
      exact hv.mono fun m hm => ⟨hm, trivial⟩

end Attempt.Meets

theorem Action.sparesNodes_of_opens {listener : Listener} {a : Action} (h : a.Opens listener) :
    a.SparesNodes := by
  cases a <;> first | trivial | exact h.1.elim

/-! ## Requests over a session -/

namespace Session

open Attempt

/-- What is read is the node as the device has it. -/
theorem meets_read (s : Session) (a : Address) : Meets clock s.link host K (s.read a)
    (fun node m => K m ∧ ∃ place, s.locate a = .ok place ∧
      m.findNode? place.reference a.constraint = some node)
    fun e m => K m ∧ (e.isMisfit = true → ∃ x, s.locate a = .error x) := by
  refine ⟨fun p hp => ?_⟩
  have halike := Plant.alike_runBy (s.within_idle_read a) clock p
  rcases s.cases_read a clock p with ⟨node, hok, place, far, d, hplace, hfar, hnode⟩ | ⟨e, he, hm⟩
  · rw [hok]
    obtain ⟨rfl, -⟩ := hp.far hfar
    obtain ⟨hhost, hplain⟩ := Plant.Has.of_far hfar
    rw [constraint_of_locate hplace] at hnode
    refine Plant.Has.of_alike ⟨hhost, d.model.plain, hplain, (hp.far hfar).2, ?_⟩ halike
    exact ⟨place, hplace, hnode⟩
  · rw [he]
    exact (hp.of_alike halike).mono fun m hkind => ⟨hkind, hm⟩

/-- What is written is the node as the device offered it, with the value. -/
theorem meets_write {R : ServerModel → Prop} (s : Session) (a : Address) (path : String)
    (value : Value) (hK : ∀ m place, K m → s.locate a = .ok place →
      (m.findNode? place.reference a.constraint).isSome →
      R (Ied.written m (place.set path value))) :
    Meets clock s.link host K (s.write a path value)
      (fun _ m => R m ∧ ∃ place, s.locate a = .ok place)
      fun e m => K m ∧ (e.isMisfit = true → ∃ x, s.locate a = .error x) := by
  refine ⟨fun p hp => ?_⟩
  rcases s.cases_write a path value clock p with
    ⟨place, far, d, d', hok, hplace, hfar, hfind, hfar', hmodel⟩ | ⟨e, he, hm⟩
  · rw [hok]
    obtain ⟨rfl, hkind⟩ := hp.far hfar
    obtain ⟨hhost', hplain'⟩ := Plant.Has.of_far hfar'
    rw [constraint_of_locate hplace] at hfind
    refine ⟨hhost', d'.model.plain, hplain', ?_, place, hplace⟩
    rw [hmodel, Ied.plain_written]
    exact hK d.model.plain place hkind hplace hfind
  · rw [he]
    exact (hp.of_alike (s.isAtomic_write a path value p e he)).mono fun m hkind => ⟨hkind, hm⟩

/-! ## Opening a session -/

theorem cases_within (limit : UInt64) (stage : Stage) (w : Work α) (p : Plant) :
    (∃ q : Plant, q.Alike p ∧ p.runBy clock (within limit stage w) =
      (some (q.runBy clock w).1, (q.runBy clock w).2)) ∨
      (p.runBy clock (within limit stage w)).1 = none := by
  have hidle : (Action.latency stage).IsIdle := trivial
  have htold := Plant.alike_runBy (Course.within_query hidle) clock p
  unfold within
  rw [Plant.runBy_bind]
  generalize p.runBy clock (Action.latency stage).perform = told at htold ⊢
  split
  · have hpaused := Plant.alike_runBy (Course.within_pause told.1) clock told.2
    refine .inl ⟨_, hpaused.trans htold, ?_⟩
    rw [Plant.runBy_bind, Plant.runBy_bind]
    rfl
  · exact .inr (congrArg Prod.fst (Plant.runBy_bind _ _ told.2))

theorem not_ok_refuse (f : Failure) (p : Plant) (a : α) :
    (p.runBy clock (refuse f : Attempt α).run).1 ≠ .ok a := by
  unfold refuse
  rw [Plant.runBy_liftThen]
  exact fun h => by cases h

variable {p : Plant} {i : Identity} {a : Approach} {listener : Listener}

theorem has_of_associate (h : (p.runBy clock (associate i a listener).run).1 = .ok link) :
    ∃ m, p.plain? i.host = some m ∧
      (p.runBy clock (associate i a listener).run).2.Has link i.host (· = m) := by
  unfold associate at h ⊢
  rw [Plant.runBy_liftThen] at h ⊢
  rcases cases_within a.limit .associating (Action.associate i.host a.port listener).perform p with
    ⟨q, hq, hrun⟩ | hnone
  · rw [hrun] at h ⊢
    let r := q.showing clock
    have hr : r.Alike p := (Plant.alike_showing clock q).trans hq
    have hanswer : (q.runBy clock (Action.associate i.host a.port listener).perform) =
      r.perform (.associate i.host a.port listener) := rfl
    rw [hanswer] at h ⊢
    cases hx : (r.perform (.associate i.host a.port listener)).1 with
    | error f =>
      rw [hx] at h
      exact absurd h (not_ok_refuse _ _ _)
    | ok l =>
      rw [hx] at h
      obtain rfl : l = link := Except.ok.inj h
      have hok : (r.associate i.host a.port listener false).1 = .ok l := hx
      obtain ⟨hlength, hlinks⟩ := Plant.associate_of_ok hok
      obtain ⟨d, hd⟩ : ∃ d, r.network.find? i.host = some d := by
        unfold Plant.associate Network.reach at hok
        cases hd : r.network.find? i.host with
        | none => simp [hd] at hok
        | some d => exact ⟨d, rfl⟩
      have hplain : r.plain? i.host = p.plain? i.host :=
        (Plant.Has.plain?_of_alike hr i.host)
      have hm : r.plain? i.host = some d.model.plain := by rw [Plant.plain?, hd]; rfl
      refine ⟨d.model.plain, hplain.symm.trans hm, ?_, d.model.plain, ?_, rfl⟩
      · have hhost : (r.associate i.host a.port listener false).2.host? l = some i.host := by
          simp [Plant.host?, hlinks, hlength]
        exact hhost
      · have hspares : (Action.associate i.host a.port listener).SparesNodes := trivial
        exact (Plant.plain?_perform hspares i.host).trans hm
  · rw [hnone] at h
    exact absurd h (not_ok_refuse _ _ _)

theorem model_of_retrieve {limit : UInt64} {model : ServerModel} (hp : p.Has link host K)
    (h : (p.runBy clock (retrieve link limit).run).1 = .ok model) : K model.plain := by
  have hfails : ∀ (f : Failure) (p : Plant), (p.runBy clock
      (do (Action.release link).perform; refuse f : Attempt ServerModel).run).1 ≠ .ok model := by
    intro f p
    rw [Plant.runBy_liftThen]
    exact not_ok_refuse f _ model
  unfold retrieve at h
  rw [Plant.runBy_liftThen] at h
  rcases cases_within limit .retrieving (Action.retrieve link).perform p with ⟨q, hq, hrun⟩ | hnone
  · rw [hrun] at h
    let r := q.showing clock
    have hr : r.Has link host K := hp.of_alike ((Plant.alike_showing clock q).trans hq)
    have hanswer : q.runBy clock (Action.retrieve link).perform = r.perform (.retrieve link) := rfl
    rw [hanswer] at h
    cases hx : (r.perform (.retrieve link)).1 with
    | error f =>
      rw [hx] at h
      exact absurd h (hfails _ _)
    | ok m =>
      rw [hx] at h
      obtain rfl : m = model := Except.ok.inj h
      have hx : (r.retrieve link).1 = .ok m := hx
      unfold Plant.retrieve at hx
      split at hx
      · cases hx
      · obtain ⟨far, d, d', hfar, hd, -⟩ := Plant.ask_ok (Prod.ext hx rfl)
        cases hd
        exact (hr.far hfar).2
  · rw [hnone] at h
    exact absurd h (hfails _ _)

/-- A session that was opened leads to the device, and its model is the one that the device is taken
to have, or else the one that it has. -/
theorem has_of_connect {s : Session} (h : (p.runBy clock (connect i a listener).run).1 = .ok s) :
    ∃ m, p.plain? i.host = some m ∧ s.identity = i ∧
      s.model.plain = (a.template.map ServerModel.plain).getD m ∧
      (p.runBy clock (connect i a listener).run).2.Has s.link i.host (· = m) := by
  unfold connect at h ⊢
  obtain ⟨link, hlink, hrun⟩ := Plant.ok_of_andThen h
  obtain ⟨m, hm, hhas⟩ := has_of_associate hlink
  rw [hrun] at h ⊢
  generalize (p.runBy clock (associate i a listener).run).2 = q at h hhas ⊢
  have hopened : ∀ (q : Plant) (model : ServerModel), q.Has link i.host (· = m) →
      (q.runBy clock (do Paced.count (m := Work) .sessionsOpened; return ⟨i, model, link⟩ :
        Attempt Session).run).1 = .ok ⟨i, model, link⟩ ∧
      (q.runBy clock (do Paced.count (m := Work) .sessionsOpened; return ⟨i, model, link⟩ :
        Attempt Session).run).2.Has link i.host (· = m) := by
    intro q model hq
    refine ⟨rfl, hq.runBy (Attempt.within_bind (Attempt.within_lift ?_) fun _ =>
      Attempt.within_pure _) clock⟩
    exact Course.within_query (trivial : (Action.count .sessionsOpened 1).SparesNodes)
  cases htemplate : a.template with
  | some t =>
    simp only [htemplate] at h ⊢
    obtain ⟨hok, hafter⟩ := hopened q t hhas
    obtain rfl := Except.ok.inj (hok.symm.trans h)
    exact ⟨m, hm, rfl, rfl, hafter⟩
  | none =>
    simp only [htemplate] at h ⊢
    obtain ⟨model, hmodel, hrun⟩ := Plant.ok_of_andThen h
    rw [hrun] at h ⊢
    have hopens : Course.Within (Action.Opens listener) (retrieve link a.limit).run :=
      within_opens_retrieve link a.limit
    have hretrieved := hhas.runBy (hopens.mono fun _ => Action.sparesNodes_of_opens) clock
    obtain ⟨hok, hafter⟩ := hopened _ model hretrieved
    obtain rfl := Except.ok.inj (hok.symm.trans h)
    exact ⟨m, hm, rfl, model_of_retrieve hhas hmodel, hafter⟩

end Session

/-! ## Requests that succeed -/

namespace Gateway

theorem within_spares_collectEvents (g : Gateway) (s : Session) :
    Course.Within Action.SparesNodes (g.collectEvents s).run :=
  (g.within_steady_collectEvents s).mono fun a ha => by cases a <;> trivial

theorem within_spares_conclude (g : Gateway) (s : Session) (d : Device)
    (result : Except Failure (Payload × Ending)) :
    Course.Within Action.SparesNodes (g.conclude s d result).run :=
  (g.within_closing_conclude s d result).mono fun a ha => by cases a <;> trivial

/-- How a request succeeds: its device is known and there, a session with it is opened, and the
operation is carried out. Nothing is written but by the operation. -/
structure Succeeds (clock : Nat → Int64) (g : Gateway) (p : Plant) (r : Request) (d : Device)
    (s : Session) (m : ServerModel) (payload : Payload) (ending : Ending) (opened : Plant) :
    Prop where
  known : p.registry.find? r.deviceId = some d
  there : p.plain? d.identity.host = some m
  identity : s.identity = d.identity
  /-- The session goes by the model that the device is taken to have, or else by the one it has. -/
  offered : s.model.plain = (g.template.map ServerModel.plain).getD m
  opens : opened.Has s.link d.identity.host (· = m)
  carries : (opened.runBy clock (g.carryOut s d r.operation).run).1 = .ok (payload, ending)
  tells : (p.runBy clock (g.handle r)).1 = r.respond (.success payload)
  leaves : ∀ K, (opened.runBy clock (g.carryOut s d r.operation).run).2.Has s.link
    d.identity.host K → (p.runBy clock (g.handle r)).2.Has s.link d.identity.host K

variable {g : Gateway} {p : Plant} {r : Request} {d : Device} {s : Session} {m : ServerModel}
  {payload : Payload} {ending : Ending} {opened : Plant}

theorem find?_of_findDevice {id : String}
    (h : (p.runBy clock (findDevice id).run).1 = .ok d) : p.registry.find? id = some d := by
  unfold findDevice at h
  rw [Plant.runBy_liftThen] at h
  have hanswer : (p.runBy clock (Action.findDevice id).perform).1 =
      (if p.findFaults.head?.getD false then .error .locked else .ok (p.registry.find? id)) := rfl
  rw [hanswer] at h
  split at h
  · next hfault =>
    split at hfault
    · cases h
    · cases h
  · cases h
  · next found hfound =>
    split at hfound
    · cases hfound
    · obtain rfl : found = d := Except.ok.inj h
      exact Except.ok.inj hfound

/-- What ends the session adds nothing to what the operation came to. -/
theorem ok_of_conclude {result : Except Failure (Payload × Ending)}
    (h : (p.runBy clock (g.conclude s d result).run).1 = .ok payload) :
    ∃ ending, result = .ok (payload, ending) := by
  unfold conclude at h
  split at h
  · exact ⟨_, by rw [Except.ok.inj h]⟩
  · rw [Plant.runBy_liftThen] at h
    exact ⟨_, by rw [Except.ok.inj h]⟩
  · rw [Plant.runBy_liftThen] at h
    cases h

theorem succeeds_of_isSuccess (hs : (p.runBy clock (g.handle r)).1.outcome.isSuccess = true) :
    ∃ d s m payload ending opened, Succeeds clock g p r d s m payload ending opened := by
  obtain ⟨q, hq, hhandle⟩ := runBy_handle g r clock p
  obtain ⟨payload, hx⟩ : ∃ payload, (p.runBy clock (g.run r).run).1 = .ok payload := by
    rw [hhandle] at hs
    cases hx : (p.runBy clock (g.run r).run).1 with
    | ok payload => exact ⟨payload, rfl⟩
    | error e =>
      rw [hx] at hs
      exact absurd (hs.symm.trans (isSuccess_outcome_error e)) (by simp)
  rw [hx] at hhandle
  unfold run at hx hq
  obtain ⟨d, hfind, hrun⟩ := Plant.ok_of_andThen hx
  rw [hrun] at hx hq
  have hspared : ∀ host, (p.runBy clock (findDevice r.deviceId).run).2.plain? host =
      p.plain? host := Plant.plain?_runBy (within_findDevice trivial) p
  generalize (p.runBy clock (findDevice r.deviceId).run).2 = found at hx hq hspared
  obtain ⟨s, hconnect, hrun⟩ := Plant.ok_of_andThen hx
  rw [hrun] at hx hq
  obtain ⟨m, hm, hidentity, hoffered, hopens⟩ := Session.has_of_connect hconnect
  generalize (found.runBy clock (Session.connect d.identity (g.approach d.family)
    (g.listenerFor d)).run).2 = opened at hx hq hopens
  rw [Plant.runBy_resultThen] at hx hq
  obtain ⟨ending, hcarries⟩ := ok_of_conclude hx
  rw [hcarries] at hq
  refine ⟨d, s, m, payload, ending, opened, find?_of_findDevice hfind, (hspared _).symm.trans hm,
    hidentity, hoffered, hopens, hcarries, by rw [hhandle]; rfl, fun K hK => ?_⟩
  rw [hhandle]
  exact (hK.runBy (g.within_spares_conclude s d (.ok (payload, ending))) clock).of_alike hq

/-- What the operation makes of the model is what the request leaves. -/
theorem Succeeds.meets {Q : Payload × Ending → ServerModel → Prop}
    {E : Failure → ServerModel → Prop} (h : Succeeds clock g p r d s m payload ending opened)
    (hmeets : Attempt.Meets clock s.link d.identity.host (· = m)
      (g.carryOut s d r.operation) Q E) :
    (p.runBy clock (g.handle r)).2.Has s.link d.identity.host (Q (payload, ending)) := by
  refine h.leaves _ ?_
  have hcarried := hmeets.after opened h.opens
  rw [h.carries] at hcarried
  exact hcarried

/-- A second request to the same device finds there what the first one has left. -/
theorem Succeeds.next {clock' : Nat → Int64} {r' : Request} {d' : Device} {s' : Session}
    {m' : ServerModel} {payload' : Payload} {ending' : Ending} {opened' : Plant}
    (h : Succeeds clock g p r d s m payload ending opened)
    (h' : Succeeds clock' g (p.runBy clock (g.handle r)).2 r' d' s' m' payload' ending' opened')
    (hsame : r'.deviceId = r.deviceId)
    (hleft : (p.runBy clock (g.handle r)).2.Has s.link d.identity.host K) : d' = d ∧ K m' := by
  have hknown := h'.known
  rw [Plant.registry_runBy, hsame, h.known] at hknown
  obtain rfl := Option.some.inj hknown
  obtain ⟨left, hplain, hkind⟩ := hleft.offers
  obtain rfl := Option.some.inj (hplain.symm.trans h'.there)
  exact ⟨rfl, hkind⟩

end Gateway

end FieldGateway
