import FieldGateway.Proofs.Gateway.Effects
import FieldGateway.Proofs.Gateway.Stock

/-!
# The tasks of a request

A request that sets something is expanded into tasks, which are carried out one after the other: a
relay is switched, or a node is written. To switch a relay takes one write or two. A request that
fails has carried out the tasks up to some point, and may have made the first write of the next one.

* `Task.writes`: what a task writes, as the device is.
* `Reached`: how far some tasks have come.
* `Attempt.Performs`: an attempt that carries out tasks, with rules for attempts put together.
* `Light.performs_setAll`, `Gateway.performs_setData`, `Gateway.performs_carryOut`: the commands.
-/

namespace FieldGateway

open Attempt

variable {α β : Type} {host : String}

/-! ## Tasks -/

/-- One of the entries that a request is expanded into. -/
inductive Task where
  | switch (relay : UInt8) (on : Bool)
  /-- A node is written, with a value set. -/
  | write (node : Node)
deriving DecidableEq, Repr

namespace Task

variable {s : Session} {m : ServerModel}

/-- What is written first: the operation of a relay is enabled, if it is not in the model. -/
def ahead (s : Session) (m : ServerModel) : Task → List Node
  | switch relay _ =>
    match s.locate (Light.permission relay) with
    | .error _ => []
    | .ok place =>
      if (m.findNode? place.reference place.constraint).any Light.mayOperate then []
      else [place.set "enbOper" (.bool true)]
  | write _ => []

/-- What is written in any case. -/
def main (s : Session) : Task → List Node
  | switch relay on =>
    match s.locate (Light.switchAddress relay .position .control) with
    | .error _ => []
    | .ok place => [place.set "Oper.ctlVal" (.bool on)]
  | write node => [node]

def writes (s : Session) (m : ServerModel) (t : Task) : List Node := t.ahead s m ++ t.main s

/-- What tasks write one after the other, when the device has a model before the first one. -/
def allWrites (s : Session) : ServerModel → List Task → List Node
  | _, [] => []
  | m, t :: ts => t.writes s m ++ allWrites s ((t.writes s m).foldl Ied.written m) ts

/-- The device offered the nodes of the task when the session began. -/
def IsOffered (s : Session) : Task → Prop
  | switch relay _ => (∃ place, s.locate (Light.permission relay) = .ok place) ∧
      ∃ place, s.locate (Light.switchAddress relay .position .control) = .ok place
  | write _ => True

theorem ahead_switch {relay : UInt8} {place : Node}
    (h : s.locate (Light.permission relay) = .ok place) (on : Bool) :
    ahead s m (switch relay on) =
      if (m.findNode? place.reference place.constraint).any Light.mayOperate then []
      else [place.set "enbOper" (.bool true)] := by
  simp only [ahead, h]

theorem main_switch {relay : UInt8} {place : Node}
    (h : s.locate (Light.switchAddress relay .position .control) = .ok place) (on : Bool) :
    main s (switch relay on) = [place.set "Oper.ctlVal" (.bool on)] := by
  simp only [main, h]

theorem allWrites_append (ts us : List Task) : allWrites s m (ts ++ us) =
    allWrites s m ts ++ allWrites s ((allWrites s m ts).foldl Ied.written m) us := by
  induction ts generalizing m with
  | nil => rfl
  | cons t ts ih =>
    simp only [List.cons_append, allWrites]
    rw [ih, List.foldl_append, List.append_assoc]

end Task

/-- Some tasks were carried out up to the `k`-th, and of the next one there is `more`. -/
structure Reached (s : Session) (tasks : List Task) (l l' : Stock) (k : Nat) (more : List Node) :
    Prop where
  le : k ≤ tasks.length
  offered : ∀ t ∈ tasks.take k, t.IsOffered s
  stock : l' = l.after (Task.allWrites s l.model (tasks.take k) ++ more)
  begun : more = [] ∨ ∃ t, tasks[k]? = some t ∧
    more = t.ahead s (l.after (Task.allWrites s l.model (tasks.take k))).model

namespace Reached

variable {s : Session} {l l' l'' : Stock} {t : Task} {ts us : List Task} {k : Nat}
  {more more' : List Node}

theorem nothing : Reached s ts l l 0 [] :=
  ⟨Nat.zero_le _, fun _ h => (List.not_mem_nil h).elim, l.after_nil.symm, .inl rfl⟩

theorem ahead : Reached s (t :: ts) l (l.after (t.ahead s l.model)) 0 (t.ahead s l.model) :=
  ⟨Nat.zero_le _, fun _ h => (List.not_mem_nil h).elim, rfl, .inr ⟨t, rfl, rfl⟩⟩

theorem all (h : ∀ t ∈ ts, t.IsOffered s) :
    Reached s ts l (l.after (Task.allWrites s l.model ts)) ts.length [] := by
  refine ⟨Nat.le_refl _, ?_, ?_, .inl rfl⟩
  · rwa [List.take_length]
  · rw [List.take_length, List.append_nil]

/-- There may be other tasks to come. -/
theorem append_right (h : Reached s ts l l' k more) (us : List Task) :
    Reached s (ts ++ us) l l' k more := by
  have htake : (ts ++ us).take k = ts.take k := List.take_append_of_le_length h.le
  refine ⟨?_, ?_, ?_, ?_⟩
  · rw [List.length_append]
    exact Nat.le_add_right_of_le h.le
  · rw [htake]
    exact h.offered
  · rw [htake]
    exact h.stock
  · rw [htake]
    refine h.begun.imp_right ?_
    rintro ⟨t, ht, hmore⟩
    have hlt : k < ts.length := (List.getElem?_eq_some_iff.1 ht).1
    exact ⟨t, by rw [List.getElem?_append_left hlt, ht], hmore⟩

/-- Behind the last task there is nothing. -/
theorem done (h : Reached s ts l l' ts.length more) :
    (∀ t ∈ ts, t.IsOffered s) ∧ l' = l.after (Task.allWrites s l.model ts) := by
  have hoffered := h.offered
  have hstock := h.stock
  rw [List.take_length] at hoffered hstock
  rcases h.begun with rfl | ⟨t, ht, -⟩
  · rw [List.append_nil] at hstock
    exact ⟨hoffered, hstock⟩
  · rw [List.getElem?_eq_none (Nat.le_refl _)] at ht
    cases ht

/-- First some tasks are carried out, and then others. -/
theorem append (h : Reached s ts l l' ts.length more) (h' : Reached s us l' l'' k more') :
    Reached s (ts ++ us) l l'' (ts.length + k) more' := by
  obtain ⟨hoffered, rfl⟩ := h.done
  have htake : (ts ++ us).take (ts.length + k) = ts ++ us.take k := List.take_length_add_append k
  have hwrites : l.after (Task.allWrites s l.model (ts ++ us.take k)) =
      (l.after (Task.allWrites s l.model ts)).after
        (Task.allWrites s (l.after (Task.allWrites s l.model ts)).model (us.take k)) := by
    rw [Stock.after_after, Task.allWrites_append]
    rfl
  refine ⟨?_, ?_, ?_, ?_⟩
  · rw [List.length_append]
    exact Nat.add_le_add_left h'.le _
  · rw [htake]
    exact List.forall_mem_append.2 ⟨hoffered, h'.offered⟩
  · rw [htake, ← Stock.after_after, hwrites, Stock.after_after]
    exact h'.stock
  · rw [htake, hwrites, List.getElem?_append_right (Nat.le_add_right _ _),
      Nat.add_sub_cancel_left]
    exact h'.begun

end Reached

/-! ## Attempts that carry out tasks -/

/-- However it runs, the attempt carries out tasks one after the other, all of them if it
succeeds. Then `X` holds as well. -/
structure Attempt.Performs (s : Session) (host : String) (v : Attempt α) (tasks : List Task)
    (X : Prop) : Prop where
  takes : ∀ l, Work.Takes s.link host l v.run fun x l' => ∃ k more,
    Reached s tasks l l' k more ∧ (x.isOk = true → k = tasks.length ∧ X)

namespace Attempt.Performs

variable {s : Session} {v : Attempt α} {ts us : List Task} {X Y : Prop}

theorem mono (h : Performs s host v ts X) (hX : X → Y) : Performs s host v ts Y := by
  refine ⟨fun l => (h.takes l).mono ?_⟩
  rintro x l' ⟨k, more, hreached, hok⟩
  exact ⟨k, more, hreached, fun hx => ⟨(hok hx).1, hX (hok hx).2⟩⟩

theorem andThen {f : α → Attempt β} (h : Performs s host v ts X)
    (hf : ∀ a, X → Performs s host (f a) us Y) : Performs s host (v >>= f) (ts ++ us) Y := by
  refine ⟨fun l => Work.Takes.andThen (h.takes l) ?_ ?_⟩
  · rintro a l₁ ⟨k, more, hreached, hok⟩
    obtain ⟨rfl, hx⟩ := hok rfl
    refine ((hf a hx).takes l₁).mono ?_
    rintro y l' ⟨k', more', hreached', hok'⟩
    refine ⟨ts.length + k', more', hreached.append hreached', fun hy => ?_⟩
    obtain ⟨rfl, hY⟩ := hok' hy
    exact ⟨List.length_append.symm, hY⟩
  · rintro e l' ⟨k, more, hreached, -⟩
    exact ⟨k, more, hreached.append_right us, nofun⟩

/-- An attempt that writes nothing carries out no task. -/
theorem of_within (hv : Course.Within Action.SparesNodes v.run) : Performs s host v [] True := by
  refine ⟨fun l => (Work.Takes.of_within hv).mono ?_⟩
  rintro x l' rfl
  exact ⟨0, [], .nothing, fun _ => ⟨rfl, trivial⟩⟩

theorem thenPure (h : Performs s host v ts X) (f : α → β) :
    Performs s host (v >>= fun a => pure (f a)) ts X := by
  have hboth : Performs s host (v >>= fun a => pure (f a)) (ts ++ []) X :=
    h.andThen fun a hX => (of_within (Attempt.within_pure (f a))).mono fun _ => hX
  rwa [List.append_nil] at hboth

/-- Behind an attempt that does not succeed nothing is carried out. -/
theorem stops {f : α → Attempt β} (h : Performs s host v ts False) :
    Performs s host (v >>= f) ts X := by
  have hboth : Performs s host (v >>= f) (ts ++ []) X := h.andThen fun _ hx => hx.elim
  rwa [List.append_nil] at hboth

/-- What is asked for is checked first. -/
theorem ofMisfit {x : Except Misfit α} {f : α → Attempt β}
    (hf : ∀ a, x = .ok a → Performs s host (f a) ts X) :
    Performs s host (Attempt.ofMisfit x >>= f) ts X := by
  refine ⟨fun l => Work.Takes.andThen Work.Takes.ofMisfit ?_ ?_⟩
  · rintro a l' ⟨rfl, hx⟩
    exact (hf a hx).takes l'
  · rintro e l' ⟨rfl, -⟩
    exact ⟨0, [], .nothing, nofun⟩

/-- The tasks of each element of a list are carried out in turn. -/
theorem forM {f : β → Attempt Unit} {tasks : β → List Task}
    (hf : ∀ b, Performs s host (f b) (tasks b) True) (bs : List β) :
    Performs s host (bs.forM f) (bs.flatMap tasks) True := by
  induction bs with
  | nil => exact of_within (Attempt.within_pure ())
  | cons b bs ih => exact (hf b).andThen fun _ _ => ih

theorem mapM {f : β → Attempt α} {tasks : β → List Task}
    (hf : ∀ b, Performs s host (f b) (tasks b) True) (bs : List β) :
    Performs s host (bs.mapM f) (bs.flatMap tasks) True := by
  induction bs with
  | nil => exact of_within (Attempt.within_pure [])
  | cons b bs ih =>
    rw [List.mapM_cons]
    exact (hf b).andThen fun a _ => ih.thenPure fun as => a :: as

end Attempt.Performs

/-! ## Light -/

namespace Light

open Work

variable (s : Session) (relay : UInt8) (on : Bool)

/-- The tasks that light values are expanded into, up to the first value that is for no light. -/
def expansion (d : Device) : List LightValue → List Task
  | [] => []
  | v :: vs =>
    match relays d v with
    | .ok rs => rs.map (.switch · v.on) ++ expansion d vs
    | .error _ => []

/-- A relay whose operation was enabled is not enabled again. -/
theorem ahead_enabled {s : Session} {relay : UInt8} {on : Bool} {m : ServerModel} {place : Node}
    (hplace : s.locate (permission relay) = .ok place)
    (hthere : (m.findNode? place.reference place.constraint).isSome = true) :
    Task.ahead s (Ied.written m (place.set "enbOper" (.bool true))) (.switch relay on) = [] := by
  obtain ⟨node, hnode⟩ := Option.isSome_iff_exists.1 hthere
  have hfound : (Ied.written m (place.set "enbOper" (.bool true))).findNode? place.reference
      place.constraint = some (node.merge (place.set "enbOper" (.bool true))) := by
    have hself := Ied.findNode?_written_self m (place.set "enbOper" (.bool true))
    rw [show (place.set "enbOper" (.bool true)).reference = place.reference from rfl,
      show (place.set "enbOper" (.bool true)).constraint = place.constraint from rfl,
      hnode] at hself
    exact hself
  have hmay : mayOperate (node.merge (place.set "enbOper" (.bool true))) = true := by
    unfold mayOperate
    rw [Node.get?_merge, Node.get?_set_self]
    rfl
  rw [Task.ahead_switch hplace, hfound, Option.any_some, if_pos hmay]

/-- The first stage of switching a relay. -/
theorem takes_prepare (l : Stock) : Takes s.link host l (prepare s relay).run fun x l' =>
    match x with
    | .ok _ => l' = l.after (Task.ahead s l.model (.switch relay on)) ∧
        Task.ahead s l'.model (.switch relay on) = [] ∧
        ∃ place, s.locate (permission relay) = .ok place
    | .error _ => l' = l := by
  unfold prepare
  refine Takes.andThen (s.takes_read (permission relay)) ?_ fun e l' h => h.1
  rintro node l' ⟨rfl, hread⟩
  obtain ⟨place, hplace, hnode⟩ := hread node rfl
  have hahead : Task.ahead s l'.model (.switch relay on) =
      if mayOperate node then [] else [place.set "enbOper" (.bool true)] := by
    rw [Task.ahead_switch hplace, hnode, Option.any_some]
  by_cases hmay : mayOperate node = true
  · rw [if_pos hmay] at hahead
    simp only [hmay, if_true]
    refine Takes.pure ⟨?_, hahead, place, hplace⟩
    rw [hahead, Stock.after_nil]
  · rw [if_neg hmay] at hahead
    simp only [hmay]
    refine (s.takes_write (permission relay) "enbOper" (.bool true)).mono ?_
    intro x l'' hx
    cases x with
    | ok u =>
      obtain ⟨place', hplace', hthere, rfl⟩ := hx
      obtain rfl : place' = place := Except.ok.inj (hplace'.symm.trans hplace)
      refine ⟨?_, ahead_enabled hplace hthere, place', hplace⟩
      rw [hahead]
    | error e => exact hx.1

/-- The second stage. -/
theorem takes_operate (l : Stock) : Takes s.link host l (operate s relay on).run fun x l' =>
    match x with
    | .ok _ => l' = l.after (Task.main s (.switch relay on)) ∧
        ∃ place, s.locate (switchAddress relay .position .control) = .ok place
    | .error _ => l' = l := by
  unfold operate
  refine Takes.andThen (s.takes_read _) ?_ fun e l' h => h.1
  rintro node l' ⟨rfl, -⟩
  refine (s.takes_write _ "Oper.ctlVal" (.bool on)).mono ?_
  intro x l'' hx
  cases x with
  | ok u =>
    obtain ⟨place, hplace, -, rfl⟩ := hx
    exact ⟨by rw [Task.main_switch hplace], place, hplace⟩
  | error e => exact hx.1

/-- If the attempt fails, what it has written and what is left to be written in the first stage are
together what there was to be written. -/
theorem takes_switch (l : Stock) : Takes s.link host l (switch s relay on).run fun x l' =>
    match x with
    | .ok _ => l' = l.after (Task.writes s l.model (.switch relay on)) ∧
        Task.IsOffered s (.switch relay on)
    | .error _ => ∃ part, l' = l.after part ∧
        part ++ Task.ahead s l'.model (.switch relay on) =
          Task.ahead s l.model (.switch relay on) ∧
        (part = [] ∨ part = Task.ahead s l.model (.switch relay on)) := by
  rw [switch_eq]
  refine Takes.andThen (takes_prepare s relay on l) ?_ ?_
  · rintro _ l' ⟨rfl, hdone, hpermission⟩
    refine (takes_operate s relay on _).mono ?_
    intro x l'' hx
    cases x with
    | ok u =>
      obtain ⟨rfl, hposition⟩ := hx
      exact ⟨Stock.after_after _ _ _, hpermission, hposition⟩
    | error e =>
      subst hx
      refine ⟨_, rfl, ?_, .inr rfl⟩
      rw [hdone, List.append_nil]
  · rintro e l' rfl
    exact ⟨[], l'.after_nil.symm, rfl, .inl rfl⟩

/-- However often it is tried, a relay is switched once, and its operation is enabled at most
once. -/
theorem performs_switch_retried (policy : Policy) :
    Performs s host (retried policy (switch s relay on)) [.switch relay on] True := by
  let t : Task := .switch relay on
  refine ⟨fun l => ?_⟩
  -- What was written so far is the beginning of the first stage, and the rest is left.
  let J : Stock → Prop := fun l' => ∃ part, l' = l.after part ∧
    part ++ t.ahead s l'.model = t.ahead s l.model ∧ (part = [] ∨ part = t.ahead s l.model)
  have hstart : J l := ⟨[], l.after_nil.symm, rfl, .inl rfl⟩
  have hreached : ∀ l', J l' → ∃ more, Reached s [t] l l' 0 more := by
    rintro l' ⟨part, rfl, -, rfl | rfl⟩
    · exact ⟨[], by rw [Stock.after_nil]; exact .nothing⟩
    · exact ⟨_, .ahead⟩
  refine Takes.retried (J := J) policy hstart ?_
  rintro l₁ ⟨part, rfl, hleft, hpart⟩
  refine (takes_switch s relay on _).mono ?_
  intro x l' hx
  cases x with
  | ok u =>
    obtain ⟨rfl, hoffered⟩ := hx
    refine ⟨fun n => ⟨1, [], ?_, fun _ => ⟨rfl, trivial⟩⟩, nofun⟩
    have hall : (l.after part).after (t.writes s (l.after part).model) =
        l.after (Task.allWrites s l.model [t]) := by
      rw [Stock.after_after, Task.writes, ← List.append_assoc, hleft]
      exact congrArg l.after (List.append_nil _).symm
    rw [hall]
    exact Reached.all (List.forall_mem_singleton.2 hoffered)
  | error e =>
    obtain ⟨part', rfl, hleft', hpart'⟩ := hx
    have hJ : J ((l.after part).after part') := by
      refine ⟨part ++ part', Stock.after_after _ _ _, ?_, ?_⟩
      · rw [List.append_assoc, hleft', hleft]
      · rcases hpart' with rfl | rfl
        · rw [List.append_nil]
          exact hpart
        · exact .inr hleft
    obtain ⟨more, hmore⟩ := hreached _ hJ
    exact ⟨fun n => ⟨0, more, hmore, nofun⟩, fun _ => hJ⟩

section
variable {s} {d : Device} {v : LightValue}

theorem performs_set (policy : Policy) {rs : List UInt8} (h : relays d v = .ok rs) :
    Performs s host (set policy s d v) (rs.map (.switch · v.on)) True := by
  have hswitch : ∀ relay, Performs s host (retried policy (switch s relay v.on))
      [.switch relay v.on] True :=
    fun relay => performs_switch_retried s relay v.on policy
  have hall := Performs.forM hswitch rs
  rw [← List.map_eq_flatMap] at hall
  unfold set
  rw [h]
  exact hall

/-- Of a value that is for no light nothing is written. -/
theorem performs_set_misfit (policy : Policy) {e : Misfit} (h : relays d v = .error e) :
    Performs s host (set policy s d v) [] False := by
  unfold set
  rw [h]
  exact Performs.ofMisfit nofun

end

/-- If light values are set, all of them are for lights. -/
theorem performs_setAll (policy : Policy) (d : Device) (vs : List LightValue) :
    Performs s host (setAll policy s d vs) (expansion d vs)
      (∀ v ∈ vs, ∃ rs, relays d v = .ok rs) := by
  induction vs with
  | nil => exact (Performs.of_within (Attempt.within_pure ())).mono fun _ => by simp
  | cons v vs ih =>
    cases hrelays : relays d v with
    | ok rs =>
      have htasks : expansion d (v :: vs) = rs.map (.switch · v.on) ++ expansion d vs := by
        simp only [expansion, hrelays]
      rw [htasks]
      refine (performs_set policy hrelays).andThen fun _ _ => ih.mono fun hvs => ?_
      exact List.forall_mem_cons.2 ⟨⟨rs, hrelays⟩, hvs⟩
    | error e =>
      have htasks : expansion d (v :: vs) = [] := by
        simp only [expansion, hrelays]
      rw [htasks]
      exact (performs_set_misfit policy hrelays).stops

/-- What comes behind a value that is for no light is not expanded. -/
theorem expansion_of_misfit {d : Device} {before after : List LightValue} {v : LightValue}
    {e : Misfit} (h : relays d v = .error e) :
    expansion d (before ++ v :: after) = expansion d before := by
  induction before with
  | nil => simp only [List.nil_append, expansion, h]
  | cons w before ih =>
    cases hw : relays d w with
    | ok rs => simp only [List.cons_append, expansion, hw, ih]
    | error e' => simp only [List.cons_append, expansion, hw]

end Light

/-! ## Set points -/

namespace Gateway

open Work

variable (g : Gateway) (s : Session)

/-- The task that a value is expanded into, unless it is passed over. -/
def task? (q : SystemSetting) (v : SetPoint) : Option Task :=
  match g.lookup q.family v.node v.index with
  | .error _ => none
  | .ok p =>
    if p.writable then
      match s.locate (p.address (.ofFamily q.family) q.id) with
      | .error _ => none
      | .ok place => some (.write (place.set p.path (p.encoding.encode v.value)))
    else none

/-- What a request is expanded into, in the order of the request. -/
def tasks (d : Device) : Operation → List Task
  | .setLight values => Light.expansion d values
  | .setData systems => systems.flatMap fun q => q.setPoints.filterMap (g.task? s q)
  | _ => []

variable {g s}

/-- Whether a value is passed over is told by the point and the session alone. -/
theorem takes_write_point {p : Point} {q : SystemSetting} {v : SetPoint}
    (hlookup : g.lookup q.family v.node v.index = .ok p) (l : Stock) :
    Takes s.link host l (p.write s (.ofFamily q.family) q.id v.value).run fun x l' => match x with
      | .ok _ => ∃ node, g.task? s q v = some (.write node) ∧ l' = l.after [node]
      | .error e => l' = l ∧ (e.isMisfit = true → g.task? s q v = none) := by
  unfold Point.write task?
  rw [hlookup]
  by_cases hw : p.writable = true
  · simp only [hw, if_true]
    refine (s.takes_write _ p.path (p.encoding.encode v.value)).mono ?_
    intro x l' hx
    cases x with
    | ok u =>
      obtain ⟨place, hplace, -, rfl⟩ := hx
      exact ⟨_, by rw [hplace], rfl⟩
    | error e =>
      refine ⟨hx.1, fun he => ?_⟩
      obtain ⟨m, hm⟩ := hx.2 he
      rw [hm]
  · simp only [hw]
    exact Takes.pure ⟨rfl, fun _ => rfl⟩

theorem performs_writePoint (q : SystemSetting) (v : SetPoint) :
    Performs s host (g.writePoint s q.family q.id v) (g.task? s q v).toList True := by
  refine ⟨fun l => ?_⟩
  have hwrite : Takes s.link host l
      (do let point ← Attempt.ofMisfit (g.lookup q.family v.node v.index)
          Attempt.retried g.policy (point.write s (.ofFamily q.family) q.id v.value)).run
      fun x l' => match x with
        | .ok _ => ∃ node, g.task? s q v = some (.write node) ∧ l' = l.after [node]
        | .error e => l' = l ∧ (e.isMisfit = true → g.task? s q v = none) := by
    refine Takes.andThen Takes.ofMisfit ?_ ?_
    · rintro p l' ⟨rfl, hlookup⟩
      refine Takes.retried (J := (· = l')) g.policy rfl ?_
      rintro _ rfl
      refine (takes_write_point hlookup _).mono ?_
      intro x l₁ hx
      cases x with
      | ok u => exact ⟨fun n => hx, nofun⟩
      | error e =>
        refine ⟨fun n => ⟨hx.1, fun he => hx.2 ?_⟩, fun _ => hx.1⟩
        by_cases hretry : e.severity = .retryable
        · simp only [hretry, if_true] at he
          cases he
        · simpa only [hretry, if_false] using he
    · rintro e l' ⟨rfl, m, hm, rfl⟩
      refine ⟨rfl, fun _ => ?_⟩
      unfold task?
      rw [hm]
  refine Takes.passOver _ hwrite ?_ ?_ ?_
  · rintro u l' ⟨node, htask, rfl⟩
    rw [htask]
    have hoffered : ∀ t ∈ [Task.write node], t.IsOffered s :=
      List.forall_mem_singleton.2 trivial
    exact ⟨1, [], Reached.all hoffered, fun _ => ⟨rfl, trivial⟩⟩
  · rintro e l' ⟨rfl, hmisfit⟩ he
    rw [hmisfit he]
    exact ⟨0, [], .nothing, fun _ => ⟨rfl, trivial⟩⟩
  · rintro e l' ⟨rfl, -⟩ -
    exact ⟨0, [], .nothing, nofun⟩

theorem performs_setData (qs : List SystemSetting) (d : Device) :
    Performs s host (g.setData s qs) (g.tasks s d (.setData qs)) True := by
  have hsystem : ∀ q : SystemSetting, Performs s host (g.writeSystem s q)
      (q.setPoints.filterMap (g.task? s q)) True := by
    intro q
    rw [List.filterMap_eq_flatMap_toList]
    exact (Performs.mapM (performs_writePoint q) q.setPoints).thenPure skipped
  exact (Performs.mapM hsystem qs).thenPure fun rs => Payload.data [] rs.flatten

/-! ## Operations -/

theorem sparesNodes_of_isIdle {a : Action} (h : a.IsIdle) : a.SparesNodes := by
  cases a <;> trivial

theorem within_spares_getData (qs : List SystemQuery) :
    Course.Within Action.SparesNodes (g.getData s qs).run := by
  have hfilter : ∀ (family : Family) (id : UInt8) (f : Filter),
      Course.Within Action.SparesNodes (g.readFilter s family id f).run := by
    intro family id f
    refine Course.Within.bind (Attempt.within_bind (Attempt.within_ofMisfit _) fun point => ?_)
      fun x => ?_
    · refine Attempt.within_retried (fun _ _ => trivial) _ ?_
      exact (point.within_idle_read s _ id).mono fun _ => sparesNodes_of_isIdle
    · cases x with
      | ok a => exact Course.within_pure _
      | error e =>
        dsimp only
        split
        · exact Course.Within.bind (Course.within_query trivial) fun _ => Course.within_pure _
        · exact Course.within_pure _
  refine Attempt.within_bind (Attempt.within_mapM (fun q => ?_) qs) fun _ => Attempt.within_pure _
  exact Attempt.within_bind (Attempt.within_mapM (hfilter q.family q.id) q.filters)
    fun _ => Attempt.within_pure _

theorem within_spares_getStatus (d : Device) :
    Course.Within Action.SparesNodes (g.getStatus s d).run := by
  have hstatus : Course.Within Action.SparesNodes (Light.status g.policy s d).run := by
    refine Attempt.within_retried (fun _ _ => trivial) _ ?_
    exact (Light.within_idle_readStatus s d).mono fun _ => sparesNodes_of_isIdle
  refine Attempt.within_bind (Attempt.within_ofMisfit _) fun _ => ?_
  refine Attempt.within_bind hstatus fun status => ?_
  refine Attempt.within_bind (Attempt.within_lift (g.within_spares_collectEvents s)) fun x => ?_
  split <;> exact Attempt.within_pure _

/-- Every operation carries out the tasks that it is expanded into. -/
theorem performs_carryOut (d : Device) (o : Operation) :
    Performs s host (g.carryOut s d o) (g.tasks s d o)
      (∀ vs, o = .setLight vs → ∀ v ∈ vs, ∃ rs, Light.relays d v = .ok rs) := by
  have hother : ∀ {o : Operation} {X : Prop}, (∀ vs, o ≠ .setLight vs) → X →
      ∀ vs, o = .setLight vs → ∀ v ∈ vs, ∃ rs, Light.relays d v = .ok rs :=
    fun hno _ vs hvs => absurd hvs (hno vs)
  cases o with
  | getData systems =>
    refine (Performs.of_within ?_).mono (hother nofun)
    exact Attempt.within_bind (within_spares_getData systems) fun _ => Attempt.within_pure _
  | setData systems =>
    exact ((performs_setData systems d).thenPure fun payload => (payload, Ending.open)).mono
      (hother nofun)
  | setLight values =>
    refine Performs.ofMisfit fun _ _ => ?_
    refine ((Light.performs_setAll s g.policy d values).thenPure
      fun _ => (Payload.empty, Ending.open)).mono fun hall vs hvs => ?_
    obtain rfl := Operation.setLight.inj hvs
    exact hall
  | getStatus => exact (Performs.of_within (within_spares_getStatus d)).mono (hother nofun)
  | enableReporting =>
    refine (Performs.of_within ?_).mono (hother nofun)
    simp only [carryOut]
    split
    · exact Attempt.within_bind (g.within_spares_collectEvents s) fun _ => Attempt.within_pure _
    · exact Attempt.within_pure _

end Gateway

end FieldGateway
