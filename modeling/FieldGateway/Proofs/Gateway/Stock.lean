import FieldGateway.Command.Access
import FieldGateway.Gateway.Data
import FieldGateway.Proofs.Gateway.Effects
import FieldGateway.Proofs.Plant.Nodes
import FieldGateway.Proofs.Session.Write

/-!
# The stock of a device

What a device has and what was written to it is its stock. Of all that is asked of a device only
writes change it. A run may be disturbed at any point by whatever leaves the stock alone and lets
links lead where they led; any request to a device may be answered with a fault.

* `Plant.Answers.spares`, `Plant.Answers.stock_write`: what one action makes of the stock.
* `Work.Takes`: what a run makes of the stock, with a rule for each way of putting work together.
* `Work.Takes.retried`: an attempt that is tried again, with an invariant of the refused ones.
* `Session.takes_read`, `Session.takes_write`: requests over a session.
-/

namespace FieldGateway

variable {α β : Type} {link : Nat} {host : String} {others : String → Prop}

/-! ## Stocks -/

/-- What a device has, apart from its report control blocks, and what was written to it. -/
structure Stock where
  model : ServerModel
  writes : List Node

namespace Stock

/-- The stock after some nodes were written. -/
def after (l : Stock) (ws : List Node) : Stock := ⟨ws.foldl Ied.written l.model, l.writes ++ ws⟩

@[simp] theorem after_nil (l : Stock) : l.after [] = l := by
  unfold after
  rw [List.append_nil]
  rfl

@[simp] theorem after_after (l : Stock) (ws ws' : List Node) :
    (l.after ws).after ws' = l.after (ws ++ ws') := by
  simp [after, List.foldl_append]

end Stock

def Ied.stock (d : Ied) : Stock := ⟨d.model.plain, d.activity.writes⟩

theorem Ied.stock_read (d : Ied) (reference : String) (constraint : Constraint) :
    (d.read reference constraint).2.stock = d.stock := by
  unfold read
  split
  · rfl
  · split <;> rfl

theorem Ied.Becomes.stock {d d' : Ied} {a : Action} {answer : a.Answer}
    (h : d.Becomes a answer d') (ha : a.SparesNodes) : d'.stock = d.stock := by
  have hplain := h.plain ha
  have hwrites : d'.activity.writes = d.activity.writes := by
    cases a with
    | associate host port listener =>
      obtain ⟨link, rfl⟩ := h
      rfl
    | retrieve link | release link =>
      obtain rfl := h
      rfl
    | read link reference constraint =>
      obtain rfl := congrArg Prod.snd h
      exact congrArg Stock.writes (d.stock_read reference constraint)
    | write link node => exact ha.elim
    | enable link reference =>
      obtain rfl := congrArg Prod.snd h
      show (d.enable reference).2.activity.writes = _
      unfold enable
      split <;> rfl
    | disable link reference =>
      obtain rfl := congrArg Prod.snd h
      show (d.disable reference).2.activity.writes = _
      unfold disable
      split <;> rfl
    | _ => exact h.elim
  unfold Ied.stock
  rw [hplain, hwrites]

namespace Plant

variable {o p q : Plant}

def stock? (p : Plant) (host : String) : Option Stock := (p.network.find? host).map Ied.stock

/-- Of some other devices the stock is the same. -/
def SparesOthers (host : String) (others : String → Prop) (p q : Plant) : Prop :=
  ∀ far, others far → far ≠ host → q.stock? far = p.stock? far

theorem SparesOthers.trans (h : o.SparesOthers host others p) (h' : p.SparesOthers host others q) :
    o.SparesOthers host others q :=
  fun far hfar hne => (h' far hfar hne).trans (h far hfar hne)

/-- Links that led to an address still do, and the stock of the device there is the same, and that
of some other devices. -/
structure Spares (host : String) (others : String → Prop) (p q : Plant) : Prop where
  leads : ∀ link, p.host? link = some host → q.host? link = some host
  stock : q.stock? host = p.stock? host
  others : p.SparesOthers host others q

theorem Spares.refl (host : String) (others : String → Prop) (p : Plant) :
    p.Spares host others p := ⟨fun _ => id, rfl, fun _ _ _ => rfl⟩

theorem Spares.trans (h : o.Spares host others p) (h' : p.Spares host others q) :
    o.Spares host others q :=
  ⟨fun link hlink => h'.leads link (h.leads link hlink), h'.stock.trans h.stock,
    h.others.trans h'.others⟩

/-- The link leads to the address, and the device there has the stock. -/
structure Stocked (link : Nat) (host : String) (l : Stock) (p : Plant) : Prop where
  leads : p.host? link = some host
  stock : p.stock? host = some l

theorem Spares.stocked {l : Stock} (h : p.Spares host others q) (hp : p.Stocked link host l) :
    q.Stocked link host l := ⟨h.leads link hp.leads, h.stock.trans hp.stock⟩

theorem Stocked.device? {l : Stock} (h : p.Stocked link host l) :
    ∃ d, p.device? link = some (host, d) ∧ d.stock = l := by
  obtain ⟨d, hd, hstock⟩ := Option.map_eq_some_iff.1 h.stock
  exact ⟨d, device?_eq_some.2 ⟨h.leads, hd⟩, hstock⟩

theorem stocked_of_device? {d : Ied} (h : p.device? link = some (host, d)) :
    p.Stocked link host d.stock := by
  obtain ⟨hhost, hd⟩ := device?_eq_some.1 h
  exact ⟨hhost, by rw [stock?, hd]; rfl⟩

namespace Answers

/-- Only a write changes a stock. -/
theorem spares {a : Action} {answer : a.Answer} (h : p.Answers a answer q) (ha : a.SparesNodes)
    (host : String) (others : String → Prop) : p.Spares host others q := by
  rcases h with h | ⟨-, rfl⟩
  · obtain rfl : (p.perform a).1 = answer := congrArg Prod.fst h
    obtain rfl : (p.perform a).2 = q := congrArg Prod.snd h
    have hstock : ∀ far, (p.perform a).2.stock? far = p.stock? far := by
      intro far
      unfold stock?
      rcases p.cases_found a far with hsame | ⟨d, d', hd, hd', hbecomes⟩
      · rw [hsame]
      · rw [hd, hd']
        exact congrArg some (hbecomes.stock ha)
    exact ⟨fun link hlink => host?_perform a hlink, hstock host, fun far _ _ => hstock far⟩
  · exact .refl host others _

/-- What is asked of a device is nothing to the others. -/
theorem sparesOthers_write {node : Node} {answer : Except Fault Unit}
    (h : p.Answers (.write link node) answer q) (hp : p.host? link = some host) :
    p.SparesOthers host others q := by
  rcases h with h | ⟨-, rfl⟩
  · have hask : p.ask link (fun d => d.write node) = (answer, q) := h
    intro far _ hne
    cases hfar : p.far link with
    | error e =>
      simp only [ask, hfar] at hask
      cases hask
      rfl
    | ok target =>
      obtain ⟨host', d⟩ := target
      obtain rfl : host' = host := Option.some.inj ((host?_of_far hfar).symm.trans hp)
      rw [ask_of_far hfar] at hask
      cases hask
      unfold stock?
      rw [find?_modifyIed, if_neg hne]
  · exact fun _ _ _ => rfl

/-- What is read is the node as the device has it. -/
theorem stock_read {l : Stock} {reference : String} {constraint : Constraint} {node : Node}
    (h : p.Answers (.read link reference constraint) (.ok node) q) (hp : p.Stocked link host l) :
    l.model.findNode? reference constraint = some node := by
  obtain ⟨d, hd, rfl⟩ := hp.device?
  have hask := h.perform_eq fun f hf => by cases hf
  rcases cases_ask_device hask hd with ⟨e, he, -⟩ | ⟨d', hread, -⟩
  · cases he
  · have hread : d.read reference constraint = (.ok node, d') := hread
    unfold Ied.read at hread
    split at hread
    · cases hread
    · split at hread
      · cases hread
      · next hnode =>
        cases hread
        exact hnode

/-- What a device tells of itself is what it has. -/
theorem stock_retrieve {l : Stock} {m : ServerModel}
    (h : p.Answers (.retrieve link) (.ok m) q) (hp : p.Stocked link host l) :
    m.plain = l.model := by
  obtain ⟨d, hd, rfl⟩ := hp.device?
  have hretrieve : p.retrieve link = (.ok m, q) := h.perform_eq fun f hf => by cases hf
  unfold retrieve at hretrieve
  split at hretrieve
  · cases hretrieve
  · rcases cases_ask_device hretrieve hd with ⟨e, he, -⟩ | ⟨d', htold, -⟩
    · cases he
    · cases htold
      rfl

/-- What is written is noted, if the device has the node; a write that fails changes nothing. -/
theorem stock_write {l : Stock} {node : Node} {answer : Except Fault Unit}
    (h : p.Answers (.write link node) answer q) (hp : p.Stocked link host l) :
    match answer with
    | .ok _ => (l.model.findNode? node.reference node.constraint).isSome = true ∧
        q.Stocked link host (l.after [node])
    | .error _ => q.Stocked link host l := by
  obtain ⟨d, hd, rfl⟩ := hp.device?
  rcases h with h | ⟨⟨f, hf⟩, rfl⟩
  · rcases cases_ask_device h hd with ⟨e, rfl, rfl⟩ | ⟨d', hwrite, hq⟩
    · exact hp
    · have hstocked := stocked_of_device? hq
      have hwrite : d.write node = (answer, d') := hwrite
      unfold Ied.write at hwrite
      split at hwrite
      · cases hwrite
        exact hstocked
      · split at hwrite
        · cases hwrite
          exact hstocked
        · next found hfound =>
          cases hwrite
          refine ⟨?_, ?_⟩
          · show (d.model.findNode? node.reference node.constraint).isSome = true
            rw [hfound]
            rfl
          · have hstock : d.stock.after [node] =
                ⟨(Ied.written d.model node).plain, d.activity.writes ++ [node]⟩ := by
              rw [Ied.plain_written]
              rfl
            rw [hstock]
            exact hstocked
  · cases hf
    exact hp

end Answers

end Plant

open Plant

/-! ## What runs make of a stock -/

namespace Work

/-- Work that writes nothing spares every stock. -/
theorem Runs.spares {i : Nat} {w : Work α} {log : List Entry} {x : α} {p q : Plant}
    (h : w.Runs i log x) (hw : w.Within Action.SparesNodes)
    (hspans : Spans (Spares host others) p log q) : p.Spares host others q := by
  induction h generalizing p with
  | done x => exact hspans
  | ask ha _ ih =>
    obtain ⟨hq, hnext⟩ := Course.within_ask.1 hw
    obtain ⟨hbefore, hafter⟩ := hspans
    exact (hbefore.trans (ha.spares hq host others)).trans (ih (hnext _) hafter)
  | wait _ ih => exact ih (Course.within_wait.1 hw) hspans

/-- However the work runs, begun with one stock it ends with a result and a stock in `Q`. The other
devices are spared. -/
structure Takes (link : Nat) (host : String) (l : Stock) (w : Work α) (Q : α → Stock → Prop) :
    Prop where
  ends : ∀ others i log x p q, w.Runs i log x → Spans (Spares host others) p log q →
    p.Stocked link host l →
      ∃ l', q.Stocked link host l' ∧ p.SparesOthers host others q ∧ Q x l'

namespace Takes

variable {l : Stock} {w : Work α} {Q Q' : α → Stock → Prop}

theorem mono (h : Takes link host l w Q) (hQ : ∀ x l', Q x l' → Q' x l') :
    Takes link host l w Q' := by
  refine ⟨fun others i log x p q hrun hspans hp => ?_⟩
  obtain ⟨l', hq, hothers, hx⟩ := h.ends others i log x p q hrun hspans hp
  exact ⟨l', hq, hothers, hQ x l' hx⟩

theorem bind {f : α → Work β} {R : β → Stock → Prop} (h : Takes link host l w Q)
    (hf : ∀ x l', Q x l' → Takes link host l' (f x) R) : Takes link host l (w >>= f) R := by
  refine ⟨fun others i log y p q hrun hspans hp => ?_⟩
  obtain ⟨l₁, x, l₂, h₁, h₂, rfl⟩ := Work.runs_bind.1 hrun
  obtain ⟨m, hm, hq⟩ := spans_append (Spares.refl host others) hspans
  obtain ⟨l', hl', hfirst, hx⟩ := h.ends others i l₁ x p m h₁ hm hp
  obtain ⟨l'', hl'', hthen, hy⟩ := (hf x l' hx).ends others i l₂ y m q h₂ hq hl'
  exact ⟨l'', hl'', hfirst.trans hthen, hy⟩

theorem pure {x : α} (h : Q x l) : Takes link host l (pure x : Work α) Q := by
  refine ⟨fun others i log y p q hrun hspans hp => ?_⟩
  obtain ⟨rfl, rfl⟩ := Work.runs_pure.1 hrun
  exact ⟨l, Spares.stocked hspans hp, Spares.others hspans, h⟩

/-- Work that writes nothing leaves the stock alone. -/
theorem of_within (hw : w.Within Action.SparesNodes) :
    Takes link host l w fun _ l' => l' = l := by
  refine ⟨fun others i log x p q hrun hspans hp => ?_⟩
  have hspared := hrun.spares hw hspans
  exact ⟨l, hspared.stocked hp, hspared.others, rfl⟩

theorem aside {f : α → Work β} {R : β → Stock → Prop} (hw : w.Within Action.SparesNodes)
    (hf : ∀ x, Takes link host l (f x) R) : Takes link host l (w >>= f) R := by
  refine bind (of_within hw) fun x l' hl' => ?_
  rw [hl']
  exact hf x

/-- An action that writes nothing, of which the answer is told. -/
theorem perform {a : Action} {R : a.Answer → Prop} (ha : a.SparesNodes)
    (hR : ∀ (p q : Plant) answer, p.Stocked link host l → p.Answers a answer q → R answer) :
    Takes link host l a.perform fun x l' => l' = l ∧ R x := by
  refine ⟨fun others i log x p q hrun hspans hp => ?_⟩
  obtain ⟨p', q', hanswers, rfl⟩ := Work.runs_perform.1 hrun
  obtain ⟨hbefore, hafter⟩ := hspans
  have hspared := (hbefore.trans (hanswers.spares ha host others)).trans hafter
  exact ⟨l, hspared.stocked hp, hspared.others, rfl,
    hR p' q' x (hbefore.stocked hp) hanswers⟩

theorem read (reference : String) (constraint : Constraint) :
    Takes link host l (Action.read link reference constraint).perform fun x l' => l' = l ∧
      ∀ node, x = .ok node → l.model.findNode? reference constraint = some node := by
  refine perform trivial ?_
  rintro p q answer hp ha node rfl
  exact ha.stock_read hp

theorem retrieve : Takes link host l (Action.retrieve link).perform fun x l' => l' = l ∧
    ∀ m, x = .ok m → m.plain = l.model := by
  refine perform trivial ?_
  rintro p q answer hp ha m rfl
  exact ha.stock_retrieve hp

theorem write (node : Node) :
    Takes link host l (Action.write link node).perform fun x l' => match x with
      | .ok _ => (l.model.findNode? node.reference node.constraint).isSome = true ∧
          l' = l.after [node]
      | .error _ => l' = l := by
  refine ⟨fun others i log x p q hrun hspans hp => ?_⟩
  obtain ⟨p', q', ha, rfl⟩ := Work.runs_perform.1 hrun
  obtain ⟨hbefore, hafter⟩ := hspans
  have hwritten := ha.stock_write (hbefore.stocked hp)
  have hothers : p.SparesOthers host others q :=
    (hbefore.others.trans (ha.sparesOthers_write (hbefore.leads link hp.leads))).trans
      (Spares.others hafter)
  cases x with
  | ok u => exact ⟨l.after [node], Spares.stocked hafter hwritten.2, hothers, hwritten.1, rfl⟩
  | error f => exact ⟨l, Spares.stocked hafter hwritten, hothers, rfl⟩

/-! ## Attempts -/

section
variable {v : Attempt α} {Q : Except Failure α → Stock → Prop}
  {R : Except Failure β → Stock → Prop}

/-- One attempt after another, which comes to nothing if the first one fails. -/
theorem andThen {f : α → Attempt β} (h : Takes link host l v.run Q)
    (hf : ∀ a l', Q (.ok a) l' → Takes link host l' (f a).run R)
    (he : ∀ e l', Q (.error e) l' → R (.error e) l') : Takes link host l (v >>= f).run R := by
  rw [ExceptT.run_bind]
  refine bind h fun x l' hx => ?_
  cases x with
  | ok a => exact hf a l' hx
  | error e => exact pure (he e l' hx)

/-- Work that cannot fail, and then an attempt. -/
theorem liftThen {w : Work β} {f : β → Attempt α} {P : β → Stock → Prop}
    (hw : Takes link host l w P) (hf : ∀ b l', P b l' → Takes link host l' (f b).run Q) :
    Takes link host l ((liftM w : Attempt β) >>= f).run Q := by
  rw [ExceptT.run_bind, Attempt.run_lift, bind_assoc]
  exact bind hw hf

theorem asideThen {w : Work β} {f : β → Attempt α} (hw : w.Within Action.SparesNodes)
    (hf : ∀ b, Takes link host l (f b).run Q) :
    Takes link host l ((liftM w : Attempt β) >>= f).run Q := by
  rw [ExceptT.run_bind, Attempt.run_lift, bind_assoc]
  exact aside hw hf

theorem ofMisfit {x : Except Misfit α} :
    Takes link host l (Attempt.ofMisfit x).run fun y l' => l' = l ∧ match y with
      | .ok a => x = .ok a
      | .error e => ∃ m, x = .error m ∧ e = .configuration m := by
  cases x with
  | ok a => exact pure ⟨rfl, rfl⟩
  | error m => exact pure ⟨rfl, m, rfl, rfl⟩

theorem ofFault {w : Work (Except Fault α)} {Q : Except Fault α → Stock → Prop}
    (h : Takes link host l w Q) :
    Takes link host l (Attempt.ofFault w).run fun x l' =>
      ∃ y, x = y.mapError Fault.raise ∧ Q y l' := by
  refine ⟨fun others i log x p q hrun hspans hp => ?_⟩
  obtain ⟨y, hy, rfl⟩ := Attempt.runs_ofFault.1 hrun
  obtain ⟨l', hq, hothers, hQ⟩ := h.ends others i log y p q hy hspans hp
  exact ⟨l', hq, hothers, y, rfl, hQ⟩

/-- An attempt that is tried again: each attempt is begun with a stock in `J`, and ends with one in
`J` if it is refused. -/
theorem retried {J : Stock → Prop} (policy : Policy) (hl : J l)
    (h : ∀ l, J l → Takes link host l v.run fun x l' =>
      (∀ n, Q (Policy.conclusion n x) l') ∧ (Policy.isRefusal x = true → J l')) :
    Takes link host l (Attempt.retried policy v).run Q := by
  have hcount : ∀ c n, (Action.count c n).perform.Within Action.SparesNodes :=
    fun c n => Course.within_query trivial
  have hconclude : ∀ {x : Except Failure α} {l' : Stock} (n : Nat),
      Q (Policy.conclusion n x) l' →
        Takes link host l' (Policy.conclude (m := Work) n x) Q := by
    intro x l' n hx
    exact aside (hcount _ 1) fun _ => pure hx
  -- The number of attempts does not matter, only that each of them is begun with a stock in `J`.
  show Takes link host l (policy.executeFrom v.run 0 (policy.attempts - 1)) Q
  generalize policy.attempts - 1 = left
  generalize 0 = tried
  induction left generalizing tried l with
  | zero => exact bind (h l hl) fun x l' hx => hconclude _ (hx.1 _)
  | succ left ih =>
    refine bind (h l hl) fun x l' hx => ?_
    by_cases hrefused : Policy.isRefusal x = true
    · simp only [hrefused, if_true]
      refine aside (hcount _ 1) fun _ => aside (Course.within_pause _) fun _ => ?_
      exact ih (hx.2 hrefused) _
    · simp only [hrefused, if_false, Bool.false_eq_true]
      exact hconclude _ (hx.1 _)

/-- What does not fit is passed over, and any other failure is told. -/
theorem passOver {R : Except Failure (Except String α) → Stock → Prop} (entry : String)
    (h : Takes link host l v.run Q) (hok : ∀ a l', Q (.ok a) l' → R (.ok (.ok a)) l')
    (hmisfit : ∀ e l', Q (.error e) l' → e.isMisfit = true → R (.ok (.error entry)) l')
    (herror : ∀ e l', Q (.error e) l' → e.isMisfit = false → R (.error e) l') :
    Takes link host l (Gateway.passOver entry v).run R := by
  refine bind h fun x l' hx => ?_
  cases x with
  | ok a => exact pure (hok a l' hx)
  | error e =>
    cases he : e.isMisfit with
    | true =>
      have hcount : (Action.count .filtersSkipped 1).perform.Within Action.SparesNodes :=
        Course.within_query trivial
      simp only [he, if_true]
      exact aside hcount fun _ => pure (hmisfit e l' hx he)
    | false =>
      simp only [he, Bool.false_eq_true, if_false]
      exact pure (herror e l' hx he)

end

end Takes

end Work

/-! ## Requests over a session -/

namespace Session

open Work

variable {l : Stock} (s : Session) (a : Address)

theorem takes_ensureOpen : Takes link host l s.ensureOpen.run fun x l' => l' = l ∧
    ∀ e, x = .error e → e.isMisfit = false := by
  have hlook : (Action.isOpen s.link).perform.Within Action.SparesNodes :=
    Course.within_query trivial
  unfold ensureOpen
  refine Takes.asideThen hlook fun isOpen => ?_
  split
  · exact Takes.pure ⟨rfl, nofun⟩
  · refine Takes.pure ⟨rfl, ?_⟩
    rintro e he
    cases he
    rfl

/-- What is read is the node as the device has it. -/
theorem takes_read : Takes s.link host l (s.read a).run fun x l' => l' = l ∧
    ∀ node, x = .ok node → ∃ place, s.locate a = .ok place ∧
      l.model.findNode? place.reference place.constraint = some node := by
  have hlatency : (Action.latency .reading).perform.Within Action.SparesNodes :=
    Course.within_query trivial
  unfold read
  refine Takes.andThen s.takes_ensureOpen (fun _ l' hl' => ?_) fun e l' h => ⟨h.1, nofun⟩
  refine Takes.andThen Takes.ofMisfit (fun place l'' hl'' => ?_) fun e l'' h =>
    ⟨h.1.trans hl'.1, nofun⟩
  obtain ⟨rfl, -⟩ := hl'
  obtain ⟨rfl, hplace⟩ := hl''
  refine Takes.asideThen hlatency fun n => ?_
  refine Takes.asideThen (Course.within_pause _) fun _ => ?_
  refine (Takes.ofFault (Takes.read place.reference place.constraint)).mono ?_
  rintro x l' ⟨answer, rfl, rfl, hnode⟩
  refine ⟨rfl, ?_⟩
  rintro node hx
  cases answer with
  | ok node' =>
    obtain rfl := Except.ok.inj hx
    exact ⟨place, hplace, hnode node' rfl⟩
  | error f => cases hx

/-- What is written is the node as the device offered it, with the value. -/
theorem takes_write (path : String) (value : Value) :
    Takes s.link host l (s.write a path value).run fun x l' => match x with
      | .ok _ => ∃ place, s.locate a = .ok place ∧
          (l.model.findNode? place.reference place.constraint).isSome = true ∧
          l' = l.after [place.set path value]
      | .error e => l' = l ∧ (e.isMisfit = true → ∃ m, s.locate a = .error m) := by
  unfold write
  refine Takes.andThen s.takes_ensureOpen (fun _ l' hl' => ?_) fun e l' h => ⟨h.1, fun he => ?_⟩
  · refine Takes.andThen Takes.ofMisfit (fun place l'' hl'' => ?_) ?_
    · obtain ⟨rfl, -⟩ := hl'
      obtain ⟨rfl, hplace⟩ := hl''
      refine (Takes.ofFault (Takes.write (place.set path value))).mono ?_
      rintro x l' ⟨answer, rfl, hwritten⟩
      cases answer with
      | ok u => exact ⟨place, hplace, hwritten.1, hwritten.2⟩
      | error f => exact ⟨hwritten, fun he => by cases f <;> cases he⟩
    · rintro e l'' ⟨rfl, m, hm, -⟩
      exact ⟨hl'.1, fun _ => ⟨m, hm⟩⟩
  · rw [h.2 e rfl] at he
    cases he

/-! ## Opening a session -/

/-- A device that tells its model in time tells what it has. -/
theorem takes_retrieve (limit : UInt64) :
    Takes link host l (retrieve link limit).run fun x l' => l' = l ∧
      ∀ m, x = .ok m → m.plain = l.model := by
  have hlatency : (Action.latency .retrieving).perform.Within Action.SparesNodes :=
    Course.within_query trivial
  have htold : Takes link host l (within limit .retrieving (Action.retrieve link).perform)
      fun x l' => l' = l ∧ ∀ m, x = some (.ok m) → m.plain = l.model := by
    refine Takes.aside hlatency fun n => ?_
    split
    · refine Takes.aside (Course.within_pause _) fun _ => ?_
      refine Takes.bind Takes.retrieve fun x l' hx => ?_
      exact Takes.pure ⟨hx.1, fun m hm => hx.2 m (Option.some.inj hm)⟩
    · exact Takes.aside (Course.within_pause _) fun _ => Takes.pure ⟨rfl, nofun⟩
  have hfails : ∀ (l : Stock) (f : Failure),
      Takes link host l (do (Action.release link).perform; refuse f : Attempt ServerModel).run
        fun x l' => l' = l ∧ ∀ m, x = .ok m → m.plain = l.model := by
    intro l f
    refine Takes.asideThen (Course.within_query (trivial : (Action.release link).SparesNodes))
      fun _ => ?_
    refine Takes.asideThen (Course.within_query
      (trivial : (Action.count .connectionFailures 1).SparesNodes)) fun _ => ?_
    exact Takes.pure ⟨rfl, nofun⟩
  unfold retrieve
  refine Takes.liftThen htold ?_
  rintro x l' ⟨rfl, hx⟩
  split
  · next m => exact Takes.pure ⟨rfl, fun m' hm => hx m' (by rw [← Except.ok.inj hm])⟩
  · exact hfails l' _
  · exact hfails l' _

variable {i : Nat} {log : List Entry} {identity : Identity} {approach : Approach}
  {listener : Listener} {p q : Plant}

theorem stocked_of_associate
    (h : (associate identity approach listener).run.Runs i log (.ok link))
    (hspans : Spans (Spares identity.host others) p log q)
    (hp : p.stock? identity.host = some l) :
    q.Stocked link identity.host l ∧ p.SparesOthers identity.host others q := by
  have hspares : Course.Within Action.SparesNodes (associate identity approach listener).run :=
    (within_opens_associate identity approach listener).mono fun _ => Action.sparesNodes_of_opens
  have hspared := h.spares hspares hspans
  refine ⟨⟨?_, hspared.stock.trans hp⟩, hspared.others⟩
  obtain ⟨l₁, x, l₂, h₁, h₂, rfl⟩ := Attempt.runs_liftThen.1 h
  obtain ⟨p₁, n, q₁, part, rfl, hpart⟩ := runs_within h₁
  rcases hpart with ⟨-, answer, hanswer, rfl⟩ | ⟨-, rfl, rfl⟩
  · obtain ⟨p₂, q₂, ha, rfl⟩ := Work.runs_perform.1 hanswer
    cases answer with
    | ok link' =>
      obtain ⟨rfl, hlink⟩ := Attempt.runs_pure.1 h₂
      obtain rfl := Except.ok.inj hlink
      obtain ⟨-, -, hafter⟩ := hspans
      obtain ⟨rfl, hlinks⟩ := ha.associate
      refine Spares.leads hafter _ ?_
      unfold Plant.host?
      rw [hlinks, List.getElem?_concat_length]
      rfl
    | error f =>
      obtain ⟨hfails, -⟩ := runs_refuse h₂
      cases hfails
  · obtain ⟨hfails, -⟩ := runs_refuse h₂
    cases hfails

/-- A session with a device that tells its model begins with what the device has. -/
theorem stocked_of_connect {s : Session} (hlive : approach.template = none)
    (h : (connect identity approach listener).run.Runs i log (.ok s))
    (hspans : Spans (Spares identity.host others) p log q)
    (hp : p.stock? identity.host = some l) : s.identity = identity ∧ s.model.plain = l.model ∧
      q.Stocked s.link identity.host l ∧ p.SparesOthers identity.host others q := by
  unfold connect at h
  rw [hlive] at h
  rcases Attempt.runs_bind.1 h with ⟨l₁, link, l₂, h₁, h₂, rfl⟩ | ⟨e, -, he⟩
  · obtain ⟨m, hfirst, hthen⟩ := spans_append (Spares.refl _ _) hspans
    have hopens : Takes link identity.host l
        (do let model ← retrieve link approach.limit
            Paced.count (m := Work) .sessionsOpened
            return ⟨identity, model, link⟩ : Attempt Session).run
        fun x l' => l' = l ∧ ∀ s, x = .ok s →
          s.identity = identity ∧ s.model.plain = l.model ∧ s.link = link := by
      refine Takes.andThen (takes_retrieve approach.limit) ?_ fun e l' hx => ⟨hx.1, nofun⟩
      rintro model l' ⟨rfl, hmodel⟩
      refine Takes.asideThen (Course.within_query
        (trivial : (Action.count .sessionsOpened 1).SparesNodes)) fun _ => ?_
      refine Takes.pure ⟨rfl, fun s hs => ?_⟩
      obtain rfl := Except.ok.inj hs
      exact ⟨rfl, hmodel model rfl, rfl⟩
    obtain ⟨hlinked, hassociating⟩ := stocked_of_associate h₁ hfirst hp
    obtain ⟨l', hstocked, hretrieving, rfl, hs⟩ :=
      hopens.ends others i l₂ (.ok s) m q h₂ hthen hlinked
    obtain ⟨hidentity, hmodel, rfl⟩ := hs s rfl
    exact ⟨hidentity, hmodel, hstocked, hassociating.trans hretrieving⟩
  · cases he

end Session

end FieldGateway
