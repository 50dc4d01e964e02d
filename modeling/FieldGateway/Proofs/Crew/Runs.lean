import FieldGateway.Plant.Agenda
import FieldGateway.Proofs.Course.Protocol
import FieldGateway.Proofs.Crew.Basic

/-!
# Runs taken apart

A run of a course is taken apart along the course: one course after another runs in two parts, an
attempt that fails ends those behind it, a list of attempts runs part by part.

* `Work.runs_bind`, `Attempt.runs_bind`: one course, or one attempt, after another.
* `Attempt.runs_mapM`: the same attempt for each of a list.
* `Attempt.runs_retried`: an attempt that is tried again.
* `Protocol.Conforms.leads`: where a run leads to, by a protocol that the course keeps.
* `Spans`: what a run leads to, with what else may happen in the meantime.
* `Crew.Step.runs`: what a course of a crew did, and what is left of it, are a run of it.
-/

namespace FieldGateway

variable {α β : Type} {i : Nat} {log : List Entry}

/-- A list that is taken apart at an element has it as its last one, or the last one behind it. -/
theorem snoc_eq {l early late : List α} {d e : α} (h : l ++ [d] = early ++ e :: late) :
    (l = early ∧ d = e ∧ late = []) ∨ ∃ late', late = late' ++ [d] ∧ l = early ++ e :: late' := by
  rcases List.eq_nil_or_concat late with rfl | ⟨late', f, rfl⟩
  · obtain ⟨rfl, hd⟩ := List.append_inj' h rfl
    exact .inl ⟨rfl, List.singleton_inj.1 hd, rfl⟩
  · rw [List.concat_eq_append, ← List.cons_append, ← List.append_assoc] at h
    obtain ⟨hl, hd⟩ := List.append_inj' h rfl
    exact .inr ⟨late', by rw [List.concat_eq_append, List.singleton_inj.1 hd], hl⟩

/-! ## Courses -/

namespace Work

theorem runs_bind {c : Work α} {f : α → Work β} {r : β} :
    (c >>= f).Runs i log r ↔
      ∃ l₁ a l₂, c.Runs i l₁ a ∧ (f a).Runs i l₂ r ∧ log = l₁ ++ l₂ := by
  constructor
  · intro h
    induction c generalizing log with
    | done a => exact ⟨[], a, log, .done a, h, rfl⟩
    | ask q next ih =>
      cases h with
      | ask ha h =>
        obtain ⟨l₁, a, l₂, h₁, h₂, rfl⟩ := ih _ h
        exact ⟨_ :: l₁, a, l₂, .ask ha h₁, h₂, rfl⟩
    | wait ms next ih =>
      cases h with
      | wait h =>
        obtain ⟨l₁, a, l₂, h₁, h₂, hlog⟩ := ih h
        exact ⟨l₁, a, l₂, .wait h₁, h₂, hlog⟩
  · rintro ⟨l₁, a, l₂, h₁, h₂, rfl⟩
    induction h₁ with
    | done a => exact h₂
    | ask ha _ ih => exact .ask ha (ih h₂)
    | wait _ ih => exact .wait (ih h₂)

theorem runs_pure {a r : α} : (pure a : Work α).Runs i log r ↔ log = [] ∧ r = a := by
  constructor
  · intro h
    cases h
    exact ⟨rfl, rfl⟩
  · rintro ⟨rfl, rfl⟩
    exact .done r

theorem runs_perform {a : Action} {r : a.Answer} :
    a.perform.Runs i log r ↔ ∃ p q, Plant.Answers p a r q ∧ log = [⟨p, .did i a r, q⟩] := by
  constructor
  · intro h
    cases h with
    | @ask _ _ answer p q log r ha h =>
      cases h
      exact ⟨p, q, ha, rfl⟩
  · rintro ⟨p, q, ha, rfl⟩
    exact .ask ha (.done r)

theorem runs_pause {ms : Nat} {u : Unit} :
    Runs i (Course.pause ms : Work Unit) log u ↔ log = [] := by
  unfold Course.pause
  split
  · exact runs_pure.trans (and_iff_left rfl)
  · constructor
    · intro h
      cases h with
      | wait h => exact (runs_pure.1 h).1
    · rintro rfl
      exact .wait (.done _)

end Work

/-! ## Attempts -/

namespace Attempt

variable {r : Except Failure β}

theorem runs_bind {w : Attempt α} {f : α → Attempt β} :
    (w >>= f).run.Runs i log r ↔
      (∃ l₁ a l₂, w.run.Runs i l₁ (.ok a) ∧ (f a).run.Runs i l₂ r ∧ log = l₁ ++ l₂) ∨
        ∃ e, w.run.Runs i log (.error e) ∧ r = .error e := by
  rw [ExceptT.run_bind, Work.runs_bind]
  constructor
  · rintro ⟨l₁, x, l₂, h₁, h₂, rfl⟩
    cases x with
    | ok a => exact .inl ⟨l₁, a, l₂, h₁, h₂, rfl⟩
    | error e =>
      obtain ⟨rfl, rfl⟩ := Work.runs_pure.1 h₂
      exact .inr ⟨e, by rwa [List.append_nil], rfl⟩
  · rintro (⟨l₁, a, l₂, h₁, h₂, rfl⟩ | ⟨e, h, rfl⟩)
    · exact ⟨l₁, .ok a, l₂, h₁, h₂, rfl⟩
    · exact ⟨log, .error e, [], h, Work.runs_pure.2 ⟨rfl, rfl⟩, (List.append_nil _).symm⟩

theorem runs_pure {b : β} : (pure b : Attempt β).run.Runs i log r ↔ log = [] ∧ r = .ok b :=
  Work.runs_pure

theorem runs_throw {e : Failure} :
    (throw e : Attempt β).run.Runs i log r ↔ log = [] ∧ r = .error e := Work.runs_pure

theorem runs_ofExcept {x : Except Failure β} :
    (ofExcept x).run.Runs i log r ↔ log = [] ∧ r = x := Work.runs_pure

theorem runs_ofMisfit {x : Except Misfit β} :
    (ofMisfit x).run.Runs i log r ↔ log = [] ∧ r = x.mapError .configuration := Work.runs_pure

/-- How something that may be a misfit ends. -/
theorem cases_ofMisfit {x : Except Misfit β} (h : (ofMisfit x).run.Runs i log r) :
    log = [] ∧ match r with
      | .ok b => x = .ok b
      | .error e => ∃ m, x = .error m ∧ e = .configuration m := by
  obtain ⟨rfl, rfl⟩ := runs_ofMisfit.1 h
  cases x with
  | ok b => exact ⟨rfl, rfl⟩
  | error m => exact ⟨rfl, m, rfl, rfl⟩

theorem runs_lift {w : Work β} :
    (liftM w : Attempt β).run.Runs i log r ↔ ∃ b, w.Runs i log b ∧ r = .ok b := by
  rw [run_lift, Work.runs_bind]
  constructor
  · rintro ⟨l₁, b, l₂, h₁, h₂, rfl⟩
    obtain ⟨rfl, rfl⟩ := Work.runs_pure.1 h₂
    exact ⟨b, by rwa [List.append_nil], rfl⟩
  · rintro ⟨b, h, rfl⟩
    exact ⟨log, b, [], h, Work.runs_pure.2 ⟨rfl, rfl⟩, (List.append_nil _).symm⟩

theorem runs_ofFault {w : Work (Except Fault β)} :
    (ofFault w).run.Runs i log r ↔ ∃ x, w.Runs i log x ∧ r = x.mapError Fault.raise := by
  constructor
  · intro h
    obtain ⟨l₁, x, l₂, h₁, h₂, rfl⟩ := Work.runs_bind.1 h
    obtain ⟨rfl, rfl⟩ := Work.runs_pure.1 h₂
    exact ⟨x, by rwa [List.append_nil], rfl⟩
  · rintro ⟨x, h, rfl⟩
    exact Work.runs_bind.2
      ⟨log, x, [], h, Work.runs_pure.2 ⟨rfl, rfl⟩, (List.append_nil _).symm⟩

theorem runs_result {w : Attempt β} {r : Except Failure (Except Failure β)} :
    (result w).run.Runs i log r ↔ ∃ x, w.run.Runs i log x ∧ r = .ok x := runs_lift (w := w.run)

/-- Work that cannot fail, and then an attempt. -/
theorem runs_liftThen {w : Work α} {f : α → Attempt β} :
    ((liftM w : Attempt α) >>= f).run.Runs i log r ↔
      ∃ l₁ a l₂, w.Runs i l₁ a ∧ (f a).run.Runs i l₂ r ∧ log = l₁ ++ l₂ := by
  rw [ExceptT.run_bind, run_lift, bind_assoc]
  exact Work.runs_bind

end Attempt

/-! ## Lists of attempts -/

/-- Each element of a list runs in turn, with its own part of the log and its own result. -/
inductive Each (R : α → List Entry → β → Prop) : List α → List Entry → List β → Prop
  | nil : Each R [] [] []
  | cons {a : α} {l : List α} {b : β} {bs : List β} {part log : List Entry}
      (h : R a part b) (hs : Each R l log bs) : Each R (a :: l) (part ++ log) (b :: bs)

/-- The elements of a list run in turn up to one that fails. -/
inductive Halts (R : α → List Entry → β → Prop) (F : α → List Entry → Failure → Prop) :
    List α → List Entry → Failure → Prop
  | here {a : α} {l : List α} {log : List Entry} {e : Failure} (h : F a log e) :
      Halts R F (a :: l) log e
  | later {a : α} {l : List α} {b : β} {part log : List Entry} {e : Failure}
      (h : R a part b) (hs : Halts R F l log e) : Halts R F (a :: l) (part ++ log) e

section
variable {γ : Type} {R : α → List Entry → β → Prop} {R' : α → List Entry → γ → Prop}
  {F F' : α → List Entry → Failure → Prop} {l : List α} {bs : List β} {e : Failure}

theorem Each.exists_zipWith (h : Each R l log bs) (f : α → γ → β)
    (hR : ∀ a part b, R a part b → ∃ c, R' a part c ∧ b = f a c) :
    ∃ cs, Each R' l log cs ∧ bs = List.zipWith f l cs := by
  induction h with
  | nil => exact ⟨[], .nil, rfl⟩
  | cons h _ ih =>
    obtain ⟨c, hc, rfl⟩ := hR _ _ _ h
    obtain ⟨cs, hcs, rfl⟩ := ih
    exact ⟨c :: cs, .cons hc hcs, rfl⟩

theorem Each.mono_mem {R' : α → List Entry → β → Prop} (h : Each R l log bs)
    (hR : ∀ a ∈ l, ∀ part b, R a part b → R' a part b) : Each R' l log bs := by
  induction h with
  | nil => exact .nil
  | cons h _ ih =>
    obtain ⟨ha, hl⟩ := List.forall_mem_cons.1 hR
    exact .cons (ha _ _ h) (ih hl)

theorem Each.mono {R' : α → List Entry → β → Prop} (h : Each R l log bs)
    (hR : ∀ a part b, R a part b → R' a part b) : Each R' l log bs :=
  h.mono_mem fun a _ => hR a

theorem Halts.mono (h : Halts R F l log e) (hR : ∀ a part b, R a part b → ∃ c, R' a part c)
    (hF : ∀ a log e, F a log e → F' a log e) : Halts R' F' l log e := by
  induction h with
  | here h => exact .here (hF _ _ _ h)
  | later h _ ih =>
    obtain ⟨c, hc⟩ := hR _ _ _ h
    exact .later hc ih

theorem Halts.exists_fails (h : Halts R F l log e) : ∃ a ∈ l, ∃ part, F a part e := by
  induction h with
  | here h => exact ⟨_, List.mem_cons_self, _, h⟩
  | later _ _ ih =>
    obtain ⟨a, ha, part, h⟩ := ih
    exact ⟨a, List.mem_cons_of_mem _ ha, part, h⟩

theorem Each.length_eq (h : Each R l log bs) : bs.length = l.length := by
  induction h with
  | nil => rfl
  | cons _ _ ih => exact congrArg (· + 1) ih

end

namespace Attempt

/-- The same attempt for each of a list: all succeed in turn, or one fails. -/
theorem runs_mapM {f : α → Attempt β} {l : List α} {r : Except Failure (List β)} :
    (l.mapM f).run.Runs i log r → match r with
    | .ok bs => Each (fun a part b => (f a).run.Runs i part (.ok b)) l log bs
    | .error e => Halts (fun a part b => (f a).run.Runs i part (.ok b))
        (fun a log e => (f a).run.Runs i log (.error e)) l log e := by
  intro h
  induction l generalizing log r with
  | nil =>
    obtain ⟨rfl, rfl⟩ := runs_pure.1 h
    exact .nil
  | cons a l ih =>
    rw [List.mapM_cons] at h
    rcases runs_bind.1 h with ⟨l₁, b, rest, h₁, hrest, rfl⟩ | ⟨e, h₁, rfl⟩
    · rcases runs_bind.1 hrest with ⟨l₂, bs, l₃, h₂, h₃, rfl⟩ | ⟨e, h₂, rfl⟩
      · obtain ⟨rfl, rfl⟩ := runs_pure.1 h₃
        rw [List.append_nil]
        exact .cons h₁ (ih h₂)
      · exact .later h₁ (ih h₂)
    · exact .here h₁

end Attempt

/-! ## Trying again -/

namespace Policy

variable {p : Policy} {command : Work (Except Failure α)} {r : Except Failure α}

theorem runs_conclude {tried : Nat} {x : Except Failure α}
    (h : (conclude (m := Work) tried x).Runs i log r) :
    r = conclusion tried x ∧ ∃ p q c, c ∈ tally ∧ log = [⟨p, .did i (.count c 1) (), q⟩] := by
  obtain ⟨l₁, u, l₂, h₁, h₂, rfl⟩ := Work.runs_bind.1 h
  obtain ⟨rfl, rfl⟩ := Work.runs_pure.1 h₂
  obtain ⟨p, q, -, rfl⟩ := Work.runs_perform.1 h₁
  refine ⟨rfl, p, q, _, ?_, rfl⟩
  split <;> simp [tally]

/-- Holds of what belongs to an attempt that was refused, or counts it. -/
def Spent (i : Nat) (command : Work (Except Failure α)) (e : Entry) : Prop :=
  (∃ l x, command.Runs i l x ∧ isRefusal x = true ∧ e ∈ l) ∨
    ∃ p q, e = ⟨p, .did i (.count .commandRetries 1) (), q⟩

/-- The last attempt decides; those before it were refused. -/
theorem runs_executeFrom {left tried : Nat}
    (h : (p.executeFrom command tried left).Runs i log r) :
    ∃ earlier last x n p q c, (∀ e ∈ earlier, Spent i command e) ∧ command.Runs i last x ∧
      r = conclusion n x ∧ c ∈ tally ∧
      log = earlier ++ (last ++ [⟨p, .did i (.count c 1) (), q⟩]) := by
  have ends : ∀ {tried l₁ l₂} {x : Except Failure α}, command.Runs i l₁ x →
      (conclude (m := Work) tried x).Runs i l₂ r → ∃ earlier last x n p q c,
        (∀ e ∈ earlier, Spent i command e) ∧ command.Runs i last x ∧ r = conclusion n x ∧
        c ∈ tally ∧ l₁ ++ l₂ = earlier ++ (last ++ [⟨p, .did i (.count c 1) (), q⟩]) := by
    intro tried l₁ l₂ x h₁ h₂
    obtain ⟨rfl, p, q, c, hc, rfl⟩ := runs_conclude h₂
    exact ⟨[], l₁, x, tried, p, q, c, by simp, h₁, rfl, hc, rfl⟩
  induction left generalizing tried log with
  | zero =>
    obtain ⟨l₁, x, l₂, h₁, h₂, rfl⟩ := Work.runs_bind.1 h
    exact ends h₁ h₂
  | succ left ih =>
    obtain ⟨l₁, x, l₂, h₁, h₂, rfl⟩ := Work.runs_bind.1 h
    by_cases hx : isRefusal x = true
    · simp only [hx, if_true] at h₂
      obtain ⟨l₃, _, l₄, h₃, h₄, rfl⟩ := Work.runs_bind.1 h₂
      obtain ⟨l₅, _, l₆, h₅, h₆, rfl⟩ := Work.runs_bind.1 h₄
      obtain ⟨p₃, q₃, -, rfl⟩ := Work.runs_perform.1 h₃
      obtain rfl := Work.runs_pause.1 h₅
      obtain ⟨earlier, last, y, n, p, q, c, hearlier, hlast, hr, hc, rfl⟩ := ih h₆
      refine ⟨l₁ ++ (⟨p₃, .did i (.count .commandRetries 1) (), q₃⟩ :: earlier), last, y, n, p, q,
        c, ?_, hlast, hr, hc, by simp⟩
      refine List.forall_mem_append.2 ⟨fun e he => .inl ⟨l₁, x, h₁, hx, he⟩, ?_⟩
      exact List.forall_mem_cons.2 ⟨.inr ⟨p₃, q₃, rfl⟩, hearlier⟩
    · simp only [hx, if_false, Bool.false_eq_true] at h₂
      exact ends h₁ h₂

end Policy

theorem Attempt.runs_retried {p : Policy} {w : Attempt α} {r : Except Failure α}
    (h : (retried p w).run.Runs i log r) :
    ∃ earlier last x n p q c, (∀ e ∈ earlier, Policy.Spent i w.run e) ∧ w.run.Runs i last x ∧
      r = Policy.conclusion n x ∧ c ∈ Policy.tally ∧
      log = earlier ++ (last ++ [⟨p, .did i (.count c 1) (), q⟩]) := Policy.runs_executeFrom h

/-! ## What runs keep to -/

/-- The course that did something. -/
def Entry.course? (e : Entry) : Option Nat :=
  match e.event with
  | .did i _ _ => some i
  | .met _ => none

/-- Holds of what a course did if `N` holds of the action. -/
def Entry.Kept (N : Action → Prop) (e : Entry) : Prop :=
  match e.event with
  | .did _ a _ => N a
  | .met _ => True

theorem Work.Runs.kept {c : Work α} {r : α} {N : Action → Prop} (h : c.Runs i log r)
    (hc : c.Within N) : ∀ e ∈ log, e.Kept N := by
  induction h with
  | done r => simp
  | ask ha _ ih =>
    obtain ⟨ha, hn⟩ := Course.within_ask.1 hc
    exact List.forall_mem_cons.2 ⟨ha, ih (hn _)⟩
  | wait _ ih => exact ih (Course.within_wait.1 hc)

section
variable {S : Type} {π : Protocol Action Action.Answer S} {x y : S}

/-- What a course did leads from one stage of a protocol to another. -/
inductive Protocol.Leads (π : Protocol Action Action.Answer S) : S → List Entry → S → Prop
  | refl (x : S) : Leads π x [] x
  | step {x y z : S} {i : Nat} {a : Action} {answer : a.Answer} {p q : Plant} {log : List Entry}
      (hs : π.step x a answer y) (h : Leads π y log z) :
      Leads π x (⟨p, .did i a answer, q⟩ :: log) z

/-- A run of a course that keeps to a protocol leads to where the course may end, if whatever was
answered on the way was admitted. -/
theorem Protocol.Conforms.leads {c : Work α} {r : α} {P : S → α → Prop} (h : π.Conforms x c P)
    (hr : c.Runs i log r)
    (hadm : ∀ before p a answer q after y, log = before ++ ⟨p, .did i a answer, q⟩ :: after →
      π.Leads x before y → π.admits y a answer) :
    ∃ y, π.Leads x log y ∧ P y r := by
  induction hr generalizing x with
  | done r => exact ⟨x, .refl x, h⟩
  | @ask a next answer p q log r ha _ ih =>
    obtain ⟨y, hs, hn⟩ := h answer (hadm [] p a answer q log x rfl (.refl x))
    obtain ⟨z, hz, hP⟩ := ih hn fun before p' b answer' q' after y' hlog hy =>
      hadm (⟨p, .did i a answer, q⟩ :: before) p' b answer' q' after y' (by rw [hlog]; rfl)
        (.step hs hy)
    exact ⟨z, .step hs hz, hP⟩
  | wait _ ih => exact ih h hadm

end

/-! ## Runs in a plant -/

section
variable {R : Plant → Plant → Prop} {p q : Plant} {log' : List Entry}

/-- A run leads from one plant to another, and what happened in between, which is not the run's, is
as `R` allows. -/
def Spans (R : Plant → Plant → Prop) (p : Plant) : List Entry → Plant → Prop
  | [], q => R p q
  | e :: log, q => R p e.before ∧ Spans R e.after log q

theorem spans_append (hrefl : ∀ p, R p p) (h : Spans R p (log ++ log') q) :
    ∃ m, Spans R p log m ∧ Spans R m log' q := by
  induction log generalizing p with
  | nil => exact ⟨p, hrefl p, h⟩
  | cons e log ih =>
    obtain ⟨hbefore, h⟩ := h
    obtain ⟨m, hm, hq⟩ := ih h
    exact ⟨m, ⟨hbefore, hm⟩, hq⟩

/-- What is allowed may also happen before a run. -/
theorem Spans.after {o : Plant} (htrans : ∀ {o p q}, R o p → R p q → R o q) (ho : R o p)
    (h : Spans R p log q) : Spans R o log q := by
  cases log with
  | nil => exact htrans ho h
  | cons e log => exact ⟨htrans ho h.1, h.2⟩

/-- What a course does that has a plant to itself. -/
def Plant.trace (i : Nat) : Work α → Plant → List Entry
  | .done _, _ => []
  | .wait ms rest, p => trace i rest { p with time := p.time + ms }
  | .ask a next, p =>
    ⟨p, .did i a (p.perform a).1, (p.perform a).2⟩ ::
      trace i (next (p.perform a).1) (p.perform a).2

theorem Plant.runs_trace (i : Nat) (c : Work α) (p : Plant) :
    c.Runs i (p.trace i c) (p.runAlone c).1 := by
  induction c generalizing p with
  | done a => exact .done a
  | ask a next ih => exact .ask (Plant.answers_perform a) (ih _ _)
  | wait ms rest ih => exact .wait (ih _)

theorem Plant.spans_trace (hrefl : ∀ p, R p p) (htrans : ∀ {o p q}, R o p → R p q → R o q)
    (htime : ∀ (p : Plant) (t : Nat), R p { p with time := t }) (i : Nat) (c : Work α)
    (p : Plant) : Spans R p (p.trace i c) (p.runAlone c).2 := by
  induction c generalizing p with
  | done a => exact hrefl p
  | ask a next ih => exact ⟨hrefl p, ih _ _⟩
  | wait ms rest ih => exact (ih _).after htrans (htime p _)

end

/-! ## Crews -/

/-- What a course did. -/
def entriesOf (i : Nat) (log : List Entry) : List Entry := log.filter (·.course? == some i)

theorem entriesOf_append (i : Nat) (l m : List Entry) :
    entriesOf i (l ++ m) = entriesOf i l ++ entriesOf i m := List.filter_append _ _

theorem mem_entriesOf {i : Nat} {e : Entry} :
    e ∈ entriesOf i log ↔ e ∈ log ∧ e.course? = some i := by
  simp [entriesOf, List.mem_filter]

/-- What a course of a crew does in a step stands before what is left of it. -/
theorem Crew.Step.runs {w w' : Crew α} (hs : w.Step w') {k' : Work α}
    (hk : w'.courses[i]? = some k') :
    ∃ k part, w.courses[i]? = some k ∧ entriesOf i w'.log = entriesOf i w.log ++ part ∧
      ∀ log r, k'.Runs i log r → k.Runs i (part ++ log) r := by
  cases hs with
  | @act j a next answer p hc ha =>
    rw [entriesOf_append]
    rcases Crew.of_set hk with ⟨rfl, rfl⟩ | ⟨hij, hk⟩
    · refine ⟨_, [⟨w.plant, .did i a answer, p⟩], hc, ?_, fun log r h => .ask ha h⟩
      simp [entriesOf, Entry.course?]
    · refine ⟨k', [], hk, ?_, fun log r h => h⟩
      simp [entriesOf, Entry.course?, Ne.symm hij]
  | @goOn j ms next hc =>
    rcases Crew.of_set hk with ⟨rfl, rfl⟩ | ⟨-, hk⟩
    · exact ⟨_, [], hc, (List.append_nil _).symm, fun log r h => .wait h⟩
    · exact ⟨k', [], hk, (List.append_nil _).symm, fun log r h => h⟩
  | meet e =>
    refine ⟨k', [], hk, ?_, fun log r h => h⟩
    rw [entriesOf_append]
    rfl

end FieldGateway
