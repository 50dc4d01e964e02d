import FieldGateway.Action

/-!
# Protocols of courses

A protocol says at which stage what may be asked, and to which stage an answer leads.
`π.Conforms x c P`: the course `c`, begun at stage `x`, asks nothing out of order as long as the
answers are ones the protocol admits, and ends at a stage and with a result in `P`.

* `Conforms.bind`, `Conforms.andThen`: one course, or one attempt, after another.
* `Conforms.of_within`: a course that asks only what leaves every stage alone ends where it began.
* `Conforms.execute`: a command that is tried again keeps to the protocol if each attempt does, and
  a failed attempt ends where it began.
-/

namespace FieldGateway

/-- The order in which questions may be asked. -/
structure Protocol (Q : Type) (A : Q → Type) (S : Type) where
  /-- Where a question and its answer lead from a stage. -/
  step : S → (q : Q) → A q → S → Prop
  /-- The answers that a question can have at a stage. -/
  admits : S → (q : Q) → A q → Prop

namespace Course

variable {Q : Type} {A : Q → Type} {α β : Type}

/-- All that a course may ask satisfies `N`. -/
def Within (N : Q → Prop) : Course Q A α → Prop
  | done _ => True
  | ask q next => N q ∧ ∀ a, (next a).Within N
  | wait _ next => next.Within N

variable {N : Q → Prop}

theorem Within.mono {N' : Q → Prop} {c : Course Q A α} (hc : c.Within N) (h : ∀ q, N q → N' q) :
    c.Within N' := by
  induction c with
  | done a => trivial
  | ask q next ih => exact ⟨h q hc.1, fun a => ih a (hc.2 a)⟩
  | wait ms next ih => exact ih hc

theorem Within.bind {c : Course Q A α} {f : α → Course Q A β} (hc : c.Within N)
    (hf : ∀ a, (f a).Within N) : (c >>= f).Within N := by
  induction c with
  | done a => exact hf a
  | ask q next ih => exact ⟨hc.1, fun a => ih a (hc.2 a)⟩
  | wait ms next ih => exact ih hc

theorem within_ask {q : Q} {next : A q → Course Q A α} :
    (ask q next).Within N ↔ N q ∧ ∀ a, (next a).Within N := Iff.rfl

theorem within_wait {ms : Nat} {next : Course Q A α} :
    (wait ms next).Within N ↔ next.Within N := Iff.rfl

theorem within_pure (a : α) : (pure a : Course Q A α).Within N := trivial

theorem within_query {q : Q} (h : N q) : (query q : Course Q A (A q)).Within N :=
  ⟨h, fun _ => trivial⟩

theorem within_pause (ms : Nat) : (pause ms : Course Q A Unit).Within N := by
  unfold pause
  split <;> trivial

end Course

namespace Attempt

variable {α β : Type} {N : Action → Prop}

theorem within_bind {w : Attempt α} {f : α → Attempt β} (hw : Course.Within N w.run)
    (hf : ∀ a, Course.Within N (f a).run) : Course.Within N (w >>= f).run := by
  rw [ExceptT.run_bind]
  refine hw.bind fun r => ?_
  cases r with
  | ok a => exact hf a
  | error e => exact Course.within_pure _

theorem within_pure (a : α) : Course.Within N (pure a : Attempt α).run := trivial

theorem within_throw (e : Failure) : Course.Within N (throw e : Attempt α).run := trivial

theorem within_ofExcept (r : Except Failure α) : Course.Within N (ofExcept r).run := trivial

theorem within_ofMisfit (r : Except Misfit α) : Course.Within N (ofMisfit r).run := trivial

theorem run_lift (w : Work α) : (liftM w : Attempt α).run = w >>= fun a => pure (.ok a) := rfl

theorem within_lift {w : Work α} (h : w.Within N) : Course.Within N (liftM w : Attempt α).run := by
  rw [run_lift]
  exact h.bind fun _ => trivial

theorem within_ofFault {w : Work (Except Fault α)} (h : w.Within N) :
    Course.Within N (ofFault w).run := h.bind fun _ => trivial

theorem within_forM {f : α → Attempt Unit} (hf : ∀ a, Course.Within N (f a).run) (l : List α) :
    Course.Within N (l.forM f).run := by
  induction l with
  | nil => exact within_pure ()
  | cons a r ih => exact within_bind (hf a) fun _ => ih

theorem within_mapM {f : α → Attempt β} (hf : ∀ a, Course.Within N (f a).run) (l : List α) :
    Course.Within N (l.mapM f).run := by
  induction l with
  | nil => exact within_pure []
  | cons a r ih =>
    rw [List.mapM_cons]
    exact within_bind (hf a) fun _ => within_bind ih fun _ => within_pure _

end Attempt

namespace Policy

variable {α : Type} {N : Action → Prop}

/-- What is counted of a command that is tried again. -/
def tally : List Counter := [.commandsExecuted, .commandFailures, .commandRetries]

theorem within_executeFrom (hN : ∀ c ∈ tally, N (.count c 1)) (p : Policy)
    {command : Work (Except Failure α)} (h : command.Within N) (left tried : Nat) :
    Course.Within N (p.executeFrom command tried left) := by
  have hend : ∀ (tried : Nat) (r : Except Failure α),
      Course.Within N (conclude (m := Work) tried r) := by
    intro tried r
    refine Course.Within.bind (Course.within_query (hN _ ?_)) fun _ => trivial
    split <;> simp [tally]
  induction left generalizing tried with
  | zero => exact h.bind fun r => hend _ r
  | succ left ih =>
    refine h.bind fun r => ?_
    by_cases hr : isRefusal r = true
    · simp only [hr, if_true]
      exact Course.Within.bind (Course.within_query (hN _ (by simp [tally]))) fun _ =>
        Course.Within.bind (Course.within_pause _) fun _ => ih (tried + 1)
    · simp only [hr, if_false, Bool.false_eq_true]
      exact hend _ r

end Policy

theorem Attempt.within_retried {α : Type} {N : Action → Prop}
    (hN : ∀ c ∈ Policy.tally, N (.count c 1)) (p : Policy) {w : Attempt α}
    (h : Course.Within N w.run) : Course.Within N (Attempt.retried p w).run :=
  Policy.within_executeFrom hN p h _ _

namespace Protocol

/-- The course, begun at the stage, keeps to the protocol and ends at a stage and with a result in
`P`. -/
def Conforms {Q : Type} {A : Q → Type} {S α : Type} (π : Protocol Q A S) :
    S → Course Q A α → (S → α → Prop) → Prop
  | x, .done a, P => P x a
  | x, .ask q next, P =>
    ∀ a, π.admits x q a → ∃ y, π.step x q a y ∧ Conforms π y (next a) P
  | x, .wait _ next, P => Conforms π x next P

/-- How an attempt ends: at a stage and with a result in `P`, or with a failure at one in `N`. -/
def Ends {S α : Type} (P : S → α → Prop) (N : S → Prop) : S → Except Failure α → Prop
  | y, .ok a => P y a
  | y, .error _ => N y

namespace Conforms

section
variable {Q : Type} {A : Q → Type} {S α β : Type} {π : Protocol Q A S} {x : S}

theorem mono {c : Course Q A α} {P P' : S → α → Prop} (h : π.Conforms x c P)
    (hP : ∀ y a, P y a → P' y a) : π.Conforms x c P' := by
  induction c generalizing x with
  | done a => exact hP _ _ h
  | ask q next ih =>
    intro a ha
    obtain ⟨y, hy, hn⟩ := h a ha
    exact ⟨y, hy, ih a hn⟩
  | wait ms next ih => exact ih h

theorem bind {c : Course Q A α} {f : α → Course Q A β} {P : S → β → Prop}
    (h : π.Conforms x c fun y a => π.Conforms y (f a) P) : π.Conforms x (c >>= f) P := by
  induction c generalizing x with
  | done a => exact h
  | ask q next ih =>
    intro a ha
    obtain ⟨y, hy, hn⟩ := h a ha
    exact ⟨y, hy, ih a hn⟩
  | wait ms next ih => exact ih h

theorem query {q : Q} {P : S → A q → Prop}
    (h : ∀ a, π.admits x q a → ∃ y, π.step x q a y ∧ P y a) :
    π.Conforms x (Course.query q) P := h

theorem pause {ms : Nat} {P : S → Unit → Prop} (h : P x ()) :
    π.Conforms x (Course.pause ms) P := by
  unfold Course.pause
  split <;> exact h

/-- What is asked leaves the stage alone. -/
theorem of_within {N : Q → Prop} {c : Course Q A α} (hc : c.Within N)
    (hN : ∀ q a, N q → π.step x q a x) : π.Conforms x c fun y _ => y = x := by
  induction c with
  | done a => rfl
  | ask q next ih => exact fun a _ => ⟨x, hN q a hc.1, ih a (hc.2 a)⟩
  | wait ms next ih => exact ih hc

end

section
variable {S α β : Type} {π : Protocol Action Action.Answer S} {x : S} {P : S → α → Prop}
  {N : S → Prop}

/-- One attempt after another, which comes to nothing if the first one fails. -/
theorem attempt {w : Attempt α} {f : α → Attempt β} {R : S → Except Failure α → Prop}
    {R' : S → Except Failure β → Prop} (h : π.Conforms x w.run R)
    (hf : ∀ y a, R y (.ok a) → π.Conforms y (f a).run R')
    (he : ∀ y e, R y (.error e) → R' y (.error e)) : π.Conforms x (w >>= f).run R' := by
  rw [ExceptT.run_bind]
  refine bind (h.mono fun y r hr => ?_)
  cases r with
  | ok a => exact hf y a hr
  | error e => exact he y e hr

/-- One attempt after another; a failure of the first one ends both. -/
theorem andThen {w : Attempt α} {f : α → Attempt β} {P' : S → β → Prop} {N' : S → Prop}
    (h : π.Conforms x w.run (Ends P N)) (hf : ∀ y a, P y a → π.Conforms y (f a).run (Ends P' N'))
    (hN : ∀ y, N y → N' y) : π.Conforms x (w >>= f).run (Ends P' N') :=
  h.attempt hf fun y _ hy => hN y hy

/-- Work that cannot fail, and then an attempt. -/
theorem liftThen {w : Work α} {f : α → Attempt β} {P : S → Except Failure β → Prop}
    (h : π.Conforms x w fun y a => π.Conforms y (f a).run P) :
    π.Conforms x ((liftM w : Attempt α) >>= f).run P := by
  rw [ExceptT.run_bind, Attempt.run_lift, bind_assoc]
  exact bind h

/-- An attempt that leaves the stage alone. -/
theorem ends_of_within {I : Action → Prop} {w : Attempt α} (hw : Course.Within I w.run)
    (hI : ∀ q a, I q → π.step x q a x) :
    π.Conforms x w.run (Ends (fun y _ => y = x) fun y => y = x) := by
  refine (of_within hw hI).mono fun y r hy => ?_
  cases r <;> exact hy

variable (hπ : ∀ y, ∀ c ∈ Policy.tally, π.step y (.count c 1) () y)
include hπ

theorem conclude {R : S → Except Failure α → Prop} {r : Except Failure α} (tried : Nat)
    (h : R x (Policy.conclusion tried r)) :
    π.Conforms x (Policy.conclude (m := Work) tried r) R := by
  refine bind (query fun _ _ => ⟨x, hπ x _ ?_, h⟩)
  split <;> simp [Policy.tally]

/-- Each attempt keeps to the protocol, and one that is refused ends where it began. -/
theorem executeFrom {R : S → Except Failure α → Prop} {p : Policy}
    {command : Work (Except Failure α)}
    (h : π.Conforms x command fun y r =>
      (∀ n, R y (Policy.conclusion n r)) ∧ (Policy.isRefusal r = true → y = x))
    (left tried : Nat) : π.Conforms x (p.executeFrom command tried left) R := by
  induction left generalizing tried with
  | zero => exact bind (h.mono fun y r hr => conclude hπ _ (hr.1 _))
  | succ left ih =>
    refine bind (h.mono fun y r hr => ?_)
    split
    · next hrefused =>
      obtain rfl : y = x := hr.2 hrefused
      exact bind (query fun _ _ =>
        ⟨_, hπ _ _ (by simp [Policy.tally]), bind (pause (ih (tried + 1)))⟩)
    · exact conclude hπ _ (hr.1 _)

/-- Each attempt keeps to the protocol, and a failed one ends where it began. -/
theorem execute {p : Policy} {command : Work (Except Failure α)}
    (h : π.Conforms x command (Ends P fun y => y = x)) :
    π.Conforms x (p.execute command) (Ends P fun y => y = x) := by
  refine executeFrom hπ (h.mono fun y r hr => ?_) _ _
  cases r with
  | ok a => exact ⟨fun n => hr, fun hrefused => by cases hrefused⟩
  | error e => exact ⟨fun n => hr, fun _ => hr⟩

theorem retried {p : Policy} {w : Attempt α} (h : π.Conforms x w.run (Ends P fun y => y = x)) :
    π.Conforms x (Attempt.retried p w).run (Ends P fun y => y = x) := execute hπ h

end

end Conforms

end Protocol

-- Whoever applies a lemma about `Within` would otherwise have the course of its statement run.
attribute [irreducible] Course.Within

end FieldGateway
