import FieldGateway.Proofs.Crew.Runs
import FieldGateway.Proofs.Gateway.Ending
import Mathlib.Logic.Function.Basic

/-!
# A session is closed once

Any number of those who share a session ask things of its device and end it, at once or after a
delay, and all of them may go on between any two actions of one. Whoever ends the session first
closes it, and nothing is asked over it by those who come later.

* `Session.Shared`: the crews of those who share a session.
* `Stance.Step`: how one of them stands to the session; each errand keeps to this protocol
  (`Errand.conforms`).
* `Session.Watched`: what is known of all of them, kept by every step (`Watched.step`).
* `Session.Shared.closed_once`: what that means for the association, its listener and the errands.
-/

namespace FieldGateway

/-! ## Those who share a session -/

/-- What is asked of a device over a session. -/
inductive Inquiry where
  | read (address : Address)
  | write (address : Address) (path : String) (value : Value)
  | enable (reference : String)
  | disable (reference : String)

/-- What the device tells. -/
inductive Finding where
  | node (node : Node)
  | block (block : ControlBlock)
  | nothing

def Inquiry.attempt (s : Session) : Inquiry → Attempt Finding
  | read a => do return .node (← s.read a)
  | write a path value => do
    s.write a path value
    return .nothing
  | enable reference => do return .block (← s.enable reference)
  | disable reference => do
    s.disable reference
    return .nothing

/-- What someone does with a session. -/
inductive Errand where
  | inquire (inquiry : Inquiry)
  | disconnect
  | disconnectLater (delay : Nat) (report : Option String)

namespace Errand

def work (s : Session) : Errand → Work (Except Failure Finding)
  | inquire q => (q.attempt s).run
  | disconnect => do
    s.disconnect
    return .ok .nothing
  | disconnectLater delay report => do
    s.disconnectLater delay report
    return .ok .nothing

/-- Holds of the errands that end the session. -/
def Parts : Errand → Prop
  | inquire _ => False
  | disconnect | disconnectLater _ _ => True

end Errand

/-- The crews of those who share a session, with the errands of their courses. -/
inductive Session.Shared (s : Session) (p : Plant) :
    Crew (Except Failure Finding) → List Errand → Prop
  | start : Shared s p ⟨p, [], []⟩ []
  | begin {w : Crew (Except Failure Finding)} {es : List Errand} (h : Shared s p w es)
      (e : Errand) : Shared s p (w.join (e.work s)) (es ++ [e])
  | step {w w' : Crew (Except Failure Finding)} {es : List Errand} (h : Shared s p w es)
      (hs : w.Step w') : Shared s p w' es

/-! ## What the log tells of a session -/

namespace Action

/-- Holds of what is asked of the device over a link. -/
def Calls (link : Nat) : Action → Prop
  | read l _ _ | write l _ | enable l _ | disable l _ => l = link
  | _ => False

/-- Holds of what is done once the session was found open. -/
def Attends (link : Nat) : Action → Prop
  | latency _ => True
  | a => a.Calls link

/-- Holds of what is done with the events that the listener gave up. -/
def Settles : Action → Prop
  | sendEvents _ | count _ _ | settle _ => True
  | _ => False

end Action

namespace Entry

/-- Something was asked of the device over a link. -/
def Calls (i link : Nat) (e : Entry) : Prop :=
  ∃ a answer, e.event = .did i a answer ∧ a.Calls link

/-- It was asked whether the session is open. -/
def Checks (i link : Nat) (e : Entry) : Prop := ∃ answer, e.event = .did i (.isOpen link) answer

/-- The session was ended, if it was not ended before. -/
def Retires (link : Nat) (e : Entry) : Prop := ∃ i answer, e.event = .did i (.retire link) answer

end Entry

/-- What becomes of an association. -/
inductive Closing where
  | retired
  | released
  /-- The listener was told. -/
  | told
deriving DecidableEq

/-- What an action does for the closing of an association. -/
def Action.closing? (link : Nat) : (a : Action) → a.Answer → Option Closing
  | retire l, answer => if l = link ∧ answer = true then some .retired else none
  | release l, _ => if l = link then some .released else none
  | hangUp l, _ => if l = link then some .told else none
  | _, _ => none

/-- All that was done to close the association of a link, in turn. -/
def closings (link : Nat) (log : List Entry) : List Closing :=
  log.filterMap (Entry.did? (Action.closing? link))

/-- A course found the session open when it asked last, and nobody had ended the session by then. -/
def Cleared (i link : Nat) (log : List Entry) : Prop :=
  ∃ earlier e later, log = earlier ++ e :: later ∧ e.event = .did i (.isOpen link) true ∧
    (∀ x ∈ earlier, ¬ x.Retires link) ∧ ∀ x ∈ later, ¬ x.Checks i link

section
variable {i link : Nat} {log log' : List Entry} {e : Entry}

theorem Cleared.snoc (h : Cleared i link log) (he : ¬ e.Checks i link) :
    Cleared i link (log ++ [e]) := by
  obtain ⟨earlier, c, later, rfl, hc, hearlier, hlater⟩ := h
  refine ⟨earlier, c, later ++ [e], by simp, hc, hearlier, ?_⟩
  exact List.forall_mem_append.2 ⟨hlater, List.forall_mem_singleton.2 he⟩

theorem cleared_snoc (he : e.event = .did i (.isOpen link) true)
    (hlog : ∀ x ∈ log, ¬ x.Retires link) : Cleared i link (log ++ [e]) :=
  ⟨log, e, [], rfl, he, hlog, by simp⟩

/-- Who has done nothing before the session was ended never finds it open. -/
theorem not_cleared_of_late (hlog : ∃ x ∈ log, x.Retires link) (hi : entriesOf i log = []) :
    ¬ Cleared i link (log ++ log') := by
  rintro ⟨earlier, c, later, hsplit, hc, hearlier, -⟩
  obtain ⟨x, hx, hretires⟩ := hlog
  rcases List.append_eq_append_iff.1 hsplit with ⟨m, rfl, -⟩ | ⟨m, hm, hrest⟩
  · exact hearlier x (List.mem_append_left _ hx) hretires
  · cases m with
    | nil =>
      rw [List.append_nil] at hm
      exact hearlier x (hm ▸ hx) hretires
    | cons d m =>
      have hd : c = d := (List.cons.inj hrest).1
      have hmem : c ∈ entriesOf i log := by
        rw [mem_entriesOf, hm, hd]
        exact ⟨by simp, by rw [← hd, Entry.course?, hc]⟩
      rw [hi] at hmem
      cases hmem

theorem closings_snoc :
    closings link (log ++ [e]) =
      closings link log ++ (e.did? (Action.closing? link)).toList := by
  unfold closings
  rw [List.filterMap_append]
  cases he : e.did? (Action.closing? link) <;> simp [he]

end

/-! ## How someone stands to a session -/

inductive Stance where
  | idle
  /-- The session was found open. -/
  | cleared
  /-- The session was ended by this one, who is to close it. -/
  | retired
  | released
  /-- The session is over. -/
  | ended
deriving DecidableEq

namespace Stance

/-- Holds of one who has not ended the session. -/
def IsFree (x : Stance) : Prop := x = idle ∨ x = cleared

/-- What is still to be done for the closing of the association. -/
def left : Stance → List Closing
  | retired => [.released, .told]
  | released => [.told]
  | _ => []

/-- Where an action and its answer lead. -/
inductive Step (link : Nat) : Stance → (a : Action) → a.Answer → Stance → Prop
  | pass {x : Stance} (hx : x.IsFree) : Step link x (.isOpen link) true cleared
  | fail {x : Stance} (hx : x.IsFree) : Step link x (.isOpen link) false idle
  | attend {a : Action} {answer : a.Answer} (ha : a.Attends link) :
      Step link cleared a answer cleared
  | retire {x : Stance} (hx : x.IsFree) : Step link x (.retire link) true retired
  | late {x : Stance} (hx : x.IsFree) : Step link x (.retire link) false ended
  | release : Step link retired (.release link) () released
  | tell {answer : Option EventBatch} : Step link released (.hangUp link) answer ended
  | settle {a : Action} {answer : a.Answer} (ha : a.Settles) : Step link ended a answer ended

end Stance

/-- What those who share a session may do. -/
def closing (link : Nat) : Protocol Action Action.Answer Stance where
  step := Stance.Step link
  admits _ _ _ := True

/-- The device was asked, or the session was over. -/
def Session.Asked {α : Type} (s : Session) (y : Stance) (r : Except Failure α) : Prop :=
  y = .cleared ∨ y = .idle ∧ r = .error (.connection (.sessionClosed s.deviceId))

/-- How an errand ends. -/
def Errand.Ends (s : Session) : Errand → Stance → Except Failure Finding → Prop
  | inquire _, y, r => s.Asked y r
  | disconnect, y, _ | disconnectLater _ _, y, _ => y = .ended

section
variable {s : Session} {x : Stance} {α β : Type}

open Protocol (Conforms)

namespace Session

section
variable {y : Stance} {r : Except Failure α}

theorem Asked.isFree (h : s.Asked y r) : y.IsFree := h.elim .inr fun h => .inl h.1

theorem Asked.cleared {a : α} (h : s.Asked y (.ok a)) : y = .cleared := by
  obtain h | ⟨-, h⟩ := h
  · exact h
  · cases h

theorem Asked.failed {e : Failure} (h : s.Asked y (.error e : Except Failure α)) :
    s.Asked y (.error e : Except Failure β) := by
  obtain h | ⟨hy, h⟩ := h
  · exact .inl h
  · exact .inr ⟨hy, by rw [Except.error.inj h]⟩

end

/-- Whatever is asked of a device is asked only of a session that was found open. -/
theorem closing_asked {w : Attempt α} (hx : x.IsFree)
    (hw : Course.Within (Action.Attends s.link) w.run) :
    (closing s.link).Conforms x (s.ensureOpen >>= fun _ => w).run s.Asked := by
  have hopen : (closing s.link).Conforms x s.ensureOpen.run s.Asked := by
    refine .liftThen (.query fun answer _ => ?_)
    cases answer with
    | true => exact ⟨.cleared, .pass hx, .inl rfl⟩
    | false => exact ⟨.idle, .fail hx, .inr ⟨rfl, rfl⟩⟩
  refine hopen.attempt (fun y _ hy => ?_) fun y e hy => hy.failed
  rw [hy.cleared]
  exact (Conforms.of_within hw fun _ _ => Stance.Step.attend).mono fun y _ hy => .inl hy

theorem closing_read (hx : x.IsFree) (a : Address) :
    (closing s.link).Conforms x (s.read a).run s.Asked := by
  refine closing_asked hx ?_
  refine Attempt.within_bind (Attempt.within_ofMisfit _) fun node => ?_
  refine Attempt.within_bind (Attempt.within_lift (Course.within_query trivial)) fun latency => ?_
  refine Attempt.within_bind (Attempt.within_lift (Course.within_pause _)) fun _ => ?_
  exact Attempt.within_ofFault (Course.within_query rfl)

theorem closing_write (hx : x.IsFree) (a : Address) (path : String) (value : Value) :
    (closing s.link).Conforms x (s.write a path value).run s.Asked := by
  refine closing_asked hx ?_
  refine Attempt.within_bind (Attempt.within_ofMisfit _) fun node => ?_
  exact Attempt.within_ofFault (Course.within_query rfl)

theorem closing_enable (hx : x.IsFree) (reference : String) :
    (closing s.link).Conforms x (s.enable reference).run s.Asked := by
  refine closing_asked hx ?_
  split
  · exact Attempt.within_throw _
  · exact Attempt.within_ofFault (Course.within_query rfl)

theorem closing_disable (hx : x.IsFree) (reference : String) :
    (closing s.link).Conforms x (s.disable reference).run s.Asked :=
  closing_asked hx (Attempt.within_ofFault (Course.within_query rfl))

theorem closing_hangUp :
    (closing s.link).Conforms .released (hangUp s.link) fun y _ => y = .ended := by
  refine .bind (.query fun answer _ => ⟨.ended, .tell, ?_⟩)
  cases answer with
  | none => rfl
  | some batch =>
    refine Conforms.of_within (N := Action.Settles) ?_ fun _ _ => Stance.Step.settle
    refine Course.Within.bind ?_ fun _ => Course.within_query trivial
    unfold sendEvents
    split
    · exact Course.within_pure _
    · refine Course.Within.bind (Course.within_query trivial) fun refused => ?_
      cases refused <;> exact Course.within_query trivial

theorem closing_disconnect (hx : x.IsFree) :
    (closing s.link).Conforms x s.disconnect fun y _ => y = .ended := by
  refine .bind (.query fun answer _ => ?_)
  cases answer with
  | true =>
    exact ⟨.retired, .retire hx, .bind (.query fun _ _ => ⟨.released, .release, closing_hangUp⟩)⟩
  | false => exact ⟨.ended, .late hx, rfl⟩

theorem closing_clear (hx : x.IsFree) (reference : String) :
    (closing s.link).Conforms x (s.clear reference) fun y _ => y.IsFree := by
  refine .bind (.query fun answer _ => ?_)
  cases answer with
  | true =>
    refine ⟨.cleared, .pass hx, .bind ?_⟩
    exact (closing_disable (.inr rfl) reference).mono fun y _ hy => hy.isFree
  | false => exact ⟨.idle, .fail hx, .inl rfl⟩

theorem closing_disconnectLater (hx : x.IsFree) (delay : Nat) (report : Option String) :
    (closing s.link).Conforms x (s.disconnectLater delay report) fun y _ => y = .ended := by
  refine .bind (.pause ?_)
  cases report with
  | none => exact closing_disconnect hx
  | some reference => exact .bind ((closing_clear hx reference).mono fun y _ => closing_disconnect)

end Session

theorem Inquiry.conforms (hx : x.IsFree) (q : Inquiry) :
    (closing s.link).Conforms x (q.attempt s).run s.Asked := by
  have tells {α : Type} {w : Attempt α} (f : α → Finding)
      (hw : (closing s.link).Conforms x w.run s.Asked) :
      (closing s.link).Conforms x (do return f (← w) : Attempt Finding).run s.Asked :=
    hw.attempt (fun y _ hy => .inl hy.cleared) fun y e hy => hy.failed
  cases q with
  | read a => exact tells .node (Session.closing_read hx a)
  | write a path value => exact tells (fun _ => .nothing) (Session.closing_write hx a path value)
  | enable reference => exact tells .block (Session.closing_enable hx reference)
  | disable reference => exact tells (fun _ => .nothing) (Session.closing_disable hx reference)

theorem Errand.conforms (s : Session) (e : Errand) :
    (closing s.link).Conforms .idle (e.work s) (e.Ends s) := by
  cases e with
  | inquire q => exact q.conforms (.inl rfl)
  | disconnect => exact .bind ((Session.closing_disconnect (.inl rfl)).mono fun y _ hy => hy)
  | disconnectLater delay report =>
    exact .bind ((Session.closing_disconnectLater (.inl rfl) delay report).mono fun y _ hy => hy)

end

/-! ## What one step does -/

namespace Plant.Answers

variable {p q : Plant} {link : Nat} {answer : Bool}

theorem answer_isOpen (h : p.Answers (.isOpen link) answer q) : p.isOpen link = answer :=
  congrArg Prod.fst (h.perform_eq fun f hf => by cases hf)

theorem answer_retire (h : p.Answers (.retire link) answer q) : p.isOpen link = answer :=
  congrArg Prod.fst (h.perform_eq fun f hf => by cases hf)

end Plant.Answers

theorem Entry.retires_iff {link i : Nat} {p q : Plant} {a : Action} {answer : a.Answer} :
    Entry.Retires link ⟨p, .did i a answer, q⟩ ↔ a.retires link = true := by
  constructor
  · rintro ⟨j, b, h⟩
    cases h
    simp [Action.retires]
  · intro h
    cases a with
    | retire l =>
      obtain rfl : l = link := of_decide_eq_true h
      exact ⟨i, answer, rfl⟩
    | _ => cases h

instance (link : Nat) (e : Entry) : Decidable (e.Retires link) :=
  match e with
  | ⟨_, .did _ _ _, _⟩ => decidable_of_iff _ Entry.retires_iff.symm
  | ⟨_, .met _, _⟩ => .isFalse fun ⟨_, _, h⟩ => by cases h

theorem Entry.eq_of_checks {link i j : Nat} {p q : Plant} {a : Action} {answer : a.Answer}
    (h : Entry.Checks j link ⟨p, .did i a answer, q⟩) : j = i ∧ a = .isOpen link := by
  obtain ⟨b, h⟩ := h
  cases h
  exact ⟨rfl, rfl⟩

/-- All that is to be done to close an association, once the session is not open. -/
def duties (isOpen : Bool) : List Closing := if isOpen then [] else [.retired, .released, .told]

theorem duties_prefix (isOpen : Bool) : duties isOpen <+: [.retired, .released, .told] := by
  cases isOpen with
  | true => exact List.nil_prefix
  | false => exact List.prefix_refl _

namespace Stance.Step

variable {link i : Nat} {x y : Stance} {a : Action} {answer : a.Answer} {p q : Plant}
  {log : List Entry}

theorem cleared_of_calls (h : Step link x a answer y) (ha : a.Calls link) : x = cleared := by
  cases h with
  | attend => rfl
  | settle hs => cases a <;> first | exact ha.elim | exact hs.elim
  | _ => cases ha

/-- The one who acts has done some of what was to be done, or has ended the session. -/
theorem left_eq (h : Step link x a answer y) (ha : p.Answers a answer q)
    (hl : link < p.links.length) :
    (q.isOpen link = p.isOpen link ∧ x.left = (a.closing? link answer).toList ++ y.left) ∨
      p.isOpen link = true ∧ q.isOpen link = false ∧
        (a.closing? link answer).toList ++ y.left = [.retired, .released, .told] := by
  have hopen := ha.isOpen hl
  have hfree {x : Stance} (hx : x.IsFree) : x.left = [] := by
    rcases hx with rfl | rfl <;> rfl
  cases h with
  | pass hx | fail hx => exact .inl ⟨by simpa [Action.retires] using hopen, hfree hx⟩
  | attend hs | settle hs =>
    obtain ⟨hnone, hretires⟩ : a.closing? link answer = none ∧ a.retires link = false := by
      cases a <;> first | exact ⟨rfl, rfl⟩ | exact hs.elim
    refine .inl ⟨by rw [hopen, hretires, Bool.not_false, Bool.true_and], ?_⟩
    rw [hnone]
    rfl
  | retire hx =>
    exact .inr ⟨ha.answer_retire, by simpa [Action.retires] using hopen, by
      simp [Action.closing?, left]⟩
  | late hx =>
    refine .inl ⟨?_, by rw [hfree hx]; simp [Action.closing?, left]⟩
    rw [ha.answer_retire]
    simpa [Action.retires] using hopen
  | release | tell =>
    exact .inl ⟨by simpa [Action.retires] using hopen, by simp [Action.closing?, left]⟩

/-- Who has found the session open has found so just now, or has asked no more since. -/
theorem cleared_snoc (h : Step link x a answer .cleared) (ha : p.Answers a answer q)
    (hopen : p.isOpen link = true → ∀ e ∈ log, ¬ e.Retires link)
    (hx : x = cleared → Cleared i link log) :
    Cleared i link (log ++ [⟨p, .did i a answer, q⟩]) := by
  cases h with
  | pass => exact FieldGateway.cleared_snoc rfl (hopen ha.answer_isOpen)
  | attend hs =>
    refine (hx rfl).snoc fun hc => ?_
    obtain ⟨-, rfl⟩ := Entry.eq_of_checks hc
    cases hs

/-- For whom the session is over, it is. -/
theorem isOpen_of_ended (h : Step link x a answer .ended) (ha : p.Answers a answer q)
    (hl : link < p.links.length) (hx : x = ended ∨ x.left ≠ [] → p.isOpen link = false) :
    q.isOpen link = false := by
  have hopen := ha.isOpen hl
  cases h with
  | late => simpa [Action.retires] using hopen
  | tell => rw [hopen, hx (.inr (by simp [left])), Bool.and_false]
  | settle => rw [hopen, hx (.inl rfl), Bool.and_false]

end Stance.Step

/-! ## All who share a session -/

namespace Session

/-- What is known of those who share a session, by how each of them stands to it. -/
structure Watched (s : Session) (w : Crew (Except Failure Finding)) (es : List Errand)
    (x : Nat → Stance) : Prop where
  link : s.link < w.plant.links.length
  length : w.courses.length = es.length
  conforms : ∀ i k e, w.courses[i]? = some k → es[i]? = some e →
    (FieldGateway.closing s.link).Conforms (x i) k (e.Ends s)
  newcomers : ∀ i, w.courses.length ≤ i → x i = .idle
  cleared : ∀ i, x i = .cleared → Cleared i s.link w.log
  isOpen : w.plant.isOpen s.link = true ↔ ∀ e ∈ w.log, ¬ e.Retires s.link
  ended : ∀ i, x i = .ended → w.plant.isOpen s.link = false
  /-- One of them at most is closing the association, and has the rest to do. -/
  closing : ∃ i, closings s.link w.log ++ (x i).left = duties (w.plant.isOpen s.link) ∧
    ∀ j, j ≠ i → (x j).left = []
  calls : ∀ before e after i, w.log = before ++ e :: after → e.Calls i s.link →
    Cleared i s.link before

namespace Watched

variable {s : Session} {w w' : Crew (Except Failure Finding)} {es : List Errand}
  {x : Nat → Stance} {y : Stance} {i : Nat} {p : Plant}

theorem start (hp : p.isOpen s.link = true) : s.Watched ⟨p, [], []⟩ [] fun _ => .idle where
  link := by
    unfold Plant.isOpen at hp
    split at hp
    · next l hl => exact (List.getElem?_eq_some_iff.1 hl).1
    · cases hp
  length := rfl
  conforms := by simp
  newcomers _ _ := rfl
  cleared _ h := by cases h
  isOpen := by simp [hp]
  ended _ h := by cases h
  closing := ⟨0, by simp [closings, Stance.left, duties, hp], fun _ _ => rfl⟩
  calls _ _ _ _ h := by simp at h

/-- Whoever begins has done nothing yet. -/
theorem begin (h : s.Watched w es x) (e : Errand) :
    s.Watched (w.join (e.work s)) (es ++ [e]) x where
  link := h.link
  length := by simp [Crew.join, h.length]
  conforms i k f hk hf := by
    rcases Nat.lt_or_ge i w.courses.length with hi | hi
    · rw [Crew.join, List.getElem?_append_left hi] at hk
      rw [List.getElem?_append_left (h.length ▸ hi)] at hf
      exact h.conforms i k f hk hf
    · rw [Crew.join, List.getElem?_append_right hi] at hk
      rw [List.getElem?_append_right (h.length ▸ hi)] at hf
      obtain rfl := List.mem_singleton.1 (List.mem_of_getElem? hk)
      obtain rfl := List.mem_singleton.1 (List.mem_of_getElem? hf)
      rw [h.newcomers i hi]
      exact Errand.conforms s f
  newcomers i hi := by
    refine h.newcomers i (Nat.le_trans ?_ hi)
    simp [Crew.join]
  cleared := h.cleared
  isOpen := h.isOpen
  ended := h.ended
  closing := h.closing
  calls := h.calls

/-- What is still to be done is to be done only once the session is not open. -/
theorem isOpen_of_left (h : s.Watched w es x) (hi : (x i).left ≠ []) :
    w.plant.isOpen s.link = false := by
  obtain ⟨j, hclosing, hothers⟩ := h.closing
  have hij : i = j := by
    by_contra hij
    exact hi (hothers i hij)
  cases hopen : w.plant.isOpen s.link with
  | false => rfl
  | true =>
    rw [hopen] at hclosing
    exact absurd (List.append_eq_nil_iff.1 hclosing).2 (hij ▸ hi)

/-- The closing goes on with the one who acts, if it was the turn of that one or of nobody. -/
theorem closing_act (h : s.Watched w es x) {a : Action} {answer : a.Answer}
    (ha : w.plant.Answers a answer p) (hs : Stance.Step s.link (x i) a answer y) :
    ∃ k, closings s.link (w.log ++ [⟨w.plant, .did i a answer, p⟩]) ++
        (Function.update x i y k).left = duties (p.isOpen s.link) ∧
      ∀ j, j ≠ k → (Function.update x i y j).left = [] := by
  obtain ⟨k, hclosing, hothers⟩ := h.closing
  have hlog : closings s.link (w.log ++ [⟨w.plant, .did i a answer, p⟩]) =
      closings s.link w.log ++ (a.closing? s.link answer).toList := closings_snoc
  have hmine (hothers : ∀ j, j ≠ i → (x j).left = []) :
      ∀ j, j ≠ i → (Function.update x i y j).left = [] := fun j hj => by
    rw [Function.update_of_ne hj]
    exact hothers j hj
  rw [hlog]
  rcases hs.left_eq ha h.link with ⟨hopen, hleft⟩ | ⟨hopen, hclosed, hleft⟩
  · rw [hopen, ← hclosing]
    by_cases hk : i = k
    · subst hk
      refine ⟨i, ?_, hmine hothers⟩
      rw [Function.update_self, List.append_assoc, ← hleft]
    · have hnone := hothers i hk
      rw [hleft, List.append_eq_nil_iff] at hnone
      refine ⟨k, ?_, fun j hj => ?_⟩
      · rw [Function.update_of_ne (Ne.symm hk), hnone.1, List.append_nil]
      · by_cases hj' : j = i
        · rw [hj', Function.update_self, hnone.2]
        · rw [Function.update_of_ne hj']
          exact hothers j hj
  · -- The session was open until now, so that nobody was closing it.
    rw [hopen] at hclosing
    obtain ⟨hnone, hk⟩ := List.append_eq_nil_iff.1 hclosing
    refine ⟨i, ?_, hmine fun j _ => ?_⟩
    · rw [Function.update_self, hnone, List.nil_append, hleft, hclosed]
      rfl
    · by_cases hj : j = k
      · rw [hj, hk]
      · exact hothers j hj

theorem act (h : s.Watched w es x) {a : Action} {next : a.Answer → Work (Except Failure Finding)}
    {answer : a.Answer} (hc : w.courses[i]? = some (.ask a next))
    (ha : w.plant.Answers a answer p) :
    ∃ x', s.Watched ⟨p, w.courses.set i (next answer), w.log ++ [⟨w.plant, .did i a answer, p⟩]⟩
      es x' := by
  have hi : i < w.courses.length := (List.getElem?_eq_some_iff.1 hc).1
  obtain ⟨y, hs, hnext⟩ := h.conforms i _ _ hc (List.getElem?_eq_getElem (h.length ▸ hi)) answer
    trivial
  refine ⟨Function.update x i y, ?_, ?_, fun j k e hk he => ?_, fun j hj => ?_, fun j hj => ?_, ?_,
    fun j hj => ?_, h.closing_act ha hs, fun before e after j hsplit hcalls => ?_⟩
  · exact Nat.lt_of_lt_of_le h.link (by rw [ha.length]; exact Nat.le_add_right _ _)
  · simpa using h.length
  · rcases Crew.of_set hk with ⟨rfl, rfl⟩ | ⟨hji, hk⟩
    · rw [Function.update_self]
      rw [List.getElem?_eq_getElem (h.length ▸ hi)] at he
      exact Option.some.inj he ▸ hnext
    · rw [Function.update_of_ne hji]
      exact h.conforms j k e hk he
  · rw [List.length_set] at hj
    rw [Function.update_of_ne (by rintro rfl; exact absurd hi (Nat.not_lt.2 hj))]
    exact h.newcomers j hj
  · by_cases hji : j = i
    · subst hji
      rw [Function.update_self] at hj
      subst hj
      exact hs.cleared_snoc ha h.isOpen.1 (h.cleared j)
    · rw [Function.update_of_ne hji] at hj
      exact (h.cleared j hj).snoc fun hchecks => hji (Entry.eq_of_checks hchecks).1
  · rw [ha.isOpen h.link, Bool.and_eq_true, Bool.not_eq_true', h.isOpen, List.forall_mem_append,
      List.forall_mem_singleton, Entry.retires_iff, Bool.not_eq_true, and_comm]
  · by_cases hji : j = i
    · rw [hji, Function.update_self] at hj
      subst hj
      exact hs.isOpen_of_ended ha h.link fun hx => hx.elim (h.ended i) h.isOpen_of_left
    · rw [Function.update_of_ne hji] at hj
      rw [ha.isOpen h.link, h.ended j hj, Bool.and_false]
  · rcases snoc_eq hsplit with ⟨rfl, rfl, rfl⟩ | ⟨after', rfl, hlog⟩
    · obtain ⟨b, answer', hevent, hb⟩ := hcalls
      cases hevent
      exact h.cleared i (hs.cleared_of_calls hb)
    · exact h.calls before e after' j hlog hcalls

theorem meet (h : s.Watched w es x) (m : Incident) :
    s.Watched { w with
      plant := w.plant.meet m
      log := w.log ++ [⟨w.plant, .met m, w.plant.meet m⟩] } es x where
  link := by rw [Plant.length_meet]; exact h.link
  length := h.length
  conforms := h.conforms
  newcomers := h.newcomers
  cleared i hi := (h.cleared i hi).snoc fun ⟨_, hm⟩ => by cases hm
  isOpen := by
    have hno : ¬ Entry.Retires s.link ⟨w.plant, .met m, w.plant.meet m⟩ := fun ⟨_, _, hm⟩ => by
      cases hm
    rw [Plant.isOpen_meet, h.isOpen, List.forall_mem_append, List.forall_mem_singleton,
      and_iff_left hno]
  ended i hi := by rw [Plant.isOpen_meet]; exact h.ended i hi
  closing := by
    have hlog : closings s.link (w.log ++ [⟨w.plant, .met m, w.plant.meet m⟩]) =
        closings s.link w.log := closings_snoc.trans (List.append_nil _)
    rw [hlog, Plant.isOpen_meet]
    exact h.closing
  calls before e after j hsplit hcalls := by
    rcases snoc_eq hsplit with ⟨rfl, rfl, rfl⟩ | ⟨after', rfl, hlog⟩
    · obtain ⟨a, answer, hevent, -⟩ := hcalls
      cases hevent
    · exact h.calls before e after' j hlog hcalls

/-- What is known of those who share a session is kept by every step. -/
theorem step (h : s.Watched w es x) (hs : w.Step w') : ∃ x', s.Watched w' es x' := by
  cases hs with
  | act hc ha => exact h.act hc ha
  | @goOn i ms next hc =>
    refine ⟨x, h.link, by simpa using h.length, fun j k e hk he => ?_, by simpa using h.newcomers,
      h.cleared, h.isOpen, h.ended, h.closing, h.calls⟩
    rcases Crew.of_set hk with ⟨rfl, rfl⟩ | ⟨-, hk⟩
    · have hwait := h.conforms j _ e hc he
      exact hwait
    · exact h.conforms j k e hk he
  | meet m => exact ⟨x, h.meet m⟩

end Watched

namespace Watched

variable {s : Session} {w : Crew (Except Failure Finding)} {es : List Errand} {x : Nat → Stance}
  {i : Nat} {e : Errand} {r : Except Failure Finding}

theorem lt_length (h : s.Watched w es x) (he : es[i]? = some e) : i < w.courses.length :=
  h.length ▸ (List.getElem?_eq_some_iff.1 he).1

theorem ends (h : s.Watched w es x) (he : es[i]? = some e) (hr : w.courses[i]? = some (.done r)) :
    e.Ends s (x i) r := by
  have hdone := h.conforms i _ e hr he
  exact hdone

/-- Who was to end the session has come back, so that it is over. -/
theorem isOpen_of_parts (h : s.Watched w es x) (he : es[i]? = some e) (hparts : e.Parts)
    (hr : w.courses[i]? = some (.done r)) : w.plant.isOpen s.link = false := by
  refine h.ended i ?_
  have hends := h.ends he hr
  cases e with
  | inquire q => exact hparts.elim
  | disconnect | disconnectLater delay report => exact hends

/-- Who begins after the session was ended asks nothing of the device. -/
theorem of_late (h : s.Watched w es x) {before after : List Entry} {q : Inquiry}
    (hlog : w.log = before ++ after) (hretired : ∃ e ∈ before, e.Retires s.link)
    (he : es[i]? = some (.inquire q)) (hi : entriesOf i before = []) :
    (∀ e ∈ after, ¬ e.Calls i s.link) ∧
      ∀ r, w.courses[i]? = some (.done r) →
        r = .error (.connection (.sessionClosed s.deviceId)) := by
  have hnever : ∀ log', ¬ Cleared i s.link (before ++ log') :=
    fun log' => not_cleared_of_late hretired hi
  refine ⟨fun e hmem hcalls => ?_, fun r hr => ?_⟩
  · obtain ⟨early, late, rfl⟩ := List.append_of_mem hmem
    rw [← List.append_assoc] at hlog
    exact hnever early (h.calls _ e late i hlog hcalls)
  · obtain hx | ⟨-, hr⟩ := h.ends he hr
    · have hcleared := h.cleared i hx
      rw [hlog] at hcleared
      exact absurd hcleared (hnever after)
    · exact hr

/-- Nobody has anything left to do for the closing once all have come back. -/
theorem closings_of_atRest (h : s.Watched w es x) (hrest : w.AtRest) :
    closings s.link w.log = duties (w.plant.isOpen s.link) := by
  obtain ⟨i, hclosing, -⟩ := h.closing
  have hleft : (x i).left = [] := by
    rcases Nat.lt_or_ge i w.courses.length with hi | hi
    · obtain ⟨r, hr⟩ := hrest.exists_done hi
      obtain ⟨e, he⟩ : ∃ e, es[i]? = some e := ⟨_, List.getElem?_eq_getElem (h.length ▸ hi)⟩
      have hends := h.ends he hr
      cases e with
      | inquire q => obtain hx | ⟨hx, -⟩ := hends <;> rw [hx] <;> rfl
      | disconnect | disconnectLater delay report =>
        have hx : x i = .ended := hends
        rw [hx]
        rfl
    · rw [h.newcomers i hi]
      rfl
  rwa [hleft, List.append_nil] at hclosing

end Watched

namespace Shared

variable {s : Session} {p : Plant} {w : Crew (Except Failure Finding)} {es : List Errand}

theorem watched (hp : p.isOpen s.link = true) (h : s.Shared p w es) : ∃ x, s.Watched w es x := by
  induction h with
  | start => exact ⟨_, .start hp⟩
  | begin _ e ih =>
    obtain ⟨x, h⟩ := ih
    exact ⟨x, h.begin e⟩
  | step _ hs ih =>
    obtain ⟨x, h⟩ := ih
    exact h.step hs

theorem play (h : s.Shared p w es) (ms : List Crew.Move) : s.Shared p (w.play ms) es :=
  Crew.play_induction (P := fun w => s.Shared p w es) .step ms h

/-- Whatever those who share a session do, in any number and in any order of their actions: the
association is closed once at most, and then the listener is told once at most, and both are done in
the end if the session was to be ended; whatever was asked of the device was asked after the session
was found open before anyone ended it; who begins later asks nothing of the device and is told that
the session is closed; and who was to end the session leaves it closed. -/
theorem closed_once (hp : p.isOpen s.link = true) (h : s.Shared p w es) :
    closings s.link w.log <+: [.retired, .released, .told] ∧
      (w.AtRest → (∃ e ∈ es, e.Parts) →
        closings s.link w.log = [.retired, .released, .told]) ∧
      (∀ before e after i, w.log = before ++ e :: after → e.Calls i s.link →
        Cleared i s.link before) ∧
      (∀ before after i q, w.log = before ++ after → (∃ e ∈ before, e.Retires s.link) →
        es[i]? = some (.inquire q) → entriesOf i before = [] →
          (∀ e ∈ after, ¬ e.Calls i s.link) ∧
          (∀ r, w.courses[i]? = some (.done r) →
            r = .error (.connection (.sessionClosed s.deviceId))) ∧
          ∃ ms, (w.play ms).courses =
            w.courses.set i (.done (.error (.connection (.sessionClosed s.deviceId))))) ∧
      ∀ i e, es[i]? = some e → e.Parts →
        (∀ r, w.courses[i]? = some (.done r) → w.plant.isOpen s.link = false) ∧
        ∃ ms r, (w.play ms).courses = w.courses.set i (.done r) ∧
          (w.play ms).plant.isOpen s.link = false := by
  obtain ⟨x, hx⟩ := h.watched hp
  have comes_back {i : Nat} {e : Errand} (he : es[i]? = some e) :
      ∃ ms r, (w.play ms).courses = w.courses.set i (.done r) ∧
        (w.play ms).courses[i]? = some (.done r) := by
    have hi := hx.lt_length he
    obtain ⟨ms, r, hms⟩ := w.exists_play_done (List.getElem?_eq_getElem hi)
    exact ⟨ms, r, hms, by rw [hms, List.getElem?_set_self hi]⟩
  refine ⟨?_, fun hrest ⟨e, he, hparts⟩ => ?_, hx.calls, ?_,
    fun i e he hparts => ⟨fun r hr => ?_, ?_⟩⟩
  · obtain ⟨i, hclosing, -⟩ := hx.closing
    exact (List.prefix_append _ _).trans (hclosing ▸ duties_prefix _)
  · obtain ⟨i, he⟩ := List.mem_iff_getElem?.1 he
    obtain ⟨r, hr⟩ := hrest.exists_done (hx.lt_length he)
    rw [hx.closings_of_atRest hrest, hx.isOpen_of_parts he hparts hr]
    rfl
  · intro before after i q hlog hretired he hi
    obtain ⟨hcalls, hends⟩ := hx.of_late hlog hretired he hi
    refine ⟨hcalls, hends, ?_⟩
    obtain ⟨ms, r, hms, hr⟩ := comes_back he
    obtain ⟨x', hx'⟩ := (h.play ms).watched hp
    obtain ⟨more, hmore⟩ := w.log_play ms
    rw [hlog, List.append_assoc] at hmore
    rw [(hx'.of_late hmore.symm hretired he hi).2 r hr] at hms
    exact ⟨ms, hms⟩
  · exact hx.isOpen_of_parts he hparts hr
  · obtain ⟨ms, r, hms, hr⟩ := comes_back he
    obtain ⟨x', hx'⟩ := (h.play ms).watched hp
    exact ⟨ms, r, hms, hx'.isOpen_of_parts he hparts hr⟩

/-- A session with a streetlight controller whose device is out of reach. -/
def crowd : Session :=
  ⟨⟨"SSLD-1", "10.0.0.1", .streetlightController, none⟩, ⟨[], [], []⟩, 0⟩

def crowdErrands : List Errand :=
  [.inquire (.disable "evn_rpn01"), .disconnectLater 5 (some "evn_rpn01"), .disconnect,
    .disconnectLater 3 none, .inquire (.disable "evn_rpn01")]

/-- Five share the session. The second one could not switch the report off when the third one ends
the session, the first one has found it open by then, and the last one comes later. -/
def crowded : Crew (Except Failure Finding) :=
  Crew.play ⟨Plant.single, crowdErrands.map (·.work crowd), []⟩
    [.go 0, .go 1, .go 1, .go 1, .go 1, .go 2, .go 0, .go 1, .go 4, .go 3, .go 3, .go 2, .go 2,
      .go 2]

theorem closed_once_crowded :
    Plant.single.isOpen crowd.link = true ∧ crowd.Shared Plant.single crowded crowdErrands ∧
      closings 0 crowded.log = [.retired, .released, .told] ∧
      (∃ e ∈ crowded.log.take 5, e.Retires 0) ∧ (∀ e ∈ crowded.log.drop 5, ¬ e.Calls 4 0) ∧
      crowded.plant.isOpen 0 = false := by
  have hshared : crowd.Shared Plant.single crowded crowdErrands :=
    (((((start.begin (.inquire (.disable "evn_rpn01"))).begin
      (.disconnectLater 5 (some "evn_rpn01"))).begin .disconnect).begin
        (.disconnectLater 3 none)).begin (.inquire (.disable "evn_rpn01"))).play _
  have hrest : crowded.AtRest := by decide +kernel
  have hretired : ∃ e ∈ crowded.log.take 5, e.Retires 0 := by decide +kernel
  have hlate : entriesOf 4 (crowded.log.take 5) = [] := by
    rw [← List.length_eq_zero_iff]
    decide +kernel
  obtain ⟨-, hclosed, -, hlater, hends⟩ := closed_once (p := Plant.single) rfl hshared
  obtain ⟨r, hr⟩ := hrest.exists_done (by decide +kernel : 1 < crowded.courses.length)
  refine ⟨rfl, hshared, hclosed hrest ⟨.disconnect, by simp [crowdErrands], trivial⟩, hretired,
    (hlater _ _ 4 _ (List.take_append_drop 5 _).symm hretired rfl hlate).1, ?_⟩
  exact (hends 1 _ rfl trivial).1 r hr

end Shared

end Session

end FieldGateway
