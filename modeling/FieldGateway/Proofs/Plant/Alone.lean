import FieldGateway.Plant.Agenda
import FieldGateway.Proofs.Course.Protocol
import FieldGateway.Proofs.Plant.Alike
import Mathlib.Data.List.Forall2

/-!
# Courses that run alone

A course has a plant to itself, while a clock goes on. Of two plants that are alike, faults wait in
the first one only: the course mirrors itself if, unless it fails, it comes to the same in both.

* `Attempt.Mirrors.bind`, `Attempt.Mirrors.mapM`: attempts that mirror each other, put together.
* `Attempt.Persists.mirrors_retried`: trying again is not seen, if a refused attempt leaves nothing
  that the next one would not do.
-/

namespace FieldGateway

variable {α β γ δ : Type} {clock clock' : Nat → Int64}

/-! ## Runs -/

namespace Plant

/-- The plant as the clock shows the moment. -/
def showing (clock : Nat → Int64) (p : Plant) : Plant := { p with now := clock p.time }

/-- A course runs to its end while nothing else happens but that the clock goes on. -/
def runBy (clock : Nat → Int64) : Work α → Plant → α × Plant
  | .done a, p => (a, p)
  | .wait ms rest, p => runBy clock rest { p with time := p.time + ms }
  | .ask a next, p =>
    runBy clock (next ((p.showing clock).perform a).1) ((p.showing clock).perform a).2

variable {p q : Plant}

theorem runBy_bind (w : Work α) (f : α → Work β) (p : Plant) :
    p.runBy clock (w >>= f) = (p.runBy clock w).2.runBy clock (f (p.runBy clock w).1) := by
  induction w generalizing p with
  | done a => rfl
  | ask a next ih => exact ih _ _
  | wait ms rest ih => exact ih _

theorem runAlone_bind (w : Work α) (f : α → Work β) (p : Plant) :
    p.runAlone (w >>= f) = (p.runAlone w).2.runAlone (f (p.runAlone w).1) := by
  induction w generalizing p with
  | done a => rfl
  | ask a next ih => exact ih _ _
  | wait ms rest ih => exact ih _

theorem alike_showing (clock : Nat → Int64) (p : Plant) : (p.showing clock).Alike p :=
  ⟨rfl, fun _ => rfl⟩

theorem Shadows.showing (h : p.Shadows q) (clock clock' : Nat → Int64) :
    (p.showing clock).Shadows (q.showing clock') :=
  ⟨((alike_showing clock p).trans h.toAlike).trans (alike_showing clock' q).symm, h.calm⟩

/-- What neither reads nor writes comes to the same in plants that are alike. -/
theorem Shadows.runBy {w : Work α} (h : p.Shadows q) (hw : w.Within Action.IsSteady)
    (clock clock' : Nat → Int64) :
    (p.runBy clock w).1 = (q.runBy clock' w).1 ∧
      (p.runBy clock w).2.Shadows (q.runBy clock' w).2 := by
  induction w generalizing p q with
  | done a => exact ⟨rfl, h⟩
  | ask a next ih =>
    obtain ⟨ha, hnext⟩ := Course.within_ask.1 hw
    obtain ⟨hanswer, hshadows⟩ := (h.showing clock clock').perform ha
    simp only [Plant.runBy, hanswer]
    exact ih _ hshadows (hnext _)
  | wait ms rest ih =>
    exact ih ⟨⟨h.frame, h.devices⟩, h.calm⟩ (Course.within_wait.1 hw)

theorem IsCalm.runBy (h : p.IsCalm) (w : Work α) : (p.runBy clock w).2.IsCalm := by
  induction w generalizing p with
  | done a => exact h
  | ask a next ih => exact ih _ (IsCalm.perform (p := p.showing clock) h a)
  | wait ms rest ih => exact ih (p := { p with time := p.time + ms }) h

theorem Shadows.congr {p' q' : Plant} (h : p.Shadows q) (hp : p'.Alike p) (hq : q'.Alike q)
    (hcalm : q'.IsCalm) : p'.Shadows q' := ⟨(hp.trans h.toAlike).trans hq.symm, hcalm⟩

theorem alike_runBy {w : Work α} (hw : w.Within Action.IsIdle) (clock : Nat → Int64) (p : Plant) :
    (p.runBy clock w).2.Alike p := by
  induction w generalizing p with
  | done a => exact .refl p
  | ask a next ih =>
    obtain ⟨ha, hnext⟩ := Course.within_ask.1 hw
    exact ((ih _ (hnext _) _).trans (alike_perform ha)).trans (alike_showing clock p)
  | wait ms rest ih => exact (ih (Course.within_wait.1 hw) _).trans ⟨rfl, fun _ => rfl⟩

/-- An attempt after another one. -/
theorem runBy_andThen (v : Attempt α) (f : α → Attempt β) (p : Plant) :
    p.runBy clock (v >>= f).run =
      match (p.runBy clock v.run).1 with
      | .ok a => (p.runBy clock v.run).2.runBy clock (f a).run
      | .error e => (.error e, (p.runBy clock v.run).2) := by
  rw [ExceptT.run_bind, runBy_bind]
  cases (p.runBy clock v.run).1 <;> rfl

/-- Of two attempts that succeed together, the first succeeds. -/
theorem ok_of_andThen {v : Attempt α} {f : α → Attempt β} {p : Plant} {b : β}
    (h : (p.runBy clock (v >>= f).run).1 = .ok b) :
    ∃ a, (p.runBy clock v.run).1 = .ok a ∧
      p.runBy clock (v >>= f).run = (p.runBy clock v.run).2.runBy clock (f a).run := by
  rw [runBy_andThen] at h ⊢
  cases hv : (p.runBy clock v.run).1 with
  | error e =>
    rw [hv] at h
    cases h
  | ok a => exact ⟨a, rfl, rfl⟩

/-- An attempt after work that cannot fail. -/
theorem runBy_liftThen (w : Work α) (f : α → Attempt β) (p : Plant) :
    p.runBy clock ((liftM w : Attempt α) >>= f).run =
      (p.runBy clock w).2.runBy clock (f (p.runBy clock w).1).run := by
  rw [ExceptT.run_bind, Attempt.run_lift, bind_assoc, Plant.runBy_bind]
  rfl

/-- An attempt after one whose failure is told. -/
theorem runBy_resultThen (v : Attempt α) (f : Except Failure α → Attempt β) (p : Plant) :
    p.runBy clock (Attempt.result v >>= f).run =
      (p.runBy clock v.run).2.runBy clock (f (p.runBy clock v.run).1).run := by
  rw [runBy_andThen, Attempt.result, ExceptT.run_mk, runBy_bind]
  rfl

/-- After an attempt that leaves the plant alike. -/
theorem cases_andThen {v : Attempt α} (hv : Course.Within Action.IsIdle v.run) (f : α → Attempt β)
    (p : Plant) :
    (∃ e, (p.runBy clock v.run).1 = .error e ∧ (p.runBy clock (v >>= f).run).1 = .error e) ∨
      ∃ (a : α) (q : Plant), (p.runBy clock v.run).1 = .ok a ∧ q.Alike p ∧
        p.runBy clock (v >>= f).run = q.runBy clock (f a).run := by
  have halike := Plant.alike_runBy hv clock p
  rw [Plant.runBy_andThen]
  cases (p.runBy clock v.run).1 with
  | error e => exact .inl ⟨e, rfl, rfl⟩
  | ok a => exact .inr ⟨a, _, rfl, halike, rfl⟩

end Plant

/-! ## Attempts in plants that are alike -/

/-- What an attempt comes to in a plant with faults, and one in its shadow: the same, unless the
first fails, and not because something does not fit. -/
def Settles (R : α → β → Prop) (x : Except Failure α × Plant) (y : Except Failure β × Plant) :
    Prop :=
  match x.1 with
  | .ok a => ∃ b, y.1 = .ok b ∧ R a b ∧ x.2.Shadows y.2
  | .error e => e.isMisfit = true → y.1 = .error e ∧ x.2.Shadows y.2

theorem Settles.of_failure {R : α → β → Prop} {x : Except Failure α × Plant}
    {y : Except Failure β × Plant} {e : Failure} (h : x.1 = .error e) (he : e.isMisfit = false) :
    Settles R x y := by
  unfold Settles
  rw [h]
  intro hmisfit
  rw [he] at hmisfit
  cases hmisfit

namespace Attempt

/-- The first attempt in a plant, and the second one in its shadow without faults, settle. -/
def Mirrors (clock clock' : Nat → Int64) (R : α → β → Prop) (v : Attempt α) (w : Attempt β) :
    Prop :=
  ∀ p q : Plant, p.Shadows q → Settles R (p.runBy clock v.run) (q.runBy clock' w.run)

/-- An attempt that fails leaves the plant alike. -/
def IsAtomic (clock : Nat → Int64) (v : Attempt α) : Prop :=
  ∀ (p : Plant) (e : Failure), (p.runBy clock v.run).1 = .error e → (p.runBy clock v.run).2.Alike p

namespace Mirrors

variable {R : α → β → Prop} {S : γ → δ → Prop}

theorem of_steady {v : Attempt α} (hv : Course.Within Action.IsSteady v.run) :
    Mirrors clock clock' Eq v v := by
  intro p q h
  obtain ⟨hresult, hshadows⟩ := h.runBy hv clock clock'
  unfold Settles
  rw [hresult] at *
  cases (q.runBy clock' v.run).1 with
  | ok a => exact ⟨a, rfl, rfl, hshadows⟩
  | error e => exact fun _ => ⟨rfl, hshadows⟩

theorem pure {a : α} {b : β} (h : R a b) :
    Mirrors clock clock' R (pure a : Attempt α) (pure b : Attempt β) :=
  fun _ _ hshadows => ⟨b, rfl, h, hshadows⟩

theorem bind {v : Attempt α} {w : Attempt β} {f : α → Attempt γ} {f' : β → Attempt δ}
    (h : Mirrors clock clock' R v w) (hf : ∀ a b, R a b → Mirrors clock clock' S (f a) (f' b)) :
    Mirrors clock clock' S (v >>= f) (w >>= f') := by
  intro p q hshadows
  have hsettles := h p q hshadows
  rw [Plant.runBy_andThen, Plant.runBy_andThen]
  revert hsettles
  obtain ⟨x, p'⟩ := p.runBy clock v.run
  obtain ⟨y, q'⟩ := q.runBy clock' w.run
  intro hsettles
  cases x with
  | ok a =>
    obtain ⟨b, rfl, hR, hshadows'⟩ := hsettles
    exact hf a b hR p' q' hshadows'
  | error e =>
    intro hmisfit
    obtain ⟨rfl, hshadows'⟩ := hsettles hmisfit
    exact ⟨rfl, hshadows'⟩

theorem mapM {f : γ → Attempt α} {f' : γ → Attempt β}
    (hf : ∀ c, Mirrors clock clock' R (f c) (f' c)) (l : List γ) :
    Mirrors clock clock' (List.Forall₂ R) (l.mapM f) (l.mapM f') := by
  induction l with
  | nil => exact .pure .nil
  | cons c l ih =>
    rw [List.mapM_cons, List.mapM_cons]
    exact (hf c).bind fun a b hR => ih.bind fun as bs hRs => .pure (.cons hR hRs)

theorem mono {R' : α → β → Prop} {v : Attempt α} {w : Attempt β} (h : Mirrors clock clock' R v w)
    (hR : ∀ a b, R a b → R' a b) : Mirrors clock clock' R' v w := by
  intro p q hshadows
  have hsettles := h p q hshadows
  unfold Settles at hsettles ⊢
  cases hx : (p.runBy clock v.run).1 with
  | ok a =>
    rw [hx] at hsettles
    obtain ⟨b, hb, hab, hsettled⟩ := hsettles
    exact ⟨b, hb, hR a b hab, hsettled⟩
  | error e =>
    rw [hx] at hsettles
    exact hsettles

theorem mapM_eq {f : γ → Attempt α} (hf : ∀ c, Mirrors clock clock' Eq (f c) (f c)) (l : List γ) :
    Mirrors clock clock' Eq (l.mapM f) (l.mapM f) :=
  (mapM hf l).mono fun as bs h => by rwa [List.forall₂_eq_eq_eq] at h

theorem forM {f : γ → Attempt Unit} (hf : ∀ c, Mirrors clock clock' Eq (f c) (f c)) (l : List γ) :
    Mirrors clock clock' Eq (l.forM f) (l.forM f) := by
  induction l with
  | nil => exact .pure rfl
  | cons c l ih => exact (hf c).bind fun _ _ _ => ih

/-- An attempt whose failure is told, and what follows. -/
theorem result {v : Attempt α} {w : Attempt β} {f : Except Failure α → Attempt γ}
    {f' : Except Failure β → Attempt δ} (h : Mirrors clock clock' R v w)
    (hok : ∀ a b, R a b → Mirrors clock clock' S (f (.ok a)) (f' (.ok b)))
    (herror : ∀ e, Mirrors clock clock' S (f (.error e)) (f' (.error e)))
    (hfails : ∀ e (p : Plant), (p.runBy clock (f (.error e)).run).1 = .error e) :
    Mirrors clock clock' S (Attempt.result v >>= f) (Attempt.result w >>= f') := by
  intro p q hshadows
  have hsettles := h p q hshadows
  rw [Plant.runBy_resultThen, Plant.runBy_resultThen]
  revert hsettles
  obtain ⟨x, p'⟩ := p.runBy clock v.run
  obtain ⟨y, q'⟩ := q.runBy clock' w.run
  intro hsettles
  cases x with
  | ok a =>
    obtain ⟨b, rfl, hR, hshadows'⟩ := hsettles
    exact hok a b hR p' q' hshadows'
  | error e =>
    cases he : e.isMisfit with
    | true =>
      obtain ⟨rfl, hshadows'⟩ := hsettles he
      exact herror e p' q' hshadows'
    | false => exact .of_failure (hfails e p') he

end Mirrors

namespace IsAtomic

theorem of_idle {v : Attempt α} (hv : Course.Within Action.IsIdle v.run) : IsAtomic clock v :=
  fun p _ _ => Plant.alike_runBy hv clock p

/-- What may fail comes last. -/
theorem bind {v : Attempt α} {f : α → Attempt β} (hv : Course.Within Action.IsIdle v.run)
    (hf : ∀ a, IsAtomic clock (f a)) : IsAtomic clock (v >>= f) := by
  intro p e he
  have halike := Plant.alike_runBy hv clock p
  rw [Plant.runBy_andThen] at he ⊢
  revert halike he
  obtain ⟨x, p'⟩ := p.runBy clock v.run
  intro he halike
  cases x with
  | ok a => exact (hf a p' e he).trans halike
  | error e' => exact halike

end IsAtomic

/-! ## Trying again -/

/-- Attempts in a plant that a fault has interrupted any number of times settle with one in its
shadow. `I` relates the plant to the shadow before each of them. -/
structure Persists (clock clock' : Nat → Int64) (I : Plant → Plant → Prop) (R : α → α → Prop)
    (v : Attempt α) : Prop where
  start : ∀ p q, p.Shadows q → I p q
  alike : ∀ p p' q, I p q → p'.Alike p → I p' q
  settles : ∀ p q, I p q → Settles R (p.runBy clock v.run) (q.runBy clock' v.run)
  again : ∀ p q e, I p q → (p.runBy clock v.run).1 = .error e → I (p.runBy clock v.run).2 q

theorem Mirrors.persists {R : α → α → Prop} {v : Attempt α} (h : Mirrors clock clock' R v v)
    (ha : IsAtomic clock v) : Persists clock clock' Plant.Shadows R v where
  start _ _ hshadows := hshadows
  alike _ _ _ hshadows halike := hshadows.of_alike halike
  settles := h
  again p _ e hshadows he := hshadows.of_alike (ha p e he)

/-- The plant is alike to the shadow, or to what becomes of it by a first stage. -/
def Halfway (clock' : Nat → Int64) (u : Attempt Unit) (p q : Plant) : Prop :=
  p.Shadows q ∨
    q.IsCalm ∧ (q.runBy clock' u.run).1 = .ok () ∧ p.Shadows (q.runBy clock' u.run).2

theorem Halfway.of_alike {u : Attempt Unit} {p p' q : Plant} (h : Halfway clock' u p q)
    (hp : p'.Alike p) : Halfway clock' u p' q :=
  h.imp (·.of_alike hp) fun ⟨hcalm, hok, hshadows⟩ => ⟨hcalm, hok, hshadows.of_alike hp⟩

/-- Two stages, the first of which does nothing where it was carried out before. -/
theorem Mirrors.persists_twoStage {R : α → α → Prop} {u : Attempt Unit} {v : Attempt α}
    (hu : Mirrors clock clock' Eq u u) (hv : Mirrors clock clock' R v v)
    (hua : IsAtomic clock u) (hva : IsAtomic clock v)
    (hagain : ∀ p q : Plant, q.IsCalm → (q.runBy clock' u.run).1 = .ok () →
      p.Shadows (q.runBy clock' u.run).2 → (p.runBy clock u.run).2.Alike p ∧
        ∀ e, (p.runBy clock u.run).1 = .error e → e.isMisfit = false) :
    Persists clock clock' (Halfway clock' u) R (u >>= fun _ => v) where
  start _ _ hshadows := .inl hshadows
  alike _ _ _ h halike := h.of_alike halike
  settles p q h := by
    rcases h with hshadows | ⟨hcalm, hok, hshadows⟩
    · exact hu.bind (fun _ _ _ => hv) p q hshadows
    · obtain ⟨halike, hmisfit⟩ := hagain p q hcalm hok hshadows
      rw [Plant.runBy_andThen, Plant.runBy_andThen, hok]
      cases hx : (p.runBy clock u.run).1 with
      | ok a => exact hv _ _ (hshadows.of_alike halike)
      | error e => exact .of_failure rfl (hmisfit e hx)
  again p q e h he := by
    -- After the first stage the plant is halfway, and the second one leaves it so.
    have hthen : ∀ p' : Plant, (p.runBy clock u.run) = (.ok (), p') → Halfway clock' u p' q →
        Halfway clock' u (p.runBy clock (u >>= fun _ => v).run).2 q := by
      intro p' hrun hhalfway
      rw [Plant.runBy_andThen, hrun] at he ⊢
      exact hhalfway.of_alike (hva p' e he)
    have hfails : ∀ e', (p.runBy clock u.run).1 = .error e' →
        (p.runBy clock (u >>= fun _ => v).run).2 = (p.runBy clock u.run).2 := by
      intro e' he'
      rw [Plant.runBy_andThen, he']
    rcases h with hshadows | ⟨hcalm, hok, hshadows⟩
    · have hsettles := hu p q hshadows
      cases hx : (p.runBy clock u.run).1 with
      | ok a =>
        unfold Settles at hsettles
        rw [hx] at hsettles
        obtain ⟨_, hok, -, hshadows'⟩ := hsettles
        exact hthen _ (Prod.ext hx rfl) (.inr ⟨hshadows.calm, hok, hshadows'⟩)
      | error e' =>
        rw [hfails e' hx]
        exact .inl (hshadows.of_alike (hua p e' hx))
    · obtain ⟨halike, -⟩ := hagain p q hcalm hok hshadows
      have hhalfway : Halfway clock' u (p.runBy clock u.run).2 q :=
        .inr ⟨hcalm, hok, hshadows.of_alike halike⟩
      cases hx : (p.runBy clock u.run).1 with
      | ok a => exact hthen _ (Prod.ext hx rfl) hhalfway
      | error e' =>
        rw [hfails e' hx]
        exact hhalfway

namespace Persists

open Policy

variable {I : Plant → Plant → Prop} {R : α → α → Prop} {v : Attempt α}

theorem within_conclude (n : Nat) (x : Except Failure α) :
    (conclude (m := Work) n x).Within Action.IsIdle := by
  refine Course.Within.bind (Course.within_query ?_) fun _ => Course.within_pure _
  exact (trivial : (Action.count _ 1).IsIdle)

theorem conclusion_of_not_isRefusal {x : Except Failure α} (h : isRefusal x = false) (n : Nat) :
    conclusion n x = x := by
  cases x with
  | ok a => rfl
  | error e =>
    have he : e.severity ≠ .retryable := by simpa [isRefusal] using h
    simp only [conclusion, he, if_false]

theorem not_isRefusal_of_isMisfit {e : Failure} (h : e.isMisfit = true) :
    isRefusal (.error e : Except Failure α) = false := by
  cases e <;> first | rfl | cases h

/-- The last attempt fails for what it failed for, or because there were too many. -/
theorem settles_conclude_failure {e : Failure} (he : e.isMisfit = false) (n : Nat) (p : Plant)
    (y : Except Failure α × Plant) :
    Settles R (p.runBy clock (conclude (m := Work) n (.error e : Except Failure α))) y := by
  have hresult : (p.runBy clock (conclude (m := Work) n (.error e : Except Failure α))).1 =
      .error (if e.severity = .retryable then .exhausted n e else e) := rfl
  refine .of_failure hresult ?_
  split
  · rfl
  · exact he

theorem settles_conclude {x y : Except Failure α × Plant} (h : Settles R x y) (n m : Nat) :
    Settles R (x.2.runBy clock (conclude n x.1)) (y.2.runBy clock' (conclude m y.1)) := by
  have hshadows : x.2.Shadows y.2 → (x.2.runBy clock (conclude (m := Work) n x.1)).2.Shadows
      (y.2.runBy clock' (conclude (m := Work) m y.1)).2 := fun hshadows =>
    hshadows.congr (Plant.alike_runBy (within_conclude n x.1) _ _)
      (Plant.alike_runBy (within_conclude m y.1) _ _) (hshadows.calm.runBy _)
  obtain ⟨x, p⟩ := x
  obtain ⟨y, q⟩ := y
  cases x with
  | ok a =>
    obtain ⟨b, rfl, hR, hsettled⟩ := h
    exact ⟨b, rfl, hR, hshadows hsettled⟩
  | error e =>
    cases he : e.isMisfit with
    | true =>
      obtain ⟨rfl, hsettled⟩ := h he
      have hlast : ∀ (k : Nat) (clock : Nat → Int64) (p : Plant),
          (p.runBy clock (conclude (m := Work) k (.error e : Except Failure α))).1 = .error e :=
        fun k _ _ => conclusion_of_not_isRefusal (not_isRefusal_of_isMisfit he) k
      unfold Settles
      rw [hlast]
      exact fun _ => ⟨hlast m clock' q, hshadows hsettled⟩
    | false => exact settles_conclude_failure he n p _

/-- An attempt that is not refused is the last one. -/
theorem runBy_executeFrom {p : Plant} (policy : Policy) (tried left : Nat)
    (h : isRefusal (p.runBy clock v.run).1 = false) :
    p.runBy clock (policy.executeFrom v.run tried left) =
      (p.runBy clock v.run).2.runBy clock (conclude (tried + 1) (p.runBy clock v.run).1) := by
  cases left with
  | zero => exact Plant.runBy_bind _ _ p
  | succ left =>
    rw [executeFrom, Plant.runBy_bind]
    simp only [h, Bool.false_eq_true, if_false]

theorem settles_last (h : Persists clock clock' I R v) {p q : Plant} (hI : I p q) (policy : Policy)
    (n left tried : Nat) :
    Settles R ((p.runBy clock v.run).2.runBy clock (conclude n (p.runBy clock v.run).1))
      (q.runBy clock' (policy.executeFrom v.run tried left)) := by
  have hsettles := h.settles p q hI
  by_cases hrefusal : isRefusal (q.runBy clock' v.run).1 = false
  · rw [runBy_executeFrom policy tried left hrefusal]
    exact settles_conclude hsettles n (tried + 1)
  · -- The shadow refuses only where the plant fails.
    unfold Settles at hsettles
    cases hx : (p.runBy clock v.run).1 with
    | ok a =>
      rw [hx] at hsettles
      obtain ⟨b, hb, -, -⟩ := hsettles
      exact absurd (by rw [hb]; rfl) hrefusal
    | error e =>
      rw [hx] at hsettles
      cases he : e.isMisfit with
      | true =>
        obtain ⟨hb, -⟩ := hsettles he
        exact absurd (by rw [hb]; exact not_isRefusal_of_isMisfit he) hrefusal
      | false => exact settles_conclude_failure he n _ _

/-- Whatever was refused before, the plant settles with a shadow in which nothing is. -/
theorem settles_executeFrom (h : Persists clock clock' I R v) (policy : Policy)
    (left tried left' tried' : Nat) (p q : Plant) (hI : I p q) :
    Settles R (p.runBy clock (policy.executeFrom v.run tried left))
      (q.runBy clock' (policy.executeFrom v.run tried' left')) := by
  induction left generalizing tried p with
  | zero =>
    rw [executeFrom, Plant.runBy_bind]
    exact h.settles_last hI policy _ left' tried'
  | succ left ih =>
    rw [executeFrom, Plant.runBy_bind]
    by_cases hrefusal : isRefusal (p.runBy clock v.run).1 = true
    · obtain ⟨e, he⟩ : ∃ e, (p.runBy clock v.run).1 = .error e := by
        cases hx : (p.runBy clock v.run).1 with
        | ok a => simp [hx, isRefusal] at hrefusal
        | error e => exact ⟨e, rfl⟩
      simp only [hrefusal, if_true]
      rw [Plant.runBy_bind, Plant.runBy_bind]
      refine ih _ _ (h.alike _ _ _ (h.again p q e hI he) ?_)
      have hcount : (Paced.count .commandRetries : Work Unit).Within Action.IsIdle :=
        Course.within_query (trivial : (Action.count _ 1).IsIdle)
      exact (Plant.alike_runBy (Course.within_pause _) _ _).trans (Plant.alike_runBy hcount _ _)
    · simp only [hrefusal, if_false, Bool.false_eq_true]
      exact h.settles_last hI policy _ left' tried'

theorem mirrors_retried (h : Persists clock clock' I R v) (policy : Policy) :
    Mirrors clock clock' R (retried policy v) (retried policy v) :=
  fun p q hshadows => h.settles_executeFrom policy _ _ _ _ p q (h.start p q hshadows)

end Persists

end Attempt

end FieldGateway
