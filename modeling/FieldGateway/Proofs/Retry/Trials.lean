import FieldGateway.Retry.Rehearsal

/-!
# Commands that are tried

A command gives one result at each call, whatever these are. Under a policy it is called until the
device does not refuse any more, or as often as the policy allows.

* `Trial`: what is noted while a command is tried.
* `Policy.run_executeFrom`: what is noted from any attempt on, by the first result that settles it.
* `Policy.tried_until_settled`: how often a command is called, what is told, and what was counted
  and waited.
* `Rehearsal.run_eq_trial`: a scripted command is tried in this way.
-/

namespace FieldGateway

namespace Counters

@[simp] theorem add_zero (cs : Counters) (c : Counter) : cs.add c 0 = cs := by
  have hget : (cs.add c 0).get = cs.get := by
    funext d
    simp
  exact congrArg Counters.mk hget

theorem add_add (cs : Counters) (c : Counter) (m n : Nat) :
    (cs.add c m).add c n = cs.add c (m + n) := by
  have hget : ((cs.add c m).add c n).get = (cs.add c (m + n)).get := by
    funext d
    simp only [get_add]
    split <;> omega
  exact congrArg Counters.mk hget

end Counters

/-- What is noted while a command is tried. -/
structure Trial where
  calls : Nat
  /-- How long was waited, in milliseconds. -/
  waited : Nat
  counters : Counters

namespace Trial

instance : Paced (StateM Trial) where
  pause ms := modify fun t => { t with waited := t.waited + Course.spell ms }
  count c := modify fun t => { t with counters := t.counters.add c 1 }

/-- The next call of a command that gives `results`, one at each call. -/
def call {α : Type} (results : Nat → Except Failure α) : StateM Trial (Except Failure α) :=
  fun t => (results t.calls, { t with calls := t.calls + 1 })

end Trial

/-- The device refused. -/
def Refused {α : Type} (r : Except Failure α) : Prop := ∃ text, r = .error (.device text)

namespace Policy

variable {α : Type}

theorem isRefusal_iff {r : Except Failure α} : isRefusal r = true ↔ Refused r := by
  constructor
  · intro h
    match r with
    | .ok a => cases h
    | .error e =>
      cases e with
      | device text => exact ⟨text, rfl⟩
      | _ => cases h
  · rintro ⟨text, rfl⟩
    rfl

theorem conclusion_of_refused {r : Except Failure α} (h : Refused r) (tried : Nat) :
    ∃ e, r = .error e ∧ conclusion tried r = .error (.exhausted tried e) := by
  obtain ⟨text, rfl⟩ := h
  exact ⟨.device text, rfl, rfl⟩

theorem conclusion_of_not_refused {r : Except Failure α} (h : ¬ Refused r) (tried : Nat) :
    conclusion tried r = r := by
  cases r with
  | ok a => rfl
  | error e =>
    cases e with
    | device text => exact absurd ⟨text, rfl⟩ h
    | _ => rfl

theorem isOk_conclusion (tried : Nat) (r : Except Failure α) :
    (conclusion tried r).isOk = r.isOk := by
  cases r <;> rfl

/-- The result of a command that is tried, and what was noted, counting on from `cs`. -/
def trial (p : Policy) (results : Nat → Except Failure α) (cs : Counters) :
    Except Failure α × Trial :=
  StateT.run (m := Id) (p.execute (Trial.call results)) ⟨0, 0, cs⟩

/-- What is counted of a command that is settled. -/
def verdictOf (r : Except Failure α) : Counter :=
  if r.isOk then .commandsExecuted else .commandFailures

/-- The last attempt settles a command, whatever its result. -/
theorem run_executeFrom_zero (p : Policy) (results : Nat → Except Failure α) (tried : Nat)
    (t : Trial) :
    StateT.run (m := Id) (p.executeFrom (Trial.call results) tried 0) t =
      (conclusion (tried + 1) (results t.calls),
        ⟨t.calls + 1, t.waited, t.counters.add (verdictOf (results t.calls)) 1⟩) := rfl

/-- An attempt that was refused is counted, and the next one is made after a pause. -/
theorem run_executeFrom_of_refused (p : Policy) {results : Nat → Except Failure α} {t : Trial}
    (h : Refused (results t.calls)) (tried left : Nat) :
    StateT.run (m := Id) (p.executeFrom (Trial.call results) tried (left + 1)) t =
      StateT.run (m := Id) (p.executeFrom (Trial.call results) (tried + 1) left)
        ⟨t.calls + 1, t.waited + Course.spell p.backoff.toNat,
          t.counters.add .commandRetries 1⟩ := by
  have hrefusal : isRefusal (results t.calls) = true := isRefusal_iff.2 h
  show StateT.run (m := Id) (if isRefusal (results t.calls) = true then _ else _) _ = _
  rw [if_pos hrefusal]
  rfl

/-- Any other attempt settles a command. -/
theorem run_executeFrom_of_not_refused (p : Policy) {results : Nat → Except Failure α} {t : Trial}
    (h : ¬ Refused (results t.calls)) (tried left : Nat) :
    StateT.run (m := Id) (p.executeFrom (Trial.call results) tried (left + 1)) t =
      (conclusion (tried + 1) (results t.calls),
        ⟨t.calls + 1, t.waited, t.counters.add (verdictOf (results t.calls)) 1⟩) := by
  have hrefusal : ¬ isRefusal (results t.calls) = true := fun hr => h (isRefusal_iff.1 hr)
  show StateT.run (m := Id) (if isRefusal (results t.calls) = true then _ else _) _ = _
  rw [if_neg hrefusal]
  rfl

/-- From any attempt on: the command is settled after some refusals, or no attempt is left. -/
theorem run_executeFrom (p : Policy) (results : Nat → Except Failure α) (tried left : Nat)
    (t : Trial) :
    ∃ k ≤ left, (∀ j < k, Refused (results (t.calls + j))) ∧
      (k = left ∨ ¬ Refused (results (t.calls + k))) ∧
      StateT.run (m := Id) (p.executeFrom (Trial.call results) tried left) t =
        (conclusion (tried + k + 1) (results (t.calls + k)),
          ⟨t.calls + k + 1, t.waited + k * Course.spell p.backoff.toNat,
            (t.counters.add .commandRetries k).add (verdictOf (results (t.calls + k))) 1⟩) := by
  induction left generalizing tried t with
  | zero => exact ⟨0, Nat.le_refl _, nofun, .inl rfl, by simp [run_executeFrom_zero]⟩
  | succ left ih =>
    by_cases h : Refused (results t.calls)
    · obtain ⟨k, hk, hearlier, hlast, hrun⟩ := ih (tried + 1) ⟨t.calls + 1,
        t.waited + Course.spell p.backoff.toNat, t.counters.add .commandRetries 1⟩
      have hcalls : t.calls + 1 + k = t.calls + (k + 1) := by omega
      simp only [hcalls] at hearlier hlast hrun
      refine ⟨k + 1, by omega, fun j hj => ?_, ?_, ?_⟩
      · cases j with
        | zero => exact h
        | succ j =>
          have := hearlier j (by omega)
          rwa [Nat.add_right_comm] at this
      · exact hlast.imp (congrArg (· + 1)) id
      · rw [run_executeFrom_of_refused p h, hrun, Counters.add_add]
        have hwaited : t.waited + Course.spell p.backoff.toNat + k * Course.spell p.backoff.toNat =
            t.waited + (k + 1) * Course.spell p.backoff.toNat := by
          rw [Nat.add_mul, Nat.one_mul]
          omega
        rw [hwaited, Nat.add_comm 1 k, Nat.add_assoc tried 1 k, Nat.add_comm 1 k]
    · exact ⟨0, Nat.zero_le _, nofun, .inr h, by simp [run_executeFrom_of_not_refused p h]⟩

theorem attempts_lt (p : Policy) : p.attempts < UInt32.size := by
  have := p.maxAttempts.toNat_lt
  simp only [attempts, UInt32.size]
  omega

/-- Whatever the policy allows and whatever the command gives: the first result that is no refusal
is told, after as many calls as it took, if the policy allows so many attempts; otherwise the
command is called as often as the policy allows, and the last refusal is told with that number.
Every call but the first is counted as a retry, and the command once, as executed or as failed; the
back-off is waited for between the calls, as far as that can be waited at once; and the number of
attempts always fits 32 bits. -/
theorem tried_until_settled (p : Policy) (results : Nat → Except Failure α) (cs : Counters) :
    ∃ r t, p.trial results cs = (r, t) ∧
      (∀ k < p.attempts, (∀ j < k, Refused (results j)) → ¬ Refused (results k) →
        t.calls = k + 1 ∧ r = results k) ∧
      ((∀ j < p.attempts, Refused (results j)) → t.calls = p.attempts ∧
        ∃ last, results (p.attempts - 1) = .error last ∧
          r = .error (.exhausted p.attempts last)) ∧
      t.counters = (cs.add .commandRetries (t.calls - 1)).add
        (if r.isOk then .commandsExecuted else .commandFailures) 1 ∧
      t.waited = (t.calls - 1) * Course.spell p.backoff.toNat ∧
      0 < t.calls ∧ t.calls ≤ p.attempts ∧ p.attempts < UInt32.size := by
  have hpos := p.attempts_pos
  obtain ⟨k, hk, hearlier, hlast, hrun⟩ :=
    p.run_executeFrom results 0 (p.attempts - 1) ⟨0, 0, cs⟩
  simp only [Nat.zero_add] at hearlier hlast hrun
  refine ⟨_, _, hrun, fun n hn hrefused hn' => ?_, fun hall => ?_, ?_, ?_, ?_, ?_, p.attempts_lt⟩
  · -- `k` is the first call that was not refused.
    have hkn : k = n := by
      rcases Nat.lt_trichotomy k n with hlt | heq | hgt
      · rcases hlast with rfl | hsettled
        · omega
        · exact absurd (hrefused k hlt) hsettled
      · exact heq
      · exact absurd (hearlier n hgt) hn'
    subst hkn
    exact ⟨rfl, conclusion_of_not_refused hn' _⟩
  · -- No call was settled before the last one.
    have hkn : k = p.attempts - 1 := by
      rcases hlast with heq | hsettled
      · exact heq
      · exact absurd (hall k (by omega)) hsettled
    have hcalls : k + 1 = p.attempts := by omega
    obtain ⟨e, he, htold⟩ := conclusion_of_refused (hall k (by omega)) (k + 1)
    rw [← hcalls, Nat.add_sub_cancel]
    exact ⟨rfl, e, he, htold⟩
  · rw [isOk_conclusion]
    rfl
  · simp
  · exact Nat.succ_pos k
  · show k + 1 ≤ p.attempts
    omega

/-- A command that is refused twice and succeeds at the last attempt. -/
def busyTwice (n : Nat) : Except Failure Int :=
  if n < 2 then .error (.device "busy") else .ok 5

theorem tried_until_settled_busyTwice :
    attempts ⟨3, 50⟩ = 3 ∧ (∀ j < 2, Refused (busyTwice j)) ∧ ¬ Refused (busyTwice 2) ∧
      ∃ r t, trial ⟨3, 50⟩ busyTwice .zero = (r, t) ∧ t.calls = 3 ∧ r = .ok 5 ∧
        t.waited = 100 := by
  have hrefused : ∀ j < 2, Refused (busyTwice j) := fun j hj => ⟨"busy", if_pos hj⟩
  have hsettled : ¬ Refused (busyTwice 2) := nofun
  obtain ⟨r, t, hrun, hfirst, -, -, hwaited, -⟩ := tried_until_settled ⟨3, 50⟩ busyTwice .zero
  obtain ⟨hcalls, hr⟩ := hfirst 2 (by decide) hrefused hsettled
  refine ⟨rfl, hrefused, hsettled, r, t, hrun, hcalls, hr, ?_⟩
  rw [hwaited, hcalls]
  rfl

end Policy

/-! ## Scripts -/

namespace Rehearsal

/-- What a script gives at each call. -/
def resultAt (script : List (Except Failure Int)) (n : Nat) : Except Failure Int :=
  script.getD n (.ok 0)

/-- A rehearsal in which so much was noted. -/
def ofTrial (script : List (Except Failure Int)) (t : Trial) : Rehearsal :=
  ⟨script.drop t.calls, t.calls, t.waited, t.counters⟩

theorem call_ofTrial (script : List (Except Failure Int)) (t : Trial) :
    call (ofTrial script t) =
      (resultAt script t.calls, ofTrial script { t with calls := t.calls + 1 }) := by
  cases hdrop : script.drop t.calls with
  | nil =>
    have hle : script.length ≤ t.calls := List.drop_eq_nil_iff.1 hdrop
    have hnext : script.drop (t.calls + 1) = [] := List.drop_eq_nil_iff.2 (by omega)
    simp [call, ofTrial, resultAt, hdrop, hnext, List.getElem?_eq_none hle]
  | cons result rest =>
    have hnext : script.drop (t.calls + 1) = rest := by
      rw [← List.tail_drop, hdrop, List.tail_cons]
    have hget : script[t.calls]? = some result := by
      rw [← List.head?_drop, hdrop, List.head?_cons]
    simp [call, ofTrial, resultAt, hdrop, hnext, hget]

theorem run_executeFrom (p : Policy) (script : List (Except Failure Int)) (tried left : Nat)
    (t : Trial) :
    StateT.run (m := Id) (p.executeFrom call tried left) (ofTrial script t) =
      let (r, t) := StateT.run (m := Id)
        (p.executeFrom (Trial.call (resultAt script)) tried left) t
      (r, ofTrial script t) := by
  induction left generalizing tried t with
  | zero =>
    show StateT.run (m := Id) (Policy.conclude (tried + 1) (call (ofTrial script t)).1)
      (call (ofTrial script t)).2 = _
    rw [call_ofTrial]
    rfl
  | succ left ih =>
    show StateT.run (m := Id) (if Policy.isRefusal (call (ofTrial script t)).1 = true then _
      else Policy.conclude (tried + 1) (call (ofTrial script t)).1) (call (ofTrial script t)).2 = _
    rw [call_ofTrial]
    by_cases h : Refused (resultAt script t.calls)
    · rw [if_pos (Policy.isRefusal_iff.2 h), p.run_executeFrom_of_refused h, ← ih]
      rfl
    · rw [if_neg fun hr => h (Policy.isRefusal_iff.1 hr), p.run_executeFrom_of_not_refused h]
      rfl

/-- A scripted command is tried as any other. -/
theorem run_eq_trial (p : Policy) (script : List (Except Failure Int)) :
    run p script =
      let (r, t) := p.trial (resultAt script) .zero
      (r, ofTrial script t) := run_executeFrom p script 0 (p.attempts - 1) ⟨0, 0, .zero⟩

/-- A back-off of more than thirty years is not waited for to its end. -/
theorem waited_less_than_backoff :
    (run (.ofRetries 1 946080000001) [.error (.device "a")]).1 = .ok 0 ∧
      (run (.ofRetries 1 946080000001) [.error (.device "a")]).2.calls = 2 ∧
      (run (.ofRetries 1 946080000001) [.error (.device "a")]).2.waited ≠
        (2 - 1) * 946080000001 := by
  -- in the trial that is rehearsed, one spell lies between two calls
  rw [run_eq_trial]
  refine ⟨rfl, rfl, Nat.ne_of_lt ?_⟩
  calc Course.spell 946080000001 ≤ Course.longestSpell := Course.spell_le _
    _ < (2 - 1) * 946080000001 := by decide

end Rehearsal

end FieldGateway
