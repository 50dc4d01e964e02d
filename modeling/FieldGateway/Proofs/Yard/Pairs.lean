import FieldGateway.Proofs.Yard.Stamps

/-!
# Courses in two runs

The same work for a device, done in two runs: in one of them for this device alone, in the other
among work for other devices. The links of the device have other numbers in the two runs, and the
clock may show other times, but otherwise what is asked is the same as long as what is answered is
the same.

* `Work.Paired`: courses that ask the same for all answers that are the same.
* `Work.Paired.bind`, `Attempt.Paired.bind`: one after the other.
* `Attempt.Paired.retried`, `Attempt.Paired.mapM`: over and over again.
-/

namespace FieldGateway

open List (Forall₂)

/-- One device, and what may differ in it between two runs. -/
structure Focus extends Tolerance where
  id : String
  /-- What is known of the device. -/
  device? : Option Device
  known : ∀ d, device? = some d → d.id = id

/-- By its number in the second run, which number a link of the device has in the first. -/
def Named (names : List Nat) (i j : Nat) : Prop := names[j]? = some i

theorem Named.mono {names names' : List Nat} {i j : Nat} (h : Named names i j)
    (hn : names <+: names') : Named names' i j := by
  obtain ⟨l, rfl⟩ := hn
  have hj : j < names.length := (List.getElem?_eq_some_iff.1 h).1
  unfold Named at h ⊢
  rw [List.getElem?_append_left hj, h]

/-- Sessions that differ in the number of the link alone. -/
def Session.Paired (names : List Nat) (s s' : Session) : Prop :=
  ∃ link, s' = { s with link } ∧ Named names s.link link

theorem Session.Paired.mono {names names' : List Nat} {s s' : Session}
    (h : Session.Paired names s s') (hn : names <+: names') : Session.Paired names' s s' := by
  obtain ⟨link, rfl, hlink⟩ := h
  exact ⟨link, rfl, hlink.mono hn⟩

/-- A listener for a device that has not heard anything yet. -/
def Listener.IsNewOf (id : String) : Listener → Prop
  | .events c => c.deviceId = id ∧ c.buffer = []
  | .measurements reader => reader.deviceId = id
  | .watcher => False
  | .silent => True

/-- Requests for the device that differ in a generated identifier at most. -/
structure Request.Paired (φ : Focus) (r r' : Request) : Prop where
  same : r' = { r with correlationId := r'.correlationId }
  name : φ.name r.correlationId r'.correlationId
  device : r.deviceId = φ.id

theorem Request.Paired.refl {φ : Focus} {r : Request} (h : r.deviceId = φ.id) : r.Paired φ r :=
  ⟨rfl, φ.name_refl _, h⟩

inductive Job.Paired (φ : Focus) (names : List Nat) : Job → Job → Prop
  | disconnect {s s' : Session} (hs : Session.Paired names s s') (delay : Nat)
      (clear : Option String) : Paired φ names (.disconnect s delay clear)
        (.disconnect s' delay clear)
  | request (delay : Nat) {r r' : Request} (hr : r.Paired φ r') :
      Paired φ names (.request delay r) (.request delay r')

/-- What is asked for the device in two runs, and which answers are the same. -/
inductive Asks (φ : Focus) (names : List Nat) :
    (a a' : Action) → (List Nat → a.Answer → a'.Answer → Prop) → Prop
  | findDevice : Asks φ names (.findDevice φ.id) (.findDevice φ.id)
      fun _ x x' => x = .ok φ.device? ∧ x' = .ok φ.device?
  | latency (stage : Stage) : Asks φ names (.latency stage) (.latency stage) fun _ x x' => x = x'
  | associate {d : Device} (hd : φ.device? = some d) (port : UInt16) {l : Listener}
      (hl : l.IsNewOf φ.id) : Asks φ names (.associate d.identity.host port l)
        (.associate d.identity.host port l) fun names' => Except.Alike (Named names')
  | retrieve {i j : Nat} (h : Named names i j) :
      Asks φ names (.retrieve i) (.retrieve j) fun _ x x' => x = x'
  | read {i j : Nat} (h : Named names i j) (reference : String) (constraint : Constraint) :
      Asks φ names (.read i reference constraint) (.read j reference constraint)
        fun _ x x' => x = x'
  | write {i j : Nat} (h : Named names i j) (node : Node) :
      Asks φ names (.write i node) (.write j node) fun _ x x' => x = x'
  | enable {i j : Nat} (h : Named names i j) (reference : String) :
      Asks φ names (.enable i reference) (.enable j reference) fun _ x x' => x = x'
  | disable {i j : Nat} (h : Named names i j) (reference : String) :
      Asks φ names (.disable i reference) (.disable j reference) fun _ x x' => x = x'
  | release {i j : Nat} (h : Named names i j) :
      Asks φ names (.release i) (.release j) fun _ _ _ => True
  | isOpen {i j : Nat} (h : Named names i j) :
      Asks φ names (.isOpen i) (.isOpen j) fun _ x x' => x = x'
  | retire {i j : Nat} (h : Named names i j) :
      Asks φ names (.retire i) (.retire j) fun _ x x' => x = x'
  | activate {i j : Nat} (h : Named names i j) :
      Asks φ names (.activate i) (.activate j) fun _ _ _ => True
  | setBoundary {i j : Nat} (h : Named names i j) (n : UInt32) :
      Asks φ names (.setBoundary i n) (.setBoundary j n) fun _ _ _ => True
  | hangUp {i j : Nat} (h : Named names i j) :
      Asks φ names (.hangUp i) (.hangUp j)
        fun _ => Option.Rel fun b b' => b.deviceId = φ.id ∧ b.Resembles φ.toTolerance b'
  | settle {i j : Nat} (h : Named names i j) :
      Asks φ names (.settle i) (.settle j) fun _ _ _ => True
  | sendEvents {b b' : EventBatch} (hid : b.deviceId = φ.id)
      (hb : b.Resembles φ.toTolerance b') :
      Asks φ names (.sendEvents b) (.sendEvents b') fun _ x x' => x = x'
  | sendResponse {r r' : Response} (hid : r.deviceId = φ.id)
      (hr : r.Resembles φ.toTolerance r') :
      Asks φ names (.sendResponse r) (.sendResponse r') fun _ x x' => x = x'
  | now : Asks φ names .now .now fun _ => φ.time
  | freshId : Asks φ names .freshId .freshId fun _ => φ.name
  | count (c c' : Counter) (n n' : Nat) :
      Asks φ names (.count c n) (.count c' n') fun _ _ _ => True
  | start {job job' : Job} (h : job.Paired φ names job') :
      Asks φ names (.start job) (.start job') fun _ _ _ => True

theorem Job.Paired.mono {φ : Focus} {names names' : List Nat} {job job' : Job}
    (h : job.Paired φ names job') (hn : names <+: names') : job.Paired φ names' job' := by
  cases h with
  | disconnect hs delay clear => exact .disconnect (hs.mono hn) delay clear
  | request delay hr => exact .request delay hr

theorem Asks.mono {φ : Focus} {names names' : List Nat} {a a' : Action}
    {R : List Nat → a.Answer → a'.Answer → Prop} (h : Asks φ names a a' R)
    (hn : names <+: names') : Asks φ names' a a' R := by
  cases h with
  | findDevice => exact .findDevice
  | latency stage => exact .latency stage
  | associate hd port hl => exact .associate hd port hl
  | retrieve h => exact .retrieve (h.mono hn)
  | read h reference constraint => exact .read (h.mono hn) reference constraint
  | write h node => exact .write (h.mono hn) node
  | enable h reference => exact .enable (h.mono hn) reference
  | disable h reference => exact .disable (h.mono hn) reference
  | release h => exact .release (h.mono hn)
  | isOpen h => exact .isOpen (h.mono hn)
  | retire h => exact .retire (h.mono hn)
  | activate h => exact .activate (h.mono hn)
  | setBoundary h n => exact .setBoundary (h.mono hn) n
  | hangUp h => exact .hangUp (h.mono hn)
  | settle h => exact .settle (h.mono hn)
  | sendEvents hid hb => exact .sendEvents hid hb
  | sendResponse hid hr => exact .sendResponse hid hr
  | now => exact .now
  | freshId => exact .freshId
  | count c c' n n' => exact .count c c' n n'
  | start h => exact .start (h.mono hn)

/-! ## Courses -/

/-- Courses that ask the same for all answers that are the same, and end with results in `Q`. -/
inductive Work.Paired {α β : Type} (φ : Focus) (Q : List Nat → α → β → Prop) :
    List Nat → Work α → Work β → Prop
  | done {names : List Nat} {a : α} {b : β} (h : Q names a b) :
      Paired φ Q names (.done a) (.done b)
  | ask {names : List Nat} {a a' : Action} {R : List Nat → a.Answer → a'.Answer → Prop}
      {next : a.Answer → Work α} {next' : a'.Answer → Work β} (ha : Asks φ names a a' R)
      (hnext : ∀ names' x x', names <+: names' → R names' x x' →
        Paired φ Q names' (next x) (next' x')) : Paired φ Q names (.ask a next) (.ask a' next')
  | wait {names : List Nat} {ms : Nat} {c : Work α} {c' : Work β} (h : Paired φ Q names c c') :
      Paired φ Q names (.wait ms c) (.wait ms c')

section
variable {α β γ δ : Type} {φ : Focus} {names names' : List Nat} {Q : List Nat → α → β → Prop}
  {S : List Nat → γ → δ → Prop}

namespace Work.Paired

/-- More links do no harm. -/
theorem mono {c : Work α} {c' : Work β} (h : Paired φ Q names c c')
    (hQ : ∀ {names names' a b}, names <+: names' → Q names a b → Q names' a b)
    (hn : names <+: names') : Paired φ Q names' c c' := by
  induction h generalizing names' with
  | done h => exact .done (hQ hn h)
  | ask ha _ ih =>
    exact .ask (ha.mono hn) fun names'' x x' hn' hx =>
      ih names'' x x' (hn.trans hn') hx List.prefix_rfl
  | wait _ ih => exact .wait (ih hn)

theorem bind {c : Work α} {c' : Work β} {f : α → Work γ} {f' : β → Work δ}
    (h : Paired φ Q names c c')
    (hf : ∀ names' a b, names <+: names' → Q names' a b → Paired φ S names' (f a) (f' b)) :
    Paired φ S names (c >>= f) (c' >>= f') := by
  induction h with
  | done h => exact hf _ _ _ List.prefix_rfl h
  | ask ha _ ih =>
    exact .ask ha fun names' x x' hn hx =>
      ih names' x x' hn hx fun names'' a b hn' hab => hf names'' a b (hn.trans hn') hab
  | wait _ ih => exact .wait (ih hf)

theorem imp {c : Work α} {c' : Work β} {Q' : List Nat → α → β → Prop} (h : Paired φ Q names c c')
    (hQ : ∀ names a b, Q names a b → Q' names a b) : Paired φ Q' names c c' := by
  induction h with
  | done h => exact .done (hQ _ _ _ h)
  | ask ha _ ih => exact .ask ha ih
  | wait _ ih => exact .wait ih

theorem pure {a : α} {b : β} (h : Q names a b) :
    Paired φ Q names (Pure.pure a : Work α) (Pure.pure b : Work β) := .done h

theorem perform {a a' : Action} {R : List Nat → a.Answer → a'.Answer → Prop}
    (h : Asks φ names a a' R) : Paired φ R names a.perform a'.perform :=
  .ask h fun _ _ _ _ hx => .done hx

theorem pause (ms : Nat) : Paired φ (fun _ _ _ => True) names (Course.pause ms : Work Unit)
    (Course.pause ms : Work Unit) := by
  unfold Course.pause
  split
  · exact .done trivial
  · exact .wait (.done trivial)

end Work.Paired

/-! ## Attempts -/

/-- Attempts that fail in the same way, or end with results in `Q`. -/
def Attempt.Paired (φ : Focus) (Q : List Nat → α → β → Prop) (names : List Nat) (w : Attempt α)
    (w' : Attempt β) : Prop :=
  Work.Paired φ (fun names => Except.Alike (Q names)) names w.run w'.run

namespace Attempt.Paired

theorem pure {a : α} {b : β} (h : Q names a b) :
    Attempt.Paired φ Q names (Pure.pure a : Attempt α) (Pure.pure b : Attempt β) := .done h

theorem throw (e : Failure) :
    Attempt.Paired φ Q names (throw e : Attempt α) (throw e : Attempt β) := .done rfl

theorem ofExcept {x : Except Failure α} {y : Except Failure β} (h : Except.Alike (Q names) x y) :
    Attempt.Paired φ Q names (Attempt.ofExcept x) (Attempt.ofExcept y) := .done h

theorem ofMisfit (x : Except Misfit α) : Attempt.Paired φ (fun _ => Eq) names
    (Attempt.ofMisfit x) (Attempt.ofMisfit x) := by
  cases x <;> exact .done rfl

theorem bind {w : Attempt α} {w' : Attempt β} {f : α → Attempt γ} {f' : β → Attempt δ}
    (h : Attempt.Paired φ Q names w w')
    (hf : ∀ names' a b, names <+: names' → Q names' a b → Attempt.Paired φ S names' (f a) (f' b)) :
    Attempt.Paired φ S names (w >>= f) (w' >>= f') := by
  unfold Attempt.Paired at *
  rw [ExceptT.run_bind, ExceptT.run_bind]
  refine Work.Paired.bind h fun names' x y hn hxy => ?_
  rcases hxy.cases with ⟨e, rfl, rfl⟩ | ⟨a, b, rfl, rfl, hab⟩
  · exact .done rfl
  · exact hf names' a b hn hab

theorem imp {w : Attempt α} {w' : Attempt β} {Q' : List Nat → α → β → Prop}
    (h : Attempt.Paired φ Q names w w') (hQ : ∀ names a b, Q names a b → Q' names a b) :
    Attempt.Paired φ Q' names w w' := by
  refine Work.Paired.imp h fun names x y hxy => ?_
  rcases hxy.cases with ⟨e, rfl, rfl⟩ | ⟨a, b, rfl, rfl, hab⟩
  · rfl
  · exact hQ names a b hab

theorem lift {c : Work α} {c' : Work β} (h : Work.Paired φ Q names c c') :
    Attempt.Paired φ Q names (liftM c : Attempt α) (liftM c' : Attempt β) := by
  unfold Attempt.Paired
  rw [run_lift, run_lift]
  exact h.bind fun _ _ _ _ hab => .done hab

/-- An action that the device may answer with a fault, the same in both runs. -/
theorem ofFault {w : Work (Except Fault α)} {w' : Work (Except Fault α)}
    (h : Work.Paired φ (fun _ => Eq) names w w') :
    Attempt.Paired φ (fun _ => Eq) names (Attempt.ofFault w) (Attempt.ofFault w') := by
  refine Work.Paired.bind h fun names' x y hn hxy => ?_
  subst hxy
  cases x <;> exact .done rfl

/-- How an attempt ends is looked at. -/
theorem result {w : Attempt α} {w' : Attempt β} (h : Attempt.Paired φ Q names w w') :
    Attempt.Paired φ (fun names => Except.Alike (Q names)) names w.result w'.result :=
  Work.Paired.bind h fun _ _ _ _ hxy => .done hxy

theorem mapM {ι : Type} {f : ι → Attempt α} {f' : ι → Attempt β} {Q : α → β → Prop} {l : List ι}
    (hf : ∀ i ∈ l, ∀ names', names <+: names' →
      Attempt.Paired φ (fun _ => Q) names' (f i) (f' i)) :
    Attempt.Paired φ (fun _ => Forall₂ Q) names (l.mapM f) (l.mapM f') := by
  induction l generalizing names with
  | nil => exact .pure .nil
  | cons i l ih =>
    rw [List.mapM_cons, List.mapM_cons]
    refine .bind (hf i List.mem_cons_self names List.prefix_rfl) fun names' a b hn hab => ?_
    refine .bind (ih fun i hi names'' hn' => hf i (List.mem_cons_of_mem _ hi) names''
      (hn.trans hn')) fun _ as bs _ hl => ?_
    exact .pure (.cons hab hl)

theorem forM {ι : Type} {f f' : ι → Attempt Unit} {l : List ι}
    (hf : ∀ i ∈ l, ∀ names', names <+: names' →
      Attempt.Paired φ (fun _ _ _ => True) names' (f i) (f' i)) :
    Attempt.Paired φ (fun _ _ _ => True) names (l.forM f) (l.forM f') := by
  induction l generalizing names with
  | nil => exact .pure trivial
  | cons i l ih =>
    refine .bind (hf i List.mem_cons_self names List.prefix_rfl) fun names' _ _ hn _ => ?_
    exact ih fun i hi names'' hn' => hf i (List.mem_cons_of_mem _ hi) names'' (hn.trans hn')

/-- How the last attempt is told. -/
theorem conclude (tried : Nat) {x : Except Failure α} {y : Except Failure β} {Q : α → β → Prop}
    (h : Except.Alike Q x y) : Work.Paired φ (fun _ => Except.Alike Q) names
      (Policy.conclude (m := Work) tried x) (Policy.conclude (m := Work) tried y) := by
  refine Work.Paired.bind (.perform (.count _ _ 1 1)) fun names' _ _ hn _ => ?_
  rcases h.cases with ⟨e, rfl, rfl⟩ | ⟨a, b, rfl, rfl, hab⟩
  · exact .done rfl
  · exact .done hab

theorem isRefusal {x : Except Failure α} {y : Except Failure β} {Q : α → β → Prop}
    (h : Except.Alike Q x y) : Policy.isRefusal x = Policy.isRefusal y := by
  rcases h.cases with ⟨e, rfl, rfl⟩ | ⟨a, b, rfl, rfl, -⟩ <;> rfl

/-- Attempts that are made over and over again. -/
theorem retried (p : Policy) {w : Attempt α} {w' : Attempt β} {Q : α → β → Prop}
    (h : ∀ names', names <+: names' → Attempt.Paired φ (fun _ => Q) names' w w') :
    Attempt.Paired φ (fun _ => Q) names (Attempt.retried p w) (Attempt.retried p w') := by
  have hfrom : ∀ (left tried : Nat) (names' : List Nat), names <+: names' →
      Work.Paired φ (fun _ => Except.Alike Q) names' (p.executeFrom w.run tried left)
        (p.executeFrom w'.run tried left) := by
    intro left
    induction left with
    | zero =>
      exact fun tried names' hn =>
        Work.Paired.bind (h names' hn) fun _ x y _ hxy => conclude _ hxy
    | succ left ih =>
      refine fun tried names' hn => Work.Paired.bind (h names' hn) fun names'' x y hn' hxy => ?_
      rw [isRefusal hxy]
      split
      · refine Work.Paired.bind (.perform (.count _ _ 1 1)) fun names₃ _ _ hn₃ _ => ?_
        refine Work.Paired.bind (.pause _) fun names₄ _ _ hn₄ _ => ?_
        exact ih _ names₄ (((hn.trans hn').trans hn₃).trans hn₄)
      · exact conclude _ hxy
  exact hfrom _ _ names List.prefix_rfl

end Attempt.Paired

end

end FieldGateway
