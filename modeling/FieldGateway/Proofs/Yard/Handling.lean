import FieldGateway.Gateway.Handle
import FieldGateway.Proofs.Yard.Pairs

/-!
# Handling a request in two runs

Nothing that is done for a device depends on which numbers its links have: the work for a request,
for a registration and for a job asks the same in two runs as long as it is answered the same.

* `Session.paired_read`, `Session.paired_write`, `Session.paired_enable`: requests over a session.
* `Gateway.paired_carryOut`: the operations.
* `Gateway.paired_handle`, `Gateway.paired_registered`, `Gateway.paired_jobWork`: the work as a
  whole.
-/

namespace FieldGateway

open List (Forall₂)

variable {φ : Focus} {names : List Nat} {s s' : Session}

/-- Work that comes to nothing that matters. -/
abbrev Work.PairedOnly {α : Type} (φ : Focus) (names : List Nat) (c c' : Work α) : Prop :=
  Work.Paired φ (fun _ _ _ => True) names c c'

/-! ## Sessions -/

namespace Session

theorem paired_ensureOpen (hs : Session.Paired names s s') :
    Attempt.Paired φ (fun _ _ _ => True) names s.ensureOpen s'.ensureOpen := by
  obtain ⟨link, rfl, hlink⟩ := hs
  refine .bind (.lift (.perform (.isOpen hlink))) fun names' x y _ hxy => ?_
  subst hxy
  cases x
  · exact .throw _
  · exact .pure trivial

theorem paired_read (hs : Session.Paired names s s') (a : Address) :
    Attempt.Paired φ (fun _ => Eq) names (s.read a) (s'.read a) := by
  refine .bind (paired_ensureOpen hs) fun names₁ _ _ hn₁ _ => ?_
  obtain ⟨link, rfl, hlink⟩ := hs.mono hn₁
  refine .bind (.ofMisfit _) fun names₂ node _ hn₂ hnode => ?_
  subst hnode
  refine .bind (.lift (.perform (.latency .reading))) fun names₃ latency _ hn₃ hlatency => ?_
  subst hlatency
  refine .bind (.lift (.pause latency)) fun names₄ _ _ hn₄ _ => ?_
  exact .ofFault (.perform (.read (((hlink.mono hn₂).mono hn₃).mono hn₄) _ _))

theorem paired_write (hs : Session.Paired names s s') (a : Address) (path : String)
    (value : Value) :
    Attempt.Paired φ (fun _ _ _ => True) names (s.write a path value) (s'.write a path value) := by
  refine .bind (paired_ensureOpen hs) fun names₁ _ _ hn₁ _ => ?_
  obtain ⟨link, rfl, hlink⟩ := hs.mono hn₁
  refine .bind (.ofMisfit _) fun names₂ node _ hn₂ hnode => ?_
  subst hnode
  refine .imp (.ofFault (.perform (.write (hlink.mono hn₂) _))) fun _ _ _ _ => trivial

theorem paired_enable (hs : Session.Paired names s s') (reference : String) :
    Attempt.Paired φ (fun _ => Eq) names (s.enable reference) (s'.enable reference) := by
  refine .bind (paired_ensureOpen hs) fun names₁ _ _ hn₁ _ => ?_
  obtain ⟨link, rfl, hlink⟩ := hs.mono hn₁
  dsimp only
  cases s.model.block? reference with
  | none => exact .throw _
  | some b => exact .ofFault (.perform (.enable hlink reference))

theorem paired_disable (hs : Session.Paired names s s') (reference : String) :
    Attempt.Paired φ (fun _ => Eq) names (s.disable reference) (s'.disable reference) := by
  refine .bind (paired_ensureOpen hs) fun names₁ _ _ hn₁ _ => ?_
  obtain ⟨link, rfl, hlink⟩ := hs.mono hn₁
  exact .ofFault (.perform (.disable hlink reference))

/-! ### Closing -/

theorem paired_sendEvents {b b' : EventBatch} (hid : b.deviceId = φ.id)
    (hb : b.Resembles φ.toTolerance b') :
    Work.PairedOnly φ names (sendEvents b) (sendEvents b') := by
  unfold sendEvents
  rw [hb.isEmpty]
  split
  · exact .done trivial
  · refine .bind (.perform (.sendEvents hid hb)) fun names' x y _ hxy => ?_
    subst hxy
    cases x
    · exact .perform (.count _ _ _ _)
    · exact .perform (.count _ _ _ _)

theorem paired_hangUp {i j : Nat} (h : Named names i j) :
    Work.PairedOnly φ names (hangUp i) (hangUp j) := by
  refine .bind (.perform (.hangUp h)) fun names₁ x y hn₁ hxy => ?_
  rcases cases_option_rel hxy with ⟨rfl, rfl⟩ | ⟨b, b', rfl, rfl, hid, hb⟩
  · exact .done trivial
  · refine .bind (paired_sendEvents hid hb) fun names₂ _ _ hn₂ _ => ?_
    exact .perform (.settle ((h.mono hn₁).mono hn₂))

theorem paired_disconnect (hs : Session.Paired names s s') :
    Work.PairedOnly φ names s.disconnect s'.disconnect := by
  obtain ⟨link, rfl, hlink⟩ := hs
  refine .bind (.perform (.retire hlink)) fun names₁ x y hn₁ hxy => ?_
  subst hxy
  cases x
  · exact .done trivial
  · refine .bind (.perform (.release (hlink.mono hn₁))) fun names₂ _ _ hn₂ _ => ?_
    exact paired_hangUp ((hlink.mono hn₁).mono hn₂)

theorem paired_clear (hs : Session.Paired names s s') (reference : String) :
    Work.PairedOnly φ names (s.clear reference) (s'.clear reference) := by
  obtain ⟨link, rfl, hlink⟩ := id hs
  refine .bind (.perform (.isOpen hlink)) fun names₁ x y hn₁ hxy => ?_
  subst hxy
  cases x
  · exact .done trivial
  · exact .bind (paired_disable (hs.mono hn₁) reference) fun _ _ _ _ _ => .done trivial

theorem paired_disconnectLater (hs : Session.Paired names s s') (delay : Nat)
    (report : Option String) : Work.PairedOnly φ names (s.disconnectLater delay report)
      (s'.disconnectLater delay report) := by
  refine .bind (.pause delay) fun names₁ _ _ hn₁ _ => ?_
  cases report with
  | none => exact paired_disconnect (hs.mono hn₁)
  | some reference =>
    refine .bind (paired_clear (hs.mono hn₁) reference) fun names₂ _ _ hn₂ _ => ?_
    exact paired_disconnect ((hs.mono hn₁).mono hn₂)

theorem paired_scheduleDisconnect (hs : Session.Paired names s s') (delay : UInt64)
    (report : Option String) : Work.PairedOnly φ names (s.scheduleDisconnect delay report)
      (s'.scheduleDisconnect delay report) :=
  .perform (.start (.disconnect hs _ report))

/-! ### Opening -/

/-- A stage that takes no longer in one run than in the other. -/
theorem paired_within {α β : Type} {Q : List Nat → α → β → Prop} (limit : UInt64) (stage : Stage)
    {c : Work α} {c' : Work β} (h : ∀ names', names <+: names' → Work.Paired φ Q names' c c') :
    Work.Paired φ (fun names => Option.Rel (Q names)) names (within limit stage c)
      (within limit stage c') := by
  refine .bind (.perform (.latency stage)) fun names₁ latency _ hn₁ hlatency => ?_
  subst hlatency
  split
  · refine .bind (.pause latency) fun names₂ _ _ hn₂ _ => ?_
    exact .bind (h names₂ (hn₁.trans hn₂)) fun _ a b _ hab => .done (.some hab)
  · exact .bind (.pause _) fun _ _ _ _ _ => .done .none

theorem paired_refuse {α β : Type} {Q : List Nat → α → β → Prop} (f : Failure) :
    Attempt.Paired φ Q names (refuse f : Attempt α) (refuse f : Attempt β) :=
  .bind (.lift (.perform (.count _ _ 1 1))) fun _ _ _ _ _ => .throw f

variable {d : Device}

theorem paired_associate (hd : φ.device? = some d) (a : Approach) {listener : Listener}
    (hl : listener.IsNewOf φ.id) : Attempt.Paired φ Named names
      (associate d.identity a listener) (associate d.identity a listener) := by
  refine .bind (.lift (paired_within a.limit .associating fun names' _ =>
    .perform (.associate hd a.port hl))) fun names₁ x y hn₁ hxy => ?_
  rcases cases_option_rel hxy with ⟨rfl, rfl⟩ | ⟨answer, answer', rfl, rfl, halike⟩
  · exact paired_refuse _
  · rcases halike.cases with ⟨e, rfl, rfl⟩ | ⟨i, j, rfl, rfl, hij⟩
    · exact paired_refuse _
    · exact .pure hij

theorem paired_retrieve {i j : Nat} (h : Named names i j) (limit : UInt64) :
    Attempt.Paired φ (fun _ => Eq) names (retrieve i limit) (retrieve j limit) := by
  refine .bind (.lift (paired_within limit .retrieving fun names' hn =>
    .perform (.retrieve (h.mono hn)))) fun names₁ x y hn₁ hxy => ?_
  rcases cases_option_rel hxy with ⟨rfl, rfl⟩ | ⟨x, y, rfl, rfl, rfl⟩
  · exact .bind (.lift (.perform (.release (h.mono hn₁)))) fun _ _ _ _ _ => paired_refuse _
  · cases x with
    | error f =>
      exact .bind (.lift (.perform (.release (h.mono hn₁)))) fun _ _ _ _ _ => paired_refuse _
    | ok model => exact .pure rfl

theorem paired_connect (hd : φ.device? = some d) (a : Approach) {listener : Listener}
    (hl : listener.IsNewOf φ.id) : Attempt.Paired φ Session.Paired names
      (connect d.identity a listener) (connect d.identity a listener) := by
  refine .bind (paired_associate hd a hl) fun names₁ i j hn₁ hij => ?_
  have hopened : ∀ names₂, names₁ <+: names₂ → ∀ model, Attempt.Paired φ Session.Paired names₂
      (do Paced.count (m := Work) .sessionsOpened; return ⟨d.identity, model, i⟩)
      (do Paced.count (m := Work) .sessionsOpened; return ⟨d.identity, model, j⟩) := by
    intro names₂ hn₂ model
    refine .bind (.lift (.perform (.count _ _ 1 1))) fun names₃ _ _ hn₃ _ => ?_
    exact .pure ⟨j, rfl, (hij.mono hn₂).mono hn₃⟩
  cases a.template with
  | none =>
    refine .bind (paired_retrieve hij a.limit) fun names₂ model _ hn₂ hmodel => ?_
    subst hmodel
    exact hopened names₂ hn₂ model
  | some model => exact hopened names₁ List.prefix_rfl model

end Session

/-! ## Values -/

theorem Point.paired_read (p : Point) (hs : Session.Paired names s s') (device : LogicalDevice)
    (id : UInt8) : Attempt.Paired φ (fun _ => Measurement.Resembles φ.toTolerance) names
      (p.read s device id) (p.read s' device id) := by
  refine .bind (Session.paired_read hs _) fun names₁ node _ _ hnode => ?_
  subst hnode
  refine .bind (.lift (.perform .now)) fun names₂ now now' _ hnow => ?_
  exact .ofExcept (p.alike_measure hnow node)

theorem Point.paired_write (p : Point) (hs : Session.Paired names s s') (device : LogicalDevice)
    (id : UInt8) (value : Float) : Attempt.Paired φ (fun _ _ _ => True) names
      (p.write s device id value) (p.write s' device id value) := by
  unfold Point.write
  split
  · exact Session.paired_write hs _ _ _
  · exact .throw _

namespace Gateway

variable (g : Gateway)

theorem paired_passOver {α β : Type} {Q : α → β → Prop} {w : Attempt α} {w' : Attempt β}
    (h : Attempt.Paired φ (fun _ => Q) names w w') (entry : String) :
    Attempt.Paired φ (fun _ => PassedAlike Q) names (passOver entry w) (passOver entry w') := by
  refine Work.Paired.bind h fun names₁ x y _ hxy => ?_
  rcases hxy.cases with ⟨e, rfl, rfl⟩ | ⟨a, b, rfl, rfl, hab⟩
  · dsimp only
    split
    · exact .bind (.perform (.count _ _ 1 1)) fun _ _ _ _ _ => .done rfl
    · exact .done rfl
  · exact .done hab

theorem paired_readFilter (hs : Session.Paired names s s') (family : Family) (id : UInt8)
    (f : Filter) :
    Attempt.Paired φ (fun _ => PassedAlike (Measurement.Resembles φ.toTolerance)) names
      (g.readFilter s family id f) (g.readFilter s' family id f) := by
  refine paired_passOver (.bind (.ofMisfit _) fun names₁ point _ hn₁ hpoint => ?_) _
  subst hpoint
  exact .retried _ fun names₂ hn₂ => point.paired_read ((hs.mono hn₁).mono hn₂) _ _

theorem paired_writePoint (hs : Session.Paired names s s') (family : Family) (id : UInt8)
    (p : SetPoint) : Attempt.Paired φ (fun _ => PassedAlike fun _ _ => True) names
      (g.writePoint s family id p) (g.writePoint s' family id p) := by
  refine paired_passOver (.bind (.ofMisfit _) fun names₁ point _ hn₁ hpoint => ?_) _
  subst hpoint
  exact .retried _ fun names₂ hn₂ => point.paired_write ((hs.mono hn₁).mono hn₂) _ _ _

theorem paired_readSystem (hs : Session.Paired names s s') (q : SystemQuery) :
    Attempt.Paired φ (fun _ x y => x.1.Resembles φ.toTolerance y.1 ∧ y.2 = x.2) names
      (g.readSystem s q) (g.readSystem s' q) := by
  refine .bind (.mapM fun f _ names' hn => g.paired_readFilter (hs.mono hn) _ _ f)
    fun names₁ rs rs' _ h => ?_
  obtain ⟨hkept, hskipped⟩ := kept_passedAlike h
  exact .pure ⟨⟨rfl, hkept⟩, hskipped⟩

theorem paired_getData (hs : Session.Paired names s s') (qs : List SystemQuery) :
    Attempt.Paired φ (fun _ => Payload.Resembles φ.toTolerance) names (g.getData s qs)
      (g.getData s' qs) := by
  refine .bind (.mapM fun q _ names' hn => g.paired_readSystem (hs.mono hn) q)
    fun _ xs ys _ h => .pure ?_
  induction h with
  | nil => exact ⟨.nil, rfl⟩
  | @cons x y xs ys hxy _ ih =>
    obtain ⟨hsystems, hskipped⟩ := ih
    refine ⟨.cons hxy.1 hsystems, ?_⟩
    simp only [List.flatMap_cons, hxy.2, hskipped]

theorem paired_writeSystem (hs : Session.Paired names s s') (q : SystemSetting) :
    Attempt.Paired φ (fun _ => Eq) names (g.writeSystem s q) (g.writeSystem s' q) := by
  refine .bind (.mapM fun p _ names' hn => g.paired_writePoint (hs.mono hn) _ _ p)
    fun names₁ rs rs' _ h => ?_
  exact .pure (kept_passedAlike h).2.symm

theorem paired_setData (hs : Session.Paired names s s') (qs : List SystemSetting) :
    Attempt.Paired φ (fun _ => Eq) names (g.setData s qs) (g.setData s' qs) := by
  refine .bind (.mapM fun q _ names' hn => g.paired_writeSystem (hs.mono hn) q)
    fun _ xs ys _ h => .pure ?_
  rw [forall₂_eq (fun _ _ hab => hab) h]

end Gateway

/-! ## Light -/

namespace Light

theorem paired_switch (hs : Session.Paired names s s') (relay : UInt8) (on : Bool) :
    Attempt.Paired φ (fun _ _ _ => True) names (switch s relay on) (switch s' relay on) := by
  refine .bind (Session.paired_read hs _) fun names₁ node _ hn₁ hnode => ?_
  subst hnode
  have hs₁ := hs.mono hn₁
  have hoperates : ∀ names₂, names₁ <+: names₂ → Attempt.Paired φ (fun _ _ _ => True) names₂
      (do
        let _ ← s.read (switchAddress relay .position .control)
        s.write (switchAddress relay .position .control) "Oper.ctlVal" (.bool on))
      (do
        let _ ← s'.read (switchAddress relay .position .control)
        s'.write (switchAddress relay .position .control) "Oper.ctlVal" (.bool on)) := by
    intro names₂ hn₂
    refine .bind (Session.paired_read (hs₁.mono hn₂) _) fun names₃ _ _ hn₃ _ => ?_
    exact Session.paired_write ((hs₁.mono hn₂).mono hn₃) _ _ _
  dsimp only
  split
  · exact hoperates names₁ List.prefix_rfl
  · exact .bind (Session.paired_write hs₁ _ _ _) fun names₂ _ _ hn₂ _ => hoperates names₂ hn₂

theorem paired_set (hs : Session.Paired names s s') (p : Policy) (d : Device) (v : LightValue) :
    Attempt.Paired φ (fun _ _ _ => True) names (set p s d v) (set p s' d v) := by
  refine .bind (.ofMisfit _) fun names₁ rs _ hn₁ hrs => ?_
  subst hrs
  refine .forM fun relay _ names₂ hn₂ => .retried p fun names₃ hn₃ => ?_
  exact paired_switch (((hs.mono hn₁).mono hn₂).mono hn₃) relay v.on

theorem paired_setAll (hs : Session.Paired names s s') (p : Policy) (d : Device)
    (vs : List LightValue) :
    Attempt.Paired φ (fun _ _ _ => True) names (setAll p s d vs) (setAll p s' d vs) :=
  .forM fun v _ _ hn => paired_set (hs.mono hn) p d v

theorem paired_readOutput (hs : Session.Paired names s s') (o : OutputSetting) :
    Attempt.Paired φ (fun _ => Eq) names (readOutput s o) (readOutput s' o) := by
  refine .bind (Session.paired_read hs _) fun names₁ node _ _ hnode => ?_
  subst hnode
  refine .bind (Q := fun _ => Eq) (.ofExcept ?_) fun names₂ on _ _ hon => ?_
  · cases position node <;> rfl
  · subst hon
    exact .pure rfl

theorem paired_readStatus (hs : Session.Paired names s s') (d : Device) :
    Attempt.Paired φ (fun _ => Eq) names (readStatus s d) (readStatus s' d) := by
  refine .bind (.mapM fun o _ names' hn => paired_readOutput (hs.mono hn) o)
    fun names₁ lights lights' hn₁ hlights => ?_
  obtain rfl : lights = lights' := forall₂_eq (fun _ _ hab => hab) hlights
  refine .bind (Session.paired_read (hs.mono hn₁) _) fun names₂ events _ hn₂ hevents => ?_
  subst hevents
  refine .bind (Session.paired_read ((hs.mono hn₁).mono hn₂) _)
    fun names₃ software _ _ hsoftware => ?_
  subst hsoftware
  exact .pure rfl

theorem paired_status (hs : Session.Paired names s s') (p : Policy) (d : Device) :
    Attempt.Paired φ (fun _ => Eq) names (status p s d) (status p s' d) :=
  .retried p fun _ hn => paired_readStatus (hs.mono hn) d

end Light

/-! ## Reports -/

theorem Session.paired_enableWanted (hs : Session.Paired names s s') (d : Device) :
    Work.PairedOnly φ names (s.enableWanted d) (s'.enableWanted d) := by
  have hfold : ∀ (references : List String) (e : Enabling) (names' : List Nat),
      names <+: names' → Work.Paired φ (fun _ => Eq) names' (references.foldlM s.enableInto e)
        (references.foldlM s'.enableInto e) := by
    intro references
    induction references with
    | nil => exact fun e names' _ => .pure rfl
    | cons reference references ih =>
      intro e names' hn
      rw [List.foldlM_cons, List.foldlM_cons]
      refine .bind (Q := fun _ => Eq) ?_ fun names'' e _ hn' he => ?_
      · refine Work.Paired.bind (paired_enable (hs.mono hn) reference) fun _ x y _ hxy => ?_
        rcases hxy.cases with ⟨_, rfl, rfl⟩ | ⟨a, b, rfl, rfl, -⟩ <;> exact .done rfl
      · subst he
        exact ih e names'' (hn.trans hn')
  have hmodel : s'.model = s.model ∧ s'.server = s.server := by
    obtain ⟨link, rfl, -⟩ := hs
    exact ⟨rfl, rfl⟩
  unfold enableWanted
  rw [hmodel.1, hmodel.2]
  exact (hfold _ _ names List.prefix_rfl).imp fun _ _ _ _ => trivial

namespace Gateway

variable (g : Gateway)

theorem paired_collectEvents (hs : Session.Paired names s s') :
    Attempt.Paired φ (fun _ _ _ => True) names (g.collectEvents s) (g.collectEvents s') := by
  obtain ⟨link, hs', hlink⟩ := id hs
  have hserver : s'.server = s.server := by rw [hs']; rfl
  have hlink' : s'.link = link := by rw [hs']
  unfold collectEvents
  rw [hserver, hlink']
  refine .bind (.ofMisfit _) fun names₁ reference _ hn₁ hreference => ?_
  subst hreference
  refine .bind (.lift (.perform (.activate (hlink.mono hn₁)))) fun names₂ _ _ hn₂ _ => ?_
  have hn₂ := hn₁.trans hn₂
  refine .bind (.retried _ fun names' hn => Session.paired_enable ((hs.mono hn₂).mono hn) _)
    fun names₃ block _ hn₃ hblock => ?_
  subst hblock
  have hn₃ := hn₂.trans hn₃
  refine .bind (.lift (.perform (.setBoundary (hlink.mono hn₃) _))) fun names₄ _ _ hn₄ _ => ?_
  exact .bind (.lift (Session.paired_scheduleDisconnect (hs.mono (hn₃.trans hn₄)) _ _))
    fun _ _ _ _ _ => .pure trivial

theorem paired_finish (hs : Session.Paired names s s') (d : Device) :
    Work.PairedOnly φ names (g.finish s d) (g.finish s' d) := by
  unfold finish
  split
  · refine .bind (Session.paired_enableWanted hs d) fun names₁ _ _ hn₁ _ => ?_
    exact .bind (Session.paired_scheduleDisconnect (hs.mono hn₁) _ _) fun _ _ _ _ _ => .pure trivial
  · exact Session.paired_disconnect hs

/-! ## Requests -/

theorem paired_findDevice : Attempt.Paired φ (fun _ d d' => φ.device? = some d ∧ d' = d) names
    (findDevice φ.id) (findDevice φ.id) := by
  refine .bind (.lift (.perform .findDevice)) fun names₁ x y _ hxy => ?_
  obtain ⟨rfl, rfl⟩ := hxy
  cases φ.device? with
  | none => exact .throw _
  | some d => exact .pure ⟨rfl, rfl⟩

theorem isNewOf_listenerFor {d : Device} (hd : φ.device? = some d) :
    (g.listenerFor d).IsNewOf φ.id := by
  have hid : d.id = φ.id := φ.known d hd
  unfold listenerFor
  split
  · exact ⟨hid, rfl⟩
  · split
    · exact hid
    · trivial

/-- How an operation came out in two runs. -/
abbrev EndedAlike (φ : Focus) (x y : Payload × Ending) : Prop :=
  x.1.Resembles φ.toTolerance y.1 ∧ y.2 = x.2

theorem paired_getStatus (hs : Session.Paired names s s') (d : Device) :
    Attempt.Paired φ (fun _ => EndedAlike φ) names (g.getStatus s d) (g.getStatus s' d) := by
  refine .bind (.ofMisfit _) fun names₁ _ _ hn₁ _ => ?_
  refine .bind (Light.paired_status (hs.mono hn₁) _ d) fun names₂ status _ hn₂ hstatus => ?_
  subst hstatus
  refine .bind (.result (g.paired_collectEvents ((hs.mono hn₁).mono hn₂)))
    fun names₃ x y _ hxy => ?_
  rcases hxy.cases with ⟨_, rfl, rfl⟩ | ⟨a, b, rfl, rfl, -⟩
  · exact .pure ⟨.refl _, rfl⟩
  · exact .pure ⟨.refl _, rfl⟩

theorem paired_carryOut (hs : Session.Paired names s s') (d : Device) (operation : Operation) :
    Attempt.Paired φ (fun _ => EndedAlike φ) names (g.carryOut s d operation)
      (g.carryOut s' d operation) := by
  cases operation with
  | getData systems =>
    exact .bind (g.paired_getData hs systems) fun _ _ _ _ h => .pure ⟨h, rfl⟩
  | setData systems =>
    exact .bind (g.paired_setData hs systems) fun _ _ _ _ h => .pure ⟨h ▸ .refl _, rfl⟩
  | setLight values =>
    refine .bind (.ofMisfit _) fun names₁ _ _ hn₁ _ => ?_
    exact .bind (Light.paired_setAll (hs.mono hn₁) _ d values) fun _ _ _ _ _ => .pure ⟨rfl, rfl⟩
  | getStatus => exact g.paired_getStatus hs d
  | enableReporting =>
    simp only [carryOut]
    split
    · exact .bind (g.paired_collectEvents hs) fun _ _ _ _ _ => .pure ⟨rfl, rfl⟩
    · exact .pure ⟨rfl, rfl⟩

theorem paired_conclude (hs : Session.Paired names s s') (d : Device)
    {x y : Except Failure (Payload × Ending)} (hxy : Except.Alike (EndedAlike φ) x y) :
    Attempt.Paired φ (fun _ => Payload.Resembles φ.toTolerance) names (g.conclude s d x)
      (g.conclude s' d y) := by
  rcases hxy.cases with ⟨e, rfl, rfl⟩ | ⟨⟨payload, ending⟩, ⟨payload', ending'⟩, rfl, rfl, hends⟩
  · exact .bind (.lift (Session.paired_disconnect hs)) fun _ _ _ _ _ => .throw e
  · obtain ⟨h, rfl⟩ : Payload.Resembles φ.toTolerance payload payload' ∧ ending' = ending := hends
    cases ending' with
    | scheduled => exact .pure h
    | «open» => exact .bind (.lift (g.paired_finish hs d)) fun _ _ _ _ _ => .pure h

variable {r r' : Request}

theorem paired_run (hr : r.Paired φ r') :
    Attempt.Paired φ (fun _ => Payload.Resembles φ.toTolerance) names (g.run r) (g.run r') := by
  have hid : r'.deviceId = φ.id := by rw [hr.same]; exact hr.device
  have hoperation : r'.operation = r.operation := by rw [hr.same]
  unfold run
  rw [hr.device, hid, hoperation]
  refine .bind paired_findDevice fun names₁ d _ hn₁ hd => ?_
  obtain ⟨hd, rfl⟩ := hd
  refine .bind (Session.paired_connect hd _ (g.isNewOf_listenerFor hd))
    fun names₂ s s' hn₂ hs => ?_
  refine .bind (.result (g.paired_carryOut hs _ _)) fun names₃ x y hn₃ hxy => ?_
  exact g.paired_conclude (hs.mono hn₃) _ hxy

theorem resembles_outcome {τ : Tolerance} {x y : Except Failure Payload}
    (hxy : Except.Alike (Payload.Resembles τ) x y) : (outcome x).Resembles τ (outcome y) := by
  rcases hxy.cases with ⟨e, rfl, rfl⟩ | ⟨a, b, rfl, rfl, hab⟩
  · unfold outcome
    dsimp only
    split <;> rfl
  · exact hab

theorem paired_sendResponse {a a' : Response} (hid : a.deviceId = φ.id)
    (h : a.Resembles φ.toTolerance a') :
    Work.PairedOnly φ names (sendResponse a) (sendResponse a') := by
  refine .bind (.perform (.sendResponse hid h)) fun names₁ x y _ hxy => ?_
  subst hxy
  cases x
  · exact .perform (.count _ _ 1 1)
  · exact .done trivial

/-- The work for a request. -/
theorem paired_handle (hr : r.Paired φ r') :
    Work.Paired φ (fun _ => Response.Resembles φ.toTolerance) names (g.handle r) (g.handle r') := by
  refine Work.Paired.bind (g.paired_run hr) fun names₁ x y _ hxy => ?_
  have hresponse : (r.respond (outcome x)).Resembles φ.toTolerance (r'.respond (outcome y)) := by
    rw [hr.same]
    exact ⟨rfl, hr.name, resembles_outcome hxy⟩
  refine .bind (paired_sendResponse hr.device hresponse) fun _ _ _ _ _ => ?_
  exact .done hresponse

/-- The work for a registration. -/
theorem paired_registered :
    Work.PairedOnly φ names (g.registered φ.id) (g.registered φ.id) := by
  refine .bind (.perform .findDevice) fun names₁ x y _ hxy => ?_
  obtain ⟨rfl, rfl⟩ := hxy
  cases hd : φ.device? with
  | none => exact .done trivial
  | some d =>
    have hid : d.id = φ.id := φ.known d hd
    dsimp only
    split
    · refine .bind (.perform .freshId) fun names₂ name name' _ hname => ?_
      refine .bind (.perform (.start (.request _ ⟨rfl, hname, hid⟩))) fun _ _ _ _ _ => ?_
      exact .done trivial
    · exact .done trivial

/-- The work for a job. -/
theorem paired_jobWork {job job' : Job} (h : job.Paired φ names job') :
    Work.Paired φ (fun _ => Option.Rel (Response.Resembles φ.toTolerance)) names (g.jobWork job)
      (g.jobWork job') := by
  cases h with
  | disconnect hs delay clear =>
    exact .bind (Session.paired_disconnectLater hs delay clear) fun _ _ _ _ _ => .done .none
  | request delay hr =>
    refine .bind (.pause delay) fun names₁ _ _ _ _ => ?_
    exact .bind (g.paired_handle hr) fun _ _ _ _ h => .done (.some h)

end Gateway

end FieldGateway
