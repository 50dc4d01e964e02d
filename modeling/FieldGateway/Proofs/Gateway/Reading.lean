import FieldGateway.Proofs.Gateway.Account

/-!
# Reading values

A request for values reads one value after another. One that does not fit the device is passed over
and described, any other failure ends the request; what is told are the values that were read,
system by system, in the order in which they were asked for.

* `Reads`: what one filter comes to, by what the catalog and the model of the session have for it.
* `Gateway.runs_getData`: every filter comes to a value or a description, or one fails.
* `Handles.data_told`: what a request for values is answered with.
-/

namespace FieldGateway

variable {α β γ : Type} {i : Nat} {log : List Entry}

/-! ## What the log tells of reading -/

namespace Action

/-- The node that a device tells. -/
def read? : (a : Action) → a.Answer → Option Node
  | .read _ _ _, .ok node => some node
  | _, _ => none

/-- Holds of what moves no value but by reading one node over one link. -/
def ReadsOnly (link : Nat) (reference : String) (constraint : Constraint) : Action → Prop
  | read l r c => l = link ∧ r = reference ∧ c = constraint
  | write _ _ => False
  | _ => True

/-- Holds of what only counts. -/
def IsCount : Action → Prop
  | count _ _ => True
  | _ => False

end Action

/-- The nodes that devices told. -/
def readings (log : List Entry) : List Node := log.filterMap (Entry.did? Action.read?)

theorem readings_append (l m : List Entry) : readings (l ++ m) = readings l ++ readings m :=
  List.filterMap_append

/-! ## One attempt -/

/-- What one attempt at reading a point comes to. -/
inductive Tries (s : Session) (i : Nat) (p : Point) (a : Address) :
    List Entry → Except Failure Measurement → Prop
  | absent {log : List Entry} {m : Misfit} (hlocate : s.locate a = .error m)
      (hlog : ∀ e ∈ log, e.Kept fun a => ¬ a.IsTransfer) :
      Tries s i p a log (.error (.configuration m))
  | measured {log : List Entry} {place node : Node} {now : Int64} {m : Measurement}
      (hlocate : s.locate a = .ok place)
      (hlog : ∀ e ∈ log, e.Kept (Action.ReadsOnly s.link place.reference place.constraint))
      (hread : readings log = [node]) (hnow : ∃ q q', ⟨q, .did i .now now, q'⟩ ∈ log)
      (hmeasure : p.measure now node = .ok m) : Tries s i p a log (.ok m)
  /-- If the device refused, it told nothing. -/
  | failed {log : List Entry} {e : Failure} (hmisfit : e.isMisfit = false)
      (hrefused : e.severity = .retryable → readings log = [] ∧ ∃ place, s.locate a = .ok place ∧
        ∀ e ∈ log, e.Kept (Action.ReadsOnly s.link place.reference place.constraint)) :
      Tries s i p a log (.error e)

theorem Fault.isMisfit_raise (f : Fault) : f.raise.isMisfit = false := by
  cases f <;> rfl

/-- A node is read only if the model of the session has it, and what the device tells is
the answer. -/
theorem Session.runs_read {s : Session} {a : Address} {x : Except Failure Node}
    (h : (s.read a).run.Runs i log x) :
    (readings log = [] ∧ (∀ e ∈ log, e.Kept fun a => ¬ a.IsTransfer) ∧
      (x = .error (.connection (.sessionClosed s.deviceId)) ∨
        ∃ m, s.locate a = .error m ∧ x = .error (.configuration m))) ∨
    ∃ (place : Node) (answer : Except Fault Node), s.locate a = .ok place ∧
      x = answer.mapError Fault.raise ∧
      (∀ e ∈ log, e.Kept (Action.ReadsOnly s.link place.reference place.constraint)) ∧
      readings log = answer.toOption.toList := by
  rcases Attempt.runs_bind.1 h with ⟨l₁, _, l₂, h₁, h₂, rfl⟩ | ⟨e, h₁, rfl⟩
  · obtain ⟨p, isOpen, q, -, rfl, -⟩ := Session.runs_ensureOpen h₁
    rcases Attempt.runs_bind.1 h₂ with ⟨l₃, place, l₄, h₃, h₄, rfl⟩ | ⟨e, h₃, rfl⟩
    · obtain ⟨rfl, hlocate⟩ := Attempt.cases_ofMisfit h₃
      obtain ⟨l₅, n, l₆, h₅, h₆, rfl⟩ := Attempt.runs_liftThen.1 h₄
      obtain ⟨p₁, q₁, -, rfl⟩ := Work.runs_perform.1 h₅
      obtain ⟨l₇, _, l₈, h₇, h₈, rfl⟩ := Attempt.runs_liftThen.1 h₆
      obtain rfl := Work.runs_pause.1 h₇
      obtain ⟨answer', h₉, rfl⟩ := Attempt.runs_ofFault.1 h₈
      obtain ⟨p₂, q₂, -, rfl⟩ := Work.runs_perform.1 h₉
      refine .inr ⟨place, answer', hlocate, rfl, ?_, ?_⟩
      · simp [Entry.Kept, Action.ReadsOnly]
      · cases answer' <;> rfl
    · obtain ⟨rfl, m, hlocate, rfl⟩ := Attempt.cases_ofMisfit h₃
      exact .inl ⟨rfl, by simp [Entry.Kept, Action.IsTransfer], .inr ⟨m, hlocate, rfl⟩⟩
  · obtain ⟨p, isOpen, q, -, rfl, hx⟩ := Session.runs_ensureOpen h₁
    refine .inl ⟨rfl, by simp [Entry.Kept, Action.IsTransfer], .inl ?_⟩
    cases isOpen with
    | true => cases hx
    | false => rw [Except.error.inj hx]

theorem Point.runs_read {p : Point} {s : Session} {device : LogicalDevice} {id : UInt8}
    {x : Except Failure Measurement} (h : (p.read s device id).run.Runs i log x) :
    Tries s i p (p.address device id) log x := by
  rcases Attempt.runs_bind.1 h with ⟨l₁, node, l₂, h₁, h₂, rfl⟩ | ⟨e, h₁, rfl⟩
  · rcases Session.runs_read h₁ with
      ⟨-, -, hx | ⟨m, -, hx⟩⟩ | ⟨place, answer, hlocate, hx, hlog, hread⟩
    · cases hx
    · cases hx
    · obtain rfl : answer = .ok node := by
        cases answer with
        | ok node' => exact congrArg Except.ok (Except.ok.inj hx).symm
        | error f => cases hx
      obtain ⟨l₃, now, l₄, h₃, h₄, rfl⟩ := Attempt.runs_liftThen.1 h₂
      obtain ⟨q, q', -, rfl⟩ := Work.runs_perform.1 h₃
      obtain ⟨rfl, rfl⟩ := Attempt.runs_ofExcept.1 h₄
      cases hm : p.measure now node with
      | ok m =>
        refine .measured hlocate (List.forall_mem_append.2 ⟨hlog, ?_⟩) ?_ ⟨q, q', by simp⟩ hm
        · simp [Entry.Kept, Action.ReadsOnly]
        · rw [readings_append, hread]
          rfl
      | error e =>
        unfold Point.measure at hm
        split at hm
        · cases hm
          exact .failed rfl fun h => by cases h
        · cases hm
  · rcases Session.runs_read h₁ with ⟨-, hlog, hx | ⟨m, hlocate, hx⟩⟩ |
      ⟨place, answer, hlocate, hx, hlog, hread⟩
    · cases hx
      exact .failed rfl fun h => by cases h
    · cases hx
      exact .absent hlocate hlog
    · cases answer with
      | ok node => cases hx
      | error f =>
        cases hx
        exact .failed f.isMisfit_raise fun _ => ⟨hread, place, hlocate, hlog⟩

namespace Action

theorem not_transfer_of_isCount {a : Action} (h : a.IsCount) : ¬ a.IsTransfer := by
  cases a <;> first | exact id | exact h.elim

theorem readsOnly_of_isCount {link : Nat} {reference : String} {constraint : Constraint}
    {a : Action} (h : a.IsCount) : a.ReadsOnly link reference constraint := by
  cases a <;> trivial

theorem read?_of_isCount {a : Action} (h : a.IsCount) (answer : a.Answer) :
    a.read? answer = none := by
  cases a <;> first | rfl | exact h.elim

end Action

/-- In the attempts that were refused the device told nothing, and it was asked for nothing else. -/
theorem Point.of_spent {p : Point} {s : Session} {device : LogicalDevice} {id : UInt8}
    (h : ∀ e ∈ log, Policy.Spent i (p.read s device id).run e) :
    readings log = [] ∧
      (∀ m, s.locate (p.address device id) = .error m → ∀ e ∈ log, e.Kept fun a => ¬ a.IsTransfer) ∧
      ∀ place, s.locate (p.address device id) = .ok place →
        ∀ e ∈ log, e.Kept (Action.ReadsOnly s.link place.reference place.constraint) := by
  have hone : ∀ e ∈ log, e.did? Action.read? = none ∧ (e.Kept Action.IsCount ∨
      ∃ place, s.locate (p.address device id) = .ok place ∧
        e.Kept (Action.ReadsOnly s.link place.reference place.constraint)) := by
    intro e he
    rcases h e he with ⟨l, x, hrun, hrefused, hmem⟩ | ⟨q, q', rfl⟩
    · cases Point.runs_read hrun with
      | absent => cases hrefused
      | measured => cases hrefused
      | failed _ hsaid =>
        obtain ⟨hread, place, hlocate, hlog⟩ := hsaid (by simpa [Policy.isRefusal] using hrefused)
        exact ⟨List.filterMap_eq_nil_iff.1 hread e hmem, .inr ⟨place, hlocate, hlog e hmem⟩⟩
    · exact ⟨rfl, .inl trivial⟩
  refine ⟨List.filterMap_eq_nil_iff.2 fun e he => (hone e he).1, fun m hm e he => ?_,
    fun place hplace e he => ?_⟩
  · rcases (hone e he).2 with hcount | ⟨place, hplace, -⟩
    · exact hcount.mono fun _ => Action.not_transfer_of_isCount
    · rw [hm] at hplace
      cases hplace
  · rcases (hone e he).2 with hcount | ⟨place', hplace', hreads⟩
    · exact hcount.mono fun _ => Action.readsOnly_of_isCount
    · rw [hplace] at hplace'
      obtain rfl := Except.ok.inj hplace'
      exact hreads

/-! ## One filter -/

namespace SystemQuery

/-- A filter as it is described when it is passed over. -/
def describe (q : SystemQuery) (f : Filter) : String := Gateway.entry q.family q.id f.node f.index

/-- Where a point of the system is found. -/
def place (q : SystemQuery) (p : Point) : Address := p.address (.ofFamily q.family) q.id

end SystemQuery

/-- What one filter of a request comes to: the value, or its description if it does not fit the
device, or a failure of another kind. -/
inductive Reads (g : Gateway) (s : Session) (i : Nat) (q : SystemQuery) (f : Filter) :
    List Entry → Except Failure (Except String Measurement) → Prop
  /-- The device is not asked for what the catalog does not have. -/
  | rejected {log : List Entry} {m : Misfit} (hlookup : g.lookup q.family f.node f.index = .error m)
      (hlog : ∀ e ∈ log, e.Kept Action.IsCount) : Reads g s i q f log (.ok (.error (q.describe f)))
  /-- Nor for what the model of the session does not have. -/
  | absent {log : List Entry} {p : Point} {m : Misfit}
      (hlookup : g.lookup q.family f.node f.index = .ok p)
      (hlocate : s.locate (q.place p) = .error m)
      (hlog : ∀ e ∈ log, e.Kept fun a => ¬ a.IsTransfer) :
      Reads g s i q f log (.ok (.error (q.describe f)))
  /-- The value is what the point makes of the node that the device told. -/
  | measured {log : List Entry} {p : Point} {place node : Node} {now : Int64} {m : Measurement}
      (hlookup : g.lookup q.family f.node f.index = .ok p)
      (hlocate : s.locate (q.place p) = .ok place)
      (hlog : ∀ e ∈ log, e.Kept (Action.ReadsOnly s.link place.reference place.constraint))
      (hread : readings log = [node]) (hnow : ∃ q q', ⟨q, .did i .now now, q'⟩ ∈ log)
      (hmeasure : p.measure now node = .ok m) : Reads g s i q f log (.ok (.ok m))
  | failed {log : List Entry} {p : Point} {e : Failure}
      (hlookup : g.lookup q.family f.node f.index = .ok p) (hmisfit : e.isMisfit = false) :
      Reads g s i q f log (.error e)

namespace Gateway

variable {g : Gateway} {s : Session}

/-- What is passed over is a misfit; it is counted. -/
theorem runs_passOver {entry : String} {w : Attempt α} {r : Except Failure (Except String α)}
    (h : (passOver entry w).run.Runs i log r) :
    ∃ part x more, log = part ++ more ∧ w.run.Runs i part x ∧ (∀ e ∈ more, e.Kept Action.IsCount) ∧
      match x with
      | .ok a => r = .ok (.ok a)
      | .error e => if e.isMisfit then r = .ok (.error entry) else r = .error e := by
  obtain ⟨l₁, x, l₂, h₁, h₂, rfl⟩ := Work.runs_bind.1 h
  refine ⟨l₁, x, l₂, rfl, h₁, ?_⟩
  cases x with
  | ok a =>
    obtain ⟨rfl, rfl⟩ := Work.runs_pure.1 h₂
    exact ⟨by simp, rfl⟩
  | error e =>
    cases hm : e.isMisfit with
    | true =>
      simp only [hm, if_true] at h₂
      obtain ⟨l₃, _, l₄, h₃, h₄, rfl⟩ := Work.runs_bind.1 h₂
      obtain ⟨p, q, -, rfl⟩ := Work.runs_perform.1 h₃
      obtain ⟨rfl, rfl⟩ := Work.runs_pure.1 h₄
      exact ⟨by simp [Entry.Kept, Action.IsCount], by simp [hm]⟩
    | false =>
      simp only [hm, Bool.false_eq_true, if_false] at h₂
      obtain ⟨rfl, rfl⟩ := Work.runs_pure.1 h₂
      exact ⟨by simp, by simp [hm]⟩

theorem runs_readFilter {q : SystemQuery} {f : Filter}
    {r : Except Failure (Except String Measurement)}
    (h : (g.readFilter s q.family q.id f).run.Runs i log r) : Reads g s i q f log r := by
  obtain ⟨part, x, more, rfl, hpart, hmore, hx⟩ := runs_passOver h
  rcases Attempt.runs_bind.1 hpart with ⟨l₁, p, l₂, h₁, h₂, rfl⟩ | ⟨e, h₁, rfl⟩
  · obtain ⟨rfl, hlookup⟩ := Attempt.cases_ofMisfit h₁
    obtain ⟨earlier, last, y, n, p₁, q₁, c, hearlier, hlast, rfl, hc, rfl⟩ :=
      Attempt.runs_retried h₂
    have hafter : ∀ e ∈ (⟨p₁, .did i (.count c 1) (), q₁⟩ : Entry) :: more, e.Kept Action.IsCount :=
      List.forall_mem_cons.2 ⟨trivial, hmore⟩
    obtain ⟨hsilent, hspared, hreads⟩ := Point.of_spent hearlier
    rw [List.nil_append, List.append_assoc, List.append_assoc]
    cases Point.runs_read hlast with
    | @absent m hlocate hlog =>
      obtain rfl : r = .ok (.error (q.describe f)) := hx
      refine .absent hlookup hlocate (List.forall_mem_append.2 ⟨hspared m hlocate,
        List.forall_mem_append.2 ⟨hlog, fun e he => ?_⟩⟩)
      exact (hafter e he).mono fun _ => Action.not_transfer_of_isCount
    | @measured place node now m hlocate hlog hread hnow hmeasure =>
      obtain rfl : r = .ok (.ok m) := hx
      refine .measured hlookup hlocate (List.forall_mem_append.2 ⟨hreads place hlocate,
        List.forall_mem_append.2 ⟨hlog, fun e he => ?_⟩⟩) ?_ ?_ hmeasure
      · exact (hafter e he).mono fun _ => Action.readsOnly_of_isCount
      · have hnone : readings (⟨p₁, .did i (.count c 1) (), q₁⟩ :: more) = [] :=
          filterMap_of_kept hafter fun _ answer ha => Action.read?_of_isCount ha answer
        rw [readings_append, readings_append, hsilent, hread]
        simpa using hnone
      · obtain ⟨q₂, q₃, hmem⟩ := hnow
        exact ⟨q₂, q₃, by simp [hmem]⟩
    | @failed e hmisfit _ =>
      have hmisfit' : (if e.severity = .retryable then .exhausted n e else e).isMisfit = false := by
        split
        · rfl
        · exact hmisfit
      simp only [Policy.conclusion, hmisfit', Bool.false_eq_true, if_false] at hx
      rw [hx]
      exact .failed hlookup hmisfit'
  · obtain ⟨rfl, m, hlookup, rfl⟩ := Attempt.cases_ofMisfit h₁
    obtain rfl : r = .ok (.error (q.describe f)) := hx
    exact .rejected hlookup hmore

end Gateway

/-! ## All systems -/

namespace Gateway

/-- What the filters of a system come to, if all are read or passed over. -/
def ReadsAll (g : Gateway) (s : Session) (i : Nat) (q : SystemQuery) :
    List Entry → List (Except String Measurement) → Prop :=
  Each (fun f part x => Reads g s i q f part (.ok x)) q.filters

/-- One filter of a system fails, and those behind it are not tried. -/
def FailsAt (g : Gateway) (s : Session) (i : Nat) (q : SystemQuery) :
    List Entry → Failure → Prop :=
  Halts (fun f part x => Reads g s i q f part (.ok x))
    (fun f part e => Reads g s i q f part (.error e)) q.filters

/-- Whether the catalog has the point of a filter, and the model of the session its node. -/
def fits (g : Gateway) (s : Session) (q : SystemQuery) (f : Filter) : Bool :=
  match g.lookup q.family f.node f.index with
  | .error _ => false
  | .ok p => (s.locate (q.place p)).isOk

/-- The values of a system as they are told. -/
def told (q : SystemQuery) (rs : List (Except String Measurement)) : SystemMeasurements :=
  ⟨q.id, q.family, kept rs⟩

variable {g : Gateway} {s : Session}

theorem skipped_of_reads {q : SystemQuery} {f : Filter} {x : Except String Measurement}
    (h : Reads g s i q f log (.ok x)) :
    skipped [x] = if g.fits s q f then [] else [q.describe f] := by
  cases h with
  | rejected hlookup _ => simp [fits, hlookup, skipped]
  | absent hlookup hlocate _ => simp [fits, hlookup, hlocate, skipped, Except.isOk, Except.toBool]
  | measured hlookup hlocate _ _ _ _ =>
    simp [fits, hlookup, hlocate, skipped, Except.isOk, Except.toBool]

theorem skipped_append (l m : List (Except String Measurement)) :
    skipped (l ++ m) = skipped l ++ skipped m := List.filterMap_append

/-- What is passed over is what does not fit. -/
theorem ReadsAll.skipped_eq {q : SystemQuery} {rs : List (Except String Measurement)}
    (h : g.ReadsAll s i q log rs) :
    skipped rs = (q.filters.filter fun f => !g.fits s q f).map q.describe := by
  unfold ReadsAll at h
  generalize q.filters = fs at h
  induction h with
  | nil => rfl
  | @cons f fs x xs part log h _ ih =>
    have hskip := skipped_append [x] xs
    rw [List.singleton_append] at hskip
    rw [hskip, skipped_of_reads h, ih]
    cases hf : g.fits s q f <;> simp [hf]

theorem length_kept_add_skipped (rs : List (Except String Measurement)) :
    (kept rs).length + (skipped rs).length = rs.length := by
  induction rs with
  | nil => rfl
  | cons x rs ih => cases x <;> simp_all [kept, skipped, Except.toOption] <;> omega

theorem runs_readSystem {q : SystemQuery} {r : Except Failure (SystemMeasurements × List String)} :
    (g.readSystem s q).run.Runs i log r → match r with
      | .ok y => ∃ rs, g.ReadsAll s i q log rs ∧ y = (told q rs, skipped rs)
      | .error e => g.FailsAt s i q log e := by
  intro h
  rcases Attempt.runs_bind.1 h with ⟨l₁, rs, l₂, h₁, h₂, rfl⟩ | ⟨e, h₁, rfl⟩
  · obtain ⟨rfl, rfl⟩ := Attempt.runs_pure.1 h₂
    have heach := Attempt.runs_mapM h₁
    rw [List.append_nil]
    exact ⟨rs, heach.mono fun _ _ _ => runs_readFilter, rfl⟩
  · have hhalts := Attempt.runs_mapM h₁
    exact hhalts.mono (fun _ _ x hx => ⟨x, runs_readFilter hx⟩) fun _ _ _ => runs_readFilter

theorem runs_getData {qs : List SystemQuery} {r : Except Failure Payload} :
    (g.getData s qs).run.Runs i log r → match r with
      | .ok payload => ∃ rss, Each (g.ReadsAll s i) qs log rss ∧
          payload = .data (List.zipWith told qs rss) (rss.flatMap skipped)
      | .error e => Halts (g.ReadsAll s i) (g.FailsAt s i) qs log e := by
  intro h
  rcases Attempt.runs_bind.1 h with ⟨l₁, ys, l₂, h₁, h₂, rfl⟩ | ⟨e, h₁, rfl⟩
  · obtain ⟨rfl, rfl⟩ := Attempt.runs_pure.1 h₂
    have heach := Attempt.runs_mapM h₁
    obtain ⟨rss, hrss, rfl⟩ := heach.exists_zipWith (fun q rs => (told q rs, skipped rs))
      fun _ _ _ hy => runs_readSystem hy
    have htold : (List.zipWith (fun q rs => (told q rs, skipped rs)) qs rss).map (·.1) =
        List.zipWith told qs rss := by simp [List.map_zipWith]
    have hskipped : (List.zipWith (fun q rs => (told q rs, skipped rs)) qs rss).flatMap (·.2) =
        rss.flatMap skipped := by
      have hlength := hrss.length_eq
      rw [List.flatMap_def, List.flatMap_def, List.map_zipWith]
      exact congrArg List.flatten (List.ext_getElem (by simp [hlength]) fun n h₁ h₂ => by simp)
    rw [List.append_nil, htold, hskipped]
    exact ⟨rss, hrss, rfl⟩
  · have hhalts := Attempt.runs_mapM h₁
    refine hhalts.mono (fun q part y hy => ?_) fun _ _ _ hy => runs_readSystem hy
    obtain ⟨rs, hrs, -⟩ := runs_readSystem hy
    exact ⟨rs, hrs⟩

/-- System by system, what is told is what was asked for: nothing is lost between the values and
what was passed over. -/
theorem data_of_each {qs : List SystemQuery} {rss : List (List (Except String Measurement))}
    (h : Each (g.ReadsAll s i) qs log rss) :
    (List.zipWith told qs rss).map (fun m => (m.id, m.family)) =
        qs.map (fun q => (q.id, q.family)) ∧
      rss.flatMap skipped =
        qs.flatMap (fun q => (q.filters.filter fun f => !g.fits s q f).map q.describe) ∧
      ((List.zipWith told qs rss).flatMap (·.measurements)).length + (rss.flatMap skipped).length =
        (qs.flatMap (·.filters)).length := by
  induction h with
  | nil => exact ⟨rfl, rfl, rfl⟩
  | @cons q qs rs rss part log h _ ih =>
    obtain ⟨hids, hskipped, hlength⟩ := ih
    have hsystem := length_kept_add_skipped rs
    have hall : rs.length = q.filters.length := Each.length_eq h
    refine ⟨?_, ?_, ?_⟩
    · simp only [List.zipWith_cons_cons, List.map_cons, hids]
      rfl
    · rw [List.flatMap_cons, List.flatMap_cons, hskipped, h.skipped_eq]
    · simp only [List.zipWith_cons_cons, List.flatMap_cons, List.length_append]
      have htold : (told q rs).measurements.length = (kept rs).length := rfl
      omega

end Gateway

/-! ## Requests -/

/-- A request for values that was answered either came to no session, and failed; or every filter
that fits the device was read and every other one passed over, in the order of the request, and it
succeeded with just that; or it came to a filter that failed in another way, and failed with
that. -/
theorem Handles.data_told {g : Gateway} {p : Plant} {r : Request} {w : Crew (Option Response)}
    {o : Response} {qs : List SystemQuery} (hw : Handles g p r w)
    (hc : w.courses[0]? = some (.done (some o))) (hr : r.operation = .getData qs) :
    ((made w.log = [] ∨ Modelless g.connectTimeout.toNat w.log) ∧ o.outcome.isSuccess = false) ∨
    ∃ before work after d s, entriesOf 0 w.log = before ++ (work ++ after) ∧ found before = [d] ∧
      s.Opened d.identity (g.approach d.family) (g.listenerFor d) before ∧
      ((∃ systems skips rss, o.outcome = .success (.data systems skips) ∧
          Each (g.ReadsAll s 0) qs work rss ∧ systems = List.zipWith Gateway.told qs rss ∧
          systems.map (fun m => (m.id, m.family)) = qs.map (fun q => (q.id, q.family)) ∧
          skips = qs.flatMap (fun q => (q.filters.filter fun f => !g.fits s q f).map q.describe) ∧
          (systems.flatMap (·.measurements)).length + skips.length =
            (qs.flatMap (·.filters)).length) ∨
        ∃ e, o.outcome = Gateway.outcome (.error e) ∧ o.outcome.isSuccess = false ∧
          e.isMisfit = false ∧ Halts (g.ReadsAll s 0) (g.FailsAt s 0) qs work e) := by
  have haccount := hw.account hc
  rw [hw.made_entriesOf, hw.modelless_entriesOf]
  generalize entriesOf 0 w.log = log at haccount
  cases haccount with
  | @unserved before last e hbefore hopening ho hlast hsent =>
    refine .inl ⟨?_, by rw [ho]; exact Gateway.isSuccess_outcome_error e⟩
    rw [Account.made_append_later fun e he => (hlast e he).mono fun _ h => .inr (.inr h),
      Session.modelless_append]
    exact hopening.imp id .inl
  | @served before work closing last d s result y hbefore hfound hopened hwork hy hcarried hconclude
      ho hlast hsent =>
    rw [hr] at hwork
    refine .inr ⟨before, work, closing ++ last, d, s, rfl, hfound, hopened, ?_⟩
    rcases Attempt.runs_bind.1 hwork with ⟨l₁, payload, l₂, h₁, h₂, rfl⟩ | ⟨e, h₁, rfl⟩
    · obtain ⟨rfl, rfl⟩ := Attempt.runs_pure.1 h₂
      obtain ⟨rss, hrss, rfl⟩ := Gateway.runs_getData h₁
      obtain ⟨hids, hskips, hlength⟩ := Gateway.data_of_each hrss
      rw [List.append_nil]
      exact .inl ⟨_, _, rss, by rw [ho]; rfl, hrss, rfl, hids, hskips, hlength⟩
    · have hhalts := Gateway.runs_getData h₁
      obtain ⟨q, -, part, hfails⟩ := hhalts.exists_fails
      obtain ⟨f, -, part', hreads⟩ := Halts.exists_fails hfails
      have hmisfit : e.isMisfit = false := by
        cases hreads with
        | failed _ hmisfit => exact hmisfit
      have ho' : o.outcome = Gateway.outcome (.error e) := by rw [ho]; rfl
      exact .inr ⟨e, ho', by rw [ho']; exact Gateway.isSuccess_outcome_error e, hmisfit, hhalts⟩

/-- A solar plant, which tells no more than its behaviour. -/
def Plant.solar : Plant :=
  let d : Device := .ofIdentity ⟨"RTU-1", "10.0.0.2", .genericRtu, none⟩
  let behaviour : Node := .ofList "ZOWN_POCPV1/LLN0.Beh" .status [("stVal", .int 1)]
  Plant.start (.ofList [d]) (Network.empty.insert "10.0.0.2" (.ofModel ⟨[behaviour], [], []⟩)) 0 ""

/-- It is asked for its behaviour among other values: one without a name, one that no solar plant
has, and one that this one has not. Then another solar plant is asked, by a number that there is
not. -/
def SystemQuery.survey : List SystemQuery :=
  [⟨1, .pv, [⟨"Nonsense", none⟩, ⟨"Beh", none⟩, ⟨"Pos", some 1⟩, ⟨"Health", none⟩]⟩,
    ⟨0, .pv, [⟨"Beh", none⟩]⟩]

def Request.survey : Request := ⟨"1", "platform", "RTU-1", .getData SystemQuery.survey⟩

def Crew.surveyed : Crew (Option Response) :=
  let w : Crew (Option Response) :=
    ⟨.solar, [Gateway.standard.jobWork (.request 0 .survey)], []⟩
  w.play (List.replicate 60 (.go 0))

/-- What was passed over. -/
def Outcome.skips : Outcome → List String
  | .success (.data _ skips) => skips
  | _ => []

theorem Handles.data_told_surveyed :
    Handles .standard .solar .survey Crew.surveyed ∧
      Request.survey.operation = .getData SystemQuery.survey ∧
      ∃ o, Crew.surveyed.courses[0]? = some (.done (some o)) ∧
      ∃ before work after d s systems skips rss,
        entriesOf 0 Crew.surveyed.log = before ++ (work ++ after) ∧ found before = [d] ∧
        s.Opened d.identity (Gateway.standard.approach d.family) (Gateway.standard.listenerFor d)
          before ∧
        o.outcome = .success (.data systems skips) ∧
        Each (Gateway.standard.ReadsAll s 0) SystemQuery.survey work rss ∧
        systems = List.zipWith Gateway.told SystemQuery.survey rss ∧
        systems.map (fun m => (m.id, m.family)) = [(1, .pv), (0, .pv)] ∧
        skips = ["PV1.Nonsense", "PV1.Pos[1]", "PV1.Health", "PV0.Beh"] ∧
        (systems.flatMap (·.measurements)).length + skips.length = 5 := by
  have hw : Handles .standard .solar .survey Crew.surveyed := Handles.start.play _
  have hsuccess : Crew.surveyed.answer?.map (·.outcome.isSuccess) = some true := by decide +kernel
  have hskipped : Crew.surveyed.answer?.map (·.outcome.skips) =
      some ["PV1.Nonsense", "PV1.Pos[1]", "PV1.Health", "PV0.Beh"] := by decide +kernel
  obtain ⟨o, hanswer, hsuccess⟩ := Option.map_eq_some_iff.1 hsuccess
  rw [hanswer, Option.map_some, Option.some.injEq] at hskipped
  have hc := Crew.done_of_answer? hanswer
  refine ⟨hw, rfl, o, hc, ?_⟩
  rcases hw.data_told hc rfl with ⟨-, hfailed⟩ |
    ⟨before, work, after, d, s, hlog, hfound, hopened, hok | ⟨e, -, hfailed, -⟩⟩
  · rw [hsuccess] at hfailed
    cases hfailed
  · obtain ⟨systems, skips, rss, ho, hrss, hsystems, hids, -, hlength⟩ := hok
    rw [ho] at hskipped
    exact ⟨before, work, after, d, s, systems, skips, rss, hlog, hfound, hopened, ho, hrss,
      hsystems, hids, hskipped, hlength⟩
  · rw [hsuccess] at hfailed
    cases hfailed

end FieldGateway
