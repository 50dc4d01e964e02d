import FieldGateway.Proofs.Plant.Calls

/-!
# A device that associations share

Any number of associations may stand with a device at a time, and all of them read and write the
same model and take from the same faults. Whatever they ask, in whichever order, while faults are
put in: a device answers each call that comes over a standing association, and none that comes over
another.

* `Plant.Shared.call_eq`: what a call over an association comes to.
* `Plant.Shared.take`: what a turn makes of the device.
* `Plant.Shared.balanced`: the faults that were told and those that wait.
* `Plant.ClosedOff.take`: whether an association was given up does not matter to the others.
* `Plant.shared_by_associations`: all of this for every history of a device.
-/

namespace FieldGateway

/-- What happens at a device, and at the associations that share it. -/
inductive Plant.Turn where
  | associate (port : UInt16) (listener : Listener) (direct : Bool)
  | call (link : Nat) (c : Ied.Call)
  | close (link : Nat)
  | fail (q : Ied.Queue) (count : Nat) (f : Fault)
  | setNode (node : Node)
  | setSequence (reference : String) (n : UInt32)
  | refuse (refuses : Bool)

/-- The association that a turn is of. -/
def Plant.Turn.link? : Plant.Turn → Option Nat
  | .call link _ => some link
  | .close link => some link
  | _ => none

namespace Plant

variable {host : String} {p q : Plant} {d : Ied} {link : Nat}

/-! ## Turns -/

def call (p : Plant) (link : Nat) : Ied.Call → Ied.Call.Reply × Plant
  | .retrieve => (p.perform (.retrieve link)).map (.ofExcept .model) id
  | .read reference constraint =>
    (p.perform (.read link reference constraint)).map (.ofExcept .node) id
  | .write node => (p.perform (.write link node)).map (.ofExcept fun _ => .done) id
  | .enable reference => (p.perform (.enable link reference)).map (.ofExcept .block) id
  | .disable reference => (p.perform (.disable link reference)).map (.ofExcept fun _ => .done) id

def close (p : Plant) (link : Nat) : Plant := (p.perform (.release link)).2

/-- A turn at the device of an address. -/
def take (host : String) (p : Plant) : Turn → Plant
  | .associate port listener direct => (p.associate host port listener direct).2
  | .call link c => (p.call link c).2
  | .close link => p.close link
  | .fail q count f => p.modifyIed host (·.fail q count f)
  | .setNode node => p.modifyIed host (·.setNode node)
  | .setSequence reference n => p.modifyIed host (·.setSequence reference n)
  | .refuse refuses => p.modifyIed host ({ · with refuses })

def takeAll (host : String) (p : Plant) (ts : List Turn) : Plant := ts.foldl (take host) p

/-- What is replied to the calls among some turns. -/
def replies (host : String) : Plant → List Turn → List Ied.Call.Reply
  | _, [] => []
  | p, t :: ts =>
    (match t with
      | .call link c => [(p.call link c).1]
      | _ => []) ++ replies host (p.take host t) ts

/-- Whether an association was made and not given up. -/
def stands (p : Plant) (link : Nat) : Bool := p.links[link]?.any fun l => !l.released

/-- A device alone in its network, before any association. -/
def alone (host : String) (d : Ied) : Plant := start .empty (Network.empty.insert host d) 0 ""

/-- All associations are with one device, and nothing lies between. -/
structure Shared (host : String) (p : Plant) (d : Ied) : Prop where
  found : p.network.find? host = some d
  hosts : ∀ l ∈ p.links, l.host = host
  calm : p.interference = .none

theorem shared_alone (host : String) (d : Ied) : Shared host (alone host d) d where
  found := Table.find?_insert_self _ host d
  hosts l hl := by cases hl
  calm := rfl

namespace Shared

theorem far_eq (h : Shared host p d) (link : Nat) :
    p.far link = if p.stands link then .ok (host, d) else .error (.io "association closed") := by
  unfold far stands
  cases hl : p.links[link]? with
  | none => rfl
  | some l =>
    have hhost : l.host = host := h.hosts l (List.mem_of_getElem? hl)
    cases hr : l.released <;> simp [hr, hhost, h.found]

theorem ask_eq {α : Type} (h : Shared host p d) (link : Nat) (f : Ied → Except Fault α × Ied) :
    p.ask link f = if p.stands link then ((f d).1, p.modifyIed host fun _ => (f d).2)
      else (.error (.io "association closed"), p) := by
  unfold ask
  rw [h.far_eq]
  cases p.stands link <;> rfl

/-- Over an association that stands the device answers, and over another nothing happens. -/
theorem call_eq (h : Shared host p d) (link : Nat) (c : Ied.Call) :
    p.call link c =
      if p.stands link then ((d.answer c).1, p.modifyIed host fun _ => (d.answer c).2)
      else (.fault (.io "association closed"), p) := by
  have hmodel : p.interference.modelFaults = [] := by rw [h.calm]; rfl
  have henable : p.interference.enableFaults = [] := by rw [h.calm]; rfl
  have hdisable : p.interference.disableFaults = [] := by rw [h.calm]; rfl
  cases c <;> simp only [call, perform, retrieve, enable, disable, hmodel, henable, hdisable,
    h.ask_eq] <;> split <;> rfl

theorem modifyIed (h : Shared host p d) (f : Ied → Ied) :
    Shared host (p.modifyIed host f) (f d) where
  found := by rw [find?_modifyIed, if_pos rfl, h.found]; rfl
  hosts := h.hosts
  calm := h.calm

theorem associate_eq (h : Shared host p d) (port : UInt16) (listener : Listener) (direct : Bool) :
    p.associate host port listener direct =
      if d.refuses then (.error (Network.refused host port), p)
      else (.ok p.links.length,
        { p.modifyIed host fun d => d.associate p.links.length with
          links := p.links ++ [⟨host, listener, direct, false, false⟩] }) := by
  have hreach : p.network.reach host port =
      if d.refuses then .error (Network.refused host port) else .ok () := by
    rw [Network.reach, h.found]
  rw [associate, hreach]
  cases d.refuses <;> rfl

theorem close_eq (h : Shared host p d) (link : Nat) :
    p.close link = if p.stands link then
      (p.modifyIed host Ied.release).modifyLink link ({ · with released := true }) else p := by
  have hclose : p.close link = p.release link := rfl
  rw [hclose, release, h.far_eq]
  cases p.stands link <;> rfl

/-- Giving up an association marks its link, be it marked or not. -/
theorem links_close (h : Shared host p d) (link : Nat) :
    (p.close link).links = p.links.modify link ({ · with released := true }) := by
  rw [h.close_eq]
  split
  · rfl
  · next hs =>
    refine List.ext_getElem? fun k => ?_
    rw [List.getElem?_modify]
    cases hk : p.links[k]? with
    | none => rfl
    | some l =>
      by_cases he : link = k
      · subst he
        have hreleased : l.released = true := by simpa [stands, hk] using hs
        cases l
        simp_all
      · simp [he]

end Shared

end Plant

/-- What a turn makes of the device that a plant has. -/
def Ied.next (d : Ied) (p : Plant) : Plant.Turn → Ied
  | .associate _ _ _ => if d.refuses then d else d.associate p.links.length
  | .call link c => if p.stands link then (d.answer c).2 else d
  | .close link => if p.stands link then d.release else d
  | .fail q count f => d.fail q count f
  | .setNode node => d.setNode node
  | .setSequence reference n => d.setSequence reference n
  | .refuse refuses => { d with refuses }

namespace Plant

variable {host : String} {p q : Plant} {d : Ied} {link : Nat}

theorem Shared.take (h : Shared host p d) (t : Turn) :
    Shared host (p.take host t) (d.next p t) := by
  cases t with
  | associate port listener direct =>
    simp only [Plant.take, Ied.next, h.associate_eq]
    split
    · exact h
    · have hmodified := h.modifyIed fun d => d.associate p.links.length
      refine ⟨hmodified.found, fun l hl => ?_, hmodified.calm⟩
      rcases List.mem_append.1 hl with hl | hl
      · exact h.hosts l hl
      · rw [List.mem_singleton.1 hl]
  | call link c =>
    simp only [Plant.take, Ied.next, h.call_eq]
    split
    · exact h.modifyIed _
    · exact h
  | close link =>
    simp only [Plant.take, Ied.next, h.close_eq]
    split
    · refine ⟨(h.modifyIed Ied.release).found, fun l hl => ?_, h.calm⟩
      obtain ⟨k, hk⟩ := List.mem_iff_getElem?.1 hl
      rw [modifyLink, List.getElem?_modify] at hk
      obtain ⟨l', hl', rfl⟩ := Option.map_eq_some_iff.1 hk
      have hhost := h.hosts l' (List.mem_of_getElem? hl')
      split <;> exact hhost
    · exact h
  | fail | setNode | setSequence | refuse => exact h.modifyIed _

theorem Shared.takeAll (h : Shared host p d) (ts : List Turn) :
    ∃ d', Shared host (p.takeAll host ts) d' := by
  induction ts generalizing p d with
  | nil => exact ⟨d, h⟩
  | cons t ts ih => exact ih (h.take t)

/-! ## Associations -/

/-- The links after a turn. -/
theorem Shared.links_take (h : Shared host p d) (t : Turn) :
    (p.take host t).links = match t with
      | .associate _ listener direct =>
        if d.refuses then p.links else p.links ++ [⟨host, listener, direct, false, false⟩]
      | .close link => p.links.modify link ({ · with released := true })
      | _ => p.links := by
  cases t with
  | associate port listener direct =>
    simp only [Plant.take, h.associate_eq]
    split <;> rfl
  | call link c =>
    simp only [Plant.take, h.call_eq]
    split <;> rfl
  | close link => exact h.links_close link
  | fail | setNode | setSequence | refuse => rfl

theorem Shared.length_links_take (h : Shared host p d) (t : Turn) :
    (p.take host t).links.length = match t with
      | .associate _ _ _ => if d.refuses then p.links.length else p.links.length + 1
      | _ => p.links.length := by
  rw [h.links_take]
  cases t with
  | associate port listener direct => cases d.refuses <;> simp
  | close l => simp
  | _ => rfl

theorem stands_congr (h : q.links = p.links) : q.stands link = p.stands link := by
  unfold stands
  rw [h]

/-- An association stands from when it was made until it is given up. -/
theorem Shared.stands_take (h : Shared host p d) (link : Nat) (t : Turn) :
    (p.take host t).stands link = match t with
      | .associate _ _ _ => p.stands link || (!d.refuses && link == p.links.length)
      | .close l => p.stands link && l != link
      | _ => p.stands link := by
  cases t with
  | associate port listener direct =>
    unfold stands
    rw [h.links_take]
    cases d.refuses with
    | true => simp
    | false =>
      rcases Nat.lt_trichotomy link p.links.length with hlt | heq | hgt
      · simp [List.getElem?_append_left hlt, Nat.ne_of_lt hlt]
      · simp [heq]
      · simp [List.getElem?_append, Nat.not_lt_of_gt hgt, Nat.ne_of_gt hgt,
          Nat.sub_ne_zero_of_lt hgt]
  | close l =>
    unfold stands
    rw [h.links_take]
    simp only [List.getElem?_modify]
    by_cases hl : l = link
    · cases p.links[link]? <;> simp [hl]
    · cases p.links[link]? <;> simp [hl]
  | call | fail | setNode | setSequence | refuse =>
    exact stands_congr (by rw [h.links_take])

theorem Shared.stands_takeAll (h : Shared host p d) (hs : p.stands link = true) {ts : List Turn}
    (hts : Turn.close link ∉ ts) : (p.takeAll host ts).stands link = true := by
  induction ts generalizing p d with
  | nil => exact hs
  | cons t ts ih =>
    obtain ⟨ht, hts⟩ : Turn.close link ≠ t ∧ Turn.close link ∉ ts := by simpa using hts
    refine ih (h.take t) ?_ hts
    rw [h.stands_take]
    split
    · simp [hs]
    · next l => simpa [hs] using fun hl => ht (by rw [hl])
    · exact hs

/-- An association that was given up never stands again. -/
theorem Shared.not_stands_takeAll (h : Shared host p d) (hlink : link < p.links.length)
    (hs : p.stands link = false) (ts : List Turn) :
    (p.takeAll host ts).stands link = false := by
  induction ts generalizing p d with
  | nil => exact hs
  | cons t ts ih =>
    have hlength : p.links.length ≤ (p.take host t).links.length := by
      rw [h.length_links_take]
      split
      · split <;> omega
      · exact Nat.le_refl _
    refine ih (h.take t) (Nat.lt_of_lt_of_le hlink hlength) ?_
    rw [h.stands_take]
    split
    · simp [hs, Nat.ne_of_lt hlink]
    · simp [hs]
    · exact hs

end Plant

/-! ## Faults in order -/

def Ied.Call.Reply.fault? : Ied.Call.Reply → Option Fault
  | .fault f => some f
  | _ => none

/-- The faults that were put in for the calls of a kind, and those that were told them. -/
structure Plant.Ledger where
  put : List Fault
  told : List Fault

/-- The books after a turn: a call over an association that stands is told a fault as long as not
all of them were told. -/
def Plant.Ledger.note (q : Ied.Queue) (p : Plant) (l : Ledger) : Turn → Ledger
  | .fail q' count f =>
    if q' = q then { l with put := l.put ++ List.replicate count f } else l
  | .call link c =>
    if c.queue? = some q ∧ p.stands link ∧ l.told.length < l.put.length then
      { l with told := l.told ++ (p.call link c).1.fault?.toList }
    else l
  | _ => l

/-- The books after some turns. -/
def Plant.Ledger.noteAll (host : String) (q : Ied.Queue) :
    Plant → Ledger → List Turn → Ledger
  | _, l, [] => l
  | p, l, t :: ts => noteAll host q (p.take host t) (l.note q p t) ts

namespace Plant

variable {host : String} {p : Plant} {d : Ied} {k : Ied.Queue} {l : Ledger}

theorem Shared.balanced_take (h : Shared host p d) (hl : l.put = l.told ++ d.waiting k) (t : Turn) :
    (l.note k p t).put = (l.note k p t).told ++ (d.next p t).waiting k := by
  cases t with
  | associate port listener direct =>
    simp only [Ledger.note, Ied.next]
    split
    · exact hl
    · cases k <;> exact hl
  | call link c =>
    simp only [Ledger.note, Ied.next, h.call_eq]
    cases p.stands link with
    | false => simpa using hl
    | true =>
      simp only [if_true, true_and, Ied.waiting_answer]
      split
      · next hnote =>
        obtain ⟨hc, hlt⟩ := hnote
        rw [if_pos hc]
        cases hw : d.waiting k with
        | nil => simp [hl, hw] at hlt
        | cons f rest => simp [hl, hw, Ied.reply_of_waiting hc hw, Ied.Call.Reply.fault?]
      · next hnote =>
        split
        · next hc =>
          cases hw : d.waiting k with
          | nil => simpa [hw] using hl
          | cons f rest => exact absurd ⟨hc, by simp [hl, hw]⟩ hnote
        · exact hl
  | close link =>
    simp only [Ledger.note, Ied.next]
    split
    · cases k <;> exact hl
    · exact hl
  | fail q count f =>
    simp only [Ledger.note, Ied.next, Ied.waiting_fail]
    split
    · simp [hl]
    · simpa using hl
  | setNode | setSequence | refuse => cases k <;> exact hl

/-- The faults that were told are the first that were put in, and the others wait, in order. -/
theorem Shared.balanced (h : Shared host p d) (hl : l.put = l.told ++ d.waiting k)
    (ts : List Turn) : ∃ d', Shared host (p.takeAll host ts) d' ∧
      (l.noteAll host k p ts).put = (l.noteAll host k p ts).told ++ d'.waiting k := by
  induction ts generalizing p d l with
  | nil => exact ⟨d, h, hl⟩
  | cons t ts ih => exact ih (h.take t) (h.balanced_take hl t)

/-! ## An association given up -/

/-- The plants differ at most in that one association stands, and in how often one was given up. -/
structure ClosedOff (host : String) (link : Nat) (p q : Plant) : Prop where
  device : ∃ d n, Shared host p d ∧ Shared host q (d.withReleases n)
  stands : ∀ l ≠ link, q.stands l = p.stands l
  length : q.links.length = p.links.length
  made : link < p.links.length

end Plant

/-- How often associations were given up does not matter to any turn. -/
theorem Ied.next_withReleases (d : Ied) (n : Nat) {p q : Plant} {t : Plant.Turn}
    (hstands : ∀ l, t.link? = some l → q.stands l = p.stands l)
    (hlength : q.links.length = p.links.length) :
    ∃ n', (d.withReleases n).next q t = (d.next p t).withReleases n' := by
  cases t with
  | associate port listener direct =>
    refine ⟨n, ?_⟩
    simp only [next, hlength]
    cases hr : d.refuses <;> simp [withReleases, hr, Ied.associate]
  | call l c =>
    refine ⟨n, ?_⟩
    simp only [next, hstands l rfl, answer_withReleases]
    split <;> rfl
  | close l =>
    simp only [next, hstands l rfl]
    split
    · exact ⟨n + 1, rfl⟩
    · exact ⟨n, rfl⟩
  | fail k count f => exact ⟨n, by cases k <;> rfl⟩
  | setNode | setSequence | refuse => exact ⟨n, rfl⟩

namespace Plant

variable {host : String} {p q : Plant} {d : Ied} {link : Nat}

theorem closedOff_close (h : Shared host p d) (hlink : link < p.links.length) :
    ClosedOff host link p (p.close link) := by
  have htake : p.take host (.close link) = p.close link := rfl
  have hshared := h.take (.close link)
  have hstands := fun l => h.stands_take l (.close link)
  have hlength := h.length_links_take (.close link)
  rw [htake] at hshared hlength
  simp only [htake] at hstands
  refine ⟨⟨d, (d.next p (.close link)).activity.releases, h, ?_⟩, fun l hl => ?_, hlength, hlink⟩
  · have hnext : d.withReleases (d.next p (.close link)).activity.releases =
        d.next p (.close link) := by
      simp only [Ied.next]
      split <;> rfl
    rwa [hnext]
  · rw [hstands]
    simp [Ne.symm hl]

/-- A turn that is not of the association comes to the same, whether it stands or not. -/
theorem ClosedOff.take (h : ClosedOff host link p q) {t : Turn} (ht : t.link? ≠ some link) :
    ClosedOff host link (p.take host t) (q.take host t) := by
  obtain ⟨d, n, hp, hq⟩ := h.device
  have hown : ∀ l, t.link? = some l → q.stands l = p.stands l := fun l hl =>
    h.stands l fun he => ht (he ▸ hl)
  obtain ⟨n', hnext⟩ := d.next_withReleases n hown h.length
  refine ⟨⟨d.next p t, n', hp.take t, hnext ▸ hq.take t⟩, fun l hl => ?_, ?_, ?_⟩
  · rw [hp.stands_take, hq.stands_take, h.stands l hl, h.length]
    rfl
  · rw [hp.length_links_take, hq.length_links_take, h.length]
    rfl
  · have := h.made
    rw [hp.length_links_take]
    split
    · split <;> omega
    · exact this

theorem ClosedOff.call (h : ClosedOff host link p q) {l : Nat} (hl : l ≠ link) (c : Ied.Call) :
    (q.call l c).1 = (p.call l c).1 := by
  obtain ⟨d, n, hp, hq⟩ := h.device
  rw [hp.call_eq, hq.call_eq, h.stands l hl, Ied.answer_withReleases]
  split <;> rfl

/-- Nobody else is told anything else when an association was given up. -/
theorem ClosedOff.replies (h : ClosedOff host link p q) {ts : List Turn}
    (hts : ∀ t ∈ ts, t.link? ≠ some link) : replies host q ts = replies host p ts := by
  induction ts generalizing p q with
  | nil => rfl
  | cons t ts ih =>
    obtain ⟨ht, hts⟩ := List.forall_mem_cons.1 hts
    unfold Plant.replies
    rw [ih (h.take ht) hts]
    cases t with
    | call l c => simp only [h.call (fun he => ht (congrArg some he)) c]
    | _ => rfl

/-! ## Histories -/

/-- What a device and the associations that share it can rely on. -/
structure Sharing (host : String) (p : Plant) (d : Ied) : Prop where
  found : p.network.find? host = some d
  /-- A call that is answered with a fault leaves what is recorded of the device. -/
  faulty : ∀ link c f, (p.call link c).1 = .fault f →
    ∃ d', (p.call link c).2.network.find? host = some d' ∧ d'.record = d.record
  /-- A write that is carried out changes what it carries. -/
  written : ∀ link node, (p.call link (.write node)).1 = .done →
    ∃ d', (p.call link (.write node)).2.network.find? host = some d' ∧ d.Wrote node d'
  /-- Over an association that stands, while no fault waits, a read is answered from the model and a
  write is carried out if there is such a node. -/
  served : ∀ link, p.stands link →
    (d.waiting .reads = [] → ∀ r c, (p.call link (.read r c)).1 =
      match d.model.findNode? r c with
      | some node => .node node
      | none => .fault (Ied.noObject r c)) ∧
    (d.waiting .writes = [] → ∀ node, (p.call link (.write node)).1 = .done ↔
      (d.model.findNode? node.reference node.constraint).isSome)
  /-- An association that is made stands until it is given up. -/
  made : ∀ port listener direct link, (p.associate host port listener direct).1 = .ok link →
    ∀ later, .close link ∉ later →
      ((p.associate host port listener direct).2.takeAll host later).stands link
  /-- Once it was given up, nothing comes of it, whatever happens. -/
  closed : ∀ link < p.links.length, ∀ later, let q := (p.close link).takeAll host later
    (∀ c, q.call link c = (.fault (.io "association closed"), q)) ∧ q.close link = q
  /-- Nobody else is told anything else, whatever happens. -/
  others : ∀ link < p.links.length, ∀ later, (∀ t ∈ later, t.link? ≠ some link) →
    replies host (p.close link) later = replies host p later

theorem Shared.sharing (h : Shared host p d) : Sharing host p d where
  found := h.found
  faulty link c f hf := by
    rw [h.call_eq] at hf ⊢
    split
    · next hs =>
      rw [if_pos hs] at hf
      exact ⟨_, (h.modifyIed _).found, Ied.record_answer hf⟩
    · exact ⟨d, h.found, rfl⟩
  written link node hw := by
    rw [h.call_eq] at hw ⊢
    split
    · next hs =>
      rw [if_pos hs] at hw
      exact ⟨_, (h.modifyIed _).found, Ied.wrote_answer hw⟩
    · next hs =>
      rw [if_neg hs] at hw
      cases hw
  served link hs := by
    refine ⟨fun hw r c => ?_, fun hw node => ?_⟩
    · rw [h.call_eq, if_pos hs]
      exact Ied.reply_read hw r c
    · rw [h.call_eq, if_pos hs]
      exact Ied.reply_write_iff hw node
  made port listener direct link hlink later hlater := by
    have hshared := h.take (.associate port listener direct)
    have hstands := h.stands_take link (.associate port listener direct)
    refine hshared.stands_takeAll (hstands.trans ?_) hlater
    rw [h.associate_eq] at hlink
    cases hr : d.refuses with
    | true => simp [hr] at hlink
    | false =>
      obtain rfl : p.links.length = link := by simpa [hr] using hlink
      simp
  closed link hlink later := by
    have hshared := h.take (.close link)
    have hstands := h.stands_take link (.close link)
    have hlength := h.length_links_take (.close link)
    have hnot := hshared.not_stands_takeAll (hlength ▸ hlink) (hstands.trans (by simp)) later
    obtain ⟨d', hd'⟩ := hshared.takeAll later
    exact ⟨fun c => (hd'.call_eq link c).trans (if_neg (by simp [hnot])),
      (hd'.close_eq link).trans (if_neg (by simp [hnot]))⟩
  others link hlink later hlater := (closedOff_close h hlink).replies hlater

/-- Whatever happened at a device and at the associations that share it: a call that is answered
with a fault leaves its model and what it has noted of writes and switched reports; a write that is
carried out changes only the values that it carries, and the status that mirrors a control value; an
association that was given up changes nothing, is told each time that it is closed, and does not
matter to the others; and of the faults that were put in for reads, and of those for writes, the
first were told, one to each call over an association that stands, the next call is told the next,
and the others wait. While none waits, reads and writes are answered from the model. -/
theorem shared_by_associations (host : String) (d₀ : Ied) (ts : List Turn) :
    let p := (alone host d₀).takeAll host ts
    ∃ d, Sharing host p d ∧ ∀ k : Ied.Queue,
      let l := Ledger.noteAll host k (alone host d₀) ⟨d₀.waiting k, []⟩ ts
      l.put = l.told ++ d.waiting k ∧
        ∀ link c f, p.stands link → c.queue? = some k → l.put[l.told.length]? = some f →
          (p.call link c).1 = .fault f := by
  intro p
  have hstart := shared_alone host d₀
  obtain ⟨d, hd⟩ := hstart.takeAll ts
  refine ⟨d, hd.sharing, fun k => ?_⟩
  intro l
  obtain ⟨d', hd', hl⟩ := hstart.balanced (k := k) (l := ⟨d₀.waiting k, []⟩) rfl ts
  obtain rfl : d' = d := Option.some.inj (hd'.found.symm.trans hd.found)
  refine ⟨hl, fun link c f hs hc hf => ?_⟩
  cases hw : d'.waiting k with
  | nil => simp [l, hl, hw] at hf
  | cons g rest =>
    obtain rfl : g = f := by simpa [l, hl, hw] using hf
    rw [hd.call_eq, if_pos hs]
    exact Ied.reply_of_waiting hc hw

end Plant

end FieldGateway
