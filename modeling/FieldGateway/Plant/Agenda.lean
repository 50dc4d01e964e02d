import FieldGateway.Gateway.Handle
import FieldGateway.Plant.Basic

/-!
# Virtual time

Courses share the plant: one of them runs until it waits, then another one. Time stands still while
a course runs, and moves only when all wait; it then goes to the earliest moment that a course waits
for.

One course leads: the plant is watched from when it starts until it ends. The others are jobs, which
go on only while the leading course waits. Of the jobs that wait for one moment, the one that began
to wait first goes on first. The leading course goes on before all of them if it waits for the same
moment; if it waits for a job to end, it goes on when no job can at that moment.
-/

namespace FieldGateway

inductive Stop (α : Type) where
  | ended (a : α)
  | waiting (ms : Nat) (rest : Work α)

namespace Plant

variable {α : Type}

/-- A course runs until it waits or ends. -/
def advance : Work α → Plant → Stop α × Plant
  | .done a, p => (.ended a, p)
  | .wait ms rest, p => (.waiting ms rest, p)
  | .ask q next, p => advance (next (p.perform q).1) (p.perform q).2

/-- A course runs to its end while nothing else happens. -/
def runAlone : Work α → Plant → α × Plant
  | .done a, p => (a, p)
  | .wait ms rest, p => runAlone rest { p with time := p.time + ms }
  | .ask q next, p => runAlone (next (p.perform q).1) (p.perform q).2

end Plant

structure Waiting where
  /-- When it goes on, in milliseconds since the start. -/
  due : Nat
  job : Nat
  rest : Work (Option Response)

/-- The plant and the jobs that go on in it. -/
structure Agenda where
  plant : Plant
  /-- The jobs that wait, in the order in which they will go on. -/
  waiting : List Waiting
  /-- How many jobs were taken up. -/
  taken : Nat
  /-- The jobs that have ended, with the responses of requests. -/
  ended : List (Nat × Option Response)

namespace Agenda

variable {α : Type}

def ofPlant (p : Plant) : Agenda := ⟨p, [], 0, []⟩

instance : Inhabited Agenda := ⟨ofPlant default⟩

/-- A job is put behind those that go on no later. -/
def insertWaiting (w : Waiting) : List Waiting → List Waiting
  | [] => [w]
  | v :: r => if v.due ≤ w.due then v :: insertWaiting w r else w :: v :: r

def await (a : Agenda) (due job : Nat) (rest : Work (Option Response)) : Agenda :=
  { a with waiting := insertWaiting ⟨due, job, rest⟩ a.waiting }

/-- The jobs that were started and not taken up yet go on as soon as they can. -/
def takeUp (g : Gateway) (a : Agenda) : Agenda :=
  let fresh := a.plant.jobs.drop a.taken
  let a := fresh.zipIdx.foldl
    (fun (a : Agenda) (e : Job × Nat) =>
      a.await a.plant.time (a.taken + e.2) (g.jobWork e.1)) a
  { a with taken := a.plant.jobs.length }

/-- Time moves on, never back. -/
def moveTo (a : Agenda) (due : Nat) : Agenda :=
  { a with plant := { a.plant with time := max a.plant.time due } }

def turn (g : Gateway) (a : Agenda) : Agenda :=
  match a.waiting with
  | [] => a
  | w :: rest =>
    let a := { a with waiting := rest }.moveTo w.due
    match a.plant.advance w.rest with
    | (.ended r, p) => takeUp g { a with plant := p, ended := a.ended ++ [(w.job, r)] }
    | (.waiting ms c, p) => (takeUp g { a with plant := p }).await (p.time + ms) w.job c

/-- Whether a job goes on before a moment. -/
def isBusyBefore (a : Agenda) (due : Nat) : Bool :=
  match a.waiting with
  | [] => false
  | w :: _ => w.due < due

/-- The leading course, which waits for the given moment, is watched to its end; `none` if that
takes more than `fuel` turns. -/
def leadFrom (g : Gateway) : Nat → Agenda → Nat → Work α → Option α × Agenda
  | 0, a, _, _ => (none, a)
  | fuel + 1, a, due, c =>
    if a.isBusyBefore due then leadFrom g fuel (a.turn g) due c
    else
      let a := a.moveTo due
      match a.plant.advance c with
      | (.ended x, p) => (some x, takeUp g { a with plant := p })
      | (.waiting ms rest, p) =>
        leadFrom g fuel (takeUp g { a with plant := p }) (p.time + ms) rest

/-- How many turns are watched. -/
def patience : Nat := 10000000

/-- A leading course is watched from now to its end. -/
def lead (g : Gateway) (c : Work α) (a : Agenda) : Option α × Agenda :=
  leadFrom g patience a 0 c

def hasEnded (a : Agenda) (job : Nat) : Bool := a.ended.any (·.1 == job)

def response? (a : Agenda) (job : Nat) : Option Response := (a.ended.lookup job).join

/-- Jobs are watched until they have all ended and no job can go on at that moment. -/
def watchFrom (g : Gateway) : Nat → Agenda → List Nat → Agenda
  | 0, a, _ => a
  | fuel + 1, a, jobs =>
    if a.isBusyBefore (a.plant.time + 1) || !(jobs.all a.hasEnded || a.waiting.isEmpty) then
      watchFrom g fuel (a.turn g) jobs
    else a

/-- Jobs are watched until they have all ended, unless they have. -/
def watch (g : Gateway) (jobs : List Nat) (a : Agenda) : Agenda :=
  if jobs.all a.hasEnded then a else watchFrom g patience a jobs

/-- Requests are handled side by side, started in their order; their responses. -/
def handleAll (g : Gateway) (rs : List Request) (a : Agenda) : List (Option Response) × Agenda :=
  let first := a.plant.jobs.length
  let p := { a.plant with jobs := a.plant.jobs ++ rs.map (.request 0) }
  let jobs := List.range' first rs.length
  let a := watch g jobs (takeUp g { a with plant := p })
  (jobs.map a.response?, a)

end Agenda

end FieldGateway
