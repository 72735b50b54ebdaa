import PipelineForge.Log.Level
import PipelineForge.Tasks.Control

/-!
# Task pools

A pool runs tasks as jobs. A job holds the body of its task while it is at work and gives it up
when the task yields, suspends or ends. Every change that other threads can see is one step of
one job, so that a run with any number of workers is a sequence of steps in which the next job
is chosen freely. What the tasks have in common with each other and with the outside is a world,
which a step may change.
-/

namespace PipelineForge.Tasks

open Log (Line)

abbrev TaskId := Nat

/-- What a task may ask of the pool while it handles a state. -/
inductive Call where
  | signal (task : TaskId) (bits : UInt32)
  | abort (task : TaskId)
deriving DecidableEq

/-- How a piece of handling a state ends. -/
inductive Reply (σ : Type) where
  | more
  /-- Nothing can be done until the world changes. -/
  | held
  | call (c : Call)
  | step (s : Step σ)
  | fault (text : String)
deriving DecidableEq

/-- How a piece of ending a task ends. -/
inductive Parting where
  | more
  | gone
  | fault (text : String)
deriving DecidableEq

/-- How tasks with bodies of a type and states of a type act on a world. Handling a state and
ending a task are cut into pieces, each of which touches the world at most once. -/
structure Behaviour (ω τ σ : Type) where
  name : τ → String
  stateText : σ → String
  enter : σ → τ → τ
  work : ω → τ → ω × τ × List Line × Reply σ
  leave : Outcome → τ → τ
  part : ω → τ → ω × τ × List Line × Parting

inductive Phase (σ : Type) where
  /-- In the queue; the flag tells that a worker put it there. -/
  | queued (byWorker : Bool)
  /-- Holds the body and is about to look at the abort request. -/
  | ready
  | handling
  /-- The state was handled; the step is not acted on yet. -/
  | handled (s : Step σ)
  /-- Gave up the body and is about to queue a new job. -/
  | requeueing
  /-- About to tell the task its outcome. -/
  | ending (outcome : Outcome)
  | parting
  /-- The task has ended; its control block does not tell yet. -/
  | ended
  /-- About to go; the flag tells that it still holds the body. -/
  | going (holding : Bool)
deriving DecidableEq

def Phase.isQueued {σ : Type} : Phase σ → Bool
  | queued _ => true
  | _ => false

def Phase.isQueuedByWorker {σ : Type} : Phase σ → Bool
  | queued byWorker => byWorker
  | _ => false

def Phase.holds {σ : Type} : Phase σ → Bool
  | queued _ => false
  | requeueing => false
  | going holding => holding
  | _ => true

structure Job (σ : Type) where
  task : TaskId
  phase : Phase σ
deriving DecidableEq

structure Cell (τ σ : Type) where
  control : Control
  state : σ
  body : τ

/-- What happened to a task: a state was handled, or the task was told its outcome. -/
inductive Happening (σ : Type) where
  | visited (s : σ)
  | told (outcome : Outcome)
deriving DecidableEq

structure Pool (τ σ : Type) where
  /-- All tasks ever run, by number. -/
  cells : List (Cell τ σ) := []
  /-- The jobs there are, in the order of queueing. -/
  jobs : List (Job σ) := []
  history : Array (TaskId × Happening σ) := #[]
  journal : Array Line := #[]

namespace Pool

variable {ω τ σ : Type}

def cell? (p : Pool τ σ) (t : TaskId) : Option (Cell τ σ) := p.cells[t]?

def control? (p : Pool τ σ) (t : TaskId) : Option Control := (p.cell? t).map Cell.control

def isFinished (p : Pool τ σ) (t : TaskId) : Bool :=
  match p.control? t with
  | some c => c.finished
  | none => false

def setCell (p : Pool τ σ) (t : TaskId) (c : Cell τ σ) : Pool τ σ :=
  { p with cells := p.cells.set t c }

def setPhase (p : Pool τ σ) (i : Nat) (task : TaskId) (phase : Phase σ) : Pool τ σ :=
  { p with jobs := p.jobs.set i ⟨task, phase⟩ }

def removeJob (p : Pool τ σ) (i : Nat) : Pool τ σ := { p with jobs := p.jobs.eraseIdx i }

def queue (p : Pool τ σ) (t : TaskId) (byWorker : Bool) : Pool τ σ :=
  { p with jobs := p.jobs ++ [⟨t, .queued byWorker⟩] }

def write (p : Pool τ σ) (lines : List Line) : Pool τ σ :=
  { p with journal := p.journal ++ lines.toArray }

def record (p : Pool τ σ) (t : TaskId) (h : Happening σ) : Pool τ σ :=
  { p with history := p.history.push (t, h) }

def run (p : Pool τ σ) (body : τ) (first : σ) : Pool τ σ × TaskId :=
  let t := p.cells.length
  (({ p with cells := p.cells ++ [⟨.launched, first, body⟩] } : Pool τ σ).queue t false, t)

/-- Changes a control block and queues a job if the change asks for it. -/
def onControl (p : Pool τ σ) (t : TaskId) (byWorker : Bool) (f : Control → Control × Bool) :
    Pool τ σ :=
  match p.cell? t with
  | none => p
  | some c =>
    match f c.control with
    | (control, true) => (p.setCell t { c with control }).queue t byWorker
    | (control, false) => p.setCell t { c with control }

def signal (p : Pool τ σ) (t : TaskId) (bits : UInt32) (byWorker : Bool) : Pool τ σ :=
  p.onControl t byWorker (·.signal bits)

def abort (p : Pool τ σ) (t : TaskId) (byWorker : Bool) : Pool τ σ :=
  p.onControl t byWorker Control.abort

def call (p : Pool τ σ) : Call → Pool τ σ
  | .signal t bits => p.signal t bits true
  | .abort t => p.abort t true

def isHeld (p : Pool τ σ) (t : TaskId) : Bool :=
  p.jobs.any fun j => j.task == t && j.phase.holds

def faultLine (b : Behaviour ω τ σ) (c : Cell τ σ) (text : String) : Line :=
  ⟨.error, s!"task `{b.name c.body}` panicked in state {b.stateText c.state}: {text}"⟩

/-- Acts on the step that handling a state ended with. -/
def settleStep (p : Pool τ σ) (i : Nat) (t : TaskId) (c : Cell τ σ) : Step σ → Pool τ σ
  | .proceed next => (p.setCell t { c with state := next }).setPhase i t .ready
  | .yield next => (p.setCell t { c with state := next }).setPhase i t .requeueing
  | .wait next condition =>
    match c.control.await condition with
    | (control, true) => (p.setCell t { c with state := next, control }).setPhase i t .ready
    | (control, false) =>
      (p.setCell t { c with state := next, control }).setPhase i t (.going true)
  | .finish => p.setPhase i t (.ending .finished)
  | .abort => p.setPhase i t (.ending .aborted)

/-- A job that is ready ends its task if an abort was requested, else handles the state. -/
def takeUp (b : Behaviour ω τ σ) (p : Pool τ σ) (i : Nat) (t : TaskId) (c : Cell τ σ) :
    Pool τ σ :=
  if c.control.abortRequested then p.setPhase i t (.ending .aborted)
  else
    ((p.setCell t { c with body := b.enter c.state c.body }).record t (.visited c.state)).setPhase
      i t .handling

def work (b : Behaviour ω τ σ) (p : Pool τ σ) (w : ω) (i : Nat) (t : TaskId) (c : Cell τ σ) :
    Option (Pool τ σ × ω) :=
  match b.work w c.body with
  | (w', body, lines, reply) =>
    let p' := (p.setCell t { c with body }).write lines
    match reply with
    | .more => some (p', w')
    | .held => none
    | .call request => some (p'.call request, w')
    | .step s => some (p'.setPhase i t (.handled s), w')
    | .fault text =>
      some ((p'.write [faultLine b c text]).setPhase i t (.ending .aborted), w')

/-- One piece of ending a task. A fault leaves the control block as it is, so that the task never
counts as finished. -/
def part (b : Behaviour ω τ σ) (p : Pool τ σ) (w : ω) (i : Nat) (t : TaskId) (c : Cell τ σ) :
    Pool τ σ × ω :=
  match b.part w c.body with
  | (w', body, lines, parting) =>
    let p' := (p.setCell t { c with body }).write lines
    match parting with
    | .more => (p', w')
    | .gone => (p'.setPhase i t .ended, w')
    | .fault text => ((p'.write [⟨.error, s!"task worker panicked: {text}"⟩]).removeJob i, w')

/-- One step of one job. There is none if there is no such job, if another job holds the body
that it needs, or if its task is held. -/
def step (b : Behaviour ω τ σ) (p : Pool τ σ) (w : ω) (i : Nat) : Option (Pool τ σ × ω) :=
  match p.jobs[i]? with
  | none => none
  | some ⟨t, phase⟩ =>
    match p.cell? t with
    | none => none
    | some c =>
      match phase with
      | .queued _ => if p.isHeld t then none else some (p.setPhase i t .ready, w)
      | .ready => some (takeUp b p i t c, w)
      | .handling => work b p w i t c
      | .handled s => some (p.settleStep i t c s, w)
      | .requeueing => some ((p.queue t true).setPhase i t (.going false), w)
      | .ending outcome =>
        some (((p.setCell t { c with body := b.leave outcome c.body }).record t
          (.told outcome)).setPhase i t .parting, w)
      | .parting => some (part b p w i t c)
      | .ended =>
        some ((p.setCell t { c with control := c.control.complete }).setPhase i t (.going true), w)
      | .going _ => some (p.removeJob i, w)

/-- The job that a single worker goes on with: the one at work, else the one that a worker queued
last, else the one that was queued first. -/
def nextJob (p : Pool τ σ) : Option Nat :=
  let fromEnd := p.jobs.reverse.findIdx? (·.phase.isQueuedByWorker)
  p.jobs.findIdx? (! ·.phase.isQueued)
    |>.or (fromEnd.map (p.jobs.length - 1 - ·))
    |>.or (p.jobs.findIdx? (·.phase.isQueued))

/-- Lets a single worker run until it has nothing to do or is held, for at most the given number
of steps. -/
def settle (b : Behaviour ω τ σ) : Nat → Pool τ σ → ω → Pool τ σ × ω
  | 0, p, w => (p, w)
  | n + 1, p, w =>
    match p.nextJob.bind (p.step b w) with
    | some (p', w') => settle b n p' w'
    | none => (p, w)

end Pool

end PipelineForge.Tasks
