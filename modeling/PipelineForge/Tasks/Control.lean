/-!
# Task control

A task is a state machine. Handling a state ends in a step: go on in the next state at once, go
on after the other jobs, wait for a condition, or end. A condition is a set of bits, and any of
them ends the wait. The control block of a task holds all that signals, aborts and the worker
agree on; each function here is one critical section on it.
-/

namespace PipelineForge.Tasks

inductive Step (σ : Type) where
  | proceed (next : σ)
  | yield (next : σ)
  | wait (next : σ) (condition : UInt32)
  | finish
  | abort
deriving DecidableEq

inductive Outcome where
  | finished
  | aborted
deriving DecidableEq

structure Control where
  /-- Bits that were signalled and not consumed yet. -/
  pending : UInt32 := 0
  /-- The condition that a suspended task waits for. -/
  waiting : Option UInt32 := none
  /-- A job of the task is queued or at work. -/
  scheduled : Bool := false
  abortRequested : Bool := false
  finished : Bool := false
deriving DecidableEq

namespace Control

def launched : Control := { scheduled := true }

/-- The condition that the task is suspended on and that some of the bits satisfy. -/
def wokenBy (c : Control) (bits : UInt32) : Option UInt32 :=
  if c.scheduled then none else c.waiting.filter (· &&& bits ≠ 0)

/-- Adds bits. The flag tells that the task was suspended on one of them and needs a job; all
bits of the condition that it waited for are consumed then. -/
def signal (c : Control) (bits : UInt32) : Control × Bool :=
  if c.finished then (c, false)
  else
    let c := { c with pending := c.pending ||| bits }
    match c.wokenBy bits with
    | some condition =>
      ({ c with pending := c.pending &&& ~~~condition, waiting := none, scheduled := true }, true)
    | none => (c, false)

/-- Requests the abort. The flag tells that the task was suspended and needs a job. -/
def abort (c : Control) : Control × Bool :=
  if c.finished || c.abortRequested then (c, false)
  else if c.scheduled then ({ c with abortRequested := true }, false)
  else ({ c with abortRequested := true, waiting := none, scheduled := true }, true)

/-- Decides about a wait. The flag tells that the task goes on: a bit of the condition was
pending, and is consumed with the whole condition, or an abort was requested. Otherwise the task
is suspended. -/
def await (c : Control) (condition : UInt32) : Control × Bool :=
  if c.pending &&& condition ≠ 0 then ({ c with pending := c.pending &&& ~~~condition }, true)
  else if c.abortRequested then (c, true)
  else ({ c with waiting := some condition, scheduled := false }, false)

def complete (c : Control) : Control :=
  { c with finished := true, scheduled := false, waiting := none }

end Control

end PipelineForge.Tasks
