import PipelineForge.Fault
import PipelineForge.Tasks.Pool
import PipelineForge.Text.Literal

/-!
# Scripted tasks

A scripted task has for each of its states a list of deeds, one for each time that the state is
handled; the last deed serves all later times. A deed first signals and then aborts other tasks,
which it knows by labels, and ends in a step or in a fault. A label that names no task is passed
over.
-/

namespace PipelineForge.Tasks

inductive Ending where
  | step (s : Step UInt32)
  | fault (text : String)
deriving DecidableEq

inductive Request where
  | signal (label : String) (bits : UInt32)
  | abort (label : String)
deriving DecidableEq

structure Deed where
  requests : List Request
  ending : Ending
deriving DecidableEq

structure Routine where
  name : String
  states : List (List Deed)
  /-- How often each state was handled. -/
  visits : List Nat
  /-- What is left of the deed at hand. -/
  atHand : Deed
  /-- Being told the outcome is a fault. -/
  faultyEnd : Bool
deriving DecidableEq

/-- The tasks that labels stand for, the newest meaning of a label first. -/
abbrev Labels := List (String × TaskId)

namespace Routine

def make (name : String) (states : List (List Deed)) (faultyEnd : Bool) : Routine where
  name := name
  states := states
  visits := states.map fun _ => 0
  atHand := ⟨[], .step .finish⟩
  faultyEnd := faultyEnd

/-- The deed for a visit; a state or a deed that does not exist is a fault. -/
def deedAt (r : Routine) (state : UInt32) : Deed :=
  match r.states[state.toNat]? with
  | none => ⟨[], .fault (Fault.outOfBounds r.states.length state.toUInt64).message⟩
  | some deeds =>
    match deeds[min (r.visits.getD state.toNat 0) (deeds.length - 1)]? with
    | some deed => deed
    | none => ⟨[], .fault (Fault.outOfBounds 0 0).message⟩

def enter (state : UInt32) (r : Routine) : Routine :=
  { r with
    visits := r.visits.modify state.toNat (· + 1)
    atHand := r.deedAt state }

def Request.toCall (labels : Labels) : Request → Option Call
  | .signal label bits => (labels.lookup label).map (.signal · bits)
  | .abort label => (labels.lookup label).map .abort

def work (labels : Labels) (r : Routine) : Labels × Routine × List Log.Line × Reply UInt32 :=
  match r.atHand.requests with
  | q :: rest =>
    let r' := { r with atHand := { r.atHand with requests := rest } }
    (labels, r', [], ((Request.toCall labels q).map .call).getD .more)
  | [] =>
    match r.atHand.ending with
    | .step s => (labels, r, [], .step s)
    | .fault text => (labels, r, [], .fault text)

def part (labels : Labels) (r : Routine) : Labels × Routine × List Log.Line × Parting :=
  (labels, r, [], if r.faultyEnd then .fault "finish failed" else .gone)

def behaviour : Behaviour Labels Routine UInt32 where
  name := Routine.name
  stateText := fun s => toString s.toNat
  enter := enter
  work := work
  leave := fun _ r => r
  part := part

end Routine

def handleText (name : String) (finished : Bool) : String :=
  "TaskHandle \x7b name: " ++ Text.quote name ++ s!", finished: {finished} \x7d"

end PipelineForge.Tasks
