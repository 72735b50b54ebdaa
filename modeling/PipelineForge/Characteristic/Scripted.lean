import PipelineForge.Characteristic.Basic

/-!
# Scripted characteristics

A scripted characteristic runs a list of acts when it sets up, and one list for each value that
it fills in. An act that fails ends its list. When a value is filled in there is nobody to answer
an error to, so an error becomes a fault with the error's text.
-/

namespace PipelineForge

open Axis

inductive Act where
  | edit (e : Edit)
  | fail (reason : String)
  | fault (text : String)
  /-- Sets a stage whose shader is the frame's color format and whose entry is the factory. -/
  | stageFromContext (stage : UInt32)
deriving DecidableEq

structure Script where
  name : String
  setup : List Act
  /-- Acts by value; a value that is not listed has none. -/
  fill : List (Int32 × List Act) := []
deriving DecidableEq

def contextStage (context : Context) (stage : UInt32) : ShaderStage :=
  ⟨stage, UInt64.ofInt context.frame.color.toInt, context.factory⟩

def Act.toEdit (name : String) (context : Context) : Act → Except (Trouble ForgeError) Edit
  | .edit e => .ok e
  | .fail reason => .error (.error (.setupFailed name reason))
  | .fault text => .error (.fault (.custom text))
  | .stageFromContext stage => .ok (.stage (contextStage context stage))

def Trouble.toFault : Trouble ForgeError → Fault
  | .error e => .custom e.message
  | .fault f => f

namespace Script

def run (name : String) (context : Context) :
    List Act → Blueprint → Blueprint × Option (Trouble ForgeError)
  | [], b => (b, none)
  | a :: as, b =>
    match a.toEdit name context with
    | .error t => (b, some t)
    | .ok e =>
      match b.apply e with
      | .error t => (b, some t)
      | .ok b' => run name context as b'

def runFill (s : Script) (value : Int32) (b : Blueprint) : Blueprint × Option Fault :=
  let acts := (s.fill.lookup value).getD []
  let (b', t) := run s.name ⟨"", {}⟩ acts b
  (b', t.map Trouble.toFault)

def along (s : Script) (span : Span) (singleton : Bool) : Characteristic where
  name := s.name
  span := span
  singleton := singleton
  setup := fun context => run s.name context s.setup
  fill := s.runFill

def alone (s : Script) : Characteristic := .ofSetup s.name fun context => run s.name context s.setup

end Script

end PipelineForge
