import PipelineForge.Blueprint.Edit
import PipelineForge.Settings

/-!
# Characteristics

A characteristic is one axis along which pipelines vary. It sets up the blueprint that all
variants start from, once, and then fills in one of its values per variant. A singleton does all
its work when it sets up.
-/

namespace PipelineForge

open Axis

/-- What a characteristic may know about the factory that sets it up. -/
structure Context where
  factory : String
  frame : FrameSettings
deriving DecidableEq

structure Characteristic where
  name : String
  span : Span
  singleton : Bool
  /-- What is written before trouble stays written. -/
  setup : Context → Blueprint → Blueprint × Option (Trouble ForgeError)
  fill : Int32 → Blueprint → Blueprint × Option Fault

namespace Characteristic

/-- The characteristic with one value and nothing to fill in. -/
def ofSetup (name : String)
    (setup : Context → Blueprint → Blueprint × Option (Trouble ForgeError)) : Characteristic where
  name := name
  span := .single
  singleton := true
  setup := setup
  fill := fun _ b => (b, none)

/-- The characteristic with nothing to set up. -/
def ofFill (name : String) (span : Span)
    (fill : Int32 → Blueprint → Blueprint × Option Fault) : Characteristic where
  name := name
  span := span
  singleton := false
  setup := fun _ b => (b, none)
  fill := fill

/-- Sets up characteristics one after the other up to the first trouble. Gives the blueprint,
the characteristics that were set up, and the trouble. -/
def setupAll (context : Context) :
    List Characteristic → Blueprint → Blueprint × List Characteristic × Option (Trouble ForgeError)
  | [], b => (b, [], none)
  | c :: cs, b =>
    match c.setup context b with
    | (b', some t) => (b', [], some t)
    | (b', none) =>
      let (b'', done, t) := setupAll context cs b'
      (b'', c :: done, t)

end Characteristic

end PipelineForge
