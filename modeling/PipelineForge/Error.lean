import PipelineForge.Blueprint.PushRange

/-!
# Errors

All errors that a hub and its factories answer with. Misuse of a hub changes nothing; every
other error ends the factory that meets it.
-/

namespace PipelineForge

open Axis

inductive ForgeError where
  | violation (characteristic : String) (cause : Violation)
  | cacheUnavailable (cache reason : String)
  | duplicateRegistration (name : String)
  | lateRegistration (name : String)
  | setupFailed (characteristic reason : String)
  | indexTooWide (bits : Nat)
  | pushConflict (old new : PushRange)
  | creationFailed (index : CompositeIndex) (reason : String)
  | aborted
  | unknownFactory
  | unknownSlot
  | alreadyStarted (name : String)
deriving DecidableEq

namespace ForgeError

def message : ForgeError → String
  | violation c v => s!"characteristic `{c}`: {v.message}"
  | cacheUnavailable c r => s!"pipeline cache `{c}` is unavailable: {r}"
  | duplicateRegistration n => s!"characteristic `{n}` is registered twice"
  | lateRegistration n =>
    s!"characteristic `{n}` was added after the factory was fully initialized"
  | setupFailed c r => s!"characteristic `{c}` failed to initialize: {r}"
  | indexTooWide bits => s!"pipeline index needs {bits} bits, at most 64 are available"
  | pushConflict old new =>
    s!"push constant range {new.text} overlaps {old.text} without sharing an end"
  | creationFailed i r => s!"failed to create pipeline {i.text}: {r}"
  | aborted => "pipeline factory was aborted"
  | unknownFactory => "unknown pipeline factory"
  | unknownSlot => "unknown pipeline slot"
  | alreadyStarted n => s!"pipeline factory `{n}` was already started"

def cause : ForgeError → Option String
  | violation _ v => some v.message
  | _ => none

end ForgeError

end PipelineForge
