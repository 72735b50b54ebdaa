import PipelineForge.Log.Level

/-!
# Settings

Formats and sample counts are the raw numbers of the graphics interface. A stencil format of
zero stands for "no stencil".
-/

namespace PipelineForge

structure FrameSettings where
  color : Int32 := 43
  depth : Int32 := 126
  stencil : Int32 := 0
  samples : UInt32 := 1
deriving DecidableEq

/-- The number of workers of a task engine, zero for one per processor, and the first part of
their names. -/
structure EngineSettings where
  workers : Nat := 0
  threadName : String := "Task-Worker"
deriving DecidableEq

structure HubSettings where
  engine : EngineSettings := ⟨0, "Pipeline-Factory"⟩
  frame : FrameSettings := {}
  shutdownMillis : Nat := 5000
  /-- Which lines the log takes, if nothing else is said all of them. The journals are written in
  front of it. -/
  log : Log.Threshold := .upTo .trace
deriving DecidableEq

end PipelineForge
