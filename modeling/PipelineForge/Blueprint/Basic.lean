import PipelineForge.Blueprint.Constants
import PipelineForge.Blueprint.PushRange

/-!
# Blueprints

A blueprint is the complete description of one graphics pipeline. Handles, enumeration values,
flags and the bits of floating-point numbers are raw words, since nothing here interprets them.
An attachment format of zero means that the attachment is not used.
-/

namespace PipelineForge

structure ShaderStage where
  stage : UInt32
  shader : UInt64
  entry : String
deriving DecidableEq

structure VertexBinding where
  binding : UInt32
  stride : UInt32
  inputRate : Int32
deriving DecidableEq

structure VertexAttribute where
  location : UInt32
  binding : UInt32
  format : Int32
  offset : UInt32
deriving DecidableEq

structure BlendState where
  enable : UInt32 := 0
  srcColor : Int32 := 0
  dstColor : Int32 := 0
  colorOp : Int32 := 0
  srcAlpha : Int32 := 0
  dstAlpha : Int32 := 0
  alphaOp : Int32 := 0
  writeMask : UInt32 := 0
deriving DecidableEq

def BlendState.off : BlendState := {}

/-- Four floating-point numbers by their bits. -/
structure Quad where
  r : UInt32 := 0
  g : UInt32 := 0
  b : UInt32 := 0
  a : UInt32 := 0
deriving DecidableEq

structure Blueprint where
  stages : List ShaderStage := []
  constants : ConstantTable := .empty
  bindings : List VertexBinding := []
  attributes : List VertexAttribute := []
  topology : Int32 := 3
  polygonMode : Int32 := 0
  cullMode : UInt32 := 2
  frontFace : Int32 := 0
  lineWidth : UInt32 := 0x3f800000
  samples : UInt32 := 1
  colorFormats : List Int32 := []
  depthFormat : Int32 := 0
  stencilFormat : Int32 := 0
  depthTest : Bool := true
  depthWrite : Bool := true
  depthCompare : Int32 := 1
  blendStates : List BlendState := []
  blendConstants : Quad := {}
  dynamicStates : List Int32 := [0, 1]
  pushRanges : List PushRange := []
  layout : UInt64 := 0
deriving DecidableEq

namespace Blueprint

/-- Sets the shader of a stage: in the place of the one that the stage has, else at the end. -/
def putStage (s : ShaderStage) : List ShaderStage → List ShaderStage
  | [] => [s]
  | t :: ts => if t.stage = s.stage then s :: ts else t :: putStage s ts

/-- Sets one state of a list, which grows by states that are off if it is too short. -/
def putBlend (place : Nat) (state : BlendState) (states : List BlendState) : List BlendState :=
  (states ++ List.replicate (place + 1 - states.length) BlendState.off).set place state

/-- Whether a list of some elements of a size in bytes can be addressed. -/
def isAddressable (count size : Nat) : Bool := count * size < 0x8000000000000000

def formatSize : Nat := 4

def blendSize : Nat := 32

end Blueprint

end PipelineForge
