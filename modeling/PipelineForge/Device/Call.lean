import PipelineForge.Blueprint.Fingerprint

/-!
# Device calls

What a graphics device is told to build. Each shader stage carries its own specialization
constants as a map of constant numbers to places in a block of bytes, four bytes to a constant;
a stage without constants carries none. Viewport and scissor are single and set at run time, and
the features that blueprints do not describe are off.
-/

namespace PipelineForge

structure SpecEntry where
  id : UInt32
  offset : UInt32
  size : UInt32
deriving DecidableEq

structure SpecBlock where
  entries : List SpecEntry
  data : List UInt8
deriving DecidableEq

structure StageCall where
  stage : UInt32
  shader : UInt64
  entry : String
  spec : Option SpecBlock
deriving DecidableEq

structure DeviceCall where
  stages : List StageCall
  bindings : List VertexBinding
  attributes : List VertexAttribute
  topology : Int32
  primitiveRestart : Bool
  viewports : UInt32
  scissors : UInt32
  depthClamp : Bool
  rasterizerDiscard : Bool
  polygonMode : Int32
  cullMode : UInt32
  frontFace : Int32
  depthBias : Bool
  lineWidth : UInt32
  samples : UInt32
  sampleShading : Bool
  depthTest : Bool
  depthWrite : Bool
  depthCompare : Int32
  boundsTest : Bool
  stencilTest : Bool
  logicOp : Bool
  blendConstants : Quad
  blendStates : List BlendState
  dynamicStates : List Int32
  colorFormats : List Int32
  depthFormat : Int32
  stencilFormat : Int32
  viewMask : UInt32
  layout : UInt64
  driverCache : UInt64
deriving DecidableEq

/-- The block for constants and their values, in the order given. -/
def SpecBlock.ofConstants (constants : List (UInt32 × UInt32)) : SpecBlock where
  entries := constants.mapIdx fun i (id, _) => ⟨id, UInt32.ofNat (4 * i), 4⟩
  data := constants.flatMap fun (_, value) => Blueprint.littleEndianBytes value

/-- The constants of a stage are counted in 32 bits, and a count of zero means that there are
none. -/
def StageCall.ofStage (constants : ConstantTable) (s : ShaderStage) : StageCall :=
  let cs := constants.ofStage s.stage
  { stage := s.stage
    shader := s.shader
    entry := s.entry
    spec := if UInt32.ofNat cs.length = 0 then none else some (SpecBlock.ofConstants cs) }

def DeviceCall.ofBlueprint (driverCache : UInt64) (b : Blueprint) : DeviceCall where
  stages := b.stages.map (StageCall.ofStage b.constants)
  bindings := b.bindings
  attributes := b.attributes
  topology := b.topology
  primitiveRestart := false
  viewports := 1
  scissors := 1
  depthClamp := false
  rasterizerDiscard := false
  polygonMode := b.polygonMode
  cullMode := b.cullMode
  frontFace := b.frontFace
  depthBias := false
  lineWidth := b.lineWidth
  samples := b.samples
  sampleShading := false
  depthTest := b.depthTest
  depthWrite := b.depthWrite
  depthCompare := b.depthCompare
  boundsTest := false
  stencilTest := false
  logicOp := false
  blendConstants := b.blendConstants
  blendStates := b.blendStates
  dynamicStates := b.dynamicStates
  colorFormats := b.colorFormats
  depthFormat := b.depthFormat
  stencilFormat := b.stencilFormat
  viewMask := 0
  layout := b.layout
  driverCache := driverCache

end PipelineForge
