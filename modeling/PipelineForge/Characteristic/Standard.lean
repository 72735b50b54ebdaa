import PipelineForge.Characteristic.Basic

/-!
# Standard characteristics

The characteristics that come with the library: a shader program, the attachments of a frame, a
choice among topologies, a choice among blend modes for one attachment, and a range of values of
one specialization constant.
-/

namespace PipelineForge

open Axis

inductive BlendMode where
  | solid
  | alpha
  | additive
deriving DecidableEq

/-- Alpha blending weighs by the source's alpha; additive blending adds up. -/
def BlendMode.state : BlendMode → BlendState
  | solid => { writeMask := 15 }
  | alpha =>
    { enable := 1, srcColor := 6, dstColor := 7, srcAlpha := 1, dstAlpha := 0, writeMask := 15 }
  | additive =>
    { enable := 1, srcColor := 1, dstColor := 1, srcAlpha := 1, dstAlpha := 1, writeMask := 15 }

inductive Standard where
  | shaderProgram (name : String) (stages : List ShaderStage) (layout : UInt64)
      (push : List PushRange)
  | frameAttachments (colors : Nat) (depth : Bool)
  | topology (values : List Int32)
  | blendMode (attachment : UInt64) (modes : List BlendMode)
  | constant (name : String) (stage id : UInt32) (span : Span)
deriving DecidableEq

namespace Standard

def setupProgram (name : String) (stages : List ShaderStage) (layout : UInt64)
    (push : List PushRange) (b : Blueprint) : Blueprint × Option (Trouble ForgeError) :=
  if layout = 0 then (b, some (.error (.setupFailed name "pipeline layout is null")))
  else b.applyAll (stages.map .stage ++ push.map .push ++ [.layout layout])

def attachmentEdits (colors : Nat) (depth : Bool) (frame : FrameSettings) : List Edit :=
  [.attachments (List.replicate colors frame.color) (if depth then some frame.depth else none)
      (if frame.stencil = 0 then none else some frame.stencil),
    .samples frame.samples,
    .colorBlend (List.replicate colors BlendMode.solid.state) {}] ++
    if depth then [] else [.depthTest none false]

def setupAttachments (colors : Nat) (depth : Bool) (frame : FrameSettings) (b : Blueprint) :
    Blueprint × Option (Trouble ForgeError) :=
  if Blueprint.isAddressable colors Blueprint.formatSize then
    b.applyAll (attachmentEdits colors depth frame)
  else (b, some (.fault .capacityOverflow))

/-- The element that a value selects; a negative value counts as a number beyond all lists. -/
def select {α : Type} (items : List α) (value : Int32) : Except Fault α :=
  let place := UInt64.ofInt value.toInt
  match items[place.toNat]? with
  | some item => .ok item
  | none => .error (.outOfBounds items.length place)

def fillTopology (values : List Int32) (value : Int32) (b : Blueprint) :
    Blueprint × Option Fault :=
  match select values value with
  | .ok chosen => ({ b with topology := chosen }, none)
  | .error f => (b, some f)

def fillBlend (attachment : UInt64) (modes : List BlendMode) (value : Int32) (b : Blueprint) :
    Blueprint × Option Fault :=
  match select modes value with
  | .error f => (b, some f)
  | .ok mode =>
    match b.setAttachmentBlend attachment mode.state with
    | .ok b' => (b', none)
    | .error f => (b, some f)

/-- A negative value becomes the word with the same bits. -/
def fillConstant (stage id : UInt32) (value : Int32) (b : Blueprint) : Blueprint × Option Fault :=
  ({ b with constants := b.constants.insert ⟨stage, id⟩ value.toUInt32 }, none)

def placesOf {α : Type} (items : List α) : Except Fault Span :=
  Span.make 0 (Int32.ofNat items.length)

/-- A choice among no states cannot be built. -/
def build : Standard → Except Fault Characteristic
  | shaderProgram name stages layout push =>
    .ok (.ofSetup name fun _ => setupProgram name stages layout push)
  | frameAttachments colors depth =>
    .ok (.ofSetup "frame-attachments" fun context => setupAttachments colors depth context.frame)
  | topology [] => .error .noTopology
  | topology values =>
    (placesOf values).map fun span => .ofFill "topology" span (fillTopology values)
  | blendMode _ [] => .error .noBlendMode
  | blendMode attachment modes =>
    (placesOf modes).map fun span =>
      .ofFill s!"blend-mode-{attachment.toNat}" span (fillBlend attachment modes)
  | constant name stage id span => .ok (.ofFill name span (fillConstant stage id))

end Standard

end PipelineForge
