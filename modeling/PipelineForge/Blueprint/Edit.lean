import PipelineForge.Blueprint.Basic
import PipelineForge.Error

/-!
# Edits of a blueprint

An edit sets one part of a blueprint. Only two edits can fail, and these change nothing then: a
push constant range that clashes with an earlier one or ends beyond the 32-bit numbers, and a
blend state for an attachment whose number is too large for a list of states.
-/

namespace PipelineForge

inductive Edit where
  | stage (s : ShaderStage)
  | constant (stage id value : UInt32)
  | bindings (items : List VertexBinding)
  | attributes (items : List VertexAttribute)
  | topology (value : Int32)
  | polygonMode (value : Int32)
  | cull (mode : UInt32) (front : Int32)
  | lineWidth (bits : UInt32)
  | samples (value : UInt32)
  | attachments (color : List Int32) (depth stencil : Option Int32)
  | depthTest (compare : Option Int32) (write : Bool)
  | colorBlend (states : List BlendState) (constants : Quad)
  | attachmentBlend (attachment : UInt64) (state : BlendState)
  | dynamicStates (states : List Int32)
  | layout (value : UInt64)
  | push (range : PushRange)
deriving DecidableEq

namespace Blueprint

def attach (b : Blueprint) (color : List Int32) (depth stencil : Option Int32) : Blueprint :=
  { b with
    colorFormats := color
    depthFormat := depth.getD 0
    stencilFormat := stencil.getD 0 }

/-- Without a comparison the test is off and its comparison is "never". -/
def setDepthTest (b : Blueprint) (compare : Option Int32) (write : Bool) : Blueprint :=
  { b with
    depthTest := compare.isSome
    depthCompare := compare.getD 0
    depthWrite := write }

/-- Sets the blend state of one attachment; states below it that are not there yet become
default states. Every list of less than 2⁶³ bytes finds its memory, and no space beside it is kept
for later. -/
def setAttachmentBlend (b : Blueprint) (attachment : UInt64) (state : BlendState) :
    Except Fault Blueprint :=
  let grows := b.blendStates.length ≤ attachment.toNat
  if grows ∧ attachment.toNat + 1 = UInt64.size then .error .sumOverflow
  else if grows ∧ ¬ isAddressable (attachment.toNat + 1) blendSize then .error .capacityOverflow
  else .ok { b with blendStates := putBlend attachment.toNat state b.blendStates }

def insertPush (b : Blueprint) (range : PushRange) : Except (Trouble ForgeError) Blueprint :=
  match range.insert b.pushRanges with
  | .ok ranges => .ok { b with pushRanges := ranges }
  | .error (.error old) => .error (.error (.pushConflict old range))
  | .error (.fault x) => .error (.fault x)

def apply (b : Blueprint) : Edit → Except (Trouble ForgeError) Blueprint
  | .stage s => .ok { b with stages := putStage s b.stages }
  | .constant stage id value => .ok { b with constants := b.constants.insert ⟨stage, id⟩ value }
  | .bindings items => .ok { b with bindings := items }
  | .attributes items => .ok { b with attributes := items }
  | .topology value => .ok { b with topology := value }
  | .polygonMode value => .ok { b with polygonMode := value }
  | .cull mode front => .ok { b with cullMode := mode, frontFace := front }
  | .lineWidth bits => .ok { b with lineWidth := bits }
  | .samples value => .ok { b with samples := value }
  | .attachments color depth stencil => .ok (b.attach color depth stencil)
  | .depthTest compare write => .ok (b.setDepthTest compare write)
  | .colorBlend states constants =>
    .ok { b with blendStates := states, blendConstants := constants }
  | .attachmentBlend attachment state =>
    (b.setAttachmentBlend attachment state).mapError .fault
  | .dynamicStates states => .ok { b with dynamicStates := states }
  | .layout value => .ok { b with layout := value }
  | .push range => b.insertPush range

/-- Makes edits one after the other up to the first that fails, and keeps those before it. -/
def applyAll (b : Blueprint) : List Edit → Blueprint × Option (Trouble ForgeError)
  | [] => (b, none)
  | e :: es =>
    match b.apply e with
    | .ok b' => b'.applyAll es
    | .error t => (b, some t)

end Blueprint

end PipelineForge
