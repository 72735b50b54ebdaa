import PipelineForge.Blueprint.Basic
import PipelineForge.Digest

/-!
# Fingerprints of blueprints

The fingerprint of a blueprint is the digest of its tokens. The tokens name every field once, in
a fixed order. The stage list, the constants and the blend constants are preceded by their
number; the other lists are not.
-/

namespace PipelineForge.Blueprint

open Digest (Token)

def u32 (w : UInt32) : Token := .word w.toUInt64

def i32 (v : Int32) : Token := .word v.toUInt32.toUInt64

def flag (b : Bool) : Token := .word (if b then 1 else 0)

def count (n : Nat) : Token := .word (UInt64.ofNat n)

def littleEndianBytes (w : UInt32) : List UInt8 :=
  [w.toUInt8, (w >>> 8).toUInt8, (w >>> 16).toUInt8, (w >>> 24).toUInt8]

/-- A text ends with a zero byte, which its length counts. -/
def textTokens (s : String) : List Token :=
  let bs := s.toUTF8.toList ++ [0]
  [count bs.length, .bytes bs]

def stageTokens (s : ShaderStage) : List Token :=
  u32 s.stage :: .word s.shader :: textTokens s.entry

def constantTokens (c : ConstantKey × UInt32) : List Token := [u32 c.1.stage, u32 c.1.id, u32 c.2]

def bindingTokens (v : VertexBinding) : List Token := [u32 v.binding, u32 v.stride, i32 v.inputRate]

def attributeTokens (v : VertexAttribute) : List Token :=
  [u32 v.location, u32 v.binding, i32 v.format, u32 v.offset]

def blendTokens (s : BlendState) : List Token :=
  [u32 s.enable, i32 s.srcColor, i32 s.dstColor, i32 s.colorOp, i32 s.srcAlpha, i32 s.dstAlpha,
    i32 s.alphaOp, u32 s.writeMask]

def quadTokens (q : Quad) : List Token :=
  [count 4, .bytes ([q.r, q.g, q.b, q.a].flatMap littleEndianBytes)]

def pushTokens (r : PushRange) : List Token := [u32 r.stages, u32 r.offset, u32 r.size]

def tokens (b : Blueprint) : List Token :=
  count b.stages.length :: b.stages.flatMap stageTokens ++
  count b.constants.entries.length :: b.constants.entries.flatMap constantTokens ++
  b.bindings.flatMap bindingTokens ++
  b.attributes.flatMap attributeTokens ++
  [i32 b.topology, i32 b.polygonMode, u32 b.cullMode, i32 b.frontFace, u32 b.lineWidth,
    u32 b.samples] ++
  b.colorFormats.map i32 ++
  [i32 b.depthFormat, i32 b.stencilFormat, flag b.depthTest, flag b.depthWrite,
    i32 b.depthCompare] ++
  b.blendStates.flatMap blendTokens ++
  quadTokens b.blendConstants ++
  b.dynamicStates.map i32 ++
  b.pushRanges.flatMap pushTokens ++
  [.word b.layout]

def fingerprint (b : Blueprint) : UInt64 := Digest.ofTokens b.tokens

end PipelineForge.Blueprint
