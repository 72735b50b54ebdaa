import PipelineForge.Axis.Index

/-!
# Faults

A fault unwinds the work that meets it, unlike an error, which is an answer. Every fault has
one text.
-/

namespace PipelineForge

inductive Fault where
  | emptySpan
  | noTopology
  | noBlendMode
  | sumOverflow
  | productOverflow
  /-- A list would be larger than the memory that can be addressed. -/
  | capacityOverflow
  | outOfBounds (length : Nat) (place : UInt64)
  /-- A tuple has another number of values than there are axes. -/
  | arity (values axes : Nat)
  | generatedTwice (factory : String) (index : Axis.CompositeIndex)
  | custom (text : String)
deriving DecidableEq

def Fault.message : Fault → String
  | emptySpan => "IndexRange requires end > begin"
  | noTopology => "TopologyRange requires at least one topology"
  | noBlendMode => "BlendModeRange requires at least one mode"
  | sumOverflow => "attempt to add with overflow"
  | productOverflow => "attempt to multiply with overflow"
  | capacityOverflow => "capacity overflow"
  | outOfBounds length place =>
    s!"index out of bounds: the len is {length} but the index is {place.toNat}"
  | arity values axes =>
    "assertion `left == right` failed: one value per characteristic is required\n" ++
      s!"  left: {values}\n right: {axes}"
  | generatedTwice factory index => s!"factory `{factory}` generated pipeline {index.text} twice"
  | custom text => text

/-- The two ways in which work can stop: with an error for the caller, or with a fault. -/
inductive Trouble (ε : Type) where
  | error (e : ε)
  | fault (f : Fault)
deriving DecidableEq

namespace Axis

def Span.make (lo hi : Int32) : Except Fault Span :=
  if h : lo < hi then .ok ⟨lo, hi, h⟩ else .error .emptySpan

end Axis

end PipelineForge
