import PipelineForge.Fault

/-!
# Packings

A packing is a list of spans whose widths add up to at most 64 bits, so that one composite
index holds a value of each of them, the first axis in the highest bits. Encoding appends the
axes in order and stops at the first value outside of its span. Decoding takes the fields off
from the last axis and ignores the bits above the first one.
-/

namespace PipelineForge.Axis

def totalWidth (spans : List Span) : Nat := (spans.map Span.width).foldr (· + ·) 0

/-- The product of the numbers, taken from the left; it faults as soon as a partial product
leaves the 64-bit numbers. -/
def productWithin64 (sizes : List Nat) : Except Fault Nat :=
  sizes.foldlM (fun acc n =>
    if acc * n < UInt64.size then .ok (acc * n) else .error .productOverflow) 1

def combinationCount (spans : List Span) : Except Fault Nat :=
  productWithin64 (spans.map Span.size)

structure Packing where
  spans : List Span
  fits : totalWidth spans ≤ 64
deriving DecidableEq

namespace Packing

/-- The packing of the spans, or the number of bits that they would need. That is a plain number: it
takes 2²⁷ spans to bring it to 2³², where a sum of 32 bits would be a fault. -/
def ofSpans (spans : List Span) : Except Nat Packing :=
  if h : totalWidth spans ≤ 64 then .ok ⟨spans, h⟩ else .error (totalWidth spans)

def totalBits (p : Packing) : Nat := totalWidth p.spans

def extendAll (i : CompositeIndex) : List Span → List Int32 → Except Violation CompositeIndex
  | s :: ss, v :: vs =>
    match i.extend s v with
    | .ok j => extendAll j ss vs
    | .error e => .error e
  | _, _ => .ok i

def encode (p : Packing) (tuple : List Int32) : Except (Trouble Violation) CompositeIndex :=
  if tuple.length = p.spans.length then
    (extendAll .zero p.spans tuple).mapError .error
  else .error (.fault (.arity tuple.length p.spans.length))

/-- Takes one field per span off the low end of the index, the last span first, and gives the
values with what is left of the index. -/
def takeFields : List Span → CompositeIndex → List Int32 × CompositeIndex
  | [], i => ([], i)
  | s :: ss, i =>
    let (vs, rest) := takeFields ss i
    (s.value (rest.low s.width) :: vs, rest.drop s.width)

def decode (p : Packing) (i : CompositeIndex) : List Int32 := (takeFields p.spans i).1

end Packing

end PipelineForge.Axis
