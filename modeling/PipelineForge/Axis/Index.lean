import PipelineForge.Axis.Span

/-!
# Composite indices

A composite index numbers one combination of axis values. It is built axis by axis: each axis
shifts the index by its width and puts the offset of its value into the freed low bits. Bits
shifted out of the 64 are lost.
-/

namespace PipelineForge.Axis

structure CompositeIndex where
  raw : UInt64
deriving DecidableEq, Inhabited

/-- A value that an axis was given although its span does not hold it. -/
structure Violation where
  value : Int32
  lo : Int32
  hi : Int32
deriving DecidableEq

def Violation.message (v : Violation) : String :=
  s!"index {v.value.toInt} is outside of [{v.lo.toInt}, {v.hi.toInt})"

namespace CompositeIndex

def zero : CompositeIndex := ⟨0⟩

/-- The written form, a number sign and the decimal number. -/
def text (i : CompositeIndex) : String := s!"#{i.raw.toNat}"

def push (i : CompositeIndex) (width : Nat) (offset : UInt64) : CompositeIndex :=
  ⟨(i.raw <<< UInt64.ofNat width) ||| offset⟩

/-- The number held by the lowest bits. -/
def low (i : CompositeIndex) (width : Nat) : Nat := i.raw.toNat % (1 <<< width)

def drop (i : CompositeIndex) (width : Nat) : CompositeIndex := ⟨i.raw >>> UInt64.ofNat width⟩

/-- Appends the value of one axis; a value outside of the span leaves no index. -/
def extend (i : CompositeIndex) (s : Span) (v : Int32) : Except Violation CompositeIndex :=
  if v ∈ s then .ok (i.push s.width (UInt64.ofNat (s.offset v)))
  else .error ⟨v, s.lo, s.hi⟩

/-- Appends the value of one axis in place: an index that cannot be extended stays as it is. -/
def update (i : CompositeIndex) (s : Span) (v : Int32) : CompositeIndex × Except Violation Unit :=
  match i.extend s v with
  | .ok j => (j, .ok ())
  | .error e => (i, .error e)

theorem extend_of_mem {s : Span} {v : Int32} (i : CompositeIndex) (h : v ∈ s) :
    i.extend s v = .ok (i.push s.width (UInt64.ofNat (s.offset v))) := if_pos h

theorem extend_of_not_mem {s : Span} {v : Int32} (i : CompositeIndex) (h : v ∉ s) :
    i.extend s v = .error ⟨v, s.lo, s.hi⟩ := if_neg h

end CompositeIndex

end PipelineForge.Axis
