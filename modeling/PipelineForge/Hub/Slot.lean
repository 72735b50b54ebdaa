import PipelineForge.Pipeline

/-!
# Slots

A slot holds the pipelines that were delivered to it, the last one for each index, and counts
all deliveries.
-/

namespace PipelineForge

open Axis

structure Slot where
  /-- One entry per index, in the order of the first deliveries. -/
  pipelines : List (CompositeIndex × Pipeline) := []
  accepted : Nat := 0
deriving DecidableEq

namespace Slot

def get? (s : Slot) (i : CompositeIndex) : Option Pipeline := s.pipelines.lookup i

def size (s : Slot) : Nat := s.pipelines.length

def put (p : Pipeline) : List (CompositeIndex × Pipeline) → List (CompositeIndex × Pipeline)
  | [] => [(p.index, p)]
  | e :: es => if e.1 = p.index then (p.index, p) :: es else e :: put p es

def accept (s : Slot) (p : Pipeline) : Slot := ⟨put p s.pipelines, s.accepted + 1⟩

/-- Whether the slot holds another pipeline with the index of this one. -/
def displacedBy (s : Slot) (p : Pipeline) : Bool := (s.get? p.index).any (· ≠ p)

def sorted (s : Slot) : List (CompositeIndex × Pipeline) :=
  s.pipelines.mergeSort fun a b => a.1.raw ≤ b.1.raw

theorem lookup_put (p : Pipeline) (i : CompositeIndex) (es : List (CompositeIndex × Pipeline)) :
    (put p es).lookup i = if i = p.index then some p else es.lookup i := by
  induction es with
  | nil =>
    by_cases h : i = p.index
    · simp [put, h]
    · simp [put, List.lookup_cons, h, beq_eq_false_iff_ne.mpr h]
  | cons e es ih =>
    obtain ⟨j, q⟩ := e
    by_cases hj : j = p.index
    · by_cases h : i = p.index
      · simp [put, hj, h]
      · simp [put, List.lookup_cons, hj, h, beq_eq_false_iff_ne.mpr h]
    · by_cases h : i = j
      · simp [put, hj, h]
      · simp [put, List.lookup_cons, hj, ih, beq_eq_false_iff_ne.mpr h]

theorem get?_accept (s : Slot) (p : Pipeline) (i : CompositeIndex) :
    (s.accept p).get? i = if i = p.index then some p else s.get? i := lookup_put p i s.pipelines

end Slot

end PipelineForge
