import PipelineForge.Axis.Packing

/-!
# Odometers

An odometer enumerates the tuples over a list of spans. Each wheel shows a value of its span;
the last wheel turns fastest and carries to the left. After the last tuple all wheels are back
at their lower bounds and the odometer stands still. With no wheels there is one empty tuple.
-/

namespace PipelineForge.Axis

structure Wheel where
  span : Span
  value : Int32
  value_mem : value ∈ span
deriving DecidableEq

namespace Wheel

def atStart (s : Span) : Wheel := ⟨s, s.lo, s.lo_mem⟩

theorem succ_mem {w : Wheel} (h : w.value + 1 < w.span.hi) : w.value + 1 ∈ w.span := by
  have hlo := Int32.le_iff_toInt_le.mp w.value_mem.1
  have hhi := Int32.lt_iff_toInt_lt.mp w.value_mem.2
  have hmax := w.span.hi.toInt_lt
  have hmin := w.value.le_toInt
  have hsucc : (w.value + 1).toInt = w.value.toInt + 1 := by
    rw [Int32.toInt_add]
    exact Int.bmod_eq_of_le (by simp; omega) (by simp; omega)
  exact ⟨Int32.le_iff_toInt_le.mpr (by omega), h⟩

/-- The wheel one value further, unless it shows its last value. -/
def next? (w : Wheel) : Option Wheel :=
  if h : w.value + 1 < w.span.hi then some ⟨w.span, w.value + 1, succ_mem h⟩ else none

def reset (w : Wheel) : Wheel := atStart w.span

end Wheel

structure Odometer where
  wheels : List Wheel
  finished : Bool
deriving DecidableEq

namespace Odometer

def start (spans : List Span) : Odometer := ⟨spans.map Wheel.atStart, false⟩

def spans (o : Odometer) : List Span := o.wheels.map Wheel.span

def current (o : Odometer) : List Int32 := o.wheels.map Wheel.value

/-- Turns the last wheel by one value and carries to the left; the flag tells that the carry
left the first wheel. -/
def turn : List Wheel → List Wheel × Bool
  | [] => ([], true)
  | w :: ws =>
    match turn ws with
    | (ws', false) => (w :: ws', false)
    | (ws', true) =>
      match w.next? with
      | some w' => (w' :: ws', false)
      | none => (w.reset :: ws', true)

def advance (o : Odometer) : Odometer :=
  if o.finished then o
  else
    let (ws, carry) := turn o.wheels
    ⟨ws, carry⟩

/-- The current tuple with the odometer behind it; nothing once the odometer is finished. -/
def next? (o : Odometer) : Option (List Int32 × Odometer) :=
  if o.finished then none else some (o.current, o.advance)

def advanceBy (o : Odometer) : Nat → Odometer
  | 0 => o
  | n + 1 => o.advance.advanceBy n

/-- At most the given number of further tuples, and the odometer behind them. -/
def take (o : Odometer) : Nat → List (List Int32) × Odometer
  | 0 => ([], o)
  | n + 1 =>
    match o.next? with
    | none => ([], o)
    | some (tuple, o') =>
      let (tuples, o'') := o'.take n
      (tuple :: tuples, o'')

/-- The place of the shown tuple in the enumeration, and the number of all tuples. -/
def rank : List Wheel → Nat × Nat
  | [] => (0, 1)
  | w :: ws =>
    let (r, n) := rank ws
    (w.span.offset w.value * n + r, w.span.size * n)

def left (o : Odometer) : Nat :=
  if o.finished then 0 else (rank o.wheels).2 - (rank o.wheels).1

/-- All further tuples, and the odometer behind them. -/
def drain (o : Odometer) : List (List Int32) × Odometer := o.take o.left

theorem advance_of_finished {o : Odometer} (h : o.finished = true) : o.advance = o := if_pos h

theorem take_of_finished {o : Odometer} (h : o.finished = true) (n : Nat) : o.take n = ([], o) := by
  cases n <;> simp [take, next?, h]

end Odometer

end PipelineForge.Axis
