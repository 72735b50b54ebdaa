/-!
# Spans of axis values

A span is a nonempty interval of 32-bit values, closed below and open above. It has as many
values as the difference of its bounds, and its width is the number of bits that hold the
offset of any of them. A span of one value needs no bits.
-/

namespace PipelineForge.Axis

structure Span where
  lo : Int32
  hi : Int32
  lo_lt_hi : lo < hi
deriving DecidableEq

/-- The number of binary digits of a number, with none for zero. -/
def bitLength (n : Nat) : Nat := if n = 0 then 0 else n.log2 + 1

namespace Span

instance : Membership Int32 Span := ⟨fun s v => s.lo ≤ v ∧ v < s.hi⟩

theorem mem_iff {s : Span} {v : Int32} : v ∈ s ↔ s.lo ≤ v ∧ v < s.hi := Iff.rfl

instance (s : Span) (v : Int32) : Decidable (v ∈ s) :=
  inferInstanceAs (Decidable (s.lo ≤ v ∧ v < s.hi))

def single : Span := ⟨0, 1, by decide⟩

def size (s : Span) : Nat := (s.hi.toInt - s.lo.toInt).toNat

def width (s : Span) : Nat := bitLength (s.size - 1)

/-- The distance of a value from the lower bound; zero below it. -/
def offset (s : Span) (v : Int32) : Nat := (v.toInt - s.lo.toInt).toNat

/-- The value at a distance from the lower bound, around the end of the 32-bit values if need be. -/
def value (s : Span) (k : Nat) : Int32 := Int32.ofInt (s.lo.toInt + k)

theorem lo_mem (s : Span) : s.lo ∈ s := ⟨Int32.le_refl _, s.lo_lt_hi⟩

theorem toInt_lo_lt (s : Span) : s.lo.toInt < s.hi.toInt := Int32.lt_iff_toInt_lt.mp s.lo_lt_hi

theorem size_pos (s : Span) : 0 < s.size := by
  have := s.toInt_lo_lt
  simp only [size]
  omega

theorem offset_lt_size {s : Span} {v : Int32} (h : v ∈ s) : s.offset v < s.size := by
  have hlo := Int32.le_iff_toInt_le.mp h.1
  have hhi := Int32.lt_iff_toInt_lt.mp h.2
  simp only [offset, size]
  omega

theorem value_offset {s : Span} {v : Int32} (h : v ∈ s) : s.value (s.offset v) = v := by
  have hlo := Int32.le_iff_toInt_le.mp h.1
  have hback : s.lo.toInt + (s.offset v : Int) = v.toInt := by
    simp only [offset]
    omega
  rw [value, hback, Int32.ofInt_toInt]

end Span

end PipelineForge.Axis
