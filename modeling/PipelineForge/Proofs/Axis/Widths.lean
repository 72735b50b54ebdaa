import PipelineForge.Fault
import PipelineForge.Proofs.Axis.Fields

/-!
# Widths of spans

The width of a span is the least number of bits that has a code for each of its values. Whatever an
index holds already, appending a value is multiplying by the number of codes and adding the offset,
as far as 64 bits hold the result. What a list of spans does to an index is not looked at.
-/

namespace PipelineForge.Axis

namespace Span

theorem size_le_two_pow_iff (s : Span) (e : Nat) : s.size ≤ 2 ^ e ↔ s.width ≤ e := by
  constructor
  · intro hSize
    have hPos := s.size_pos
    exact bitLength_le (by omega)
  · intro hWidth
    exact s.size_le_codes.trans (Nat.pow_le_pow_right (by decide) hWidth)

theorem two_pow_pred_width_lt {s : Span} (h : 1 < s.size) : 2 ^ (s.width - 1) < s.size := by
  have hWidth : ¬ s.width ≤ 0 := fun hNone => Nat.not_lt.mpr ((s.size_le_two_pow_iff 0).mpr hNone) h
  apply Nat.not_le.mp
  rw [size_le_two_pow_iff]
  omega

theorem width_eq_zero_iff (s : Span) : s.width = 0 ↔ s.size = 1 := by
  have hPos := s.size_pos
  have hLeast := s.size_le_two_pow_iff 0
  omega

theorem offset_lt_codes {s : Span} {v : Int32} (h : v ∈ s) : s.offset v < s.codes :=
  (offset_lt_size h).trans_le s.size_le_codes

theorem natCast_size (s : Span) : (s.size : Int) = s.hi.toInt - s.lo.toInt := by
  have hLess := s.toInt_lo_lt
  rw [size]
  omega

theorem natCast_offset {s : Span} {v : Int32} (h : v ∈ s) :
    (s.offset v : Int) = v.toInt - s.lo.toInt := by
  have hLo := Int32.le_iff_toInt_le.mp h.1
  rw [offset]
  omega

theorem make_of_lt {lo hi : Int32} (h : lo < hi) :
    ∃ s, make lo hi = .ok s ∧ s.lo = lo ∧ s.hi = hi := ⟨_, dif_pos h, rfl, rfl⟩

end Span

namespace CompositeIndex

theorem shiftLeft_and_offset (raw : UInt64) {width offset : Nat} (hWidth : width ≤ 32)
    (hOffset : offset < 2 ^ width) :
    raw <<< UInt64.ofNat width &&& UInt64.ofNat offset = 0 := by
  have hShift : width % 2 ^ 64 % 64 = width := by omega
  apply UInt64.toNat_inj.mp
  rw [UInt64.toNat_and, UInt64.toNat_shiftLeft, UInt64.toNat_ofNat', UInt64.toNat_ofNat', hShift]
  apply Nat.eq_of_testBit_eq
  intro bit
  rw [Nat.testBit_and, Nat.testBit_mod_two_pow, Nat.testBit_mod_two_pow, Nat.testBit_shiftLeft]
  by_cases hBit : width ≤ bit
  · have hBound : offset < 2 ^ bit := hOffset.trans_le (Nat.pow_le_pow_right (by decide) hBit)
    rw [Nat.testBit_lt_two_pow hBound]
    simp
  · simp [hBit]

theorem update_of_mem {s : Span} {v : Int32} (i : CompositeIndex) (h : v ∈ s) :
    i.update s v = (⟨UInt64.ofNat (i.raw.toNat * s.codes + s.offset v)⟩, .ok ()) := by
  rw [update, extend_of_mem i h, push_eq i s.width_le (Span.offset_lt_codes h)]
  rfl

theorem update_of_not_mem {s : Span} {v : Int32} (i : CompositeIndex) (h : v ∉ s) :
    i.update s v = (i, .error ⟨v, s.lo, s.hi⟩) := by
  rw [update, extend_of_not_mem i h]

end CompositeIndex

namespace Span

/-- Any two bounds in order give a span with the least width that has codes for all its values, and
updating an index appends a value in that many bits, or refuses it and leaves the index alone. -/
theorem width_exact {lo hi : Int32} (h : lo < hi) :
    ∃ s, make lo hi = .ok s ∧ s.lo = lo ∧ s.hi = hi ∧
      (s.size : Int) = hi.toInt - lo.toInt ∧
      s.size ≤ 2 ^ s.width ∧
      (1 < s.size → 2 ^ (s.width - 1) < s.size) ∧
      s.width ≤ 32 ∧
      (s.width = 0 ↔ s.size = 1) ∧
      ∀ v : Int32,
        (lo ≤ v ∧ v < hi →
          (s.offset v : Int) = v.toInt - lo.toInt ∧ s.offset v < 2 ^ s.width ∧
          ∀ i : CompositeIndex,
            i.raw <<< UInt64.ofNat s.width &&& UInt64.ofNat (s.offset v) = 0 ∧
            ∃ j, i.update s v = (j, .ok ()) ∧
              (j.raw.toNat : Int) =
                (i.raw.toNat * 2 ^ s.width + (v.toInt - lo.toInt)) % 2 ^ 64) ∧
        (¬ (lo ≤ v ∧ v < hi) →
          ∀ i : CompositeIndex, i.update s v = (i, .error ⟨v, lo, hi⟩)) := by
  obtain ⟨s, hMake, rfl, rfl⟩ := make_of_lt h
  refine ⟨s, hMake, rfl, rfl, s.natCast_size, s.size_le_codes, two_pow_pred_width_lt, s.width_le,
    s.width_eq_zero_iff, fun v => ⟨fun hMem => ?_, fun hMem i => ?_⟩⟩
  · have hOffset : s.offset v < 2 ^ s.width := offset_lt_codes hMem
    have hCast := natCast_offset hMem
    refine ⟨hCast, hOffset, fun i => ⟨?_, _, CompositeIndex.update_of_mem i hMem, ?_⟩⟩
    · exact CompositeIndex.shiftLeft_and_offset i.raw s.width_le hOffset
    · rw [UInt64.toNat_ofNat', ← hCast, codes, Int.natCast_emod, Int.natCast_add, Int.natCast_mul,
        Int.natCast_pow, Int.natCast_pow]
      rfl
  · exact CompositeIndex.update_of_not_mem i hMem

/-- The widest span that leaves out a value: appending its last value moves the 32 low bits of an
index up and loses the others, and the value that it leaves out is refused. -/
theorem width_exact_widest :
    (-2147483648 : Int32) < 2147483647 ∧
    ∃ s, make (-2147483648) 2147483647 = .ok s ∧ s.size = 4294967295 ∧ s.width = 32 ∧
      (⟨0x123456789abcdef0⟩ : CompositeIndex).update s 2147483646 =
        (⟨0x9abcdef0fffffffe⟩, .ok ()) ∧
      (⟨0x123456789abcdef0⟩ : CompositeIndex).update s 2147483647 =
        (⟨0x123456789abcdef0⟩, .error ⟨2147483647, -2147483648, 2147483647⟩) := by
  have hBounds : (-2147483648 : Int32) < 2147483647 := by decide
  obtain ⟨s, hMake, _, _, hSize, hFits, hTight, hWidth, _, hUpdate⟩ := width_exact hBounds
  have hSize : s.size = 4294967295 := Int.ofNat_inj.mp hSize
  have hWidth : s.width = 32 := by
    have hLeast := (s.size_le_two_pow_iff 31).not.mp (by rw [hSize]; decide)
    omega
  obtain ⟨_, _, hAppend⟩ := (hUpdate 2147483646).1 (by decide)
  obtain ⟨_, j, hJ, hRaw⟩ := hAppend ⟨0x123456789abcdef0⟩
  rw [hWidth] at hRaw
  have hJRaw : j = ⟨0x9abcdef0fffffffe⟩ :=
    congrArg CompositeIndex.mk (UInt64.toNat_inj.mp (Int.ofNat_inj.mp hRaw))
  exact ⟨hBounds, s, hMake, hSize, hWidth, hJRaw ▸ hJ,
    (hUpdate 2147483647).2 (by decide) ⟨0x123456789abcdef0⟩⟩

end Span

end PipelineForge.Axis
