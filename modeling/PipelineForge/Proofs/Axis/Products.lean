import Mathlib.Algebra.Order.BigOperators.GroupWithZero.List
import Mathlib.Algebra.Order.Ring.Nat
import PipelineForge.Proofs.Axis.Ranking

/-!
# The number of tuples in 64 bits

Sizes are multiplied from the left, and a partial product that leaves the 64-bit numbers is a
fault. The spans of a packing reach 2⁶⁴ only together, when all 64 bits are used and no span leaves
a code unused; for every other packing the count is exact.
-/

namespace PipelineForge.Axis

/-- Since no factor is zero, a partial product that is too large cannot become smaller again. -/
theorem foldlM_product_eq {ns : List Nat} (hPos : ∀ n ∈ ns, 0 < n) {acc : Nat}
    (hAcc : acc < UInt64.size) :
    ns.foldlM (fun acc n =>
        if acc * n < UInt64.size then Except.ok (acc * n) else .error Fault.productOverflow) acc =
      if acc * ns.prod < UInt64.size then .ok (acc * ns.prod) else .error .productOverflow := by
  induction ns generalizing acc with
  | nil =>
    rw [List.prod_nil, Nat.mul_one, if_pos hAcc]
    rfl
  | cons n ns ih =>
    obtain ⟨_, hRest⟩ := List.forall_mem_cons.mp hPos
    rw [List.foldlM_cons, List.prod_cons, ← Nat.mul_assoc]
    by_cases hFits : acc * n < UInt64.size
    · rw [if_pos hFits]
      exact ih hRest hFits
    · have hLarge : acc * n ≤ acc * n * ns.prod := Nat.le_mul_of_pos_right _ (List.prod_pos hRest)
      rw [if_neg hFits, if_neg (by omega)]
      rfl

theorem combinationCount_eq (spans : List Span) :
    combinationCount spans =
      if (spans.map Span.size).prod < UInt64.size then .ok (spans.map Span.size).prod
      else .error .productOverflow := by
  rw [combinationCount, productWithin64, foldlM_product_eq (sizes_pos spans) (by decide),
    Nat.one_mul]

theorem prod_sizes_le (spans : List Span) : (spans.map Span.size).prod ≤ 2 ^ totalWidth spans := by
  rw [← prod_codes]
  exact (forall₂_size_le_codes spans).prod_le_prod'

/-- The product of the sizes reaches the number of codes only if every size does. -/
theorem prod_sizes_eq_iff (spans : List Span) :
    (spans.map Span.size).prod = 2 ^ totalWidth spans ↔ ∀ s ∈ spans, ∃ e, s.size = 2 ^ e := by
  rw [← prod_codes]
  constructor
  · intro hProd
    induction spans with
    | nil => nofun
    | cons s ss ih =>
      rw [List.map_cons, List.map_cons, List.prod_cons, List.prod_cons] at hProd
      have hRest : (ss.map Span.size).prod ≤ (ss.map Span.codes).prod :=
        (forall₂_size_le_codes ss).prod_le_prod'
      have hPos : 0 < (ss.map Span.codes).prod := Nat.lt_of_lt_of_le (prod_sizes_pos ss) hRest
      obtain ⟨hSize, hSizes⟩ :=
        (mul_eq_mul_iff_eq_and_eq_of_pos s.size_le_codes hRest s.size_pos hPos).mp hProd
      exact List.forall_mem_cons.mpr ⟨s.codes_eq_size_iff.mp hSize.symm, ih hSizes⟩
  · intro hPowers
    rw [sizes_eq_codes hPowers]

namespace Packing

/-- All 64 bits are used and every span uses all its codes. -/
def Full (p : Packing) : Prop := p.totalBits = 64 ∧ ∀ s ∈ p.spans, ∃ e, s.size = 2 ^ e

theorem prod_sizes_le_two_pow (p : Packing) : (p.spans.map Span.size).prod ≤ 2 ^ 64 :=
  (prod_sizes_le p.spans).trans (Nat.pow_le_pow_right (by decide) p.fits)

theorem prod_sizes_lt_iff (p : Packing) :
    (p.spans.map Span.size).prod < UInt64.size ↔ ¬ p.Full := by
  have hSize : UInt64.size = 2 ^ 64 := rfl
  have hProd := prod_sizes_le p.spans
  have hBits : 2 ^ totalWidth p.spans ≤ 2 ^ 64 := Nat.pow_le_pow_right (by decide) p.fits
  rw [Full, totalBits, ← prod_sizes_eq_iff, hSize]
  constructor
  · rintro hLess ⟨hWidth, hAll⟩
    rw [hAll, hWidth] at hLess
    exact Nat.lt_irrefl _ hLess
  · intro hNotFull
    by_contra hReached
    have hAll : (p.spans.map Span.size).prod = 2 ^ totalWidth p.spans := by omega
    have hSame : 2 ^ totalWidth p.spans = 2 ^ 64 := by omega
    exact hNotFull ⟨Nat.pow_right_injective (Nat.le_refl 2) hSame, hAll⟩

/-- No partial product of the sizes exceeds the codes of the spans so far. Counting the tuples of a
packing or of an odometer faults exactly if the packing is full; otherwise it gives the exact
number, which the codes bound and the odometer yields. -/
theorem count_faults_iff_full {spans : List Span} {p : Packing} (h : ofSpans spans = .ok p) :
    (∀ n, ((spans.take n).map Span.size).prod ≤ 2 ^ totalWidth (spans.take n)) ∧
    (combinationCount p.spans = .error .productOverflow ↔ p.Full) ∧
    (¬ p.Full →
      combinationCount p.spans = .ok (spans.map Span.size).prod ∧
      (spans.map Span.size).prod ≤ 2 ^ p.totalBits ∧
      (Odometer.start spans).drain.1.length = (spans.map Span.size).prod) ∧
    ∀ k, combinationCount ((Odometer.start spans).advanceBy k).spans =
      combinationCount p.spans := by
  obtain ⟨rfl, _⟩ := ofSpans_cases h
  have hCount := combinationCount_eq p.spans
  refine ⟨fun n => prod_sizes_le _, ⟨fun hFault => ?_, fun hFull => ?_⟩, fun hNotFull => ?_,
    fun k => ?_⟩
  · by_contra hNotFull
    rw [hCount, if_pos (p.prod_sizes_lt_iff.mpr hNotFull)] at hFault
    cases hFault
  · rw [hCount, if_neg]
    exact fun hLess => p.prod_sizes_lt_iff.mp hLess hFull
  · refine ⟨?_, prod_sizes_le p.spans, ?_⟩
    · rw [hCount, if_pos (p.prod_sizes_lt_iff.mpr hNotFull)]
    · rw [Odometer.drain_start, length_tuples]
  · rw [Odometer.spans_advanceBy, Odometer.spans_start]

def brimfulSpans : List Span :=
  [⟨-1, 2147483647, by decide⟩, ⟨-1, 2147483647, by decide⟩, ⟨3, 7, by decide⟩, .single]

/-- Both packings use all 64 bits, but only the second one uses all codes. -/
theorem count_faults_iff_full_brimful :
    (∃ p, ofSpans fullSpans = .ok p ∧
      combinationCount p.spans = .ok 18446744017874976780 ∧
      (Odometer.start fullSpans).drain.1.length = 18446744017874976780) ∧
    ∃ p, ofSpans brimfulSpans = .ok p ∧ combinationCount p.spans = .error .productOverflow := by
  have hBits : totalWidth fullSpans = 64 := by decide +kernel
  have hBits' : totalWidth brimfulSpans = 64 := by decide +kernel
  have hPacking : ofSpans fullSpans = .ok ⟨fullSpans, Nat.le_of_eq hBits⟩ :=
    dif_pos (Nat.le_of_eq hBits)
  have hPacking' : ofSpans brimfulSpans = .ok ⟨brimfulSpans, Nat.le_of_eq hBits'⟩ :=
    dif_pos (Nat.le_of_eq hBits')
  have hProd : (fullSpans.map Span.size).prod = 18446744017874976780 := by decide +kernel
  refine ⟨⟨_, hPacking, ?_⟩, _, hPacking', ?_⟩
  · have hNotFull := (prod_sizes_lt_iff ⟨fullSpans, Nat.le_of_eq hBits⟩).mp
      (hProd ▸ by decide +kernel)
    obtain ⟨_, _, hExact, _⟩ := count_faults_iff_full hPacking
    obtain ⟨hCount, _, hItems⟩ := hExact hNotFull
    exact ⟨hProd ▸ hCount, hProd ▸ hItems⟩
  · obtain ⟨_, hIff, _⟩ := count_faults_iff_full hPacking'
    refine hIff.mpr ⟨hBits', ?_⟩
    rintro s (_ | ⟨_, _ | ⟨_, _ | ⟨_, _ | ⟨_, ⟨⟩⟩⟩⟩⟩)
    · exact ⟨31, by decide +kernel⟩
    · exact ⟨31, by decide +kernel⟩
    · exact ⟨2, by decide⟩
    · exact ⟨0, by decide⟩

end Packing

end PipelineForge.Axis
