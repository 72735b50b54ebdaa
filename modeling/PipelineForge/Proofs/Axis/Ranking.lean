import PipelineForge.Proofs.Axis.Counting
import PipelineForge.Proofs.Axis.Fields

/-!
# Indices in the order of the enumeration

A tuple that comes before another one has the smaller index. The indices of an enumeration
therefore ascend, from zero on, and none is smaller than its place. Every span after the first one
that leaves codes unused makes them skip numbers; without such a span they count the places. How
many tuples there are is not looked at.
-/

namespace PipelineForge.Axis

namespace Span

variable {s : Span}

theorem value_lt_value_iff {j k : Nat} (hj : j < s.size) (hk : k < s.size) :
    s.value j < s.value k ↔ j < k := by
  rw [Int32.lt_iff_toInt_lt, toInt_value hj, toInt_value hk]
  omega

theorem value_inj {j k : Nat} (hj : j < s.size) (hk : k < s.size) :
    s.value j = s.value k ↔ j = k := by
  constructor
  · intro h
    rw [← offset_value hj, h, offset_value hk]
  · rintro rfl
    rfl

end Span

theorem values_lt_values_iff {spans : List Span} {ds es : List Nat}
    (hd : List.Forall₂ (· < ·) ds (spans.map Span.size))
    (he : List.Forall₂ (· < ·) es (spans.map Span.size)) :
    List.zipWith Span.value spans ds < List.zipWith Span.value spans es ↔ ds < es := by
  induction spans generalizing ds es with
  | nil =>
    cases hd
    cases he
    simp
  | cons s ss ih =>
    cases hd with
    | @cons d _ ds _ hFirst hds =>
      cases he with
      | @cons e _ es _ hFirst' hes =>
        rw [List.zipWith_cons_cons, List.zipWith_cons_cons, List.cons_lt_cons_iff,
          List.cons_lt_cons_iff, Span.value_lt_value_iff hFirst hFirst',
          Span.value_inj hFirst hFirst', ih hds hes]

theorem forall₂_size_le_codes (spans : List Span) :
    List.Forall₂ (· ≤ ·) (spans.map Span.size) (spans.map Span.codes) := by
  rw [List.forall₂_map_left_iff, List.forall₂_map_right_iff, List.forall₂_same]
  exact fun s _ => s.size_le_codes

theorem sizes_eq_codes {spans : List Span} (h : ∀ s ∈ spans, ∃ e, s.size = 2 ^ e) :
    spans.map Span.size = spans.map Span.codes := by
  apply List.map_congr_left
  exact fun s hs => (s.codes_eq_size_iff.mpr (h s hs)).symm

theorem lt_codes_of_lt_size {spans : List Span} {ds : List Nat}
    (h : List.Forall₂ (· < ·) ds (spans.map Span.size)) :
    List.Forall₂ (· < ·) ds (spans.map Span.codes) := by
  rw [List.forall₂_map_right_iff] at h ⊢
  exact h.imp fun _ s hd => Nat.lt_of_lt_of_le hd s.size_le_codes

def codeAt (spans : List Span) (k : Nat) : Nat :=
  compose (spans.map Span.codes) (digits (spans.map Span.size) k)

theorem codeAt_zero (spans : List Span) : codeAt spans 0 = 0 := compose_digits_zero _ _

section

variable {spans : List Span} {k : Nat}

theorem place_eq (hk : k < (spans.map Span.size).prod) :
    k = compose (spans.map Span.size) (digits (spans.map Span.size) k) := by
  rw [compose_digits, Nat.mod_eq_of_lt hk]

theorem le_codeAt (hk : k < (spans.map Span.size).prod) : k ≤ codeAt spans k :=
  calc k = compose (spans.map Span.size) (digits (spans.map Span.size) k) := place_eq hk
    _ ≤ codeAt spans k := compose_le_compose (forall₂_size_le_codes spans) _

theorem codeAt_eq (hk : k < (spans.map Span.size).prod)
    (hTail : ∀ s ∈ spans.tail, ∃ e, s.size = 2 ^ e) : codeAt spans k = k := by
  have hRadices : (spans.map Span.codes).tail = (spans.map Span.size).tail := by
    rw [← List.map_tail, ← List.map_tail, sizes_eq_codes hTail]
  rw [codeAt, compose_of_tail_eq (by simp) hRadices, ← place_eq hk]

end

namespace Packing

theorem encode_distances (p : Packing) {ds : List Nat}
    (hSizes : List.Forall₂ (· < ·) ds (p.spans.map Span.size)) :
    ∃ i, p.encode (List.zipWith Span.value p.spans ds) = .ok i ∧
      i.raw.toNat = compose (p.spans.map Span.codes) ds := by
  have hCodes := lt_codes_of_lt_size hSizes
  have hFits := (misfit?_eq_none_iff (by simpa using hSizes.length_eq)).mpr hSizes
  refine ⟨⟨UInt64.ofNat (compose (p.spans.map Span.codes) ds)⟩, ?_, ?_⟩
  · rw [encode_values hCodes, hFits]
  · rw [UInt64.toNat_ofNat']
    exact Nat.mod_eq_of_lt (Nat.lt_of_lt_of_le (compose_lt hCodes) p.prod_codes_le)

theorem raw_lt_raw_iff (p : Packing) {t u : List Int32} (ht : List.Forall₂ (· ∈ ·) t p.spans)
    (hu : List.Forall₂ (· ∈ ·) u p.spans) :
    ∃ i j, p.encode t = .ok i ∧ p.encode u = .ok j ∧ (i.raw < j.raw ↔ t < u) := by
  obtain ⟨ds, rfl, hCodes, hSizes⟩ := distances ht
  obtain ⟨es, rfl, hCodes', hSizes'⟩ := distances hu
  obtain ⟨i, hi, hRaw⟩ := p.encode_distances hSizes
  obtain ⟨j, hj, hRaw'⟩ := p.encode_distances hSizes'
  refine ⟨i, j, hi, hj, ?_⟩
  rw [UInt64.lt_iff_toNat_lt, hRaw, hRaw', compose_lt_compose_iff hCodes hCodes',
    values_lt_values_iff hSizes hSizes']

theorem encode_tupleAt (p : Packing) (k : Nat) :
    ∃ i, p.encode (tupleAt p.spans k) = .ok i ∧ i.raw.toNat = codeAt p.spans k :=
  p.encode_distances (digits_lt (sizes_pos p.spans) k)

theorem exists_indices (p : Packing) :
    ∃ all : List CompositeIndex, (tuples p.spans).map p.encode = all.map .ok := by
  suffices h : ∀ ts : List (List Int32), (∀ t ∈ ts, List.Forall₂ (· ∈ ·) t p.spans) →
      ∃ all : List CompositeIndex, ts.map p.encode = all.map .ok from
    h _ fun _ ht => mem_tuples.mp ht
  intro ts hInside
  induction ts with
  | nil => exact ⟨[], rfl⟩
  | cons t ts ih =>
    obtain ⟨hFirst, hRest⟩ := List.forall_mem_cons.mp hInside
    obtain ⟨i, hi, _⟩ := p.encode_of_inside hFirst
    obtain ⟨all, hAll⟩ := ih hRest
    exact ⟨i :: all, by rw [List.map_cons, List.map_cons, hi, hAll]⟩

theorem pairwise_indices {p : Packing} {all : List CompositeIndex}
    (hAll : (tuples p.spans).map p.encode = all.map .ok) :
    all.Pairwise fun i j => i.raw < j.raw := by
  have hOrder : ((tuples p.spans).map p.encode).Pairwise
      fun x y => ∀ i j, x = .ok i → y = .ok j → i.raw < j.raw := by
    rw [List.pairwise_map]
    apply (pairwise_tuples p.spans).imp_of_mem
    intro t u ht hu hLess i j hi hj
    obtain ⟨i', j', hi', hj', hIff⟩ := p.raw_lt_raw_iff (mem_tuples.mp ht) (mem_tuples.mp hu)
    obtain rfl := Except.ok.inj (hi.symm.trans hi')
    obtain rfl := Except.ok.inj (hj.symm.trans hj')
    exact hIff.mpr hLess
  rw [hAll, List.pairwise_map] at hOrder
  exact hOrder.imp fun hBoth => hBoth _ _ rfl rfl

theorem index_at {p : Packing} {all : List CompositeIndex}
    (hAll : (tuples p.spans).map p.encode = all.map .ok) {k : Nat}
    (hk : k < (p.spans.map Span.size).prod) {i : CompositeIndex} (hi : all[k]? = some i) :
    p.encode (tupleAt p.spans k) = .ok i ∧ i.raw.toNat = codeAt p.spans k := by
  obtain ⟨j, hj, hRaw⟩ := p.encode_tupleAt k
  have hSame := congrArg (·[k]?) hAll
  simp only [List.getElem?_map, tuples_getElem? hk, hi, hj, Option.map_some] at hSame
  obtain rfl := Except.ok.inj (Option.some.inj hSame)
  exact ⟨hj, hRaw⟩

/-- Indices are in the lexicographic order of their tuples. The indices that an odometer goes
through ascend from zero on, none is smaller than its place, and they are the places if the sizes
of all spans after the first one are powers of two. -/
theorem indices_in_order {spans : List Span} {p : Packing} (h : ofSpans spans = .ok p) :
    (∀ t u, List.Forall₂ (· ∈ ·) t spans → List.Forall₂ (· ∈ ·) u spans →
      ∃ i j, p.encode t = .ok i ∧ p.encode u = .ok j ∧ (i.raw < j.raw ↔ t < u)) ∧
    ∃ all : List CompositeIndex,
      (Odometer.start spans).drain.1.map p.encode = all.map .ok ∧
      all.length = (spans.map Span.size).prod ∧
      all.Pairwise (fun i j => i.raw < j.raw) ∧
      all.head? = some .zero ∧
      ∀ k i, all[k]? = some i →
        p.encode ((Odometer.start spans).advanceBy k).current = .ok i ∧
        k ≤ i.raw.toNat ∧
        ((∀ s ∈ spans.tail, ∃ e, s.size = 2 ^ e) → i.raw.toNat = k) := by
  obtain ⟨rfl, _⟩ := ofSpans_cases h
  obtain ⟨all, hAll⟩ := p.exists_indices
  have hLength : all.length = (p.spans.map Span.size).prod := by
    rw [← length_tuples, ← List.length_map p.encode, hAll, List.length_map]
  refine ⟨fun t u ht hu => p.raw_lt_raw_iff ht hu, all, ?_, hLength, pairwise_indices hAll, ?_,
    fun k i hi => ?_⟩
  · rw [Odometer.drain_start, hAll]
  · have hPos := prod_sizes_pos p.spans
    have hFirst : all[0]? = some all[0] := List.getElem?_eq_getElem (hLength ▸ hPos)
    obtain ⟨_, hRaw⟩ := index_at hAll hPos hFirst
    have hZero : all[0] = .zero := by
      have hNumber : all[0].raw = 0 := UInt64.toNat_inj.mp (hRaw.trans (codeAt_zero p.spans))
      rw [CompositeIndex.zero, ← hNumber]
    rw [List.head?_eq_getElem?, hFirst, hZero]
  · have hk : k < (p.spans.map Span.size).prod := hLength ▸ (List.getElem?_eq_some_iff.mp hi).1
    obtain ⟨hEncode, hRaw⟩ := index_at hAll hk hi
    rw [Odometer.current_turned hk, hRaw]
    exact ⟨hEncode, le_codeAt hk, fun hTail => codeAt_eq hk hTail⟩

/-- The second and third of the sample spans have one value and two values, so that its six tuples
have the indices from zero to five. -/
theorem indices_in_order_sample :
    ∃ p, ofSpans Odometer.sampleSpans = .ok p ∧
      ∃ all : List CompositeIndex,
        (Odometer.start Odometer.sampleSpans).drain.1.map p.encode = all.map .ok ∧
        all.length = 6 ∧ all.head? = some .zero ∧
        ∀ (k : Nat) (i : CompositeIndex), all[k]? = some i → i.raw.toNat = k := by
  have hFits : totalWidth Odometer.sampleSpans ≤ 64 := by decide
  have hPacking : ofSpans Odometer.sampleSpans = .ok ⟨Odometer.sampleSpans, hFits⟩ := dif_pos hFits
  obtain ⟨_, all, hAll, hLength, _, hHead, hPlaces⟩ := indices_in_order hPacking
  have hTail : ∀ s ∈ Odometer.sampleSpans.tail, ∃ e, s.size = 2 ^ e := by
    rintro s (_ | ⟨_, _ | ⟨_, ⟨⟩⟩⟩)
    · exact ⟨0, rfl⟩
    · exact ⟨1, rfl⟩
  exact ⟨_, hPacking, all, hAll, hLength, hHead, fun k i hi => (hPlaces k i hi).2.2 hTail⟩

end Packing

end PipelineForge.Axis
