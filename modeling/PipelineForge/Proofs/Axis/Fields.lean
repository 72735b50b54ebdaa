import PipelineForge.Proofs.Axis.Digits
import PipelineForge.Proofs.Axis.Enumeration

/-!
# Fields of composite indices

An index holds one field for each span, which are its digits with powers of two as radices. A field
may hold a number that is no distance inside its span; encoding what was decoded from such an index
names the first span that this happens to, and gives the index back otherwise.
-/

namespace PipelineForge.Axis

theorem lt_two_pow_bitLength (n : Nat) : n < 2 ^ bitLength n := by
  rw [bitLength]
  split
  · next h => rw [h]; exact Nat.one_pos
  · exact Nat.lt_log2_self

theorem bitLength_le {n e : Nat} (h : n < 2 ^ e) : bitLength n ≤ e := by
  rw [bitLength]
  split
  · exact Nat.zero_le e
  · next hn => exact (Nat.log2_lt hn).mpr h

namespace Span

variable {s : Span}

/-- The number of codes that the field of a span has room for. -/
def codes (s : Span) : Nat := 2 ^ s.width

theorem codes_pos (s : Span) : 0 < s.codes := Nat.two_pow_pos s.width

theorem size_le_codes (s : Span) : s.size ≤ s.codes := by
  have hLast : s.size - 1 < s.codes := lt_two_pow_bitLength (s.size - 1)
  omega

theorem size_lt (s : Span) : s.size < 2 ^ 32 := by
  have hMin := s.lo.le_toInt
  have hMax := s.hi.toInt_lt
  simp only [size]
  omega

theorem width_le (s : Span) : s.width ≤ 32 := by
  have hSize := s.size_lt
  exact bitLength_le (by omega)

theorem codes_le (s : Span) : s.codes ≤ 2 ^ 32 := Nat.pow_le_pow_right (by decide) s.width_le

theorem codes_eq_size_iff (s : Span) : s.codes = s.size ↔ ∃ e, s.size = 2 ^ e := by
  constructor
  · intro h
    exact ⟨s.width, h.symm⟩
  · rintro ⟨e, he⟩
    have hPos := s.size_pos
    have hWidth : s.width ≤ e := bitLength_le (by omega)
    have hCodes : s.codes ≤ s.size := he ▸ Nat.pow_le_pow_right (by decide) hWidth
    exact Nat.le_antisymm hCodes s.size_le_codes

theorem offset_value {k : Nat} (hk : k < s.size) : s.offset (s.value k) = k := by
  rw [offset, toInt_value hk]
  omega

theorem toInt_value_cases {k : Nat} (hk : k < s.codes) :
    (s.value k).toInt = s.lo.toInt + k ∨ (s.value k).toInt = s.lo.toInt + k - 2 ^ 32 := by
  have hCodes := s.codes_le
  have hMin := s.lo.le_toInt
  have hMax := s.lo.toInt_lt
  have hSize : ((Int32.size : Nat) : Int) = 2 ^ 32 := rfl
  rw [value, Int32.toInt_ofInt, Int.bmod_def, hSize]
  split
  · omega
  · omega

/-- A code beyond the size stands for a value above the span, or for one below it if the sum goes
around the end of the 32-bit values. -/
theorem value_mem_iff {k : Nat} (hk : k < s.codes) : s.value k ∈ s ↔ k < s.size := by
  constructor
  · intro hMem
    have hLo := Int32.le_iff_toInt_le.mp hMem.1
    have hHi := Int32.lt_iff_toInt_lt.mp hMem.2
    have hCodes := s.codes_le
    simp only [size]
    rcases toInt_value_cases hk with hValue | hValue <;> omega
  · exact value_mem

end Span

namespace CompositeIndex

theorem ofNat_toNat_mul_add (n m k : Nat) :
    UInt64.ofNat ((UInt64.ofNat n).toNat * m + k) = UInt64.ofNat (n * m + k) := by
  apply UInt64.toNat_inj.mp
  simp only [UInt64.toNat_ofNat']
  rw [Nat.add_mod, Nat.mod_mul_mod, ← Nat.add_mod]

theorem push_eq (i : CompositeIndex) {width offset : Nat} (hWidth : width ≤ 32)
    (hOffset : offset < 2 ^ width) :
    i.push width (UInt64.ofNat offset) = ⟨UInt64.ofNat (i.raw.toNat * 2 ^ width + offset)⟩ := by
  have hShift : width % 2 ^ 64 % 64 = width := by omega
  rw [push, ← Nat.shiftLeft_eq, Nat.shiftLeft_add_eq_or_of_lt hOffset, mk.injEq]
  apply UInt64.toNat_inj.mp
  rw [UInt64.toNat_or, UInt64.toNat_shiftLeft, UInt64.toNat_ofNat', UInt64.toNat_ofNat',
    UInt64.toNat_ofNat', hShift, Nat.or_mod_two_pow]

theorem toNat_drop (i : CompositeIndex) {width : Nat} (hWidth : width ≤ 32) :
    (i.drop width).raw.toNat = i.raw.toNat / 2 ^ width := by
  have hShift : width % 2 ^ 64 % 64 = width := by omega
  rw [drop, UInt64.toNat_shiftRight, UInt64.toNat_ofNat', hShift, Nat.shiftRight_eq_div_pow]

theorem low_eq (i : CompositeIndex) (width : Nat) : i.low width = i.raw.toNat % 2 ^ width := by
  rw [low, Nat.one_shiftLeft]

end CompositeIndex

theorem prod_codes (spans : List Span) : (spans.map Span.codes).prod = 2 ^ totalWidth spans := by
  induction spans with
  | nil => rfl
  | cons s ss ih =>
    rw [List.map_cons, List.prod_cons, ih, Span.codes, ← Nat.pow_add]
    rfl

/-- The distances that an index holds for the spans, the last span in the lowest bits. -/
def fields (spans : List Span) (i : CompositeIndex) : List Nat :=
  digits (spans.map Span.codes) i.raw.toNat

theorem fields_lt (spans : List Span) (i : CompositeIndex) :
    List.Forall₂ (· < ·) (fields spans i) (spans.map Span.codes) := by
  apply digits_lt
  intro n hn
  obtain ⟨s, _, rfl⟩ := List.mem_map.mp hn
  exact s.codes_pos

/-- The first span whose distance is none of its values, with that distance. -/
def misfit? (spans : List Span) (ds : List Nat) : Option (Span × Nat) :=
  (spans.zip ds).find? fun e => e.1.size ≤ e.2

theorem misfit?_cons_of_lt {s : Span} {d : Nat} (hd : d < s.size) (ss : List Span)
    (ds : List Nat) : misfit? (s :: ss) (d :: ds) = misfit? ss ds := by
  rw [misfit?, List.zip_cons_cons, List.find?_cons_of_neg (by simpa using hd), misfit?]

theorem misfit?_cons_of_le {s : Span} {d : Nat} (hd : s.size ≤ d) (ss : List Span)
    (ds : List Nat) : misfit? (s :: ss) (d :: ds) = some (s, d) := by
  rw [misfit?, List.zip_cons_cons, List.find?_cons_of_pos (by simpa using hd)]

theorem misfit?_eq_none_iff {spans : List Span} {ds : List Nat}
    (hLength : ds.length = spans.length) :
    misfit? spans ds = none ↔ List.Forall₂ (· < ·) ds (spans.map Span.size) := by
  induction spans generalizing ds with
  | nil => simp [misfit?, List.length_eq_zero_iff.mp hLength]
  | cons s ss ih =>
    cases ds with
    | nil => cases hLength
    | cons d ds =>
      rw [List.map_cons, List.forall₂_cons, ← ih (Nat.succ.inj hLength)]
      by_cases hd : d < s.size
      · rw [misfit?_cons_of_lt hd, and_iff_right hd]
      · simp [misfit?_cons_of_le (Nat.le_of_not_lt hd), hd]

namespace Packing

theorem takeFields_eq (spans : List Span) (i : CompositeIndex) :
    (takeFields spans i).1 = List.zipWith Span.value spans (fields spans i) ∧
      (takeFields spans i).2.raw.toNat = i.raw.toNat / (spans.map Span.codes).prod := by
  induction spans with
  | nil => exact ⟨rfl, (Nat.div_one _).symm⟩
  | cons s ss ih =>
    obtain ⟨hValues, hRest⟩ := ih
    have hCode : (takeFields ss i).2.low s.width =
        i.raw.toNat / (ss.map Span.codes).prod % s.codes := by
      rw [CompositeIndex.low_eq, hRest, Span.codes]
    refine ⟨?_, ?_⟩
    · rw [fields, List.map_cons, digits, List.zipWith_cons_cons, ← hCode, ← fields, ← hValues]
      rfl
    · rw [List.map_cons, List.prod_cons, Nat.mul_comm s.codes, ← Nat.div_div_eq_div_mul, ← hRest]
      exact CompositeIndex.toNat_drop _ s.width_le

theorem extendAll_values {spans : List Span} {ds : List Nat}
    (hCodes : List.Forall₂ (· < ·) ds (spans.map Span.codes)) (i : CompositeIndex) :
    extendAll i spans (List.zipWith Span.value spans ds) =
      match misfit? spans ds with
      | none => .ok ⟨UInt64.ofNat (i.raw.toNat * (spans.map Span.codes).prod +
          compose (spans.map Span.codes) ds)⟩
      | some (s, d) => .error ⟨s.value d, s.lo, s.hi⟩ := by
  induction spans generalizing ds i with
  | nil =>
    cases hCodes
    simp [extendAll, misfit?, compose]
  | cons s ss ih =>
    cases hCodes with
    | @cons d _ ds _ hd hds =>
      rw [List.zipWith_cons_cons, extendAll]
      by_cases hFits : d < s.size
      · rw [CompositeIndex.extend_of_mem i ((Span.value_mem_iff hd).mpr hFits),
          Span.offset_value hFits, CompositeIndex.push_eq i s.width_le hd, misfit?_cons_of_lt hFits]
        simp only [ih hds]
        rw [CompositeIndex.ofNat_toNat_mul_add, List.map_cons, List.prod_cons, compose,
          Nat.add_mul, Nat.mul_assoc, Nat.add_assoc]
        rfl
      · rw [CompositeIndex.extend_of_not_mem i (mt (Span.value_mem_iff hd).mp hFits),
          misfit?_cons_of_le (Nat.le_of_not_lt hFits)]

theorem ofSpans_cases {spans : List Span} {p : Packing} (h : ofSpans spans = .ok p) :
    p.spans = spans ∧ totalWidth spans ≤ 64 := by
  rw [ofSpans] at h
  split at h
  · next hFits =>
    cases h
    exact ⟨rfl, hFits⟩
  · cases h

theorem decode_eq (p : Packing) (i : CompositeIndex) :
    p.decode i = List.zipWith Span.value p.spans (fields p.spans i) :=
  (takeFields_eq p.spans i).1

theorem encode_values {p : Packing} {ds : List Nat}
    (hCodes : List.Forall₂ (· < ·) ds (p.spans.map Span.codes)) :
    p.encode (List.zipWith Span.value p.spans ds) =
      match misfit? p.spans ds with
      | none => .ok ⟨UInt64.ofNat (compose (p.spans.map Span.codes) ds)⟩
      | some (s, d) => .error (.error ⟨s.value d, s.lo, s.hi⟩) := by
  have hLength : (List.zipWith Span.value p.spans ds).length = p.spans.length := by
    have hCount := hCodes.length_eq
    rw [List.length_map] at hCount
    rw [List.length_zipWith, hCount, Nat.min_self]
  rw [encode, if_pos hLength, extendAll_values hCodes]
  cases misfit? p.spans ds with
  | none => simp [CompositeIndex.zero, Except.mapError]
  | some e => rfl

theorem distances {spans : List Span} {tuple : List Int32}
    (h : List.Forall₂ (· ∈ ·) tuple spans) :
    ∃ ds, tuple = List.zipWith Span.value spans ds ∧
      List.Forall₂ (· < ·) ds (spans.map Span.codes) ∧
      List.Forall₂ (· < ·) ds (spans.map Span.size) := by
  induction h with
  | nil => exact ⟨[], rfl, .nil, .nil⟩
  | @cons v s _ _ hv _ ih =>
    obtain ⟨ds, rfl, hCodes, hSizes⟩ := ih
    have hOffset := Span.offset_lt_size hv
    refine ⟨s.offset v :: ds, ?_, .cons (Nat.lt_of_lt_of_le hOffset s.size_le_codes) hCodes,
      .cons hOffset hSizes⟩
    rw [List.zipWith_cons_cons, Span.value_offset hv]

theorem prod_codes_le (p : Packing) : (p.spans.map Span.codes).prod ≤ 2 ^ 64 := by
  rw [prod_codes]
  exact Nat.pow_le_pow_right (by decide) p.fits

/-- A tuple inside the spans is encoded below the bound of the packing and decoded again. -/
theorem encode_of_inside (p : Packing) {tuple : List Int32}
    (h : List.Forall₂ (· ∈ ·) tuple p.spans) :
    ∃ i, p.encode tuple = .ok i ∧ i.raw.toNat < 2 ^ p.totalBits ∧ p.decode i = tuple := by
  obtain ⟨ds, rfl, hCodes, hSizes⟩ := distances h
  have hBound := compose_lt hCodes
  have hRaw : (UInt64.ofNat (compose (p.spans.map Span.codes) ds)).toNat =
      compose (p.spans.map Span.codes) ds := by
    rw [UInt64.toNat_ofNat', Nat.mod_eq_of_lt (Nat.lt_of_lt_of_le hBound p.prod_codes_le)]
  have hFits := (misfit?_eq_none_iff (by simpa using hSizes.length_eq)).mpr hSizes
  refine ⟨⟨UInt64.ofNat (compose (p.spans.map Span.codes) ds)⟩, ?_, ?_, ?_⟩
  · rw [encode_values hCodes, hFits]
  · rw [prod_codes] at hBound
    exact hRaw.trans_lt hBound
  · rw [decode_eq, fields, hRaw, digits_compose hCodes]

/-- Encoding what was decoded from an index cuts the index down to the bits of the packing, unless
a field holds no distance of its span: then the first such span reports the decoded value. -/
theorem encode_decode (p : Packing) (i : CompositeIndex) :
    p.encode (p.decode i) =
      match misfit? p.spans (fields p.spans i) with
      | none => .ok ⟨UInt64.ofNat (i.raw.toNat % 2 ^ p.totalBits)⟩
      | some (s, d) => .error (.error ⟨s.value d, s.lo, s.hi⟩) := by
  rw [decode_eq, encode_values (fields_lt p.spans i), fields, compose_digits, prod_codes]
  rfl

/-- Encoding and decoding are inverse: on all tuples inside the spans, and on all indices up to the
bits above the packing, exactly as far as the fields hold distances of their spans. -/
theorem encode_decode_inverse {spans : List Span} {p : Packing} (h : ofSpans spans = .ok p) :
    (∀ tuple, List.Forall₂ (· ∈ ·) tuple spans →
      ∃ i, p.encode tuple = .ok i ∧ i.raw.toNat < 2 ^ p.totalBits ∧ p.decode i = tuple) ∧
    (∀ t u, List.Forall₂ (· ∈ ·) t spans → List.Forall₂ (· ∈ ·) u spans →
      p.encode t = p.encode u → t = u) ∧
    ∀ i,
      (List.Forall₂ (· < ·) (fields spans i) (spans.map Span.size) →
        ∃ j, p.encode (p.decode i) = .ok j ∧ j.raw.toNat = i.raw.toNat % 2 ^ p.totalBits) ∧
      (¬ List.Forall₂ (· < ·) (fields spans i) (spans.map Span.size) →
        ∃ s d, misfit? spans (fields spans i) = some (s, d) ∧
          p.encode (p.decode i) = .error (.error ⟨s.value d, s.lo, s.hi⟩)) := by
  obtain ⟨rfl, _⟩ := ofSpans_cases h
  refine ⟨fun _ hTuple => p.encode_of_inside hTuple, ?_, fun i => ?_⟩
  · intro t u ht hu hSame
    obtain ⟨i, hi, _, hDecode⟩ := p.encode_of_inside ht
    obtain ⟨j, hj, _, hDecode'⟩ := p.encode_of_inside hu
    rw [hi, hj] at hSame
    rw [← hDecode, ← hDecode', Except.ok.inj hSame]
  · have hBoth := p.encode_decode i
    have hFits : misfit? p.spans (fields p.spans i) = none ↔ _ :=
      misfit?_eq_none_iff (by rw [fields, length_digits, List.length_map])
    rw [← hFits]
    cases hMisfit : misfit? p.spans (fields p.spans i) with
    | none =>
      rw [hMisfit] at hBoth
      refine ⟨fun _ => ⟨_, hBoth, ?_⟩, fun hSome => absurd rfl hSome⟩
      rw [UInt64.toNat_ofNat']
      exact Nat.mod_eq_of_lt (Nat.lt_of_le_of_lt (Nat.mod_le _ _) i.raw.toNat_lt)
    | some e =>
      rw [hMisfit] at hBoth
      exact ⟨nofun, fun _ => ⟨e.1, e.2, rfl, hBoth⟩⟩

/-- Four spans that need all 64 bits: all values but the largest, one value, the values from five
on, and two values around zero. -/
def fullSpans : List Span :=
  [⟨-2147483648, 2147483647, by decide⟩, ⟨7, 8, by decide⟩, ⟨5, 2147483647, by decide⟩,
    ⟨-1, 1, by decide⟩]

/-- The largest tuple comes back. With a too large third field the sum goes around the end of the
32-bit values, and with the first field too large as well it is the first one that is reported. -/
theorem encode_decode_inverse_full :
    ∃ p, ofSpans fullSpans = .ok p ∧ p.totalBits = 64 ∧
      (∃ i, p.encode [2147483646, 7, 2147483646, 0] = .ok i ∧
        p.decode i = [2147483646, 7, 2147483646, 0]) ∧
      p.encode (p.decode ⟨0x00000000ffffffff⟩) =
        .error (.error ⟨-2147483644, 5, 2147483647⟩) ∧
      p.encode (p.decode ⟨0xffffffffffffffff⟩) =
        .error (.error ⟨2147483647, -2147483648, 2147483647⟩) := by
  have hBits : totalWidth fullSpans = 64 := by decide +kernel
  have hPacking : ofSpans fullSpans = .ok ⟨fullSpans, Nat.le_of_eq hBits⟩ :=
    dif_pos (Nat.le_of_eq hBits)
  have hThird : misfit? fullSpans (fields fullSpans ⟨0x00000000ffffffff⟩) =
      some (⟨5, 2147483647, by decide⟩, 2147483647) := by decide +kernel
  have hBoth : misfit? fullSpans (fields fullSpans ⟨0xffffffffffffffff⟩) =
      some (⟨-2147483648, 2147483647, by decide⟩, 4294967295) := by decide +kernel
  obtain ⟨hInside, _, hIndex⟩ := encode_decode_inverse hPacking
  refine ⟨_, hPacking, hBits, ?_, ?_, ?_⟩
  · obtain ⟨i, hi, _, hDecode⟩ := hInside [2147483646, 7, 2147483646, 0]
      (.cons (by decide) (.cons (by decide) (.cons (by decide) (.cons (by decide) .nil))))
    exact ⟨i, hi, hDecode⟩
  · obtain ⟨s, d, hMisfit, hReport⟩ := (hIndex ⟨0x00000000ffffffff⟩).2 (by decide +kernel)
    obtain ⟨rfl, rfl⟩ := Prod.mk.inj (Option.some.inj (hMisfit.symm.trans hThird))
    exact hReport
  · obtain ⟨s, d, hMisfit, hReport⟩ := (hIndex ⟨0xffffffffffffffff⟩).2 (by decide +kernel)
    obtain ⟨rfl, rfl⟩ := Prod.mk.inj (Option.some.inj (hMisfit.symm.trans hBoth))
    exact hReport

end Packing

end PipelineForge.Axis
