import Mathlib.Algebra.BigOperators.Group.List.Basic
import PipelineForge.Axis.Odometer

/-!
# The enumeration of tuples

All tuples over a list of spans, the last place running fastest: every tuple of values of the
spans occurs once, in lexicographic order. What an odometer still has to show is the part of this
list from its current tuple on. How the tuples are encoded is not looked at.
-/

namespace PipelineForge.Axis

namespace Span

variable {s : Span}

theorem toInt_value {k : Nat} (hk : k < s.size) : (s.value k).toInt = s.lo.toInt + k := by
  have hMin := s.lo.le_toInt
  have hMax := s.hi.toInt_lt
  have hSize : (k : Int) < s.hi.toInt - s.lo.toInt := by
    simp only [size] at hk
    omega
  exact Int32.toInt_ofInt_of_le (by omega) (by omega)

theorem value_mem {k : Nat} (hk : k < s.size) : s.value k ∈ s := by
  have hSize : (k : Int) < s.hi.toInt - s.lo.toInt := by
    simp only [size] at hk
    omega
  constructor
  · rw [Int32.le_iff_toInt_le, toInt_value hk]
    omega
  · rw [Int32.lt_iff_toInt_lt, toInt_value hk]
    omega

def values (s : Span) : List Int32 := (List.range s.size).map s.value

theorem length_values (s : Span) : s.values.length = s.size := by
  rw [values, List.length_map, List.length_range]

theorem getElem_values {k : Nat} (hk : k < s.values.length) : s.values[k] = s.value k := by
  simp [values]

theorem mem_values {v : Int32} : v ∈ s.values ↔ v ∈ s := by
  rw [values, List.mem_map]
  constructor
  · rintro ⟨k, hk, rfl⟩
    exact value_mem (List.mem_range.mp hk)
  · intro hv
    exact ⟨s.offset v, List.mem_range.mpr (offset_lt_size hv), value_offset hv⟩

theorem pairwise_values (s : Span) : s.values.Pairwise (· < ·) := by
  rw [values, List.pairwise_map]
  apply List.pairwise_lt_range.imp_of_mem
  intro j k hj hk hjk
  rw [Int32.lt_iff_toInt_lt, toInt_value (List.mem_range.mp hj), toInt_value (List.mem_range.mp hk)]
  omega

end Span

def tuples : List Span → List (List Int32)
  | [] => [[]]
  | s :: ss => s.values.flatMap fun v => (tuples ss).map (v :: ·)

theorem mem_tuples {spans : List Span} {tuple : List Int32} :
    tuple ∈ tuples spans ↔ List.Forall₂ (· ∈ ·) tuple spans := by
  induction spans generalizing tuple with
  | nil => simp [tuples]
  | cons s ss ih =>
    simp only [tuples, List.mem_flatMap, List.mem_map, Span.mem_values]
    constructor
    · rintro ⟨v, hv, rest, hRest, rfl⟩
      exact .cons hv (ih.mp hRest)
    · intro h
      cases h with
      | cons hv hRest => exact ⟨_, hv, _, ih.mpr hRest, rfl⟩

theorem length_tuples (spans : List Span) :
    (tuples spans).length = (spans.map Span.size).prod := by
  induction spans with
  | nil => rfl
  | cons s ss ih => simp [tuples, List.length_flatMap, Span.length_values, ih]

theorem pairwise_tuples (spans : List Span) : (tuples spans).Pairwise (· < ·) := by
  induction spans with
  | nil => exact List.pairwise_singleton _ _
  | cons s ss ih =>
    rw [tuples, List.pairwise_flatMap]
    constructor
    · intro v _
      rw [List.pairwise_map]
      exact ih.imp fun h => List.cons_lt_cons_iff.mpr (.inr ⟨rfl, h⟩)
    · apply s.pairwise_values.imp
      intro v w hvw x hx y hy
      obtain ⟨t, _, rfl⟩ := List.mem_map.mp hx
      obtain ⟨u, _, rfl⟩ := List.mem_map.mp hy
      exact List.cons_lt_cons_iff.mpr (.inl hvw)

theorem nodup_tuples (spans : List Span) : (tuples spans).Nodup := by
  refine List.Pairwise.imp ?_ (pairwise_tuples spans)
  rintro t u hLess rfl
  exact List.lt_irrefl t hLess

namespace Wheel

def later (w : Wheel) : List Int32 := w.span.values.drop (w.span.offset w.value + 1)

theorem later_atStart (s : Span) : s.values = s.lo :: (atStart s).later := by
  have hOffset : s.offset s.lo = 0 := by simp [Span.offset]
  have hLength : 0 < s.values.length := s.length_values ▸ s.size_pos
  have hFirst : s.values[0] = s.lo := by
    rw [Span.getElem_values, ← hOffset, Span.value_offset s.lo_mem]
  have hLater : (atStart s).later = s.values.drop 1 := by
    simp only [later, atStart, hOffset]
  rw [hLater, ← hFirst, List.getElem_cons_drop, List.drop_zero]

theorem toInt_succ (w : Wheel) : (w.value + 1).toInt = w.value.toInt + 1 := by
  have hHi := Int32.lt_iff_toInt_lt.mp w.value_mem.2
  have hMax := w.span.hi.toInt_lt
  have hMin := w.value.le_toInt
  rw [Int32.toInt_add]
  exact Int.bmod_eq_of_le (by simp; omega) (by simp; omega)

theorem later_of_next?_none {w : Wheel} (h : w.next? = none) : w.later = [] := by
  rw [next?] at h
  split at h
  · cases h
  next hLast =>
  apply List.drop_eq_nil_of_le
  rw [Int32.lt_iff_toInt_lt, w.toInt_succ] at hLast
  rw [Span.length_values]
  simp only [Span.size, Span.offset]
  omega

theorem later_of_next?_some {w w' : Wheel} (h : w.next? = some w') :
    w'.span = w.span ∧ w.later = w'.value :: w'.later := by
  rw [next?] at h
  split at h
  · next hNext =>
    obtain rfl := Option.some.inj h
    refine ⟨rfl, ?_⟩
    have hMem : w.value + 1 ∈ w.span := succ_mem hNext
    have hOffset : w.span.offset (w.value + 1) = w.span.offset w.value + 1 := by
      have hLo := Int32.le_iff_toInt_le.mp w.value_mem.1
      simp only [Span.offset, w.toInt_succ]
      omega
    have hLength : w.span.offset w.value + 1 < w.span.values.length := by
      rw [Span.length_values, ← hOffset]
      exact Span.offset_lt_size hMem
    have hValue : w.span.values[w.span.offset w.value + 1] = w.value + 1 := by
      rw [Span.getElem_values, ← hOffset, Span.value_offset hMem]
    simp only [later, hOffset]
    rw [← hValue, List.getElem_cons_drop]
  · cases h

end Wheel

/-- The tuples from the shown one on. -/
def remaining : List Wheel → List (List Int32)
  | [] => [[]]
  | w :: ws =>
    (remaining ws).map (w.value :: ·) ++
      w.later.flatMap fun v => (tuples (ws.map Wheel.span)).map (v :: ·)

theorem remaining_atStart (spans : List Span) :
    remaining (spans.map Wheel.atStart) = tuples spans := by
  induction spans with
  | nil => rfl
  | cons s ss ih =>
    have hSpans : (ss.map Wheel.atStart).map Wheel.span = ss := by
      rw [List.map_map]
      exact List.map_id ss
    rw [List.map_cons, remaining, ih, hSpans, tuples, Wheel.later_atStart s, List.flatMap_cons]
    rfl

namespace Odometer

theorem spans_turn (ws : List Wheel) : (turn ws).1.map Wheel.span = ws.map Wheel.span := by
  induction ws with
  | nil => rfl
  | cons w ws ih =>
    simp only [turn]
    split
    · next ws' hTurn =>
      rw [hTurn] at ih
      rw [List.map_cons, List.map_cons, ih]
    · next ws' hTurn =>
      rw [hTurn] at ih
      split
      · next w' hNext => rw [List.map_cons, List.map_cons, ih, (Wheel.later_of_next?_some hNext).1]
      · rw [List.map_cons, List.map_cons, ih]
        rfl

/-- A carry that leaves the first wheel finds and leaves all wheels where they have to be. -/
theorem turn_carry {ws : List Wheel} (h : (turn ws).2 = true) :
    (turn ws).1 = ws.map Wheel.reset ∧ remaining ws = [ws.map Wheel.value] := by
  induction ws with
  | nil => exact ⟨rfl, rfl⟩
  | cons w ws ih =>
    simp only [turn] at h ⊢
    split at h
    · cases h
    next ws' hTurn =>
    rw [hTurn] at ih
    obtain ⟨hReset, hRemaining⟩ := ih rfl
    split at h
    · cases h
    next hNext =>
    refine ⟨?_, ?_⟩
    · rw [List.map_cons, ← hReset]
    · rw [remaining, hRemaining, Wheel.later_of_next?_none hNext]
      rfl

theorem remaining_turn {ws : List Wheel} (h : (turn ws).2 = false) :
    remaining ws = ws.map Wheel.value :: remaining (turn ws).1 := by
  induction ws with
  | nil => cases h
  | cons w ws ih =>
    have hSpans := spans_turn ws
    simp only [turn] at h ⊢
    split at h
    · next ws' hTurn =>
      rw [hTurn] at ih hSpans
      simp only [remaining]
      rw [ih rfl, hSpans]
      rfl
    next ws' hTurn =>
    obtain ⟨hReset, hRemaining⟩ := @turn_carry ws (by rw [hTurn])
    rw [hTurn] at hReset hSpans
    split at h
    · next w' hNext =>
      have hStart : remaining ws' = tuples (ws.map Wheel.span) := by
        rw [show ws' = ws.map Wheel.reset from hReset, ← remaining_atStart, List.map_map]
        rfl
      simp only [remaining]
      rw [hRemaining, hStart, hSpans, (Wheel.later_of_next?_some hNext).2]
      rfl
    · cases h

def rest (o : Odometer) : List (List Int32) := if o.finished then [] else remaining o.wheels

theorem rest_start (spans : List Span) : (start spans).rest = tuples spans :=
  remaining_atStart spans

theorem rest_of_finished {o : Odometer} (h : o.finished = true) : o.rest = [] := if_pos h

theorem rest_advance {o : Odometer} (h : o.finished = false) :
    o.rest = o.current :: o.advance.rest := by
  rw [rest, if_neg (by simp [h]), advance, if_neg (by simp [h])]
  cases hCarry : (turn o.wheels).2 with
  | true =>
    rw [(turn_carry hCarry).2, rest, if_pos hCarry]
    rfl
  | false =>
    rw [remaining_turn hCarry, rest, if_neg (by simp [hCarry])]
    rfl

theorem spans_start (spans : List Span) : (start spans).spans = spans := by
  rw [Odometer.spans, start, List.map_map]
  exact List.map_id spans

theorem spans_advance (o : Odometer) : o.advance.spans = o.spans := by
  rw [advance]
  split
  · rfl
  · exact spans_turn o.wheels

end Odometer

end PipelineForge.Axis
