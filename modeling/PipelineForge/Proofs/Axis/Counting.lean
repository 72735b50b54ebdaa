import PipelineForge.Proofs.Axis.Digits
import PipelineForge.Proofs.Axis.Enumeration
import PipelineForge.Proofs.Lists

/-!
# The odometer as a counter

After some turns an odometer shows the digits of their number, with the sizes of its spans as
radices, until the product of the sizes is reached; from then on it stands still at the start. What
it yields from any place on is a suffix of the enumeration of all tuples.
-/

namespace PipelineForge.Axis

theorem sizes_pos (spans : List Span) : ∀ n ∈ spans.map Span.size, 0 < n := by
  intro n hn
  obtain ⟨s, _, rfl⟩ := List.mem_map.mp hn
  exact s.size_pos

theorem prod_sizes_pos (spans : List Span) : 0 < (spans.map Span.size).prod :=
  Nat.zero_lt_of_lt (compose_lt (digits_lt (sizes_pos spans) 0))

/-- The tuple whose distances from the lower bounds are the digits of a number. -/
def tupleAt (spans : List Span) (k : Nat) : List Int32 :=
  List.zipWith Span.value spans (digits (spans.map Span.size) k)

theorem tuples_getElem? {spans : List Span} {k : Nat} (hk : k < (spans.map Span.size).prod) :
    (tuples spans)[k]? = some (tupleAt spans k) := by
  induction spans generalizing k with
  | nil =>
    obtain rfl : k = 0 := Nat.lt_one_iff.mp hk
    rfl
  | cons s ss ih =>
    have hRest := prod_sizes_pos ss
    have hDigit : k / (ss.map Span.size).prod < s.size := by
      rw [List.map_cons, List.prod_cons] at hk
      exact (Nat.div_lt_iff_lt_mul hRest).mpr hk
    have hUniform (v : Int32) (_ : v ∈ s.values) :
        ((tuples ss).map (v :: ·)).length = (ss.map Span.size).prod := by
      rw [List.length_map, length_tuples]
    have hFirst : s.values[k / (ss.map Span.size).prod]? =
        some (s.value (k / (ss.map Span.size).prod)) := by
      rw [Span.values, List.getElem?_map, List.getElem?_range hDigit, Option.map_some]
    rw [tuples, getElem?_flatMap_of_length hRest hUniform, hFirst, Option.bind_some,
      List.getElem?_map, ih (Nat.mod_lt _ hRest), Option.map_some, tupleAt, tupleAt, digits_mod,
      List.map_cons, digits, List.zipWith_cons_cons, Nat.mod_eq_of_lt hDigit]

def countersAt (spans : List Span) (k : Nat) : List Int :=
  List.zipWith (fun s (d : Nat) => s.lo.toInt + d) spans (digits (spans.map Span.size) k)

theorem toInt_tupleAt (spans : List Span) (k : Nat) :
    (tupleAt spans k).map Int32.toInt = countersAt spans k := by
  induction spans with
  | nil => rfl
  | cons s ss ih =>
    rw [tupleAt, countersAt, List.map_cons, digits, List.zipWith_cons_cons, List.map_cons,
      List.zipWith_cons_cons, Span.toInt_value (Nat.mod_lt _ s.size_pos)]
    exact congrArg _ ih

theorem length_later (w : Wheel) :
    w.later.length + w.span.offset w.value + 1 = w.span.size := by
  have hOffset := Span.offset_lt_size w.value_mem
  rw [Wheel.later, List.length_drop, Span.length_values]
  omega

namespace Odometer

theorem rank_eq (ws : List Wheel) :
    (rank ws).2 = (tuples (ws.map Wheel.span)).length ∧
      (remaining ws).length + (rank ws).1 = (rank ws).2 := by
  induction ws with
  | nil => exact ⟨rfl, rfl⟩
  | cons w ws ih =>
    obtain ⟨hAll, hLeft⟩ := ih
    have hLater := length_later w
    have hTuples (vs : List Int32) :
        (vs.flatMap fun v => (tuples (ws.map Wheel.span)).map (v :: ·)).length =
          vs.length * (rank ws).2 := by
      simp [List.length_flatMap, hAll]
    refine ⟨?_, ?_⟩
    · rw [List.map_cons, tuples, hTuples, Span.length_values]
      rfl
    · rw [remaining, List.length_append, List.length_map, hTuples]
      simp only [rank]
      calc (remaining ws).length + w.later.length * (rank ws).2 +
            (w.span.offset w.value * (rank ws).2 + (rank ws).1)
          = w.later.length * (rank ws).2 + w.span.offset w.value * (rank ws).2 +
              ((remaining ws).length + (rank ws).1) := by omega
        _ = (w.later.length + w.span.offset w.value + 1) * (rank ws).2 := by
          rw [hLeft, Nat.add_mul, Nat.add_mul, Nat.one_mul]
        _ = w.span.size * (rank ws).2 := by rw [hLater]

theorem left_eq (o : Odometer) : o.left = o.rest.length := by
  rw [left, rest]
  split
  · rfl
  · have hLeft := (rank_eq o.wheels).2
    omega

theorem finished_iff (o : Odometer) : o.finished = true ↔ o.rest = [] := by
  constructor
  · exact rest_of_finished
  · intro hRest
    cases hFinished : o.finished with
    | true => rfl
    | false =>
      rw [rest_advance hFinished] at hRest
      cases hRest

theorem advanceBy_of_finished {o : Odometer} (h : o.finished = true) (n : Nat) :
    o.advanceBy n = o := by
  induction n with
  | zero => rfl
  | succ n ih => rw [advanceBy, advance_of_finished h, ih]

theorem advanceBy_succ (o : Odometer) (n : Nat) :
    o.advanceBy (n + 1) = (o.advanceBy n).advance := by
  induction n generalizing o with
  | zero => rfl
  | succ n ih => rw [advanceBy, ih, advanceBy]

theorem rest_advanceBy (o : Odometer) (n : Nat) : (o.advanceBy n).rest = o.rest.drop n := by
  induction n generalizing o with
  | zero => rfl
  | succ n ih =>
    rw [advanceBy, ih]
    cases hFinished : o.finished with
    | true => rw [advance_of_finished hFinished, rest_of_finished hFinished]; simp
    | false => rw [rest_advance hFinished, List.drop_succ_cons]

theorem spans_advanceBy (o : Odometer) (n : Nat) : (o.advanceBy n).spans = o.spans := by
  induction n generalizing o with
  | zero => rfl
  | succ n ih => rw [advanceBy, ih, spans_advance]

theorem wheels_advance {o : Odometer} (hBefore : o.finished = false)
    (hAfter : o.advance.finished = true) : o.advance.wheels = o.wheels.map Wheel.reset := by
  rw [advance, if_neg (by simp [hBefore])] at hAfter ⊢
  exact (turn_carry hAfter).1

theorem wheels_of_finished {spans : List Span} {k : Nat}
    (h : ((start spans).advanceBy k).finished = true) :
    ((start spans).advanceBy k).wheels = spans.map Wheel.atStart := by
  induction k with
  | zero => rfl
  | succ k ih =>
    rw [advanceBy_succ] at h ⊢
    cases hBefore : ((start spans).advanceBy k).finished with
    | true =>
      rw [advance_of_finished hBefore]
      exact ih hBefore
    | false =>
      have hSpans : ((start spans).advanceBy k).wheels.map Wheel.span = spans :=
        (spans_advanceBy (start spans) k).trans (spans_start spans)
      have hStart : ((start spans).advanceBy k).wheels.map Wheel.reset =
          (((start spans).advanceBy k).wheels.map Wheel.span).map Wheel.atStart := by
        rw [List.map_map]
        rfl
      rw [wheels_advance hBefore h, hStart, hSpans]

theorem take_eq (o : Odometer) (n : Nat) : o.take n = (o.rest.take n, o.advanceBy n) := by
  induction n generalizing o with
  | zero => rfl
  | succ n ih =>
    cases hFinished : o.finished with
    | true =>
      rw [take_of_finished hFinished, rest_of_finished hFinished, advanceBy_of_finished hFinished]
      simp
    | false => simp [take, next?, hFinished, ih, rest_advance hFinished, advanceBy]

theorem drain_eq (o : Odometer) : o.drain = (o.rest, o.advanceBy o.rest.length) := by
  rw [drain, take_eq, left_eq, List.take_length]

theorem next?_eq_none_iff (o : Odometer) : o.next? = none ↔ o.finished = true := by
  rw [next?]
  split
  · next h => simp [h]
  · next h => simp [h]

theorem rest_turned (spans : List Span) (k : Nat) :
    ((start spans).advanceBy k).rest = (tuples spans).drop k := by
  rw [rest_advanceBy, rest_start]

theorem finished_turned_iff (spans : List Span) (k : Nat) :
    ((start spans).advanceBy k).finished = true ↔ (spans.map Span.size).prod ≤ k := by
  rw [finished_iff, rest_turned, List.drop_eq_nil_iff, length_tuples]

theorem current_turned {spans : List Span} {k : Nat} (hk : k < (spans.map Span.size).prod) :
    ((start spans).advanceBy k).current = tupleAt spans k := by
  have hGoing : ((start spans).advanceBy k).finished = false := by
    rw [← Bool.not_eq_true, finished_turned_iff]
    exact Nat.not_le_of_lt hk
  have hHead : ((start spans).advanceBy k).rest.head? = some (tupleAt spans k) := by
    rw [rest_turned, List.head?_drop, tuples_getElem? hk]
  rw [rest_advance hGoing, List.head?_cons] at hHead
  exact Option.some.inj hHead

theorem current_turned_round {spans : List Span} {k : Nat} (hk : (spans.map Span.size).prod ≤ k) :
    ((start spans).advanceBy k).current = spans.map Span.lo := by
  rw [current, wheels_of_finished ((finished_turned_iff spans k).mpr hk), List.map_map]
  rfl

theorem drain_turned (spans : List Span) (k : Nat) :
    ((start spans).advanceBy k).drain.1 = (tuples spans).drop k := by
  rw [drain_eq, rest_turned]

theorem drain_start (spans : List Span) : (start spans).drain.1 = tuples spans :=
  drain_turned spans 0

theorem next?_drain (o : Odometer) : o.drain.2.next? = none := by
  rw [drain_eq, next?_eq_none_iff, finished_iff, rest_advanceBy, List.drop_length]

end Odometer

/-- A list of all tuples over the spans, each of them once and in lexicographic order. -/
structure Enumerates (all : List (List Int32)) (spans : List Span) : Prop where
  length : all.length = (spans.map Span.size).prod
  ascending : all.Pairwise (· < ·)
  mem : ∀ tuple, tuple ∈ all ↔ List.Forall₂ (· ∈ ·) tuple spans

theorem enumerates_tuples (spans : List Span) : Enumerates (tuples spans) spans :=
  ⟨length_tuples spans, pairwise_tuples spans, fun _ => mem_tuples⟩

namespace Odometer

/-- After some turns an odometer shows the digits of their number, or stands at the start for good
once there were as many turns as tuples; no counter overflows, and it yields the rest of the
enumeration and nothing else. -/
theorem counts_turns (spans : List Span) :
    Enumerates (start spans).drain.1 spans ∧
    (spans = [] → (start spans).drain.1 = [[]]) ∧
    ∀ k,
      (k < (spans.map Span.size).prod →
        ((start spans).advanceBy k).finished = false ∧
          ((start spans).advanceBy k).current.map Int32.toInt = countersAt spans k) ∧
      ((spans.map Span.size).prod ≤ k →
        ((start spans).advanceBy k).finished = true ∧
          ((start spans).advanceBy k).current = spans.map Span.lo ∧
          ((start spans).advanceBy k).advance = (start spans).advanceBy k) ∧
      (∀ w ∈ ((start spans).advanceBy k).wheels, w.value.toInt + 1 ≤ Int32.maxValue.toInt) ∧
      (∀ n, (((start spans).advanceBy k).take n).1 = ((start spans).drain.1.drop k).take n) ∧
      ((start spans).advanceBy k).drain.1 = (start spans).drain.1.drop k ∧
      ((start spans).advanceBy k).drain.1.length = (spans.map Span.size).prod - k ∧
      ((start spans).advanceBy k).drain.2.next? = none := by
  refine ⟨?_, ?_, fun k => ⟨?_, ?_, ?_, ?_, ?_, ?_, next?_drain _⟩⟩
  · rw [drain_start]
    exact enumerates_tuples spans
  · rintro rfl
    rfl
  · intro hk
    refine ⟨?_, ?_⟩
    · rw [← Bool.not_eq_true, finished_turned_iff]
      exact Nat.not_le_of_lt hk
    · rw [current_turned hk, toInt_tupleAt]
  · intro hk
    have hFinished := (finished_turned_iff spans k).mpr hk
    exact ⟨hFinished, current_turned_round hk, advance_of_finished hFinished⟩
  · intro w _
    have hHi := Int32.lt_iff_toInt_lt.mp w.value_mem.2
    have hMax := w.span.hi.toInt_le
    omega
  · intro n
    rw [take_eq, rest_turned, drain_start]
  · rw [drain_turned, drain_start]
  · rw [drain_turned, List.length_drop, length_tuples]

/-- Three values around zero, one value, and the two values before the largest one. -/
def sampleSpans : List Span :=
  [⟨-1, 2, by decide⟩, ⟨5, 6, by decide⟩, ⟨2147483645, 2147483647, by decide⟩]

/-- After three turns the outer wheel was carried to once; after six the odometer is back. -/
theorem counts_turns_sample :
    ((start sampleSpans).advanceBy 3).current.map Int32.toInt = [0, 5, 2147483646] ∧
    ((start sampleSpans).advanceBy 6).current = [-1, 5, 2147483645] ∧
    ((start sampleSpans).advanceBy 2).drain.1.length = 4 := by
  obtain ⟨_, _, hTurned⟩ := counts_turns sampleSpans
  obtain ⟨hDigits, _⟩ := hTurned 3
  obtain ⟨_, hRound, _⟩ := hTurned 6
  obtain ⟨_, _, _, _, _, hLeft, _⟩ := hTurned 2
  refine ⟨?_, ?_, ?_⟩
  · rw [(hDigits (by decide)).2]
    decide
  · rw [(hRound (by decide)).2.1]
    decide
  · rw [hLeft]
    decide

end Odometer

end PipelineForge.Axis
