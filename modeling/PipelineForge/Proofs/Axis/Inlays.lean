import PipelineForge.Proofs.Axis.Counting
import PipelineForge.Proofs.Axis.Fields
import PipelineForge.Proofs.Axis.Products

/-!
# Inlaid spans

Spans of one value are laid into a list of spans, anywhere and any number of them. Their fields
have no bits and their wheels carry with every turn, so packing, encoding, decoding, counting and
enumerating are those of the list without them, up to the one value that each of them adds to a
tuple. Which axes a factory has is not looked at.
-/

namespace PipelineForge.Axis

namespace Span

def one (b : Int32) (h : b < b + 1) : Span := ⟨b, b + 1, h⟩

variable {b : Int32} {h : b < b + 1}

theorem size_one : (one b h).size = 1 := by
  have hMin := b.le_toInt
  have hMax := b.toInt_lt
  have hLess := Int32.lt_iff_toInt_lt.mp h
  have hSucc : (b + 1).toInt = (b.toInt + 1).bmod (2 ^ 32) := Int32.toInt_add b 1
  rw [Int.bmod_def] at hSucc
  simp only [size, one]
  omega

theorem width_one : (one b h).width = 0 := by
  rw [width, size_one]
  rfl

theorem offset_lo (s : Span) : s.offset s.lo = 0 := by simp [offset]

theorem value_zero (s : Span) : s.value 0 = s.lo := by rw [← s.offset_lo, value_offset s.lo_mem]

end Span

namespace CompositeIndex

theorem push_zero (i : CompositeIndex) : i.push 0 (UInt64.ofNat 0) = i := by simp [push]

theorem low_zero (i : CompositeIndex) : i.low 0 = 0 := Nat.mod_one _

theorem drop_zero (i : CompositeIndex) : i.drop 0 = i := by simp [drop]

end CompositeIndex

/-- The ways to lay spans of one value into a list. -/
inductive Inlay : List Span → List Span → Type where
  | done : Inlay [] []
  | keep {ss ts : List Span} (s : Span) (rest : Inlay ss ts) : Inlay (s :: ss) (s :: ts)
  | insert {ss ts : List Span} (b : Int32) (h : b < b + 1) (rest : Inlay ss ts) :
    Inlay ss (.one b h :: ts)

namespace Inlay

/-- Lays what is made of the new spans into a list with an entry for each of the old ones. -/
def weave {α : Type} (make : Span → α) {ss ts : List Span} : Inlay ss ts → List α → List α
  | .done, as => as
  | .keep _ rest, [] => rest.weave make []
  | .keep _ rest, a :: as => a :: rest.weave make as
  | .insert b h rest, as => make (.one b h) :: rest.weave make as

/-- The tuple with the one value of each new span. -/
def values {ss ts : List Span} (inlay : Inlay ss ts) : List Int32 → List Int32 :=
  inlay.weave Span.lo

def count {ss ts : List Span} : Inlay ss ts → Nat
  | .done => 0
  | .keep _ rest => rest.count
  | .insert _ _ rest => rest.count + 1

variable {ss ts : List Span} (inlay : Inlay ss ts)

theorem length_weave {α : Type} (make : Span → α) (as : List α) :
    (inlay.weave make as).length = as.length + inlay.count := by
  induction inlay generalizing as with
  | done => rfl
  | keep s rest ih =>
    cases as with
    | nil => exact ih []
    | cons a as =>
      rw [weave, List.length_cons, ih, List.length_cons, count]
      omega
  | insert b h rest ih =>
    rw [weave, List.length_cons, ih, count]
    omega

theorem map_weave {α β : Type} (make : Span → α) (f : α → β) (as : List α) :
    (inlay.weave make as).map f = inlay.weave (f ∘ make) (as.map f) := by
  induction inlay generalizing as with
  | done => rfl
  | keep s rest ih =>
    cases as with
    | nil => exact ih []
    | cons a as => rw [weave, List.map_cons, ih, List.map_cons, weave]
  | insert b h rest ih =>
    rw [weave, List.map_cons, ih, weave]
    rfl

theorem weave_spans {α : Type} (make : Span → α) :
    inlay.weave make (ss.map make) = ts.map make := by
  induction inlay with
  | done => rfl
  | keep s rest ih => rw [List.map_cons, weave, ih, List.map_cons]
  | insert b h rest ih => rw [weave, ih, List.map_cons]

theorem length_spans : ts.length = ss.length + inlay.count := by
  rw [← List.length_map id, ← inlay.weave_spans, length_weave, List.length_map]

include inlay in
theorem totalWidth_eq : totalWidth ts = totalWidth ss := by
  induction inlay with
  | done => rfl
  | keep s rest ih => exact congrArg (s.width + ·) ih
  | @insert ss ts b h rest ih =>
    have hHead : totalWidth (.one b h :: ts) = (Span.one b h).width + totalWidth ts := rfl
    rw [hHead, Span.width_one, Nat.zero_add, ih]

include inlay in
theorem prod_sizes_eq : (ts.map Span.size).prod = (ss.map Span.size).prod := by
  induction inlay with
  | done => rfl
  | keep s rest ih => rw [List.map_cons, List.prod_cons, ih, List.map_cons, List.prod_cons]
  | insert b h rest ih => rw [List.map_cons, List.prod_cons, Span.size_one, Nat.one_mul, ih]

include inlay in
theorem totalBits_eq :
    (Packing.ofSpans ts).map Packing.totalBits = (Packing.ofSpans ss).map Packing.totalBits := by
  have hWidth := inlay.totalWidth_eq
  rw [Packing.ofSpans, Packing.ofSpans]
  by_cases hFits : totalWidth ss ≤ 64
  · rw [dif_pos hFits, dif_pos (hWidth ▸ hFits)]
    exact congrArg Except.ok hWidth
  · rw [dif_neg hFits, dif_neg (hWidth ▸ hFits), hWidth]

include inlay in
theorem combinationCount_eq : combinationCount ts = combinationCount ss := by
  rw [Axis.combinationCount_eq, Axis.combinationCount_eq, inlay.prod_sizes_eq]

section Packing

theorem extendAll_values (i : CompositeIndex) {tuple : List Int32}
    (hLength : tuple.length = ss.length) :
    Packing.extendAll i ts (inlay.values tuple) = Packing.extendAll i ss tuple := by
  induction inlay generalizing i tuple with
  | done => rfl
  | keep s rest ih =>
    cases tuple with
    | nil => cases hLength
    | cons v vs =>
      rw [values, weave, Packing.extendAll, Packing.extendAll]
      cases i.extend s v with
      | error e => rfl
      | ok j => exact ih j (Nat.succ.inj hLength)
  | insert b h rest ih =>
    have hSame : i.extend (.one b h) (Span.one b h).lo = .ok i := by
      rw [CompositeIndex.extend_of_mem i (Span.lo_mem _), Span.width_one, Span.offset_lo,
        CompositeIndex.push_zero]
    rw [values, weave, Packing.extendAll, hSame]
    exact ih i hLength

theorem takeFields_eq (i : CompositeIndex) :
    Packing.takeFields ts i =
      (inlay.values (Packing.takeFields ss i).1, (Packing.takeFields ss i).2) := by
  induction inlay with
  | done => rfl
  | keep s rest ih => rw [Packing.takeFields, ih]; rfl
  | insert b h rest ih =>
    rw [Packing.takeFields, ih, Span.width_one]
    simp only [CompositeIndex.low_zero, CompositeIndex.drop_zero, Span.value_zero]
    rfl

variable {p q : Packing} (hp : Packing.ofSpans ss = .ok p) (hq : Packing.ofSpans ts = .ok q)
include hp hq

theorem encode_values {tuple : List Int32} (hLength : tuple.length = ss.length) :
    q.encode (inlay.values tuple) = p.encode tuple := by
  have hLength' : (inlay.values tuple).length = ts.length := by
    rw [values, length_weave, hLength, ← inlay.length_spans]
  rw [Packing.encode, Packing.encode, (Packing.ofSpans_cases hp).1, (Packing.ofSpans_cases hq).1,
    if_pos hLength, if_pos hLength', inlay.extendAll_values _ hLength]

theorem encode_misfit {tuple : List Int32} (hLength : tuple.length ≠ ss.length) :
    p.encode tuple = .error (.fault (.arity tuple.length ss.length)) ∧
    q.encode (inlay.values tuple) =
      .error (.fault (.arity (tuple.length + inlay.count) (ss.length + inlay.count))) := by
  have hCount : (inlay.values tuple).length = tuple.length + inlay.count := inlay.length_weave _ _
  constructor
  · rw [Packing.encode, (Packing.ofSpans_cases hp).1, if_neg hLength]
  · rw [Packing.encode, (Packing.ofSpans_cases hq).1, hCount, inlay.length_spans,
      if_neg (by omega)]

theorem decode_eq (i : CompositeIndex) : q.decode i = inlay.values (p.decode i) := by
  rw [Packing.decode, Packing.decode, (Packing.ofSpans_cases hp).1, (Packing.ofSpans_cases hq).1,
    inlay.takeFields_eq]

end Packing

section Odometer

open Odometer

def odometer (o : Odometer) : Odometer := ⟨inlay.weave Wheel.atStart o.wheels, o.finished⟩

theorem odometer_start : inlay.odometer (start ss) = start ts := by
  rw [odometer, start, start, inlay.weave_spans]

theorem current_odometer (o : Odometer) : (inlay.odometer o).current = inlay.values o.current := by
  rw [current, odometer, map_weave]
  rfl

/-- The wheel of a new span hands every carry on and shows its one value again. -/
theorem turn_weave (ws : List Wheel) :
    turn (inlay.weave Wheel.atStart ws) =
      (inlay.weave Wheel.atStart (turn ws).1, (turn ws).2) := by
  induction inlay generalizing ws with
  | done => rfl
  | keep s rest ih =>
    cases ws with
    | nil => exact ih []
    | cons w ws =>
      rw [weave, turn, ih, turn]
      obtain ⟨ws', carry⟩ := turn ws
      cases carry with
      | false => rfl
      | true => cases w.next? <;> rfl
  | insert b h rest ih =>
    have hLast : (Wheel.atStart (.one b h)).next? = none :=
      dif_neg fun hNext : b + 1 < b + 1 => Int32.lt_irrefl hNext
    rw [weave, turn, ih]
    cases hCarry : (turn ws).2 with
    | false => rfl
    | true => simp only [hLast]; rfl

theorem advance_odometer (o : Odometer) :
    (inlay.odometer o).advance = inlay.odometer o.advance := by
  rw [advance, advance]
  by_cases hFinished : o.finished = true
  · rw [if_pos hFinished, if_pos (show (inlay.odometer o).finished = true from hFinished)]
  · rw [if_neg hFinished, if_neg (show ¬ (inlay.odometer o).finished = true from hFinished)]
    rw [odometer, turn_weave]
    rfl

theorem advanceBy_odometer (o : Odometer) (n : Nat) :
    (inlay.odometer o).advanceBy n = inlay.odometer (o.advanceBy n) := by
  induction n generalizing o with
  | zero => rfl
  | succ n ih => rw [advanceBy, advance_odometer, ih, advanceBy]

theorem take_odometer (o : Odometer) (n : Nat) :
    (inlay.odometer o).take n = ((o.take n).1.map inlay.values, inlay.odometer (o.take n).2) := by
  induction n generalizing o with
  | zero => rfl
  | succ n ih =>
    cases hFinished : o.finished with
    | true =>
      have hFinished' : (inlay.odometer o).finished = true := hFinished
      rw [take_of_finished hFinished, take_of_finished hFinished']
      rfl
    | false =>
      have hNext : o.next? = some (o.current, o.advance) := by simp [next?, hFinished]
      have hNext' : (inlay.odometer o).next? =
          some (inlay.values o.current, inlay.odometer o.advance) := by
        rw [← current_odometer, ← advance_odometer]
        simp [next?, odometer, hFinished]
      simp only [take, hNext, hNext', ih, List.map_cons]

theorem rank_weave (ws : List Wheel) : rank (inlay.weave Wheel.atStart ws) = rank ws := by
  induction inlay generalizing ws with
  | done => rfl
  | keep s rest ih =>
    cases ws with
    | nil => exact ih []
    | cons w ws => rw [weave, rank, ih, rank]
  | insert b h rest ih =>
    rw [weave, rank, ih]
    have hSize : (Wheel.atStart (.one b h)).span.size = 1 := Span.size_one
    have hOffset : (Wheel.atStart (.one b h)).span.offset (Wheel.atStart (.one b h)).value = 0 :=
      Span.offset_lo _
    rw [hSize, hOffset]
    simp

theorem drain_odometer (o : Odometer) :
    (inlay.odometer o).drain = (o.drain.1.map inlay.values, inlay.odometer o.drain.2) := by
  have hLeft : (inlay.odometer o).left = o.left := by
    rw [left, left, odometer, rank_weave]
  rw [drain, hLeft, take_odometer, ← drain]

theorem tuples_eq : tuples ts = (tuples ss).map inlay.values := by
  rw [← drain_start, ← inlay.odometer_start, drain_odometer, drain_start]

end Odometer

include inlay in
theorem map_encode_eq {p q : Packing} (hp : Packing.ofSpans ss = .ok p)
    (hq : Packing.ofSpans ts = .ok q) :
    (tuples ts).map q.encode = (tuples ss).map p.encode := by
  rw [inlay.tuples_eq, List.map_map]
  refine List.map_congr_left fun tuple hTuple => ?_
  exact inlay.encode_values hp hq (mem_tuples.mp hTuple).length_eq

/-- Everything that is done with a list of spans is done in the same way with the new list: bits,
indices and counts are the same, and tuples are the same up to the values of the new spans. -/
structure Neutral {ss ts : List Span} (inlay : Inlay ss ts) : Prop where
  bits : (Packing.ofSpans ts).map Packing.totalBits = (Packing.ofSpans ss).map Packing.totalBits
  encode : ∀ p q, Packing.ofSpans ss = .ok p → Packing.ofSpans ts = .ok q →
    ∀ tuple, tuple.length = ss.length → q.encode (inlay.values tuple) = p.encode tuple
  misfit : ∀ p q, Packing.ofSpans ss = .ok p → Packing.ofSpans ts = .ok q →
    ∀ tuple, tuple.length ≠ ss.length →
      p.encode tuple = .error (.fault (.arity tuple.length ss.length)) ∧
      q.encode (inlay.values tuple) =
        .error (.fault (.arity (tuple.length + inlay.count) (ss.length + inlay.count)))
  decode : ∀ p q, Packing.ofSpans ss = .ok p → Packing.ofSpans ts = .ok q →
    ∀ index, q.decode index = inlay.values (p.decode index)
  count : combinationCount ts = combinationCount ss
  turned : ∀ k,
    ((Odometer.start ts).advanceBy k).finished = ((Odometer.start ss).advanceBy k).finished ∧
    ((Odometer.start ts).advanceBy k).current =
      inlay.values ((Odometer.start ss).advanceBy k).current ∧
    ∀ n, (((Odometer.start ts).advanceBy k).take n).1 =
      (((Odometer.start ss).advanceBy k).take n).1.map inlay.values
  drained : (Odometer.start ts).drain.1 = (Odometer.start ss).drain.1.map inlay.values

theorem neutral {ss ts : List Span} (inlay : Inlay ss ts) : inlay.Neutral where
  bits := inlay.totalBits_eq
  encode _ _ hp hq _ := inlay.encode_values hp hq
  misfit _ _ hp hq _ := inlay.encode_misfit hp hq
  decode _ _ hp hq := inlay.decode_eq hp hq
  count := inlay.combinationCount_eq
  turned k := by
    rw [← inlay.odometer_start, advanceBy_odometer]
    exact ⟨rfl, inlay.current_odometer _, fun n => by rw [take_odometer]⟩
  drained := by rw [← inlay.odometer_start, drain_odometer]

example : (keep ⟨-1, 2, by decide⟩ (insert 7 (by decide) (keep ⟨0, 2, by decide⟩ done))).values
    [1, 0] = [1, 7, 0] := by decide

end Inlay

end PipelineForge.Axis
