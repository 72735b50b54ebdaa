import PipelineForge.Factory.Work
import PipelineForge.Proofs.Axis.Enumeration

/-!
# Orders

The order for a combination carries the index that the packing of the axes gives to the tuple
that the odometer shows. What the fills write into the blueprint is not looked at.
-/

namespace PipelineForge

open Axis

namespace Axis

theorem Packing.ofSpans_eq_ok {spans : List Span} {packing : Packing}
    (h : Packing.ofSpans spans = .ok packing) : packing.spans = spans := by
  rw [Packing.ofSpans] at h
  split at h
  · cases h
    rfl
  · cases h

def Packing.indices (packing : Packing) : List (Except (Trouble Violation) CompositeIndex) :=
  (tuples packing.spans).map packing.encode

theorem Packing.length_indices (packing : Packing) :
    packing.indices.length = (packing.spans.map Span.size).prod := by
  rw [indices, List.length_map, length_tuples]

theorem Odometer.length_current (o : Odometer) : o.current.length = o.spans.length := by
  rw [Odometer.current, Odometer.spans, List.length_map, List.length_map]

end Axis

namespace Factory

theorem fillAll_eq_ok {cs : List Characteristic} {vs : List Int32} {i j : CompositeIndex}
    {b b' : Blueprint} (h : fillAll cs vs i b = .ok (j, b')) :
    Packing.extendAll i (cs.map Characteristic.span) vs = .ok j := by
  induction cs generalizing vs i b with
  | nil =>
    rw [fillAll] at h
    · cases h
      rfl
    · exact nofun
  | cons c cs ih =>
    cases vs with
    | nil =>
      rw [fillAll] at h
      · cases h
        rfl
      · exact nofun
    | cons v vs =>
      simp only [fillAll] at h
      rw [List.map_cons, Packing.extendAll]
      split at h
      · cases h
      next i' hExtend =>
      simp only [hExtend]
      split at h
      · exact ih h
      split at h
      · exact ih h
      · cases h

/-- The only error of filling is a value outside of its span, and a fault is that of one axis with a
value of its span. -/
theorem fillAll_trouble {cs : List Characteristic} {vs : List Int32} {i : CompositeIndex}
    {b : Blueprint} {t : Trouble ForgeError} (h : fillAll cs vs i b = .error t) :
    (∃ name cause, t = .error (.violation name cause)) ∨
      ∃ c ∈ cs, ∃ v ∈ c.span, ∃ given x, (c.fill v given).2 = some x ∧ t = .fault x := by
  induction cs generalizing vs i b with
  | nil =>
    rw [fillAll] at h
    · cases h
    · exact nofun
  | cons c cs ih =>
    have hLater {vs : List Int32} {i : CompositeIndex} {b : Blueprint}
        (h : fillAll cs vs i b = .error t) :
        (∃ name cause, t = .error (.violation name cause)) ∨
          ∃ d ∈ c :: cs, ∃ v ∈ d.span, ∃ given x, (d.fill v given).2 = some x ∧ t = .fault x := by
      refine (ih h).imp_right ?_
      rintro ⟨d, hMem, hFault⟩
      exact ⟨d, List.mem_cons_of_mem _ hMem, hFault⟩
    cases vs with
    | nil =>
      rw [fillAll] at h
      · cases h
      · exact nofun
    | cons v vs =>
      simp only [fillAll] at h
      split at h
      · next violation _ =>
        cases h
        exact .inl ⟨c.name, violation, rfl⟩
      next i' hExtend =>
      split at h
      · exact hLater h
      split at h
      · exact hLater h
      · next x hFill =>
        cases h
        have hMem : v ∈ c.span := by
          by_contra hNot
          rw [CompositeIndex.extend_of_not_mem i hNot] at hExtend
          cases hExtend
        exact .inr ⟨c, List.mem_cons_self, v, hMem, b, x, congrArg Prod.snd hFill, rfl⟩

variable {f : Factory} {plan : Plan}

theorem encode_of_orderOf {o : CompileOrder} (h : orderOf f plan = .ok o)
    (hSpans : plan.packing.spans = f.axes.map Characteristic.span)
    (hShown : plan.odometer.spans = plan.packing.spans) :
    plan.packing.encode plan.odometer.current = .ok o.index := by
  rw [orderOf] at h
  cases hFill : fillAll f.axes plan.odometer.current .zero f.base with
  | error trouble =>
    rw [hFill] at h
    cases h
  | ok filled =>
    rw [hFill] at h
    cases h
    have hExtend := fillAll_eq_ok hFill
    rw [Packing.encode, if_pos (by rw [Odometer.length_current, hShown]), hSpans, hExtend]
    rfl

theorem fillAll_of_orderOf {t : Trouble ForgeError} (h : orderOf f plan = .error t) :
    fillAll f.axes plan.odometer.current .zero f.base = .error t := by
  rw [orderOf] at h
  cases hFill : fillAll f.axes plan.odometer.current .zero f.base with
  | error trouble =>
    rw [hFill] at h
    cases h
    rfl
  | ok filled =>
    rw [hFill] at h
    cases h

theorem orderOf_eq_error {e : ForgeError} (h : orderOf f plan = .error (.error e)) :
    ∃ name cause, e = .violation name cause := by
  rcases fillAll_trouble (fillAll_of_orderOf h) with ⟨name, cause, hSame⟩ | hFault
  · cases hSame
    exact ⟨name, cause, rfl⟩
  · obtain ⟨_, _, _, _, _, _, _, hSame⟩ := hFault
    cases hSame

theorem orderOf_eq_fault {x : Fault} (h : orderOf f plan = .error (.fault x)) :
    ∃ c ∈ f.axes, ∃ v ∈ c.span, ∃ given, (c.fill v given).2 = some x := by
  rcases fillAll_trouble (fillAll_of_orderOf h) with ⟨_, _, hSame⟩ | hFault
  · cases hSame
  · obtain ⟨c, hAxis, v, hMem, given, _, hFill, hSame⟩ := hFault
    cases hSame
    exact ⟨c, hAxis, v, hMem, given, hFill⟩

end Factory

end PipelineForge
