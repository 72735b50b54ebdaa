import Mathlib.Data.Finset.Card
import PipelineForge.Hub.Slot

/-!
# Contents of slots

A slot is told by the list of its deliveries: how many there were, which was the last one for each
index, and how many indices they have.
-/

namespace PipelineForge

open Axis

namespace Slot

/-- What a slot is after some deliveries. -/
structure Collects (s : Slot) (ps : List Pipeline) : Prop where
  accepted : s.accepted = ps.length
  get? : ∀ i, s.get? i = (ps.filter fun p => p.index = i).getLast?
  size : s.size = (ps.map Pipeline.index).toFinset.card

variable {ps : List Pipeline}

theorem accepted_foldl (s : Slot) (ps : List Pipeline) :
    (ps.foldl accept s).accepted = s.accepted + ps.length := by
  induction ps generalizing s with
  | nil => rfl
  | cons p ps ih =>
    rw [List.foldl_cons, ih, List.length_cons]
    exact Nat.succ_add_eq_add_succ _ _

theorem get?_foldl (ps : List Pipeline) (i : CompositeIndex) :
    (ps.foldl accept {}).get? i = (ps.filter fun p => p.index = i).getLast? := by
  induction ps using List.reverseRecOn with
  | nil => rfl
  | append_singleton ps p ih =>
    rw [List.foldl_append, List.foldl_cons, List.foldl_nil, get?_accept, List.filter_append, ih]
    by_cases hp : p.index = i
    · simp [hp]
    · simp [hp, Ne.symm hp]

def keys (s : Slot) : List CompositeIndex := s.pipelines.map Prod.fst

theorem map_put (p : Pipeline) (es : List (CompositeIndex × Pipeline)) :
    (put p es).map Prod.fst =
      if p.index ∈ es.map Prod.fst then es.map Prod.fst else es.map Prod.fst ++ [p.index] := by
  induction es with
  | nil => rfl
  | cons e es ih =>
    rw [put]
    split
    · next he => simp [he]
    · next he =>
      simp only [List.map_cons, ih, List.mem_cons, Ne.symm he, false_or, List.cons_append]
      split <;> rfl

theorem keys_accept (s : Slot) (p : Pipeline) :
    (s.accept p).keys = if p.index ∈ s.keys then s.keys else s.keys ++ [p.index] :=
  map_put p s.pipelines

theorem keys_foldl (ps : List Pipeline) :
    (ps.foldl accept {}).keys.Nodup ∧
      ∀ i, i ∈ (ps.foldl accept {}).keys ↔ i ∈ ps.map Pipeline.index := by
  induction ps using List.reverseRecOn with
  | nil => exact ⟨List.nodup_nil, fun i => Iff.rfl⟩
  | append_singleton ps p ih =>
    obtain ⟨hNodup, hMem⟩ := ih
    rw [List.foldl_append, List.foldl_cons, List.foldl_nil, keys_accept, List.map_append]
    split
    · next hOld =>
      refine ⟨hNodup, fun i => ?_⟩
      rw [hMem, List.mem_append, List.map_singleton, List.mem_singleton]
      exact ⟨.inl, fun hSome => hSome.elim id fun heq => heq ▸ (hMem _).mp hOld⟩
    · next hNew =>
      refine ⟨List.nodup_append.mpr ⟨hNodup, List.nodup_singleton _, ?_⟩, fun i => ?_⟩
      · intro i hi j hj heq
        rw [List.mem_singleton.mp hj] at heq
        exact hNew (heq ▸ hi)
      · rw [List.mem_append, List.mem_append, hMem, List.map_singleton]

theorem collects_foldl (ps : List Pipeline) : (ps.foldl accept {}).Collects ps := by
  obtain ⟨hNodup, hMem⟩ := keys_foldl ps
  constructor
  · exact (accepted_foldl {} ps).trans (Nat.zero_add _)
  · exact get?_foldl ps
  · have hSame : (ps.map Pipeline.index).toFinset = (ps.foldl accept {}).keys.toFinset := by
      ext i
      rw [List.mem_toFinset, List.mem_toFinset, hMem]
    rw [hSame, List.toFinset_card_of_nodup hNodup, keys, List.length_map, Slot.size]

end Slot

end PipelineForge
