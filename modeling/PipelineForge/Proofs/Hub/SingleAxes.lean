import PipelineForge.Proofs.Axis.Inlays
import PipelineForge.Proofs.Axis.Ranking
import PipelineForge.Proofs.Hub.Handoffs

/-!
# Axes of one value

The pipelines of a factory have the indices of its packing, in order. Axes of one value, such as
singletons have, do not change these indices wherever they stand among the other axes. So two
factories whose axes differ in nothing else go through the same indices, as far as they come. What
the factories do to their blueprints may differ altogether.
-/

namespace PipelineForge.Plant

open Axis
open Factory (Event)

variable {κ : Type} {compiler : Compiler κ} {first p : Plant κ}

namespace Run

/-- The indices of the pipelines that a factory made, in the order in which it sent them. -/
def indices (r : Run compiler first p) (i : Nat) (f : FactoryId) : List CompositeIndex :=
  (r.made i f).map Pipeline.index

def Succeeded (r : Run compiler first p) (i : Nat) (f : FactoryId) : Prop :=
  ∃ report cache, Event.ended f report none cache ∈ r.sent i

def spans (r : Run compiler first p) (i : Nat) (f : FactoryId) : List Span :=
  (r.admitted i f).map Characteristic.span

section

variable {limit : Option Nat} {k : κ} {settings : List HubSettings}
  (r : Run compiler (founded limit k settings) p) (i : Nat) (f : FactoryId)
  (hIndex : compiler.KeepsIndex) (hCaches : compiler.LeavesCaches)
include hIndex hCaches

/-- A factory whose axes do not fit into an index makes nothing and does not succeed. -/
theorem indices_of_unfit {bits : Nat} (hUnfit : Packing.ofSpans (r.spans i f) = .error bits) :
    r.indices i f = [] ∧ ¬ r.Succeeded i f := by
  have hNone {inbox : Factory.Inbox} {packing : Packing}
      {rest : List (Except (Trouble Violation) CompositeIndex)}
      (hListed : Factory.Listed inbox (r.record i f) packing rest) : False := by
    have hPacked := hListed.packed
    rw [show (r.record i f).admitted.map Characteristic.span = r.spans i f from rfl, hUnfit]
      at hPacked
    cases hPacked
  constructor
  · obtain ⟨inbox, hMade | ⟨packing, rest, hListed⟩⟩ := r.partly hIndex hCaches i f
    · exact congrArg (List.map Pipeline.index) hMade
    · exact (hNone hListed).elim
  · rintro ⟨report, cache, hEnded⟩
    obtain ⟨inbox, _, ⟨_, hFailure, _⟩ | ⟨packing, rest, hListed, _⟩⟩ :=
      r.truthful hIndex hCaches hEnded
    · exact hFailure rfl
    · exact hNone hListed

/-- A factory goes through the indices of its packing, and through all of them if it succeeds. -/
theorem indices_of_fit {packing : Packing} (hPacking : Packing.ofSpans (r.spans i f) = .ok packing)
    {all : List CompositeIndex} (hAll : (tuples packing.spans).map packing.encode = all.map .ok) :
    r.indices i f <+: all ∧ (r.Succeeded i f → r.indices i f = all) := by
  have hOk : Function.Injective
      (List.map (Except.ok : CompositeIndex → Except (Trouble Violation) CompositeIndex)) :=
    List.map_injective_iff.mpr fun _ _ => Except.ok.inj
  have hSplit {inbox : Factory.Inbox} {packing' : Packing}
      {rest : List (Except (Trouble Violation) CompositeIndex)}
      (hListed : Factory.Listed inbox (r.record i f) packing' rest) :
      all.map .ok = (r.indices i f).map .ok ++ rest := by
    have hSame : packing' = packing := Except.ok.inj (hListed.packed.symm.trans hPacking)
    rw [← hAll, ← hSame, indices, List.map_map]
    exact hListed.split
  constructor
  · obtain ⟨inbox, hMade | ⟨packing', rest, hListed⟩⟩ := r.partly hIndex hCaches i f
    · rw [indices, show r.made i f = [] from hMade]
      exact List.nil_prefix
    · have hFirst : all.take (r.indices i f).length = r.indices i f := by
        apply hOk
        rw [List.map_take, hSplit hListed, List.take_left' (List.length_map _)]
      rw [← hFirst]
      exact List.take_prefix _ _
  · rintro ⟨report, cache, hEnded⟩
    obtain ⟨inbox, _, ⟨_, hFailure, _⟩ | ⟨packing', rest, hListed, hDone, _⟩⟩ :=
      r.truthful hIndex hCaches hEnded
    · exact absurd rfl hFailure
    · have hMap := hSplit hListed
      rw [hDone rfl, List.append_nil] at hMap
      exact (hOk hMap).symm

end

end Run

/-- Axes of one value are neutral. Packing, encoding, decoding, counting and enumerating are the
same with them and without them, and two factories whose axes are the same but for axes of one value
go through the same indices in the same order: each makes a first part of them, and all of them if
it succeeds. -/
theorem single_axes_are_neutral :
    (∀ {ss ts : List Span} (inlay : Inlay ss ts), inlay.Neutral) ∧
    ∀ {κ κ' : Type} {compiler : Compiler κ} {compiler' : Compiler κ'},
      compiler.KeepsIndex → compiler.LeavesCaches →
      compiler'.KeepsIndex → compiler'.LeavesCaches →
      ∀ {limit limit' : Option Nat} {k : κ} {k' : κ'} {settings settings' : List HubSettings}
        {p : Plant κ} {p' : Plant κ'} (r : Run compiler (founded limit k settings) p)
        (r' : Run compiler' (founded limit' k' settings') p') (i i' : Nat) (f f' : FactoryId),
        Inlay (r.spans i f) (r'.spans i' f') →
        ∃ all : List CompositeIndex,
          r.indices i f <+: all ∧ r'.indices i' f' <+: all ∧
          (r.Succeeded i f → r.indices i f = all) ∧
          (r'.Succeeded i' f' → r'.indices i' f' = all) := by
  refine ⟨Inlay.neutral, ?_⟩
  intro κ κ' compiler compiler' hIndex hCaches hIndex' hCaches' limit limit' k k' settings settings'
    p p' r r' i i' f f' inlay
  have hBits := inlay.totalBits_eq
  cases hPacking : Packing.ofSpans (r.spans i f) with
  | error bits =>
    rw [hPacking] at hBits
    cases hPacking' : Packing.ofSpans (r'.spans i' f') with
    | error bits' =>
      obtain ⟨hNone, hFails⟩ := r.indices_of_unfit i f hIndex hCaches hPacking
      obtain ⟨hNone', hFails'⟩ := r'.indices_of_unfit i' f' hIndex' hCaches' hPacking'
      rw [hNone, hNone']
      exact ⟨[], List.nil_prefix, List.nil_prefix, fun h => absurd h hFails,
        fun h => absurd h hFails'⟩
    | ok packing' =>
      rw [hPacking'] at hBits
      cases hBits
  | ok packing =>
    rw [hPacking] at hBits
    cases hPacking' : Packing.ofSpans (r'.spans i' f') with
    | error bits' =>
      rw [hPacking'] at hBits
      cases hBits
    | ok packing' =>
      obtain ⟨all, hAll⟩ := packing.exists_indices
      have hAll' : (tuples packing'.spans).map packing'.encode = all.map .ok := by
        rw [← hAll, (Packing.ofSpans_cases hPacking).1, (Packing.ofSpans_cases hPacking').1]
        exact inlay.map_encode_eq hPacking hPacking'
      obtain ⟨hPrefix, hWhole⟩ := r.indices_of_fit i f hIndex hCaches hPacking hAll
      obtain ⟨hPrefix', hWhole'⟩ := r'.indices_of_fit i' f' hIndex' hCaches' hPacking' hAll'
      exact ⟨all, hPrefix, hPrefix', hWhole, hWhole'⟩

def axesRun (axes : List Characteristic) (steps : Nat) :
    (p : Plant Device) × Run Device.compiler (founded none {} [{}]) p :=
  Run.start.along <| List.flatten
    [[.own 0 .createSlot, .own 0 (.createFactory "lit" "main" 0)],
    axes.map fun c => .own 0 (.register 0 c),
    [.own 0 (.closeInbox 0), .own 0 (.start 0)],
    List.replicate steps (.work 0 0)]

def shades : Characteristic := .ofFill "shades" ⟨6, 8, by decide⟩ (Standard.fillConstant 1 0)

def idler (name : String) : Characteristic := .ofSetup name fun _ b => (b, none)

def plainRun : (p : Plant Device) × Run Device.compiler (founded none {} [{}]) p :=
  axesRun [.ofSetup "program" fun _ => Standard.setupProgram "program" [] 7 [], shades] 42

def paddedRun : (p : Plant Device) × Run Device.compiler (founded none {} [{}]) p :=
  axesRun [.ofSetup "program" fun _ => Standard.setupProgram "program" [] 7 [], idler "nothing",
    shades, idler "nothing more"] 60

def padding : Inlay (plainRun.2.spans 0 0) (paddedRun.2.spans 0 0) :=
  .keep .single (.insert 0 (by decide) (.keep shades.span (.insert 0 (by decide) .done)))

theorem single_axes_are_neutral_padded :
    padding.Neutral ∧ plainRun.2.indices 0 0 = [⟨0⟩, ⟨1⟩] ∧
      paddedRun.2.indices 0 0 = [⟨0⟩, ⟨1⟩] := by
  obtain ⟨hNeutral, hRuns⟩ := single_axes_are_neutral
  obtain ⟨all, _, _, hAll, hAll'⟩ :=
    hRuns Device.keepsIndex Device.leavesCaches Device.keepsIndex Device.leavesCaches plainRun.2
      paddedRun.2 0 0 0 0 padding
  have hPlain : plainRun.2.indices 0 0 = [⟨0⟩, ⟨1⟩] := by decide +kernel
  have hSucceeds : plainRun.2.Succeeded 0 0 :=
    ⟨⟨[.start, .setUp, .settled, .generate, .done], 2, 0, 2⟩, some 0, by decide +kernel⟩
  have hSucceeds' : paddedRun.2.Succeeded 0 0 :=
    ⟨⟨[.start, .setUp, .settled, .generate, .done], 2, 0, 2⟩, some 0, by decide +kernel⟩
  exact ⟨hNeutral padding, hPlain, (hAll' hSucceeds').trans ((hAll hSucceeds).symm.trans hPlain)⟩

end PipelineForge.Plant
