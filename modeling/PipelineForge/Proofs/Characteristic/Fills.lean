import PipelineForge.Characteristic.Standard

/-!
# Fills of the standard characteristics

A characteristic that comes with the library has values for places of its list only, so what it
fills in is always found. Its fills fault only where the list of blend states would outgrow the
memory. Setting up is left out.
-/

namespace PipelineForge

open Axis

namespace Standard

/-- The number of an attachment has a successor. -/
def Numbered : Standard → Prop
  | blendMode attachment _ => attachment.toNat + 1 < UInt64.size
  | _ => True

variable {α : Type} {items : List α} {span : Span} {v : Int32}

theorem lt_length_of_mem (h : placesOf items = .ok span) (hMem : v ∈ span) :
    0 ≤ v.toInt ∧ v.toInt < items.length := by
  rw [placesOf, Span.make] at h
  split at h
  · cases h
    have hLow := Int32.le_iff_toInt_le.mp hMem.1
    have hHigh := Int32.lt_iff_toInt_lt.mp hMem.2
    rw [Int32.toInt_ofNat', Int.bmod_def] at hHigh
    have hMod := Nat.mod_le items.length Int32.size
    refine ⟨hLow, ?_⟩
    split at hHigh
    · omega
    · omega
  · cases h

theorem select_of_mem (h : placesOf items = .ok span) (hMem : v ∈ span) :
    ∃ item, items[v.toInt.toNat]? = some item ∧ select items v = .ok item := by
  obtain ⟨hLow, hHigh⟩ := lt_length_of_mem h hMem
  have hPlace : (UInt64.ofInt v.toInt).toNat = v.toInt.toNat := by
    have hMax := v.toInt_lt
    rw [UInt64.ofInt, UInt64.toNat_ofNat']
    omega
  have hBound : v.toInt.toNat < items.length := by omega
  have hItem := List.getElem?_eq_getElem hBound
  refine ⟨items[v.toInt.toNat], hItem, ?_⟩
  simp only [select, hPlace, hItem]

end Standard

/-- A choice or a range of the library, of which no attachment has the last number. -/
def Characteristic.Provided (c : Characteristic) : Prop :=
  ∃ s : Standard, s.build = .ok c ∧ s.Numbered

theorem Characteristic.of_places {c : Characteristic} {name : String}
    {fill : Int32 → Blueprint → Blueprint × Option Fault} {places : Except Fault Span}
    (h : (places.map fun span => Characteristic.ofFill name span fill) = .ok c) :
    places = .ok c.span ∧ c.fill = fill ∧ c.singleton = false := by
  cases places with
  | error x => cases h
  | ok span =>
    cases h
    exact ⟨rfl, rfl, rfl⟩

theorem Blueprint.setAttachmentBlend_fault {b : Blueprint} {attachment : UInt64}
    {state : BlendState} {x : Fault} (hNumber : attachment.toNat + 1 < UInt64.size)
    (h : b.setAttachmentBlend attachment state = .error x) : x = .capacityOverflow := by
  simp only [setAttachmentBlend] at h
  split at h
  · next hLast => exact absurd hLast.2 (Nat.ne_of_lt hNumber)
  split at h
  · cases h
    rfl
  · cases h

/-- What a characteristic of the library fills in is found, and the only thing that can fail is to
get the memory for it. -/
theorem Characteristic.Provided.fill_fault {c : Characteristic} (hProvided : c.Provided) {v : Int32}
    (hMem : v ∈ c.span) {b : Blueprint} {x : Fault} (hFault : (c.fill v b).2 = some x) :
    x = .capacityOverflow := by
  obtain ⟨s, hBuild, hNumbered⟩ := hProvided
  cases s with
  | shaderProgram name stages layout push =>
    cases hBuild
    cases hFault
  | frameAttachments colors depth =>
    cases hBuild
    cases hFault
  | topology values =>
    cases values with
    | nil => cases hBuild
    | cons value values =>
      obtain ⟨hSpan, hFill, _⟩ := Characteristic.of_places hBuild
      obtain ⟨chosen, _, hSelect⟩ := Standard.select_of_mem hSpan hMem
      simp only [hFill, Standard.fillTopology, hSelect] at hFault
      cases hFault
  | blendMode attachment modes =>
    cases modes with
    | nil => cases hBuild
    | cons mode modes =>
      obtain ⟨hSpan, hFill, _⟩ := Characteristic.of_places hBuild
      obtain ⟨chosen, _, hSelect⟩ := Standard.select_of_mem hSpan hMem
      simp only [hFill, Standard.fillBlend, hSelect] at hFault
      split at hFault
      · cases hFault
      · next hBlend =>
        cases hFault
        exact Blueprint.setAttachmentBlend_fault hNumbered hBlend
  | constant name stage id span =>
    cases hBuild
    cases hFault

end PipelineForge
