import Mathlib.Data.List.Nodup
import PipelineForge.Proofs.Lists
import PipelineForge.Shelf

/-!
# Shelves as maps

A shelf is a map from its keys: adding, changing and removing an entry do to the map what their
names say and nothing else, as long as its free places are really free. In which place an entry
stands makes no difference to the map, and it stays there until the entry is removed.
-/

namespace PipelineForge.Shelf

variable {α : Type}

structure Valid (s : Shelf α) : Prop where
  distinct : s.keys.Nodup
  used : ∀ key ∈ s.keys, key < s.nextKey
  free : ∀ place ∈ s.free, s.places[place]? = some none
  once : s.free.Nodup

theorem valid_empty : ({} : Shelf α).Valid := by
  constructor
  · exact List.nodup_nil
  · exact nofun
  · exact nofun
  · exact List.nodup_nil

theorem mem_keys_iff {s : Shelf α} {key : Nat} : key ∈ s.keys ↔ ∃ a, s.get? key = some a := by
  rw [← Option.isSome_iff_exists, ← not_iff_not, Option.not_isSome_iff_eq_none]
  exact lookup_eq_none.symm

theorem get?_eq_none_iff {s : Shelf α} {key : Nat} : s.get? key = none ↔ key ∉ s.keys :=
  lookup_eq_none

theorem Valid.get?_lt {s : Shelf α} (h : s.Valid) {key : Nat} {a : α} (hGet : s.get? key = some a) :
    key < s.nextKey := h.used key (mem_keys_iff.mpr ⟨a, hGet⟩)

theorem Valid.mem_entries_iff {s : Shelf α} (h : s.Valid) {key : Nat} {a : α} :
    (key, a) ∈ s.entries ↔ s.get? key = some a := by
  constructor
  · intro hMem
    obtain ⟨b, hGet⟩ := mem_keys_iff.mp (List.mem_map_of_mem hMem)
    obtain ⟨front, back, hSplit, _⟩ := List.lookup_eq_some_iff.mp hGet
    have hOther : (key, b) ∈ s.entries := hSplit ▸ List.mem_append_right _ List.mem_cons_self
    obtain rfl := congrArg Prod.snd (List.inj_on_of_nodup_map h.distinct hMem hOther rfl)
    exact hGet
  · intro hGet
    obtain ⟨front, back, hSplit, _⟩ := List.lookup_eq_some_iff.mp hGet
    rw [hSplit]
    exact List.mem_append_right _ List.mem_cons_self

theorem Valid.get?_nextKey {s : Shelf α} (h : s.Valid) : s.get? s.nextKey = none :=
  get?_eq_none_iff.mpr fun hMem => Nat.lt_irrefl _ (h.used _ hMem)

theorem Valid.entries_add {s : Shelf α} (h : s.Valid) (a : α) :
    ∃ front back, s.entries = front ++ back ∧
      (s.add a).1.entries = front ++ (s.nextKey, a) :: back := by
  cases hFree : s.free with
  | nil =>
    refine ⟨s.entries, [], (List.append_nil _).symm, ?_⟩
    simp [add, hFree, entries, List.filterMap_append]
  | cons place free =>
    have hPlace := h.free place (hFree ▸ List.mem_cons_self)
    obtain ⟨front, back, hPlaces, rfl⟩ := exists_split hPlace
    refine ⟨front.filterMap id, back.filterMap id, ?_, ?_⟩
    · simp [entries, hPlaces]
    · simp [add, hFree, entries, hPlaces]

theorem Valid.get?_add {s : Shelf α} (h : s.Valid) (a : α) (key : Nat) :
    (s.add a).1.get? key = if key = s.nextKey then some a else s.get? key := by
  obtain ⟨front, back, hOld, hNew⟩ := h.entries_add a
  have hNext := h.get?_nextKey
  rw [get?, hOld, List.lookup_append, Option.or_eq_none_iff] at hNext
  rw [get?, get?, hNew, hOld, List.lookup_append, List.lookup_append, List.lookup_cons]
  by_cases hKey : key = s.nextKey
  · rw [if_pos hKey, hKey, hNext.1, beq_self_eq_true, Option.none_or]
  · rw [if_neg hKey, beq_eq_false_iff_ne.mpr hKey]

theorem key_add (s : Shelf α) (a : α) : (s.add a).2 = s.nextKey := by
  rw [add]
  split <;> rfl

theorem nextKey_add (s : Shelf α) (a : α) : (s.add a).1.nextKey = s.nextKey + 1 := by
  rw [add]
  split <;> rfl

theorem Valid.add {s : Shelf α} (h : s.Valid) (a : α) : (s.add a).1.Valid := by
  have hKeys := s.nextKey_add a
  obtain ⟨front, back, hOld, hNew⟩ := h.entries_add a
  have hUsed := h.used
  have hNodup := h.distinct
  rw [Shelf.keys, hOld, List.map_append] at hNodup hUsed
  constructor
  · rw [Shelf.keys, hNew, List.map_append, List.map_cons]
    apply List.nodup_middle.mpr
    apply List.nodup_cons.mpr
    exact ⟨fun hMem => Nat.lt_irrefl _ (hUsed _ hMem), hNodup⟩
  · intro key hKey
    rw [Shelf.keys, hNew, List.map_append, List.map_cons, List.mem_append, List.mem_cons] at hKey
    rw [hKeys]
    rcases hKey with hKey | rfl | hKey
    · exact Nat.lt_succ_of_lt (hUsed key (List.mem_append_left _ hKey))
    · exact Nat.lt_succ_self _
    · exact Nat.lt_succ_of_lt (hUsed key (List.mem_append_right _ hKey))
  · intro place hPlace
    cases hFree : s.free with
    | nil => simp [Shelf.add, hFree] at hPlace
    | cons first free =>
      have hOnce := h.once
      rw [hFree, List.nodup_cons] at hOnce
      simp only [Shelf.add, hFree] at hPlace ⊢
      have hOther : first ≠ place := fun heq => hOnce.1 (heq ▸ hPlace)
      rw [List.getElem?_set_ne hOther]
      exact h.free place (hFree ▸ List.mem_cons_of_mem _ hPlace)
  · cases hFree : s.free with
    | nil => simp [Shelf.add, hFree]
    | cons first free =>
      have hOnce := h.once
      rw [hFree, List.nodup_cons] at hOnce
      simpa only [Shelf.add, hFree] using hOnce.2

theorem entries_set (s : Shelf α) (key : Nat) (a : α) :
    (s.set key a).entries = s.entries.map fun e => if e.1 = key then (key, a) else e := by
  simp only [entries, set, List.filterMap_map, List.map_filterMap]
  rfl

theorem keys_set (s : Shelf α) (key : Nat) (a : α) : (s.set key a).keys = s.keys := by
  rw [keys, keys, entries_set, List.map_map]
  apply List.map_congr_left
  intro e _
  simp only [Function.comp_apply]
  split
  · next heq => exact heq.symm
  · rfl

theorem get?_set (s : Shelf α) (key : Nat) (a : α) (k : Nat) :
    (s.set key a).get? k = if k = key then (s.get? key).map fun _ => a else s.get? k := by
  rw [get?, get?, get?, entries_set]
  induction s.entries with
  | nil => simp
  | cons e es ih =>
    rw [List.map_cons, List.lookup_cons, ih, List.lookup_cons, List.lookup_cons]
    by_cases hKey : k = key
    · subst hKey
      by_cases hFirst : e.1 = k
      · simp [hFirst]
      · simp [hFirst, beq_eq_false_iff_ne.mpr (Ne.symm hFirst)]
    · by_cases hFirst : e.1 = key
      · simp [hFirst, hKey, beq_eq_false_iff_ne.mpr hKey]
      · simp [hFirst, hKey]

theorem Valid.set {s : Shelf α} (h : s.Valid) (key : Nat) (a : α) : (s.set key a).Valid := by
  constructor
  · rw [keys_set]
    exact h.distinct
  · rw [keys_set]
    exact h.used
  · intro place hPlace
    simp [Shelf.set, h.free place hPlace]
  · exact h.once

theorem set_set (s : Shelf α) (key : Nat) (a b : α) : (s.set key a).set key b = s.set key b := by
  rw [Shelf.set, Shelf.set, Shelf.set, mk.injEq, List.map_map]
  refine ⟨List.map_congr_left fun place _ => ?_, rfl, rfl⟩
  cases place with
  | none => rfl
  | some e => by_cases hKey : e.1 = key <;> simp [hKey]

theorem Valid.set_self {s : Shelf α} (h : s.Valid) {key : Nat} {a : α}
    (hGet : s.get? key = some a) : s.set key a = s := by
  rw [Shelf.set]
  refine congrArg (fun places => { s with places }) ?_
  refine (List.map_congr_left fun place hPlace => ?_).trans (List.map_id s.places)
  cases place with
  | none => rfl
  | some e =>
    by_cases hKey : e.1 = key
    · have hMem : (key, e.2) ∈ s.entries := by
        rw [← hKey]
        exact List.mem_filterMap.mpr ⟨_, hPlace, rfl⟩
      have hSame : e.2 = a := Option.some.inj ((h.mem_entries_iff.mp hMem).symm.trans hGet)
      simp [← hKey, ← hSame]
    · simp [hKey]

theorem entries_remove {s : Shelf α} {key : Nat} (h : key ∈ s.keys) :
    ∃ front back place a, s.places = front ++ some (key, a) :: back ∧ place = front.length ∧
      s.remove key = { s with places := front ++ none :: back, free := place :: s.free } := by
  cases hPlace : s.placeOf? key with
  | none =>
    exfalso
    obtain ⟨e, he, hKey⟩ := List.mem_map.mp h
    obtain ⟨entry, hEntry, hSome⟩ := List.mem_filterMap.mp he
    obtain rfl : entry = some e := hSome
    rw [placeOf?, List.findIdx?_eq_none_iff] at hPlace
    have hOther := hPlace _ hEntry
    rw [Option.any_some, beq_eq_false_iff_ne] at hOther
    exact hOther hKey
  | some place =>
    obtain ⟨hBound, hHit, _⟩ := List.findIdx?_eq_some_iff_getElem.mp hPlace
    cases hEntry : s.places[place] with
    | none => simp [hEntry] at hHit
    | some e =>
      obtain ⟨k, a⟩ := e
      obtain rfl : k = key := by simpa [hEntry] using hHit
      obtain ⟨front, back, hPlaces, rfl⟩ :=
        exists_split (List.getElem?_eq_some_iff.mpr ⟨hBound, hEntry⟩)
      refine ⟨front, back, _, a, hPlaces, rfl, ?_⟩
      simp only [remove, hPlace]
      rw [hPlaces, set_split]

theorem split_remove {s : Shelf α} {key : Nat} (h : key ∈ s.keys) :
    ∃ front back a, s.entries = front ++ (key, a) :: back ∧
      (s.remove key).entries = front ++ back := by
  obtain ⟨front, back, place, a, hPlaces, hFront, hRemove⟩ := entries_remove h
  refine ⟨front.filterMap id, back.filterMap id, a, ?_, ?_⟩
  · simp [entries, hPlaces]
  · simp [entries, hRemove]

theorem Valid.get?_remove {s : Shelf α} (h : s.Valid) (key k : Nat) :
    (s.remove key).get? k = if k = key then none else s.get? k := by
  by_cases hMem : key ∈ s.keys
  · obtain ⟨front, back, a, hOld, hNew⟩ := split_remove hMem
    have hNodup := h.distinct
    rw [keys, hOld, List.map_append, List.map_cons, List.nodup_middle, List.nodup_cons,
      ← List.map_append] at hNodup
    by_cases hKey : k = key
    · rw [if_pos hKey, get?, hNew, hKey]
      exact lookup_eq_none.mpr hNodup.1
    · rw [if_neg hKey, get?, get?, hNew, hOld, List.lookup_append, List.lookup_append,
        List.lookup_cons, beq_eq_false_iff_ne.mpr hKey]
  · rw [remove_of_notMem hMem]
    split
    · next hKey =>
      rw [hKey]
      exact get?_eq_none_iff.mpr hMem
    · rfl

theorem Valid.perm_add {s : Shelf α} (h : s.Valid) (a : α) :
    (s.add a).1.entries.Perm ((s.nextKey, a) :: s.entries) := by
  obtain ⟨front, back, hOld, hNew⟩ := h.entries_add a
  rw [hOld, hNew]
  exact List.perm_middle

theorem Valid.perm_remove {s : Shelf α} (h : s.Valid) {key : Nat} {a : α}
    (hGet : s.get? key = some a) : s.entries.Perm ((key, a) :: (s.remove key).entries) := by
  obtain ⟨front, back, b, hOld, hNew⟩ := split_remove (mem_keys_iff.mpr ⟨a, hGet⟩)
  have hMem : (key, b) ∈ s.entries := hOld ▸ List.mem_append_right _ List.mem_cons_self
  obtain rfl := Option.some.inj (hGet.symm.trans (h.mem_entries_iff.mp hMem))
  rw [hOld, hNew]
  exact List.perm_middle

theorem Valid.remove {s : Shelf α} (h : s.Valid) (key : Nat) : (s.remove key).Valid := by
  by_cases hMem : key ∈ s.keys
  · obtain ⟨front, back, place, a, hPlaces, rfl, hRemove⟩ := entries_remove hMem
    have hSub : (s.remove key).keys.Sublist s.keys := by
      simp [keys, entries, hRemove, hPlaces]
    constructor
    · exact h.distinct.sublist hSub
    · intro k hk
      have hNext : (s.remove key).nextKey = s.nextKey := by rw [hRemove]
      rw [hNext]
      exact h.used k (hSub.subset hk)
    · intro place hPlace
      rw [hRemove] at hPlace ⊢
      rw [← set_split front back (some (key, a)) none, ← hPlaces]
      rcases List.mem_cons.mp hPlace with rfl | hPlace
      · apply List.getElem?_set_self
        simp [hPlaces]
      · have hFree := h.free place hPlace
        by_cases heq : front.length = place
        · rw [← heq, hPlaces] at hFree
          simp at hFree
        · rw [List.getElem?_set_ne heq]
          exact hFree
    · rw [hRemove]
      apply List.nodup_cons.mpr
      refine ⟨fun hPlace => ?_, h.once⟩
      have hFree := h.free _ hPlace
      simp [hPlaces] at hFree
  · rw [remove_of_notMem hMem]
    exact h

theorem nextKey_remove (s : Shelf α) (key : Nat) : (s.remove key).nextKey = s.nextKey := by
  rw [remove]
  split <;> rfl

theorem Valid.placeOf?_eq_some_iff {s : Shelf α} (h : s.Valid) {key place : Nat} :
    s.placeOf? key = some place ↔ ∃ a, s.places[place]? = some (some (key, a)) := by
  rw [placeOf?, List.findIdx?_eq_some_iff_getElem]
  constructor
  · rintro ⟨hBound, hHit, _⟩
    cases hEntry : s.places[place] with
    | none => simp [hEntry] at hHit
    | some e =>
      obtain ⟨k, a⟩ := e
      obtain rfl : k = key := by simpa [hEntry] using hHit
      exact ⟨a, List.getElem?_eq_some_iff.mpr ⟨hBound, hEntry⟩⟩
  · rintro ⟨a, hEntry⟩
    obtain ⟨hBound, hAt⟩ := List.getElem?_eq_some_iff.mp hEntry
    refine ⟨hBound, by simp [hAt], fun earlier hEarlier hHit => ?_⟩
    obtain ⟨front, back, hPlaces, rfl⟩ := exists_split hEntry
    have hEntries : s.entries = front.filterMap id ++ (key, a) :: back.filterMap id := by
      simp [entries, hPlaces]
    have hNodup := h.distinct
    rw [keys, hEntries, List.map_append, List.map_cons, List.nodup_middle, List.nodup_cons]
      at hNodup
    cases hFirst : s.places[earlier] with
    | none => simp [hFirst] at hHit
    | some e =>
      obtain rfl : e.1 = key := by simpa [hFirst] using hHit
      have hFront : front[earlier]? = some (some e) := by
        rw [← List.getElem?_append_left hEarlier, ← hPlaces]
        exact List.getElem?_eq_some_iff.mpr ⟨_, hFirst⟩
      have hMem : e ∈ front.filterMap id :=
        List.mem_filterMap.mpr ⟨some e, List.mem_of_getElem? hFront, rfl⟩
      exact hNodup.1 (List.mem_append_left _ (List.mem_map.mpr ⟨e, hMem, rfl⟩))

theorem Valid.exists_place {s : Shelf α} (h : s.Valid) {key : Nat} {a : α}
    (hGet : s.get? key = some a) :
    ∃ place, s.placeOf? key = some place ∧ s.places[place]? = some (some (key, a)) := by
  obtain ⟨entry, hMem, hEntry⟩ := List.mem_filterMap.mp (h.mem_entries_iff.mpr hGet)
  obtain rfl : entry = some (key, a) := hEntry
  obtain ⟨place, hPlace⟩ := List.mem_iff_getElem?.mp hMem
  exact ⟨place, h.placeOf?_eq_some_iff.mpr ⟨a, hPlace⟩, hPlace⟩

theorem Valid.placeOf?_add {s : Shelf α} (h : s.Valid) (a : α) {key place : Nat}
    (hPlace : s.placeOf? key = some place) : (s.add a).1.placeOf? key = some place := by
  obtain ⟨b, hEntry⟩ := h.placeOf?_eq_some_iff.mp hPlace
  refine (h.add a).placeOf?_eq_some_iff.mpr ⟨b, ?_⟩
  cases hFree : s.free with
  | nil =>
    simp only [Shelf.add, hFree]
    rw [List.getElem?_append_left (List.getElem?_eq_some_iff.mp hEntry).1, hEntry]
  | cons first free =>
    have hOther : first ≠ place := by
      rintro rfl
      have hNone := h.free first (hFree ▸ List.mem_cons_self)
      rw [hEntry] at hNone
      cases hNone
    simp only [Shelf.add, hFree]
    rw [List.getElem?_set_ne hOther, hEntry]

theorem places_remove {s : Shelf α} {key place : Nat} (hPlace : s.placeOf? key = some place) :
    (s.remove key).places = s.places.set place none := by
  rw [remove, hPlace]

theorem Valid.placeOf?_remove {s : Shelf α} (h : s.Valid) {key k place : Nat} (hKey : k ≠ key)
    (hPlace : s.placeOf? k = some place) : (s.remove key).placeOf? k = some place := by
  cases hFreed : s.placeOf? key with
  | none => rw [Shelf.remove, hFreed, hPlace]
  | some freed =>
    obtain ⟨a, hEntry⟩ := h.placeOf?_eq_some_iff.mp hPlace
    obtain ⟨b, hGone⟩ := h.placeOf?_eq_some_iff.mp hFreed
    have hOther : freed ≠ place := by
      rintro rfl
      rw [hEntry] at hGone
      exact hKey (congrArg Prod.fst (Option.some.inj (Option.some.inj hGone)))
    refine (h.remove key).placeOf?_eq_some_iff.mpr ⟨a, ?_⟩
    rw [places_remove hFreed, List.getElem?_set_ne hOther, hEntry]

section Map

variable {β : Type} (g : α → β) (s : Shelf α)

def map : Shelf β := ⟨s.places.map (Option.map (Prod.map id g)), s.free, s.nextKey⟩

theorem entries_map : (s.map g).entries = s.entries.map (Prod.map id g) := by
  simp only [entries, map, List.filterMap_map, List.map_filterMap]
  rfl

theorem get?_map (key : Nat) : (s.map g).get? key = (s.get? key).map g := by
  rw [get?, entries_map, get?]
  induction s.entries with
  | nil => rfl
  | cons e es ih =>
    rw [List.map_cons, List.lookup_cons, List.lookup_cons, ih]
    by_cases hKey : key = e.1
    · simp [hKey]
    · simp [beq_eq_false_iff_ne.mpr hKey]

theorem placeOf?_map (key : Nat) : (s.map g).placeOf? key = s.placeOf? key := by
  rw [placeOf?, placeOf?, map, List.findIdx?_map]
  congr 1
  funext place
  cases place <;> rfl

theorem map_add (a : α) : (s.add a).1.map g = ((s.map g).add (g a)).1 := by
  cases hFree : s.free with
  | nil => simp [add, map, hFree]
  | cons place free => simp [add, map, hFree, List.map_set]

theorem map_set (key : Nat) (a : α) : (s.set key a).map g = (s.map g).set key (g a) := by
  simp only [set, map, List.map_map]
  congr 2
  funext place
  cases place with
  | none => rfl
  | some e =>
    simp only [Function.comp_apply, Option.map_some, Prod.map_fst, id]
    split <;> rfl

theorem map_remove (key : Nat) : (s.remove key).map g = (s.map g).remove key := by
  rw [remove, remove, placeOf?_map]
  split
  · simp [map, List.map_set]
  · rfl

end Map

end PipelineForge.Shelf
