/-!
# Shelves

A shelf keeps entries in places. A new entry takes the place that was freed last, or a place
behind all others, and no entry ever moves. Each entry has a key, which no later entry gets again.
-/

namespace PipelineForge

structure Shelf (α : Type) where
  places : List (Option (Nat × α)) := []
  /-- The free places, the last freed first. -/
  free : List Nat := []
  nextKey : Nat := 0
deriving DecidableEq

namespace Shelf

variable {α : Type}

def entries (s : Shelf α) : List (Nat × α) := s.places.filterMap id

def keys (s : Shelf α) : List Nat := s.entries.map Prod.fst

def size (s : Shelf α) : Nat := s.entries.length

def isEmpty (s : Shelf α) : Bool := s.entries.isEmpty

def get? (s : Shelf α) (key : Nat) : Option α := s.entries.lookup key

def placeOf? (s : Shelf α) (key : Nat) : Option Nat := s.places.findIdx? (·.any (·.1 == key))

def add (s : Shelf α) (a : α) : Shelf α × Nat :=
  let entry := some (s.nextKey, a)
  match s.free with
  | place :: free => (⟨s.places.set place entry, free, s.nextKey + 1⟩, s.nextKey)
  | [] => (⟨s.places ++ [entry], [], s.nextKey + 1⟩, s.nextKey)

def set (s : Shelf α) (key : Nat) (a : α) : Shelf α :=
  { s with places := s.places.map (Option.map fun e => if e.1 = key then (key, a) else e) }

def remove (s : Shelf α) (key : Nat) : Shelf α :=
  match s.placeOf? key with
  | some place => { s with places := s.places.set place none, free := place :: s.free }
  | none => s

theorem placeOf?_of_notMem {s : Shelf α} {key : Nat} (h : key ∉ s.keys) :
    s.placeOf? key = none := by
  rw [placeOf?, List.findIdx?_eq_none_iff]
  intro place hplace
  cases place with
  | none => rfl
  | some entry =>
    have hmem : entry.1 ∈ s.keys :=
      List.mem_map_of_mem (List.mem_filterMap.mpr ⟨some entry, hplace, rfl⟩)
    exact beq_eq_false_iff_ne.mpr fun heq => h (heq ▸ hmem)

theorem remove_of_notMem {s : Shelf α} {key : Nat} (h : key ∉ s.keys) : s.remove key = s := by
  rw [remove, placeOf?_of_notMem h]

end Shelf

end PipelineForge
