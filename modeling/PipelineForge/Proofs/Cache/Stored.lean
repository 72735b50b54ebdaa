import Mathlib.Data.List.Basic
import PipelineForge.Proofs.Cache.Contents
import PipelineForge.Proofs.Lists

/-!
# Stored pipelines

What caches hold: nothing stored under a key is ever replaced, every successful storing adds one
pipeline, and a registry that never forgot a name hands out all that it holds when it is destroyed.
-/

namespace PipelineForge.Registry

variable {r r' : Registry} {id : CacheId} {key : CacheKey} {p : Pipeline}

def find? (r : Registry) (id : CacheId) (key : CacheKey) : Option Pipeline :=
  (r.cache? id).bind (·.find? key)

def stored (r : Registry) : List Pipeline := r.caches.flatMap fun c => c.entries.map Prod.snd

/-- A later registry that kept all that was stored. -/
structure Extends (r r' : Registry) : Prop where
  find : ∀ id key p, r.find? id key = some p → r'.find? id key = some p
  size : r.caches.length ≤ r'.caches.length

theorem Extends.refl (r : Registry) : Extends r r := ⟨fun _ _ _ hFind => hFind, Nat.le_refl _⟩

theorem Extends.trans {r r' r'' : Registry} (h : Extends r r') (h' : Extends r' r'') :
    Extends r r'' :=
  ⟨fun id key p hFind => h'.find id key p (h.find id key p hFind), Nat.le_trans h.size h'.size⟩

theorem cache?_onCache {α : Type} (r : Registry) (id : CacheId) (other : α)
    (f : Cache → Cache × α) (k : CacheId) :
    (r.onCache id other f).1.cache? k =
      if k = id then (r.cache? id).map fun c => (f c).1 else r.cache? k := by
  cases hCache : r.cache? id with
  | none =>
    rw [onCache_of_none hCache]
    split
    · next hk => rw [hk, hCache]; rfl
    · rfl
  | some c =>
    rw [onCache_of_some hCache]
    split
    · next hk =>
      rw [hk]
      exact List.getElem?_set_self (List.getElem?_eq_some_iff.mp hCache).1
    · next hk => exact List.getElem?_set_ne (Ne.symm hk)

theorem length_caches_onCache {α : Type} (r : Registry) (id : CacheId) (other : α)
    (f : Cache → Cache × α) : (r.onCache id other f).1.caches.length = r.caches.length := by
  cases hCache : r.cache? id with
  | none => rw [onCache_of_none hCache]
  | some c =>
    rw [onCache_of_some hCache]
    exact List.length_set

theorem extends_onCache {α : Type} (r : Registry) (id : CacheId) (other : α)
    {f : Cache → Cache × α}
    (hKeeps : ∀ c key p, c.find? key = some p → (f c).1.find? key = some p) :
    Extends r (r.onCache id other f).1 := by
  constructor
  · intro k key p hFind
    obtain ⟨c, hCache, hFind⟩ := Option.bind_eq_some_iff.mp hFind
    rw [find?, cache?_onCache]
    split
    · next hk =>
      rw [← hk, hCache]
      exact hKeeps c key p hFind
    · rw [hCache]
      exact hFind
  · exact Nat.le_of_eq (length_caches_onCache r id other f).symm

theorem extends_lookup (r : Registry) (id : CacheId) (key : CacheKey) :
    Extends r (r.lookup id key).1 := by
  apply extends_onCache
  intro c k p hFind
  rw [Cache.find?_lookup]
  exact hFind

theorem extends_store (r : Registry) (id : CacheId) (key : CacheKey) (p : Pipeline) :
    Extends r (r.store id key p).1 := by
  apply extends_onCache
  intro c k q hFind
  rw [Cache.find?_store]
  split
  · next hk => rw [← hk, hFind]; rfl
  · exact hFind

theorem acquire_cases {name : String} (h : r.acquire name = .ok (r', id)) :
    (r' = r ∧ r.get? name = some id) ∨ (r', id) = r.create name := by
  rw [acquire] at h
  split at h
  · next known hKnown =>
    cases h
    exact .inl ⟨rfl, hKnown⟩
  split at h
  · split at h
    · cases h
    · exact .inr (Except.ok.inj h).symm
  · exact .inr (Except.ok.inj h).symm

theorem cache?_acquire {name : String} (h : r.acquire name = .ok (r', id)) {k : CacheId} {c : Cache}
    (hCache : r.cache? k = some c) : r'.cache? k = some c := by
  rcases acquire_cases h with ⟨rfl, _⟩ | hCreate
  · exact hCache
  · cases hCreate
    exact (List.getElem?_append_left (List.getElem?_eq_some_iff.mp hCache).1).trans hCache

theorem extends_acquire {name : String} (h : r.acquire name = .ok (r', id)) : Extends r r' := by
  constructor
  · intro k key p hFind
    obtain ⟨c, hCache, hFind⟩ := Option.bind_eq_some_iff.mp hFind
    rw [find?, cache?_acquire h hCache]
    exact hFind
  · rcases acquire_cases h with ⟨rfl, _⟩ | hCreate
    · exact Nat.le_refl _
    · cases hCreate
      simp

theorem stored_acquire {name : String} (h : r.acquire name = .ok (r', id)) :
    r'.stored = r.stored := by
  rcases acquire_cases h with ⟨rfl, _⟩ | hCreate
  · rfl
  · cases hCreate
    simp [stored, Cache.named]

theorem count_stored_onCache {α : Type} {c : Cache} (h : r.cache? id = some c) (other : α)
    (f : Cache → Cache × α) (q : Pipeline) :
    (r.onCache id other f).1.stored.count q + (c.entries.map Prod.snd).count q =
      r.stored.count q + ((f c).1.entries.map Prod.snd).count q := by
  rw [onCache_of_some h]
  exact count_flatMap_set h (f c).1 (fun c => c.entries.map Prod.snd) q

theorem count_stored_lookup (r : Registry) (id : CacheId) (key : CacheKey) (q : Pipeline) :
    (r.lookup id key).1.stored.count q = r.stored.count q := by
  cases hCache : r.cache? id with
  | none => rw [lookup, onCache_of_none hCache]
  | some c =>
    have hCount := count_stored_onCache hCache none (·.lookup key) q
    have hEntries : (c.lookup key).1.entries = c.entries := by
      rw [Cache.lookup]
      split <;> rfl
    rw [hEntries] at hCount
    rw [lookup]
    omega

theorem store_inserted (hKnown : id < r.caches.length)
    (h : r.store id key p = (r', .inserted)) :
    r'.find? id key = some p ∧
      ∀ q, r'.stored.count q = r.stored.count q + [p].count q := by
  have hCache : r.cache? id = some r.caches[id] := List.getElem?_eq_getElem hKnown
  have hStore : (r.store id key p).1 = r' := by rw [h]
  have hCount (q : Pipeline) := count_stored_onCache hCache Stored.inserted (·.store key p) q
  have hFound := cache?_onCache r id Stored.inserted (·.store key p) id
  rw [hCache, if_pos rfl, Option.map_some] at hFound
  have hNone : r.caches[id].find? key = none := by
    rw [store, onCache_of_some hCache] at h
    cases hFind : r.caches[id].find? key with
    | none => rfl
    | some old =>
      rw [Cache.store, hFind] at h
      cases h
  have hNew : r.caches[id].store key p =
      ({ r.caches[id] with entries := r.caches[id].entries ++ [(key, p)] }, .inserted) := by
    rw [Cache.store, hNone]
  constructor
  · rw [find?, ← hStore, store, hFound, Option.bind_some, Cache.find?_store, if_pos rfl, hNone,
      Option.getD_none]
  · intro q
    have hCount := hCount q
    rw [hNew, List.map_append, List.count_append] at hCount
    rw [← hStore, store]
    change _ = _ + List.count q ([(key, p)].map Prod.snd)
    omega

theorem store_existing {kept : Pipeline} (h : r.store id key p = (r', .existing kept)) :
    r'.find? id key = some kept ∧ r'.stored = r.stored := by
  cases hCache : r.cache? id with
  | none =>
    rw [store, onCache_of_none hCache] at h
    cases h
  | some c =>
    rw [store, onCache_of_some hCache] at h
    cases hFind : c.find? key with
    | none =>
      rw [Cache.store, hFind] at h
      cases h
    | some old =>
      have hSame : r.caches.set id c = r.caches := by
        obtain ⟨hKnown, hc⟩ := List.getElem?_eq_some_iff.mp hCache
        rw [← hc, List.set_getElem_self]
      rw [Cache.store, hFind] at h
      cases h
      rw [hSame]
      refine ⟨?_, rfl⟩
      rw [find?, hCache]
      exact hFind

theorem lookup_found (h : r.lookup id key = (r', some p)) : r'.find? id key = some p := by
  have hFind : r.find? id key = some p := by
    cases hCache : r.cache? id with
    | none =>
      rw [lookup, onCache_of_none hCache] at h
      cases h
    | some c =>
      rw [lookup, onCache_of_some hCache, Cache.lookup] at h
      split at h
      · next found hFind =>
        cases h
        rw [find?, hCache]
        exact hFind
      · cases h
  have hExtends := (extends_lookup r id key).find id key p hFind
  rw [h] at hExtends
  exact hExtends

theorem mem_stored (h : r.find? id key = some p) : p ∈ r.stored := by
  obtain ⟨c, hCache, hFind⟩ := Option.bind_eq_some_iff.mp h
  apply List.mem_flatMap.mpr
  exact ⟨c, List.mem_of_getElem? hCache, List.mem_map.mpr ⟨_, mem_of_lookup hFind, rfl⟩⟩

def Named (r : Registry) : Prop := r.names.map Prod.snd = List.range r.caches.length

theorem Named.acquire {name : String} (h : r.Named) (hAcquire : r.acquire name = .ok (r', id)) :
    r'.Named := by
  rcases acquire_cases hAcquire with ⟨rfl, _⟩ | hCreate
  · exact h
  · cases hCreate
    rw [Named] at h ⊢
    simp [h, List.range_succ]

theorem Named.known {name : String} (h : r.Named) (hAcquire : r.acquire name = .ok (r', id)) :
    id < r'.caches.length := by
  rcases acquire_cases hAcquire with ⟨rfl, hGet⟩ | hCreate
  · obtain ⟨front, back, hNames, _⟩ := List.lookup_eq_some_iff.mp hGet
    have hMem : id ∈ r'.names.map Prod.snd := by
      rw [hNames]
      simp
    rw [h] at hMem
    exact List.mem_range.mp hMem
  · cases hCreate
    simp

theorem names_onCache {α : Type} (r : Registry) (id : CacheId) (other : α)
    (f : Cache → Cache × α) : (r.onCache id other f).1.names = r.names := by
  rw [Registry.onCache]
  split <;> rfl

theorem Named.onCache {α : Type} (h : r.Named) (id : CacheId) (other : α)
    (f : Cache → Cache × α) : (r.onCache id other f).1.Named := by
  rw [Named, names_onCache, length_caches_onCache]
  exact h

theorem drainAll_drained (r : Registry) {named : List (String × CacheId)}
    (hDistinct : (named.map Prod.snd).Nodup) :
    (r.drainAll named).2.flatMap Prod.snd =
      named.flatMap fun e => ((r.cache? e.2).map fun c => c.entries.map Prod.snd).getD [] := by
  induction named generalizing r with
  | nil => rfl
  | cons cache rest ih =>
    obtain ⟨name, id⟩ := cache
    rw [List.map_cons, List.nodup_cons] at hDistinct
    have hDrain : (r.drain id).2 = ((r.cache? id).map fun c => c.entries.map Prod.snd).getD [] := by
      cases hCache : r.cache? id with
      | none => rw [drain, onCache_of_none hCache]; rfl
      | some c => rw [drain, onCache_of_some hCache]; rfl
    simp only [drainAll, List.flatMap_cons, hDrain]
    rw [ih _ hDistinct.2]
    congr 1
    apply List.flatMap_congr
    intro e he
    have hOther : e.2 ≠ id := by
      intro heq
      exact hDistinct.1 (List.mem_map.mpr ⟨e, he, heq⟩)
    rw [drain, cache?_onCache, if_neg hOther]

theorem Named.destroy (h : r.Named) : r.destroy.2.flatMap Prod.snd = r.stored := by
  rw [Registry.destroy, drainAll_drained]
  · have hRange := flatMap_range_getElem? r.caches fun c => c.entries.map Prod.snd
    rw [stored, ← hRange, ← h, List.flatMap_map]
    rfl
  · rw [h]
    exact List.nodup_range

end PipelineForge.Registry
