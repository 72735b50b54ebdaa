import PipelineForge.Cache.Registry

/-!
# Contents of caches

What holds of every pipeline that is stored with its key is carried through all operations of a
registry: only storing adds an entry, and looking up and storing hand out what is stored. How
often a cache was asked makes no difference.
-/

namespace PipelineForge

theorem mem_of_lookup {l : List (CacheKey × Pipeline)} {key : CacheKey} {p : Pipeline}
    (h : l.lookup key = some p) : (key, p) ∈ l := by
  obtain ⟨front, back, rfl, _⟩ := List.lookup_eq_some_iff.mp h
  exact List.mem_append_right _ List.mem_cons_self

namespace Cache

theorem lookup_snd (c : Cache) (key : CacheKey) : (c.lookup key).2 = c.find? key := by
  rw [lookup]
  split
  · next hFind => rw [hFind]
  · next hNone => rw [hNone]

theorem store_snd (c : Cache) (key : CacheKey) (p : Pipeline) :
    (c.store key p).2 = (c.find? key).elim .inserted .existing := by
  rw [store]
  split
  · next hFind => rw [hFind, Option.elim_some]
  · next hNone => rw [hNone, Option.elim_none]

theorem name_lookup (c : Cache) (key : CacheKey) : (c.lookup key).1.name = c.name := by
  rw [lookup]
  split <;> rfl

theorem name_store (c : Cache) (key : CacheKey) (p : Pipeline) :
    (c.store key p).1.name = c.name := by
  rw [store]
  split <;> rfl

end Cache

namespace Registry

theorem onCache_of_some {α : Type} {r : Registry} {id : CacheId} {c : Cache}
    (h : r.cache? id = some c) (other : α) (f : Cache → Cache × α) :
    r.onCache id other f = ({ r with caches := r.caches.set id (f c).1 }, (f c).2) := by
  rw [onCache, h]

theorem onCache_of_none {α : Type} {r : Registry} {id : CacheId} (h : r.cache? id = none)
    (other : α) (f : Cache → Cache × α) : r.onCache id other f = (r, other) := by
  rw [onCache, h]

def Each (P : CacheKey → Pipeline → Prop) (r : Registry) : Prop :=
  ∀ c ∈ r.caches, ∀ e ∈ c.entries, P e.1 e.2

variable {P : CacheKey → Pipeline → Prop} {r r' : Registry} {id : CacheId} {key : CacheKey}
  {p : Pipeline}

theorem Each.of_cache (h : r.Each P) {c : Cache} (hCache : r.cache? id = some c)
    (hFind : c.find? key = some p) : P key p :=
  h c (List.mem_of_getElem? hCache) (key, p) (mem_of_lookup hFind)

theorem Each.onCache {α : Type} (h : r.Each P) (other : α) {f : Cache → Cache × α}
    (hCaches : ∀ c, (∀ e ∈ c.entries, P e.1 e.2) → ∀ e ∈ (f c).1.entries, P e.1 e.2) :
    (r.onCache id other f).1.Each P := by
  cases hCache : r.cache? id with
  | none =>
    rw [onCache_of_none hCache]
    exact h
  | some c =>
    rw [onCache_of_some hCache]
    intro d hd
    rcases List.mem_or_eq_of_mem_set hd with hd | rfl
    · exact h d hd
    · exact hCaches c (h c (List.mem_of_getElem? hCache))

theorem Each.acquire (h : r.Each P) {name : String} (hAcquire : r.acquire name = .ok (r', id)) :
    r'.Each P := by
  have hCreate : (r.create name).1.Each P := by
    intro c hc
    rcases List.mem_append.mp hc with hc | hc
    · exact h c hc
    · rw [List.mem_singleton.mp hc]
      exact nofun
  rw [Registry.acquire] at hAcquire
  split at hAcquire
  · cases hAcquire
    exact h
  split at hAcquire
  · split at hAcquire
    · cases hAcquire
    · cases hAcquire
      exact hCreate
  · cases hAcquire
    exact hCreate

theorem Each.lookup (h : r.Each P) : (r.lookup id key).1.Each P := by
  apply h.onCache
  intro c hEntries
  rw [Cache.lookup]
  split
  · exact hEntries
  · exact hEntries

theorem Each.lookup_some (h : r.Each P) (hLookup : r.lookup id key = (r', some p)) : P key p := by
  cases hCache : r.cache? id with
  | none =>
    rw [Registry.lookup, onCache_of_none hCache] at hLookup
    cases hLookup
  | some c =>
    rw [Registry.lookup, onCache_of_some hCache, Cache.lookup] at hLookup
    split at hLookup
    · next found hFind =>
      cases hLookup
      exact h.of_cache hCache hFind
    · cases hLookup

theorem Each.store (h : r.Each P) (hNew : P key p) : (r.store id key p).1.Each P := by
  apply h.onCache
  intro c hEntries
  rw [Cache.store]
  split
  · exact hEntries
  · intro e he
    rcases List.mem_append.mp he with he | he
    · exact hEntries e he
    · rw [List.mem_singleton.mp he]
      exact hNew

theorem Each.store_existing (h : r.Each P) {kept : Pipeline}
    (hStore : r.store id key p = (r', .existing kept)) : P key kept := by
  cases hCache : r.cache? id with
  | none =>
    rw [Registry.store, onCache_of_none hCache] at hStore
    cases hStore
  | some c =>
    rw [Registry.store, onCache_of_some hCache, Cache.store] at hStore
    split at hStore
    · next found hFind =>
      cases hStore
      exact h.of_cache hCache hFind
    · cases hStore

theorem Each.drainAll (h : r.Each P) (named : List (String × CacheId)) :
    (r.drainAll named).1.Each P := by
  induction named generalizing r with
  | nil => exact h
  | cons cache rest ih =>
    obtain ⟨name, id⟩ := cache
    rw [Registry.drainAll]
    apply ih
    apply h.onCache
    intro c _
    exact nofun

theorem Each.destroy (h : r.Each P) : r.destroy.1.Each P :=
  Each.drainAll (r := { r with names := [] }) h r.names

end Registry

end PipelineForge
