import PipelineForge.Hub.Plant
import PipelineForge.Proofs.Cache.Views

/-!
# Clearing registries

When a registry is destroyed, the caches that have a name are emptied and lose it, and what was in
them goes to the compiler, every pipeline once. All other caches stay as they are, and every cache
can still be used.
-/

namespace PipelineForge

def Cache.emptied (c : Cache) : Cache := { c with entries := [] }

def Cache.pipelines (c : Cache) : List Pipeline := c.entries.map Prod.snd

namespace Registry

variable {r r' : Registry} {id : CacheId} {name : String}

def contents (r : Registry) (id : CacheId) : List Pipeline :=
  ((r.cache? id).map Cache.pipelines).getD []

theorem limit_onCache {α : Type} (r : Registry) (id : CacheId) (other : α)
    (f : Cache → Cache × α) : (r.onCache id other f).1.limit = r.limit := by
  rw [onCache]
  split <;> rfl

theorem name_onCache {α : Type} (id : CacheId) (other : α) {f : Cache → Cache × α}
    (hName : ∀ c, (f c).1.name = c.name) {k : CacheId} {c : Cache} (hCache : r.cache? k = some c) :
    ∃ c', (r.onCache id other f).1.cache? k = some c' ∧ c'.name = c.name := by
  rw [cache?_onCache]
  split
  next hk =>
    rw [← hk, hCache, Option.map_some]
    exact ⟨_, rfl, hName c⟩
  next => exact ⟨c, hCache, rfl⟩

theorem cache?_drain (r : Registry) (id k : CacheId) :
    (r.drain id).1.cache? k = if k = id then (r.cache? id).map Cache.emptied else r.cache? k :=
  cache?_onCache r id [] Cache.drain k

theorem drain_snd (r : Registry) (id : CacheId) : (r.drain id).2 = r.contents id := by
  cases hCache : r.cache? id with
  | none =>
    rw [drain, onCache_of_none hCache, contents, hCache]
    rfl
  | some c =>
    rw [drain, onCache_of_some hCache, contents, hCache]
    rfl

section DrainAll

variable (named : List (String × CacheId))

theorem drainAll_cons (r : Registry) (e : String × CacheId) :
    r.drainAll (e :: named) =
      (((r.drain e.2).1.drainAll named).1,
        (e.1, (r.drain e.2).2) :: ((r.drain e.2).1.drainAll named).2) := rfl

theorem names_drainAll (r : Registry) : (r.drainAll named).1.names = r.names := by
  induction named generalizing r with
  | nil => rfl
  | cons e rest ih => exact (ih _).trans (names_onCache r e.2 [] Cache.drain)

theorem limit_drainAll (r : Registry) : (r.drainAll named).1.limit = r.limit := by
  induction named generalizing r with
  | nil => rfl
  | cons e rest ih => exact (ih _).trans (limit_onCache r e.2 [] Cache.drain)

theorem cache?_drainAll (r : Registry) (k : CacheId) :
    (r.drainAll named).1.cache? k =
      if k ∈ named.map Prod.snd then (r.cache? k).map Cache.emptied else r.cache? k := by
  induction named generalizing r with
  | nil => rfl
  | cons e rest ih =>
    obtain ⟨name, id⟩ := e
    rw [drainAll_cons, ih, cache?_drain, List.map_cons]
    by_cases hk : k = id
    · -- the cache may stand in the list again, and be drained again
      rw [if_pos hk, if_pos (List.mem_cons.mpr (.inl hk)), hk]
      cases r.cache? id <;> simp [Cache.emptied]
    · simp only [List.mem_cons, hk, false_or, if_false]

theorem drainAll_snd (r : Registry) (hDistinct : (named.map Prod.snd).Nodup) :
    (r.drainAll named).2 = named.map fun e => (e.1, r.contents e.2) := by
  induction named generalizing r with
  | nil => rfl
  | cons e rest ih =>
    obtain ⟨name, id⟩ := e
    rw [List.map_cons, List.nodup_cons] at hDistinct
    obtain ⟨hNew, hRest⟩ := hDistinct
    rw [List.map_cons, drainAll_cons, ih _ hRest, drain_snd]
    refine congrArg (_ :: ·) (List.map_congr_left fun e he => ?_)
    have hMem : e.2 ∈ rest.map Prod.snd := List.mem_map_of_mem he
    have hOther : e.2 ≠ id := by
      rintro rfl
      exact hNew hMem
    rw [contents, cache?_drain, if_neg hOther, contents]

end DrainAll

theorem limit_destroy (r : Registry) : r.destroy.1.limit = r.limit :=
  limit_drainAll r.names { r with names := [] }

theorem names_destroy (r : Registry) : r.destroy.1.names = [] :=
  names_drainAll r.names { r with names := [] }

theorem cache?_destroy (r : Registry) (k : CacheId) :
    r.destroy.1.cache? k =
      if k ∈ r.names.map Prod.snd then (r.cache? k).map Cache.emptied else r.cache? k :=
  cache?_drainAll r.names { r with names := [] } k

theorem destroy_snd (hDistinct : (r.names.map Prod.snd).Nodup) :
    r.destroy.2 = r.names.map fun e => (e.1, r.contents e.2) :=
  drainAll_snd r.names { r with names := [] } hDistinct

/-- The pipelines of the caches that have a name, and no others, are destroyed once each. -/
theorem destroyCaches_compiler {κ : Type} (compiler : Compiler κ) (plant : Plant κ) (i : Nat)
    (hDistinct : (plant.registry.names.map Prod.snd).Nodup) :
    (plant.destroyCaches compiler i).1.compiler =
      (plant.registry.names.flatMap fun e => plant.registry.contents e.2).foldl
        (fun k q => compiler.destroy k i q) plant.compiler := by
  have hCompiler : (plant.destroyCaches compiler i).1.compiler =
      (plant.registry.destroy.2.flatMap Prod.snd).foldl (fun k q => compiler.destroy k i q)
        plant.compiler := rfl
  rw [hCompiler, destroy_snd hDistinct, List.flatMap_map]

theorem cache?_create (r : Registry) (name : String) (k : CacheId) :
    (r.create name).1.cache? k =
      if k = r.caches.length then some (.named name) else r.cache? k := by
  rcases Nat.lt_trichotomy k r.caches.length with hk | rfl | hk
  · rw [if_neg (Nat.ne_of_lt hk)]
    exact List.getElem?_append_left hk
  · rw [if_pos rfl]
    exact List.getElem?_concat_length
  · have hBefore : r.cache? k = none := List.getElem?_eq_none (Nat.le_of_lt hk)
    rw [if_neg (Nat.ne_of_gt hk), hBefore]
    refine List.getElem?_eq_none ?_
    rw [create, List.length_append]
    exact hk

theorem acquire_error {e : ForgeError} :
    r.acquire name = .error e ↔ r.get? name = none ∧ ∃ n, r.limit = some n ∧
      n ≤ r.names.length ∧ e = .cacheUnavailable name s!"registry is limited to {n} caches" := by
  rw [acquire]
  constructor
  · intro hError
    split at hError
    · cases hError
    next hNone =>
      split at hError
      next n hLimit =>
        split at hError
        next hFull => exact ⟨hNone, n, hLimit, hFull, (Except.error.inj hError).symm⟩
        · cases hError
      · cases hError
  · rintro ⟨hNone, n, hLimit, hFull, rfl⟩
    simp only [hNone, hLimit, if_pos hFull]

theorem acquire_new (hNone : r.get? name = none) (hAcquire : r.acquire name = .ok (r', id)) :
    (r', id) = r.create name ∧ ∀ n, r.limit = some n → r.names.length < n := by
  rw [acquire, hNone] at hAcquire
  dsimp only at hAcquire
  split at hAcquire
  next n hLimit =>
    split at hAcquire
    · cases hAcquire
    next hRoom =>
      refine ⟨(Except.ok.inj hAcquire).symm, fun m hm => ?_⟩
      rw [hLimit] at hm
      exact Option.some.inj hm ▸ Nat.lt_of_not_le hRoom
  next hLimit =>
    refine ⟨(Except.ok.inj hAcquire).symm, fun m hm => ?_⟩
    rw [hLimit] at hm
    cases hm

theorem lookup_snd (r : Registry) (id : CacheId) (key : CacheKey) :
    (r.lookup id key).2 = r.find? id key := by
  rw [find?]
  cases hCache : r.cache? id with
  | none => rw [lookup, onCache_of_none hCache, Option.bind_none]
  | some c => rw [lookup, onCache_of_some hCache, Option.bind_some, Cache.lookup_snd]

theorem store_snd (r : Registry) (id : CacheId) (key : CacheKey) (p : Pipeline) :
    (r.store id key p).2 = (r.find? id key).elim .inserted .existing := by
  rw [find?]
  cases hCache : r.cache? id with
  | none => rw [store, onCache_of_none hCache, Option.bind_none, Option.elim_none]
  | some c => rw [store, onCache_of_some hCache, Option.bind_some, Cache.store_snd]

theorem find?_lookup (r : Registry) (id : CacheId) (key : CacheKey) (k : CacheId)
    (other : CacheKey) : (r.lookup id key).1.find? k other = r.find? k other := by
  rw [find?, lookup, cache?_onCache]
  split
  next hk =>
    rw [hk, find?]
    cases r.cache? id with
    | none => rfl
    | some c => exact Cache.find?_lookup c key other
  · rfl

theorem find?_store (hKnown : id < r.caches.length) (key : CacheKey) (p : Pipeline) (k : CacheId)
    (other : CacheKey) :
    (r.store id key p).1.find? k other =
      if k = id ∧ other = key then some ((r.find? id key).getD p) else r.find? k other := by
  have hCache : r.cache? id = some r.caches[id] := List.getElem?_eq_getElem hKnown
  rw [find?, store, cache?_onCache]
  by_cases hk : k = id
  · subst hk
    rw [if_pos rfl, find?, find?, hCache, Option.map_some, Option.bind_some, Option.bind_some,
      Option.bind_some, Cache.find?_store]
    simp
  · rw [if_neg hk, if_neg fun h => hk h.1, find?]

theorem find?_destroy (r : Registry) (id : CacheId) (key : CacheKey) :
    r.destroy.1.find? id key =
      if id ∈ r.names.map Prod.snd then none else r.find? id key := by
  rw [find?, cache?_destroy]
  split
  · cases r.cache? id <;> rfl
  · rfl

end Registry

end PipelineForge
