import Mathlib.Data.List.Nodup
import PipelineForge.Proofs.Cache.Stored

/-!
# Caches by their names

As long as no name is forgotten, a cache can be known by its name as well as by its number, and what
is done to the cache of one name changes no other. So two registries in which the caches have
different numbers can be compared name by name.
-/

namespace PipelineForge.Registry

variable {r r' : Registry} {id : CacheId} {name : String}

def view? (r : Registry) (name : String) : Option Cache := (r.get? name).bind r.cache?

theorem mem_names (hGet : r.get? name = some id) : (name, id) ∈ r.names := by
  obtain ⟨front, back, hNames, _⟩ := List.lookup_eq_some_iff.mp hGet
  rw [hNames]
  exact List.mem_append_right _ List.mem_cons_self

theorem Named.get?_inj (hNamed : r.Named) {other : String} (hGet : r.get? name = some id)
    (hOther : r.get? other = some id) : name = other := by
  have hDistinct : (r.names.map Prod.snd).Nodup := hNamed ▸ List.nodup_range
  exact congrArg Prod.fst
    (List.inj_on_of_nodup_map hDistinct (mem_names hGet) (mem_names hOther) rfl)

theorem Named.view?_eq (hNamed : r.Named) (hGet : r.get? name = some id) :
    ∃ c, r.cache? id = some c ∧ r.view? name = some c := by
  have hMem : id ∈ r.names.map Prod.snd := List.mem_map_of_mem (mem_names hGet)
  rw [hNamed] at hMem
  have hCache : r.cache? id = some _ := List.getElem?_eq_getElem (List.mem_range.mp hMem)
  refine ⟨_, hCache, ?_⟩
  rw [view?, hGet, Option.bind_some, hCache]

/-- A registry without a limit that has forgotten no name. -/
structure Boundless (r : Registry) : Prop where
  named : r.Named
  unlimited : r.limit = none

/-- What can be done to a registry for the cache of one name: the name can be given to a new cache,
and the cache that has it can change. -/
structure Touched (name : String) (r r' : Registry) : Prop where
  limit : r'.limit = r.limit
  named : r'.Named
  keeps : ∀ other id, r.get? other = some id → r'.get? other = some id
  elsewhere : ∀ other, other ≠ name → r'.view? other = r.view? other

theorem Touched.boundless (hTouched : Touched name r r') (h : r.Boundless) : r'.Boundless :=
  ⟨hTouched.named, hTouched.limit.trans h.unlimited⟩

theorem Touched.refl (hNamed : r.Named) : Touched name r r :=
  ⟨rfl, hNamed, fun _ _ hGet => hGet, fun _ _ => rfl⟩

section OnCache

variable {α : Type} (hNamed : r.Named) (hGet : r.get? name = some id) (other : α)
  (f : Cache → Cache × α)

theorem get?_onCache (r : Registry) (id : CacheId) (n : String) :
    (r.onCache id other f).1.get? n = r.get? n := by rw [get?, names_onCache, get?]

include hNamed hGet

theorem touched_onCache : Touched name r (r.onCache id other f).1 := by
  constructor
  · rw [onCache]
    split <;> rfl
  · exact hNamed.onCache id other f
  · intro n k hOther
    rw [get?_onCache, hOther]
  · intro n hOther
    rw [view?, get?_onCache, view?]
    cases hName : r.get? n with
    | none => rfl
    | some k =>
      have hk : k ≠ id := by
        rintro rfl
        exact hOther (hNamed.get?_inj hName hGet)
      rw [Option.bind_some, Option.bind_some, cache?_onCache, if_neg hk]

/-- What an operation on a cache gives depends on the cache alone. -/
theorem onCache_view : ∃ c, r.view? name = some c ∧ (r.onCache id other f).2 = (f c).2 ∧
    (r.onCache id other f).1.view? name = some (f c).1 := by
  obtain ⟨c, hCache, hView⟩ := hNamed.view?_eq hGet
  refine ⟨c, hView, ?_, ?_⟩
  · rw [onCache_of_some hCache]
  · rw [view?, get?_onCache, hGet, Option.bind_some, cache?_onCache, if_pos rfl, hCache,
      Option.map_some]

end OnCache

section Acquire

theorem get?_create (r : Registry) (name n : String) : (r.create name).1.get? n =
    (r.get? n).or (if n = name then some r.caches.length else none) := by
  have hAppend : (r.names ++ [(name, r.caches.length)]).lookup n =
      (r.names.lookup n).or ([(name, r.caches.length)].lookup n) := List.lookup_append
  rw [get?, create, hAppend, List.lookup_cons, get?]
  by_cases hName : n = name
  · simp [hName]
  · simp [hName, beq_eq_false_iff_ne.mpr hName]

theorem view?_create (hNamed : r.Named) (hNone : r.get? name = none) (n : String) :
    (r.create name).1.view? n = if n = name then some (.named name) else r.view? n := by
  rw [view?, get?_create]
  split
  · next hName =>
    rw [hName, hNone, Option.none_or, Option.bind_some]
    exact List.getElem?_concat_length
  · rw [Option.or_none, view?]
    cases hGet : r.get? n with
    | none => rfl
    | some id =>
      obtain ⟨c, hCache, _⟩ := hNamed.view?_eq hGet
      exact List.getElem?_append_left (List.getElem?_eq_some_iff.mp hCache).1

theorem acquire_view (hNamed : r.Named) (hAcquire : r.acquire name = .ok (r', id)) :
    Touched name r r' ∧ r'.get? name = some id ∧
      r'.view? name = some ((r.view? name).getD (.named name)) := by
  cases hGet : r.get? name with
  | some k =>
    rw [acquire, hGet] at hAcquire
    cases hAcquire
    obtain ⟨c, _, hView⟩ := hNamed.view?_eq hGet
    exact ⟨.refl hNamed, hGet, by rw [hView, Option.getD_some]⟩
  | none =>
    have hCreate : (r', id) = r.create name := by
      rcases acquire_cases hAcquire with ⟨_, hSome⟩ | hCreate
      · rw [hGet] at hSome
        cases hSome
      · exact hCreate
    have hNamed' := hNamed.acquire hAcquire
    obtain rfl : r' = (r.create name).1 := congrArg Prod.fst hCreate
    obtain rfl : id = r.caches.length := congrArg Prod.snd hCreate
    refine ⟨⟨rfl, hNamed', ?_, ?_⟩, ?_, ?_⟩
    · intro n k hOld
      rw [get?_create, hOld, Option.some_or]
    · intro n hOther
      rw [view?_create hNamed hGet, if_neg hOther]
    · rw [get?_create, hGet, Option.none_or, if_pos rfl]
    · rw [view?_create hNamed hGet, if_pos rfl, view?, hGet, Option.bind_none, Option.getD_none]

theorem Boundless.acquire_ok (h : r.Boundless) (name : String) :
    ∃ r' id, r.acquire name = .ok (r', id) := by
  rw [acquire, h.unlimited]
  split
  · exact ⟨_, _, rfl⟩
  · exact ⟨_, _, rfl⟩

end Acquire

section Mirrors

variable {N : String → Prop}

/-- The same caches stand under some names. -/
def Mirrors (N : String → Prop) (r r' : Registry) : Prop := ∀ n, N n → r.view? n = r'.view? n

theorem Mirrors.touched {q : Registry} (hMirrors : Mirrors N r r') (hTouched : Touched name r q)
    (hName : ¬ N name) : Mirrors N q r' := by
  intro n hn
  rw [hTouched.elsewhere n fun hSame => hName (hSame ▸ hn), hMirrors n hn]

theorem Mirrors.both {q q' : Registry} (hMirrors : Mirrors N r r') (hTouched : Touched name r q)
    (hTouched' : Touched name r' q') (hSame : q.view? name = q'.view? name) : Mirrors N q q' := by
  intro n hn
  by_cases hName : n = name
  · rw [hName, hSame]
  · rw [hTouched.elsewhere n hName, hTouched'.elsewhere n hName, hMirrors n hn]

theorem Mirrors.onCache {α : Type} (hMirrors : Mirrors N r r') (hName : N name)
    (hNamed : r.Named) (hNamed' : r'.Named) {id' : CacheId} (hGet : r.get? name = some id)
    (hGet' : r'.get? name = some id') (other : α) (f : Cache → Cache × α) :
    Mirrors N (r.onCache id other f).1 (r'.onCache id' other f).1 ∧
      (r.onCache id other f).2 = (r'.onCache id' other f).2 := by
  obtain ⟨c, hView, hAnswer, hAfter⟩ := onCache_view hNamed hGet other f
  obtain ⟨c', hView', hAnswer', hAfter'⟩ := onCache_view hNamed' hGet' other f
  obtain rfl : c = c' := by rw [← Option.some_inj, ← hView, ← hView', hMirrors name hName]
  refine ⟨hMirrors.both (touched_onCache hNamed hGet other f)
    (touched_onCache hNamed' hGet' other f) ?_, ?_⟩
  · rw [hAfter, hAfter']
  · rw [hAnswer, hAnswer']

theorem Mirrors.acquire {q q' : Registry} (hMirrors : Mirrors N r r') (hName : N name)
    (hNamed : r.Named) (hNamed' : r'.Named) {id' : CacheId}
    (hAcquire : r.acquire name = .ok (q, id)) (hAcquire' : r'.acquire name = .ok (q', id')) :
    Mirrors N q q' := by
  obtain ⟨hTouched, _, hAfter⟩ := acquire_view hNamed hAcquire
  obtain ⟨hTouched', _, hAfter'⟩ := acquire_view hNamed' hAcquire'
  refine hMirrors.both hTouched hTouched' ?_
  rw [hAfter, hAfter', hMirrors name hName]

end Mirrors

end PipelineForge.Registry
