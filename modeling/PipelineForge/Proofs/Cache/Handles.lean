import Mathlib.Data.List.Induction
import PipelineForge.Proofs.Cache.Clearance

/-!
# Handles of caches

A registry gives out handles, and a handle can be used longer than the registry knows its cache:
when the registry is destroyed, an age of it ends. Two handles are for the same cache just when they
are for the same name and were given out in the same age, and what is found through a handle is what
was stored first through such handles, as far as the end of their age has not emptied the cache.
-/

namespace PipelineForge.Registry

structure Handle where
  name : String
  id : CacheId
  /-- How often the registry had been destroyed when the handle was given out. -/
  age : Nat

structure Deposit where
  handle : Handle
  /-- How often the registry had been destroyed when the pipeline was brought. -/
  age : Nat
  key : CacheKey
  pipeline : Pipeline

/-- What can be asked of a registry, and of caches through the handles that were given out. -/
inductive Errand where
  | acquire (name : String)
  | get (name : String)
  | lookup (handle : Nat) (key : CacheKey)
  | store (handle : Nat) (key : CacheKey) (p : Pipeline)
  | destroy

/-- A registry with the handles that it gave out and what was brought through them. -/
structure Custody where
  registry : Registry
  age : Nat := 0
  handles : List Handle := []
  deposits : List Deposit := []

/-- What holds of the names of a registry. -/
structure Tidy (r : Registry) : Prop where
  names : (r.names.map Prod.fst).Nodup
  ids : (r.names.map Prod.snd).Nodup
  known : ∀ e ∈ r.names, e.2 < r.caches.length
  bounded : ∀ n, r.limit = some n → r.names.length ≤ n

namespace Tidy

variable {r r' : Registry} {name : String} {id : CacheId}

theorem get?_iff (h : r.Tidy) : r.get? name = some id ↔ (name, id) ∈ r.names :=
  ⟨mem_names, lookup_of_mem h.names⟩

theorem onCache {α : Type} (h : r.Tidy) (id : CacheId) (other : α) (f : Cache → Cache × α) :
    (r.onCache id other f).1.Tidy := by
  have hNames := names_onCache r id other f
  have hLength := length_caches_onCache r id other f
  have hLimit := limit_onCache r id other f
  constructor
  · rw [hNames]
    exact h.names
  · rw [hNames]
    exact h.ids
  · rw [hNames, hLength]
    exact h.known
  · rw [hNames, hLimit]
    exact h.bounded

theorem create (h : r.Tidy) (hNone : r.get? name = none)
    (hRoom : ∀ n, r.limit = some n → r.names.length < n) : (r.create name).1.Tidy := by
  have hNew : name ∉ r.names.map Prod.fst := lookup_eq_none.mp hNone
  have hFresh : r.caches.length ∉ r.names.map Prod.snd := by
    intro hMem
    obtain ⟨e, he, hEq⟩ := List.mem_map.mp hMem
    exact absurd (h.known e he) (Nat.not_lt.mpr (Nat.le_of_eq hEq.symm))
  constructor
  · rw [Registry.create, List.map_append]
    exact List.nodup_append_comm.mp (List.nodup_cons.mpr ⟨hNew, h.names⟩)
  · rw [Registry.create, List.map_append]
    exact List.nodup_append_comm.mp (List.nodup_cons.mpr ⟨hFresh, h.ids⟩)
  · intro e he
    rw [Registry.create, List.length_append]
    rcases List.mem_append.mp he with he | he
    · exact Nat.lt_add_right 1 (h.known e he)
    · rw [List.mem_singleton.mp he]
      exact Nat.lt_add_one _
  · intro n hn
    rw [Registry.create, List.length_append]
    exact hRoom n hn

end Tidy

theorem tidy_of_names {r : Registry} (hNames : r.names = []) : r.Tidy := by
  constructor <;> simp [hNames]

namespace Custody

def give (s : Custody) (registry : Registry) (name : String) (id : CacheId) : Custody :=
  { s with registry, handles := s.handles ++ [⟨name, id, s.age⟩] }

def serve (s : Custody) : Errand → Custody
  | .acquire name =>
    match s.registry.acquire name with
    | .ok (registry, id) => s.give registry name id
    | .error _ => s
  | .get name =>
    match s.registry.get? name with
    | some id => s.give s.registry name id
    | none => s
  | .lookup i key =>
    match s.handles[i]? with
    | some h => { s with registry := (s.registry.lookup h.id key).1 }
    | none => s
  | .store i key p =>
    match s.handles[i]? with
    | some h =>
      { s with
        registry := (s.registry.store h.id key p).1
        deposits := s.deposits ++ [⟨h, s.age, key, p⟩] }
    | none => s
  | .destroy => { s with registry := s.registry.destroy.1, age := s.age + 1 }

def after (limit : Option Nat) (errands : List Errand) : Custody :=
  errands.foldl serve { registry := { limit } }

/-- Whether a deposit is for the cache of a handle and was not taken out at the end of an age. -/
def keeps (age : Nat) (h : Handle) (d : Deposit) : Bool :=
  h.name = d.handle.name ∧ h.age = d.handle.age ∧ (h.age = age ∨ h.age < d.age)

/-- The first pipeline that was brought for the cache of a handle and was not taken out. -/
def first? (s : Custody) (h : Handle) (key : CacheKey) : Option Pipeline :=
  ((s.deposits.filter (keeps s.age h)).map fun d => (d.key, d.pipeline)).lookup key

/-- Handles and deposits tell what is in the caches. -/
structure Sound (s : Custody) : Prop where
  tidy : s.registry.Tidy
  /-- Every handle can be used. -/
  usable : ∀ h ∈ s.handles, ∃ c, s.registry.cache? h.id = some c ∧ c.name = h.name
  past : ∀ h ∈ s.handles, h.age ≤ s.age
  /-- The names are those of the handles of this age. -/
  current : ∀ name id, (name, id) ∈ s.registry.names ↔ ⟨name, id, s.age⟩ ∈ s.handles
  same : ∀ h ∈ s.handles, ∀ h' ∈ s.handles, h.id = h'.id ↔ h.name = h'.name ∧ h.age = h'.age
  brought : ∀ d ∈ s.deposits, d.handle ∈ s.handles ∧ d.handle.age ≤ d.age ∧ d.age ≤ s.age
  find : ∀ h ∈ s.handles, ∀ key, s.registry.find? h.id key = s.first? h key

namespace Sound

variable {s : Custody} {name : String} {id : CacheId}

theorem lt_length (hSound : s.Sound) {h : Handle} (hMem : h ∈ s.handles) :
    h.id < s.registry.caches.length := by
  obtain ⟨c, hCache, _⟩ := hSound.usable h hMem
  exact (List.getElem?_eq_some_iff.mp hCache).1

theorem registered_iff (hSound : s.Sound) {h : Handle} (hMem : h ∈ s.handles) :
    h.id ∈ s.registry.names.map Prod.snd ↔ h.age = s.age := by
  constructor
  · intro hId
    obtain ⟨⟨name, id⟩, hName, rfl⟩ := List.mem_map.mp hId
    exact ((hSound.same h hMem _ ((hSound.current name h.id).mp hName)).mp rfl).2
  · intro hAge
    have hNow : ⟨h.name, h.id, s.age⟩ ∈ s.handles := hAge ▸ hMem
    exact List.mem_map.mpr ⟨_, (hSound.current h.name h.id).mpr hNow, rfl⟩

theorem give_known (hSound : s.Sound) (hGet : s.registry.get? name = some id) :
    (s.give s.registry name id).Sound := by
  have hGiven : ⟨name, id, s.age⟩ ∈ s.handles :=
    (hSound.current name id).mp (hSound.tidy.get?_iff.mp hGet)
  have hHandles (h : Handle) : h ∈ (s.give s.registry name id).handles ↔ h ∈ s.handles := by
    rw [give, List.mem_append, List.mem_singleton]
    exact ⟨fun hMem => hMem.elim (·) (· ▸ hGiven), .inl⟩
  constructor
  · exact hSound.tidy
  · intro h hMem
    exact hSound.usable h ((hHandles h).mp hMem)
  · intro h hMem
    exact hSound.past h ((hHandles h).mp hMem)
  · intro name id
    rw [hHandles]
    exact hSound.current name id
  · intro h hMem h' hMem'
    exact hSound.same h ((hHandles h).mp hMem) h' ((hHandles h').mp hMem')
  · intro d hMem
    rw [hHandles]
    exact hSound.brought d hMem
  · intro h hMem
    exact hSound.find h ((hHandles h).mp hMem)

theorem give_new (hSound : s.Sound) (hNone : s.registry.get? name = none)
    (hRoom : ∀ n, s.registry.limit = some n → s.registry.names.length < n) :
    (s.give (s.registry.create name).1 name s.registry.caches.length).Sound := by
  have hOld {h : Handle} (hMem : h ∈ s.handles) : h.id ≠ s.registry.caches.length :=
    Nat.ne_of_lt (hSound.lt_length hMem)
  have hCache {h : Handle} (hMem : h ∈ s.handles) :
      (s.registry.create name).1.cache? h.id = s.registry.cache? h.id := by
    rw [cache?_create, if_neg (hOld hMem)]
  have hNew : (s.registry.create name).1.cache? s.registry.caches.length = some (.named name) := by
    rw [cache?_create, if_pos rfl]
  have hFresh {h : Handle} (hMem : h ∈ s.handles) (hName : h.name = name) : h.age ≠ s.age := by
    intro hAge
    have hNow : ⟨name, h.id, s.age⟩ ∈ s.handles := hName ▸ hAge ▸ hMem
    have hKnown := hSound.tidy.get?_iff.mpr ((hSound.current name h.id).mpr hNow)
    rw [hNone] at hKnown
    cases hKnown
  constructor
  · exact hSound.tidy.create hNone hRoom
  · intro h hMem
    rcases List.mem_append.mp hMem with hMem | hMem
    · obtain ⟨c, hOf, hName⟩ := hSound.usable h hMem
      exact ⟨c, (hCache hMem).trans hOf, hName⟩
    · rw [List.mem_singleton.mp hMem]
      exact ⟨_, hNew, rfl⟩
  · intro h hMem
    rcases List.mem_append.mp hMem with hMem | hMem
    · exact hSound.past h hMem
    · rw [List.mem_singleton.mp hMem]
      exact Nat.le_refl _
  · intro n id
    have hCurrent := hSound.current n id
    simp only [give, create, List.mem_append, List.mem_singleton, Prod.mk.injEq, Handle.mk.injEq,
      and_true, hCurrent]
  · have hApart {h : Handle} (hMem : h ∈ s.handles) :
        h.id = s.registry.caches.length ↔ h.name = name ∧ h.age = s.age :=
      iff_of_false (hOld hMem) fun hSame => hFresh hMem hSame.1 hSame.2
    intro h hMem h' hMem'
    rcases List.mem_append.mp hMem with hMem | hMem
    · rcases List.mem_append.mp hMem' with hMem' | hMem'
      · exact hSound.same h hMem h' hMem'
      · rw [List.mem_singleton.mp hMem']
        exact hApart hMem
    · rw [List.mem_singleton.mp hMem]
      rcases List.mem_append.mp hMem' with hMem' | hMem'
      · rw [eq_comm, hApart hMem', eq_comm, @eq_comm _ s.age]
      · rw [List.mem_singleton.mp hMem']
        simp
  · intro d hMem
    obtain ⟨hHandle, hAges⟩ := hSound.brought d hMem
    exact ⟨List.mem_append_left _ hHandle, hAges⟩
  · intro h hMem key
    rcases List.mem_append.mp hMem with hMem | hMem
    · have hFind := hSound.find h hMem key
      rw [find?, ← hCache hMem] at hFind
      exact hFind
    · rw [List.mem_singleton.mp hMem]
      have hEmpty : (s.registry.create name).1.find? s.registry.caches.length key = none := by
        rw [find?, hNew]
        rfl
      have hNothing : s.deposits.filter (keeps s.age ⟨name, s.registry.caches.length, s.age⟩) =
          [] := by
        rw [List.filter_eq_nil_iff]
        intro d hDeposit hKeeps
        obtain ⟨hName, hAge, _⟩ := of_decide_eq_true hKeeps
        exact hFresh (hSound.brought d hDeposit).1 hName.symm hAge.symm
      refine hEmpty.trans ?_
      rw [first?, give, hNothing]
      rfl

theorem lookup (hSound : s.Sound) (id : CacheId) (key : CacheKey) :
    { s with registry := (s.registry.lookup id key).1 : Custody }.Sound where
  tidy := hSound.tidy.onCache id none _
  usable h hMem := by
    obtain ⟨c, hCache, hName⟩ := hSound.usable h hMem
    obtain ⟨c', hAfter, hSame⟩ := name_onCache id none (Cache.name_lookup · key) hCache
    exact ⟨c', hAfter, hSame.trans hName⟩
  past := hSound.past
  current name k := by
    rw [Registry.lookup, names_onCache]
    exact hSound.current name k
  same := hSound.same
  brought := hSound.brought
  find h hMem k := by
    rw [find?_lookup]
    exact hSound.find h hMem k

theorem store (hSound : s.Sound) {h : Handle} (hMem : h ∈ s.handles) (key : CacheKey)
    (p : Pipeline) :
    { s with
      registry := (s.registry.store h.id key p).1
      deposits := s.deposits ++ [⟨h, s.age, key, p⟩] : Custody }.Sound where
  tidy := hSound.tidy.onCache h.id Stored.inserted _
  usable k hk := by
    obtain ⟨c, hCache, hName⟩ := hSound.usable k hk
    obtain ⟨c', hAfter, hSame⟩ :=
      name_onCache h.id Stored.inserted (Cache.name_store · key p) hCache
    exact ⟨c', hAfter, hSame.trans hName⟩
  past := hSound.past
  current name k := by
    rw [Registry.store, names_onCache]
    exact hSound.current name k
  same := hSound.same
  brought d hd := by
    rcases List.mem_append.mp hd with hd | hd
    · exact hSound.brought d hd
    · rw [List.mem_singleton.mp hd]
      exact ⟨hMem, hSound.past h hMem, Nat.le_refl _⟩
  find k hk other := by
    have hFor : keeps s.age k ⟨h, s.age, key, p⟩ = decide (k.id = h.id) := by
      have hPast : k.age = s.age ∨ k.age < s.age := Nat.eq_or_lt_of_le (hSound.past k hk)
      simp only [keeps, hPast, and_true, hSound.same k hk h hMem]
    rw [find?_store (hSound.lt_length hMem), hSound.find k hk other, first?, first?,
      List.filter_append, List.map_append, List.lookup_append, List.filter_singleton, hFor]
    by_cases hId : k.id = h.id
    · by_cases hKey : other = key
      · rw [if_pos ⟨hId, hKey⟩, hKey, ← hId, hSound.find k hk key, first?]
        cases List.lookup key _ <;> simp [hId]
      · have hOther : List.lookup other [(key, p)] = none := by simp [hKey]
        simp [hId, hKey, hOther]
    · simp [hId]

theorem destroy (hSound : s.Sound) :
    { s with registry := s.registry.destroy.1, age := s.age + 1 : Custody }.Sound where
  tidy := tidy_of_names (names_destroy _)
  usable h hMem := by
    obtain ⟨c, hCache, hName⟩ := hSound.usable h hMem
    rw [cache?_destroy]
    split
    next => exact ⟨c.emptied, by rw [hCache, Option.map_some], hName⟩
    next => exact ⟨c, hCache, hName⟩
  past h hMem := Nat.le_succ_of_le (hSound.past h hMem)
  current name id := by
    rw [names_destroy]
    refine iff_of_false List.not_mem_nil fun hMem => ?_
    exact absurd (hSound.past _ hMem) (Nat.not_succ_le_self s.age)
  same := hSound.same
  brought d hd := by
    obtain ⟨hHandle, hSince, hUntil⟩ := hSound.brought d hd
    exact ⟨hHandle, hSince, Nat.le_succ_of_le hUntil⟩
  find h hMem key := by
    have hPast := hSound.past h hMem
    have hNotNext : h.age ≠ s.age + 1 := by omega
    rw [find?_destroy, first?]
    by_cases hAge : h.age = s.age
    · -- the end of their age empties the cache
      have hNothing : s.deposits.filter (keeps (s.age + 1) h) = [] := by
        rw [List.filter_eq_nil_iff]
        intro d hd hKeeps
        obtain ⟨_, _, hLater⟩ := of_decide_eq_true hKeeps
        have hUntil := (hSound.brought d hd).2.2
        omega
      rw [if_pos ((hSound.registered_iff hMem).mpr hAge), hNothing]
      rfl
    · have hSame : keeps (s.age + 1) h = keeps s.age h := by
        funext d
        simp only [keeps, hNotNext, hAge]
      rw [if_neg fun hId => hAge ((hSound.registered_iff hMem).mp hId), hSame]
      exact hSound.find h hMem key

theorem serve (hSound : s.Sound) (errand : Errand) : (s.serve errand).Sound := by
  cases errand with
  | acquire name =>
    rw [Custody.serve]
    split
    next r id hAcquire =>
      cases hGet : s.registry.get? name with
      | some known =>
        rw [acquire, hGet] at hAcquire
        cases hAcquire
        exact hSound.give_known hGet
      | none =>
        obtain ⟨hCreate, hRoom⟩ := acquire_new hGet hAcquire
        cases hCreate
        exact hSound.give_new hGet hRoom
    next => exact hSound
  | get name =>
    rw [Custody.serve]
    split
    next id hGet => exact hSound.give_known hGet
    next => exact hSound
  | lookup i key =>
    rw [Custody.serve]
    split
    next h hHandle => exact hSound.lookup h.id key
    next => exact hSound
  | store i key p =>
    rw [Custody.serve]
    split
    next h hHandle => exact hSound.store (List.mem_of_getElem? hHandle) key p
    next => exact hSound
  | destroy => exact hSound.destroy

end Sound

theorem sound_after (limit : Option Nat) (errands : List Errand) : (after limit errands).Sound := by
  induction errands using List.reverseRecOn with
  | nil =>
    refine ⟨tidy_of_names rfl, nofun, nofun, fun _ _ => ?_, nofun, nofun, nofun⟩
    exact iff_of_false List.not_mem_nil List.not_mem_nil
  | append_singleton errands errand ih =>
    rw [after, List.foldl_append]
    exact ih.serve errand

theorem limit_serve (s : Custody) (errand : Errand) :
    (s.serve errand).registry.limit = s.registry.limit := by
  cases errand with
  | acquire name =>
    rw [serve]
    split
    next r id hAcquire =>
      rcases acquire_cases hAcquire with ⟨rfl, _⟩ | hCreate
      · rfl
      · cases hCreate
        rfl
    next => rfl
  | get name =>
    rw [serve]
    split <;> rfl
  | lookup i key =>
    rw [serve]
    split
    · exact limit_onCache _ _ _ _
    · rfl
  | store i key p =>
    rw [serve]
    split
    · exact limit_onCache _ _ _ _
    · rfl
  | destroy => exact limit_destroy _

theorem limit_after (limit : Option Nat) (errands : List Errand) :
    (after limit errands).registry.limit = limit := by
  induction errands using List.reverseRecOn with
  | nil => rfl
  | append_singleton errands errand ih =>
    rw [after, List.foldl_append]
    exact (limit_serve _ errand).trans ih

/-- What is true of a registry and its handles at any time, and what each errand does to them. -/
structure Faithful (limit : Option Nat) (s : Custody) : Prop extends Sound s where
  bound : ∀ n, limit = some n → s.registry.names.length ≤ n
  refuses : ∀ name, (∃ e, s.registry.acquire name = .error e) ↔
    s.registry.get? name = none ∧ ∃ n, limit = some n ∧ n ≤ s.registry.names.length
  refused : ∀ name e, s.registry.acquire name = .error e → s.serve (.acquire name) = s
  gets : ∀ name id, s.registry.get? name = some id ↔ ⟨name, id, s.age⟩ ∈ s.handles
  looks : ∀ h ∈ s.handles, ∀ key, (s.registry.lookup h.id key).2 = s.first? h key
  stores : ∀ h ∈ s.handles, ∀ key p,
    (s.registry.store h.id key p).2 = (s.first? h key).elim .inserted .existing
  creates : ∀ name r id, s.registry.get? name = none → s.registry.acquire name = .ok (r, id) →
    r.cache? id = some (.named name) ∧ ∀ h ∈ s.handles, h.id ≠ id
  forgets : s.registry.destroy.1.names = []
  empties : ∀ h ∈ s.handles, h.age = s.age →
    s.registry.destroy.1.cache? h.id = (s.registry.cache? h.id).map Cache.emptied
  spares : ∀ id, (∀ h ∈ s.handles, h.age = s.age → h.id ≠ id) →
    s.registry.destroy.1.cache? id = s.registry.cache? id
  /-- What the compiler is told when the caches of a plant are destroyed. -/
  hands : ∀ {κ : Type} (compiler : Compiler κ) (plant : Plant κ) (i : Nat),
    plant.registry = s.registry →
      (plant.destroyCaches compiler i).1.registry = s.registry.destroy.1 ∧
      (plant.destroyCaches compiler i).1.compiler =
        (s.registry.names.flatMap fun e => s.registry.contents e.2).foldl
          (fun k q => compiler.destroy k i q) plant.compiler

end Custody

end PipelineForge.Registry
