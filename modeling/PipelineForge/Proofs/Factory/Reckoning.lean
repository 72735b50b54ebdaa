import PipelineForge.Proofs.Cache.Clearance
import PipelineForge.Proofs.Cache.Holders
import PipelineForge.Proofs.Factory.Marks

/-!
# Reckoning with caches

A cache that only factories use has counted their hits and misses, and holds as many pipelines as
they stored in it. One turn of a factory changes the counters of its cache by the mark that it
leaves, and those of no other cache.
-/

namespace PipelineForge

/-- Compiling leaves one cache alone, and gives no name to it. -/
structure Compiler.Spares {κ : Type} (compiler : Compiler κ) (id : CacheId) : Prop where
  cache : ∀ k registry hub ticket o,
    (compiler.answer k registry hub ticket o).2.1.cache? id = registry.cache? id
  names : ∀ k registry hub ticket o name,
    (name, id) ∈ (compiler.answer k registry hub ticket o).2.1.names → (name, id) ∈ registry.names

theorem Compiler.LeavesCaches.spares {κ : Type} {compiler : Compiler κ}
    (h : compiler.LeavesCaches) (id : CacheId) : compiler.Spares id := by
  constructor
  · intro k registry hub ticket o
    rw [h]
  · intro k registry hub ticket o name hMem
    rwa [h] at hMem

open Factory (Mark)

/-- A cache has counted the marks that were left on it, and is unknown before. -/
structure Registry.Tallied (r : Registry) (id : CacheId) (marks : List Mark) : Prop where
  counted : ∀ c, r.cache? id = some c →
    c.hits = marks.count .hit ∧ c.misses = marks.count .miss ∧ c.size = marks.count .stored
  unused : r.cache? id = none → marks = [] ∧ ∀ name, (name, id) ∉ r.names

namespace Registry

variable {r r' : Registry} {id k : CacheId} {marks more : List Mark}

theorem Tallied.of_same (h : r.Tallied id marks) (hCache : r'.cache? id = r.cache? id)
    (hNames : ∀ name, (name, id) ∈ r'.names → (name, id) ∈ r.names)
    (hQuiet : more.count .hit = 0 ∧ more.count .miss = 0 ∧ more.count .stored = 0)
    (hKnown : more ≠ [] → r.cache? id ≠ none) : r'.Tallied id (marks ++ more) := by
  obtain ⟨hHit, hMiss, hStored⟩ := hQuiet
  constructor
  · intro c hSome
    rw [List.count_append, List.count_append, List.count_append, hHit, hMiss, hStored]
    exact h.counted c (hCache ▸ hSome)
  · intro hNone
    obtain ⟨rfl, hNever⟩ := h.unused (hCache ▸ hNone)
    refine ⟨?_, fun name hMem => hNever name (hNames name hMem)⟩
    by_contra hMore
    exact hKnown (by simpa using hMore) (hCache ▸ hNone)

theorem Tallied.of_change (h : r.Tallied id marks) {c c' : Cache} (hBefore : r.cache? id = some c)
    (hAfter : r'.cache? id = some c') (hHits : c'.hits = c.hits + more.count .hit)
    (hMisses : c'.misses = c.misses + more.count .miss)
    (hSize : c'.size = c.size + more.count .stored) : r'.Tallied id (marks ++ more) := by
  obtain ⟨hHit, hMiss, hStored⟩ := h.counted c hBefore
  constructor
  · intro d hSome
    obtain rfl := Option.some.inj (hAfter.symm.trans hSome)
    rw [List.count_append, List.count_append, List.count_append, ← hHit, ← hMiss, ← hStored]
    exact ⟨hHits, hMisses, hSize⟩
  · intro hNone
    rw [hAfter] at hNone
    cases hNone

theorem Tallied.elsewhere {α : Type} (h : r.Tallied id marks) (hOther : k ≠ id) (other : α)
    (f : Cache → Cache × α) : (r.onCache k other f).1.Tallied id (marks ++ []) := by
  refine h.of_same ?_ (fun name hMem => ?_) ⟨rfl, rfl, rfl⟩ (absurd rfl)
  · rw [cache?_onCache, if_neg (Ne.symm hOther)]
  · rwa [names_onCache] at hMem

theorem Tallied.lookup (h : r.Tallied id marks) (key : CacheKey)
    (hKnown : k = id → r.cache? id ≠ none)
    (hMore : more = if k = id then [(r.find? k key).elim Mark.miss fun _ => .hit] else []) :
    (r.lookup k key).1.Tallied id (marks ++ more) := by
  subst hMore
  by_cases hk : k = id
  · subst hk
    obtain ⟨c, hCache⟩ := Option.ne_none_iff_exists'.mp (hKnown rfl)
    have hFind : r.find? k key = c.find? key := by rw [find?, hCache, Option.bind_some]
    have hAfter : (r.lookup k key).1.cache? k = some (c.tally (c.find? key)) := by
      rw [Registry.lookup, cache?_onCache, if_pos rfl, hCache, Option.map_some, Cache.lookup_eq]
    rw [if_pos rfl, hFind]
    cases hOld : c.find? key with
    | none =>
      rw [hOld] at hAfter
      exact h.of_change hCache hAfter rfl rfl rfl
    | some p =>
      rw [hOld] at hAfter
      exact h.of_change hCache hAfter rfl rfl rfl
  · rw [if_neg hk]
    exact h.elsewhere hk none _

theorem Tallied.store (h : r.Tallied id marks) (key : CacheKey) (p : Pipeline)
    (hKnown : k = id → r.cache? id ≠ none)
    (hMore : more = if k = id ∧ r.find? k key = none then [Mark.stored] else []) :
    (r.store k key p).1.Tallied id (marks ++ more) := by
  subst hMore
  by_cases hk : k = id
  · subst hk
    obtain ⟨c, hCache⟩ := Option.ne_none_iff_exists'.mp (hKnown rfl)
    have hFind : r.find? k key = c.find? key := by rw [find?, hCache, Option.bind_some]
    have hAfter : (r.store k key p).1.cache? k = some (c.store key p).1 := by
      rw [Registry.store, cache?_onCache, if_pos rfl, hCache, Option.map_some]
    obtain ⟨hHits, hMisses⟩ := Cache.counters_store c key p
    have hEntries := Cache.entries_store c key p
    rw [hFind]
    cases hOld : c.find? key with
    | none =>
      rw [hOld, Option.elim_none] at hEntries
      rw [if_pos ⟨rfl, rfl⟩]
      refine h.of_change hCache hAfter hHits hMisses ?_
      rw [Cache.size, hEntries, List.length_append]
      rfl
    | some q =>
      rw [hOld, Option.elim_some, List.append_nil] at hEntries
      rw [if_neg fun hBoth => Option.some_ne_none q hBoth.2]
      exact h.of_change hCache hAfter hHits hMisses (by rw [Cache.size, hEntries]; rfl)
  · rw [if_neg fun hBoth => hk hBoth.1]
    exact h.elsewhere hk Stored.inserted _

theorem Tallied.acquire (h : r.Tallied id marks) {name : String}
    (hAcquire : r.acquire name = .ok (r', k)) :
    r'.Tallied id marks ∧ (k = id → r'.cache? id ≠ none) := by
  rcases acquire_cases hAcquire with ⟨rfl, hGet⟩ | hCreate
  · refine ⟨h, ?_⟩
    rintro rfl hNone
    exact (h.unused hNone).2 name (mem_names hGet)
  · obtain rfl : r' = (r.create name).1 := congrArg Prod.fst hCreate
    obtain rfl : k = r.caches.length := congrArg Prod.snd hCreate
    have hAfter := cache?_create r name
    refine ⟨⟨fun c hSome => ?_, fun hNone => ?_⟩, fun hSame hNone => ?_⟩
    · rw [hAfter] at hSome
      split at hSome
      next hNew =>
        cases hSome
        have hAbsent : r.cache? id = none := List.getElem?_eq_none (Nat.le_of_eq hNew.symm)
        rw [(h.unused hAbsent).1]
        exact ⟨rfl, rfl, rfl⟩
      next => exact h.counted c hSome
    · rw [hAfter] at hNone
      split at hNone
      next => cases hNone
      next hOld =>
        obtain ⟨hMarks, hNever⟩ := h.unused hNone
        refine ⟨hMarks, fun n hMem => ?_⟩
        rcases List.mem_append.mp hMem with hMem | hMem
        · exact hNever n hMem
        · exact hOld (congrArg Prod.snd (List.mem_singleton.mp hMem))
    · rw [hAfter, if_pos hSame.symm] at hNone
      cases hNone

theorem known_onCache {α : Type} (r : Registry) (k : CacheId) (other : α)
    (f : Cache → Cache × α) : (r.onCache k other f).1.cache? id = none ↔ r.cache? id = none := by
  rw [cache?, List.getElem?_eq_none_iff, length_caches_onCache, ← List.getElem?_eq_none_iff, cache?]

theorem known_acquire {name : String} (hAcquire : r.acquire name = .ok (r', k))
    (h : r.cache? id ≠ none) : r'.cache? id ≠ none := by
  obtain ⟨c, hCache⟩ := Option.ne_none_iff_exists'.mp h
  rw [cache?_acquire hAcquire hCache]
  exact Option.some_ne_none c

end Registry

namespace Factory

open Tasks (Mode Reply)

variable {κ : Type} {compiler : Compiler κ} {hub : Nat} {w w' : Floor κ} {f f' : Factory}
  {mode mode' : Mode State} {reply : Reply State} {id : CacheId} {marks : List Mark}

def onCache (f : Factory) (id : CacheId) (mark : Option Mark) : List Mark :=
  if f.cache = some id then mark.toList else []

section Marks

variable {r r' : Registry} {k : CacheId} {key : CacheKey}

/-- A mark that no counter of a cache counts. -/
theorem tallied_aside (h : r.Tallied id marks) (hKnown : f.cache = some id → r.cache? id ≠ none)
    {m : Option Mark} (hOther : m ≠ some .hit ∧ m ≠ some .miss ∧ m ≠ some .stored)
    (hCache : r'.cache? id = r.cache? id)
    (hNames : ∀ name, (name, id) ∈ r'.names → (name, id) ∈ r.names) :
    r'.Tallied id (marks ++ f.onCache id m) := by
  refine h.of_same hCache hNames ?_ fun hNonempty => ?_
  · obtain ⟨hHit, hMiss, hStored⟩ := hOther
    rw [onCache]
    split
    · cases m with
      | none => exact ⟨rfl, rfl, rfl⟩
      | some m => cases m <;> first | exact ⟨rfl, rfl, rfl⟩ | contradiction
    · exact ⟨rfl, rfl, rfl⟩
  · by_cases hOwn : f.cache = some id
    · exact hKnown hOwn
    · rw [onCache, if_neg hOwn] at hNonempty
      exact absurd rfl hNonempty

theorem tallied_lookup (h : r.Tallied id marks) (hKnown : f.cache = some id → r.cache? id ≠ none)
    (hCache : f.cache = some k) {answer : Option Pipeline}
    (hLookup : r.lookup k key = (r', answer)) :
    r'.Tallied id (marks ++ f.onCache id (some (answer.elim Mark.miss fun _ => .hit))) := by
  have hFind : r.find? k key = answer := by rw [← Registry.lookup_snd, hLookup]
  have hNext := h.lookup key (fun hk => hKnown (hCache.trans (congrArg some hk))) rfl
  rw [hLookup, hFind] at hNext
  simpa [onCache, hCache] using hNext

theorem tallied_store (h : r.Tallied id marks) (hKnown : f.cache = some id → r.cache? id ≠ none)
    (hCache : f.cache = some k) {p : Pipeline} {answer : Stored}
    (hStore : r.store k key p = (r', answer)) :
    r'.Tallied id (marks ++ f.onCache id (if answer = .inserted then some .stored else none)) := by
  have hAnswer := r.store_snd k key p
  have hNext := h.store key p (fun hk => hKnown (hCache.trans (congrArg some hk))) rfl
  rw [hStore] at hAnswer hNext
  cases hFind : r.find? k key with
  | none =>
    rw [hFind] at hAnswer hNext
    simpa [onCache, hCache, show answer = .inserted from hAnswer] using hNext
  | some q =>
    rw [hFind] at hAnswer hNext
    simpa [onCache, hCache, show answer = .existing q from hAnswer] using hNext

end Marks

/-- A turn changes the counters of a cache by the mark that it leaves on it, and what stands for the
cache afterwards is known. -/
theorem Turn.tallied (h : Turn compiler hub w f w' f' reply) (hSpares : compiler.Spares id)
    (hTallied : w.registry.Tallied id marks)
    (hKnown : f.cache = some id → w.registry.cache? id ≠ none) :
    w'.registry.Tallied id (marks ++ f.onCache id (markOf f.point f'.point reply)) := by
  have hSame (hMark : markOf f.point f'.point reply = none) (hRegistry : w'.registry = w.registry) :
      w'.registry.Tallied id (marks ++ f.onCache id (markOf f.point f'.point reply)) := by
    rw [hMark]
    exact tallied_aside hTallied hKnown ⟨nofun, nofun, nofun⟩ (by rw [hRegistry])
      fun name hMem => hRegistry ▸ hMem
  cases h with
  | hit _ _ _ _ _ hPoint _ _ _ _ hCache hLookup | missed _ _ _ _ hPoint _ _ _ _ hCache hLookup =>
    rw [hPoint]
    exact tallied_lookup hTallied hKnown hCache hLookup
  | stored _ _ _ _ hPoint hCache hStore | outrun _ _ _ _ _ hPoint hCache hStore =>
    rw [hPoint]
    exact tallied_store hTallied hKnown hCache hStore
  | built ticket o k registry p hPoint hAnswer | refused ticket o k registry p hPoint hAnswer
  | crashed ticket o k registry p hPoint hAnswer =>
    obtain rfl : registry = _ := congrArg (·.2.1) hAnswer.symm
    rw [hPoint]
    refine tallied_aside hTallied hKnown ?_ (hSpares.cache _ _ _ _ _) (hSpares.names _ _ _ _ _)
    exact ⟨nofun, nofun, nofun⟩
  | acquired registry k hPoint hAcquire =>
    have hNone : f.onCache id (markOf f.point f.rested.point (.step (.proceed .setUp))) = [] := by
      simp [hPoint, onCache, markOf]
    have hNext := (hTallied.acquire hAcquire).1
    rw [← List.append_nil marks, ← hNone] at hNext
    exact hNext
  | discarded _ _ hPoint | sent _ hPoint | unsent _ hPoint =>
    rw [hPoint]
    exact tallied_aside hTallied hKnown ⟨nofun, nofun, nofun⟩ rfl fun _ hMem => hMem
  | broken x hPoint => exact hSame (by rw [Factory.equipped, hPoint]; rfl) rfl
  | ordered _ _ _ hPoint | unstored _ _ hPoint => exact hSame (by rw [hPoint]; rfl) rfl
  | idle hPoint =>
    rcases hPoint with hPoint | ⟨failure, hPoint⟩ | hPoint <;>
      exact hSame (by rw [hPoint]; rfl) rfl
  | _ => exact hSame (by simp only [*]; rfl) rfl

theorem Passage.same_registry (h : Passage compiler hub w f mode w' f' mode')
    (hMode : mode ≠ .working) : w'.registry = w.registry := by
  cases h with
  | turned hTurn => exact absurd rfl hMode
  | _ => rfl

theorem Passage.knows (h : Passage compiler hub w f mode w' f' mode') (hSpares : compiler.Spares id)
    (hTallied : w.registry.Tallied id marks) :
    (w.registry.cache? id ≠ none → w'.registry.cache? id ≠ none) ∧
      (f'.cache = some id → f.cache = some id ∨ w'.registry.cache? id ≠ none) := by
  have hSame (hRegistry : w'.registry = w.registry) (hCache : f'.cache = f.cache) :
      (w.registry.cache? id ≠ none → w'.registry.cache? id ≠ none) ∧
        (f'.cache = some id → f.cache = some id ∨ w'.registry.cache? id ≠ none) :=
    ⟨fun hKnown => hRegistry ▸ hKnown, fun hSome => .inl (hCache ▸ hSome)⟩
  cases h with
  | turned hTurn =>
    cases hTurn with
    | hit plan o k registry p hPoint hState hPlan hShown hOrder hCache hLookup =>
      obtain rfl : registry = _ := congrArg Prod.fst hLookup.symm
      exact ⟨fun hKnown => mt (Registry.known_onCache _ _ _ _).mp hKnown, .inl⟩
    | missed plan o k registry hPoint hState hPlan hShown hOrder hCache hLookup =>
      obtain rfl : registry = _ := congrArg Prod.fst hLookup.symm
      exact ⟨fun hKnown => mt (Registry.known_onCache _ _ _ _).mp hKnown, .inl⟩
    | acquired registry k hPoint hAcquire =>
      exact ⟨Registry.known_acquire hAcquire,
        fun hSome => .inr ((hTallied.acquire hAcquire).2 (Option.some.inj hSome))⟩
    | built ticket o k registry p hPoint hAnswer =>
      obtain rfl : registry = _ := congrArg (·.2.1) hAnswer.symm
      exact ⟨fun hKnown => (hSpares.cache _ _ _ _ _).symm ▸ hKnown, .inl⟩
    | refused ticket o k registry causes hPoint hAnswer =>
      obtain rfl : registry = _ := congrArg (·.2.1) hAnswer.symm
      exact ⟨fun hKnown => (hSpares.cache _ _ _ _ _).symm ▸ hKnown, .inl⟩
    | crashed ticket o k registry text hPoint hAnswer =>
      obtain rfl : registry = _ := congrArg (·.2.1) hAnswer.symm
      exact ⟨fun hKnown => (hSpares.cache _ _ _ _ _).symm ▸ hKnown, .inl⟩
    | stored key p k registry hPoint hCache hStore =>
      obtain rfl : registry = _ := congrArg Prod.fst hStore.symm
      exact ⟨fun hKnown => mt (Registry.known_onCache _ _ _ _).mp hKnown, .inl⟩
    | outrun key p kept k registry hPoint hCache hStore =>
      obtain rfl : registry = _ := congrArg Prod.fst hStore.symm
      exact ⟨fun hKnown => mt (Registry.known_onCache _ _ _ _).mp hKnown, .inl⟩
    | _ => exact hSame rfl rfl
  | reported failure hPoint => exact ⟨fun hKnown => hKnown, nofun⟩
  | _ => exact hSame rfl rfl

end Factory

end PipelineForge
