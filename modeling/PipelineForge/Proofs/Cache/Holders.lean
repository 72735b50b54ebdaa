import Mathlib.Data.List.Dedup
import Mathlib.Data.List.DropRight
import PipelineForge.Proofs.Cache.Contents
import PipelineForge.Proofs.Lists

/-!
# Holders of one cache

Any number of holders use one cache at the same time. A lookup is not one step for them: it reads
the entries, and is counted after others may have been served. Whatever the order is, the cache
answers like a map that is written once per key until it is drained.
-/

namespace PipelineForge

theorem filterMap_lookup {l : List (CacheKey × Pipeline)} (hDistinct : (l.map Prod.fst).Nodup) :
    (l.map Prod.fst).filterMap (List.lookup · l) = l.map Prod.snd := by
  have hEach : ∀ e ∈ l, ((List.lookup · l) ∘ Prod.fst) e = (some ∘ Prod.snd) e :=
    fun e he => lookup_of_mem hDistinct he
  rw [List.filterMap_map, List.filterMap_congr hEach, List.filterMap_eq_map]

namespace Cache

/-- What a lookup does after it has read the entries. -/
def tally (c : Cache) : Option Pipeline → Cache
  | some _ => { c with hits := c.hits + 1 }
  | none => { c with misses := c.misses + 1 }

theorem lookup_eq (c : Cache) (key : CacheKey) :
    c.lookup key = (c.tally (c.find? key), c.find? key) := by
  rw [lookup]
  split
  · next hFind => rw [hFind, tally]
  · next hNone => rw [hNone, tally]

theorem entries_tally (c : Cache) (answer : Option Pipeline) :
    (c.tally answer).entries = c.entries := by
  cases answer <;> rfl

theorem find?_tally (c : Cache) (answer : Option Pipeline) (key : CacheKey) :
    (c.tally answer).find? key = c.find? key := by rw [find?, entries_tally, find?]

theorem hits_tally (c : Cache) (answer : Option Pipeline) :
    (c.tally answer).hits = c.hits + if answer.isSome then 1 else 0 := by
  cases answer <;> rfl

theorem misses_tally (c : Cache) (answer : Option Pipeline) :
    (c.tally answer).misses = c.misses + if answer.isNone then 1 else 0 := by
  cases answer <;> rfl

theorem entries_store (c : Cache) (key : CacheKey) (p : Pipeline) :
    (c.store key p).1.entries =
      c.entries ++ ((c.find? key).elim [(key, p)] fun _ => []) := by
  rw [store]
  split
  · next hFind => rw [hFind, Option.elim_some, List.append_nil]
  · next hNone => rw [hNone, Option.elim_none]

theorem counters_store (c : Cache) (key : CacheKey) (p : Pipeline) :
    (c.store key p).1.hits = c.hits ∧ (c.store key p).1.misses = c.misses := by
  rw [store]
  split <;> exact ⟨rfl, rfl⟩

/-- What was done at a cache, with the answer. -/
inductive Act where
  /-- A lookup has read the entries. -/
  | looked (key : CacheKey) (answer : Option Pipeline)
  /-- A lookup was counted, and gives its answer. -/
  | counted (key : CacheKey) (answer : Option Pipeline)
  | stored (key : CacheKey) (p : Pipeline) (answer : Stored)
  | drained (ps : List Pipeline)

namespace Act

def isDrain : Act → Bool
  | drained _ => true
  | _ => false

def reading? : Act → Option (CacheKey × Option Pipeline)
  | looked key answer => some (key, answer)
  | _ => none

def answer? : Act → Option (CacheKey × Option Pipeline)
  | counted key answer => some (key, answer)
  | _ => none

def offer? : Act → Option (CacheKey × Pipeline)
  | stored key p _ => some (key, p)
  | _ => none

end Act

def readings (acts : List Act) : List (CacheKey × Option Pipeline) :=
  acts.filterMap Act.reading?

def answers (acts : List Act) : List (CacheKey × Option Pipeline) := acts.filterMap Act.answer?

def offers (acts : List Act) : List (CacheKey × Pipeline) :=
  (acts.rtakeWhile fun a => !a.isDrain).filterMap Act.offer?

/-- The first pipeline that was brought under a key since the last drain. -/
def first? (acts : List Act) (key : CacheKey) : Option Pipeline := (offers acts).lookup key

def offeredKeys (acts : List Act) : List CacheKey := ((offers acts).map Prod.fst).dedup

/-- The answer of an act is the one that a write-once map gives after the acts before it. -/
def Act.Follows (before : List Act) : Act → Prop
  | .looked key answer => answer = first? before key
  | .counted key answer => .looked key answer ∈ before
  | .stored key _ answer => answer = (first? before key).elim .inserted .existing
  | .drained ps => ps.Perm ((offeredKeys before).filterMap (first? before))

@[simp] theorem readings_append (acts : List Act) (a : Act) :
    readings (acts ++ [a]) = readings acts ++ a.reading?.toList := by
  cases a <;> simp [readings, Act.reading?]

@[simp] theorem answers_append (acts : List Act) (a : Act) :
    answers (acts ++ [a]) = answers acts ++ a.answer?.toList := by
  cases a <;> simp [answers, Act.answer?]

theorem offers_append (acts : List Act) (a : Act) :
    offers (acts ++ [a]) = if a.isDrain then [] else offers acts ++ a.offer?.toList := by
  rw [offers, List.rtakeWhile_concat]
  cases a <;> simp [Act.isDrain, Act.offer?, offers]

theorem first?_append (acts : List Act) (a : Act) (key : CacheKey) :
    first? (acts ++ [a]) key =
      if a.isDrain then none else (first? acts key).or (a.offer?.toList.lookup key) := by
  rw [first?, offers_append]
  split
  · rfl
  · exact List.lookup_append

/-- What the holders of a cache ask for. -/
inductive Request where
  | look (key : CacheKey)
  /-- Counts one of the lookups that have read the entries. -/
  | count (i : Nat)
  | store (key : CacheKey) (p : Pipeline)
  | drain

structure History where
  cache : Cache
  /-- The lookups that have read the entries and are not counted yet. -/
  uncounted : List (CacheKey × Option Pipeline) := []
  acts : List Act := []

namespace History

def serve (h : History) : Request → History
  | .look key =>
    let answer := h.cache.find? key
    { h with
      uncounted := h.uncounted ++ [(key, answer)]
      acts := h.acts ++ [.looked key answer] }
  | .count i =>
    match h.uncounted[i]? with
    | some (key, answer) =>
      { cache := h.cache.tally answer
        uncounted := h.uncounted.eraseIdx i
        acts := h.acts ++ [.counted key answer] }
    | none => h
  | .store key p =>
    let (cache, answer) := h.cache.store key p
    { h with cache, acts := h.acts ++ [.stored key p answer] }
  | .drain =>
    let (cache, ps) := h.cache.drain
    { h with cache, acts := h.acts ++ [.drained ps] }

/-- The history of a new cache. -/
def after (name : String) (requests : List Request) : History :=
  requests.foldl serve { cache := .named name }

theorem serve_store (h : History) (key : CacheKey) (p : Pipeline) :
    h.serve (.store key p) =
      { h with
        cache := (h.cache.store key p).1
        acts := h.acts ++ [.stored key p (h.cache.store key p).2] } := rfl

theorem serve_drain (h : History) :
    h.serve .drain =
      { h with
        cache := { h.cache with entries := [] }
        acts := h.acts ++ [.drained h.cache.drain.2] } := rfl

theorem serve_look_count (h : History) (key : CacheKey) :
    (h.serve (.look key)).serve (.count h.uncounted.length) =
      { h with
        cache := (h.cache.lookup key).1
        acts := h.acts ++ [.looked key (h.cache.lookup key).2,
          .counted key (h.cache.lookup key).2] } := by
  simp [serve, lookup_eq, List.eraseIdx_append_of_length_le]

/-- The cache and its acts are those of a map that is written once per key and drain. -/
structure WriteOnce (h : History) : Prop where
  follows : ∀ (n : Nat) (act : Act), h.acts[n]? = some act → act.Follows (h.acts.take n)
  find : ∀ key, h.cache.find? key = first? h.acts key
  distinct : (h.cache.entries.map Prod.fst).Nodup
  hits : h.cache.hits = (answers h.acts).countP (·.2.isSome)
  misses : h.cache.misses = (answers h.acts).countP (·.2.isNone)
  /-- Every lookup is counted once, with what it read. -/
  readings : (readings h.acts).Perm (answers h.acts ++ h.uncounted)

namespace WriteOnce

variable {h : History}

theorem keys_perm (hOnce : h.WriteOnce) :
    (h.cache.entries.map Prod.fst).Perm (offeredKeys h.acts) := by
  refine (List.perm_ext_iff_of_nodup hOnce.distinct (List.nodup_dedup _)).mpr fun key => ?_
  have hKey : h.cache.find? key = none ↔ first? h.acts key = none := by rw [hOnce.find]
  rw [find?, first?, lookup_eq_none, lookup_eq_none, not_iff_not] at hKey
  exact hKey.trans List.mem_dedup.symm

theorem size_eq (hOnce : h.WriteOnce) : h.cache.size = (offeredKeys h.acts).length := by
  rw [size, ← hOnce.keys_perm.length_eq, List.length_map]

theorem drained_perm (hOnce : h.WriteOnce) :
    h.cache.drain.2.Perm ((offeredKeys h.acts).filterMap (first? h.acts)) := by
  have hFind : first? h.acts = (List.lookup · h.cache.entries) := by
    funext key
    rw [← hOnce.find, find?]
  rw [drain, ← filterMap_lookup hOnce.distinct, hFind]
  exact hOnce.keys_perm.filterMap _

theorem follows_append (hOnce : h.WriteOnce) {a : Act} (hFollows : a.Follows h.acts) (n : Nat)
    (act : Act) (hAct : (h.acts ++ [a])[n]? = some act) :
    act.Follows ((h.acts ++ [a]).take n) := by
  rcases Nat.lt_or_ge n h.acts.length with hn | hn
  · rw [List.getElem?_append_left hn] at hAct
    rw [List.take_append_of_le_length (Nat.le_of_lt hn)]
    exact hOnce.follows n act hAct
  · rw [List.getElem?_append_right hn, List.getElem?_singleton] at hAct
    split at hAct
    · next hLast =>
      obtain rfl : n = h.acts.length := by omega
      rw [List.take_left, ← Option.some.inj hAct]
      exact hFollows
    · cases hAct

theorem look (hOnce : h.WriteOnce) (key : CacheKey) : (h.serve (.look key)).WriteOnce where
  follows := hOnce.follows_append (hOnce.find key)
  find k := by simpa [serve, first?_append, Act.isDrain, Act.offer?] using hOnce.find k
  distinct := hOnce.distinct
  hits := by simpa [serve, Act.answer?] using hOnce.hits
  misses := by simpa [serve, Act.answer?] using hOnce.misses
  readings := by
    simpa [serve, Act.answer?, Act.reading?] using
      hOnce.readings.append_right [(key, h.cache.find? key)]

theorem looked_of_mem (hOnce : h.WriteOnce) {key : CacheKey} {answer : Option Pipeline}
    (hMem : (key, answer) ∈ h.uncounted) : .looked key answer ∈ h.acts := by
  have hRead : (key, answer) ∈ Cache.readings h.acts :=
    hOnce.readings.symm.subset (List.mem_append_right _ hMem)
  obtain ⟨act, hAct, hReading⟩ := List.mem_filterMap.mp hRead
  cases act with
  | looked =>
    cases hReading
    exact hAct
  | counted | stored | drained => cases hReading

theorem count (hOnce : h.WriteOnce) (i : Nat) : (h.serve (.count i)).WriteOnce := by
  rw [serve]
  split
  next key answer hOpen =>
    obtain ⟨front, back, hSplit, rfl⟩ := exists_split hOpen
    constructor
    · exact hOnce.follows_append (hOnce.looked_of_mem (List.mem_of_getElem? hOpen))
    · intro k
      simpa [find?_tally, first?_append, Act.isDrain, Act.offer?] using hOnce.find k
    · rw [entries_tally]
      exact hOnce.distinct
    · simp [hits_tally, hOnce.hits, Act.answer?, List.countP_cons]
    · simp [misses_tally, hOnce.misses, Act.answer?, List.countP_cons]
    · have hReadings := hOnce.readings
      rw [hSplit] at hReadings
      simp only [hSplit, eraseIdx_split, readings_append, answers_append, Act.answer?, Act.reading?]
      simpa using hReadings.trans (List.perm_middle.append_left _)
  next => exact hOnce

theorem store (hOnce : h.WriteOnce) (key : CacheKey) (p : Pipeline) :
    (h.serve (.store key p)).WriteOnce := by
  rw [serve_store]
  obtain ⟨hHits, hMisses⟩ := counters_store h.cache key p
  have hFollows : Act.Follows h.acts (.stored key p (h.cache.store key p).2) := by
    rw [Act.Follows, store_snd, hOnce.find]
  constructor
  · exact hOnce.follows_append hFollows
  · intro k
    rw [find?_store, hOnce.find, hOnce.find, first?_append]
    by_cases hKey : k = key
    · subst hKey
      cases first? h.acts k <;> simp [Act.isDrain, Act.offer?]
    · have hOther : List.lookup k [(key, p)] = none := by simp [hKey]
      simp [Act.isDrain, Act.offer?, hKey, hOther]
  · rw [entries_store]
    cases hFind : h.cache.find? key with
    | none =>
      have hNew : key ∉ h.cache.entries.map Prod.fst := lookup_eq_none.mp hFind
      rw [Option.elim_none, List.map_append]
      exact List.nodup_append_comm.mp (List.nodup_cons.mpr ⟨hNew, hOnce.distinct⟩)
    | some _ =>
      rw [Option.elim_some, List.append_nil]
      exact hOnce.distinct
  · simpa [hHits, Act.answer?] using hOnce.hits
  · simpa [hMisses, Act.answer?] using hOnce.misses
  · simpa [Act.answer?, Act.reading?] using hOnce.readings

theorem drain (hOnce : h.WriteOnce) : (h.serve .drain).WriteOnce := by
  rw [serve_drain]
  constructor
  · exact hOnce.follows_append hOnce.drained_perm
  · intro k
    rw [first?_append, Act.isDrain, if_pos rfl]
    rfl
  · exact List.nodup_nil
  · simpa [Act.answer?] using hOnce.hits
  · simpa [Act.answer?] using hOnce.misses
  · simpa [Act.answer?, Act.reading?] using hOnce.readings

end WriteOnce

theorem writeOnce_after (name : String) (requests : List Request) :
    (after name requests).WriteOnce := by
  induction requests using List.reverseRecOn with
  | nil =>
    exact ⟨nofun, fun _ => rfl, List.nodup_nil, rfl, rfl, .nil⟩
  | append_singleton requests request ih =>
    rw [after, List.foldl_append]
    cases request with
    | look key => exact ih.look key
    | count i => exact ih.count i
    | store key p => exact ih.store key p
    | drain => exact ih.drain

/-- A map that is written once, and what each request does to it. -/
structure Lawful (h : History) : Prop extends WriteOnce h where
  size : h.cache.size = (offeredKeys h.acts).length
  stores : ∀ key p, h.cache.entries <+: (h.serve (.store key p)).cache.entries
  apart : ∀ (key k : CacheKey) (p : Pipeline),
    k.index ≠ key.index ∨ k.fingerprint ≠ key.fingerprint →
      (h.serve (.store key p)).cache.find? k = h.cache.find? k
  looks : ∀ key, (h.serve (.look key)).cache = h.cache
  counts : ∀ i, (h.serve (.count i)).cache.entries = h.cache.entries
  drains : (h.serve .drain).cache = { h.cache with entries := [] }
  /-- A look that is counted at once is one lookup. -/
  lookups : ∀ key, (h.serve (.look key)).serve (.count h.uncounted.length) =
    { h with
      cache := (h.cache.lookup key).1
      acts := h.acts ++ [.looked key (h.cache.lookup key).2,
        .counted key (h.cache.lookup key).2] }

end History

end Cache

end PipelineForge
