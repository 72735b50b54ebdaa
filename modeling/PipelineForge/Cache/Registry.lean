import PipelineForge.Cache.Basic
import PipelineForge.Error

/-!
# Cache registries

A registry gives out caches by name and creates them when first asked, up to a limit on the
number of names. A cache is known by a number of its own: whoever holds the number can go on
using the cache after the registry has forgotten its name, and a name that is asked for again
then stands for a new cache.
-/

namespace PipelineForge

abbrev CacheId := Nat

structure Registry where
  limit : Option Nat := none
  /-- The caches that have a name now. -/
  names : List (String × CacheId) := []
  /-- All caches ever created, by number. -/
  caches : List Cache := []
deriving DecidableEq

namespace Registry

def cache? (r : Registry) (id : CacheId) : Option Cache := r.caches[id]?

def get? (r : Registry) (name : String) : Option CacheId := r.names.lookup name

def sortedNames (r : Registry) : List String := (r.names.map Prod.fst).mergeSort (· ≤ ·)

def create (r : Registry) (name : String) : Registry × CacheId :=
  let id := r.caches.length
  ({ r with names := r.names ++ [(name, id)], caches := r.caches ++ [.named name] }, id)

def acquire (r : Registry) (name : String) : Except ForgeError (Registry × CacheId) :=
  match r.get? name with
  | some id => .ok (r, id)
  | none =>
    match r.limit with
    | some n =>
      if n ≤ r.names.length then
        .error (.cacheUnavailable name s!"registry is limited to {n} caches")
      else .ok (r.create name)
    | none => .ok (r.create name)

/-- Runs an operation on one cache; a number that no cache has gives the default answer. -/
def onCache {α : Type} (r : Registry) (id : CacheId) (other : α) (f : Cache → Cache × α) :
    Registry × α :=
  match r.cache? id with
  | some c =>
    let (c', a) := f c
    ({ r with caches := r.caches.set id c' }, a)
  | none => (r, other)

def lookup (r : Registry) (id : CacheId) (key : CacheKey) : Registry × Option Pipeline :=
  r.onCache id none (·.lookup key)

def store (r : Registry) (id : CacheId) (key : CacheKey) (p : Pipeline) : Registry × Stored :=
  r.onCache id .inserted (·.store key p)

def drain (r : Registry) (id : CacheId) : Registry × List Pipeline := r.onCache id [] Cache.drain

/-- Drains the given caches one after the other and tells what was in each. -/
def drainAll (r : Registry) : List (String × CacheId) → Registry × List (String × List Pipeline)
  | [] => (r, [])
  | (name, id) :: rest =>
    let (r', ps) := r.drain id
    let (r'', more) := r'.drainAll rest
    (r'', (name, ps) :: more)

/-- Drains all caches that have a name and forgets the names. The pipelines are handed out for
destruction, cache by cache. -/
def destroy (r : Registry) : Registry × List (String × List Pipeline) :=
  { r with names := [] }.drainAll r.names

end Registry

end PipelineForge
