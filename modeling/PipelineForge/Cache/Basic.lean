import PipelineForge.Pipeline

/-!
# Pipeline caches

A cache keeps the first pipeline that is stored under a key and never changes or drops an entry
until it is drained. It counts its lookups over its whole life, by hit and miss.
-/

namespace PipelineForge

structure CacheKey where
  index : Axis.CompositeIndex
  fingerprint : UInt64
deriving DecidableEq

inductive Stored where
  | inserted
  | existing (p : Pipeline)
deriving DecidableEq

structure Cache where
  name : String
  /-- In the order of storing. -/
  entries : List (CacheKey × Pipeline) := []
  hits : Nat := 0
  misses : Nat := 0
deriving DecidableEq

namespace Cache

def named (name : String) : Cache := { name }

def find? (c : Cache) (key : CacheKey) : Option Pipeline := c.entries.lookup key

def size (c : Cache) : Nat := c.entries.length

def lookup (c : Cache) (key : CacheKey) : Cache × Option Pipeline :=
  match c.find? key with
  | some p => ({ c with hits := c.hits + 1 }, some p)
  | none => ({ c with misses := c.misses + 1 }, none)

def store (c : Cache) (key : CacheKey) (p : Pipeline) : Cache × Stored :=
  match c.find? key with
  | some old => (c, .existing old)
  | none => ({ c with entries := c.entries ++ [(key, p)] }, .inserted)

def drain (c : Cache) : Cache × List Pipeline :=
  ({ c with entries := [] }, c.entries.map Prod.snd)

theorem find?_lookup (c : Cache) (key k : CacheKey) : (c.lookup key).1.find? k = c.find? k := by
  rw [lookup]
  split <;> rfl

theorem find?_store (c : Cache) (key k : CacheKey) (p : Pipeline) :
    (c.store key p).1.find? k = if k = key then some ((c.find? key).getD p) else c.find? k := by
  rw [store]
  split
  · next old hold =>
    split
    · next heq => rw [heq, hold, Option.getD_some]
    · rfl
  · next hnone =>
    have happend : (c.entries ++ [(key, p)]).lookup k = (c.find? k).or ([(key, p)].lookup k) :=
      List.lookup_append
    rw [find?, happend]
    split
    · next heq => rw [heq, hnone, List.lookup_cons_self]; rfl
    · next hne =>
      rw [List.lookup_cons, beq_eq_false_iff_ne.mpr hne]
      exact Option.or_none

end Cache

end PipelineForge
