import PipelineForge.Blueprint.Fingerprint
import PipelineForge.Cache.Registry

/-!
# Compilers

A compiler turns blueprints into pipelines. A compilation has two ends, so that other things can
happen between them: the compiler accepts an order and gives it a number, and answers later. It
may hold an order back in between. Answering may touch the caches, as any other producer of
pipelines may at that time.
-/

namespace PipelineForge

/-- An order for the pipeline of one blueprint, to carry an index. -/
structure CompileOrder where
  blueprint : Blueprint
  index : Axis.CompositeIndex
deriving DecidableEq

def CompileOrder.key (o : CompileOrder) : CacheKey := ⟨o.index, o.blueprint.fingerprint⟩

inductive Verdict where
  | made (p : Pipeline)
  /-- The causes of a failure, the outermost first. -/
  | refused (causes : List String)
  | fault (text : String)
deriving DecidableEq

/-- How a compiler with states of a type works. The first number of an order is that of the hub
which it comes from, the second one the number that the compiler gave it. -/
structure Compiler (κ : Type) where
  accept : κ → Nat → CompileOrder → κ × Nat
  holds : κ → Nat → Nat → Bool
  answer : κ → Registry → Nat → Nat → CompileOrder → κ × Registry × Verdict
  destroy : κ → Nat → Pipeline → κ

end PipelineForge
