import PipelineForge.Axis.Index

/-!
# Pipelines

A pipeline is a copy of three numbers. Who has to destroy what its handle stands for is settled
by the caches and factories that pass it on.
-/

namespace PipelineForge

structure Pipeline where
  handle : UInt64
  layout : UInt64
  index : Axis.CompositeIndex
deriving DecidableEq, Inhabited

/-- The order in which answers list pipelines: by handle, then layout, then index. -/
def Pipeline.precedes (p q : Pipeline) : Bool :=
  p.handle < q.handle ||
    p.handle == q.handle && (p.layout < q.layout ||
      p.layout == q.layout && p.index.raw ≤ q.index.raw)

end PipelineForge
