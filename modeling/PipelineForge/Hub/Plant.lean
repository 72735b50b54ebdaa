import PipelineForge.Hub.Basic

/-!
# Plants

A plant is a number of hubs that share one registry of caches and one compiler. A step of a
plant is a step of one job of one hub.
-/

namespace PipelineForge

open Factory (Floor)
open Log (Line)

structure Plant (κ : Type) where
  registry : Registry
  compiler : κ
  hubs : List Hub

namespace Plant

variable {κ : Type}

def hub? (p : Plant κ) (i : Nat) : Option Hub := p.hubs[i]?

def setHub (p : Plant κ) (i : Nat) (h : Hub) : Plant κ := { p with hubs := p.hubs.set i h }

def floorOf (p : Plant κ) (h : Hub) : Floor κ := ⟨p.registry, p.compiler, h.office⟩

def putBack (p : Plant κ) (i : Nat) (h : Hub) (pool : Tasks.Pool Factory Factory.State)
    (w : Floor κ) : Plant κ :=
  { registry := w.registry
    compiler := w.compiler
    hubs := p.hubs.set i { h with pool, office := w.office } }

def step (compiler : Compiler κ) (p : Plant κ) (i j : Nat) : Option (Plant κ) :=
  (p.hub? i).bind fun h =>
    (h.pool.step (Factory.behaviour compiler i) (p.floorOf h) j).map fun (pool, w) =>
      p.putBack i h pool w

/-- Lets the worker of one hub run until it has nothing to do or is held, for at most the given
number of steps. -/
def settle (compiler : Compiler κ) (fuel : Nat) (p : Plant κ) (i : Nat) : Plant κ :=
  match p.hub? i with
  | none => p
  | some h =>
    let (pool, w) := Tasks.Pool.settle (Factory.behaviour compiler i) fuel h.pool (p.floorOf h)
    p.putBack i h pool w

/-- Shuts one hub down. The wait lasts as long as the worker can run without being held. -/
def shutdown (compiler : Compiler κ) (fuel : Nat) (p : Plant κ) (i : Nat) : Plant κ × Bool :=
  match p.hub? i with
  | none => (p, true)
  | some h =>
    if h.shutDown then (p, true)
    else
      let p' := (p.setHub i h.beginShutdown).settle compiler fuel i
      match p'.hub? i with
      | none => (p', true)
      | some h' =>
        let (h'', idle) := h'.endShutdown
        (p'.setHub i h'', idle)

def dropHub (compiler : Compiler κ) (fuel : Nat) (p : Plant κ) (i : Nat) : Plant κ :=
  let (p', _) := p.shutdown compiler fuel i
  match p'.hub? i with
  | none => p'
  | some h => p'.setHub i h.close

def destroyLine (cache : String × List Pipeline) : Line :=
  ⟨.info, s!"destroy pipeline cache `{cache.1}` with {cache.2.length} pipelines"⟩

/-- Empties all registered caches and destroys their pipelines in the name of a hub. -/
def destroyCaches (compiler : Compiler κ) (p : Plant κ) (i : Nat) : Plant κ × List Line :=
  let (registry, drained) := p.registry.destroy
  let k := (drained.flatMap Prod.snd).foldl (fun k q => compiler.destroy k i q) p.compiler
  ({ p with registry, compiler := k }, drained.map destroyLine)

def clearJournals (p : Plant κ) : Plant κ :=
  { p with hubs := p.hubs.map fun h =>
      { h with journal := #[], pool := { h.pool with journal := #[] } } }

end Plant

end PipelineForge
