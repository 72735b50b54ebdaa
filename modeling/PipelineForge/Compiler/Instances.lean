import PipelineForge.Compiler.Basic
import PipelineForge.Device.Basic

/-!
# A scripted compiler and a device as a compiler

The scripted compiler numbers its orders from one. The first rule that matches an order lays down
whether it is held and how it is answered; an order that no rule matches is answered with a
pipeline. A device answers at once and never holds an order.
-/

namespace PipelineForge

inductive CompileAct where
  | make
  | refuse (causes : List String)
  | fault (text : String)
  /-- Stores another pipeline under the key of the order first, as another producer would. -/
  | preempt (cache : String) (handle : UInt64)
deriving DecidableEq

structure CompileRule where
  call : Option Nat
  /-- Counts only in a rule without a call. -/
  index : Option Axis.CompositeIndex
  gate : Bool
  act : CompileAct
deriving DecidableEq

def CompileRule.appliesTo (r : CompileRule) (call : Nat) (o : CompileOrder) : Bool :=
  match r.call with
  | some n => n == call
  | none => r.index == some o.index

structure ScriptedCompiler where
  rules : List CompileRule := []
  /-- All orders so far, the oldest first. -/
  orders : List CompileOrder := []
  /-- The numbers of the orders that are held. -/
  held : List Nat := []
  destroyed : List UInt64 := []
deriving DecidableEq

namespace ScriptedCompiler

def rule? (s : ScriptedCompiler) (call : Nat) (o : CompileOrder) : Option CompileRule :=
  s.rules.find? (·.appliesTo call o)

def accept (s : ScriptedCompiler) (o : CompileOrder) : ScriptedCompiler × Nat :=
  let call := s.orders.length + 1
  let held := if (s.rule? call o).any CompileRule.gate then call :: s.held else s.held
  ({ s with orders := s.orders ++ [o], held }, call)

def handleOf (call : Nat) : UInt64 := UInt64.ofNat (100 + call)

def pipelineOf (o : CompileOrder) (handle : UInt64) : Pipeline :=
  ⟨handle, o.blueprint.layout, o.index⟩

def preempt (r : Registry) (cache : String) (key : CacheKey) (p : Pipeline) : Registry :=
  match r.acquire cache with
  | .ok (r', id) => (r'.store id key p).1
  | .error _ => r

def answer (s : ScriptedCompiler) (r : Registry) (call : Nat) (o : CompileOrder) :
    Registry × Verdict :=
  let made := Verdict.made (pipelineOf o (handleOf call))
  match (s.rule? call o).map CompileRule.act with
  | some (.refuse causes) => (r, .refused causes)
  | some (.fault text) => (r, .fault text)
  | some (.preempt cache handle) => (preempt r cache o.key (pipelineOf o handle), made)
  | _ => (r, made)

def release (s : ScriptedCompiler) (call : Nat) : ScriptedCompiler :=
  { s with held := s.held.filter (· ≠ call) }

def compiler : Compiler ScriptedCompiler where
  accept := fun s _ o => s.accept o
  holds := fun s _ call => s.held.contains call
  answer := fun s r _ call o => (s, s.answer r call o)
  destroy := fun s _ p => { s with destroyed := s.destroyed ++ [p.handle] }

end ScriptedCompiler

/-- A device's only number for orders is zero, since it answers each before the next one. -/
def Device.compiler : Compiler Device where
  accept := fun d _ _ => (d, 0)
  holds := fun _ _ _ => false
  answer := fun d r _ _ o =>
    match d.compile o.blueprint o.index with
    | (d', .ok p) => (d', r, .made p)
    | (d', .error causes) => (d', r, .refused causes)
  destroy := fun d _ p => d.destroy p.handle

end PipelineForge
