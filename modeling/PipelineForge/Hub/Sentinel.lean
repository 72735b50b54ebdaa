import PipelineForge.Hub.Plant

/-!
# Sentinels

A sentinel is a factory that is asked to abort as soon as it is started: it makes nothing, is not
booked, and leaves only its end behind. One is posted on a hub whose worker is held, and it is
relieved in the next step after its end, or when the worker is idle.
-/

namespace PipelineForge

namespace Hub

def post (h : Hub) : Hub × FactoryId :=
  let (h', f) := h.enroll "sentinel" "" 0 none
  match h'.entry? f with
  | some e =>
    match e.pending with
    | some factory =>
      let launched := h'.launch f e factory
      (launched.abortTask ((launched.entry? f).bind Entry.task), f)
    | none => (h', f)
  | none => (h', f)

/-- Whether the task of a factory has ended, or there is none. -/
def hasEnded (h : Hub) (f : FactoryId) : Bool :=
  ((h.entry? f).bind Entry.task).all h.pool.isFinished

def relieve (h : Hub) (f : FactoryId) : Hub := { h with entries := h.entries.remove f }

end Hub

/-- The sentinels on duty, with the numbers of their hubs. -/
abbrev Sentinels := List (Nat × FactoryId)

namespace Plant

variable {κ : Type}

def heldTicket? (compiler : Compiler κ) (p : Plant κ) (i : Nat) : Option Nat :=
  (p.hub? i).bind (Hub.heldTicket? compiler p.compiler i)

/-- Relieves the sentinel of a hub if a condition holds. -/
def relieveIf (cond : Hub → FactoryId → Bool) (p : Plant κ) (s : Sentinels) (i : Nat) :
    Plant κ × Sentinels :=
  match p.hub? i, s.lookup i with
  | some h, some f =>
    if cond h f then (p.setHub i (h.relieve f), s.filter (·.1 ≠ i)) else (p, s)
  | _, _ => (p, s)

/-- Lets the worker of one hub run as `settle` does, under the eyes of a sentinel. -/
def settleWatched (compiler : Compiler κ) (fuel : Nat) (p : Plant κ) (s : Sentinels) (i : Nat) :
    Plant κ × Sentinels :=
  let (p, s) := p.relieveIf Hub.hasEnded s i
  let p := p.settle compiler fuel i
  if (p.heldTicket? compiler i).isNone then p.relieveIf (fun _ _ => true) s i
  else
    match p.hub? i, s.lookup i with
    | some h, none =>
      if h.office.isOpen then
        let (h', f) := h.post
        (p.setHub i h', (i, f) :: s)
      else (p, s)
    | _, _ => (p, s)

end Plant

end PipelineForge
