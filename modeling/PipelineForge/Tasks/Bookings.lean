import PipelineForge.Shelf

/-!
# Bookings

A book lists the tasks that are still running, by name. A ticket books its task out, once, and
cannot touch a later booking in the same place.
-/

namespace PipelineForge.Tasks

structure Ticket where
  key : Nat
deriving DecidableEq

structure Bookings where
  shelf : Shelf String := {}
deriving DecidableEq

namespace Bookings

def names (b : Bookings) : List String := b.shelf.entries.map Prod.snd

def size (b : Bookings) : Nat := b.shelf.size

def isIdle (b : Bookings) : Bool := b.shelf.isEmpty

def add (b : Bookings) (name : String) : Bookings × Ticket :=
  let (shelf, key) := b.shelf.add name
  (⟨shelf⟩, ⟨key⟩)

/-- Whether the ticket's booking is still there. -/
def Holds (b : Bookings) (t : Ticket) : Prop := t.key ∈ b.shelf.keys

def release (b : Bookings) (t : Ticket) : Bookings := ⟨b.shelf.remove t.key⟩

/-- What a wait answers when it looks at the book. It goes on as long as the book is not empty and
the time is not over. -/
def answer? (b : Bookings) (late : Bool) : Option Bool :=
  if b.isIdle || late then some b.isIdle else none

/-- Whether a wait of some milliseconds sees the book empty, if the only thing that happens
meanwhile is that one ticket is released at a given time. -/
def idleWithin (b : Bookings) (millis : Nat) (t : Ticket) (releasedAt : Nat) : Bool :=
  b.isIdle || releasedAt ≤ millis && (b.release t).isIdle

theorem release_of_not_holds {b : Bookings} {t : Ticket} (h : ¬ b.Holds t) : b.release t = b := by
  rw [release, Shelf.remove_of_notMem h]

end Bookings

end PipelineForge.Tasks
