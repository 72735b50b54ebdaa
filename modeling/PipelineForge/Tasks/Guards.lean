import PipelineForge.Tasks.Bookings

/-!
# Guards

A guard has the ticket of one booking and hands it in when it is let go. A desk keeps any number of
books, which are empty at first, and the guards that were given out for them. A wait looks at one
book again and again, and other visits may come between its looks.
-/

namespace PipelineForge.Tasks

structure Guard where
  book : Nat
  /-- There until the guard is let go. -/
  ticket : Option Ticket
deriving DecidableEq

structure Desk where
  books : Nat → Bookings := fun _ => {}
  /-- In the order in which they were given out. -/
  guards : List Guard := []

/-- What is asked of a desk. Books and guards go by their numbers. -/
inductive Visit where
  | add (book : Nat) (name : String)
  | drop (guard : Nat)
  | release (guard : Nat)
deriving DecidableEq

/-- A look of a wait at its book, with what is asked of the desk before it. -/
structure Look where
  meanwhile : List Visit := []
  /-- The time is over by then. -/
  late : Bool := false

namespace Desk

def putBook (d : Desk) (i : Nat) (b : Bookings) : Desk :=
  { d with books := fun j => if j = i then b else d.books j }

def add (d : Desk) (i : Nat) (name : String) : Desk × Nat :=
  let (b, t) := (d.books i).add name
  ({ d.putBook i b with guards := d.guards ++ [⟨i, some t⟩] }, d.guards.length)

/-- Takes the ticket from a guard and books it out; a guard without a ticket is left alone. -/
def letGo (d : Desk) (g : Nat) : Desk :=
  match d.guards[g]? with
  | some ⟨i, some t⟩ =>
    { d.putBook i ((d.books i).release t) with guards := d.guards.set g ⟨i, none⟩ }
  | _ => d

/-- A guard that is released is dropped right afterwards, and so is let go twice. -/
def release (d : Desk) (g : Nat) : Desk := (d.letGo g).letGo g

def serve (d : Desk) : Visit → Desk
  | .add i name => (d.add i name).1
  | .drop g => d.letGo g
  | .release g => d.release g

def serveAll (d : Desk) (visits : List Visit) : Desk := visits.foldl serve d

def after (visits : List Visit) : Desk := serveAll {} visits

/-- A wait for a book to be empty, with the desk as it is when the wait ends; there is no answer if
the looks are over before that. -/
def wait (d : Desk) (i : Nat) : List Look → Desk × Option Bool
  | [] => (d, none)
  | look :: looks =>
    let d := d.serveAll look.meanwhile
    match (d.books i).answer? look.late with
    | some idle => (d, some idle)
    | none => d.wait i looks

end Desk

end PipelineForge.Tasks
