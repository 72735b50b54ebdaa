import PipelineForge.Axis.Odometer
import PipelineForge.Compiler.Basic
import PipelineForge.Factory.Inbox
import PipelineForge.Log.Level
import PipelineForge.Tasks.Bookings

/-!
# Factories

A factory is a task that makes the pipelines of all combinations of its characteristics. It gets
its cache, sets up the characteristics as they arrive until the registration is closed, and then
makes one pipeline for each visit to its generating state. It reports the states that it went
through, without immediate repetitions, and what it made.
-/

namespace PipelineForge

abbrev FactoryId := Nat
abbrev SlotId := Nat

namespace Factory

inductive State where
  | start
  | setUp
  | settled
  | generate
  | done
deriving DecidableEq

def State.text : State → String
  | start => "start"
  | setUp => "initialize"
  | settled => "initialized"
  | generate => "generate"
  | done => "done"

/-- The name under which a fault in a state is logged. -/
def State.label : State → String
  | start => "Start"
  | setUp => "Initialize"
  | settled => "Initialized"
  | generate => "Generate"
  | done => "Done"

/-- The counts are plain numbers. A factory keeps the index of every combination that it has begun
with, and no memory holds as many of them as a count of 64 bits goes up to. -/
structure Report where
  states : List State := []
  pipelines : Nat := 0
  hits : Nat := 0
  misses : Nat := 0
deriving DecidableEq

def Report.visit (r : Report) (s : State) : Report :=
  if r.states.getLast? = some s then r else { r with states := r.states ++ [s] }

/-- What a factory sends to its hub. -/
inductive Event where
  | made (factory : FactoryId) (slot : SlotId) (p : Pipeline)
  /-- Sent last; an absent failure is success. -/
  | ended (factory : FactoryId) (report : Report) (failure : Option ForgeError)
      (cache : Option CacheId)
deriving DecidableEq

/-- How far the work on a state, or on the end of the task, has come. -/
inductive Point where
  | entering
  | acquiring
  | ordering (o : CompileOrder)
  | compiling (ticket : Nat) (o : CompileOrder)
  | storing (key : CacheKey) (p : Pipeline)
  /-- Has to destroy its own pipeline in favour of one that was stored meanwhile. -/
  | discarding (own kept : Pipeline)
  | handingOff (p : Pipeline)
  | resting
  | reporting (failure : Option ForgeError)
  | signingOff
deriving DecidableEq

structure Plan where
  packing : Axis.Packing
  odometer : Axis.Odometer
deriving DecidableEq

end Factory

structure Factory where
  id : FactoryId
  name : String
  slot : SlotId
  cacheName : String
  frame : FrameSettings
  log : Log.Threshold
  ticket : Option Tasks.Ticket
  /-- The characteristics that were set up, in the order of registration. -/
  axes : List Characteristic := []
  cache : Option CacheId := none
  /-- What every combination starts from. -/
  base : Blueprint := {}
  plan : Option Factory.Plan := none
  generated : List Axis.CompositeIndex := []
  report : Factory.Report := {}
  error : Option ForgeError := none
  state : Factory.State := .start
  point : Factory.Point := .resting

namespace Factory

/-- What the factories of one hub have in common with the hub. -/
structure Office where
  /-- By factory. -/
  inboxes : List Inbox := []
  bookings : Tasks.Bookings := {}
  /-- Sent and not yet taken, the oldest first. -/
  events : List Event := []
  /-- Whether there is still a hub to take events. -/
  isOpen : Bool := true

/-- The world that the factories of one hub act on. -/
structure Floor (κ : Type) where
  registry : Registry
  compiler : κ
  office : Office

namespace Office

def inbox (o : Office) (f : FactoryId) : Inbox := o.inboxes.getD f {}

def setInbox (o : Office) (f : FactoryId) (i : Inbox) : Office :=
  { o with inboxes := o.inboxes.set f i }

def send (o : Office) (e : Event) : Office :=
  if o.isOpen then { o with events := o.events ++ [e] } else o

def release (o : Office) (t : Option Tasks.Ticket) : Office :=
  match t with
  | some t => { o with bookings := o.bookings.release t }
  | none => o

end Office

end Factory

end PipelineForge
