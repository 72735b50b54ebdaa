import PipelineForge.Factory.Work
import PipelineForge.Hub.Slot

/-!
# Hubs

A hub owns factories and slots. It runs its factories as tasks, takes their events and delivers
the pipelines to the slots. What a factory does in the meantime is seen by the hub only when it
takes events. A factory that was created counts as running until it is removed unstarted, shut
down unstarted, or has ended; its booking tells.
-/

namespace PipelineForge

open Factory (Event Floor Inbox Office Report State)
open Log (Line)

inductive Status where
  | created
  | running
  | finished (r : Report)
  | failed (e : ForgeError) (r : Report)
deriving DecidableEq

structure Entry where
  name : String
  /-- The factory itself, until it is started. -/
  pending : Option Factory
  task : Option Tasks.TaskId := none
  status : Status := .created
  /-- The cache that the factory gave back at its end. -/
  cache : Option CacheId := none

structure Hub where
  settings : HubSettings := {}
  office : Office := {}
  pool : Tasks.Pool Factory State := {}
  /-- The factories that were not removed; the keys are the identities of the factories. -/
  entries : Shelf Entry := {}
  slots : List (SlotId × Slot) := []
  nextSlot : SlotId := 0
  shutDown : Bool := false
  /-- What the hub itself wrote to the log. -/
  journal : Array Line := #[]

/-- What an update brought. -/
structure Update where
  delivered : Nat := 0
  finished : List FactoryId := []
deriving DecidableEq

namespace Hub

def entry? (h : Hub) (f : FactoryId) : Option Entry := h.entries.get? f

def slot? (h : Hub) (s : SlotId) : Option Slot := h.slots.lookup s

def setEntry (h : Hub) (f : FactoryId) (e : Entry) : Hub :=
  { h with entries := h.entries.set f e }

def setSlot (h : Hub) (s : SlotId) (slot : Slot) : Hub :=
  { h with slots := h.slots.map fun x => if x.1 = s then (s, slot) else x }

def write (h : Hub) (l : Line) : Hub := { h with journal := h.journal.push l }

def runningCount (h : Hub) : Nat := h.office.bookings.size

def createSlot (h : Hub) : Hub × SlotId :=
  ({ h with slots := h.slots ++ [(h.nextSlot, {})], nextSlot := h.nextSlot + 1 }, h.nextSlot)

def removeSlot (h : Hub) (s : SlotId) : Hub × Option Slot :=
  ({ h with slots := h.slots.filter (·.1 ≠ s) }, h.slot? s)

/-- Enters a new factory, without running it. -/
def enroll (h : Hub) (name cacheName : String) (slot : SlotId) (ticket : Option Tasks.Ticket) :
    Hub × FactoryId :=
  let factory : Factory :=
    { id := h.entries.nextKey, name, slot, cacheName, frame := h.settings.frame,
      log := h.settings.log, ticket }
  let office := { h.office with inboxes := h.office.inboxes ++ [{}] }
  let (entries, id) := h.entries.add { name, pending := some factory }
  ({ h with office, entries }, id)

def createFactory (h : Hub) (name cacheName : String) (slot : SlotId) :
    Except ForgeError (Hub × FactoryId) :=
  if (h.slot? slot).isNone then .error .unknownSlot
  else
    let (bookings, ticket) := h.office.bookings.add name
    let h := { h with office := { h.office with bookings } }
    .ok (h.enroll name cacheName slot (some ticket))

/-- Puts a characteristic into a factory's inbox. The flag tells that the factory has to be woken
afterwards. -/
def register (h : Hub) (f : FactoryId) (c : Characteristic) : Hub × Option ForgeError × Bool :=
  match h.entry? f with
  | none => (h, some .unknownFactory, false)
  | some _ =>
    let (inbox, admission) := (h.office.inbox f).register c
    ({ h with office := h.office.setInbox f inbox }, admission.refusal c.name, admission.wakes)

def wake (h : Hub) (f : FactoryId) : Hub :=
  match (h.entry? f).bind Entry.task with
  | some t => { h with pool := h.pool.signal t Factory.wakeup false }
  | none => h

def add (h : Hub) (f : FactoryId) (c : Characteristic) : Hub × Option ForgeError :=
  match h.register f c with
  | (h', refusal, true) => (h'.wake f, refusal)
  | (h', refusal, false) => (h', refusal)

def closeInbox (h : Hub) (f : FactoryId) : Hub :=
  { h with office := h.office.setInbox f (h.office.inbox f).close }

def generate (h : Hub) (f : FactoryId) : Except ForgeError Hub :=
  match h.entry? f with
  | none => .error .unknownFactory
  | some _ => .ok ((h.closeInbox f).wake f)

def launch (h : Hub) (f : FactoryId) (e : Entry) (factory : Factory) : Hub :=
  let (pool, t) := h.pool.run factory .start
  { h with pool }.setEntry f { e with pending := none, task := some t, status := .running }

def start (h : Hub) (f : FactoryId) : Except ForgeError Hub :=
  match h.entry? f with
  | none => .error .unknownFactory
  | some e =>
    match e.pending with
    | none => .error (.alreadyStarted e.name)
    | some factory =>
      .ok ((h.launch f e factory).write ⟨.info, s!"pipeline hub: start factory `{e.name}`"⟩)

def deliver (h : Hub) (u : Update) (s : SlotId) (p : Pipeline) : Hub × Update :=
  match h.slot? s with
  | none => (h.write ⟨.warn, s!"pipeline {p.index.text} arrived for a removed slot"⟩, u)
  | some slot =>
    let h' := h.setSlot s (slot.accept p)
    (if slot.displacedBy p then
      h'.write ⟨.warn, s!"pipeline slot: pipeline {p.index.text} replaced"⟩
    else h', { u with delivered := u.delivered + 1 })

/-- Enters the end of a factory, unless it was removed. -/
def conclude (h : Hub) (u : Update) (f : FactoryId) (report : Report) (failure : Option ForgeError)
    (cache : Option CacheId) : Hub × Update :=
  match h.entry? f with
  | none => (h, u)
  | some e =>
    let status :=
      match failure with
      | none => Status.finished report
      | some error => .failed error report
    (h.setEntry f { e with status, cache }, { u with finished := u.finished ++ [f] })

def applyEvent (h : Hub) (u : Update) : Event → Hub × Update
  | .made _ s p => h.deliver u s p
  | .ended f report failure cache => h.conclude u f report failure cache

def take? (h : Hub) (u : Update) : Option (Hub × Update) :=
  match h.office.events with
  | [] => none
  | e :: events => some ({ h with office := { h.office with events } }.applyEvent u e)

def takeUpTo : Nat → Hub → Update → Hub × Update
  | 0, h, u => (h, u)
  | n + 1, h, u =>
    match h.take? u with
    | some (h', u') => takeUpTo n h' u'
    | none => (h, u)

def update (h : Hub) : Hub × Update := takeUpTo h.office.events.length h {}

def detach (h : Hub) (f : FactoryId) : Hub × Option CacheId :=
  match h.entry? f with
  | none => (h, none)
  | some e => (h.setEntry f { e with cache := none }, e.cache)

def abortTask (h : Hub) (t : Option Tasks.TaskId) : Hub :=
  match t with
  | some t => { h with pool := h.pool.abort t false }
  | none => h

def discard (h : Hub) (pending : Option Factory) : Hub :=
  { h with office := h.office.release (pending.bind Factory.ticket) }

/-- Removes a factory and aborts it if it runs. Its cache is handed out if it gave it back. -/
def remove (h : Hub) (f : FactoryId) : Hub × Option CacheId :=
  match h.entry? f with
  | none => (h, none)
  | some e =>
    let h := { h with entries := h.entries.remove f }
    let h :=
      if e.status = .running then
        (h.write ⟨.info, s!"pipeline hub: abort running factory `{e.name}`"⟩).abortTask e.task
      else h
    (h.discard e.pending, e.cache)

/-- Gives up one factory: an unstarted one fails at once, a started one is asked to abort. -/
def dismiss (h : Hub) (f : FactoryId) : Hub :=
  match h.entry? f with
  | none => h
  | some e =>
    let h :=
      if e.pending.isSome then
        (h.setEntry f { e with pending := none, status := .failed .aborted {} }).discard e.pending
      else h
    h.abortTask e.task

/-- Gives up all factories, in the order of their places. -/
def beginShutdown (h : Hub) : Hub := h.entries.keys.foldl dismiss h

/-- The end of a shutdown, after the wait: takes the remaining events and tells whether no factory
was booked any more. -/
def endShutdown (h : Hub) : Hub × Bool :=
  let idle := h.office.bookings.isIdle
  let (h', _) := h.update
  ({ h' with shutDown := true }, idle)

/-- Gives up everything but the tasks that are still queued or at work; nobody takes events any
more. -/
def close (h : Hub) : Hub :=
  { h with office := { h.office with events := [], isOpen := false }, entries := {}, slots := [] }

/-- The order that the hub's worker is held in. -/
def heldTicket? {κ : Type} (compiler : Compiler κ) (k : κ) (number : Nat) (h : Hub) : Option Nat :=
  h.pool.jobs.findSome? fun job =>
    match job.phase, (h.pool.cell? job.task).map (·.body.point) with
    | .handling, some (.compiling ticket _) =>
      if compiler.holds k number ticket then some ticket else none
    | _, _ => none

end Hub

end PipelineForge
