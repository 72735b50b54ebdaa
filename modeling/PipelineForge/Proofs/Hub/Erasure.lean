import PipelineForge.Proofs.Factory.Likeness
import PipelineForge.Proofs.Hub.Moves

/-!
# Hubs without the numbers of their caches

A hub keeps the numbers of caches and hands them on, but never looks at one. So whatever the owner
of a hub does gives the same with the numbers erased before or after. That a factory has a cache is
not erased.
-/

namespace PipelineForge

open Tasks (TaskId)

def Entry.erase (e : Entry) : Entry :=
  { e with pending := e.pending.map Factory.erase, cache := Factory.masked e.cache }

namespace Hub

def erase (h : Hub) : Hub :=
  { h with
    office := h.office.erase
    pool := h.pool.view Factory.erase
    entries := h.entries.map Entry.erase }

variable (h : Hub)

theorem entry?_erase (f : FactoryId) : h.erase.entry? f = (h.entry? f).map Entry.erase :=
  Shelf.get?_map Entry.erase h.entries f

theorem slot?_erase (s : SlotId) : h.erase.slot? s = h.slot? s := rfl

theorem erase_setEntry (f : FactoryId) (e : Entry) :
    (h.setEntry f e).erase = h.erase.setEntry f e.erase := by
  rw [erase, setEntry, setEntry, Shelf.map_set]
  rfl

theorem erase_abortTask (t : Option TaskId) : (h.abortTask t).erase = h.erase.abortTask t := by
  cases t with
  | none => rfl
  | some t =>
    have hPool := Tasks.Pool.view_onControl Factory.erase h.pool t false Tasks.Control.abort
    simp only [abortTask, erase, Tasks.Pool.abort, hPool]

theorem erase_discard (pending : Option Factory) :
    (h.discard pending).erase = h.erase.discard (pending.map Factory.erase) := by
  have hTicket : (pending.map Factory.erase).bind Factory.ticket = pending.bind Factory.ticket := by
    cases pending <;> rfl
  rw [discard, discard, hTicket]
  simp only [erase, Factory.Office.erase_release]

theorem erase_createFactory (name cacheName : String) (slot : SlotId) :
    (h.perform (.createFactory name cacheName slot)).erase =
      h.erase.perform (.createFactory name cacheName slot) := by
  rw [perform_createFactory, perform_createFactory, slot?_erase]
  split
  · rfl
  · simp only [erase, withNewcomer, Shelf.map_add]
    rfl

theorem erase_register (f : FactoryId) (c : Characteristic) :
    (h.perform (.register f c)).erase = h.erase.perform (.register f c) := by
  simp only [perform, register, entry?_erase]
  cases h.entry? f <;> rfl

theorem erase_closeInbox (f : FactoryId) :
    (h.perform (.closeInbox f)).erase = h.erase.perform (.closeInbox f) := by
  simp only [perform, entry?_erase, Option.isSome_map]
  split <;> rfl

theorem erase_wake (f : FactoryId) : (h.perform (.wake f)).erase = h.erase.perform (.wake f) := by
  have hTask : (h.erase.entry? f).bind Entry.task = (h.entry? f).bind Entry.task := by
    rw [entry?_erase]
    cases h.entry? f <;> rfl
  simp only [perform, wake, hTask]
  split
  · next t _ =>
    have hPool := Tasks.Pool.view_onControl Factory.erase h.pool t false
      (·.signal Factory.wakeup)
    simp only [erase, Tasks.Pool.signal, hPool]
  · rfl

theorem erase_launch (f : FactoryId) (e : Entry) (factory : Factory) :
    (h.launch f e factory).erase = h.erase.launch f e.erase factory.erase := by
  obtain ⟨hPool, hTask⟩ := h.pool.view_run Factory.erase factory .start
  have hLaunch : h.launch f e factory =
      Hub.setEntry { h with pool := (h.pool.run factory .start).1 } f
        { e with
          pending := none
          task := some (h.pool.run factory .start).2
          status := .running } := rfl
  rw [hLaunch, erase_setEntry, hTask, launch]
  simp only [erase, hPool]
  rfl

theorem erase_start (f : FactoryId) :
    (h.perform (.start f)).erase = h.erase.perform (.start f) := by
  simp only [perform, start, entry?_erase]
  cases h.entry? f with
  | none => rfl
  | some e =>
    cases hPending : e.pending with
    | none => simp [Entry.erase, hPending]
    | some factory =>
      have hErased : e.erase.pending = some factory.erase := congrArg (Option.map _) hPending
      simp only [Option.map_some, hPending, hErased, ← erase_launch]
      rfl

theorem erase_applyEvent (u : Update) (e : Factory.Event) :
    (h.applyEvent u e).1.erase = (h.erase.applyEvent u e.erase).1 := by
  cases e with
  | made f s p =>
    simp only [applyEvent, Factory.Event.erase, deliver, slot?_erase]
    split
    · rfl
    · split <;> rfl
  | ended f report failure cache =>
    simp only [applyEvent, Factory.Event.erase, conclude, entry?_erase]
    cases h.entry? f with
    | none => rfl
    | some e => exact h.erase_setEntry f _

theorem erase_take : (h.perform .take).erase = h.erase.perform .take := by
  cases hEvents : h.office.events with
  | nil =>
    rw [perform_take_nil hEvents, perform_take_nil]
    exact congrArg (List.map _) hEvents
  | cons e events =>
    rw [perform_take_cons hEvents, perform_take_cons (congrArg (List.map _) hEvents),
      erase_applyEvent]
    rfl

theorem erase_detach (f : FactoryId) :
    (h.perform (.detach f)).erase = h.erase.perform (.detach f) := by
  simp only [perform, detach, entry?_erase]
  cases h.entry? f with
  | none => rfl
  | some e => exact h.erase_setEntry f _

theorem erase_remove (f : FactoryId) :
    (h.perform (.remove f)).erase = h.erase.perform (.remove f) := by
  simp only [perform, remove, entry?_erase]
  cases h.entry? f with
  | none => rfl
  | some e =>
    have hRemoved : ({ h with entries := h.entries.remove f } : Hub).erase =
        { h.erase with entries := h.erase.entries.remove f } := by
      simp only [erase, Shelf.map_remove]
    have hStatus : e.erase.status = e.status := rfl
    simp only [Option.map_some, erase_discard, hStatus, ← hRemoved]
    split
    · rw [erase_abortTask]
      rfl
    · rfl

theorem erase_dismiss (f : FactoryId) :
    (h.perform (.dismiss f)).erase = h.erase.perform (.dismiss f) := by
  simp only [perform, dismiss, entry?_erase]
  cases h.entry? f with
  | none => rfl
  | some e =>
    have hPending : e.erase.pending.isSome = e.pending.isSome := Option.isSome_map
    simp only [Option.map_some, erase_abortTask, hPending]
    split
    · rw [erase_discard, erase_setEntry]
      rfl
    · rfl

/-- No operation of an owner depends on the number of a cache. -/
theorem erase_perform (op : Op) : (h.perform op).erase = h.erase.perform op := by
  cases op with
  | createFactory name cacheName slot => exact h.erase_createFactory name cacheName slot
  | register f c => exact h.erase_register f c
  | closeInbox f => exact h.erase_closeInbox f
  | wake f => exact h.erase_wake f
  | start f => exact h.erase_start f
  | take => exact h.erase_take
  | detach f => exact h.erase_detach f
  | remove f => exact h.erase_remove f
  | dismiss f => exact h.erase_dismiss f
  | createSlot => rfl
  | removeSlot s => rfl
  | markShutDown => rfl
  | close => rfl

end Hub

end PipelineForge
