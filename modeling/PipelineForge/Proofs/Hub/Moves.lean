import PipelineForge.Hub.Plant
import PipelineForge.Proofs.Factory.Passages
import PipelineForge.Proofs.Shelf

/-!
# Moves of a hub's owner

The calls of a hub are cut into operations that each touch one thing that the tasks can touch too,
so that anything can happen between two of them. Most operations leave the factories alone; the
others enroll a factory, fill or close its inbox, start it, or give up the hub. An operation that
its call would refuse changes nothing here.
-/

namespace PipelineForge

open Factory (Inbox State)
open Tasks (Mode TaskId)

/-- A factory as it was enrolled under a key. -/
def Factory.Fresh (key : FactoryId) (f : Factory) : Prop :=
  f = { id := key, name := f.name, slot := f.slot, cacheName := f.cacheName, frame := f.frame,
        log := f.log, ticket := f.ticket }

namespace Hub

inductive Op where
  | createSlot
  | removeSlot (s : SlotId)
  | createFactory (name cacheName : String) (slot : SlotId)
  | register (f : FactoryId) (c : Characteristic)
  | closeInbox (f : FactoryId)
  | wake (f : FactoryId)
  | start (f : FactoryId)
  | take
  | detach (f : FactoryId)
  | remove (f : FactoryId)
  | dismiss (f : FactoryId)
  | markShutDown
  | close

def perform (h : Hub) : Op → Hub
  | .createSlot => h.createSlot.1
  | .removeSlot s => (h.removeSlot s).1
  | .createFactory name cacheName slot =>
    match h.createFactory name cacheName slot with
    | .ok (h', _) => h'
    | .error _ => h
  | .register f c => (h.register f c).1
  | .closeInbox f => if (h.entry? f).isSome then h.closeInbox f else h
  | .wake f => h.wake f
  | .start f =>
    match h.start f with
    | .ok h' => h'
    | .error _ => h
  | .take =>
    match h.take? {} with
    | some (h', _) => h'
    | none => h
  | .detach f => (h.detach f).1
  | .remove f => (h.remove f).1
  | .dismiss f => h.dismiss f
  | .markShutDown => { h with shutDown := true }
  | .close => h.close

def performs (h : Hub) (ops : List Op) : Hub := ops.foldl perform h

def Op.admits (h : Hub) (f : FactoryId) : Op → List Characteristic
  | .register g c => if g = f ∧ (h.register g c).2.1.isNone then [c] else []
  | _ => []

def pending? (h : Hub) (f : FactoryId) : Option Factory := (h.entry? f).bind Entry.pending

/-- Two states of a hub between which its tasks did not move. -/
structure Alike (h h' : Hub) : Prop where
  members : ∀ t, h'.pool.member? t = h.pool.member? t
  bodies : h'.pool.bodies = h.pool.bodies
  sound : h.pool.Sound → h'.pool.Sound

theorem Alike.of_pool {h h' : Hub} (hPool : h'.pool = h.pool) : Alike h h' :=
  ⟨fun t => by rw [hPool], by rw [hPool], fun hSound => hPool ▸ hSound⟩

theorem Alike.trans {h h' h'' : Hub} (hFirst : Alike h h') (hSecond : Alike h' h'') :
    Alike h h'' :=
  ⟨fun t => (hSecond.members t).trans (hFirst.members t), hSecond.bodies.trans hFirst.bodies,
    fun hSound => hSecond.sound (hFirst.sound hSound)⟩

/-- What an operation does to the factories of the hub and to their inboxes. -/
inductive Change (h : Hub) (op : Op) (h' : Hub) : Prop where
  | enrolled (f : Factory) (hFresh : f.Fresh h.entries.nextKey) (hAlike : Alike h h')
      (hInboxes : h'.office.inboxes = h.office.inboxes ++ [({} : Inbox)])
      (hOpen : h'.office.isOpen = h.office.isOpen)
      (hPending : ∀ g, h'.pending? g = if g = h.entries.nextKey then some f else h.pending? g)
      (hAdmits : ∀ g, op.admits h g = [])
  | registered (f : FactoryId) (c : Characteristic) (hKnown : f < h.entries.nextKey)
      (hAlike : Alike h h')
      (hInboxes : h'.office.inboxes =
        h.office.inboxes.set f ((h.office.inbox f).register c).1)
      (hOpen : h'.office.isOpen = h.office.isOpen)
      (hPending : ∀ g, h'.pending? g = h.pending? g)
      (hAdmits : ∀ g, op.admits h g =
        if f = g ∧ ((h.office.inbox f).register c).2 = .added then [c] else [])
  | closed (f : FactoryId) (hKnown : f < h.entries.nextKey) (hAlike : Alike h h')
      (hInboxes : h'.office.inboxes = h.office.inboxes.set f (h.office.inbox f).close)
      (hOpen : h'.office.isOpen = h.office.isOpen)
      (hPending : ∀ g, h'.pending? g = h.pending? g) (hAdmits : ∀ g, op.admits h g = [])
  | started (key : FactoryId) (f : Factory) (hFactory : h.pending? key = some f)
      (hMembers : ∀ t : Nat, h'.pool.member? t =
        if t = h.pool.bodies.length then some (f, .resting .start) else h.pool.member? t)
      (hBodies : h'.pool.bodies = h.pool.bodies ++ [f])
      (hInboxes : h'.office.inboxes = h.office.inboxes)
      (hOpen : h'.office.isOpen = h.office.isOpen)
      (hPending : ∀ g, h'.pending? g = if g = key then none else h.pending? g)
      (hAdmits : ∀ g, op.admits h g = []) (hSound : h'.pool.Sound)
  | shed (hAlike : Alike h h') (hInboxes : h'.office.inboxes = h.office.inboxes)
      (hOpen : h'.office.isOpen = true → h.office.isOpen = true)
      (hPending : ∀ g f, h'.pending? g = some f → h.pending? g = some f)
      (hAdmits : ∀ g, op.admits h g = [])

/-- What every hub is between operations: each factory has an identity of its own, and what was
enrolled and not started is as it was enrolled. -/
structure Orderly (h : Hub) : Prop where
  pool : h.pool.Sound
  shelf : h.entries.Valid
  keyed : h.office.isOpen = true → h.entries.nextKey = h.office.inboxes.length
  empty : h.office.isOpen = false → h.entries = {}
  known : ∀ t f m, h.pool.member? t = some (f, m) → f.id < h.office.inboxes.length
  distinct : ∀ t u f g m n, h.pool.member? t = some (f, m) → h.pool.member? u = some (g, n) →
    f.id = g.id → t = u
  fresh : ∀ key f, h.pending? key = some f → f.Fresh key
  apart : ∀ key f t g m, h.pending? key = some f → h.pool.member? t = some (g, m) → g.id ≠ key

theorem orderly_initial (settings : HubSettings) : ({ settings } : Hub).Orderly := by
  have hMember (t : TaskId) : ({ settings } : Hub).pool.member? t = none := rfl
  have hPending (key : FactoryId) : ({ settings } : Hub).pending? key = none := rfl
  constructor
  · exact Tasks.Pool.sound_empty
  · exact Shelf.valid_empty
  · intro _
    rfl
  · intro _
    rfl
  · intro t f m hSome
    rw [hMember] at hSome
    cases hSome
  · intro t u f g m n hSome
    rw [hMember] at hSome
    cases hSome
  · intro key f hSome
    rw [hPending] at hSome
    cases hSome
  · intro key f t g m hSome
    rw [hPending] at hSome
    cases hSome

variable {h : Hub}

theorem entry?_setEntry (h : Hub) (f : FactoryId) (e : Entry) (g : FactoryId) :
    Hub.entry? (h.setEntry f e) g = if g = f then (h.entry? f).map fun _ => e else h.entry? g :=
  h.entries.get?_set f e g

theorem pending?_setEntry {f : FactoryId} {e : Entry} (hEntry : h.entry? f = some e)
    (e' : Entry) (g : FactoryId) :
    (h.setEntry f e').pending? g = if g = f then e'.pending else h.pending? g := by
  rw [pending?, entry?_setEntry, hEntry]
  split
  · rfl
  · rfl

theorem pending?_eq_some {key : FactoryId} {f : Factory} (hPending : h.pending? key = some f) :
    ∃ e, h.entry? key = some e ∧ e.pending = some f := Option.bind_eq_some_iff.mp hPending

theorem member?_lt {t : TaskId} {f : Factory} {m : Mode State}
    (hMember : h.pool.member? t = some (f, m)) : t < h.pool.bodies.length := by
  have hBody := Tasks.Pool.bodies_getElem? h.pool t
  rw [hMember, Option.map_some] at hBody
  obtain ⟨hLt, _⟩ := List.getElem?_eq_some_iff.mp hBody
  exact hLt

theorem pending?_of_entry {key : FactoryId} {e : Entry} (hEntry : h.entry? key = some e) :
    h.pending? key = e.pending := by rw [pending?, hEntry, Option.bind_some]

theorem Orderly.entry?_lt (hOrderly : h.Orderly) {key : FactoryId} {e : Entry}
    (hEntry : h.entry? key = some e) : key < h.entries.nextKey := hOrderly.shelf.get?_lt hEntry

theorem alike_ask (hSound : h.pool.Sound) (request : Tasks.Call) :
    Alike h { h with pool := h.pool.ask request } := by
  constructor
  · intro t
    simp only [Tasks.Pool.ask_eq]
    exact Tasks.Pool.member?_onControl hSound false request t
  · simp only [Tasks.Pool.ask_eq]
    exact Tasks.Pool.bodies_onControl _ _ _ _
  · intro _
    simp only [Tasks.Pool.ask_eq]
    exact hSound.onControl false request

theorem Change.of_alike {op : Op} {h' : Hub} (hAlike : Alike h h')
    (hInboxes : h'.office.inboxes = h.office.inboxes) (hOpen : h'.office.isOpen = h.office.isOpen)
    (hPending : ∀ g f, h'.pending? g = some f → h.pending? g = some f)
    (hAdmits : ∀ g, op.admits h g = []) : Change h op h' :=
  .shed hAlike hInboxes (fun hNow => hOpen ▸ hNow) hPending hAdmits

theorem Change.refl (h : Hub) {op : Op} (hAdmits : ∀ g, op.admits h g = []) : Change h op h :=
  .of_alike (.of_pool rfl) rfl rfl (fun _ _ hSome => hSome) hAdmits

def newcomer (h : Hub) (name cacheName : String) (slot : SlotId) : Factory :=
  { id := h.entries.nextKey, name, slot, cacheName, frame := h.settings.frame,
    log := h.settings.log, ticket := some (h.office.bookings.add name).2 }

def withNewcomer (h : Hub) (name cacheName : String) (slot : SlotId) : Hub :=
  { h with
    office := { h.office with
      bookings := (h.office.bookings.add name).1
      inboxes := h.office.inboxes ++ [{}] }
    entries := (h.entries.add { name, pending := some (h.newcomer name cacheName slot) }).1 }

theorem perform_createFactory (h : Hub) (name cacheName : String) (slot : SlotId) :
    h.perform (.createFactory name cacheName slot) =
      if (h.slot? slot).isNone then h else h.withNewcomer name cacheName slot := by
  rw [perform, createFactory]
  by_cases hSlot : (h.slot? slot).isNone = true
  · rw [if_pos hSlot, if_pos hSlot]
  · rw [if_neg hSlot, if_neg hSlot]
    rfl

theorem change_createFactory (hOrderly : h.Orderly) (name cacheName : String) (slot : SlotId) :
    Change h (.createFactory name cacheName slot)
      (h.perform (.createFactory name cacheName slot)) := by
  rw [perform_createFactory]
  split
  · exact .refl h fun _ => rfl
  · refine .enrolled (h.newcomer name cacheName slot) rfl (.of_pool rfl) rfl rfl ?_ fun _ => rfl
    intro g
    change ((h.entries.add _).1.get? g).bind Entry.pending = _
    rw [hOrderly.shelf.get?_add]
    split
    · rfl
    · rfl

theorem change_register (hOrderly : h.Orderly) (f : FactoryId) (c : Characteristic) :
    Change h (.register f c) (h.perform (.register f c)) := by
  cases hEntry : h.entry? f with
  | none =>
    have hSame : h.perform (.register f c) = h := by simp [perform, register, hEntry]
    rw [hSame]
    refine .refl h fun g => ?_
    simp [Op.admits, register, hEntry]
  | some e =>
    have hRegister : h.register f c =
        ({ h with office := h.office.setInbox f ((h.office.inbox f).register c).1 },
          ((h.office.inbox f).register c).2.refusal c.name,
          ((h.office.inbox f).register c).2.wakes) := by simp only [register, hEntry]
    rw [perform, hRegister]
    refine .registered f c (hOrderly.entry?_lt hEntry) (.of_pool rfl) rfl rfl (fun _ => rfl) ?_
    intro g
    rw [Op.admits, hRegister]
    cases ((h.office.inbox f).register c).2 <;> simp [Inbox.Admission.refusal]

theorem change_closeInbox (hOrderly : h.Orderly) (f : FactoryId) :
    Change h (.closeInbox f) (h.perform (.closeInbox f)) := by
  rw [perform]
  split
  · next hKnown =>
    obtain ⟨e, hEntry⟩ := Option.isSome_iff_exists.mp hKnown
    exact .closed f (hOrderly.entry?_lt hEntry) (.of_pool rfl) rfl rfl (fun _ => rfl) fun _ => rfl
  · exact .refl h fun _ => rfl

theorem change_wake (hOrderly : h.Orderly) (f : FactoryId) :
    Change h (.wake f) (h.perform (.wake f)) := by
  rw [perform, wake]
  split
  · next t _ =>
    exact .of_alike (alike_ask hOrderly.pool (.signal t Factory.wakeup)) rfl rfl
      (fun _ _ hSome => hSome) fun _ => rfl
  · exact .refl h fun _ => rfl

theorem perform_start_cases (h : Hub) (f : FactoryId) : h.perform (.start f) = h ∨
    ∃ e factory line, h.entry? f = some e ∧ e.pending = some factory ∧
      h.perform (.start f) = (h.launch f e factory).write line := by
  rw [perform, start]
  split
  · next h' hOk =>
    split at hOk
    · cases hOk
    next e hEntry =>
    split at hOk
    · cases hOk
    next factory hFactory =>
    cases hOk
    exact .inr ⟨e, factory, _, hEntry, hFactory, rfl⟩
  · exact .inl rfl

theorem change_start (hOrderly : h.Orderly) (f : FactoryId) :
    Change h (.start f) (h.perform (.start f)) := by
  rcases h.perform_start_cases f with hSame | ⟨e, factory, line, hEntry, hFactory, hStart⟩
  · rw [hSame]
    exact .refl h fun _ => rfl
  · rw [hStart]
    refine .started f factory ?_ ?_ ?_ rfl rfl ?_ (fun _ => rfl) (hOrderly.pool.run factory .start)
    · rw [pending?_of_entry hEntry, hFactory]
    · intro t
      have hLength : h.pool.bodies.length = h.pool.cells.length := List.length_map _
      rw [hLength]
      exact Tasks.Pool.member?_run hOrderly.pool factory .start t
    · exact Tasks.Pool.bodies_run h.pool factory .start
    · intro g
      exact pending?_setEntry (h := { h with pool := (h.pool.run factory .start).1 }) hEntry _ g

theorem pending?_applyEvent (u : Update) (e : Factory.Event) (g : FactoryId) :
    (h.applyEvent u e).1.pending? g = h.pending? g := by
  cases e with
  | made f s p =>
    rw [applyEvent, deliver]
    split
    · rfl
    · split
      · rfl
      · rfl
  | ended f report failure cache =>
    simp only [applyEvent, conclude]
    split
    · rfl
    · next e hEntry =>
      rw [pending?_setEntry hEntry]
      split
      · next hg => rw [hg, pending?_of_entry hEntry]
      · rfl

theorem pool_applyEvent (u : Update) (e : Factory.Event) :
    (h.applyEvent u e).1.pool = h.pool ∧ (h.applyEvent u e).1.office = h.office := by
  cases e with
  | made f s p =>
    rw [applyEvent, deliver]
    split
    · exact ⟨rfl, rfl⟩
    · split
      · exact ⟨rfl, rfl⟩
      · exact ⟨rfl, rfl⟩
  | ended f report failure cache =>
    simp only [applyEvent, conclude]
    split
    · exact ⟨rfl, rfl⟩
    · exact ⟨rfl, rfl⟩

theorem perform_take_nil (hEvents : h.office.events = []) : h.perform .take = h := by
  rw [perform, take?, hEvents]

theorem perform_take_cons {e : Factory.Event} {events : List Factory.Event}
    (hEvents : h.office.events = e :: events) : h.perform .take =
      (applyEvent { h with office := { h.office with events } } {} e).1 := by
  rw [perform, take?, hEvents]

theorem change_take : Change h .take (h.perform .take) := by
  cases hEvents : h.office.events with
  | nil =>
    rw [perform_take_nil hEvents]
    exact .refl h fun _ => rfl
  | cons e events =>
    rw [perform_take_cons hEvents]
    obtain ⟨hPool, hOffice⟩ :=
      pool_applyEvent (h := { h with office := { h.office with events } }) {} e
    refine .of_alike (.of_pool hPool) ?_ ?_ ?_ fun _ => rfl
    · rw [hOffice]
    · rw [hOffice]
    · intro g f hSome
      rw [pending?_applyEvent] at hSome
      exact hSome

theorem change_detach (f : FactoryId) : Change h (.detach f) (h.perform (.detach f)) := by
  rw [perform, detach]
  split
  · exact .refl h fun _ => rfl
  · next e hEntry =>
    refine .of_alike (.of_pool rfl) rfl rfl ?_ fun _ => rfl
    intro g factory hSome
    rw [pending?_setEntry hEntry] at hSome
    split at hSome
    · next hg => rw [hg, pending?_of_entry hEntry, hSome]
    · exact hSome

theorem office_abortTask (h : Hub) (t : Option TaskId) : (h.abortTask t).office = h.office := by
  cases t <;> rfl

theorem entries_abortTask (h : Hub) (t : Option TaskId) : (h.abortTask t).entries = h.entries := by
  cases t <;> rfl

theorem alike_abortTask (hSound : h.pool.Sound) (t : Option TaskId) : Alike h (h.abortTask t) := by
  cases t with
  | none => exact .of_pool rfl
  | some t => exact alike_ask hSound (.abort t)

section Leaving

variable {f : FactoryId} {e : Entry}

theorem perform_remove_none (hEntry : h.entry? f = none) : h.perform (.remove f) = h := by
  simp [perform, remove, hEntry]

theorem office_remove (hEntry : h.entry? f = some e) :
    (h.perform (.remove f)).office = h.office.release (e.pending.bind Factory.ticket) := by
  simp only [perform, remove, hEntry]
  split
  · rw [discard, office_abortTask]
    rfl
  · rfl

theorem entries_remove (hEntry : h.entry? f = some e) :
    (h.perform (.remove f)).entries = h.entries.remove f := by
  simp only [perform, remove, hEntry]
  split
  · exact entries_abortTask _ _
  · rfl

theorem alike_remove (hSound : h.pool.Sound) (hEntry : h.entry? f = some e) :
    Alike h (h.perform (.remove f)) := by
  simp only [perform, remove, hEntry]
  split
  · have hAlike := alike_abortTask
      (h := { h with entries := h.entries.remove f }.write
        ⟨.info, s!"pipeline hub: abort running factory `{e.name}`"⟩) hSound e.task
    exact ⟨hAlike.members, hAlike.bodies, hAlike.sound⟩
  · exact .of_pool rfl

theorem perform_dismiss_none (hEntry : h.entry? f = none) : h.perform (.dismiss f) = h := by
  simp [perform, dismiss, hEntry]

theorem office_dismiss (hEntry : h.entry? f = some e) :
    (h.perform (.dismiss f)).office = h.office.release (e.pending.bind Factory.ticket) := by
  simp only [perform, dismiss, hEntry]
  rw [office_abortTask]
  cases e.pending <;> rfl

theorem entries_dismiss (hEntry : h.entry? f = some e) :
    (h.perform (.dismiss f)).entries =
      if e.pending.isSome then
        h.entries.set f { e with pending := none, status := .failed .aborted {} }
      else h.entries := by
  simp only [perform, dismiss, hEntry]
  rw [entries_abortTask]
  split <;> rfl

theorem alike_dismiss (hSound : h.pool.Sound) (hEntry : h.entry? f = some e) :
    Alike h (h.perform (.dismiss f)) := by
  simp only [perform, dismiss, hEntry]
  split
  · have hAlike := alike_abortTask
      (h := (h.setEntry f { e with pending := none, status := .failed .aborted {} }).discard
        e.pending) hSound e.task
    exact ⟨hAlike.members, hAlike.bodies, hAlike.sound⟩
  · exact alike_abortTask hSound e.task

theorem entry?_remove (hValid : h.entries.Valid) (hEntry : h.entry? f = some e) (k : FactoryId) :
    Hub.entry? (h.perform (.remove f)) k = if k = f then none else h.entry? k := by
  rw [Hub.entry?, entries_remove hEntry]
  exact hValid.get?_remove f k

theorem entry?_dismiss (hEntry : h.entry? f = some e) (k : FactoryId) :
    Hub.entry? (h.perform (.dismiss f)) k =
      if k = f ∧ e.pending.isSome then
        some { e with pending := none, status := .failed .aborted {} }
      else h.entry? k := by
  rw [Hub.entry?, entries_dismiss hEntry]
  by_cases hPending : e.pending.isSome = true
  · rw [if_pos hPending, Shelf.get?_set]
    by_cases hk : k = f
    · rw [if_pos hk, if_pos ⟨hk, hPending⟩]
      exact congrArg (Option.map _) hEntry
    · rw [if_neg hk, if_neg fun hBoth => hk hBoth.1]
      rfl
  · rw [if_neg hPending, if_neg fun hBoth => hPending hBoth.2]
    rfl

theorem change_remove (hOrderly : h.Orderly) (f : FactoryId) :
    Change h (.remove f) (h.perform (.remove f)) := by
  cases hEntry : h.entry? f with
  | none =>
    rw [perform_remove_none hEntry]
    exact .refl h fun _ => rfl
  | some e =>
    have hOffice := office_remove hEntry
    refine .of_alike (alike_remove hOrderly.pool hEntry) ?_ ?_ ?_ fun _ => rfl
    · rw [hOffice, Factory.Office.inboxes_release]
    · rw [hOffice, Factory.Office.isOpen_release]
    · intro k factory hSome
      rw [pending?, entry?_remove hOrderly.shelf hEntry] at hSome
      split at hSome
      · cases hSome
      · exact hSome

theorem change_dismiss (hOrderly : h.Orderly) (f : FactoryId) :
    Change h (.dismiss f) (h.perform (.dismiss f)) := by
  cases hEntry : h.entry? f with
  | none =>
    rw [perform_dismiss_none hEntry]
    exact .refl h fun _ => rfl
  | some e =>
    have hOffice := office_dismiss hEntry
    refine .of_alike (alike_dismiss hOrderly.pool hEntry) ?_ ?_ ?_ fun _ => rfl
    · rw [hOffice, Factory.Office.inboxes_release]
    · rw [hOffice, Factory.Office.isOpen_release]
    · intro k factory hSome
      rw [pending?, entry?_dismiss hEntry] at hSome
      split at hSome
      · cases hSome
      · exact hSome

end Leaving

theorem perform_change (hOrderly : h.Orderly) (op : Op) : Change h op (h.perform op) := by
  cases op with
  | createSlot => exact .of_alike (.of_pool rfl) rfl rfl (fun _ _ hSome => hSome) fun _ => rfl
  | removeSlot s => exact .of_alike (.of_pool rfl) rfl rfl (fun _ _ hSome => hSome) fun _ => rfl
  | createFactory name cacheName slot => exact change_createFactory hOrderly name cacheName slot
  | register f c => exact change_register hOrderly f c
  | closeInbox f => exact change_closeInbox hOrderly f
  | wake f => exact change_wake hOrderly f
  | start f => exact change_start hOrderly f
  | take => exact change_take
  | detach f => exact change_detach f
  | remove f => exact change_remove hOrderly f
  | dismiss f => exact change_dismiss hOrderly f
  | markShutDown => exact .of_alike (.of_pool rfl) rfl rfl (fun _ _ hSome => hSome) fun _ => rfl
  | close =>
    refine .shed (.of_pool rfl) rfl nofun ?_ fun _ => rfl
    intro g f hSome
    cases hSome

structure Shelved (h h' : Hub) : Prop where
  valid : h'.entries.Valid
  keyed : h'.office.isOpen = true →
    h'.entries.nextKey + h.office.inboxes.length = h.entries.nextKey + h'.office.inboxes.length
  empty : h'.office.isOpen = false → h'.entries = {} ∨ h.office.isOpen = false

theorem Shelved.of_entries {h' : Hub} (hValid : h'.entries.Valid)
    (hNext : h'.entries.nextKey = h.entries.nextKey)
    (hInboxes : h'.office.inboxes.length = h.office.inboxes.length)
    (hOpen : h'.office.isOpen = h.office.isOpen) : Shelved h h' := by
  constructor
  · exact hValid
  · intro _
    rw [hNext, hInboxes]
  · intro hClosed
    rw [hOpen] at hClosed
    exact .inr hClosed

theorem Shelved.refl (hOrderly : h.Orderly) : Shelved h h := .of_entries hOrderly.shelf rfl rfl rfl

theorem entries_applyEvent (hValid : h.entries.Valid) (u : Update) (e : Factory.Event) :
    (h.applyEvent u e).1.entries.Valid ∧
      (h.applyEvent u e).1.entries.nextKey = h.entries.nextKey := by
  cases e with
  | made f s p =>
    rw [applyEvent, deliver]
    split
    · exact ⟨hValid, rfl⟩
    · split
      · exact ⟨hValid, rfl⟩
      · exact ⟨hValid, rfl⟩
  | ended f report failure cache =>
    simp only [applyEvent, conclude]
    split
    · exact ⟨hValid, rfl⟩
    · exact ⟨hValid.set _ _, rfl⟩

theorem perform_shelved (hOrderly : h.Orderly) (op : Op) : Shelved h (h.perform op) := by
  have hShelf := hOrderly.shelf
  cases op with
  | createFactory name cacheName slot =>
    rw [perform_createFactory]
    split
    · exact .refl hOrderly
    · constructor
      · exact hShelf.add _
      · intro _
        simp only [withNewcomer, Shelf.nextKey_add, List.length_append, List.length_singleton]
        omega
      · exact .inr
  | register f c =>
    rw [perform, register]
    split
    · exact .refl hOrderly
    · exact .of_entries hShelf rfl List.length_set rfl
  | closeInbox f =>
    rw [perform]
    split
    · exact .of_entries hShelf rfl List.length_set rfl
    · exact .refl hOrderly
  | wake f =>
    rw [perform, wake]
    split
    · exact .of_entries hShelf rfl rfl rfl
    · exact .refl hOrderly
  | start f =>
    rcases h.perform_start_cases f with hSame | ⟨e, factory, line, _, _, hStart⟩
    · rw [hSame]
      exact .refl hOrderly
    · rw [hStart]
      exact .of_entries (hShelf.set _ _) rfl rfl rfl
  | take =>
    cases hEvents : h.office.events with
    | nil =>
      rw [perform_take_nil hEvents]
      exact .refl hOrderly
    | cons e events =>
      rw [perform_take_cons hEvents]
      have hOffice :=
        (pool_applyEvent (h := { h with office := { h.office with events } }) {} e).2
      obtain ⟨hValid, hNext⟩ :=
        entries_applyEvent (h := { h with office := { h.office with events } }) hShelf {} e
      exact .of_entries hValid hNext (by rw [hOffice]) (by rw [hOffice])
  | detach f =>
    rw [perform, detach]
    split
    · exact .refl hOrderly
    · exact .of_entries (hShelf.set _ _) rfl rfl rfl
  | remove f =>
    cases hEntry : h.entry? f with
    | none =>
      rw [perform_remove_none hEntry]
      exact .refl hOrderly
    | some e =>
      have hOffice := office_remove hEntry
      have hEntries := entries_remove hEntry
      refine .of_entries (hEntries ▸ hShelf.remove f) ?_ ?_ ?_
      · rw [hEntries, Shelf.nextKey_remove]
      · rw [hOffice, Factory.Office.inboxes_release]
      · rw [hOffice, Factory.Office.isOpen_release]
  | dismiss f =>
    cases hEntry : h.entry? f with
    | none =>
      rw [perform_dismiss_none hEntry]
      exact .refl hOrderly
    | some e =>
      have hOffice := office_dismiss hEntry
      have hEntries := entries_dismiss hEntry
      refine .of_entries ?_ ?_ ?_ ?_
      · rw [hEntries]
        split
        · exact hShelf.set _ _
        · exact hShelf
      · rw [hEntries]
        split <;> rfl
      · rw [hOffice, Factory.Office.inboxes_release]
      · rw [hOffice, Factory.Office.isOpen_release]
  | close =>
    constructor
    · exact Shelf.valid_empty
    · exact nofun
    · intro _
      exact .inl rfl
  | _ => exact .of_entries hShelf rfl rfl rfl

section Keeping

variable {h' : Hub}

theorem Orderly.length_inboxes (hOrderly : h.Orderly) (hOpen : h.office.isOpen = true)
    (hShelved : Shelved h h') (hOpen' : h'.office.isOpen = true) :
    h'.entries.nextKey = h'.office.inboxes.length := by
  have hBefore := hOrderly.keyed hOpen
  have hAfter := hShelved.keyed hOpen'
  omega

theorem Shelved.entries_eq_nil (hShelved : Shelved h h') (hOpen : h.office.isOpen = true)
    (hClosed : h'.office.isOpen = false) : h'.entries = {} := by
  rcases hShelved.empty hClosed with hEmpty | hNot
  · exact hEmpty
  · rw [hOpen] at hNot
    cases hNot

theorem Orderly.pending?_lt (hOrderly : h.Orderly) (hOpen : h.office.isOpen = true)
    {key : FactoryId} {f : Factory} (hPending : h.pending? key = some f) :
    key < h.office.inboxes.length := by
  obtain ⟨e, hEntry, _⟩ := pending?_eq_some hPending
  rw [← hOrderly.keyed hOpen]
  exact hOrderly.entry?_lt hEntry

theorem Orderly.of_alike (hOrderly : h.Orderly) (hOpen : h.office.isOpen = true)
    (hShelved : Shelved h h') (hAlike : Alike h h')
    (hLength : h.office.inboxes.length ≤ h'.office.inboxes.length)
    (hFresh : ∀ key f, h'.pending? key = some f → f.Fresh key)
    (hApart : ∀ key f t g m, h'.pending? key = some f → h.pool.member? t = some (g, m) →
      g.id ≠ key) : h'.Orderly := by
  constructor
  · exact hAlike.sound hOrderly.pool
  · exact hShelved.valid
  · exact hOrderly.length_inboxes hOpen hShelved
  · exact hShelved.entries_eq_nil hOpen
  · intro t f m hMember
    rw [hAlike.members] at hMember
    exact Nat.lt_of_lt_of_le (hOrderly.known t f m hMember) hLength
  · intro t u f g m n hT hU
    rw [hAlike.members] at hT hU
    exact hOrderly.distinct t u f g m n hT hU
  · exact hFresh
  · intro key f t g m hPending hMember
    rw [hAlike.members] at hMember
    exact hApart key f t g m hPending hMember

theorem Orderly.of_pending (hOrderly : h.Orderly) (hOpen : h.office.isOpen = true)
    (hShelved : Shelved h h') (hAlike : Alike h h')
    (hLength : h'.office.inboxes.length = h.office.inboxes.length)
    (hPending : ∀ key f, h'.pending? key = some f → h.pending? key = some f) : h'.Orderly := by
  apply hOrderly.of_alike hOpen hShelved hAlike (Nat.le_of_eq hLength.symm)
  · intro key f hSome
    exact hOrderly.fresh key f (hPending key f hSome)
  · intro key f t g m hSome
    exact hOrderly.apart key f t g m (hPending key f hSome)

theorem Orderly.enroll (hOrderly : h.Orderly) (hOpen : h.office.isOpen = true)
    (hShelved : Shelved h h') (hAlike : Alike h h')
    (hLength : h.office.inboxes.length ≤ h'.office.inboxes.length) {f : Factory}
    (hFresh : f.Fresh h.entries.nextKey)
    (hPending : ∀ key, h'.pending? key = if key = h.entries.nextKey then some f
      else h.pending? key) : h'.Orderly := by
  apply hOrderly.of_alike hOpen hShelved hAlike hLength
  · intro key g hSome
    rw [hPending] at hSome
    split at hSome
    · next hKey =>
      cases hSome
      rw [hKey]
      exact hFresh
    · exact hOrderly.fresh key g hSome
  · intro key g t k m hSome hMember
    rw [hPending] at hSome
    split at hSome
    · next hKey =>
      have hKnown := hOrderly.known t k m hMember
      rw [hKey, hOrderly.keyed hOpen]
      exact Nat.ne_of_lt hKnown
    · exact hOrderly.apart key g t k m hSome hMember

theorem Orderly.start (hOrderly : h.Orderly) (hOpen : h.office.isOpen = true)
    (hShelved : Shelved h h') (hSound : h'.pool.Sound) {key : FactoryId} {f : Factory}
    (hFactory : h.pending? key = some f)
    (hMembers : ∀ t : Nat, h'.pool.member? t =
      if t = h.pool.bodies.length then some (f, .resting .start) else h.pool.member? t)
    (hInboxes : h'.office.inboxes = h.office.inboxes)
    (hPending : ∀ g, h'.pending? g = if g = key then none else h.pending? g) : h'.Orderly := by
  have hId : f.id = key := by rw [hOrderly.fresh key f hFactory]
  have hOther (t : TaskId) (g : Factory) (m : Mode State)
      (hMember : h.pool.member? t = some (g, m)) : g.id ≠ f.id := by
    rw [hId]
    exact hOrderly.apart key f t g m hFactory hMember
  constructor
  · exact hSound
  · exact hShelved.valid
  · exact hOrderly.length_inboxes hOpen hShelved
  · exact hShelved.entries_eq_nil hOpen
  · intro t g m hMember
    rw [hMembers] at hMember
    rw [hInboxes]
    split at hMember
    · cases hMember
      rw [hId]
      exact hOrderly.pending?_lt hOpen hFactory
    · exact hOrderly.known t g m hMember
  · intro t u g k m n hT hU hSame
    rw [hMembers] at hT hU
    split at hT
    · next hNewT =>
      cases hT
      split at hU
      · next hNewU => rw [hNewT, hNewU]
      · exact absurd hSame.symm (hOther u k n hU)
    · split at hU
      · cases hU
        exact absurd hSame (hOther t g m hT)
      · exact hOrderly.distinct t u g k m n hT hU hSame
  · intro k g hSome
    rw [hPending] at hSome
    split at hSome
    · cases hSome
    · exact hOrderly.fresh k g hSome
  · intro k g t q m hSome hMember
    rw [hPending] at hSome
    split at hSome
    · cases hSome
    next hKey =>
    rw [hMembers] at hMember
    split at hMember
    · cases hMember
      rw [hId]
      exact Ne.symm hKey
    · exact hOrderly.apart k g t q m hSome hMember

end Keeping

theorem orderly_perform (hOrderly : h.Orderly) (hOpen : h.office.isOpen = true) (op : Op) :
    (h.perform op).Orderly := by
  have hShelved := perform_shelved hOrderly op
  cases perform_change hOrderly op with
  | enrolled f hFresh hAlike hInboxes _ hPending =>
    refine hOrderly.enroll hOpen hShelved hAlike ?_ hFresh hPending
    rw [hInboxes, List.length_append]
    omega
  | registered f c _ hAlike hInboxes _ hPending =>
    refine hOrderly.of_pending hOpen hShelved hAlike ?_ fun key _ hSome => hPending key ▸ hSome
    rw [hInboxes, List.length_set]
  | closed f _ hAlike hInboxes _ hPending =>
    refine hOrderly.of_pending hOpen hShelved hAlike ?_ fun key _ hSome => hPending key ▸ hSome
    rw [hInboxes, List.length_set]
  | shed hAlike hInboxes _ hPending =>
    refine hOrderly.of_pending hOpen hShelved hAlike ?_ hPending
    rw [hInboxes]
  | started key f hFactory hMembers _ hInboxes _ hPending _ hSound =>
    exact hOrderly.start hOpen hShelved hSound hFactory hMembers hInboxes hPending

end Hub

end PipelineForge
