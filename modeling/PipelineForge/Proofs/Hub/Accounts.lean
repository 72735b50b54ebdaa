import PipelineForge.Proofs.Hub.Runs
import PipelineForge.Proofs.Tasks.Bookings

/-!
# Accounts of factories

A hub accounts for each of its entries: what was created holds a booking, and what is running
holds one until its end was sent and waits to be taken. Factories that were removed stay booked
while their tasks run. The inboxes and the pipelines make no difference here.
-/

namespace PipelineForge

open Factory (Event State)
open Tasks (Mode TaskId Ticket)

def Status.Over (s : Status) : Prop := s ≠ .created ∧ s ≠ .running

/-- An entry after something that starts nothing. -/
structure Entry.Shed (e e' : Entry) : Prop where
  status : e'.status = e.status ∨ e'.status.Over
  pending : e'.pending = e.pending ∨ e'.pending = none ∧ e'.status.Over
  task : e'.task = e.task

theorem Entry.Shed.refl (e : Entry) : e.Shed e := ⟨.inl rfl, .inl rfl, rfl⟩

namespace Hub

def Staff (h : Hub) (f : Factory) : Prop :=
  (∃ key, h.pending? key = some f) ∨ ∃ t m, h.pool.member? t = some (f, m)

def Announced (h : Hub) (key : FactoryId) : Prop :=
  ∃ report failure cache, Event.ended key report failure cache ∈ h.office.events

/-- A factory that was started is booked and has not sent its end. -/
def Engaged (h : Hub) (key : FactoryId) : Prop :=
  ∃ t f m, h.pool.member? t = some (f, m) ∧ f.id = key ∧ f.ticket ≠ none ∧
    (m = .leaving → ∃ failure, f.point = .reporting failure)

structure Accounts (h : Hub) (key : FactoryId) (e : Entry) : Prop where
  booked : ∀ f, e.pending = some f → f.ticket ≠ none
  created : e.status = .created → e.pending ≠ none
  running : e.status = .running → h.Announced key ∨ h.Engaged key

structure Booked (h : Hub) : Prop where
  shelf : h.office.bookings.shelf.Valid
  held : ∀ f t, h.Staff f → f.ticket = some t → h.office.bookings.Holds t
  single : ∀ f g t, h.Staff f → h.Staff g → f.ticket = some t → g.ticket = some t → f.id = g.id
  entry : ∀ key e, h.entry? key = some e → h.Accounts key e

/-- What an operation does to the entries, the bookings and the events of a hub. -/
inductive Filing (h : Hub) (op : Op) (h' : Hub) : Prop where
  | enrolled (name cacheName : String) (slot : SlotId)
      (hOp : op = .createFactory name cacheName slot)
      (hHub : h' = h.withNewcomer name cacheName slot)
  | started (key : FactoryId) (e e' : Entry) (f : Factory) (hEntry : h.entry? key = some e)
      (hPending : e.pending = some f) (hNone : e'.pending = none) (hRunning : e'.status = .running)
      (hEntries : ∀ g, h'.entry? g = if g = key then some e' else h.entry? g)
      (hMembers : ∀ t : Nat, h'.pool.member? t =
        if t = h.pool.bodies.length then some (f, .resting .start) else h.pool.member? t)
      (hOffice : h'.office = h.office) (hTask : e'.task = some h.pool.bodies.length)
  | shed (hEntries : ∀ g e', h'.entry? g = some e' → ∃ e, h.entry? g = some e ∧ e.Shed e')
      (hMembers : ∀ t, h'.pool.member? t = h.pool.member? t)
      (hBookings : h'.office.bookings = h.office.bookings ∨
        ∃ key f, h.pending? key = some f ∧ h'.pending? key = none ∧
          h'.office.bookings = (h.office.release f.ticket).bookings)
      (hAnnounced : ∀ g, h.Announced g → h'.Announced g ∨
        ∀ e', h'.entry? g = some e' → e'.status.Over)
      (hCause : ∀ g e e', h.entry? g = some e → h'.entry? g = some e' →
        e'.status = e.status ∨ e.pending.isSome = true ∨ h.Announced g)

variable {h : Hub}

theorem Filing.of_entries {op : Op} {h' : Hub} (hEntries : h'.entries = h.entries)
    (hMembers : ∀ t, h'.pool.member? t = h.pool.member? t)
    (hBookings : h'.office.bookings = h.office.bookings)
    (hEvents : h'.office.events = h.office.events) : Filing h op h' := by
  refine .shed ?_ hMembers (.inl hBookings) ?_ ?_
  · intro g e' hEntry
    rw [Hub.entry?, hEntries] at hEntry
    exact ⟨e', hEntry, .refl e'⟩
  · intro g hAnnounced
    rw [Announced, hEvents]
    exact .inl hAnnounced
  · intro g e e' hEntry hAfter
    rw [Hub.entry?, hEntries] at hAfter
    obtain rfl := Option.some.inj (hEntry.symm.trans hAfter)
    exact .inl rfl

theorem Filing.refl (h : Hub) {op : Op} : Filing h op h := .of_entries rfl (fun _ => rfl) rfl rfl

theorem filing_start (hOrderly : h.Orderly) (f : FactoryId) :
    Filing h (.start f) (h.perform (.start f)) := by
  rcases h.perform_start_cases f with hSame | ⟨e, factory, line, hEntry, hFactory, hStart⟩
  · rw [hSame]
    exact .refl h
  · rw [hStart]
    have hLength : h.pool.bodies.length = h.pool.cells.length := List.length_map _
    let task := (h.pool.run factory .start).2
    refine .started f e { e with pending := none, task := some task, status := .running } factory
      hEntry hFactory rfl rfl ?_ ?_ rfl (congrArg some hLength.symm)
    · intro g
      refine (Hub.entry?_setEntry { h with pool := (h.pool.run factory .start).1 } f _ g).trans ?_
      split
      · exact congrArg (Option.map _) hEntry
      · rfl
    · intro t
      rw [hLength]
      exact Tasks.Pool.member?_run hOrderly.pool factory .start t

theorem entry?_applyEvent {u : Update} {event : Event} {g : FactoryId} {e' : Entry}
    (hEntry : Hub.entry? (h.applyEvent u event).1 g = some e') :
    (h.entry? g = some e' ∧ ∀ report failure cache, event ≠ .ended g report failure cache) ∨
      ∃ e, h.entry? g = some e ∧ e'.pending = e.pending ∧ e'.task = e.task ∧ e'.status.Over ∧
        ∃ report failure cache, event = .ended g report failure cache := by
  cases event with
  | made f s p =>
    refine .inl ⟨?_, by simp⟩
    rw [applyEvent, deliver] at hEntry
    split at hEntry
    · exact hEntry
    · split at hEntry
      · exact hEntry
      · exact hEntry
  | ended f report failure cache =>
    simp only [applyEvent, conclude] at hEntry
    split at hEntry
    · next hNone =>
      refine .inl ⟨hEntry, fun report failure cache hSame => ?_⟩
      cases hSame
      rw [hNone] at hEntry
      cases hEntry
    · next e hBefore =>
      rw [Hub.entry?_setEntry] at hEntry
      split at hEntry
      · next hg =>
        rw [hBefore] at hEntry
        cases hEntry
        refine .inr ⟨e, hg ▸ hBefore, rfl, rfl, ?_, report, failure, cache, by rw [hg]⟩
        cases failure with
        | none => simp [Status.Over]
        | some error => simp [Status.Over]
      · next hg =>
        refine .inl ⟨hEntry, fun report failure cache hSame => ?_⟩
        cases hSame
        exact hg rfl

theorem filing_take : Filing h .take (h.perform .take) := by
  cases hEvents : h.office.events with
  | nil =>
    rw [perform_take_nil hEvents]
    exact .refl h
  | cons event events =>
    rw [perform_take_cons hEvents]
    obtain ⟨hPool, hOffice⟩ :=
      pool_applyEvent (h := { h with office := { h.office with events } }) {} event
    refine .shed ?_ (fun t => by rw [hPool]) (.inl (by rw [hOffice])) ?_ ?_
    · intro g e' hEntry
      rcases entry?_applyEvent hEntry with ⟨hSame, _⟩ | ⟨e, hBefore, hPending, hTask, hOver, _⟩
      · exact ⟨e', hSame, .refl e'⟩
      · exact ⟨e, hBefore, .inr hOver, .inl hPending, hTask⟩
    · rintro g ⟨report, failure, cache, hMem⟩
      rw [hEvents] at hMem
      rcases List.mem_cons.mp hMem with hHead | hTail
      · refine .inr fun e' hEntry => ?_
        rcases entry?_applyEvent hEntry with ⟨_, hOther⟩ | ⟨e, _, _, _, hOver, _⟩
        · exact absurd hHead.symm (hOther report failure cache)
        · exact hOver
      · rw [Announced, hOffice]
        exact .inl ⟨report, failure, cache, hTail⟩
    · intro g e e' hEntry hAfter
      rcases entry?_applyEvent hAfter with
        ⟨hSame, _⟩ | ⟨_, _, _, _, _, report, failure, cache, hEnd⟩
      · obtain rfl := Option.some.inj (hEntry.symm.trans hSame)
        exact .inl rfl
      · refine .inr (.inr ⟨report, failure, cache, ?_⟩)
        rw [hEvents, hEnd]
        exact List.mem_cons_self

theorem filing_detach (f : FactoryId) : Filing h (.detach f) (h.perform (.detach f)) := by
  rw [perform, detach]
  split
  · exact .refl h
  · next e hBefore =>
    refine .shed ?_ (fun _ => rfl) (.inl rfl) (fun _ hAnnounced => .inl hAnnounced) ?_
    · intro g e' hEntry
      rw [Hub.entry?_setEntry] at hEntry
      split at hEntry
      · next hg =>
        rw [hBefore] at hEntry
        cases hEntry
        exact ⟨e, hg ▸ hBefore, .inl rfl, .inl rfl, rfl⟩
      · exact ⟨e', hEntry, .refl e'⟩
    · intro g e₀ e' hEntry hAfter
      rw [Hub.entry?_setEntry] at hAfter
      split at hAfter
      · next hg =>
        subst hg
        rw [hBefore] at hAfter
        obtain rfl := Option.some.inj (hBefore.symm.trans hEntry)
        obtain rfl := Option.some.inj hAfter
        exact .inl rfl
      · obtain rfl := Option.some.inj (hEntry.symm.trans hAfter)
        exact .inl rfl

theorem bookings_release {h' : Hub} {key : FactoryId} {e : Entry} (hEntry : h.entry? key = some e)
    (hOffice : h'.office = h.office.release (e.pending.bind Factory.ticket))
    (hNone : e.pending.isSome = true → h'.pending? key = none) :
    h'.office.bookings = h.office.bookings ∨
      ∃ key f, h.pending? key = some f ∧ h'.pending? key = none ∧
        h'.office.bookings = (h.office.release f.ticket).bookings := by
  cases hPending : e.pending with
  | none =>
    rw [hOffice, hPending]
    exact .inl rfl
  | some f =>
    refine .inr ⟨key, f, ?_, hNone (by rw [hPending]; rfl), ?_⟩
    · rw [pending?_of_entry hEntry, hPending]
    · rw [hOffice, hPending]
      rfl

theorem announced_release {h' : Hub} {ticket : Option Ticket}
    (hOffice : h'.office = h.office.release ticket) {g : FactoryId} (hAnnounced : h.Announced g) :
    h'.Announced g := by
  rw [Announced, hOffice, Factory.Office.events_release]
  exact hAnnounced

theorem filing_remove (hOrderly : h.Orderly) (f : FactoryId) :
    Filing h (.remove f) (h.perform (.remove f)) := by
  cases hBefore : h.entry? f with
  | none =>
    rw [perform_remove_none hBefore]
    exact .refl h
  | some e =>
    have hOffice := office_remove hBefore
    have hEntry := entry?_remove hOrderly.shelf hBefore
    refine .shed ?_ (alike_remove hOrderly.pool hBefore).members
      (bookings_release hBefore hOffice ?_)
      (fun g hAnnounced => .inl (announced_release hOffice hAnnounced)) ?_
    · intro k e' hAfter
      rw [hEntry] at hAfter
      split at hAfter
      · cases hAfter
      · exact ⟨e', hAfter, .refl e'⟩
    · intro _
      rw [pending?, hEntry, if_pos rfl]
      rfl
    · intro g e₀ e' hSome hAfter
      rw [hEntry] at hAfter
      split at hAfter
      · cases hAfter
      · obtain rfl := Option.some.inj (hSome.symm.trans hAfter)
        exact .inl rfl

theorem filing_dismiss (hOrderly : h.Orderly) (f : FactoryId) :
    Filing h (.dismiss f) (h.perform (.dismiss f)) := by
  cases hBefore : h.entry? f with
  | none =>
    rw [perform_dismiss_none hBefore]
    exact .refl h
  | some e =>
    have hOffice := office_dismiss hBefore
    have hEntry := entry?_dismiss hBefore
    refine .shed ?_ (alike_dismiss hOrderly.pool hBefore).members
      (bookings_release hBefore hOffice ?_)
      (fun g hAnnounced => .inl (announced_release hOffice hAnnounced)) ?_
    · intro k e' hAfter
      rw [hEntry] at hAfter
      split at hAfter
      · next hBoth =>
        cases hAfter
        exact ⟨e, hBoth.1 ▸ hBefore, .inr ⟨nofun, nofun⟩, .inr ⟨rfl, nofun, nofun⟩, rfl⟩
      · exact ⟨e', hAfter, .refl e'⟩
    · intro hPending
      rw [pending?, hEntry, if_pos ⟨rfl, hPending⟩]
      rfl
    · intro g e₀ e' hSome hAfter
      rw [hEntry] at hAfter
      split at hAfter
      · next hBoth =>
        obtain rfl := Option.some.inj (hSome.symm.trans (hBoth.1 ▸ hBefore))
        exact .inr (.inl hBoth.2)
      · obtain rfl := Option.some.inj (hSome.symm.trans hAfter)
        exact .inl rfl

theorem perform_filing (hOrderly : h.Orderly) (op : Op) : Filing h op (h.perform op) := by
  cases op with
  | createSlot => exact .of_entries rfl (fun _ => rfl) rfl rfl
  | removeSlot s => exact .of_entries rfl (fun _ => rfl) rfl rfl
  | createFactory name cacheName slot =>
    rw [perform_createFactory]
    split
    · exact .refl h
    · exact .enrolled name cacheName slot rfl rfl
  | register f c =>
    rw [perform, register]
    split
    · exact .refl h
    · exact .of_entries rfl (fun _ => rfl) rfl rfl
  | closeInbox f =>
    rw [perform]
    split
    · exact .of_entries rfl (fun _ => rfl) rfl rfl
    · exact .refl h
  | wake f =>
    rw [perform, wake]
    split
    · next t _ =>
      exact .of_entries rfl (alike_ask hOrderly.pool (.signal t Factory.wakeup)).members rfl rfl
    · exact .refl h
  | start f => exact filing_start hOrderly f
  | take => exact filing_take
  | detach f => exact filing_detach f
  | remove f => exact filing_remove hOrderly f
  | dismiss f => exact filing_dismiss hOrderly f
  | markShutDown => exact .of_entries rfl (fun _ => rfl) rfl rfl
  | close =>
    refine .shed ?_ (fun _ => rfl) (.inl rfl) ?_ ?_
    · intro g e' hEntry
      cases hEntry
    · intro g _
      refine .inr fun e' hEntry => ?_
      cases hEntry
    · intro g e e' _ hEntry
      cases hEntry

theorem Orderly.staff_unique (hOrderly : h.Orderly) {f g : Factory} (hF : h.Staff f)
    (hG : h.Staff g) (hSame : f.id = g.id) : f = g := by
  have hId {key : FactoryId} {f : Factory} (hPending : h.pending? key = some f) : f.id = key := by
    rw [hOrderly.fresh key f hPending]
  rcases hF with ⟨key, hPending⟩ | ⟨t, m, hMember⟩
  · rcases hG with ⟨key', hPending'⟩ | ⟨u, n, hMember'⟩
    · rw [hId hPending, hId hPending'] at hSame
      rw [hSame, hPending'] at hPending
      exact (Option.some.inj hPending).symm
    · rw [hId hPending] at hSame
      exact absurd hSame.symm (hOrderly.apart key f u g n hPending hMember')
  · rcases hG with ⟨key', hPending'⟩ | ⟨u, n, hMember'⟩
    · rw [hId hPending'] at hSame
      exact absurd hSame (hOrderly.apart key' g t f m hPending' hMember)
    · obtain rfl := hOrderly.distinct t u f g m n hMember hMember' hSame
      rw [hMember'] at hMember
      cases hMember
      rfl

theorem Booked.other (hBooked : h.Booked) (hOrderly : h.Orderly) {f g : Factory} {t u : Ticket}
    (hF : h.Staff f) (hG : h.Staff g) (hT : f.ticket = some t) (hU : g.ticket = some u)
    (hOther : g ≠ f) : u ≠ t := by
  rintro rfl
  exact hOther (hOrderly.staff_unique hG hF (hBooked.single g f u hG hF hU hT))

theorem Booked.holds_release (hBooked : h.Booked) (hOrderly : h.Orderly) {f g : Factory}
    (hF : h.Staff f) (hG : h.Staff g) {u : Ticket} (hU : g.ticket = some u) (hOther : g ≠ f) :
    (h.office.release f.ticket).bookings.Holds u := by
  have hHolds := hBooked.held g u hG hU
  cases hT : f.ticket with
  | none => exact hHolds
  | some t =>
    have hNe := hBooked.other hOrderly hF hG hT hU hOther
    exact (Tasks.Bookings.holds_release hBooked.shelf t u).mpr ⟨hNe, hHolds⟩

theorem valid_release (hValid : h.office.bookings.shelf.Valid) (ticket : Option Ticket) :
    (h.office.release ticket).bookings.shelf.Valid := by
  cases ticket with
  | none => exact hValid
  | some t => exact hValid.remove t.key

theorem booked_initial (settings : HubSettings) : ({ settings } : Hub).Booked := by
  have hNobody (f : Factory) (hStaff : ({ settings } : Hub).Staff f) : False := by
    rcases hStaff with ⟨key, hPending⟩ | ⟨t, m, hMember⟩
    · rw [show ({ settings } : Hub).pending? key = none from rfl] at hPending
      cases hPending
    · rw [show ({ settings } : Hub).pool.member? t = none from rfl] at hMember
      cases hMember
  constructor
  · exact Shelf.valid_empty
  · exact fun f _ hStaff => (hNobody f hStaff).elim
  · exact fun f _ _ hStaff => (hNobody f hStaff).elim
  · intro key e hEntry
    rw [show Hub.entry? { settings } key = none from rfl] at hEntry
    cases hEntry

section Staff

variable {h' : Hub} {f : Factory}

theorem entry?_withNewcomer (hOrderly : h.Orderly) (name cacheName : String) (slot : SlotId)
    (g : FactoryId) : Hub.entry? (h.withNewcomer name cacheName slot) g =
      if g = h.entries.nextKey then
        some { name, pending := some (h.newcomer name cacheName slot) }
      else h.entry? g := hOrderly.shelf.get?_add _ g

theorem staff_withNewcomer (hOrderly : h.Orderly) {name cacheName : String} {slot : SlotId}
    (hF : (h.withNewcomer name cacheName slot).Staff f) :
    f = h.newcomer name cacheName slot ∨ h.Staff f := by
  rcases hF with ⟨key, hPending⟩ | hMember
  · rw [pending?, entry?_withNewcomer hOrderly] at hPending
    split at hPending
    · exact .inl (Option.some.inj hPending).symm
    · exact .inr (.inl ⟨key, hPending⟩)
  · exact .inr (.inr hMember)

theorem pending?_shed
    (hEntries : ∀ g e', h'.entry? g = some e' → ∃ e, h.entry? g = some e ∧ e.Shed e')
    {key : FactoryId} (hSome : h'.pending? key = some f) : h.pending? key = some f := by
  obtain ⟨e', hAfter, hF⟩ := pending?_eq_some hSome
  obtain ⟨e, hEntry, hShed⟩ := hEntries key e' hAfter
  rcases hShed.pending with hSame | ⟨hNone, _⟩
  · rw [pending?_of_entry hEntry, ← hSame, hF]
  · rw [hNone] at hF
    cases hF

theorem staff_shed
    (hEntries : ∀ g e', h'.entry? g = some e' → ∃ e, h.entry? g = some e ∧ e.Shed e')
    (hMembers : ∀ t, h'.pool.member? t = h.pool.member? t) (hF : h'.Staff f) : h.Staff f := by
  rcases hF with ⟨key, hSome⟩ | ⟨t, m, hMember⟩
  · exact .inl ⟨key, pending?_shed hEntries hSome⟩
  · exact .inr ⟨t, m, hMembers t ▸ hMember⟩

theorem staff_started {key : FactoryId} {e' : Entry} {g : Factory}
    (hBefore : h.pending? key = some g) (hNone : e'.pending = none)
    (hEntries : ∀ k, h'.entry? k = if k = key then some e' else h.entry? k)
    (hMembers : ∀ t : Nat, h'.pool.member? t =
      if t = h.pool.bodies.length then some (g, .resting .start) else h.pool.member? t)
    (hF : h'.Staff f) : h.Staff f := by
  rcases hF with ⟨k, hSome⟩ | ⟨t, m, hMember⟩
  · rw [pending?, hEntries] at hSome
    split at hSome
    · rw [Option.bind_some, hNone] at hSome
      cases hSome
    · exact .inl ⟨k, hSome⟩
  · rw [hMembers] at hMember
    split at hMember
    · cases hMember
      exact .inl ⟨key, hBefore⟩
    · exact .inr ⟨t, m, hMember⟩

/-- New to a hub can only be a factory that was created for a slot which exists. -/
theorem staff_perform (hOrderly : h.Orderly) (op : Op) (hF : (h.perform op).Staff f) :
    h.Staff f ∨ ∃ name cacheName slot, op = .createFactory name cacheName slot ∧
      (h.slot? slot).isNone = false ∧ f = h.newcomer name cacheName slot := by
  cases perform_filing hOrderly op with
  | enrolled name cacheName slot hOp hHub =>
    subst hOp
    rw [perform_createFactory] at hF
    split at hF
    · exact .inl hF
    · next hSlot =>
      refine (staff_withNewcomer hOrderly hF).symm.imp_right fun hNew => ?_
      exact ⟨name, cacheName, slot, rfl, Bool.eq_false_iff.mpr hSlot, hNew⟩
  | started key e e' g hEntry hPending hNone hRunning hEntries hMembers hOffice =>
    have hBefore : h.pending? key = some g := by rw [pending?_of_entry hEntry, hPending]
    exact .inl (staff_started hBefore hNone hEntries hMembers hF)
  | shed hEntries hMembers hBookings hAnnounced => exact .inl (staff_shed hEntries hMembers hF)

end Staff

theorem booked_withNewcomer (hOrderly : h.Orderly) (hBooked : h.Booked)
    (name cacheName : String) (slot : SlotId) : (h.withNewcomer name cacheName slot).Booked := by
  have hEntry := entry?_withNewcomer hOrderly name cacheName slot
  have hStaff {f : Factory} (hF : (h.withNewcomer name cacheName slot).Staff f) :=
    staff_withNewcomer hOrderly hF
  have hHolds := Tasks.Bookings.holds_add hBooked.shelf name
  have hNew := Tasks.Bookings.not_holds_new hBooked.shelf name
  have hTicket : (h.newcomer name cacheName slot).ticket = some (h.office.bookings.add name).2 :=
    rfl
  constructor
  · exact hBooked.shelf.add name
  · intro f t hF hT
    refine (hHolds t).mpr ?_
    rcases hStaff hF with rfl | hOld
    · exact .inl (Option.some.inj (hT.symm.trans hTicket))
    · exact .inr (hBooked.held f t hOld hT)
  · intro f g t hF hG hT hU
    rcases hStaff hF with rfl | hOldF
    · rcases hStaff hG with rfl | hOldG
      · rfl
      · obtain rfl := Option.some.inj (hT.symm.trans hTicket)
        exact absurd (hBooked.held g _ hOldG hU) hNew
    · rcases hStaff hG with rfl | hOldG
      · obtain rfl := Option.some.inj (hU.symm.trans hTicket)
        exact absurd (hBooked.held f _ hOldF hT) hNew
      · exact hBooked.single f g t hOldF hOldG hT hU
  · intro key e hSome
    rw [hEntry] at hSome
    split at hSome
    · cases hSome
      constructor
      · intro f hF
        obtain rfl := Option.some.inj hF
        rw [hTicket]
        exact Option.some_ne_none _
      · intro _
        exact Option.some_ne_none _
      · intro hRunning
        cases hRunning
    · have hAccounts := hBooked.entry key e hSome
      exact ⟨hAccounts.booked, hAccounts.created, hAccounts.running⟩

theorem booked_shed {h' : Hub} (hOrderly : h.Orderly) (hBooked : h.Booked)
    (hEntries : ∀ g e', h'.entry? g = some e' → ∃ e, h.entry? g = some e ∧ e.Shed e')
    (hMembers : ∀ t, h'.pool.member? t = h.pool.member? t)
    (hBookings : h'.office.bookings = h.office.bookings ∨
      ∃ key f, h.pending? key = some f ∧ h'.pending? key = none ∧
        h'.office.bookings = (h.office.release f.ticket).bookings)
    (hAnnounced : ∀ g, h.Announced g → h'.Announced g ∨
      ∀ e', h'.entry? g = some e' → e'.status.Over) : h'.Booked := by
  have hStaff {f : Factory} (hF : h'.Staff f) : h.Staff f := staff_shed hEntries hMembers hF
  constructor
  · rcases hBookings with hSame | ⟨key, f, _, _, hRelease⟩
    · exact hSame ▸ hBooked.shelf
    · exact hRelease ▸ valid_release hBooked.shelf f.ticket
  · intro g u hG hU
    rcases hBookings with hSame | ⟨key, f, hBefore, hAfter, hRelease⟩
    · exact hSame ▸ hBooked.held g u (hStaff hG) hU
    · rw [hRelease]
      refine hBooked.holds_release hOrderly (.inl ⟨key, hBefore⟩) (hStaff hG) hU ?_
      -- The factory that was given up is gone.
      rintro rfl
      have hId : g.id = key := by rw [hOrderly.fresh key g hBefore]
      rcases hG with ⟨key', hSome⟩ | ⟨t, m, hMember⟩
      · have hId' : g.id = key' := by rw [hOrderly.fresh key' g (pending?_shed hEntries hSome)]
        rw [← hId', hId, hAfter] at hSome
        cases hSome
      · exact hOrderly.apart key g t g m hBefore (hMembers t ▸ hMember) hId
  · exact fun f g t hF hG => hBooked.single f g t (hStaff hF) (hStaff hG)
  · intro key e' hAfter
    obtain ⟨e, hEntry, hShed⟩ := hEntries key e' hAfter
    have hAccounts := hBooked.entry key e hEntry
    constructor
    · intro f hF
      rcases hShed.pending with hSame | ⟨hNone, _⟩
      · exact hAccounts.booked f (hSame ▸ hF)
      · rw [hNone] at hF
        cases hF
    · intro hCreated
      rcases hShed.status with hStatus | hOver
      · rcases hShed.pending with hSame | ⟨_, hOver⟩
        · rw [hSame]
          exact hAccounts.created (hStatus ▸ hCreated)
        · exact absurd hCreated hOver.1
      · exact absurd hCreated hOver.1
    · intro hRunning
      rcases hShed.status with hStatus | hOver
      · rcases hAccounts.running (hStatus ▸ hRunning) with hSent | ⟨t, f, m, hMember, hEngaged⟩
        · rcases hAnnounced key hSent with hStill | hOver
          · exact .inl hStill
          · exact absurd hRunning (hOver e' hAfter).2
        · exact .inr ⟨t, f, m, (hMembers t).trans hMember, hEngaged⟩
      · exact absurd hRunning hOver.2

theorem booked_perform (hOrderly : h.Orderly) (hBooked : h.Booked) (op : Op) :
    (h.perform op).Booked := by
  cases perform_filing hOrderly op with
  | enrolled name cacheName slot hOp hHub =>
    rw [hHub]
    exact booked_withNewcomer hOrderly hBooked name cacheName slot
  | shed hEntries hMembers hBookings hAnnounced =>
    exact booked_shed hOrderly hBooked hEntries hMembers hBookings hAnnounced
  | started key e e' f hEntry hPending hNone hRunning hEntries hMembers hOffice =>
    generalize h.perform op = h' at *
    have hBefore : h.pending? key = some f := by rw [pending?_of_entry hEntry, hPending]
    have hStaff {g : Factory} (hG : h'.Staff g) : h.Staff g :=
      staff_started hBefore hNone hEntries hMembers hG
    constructor
    · exact hOffice ▸ hBooked.shelf
    · intro g t hG hT
      exact hOffice ▸ hBooked.held g t (hStaff hG) hT
    · exact fun g k t hG hK => hBooked.single g k t (hStaff hG) (hStaff hK)
    · intro k e'' hAfter
      rw [hEntries] at hAfter
      split at hAfter
      · next hk =>
        obtain rfl := Option.some.inj hAfter
        constructor
        · intro g hG
          rw [hNone] at hG
          cases hG
        · intro hCreated
          rw [hRunning] at hCreated
          cases hCreated
        · intro _
          refine .inr ⟨h.pool.bodies.length, f, .resting .start, ?_, ?_, ?_, by simp⟩
          · rw [hMembers, if_pos rfl]
          · rw [hk, hOrderly.fresh key f hBefore]
          · exact (hBooked.entry key e hEntry).booked f hPending
      · have hAccounts := hBooked.entry k e'' hAfter
        refine ⟨hAccounts.booked, hAccounts.created, fun hRunning => ?_⟩
        rcases hAccounts.running hRunning with hSent | ⟨t, g, m, hMember, hEngaged⟩
        · refine .inl ?_
          rw [Announced, hOffice]
          exact hSent
        · have hOld : t ≠ h.pool.bodies.length := by
            have hBody : h.pool.bodies[t]? = some g := by
              rw [Tasks.Pool.bodies_getElem?, hMember]
              rfl
            exact Nat.ne_of_lt (List.getElem?_eq_some_iff.mp hBody).1
          exact .inr ⟨t, g, m, by rw [hMembers, if_neg hOld, hMember], hEngaged⟩

end Hub

namespace Plant

variable {κ : Type} {compiler : Compiler κ} {p p' : Plant κ} {i j : Nat} {h h' : Hub}
  {w' : Factory.Floor κ} {t : TaskId} {f f' : Factory} {mode mode' : Mode State}

theorem Works.staff (hWorks : Works compiler p i j p' h h' w' t f mode f' mode') {g : Factory}
    (hG : h'.Staff g) : g = f' ∨ h.Staff g ∧ (h.Orderly → g ≠ f) := by
  rcases hG with ⟨key, hSome⟩ | ⟨u, m, hMember⟩
  · rw [Hub.pending?, Hub.entry?, hWorks.entries] at hSome
    have hPending : h.pending? key = some g := hSome
    refine .inr ⟨.inl ⟨key, hPending⟩, fun hOrderly => ?_⟩
    rintro rfl
    have hId : g.id = key := by rw [hOrderly.fresh key g hPending]
    exact hOrderly.apart key g t g mode hPending hWorks.member hId
  · rw [hWorks.members] at hMember
    split at hMember
    · cases hMember
      exact .inl rfl
    · next hu =>
      refine .inr ⟨.inr ⟨u, m, hMember⟩, fun hOrderly => ?_⟩
      rintro rfl
      exact hu (hOrderly.distinct u t g g m mode hMember hWorks.member rfl)

theorem Works.booked (hWorks : Works compiler p i j p' h h' w' t f mode f' mode')
    (hOrderly : h.Orderly) (hBooked : h.Booked) : h'.Booked := by
  have hPassage := hWorks.passage
  have hF : h.Staff f := .inr ⟨t, mode, hWorks.member⟩
  -- A factory that has a ticket has the one that a factory of its identity had before.
  have hBefore {g : Factory} {u : Ticket} (hG : h'.Staff g) (hU : g.ticket = some u) :
      ∃ g₀, h.Staff g₀ ∧ g₀.ticket = some u ∧ g₀.id = g.id := by
    rcases hWorks.staff hG with rfl | ⟨hOld, _⟩
    · rcases hPassage.bookings with ⟨_, hTicket⟩ | ⟨_, hNone⟩
      · exact ⟨f, hF, hTicket ▸ hU, hPassage.identity.1.symm⟩
      · rw [hNone] at hU
        cases hU
    · exact ⟨g, hOld, hU, rfl⟩
  constructor
  · rw [hWorks.office]
    rcases hPassage.bookings with ⟨hSame, _⟩ | ⟨hRelease, _⟩
    · exact hSame ▸ hBooked.shelf
    · exact hRelease ▸ Hub.valid_release hBooked.shelf f.ticket
  · intro g u hG hU
    rw [hWorks.office]
    rcases hPassage.bookings with ⟨hSame, _⟩ | ⟨hRelease, hNone⟩
    · obtain ⟨g₀, hG₀, hU₀, _⟩ := hBefore hG hU
      exact hSame ▸ hBooked.held g₀ u hG₀ hU₀
    · rw [hRelease]
      rcases hWorks.staff hG with rfl | ⟨hOld, hOther⟩
      · rw [hNone] at hU
        cases hU
      · exact hBooked.holds_release hOrderly hF hOld hU (hOther hOrderly)
  · intro g k u hG hK hU hV
    obtain ⟨g₀, hG₀, hU₀, hIdG⟩ := hBefore hG hU
    obtain ⟨k₀, hK₀, hV₀, hIdK⟩ := hBefore hK hV
    rw [← hIdG, ← hIdK]
    exact hBooked.single g₀ k₀ u hG₀ hK₀ hU₀ hV₀
  · intro key e hEntry
    rw [Hub.entry?, hWorks.entries] at hEntry
    have hAccounts := hBooked.entry key e hEntry
    refine ⟨hAccounts.booked, hAccounts.created, fun hRunning => ?_⟩
    have hOpen : h.office.isOpen = true := by
      cases hOpen : h.office.isOpen with
      | true => rfl
      | false =>
        rw [hOrderly.empty hOpen] at hEntry
        cases hEntry
    rcases hAccounts.running hRunning with hSent | ⟨u, g, m, hMember, hId, hTicket, hUntold⟩
    · obtain ⟨report, failure, cache, hMem⟩ := hSent
      refine .inl ⟨report, failure, cache, ?_⟩
      rw [hWorks.office]
      exact hPassage.keepsEvents hMem
    · by_cases hu : u = t
      · subst hu
        rw [hWorks.member] at hMember
        cases hMember
        rcases hPassage.reports hOpen hUntold with ⟨hSame, hStill⟩ | hSent
        · refine .inr ⟨u, f', mode', ?_, ?_, ?_, hStill⟩
          · rw [hWorks.members, if_pos rfl]
          · rw [hPassage.identity.1, hId]
          · rw [hSame]
            exact hTicket
        · refine .inl ?_
          rw [Hub.Announced, hWorks.office, ← hId]
          exact hSent
      · refine .inr ⟨u, g, m, ?_, hId, hTicket, hUntold⟩
        rw [hWorks.members, if_neg hu, hMember]

def Booked (p : Plant κ) : Prop := ∀ i h, p.hub? i = some h → h.Booked

theorem booked_move {m : Move κ} (hMove : p.move compiler m = some p') (hOrderly : p.Orderly)
    (hBooked : p.Booked) : p'.Booked := by
  apply hubs_move hOrderly hMove _ hBooked
  intro i h h' hHub hStir hBefore
  cases hStir with
  | spared hSame hElsewhere =>
    rw [hSame]
    exact hBefore
  | owned op hm hOpen hPerform =>
    rw [hPerform]
    exact Hub.booked_perform (hOrderly i h hHub) hBefore op
  | worked j w' t f f' mode mode' hm hWorks => exact hWorks.booked (hOrderly i h hHub) hBefore

theorem Run.booked {limit : Option Nat} {k : κ} {settings : List HubSettings}
    (r : Run compiler (founded limit k settings) p) : p.Booked := by
  induction r with
  | start =>
    intro i h hHub
    obtain ⟨s, rfl⟩ := founded_hub hHub
    exact Hub.booked_initial s
  | next r m hMove ih => exact booked_move hMove r.orderly ih

end Plant

end PipelineForge
