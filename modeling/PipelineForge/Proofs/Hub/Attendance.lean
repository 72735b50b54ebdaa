import PipelineForge.Proofs.Hub.Statuses

/-!
# Attendance of factories

The book of an open hub lists the factories that are there: those that are not started, and those
whose tasks have not left, whether or not the hub still has an entry of them. Each of them is
booked when it is created, and its booking is released when it is given up unstarted or when its
task signs off, however the task came to its end.
-/

namespace PipelineForge

open Factory (Passage State)
open Tasks (Mode TaskId Ticket)

def Tasks.Mode.isPresent {σ : Type} : Mode σ → Bool
  | left => false
  | _ => true

theorem Tasks.Mode.isPresent_iff {σ : Type} {m : Mode σ} : m.isPresent = true ↔ m ≠ .left := by
  cases m <;> simp [isPresent]

theorem Factory.Passage.name {κ : Type} {compiler : Compiler κ} {hub : Nat} {w w' : Floor κ}
    {f f' : Factory} {mode mode' : Mode State}
    (h : Passage compiler hub w f mode w' f' mode') : f'.name = f.name := by
  cases h with
  | turned hTurn => cases hTurn <;> rfl
  | _ => rfl

theorem Factory.Passage.survives {κ : Type} {compiler : Compiler κ} {hub : Nat} {w w' : Floor κ}
    {f f' : Factory} {mode mode' : Mode State}
    (h : Passage compiler hub w f mode w' f' mode') (hMode : mode ≠ .lost) : mode' ≠ .lost := by
  cases h with
  | still => exact hMode
  | @turned _ _ reply hTurn =>
    cases reply with
    | step s => cases s <;> exact nofun
    | _ => exact nofun
  | _ => exact nofun

/-- A step of a worker leaves a task as it is that has left, keeps its booking, or releases it when
the task signs off. -/
theorem Factory.Passage.bookings_cases {κ : Type} {compiler : Compiler κ} {hub : Nat}
    {w w' : Floor κ} {f f' : Factory} {mode mode' : Mode State}
    (h : Passage compiler hub w f mode w' f' mode') :
    (f' = f ∧ mode' = mode ∧ w'.office.bookings = w.office.bookings) ∨
    (mode ≠ .left ∧ mode' ≠ .left ∧ f'.ticket = f.ticket ∧
      w'.office.bookings = w.office.bookings) ∨
    (mode ≠ .left ∧ mode' = .left ∧
      w'.office.bookings = (w.office.release f.ticket).bookings) := by
  cases h with
  | still => exact .inl ⟨rfl, rfl, rfl⟩
  | turned hTurn =>
    refine .inr (.inl ⟨nofun, fun hLeft => ?_, hTurn.identity.2.2, hTurn.bookings⟩)
    exact Factory.not_reported_reply f _ (.inl hLeft)
  | reported failure hPoint =>
    exact .inr (.inl ⟨nofun, nofun, rfl, Factory.Office.bookings_send _ _⟩)
  | signedOff hPoint => exact .inr (.inr ⟨nofun, rfl, rfl⟩)
  | _ => exact .inr (.inl ⟨nofun, nofun, rfl, rfl⟩)

namespace Hub

/-- The unstarted factories, and the started ones whose tasks have not left. -/
def live (h : Hub) : List Factory :=
  h.entries.entries.filterMap (·.2.pending) ++
    (List.range h.pool.cells.length).filterMap fun t =>
      ((h.pool.member? t).filter (·.2.isPresent)).map Prod.fst

def Live (h : Hub) (f : Factory) : Prop :=
  (∃ key, h.pending? key = some f) ∨ ∃ t m, h.pool.member? t = some (f, m) ∧ m ≠ .left

variable {h h' : Hub} {f : Factory}

theorem Live.staff (hLive : h.Live f) : h.Staff f := by
  rcases hLive with hPending | ⟨t, m, hMember, _⟩
  · exact .inl hPending
  · exact .inr ⟨t, m, hMember⟩

theorem Orderly.mem_pending (hOrderly : h.Orderly) {key : FactoryId} {e : Entry}
    (hMem : (key, e) ∈ h.entries.entries) (hPending : e.pending = some f) :
    h.pending? key = some f := by
  rw [pending?, Hub.entry?, hOrderly.shelf.mem_entries_iff.mp hMem, Option.bind_some, hPending]

theorem mem_present {t : Nat} :
    f ∈ ((h.pool.member? t).filter (·.2.isPresent)).map Prod.fst ↔
      ∃ m, h.pool.member? t = some (f, m) ∧ m ≠ .left := by
  simp only [Option.mem_def, Option.map_eq_some_iff, Option.filter_eq_some_iff, Prod.exists,
    Tasks.Mode.isPresent_iff]
  constructor
  · rintro ⟨_, m, ⟨hMember, hMode⟩, rfl⟩
    exact ⟨m, hMember, hMode⟩
  · rintro ⟨m, hMember, hMode⟩
    exact ⟨f, m, ⟨hMember, hMode⟩, rfl⟩

theorem Orderly.mem_live (hOrderly : h.Orderly) : f ∈ h.live ↔ h.Live f := by
  rw [live, List.mem_append, List.mem_filterMap, List.mem_filterMap]
  constructor
  · rintro (⟨⟨key, e⟩, hMem, hPending⟩ | ⟨t, _, hPresent⟩)
    · exact .inl ⟨key, hOrderly.mem_pending hMem hPending⟩
    · exact .inr ⟨t, mem_present.mp hPresent⟩
  · rintro (⟨key, hPending⟩ | ⟨t, m, hMember, hMode⟩)
    · obtain ⟨e, hEntry, hFactory⟩ := pending?_eq_some hPending
      exact .inl ⟨(key, e), hOrderly.shelf.mem_entries_iff.mpr hEntry, hFactory⟩
    · refine .inr ⟨t, List.mem_range.mpr ?_, mem_present.mpr ⟨m, hMember, hMode⟩⟩
      have hKnown := member?_lt hMember
      rwa [Tasks.Pool.bodies, List.length_map] at hKnown

theorem Orderly.live_unique (hOrderly : h.Orderly) {f g : Factory} (hF : f ∈ h.live)
    (hG : g ∈ h.live) (hSame : f.id = g.id) : f = g :=
  hOrderly.staff_unique (hOrderly.mem_live.mp hF).staff (hOrderly.mem_live.mp hG).staff hSame

theorem Orderly.nodup_live (hOrderly : h.Orderly) : h.live.Nodup := by
  have hId {key : FactoryId} {f : Factory} (hPending : h.pending? key = some f) : f.id = key := by
    rw [hOrderly.fresh key f hPending]
  apply List.Nodup.append
  · have hKeys : h.entries.entries.Pairwise fun a b => a.1 ≠ b.1 :=
      List.pairwise_map.mp hOrderly.shelf.distinct
    refine List.pairwise_filterMap.mpr (hKeys.imp_of_mem ?_)
    rintro ⟨key, e⟩ ⟨key', e'⟩ hMem hMem' hNe f hF g hG rfl
    exact hNe
      ((hId (hOrderly.mem_pending hMem hF)).symm.trans (hId (hOrderly.mem_pending hMem' hG)))
  · refine List.Nodup.filterMap ?_ List.nodup_range
    intro t u f hT hU
    obtain ⟨m, hMember, _⟩ := mem_present.mp hT
    obtain ⟨n, hMember', _⟩ := mem_present.mp hU
    exact hOrderly.distinct t u f f m n hMember hMember' rfl
  · intro f hF hG
    obtain ⟨⟨key, e⟩, hMem, hPending⟩ := List.mem_filterMap.mp hF
    obtain ⟨t, _, hPresent⟩ := List.mem_filterMap.mp hG
    obtain ⟨m, hMember, _⟩ := mem_present.mp hPresent
    have hUnstarted := hOrderly.mem_pending hMem hPending
    exact hOrderly.apart key f t f m hUnstarted hMember (hId hUnstarted)

/-- What an operation does to the factories that are there, and to the book. -/
inductive Muster (h : Hub) (op : Op) (h' : Hub) : Prop where
  | kept (hLive : ∀ g, h'.Live g ↔ h.Live g) (hBookings : h'.office.bookings = h.office.bookings)
      (hNext : h'.entries.nextKey = h.entries.nextKey)
  | enrolled (name cacheName : String) (slot : SlotId)
      (hOp : op = .createFactory name cacheName slot) (hSlot : h.slot? slot ≠ none)
      (hHub : h' = h.withNewcomer name cacheName slot)
  | given (f : Factory) (hOp : op = .remove f.id ∨ op = .dismiss f.id)
      (hPending : h.pending? f.id = some f) (hLive : ∀ g, h'.Live g ↔ g ≠ f ∧ h.Live g)
      (hBookings : h'.office.bookings = h.office.bookings.release ⟨f.id⟩)
      (hNext : h'.entries.nextKey = h.entries.nextKey)

theorem live_congr (hPending : ∀ key, h'.pending? key = h.pending? key)
    (hMembers : ∀ t, h'.pool.member? t = h.pool.member? t) (g : Factory) :
    h'.Live g ↔ h.Live g := by
  simp only [Live, hPending, hMembers]

theorem Muster.of_entries {op : Op} (hEntries : h'.entries = h.entries)
    (hMembers : ∀ t, h'.pool.member? t = h.pool.member? t)
    (hBookings : h'.office.bookings = h.office.bookings) : Muster h op h' := by
  refine .kept (live_congr (fun key => ?_) hMembers) hBookings (congrArg Shelf.nextKey hEntries)
  rw [pending?, Hub.entry?, hEntries]
  rfl

theorem Muster.refl (h : Hub) {op : Op} : Muster h op h := .of_entries rfl (fun _ => rfl) rfl

theorem live_started {key : FactoryId} {k : Factory} (hBefore : h.pending? key = some k)
    (hAfter : ∀ c, h'.pending? c = if c = key then none else h.pending? c)
    (hMembers : ∀ t : Nat, h'.pool.member? t =
      if t = h.pool.bodies.length then some (k, .resting .start) else h.pool.member? t)
    (g : Factory) : h'.Live g ↔ h.Live g := by
  constructor
  · rintro (⟨c, hSome⟩ | ⟨t, m, hMember, hMode⟩)
    · rw [hAfter] at hSome
      split at hSome
      · cases hSome
      · exact .inl ⟨c, hSome⟩
    · rw [hMembers] at hMember
      split at hMember
      · cases hMember
        exact .inl ⟨key, hBefore⟩
      · exact .inr ⟨t, m, hMember, hMode⟩
  · rintro (⟨c, hSome⟩ | ⟨t, m, hMember, hMode⟩)
    · by_cases hc : c = key
      · subst hc
        obtain rfl := Option.some.inj (hBefore.symm.trans hSome)
        exact .inr ⟨h.pool.bodies.length, .resting .start, by rw [hMembers, if_pos rfl], nofun⟩
      · exact .inl ⟨c, by rw [hAfter, if_neg hc, hSome]⟩
    · refine .inr ⟨t, m, ?_, hMode⟩
      rw [hMembers, if_neg (Nat.ne_of_lt (member?_lt hMember))]
      exact hMember

theorem muster_start (hOrderly : h.Orderly) (f : FactoryId) :
    Muster h (.start f) (h.perform (.start f)) := by
  rcases h.perform_start_cases f with hSame | ⟨e, k, line, hEntry, hFactory, hStart⟩
  · rw [hSame]
    exact .refl h
  · rw [hStart]
    have hLength : h.pool.bodies.length = h.pool.cells.length := List.length_map _
    have hBefore : h.pending? f = some k := by rw [pending?_of_entry hEntry, hFactory]
    refine .kept (live_started hBefore ?_ fun t => ?_) rfl rfl
    · exact pending?_setEntry (h := { h with pool := (h.pool.run k .start).1 }) hEntry _
    · rw [hLength]
      exact Tasks.Pool.member?_run hOrderly.pool k .start t

theorem muster_take (hOrderly : h.Orderly) : Muster h .take (h.perform .take) := by
  cases hEvents : h.office.events with
  | nil =>
    rw [perform_take_nil hEvents]
    exact .refl h
  | cons e events =>
    rw [perform_take_cons hEvents]
    obtain ⟨hPool, hOffice⟩ :=
      pool_applyEvent (h := { h with office := { h.office with events } }) {} e
    refine .kept (live_congr (fun key => ?_) fun t => by rw [hPool]) (by rw [hOffice]) ?_
    · exact pending?_applyEvent {} e key
    · exact (entries_applyEvent (h := { h with office := { h.office with events } })
        hOrderly.shelf {} e).2

theorem muster_detach (h : Hub) (f : FactoryId) :
    Muster h (.detach f) (h.perform (.detach f)) := by
  rw [perform, detach]
  split
  · exact .refl h
  · next e hEntry =>
    refine .kept (live_congr (fun key => ?_) fun _ => rfl) rfl rfl
    rw [pending?_setEntry hEntry]
    split
    · next hKey => rw [hKey, pending?_of_entry hEntry]
    · rfl

theorem Orderly.live_given (hOrderly : h.Orderly) (hPending : h.pending? f.id = some f)
    (hAfter : ∀ key, h'.pending? key = if key = f.id then none else h.pending? key)
    (hMembers : ∀ t, h'.pool.member? t = h.pool.member? t) (g : Factory) :
    h'.Live g ↔ g ≠ f ∧ h.Live g := by
  constructor
  · rintro (⟨key, hSome⟩ | ⟨t, m, hMember, hMode⟩)
    · rw [hAfter] at hSome
      split at hSome
      · cases hSome
      next hKey =>
      refine ⟨?_, .inl ⟨key, hSome⟩⟩
      rintro rfl
      exact hKey (by rw [hOrderly.fresh key g hSome])
    · rw [hMembers] at hMember
      refine ⟨?_, .inr ⟨t, m, hMember, hMode⟩⟩
      rintro rfl
      exact hOrderly.apart g.id g t g m hPending hMember rfl
  · rintro ⟨hOther, ⟨key, hSome⟩ | ⟨t, m, hMember, hMode⟩⟩
    · refine .inl ⟨key, ?_⟩
      rw [hAfter, if_neg, hSome]
      rintro rfl
      exact hOther (Option.some.inj (hSome.symm.trans hPending))
    · exact .inr ⟨t, m, (hMembers t).trans hMember, hMode⟩

/-- What giving up an entry is to the factories that are there, if it leaves the tasks alone and
takes out an unstarted factory with its booking. -/
theorem Orderly.muster_given (hOrderly : h.Orderly) {op : Op} {key : FactoryId} {e : Entry}
    (hOp : op = .remove key ∨ op = .dismiss key) (hEntry : h.entry? key = some e)
    (hTicket : ∀ k, h.pending? key = some k → k.ticket = some ⟨key⟩)
    (hOffice : h'.office = h.office.release (e.pending.bind Factory.ticket))
    (hMembers : ∀ t, h'.pool.member? t = h.pool.member? t)
    (hOther : ∀ c, c ≠ key → h'.entry? c = h.entry? c) (hNone : h'.pending? key = none)
    (hNext : h'.entries.nextKey = h.entries.nextKey) : Muster h op h' := by
  have hElsewhere (c : FactoryId) (hc : c ≠ key) : h'.pending? c = h.pending? c := by
    rw [pending?, hOther c hc]
    rfl
  have hBefore := pending?_of_entry hEntry
  cases hPending : e.pending with
  | none =>
    refine .kept (live_congr (fun c => ?_) hMembers) (by rw [hOffice, hPending]; rfl) hNext
    by_cases hc : c = key
    · rw [hc, hNone, hBefore, hPending]
    · exact hElsewhere c hc
  | some f =>
    rw [hPending] at hBefore
    obtain rfl : f.id = key := by rw [hOrderly.fresh key f hBefore]
    refine .given f hOp hBefore (hOrderly.live_given hBefore (fun c => ?_) hMembers) ?_ hNext
    · split
      · next hc => rw [hc, hNone]
      · next hc => exact hElsewhere c hc
    · rw [hOffice, hPending, Option.bind_some, hTicket f hBefore]
      rfl

theorem muster_remove (hOrderly : h.Orderly)
    (hTicket : ∀ key k, h.pending? key = some k → k.ticket = some ⟨key⟩) (f : FactoryId) :
    Muster h (.remove f) (h.perform (.remove f)) := by
  cases hEntry : h.entry? f with
  | none =>
    rw [perform_remove_none hEntry]
    exact .refl h
  | some e =>
    have hAfter := entry?_remove hOrderly.shelf hEntry
    refine hOrderly.muster_given (.inl rfl) hEntry (hTicket f) (office_remove hEntry)
      (alike_remove hOrderly.pool hEntry).members (fun c hc => ?_) ?_ ?_
    · rw [hAfter, if_neg hc]
    · rw [pending?, hAfter, if_pos rfl]
      rfl
    · rw [entries_remove hEntry, Shelf.nextKey_remove]

theorem muster_dismiss (hOrderly : h.Orderly)
    (hTicket : ∀ key k, h.pending? key = some k → k.ticket = some ⟨key⟩) (f : FactoryId) :
    Muster h (.dismiss f) (h.perform (.dismiss f)) := by
  cases hEntry : h.entry? f with
  | none =>
    rw [perform_dismiss_none hEntry]
    exact .refl h
  | some e =>
    have hAfter := entry?_dismiss hEntry
    refine hOrderly.muster_given (.inr rfl) hEntry (hTicket f) (office_dismiss hEntry)
      (alike_dismiss hOrderly.pool hEntry).members (fun c hc => ?_) ?_ ?_
    · rw [hAfter, if_neg fun hBoth => hc hBoth.1]
    · rw [pending?, hAfter]
      split
      · rfl
      · next hNot =>
        rw [hEntry, Option.bind_some]
        simpa using hNot
    · rw [entries_dismiss hEntry]
      split <;> rfl

theorem perform_muster (hOrderly : h.Orderly)
    (hTicket : ∀ key k, h.pending? key = some k → k.ticket = some ⟨key⟩) (op : Op)
    (hOpen : (h.perform op).office.isOpen = true) : Muster h op (h.perform op) := by
  cases op with
  | createSlot => exact .of_entries rfl (fun _ => rfl) rfl
  | removeSlot s => exact .of_entries rfl (fun _ => rfl) rfl
  | createFactory name cacheName slot =>
    rw [perform_createFactory]
    split
    · exact .refl h
    · next hSlot =>
      exact .enrolled name cacheName slot rfl (mt Option.isNone_iff_eq_none.mpr hSlot) rfl
  | register f c =>
    rw [perform, register]
    split
    · exact .refl h
    · exact .of_entries rfl (fun _ => rfl) rfl
  | closeInbox f =>
    rw [perform]
    split
    · exact .of_entries rfl (fun _ => rfl) rfl
    · exact .refl h
  | wake f =>
    rw [perform, wake]
    split
    · next t _ =>
      exact .of_entries rfl (alike_ask hOrderly.pool (.signal t Factory.wakeup)).members rfl
    · exact .refl h
  | start f => exact muster_start hOrderly f
  | take => exact muster_take hOrderly
  | detach f => exact muster_detach h f
  | remove f => exact muster_remove hOrderly hTicket f
  | dismiss f => exact muster_dismiss hOrderly hTicket f
  | markShutDown => exact .of_entries rfl (fun _ => rfl) rfl
  | close => cases hOpen

/-- The book of a hub lists the factories that are there, each under its own number. -/
structure Attended (h : Hub) : Prop where
  shelf : h.office.bookings.shelf.Valid
  next : h.office.bookings.shelf.nextKey = h.entries.nextKey
  ticket : ∀ f, h.Live f → f.ticket = some ⟨f.id⟩
  booked : ∀ k name, h.office.bookings.shelf.get? k = some name ↔
    ∃ f, h.Live f ∧ f.id = k ∧ f.name = name
  survives : ∀ t f m, h.pool.member? t = some (f, m) → m ≠ .lost

theorem attended_initial (settings : HubSettings) : ({ settings } : Hub).Attended := by
  have hNobody (f : Factory) : ¬ ({ settings } : Hub).Live f := by
    rintro (⟨key, hPending⟩ | ⟨t, m, hMember, _⟩)
    · cases hPending
    · cases hMember
  constructor
  · exact Shelf.valid_empty
  · rfl
  · exact fun f hLive => (hNobody f hLive).elim
  · intro k name
    constructor
    · intro hSome
      cases hSome
    · rintro ⟨f, hLive, _⟩
      exact (hNobody f hLive).elim
  · intro t f m hMember
    cases hMember

theorem Attended.of_live (hAttended : h.Attended) (hLive : ∀ g, h'.Live g ↔ h.Live g)
    (hBookings : h'.office.bookings = h.office.bookings)
    (hNext : h'.entries.nextKey = h.entries.nextKey)
    (hSurvives : ∀ t f m, h'.pool.member? t = some (f, m) → m ≠ .lost) : h'.Attended := by
  constructor
  · exact hBookings ▸ hAttended.shelf
  · rw [hBookings, hNext]
    exact hAttended.next
  · exact fun f hF => hAttended.ticket f ((hLive f).mp hF)
  · intro k name
    simp only [hBookings, hLive]
    exact hAttended.booked k name
  · exact hSurvives

theorem live_withNewcomer (hOrderly : h.Orderly) (name cacheName : String) (slot : SlotId)
    (g : Factory) : (h.withNewcomer name cacheName slot).Live g ↔
      g = h.newcomer name cacheName slot ∨ h.Live g := by
  have hEntry := entry?_withNewcomer hOrderly name cacheName slot
  have hAfter (c : FactoryId) : (h.withNewcomer name cacheName slot).pending? c =
      if c = h.entries.nextKey then some (h.newcomer name cacheName slot) else h.pending? c := by
    rw [pending?, hEntry]
    split <;> rfl
  constructor
  · rintro (⟨c, hSome⟩ | hMember)
    · rw [hAfter] at hSome
      split at hSome
      · exact .inl (Option.some.inj hSome).symm
      · exact .inr (.inl ⟨c, hSome⟩)
    · exact .inr (.inr hMember)
  · rintro (rfl | ⟨c, hSome⟩ | hMember)
    · exact .inl ⟨h.entries.nextKey, by rw [hAfter, if_pos rfl]⟩
    · refine .inl ⟨c, ?_⟩
      rw [hAfter, if_neg, hSome]
      rintro rfl
      rw [pending?, Hub.entry?, hOrderly.shelf.get?_nextKey] at hSome
      cases hSome
    · exact .inr hMember

theorem Attended.enroll (hAttended : h.Attended) (hOrderly : h.Orderly)
    (name cacheName : String) (slot : SlotId) :
    (h.withNewcomer name cacheName slot).Attended := by
  have hLive := live_withNewcomer hOrderly name cacheName slot
  have hGet (k : Nat) : (h.withNewcomer name cacheName slot).office.bookings.shelf.get? k =
      if k = h.entries.nextKey then some name else h.office.bookings.shelf.get? k := by
    rw [← hAttended.next]
    exact hAttended.shelf.get?_add name k
  constructor
  · exact hAttended.shelf.add name
  · exact (Shelf.nextKey_add _ _).trans
      ((congrArg (· + 1) hAttended.next).trans (Shelf.nextKey_add _ _).symm)
  · intro f hF
    rcases (hLive f).mp hF with rfl | hOld
    · rw [newcomer, Tasks.Bookings.ticket_add, hAttended.next]
    · exact hAttended.ticket f hOld
  · intro k other
    rw [hGet]
    constructor
    · intro hSome
      split at hSome
      · next hk =>
        cases hSome
        exact ⟨_, (hLive _).mpr (.inl rfl), hk.symm, rfl⟩
      · obtain ⟨f, hF, hId, hName⟩ := (hAttended.booked k other).mp hSome
        exact ⟨f, (hLive f).mpr (.inr hF), hId, hName⟩
    · rintro ⟨f, hF, rfl, rfl⟩
      rcases (hLive f).mp hF with rfl | hOld
      · exact if_pos rfl
      · have hSome := (hAttended.booked f.id f.name).mpr ⟨f, hOld, rfl, rfl⟩
        have hOther : f.id ≠ h.entries.nextKey := by
          rw [← hAttended.next]
          exact Nat.ne_of_lt (hAttended.shelf.get?_lt hSome)
        rw [if_neg hOther, hSome]
  · exact hAttended.survives

/-- A booking that is released is that of a factory that was there and is not any more. -/
theorem Attended.release (hAttended : h.Attended) (hOrderly : h.Orderly) (hF : h.Live f)
    (hLive : ∀ g, h'.Live g ↔ g ≠ f ∧ h.Live g)
    (hBookings : h'.office.bookings = h.office.bookings.release ⟨f.id⟩)
    (hNext : h'.entries.nextKey = h.entries.nextKey)
    (hSurvives : ∀ t f m, h'.pool.member? t = some (f, m) → m ≠ .lost) : h'.Attended := by
  have hGet (k : Nat) : h'.office.bookings.shelf.get? k =
      if k = f.id then none else h.office.bookings.shelf.get? k := by
    rw [hBookings]
    exact hAttended.shelf.get?_remove f.id k
  constructor
  · rw [hBookings]
    exact hAttended.shelf.remove f.id
  · rw [hBookings, hNext, ← hAttended.next]
    exact Shelf.nextKey_remove _ _
  · exact fun g hG => hAttended.ticket g ((hLive g).mp hG).2
  · intro k name
    rw [hGet]
    constructor
    · intro hSome
      split at hSome
      · cases hSome
      next hk =>
      obtain ⟨g, hG, hId, hName⟩ := (hAttended.booked k name).mp hSome
      refine ⟨g, (hLive g).mpr ⟨?_, hG⟩, hId, hName⟩
      rintro rfl
      exact hk hId.symm
    · rintro ⟨g, hG, rfl, rfl⟩
      obtain ⟨hOther, hOld⟩ := (hLive g).mp hG
      rw [if_neg fun hId => hOther (hOrderly.staff_unique hOld.staff hF.staff hId)]
      exact (hAttended.booked g.id g.name).mpr ⟨g, hOld, rfl, rfl⟩
  · exact hSurvives

theorem Attended.replace (hAttended : h.Attended) (hOrderly : h.Orderly) {f' : Factory}
    (hF : h.Live f) (hLive : ∀ g, h'.Live g ↔ g = f' ∨ h.Live g ∧ g.id ≠ f.id)
    (hId : f'.id = f.id) (hName : f'.name = f.name) (hTicket : f'.ticket = f.ticket)
    (hBookings : h'.office.bookings = h.office.bookings)
    (hNext : h'.entries.nextKey = h.entries.nextKey)
    (hSurvives : ∀ t f m, h'.pool.member? t = some (f, m) → m ≠ .lost) : h'.Attended := by
  constructor
  · rw [hBookings]
    exact hAttended.shelf
  · rw [hBookings, hNext]
    exact hAttended.next
  · intro g hG
    rcases (hLive g).mp hG with rfl | ⟨hOld, _⟩
    · rw [hTicket, hId]
      exact hAttended.ticket f hF
    · exact hAttended.ticket g hOld
  · intro k name
    rw [hBookings, hAttended.booked]
    constructor
    · rintro ⟨g, hG, rfl, rfl⟩
      by_cases hSame : g.id = f.id
      · obtain rfl := hOrderly.staff_unique hG.staff hF.staff hSame
        exact ⟨f', (hLive f').mpr (.inl rfl), hId, hName⟩
      · exact ⟨g, (hLive g).mpr (.inr ⟨hG, hSame⟩), rfl, rfl⟩
    · rintro ⟨g, hG, rfl, rfl⟩
      rcases (hLive g).mp hG with rfl | ⟨hOld, _⟩
      · exact ⟨f, hF, hId.symm, hName.symm⟩
      · exact ⟨g, hOld, rfl, rfl⟩
  · exact hSurvives

theorem Attended.unstarted (hAttended : h.Attended) (hOrderly : h.Orderly) (key : FactoryId)
    (k : Factory) (hPending : h.pending? key = some k) : k.ticket = some ⟨key⟩ := by
  obtain rfl : k.id = key := by rw [hOrderly.fresh key k hPending]
  exact hAttended.ticket k (.inl ⟨k.id, hPending⟩)

theorem Attended.survives_perform (hAttended : h.Attended) (hOrderly : h.Orderly) (op : Op)
    (t : TaskId) (f : Factory) (m : Mode State)
    (hMember : (h.perform op).pool.member? t = some (f, m)) : m ≠ .lost := by
  cases perform_change hOrderly op with
  | started key k hFactory hMembers =>
    rw [hMembers] at hMember
    split at hMember
    · cases hMember
      exact nofun
    · exact hAttended.survives t f m hMember
  | enrolled k hFresh hAlike => exact hAttended.survives t f m (hAlike.members t ▸ hMember)
  | registered k c hKnown hAlike => exact hAttended.survives t f m (hAlike.members t ▸ hMember)
  | closed k hKnown hAlike => exact hAttended.survives t f m (hAlike.members t ▸ hMember)
  | shed hAlike => exact hAttended.survives t f m (hAlike.members t ▸ hMember)

theorem attended_perform (hAttended : h.Attended) (hOrderly : h.Orderly) (op : Op)
    (hOpen : (h.perform op).office.isOpen = true) : (h.perform op).Attended := by
  have hSurvives := hAttended.survives_perform hOrderly op
  cases perform_muster hOrderly (hAttended.unstarted hOrderly) op hOpen with
  | kept hLive hBookings hNext => exact hAttended.of_live hLive hBookings hNext hSurvives
  | enrolled name cacheName slot hOp hSlot hHub =>
    rw [hHub]
    exact hAttended.enroll hOrderly name cacheName slot
  | given f hOp hPending hLive hBookings hNext =>
    exact hAttended.release hOrderly (.inl ⟨f.id, hPending⟩) hLive hBookings hNext hSurvives

end Hub

namespace Plant

variable {κ : Type} {compiler : Compiler κ} {first p p' : Plant κ} {i j : Nat} {h h' : Hub}

section Works

variable {w' : Factory.Floor κ} {t : TaskId} {f f' : Factory} {mode mode' : Mode State}

/-- A step of a worker keeps all factories there, except that the one that signs off leaves. -/
theorem Works.live (hWorks : Works compiler p i j p' h h' w' t f mode f' mode')
    (hOrderly : h.Orderly) (g : Factory) : h'.Live g ↔
      g = f' ∧ mode' ≠ .left ∨ h.Live g ∧ g.id ≠ f.id := by
  constructor
  · rintro (⟨key, hSome⟩ | ⟨u, m, hMember, hMode⟩)
    · rw [hWorks.pending?] at hSome
      refine .inr ⟨.inl ⟨key, hSome⟩, fun hId => ?_⟩
      obtain rfl : g.id = key := by rw [hOrderly.fresh key g hSome]
      exact hOrderly.apart g.id g t f mode hSome hWorks.member hId.symm
    · rw [hWorks.members] at hMember
      split at hMember
      · cases hMember
        exact .inl ⟨rfl, hMode⟩
      · next hu => exact .inr ⟨.inr ⟨u, m, hMember, hMode⟩, hWorks.other hOrderly hu hMember⟩
  · rintro (⟨rfl, hMode⟩ | ⟨⟨key, hSome⟩ | ⟨u, m, hMember, hMode⟩, hOther⟩)
    · exact .inr ⟨t, mode', by rw [hWorks.members, if_pos rfl], hMode⟩
    · exact .inl ⟨key, by rw [hWorks.pending?, hSome]⟩
    · refine .inr ⟨u, m, ?_, hMode⟩
      rw [hWorks.members, if_neg, hMember]
      rintro rfl
      rw [hWorks.member] at hMember
      cases hMember
      exact hOther rfl

theorem Works.survives (hWorks : Works compiler p i j p' h h' w' t f mode f' mode')
    (hAttended : h.Attended) (u : TaskId) (g : Factory) (m : Mode State)
    (hMember : h'.pool.member? u = some (g, m)) : m ≠ .lost := by
  rw [hWorks.members] at hMember
  split at hMember
  · cases hMember
    exact hWorks.passage.survives (hAttended.survives t f mode hWorks.member)
  · exact hAttended.survives u g m hMember

theorem Works.attended (hWorks : Works compiler p i j p' h h' w' t f mode f' mode')
    (hOrderly : h.Orderly) (hAttended : h.Attended) : h'.Attended := by
  have hSurvives := hWorks.survives hAttended
  have hLive := hWorks.live hOrderly
  have hNext : h'.entries.nextKey = h.entries.nextKey := by rw [hWorks.entries]
  have hThere (hMode : mode ≠ .left) : h.Live f := .inr ⟨t, mode, hWorks.member, hMode⟩
  rcases hWorks.passage.bookings_cases with ⟨rfl, rfl, hBookings⟩ |
    ⟨hMode, hMode', hTicket, hBookings⟩ | ⟨hMode, rfl, hBookings⟩
  · refine hAttended.of_live (Hub.live_congr hWorks.pending? fun u => ?_) ?_ hNext hSurvives
    · rw [hWorks.members]
      split
      · next hu => rw [hu, hWorks.member]
      · rfl
    · rw [hWorks.office]
      exact hBookings
  · refine hAttended.replace hOrderly (hThere hMode) ?_ hWorks.passage.identity.1
      hWorks.passage.name hTicket ?_ hNext hSurvives
    · intro g
      rw [hLive, and_iff_left hMode']
    · rw [hWorks.office]
      exact hBookings
  · refine hAttended.release hOrderly (hThere hMode) ?_ ?_ hNext hSurvives
    · intro g
      rw [hLive]
      constructor
      · rintro (⟨_, hNot⟩ | ⟨hOld, hOther⟩)
        · exact absurd rfl hNot
        · exact ⟨fun hSame => hOther (congrArg Factory.id hSame), hOld⟩
      · rintro ⟨hOther, hOld⟩
        exact .inr ⟨hOld, fun hId =>
          hOther (hOrderly.staff_unique hOld.staff (hThere hMode).staff hId)⟩
    · rw [hWorks.office, hBookings, hAttended.ticket f (hThere hMode)]
      rfl

end Works

section Runs

variable {limit : Option Nat} {k : κ} {settings : List HubSettings}

theorem Run.attended (r : Run compiler (founded limit k settings) p) (hHub : p.hub? i = some h)
    (hOpen : h.office.isOpen = true) : h.Attended := by
  refine r.along_open_hub (P := fun _ h => h.Attended) ?_ ?_ ?_ ?_ hHub hOpen
  · exact Hub.attended_initial
  · exact fun r m hMove h hElsewhere ih => ih
  · intro p p' r op hMove h hHub hOpen hOpen' ih
    exact Hub.attended_perform ih (r.orderly i h hHub) op hOpen'
  · intro p p' r j hMove h h' w' t f f' mode mode' hOpen hWorks ih
    exact hWorks.attended (r.orderly i h hWorks.hub) ih

end Runs

end Plant

end PipelineForge
