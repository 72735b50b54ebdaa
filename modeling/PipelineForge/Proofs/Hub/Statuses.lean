import PipelineForge.Proofs.Hub.Tallies

/-!
# Statuses of factories

A factory is created, started and judged in this order: its status follows the operations of the
owner and the event of its end, which is sent once and after all of its pipelines. A factory that
is given up unstarted is judged at once. What the workers do in between makes no difference here.
-/

namespace PipelineForge

open Factory (Event Report State endingsIn madeIn sentIn)
open Tasks (Mode TaskId)

def Status.verdict (report : Report) : Option ForgeError → Status
  | none => .finished report
  | some error => .failed error report

namespace Hub

def status? (h : Hub) (g : FactoryId) : Option Status := (h.entry? g).map Entry.status

/-- What an operation does to the entry of a factory. -/
inductive Turnover (h : Hub) (op : Op) (h' : Hub) (g : FactoryId) : Prop where
  | kept (hStatus : h'.status? g = h.status? g) (hPending : h'.pending? g = h.pending? g)
  | enrolled (name cacheName : String) (slot : SlotId)
      (hOp : op = .createFactory name cacheName slot) (hNew : g = h.entries.nextKey)
      (hBefore : h.status? g = none) (hStatus : h'.status? g = some .created)
  | started (hOp : op = .start g) (hFactory : (h.pending? g).isSome = true)
      (hStatus : h'.status? g = some .running) (hPending : h'.pending? g = none)
  | ended (report : Report) (failure : Option ForgeError) (cache : Option CacheId)
      (events : List Event) (hOp : op = .take)
      (hEvents : h.office.events = .ended g report failure cache :: events)
      (hListed : (op.entry h).update.finished = [g]) (hBefore : h.status? g ≠ none)
      (hStatus : h'.status? g = some (.verdict report failure))
      (hPending : h'.pending? g = h.pending? g)
  | dismissed (hOp : op = .dismiss g) (hFactory : (h.pending? g).isSome = true)
      (hStatus : h'.status? g = some (.failed .aborted {})) (hPending : h'.pending? g = none)
  | dropped (hOp : op = .remove g ∨ op = .close) (hStatus : h'.status? g = none)
      (hPending : h'.pending? g = none)

variable {h h' : Hub} {g : FactoryId}

theorem status?_of_entry {e : Entry} (hEntry : h.entry? g = some e) :
    h.status? g = some e.status := congrArg (Option.map Entry.status) hEntry

theorem Turnover.of_entry {op : Op} (hEntry : h'.entry? g = h.entry? g) : Turnover h op h' g :=
  .kept (congrArg (Option.map Entry.status) hEntry)
    (congrArg (Option.bind · Entry.pending) hEntry)

theorem Turnover.of_entries {op : Op} (hEntries : h'.entries = h.entries) : Turnover h op h' g :=
  .of_entry (congrArg (Shelf.get? · g) hEntries)

theorem turnover_start (h : Hub) (f g : FactoryId) :
    Turnover h (.start f) (h.perform (.start f)) g := by
  rcases h.perform_start_cases f with hSame | ⟨e, factory, line, hEntry, hFactory, hStart⟩
  · rw [hSame]
    exact .of_entries rfl
  · rw [hStart]
    let e' : Entry := { e with
      pending := none, task := some (h.pool.run factory .start).2, status := .running }
    have hAfter : Hub.entry? ((h.launch f e factory).write line) g =
        if g = f then some e' else h.entry? g := by
      refine (Hub.entry?_setEntry { h with pool := (h.pool.run factory .start).1 } f e' g).trans ?_
      split
      · exact congrArg (Option.map _) hEntry
      · rfl
    by_cases hg : g = f
    · subst hg
      rw [if_pos rfl] at hAfter
      refine .started rfl ?_ (status?_of_entry hAfter) (pending?_of_entry hAfter)
      rw [pending?_of_entry hEntry, hFactory]
      rfl
    · rw [if_neg hg] at hAfter
      exact .of_entry hAfter

theorem turnover_ended {f : FactoryId} {report : Report} {failure : Option ForgeError}
    {cache : Option CacheId} {events : List Event}
    (hEvents : h.office.events = .ended f report failure cache :: events) (g : FactoryId) :
    Turnover h .take (h.perform .take) g := by
  have hUpdate := congrArg Chronicle.update (entry_take hEvents)
  rw [perform_take_cons hEvents]
  simp only [applyEvent, conclude] at hUpdate ⊢
  cases hEntry : Hub.entry? { h with office := { h.office with events } } f with
  | none => exact .of_entries rfl
  | some e =>
    simp only [hEntry] at hUpdate ⊢
    have hEntry : h.entry? f = some e := hEntry
    by_cases hg : g = f
    · subst hg
      refine .ended report failure cache events rfl hEvents ?_ ?_ ?_ ?_
      · rw [hUpdate]
        rfl
      · rw [status?_of_entry hEntry]
        exact Option.some_ne_none _
      · rw [status?, Hub.entry?_setEntry, if_pos rfl]
        exact (congrArg (Option.map Entry.status)
          (congrArg (Option.map fun _ => _) hEntry)).trans (by cases failure <;> rfl)
      · rw [pending?_setEntry (h := { h with office := { h.office with events } }) hEntry,
          if_pos rfl, pending?_of_entry hEntry]
    · refine .of_entry ?_
      rw [Hub.entry?_setEntry, if_neg hg]
      rfl

theorem turnover_take (h : Hub) (g : FactoryId) : Turnover h .take (h.perform .take) g := by
  cases hEvents : h.office.events with
  | nil =>
    rw [perform_take_nil hEvents]
    exact .of_entries rfl
  | cons event events =>
    cases event with
    | made f s p =>
      rw [perform_take_cons hEvents, applyEvent, deliver]
      split
      · exact .of_entries rfl
      · split
        · exact .of_entries rfl
        · exact .of_entries rfl
    | ended f report failure cache => exact turnover_ended hEvents g

theorem turnover_detach (h : Hub) (f g : FactoryId) :
    Turnover h (.detach f) (h.perform (.detach f)) g := by
  rw [perform, detach]
  split
  · exact .of_entries rfl
  · next e hEntry =>
    by_cases hg : g = f
    · subst hg
      refine .kept ?_ ?_
      · rw [status?, Hub.entry?_setEntry, if_pos rfl, hEntry, status?_of_entry hEntry]
        rfl
      · rw [pending?_setEntry hEntry, if_pos rfl, pending?_of_entry hEntry]
    · refine .of_entry ?_
      rw [Hub.entry?_setEntry, if_neg hg]

theorem turnover_remove (hOrderly : h.Orderly) (f g : FactoryId) :
    Turnover h (.remove f) (h.perform (.remove f)) g := by
  cases hEntry : h.entry? f with
  | none =>
    rw [perform_remove_none hEntry]
    exact .of_entries rfl
  | some e =>
    have hAfter := entry?_remove hOrderly.shelf hEntry g
    by_cases hg : g = f
    · subst hg
      rw [if_pos rfl] at hAfter
      refine .dropped (.inl rfl) ?_ ?_
      · rw [status?, hAfter]
        rfl
      · rw [pending?, hAfter]
        rfl
    · rw [if_neg hg] at hAfter
      exact .of_entry hAfter

theorem turnover_dismiss (h : Hub) (f g : FactoryId) :
    Turnover h (.dismiss f) (h.perform (.dismiss f)) g := by
  cases hEntry : h.entry? f with
  | none =>
    rw [perform_dismiss_none hEntry]
    exact .of_entries rfl
  | some e =>
    have hAfter := entry?_dismiss hEntry g
    by_cases hBoth : g = f ∧ e.pending.isSome = true
    · rw [if_pos hBoth] at hAfter
      obtain ⟨rfl, hPending⟩ := hBoth
      refine .dismissed rfl ?_ (status?_of_entry hAfter) (pending?_of_entry hAfter)
      rw [pending?_of_entry hEntry]
      exact hPending
    · rw [if_neg hBoth] at hAfter
      exact .of_entry hAfter

theorem perform_turnover (hOrderly : h.Orderly) (op : Op) (g : FactoryId) :
    Turnover h op (h.perform op) g := by
  cases op with
  | createSlot => exact .of_entries rfl
  | removeSlot s => exact .of_entries rfl
  | createFactory name cacheName slot =>
    rw [perform_createFactory]
    split
    · exact .of_entries rfl
    · have hAfter := entry?_withNewcomer hOrderly name cacheName slot g
      by_cases hg : g = h.entries.nextKey
      · rw [if_pos hg] at hAfter
        refine .enrolled name cacheName slot rfl hg ?_ (status?_of_entry hAfter)
        rw [hg, status?, Hub.entry?, hOrderly.shelf.get?_nextKey]
        rfl
      · rw [if_neg hg] at hAfter
        exact .of_entry hAfter
  | register f c =>
    rw [perform, register]
    split <;> exact .of_entries rfl
  | closeInbox f =>
    rw [perform]
    split <;> exact .of_entries rfl
  | wake f =>
    rw [perform, wake]
    split <;> exact .of_entries rfl
  | start f => exact turnover_start h f g
  | take => exact turnover_take h g
  | detach f => exact turnover_detach h f g
  | remove f => exact turnover_remove hOrderly f g
  | dismiss f => exact turnover_dismiss h f g
  | markShutDown => exact .of_entries rfl
  | close => exact .dropped (.inr rfl) rfl rfl

/-- What a move of the owner, or any other one, may do to the status of a factory. -/
inductive Promotes (h : Hub) (g : FactoryId) :
    Option Op → Option Status → Option Status → Prop where
  | kept (op : Option Op) (s : Option Status) : Promotes h g op s s
  | enrolled (name cacheName : String) (slot : SlotId) (hNew : g = h.entries.nextKey) :
      Promotes h g (some (.createFactory name cacheName slot)) none (some .created)
  | started : Promotes h g (some (.start g)) (some .created) (some .running)
  | ended (report : Report) (failure : Option ForgeError) (cache : Option CacheId)
      (events : List Event) (hEvents : h.office.events = .ended g report failure cache :: events)
      (hListed : (Op.take.entry h).update.finished = [g]) :
      Promotes h g (some .take) (some .running) (some (.verdict report failure))
  | dismissed : Promotes h g (some (.dismiss g)) (some .created) (some (.failed .aborted {}))
  | dropped (op : Op) (s : Status) (hOp : op = .remove g ∨ op = .close) :
      Promotes h g (some op) (some s) none

/-- A verdict stays, or goes with its entry, as long as no new factory gets its number. -/
theorem Promotes.lasts {op : Option Op} {before after : Option Status}
    (hPromotes : h.Promotes g op before after) (hKnown : op.isSome = true → g ≠ h.entries.nextKey)
    {s : Status} (hOver : s.Over) (hBefore : before = some s ∨ before = none) :
    after = some s ∨ after = none := by
  cases hPromotes with
  | kept => exact hBefore
  | enrolled name cacheName slot hNew => exact absurd hNew (hKnown rfl)
  | started =>
    rcases hBefore with hSame | hNone
    · exact absurd (Option.some.inj hSame).symm hOver.1
    · cases hNone
  | ended =>
    rcases hBefore with hSame | hNone
    · exact absurd (Option.some.inj hSame).symm hOver.2
    · cases hNone
  | dismissed =>
    rcases hBefore with hSame | hNone
    · exact absurd (Option.some.inj hSame).symm hOver.1
    · cases hNone
  | dropped => exact .inr rfl

/-- An unstarted factory is not judged yet, and a judged one has nothing to report any more. -/
structure Timely (h : Hub) : Prop where
  created : ∀ g, (h.pending? g).isSome = true → h.status? g = some .created
  judged : ∀ g s, h.status? g = some s → s.Over →
    ¬ h.Announced g ∧ ∀ t f m, h.pool.member? t = some (f, m) → f.id = g → f.Reported m

theorem timely_initial (settings : HubSettings) : ({ settings } : Hub).Timely := by
  constructor
  · intro g hSome
    cases hSome
  · intro g s hStatus
    cases hStatus

theorem Booked.pending?_of_created (hBooked : h.Booked) (hStatus : h.status? g = some .created) :
    (h.pending? g).isSome = true := by
  obtain ⟨e, hEntry, hCreated⟩ := Option.map_eq_some_iff.mp hStatus
  rw [pending?_of_entry hEntry]
  exact Option.isSome_iff_ne_none.mpr ((hBooked.entry g e hEntry).created hCreated)

section Timely

variable {sent : List Event} {c : Chronicle}

theorem Announced.endings (hAnnounced : h.Announced g) (hDelivered : h.Delivered c sent) :
    endingsIn g sent ≠ [] := by
  rw [hDelivered.endings g]
  exact List.append_ne_nil_of_right_ne_nil _ (endingsIn_ne_nil hAnnounced)

theorem Announced.of_perform {op : Op} (hOpen : (h.perform op).office.isOpen = true)
    (hAnnounced : (h.perform op).Announced g) : h.Announced g := by
  obtain ⟨report, failure, cache, hMem⟩ := hAnnounced
  refine ⟨report, failure, cache, ?_⟩
  rw [events_perform op hOpen]
  exact List.mem_append_right _ hMem

theorem Parted.not_pending (hParted : h.Parted sent) (hOrderly : h.Orderly)
    (hEnded : endingsIn g sent ≠ []) : (h.pending? g).isSome = false := by
  obtain ⟨t, f, m, hMember, hId, _⟩ := hParted.member_of_endings hEnded
  refine Bool.eq_false_iff.mpr fun hSome => ?_
  obtain ⟨f', hPending⟩ := Option.isSome_iff_exists.mp hSome
  exact hOrderly.apart g f' t f m hPending hMember hId

theorem Timely.running (hTimely : h.Timely) (hBooked : h.Booked) (hOrderly : h.Orderly)
    (hParted : h.Parted sent) (hDelivered : h.Delivered c sent) (hAnnounced : h.Announced g)
    {s : Status} (hStatus : h.status? g = some s) : s = .running := by
  have hStarted := hParted.not_pending hOrderly (hAnnounced.endings hDelivered)
  by_contra hNot
  refine (hTimely.judged g s hStatus ⟨?_, hNot⟩).1 hAnnounced
  rintro rfl
  rw [hBooked.pending?_of_created hStatus] at hStarted
  cases hStarted

theorem Turnover.promotes {op : Op} (hTurnover : Turnover h op h' g) (hTimely : h.Timely)
    (hBooked : h.Booked) (hOrderly : h.Orderly) (hParted : h.Parted sent)
    (hDelivered : h.Delivered c sent) : h.Promotes g (some op) (h.status? g) (h'.status? g) := by
  cases hTurnover with
  | kept hStatus => rw [hStatus]; exact .kept _ _
  | enrolled name cacheName slot hOp hNew hBefore hStatus =>
    rw [hOp, hBefore, hStatus]
    exact .enrolled name cacheName slot hNew
  | started hOp hFactory hStatus =>
    rw [hOp, hTimely.created g hFactory, hStatus]
    exact .started
  | ended report failure cache events hOp hEvents hListed hBefore hStatus =>
    subst hOp
    obtain ⟨s, hSome⟩ := Option.ne_none_iff_exists'.mp hBefore
    have hAnnounced : h.Announced g :=
      ⟨report, failure, cache, hEvents ▸ List.mem_cons_self⟩
    rw [hStatus, hSome, hTimely.running hBooked hOrderly hParted hDelivered hAnnounced hSome]
    exact .ended report failure cache events hEvents hListed
  | dismissed hOp hFactory hStatus =>
    rw [hOp, hTimely.created g hFactory, hStatus]
    exact .dismissed
  | dropped hOp hStatus =>
    rw [hStatus]
    cases h.status? g with
    | none => exact .kept _ _
    | some s => exact .dropped op s hOp

theorem Parted.over_take (hParted : h.Parted sent) (hDelivered : h.Delivered c sent)
    (hOrderly : h.Orderly) {report : Report} {failure : Option ForgeError}
    {cache : Option CacheId} {events : List Event}
    (hEvents : h.office.events = .ended g report failure cache :: events)
    (hOpen : (h.perform .take).office.isOpen = true) :
    ¬ (h.perform .take).Announced g ∧
      ∀ t f m, (h.perform .take).pool.member? t = some (f, m) → f.id = g → f.Reported m := by
  have hTaken : h.office.events =
      .ended g report failure cache :: (h.perform .take).office.events :=
    (events_perform .take hOpen).trans (by rw [entry_take hEvents]; rfl)
  constructor
  · intro hAgain
    have hOnce := hParted.length_endings g
    rw [hDelivered.endings g, hTaken, endingsIn_cons_ended, List.length_append,
      List.length_cons] at hOnce
    have hMore := List.length_pos_iff.mpr (endingsIn_ne_nil hAgain)
    omega
  · rintro t f m hMember rfl
    rw [(show Op.take.Closes from trivial).members hOrderly.pool] at hMember
    by_contra hNot
    have hAnnounced : h.Announced f.id := ⟨report, failure, cache, hEvents ▸ List.mem_cons_self⟩
    exact hAnnounced.endings hDelivered (hParted.unreported t f m hMember hNot)

theorem Timely.created_perform (hTimely : h.Timely) (hOrderly : h.Orderly)
    (hParted : h.Parted sent) (hDelivered : h.Delivered c sent) (op : Op)
    (hSome : ((h.perform op).pending? g).isSome = true) :
    (h.perform op).status? g = some .created := by
  have hAbsent (hPending : (h.perform op).pending? g = none) : False := by
    rw [hPending] at hSome
    cases hSome
  cases perform_turnover hOrderly op g with
  | kept hStatus hPending =>
    rw [hStatus]
    exact hTimely.created g (hPending ▸ hSome)
  | enrolled name cacheName slot hOp hNew hBefore hStatus => exact hStatus
  | ended report failure cache events hOp hEvents hListed hBefore hStatus hPending =>
    have hAnnounced : h.Announced g := ⟨report, failure, cache, hEvents ▸ List.mem_cons_self⟩
    have hStarted := hParted.not_pending hOrderly (hAnnounced.endings hDelivered)
    rw [hPending, hStarted] at hSome
    cases hSome
  | started hOp hFactory hStatus hPending => exact (hAbsent hPending).elim
  | dismissed hOp hFactory hStatus hPending => exact (hAbsent hPending).elim
  | dropped hOp hStatus hPending => exact (hAbsent hPending).elim

theorem Parted.over_dismiss (hParted : h.Parted sent) (hDelivered : h.Delivered c sent)
    (hOrderly : h.Orderly) (hFactory : (h.pending? g).isSome = true)
    (hOpen : (h.perform (.dismiss g)).office.isOpen = true) :
    ¬ (h.perform (.dismiss g)).Announced g ∧ ∀ t f m,
      (h.perform (.dismiss g)).pool.member? t = some (f, m) → f.id = g → f.Reported m := by
  have hSilent : endingsIn g sent = [] := by
    by_contra hEnded
    rw [hParted.not_pending hOrderly hEnded] at hFactory
    cases hFactory
  refine ⟨fun hAnnounced => (hAnnounced.of_perform hOpen).endings hDelivered hSilent, ?_⟩
  rintro t f m hMember rfl
  rw [(show (Op.dismiss f.id).Closes from trivial).members hOrderly.pool] at hMember
  obtain ⟨k, hPending⟩ := Option.isSome_iff_exists.mp hFactory
  exact absurd rfl (hOrderly.apart f.id k t f m hPending hMember)

theorem Timely.judged_perform (hTimely : h.Timely) (hOrderly : h.Orderly)
    (hParted : h.Parted sent) (hDelivered : h.Delivered c sent) (op : Op)
    (hOpen : (h.perform op).office.isOpen = true) {s : Status}
    (hStatus : (h.perform op).status? g = some s) (hOver : s.Over) :
    ¬ (h.perform op).Announced g ∧
      ∀ t f m, (h.perform op).pool.member? t = some (f, m) → f.id = g → f.Reported m := by
  cases perform_turnover hOrderly op g with
  | kept hSame =>
    rw [hSame] at hStatus
    obtain ⟨hQuiet, hMembers⟩ := hTimely.judged g s hStatus hOver
    refine ⟨fun hAnnounced => hQuiet (hAnnounced.of_perform hOpen), ?_⟩
    rintro t f m hMember rfl
    rcases member_perform hOrderly op hMember with hOld | ⟨hNew, _⟩
    · exact hMembers t f m hOld rfl
    · rw [hTimely.created f.id (by rw [hNew]; rfl)] at hStatus
      exact absurd (Option.some.inj hStatus).symm hOver.1
  | enrolled name cacheName slot hOp hNew hBefore hCreated =>
    rw [hCreated] at hStatus
    exact absurd (Option.some.inj hStatus).symm hOver.1
  | started hOp hFactory hRunning =>
    rw [hRunning] at hStatus
    exact absurd (Option.some.inj hStatus).symm hOver.2
  | ended report failure cache events hOp hEvents =>
    subst hOp
    exact hParted.over_take hDelivered hOrderly hEvents hOpen
  | dismissed hOp hFactory =>
    subst hOp
    exact hParted.over_dismiss hDelivered hOrderly hFactory hOpen
  | dropped hOp hNone =>
    rw [hNone] at hStatus
    cases hStatus

theorem timely_perform (hTimely : h.Timely) (hOrderly : h.Orderly)
    (hParted : h.Parted sent) (hDelivered : h.Delivered c sent) (op : Op)
    (hOpen : (h.perform op).office.isOpen = true) : (h.perform op).Timely := by
  constructor
  · exact fun g hSome => hTimely.created_perform hOrderly hParted hDelivered op hSome
  · exact fun g s hStatus hOver =>
      hTimely.judged_perform hOrderly hParted hDelivered op hOpen hStatus hOver

end Timely

theorem Orderly.isOpen_of_entry (hOrderly : h.Orderly) {e : Entry}
    (hEntry : h.entry? g = some e) : h.office.isOpen = true := by
  cases hOpen : h.office.isOpen with
  | true => rfl
  | false =>
    rw [Hub.entry?, hOrderly.empty hOpen] at hEntry
    cases hEntry

theorem length_inboxes_perform (hOrderly : h.Orderly) (op : Op) :
    h.office.inboxes.length ≤ (h.perform op).office.inboxes.length := by
  cases perform_change hOrderly op with
  | enrolled f hFresh hAlike hInboxes =>
    rw [hInboxes, List.length_append]
    exact Nat.le_add_right _ _
  | registered f c hKnown hAlike hInboxes => rw [hInboxes, List.length_set]
  | closed f hKnown hAlike hInboxes => rw [hInboxes, List.length_set]
  | started key f hFactory hMembers hBodies hInboxes => rw [hInboxes]
  | shed hAlike hInboxes => rw [hInboxes]

end Hub

namespace Plant

variable {κ : Type} {compiler : Compiler κ} {p p' : Plant κ} {i j : Nat} {h h' : Hub}

section Works

variable {w' : Factory.Floor κ} {t : TaskId} {f f' : Factory} {mode mode' : Mode State}

theorem Works.status? (hWorks : Works compiler p i j p' h h' w' t f mode f' mode')
    (g : FactoryId) : h'.status? g = h.status? g := by
  rw [Hub.status?, Hub.entry?, hWorks.entries]
  rfl

theorem Works.pending? (hWorks : Works compiler p i j p' h h' w' t f mode f' mode')
    (g : FactoryId) : h'.pending? g = h.pending? g := by
  rw [Hub.pending?, Hub.entry?, hWorks.entries]
  rfl

theorem Works.timely (hWorks : Works compiler p i j p' h h' w' t f mode f' mode')
    (hOpen : h.office.isOpen = true) (hTimely : h.Timely) : h'.Timely := by
  constructor
  · intro g hSome
    rw [hWorks.pending?] at hSome
    rw [hWorks.status?]
    exact hTimely.created g hSome
  · intro g s hStatus hOver
    rw [hWorks.status?] at hStatus
    obtain ⟨hQuiet, hMembers⟩ := hTimely.judged g s hStatus hOver
    constructor
    · rintro ⟨report, failure, cache, hMem⟩
      rw [hWorks.office, hWorks.passage.events] at hMem
      rcases List.mem_append.mp hMem with hOld | hNew
      · exact hQuiet ⟨report, failure, cache, hOld⟩
      · obtain ⟨hId, _, hNot⟩ := hWorks.passage.of_ended hNew
        exact hNot (hMembers t f mode hWorks.member hId.symm)
    · intro u k m hMember hId
      rw [hWorks.members] at hMember
      split at hMember
      · cases hMember
        have hReported := hMembers t f mode hWorks.member (hWorks.passage.identity.1 ▸ hId)
        rcases hWorks.passage.reported_or_same hOpen with ⟨hIff, _⟩ | ⟨hNot, _⟩
        · exact hIff.mpr hReported
        · exact absurd hReported hNot
      · exact hMembers u k m hMember hId

end Works

theorem Stir.length_inboxes {m : Move κ} (hStir : Stir compiler p m p' i h h')
    (hOrderly : h.Orderly) : h.office.inboxes.length ≤ h'.office.inboxes.length := by
  cases hStir with
  | spared hSame => rw [hSame]
  | owned op hm hOpen hPerform =>
    rw [hPerform]
    exact Hub.length_inboxes_perform hOrderly op
  | worked j w' t f f' mode mode' hm hWorks =>
    rw [hWorks.office]
    exact Nat.le_of_eq hWorks.passage.length_inboxes.symm

theorem move_op? {m : Move κ} (hMove : p.move compiler m = some p') {op : Hub.Op}
    (hOp : m.op? i = some op) : ∃ h, p.hub? i = some h ∧ h.office.isOpen = true := by
  cases m with
  | own k op' =>
    rw [Move.op?] at hOp
    split at hOp
    · next hk =>
      obtain ⟨h, hHub, hOpen, _⟩ := move_own hMove
      exact ⟨h, hk ▸ hHub, hOpen⟩
    · cases hOp
  | _ => cases hOp

section Runs

variable {limit : Option Nat} {k : κ} {settings : List HubSettings}

theorem Run.timely (r : Run compiler (founded limit k settings) p) (hHub : p.hub? i = some h)
    (hOpen : h.office.isOpen = true) : h.Timely := by
  refine r.along_open_hub (P := fun _ h => h.Timely) ?_ ?_ ?_ ?_ hHub hOpen
  · exact Hub.timely_initial
  · exact fun r m hMove h hElsewhere ih => ih
  · intro p p' r op hMove h hHub hOpen hOpen' ih
    exact Hub.timely_perform ih (r.orderly i h hHub) (r.parted hHub hOpen)
      (r.delivered hHub hOpen) op hOpen'
  · exact fun r j hMove h h' w' t f f' mode mode' hOpen hWorks ih => hWorks.timely hOpen ih

theorem Run.promotes (r : Run compiler (founded limit k settings) p) (hHub : p.hub? i = some h)
    {m : Move κ} (hMove : p.move compiler m = some p') (hAfter : p'.hub? i = some h')
    (g : FactoryId) : h.Promotes g (m.op? i) (h.status? g) (h'.status? g) := by
  obtain ⟨h'', hSame, hStir⟩ := stir_of_move r.orderly hMove hHub
  obtain rfl := Option.some.inj (hSame.symm.trans hAfter)
  cases hStir with
  | spared hSame => rw [hSame]; exact .kept _ _
  | owned op hm hOpen hPerform =>
    rw [hm, Move.op?, if_pos rfl, hPerform]
    exact (Hub.perform_turnover (r.orderly i h hHub) op g).promotes (r.timely hHub hOpen)
      (r.booked i h hHub) (r.orderly i h hHub) (r.parted hHub hOpen) (r.delivered hHub hOpen)
  | worked j w' t f f' mode mode' hm hWorks => rw [hWorks.status?]; exact .kept _ _

theorem Run.hub?_lasts (r : Run compiler (founded limit k settings) p) (hHub : p.hub? i = some h)
    (r' : Run compiler p p') : ∃ h', p'.hub? i = some h' := by
  induction r' with
  | start => exact ⟨h, hHub⟩
  | next r' m hMove ih =>
    obtain ⟨h', hNow⟩ := ih
    obtain ⟨h'', hAfter, _⟩ := stir_of_move (r.trans r').orderly hMove hNow
    exact ⟨h'', hAfter⟩

/-- A factory that was judged keeps its status until it is removed, and does not come back. -/
theorem Run.status_lasts (r : Run compiler (founded limit k settings) p)
    (hHub : p.hub? i = some h) {g : FactoryId} {s : Status} (hStatus : h.status? g = some s)
    (hOver : s.Over) (r' : Run compiler p p') : ∃ h', p'.hub? i = some h' ∧
      (h'.status? g = some s ∨ h'.status? g = none) ∧ g < h'.office.inboxes.length := by
  induction r' with
  | start =>
    obtain ⟨e, hEntry, _⟩ := Option.map_eq_some_iff.mp hStatus
    refine ⟨h, hHub, .inl hStatus, ?_⟩
    rw [← (r.orderly i h hHub).keyed ((r.orderly i h hHub).isOpen_of_entry hEntry)]
    exact (r.orderly i h hHub).entry?_lt hEntry
  | @next p p' r' m hMove ih =>
    obtain ⟨h, hHub, hStatus, hKnown⟩ := ih
    have hOrderly := (r.trans r').orderly
    obtain ⟨h', hAfter, hStir⟩ := stir_of_move hOrderly hMove hHub
    refine ⟨h', hAfter, ?_, Nat.lt_of_lt_of_le hKnown (hStir.length_inboxes (hOrderly i h hHub))⟩
    refine ((r.trans r').promotes hHub hMove hAfter g).lasts (fun hOwned hNew => ?_) hOver hStatus
    -- The number of a new factory is one that no factory had.
    obtain ⟨op, hOp⟩ := Option.isSome_iff_exists.mp hOwned
    obtain ⟨_, hOwner, hOpen⟩ := move_op? hMove hOp
    obtain rfl := Option.some.inj (hHub.symm.trans hOwner)
    rw [hNew, (hOrderly i h hHub).keyed hOpen] at hKnown
    exact absurd hKnown (Nat.lt_irrefl _)

/-- A status only moves forward: from created to running when the factory is started, on to its
verdict when its end is taken, or from created to aborted when it is given up unstarted. It stays
so until the factory is removed, and the end of a factory is listed once at most. An end is taken
behind all the pipelines that it reports, and each pipeline goes into its slot when it is taken,
if the slot exists then. -/
theorem status_moves_forward (r : Run compiler (founded limit k settings) p)
    (hHub : p.hub? i = some h) (g : FactoryId) :
    (∀ m p' h', p.move compiler m = some p' → p'.hub? i = some h' →
      h.Promotes g (m.op? i) (h.status? g) (h'.status? g)) ∧
    (∀ s, h.status? g = some s → s.Over → ∀ p' h' (_ : Run compiler p p'), p'.hub? i = some h' →
      h'.status? g = some s ∨ h'.status? g = none) ∧
    (r.chronicle i).update.finished.count g ≤ 1 ∧
    (∀ report failure cache events, h.office.isOpen = true →
      h.office.events = .ended g report failure cache :: events →
      (madeIn g (r.chronicle i).taken).length = report.pipelines ∧
      ∀ p' (r' : Run compiler p p'), madeIn g (events ++ r'.sent i) = []) ∧
    (∀ s q events, h.office.events = .made g s q :: events → h.Delivers s q events) ∧
    (∀ s slot, h.office.isOpen = true → h.slot? s = some slot →
      slot.Collects (Hub.sentTo s (r.chronicle i).taken)) := by
  refine ⟨fun m p' h' hMove hAfter => r.promotes hHub hMove hAfter g, ?_,
    r.count_finished_le_one hHub g, ?_, fun s q events => Hub.delivers_of_events, ?_⟩
  · intro s hStatus hOver p' h' r' hAfter
    obtain ⟨h'', hSame, hLasts, _⟩ := r.status_lasts hHub hStatus hOver r'
    obtain rfl := Option.some.inj (hSame.symm.trans hAfter)
    exact hLasts
  · intro report failure cache events hOpen hEvents
    have hQueue := (r.delivered hHub hOpen).queue
    rw [hEvents] at hQueue
    have hSplit {p' : Plant κ} (r' : Run compiler p p') : (r.trans r').sent i =
        (r.chronicle i).taken ++ .ended g report failure cache :: (events ++ r'.sent i) := by
      rw [r.sent_trans, hQueue, List.append_assoc, List.cons_append]
    refine ⟨(r.summed hHub _ _ _ _ _ _ hQueue).1, fun p' r' => ?_⟩
    obtain ⟨h', hAfter⟩ := r.hub?_lasts hHub r'
    exact ((r.trans r').summed hAfter _ _ _ _ _ _ (hSplit r')).2
  · intro s slot hOpen hSlot
    have hMem := Hub.mem_of_slot? hSlot
    have hFold := (r.delivered hHub hOpen).slots (s, slot) (List.mem_append_left _ hMem)
    rw [← (r.stocked hHub hOpen).whole (s, slot) hMem, show slot = _ from hFold]
    exact Slot.collects_foldl _

end Runs

/-- Two pipelines are taken, and the end that tells so is the next event. -/
theorem status_moves_forward_removed :
    ∃ h report cache, removedRun.1.hub? 0 = some h ∧
      h.Promotes 0 (some .take) (some .running) (some (.finished report)) ∧
      h.office.events = [.ended 0 report none cache] ∧ report.pipelines = 2 ∧
      (madeIn 0 (removedRun.2.chronicle 0).taken).length = report.pipelines ∧
      (removedRun.2.chronicle 0).update.finished.count 0 ≤ 1 := by
  let report : Report := ⟨[.start, .setUp, .settled, .generate, .done], 2, 0, 2⟩
  have hFacts : (removedRun.1.hub? 0).map (fun h => (h.office.isOpen, h.office.events,
      h.status? 0, (h.perform .take).status? 0)) = some (true, [.ended 0 report none (some 0)],
      some .running, some (.finished report)) := by decide +kernel
  obtain ⟨h, hHub, hAll⟩ := Option.map_eq_some_iff.mp hFacts
  obtain ⟨hOpen, hRest⟩ := Prod.mk.inj hAll
  obtain ⟨hEvents, hRest⟩ := Prod.mk.inj hRest
  obtain ⟨hBefore, hAfter⟩ := Prod.mk.inj hRest
  obtain ⟨hPromotes, _, hOnce, hCount, _⟩ := status_moves_forward removedRun.2 hHub 0
  have hNext : (removedRun.1.setHub 0 (h.perform .take)).hub? 0 = some (h.perform .take) := by
    rw [hub?_setHub _ hHub, if_pos rfl]
  have hTake := hPromotes _ _ _ (move_of_open hHub hOpen .take) hNext
  rw [hBefore, hAfter] at hTake
  exact ⟨h, report, some 0, hHub, hTake, hEvents, rfl, (hCount _ _ _ _ hOpen hEvents).1, hOnce⟩

end Plant

end PipelineForge
