import PipelineForge.Proofs.Hub.Partings

/-!
# Settlements

A first shutdown settles a hub if no factory is booked any more when the wait ends: all that the
factories had to send was sent by then, so that the last update takes everything, and every entry
is over. How long the wait takes is open.
-/

namespace PipelineForge

open Factory (Event State endingsIn endingsIn_append sentIn)
open Tasks (Mode TaskId)

def Entry.abandoned (e : Entry) : Entry := { e with pending := none, status := .failed .aborted {} }

namespace Hub

def Op.Closes : Op → Prop
  | .dismiss _ | .take | .markShutDown => True
  | _ => False

/-- Nobody is left to send anything. -/
structure Deserted (h : Hub) : Prop where
  left : ∀ t f m, h.pool.member? t = some (f, m) → m = .left
  unmanned : ∀ key, h.pending? key = none

variable {h h' : Hub} {op : Op}

theorem Booked.deserted (hBooked : h.Booked) {sent : List Event} (hParted : h.Parted sent)
    (hIdle : h.office.bookings.isIdle = true) : h.Deserted := by
  have hFree := Tasks.Bookings.isIdle_iff.mp hIdle
  have hNone {f : Factory} (hStaff : h.Staff f) : f.ticket = none := by
    cases hTicket : f.ticket with
    | none => rfl
    | some t => exact absurd (hBooked.held f t hStaff hTicket) (hFree t)
  constructor
  · intro t f m hMember
    by_contra hMode
    exact hParted.booked t f m hMember hMode (hNone (.inr ⟨t, m, hMember⟩))
  · intro key
    by_contra hSome
    obtain ⟨f, hPending⟩ := Option.ne_none_iff_exists'.mp hSome
    obtain ⟨e, hEntry, hFactory⟩ := pending?_eq_some hPending
    exact (hBooked.entry key e hEntry).booked f hFactory (hNone (.inl ⟨key, hPending⟩))

theorem Deserted.perform (hDeserted : h.Deserted) (hOrderly : h.Orderly) (hNone : op.CreatesNone) :
    (h.perform op).Deserted := by
  cases perform_filing hOrderly op with
  | enrolled name cacheName slot hOp => exact absurd hOp (hNone name cacheName slot)
  | started key e e' f hEntry hPending =>
    have hUnmanned := hDeserted.unmanned key
    rw [pending?_of_entry hEntry, hPending] at hUnmanned
    cases hUnmanned
  | shed hEntries hMembers hBookings hAnnounced =>
    constructor
    · intro t f m hMember
      exact hDeserted.left t f m (hMembers t ▸ hMember)
    · intro key
      by_contra hSome
      obtain ⟨f, hPending⟩ := Option.ne_none_iff_exists'.mp hSome
      have hBefore := pending?_shed hEntries hPending
      rw [hDeserted.unmanned key] at hBefore
      cases hBefore

theorem Op.Closes.createsNone (hOp : op.Closes) : op.CreatesNone := by
  rintro name cacheName slot rfl
  exact hOp

theorem Op.Closes.members (hOp : op.Closes) (hSound : h.pool.Sound) (t : TaskId) :
    (h.perform op).pool.member? t = h.pool.member? t := by
  cases op with
  | dismiss f =>
    cases hEntry : h.entry? f with
    | none => rw [perform_dismiss_none hEntry]
    | some e => exact (alike_dismiss hSound hEntry).members t
  | take =>
    cases hEvents : h.office.events with
    | nil => rw [perform_take_nil hEvents]
    | cons e events => rw [perform_take_cons hEvents, (pool_applyEvent {} e).1]
  | markShutDown => rfl
  | _ => exact hOp.elim

theorem Op.Closes.isOpen (hOp : op.Closes) (h : Hub) :
    (h.perform op).office.isOpen = h.office.isOpen := by
  cases op with
  | dismiss f => exact h.isOpen_dismiss f
  | take => exact h.isOpen_take
  | markShutDown => rfl
  | _ => exact hOp.elim

theorem keys_applyEvent (h : Hub) (u : Update) (e : Event) :
    (h.applyEvent u e).1.entries.keys = h.entries.keys := by
  cases e with
  | made f s p =>
    simp only [applyEvent, deliver]
    split
    · rfl
    · split <;> rfl
  | ended f report failure cache =>
    simp only [applyEvent, conclude]
    split
    · rfl
    · exact Shelf.keys_set _ _ _

theorem Op.Closes.keys (hOp : op.Closes) : (h.perform op).entries.keys = h.entries.keys := by
  cases op with
  | dismiss f =>
    cases hEntry : h.entry? f with
    | none => rw [perform_dismiss_none hEntry]
    | some e =>
      rw [entries_dismiss hEntry]
      split
      · exact Shelf.keys_set _ _ _
      · rfl
  | take =>
    cases hEvents : h.office.events with
    | nil => rw [perform_take_nil hEvents]
    | cons e events =>
      rw [perform_take_cons hEvents]
      exact keys_applyEvent _ {} e
  | markShutDown => rfl
  | _ => exact hOp.elim

theorem entry?_take_of_quiet {g : FactoryId} (hQuiet : endingsIn g h.office.events = []) :
    Hub.entry? (h.perform .take) g = h.entry? g := by
  cases hEvents : h.office.events with
  | nil => rw [perform_take_nil hEvents]
  | cons e events =>
    rw [perform_take_cons hEvents]
    cases e with
    | made f s p =>
      simp only [applyEvent, deliver]
      split
      · rfl
      · split <;> rfl
    | ended f report failure cache =>
      have hg : g ≠ f := by
        rintro rfl
        rw [hEvents] at hQuiet
        simp [endingsIn] at hQuiet
      simp only [applyEvent, conclude]
      split
      · rfl
      · exact (entry?_setEntry _ _ _ _).trans (if_neg hg)

/-- A factory that never started is given up, and will not be heard of. -/
structure GivenUp (h : Hub) (g : FactoryId) (e : Entry) : Prop where
  entry : h.entry? g = some e
  absent : ∀ t f m, h.pool.member? t = some (f, m) → f.id ≠ g
  quiet : endingsIn g h.office.events = []

theorem GivenUp.perform {g : FactoryId} {e : Entry} (hGivenUp : h.GivenUp g e)
    (hSound : h.pool.Sound) (hOp : op = .take ∨ op = .markShutDown) :
    (h.perform op).GivenUp g e := by
  have hCloses : op.Closes := by rcases hOp with rfl | rfl <;> trivial
  constructor
  · rcases hOp with rfl | rfl
    · rw [entry?_take_of_quiet hGivenUp.quiet]
      exact hGivenUp.entry
    · exact hGivenUp.entry
  · intro t f m hMember
    rw [hCloses.members hSound] at hMember
    exact hGivenUp.absent t f m hMember
  · rcases hOp with rfl | rfl
    · cases hEvents : h.office.events with
      | nil =>
        rw [perform_take_nil hEvents]
        exact hGivenUp.quiet
      | cons e events =>
        rw [perform_take_cons hEvents, (pool_applyEvent {} e).2]
        have hQuiet := hGivenUp.quiet
        rw [hEvents, endingsIn, List.filterMap_eq_nil_iff] at hQuiet
        exact List.filterMap_eq_nil_iff.mpr fun e' he => hQuiet e' (List.mem_cons_of_mem e he)
    · exact hGivenUp.quiet

end Hub

namespace Plant

variable {κ : Type} {compiler : Compiler κ} {first p p' p₁ q : Plant κ} {i j : Nat} {h h' : Hub}

section Works

variable {w' : Factory.Floor κ} {t : TaskId} {f f' : Factory} {mode mode' : Mode State}

theorem Works.deserted (hWorks : Works compiler p i j p' h h' w' t f mode f' mode')
    (hDeserted : h.Deserted) : h'.Deserted ∧ sentIn (p.floorOf h) w' = [] := by
  obtain rfl := hDeserted.left t f mode hWorks.member
  obtain ⟨hSame, rfl, rfl⟩ := hWorks.passage.of_left
  refine ⟨⟨?_, ?_⟩, Factory.sentIn_of_events (by rw [hSame])⟩
  · intro u g m hMember
    rw [hWorks.members] at hMember
    split at hMember
    · cases hMember
      rfl
    · exact hDeserted.left u g m hMember
  · intro key
    rw [Hub.pending?, Hub.entry?, hWorks.entries]
    exact hDeserted.unmanned key

theorem Works.givenUp (hWorks : Works compiler p i j p' h h' w' t f mode f' mode')
    {g : FactoryId} {e : Entry} (hGivenUp : h.GivenUp g e) : h'.GivenUp g e := by
  have hWorker := hGivenUp.absent t f mode hWorks.member
  constructor
  · rw [Hub.entry?, hWorks.entries]
    exact hGivenUp.entry
  · intro u k m hMember
    rw [hWorks.members] at hMember
    split at hMember
    · cases hMember
      rw [hWorks.passage.identity.1]
      exact hWorker
    · exact hGivenUp.absent u k m hMember
  · have hEvents := hWorks.passage.events
    rw [hWorks.office, hEvents, endingsIn_append]
    exact congrArg₂ (· ++ ·) hGivenUp.quiet (hWorks.passage.sentIn_other (Ne.symm hWorker)).2

end Works

/-- Nothing is sent any more until a factory is created. -/
theorem Run.deserted (r : Run compiler p q) (hKept : p.Kept) (hDeserted : p.Has i Hub.Deserted)
    (hOps : ∀ op ∈ r.ops i, op.CreatesNone) : q.Has i Hub.Deserted ∧ r.sent i = [] := by
  induction r with
  | start => exact ⟨hDeserted, rfl⟩
  | @next p q r m hMove ih =>
    have hOld : ∀ op ∈ r.ops i, op.CreatesNone := fun op hMem =>
      hOps op (r.ops_next m hMove ▸ List.mem_append_left _ hMem)
    obtain ⟨⟨h, hHub, hBefore⟩, hSent⟩ := ih hOld
    have hKeptNow := (r.performs i).kept hKept
    obtain ⟨h', hAfter, hStir⟩ := stir_of_move hKeptNow.orderly hMove hHub
    cases hStir with
    | spared hSame hElsewhere =>
      rw [r.sent_of_elsewhere hMove hElsewhere]
      exact ⟨⟨h', hAfter, hSame ▸ hBefore⟩, hSent⟩
    | owned op hm hOpen hPerform =>
      subst hm hPerform
      rw [r.sent_of_quiet hMove rfl]
      have hNone : op.CreatesNone := hOps op (by simp [r.ops_own hMove])
      exact ⟨⟨_, hAfter, hBefore.perform (hKeptNow.orderly i h hHub) hNone⟩, hSent⟩
    | worked j w' t f f' mode mode' hm hWorks =>
      subst hm
      obtain ⟨hStill, hNothing⟩ := hWorks.deserted hBefore
      rw [r.sent_of_works hMove hWorks, hSent, hNothing]
      exact ⟨⟨h', hAfter, hStill⟩, rfl⟩

theorem entries_of_spares {m : Move κ} (hOrderly : p.Orderly)
    (hMove : p.move compiler m = some q) (hSpares : m.Spares i) (hHub : p.hub? i = some h) :
    ∃ h', q.hub? i = some h' ∧ h'.entries = h.entries := by
  obtain ⟨h', hAfter, hStir⟩ := stir_of_move hOrderly hMove hHub
  refine ⟨h', hAfter, ?_⟩
  cases hStir with
  | spared hSame hElsewhere => rw [hSame]
  | owned op hm hOpen hPerform =>
    subst hm
    exact absurd rfl hSpares
  | worked j w' t f f' mode mode' hm hWorks => exact hWorks.entries

/-- The dismissals of a shutdown give up each factory that was not started, whatever the workers
do meanwhile. -/
theorem Performs.dismissed {ks : List FactoryId}
    (hDismissed : Performs compiler i (ks.map .dismiss) p p') (hKept : p.Kept)
    (hHub : p.hub? i = some h) {g : FactoryId} {e : Entry} (hPending : e.pending.isSome = true)
    (hEntry : h.entry? g = some e ∧ g ∈ ks ∨ h.entry? g = some e.abandoned) :
    ∃ h', p'.hub? i = some h' ∧ h'.entry? g = some e.abandoned := by
  generalize hOps : ks.map Hub.Op.dismiss = ops at hDismissed
  induction hDismissed generalizing ks h with
  | done p =>
    obtain rfl := List.map_eq_nil_iff.mp hOps
    exact ⟨h, hHub, hEntry.resolve_left fun hBoth => List.not_mem_nil hBoth.2⟩
  | aside m hSpares hMove rest ih =>
    obtain ⟨h', hAfter, hEntries⟩ := entries_of_spares hKept.orderly hMove hSpares hHub
    refine ih (hKept.move hMove) hAfter ?_ hOps
    rw [Hub.entry?, hEntries]
    exact hEntry
  | perform hMove rest ih =>
    obtain ⟨k, ks, rfl, rfl, hRest⟩ := List.map_eq_cons_iff.mp hOps
    obtain ⟨h', hOwner, hOpen, rfl⟩ := move_own hMove
    obtain rfl := Option.some.inj (hHub.symm.trans hOwner)
    refine ih (hKept.move hMove) (by rw [hub?_setHub _ hHub, if_pos rfl]) ?_ hRest
    cases hOther : h.entry? k with
    | none =>
      rw [Hub.perform_dismiss_none hOther]
      refine hEntry.imp_left ?_
      rintro ⟨hSome, hMem⟩
      refine ⟨hSome, (List.mem_cons.mp hMem).resolve_left ?_⟩
      rintro rfl
      rw [hOther] at hSome
      cases hSome
    | some e' =>
      rw [Hub.entry?_dismiss hOther]
      by_cases hk : g = k
      · subst hk
        rcases hEntry with ⟨hSome, _⟩ | hSome
        · obtain rfl := Option.some.inj (hSome.symm.trans hOther)
          rw [if_pos ⟨rfl, hPending⟩]
          exact .inr rfl
        · obtain rfl := Option.some.inj (hSome.symm.trans hOther)
          rw [if_neg fun hBoth => Bool.false_ne_true hBoth.2]
          exact .inr hSome
      · rw [if_neg fun hBoth => hk hBoth.1]
        refine hEntry.imp_left ?_
        rintro ⟨hSome, hMem⟩
        exact ⟨hSome, (List.mem_cons.mp hMem).resolve_left hk⟩

section Closing

variable {r : Run compiler p q}

theorem Run.closing_isOpen (hOps : ∀ op ∈ r.ops i, op.Closes) (hKept : p.Kept)
    (hOpen : p.Has i fun h => h.office.isOpen = true) : q.Has i fun h => h.office.isOpen = true :=
  (r.preserves hKept hOps (fun h _ _ _ hOp hOpen => (hOp.isOpen h).trans hOpen)
    (fun hWorks hOpen => by rw [hWorks.office, hWorks.passage.isOpen]; exact hOpen) hOpen).2

theorem Run.closing_keys (hOps : ∀ op ∈ r.ops i, op.Closes) (hKept : p.Kept)
    (hHub : p.hub? i = some h) (hAfter : q.hub? i = some h') :
    h'.entries.keys = h.entries.keys := by
  obtain ⟨_, g, hSame, hKeys⟩ := r.preserves hKept hOps
    (P := fun g => g.entries.keys = h.entries.keys)
    (fun g _ _ _ hOp hKeys => hOp.keys.trans hKeys)
    (fun hWorks hKeys => by rw [hWorks.entries]; exact hKeys) ⟨h, hHub, rfl⟩
  obtain rfl := Option.some.inj (hSame.symm.trans hAfter)
  exact hKeys

theorem Run.closing_members (hOps : ∀ op ∈ r.ops i, op.Closes) (hKept : p.Kept)
    (hHub : p.hub? i = some h) (hAfter : q.hub? i = some h') (t : TaskId) :
    (h'.pool.member? t).map (·.1.id) = (h.pool.member? t).map (·.1.id) := by
  obtain ⟨_, g, hSame, hMember⟩ := r.preserves hKept hOps
    (P := fun g => (g.pool.member? t).map (·.1.id) = (h.pool.member? t).map (·.1.id))
    (fun g _ hOrderly _ hOp hSame => by rw [hOp.members hOrderly.pool]; exact hSame)
    (fun hWorks hSame => by
      rw [hWorks.members]
      split
      · next ht =>
        subst ht
        rw [hWorks.member] at hSame
        exact (congrArg some hWorks.passage.identity.1).trans hSame
      · exact hSame) ⟨h, hHub, rfl⟩
  obtain rfl := Option.some.inj (hSame.symm.trans hAfter)
  exact hMember

theorem Run.closing_givenUp (hOps : ∀ op ∈ r.ops i, op = .take ∨ op = .markShutDown)
    (hKept : p.Kept) {g : FactoryId} {e : Entry} (hBefore : p.Has i fun h => h.GivenUp g e) :
    q.Has i fun h => h.GivenUp g e :=
  (r.preserves hKept hOps (fun _ _ hOrderly _ hOp hGivenUp => hGivenUp.perform hOrderly.pool hOp)
    (fun hWorks hGivenUp => hWorks.givenUp hGivenUp) hBefore).2

end Closing

theorem Run.settled_events {p₂ : Plant κ} (u : Run compiler p p₂) (v : Run compiler p₂ q)
    (hUpdates : u.Updates i) (hMark : ∀ op ∈ v.ops i, op = .markShutDown) (hKept : p.Kept)
    (hOpen : p.Has i fun h => h.office.isOpen = true) (hDeserted : p.Has i Hub.Deserted) :
    q.Has i fun h => h.office.events = [] := by
  have hTakes : ∀ op ∈ u.ops i, op.CreatesNone := by
    intro op hMem
    rw [hUpdates.takes op hMem]
    exact fun _ _ _ => nofun
  obtain ⟨h, hHub, _, hNone⟩ := hUpdates.empties hKept hOpen
  obtain ⟨g, hSame, hStill⟩ := (u.deserted hKept hDeserted hTakes).1
  obtain rfl := Option.some.inj (hSame.symm.trans hHub)
  have hLast : q.Has i fun h => h.Deserted ∧ h.office.events = [] := by
    refine (v.preserves ((u.performs i).kept hKept) hMark ?_ ?_ ⟨g, hHub, hStill, hNone⟩).2
    · rintro h op hOrderly _ rfl ⟨hDeserted, hNone⟩
      exact ⟨hDeserted.perform hOrderly fun _ _ _ => nofun, hNone⟩
    · rintro p p' j h h' w' t f f' mode mode' hWorks ⟨hDeserted, hNone⟩
      obtain ⟨hStill, hNothing⟩ := hWorks.deserted hDeserted
      have hBefore : (p.floorOf h).office.events = [] := hNone
      refine ⟨hStill, ?_⟩
      rw [hWorks.office, hWorks.passage.events, hBefore, hNothing]
      rfl
  obtain ⟨h', hAfter, _, hEvents⟩ := hLast
  exact ⟨h', hAfter, hEvents⟩

theorem Op.closes_of_dismissals {ks : List FactoryId} :
    ∀ op ∈ ks.map Hub.Op.dismiss, op.Closes := by
  intro op hMem
  obtain ⟨g, _, rfl⟩ := List.mem_map.mp hMem
  trivial

theorem Run.dismissed_givenUp {limit : Option Nat} {k : κ} {settings : List HubSettings}
    (r : Run compiler (founded limit k settings) p) {h₁ : Hub} (hHub : p.hub? i = some h)
    (d : Run compiler p p₁) (hDismissed : d.ops i = h.entries.keys.map .dismiss)
    (hWaited : p₁.hub? i = some h₁) (hOpen : h₁.office.isOpen = true) {g : FactoryId} {e : Entry}
    (hEntry : h.entry? g = some e) (hPending : e.pending.isSome = true) :
    h₁.GivenUp g e.abandoned := by
  have hKept : p.Kept := ⟨r.orderly, r.booked⟩
  have hDismissals : Performs compiler i (h.entries.keys.map .dismiss) p p₁ :=
    hDismissed ▸ d.performs i
  obtain ⟨k₁, hSame, hAbandoned⟩ := hDismissals.dismissed hKept hHub hPending
    (.inl ⟨hEntry, Shelf.mem_keys_iff.mpr ⟨e, hEntry⟩⟩)
  obtain rfl := Option.some.inj (hSame.symm.trans hWaited)
  obtain ⟨factory, hFactory⟩ := Option.isSome_iff_exists.mp hPending
  have hBefore : h.pending? g = some factory := by rw [Hub.pending?_of_entry hEntry, hFactory]
  -- The dismissals start no factory, so one that no task drove before is driven by none now.
  have hAbsent : ∀ t f m, k₁.pool.member? t = some (f, m) → f.id ≠ g := by
    intro t f m hMember
    have hStill := d.closing_members (hDismissed ▸ Op.closes_of_dismissals) hKept hHub hWaited t
    rw [hMember, Option.map_some] at hStill
    obtain ⟨⟨f₀, m₀⟩, hMember₀, hId⟩ := Option.map_eq_some_iff.mp hStill.symm
    rw [← hId]
    exact (r.orderly i h hHub).apart g factory t f₀ m₀ hBefore hMember₀
  refine ⟨hAbandoned, hAbsent, ?_⟩
  have hSilent := (((r.trans d).parted hWaited hOpen).silent g hAbsent).2
  rw [((r.trans d).delivered hWaited hOpen).queue, endingsIn_append] at hSilent
  exact (List.append_eq_nil_iff.mp hSilent).2

/-- If no factory is booked when the wait of a first shutdown ends, every factory that was started
has sent its end, once, and nothing will be sent until a factory is created. The shutdown answers
that it saw all factories off, and leaves no events, no bookings, and no entry that is not over;
a factory that was not started has failed with an empty report, and each slot that still exists
holds what was sent to it. -/
theorem shutdown_settles {limit : Option Nat} {k : κ} {settings : List HubSettings}
    (r : Run compiler (founded limit k settings) p) {h₁ : Hub} (hHub : p.hub? i = some h)
    (hOpen : h.office.isOpen = true) (hNew : h.shutDown = false) (d : Run compiler p p₁)
    (hDismissed : d.ops i = h.entries.keys.map .dismiss) (hWaited : p₁.hub? i = some h₁)
    (hIdle : h₁.office.bookings.isIdle = true) :
    (∀ t f m, h.pool.member? t = some (f, m) →
      (endingsIn f.id ((r.trans d).sent i)).length = 1) ∧
    (∀ q (s : Run compiler p₁ q), (∀ op ∈ s.ops i, op.CreatesNone) → s.sent i = []) ∧
    ∀ p₂ p' (u : Run compiler p₁ p₂) (v : Run compiler p₂ p'), u.Updates i →
      v.ops i = [.markShutDown] →
      Shutdown compiler i p true p' ∧
      ∃ h', p'.hub? i = some h' ∧ h'.office.events = [] ∧ h'.runningCount = 0 ∧
        h'.entries.keys = h.entries.keys ∧
        (∀ g e, h'.entry? g = some e → e.status.Over) ∧
        (∀ g e, h.entry? g = some e → e.pending.isSome = true →
          h'.entry? g = some { e with pending := none, status := .failed .aborted {} }) ∧
        ∀ s slot, h'.slot? s = some slot → slot.Collects (Hub.sentTo s ((r.trans d).sent i)) := by
  have hKept : p.Kept := ⟨r.orderly, r.booked⟩
  have hKept₁ : p₁.Kept := ⟨(r.trans d).orderly, (r.trans d).booked⟩
  have hDismissals : ∀ op ∈ d.ops i, op.Closes := by
    rw [hDismissed]
    exact Op.closes_of_dismissals
  obtain ⟨g₁, hSame, hOpen₁⟩ := d.closing_isOpen hDismissals hKept ⟨h, hHub, hOpen⟩
  obtain rfl := Option.some.inj (hSame.symm.trans hWaited)
  have hParted := (r.trans d).parted hWaited hOpen₁
  -- A factory keeps its booking until it has sent its end, so an idle book means that all have.
  have hDeserted := (hKept₁.booked i g₁ hWaited).deserted hParted hIdle
  refine ⟨?_, fun q s hNone => (s.deserted hKept₁ ⟨g₁, hWaited, hDeserted⟩ hNone).2, ?_⟩
  · intro t f m hMember
    have hStill := d.closing_members hDismissals hKept hHub hWaited t
    rw [hMember, Option.map_some] at hStill
    obtain ⟨⟨f₁, m₁⟩, hMember₁, hId⟩ := Option.map_eq_some_iff.mp hStill
    obtain rfl := hDeserted.left t f₁ m₁ hMember₁
    rw [← hId]
    exact hParted.reported t f₁ .left hMember₁ (.inl rfl)
  · intro p₂ p' u v hUpdates hMark
    have hLate : ∀ op ∈ (u.trans v).ops i, op = .take ∨ op = .markShutDown := by
      intro op hMem
      rw [u.ops_trans, hMark] at hMem
      exact (List.mem_append.mp hMem).imp (hUpdates.takes op) List.mem_singleton.mp
    have hCloses : ∀ op ∈ (u.trans v).ops i, op.Closes := by
      intro op hMem
      rcases hLate op hMem with rfl | rfl <;> trivial
    obtain ⟨h₂, hEmptied, hOpen₂, hEvents⟩ := hUpdates.empties hKept₁ ⟨g₁, hWaited, hOpen₁⟩
    have hCall : Shutdown compiler i p true p' := by
      have hTakes := List.eq_replicate_of_mem hUpdates.takes
      exact hIdle ▸ .waited _ hHub hNew (hDismissed ▸ d.performs i) hWaited
        (hTakes ▸ u.performs i) hEmptied hEvents (hMark ▸ v.performs i)
    have hFresh : ¬ p.IsShutDown i := by
      rintro ⟨g, hSame, hDone⟩
      obtain rfl := Option.some.inj (hSame.symm.trans hHub)
      rw [hNew] at hDone
      cases hDone
    obtain ⟨h', hAfter, hRest⟩ := hCall.rests hKept hFresh
    have hOpen' : h'.office.isOpen = true := by
      obtain ⟨g, hSame, hOpen'⟩ :=
        (u.trans v).closing_isOpen hCloses hKept₁ ⟨g₁, hWaited, hOpen₁⟩
      rwa [Option.some.inj (hSame.symm.trans hAfter)] at hOpen'
    have hNothing := ((u.trans v).deserted hKept₁ ⟨g₁, hWaited, hDeserted⟩
      fun op hMem => (hCloses op hMem).createsNone).2
    -- Whatever the workers do from here on, the events are those sent before the wait ended.
    have hSent : ((r.trans d).trans (u.trans v)).sent i = (r.trans d).sent i := by
      rw [(r.trans d).sent_trans, hNothing, List.append_nil]
    have hMarks : ∀ op ∈ v.ops i, op = .markShutDown := by
      rw [hMark]
      exact fun op => List.mem_singleton.mp
    obtain ⟨k', hSame', hNoEvents⟩ := u.settled_events v hUpdates hMarks hKept₁
      ⟨g₁, hWaited, hOpen₁⟩ ⟨g₁, hWaited, hDeserted⟩
    obtain rfl := Option.some.inj (hSame'.symm.trans hAfter)
    refine ⟨hCall, k', hAfter, hNoEvents, hRest.idle, ?_, hRest.ended, ?_, ?_⟩
    · rw [(u.trans v).closing_keys hCloses hKept₁ hWaited hAfter,
        d.closing_keys hDismissals hKept hHub hWaited]
    · intro g e hEntry hPending
      have hGivenUp := r.dismissed_givenUp hHub d hDismissed hWaited hOpen₁ hEntry hPending
      obtain ⟨g', hSame, hStill⟩ :=
        (u.trans v).closing_givenUp hLate hKept₁ ⟨g₁, hWaited, hGivenUp⟩
      obtain rfl := Option.some.inj (hSame.symm.trans hAfter)
      exact hStill.entry
    · intro s slot hSlot
      have hDelivered := ((r.trans d).trans (u.trans v)).delivered hAfter hOpen'
      have hStocked := ((r.trans d).trans (u.trans v)).stocked hAfter hOpen'
      have hMem := Hub.mem_of_slot? hSlot
      have hTaken := hDelivered.queue
      rw [hSent, hNoEvents, List.append_nil] at hTaken
      have hFold := hDelivered.slots (s, slot) (List.mem_append_left _ hMem)
      rw [hStocked.whole (s, slot) hMem, ← hTaken] at hFold
      rw [show slot = _ from hFold]
      exact Slot.collects_foldl _

/-- A run in which one factory has made one of its two pipelines and another one was not started. -/
def halfwayRun : (p : Plant Device) × Run Device.compiler (founded none {} [{}]) p :=
  Run.start.along
    ([.own 0 .createSlot,
      .own 0 (.createFactory "lit" "main" 0),
      .own 0 (.createFactory "dim" "main" 0),
      .own 0 (.register 0 (.ofSetup "program" fun _ => Standard.setupProgram "program" [] 7 [])),
      .own 0 (.register 0 (.ofFill "samples" ⟨4, 6, by decide⟩ (Standard.fillConstant 1 0))),
      .own 0 (.closeInbox 0),
      .own 0 (.start 0)] ++ List.replicate 22 (.work 0 0))

/-- The first factory hands off one more pipeline before it heeds its dismissal. -/
def dismissedRun : (p : Plant Device) × Run Device.compiler halfwayRun.1 p :=
  Run.start.along ([.own 0 (.dismiss 0), .own 0 (.dismiss 1)] ++ List.replicate 15 (.work 0 0))

def updatedRun : (p : Plant Device) × Run Device.compiler dismissedRun.1 p :=
  Run.start.along (List.replicate 3 (.own 0 .take))

def markedRun : (p : Plant Device) × Run Device.compiler updatedRun.1 p :=
  Run.start.along [.own 0 .markShutDown]

theorem shutdown_settles_halfway :
    ∃ h h₁ h', halfwayRun.1.hub? 0 = some h ∧ h.office.isOpen = true ∧ h.shutDown = false ∧
      dismissedRun.2.ops 0 = h.entries.keys.map .dismiss ∧
      dismissedRun.1.hub? 0 = some h₁ ∧ h₁.office.bookings.isIdle = true ∧
      updatedRun.2.Updates 0 ∧ markedRun.2.ops 0 = [.markShutDown] ∧
      ((halfwayRun.2.sent 0).length = 1 ∧ (dismissedRun.2.sent 0).length = 2) ∧
      Shutdown Device.compiler 0 halfwayRun.1 true markedRun.1 ∧
      markedRun.1.hub? 0 = some h' ∧ h'.office.events = [] ∧ h'.runningCount = 0 ∧
      h'.entries.keys = [0, 1] ∧ (∀ g e, h'.entry? g = some e → e.status.Over) ∧
      ∀ slot, h'.slot? 0 = some slot → slot.accepted = 2 := by
  have hStart : (halfwayRun.1.hub? 0).map (fun h =>
      (h.office.isOpen, h.shutDown, h.entries.keys)) = some (true, false, [0, 1]) := by
    decide +kernel
  obtain ⟨h, hHub, hFacts⟩ := Option.map_eq_some_iff.mp hStart
  obtain ⟨hOpen, hFacts⟩ := Prod.mk.inj hFacts
  obtain ⟨hNew, hKeys⟩ := Prod.mk.inj hFacts
  have hIdle : (dismissedRun.1.hub? 0).map (·.office.bookings.isIdle) = some true := by
    decide +kernel
  obtain ⟨h₁, hWaited, hIdle⟩ := Option.map_eq_some_iff.mp hIdle
  have hDismissed : dismissedRun.2.ops 0 = h.entries.keys.map .dismiss := by
    rw [hKeys]
    exact Run.ops_along .start _ 0 (by decide +kernel)
  have hTakes : updatedRun.2.ops 0 = List.replicate 3 .take :=
    Run.ops_along .start _ 0 (by decide +kernel)
  have hUpdates : updatedRun.2.Updates 0 :=
    ⟨fun op hMem => List.eq_of_mem_replicate (hTakes ▸ hMem), by decide +kernel⟩
  have hMark : markedRun.2.ops 0 = [.markShutDown] :=
    Run.ops_along .start _ 0 (by decide +kernel)
  have hSent : (halfwayRun.2.sent 0).length = 1 ∧ (dismissedRun.2.sent 0).length = 2 := by
    decide +kernel
  have hTwo : (Hub.sentTo 0 ((halfwayRun.2.trans dismissedRun.2).sent 0)).length = 2 := by
    decide +kernel
  obtain ⟨_, _, hLast⟩ :=
    shutdown_settles halfwayRun.2 hHub hOpen hNew dismissedRun.2 hDismissed hWaited hIdle
  obtain ⟨hCall, h', hAfter, hEvents, hCount, hSame, hOver, _, hSlots⟩ :=
    hLast _ _ updatedRun.2 markedRun.2 hUpdates hMark
  exact ⟨h, h₁, h', hHub, hOpen, hNew, hDismissed, hWaited, hIdle, hUpdates, hMark, hSent, hCall,
    hAfter, hEvents, hCount, hSame.trans hKeys, hOver,
    fun slot hSlot => (hSlots 0 slot hSlot).accepted.trans hTwo⟩

end Plant

end PipelineForge
