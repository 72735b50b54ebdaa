import PipelineForge.Compiler.Instances
import PipelineForge.Proofs.Hub.Accounts
import PipelineForge.Proofs.Hub.Calls

/-!
# Shutdowns

A call that shuts a hub down and waits tells the truth: if it answers that no factory was booked
any more, then none is created or running, and this stays so until a factory is created. A call on
a hub that was shut down before answers the same without a look. How long a call waits is open.
-/

namespace PipelineForge

namespace Hub

structure AtRest (h : Hub) : Prop where
  idle : h.runningCount = 0
  ended : ∀ f e, h.entry? f = some e → e.status.Over

variable {h : Hub}

theorem Booked.atRest (hBooked : h.Booked) (hIdle : h.office.bookings.isIdle = true)
    (hEvents : h.office.events = []) : h.AtRest := by
  have hFree := Tasks.Bookings.isIdle_iff.mp hIdle
  have hNone {f : Factory} (hStaff : h.Staff f) : f.ticket = none := by
    cases hTicket : f.ticket with
    | none => rfl
    | some t => exact absurd (hBooked.held f t hStaff hTicket) (hFree t)
  refine ⟨Tasks.Bookings.isIdle_iff_size.mp hIdle, ?_⟩
  intro key e hEntry
  have hAccounts := hBooked.entry key e hEntry
  constructor
  · intro hCreated
    obtain ⟨f, hPending⟩ := Option.ne_none_iff_exists'.mp (hAccounts.created hCreated)
    have hStaff : h.Staff f := .inl ⟨key, by rw [pending?_of_entry hEntry, hPending]⟩
    exact hAccounts.booked f hPending (hNone hStaff)
  · intro hRunning
    rcases hAccounts.running hRunning with ⟨_, _, _, hMem⟩ | ⟨t, f, m, hMember, _, hTicket, _⟩
    · rw [hEvents] at hMem
      cases hMem
    · exact hTicket (hNone (.inr ⟨t, m, hMember⟩))

theorem isIdle_release (hIdle : h.office.bookings.isIdle = true) (ticket : Option Tasks.Ticket) :
    (h.office.release ticket).bookings = h.office.bookings := by
  cases ticket with
  | none => rfl
  | some t => exact Tasks.Bookings.release_of_not_holds (Tasks.Bookings.isIdle_iff.mp hIdle t)

def Op.CreatesNone (op : Op) : Prop :=
  ∀ name cacheName slot, op ≠ .createFactory name cacheName slot

/-- A property of hubs that lasts as long as the owner keeps to some operations. -/
structure Lasting (A : Op → Prop) (P : Hub → Prop) : Prop where
  owned : ∀ h op, h.Orderly → h.Booked → A op → P h → P (h.perform op)
  worked : ∀ h h' : Hub, h'.entries = h.entries → h'.office.isOpen = h.office.isOpen →
    (h.office.bookings.isIdle = true → h'.office.bookings = h.office.bookings) → P h → P h'

theorem lasting_open :
    Lasting (fun op => ∀ h : Hub, (h.perform op).office.isOpen = h.office.isOpen)
      fun h => h.office.isOpen = true :=
  ⟨fun h _ _ _ hSame hOpen => (hSame h).trans hOpen, fun _ _ _ hSame _ hOpen => hSame.trans hOpen⟩

theorem lasting_idle : Lasting Op.CreatesNone fun h => h.office.bookings.isIdle = true := by
  constructor
  · intro h op hOrderly _ hNone hIdle
    cases perform_filing hOrderly op with
    | enrolled name cacheName slot hCreate => exact absurd hCreate (hNone name cacheName slot)
    | started key e e' f _ _ _ _ _ _ hOffice =>
      rw [hOffice]
      exact hIdle
    | shed _ _ hBookings _ =>
      rcases hBookings with hSame | ⟨key, f, _, _, hRelease⟩
      · rw [hSame]
        exact hIdle
      · rw [hRelease, isIdle_release hIdle]
        exact hIdle
  · intro h h' _ _ hBookings hIdle
    rw [hBookings hIdle]
    exact hIdle

theorem lasting_atRest : Lasting Op.CreatesNone AtRest := by
  constructor
  · intro h op hOrderly hBooked hNone hRest
    have hIdle := Tasks.Bookings.isIdle_iff_size.mpr hRest.idle
    have hStill := lasting_idle.owned h op hOrderly hBooked hNone hIdle
    refine ⟨Tasks.Bookings.isIdle_iff_size.mp hStill, ?_⟩
    intro key e' hAfter
    cases perform_filing hOrderly op with
    | enrolled name cacheName slot hCreate => exact absurd hCreate (hNone name cacheName slot)
    | started k e _ f hEntry hPending =>
      -- There is no booking, so there was nothing to start.
      have hStaff : h.Staff f := .inl ⟨k, by rw [pending?_of_entry hEntry, hPending]⟩
      obtain ⟨t, hTicket⟩ := Option.ne_none_iff_exists'.mp
        ((hBooked.entry k e hEntry).booked f hPending)
      exact absurd (hBooked.held f t hStaff hTicket) (Tasks.Bookings.isIdle_iff.mp hIdle t)
    | shed hEntries _ _ _ =>
      obtain ⟨e, hEntry, hShed⟩ := hEntries key e' hAfter
      rcases hShed.status with hSame | hOver
      · rw [hSame]
        exact hRest.ended key e hEntry
      · exact hOver
  · intro h h' hEntries _ hBookings hRest
    have hIdle := Tasks.Bookings.isIdle_iff_size.mpr hRest.idle
    constructor
    · rw [runningCount, hBookings hIdle]
      exact hRest.idle
    · intro key e hEntry
      rw [Hub.entry?, hEntries] at hEntry
      exact hRest.ended key e hEntry

end Hub

namespace Plant

variable {κ : Type} {compiler : Compiler κ} {i : Nat} {p p' : Plant κ}

structure Kept (p : Plant κ) : Prop where
  orderly : p.Orderly
  booked : p.Booked

theorem Kept.move (h : p.Kept) {m : Move κ} (hMove : p.move compiler m = some p') : p'.Kept :=
  ⟨orderly_move hMove h.orderly, booked_move hMove h.orderly h.booked⟩

def Has (p : Plant κ) (i : Nat) (P : Hub → Prop) : Prop := ∃ h, p.hub? i = some h ∧ P h

def AtRest (p : Plant κ) (i : Nat) : Prop := p.Has i Hub.AtRest

def IsShutDown (p : Plant κ) (i : Nat) : Prop := p.Has i fun h => h.shutDown = true

/-- The owner of a hub keeps to some operations. -/
def Move.Keeps (A : Hub.Op → Prop) (i : Nat) (m : Move κ) : Prop := ∀ op, m = .own i op → A op

def Run.moves {first : Plant κ} : {p : Plant κ} → Run compiler first p → List (Move κ)
  | _, .start => []
  | _, .next r m _ => r.moves ++ [m]

/-- A call that shuts a hub down, with its answer, while everybody else goes on. -/
inductive Shutdown (compiler : Compiler κ) (i : Nat) : Plant κ → Bool → Plant κ → Prop where
  | again {p : Plant κ} (hDone : p.IsShutDown i) : Shutdown compiler i p true p
  | waited {p p₁ p₂ p' : Plant κ} {h h₁ h₂ : Hub} (n : Nat) (hHub : p.hub? i = some h)
      (hNew : h.shutDown = false)
      (hDismissed : Performs compiler i (h.entries.keys.map .dismiss) p p₁)
      (hWaited : p₁.hub? i = some h₁)
      (hTaken : Performs compiler i (List.replicate n .take) p₁ p₂)
      (hEmptied : p₂.hub? i = some h₂) (hEvents : h₂.office.events = [])
      (hMarked : Performs compiler i [.markShutDown] p₂ p') :
      Shutdown compiler i p h₁.office.bookings.isIdle p'

theorem Move.Spares.keeps {m : Move κ} (h : m.Spares i) (A : Hub.Op → Prop) : m.Keeps A i := by
  rintro op rfl
  exact absurd rfl h

section Lasting

variable {A : Hub.Op → Prop} {P : Hub → Prop}

theorem Kept.lasting (hKept : p.Kept) (hLasting : Hub.Lasting A P) {m : Move κ}
    (hMove : p.move compiler m = some p') (hKeeps : m.Keeps A i) (hBefore : p.Has i P) :
    p'.Has i P := by
  obtain ⟨h, hHub, hBefore⟩ := hBefore
  obtain ⟨h', hAfter, hStir⟩ := stir_of_move hKept.orderly hMove hHub
  refine ⟨h', hAfter, ?_⟩
  cases hStir with
  | spared hSame hElsewhere =>
    rw [hSame]
    exact hBefore
  | owned op hm hOpen hPerform =>
    rw [hPerform]
    exact hLasting.owned h op (hKept.orderly i h hHub) (hKept.booked i h hHub) (hKeeps op hm)
      hBefore
  | worked j w' t f f' mode mode' hm hWorks =>
    refine hLasting.worked h h' hWorks.entries ?_ (fun hIdle => ?_) hBefore
    · rw [hWorks.office]
      exact hWorks.passage.isOpen
    · rw [hWorks.office]
      rcases hWorks.passage.bookings with ⟨hSame, _⟩ | ⟨hRelease, _⟩
      · exact hSame
      · exact hRelease.trans (Hub.isIdle_release hIdle f.ticket)

theorem Performs.kept {ops : List Hub.Op} (h : Performs compiler i ops p p') (hKept : p.Kept) :
    p'.Kept := by
  induction h with
  | done p => exact hKept
  | aside m hSpares hMove rest ih => exact ih (hKept.move hMove)
  | perform hMove rest ih => exact ih (hKept.move hMove)

theorem Performs.lasting {ops : List Hub.Op} (h : Performs compiler i ops p p') (hKept : p.Kept)
    (hLasting : Hub.Lasting A P) (hOps : ∀ op ∈ ops, A op) (hBefore : p.Has i P) : p'.Has i P := by
  induction h with
  | done p => exact hBefore
  | aside m hSpares hMove rest ih =>
    exact ih (hKept.move hMove) hOps (hKept.lasting hLasting hMove (hSpares.keeps A) hBefore)
  | @perform _ _ _ op ops hMove rest ih =>
    refine ih (hKept.move hMove) (fun op' hMem => hOps op' (List.mem_cons_of_mem op hMem)) ?_
    refine hKept.lasting hLasting hMove ?_ hBefore
    rintro op' hSame
    cases hSame
    exact hOps op List.mem_cons_self

theorem Run.lasting {first : Plant κ} (r : Run compiler first p) (hKept : first.Kept)
    (hLasting : Hub.Lasting A P) (hMoves : ∀ m ∈ r.moves, m.Keeps A i)
    (hBefore : first.Has i P) : p.Kept ∧ p.Has i P := by
  induction r with
  | start => exact ⟨hKept, hBefore⟩
  | @next p p' r m hMove ih =>
    obtain ⟨hKeptNow, hNow⟩ := ih fun m' hMem => hMoves m' (List.mem_append_left _ hMem)
    refine ⟨hKeptNow.move hMove, hKeptNow.lasting hLasting hMove ?_ hNow⟩
    exact hMoves m (List.mem_append_right _ (List.mem_singleton_self m))

end Lasting

/-- Shutting a hub down with its worker running alone is such a call. -/
theorem shutdown_call (compiler : Compiler κ) (hKept : p.Kept) {h : Hub}
    (hHub : p.hub? i = some h) (hOpen : h.office.isOpen = true) (fuel : Nat) :
    Shutdown compiler i p (p.shutdown compiler fuel i).2 (p.shutdown compiler fuel i).1 := by
  rw [shutdown, hHub]
  by_cases hDone : h.shutDown = true
  · simp only [hDone, if_true]
    exact .again ⟨h, hHub, hDone⟩
  have hDismisses : ∀ op ∈ h.entries.keys.map Hub.Op.dismiss, ∀ g : Hub,
      (g.perform op).office.isOpen = g.office.isOpen := by
    intro op hMem g
    obtain ⟨f, _, rfl⟩ := List.mem_map.mp hMem
    exact g.isOpen_dismiss f
  have hDismissed : Performs compiler i (h.entries.keys.map .dismiss) p
      ((p.setHub i h.beginShutdown).settle compiler fuel i) := by
    have hBegun : Performs compiler i _ p _ := Performs.of_hub hHub hOpen hDismisses
    rw [← h.beginShutdown_eq_performs] at hBegun
    have hWaited := hBegun.trans (settle_performs compiler fuel _ i)
    rwa [List.append_nil] at hWaited
  obtain ⟨h₁, hWaited, hOpen₁⟩ :=
    hDismissed.lasting hKept Hub.lasting_open hDismisses ⟨h, hHub, hOpen⟩
  simp only [hDone, hWaited]
  obtain ⟨hUpdate, hEvents⟩ := h₁.update_eq_performs
  generalize (p.setHub i h.beginShutdown).settle compiler fuel i = p₁ at *
  have hTakes : ∀ op ∈ List.replicate h₁.office.events.length Hub.Op.take, ∀ g : Hub,
      (g.perform op).office.isOpen = g.office.isOpen := by
    intro op hMem g
    rw [List.eq_of_mem_replicate hMem]
    exact g.isOpen_take
  have hTaken : Performs compiler i (List.replicate h₁.office.events.length .take) p₁
      (p₁.setHub i h₁.update.1) := by
    rw [hUpdate]
    exact Performs.of_hub hWaited hOpen₁ hTakes
  obtain ⟨h₂, hEmptied, hOpen₂⟩ :=
    hTaken.lasting (hDismissed.kept hKept) Hub.lasting_open hTakes ⟨h₁, hWaited, hOpen₁⟩
  have hSame : h₂ = h₁.update.1 := by
    rw [hub?_setHub p₁ hWaited, if_pos rfl] at hEmptied
    exact (Option.some.inj hEmptied).symm
  have hMarked : Performs compiler i [.markShutDown] (p₁.setHub i h₁.update.1)
      (p₁.setHub i h₁.endShutdown.1) := by
    have hMark : Performs compiler i [.markShutDown] (p₁.setHub i h₁.update.1) _ :=
      Performs.of_hub hEmptied hOpen₂ fun op hMem g => by rw [List.mem_singleton.mp hMem]; rfl
    rw [hSame] at hMark
    simp only [setHub, List.set_set] at hMark
    exact hMark
  exact .waited _ hHub (eq_false_of_ne_true hDone) hDismissed hWaited hTaken hEmptied
    (hSame ▸ hEvents) hMarked

theorem Shutdown.rests (hKept : p.Kept) (h : Shutdown compiler i p true p')
    (hNew : ¬ p.IsShutDown i) : p'.AtRest i := by
  generalize hAnswer : true = answer at h
  cases h with
  | again hDone => exact absurd hDone hNew
  | waited n hHub _ hDismissed hWaited hTaken hEmptied hEvents hMarked =>
    have hKept₁ := hDismissed.kept hKept
    have hKept₂ := hTaken.kept hKept₁
    have hTakes : ∀ op ∈ List.replicate n Hub.Op.take, op.CreatesNone := by
      intro op hMem
      rw [List.eq_of_mem_replicate hMem]
      exact fun _ _ _ => nofun
    have hIdle := hTaken.lasting hKept₁ Hub.lasting_idle hTakes ⟨_, hWaited, hAnswer.symm⟩
    obtain ⟨g, hSame, hIdle⟩ := hIdle
    obtain rfl := Option.some.inj (hSame.symm.trans hEmptied)
    have hRest : AtRest _ i := ⟨g, hSame, (hKept₂.booked i g hSame).atRest hIdle hEvents⟩
    refine hMarked.lasting hKept₂ Hub.lasting_atRest ?_ hRest
    intro op hMem
    rw [List.mem_singleton.mp hMem]
    exact fun _ _ _ => nofun

theorem Shutdown.eq_of_again {answer : Bool} (h : Shutdown compiler i p answer p')
    (hDone : p.IsShutDown i) : p' = p := by
  cases h with
  | again => rfl
  | waited n hHub hNew =>
    obtain ⟨h, hSame, hDone⟩ := hDone
    obtain rfl := Option.some.inj (hSame.symm.trans hHub)
    rw [hDone] at hNew
    cases hNew

theorem Shutdown.kept {answer : Bool} (h : Shutdown compiler i p answer p') (hKept : p.Kept) :
    p'.Kept := by
  cases h with
  | again hDone => exact hKept
  | waited n hHub _ hDismissed hWaited hTaken hEmptied hEvents hMarked =>
    exact hMarked.kept (hTaken.kept (hDismissed.kept hKept))

theorem Performs.run {first : Plant κ} {ops : List Hub.Op} (h : Performs compiler i ops p p')
    (r : Run compiler first p) : Nonempty (Run compiler first p') := by
  induction h with
  | done p => exact ⟨r⟩
  | aside m hSpares hMove rest ih => exact ih (r.next m hMove)
  | perform hMove rest ih => exact ih (r.next _ hMove)

theorem Shutdown.run {first : Plant κ} {answer : Bool} (h : Shutdown compiler i p answer p')
    (r : Run compiler first p) : Nonempty (Run compiler first p') := by
  cases h with
  | again hDone => exact ⟨r⟩
  | waited n hHub hNew hDismissed hWaited hTaken hEmptied hEvents hMarked =>
    obtain ⟨r₁⟩ := hDismissed.run r
    obtain ⟨r₂⟩ := hTaken.run r₁
    exact hMarked.run r₂

/-- After a call that answers that nobody is booked, the hub is at rest if the call has waited or
the hub was at rest before, and in no other case. Once at rest it stays so until a factory is
created. -/
theorem shutdown_rests_iff {limit : Option Nat} {k : κ} {settings : List HubSettings}
    (r : Run compiler (founded limit k settings) p) (hCall : Shutdown compiler i p true p') :
    (p'.AtRest i ↔ ¬ p.IsShutDown i ∨ p.AtRest i) ∧
    (p'.AtRest i → ∀ q (s : Run compiler p' q),
      (∀ m ∈ s.moves, m.Keeps Hub.Op.CreatesNone i) → q.AtRest i) := by
  have hKept : p.Kept := ⟨r.orderly, r.booked⟩
  constructor
  · by_cases hDone : p.IsShutDown i
    · rw [hCall.eq_of_again hDone]
      exact ⟨.inr, fun h => h.resolve_left (absurd hDone)⟩
    · exact ⟨fun _ => .inl hDone, fun _ => hCall.rests hKept hDone⟩
  · intro hRest q s hNone
    exact (s.lasting (hCall.kept hKept) Hub.lasting_atRest hNone hRest).2

def startedRun : (p : Plant Device) × Run Device.compiler (founded none {} [{}]) p :=
  Run.start.along [.own 0 .createSlot, .own 0 (.createFactory "lit" "main" 0), .own 0 (.start 0)]

theorem not_atRest_of_count {n : Nat} (h : (p.hub? i).map Hub.runningCount = some (n + 1)) :
    ¬ p.AtRest i := by
  rintro ⟨g, hHub, hRest⟩
  rw [hHub, Option.map_some, hRest.idle] at h
  cases h

theorem not_isShutDown_of_flag (h : (p.hub? i).map Hub.shutDown = some false) :
    ¬ p.IsShutDown i := by
  rintro ⟨g, hHub, hDone⟩
  rw [hHub, Option.map_some, hDone] at h
  cases h

theorem startedRun_call (fuel : Nat) :
    Shutdown Device.compiler 0 startedRun.1 (startedRun.1.shutdown Device.compiler fuel 0).2
      (startedRun.1.shutdown Device.compiler fuel 0).1 := by
  have hOpen : (startedRun.1.hub? 0).map (·.office.isOpen) = some true := by decide +kernel
  obtain ⟨h, hHub, hOpen⟩ := Option.map_eq_some_iff.mp hOpen
  exact shutdown_call _ ⟨startedRun.2.orderly, startedRun.2.booked⟩ hHub hOpen fuel

/-- A first call sees the factory abort and tells the truth. -/
theorem shutdown_rests_iff_first :
    ¬ startedRun.1.AtRest 0 ∧ (startedRun.1.shutdown Device.compiler 20 0).2 = true ∧
      (startedRun.1.shutdown Device.compiler 20 0).1.AtRest 0 := by
  have hBusy : ¬ startedRun.1.AtRest 0 := not_atRest_of_count (n := 0) (by decide +kernel)
  have hNew : ¬ startedRun.1.IsShutDown 0 := not_isShutDown_of_flag (by decide +kernel)
  have hAnswer : (startedRun.1.shutdown Device.compiler 20 0).2 = true := by decide +kernel
  have hCall := startedRun_call 20
  rw [hAnswer] at hCall
  exact ⟨hBusy, hAnswer, (shutdown_rests_iff startedRun.2 hCall).1.mpr (.inl hNew)⟩

/-- A call that waits in vain answers so, but the next call does not wait and answers the opposite
while the factory is still running. -/
theorem shutdown_again_unsound :
    (startedRun.1.shutdown Device.compiler 0 0).2 = false ∧
    ¬ ∀ p p' : Plant Device, Nonempty (Run Device.compiler (founded none {} [{}]) p) →
      Shutdown Device.compiler 0 p true p' → p'.AtRest 0 := by
  refine ⟨by decide +kernel, fun hAll => ?_⟩
  have hReached := (startedRun_call 0).run startedRun.2
  have hFlag : ((startedRun.1.shutdown Device.compiler 0 0).1.hub? 0).map Hub.shutDown =
      some true := by decide +kernel
  have hBusy : ¬ (startedRun.1.shutdown Device.compiler 0 0).1.AtRest 0 :=
    not_atRest_of_count (n := 0) (by decide +kernel)
  obtain ⟨h, hHub, hDone⟩ := Option.map_eq_some_iff.mp hFlag
  exact hBusy (hAll _ _ hReached (.again ⟨h, hHub, hDone⟩))

end Plant

end PipelineForge
