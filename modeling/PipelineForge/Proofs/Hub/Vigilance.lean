import PipelineForge.Characteristic.Standard
import PipelineForge.Compiler.Instances
import PipelineForge.Proofs.Hub.Posts
import PipelineForge.Proofs.Tasks.Alerts

/-!
# Vigilance of factories

A factory looks at its inbox before it waits, but it is suspended later, and a factory that is not
started yet cannot be woken. In every run, a factory whose task is suspended has nothing to act on
unless its owner is just about to wake it. How long a factory takes to act is left out.
-/

namespace PipelineForge

open Factory (Floor Inbox Passage State)
open Tasks (Call Mode Reply TaskId)

namespace Factory

/-- The inbox holds nothing that its factory has to act on. -/
structure Inbox.Idle (i : Inbox) : Prop where
  pending : i.pending = []
  closed : i.closed = false
  failed : i.failed = none

variable {κ : Type} {compiler : Compiler κ} {hub : Nat} {w w' : Floor κ} {f f' : Factory}
  {mode mode' : Mode State}

theorem Turn.heeds {reply : Reply State} (h : Turn compiler hub w f w' f' reply) :
    reply.Heeds wakeup (w'.office.inbox f.id).Idle := by
  cases h with
  | waiting hPoint hState hPending hClosed hFailed => exact ⟨rfl, hPending, hClosed, hFailed⟩
  | _ => trivial

theorem work_heeds (compiler : Compiler κ) (hub : Nat) (w : Floor κ) (f : Factory) :
    (work compiler hub w f).2.2.2.Heeds wakeup
      ((work compiler hub w f).1.office.inbox f.id).Idle := by
  cases hWork : work compiler hub w f with
  | mk w' rest =>
    obtain ⟨f', lines, reply⟩ := rest
    by_cases hHeld : reply = .held
    · rw [hHeld]
      trivial
    · exact (work_cases hWork hHeld).heeds

theorem behaviour_asksNothing (compiler : Compiler κ) (hub : Nat) :
    (behaviour compiler hub).AsksNothing := by
  intro w f request hCall
  cases hWork : work compiler hub w f with
  | mk w' rest =>
    obtain ⟨f', lines, reply⟩ := rest
    obtain rfl : reply = .call request := by
      rw [← hCall]
      exact congrArg (fun piece => piece.2.2.2) hWork.symm
    cases work_cases hWork nofun

theorem Passage.keeps_idle (h : Passage compiler hub w f mode w' f' mode') {g : FactoryId}
    (hIdle : (w.office.inbox g).Idle) : (w'.office.inbox g).Idle := by
  rcases h.inbox_cases g with hSame | hEmptied
  · rw [hSame]
    exact hIdle
  · rw [hEmptied]
    exact ⟨rfl, hIdle.closed, hIdle.failed⟩

end Factory

namespace Hub

variable {h h' : Hub} {reason reason' : TaskId → FactoryId → Prop}

/-- All tasks of the hub are alert, each for the reason of its factory. -/
def Alert (h : Hub) (reason : TaskId → FactoryId → Prop) : Prop :=
  ∀ t c, h.pool.cell? t = some c →
    Tasks.Alert Factory.wakeup (reason t c.body.id) c.control (h.pool.drivers t)

theorem alert_initial (settings : HubSettings) : ({ settings } : Hub).Alert reason := by
  intro t c hCell
  rw [show ({ settings } : Hub).pool.cell? t = none from rfl] at hCell
  cases hCell

theorem Alert.mono (hAlert : h.Alert reason)
    (hReason : ∀ t c, h.pool.cell? t = some c → reason t c.body.id → reason' t c.body.id) :
    h.Alert reason' := fun t c hCell => (hAlert t c hCell).mono (hReason t c hCell)

theorem Op.call?_rouses {op : Op} {request : Call} (hCall : op.call? h = some request) :
    request.Rouses Factory.wakeup := by
  cases op with
  | wake f =>
    obtain ⟨t, _, rfl⟩ := Option.map_eq_some_iff.mp hCall
    rfl
  | remove f =>
    obtain ⟨e, _, hAbort⟩ := Option.bind_eq_some_iff.mp hCall
    split at hAbort
    · obtain ⟨t, _, rfl⟩ := Option.map_eq_some_iff.mp hAbort
      trivial
    · cases hAbort
  | dismiss f =>
    obtain ⟨t, _, rfl⟩ := Option.map_eq_some_iff.mp hCall
    trivial
  | _ => cases hCall

theorem alert_perform (hAlert : h.Alert reason) (hOrderly : h.Orderly) (op : Op) :
    (h.perform op).Alert fun t g =>
      reason t g ∧ ∀ request, op.call? h = some request → t ≠ request.task := by
  intro t c' hAfter
  rcases h.perform_pool op with ⟨hNone, factory, hPool⟩ | hPool
  · rw [hPool] at hAfter ⊢
    refine (hOrderly.pool.alert_run (R := fun f => reason t f.id) (hAlert t) factory .start
      hAfter).mono fun hReason => ⟨hReason, ?_⟩
    rw [hNone]
    exact nofun
  · cases hCall : op.call? h with
    | none =>
      rw [hCall] at hPool
      rw [hPool] at hAfter ⊢
      exact (hAlert t c' hAfter).mono fun hReason => ⟨hReason, nofun⟩
    | some request =>
      rw [hCall] at hPool
      rw [hPool] at hAfter ⊢
      refine (hOrderly.pool.alert_ask (R := fun f => reason t f.id) (hAlert t) (by decide)
        (Op.call?_rouses hCall) hAfter).mono fun hReason => ⟨hReason.1, ?_⟩
      rintro _ ⟨⟩
      exact hReason.2

theorem entries_wake (h : Hub) (f : FactoryId) : (h.perform (.wake f)).entries = h.entries := by
  rw [perform, wake]
  split <;> rfl

/-- Whether the owner of a hub, who has or has not changed an inbox and not woken its factory yet,
has done so after an operation. -/
def Op.owes (h : Hub) (f : FactoryId) (before : Bool) : Op → Bool
  | .register g c => before || g = f && (h.register g c).2.2
  | .closeInbox g => before || g = f && (h.entry? g).isSome
  | .wake g => before && !(g = f && (h.entry? g).isSome)
  | _ => before

theorem register_of_entry {f : FactoryId} (hKnown : (h.entry? f).isSome = true)
    (c : Characteristic) : (h.register f c).2.2 = ((h.office.inbox f).register c).2.wakes := by
  obtain ⟨e, hEntry⟩ := Option.isSome_iff_exists.mp hKnown
  simp only [register, hEntry]

theorem Op.posts_owes {op : Op} {f : FactoryId} (hIdle : (h.office.inbox f).Idle)
    (before : Bool) (hPosts : op.posts h f ≠ []) : op.owes h f before = true := by
  cases op with
  | register g c =>
    rw [posts] at hPosts
    split at hPosts
    · next hBoth =>
      obtain ⟨rfl, hKnown⟩ := hBoth
      have hWakes : ((h.office.inbox g).register c).2.wakes = true := by
        rw [Inbox.register, hIdle.closed]
        simp only [Bool.false_eq_true, if_false]
        split <;> rfl
      simp [owes, register_of_entry hKnown, hWakes]
    · exact absurd rfl hPosts
  | closeInbox g =>
    rw [posts] at hPosts
    split at hPosts
    · next hBoth =>
      obtain ⟨rfl, hKnown⟩ := hBoth
      simp [owes, hKnown]
    · exact absurd rfl hPosts
  | _ => exact absurd rfl hPosts

/-- An operation that changes an idle inbox makes its owner owe a call, and only the call of a
factory that the hub knows settles that. -/
theorem Op.idle_or_owes (hOrderly : h.Orderly) {op : Op} {f : FactoryId} {before : Bool}
    (hBefore : (h.office.inbox f).Idle ∨ before = true)
    (hStill : ¬ (op = .wake f ∧ (h.entry? f).isSome = true)) :
    ((h.perform op).office.inbox f).Idle ∨ op.owes h f before = true := by
  rcases hBefore with hIdle | rfl
  · by_cases hPosts : op.posts h f = []
    · rw [perform_inbox hOrderly, hPosts]
      exact .inl hIdle
    · exact .inr (op.posts_owes hIdle before hPosts)
  · refine .inr ?_
    cases op with
    | wake g =>
      simp only [owes, Bool.true_and, Bool.not_eq_true', Bool.and_eq_false_iff,
        decide_eq_false_iff_not]
      by_cases hg : g = f
      · subst hg
        exact .inr (by simpa using hStill)
      · exact .inl hg
    | _ => simp [owes]

end Hub

namespace Plant

variable {κ : Type} {compiler : Compiler κ} {first p p' q : Plant κ} {i j : Nat} {h h' : Hub}

section Works

variable {w' : Floor κ} {t u : TaskId} {f f' : Factory} {mode mode' : Mode State}
  {reason reason' : TaskId → FactoryId → Prop}

theorem Works.cell? (hWorks : Works compiler p i j p' h h' w' t f mode f' mode')
    {d' : Tasks.Cell Factory State} (hAfter : h'.pool.cell? u = some d') :
    ∃ d, h.pool.cell? u = some d ∧ d'.body.id = d.body.id := by
  have hMember := Tasks.Pool.member?_of_cell hAfter
  rw [hWorks.members] at hMember
  split at hMember
  · next hu =>
    obtain ⟨c, hCell, hBody⟩ := Option.map_eq_some_iff.mp hWorks.member
    refine ⟨c, hu ▸ hCell, ?_⟩
    rw [← (Prod.mk.inj (Option.some.inj hMember)).1, hWorks.passage.identity.1,
      (Prod.mk.inj hBody).1]
  · obtain ⟨d, hCell, hBody⟩ := Option.map_eq_some_iff.mp hMember
    exact ⟨d, hCell, by rw [(Prod.mk.inj hBody).1]⟩

/-- What a worker does keeps the tasks alert for reasons that last and that an idle inbox is. -/
theorem Works.alert (hWorks : Works compiler p i j p' h h' w' t f mode f' mode')
    (hAlert : h.Alert reason) (hReason : ∀ u g, reason u g → reason' u g)
    (hIdle : ∀ u g, (h'.office.inbox g).Idle → reason' u g) : h'.Alert reason' := by
  intro u d' hAfter
  obtain ⟨d, hBefore, hId⟩ := hWorks.cell? hAfter
  obtain ⟨phase, c, c', next, hAdvances⟩ := hWorks.advances
  rw [hId]
  refine hAdvances.alert hWorks.soundBefore (Factory.behaviour_asksNothing compiler i) ?_
    hBefore hAfter (hAlert u d hBefore) (hReason u d.body.id)
  rintro rfl rfl
  obtain rfl := Option.some.inj (hBefore.symm.trans hAdvances.cell)
  refine (Factory.work_heeds compiler i (p.floorOf h) d.body).mono fun hYes => hIdle u d.body.id ?_
  rw [hWorks.office]
  exact hAdvances.advance.world_of_handling ▸ hYes

end Works

/-- Whether the owner of a hub has changed the inbox of a factory and not woken it since. -/
def Run.owes (i : Nat) (f : FactoryId) : {p : Plant κ} → Run compiler first p → Bool
  | _, .start => false
  | _, @Run.next _ _ _ p _ r m _ =>
    match m.op? i, p.hub? i with
    | some op, some h => op.owes h f (r.owes i f)
    | _, _ => r.owes i f

theorem Run.owes_own (r : Run compiler first p) {op : Hub.Op} (hHub : p.hub? i = some h)
    (hMove : p.move compiler (.own i op) = some q) (f : FactoryId) :
    (r.next (.own i op) hMove).owes i f = op.owes h f (r.owes i f) := by
  simp only [owes, Move.op?, if_true, hHub]

theorem Run.owes_aside (r : Run compiler first p) {m : Move κ}
    (hMove : p.move compiler m = some q) (hSpares : m.Spares i) (f : FactoryId) :
    (r.next m hMove).owes i f = r.owes i f := by
  simp only [owes, Move.op?_eq_none_iff.mpr hSpares]

theorem Run.call?_wake {limit : Option Nat} {k : κ} {settings : List HubSettings}
    (r : Run compiler (founded limit k settings) p) (hHub : p.hub? i = some h)
    (hOpen : h.office.isOpen = true) {t : TaskId} {c : Tasks.Cell Factory State}
    (hKnown : (h.entry? c.body.id).isSome = true)
    (hCell : (h.perform (.wake c.body.id)).pool.cell? t = some c) :
    (Hub.Op.wake c.body.id).call? h = some (.signal t Factory.wakeup) := by
  obtain ⟨e, hEntry⟩ := Option.isSome_iff_exists.mp hKnown
  have hAfter : Hub.entry? (h.perform (.wake c.body.id)) c.body.id = some e := by
    rw [Hub.entry?, Hub.entries_wake]
    exact hEntry
  have hTask := (Hub.linked_perform (r.linked hHub) (r.orderly i h hHub) hOpen _).task t c.body _ e
    (Tasks.Pool.member?_of_cell hCell) hAfter
  rw [Hub.Op.call?, hEntry, Option.bind_some, hTask, Option.map_some]

theorem Run.vigilant {limit : Option Nat} {k : κ} {settings : List HubSettings}
    (r : Run compiler (founded limit k settings) p) (hHub : p.hub? i = some h) :
    h.Alert fun _ g => (h.office.inbox g).Idle ∨ r.owes i g = true := by
  refine r.along_hub
    (P := fun r h => h.Alert fun _ g => (h.office.inbox g).Idle ∨ r.owes i g = true)
    (fun s => Hub.alert_initial s) ?_ hHub
  intro p p' r m hMove h h' hHub hStir ih
  cases hStir with
  | spared hSame hElsewhere =>
    subst hSame
    simp only [r.owes_aside hMove hElsewhere.spares]
    exact ih
  | owned op hm hOpen hPerform =>
    subst hm hPerform
    have hOrderly := r.orderly i h hHub
    simp only [r.owes_own hHub hMove]
    refine (Hub.alert_perform ih hOrderly op).mono ?_
    rintro t c hCell ⟨hReason, hUncalled⟩
    refine Hub.Op.idle_or_owes hOrderly hReason ?_
    rintro ⟨rfl, hKnown⟩
    exact hUncalled _ (r.call?_wake hHub hOpen hKnown hCell) rfl
  | worked j w' t f f' mode mode' hm hWorks =>
    subst hm
    simp only [r.owes_aside (m := .work i j) hMove trivial]
    refine hWorks.alert ih ?_ fun u g hIdle => .inl hIdle
    rintro u g (hIdle | hOwes)
    · rw [hWorks.office]
      exact .inl (hWorks.passage.keeps_idle hIdle)
    · exact .inr hOwes

end Plant

namespace Hub

variable {h : Hub} {f : FactoryId}

/-- The registration with a factory is closed, and nothing can keep its task suspended. -/
structure Roused (h : Hub) (f : FactoryId) : Prop where
  closed : (h.office.inbox f).closed = true
  alert : h.Alert fun _ g => g ≠ f

theorem closed_accept (i : Inbox) (posts : List Factory.Post) (hClosed : i.closed = true) :
    (posts.foldl Inbox.accept i).closed = true := by
  induction posts generalizing i with
  | nil => exact hClosed
  | cons post posts ih =>
    apply ih
    cases post with
    | register c =>
      rw [Inbox.accept, Inbox.register, if_pos hClosed]
      exact hClosed
    | close => rfl

theorem Roused.perform (hRoused : h.Roused f) (hOrderly : h.Orderly) (op : Op) :
    (h.perform op).Roused f := by
  constructor
  · rw [perform_inbox hOrderly]
    exact closed_accept _ _ hRoused.closed
  · exact (alert_perform hRoused.alert hOrderly op).mono fun t c hCell hReason => hReason.1

theorem awaits_closeInbox (hOrderly : h.Orderly) (hKnown : (h.entry? f).isSome = true) :
    (Hub.entry? (h.perform (.closeInbox f)) f).isSome = true ∧
      ((h.perform (.closeInbox f)).office.inbox f).closed = true := by
  constructor
  · rw [Hub.perform, if_pos hKnown]
    exact hKnown
  · rw [perform_inbox hOrderly, Op.posts, if_pos ⟨rfl, hKnown⟩]
    rfl

end Hub

namespace Plant

variable {κ : Type} {compiler : Compiler κ} {p p' q q' : Plant κ} {i j : Nat} {h h' : Hub}
  {f : FactoryId}

theorem Works.entry? {w' : Floor κ} {t : TaskId} {g g' : Factory} {mode mode' : Mode State}
    (hWorks : Works compiler p i j p' h h' w' t g mode g' mode') (k : FactoryId) :
    h'.entry? k = h.entry? k := by rw [Hub.entry?, hWorks.entries, Hub.entry?]

theorem Works.closed {w' : Floor κ} {t : TaskId} {g g' : Factory} {mode mode' : Mode State}
    (hWorks : Works compiler p i j p' h h' w' t g mode g' mode') :
    (h'.office.inbox f).closed = (h.office.inbox f).closed := by
  rw [hWorks.office]
  rcases hWorks.passage.inbox_cases f with hSame | hEmptied
  · rw [hSame]
    rfl
  · rw [hEmptied]
    rfl

theorem Works.roused {w' : Floor κ} {t : TaskId} {g g' : Factory} {mode mode' : Mode State}
    (hWorks : Works compiler p i j p' h h' w' t g mode g' mode')
    (hRoused : h.Roused f) : h'.Roused f := by
  have hClosed := hWorks.closed.trans hRoused.closed
  refine ⟨hClosed, hWorks.alert hRoused.alert (fun _ _ hReason => hReason) ?_⟩
  rintro u _ hIdle rfl
  rw [hIdle.closed] at hClosed
  cases hClosed

theorem Run.roused (s : Run compiler p q) (hKept : p.Kept) (hRoused : p.Has i (·.Roused f)) :
    q.Has i (·.Roused f) := by
  refine (s.preserves hKept (A := fun _ => True) (fun _ _ => trivial) ?_ ?_ hRoused).2
  · exact fun h op hOrderly _ _ hRoused => hRoused.perform hOrderly op
  · intro p p' j h h' w' t g g' mode mode' hWorks hRoused
    exact hWorks.roused hRoused

theorem Run.roused_of_wake {limit : Option Nat} {k : κ} {settings : List HubSettings}
    (r : Run compiler (founded limit k settings) p) (hHub : p.hub? i = some h)
    (hOpen : h.office.isOpen = true) (hKnown : (h.entry? f).isSome = true)
    (hClosed : (h.office.inbox f).closed = true) : (h.perform (.wake f)).Roused f := by
  have hOrderly := r.orderly i h hHub
  refine ⟨?_, (Hub.alert_perform (r.vigilant hHub) hOrderly _).mono ?_⟩
  · rw [Hub.perform_inbox hOrderly]
    exact hClosed
  · -- The wake-up is a call for the very task of the factory, so no reason is left for it.
    rintro t c hCell ⟨_, hUncalled⟩ rfl
    exact hUncalled _ (r.call?_wake hHub hOpen hKnown hCell) rfl

/-- In every run that goes on after the call which closes the registration, the factory is
roused. -/
theorem Run.roused_of_generate {limit : Option Nat} {k : κ} {settings : List HubSettings}
    (r : Run compiler (founded limit k settings) p) (hHub : p.hub? i = some h)
    (hKnown : (h.entry? f).isSome = true) (g : Run compiler p q)
    (hCall : g.ops i = [.closeInbox f, .wake f]) (s : Run compiler q q') :
    q'.Has i (·.Roused f) := by
  obtain ⟨p₁, p₂, ⟨g₁, hQuiet⟩, hClose, g₂, hRest⟩ := g.split hCall
  obtain ⟨p₃, p₄, ⟨g₃, hStill⟩, hWake, g₄, _⟩ := g₂.split hRest
  obtain ⟨hKept₁, h₁, hHub₁, hKnown₁⟩ := g₁.preserves_quietly hQuiet ⟨r.orderly, r.booked⟩
    (P := fun h => (h.entry? f).isSome = true) (fun hWorks => (hWorks.entry? f).symm ▸ id)
    ⟨h, hHub, hKnown⟩
  -- Nobody but the owner opens an inbox again or removes the entry, so what the close left still
  -- holds when the wake-up comes.
  have hAwaits : p₂.Has i fun h =>
      (h.entry? f).isSome = true ∧ (h.office.inbox f).closed = true := by
    obtain ⟨k₁, hSame, _, rfl⟩ := move_own hClose
    obtain rfl := Option.some.inj (hSame.symm.trans hHub₁)
    refine ⟨_, (hub?_setHub p₁ hHub₁ _ i).trans (if_pos rfl), ?_⟩
    exact Hub.awaits_closeInbox (hKept₁.orderly i k₁ hHub₁) hKnown₁
  obtain ⟨_, h₃, hHub₃, hKnown₃, hClosed₃⟩ := g₃.preserves_quietly hStill (hKept₁.move hClose)
    (fun hWorks => by rw [hWorks.entry? f, hWorks.closed]; exact id) hAwaits
  obtain ⟨k₃, hSame, hOpen, rfl⟩ := move_own hWake
  obtain rfl := Option.some.inj (hSame.symm.trans hHub₃)
  let r₃ := ((r.trans g₁).next _ hClose).trans g₃
  have hRoused := r₃.roused_of_wake hHub₃ hOpen hKnown₃ hClosed₃
  have hKept₃ : p₃.Kept := ⟨r₃.orderly, r₃.booked⟩
  exact (g₄.trans s).roused (hKept₃.move hWake)
    ⟨_, (hub?_setHub p₃ hHub₃ _ i).trans (if_pos rfl), hRoused⟩

/-- Whatever the owner of a hub, the workers and all others do, and in whatever order: a task that
is suspended waits for the wake-up of its factory, and unless the owner is between a change of the
inbox and the wake-up after it, the inbox has nothing for the factory to act on. After the call
that closes the registration, the task of the factory is never suspended again. -/
theorem suspended_idle {limit : Option Nat} {k : κ} {settings : List HubSettings}
    (r : Run compiler (founded limit k settings) p) (hHub : p.hub? i = some h) :
    (∀ t c condition, h.pool.cell? t = some c → c.control.waiting = some condition →
      r.owes i c.body.id = false →
      condition = Factory.wakeup ∧ (h.office.inbox c.body.id).Idle) ∧
    (∀ f h', h.office.isOpen = true → h.generate f = .ok h' →
      ∃ g : Run compiler p (p.setHub i h'), g.ops i = [.closeInbox f, .wake f]) ∧
    ∀ f q q' h' (g : Run compiler p q) (_ : Run compiler q q'), (h.entry? f).isSome = true →
      g.ops i = [.closeInbox f, .wake f] → q'.hub? i = some h' →
      ∀ t c, h'.pool.cell? t = some c → c.body.id = f →
        c.control.waiting = none ∧ (c.control.scheduled = true ∨ c.control.finished = true) := by
  refine ⟨?_, ?_, ?_⟩
  · intro t c condition hCell hWaiting hSettled
    obtain ⟨hBits, hReason⟩ := (r.vigilant hHub t c hCell).suspended condition hWaiting
    refine ⟨hBits, hReason.resolve_right ?_⟩
    rw [hSettled]
    exact nofun
  · intro f h' hOpen hOk
    rw [Hub.generate_eq_performs hOk]
    refine (Performs.of_hub hHub hOpen ?_).exists_run
    intro op hMem g
    rcases List.mem_cons.mp hMem with rfl | hMem
    · rw [Hub.perform]
      split <;> rfl
    · rw [List.mem_singleton.mp hMem, Hub.perform, Hub.wake]
      split <;> rfl
  · -- Roused, the task cannot wait, and a task that does not wait is scheduled or finished.
    intro f q q' h' g s hKnown hCall hAfter t c hCell hId
    obtain ⟨k', hSame, hRoused⟩ := r.roused_of_generate hHub hKnown g hCall s
    obtain rfl := Option.some.inj (hSame.symm.trans hAfter)
    have hControl := (((r.trans g).trans s).orderly i k' hAfter).pool.control t c hCell
    have hWaiting : c.control.waiting = none := by
      refine Option.eq_none_iff_forall_ne_some.mpr fun condition hSome => ?_
      exact ((hRoused.alert t c hCell).suspended condition hSome).2 hId
    refine ⟨hWaiting, ?_⟩
    cases hScheduled : c.control.scheduled with
    | true => exact .inl rfl
    | false =>
      cases hFinished : c.control.finished with
      | true => exact .inr rfl
      | false =>
        have hSome := hControl.waits hScheduled hFinished
        rw [hWaiting] at hSome
        cases hSome

/-- A run in which a factory has set up all that it was sent and is suspended. -/
def suspendedRun : (p : Plant Device) × Run Device.compiler (founded none {} [{}]) p :=
  Run.start.along
    ([.own 0 .createSlot,
      .own 0 (.createFactory "lit" "main" 0),
      .own 0 (.start 0),
      .own 0 (.register 0 (.ofSetup "program" fun _ => Standard.setupProgram "program" [] 7 [])),
      .own 0 (.wake 0)] ++ List.replicate 15 (.work 0 0))

def generatingRun : (p : Plant Device) × Run Device.compiler suspendedRun.1 p :=
  Run.start.along [.own 0 (.closeInbox 0), .own 0 (.wake 0)]

theorem suspended_idle_run : ∃ h c h' c', suspendedRun.1.hub? 0 = some h ∧
    h.pool.cell? 0 = some c ∧ c.control.waiting = some Factory.wakeup ∧ c.body.id = 0 ∧
    suspendedRun.2.owes 0 0 = false ∧ (h.office.inbox 0).Idle ∧
    (h.entry? 0).isSome = true ∧ generatingRun.2.ops 0 = [.closeInbox 0, .wake 0] ∧
    generatingRun.1.hub? 0 = some h' ∧ h'.pool.cell? 0 = some c' ∧ c'.body.id = 0 ∧
    c'.control.waiting = none ∧ (c'.control.scheduled = true ∨ c'.control.finished = true) := by
  have hBefore : ((suspendedRun.1.hub? 0).bind (·.pool.cell? 0)).map (fun c =>
      (c.control.waiting, c.body.id)) = some (some Factory.wakeup, 0) := by decide +kernel
  obtain ⟨c, hFound, hFacts⟩ := Option.map_eq_some_iff.mp hBefore
  obtain ⟨h, hHub, hCell⟩ := Option.bind_eq_some_iff.mp hFound
  obtain ⟨hWaiting, hId⟩ := Prod.mk.inj hFacts
  have hEntry : (suspendedRun.1.hub? 0).map (fun h => (h.entry? 0).isSome) = some true := by
    decide +kernel
  have hKnown : (h.entry? 0).isSome = true := by
    rw [hHub] at hEntry
    exact Option.some.inj hEntry
  have hAfter : ((generatingRun.1.hub? 0).bind (·.pool.cell? 0)).map (·.body.id) = some 0 := by
    decide +kernel
  obtain ⟨c', hFound', hId'⟩ := Option.map_eq_some_iff.mp hAfter
  obtain ⟨h', hHub', hCell'⟩ := Option.bind_eq_some_iff.mp hFound'
  have hOwes : suspendedRun.2.owes 0 0 = false := by decide +kernel
  have hCall : generatingRun.2.ops 0 = [.closeInbox 0, .wake 0] :=
    Run.ops_along .start _ 0 (by decide +kernel)
  obtain ⟨hIdle, _, hRoused⟩ := suspended_idle suspendedRun.2 hHub
  have hRest := (hIdle 0 c _ hCell hWaiting (by rw [hId]; exact hOwes)).2
  rw [hId] at hRest
  exact ⟨h, c, h', c', hHub, hCell, hWaiting, hId, hOwes, hRest, hKnown, hCall, hHub', hCell', hId',
    hRoused 0 _ _ h' generatingRun.2 .start hKnown hCall hHub' 0 c' hCell' hId'⟩

end Plant

end PipelineForge
