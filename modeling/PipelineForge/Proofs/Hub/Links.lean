import PipelineForge.Proofs.Hub.Accounts

/-!
# Links between entries and tasks

The entry of a factory that was started names its task, and the task that an entry names runs the
factory of that entry. A factory that was removed has a task that no entry names.
-/

namespace PipelineForge

open Factory (Floor State)
open Tasks (Mode TaskId)

namespace Hub

structure Linked (h : Hub) : Prop where
  task : ∀ t f m e, h.pool.member? t = some (f, m) → h.entry? f.id = some e → e.task = some t
  member : ∀ key e t, h.entry? key = some e → e.task = some t →
    ∃ f m, h.pool.member? t = some (f, m) ∧ f.id = key

theorem linked_initial (settings : HubSettings) : ({ settings } : Hub).Linked := by
  constructor
  · intro t f m e hMember
    rw [show ({ settings } : Hub).pool.member? t = none from rfl] at hMember
    cases hMember
  · intro key e t hEntry
    rw [show Hub.entry? { settings } key = none from rfl] at hEntry
    cases hEntry

variable {h h' : Hub}

theorem Linked.enroll (hLinked : h.Linked) (hOrderly : h.Orderly)
    (hOpen : h.office.isOpen = true) (name cacheName : String) (slot : SlotId) :
    (h.withNewcomer name cacheName slot).Linked := by
  have hEntry := entry?_withNewcomer hOrderly name cacheName slot
  constructor
  · intro t f m e hMember hSome
    have hKnown := hOrderly.known t f m hMember
    rw [← hOrderly.keyed hOpen] at hKnown
    rw [hEntry, if_neg (Nat.ne_of_lt hKnown)] at hSome
    exact hLinked.task t f m e hMember hSome
  · intro key e t hSome hTask
    rw [hEntry] at hSome
    split at hSome
    · cases hSome
      cases hTask
    · exact hLinked.member key e t hSome hTask

theorem Linked.start (hLinked : h.Linked) (hOrderly : h.Orderly) {key : FactoryId} {e' : Entry}
    {f : Factory} (hPending : h.pending? key = some f)
    (hEntries : ∀ g, h'.entry? g = if g = key then some e' else h.entry? g)
    (hMembers : ∀ t : Nat, h'.pool.member? t =
      if t = h.pool.bodies.length then some (f, .resting .start) else h.pool.member? t)
    (hTask : e'.task = some h.pool.bodies.length) : h'.Linked := by
  have hId : f.id = key := by rw [hOrderly.fresh key f hPending]
  constructor
  · intro t g m e hMember hSome
    rw [hMembers] at hMember
    rw [hEntries] at hSome
    split at hMember
    · next ht =>
      cases hMember
      rw [if_pos hId] at hSome
      obtain rfl := Option.some.inj hSome
      rw [hTask, ht]
    · rw [if_neg (hOrderly.apart key f t g m hPending hMember)] at hSome
      exact hLinked.task t g m e hMember hSome
  · intro k e t hSome hNamed
    rw [hEntries] at hSome
    split at hSome
    · next hk =>
      obtain rfl := Option.some.inj hSome
      rw [hTask] at hNamed
      obtain rfl := Option.some.inj hNamed
      exact ⟨f, _, (hMembers _).trans (if_pos rfl), hId.trans hk.symm⟩
    · obtain ⟨g, m, hMember, hg⟩ := hLinked.member k e t hSome hNamed
      refine ⟨g, m, ?_, hg⟩
      rw [hMembers, if_neg (Nat.ne_of_lt (member?_lt hMember))]
      exact hMember

theorem Linked.shed (hLinked : h.Linked)
    (hEntries : ∀ g e', h'.entry? g = some e' → ∃ e, h.entry? g = some e ∧ e.Shed e')
    (hMembers : ∀ t, h'.pool.member? t = h.pool.member? t) : h'.Linked := by
  constructor
  · intro t f m e' hMember hSome
    rw [hMembers] at hMember
    obtain ⟨e, hEntry, hShed⟩ := hEntries f.id e' hSome
    rw [hShed.task]
    exact hLinked.task t f m e hMember hEntry
  · intro key e' t hSome hTask
    obtain ⟨e, hEntry, hShed⟩ := hEntries key e' hSome
    rw [hShed.task] at hTask
    obtain ⟨f, m, hMember, hId⟩ := hLinked.member key e t hEntry hTask
    exact ⟨f, m, (hMembers t).trans hMember, hId⟩

theorem linked_perform (hLinked : h.Linked) (hOrderly : h.Orderly)
    (hOpen : h.office.isOpen = true) (op : Op) : (h.perform op).Linked := by
  cases perform_filing hOrderly op with
  | enrolled name cacheName slot hOp hHub =>
    rw [hHub]
    exact hLinked.enroll hOrderly hOpen name cacheName slot
  | started key e e' f hEntry hPending hNone hRunning hEntries hMembers hOffice hTask =>
    have hBefore : h.pending? key = some f := by rw [pending?_of_entry hEntry, hPending]
    exact hLinked.start hOrderly hBefore hEntries hMembers hTask
  | shed hEntries hMembers => exact hLinked.shed hEntries hMembers

end Hub

namespace Plant

variable {κ : Type} {compiler : Compiler κ} {p p' : Plant κ} {i j : Nat} {h h' : Hub}
  {w' : Floor κ} {t : TaskId} {f f' : Factory} {mode mode' : Mode State}

theorem Works.linked (hWorks : Works compiler p i j p' h h' w' t f mode f' mode')
    (hLinked : h.Linked) : h'.Linked := by
  have hEntry (g : FactoryId) : h'.entry? g = h.entry? g := by
    rw [Hub.entry?, hWorks.entries, Hub.entry?]
  have hId := hWorks.passage.identity.1
  constructor
  · intro u g m e hMember hSome
    rw [hEntry] at hSome
    rw [hWorks.members] at hMember
    split at hMember
    · next hu =>
      cases hMember
      rw [hId] at hSome
      rw [hu]
      exact hLinked.task t f mode e hWorks.member hSome
    · exact hLinked.task u g m e hMember hSome
  · intro key e u hSome hTask
    rw [hEntry] at hSome
    obtain ⟨g, m, hMember, hKey⟩ := hLinked.member key e u hSome hTask
    rw [hWorks.members]
    by_cases hu : u = t
    · subst hu
      rw [hWorks.member] at hMember
      cases hMember
      exact ⟨f', mode', if_pos rfl, hId.trans hKey⟩
    · exact ⟨g, m, (if_neg hu).trans hMember, hKey⟩

theorem Run.linked {limit : Option Nat} {k : κ} {settings : List HubSettings}
    (r : Run compiler (founded limit k settings) p) (hHub : p.hub? i = some h) : h.Linked := by
  refine r.along_hub (P := fun _ h => h.Linked) Hub.linked_initial ?_ hHub
  intro p p' r m hMove h h' hHub hStir ih
  cases hStir with
  | spared hSame hElsewhere =>
    rw [hSame]
    exact ih
  | owned op hm hOpen hPerform =>
    rw [hPerform]
    exact Hub.linked_perform ih (r.orderly _ h hHub) hOpen op
  | worked j w' t f f' mode mode' hm hWorks => exact hWorks.linked ih

end Plant

end PipelineForge
