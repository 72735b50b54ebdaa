import Mathlib.Algebra.BigOperators.Group.Finset.Basic
import Mathlib.Algebra.GroupWithZero.Nat
import PipelineForge.Proofs.Hub.Histories
import PipelineForge.Proofs.Hub.Slots

/-!
# Deliveries to slots

What the factories of a hub send is taken once and in order, at the latest by the next update, and
a pipeline is counted and goes into its slot if the slot exists when it is taken. So the slots are
what their deliveries make of them, and together they took what the updates counted. What is
written to the log is left out.
-/

namespace PipelineForge

open Factory (Event)

instance : Append Update where
  append u v := ⟨u.delivered + v.delivered, u.finished ++ v.finished⟩

namespace Update

theorem append_nil (u : Update) : u ++ ({} : Update) = u :=
  congrArg (Update.mk u.delivered) (List.append_nil _)

theorem nil_append (u : Update) : ({} : Update) ++ u = u :=
  congrArg (Update.mk · u.finished) (Nat.zero_add _)

theorem append_assoc (u v w : Update) : u ++ v ++ w = u ++ (v ++ w) :=
  congrArg₂ Update.mk (Nat.add_assoc _ _ _) (List.append_assoc _ _ _)

end Update

namespace Hub

/-- What the owner of a hub did to its slots, and what its updates brought. -/
@[ext]
structure Chronicle where
  created : List SlotId := []
  /-- With what the slots held when they were removed. -/
  removed : List (SlotId × Slot) := []
  taken : List Event := []
  /-- The pipelines that were taken while their slots existed. -/
  applied : List (SlotId × Pipeline) := []
  update : Update := {}

instance : Append Chronicle where
  append c d := ⟨c.created ++ d.created, c.removed ++ d.removed, c.taken ++ d.taken,
    c.applied ++ d.applied, c.update ++ d.update⟩

namespace Chronicle

@[simp] theorem created_append (c d : Chronicle) : (c ++ d).created = c.created ++ d.created := rfl

@[simp] theorem removed_append (c d : Chronicle) : (c ++ d).removed = c.removed ++ d.removed := rfl

@[simp] theorem taken_append (c d : Chronicle) : (c ++ d).taken = c.taken ++ d.taken := rfl

@[simp] theorem applied_append (c d : Chronicle) : (c ++ d).applied = c.applied ++ d.applied := rfl

@[simp] theorem update_append (c d : Chronicle) : (c ++ d).update = c.update ++ d.update := rfl

@[simp] theorem delivered_append (c d : Chronicle) :
    (c ++ d).update.delivered = c.update.delivered + d.update.delivered := rfl

theorem append_nil (c : Chronicle) : c ++ ({} : Chronicle) = c :=
  Chronicle.ext (List.append_nil _) (List.append_nil _) (List.append_nil _) (List.append_nil _)
    (Update.append_nil _)

theorem append_assoc (c d e : Chronicle) : c ++ d ++ e = c ++ (d ++ e) :=
  Chronicle.ext (List.append_assoc _ _ _) (List.append_assoc _ _ _) (List.append_assoc _ _ _)
    (List.append_assoc _ _ _) (Update.append_assoc _ _ _)

def appliedTo (c : Chronicle) (s : SlotId) : List Pipeline :=
  c.applied.filterMap fun x => if x.1 = s then some x.2 else none

theorem appliedTo_append (c d : Chronicle) (s : SlotId) :
    (c ++ d).appliedTo s = c.appliedTo s ++ d.appliedTo s := List.filterMap_append

end Chronicle

def destination? (h : Hub) : Event → Option (SlotId × Pipeline)
  | .made _ s p => (h.slot? s).map fun _ => (s, p)
  | .ended .. => none

def Op.entry (h : Hub) : Op → Chronicle
  | .createSlot => { created := [h.createSlot.2] }
  | .removeSlot s => { removed := ((h.removeSlot s).2.map (s, ·)).toList }
  | .take =>
    match h.office.events.head?, h.take? {} with
    | some e, some (_, u) =>
      { taken := [e], applied := (h.destination? e).toList, update := u }
    | _, _ => {}
  | _ => {}

/-- Taking a pipeline counts it and puts it into its slot if there is one, and else does nothing
but take it. -/
structure Delivers (h : Hub) (s : SlotId) (p : Pipeline) (events : List Event) : Prop where
  existing : ∀ slot, h.slot? s = some slot → ∀ u, ∃ journal,
    h.take? u = some ({ h.setSlot s (slot.accept p) with
      office := { h.office with events }, journal }, { u with delivered := u.delivered + 1 })
  missing : h.slot? s = none → ∀ u, ∃ journal,
    h.take? u = some ({ h with office := { h.office with events }, journal }, u)

variable {h : Hub}

theorem delivers_of_events {f : FactoryId} {s : SlotId} {p : Pipeline} {events : List Event}
    (hEvents : h.office.events = .made f s p :: events) : h.Delivers s p events := by
  constructor
  · intro slot hSlot u
    have hSome : Hub.slot? { h with office := { h.office with events } } s = some slot := hSlot
    simp only [take?, hEvents, applyEvent, deliver, hSome]
    split
    · exact ⟨_, rfl⟩
    · exact ⟨_, rfl⟩
  · intro hSlot u
    have hNone : Hub.slot? { h with office := { h.office with events } } s = none := hSlot
    simp only [take?, hEvents, applyEvent, deliver, hNone]
    exact ⟨_, rfl⟩

/-- Two states of a hub between which its slots and its events did not change. -/
structure Stays (h h' : Hub) : Prop where
  slots : h'.slots = h.slots
  next : h'.nextSlot = h.nextSlot
  events : h'.office.events = h.office.events

/-- What an operation does to the slots and to the events of a hub, and what is entered for it. -/
inductive Storing (h h' : Hub) (c : Chronicle) : Prop where
  | kept (hStays : Stays h h') (hEntry : c = {})
  | created (hSlots : h'.slots = h.slots ++ [(h.nextSlot, ({} : Slot))])
      (hNext : h'.nextSlot = h.nextSlot + 1) (hEvents : h'.office.events = h.office.events)
      (hEntry : c = { created := [h.nextSlot] })
  | removed (s : SlotId) (slot : Slot) (hSlot : h.slot? s = some slot)
      (hSlots : h'.slots = h.slots.filter (·.1 ≠ s)) (hNext : h'.nextSlot = h.nextSlot)
      (hEvents : h'.office.events = h.office.events) (hEntry : c = { removed := [(s, slot)] })
  | applied (f : FactoryId) (s : SlotId) (p : Pipeline) (slot : Slot)
      (hSlot : h.slot? s = some slot) (hSlots : h'.slots = (h.setSlot s (slot.accept p)).slots)
      (hNext : h'.nextSlot = h.nextSlot)
      (hEvents : h.office.events = .made f s p :: h'.office.events)
      (hEntry : c = { taken := [.made f s p], applied := [(s, p)], update := ⟨1, []⟩ })
  | passed (e : Event) (finished : List FactoryId)
      (hNoSlot : ∀ f s p, e = .made f s p → h.slot? s = none)
      (hSlots : h'.slots = h.slots) (hNext : h'.nextSlot = h.nextSlot)
      (hEvents : h.office.events = e :: h'.office.events)
      (hEntry : c = { taken := [e], update := ⟨0, finished⟩ })
  | closed (hClosed : h'.office.isOpen = false) (hEntry : c = {})
      (hNext : h'.nextSlot = h.nextSlot)

theorem storing_removeSlot (h : Hub) (s : SlotId) :
    Storing h (h.perform (.removeSlot s)) ((Op.removeSlot s).entry h) := by
  cases hSlot : h.slot? s with
  | none =>
    refine .kept ⟨?_, rfl, rfl⟩ ?_
    · refine List.filter_eq_self.mpr fun x hx => ?_
      rw [decide_eq_true_eq]
      rintro rfl
      exact lookup_eq_none.mp hSlot (List.mem_map_of_mem hx)
    · simp [Op.entry, removeSlot, hSlot]
  | some slot =>
    refine .removed s slot hSlot rfl rfl rfl ?_
    simp [Op.entry, removeSlot, hSlot]

theorem stays_conclude (h : Hub) (u : Update) (f : FactoryId) (report : Factory.Report)
    (failure : Option ForgeError) (cache : Option CacheId) :
    Stays h (h.conclude u f report failure cache).1 ∧
      ∃ finished, (h.conclude u f report failure cache).2 = ⟨u.delivered, finished⟩ := by
  simp only [conclude]
  split
  · exact ⟨⟨rfl, rfl, rfl⟩, _, rfl⟩
  · exact ⟨⟨rfl, rfl, rfl⟩, _, rfl⟩

theorem storing_take (h : Hub) : Storing h (h.perform .take) (Op.take.entry h) := by
  cases hEvents : h.office.events with
  | nil =>
    rw [perform_take_nil hEvents]
    refine .kept ⟨rfl, rfl, rfl⟩ ?_
    simp [Op.entry, hEvents]
  | cons e events =>
    cases e with
    | made f s p =>
      have hDelivers := delivers_of_events hEvents
      cases hSlot : h.slot? s with
      | some slot =>
        obtain ⟨journal, hTake⟩ := hDelivers.existing slot hSlot {}
        refine .applied f s p slot hSlot ?_ ?_ ?_ ?_
        · rw [perform, hTake]
        · rw [perform, hTake]
          rfl
        · rw [perform, hTake]
          exact hEvents
        · simp [Op.entry, hEvents, hTake, destination?, hSlot]
      | none =>
        obtain ⟨journal, hTake⟩ := hDelivers.missing hSlot {}
        refine .passed (.made f s p) [] ?_ ?_ ?_ ?_ ?_
        · rintro _ _ _ ⟨⟩
          exact hSlot
        · rw [perform, hTake]
        · rw [perform, hTake]
        · rw [perform, hTake]
          exact hEvents
        · simp [Op.entry, hEvents, hTake, destination?, hSlot]
    | ended f report failure cache =>
      let g : Hub := { h with office := { h.office with events } }
      have hTake : h.take? {} = some (g.conclude {} f report failure cache) := by
        rw [take?, hEvents]
        rfl
      obtain ⟨hStays, finished, hUpdate⟩ := stays_conclude g {} f report failure cache
      refine .passed (.ended f report failure cache) finished ?_ ?_ ?_ ?_ ?_
      · rintro _ _ _ ⟨⟩
      · rw [perform, hTake]
        exact hStays.slots
      · rw [perform, hTake]
        exact hStays.next
      · rw [perform, hTake, hStays.events]
        exact hEvents
      · simp only [Op.entry, hEvents, List.head?_cons, hTake, hUpdate, destination?,
          Option.toList_none]

theorem stays_abortTask (h : Hub) (t : Option Tasks.TaskId) : Stays h (h.abortTask t) := by
  cases t <;> exact ⟨rfl, rfl, rfl⟩

theorem stays_discard (h : Hub) (pending : Option Factory) : Stays h (h.discard pending) :=
  ⟨rfl, rfl, Factory.Office.events_release _ _⟩

theorem Stays.trans {h' h'' : Hub} (hFirst : Stays h h') (hSecond : Stays h' h'') : Stays h h'' :=
  ⟨hSecond.slots.trans hFirst.slots, hSecond.next.trans hFirst.next,
    hSecond.events.trans hFirst.events⟩

theorem stays_remove (h : Hub) (f : FactoryId) : Stays h (h.perform (.remove f)) := by
  rw [perform, remove]
  split
  · exact ⟨rfl, rfl, rfl⟩
  · next e hEntry =>
    refine Stays.trans ?_ (stays_discard _ _)
    split
    · exact ⟨(stays_abortTask _ _).slots, (stays_abortTask _ _).next, (stays_abortTask _ _).events⟩
    · exact ⟨rfl, rfl, rfl⟩

theorem stays_dismiss (h : Hub) (f : FactoryId) : Stays h (h.perform (.dismiss f)) := by
  rw [perform, dismiss]
  split
  · exact ⟨rfl, rfl, rfl⟩
  · next e hEntry =>
    refine Stays.trans ?_ (stays_abortTask _ _)
    split
    · exact ⟨rfl, rfl, (stays_discard (h.setEntry f _) _).events⟩
    · exact ⟨rfl, rfl, rfl⟩

theorem perform_storing (h : Hub) (op : Op) : Storing h (h.perform op) (op.entry h) := by
  cases op with
  | createSlot => exact .created rfl rfl rfl rfl
  | removeSlot s => exact storing_removeSlot h s
  | take => exact storing_take h
  | close => exact .closed rfl rfl rfl
  | remove f => exact .kept (stays_remove h f) rfl
  | dismiss f => exact .kept (stays_dismiss h f) rfl
  | createFactory name cacheName slot =>
    refine .kept ?_ rfl
    rw [perform_createFactory]
    split <;> exact ⟨rfl, rfl, rfl⟩
  | register f c =>
    refine .kept ?_ rfl
    rw [perform, register]
    split <;> exact ⟨rfl, rfl, rfl⟩
  | closeInbox f =>
    refine .kept ?_ rfl
    rw [perform]
    split <;> exact ⟨rfl, rfl, rfl⟩
  | wake f =>
    refine .kept ?_ rfl
    rw [perform, wake]
    split <;> exact ⟨rfl, rfl, rfl⟩
  | start f =>
    refine .kept ?_ rfl
    rcases h.perform_start_cases f with hSame | ⟨e, factory, line, _, _, hStart⟩
    · rw [hSame]
      exact ⟨rfl, rfl, rfl⟩
    · rw [hStart]
      exact ⟨rfl, rfl, rfl⟩
  | detach f =>
    refine .kept ?_ rfl
    rw [perform, detach]
    split <;> exact ⟨rfl, rfl, rfl⟩
  | markShutDown => exact .kept ⟨rfl, rfl, rfl⟩ rfl

/-- What the chronicle of an open hub tells about its slots and its events. -/
structure Delivered (h : Hub) (c : Chronicle) (sent : List Event) : Prop where
  queue : sent = c.taken ++ h.office.events
  created : c.created = List.range h.nextSlot
  kept : ((h.slots ++ c.removed).map Prod.fst).Perm c.created
  slots : ∀ x ∈ h.slots ++ c.removed, x.2 = (c.appliedTo x.1).foldl Slot.accept {}
  known : ∀ x ∈ c.applied, x.1 < h.nextSlot
  counted : c.update.delivered = c.applied.length

section Delivered

variable {h' : Hub} {c : Chronicle} {sent more : List Event}

theorem delivered_initial (settings : HubSettings) : ({ settings } : Hub).Delivered {} [] := by
  constructor
  · rfl
  · rfl
  · exact .refl []
  · exact nofun
  · exact nofun
  · rfl

theorem Delivered.nodup (hDelivered : h.Delivered c sent) :
    ((h.slots ++ c.removed).map Prod.fst).Nodup := by
  rw [hDelivered.kept.nodup_iff, hDelivered.created]
  exact List.nodup_range

theorem Delivered.lt (hDelivered : h.Delivered c sent) {x : SlotId × Slot}
    (hx : x ∈ h.slots ++ c.removed) : x.1 < h.nextSlot := by
  have hMem := hDelivered.kept.subset (List.mem_map_of_mem hx)
  rwa [hDelivered.created, List.mem_range] at hMem

theorem Delivered.send (hDelivered : h.Delivered c sent) (hSlots : h'.slots = h.slots)
    (hNext : h'.nextSlot = h.nextSlot) (hEvents : h'.office.events = h.office.events ++ more) :
    h'.Delivered c (sent ++ more) := by
  obtain ⟨hQueue, hCreated, hKept, hOld, hKnown, hCounted⟩ := hDelivered
  constructor
  · rw [hEvents, hQueue, List.append_assoc]
  · rw [hNext, hCreated]
  · rw [hSlots]
    exact hKept
  · rw [hSlots]
    exact hOld
  · rw [hNext]
    exact hKnown
  · exact hCounted

theorem mem_of_slot? {s : SlotId} {slot : Slot} (hSlot : h.slot? s = some slot) :
    (s, slot) ∈ h.slots := by
  obtain ⟨front, back, hSplit, _⟩ := List.lookup_eq_some_iff.mp hSlot
  rw [hSplit]
  exact List.mem_append_right _ List.mem_cons_self

theorem Delivered.create (hDelivered : h.Delivered c sent)
    (hSlots : h'.slots = h.slots ++ [(h.nextSlot, ({} : Slot))])
    (hNext : h'.nextSlot = h.nextSlot + 1) (hEvents : h'.office.events = h.office.events) :
    h'.Delivered (c ++ { created := [h.nextSlot] }) sent := by
  have hSame (s : SlotId) : (c ++ { created := [h.nextSlot] }).appliedTo s = c.appliedTo s :=
    (c.appliedTo_append _ s).trans (List.append_nil _)
  constructor
  · rw [hEvents, Chronicle.taken_append, List.append_nil]
    exact hDelivered.queue
  · rw [hNext, List.range_succ, Chronicle.created_append, hDelivered.created]
  · have hMiddle : (h.slots ++ [(h.nextSlot, ({} : Slot))] ++ c.removed).Perm
        (h.slots ++ c.removed ++ [(h.nextSlot, ({} : Slot))]) := by
      rw [List.append_assoc, List.append_assoc]
      exact List.perm_append_comm.append_left _
    rw [hSlots, Chronicle.removed_append, List.append_nil, Chronicle.created_append]
    refine (hMiddle.map Prod.fst).trans ?_
    rw [List.map_append]
    exact hDelivered.kept.append_right _
  · intro x hx
    rw [hSlots, Chronicle.removed_append, List.append_nil, List.append_assoc, List.mem_append,
      List.mem_append, List.mem_singleton] at hx
    rw [hSame]
    rcases hx with hOld | rfl | hRemoved
    · exact hDelivered.slots x (List.mem_append_left _ hOld)
    · -- Nothing was applied to a slot that did not exist.
      have hNone : c.appliedTo h.nextSlot = [] := by
        refine List.filterMap_eq_nil_iff.mpr fun y hy => if_neg ?_
        exact Nat.ne_of_lt (hDelivered.known y hy)
      rw [hNone]
      rfl
    · exact hDelivered.slots x (List.mem_append_right _ hRemoved)
  · intro x hx
    rw [Chronicle.applied_append, List.append_nil] at hx
    rw [hNext]
    exact Nat.lt_succ_of_lt (hDelivered.known x hx)
  · rw [Chronicle.delivered_append, Chronicle.applied_append, List.append_nil]
    exact hDelivered.counted

theorem Delivered.remove (hDelivered : h.Delivered c sent) {s : SlotId} {slot : Slot}
    (hSlot : h.slot? s = some slot) (hSlots : h'.slots = h.slots.filter (·.1 ≠ s))
    (hNext : h'.nextSlot = h.nextSlot) (hEvents : h'.office.events = h.office.events) :
    h'.Delivered (c ++ { removed := [(s, slot)] }) sent := by
  have hMem := mem_of_slot? hSlot
  have hSame (t : SlotId) : (c ++ { removed := [(s, slot)] }).appliedTo t = c.appliedTo t :=
    (c.appliedTo_append _ t).trans (List.append_nil _)
  have hNodup := hDelivered.nodup
  rw [List.map_append, List.nodup_append] at hNodup
  have hPerm : (h'.slots ++ (c.removed ++ [(s, slot)])).Perm (h.slots ++ c.removed) := by
    have hOut : h.slots.Perm ((s, slot) :: h'.slots) := hSlots ▸ perm_filter_ne hNodup.1 hMem
    rw [← List.append_assoc]
    exact (List.perm_append_singleton _ _).trans (hOut.append_right c.removed).symm
  constructor
  · rw [hEvents, Chronicle.taken_append, List.append_nil]
    exact hDelivered.queue
  · rw [hNext, Chronicle.created_append, List.append_nil]
    exact hDelivered.created
  · rw [Chronicle.removed_append, Chronicle.created_append, List.append_nil]
    exact (hPerm.map Prod.fst).trans hDelivered.kept
  · intro x hx
    rw [hSame]
    exact hDelivered.slots x (hPerm.subset hx)
  · intro x hx
    rw [Chronicle.applied_append, List.append_nil] at hx
    rw [hNext]
    exact hDelivered.known x hx
  · rw [Chronicle.delivered_append, Chronicle.applied_append, List.append_nil]
    exact hDelivered.counted

theorem Delivered.apply (hDelivered : h.Delivered c sent) {f : FactoryId} {s : SlotId}
    {p : Pipeline} {slot : Slot} (hSlot : h.slot? s = some slot)
    (hSlots : h'.slots = (h.setSlot s (slot.accept p)).slots) (hNext : h'.nextSlot = h.nextSlot)
    (hEvents : h.office.events = .made f s p :: h'.office.events) :
    h'.Delivered (c ++ { taken := [.made f s p], applied := [(s, p)], update := ⟨1, []⟩ })
      sent := by
  have hMem : (s, slot) ∈ h.slots ++ c.removed := List.mem_append_left _ (mem_of_slot? hSlot)
  have hApplied (t : SlotId) :
      (c ++ { taken := [.made f s p], applied := [(s, p)], update := ⟨1, []⟩ }).appliedTo t =
        c.appliedTo t ++ if s = t then [p] else [] := by
    rw [Chronicle.appliedTo_append]
    by_cases ht : s = t <;> simp [Chronicle.appliedTo, ht]
  have hKeys : h'.slots.map Prod.fst = h.slots.map Prod.fst := by
    rw [hSlots, setSlot, List.map_map]
    refine List.map_congr_left fun x _ => ?_
    rw [Function.comp_apply]
    split
    · next hx => exact hx.symm
    · rfl
  have hNodup := hDelivered.nodup
  constructor
  · rw [Chronicle.taken_append, List.append_assoc, List.singleton_append, ← hEvents]
    exact hDelivered.queue
  · rw [hNext, Chronicle.created_append, List.append_nil]
    exact hDelivered.created
  · rw [Chronicle.removed_append, List.append_nil, List.map_append, hKeys, ← List.map_append,
      Chronicle.created_append, List.append_nil]
    exact hDelivered.kept
  · intro x hx
    rw [Chronicle.removed_append, List.append_nil, List.mem_append, hSlots, setSlot,
      List.mem_map] at hx
    rw [hApplied]
    rcases hx with ⟨y, hy, rfl⟩ | hRemoved
    · by_cases hs : y.1 = s
      · rw [if_pos hs, if_pos rfl, List.foldl_append, ← hDelivered.slots (s, slot) hMem]
        rfl
      · rw [if_neg hs, if_neg (Ne.symm hs), List.append_nil]
        exact hDelivered.slots y (List.mem_append_left _ hy)
    · have hs : s ≠ x.1 := by
        rw [List.map_append, List.nodup_append] at hNodup
        exact hNodup.2.2 s (List.mem_map_of_mem (mem_of_slot? hSlot)) x.1
          (List.mem_map_of_mem hRemoved)
      rw [if_neg hs, List.append_nil]
      exact hDelivered.slots x (List.mem_append_right _ hRemoved)
  · intro x hx
    rw [hNext]
    rcases List.mem_append.mp hx with hOld | hNew
    · exact hDelivered.known x hOld
    · rw [List.mem_singleton.mp hNew]
      exact hDelivered.lt hMem
  · rw [Chronicle.delivered_append, Chronicle.applied_append, List.length_append,
      hDelivered.counted]
    rfl

theorem Delivered.pass (hDelivered : h.Delivered c sent) {e : Event}
    {finished : List FactoryId} (hSlots : h'.slots = h.slots) (hNext : h'.nextSlot = h.nextSlot)
    (hEvents : h.office.events = e :: h'.office.events) :
    h'.Delivered (c ++ { taken := [e], update := ⟨0, finished⟩ }) sent := by
  have hSame (s : SlotId) : (c ++ { taken := [e], update := ⟨0, finished⟩ }).appliedTo s =
      c.appliedTo s := (c.appliedTo_append _ s).trans (List.append_nil _)
  constructor
  · rw [Chronicle.taken_append, List.append_assoc, List.singleton_append, ← hEvents]
    exact hDelivered.queue
  · rw [hNext, Chronicle.created_append, List.append_nil]
    exact hDelivered.created
  · rw [Chronicle.removed_append, Chronicle.created_append, List.append_nil, List.append_nil,
      hSlots]
    exact hDelivered.kept
  · intro x hx
    rw [Chronicle.removed_append, List.append_nil, hSlots] at hx
    rw [hSame]
    exact hDelivered.slots x hx
  · intro x hx
    rw [Chronicle.applied_append, List.append_nil] at hx
    rw [hNext]
    exact hDelivered.known x hx
  · rw [Chronicle.delivered_append, Chronicle.applied_append, List.append_nil]
    exact hDelivered.counted

theorem delivered_perform (hDelivered : h.Delivered c sent) (op : Op)
    (hOpen : (h.perform op).office.isOpen = true) :
    (h.perform op).Delivered (c ++ op.entry h) sent := by
  cases perform_storing h op with
  | kept hStays hEntry =>
    rw [hEntry, c.append_nil, ← List.append_nil sent]
    refine hDelivered.send hStays.slots hStays.next ?_
    rw [hStays.events, List.append_nil]
  | created hSlots hNext hEvents hEntry =>
    rw [hEntry]
    exact hDelivered.create hSlots hNext hEvents
  | removed s slot hSlot hSlots hNext hEvents hEntry =>
    rw [hEntry]
    exact hDelivered.remove hSlot hSlots hNext hEvents
  | applied f s p slot hSlot hSlots hNext hEvents hEntry =>
    rw [hEntry]
    exact hDelivered.apply hSlot hSlots hNext hEvents
  | passed e finished hNoSlot hSlots hNext hEvents hEntry =>
    rw [hEntry]
    exact hDelivered.pass hSlots hNext hEvents
  | closed hClosed hEntry =>
    rw [hClosed] at hOpen
    cases hOpen

theorem length_appliedTo (c : Chronicle) (s : SlotId) :
    (c.appliedTo s).length = (c.applied.map Prod.fst).count s := by
  rw [Chronicle.appliedTo]
  induction c.applied with
  | nil => rfl
  | cons x xs ih =>
    rw [List.map_cons, List.count_cons, ← ih]
    by_cases hx : x.1 = s <;> simp [hx]

theorem Delivered.sum_accepted (hDelivered : h.Delivered c sent) :
    ((h.slots ++ c.removed).map fun x => x.2.accepted).sum = c.applied.length := by
  have hAccepted : (h.slots ++ c.removed).map (fun x => x.2.accepted) =
      ((h.slots ++ c.removed).map Prod.fst).map fun s => (c.applied.map Prod.fst).count s := by
    rw [List.map_map]
    refine List.map_congr_left fun x hx => ?_
    rw [hDelivered.slots x hx, (Slot.collects_foldl _).accepted, length_appliedTo]
    rfl
  have hAll : ∀ s ∈ (↑(c.applied.map Prod.fst) : Multiset SlotId),
      s ∈ ((h.slots ++ c.removed).map Prod.fst).toFinset := by
    intro s hs
    obtain ⟨x, hx, rfl⟩ := List.mem_map.mp (Multiset.mem_coe.mp hs)
    rw [List.mem_toFinset, hDelivered.kept.mem_iff, hDelivered.created, List.mem_range]
    exact hDelivered.known x hx
  rw [hAccepted, ← List.sum_toFinset _ hDelivered.nodup]
  have hSum := Multiset.sum_count_eq_card hAll
  simp only [Multiset.coe_count, Multiset.coe_card, List.length_map] at hSum
  exact hSum

end Delivered

end Hub

namespace Hub

variable {h : Hub}

theorem applyEvent_snd (h : Hub) (u : Update) (e : Event) :
    (h.applyEvent u e).2 = u ++ (h.applyEvent {} e).2 := by
  cases e with
  | made f s p =>
    simp only [applyEvent, deliver]
    split
    · exact u.append_nil.symm
    · exact congrArg (Update.mk _) (List.append_nil _).symm
  | ended f report failure cache =>
    simp only [applyEvent, conclude]
    split
    · exact u.append_nil.symm
    · rfl

theorem take?_of_events {e : Event} {events : List Event} (hEvents : h.office.events = e :: events)
    (u : Update) : h.take? u = some (h.perform .take, u ++ (Op.take.entry h).update) := by
  rw [perform_take_cons hEvents]
  simp only [Op.entry, hEvents, List.head?_cons, take?]
  rw [← applyEvent_snd, ← applyEvent_fst _ u {} e]

end Hub

namespace Plant

variable {κ : Type} {compiler : Compiler κ} {first p q : Plant κ} {i : Nat} {h : Hub}

def entry (p : Plant κ) (i : Nat) (m : Move κ) : Hub.Chronicle :=
  match m.op? i, p.hub? i with
  | some op, some h => op.entry h
  | _, _ => {}

namespace Run

def chronicle (i : Nat) : {p : Plant κ} → Run compiler first p → Hub.Chronicle
  | _, .start => {}
  | _, @next _ _ _ p _ r m _ => r.chronicle i ++ p.entry i m

/-- The owner of a hub does nothing but take events, until there are no more. -/
structure Updates (r : Run compiler p q) (i : Nat) : Prop where
  takes : ∀ op ∈ r.ops i, op = .take
  emptied : q.eventsOf i = []

end Run

theorem entry_own (hHub : p.hub? i = some h) (op : Hub.Op) :
    p.entry i (.own i op) = op.entry h := by
  simp only [entry, Move.op?, if_true, hHub]

theorem entry_of_spares {m : Move κ} (hSpares : m.Spares i) : p.entry i m = {} := by
  simp only [entry, Move.op?_eq_none_iff.mpr hSpares]

theorem Run.chronicle_own (r : Run compiler first p) (hHub : p.hub? i = some h) {op : Hub.Op}
    (hMove : p.move compiler (.own i op) = some q) :
    (r.next (.own i op) hMove).chronicle i = r.chronicle i ++ op.entry h := by
  rw [chronicle, entry_own hHub]

theorem Run.chronicle_aside (r : Run compiler first p) {m : Move κ}
    (hMove : p.move compiler m = some q) (hSpares : m.Spares i) :
    (r.next m hMove).chronicle i = r.chronicle i := by
  rw [chronicle, entry_of_spares hSpares, Hub.Chronicle.append_nil]

theorem Run.chronicle_trans (r : Run compiler first p) (s : Run compiler p q) (i : Nat) :
    (r.trans s).chronicle i = r.chronicle i ++ s.chronicle i := by
  induction s with
  | start => exact (Hub.Chronicle.append_nil _).symm
  | next s m hMove ih => rw [trans, chronicle, chronicle, ih, Hub.Chronicle.append_assoc]

theorem Run.delivered {limit : Option Nat} {k : κ} {settings : List HubSettings}
    (r : Run compiler (founded limit k settings) p) (hHub : p.hub? i = some h)
    (hOpen : h.office.isOpen = true) : h.Delivered (r.chronicle i) (r.sent i) := by
  refine r.along_open_hub (P := fun r h => h.Delivered (r.chronicle i) (r.sent i)) ?_ ?_ ?_ ?_
    hHub hOpen
  · exact Hub.delivered_initial
  · intro p p' r m hMove h hElsewhere ih
    rw [r.chronicle_aside hMove hElsewhere.spares, r.sent_of_elsewhere hMove hElsewhere]
    exact ih
  · intro p p' r op hMove h hHub _ hOpen' ih
    rw [r.chronicle_own hHub hMove, r.sent_of_quiet hMove rfl]
    exact Hub.delivered_perform ih op hOpen'
  · intro p p' r j hMove h h' w' t f f' mode mode' _ hWorks ih
    rw [r.chronicle_aside (m := .work i j) hMove trivial, r.sent_of_works hMove hWorks]
    refine ih.send ?_ ?_ ?_
    · rw [hWorks.same]
    · rw [hWorks.same]
    · rw [hWorks.office]
      exact hWorks.passage.events

theorem Run.delivered_eq (r : Run compiler first p) (i : Nat) :
    (r.chronicle i).update.delivered = (r.chronicle i).applied.length := by
  induction r with
  | start => rfl
  | @next p q r m hMove ih =>
    rw [chronicle, Hub.Chronicle.delivered_append, Hub.Chronicle.applied_append,
      List.length_append, ih, entry]
    congr 1
    split
    · next op h _ _ => cases Hub.perform_storing h op <;> simp_all
    · rfl

theorem Run.Updates.empties {u : Run compiler p q} (hUpdates : u.Updates i) (hKept : p.Kept)
    (hOpen : p.Has i fun h => h.office.isOpen = true) :
    ∃ h, q.hub? i = some h ∧ h.office.isOpen = true ∧ h.office.events = [] := by
  have hKeeps := u.keeps_of_ops (A := fun op => ∀ h : Hub,
      (h.perform op).office.isOpen = h.office.isOpen) fun op hMem h => by
    rw [hUpdates.takes op hMem, h.isOpen_take]
  obtain ⟨_, h, hHub, hStill⟩ := u.lasting hKept Hub.lasting_open hKeeps hOpen
  have hEmptied := hUpdates.emptied
  rw [eventsOf, hHub] at hEmptied
  exact ⟨h, hHub, hStill, hEmptied⟩

theorem move_of_open (hHub : p.hub? i = some h) (hOpen : h.office.isOpen = true) (op : Hub.Op) :
    p.move compiler (.own i op) = some (p.setHub i (h.perform op)) := by
  rw [move, hHub, Option.bind_some, if_pos hOpen]

theorem exists_takes (n : Nat) (u : Update) (hHub : p.hub? i = some h)
    (hOpen : h.office.isOpen = true) (hAfter : q = p.setHub i (h.takeUpTo n u).1) :
    ∃ r : Run compiler p q, (∀ op ∈ r.ops i, op = .take) ∧
      (h.takeUpTo n u).2 = u ++ (r.chronicle i).update := by
  induction n generalizing p h u with
  | zero =>
    rw [Hub.takeUpTo, setHub_self hHub] at hAfter
    subst hAfter
    refine ⟨.start, ?_, u.append_nil.symm⟩
    intro op hMem
    cases hMem
  | succ n ih =>
    rw [Hub.takeUpTo] at hAfter ⊢
    cases hEvents : h.office.events with
    | nil =>
      have hTake : h.take? u = none := by rw [Hub.take?, hEvents]
      simp only [hTake] at hAfter ⊢
      rw [setHub_self hHub] at hAfter
      subst hAfter
      refine ⟨.start, ?_, u.append_nil.symm⟩
      intro op hMem
      cases hMem
    | cons e events =>
      simp only [Hub.take?_of_events hEvents u] at hAfter ⊢
      have hMove : p.move compiler (.own i .take) = some (p.setHub i (h.perform .take)) :=
        move_of_open hHub hOpen .take
      have hNext : (p.setHub i (h.perform .take)).hub? i = some (h.perform .take) := by
        rw [hub?_setHub p hHub, if_pos rfl]
      obtain ⟨r, hTakes, hUpdate⟩ := ih (u ++ (Hub.Op.take.entry h).update) hNext
        (h.isOpen_take.trans hOpen) (hAfter.trans (p.setHub_setHub i _ _).symm)
      refine ⟨(Run.start.next _ hMove).trans r, ?_, ?_⟩
      · rw [Run.ops_trans, Run.ops_own]
        exact List.forall_mem_cons.mpr ⟨rfl, hTakes⟩
      · have hStart : ((Run.start : Run compiler p p).chronicle i).update = {} := rfl
        rw [hUpdate, Run.chronicle_trans, Run.chronicle_own _ hHub, Update.append_assoc,
          Hub.Chronicle.update_append, Hub.Chronicle.update_append, hStart, Update.nil_append]

/-- The updates of a hub are runs of its owner with these answers. -/
theorem exists_update (hHub : p.hub? i = some h) (hOpen : h.office.isOpen = true) :
    ∃ u : Run compiler p (p.setHub i h.update.1), u.Updates i ∧
      (u.chronicle i).update = h.update.2 := by
  have hExists : ∃ u : Run compiler p (p.setHub i h.update.1),
      (∀ op ∈ u.ops i, op = .take) ∧ h.update.2 = {} ++ (u.chronicle i).update :=
    exists_takes h.office.events.length {} hHub hOpen rfl
  obtain ⟨u, hTakes, hUpdate⟩ := hExists
  refine ⟨u, ⟨hTakes, ?_⟩, ?_⟩
  · have hAfter : (p.setHub i h.update.1).hub? i = some h.update.1 := by
      rw [hub?_setHub p hHub, if_pos rfl]
    rw [eventsOf, hAfter]
    exact h.update_eq_performs.2
  · exact (hUpdate.trans (Update.nil_append _)).symm

/-- Every event is taken once and in order, at the latest by the next update, and it is counted
and goes into its slot exactly if the slot exists then. So each slot is what was applied to it,
and the updates counted as many pipelines as all slots together accepted. -/
theorem deliveries_exact {limit : Option Nat} {k : κ} {settings : List HubSettings}
    (r : Run compiler (founded limit k settings) p) (hHub : p.hub? i = some h)
    (hOpen : h.office.isOpen = true) :
    r.sent i = (r.chronicle i).taken ++ h.office.events ∧
    (∀ f s q events, h.office.events = .made f s q :: events → h.Delivers s q events) ∧
    (∀ p' (u : Run compiler p p'), u.Updates i →
      r.sent i ++ u.sent i = (r.chronicle i).taken ++ (u.chronicle i).taken ∧
      ((r.trans u).chronicle i).applied = (r.chronicle i).applied ++ (u.chronicle i).applied ∧
      (u.chronicle i).update.delivered = (u.chronicle i).applied.length) ∧
    (∃ u : Run compiler p (p.setHub i h.update.1), u.Updates i ∧
      (u.chronicle i).update = h.update.2) ∧
    (∀ s slot, h.slot? s = some slot → slot.Collects ((r.chronicle i).appliedTo s)) ∧
    (r.chronicle i).created.Nodup ∧
    ((h.slots ++ (r.chronicle i).removed).map Prod.fst).Perm (r.chronicle i).created ∧
    (r.chronicle i).update.delivered =
      ((h.slots ++ (r.chronicle i).removed).map fun x => x.2.accepted).sum := by
  have hDelivered := r.delivered hHub hOpen
  refine ⟨hDelivered.queue, fun f s q events => Hub.delivers_of_events, ?_,
    exists_update hHub hOpen, ?_, ?_, hDelivered.kept, ?_⟩
  · intro p' u hUpdates
    obtain ⟨h', hAfter, hOpen', hEvents⟩ :=
      hUpdates.empties ⟨r.orderly, r.booked⟩ ⟨h, hHub, hOpen⟩
    have hQueue := ((r.trans u).delivered hAfter hOpen').queue
    rw [hEvents, List.append_nil, r.sent_trans, r.chronicle_trans] at hQueue
    exact ⟨hQueue, by rw [r.chronicle_trans]; rfl, u.delivered_eq i⟩
  · intro s slot hSlot
    have hFold := hDelivered.slots (s, slot) (List.mem_append_left _ (Hub.mem_of_slot? hSlot))
    rw [show slot = _ from hFold]
    exact Slot.collects_foldl _
  · rw [hDelivered.created]
    exact List.nodup_range
  · rw [hDelivered.counted, hDelivered.sum_accepted]

/-- A run in which the first pipeline of a factory reaches its slot, and the second one comes after
the slot was removed. -/
def removedRun : (p : Plant Device) × Run Device.compiler (founded none {} [{}]) p :=
  pairRun.2.along
    [.own 0 .createSlot, .own 0 .take, .own 0 (.removeSlot 0), .own 0 .take]

theorem deliveries_exact_removed :
    ∃ h, removedRun.1.hub? 0 = some h ∧ h.office.isOpen = true ∧
      (removedRun.2.sent 0).length = 3 ∧ h.office.events.length = 1 ∧
      (removedRun.2.chronicle 0).taken.length = 2 ∧
      (∃ u : Run Device.compiler removedRun.1 (removedRun.1.setHub 0 h.update.1), u.Updates 0) ∧
      (∀ slot, h.slot? 1 = some slot → slot.accepted = 0) ∧
      (removedRun.2.chronicle 0).removed.map (fun x => (x.1, x.2.accepted)) = [(0, 1)] ∧
      ((h.slots ++ (removedRun.2.chronicle 0).removed).map fun x => x.2.accepted).sum = 1 := by
  have hHub : (removedRun.1.hub? 0).map (fun h => (h.office.isOpen, h.office.events.length)) =
      some (true, 1) := by decide +kernel
  obtain ⟨h, hHub, hBoth⟩ := Option.map_eq_some_iff.mp hHub
  obtain ⟨hOpen, hOne⟩ := Prod.mk.inj hBoth
  obtain ⟨hQueue, _, _, ⟨u, hUpdates, _⟩, hSlots, _, _, hSum⟩ :=
    deliveries_exact removedRun.2 hHub hOpen
  have hCount : (removedRun.2.chronicle 0).update.delivered = 1 := by decide +kernel
  have hThree : (removedRun.2.sent 0).length = 3 := by decide +kernel
  have hNone : ((removedRun.2.chronicle 0).appliedTo 1).length = 0 := by decide +kernel
  refine ⟨h, hHub, hOpen, hThree, hOne, ?_, ⟨u, hUpdates⟩, ?_, by decide +kernel,
    hSum.symm.trans hCount⟩
  · rw [hQueue, List.length_append, hOne] at hThree
    exact Nat.succ.inj hThree
  · exact fun slot hSlot => (hSlots 1 slot hSlot).accepted.trans hNone

end Plant

end PipelineForge
