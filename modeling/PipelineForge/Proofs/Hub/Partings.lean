import PipelineForge.Proofs.Factory.Farewells
import PipelineForge.Proofs.Hub.Deliveries

/-!
# Partings

In every run of an open hub, a factory whose task has left has sent its end once and holds no
booking, and any other one holds its booking and sends its end later, if at all. A slot that still
exists got everything that was taken for it. The order of the events makes no difference here.
-/

namespace PipelineForge

open Factory (Event State endingsIn endingsIn_append madeIn madeIn_append sentIn)
open Tasks (Mode TaskId)

namespace Hub

/-- What the factories of an open hub have sent of their ends. -/
structure Parted (h : Hub) (sent : List Event) : Prop where
  booked : ∀ t f m, h.pool.member? t = some (f, m) → m ≠ .left → f.ticket ≠ none
  reported : ∀ t f m, h.pool.member? t = some (f, m) → f.Reported m →
    (endingsIn f.id sent).length = 1
  unreported : ∀ t f m, h.pool.member? t = some (f, m) → ¬ f.Reported m →
    endingsIn f.id sent = []
  silent : ∀ g, (∀ t f m, h.pool.member? t = some (f, m) → f.id ≠ g) →
    madeIn g sent = [] ∧ endingsIn g sent = []

theorem parted_initial (settings : HubSettings) : ({ settings } : Hub).Parted [] := by
  have hMember (t : TaskId) : ({ settings } : Hub).pool.member? t = none := rfl
  constructor
  · intro t f m hSome
    rw [hMember] at hSome
    cases hSome
  · intro t f m hSome
    rw [hMember] at hSome
    cases hSome
  · intro t f m hSome
    rw [hMember] at hSome
    cases hSome
  · exact fun g _ => ⟨rfl, rfl⟩

variable {h h' : Hub} {sent : List Event} {c : Chronicle}

theorem Parted.of_members (hParted : h.Parted sent)
    (hMembers : ∀ t, h'.pool.member? t = h.pool.member? t) : h'.Parted sent := by
  constructor
  · intro t f m hMember
    exact hParted.booked t f m (hMembers t ▸ hMember)
  · intro t f m hMember
    exact hParted.reported t f m (hMembers t ▸ hMember)
  · intro t f m hMember
    exact hParted.unreported t f m (hMembers t ▸ hMember)
  · intro g hNone
    refine hParted.silent g fun t f m hMember => hNone t f m ?_
    rw [hMembers]
    exact hMember

theorem Parted.start (hParted : h.Parted sent) (hOrderly : h.Orderly) (hBooked : h.Booked)
    {key : FactoryId} {f : Factory} (hFactory : h.pending? key = some f)
    (hMembers : ∀ t : Nat, h'.pool.member? t =
      if t = h.pool.bodies.length then some (f, .resting .start) else h.pool.member? t) :
    h'.Parted sent := by
  have hFresh : ¬ f.Reported (.resting .start) := by simp [Factory.Reported]
  constructor
  · intro t g m hMember hMode
    rw [hMembers] at hMember
    split at hMember
    · cases hMember
      obtain ⟨e, hEntry, hPending⟩ := pending?_eq_some hFactory
      exact (hBooked.entry key e hEntry).booked f hPending
    · exact hParted.booked t g m hMember hMode
  · intro t g m hMember hReported
    rw [hMembers] at hMember
    split at hMember
    · cases hMember
      exact absurd hReported hFresh
    · exact hParted.reported t g m hMember hReported
  · intro t g m hMember hNot
    rw [hMembers] at hMember
    split at hMember
    · cases hMember
      have hId : f.id = key := by rw [hOrderly.fresh key f hFactory]
      rw [hId]
      exact (hParted.silent key fun u k n hOther =>
        hOrderly.apart key f u k n hFactory hOther).2
    · exact hParted.unreported t g m hMember hNot
  · intro g hNone
    refine hParted.silent g fun t k m hMember => hNone t k m ?_
    rw [hMembers, if_neg (Nat.ne_of_lt (member?_lt hMember))]
    exact hMember

theorem parted_perform (hParted : h.Parted sent) (hOrderly : h.Orderly) (hBooked : h.Booked)
    (op : Op) : (h.perform op).Parted sent := by
  cases perform_change hOrderly op with
  | enrolled f hFresh hAlike => exact hParted.of_members hAlike.members
  | registered f c hKnown hAlike => exact hParted.of_members hAlike.members
  | closed f hKnown hAlike => exact hParted.of_members hAlike.members
  | shed hAlike => exact hParted.of_members hAlike.members
  | started key f hFactory hMembers => exact hParted.start hOrderly hBooked hFactory hMembers

def sentTo (s : SlotId) (events : List Event) : List Pipeline :=
  events.filterMap fun
    | .made _ t p => if t = s then some p else none
    | .ended .. => none

/-- The factories write to slots that were created, and a slot that still exists got everything
that was taken for it. -/
structure Stocked (h : Hub) (c : Chronicle) (sent : List Event) : Prop where
  staff : ∀ f, h.Staff f → f.slot < h.nextSlot
  sent : ∀ f s p, Event.made f s p ∈ sent → s < h.nextSlot
  whole : ∀ x ∈ h.slots, c.appliedTo x.1 = sentTo x.1 c.taken

theorem stocked_initial (settings : HubSettings) : ({ settings } : Hub).Stocked {} [] := by
  constructor
  · rintro f (⟨key, hPending⟩ | ⟨t, m, hMember⟩)
    · cases hPending
    · cases hMember
  · exact nofun
  · exact nofun

theorem sentTo_append (s : SlotId) (events more : List Event) :
    sentTo s (events ++ more) = sentTo s events ++ sentTo s more := List.filterMap_append

theorem Stocked.send (hStocked : h.Stocked c sent) {more : List Event}
    (hSlots : h'.slots = h.slots) (hNext : h'.nextSlot = h.nextSlot)
    (hStaff : ∀ f, h'.Staff f → f.slot < h.nextSlot)
    (hMore : ∀ f s p, Event.made f s p ∈ more → s < h.nextSlot) :
    h'.Stocked c (sent ++ more) := by
  constructor
  · rw [hNext]
    exact hStaff
  · intro f s p hMade
    rw [hNext]
    rcases List.mem_append.mp hMade with hOld | hNew
    · exact hStocked.sent f s p hOld
    · exact hMore f s p hNew
  · rw [hSlots]
    exact hStocked.whole

theorem Stocked.whole_storing (hStocked : h.Stocked c sent) (hDelivered : h.Delivered c sent)
    {d : Chronicle} (hStoring : Storing h h' d) (hOpen : h'.office.isOpen = true) :
    ∀ x ∈ h'.slots, (c ++ d).appliedTo x.1 = sentTo x.1 (c ++ d).taken := by
  intro x hx
  rw [Chronicle.appliedTo_append, Chronicle.taken_append, sentTo_append]
  cases hStoring with
  | kept hStays hEntry =>
    rw [hStays.slots] at hx
    rw [hStocked.whole x hx, hEntry]
    rfl
  | created hSlots hNext hEvents hEntry =>
    rw [hSlots] at hx
    rcases List.mem_append.mp hx with hOld | hNew
    · rw [hStocked.whole x hOld, hEntry]
      rfl
    · obtain rfl := List.mem_singleton.mp hNew
      -- Nothing was applied or sent to a slot that did not exist.
      have hApplied : c.appliedTo h.nextSlot = [] :=
        List.filterMap_eq_nil_iff.mpr fun y hy => if_neg (Nat.ne_of_lt (hDelivered.known y hy))
      have hTaken : sentTo h.nextSlot c.taken = [] := by
        refine List.filterMap_eq_nil_iff.mpr fun e he => ?_
        cases e with
        | made f s p =>
          have hSent : Event.made f s p ∈ sent :=
            hDelivered.queue ▸ List.mem_append_left _ he
          exact if_neg (Nat.ne_of_lt (hStocked.sent f s p hSent))
        | ended f report failure cache => rfl
      rw [hApplied, hTaken, hEntry]
      rfl
  | removed s slot hSlot hSlots hNext hEvents hEntry =>
    rw [hSlots] at hx
    rw [hStocked.whole x (List.mem_filter.mp hx).1, hEntry]
    rfl
  | applied f s p slot hSlot hSlots hNext hEvents hEntry =>
    rw [hSlots, setSlot, List.mem_map] at hx
    obtain ⟨y, hy, rfl⟩ := hx
    have hKey : (if y.1 = s then (s, slot.accept p) else y).1 = y.1 := by
      split
      · next hs => exact hs.symm
      · rfl
    rw [hKey, hStocked.whole y hy, hEntry]
    rfl
  | passed e finished hNoSlot hSlots hNext hEvents hEntry =>
    rw [hSlots] at hx
    have hNone : sentTo x.1 [e] = [] := by
      refine List.filterMap_eq_nil_iff.mpr fun e' he => ?_
      rw [List.mem_singleton.mp he]
      cases e with
      | made f s p =>
        refine if_neg ?_
        rintro rfl
        exact lookup_eq_none.mp (hNoSlot f x.1 p rfl) (List.mem_map_of_mem hx)
      | ended f report failure cache => rfl
    rw [hStocked.whole x hx, hEntry, hNone]
    rfl
  | closed hClosed hEntry =>
    rw [hClosed] at hOpen
    cases hOpen

theorem nextSlot_le_perform (h : Hub) (op : Op) : h.nextSlot ≤ (h.perform op).nextSlot := by
  cases perform_storing h op with
  | kept hStays hEntry => exact Nat.le_of_eq hStays.next.symm
  | created hSlots hNext hEvents hEntry => exact hNext ▸ Nat.le_succ _
  | removed s slot hSlot hSlots hNext hEvents hEntry => exact Nat.le_of_eq hNext.symm
  | applied f s p slot hSlot hSlots hNext hEvents hEntry => exact Nat.le_of_eq hNext.symm
  | passed e finished hNoSlot hSlots hNext hEvents hEntry => exact Nat.le_of_eq hNext.symm
  | closed hClosed hEntry hNext => exact Nat.le_of_eq hNext.symm

theorem stocked_perform (hStocked : h.Stocked c sent) (hDelivered : h.Delivered c sent)
    (hOrderly : h.Orderly) (op : Op) (hOpen : (h.perform op).office.isOpen = true) :
    (h.perform op).Stocked (c ++ op.entry h) sent := by
  have hNext := h.nextSlot_le_perform op
  constructor
  · intro f hStaff
    refine Nat.lt_of_lt_of_le ?_ hNext
    rcases staff_perform hOrderly op hStaff with hOld | ⟨_, _, s, _, hSlot, rfl⟩
    · exact hStocked.staff f hOld
    · obtain ⟨slot, hSome⟩ := Option.isSome_iff_exists.mp (Option.isNone_eq_false_iff.mp hSlot)
      exact hDelivered.lt (List.mem_append_left _ (mem_of_slot? hSome))
  · intro f s p hMade
    exact Nat.lt_of_lt_of_le (hStocked.sent f s p hMade) hNext
  · exact hStocked.whole_storing hDelivered (perform_storing h op) hOpen

end Hub

namespace Plant

variable {κ : Type} {compiler : Compiler κ} {first p p' q : Plant κ} {i j : Nat} {h h' : Hub}

section Works

variable {w' : Factory.Floor κ} {t : TaskId} {f f' : Factory} {mode mode' : Mode State}
  {sent : List Event}

theorem Works.other (hWorks : Works compiler p i j p' h h' w' t f mode f' mode')
    (hOrderly : h.Orderly) {u : TaskId} {g : Factory} {m : Mode State} (hu : u ≠ t)
    (hMember : h.pool.member? u = some (g, m)) : g.id ≠ f.id := fun hId =>
  hu (hOrderly.distinct u t g f m mode hMember hWorks.member hId)

theorem Works.parted (hWorks : Works compiler p i j p' h h' w' t f mode f' mode')
    (hOrderly : h.Orderly) (hOpen : h.office.isOpen = true) (hParted : h.Parted sent) :
    h'.Parted (sent ++ sentIn (p.floorOf h) w') := by
  have hPassage := hWorks.passage
  have hSame := hPassage.identity.1
  have hQuiet {u : TaskId} {g : Factory} {m : Mode State} (hu : u ≠ t)
      (hMember : h.pool.member? u = some (g, m)) :
      endingsIn g.id (sent ++ sentIn (p.floorOf h) w') = endingsIn g.id sent := by
    rw [endingsIn_append, (hPassage.sentIn_other (hWorks.other hOrderly hu hMember)).2,
      List.append_nil]
  have hTurn := hPassage.reported_or_same hOpen
  constructor
  · intro u g m hMember hMode
    rw [hWorks.members] at hMember
    split at hMember
    · cases hMember
      obtain ⟨hBefore, hTicket⟩ := hPassage.books hMode
      rw [hTicket]
      exact hParted.booked t f mode hWorks.member hBefore
    · exact hParted.booked u g m hMember hMode
  · intro u g m hMember hReported
    rw [hWorks.members] at hMember
    split at hMember
    · cases hMember
      rw [hSame, endingsIn_append]
      rcases hTurn with ⟨hIff, hNone⟩ | ⟨hNot, _, hOne⟩
      · rw [hNone, List.append_nil]
        exact hParted.reported t f mode hWorks.member (hIff.mp hReported)
      · rw [hParted.unreported t f mode hWorks.member hNot, List.nil_append]
        exact hOne
    · next hu =>
      rw [hQuiet hu hMember]
      exact hParted.reported u g m hMember hReported
  · intro u g m hMember hNot
    rw [hWorks.members] at hMember
    split at hMember
    · cases hMember
      rw [hSame, endingsIn_append]
      rcases hTurn with ⟨hIff, hNone⟩ | ⟨_, hReported, _⟩
      · rw [hNone, List.append_nil]
        exact hParted.unreported t f mode hWorks.member (mt hIff.mpr hNot)
      · exact absurd hReported hNot
    · next hu =>
      rw [hQuiet hu hMember]
      exact hParted.unreported u g m hMember hNot
  · intro g hNone
    have hg : g ≠ f.id := by
      rintro rfl
      refine hNone t f' mode' ?_ hSame
      rw [hWorks.members, if_pos rfl]
    obtain ⟨hMade, hEnded⟩ := hParted.silent g fun u k m hMember => by
      by_cases hu : u = t
      · subst hu
        rw [hWorks.member] at hMember
        cases hMember
        exact hg.symm
      · refine hNone u k m ?_
        rw [hWorks.members, if_neg hu]
        exact hMember
    obtain ⟨hMore, hMoreEnded⟩ := hPassage.sentIn_other hg
    rw [endingsIn_append, hEnded, hMoreEnded]
    refine ⟨?_, rfl⟩
    rw [madeIn_append]
    exact congrArg₂ (· ++ ·) hMade hMore

theorem Works.stocked (hWorks : Works compiler p i j p' h h' w' t f mode f' mode')
    {c : Hub.Chronicle} (hStocked : h.Stocked c sent) :
    h'.Stocked c (sent ++ sentIn (p.floorOf h) w') := by
  have hWorker := hStocked.staff f (.inr ⟨t, mode, hWorks.member⟩)
  apply hStocked.send
  · rw [hWorks.same]
  · rw [hWorks.same]
  · intro g hG
    rcases hWorks.staff hG with rfl | ⟨hOld, _⟩
    · rw [hWorks.passage.identity.2]
      exact hWorker
    · exact hStocked.staff g hOld
  · intro g s q hMade
    rw [hWorks.passage.made_slot hMade]
    exact hWorker

end Works

theorem Run.parted {limit : Option Nat} {k : κ} {settings : List HubSettings}
    (r : Run compiler (founded limit k settings) p) (hHub : p.hub? i = some h)
    (hOpen : h.office.isOpen = true) : h.Parted (r.sent i) := by
  refine r.along_open_hub (P := fun r h => h.Parted (r.sent i)) ?_ ?_ ?_ ?_ hHub hOpen
  · exact Hub.parted_initial
  · intro p p' r m hMove h hElsewhere ih
    rw [r.sent_of_elsewhere hMove hElsewhere]
    exact ih
  · intro p p' r op hMove h hHub hOpen hOpen' ih
    rw [r.sent_of_quiet hMove rfl]
    exact Hub.parted_perform ih (r.orderly i h hHub) (r.booked i h hHub) op
  · intro p p' r j hMove h h' w' t f f' mode mode' hOpen hWorks ih
    rw [r.sent_of_works hMove hWorks]
    exact hWorks.parted (r.orderly i h hWorks.hub) hOpen ih

theorem Run.stocked {limit : Option Nat} {k : κ} {settings : List HubSettings}
    (r : Run compiler (founded limit k settings) p) (hHub : p.hub? i = some h)
    (hOpen : h.office.isOpen = true) : h.Stocked (r.chronicle i) (r.sent i) := by
  refine r.along_open_hub (P := fun r h => h.Stocked (r.chronicle i) (r.sent i)) ?_ ?_ ?_ ?_
    hHub hOpen
  · exact Hub.stocked_initial
  · intro p p' r m hMove h hElsewhere ih
    rw [r.chronicle_aside hMove hElsewhere.spares, r.sent_of_elsewhere hMove hElsewhere]
    exact ih
  · intro p p' r op hMove h hHub hOpen hOpen' ih
    rw [r.chronicle_own hHub hMove, r.sent_of_quiet hMove rfl]
    exact Hub.stocked_perform ih (r.delivered hHub hOpen) (r.orderly i h hHub) op hOpen'
  · intro p p' r j hMove h h' w' t f f' mode mode' hOpen hWorks ih
    rw [r.chronicle_aside (m := .work i j) hMove trivial, r.sent_of_works hMove hWorks]
    exact hWorks.stocked ih

end Plant

end PipelineForge
