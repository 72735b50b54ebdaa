import PipelineForge.Proofs.Hub.Settlement

/-!
# Tallies of events

Every end that a factory sends reports as many pipelines as the factory sent before it, and comes
last. So an end that is next to be taken is behind all pipelines of its factory, and the updates
list each factory once at most. What the pipelines are makes no difference here.
-/

namespace PipelineForge

open Factory (Event Report State endingsIn endingsIn_append madeIn madeIn_append sentIn)
open Tasks (Mode TaskId)

namespace Hub

variable {h : Hub} {g : FactoryId} {sent : List Event} {c : Chronicle}

theorem entry_take {e : Event} {events : List Event} (hEvents : h.office.events = e :: events) :
    Op.take.entry h = {
      taken := [e]
      applied := (h.destination? e).toList
      update := (applyEvent { h with office := { h.office with events } } {} e).2 } := by
  simp only [Op.entry, hEvents, List.head?_cons, take?]

theorem endingsIn_ne_nil {events : List Event} (hEnded : ∃ report failure cache,
    Event.ended g report failure cache ∈ events) : endingsIn g events ≠ [] := by
  obtain ⟨report, failure, cache, hMem⟩ := hEnded
  exact List.ne_nil_of_mem (List.mem_filterMap.mpr ⟨_, hMem, if_pos rfl⟩)

theorem endingsIn_cons_ended (report : Report) (failure : Option ForgeError)
    (cache : Option CacheId) (events : List Event) :
    endingsIn g (.ended g report failure cache :: events) =
      (report, failure) :: endingsIn g events := by
  simp [endingsIn]

theorem Parted.length_endings (hParted : h.Parted sent) (g : FactoryId) :
    (endingsIn g sent).length ≤ 1 := by
  by_cases hMember : ∃ t f m, h.pool.member? t = some (f, m) ∧ f.id = g
  · obtain ⟨t, f, m, hSome, rfl⟩ := hMember
    by_cases hReported : f.Reported m
    · exact Nat.le_of_eq (hParted.reported t f m hSome hReported)
    · rw [hParted.unreported t f m hSome hReported]
      exact Nat.zero_le 1
  · rw [(hParted.silent g fun t f m hSome hId => hMember ⟨t, f, m, hSome, hId⟩).2]
    exact Nat.zero_le 1

theorem Parted.member_of_endings (hParted : h.Parted sent) (hEnded : endingsIn g sent ≠ []) :
    ∃ t f m, h.pool.member? t = some (f, m) ∧ f.id = g ∧ f.Reported m := by
  by_contra hNone
  refine hEnded ?_
  by_cases hMember : ∃ t f m, h.pool.member? t = some (f, m) ∧ f.id = g
  · obtain ⟨t, f, m, hSome, rfl⟩ := hMember
    exact hParted.unreported t f m hSome fun hReported => hNone ⟨t, f, m, hSome, rfl, hReported⟩
  · exact (hParted.silent g fun t f m hSome hId => hMember ⟨t, f, m, hSome, hId⟩).2

theorem Delivered.endings (hDelivered : h.Delivered c sent) (g : FactoryId) :
    endingsIn g sent = endingsIn g c.taken ++ endingsIn g h.office.events := by
  rw [hDelivered.queue, endingsIn_append]

theorem events_perform (op : Op) (hOpen : (h.perform op).office.isOpen = true) :
    h.office.events = (op.entry h).taken ++ (h.perform op).office.events := by
  cases perform_storing h op with
  | kept hStays hEntry =>
    rw [hEntry, hStays.events]
    rfl
  | created hSlots hNext hEvents hEntry =>
    rw [hEntry, hEvents]
    rfl
  | removed s slot hSlot hSlots hNext hEvents hEntry =>
    rw [hEntry, hEvents]
    rfl
  | applied f s p slot hSlot hSlots hNext hEvents hEntry =>
    rw [hEntry, hEvents]
    rfl
  | passed e finished hNoSlot hSlots hNext hEvents hEntry =>
    rw [hEntry, hEvents]
    rfl
  | closed hClosed =>
    rw [hClosed] at hOpen
    cases hOpen

theorem taken_entry (h : Hub) (op : Op) : (op.entry h).taken <+: h.office.events := by
  cases hOpen : (h.perform op).office.isOpen with
  | true =>
    rw [events_perform op hOpen]
    exact List.prefix_append _ _
  | false =>
    cases op with
    | take =>
      cases hEvents : h.office.events with
      | nil => simp [Op.entry, hEvents]
      | cons e events =>
        rw [entry_take hEvents]
        exact ⟨events, rfl⟩
    | _ => exact List.nil_prefix

theorem member_perform (hOrderly : h.Orderly) (op : Op) {t : TaskId} {f : Factory} {m : Mode State}
    (hMember : (h.perform op).pool.member? t = some (f, m)) :
    h.pool.member? t = some (f, m) ∨ h.pending? f.id = some f ∧ m = .resting .start := by
  cases perform_change hOrderly op with
  | started key k hFactory hMembers =>
    rw [hMembers] at hMember
    split at hMember
    · cases hMember
      have hId : f.id = key := by rw [hOrderly.fresh key f hFactory]
      exact .inr ⟨hId.symm ▸ hFactory, rfl⟩
    · exact .inl hMember
  | enrolled k hFresh hAlike => exact .inl (hAlike.members t ▸ hMember)
  | registered k c hKnown hAlike => exact .inl (hAlike.members t ▸ hMember)
  | closed k hKnown hAlike => exact .inl (hAlike.members t ▸ hMember)
  | shed hAlike => exact .inl (hAlike.members t ▸ hMember)

theorem member_lasts (hOrderly : h.Orderly) (op : Op) {t : TaskId} {f : Factory} {m : Mode State}
    (hMember : h.pool.member? t = some (f, m)) : (h.perform op).pool.member? t = some (f, m) := by
  cases perform_change hOrderly op with
  | started key k hFactory hMembers =>
    rw [hMembers, if_neg (Nat.ne_of_lt (member?_lt hMember)), hMember]
  | enrolled k hFresh hAlike => rw [hAlike.members, hMember]
  | registered k c hKnown hAlike => rw [hAlike.members, hMember]
  | closed k hKnown hAlike => rw [hAlike.members, hMember]
  | shed hAlike => rw [hAlike.members, hMember]

/-- Each end in a history reports as many pipelines as were sent before it, and nothing of the
factory comes after it. -/
def Summed (sent : List Event) : Prop :=
  ∀ before g report failure cache after, sent = before ++ .ended g report failure cache :: after →
    (madeIn g before).length = report.pipelines ∧ madeIn g after = []

theorem Summed.snoc (hSummed : Summed sent) {e : Event}
    (hMade : ∀ g s p, e = .made g s p → endingsIn g sent = [])
    (hEnded : ∀ g report failure cache, e = .ended g report failure cache →
      (madeIn g sent).length = report.pipelines) : Summed (sent ++ [e]) := by
  intro before g report failure cache after hSplit
  rcases List.eq_nil_or_concat' after with rfl | ⟨after, last, rfl⟩
  · obtain ⟨rfl, hLast⟩ := List.append_inj' hSplit rfl
    exact ⟨hEnded g report failure cache (List.singleton_inj.mp hLast), rfl⟩
  · rw [← List.cons_append, ← List.append_assoc] at hSplit
    obtain ⟨hBefore, hLast⟩ := List.append_inj' hSplit rfl
    obtain rfl := List.singleton_inj.mp hLast
    obtain ⟨hCount, hNone⟩ := hSummed before g report failure cache after hBefore
    refine ⟨hCount, ?_⟩
    rw [madeIn_append, hNone, List.nil_append]
    cases e with
    | ended k report' failure' cache' => rfl
    | made k s p =>
      refine List.filterMap_eq_nil_iff.mpr fun x hx => ?_
      obtain rfl := List.mem_singleton.mp hx
      -- A factory that had sent its end sends nothing more.
      refine if_neg ?_
      rintro rfl
      refine endingsIn_ne_nil ⟨report, failure, cache, ?_⟩ (hMade k s p rfl)
      rw [hBefore]
      exact List.mem_append_right _ List.mem_cons_self

/-- The reports of the factories of a hub tell how many pipelines they sent. -/
structure Tallied (h : Hub) (sent : List Event) : Prop where
  counted : ∀ t f m, h.pool.member? t = some (f, m) → ¬ f.Reported m →
    (madeIn f.id sent).length = f.report.pipelines
  summed : Summed sent

theorem tallied_initial (settings : HubSettings) : ({ settings } : Hub).Tallied [] := by
  constructor
  · intro t f m hMember
    cases hMember
  · intro before g report failure cache after hSplit
    cases before <;> cases hSplit

theorem Tallied.perform (hTallied : h.Tallied sent) (hOrderly : h.Orderly)
    (hParted : h.Parted sent) (op : Op) : (h.perform op).Tallied sent := by
  refine ⟨fun t f m hMember hNot => ?_, hTallied.summed⟩
  rcases member_perform hOrderly op hMember with hOld | ⟨hNew, _⟩
  · exact hTallied.counted t f m hOld hNot
  · have hReport : f.report = {} := by rw [hOrderly.fresh f.id f hNew]
    rw [hReport, (hParted.silent f.id fun u k n hOther =>
      hOrderly.apart f.id f u k n hNew hOther).1]
    rfl

theorem count_finished_entry (h : Hub) (op : Op) (g : FactoryId) :
    (op.entry h).update.finished.count g ≤ (endingsIn g (op.entry h).taken).length := by
  cases op with
  | take =>
    cases hEvents : h.office.events with
    | nil => simp [Op.entry, hEvents]
    | cons e events =>
      rw [entry_take hEvents]
      cases e with
      | made f s p =>
        simp only [applyEvent, deliver]
        split <;> exact Nat.zero_le _
      | ended f report failure cache =>
        simp only [applyEvent, conclude]
        split
        · exact Nat.zero_le _
        · by_cases hf : f = g <;> simp [endingsIn, hf]
  | _ => exact Nat.zero_le _

end Hub

namespace Plant

variable {κ : Type} {compiler : Compiler κ} {first p p' : Plant κ} {i j : Nat} {h h' : Hub}

theorem Works.tallied {w' : Factory.Floor κ} {t : TaskId} {f f' : Factory}
    {mode mode' : Mode State} {sent : List Event}
    (hWorks : Works compiler p i j p' h h' w' t f mode f' mode')
    (hOrderly : h.Orderly) (hOpen : h.office.isOpen = true) (hParted : h.Parted sent)
    (hTallied : h.Tallied sent) : h'.Tallied (sent ++ sentIn (p.floorOf h) w') := by
  have hPassage := hWorks.passage
  constructor
  · intro u k m hMember hNot
    rw [hWorks.members] at hMember
    split at hMember
    · cases hMember
      have hBefore : ¬ f.Reported mode := by
        rcases hPassage.reported_or_same hOpen with ⟨hIff, _⟩ | ⟨hNot, _⟩
        · exact mt hIff.mpr hNot
        · exact hNot
      rw [hPassage.counts hNot, hPassage.identity.1, madeIn_append, List.length_append,
        hTallied.counted t f mode hWorks.member hBefore]
    · next hu =>
      rw [madeIn_append, (hPassage.sentIn_other (hWorks.other hOrderly hu hMember)).1,
        List.append_nil]
      exact hTallied.counted u k m hMember hNot
  · have hFresh (hBefore : ¬ f.Reported mode) : endingsIn f.id sent = [] :=
      hParted.unreported t f mode hWorks.member hBefore
    rcases hPassage.sentIn_cases with
      hSent | ⟨q, _, rfl, hSent⟩ | ⟨failure, hPoint, rfl, _, _, hSent⟩
    · rw [hSent, List.append_nil]
      exact hTallied.summed
    · rw [hSent]
      refine hTallied.summed.snoc ?_ ?_
      · rintro _ _ _ ⟨⟩
        exact hFresh (by simp [Factory.Reported])
      · rintro _ _ _ _ ⟨⟩
    · rw [hSent]
      refine hTallied.summed.snoc ?_ ?_
      · rintro _ _ _ ⟨⟩
      · rintro _ _ _ _ ⟨⟩
        exact hTallied.counted t f .leaving hWorks.member (by simp [Factory.Reported, hPoint])

section Runs

variable {limit : Option Nat} {k : κ} {settings : List HubSettings}

theorem Run.tallied (r : Run compiler (founded limit k settings) p) (hHub : p.hub? i = some h)
    (hOpen : h.office.isOpen = true) : h.Tallied (r.sent i) := by
  refine r.along_open_hub (P := fun r h => h.Tallied (r.sent i)) ?_ ?_ ?_ ?_ hHub hOpen
  · exact Hub.tallied_initial
  · intro p p' r m hMove h hElsewhere ih
    rw [r.sent_of_elsewhere hMove hElsewhere]
    exact ih
  · intro p p' r op hMove h hHub hOpen hOpen' ih
    rw [r.sent_of_quiet hMove rfl]
    exact ih.perform (r.orderly i h hHub) (r.parted hHub hOpen) op
  · intro p p' r j hMove h h' w' t f f' mode mode' hOpen hWorks ih
    rw [r.sent_of_works hMove hWorks]
    exact hWorks.tallied (r.orderly i h hWorks.hub) hOpen (r.parted hWorks.hub hOpen) ih

/-- What holds of all that open hubs sent holds of all that any hub sent: a closed one gets
nothing. -/
theorem Run.sent_of_open (P : List Event → Prop) (hNil : P [])
    (hOpen : ∀ {p : Plant κ} (r : Run compiler (founded limit k settings) p) (h : Hub),
      p.hub? i = some h → h.office.isOpen = true → P (r.sent i))
    (r : Run compiler (founded limit k settings) p) (hHub : p.hub? i = some h) :
    P (r.sent i) := by
  refine r.along_hub (P := fun r _ => P (r.sent i)) ?_ ?_ hHub
  · exact fun _ => hNil
  · intro p p' r m hMove h h' hHub hStir ih
    cases hStir with
    | spared hSame hElsewhere =>
      rw [r.sent_of_elsewhere hMove hElsewhere]
      exact ih
    | owned op hm =>
      subst hm
      rw [r.sent_of_quiet hMove rfl]
      exact ih
    | worked j w' t f f' mode mode' hm hWorks =>
      subst hm
      cases hStill : h.office.isOpen with
      | true =>
        refine hOpen (r.next _ hMove) h' ?_ ?_
        · rw [hWorks.hub?, if_pos rfl]
        · rw [hWorks.office, hWorks.passage.isOpen]
          exact hStill
      | false =>
        rw [r.sent_of_works hMove hWorks, hWorks.passage.sentIn_of_closed hStill, List.append_nil]
        exact ih

theorem Run.summed (r : Run compiler (founded limit k settings) p) (hHub : p.hub? i = some h) :
    Hub.Summed (r.sent i) := by
  refine Run.sent_of_open Hub.Summed ?_ (fun r h hHub hOpen => (r.tallied hHub hOpen).summed) r hHub
  exact (Hub.tallied_initial {}).summed

theorem Run.taken_prefix (r : Run compiler (founded limit k settings) p)
    (hHub : p.hub? i = some h) : (r.chronicle i).taken <+: r.sent i := by
  refine r.along_hub (P := fun r _ => (r.chronicle i).taken <+: r.sent i)
    (fun _ => List.prefix_rfl) ?_ hHub
  intro p p' r m hMove h h' hHub hStir ih
  cases hStir with
  | spared hSame hElsewhere =>
    rw [r.sent_of_elsewhere hMove hElsewhere, r.chronicle_aside hMove hElsewhere.spares]
    exact ih
  | owned op hm hOpen =>
    subst hm
    rw [r.sent_of_quiet hMove rfl, r.chronicle_own hHub hMove, (r.delivered hHub hOpen).queue]
    exact (List.prefix_append_right_inj _).mpr (h.taken_entry op)
  | worked j w' t f f' mode mode' hm hWorks =>
    subst hm
    rw [r.sent_of_works hMove hWorks, r.chronicle_aside (m := .work i j) hMove trivial]
    exact ih.trans (List.prefix_append _ _)

theorem Run.count_finished (r : Run compiler first p) (i : Nat) (g : FactoryId) :
    (r.chronicle i).update.finished.count g ≤ (endingsIn g (r.chronicle i).taken).length := by
  induction r with
  | start => exact Nat.zero_le _
  | @next p q r m hMove ih =>
    have hFinished : (r.chronicle i ++ p.entry i m).update.finished =
        (r.chronicle i).update.finished ++ (p.entry i m).update.finished := rfl
    have hTaken : endingsIn g (r.chronicle i ++ p.entry i m).taken =
        endingsIn g (r.chronicle i).taken ++ endingsIn g (p.entry i m).taken :=
      endingsIn_append g _ _
    rw [chronicle, hFinished, hTaken, List.count_append, List.length_append]
    refine Nat.add_le_add ih ?_
    rw [entry]
    split
    · exact Hub.count_finished_entry _ _ _
    · exact Nat.zero_le _

theorem Run.count_finished_le_one (r : Run compiler (founded limit k settings) p)
    (hHub : p.hub? i = some h) (g : FactoryId) :
    (r.chronicle i).update.finished.count g ≤ 1 := by
  have hSent : (endingsIn g (r.sent i)).length ≤ 1 :=
    Run.sent_of_open (fun sent => (endingsIn g sent).length ≤ 1) (Nat.zero_le 1)
      (fun r h hHub hOpen => (r.parted hHub hOpen).length_endings g) r hHub
  have hTaken : (endingsIn g (r.chronicle i).taken).length ≤ (endingsIn g (r.sent i)).length :=
    ((r.taken_prefix hHub).filterMap _).length_le
  exact (r.count_finished i g).trans (hTaken.trans hSent)

end Runs

end Plant

end PipelineForge
