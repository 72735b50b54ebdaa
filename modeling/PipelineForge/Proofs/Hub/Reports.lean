import PipelineForge.Proofs.Factory.Reports
import PipelineForge.Proofs.Hub.Duplicates

/-!
# Reports that reach a hub

In every run, whatever is registered, aborted, refused or faulted and whenever it is, the report
that a factory sends with its end is a first part of a word of states and fits how the factory
ended. What the factories make and which of them come to an end is left out.
-/

namespace PipelineForge

open Factory (Event Halts Inbox Report State sentIn)
open Tasks (Mode TaskId)

theorem Factory.Fresh.tracks {key : FactoryId} {f : Factory} (hFresh : f.Fresh key)
    (axes : List Characteristic) (doom : Option ForgeError) :
    f.Tracks axes doom (.resting .start) :=
  Factory.tracks_start (congrArg Factory.report hFresh) (congrArg Factory.error hFresh)
    (congrArg Factory.plan hFresh)

namespace Hub

variable {h h' : Hub} {axes more : FactoryId → List Characteristic}
  {doom doom' : FactoryId → Option ForgeError} {sent : List Event}

/-- The axes are what was registered with each factory, and the dooms what its inbox shows. -/
structure Tracked (h : Hub) (axes : FactoryId → List Characteristic)
    (doom : FactoryId → Option ForgeError) (sent : List Event) : Prop where
  waiting : ∀ g, (h.office.inbox g).pending ⊆ axes g
  members : ∀ t f m, h.pool.member? t = some (f, m) → f.Tracks (axes f.id) (doom f.id) m
  ended : ∀ g report failure cache, .ended g report failure cache ∈ sent →
    report.Accords (axes g) (doom g) failure

theorem tracked_initial (settings : HubSettings) (axes : FactoryId → List Characteristic)
    (doom : FactoryId → Option ForgeError) : ({ settings } : Hub).Tracked axes doom [] := by
  constructor
  · intro g
    exact List.nil_subset _
  · intro t f m hMember
    cases hMember
  · intro g report failure cache hEnded
    cases hEnded

theorem Tracked.mono (hTracked : h.Tracked axes doom sent) (hAxes : ∀ g, axes g ⊆ more g)
    (hDoom : ∀ g e, doom g = some e → doom' g = some e) : h.Tracked more doom' sent := by
  constructor
  · exact fun g => List.Subset.trans (hTracked.waiting g) (hAxes g)
  · exact fun t f m hMember => (hTracked.members t f m hMember).mono (hAxes f.id) (hDoom f.id)
  · exact fun g report failure cache hEnded =>
      (hTracked.ended g report failure cache hEnded).mono (hAxes g) (hDoom g)

theorem pending_perform_subset (hOrderly : h.Orderly) (op : Op) (g : FactoryId) :
    ((h.perform op).office.inbox g).pending ⊆ (h.office.inbox g).pending ++ op.admits h g := by
  have hSame {o : Factory.Office} (hInbox : o.inbox g = h.office.inbox g) :
      (o.inbox g).pending ⊆ (h.office.inbox g).pending ++ op.admits h g := by
    rw [hInbox]
    exact List.subset_append_left _ _
  cases perform_change hOrderly op with
  | enrolled f hFresh hAlike hInboxes => exact hSame (Factory.Office.inbox_of_append hInboxes g)
  | registered f c hKnown hAlike hInboxes hOpen hPending hAdmits =>
    rw [Factory.Office.inbox_of_set hInboxes, hAdmits]
    split
    · next hOwn =>
      obtain ⟨rfl, _⟩ := hOwn
      rw [(Factory.grown_register (h.office.inbox g) c).pending]
      simp only [true_and]
      exact List.Subset.refl _
    · exact List.subset_append_left _ _
  | closed f hKnown hAlike hInboxes =>
    rw [Factory.Office.inbox_of_set hInboxes]
    split
    · next hOwn =>
      rw [← hOwn.1]
      exact List.subset_append_left _ _
    · exact List.subset_append_left _ _
  | started key f hFactory hMembers hBodies hInboxes =>
    exact hSame (Factory.Office.inbox_congr hInboxes g)
  | shed hAlike hInboxes => exact hSame (Factory.Office.inbox_congr hInboxes g)

theorem Tracked.perform (hTracked : h.Tracked axes doom sent) (hOrderly : h.Orderly) (op : Op) :
    (h.perform op).Tracked (fun g => axes g ++ op.admits h g) doom sent := by
  have hMore : h.Tracked (fun g => axes g ++ op.admits h g) doom sent :=
    hTracked.mono (fun g => List.subset_append_left _ _) fun _ _ => id
  refine ⟨fun g => ?_, fun t f m hMember => ?_, hMore.ended⟩
  · refine List.Subset.trans (pending_perform_subset hOrderly op g) ?_
    exact List.append_subset.mpr
      ⟨List.subset_append_of_subset_left _ (hTracked.waiting g), List.subset_append_right _ _⟩
  · rcases member_perform hOrderly op hMember with hOld | ⟨hNew, rfl⟩
    · exact hMore.members t f m hOld
    · exact (hOrderly.fresh f.id f hNew).tracks _ _

end Hub

namespace Plant

variable {κ : Type} {compiler : Compiler κ} {first p p' : Plant κ} {i j : Nat} {h h' : Hub}
  {m : Move κ}

/-- A step of a worker keeps the reports of all factories of the hub on their trails. -/
theorem Works.tracked {w' : Factory.Floor κ} {t : TaskId} {f f' : Factory}
    {mode mode' : Mode State} {axes : FactoryId → List Characteristic}
    {doom : FactoryId → Option ForgeError} {sent : List Event}
    (hWorks : Works compiler p i j p' h h' w' t f mode f' mode')
    (hDoom : ∀ g, (h.office.inbox g).failed = doom g) (hTracked : h.Tracked axes doom sent) :
    h'.Tracked axes doom (sent ++ sentIn (p.floorOf h) w') := by
  have hBefore := hTracked.members t f mode hWorks.member
  constructor
  · intro g
    rw [hWorks.office]
    rcases hWorks.passage.inbox_cases g with hSame | hEmptied
    · rw [hSame]
      exact hTracked.waiting g
    · rw [hEmptied]
      exact List.nil_subset _
  · intro u k m hMember
    rw [hWorks.members] at hMember
    split at hMember
    · cases hMember
      rw [hWorks.passage.identity.1]
      exact hWorks.passage.tracks hBefore (hDoom f.id) (hTracked.waiting f.id)
    · exact hTracked.members u k m hMember
  · intro g report failure cache hEnded
    rcases List.mem_append.mp hEnded with hOld | hNew
    · exact hTracked.ended g report failure cache hOld
    · obtain ⟨rfl, hAccords⟩ := hWorks.passage.accords hBefore hNew
      exact hAccords

theorem Run.sent_of_absent (r : Run compiler first p) (hNone : p.hub? i = none) :
    r.sent i = [] := by
  induction r with
  | start => rfl
  | @next p p' r m hMove ih =>
    have hBefore : p.hub? i = none := by
      rw [hub?, List.getElem?_eq_none_iff] at hNone ⊢
      rwa [length_hubs_move hMove] at hNone
    have hOther {k : Nat} {h : Hub} (hHub : p.hub? k = some h) : k ≠ i := by
      rintro rfl
      rw [hBefore] at hHub
      cases hHub
    have hElsewhere : m.Elsewhere i := by
      cases m with
      | own k op =>
        obtain ⟨h, hHub, _⟩ := move_own hMove
        exact hOther hHub
      | work k j =>
        obtain ⟨h, hHub, _⟩ := Option.bind_eq_some_iff.mp hMove
        exact hOther hHub
      | _ => exact trivial
    rw [r.sent_of_elsewhere hMove hElsewhere, ih hBefore]

section Runs

variable {limit : Option Nat} {k : κ} {settings : List HubSettings} {g : FactoryId}

theorem Run.tracked (r : Run compiler (founded limit k settings) p) (hHub : p.hub? i = some h) :
    h.Tracked (r.admitted i) (r.duplicate? i) (r.sent i) := by
  refine r.along_hub (P := fun r h => h.Tracked (fun g => r.admitted i g) (r.duplicate? i)
    (r.sent i)) ?_ ?_ hHub
  · exact fun s => Hub.tracked_initial s _ _
  · intro p p' r m hMove h h' hHub hStir ih
    have hDoom (g : FactoryId) (e : ForgeError) (hSome : r.duplicate? i g = some e) :
        (r.next m hMove).duplicate? i g = some e := Run.duplicate?_next hSome hMove
    have hLater := ih.mono
      (fun g => List.subset_append_left (r.admitted i g) (p.admitted i g m)) hDoom
    cases hStir with
    | spared hSame hElsewhere =>
      rw [hSame, r.sent_of_elsewhere hMove hElsewhere]
      exact hLater
    | owned op hm hOpen hPerform =>
      subst hm hPerform
      rw [r.sent_of_quiet hMove rfl]
      have hAdmitted (g : FactoryId) : p.admitted i g (.own i op) = op.admits h g := by
        simp only [Plant.admitted, hHub, if_true]
      have hPerformed :=
        (ih.perform (r.orderly i h hHub) op).mono (fun g => List.Subset.refl _) hDoom
      simp only [← hAdmitted] at hPerformed
      exact hPerformed
    | worked j w' t f f' mode mode' hm hWorks =>
      subst hm
      rw [r.sent_of_works hMove hWorks]
      exact (hWorks.tracked (fun g => r.failed_inbox hHub) ih).mono
        (fun g => List.subset_append_left _ _) hDoom

/-- In every run, the states in the report that a factory sends with its end are a first part of a
word; the factory succeeds exactly if the last of them is the last one of the word, an error of its
own stops it where the error belongs, and it makes nothing unless it generates. If its
characteristics fail with errors about setting up only, the error alone tells the states in which it
can have stopped. -/
theorem report_fits_end (r : Run compiler (founded limit k settings) p) {report : Report}
    {failure : Option ForgeError} {cache : Option CacheId}
    (hEnded : Event.ended g report failure cache ∈ r.sent i) :
    (∃ n, report.states <+: State.word n) ∧
    (failure = none ↔ report.states.getLast? = some .done) ∧
    (∀ e, failure = some e → e = .aborted ∨ ∃ s, report.states.getLast? = some s ∧
      Halts (r.admitted i g) (r.duplicate? i g) e s ∧
      ((∀ c ∈ r.admitted i g, c.Candid) → s ∈ e.stops)) ∧
    (State.generate ∉ report.states → report.pipelines = 0) := by
  cases hHub : p.hub? i with
  | none =>
    rw [r.sent_of_absent hHub] at hEnded
    cases hEnded
  | some h =>
    obtain ⟨hWord, hSuccess, hHalted, hIdle⟩ :=
      (r.tracked hHub).ended g report failure cache hEnded
    refine ⟨hWord, hSuccess, fun e hFailure => ?_, hIdle⟩
    refine (hHalted e hFailure).imp_right ?_
    rintro ⟨s, hLast, hHalts⟩
    exact ⟨s, hLast, hHalts, fun hCandid =>
      hHalts.mem_stops hCandid fun e hDoom => List.find?_some hDoom⟩

end Runs

/-- One factory is done, and another one, of which a characteristic was registered twice, is not. -/
theorem report_fits_end_twice :
    (∃ report cache, Event.ended 0 report none cache ∈ pairRun.2.sent 0 ∧
      report.states.getLast? = some .done) ∧
    ∃ report cache, Event.ended 1 report (some (.duplicateRegistration "samples")) cache ∈
      doomedRun.2.sent 0 ∧ (∃ n, report.states <+: State.word n) ∧
      report.states.getLast? ≠ some .done ∧
      (∃ s ∈ (ForgeError.duplicateRegistration "samples").stops,
        report.states.getLast? = some s) ∧ report.pipelines = 0 := by
  have hDone : Event.ended 0 ⟨[.start, .setUp, .settled, .generate, .done], 2, 0, 2⟩ none
      (some 0) ∈ pairRun.2.sent 0 := by decide +kernel
  have hEnded : Event.ended 1 ⟨[.start, .setUp], 0, 0, 0⟩
      (some (.duplicateRegistration "samples")) (some 0) ∈ doomedRun.2.sent 0 := by
    decide +kernel
  have hAdmitted : doomedRun.2.admitted 0 1 = [samples] := by rfl
  have hLast := (report_fits_end pairRun.2 hDone).2.1.mp rfl
  obtain ⟨hWord, hSuccess, hHalted, hIdle⟩ := report_fits_end doomedRun.2 hEnded
  obtain ⟨s, hStopped, _, hStops⟩ := (hHalted _ rfl).resolve_left nofun
  refine ⟨⟨_, _, hDone, hLast⟩, _, _, hEnded, hWord, mt hSuccess.mpr nofun,
    ⟨s, hStops ?_, hStopped⟩, hIdle (by decide)⟩
  rw [hAdmitted]
  exact List.forall_mem_singleton.mpr
    (Standard.candid_of_build (s := .constant "samples" 1 0 ⟨2, 4, by decide⟩) rfl)

end Plant

end PipelineForge
