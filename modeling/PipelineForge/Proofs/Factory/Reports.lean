import PipelineForge.Proofs.Factory.Courses
import PipelineForge.Proofs.Factory.Trails

/-!
# Reports of factories

Every turn leaves the report of a factory on the trail to the state that the factory is in or comes
to, and when its task has ended, by itself, by an abort or by a fault, the report fits how it ended.
What the axes are and what the compiler answers makes no difference. How long the factory waits in a
state, and whether it counts its pipelines rightly, is left out.
-/

namespace PipelineForge

open Axis

theorem Axis.Odometer.current_inside (o : Odometer) :
    List.Forall₂ (· ∈ ·) o.current o.spans := by
  rw [current, spans, List.forall₂_map_left_iff, List.forall₂_map_right_iff]
  exact List.forall₂_same.mpr fun w _ => w.value_mem

namespace Factory

open Tasks (Mode Outcome Reply)

section Orders

theorem setupAll_eq_some {context : Context} {cs : List Characteristic} {b : Blueprint}
    {t : Trouble ForgeError} (h : (Characteristic.setupAll context cs b).2.2 = some t) :
    ∃ c ∈ cs, ∃ given, (c.setup context given).2 = some t := by
  induction cs generalizing b with
  | nil => cases h
  | cons c cs ih =>
    rw [Characteristic.setupAll] at h
    split at h
    · next b' t' hSetup =>
      cases h
      exact ⟨c, List.mem_cons_self, b, congrArg Prod.snd hSetup⟩
    · obtain ⟨d, hMem, given, hTrouble⟩ := ih h
      exact ⟨d, List.mem_cons_of_mem _ hMem, given, hTrouble⟩

theorem orderOf_ne_error {f : Factory} {plan : Plan}
    (hSpans : plan.odometer.spans = f.axes.map Characteristic.span) (e : ForgeError) :
    orderOf f plan ≠ .error (.error e) := by
  obtain ⟨index, _, hFilled, _⟩ :=
    fillAll_of_inside (hSpans ▸ plan.odometer.current_inside) .zero f.base
  intro hOrder
  rw [orderOf, hFilled] at hOrder
  split at hOrder
  · cases hOrder
  · cases hOrder

end Orders

/-- The points at which a factory works on a state. -/
def Point.At : Point → State → Prop
  | .entering, _ => True
  | .acquiring, s => s = .start
  | .ordering _, s | .compiling _ _, s | .storing _ _, s | .discarding _ _, s
  | .handingOff _, s => s = .generate
  | _, _ => False

/-- What a factory is that comes to a state, or works on it. -/
structure Poised (f : Factory) (s : State) : Prop where
  error : f.error = none
  cache : s = .start ∨ f.cache ≠ none
  plan : ∀ plan, f.plan = some plan →
    s.listens = false ∧ plan.odometer.spans = f.axes.map Characteristic.span
  idle : State.generate ∉ f.report.states → f.report.pipelines = 0

/-- What the report of a factory is by the mode of its task: a trail to the state that it is in or
comes to, and fit to be sent once the task has ended. -/
def Tracks (axes : List Characteristic) (doom : Option ForgeError) (f : Factory) :
    Mode State → Prop
  | .resting s => Bound f.report.states s ∧ f.Poised s
  | .working => Trail f.report.states f.state ∧ f.Poised f.state ∧ f.point.At f.state
  | .ended outcome => f.report.Accords axes doom (f.failureOf outcome)
  | .leaving => ∀ failure, f.point = .reporting failure → f.report.Accords axes doom failure
  | _ => True

section Invariant

variable {κ : Type} {compiler : Compiler κ} {hub : Nat} {w w' : Floor κ} {f f' : Factory}
  {mode mode' : Mode State} {reply : Reply State} {axes more : List Characteristic}
  {doom doom' : Option ForgeError} {s : State}

theorem Tracks.mono (h : f.Tracks axes doom mode) (hAxes : axes ⊆ more)
    (hDoom : ∀ e, doom = some e → doom' = some e) : f.Tracks more doom' mode := by
  cases mode with
  | ended outcome => exact Report.Accords.mono h hAxes hDoom
  | leaving => exact fun failure hPoint => (h failure hPoint).mono hAxes hDoom
  | _ => exact h

theorem Poised.congr (h : f.Poised s) (hError : f'.error = f.error) (hCache : f'.cache = f.cache)
    (hPlan : f'.plan = f.plan) (hAxes : f'.axes = f.axes)
    (hStates : f'.report.states = f.report.states)
    (hCount : f'.report.pipelines = f.report.pipelines) : f'.Poised s := by
  constructor
  · exact hError.trans h.error
  · exact hCache ▸ h.cache
  · exact hPlan ▸ hAxes ▸ h.plan
  · exact hStates ▸ hCount ▸ h.idle

theorem Poised.moves (h : f.Poised s) {s' : State} (hListens : s.listens = true)
    (hError : f'.error = f.error) (hCache : f'.cache ≠ none) (hPlan : f'.plan = f.plan)
    (hReport : f'.report = f.report) : f'.Poised s' := by
  constructor
  · exact hError.trans h.error
  · exact .inr hCache
  · intro plan hSome
    rw [hPlan] at hSome
    rw [(h.plan plan hSome).1] at hListens
    cases hListens
  · exact hReport ▸ h.idle

theorem Poised.enter (h : f.Poised s) : (f.enter s).Poised s := by
  refine ⟨h.error, h.cache, h.plan, fun hNone => ?_⟩
  rw [Factory.enter, Report.pipelines_visit]
  exact h.idle fun hMem => hNone (f.report.visit_subset s hMem)

section Working

variable (hTrail : Trail f.report.states f.state) (hPoised : f.Poised f.state)

include hTrail hPoised

theorem tracks_failing {e : ForgeError} (hBusy : f.state ≠ .done)
    (hReport : f'.report = f.report) (hFailure : f'.failureOf .aborted = some e)
    (hCause : e = .aborted ∨ Halts axes doom e f.state) :
    f'.Tracks axes doom (.ended .aborted) := by
  rw [Tracks, hFailure, hReport]
  exact hTrail.accords hBusy hPoised.idle hCause

theorem tracks_faulted (hBusy : f.state ≠ .done) (hReport : f'.report = f.report)
    (hError : f'.error = f.error) : f'.Tracks axes doom (.ended .aborted) := by
  have hFailure : f'.failureOf .aborted = some .aborted := by
    rw [failureOf, hError, hPoised.error]
    rfl
  exact tracks_failing hTrail hPoised hBusy hReport hFailure (.inl rfl)

end Working

theorem Point.At.isBusy {point : Point} (h : point.At s) : point.isBusy = true := by
  cases point with
  | resting | reporting | signingOff => exact h.elim
  | _ => rfl

theorem Turn.finishes_of_done (h : Turn compiler hub w f w' f' reply) (hAt : f.point.At f.state)
    (hDone : f.state = .done) : reply = .step .finish := by
  cases h with
  | idle hPoint => cases hAt.isBusy.symm.trans (Point.isBusy_eq_false hPoint)
  | _ => simp_all [Point.At, State.listens]

theorem Turn.at_of_more (h : Turn compiler hub w f w' f' .more) (hAt : f.point.At f.state) :
    f'.point.At f'.state := by
  cases h with
  | started _ hState | hit _ _ _ _ _ _ hState | missed _ _ _ _ _ hState => exact hState
  | ordered _ _ _ hPoint | built _ _ _ _ _ hPoint | stored _ _ _ _ hPoint
  | outrun _ _ _ _ _ hPoint | discarded _ _ hPoint =>
    rw [hPoint] at hAt
    exact hAt

/-- Past its start a factory holds its cache, and what its wheels show are values of its spans. So
the errors that it comes to are those of the states. -/
theorem Turn.halts (h : Turn compiler hub w f w' f' (.step .abort)) (hPoised : f.Poised f.state)
    (hAt : f.point.At f.state) (hDoom : (w.office.inbox f.id).failed = doom)
    (hAxes : (w.office.inbox f.id).pending ⊆ axes) {e : ForgeError} (hError : f'.error = some e) :
    e = .aborted ∨ Halts axes doom e f.state := by
  have hHolds {s : State} (hState : f.state = s) (hOther : s ≠ .start) : f.cache ≠ none :=
    hPoised.cache.resolve_left (hState ▸ hOther)
  cases h with
  | doomed _ hPoint hState hFailed =>
    obtain rfl := Option.some.inj hError
    exact .inr (.doomed _ _ (hDoom ▸ hFailed) hState)
  | unequipped _ hPoint hState hSetup =>
    obtain rfl := Option.some.inj hError
    obtain ⟨c, hMem, given, hTrouble⟩ := setupAll_eq_some hSetup
    rw [hState]
    exact .inr (.unequipped c ⟨f.name, f.frame⟩ given _ (hAxes hMem) hTrouble)
  | tooWide bits hPoint hState hPacking hPending hClosed =>
    obtain rfl := Option.some.inj hError
    rw [hState]
    exact .inr (.tooWide bits)
  | unfilled _ plan hPoint hState hPlan hOrder hShown =>
    exact absurd hOrder (orderOf_ne_error (hPoised.plan plan hPlan).2 _)
  | evicted o hPoint hState hCache => exact absurd hCache (hHolds hState nofun)
  | unacquired _ hPoint hAcquire =>
    obtain rfl := Option.some.inj hError
    rw [hPoint] at hAt
    rw [hAt]
    exact .inr (.unacquired w.registry f.cacheName _ hAcquire)
  | refused ticket o k registry causes hPoint hAnswer =>
    obtain rfl := Option.some.inj hError
    rw [hPoint] at hAt
    rw [hAt]
    exact .inr (.refused o.index _)
  | unstored key p hPoint hCache =>
    rw [hPoint] at hAt
    exact absurd hCache (hHolds hAt nofun)
  | unsent p hPoint hOpen => exact .inl (Option.some.inj hError).symm
  | idle hPoint =>
    rw [hPoised.error] at hError
    cases hError

theorem Turn.tracks_proceeds {next : State}
    (h : Turn compiler hub w f w' f' (.step (.proceed next)))
    (hTracks : f.Tracks axes doom .working) : f'.Tracks axes doom (.resting next) := by
  obtain ⟨hTrail, hPoised, hAt⟩ := hTracks
  have hAfter {s : State} (hState : f.state = s) : Trail f.report.states s := hState ▸ hTrail
  have hHolds {s : State} (hState : f.state = s) (hOther : s ≠ .start) : f.cache ≠ none :=
    hPoised.cache.resolve_left (hState ▸ hOther)
  cases h with
  | equipped hPoint hState hSetup =>
    exact ⟨.moves (hAfter hState) .equipped,
      hPoised.moves (hState ▸ rfl) rfl (hHolds hState nofun) rfl rfl⟩
  | again hPoint hState hPending =>
    exact ⟨.moves (hAfter hState) .again,
      hPoised.moves (hState ▸ rfl) rfl (hHolds hState nofun) rfl rfl⟩
  | planned packing hPoint hState hPending hClosed hPacking hCount =>
    refine ⟨.moves (hAfter hState) .planned, hPoised.error, .inr (hHolds hState nofun), ?_,
      hPoised.idle⟩
    rintro _ ⟨⟩
    exact ⟨rfl, (Odometer.spans_start _).trans (Packing.ofSpans_eq_ok hPacking)⟩
  | unplanned _ hState | exhausted _ _ hState =>
    refine ⟨.moves (hAfter hState) .exhausted, hPoised.error, .inr (hHolds hState nofun), ?_,
      hPoised.idle⟩
    exact fun plan hSome => ⟨rfl, (hPoised.plan plan hSome).2⟩
  | acquired registry id hPoint hAcquire =>
    rw [hPoint] at hAt
    exact ⟨.moves (hAfter hAt) .acquired,
      hPoised.moves (congrArg State.listens hAt) rfl (Option.some_ne_none id) rfl rfl⟩

/-- A turn leaves the report of a factory on its trail, or fit for the end that it comes to. -/
theorem Turn.tracks (h : Turn compiler hub w f w' f' reply)
    (hTracks : f.Tracks axes doom .working) (hDoom : (w.office.inbox f.id).failed = doom)
    (hAxes : (w.office.inbox f.id).pending ⊆ axes) : f'.Tracks axes doom reply.mode := by
  obtain ⟨hTrail, hPoised, hAt⟩ := hTracks
  have hBusy (hOther : reply ≠ .step .finish) : f.state ≠ .done :=
    fun hDone => hOther (h.finishes_of_done hAt hDone)
  cases h.effect hAt.isBusy with
  | goesOn hTurn hOffice hSame hReport =>
    have hPoint := hTurn.at_of_more hAt
    rw [← hSame] at hPoint ⊢
    rw [← hReport]
    exact ⟨hTrail, hPoised.congr rfl rfl rfl rfl rfl rfl, hPoint⟩
  | proceeds s hTurn => exact hTurn.tracks_proceeds ⟨hTrail, hPoised, hAt⟩
  | waits hPoint hState =>
    rw [hState] at hTrail hPoised
    exact ⟨.stays hTrail nofun, hPoised.congr rfl rfl rfl rfl rfl rfl⟩
  | sends p hPoint hOpen =>
    rw [hPoint] at hAt
    have hState : f.state = .generate := hAt
    rw [hState] at hTrail hPoised
    refine ⟨.stays hTrail nofun, hPoised.error, hPoised.cache, ?_, ?_⟩
    · intro plan hSome
      obtain ⟨before, hPlan, rfl⟩ := Option.map_eq_some_iff.mp hSome
      exact ⟨rfl, (Odometer.spans_advance _).trans (hPoised.plan before hPlan).2⟩
    · exact fun hNone => absurd (hTrail.generate_mem rfl) hNone
  | finishes hPoint hState =>
    rw [hState] at hTrail
    have hDone : f.report.Accords axes doom none := hTrail.accords_done hPoised.idle
    rwa [← hPoised.error] at hDone
  | fails e hTurn hError hReport =>
    have hFailure : f'.failureOf .aborted = some e := by
      rw [failureOf, hError]
      rfl
    exact tracks_failing hTrail hPoised (hBusy (by rintro ⟨⟩)) hReport hFailure
      (hTurn.halts hPoised hAt hDoom hAxes hError)
  | faults text hTurn hError hReport =>
    exact tracks_faulted hTrail hPoised (hBusy (by rintro ⟨⟩)) hReport hError

/-- The same for whatever a step does to the factory: an abort may come before every state. -/
theorem Passage.tracks (h : Passage compiler hub w f mode w' f' mode')
    (hTracks : f.Tracks axes doom mode) (hDoom : (w.office.inbox f.id).failed = doom)
    (hAxes : (w.office.inbox f.id).pending ⊆ axes) : f'.Tracks axes doom mode' := by
  cases h with
  | still => exact hTracks
  | entered s => exact ⟨hTracks.1.visit, hTracks.2.enter, trivial⟩
  | stopped s =>
    have hFailure : f.failureOf .aborted = some .aborted := by
      rw [failureOf, hTracks.2.error]
      rfl
    rw [Tracks, hFailure]
    exact hTracks.1.accords hTracks.2.idle
  | turned hTurn => exact hTurn.tracks hTracks hDoom hAxes
  | told outcome =>
    rintro _ ⟨⟩
    exact hTracks
  | reported failure hPoint =>
    rintro _ ⟨⟩
  | signedOff hPoint => exact trivial

/-- What a factory sends last fits how it ended. -/
theorem Passage.accords (h : Passage compiler hub w f mode w' f' mode')
    (hTracks : f.Tracks axes doom mode) {g : FactoryId} {report : Report}
    {failure : Option ForgeError} {cache : Option CacheId}
    (hEnded : Event.ended g report failure cache ∈ sentIn w w') :
    g = f.id ∧ report.Accords axes doom failure := by
  rcases h.sentIn_cases with hSent | ⟨p, _, _, hSent⟩ | ⟨_, hPoint, rfl, _, _, hSent⟩
  · rw [hSent] at hEnded
    cases hEnded
  · rw [hSent] at hEnded
    cases List.mem_singleton.mp hEnded
  · rw [hSent] at hEnded
    cases List.mem_singleton.mp hEnded
    exact ⟨rfl, hTracks failure hPoint⟩

theorem tracks_start (hReport : f.report = {}) (hError : f.error = none) (hPlan : f.plan = none) :
    f.Tracks axes doom (.resting .start) := by
  refine ⟨.first (congrArg Report.states hReport), hError, .inl rfl, ?_, fun _ => ?_⟩
  · rw [hPlan]
    exact nofun
  · rw [hReport]

end Invariant

end Factory

end PipelineForge
