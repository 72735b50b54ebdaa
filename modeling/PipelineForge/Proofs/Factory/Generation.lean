import PipelineForge.Proofs.Factory.Reports

/-!
# Generation

A factory that generates has begun with some first combinations and makes the others in at most
six pieces of work each. Every value that it fills in is one of its span and no index comes twice,
so its turns end the task only where the compiler refuses an order or faults, where a fill faults,
or where there is no hub any more. Which of them happens is left open.
-/

namespace PipelineForge.Factory

open Axis
open Tasks (Mode Outcome Reply)

variable {κ : Type}

inductive Miscompiles (compiler : Compiler κ) (hub : Nat) (w : Floor κ) (f : Factory) :
    ForgeError → Prop where
  | refused (ticket : Nat) (o : CompileOrder) (causes : List String)
      (hPoint : f.point = .compiling ticket o)
      (hAnswer : (compiler.answer w.compiler w.registry hub ticket o).2.2 = .refused causes) :
      Miscompiles compiler hub w f (.creationFailed o.index (": ".intercalate causes))
  | crashed (ticket : Nat) (o : CompileOrder) (text : String)
      (hPoint : f.point = .compiling ticket o)
      (hAnswer : (compiler.answer w.compiler w.registry hub ticket o).2.2 = .fault text) :
      Miscompiles compiler hub w f .aborted

/-- A fill faults for the combination that the factory begins with. -/
def Misfills (f : Factory) (x : Fault) : Prop :=
  f.state = .generate ∧ f.point = .entering ∧
    ∃ plan, f.plan = some plan ∧ plan.odometer.finished = false ∧
      orderOf f plan = .error (.fault x)

theorem Misfills.fill {f : Factory} {x : Fault} (h : f.Misfills x) :
    ∃ c ∈ f.axes, ∃ v ∈ c.span, ∃ given, (c.fill v given).2 = some x := by
  obtain ⟨_, _, plan, _, _, hOrder⟩ := h
  exact orderOf_eq_fault hOrder

/-- What a factory does that begins to make a combination: it is done, or it looks up one that it
had not before, or a fill faults. -/
inductive Begins (w : Floor κ) (f : Factory) : Prop where
  | over (hWork : generate w f = goTo w f .done)
  | looksUp (o : CompileOrder) (hNew : o.index ∉ f.generated)
      (hWork : generate w f = lookup w (f.noting o) o)
  | misfills (x : Fault) (hFault : f.Misfills x)
      (hWork : generate w f = (w, f, [], .fault x.message))

/-- How many pieces of work the combination in hand still needs at most. -/
def Point.toGo : Point → Nat
  | .ordering _ => 5
  | .compiling _ _ => 4
  | .storing _ _ => 3
  | .discarding _ _ => 2
  | .handingOff _ => 1
  | _ => 0

/-- The combinations that the factory has not begun with. -/
def Plan.ahead (plan : Plan) (point : Point) : List (List Int32) :=
  if point.toGo = 0 then plan.odometer.rest else plan.odometer.advance.rest

def Report.lookups (r : Report) : Nat := r.hits + r.misses

/-- What a factory is after some pieces of work on its combinations. -/
structure Enumerates (f : Factory) (n : Nat) (point : Point) (plan : Plan) : Prop where
  planned : f.plan = some plan
  packed : plan.packing.spans = f.axes.map Characteristic.span
  shown : plan.odometer.spans = plan.packing.spans
  spent : Spent plan.packing f.generated (plan.ahead point)
  paced : n + point.toGo + 6 * (plan.ahead point).length ≤ 6 * (tuples plan.packing.spans).length
  looked : f.report.lookups + (plan.ahead point).length = (tuples plan.packing.spans).length
  /-- What was looked up was sent, but for the combination in hand. -/
  sent : f.report.pipelines + min 1 point.toGo = f.report.lookups

/-- Nothing was done for any combination. -/
structure Untouched (f : Factory) : Prop where
  generated : f.generated = []
  lookups : f.report.lookups = 0
  pipelines : f.report.pipelines = 0

def Paced (f : Factory) (n : Nat) (point : Point) : State → Prop
  | .generate => ∃ plan, f.Enumerates n point plan
  | .done => True
  | _ => f.Untouched ∧ n = 0

/-- A factory that has come to generate is done, or fails with a cause. -/
def Report.Settles (Caused : ForgeError → Prop) (r : Report) (failure : Option ForgeError) : Prop :=
  State.generate ∈ r.states →
    r.states.getLast? = some .done ∧ failure = none ∨ ∃ e, failure = some e ∧ Caused e

/-- What is sure of a factory by the mode of its task, after some pieces of work in the state in
which it generates. -/
def Assured (Caused : ForgeError → Prop) (axes : List Characteristic) (n : Nat) (f : Factory) :
    Mode State → Prop
  | .resting s => f.axes ⊆ axes ∧ f.Paced n .resting s
  | .working => f.axes ⊆ axes ∧ f.Paced n f.point f.state
  | .ended outcome => f.report.Settles Caused (f.failureOf outcome)
  | .leaving => ∀ failure, f.point = .reporting failure → f.report.Settles Caused failure
  | _ => True

def State.pieces : State → Nat
  | .generate => 1
  | _ => 0

section Enumerates

variable {f f' : Factory} {n : Nat} {point next : Point} {plan : Plan}

theorem Plan.ahead_inHand (plan : Plan) (hHand : point.toGo ≠ 0) :
    plan.ahead point = plan.odometer.advance.rest := if_neg hHand

theorem Enumerates.orderOf_ne_error (h : f.Enumerates n point plan) (e : ForgeError) :
    orderOf f plan ≠ .error (.error e) :=
  Factory.orderOf_ne_error (h.shown.trans h.packed) e

theorem Enumerates.encode (h : f.Enumerates n point plan) {o : CompileOrder}
    (hOrder : orderOf f plan = .ok o) : plan.packing.encode plan.odometer.current = .ok o.index :=
  encode_of_orderOf hOrder h.packed h.shown

section Beginning

variable (h : f.Enumerates n .entering plan) (hShown : plan.odometer.finished = false)

include h hShown

theorem Enumerates.spent_shown :
    Spent plan.packing f.generated (plan.odometer.current :: plan.odometer.advance.rest) := by
  rw [← Odometer.rest_advance hShown]
  exact h.spent

theorem Enumerates.notMem {o : CompileOrder} (hOrder : orderOf f plan = .ok o) :
    o.index ∉ f.generated := (h.spent_shown hShown).notMem (h.encode hOrder)

theorem Enumerates.begin {o : CompileOrder} (hOrder : orderOf f plan = .ok o)
    (hPlan : f'.plan = f.plan) (hAxes : f'.axes = f.axes)
    (hGenerated : f'.generated = o.index :: f.generated)
    (hLookups : f'.report.lookups = f.report.lookups + 1)
    (hSent : f'.report.pipelines = f.report.pipelines) (hHand : next.toGo ≠ 0)
    (hFew : next.toGo ≤ 5) : f'.Enumerates (n + 1) next plan := by
  have hAhead : plan.ahead next = plan.odometer.advance.rest := plan.ahead_inHand hHand
  constructor
  · rw [hPlan, h.planned]
  · rw [hAxes, h.packed]
  · exact h.shown
  · rw [hGenerated, hAhead]
    exact (h.spent_shown hShown).next (h.encode hOrder)
  · have hBefore : n + 0 + 6 * plan.odometer.rest.length ≤
        6 * (tuples plan.packing.spans).length := h.paced
    rw [Odometer.rest_advance hShown, List.length_cons] at hBefore
    rw [hAhead]
    omega
  · have hLooked : f.report.lookups + plan.odometer.rest.length =
        (tuples plan.packing.spans).length := h.looked
    rw [Odometer.rest_advance hShown, List.length_cons] at hLooked
    rw [hAhead, hLookups]
    omega
  · have hBefore : f.report.pipelines + 0 = f.report.lookups := h.sent
    rw [hSent, hLookups]
    omega

end Beginning

/-- Neither a value outside of its span nor an index that was there before comes up. -/
theorem Enumerates.begins (h : f.Enumerates n .entering plan) (hPoint : f.point = .entering)
    (hState : f.state = .generate) (w : Floor κ) : f.Begins w := by
  cases hShown : plan.odometer.finished with
  | true =>
    refine .over ?_
    simp only [generate, h.planned, hShown, if_true]
  | false =>
    cases hOrder : orderOf f plan with
    | ok o =>
      refine .looksUp o (h.notMem hShown hOrder) ?_
      simp only [generate, noting, h.planned, hShown, hOrder, h.notMem hShown hOrder,
        Bool.false_eq_true, if_false]
    | error trouble =>
      cases trouble with
      | error e => exact absurd hOrder (h.orderOf_ne_error e)
      | fault x =>
        refine .misfills x ⟨hState, hPoint, plan, h.planned, hShown, hOrder⟩ ?_
        simp only [generate, h.planned, hShown, hOrder, Bool.false_eq_true, if_false]

theorem Enumerates.goesOn (h : f.Enumerates n point plan) (hPlan : f'.plan = f.plan)
    (hAxes : f'.axes = f.axes) (hGenerated : f'.generated = f.generated)
    (hReport : f'.report = f.report) (hHand : next.toGo ≠ 0)
    (hLess : next.toGo < point.toGo) : f'.Enumerates (n + 1) next plan := by
  have hAhead : plan.ahead next = plan.ahead point := by
    rw [plan.ahead_inHand hHand, plan.ahead_inHand (Nat.ne_zero_of_lt hLess)]
  constructor
  · rw [hPlan, h.planned]
  · rw [hAxes, h.packed]
  · exact h.shown
  · rw [hGenerated, hAhead]
    exact h.spent
  · have hBefore := h.paced
    rw [hAhead]
    omega
  · rw [hAhead, hReport]
    exact h.looked
  · have hBefore := h.sent
    rw [hReport]
    omega

/-- A combination that is sent is that of the odometer, which goes on to the next one. -/
theorem Enumerates.deliver (h : f.Enumerates n point plan) (hHand : point.toGo ≠ 0) :
    f.delivered.Enumerates (n + 1) .resting { plan with odometer := plan.odometer.advance } := by
  have hSpent := h.spent
  have hPaced := h.paced
  have hLooked := h.looked
  have hSent := h.sent
  rw [plan.ahead_inHand hHand] at hSpent hPaced hLooked
  constructor
  · rw [delivered, h.planned]
    rfl
  · exact h.packed
  · exact (Odometer.spans_advance _).trans h.shown
  · exact hSpent
  · change n + 1 + 0 + 6 * plan.odometer.advance.rest.length ≤
      6 * (tuples plan.packing.spans).length
    omega
  · exact hLooked
  · change f.report.pipelines + 1 + 0 = f.report.lookups
    omega

theorem enumerates_start {packing : Packing} (hPlan : f.plan = some ⟨packing, .start packing.spans⟩)
    (hPacked : packing.spans = f.axes.map Characteristic.span) (hUntouched : f.Untouched) :
    f.Enumerates 0 .resting ⟨packing, .start packing.spans⟩ := by
  have hAhead : Plan.ahead ⟨packing, .start packing.spans⟩ .resting = tuples packing.spans :=
    Odometer.rest_start packing.spans
  constructor
  · exact hPlan
  · exact hPacked
  · exact Odometer.spans_start _
  · rw [hUntouched.generated, hAhead]
    exact spent_start packing
  · rw [hAhead]
    exact Nat.le_of_eq (Nat.zero_add _)
  · rw [hAhead, hUntouched.lookups, Nat.zero_add]
  · rw [hUntouched.pipelines, hUntouched.lookups]
    rfl

theorem Paced.early {s : State} (h : f.Paced n point s) (hListens : s.listens = true) :
    f.Untouched ∧ n = 0 := by
  cases s with
  | generate => cases hListens
  | done => cases hListens
  | _ => exact h

theorem Untouched.congr (h : f.Untouched) (hGenerated : f'.generated = f.generated)
    (hReport : f'.report = f.report) : f'.Untouched :=
  ⟨hGenerated.trans h.generated, hReport ▸ h.lookups, hReport ▸ h.pipelines⟩

theorem Report.lookups_visit (r : Report) (s : State) : (r.visit s).lookups = r.lookups := by
  rw [visit]
  split <;> rfl

theorem Paced.enter {s : State} (h : f.Paced n .resting s) :
    (f.enter s).Paced n .entering s := by
  have hLookups : (f.enter s).report.lookups = f.report.lookups := f.report.lookups_visit s
  have hPipelines : (f.enter s).report.pipelines = f.report.pipelines := f.report.pipelines_visit s
  have hUntouched (hBefore : f.Untouched) : (f.enter s).Untouched :=
    ⟨hBefore.generated, hLookups.trans hBefore.lookups, hPipelines.trans hBefore.pipelines⟩
  cases s with
  | generate =>
    obtain ⟨plan, hEnumerates⟩ := h
    exact ⟨plan, hEnumerates.planned, hEnumerates.packed, hEnumerates.shown, hEnumerates.spent,
      hEnumerates.paced, hLookups ▸ hEnumerates.looked,
      by rw [hLookups, hPipelines]; exact hEnumerates.sent⟩
  | done => exact h
  | _ => exact h.imp_left hUntouched

theorem paced_early {s : State} (hListens : s.listens = true) (hUntouched : f.Untouched) :
    f.Paced 0 point s := by
  cases s with
  | generate => cases hListens
  | done => cases hListens
  | _ => exact ⟨hUntouched, rfl⟩

end Enumerates

section Held

variable {compiler : Compiler κ} {hub : Nat} {w : Floor κ} {f : Factory}

theorem lookup_ne_held (w : Floor κ) (f : Factory) (o : CompileOrder) :
    (lookup w f o).2.2.2 ≠ .held := by
  intro hHeld
  rw [lookup] at hHeld
  split at hHeld
  · cases hHeld
  split at hHeld
  · cases hHeld
  · cases hHeld

theorem generate_ne_held (w : Floor κ) (f : Factory) : (generate w f).2.2.2 ≠ .held := by
  intro hHeld
  rw [generate] at hHeld
  split at hHeld
  · cases hHeld
  split at hHeld
  · cases hHeld
  split at hHeld
  · cases hHeld
  · cases hHeld
  split at hHeld
  · cases hHeld
  · exact lookup_ne_held _ _ _ hHeld

theorem store_ne_held (w : Floor κ) (f : Factory) (key : CacheKey) (p : Pipeline) :
    (store w f key p).2.2.2 ≠ .held := by
  intro hHeld
  rw [store] at hHeld
  split at hHeld
  · cases hHeld
  split at hHeld
  · cases hHeld
  · cases hHeld

/-- A factory that generates waits only for a compiler that holds its order back. -/
theorem holds_of_held (hState : f.state = .generate)
    (hHeld : (work compiler hub w f).2.2.2 = .held) :
    ∃ ticket o, f.point = .compiling ticket o ∧ compiler.holds w.compiler hub ticket = true := by
  cases hPoint : f.point with
  | compiling ticket o =>
    refine ⟨ticket, o, rfl, ?_⟩
    by_contra hFree
    simp only [work, hPoint, collect, if_neg hFree] at hHeld
    split at hHeld
    · cases hHeld
    · cases hHeld
    · cases hHeld
  | entering =>
    simp only [work, hPoint, begin, hState] at hHeld
    exact absurd hHeld (generate_ne_held w f)
  | storing key p =>
    simp only [work, hPoint] at hHeld
    exact absurd hHeld (store_ne_held w f key p)
  | handingOff p =>
    simp only [work, hPoint, handOff] at hHeld
    split at hHeld
    · cases hHeld
    · cases hHeld
  | acquiring =>
    simp only [work, hPoint, acquire] at hHeld
    split at hHeld
    · cases hHeld
    · cases hHeld
  | _ =>
    simp only [work, hPoint] at hHeld
    cases hHeld

end Held

section Invariant

variable {compiler : Compiler κ} {hub : Nat} {w w' : Floor κ} {f f' : Factory}
  {mode mode' : Mode State} {reply : Reply State} {Caused More : ForgeError → Prop}
  {axes more : List Characteristic} {doom : Option ForgeError} {n : Nat} {r : Report}

theorem Report.Settles.mono {failure : Option ForgeError} (h : r.Settles Caused failure)
    (hMore : ∀ e, Caused e → More e) : r.Settles More failure := by
  intro hMem
  refine (h hMem).imp_right ?_
  rintro ⟨e, hFailure, hCaused⟩
  exact ⟨e, hFailure, hMore e hCaused⟩

theorem Assured.mono (h : f.Assured Caused axes n mode) (hMore : ∀ e, Caused e → More e)
    (hAxes : axes ⊆ more) : f.Assured More more n mode := by
  cases mode with
  | resting s => exact ⟨List.Subset.trans h.1 hAxes, h.2⟩
  | working => exact ⟨List.Subset.trans h.1 hAxes, h.2⟩
  | ended outcome => exact Report.Settles.mono h hMore
  | leaving => exact fun failure hPoint => (h failure hPoint).mono hMore
  | _ => trivial

theorem Trail.settles {s : State} {failure : Option ForgeError} (h : Trail r.states s)
    (hListens : s.listens = true) : r.Settles Caused failure :=
  fun hMem => absurd hMem (h.generate_notMem hListens)

theorem settles_aborted (hError : f.error = none) (hCaused : Caused .aborted) :
    r.Settles Caused (f.failureOf .aborted) := by
  rw [failureOf, hError]
  exact fun _ => .inr ⟨.aborted, rfl, hCaused⟩

section Working

variable (h : f.Assured Caused axes n .working)

include h

theorem Assured.prior {s : State} (hState : f.state = s) (hListens : s.listens = true) :
    f.Untouched ∧ n + f.state.pieces = 0 := by
  subst hState
  obtain ⟨hUntouched, rfl⟩ := h.2.early hListens
  refine ⟨hUntouched, ?_⟩
  cases hState : f.state with
  | generate =>
    rw [hState] at hListens
    cases hListens
  | _ => rfl

theorem Assured.gathers {s next : State} (hState : f.state = s) (hListens : s.listens = true)
    (hNext : next.listens = true) (hAxes : f'.axes ⊆ axes) (hSame : f'.generated = f.generated)
    (hReport : f'.report = f.report) :
    f'.Assured Caused axes (n + f.state.pieces) (.resting next) := by
  obtain ⟨hUntouched, hNone⟩ := h.prior hState hListens
  rw [hNone]
  exact ⟨hAxes, paced_early hNext (hUntouched.congr hSame hReport)⟩

theorem Assured.enumerates {point : Point} (hPoint : f.point = point)
    (hState : f.state = .generate) : ∃ plan, f.Enumerates n point plan := by
  have hPaced := h.2
  rw [hState, hPoint] at hPaced
  exact hPaced

theorem Assured.enumerates_plan {plan : Plan} (hPoint : f.point = .entering)
    (hState : f.state = .generate) (hPlan : f.plan = some plan) :
    f.Enumerates n .entering plan := by
  obtain ⟨plan', hEnumerates⟩ := h.enumerates hPoint hState
  obtain rfl := Option.some.inj (hPlan.symm.trans hEnumerates.planned)
  exact hEnumerates

theorem Assured.begin {plan : Plan} {o : CompileOrder} (hPoint : f.point = .entering)
    (hState : f.state = .generate) (hPlan : f.plan = some plan)
    (hShown : plan.odometer.finished = false) (hOrder : orderOf f plan = .ok o)
    (hSameState : f'.state = f.state) (hSamePlan : f'.plan = f.plan) (hSameAxes : f'.axes = f.axes)
    (hGenerated : f'.generated = o.index :: f.generated)
    (hLookups : f'.report.lookups = f.report.lookups + 1)
    (hSent : f'.report.pipelines = f.report.pipelines)
    (hFew : f'.point.toGo ≠ 0 ∧ f'.point.toGo ≤ 5) :
    f'.Assured Caused axes (n + f.state.pieces) .working := by
  refine ⟨hSameAxes ▸ h.1, ?_⟩
  rw [hSameState, hState]
  exact ⟨plan, (h.enumerates_plan hPoint hState hPlan).begin hShown hOrder hSamePlan hSameAxes
    hGenerated hLookups hSent hFew.1 hFew.2⟩

theorem Assured.goesOn {point next : Point} (hPoint : f.point = point)
    (hState : f.state = .generate) (hLess : next.toGo ≠ 0 ∧ next.toGo < point.toGo) :
    (f.turnedTo next).Assured Caused axes (n + f.state.pieces) .working := by
  obtain ⟨plan, hEnumerates⟩ := h.enumerates hPoint hState
  refine ⟨h.1, ?_⟩
  rw [hState, show (f.turnedTo next).state = .generate from hState]
  exact ⟨plan, hEnumerates.goesOn rfl rfl rfl rfl hLess.1 hLess.2⟩

end Working

/-- A turn goes on with the combinations, one piece of work further, or it ends the task, and if the
factory generates, for one of the causes. -/
theorem Turn.assured (h : Turn compiler hub w f w' f' reply)
    (hAssured : f.Assured Caused axes n .working) (hTracks : f.Tracks more doom .working)
    (hPending : (w.office.inbox f.id).pending ⊆ axes)
    (hMiscompiles : ∀ e, Miscompiles compiler hub w f e → Caused e)
    (hMisfills : ∀ x, f.Misfills x → Caused .aborted)
    (hShut : w.office.isOpen = false → Caused .aborted) :
    f'.Assured Caused axes (n + f.state.pieces) reply.mode := by
  have hAxes : f.axes ⊆ axes := hAssured.1
  obtain ⟨hTrail, hPoised, hAt⟩ := hTracks
  have hOn {point : Point} (hPoint : f.point = point) : point.At f.state := hPoint ▸ hAt
  have hHolds (hState : f.state = .generate) : f.cache ≠ none := by
    refine hPoised.cache.resolve_left fun hStart => ?_
    rw [hState] at hStart
    cases hStart
  have hEarly {s : State} (hState : f.state = s) (hListens : s.listens = true)
      {failure : Option ForgeError} : f.report.Settles Caused failure :=
    hTrail.settles (hState ▸ hListens)
  have hFails {e : ForgeError} (hCaused : Caused e) : f.report.Settles Caused (some e) :=
    fun _ => .inr ⟨e, rfl, hCaused⟩
  cases h with
  | doomed e hPoint hState hFailed => exact hEarly rfl hState
  | started hPoint hState =>
    obtain ⟨hUntouched, hNone⟩ := hAssured.prior hState rfl
    rw [hNone]
    refine ⟨hAxes, paced_early ?_ (hUntouched.congr rfl rfl)⟩
    rw [show (f.turnedTo .acquiring).state = .start from hState]
    rfl
  | equipped hPoint hState hSetup =>
    refine hAssured.gathers hState rfl rfl (List.append_subset.mpr ⟨hAxes, ?_⟩) rfl rfl
    rw [show (settingUp w f).2.1 = _ from setupAll_eq_none hSetup]
    exact hPending
  | unequipped _ _ hState | broken _ _ hState | tooWide _ _ hState | tooMany _ _ hState =>
    exact hEarly hState rfl
  | again _ hState | waiting _ hState => exact hAssured.gathers hState rfl rfl hAxes rfl rfl
  | planned packing hPoint hState hPending hClosed hPacking hCount =>
    obtain ⟨hUntouched, hNone⟩ := hAssured.prior hState rfl
    rw [hNone]
    exact ⟨hAxes, _, enumerates_start rfl (Packing.ofSpans_eq_ok hPacking)
      (hUntouched.congr rfl rfl)⟩
  | unplanned | exhausted => exact ⟨hAxes, trivial⟩
  | unfilled e plan hPoint hState hPlan hOrder hShown =>
    exact absurd hOrder (orderOf_ne_error (hPoised.plan plan hPlan).2 e)
  | misfilled text hPoint hState plan hPlan hShown hCause =>
    rcases hCause with ⟨x, hFault⟩ | ⟨o, hOrder, hOld⟩
    · refine settles_aborted hPoised.error (hMisfills x ?_)
      exact ⟨hState, hPoint, plan, hPlan, hShown, hFault⟩
    · exact absurd hOld ((hAssured.enumerates_plan hPoint hState hPlan).notMem hShown hOrder)
  | evicted o hPoint hState hCache => exact absurd hCache (hHolds hState)
  | hit plan o id registry p hPoint hState hPlan hShown hOrder hCache hLookup hNew =>
    exact hAssured.begin hPoint hState hPlan hShown hOrder rfl rfl rfl rfl
      (Nat.succ_add f.report.hits f.report.misses) rfl (by simp [Point.toGo])
  | missed plan o id registry hPoint hState hPlan hShown hOrder hCache hLookup hNew =>
    exact hAssured.begin hPoint hState hPlan hShown hOrder rfl rfl rfl rfl
      (Nat.add_succ f.report.hits f.report.misses) rfl (by simp [Point.toGo])
  | finished hPoint hState =>
    intro _
    exact .inl ⟨(hState ▸ hTrail).getLast?, hPoised.error⟩
  | unacquired e hPoint hAcquire => exact hEarly (hOn hPoint) rfl
  | acquired registry id hPoint hAcquire =>
    exact hAssured.gathers (hOn hPoint) rfl rfl hAxes rfl rfl
  | ordered _ _ _ hPoint | built _ _ _ _ _ hPoint | stored _ _ _ _ hPoint
  | outrun _ _ _ _ _ hPoint | discarded _ _ hPoint =>
    exact hAssured.goesOn hPoint (hOn hPoint) (by simp [Point.toGo])
  | refused ticket o k registry causes hPoint hAnswer =>
    exact hFails (hMiscompiles _ (.refused ticket o causes hPoint (by rw [hAnswer])))
  | crashed ticket o k registry text hPoint hAnswer =>
    refine settles_aborted hPoised.error ?_
    exact hMiscompiles _ (.crashed ticket o text hPoint (by rw [hAnswer]))
  | unstored key p hPoint hCache => exact absurd hCache (hHolds (hOn hPoint))
  | sent p hPoint hOpen =>
    have hState : f.state = .generate := hOn hPoint
    obtain ⟨plan, hEnumerates⟩ := hAssured.enumerates hPoint hState
    rw [hState]
    exact ⟨hAxes, _, hEnumerates.deliver (Nat.succ_ne_zero _)⟩
  | unsent p hPoint hOpen => exact hFails (hShut hOpen)
  | idle hPoint => cases hAt.isBusy.symm.trans (Point.isBusy_eq_false hPoint)

/-- The same for what is not a turn. Only a stop before a state needs a cause. -/
theorem Passage.assured (h : Passage compiler hub w f mode w' f' mode')
    (hAssured : f.Assured Caused axes n mode) (hTracks : f.Tracks more doom mode)
    (hMode : mode ≠ .working)
    (hStopped : ∀ s outcome, mode = .resting s → mode' = .ended outcome → Caused .aborted) :
    f'.Assured Caused axes n mode' := by
  cases h with
  | still => exact hAssured
  | entered s => exact hAssured.imp_right Paced.enter
  | stopped s => exact settles_aborted hTracks.2.error (hStopped s .aborted rfl rfl)
  | turned hTurn => exact absurd rfl hMode
  | told outcome =>
    rintro _ ⟨⟩
    exact hAssured
  | reported failure hPoint =>
    rintro _ ⟨⟩
  | signedOff hPoint => exact trivial

theorem Passage.settles (h : Passage compiler hub w f mode w' f' mode')
    (hAssured : f.Assured Caused axes n mode) {g : FactoryId} {report : Report}
    {failure : Option ForgeError} {cache : Option CacheId}
    (hEnded : Event.ended g report failure cache ∈ sentIn w w') :
    g = f.id ∧ report.Settles Caused failure := by
  rcases h.sentIn_cases with hSent | ⟨p, _, _, hSent⟩ | ⟨_, hPoint, rfl, _, _, hSent⟩
  · rw [hSent] at hEnded
    cases hEnded
  · rw [hSent] at hEnded
    cases List.mem_singleton.mp hEnded
  · rw [hSent] at hEnded
    cases List.mem_singleton.mp hEnded
    exact ⟨rfl, hAssured failure hPoint⟩

theorem assured_start (hAxes : f.axes = []) (hUntouched : f.Untouched) :
    f.Assured Caused axes 0 (.resting .start) :=
  ⟨hAxes ▸ List.nil_subset _, hUntouched, rfl⟩

end Invariant

end PipelineForge.Factory
