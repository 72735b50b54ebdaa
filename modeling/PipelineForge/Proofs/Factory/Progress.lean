import PipelineForge.Proofs.Cache.Contents
import PipelineForge.Proofs.Compiler.Conduct
import PipelineForge.Proofs.Factory.Orders
import PipelineForge.Proofs.Factory.Passages

/-!
# Progress of factories

What a factory has sent so far is compared with the enumeration of its axes, from its first state
to the report of its end. Every passage of the factory and every change of its inbox keep the
comparison. Who else uses the cache and how the steps are ordered is left open.
-/

namespace PipelineForge

open Axis

namespace Factory

open Tasks (Mode Reply)

def Carries (key : CacheKey) (p : Pipeline) : Prop := p.index = key.index

/-- What was registered with a factory, and what it sent: its pipelines, and its end. -/
structure Record where
  admitted : List Characteristic
  made : List Pipeline
  endings : List (Report × Option ForgeError)

def Record.indices (r : Record) : List (Except (Trouble Violation) CompositeIndex) :=
  r.made.map fun p => .ok p.index

def madeIn (f : FactoryId) (events : List Event) : List Pipeline :=
  events.filterMap fun
    | .made g _ p => if g = f then some p else none
    | .ended _ _ _ _ => none

def endingsIn (f : FactoryId) (events : List Event) : List (Report × Option ForgeError) :=
  events.filterMap fun
    | .made _ _ _ => none
    | .ended g report failure _ => if g = f then some (report, failure) else none

theorem madeIn_append (f : FactoryId) (events more : List Event) :
    madeIn f (events ++ more) = madeIn f events ++ madeIn f more := List.filterMap_append

theorem endingsIn_append (f : FactoryId) (events more : List Event) :
    endingsIn f (events ++ more) = endingsIn f events ++ endingsIn f more := List.filterMap_append

def Record.extend (r : Record) (f : FactoryId) (events : List Event) : Record :=
  { r with made := r.made ++ madeIn f events, endings := r.endings ++ endingsIn f events }

/-- Before the axes are fixed: nothing was sent, and all that was registered was set up or waits
in the inbox. -/
structure Collecting (f : Factory) (inbox : Inbox) (r : Record) : Prop where
  unplanned : f.plan = none
  axes : f.axes ++ inbox.pending = r.admitted
  made : r.made = []
  count : f.report.pipelines = 0
  early : State.generate ∉ f.report.states

/-- Once the axes are fixed: what was sent and what the odometer has to show make up the whole
enumeration. -/
structure Generating (f : Factory) (inbox : Inbox) (r : Record) (plan : Plan) : Prop where
  planned : f.plan = some plan
  closed : inbox.closed = true
  axes : f.axes = r.admitted
  packed : Packing.ofSpans (r.admitted.map Characteristic.span) = .ok plan.packing
  shown : plan.odometer.spans = plan.packing.spans
  split : plan.packing.indices = r.indices ++ plan.odometer.rest.map plan.packing.encode
  count : f.report.pipelines = r.made.length

/-- What was sent is a first part of the enumeration, and the rest is what was not sent. -/
structure Listed (inbox : Inbox) (r : Record) (packing : Packing)
    (rest : List (Except (Trouble Violation) CompositeIndex)) : Prop where
  closed : inbox.closed = true
  packed : Packing.ofSpans (r.admitted.map Characteristic.span) = .ok packing
  split : packing.indices = r.indices ++ rest

def Partial (inbox : Inbox) (r : Record) : Prop :=
  r.made = [] ∨ ∃ packing rest, Listed inbox r packing rest

/-- A report and a failure that tell the truth about what was sent. -/
structure Truthful (inbox : Inbox) (r : Record) (report : Report) (failure : Option ForgeError) :
    Prop where
  count : report.pipelines = r.made.length
  cause : (r.made = [] ∧ failure ≠ none ∧ State.generate ∉ report.states) ∨
    ∃ packing rest, Listed inbox r packing rest ∧ (failure = none → rest = []) ∧
      ∀ index reason, failure = some (.creationFailed index reason) → rest.head? = some (.ok index)

theorem Truthful.partly {inbox : Inbox} {r : Record} {report : Report}
    {failure : Option ForgeError} (h : Truthful inbox r report failure) : Partial inbox r := by
  rcases h.cause with ⟨hMade, _⟩ | ⟨packing, rest, hListed, _⟩
  · exact .inl hMade
  · exact .inr ⟨packing, rest, hListed⟩

/-- What a factory holds in its hands while it generates. -/
def Fits (f : Factory) (plan : Plan) : Point → Prop
  | .entering => True
  | .ordering o => orderOf f plan = .ok o ∧ plan.odometer.finished = false
  | .compiling _ o => orderOf f plan = .ok o ∧ plan.odometer.finished = false
  | .storing key p =>
    ∃ o, orderOf f plan = .ok o ∧ plan.odometer.finished = false ∧ key = o.key ∧
      p.index = o.index
  | .discarding _ kept =>
    ∃ o, orderOf f plan = .ok o ∧ plan.odometer.finished = false ∧ kept.index = o.index
  | .handingOff p =>
    ∃ o, orderOf f plan = .ok o ∧ plan.odometer.finished = false ∧ p.index = o.index
  | _ => False

def Ready (f : Factory) (inbox : Inbox) (r : Record) : State → Prop
  | .generate => ∃ plan, Generating f inbox r plan
  | .done => ∃ plan, Generating f inbox r plan ∧ plan.odometer.finished = true
  | _ => Collecting f inbox r

def AtWork (f : Factory) (inbox : Inbox) (r : Record) : State → Prop
  | .generate => ∃ plan, Generating f inbox r plan ∧ Fits f plan f.point
  | .done => Ready f inbox r .done ∧ f.point = .entering
  | _ => Collecting f inbox r ∧ (f.point = .entering ∨ f.point = .acquiring)

/-- The comparison of a factory with what it sent, by the mode of its task. -/
def Follows (f : Factory) (inbox : Inbox) (r : Record) : Mode State → Prop
  | .resting s => r.endings = [] ∧ f.error = none ∧ f.point = .resting ∧ Ready f inbox r s
  | .working => r.endings = [] ∧ f.error = none ∧ AtWork f inbox r f.state
  | .ended .finished => r.endings = [] ∧ Truthful inbox r f.report f.error
  | .ended .aborted => r.endings = [] ∧ Truthful inbox r f.report (f.error.or (some .aborted))
  | .leaving =>
    (∃ failure, f.point = .reporting failure ∧ r.endings = [] ∧
      Truthful inbox r f.report failure) ∨
    ((∀ failure, f.point ≠ .reporting failure) ∧ Partial inbox r ∧
      ∀ e ∈ r.endings, Truthful inbox r e.1 e.2)
  | _ => Partial inbox r ∧ ∀ e ∈ r.endings, Truthful inbox r e.1 e.2

section Truthful

variable {f : Factory} {inbox : Inbox} {r : Record} {plan : Plan}

theorem Collecting.truthful (h : Collecting f inbox r) (inbox' : Inbox) (e : ForgeError) :
    Truthful inbox' r f.report (some e) := by
  constructor
  · rw [h.count, h.made]
    rfl
  · exact .inl ⟨h.made, nofun, h.early⟩

theorem Generating.listed (h : Generating f inbox r plan) :
    Listed inbox r plan.packing (plan.odometer.rest.map plan.packing.encode) :=
  ⟨h.closed, h.packed, h.split⟩

theorem Generating.truthful (h : Generating f inbox r plan) {report : Report}
    (hReport : report.pipelines = f.report.pipelines) {e : ForgeError}
    (hCause : ∀ index reason, e = .creationFailed index reason →
      (plan.odometer.rest.map plan.packing.encode).head? = some (.ok index)) :
    Truthful inbox r report (some e) := by
  constructor
  · rw [hReport, h.count]
  · refine .inr ⟨plan.packing, _, h.listed, nofun, ?_⟩
    intro index reason hFailure
    exact hCause index reason (Option.some.inj hFailure)

theorem Generating.truthful_finished (h : Generating f inbox r plan)
    (hFinished : plan.odometer.finished = true) : Truthful inbox r f.report none := by
  constructor
  · exact h.count
  · refine .inr ⟨plan.packing, _, h.listed, ?_, nofun⟩
    intro _
    rw [Odometer.rest_of_finished hFinished, List.map_nil]

theorem Generating.next (h : Generating f inbox r plan) {o : CompileOrder}
    (hOrder : orderOf f plan = .ok o) (hShown : plan.odometer.finished = false) :
    plan.odometer.rest.map plan.packing.encode =
      .ok o.index :: plan.odometer.advance.rest.map plan.packing.encode := by
  have hSpans : plan.packing.spans = f.axes.map Characteristic.span := by
    rw [h.axes]
    exact Packing.ofSpans_eq_ok h.packed
  rw [Odometer.rest_advance hShown, List.map_cons, encode_of_orderOf hOrder hSpans h.shown]

theorem Ready.truthful {s : State} (h : Ready f inbox r s) :
    Truthful inbox r f.report (some .aborted) := by
  cases s with
  | generate =>
    obtain ⟨plan, hGenerating⟩ := h
    exact hGenerating.truthful rfl nofun
  | done =>
    obtain ⟨plan, hGenerating, _⟩ := h
    exact hGenerating.truthful rfl nofun
  | _ => exact Collecting.truthful h inbox .aborted

theorem AtWork.truthful {s : State} (h : AtWork f inbox r s) :
    Truthful inbox r f.report (some .aborted) := by
  cases s with
  | generate =>
    obtain ⟨plan, hGenerating, _⟩ := h
    exact hGenerating.truthful rfl nofun
  | done => exact h.1.truthful
  | _ => exact h.1.truthful inbox .aborted

theorem AtWork.collecting {s : State} (h : AtWork f inbox r s) (hListens : s.listens = true) :
    Collecting f inbox r := by
  cases s with
  | generate => cases hListens
  | done => cases hListens
  | _ => exact h.1

theorem AtWork.generating {s : State} (h : AtWork f inbox r s) {point : Point}
    (hPoint : f.point = point) (hEntered : point ≠ .entering) (hAcquired : point ≠ .acquiring) :
    ∃ plan, Generating f inbox r plan ∧ Fits f plan point ∧ s = .generate := by
  subst hPoint
  cases s with
  | generate =>
    obtain ⟨plan, hGenerating, hFits⟩ := h
    exact ⟨plan, hGenerating, hFits, rfl⟩
  | done => exact absurd h.2 hEntered
  | _ =>
    rcases h.2 with hPoint | hPoint
    · exact absurd hPoint hEntered
    · exact absurd hPoint hAcquired

theorem AtWork.planned {s : State} (h : AtWork f inbox r s) (hState : s = .generate)
    (hPlan : f.plan = some plan) : Generating f inbox r plan := by
  subst hState
  obtain ⟨plan', hGenerating, _⟩ := h
  obtain rfl : plan' = plan := Option.some.inj (hGenerating.planned.symm.trans hPlan)
  exact hGenerating

theorem Collecting.congr (h : Collecting f inbox r) {f' : Factory} (hPlan : f'.plan = f.plan)
    (hAxes : f'.axes = f.axes) (hReport : f'.report = f.report) : Collecting f' inbox r :=
  ⟨hPlan.trans h.unplanned, hAxes ▸ h.axes, h.made, hReport ▸ h.count, hReport ▸ h.early⟩

theorem AtWork.acquiring {s : State} (h : AtWork f inbox r s) (hPoint : f.point = .acquiring) :
    Collecting f inbox r := by
  cases s with
  | generate =>
    obtain ⟨plan, _, hFits⟩ := h
    rw [hPoint] at hFits
    cases hFits
  | done =>
    rw [h.2] at hPoint
    cases hPoint
  | _ => exact h.1

theorem Generating.congr (h : Generating f inbox r plan) {f' : Factory}
    (hPlan : f'.plan = f.plan) (hAxes : f'.axes = f.axes)
    (hCount : f'.report.pipelines = f.report.pipelines) : Generating f' inbox r plan :=
  ⟨hPlan.trans h.planned, h.closed, hAxes.trans h.axes, h.packed, h.shown, h.split,
    hCount.trans h.count⟩

theorem Generating.atWork (h : Generating f inbox r plan) {f' : Factory}
    (hPlan : f'.plan = f.plan) (hAxes : f'.axes = f.axes)
    (hCount : f'.report.pipelines = f.report.pipelines) (hState : f'.state = .generate)
    (hFits : Fits f' plan f'.point) : AtWork f' inbox r f'.state := by
  rw [hState]
  exact ⟨plan, h.congr hPlan hAxes hCount, hFits⟩

end Truthful

section Growth

/-- An inbox to which characteristics may have been added, and which may have been closed. -/
structure Grown (inbox inbox' : Inbox) (more : List Characteristic) : Prop where
  pending : inbox'.pending = inbox.pending ++ more
  closed : inbox.closed = true → inbox'.closed = true ∧ more = []

def Record.admitting (r : Record) (more : List Characteristic) : Record :=
  { r with admitted := r.admitted ++ more }

theorem Record.admitting_nil (r : Record) : r.admitting [] = r := by
  rw [Record.admitting, List.append_nil]

theorem grown_close (inbox : Inbox) : Grown inbox inbox.close [] :=
  ⟨(List.append_nil _).symm, fun _ => ⟨rfl, rfl⟩⟩

theorem grown_register (inbox : Inbox) (c : Characteristic) :
    Grown inbox (inbox.register c).1 (if (inbox.register c).2 = .added then [c] else []) := by
  rw [Inbox.register]
  split
  · next hClosed => exact ⟨(List.append_nil _).symm, fun _ => ⟨hClosed, rfl⟩⟩
  · next hOpen =>
    split
    · exact ⟨(List.append_nil _).symm, fun hClosed => absurd hClosed hOpen⟩
    · exact ⟨rfl, fun hClosed => absurd hClosed hOpen⟩

variable {f : Factory} {inbox inbox' : Inbox} {r : Record} {more : List Characteristic}

theorem Listed.grow {packing : Packing} {rest : List (Except (Trouble Violation) CompositeIndex)}
    (h : Listed inbox r packing rest) (hGrown : Grown inbox inbox' more) :
    Listed inbox' (r.admitting more) packing rest := by
  obtain ⟨hClosed, rfl⟩ := hGrown.closed h.closed
  rw [r.admitting_nil]
  exact ⟨hClosed, h.packed, h.split⟩

theorem Partial.grow (h : Partial inbox r) (hGrown : Grown inbox inbox' more) :
    Partial inbox' (r.admitting more) := by
  rcases h with hMade | ⟨packing, rest, hListed⟩
  · exact .inl hMade
  · exact .inr ⟨packing, rest, hListed.grow hGrown⟩

theorem Truthful.grow {report : Report} {failure : Option ForgeError}
    (h : Truthful inbox r report failure) (hGrown : Grown inbox inbox' more) :
    Truthful inbox' (r.admitting more) report failure := by
  refine ⟨h.count, ?_⟩
  rcases h.cause with hEarly | ⟨packing, rest, hListed, hDone, hCause⟩
  · exact .inl hEarly
  · exact .inr ⟨packing, rest, hListed.grow hGrown, hDone, hCause⟩

theorem Collecting.grow (h : Collecting f inbox r) (hGrown : Grown inbox inbox' more) :
    Collecting f inbox' (r.admitting more) := by
  refine ⟨h.unplanned, ?_, h.made, h.count, h.early⟩
  rw [hGrown.pending, ← List.append_assoc, h.axes]
  rfl

theorem Generating.grow {plan : Plan} (h : Generating f inbox r plan)
    (hGrown : Grown inbox inbox' more) : Generating f inbox' (r.admitting more) plan := by
  obtain ⟨hClosed, rfl⟩ := hGrown.closed h.closed
  rw [r.admitting_nil]
  exact ⟨h.planned, hClosed, h.axes, h.packed, h.shown, h.split, h.count⟩

theorem Ready.grow {s : State} (h : Ready f inbox r s) (hGrown : Grown inbox inbox' more) :
    Ready f inbox' (r.admitting more) s := by
  cases s with
  | generate =>
    obtain ⟨plan, hGenerating⟩ := h
    exact ⟨plan, hGenerating.grow hGrown⟩
  | done =>
    obtain ⟨plan, hGenerating, hFinished⟩ := h
    exact ⟨plan, hGenerating.grow hGrown, hFinished⟩
  | _ => exact Collecting.grow h hGrown

theorem AtWork.grow {s : State} (h : AtWork f inbox r s) (hGrown : Grown inbox inbox' more) :
    AtWork f inbox' (r.admitting more) s := by
  cases s with
  | generate =>
    obtain ⟨plan, hGenerating, hFits⟩ := h
    exact ⟨plan, hGenerating.grow hGrown, hFits⟩
  | done => exact ⟨h.1.grow hGrown, h.2⟩
  | _ => exact ⟨h.1.grow hGrown, h.2⟩

/-- Whatever is registered, and whenever the registration is closed, a factory stays comparable
with what it sent. -/
theorem Follows.grow {mode : Mode State} (h : Follows f inbox r mode)
    (hGrown : Grown inbox inbox' more) : Follows f inbox' (r.admitting more) mode := by
  cases mode with
  | resting s =>
    obtain ⟨hEndings, hError, hPoint, hReady⟩ := h
    exact ⟨hEndings, hError, hPoint, hReady.grow hGrown⟩
  | working =>
    obtain ⟨hEndings, hError, hWork⟩ := h
    exact ⟨hEndings, hError, hWork.grow hGrown⟩
  | ended outcome =>
    cases outcome with
    | finished => exact ⟨h.1, h.2.grow hGrown⟩
    | aborted => exact ⟨h.1, h.2.grow hGrown⟩
  | leaving =>
    rcases h with ⟨failure, hPoint, hEndings, hTruthful⟩ | ⟨hPoint, hPartial, hEndings⟩
    · exact .inl ⟨failure, hPoint, hEndings, hTruthful.grow hGrown⟩
    · exact .inr ⟨hPoint, hPartial.grow hGrown, fun e he => (hEndings e he).grow hGrown⟩
  | left => exact ⟨h.1.grow hGrown, fun e he => (h.2 e he).grow hGrown⟩
  | lost => exact ⟨h.1.grow hGrown, fun e he => (h.2 e he).grow hGrown⟩

theorem Ready.partly {s : State} (h : Ready f inbox r s) : Partial inbox r := h.truthful.partly

theorem Follows.partly {mode : Mode State} (h : Follows f inbox r mode) : Partial inbox r := by
  cases mode with
  | resting s => exact h.2.2.2.partly
  | working => exact h.2.2.truthful.partly
  | ended outcome =>
    cases outcome with
    | finished => exact h.2.partly
    | aborted => exact h.2.partly
  | leaving =>
    rcases h with ⟨_, _, _, hTruthful⟩ | ⟨_, hPartial, _⟩
    · exact hTruthful.partly
    · exact hPartial
  | left => exact h.1
  | lost => exact h.1

theorem Follows.truthful {mode : Mode State} (h : Follows f inbox r mode)
    {e : Report × Option ForgeError} (he : e ∈ r.endings) : Truthful inbox r e.1 e.2 := by
  have hNone (hEndings : r.endings = []) : Truthful inbox r e.1 e.2 := by
    rw [hEndings] at he
    cases he
  cases mode with
  | resting s => exact hNone h.1
  | working => exact hNone h.1
  | ended outcome =>
    cases outcome with
    | finished => exact hNone h.1
    | aborted => exact hNone h.1
  | leaving =>
    rcases h with ⟨_, _, hEndings, _⟩ | ⟨_, _, hEndings⟩
    · exact hNone hEndings
    · exact hEndings e he
  | left => exact h.2 e he
  | lost => exact h.2 e he

end Growth

theorem setupAll_eq_none {context : Context} {cs : List Characteristic} {b : Blueprint}
    (h : (Characteristic.setupAll context cs b).2.2 = none) :
    (Characteristic.setupAll context cs b).2.1 = cs := by
  induction cs generalizing b with
  | nil => rfl
  | cons c cs ih =>
    rw [Characteristic.setupAll] at h ⊢
    split
    · next hSetup =>
      simp only [hSetup] at h
      cases h
    · next b' hSetup =>
      simp only [hSetup] at h
      exact congrArg (c :: ·) (ih h)

theorem Record.extend_nil (r : Record) (f : FactoryId) : r.extend f [] = r := by
  simp [Record.extend, madeIn, endingsIn]

section Passages

variable {κ : Type} {compiler : Compiler κ} {hub : Nat} {w w' : Floor κ} {f f' : Factory}
  {r : Record}

theorem Generating.send {inbox : Inbox} {plan : Plan} (h : Generating f inbox r plan)
    {o : CompileOrder} (hOrder : orderOf f plan = .ok o) (hShown : plan.odometer.finished = false)
    {p : Pipeline} (hIndex : p.index = o.index) :
    Generating f.delivered inbox (r.extend f.id [.made f.id f.slot p])
      { plan with odometer := plan.odometer.advance } := by
  have hMade : (r.extend f.id [.made f.id f.slot p]).made = r.made ++ [p] := by
    simp [Record.extend, madeIn]
  constructor
  · rw [delivered, h.planned, Option.map_some]
  · exact h.closed
  · exact h.axes
  · exact h.packed
  · rw [Odometer.spans_advance, h.shown]
  · rw [Record.indices, hMade, List.map_append, List.append_assoc, h.split, h.next hOrder hShown,
      Record.indices]
    simp [hIndex]
  · rw [hMade, List.length_append, ← h.count]
    rfl

theorem Collecting.equip (h : Collecting f (w.office.inbox f.id) r)
    (hKnown : f.id < w.office.inboxes.length) (hSetup : (settingUp w f).2.2 = none) :
    Collecting (equipped w f).rested ((emptied w f).office.inbox f.id) r := by
  have hDone : (settingUp w f).2.1 = (w.office.inbox f.id).pending := setupAll_eq_none hSetup
  have hInbox : (emptied w f).office.inbox f.id = (w.office.inbox f.id).takeAll.1 :=
    Office.inbox_setInbox_self _ hKnown
  rw [hInbox]
  refine ⟨h.unplanned, ?_, h.made, h.count, h.early⟩
  change (f.axes ++ (settingUp w f).2.1) ++ [] = r.admitted
  rw [List.append_nil, hDone]
  exact h.axes

theorem Collecting.plan {inbox : Inbox} {packing : Packing} (h : Collecting f inbox r)
    (hPending : inbox.pending = []) (hClosed : inbox.closed = true)
    (hPacking : Packing.ofSpans (f.axes.map Characteristic.span) = .ok packing) :
    Generating { f.rested with plan := some ⟨packing, .start packing.spans⟩ } inbox r
      ⟨packing, .start packing.spans⟩ := by
  have hAxes : f.axes = r.admitted := by rw [← h.axes, hPending, List.append_nil]
  constructor
  · rfl
  · exact hClosed
  · exact hAxes
  · rw [← hAxes]
    exact hPacking
  · exact Odometer.spans_start packing.spans
  · rw [Odometer.rest_start, Record.indices, h.made]
    rfl
  · rw [h.made]
    exact h.count

theorem AtWork.isBusy {inbox : Inbox} {s : State} (h : AtWork f inbox r s) :
    f.point.isBusy = true := by
  cases hPoint : f.point with
  | resting | reporting | signingOff =>
    obtain ⟨_, _, hFits, _⟩ := h.generating hPoint nofun nofun
    exact hFits.elim
  | _ => rfl

theorem Turn.follows_more (hTurn : Turn compiler hub w f w' f' .more)
    (hIndex : compiler.KeepsIndex) (hCarries : w.registry.Each Carries)
    (hWork : AtWork f (w.office.inbox f.id) r f.state) :
    AtWork f' (w'.office.inbox f.id) r f'.state := by
  cases hTurn with
  | started hPoint hState =>
    have hCollecting := hWork.collecting (by rw [hState]; rfl)
    rw [show (f.turnedTo .acquiring).state = .start from hState]
    exact ⟨hCollecting.congr rfl rfl rfl, .inr rfl⟩
  | hit plan o id registry p hPoint hState hPlan hShown hOrder hCache hLookup =>
    have hSame : p.index = o.index := hCarries.lookup_some hLookup
    exact (hWork.planned hState hPlan).atWork rfl rfl rfl hState ⟨o, hOrder, hShown, hSame⟩
  | missed plan o id registry hPoint hState hPlan hShown hOrder hCache hLookup =>
    exact (hWork.planned hState hPlan).atWork rfl rfl rfl hState ⟨hOrder, hShown⟩
  | ordered _ _ _ hPoint | discarded _ _ hPoint =>
    obtain ⟨plan, hGenerating, hFits, hState⟩ := hWork.generating hPoint nofun nofun
    exact hGenerating.atWork rfl rfl rfl hState hFits
  | built ticket o k registry p hPoint hAnswer =>
    obtain ⟨plan, hGenerating, hFits, hState⟩ := hWork.generating hPoint nofun nofun
    have hSame : p.index = o.index := hIndex _ _ _ _ _ _ _ _ hAnswer
    exact hGenerating.atWork rfl rfl rfl hState ⟨o, hFits.1, hFits.2, rfl, hSame⟩
  | stored key p id registry hPoint hCache hStore =>
    obtain ⟨plan, hGenerating, ⟨o, hOrder, hShown, _, hSame⟩, hState⟩ :=
      hWork.generating hPoint nofun nofun
    exact hGenerating.atWork rfl rfl rfl hState ⟨o, hOrder, hShown, hSame⟩
  | outrun key p kept id registry hPoint hCache hStore =>
    obtain ⟨plan, hGenerating, ⟨o, hOrder, hShown, hKey, _⟩, hState⟩ :=
      hWork.generating hPoint nofun nofun
    have hKept : kept.index = o.index := by
      rw [hCarries.store_existing hStore, hKey]
      rfl
    exact hGenerating.atWork rfl rfl rfl hState ⟨o, hOrder, hShown, hKept⟩

theorem Turn.ready_of_proceeds {next : State}
    (hTurn : Turn compiler hub w f w' f' (.step (.proceed next)))
    (hKnown : f.id < w.office.inboxes.length) (hWork : AtWork f (w.office.inbox f.id) r f.state) :
    f'.error = f.error ∧ f'.point = .resting ∧ Ready f' (w'.office.inbox f.id) r next := by
  have hCollecting {s : State} (hState : f.state = s) (hListens : s.listens = true) :=
    hWork.collecting (hState ▸ hListens)
  cases hTurn with
  | equipped hPoint hState hSetup =>
    exact ⟨rfl, rfl, (hCollecting hState rfl).equip hKnown hSetup⟩
  | again hPoint hState hPending =>
    exact ⟨rfl, rfl, (hCollecting hState rfl).congr rfl rfl rfl⟩
  | planned packing hPoint hState hPending hClosed hPacking =>
    exact ⟨rfl, rfl, _, (hCollecting hState rfl).plan hPending hClosed hPacking⟩
  | unplanned hPoint hState hPlan =>
    rw [hState] at hWork
    obtain ⟨plan, hGenerating, _⟩ := hWork
    rw [hGenerating.planned] at hPlan
    cases hPlan
  | exhausted plan hPoint hState hPlan hFinished =>
    exact ⟨rfl, rfl, plan, (hWork.planned hState hPlan).congr rfl rfl rfl, hFinished⟩
  | acquired registry id hPoint hAcquire =>
    exact ⟨rfl, rfl, (hWork.acquiring hPoint).congr rfl rfl rfl⟩

/-- Only a compilation that comes to nothing tells of an index, which is that of the combination at
hand. -/
theorem Turn.truthful_of_abort (hTurn : Turn compiler hub w f w' f' (.step .abort))
    (hWork : AtWork f (w.office.inbox f.id) r f.state) (hNone : f.error = none) {e : ForgeError}
    (hError : f'.error = some e) : Truthful (w'.office.inbox f.id) r f.report (some e) := by
  cases hTurn with
  | doomed _ hPoint hState => exact (hWork.collecting hState).truthful _ e
  | unequipped _ hPoint hState | tooWide _ hPoint hState =>
    exact (hWork.collecting (by rw [hState]; rfl)).truthful _ e
  | unfilled _ plan hPoint hState hPlan hOrder =>
    obtain rfl := Option.some.inj hError
    obtain ⟨name, cause, rfl⟩ := orderOf_eq_error hOrder
    exact (hWork.planned hState hPlan).truthful rfl nofun
  | evicted o hPoint hState hCache =>
    obtain rfl := Option.some.inj hError
    rw [hState] at hWork
    obtain ⟨plan, hGenerating, _⟩ := hWork
    exact hGenerating.truthful rfl nofun
  | unacquired _ hPoint hAcquire => exact (hWork.acquiring hPoint).truthful _ e
  | refused ticket o k registry causes hPoint hAnswer =>
    obtain rfl := Option.some.inj hError
    obtain ⟨plan, hGenerating, hFits, hState⟩ := hWork.generating hPoint nofun nofun
    refine hGenerating.truthful rfl ?_
    intro index reason hCause
    cases hCause
    rw [hGenerating.next hFits.1 hFits.2]
    rfl
  | unstored _ _ hPoint | unsent _ hPoint =>
    obtain rfl := Option.some.inj hError
    obtain ⟨plan, hGenerating, _⟩ := hWork.generating hPoint nofun nofun
    exact hGenerating.truthful rfl nofun
  | idle hPoint =>
    rw [hNone] at hError
    cases hError

theorem Turn.truthful_of_fault {text : String} (hTurn : Turn compiler hub w f w' f' (.fault text))
    (hWork : AtWork f (w.office.inbox f.id) r f.state) :
    Truthful (w'.office.inbox f.id) r f.report (some .aborted) := by
  cases hTurn with
  | broken _ hPoint hState => exact (hWork.collecting (by rw [hState]; rfl)).truthful _ .aborted
  | tooMany | misfilled | crashed => exact hWork.truthful

theorem Turn.follows_quiet {reply : Reply State} (hTurn : Turn compiler hub w f w' f' reply)
    (hIndex : compiler.KeepsIndex) (hCarries : w.registry.Each Carries)
    (hKnown : f.id < w.office.inboxes.length)
    (h : Follows f (w.office.inbox f.id) r .working) (hNone : sentIn w w' = []) :
    Follows f' (w'.office.inbox f.id) r reply.mode := by
  obtain ⟨hEndings, hError, hWork⟩ := h
  cases hTurn.effect hWork.isBusy with
  | goesOn hTurn hOffice hSame =>
    exact ⟨hEndings, hSame ▸ hError, hTurn.follows_more hIndex hCarries hWork⟩
  | proceeds s hTurn =>
    obtain ⟨hSame, hResting, hReady⟩ := hTurn.ready_of_proceeds hKnown hWork
    exact ⟨hEndings, hSame.trans hError, hResting, hReady⟩
  | waits hPoint hState =>
    have hCollecting := hWork.collecting (by rw [hState]; rfl)
    exact ⟨hEndings, hError, rfl, hCollecting.congr rfl rfl rfl⟩
  | sends p hPoint hOpen =>
    rw [sentIn_send hOpen rfl] at hNone
    cases hNone
  | finishes hPoint hState =>
    rw [hState] at hWork
    obtain ⟨⟨plan, hGenerating, hFinished⟩, _⟩ := hWork
    refine ⟨hEndings, ?_⟩
    rw [show f.rested.error = none from hError]
    exact hGenerating.truthful_finished hFinished
  | fails e hTurn hFailed hReport =>
    refine ⟨hEndings, ?_⟩
    rw [hFailed, hReport]
    exact hTurn.truthful_of_abort hWork hError hFailed
  | faults text hTurn hSame hReport =>
    refine ⟨hEndings, ?_⟩
    rw [hSame, hError, hReport]
    exact hTurn.truthful_of_fault hWork

theorem Turn.follows {reply : Reply State} (hTurn : Turn compiler hub w f w' f' reply)
    (hIndex : compiler.KeepsIndex) (hCarries : w.registry.Each Carries)
    (hKnown : f.id < w.office.inboxes.length)
    (h : Follows f (w.office.inbox f.id) r .working) :
    Follows f' (w'.office.inbox f.id) (r.extend f.id (sentIn w w')) reply.mode := by
  rcases hTurn.quiet_or_sent with hNone | ⟨p, hPoint, hOpen, rfl, rfl, rfl⟩
  · rw [hNone, r.extend_nil]
    exact hTurn.follows_quiet hIndex hCarries hKnown h hNone
  · obtain ⟨hEndings, hError, hWork⟩ := h
    obtain ⟨plan, hGenerating, hFits, _⟩ := hWork.generating hPoint nofun nofun
    obtain ⟨o, hOrder, hShown, hSame⟩ := hFits
    rw [sentIn_send hOpen rfl, Office.inbox_send]
    refine ⟨?_, hError, rfl, _, hGenerating.send hOrder hShown hSame⟩
    simp [Record.extend, endingsIn, hEndings]

theorem Truthful.report {inbox : Inbox} {report : Report} {failure : Option ForgeError}
    (h : Truthful inbox r report failure) (endings : List (Report × Option ForgeError)) :
    Truthful inbox { r with endings } report failure := by
  refine ⟨h.count, ?_⟩
  rcases h.cause with hEarly | ⟨packing, rest, hListed, hDone, hCause⟩
  · exact .inl hEarly
  · exact .inr ⟨packing, rest, ⟨hListed.closed, hListed.packed, hListed.split⟩, hDone, hCause⟩

theorem generate_notMem_visit {report : Report} {s : State} (hListens : s.listens = true)
    (hEarly : State.generate ∉ report.states) : State.generate ∉ (report.visit s).states := by
  rw [Report.visit]
  split
  · exact hEarly
  · intro hMem
    rcases List.mem_append.mp hMem with hMem | hMem
    · exact hEarly hMem
    · rw [← List.mem_singleton.mp hMem] at hListens
      cases hListens

theorem Collecting.enter {inbox : Inbox} (h : Collecting f inbox r) {s : State}
    (hListens : s.listens = true) : Collecting (f.enter s) inbox r := by
  refine ⟨h.unplanned, h.axes, h.made, ?_, generate_notMem_visit hListens h.early⟩
  change (f.report.visit s).pipelines = 0
  rw [Report.visit]
  split
  · exact h.count
  · exact h.count

theorem Generating.enter {inbox : Inbox} {plan : Plan} (h : Generating f inbox r plan)
    (s : State) : Generating (f.enter s) inbox r plan := by
  apply h.congr
  · rfl
  · rfl
  · change (f.report.visit s).pipelines = f.report.pipelines
    rw [Report.visit]
    split
    · rfl
    · rfl

theorem Ready.enter {inbox : Inbox} {s : State} (h : Ready f inbox r s) :
    AtWork (f.enter s) inbox r s := by
  cases s with
  | generate =>
    obtain ⟨plan, hGenerating⟩ := h
    exact ⟨plan, hGenerating.enter .generate, trivial⟩
  | done =>
    obtain ⟨plan, hGenerating, hFinished⟩ := h
    exact ⟨⟨plan, hGenerating.enter .done, hFinished⟩, rfl⟩
  | start => exact ⟨Collecting.enter h rfl, .inl rfl⟩
  | setUp => exact ⟨Collecting.enter h rfl, .inl rfl⟩
  | settled => exact ⟨Collecting.enter h rfl, .inl rfl⟩

theorem Passage.follows {mode mode' : Mode State}
    (hPassage : Passage compiler hub w f mode w' f' mode') (hIndex : compiler.KeepsIndex)
    (hCarries : w.registry.Each Carries) (hKnown : f.id < w.office.inboxes.length)
    (h : Follows f (w.office.inbox f.id) r mode) :
    Follows f' (w'.office.inbox f.id) (r.extend f.id (sentIn w w')) mode' := by
  have hQuiet (hEvents : w'.office.events = w.office.events) :
      r.extend f.id (sentIn w w') = r := by rw [sentIn_of_events hEvents, r.extend_nil]
  cases hPassage with
  | still =>
    rw [hQuiet rfl]
    exact h
  | entered s =>
    rw [hQuiet rfl]
    obtain ⟨hEndings, hError, _, hReady⟩ := h
    exact ⟨hEndings, hError, hReady.enter⟩
  | stopped s =>
    rw [hQuiet rfl]
    obtain ⟨hEndings, hError, _, hReady⟩ := h
    refine ⟨hEndings, ?_⟩
    rw [hError]
    exact hReady.truthful
  | turned hTurn => exact hTurn.follows hIndex hCarries hKnown h
  | told outcome =>
    rw [hQuiet rfl]
    cases outcome with
    | finished => exact .inl ⟨f.error, rfl, h.1, h.2⟩
    | aborted => exact .inl ⟨f.error.or (some .aborted), rfl, h.1, h.2⟩
  | reported failure hPoint =>
    rcases h with ⟨failure', hPoint', hEndings, hTruthful⟩ | ⟨hOther, _⟩
    · rw [hPoint] at hPoint'
      cases hPoint'
      rw [Office.inbox_send]
      cases hOpen : w.office.isOpen with
      | false =>
        rw [sentIn_closed hOpen rfl, r.extend_nil]
        refine .inr ⟨nofun, hTruthful.partly, ?_⟩
        rw [hEndings]
        exact nofun
      | true =>
        have hExtend : r.extend f.id [.ended f.id f.report failure f.cache] =
            { r with endings := [(f.report, failure)] } := by
          simp [Record.extend, madeIn, endingsIn, hEndings]
        rw [sentIn_send hOpen rfl, hExtend]
        refine .inr ⟨nofun, (hTruthful.report _).partly, ?_⟩
        intro e he
        obtain rfl := List.mem_singleton.mp he
        exact hTruthful.report _
    · exact absurd hPoint (hOther failure)
  | signedOff hPoint =>
    rw [hQuiet (Office.events_release _ _), Office.inbox_release]
    rcases h with ⟨failure, hPoint', _⟩ | ⟨_, hPartial, hEndings⟩
    · exact absurd hPoint' (hPoint failure)
    · exact ⟨hPartial, hEndings⟩

theorem Passage.sentIn_other {mode mode' : Mode State}
    (hPassage : Passage compiler hub w f mode w' f' mode') {g : FactoryId} (hg : g ≠ f.id) :
    madeIn g (sentIn w w') = [] ∧ endingsIn g (sentIn w w') = [] := by
  rcases hPassage.sentIn_cases with hSent | ⟨p, _, _, hSent⟩ | ⟨failure, _, _, _, _, hSent⟩
  · rw [hSent]
    exact ⟨rfl, rfl⟩
  · rw [hSent]
    simp [madeIn, endingsIn, hg.symm]
  · rw [hSent]
    simp [madeIn, endingsIn, hg.symm]

theorem Passage.carries {mode mode' : Mode State}
    (hPassage : Passage compiler hub w f mode w' f' mode') (hCaches : compiler.LeavesCaches)
    (hCarries : w.registry.Each Carries) (h : Follows f (w.office.inbox f.id) r mode) :
    w'.registry.Each Carries := by
  cases hPassage.handles hCaches with
  | same hSame => exact hSame ▸ hCarries
  | looked id key hLookup => exact hLookup ▸ hCarries.lookup
  | acquired name id hAcquire => exact hCarries.acquire hAcquire
  | stored id key p hMode hPoint hStore =>
    subst hMode
    obtain ⟨_, _, hFits, _⟩ := h.2.2.generating hPoint nofun nofun
    obtain ⟨o, _, _, rfl, hIndex⟩ := hFits
    exact hStore ▸ hCarries.store hIndex

end Passages

end Factory

end PipelineForge
