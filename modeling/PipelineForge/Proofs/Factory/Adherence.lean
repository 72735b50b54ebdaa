import PipelineForge.Proofs.Factory.Courses
import PipelineForge.Proofs.Factory.Inboxes

/-!
# Adherence of factories

What a factory does with its axes, and how it fails, is compared with the course that all axes
together decide. Every turn of a factory that gets its cache and its pipelines keeps the
comparison, whenever the axes come, and a factory that has ended has run its course. Nothing is
said about how long that takes.
-/

namespace PipelineForge

open Axis

def Verdict.isMade : Verdict → Bool
  | made _ => true
  | _ => false

namespace Factory

open Tasks (Mode Outcome Reply)

variable {κ : Type}

/-- What a factory that is at work does with its axes in its next piece of work. -/
def deeds (w : Floor κ) (f : Factory) : List Deed :=
  match f.point, f.state with
  | .entering, .setUp =>
    match (w.office.inbox f.id).failed with
    | none => setups ⟨f.name, f.frame⟩ (w.office.inbox f.id).pending f.base
    | some _ => []
  | .entering, .generate =>
    match f.plan with
    | none => []
    | some plan =>
      if plan.odometer.finished then []
      else
        fills f.axes plan.odometer.current .zero f.base ++
          match orderOf f plan with
          | .error _ => []
          | .ok o => if o.index ∈ f.generated then [] else [.order o]
  | _, _ => []

/-- The factory gets its cache if it asks for it, and a pipeline if it waits for one. -/
def prospers (compiler : Compiler κ) (hub : Nat) (w : Floor κ) (f : Factory) : Bool :=
  match f.point with
  | .acquiring => (w.registry.acquire f.cacheName).isOk
  | .compiling ticket o => (compiler.answer w.compiler w.registry hub ticket o).2.2.isMade
  | _ => true

section Deeds

variable {w : Floor κ} {f : Factory}

theorem deeds_of_point {point : Point} (hPoint : f.point = point) (hOther : point ≠ .entering) :
    f.deeds w = [] := by
  unfold deeds
  split
  · next hEntering _ => exact absurd (hPoint.symm.trans hEntering) hOther
  · next hEntering _ => exact absurd (hPoint.symm.trans hEntering) hOther
  · rfl

theorem deeds_of_state {s : State} (hState : f.state = s) (hOther : s ≠ .setUp ∧ s ≠ .generate) :
    f.deeds w = [] := by
  unfold deeds
  split
  · next hSetUp => exact absurd (hState.symm.trans hSetUp) hOther.1
  · next hGenerate => exact absurd (hState.symm.trans hGenerate) hOther.2
  · rfl

theorem deeds_setUp (hPoint : f.point = .entering) (hState : f.state = .setUp)
    (hFailed : (w.office.inbox f.id).failed = none) :
    f.deeds w = setups ⟨f.name, f.frame⟩ (w.office.inbox f.id).pending f.base := by
  simp only [deeds, hPoint, hState, hFailed]

theorem deeds_finished {plan : Plan} (hPlan : f.plan = some plan)
    (hState : f.state = .generate) (hFinished : plan.odometer.finished = true) :
    f.deeds w = [] := by
  unfold deeds
  split
  · next hOther => rw [hState] at hOther; cases hOther
  · simp only [hPlan, hFinished, if_true]
  · rfl

theorem deeds_generate {plan : Plan} (hPoint : f.point = .entering)
    (hState : f.state = .generate) (hPlan : f.plan = some plan)
    (hShown : plan.odometer.finished = false) :
    f.deeds w = fills f.axes plan.odometer.current .zero f.base ++
      match orderOf f plan with
      | .error _ => []
      | .ok o => if o.index ∈ f.generated then [] else [.order o] := by
  simp only [deeds, hPoint, hState, hPlan, hShown, Bool.false_eq_true, if_false]

end Deeds

theorem mem_endingsIn {id : FactoryId} {events : List Event} {report : Report}
    {failure : Option ForgeError} : (report, failure) ∈ endingsIn id events ↔
      ∃ cache, Event.ended id report failure cache ∈ events := by
  rw [endingsIn, List.mem_filterMap]
  constructor
  · rintro ⟨e, hMem, hSame⟩
    cases e with
    | made g slot p => cases hSame
    | ended g report' failure' cache =>
      simp only [Option.ite_none_right_eq_some, Option.some.injEq, Prod.mk.injEq] at hSame
      obtain ⟨rfl, rfl, rfl⟩ := hSame
      exact ⟨cache, hMem⟩
  · rintro ⟨cache, hMem⟩
    exact ⟨_, hMem, if_pos rfl⟩

/-- Before the axes are fixed: what was taken out of the inbox is set up. -/
structure Collected (setting : Setting) (posts : List Post) (f : Factory) (inbox : Inbox)
    (done : List Deed) : Prop where
  given : f.setting = setting
  base : Characteristic.setupAll setting.context f.axes {} = (f.base, f.axes, none)
  done : done = setups setting.context f.axes {}
  unmade : f.generated = []
  took : inbox.Took f.axes posts

/-- Once the axes are fixed: all combinations but some last ones are made. -/
structure Making (setting : Setting) (cs : List Characteristic) (f : Factory) (plan : Plan)
    (done : List Deed) (rest : List (List Int32)) : Prop where
  planned : f.plan = some plan
  axes : f.axes = cs
  base : Characteristic.setupAll setting.context cs {} = (f.base, cs, none)
  packed : Packing.ofSpans (cs.map Characteristic.span) = .ok plan.packing
  counted : miscount setting.log plan.packing = none
  cached : f.cache ≠ none
  progress : ∃ made, tuples plan.packing.spans = made ++ rest ∧
    (combinations plan.packing cs f.base made).2 = true ∧
    done = setups setting.context cs {} ++ (combinations plan.packing cs f.base made).1 ∧
    ∀ i ∈ f.generated, ∃ tuple ∈ made, plan.packing.encode tuple = .ok i

def Point.inHand : Point → Prop
  | .ordering _ | .compiling _ _ | .storing _ _ | .discarding _ _ | .handingOff _ => True
  | _ => False

/-- What goes to the compiler and into the cache is what was ordered last. -/
def Point.Pursues (done : List Deed) : Point → Prop
  | .ordering o | .compiling _ o => done.getLast? = some (.order o)
  | .storing key _ => ∃ o, done.getLast? = some (.order o) ∧ key = o.key
  | _ => True

section Adheres

variable (setting : Setting) (cs : List Characteristic)
  (posts : List Post) (f : Factory)
  (inbox : Inbox) (done : List Deed)

def Prepared : State → Prop
  | .start => Collected setting posts f inbox done
  | .setUp | .settled => Collected setting posts f inbox done ∧ f.cache ≠ none
  | .generate => ∃ plan, Making setting cs f plan done plan.odometer.rest
  | .done => ∃ plan, Making setting cs f plan done []

def Engaged : State → Prop
  | .start => Collected setting posts f inbox done ∧ (f.point = .entering ∨ f.point = .acquiring)
  | .setUp | .settled =>
    Collected setting posts f inbox done ∧ f.cache ≠ none ∧ f.point = .entering
  | .generate => ∃ plan, f.point = .entering ∧ Making setting cs f plan done plan.odometer.rest ∨
    f.point.inHand ∧ f.point.Pursues done ∧ Making setting cs f plan done plan.odometer.advance.rest
  | .done => ∃ plan, Making setting cs f plan done [] ∧ f.point = .entering

/-- The comparison of a factory with its course, by the mode of its task. -/
def Adheres (endings : List (Report × Option ForgeError)) : Mode State → Prop
  | .resting s => endings = [] ∧ f.error = none ∧ Prepared setting cs posts f inbox done s
  | .working => endings = [] ∧ f.error = none ∧ Engaged setting cs posts f inbox done f.state
  | .ended outcome => endings = [] ∧ course setting cs = ⟨done, f.failureOf outcome⟩
  | .leaving =>
    (∃ failure, f.point = .reporting failure ∧ endings = [] ∧
      course setting cs = ⟨done, failure⟩) ∨
    ((∀ failure, f.point ≠ .reporting failure) ∧
      done = (course setting cs).deeds ∧ ∀ e ∈ endings, e.2 = (course setting cs).failure)
  | _ => done = (course setting cs).deeds ∧ ∀ e ∈ endings, e.2 = (course setting cs).failure

end Adheres

section Steps

variable {setting : Setting} {cs : List Characteristic} {posts : List Post} {f f' : Factory}
  {inbox : Inbox} {done : List Deed} {w w' : Floor κ} {plan : Plan}
  {rest : List (List Int32)}

theorem Collected.context_eq (h : Collected setting posts f inbox done) :
    (⟨f.name, f.frame⟩ : Context) = setting.context := congrArg Setting.context h.given

theorem Collected.log_eq (h : Collected setting posts f inbox done) : f.log = setting.log :=
  congrArg Setting.log h.given

theorem Collected.congr (h : Collected setting posts f inbox done)
    (hSetting : f'.setting = f.setting) (hAxes : f'.axes = f.axes)
    (hBase : f'.base = f.base) (hGenerated : f'.generated = f.generated) :
    Collected setting posts f' inbox done :=
  ⟨hSetting.trans h.given, by rw [hAxes, hBase]; exact h.base,
    by rw [hAxes]; exact h.done, hGenerated.trans h.unmade, by rw [hAxes]; exact h.took⟩

theorem Collected.settingUp_eq (h : Collected setting posts f (w.office.inbox f.id) done) :
    Characteristic.setupAll setting.context (f.axes ++ (w.office.inbox f.id).pending) {} =
      ((settingUp w f).1, f.axes ++ (settingUp w f).2.1, (settingUp w f).2.2) := by
  rw [setupAll_append (by rw [h.base]), h.base, settingUp, h.context_eq]

theorem Collected.setups_eq (h : Collected setting posts f (w.office.inbox f.id) done)
    (hPoint : f.point = .entering) (hState : f.state = .setUp) :
    done ++ f.deeds w = setups setting.context (f.axes ++ (w.office.inbox f.id).pending) {} := by
  rw [setups_append (by rw [h.base]), h.base, deeds_setUp hPoint hState h.took.failed, h.done,
    h.context_eq]

theorem Collected.trouble (h : Collected setting posts f (w.office.inbox f.id) done)
    (hPosts : posts <+: postings cs) (hPoint : f.point = .entering) (hState : f.state = .setUp)
    {trouble : Trouble ForgeError} (hSetup : (settingUp w f).2.2 = some trouble) :
    course setting cs = ⟨done ++ f.deeds w, some (failureBy trouble)⟩ := by
  rw [h.setups_eq hPoint hState]
  exact course_of_trouble (by rw [h.settingUp_eq, hSetup]) (h.took.isPrefix hPosts)

theorem Collected.equip (h : Collected setting posts f (w.office.inbox f.id) done)
    (hKnown : f.id < w.office.inboxes.length) (hPoint : f.point = .entering)
    (hState : f.state = .setUp) (hSetup : (settingUp w f).2.2 = none) :
    Collected setting posts (equipped w f).rested ((emptied w f).office.inbox f.id)
      (done ++ f.deeds w) := by
  have hDone : (settingUp w f).2.1 = (w.office.inbox f.id).pending := setupAll_eq_none hSetup
  have hAxes : (equipped w f).rested.axes = f.axes ++ (w.office.inbox f.id).pending := by
    rw [← hDone]
    rfl
  have hInbox : (emptied w f).office.inbox f.id = (w.office.inbox f.id).takeAll.1 :=
    Office.inbox_setInbox_self _ hKnown
  constructor
  · exact h.given
  · rw [hAxes, h.settingUp_eq, hDone, hSetup]
    rfl
  · rw [hAxes, h.setups_eq hPoint hState]
  · exact h.unmade
  · rw [hAxes, hInbox]
    exact h.took.takeAll

theorem Collected.all (h : Collected setting posts f inbox done) (hPosts : posts <+: postings cs)
    (hPending : inbox.pending = []) (hClosed : inbox.closed = true) :
    f.axes = cs ∧ Characteristic.setupAll setting.context cs {} = (f.base, cs, none) ∧
      done = setups setting.context cs {} := by
  have hAll := h.took.all hPosts hClosed
  rw [hPending, List.append_nil] at hAll
  refine ⟨hAll, ?_, ?_⟩
  · rw [← hAll]
    exact h.base
  · rw [← hAll]
    exact h.done

theorem Making.congr (h : Making setting cs f plan done rest) (hPlan : f'.plan = f.plan)
    (hAxes : f'.axes = f.axes) (hBase : f'.base = f.base) (hCache : f'.cache = f.cache)
    (hGenerated : f'.generated = f.generated) : Making setting cs f' plan done rest :=
  ⟨hPlan.trans h.planned, hAxes.trans h.axes, by rw [hBase]; exact h.base, h.packed, h.counted,
    by rw [hCache]; exact h.cached, by rw [hBase, hGenerated]; exact h.progress⟩

theorem Making.spans (h : Making setting cs f plan done rest) :
    plan.packing.spans = f.axes.map Characteristic.span := by
  rw [h.axes]
  exact Packing.ofSpans_eq_ok h.packed

theorem Making.course_eq (h : Making setting cs f plan done []) :
    course setting cs = ⟨done, none⟩ := by
  obtain ⟨made, hTuples, hAll, hDone, _⟩ := h.progress
  rw [List.append_nil] at hTuples
  rw [course_of_plan h.base h.packed h.counted, hTuples, hAll, hDone]
  rfl

section Shown

variable (h : Making setting cs f plan done plan.odometer.rest)
  (hShown : plan.odometer.finished = false)

include h hShown

theorem Making.spent : Spent plan.packing f.generated
    (plan.odometer.current :: plan.odometer.advance.rest) := by
  obtain ⟨made, hTuples, _, _, hGenerated⟩ := h.progress
  exact ⟨made, Odometer.rest_advance hShown ▸ hTuples, hGenerated⟩

/-- The combination that the odometer shows is the next one of the course, and none of those that
were made. -/
theorem Making.next (hPoint : f.point = .entering) (hState : f.state = .generate) :
    (∃ o, orderOf f plan = .ok o ∧ o.index ∉ f.generated ∧
      Making setting cs (f.noting o) plan (done ++ f.deeds w) plan.odometer.advance.rest) ∨
    ∃ x, orderOf f plan = .error (.fault x) ∧
      course setting cs = ⟨done ++ f.deeds w, some .aborted⟩ := by
  obtain ⟨hCalls, index, hIndex, hOrder⟩ :=
    orderOf_eq h.spans (mem_tuples.mp (h.spent hShown).mem)
  have hNew := (h.spent hShown).notMem hIndex
  obtain ⟨made, hTuples, hAll, hDone, hGenerated⟩ := h.progress
  rw [Odometer.rest_advance hShown] at hTuples
  rw [deeds_generate hPoint hState h.planned hShown, hCalls]
  rw [h.axes] at hOrder ⊢
  cases hFilled : filled (varying cs plan.odometer.current) f.base with
  | ok b =>
    simp only [hFilled] at hOrder
    -- The shown tuple moves from those that are left to those that were made.
    have hMade := combinations_concat hAll plan.odometer.current
    rw [combination_of_filled hIndex hFilled] at hMade
    refine .inl ⟨⟨b, index⟩, hOrder, hNew, h.planned, h.axes, h.base, h.packed, h.counted, h.cached,
      made ++ [plan.odometer.current], ?_, congrArg Prod.snd hMade, ?_, ?_⟩
    · rw [hTuples, List.append_assoc]
      rfl
    · refine Eq.trans ?_ (congrArg (setups setting.context cs {} ++ ·.1) hMade.symm)
      simp only [hOrder, hDone, hNew, if_false, List.append_assoc]
    · intro i hi
      rcases List.mem_cons.mp hi with rfl | hi
      · exact ⟨_, List.mem_append_right _ (List.mem_singleton_self _), hIndex⟩
      · obtain ⟨tuple, hMem, hSame⟩ := hGenerated i hi
        exact ⟨tuple, List.mem_append_left _ hMem, hSame⟩
  | error x =>
    simp only [hFilled] at hOrder
    refine .inr ⟨x, hOrder, ?_⟩
    have hFault := combination_of_fault plan.packing hFilled
    rw [course_of_plan h.base h.packed h.counted, hTuples,
      combinations_of_stop hAll (congrArg Prod.snd hFault), hFault, hOrder, hDone]
    simp

end Shown

theorem Engaged.collected (h : Engaged setting cs posts f inbox done f.state) {s : State}
    (hState : f.state = s) (hListens : s.listens = true) :
    Collected setting posts f inbox done ∧ (s ≠ .start → f.cache ≠ none) := by
  rw [hState] at h
  cases s with
  | start => exact ⟨h.1, fun hOther => absurd rfl hOther⟩
  | setUp => exact ⟨h.1, fun _ => h.2.1⟩
  | settled => exact ⟨h.1, fun _ => h.2.1⟩
  | generate => cases hListens
  | done => cases hListens

theorem Engaged.atHand {s : State} (h : Engaged setting cs posts f inbox done s) {point : Point}
    (hPoint : f.point = point) (hHand : point.inHand) :
    s = .generate ∧ point.Pursues done ∧
      ∃ plan, Making setting cs f plan done plan.odometer.advance.rest := by
  subst hPoint
  have hAbsurd (hEntering : f.point = .entering) : False := by
    rw [hEntering] at hHand
    exact hHand
  cases s with
  | start =>
    rcases h.2 with hPoint | hPoint
    · exact (hAbsurd hPoint).elim
    · rw [hPoint] at hHand
      exact hHand.elim
  | setUp => exact (hAbsurd h.2.2).elim
  | settled => exact (hAbsurd h.2.2).elim
  | generate =>
    obtain ⟨plan, ⟨hPoint, _⟩ | ⟨_, hPursues, hMaking⟩⟩ := h
    · exact (hAbsurd hPoint).elim
    · exact ⟨rfl, hPursues, plan, hMaking⟩
  | done =>
    obtain ⟨plan, _, hPoint⟩ := h
    exact (hAbsurd hPoint).elim

theorem Engaged.acquiring {s : State} (h : Engaged setting cs posts f inbox done s)
    (hPoint : f.point = .acquiring) : Collected setting posts f inbox done := by
  cases s with
  | start => exact h.1
  | setUp => exact h.1
  | settled => exact h.1
  | generate =>
    obtain ⟨plan, ⟨hOther, _⟩ | ⟨hHand, _⟩⟩ := h
    · rw [hPoint] at hOther
      cases hOther
    · rw [hPoint] at hHand
      exact hHand.elim
  | done =>
    obtain ⟨plan, _, hOther⟩ := h
    rw [hPoint] at hOther
    cases hOther

theorem Engaged.exists_making (h : Engaged setting cs posts f inbox done f.state)
    (hState : f.state = .generate) (hPoint : f.point = .entering) :
    ∃ plan, Making setting cs f plan done plan.odometer.rest := by
  rw [hState] at h
  obtain ⟨plan, ⟨_, hMaking⟩ | ⟨hHand, _⟩⟩ := h
  · exact ⟨plan, hMaking⟩
  · rw [hPoint] at hHand
    exact hHand.elim

theorem Engaged.making (h : Engaged setting cs posts f inbox done f.state)
    (hState : f.state = .generate) (hPoint : f.point = .entering) (hPlan : f.plan = some plan) :
    Making setting cs f plan done plan.odometer.rest := by
  obtain ⟨plan', hMaking⟩ := h.exists_making hState hPoint
  obtain rfl := Option.some.inj (hPlan.symm.trans hMaking.planned)
  exact hMaking

theorem Engaged.point {s : State} (h : Engaged setting cs posts f inbox done s) :
    f.point = .entering ∨ f.point = .acquiring ∨ f.point.inHand := by
  cases s with
  | start => exact h.2.imp_right .inl
  | setUp => exact .inl h.2.2
  | settled => exact .inl h.2.2
  | generate =>
    obtain ⟨plan, ⟨hPoint, _⟩ | ⟨hHand, _⟩⟩ := h
    · exact .inl hPoint
    · exact .inr (.inr hHand)
  | done =>
    obtain ⟨plan, _, hPoint⟩ := h
    exact .inl hPoint

theorem Engaged.pursues {s : State} (h : Engaged setting cs posts f inbox done s) :
    f.point.Pursues done := by
  have hOther {point : Point} (hPoint : f.point = point)
      (hFree : point = .entering ∨ point = .acquiring) : f.point.Pursues done := by
    rw [hPoint]
    rcases hFree with rfl | rfl <;> trivial
  cases s with
  | start => exact hOther rfl h.2
  | setUp => exact hOther h.2.2 (.inl rfl)
  | settled => exact hOther h.2.2 (.inl rfl)
  | generate =>
    obtain ⟨plan, ⟨hPoint, _⟩ | ⟨_, hPursues, _⟩⟩ := h
    · exact hOther hPoint (.inl rfl)
    · exact hPursues
  | done =>
    obtain ⟨plan, _, hPoint⟩ := h
    exact hOther hPoint (.inl rfl)

theorem Making.engaged (h : Making setting cs f plan done plan.odometer.advance.rest)
    (hPlan : f'.plan = f.plan) (hAxes : f'.axes = f.axes) (hBase : f'.base = f.base)
    (hCache : f'.cache = f.cache) (hGenerated : f'.generated = f.generated)
    (hState : f'.state = .generate) (hHand : f'.point.inHand) (hPursues : f'.point.Pursues done) :
    Engaged setting cs posts f' inbox done f'.state := by
  rw [hState]
  exact ⟨plan, .inr ⟨hHand, hPursues, h.congr hPlan hAxes hBase hCache hGenerated⟩⟩

theorem Making.send (h : Making setting cs f plan done plan.odometer.advance.rest) :
    Prepared setting cs posts f.delivered inbox done .generate := by
  refine ⟨{ plan with odometer := plan.odometer.advance }, ?_, h.axes, h.base, h.packed,
    h.counted, h.cached, h.progress⟩
  rw [delivered, h.planned, Option.map_some]

theorem Collected.fix {packing : Packing} (h : Collected setting posts f inbox done)
    (hPosts : posts <+: postings cs)
    (hCached : f.cache ≠ none) (hPending : inbox.pending = []) (hClosed : inbox.closed = true)
    (hPacking : Packing.ofSpans (f.axes.map Characteristic.span) = .ok packing)
    (hCount : miscount f.log packing = none) :
    Making setting cs { f.rested with plan := some ⟨packing, .start packing.spans⟩ }
      ⟨packing, .start packing.spans⟩ done (Odometer.start packing.spans).rest := by
  obtain ⟨hAxes, hBase, hDone⟩ := h.all hPosts hPending hClosed
  refine ⟨rfl, hAxes, hBase, hAxes ▸ hPacking, h.log_eq ▸ hCount, hCached, [], ?_, rfl, ?_, ?_⟩
  · rw [Odometer.rest_start]
    rfl
  · rw [hDone]
    exact (List.append_nil _).symm
  · intro i hi
    have hOld : i ∈ f.generated := hi
    rw [h.unmade] at hOld
    cases hOld

theorem Prepared.enter {s : State} (h : Prepared setting cs posts f inbox done s) :
    Engaged setting cs posts (f.enter s) inbox done s := by
  cases s with
  | start => exact ⟨Collected.congr h rfl rfl rfl rfl, .inl rfl⟩
  | setUp => exact ⟨h.1.congr rfl rfl rfl rfl, h.2, rfl⟩
  | settled => exact ⟨h.1.congr rfl rfl rfl rfl, h.2, rfl⟩
  | generate =>
    obtain ⟨plan, hMaking⟩ := h
    exact ⟨plan, .inl ⟨rfl, hMaking.congr rfl rfl rfl rfl rfl⟩⟩
  | done =>
    obtain ⟨plan, hMaking⟩ := h
    exact ⟨plan, hMaking.congr rfl rfl rfl rfl rfl, rfl⟩

theorem Making.order (h : Making setting cs f plan done plan.odometer.rest)
    (hPoint : f.point = .entering) (hState : f.state = .generate)
    (hShown : plan.odometer.finished = false) {o : CompileOrder} (hOrder : orderOf f plan = .ok o) :
    o.index ∉ f.generated ∧
      Making setting cs (f.noting o) plan (done ++ f.deeds w) plan.odometer.advance.rest := by
  rcases h.next hShown hPoint hState with ⟨o', hOk, hNew, hNext⟩ | ⟨x, hFault, _⟩
  · rw [hOk] at hOrder
    cases hOrder
    exact ⟨hNew, hNext⟩
  · rw [hFault] at hOrder
    cases hOrder

theorem Making.trouble (h : Making setting cs f plan done plan.odometer.rest)
    (hPoint : f.point = .entering) (hState : f.state = .generate)
    (hShown : plan.odometer.finished = false) {trouble : Trouble ForgeError}
    (hOrder : orderOf f plan = .error trouble) :
    (∃ x, trouble = .fault x) ∧ course setting cs = ⟨done ++ f.deeds w, some .aborted⟩ := by
  rcases h.next hShown hPoint hState with ⟨o', hOk, _⟩ | ⟨x, hFault, hCourse⟩
  · rw [hOk] at hOrder
    cases hOrder
  · rw [hFault] at hOrder
    cases hOrder
    exact ⟨⟨x, rfl⟩, hCourse⟩

variable {compiler : Compiler κ} {hub : Nat} {endings : List (Report × Option ForgeError)}

theorem Engaged.isBusy {s : State} (h : Engaged setting cs posts f inbox done s) :
    f.point.isBusy = true := by
  rcases h.point with hPoint | hPoint | hHand
  · rw [hPoint]
    rfl
  · rw [hPoint]
    rfl
  · cases hPoint : f.point with
    | resting | reporting | signingOff =>
      rw [hPoint] at hHand
      exact hHand.elim
    | _ => rfl

theorem Turn.engaged_more (hTurn : Turn compiler hub w f w' f' .more)
    (hWork : Engaged setting cs posts f inbox done f.state) :
    Engaged setting cs posts f' inbox (done ++ f.deeds w) f'.state := by
  cases hTurn with
  | started hPoint hState =>
    obtain ⟨hCollected, _⟩ := hWork.collected hState rfl
    rw [deeds_of_state hState ⟨nofun, nofun⟩, List.append_nil,
      show (f.turnedTo .acquiring).state = .start from hState]
    exact ⟨hCollected.congr rfl rfl rfl rfl, .inr rfl⟩
  | hit plan o id registry p hPoint hState hPlan hShown hOrder hCache hLookup hNew =>
    have hNext := ((hWork.making hState hPoint hPlan).order (w := w) hPoint hState hShown hOrder).2
    exact hNext.engaged rfl rfl rfl rfl rfl hState trivial trivial
  | missed plan o id registry hPoint hState hPlan hShown hOrder hCache hLookup hNew =>
    have hNext := ((hWork.making hState hPoint hPlan).order (w := w) hPoint hState hShown hOrder).2
    have hLast : (done ++ f.deeds w).getLast? = some (.order o) := by
      simp [deeds_generate hPoint hState hPlan hShown, hOrder, hNew]
    exact hNext.engaged rfl rfl rfl rfl rfl hState trivial hLast
  | ordered o k ticket hPoint hAccept =>
    obtain ⟨hState, hLast, plan, hMaking⟩ := hWork.atHand hPoint trivial
    rw [deeds_of_point hPoint nofun, List.append_nil]
    exact hMaking.engaged rfl rfl rfl rfl rfl hState trivial hLast
  | built ticket o k registry p hPoint hAnswer =>
    obtain ⟨hState, hLast, plan, hMaking⟩ := hWork.atHand hPoint trivial
    rw [deeds_of_point hPoint nofun, List.append_nil]
    exact hMaking.engaged rfl rfl rfl rfl rfl hState trivial ⟨o, hLast, rfl⟩
  | stored _ _ _ _ hPoint | outrun _ _ _ _ _ hPoint | discarded _ _ hPoint =>
    obtain ⟨hState, _, plan, hMaking⟩ := hWork.atHand hPoint trivial
    rw [deeds_of_point hPoint nofun, List.append_nil]
    exact hMaking.engaged rfl rfl rfl rfl rfl hState trivial trivial

theorem Turn.prepared {next : State} (hTurn : Turn compiler hub w f w' f' (.step (.proceed next)))
    (hPosts : posts <+: postings cs) (hKnown : f.id < w.office.inboxes.length)
    (hWork : Engaged setting cs posts f (w.office.inbox f.id) done f.state) :
    f'.error = f.error ∧
      Prepared setting cs posts f' (w'.office.inbox f.id) (done ++ f.deeds w) next := by
  cases hTurn with
  | equipped hPoint hState hSetup =>
    obtain ⟨hCollected, hCached⟩ := hWork.collected hState rfl
    exact ⟨rfl, hCollected.equip hKnown hPoint hState hSetup, hCached nofun⟩
  | again hPoint hState hPending =>
    obtain ⟨hCollected, hCached⟩ := hWork.collected hState rfl
    rw [deeds_of_state hState ⟨nofun, nofun⟩, List.append_nil]
    exact ⟨rfl, hCollected.congr rfl rfl rfl rfl, hCached nofun⟩
  | planned packing hPoint hState hPending hClosed hPacking hCount =>
    obtain ⟨hCollected, hCached⟩ := hWork.collected hState rfl
    rw [deeds_of_state hState ⟨nofun, nofun⟩, List.append_nil]
    exact ⟨rfl, _, hCollected.fix hPosts (hCached nofun) hPending hClosed hPacking hCount⟩
  | unplanned hPoint hState hPlan =>
    obtain ⟨plan, hMaking⟩ := hWork.exists_making hState hPoint
    rw [hMaking.planned] at hPlan
    cases hPlan
  | exhausted plan hPoint hState hPlan hFinished =>
    have hMaking := hWork.making hState hPoint hPlan
    rw [deeds_finished hPlan hState hFinished, List.append_nil]
    rw [Odometer.rest_of_finished hFinished] at hMaking
    exact ⟨rfl, plan, hMaking.congr rfl rfl rfl rfl rfl⟩
  | acquired registry id hPoint hAcquire =>
    rw [deeds_of_point hPoint nofun, List.append_nil]
    exact ⟨rfl, (hWork.acquiring hPoint).congr rfl rfl rfl rfl, nofun⟩

/-- Without a duplicate, and with its cache and its pipelines, a factory fails only if a
characteristic cannot be set up or the axes do not fit into an index. -/
theorem Turn.course_of_abort (hTurn : Turn compiler hub w f w' f' (.step .abort))
    (hProspers : f.prospers compiler hub w = true) (hPosts : posts <+: postings cs)
    (hOpen : w.office.isOpen = true)
    (hWork : Engaged setting cs posts f (w.office.inbox f.id) done f.state) :
    course setting cs = ⟨done ++ f.deeds w, f'.failureOf .aborted⟩ := by
  cases hTurn with
  | doomed e hPoint hState hFailed =>
    rw [(hWork.collected rfl hState).1.took.failed] at hFailed
    cases hFailed
  | unequipped e hPoint hState hSetup =>
    exact (hWork.collected hState rfl).1.trouble hPosts hPoint hState hSetup
  | tooWide bits hPoint hState hPacking hPending hClosed =>
    obtain ⟨hAxes, hBase, hDone⟩ :=
      (hWork.collected hState rfl).1.all hPosts hPending hClosed
    rw [deeds_of_state hState ⟨nofun, nofun⟩, List.append_nil,
      course_of_width hBase (hAxes ▸ hPacking), hDone]
    rfl
  | unfilled e plan hPoint hState hPlan hOrder hShown =>
    have hMaking := hWork.making hState hPoint hPlan
    obtain ⟨⟨x, hFault⟩, _⟩ := hMaking.trouble (w := w) hPoint hState hShown hOrder
    cases hFault
  | evicted o hPoint hState hCache =>
    obtain ⟨plan, hMaking⟩ := hWork.exists_making hState hPoint
    exact absurd hCache hMaking.cached
  | unacquired e hPoint hAnswer | refused _ _ _ _ _ hPoint hAnswer =>
    simp only [prospers, hPoint, hAnswer] at hProspers
    cases hProspers
  | unstored key p hPoint hCache =>
    obtain ⟨hState, _, plan, hMaking⟩ := hWork.atHand hPoint trivial
    exact absurd hCache hMaking.cached
  | unsent p hPoint hShut =>
    rw [hOpen] at hShut
    cases hShut
  | idle hPoint => cases hWork.isBusy.symm.trans (Point.isBusy_eq_false hPoint)

theorem Turn.course_of_fault {text : String} (hTurn : Turn compiler hub w f w' f' (.fault text))
    (hProspers : f.prospers compiler hub w = true) (hPosts : posts <+: postings cs)
    (hWork : Engaged setting cs posts f (w.office.inbox f.id) done f.state) :
    course setting cs = ⟨done ++ f.deeds w, some .aborted⟩ := by
  cases hTurn with
  | broken x hPoint hState hSetup =>
    exact (hWork.collected hState rfl).1.trouble hPosts hPoint hState hSetup
  | tooMany x hPoint hState packing hPending hClosed hPacking hCount =>
    obtain ⟨hCollected, _⟩ := hWork.collected hState rfl
    obtain ⟨hAxes, hBase, hDone⟩ := hCollected.all hPosts hPending hClosed
    rw [deeds_of_state hState ⟨nofun, nofun⟩, List.append_nil,
      course_of_count hBase (hAxes ▸ hPacking) (hCollected.log_eq ▸ hCount), hDone]
  | misfilled _ hPoint hState plan hPlan hShown hCause =>
    have hMaking := hWork.making hState hPoint hPlan
    rcases hCause with ⟨x, hFault⟩ | ⟨o, hOrder, hOld⟩
    · exact (hMaking.trouble hPoint hState hShown hFault).2
    · exact absurd hOld (hMaking.order (w := w) hPoint hState hShown hOrder).1
  | crashed ticket o k registry _ hPoint hAnswer =>
    simp only [prospers, hPoint, hAnswer] at hProspers
    cases hProspers

/-- A turn of a factory that gets its cache and its pipelines goes on with the course, whatever
was posted to the factory so far. -/
theorem Turn.adheres {reply : Reply State} (hTurn : Turn compiler hub w f w' f' reply)
    (hProspers : f.prospers compiler hub w = true) (hPosts : posts <+: postings cs)
    (hKnown : f.id < w.office.inboxes.length) (hOpen : w.office.isOpen = true)
    (h : Adheres setting cs posts f (w.office.inbox f.id) done endings .working) :
    Adheres setting cs posts f' (w'.office.inbox f.id) (done ++ f.deeds w) endings reply.mode := by
  obtain ⟨hEndings, hError, hWork⟩ := h
  cases hTurn.effect hWork.isBusy with
  | goesOn hTurn hOffice hSame =>
    rw [hOffice]
    exact ⟨hEndings, hSame ▸ hError, hTurn.engaged_more hWork⟩
  | proceeds s hTurn =>
    obtain ⟨hSame, hPrepared⟩ := hTurn.prepared hPosts hKnown hWork
    exact ⟨hEndings, hSame.trans hError, hPrepared⟩
  | waits hPoint hState =>
    obtain ⟨hCollected, hCached⟩ := hWork.collected hState rfl
    rw [deeds_of_state hState ⟨nofun, nofun⟩, List.append_nil]
    exact ⟨hEndings, hError, hCollected.congr rfl rfl rfl rfl, hCached nofun⟩
  | sends p hPoint hOpen =>
    -- The odometer advances here only, so that the combination in hand is done with.
    obtain ⟨hState, _, plan, hMaking⟩ := hWork.atHand hPoint trivial
    rw [deeds_of_point hPoint nofun, List.append_nil]
    exact ⟨hEndings, hError, hMaking.send⟩
  | finishes hPoint hState =>
    rw [deeds_of_state hState ⟨nofun, nofun⟩, List.append_nil]
    rw [hState] at hWork
    obtain ⟨plan, hMaking, _⟩ := hWork
    refine ⟨hEndings, ?_⟩
    rw [hMaking.course_eq, failureOf, show f.rested.error = none from hError]
  | fails e hTurn =>
    exact ⟨hEndings, hTurn.course_of_abort hProspers hPosts hOpen hWork⟩
  | faults text hTurn hSame =>
    refine ⟨hEndings, ?_⟩
    rw [hTurn.course_of_fault hProspers hPosts hWork, failureOf, hSame, hError]
    rfl

/-- The same for everything that is not a turn, unless the factory is made to stop. -/
theorem Passage.adheres {mode mode' : Mode State}
    (hPassage : Passage compiler hub w f mode w' f' mode')
    (hOther : w' = w ∧ f' = f ∧ mode' = mode ∨ mode ≠ .working ∧
      ∀ s outcome, mode = .resting s → mode' ≠ .ended outcome)
    (h : Adheres setting cs posts f (w.office.inbox f.id) done endings mode) :
    Adheres setting cs posts f' (w'.office.inbox f.id) done
      (endings ++ endingsIn f.id (sentIn w w')) mode' := by
  have hSilent (hEvents : w'.office.events = w.office.events) :
      endings ++ endingsIn f.id (sentIn w w') = endings := by
    rw [sentIn_of_events hEvents]
    exact List.append_nil _
  rcases hOther with ⟨rfl, rfl, rfl⟩ | ⟨hIdle, hGoes⟩
  · rw [hSilent rfl]
    exact h
  cases hPassage with
  | still =>
    rw [hSilent rfl]
    exact h
  | entered s =>
    rw [hSilent rfl]
    exact ⟨h.1, h.2.1, h.2.2.enter⟩
  | stopped s => exact absurd rfl (hGoes s .aborted rfl)
  | turned hTurn => exact absurd rfl hIdle
  | told outcome =>
    rw [hSilent rfl]
    exact .inl ⟨f.failureOf outcome, rfl, h.1, h.2⟩
  | reported failure hPoint =>
    rw [Office.inbox_send]
    -- The end is sent once, with the failure that was decided when the task ended.
    rcases h with ⟨failure', hReporting, hEndings, hCourse⟩ | ⟨hReported, _⟩
    · rw [hPoint] at hReporting
      cases hReporting
      refine .inr ⟨nofun, by rw [hCourse], ?_⟩
      rw [hEndings, hCourse]
      cases hOpen : w.office.isOpen with
      | false =>
        rw [sentIn_closed hOpen rfl]
        exact nofun
      | true =>
        rw [sentIn_send hOpen rfl]
        intro e he
        simp only [endingsIn, List.nil_append, List.filterMap_cons, if_true, List.filterMap_nil,
          List.mem_singleton] at he
        rw [he]
    · exact absurd hPoint (hReported failure)
  | signedOff hPoint =>
    rw [hSilent (Office.events_release _ _), Office.inbox_release]
    rcases h with ⟨failure, hReporting, _⟩ | ⟨_, hDone, hFailures⟩
    · exact absurd hReporting (hPoint failure)
    · exact ⟨hDone, hFailures⟩

end Steps

section Posts

variable {setting : Setting} {cs : List Characteristic} {posts more : List Post} {f : Factory}
  {inbox : Inbox} {done : List Deed} {endings : List (Report × Option ForgeError)}
  {mode : Mode State}

theorem Collected.post (h : Collected setting posts f inbox done)
    (hNames : (cs.map Characteristic.name).Nodup) (hPosts : posts ++ more <+: postings cs) :
    Collected setting (posts ++ more) f (more.foldl Inbox.accept inbox) done :=
  ⟨h.given, h.base, h.done, h.unmade, h.took.acceptAll hNames hPosts⟩

theorem Prepared.post {s : State} (h : Prepared setting cs posts f inbox done s)
    (hNames : (cs.map Characteristic.name).Nodup) (hPosts : posts ++ more <+: postings cs) :
    Prepared setting cs (posts ++ more) f (more.foldl Inbox.accept inbox) done s := by
  cases s with
  | start => exact Collected.post h hNames hPosts
  | setUp => exact ⟨h.1.post hNames hPosts, h.2⟩
  | settled => exact ⟨h.1.post hNames hPosts, h.2⟩
  | generate => exact h
  | done => exact h

theorem Engaged.post {s : State} (h : Engaged setting cs posts f inbox done s)
    (hNames : (cs.map Characteristic.name).Nodup) (hPosts : posts ++ more <+: postings cs) :
    Engaged setting cs (posts ++ more) f (more.foldl Inbox.accept inbox) done s := by
  cases s with
  | start => exact ⟨h.1.post hNames hPosts, h.2⟩
  | setUp => exact ⟨h.1.post hNames hPosts, h.2⟩
  | settled => exact ⟨h.1.post hNames hPosts, h.2⟩
  | generate => exact h
  | done => exact h

/-- Posts that come at any time make no difference to the course. -/
theorem Adheres.post (h : Adheres setting cs posts f inbox done endings mode)
    (hNames : (cs.map Characteristic.name).Nodup) (hPosts : posts ++ more <+: postings cs) :
    Adheres setting cs (posts ++ more) f (more.foldl Inbox.accept inbox) done endings mode := by
  cases mode with
  | resting s => exact ⟨h.1, h.2.1, h.2.2.post hNames hPosts⟩
  | working => exact ⟨h.1, h.2.1, h.2.2.post hNames hPosts⟩
  | _ => exact h

theorem Collected.isPrefix (h : Collected setting posts f inbox done)
    (hPosts : posts <+: postings cs) : done <+: (course setting cs).deeds := by
  obtain ⟨later, hCourse, _⟩ := exists_aftermath setting cs
  rw [h.done, hCourse]
  have hAxes : f.axes <+: cs := (List.prefix_append _ _).trans (h.took.isPrefix hPosts)
  exact (setups_isPrefix setting.context hAxes).trans (List.prefix_append _ _)

theorem Making.isPrefix {plan : Plan} {rest : List (List Int32)}
    (h : Making setting cs f plan done rest) : done <+: (course setting cs).deeds := by
  obtain ⟨made, hTuples, hAll, hDone, _⟩ := h.progress
  rw [course_of_plan h.base h.packed h.counted, hTuples, combinations_append hAll, hDone,
    ← List.append_assoc]
  exact List.prefix_append _ _

theorem Prepared.progress {s : State} (h : Prepared setting cs posts f inbox done s) :
    Collected setting posts f inbox done ∨ ∃ plan rest, Making setting cs f plan done rest := by
  cases s with
  | start => exact .inl h
  | setUp => exact .inl h.1
  | settled => exact .inl h.1
  | generate =>
    obtain ⟨plan, hMaking⟩ := h
    exact .inr ⟨plan, _, hMaking⟩
  | done =>
    obtain ⟨plan, hMaking⟩ := h
    exact .inr ⟨plan, _, hMaking⟩

theorem Engaged.progress {s : State} (h : Engaged setting cs posts f inbox done s) :
    Collected setting posts f inbox done ∨ ∃ plan rest, Making setting cs f plan done rest := by
  cases s with
  | start => exact .inl h.1
  | setUp => exact .inl h.1
  | settled => exact .inl h.1
  | generate =>
    obtain ⟨plan, ⟨_, hMaking⟩ | ⟨_, hMaking⟩⟩ := h
    · exact .inr ⟨plan, _, hMaking⟩
    · exact .inr ⟨plan, _, hMaking.2⟩
  | done =>
    obtain ⟨plan, hMaking, _⟩ := h
    exact .inr ⟨plan, _, hMaking⟩

theorem Adheres.isPrefix (h : Adheres setting cs posts f inbox done endings mode)
    (hPosts : posts <+: postings cs) : done <+: (course setting cs).deeds := by
  have hSome (hProgress : Collected setting posts f inbox done ∨
      ∃ plan rest, Making setting cs f plan done rest) : done <+: (course setting cs).deeds := by
    rcases hProgress with hCollected | ⟨plan, rest, hMaking⟩
    · exact hCollected.isPrefix hPosts
    · exact hMaking.isPrefix
  have hAll (hDone : done = (course setting cs).deeds) : done <+: (course setting cs).deeds :=
    hDone ▸ List.prefix_rfl
  cases mode with
  | resting s => exact hSome h.2.2.progress
  | working => exact hSome h.2.2.progress
  | ended outcome => exact hAll (by rw [h.2])
  | leaving =>
    rcases h with ⟨failure, _, _, hCourse⟩ | ⟨_, hDone, _⟩
    · exact hAll (by rw [hCourse])
    · exact hAll hDone
  | left => exact hAll h.1
  | lost => exact hAll h.1

/-- A factory that has reported its end has run its whole course and has failed as it does. -/
theorem Adheres.ended (h : Adheres setting cs posts f inbox done endings mode)
    {e : Report × Option ForgeError} (he : e ∈ endings) :
    course setting cs = ⟨done, e.2⟩ := by
  have hNone (hEndings : endings = []) : course setting cs = ⟨done, e.2⟩ := by
    rw [hEndings] at he
    cases he
  have hSome (hDone : done = (course setting cs).deeds)
      (hFailures : ∀ e ∈ endings, e.2 = (course setting cs).failure) :
      course setting cs = ⟨done, e.2⟩ := by rw [hDone, hFailures e he]
  cases mode with
  | resting s => exact hNone h.1
  | working => exact hNone h.1
  | ended outcome => exact hNone h.1
  | leaving =>
    rcases h with ⟨_, _, hEndings, _⟩ | ⟨_, hDone, hFailures⟩
    · exact hNone hEndings
    · exact hSome hDone hFailures
  | left => exact hSome h.1 h.2
  | lost => exact hSome h.1 h.2

end Posts

end Factory

end PipelineForge
