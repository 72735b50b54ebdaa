import PipelineForge.Factory.Work

/-!
# Turns of factories

Every piece of a factory's work is one of the turns told here, with what it found and what it
leaves behind. A factory that is held makes no turn. What is written to the log is left out.
-/

namespace PipelineForge.Factory

open Axis
open Log (Line)
open Tasks (Reply)

variable {κ : Type}

def failing (f : Factory) (e : ForgeError) : Factory :=
  { f with error := some e, point := .resting }

def rested (f : Factory) : Factory := { f with point := .resting }

def turnedTo (f : Factory) (p : Point) : Factory := { f with point := p }

def noting (f : Factory) (o : CompileOrder) : Factory :=
  { f with generated := o.index :: f.generated }

def emptied (w : Floor κ) (f : Factory) : Floor κ :=
  { w with office := w.office.setInbox f.id (w.office.inbox f.id).takeAll.1 }

def settingUp (w : Floor κ) (f : Factory) :
    Blueprint × List Characteristic × Option (Trouble ForgeError) :=
  Characteristic.setupAll ⟨f.name, f.frame⟩ (w.office.inbox f.id).pending f.base

def equipped (w : Floor κ) (f : Factory) : Factory :=
  { f with base := (settingUp w f).1, axes := f.axes ++ (settingUp w f).2.1 }

def delivered (f : Factory) : Factory :=
  { f with
    report.pipelines := f.report.pipelines + 1
    plan := f.plan.map fun plan => { plan with odometer := plan.odometer.advance }
    point := .resting }

/-- Whether a state begins with a look at the inbox. -/
def State.listens : State → Bool
  | .start | .setUp | .settled => true
  | .generate | .done => false

inductive Turn (compiler : Compiler κ) (hub : Nat) (w : Floor κ) (f : Factory) :
    Floor κ → Factory → Reply State → Prop where
  | doomed (e : ForgeError) (hPoint : f.point = .entering) (hState : f.state.listens = true)
      (hFailed : (w.office.inbox f.id).failed = some e) :
      Turn compiler hub w f w (f.failing e) (.step .abort)
  | started (hPoint : f.point = .entering) (hState : f.state = .start) :
      Turn compiler hub w f w (f.turnedTo .acquiring) .more
  | equipped (hPoint : f.point = .entering) (hState : f.state = .setUp)
      (hSetup : (settingUp w f).2.2 = none) :
      Turn compiler hub w f (emptied w f) (equipped w f).rested (.step (.proceed .settled))
  | unequipped (e : ForgeError) (hPoint : f.point = .entering) (hState : f.state = .setUp)
      (hSetup : (settingUp w f).2.2 = some (.error e)) :
      Turn compiler hub w f (emptied w f) ((equipped w f).failing e) (.step .abort)
  | broken (x : Fault) (hPoint : f.point = .entering) (hState : f.state = .setUp)
      (hSetup : (settingUp w f).2.2 = some (.fault x)) :
      Turn compiler hub w f (emptied w f) (equipped w f) (.fault x.message)
  | again (hPoint : f.point = .entering) (hState : f.state = .settled)
      (hPending : (w.office.inbox f.id).pending ≠ []) :
      Turn compiler hub w f w f.rested (.step (.proceed .setUp))
  | waiting (hPoint : f.point = .entering) (hState : f.state = .settled)
      (hPending : (w.office.inbox f.id).pending = [])
      (hClosed : (w.office.inbox f.id).closed = false)
      (hFailed : (w.office.inbox f.id).failed = none) :
      Turn compiler hub w f w f.rested (.step (.wait .settled wakeup))
  | tooWide (bits : Nat) (hPoint : f.point = .entering) (hState : f.state = .settled)
      (hPacking : Packing.ofSpans (f.axes.map Characteristic.span) = .error bits)
      (hPending : (w.office.inbox f.id).pending = [])
      (hClosed : (w.office.inbox f.id).closed = true) :
      Turn compiler hub w f w (f.failing (.indexTooWide bits)) (.step .abort)
  | tooMany (x : Fault) (hPoint : f.point = .entering) (hState : f.state = .settled)
      (packing : Packing) (hPending : (w.office.inbox f.id).pending = [])
      (hClosed : (w.office.inbox f.id).closed = true)
      (hPacking : Packing.ofSpans (f.axes.map Characteristic.span) = .ok packing)
      (hCount : miscount f.log packing = some x) :
      Turn compiler hub w f w f (.fault x.message)
  | planned (packing : Packing) (hPoint : f.point = .entering) (hState : f.state = .settled)
      (hPending : (w.office.inbox f.id).pending = [])
      (hClosed : (w.office.inbox f.id).closed = true)
      (hPacking : Packing.ofSpans (f.axes.map Characteristic.span) = .ok packing)
      (hCount : miscount f.log packing = none) :
      Turn compiler hub w f w { f.rested with plan := some ⟨packing, .start packing.spans⟩ }
        (.step (.proceed .generate))
  | unplanned (hPoint : f.point = .entering) (hState : f.state = .generate)
      (hPlan : f.plan = none) : Turn compiler hub w f w f.rested (.step (.proceed .done))
  | exhausted (plan : Plan) (hPoint : f.point = .entering) (hState : f.state = .generate)
      (hPlan : f.plan = some plan) (hFinished : plan.odometer.finished = true) :
      Turn compiler hub w f w f.rested (.step (.proceed .done))
  | unfilled (e : ForgeError) (plan : Plan) (hPoint : f.point = .entering)
      (hState : f.state = .generate) (hPlan : f.plan = some plan)
      (hOrder : orderOf f plan = .error (.error e)) (hShown : plan.odometer.finished = false) :
      Turn compiler hub w f w (f.failing e) (.step .abort)
  | misfilled (text : String) (hPoint : f.point = .entering) (hState : f.state = .generate)
      (plan : Plan) (hPlan : f.plan = some plan) (hShown : plan.odometer.finished = false)
      (hCause : (∃ x, orderOf f plan = .error (.fault x)) ∨
        ∃ o, orderOf f plan = .ok o ∧ o.index ∈ f.generated) :
      Turn compiler hub w f w f (.fault text)
  | evicted (o : CompileOrder) (hPoint : f.point = .entering) (hState : f.state = .generate)
      (hCache : f.cache = none) :
      Turn compiler hub w f w
        ((f.noting o).failing (.cacheUnavailable f.cacheName "the pipeline cache was released"))
        (.step .abort)
  | hit (plan : Plan) (o : CompileOrder) (id : CacheId) (registry : Registry) (p : Pipeline)
      (hPoint : f.point = .entering) (hState : f.state = .generate) (hPlan : f.plan = some plan)
      (hShown : plan.odometer.finished = false) (hOrder : orderOf f plan = .ok o)
      (hCache : f.cache = some id) (hLookup : w.registry.lookup id o.key = (registry, some p))
      (hNew : o.index ∉ f.generated) :
      Turn compiler hub w f { w with registry }
        { f.noting o with report.hits := f.report.hits + 1, point := .handingOff p } .more
  | missed (plan : Plan) (o : CompileOrder) (id : CacheId) (registry : Registry)
      (hPoint : f.point = .entering) (hState : f.state = .generate) (hPlan : f.plan = some plan)
      (hShown : plan.odometer.finished = false) (hOrder : orderOf f plan = .ok o)
      (hCache : f.cache = some id) (hLookup : w.registry.lookup id o.key = (registry, none))
      (hNew : o.index ∉ f.generated) :
      Turn compiler hub w f { w with registry }
        { f.noting o with report.misses := f.report.misses + 1, point := .ordering o } .more
  | finished (hPoint : f.point = .entering) (hState : f.state = .done) :
      Turn compiler hub w f w f.rested (.step .finish)
  | unacquired (e : ForgeError) (hPoint : f.point = .acquiring)
      (hAcquire : w.registry.acquire f.cacheName = .error e) :
      Turn compiler hub w f w (f.failing e) (.step .abort)
  | acquired (registry : Registry) (id : CacheId) (hPoint : f.point = .acquiring)
      (hAcquire : w.registry.acquire f.cacheName = .ok (registry, id)) :
      Turn compiler hub w f { w with registry } { f.rested with cache := some id }
        (.step (.proceed .setUp))
  | ordered (o : CompileOrder) (k : κ) (ticket : Nat) (hPoint : f.point = .ordering o)
      (hAccept : compiler.accept w.compiler hub o = (k, ticket)) :
      Turn compiler hub w f { w with compiler := k } (f.turnedTo (.compiling ticket o)) .more
  | built (ticket : Nat) (o : CompileOrder) (k : κ) (registry : Registry) (p : Pipeline)
      (hPoint : f.point = .compiling ticket o)
      (hAnswer : compiler.answer w.compiler w.registry hub ticket o = (k, registry, .made p)) :
      Turn compiler hub w f { w with compiler := k, registry } (f.turnedTo (.storing o.key p)) .more
  | refused (ticket : Nat) (o : CompileOrder) (k : κ) (registry : Registry) (causes : List String)
      (hPoint : f.point = .compiling ticket o)
      (hAnswer : compiler.answer w.compiler w.registry hub ticket o =
        (k, registry, .refused causes)) :
      Turn compiler hub w f { w with compiler := k, registry }
        (f.failing (.creationFailed o.index (": ".intercalate causes))) (.step .abort)
  | crashed (ticket : Nat) (o : CompileOrder) (k : κ) (registry : Registry) (text : String)
      (hPoint : f.point = .compiling ticket o)
      (hAnswer : compiler.answer w.compiler w.registry hub ticket o = (k, registry, .fault text)) :
      Turn compiler hub w f { w with compiler := k, registry } f (.fault text)
  | unstored (key : CacheKey) (p : Pipeline) (hPoint : f.point = .storing key p)
      (hCache : f.cache = none) :
      Turn compiler hub w f w
        (f.failing (.cacheUnavailable f.cacheName "the pipeline cache was released")) (.step .abort)
  | stored (key : CacheKey) (p : Pipeline) (id : CacheId) (registry : Registry)
      (hPoint : f.point = .storing key p) (hCache : f.cache = some id)
      (hStore : w.registry.store id key p = (registry, .inserted)) :
      Turn compiler hub w f { w with registry } (f.turnedTo (.handingOff p)) .more
  | outrun (key : CacheKey) (p kept : Pipeline) (id : CacheId) (registry : Registry)
      (hPoint : f.point = .storing key p) (hCache : f.cache = some id)
      (hStore : w.registry.store id key p = (registry, .existing kept)) :
      Turn compiler hub w f { w with registry } (f.turnedTo (.discarding p kept)) .more
  | discarded (own kept : Pipeline) (hPoint : f.point = .discarding own kept) :
      Turn compiler hub w f { w with compiler := compiler.destroy w.compiler hub own }
        (f.turnedTo (.handingOff kept)) .more
  | sent (p : Pipeline) (hPoint : f.point = .handingOff p) (hOpen : w.office.isOpen = true) :
      Turn compiler hub w f { w with office := w.office.send (.made f.id f.slot p) } f.delivered
        (.step (.yield .generate))
  | unsent (p : Pipeline) (hPoint : f.point = .handingOff p) (hOpen : w.office.isOpen = false) :
      Turn compiler hub w f w (f.failing .aborted) (.step .abort)
  | idle (hPoint : f.point = .resting ∨ (∃ failure, f.point = .reporting failure) ∨
        f.point = .signingOff) :
      Turn compiler hub w f w f (.step .abort)

variable {compiler : Compiler κ} {hub : Nat} {w w' : Floor κ} {f f' : Factory}
  {lines : List Line} {reply : Reply State}

theorem unlessFailed_cases {next : Inbox → Piece κ} (hPoint : f.point = .entering)
    (hState : f.state.listens = true) (h : unlessFailed w f next = (w', f', lines, reply)) :
    Turn compiler hub w f w' f' reply ∨
      (w.office.inbox f.id).failed = none ∧
        next (w.office.inbox f.id) = (w', f', lines, reply) := by
  simp only [unlessFailed] at h
  split at h
  · next e hFailed =>
    cases h
    exact .inl (.doomed e hPoint hState hFailed)
  · next hFailed => exact .inr ⟨hFailed, h⟩

theorem setUp_cases (hPoint : f.point = .entering) (hState : f.state = .setUp)
    (h : setUp w f (w.office.inbox f.id) = (w', f', lines, reply)) :
    Turn compiler hub w f w' f' reply := by
  simp only [setUp] at h
  split at h
  · next hSetup =>
    cases h
    exact .equipped hPoint hState hSetup
  · next e hSetup =>
    cases h
    exact .unequipped e hPoint hState hSetup
  · next x hSetup =>
    cases h
    exact .broken x hPoint hState hSetup

theorem settle_cases (hPoint : f.point = .entering) (hState : f.state = .settled)
    (hFailed : (w.office.inbox f.id).failed = none)
    (h : settle w f (w.office.inbox f.id) = (w', f', lines, reply)) :
    Turn compiler hub w f w' f' reply := by
  simp only [settle, Bool.not_eq_true, List.isEmpty_eq_false_iff] at h
  split at h
  · next hPending =>
    cases h
    exact .again hPoint hState hPending
  next hPending =>
  have hEmpty : (w.office.inbox f.id).pending = [] := Classical.not_not.mp hPending
  split at h
  · next hClosed =>
    cases h
    exact .waiting hPoint hState hEmpty hClosed hFailed
  next hClosed =>
  have hClosed : (w.office.inbox f.id).closed = true := by simpa using hClosed
  split at h
  · next bits hPacking =>
    cases h
    exact .tooWide bits hPoint hState hPacking hEmpty hClosed
  next packing hPacking =>
  split at h
  · next x hCount =>
    cases h
    exact .tooMany x hPoint hState packing hEmpty hClosed hPacking hCount
  · next hCount =>
    cases h
    exact .planned packing hPoint hState hEmpty hClosed hPacking hCount

theorem generate_cases (hPoint : f.point = .entering) (hState : f.state = .generate)
    (h : generate w f = (w', f', lines, reply)) : Turn compiler hub w f w' f' reply := by
  simp only [generate] at h
  split at h
  · next hPlan =>
    cases h
    exact .unplanned hPoint hState hPlan
  next plan hPlan =>
  split at h
  · next hFinished =>
    cases h
    exact .exhausted plan hPoint hState hPlan hFinished
  next hShown =>
  have hShown : plan.odometer.finished = false := by simpa using hShown
  split at h
  · next e hOrder =>
    cases h
    exact .unfilled e plan hPoint hState hPlan hOrder hShown
  · next x hOrder =>
    cases h
    exact .misfilled _ hPoint hState plan hPlan hShown (.inl ⟨x, hOrder⟩)
  next o hOrder =>
  split at h
  · next hOld =>
    cases h
    exact .misfilled _ hPoint hState plan hPlan hShown (.inr ⟨o, hOrder, hOld⟩)
  next hNew =>
  simp only [lookup] at h
  split at h
  · next hCache =>
    cases h
    exact .evicted o hPoint hState hCache
  next id hCache =>
  split at h
  · next registry p hLookup =>
    cases h
    exact .hit plan o id registry p hPoint hState hPlan hShown hOrder hCache hLookup hNew
  · next registry hLookup =>
    cases h
    exact .missed plan o id registry hPoint hState hPlan hShown hOrder hCache hLookup hNew

theorem begin_cases (hPoint : f.point = .entering) (h : begin w f = (w', f', lines, reply)) :
    Turn compiler hub w f w' f' reply := by
  rw [begin] at h
  split at h
  · next hState =>
    rcases unlessFailed_cases hPoint (by rw [hState]; rfl) h with hTurn | ⟨hFailed, h⟩
    · exact hTurn
    · cases h
      exact .started hPoint hState
  · next hState =>
    rcases unlessFailed_cases hPoint (by rw [hState]; rfl) h with hTurn | ⟨hFailed, h⟩
    · exact hTurn
    · exact setUp_cases hPoint hState h
  · next hState =>
    rcases unlessFailed_cases hPoint (by rw [hState]; rfl) h with hTurn | ⟨hFailed, h⟩
    · exact hTurn
    · exact settle_cases hPoint hState hFailed h
  · next hState => exact generate_cases hPoint hState h
  · next hState =>
    cases h
    exact .finished hPoint hState

theorem collect_cases {ticket : Nat} {o : CompileOrder} (hPoint : f.point = .compiling ticket o)
    (h : collect compiler hub w f ticket o = (w', f', lines, reply)) (hHeld : reply ≠ .held) :
    Turn compiler hub w f w' f' reply := by
  cases hAnswer : compiler.answer w.compiler w.registry hub ticket o with
  | mk k rest =>
    obtain ⟨registry, verdict⟩ := rest
    simp only [collect, hAnswer] at h
    split at h
    · cases h
      exact absurd rfl hHeld
    cases verdict with
    | made p =>
      cases h
      exact .built ticket o k registry p hPoint hAnswer
    | refused causes =>
      cases h
      exact .refused ticket o k registry causes hPoint hAnswer
    | fault text =>
      cases h
      exact .crashed ticket o k registry text hPoint hAnswer

theorem store_cases {key : CacheKey} {p : Pipeline} (hPoint : f.point = .storing key p)
    (h : store w f key p = (w', f', lines, reply)) : Turn compiler hub w f w' f' reply := by
  simp only [store] at h
  split at h
  · next hCache =>
    cases h
    exact .unstored key p hPoint hCache
  next id hCache =>
  split at h
  · next registry hStore =>
    cases h
    exact .stored key p id registry hPoint hCache hStore
  · next registry kept hStore =>
    cases h
    exact .outrun key p kept id registry hPoint hCache hStore

/-- Every piece of work that is not held is a turn. -/
theorem work_cases (h : work compiler hub w f = (w', f', lines, reply)) (hHeld : reply ≠ .held) :
    Turn compiler hub w f w' f' reply := by
  cases hPoint : f.point with
  | entering =>
    simp only [work, hPoint] at h
    exact begin_cases hPoint h
  | acquiring =>
    simp only [work, hPoint, acquire] at h
    split at h
    · next e hAcquire =>
      cases h
      exact .unacquired e hPoint hAcquire
    · next registry id hAcquire =>
      cases h
      exact .acquired registry id hPoint hAcquire
  | ordering o =>
    simp only [work, hPoint] at h
    cases h
    exact .ordered o _ _ hPoint rfl
  | compiling ticket o =>
    simp only [work, hPoint] at h
    exact collect_cases hPoint h hHeld
  | storing key p =>
    simp only [work, hPoint] at h
    exact store_cases hPoint h
  | discarding own kept =>
    simp only [work, hPoint] at h
    cases h
    exact .discarded own kept hPoint
  | handingOff p =>
    simp only [work, hPoint, handOff] at h
    split at h
    · next hOpen =>
      cases h
      exact .sent p hPoint hOpen
    · next hOpen =>
      cases h
      exact .unsent p hPoint (by simpa using hOpen)
  | resting =>
    simp only [work, hPoint] at h
    cases h
    exact .idle (.inl hPoint)
  | reporting failure =>
    simp only [work, hPoint] at h
    cases h
    exact .idle (.inr (.inl ⟨failure, hPoint⟩))
  | signingOff =>
    simp only [work, hPoint] at h
    cases h
    exact .idle (.inr (.inr hPoint))

/-- Whether there is work left for the state of a factory. -/
def Point.isBusy : Point → Bool
  | resting | reporting _ | signingOff => false
  | _ => true

theorem Point.isBusy_eq_false {point : Point}
    (h : point = .resting ∨ (∃ failure, point = .reporting failure) ∨ point = .signingOff) :
    point.isBusy = false := by
  rcases h with rfl | ⟨failure, rfl⟩ | rfl <;> rfl

/-- What a turn is to its factory: it goes on in its state, names the next one, waits, sends its
pipeline, is done, fails or is at fault. -/
inductive Turn.Effect (compiler : Compiler κ) (hub : Nat) (w : Floor κ) (f : Factory) :
    Floor κ → Factory → Reply State → Prop where
  | goesOn {w' : Floor κ} {f' : Factory} (hTurn : Turn compiler hub w f w' f' .more)
      (hOffice : w'.office = w.office)
      (hSame : { f with generated := f'.generated, report := f'.report, point := f'.point } = f')
      (hReport : { f.report with hits := f'.report.hits, misses := f'.report.misses } = f'.report) :
      Effect compiler hub w f w' f' .more
  | proceeds {w' : Floor κ} {f' : Factory} (s : State)
      (hTurn : Turn compiler hub w f w' f' (.step (.proceed s))) :
      Effect compiler hub w f w' f' (.step (.proceed s))
  | waits (hPoint : f.point = .entering) (hState : f.state = .settled) :
      Effect compiler hub w f w f.rested (.step (.wait .settled wakeup))
  | sends (p : Pipeline) (hPoint : f.point = .handingOff p) (hOpen : w.office.isOpen = true) :
      Effect compiler hub w f { w with office := w.office.send (.made f.id f.slot p) } f.delivered
        (.step (.yield .generate))
  | finishes (hPoint : f.point = .entering) (hState : f.state = .done) :
      Effect compiler hub w f w f.rested (.step .finish)
  | fails {w' : Floor κ} {f' : Factory} (e : ForgeError)
      (hTurn : Turn compiler hub w f w' f' (.step .abort)) (hError : f'.error = some e)
      (hReport : f'.report = f.report) : Effect compiler hub w f w' f' (.step .abort)
  | faults {w' : Floor κ} {f' : Factory} (text : String)
      (hTurn : Turn compiler hub w f w' f' (.fault text)) (hError : f'.error = f.error)
      (hReport : f'.report = f.report) : Effect compiler hub w f w' f' (.fault text)

/-- Only a factory without work has a turn that is nothing to it. -/
theorem Turn.effect (h : Turn compiler hub w f w' f' reply) (hBusy : f.point.isBusy = true) :
    Effect compiler hub w f w' f' reply := by
  have hTurn := h
  cases h with
  | started | hit | missed | ordered | built | stored | outrun | discarded =>
    exact .goesOn hTurn rfl rfl rfl
  | equipped | again | planned | unplanned | exhausted | acquired => exact .proceeds _ hTurn
  | waiting hPoint hState => exact .waits hPoint hState
  | sent p hPoint hOpen => exact .sends p hPoint hOpen
  | finished hPoint hState => exact .finishes hPoint hState
  | doomed e | unequipped e | tooWide _ | unfilled e | unacquired e => exact .fails _ hTurn rfl rfl
  | evicted | refused | unstored | unsent => exact .fails _ hTurn rfl rfl
  | broken | tooMany | misfilled | crashed => exact .faults _ hTurn rfl rfl
  | idle hPoint => cases hBusy.symm.trans (Point.isBusy_eq_false hPoint)

end PipelineForge.Factory
