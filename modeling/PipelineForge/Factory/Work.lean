import PipelineForge.Factory.Basic
import PipelineForge.Tasks.Pool

/-!
# The work of factories

Handling a state is cut into pieces that each touch one thing that others can touch too: the
inbox, the registry, one cache, the compiler, or the events. Generating looks a combination up,
compiles it on a miss, stores it, and destroys its own pipeline if another producer was faster;
what is sent is always the pipeline that the cache holds. An error ends the task; the end sends
the report first and books the task out last.
-/

namespace PipelineForge.Factory

open Axis
open Log (Line)
open Tasks (Reply Parting Outcome)

variable {κ : Type}

/-- The bit that wakes a factory. -/
def wakeup : UInt32 := 1

abbrev Piece (κ : Type) := Floor κ × Factory × List Line × Reply State

def fail (w : Floor κ) (f : Factory) (e : ForgeError) : Piece κ :=
  (w, { f with error := some e, point := .resting },
    [⟨.error, s!"factory `{f.name}` failed in state {f.state.text}: {e.message}"⟩], .step .abort)

def goTo (w : Floor κ) (f : Factory) (s : State) : Piece κ :=
  (w, { f with point := .resting }, [], .step (.proceed s))

def pause (w : Floor κ) (f : Factory) (p : Point) : Piece κ := (w, { f with point := p }, [], .more)

/-- A piece that first looks whether the inbox holds a failure. -/
def unlessFailed (w : Floor κ) (f : Factory) (next : Inbox → Piece κ) : Piece κ :=
  let inbox := w.office.inbox f.id
  match inbox.failed with
  | some e => fail w f e
  | none => next inbox

def acquire (w : Floor κ) (f : Factory) : Piece κ :=
  match w.registry.acquire f.cacheName with
  | .error e => fail w f e
  | .ok (registry, id) => goTo { w with registry } { f with cache := some id } .setUp

def setUp (w : Floor κ) (f : Factory) (inbox : Inbox) : Piece κ :=
  let (inbox, pending) := inbox.takeAll
  let w := { w with office := w.office.setInbox f.id inbox }
  match Characteristic.setupAll ⟨f.name, f.frame⟩ pending f.base with
  | (base, done, trouble) =>
    let f := { f with base, axes := f.axes ++ done }
    match trouble with
    | none => goTo w f .settled
    | some (.error e) => fail w f e
    | some (.fault x) => (w, f, [], .fault x.message)

/-- What goes wrong when a factory tells the log how many combinations it has. They are counted only
if the log takes such a line, and their number may lie beyond the 64-bit numbers. -/
def miscount (log : Log.Threshold) (packing : Packing) : Option Fault :=
  if log.passes .debug then
    match combinationCount packing.spans with
    | .error fault => some fault
    | .ok _ => none
  else none

/-- Goes back to new characteristics, waits while the registration is open, or fixes the axes. -/
def settle (w : Floor κ) (f : Factory) (inbox : Inbox) : Piece κ :=
  if ¬ inbox.pending.isEmpty then goTo w f .setUp
  else if ¬ inbox.closed then (w, { f with point := .resting }, [], .step (.wait .settled wakeup))
  else
    match Packing.ofSpans (f.axes.map Characteristic.span) with
    | .error bits => fail w f (.indexTooWide bits)
    | .ok packing =>
      match miscount f.log packing with
      | some fault => (w, f, [], .fault fault.message)
      | none => goTo w { f with plan := some ⟨packing, .start packing.spans⟩ } .generate

/-- Appends one value per axis to an index and fills it into a blueprint. -/
def fillAll : List Characteristic → List Int32 → CompositeIndex → Blueprint →
    Except (Trouble ForgeError) (CompositeIndex × Blueprint)
  | c :: cs, v :: vs, i, b =>
    match i.extend c.span v with
    | .error violation => .error (.error (.violation c.name violation))
    | .ok i' =>
      if c.singleton then fillAll cs vs i' b
      else
        match c.fill v b with
        | (b', none) => fillAll cs vs i' b'
        | (_, some fault) => .error (.fault fault)
  | _, _, i, b => .ok (i, b)

def orderOf (f : Factory) (plan : Plan) : Except (Trouble ForgeError) CompileOrder :=
  (fillAll f.axes plan.odometer.current .zero f.base).map fun (index, blueprint) =>
    ⟨blueprint, index⟩

def lookup (w : Floor κ) (f : Factory) (o : CompileOrder) : Piece κ :=
  match f.cache with
  | none => fail w f (.cacheUnavailable f.cacheName "the pipeline cache was released")
  | some id =>
    match w.registry.lookup id o.key with
    | (registry, some p) =>
      pause { w with registry } { f with report.hits := f.report.hits + 1 } (.handingOff p)
    | (registry, none) =>
      pause { w with registry } { f with report.misses := f.report.misses + 1 } (.ordering o)

/-- Begins with the combination that the odometer shows, unless all are made. -/
def generate (w : Floor κ) (f : Factory) : Piece κ :=
  match f.plan with
  | none => goTo w f .done
  | some plan =>
    if plan.odometer.finished then goTo w f .done
    else
      match orderOf f plan with
      | .error (.error e) => fail w f e
      | .error (.fault x) => (w, f, [], .fault x.message)
      | .ok o =>
        if o.index ∈ f.generated then
          (w, f, [], .fault (Fault.generatedTwice f.name o.index).message)
        else lookup w { f with generated := o.index :: f.generated } o

def finishLine (f : Factory) : Line :=
  ⟨.info, s!"factory `{f.name}` generated {f.report.pipelines} pipelines " ++
    s!"({f.report.hits} cache hits, {f.report.misses} misses)"⟩

def begin (w : Floor κ) (f : Factory) : Piece κ :=
  match f.state with
  | .start => unlessFailed w f fun _ => pause w f .acquiring
  | .setUp => unlessFailed w f (setUp w f)
  | .settled => unlessFailed w f (settle w f)
  | .generate => generate w f
  | .done => (w, { f with point := .resting }, [finishLine f], .step .finish)

def collect (compiler : Compiler κ) (hub : Nat) (w : Floor κ) (f : Factory) (ticket : Nat)
    (o : CompileOrder) : Piece κ :=
  if compiler.holds w.compiler hub ticket then (w, f, [], .held)
  else
    match compiler.answer w.compiler w.registry hub ticket o with
    | (k, registry, verdict) =>
      let w := { w with compiler := k, registry }
      match verdict with
      | .made p => pause w f (.storing o.key p)
      | .refused causes => fail w f (.creationFailed o.index (": ".intercalate causes))
      | .fault text => (w, f, [], .fault text)

def duplicateLine (f : Factory) (index : CompositeIndex) (cache : String) : Line :=
  ⟨.warn, s!"factory `{f.name}`: pipeline {index.text} was stored concurrently in `{cache}`, " ++
    "drop the duplicate"⟩

def store (w : Floor κ) (f : Factory) (key : CacheKey) (p : Pipeline) : Piece κ :=
  match f.cache with
  | none => fail w f (.cacheUnavailable f.cacheName "the pipeline cache was released")
  | some id =>
    match w.registry.store id key p with
    | (registry, .inserted) => pause { w with registry } f (.handingOff p)
    | (registry, .existing kept) =>
      let cache := ((registry.cache? id).map Cache.name).getD f.cacheName
      ({ w with registry }, { f with point := .discarding p kept },
        [duplicateLine f key.index cache], .more)

/-- Sends a pipeline and turns the odometer. -/
def handOff (w : Floor κ) (f : Factory) (p : Pipeline) : Piece κ :=
  if w.office.isOpen then
    ({ w with office := w.office.send (.made f.id f.slot p) },
      { f with
        report.pipelines := f.report.pipelines + 1
        plan := f.plan.map fun plan => { plan with odometer := plan.odometer.advance }
        point := .resting }, [], .step (.yield .generate))
  else fail w f .aborted

def work (compiler : Compiler κ) (hub : Nat) (w : Floor κ) (f : Factory) : Piece κ :=
  match f.point with
  | .entering => begin w f
  | .acquiring => acquire w f
  | .ordering o =>
    let (k, ticket) := compiler.accept w.compiler hub o
    pause { w with compiler := k } f (.compiling ticket o)
  | .compiling ticket o => collect compiler hub w f ticket o
  | .storing key p => store w f key p
  | .discarding own kept =>
    pause { w with compiler := compiler.destroy w.compiler hub own } f (.handingOff kept)
  | .handingOff p => handOff w f p
  | .resting | .reporting _ | .signingOff => (w, f, [], .step .abort)

def enter (s : State) (f : Factory) : Factory :=
  { f with state := s, point := .entering, report := f.report.visit s }

def failureOf (f : Factory) : Outcome → Option ForgeError
  | .finished => f.error
  | .aborted => f.error.or (some .aborted)

def leave (outcome : Outcome) (f : Factory) : Factory :=
  { f with point := .reporting (f.failureOf outcome), error := none, axes := [], plan := none }

def part (w : Floor κ) (f : Factory) : Floor κ × Factory × List Line × Parting :=
  match f.point with
  | .reporting failure =>
    ({ w with office := w.office.send (.ended f.id f.report failure f.cache) },
      { f with report := {}, cache := none, point := .signingOff }, [], .more)
  | _ =>
    ({ w with office := w.office.release f.ticket }, { f with ticket := none, point := .resting },
      [], .gone)

def behaviour (compiler : Compiler κ) (hub : Nat) : Tasks.Behaviour (Floor κ) Factory State where
  name := Factory.name
  stateText := State.label
  enter := enter
  work := work compiler hub
  leave := leave
  part := part

end PipelineForge.Factory
