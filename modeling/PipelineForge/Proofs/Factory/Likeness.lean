import PipelineForge.Proofs.Cache.Views
import PipelineForge.Proofs.Compiler.Families
import PipelineForge.Proofs.Factory.Passages
import PipelineForge.Proofs.Tasks.Blurring

/-!
# Factories that cannot be told apart

Factories that differ only in the number of their cache do the same in worlds that look the same to
them: with the same hub, the same compiler, and the same caches under the names that they use. What
a factory of another hub does there cannot be seen, if it uses other names and another compiler.
-/

namespace PipelineForge.Factory

open Log (Line)
open Tasks (Alike Mode Outcome Parting Reply)
open Registry (Mirrors Touched)

def masked (cache : Option CacheId) : Option CacheId := cache.map fun _ => 0

def erase (f : Factory) : Factory := { f with cache := masked f.cache }

def Event.erase : Event → Event
  | .made f s p => .made f s p
  | .ended f report failure cache => .ended f report failure (masked cache)

namespace Office

def erase (o : Office) : Office := { o with events := o.events.map Event.erase }

theorem erase_send (o : Office) (e : Event) : (o.send e).erase = o.erase.send e.erase := by
  have hOpen : o.erase.isOpen = o.isOpen := rfl
  rw [send, send, hOpen]
  split
  · simp [erase]
  · rfl

theorem erase_release (o : Office) (t : Option Tasks.Ticket) :
    (o.release t).erase = o.erase.release t := by cases t <;> rfl

end Office

/-- The cache of the factory is the one that has its name. -/
def Holds (f : Factory) (r : Registry) : Prop :=
  ∀ id, f.cache = some id → r.get? f.cacheName = some id

theorem Holds.keep {f : Factory} {r r' : Registry} {name : String} (h : f.Holds r)
    (hTouched : Touched name r r') : f.Holds r' :=
  fun id hCache => hTouched.keeps f.cacheName id (h id hCache)

section Passages

variable {κ : Type} {compiler : Compiler κ} {hub : Nat} {w w' : Floor κ} {f f' : Factory}
  {mode mode' : Mode State} {reply : Reply State}

/-- A turn touches the registry for the cache of the factory only. -/
theorem Turn.touches (h : Turn compiler hub w f w' f' reply) (hLeaves : compiler.LeavesCaches)
    (hNamed : w.registry.Named) (hHolds : f.Holds w.registry) : f'.cacheName = f.cacheName ∧
      Touched f.cacheName w.registry w'.registry ∧ f'.Holds w'.registry := by
  have hLooked {id : CacheId} (key : CacheKey) (hCache : f.cache = some id) :
      Touched f.cacheName w.registry (w.registry.lookup id key).1 :=
    Registry.touched_onCache hNamed (hHolds id hCache) none _
  have hStored {id : CacheId} (key : CacheKey) (p : Pipeline) (hCache : f.cache = some id) :
      Touched f.cacheName w.registry (w.registry.store id key p).1 :=
    Registry.touched_onCache hNamed (hHolds id hCache) Stored.inserted _
  cases h with
  | hit _ o _ registry _ _ _ _ _ _ hCache hLookup
  | missed _ o _ registry _ _ _ _ _ hCache hLookup =>
    obtain rfl : _ = registry := congrArg Prod.fst hLookup
    exact ⟨rfl, hLooked o.key hCache, hHolds.keep (hLooked o.key hCache)⟩
  | acquired registry id hPoint hAcquire =>
    obtain ⟨hTouched, hGet, _⟩ := Registry.acquire_view hNamed hAcquire
    refine ⟨rfl, hTouched, ?_⟩
    rintro k ⟨⟩
    exact hGet
  | built _ _ _ _ _ _ hAnswer | refused _ _ _ _ _ _ hAnswer | crashed _ _ _ _ _ _ hAnswer =>
    obtain rfl := hLeaves.eq hAnswer
    exact ⟨rfl, .refl hNamed, hHolds⟩
  | stored key p _ registry _ hCache hStore | outrun key p _ _ registry _ hCache hStore =>
    obtain rfl : _ = registry := congrArg Prod.fst hStore
    exact ⟨rfl, hStored key p hCache, hHolds.keep (hStored key p hCache)⟩
  | _ => exact ⟨rfl, .refl hNamed, hHolds⟩

theorem Passage.touches (h : Passage compiler hub w f mode w' f' mode')
    (hLeaves : compiler.LeavesCaches) (hNamed : w.registry.Named) (hHolds : f.Holds w.registry) :
    f'.cacheName = f.cacheName ∧ Touched f.cacheName w.registry w'.registry ∧
      f'.Holds w'.registry := by
  cases h with
  | turned hTurn => exact hTurn.touches hLeaves hNamed hHolds
  | reported failure hPoint => exact ⟨rfl, .refl hNamed, nofun⟩
  | _ => exact ⟨rfl, .refl hNamed, hHolds⟩

end Passages

variable {κ : Nat → Type} {parts : (i : Nat) → Compiler (κ i)} {N : String → Prop} {i : Nat}
  {w w' : Floor ((i : Nat) → κ i)} {f f' : Factory}

/-- The compiler of another hub does not notice what a factory does. -/
theorem Passage.part_of_ne {hub : Nat} {mode mode' : Mode State}
    (h : Passage (Compiler.family parts) hub w f mode w' f' mode') (hOther : i ≠ hub) :
    w'.compiler i = w.compiler i := by
  cases h with
  | turned hTurn =>
    cases hTurn with
    | ordered o k ticket hPoint hAccept =>
      obtain rfl : _ = k := congrArg Prod.fst hAccept
      exact Compiler.family_accept_of_ne hOther o
    | built ticket o k registry p hPoint hAnswer =>
      obtain rfl : _ = k := congrArg Prod.fst hAnswer
      exact Compiler.family_answer_of_ne hOther w.registry ticket o
    | refused ticket o k registry causes hPoint hAnswer =>
      obtain rfl : _ = k := congrArg Prod.fst hAnswer
      exact Compiler.family_answer_of_ne hOther w.registry ticket o
    | crashed ticket o k registry text hPoint hAnswer =>
      obtain rfl : _ = k := congrArg Prod.fst hAnswer
      exact Compiler.family_answer_of_ne hOther w.registry ticket o
    | discarded own kept hPoint => exact Compiler.family_destroy_of_ne hOther own
    | _ => rfl
  | _ => rfl

/-- Two worlds that look the same to a hub that uses only some names of caches. -/
structure Resembles (N : String → Prop) (i : Nat) (w w' : Floor ((i : Nat) → κ i)) : Prop where
  caches : Mirrors N w.registry w'.registry
  part : w.compiler i = w'.compiler i
  office : w.office.erase = w'.office.erase

theorem Resembles.inbox (h : Resembles N i w w') (g : FactoryId) :
    w'.office.inbox g = w.office.inbox g := by
  have hInboxes : w'.office.erase.inboxes = w.office.erase.inboxes := by rw [h.office]
  exact congrArg (·.getD g {}) hInboxes

theorem Resembles.isOpen (h : Resembles N i w w') : w'.office.isOpen = w.office.isOpen := by
  have hOpen : w'.office.erase.isOpen = w.office.erase.isOpen := by rw [h.office]
  exact hOpen

theorem Resembles.withRegistry {r r' : Registry} (h : Resembles N i w w')
    (hCaches : Mirrors N r r') :
    Resembles N i { w with registry := r } { w' with registry := r' } :=
  ⟨hCaches, h.part, h.office⟩

theorem Resembles.withCompiler {k k' : (i : Nat) → κ i} (h : Resembles N i w w')
    (hPart : k i = k' i) : Resembles N i { w with compiler := k } { w' with compiler := k' } :=
  ⟨h.caches, hPart, h.office⟩

theorem Resembles.withOffice {o o' : Office} (h : Resembles N i w w')
    (hOffice : o.erase = o'.erase) :
    Resembles N i { w with office := o } { w' with office := o' } :=
  ⟨h.caches, h.part, hOffice⟩

def caching (f : Factory) (c : Option CacheId) : Factory := { f with cache := c }

theorem exists_of_erase (h : f.erase = f'.erase) :
    masked f.cache = masked f'.cache ∧ f' = f.caching f'.cache := by
  refine ⟨congrArg Factory.cache h, ?_⟩
  calc f' = f'.erase.caching f'.cache := rfl
    _ = f.erase.caching f'.cache := by rw [h]
    _ = f.caching f'.cache := rfl

/-- Results that look the same to a hub. -/
abbrev SamePiece (N : String → Prop) (i : Nat) (x y : Piece ((i : Nat) → κ i)) : Prop :=
  Alike Factory.erase (Resembles N i) x y

section Pieces

variable {c c' : Option CacheId}

theorem erase_caching (f : Factory) (hCache : masked c = masked c') :
    (f.caching c).erase = (f.caching c').erase := by simp only [caching, erase, hCache]

theorem masked_cases (hCache : masked c = masked c') :
    c = none ∧ c' = none ∨ ∃ id id', c = some id ∧ c' = some id' := by
  cases c with
  | none =>
    cases c' with
    | none => exact .inl ⟨rfl, rfl⟩
    | some id' => cases hCache
  | some id =>
    cases c' with
    | none => cases hCache
    | some id' => exact .inr ⟨id, id', rfl, rfl⟩

variable (hWorlds : Resembles N i w w') (hCache : masked c = masked c')

include hWorlds hCache

theorem fail_alike (f : Factory) (e : ForgeError) :
    SamePiece N i (fail w (f.caching c) e) (fail w' (f.caching c') e) :=
  ⟨hWorlds, erase_caching (f.failing e) hCache, rfl, rfl⟩

theorem goTo_alike (f : Factory) (s : State) :
    SamePiece N i (goTo w (f.caching c) s) (goTo w' (f.caching c') s) :=
  ⟨hWorlds, erase_caching f.rested hCache, rfl, rfl⟩

theorem pause_alike (f : Factory) (point : Point) :
    SamePiece N i (pause w (f.caching c) point) (pause w' (f.caching c') point) :=
  ⟨hWorlds, erase_caching (f.turnedTo point) hCache, rfl, rfl⟩

theorem stay_alike (f : Factory) (lines : List Line) (reply : Reply State) :
    SamePiece N i (w, f.caching c, lines, reply) (w', f.caching c', lines, reply) :=
  ⟨hWorlds, erase_caching f hCache, rfl, rfl⟩

theorem unlessFailed_alike (f : Factory) {next next' : Inbox → Piece ((i : Nat) → κ i)}
    (hNext : ∀ inbox, SamePiece N i (next inbox) (next' inbox)) :
    SamePiece N i (unlessFailed w (f.caching c) next) (unlessFailed w' (f.caching c') next') := by
  have hInbox : w'.office.inbox (f.caching c').id = w.office.inbox (f.caching c).id :=
    hWorlds.inbox f.id
  rw [unlessFailed, unlessFailed, hInbox]
  split
  · next e _ => exact fail_alike hWorlds hCache f e
  · exact hNext _

theorem setUp_alike (f : Factory) (inbox : Inbox) :
    SamePiece N i (setUp w (f.caching c) inbox) (setUp w' (f.caching c') inbox) := by
  have hEmptied : Resembles N i { w with office := w.office.setInbox f.id inbox.takeAll.1 }
      { w' with office := w'.office.setInbox f.id inbox.takeAll.1 } :=
    hWorlds.withOffice (congrArg (·.setInbox f.id inbox.takeAll.1) hWorlds.office)
  obtain ⟨base, done, trouble, hSetup⟩ : ∃ base done trouble,
      Characteristic.setupAll ⟨f.name, f.frame⟩ inbox.takeAll.2 f.base = (base, done, trouble) :=
    ⟨_, _, _, rfl⟩
  have hFirst : Characteristic.setupAll ⟨(f.caching c).name, (f.caching c).frame⟩ inbox.takeAll.2
      (f.caching c).base = (base, done, trouble) := hSetup
  have hSecond : Characteristic.setupAll ⟨(f.caching c').name, (f.caching c').frame⟩
      inbox.takeAll.2 (f.caching c').base = (base, done, trouble) := hSetup
  simp only [setUp, hFirst, hSecond]
  let equipped : Factory := { f with base, axes := f.axes ++ done }
  cases trouble with
  | none => exact goTo_alike hEmptied hCache equipped .settled
  | some trouble =>
    cases trouble with
    | error e => exact fail_alike hEmptied hCache equipped e
    | fault x => exact stay_alike hEmptied hCache equipped [] (.fault x.message)

theorem settle_alike (f : Factory) (inbox : Inbox) :
    SamePiece N i (settle w (f.caching c) inbox) (settle w' (f.caching c') inbox) := by
  have hAxes (c : Option CacheId) : (f.caching c).axes = f.axes := rfl
  have hLog (c : Option CacheId) : (f.caching c).log = f.log := rfl
  simp only [settle, hAxes, hLog]
  split
  · exact goTo_alike hWorlds hCache f .setUp
  split
  · exact stay_alike hWorlds hCache f.rested [] (.step (.wait .settled wakeup))
  split
  · exact fail_alike hWorlds hCache f _
  next packing _ =>
  split
  · next x _ => exact stay_alike hWorlds hCache f [] (.fault x.message)
  · exact goTo_alike hWorlds hCache { f with plan := some ⟨packing, .start packing.spans⟩ }
      .generate

theorem handOff_alike (f : Factory) (p : Pipeline) :
    SamePiece N i (handOff w (f.caching c) p) (handOff w' (f.caching c') p) := by
  rw [handOff, handOff, hWorlds.isOpen]
  split
  · refine ⟨hWorlds.withOffice ?_, erase_caching f.delivered hCache, rfl, rfl⟩
    rw [Office.erase_send, Office.erase_send, hWorlds.office]
    rfl
  · exact fail_alike hWorlds hCache f .aborted

theorem collect_alike (hParts : ∀ i, (parts i).Private) (f : Factory) (ticket : Nat)
    (o : CompileOrder) :
    SamePiece N i (collect (Compiler.family parts) i w (f.caching c) ticket o)
      (collect (Compiler.family parts) i w' (f.caching c') ticket o) := by
  obtain ⟨hPart, hVerdict⟩ := Compiler.family_answer_congr (hParts i) hWorlds.part w.registry
    w'.registry ticket o
  have hLeaves := Compiler.family_leavesCaches hParts
  have hRegistry := hLeaves w.compiler w.registry i ticket o
  have hRegistry' := hLeaves w'.compiler w'.registry i ticket o
  rw [collect, collect, Compiler.family_holds_congr parts hWorlds.part]
  split
  · exact stay_alike hWorlds hCache f [] .held
  generalize (Compiler.family parts).answer w.compiler w.registry i ticket o = x at *
  generalize (Compiler.family parts).answer w'.compiler w'.registry i ticket o = y at *
  obtain ⟨k, r, verdict⟩ := x
  obtain ⟨k', r', verdict'⟩ := y
  obtain rfl : r = w.registry := hRegistry
  obtain rfl : r' = w'.registry := hRegistry'
  obtain rfl : verdict = verdict' := hVerdict
  have hAnswered : Resembles N i { w with compiler := k } { w' with compiler := k' } :=
    hWorlds.withCompiler hPart
  cases verdict with
  | made p => exact pause_alike hAnswered hCache f (.storing o.key p)
  | refused causes => exact fail_alike hAnswered hCache f _
  | fault text => exact stay_alike hAnswered hCache f [] (.fault text)

theorem part_alike (f : Factory) : Alike Factory.erase (Resembles N i) (part w (f.caching c))
    (part w' (f.caching c')) := by
  have hSigned : Alike Factory.erase (Resembles N i)
      ({ w with office := w.office.release f.ticket },
        { f.caching c with ticket := none, point := .resting }, ([] : List Line), Parting.gone)
      ({ w' with office := w'.office.release f.ticket },
        { f.caching c' with ticket := none, point := .resting }, [], .gone) := by
    refine ⟨hWorlds.withOffice ?_, ?_, rfl, rfl⟩
    · rw [Office.erase_release, Office.erase_release, hWorlds.office]
    · exact erase_caching { f with ticket := none, point := .resting } hCache
  have hPoint (c : Option CacheId) : (f.caching c).point = f.point := rfl
  rw [part, part, hPoint, hPoint]
  cases f.point with
  | reporting failure =>
    refine ⟨hWorlds.withOffice ?_, rfl, rfl, rfl⟩
    have hEvent : (Event.ended f.id f.report failure c).erase =
        (Event.ended f.id f.report failure c').erase := by simp only [Event.erase, hCache]
    rw [Office.erase_send, Office.erase_send, hWorlds.office]
    exact congrArg w'.office.erase.send hEvent
  | _ => exact hSigned

end Pieces

theorem behaviour_respects (parts : (i : Nat) → Compiler (κ i)) (N : String → Prop) (i : Nat) :
    (behaviour (Compiler.family parts) i).Respects Factory.erase (Resembles N i) := by
  constructor
  · intro f f' hFactories
    rw [(exists_of_erase hFactories).2]
    rfl
  · intro s f f' hFactories
    obtain ⟨hCache, hSame⟩ := exists_of_erase hFactories
    rw [hSame]
    exact erase_caching (f.enter s) hCache
  · intro outcome f f' hFactories
    obtain ⟨hCache, hSame⟩ := exists_of_erase hFactories
    rw [hSame]
    cases outcome with
    | finished => exact erase_caching (f.leave .finished) hCache
    | aborted => exact erase_caching (f.leave .aborted) hCache
  · intro w w' f f' hWorlds hFactories
    obtain ⟨hCache, hSame⟩ := exists_of_erase hFactories
    rw [hSame]
    exact part_alike hWorlds hCache f

/-- The same factory with two caches in two worlds, where each of them has the name. -/
structure Doubles (N : String → Prop) (i : Nat) (w w' : Floor ((i : Nat) → κ i)) (f : Factory)
    (c c' : Option CacheId) : Prop where
  worlds : Resembles N i w w'
  cache : masked c = masked c'
  name : N f.cacheName
  boundless : w.registry.Boundless
  boundless' : w'.registry.Boundless
  holds : (f.caching c).Holds w.registry
  holds' : (f.caching c').Holds w'.registry

section Doubles

variable {c c' : Option CacheId}

theorem Doubles.onCache {α : Type} {id id' : CacheId}
    (h : Doubles N i w w' f (some id) (some id')) (other : α) (op : Cache → Cache × α) :
    ∃ q q' a, w.registry.onCache id other op = (q, a) ∧ w'.registry.onCache id' other op = (q', a) ∧
      Resembles N i { w with registry := q } { w' with registry := q' } ∧
      q.get? f.cacheName = some id ∧ q'.get? f.cacheName = some id' := by
  have hGet := h.holds id rfl
  have hGet' := h.holds' id' rfl
  obtain ⟨hMirrors, hAnswer⟩ := h.worlds.caches.onCache h.name h.boundless.named h.boundless'.named
    hGet hGet' other op
  exact ⟨_, _, _, rfl, Prod.ext rfl hAnswer.symm, h.worlds.withRegistry hMirrors,
    (Registry.get?_onCache other op w.registry id f.cacheName).trans hGet,
    (Registry.get?_onCache other op w'.registry id' f.cacheName).trans hGet'⟩

theorem acquire_alike (h : Doubles N i w w' f c c') :
    SamePiece N i (acquire w (f.caching c)) (acquire w' (f.caching c')) := by
  obtain ⟨q, id, hAcquire⟩ := h.boundless.acquire_ok f.cacheName
  obtain ⟨q', id', hAcquire'⟩ := h.boundless'.acquire_ok f.cacheName
  have hMirrors := h.worlds.caches.acquire h.name h.boundless.named h.boundless'.named hAcquire
    hAcquire'
  have hName (c : Option CacheId) : (f.caching c).cacheName = f.cacheName := rfl
  simp only [acquire, hName, hAcquire, hAcquire']
  have hCache : masked (some id) = masked (some id') := rfl
  exact goTo_alike (h.worlds.withRegistry hMirrors) hCache f .setUp

theorem lookup_alike (h : Doubles N i w w' f c c') (o : CompileOrder) :
    SamePiece N i (lookup w (f.caching c) o) (lookup w' (f.caching c') o) := by
  rcases masked_cases h.cache with ⟨rfl, rfl⟩ | ⟨id, id', rfl, rfl⟩
  · exact fail_alike h.worlds rfl f _
  · obtain ⟨q, q', answer, hLookup, hLookup', hWorlds, _⟩ := h.onCache none (·.lookup o.key)
    have hCache (c : Option CacheId) : (f.caching c).cache = c := rfl
    simp only [lookup, Registry.lookup, hCache, hLookup, hLookup']
    cases answer with
    | none =>
      exact pause_alike hWorlds h.cache { f with report.misses := f.report.misses + 1 }
        (.ordering o)
    | some p =>
      exact pause_alike hWorlds h.cache { f with report.hits := f.report.hits + 1 }
        (.handingOff p)

theorem store_alike (h : Doubles N i w w' f c c') (key : CacheKey) (p : Pipeline) :
    SamePiece N i (store w (f.caching c) key p) (store w' (f.caching c') key p) := by
  rcases masked_cases h.cache with ⟨rfl, rfl⟩ | ⟨id, id', rfl, rfl⟩
  · exact fail_alike h.worlds rfl f _
  · obtain ⟨q, q', answer, hStore, hStore', hWorlds, hGet, hGet'⟩ :=
      h.onCache Stored.inserted (·.store key p)
    have hCache (c : Option CacheId) : (f.caching c).cache = c := rfl
    simp only [store, Registry.store, hCache, hStore, hStore']
    cases answer with
    | inserted => exact pause_alike hWorlds h.cache f (.handingOff p)
    | existing kept =>
      -- The line names the cache, which is the same one.
      have hView := hWorlds.caches f.cacheName h.name
      rw [Registry.view?, Registry.view?, hGet, hGet', Option.bind_some, Option.bind_some] at hView
      simp only [hView]
      exact stay_alike hWorlds h.cache (f.turnedTo (.discarding p kept)) _ .more

theorem generate_alike (h : Doubles N i w w' f c c') :
    SamePiece N i (generate w (f.caching c)) (generate w' (f.caching c')) := by
  have hPlan (c : Option CacheId) : (f.caching c).plan = f.plan := rfl
  have hOrder (c : Option CacheId) (plan : Plan) : orderOf (f.caching c) plan = orderOf f plan :=
    rfl
  have hGenerated (c : Option CacheId) : (f.caching c).generated = f.generated := rfl
  simp only [generate, hPlan, hOrder, hGenerated]
  split
  · exact goTo_alike h.worlds h.cache f .done
  next plan _ =>
  split
  · exact goTo_alike h.worlds h.cache f .done
  split
  · exact fail_alike h.worlds h.cache f _
  · next x _ => exact stay_alike h.worlds h.cache f [] (.fault x.message)
  next o _ =>
  split
  · exact stay_alike h.worlds h.cache f [] _
  · exact lookup_alike (f := f.noting o)
      ⟨h.worlds, h.cache, h.name, h.boundless, h.boundless', h.holds, h.holds'⟩ o

theorem begin_alike (h : Doubles N i w w' f c c') :
    SamePiece N i (begin w (f.caching c)) (begin w' (f.caching c')) := by
  have hState (c : Option CacheId) : (f.caching c).state = f.state := rfl
  rw [begin, begin, hState, hState]
  split
  · exact unlessFailed_alike h.worlds h.cache f fun _ => pause_alike h.worlds h.cache f .acquiring
  · exact unlessFailed_alike h.worlds h.cache f (setUp_alike h.worlds h.cache f)
  · exact unlessFailed_alike h.worlds h.cache f (settle_alike h.worlds h.cache f)
  · exact generate_alike h
  · exact stay_alike h.worlds h.cache f.rested [finishLine f] (.step .finish)

theorem order_alike (hWorlds : Resembles N i w w') (hCache : masked c = masked c')
    (parts : (i : Nat) → Compiler (κ i)) (f : Factory) (o : CompileOrder) :
    SamePiece N i
      (pause { w with compiler := ((Compiler.family parts).accept w.compiler i o).1 } (f.caching c)
        (.compiling ((Compiler.family parts).accept w.compiler i o).2 o))
      (pause { w' with compiler := ((Compiler.family parts).accept w'.compiler i o).1 }
        (f.caching c') (.compiling ((Compiler.family parts).accept w'.compiler i o).2 o)) := by
  obtain ⟨hPart, hTicket⟩ := Compiler.family_accept_congr parts hWorlds.part o
  rw [hTicket]
  exact pause_alike (hWorlds.withCompiler hPart) hCache f _

theorem work_alike (hParts : ∀ i, (parts i).Private) (h : Doubles N i w w' f c c') :
    SamePiece N i (work (Compiler.family parts) i w (f.caching c))
      (work (Compiler.family parts) i w' (f.caching c')) := by
  have hPoint (c : Option CacheId) : (f.caching c).point = f.point := rfl
  rw [work, work, hPoint, hPoint]
  cases f.point with
  | entering => exact begin_alike h
  | acquiring => exact acquire_alike h
  | ordering o => exact order_alike h.worlds h.cache parts f o
  | compiling ticket o => exact collect_alike h.worlds h.cache hParts f ticket o
  | storing key p => exact store_alike h key p
  | discarding own kept =>
    have hPart := Compiler.family_destroy_congr parts h.worlds.part own
    exact pause_alike (h.worlds.withCompiler hPart) h.cache f (.handingOff kept)
  | handingOff p => exact handOff_alike h.worlds h.cache f p
  | resting => exact stay_alike h.worlds h.cache f [] (.step .abort)
  | reporting failure => exact stay_alike h.worlds h.cache f [] (.step .abort)
  | signingOff => exact stay_alike h.worlds h.cache f [] (.step .abort)

end Doubles

end PipelineForge.Factory
