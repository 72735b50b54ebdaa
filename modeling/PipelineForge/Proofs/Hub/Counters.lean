import PipelineForge.Proofs.Factory.Reckoning
import PipelineForge.Proofs.Hub.Files
import PipelineForge.Proofs.Hub.Ownership

/-!
# Counters of shared caches

A cache that only factories use counts what its factories count. In every run, whenever none of
them is at a combination, its hits and misses are the sums of theirs, and it holds a pipeline for
every miss that did not fail or came too late. How the factories take turns makes no difference.
-/

namespace PipelineForge

theorem countP_mem_eq_sum {α : Type} [BEq α] [LawfulBEq α] {keys : List α}
    (hDistinct : keys.Nodup) (l : List α) :
    l.countP (· ∈ keys) = (keys.map fun key => l.count key).sum := by
  induction keys with
  | nil => simp
  | cons key keys ih =>
    obtain ⟨hNew, hRest⟩ := List.nodup_cons.mp hDistinct
    rw [List.map_cons, List.sum_cons, ← ih hRest]
    clear ih
    induction l with
    | nil => rfl
    | cons a l ih =>
      rw [List.countP_cons, List.countP_cons, List.count_cons, ih]
      by_cases ha : a = key
      · subst ha
        simp [hNew]
        omega
      · simp only [List.mem_cons, ha, false_or, beq_iff_eq, if_false]
        omega

namespace Plant

open Factory (Books Event Mark Report Turn markOf voided)
open Tasks (Mode TaskId)

variable {κ : Type} {compiler : Compiler κ} {first p p' : Plant κ} {i j : Nat} {h h' : Hub}
  {g : FactoryId} {m : Move κ} {id : CacheId}

def roster (p : Plant κ) : List (Nat × FactoryId) :=
  (List.range p.hubs.length).flatMap fun i =>
    ((p.hub? i).map fun h => h.pool.bodies.map fun f => (i, f.id)).getD []

theorem mem_roster : (i, g) ∈ p.roster ↔ ∃ h t f mode, p.hub? i = some h ∧
    h.pool.member? t = some (f, mode) ∧ f.id = g := by
  rw [roster, List.mem_flatMap]
  constructor
  · rintro ⟨k, _, hMem⟩
    cases hHub : p.hub? k with
    | none =>
      rw [hHub] at hMem
      cases hMem
    | some h =>
      rw [hHub] at hMem
      obtain ⟨f, hBody, hSame⟩ := List.mem_map.mp hMem
      cases hSame
      obtain ⟨t, hBody⟩ := List.mem_iff_getElem?.mp hBody
      rw [Tasks.Pool.bodies_getElem?] at hBody
      obtain ⟨⟨k, mode⟩, hMember, rfl⟩ := Option.map_eq_some_iff.mp hBody
      exact ⟨h, t, k, mode, hHub, hMember, rfl⟩
  · rintro ⟨h, t, f, mode, hHub, hMember, rfl⟩
    refine ⟨i, List.mem_range.mpr (List.getElem?_eq_some_iff.mp hHub).1, ?_⟩
    rw [hHub]
    refine List.mem_map.mpr ⟨f, List.mem_of_getElem? (i := t) ?_, rfl⟩
    rw [Tasks.Pool.bodies_getElem?, hMember]
    rfl

theorem nodup_roster (hOrderly : p.Orderly) : p.roster.Nodup := by
  rw [roster, List.nodup_flatMap]
  constructor
  · intro i _
    cases hHub : p.hub? i with
    | none => exact List.nodup_nil
    | some h =>
      rw [Option.map_some, Option.getD_some, List.nodup_iff_injective_getElem]
      rintro ⟨t, ht⟩ ⟨u, hu⟩ hSame
      rw [List.length_map] at ht hu
      simp only [List.getElem_map, Prod.mk.injEq, true_and] at hSame
      have hBody {v : Nat} (hv : v < h.pool.bodies.length) :
          ∃ mode, h.pool.member? v = some (h.pool.bodies[v], mode) := by
        have hSome := List.getElem?_eq_getElem hv
        rw [Tasks.Pool.bodies_getElem?] at hSome
        obtain ⟨⟨f, mode⟩, hMember, hf⟩ := Option.map_eq_some_iff.mp hSome
        exact ⟨mode, hf ▸ hMember⟩
      obtain ⟨m, hFirst⟩ := hBody ht
      obtain ⟨n, hSecond⟩ := hBody hu
      exact Fin.ext ((hOrderly i h hHub).distinct t u _ _ m n hFirst hSecond hSame)
  · refine List.nodup_range.imp fun {i k} hik x hFirst hSecond => hik ?_
    have hHub {n : Nat} (hMem : x ∈ ((p.hub? n).map fun h =>
        h.pool.bodies.map fun f => (n, f.id)).getD []) : x.1 = n := by
      cases hHub : p.hub? n with
      | none =>
        rw [hHub] at hMem
        cases hMem
      | some h =>
        rw [hHub] at hMem
        obtain ⟨f, _, rfl⟩ := List.mem_map.mp hMem
        rfl
    rw [← hHub hFirst, hHub hSecond]

/-- No factory of the cache is at a combination. -/
def Rests (p : Plant κ) (id : CacheId) : Prop :=
  ∀ i h t f, p.hub? i = some h → h.pool.member? t = some (f, .working) → f.cache = some id →
    f.state ≠ .generate

theorem hub?_move (hMove : p.move compiler m = some p') (hSome : ∃ h, p.hub? i = some h) :
    ∃ h, p'.hub? i = some h := by
  obtain ⟨h, hHub⟩ := hSome
  have hi : i < p.hubs.length := (List.getElem?_eq_some_iff.mp hHub).1
  exact ⟨_, List.getElem?_eq_getElem (length_hubs_move hMove ▸ hi)⟩

namespace Run

/-- What a factory reports, or has reported. -/
def report (r : Run compiler first p) (i : Nat) (g : FactoryId) : Report :=
  ((r.file? i g).map Factory.report).getD {}

def sharing (r : Run compiler first p) (id : CacheId) : List (Nat × FactoryId) :=
  p.roster.filter fun (i, g) => (r.file? i g).any fun f => f.cache = some id

def total (r : Run compiler first p) (id : CacheId) (counter : Report → Nat) : Nat :=
  ((r.sharing id).map fun (i, g) => counter (r.report i g)).sum

/-- Nobody destroyed the cache: whenever the named caches were destroyed, it had no name. -/
def Undrained (id : CacheId) : {p : Plant κ} → Run compiler first p → Prop
  | _, .start => True
  | _, @next _ _ _ p _ r m _ =>
    r.Undrained id ∧
      match m with
      | .destroy _ => id ∉ p.registry.names.map Prod.snd
      | _ => True

theorem hub_of_marking (r : Run compiler first p) {x : Marking} (hx : x ∈ r.markings) :
    ∃ h, p.hub? x.hub = some h := by
  induction r with
  | start => cases hx
  | @next p p' r m hMove ih =>
    have hBefore : ∃ h, p.hub? x.hub = some h := by
      rcases List.mem_append.mp hx with hOld | hNew
      · exact ih hOld
      · cases m with
        | work i j =>
          obtain ⟨⟨w, f⟩, hAt, hMark⟩ := Option.bind_eq_some_iff.mp (Option.mem_toList.mp hNew)
          obtain ⟨mark, _, rfl⟩ := Option.map_eq_some_iff.mp hMark
          obtain ⟨h, hHub, _⟩ := Option.bind_eq_some_iff.mp hAt
          exact ⟨h, hHub⟩
        | _ => cases hNew
    exact hub?_move hMove hBefore

theorem hub_of_file (r : Run compiler first p) {f : Factory} (hFile : r.file? i g = some f) :
    ∃ h, p.hub? i = some h := by
  induction r with
  | start => cases hFile
  | @next p p' r m hMove ih =>
    rcases Option.or_eq_some_iff.mp hFile with hDuty | ⟨_, hOld⟩
    · obtain ⟨h, hHub, _⟩ := Option.bind_eq_some_iff.mp hDuty
      exact ⟨h, hHub⟩
    · exact hub?_move hMove (ih hOld)

section Counts

variable {limit : Option Nat} {k : κ} {settings : List HubSettings}

theorem mem_sharing (r : Run compiler (founded limit k settings) p) : (i, g) ∈ r.sharing id ↔
    ∃ f, r.file? i g = some f ∧ f.cache = some id := by
  rw [sharing, List.mem_filter]
  simp only [Option.any_eq_true, decide_eq_true_eq]
  refine and_iff_right_of_imp ?_
  rintro ⟨f, hFile, _⟩
  obtain ⟨h, hHub⟩ := r.hub_of_file hFile
  by_contra hAbsent
  rw [(r.filed hHub g).unstarted] at hFile
  · cases hFile
  · exact fun t f mode hMember hId => hAbsent (mem_roster.mpr ⟨h, t, f, mode, hHub, hMember, hId⟩)

theorem label (r : Run compiler (founded limit k settings) p) {x : Marking}
    (hx : x ∈ r.markings) : ∃ f, r.file? x.hub x.factory = some f ∧ x.cache = f.cache := by
  obtain ⟨h, hHub⟩ := r.hub_of_marking hx
  exact (r.filed hHub x.factory).labels x hx rfl rfl

theorem count_marksOn (r : Run compiler (founded limit k settings) p) (id : CacheId)
    (mark : Mark) : (r.marksOn id).count mark =
      ((r.sharing id).map fun (i, g) => (r.marks i g).count mark).sum := by
  let senders := (r.markings.filter (·.mark = mark)).map fun x => (x.hub, x.factory)
  have hDistinct : (r.sharing id).Nodup := (nodup_roster r.orderly).filter _
  have hAll : (r.marksOn id).count mark = senders.countP (· ∈ r.sharing id) := by
    rw [marksOn, List.count, List.countP_filterMap, List.countP_map, List.countP_filter]
    refine List.countP_congr fun x hx => ?_
    obtain ⟨f, hFile, hLabel⟩ := r.label hx
    have hOwn : (x.hub, x.factory) ∈ r.sharing id ↔ x.cache = some id := by
      rw [mem_sharing, hFile, hLabel]
      simp
    by_cases hCache : x.cache = some id
    · simp [hCache, hOwn.mpr hCache]
    · simp [hCache, mt hOwn.mp hCache]
  have hOne (key : Nat × FactoryId) :
      senders.count key = (r.marks key.1 key.2).count mark := by
    rw [marks, List.count, List.count, List.countP_filterMap, List.countP_map, List.countP_filter]
    refine List.countP_congr fun x _ => ?_
    obtain ⟨i, g⟩ := key
    by_cases hOwn : x.hub = i ∧ x.factory = g
    · simp [hOwn]
    · simp [hOwn]
  rw [hAll, countP_mem_eq_sum hDistinct]
  exact congrArg List.sum (List.map_congr_left fun key _ => hOne key)

/-- The cache has counted the marks that were left on it, and is known to whoever it is the cache
of. -/
structure Reckoned (r : Run compiler first p) (id : CacheId) : Prop where
  tallied : p.registry.Tallied id (r.marksOn id)
  known : ∀ i h t f mode, p.hub? i = some h → h.pool.member? t = some (f, mode) →
    f.cache = some id → p.registry.cache? id ≠ none

theorem marksOn_next (r : Run compiler first p) (hMove : p.move compiler m = some p')
    (id : CacheId) : (r.next m hMove).marksOn id = r.marksOn id ++
      ((p.marking? compiler m).toList.filterMap fun x =>
        if x.cache = some id then some x.mark else none) := by
  rw [marksOn, markings, List.filterMap_append, marksOn]

/-- A move that leaves no mark and does not touch the registry. -/
theorem Reckoned.aside {r : Run compiler first p} (hReckoned : r.Reckoned id)
    (hMove : p.move compiler m = some p') (hNone : p.marking? compiler m = none)
    (hRegistry : p'.registry = p.registry)
    (hMembers : ∀ i h t f mode, p'.hub? i = some h → h.pool.member? t = some (f, mode) →
      f.cache = some id → ∃ i h t mode, p.hub? i = some h ∧ h.pool.member? t = some (f, mode)) :
    (r.next m hMove).Reckoned id := by
  constructor
  · rw [r.marksOn_next hMove, hNone, hRegistry, Option.toList_none, List.filterMap_nil,
      List.append_nil]
    exact hReckoned.tallied
  · intro i h t f mode hHub hMember hCache
    obtain ⟨i₀, h₀, t₀, mode₀, hBefore, hIn⟩ := hMembers i h t f mode hHub hMember hCache
    rw [hRegistry]
    exact hReckoned.known i₀ h₀ t₀ f mode₀ hBefore hIn hCache

theorem Reckoned.works {r : Run compiler first p} (hReckoned : r.Reckoned id)
    (hSpares : compiler.Spares id) (hMove : p.move compiler (.work i j) = some p')
    {w' : Factory.Floor κ} {t : TaskId} {f f' : Factory} {mode mode' : Mode Factory.State}
    (hWorks : Works compiler p i j p' h h' w' t f mode f' mode') :
    (r.next (.work i j) hMove).Reckoned id := by
  have hRegistry : p'.registry = w'.registry := by rw [hWorks.after]
  have hKnown := hReckoned.known i h t f mode hWorks.hub hWorks.member
  obtain ⟨hLasts, hHolds⟩ := hWorks.passage.knows hSpares hReckoned.tallied
  constructor
  · rw [r.marksOn_next hMove, hRegistry]
    rcases hWorks.marked with ⟨rfl, reply, hTurn, rfl, hMarking⟩ | ⟨hMarking, hSame⟩
    · have hNext := hTurn.tallied hSpares hReckoned.tallied hKnown
      have hMore : f.onCache id (markOf f.point f'.point reply) =
          ((markOf f.point f'.point reply).map (⟨i, f.id, f.cache, ·⟩)).toList.filterMap
            fun x : Marking => if x.cache = some id then some x.mark else none := by
        rw [Factory.onCache]
        cases markOf f.point f'.point reply with
        | none => simp
        | some mark => by_cases hOwn : f.cache = some id <;> simp [hOwn]
      rw [hMarking, ← hMore]
      exact hNext
    · have hSameRegistry : w'.registry = p.registry := by
        rcases hSame with ⟨rfl, _⟩ | hMode
        · rfl
        · exact hWorks.passage.same_registry hMode
      rw [hMarking, hSameRegistry, Option.toList_none, List.filterMap_nil, List.append_nil]
      exact hReckoned.tallied
  · intro k g u e n hHub hMember hCache
    rw [hRegistry]
    rw [hWorks.hub?] at hHub
    split at hHub
    next hk =>
      cases hHub
      rw [hWorks.members] at hMember
      split at hMember
      next =>
        cases hMember
        exact (hHolds hCache).elim (fun hOwn => hLasts (hKnown hOwn)) fun hNew => hNew
      next => exact hLasts (hReckoned.known i h u e n hWorks.hub hMember hCache)
    next => exact hLasts (hReckoned.known k g u e n hHub hMember hCache)

theorem reckoned (hSpares : compiler.Spares id) (r : Run compiler (founded limit k settings) p)
    (hUndrained : r.Undrained id) : r.Reckoned id := by
  induction r with
  | start =>
    constructor
    · constructor
      · intro c hSome
        cases hSome
      · exact fun _ => ⟨rfl, fun name => List.not_mem_nil⟩
    · intro i h t f mode hHub hMember
      obtain ⟨s, rfl⟩ := founded_hub hHub
      cases hMember
  | @next p p' r m hMove ih =>
    obtain ⟨hBefore, hSpared⟩ := hUndrained
    have hReckoned := ih hBefore
    cases m with
    | own i op =>
      obtain ⟨h, hHub, _, rfl⟩ := move_own hMove
      refine hReckoned.aside hMove rfl rfl fun k g t f mode hSome hMember hCache => ?_
      rw [hub?_setHub p hHub] at hSome
      split at hSome
      next hk =>
        cases hSome
        have hOrderly := r.orderly i h hHub
        rcases Hub.member_perform hOrderly op hMember with hOld | ⟨hNew, _⟩
        · exact ⟨i, h, t, mode, hHub, hOld⟩
        · rw [hOrderly.fresh f.id f hNew] at hCache
          cases hCache
      next => exact ⟨k, g, t, mode, hSome, hMember⟩
    | work i j =>
      obtain ⟨h, h', w', t, f, mode, f', mode', hWorks⟩ := step_works r.orderly.sound hMove
      exact hReckoned.works hSpares hMove hWorks
    | compiler k =>
      cases hMove
      exact hReckoned.aside _ rfl rfl fun i h t f mode hHub hMember _ =>
        ⟨i, h, t, mode, hHub, hMember⟩
    | destroy i =>
      obtain rfl : p' = (p.destroyCaches compiler i).1 := (Option.some.inj hMove).symm
      have hCache : p.registry.destroy.1.cache? id = p.registry.cache? id := by
        rw [Registry.cache?_destroy, if_neg hSpared]
      constructor
      · have hNone : p.marking? compiler (.destroy i) = none := rfl
        have hNames (name : String) : (name, id) ∉ p.registry.destroy.1.names := by
          rw [Registry.names_destroy]
          exact List.not_mem_nil
        rw [r.marksOn_next, hNone, Option.toList_none, List.filterMap_nil]
        exact hReckoned.tallied.of_same hCache (fun name hMem => absurd hMem (hNames name))
          ⟨rfl, rfl, rfl⟩ (absurd rfl)
      · intro k h t f mode hHub hMember hOwn
        exact hCache ▸ hReckoned.known k h t f mode hHub hMember hOwn

theorem books (r : Run compiler (founded limit k settings) p) (hRests : p.Rests id)
    (hMem : (i, g) ∈ r.sharing id) : ∃ f, r.file? i g = some f ∧
      Books (r.marks i g) f false false := by
  obtain ⟨h, t, f, mode, hHub, hMember, hId⟩ := mem_roster.mp (List.mem_of_mem_filter hMem)
  obtain ⟨k, hFile, hCache⟩ := r.mem_sharing.mp hMem
  have hFiled := r.filed hHub g
  by_cases hPast : f.Reported mode
  · exact hFiled.past t f mode hMember hId hPast
  · obtain ⟨hOwn, hBalances⟩ := hFiled.members t f mode hMember hId hPast
    obtain rfl := Option.some.inj (hFile.symm.trans hOwn)
    refine ⟨k, hFile, hBalances.books fun hMode => ?_⟩
    subst hMode
    have hTracks := (r.tracked hHub).members t k .working hMember
    exact Factory.isOwing_of_at hTracks.2.2 (hRests i h t k hHub hMember hCache)

end Counts

end Run

/-- Factories share a cache that nobody else uses. In every run, whenever none of them is at a
combination, each has counted as many hits and misses as it has handed off pipelines, and one more
if its last combination came to nothing; the cache has counted what they have counted together, and
what it holds are the pipelines that they missed, without those that were not made and those that
came too late. A factory that has ended counts with its last report. -/
theorem counters_agree (hSpares : compiler.Spares id) {limit : Option Nat} {k : κ}
    {settings : List HubSettings} (r : Run compiler (founded limit k settings) p)
    (hUndrained : r.Undrained id) (hRests : p.Rests id) :
    (∀ i g, (i, g) ∈ r.sharing id →
      (r.report i g).hits + (r.report i g).misses =
        (r.report i g).pipelines + voided (r.marks i g)) ∧
    (∀ c, p.registry.cache? id = some c →
      c.hits = r.total id Report.hits ∧ c.misses = r.total id Report.misses ∧
      c.size + (r.marksOn id).count .failed + (r.marksOn id).count .destroyed =
        r.total id Report.misses) ∧
    (∀ i h t f mode, p.hub? i = some h → h.pool.member? t = some (f, mode) → ¬ f.Reported mode →
      r.report i f.id = f.report ∧ ((i, f.id) ∈ r.sharing id ↔ f.cache = some id)) ∧
    (∀ i g report failure cache, Event.ended g report failure cache ∈ r.sent i →
      r.report i g = report ∧ ((i, g) ∈ r.sharing id ↔ cache = some id)) := by
  have hBooks {i : Nat} {g : FactoryId} (hMem : (i, g) ∈ r.sharing id) :
      ∃ f, r.report i g = f.report ∧ Books (r.marks i g) f false false := by
    obtain ⟨f, hFile, hBooks⟩ := r.books hRests hMem
    refine ⟨f, ?_, hBooks⟩
    rw [Run.report, hFile]
    rfl
  have hTotal {counter : Report → Nat} {mark : Mark}
      (hCounter : ∀ marks f, Books marks f false false → counter f.report = marks.count mark) :
      r.total id counter = (r.marksOn id).count mark := by
    rw [Run.total, r.count_marksOn]
    refine congrArg List.sum (List.map_congr_left fun ⟨i, g⟩ hMem => ?_)
    obtain ⟨f, hReport, hBooks⟩ := hBooks hMem
    change counter (r.report i g) = _
    rw [hReport, hCounter _ _ hBooks]
  have hHits := hTotal fun _ _ => Books.hits
  have hMisses := hTotal fun _ _ => Books.misses
  have hCompiled : (r.marksOn id).count .miss =
      (r.marksOn id).count .stored + (r.marksOn id).count .destroyed +
        (r.marksOn id).count .failed := by
    simp only [r.count_marksOn, ← List.sum_map_add]
    refine congrArg List.sum (List.map_congr_left fun ⟨i, g⟩ hMem => ?_)
    obtain ⟨f, _, hBooks⟩ := hBooks hMem
    exact hBooks.compiled
  refine ⟨fun i g hMem => ?_, fun c hCache => ?_, fun i h t f mode hHub hMember hNot => ?_,
    fun i g report failure cache hEnded => ?_⟩
  · obtain ⟨f, hReport, hBooks⟩ := hBooks hMem
    have hLookups := hBooks.lookups
    rw [hBooks.ended] at hLookups
    rw [hReport, hBooks.hits, hBooks.misses, hBooks.pipelines]
    exact hLookups
  · obtain ⟨hHit, hMiss, hStored⟩ := (r.reckoned hSpares hUndrained).tallied.counted c hCache
    refine ⟨hHit.trans hHits.symm, hMiss.trans hMisses.symm, ?_⟩
    rw [hMisses, hCompiled, hStored]
    omega
  · have hFile := ((r.filed hHub f.id).members t f mode hMember rfl hNot).1
    rw [Run.report, Run.mem_sharing, hFile]
    simp
  · cases hHub : p.hub? i with
    | none =>
      rw [r.sent_of_absent hHub] at hEnded
      cases hEnded
    | some h =>
      obtain ⟨_, f, hFile, rfl, rfl⟩ := (r.filed hHub g).ended report failure cache hEnded
      rw [Run.report, Run.mem_sharing, hFile]
      simp

theorem Run.undrained_start (first : Plant κ) (id : CacheId) :
    (Run.start : Run compiler first first).Undrained id := by rw [Undrained]; trivial

theorem Run.undrained_along {r : Run compiler first p} (hUndrained : r.Undrained id)
    {ms : List (Move κ)} (hMoves : ∀ m ∈ ms, ∀ i, m ≠ .destroy i) :
    (r.along ms).2.Undrained id := by
  induction ms generalizing p with
  | nil => exact hUndrained
  | cons m ms ih =>
    obtain ⟨hFirst, hRest⟩ := List.forall_mem_cons.mp hMoves
    rw [Run.along]
    split
    next p' hMove =>
      refine ih ⟨hUndrained, ?_⟩ hRest
      cases m with
      | destroy i => exact absurd rfl (hFirst i)
      | _ => trivial
    next => exact hUndrained

theorem rests_of_finished (hOrderly : p.Orderly)
    (hEnded : ∀ h ∈ p.hubs, ∀ t < h.pool.cells.length, h.pool.isFinished t = true) :
    p.Rests id := by
  intro i h t f hHub hMember
  have hLength : t < h.pool.cells.length := by
    have hLt := Hub.member?_lt hMember
    rwa [Tasks.Pool.bodies, List.length_map] at hLt
  have hFinished := hEnded h (List.mem_of_getElem? hHub) t hLength
  cases (hOrderly i h hHub).pool.left_of_finished hFinished hMember

theorem spares_audited (id : CacheId) : Device.compiler.audited.Spares id :=
  (Compiler.audited_leavesCaches Device.leavesCaches).spares id

theorem undrained_race : raceRun.2.Undrained 0 := by
  unfold raceRun
  apply Run.undrained_along
  · exact Run.undrained_start _ _
  · simp [raceMoves, lonelyStart, or_imp, forall_and]

/-- Of two factories that miss at once, the one that comes too late destroys its pipeline. -/
theorem counters_agree_race :
    raceRun.2.Undrained 0 ∧ raceRun.1.Rests 0 ∧ raceRun.2.sharing 0 = [(0, 0), (1, 0)] ∧
    raceRun.2.marks 0 0 = [.miss, .destroyed, .handedOff] ∧
    raceRun.2.marks 1 0 = [.miss, .stored, .handedOff] ∧
    raceRun.2.total 0 Report.hits = 0 ∧ raceRun.2.total 0 Report.misses = 2 ∧
    (raceRun.2.report 0 0).hits + (raceRun.2.report 0 0).misses = 1 ∧
    ∃ c, raceRun.1.registry.cache? 0 = some c ∧ c.hits = 0 ∧ c.misses = 2 ∧ c.size + 0 + 1 = 2 := by
  have hRests : raceRun.1.Rests 0 := rests_of_finished raceRun.2.orderly (by decide +kernel)
  have hSharing : raceRun.2.sharing 0 = [(0, 0), (1, 0)] := by decide +kernel
  have hFirst : raceRun.2.marks 0 0 = [.miss, .destroyed, .handedOff] := by decide +kernel
  have hSecond : raceRun.2.marks 1 0 = [.miss, .stored, .handedOff] := by decide +kernel
  have hHits : raceRun.2.total 0 Report.hits = 0 := by decide +kernel
  have hMisses : raceRun.2.total 0 Report.misses = 2 := by decide +kernel
  have hFailed : (raceRun.2.marksOn 0).count .failed = 0 := by decide +kernel
  have hDestroyed : (raceRun.2.marksOn 0).count .destroyed = 1 := by decide +kernel
  have hMade : (raceRun.2.report 0 0).pipelines = 1 := by decide +kernel
  have hSome : (raceRun.1.registry.cache? 0).isSome = true := by decide +kernel
  obtain ⟨c, hCache⟩ := Option.isSome_iff_exists.mp hSome
  obtain ⟨hEach, hAll, _⟩ := counters_agree (spares_audited 0) raceRun.2 undrained_race hRests
  obtain ⟨hHit, hMiss, hSize⟩ := hAll c hCache
  have hOne := hEach 0 0 (by rw [hSharing]; decide)
  rw [hMade, hFirst] at hOne
  rw [hFailed, hDestroyed, hMisses] at hSize
  exact ⟨undrained_race, hRests, hSharing, hFirst, hSecond, hHits, hMisses, hOne, c, hCache,
    hHit.trans hHits, hMiss.trans hMisses, hSize⟩

def lostMoves : List (Move (Device × Ledger)) :=
  lonelyStart 0 ++ List.replicate 15 (.work 0 0) ++
    [.own 0 (.dismiss 0), .own 0 .markShutDown, .own 0 .close] ++ List.replicate 8 (.work 0 0)

/-- A run in which the hub goes away while a factory compiles. -/
def lostRun : (p : Plant (Device × Ledger)) ×
    Run Device.compiler.audited (founded none ({}, {}) [{}]) p :=
  Run.start.along lostMoves

/-- Without a compilation that came to nothing, a miss can be without a pipeline. -/
theorem counters_lost : lostRun.2.Undrained 0 ∧ lostRun.1.Rests 0 ∧
    ¬ ∀ i g, (i, g) ∈ lostRun.2.sharing 0 →
      (lostRun.2.report i g).hits + (lostRun.2.report i g).misses =
        (lostRun.2.report i g).pipelines +
          if (lostRun.2.marks i g).getLast? = some .failed then 1 else 0 := by
  refine ⟨?_, rests_of_finished lostRun.2.orderly (by decide +kernel), ?_⟩
  · unfold lostRun
    apply Run.undrained_along
    · exact Run.undrained_start _ _
    · simp [lostMoves, lonelyStart, or_imp, forall_and]
  · intro hClaim
    exact absurd (hClaim 0 0 (by decide +kernel)) (by decide +kernel)

end Plant

end PipelineForge
