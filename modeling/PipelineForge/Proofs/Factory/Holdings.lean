import PipelineForge.Proofs.Cache.Stored
import PipelineForge.Proofs.Compiler.Conduct
import PipelineForge.Proofs.Factory.Passages

/-!
# Holdings of factories

Between compiling a pipeline and storing or destroying it, a factory holds it in its hands. What
it hands off is always what the cache holds under the key that it serves. No passage loses a
pipeline or doubles it.
-/

namespace PipelineForge.Factory

open Tasks (Mode Reply)

/-- The pipelines that a factory compiled and has neither stored nor destroyed. -/
def Point.hand : Point → List Pipeline
  | .storing _ p => [p]
  | .discarding own _ => [own]
  | _ => []

/-- A factory that makes the pipeline for a key of a cache. -/
def Serves (f : Factory) (id : CacheId) (key : CacheKey) : Prop :=
  f.cache = some id ∧ ∃ plan o, f.plan = some plan ∧ orderOf f plan = .ok o ∧ o.key = key

theorem Serves.unique {f : Factory} {id id' : CacheId} {key key' : CacheKey}
    (h : Serves f id key) (h' : Serves f id' key') : id = id' ∧ key = key' := by
  obtain ⟨hCache, plan, o, hPlan, hOrder, rfl⟩ := h
  obtain ⟨hCache', plan', o', hPlan', hOrder', rfl⟩ := h'
  obtain rfl := Option.some.inj (hPlan.symm.trans hPlan')
  exact ⟨Option.some.inj (hCache.symm.trans hCache'),
    congrArg CompileOrder.key (Except.ok.inj (hOrder.symm.trans hOrder'))⟩

/-- What a factory at work knows about the cache. -/
def Grips (r : Registry) (f : Factory) : Point → Prop
  | .ordering o => ∃ id, Serves f id o.key
  | .compiling _ o => ∃ id, Serves f id o.key
  | .storing key _ => ∃ id, Serves f id key
  | .discarding _ kept => ∃ id key, Serves f id key ∧ r.find? id key = some kept
  | .handingOff p => ∃ id key, Serves f id key ∧ r.find? id key = some p
  | _ => True

structure Keeps (r : Registry) (f : Factory) (mode : Mode State) : Prop where
  known : ∀ id, f.cache = some id → id < r.caches.length
  empty : mode ≠ .working → f.point.hand = []
  grips : mode = .working → Grips r f f.point

theorem Grips.extend {r r' : Registry} {f : Factory} {point : Point} (h : Grips r f point)
    (hExtends : r.Extends r') : Grips r' f point := by
  cases point with
  | discarding own kept =>
    obtain ⟨id, key, hServes, hFind⟩ := h
    exact ⟨id, key, hServes, hExtends.find id key kept hFind⟩
  | handingOff p =>
    obtain ⟨id, key, hServes, hFind⟩ := h
    exact ⟨id, key, hServes, hExtends.find id key p hFind⟩
  | _ => exact h

theorem Keeps.extend {r r' : Registry} {f : Factory} {mode : Mode State} (h : Keeps r f mode)
    (hExtends : r.Extends r') : Keeps r' f mode :=
  ⟨fun id hCache => Nat.lt_of_lt_of_le (h.known id hCache) hExtends.size, h.empty,
    fun hMode => (h.grips hMode).extend hExtends⟩

section Passages

variable {κ : Type} {compiler : Compiler κ} {hub : Nat} {w w' : Floor κ} {f f' : Factory}
  {mode mode' : Mode State} {reply : Reply State}

theorem Passage.extends (h : Passage compiler hub w f mode w' f' mode')
    (hCaches : compiler.LeavesCaches) : w.registry.Extends w'.registry := by
  cases h.handles hCaches with
  | same hSame => exact hSame ▸ .refl _
  | looked id key hLookup => exact hLookup ▸ Registry.extends_lookup _ id key
  | acquired name id hAcquire => exact Registry.extends_acquire hAcquire
  | stored id key p hMode hPoint hStore => exact hStore ▸ Registry.extends_store _ id key p

theorem Passage.named (h : Passage compiler hub w f mode w' f' mode')
    (hCaches : compiler.LeavesCaches) (hNamed : w.registry.Named) : w'.registry.Named := by
  cases h.handles hCaches with
  | same hSame => exact hSame ▸ hNamed
  | looked id key hLookup => exact hLookup ▸ hNamed.onCache id none (·.lookup key)
  | acquired name id hAcquire => exact hNamed.acquire hAcquire
  | stored id key p hMode hPoint hStore =>
    exact hStore ▸ hNamed.onCache id Stored.inserted (·.store key p)

/-- What a turn leaves to the factory: no hands full unless it goes on, and a grip if it does. -/
theorem Turn.grips (h : Turn compiler hub w f w' f' reply) (hKeeps : Keeps w.registry f .working) :
    Grips w'.registry f' f'.point ∧ (reply.mode ≠ .working → f'.point.hand = []) := by
  have hGrips := hKeeps.grips rfl
  cases h with
  | missed plan o id registry hPoint hState hPlan hShown hOrder hCache hLookup =>
    exact ⟨⟨id, hCache, plan, o, hPlan, hOrder, rfl⟩, fun _ => rfl⟩
  | hit plan o id registry p hPoint hState hPlan hShown hOrder hCache hLookup =>
    exact ⟨⟨id, o.key, ⟨hCache, plan, o, hPlan, hOrder, rfl⟩, Registry.lookup_found hLookup⟩,
      fun _ => rfl⟩
  | ordered _ _ _ hPoint | discarded _ _ hPoint =>
    rw [hPoint] at hGrips
    exact ⟨hGrips, fun _ => rfl⟩
  | built ticket o k registry p hPoint hAnswer =>
    rw [hPoint] at hGrips
    exact ⟨hGrips, fun hMode => absurd rfl hMode⟩
  | crashed ticket o k registry text hPoint hAnswer =>
    rw [hPoint] at hGrips ⊢
    exact ⟨hGrips, fun _ => rfl⟩
  | stored key p id registry hPoint hCache hStore =>
    rw [hPoint] at hGrips
    obtain ⟨id', hServes⟩ := hGrips
    obtain rfl : id' = id := Option.some.inj (hServes.1.symm.trans hCache)
    refine ⟨⟨id', key, hServes, ?_⟩, fun _ => rfl⟩
    exact (Registry.store_inserted (hKeeps.known id' hCache) hStore).1
  | outrun key p kept id registry hPoint hCache hStore =>
    rw [hPoint] at hGrips
    obtain ⟨id', hServes⟩ := hGrips
    obtain rfl : id' = id := Option.some.inj (hServes.1.symm.trans hCache)
    refine ⟨⟨id', key, hServes, (Registry.store_existing hStore).1⟩, fun hMode => absurd rfl hMode⟩
  | broken x hPoint hState hSetup =>
    rw [show (Factory.equipped w f).point = .entering from hPoint]
    exact ⟨trivial, fun _ => rfl⟩
  | tooMany _ hPoint | misfilled _ hPoint =>
    rw [hPoint]
    exact ⟨trivial, fun _ => rfl⟩
  | idle hPoint =>
    rcases hPoint with hPoint | ⟨failure, hPoint⟩ | hPoint
    · rw [hPoint]
      exact ⟨trivial, fun _ => rfl⟩
    · rw [hPoint]
      exact ⟨trivial, fun _ => rfl⟩
    · rw [hPoint]
      exact ⟨trivial, fun _ => rfl⟩
  | _ => exact ⟨trivial, fun _ => rfl⟩

theorem Passage.keeps (h : Passage compiler hub w f mode w' f' mode')
    (hCaches : compiler.LeavesCaches) (hNamed : w.registry.Named)
    (hKeeps : Keeps w.registry f mode) : Keeps w'.registry f' mode' := by
  have hExtends := h.extends hCaches
  have hKnown (g : Factory) (hCache : g.cache = f.cache) (id : CacheId)
      (hSome : g.cache = some id) :
      id < w'.registry.caches.length :=
    Nat.lt_of_lt_of_le (hKeeps.known id (hCache ▸ hSome)) hExtends.size
  cases h with
  | still => exact hKeeps
  | entered s => exact ⟨hKnown _ rfl, fun _ => rfl, fun _ => trivial⟩
  | stopped s => exact ⟨hKnown _ rfl, fun _ => hKeeps.empty nofun, nofun⟩
  | turned hTurn =>
    obtain ⟨hGrips, hEmpty⟩ := hTurn.grips hKeeps
    refine ⟨?_, hEmpty, fun _ => hGrips⟩
    cases hTurn with
    | acquired registry id hPoint hAcquire =>
      intro k hSome
      cases hSome
      exact hNamed.known hAcquire
    | _ => exact hKnown _ rfl
  | told outcome => exact ⟨hKnown _ rfl, fun _ => rfl, nofun⟩
  | reported failure hPoint => exact ⟨nofun, fun _ => rfl, nofun⟩
  | signedOff hPoint => exact ⟨hKnown _ rfl, fun _ => rfl, nofun⟩

end Passages

section Balance

variable {κ : Type} {compiler : Compiler κ} {hub : Nat} {w w' : Floor (κ × Ledger)}
  {f f' : Factory} {mode mode' : Mode State} {reply : Reply State}

def places (w : Floor (κ × Ledger)) (f : Factory) (q : Pipeline) : Nat :=
  f.point.hand.count q + w.registry.stored.count q + w.compiler.2.destroyed.count q

def newlyMade (w w' : Floor (κ × Ledger)) : List Pipeline :=
  w'.compiler.2.made.drop w.compiler.2.made.length

/-- A passage in whose books and hands nothing is lost or doubled. -/
structure Balanced (w : Floor (κ × Ledger)) (f : Factory) (w' : Floor (κ × Ledger))
    (f' : Factory) : Prop where
  made : w'.compiler.2.made = w.compiler.2.made ++ newlyMade w w'
  hand : ∀ q ∈ f'.point.hand, q ∈ f.point.hand ∨ q ∈ newlyMade w w'
  count : ∀ q, w'.compiler.2.made.count q + places w f q =
    w.compiler.2.made.count q + places w' f' q

theorem Balanced.of_same (hLedger : w'.compiler.2 = w.compiler.2)
    (hStored : ∀ q, w'.registry.stored.count q = w.registry.stored.count q)
    (hHand : f'.point.hand = f.point.hand) : Balanced w f w' f' := by
  constructor
  · simp [newlyMade, hLedger]
  · intro q hq
    exact .inl (hHand ▸ hq)
  · intro q
    simp only [places, hLedger, hStored, hHand]

theorem Turn.balanced (h : Turn compiler.audited hub w f w' f' reply)
    (hCaches : compiler.LeavesCaches) (hKeeps : Keeps w.registry f .working) :
    Balanced w f w' f' := by
  have hCaches := Compiler.audited_leavesCaches hCaches
  have hEmpty {point : Point} (hPoint : f.point = point) (hNone : point.hand = []) :
      [] = f.point.hand := by rw [hPoint, hNone]
  cases h with
  | doomed _ hPoint | started hPoint | equipped hPoint | unequipped _ hPoint | again hPoint
  | waiting hPoint | tooWide _ hPoint | planned _ hPoint | unplanned hPoint
  | exhausted _ hPoint | unfilled _ _ hPoint | evicted _ hPoint | finished hPoint
  | unacquired _ hPoint | sent _ hPoint | unsent _ hPoint =>
    exact .of_same rfl (fun _ => rfl) (hEmpty hPoint rfl)
  | broken | tooMany | misfilled | idle => exact .of_same rfl (fun _ => rfl) rfl
  | hit _ o id _ _ hPoint _ _ _ _ _ hLookup | missed _ o id _ hPoint _ _ _ _ _ hLookup =>
    refine .of_same rfl ?_ (hEmpty hPoint rfl)
    intro q
    rw [← Registry.count_stored_lookup w.registry id o.key q, hLookup]
  | acquired registry id hPoint hAcquire =>
    exact .of_same rfl (fun _ => by rw [Registry.stored_acquire hAcquire]) (hEmpty hPoint rfl)
  | ordered o k ticket hPoint hAccept =>
    exact .of_same (Compiler.audited_accept hAccept) (fun _ => rfl) (hEmpty hPoint rfl)
  | built ticket o k registry p hPoint hAnswer =>
    obtain ⟨hMade, hDestroyed⟩ := Compiler.audited_answer hAnswer
    have hMade : k.2.made = w.compiler.2.made ++ [p] := hMade
    have hRegistry : registry = w.registry := hCaches.eq hAnswer
    constructor
    · simp [newlyMade, hMade]
    · intro q hq
      obtain rfl : q = p := List.mem_singleton.mp hq
      exact .inr (by simp [newlyMade, hMade])
    · intro q
      simp only [places, hMade, hDestroyed, hRegistry, hPoint, turnedTo, Point.hand,
        List.count_append, List.count_nil]
      omega
  | refused ticket o k registry causes hPoint hAnswer =>
    refine .of_same (Compiler.audited_answer_none hAnswer rfl) ?_ (hEmpty hPoint rfl)
    intro q
    rw [hCaches.eq hAnswer]
  | crashed ticket o k registry text hPoint hAnswer =>
    refine .of_same (Compiler.audited_answer_none hAnswer rfl) ?_ rfl
    intro q
    rw [hCaches.eq hAnswer]
  | unstored key p hPoint hCache =>
    have hGrips := hKeeps.grips rfl
    rw [hPoint] at hGrips
    obtain ⟨id, hServes⟩ := hGrips
    rw [hServes.1] at hCache
    cases hCache
  | stored key p id registry hPoint hCache hStore =>
    have hCount := (Registry.store_inserted (hKeeps.known id hCache) hStore).2
    constructor
    · simp [newlyMade]
    · exact nofun
    · intro q
      simp only [places, hPoint, turnedTo, Point.hand, hCount, List.count_nil]
      omega
  | outrun key p kept id registry hPoint hCache hStore =>
    refine .of_same rfl ?_ ?_
    · intro q
      rw [(Registry.store_existing hStore).2]
    · rw [hPoint]
      rfl
  | discarded own kept hPoint =>
    have hDestroyed : (compiler.audited.destroy w.compiler hub own).2.destroyed =
        w.compiler.2.destroyed ++ [own] := rfl
    have hMade : (compiler.audited.destroy w.compiler hub own).2.made = w.compiler.2.made := rfl
    constructor
    · simp [newlyMade, hMade]
    · exact nofun
    · intro q
      simp only [places, hPoint, turnedTo, Point.hand, hDestroyed, hMade, List.count_append,
        List.count_nil]
      omega

theorem Passage.balanced (h : Passage compiler.audited hub w f mode w' f' mode')
    (hCaches : compiler.LeavesCaches) (hKeeps : Keeps w.registry f mode) :
    Balanced w f w' f' := by
  cases h with
  | still => exact .of_same rfl (fun _ => rfl) rfl
  | entered s => exact .of_same rfl (fun _ => rfl) (hKeeps.empty nofun).symm
  | stopped s => exact .of_same rfl (fun _ => rfl) rfl
  | turned hTurn => exact hTurn.balanced hCaches hKeeps
  | told outcome => exact .of_same rfl (fun _ => rfl) (hKeeps.empty nofun).symm
  | reported failure hPoint => exact .of_same rfl (fun _ => rfl) (hKeeps.empty nofun).symm
  | signedOff hPoint => exact .of_same rfl (fun _ => rfl) (hKeeps.empty nofun).symm

end Balance

end PipelineForge.Factory
