import PipelineForge.Characteristic.Standard
import PipelineForge.Proofs.Factory.Holdings
import PipelineForge.Proofs.Hub.Runs

/-!
# Ownership of pipelines

The compiler of a plant is audited: its ledger tells every pipeline that it returned and every one
that it was told to destroy. As long as the caches are not destroyed, every returned pipeline is
in the hands of its maker, in one place of one cache, or destroyed, and what is handed off is what
the cache holds. What becomes of the slots that take the pipelines is not looked at.
-/

namespace PipelineForge.Plant

open Factory (Event Keeps Serves State)
open Tasks (Mode TaskId)

variable {κ : Type}

def held (p : Plant κ) : List Pipeline :=
  p.hubs.flatMap fun h => h.pool.bodies.flatMap fun f => f.point.hand

/-- A pipeline with the factory that compiled it. -/
structure Make where
  hub : Nat
  factory : FactoryId
  pipeline : Pipeline

def makesOf (p : Plant (κ × Ledger)) (m : Move (κ × Ledger)) (q : Plant (κ × Ledger)) : List Make :=
  match m with
  | .work i j =>
    match p.worker? i j with
    | some f => (q.compiler.2.made.drop p.compiler.2.made.length).map (⟨i, f.id, ·⟩)
    | none => []
  | _ => []

namespace Run

variable {compiler : Compiler κ} {first : Plant (κ × Ledger)}

/-- All that was compiled in a run, the oldest first. -/
def makes : {p : Plant (κ × Ledger)} → Run compiler.audited first p → List Make
  | _, .start => []
  | q, @next _ _ _ p _ r m _ => r.makes ++ makesOf p m q

/-- The caches were not destroyed, and the compiler by itself left the ledger alone. -/
def Undisturbed : {p : Plant (κ × Ledger)} → Run compiler.audited first p → Prop
  | _, .start => True
  | _, @next _ _ _ p _ r m _ =>
    r.Undisturbed ∧
      match m with
      | .destroy _ => False
      | .compiler k => k.2 = p.compiler.2
      | _ => True

end Run

/-- What the books of a run tell about its plant. -/
structure Owned (p : Plant (κ × Ledger)) (makes : List Make) (dispatches : List Dispatch) :
    Prop where
  named : p.registry.Named
  keeps : ∀ i h t f m, p.hub? i = some h → h.pool.member? t = some (f, m) → Keeps p.registry f m
  count : ∀ q, p.compiler.2.made.count q =
    p.held.count q + p.registry.stored.count q + p.compiler.2.destroyed.count q
  made : makes.map Make.pipeline = p.compiler.2.made
  makers : ∀ i h t f m, p.hub? i = some h → h.pool.member? t = some (f, m) →
    ∀ q ∈ f.point.hand, ⟨i, f.id, q⟩ ∈ makes
  sent : ∀ d ∈ dispatches, ∀ f s q, d.event = .made f s q →
    ∃ id key, Serves d.sender id key ∧ p.registry.find? id key = some q

theorem count_held_set {p : Plant κ} {i : Nat} {h : Hub} (hHub : p.hub? i = some h) (h' : Hub)
    (q : Pipeline) :
    ((p.hubs.set i h').flatMap fun h => h.pool.bodies.flatMap fun f => f.point.hand).count q +
        (h.pool.bodies.flatMap fun f => f.point.hand).count q =
      p.held.count q + (h'.pool.bodies.flatMap fun f => f.point.hand).count q :=
  count_flatMap_set hHub h' (fun h => h.pool.bodies.flatMap fun f => f.point.hand) q

theorem held_perform {p : Plant κ} {i : Nat} {h : Hub} (hHub : p.hub? i = some h)
    (hOrderly : h.Orderly) (op : Hub.Op) (q : Pipeline) :
    (p.setHub i (h.perform op)).held.count q = p.held.count q := by
  have hBodies : (((h.perform op).pool.bodies.flatMap fun f => f.point.hand).count q) =
      (h.pool.bodies.flatMap fun f => f.point.hand).count q := by
    cases Hub.perform_change hOrderly op with
    | started key f hFactory hMembers hBodies hInboxes hOpen hPending hAdmits =>
      have hPoint : f.point = .resting := by rw [hOrderly.fresh key f hFactory]
      rw [hBodies, List.flatMap_append]
      simp [hPoint, Factory.Point.hand]
    | enrolled f hFresh hAlike => rw [hAlike.bodies]
    | registered f c hKnown hAlike => rw [hAlike.bodies]
    | closed f hKnown hAlike => rw [hAlike.bodies]
    | shed hAlike => rw [hAlike.bodies]
  have hCount := count_held_set hHub (h.perform op) q
  have hHeld : (p.setHub i (h.perform op)).held = (p.hubs.set i (h.perform op)).flatMap fun h =>
    h.pool.bodies.flatMap fun f => f.point.hand := rfl
  rw [hHeld]
  omega

theorem owned_founded (limit : Option Nat) (k : κ) (settings : List HubSettings) :
    (founded limit (k, ({} : Ledger)) settings).Owned [] [] := by
  have hNobody {i : Nat} {h : Hub} {t : TaskId} {f : Factory} {m : Mode State}
      (hHub : (founded limit (k, ({} : Ledger)) settings).hub? i = some h)
      (hMember : h.pool.member? t = some (f, m)) : False := by
    obtain ⟨s, rfl⟩ := founded_hub hHub
    rw [show ({ settings := s } : Hub).pool.member? t = none from rfl] at hMember
    cases hMember
  constructor
  · rfl
  · intro i h t f m hHub hMember
    exact (hNobody hHub hMember).elim
  · intro q
    have hHeld : (founded limit (k, ({} : Ledger)) settings).held = [] := by
      apply List.flatMap_eq_nil_iff.mpr
      intro h hMem
      obtain ⟨s, _, rfl⟩ := List.mem_map.mp hMem
      rfl
    rw [hHeld]
    rfl
  · rfl
  · intro i h t f m hHub hMember
    exact (hNobody hHub hMember).elim
  · intro d hd
    cases hd

variable {compiler : Compiler κ} {p p' : Plant (κ × Ledger)} {makes : List Make}
  {dispatches : List Dispatch}

/-- What the owner of a hub does moves no pipeline. -/
theorem Owned.own (h : p.Owned makes dispatches) {i : Nat} {hub : Hub} (hHub : p.hub? i = some hub)
    (hOrderly : hub.Orderly) (op : Hub.Op) :
    (p.setHub i (hub.perform op)).Owned makes dispatches := by
  -- A member is one that there was, or one with empty hands and no cache.
  have hMember {j : Nat} {g : Hub} {t : TaskId} {f : Factory} {m : Mode State}
      (hSome : (p.setHub i (hub.perform op)).hub? j = some g)
      (hMember : g.pool.member? t = some (f, m)) :
      (∃ g₀, p.hub? j = some g₀ ∧ g₀.pool.member? t = some (f, m)) ∨
        (f.point = .resting ∧ f.cache = none) := by
    rw [hub?_setHub p hHub] at hSome
    split at hSome
    · next hj =>
      subst hj
      cases hSome
      have hOld (hAlike : Hub.Alike hub (hub.perform op)) :
          ∃ g₀, p.hub? j = some g₀ ∧ g₀.pool.member? t = some (f, m) :=
        ⟨hub, hHub, hAlike.members t ▸ hMember⟩
      cases Hub.perform_change hOrderly op with
      | started key factory hFactory hMembers =>
        rw [hMembers] at hMember
        split at hMember
        · cases hMember
          rw [hOrderly.fresh key f hFactory]
          exact .inr ⟨rfl, rfl⟩
        · exact .inl ⟨hub, hHub, hMember⟩
      | enrolled f hFresh hAlike => exact .inl (hOld hAlike)
      | registered f c hKnown hAlike => exact .inl (hOld hAlike)
      | closed f hKnown hAlike => exact .inl (hOld hAlike)
      | shed hAlike => exact .inl (hOld hAlike)
    · exact .inl ⟨g, hSome, hMember⟩
  constructor
  · exact h.named
  · intro j g t f m hSome hIn
    rcases hMember hSome hIn with ⟨g₀, hBefore, hIn₀⟩ | ⟨hPoint, hCache⟩
    · exact h.keeps j g₀ t f m hBefore hIn₀
    · constructor
      · rw [hCache]
        exact nofun
      · rw [hPoint]
        exact fun _ => rfl
      · rw [hPoint]
        exact fun _ => trivial
  · intro q
    rw [held_perform hHub hOrderly op q]
    exact h.count q
  · exact h.made
  · intro j g t f m hSome hIn
    rcases hMember hSome hIn with ⟨g₀, hBefore, hIn₀⟩ | ⟨hPoint, _⟩
    · exact h.makers j g₀ t f m hBefore hIn₀
    · rw [hPoint]
      exact nofun
  · exact h.sent

theorem sent_served {hub : Nat} {w w' : Factory.Floor (κ × Ledger)} {f f' : Factory}
    {mode mode' : Mode State}
    (hPassage : Factory.Passage compiler.audited hub w f mode w' f' mode')
    (hKeeps : Keeps w.registry f mode) {g : FactoryId} {s : SlotId} {q : Pipeline}
    (hSent : Event.made g s q ∈ Factory.sentIn w w') :
    ∃ id key, Serves f id key ∧ w.registry.find? id key = some q := by
  rcases hPassage.sentIn_cases with hNone | ⟨p, hPoint, hMode, hMade⟩ | ⟨_, _, _, _, _, hEnded⟩
  · rw [hNone] at hSent
    cases hSent
  · rw [hMade] at hSent
    cases List.mem_singleton.mp hSent
    have hGrips := hKeeps.grips hMode
    rw [hPoint] at hGrips
    exact hGrips
  · rw [hEnded] at hSent
    cases List.mem_singleton.mp hSent

theorem Owned.works (h : p.Owned makes dispatches) (hCaches : compiler.LeavesCaches) {i j : Nat}
    {hub hub' : Hub} {w' : Factory.Floor (κ × Ledger)} {t : TaskId} {f f' : Factory}
    {mode mode' : Mode State}
    (hWorks : Works compiler.audited p i j p' hub hub' w' t f mode f' mode') :
    p'.Owned (makes ++ makesOf p (.work i j) p') (dispatches ++ dispatched p (.work i j) p') := by
  have hKeeps := h.keeps i hub t f mode hWorks.hub hWorks.member
  have hAudited := Compiler.audited_leavesCaches hCaches
  have hExtends := hWorks.passage.extends hAudited
  have hBalanced := hWorks.passage.balanced hCaches hKeeps
  have hRegistry : p'.registry = w'.registry := by rw [hWorks.after]
  have hLedger : p'.compiler = w'.compiler := by rw [hWorks.after]
  have hMakes : makesOf p (.work i j) p' =
      (Factory.newlyMade (p.floorOf hub) w').map (⟨i, f.id, ·⟩) := by
    simp only [makesOf, hWorks.worker, hLedger]
    rfl
  -- A member is the one that moved or one that there was.
  have hMember {k : Nat} {g : Hub} {u : TaskId} {e : Factory} {m : Mode State}
      (hSome : p'.hub? k = some g) (hIn : g.pool.member? u = some (e, m)) :
      (k = i ∧ e = f' ∧ m = mode') ∨
        ∃ g₀, p.hub? k = some g₀ ∧ g₀.pool.member? u = some (e, m) := by
    rw [hWorks.hub?] at hSome
    split at hSome
    · next hk =>
      cases hSome
      rw [hWorks.members] at hIn
      split at hIn
      · cases hIn
        exact .inl ⟨hk, rfl, rfl⟩
      · exact .inr ⟨hub, hk ▸ hWorks.hub, hIn⟩
    · exact .inr ⟨g, hSome, hIn⟩
  constructor
  · rw [hRegistry]
    exact hWorks.passage.named hAudited h.named
  · intro k g u e m hSome hIn
    rw [hRegistry]
    rcases hMember hSome hIn with ⟨_, rfl, rfl⟩ | ⟨g₀, hBefore, hIn₀⟩
    · exact hWorks.passage.keeps hAudited h.named hKeeps
    · exact (h.keeps k g₀ u e m hBefore hIn₀).extend hExtends
  · intro q
    have hBody : hub.pool.bodies[t]? = some f := by
      rw [Tasks.Pool.bodies_getElem?, hWorks.member]
      rfl
    have hHand := count_flatMap_set hBody f' (fun f => f.point.hand) q
    have hHubs := count_held_set hWorks.hub hub' q
    have hHeld : p'.held = (p.hubs.set i hub').flatMap fun h =>
        h.pool.bodies.flatMap fun f => f.point.hand := by rw [hWorks.after]; rfl
    have hBefore := h.count q
    have hBalance := hBalanced.count q
    rw [hWorks.bodies] at hHubs
    rw [hHeld, hLedger, hRegistry]
    simp only [Factory.places, floorOf] at hBalance
    omega
  · rw [List.map_append, h.made, hMakes, List.map_map, hLedger, hBalanced.made]
    exact congrArg (p.compiler.2.made ++ ·) (List.map_id _)
  · intro k g u e m hSome hIn q hq
    rcases hMember hSome hIn with ⟨rfl, rfl, rfl⟩ | ⟨g₀, hBefore, hIn₀⟩
    · rw [hWorks.passage.identity.1]
      rcases hBalanced.hand q hq with hOld | hNew
      · exact List.mem_append_left _ (h.makers k hub t f mode hWorks.hub hWorks.member q hOld)
      · rw [hMakes]
        exact List.mem_append_right _ (List.mem_map_of_mem hNew)
    · exact List.mem_append_left _ (h.makers k g₀ u e m hBefore hIn₀ q hq)
  · intro d hd g s q hEvent
    rw [hRegistry]
    rcases List.mem_append.mp hd with hOld | hNew
    · obtain ⟨id, key, hServes, hFind⟩ := h.sent d hOld g s q hEvent
      exact ⟨id, key, hServes, hExtends.find id key q hFind⟩
    · rw [hWorks.dispatched] at hNew
      obtain ⟨e, he, rfl⟩ := List.mem_map.mp hNew
      obtain rfl : e = .made g s q := hEvent
      obtain ⟨id, key, hServes, hFind⟩ := sent_served hWorks.passage hKeeps he
      exact ⟨id, key, hServes, hExtends.find id key q hFind⟩

/-- As long as nobody destroys the caches, the books stay right. -/
theorem Run.owned (hCaches : compiler.LeavesCaches) {limit : Option Nat} {k : κ}
    {settings : List HubSettings}
    (r : Run compiler.audited (founded limit (k, ({} : Ledger)) settings) p)
    (hQuiet : r.Undisturbed) : p.Owned r.makes r.dispatches := by
  induction r with
  | start => exact owned_founded limit k settings
  | @next p p' r m hMove ih =>
    obtain ⟨hBefore, hMoveQuiet⟩ := hQuiet
    have hOwned := ih hBefore
    have hOrderly := r.orderly
    cases m with
    | own i op =>
      obtain ⟨h, hHub, _, rfl⟩ := move_own hMove
      have hAfter := hOwned.own hHub (hOrderly i h hHub) op
      simp only [Run.makes, Run.dispatches, makesOf, dispatched, List.append_nil]
      exact hAfter
    | work i j =>
      obtain ⟨h, h', w', t, f, mode, f', mode', hWorks⟩ := step_works hOrderly.sound hMove
      exact hOwned.works hCaches hWorks
    | compiler k =>
      cases hMove
      have hLedger : k.2 = p.compiler.2 := hMoveQuiet
      simp only [Run.makes, Run.dispatches, makesOf, dispatched, List.append_nil]
      refine ⟨hOwned.named, hOwned.keeps, ?_, ?_, hOwned.makers, hOwned.sent⟩
      · simp only [hLedger]
        exact hOwned.count
      · simp only [hLedger]
        exact hOwned.made
    | destroy i => exact hMoveQuiet.elim

/-- The handles in the hands of factories, those in the caches, and those destroyed. -/
def whereabouts (p : Plant (κ × Ledger)) : List UInt64 :=
  (p.held ++ p.registry.stored ++ p.compiler.2.destroyed).map Pipeline.handle

theorem Owned.whereabouts (h : p.Owned makes dispatches) :
    p.whereabouts.Perm (makes.map fun m => m.pipeline.handle) := by
  have hPipelines :
      (p.held ++ p.registry.stored ++ p.compiler.2.destroyed).Perm p.compiler.2.made := by
    apply List.perm_iff_count.mpr
    intro q
    rw [List.count_append, List.count_append, h.count q]
  have hHandles := hPipelines.map Pipeline.handle
  rw [← h.made, List.map_map] at hHandles
  exact hHandles

theorem Owned.held_eq_nil (h : p.Owned makes dispatches)
    (hSound : ∀ i h, p.hub? i = some h → h.pool.Sound)
    (hEnded : ∀ i h, p.hub? i = some h → ∀ t < h.pool.cells.length, h.pool.isFinished t = true) :
    p.held = [] := by
  apply List.flatMap_eq_nil_iff.mpr
  intro hub hHubMem
  obtain ⟨i, hHub⟩ := List.mem_iff_getElem?.mp hHubMem
  have hHub : p.hub? i = some hub := hHub
  apply List.flatMap_eq_nil_iff.mpr
  intro f hBody
  obtain ⟨c, hCellMem, rfl⟩ := List.mem_map.mp hBody
  obtain ⟨t, hCell⟩ := List.mem_iff_getElem?.mp hCellMem
  have hCell : hub.pool.cell? t = some c := hCell
  have hMember := Tasks.Pool.member?_of_cell hCell
  have hFinished := hEnded i hub hHub t (List.getElem?_eq_some_iff.mp hCell).1
  rw [(hSound i hub hHub).left_of_finished hFinished hMember] at hMember
  exact (h.keeps i hub t c.body .left hHub hMember).empty (by simp)

/-- The pipelines of factories that share caches, if every pipeline has a handle of its own. At
each moment a compiled pipeline is in one place: with the factory that compiled it, in one place of
one cache, or destroyed once. What was sent is stored and was never destroyed, and is the same for
all who serve the same key of the same cache. When all factories have ended, destroying the caches
destroys every pipeline that was not destroyed yet. -/
theorem pipelines_owned_once (hCaches : compiler.LeavesCaches) {limit : Option Nat} {k : κ}
    {settings : List HubSettings}
    (r : Run compiler.audited (founded limit (k, ({} : Ledger)) settings) p)
    (hQuiet : r.Undisturbed) (hFresh : (r.makes.map fun m => m.pipeline.handle).Nodup) :
    (∀ m ∈ r.makes, p.whereabouts.count m.pipeline.handle = 1) ∧
    (∀ i h t f mode, p.hub? i = some h → h.pool.member? t = some (f, mode) →
      ∀ q ∈ f.point.hand, ⟨i, f.id, q⟩ ∈ r.makes ∧
        ∀ m ∈ r.makes, m.pipeline.handle = q.handle → m = ⟨i, f.id, q⟩) ∧
    (∀ d ∈ r.dispatches, ∀ f s q, d.event = .made f s q →
      (∃ id key, Serves d.sender id key ∧ p.registry.find? id key = some q) ∧
        q.handle ∉ p.compiler.2.destroyed.map Pipeline.handle) ∧
    (∀ d ∈ r.dispatches, ∀ e ∈ r.dispatches, ∀ f g s t q₁ q₂ id key,
      d.event = .made f s q₁ → e.event = .made g t q₂ →
        Serves d.sender id key → Serves e.sender id key → q₁.handle = q₂.handle) ∧
    ((∀ i h, p.hub? i = some h → ∀ t < h.pool.cells.length, h.pool.isFinished t = true) →
      ∀ i, ∀ m ∈ r.makes,
        ((p.destroyCaches compiler.audited i).1.compiler.2.destroyed.map Pipeline.handle).count
          m.pipeline.handle = 1) := by
  have hOwned := r.owned hCaches hQuiet
  have hPerm := hOwned.whereabouts
  have hOnce (m : Make) (hm : m ∈ r.makes) : p.whereabouts.count m.pipeline.handle = 1 := by
    rw [hPerm.count_eq]
    exact List.count_eq_one_of_mem hFresh (List.mem_map.mpr ⟨m, hm, rfl⟩)
  refine ⟨hOnce, ?_, ?_, ?_, ?_⟩
  · intro i h t f mode hHub hMember q hq
    have hMake := hOwned.makers i h t f mode hHub hMember q hq
    refine ⟨hMake, ?_⟩
    intro m hm hHandle
    exact List.inj_on_of_nodup_map hFresh hm hMake hHandle
  · intro d hd f s q hEvent
    obtain ⟨id, key, hServes, hFind⟩ := hOwned.sent d hd f s q hEvent
    refine ⟨⟨id, key, hServes, hFind⟩, ?_⟩
    -- Stored and destroyed would be two places.
    intro hDestroyed
    have hStored : q.handle ∈ p.registry.stored.map Pipeline.handle :=
      List.mem_map_of_mem (Registry.mem_stored hFind)
    have hDistinct : p.whereabouts.Nodup := hPerm.nodup_iff.mpr hFresh
    rw [Plant.whereabouts, List.map_append, List.map_append] at hDistinct
    have hApart := List.disjoint_of_nodup_append hDistinct
    exact hApart (List.mem_append_right _ hStored) hDestroyed
  · intro d hd e he f g s t q₁ q₂ id key hFirst hSecond hServes hServes'
    obtain ⟨id₁, key₁, hServes₁, hFind₁⟩ := hOwned.sent d hd f s q₁ hFirst
    obtain ⟨id₂, key₂, hServes₂, hFind₂⟩ := hOwned.sent e he g t q₂ hSecond
    obtain ⟨rfl, rfl⟩ := hServes₁.unique hServes
    obtain ⟨rfl, rfl⟩ := hServes₂.unique hServes'
    rw [Option.some.inj (hFind₁.symm.trans hFind₂)]
  · intro hEnded i m hm
    have hHeld := hOwned.held_eq_nil r.orderly.sound hEnded
    have hOnce := hOnce m hm
    have hDestroyed : (p.destroyCaches compiler.audited i).1.compiler.2.destroyed =
        p.compiler.2.destroyed ++ p.registry.stored := by
      rw [← hOwned.named.destroy]
      exact congrArg Ledger.destroyed (Compiler.audited_destroyAll p.compiler i _)
    rw [Plant.whereabouts, hHeld, List.nil_append, List.map_append, List.count_append] at hOnce
    rw [hDestroyed, List.map_append, List.count_append, Nat.add_comm]
    exact hOnce

theorem Run.undisturbed_start (first : Plant (κ × Ledger)) :
    (Run.start : Run compiler.audited first first).Undisturbed := by rw [Undisturbed]; trivial

theorem Run.undisturbed_along {first : Plant (κ × Ledger)} (r : Run compiler.audited first p)
    (hQuiet : r.Undisturbed) {ms : List (Move (κ × Ledger))}
    (hMoves : ∀ m ∈ ms, (∃ i op, m = .own i op) ∨ ∃ i j, m = .work i j) :
    (r.along ms).2.Undisturbed := by
  induction ms generalizing p with
  | nil => exact hQuiet
  | cons m ms ih =>
    rw [Run.along]
    split
    · next p' hMove =>
      apply ih
      · refine ⟨hQuiet, ?_⟩
        rcases hMoves m List.mem_cons_self with ⟨i, op, rfl⟩ | ⟨i, j, rfl⟩
        · trivial
        · trivial
      · intro m' hm'
        exact hMoves m' (List.mem_cons_of_mem m hm')
    · exact hQuiet

/-- The owner of a hub starts a factory with one combination. -/
def lonelyStart (i : Nat) : List (Move (Device × Ledger)) :=
  [.own i .createSlot,
    .own i (.createFactory "lit" "main" 0),
    .own i (.register 0 (.ofSetup "program" fun _ => Standard.setupProgram "program" [] 7 [])),
    .own i (.closeInbox 0),
    .own i (.start 0)]

def raceMoves : List (Move (Device × Ledger)) :=
  lonelyStart 0 ++ lonelyStart 1 ++ List.replicate 15 (.work 0 0) ++
    List.replicate 32 (.work 1 0) ++ List.replicate 18 (.work 0 0)

/-- A run in which a factory compiles and is then overtaken by another one with the same key. -/
def raceRun : (p : Plant (Device × Ledger)) ×
    Run Device.compiler.audited (founded none ({}, {}) [{}, {}]) p :=
  Run.start.along raceMoves

/-- The overtaken factory destroys its own pipeline, and the registry destroys the other one. -/
theorem pipelines_owned_once_race :
    (raceRun.2.makes.map fun m => m.pipeline.handle) = [1001, 1002] ∧
    (∀ m ∈ raceRun.2.makes, raceRun.1.whereabouts.count m.pipeline.handle = 1) ∧
    raceRun.1.compiler.2.destroyed.map Pipeline.handle = [1001] ∧
    ∀ m ∈ raceRun.2.makes,
      ((raceRun.1.destroyCaches Device.compiler.audited 0).1.compiler.2.destroyed.map
        Pipeline.handle).count m.pipeline.handle = 1 := by
  have hMoves : ∀ m ∈ raceMoves, (∃ i op, m = .own i op) ∨ ∃ i j, m = .work i j := by
    simp [raceMoves, lonelyStart, or_imp, forall_and]
  have hQuiet : raceRun.2.Undisturbed := by
    unfold raceRun
    apply Run.undisturbed_along
    · exact Run.undisturbed_start _
    · exact hMoves
  have hMakes : (raceRun.2.makes.map fun m => m.pipeline.handle) = [1001, 1002] := by
    decide +kernel
  have hFresh : (raceRun.2.makes.map fun m => m.pipeline.handle).Nodup := by
    rw [hMakes]
    decide
  obtain ⟨hOnce, _, _, _, hDestroyed⟩ :=
    pipelines_owned_once Device.leavesCaches raceRun.2 hQuiet hFresh
  have hEnded : ∀ h ∈ raceRun.1.hubs, ∀ t < h.pool.cells.length, h.pool.isFinished t = true := by
    decide +kernel
  refine ⟨hMakes, hOnce, by decide +kernel, ?_⟩
  exact hDestroyed (fun i h hHub => hEnded h (List.mem_of_getElem? hHub)) 0

end PipelineForge.Plant
