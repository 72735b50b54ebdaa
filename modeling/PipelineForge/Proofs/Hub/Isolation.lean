import PipelineForge.Proofs.Hub.Erasure
import PipelineForge.Proofs.Hub.Statuses

/-!
# Isolation of hubs

Hubs with compilers of their own that name their caches differently do not observe each other,
although they share a registry. Whatever the other hubs do in between, a hub comes to the state that
its own operations and steps alone would have led to, except for the numbers of its caches.
-/

namespace PipelineForge

open Factory (Doubles Floor Resembles State)
open Registry (Mirrors)
open Tasks (Mode TaskId)

/-- What a factory is about to order. -/
def Factory.Point.order? : Factory.Point → Option CompileOrder
  | .ordering o => some o
  | _ => none

namespace Hub

def ordering? (h : Hub) (j : Nat) : Option CompileOrder :=
  (h.pool.jobs[j]?).bind fun job =>
    if job.phase = .handling then (h.pool.cell? job.task).bind fun c => c.body.point.order?
    else none

theorem ordering?_erase (h : Hub) (j : Nat) : h.erase.ordering? j = h.ordering? j := by
  simp only [ordering?, erase, Tasks.Pool.jobs_view, Tasks.Pool.cell?_view, Option.bind_map]
  rfl

def Op.cacheName? (h : Hub) : Op → Option String
  | .createFactory _ cacheName slot => if (h.slot? slot).isSome then some cacheName else none
  | _ => none

variable {h : Hub}

theorem pending_perform (hOrderly : h.Orderly) (op : Op) {g : FactoryId} {f : Factory}
    (hPending : (h.perform op).pending? g = some f) :
    h.pending? g = some f ∨ op.cacheName? h = some f.cacheName := by
  cases perform_turnover hOrderly op g with
  | kept _ hKept => exact .inl (hKept ▸ hPending)
  | ended _ _ _ _ _ _ _ _ _ hKept => exact .inl (hKept ▸ hPending)
  | started _ _ _ hNone =>
    rw [hNone] at hPending
    cases hPending
  | dismissed _ _ _ hNone =>
    rw [hNone] at hPending
    cases hPending
  | dropped _ _ hNone =>
    rw [hNone] at hPending
    cases hPending
  | enrolled name cacheName slot hOp hNew _ _ =>
    subst hOp hNew
    rw [perform_createFactory] at hPending
    split at hPending
    · exact .inl hPending
    · next hSlot =>
      refine .inr ?_
      rw [pending?, entry?_withNewcomer hOrderly, if_pos rfl] at hPending
      cases hPending
      have hSome : (h.slot? slot).isSome = true := by simpa [Option.isSome_iff_ne_none] using hSlot
      rw [Op.cacheName?, if_pos hSome]
      rfl

end Hub

namespace Plant

section Logs

variable {κ : Type} {compiler : Compiler κ} {first p : Plant κ}

def Move.hub? : Move κ → Option Nat
  | .own k _ | .work k _ => some k
  | _ => none

def cacheUse (p : Plant κ) : Move κ → List (Nat × String)
  | .own k op => ((p.hub? k).bind op.cacheName?).toList.map (k, ·)
  | _ => []

/-- What a hub orders from the compiler when a move is made. -/
def orders (p : Plant κ) (i : Nat) : Move κ → List CompileOrder
  | .work k j => if k = i then ((p.hub? i).bind (·.ordering? j)).toList else []
  | _ => []

theorem orders_of_ne {i k : Nat} {m : Move κ} (hMover : m.hub? = some k) (hOther : k ≠ i) :
    p.orders i m = [] := by
  cases m with
  | work k' j =>
    obtain rfl : k' = k := Option.some.inj hMover
    exact if_neg hOther
  | _ => rfl

namespace Run

/-- The names of the caches that the factories of each hub were given, in order. -/
def cacheUses : {p : Plant κ} → Run compiler first p → List (Nat × String)
  | _, .start => []
  | _, @next _ _ _ p _ r m _ => r.cacheUses ++ p.cacheUse m

def orders (i : Nat) : {p : Plant κ} → Run compiler first p → List CompileOrder
  | _, .start => []
  | _, @next _ _ _ p _ r m _ => r.orders i ++ p.orders i m

end Run

end Logs

section Furnished

variable {κ : Type} {compiler : Compiler κ} {p p' : Plant κ} {uses : List (Nat × String)}

/-- Every factory has the cache of its name, if it has one, and its name is known. -/
structure Furnished (p : Plant κ) (uses : List (Nat × String)) : Prop where
  boundless : p.registry.Boundless
  member : ∀ i h t f m, p.hub? i = some h → h.pool.member? t = some (f, m) →
    (i, f.cacheName) ∈ uses ∧ f.Holds p.registry
  pending : ∀ i h g f, p.hub? i = some h → h.pending? g = some f → (i, f.cacheName) ∈ uses

theorem furnished_founded (k : κ) (settings : List HubSettings) :
    (founded none k settings).Furnished [] := by
  constructor
  · exact ⟨rfl, rfl⟩
  · intro i h t f m hHub hMember
    obtain ⟨s, rfl⟩ := founded_hub hHub
    cases hMember
  · intro i h g f hHub hPending
    obtain ⟨s, rfl⟩ := founded_hub hHub
    cases hPending

theorem Furnished.own (hFurnished : p.Furnished uses) (hOrderly : p.Orderly) {k : Nat} {op : Hub.Op}
    (hMove : p.move compiler (.own k op) = some p') :
    p'.Furnished (uses ++ p.cacheUse (.own k op)) := by
  obtain ⟨h, hHub, _, rfl⟩ := move_own hMove
  have hOrderly := hOrderly k h hHub
  constructor
  · exact hFurnished.boundless
  · intro i g t f m hG hMember
    rw [hub?_setHub p hHub] at hG
    split at hG
    · next hi =>
      subst hi
      cases hG
      rcases Hub.member_perform hOrderly op hMember with hOld | ⟨hPending, _⟩
      · exact (hFurnished.member i h t f m hHub hOld).imp_left (List.mem_append_left _)
      · refine ⟨List.mem_append_left _ (hFurnished.pending i h f.id f hHub hPending), ?_⟩
        -- A factory that was not started has no cache.
        rw [hOrderly.fresh f.id f hPending]
        exact nofun
    · exact (hFurnished.member i g t f m hG hMember).imp_left (List.mem_append_left _)
  · intro i g key f hG hPending
    rw [hub?_setHub p hHub] at hG
    split at hG
    · next hi =>
      subst hi
      cases hG
      rcases Hub.pending_perform hOrderly op hPending with hOld | hNew
      · exact List.mem_append_left _ (hFurnished.pending i h key f hHub hOld)
      · refine List.mem_append_right _ ?_
        rw [cacheUse, hHub, Option.bind_some, hNew]
        exact List.mem_singleton_self _
    · exact List.mem_append_left _ (hFurnished.pending i g key f hG hPending)

theorem Furnished.work (hFurnished : p.Furnished uses) (hLeaves : compiler.LeavesCaches) {k j : Nat}
    {h h' : Hub} {w' : Floor κ} {t : TaskId} {f f' : Factory} {mode mode' : Mode State}
    (hWorks : Works compiler p k j p' h h' w' t f mode f' mode') : p'.Furnished uses := by
  obtain ⟨hUse, hHolds⟩ := hFurnished.member k h t f mode hWorks.hub hWorks.member
  obtain ⟨hName, hTouched, hHolds'⟩ :=
    hWorks.passage.touches hLeaves hFurnished.boundless.named hHolds
  have hRegistry : p'.registry = w'.registry := by rw [hWorks.after]
  constructor
  · rw [hRegistry]
    exact hTouched.boundless hFurnished.boundless
  · intro i g u f₁ m₁ hG hMember
    rw [hRegistry]
    rw [hWorks.hub?] at hG
    split at hG
    · next hi =>
      subst hi
      cases hG
      rw [hWorks.members] at hMember
      split at hMember
      · cases hMember
        rw [hName]
        exact ⟨hUse, hHolds'⟩
      · obtain ⟨hUse₁, hHolds₁⟩ := hFurnished.member i h u f₁ m₁ hWorks.hub hMember
        exact ⟨hUse₁, hHolds₁.keep hTouched⟩
    · obtain ⟨hUse₁, hHolds₁⟩ := hFurnished.member i g u f₁ m₁ hG hMember
      exact ⟨hUse₁, hHolds₁.keep hTouched⟩
  · intro i g key f₁ hG hPending
    rw [hWorks.hub?] at hG
    split at hG
    · next hi =>
      subst hi
      cases hG
      rw [Hub.pending?, Hub.entry?, hWorks.entries] at hPending
      exact hFurnished.pending i h key f₁ hWorks.hub hPending
    · exact hFurnished.pending i g key f₁ hG hPending

theorem Run.furnished {k : κ} {settings : List HubSettings} (hLeaves : compiler.LeavesCaches)
    (r : Run compiler (founded none k settings) p) (hMoves : ∀ m ∈ r.moves, m.hub?.isSome = true) :
    p.Furnished r.cacheUses := by
  induction r with
  | start => exact furnished_founded k settings
  | @next p q r m hMove ih =>
    have ih := ih fun m' hMem => hMoves m' (List.mem_append_left _ hMem)
    have hHub := hMoves m (List.mem_append_right _ (List.mem_singleton_self m))
    cases m with
    | own k op => exact ih.own r.orderly hMove
    | work k j =>
      obtain ⟨h, h', w', t, f, mode, f', mode', hWorks⟩ := step_works r.orderly.sound hMove
      have hUses : (r.next (.work k j) hMove).cacheUses = r.cacheUses := List.append_nil _
      rw [hUses]
      exact ih.work hLeaves hWorks
    | compiler k => cases hHub
    | destroy k => cases hHub

end Furnished

section Twins

variable {κ : Nat → Type} {parts : (i : Nat) → Compiler (κ i)} {N : String → Prop} {i : Nat}
  {p p' q : Plant ((i : Nat) → κ i)} {uses uses' : List (Nat × String)}

/-- Two plants that look the same from one hub, which uses only some names of caches. -/
structure Twins (N : String → Prop) (i : Nat) (p q : Plant ((i : Nat) → κ i)) : Prop where
  hub : (p.hub? i).map Hub.erase = (q.hub? i).map Hub.erase
  caches : Mirrors N p.registry q.registry
  part : p.compiler i = q.compiler i

theorem Twins.refl (N : String → Prop) (i : Nat) (p : Plant ((i : Nat) → κ i)) : Twins N i p p :=
  ⟨rfl, fun _ _ => rfl, rfl⟩

theorem Twins.hub? (hTwins : Twins N i p q) {h : Hub} (hHub : p.hub? i = some h) :
    ∃ h', q.hub? i = some h' ∧ h'.erase = h.erase := by
  apply Option.map_eq_some_iff.mp
  rw [← hTwins.hub, hHub, Option.map_some]

theorem Twins.floorOf (hTwins : Twins N i p q) {h h' : Hub} (hErase : h'.erase = h.erase) :
    Resembles N i (p.floorOf h) (q.floorOf h') :=
  ⟨hTwins.caches, hTwins.part, (congrArg (fun h : Hub => h.office) hErase).symm⟩

theorem Twins.orders (hTwins : Twins N i p q) (m : Move ((i : Nat) → κ i)) :
    p.orders i m = q.orders i m := by
  have hErased (p : Plant ((i : Nat) → κ i)) (j : Nat) : (p.hub? i).bind (·.ordering? j) =
      ((p.hub? i).map Hub.erase).bind (·.ordering? j) := by
    rw [Option.bind_map]
    simp only [Function.comp_def, Hub.ordering?_erase]
  cases m with
  | work k j => rw [Plant.orders, Plant.orders, hErased, hErased, hTwins.hub]
  | _ => rfl

theorem Twins.aside (hTwins : Twins N i p q) (hParts : ∀ i, (parts i).Private)
    (hFurnished : p.Furnished uses) (hOrderly : p.Orderly)
    (hForeign : ∀ k name, k ≠ i → (k, name) ∈ uses → ¬ N name) {m : Move ((i : Nat) → κ i)}
    {k : Nat} (hMover : m.hub? = some k) (hOther : k ≠ i)
    (hMove : p.move (Compiler.family parts) m = some p') : Twins N i p' q := by
  cases m with
  | own k' op =>
    obtain rfl : k' = k := Option.some.inj hMover
    obtain ⟨h, hHub, _, rfl⟩ := move_own hMove
    refine ⟨?_, hTwins.caches, hTwins.part⟩
    rw [hub?_setHub p hHub, if_neg (Ne.symm hOther), hTwins.hub]
  | work k' j =>
    obtain rfl : k' = k := Option.some.inj hMover
    obtain ⟨h, h', w', t, f, mode, f', mode', hWorks⟩ := step_works hOrderly.sound hMove
    obtain ⟨hUse, hHolds⟩ := hFurnished.member k' h t f mode hWorks.hub hWorks.member
    obtain ⟨_, hTouched, _⟩ := hWorks.passage.touches (Compiler.family_leavesCaches hParts)
      hFurnished.boundless.named hHolds
    have hRegistry : p'.registry = w'.registry := by rw [hWorks.after]
    have hCompiler : p'.compiler = w'.compiler := by rw [hWorks.after]
    constructor
    · rw [hWorks.hub?, if_neg (Ne.symm hOther), hTwins.hub]
    · rw [hRegistry]
      exact hTwins.caches.touched hTouched (hForeign k' f.cacheName hOther hUse)
    · rw [hCompiler, hWorks.passage.part_of_ne (Ne.symm hOther)]
      exact hTwins.part
  | compiler k' => cases hMover
  | destroy k' => cases hMover

theorem Twins.own (hTwins : Twins N i p q) {op : Hub.Op}
    (hMove : p.move (Compiler.family parts) (.own i op) = some p') :
    ∃ q', q.move (Compiler.family parts) (.own i op) = some q' ∧ Twins N i p' q' := by
  obtain ⟨h, hHub, hOpen, rfl⟩ := move_own hMove
  obtain ⟨h', hHub', hErase⟩ := hTwins.hub? hHub
  have hOpen' : h'.office.isOpen = true := by
    have hSame : h'.erase.office.isOpen = h.erase.office.isOpen := by rw [hErase]
    exact hSame.trans hOpen
  refine ⟨q.setHub i (h'.perform op), ?_, ?_, hTwins.caches, hTwins.part⟩
  · rw [move, hHub', Option.bind_some, if_pos hOpen']
  · rw [hub?_setHub p hHub, hub?_setHub q hHub', if_pos rfl, if_pos rfl, Option.map_some,
      Option.map_some, Hub.erase_perform, Hub.erase_perform, hErase]

theorem Twins.work_alike (hTwins : Twins N i p q) (hParts : ∀ i, (parts i).Private)
    (hFurnished : p.Furnished uses) (hFurnished' : q.Furnished uses')
    (hOwn : ∀ name, (i, name) ∈ uses → N name) {h h' : Hub} (hHub : p.hub? i = some h)
    (hHub' : q.hub? i = some h') (hErase : h'.erase = h.erase) (t : TaskId)
    (c c' : Tasks.Cell Factory State) (hCell : h.pool.cell? t = some c)
    (hCell' : h'.pool.cell? t = some c') (hBody : c.body.erase = c'.body.erase) :
    Tasks.Alike Factory.erase (Resembles N i)
      (Factory.work (Compiler.family parts) i (p.floorOf h) c.body)
      (Factory.work (Compiler.family parts) i (q.floorOf h') c'.body) := by
  have hWorlds := hTwins.floorOf hErase
  obtain ⟨hUse, hHolds⟩ := hFurnished.member i h t _ _ hHub (Tasks.Pool.member?_of_cell hCell)
  obtain ⟨_, hHolds'⟩ := hFurnished'.member i h' t _ _ hHub' (Tasks.Pool.member?_of_cell hCell')
  generalize c'.body = f' at *
  obtain ⟨hCache, hSame⟩ := Factory.exists_of_erase hBody
  rw [hSame] at hHolds' ⊢
  exact Factory.work_alike hParts (f := c.body) (c := c.body.cache) ⟨hWorlds, hCache,
    hOwn _ hUse, hFurnished.boundless, hFurnished'.boundless, hHolds, hHolds'⟩

theorem Twins.work (hTwins : Twins N i p q) (hParts : ∀ i, (parts i).Private)
    (hFurnished : p.Furnished uses) (hFurnished' : q.Furnished uses')
    (hOwn : ∀ name, (i, name) ∈ uses → N name) {j : Nat}
    (hMove : p.move (Compiler.family parts) (.work i j) = some p') :
    ∃ q', q.move (Compiler.family parts) (.work i j) = some q' ∧ Twins N i p' q' := by
  obtain ⟨h, hHub, hMap⟩ := Option.bind_eq_some_iff.mp hMove
  obtain ⟨⟨pool, w⟩, hStep, rfl⟩ := Option.map_eq_some_iff.mp hMap
  obtain ⟨h', hHub', hErase⟩ := hTwins.hub? hHub
  have hPools : h.pool.view Factory.erase = h'.pool.view Factory.erase :=
    (congrArg (fun h : Hub => h.pool) hErase).symm
  obtain ⟨pool', w', hStep', hView, hWorlds'⟩ := Tasks.Pool.step_of_view
    (Factory.behaviour_respects parts N i) hPools (hTwins.floorOf hErase)
    (hTwins.work_alike hParts hFurnished hFurnished' hOwn hHub hHub' hErase) hStep
  refine ⟨q.putBack i h' pool' w', ?_, ?_, hWorlds'.caches, hWorlds'.part⟩
  · rw [move, step, hHub', Option.bind_some, hStep']
    rfl
  · have hAfter : (p.putBack i h pool w).hub? i = some { h with pool, office := w.office } :=
      (hub?_setHub p hHub _ i).trans (if_pos rfl)
    have hAfter' : (q.putBack i h' pool' w').hub? i =
        some { h' with pool := pool', office := w'.office } :=
      (hub?_setHub q hHub' _ i).trans (if_pos rfl)
    have hSame : ({ h with pool, office := w.office } : Hub).erase =
        { h.erase with pool := pool.view Factory.erase, office := w.office.erase } := rfl
    rw [hAfter, hAfter', Option.map_some, Option.map_some, hSame, ← hErase, hView, hWorlds'.office]
    rfl

/-- Every move of the hub can be made in the other plant. -/
theorem Twins.move (hTwins : Twins N i p q) (hParts : ∀ i, (parts i).Private)
    (hFurnished : p.Furnished uses) (hFurnished' : q.Furnished uses')
    (hOwn : ∀ name, (i, name) ∈ uses → N name) {m : Move ((i : Nat) → κ i)}
    (hMover : m.hub? = some i) (hMove : p.move (Compiler.family parts) m = some p') :
    ∃ q', q.move (Compiler.family parts) m = some q' ∧ Twins N i p' q' := by
  cases m with
  | own k op =>
    obtain rfl : k = i := Option.some.inj hMover
    exact hTwins.own hMove
  | work k j =>
    obtain rfl : k = i := Option.some.inj hMover
    exact hTwins.work hParts hFurnished hFurnished' hOwn hMove
  | compiler k => cases hMover
  | destroy k => cases hMover

end Twins

section Alone

variable {κ : Nat → Type} {parts : (i : Nat) → Compiler (κ i)} {k : (i : Nat) → κ i}
  {settings : List HubSettings} {p : Plant ((i : Nat) → κ i)}

/-- The moves of one hub make a run by themselves, and the hub cannot tell the difference. -/
theorem Run.exists_alone {N : String → Prop} {i : Nat} (hParts : ∀ i, (parts i).Private)
    (r : Run (Compiler.family parts) (founded none k settings) p)
    (hMoves : ∀ m ∈ r.moves, m.hub?.isSome = true)
    (hOwn : ∀ name, (i, name) ∈ r.cacheUses → N name)
    (hForeign : ∀ k name, k ≠ i → (k, name) ∈ r.cacheUses → ¬ N name) :
    ∃ q, ∃ s : Run (Compiler.family parts) (founded none k settings) q,
      s.moves = r.moves.filter (·.hub? = some i) ∧ s.orders i = r.orders i ∧ Twins N i p q := by
  induction r with
  | start => exact ⟨_, .start, rfl, rfl, .refl N i _⟩
  | @next p p' r m hMove ih =>
    have hBefore (m' : Move ((i : Nat) → κ i)) (hMem : m' ∈ r.moves) : m'.hub?.isSome = true :=
      hMoves m' (List.mem_append_left _ hMem)
    obtain ⟨q, s, hKept, hOrders, hTwins⟩ := ih hBefore
      (fun name hUse => hOwn name (List.mem_append_left _ hUse))
      (fun j name hj hUse => hForeign j name hj (List.mem_append_left _ hUse))
    have hLeaves := Compiler.family_leavesCaches hParts
    have hFurnished := r.furnished hLeaves hBefore
    have hFurnished' := s.furnished hLeaves fun m' hMem =>
      hBefore m' (List.mem_of_mem_filter (hKept ▸ hMem))
    obtain ⟨j, hMover⟩ := Option.isSome_iff_exists.mp
      (hMoves m (List.mem_append_right _ (List.mem_singleton_self m)))
    by_cases hj : j = i
    · subst hj
      obtain ⟨q', hMove', hTwins'⟩ := hTwins.move hParts hFurnished hFurnished'
        (fun name hUse => hOwn name (List.mem_append_left _ hUse)) hMover hMove
      refine ⟨q', s.next m hMove', ?_, ?_, hTwins'⟩
      · rw [moves, moves, List.filter_append, hKept]
        simp [hMover]
      · rw [orders, orders, hOrders, hTwins.orders m]
    · refine ⟨q, s, ?_, ?_, hTwins.aside hParts hFurnished r.orderly
        (fun j name hOther hUse => hForeign j name hOther (List.mem_append_left _ hUse))
        hMover hj hMove⟩
      · rw [moves, List.filter_append, hKept]
        simp [hMover, hj]
      · rw [orders, orders_of_ne hMover hj, List.append_nil, hOrders]

end Alone

end Plant

namespace Hub

/-- Two hubs that cannot be told apart. The statuses hold the reports, and the slots their
pipelines and counts. -/
structure Agrees (h h' : Hub) : Prop where
  statuses : ∀ f, h'.status? f = h.status? f
  slots : h'.slots = h.slots
  running : h'.office.bookings.names = h.office.bookings.names
  erased : h'.erase = h.erase

theorem status?_erase (h : Hub) (f : FactoryId) : h.erase.status? f = h.status? f := by
  rw [status?, entry?_erase, status?]
  cases h.entry? f <;> rfl

theorem agrees_of_erase {h h' : Hub} (hErase : h'.erase = h.erase) : h.Agrees h' := by
  constructor
  · intro f
    rw [← status?_erase, hErase, status?_erase]
  · have hSlots : h'.erase.slots = h.erase.slots := by rw [hErase]
    exact hSlots
  · have hBookings : h'.erase.office.bookings = h.erase.office.bookings := by rw [hErase]
    exact congrArg Tasks.Bookings.names hBookings
  · exact hErase

end Hub

namespace Plant

variable {κ : Nat → Type} {parts : (i : Nat) → Compiler (κ i)} {k : (i : Nat) → κ i}
  {settings : List HubSettings} {p : Plant ((i : Nat) → κ i)} {i : Nat} {h : Hub}

/-- Hubs do not observe each other. Let any hubs with private compilers share a registry without a
limit, and let no other hub use the name of a cache that one hub uses. Then the moves that this hub
made in a run make a run by themselves, in which the hub comes to the same statuses, reports, slots
and running names, its compiler to the same state, and the same was ordered from it. The hubs may
share all other names and numbers. -/
theorem hubs_isolated (hParts : ∀ i, (parts i).Private)
    (r : Run (Compiler.family parts) (founded none k settings) p)
    (hMoves : ∀ m ∈ r.moves, m.hub?.isSome = true)
    (hNames : ∀ u ∈ r.cacheUses, ∀ v ∈ r.cacheUses, u.1 = i → v.2 = u.2 → v.1 = i)
    (hHub : p.hub? i = some h) :
    ∃ q h', ∃ s : Run (Compiler.family parts) (founded none k settings) q,
      s.moves = r.moves.filter (·.hub? = some i) ∧ q.hub? i = some h' ∧ h.Agrees h' ∧
        s.orders i = r.orders i ∧ q.compiler i = p.compiler i := by
  obtain ⟨q, s, hKept, hOrders, hTwins⟩ := r.exists_alone (i := i)
    (N := fun name => (i, name) ∈ r.cacheUses) hParts hMoves (fun _ hUse => hUse)
    fun j name hOther hUse hOwn => hOther (hNames (i, name) hOwn (j, name) hUse rfl rfl)
  obtain ⟨h', hHub', hErase⟩ := hTwins.hub? hHub
  exact ⟨q, h', s, hKept, hHub', Hub.agrees_of_erase hErase, hOrders, hTwins.part.symm⟩

def tones : Characteristic := .ofFill "tones" ⟨5, 7, by decide⟩ (Standard.fillConstant 1 0)

def launching (i : Nat) (cacheName : String) : List (Move (Nat → Device)) :=
  [.own i .createSlot, .own i (.createFactory "lit" cacheName 0),
    .own i (.register 0 (.ofSetup "program" fun _ => Standard.setupProgram "program" [] 7 [])),
    .own i (.register 0 tones), .own i (.closeInbox 0), .own i (.start 0)]

/-- A run in which two hubs do the same at the same time, each with a cache of its own. -/
def duetRun : (p : Plant (Nat → Device)) ×
    Run (Compiler.family fun _ => Device.compiler) (founded none (fun _ => {}) [{}, {}]) p :=
  Run.start.along (launching 0 "left" ++ launching 1 "right" ++
    (List.replicate 40 [.work 0 0, .work 1 0]).flatten ++
    (List.replicate 3 [.own 0 .take, .own 1 .take]).flatten)

/-- The second hub makes its two pipelines as if the first one had not done the same. -/
theorem hubs_isolated_duet :
    ∃ h, duetRun.1.hub? 1 = some h ∧
      h.status? 0 = some (.finished ⟨[.start, .setUp, .settled, .generate, .done], 2, 0, 2⟩) ∧
      ∃ q h', ∃ s : Run (Compiler.family fun _ => Device.compiler)
        (founded none (fun _ => {}) [{}, {}]) q,
        s.moves.length = 49 ∧ duetRun.2.moves.length = 98 ∧ q.hub? 1 = some h' ∧ h.Agrees h' ∧
          s.orders 1 = duetRun.2.orders 1 ∧ (s.orders 1).length = 2 := by
  have hStatus : (duetRun.1.hub? 1).bind (·.status? 0) =
      some (.finished ⟨[.start, .setUp, .settled, .generate, .done], 2, 0, 2⟩) := by
    decide +kernel
  have hLength : duetRun.2.moves.length = 98 := by decide +kernel
  have hOwn : (duetRun.2.moves.filter (·.hub? = some 1)).length = 49 := by decide +kernel
  have hMoves : ∀ m ∈ duetRun.2.moves, m.hub?.isSome = true := by decide +kernel
  have hNames : ∀ u ∈ duetRun.2.cacheUses, ∀ v ∈ duetRun.2.cacheUses,
      u.1 = 1 → v.2 = u.2 → v.1 = 1 := by decide +kernel
  have hOrders : (duetRun.2.orders 1).length = 2 := by decide +kernel
  obtain ⟨h, hHub, hFinished⟩ := Option.bind_eq_some_iff.mp hStatus
  obtain ⟨q, h', s, hKept, hHub', hAgrees, hSame, _⟩ :=
    hubs_isolated (fun _ => Device.isPrivate) duetRun.2 hMoves hNames hHub
  refine ⟨h, hHub, hFinished, q, h', s, ?_, hLength, hHub', hAgrees, hSame, ?_⟩
  · rw [hKept, hOwn]
  · rw [hSame, hOrders]

end Plant

end PipelineForge
