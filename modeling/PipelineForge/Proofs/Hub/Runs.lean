import PipelineForge.Proofs.Hub.Moves

/-!
# Runs of plants

A run of a plant is any sequence of moves: the owner of a hub that is still open does something,
a worker makes a step of a job, the compiler changes by itself, or all named caches are destroyed.
Between two moves anything else can move. What a run sent and admitted is read off its moves.
-/

namespace PipelineForge

open Factory (Event Floor Passage State)
open Tasks (Mode TaskId)

namespace Plant

variable {κ : Type}

inductive Move (κ : Type) where
  | own (hub : Nat) (op : Hub.Op)
  | work (hub job : Nat)
  | compiler (k : κ)
  | destroy (hub : Nat)

def move (compiler : Compiler κ) (p : Plant κ) : Move κ → Option (Plant κ)
  | .own i op =>
    (p.hub? i).bind fun h => if h.office.isOpen then some (p.setHub i (h.perform op)) else none
  | .work i j => p.step compiler i j
  | .compiler k => some { p with compiler := k }
  | .destroy i => some (p.destroyCaches compiler i).1

def founded (limit : Option Nat) (k : κ) (settings : List HubSettings) : Plant κ where
  registry := { limit }
  compiler := k
  hubs := settings.map fun settings => { settings }

/-- The moves that led from one plant to another. -/
inductive Run (compiler : Compiler κ) (first : Plant κ) : Plant κ → Type where
  | start : Run compiler first first
  | next {p q : Plant κ} (r : Run compiler first p) (m : Move κ) (h : p.move compiler m = some q) :
      Run compiler first q

def worker? (p : Plant κ) (i j : Nat) : Option Factory :=
  (p.hub? i).bind fun h =>
    (h.pool.jobs[j]?).bind fun job => (h.pool.member? job.task).map Prod.fst

def eventsOf (p : Plant κ) (i : Nat) : List Event := ((p.hub? i).map (·.office.events)).getD []

/-- An event with its sender, as the sender was when it sent it. -/
structure Dispatch where
  hub : Nat
  sender : Factory
  event : Event

def dispatched (p : Plant κ) (m : Move κ) (q : Plant κ) : List Dispatch :=
  match m with
  | .work i j =>
    match p.worker? i j with
    | some f => ((q.eventsOf i).drop (p.eventsOf i).length).map (⟨i, f, ·⟩)
    | none => []
  | _ => []

def admitted (p : Plant κ) (i : Nat) (f : FactoryId) : Move κ → List Characteristic
  | .own k op =>
    match p.hub? k with
    | some h => if k = i then op.admits h f else []
    | none => []
  | _ => []

namespace Run

variable {compiler : Compiler κ} {first p : Plant κ}

def dispatches : {p : Plant κ} → Run compiler first p → List Dispatch
  | _, .start => []
  | q, @next _ _ _ p _ r m _ => r.dispatches ++ dispatched p m q

/-- The characteristics that a factory's inbox took, in the order of registration. -/
def admitted (i : Nat) (f : FactoryId) : {p : Plant κ} → Run compiler first p → List Characteristic
  | _, .start => []
  | _, @next _ _ _ p _ r m _ => r.admitted i f ++ p.admitted i f m

def sent (r : Run compiler first p) (i : Nat) : List Event :=
  r.dispatches.filterMap fun d => if d.hub = i then some d.event else none

/-- A run that goes on with some moves, up to the first one that cannot be made. -/
def along : {p : Plant κ} → Run compiler first p → List (Move κ) →
    (q : Plant κ) × Run compiler first q
  | p, r, [] => ⟨p, r⟩
  | p, r, m :: ms =>
    match hMove : p.move compiler m with
    | some _ => (r.next m hMove).along ms
    | none => ⟨p, r⟩

end Run

theorem hub?_setHub (p : Plant κ) {i : Nat} {h : Hub} (hHub : p.hub? i = some h) (h' : Hub)
    (k : Nat) : (p.setHub i h').hub? k = if k = i then some h' else p.hub? k := by
  have hi : i < p.hubs.length := (List.getElem?_eq_some_iff.mp hHub).1
  by_cases hk : k = i
  · rw [if_pos hk, hk]
    exact List.getElem?_set_self hi
  · rw [if_neg hk]
    exact List.getElem?_set_ne (Ne.symm hk)

theorem move_own {compiler : Compiler κ} {p p' : Plant κ} {i : Nat} {op : Hub.Op}
    (hMove : p.move compiler (.own i op) = some p') :
    ∃ h, p.hub? i = some h ∧ h.office.isOpen = true ∧ p' = p.setHub i (h.perform op) := by
  obtain ⟨h, hHub, hOpen⟩ := Option.bind_eq_some_iff.mp hMove
  split at hOpen
  · next hYes =>
    cases hOpen
    exact ⟨h, hHub, hYes, rfl⟩
  · cases hOpen

/-- What a step of a plant is: the passage of one factory of one hub. -/
structure Works (compiler : Compiler κ) (p : Plant κ) (i j : Nat) (p' : Plant κ) (h h' : Hub)
    (w' : Floor κ) (t : TaskId) (f : Factory) (mode : Mode State) (f' : Factory)
    (mode' : Mode State) : Prop where
  hub : p.hub? i = some h
  worker : p.worker? i j = some f
  after : p' = { registry := w'.registry, compiler := w'.compiler, hubs := p.hubs.set i h' }
  same : h' = { h with pool := h'.pool, office := w'.office }
  member : h.pool.member? t = some (f, mode)
  passage : Passage compiler i (p.floorOf h) f mode w' f' mode'
  members : ∀ u, h'.pool.member? u = if u = t then some (f', mode') else h.pool.member? u
  bodies : h'.pool.bodies = h.pool.bodies.set t f'
  sound : h'.pool.Sound
  advances : ∃ phase c c' next, Tasks.Pool.Advances (Factory.behaviour compiler i) h.pool
    (p.floorOf h) j h'.pool w' t phase c c' next
  soundBefore : h.pool.Sound

theorem step_works {compiler : Compiler κ} {p p' : Plant κ} {i j : Nat}
    (hOrderly : ∀ i h, p.hub? i = some h → h.pool.Sound) (hStep : p.step compiler i j = some p') :
    ∃ h h' w' t f mode f' mode', Works compiler p i j p' h h' w' t f mode f' mode' := by
  obtain ⟨h, hHub, hMap⟩ := Option.bind_eq_some_iff.mp hStep
  obtain ⟨⟨pool, w'⟩, hPool, rfl⟩ := Option.map_eq_some_iff.mp hMap
  have hSound := hOrderly i h hHub
  obtain ⟨t, f, mode, f', mode', hShifts⟩ := Tasks.Pool.step_shifts hSound hPool
  obtain ⟨t', phase, c, c', next, hAdvances⟩ := Tasks.Pool.step_cases hPool
  obtain rfl : t = t' := by
    rw [← Option.some_inj, ← hShifts.job, hAdvances.job, Option.map_some]
  refine ⟨h, { h with pool, office := w'.office }, w', t, f, mode, f', mode', ?_⟩
  constructor
  · exact hHub
  · obtain ⟨job, hJob, hTask⟩ := Option.map_eq_some_iff.mp hShifts.job
    rw [worker?, hHub, Option.bind_some, hJob, Option.bind_some, hTask, hShifts.member]
    rfl
  · rfl
  · rfl
  · exact hShifts.member
  · exact Factory.passage_of_shift hShifts.shift
  · exact hShifts.members
  · exact hShifts.bodies
  · exact (hSound.advances hAdvances).of_eq hAdvances.cells hAdvances.jobs
  · exact ⟨phase, c, c', next, hAdvances⟩
  · exact hSound

section Works

variable {compiler : Compiler κ} {p p' : Plant κ} {i j : Nat} {h h' : Hub} {w' : Floor κ}
  {t : TaskId} {f f' : Factory} {mode mode' : Mode State}

theorem Works.hub? (hWorks : Works compiler p i j p' h h' w' t f mode f' mode') (k : Nat) :
    p'.hub? k = if k = i then some h' else p.hub? k := by
  rw [hWorks.after, ← hub?_setHub p hWorks.hub h' k]
  rfl

theorem Works.office (hWorks : Works compiler p i j p' h h' w' t f mode f' mode') :
    h'.office = w'.office := by rw [hWorks.same]

theorem Works.entries (hWorks : Works compiler p i j p' h h' w' t f mode f' mode') :
    h'.entries = h.entries := by rw [hWorks.same]

theorem Works.dispatched (hWorks : Works compiler p i j p' h h' w' t f mode f' mode') :
    p.dispatched (.work i j) p' = (Factory.sentIn (p.floorOf h) w').map (⟨i, f, ·⟩) := by
  have hBefore : p.eventsOf i = h.office.events := by rw [eventsOf, hWorks.hub]; rfl
  have hAfter : p'.eventsOf i = w'.office.events := by
    rw [eventsOf, hWorks.hub?, if_pos rfl, ← hWorks.office]
    rfl
  simp only [Plant.dispatched, hWorks.worker, hBefore, hAfter]
  rfl

theorem Works.orderly (hWorks : Works compiler p i j p' h h' w' t f mode f' mode')
    (hOrderly : h.Orderly) : h'.Orderly := by
  have hOpen : h'.office.isOpen = h.office.isOpen := by
    rw [hWorks.office]
    exact hWorks.passage.isOpen
  have hLength : h'.office.inboxes.length = h.office.inboxes.length := by
    rw [hWorks.office]
    exact hWorks.passage.length_inboxes
  have hPending (key : FactoryId) : h'.pending? key = h.pending? key := by
    rw [Hub.pending?, Hub.entry?, hWorks.entries, Hub.pending?, Hub.entry?]
  -- The factory that moved has the identity that it had.
  have hMember (u : TaskId) (g : Factory) (m : Mode State)
      (hSome : h'.pool.member? u = some (g, m)) :
      ∃ g₀ m₀, h.pool.member? u = some (g₀, m₀) ∧ g.id = g₀.id := by
    rw [hWorks.members] at hSome
    split at hSome
    · next hu =>
      cases hSome
      exact ⟨f, mode, hu ▸ hWorks.member, hWorks.passage.identity.1⟩
    · exact ⟨g, m, hSome, rfl⟩
  constructor
  · exact hWorks.sound
  · rw [hWorks.entries]
    exact hOrderly.shelf
  · rw [hOpen, hWorks.entries, hLength]
    exact hOrderly.keyed
  · rw [hOpen, hWorks.entries]
    exact hOrderly.empty
  · intro u g m hSome
    obtain ⟨g₀, m₀, hBefore, hId⟩ := hMember u g m hSome
    rw [hId, hLength]
    exact hOrderly.known u g₀ m₀ hBefore
  · intro u v g k m n hU hV hSame
    obtain ⟨g₀, m₀, hBeforeU, hIdU⟩ := hMember u g m hU
    obtain ⟨k₀, n₀, hBeforeV, hIdV⟩ := hMember v k n hV
    exact hOrderly.distinct u v g₀ k₀ m₀ n₀ hBeforeU hBeforeV (by rw [← hIdU, ← hIdV, hSame])
  · intro key g hSome
    exact hOrderly.fresh key g (hPending key ▸ hSome)
  · intro key g u k m hSome hU
    obtain ⟨k₀, m₀, hBefore, hId⟩ := hMember u k m hU
    rw [hId]
    exact hOrderly.apart key g u k₀ m₀ (hPending key ▸ hSome) hBefore

end Works

def Orderly (p : Plant κ) : Prop := ∀ i h, p.hub? i = some h → h.Orderly

theorem Orderly.sound {p : Plant κ} (hOrderly : p.Orderly) (i : Nat) (h : Hub)
    (hHub : p.hub? i = some h) : h.pool.Sound := (hOrderly i h hHub).pool

theorem founded_hub {limit : Option Nat} {k : κ} {settings : List HubSettings} {i : Nat} {h : Hub}
    (hHub : (founded limit k settings).hub? i = some h) :
    ∃ s : HubSettings, h = { settings := s } := by
  rw [hub?, founded, List.getElem?_map] at hHub
  obtain ⟨s, _, rfl⟩ := Option.map_eq_some_iff.mp hHub
  exact ⟨s, rfl⟩

theorem orderly_founded (limit : Option Nat) (k : κ) (settings : List HubSettings) :
    (founded limit k settings).Orderly := by
  intro i h hHub
  obtain ⟨s, rfl⟩ := founded_hub hHub
  exact Hub.orderly_initial s

def Move.Elsewhere (i : Nat) : Move κ → Prop
  | .own k _ | .work k _ => k ≠ i
  | _ => True

/-- What a move does to a hub. -/
inductive Stir (compiler : Compiler κ) (p : Plant κ) (m : Move κ) (p' : Plant κ) (i : Nat)
    (h h' : Hub) : Prop where
  | spared (hSame : h' = h) (hElsewhere : m.Elsewhere i)
  | owned (op : Hub.Op) (hm : m = .own i op) (hOpen : h.office.isOpen = true)
      (hPerform : h' = h.perform op)
  | worked (j : Nat) (w' : Floor κ) (t : TaskId) (f f' : Factory) (mode mode' : Mode State)
      (hm : m = .work i j) (hWorks : Works compiler p i j p' h h' w' t f mode f' mode')

section Moves

variable {compiler : Compiler κ} {p p' : Plant κ} {m : Move κ} {i : Nat}

theorem stir_of_move (hOrderly : p.Orderly) (hMove : p.move compiler m = some p') {h : Hub}
    (hHub : p.hub? i = some h) : ∃ h', p'.hub? i = some h' ∧ Stir compiler p m p' i h h' := by
  cases m with
  | own k op =>
    obtain ⟨g, hOwner, hOpen, rfl⟩ := move_own hMove
    rw [hub?_setHub p hOwner]
    split
    · next hi =>
      subst hi
      obtain rfl := Option.some.inj (hHub.symm.trans hOwner)
      exact ⟨_, rfl, .owned op rfl hOpen rfl⟩
    · next hi => exact ⟨h, hHub, .spared rfl (Ne.symm hi)⟩
  | work k j =>
    obtain ⟨g, g', w', t, f, mode, f', mode', hWorks⟩ := step_works hOrderly.sound hMove
    rw [hWorks.hub?]
    split
    · next hi =>
      subst hi
      obtain rfl := Option.some.inj (hHub.symm.trans hWorks.hub)
      exact ⟨g', rfl, .worked j w' t f f' mode mode' rfl hWorks⟩
    · next hi => exact ⟨h, hHub, .spared rfl (Ne.symm hi)⟩
  | compiler k =>
    cases hMove
    exact ⟨h, hHub, .spared rfl trivial⟩
  | destroy k =>
    cases hMove
    exact ⟨h, hHub, .spared rfl trivial⟩

theorem length_hubs_move (hMove : p.move compiler m = some p') :
    p'.hubs.length = p.hubs.length := by
  cases m with
  | own k op =>
    obtain ⟨g, _, _, rfl⟩ := move_own hMove
    exact List.length_set
  | work k j =>
    obtain ⟨g, _, hStep⟩ := Option.bind_eq_some_iff.mp hMove
    obtain ⟨_, _, rfl⟩ := Option.map_eq_some_iff.mp hStep
    exact List.length_set
  | compiler k =>
    cases hMove
    rfl
  | destroy k =>
    cases hMove
    rfl

theorem hubs_move {P : Hub → Prop} (hOrderly : p.Orderly) (hMove : p.move compiler m = some p')
    (hKeeps : ∀ i h h', p.hub? i = some h → Stir compiler p m p' i h h' → P h → P h')
    (hBefore : ∀ i h, p.hub? i = some h → P h) : ∀ i h, p'.hub? i = some h → P h := by
  intro i h' hAfter
  have hi : i < p.hubs.length :=
    length_hubs_move hMove ▸ (List.getElem?_eq_some_iff.mp hAfter).1
  have hHub : p.hub? i = some p.hubs[i] := List.getElem?_eq_getElem hi
  obtain ⟨h'', hSame, hStir⟩ := stir_of_move hOrderly hMove hHub
  obtain rfl := Option.some.inj (hSame.symm.trans hAfter)
  exact hKeeps i _ h'' hHub hStir (hBefore i _ hHub)

theorem orderly_move (hMove : p.move compiler m = some p') (hOrderly : p.Orderly) : p'.Orderly := by
  apply hubs_move hOrderly hMove _ hOrderly
  intro i h h' hHub hStir hBefore
  cases hStir with
  | spared hSame hElsewhere =>
    rw [hSame]
    exact hBefore
  | owned op hm hOpen hPerform =>
    rw [hPerform]
    exact Hub.orderly_perform hBefore hOpen op
  | worked j w' t f f' mode mode' hm hWorks => exact hWorks.orderly hBefore

end Moves

theorem Run.orderly {compiler : Compiler κ} {limit : Option Nat} {k : κ}
    {settings : List HubSettings} {p : Plant κ} (r : Run compiler (founded limit k settings) p) :
    p.Orderly := by
  induction r with
  | start => exact orderly_founded limit k settings
  | next r m hMove ih => exact orderly_move hMove ih

/-- What holds of a new hub and is kept by every move holds of each hub in every run. -/
theorem Run.along_hub {compiler : Compiler κ} {limit : Option Nat} {k : κ}
    {settings : List HubSettings} {i : Nat}
    {P : {p : Plant κ} → Run compiler (founded limit k settings) p → Hub → Prop}
    (hStart : ∀ s : HubSettings, P .start { settings := s })
    (hNext : ∀ {p p' : Plant κ} (r : Run compiler (founded limit k settings) p) (m : Move κ)
      (hMove : p.move compiler m = some p') (h h' : Hub), p.hub? i = some h →
      Stir compiler p m p' i h h' → P r h → P (r.next m hMove) h')
    {p : Plant κ} (r : Run compiler (founded limit k settings) p) {h : Hub}
    (hHub : p.hub? i = some h) : P r h := by
  induction r generalizing h with
  | start =>
    obtain ⟨s, rfl⟩ := founded_hub hHub
    exact hStart s
  | @next p p' r m hMove ih =>
    have hi : i < p.hubs.length :=
      length_hubs_move hMove ▸ (List.getElem?_eq_some_iff.mp hHub).1
    have hBefore : p.hub? i = some p.hubs[i] := List.getElem?_eq_getElem hi
    obtain ⟨h', hAfter, hStir⟩ := stir_of_move r.orderly hMove hBefore
    obtain rfl := Option.some.inj (hAfter.symm.trans hHub)
    exact hNext r m hMove _ _ hBefore hStir (ih hBefore)

end Plant

end PipelineForge
