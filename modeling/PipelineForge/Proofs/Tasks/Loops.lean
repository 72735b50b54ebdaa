import PipelineForge.Proofs.Tasks.Traces

/-!
# Plain loops

A task whose handling depends on its own body only can be run by a plain loop, which handles one
state after the other until the task waits or ends. A pool runs such a task to the same states and
the same outcome, whatever the order of the jobs and whatever else it runs, as long as nobody
signals or aborts the task; and steps that yield are as good as steps that go on at once. How long
a task lets others wait is left out.
-/

namespace PipelineForge.Tasks

variable {ω τ σ ω' τ' ω'' τ'' : Type}

/-- Handling a state to its end in pieces, each of them in some world. -/
inductive Behaviour.Handles (b : Behaviour ω τ σ) : τ → τ → Upshot σ → Prop where
  | more {w w' : ω} {body body' body'' : τ} {lines : List Log.Line} {u : Upshot σ}
      (hWork : b.work w body = (w', body', lines, .more)) (hRest : b.Handles body' body'' u) :
      b.Handles body body'' u
  | last {w w' : ω} {body body' : τ} {lines : List Log.Line} {reply : Reply σ} {u : Upshot σ}
      (hWork : b.work w body = (w', body', lines, reply)) (hUpshot : reply.upshot? = some u) :
      b.Handles body body' u

/-- The plain loop, with all that happens in it. -/
inductive Behaviour.Loops (b : Behaviour ω τ σ) : τ → σ → List (Happening σ) → Prop where
  | goesOn {body body' : τ} {state next : σ} {s : Step σ} {rest : List (Happening σ)}
      (hHandles : b.Handles (b.enter state body) body' (.step s))
      (hNext : s = .proceed next ∨ s = .yield next) (hRest : b.Loops body' next rest) :
      b.Loops body state (.visited state :: rest)
  | waits {body body' : τ} {state next : σ} {condition : UInt32}
      (hHandles : b.Handles (b.enter state body) body' (.step (.wait next condition))) :
      b.Loops body state [.visited state]
  | ends {body body' : τ} {state : σ} {u : Upshot σ}
      (hHandles : b.Handles (b.enter state body) body' u) (hEnds : u.next? = none) :
      b.Loops body state [.visited state, .told u.outcome]

/-- What is left of the plain loop after a state was handled. -/
def Behaviour.Resumes (b : Behaviour ω τ σ) (body : τ) : Upshot σ → List (Happening σ) → Prop
  | .step (.proceed next), rest => b.Loops body next rest
  | .step (.yield next), rest => b.Loops body next rest
  | .step (.wait _ _), rest => rest = []
  | .step .finish, rest => rest = [.told .finished]
  | .step .abort, rest => rest = [.told .aborted]
  | .fault, rest => rest = [.told .aborted]

theorem Behaviour.Loops.cases_handles {b : Behaviour ω τ σ} {body : τ} {state : σ}
    {all : List (Happening σ)} (h : b.Loops body state all) :
    ∃ body' u rest, b.Handles (b.enter state body) body' u ∧ b.Resumes body' u rest ∧
      all = .visited state :: rest := by
  cases h with
  | @goesOn _ body' _ next s rest hHandles hNext hRest =>
    refine ⟨body', _, rest, hHandles, ?_, rfl⟩
    rcases hNext with rfl | rfl
    · exact hRest
    · exact hRest
  | waits hHandles => exact ⟨_, _, [], hHandles, rfl, rfl⟩
  | @ends _ body' _ u hHandles hEnds =>
    refine ⟨body', u, [.told u.outcome], hHandles, ?_, rfl⟩
    cases u with
    | fault => rfl
    | step s =>
      cases s with
      | finish => rfl
      | abort => rfl
      | _ => cases hEnds

/-- Steps that differ at most in whether they let other jobs go first. -/
inductive Step.Alike : Step σ → Step σ → Prop where
  | same (s : Step σ) : Alike s s
  | hurried (next : σ) : Alike (.yield next) (.proceed next)
  | relaxed (next : σ) : Alike (.proceed next) (.yield next)

inductive Reply.Alike : Reply σ → Reply σ → Prop where
  | more : Alike .more .more
  | step {s s' : Step σ} (h : s.Alike s') : Alike (.step s) (.step s')
  | fault (text text' : String) : Alike (.fault text) (.fault text')

/-- Bodies in the relation are handled alike in all worlds, and stay in the relation. -/
structure Kindred (b : Behaviour ω τ σ) (b' : Behaviour ω' τ' σ) (R : τ → τ' → Prop) : Prop where
  enter : ∀ {x y}, R x y → ∀ state, R (b.enter state x) (b'.enter state y)
  work : ∀ {x y}, R x y → ∀ w w', R (b.work w x).2.1 (b'.work w' y).2.1 ∧
    (b.work w x).2.2.2.Alike (b'.work w' y).2.2.2

section Alike

theorem Step.Alike.symm {s s' : Step σ} (h : s.Alike s') : s'.Alike s := by
  cases h with
  | same => exact .same s
  | hurried next => exact .relaxed next
  | relaxed next => exact .hurried next

theorem Step.Alike.trans {s s' s'' : Step σ} (h : s.Alike s') (h' : s'.Alike s'') :
    s.Alike s'' := by
  cases h with
  | same => exact h'
  | hurried next =>
    cases h' with
    | same => exact .hurried next
    | relaxed next => exact .same _
  | relaxed next =>
    cases h' with
    | same => exact .relaxed next
    | hurried next => exact .same _

theorem Reply.Alike.symm {reply reply' : Reply σ} (h : reply.Alike reply') :
    reply'.Alike reply := by
  cases h with
  | more => exact .more
  | step h => exact .step h.symm
  | fault text text' => exact .fault text' text

theorem Reply.Alike.trans {reply reply' reply'' : Reply σ} (h : reply.Alike reply')
    (h' : reply'.Alike reply'') : reply.Alike reply'' := by
  cases h with
  | more => exact h'
  | step h =>
    cases h' with
    | step h' => exact .step (h.trans h')
  | fault text _ =>
    cases h' with
    | fault _ text'' => exact .fault text text''

theorem Behaviour.Resumes.congr {b : Behaviour ω τ σ} {body : τ} {s s' : Step σ}
    {rest : List (Happening σ)} (h : b.Resumes body (.step s') rest) (hAlike : s.Alike s') :
    b.Resumes body (.step s) rest := by
  cases hAlike with
  | same => exact h
  | hurried next => exact h
  | relaxed next => exact h

variable {b : Behaviour ω τ σ} {b' : Behaviour ω' τ' σ} {b'' : Behaviour ω'' τ'' σ}
  {R : τ → τ' → Prop} {S : τ' → τ'' → Prop}

theorem Kindred.symm (h : Kindred b b' R) : Kindred b' b fun y x => R x y := by
  constructor
  · intro y x hR state
    exact h.enter hR state
  · intro y x hR w' w
    exact (h.work hR w w').imp_right Reply.Alike.symm

theorem Kindred.trans [Nonempty ω'] (h : Kindred b b' R) (h' : Kindred b' b'' S) :
    Kindred b b'' fun x z => ∃ y, R x y ∧ S y z := by
  constructor
  · rintro x z ⟨y, hR, hS⟩ state
    exact ⟨_, h.enter hR state, h'.enter hS state⟩
  · rintro x z ⟨y, hR, hS⟩ w w''
    obtain ⟨w'⟩ := ‹Nonempty ω'›
    obtain ⟨hBody, hReply⟩ := h.work hR w w'
    obtain ⟨hBody', hReply'⟩ := h'.work hS w' w''
    exact ⟨⟨_, hBody, hBody'⟩, hReply.trans hReply'⟩

end Alike

/-- What the plain loop of a kindred body has left when the task has a job in the phase. -/
def Phase.Due (b' : Behaviour ω' τ' σ) (R : τ → τ' → Prop) (c : Cell τ σ)
    (rest : List (Happening σ)) : Phase σ → Prop
  | handling => ∃ y y' u, R c.body y ∧ b'.Handles y y' u ∧ b'.Resumes y' u rest
  | handled s => ∃ y, R c.body y ∧ b'.Resumes y (.step s) rest
  | ending outcome => rest = [.told outcome]
  | parting => rest = []
  | ended => rest = []
  | going _ => rest = []
  | _ => ∃ y, R c.body y ∧ b'.Loops y c.state rest

/-- What the plain loop has left when the task has the drivers. -/
def Due (b' : Behaviour ω' τ' σ) (R : τ → τ' → Prop) (c : Cell τ σ) (rest : List (Happening σ)) :
    List (Phase σ) → Prop
  | [] => rest = []
  | phase :: _ => phase.Due b' R c rest

section Due

variable {b : Behaviour ω τ σ} {b' : Behaviour ω' τ' σ} {R : τ → τ' → Prop} {w w' : ω}
  {c c' : Cell τ σ} {phase : Phase σ} {next : Next σ} {rest : List (Happening σ)}

/-- A piece of handling a state takes the plain loop as far. -/
theorem Kindred.handles (h : Kindred b b' R) {body : τ} {lines : List Log.Line} {reply : Reply σ}
    (hWork : b.work w c.body = (w', body, lines, reply)) (hDue : Phase.handling.Due b' R c rest) :
    (reply = .more ∧ Phase.handling.Due b' R { c with body } rest) ∨
    (∃ s, reply = .step s ∧ (Phase.handled s).Due b' R { c with body } rest) ∨
    (∃ text, reply = .fault text ∧ rest = [.told .aborted]) := by
  obtain ⟨y, y', u, hR, hHandles, hResumes⟩ := hDue
  cases hHandles with
  | @more w₁ _ _ y₁ _ _ _ hPlain hRest =>
    obtain ⟨hBody, hReply⟩ := h.work hR w w₁
    rw [hWork, hPlain] at hBody hReply
    cases hReply
    exact .inl ⟨rfl, y₁, y', u, hBody, hRest, hResumes⟩
  | @last w₁ _ _ _ _ _ _ hPlain hUpshot =>
    obtain ⟨hBody, hReply⟩ := h.work hR w w₁
    rw [hWork, hPlain] at hBody hReply
    cases hReply with
    | more => cases hUpshot
    | step hAlike =>
      cases hUpshot
      exact .inr (.inl ⟨_, rfl, y', hBody, hResumes.congr hAlike⟩)
    | fault text text' =>
      cases hUpshot
      exact .inr (.inr ⟨text, rfl, hResumes⟩)

theorem Advance.due (h : Advance b w c phase w' c' next) (hKindred : Kindred b b' R)
    (hDrives : phase.drives = true) (hAbort : c.control.abortRequested = false)
    (hPending : ∀ condition, c.control.pending &&& condition = 0) (hDue : phase.Due b' R c rest) :
    ∃ rest', rest = (phase.act? b w c).toList.filterMap Act.happening? ++ rest' ∧
      Due b' R c' rest' next.drivers := by
  have hWorks {body : τ} {lines : List Log.Line} {reply : Reply σ}
      (hWork : b.work w c.body = (w', body, lines, reply)) (hHandling : phase = .handling) :=
    hKindred.handles hWork (hHandling ▸ hDue)
  cases h with
  | taken byWorker => exact ⟨rest, rfl, hDue⟩
  | stopped hAsked =>
    rw [hAbort] at hAsked
    cases hAsked
  | entered =>
    obtain ⟨y, hR, hLoops⟩ := hDue
    obtain ⟨y', u, rest', hHandles, hResumes, rfl⟩ := hLoops.cases_handles
    refine ⟨rest', ?_, _, y', u, hKindred.enter hR c.state, hHandles, hResumes⟩
    simp [Phase.act?, hAbort, Act.happening?]
  | more hWork =>
    rcases hWorks hWork rfl with ⟨_, hRest⟩ | ⟨s, hReply, _⟩ | ⟨text, hReply, _⟩
    · exact ⟨rest, by simp [Phase.act?, hWork, Reply.upshot?], hRest⟩
    · cases hReply
    · cases hReply
  | called request hWork =>
    rcases hWorks hWork rfl with ⟨hReply, _⟩ | ⟨s, hReply, _⟩ | ⟨text, hReply, _⟩
    · cases hReply
    · cases hReply
    · cases hReply
  | handled s hWork =>
    rcases hWorks hWork rfl with ⟨hReply, _⟩ | ⟨s', hReply, hRest⟩ | ⟨text, hReply, _⟩
    · cases hReply
    · cases hReply
      exact ⟨rest, by simp [Phase.act?, hWork, Reply.upshot?, Act.happening?], hRest⟩
    · cases hReply
  | faulted text hWork =>
    rcases hWorks hWork rfl with ⟨hReply, _⟩ | ⟨s, hReply, _⟩ | ⟨text', hReply, hRest⟩
    · cases hReply
    · cases hReply
    · exact ⟨rest, by simp [Phase.act?, hWork, Reply.upshot?, Act.happening?], hRest⟩
  | proceeded next => exact ⟨rest, rfl, hDue⟩
  | yielded next => exact ⟨rest, rfl, hDue⟩
  | passed next condition hAwait =>
    rw [Control.await_of_nothing (hPending condition) hAbort] at hAwait
    cases hAwait
  | suspended next condition hAwait =>
    obtain ⟨y, _, hNone⟩ := hDue
    exact ⟨[], hNone, rfl⟩
  | finished =>
    obtain ⟨y, _, hRest⟩ := hDue
    exact ⟨rest, rfl, hRest⟩
  | aborted =>
    obtain ⟨y, _, hRest⟩ := hDue
    exact ⟨rest, rfl, hRest⟩
  | requeued => exact ⟨rest, rfl, hDue⟩
  | left outcome => exact ⟨[], hDue, rfl⟩
  | parting hPart => exact ⟨[], hDue, rfl⟩
  | parted hPart => exact ⟨[], hDue, rfl⟩
  | lost text hPart => exact ⟨[], hDue, rfl⟩
  | completed => exact ⟨[], hDue, rfl⟩
  | gone holding => cases hDrives

end Due

namespace Run

variable {b : Behaviour ω τ σ} {b' : Behaviour ω' τ' σ} {R : τ → τ' → Prop} {w : ω}
  {s s' : Scene ω τ σ} {t : TaskId}

/-- Nobody signalled or aborted the task. -/
structure Undisturbed (r : Run b { world := w } s) (t : TaskId) : Prop where
  unsignalled : ∀ bits, .signalled bits ∉ r.history t
  unaborted : .aborted ∉ r.history t

theorem Undisturbed.before {r : Run b { world := w } s} {m : Move ω τ σ}
    {hMove : s.move b m = some s'} (h : (r.next m hMove).Undisturbed t) : r.Undisturbed t :=
  ⟨fun bits hMem => h.unsignalled bits (List.mem_append_left _ hMem),
    fun hMem => h.unaborted (List.mem_append_left _ hMem)⟩

theorem Undisturbed.not_called {r : Run b { world := w } s} {m : Move ω τ σ}
    {hMove : s.move b m = some s'} (h : (r.next m hMove).Undisturbed t) {c c' : Cell τ σ}
    (hCell : s.pool.cell? t = some c) (hCell' : s'.pool.cell? t = some c') {request : Call}
    (hCall : s.call? b m = some request) : request.task ≠ t := by
  rintro rfl
  have hIncidents := Scene.incidents_of_cells (b := b) (m := m) hCell hCell'
  rw [hCall] at hIncidents
  simp only [if_true] at hIncidents
  have hMem {e : Incident} (he : e ∈ request.incidents c.control c'.control) :
      e ∈ (r.next m hMove).history request.task := by
    refine List.mem_append_right _ ?_
    rw [hIncidents]
    exact List.mem_append_left _ he
  cases request with
  | signal u bits => exact h.unsignalled bits (hMem List.mem_cons_self)
  | abort u => exact h.unaborted (hMem List.mem_cons_self)

theorem Undisturbed.quiet {r : Run b { world := w } s} (h : r.Undisturbed t) {c : Cell τ σ}
    (hCell : s.pool.cell? t = some c) (hFinished : c.control.finished = false)
    (condition : UInt32) :
    c.control.pending &&& condition = 0 ∧ c.control.abortRequested = false := by
  refine ((r.tracks hCell).pending_eq_zero_iff hFinished condition).mpr ⟨?_, h.unaborted⟩
  rintro k _ ⟨before, bits, after, hHistory, _⟩
  exact h.unsignalled bits (hHistory ▸ List.mem_append_right _ List.mem_cons_self)

/-- What has happened to an undisturbed task and what the plain loop has left make up the whole
plain loop. -/
theorem due (hKindred : Kindred b b' R) (r : Run b { world := w } s) {body : τ} {body' : τ'}
    {first : σ} (hLaunch : r.launches[t]? = some (body, first)) (hR : R body body')
    {all : List (Happening σ)} (hLoops : b'.Loops body' first all)
    (hUndisturbed : r.Undisturbed t) :
    ∃ c rest, s.pool.cell? t = some c ∧
      (r.trace t).filterMap Act.happening? ++ rest = all ∧ Due b' R c rest (s.pool.drivers t) := by
  suffices hHolds : ∃ c, s.pool.cell? t = some c ∧ (r.Undisturbed t →
      ∃ rest, (r.trace t).filterMap Act.happening? ++ rest = all ∧
        Due b' R c rest (s.pool.drivers t)) by
    obtain ⟨c, hCell, hDue⟩ := hHolds
    obtain ⟨rest, hAll, hRest⟩ := hDue hUndisturbed
    exact ⟨c, rest, hCell, hAll, hRest⟩
  refine r.since_launch (P := fun {s} r c => r.Undisturbed t →
    ∃ rest, (r.trace t).filterMap Act.happening? ++ rest = all ∧
      Due b' R c rest (s.pool.drivers t)) ?_ ?_ hLaunch
  · intro s r hDrivers hTrace _
    rw [hDrivers, hTrace]
    exact ⟨all, rfl, body', hR, hLoops⟩
  · intro s s' r m hMove c c' hCell hCell' ih hUndisturbed
    have hSound := r.sound Pool.sound_empty
    obtain ⟨rest, hAll, hRest⟩ := ih hUndisturbed.before
    obtain ⟨d, drivers, e, hTurn, hAfter, hHears⟩ := Scene.view_of_move hMove hSound hCell
    obtain rfl := Option.some.inj (hCell'.symm.trans hAfter)
    have hTurned : ∃ rest', rest = (s.acts b m t).filterMap Act.happening? ++ rest' ∧
        Due b' R d rest' drivers := by
      generalize s.acts b m t = acts at hTurn
      cases hTurn with
      | idle => exact ⟨rest, rfl, hRest⟩
      | own hDrivers hDrives hAdvance =>
        rw [hDrivers] at hRest
        obtain ⟨d, hd, _, hFinished⟩ := hSound.driven t _ (hDrivers ▸ List.mem_singleton_self _)
        obtain rfl := Option.some.inj (hCell.symm.trans hd)
        have hQuiet := hUndisturbed.before.quiet hCell hFinished
        exact hAdvance.due hKindred hDrives (hQuiet 0).2 (fun condition => (hQuiet condition).1)
          hRest
    obtain ⟨rest', rfl, hRest'⟩ := hTurned
    refine ⟨rest', ?_, ?_⟩
    · rw [trace, List.filterMap_append, List.append_assoc, hAll]
    · generalize s'.pool.drivers t = drivers' at hHears
      cases hHears with
      | nothing => exact hRest'
      | heard byWorker hCall hTask =>
        exact absurd hTask (hUndisturbed.not_called hCell hCell' hCall)

theorem agrees_with_loop (hKindred : Kindred b b' R) (r : Run b { world := w } s) {body : τ}
    {body' : τ'} {first : σ} (hLaunch : r.launches[t]? = some (body, first)) (hR : R body body')
    {all : List (Happening σ)} (hLoops : b'.Loops body' first all)
    (hUndisturbed : r.Undisturbed t) :
    s.pool.happenings t <+: all ∧ (s.pool.drivers t = [] → s.pool.happenings t = all) := by
  obtain ⟨c, rest, _, hAll, hRest⟩ := r.due hKindred hLaunch hR hLoops hUndisturbed
  have hHappenings : s.pool.happenings t = (r.trace t).filterMap Act.happening? :=
    r.happenings_eq t
  rw [hHappenings]
  refine ⟨⟨rest, hAll⟩, fun hNone => ?_⟩
  rw [hNone] at hRest
  obtain rfl : rest = [] := hRest
  rwa [List.append_nil] at hAll

end Run

/-- A pool runs each task as a state machine of its own: each state is the first one or the one
named right before, and the outcome comes last and is that the task finished if and only if its last
step says so. A task that nobody signals or aborts and whose body is handled like another one in all
worlds goes the way of the plain loop of that other one, and so does the other one in any run. -/
theorem runs_as_state_machine {b : Behaviour ω τ σ} {w : ω} {s : Scene ω τ σ}
    (r : Run b { world := w } s) {t : TaskId} {body : τ} {first : σ}
    (hLaunch : r.launches[t]? = some (body, first)) :
    Sequential first (r.trace t) ∧
    s.pool.happenings t = (r.trace t).filterMap Act.happening? ∧
    (∀ before outcome after, r.trace t = before ++ .told outcome :: after →
      after = [] ∧ (outcome = .finished ↔ before.getLast? = some (.done (.step .finish)))) ∧
    ∀ {ω' τ' : Type} {b' : Behaviour ω' τ' σ} {R : τ → τ' → Prop} {w' : ω'} {s' : Scene ω' τ' σ}
      (r' : Run b' { world := w' } s') {t' : TaskId} {body' : τ'} {all : List (Happening σ)},
      Kindred b b' R → R body body' → r'.launches[t']? = some (body', first) →
        b'.Loops body' first all → r.Undisturbed t → r'.Undisturbed t' →
          s.pool.happenings t <+: all ∧ s'.pool.happenings t' <+: all ∧
          (s.pool.drivers t = [] → s.pool.happenings t = all) ∧
          (s'.pool.drivers t' = [] → s'.pool.happenings t' = all) := by
  obtain ⟨c, hCell, hCourse⟩ := r.course hLaunch
  refine ⟨hCourse.sequential, r.happenings_eq t, ?_, ?_⟩
  · intro before outcome after hTrace
    exact ⟨hCourse.sequential.told_last hTrace,
      (hCourse.sequential before _ after hTrace).finished_iff⟩
  · intro ω' τ' b' R w' s' r' t' body' all hKindred hR hLaunch' hLoops hUndisturbed hUndisturbed'
    have hSelf : Kindred b' b' fun y z => ∃ x, R x y ∧ R x z :=
      have : Nonempty ω := ⟨w⟩
      hKindred.symm.trans hKindred
    obtain ⟨hFirstPart, hWhole⟩ := r.agrees_with_loop hKindred hLaunch hR hLoops hUndisturbed
    obtain ⟨hFirstPart', hWhole'⟩ :=
      r'.agrees_with_loop hSelf hLaunch' ⟨body, hR, hR⟩ hLoops hUndisturbed'
    exact ⟨hFirstPart, hFirstPart', hWhole, hWhole'⟩

def Step.eager : Step σ → Step σ
  | yield next => proceed next
  | s => s

def Deed.eager (d : Deed) : Deed :=
  { d with
    ending := match d.ending with
      | .step s => .step s.eager
      | .fault text => .fault text }

namespace Routine

def eager (r : Routine) : Routine :=
  { r with
    states := r.states.map fun deeds => deeds.map Deed.eager
    atHand := r.atHand.eager }

/-- The routine asks nothing of other tasks. -/
structure Silent (r : Routine) : Prop where
  atHand : r.atHand.requests = []
  states : ∀ deeds ∈ r.states, ∀ d ∈ deeds, d.requests = []

theorem Silent.deedAt {r : Routine} (h : r.Silent) (state : UInt32) :
    (r.deedAt state).requests = [] := by
  rw [Routine.deedAt]
  split
  · rfl
  · next deeds hDeeds =>
    split
    · next d hd =>
      exact h.states deeds (List.mem_of_getElem? hDeeds) d (List.mem_of_getElem? hd)
    · rfl

theorem deedAt_eager (r : Routine) (state : UInt32) :
    r.eager.deedAt state = (r.deedAt state).eager := by
  rw [deedAt, deedAt, eager, List.getElem?_map, List.length_map]
  cases r.states[state.toNat]? with
  | none => rfl
  | some deeds =>
    simp only [Option.map_some, List.getElem?_map, List.length_map]
    cases deeds[min (r.visits.getD state.toNat 0) (deeds.length - 1)]? with
    | none => rfl
    | some d => rfl

/-- A silent routine depends on nothing but itself, and may go on at once where it yields. -/
theorem kindred_eager :
    Kindred behaviour behaviour fun r r' => r.Silent ∧ r' = r.eager := by
  constructor
  · rintro r _ ⟨hSilent, rfl⟩ state
    refine ⟨⟨hSilent.deedAt state, hSilent.states⟩, ?_⟩
    change enter state r.eager = (enter state r).eager
    rw [enter, deedAt_eager]
    rfl
  · rintro r _ ⟨hSilent, rfl⟩ labels labels'
    change _ ∧ Reply.Alike (work labels r).2.2.2 (work labels' r.eager).2.2.2
    have hRequests : r.eager.atHand.requests = [] := hSilent.atHand
    have hEnding : r.eager.atHand.ending = match r.atHand.ending with
      | .step s => .step s.eager
      | .fault text => .fault text := rfl
    simp only [behaviour, work, hSilent.atHand, hRequests, hEnding]
    cases r.atHand.ending with
    | fault text => exact ⟨⟨hSilent, rfl⟩, .fault text text⟩
    | step s =>
      refine ⟨⟨hSilent, rfl⟩, .step ?_⟩
      cases s with
      | yield next => exact .hurried next
      | _ => exact .same _

end Routine

def polite : Routine :=
  .make "polite" [[⟨[], .step (.yield 1)⟩], [⟨[], .step (.wait 2 1)⟩], [⟨[], .step .finish⟩]] false

def politeAlone : (s : Scene Labels Routine UInt32) × Run Routine.behaviour { world := [] } s :=
  Run.start.along (.launch polite 0 :: List.replicate 11 (.work 0))

/-- Its eager variant beside a task that is aborted. -/
def eagerBeside : (s : Scene Labels Routine UInt32) × Run Routine.behaviour { world := [] } s :=
  Run.start.along
    ([.launch (.make "other" [[⟨[], .step (.yield 0)⟩]] false) 0, .launch polite.eager 0, .work 1,
      .work 0, .work 0, .work 1, .ask (.abort 0)] ++ List.replicate 5 (.work 1))

/-- Both variants visit their first two states and wait then, as the plain loop does. -/
theorem runs_as_state_machine_polite :
    Sequential 0 (politeAlone.2.trace 0) ∧
      politeAlone.1.pool.happenings 0 = [.visited 0, .visited 1] ∧
      eagerBeside.1.pool.happenings 1 = [.visited 0, .visited 1] ∧
      politeAlone.1.pool.jobs = [] ∧ eagerBeside.2.trace 0 = [.begun 0] := by
  have hLaunch : politeAlone.2.launches[0]? = some (polite, 0) := by decide
  have hLaunch' : eagerBeside.2.launches[1]? = some (polite.eager, 0) := by decide
  have hHistory : politeAlone.2.history 0 = [.suspended 1] := by decide
  have hHistory' : eagerBeside.2.history 1 = [.suspended 1] := by decide
  have hSilent : polite.Silent := ⟨rfl, by decide⟩
  have hLoops : Routine.behaviour.Loops polite.eager 0 [.visited 0, .visited 1] :=
    .goesOn (.last (show Routine.behaviour.work [] _ = _ from rfl) rfl) (.inl rfl)
      (.waits (.last (show Routine.behaviour.work [] _ = _ from rfl) rfl))
  obtain ⟨hSequential, _, _, hAgree⟩ := runs_as_state_machine politeAlone.2 hLaunch
  have hUndisturbed : politeAlone.2.Undisturbed 0 := ⟨by simp [hHistory], by simp [hHistory]⟩
  have hUndisturbed' : eagerBeside.2.Undisturbed 1 := ⟨by simp [hHistory'], by simp [hHistory']⟩
  obtain ⟨_, _, hAlone, hBeside⟩ := hAgree eagerBeside.2 Routine.kindred_eager ⟨hSilent, rfl⟩
    hLaunch' hLoops hUndisturbed hUndisturbed'
  exact ⟨hSequential, hAlone (by decide), hBeside (by decide), by decide, by decide⟩

end PipelineForge.Tasks
