import PipelineForge.Proofs.Tasks.Runs

/-!
# Modes of tasks

The mode of a task sums up its control block, its state and its driver: it rests before a state,
handles it, has an outcome, is told it, or has left. A step of a pool shifts the mode and the body
of one task, calls of any kind shift none. Suspended and queued tasks are both at rest here.
-/

namespace PipelineForge.Tasks

variable {ω τ σ : Type}

inductive Mode (σ : Type) where
  /-- Will handle a state next. -/
  | resting (next : σ)
  | working
  | ended (outcome : Outcome)
  | leaving
  | left
  /-- Did not survive its end. -/
  | lost

def Step.mode : Step σ → Mode σ
  | proceed next => .resting next
  | yield next => .resting next
  | wait next _ => .resting next
  | finish => .ended .finished
  | abort => .ended .aborted

def Reply.mode : Reply σ → Mode σ
  | step s => s.mode
  | fault _ => .ended .aborted
  | _ => .working

def Phase.mode (state : σ) : Phase σ → Mode σ
  | handling => .working
  | handled s => s.mode
  | ending outcome => .ended outcome
  | parting => .leaving
  | ended => .left
  | going _ => .left
  | _ => .resting state

def Cell.mode (c : Cell τ σ) : List (Phase σ) → Mode σ
  | [] =>
    if c.control.finished then .left else if c.control.scheduled then .lost else .resting c.state
  | phase :: _ => phase.mode c.state

/-- What a step can do to the mode and the body of a task, and to the world. -/
inductive Shift (b : Behaviour ω τ σ) (w : ω) (body : τ) : Mode σ → ω → τ → Mode σ → Prop where
  | still (mode : Mode σ) : Shift b w body mode w body mode
  | entered (s : σ) : Shift b w body (.resting s) w (b.enter s body) .working
  | stopped (s : σ) : Shift b w body (.resting s) w body (.ended .aborted)
  | worked {w' : ω} {body' : τ} {lines : List Log.Line} {reply : Reply σ}
      (hWork : b.work w body = (w', body', lines, reply)) (hHeld : reply ≠ .held) :
      Shift b w body .working w' body' reply.mode
  | told (outcome : Outcome) : Shift b w body (.ended outcome) w (b.leave outcome body) .leaving
  | parting {w' : ω} {body' : τ} {lines : List Log.Line}
      (hPart : b.part w body = (w', body', lines, .more)) :
      Shift b w body .leaving w' body' .leaving
  | parted {w' : ω} {body' : τ} {lines : List Log.Line}
      (hPart : b.part w body = (w', body', lines, .gone)) : Shift b w body .leaving w' body' .left
  | lost {w' : ω} {body' : τ} {lines : List Log.Line} (text : String)
      (hPart : b.part w body = (w', body', lines, .fault text)) :
      Shift b w body .leaving w' body' .lost

theorem Call.change_of_finished (request : Call) {c : Control} (h : c.finished = true) :
    request.change c = (c, false) := by
  cases request with
  | signal t bits => exact Control.signal_of_finished bits h
  | abort t => exact Control.abort_of_ignored (.inl h)

namespace Pool

def member? (p : Pool τ σ) (t : TaskId) : Option (τ × Mode σ) :=
  (p.cell? t).map fun c => (c.body, c.mode (p.drivers t))

def bodies (p : Pool τ σ) : List τ := p.cells.map Cell.body

theorem member?_of_cell {p : Pool τ σ} {t : TaskId} {c : Cell τ σ} (h : p.cell? t = some c) :
    p.member? t = some (c.body, c.mode (p.drivers t)) := by rw [member?, h, Option.map_some]

theorem Sound.left_of_finished {p : Pool τ σ} (h : p.Sound) {t : TaskId}
    (hFinished : p.isFinished t = true) {body : τ} {mode : Mode σ}
    (hMember : p.member? t = some (body, mode)) : mode = .left := by
  obtain ⟨c, hCell, hSame⟩ := Option.map_eq_some_iff.mp hMember
  rw [isFinished, control?, hCell] at hFinished
  have hFinished : c.control.finished = true := hFinished
  obtain rfl : c.mode (p.drivers t) = mode := congrArg Prod.snd hSame
  rw [h.drivers_eq_nil hCell (.inr hFinished), Cell.mode, if_pos hFinished]

theorem bodies_getElem? (p : Pool τ σ) (t : TaskId) :
    p.bodies[t]? = (p.member? t).map Prod.fst := by
  rw [bodies, List.getElem?_map, member?, Option.map_map]
  rfl

theorem bodies_setCell (p : Pool τ σ) (t : TaskId) (c : Cell τ σ) :
    (p.setCell t c).bodies = p.bodies.set t c.body := by rw [bodies, setCell, List.map_set, bodies]

theorem bodies_onControl (p : Pool τ σ) (t : TaskId) (byWorker : Bool)
    (f : Control → Control × Bool) : (p.onControl t byWorker f).bodies = p.bodies := by
  cases hCell : p.cell? t with
  | none => rw [onControl_of_none hCell]
  | some c =>
    have hSame : (p.setCell t { c with control := (f c.control).1 }).bodies = p.bodies := by
      rw [bodies_setCell]
      obtain ⟨ht, hc⟩ := List.getElem?_eq_some_iff.mp hCell
      apply List.ext_getElem?
      intro u
      by_cases hu : t = u
      · subst hu
        rw [List.getElem?_set_self (by rwa [bodies, List.length_map]), bodies, List.getElem?_map]
        rw [show p.cells[t]? = some c from hCell]
        rfl
      · rw [List.getElem?_set_ne hu]
    rw [onControl_of_cell hCell]
    split
    · exact hSame
    · exact hSame

/-- A call changes no mode: the task that it wakes was at rest and stays so. -/
theorem member?_onControl {p : Pool τ σ} (h : p.Sound) (byWorker : Bool) (request : Call)
    (u : TaskId) : (p.onControl request.task byWorker request.change).member? u = p.member? u := by
  cases hCell : p.cell? request.task with
  | none => rw [onControl_of_none hCell]
  | some c =>
    by_cases hu : u = request.task
    · subst hu
      rw [member?_of_cell hCell, member?, cell?_onControl hCell, if_pos rfl, Option.map_some,
        drivers_onControl hCell]
      cases hFlag : (request.change c.control).2 with
      | true =>
        have hWakes := Call.change_wakes hFlag
        have hFinished : c.control.finished = false := by
          cases hFinished : c.control.finished with
          | false => rfl
          | true =>
            rw [request.change_of_finished hFinished] at hFlag
            cases hFlag
        rw [h.drivers_eq_nil hCell (.inl hWakes.1)]
        simp [Cell.mode, Phase.mode, hWakes.1, hFinished]
      | false =>
        obtain ⟨hScheduled, hFinished⟩ := Call.change_keeps hFlag
        cases hDrivers : p.drivers request.task with
        | nil => simp [Cell.mode, hScheduled, hFinished]
        | cons phase rest => simp [Cell.mode]
    · rw [member?, member?, cell?_onControl hCell, if_neg hu, drivers_onControl hCell,
        if_neg (fun hBoth => hu hBoth.2.symm), List.append_nil]

theorem member?_run {p : Pool τ σ} (h : p.Sound) (body : τ) (first : σ) (u : Nat) :
    (p.run body first).1.member? u =
      if u = p.cells.length then some (body, .resting first) else p.member? u := by
  rw [member?, cell?_run, drivers_run]
  by_cases hNew : u = p.cells.length
  · have hNone : p.cell? u = none := List.getElem?_eq_none (Nat.le_of_eq hNew.symm)
    rw [if_pos hNew, if_pos hNew, if_pos hNew.symm, h.drivers_of_none hNone]
    rfl
  · rw [if_neg hNew, if_neg hNew, if_neg (Ne.symm hNew), List.append_nil, member?]

theorem bodies_run (p : Pool τ σ) (body : τ) (first : σ) :
    (p.run body first).1.bodies = p.bodies ++ [body] := by
  simp [bodies, run, queue]

theorem member?_put {p : Pool τ σ} (h : p.Sound) {i : Nat} {t : TaskId} {phase : Phase σ}
    {c c' : Cell τ σ} {next : Next σ} (hJob : p.jobs[i]? = some ⟨t, phase⟩)
    (hDrives : phase.drives = true) (hCell : p.cell? t = some c)
    (hNext : ∀ request, next ≠ .called request) (u : TaskId) :
    (p.put i t c' next).member? u =
      if u = t then some (c'.body, c'.mode next.drivers) else p.member? u := by
  rw [member?, cell?_put hCell i c' hNext]
  by_cases hu : u = t
  · subst hu
    rw [if_pos rfl, if_pos rfl, drivers_put_self c' hJob hDrives (h.alone u) hNext,
      Option.map_some]
  · rw [if_neg hu, if_neg hu, drivers_put_of_ne c' hJob hu hNext, member?]

theorem member?_congr {p q : Pool τ σ} (hCells : q.cells = p.cells) (hJobs : q.jobs = p.jobs)
    (u : TaskId) : q.member? u = p.member? u := by
  rw [member?, member?, drivers_eq_of_jobs_eq hJobs, cell?, cell?, hCells]

/-- What a step of a pool is to its members: a shift of one of them. -/
structure Shifts (b : Behaviour ω τ σ) (p : Pool τ σ) (w : ω) (i : Nat) (p' : Pool τ σ) (w' : ω)
    (t : TaskId) (body : τ) (mode : Mode σ) (body' : τ) (mode' : Mode σ) : Prop where
  job : (p.jobs[i]?).map Job.task = some t
  member : p.member? t = some (body, mode)
  shift : Shift b w body mode w' body' mode'
  members : ∀ u, p'.member? u = if u = t then some (body', mode') else p.member? u
  bodies : p'.bodies = p.bodies.set t body'

theorem shift_of_advance {b : Behaviour ω τ σ} {w w' : ω} {c c' : Cell τ σ} {phase : Phase σ}
    {next : Next σ} (h : Advance b w c phase w' c' next) (hDrives : phase.drives = true)
    (hScheduled : c.control.scheduled = true) (hFinished : c.control.finished = false) :
    Shift b w c.body (phase.mode c.state) w' c'.body (c'.mode next.drivers) := by
  cases h with
  | taken byWorker => exact .still _
  | stopped hAbort => exact .stopped _
  | entered hAbort => exact .entered _
  | more hWork => exact .worked hWork nofun
  | called request hWork => exact .worked hWork nofun
  | handled s hWork => exact .worked hWork nofun
  | faulted text hWork => exact .worked hWork nofun
  | proceeded next => exact .still _
  | yielded next => exact .still _
  | passed next condition hAwait => exact .still _
  | suspended next condition hAwait =>
    obtain ⟨hPending, hAbort⟩ := Control.await_suspends_iff.mp hAwait
    have hMode : ({ c with state := next, control := (c.control.await condition).1 } :
        Cell τ σ).mode [] = .resting next := by
      simp [Control.await_of_nothing hPending hAbort, Cell.mode, hFinished]
    change Shift b w c.body (.resting next) w c.body (Cell.mode _ [])
    rw [hMode]
    exact .still _
  | finished => exact .still _
  | aborted => exact .still _
  | requeued => exact .still _
  | left outcome => exact .told outcome
  | parting hPart => exact .parting hPart
  | parted hPart => exact .parted hPart
  | lost text hPart =>
    have hMode (body : τ) : ({ c with body } : Cell τ σ).mode [] = .lost := by
      simp [Cell.mode, hFinished, hScheduled]
    change Shift b w c.body .leaving w' _ (Cell.mode _ [])
    rw [hMode]
    exact .lost text hPart
  | completed => exact .still _
  | gone holding => cases hDrives

theorem member?_next {b : Behaviour ω τ σ} {p : Pool τ σ} {w w' : ω} {i : Nat} {t : TaskId}
    {phase : Phase σ} {c c' : Cell τ σ} {next : Next σ} (h : p.Sound)
    (hJob : p.jobs[i]? = some ⟨t, phase⟩) (hDrives : phase.drives = true)
    (hCell : p.cell? t = some c) (hAdvance : Advance b w c phase w' c' next) (u : TaskId) :
    (p.put i t c' next).member? u =
      if u = t then some (c'.body, c'.mode next.drivers) else p.member? u := by
  by_cases hCalled : ∃ request, next = .called request
  · obtain ⟨request, rfl⟩ := hCalled
    cases hAdvance with
    | @called _ body _ _ hWork =>
      have hSound : (p.setCell t { c with body }).Sound := by
        apply h.setCell hCell
        rfl
      rw [put, call_eq, member?_onControl hSound, member?, cell?_setCell p hCell]
      by_cases hu : u = t
      · subst hu
        rw [if_pos rfl, if_pos rfl, Option.map_some, drivers_setCell,
          drivers_of_job hJob hDrives (h.alone u)]
        rfl
      · rw [if_neg hu, if_neg hu, drivers_setCell, member?]
  · exact member?_put h hJob hDrives hCell (fun request heq => hCalled ⟨request, heq⟩) u

theorem bodies_put (p : Pool τ σ) (i : Nat) (t : TaskId) (c : Cell τ σ) (next : Next σ) :
    (p.put i t c next).bodies = p.bodies.set t c.body := by
  cases next with
  | called request => rw [put, call_eq, bodies_onControl, bodies_setCell]
  | phase next => exact bodies_setCell p t c
  | requeued => exact bodies_setCell p t c
  | gone => exact bodies_setCell p t c

theorem step_shifts {b : Behaviour ω τ σ} {p p' : Pool τ σ} {w w' : ω} {i : Nat} (h : p.Sound)
    (hStep : p.step b w i = some (p', w')) :
    ∃ t body mode body' mode', Shifts b p w i p' w' t body mode body' mode' := by
  obtain ⟨t, phase, c, c', next, hJob, hCell, _, hAdvance, hCells, hJobs⟩ := step_cases hStep
  have hTask : (p.jobs[i]?).map Job.task = some t := by rw [hJob, Option.map_some]
  have hMember := member?_of_cell hCell
  have hBodies : p'.bodies = (p.put i t c' next).bodies := by rw [bodies, hCells, bodies]
  have hMembers (u : TaskId) := member?_congr hCells hJobs u
  by_cases hDrives : phase.drives = true
  · obtain ⟨hScheduled, hFinished⟩ := h.of_job hJob hDrives hCell
    have hShift := shift_of_advance hAdvance hDrives hScheduled hFinished
    rw [drivers_of_job hJob hDrives (h.alone t)] at hMember
    refine ⟨t, _, _, _, _, hTask, hMember, hShift, ?_, ?_⟩
    · intro u
      rw [hMembers]
      exact member?_next h hJob hDrives hCell hAdvance u
    · rw [hBodies]
      exact bodies_put p i t c' next
  · cases hAdvance with
    | gone holding =>
      have hDrivers := drivers_put_gone c hJob (by simpa using hDrives)
      have hPut : (p.put i t c .gone).cells = p.cells := by rw [put, setCell_same hCell]; rfl
      refine ⟨t, _, _, _, _, hTask, hMember, .still _, ?_, ?_⟩
      · intro u
        rw [hMembers, member?, hDrivers, cell?, hPut]
        split
        · next hu =>
          rw [hu]
          exact hMember
        · rfl
      · rw [hBodies]
        exact bodies_put p i t c .gone
    | _ => exact absurd rfl hDrives

end Pool

end PipelineForge.Tasks
