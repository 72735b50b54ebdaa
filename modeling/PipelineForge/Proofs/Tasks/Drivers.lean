import PipelineForge.Proofs.Lists
import PipelineForge.Tasks.Pool

/-!
# Drivers of tasks

A job drives its task until it has given the task up; a job that is about to go does not drive any
more. Every step of a job is told here as an advance of one task: what becomes of its cell and of
the job. The number of workers and the order of the steps are left open.
-/

namespace PipelineForge.Tasks

variable {ω τ σ : Type}

def Phase.drives : Phase σ → Bool
  | going _ => false
  | _ => true

def driversIn (jobs : List (Job σ)) (t : TaskId) : List (Phase σ) :=
  jobs.filterMap fun j => if j.task = t ∧ j.phase.drives then some j.phase else none

theorem driversIn_append (js ks : List (Job σ)) (t : TaskId) :
    driversIn (js ++ ks) t = driversIn js t ++ driversIn ks t := List.filterMap_append

theorem driversIn_cons (j : Job σ) (js : List (Job σ)) (t : TaskId) :
    driversIn (j :: js) t =
      (if j.task = t ∧ j.phase.drives then [j.phase] else []) ++ driversIn js t := by
  rw [driversIn, List.filterMap_cons]
  split
  · next h => split at h <;> simp_all [driversIn]
  · next h => split at h <;> simp_all [driversIn]

theorem driversIn_single (j : Job σ) (t : TaskId) :
    driversIn [j] t = if j.task = t ∧ j.phase.drives then [j.phase] else [] := by
  rw [driversIn_cons]
  exact List.append_nil _

/-- What becomes of a job that made a step. -/
inductive Next (σ : Type) where
  | phase (p : Phase σ)
  /-- Goes, after it queued a new job of its task. -/
  | requeued
  | gone
  /-- Goes on, after it asked something of the pool. -/
  | called (c : Call)

def Next.drivers : Next σ → List (Phase σ)
  | phase p => if p.drives then [p] else []
  | requeued => [.queued true]
  | gone => []
  | called _ => [.handling]

/-- One step of a job on the cell of its task. -/
inductive Advance (b : Behaviour ω τ σ) (w : ω) (c : Cell τ σ) :
    Phase σ → ω → Cell τ σ → Next σ → Prop where
  | taken (byWorker : Bool) : Advance b w c (.queued byWorker) w c (.phase .ready)
  | stopped (hAbort : c.control.abortRequested = true) :
      Advance b w c .ready w c (.phase (.ending .aborted))
  | entered (hAbort : c.control.abortRequested = false) :
      Advance b w c .ready w { c with body := b.enter c.state c.body } (.phase .handling)
  | more {w' : ω} {body : τ} {lines : List Log.Line}
      (hWork : b.work w c.body = (w', body, lines, .more)) :
      Advance b w c .handling w' { c with body } (.phase .handling)
  | called {w' : ω} {body : τ} {lines : List Log.Line} (request : Call)
      (hWork : b.work w c.body = (w', body, lines, .call request)) :
      Advance b w c .handling w' { c with body } (.called request)
  | handled {w' : ω} {body : τ} {lines : List Log.Line} (s : Step σ)
      (hWork : b.work w c.body = (w', body, lines, .step s)) :
      Advance b w c .handling w' { c with body } (.phase (.handled s))
  | faulted {w' : ω} {body : τ} {lines : List Log.Line} (text : String)
      (hWork : b.work w c.body = (w', body, lines, .fault text)) :
      Advance b w c .handling w' { c with body } (.phase (.ending .aborted))
  | proceeded (next : σ) :
      Advance b w c (.handled (.proceed next)) w { c with state := next } (.phase .ready)
  | yielded (next : σ) :
      Advance b w c (.handled (.yield next)) w { c with state := next } (.phase .requeueing)
  | passed (next : σ) (condition : UInt32) (hAwait : (c.control.await condition).2 = true) :
      Advance b w c (.handled (.wait next condition)) w
        { c with state := next, control := (c.control.await condition).1 } (.phase .ready)
  | suspended (next : σ) (condition : UInt32) (hAwait : (c.control.await condition).2 = false) :
      Advance b w c (.handled (.wait next condition)) w
        { c with state := next, control := (c.control.await condition).1 } (.phase (.going true))
  | finished : Advance b w c (.handled .finish) w c (.phase (.ending .finished))
  | aborted : Advance b w c (.handled .abort) w c (.phase (.ending .aborted))
  | requeued : Advance b w c .requeueing w c .requeued
  | left (outcome : Outcome) :
      Advance b w c (.ending outcome) w { c with body := b.leave outcome c.body } (.phase .parting)
  | parting {w' : ω} {body : τ} {lines : List Log.Line}
      (hPart : b.part w c.body = (w', body, lines, .more)) :
      Advance b w c .parting w' { c with body } (.phase .parting)
  | parted {w' : ω} {body : τ} {lines : List Log.Line}
      (hPart : b.part w c.body = (w', body, lines, .gone)) :
      Advance b w c .parting w' { c with body } (.phase .ended)
  | lost {w' : ω} {body : τ} {lines : List Log.Line} (text : String)
      (hPart : b.part w c.body = (w', body, lines, .fault text)) :
      Advance b w c .parting w' { c with body } .gone
  | completed :
      Advance b w c .ended w { c with control := c.control.complete } (.phase (.going true))
  | gone (holding : Bool) : Advance b w c (.going holding) w c .gone

namespace Pool

def drivers (p : Pool τ σ) (t : TaskId) : List (Phase σ) := driversIn p.jobs t

theorem drivers_eq_of_jobs_eq {p q : Pool τ σ} (h : p.jobs = q.jobs) (t : TaskId) :
    p.drivers t = q.drivers t := by rw [drivers, drivers, h]

@[simp] theorem drivers_setCell (p : Pool τ σ) (t u : TaskId) (c : Cell τ σ) :
    (p.setCell t c).drivers u = p.drivers u := rfl

theorem drivers_queue (p : Pool τ σ) (t u : TaskId) (byWorker : Bool) :
    (p.queue t byWorker).drivers u =
      p.drivers u ++ if t = u then [.queued byWorker] else [] := by
  rw [drivers, queue, driversIn_append, driversIn_single]
  simp [Phase.drives, drivers]

theorem cell?_setCell (p : Pool τ σ) {t : TaskId} {c : Cell τ σ} (h : p.cell? t = some c)
    (c' : Cell τ σ) (u : TaskId) :
    (p.setCell t c').cell? u = if u = t then some c' else p.cell? u := by
  have ht : t < p.cells.length := (List.getElem?_eq_some_iff.mp h).1
  by_cases heq : u = t
  · rw [if_pos heq, heq]
    exact List.getElem?_set_self ht
  · rw [if_neg heq]
    exact List.getElem?_set_ne (Ne.symm heq)

theorem setCell_same {p : Pool τ σ} {t : TaskId} {c : Cell τ σ} (h : p.cell? t = some c) :
    p.setCell t c = p := by
  have hSet : p.cells.set t c = p.cells := by
    obtain ⟨ht, hc⟩ := List.getElem?_eq_some_iff.mp h
    rw [← hc, List.set_getElem_self]
  rw [setCell, hSet]

theorem setPhase_same {p : Pool τ σ} {i : Nat} {t : TaskId} {phase : Phase σ}
    (h : p.jobs[i]? = some ⟨t, phase⟩) : p.setPhase i t phase = p := by
  have hSet : p.jobs.set i ⟨t, phase⟩ = p.jobs := by
    obtain ⟨hi, hJob⟩ := List.getElem?_eq_some_iff.mp h
    rw [← hJob, List.set_getElem_self]
  rw [setPhase, hSet]

theorem onControl_write (p : Pool τ σ) (lines : List Log.Line) (t : TaskId) (byWorker : Bool)
    (f : Control → Control × Bool) :
    (p.write lines).onControl t byWorker f = (p.onControl t byWorker f).write lines := by
  have hCell : (p.write lines).cell? t = p.cell? t := rfl
  rw [onControl, onControl, hCell]
  cases p.cell? t with
  | none => rfl
  | some c =>
    cases hf : f c.control with
    | mk control flag => cases flag <;> simp only [hf] <;> rfl

theorem call_write (p : Pool τ σ) (lines : List Log.Line) (request : Call) :
    (p.write lines).call request = (p.call request).write lines := by
  cases request with
  | signal t bits => exact onControl_write p lines t true (·.signal bits)
  | abort t => exact onControl_write p lines t true Control.abort

def put (p : Pool τ σ) (i : Nat) (t : TaskId) (c : Cell τ σ) : Next σ → Pool τ σ
  | .phase phase => (p.setCell t c).setPhase i t phase
  | .requeued => ((p.setCell t c).queue t true).setPhase i t (.going false)
  | .gone => (p.setCell t c).removeJob i
  | .called request => (p.setCell t c).call request

/-- What a step of a pool is: the advance of the task of one job. -/
structure Advances (b : Behaviour ω τ σ) (p : Pool τ σ) (w : ω) (i : Nat) (p' : Pool τ σ) (w' : ω)
    (t : TaskId) (phase : Phase σ) (c c' : Cell τ σ) (next : Next σ) : Prop where
  job : p.jobs[i]? = some ⟨t, phase⟩
  cell : p.cell? t = some c
  free : phase.isQueued = true → p.isHeld t = false
  advance : Advance b w c phase w' c' next
  cells : p'.cells = (p.put i t c' next).cells
  jobs : p'.jobs = (p.put i t c' next).jobs

theorem settleStep_cases {b : Behaviour ω τ σ} {p : Pool τ σ} {i : Nat} {t : TaskId}
    {c : Cell τ σ} (hc : p.cell? t = some c) (w : ω) (s : Step σ) :
    ∃ c' next, Advance b w c (.handled s) w c' next ∧ p.settleStep i t c s = p.put i t c' next := by
  cases s with
  | proceed next => exact ⟨_, _, .proceeded next, rfl⟩
  | yield next => exact ⟨_, _, .yielded next, rfl⟩
  | wait next condition =>
    cases hAwait : c.control.await condition with
    | mk control passes =>
      cases passes with
      | true =>
        refine ⟨_, _, .passed next condition (by rw [hAwait]), ?_⟩
        simp only [settleStep, hAwait]
        rfl
      | false =>
        refine ⟨_, _, .suspended next condition (by rw [hAwait]), ?_⟩
        simp only [settleStep, hAwait]
        rfl
  | finish =>
    refine ⟨_, _, .finished, ?_⟩
    rw [put, setCell_same hc, settleStep]
  | abort =>
    refine ⟨_, _, .aborted, ?_⟩
    rw [put, setCell_same hc, settleStep]

theorem work_cases {b : Behaviour ω τ σ} {p p' : Pool τ σ} {w w' : ω} {i : Nat} {t : TaskId}
    {c : Cell τ σ} (hJob : p.jobs[i]? = some ⟨t, .handling⟩)
    (h : work b p w i t c = some (p', w')) :
    ∃ c' next, Advance b w c .handling w' c' next ∧
      p'.cells = (p.put i t c' next).cells ∧ p'.jobs = (p.put i t c' next).jobs := by
  cases hWork : b.work w c.body with
  | mk w₁ rest =>
    obtain ⟨body, lines, reply⟩ := rest
    simp only [work, hWork] at h
    cases reply with
    | held => cases h
    | more =>
      cases h
      refine ⟨_, _, .more hWork, rfl, ?_⟩
      rw [put, setPhase_same (show (p.setCell t _).jobs[i]? = _ from hJob)]
      rfl
    | call request =>
      cases h
      refine ⟨_, _, .called request hWork, ?_, ?_⟩
      · rw [call_write]
        rfl
      · rw [call_write]
        rfl
    | step s =>
      cases h
      exact ⟨_, _, .handled s hWork, rfl, rfl⟩
    | fault text =>
      cases h
      exact ⟨_, _, .faulted text hWork, rfl, rfl⟩

theorem part_cases {b : Behaviour ω τ σ} {p p' : Pool τ σ} {w w' : ω} {i : Nat} {t : TaskId}
    {c : Cell τ σ} (hJob : p.jobs[i]? = some ⟨t, .parting⟩) (h : part b p w i t c = (p', w')) :
    ∃ c' next, Advance b w c .parting w' c' next ∧
      p'.cells = (p.put i t c' next).cells ∧ p'.jobs = (p.put i t c' next).jobs := by
  cases hPart : b.part w c.body with
  | mk w₁ rest =>
    obtain ⟨body, lines, parting⟩ := rest
    simp only [part, hPart] at h
    cases parting with
    | more =>
      cases h
      refine ⟨_, _, .parting hPart, rfl, ?_⟩
      rw [put, setPhase_same (show (p.setCell t _).jobs[i]? = _ from hJob)]
      rfl
    | gone =>
      cases h
      exact ⟨_, _, .parted hPart, rfl, rfl⟩
    | fault text =>
      cases h
      exact ⟨_, _, .lost text hPart, rfl, rfl⟩

/-- Every step is an advance of the task of one job, and nothing else happens to cells and jobs. -/
theorem step_cases {b : Behaviour ω τ σ} {p p' : Pool τ σ} {w w' : ω} {i : Nat}
    (h : p.step b w i = some (p', w')) :
    ∃ t phase c c' next, Advances b p w i p' w' t phase c c' next := by
  rw [step] at h
  split at h
  · cases h
  next t phase hJob =>
  split at h
  · cases h
  next c hCell =>
  cases phase with
  | queued byWorker =>
    simp only at h
    split at h
    · cases h
    next hFree =>
    cases h
    refine ⟨t, _, c, c, _, hJob, hCell, fun _ => by simpa using hFree, .taken byWorker, ?_, ?_⟩
    · rw [put, setCell_same hCell]
    · rfl
  | ready =>
    cases h
    rw [takeUp]
    split
    · next hAbort =>
      refine ⟨t, _, c, c, _, hJob, hCell, nofun, .stopped hAbort, ?_, ?_⟩
      · rw [put, setCell_same hCell]
      · rfl
    · next hAbort =>
      exact ⟨t, _, c, _, _, hJob, hCell, nofun, .entered (by simpa using hAbort), rfl, rfl⟩
  | handling =>
    obtain ⟨c', next, hAdvance, hCells, hJobs⟩ := work_cases hJob h
    exact ⟨t, _, c, c', next, hJob, hCell, nofun, hAdvance, hCells, hJobs⟩
  | handled s =>
    cases h
    obtain ⟨c', next, hAdvance, hSettle⟩ := settleStep_cases (b := b) (i := i) hCell w s
    exact ⟨t, _, c, c', next, hJob, hCell, nofun, hAdvance, by rw [hSettle], by rw [hSettle]⟩
  | requeueing =>
    cases h
    refine ⟨t, _, c, c, _, hJob, hCell, nofun, .requeued, ?_, ?_⟩
    · rw [put, setCell_same hCell]
    · rfl
  | ending outcome =>
    cases h
    exact ⟨t, _, c, _, _, hJob, hCell, nofun, .left outcome, rfl, rfl⟩
  | parting =>
    obtain ⟨c', next, hAdvance, hCells, hJobs⟩ := part_cases hJob (Option.some.inj h)
    exact ⟨t, _, c, c', next, hJob, hCell, nofun, hAdvance, hCells, hJobs⟩
  | ended =>
    cases h
    exact ⟨t, _, c, _, _, hJob, hCell, nofun, .completed, rfl, rfl⟩
  | going holding =>
    cases h
    refine ⟨t, _, c, c, _, hJob, hCell, nofun, .gone holding, ?_, ?_⟩
    · rw [put, setCell_same hCell]
    · rfl

theorem mem_drivers_of_job {p : Pool τ σ} {i : Nat} {t : TaskId} {phase : Phase σ}
    (hJob : p.jobs[i]? = some ⟨t, phase⟩) (hDrives : phase.drives = true) :
    phase ∈ p.drivers t := by
  apply List.mem_filterMap.mpr
  exact ⟨⟨t, phase⟩, List.mem_of_getElem? hJob, if_pos ⟨rfl, hDrives⟩⟩

theorem drivers_of_job {p : Pool τ σ} {i : Nat} {t : TaskId} {phase : Phase σ}
    (hJob : p.jobs[i]? = some ⟨t, phase⟩) (hDrives : phase.drives = true)
    (hAlone : (p.drivers t).length ≤ 1) : p.drivers t = [phase] := by
  have hMem := mem_drivers_of_job hJob hDrives
  cases hDrivers : p.drivers t with
  | nil =>
    rw [hDrivers] at hMem
    cases hMem
  | cons first rest =>
    rw [hDrivers] at hMem hAlone
    cases rest with
    | nil => rw [List.mem_singleton.mp hMem]
    | cons second rest => simp at hAlone

theorem drivers_put_of_ne {p : Pool τ σ} {i : Nat} {t u : TaskId} {phase : Phase σ}
    (c : Cell τ σ) {next : Next σ} (hJob : p.jobs[i]? = some ⟨t, phase⟩) (hu : u ≠ t)
    (hNext : ∀ request, next ≠ .called request) :
    (p.put i t c next).drivers u = p.drivers u := by
  obtain ⟨front, back, hJobs, rfl⟩ := exists_split hJob
  have hOld : ¬ (t = u ∧ phase.drives = true) := fun h => hu h.1.symm
  cases next with
  | phase next =>
    have hNew : ¬ (t = u ∧ next.drives = true) := fun h => hu h.1.symm
    simp [put, drivers, setPhase, setCell, hJobs, driversIn_append, driversIn_cons, hOld, hNew]
  | requeued =>
    simp [put, drivers, queue, setPhase, setCell, hJobs, driversIn_append, driversIn_cons,
      ↓driversIn_single, hu.symm]
  | gone =>
    simp [put, drivers, removeJob, setCell, hJobs, eraseIdx_split, driversIn_append,
      driversIn_cons, hOld]
  | called request => exact absurd rfl (hNext request)

theorem drivers_put_self {p : Pool τ σ} {i : Nat} {t : TaskId} {phase : Phase σ}
    (c : Cell τ σ) {next : Next σ} (hJob : p.jobs[i]? = some ⟨t, phase⟩)
    (hDrives : phase.drives = true) (hAlone : (p.drivers t).length ≤ 1)
    (hNext : ∀ request, next ≠ .called request) :
    (p.put i t c next).drivers t = next.drivers := by
  have hDrivers := drivers_of_job hJob hDrives hAlone
  obtain ⟨front, back, hJobs, rfl⟩ := exists_split hJob
  rw [drivers, hJobs, driversIn_append, driversIn_cons, if_pos ⟨rfl, hDrives⟩] at hDrivers
  obtain ⟨hFront, hBack⟩ : driversIn front t = [] ∧ driversIn back t = [] := by
    have hLength := congrArg List.length hDrivers
    simp only [List.length_append, List.length_singleton] at hLength
    exact ⟨List.length_eq_zero_iff.mp (by omega), List.length_eq_zero_iff.mp (by omega)⟩
  cases next with
  | phase next =>
    simp [put, drivers, setPhase, setCell, hJobs, driversIn_append, driversIn_cons, hFront, hBack,
      Next.drivers]
  | requeued =>
    simp [put, drivers, queue, setPhase, setCell, hJobs, driversIn_append, driversIn_cons,
      ↓driversIn_single, hFront, hBack, Next.drivers, Phase.drives]
  | gone =>
    simp [put, drivers, removeJob, setCell, hJobs, eraseIdx_split, driversIn_append, hFront, hBack,
      Next.drivers]
  | called request => exact absurd rfl (hNext request)

theorem drivers_put_gone {p : Pool τ σ} {i : Nat} {t : TaskId} {phase : Phase σ}
    (c : Cell τ σ) (hJob : p.jobs[i]? = some ⟨t, phase⟩) (hDrives : phase.drives = false)
    (u : TaskId) : (p.put i t c .gone).drivers u = p.drivers u := by
  obtain ⟨front, back, hJobs, rfl⟩ := exists_split hJob
  simp [put, drivers, removeJob, setCell, hJobs, eraseIdx_split, driversIn_append, driversIn_cons,
    hDrives]

theorem onControl_of_cell {p : Pool τ σ} {t : TaskId} {c : Cell τ σ} (hCell : p.cell? t = some c)
    (byWorker : Bool) (f : Control → Control × Bool) :
    p.onControl t byWorker f =
      if (f c.control).2 then
        (p.setCell t { c with control := (f c.control).1 }).queue t byWorker
      else p.setCell t { c with control := (f c.control).1 } := by
  simp only [onControl, hCell]
  cases hf : f c.control with
  | mk control flag => cases flag <;> rfl

theorem onControl_of_none {p : Pool τ σ} {t : TaskId} (hCell : p.cell? t = none)
    (byWorker : Bool) (f : Control → Control × Bool) : p.onControl t byWorker f = p := by
  simp only [onControl, hCell]

theorem cell?_onControl {p : Pool τ σ} {t : TaskId} {c : Cell τ σ} (hCell : p.cell? t = some c)
    (byWorker : Bool) (f : Control → Control × Bool) (u : TaskId) :
    (p.onControl t byWorker f).cell? u =
      if u = t then some { c with control := (f c.control).1 } else p.cell? u := by
  rw [onControl_of_cell hCell]
  split
  · exact cell?_setCell p hCell _ u
  · exact cell?_setCell p hCell _ u

theorem drivers_onControl {p : Pool τ σ} {t : TaskId} {c : Cell τ σ} (hCell : p.cell? t = some c)
    (byWorker : Bool) (f : Control → Control × Bool) (u : TaskId) :
    (p.onControl t byWorker f).drivers u =
      p.drivers u ++ if (f c.control).2 = true ∧ t = u then [.queued byWorker] else [] := by
  rw [onControl_of_cell hCell]
  split
  · next h => simp [drivers_queue, h]
  · next h => simp [h]

theorem cell?_run (p : Pool τ σ) (body : τ) (first : σ) (u : Nat) :
    (p.run body first).1.cell? u =
      if u = p.cells.length then some ⟨.launched, first, body⟩ else p.cell? u := by
  simp only [run, queue, cell?, List.getElem?_append]
  by_cases hOld : u < p.cells.length
  · rw [if_pos hOld, if_neg (Nat.ne_of_lt hOld)]
  · by_cases hNew : u = p.cells.length
    · simp [hNew]
    · have hPlace : u - p.cells.length ≠ 0 := by omega
      rw [if_neg hOld, if_neg hNew, List.getElem?_singleton, if_neg hPlace,
        List.getElem?_eq_none (by omega)]

theorem drivers_run (p : Pool τ σ) (body : τ) (first : σ) (u : TaskId) :
    (p.run body first).1.drivers u =
      p.drivers u ++ if p.cells.length = u then [.queued false] else [] :=
  drivers_queue _ _ u false

end Pool

end PipelineForge.Tasks
