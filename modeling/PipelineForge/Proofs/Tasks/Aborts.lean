import PipelineForge.Proofs.Tasks.Requests
import PipelineForge.Proofs.Tasks.Traces

/-!
# Aborts of tasks

A task that was asked to abort begins no state any more: the state that it is handling is handled
to its end, and then it is told its outcome. A suspended task gets one job for that, and no call
gets it another one. The look at the request and the begin of a state are one step of a job here,
so a worker that is past that look counts as handling.
-/

namespace PipelineForge.Tasks

variable {ω τ σ : Type}

/-- The abort was asked for, and the task does not rest. -/
structure Control.Stopping (c : Control) : Prop where
  asked : c.abortRequested = true
  busy : c.scheduled = true ∨ c.finished = true

namespace Control

variable {c : Control}

theorem stopping_abort (hFinished : c.finished = false)
    (hBusy : c.abortRequested = true → c.scheduled = true) : c.abort.1.Stopping := by
  cases hAbort : c.abortRequested with
  | true =>
    rw [abort_of_ignored (.inr hAbort)]
    exact ⟨hAbort, .inl (hBusy hAbort)⟩
  | false =>
    cases hScheduled : c.scheduled with
    | true =>
      rw [abort_of_scheduled hFinished hAbort hScheduled]
      exact ⟨rfl, .inl hScheduled⟩
    | false =>
      rw [abort_of_resting hFinished hAbort hScheduled]
      exact ⟨rfl, .inl rfl⟩

theorem Sound.scheduled_of_abort (h : c.Sound) (hFinished : c.finished = false)
    (hAbort : c.abortRequested = true) : c.scheduled = true := by
  cases hScheduled : c.scheduled with
  | true => rfl
  | false =>
    obtain ⟨condition, hWaiting⟩ := Option.isSome_iff_exists.mp (h.waits hScheduled hFinished)
    rw [(h.resting condition hWaiting).2.2.1] at hAbort
    cases hAbort

theorem Stopping.change (h : c.Stopping) (request : Call) : (request.change c).1.Stopping := by
  have hKeeps : (request.change c).2 = false := Call.change_of_shut h.busy
  obtain ⟨hScheduled, hFinished⟩ := Call.change_keeps hKeeps
  refine ⟨?_, ?_⟩
  · cases request with
    | signal t bits => exact (abortRequested_signal c bits).trans h.asked
    | abort t =>
      rw [Call.change, abort_of_ignored (.inr h.asked)]
      exact h.asked
  · rw [hScheduled, hFinished]
    exact h.busy

/-- A wait does not suspend a task that is to stop, whatever is pending. -/
theorem Stopping.await (h : c.Stopping) (condition : UInt32) :
    (c.await condition).2 = true ∧ (c.await condition).1.Stopping := by
  by_cases hPending : c.pending &&& condition = 0
  · rw [await_of_abort hPending h.asked]
    exact ⟨rfl, h⟩
  · rw [await_of_pending hPending]
    exact ⟨rfl, h.asked, h.busy⟩

end Control

section Advance

variable {b : Behaviour ω τ σ} {w w' : ω} {c c' : Cell τ σ} {phase : Phase σ} {next : Next σ}

theorem Advance.stopping (h : Advance b w c phase w' c' next) (hStopping : c.control.Stopping) :
    c'.control.Stopping := by
  cases h with
  | passed next condition hAwait => exact (hStopping.await condition).2
  | suspended next condition hAwait => exact (hStopping.await condition).2
  | completed => exact ⟨hStopping.asked, .inr rfl⟩
  | _ => exact hStopping

theorem Phase.act?_ne_begun (hAbort : c.control.abortRequested = true) (s : σ) :
    phase.act? b w c ≠ some (.begun s) := by
  intro h
  cases phase with
  | ready => simp [act?, hAbort] at h
  | handling =>
    obtain ⟨u, _, hBegun⟩ := Option.map_eq_some_iff.mp h
    cases hBegun
  | ending outcome => cases h
  | _ => cases h

end Advance

namespace Scene

variable {b : Behaviour ω τ σ} {s s' : Scene ω τ σ} {m : Move ω τ σ} {t : TaskId}

theorem stopping_of_move (hMove : s.move b m = some s') (hSound : s.pool.Sound) {c : Cell τ σ}
    (hCell : s.pool.cell? t = some c) (hStopping : c.control.Stopping) :
    ∃ c', s'.pool.cell? t = some c' ∧ c'.control.Stopping ∧ ∀ x, .begun x ∉ s.acts b m t := by
  obtain ⟨d, drivers, c', hTurn, hAfter, hHears⟩ := view_of_move hMove hSound hCell
  generalize s.acts b m t = acts at hTurn
  have hTurned : d.control.Stopping ∧ ∀ x, .begun x ∉ acts := by
    cases hTurn with
    | idle => exact ⟨hStopping, fun x h => nomatch h⟩
    | own hDrivers hDrives hAdvance =>
      refine ⟨hAdvance.stopping hStopping, fun x hBegun => ?_⟩
      exact Phase.act?_ne_begun hStopping.asked x (Option.mem_toList.mp hBegun)
  refine ⟨c', hAfter, ?_, hTurned.2⟩
  generalize s'.pool.drivers t = drivers' at hHears
  cases hHears with
  | nothing => exact hTurned.1
  | heard byWorker hCall hTask => exact hTurned.1.change _

theorem jobs_of_call (hMove : s.move b m = some s') {request : Call}
    (hCall : s.call? b m = some request) {c : Cell τ σ}
    (hCell : s.pool.cell? request.task = some c) :
    (∃ byWorker, s'.pool.jobs = s.pool.jobs ++
      if (request.change c.control).2 then [⟨request.task, .queued byWorker⟩] else []) ∧
    s.acts b m t = [] := by
  have hAsked {p : Pool τ σ} {d : Cell τ σ} (byWorker : Bool)
      (hTask : p.cell? request.task = some d) (hControl : d.control = c.control) :
      (p.onControl request.task byWorker request.change).jobs = p.jobs ++
        if (request.change c.control).2 then [⟨request.task, .queued byWorker⟩] else [] := by
    rw [Pool.onControl_of_cell hTask, hControl]
    split
    · rfl
    · exact (List.append_nil _).symm
  cases m with
  | launch body first => cases hCall
  | outside w => cases hCall
  | ask other =>
    cases hCall
    cases hMove
    rw [Pool.ask_eq]
    exact ⟨⟨false, hAsked false hCell rfl⟩, rfl⟩
  | work i =>
    obtain ⟨u, phase, d, d', next, hStep⟩ := Pool.step_cases (move_work hMove)
    rw [call?_of_advances hStep] at hCall
    obtain ⟨hJob, hTask, _, hAdvance, _, hJobs⟩ := hStep
    rw [acts_of_job hJob hTask]
    generalize s'.world = w' at hAdvance
    cases hAdvance with
    | @called _ body _ other hWork =>
      obtain rfl := Option.some.inj hCall
      refine ⟨⟨true, ?_⟩, ?_⟩
      · rw [hJobs, Pool.put, Pool.call_eq]
        have hSet := Pool.cell?_setCell s.pool hTask { d with body } other.task
        split at hSet
        · next hSame =>
          rw [hSame, hTask] at hCell
          obtain rfl := Option.some.inj hCell
          exact hAsked true hSet rfl
        · exact hAsked true (hSet.trans hCell) rfl
      · simp [Phase.act?, hWork, Reply.upshot?]
    | _ => cases hCall

/-- A job that looks at the abort request ends the task, and a wait leads it there. -/
theorem move_of_stopping {c : Cell τ σ} (hCell : s.pool.cell? t = some c)
    (hStopping : c.control.Stopping) (i : Nat) :
    (∀ next condition, s.pool.jobs[i]? = some ⟨t, .handled (.wait next condition)⟩ →
      ∃ s', s.move b (.work i) = some s' ∧ s'.pool.jobs[i]? = some ⟨t, .ready⟩) ∧
    (s.pool.jobs[i]? = some ⟨t, .ready⟩ →
      ∃ s', s.move b (.work i) = some s' ∧ s'.pool.jobs[i]? = some ⟨t, .ending .aborted⟩) := by
  have hPlaced {p : Pool τ σ} {old : Job σ} (phase : Phase σ) (hJob : p.jobs[i]? = some old) :
      (p.setPhase i t phase).jobs[i]? = some ⟨t, phase⟩ :=
    List.getElem?_set_self (List.getElem?_eq_some_iff.mp hJob).1
  constructor
  · intro next condition hJob
    have hPasses := (hStopping.await condition).1
    have hMove : s.move b (.work i) =
        some ⟨s.pool.settleStep i t c (.wait next condition), s.world⟩ := by
      simp only [move, Pool.step, hJob, hCell, Option.map_some]
    refine ⟨_, hMove, ?_⟩
    rw [Pool.settleStep]
    split
    · exact hPlaced .ready hJob
    · next hAwait =>
      rw [hAwait] at hPasses
      cases hPasses
  · intro hJob
    have hMove : s.move b (.work i) = some ⟨s.pool.setPhase i t (.ending .aborted), s.world⟩ := by
      simp only [move, Pool.step, hJob, hCell, Pool.takeUp, hStopping.asked, if_true,
        Option.map_some]
    exact ⟨_, hMove, hPlaced _ hJob⟩

end Scene

/-- From the request on the task stays asked to stop and begins no state. -/
theorem Run.stopping {b : Behaviour ω τ σ} {s s' : Scene ω τ σ} (later : Run b s s')
    (hSound : s.pool.Sound) {t : TaskId} {c : Cell τ σ} (hCell : s.pool.cell? t = some c)
    (hStopping : c.control.Stopping) :
    ∃ c', s'.pool.cell? t = some c' ∧ c'.control.Stopping ∧ ∀ x, .begun x ∉ later.trace t := by
  induction later with
  | start => exact ⟨c, hCell, hStopping, fun x h => nomatch h⟩
  | next later m hMove ih =>
    obtain ⟨d, hBefore, hSoFar, hNone⟩ := ih
    obtain ⟨d', hAfter, hStays, hNoneNow⟩ :=
      Scene.stopping_of_move hMove (later.sound hSound) hBefore hSoFar
    refine ⟨d', hAfter, hStays, fun x hBegun => ?_⟩
    rcases List.mem_append.mp hBegun with hOld | hNew
    · exact hNone x hOld
    · exact hNoneNow x hNew

theorem Pool.deaf_of_stopping {p : Pool τ σ} {t : TaskId} {c : Cell τ σ}
    (hCell : p.cell? t = some c) (hStopping : c.control.Stopping) : p.Deaf t := by
  rintro request rfl
  rw [ask_eq, call_eq]
  have hKeeps : (request.change c.control).2 = false := Call.change_of_shut hStopping.busy
  constructor
  · rw [onControl_of_cell hCell, hKeeps]
    rfl
  · rw [onControl_of_cell hCell, hKeeps]
    rfl

theorem Pool.drivers_of_working {p : Pool τ σ} (hSound : p.Sound) {t : TaskId} {c : Cell τ σ}
    (hWorking : c.mode (p.drivers t) = .working) : p.drivers t = [.handling] := by
  have hAlone := hSound.alone t
  cases hDrivers : p.drivers t with
  | nil =>
    rw [hDrivers, Cell.mode] at hWorking
    split at hWorking
    · cases hWorking
    · split at hWorking <;> cases hWorking
  | cons phase rest =>
    rw [hDrivers] at hWorking hAlone
    have hRest : rest = [] := List.length_eq_zero_iff.mp (by simpa using hAlone)
    rw [Phase.eq_handling hWorking, hRest]

theorem Course.told_of_no_driver {first : σ} {trace : List (Act σ)} {c : Cell τ σ}
    (h : Course first trace (c.mode [])) (hStopping : c.control.Stopping) :
    ∃ outcome, .told outcome ∈ trace := by
  have hFits := h.fits
  rw [Cell.mode] at hFits
  split at hFits
  · obtain ⟨outcome, hLast⟩ := hFits
    exact ⟨outcome, List.mem_of_getLast? hLast⟩
  · next hFinished =>
    rw [if_pos (hStopping.busy.resolve_right hFinished)] at hFits
    obtain ⟨outcome, hLast⟩ := hFits
    exact ⟨outcome, List.mem_of_getLast? hLast⟩

/-- After the abort of an unfinished task at most the handling that it is in is done, and no other
begins. The outcome is that the task is aborted unless a step finished it before or in that one
handling. A suspended task gets one job, no later call gets it another one, and waits lead to its
end. -/
theorem abort_at_next_boundary {b : Behaviour ω τ σ} {w : ω} {s s₁ s₂ : Scene ω τ σ}
    (r : Run b { world := w } s) {m : Move ω τ σ} {t : TaskId} {c : Cell τ σ}
    (hCell : s.pool.cell? t = some c) (hFinished : c.control.finished = false)
    (hMove : s.move b m = some s₁) (hCall : s.call? b m = some (.abort t)) (later : Run b s₁ s₂) :
    ((s.pool.drivers t = [.handling] ∧ ∃ u, later.trace t <+: [.done u, .told u.outcome]) ∨
      ∃ outcome, later.trace t <+: [.told outcome]) ∧
    (∀ outcome, .told outcome ∈ r.trace t ++ later.trace t →
      (outcome = .finished ↔ .done (.step .finish) ∈ r.trace t ++ later.trace t)) ∧
    (s₂.pool.drivers t = [] → ∃ outcome, .told outcome ∈ r.trace t ++ later.trace t) ∧
    (∃ byWorker, s₁.pool.jobs =
      s.pool.jobs ++ if c.control.waiting.isSome then [⟨t, .queued byWorker⟩] else []) ∧
    s₂.pool.Deaf t ∧
    (∀ i : Nat,
      (∀ next condition, s₂.pool.jobs[i]? = some ⟨t, .handled (.wait next condition)⟩ →
        ∃ s₃, s₂.move b (.work i) = some s₃ ∧ s₃.pool.jobs[i]? = some ⟨t, .ready⟩) ∧
      (s₂.pool.jobs[i]? = some ⟨t, .ready⟩ →
        ∃ s₃, s₂.move b (.work i) = some s₃ ∧ s₃.pool.jobs[i]? = some ⟨t, .ending .aborted⟩)) := by
  have hSound := r.sound Pool.sound_empty
  have hControl := hSound.control t c hCell
  have hSound₁ := Scene.sound_of_move hMove hSound
  obtain ⟨body, first, hLaunch⟩ := r.exists_launch hCell
  obtain ⟨d, hd, hCourse⟩ := r.course hLaunch
  obtain rfl := Option.some.inj (hCell.symm.trans hd)
  obtain ⟨⟨byWorker, hJobs⟩, hActs⟩ := Scene.jobs_of_call (t := t) hMove hCall hCell
  obtain ⟨c₁, hCell₁, hControl₁⟩ : ∃ c₁, s₁.pool.cell? t = some c₁ ∧
      c₁.control = c.control.abort.1 := by
    obtain ⟨c₁, _, hCell₁, hControl₁, _⟩ := Scene.move_call hMove hCall hCell
    exact ⟨c₁, hCell₁, hControl₁⟩
  have hStopping : c₁.control.Stopping := by
    rw [hControl₁]
    exact Control.stopping_abort hFinished (hControl.scheduled_of_abort hFinished)
  have hCourse₁ := Scene.course_of_move hMove hSound hCell hCell₁ hCourse
  rw [hActs, List.append_nil] at hCourse₁
  obtain ⟨c₂, hCell₂, hStopping₂, hNone⟩ := later.stopping hSound₁ hCell₁ hStopping
  obtain ⟨d₂, hd₂, hCourse₂⟩ := later.course_later hSound₁ hCell₁ hCourse₁
  obtain rfl := Option.some.inj (hCell₂.symm.trans hd₂)
  refine ⟨?_, ?_, ?_, ?_, Pool.deaf_of_stopping hCell₂ hStopping₂, ?_⟩
  · rcases hCourse₂.sequential.rest_of_not_begun hNone with ⟨x, u, hLast, hRest⟩ | hRest
    · exact .inl ⟨Pool.drivers_of_working hSound (hCourse.working_of_begun hLast), u, hRest⟩
    · exact .inr hRest
  · intro outcome hTold
    exact hCourse₂.sequential.told_finished_iff hTold
  · intro hNoDriver
    rw [hNoDriver] at hCourse₂
    exact hCourse₂.told_of_no_driver hStopping₂
  · refine ⟨byWorker, hJobs.trans ?_⟩
    have hWakes : (Call.change (.abort t) c.control).2 = c.control.waiting.isSome := by
      cases hWaiting : c.control.waiting with
      | some condition =>
        obtain ⟨hScheduled, _, hAbort, _⟩ := hControl.resting condition hWaiting
        rw [Call.change, Control.abort_of_resting hFinished hAbort hScheduled]
        rfl
      | none =>
        refine Call.change_of_shut (.inl ?_)
        cases hScheduled : c.control.scheduled with
        | true => rfl
        | false =>
          have hSome := hControl.waits hScheduled hFinished
          rw [hWaiting] at hSome
          cases hSome
    rw [hWakes]
    rfl
  · exact fun i => Scene.move_of_stopping hCell₂ hStopping₂ i

def sleeperStops : List (Move Labels Routine UInt32) :=
  [.ask (.abort 0), .ask (.signal 0 5)] ++ List.replicate 4 (.work 0)

/-- The sleeper, which waits, gets one job by its first abort and begins no state any more. -/
theorem abort_at_next_boundary_sleeper :
    ∃ s s₁ s₂, ∃ c, ∃ later : Run Routine.behaviour s₁ s₂, sleeper = some s ∧
      s.pool.cell? 0 = some c ∧ c.control.waiting = some 5 ∧
      s.move Routine.behaviour (.ask (.abort 0)) = some s₁ ∧
      s₁.follow Routine.behaviour sleeperStops = some s₂ ∧
      (∃ byWorker, s₁.pool.jobs = s.pool.jobs ++ [⟨0, .queued byWorker⟩]) ∧
      (∃ outcome, later.trace 0 <+: [.told outcome]) ∧ s₂.pool.Deaf 0 := by
  obtain ⟨s, hFollow⟩ : ∃ s, sleeper = some s := Option.isSome_iff_exists.mp (by decide)
  obtain ⟨r⟩ := Run.of_follow .start hFollow
  have hFacts : (sleeper.bind fun s => (s.pool.cell? 0).map fun c =>
      (c.control, s.pool.drivers 0)) = some ({ pending := 2, waiting := some 5 }, []) := by decide
  rw [hFollow, Option.bind_some] at hFacts
  obtain ⟨c, hCell, hFacts⟩ := Option.map_eq_some_iff.mp hFacts
  obtain ⟨hControl, hDrivers⟩ := Prod.mk.inj hFacts
  obtain ⟨s₁, hMove⟩ : ∃ s₁, s.move Routine.behaviour (.ask (.abort 0)) = some s₁ := ⟨_, rfl⟩
  obtain ⟨s₂, hStops⟩ : ∃ s₂, s₁.follow Routine.behaviour sleeperStops = some s₂ := by
    have hAll : (sleeper.bind fun s => s.follow Routine.behaviour
        (.ask (.abort 0) :: sleeperStops)).isSome = true := by decide
    rw [hFollow, Option.bind_some, Scene.follow, hMove, Option.bind_some] at hAll
    exact Option.isSome_iff_exists.mp hAll
  obtain ⟨later⟩ := Run.of_follow .start hStops
  obtain ⟨hRest, _, _, hJobs, hDeaf, _⟩ :=
    abort_at_next_boundary r hCell (by rw [hControl]) hMove rfl later
  rw [hDrivers] at hRest
  rw [hControl] at hJobs
  refine ⟨s, s₁, s₂, c, later, hFollow, hCell, by rw [hControl], hMove, hStops, hJobs, ?_, hDeaf⟩
  exact hRest.resolve_left (fun h => nomatch h.1)

end PipelineForge.Tasks
