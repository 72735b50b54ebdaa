import PipelineForge.Proofs.Tasks.Drivers
import PipelineForge.Proofs.Tasks.Flags

/-!
# Runs of pools

A run is any sequence of moves: tasks are launched, somebody outside asks something of a task or
changes the world, and workers make steps of jobs, in any order. In all of them a task has one
driver at most, only an unfinished and scheduled task has one, and control blocks stay sound.
-/

namespace PipelineForge.Tasks

variable {ω τ σ : Type}

namespace Call

def task : Call → TaskId
  | signal t _ => t
  | abort t => t

def change : Call → Control → Control × Bool
  | signal _ bits, c => c.signal bits
  | abort _, c => c.abort

theorem change_sound (request : Call) {c : Control} (h : c.Sound) : (request.change c).1.Sound := by
  cases request with
  | signal t bits => exact Control.signal_sound bits h
  | abort t => exact Control.abort_sound h

theorem change_wakes {request : Call} {c : Control}
    (hWakes : (request.change c).2 = true) :
    c.scheduled = false ∧ (request.change c).1.scheduled = true ∧
      (request.change c).1.finished = false := by
  cases request with
  | signal t bits =>
    simp only [change] at hWakes ⊢
    cases hFinished : c.finished with
    | true => simp [Control.signal_of_finished bits hFinished] at hWakes
    | false =>
      cases hWoken : c.wokenBy bits with
      | none => simp [Control.signal_of_not_woken hFinished hWoken] at hWakes
      | some condition =>
        rw [Control.signal_of_woken hFinished hWoken]
        exact ⟨(Control.wokenBy_eq_some.mp hWoken).1, rfl, hFinished⟩
  | abort t =>
    simp only [change] at hWakes ⊢
    by_cases hIgnored : c.finished = true ∨ c.abortRequested = true
    · simp [Control.abort_of_ignored hIgnored] at hWakes
    · obtain ⟨hFinished, hAbort⟩ : c.finished = false ∧ c.abortRequested = false := by
        simpa using hIgnored
      cases hScheduled : c.scheduled with
      | true => simp [Control.abort_of_scheduled hFinished hAbort hScheduled] at hWakes
      | false =>
        rw [Control.abort_of_resting hFinished hAbort hScheduled]
        exact ⟨rfl, rfl, hFinished⟩

theorem change_keeps {request : Call} {c : Control} (hKeeps : (request.change c).2 = false) :
    (request.change c).1.scheduled = c.scheduled ∧
      (request.change c).1.finished = c.finished := by
  cases request with
  | signal t bits =>
    simp only [change] at hKeeps ⊢
    cases hFinished : c.finished with
    | true =>
      rw [Control.signal_of_finished bits hFinished]
      exact ⟨rfl, hFinished⟩
    | false =>
      cases hWoken : c.wokenBy bits with
      | none =>
        rw [Control.signal_of_not_woken hFinished hWoken]
        exact ⟨rfl, hFinished⟩
      | some condition => simp [Control.signal_of_woken hFinished hWoken] at hKeeps
  | abort t =>
    simp only [change] at hKeeps ⊢
    by_cases hIgnored : c.finished = true ∨ c.abortRequested = true
    · rw [Control.abort_of_ignored hIgnored]
      exact ⟨rfl, rfl⟩
    · obtain ⟨hFinished, hAbort⟩ : c.finished = false ∧ c.abortRequested = false := by
        simpa using hIgnored
      cases hScheduled : c.scheduled with
      | true =>
        rw [Control.abort_of_scheduled hFinished hAbort hScheduled]
        exact ⟨hScheduled, rfl⟩
      | false => simp [Control.abort_of_resting hFinished hAbort hScheduled] at hKeeps

end Call

namespace Pool

theorem call_eq (p : Pool τ σ) (request : Call) :
    p.call request = p.onControl request.task true request.change := by
  cases request with
  | signal t bits => rfl
  | abort t => rfl

def ask (p : Pool τ σ) : Call → Pool τ σ
  | .signal t bits => p.signal t bits false
  | .abort t => p.abort t false

theorem ask_eq (p : Pool τ σ) (request : Call) :
    p.ask request = p.onControl request.task false request.change := by
  cases request with
  | signal t bits => rfl
  | abort t => rfl

structure Sound (p : Pool τ σ) : Prop where
  control : ∀ t c, p.cell? t = some c → c.control.Sound
  driven : ∀ t phase, phase ∈ p.drivers t →
    ∃ c, p.cell? t = some c ∧ c.control.scheduled = true ∧ c.control.finished = false
  alone : ∀ t, (p.drivers t).length ≤ 1

theorem sound_empty : ({} : Pool τ σ).Sound := by
  constructor
  · intro t c h
    cases h
  · intro t phase h
    cases h
  · intro t
    exact Nat.zero_le 1

theorem Sound.drivers_eq_nil {p : Pool τ σ} (h : p.Sound) {t : TaskId} {c : Cell τ σ}
    (hCell : p.cell? t = some c) (hIdle : c.control.scheduled = false ∨ c.control.finished = true) :
    p.drivers t = [] := by
  apply List.eq_nil_iff_forall_not_mem.mpr
  intro phase hPhase
  obtain ⟨c', hCell', hScheduled, hFinished⟩ := h.driven t phase hPhase
  obtain rfl := Option.some.inj (hCell.symm.trans hCell')
  rcases hIdle with hIdle | hIdle
  · rw [hIdle] at hScheduled
    cases hScheduled
  · rw [hIdle] at hFinished
    cases hFinished

theorem Sound.drivers_of_none {p : Pool τ σ} (h : p.Sound) {t : TaskId}
    (hCell : p.cell? t = none) : p.drivers t = [] := by
  apply List.eq_nil_iff_forall_not_mem.mpr
  intro phase hPhase
  obtain ⟨c, hSome, _⟩ := h.driven t phase hPhase
  rw [hCell] at hSome
  cases hSome

theorem Sound.of_eq {p q : Pool τ σ} (h : p.Sound) (hCells : q.cells = p.cells)
    (hJobs : q.jobs = p.jobs) : q.Sound := by
  have hCell (t : TaskId) : q.cell? t = p.cell? t := by rw [cell?, hCells, cell?]
  have hDrivers (t : TaskId) : q.drivers t = p.drivers t := drivers_eq_of_jobs_eq hJobs t
  constructor
  · intro t c hc
    exact h.control t c (hCell t ▸ hc)
  · intro t phase hPhase
    rw [hCell t]
    exact h.driven t phase (hDrivers t ▸ hPhase)
  · intro t
    rw [hDrivers t]
    exact h.alone t

theorem Sound.run {p : Pool τ σ} (h : p.Sound) (body : τ) (first : σ) :
    (p.run body first).1.Sound := by
  have hNone : p.cell? p.cells.length = none := List.getElem?_eq_none (Nat.le_refl _)
  constructor
  · intro t c hc
    rw [cell?_run] at hc
    split at hc
    · cases hc
      exact Control.launched_sound
    · exact h.control t c hc
  · intro t phase hPhase
    rw [drivers_run, List.mem_append] at hPhase
    rw [cell?_run]
    by_cases hNew : t = p.cells.length
    · exact ⟨_, if_pos hNew, rfl, rfl⟩
    · rw [if_neg hNew]
      rcases hPhase with hPhase | hPhase
      · exact h.driven t phase hPhase
      · rw [if_neg (Ne.symm hNew)] at hPhase
        cases hPhase
  · intro t
    rw [drivers_run]
    split
    · next hNew =>
      rw [← hNew, h.drivers_of_none hNone]
      exact Nat.le_refl 1
    · simpa using h.alone t

theorem Sound.onControl {p : Pool τ σ} (h : p.Sound) (byWorker : Bool) (request : Call) :
    (p.onControl request.task byWorker request.change).Sound := by
  cases hCell : p.cell? request.task with
  | none =>
    rw [onControl_of_none hCell]
    exact h
  | some c =>
    have hSound := h.control _ c hCell
    constructor
    · intro u d hd
      rw [cell?_onControl hCell] at hd
      split at hd
      · cases hd
        exact request.change_sound hSound
      · exact h.control u d hd
    · intro u phase hPhase
      rw [drivers_onControl hCell, List.mem_append] at hPhase
      rw [cell?_onControl hCell]
      by_cases hu : u = request.task
      · refine ⟨_, if_pos hu, ?_⟩
        subst hu
        cases hFlag : (request.change c.control).2 with
        | true => exact (Call.change_wakes hFlag).2
        | false =>
          obtain ⟨hScheduled, hFinished⟩ := Call.change_keeps hFlag
          rw [hFlag] at hPhase
          obtain ⟨d, hd, hDriven⟩ := h.driven _ phase (by simpa using hPhase)
          obtain rfl := Option.some.inj (hCell.symm.trans hd)
          exact ⟨hScheduled.trans hDriven.1, hFinished.trans hDriven.2⟩
      · rw [if_neg hu]
        rcases hPhase with hPhase | hPhase
        · exact h.driven u phase hPhase
        · rw [if_neg (fun hBoth => hu hBoth.2.symm)] at hPhase
          cases hPhase
    · intro u
      rw [drivers_onControl hCell]
      split
      · next hBoth =>
        obtain ⟨hFlag, rfl⟩ := hBoth
        rw [h.drivers_eq_nil hCell (.inl (Call.change_wakes hFlag).1)]
        exact Nat.le_refl 1
      · simpa using h.alone u

/-- A cell may change in all but the flags that say whether its task is driven. -/
theorem Sound.setCell {p : Pool τ σ} (h : p.Sound) {t : TaskId} {c c' : Cell τ σ}
    (hCell : p.cell? t = some c) (hControl : c'.control = c.control) : (p.setCell t c').Sound := by
  constructor
  · intro u d hd
    rw [cell?_setCell p hCell] at hd
    split at hd
    · cases hd
      rw [hControl]
      exact h.control t c hCell
    · exact h.control u d hd
  · intro u phase hPhase
    obtain ⟨d, hd, hDriven⟩ := h.driven u phase hPhase
    rw [cell?_setCell p hCell]
    by_cases hu : u = t
    · refine ⟨c', if_pos hu, ?_⟩
      subst hu
      obtain rfl := Option.some.inj (hCell.symm.trans hd)
      rwa [hControl]
    · exact ⟨d, by rwa [if_neg hu], hDriven⟩
  · exact h.alone

theorem cells_put {p : Pool τ σ} (i : Nat) (t : TaskId) (c : Cell τ σ) {next : Next σ}
    (hNext : ∀ request, next ≠ .called request) :
    (p.put i t c next).cells = (p.setCell t c).cells := by
  cases next with
  | called request => exact absurd rfl (hNext request)
  | phase => rfl
  | requeued => rfl
  | gone => rfl

theorem cell?_put {p : Pool τ σ} {t : TaskId} {c : Cell τ σ} (hCell : p.cell? t = some c)
    (i : Nat) (c' : Cell τ σ) {next : Next σ} (hNext : ∀ request, next ≠ .called request)
    (u : TaskId) : (p.put i t c' next).cell? u = if u = t then some c' else p.cell? u := by
  rw [← cell?_setCell p hCell, cell?, cell?, cells_put i t c' hNext]

theorem length_cells_onControl (p : Pool τ σ) (t : TaskId) (byWorker : Bool)
    (f : Control → Control × Bool) : (p.onControl t byWorker f).cells.length = p.cells.length := by
  cases hCell : p.cell? t with
  | none => rw [onControl_of_none hCell]
  | some c =>
    rw [onControl_of_cell hCell]
    split <;> exact List.length_set

theorem length_cells_put (p : Pool τ σ) (i : Nat) (t : TaskId) (c : Cell τ σ) (next : Next σ) :
    (p.put i t c next).cells.length = p.cells.length := by
  cases next with
  | called request =>
    rw [put, call_eq, length_cells_onControl]
    exact List.length_set
  | phase => exact List.length_set
  | requeued => exact List.length_set
  | gone => exact List.length_set

theorem Sound.put {p : Pool τ σ} (h : p.Sound) {i : Nat} {t : TaskId} {phase : Phase σ}
    {c c' : Cell τ σ} {next : Next σ} (hJob : p.jobs[i]? = some ⟨t, phase⟩)
    (hDrives : phase.drives = true) (hCell : p.cell? t = some c)
    (hNext : ∀ request, next ≠ .called request) (hControl : c'.control.Sound)
    (hDriven : next.drivers ≠ [] → c'.control.scheduled = true ∧ c'.control.finished = false) :
    (p.put i t c' next).Sound := by
  have hSelf := drivers_put_self c' hJob hDrives (h.alone t) hNext
  constructor
  · intro u d hd
    rw [cell?_put hCell i c' hNext] at hd
    split at hd
    · cases hd
      exact hControl
    · exact h.control u d hd
  · intro u other hOther
    rw [cell?_put hCell i c' hNext]
    by_cases hu : u = t
    · subst hu
      rw [hSelf] at hOther
      exact ⟨c', if_pos rfl, hDriven (List.ne_nil_of_mem hOther)⟩
    · rw [drivers_put_of_ne c' hJob hu hNext] at hOther
      rw [if_neg hu]
      exact h.driven u other hOther
  · intro u
    by_cases hu : u = t
    · subst hu
      rw [hSelf]
      cases next with
      | phase next => simp only [Next.drivers]; split <;> simp
      | requeued => exact Nat.le_refl 1
      | gone => exact Nat.zero_le 1
      | called request => exact Nat.le_refl 1
    · rw [drivers_put_of_ne c' hJob hu hNext]
      exact h.alone u

theorem Sound.of_job {p : Pool τ σ} (h : p.Sound) {i : Nat} {t : TaskId} {phase : Phase σ}
    {c : Cell τ σ} (hJob : p.jobs[i]? = some ⟨t, phase⟩) (hDrives : phase.drives = true)
    (hCell : p.cell? t = some c) : c.control.scheduled = true ∧ c.control.finished = false := by
  obtain ⟨d, hSome, hFlags⟩ := h.driven t phase (mem_drivers_of_job hJob hDrives)
  obtain rfl := Option.some.inj (hCell.symm.trans hSome)
  exact hFlags

theorem Sound.advances {b : Behaviour ω τ σ} {p p' : Pool τ σ} {w w' : ω} {i : Nat} (h : p.Sound)
    {t : TaskId} {phase : Phase σ} {c c' : Cell τ σ} {next : Next σ}
    (hStep : Advances b p w i p' w' t phase c c' next) : (p.put i t c' next).Sound := by
  obtain ⟨hJob, hCell, _, hAdvance, _, _⟩ := hStep
  have hSound := h.control t c hCell
  by_cases hDrives : phase.drives = true
  · obtain ⟨hScheduled, hFinished⟩ := h.of_job hJob hDrives hCell
    cases hAdvance with
    | called request hWork =>
      rw [Pool.put, call_eq]
      refine Sound.onControl (h.setCell hCell ?_) true request
      rfl
    | passed next condition hAwait =>
      refine h.put hJob hDrives hCell (by simp)
        (Control.await_sound condition hSound hScheduled hFinished) ?_
      intro _
      by_cases hPending : c.control.pending &&& condition = 0
      · have hAbort : c.control.abortRequested = true := by
          cases hAbort : c.control.abortRequested with
          | true => rfl
          | false => simp [Control.await_of_nothing hPending hAbort] at hAwait
        rw [Control.await_of_abort hPending hAbort]
        exact ⟨hScheduled, hFinished⟩
      · rw [Control.await_of_pending hPending]
        exact ⟨hScheduled, hFinished⟩
    | suspended next condition hAwait =>
      exact h.put hJob hDrives hCell (by simp)
        (Control.await_sound condition hSound hScheduled hFinished) (fun hNo => absurd rfl hNo)
    | completed =>
      exact h.put hJob hDrives hCell (by simp) (Control.complete_sound c.control)
        (fun hNo => absurd rfl hNo)
    | gone holding => cases hDrives
    | _ => exact h.put hJob hDrives hCell (by simp) hSound fun _ => ⟨hScheduled, hFinished⟩
  · cases hAdvance with
    | gone holding =>
      have hDrivers := drivers_put_gone c hJob (by simpa using hDrives)
      have hCells : (p.put i t c .gone).cells = p.cells := by rw [Pool.put, setCell_same hCell]; rfl
      constructor
      · intro u d hd
        exact h.control u d (by rwa [cell?, hCells] at hd)
      · intro u other hOther
        rw [cell?, hCells]
        exact h.driven u other (hDrivers u ▸ hOther)
      · intro u
        rw [hDrivers u]
        exact h.alone u
    | _ => exact absurd rfl hDrives

end Pool

structure Scene (ω τ σ : Type) where
  pool : Pool τ σ := {}
  world : ω

/-- What can happen to a scene at once. -/
inductive Move (ω τ σ : Type) where
  | launch (body : τ) (first : σ)
  | ask (request : Call)
  | outside (w : ω)
  | work (i : Nat)

namespace Scene

variable {b : Behaviour ω τ σ}

def move (b : Behaviour ω τ σ) (s : Scene ω τ σ) : Move ω τ σ → Option (Scene ω τ σ)
  | .launch body first => some { s with pool := (s.pool.run body first).1 }
  | .ask request => some { s with pool := s.pool.ask request }
  | .outside w => some { s with world := w }
  | .work i => (s.pool.step b s.world i).map fun (pool, world) => ⟨pool, world⟩

theorem move_work {s s' : Scene ω τ σ} {i : Nat} (h : s.move b (.work i) = some s') :
    s.pool.step b s.world i = some (s'.pool, s'.world) := by
  obtain ⟨⟨pool, world⟩, hStep, rfl⟩ := Option.map_eq_some_iff.mp h
  exact hStep

theorem sound_of_move {s s' : Scene ω τ σ} {m : Move ω τ σ} (hMove : s.move b m = some s')
    (h : s.pool.Sound) : s'.pool.Sound := by
  cases m with
  | launch body first =>
    cases hMove
    exact h.run body first
  | ask request =>
    cases hMove
    simp only [Pool.ask_eq]
    exact h.onControl false request
  | outside w =>
    cases hMove
    exact h
  | work i =>
    obtain ⟨t, phase, c, c', next, hStep⟩ := Pool.step_cases (move_work hMove)
    exact (h.advances hStep).of_eq hStep.cells hStep.jobs

def follow (b : Behaviour ω τ σ) : Scene ω τ σ → List (Move ω τ σ) → Option (Scene ω τ σ)
  | s, [] => some s
  | s, m :: ms => (s.move b m).bind fun s' => s'.follow b ms

theorem launched_of_move {s s' : Scene ω τ σ} {m : Move ω τ σ} (hMove : s.move b m = some s')
    {t : TaskId} {c : Cell τ σ} (hNone : s.pool.cell? t = none)
    (hCell : s'.pool.cell? t = some c) : c.control = .launched := by
  have hNew (hLength : s'.pool.cells.length = s.pool.cells.length) : c.control = .launched := by
    have hSome := (List.getElem?_eq_some_iff.mp hCell).1
    rw [hLength] at hSome
    exact absurd (List.getElem?_eq_none_iff.mp hNone) (Nat.not_le_of_lt hSome)
  cases m with
  | launch body first =>
    cases hMove
    rw [Pool.cell?_run, hNone] at hCell
    split at hCell
    · cases hCell
      rfl
    · cases hCell
  | ask request =>
    cases hMove
    exact hNew (by rw [Pool.ask_eq, Pool.length_cells_onControl])
  | outside w =>
    cases hMove
    exact hNew rfl
  | work i =>
    obtain ⟨u, phase, d, d', next, hStep⟩ := Pool.step_cases (move_work hMove)
    exact hNew (by rw [hStep.cells, Pool.length_cells_put])

end Scene

/-- The moves that led from one scene to another. -/
inductive Run (b : Behaviour ω τ σ) (first : Scene ω τ σ) : Scene ω τ σ → Type where
  | start : Run b first first
  | next {s u : Scene ω τ σ} (r : Run b first s) (m : Move ω τ σ) (h : s.move b m = some u) :
      Run b first u

theorem Run.of_follow {b : Behaviour ω τ σ} {first s s' : Scene ω τ σ} {ms : List (Move ω τ σ)}
    (r : Run b first s) (h : s.follow b ms = some s') : Nonempty (Run b first s') := by
  induction ms generalizing s with
  | nil =>
    cases h
    exact ⟨r⟩
  | cons m ms ih =>
    obtain ⟨after, hMove, hRest⟩ := Option.bind_eq_some_iff.mp h
    exact ih (r.next m hMove) hRest

theorem Run.keeps {b : Behaviour ω τ σ} {P : Scene ω τ σ → Prop} {first s : Scene ω τ σ}
    (r : Run b first s)
    (hKeeps : ∀ {s s' : Scene ω τ σ} {m : Move ω τ σ}, s.move b m = some s' → P s → P s')
    (h : P first) : P s := by
  induction r with
  | start => exact h
  | next r m hMove ih => exact hKeeps hMove ih

theorem Run.sound {b : Behaviour ω τ σ} {first s : Scene ω τ σ} (r : Run b first s)
    (h : first.pool.Sound) : s.pool.Sound := r.keeps Scene.sound_of_move h

end PipelineForge.Tasks
