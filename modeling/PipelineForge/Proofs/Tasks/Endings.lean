import PipelineForge.Proofs.Tasks.Modes
import PipelineForge.Tasks.Scripted

/-!
# Ends of tasks

One job at most holds the body of a task, and what happens to the task is a series of handled
states and then, once, its outcome. After that no job takes the task up again, be it that the end
went through, which closes the control block for good, or that it failed, which leaves the task
scheduled for ever. Which outcome it is told is not the subject here.
-/

namespace PipelineForge.Tasks

variable {ω τ σ : Type}

def holdersIn (jobs : List (Job σ)) (t : TaskId) : Nat :=
  jobs.countP fun j => j.task == t && j.phase.holds

theorem holdersIn_append (js ks : List (Job σ)) (t : TaskId) :
    holdersIn (js ++ ks) t = holdersIn js t + holdersIn ks t := List.countP_append

theorem holdersIn_cons (j : Job σ) (js : List (Job σ)) (t : TaskId) :
    holdersIn (j :: js) t = holdersIn js t + (j.task == t && j.phase.holds).toNat := by
  rw [holdersIn, List.countP_cons, ← holdersIn]
  cases j.task == t && j.phase.holds with
  | false => rfl
  | true => rfl

theorem holdersIn_set {jobs : List (Job σ)} {i : Nat} {j : Job σ} (h : jobs[i]? = some j)
    (k : Job σ) (t : TaskId) :
    holdersIn (jobs.set i k) t + (j.task == t && j.phase.holds).toNat =
      holdersIn jobs t + (k.task == t && k.phase.holds).toNat := by
  obtain ⟨front, back, rfl, rfl⟩ := exists_split h
  simp only [set_split, holdersIn_append, holdersIn_cons]
  omega

theorem holdersIn_eraseIdx {jobs : List (Job σ)} {i : Nat} {j : Job σ} (h : jobs[i]? = some j)
    (t : TaskId) :
    holdersIn (jobs.eraseIdx i) t + (j.task == t && j.phase.holds).toNat = holdersIn jobs t := by
  obtain ⟨front, back, rfl, rfl⟩ := exists_split h
  simp only [eraseIdx_split, holdersIn_append, holdersIn_cons]
  omega

def Next.holds : Next σ → Bool
  | phase p => p.holds
  | requeued => false
  | gone => false
  | called _ => true

theorem Advance.holds_cases {b : Behaviour ω τ σ} {w w' : ω} {c c' : Cell τ σ} {phase : Phase σ}
    {next : Next σ} (h : Advance b w c phase w' c' next) :
    phase.holds = true ∨ next.holds = false ∨ phase.isQueued = true := by
  cases h with
  | taken byWorker => exact .inr (.inr rfl)
  | requeued => exact .inr (.inl rfl)
  | gone holding => exact .inr (.inl rfl)
  | _ => exact .inl rfl

theorem Advance.handling_of_called {b : Behaviour ω τ σ} {w w' : ω} {c c' : Cell τ σ}
    {phase : Phase σ} {next : Next σ} (h : Advance b w c phase w' c' next) {request : Call}
    (hNext : next = .called request) : phase = .handling := by
  subst hNext
  cases h
  rfl

namespace Pool

theorem holdersIn_queue (p : Pool τ σ) (t u : TaskId) (byWorker : Bool) :
    holdersIn (p.queue t byWorker).jobs u = holdersIn p.jobs u := by
  simp [holdersIn, queue, Phase.holds]

theorem holdersIn_onControl (p : Pool τ σ) (t u : TaskId) (byWorker : Bool)
    (f : Control → Control × Bool) :
    holdersIn (p.onControl t byWorker f).jobs u = holdersIn p.jobs u := by
  cases hCell : p.cell? t with
  | none => rw [onControl_of_none hCell]
  | some c =>
    rw [onControl_of_cell hCell]
    split
    · exact holdersIn_queue _ t u byWorker
    · rfl

theorem holdersIn_eq_zero {p : Pool τ σ} {t : TaskId} (h : p.isHeld t = false) :
    holdersIn p.jobs t = 0 := by
  rw [holdersIn, List.countP_eq_zero]
  rw [isHeld, List.any_eq_false] at h
  exact h

theorem holdersIn_put {p : Pool τ σ} {i : Nat} {t : TaskId} {phase : Phase σ}
    (hJob : p.jobs[i]? = some ⟨t, phase⟩) (c : Cell τ σ) {next : Next σ}
    (hCalled : ∀ request, next = .called request → phase = .handling) (u : TaskId) :
    holdersIn (p.put i t c next).jobs u + (t == u && phase.holds).toNat =
      holdersIn p.jobs u + (t == u && next.holds).toNat := by
  cases next with
  | called request =>
    obtain rfl := hCalled request rfl
    rw [put, call_eq, holdersIn_onControl]
    rfl
  | phase next => exact holdersIn_set hJob ⟨t, next⟩ u
  | requeued =>
    have hJob' : (p.queue t true).jobs[i]? = some ⟨t, phase⟩ := by
      rw [queue, List.getElem?_append_left (List.getElem?_eq_some_iff.mp hJob).1, hJob]
    have hSet := holdersIn_set hJob' ⟨t, .going false⟩ u
    rw [holdersIn_queue] at hSet
    exact hSet
  | gone =>
    rw [Next.holds, Bool.and_false]
    exact holdersIn_eraseIdx hJob u

theorem holdersIn_advances {b : Behaviour ω τ σ} {p p' : Pool τ σ} {w w' : ω} {i : Nat}
    {t : TaskId} {phase : Phase σ} {c c' : Cell τ σ} {next : Next σ}
    (hStep : Advances b p w i p' w' t phase c c' next) (h : ∀ u, holdersIn p.jobs u ≤ 1)
    (u : TaskId) : holdersIn p'.jobs u ≤ 1 := by
  obtain ⟨hJob, _, hFree, hAdvance, _, hJobs⟩ := hStep
  have hPut := holdersIn_put hJob c' (fun _ => hAdvance.handling_of_called) u
  have hBefore := h u
  have hNext := Bool.toNat_le (t == u && next.holds)
  rw [hJobs]
  by_cases hu : t = u
  · subst hu
    rcases hAdvance.holds_cases with hHolds | hHolds | hQueued
    · have hSelf : (t == t && phase.holds) = true := by rw [hHolds, beq_self_eq_true, Bool.and_self]
      rw [hSelf, Bool.toNat_true] at hPut
      omega
    · rw [hHolds, Bool.and_false, Bool.toNat_false] at hPut
      omega
    · rw [holdersIn_eq_zero (hFree hQueued)] at hPut
      omega
  · rw [beq_eq_false_iff_ne.mpr hu, Bool.false_and, Bool.false_and] at hPut
    omega

end Pool

/-- One job at most holds the body of a task. -/
theorem Scene.holdersIn_of_move {b : Behaviour ω τ σ} {s s' : Scene ω τ σ} {m : Move ω τ σ}
    (hMove : s.move b m = some s') (h : ∀ t, holdersIn s.pool.jobs t ≤ 1) (t : TaskId) :
    holdersIn s'.pool.jobs t ≤ 1 := by
  cases m with
  | launch body first =>
    cases hMove
    exact Nat.le_trans (Nat.le_of_eq (Pool.holdersIn_queue _ _ t false)) (h t)
  | ask request =>
    cases hMove
    simp only [Pool.ask_eq, Pool.holdersIn_onControl]
    exact h t
  | outside w =>
    cases hMove
    exact h t
  | work i =>
    obtain ⟨u, phase, c, c', next, hStep⟩ := Pool.step_cases (move_work hMove)
    exact Pool.holdersIn_advances hStep h t

/-- What a job in a phase adds to the history of its task when it makes its step. -/
def Phase.happens (c : Cell τ σ) : Phase σ → Option (Happening σ)
  | ready => if c.control.abortRequested then none else some (.visited c.state)
  | ending outcome => some (.told outcome)
  | _ => none

namespace Pool

def happenings (p : Pool τ σ) (t : TaskId) : List (Happening σ) :=
  p.history.toList.filterMap fun e => if e.1 = t then some e.2 else none

theorem happenings_congr {p q : Pool τ σ} (h : q.history = p.history) (t : TaskId) :
    q.happenings t = p.happenings t := by rw [happenings, h, happenings]

theorem happenings_record (p : Pool τ σ) (t : TaskId) (e : Happening σ) (u : TaskId) :
    (p.record t e).happenings u = p.happenings u ++ if t = u then [e] else [] := by
  simp only [happenings, record, Array.toList_push, List.filterMap_append]
  split
  · next hu => simp [hu]
  · next hu => simp [hu]

theorem history_onControl (p : Pool τ σ) (t : TaskId) (byWorker : Bool)
    (f : Control → Control × Bool) : (p.onControl t byWorker f).history = p.history := by
  cases hCell : p.cell? t with
  | none => rw [onControl_of_none hCell]
  | some c =>
    rw [onControl_of_cell hCell]
    split
    · rfl
    · rfl

theorem history_settleStep (p : Pool τ σ) (i : Nat) (t : TaskId) (c : Cell τ σ) (s : Step σ) :
    (p.settleStep i t c s).history = p.history := by
  cases s with
  | wait next condition =>
    rw [settleStep]
    split
    · rfl
    · rfl
  | _ => rfl

theorem history_work {b : Behaviour ω τ σ} {p p' : Pool τ σ} {w w' : ω} {i : Nat} {t : TaskId}
    {c : Cell τ σ} (h : work b p w i t c = some (p', w')) : p'.history = p.history := by
  cases hWork : b.work w c.body with
  | mk w₁ rest =>
    obtain ⟨body, lines, reply⟩ := rest
    simp only [work, hWork] at h
    cases reply with
    | held => cases h
    | call request =>
      cases h
      rw [call_eq, history_onControl]
      rfl
    | _ =>
      cases h
      rfl

theorem history_part (b : Behaviour ω τ σ) (p : Pool τ σ) (w : ω) (i : Nat) (t : TaskId)
    (c : Cell τ σ) : (part b p w i t c).1.history = p.history := by
  cases hPart : b.part w c.body with
  | mk w' rest =>
    obtain ⟨body, lines, parting⟩ := rest
    simp only [part, hPart]
    cases parting with
    | more => rfl
    | gone => rfl
    | fault text => rfl

theorem happenings_step {b : Behaviour ω τ σ} {p p' : Pool τ σ} {w w' : ω} {i : Nat} {t : TaskId}
    {phase : Phase σ} {c : Cell τ σ} (hJob : p.jobs[i]? = some ⟨t, phase⟩)
    (hCell : p.cell? t = some c) (hStep : p.step b w i = some (p', w')) (u : TaskId) :
    p'.happenings u = p.happenings u ++ if t = u then (phase.happens c).toList else [] := by
  simp only [step, hJob, hCell] at hStep
  have hSame (hHistory : p'.history = p.history) (hNothing : phase.happens c = none) :
      p'.happenings u = p.happenings u ++ if t = u then (phase.happens c).toList else [] := by
    rw [happenings_congr hHistory, hNothing, Option.toList_none, ite_self, List.append_nil]
  cases phase with
  | ready =>
    cases hStep
    rw [takeUp, Phase.happens]
    split
    · simp [happenings, setPhase]
    · exact happenings_record _ t (.visited c.state) u
  | ending outcome =>
    cases hStep
    exact happenings_record _ t (.told outcome) u
  | queued byWorker =>
    simp only at hStep
    split at hStep
    · cases hStep
    · cases hStep
      exact hSame rfl rfl
  | handling => exact hSame (history_work hStep) rfl
  | handled s =>
    cases hStep
    exact hSame (history_settleStep p i t c s) rfl
  | parting =>
    have hPart := history_part b p w i t c
    rw [Option.some.inj hStep] at hPart
    exact hSame hPart rfl
  | requeueing =>
    cases hStep
    exact hSame rfl rfl
  | ended =>
    cases hStep
    exact hSame rfl rfl
  | going holding =>
    cases hStep
    exact hSame rfl rfl

end Pool

def Mode.isTold : Mode σ → Bool
  | leaving => true
  | left => true
  | lost => true
  | _ => false

theorem Shift.isTold {b : Behaviour ω τ σ} {w w' : ω} {body body' : τ} {mode mode' : Mode σ}
    (h : Shift b w body mode w' body' mode') (hTold : mode.isTold = true) :
    mode'.isTold = true := by
  cases h with
  | still => exact hTold
  | parting hPart => rfl
  | parted hPart => rfl
  | lost text hPart => rfl
  | _ => cases hTold

theorem Phase.happens_of_told {phase : Phase σ} {c : Cell τ σ}
    (hTold : (phase.mode c.state).isTold = true) : phase.happens c = none := by
  cases phase with
  | ready => cases hTold
  | ending outcome => cases hTold
  | _ => rfl

theorem Advance.drivers_of_told {b : Behaviour ω τ σ} {w w' : ω} {c c' : Cell τ σ}
    {phase : Phase σ} {next : Next σ} (h : Advance b w c phase w' c' next) {outcome : Outcome}
    (hTold : phase.happens c = some (.told outcome)) : next.drivers = [.parting] := by
  cases h with
  | left outcome => rfl
  | stopped hAbort => simp [Phase.happens] at hTold
  | entered hAbort => simp [Phase.happens] at hTold
  | _ => cases hTold

theorem eq_nil_of_told_of_append {history before after : List (Happening σ)} {e : Happening σ}
    {outcome : Outcome} (hUntold : ∀ other, .told other ∉ history)
    (h : history ++ [e] = before ++ .told outcome :: after) : after = [] := by
  rcases List.append_eq_append_iff.mp h with ⟨rest, _, hRest⟩ | ⟨rest, hRest, hAfter⟩
  · cases rest with
    | nil => exact (List.cons.inj hRest).2.symm
    | cons _ rest => cases rest <;> cases hRest
  · cases rest with
    | nil => exact (List.cons.inj hAfter).2
    | cons d rest =>
      obtain ⟨rfl, _⟩ := List.cons.inj hAfter
      exact absurd (hRest ▸ List.mem_append_right before (.head rest)) (hUntold outcome)

namespace Pool

/-- A task that was told its outcome is past its end in all respects, and nothing happened to it
since. -/
structure Orderly (p : Pool τ σ) : Prop where
  told : ∀ t outcome, .told outcome ∈ p.happenings t →
    ∃ body mode, p.member? t = some (body, mode) ∧ mode.isTold = true
  last : ∀ t outcome before after, p.happenings t = before ++ .told outcome :: after → after = []

theorem orderly_empty : ({} : Pool τ σ).Orderly := by
  constructor
  · intro t outcome h
    cases h
  · intro t outcome before after h
    cases before <;> cases h

theorem Orderly.of_eq {p q : Pool τ σ} (h : p.Orderly) (hHistory : q.history = p.history)
    (hMembers : ∀ t body mode, p.member? t = some (body, mode) →
      q.member? t = some (body, mode)) : q.Orderly := by
  have hHappenings (t : TaskId) := happenings_congr hHistory t
  constructor
  · intro t outcome hTold
    rw [hHappenings t] at hTold
    obtain ⟨body, mode, hMember, hMode⟩ := h.told t outcome hTold
    exact ⟨body, mode, hMembers t body mode hMember, hMode⟩
  · intro t outcome before after hSplit
    rw [hHappenings t] at hSplit
    exact h.last t outcome before after hSplit

theorem happens_eq_none {p : Pool τ σ} (hSound : p.Sound) {i : Nat} {t : TaskId} {phase : Phase σ}
    {c : Cell τ σ} {body : τ} {mode : Mode σ} (hJob : p.jobs[i]? = some ⟨t, phase⟩)
    (hCell : p.cell? t = some c) (hMember : p.member? t = some (body, mode))
    (hMode : mode.isTold = true) : phase.happens c = none := by
  by_cases hDrives : phase.drives = true
  · rw [member?_of_cell hCell, drivers_of_job hJob hDrives (hSound.alone t)] at hMember
    obtain ⟨_, rfl⟩ := Prod.mk.inj (Option.some.inj hMember)
    exact Phase.happens_of_told hMode
  · cases phase with
    | going holding => rfl
    | _ => exact absurd rfl hDrives

theorem Orderly.step {b : Behaviour ω τ σ} {p p' : Pool τ σ} {w w' : ω} {i : Nat} (h : p.Orderly)
    (hSound : p.Sound) (hStep : p.step b w i = some (p', w')) : p'.Orderly := by
  obtain ⟨t, phase, c, c', next, hJob, hCell, _, hAdvance, hCells, hJobs⟩ := step_cases hStep
  have hHappenings := happenings_step hJob hCell hStep
  have hQuiet (outcome : Outcome) (hTold : .told outcome ∈ p.happenings t) :
      phase.happens c = none := by
    obtain ⟨body, mode, hMember, hMode⟩ := h.told t outcome hTold
    exact happens_eq_none hSound hJob hCell hMember hMode
  constructor
  · intro u outcome hTold
    rw [hHappenings, List.mem_append] at hTold
    rcases hTold with hTold | hNew
    · obtain ⟨body, mode, hMember, hMode⟩ := h.told u outcome hTold
      obtain ⟨v, body₁, mode₁, body', mode', hShifts⟩ := step_shifts hSound hStep
      rw [hShifts.members]
      split
      · next hu =>
        rw [hu, hShifts.member] at hMember
        obtain ⟨rfl, rfl⟩ := Prod.mk.inj (Option.some.inj hMember)
        exact ⟨body', mode', rfl, hShifts.shift.isTold hMode⟩
      · exact ⟨body, mode, hMember, hMode⟩
    · split at hNew
      · next hu =>
        subst hu
        have hTold : phase.happens c = some (.told outcome) := by simpa using hNew
        have hDrives : phase.drives = true := by
          cases phase with
          | going holding => cases hTold
          | _ => rfl
        rw [member?_congr hCells hJobs, member?_next hSound hJob hDrives hCell hAdvance,
          if_pos rfl, hAdvance.drivers_of_told hTold]
        exact ⟨_, _, rfl, rfl⟩
      · cases hNew
  · intro u outcome before after hSplit
    rw [hHappenings] at hSplit
    split at hSplit
    · next hu =>
      subst hu
      cases hHappens : phase.happens c with
      | none =>
        rw [hHappens, Option.toList_none, List.append_nil] at hSplit
        exact h.last t outcome before after hSplit
      | some e =>
        rw [hHappens] at hSplit
        refine eq_nil_of_told_of_append ?_ hSplit
        intro other hTold
        rw [hQuiet other hTold] at hHappens
        cases hHappens
    · rw [List.append_nil] at hSplit
      exact h.last u outcome before after hSplit

theorem Orderly.run {p : Pool τ σ} (h : p.Orderly) (hSound : p.Sound) (body : τ) (first : σ) :
    (p.run body first).1.Orderly := by
  refine h.of_eq (by rfl) ?_
  intro t body' mode hMember
  have ht : t ≠ p.cells.length := by
    intro ht
    have hNone : p.cell? t = none := List.getElem?_eq_none (Nat.le_of_eq ht.symm)
    rw [member?, hNone] at hMember
    cases hMember
  rw [member?_run hSound, if_neg ht, hMember]

theorem Orderly.onControl {p : Pool τ σ} (h : p.Orderly) (hSound : p.Sound) (byWorker : Bool)
    (request : Call) : (p.onControl request.task byWorker request.change).Orderly := by
  apply h.of_eq (history_onControl p request.task byWorker request.change)
  intro t body mode hMember
  rw [member?_onControl hSound, hMember]

end Pool

theorem Scene.orderly_of_move {b : Behaviour ω τ σ} {s s' : Scene ω τ σ} {m : Move ω τ σ}
    (hMove : s.move b m = some s') (hSound : s.pool.Sound) (h : s.pool.Orderly) :
    s'.pool.Orderly := by
  cases m with
  | launch body first =>
    cases hMove
    exact h.run hSound body first
  | ask request =>
    cases hMove
    simp only [Pool.ask_eq]
    exact h.onControl hSound false request
  | outside w =>
    cases hMove
    exact h
  | work i => exact h.step hSound (move_work hMove)

theorem Call.change_of_shut {request : Call} {c : Control}
    (h : c.scheduled = true ∨ c.finished = true) : (request.change c).2 = false := by
  cases hWakes : (request.change c).2 with
  | false => rfl
  | true =>
    rcases h with hScheduled | hFinished
    · rw [(change_wakes hWakes).1] at hScheduled
      cases hScheduled
    · rw [request.change_of_finished hFinished] at hWakes
      cases hWakes

namespace Pool

/-- No job drives the task and no call will queue one; it is finished or not, as the flag says. -/
structure Shut (p : Pool τ σ) (t : TaskId) (finished : Bool) : Prop where
  cell : ∃ c, p.cell? t = some c ∧ c.control.finished = finished ∧
    (c.control.scheduled = true ∨ c.control.finished = true)
  drivers : p.drivers t = []

theorem Shut.of_eq {p q : Pool τ σ} {t : TaskId} {finished : Bool} (h : p.Shut t finished)
    (hCell : q.cell? t = p.cell? t) (hDrivers : q.drivers t = p.drivers t) :
    q.Shut t finished := by
  constructor
  · rw [hCell]
    exact h.cell
  · rw [hDrivers]
    exact h.drivers

theorem Shut.isFinished {p : Pool τ σ} {t : TaskId} {finished : Bool} (h : p.Shut t finished) :
    p.isFinished t = finished := by
  obtain ⟨c, hCell, hFinished, _⟩ := h.cell
  simp only [Pool.isFinished, control?, hCell, Option.map_some, hFinished]

theorem Shut.jobs_onControl {p : Pool τ σ} {finished : Bool} {request : Call}
    (h : p.Shut request.task finished) (byWorker : Bool) :
    (p.onControl request.task byWorker request.change).jobs = p.jobs := by
  obtain ⟨c, hCell, _, hIdle⟩ := h.cell
  rw [onControl_of_cell hCell, if_neg (by simp [Call.change_of_shut hIdle])]
  rfl

theorem Shut.onControl {p : Pool τ σ} {t : TaskId} {finished : Bool} (h : p.Shut t finished)
    (byWorker : Bool) (request : Call) :
    (p.onControl request.task byWorker request.change).Shut t finished := by
  cases hAsked : p.cell? request.task with
  | none =>
    rw [onControl_of_none hAsked]
    exact h
  | some d =>
    by_cases hu : t = request.task
    · subst hu
      obtain ⟨c, hCell, hFinished, hIdle⟩ := h.cell
      have hKeeps : (request.change c.control).2 = false := Call.change_of_shut hIdle
      obtain ⟨hScheduled, hSame⟩ := Call.change_keeps hKeeps
      constructor
      · rw [cell?_onControl hCell, if_pos rfl]
        refine ⟨_, rfl, hSame.trans hFinished, ?_⟩
        rw [hScheduled, hSame]
        exact hIdle
      · rw [drivers_eq_of_jobs_eq (h.jobs_onControl byWorker), h.drivers]
    · apply h.of_eq
      · rw [cell?_onControl hAsked, if_neg hu]
      · rw [drivers_onControl hAsked, if_neg (fun hBoth => hu hBoth.2.symm), List.append_nil]

theorem Shut.put {p : Pool τ σ} {t u : TaskId} {finished : Bool} (h : p.Shut t finished) {i : Nat}
    {phase : Phase σ} {c c' : Cell τ σ} {next : Next σ} (hJob : p.jobs[i]? = some ⟨u, phase⟩)
    (hCell : p.cell? u = some c) (hu : t ≠ u) : (p.put i u c' next).Shut t finished := by
  by_cases hCalled : ∃ request, next = .called request
  · obtain ⟨request, rfl⟩ := hCalled
    rw [Pool.put, call_eq]
    apply Shut.onControl
    apply h.of_eq
    · rw [cell?_setCell p hCell, if_neg hu]
    · rw [drivers_setCell]
  · have hNext (request : Call) (heq : next = .called request) : False := hCalled ⟨request, heq⟩
    apply h.of_eq
    · rw [cell?_put hCell i c' hNext, if_neg hu]
    · rw [drivers_put_of_ne c' hJob hu hNext]

theorem Shut.step {b : Behaviour ω τ σ} {p p' : Pool τ σ} {w w' : ω} {i : Nat} {t : TaskId}
    {finished : Bool} (h : p.Shut t finished) (hStep : p.step b w i = some (p', w')) :
    p'.Shut t finished ∧ p'.happenings t = p.happenings t := by
  obtain ⟨u, phase, c, c', next, hJob, hCell, _, hAdvance, hCells, hJobs⟩ := step_cases hStep
  have hDrivers := drivers_eq_of_jobs_eq hJobs t
  rw [happenings_step hJob hCell hStep]
  by_cases hu : t = u
  · subst hu
    -- A job that is left of a task that is shut can only go.
    cases phase with
    | going holding =>
      cases hAdvance
      refine ⟨h.of_eq ?_ ?_, by simp [Phase.happens]⟩
      · rw [cell?, hCells, Pool.put, setCell_same hCell]
        rfl
      · rw [hDrivers, drivers_put_gone c hJob rfl]
    | _ =>
      have hMem := mem_drivers_of_job hJob rfl
      rw [h.drivers] at hMem
      cases hMem
  · rw [if_neg (Ne.symm hu), List.append_nil]
    refine ⟨(h.put hJob hCell hu).of_eq ?_ hDrivers, rfl⟩
    rw [cell?, hCells, cell?]

end Pool

theorem Scene.shut_of_move {b : Behaviour ω τ σ} {s s' : Scene ω τ σ} {m : Move ω τ σ}
    {t : TaskId} {finished : Bool} (hMove : s.move b m = some s') (h : s.pool.Shut t finished) :
    s'.pool.Shut t finished ∧ s'.pool.happenings t = s.pool.happenings t := by
  cases m with
  | launch body first =>
    cases hMove
    obtain ⟨c, hCell, _⟩ := h.cell
    have ht : t < s.pool.cells.length := (List.getElem?_eq_some_iff.mp hCell).1
    refine ⟨h.of_eq ?_ ?_, rfl⟩
    · rw [Pool.cell?_run, if_neg (Nat.ne_of_lt ht)]
    · rw [Pool.drivers_run, if_neg (Nat.ne_of_gt ht), List.append_nil]
  | ask request =>
    cases hMove
    simp only [Pool.ask_eq]
    exact ⟨h.onControl false request, Pool.happenings_congr (Pool.history_onControl _ _ _ _) t⟩
  | outside w =>
    cases hMove
    exact ⟨h, rfl⟩
  | work i => exact h.step (move_work hMove)

namespace Run

variable {b : Behaviour ω τ σ} {first s : Scene ω τ σ}

theorem holdersIn_le_one (r : Run b first s) (h : ∀ t, holdersIn first.pool.jobs t ≤ 1) :
    ∀ t, holdersIn s.pool.jobs t ≤ 1 :=
  r.keeps (P := fun s => ∀ t, holdersIn s.pool.jobs t ≤ 1) Scene.holdersIn_of_move h

theorem orderly (r : Run b first s) (hSound : first.pool.Sound) (h : first.pool.Orderly) :
    s.pool.Orderly := by
  refine (r.keeps (P := fun s => s.pool.Sound ∧ s.pool.Orderly) ?_ ⟨hSound, h⟩).2
  rintro _ _ _ hMove ⟨hSound, h⟩
  exact ⟨Scene.sound_of_move hMove hSound, Scene.orderly_of_move hMove hSound h⟩

theorem shut {t : TaskId} {finished : Bool} (r : Run b first s)
    (h : first.pool.Shut t finished) :
    s.pool.Shut t finished ∧ s.pool.happenings t = first.pool.happenings t := by
  refine r.keeps (P := fun s => s.pool.Shut t finished ∧
    s.pool.happenings t = first.pool.happenings t) ?_ ⟨h, rfl⟩
  rintro _ _ _ hMove ⟨hShut, hSame⟩
  obtain ⟨hShut', hSame'⟩ := Scene.shut_of_move hMove hShut
  exact ⟨hShut', hSame'.trans hSame⟩

end Run

/-- The job only returns: it gave up the body to yield, or it holds it still after a wait. After
the end of the task only the job that ended it can hold the body, and that one has not returned
from handling a state. -/
def Phase.Returns (finished : Bool) : Phase σ → Prop
  | going holding => holding = false ∨ finished = false
  | _ => False

theorem Phase.drives_of_not_returns {phase : Phase σ} (h : ¬ phase.Returns false) :
    phase.drives = true := by
  cases phase with
  | going holding => exact absurd (.inr rfl) h
  | _ => rfl

theorem Phase.holds_of_not_returns {phase : Phase σ} (h : ¬ phase.Returns true)
    (hDrives : phase.drives = false) : phase.holds = true := by
  cases phase with
  | going holding => simpa [Returns, holds] using h
  | _ => cases hDrives

namespace Pool

/-- No call queues a job of the task, whoever makes it. -/
def Deaf (p : Pool τ σ) (t : TaskId) : Prop :=
  ∀ request : Call, request.task = t →
    (p.ask request).jobs = p.jobs ∧ (p.call request).jobs = p.jobs

theorem Shut.deaf {p : Pool τ σ} {t : TaskId} {finished : Bool} (h : p.Shut t finished) :
    p.Deaf t := by
  rintro request rfl
  rw [ask_eq, call_eq]
  exact ⟨h.jobs_onControl false, h.jobs_onControl true⟩

theorem isFinished_eq_true {p : Pool τ σ} {t : TaskId} :
    p.isFinished t = true ↔ ∃ c, p.cell? t = some c ∧ c.control.finished = true := by
  rw [isFinished, control?]
  cases p.cell? t with
  | none => simp
  | some c => simp

theorem Sound.shut {p : Pool τ σ} (h : p.Sound) {t : TaskId} (hFinished : p.isFinished t = true) :
    p.Shut t true := by
  obtain ⟨c, hCell, hControl⟩ := isFinished_eq_true.mp hFinished
  exact ⟨⟨c, hCell, hControl, .inr hControl⟩, h.drivers_eq_nil hCell (.inr hControl)⟩

theorem countP_drives (p : Pool τ σ) (t : TaskId) :
    p.jobs.countP (fun j => j.task == t && j.phase.drives) = (p.drivers t).length := by
  rw [drivers, driversIn, List.length_filterMap_eq_countP]
  apply List.countP_congr
  intro j _
  by_cases hDrives : j.task = t ∧ j.phase.drives = true
  · simp [hDrives]
  · simp [hDrives]

theorem eq_of_not_returns {p : Pool τ σ} (h : p.Sound) {t : TaskId}
    (hHolders : holdersIn p.jobs t ≤ 1) {i j : Nat} {phase phase' : Phase σ}
    (hi : p.jobs[i]? = some ⟨t, phase⟩) (hj : p.jobs[j]? = some ⟨t, phase'⟩)
    (hPhase : ¬ phase.Returns (p.isFinished t)) (hPhase' : ¬ phase'.Returns (p.isFinished t)) :
    i = j := by
  cases hFinished : p.isFinished t with
  | true =>
    rw [hFinished] at hPhase hPhase'
    have hIdle {k : Nat} {other : Phase σ} (hk : p.jobs[k]? = some ⟨t, other⟩) :
        other.drives = false := by
      cases hDrives : other.drives with
      | false => rfl
      | true =>
        have hMem := mem_drivers_of_job hk hDrives
        rw [(h.shut hFinished).drivers] at hMem
        cases hMem
    have hHolds := Phase.holds_of_not_returns hPhase (hIdle hi)
    have hHolds' := Phase.holds_of_not_returns hPhase' (hIdle hj)
    exact eq_of_countP_le_one hHolders hi hj (by simp [hHolds]) (by simp [hHolds'])
  | false =>
    rw [hFinished] at hPhase hPhase'
    have hAlone := h.alone t
    rw [← countP_drives] at hAlone
    have hDrives := Phase.drives_of_not_returns hPhase
    have hDrives' := Phase.drives_of_not_returns hPhase'
    exact eq_of_countP_le_one hAlone hi hj (by simp [hDrives]) (by simp [hDrives'])

end Pool

/-- An end that fails shuts the task, which does not count as finished. -/
theorem Scene.shut_of_fault {b : Behaviour ω τ σ} {s : Scene ω τ σ} (hSound : s.pool.Sound)
    {i : Nat} {t : TaskId} {c : Cell τ σ} {text : String}
    (hJob : s.pool.jobs[i]? = some ⟨t, .parting⟩) (hCell : s.pool.cell? t = some c)
    (hFault : (b.part s.world c.body).2.2.2 = .fault text) :
    ∃ s', s.move b (.work i) = some s' ∧ s'.pool.Shut t false ∧
      s'.pool.happenings t = s.pool.happenings t := by
  obtain ⟨s', hMove⟩ : ∃ s', s.move b (.work i) = some s' := by
    simp [move, Pool.step, hJob, hCell]
  refine ⟨s', hMove, ?_, ?_⟩
  · obtain ⟨u, phase, d, d', next, hJob', hCell', _, hAdvance, hCells, hJobs⟩ :=
      Pool.step_cases (move_work hMove)
    obtain ⟨rfl, rfl⟩ := Job.mk.inj (Option.some.inj (hJob.symm.trans hJob'))
    obtain rfl := Option.some.inj (hCell.symm.trans hCell')
    obtain ⟨hScheduled, hFinished⟩ := hSound.of_job hJob rfl hCell
    generalize s'.world = w' at hAdvance
    cases hAdvance with
    | parting hPart => simp [hPart] at hFault
    | parted hPart => simp [hPart] at hFault
    | @lost _ body _ text hPart =>
      constructor
      · refine ⟨{ c with body }, ?_, hFinished, .inl hScheduled⟩
        rw [Pool.cell?, hCells, ← Pool.cell?, Pool.cell?_put hCell i _ (by simp), if_pos rfl]
      · rw [Pool.drivers_eq_of_jobs_eq hJobs,
          Pool.drivers_put_self _ hJob rfl (hSound.alone t) (by simp)]
        rfl
  · rw [Pool.happenings_step hJob hCell (move_work hMove)]
    simp [Phase.happens]

/-- A task is handled by one job at a time, one job at most has not given it up, and nothing
happens to it after it was told its outcome. A finished task stays finished and deaf, and a task
whose end failed is never finished and never taken up again. -/
theorem runs_alone_and_ends_once {b : Behaviour ω τ σ} {w : ω} {s : Scene ω τ σ}
    (r : Run b { world := w } s) (t : TaskId) :
    (∀ i j : Nat, s.pool.jobs[i]? = some ⟨t, .handling⟩ → s.pool.jobs[j]? = some ⟨t, .handling⟩ →
      i = j) ∧
    (∀ (i j : Nat) (phase phase' : Phase σ), s.pool.jobs[i]? = some ⟨t, phase⟩ →
      s.pool.jobs[j]? = some ⟨t, phase'⟩ → ¬ phase.Returns (s.pool.isFinished t) →
        ¬ phase'.Returns (s.pool.isFinished t) → i = j) ∧
    (∀ outcome before after, s.pool.happenings t = before ++ .told outcome :: after →
      after = []) ∧
    (s.pool.isFinished t = true → ∀ {s' : Scene ω τ σ} (_ : Run b s s'),
      s'.pool.isFinished t = true ∧ s'.pool.Deaf t ∧
        s'.pool.happenings t = s.pool.happenings t) ∧
    (∀ (i : Nat) (c : Cell τ σ) (text : String), s.pool.jobs[i]? = some ⟨t, .parting⟩ →
      s.pool.cell? t = some c → (b.part s.world c.body).2.2.2 = .fault text →
        ∃ s', s.move b (.work i) = some s' ∧ ∀ {s'' : Scene ω τ σ} (_ : Run b s' s''),
          s''.pool.isFinished t = false ∧ s''.pool.Deaf t ∧ s''.pool.drivers t = [] ∧
            s''.pool.happenings t = s.pool.happenings t) := by
  have hSound := r.sound Pool.sound_empty
  have hHolders := r.holdersIn_le_one (fun _ => Nat.zero_le 1) t
  refine ⟨?_, ?_, ?_, ?_, ?_⟩
  · intro i j hi hj
    exact eq_of_countP_le_one hHolders hi hj (by simp [Phase.holds]) (by simp [Phase.holds])
  · intro i j phase phase' hi hj hPhase hPhase'
    exact Pool.eq_of_not_returns hSound hHolders hi hj hPhase hPhase'
  · exact (r.orderly Pool.sound_empty Pool.orderly_empty).last t
  · intro hFinished s' later
    obtain ⟨hShut, hSame⟩ := later.shut (hSound.shut hFinished)
    exact ⟨hShut.isFinished, hShut.deaf, hSame⟩
  · intro i c text hJob hCell hFault
    obtain ⟨s', hMove, hShut, hSame⟩ := Scene.shut_of_fault hSound hJob hCell hFault
    refine ⟨s', hMove, ?_⟩
    intro s'' later
    obtain ⟨hShut', hSame'⟩ := later.shut hShut
    exact ⟨hShut'.isFinished, hShut'.deaf, hShut'.drivers, hSame'.trans hSame⟩

/-- The first task is about to fail at its end, the second one is finished, and the third one is
at work. -/
def frail : Option (Scene Labels Routine UInt32) :=
  Scene.follow Routine.behaviour { world := [] }
    ([.launch (.make "frail" [[⟨[], .step .finish⟩]] true) 0,
      .launch (.make "done" [[⟨[], .step .finish⟩]] false) 0,
      .launch (.make "busy" [[⟨[], .step (.proceed 0)⟩]] false) 0] ++
    List.replicate 5 (.work 0) ++ List.replicate 7 (.work 1) ++ List.replicate 2 (.work 2))

/-- The abort of a task whose end failed, and of one that is finished, changes nothing for them. -/
theorem runs_alone_and_ends_once_frail :
    ∃ s s' s'', Nonempty (Run Routine.behaviour { world := [] } s) ∧
      (∀ i : Nat, s.pool.jobs[i]? = some ⟨2, .handling⟩ → i = 2) ∧
      (∀ i : Nat, s.pool.jobs[i]? = some ⟨0, .parting⟩ → i = 0) ∧
      s.pool.happenings 0 = [.visited 0, .told .finished] ∧ s.pool.isFinished 1 = true ∧
      s.move Routine.behaviour (.work 0) = some s' ∧
      s'.follow Routine.behaviour [.ask (.abort 0), .ask (.abort 1)] = some s'' ∧
      s''.pool.isFinished 0 = false ∧ s''.pool.Deaf 0 ∧ s''.pool.drivers 0 = [] ∧
      s''.pool.happenings 0 = [.visited 0, .told .finished] ∧
      s''.pool.isFinished 1 = true ∧ s''.pool.Deaf 1 := by
  obtain ⟨s, hFollow⟩ : ∃ s, frail = some s := Option.isSome_iff_exists.mp (by decide)
  obtain ⟨r⟩ := Run.of_follow .start hFollow
  have hFacts : (frail.map fun s => (s.pool.jobs, s.pool.happenings 0, s.pool.isFinished 1)) =
      some ([⟨0, .parting⟩, ⟨1, .going true⟩, ⟨2, .handling⟩], [.visited 0, .told .finished],
        true) := by decide
  have hPart : (frail.bind fun s => (s.pool.cell? 0).map fun c =>
      (Routine.behaviour.part s.world c.body).2.2.2) = some (.fault "finish failed") := by decide
  rw [hFollow, Option.map_some, Option.some.injEq, Prod.mk.injEq, Prod.mk.injEq] at hFacts
  obtain ⟨hJobs, hHappenings, hFinished⟩ := hFacts
  rw [hFollow, Option.bind_some] at hPart
  obtain ⟨c, hCell, hFault⟩ := Option.map_eq_some_iff.mp hPart
  have hParting : s.pool.jobs[0]? = some ⟨0, .parting⟩ := by rw [hJobs]; rfl
  obtain ⟨_, hAlone, _, _, hLost⟩ := runs_alone_and_ends_once r 0
  obtain ⟨_, _, _, hEnds, _⟩ := runs_alone_and_ends_once r 1
  obtain ⟨hHandled, _, _, _, _⟩ := runs_alone_and_ends_once r 2
  obtain ⟨s', hMove, hLater⟩ := hLost 0 c _ hParting hCell hFault
  obtain ⟨s'', hAborts⟩ : ∃ s'',
      s'.follow Routine.behaviour [.ask (.abort 0), .ask (.abort 1)] = some s'' := ⟨_, rfl⟩
  obtain ⟨later⟩ := Run.of_follow .start hAborts
  obtain ⟨later'⟩ := Run.of_follow (.next .start _ hMove) hAborts
  obtain ⟨hNever, hDeaf, hDrivers, hSame⟩ := hLater later
  obtain ⟨hStays, hDeaf', _⟩ := hEnds hFinished later'
  refine ⟨s, s', s'', ⟨r⟩, ?_, ?_, hHappenings, hFinished, hMove, hAborts, hNever, hDeaf, hDrivers,
    hSame.trans hHappenings, hStays, hDeaf'⟩
  · intro i hi
    exact hHandled i 2 hi (by rw [hJobs]; rfl)
  · intro i hi
    exact hAlone i 0 .parting .parting hi hParting not_false not_false

end PipelineForge.Tasks
