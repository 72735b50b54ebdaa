import PipelineForge.Proofs.Tasks.Alerts
import PipelineForge.Proofs.Tasks.Modes

/-!
# Abort requests

Only a call for a task asks it to abort; what a worker does with the task makes no such request.
A task that was not asked to goes from its states to its end only by handling one. What the tasks
ask of each other is left out.
-/

namespace PipelineForge.Tasks

variable {ω τ σ : Type}

theorem Control.abortRequested_signal (c : Control) (bits : UInt32) :
    (c.signal bits).1.abortRequested = c.abortRequested := by
  cases hFinished : c.finished with
  | true => rw [signal_of_finished bits hFinished]
  | false =>
    cases hWoken : c.wokenBy bits with
    | some condition => rw [signal_of_woken hFinished hWoken]
    | none => rw [signal_of_not_woken hFinished hWoken]

theorem Control.abortRequested_await (c : Control) (condition : UInt32) :
    (c.await condition).1.abortRequested = c.abortRequested := by
  by_cases hPending : c.pending &&& condition = 0
  · cases hAbort : c.abortRequested with
    | true => rw [await_of_abort hPending hAbort, hAbort]
    | false => rw [await_of_nothing hPending hAbort, hAbort]
  · rw [await_of_pending hPending]

theorem Phase.eq_handling {state : σ} {phase : Phase σ} (h : phase.mode state = .working) :
    phase = .handling := by
  cases phase with
  | handling => rfl
  | handled s => cases s <;> cases h
  | _ => cases h

section Advances

variable {b : Behaviour ω τ σ} {w w' : ω} {c c' : Cell τ σ} {phase : Phase σ} {next : Next σ}

theorem Advance.abortRequested (h : Advance b w c phase w' c' next) :
    c'.control.abortRequested = c.control.abortRequested := by
  cases h with
  | passed next condition hAwait => exact Control.abortRequested_await _ _
  | suspended next condition hAwait => exact Control.abortRequested_await _ _
  | _ => rfl

theorem Advance.keeps_on (h : Advance b w c phase w' c' next) {s : σ} {outcome : Outcome}
    (hDrives : phase.drives = true) (hUnasked : c.control.abortRequested = false)
    (hRests : phase.mode c.state = .resting s) :
    c'.mode next.drivers ≠ .ended outcome := by
  intro hEnded
  cases h with
  | stopped hAbort =>
    rw [hUnasked] at hAbort
    cases hAbort
  | suspended next condition hAwait =>
    change Cell.mode _ [] = _ at hEnded
    rw [Cell.mode] at hEnded
    split at hEnded
    · cases hEnded
    · split at hEnded <;> cases hEnded
  | taken byWorker => cases hEnded
  | entered hAbort => cases hEnded
  | proceeded next => cases hEnded
  | yielded next => cases hEnded
  | passed next condition hAwait => cases hEnded
  | requeued => cases hEnded
  | gone holding => cases hDrives
  | _ => cases hRests

namespace Pool

variable {p p' : Pool τ σ} {i : Nat} {t u : TaskId}

/-- A step either is a piece of the work of its task, or leaves alone all that such a piece could
touch. -/
theorem Advances.work_or_not (h : Advances b p w i p' w' t phase c c' next) (hSound : p.Sound)
    (hNothing : b.AsksNothing) {body body' : τ} {mode mode' : Mode σ}
    (hBefore : p.member? t = some (body, mode)) (hAfter : p'.member? t = some (body', mode')) :
    (phase = .handling ∧ c.body = body ∧ mode = .working ∧ ∃ lines reply,
      b.work w body = (w', body', lines, reply) ∧ reply ≠ .held ∧ mode' = reply.mode) ∨
    phase ≠ .handling ∧ (w' = w ∧ body' = body ∧ mode' = mode ∨ mode ≠ .working ∧
      (c.control.abortRequested = false → ∀ s outcome, mode = .resting s →
        mode' ≠ .ended outcome)) := by
  have hNext := h.not_called hNothing
  obtain ⟨hSelf, hDrivers⟩ := h.self hSound hNext
  rw [member?_of_cell h.cell] at hBefore
  rw [member?_of_cell hSelf] at hAfter
  obtain ⟨rfl, rfl⟩ := Prod.mk.inj (Option.some.inj hBefore)
  obtain ⟨rfl, rfl⟩ := Prod.mk.inj (Option.some.inj hAfter)
  rcases hDrivers with ⟨hDrives, hOld, hNew, _⟩ | ⟨hIdle, rfl, rfl, hSame⟩
  · rw [hOld, hNew]
    by_cases hHandling : phase = .handling
    · subst hHandling
      refine .inl ⟨rfl, rfl, rfl, ?_⟩
      cases h.advance with
      | more hWork => exact ⟨_, _, hWork, nofun, rfl⟩
      | called request hWork => exact absurd rfl (hNext request)
      | handled s hWork => exact ⟨_, _, hWork, nofun, rfl⟩
      | faulted text hWork => exact ⟨_, _, hWork, nofun, rfl⟩
    · -- The task is driven, but not handling: it is between two pieces of its work.
      refine .inr ⟨hHandling, .inr ⟨fun hMode => hHandling ?_, ?_⟩⟩
      · exact Phase.eq_handling (by simpa [Cell.mode] using hMode)
      · exact fun hUnasked s outcome hRests => h.advance.keeps_on hDrives hUnasked hRests
  · refine .inr ⟨?_, .inl ⟨rfl, rfl, by rw [hSame]⟩⟩
    rintro rfl
    cases hIdle

theorem Advances.abortRequested (h : Advances b p w i p' w' t phase c c' next)
    (hSound : p.Sound) (hNothing : b.AsksNothing) {d d' : Cell τ σ}
    (hBefore : p.cell? u = some d) (hAfter : p'.cell? u = some d') :
    d'.control.abortRequested = d.control.abortRequested := by
  have hNext := h.not_called hNothing
  by_cases hu : u = t
  · subst hu
    obtain rfl := Option.some.inj (hAfter.symm.trans (h.self hSound hNext).1)
    obtain rfl := Option.some.inj (hBefore.symm.trans h.cell)
    exact h.advance.abortRequested
  · rw [(h.other hNext hu).1] at hAfter
    obtain rfl := Option.some.inj (hBefore.symm.trans hAfter)
    rfl

/-- No task of a kind was asked to abort. -/
def Unasked (p : Pool τ σ) (who : τ → Prop) : Prop :=
  ∀ t c, p.cell? t = some c → who c.body → c.control.abortRequested = false

variable {who : τ → Prop}

theorem Unasked.run (hUnasked : p.Unasked who) (body : τ) (first : σ) :
    (p.run body first).1.Unasked who := by
  intro u d hAfter hd
  rw [cell?_run] at hAfter
  split at hAfter
  · obtain rfl := Option.some.inj hAfter
    rfl
  · exact hUnasked u d hAfter hd

theorem Unasked.ask (hUnasked : p.Unasked who) {request : Call}
    (hOthers : ∀ t c, request = .abort t → p.cell? t = some c → ¬ who c.body) :
    (p.ask request).Unasked who := by
  intro u d hAfter hd
  rw [ask_eq] at hAfter
  cases hTask : p.cell? request.task with
  | none =>
    rw [onControl_of_none hTask] at hAfter
    exact hUnasked u d hAfter hd
  | some c =>
    rw [cell?_onControl hTask] at hAfter
    split at hAfter
    · obtain rfl := Option.some.inj hAfter
      cases request with
      | signal t bits =>
        exact (Control.abortRequested_signal _ bits).trans (hUnasked t c hTask hd)
      | abort t => exact absurd hd (hOthers t c rfl hTask)
    · exact hUnasked u d hAfter hd

end Pool

end Advances

end PipelineForge.Tasks
