import PipelineForge.Proofs.Tasks.Runs

/-!
# Alert tasks

A task is alert if it waits for certain bits only and if there is a reason for each of its waits:
an alert task that is suspended has its reason, and one whose wait is not decided yet has it or
will go on. Signals of these bits and aborts leave no reason behind. What the reason is, is left
to whoever describes what the task does.
-/

namespace PipelineForge.Tasks

variable {ω τ σ : Type}

structure Alert (bits : UInt32) (reason : Prop) (c : Control) (drivers : List (Phase σ)) :
    Prop where
  suspended : ∀ condition, c.waiting = some condition → condition = bits ∧ reason
  undecided : ∀ next condition, .handled (.wait next condition) ∈ drivers →
    condition = bits ∧ (reason ∨ c.pending &&& condition ≠ 0 ∨ c.abortRequested = true)

section Alert

variable {bits : UInt32} {reason reason' : Prop} {c : Control} {drivers : List (Phase σ)}

theorem Alert.mono (h : Alert bits reason c drivers) (hReason : reason → reason') :
    Alert bits reason' c drivers := by
  constructor
  · intro condition hWaiting
    exact (h.suspended condition hWaiting).imp_right hReason
  · intro next condition hMem
    exact (h.undecided next condition hMem).imp_right (Or.imp_left hReason)

theorem Alert.of_decided (hWaiting : c.waiting = none)
    (hDecided : ∀ next condition, .handled (.wait next condition) ∉ drivers) :
    Alert bits reason c drivers := by
  constructor
  · intro condition hSome
    rw [hWaiting] at hSome
    cases hSome
  · intro next condition hMem
    exact absurd hMem (hDecided next condition)

theorem Alert.queue (h : Alert bits reason c drivers) (flag : Prop) [Decidable flag]
    (byWorker : Bool) :
    Alert bits reason c (drivers ++ if flag then [.queued byWorker] else []) := by
  refine ⟨h.suspended, fun next condition hMem => h.undecided next condition ?_⟩
  rcases List.mem_append.mp hMem with hOld | hNew
  · exact hOld
  · split at hNew
    · cases List.mem_singleton.mp hNew
    · cases hNew

variable (hSound : c.Sound)
  (hDriven : ∀ phase ∈ drivers, c.scheduled = true ∧ c.finished = false)

include hSound hDriven

theorem Alert.signal (h : Alert bits reason c drivers) (hBits : bits ≠ 0) :
    Alert bits False (c.signal bits).1 drivers := by
  cases hFinished : c.finished with
  | true =>
    rw [Control.signal_of_finished bits hFinished]
    refine .of_decided ?_ fun next condition hMem => ?_
    · refine Option.eq_none_iff_forall_ne_some.mpr fun condition hWaiting => ?_
      rw [(hSound.resting condition hWaiting).2.1] at hFinished
      cases hFinished
    · rw [(hDriven _ hMem).2] at hFinished
      cases hFinished
  | false =>
    cases hWoken : c.wokenBy bits with
    | some condition =>
      rw [Control.signal_of_woken hFinished hWoken]
      refine .of_decided rfl fun next condition hMem => ?_
      have hResting := (Control.wokenBy_eq_some.mp hWoken).1
      rw [(hDriven _ hMem).1] at hResting
      cases hResting
    | none =>
      rw [Control.signal_of_not_woken hFinished hWoken]
      constructor
      · intro condition hWaiting
        obtain ⟨rfl, _⟩ := h.suspended condition hWaiting
        have hResting := (hSound.resting condition hWaiting).1
        rw [Control.wokenBy_eq_some.mpr ⟨hResting, hWaiting, by simpa using hBits⟩] at hWoken
        cases hWoken
      · intro next condition hMem
        obtain ⟨rfl, _⟩ := h.undecided next condition hMem
        refine ⟨rfl, .inr (.inl ?_)⟩
        obtain ⟨k, hk⟩ := ne_zero_iff_hasBit.mp hBits
        exact and_ne_zero_iff.mpr ⟨k, hasBit_or.mpr (.inr hk), hk⟩

theorem Alert.abort (h : Alert bits reason c drivers) : Alert bits False c.abort.1 drivers := by
  by_cases hIgnored : c.finished = true ∨ c.abortRequested = true
  · rw [Control.abort_of_ignored hIgnored]
    refine ⟨fun condition hWaiting => ?_, fun next condition hMem => ?_⟩
    · obtain ⟨_, hFinished, hAbort, _⟩ := hSound.resting condition hWaiting
      simp [hFinished, hAbort] at hIgnored
    · refine ⟨(h.undecided next condition hMem).1, .inr (.inr ?_)⟩
      exact hIgnored.resolve_left (by simp [(hDriven _ hMem).2])
  · obtain ⟨hFinished, hAbort⟩ : c.finished = false ∧ c.abortRequested = false := by
      simpa using hIgnored
    cases hScheduled : c.scheduled with
    | true =>
      rw [Control.abort_of_scheduled hFinished hAbort hScheduled]
      refine ⟨fun condition hWaiting => ?_, fun next condition hMem => ?_⟩
      · rw [hSound.waiting_eq_none hScheduled] at hWaiting
        cases hWaiting
      · exact ⟨(h.undecided next condition hMem).1, .inr (.inr rfl)⟩
    | false =>
      rw [Control.abort_of_resting hFinished hAbort hScheduled]
      refine .of_decided rfl fun next condition hMem => ?_
      rw [(hDriven _ hMem).1] at hScheduled
      cases hScheduled

def Call.Rouses (bits : UInt32) : Call → Prop
  | signal _ b => b = bits
  | abort _ => True

theorem Alert.call (h : Alert bits reason c drivers) (hBits : bits ≠ 0) {request : Call}
    (hRouses : request.Rouses bits) : Alert bits False (request.change c).1 drivers := by
  cases request with
  | signal t b =>
    obtain rfl : b = bits := hRouses
    exact h.signal hSound hDriven hBits
  | abort t => exact h.abort hSound hDriven

end Alert

/-- A task that begins to wait does so for the bits and for the reason. -/
def Reply.Heeds (bits : UInt32) (reason : Prop) : Reply σ → Prop
  | .step (.wait _ condition) => condition = bits ∧ reason
  | _ => True

theorem Reply.Heeds.mono {bits : UInt32} {reason reason' : Prop} {reply : Reply σ}
    (h : reply.Heeds bits reason) (hReason : reason → reason') : reply.Heeds bits reason' := by
  cases reply with
  | step s =>
    cases s with
    | wait next condition => exact h.imp_right hReason
    | _ => trivial
  | _ => trivial

/-- The tasks ask nothing of the pool themselves. -/
def Behaviour.AsksNothing (b : Behaviour ω τ σ) : Prop :=
  ∀ w body request, (b.work w body).2.2.2 ≠ .call request

section Advances

variable {b : Behaviour ω τ σ} {w w' : ω} {c c' : Cell τ σ} {phase : Phase σ} {next : Next σ}
  {bits : UInt32} {reason reason' : Prop}

theorem Advance.alert (h : Advance b w c phase w' c' next) (hSound : c.control.Sound)
    (hScheduled : c.control.scheduled = true)
    (hAlert : Alert bits reason c.control [phase])
    (hHeeds : phase = .handling → (b.work w c.body).2.2.2.Heeds bits reason')
    (hReason : reason → reason') :
    Alert bits reason' c'.control next.drivers := by
  have hWaiting := hSound.waiting_eq_none hScheduled
  cases h with
  | handled s hWork =>
    have hReply := hHeeds rfl
    rw [hWork] at hReply
    refine ⟨?_, fun next condition hMem => ?_⟩
    · intro condition hSome
      rw [hWaiting] at hSome
      cases hSome
    · cases List.mem_singleton.mp hMem
      exact ⟨hReply.1, .inl hReply.2⟩
  | passed next condition hAwait =>
    refine .of_decided (Control.await_waiting hAwait hWaiting) fun next condition hMem => ?_
    cases List.mem_singleton.mp hMem
  | suspended next condition hAwait =>
    obtain ⟨hPending, hAbort⟩ := Control.await_suspends_iff.mp hAwait
    obtain ⟨hBits, hCause⟩ := hAlert.undecided next condition (List.mem_singleton_self _)
    have hHolds : reason := by
      rcases hCause with hHolds | hSome | hAborted
      · exact hHolds
      · exact absurd hPending hSome
      · rw [hAbort] at hAborted
        cases hAborted
    rw [Control.await_of_nothing hPending hAbort]
    refine ⟨fun other hOther => ?_, fun next condition hMem => by cases hMem⟩
    obtain rfl := Option.some.inj hOther
    exact ⟨hBits, hReason hHolds⟩
  | completed => exact .of_decided rfl fun next condition hMem => by cases hMem
  | lost text hPart => exact .of_decided hWaiting fun next condition hMem => by cases hMem
  | gone holding => exact .of_decided hWaiting fun next condition hMem => by cases hMem
  | _ =>
    refine .of_decided hWaiting fun next condition hMem => ?_
    cases List.mem_singleton.mp hMem

theorem Advance.world_of_handling (h : Advance b w c .handling w' c' next) :
    (b.work w c.body).1 = w' := by
  cases h with
  | more hWork => rw [hWork]
  | called request hWork => rw [hWork]
  | handled s hWork => rw [hWork]
  | faulted text hWork => rw [hWork]

namespace Pool

variable {p p' : Pool τ σ} {i : Nat} {t u : TaskId}

theorem Advances.other (h : Advances b p w i p' w' t phase c c' next)
    (hNext : ∀ request, next ≠ .called request) (hu : u ≠ t) :
    p'.cell? u = p.cell? u ∧ p'.drivers u = p.drivers u := by
  constructor
  · rw [cell?, h.cells, ← cell?, cell?_put h.cell i c' hNext, if_neg hu]
  · rw [drivers_eq_of_jobs_eq h.jobs, drivers_put_of_ne c' h.job hu hNext]

theorem Advances.self (h : Advances b p w i p' w' t phase c c' next) (hSound : p.Sound)
    (hNext : ∀ request, next ≠ .called request) :
    p'.cell? t = some c' ∧
      (phase.drives = true ∧ p.drivers t = [phase] ∧ p'.drivers t = next.drivers ∧
          c.control.scheduled = true ∨
        phase.drives = false ∧ w' = w ∧ c' = c ∧ p'.drivers t = p.drivers t) := by
  refine ⟨by rw [cell?, h.cells, ← cell?, cell?_put h.cell i c' hNext, if_pos rfl], ?_⟩
  by_cases hDrives : phase.drives = true
  · refine .inl ⟨hDrives, drivers_of_job h.job hDrives (hSound.alone t), ?_, ?_⟩
    · rw [drivers_eq_of_jobs_eq h.jobs]
      exact drivers_put_self c' h.job hDrives (hSound.alone t) hNext
    · exact (hSound.of_job h.job hDrives h.cell).1
  · cases h.advance with
    | gone holding =>
      refine .inr ⟨rfl, rfl, rfl, ?_⟩
      rw [drivers_eq_of_jobs_eq h.jobs, drivers_put_gone c h.job rfl]
    | _ => exact absurd rfl hDrives

theorem Advances.not_called (h : Advances b p w i p' w' t phase c c' next)
    (hNothing : b.AsksNothing) : ∀ request, next ≠ .called request := by
  rintro request rfl
  cases h.advance with
  | called _ hWork => exact hNothing w c.body request (by rw [hWork])

/-- A step keeps each task alert whose reason lasts, if the task at work waits for its reason. -/
theorem Advances.alert (h : Advances b p w i p' w' t phase c c' next) (hSound : p.Sound)
    (hNothing : b.AsksNothing)
    (hHeeds : u = t → phase = .handling → (b.work w c.body).2.2.2.Heeds bits reason')
    {d d' : Cell τ σ} (hBefore : p.cell? u = some d) (hAfter : p'.cell? u = some d')
    (hAlert : Alert bits reason d.control (p.drivers u)) (hReason : reason → reason') :
    Alert bits reason' d'.control (p'.drivers u) := by
  have hNext := h.not_called hNothing
  by_cases hu : u = t
  · subst hu
    obtain ⟨hSelf, hDrivers⟩ := h.self hSound hNext
    obtain rfl := Option.some.inj (hAfter.symm.trans hSelf)
    obtain rfl := Option.some.inj (hBefore.symm.trans h.cell)
    rcases hDrivers with ⟨_, hOld, hNew, hScheduled⟩ | ⟨_, rfl, rfl, hSame⟩
    · rw [hOld] at hAlert
      rw [hNew]
      exact h.advance.alert (hSound.control u d hBefore) hScheduled hAlert (hHeeds rfl) hReason
    · rw [hSame]
      exact hAlert.mono hReason
  · obtain ⟨hCell, hDrivers⟩ := h.other hNext hu
    rw [hCell] at hAfter
    obtain rfl := Option.some.inj (hBefore.symm.trans hAfter)
    rw [hDrivers]
    exact hAlert.mono hReason

theorem Sound.driven_of_cell (h : p.Sound) (hCell : p.cell? u = some c) :
    ∀ phase ∈ p.drivers u, c.control.scheduled = true ∧ c.control.finished = false := by
  intro phase hMem
  obtain ⟨d, hSome, hFlags⟩ := h.driven u phase hMem
  obtain rfl := Option.some.inj (hCell.symm.trans hSome)
  exact hFlags

section Outside

variable {R : τ → Prop}
  (hAlert : ∀ c, p.cell? u = some c → Alert bits (R c.body) c.control (p.drivers u))

include hAlert

theorem Sound.alert_ask (h : p.Sound) {request : Call} (hBits : bits ≠ 0)
    (hRouses : request.Rouses bits) (hAfter : (p.ask request).cell? u = some c') :
    Alert bits (R c'.body ∧ u ≠ request.task) c'.control ((p.ask request).drivers u) := by
  rw [ask_eq] at hAfter ⊢
  cases hTask : p.cell? request.task with
  | none =>
    rw [onControl_of_none hTask] at hAfter ⊢
    refine (hAlert c' hAfter).mono fun hReason => ⟨hReason, ?_⟩
    rintro rfl
    rw [hTask] at hAfter
    cases hAfter
  | some d =>
    rw [cell?_onControl hTask] at hAfter
    rw [drivers_onControl hTask]
    split at hAfter
    · next hu =>
      subst hu
      obtain rfl := Option.some.inj hAfter
      have hFalse :=
        (hAlert d hTask).call (h.control _ d hTask) (h.driven_of_cell hTask) hBits hRouses
      exact (hFalse.mono False.elim).queue _ false
    · next hu => exact ((hAlert c' hAfter).mono fun hReason => ⟨hReason, hu⟩).queue _ false

theorem Sound.alert_run (h : p.Sound) (body : τ) (first : σ)
    (hAfter : (p.run body first).1.cell? u = some c') :
    Alert bits (R c'.body) c'.control ((p.run body first).1.drivers u) := by
  rw [cell?_run] at hAfter
  rw [drivers_run]
  split at hAfter
  · next hu =>
    obtain rfl := Option.some.inj hAfter
    have hNone : p.cell? u = none := List.getElem?_eq_none (Nat.le_of_eq hu.symm)
    rw [h.drivers_of_none hNone, if_pos hu.symm]
    refine .of_decided rfl fun next condition hMem => ?_
    cases List.mem_singleton.mp hMem
  · exact (hAlert c' hAfter).queue _ false

end Outside

end Pool

end Advances

end PipelineForge.Tasks
