import PipelineForge.Proofs.Tasks.Runs
import PipelineForge.Tasks.Scripted

/-!
# Wake-ups

What happens to a task is told by a history: the signals and aborts that reached it, and how its
waits ended. A bit is live while it was signalled and not consumed since. A wait suspends the task
if and only if none of its bits is live and no abort was asked for, and a suspended task is queued
again by the first call that concerns it. The history is read off the moves, not kept by the pool.
-/

namespace PipelineForge.Tasks

variable {ω τ σ : Type}

inductive Incident where
  | signalled (bits : UInt32)
  | aborted
  /-- A signal put the task, which waited for the condition, back on the pool. -/
  | woken (condition : UInt32)
  /-- A wait that did not suspend the task. -/
  | passed (condition : UInt32)
  | suspended (condition : UInt32)
deriving DecidableEq

def Incident.Consumes : Incident → Nat → Prop
  | woken condition, k => HasBit condition k
  | passed condition, k => HasBit condition k
  | _, _ => False

/-- The bit was signalled and not consumed since. -/
def Live (history : List Incident) (k : Nat) : Prop :=
  ∃ before bits after, history = before ++ .signalled bits :: after ∧ HasBit bits k ∧
    ∀ e ∈ after, ¬ e.Consumes k

/-- There is nothing that a wait for the condition could go on for. -/
def Quiet (history : List Incident) (condition : UInt32) : Prop :=
  (∀ k, HasBit condition k → ¬ Live history k) ∧ .aborted ∉ history

/-- An incident that does not concern a task which is suspended on the condition. -/
def Incident.Misses (condition : UInt32) : Incident → Prop
  | signalled bits => condition &&& bits = 0
  | aborted => False
  | _ => True

theorem not_live_nil (k : Nat) : ¬ Live [] k := by
  rintro ⟨before, bits, after, h, _⟩
  cases before <;> cases h

theorem live_append_single {history : List Incident} {e : Incident} {k : Nat} :
    Live (history ++ [e]) k ↔
      (∃ bits, e = .signalled bits ∧ HasBit bits k) ∨ (Live history k ∧ ¬ e.Consumes k) := by
  constructor
  · rintro ⟨before, bits, after, hHistory, hBit, hAfter⟩
    rcases List.eq_nil_or_concat after with rfl | ⟨rest, last, rfl⟩
    · obtain ⟨_, hLast⟩ := List.append_inj' hHistory rfl
      cases hLast
      exact .inl ⟨bits, rfl, hBit⟩
    · rw [List.concat_eq_append] at hHistory hAfter
      rw [← List.cons_append, ← List.append_assoc] at hHistory
      obtain ⟨hInit, hLast⟩ := List.append_inj' hHistory rfl
      cases hLast
      refine .inr ⟨⟨before, bits, rest, hInit, hBit, ?_⟩, hAfter e (by simp)⟩
      intro d hd
      exact hAfter d (List.mem_append_left _ hd)
  · rintro (⟨bits, rfl, hBit⟩ | ⟨⟨before, bits, after, rfl, hBit, hAfter⟩, he⟩)
    · exact ⟨history, bits, [], rfl, hBit, by simp⟩
    · refine ⟨before, bits, after ++ [e], by simp, hBit, ?_⟩
      intro d hd
      rcases List.mem_append.mp hd with hd | hd
      · exact hAfter d hd
      · rw [List.mem_singleton.mp hd]
        exact he

def Incident.wake : Option UInt32 → Option UInt32 → List Incident
  | some condition, none => [.woken condition]
  | _, _ => []

def Call.incidents : Call → Control → Control → List Incident
  | signal _ bits, c, c' => .signalled bits :: Incident.wake c.waiting c'.waiting
  | abort _, _, _ => [.aborted]

def Incident.ofWait (condition : UInt32) (c' : Control) : Incident :=
  if c'.waiting = some condition then .suspended condition else .passed condition

/-- What one move does to the control block of a task, with the incidents that it leaves. -/
inductive Touch (c : Control) : Control → List Incident → Prop where
  | untouched : Touch c c []
  | called (request : Call) :
      Touch c (request.change c).1 (request.incidents c (request.change c).1)
  | awaited (condition : UInt32) (hScheduled : c.scheduled = true)
      (hFinished : c.finished = false) :
      Touch c (c.await condition).1 [.ofWait condition (c.await condition).1]
  | completed (hScheduled : c.scheduled = true) : Touch c c.complete []

namespace Scene

variable {b : Behaviour ω τ σ}

/-- What a move asks of a task, be it from outside or from a task at work. -/
def call? (b : Behaviour ω τ σ) (s : Scene ω τ σ) : Move ω τ σ → Option Call
  | .ask request => some request
  | .work i =>
    match s.pool.jobs[i]? with
    | some ⟨t, .handling⟩ =>
      match (s.pool.cell? t).map fun c => (b.work s.world c.body).2.2.2 with
      | some (.call request) => some request
      | _ => none
    | _ => none
  | _ => none

/-- The task whose wait a move decides about, with the condition. -/
def wait? (s : Scene ω τ σ) : Move ω τ σ → Option (TaskId × UInt32)
  | .work i =>
    match s.pool.jobs[i]? with
    | some ⟨t, .handled (.wait _ condition)⟩ => some (t, condition)
    | _ => none
  | _ => none

def incidents (b : Behaviour ω τ σ) (s : Scene ω τ σ) (m : Move ω τ σ) (s' : Scene ω τ σ)
    (t : TaskId) : List Incident :=
  match s.pool.control? t, s'.pool.control? t with
  | some c, some c' =>
    (match s.call? b m with
      | some request => if request.task = t then request.incidents c c' else []
      | none => []) ++
    (match s.wait? m with
      | some (u, condition) => if u = t then [.ofWait condition c'] else []
      | none => [])
  | _, _ => []

theorem incidents_of_none {s s' : Scene ω τ σ} {t : TaskId} (m : Move ω τ σ)
    (h : s.pool.cell? t = none) : s.incidents b m s' t = [] := by
  simp [incidents, Pool.control?, h]

theorem incidents_of_cells {s s' : Scene ω τ σ} {m : Move ω τ σ} {t : TaskId} {c c' : Cell τ σ}
    (hCell : s.pool.cell? t = some c) (hCell' : s'.pool.cell? t = some c') :
    s.incidents b m s' t =
      (match s.call? b m with
        | some request => if request.task = t then request.incidents c.control c'.control else []
        | none => []) ++
      (match s.wait? m with
        | some (u, condition) => if u = t then [.ofWait condition c'.control] else []
        | none => []) := by
  simp [incidents, Pool.control?, hCell, hCell']

theorem call?_work_of_ne {s : Scene ω τ σ} {i : Nat} {t : TaskId} {phase : Phase σ}
    (hJob : s.pool.jobs[i]? = some ⟨t, phase⟩) (hPhase : phase ≠ .handling) :
    s.call? b (.work i) = none := by
  cases phase with
  | handling => exact absurd rfl hPhase
  | _ => simp only [call?, hJob]

theorem call?_work_of_reply {s : Scene ω τ σ} {i : Nat} {t : TaskId} {c : Cell τ σ}
    (hJob : s.pool.jobs[i]? = some ⟨t, .handling⟩) (hCell : s.pool.cell? t = some c) :
    s.call? b (.work i) =
      match (b.work s.world c.body).2.2.2 with
      | .call request => some request
      | _ => none := by
  simp only [call?, hJob, hCell, Option.map_some]
  cases (b.work s.world c.body).2.2.2 <;> rfl

theorem call?_work_of_no_call {s : Scene ω τ σ} {i : Nat} {t : TaskId} {c : Cell τ σ}
    (hJob : s.pool.jobs[i]? = some ⟨t, .handling⟩) (hCell : s.pool.cell? t = some c)
    (hReply : ∀ request, (b.work s.world c.body).2.2.2 ≠ .call request) :
    s.call? b (.work i) = none := by
  rw [call?_work_of_reply hJob hCell]
  split
  · next request hCall => exact absurd hCall (hReply request)
  · rfl

theorem wait?_work_of_ne {s : Scene ω τ σ} {i : Nat} {t : TaskId} {phase : Phase σ}
    (hJob : s.pool.jobs[i]? = some ⟨t, phase⟩)
    (hPhase : ∀ next condition, phase ≠ .handled (.wait next condition)) :
    s.wait? (.work i) = none := by
  simp only [wait?, hJob]
  cases phase with
  | handled s =>
    cases s with
    | wait next condition => exact absurd rfl (hPhase next condition)
    | _ => rfl
  | _ => rfl

theorem touch_of_onControl {s s' : Scene ω τ σ} {m : Move ω τ σ} {t : TaskId} {c d : Cell τ σ}
    (p : Pool τ σ) (byWorker : Bool) {request : Call}
    (hCall : s.call? b m = some request) (hWait : s.wait? m = none)
    (hCell : s.pool.cell? t = some c) (hPool : p.cell? t = some d)
    (hControl : d.control = c.control)
    (hAfter : s'.pool.cells = (p.onControl request.task byWorker request.change).cells) :
    ∃ c', s'.pool.cell? t = some c' ∧ Touch c.control c'.control (s.incidents b m s' t) := by
  have hCells : s'.pool.cell? t = (p.onControl request.task byWorker request.change).cell? t := by
    rw [Pool.cell?, hAfter, Pool.cell?]
  by_cases ht : request.task = t
  · subst ht
    rw [Pool.cell?_onControl hPool, if_pos rfl] at hCells
    refine ⟨_, hCells, ?_⟩
    rw [incidents_of_cells hCell hCells, hCall, hWait]
    simp only [if_true, List.append_nil, hControl]
    exact .called request
  · have hSame : s'.pool.cell? t = some d := by
      cases hTask : p.cell? request.task with
      | none => rw [hCells, Pool.onControl_of_none hTask, hPool]
      | some e => rw [hCells, Pool.cell?_onControl hTask, if_neg (Ne.symm ht), hPool]
    refine ⟨d, hSame, ?_⟩
    rw [incidents_of_cells hCell hSame, hCall, hWait, hControl]
    simp only [if_neg ht, List.append_nil]
    exact .untouched

section Working

variable {s s' : Scene ω τ σ} {i : Nat} {t u : TaskId} {phase : Phase σ} {c d d' : Cell τ σ}
  {next : Next σ}

theorem touch_of_put (hCall : s.call? b (.work i) = none)
    (hOther : ∀ v condition, s.wait? (.work i) = some (v, condition) → v = u)
    (hCell : s.pool.cell? t = some c) (hTask : s.pool.cell? u = some d)
    (hNext : ∀ request, next ≠ .called request)
    (hAfter : s'.pool.cells = (s.pool.put i u d' next).cells)
    (hSelf : s'.pool.cell? u = some d' →
      Touch d.control d'.control (s.incidents b (.work i) s' u)) :
    ∃ c', s'.pool.cell? t = some c' ∧
      Touch c.control c'.control (s.incidents b (.work i) s' t) := by
  have hCells (v : TaskId) : s'.pool.cell? v = if v = u then some d' else s.pool.cell? v := by
    rw [Pool.cell?, hAfter, ← Pool.cell?, Pool.cell?_put hTask i d' hNext]
  by_cases ht : t = u
  · subst ht
    obtain rfl := Option.some.inj (hCell.symm.trans hTask)
    have hSome := (hCells t).trans (if_pos rfl)
    exact ⟨d', hSome, hSelf hSome⟩
  · have hSame : s'.pool.cell? t = some c := by rw [hCells, if_neg ht, hCell]
    refine ⟨c, hSame, ?_⟩
    rw [incidents_of_cells hCell hSame, hCall]
    cases hWait : s.wait? (.work i) with
    | none => exact .untouched
    | some wait =>
      obtain ⟨v, condition⟩ := wait
      have hv := hOther v condition hWait
      simp only [List.nil_append, if_neg (show v ≠ t from fun h => ht (h.symm.trans hv))]
      exact .untouched

theorem touch_of_silent (hCall : s.call? b (.work i) = none) (hWait : s.wait? (.work i) = none)
    (hCell : s.pool.cell? t = some c) (hTask : s.pool.cell? u = some d)
    (hNext : ∀ request, next ≠ .called request)
    (hAfter : s'.pool.cells = (s.pool.put i u d' next).cells)
    (hControl : Touch d.control d'.control []) :
    ∃ c', s'.pool.cell? t = some c' ∧
      Touch c.control c'.control (s.incidents b (.work i) s' t) := by
  refine touch_of_put hCall (by simp [hWait]) hCell hTask hNext hAfter fun hSome => ?_
  rw [incidents_of_cells hTask hSome, hCall, hWait]
  exact hControl

theorem touch_of_wait {after : σ} {condition : UInt32}
    (hJob : s.pool.jobs[i]? = some ⟨u, .handled (.wait after condition)⟩) (hSound : s.pool.Sound)
    (hCell : s.pool.cell? t = some c) (hTask : s.pool.cell? u = some d)
    (hAfter : s'.pool.cells = (s.pool.put i u d' next).cells)
    (hControl : d'.control = (d.control.await condition).1)
    (hNext : ∀ request, next ≠ .called request) :
    ∃ c', s'.pool.cell? t = some c' ∧
      Touch c.control c'.control (s.incidents b (.work i) s' t) := by
  have hCall := call?_work_of_ne (b := b) hJob nofun
  have hWait : s.wait? (.work i) = some (u, condition) := by simp only [wait?, hJob]
  refine touch_of_put hCall (by simp [hWait]) hCell hTask hNext hAfter fun hSome => ?_
  rw [incidents_of_cells hTask hSome, hCall, hWait, hControl]
  simp only [List.nil_append, if_true]
  obtain ⟨hScheduled, hFinished⟩ := hSound.of_job hJob rfl hTask
  exact .awaited condition hScheduled hFinished

theorem touch_of_call {request : Call} (hJob : s.pool.jobs[i]? = some ⟨u, .handling⟩)
    (hReply : (b.work s.world d.body).2.2.2 = .call request)
    (hCell : s.pool.cell? t = some c) (hTask : s.pool.cell? u = some d)
    (hAfter : s'.pool.cells = (s.pool.put i u d' (.called request)).cells)
    (hControl : d'.control = d.control) :
    ∃ c', s'.pool.cell? t = some c' ∧
      Touch c.control c'.control (s.incidents b (.work i) s' t) := by
  have hCall : s.call? b (.work i) = some request := by
    rw [call?_work_of_reply hJob hTask, hReply]
  have hWait := wait?_work_of_ne hJob nofun
  refine touch_of_onControl (s.pool.setCell u d') true hCall hWait hCell
    (d := if t = u then d' else c) ?_ ?_ ?_
  · rw [Pool.cell?_setCell _ hTask, hCell]
    split <;> rfl
  · split
    · next ht =>
      subst ht
      obtain rfl := Option.some.inj (hCell.symm.trans hTask)
      exact hControl
    · rfl
  · rw [hAfter, Pool.put, Pool.call_eq]

end Working

theorem touch_of_move {s s' : Scene ω τ σ} {m : Move ω τ σ} (hMove : s.move b m = some s')
    (hSound : s.pool.Sound) {t : TaskId} {c : Cell τ σ} (hCell : s.pool.cell? t = some c) :
    ∃ c', s'.pool.cell? t = some c' ∧ Touch c.control c'.control (s.incidents b m s' t) := by
  cases m with
  | launch body first =>
    cases hMove
    have ht : t ≠ s.pool.cells.length := Nat.ne_of_lt (List.getElem?_eq_some_iff.mp hCell).1
    have hSame : (s.pool.run body first).1.cell? t = some c := by
      rw [Pool.cell?_run, if_neg ht, hCell]
    refine ⟨c, hSame, ?_⟩
    rw [incidents_of_cells hCell hSame]
    exact .untouched
  | ask request =>
    cases hMove
    exact touch_of_onControl s.pool false rfl rfl hCell hCell rfl (by rw [Pool.ask_eq])
  | outside w =>
    cases hMove
    refine ⟨c, hCell, ?_⟩
    have hIncidents : s.incidents b (.outside w) { s with world := w } t = [] :=
      incidents_of_cells hCell hCell
    rw [hIncidents]
    exact .untouched
  | work i =>
    obtain ⟨u, phase, d, d', next, hJob, hTask, _, hAdvance, hCells, _⟩ :=
      Pool.step_cases (move_work hMove)
    -- Only a wait and an end touch the control block of the task that is at work.
    have hQuiet (hPhase : phase ≠ .handling)
        (hWait : ∀ next condition, phase ≠ .handled (.wait next condition))
        (hNext : ∀ request, next ≠ .called request) :=
      touch_of_silent (call?_work_of_ne (b := b) hJob hPhase) (wait?_work_of_ne hJob hWait)
        hCell hTask hNext hCells
    have hWorked (hHandling : s.pool.jobs[i]? = some ⟨u, .handling⟩)
        (hNext : ∀ request, next ≠ .called request)
        (hReply : ∀ request, (b.work s.world d.body).2.2.2 ≠ .call request) :=
      touch_of_silent (call?_work_of_no_call hHandling hTask hReply)
        (wait?_work_of_ne hHandling nofun) hCell hTask hNext hCells
    generalize s'.world = w' at hAdvance
    cases hAdvance with
    | called request hWork => exact touch_of_call hJob (by rw [hWork]) hCell hTask hCells rfl
    | more hWork => exact hWorked hJob nofun (by simp [hWork]) .untouched
    | handled step hWork => exact hWorked hJob nofun (by simp [hWork]) .untouched
    | faulted text hWork => exact hWorked hJob nofun (by simp [hWork]) .untouched
    | passed _ condition hAwait => exact touch_of_wait hJob hSound hCell hTask hCells rfl nofun
    | suspended _ condition hAwait => exact touch_of_wait hJob hSound hCell hTask hCells rfl nofun
    | completed =>
      have hScheduled := (hSound.of_job hJob rfl hTask).1
      exact hQuiet nofun nofun nofun (.completed hScheduled)
    | _ => exact hQuiet nofun nofun nofun .untouched

end Scene

def Run.history {b : Behaviour ω τ σ} {first s : Scene ω τ σ} :
    Run b first s → TaskId → List Incident
  | .start, _ => []
  | .next (s := before) (u := after) r m _, t => r.history t ++ before.incidents b m after t

/-- A control block agrees with the history of its task until the task ends. -/
def Tracks (c : Control) (history : List Incident) : Prop :=
  c.finished = false → (∀ k, HasBit c.pending k ↔ Live history k) ∧
    (c.abortRequested = true ↔ .aborted ∈ history)

theorem Tracks.pending_eq_zero_iff {c : Control} {history : List Incident}
    (h : Tracks c history) (hFinished : c.finished = false) (condition : UInt32) :
    c.pending &&& condition = 0 ∧ c.abortRequested = false ↔ Quiet history condition := by
  obtain ⟨hPending, hAbort⟩ := h hFinished
  have hBits : c.pending &&& condition = 0 ↔ ∀ k, HasBit condition k → ¬ Live history k := by
    constructor
    · intro hNone k hCondition hLive
      exact and_ne_zero_iff.mpr ⟨k, (hPending k).mpr hLive, hCondition⟩ hNone
    · intro hNone
      apply Classical.byContradiction
      intro hSome
      obtain ⟨k, hk, hCondition⟩ := and_ne_zero_iff.mp hSome
      exact hNone k hCondition ((hPending k).mp hk)
  have hRequest : c.abortRequested = false ↔ .aborted ∉ history := by
    rw [← hAbort, Bool.not_eq_true]
  rw [hBits, hRequest, Quiet]

theorem tracks_launched : Tracks .launched [] := by
  intro _
  refine ⟨?_, by simp [Control.launched]⟩
  intro k
  simp [Control.launched, HasBit, not_live_nil]

theorem Tracks.signalled {c : Control} {history : List Incident} (h : Tracks c history)
    (bits : UInt32) :
    Tracks (c.signal bits).1
      (history ++ .signalled bits :: Incident.wake c.waiting (c.signal bits).1.waiting) := by
  intro hAfter
  cases hFinished : c.finished with
  | true =>
    rw [Control.signal_of_finished bits hFinished, hFinished] at hAfter
    cases hAfter
  | false =>
    obtain ⟨hPending, hAbort⟩ := h hFinished
    have hSignalled (k : Nat) : Live (history ++ [.signalled bits]) k ↔
        HasBit bits k ∨ Live history k := by
      rw [live_append_single]
      simp [Incident.Consumes]
    cases hWoken : c.wokenBy bits with
    | none =>
      rw [Control.signal_of_not_woken hFinished hWoken]
      have hWake : Incident.wake c.waiting c.waiting = [] := by
        cases c.waiting <;> rfl
      simp only [hWake]
      refine ⟨?_, ?_⟩
      · intro k
        rw [hasBit_or, hSignalled, hPending, or_comm]
      · simpa using hAbort
    | some condition =>
      rw [Control.signal_of_woken hFinished hWoken, (Control.wokenBy_eq_some.mp hWoken).2.1]
      have hHistory : history ++ .signalled bits :: Incident.wake (some condition) none =
          history ++ [.signalled bits] ++ [.woken condition] := by simp [Incident.wake]
      simp only [hHistory]
      refine ⟨?_, ?_⟩
      · intro k
        rw [hasBit_and_not, hasBit_or, live_append_single, hSignalled, hPending, or_comm]
        simp [Incident.Consumes]
      · simpa using hAbort

theorem Tracks.aborted {c : Control} {history : List Incident} (h : Tracks c history) :
    Tracks c.abort.1 (history ++ [.aborted]) := by
  intro hAfter
  have hLive (k : Nat) : Live (history ++ [.aborted]) k ↔ Live history k := by
    rw [live_append_single]
    simp [Incident.Consumes]
  simp only [hLive, List.mem_append, List.mem_singleton, or_true, iff_true]
  by_cases hIgnored : c.finished = true ∨ c.abortRequested = true
  · rw [Control.abort_of_ignored hIgnored] at hAfter ⊢
    refine ⟨(h hAfter).1, ?_⟩
    rcases hIgnored with hFinished | hAbort
    · rw [hFinished] at hAfter
      cases hAfter
    · exact hAbort
  · obtain ⟨hFinished, hAbort⟩ : c.finished = false ∧ c.abortRequested = false := by
      simpa using hIgnored
    cases hScheduled : c.scheduled with
    | true =>
      rw [Control.abort_of_scheduled hFinished hAbort hScheduled]
      exact ⟨(h hFinished).1, rfl⟩
    | false =>
      rw [Control.abort_of_resting hFinished hAbort hScheduled]
      exact ⟨(h hFinished).1, rfl⟩

theorem Tracks.awaited {c : Control} {history : List Incident} (h : Tracks c history)
    (hSound : c.Sound) (condition : UInt32) (hScheduled : c.scheduled = true)
    (hFinished : c.finished = false) :
    Tracks (c.await condition).1 (history ++ [.ofWait condition (c.await condition).1]) := by
  obtain ⟨hPending, hAbort⟩ := h hFinished
  intro _
  by_cases hNone : c.pending &&& condition = 0
  · cases hRequest : c.abortRequested with
    | true =>
      have hNotLive (k : Nat) (hk : Live history k) : ¬ HasBit condition k := by
        intro hCondition
        exact and_ne_zero_iff.mpr ⟨k, (hPending k).mpr hk, hCondition⟩ hNone
      rw [Control.await_of_abort hNone hRequest]
      simp only [Incident.ofWait, hSound.waiting_eq_none hScheduled]
      refine ⟨?_, ?_⟩
      · intro k
        rw [live_append_single, hPending]
        simpa [Incident.Consumes] using hNotLive k
      · simpa using hAbort
    | false =>
      rw [Control.await_of_nothing hNone hRequest]
      simp only [Incident.ofWait, if_true]
      refine ⟨?_, ?_⟩
      · intro k
        rw [live_append_single, hPending]
        simp [Incident.Consumes]
      · simpa using hAbort
  · rw [Control.await_of_pending hNone]
    simp only [Incident.ofWait, hSound.waiting_eq_none hScheduled]
    refine ⟨?_, ?_⟩
    · intro k
      rw [hasBit_and_not, live_append_single, hPending]
      simp [Incident.Consumes]
    · simpa using hAbort

theorem Touch.tracks {c c' : Control} {incidents history : List Incident}
    (hTouch : Touch c c' incidents) (hSound : c.Sound) (h : Tracks c history) :
    Tracks c' (history ++ incidents) := by
  cases hTouch with
  | untouched => simpa using h
  | called request =>
    cases request with
    | signal t bits => exact h.signalled bits
    | abort t => exact h.aborted
  | awaited condition hScheduled hFinished => exact h.awaited hSound condition hScheduled hFinished
  | completed hScheduled =>
    intro hFinished
    cases hFinished

theorem Touch.waiting {c c' : Control} {incidents : List Incident} (hTouch : Touch c c' incidents)
    (hSound : c.Sound) {condition : UInt32} (hWaiting : c.waiting = some condition)
    (hMisses : ∀ e ∈ incidents, e.Misses condition) : c'.waiting = some condition := by
  obtain ⟨hIdle, hFinished, hAbort, _⟩ := hSound.resting condition hWaiting
  cases hTouch with
  | untouched => exact hWaiting
  | called request =>
    cases request with
    | abort t => exact (hMisses .aborted (List.mem_singleton_self _)).elim
    | signal t bits =>
      have hMiss : condition &&& bits = 0 := hMisses (.signalled bits) List.mem_cons_self
      have hAsleep : c.wokenBy bits = none := by
        cases hWoken : c.wokenBy bits with
        | none => rfl
        | some other =>
          obtain ⟨_, hOther, hMeets⟩ := Control.wokenBy_eq_some.mp hWoken
          obtain rfl := Option.some.inj (hWaiting.symm.trans hOther)
          exact absurd hMiss hMeets
      rw [Call.change, Control.signal_of_not_woken hFinished hAsleep]
      exact hWaiting
  | awaited other hScheduled _ =>
    rw [hIdle] at hScheduled
    cases hScheduled
  | completed hScheduled =>
    rw [hIdle] at hScheduled
    cases hScheduled

namespace Call

/-- A call that ends a suspension on the condition. -/
def Concerns (condition : UInt32) : Call → Prop
  | signal _ bits => condition &&& bits ≠ 0
  | abort _ => True

def leaves (condition pending : UInt32) : Call → UInt32
  | signal _ bits => (pending ||| bits) &&& ~~~condition
  | abort _ => pending

theorem change_of_concerns {request : Call} {c : Control} {condition : UInt32} (hSound : c.Sound)
    (hWaiting : c.waiting = some condition) (hConcerns : request.Concerns condition) :
    (request.change c).2 = true ∧ (request.change c).1.waiting = none ∧
      (request.change c).1.pending = request.leaves condition c.pending := by
  obtain ⟨hIdle, hFinished, hAbort, _⟩ := hSound.resting condition hWaiting
  cases request with
  | signal t bits =>
    have hWoken := Control.wokenBy_eq_some.mpr ⟨hIdle, hWaiting, hConcerns⟩
    rw [change, Control.signal_of_woken hFinished hWoken]
    exact ⟨rfl, rfl, rfl⟩
  | abort t =>
    rw [change, Control.abort_of_resting hFinished hAbort hIdle]
    exact ⟨rfl, rfl, rfl⟩

end Call

namespace Scene

variable {b : Behaviour ω τ σ}

theorem move_wait {s : Scene ω τ σ} (hSound : s.pool.Sound) {i : Nat} {t : TaskId} {next : σ}
    {condition : UInt32} {c : Cell τ σ}
    (hJob : s.pool.jobs[i]? = some ⟨t, .handled (.wait next condition)⟩)
    (hCell : s.pool.cell? t = some c) :
    ∃ s' c', s.move b (.work i) = some s' ∧ s'.pool.cell? t = some c' ∧
      c'.control = (c.control.await condition).1 ∧
      s'.pool.drivers t = if (c.control.await condition).2 then [.ready] else [] := by
  obtain ⟨c', after, hAdvance, hSettle⟩ :=
    Pool.settleStep_cases (b := b) (i := i) hCell s.world (.wait next condition)
  have hMove : s.move b (.work i) =
      some ⟨s.pool.settleStep i t c (.wait next condition), s.world⟩ := by
    simp only [move, Pool.step, hJob, hCell, Option.map_some]
  refine ⟨_, c', hMove, ?_⟩
  simp only [hSettle]
  cases hAdvance with
  | passed next condition hAwait =>
    refine ⟨(Pool.cell?_put hCell i _ (by simp) t).trans (if_pos rfl), rfl, ?_⟩
    rw [hAwait]
    exact Pool.drivers_put_self _ hJob rfl (hSound.alone t) (by simp)
  | suspended next condition hAwait =>
    refine ⟨(Pool.cell?_put hCell i _ (by simp) t).trans (if_pos rfl), rfl, ?_⟩
    rw [hAwait]
    exact Pool.drivers_put_self _ hJob rfl (hSound.alone t) (by simp)

theorem move_call {s s' : Scene ω τ σ} {m : Move ω τ σ} {request : Call} {c : Cell τ σ}
    (hMove : s.move b m = some s') (hCall : s.call? b m = some request)
    (hCell : s.pool.cell? request.task = some c) :
    ∃ c' byWorker, s'.pool.cell? request.task = some c' ∧
      c'.control = (request.change c.control).1 ∧
      s'.pool.drivers request.task = s.pool.drivers request.task ++
        if (request.change c.control).2 then [.queued byWorker] else [] := by
  cases m with
  | launch body first => cases hCall
  | outside w => cases hCall
  | ask other =>
    cases hCall
    cases hMove
    simp only [Pool.ask_eq]
    refine ⟨_, false, by rw [Pool.cell?_onControl hCell, if_pos rfl], rfl, ?_⟩
    rw [Pool.drivers_onControl hCell]
    simp
  | work i =>
    obtain ⟨u, phase, d, d', next, hJob, hTask, _, hAdvance, hCells, hJobs⟩ :=
      Pool.step_cases (move_work hMove)
    by_cases hPhase : phase = .handling
    · subst hPhase
      rw [call?_work_of_reply hJob hTask] at hCall
      generalize s'.world = w' at hAdvance
      cases hAdvance with
      | @called w' body lines other hWork =>
        rw [hWork] at hCall
        cases hCall
        have hSet : ∃ e, (s.pool.setCell u { d with body }).cell? request.task = some e ∧
            e.control = c.control := by
          rw [Pool.cell?_setCell _ hTask, hCell]
          split
          · next ht =>
            rw [ht] at hCell
            obtain rfl := Option.some.inj (hCell.symm.trans hTask)
            exact ⟨_, rfl, rfl⟩
          · exact ⟨c, rfl, rfl⟩
        obtain ⟨e, he, hControl⟩ := hSet
        rw [Pool.put, Pool.call_eq] at hCells hJobs
        refine ⟨{ e with control := (request.change e.control).1 }, true, ?_, by rw [hControl], ?_⟩
        · rw [Pool.cell?, hCells, ← Pool.cell?, Pool.cell?_onControl he, if_pos rfl]
        · rw [Pool.drivers_eq_of_jobs_eq hJobs, Pool.drivers_onControl he, hControl]
          simp
      | more hWork => simp [hWork] at hCall
      | handled step hWork => simp [hWork] at hCall
      | faulted text hWork => simp [hWork] at hCall
    · rw [call?_work_of_ne hJob hPhase] at hCall
      cases hCall

end Scene

namespace Run

variable {b : Behaviour ω τ σ}

theorem history_of_none {first s : Scene ω τ σ} (r : Run b first s) (hFirst : first.pool.Sound)
    {t : TaskId} (hCell : s.pool.cell? t = none) : r.history t = [] := by
  induction r with
  | start => rfl
  | @next before after r m hMove ih =>
    have hBefore : before.pool.cell? t = none := by
      cases hSome : before.pool.cell? t with
      | none => rfl
      | some c =>
        obtain ⟨c', hAfter, _⟩ := Scene.touch_of_move hMove (r.sound hFirst) hSome
        rw [hCell] at hAfter
        cases hAfter
    rw [history, ih hBefore, Scene.incidents_of_none m hBefore]
    rfl

theorem tracks {w : ω} {s : Scene ω τ σ} (r : Run b { world := w } s) {t : TaskId} {c : Cell τ σ}
    (hCell : s.pool.cell? t = some c) : Tracks c.control (r.history t) := by
  induction r generalizing c with
  | start => cases hCell
  | @next before after r m hMove ih =>
    have hSound := r.sound Pool.sound_empty
    cases hBefore : before.pool.cell? t with
    | some d =>
      obtain ⟨d', hAfter, hTouch⟩ := Scene.touch_of_move hMove hSound hBefore
      obtain rfl := Option.some.inj (hCell.symm.trans hAfter)
      exact hTouch.tracks (hSound.control t d hBefore) (ih hBefore)
    | none =>
      rw [history, r.history_of_none Pool.sound_empty hBefore,
        Scene.incidents_of_none m hBefore, Scene.launched_of_move hMove hBefore hCell]
      exact tracks_launched

theorem stays_suspended {first s : Scene ω τ σ} (r : Run b first s) (hFirst : first.pool.Sound)
    {t : TaskId} {c : Cell τ σ} {condition : UInt32} (hCell : first.pool.cell? t = some c)
    (hWaiting : c.control.waiting = some condition)
    (hMisses : ∀ e ∈ r.history t, e.Misses condition) :
    ∃ c', s.pool.cell? t = some c' ∧ c'.control.waiting = some condition := by
  induction r with
  | start => exact ⟨c, hCell, hWaiting⟩
  | @next before after r m hMove ih =>
    rw [history] at hMisses
    have hSound := r.sound hFirst
    obtain ⟨d, hBefore, hAsleep⟩ := ih fun e he => hMisses e (List.mem_append_left _ he)
    obtain ⟨d', hAfter, hTouch⟩ := Scene.touch_of_move hMove hSound hBefore
    refine ⟨d', hAfter, hTouch.waiting (hSound.control t d hBefore) hAsleep ?_⟩
    intro e he
    exact hMisses e (List.mem_append_right _ he)

end Run

/-- No wake-up is lost: control blocks are sound in all scenes, a wait suspends exactly if there is
nothing to go on for, and a suspended task is queued by the first call that concerns it. -/
theorem no_wakeup_lost {b : Behaviour ω τ σ} {w : ω} {s : Scene ω τ σ}
    (r : Run b { world := w } s) {t : TaskId} {c : Cell τ σ} (hCell : s.pool.cell? t = some c) :
    c.control.Sound ∧
    (∀ i next condition, s.pool.jobs[i]? = some ⟨t, .handled (.wait next condition)⟩ →
      ∃ s' c', s.move b (.work i) = some s' ∧ s'.pool.cell? t = some c' ∧
        (Quiet (r.history t) condition →
          c'.control.waiting = some condition ∧ s'.pool.drivers t = []) ∧
        (¬ Quiet (r.history t) condition →
          c'.control.waiting = none ∧ s'.pool.drivers t = [.ready])) ∧
    (∀ condition, c.control.waiting = some condition → ∀ {s' : Scene ω τ σ} (later : Run b s s'),
      (∀ e ∈ later.history t, e.Misses condition) →
        ∃ c', s'.pool.cell? t = some c' ∧ c'.control.waiting = some condition ∧
          s'.pool.drivers t = [] ∧
          ∀ m s'' request, s'.move b m = some s'' → s'.call? b m = some request →
            request.task = t → request.Concerns condition →
              ∃ c'' byWorker, s''.pool.cell? t = some c'' ∧
                s''.pool.drivers t = [.queued byWorker] ∧ c''.control.waiting = none ∧
                c''.control.pending = request.leaves condition c'.control.pending) := by
  have hPool := r.sound Pool.sound_empty
  have hSound := hPool.control t c hCell
  refine ⟨hSound, ?_, ?_⟩
  · intro i next condition hJob
    obtain ⟨hScheduled, hFinished⟩ := hPool.of_job hJob rfl hCell
    obtain ⟨s', c', hMove, hCell', hControl, hDrivers⟩ := Scene.move_wait (b := b) hPool hJob hCell
    refine ⟨s', c', hMove, hCell', ?_, ?_⟩
    · intro hQuiet
      obtain ⟨hPending, hAbort⟩ :=
        ((r.tracks hCell).pending_eq_zero_iff hFinished condition).mpr hQuiet
      rw [hControl, hDrivers, Control.await_of_nothing hPending hAbort]
      exact ⟨rfl, rfl⟩
    · intro hNotQuiet
      rw [← (r.tracks hCell).pending_eq_zero_iff hFinished, ← Control.await_suspends_iff,
        Bool.not_eq_false] at hNotQuiet
      rw [hControl, hDrivers, hNotQuiet]
      exact ⟨Control.await_waiting hNotQuiet (hSound.waiting_eq_none hScheduled), rfl⟩
  · intro condition hWaiting s' later hMisses
    obtain ⟨c', hCell', hWaiting'⟩ := later.stays_suspended hPool hCell hWaiting hMisses
    have hPool' := later.sound hPool
    have hSound' := hPool'.control t c' hCell'
    have hDrivers := hPool'.drivers_eq_nil hCell' (.inl (hSound'.resting condition hWaiting').1)
    refine ⟨c', hCell', hWaiting', hDrivers, ?_⟩
    rintro m s'' request hMove hCall rfl hConcerns
    obtain ⟨c'', byWorker, hCell'', hControl, hDrivers''⟩ := Scene.move_call hMove hCall hCell'
    obtain ⟨hWakes, hAwake, hLeft⟩ := Call.change_of_concerns hSound' hWaiting' hConcerns
    refine ⟨c'', byWorker, hCell'', ?_, ?_, ?_⟩
    · rw [hDrivers'', hDrivers, hWakes]
      rfl
    · rw [hControl, hAwake]
    · rw [hControl, hLeft]

/-- A task that waits for the first or the third bit, when the second one was signalled before. -/
def sleeper : Option (Scene Labels Routine UInt32) :=
  Scene.follow Routine.behaviour { world := [] }
    [.launch (.make "sleeper" [[⟨[], .step (.wait 0 5)⟩]] false) 0, .ask (.signal 0 2),
      .work 0, .work 0, .work 0, .work 0]

/-- A signal of the third and the fourth bit queues the sleeper, and leaves it the bits that it did
not wait for. -/
theorem no_wakeup_lost_sleeper :
    ∃ s c s' c' byWorker, Nonempty (Run Routine.behaviour { world := [] } s) ∧
      s.pool.cell? 0 = some c ∧ c.control = { pending := 2, waiting := some 5 } ∧
      s.move Routine.behaviour (.ask (.signal 0 12)) = some s' ∧ s'.pool.cell? 0 = some c' ∧
      s'.pool.drivers 0 = [.queued byWorker] ∧ c'.control.pending = 10 := by
  obtain ⟨s, hFollow⟩ : ∃ s, sleeper = some s := Option.isSome_iff_exists.mp (by decide)
  obtain ⟨r⟩ := Run.of_follow .start hFollow
  have hControl : (sleeper.bind fun s => s.pool.control? 0) =
      some { pending := 2, waiting := some 5 } := by decide
  rw [hFollow, Option.bind_some, Pool.control?] at hControl
  obtain ⟨c, hCell, hControl⟩ := Option.map_eq_some_iff.mp hControl
  obtain ⟨_, _, hSuspended⟩ := no_wakeup_lost r hCell
  obtain ⟨d, hd, _, _, hWakes⟩ := hSuspended 5 (by rw [hControl]) .start nofun
  obtain rfl := Option.some.inj (hCell.symm.trans hd)
  have hMeets : (5 : UInt32) &&& 12 ≠ 0 := by decide
  obtain ⟨c', byWorker, hCell', hDrivers, _, hPending⟩ :=
    hWakes (.ask (.signal 0 12)) _ (.signal 0 12) rfl rfl rfl hMeets
  refine ⟨s, c, _, c', byWorker, ⟨r⟩, hCell, hControl, rfl, hCell', hDrivers, ?_⟩
  rw [hPending, hControl]
  decide

end PipelineForge.Tasks
