import PipelineForge.Proofs.Tasks.Endings
import PipelineForge.Proofs.Tasks.Wakeups

/-!
# Traces of tasks

The trace of a task tells in order which states were begun, how handling each of them ended, and
which outcome the task was told. It is read off the moves of a run, and each act in it is one that
the act before it leads to: a state is begun only if it is the first one or was named right before.
How long an act takes, and what it does to the world, is not in it.
-/

namespace PipelineForge.Tasks

variable {ω τ σ : Type}

/-- How handling a state ended. -/
inductive Upshot (σ : Type) where
  | step (s : Step σ)
  | fault
deriving DecidableEq

inductive Act (σ : Type) where
  | begun (s : σ)
  | done (u : Upshot σ)
  | told (outcome : Outcome)
deriving DecidableEq

def Step.next? : Step σ → Option σ
  | proceed next => some next
  | yield next => some next
  | wait next _ => some next
  | _ => none

def Upshot.next? : Upshot σ → Option σ
  | step s => s.next?
  | fault => none

def Upshot.outcome : Upshot σ → Outcome
  | step .finish => .finished
  | _ => .aborted

/-- The act can come right after the given one, or first of all. Right after a task was told its
outcome nothing can. -/
inductive Leads (first : σ) : Option (Act σ) → Act σ → Prop where
  | first : Leads first none (.begun first)
  | stopped : Leads first none (.told .aborted)
  | done (s : σ) (u : Upshot σ) : Leads first (some (.begun s)) (.done u)
  | next {u : Upshot σ} {s : σ} (hNext : u.next? = some s) :
      Leads first (some (.done u)) (.begun s)
  | told (u : Upshot σ) : Leads first (some (.done u)) (.told u.outcome)

theorem Leads.finished_iff {first : σ} {last : Option (Act σ)} {outcome : Outcome}
    (h : Leads first last (.told outcome)) :
    outcome = .finished ↔ last = some (.done (.step .finish)) := by
  cases h with
  | stopped => simp
  | told u =>
    cases u with
    | fault => simp [Upshot.outcome]
    | step s => cases s <;> simp [Upshot.outcome]

/-- Every act of the trace is one that the act before it leads to. -/
def Sequential (first : σ) (trace : List (Act σ)) : Prop :=
  ∀ before act after, trace = before ++ act :: after → Leads first before.getLast? act

section Sequential

variable {first : σ} {trace later : List (Act σ)} {act : Act σ}

theorem sequential_nil (first : σ) : Sequential first [] := by
  intro before act after h
  cases before <;> cases h

theorem Sequential.snoc (h : Sequential first trace) (hLeads : Leads first trace.getLast? act) :
    Sequential first (trace ++ [act]) := by
  intro before last after hSplit
  rcases List.eq_nil_or_concat after with rfl | ⟨rest, end', rfl⟩
  · obtain ⟨rfl, hLast⟩ := List.append_inj' hSplit rfl
    obtain rfl := List.singleton_inj.mp hLast
    exact hLeads
  · rw [List.concat_eq_append, ← List.cons_append, ← List.append_assoc] at hSplit
    exact h before last rest (List.append_inj' hSplit rfl).1

theorem Sequential.leads (h : Sequential first trace) {before after : List (Act σ)}
    {act act' : Act σ} (hTrace : trace = before ++ act :: act' :: after) :
    Leads first (some act) act' := by
  have hLeads := h (before ++ [act]) act' after (by rw [hTrace, List.append_assoc]; rfl)
  rwa [List.getLast?_concat] at hLeads

theorem Sequential.told_last (h : Sequential first trace) {before after : List (Act σ)}
    {outcome : Outcome} (hTrace : trace = before ++ .told outcome :: after) : after = [] := by
  cases after with
  | nil => rfl
  | cons act rest => cases h.leads hTrace

theorem Sequential.told_after_finish (h : Sequential first trace) {before after : List (Act σ)}
    (hTrace : trace = before ++ .done (.step .finish) :: after) :
    after <+: [.told .finished] := by
  cases after with
  | nil => exact List.nil_prefix
  | cons act rest =>
    cases h.leads hTrace with
    | next hNext => cases hNext
    | told u =>
      have hSplit : trace = before ++ [.done (.step .finish)] ++ .told .finished :: rest := by
        rw [hTrace, List.append_assoc]
        rfl
      obtain rfl := h.told_last hSplit
      exact List.prefix_refl _

theorem Sequential.told_finished_iff (h : Sequential first trace) {outcome : Outcome}
    (hTold : .told outcome ∈ trace) :
    outcome = .finished ↔ .done (.step .finish) ∈ trace := by
  constructor
  · intro hFinished
    obtain ⟨before, after, rfl⟩ := List.append_of_mem hTold
    have hLast := (h before _ after rfl).finished_iff.mp hFinished
    exact List.mem_append_left _ (List.mem_of_getLast? hLast)
  · intro hFinish
    obtain ⟨before, after, hTrace⟩ := List.append_of_mem hFinish
    have hAfter := h.told_after_finish hTrace
    rw [hTrace, List.mem_append] at hTold
    rcases hTold with hTold | hTold
    · obtain ⟨front, back, hFront⟩ := List.append_of_mem hTold
      have hSplit : trace = front ++ .told outcome :: (back ++ .done (.step .finish) :: after) := by
        rw [hTrace, hFront, List.append_assoc, List.cons_append]
      exact absurd (h.told_last hSplit) (by simp)
    · rcases List.mem_cons.mp hTold with hSelf | hTold
      · cases hSelf
      · cases List.mem_singleton.mp (hAfter.subset hTold)
        rfl

theorem Sequential.rest_of_not_begun (h : Sequential first (trace ++ later))
    (hNone : ∀ s, .begun s ∉ later) :
    (∃ s u, trace.getLast? = some (.begun s) ∧ later <+: [.done u, .told u.outcome]) ∨
      ∃ outcome, later <+: [.told outcome] := by
  cases later with
  | nil => exact .inr ⟨.aborted, List.nil_prefix⟩
  | cons act rest =>
    have hLeads := h trace act rest rfl
    cases act with
    | begun s => exact absurd List.mem_cons_self (hNone s)
    | told outcome =>
      rw [h.told_last rfl]
      exact .inr ⟨outcome, List.prefix_refl _⟩
    | done u =>
      generalize hLast : trace.getLast? = last at hLeads
      obtain ⟨s, rfl⟩ : ∃ s, last = some (.begun s) := by
        cases hLeads with
        | done s u => exact ⟨s, rfl⟩
      refine .inl ⟨s, u, rfl, ?_⟩
      cases rest with
      | nil => exact ⟨[.told u.outcome], rfl⟩
      | cons act rest =>
        cases h.leads rfl with
        | @next _ s' hNext => exact absurd (by simp) (hNone s')
        | told =>
          have hSplit : trace ++ .done u :: .told u.outcome :: rest =
              trace ++ [.done u] ++ .told u.outcome :: rest := by simp
          obtain rfl := h.told_last hSplit
          exact List.prefix_refl _

end Sequential

/-- What a task in the mode can have behind it. -/
def Mode.Fits (first : σ) (last : Option (Act σ)) : Mode σ → Prop
  | resting s => Leads first last (.begun s)
  | working => ∃ s, last = some (.begun s)
  | ended outcome => Leads first last (.told outcome)
  | _ => ∃ outcome, last = some (.told outcome)

/-- The trace has come to where the task is. -/
structure Course (first : σ) (trace : List (Act σ)) (mode : Mode σ) : Prop where
  sequential : Sequential first trace
  fits : mode.Fits first trace.getLast?

theorem Leads.aborted {first : σ} {last : Option (Act σ)} {s : σ}
    (h : Leads first last (.begun s)) : Leads first last (.told .aborted) := by
  cases h with
  | first => exact .stopped
  | @next u s hNext =>
    have hAborted : u.outcome = .aborted := by
      cases u with
      | fault => rfl
      | step s =>
        cases s with
        | finish => cases hNext
        | _ => rfl
    rw [← hAborted]
    exact .told u

theorem Course.snoc {first : σ} {trace : List (Act σ)} {mode mode' : Mode σ} {act : Act σ}
    (h : Course first trace mode) (hLeads : Leads first trace.getLast? act)
    (hFits : mode'.Fits first (some act)) : Course first (trace ++ [act]) mode' := by
  refine ⟨h.sequential.snoc hLeads, ?_⟩
  rw [List.getLast?_concat]
  exact hFits

theorem Course.working_of_begun {first : σ} {trace : List (Act σ)} {mode : Mode σ} {s : σ}
    (h : Course first trace mode) (hLast : trace.getLast? = some (.begun s)) : mode = .working := by
  have hFits := h.fits
  rw [hLast] at hFits
  cases mode with
  | working => rfl
  | resting next => cases hFits
  | ended outcome => cases hFits
  | _ =>
    obtain ⟨outcome, hTold⟩ := hFits
    cases hTold

def Reply.upshot? : Reply σ → Option (Upshot σ)
  | step s => some (.step s)
  | fault _ => some .fault
  | _ => none

theorem Reply.fits_of_upshot {first : σ} {reply : Reply σ} {u : Upshot σ}
    (h : reply.upshot? = some u) : reply.mode.Fits first (some (.done u)) := by
  cases reply with
  | step s =>
    cases h
    cases s with
    | proceed next => exact .next rfl
    | yield next => exact .next rfl
    | wait next condition => exact .next rfl
    | finish => exact .told (.step .finish)
    | abort => exact .told (.step .abort)
  | fault text =>
    cases h
    exact .told .fault
  | _ => cases h

/-- What a job in a phase adds to the trace of its task when it makes its step. -/
def Phase.act? (b : Behaviour ω τ σ) (w : ω) (c : Cell τ σ) : Phase σ → Option (Act σ)
  | ready => if c.control.abortRequested then none else some (.begun c.state)
  | handling => (b.work w c.body).2.2.2.upshot?.map .done
  | ending outcome => some (.told outcome)
  | _ => none

def Act.happening? : Act σ → Option (Happening σ)
  | begun s => some (.visited s)
  | done _ => none
  | told outcome => some (.told outcome)

theorem Phase.happens_eq (b : Behaviour ω τ σ) (w : ω) (c : Cell τ σ) (phase : Phase σ) :
    phase.happens c = (phase.act? b w c).bind Act.happening? := by
  cases phase with
  | ready =>
    rw [happens, act?]
    split
    · rfl
    · rfl
  | handling =>
    cases hUpshot : (b.work w c.body).2.2.2.upshot? with
    | none => simp [happens, act?, hUpshot]
    | some u => simp [happens, act?, hUpshot, Act.happening?]
  | ending outcome => rfl
  | _ => rfl

section Advance

variable {b : Behaviour ω τ σ} {w w' : ω} {c c' : Cell τ σ} {phase : Phase σ} {next : Next σ}

theorem Cell.mode_of_suspended (hFinished : c.control.finished = false) {state : σ}
    {condition : UInt32} (hAwait : (c.control.await condition).2 = false) :
    ({ c with state, control := (c.control.await condition).1 } : Cell τ σ).mode [] =
      .resting state := by
  obtain ⟨hPending, hAbort⟩ := Control.await_suspends_iff.mp hAwait
  simp [Control.await_of_nothing hPending hAbort, Cell.mode, hFinished]

theorem Advance.course (h : Advance b w c phase w' c' next) {first : σ} {trace : List (Act σ)}
    (hDrives : phase.drives = true) (hScheduled : c.control.scheduled = true)
    (hFinished : c.control.finished = false)
    (hCourse : Course first trace (phase.mode c.state)) :
    Course first (trace ++ (phase.act? b w c).toList) (c'.mode next.drivers) := by
  have hStill {mode : Mode σ} (hNone : phase.act? b w c = none) (hFits : mode.Fits first
      trace.getLast?) : Course first (trace ++ (phase.act? b w c).toList) mode := by
    rw [hNone, Option.toList_none, List.append_nil]
    exact ⟨hCourse.sequential, hFits⟩
  have hWorked {w' : ω} {body : τ} {lines : List Log.Line} {reply : Reply σ} {u : Upshot σ}
      (hHandling : phase = .handling) (hWork : b.work w c.body = (w', body, lines, reply))
      (hUpshot : reply.upshot? = some u) :
      Course first (trace ++ (phase.act? b w c).toList) reply.mode := by
    subst hHandling
    rw [Phase.act?, hWork]
    simp only [hUpshot, Option.map_some, Option.toList_some]
    obtain ⟨s, hLast⟩ := hCourse.fits
    exact hCourse.snoc (hLast ▸ .done s u) (Reply.fits_of_upshot hUpshot)
  have hFits := hCourse.fits
  cases h with
  | taken byWorker => exact hStill rfl hFits
  | stopped hAbort => exact hStill (by simp [Phase.act?, hAbort]) (Leads.aborted hFits)
  | entered hAbort =>
    rw [show Phase.ready.act? b w c = some (.begun c.state) by simp [Phase.act?, hAbort]]
    exact hCourse.snoc hFits ⟨c.state, rfl⟩
  | more hWork => exact hStill (by simp [Phase.act?, hWork, Reply.upshot?]) hFits
  | called request hWork => exact hStill (by simp [Phase.act?, hWork, Reply.upshot?]) hFits
  | handled s hWork => exact hWorked rfl hWork rfl
  | faulted text hWork => exact hWorked rfl hWork rfl
  | proceeded next => exact hStill rfl hFits
  | yielded next => exact hStill rfl hFits
  | passed next condition hAwait => exact hStill rfl hFits
  | suspended next condition hAwait =>
    change Course first _ (Cell.mode _ [])
    rw [Cell.mode_of_suspended hFinished hAwait]
    exact hStill rfl hFits
  | finished => exact hStill rfl hFits
  | aborted => exact hStill rfl hFits
  | requeued => exact hStill rfl hFits
  | left outcome => exact hCourse.snoc hFits ⟨outcome, rfl⟩
  | parting hPart => exact hStill rfl hFits
  | parted hPart => exact hStill rfl hFits
  | @lost _ body _ text hPart =>
    have hMode : ({ c with body } : Cell τ σ).mode [] = .lost := by
      simp [Cell.mode, hFinished, hScheduled]
    change Course first _ (Cell.mode _ [])
    rw [hMode]
    exact hStill rfl hFits
  | completed => exact hStill rfl hFits
  | gone holding => cases hDrives

end Advance

/-- What the job that makes a move does to a task with the cell and the drivers, before its call
is heard. -/
inductive Turn (b : Behaviour ω τ σ) (w : ω) (c : Cell τ σ) (drivers : List (Phase σ)) :
    Cell τ σ → List (Phase σ) → List (Act σ) → Prop where
  | idle : Turn b w c drivers c drivers []
  | own {phase : Phase σ} {w' : ω} {c' : Cell τ σ} {next : Next σ}
      (hDrivers : drivers = [phase]) (hDrives : phase.drives = true)
      (hAdvance : Advance b w c phase w' c' next) :
      Turn b w c drivers c' next.drivers (phase.act? b w c).toList

/-- What the call of a move does to a task. -/
inductive Hears (call : Option Call) (t : TaskId) (c : Cell τ σ) (drivers : List (Phase σ)) :
    Cell τ σ → List (Phase σ) → Prop where
  | nothing (hCall : ∀ request, call = some request → request.task ≠ t) :
      Hears call t c drivers c drivers
  | heard {request : Call} (byWorker : Bool) (hCall : call = some request)
      (hTask : request.task = t) :
      Hears call t c drivers { c with control := (request.change c.control).1 }
        (drivers ++ if (request.change c.control).2 then [.queued byWorker] else [])

theorem Hears.of_none {t : TaskId} {c : Cell τ σ} {drivers : List (Phase σ)} :
    Hears none t c drivers c drivers := by
  refine .nothing ?_
  rintro request ⟨⟩

theorem Hears.mode {call : Option Call} {t : TaskId} {c c' : Cell τ σ}
    {drivers drivers' : List (Phase σ)} (h : Hears call t c drivers c' drivers')
    (hAlone : drivers'.length ≤ 1) : c'.mode drivers' = c.mode drivers := by
  cases h with
  | nothing => rfl
  | @heard request byWorker hCall hTask =>
    cases hFlag : (request.change c.control).2 with
    | false =>
      obtain ⟨hScheduled, hFinished⟩ := Call.change_keeps hFlag
      cases drivers with
      | nil => simp [Cell.mode, hScheduled, hFinished]
      | cons phase rest => rfl
    | true =>
      have hNone : drivers = [] := by
        rw [hFlag, if_pos rfl, List.length_append] at hAlone
        exact List.length_eq_zero_iff.mp (by simpa using hAlone)
      have hFinished : c.control.finished = false := by
        cases hFinished : c.control.finished with
        | false => rfl
        | true =>
          rw [request.change_of_finished hFinished] at hFlag
          cases hFlag
      rw [hNone]
      simp [Cell.mode, Phase.mode, hFinished, (Call.change_wakes hFlag).1]

def Next.call? : Next σ → Option Call
  | called request => some request
  | _ => none

namespace Pool

theorem hears_onControl {p : Pool τ σ} {t : TaskId} {c : Cell τ σ} (hCell : p.cell? t = some c)
    (byWorker : Bool) (request : Call) :
    ∃ c', (p.onControl request.task byWorker request.change).cell? t = some c' ∧
      Hears (some request) t c (p.drivers t) c'
        ((p.onControl request.task byWorker request.change).drivers t) := by
  by_cases ht : request.task = t
  · subst ht
    refine ⟨_, (cell?_onControl hCell byWorker _ _).trans (if_pos rfl), ?_⟩
    rw [drivers_onControl hCell]
    simp only [and_true]
    exact .heard byWorker rfl rfl
  · have hOther : ∀ other, some request = some other → other.task ≠ t := by
      rintro _ ⟨⟩
      exact ht
    cases hAsked : p.cell? request.task with
    | none =>
      rw [onControl_of_none hAsked]
      exact ⟨c, hCell, .nothing hOther⟩
    | some d =>
      refine ⟨c, ?_, ?_⟩
      · rw [cell?_onControl hAsked, if_neg (Ne.symm ht), hCell]
      · rw [drivers_onControl hAsked, if_neg (fun hBoth => ht hBoth.2), List.append_nil]
        exact .nothing hOther

theorem hears_put {p : Pool τ σ} {i : Nat} {t u : TaskId} {phase : Phase σ} {c d' : Cell τ σ}
    {next : Next σ} (hJob : p.jobs[i]? = some ⟨u, phase⟩) (hDrives : phase.drives = true)
    (hAlone : (p.drivers u).length ≤ 1)
    (hCalled : ∀ request, next = .called request → phase = .handling)
    (hCell : (p.setCell u d').cell? t = some c) :
    ∃ c', (p.put i u d' next).cell? t = some c' ∧
      Hears next.call? t c (if u = t then next.drivers else p.drivers t) c'
        ((p.put i u d' next).drivers t) := by
  by_cases hRequest : ∃ request, next = .called request
  · obtain ⟨request, rfl⟩ := hRequest
    obtain rfl := hCalled request rfl
    have hDrivers : (if u = t then (Next.called request).drivers else p.drivers t) =
        (p.setCell u d').drivers t := by
      split
      · next hu =>
        subst hu
        exact (drivers_of_job hJob rfl hAlone).symm
      · rfl
    rw [put, call_eq, hDrivers]
    exact hears_onControl hCell true request
  · have hNext (request : Call) (heq : next = .called request) : False := hRequest ⟨request, heq⟩
    refine ⟨c, ?_, ?_⟩
    · rw [cell?, cells_put i u d' hNext]
      exact hCell
    · have hDrivers : (p.put i u d' next).drivers t =
          if u = t then next.drivers else p.drivers t := by
        split
        · next hu =>
          subst hu
          exact drivers_put_self d' hJob hDrives hAlone hNext
        · next hu => exact drivers_put_of_ne d' hJob (Ne.symm hu) hNext
      rw [hDrivers]
      refine .nothing fun request heq => ?_
      cases next with
      | called other => exact (hNext other rfl).elim
      | _ => cases heq

end Pool

namespace Scene

variable {b : Behaviour ω τ σ}

/-- What a move adds to the trace of a task. -/
def acts (b : Behaviour ω τ σ) (s : Scene ω τ σ) : Move ω τ σ → TaskId → List (Act σ)
  | .work i, t =>
    match s.pool.jobs[i]? with
    | some ⟨u, phase⟩ =>
      if u = t then ((s.pool.cell? t).bind (phase.act? b s.world ·)).toList else []
    | none => []
  | _, _ => []

theorem acts_of_job {s : Scene ω τ σ} {i : Nat} {u : TaskId} {phase : Phase σ} {c : Cell τ σ}
    (hJob : s.pool.jobs[i]? = some ⟨u, phase⟩) (hCell : s.pool.cell? u = some c) (t : TaskId) :
    s.acts b (.work i) t = if u = t then (phase.act? b s.world c).toList else [] := by
  simp only [acts, hJob]
  split
  · next hu =>
    subst hu
    rw [hCell, Option.bind_some]
  · rfl

theorem call?_of_advances {s s' : Scene ω τ σ} {i : Nat} {t : TaskId} {phase : Phase σ}
    {c c' : Cell τ σ} {next : Next σ}
    (h : Pool.Advances b s.pool s.world i s'.pool s'.world t phase c c' next) :
    s.call? b (.work i) = next.call? := by
  obtain ⟨hJob, hCell, _, hAdvance, _, _⟩ := h
  generalize s'.world = w' at hAdvance
  cases hAdvance with
  | called request hWork => rw [call?_work_of_reply hJob hCell, hWork]; rfl
  | more hWork => exact call?_work_of_no_call hJob hCell (by simp [hWork])
  | handled s hWork => exact call?_work_of_no_call hJob hCell (by simp [hWork])
  | faulted text hWork => exact call?_work_of_no_call hJob hCell (by simp [hWork])
  | _ => exact call?_work_of_ne hJob nofun

/-- A move is to each task a turn of its own or none, and then a call or none. -/
theorem view_of_move {s s' : Scene ω τ σ} {m : Move ω τ σ} (hMove : s.move b m = some s')
    (hSound : s.pool.Sound) {t : TaskId} {c : Cell τ σ} (hCell : s.pool.cell? t = some c) :
    ∃ d drivers c', Turn b s.world c (s.pool.drivers t) d drivers (s.acts b m t) ∧
      s'.pool.cell? t = some c' ∧ Hears (s.call? b m) t d drivers c' (s'.pool.drivers t) := by
  cases m with
  | launch body first =>
    cases hMove
    have ht : t ≠ s.pool.cells.length := Nat.ne_of_lt (List.getElem?_eq_some_iff.mp hCell).1
    refine ⟨c, _, c, .idle, ?_, ?_⟩
    · rw [Pool.cell?_run, if_neg ht, hCell]
    · rw [Pool.drivers_run, if_neg ht.symm, List.append_nil]
      exact .of_none
  | ask request =>
    cases hMove
    obtain ⟨c', hAfter, hHears⟩ := Pool.hears_onControl hCell false request
    rw [← Pool.ask_eq] at hAfter hHears
    exact ⟨c, _, c', .idle, hAfter, hHears⟩
  | outside w =>
    cases hMove
    exact ⟨c, _, c, .idle, hCell, .of_none⟩
  | work i =>
    obtain ⟨u, phase, d, d', next, hStep⟩ := Pool.step_cases (move_work hMove)
    have hCall := call?_of_advances hStep
    obtain ⟨hJob, hTask, _, hAdvance, hCells, hJobs⟩ := hStep
    generalize s'.world = w' at hAdvance
    rw [acts_of_job hJob hTask, hCall, Pool.cell?, hCells, ← Pool.cell?,
      Pool.drivers_eq_of_jobs_eq hJobs]
    by_cases hDrives : phase.drives = true
    · have hAlone := hSound.alone u
      have hHears {e : Cell τ σ} (hSet : (s.pool.setCell u d').cell? t = some e) :=
        Pool.hears_put hJob hDrives hAlone (fun _ => hAdvance.handling_of_called) hSet
      by_cases hu : u = t
      · subst hu
        obtain rfl := Option.some.inj (hCell.symm.trans hTask)
        obtain ⟨e, hAfter, hHears⟩ :=
          hHears ((Pool.cell?_setCell _ hTask d' u).trans (if_pos rfl))
        rw [if_pos rfl] at hHears ⊢
        exact ⟨d', _, e, .own (Pool.drivers_of_job hJob hDrives hAlone) hDrives hAdvance, hAfter,
          hHears⟩
      · obtain ⟨e, hAfter, hHears⟩ :=
          hHears ((Pool.cell?_setCell _ hTask d' t).trans ((if_neg (Ne.symm hu)).trans hCell))
        rw [if_neg hu] at hHears ⊢
        exact ⟨c, _, e, .idle, hAfter, hHears⟩
    · cases hAdvance with
      | gone holding =>
        refine ⟨c, s.pool.drivers t, c, ?_, ?_, ?_⟩
        · have hNone : (Phase.going holding).act? b s.world d = none := rfl
          rw [hNone, Option.toList_none, ite_self]
          exact .idle
        · rw [Pool.put, Pool.setCell_same hTask]
          exact hCell
        · rw [Pool.drivers_put_gone d hJob (by simpa using hDrives)]
          exact .of_none
      | _ => exact absurd rfl hDrives

theorem course_of_move {s s' : Scene ω τ σ} {m : Move ω τ σ} (hMove : s.move b m = some s')
    (hSound : s.pool.Sound) {t : TaskId} {c c' : Cell τ σ} (hCell : s.pool.cell? t = some c)
    (hCell' : s'.pool.cell? t = some c') {first : σ} {trace : List (Act σ)}
    (hCourse : Course first trace (c.mode (s.pool.drivers t))) :
    Course first (trace ++ s.acts b m t) (c'.mode (s'.pool.drivers t)) := by
  obtain ⟨d, drivers, e, hTurn, hAfter, hHears⟩ := view_of_move hMove hSound hCell
  obtain rfl := Option.some.inj (hCell'.symm.trans hAfter)
  rw [hHears.mode ((sound_of_move hMove hSound).alone t)]
  generalize s.acts b m t = acts at hTurn
  cases hTurn with
  | idle => simpa using hCourse
  | own hDrivers hDrives hAdvance =>
    rw [hDrivers] at hCourse
    obtain ⟨d, hd, hScheduled, hFinished⟩ :=
      hSound.driven t _ (hDrivers ▸ List.mem_singleton_self _)
    obtain rfl := Option.some.inj (hCell.symm.trans hd)
    exact hAdvance.course hDrives hScheduled hFinished hCourse

theorem acts_of_none {s : Scene ω τ σ} {t : TaskId} (hNone : s.pool.cell? t = none)
    (m : Move ω τ σ) : s.acts b m t = [] := by
  cases m with
  | work i =>
    simp only [acts, hNone, Option.bind_none, Option.toList_none]
    split
    · exact ite_self _
    · rfl
  | _ => rfl

theorem happenings_of_move {s s' : Scene ω τ σ} {m : Move ω τ σ} (hMove : s.move b m = some s')
    (t : TaskId) :
    s'.pool.happenings t = s.pool.happenings t ++ (s.acts b m t).filterMap Act.happening? := by
  cases m with
  | launch body first =>
    cases hMove
    exact (List.append_nil _).symm
  | ask request =>
    cases hMove
    simp only [Pool.ask_eq, acts, List.filterMap_nil, List.append_nil]
    exact Pool.happenings_congr (Pool.history_onControl _ _ _ _) t
  | outside w =>
    cases hMove
    exact (List.append_nil _).symm
  | work i =>
    obtain ⟨u, phase, c, c', next, hJob, hCell, _⟩ := Pool.step_cases (move_work hMove)
    rw [Pool.happenings_step hJob hCell (move_work hMove), acts_of_job hJob hCell,
      phase.happens_eq b s.world c]
    split
    · cases phase.act? b s.world c with
      | none => rfl
      | some act => cases act <;> rfl
    · rfl

end Scene

def Move.launched : Move ω τ σ → List (τ × σ)
  | launch body first => [(body, first)]
  | _ => []

namespace Run

variable {b : Behaviour ω τ σ}

def trace {first s : Scene ω τ σ} : Run b first s → TaskId → List (Act σ)
  | .start, _ => []
  | .next (s := before) r m _, t => r.trace t ++ before.acts b m t

/-- All tasks launched in a run, by number if there were none before. -/
def launches {first s : Scene ω τ σ} : Run b first s → List (τ × σ)
  | .start => []
  | .next r m _ => r.launches ++ m.launched

def along {first : Scene ω τ σ} : {s : Scene ω τ σ} → Run b first s → List (Move ω τ σ) →
    (s' : Scene ω τ σ) × Run b first s'
  | s, r, [] => ⟨s, r⟩
  | s, r, m :: ms =>
    match hMove : s.move b m with
    | some _ => (r.next m hMove).along ms
    | none => ⟨s, r⟩

theorem happenings_eq {first s : Scene ω τ σ} (r : Run b first s) (t : TaskId) :
    s.pool.happenings t =
      first.pool.happenings t ++ (r.trace t).filterMap Act.happening? := by
  induction r with
  | start => exact (List.append_nil _).symm
  | next r m hMove ih =>
    rw [Scene.happenings_of_move hMove, ih, trace, List.filterMap_append, List.append_assoc]

theorem length_launches {w : ω} {s : Scene ω τ σ} (r : Run b { world := w } s) :
    r.launches.length = s.pool.cells.length := by
  induction r with
  | start => rfl
  | @next before after r m hMove ih =>
    rw [launches, List.length_append, ih]
    cases m with
    | launch body first =>
      cases hMove
      simp [Pool.run, Pool.queue, Move.launched]
    | ask request =>
      cases hMove
      simp only [Pool.ask_eq, Pool.length_cells_onControl]
      rfl
    | outside w =>
      cases hMove
      rfl
    | work i =>
      obtain ⟨u, phase, c, c', next, hStep⟩ := Pool.step_cases (Scene.move_work hMove)
      rw [hStep.cells, Pool.length_cells_put]
      rfl

theorem trace_of_none {first s : Scene ω τ σ} (r : Run b first s) (hFirst : first.pool.Sound)
    {t : TaskId} (hNone : s.pool.cell? t = none) : r.trace t = [] := by
  induction r with
  | start => rfl
  | @next before after r m hMove ih =>
    have hBefore : before.pool.cell? t = none := by
      cases hSome : before.pool.cell? t with
      | none => rfl
      | some c =>
        obtain ⟨_, _, c', _, hAfter, _⟩ := Scene.view_of_move hMove (r.sound hFirst) hSome
        rw [hNone] at hAfter
        cases hAfter
    rw [trace, ih hBefore, Scene.acts_of_none hBefore]
    rfl

/-- What holds of a task when it is launched and is kept by every move holds of it ever after. -/
theorem since_launch {w : ω} {t : TaskId} {body : τ} {first : σ}
    {P : ∀ {s : Scene ω τ σ}, Run b { world := w } s → Cell τ σ → Prop}
    (hNew : ∀ {s : Scene ω τ σ} (r : Run b { world := w } s),
      s.pool.drivers t = [.queued false] → r.trace t = [] → P r ⟨.launched, first, body⟩)
    (hKeeps : ∀ {s s' : Scene ω τ σ} (r : Run b { world := w } s) {m : Move ω τ σ}
      (hMove : s.move b m = some s') {c c' : Cell τ σ}, s.pool.cell? t = some c →
        s'.pool.cell? t = some c' → P r c → P (r.next m hMove) c')
    {s : Scene ω τ σ} (r : Run b { world := w } s)
    (hLaunch : r.launches[t]? = some (body, first)) : ∃ c, s.pool.cell? t = some c ∧ P r c := by
  induction r with
  | start => cases hLaunch
  | @next before after r m hMove ih =>
    have hSound := r.sound Pool.sound_empty
    rw [launches, List.getElem?_append] at hLaunch
    split at hLaunch
    · obtain ⟨c, hCell, hHolds⟩ := ih hLaunch
      obtain ⟨_, _, c', _, hAfter, _⟩ := Scene.view_of_move hMove hSound hCell
      exact ⟨c', hAfter, hKeeps r hMove hCell hAfter hHolds⟩
    · next hOld =>
      cases m with
      | launch body' first' =>
        obtain ⟨hSame, hPair⟩ : t = before.pool.cells.length ∧ (body', first') = (body, first) := by
          rw [Move.launched, List.getElem?_singleton] at hLaunch
          split at hLaunch
          · next hPlace =>
            rw [r.length_launches] at hOld hPlace
            exact ⟨Nat.le_antisymm (Nat.le_of_sub_eq_zero hPlace) (Nat.le_of_not_lt hOld),
              Option.some.inj hLaunch⟩
          · cases hLaunch
        obtain ⟨rfl, rfl⟩ := Prod.mk.inj hPair
        have hNone : before.pool.cell? t = none :=
          List.getElem?_eq_none (Nat.le_of_eq hSame.symm)
        cases hMove
        refine ⟨_, (Pool.cell?_run _ _ _ t).trans (if_pos hSame), hNew _ ?_ ?_⟩
        · rw [Pool.drivers_run, if_pos hSame.symm, hSound.drivers_of_none hNone]
          rfl
        · exact (List.append_nil _).trans (r.trace_of_none Pool.sound_empty hNone)
      | _ => cases hLaunch

theorem exists_launch {w : ω} {s : Scene ω τ σ} (r : Run b { world := w } s) {t : TaskId}
    {c : Cell τ σ} (hCell : s.pool.cell? t = some c) :
    ∃ body first, r.launches[t]? = some (body, first) := by
  have ht : t < r.launches.length := by
    rw [r.length_launches]
    exact (List.getElem?_eq_some_iff.mp hCell).1
  exact ⟨_, _, List.getElem?_eq_getElem ht⟩

theorem course {w : ω} {s : Scene ω τ σ} (r : Run b { world := w } s) {t : TaskId} {body : τ}
    {first : σ} (hLaunch : r.launches[t]? = some (body, first)) :
    ∃ c, s.pool.cell? t = some c ∧ Course first (r.trace t) (c.mode (s.pool.drivers t)) := by
  refine r.since_launch (P := fun {s} r c => Course first (r.trace t) (c.mode (s.pool.drivers t)))
    ?_ ?_ hLaunch
  · intro s r hDrivers hTrace
    rw [hDrivers, hTrace]
    exact ⟨sequential_nil first, .first⟩
  · intro s s' r m hMove c c' hCell hCell' hCourse
    exact Scene.course_of_move hMove (r.sound Pool.sound_empty) hCell hCell' hCourse

theorem course_later {s s' : Scene ω τ σ} (later : Run b s s') (hSound : s.pool.Sound) {t : TaskId}
    {c : Cell τ σ} (hCell : s.pool.cell? t = some c) {first : σ} {trace : List (Act σ)}
    (hCourse : Course first trace (c.mode (s.pool.drivers t))) :
    ∃ c', s'.pool.cell? t = some c' ∧
      Course first (trace ++ later.trace t) (c'.mode (s'.pool.drivers t)) := by
  induction later with
  | start => exact ⟨c, hCell, (List.append_nil trace).symm ▸ hCourse⟩
  | next later m hMove ih =>
    obtain ⟨d, hBefore, hSoFar⟩ := ih
    have hSound' := later.sound hSound
    obtain ⟨_, _, d', _, hAfter, _⟩ := Scene.view_of_move hMove hSound' hBefore
    refine ⟨d', hAfter, ?_⟩
    rw [Run.trace, ← List.append_assoc]
    exact Scene.course_of_move hMove hSound' hBefore hAfter hSoFar

end Run

end PipelineForge.Tasks
