import PipelineForge.Tasks.Pool

/-!
# Pools seen without part of their bodies

A view of the bodies of tasks gives a view of a pool. Two pools that look the same make the same
steps and look the same afterwards, as long as what the tasks do with their bodies and with the
world looks the same. Which part of the bodies a view leaves out is not laid down here.
-/

namespace PipelineForge.Tasks

variable {ω τ σ : Type}

def Cell.view (g : τ → τ) (c : Cell τ σ) : Cell τ σ := { c with body := g c.body }

def Pool.view (g : τ → τ) (p : Pool τ σ) : Pool τ σ := { p with cells := p.cells.map (Cell.view g) }

theorem Cell.view_eq_iff {g : τ → τ} {c c' : Cell τ σ} :
    c.view g = c'.view g ↔ c.control = c'.control ∧ c.state = c'.state ∧ g c.body = g c'.body := by
  simp only [Cell.view, Cell.mk.injEq]

/-- Two results of a piece of work, or of a piece of ending, that look the same: the worlds are
related, the bodies look the same, and the rest is the same. -/
structure Alike {ρ : Type} (g : τ → τ) (W : ω → ω → Prop) (x y : ω × τ × List Log.Line × ρ) :
    Prop where
  world : W x.1 y.1
  body : g x.2.1 = g y.2.1
  lines : x.2.2.1 = y.2.2.1
  reply : x.2.2.2 = y.2.2.2

/-- What a task does with its body looks the same for bodies that do. -/
structure Behaviour.Respects (b : Behaviour ω τ σ) (g : τ → τ) (W : ω → ω → Prop) : Prop where
  name : ∀ x y, g x = g y → b.name x = b.name y
  enter : ∀ s x y, g x = g y → g (b.enter s x) = g (b.enter s y)
  leave : ∀ outcome x y, g x = g y → g (b.leave outcome x) = g (b.leave outcome y)
  part : ∀ w v x y, W w v → g x = g y → Alike g W (b.part w x) (b.part v y)

namespace Pool

section View

variable (g : τ → τ) (p : Pool τ σ) (t : TaskId) (i : Nat)

@[simp] theorem cell?_view : (p.view g).cell? t = (p.cell? t).map (Cell.view g) :=
  List.getElem?_map

@[simp] theorem jobs_view : (p.view g).jobs = p.jobs := rfl

@[simp] theorem view_setCell (c : Cell τ σ) :
    (p.setCell t c).view g = (p.view g).setCell t (c.view g) := by
  rw [view, setCell, setCell, view, List.map_set]

@[simp] theorem view_setPhase (phase : Phase σ) :
    (p.setPhase i t phase).view g = (p.view g).setPhase i t phase := rfl

@[simp] theorem view_removeJob : (p.removeJob i).view g = (p.view g).removeJob i := rfl

@[simp] theorem view_queue (byWorker : Bool) :
    (p.queue t byWorker).view g = (p.view g).queue t byWorker := rfl

@[simp] theorem view_write (lines : List Log.Line) :
    (p.write lines).view g = (p.view g).write lines := rfl

@[simp] theorem view_record (h : Happening σ) : (p.record t h).view g = (p.view g).record t h := rfl

theorem view_run (body : τ) (first : σ) :
    (p.run body first).1.view g = ((p.view g).run (g body) first).1 ∧
      (p.run body first).2 = ((p.view g).run (g body) first).2 := by
  constructor
  · simp [run, view, queue, Cell.view]
  · simp [run, view]

theorem view_onControl (byWorker : Bool) (f : Control → Control × Bool) :
    (p.onControl t byWorker f).view g = (p.view g).onControl t byWorker f := by
  simp only [onControl, cell?_view]
  cases p.cell? t with
  | none => rfl
  | some c =>
    have hControl : (c.view g).control = c.control := rfl
    simp only [Option.map_some, hControl]
    generalize f c.control = change
    obtain ⟨control, flag⟩ := change
    cases flag with
    | true => exact congrArg (·.queue t byWorker) (view_setCell g p t { c with control })
    | false => exact view_setCell g p t { c with control }

theorem view_settleStep (c : Cell τ σ) (s : Step σ) :
    (p.settleStep i t c s).view g = (p.view g).settleStep i t (c.view g) s := by
  cases s with
  | proceed next =>
    exact congrArg (·.setPhase i t .ready) (view_setCell g p t { c with state := next })
  | yield next =>
    exact congrArg (·.setPhase i t .requeueing) (view_setCell g p t { c with state := next })
  | wait next condition =>
    have hControl : (c.view g).control = c.control := rfl
    simp only [settleStep, hControl]
    generalize c.control.await condition = change
    obtain ⟨control, flag⟩ := change
    have hCell := view_setCell g p t { c with state := next, control }
    cases flag with
    | true => exact congrArg (·.setPhase i t .ready) hCell
    | false => exact congrArg (·.setPhase i t (.going true)) hCell
  | finish => rfl
  | abort => rfl

theorem view_call (request : Call) : (p.call request).view g = (p.view g).call request := by
  cases request with
  | signal u bits => exact view_onControl g p u true _
  | abort u => exact view_onControl g p u true _

end View

section Steps

variable {b : Behaviour ω τ σ} {g : τ → τ} {W : ω → ω → Prop} {p p' q : Pool τ σ} {w w' v : ω}
  {i j : Nat} {t : TaskId} {c c' : Cell τ σ}

theorem cell?_of_view (hPools : p.view g = p'.view g) (hCell : p.cell? t = some c) :
    ∃ c', p'.cell? t = some c' ∧ c.view g = c'.view g := by
  have hSame : (p'.cell? t).map (Cell.view g) = some (c.view g) := by
    rw [← cell?_view, ← hPools, cell?_view, hCell, Option.map_some]
  obtain ⟨c', hCell', hLook⟩ := Option.map_eq_some_iff.mp hSame
  exact ⟨c', hCell', hLook.symm⟩

theorem jobs_of_view (hPools : p.view g = p'.view g) : p.jobs = p'.jobs := by
  rw [← jobs_view g p, hPools, jobs_view]

theorem setCell_of_view (hPools : p.view g = p'.view g) (hCells : c.view g = c'.view g) :
    (p.setCell t c).view g = (p'.setCell t c').view g := by
  rw [view_setCell, view_setCell, hPools, hCells]

theorem takeUp_of_view (hRespects : b.Respects g W) (hPools : p.view g = p'.view g)
    (hCells : c.view g = c'.view g) :
    (takeUp b p i t c).view g = (takeUp b p' i t c').view g := by
  obtain ⟨control, state, body⟩ := c
  obtain ⟨control', state', body'⟩ := c'
  obtain ⟨rfl, rfl, hBody⟩ := Cell.view_eq_iff.mp hCells
  have hEntered : Cell.view g ⟨control, state, b.enter state body⟩ =
      Cell.view g ⟨control, state, b.enter state body'⟩ :=
    Cell.view_eq_iff.mpr ⟨rfl, rfl, hRespects.enter state body body' hBody⟩
  simp only [takeUp]
  split
  · rw [view_setPhase, view_setPhase, hPools]
  · rw [view_setPhase, view_setPhase, view_record, view_record,
      setCell_of_view hPools hEntered]

theorem work_of_view (hRespects : b.Respects g W) (hPools : p.view g = p'.view g)
    (hCells : c.view g = c'.view g) (hAlike : Alike g W (b.work w c.body) (b.work w' c'.body))
    (hWork : work b p w i t c = some (q, v)) :
    ∃ q' v', work b p' w' i t c' = some (q', v') ∧ q.view g = q'.view g ∧ W v v' := by
  obtain ⟨hControl, hState, hName⟩ := Cell.view_eq_iff.mp hCells
  have hFault (text : String) : faultLine b c text = faultLine b c' text := by
    rw [faultLine, faultLine, hRespects.name _ _ hName, hState]
  obtain ⟨hWorld, hBody, hLines, hReply⟩ := hAlike
  rw [work] at hWork ⊢
  generalize b.work w c.body = x at *
  generalize b.work w' c'.body = y at *
  obtain ⟨w₁, body, lines, reply⟩ := x
  obtain ⟨w₂, body', lines', reply'⟩ := y
  obtain rfl : lines = lines' := hLines
  obtain rfl : reply = reply' := hReply
  have hPart : (p.setCell t { c with body }).view g =
      (p'.setCell t { c' with body := body' }).view g :=
    setCell_of_view hPools (Cell.view_eq_iff.mpr ⟨hControl, hState, hBody⟩)
  cases reply with
  | more =>
    cases hWork
    exact ⟨_, _, rfl, by rw [view_write, view_write, hPart], hWorld⟩
  | held => cases hWork
  | call request =>
    cases hWork
    exact ⟨_, _, rfl, by rw [view_call, view_call, view_write, view_write, hPart], hWorld⟩
  | step s =>
    cases hWork
    exact ⟨_, _, rfl, by rw [view_setPhase, view_setPhase, view_write, view_write, hPart], hWorld⟩
  | fault text =>
    cases hWork
    refine ⟨_, _, rfl, ?_, hWorld⟩
    simp only [view_setPhase, view_write, hPart, hFault]

theorem part_of_view (hRespects : b.Respects g W) (hPools : p.view g = p'.view g)
    (hWorlds : W w w') (hCells : c.view g = c'.view g) :
    (part b p w i t c).1.view g = (part b p' w' i t c').1.view g ∧
      W (part b p w i t c).2 (part b p' w' i t c').2 := by
  obtain ⟨hControl, hState, hName⟩ := Cell.view_eq_iff.mp hCells
  obtain ⟨hWorld, hBody, hLines, hReply⟩ := hRespects.part w w' c.body c'.body hWorlds hName
  rw [part, part]
  generalize b.part w c.body = x at *
  generalize b.part w' c'.body = y at *
  obtain ⟨w₁, body, lines, parting⟩ := x
  obtain ⟨w₂, body', lines', parting'⟩ := y
  obtain rfl : lines = lines' := hLines
  obtain rfl : parting = parting' := hReply
  have hPart : (p.setCell t { c with body }).view g =
      (p'.setCell t { c' with body := body' }).view g :=
    setCell_of_view hPools (Cell.view_eq_iff.mpr ⟨hControl, hState, hBody⟩)
  cases parting with
  | more => exact ⟨by rw [view_write, view_write, hPart], hWorld⟩
  | gone => exact ⟨by rw [view_setPhase, view_setPhase, view_write, view_write, hPart], hWorld⟩
  | fault text =>
    refine ⟨?_, hWorld⟩
    simp only [view_removeJob, view_write, hPart]

/-- Pools that look the same make the same steps, if the task that is at work, when one is, does
what looks the same. -/
theorem step_of_view (hRespects : b.Respects g W) (hPools : p.view g = p'.view g)
    (hWorlds : W w w')
    (hWork : ∀ (t : TaskId) (c c' : Cell τ σ), p.cell? t = some c → p'.cell? t = some c' →
      g c.body = g c'.body → Alike g W (b.work w c.body) (b.work w' c'.body))
    (hStep : p.step b w i = some (q, v)) :
    ∃ q' v', p'.step b w' i = some (q', v') ∧ q.view g = q'.view g ∧ W v v' := by
  have hJobs := jobs_of_view hPools
  rw [step, ← hJobs]
  rw [step] at hStep
  split at hStep
  · cases hStep
  next t phase hJob =>
  split at hStep
  · cases hStep
  next c hCell =>
  obtain ⟨c', hCell', hCells⟩ := cell?_of_view hPools hCell
  obtain ⟨hControl, hState, hBody⟩ := Cell.view_eq_iff.mp hCells
  simp only [hCell']
  cases phase with
  | queued byWorker =>
    have hHeld : p'.isHeld t = p.isHeld t := by rw [isHeld, isHeld, hJobs]
    simp only [hHeld, Option.ite_none_left_eq_some, Option.some.injEq, Prod.mk.injEq] at hStep ⊢
    obtain ⟨hFree, rfl, rfl⟩ := hStep
    exact ⟨_, _, ⟨hFree, rfl, rfl⟩, by rw [view_setPhase, view_setPhase, hPools], hWorlds⟩
  | ready =>
    cases hStep
    exact ⟨_, _, rfl, takeUp_of_view hRespects hPools hCells, hWorlds⟩
  | handling =>
    exact work_of_view hRespects hPools hCells (hWork t c c' hCell hCell' hBody) hStep
  | handled s =>
    cases hStep
    refine ⟨_, _, rfl, ?_, hWorlds⟩
    rw [view_settleStep, view_settleStep, hPools, hCells]
  | requeueing =>
    cases hStep
    exact ⟨_, _, rfl, by simp only [view_setPhase, view_queue, hPools], hWorlds⟩
  | ending outcome =>
    cases hStep
    have hTold : (p.setCell t { c with body := b.leave outcome c.body }).view g =
        (p'.setCell t { c' with body := b.leave outcome c'.body }).view g :=
      setCell_of_view hPools
        (Cell.view_eq_iff.mpr ⟨hControl, hState, hRespects.leave outcome _ _ hBody⟩)
    exact ⟨_, _, rfl, by simp only [view_setPhase, view_record, hTold], hWorlds⟩
  | parting =>
    obtain ⟨hLook, hWorld⟩ := part_of_view (i := i) (t := t) hRespects hPools hWorlds hCells
    obtain ⟨rfl, rfl⟩ := Prod.mk.inj (Option.some.inj hStep)
    exact ⟨_, _, rfl, hLook, hWorld⟩
  | ended =>
    cases hStep
    have hDone : (p.setCell t { c with control := c.control.complete }).view g =
        (p'.setCell t { c' with control := c'.control.complete }).view g :=
      setCell_of_view hPools
        (Cell.view_eq_iff.mpr ⟨congrArg Control.complete hControl, hState, hBody⟩)
    exact ⟨_, _, rfl, by simp only [view_setPhase, hDone], hWorlds⟩
  | going holding =>
    cases hStep
    exact ⟨_, _, rfl, by simp only [view_removeJob, hPools], hWorlds⟩

end Steps

end Pool

end PipelineForge.Tasks
