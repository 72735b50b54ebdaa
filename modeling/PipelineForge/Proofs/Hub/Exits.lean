import PipelineForge.Proofs.Hub.Attendance

/-!
# Exits of tasks

A task that has come to its end goes on until it has left, whatever the end was: its own job makes
the steps that are missing, four at most, and nobody can keep it from them. What happens elsewhere
in the meantime is left open.
-/

namespace PipelineForge

open Factory (State)
open Tasks (Cell Job Mode Outcome Phase Pool TaskId)

namespace Tasks

/-- How many steps a job in a phase is away from its last one, once its task has come to its
end. -/
inductive Phase.Exits (f : Factory) : Phase State → Nat → Prop where
  | signing (hPoint : ∀ failure, f.point ≠ .reporting failure) : Exits f .parting 0
  | reporting (failure : Option ForgeError) (hPoint : f.point = .reporting failure) :
      Exits f .parting 1
  | ending (outcome : Outcome) : Exits f (.ending outcome) 2
  | finished : Exits f (.handled .finish) 3
  | aborted : Exits f (.handled .abort) 3

theorem Phase.exists_exits (f : Factory) {s : State} {phase : Phase State}
    (hMode : (∃ outcome, phase.mode s = .ended outcome) ∨ phase.mode s = .leaving) :
    ∃ n, phase.Exits f n ∧ n ≤ 3 := by
  cases phase with
  | handled step =>
    cases step with
    | finish => exact ⟨3, .finished, Nat.le_refl 3⟩
    | abort => exact ⟨3, .aborted, Nat.le_refl 3⟩
    | _ => simp [mode, Step.mode] at hMode
  | ending outcome => exact ⟨2, .ending outcome, by omega⟩
  | parting =>
    by_cases hPoint : ∃ failure, f.point = .reporting failure
    · obtain ⟨failure, hPoint⟩ := hPoint
      exact ⟨1, .reporting failure hPoint, by omega⟩
    · exact ⟨0, .signing fun failure hSome => hPoint ⟨failure, hSome⟩, by omega⟩
  | _ => simp [mode] at hMode

theorem Pool.exists_exit {p : Pool Factory State} {t : TaskId} {f : Factory} {m : Mode State}
    (hMember : p.member? t = some (f, m)) (hMode : (∃ outcome, m = .ended outcome) ∨ m = .leaving) :
    ∃ (j : Nat) (phase : Phase State) (c : Cell Factory State) (n : Nat),
      p.jobs[j]? = some ⟨t, phase⟩ ∧ p.cell? t = some c ∧ c.body = f ∧ phase.Exits f n ∧
        n ≤ 3 := by
  obtain ⟨c, hCell, hBoth⟩ := Option.map_eq_some_iff.mp hMember
  obtain ⟨rfl, rfl⟩ := Prod.mk.inj hBoth
  cases hDrivers : p.drivers t with
  | nil =>
    rw [hDrivers, Cell.mode] at hMode
    split at hMode
    · simp at hMode
    · split at hMode <;> simp at hMode
  | cons phase rest =>
    rw [hDrivers, Cell.mode] at hMode
    obtain ⟨n, hExits, hn⟩ := Phase.exists_exits c.body hMode
    have hMem : phase ∈ p.drivers t := hDrivers ▸ List.mem_cons_self
    obtain ⟨⟨u, phase'⟩, hJob, hSome⟩ := List.mem_filterMap.mp hMem
    obtain ⟨j, hJ⟩ := List.mem_iff_getElem?.mp hJob
    obtain ⟨⟨rfl, _⟩, hPhase⟩ := Option.ite_none_right_eq_some.mp hSome
    obtain rfl := Option.some.inj hPhase
    exact ⟨j, phase', c, n, hJ, hCell, rfl, hExits, hn⟩

theorem Pool.jobs_setPhase {p : Pool Factory State} {j : Nat} {job : Job State}
    (hJob : p.jobs[j]? = some job) (t : TaskId) (phase : Phase State) :
    (p.setPhase j t phase).jobs[j]? = some ⟨t, phase⟩ :=
  List.getElem?_set_self (List.getElem?_eq_some_iff.mp hJob).1

end Tasks

namespace Factory

variable {κ : Type} {f : Factory}

theorem part_of_reporting {failure : Option ForgeError} (hPoint : f.point = .reporting failure)
    (w : Floor κ) : part w f =
      ({ w with office := w.office.send (.ended f.id f.report failure f.cache) }, f.reported, [],
        .more) := by
  rw [part, hPoint]
  rfl

theorem part_of_ne_reporting (hPoint : ∀ failure, f.point ≠ .reporting failure) (w : Floor κ) :
    part w f = ({ w with office := w.office.release f.ticket },
      { f with ticket := none, point := .resting }, [], .gone) := by
  rw [part]
  split
  · next failure hSome => exact absurd hSome (hPoint failure)
  · rfl

end Factory

namespace Tasks

variable {κ : Type} {j : Nat} {t : TaskId} {phase : Phase State} {c : Cell Factory State}

/-- The next step of a job whose task has come to its end. -/
theorem Pool.exit_step {p : Pool Factory State} {n : Nat} (compiler : Compiler κ) (i : Nat)
    (w : Factory.Floor κ) (hJob : p.jobs[j]? = some ⟨t, phase⟩) (hCell : p.cell? t = some c)
    (hExits : phase.Exits c.body n) :
    ∃ p' w' c' phase', p.step (Factory.behaviour compiler i) w j = some (p', w') ∧
      p'.jobs[j]? = some ⟨t, phase'⟩ ∧ p'.cell? t = some c' ∧ c'.body.id = c.body.id ∧
      (n = 0 → phase' = .ended) ∧ ∀ k, n = k + 1 → phase'.Exits c'.body k := by
  have hSet (c' : Cell Factory State) : (p.setCell t c').cell? t = some c' := by
    rw [cell?_setCell _ hCell, if_pos rfl]
  cases hExits with
  | finished =>
    refine ⟨p.setPhase j t (.ending .finished), w, c, _, ?_, jobs_setPhase hJob _ _, hCell, rfl,
      ?_, ?_⟩
    · simp only [step, hJob, hCell]
      rfl
    · rintro ⟨⟩
    · rintro k ⟨⟩
      exact .ending _
  | aborted =>
    refine ⟨p.setPhase j t (.ending .aborted), w, c, _, ?_, jobs_setPhase hJob _ _, hCell, rfl,
      ?_, ?_⟩
    · simp only [step, hJob, hCell]
      rfl
    · rintro ⟨⟩
    · rintro k ⟨⟩
      exact .ending _
  | ending outcome =>
    let c' := { c with body := c.body.leave outcome }
    refine ⟨((p.setCell t c').record t (.told outcome)).setPhase j t .parting, w, c', _, ?_,
      jobs_setPhase hJob _ _, hSet _, rfl, ?_, ?_⟩
    · simp only [step, hJob, hCell]
      rfl
    · rintro ⟨⟩
    · rintro k ⟨⟩
      exact .reporting _ rfl
  | reporting failure hPoint =>
    let c' := { c with body := c.body.reported }
    refine ⟨(p.setCell t c').write [], (Factory.part w c.body).1, c', .parting, ?_, hJob, hSet _,
      rfl, ?_, ?_⟩
    · simp only [step, hJob, hCell, part, Factory.behaviour, Factory.part_of_reporting hPoint]
      rfl
    · rintro ⟨⟩
    · rintro k ⟨⟩
      refine .signing ?_
      rintro failure ⟨⟩
  | signing hPoint =>
    let body : Factory := { c.body with ticket := none, point := .resting }
    refine ⟨((p.setCell t { c with body }).write []).setPhase j t .ended,
      (Factory.part w c.body).1, { c with body }, _, ?_, jobs_setPhase hJob _ _, hSet _, rfl,
      fun _ => rfl, ?_⟩
    · simp only [step, hJob, hCell, part, Factory.behaviour, Factory.part_of_ne_reporting hPoint]
      rfl
    · rintro k ⟨⟩

end Tasks

namespace Plant

variable {κ : Type} {compiler : Compiler κ} {first p : Plant κ} {i j : Nat} {h : Hub}
  {t : TaskId} {phase : Phase State} {c : Cell Factory State}

theorem exit_move {n : Nat} (hHub : p.hub? i = some h) (hJob : h.pool.jobs[j]? = some ⟨t, phase⟩)
    (hCell : h.pool.cell? t = some c) (hExits : phase.Exits c.body n) :
    ∃ q h' c' phase', p.move compiler (.work i j) = some q ∧ q.hub? i = some h' ∧
      h'.pool.jobs[j]? = some ⟨t, phase'⟩ ∧ h'.pool.cell? t = some c' ∧
      c'.body.id = c.body.id ∧ (n = 0 → phase' = .ended) ∧
      ∀ k, n = k + 1 → phase'.Exits c'.body k := by
  obtain ⟨pool, w, c', phase', hStep, hRest⟩ :=
    Pool.exit_step compiler i (p.floorOf h) hJob hCell hExits
  refine ⟨p.putBack i h pool w, { h with pool, office := w.office }, c', phase', ?_, ?_, hRest⟩
  · rw [move, step, hHub, Option.bind_some, hStep, Option.map_some]
  · exact (hub?_setHub p hHub _ i).trans (if_pos rfl)

variable (compiler) in
/-- The job of a task that has come to its end can make the steps that are missing. -/
theorem Run.exists_exit {n : Nat} (hHub : p.hub? i = some h)
    (hJob : h.pool.jobs[j]? = some ⟨t, phase⟩) (hCell : h.pool.cell? t = some c)
    (hExits : phase.Exits c.body n) :
    ∃ q, ∃ s : Run compiler p q, ∃ h' c', s.moves = List.replicate (n + 1) (.work i j) ∧
      q.hub? i = some h' ∧ h'.pool.jobs[j]? = some ⟨t, .ended⟩ ∧ h'.pool.cell? t = some c' ∧
      c'.body.id = c.body.id := by
  induction n generalizing p h phase c with
  | zero =>
    obtain ⟨q, h', c', phase', hMove, hAfter, hJob', hCell', hId, hEnded, _⟩ :=
      exit_move hHub hJob hCell hExits
    obtain rfl := hEnded rfl
    exact ⟨q, Run.start.next _ hMove, h', c', rfl, hAfter, hJob', hCell', hId⟩
  | succ n ih =>
    obtain ⟨q, h', c', phase', hMove, hAfter, hJob', hCell', hId, _, hRest⟩ :=
      exit_move hHub hJob hCell hExits
    obtain ⟨q', s, h'', c'', hMoves, hLast, hJob'', hCell'', hId'⟩ :=
      ih hAfter hJob' hCell' (hRest n rfl)
    refine ⟨q', (Run.start.next _ hMove).trans s, h'', c'', ?_, hLast, hJob'', hCell'',
      hId'.trans hId⟩
    rw [Run.moves_trans, hMoves]
    rfl

end Plant

end PipelineForge
