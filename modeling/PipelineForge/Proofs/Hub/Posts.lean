import PipelineForge.Proofs.Factory.Inboxes
import PipelineForge.Proofs.Hub.Histories
import PipelineForge.Proofs.Hub.Links

/-!
# Posts

Only the owner of a hub posts to the inboxes of its factories, and only to factories that it knows.
Which calls of the owner reach the tasks is told here too.
-/

namespace PipelineForge

open Factory (Inbox)
open Tasks (Call TaskId)

namespace Hub

open Factory (Post)

variable {h : Hub}

def Op.posts (h : Hub) (f : FactoryId) : Op → List Post
  | .register g c => if g = f ∧ (h.entry? f).isSome then [.register c] else []
  | .closeInbox g => if g = f ∧ (h.entry? f).isSome then [.close] else []
  | _ => []

theorem Orderly.inbox_exists (hOrderly : h.Orderly) {f : FactoryId}
    (hKnown : (h.entry? f).isSome = true) : f < h.office.inboxes.length := by
  obtain ⟨e, hEntry⟩ := Option.isSome_iff_exists.mp hKnown
  cases hOpen : h.office.isOpen with
  | true => exact hOrderly.keyed hOpen ▸ hOrderly.entry?_lt hEntry
  | false =>
    rw [Hub.entry?, hOrderly.empty hOpen] at hEntry
    cases hEntry

theorem perform_inbox (hOrderly : h.Orderly) (op : Op) (f : FactoryId) :
    (h.perform op).office.inbox f = (op.posts h f).foldl Inbox.accept (h.office.inbox f) := by
  cases op with
  | register g c =>
    rw [perform, register, Op.posts]
    cases hEntry : h.entry? g with
    | none =>
      rw [if_neg]
      · rfl
      · rintro ⟨rfl, hKnown⟩
        rw [hEntry] at hKnown
        cases hKnown
    | some e =>
      have hKnown : (h.entry? g).isSome = true := by rw [hEntry]; rfl
      refine (Factory.Office.inbox_setInbox _ _ _ _).trans ?_
      by_cases hg : g = f
      · subst hg
        rw [if_pos ⟨rfl, hOrderly.inbox_exists hKnown⟩, if_pos ⟨rfl, hKnown⟩]
        rfl
      · rw [if_neg fun hBoth => hg hBoth.1.symm, if_neg fun hBoth => hg hBoth.1]
        rfl
  | closeInbox g =>
    rw [perform, Op.posts]
    by_cases hKnown : (h.entry? g).isSome = true
    · rw [if_pos hKnown]
      refine (Factory.Office.inbox_setInbox _ _ _ _).trans ?_
      by_cases hg : g = f
      · subst hg
        rw [if_pos ⟨rfl, hOrderly.inbox_exists hKnown⟩, if_pos ⟨rfl, hKnown⟩]
        rfl
      · rw [if_neg fun hBoth => hg hBoth.1.symm, if_neg fun hBoth => hg hBoth.1]
        rfl
    · rw [if_neg hKnown, if_neg]
      · rfl
      · rintro ⟨rfl, hYes⟩
        exact hKnown hYes
  | createFactory name cacheName slot =>
    rw [perform_createFactory]
    split
    · rfl
    · exact Factory.Office.inbox_of_append (o := h.office) rfl f
  | remove g =>
    cases hEntry : h.entry? g with
    | none => rw [perform_remove_none hEntry]; rfl
    | some e =>
      rw [office_remove hEntry, Factory.Office.inbox_release]
      rfl
  | dismiss g =>
    cases hEntry : h.entry? g with
    | none => rw [perform_dismiss_none hEntry]; rfl
    | some e =>
      rw [office_dismiss hEntry, Factory.Office.inbox_release]
      rfl
  | take =>
    cases hEvents : h.office.events with
    | nil => rw [perform_take_nil hEvents]; rfl
    | cons e events =>
      rw [perform_take_cons hEvents,
        (pool_applyEvent (h := { h with office := { h.office with events } }) {} e).2]
      rfl
  | wake g =>
    rw [perform, wake]
    split <;> rfl
  | start g =>
    rcases h.perform_start_cases g with hSame | ⟨e, factory, line, _, _, hStart⟩
    · rw [hSame]
      rfl
    · rw [hStart]
      rfl
  | detach g =>
    rw [perform, detach]
    split <;> rfl
  | createSlot => rfl
  | removeSlot s => rfl
  | markShutDown => rfl
  | close => rfl

def Op.call? (h : Hub) : Op → Option Call
  | .wake f => ((h.entry? f).bind Entry.task).map (.signal · Factory.wakeup)
  | .remove f =>
    (h.entry? f).bind fun e => if e.status = .running then e.task.map .abort else none
  | .dismiss f => ((h.entry? f).bind Entry.task).map .abort
  | _ => none

theorem pool_abortTask (h : Hub) (t : Option TaskId) : (h.abortTask t).pool =
    match t.map Call.abort with
    | some request => h.pool.ask request
    | none => h.pool := by cases t <;> rfl

/-- An operation launches the task of a factory, or asks something of the tasks, or does neither. -/
theorem perform_pool (h : Hub) (op : Op) :
    (op.call? h = none ∧ ∃ factory, (h.perform op).pool = (h.pool.run factory .start).1) ∨
      (h.perform op).pool =
        match op.call? h with
        | some request => h.pool.ask request
        | none => h.pool := by
  cases op with
  | wake f =>
    refine .inr ?_
    rw [perform, wake, Op.call?]
    cases (h.entry? f).bind Entry.task <;> rfl
  | remove f =>
    refine .inr ?_
    rw [perform, remove, Op.call?]
    cases h.entry? f with
    | none => rfl
    | some e =>
      simp only [Option.bind_some]
      split
      · exact pool_abortTask _ _
      · rfl
  | dismiss f =>
    refine .inr ?_
    rw [perform, dismiss, Op.call?]
    cases h.entry? f with
    | none => rfl
    | some e =>
      simp only [Option.bind_some, pool_abortTask]
      cases e.pending <;> rfl
  | start f =>
    rcases h.perform_start_cases f with hSame | ⟨e, factory, line, _, _, hStart⟩
    · exact .inr (congrArg Hub.pool hSame)
    · exact .inl ⟨rfl, factory, congrArg Hub.pool hStart⟩
  | createFactory name cacheName slot =>
    rw [perform_createFactory]
    split
    · exact .inr rfl
    · exact .inr rfl
  | register f c =>
    rw [perform, register]
    split
    · exact .inr rfl
    · exact .inr rfl
  | closeInbox f =>
    rw [perform]
    split
    · exact .inr rfl
    · exact .inr rfl
  | take =>
    cases hEvents : h.office.events with
    | nil =>
      rw [perform_take_nil hEvents]
      exact .inr rfl
    | cons e events =>
      rw [perform_take_cons hEvents]
      exact .inr (pool_applyEvent (h := { h with office := { h.office with events } }) {} e).1
  | detach f =>
    rw [perform, detach]
    split
    · exact .inr rfl
    · exact .inr rfl
  | createSlot => exact .inr rfl
  | removeSlot s => exact .inr rfl
  | markShutDown => exact .inr rfl
  | close => exact .inr rfl

end Hub

end PipelineForge
