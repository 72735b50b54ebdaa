import PipelineForge.Proofs.Hub.Runs

/-!
# Calls of hubs

A call of a hub is a sequence of operations of its owner, and what other owners and the workers do
goes on between them. Letting the worker of a hub run is one of the ways in which everybody else
can go on. What the calls answer is left out, except for the end of a shutdown.
-/

namespace PipelineForge

namespace Hub

variable {h : Hub}

theorem add_eq_performs (h : Hub) (f : FactoryId) (c : Characteristic) :
    (h.add f c).1 =
      h.performs (.register f c :: if (h.register f c).2.2 then [.wake f] else []) := by
  rw [add]
  split
  · next h' refusal hRegister =>
    rw [hRegister, if_pos rfl, performs, List.foldl_cons, perform, hRegister]
    rfl
  · next h' refusal hRegister =>
    rw [hRegister, if_neg Bool.false_ne_true, performs, List.foldl_cons, perform, hRegister]
    rfl

theorem generate_eq_performs {f : FactoryId} {h' : Hub} (hOk : h.generate f = .ok h') :
    h' = h.performs [.closeInbox f, .wake f] := by
  rw [generate] at hOk
  split at hOk
  · cases hOk
  · next e hEntry =>
    cases hOk
    have hClosed : h.perform (.closeInbox f) = h.closeInbox f := by
      rw [perform, hEntry]
      rfl
    rw [performs, List.foldl_cons, hClosed]
    rfl

theorem beginShutdown_eq_performs (h : Hub) :
    h.beginShutdown = h.performs (h.entries.keys.map .dismiss) := by
  rw [beginShutdown, performs, List.foldl_map]
  rfl

theorem applyEvent_fst (h : Hub) (u v : Update) (e : Factory.Event) :
    (h.applyEvent u e).1 = (h.applyEvent v e).1 := by
  cases e with
  | made f s p =>
    simp only [applyEvent, deliver]
    split <;> rfl
  | ended f report failure cache =>
    simp only [applyEvent, conclude]
    split <;> rfl

theorem takeUpTo_eq_performs (n : Nat) (h : Hub) (u : Update)
    (hLength : h.office.events.length = n) :
    (takeUpTo n h u).1 = h.performs (List.replicate n .take) ∧
      (takeUpTo n h u).1.office.events = [] := by
  induction n generalizing h u with
  | zero => exact ⟨rfl, List.length_eq_zero_iff.mp hLength⟩
  | succ n ih =>
    cases hEvents : h.office.events with
    | nil =>
      rw [hEvents] at hLength
      cases hLength
    | cons event events =>
      have hTake : h.take? u =
          some (applyEvent { h with office := { h.office with events } } u event) := by
        rw [take?, hEvents]
      have hOffice := (pool_applyEvent
        (h := { h with office := { h.office with events } }) u event).2
      have hShorter : (applyEvent { h with office := { h.office with events } } u
          event).1.office.events.length = n := by
        rw [hOffice]
        rw [hEvents] at hLength
        exact Nat.succ.inj hLength
      obtain ⟨hOps, hNone⟩ := ih _
        (applyEvent { h with office := { h.office with events } } u event).2 hShorter
      rw [takeUpTo, hTake]
      refine ⟨hOps.trans ?_, hNone⟩
      rw [applyEvent_fst _ u {} event, ← perform_take_cons hEvents]
      rfl

theorem update_eq_performs (h : Hub) :
    h.update.1 = h.performs (List.replicate h.office.events.length .take) ∧
      h.update.1.office.events = [] := takeUpTo_eq_performs _ h {} rfl

theorem isOpen_dismiss (h : Hub) (f : FactoryId) :
    (h.perform (.dismiss f)).office.isOpen = h.office.isOpen := by
  cases hEntry : h.entry? f with
  | none => rw [perform_dismiss_none hEntry]
  | some e => rw [office_dismiss hEntry, Factory.Office.isOpen_release]

theorem isOpen_take (h : Hub) : (h.perform .take).office.isOpen = h.office.isOpen := by
  cases hEvents : h.office.events with
  | nil => rw [perform_take_nil hEvents]
  | cons event events => rw [perform_take_cons hEvents, (pool_applyEvent {} event).2]

end Hub

namespace Plant

variable {κ : Type} {compiler : Compiler κ} {i : Nat}

def Move.Spares (i : Nat) : Move κ → Prop
  | .own k _ => k ≠ i
  | _ => True

/-- The owner of a hub performs operations while everybody else goes on. -/
inductive Performs (compiler : Compiler κ) (i : Nat) :
    List Hub.Op → Plant κ → Plant κ → Prop where
  | done (p : Plant κ) : Performs compiler i [] p p
  | aside {p q r : Plant κ} {ops : List Hub.Op} (m : Move κ) (hSpares : m.Spares i)
      (hMove : p.move compiler m = some q) (rest : Performs compiler i ops q r) :
      Performs compiler i ops p r
  | perform {p q r : Plant κ} {op : Hub.Op} {ops : List Hub.Op}
      (hMove : p.move compiler (.own i op) = some q) (rest : Performs compiler i ops q r) :
      Performs compiler i (op :: ops) p r

theorem Performs.trans {ops more : List Hub.Op} {p q r : Plant κ}
    (h : Performs compiler i ops p q) (h' : Performs compiler i more q r) :
    Performs compiler i (ops ++ more) p r := by
  induction h with
  | done p => exact h'
  | aside m hSpares hMove rest ih => exact .aside m hSpares hMove (ih h')
  | perform hMove rest ih => exact .perform hMove (ih h')

theorem setHub_self {p : Plant κ} {h : Hub} (hHub : p.hub? i = some h) : p.setHub i h = p := by
  obtain ⟨hi, hh⟩ := List.getElem?_eq_some_iff.mp hHub
  rw [setHub, ← hh, List.set_getElem_self]

theorem setHub_setHub (p : Plant κ) (i : Nat) (h h' : Hub) :
    (p.setHub i h).setHub i h' = p.setHub i h' := by simp only [setHub, List.set_set]

theorem Performs.of_hub {ops : List Hub.Op} {p : Plant κ} {h : Hub} (hHub : p.hub? i = some h)
    (hOpen : h.office.isOpen = true)
    (hOps : ∀ op ∈ ops, ∀ g : Hub, (g.perform op).office.isOpen = g.office.isOpen) :
    Performs compiler i ops p (p.setHub i (h.performs ops)) := by
  induction ops generalizing p h with
  | nil => exact (setHub_self hHub).symm ▸ .done p
  | cons op ops ih =>
    have hMove : p.move compiler (.own i op) = some (p.setHub i (h.perform op)) := by
      rw [move, hHub, Option.bind_some, if_pos hOpen]
    have hAfter : (p.setHub i (h.perform op)).hub? i = some (h.perform op) := by
      rw [hub?_setHub p hHub, if_pos rfl]
    have hStill := (hOps op List.mem_cons_self h).trans hOpen
    have hRest := ih hAfter hStill fun op' hMem => hOps op' (List.mem_cons_of_mem op hMem)
    rw [setHub_setHub] at hRest
    exact .perform hMove hRest

theorem putBack_self {p : Plant κ} {h : Hub} (hHub : p.hub? i = some h) :
    p.putBack i h h.pool (p.floorOf h) = p := by
  obtain ⟨hi, hh⟩ := List.getElem?_eq_some_iff.mp hHub
  have hHubs : p.hubs.set i h = p.hubs := by rw [← hh, List.set_getElem_self]
  exact congrArg (fun hubs => { p with hubs }) hHubs

/-- Everybody else goes on when the worker of a hub runs. -/
theorem settle_performs (compiler : Compiler κ) (fuel : Nat) (p : Plant κ) (i : Nat) :
    Performs compiler i [] p (p.settle compiler fuel i) := by
  rw [settle]
  cases hHub : p.hub? i with
  | none => exact .done p
  | some h =>
    change Performs compiler i [] p (p.putBack i h
      (Tasks.Pool.settle (Factory.behaviour compiler i) fuel h.pool (p.floorOf h)).1
      (Tasks.Pool.settle (Factory.behaviour compiler i) fuel h.pool (p.floorOf h)).2)
    induction fuel generalizing p h with
    | zero => exact (putBack_self hHub).symm ▸ .done p
    | succ fuel ih =>
      rw [Tasks.Pool.settle]
      split
      · next pool w hStep =>
        obtain ⟨j, _, hStep⟩ := Option.bind_eq_some_iff.mp hStep
        have hMove : p.move compiler (.work i j) = some (p.putBack i h pool w) := by
          rw [move, step, hHub, Option.bind_some, hStep]
          rfl
        have hAfter : (p.putBack i h pool w).hub? i =
            some { h with pool, office := w.office } :=
          List.getElem?_set_self (List.getElem?_eq_some_iff.mp hHub).1
        have hRest := ih _ _ hAfter
        refine .aside (.work i j) trivial hMove ?_
        simp only [putBack, List.set_set] at hRest ⊢
        exact hRest
      · exact (putBack_self hHub).symm ▸ .done p

end Plant

end PipelineForge
