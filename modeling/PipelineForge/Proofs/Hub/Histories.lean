import PipelineForge.Proofs.Hub.Handoffs
import PipelineForge.Proofs.Hub.Shutdown

/-!
# Histories of runs

A run that goes on where another one stopped makes one run with it. What the owner of a hub did is
read off the moves, so a sequence of calls with everybody else between them is a run with these
operations and back.
-/

namespace PipelineForge.Plant

open Factory (Event sentIn)
open Tasks (Mode TaskId)

variable {κ : Type} {compiler : Compiler κ} {first p q : Plant κ} {i : Nat}

def Move.op? (i : Nat) : Move κ → Option Hub.Op
  | .own k op => if k = i then some op else none
  | _ => none

namespace Run

def ops (r : Run compiler first p) (i : Nat) : List Hub.Op := r.moves.filterMap (Move.op? i)

def trans (r : Run compiler first p) : {q : Plant κ} → Run compiler p q → Run compiler first q
  | _, .start => r
  | _, .next s m hMove => (r.trans s).next m hMove

theorem moves_trans (r : Run compiler first p) (s : Run compiler p q) :
    (r.trans s).moves = r.moves ++ s.moves := by
  induction s with
  | start => exact (List.append_nil _).symm
  | next s m hMove ih => rw [trans, moves, moves, ih, List.append_assoc]

theorem ops_trans (r : Run compiler first p) (s : Run compiler p q) (i : Nat) :
    (r.trans s).ops i = r.ops i ++ s.ops i := by
  rw [ops, moves_trans, List.filterMap_append, ops, ops]

theorem dispatches_trans (r : Run compiler first p) (s : Run compiler p q) :
    (r.trans s).dispatches = r.dispatches ++ s.dispatches := by
  induction s with
  | start => exact (List.append_nil _).symm
  | next s m hMove ih => rw [trans, dispatches, dispatches, ih, List.append_assoc]

theorem sent_trans (r : Run compiler first p) (s : Run compiler p q) (i : Nat) :
    (r.trans s).sent i = r.sent i ++ s.sent i := by
  rw [sent, dispatches_trans, List.filterMap_append, sent, sent]

theorem moves_along (r : Run compiler first p) (ms : List (Move κ)) :
    ∃ n, (r.along ms).2.moves = r.moves ++ ms.take n := by
  induction ms generalizing p with
  | nil => exact ⟨0, (List.append_nil _).symm⟩
  | cons m ms ih =>
    rw [along]
    split
    · next q hMove =>
      obtain ⟨n, hMoves⟩ := ih (r.next m hMove)
      exact ⟨n + 1, hMoves.trans (List.append_assoc _ _ _)⟩
    · exact ⟨0, (List.append_nil _).symm⟩

theorem ops_along (r : Run compiler first p) (ms : List (Move κ)) (i : Nat)
    (hLength : (r.along ms).2.moves.length = r.moves.length + ms.length) :
    (r.along ms).2.ops i = r.ops i ++ ms.filterMap (Move.op? i) := by
  obtain ⟨n, hMoves⟩ := r.moves_along ms
  rw [hMoves, List.length_append, List.length_take] at hLength
  rw [ops, hMoves, List.take_of_length_le (by omega), List.filterMap_append, ops]

theorem ops_next (r : Run compiler first p) (m : Move κ) (hMove : p.move compiler m = some q) :
    (r.next m hMove).ops i = r.ops i ++ (m.op? i).toList := by
  rw [ops, moves, List.filterMap_append, ops]
  cases hOp : m.op? i <;> simp [hOp]

theorem ops_own (r : Run compiler first p) {op : Hub.Op}
    (hMove : p.move compiler (.own i op) = some q) :
    (r.next (.own i op) hMove).ops i = r.ops i ++ [op] := by
  rw [ops_next, Move.op?, if_pos rfl, Option.toList_some]

end Run

theorem Run.keeps_of_ops (r : Run compiler first p) {A : Hub.Op → Prop}
    (hOps : ∀ op ∈ r.ops i, A op) : ∀ m ∈ r.moves, m.Keeps A i := by
  rintro m hMem op rfl
  exact hOps op (List.mem_filterMap.mpr ⟨_, hMem, if_pos rfl⟩)

/-- The same for a hub that is still open, with the kinds of moves apart. -/
theorem Run.along_open_hub {limit : Option Nat} {k : κ} {settings : List HubSettings}
    {P : {p : Plant κ} → Run compiler (founded limit k settings) p → Hub → Prop}
    (hStart : ∀ s : HubSettings, P .start { settings := s })
    (hSpared : ∀ {p p' : Plant κ} (r : Run compiler (founded limit k settings) p) (m : Move κ)
      (hMove : p.move compiler m = some p') (h : Hub), m.Elsewhere i → P r h →
      P (r.next m hMove) h)
    (hOwned : ∀ {p p' : Plant κ} (r : Run compiler (founded limit k settings) p) (op : Hub.Op)
      (hMove : p.move compiler (.own i op) = some p') (h : Hub), p.hub? i = some h →
      h.office.isOpen = true → (h.perform op).office.isOpen = true → P r h →
      P (r.next (.own i op) hMove) (h.perform op))
    (hWorked : ∀ {p p' : Plant κ} (r : Run compiler (founded limit k settings) p) (j : Nat)
      (hMove : p.move compiler (.work i j) = some p') (h h' : Hub) (w' : Factory.Floor κ)
      (t : TaskId) (f f' : Factory) (mode mode' : Mode Factory.State), h.office.isOpen = true →
      Works compiler p i j p' h h' w' t f mode f' mode' → P r h → P (r.next (.work i j) hMove) h')
    {p : Plant κ} (r : Run compiler (founded limit k settings) p) {h : Hub}
    (hHub : p.hub? i = some h) (hOpen : h.office.isOpen = true) : P r h := by
  revert hOpen
  refine r.along_hub (P := fun r h => h.office.isOpen = true → P r h) (fun s _ => hStart s) ?_ hHub
  intro p p' r m hMove h h' hHub hStir ih hOpen'
  cases hStir with
  | spared hSame hElsewhere =>
    subst hSame
    exact hSpared r m hMove _ hElsewhere (ih hOpen')
  | owned op hm hOpen hPerform =>
    subst hm hPerform
    exact hOwned r op hMove h hHub hOpen hOpen' (ih hOpen)
  | worked j w' t f f' mode mode' hm hWorks =>
    subst hm
    have hOpen : h.office.isOpen = true := by
      rw [hWorks.office, hWorks.passage.isOpen] at hOpen'
      exact hOpen'
    exact hWorked r j hMove h h' w' t f f' mode mode' hOpen hWorks (ih hOpen)

/-- What the operations of an owner and the steps of the workers keep lasts as long as the owner
does nothing else. -/
theorem Run.preserves (r : Run compiler p q) (hKept : p.Kept) {A : Hub.Op → Prop}
    (hOps : ∀ op ∈ r.ops i, A op) {P : Hub → Prop}
    (hOwned : ∀ h op, h.Orderly → h.Booked → A op → P h → P (h.perform op))
    (hWorked : ∀ {p p' : Plant κ} {j : Nat} {h h' : Hub} {w' : Factory.Floor κ} {t : TaskId}
      {f f' : Factory} {mode mode' : Mode Factory.State},
      Works compiler p i j p' h h' w' t f mode f' mode' → P h → P h')
    (hBefore : p.Has i P) : q.Kept ∧ q.Has i P := by
  have hKeeps := r.keeps_of_ops hOps
  clear hOps
  induction r with
  | start => exact ⟨hKept, hBefore⟩
  | @next p q r m hMove ih =>
    obtain ⟨hKeptNow, h, hHub, hNow⟩ :=
      ih fun m' hMem => hKeeps m' (List.mem_append_left _ hMem)
    obtain ⟨h', hAfter, hStir⟩ := stir_of_move hKeptNow.orderly hMove hHub
    refine ⟨hKeptNow.move hMove, h', hAfter, ?_⟩
    cases hStir with
    | spared hSame hElsewhere =>
      rw [hSame]
      exact hNow
    | owned op hm hOpen hPerform =>
      rw [hPerform]
      have hAllowed := hKeeps m (List.mem_append_right _ (List.mem_singleton_self m)) op hm
      exact hOwned h op (hKeptNow.orderly i h hHub) (hKeptNow.booked i h hHub) hAllowed hNow
    | worked j w' t f f' mode mode' hm hWorks => exact hWorked hWorks hNow

theorem Run.preserves_quietly (r : Run compiler p q) (hQuiet : r.ops i = []) (hKept : p.Kept)
    {P : Hub → Prop}
    (hWorked : ∀ {p p' : Plant κ} {j : Nat} {h h' : Hub} {w' : Factory.Floor κ} {t : TaskId}
      {f f' : Factory} {mode mode' : Mode Factory.State},
      Works compiler p i j p' h h' w' t f mode f' mode' → P h → P h')
    (hBefore : p.Has i P) : q.Kept ∧ q.Has i P := by
  refine r.preserves hKept (A := fun _ => False) ?_ ?_ hWorked hBefore
  · rw [hQuiet]
    exact nofun
  · exact fun _ _ _ _ hNever => hNever.elim

theorem Move.Elsewhere.spares {m : Move κ} (hElsewhere : m.Elsewhere i) : m.Spares i := by
  cases m with
  | own k op => exact hElsewhere
  | _ => trivial

theorem Move.op?_eq_none_iff {m : Move κ} : m.op? i = none ↔ m.Spares i := by
  cases m with
  | own k op => simp [op?, Spares]
  | _ => simp [op?, Spares]

theorem Run.ops_aside (r : Run compiler first p) {m : Move κ}
    (hMove : p.move compiler m = some q) (hSpares : m.Spares i) :
    (r.next m hMove).ops i = r.ops i := by
  rw [ops_next, Move.op?_eq_none_iff.mpr hSpares, Option.toList_none, List.append_nil]

theorem Run.performs (r : Run compiler first p) (i : Nat) :
    Performs compiler i (r.ops i) first p := by
  induction r with
  | start => exact .done first
  | @next p q r m hMove ih =>
    by_cases hSpares : m.Spares i
    · rw [r.ops_aside hMove hSpares]
      have hRest : Performs compiler i [] p q := .aside m hSpares hMove (.done q)
      exact List.append_nil (r.ops i) ▸ ih.trans hRest
    · cases m with
      | own k op =>
        obtain rfl : k = i := Decidable.not_not.mp hSpares
        rw [r.ops_own hMove]
        exact ih.trans (.perform hMove (.done q))
      | _ => exact absurd trivial hSpares

theorem Performs.exists_run {ops : List Hub.Op} (h : Performs compiler i ops p q) :
    ∃ r : Run compiler p q, r.ops i = ops := by
  induction h with
  | done p => exact ⟨.start, rfl⟩
  | @aside p q _ ops m hSpares hMove rest ih =>
    obtain ⟨r, hOps⟩ := ih
    refine ⟨(Run.start.next m hMove).trans r, ?_⟩
    rw [Run.ops_trans, Run.ops_aside _ hMove hSpares, hOps]
    rfl
  | @perform p q _ op ops hMove rest ih =>
    obtain ⟨r, hOps⟩ := ih
    refine ⟨(Run.start.next _ hMove).trans r, ?_⟩
    rw [Run.ops_trans, Run.ops_own, hOps]
    rfl

theorem Performs.split {op : Hub.Op} {ops : List Hub.Op}
    (h : Performs compiler i (op :: ops) p q) : ∃ p₁ p₂, Performs compiler i [] p p₁ ∧
      p₁.move compiler (.own i op) = some p₂ ∧ Performs compiler i ops p₂ q := by
  generalize hOps : op :: ops = all at h
  induction h with
  | done p => cases hOps
  | @aside p q _ _ m hSpares hMove rest ih =>
    obtain ⟨p₁, p₂, hQuiet, hOwn, hRest⟩ := ih hOps
    exact ⟨p₁, p₂, .aside m hSpares hMove hQuiet, hOwn, hRest⟩
  | @perform p q _ op' ops' hMove rest ih =>
    cases hOps
    exact ⟨p, q, .done p, hMove, rest⟩

theorem Run.split (s : Run compiler p q) {op : Hub.Op} {ops : List Hub.Op}
    (hOps : s.ops i = op :: ops) : ∃ p₁ p₂, (∃ s₁ : Run compiler p p₁, s₁.ops i = []) ∧
      p₁.move compiler (.own i op) = some p₂ ∧ ∃ s₂ : Run compiler p₂ q, s₂.ops i = ops := by
  obtain ⟨p₁, p₂, hBefore, hMove, hAfter⟩ := (hOps ▸ s.performs i).split
  exact ⟨p₁, p₂, hBefore.exists_run, hMove, hAfter.exists_run⟩

theorem Run.sent_of_quiet (r : Run compiler first p) {m : Move κ}
    (hMove : p.move compiler m = some q) (hQuiet : p.dispatched m q = []) (i : Nat) :
    (r.next m hMove).sent i = r.sent i := by
  rw [sent_next, hQuiet, List.filterMap_nil, List.append_nil]

theorem Run.sent_of_elsewhere (r : Run compiler first p) {m : Move κ}
    (hMove : p.move compiler m = some q) (hElsewhere : m.Elsewhere i) :
    (r.next m hMove).sent i = r.sent i := by
  cases m with
  | work k j =>
    have hk : k ≠ i := hElsewhere
    rw [sent_next]
    cases hWorker : p.worker? k j with
    | none => simp [dispatched, hWorker]
    | some f =>
      simp only [dispatched, hWorker, List.filterMap_map]
      refine (congrArg _ (List.filterMap_eq_nil_iff.mpr ?_)).trans (List.append_nil _)
      exact fun e _ => if_neg hk
  | _ => exact r.sent_of_quiet hMove rfl i

theorem Run.sent_of_works (r : Run compiler first p) {i j : Nat}
    (hMove : p.move compiler (.work i j) = some q) {h h' : Hub} {w' : Factory.Floor κ}
    {t : TaskId} {f f' : Factory} {mode mode' : Mode Factory.State}
    (hWorks : Works compiler p i j q h h' w' t f mode f' mode') :
    (r.next (.work i j) hMove).sent i = r.sent i ++ sentIn (p.floorOf h) w' := by
  rw [sent_next, hWorks.dispatched, List.filterMap_map]
  simp

end PipelineForge.Plant
