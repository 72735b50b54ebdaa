import PipelineForge.Proofs.Cache.Stored
import PipelineForge.Proofs.Factory.Gathering
import PipelineForge.Proofs.Hub.Arrivals
import PipelineForge.Proofs.Hub.Tallies

/-!
# Duplicate registrations

Who registers a characteristic twice with a factory is refused, and the factory is doomed: it never
goes on to generate, whenever its workers see the refusal in the inbox. A factory that has gone on
to generate refuses every registration, and its inbox and its axes stay as they are. What was
refused and what the workers of a factory did is read off the moves of a run.
-/

namespace PipelineForge

open Factory (Event Floor Gathering Inbox Passage Producing State Stumbles endingsIn
  endingsIn_append madeIn madeIn_append sentIn)
open Tasks (Mode TaskId)

namespace Hub

variable {h : Hub}

def Op.refusal? (h : Hub) (g : FactoryId) : Op → Option ForgeError
  | .register k c => if k = g then (h.register k c).2.1 else none
  | _ => none

/-- Only the refusal of a duplicate leaves a failure in an inbox. -/
theorem failed_perform (hOrderly : h.Orderly) (op : Op) (g : FactoryId) :
    ((h.perform op).office.inbox g).failed =
      (h.office.inbox g).failed.or ((op.refusal? h g).toList.find? ForgeError.isDuplicate) := by
  rw [perform_inbox hOrderly]
  cases op with
  | register k c =>
    rw [Op.posts, Op.refusal?]
    by_cases hk : k = g
    · subst hk
      rw [if_pos rfl]
      cases hEntry : h.entry? k with
      | none =>
        simp only [register, hEntry]
        exact Option.or_none.symm
      | some e =>
        simp only [register, hEntry]
        exact Factory.Inbox.failed_register _ c
    · rw [if_neg fun hBoth => hk hBoth.1, if_neg hk]
      exact Option.or_none.symm
  | closeInbox k =>
    rw [Op.posts]
    split
    · exact Option.or_none.symm
    · exact Option.or_none.symm
  | _ => exact Option.or_none.symm

theorem add_sealed {g : FactoryId} (hSealed : (h.office.inbox g).Sealed)
    (hKnown : (h.entry? g).isSome = true) (c : Characteristic) :
    h.add g c = (h, some (.lateRegistration c.name)) := by
  have hSame : h.office.setInbox g (h.office.inbox g) = h.office := by
    rw [Factory.Office.setInbox, Factory.Office.inbox, List.getD_eq_getElem?_getD]
    cases hInbox : h.office.inboxes[g]? with
    | none => rw [List.set_eq_of_length_le (List.getElem?_eq_none_iff.mp hInbox)]
    | some i =>
      obtain ⟨hg, rfl⟩ := List.getElem?_eq_some_iff.mp hInbox
      rw [Option.getD_some, List.set_getElem_self]
  obtain ⟨e, hEntry⟩ := Option.isSome_iff_exists.mp hKnown
  simp only [add, register, hEntry, hSealed.register, hSame]
  rfl

end Hub

namespace Plant

variable {κ : Type} {compiler : Compiler κ} {first p p' : Plant κ} {i j : Nat} {h h' : Hub}
  {g : FactoryId} {m : Move κ}

/-- What a move of the owner of a hub is refused with when it registers with a factory. -/
def refusals (p : Plant κ) (i : Nat) (g : FactoryId) (m : Move κ) : List ForgeError :=
  match m.op? i, p.hub? i with
  | some op, some h => (op.refusal? h g).toList
  | _, _ => []

def asksAbort (p : Plant κ) (i : Nat) (g : FactoryId) (m : Move κ) : Bool :=
  match m.op? i, p.hub? i with
  | some op, some h => op.aborts h g
  | _, _ => false

/-- A step of a worker for one factory: the factory and the world before it, whether it was a piece
of the factory's work, and the world after it. -/
structure Stint (κ : Type) where
  before : Floor κ
  worker : Factory
  atWork : Bool
  after : Floor κ

/-- The step calls no compiler and leaves all caches as they are. -/
structure Stint.Idle (s : Stint κ) : Prop where
  state : s.worker.state.listens = true
  point : s.worker.point.isQuiet = true
  compiler : s.after.compiler = s.before.compiler
  caches : ∀ id c, s.before.registry.cache? id = some c → s.after.registry.cache? id = some c

def stints (p : Plant κ) (i : Nat) (g : FactoryId) (m : Move κ) (q : Plant κ) : List (Stint κ) :=
  match m with
  | .work k j =>
    match p.hub? k, p.worker? k j, q.hub? k with
    | some h, some f, some h' =>
      if k = i ∧ f.id = g then [⟨p.floorOf h, f, (p.atWork? k j).isSome, q.floorOf h'⟩] else []
    | _, _, _ => []
  | _ => []

namespace Run

def refusals (i : Nat) (g : FactoryId) : {p : Plant κ} → Run compiler first p → List ForgeError
  | _, .start => []
  | _, @next _ _ _ p _ r m _ => r.refusals i g ++ p.refusals i g m

def asksAbort (i : Nat) (g : FactoryId) : {p : Plant κ} → Run compiler first p → Bool
  | _, .start => false
  | _, @next _ _ _ p _ r m _ => r.asksAbort i g || p.asksAbort i g m

def stints (i : Nat) (g : FactoryId) : {p : Plant κ} → Run compiler first p → List (Stint κ)
  | _, .start => []
  | q, @next _ _ _ p _ r m _ => r.stints i g ++ p.stints i g m q

def duplicate? (r : Run compiler first p) (i : Nat) (g : FactoryId) : Option ForgeError :=
  (r.refusals i g).find? ForgeError.isDuplicate

/-- What a factory can fail with before it generates: the first duplicate, an abort that it was
asked for, or something that it stumbled over. -/
def Causes (r : Run compiler first p) (i : Nat) (g : FactoryId) (e : ForgeError) : Prop :=
  r.duplicate? i g = some e ∨ r.asksAbort i g = true ∧ e = .aborted ∨
    ∃ s ∈ r.stints i g, s.atWork = true ∧ Stumbles s.before s.worker e

theorem duplicate?_next {r : Run compiler first p} {e : ForgeError}
    (hSome : r.duplicate? i g = some e) (hMove : p.move compiler m = some p') :
    (r.next m hMove).duplicate? i g = some e := by
  rw [duplicate?, refusals, List.find?_append]
  exact (congrArg (Option.or · _) hSome).trans Option.some_or

theorem Causes.next {r : Run compiler first p} {e : ForgeError} (hCauses : r.Causes i g e)
    (hMove : p.move compiler m = some p') : (r.next m hMove).Causes i g e := by
  rcases hCauses with hDuplicate | ⟨hAsked, rfl⟩ | ⟨s, hMem, hStumbles⟩
  · exact .inl (duplicate?_next hDuplicate hMove)
  · refine .inr (.inl ⟨?_, rfl⟩)
    rw [asksAbort, hAsked, Bool.true_or]
  · exact .inr (.inr ⟨s, List.mem_append_left _ hMem, hStumbles⟩)

/-- What is known of a factory: either it has not gone on to generate, or its inbox is sealed. -/
inductive Standing (r : Run compiler first p) (i : Nat) (g : FactoryId) (h : Hub) : Prop where
  | gathering
      (hMembers : ∀ t f m, h.pool.member? t = some (f, m) → f.id = g →
        Gathering (r.Causes i g) f m)
      (hStints : ∀ s ∈ r.stints i g, s.Idle) (hMade : r.made i g = [])
      (hEndings : ∀ e ∈ endingsIn g (r.sent i), ∃ cause, e.2 = some cause ∧ r.Causes i g cause)
  | producing (hSealed : (h.office.inbox g).Sealed) (t : TaskId) (f : Factory) (m : Mode State)
      (hMember : h.pool.member? t = some (f, m)) (hId : f.id = g) (hProducing : Producing f m)

end Run

theorem refusals_aside (hSpares : m.Spares i) : p.refusals i g m = [] := by
  rw [refusals, Move.op?_eq_none_iff.mpr hSpares]

theorem refusals_own {op : Hub.Op} (hHub : p.hub? i = some h) :
    p.refusals i g (.own i op) = (op.refusal? h g).toList := by
  simp only [refusals, Move.op?, if_true, hHub]

theorem asksAbort_own {op : Hub.Op} (hHub : p.hub? i = some h) :
    p.asksAbort i g (.own i op) = op.aborts h g := by
  simp only [asksAbort, Move.op?, if_true, hHub]

theorem stints_elsewhere (hElsewhere : m.Elsewhere i) : p.stints i g m p' = [] := by
  cases m with
  | work k j =>
    have hk : k ≠ i := hElsewhere
    rw [stints]
    split
    · exact if_neg fun hBoth => hk hBoth.1
    · rfl
  | _ => rfl

section Works

variable {w' : Floor κ} {t : TaskId} {f f' : Factory} {mode mode' : Mode State}

theorem Works.stints (hWorks : Works compiler p i j p' h h' w' t f mode f' mode') :
    p.stints i g (.work i j) p' =
      if f.id = g then [⟨p.floorOf h, f, (p.atWork? i j).isSome, w'⟩] else [] := by
  have hAfter : p'.hub? i = some h' := (hWorks.hub? i).trans (if_pos rfl)
  have hFloor : p'.floorOf h' = w' := by
    rw [floorOf, hWorks.after, hWorks.office]
  simp only [Plant.stints, hWorks.hub, hWorks.worker, hAfter, hFloor, true_and]

theorem Run.made_of_works (r : Run compiler first p) (hMove : p.move compiler (.work i j) = some p')
    (hWorks : Works compiler p i j p' h h' w' t f mode f' mode') :
    (r.next (.work i j) hMove).made i g = r.made i g ++ madeIn g (sentIn (p.floorOf h) w') := by
  rw [Run.made, r.sent_of_works hMove hWorks, madeIn_append, Run.made]

end Works

section Runs

variable {limit : Option Nat} {k : κ} {settings : List HubSettings}

/-- The failure in an inbox is what the first duplicate was refused with. -/
theorem Run.failed_inbox (r : Run compiler (founded limit k settings) p)
    (hHub : p.hub? i = some h) : (h.office.inbox g).failed = r.duplicate? i g := by
  refine r.along_hub (P := fun r h => (h.office.inbox g).failed = r.duplicate? i g) ?_ ?_ hHub
  · intro s
    rfl
  · intro p p' r m hMove h h' hHub hStir ih
    rw [duplicate?, refusals, List.find?_append, ← duplicate?, ← ih]
    cases hStir with
    | spared hSame hElsewhere =>
      rw [hSame, refusals_aside hElsewhere.spares]
      exact Option.or_none.symm
    | owned op hm hOpen hPerform =>
      rw [hm, refusals_own hHub, hPerform]
      exact Hub.failed_perform (r.orderly i h hHub) op g
    | worked j w' t f f' mode mode' hm hWorks =>
      rw [hm, refusals_aside (m := .work i j) trivial, hWorks.office]
      refine Eq.trans ?_ Option.or_none.symm
      rcases hWorks.passage.inbox_cases g with hSame | hEmptied
      · rw [hSame]
        rfl
      · rw [hEmptied]
        rfl

theorem Run.unasked (r : Run compiler (founded limit k settings) p) (hHub : p.hub? i = some h)
    (hNever : r.asksAbort i g = false) : h.pool.Unasked (·.id = g) := by
  revert hNever
  refine r.along_hub (P := fun r h => r.asksAbort i g = false → h.pool.Unasked (·.id = g)) ?_ ?_
    hHub
  · intro s _ t c hCell
    cases hCell
  · intro p p' r m hMove h h' hHub hStir ih hNever
    obtain ⟨hBefore, hNow⟩ := Bool.or_eq_false_iff.mp hNever
    cases hStir with
    | spared hSame hElsewhere =>
      rw [hSame]
      exact ih hBefore
    | owned op hm hOpen hPerform =>
      rw [hm, asksAbort_own hHub] at hNow
      rw [hPerform]
      exact Hub.unasked_perform (ih hBefore) hNow
    | worked j w' t f f' mode mode' hm hWorks => exact hWorks.unasked (ih hBefore)

/-- A move that is no step of the factory's worker leaves the standing of a factory as it is, as
long as nothing changes a sealed inbox. -/
theorem Run.Standing.aside {r : Run compiler first p} (hStanding : r.Standing i g h)
    (hMove : p.move compiler m = some p') (hStints : p.stints i g m p' = [])
    (hMade : (r.next m hMove).made i g = r.made i g)
    (hEndings : endingsIn g ((r.next m hMove).sent i) = endingsIn g (r.sent i))
    (hMembers : ∀ t f m, h'.pool.member? t = some (f, m) → f.id = g →
      h.pool.member? t = some (f, m) ∨ f.Fresh g ∧ m = .resting .start)
    (hLasts : ∀ t f m, h.pool.member? t = some (f, m) → f.id = g →
      h'.pool.member? t = some (f, m))
    (hSealed : (h.office.inbox g).Sealed → h'.office.inbox g = h.office.inbox g) :
    (r.next m hMove).Standing i g h' := by
  have hSame : (r.next m hMove).stints i g = r.stints i g := by
    rw [stints, hStints, List.append_nil]
  cases hStanding with
  | gathering hGathering hIdle hNone hCaused =>
    refine .gathering ?_ ?_ ?_ ?_
    · intro t f m hMember hId
      rcases hMembers t f m hMember hId with hOld | ⟨hFresh, rfl⟩
      · exact (hGathering t f m hOld hId).mono fun e hCauses => hCauses.next hMove
      · exact Factory.gathering_start (congrArg Factory.state hFresh)
          (congrArg Factory.point hFresh) (congrArg Factory.error hFresh)
    · rw [hSame]
      exact hIdle
    · rw [hMade]
      exact hNone
    · rw [hEndings]
      intro e he
      obtain ⟨cause, hCause, hCauses⟩ := hCaused e he
      exact ⟨cause, hCause, hCauses.next hMove⟩
  | producing hClosed t f m hMember hId hProducing =>
    refine .producing ?_ t f m (hLasts t f m hMember hId) hId hProducing
    rw [hSealed hClosed]
    exact hClosed

theorem Works.idle {w' : Floor κ} {t : TaskId} {f f' : Factory} {mode mode' : Mode State}
    (hWorks : Works compiler p i j p' h h' w' t f mode f' mode') {Caused : ForgeError → Prop}
    (hGathering : Gathering Caused f mode) : ∀ s ∈ p.stints i g (.work i j) p', s.Idle := by
  obtain ⟨hCompiler, hRegistry⟩ := hGathering.spares hWorks.passage
  intro s hMem
  rw [hWorks.stints] at hMem
  split at hMem
  · obtain rfl := List.mem_singleton.mp hMem
    refine ⟨hGathering.state, hGathering.quiet, hCompiler, fun id c hCache => ?_⟩
    rcases hRegistry with hSame | ⟨id', hAcquire⟩
    · rw [hSame]
      exact hCache
    · exact Registry.cache?_acquire hAcquire hCache
  · cases hMem

theorem Works.gathering {w' : Floor κ} {t : TaskId} {f f' : Factory} {mode mode' : Mode State}
    (r : Run compiler (founded limit k settings) p) (hMove : p.move compiler (.work i j) = some p')
    (hWorks : Works compiler p i j p' h h' w' t f mode f' mode')
    (hGathering : Gathering (r.Causes i f.id) f mode) :
    Gathering ((r.next (.work i j) hMove).Causes i f.id) f' mode' ∨
      (h'.office.inbox f.id).Sealed ∧ Producing f' mode' := by
  have hLater := hGathering.mono fun e hCauses => hCauses.next hMove
  have hStints : (r.next (.work i j) hMove).stints i f.id =
      r.stints i f.id ++ [⟨p.floorOf h, f, (p.atWork? i j).isSome, w'⟩] := by
    rw [Run.stints, hWorks.stints, if_pos rfl]
  rcases hWorks.work_or_not with ⟨hAt, rfl, lines, reply, hWork, hHeld, rfl⟩ | ⟨_, hOther⟩
  · have hFailed (e : ForgeError) (hSome : (h.office.inbox f.id).failed = some e) :
        (r.next (.work i j) hMove).Causes i f.id e := by
      rw [r.failed_inbox hWorks.hub] at hSome
      exact Run.Causes.next (.inl hSome) hMove
    have hStumbles (e : ForgeError) (hFalls : Stumbles (p.floorOf h) f e) :
        (r.next (.work i j) hMove).Causes i f.id e := by
      refine .inr (.inr ⟨⟨p.floorOf h, f, (p.atWork? i j).isSome, w'⟩, ?_, ?_, hFalls⟩)
      · rw [hStints]
        exact List.mem_append_right _ (List.mem_singleton_self _)
      · rw [hAt]
        rfl
    refine (hLater.work hWork hHeld hFailed hStumbles).imp_right ?_
    rintro ⟨hSame, hSealed, hProducing⟩
    refine ⟨?_, hProducing⟩
    rw [hWorks.office, hSame]
    exact hSealed
  · rcases hOther with ⟨rfl, rfl, rfl⟩ | ⟨hMode, hGoes⟩
    · exact .inl hLater
    · refine .inl (hLater.passage hWorks.passage hMode fun s outcome hRests hEnded => ?_)
      cases hAsked : r.asksAbort i f.id with
      | true => exact Run.Causes.next (.inr (.inl ⟨hAsked, rfl⟩)) hMove
      | false => exact absurd hEnded (hGoes (r.unasked hWorks.hub hAsked) s outcome hRests)

theorem Works.sends {w' : Floor κ} {t : TaskId} {f f' : Factory} {mode mode' : Mode State}
    (r : Run compiler (founded limit k settings) p) (hMove : p.move compiler (.work i j) = some p')
    (hWorks : Works compiler p i j p' h h' w' t f mode f' mode')
    (hGathering : Gathering (r.Causes i f.id) f mode) :
    madeIn f.id (sentIn (p.floorOf h) w') = [] ∧
      ∀ e ∈ endingsIn f.id (sentIn (p.floorOf h) w'),
        ∃ cause, e.2 = some cause ∧ (r.next (.work i j) hMove).Causes i f.id cause := by
  rcases hGathering.sentIn hWorks.passage with hNone | ⟨cause, hCauses, hEnd⟩
  · rw [hNone]
    exact ⟨rfl, List.forall_mem_nil _⟩
  · rw [hEnd, Hub.endingsIn_cons_ended]
    exact ⟨rfl, List.forall_mem_singleton.mpr ⟨cause, rfl, hCauses.next hMove⟩⟩

theorem Works.standing_gathering {w' : Floor κ} {t : TaskId} {f f' : Factory}
    {mode mode' : Mode State} (r : Run compiler (founded limit k settings) p)
    (hMove : p.move compiler (.work i j) = some p')
    (hWorks : Works compiler p i j p' h h' w' t f mode f' mode')
    (hGathering : Gathering (r.Causes i f.id) f mode)
    (hStints : ∀ s ∈ r.stints i f.id, s.Idle) (hMade : r.made i f.id = [])
    (hEndings : ∀ e ∈ endingsIn f.id (r.sent i), ∃ cause, e.2 = some cause ∧
      r.Causes i f.id cause) :
    (r.next (.work i j) hMove).Standing i f.id h' := by
  obtain ⟨hNoneMade, hCaused⟩ := hWorks.sends r hMove hGathering
  rcases hWorks.gathering r hMove hGathering with hStill | ⟨hSealed, hProducing⟩
  · refine .gathering ?_ ?_ ?_ ?_
    · intro u k m hMember hSame
      rw [hWorks.members] at hMember
      split at hMember
      · cases hMember
        exact hStill
      · next hu => exact absurd hSame (hWorks.other (r.orderly i h hWorks.hub) hu hMember)
    · exact List.forall_mem_append.mpr ⟨hStints, hWorks.idle hGathering⟩
    · rw [r.made_of_works hMove hWorks, hMade, hNoneMade, List.append_nil]
    · rw [r.sent_of_works hMove hWorks, endingsIn_append]
      refine List.forall_mem_append.mpr ⟨fun e he => ?_, hCaused⟩
      obtain ⟨cause, hCause, hCauses⟩ := hEndings e he
      exact ⟨cause, hCause, hCauses.next hMove⟩
  · exact .producing hSealed t f' mode' ((hWorks.members t).trans (if_pos rfl))
      hWorks.passage.identity.1 hProducing

theorem Works.standing_other {w' : Floor κ} {t : TaskId} {f f' : Factory} {mode mode' : Mode State}
    (r : Run compiler first p) (hMove : p.move compiler (.work i j) = some p')
    (hWorks : Works compiler p i j p' h h' w' t f mode f' mode') (hOther : f.id ≠ g)
    (hStanding : r.Standing i g h) : (r.next (.work i j) hMove).Standing i g h' := by
  obtain ⟨hMade, hEndings⟩ := hWorks.passage.sentIn_other (Ne.symm hOther)
  refine hStanding.aside hMove ?_ ?_ ?_ ?_ ?_ ?_
  · rw [hWorks.stints, if_neg hOther]
  · rw [r.made_of_works hMove hWorks, hMade, List.append_nil]
  · rw [r.sent_of_works hMove hWorks, endingsIn_append, hEndings, List.append_nil]
  · intro u k m hMember hk
    rw [hWorks.members] at hMember
    split at hMember
    · cases hMember
      exact absurd (hWorks.passage.identity.1.symm.trans hk) hOther
    · exact .inl hMember
  · intro u k m hMember hk
    rw [hWorks.members, if_neg, hMember]
    rintro rfl
    rw [hWorks.member] at hMember
    cases hMember
    exact hOther hk
  · intro hSealed
    rw [hWorks.office]
    exact hWorks.passage.sealed hSealed

theorem Works.standing {w' : Floor κ} {t : TaskId} {f f' : Factory} {mode mode' : Mode State}
    (r : Run compiler (founded limit k settings) p) (hMove : p.move compiler (.work i j) = some p')
    (hWorks : Works compiler p i j p' h h' w' t f mode f' mode')
    (hStanding : r.Standing i g h) : (r.next (.work i j) hMove).Standing i g h' := by
  by_cases hg : f.id = g
  · subst hg
    cases hStanding with
    | gathering hGathering hStints hMade hEndings =>
      exact hWorks.standing_gathering r hMove (hGathering t f mode hWorks.member rfl) hStints hMade
        hEndings
    | producing hSealed u k m hMember hSame hProducing =>
      obtain rfl :=
        (r.orderly i h hWorks.hub).distinct u t k f m mode hMember hWorks.member hSame
      rw [hWorks.member] at hMember
      cases hMember
      refine .producing ?_ u f' mode' ((hWorks.members u).trans (if_pos rfl))
        hWorks.passage.identity.1 (hProducing.passage hWorks.passage).1
      rw [hWorks.office, hWorks.passage.sealed hSealed]
      exact hSealed
  · exact hWorks.standing_other r hMove hg hStanding

theorem Run.standing (r : Run compiler (founded limit k settings) p) (hHub : p.hub? i = some h)
    (g : FactoryId) : r.Standing i g h := by
  refine r.along_hub (P := fun r h => r.Standing i g h) ?_ ?_ hHub
  · intro s
    refine .gathering ?_ ?_ rfl ?_
    · intro t f m hMember
      cases hMember
    · exact List.forall_mem_nil _
    · exact List.forall_mem_nil _
  · intro p p' r m hMove h h' hHub hStir ih
    cases hStir with
    | spared hSame hElsewhere =>
      subst hSame
      have hSent := r.sent_of_elsewhere hMove hElsewhere
      refine ih.aside hMove (stints_elsewhere hElsewhere) (by rw [made, hSent, made])
        (by rw [hSent]) ?_ ?_ fun _ => rfl
      · exact fun t f m hMember _ => .inl hMember
      · exact fun t f m hMember _ => hMember
    | owned op hm hOpen hPerform =>
      subst hm hPerform
      have hOrderly := r.orderly i h hHub
      have hSent := r.sent_of_quiet hMove rfl i
      refine ih.aside hMove rfl (by rw [made, hSent, made]) (by rw [hSent]) ?_ ?_ ?_
      · rintro t f m hMember rfl
        refine (Hub.member_perform hOrderly op hMember).imp_right ?_
        exact fun ⟨hNew, hMode⟩ => ⟨hOrderly.fresh f.id f hNew, hMode⟩
      · exact fun t f m hMember _ => Hub.member_lasts hOrderly op hMember
      · intro hSealed
        rw [Hub.perform_inbox hOrderly]
        exact hSealed.acceptAll _
    | worked j w' t f f' mode mode' hm hWorks =>
      subst hm
      exact hWorks.standing r hMove ih

/-- A factory that has gone on to generate keeps its inbox, and its axes until it is told that it
has come to its end, whatever happens. -/
theorem Run.producing_lasts (s : Run compiler p p') (hKept : p.Kept) (hHub : p.hub? i = some h)
    {t : TaskId} {f : Factory} {m : Mode State} (hMember : h.pool.member? t = some (f, m))
    (hSealed : (h.office.inbox f.id).Sealed) (hProducing : Producing f m) :
    p'.Has i fun h' => h'.office.inbox f.id = h.office.inbox f.id ∧
      ∃ f' m', h'.pool.member? t = some (f', m') ∧ f'.id = f.id ∧ Producing f' m' ∧
        (f'.axes = f.axes ∨ m' = .leaving ∨ m' = .left) := by
  refine (s.preserves hKept (A := fun _ => True) (fun _ _ => trivial) ?_ ?_ ⟨h, hHub, ?_⟩).2
  · rintro h₁ op hOrderly _ _ ⟨hInbox, f', m', hMember', hRest⟩
    refine ⟨?_, f', m', Hub.member_lasts hOrderly op hMember', hRest⟩
    rw [Hub.perform_inbox hOrderly, hInbox]
    exact hSealed.acceptAll _
  · rintro p₁ p₂ j h₁ h₂ w' u k k' mode mode' hWorks ⟨hInbox, f', m', hMember', hId, hStill, hAxes⟩
    have hUnchanged : h₂.office.inbox f.id = h.office.inbox f.id := by
      rw [hWorks.office, ← hInbox]
      exact hWorks.passage.sealed (hInbox.symm ▸ hSealed)
    refine ⟨hUnchanged, ?_⟩
    rw [hWorks.members]
    by_cases hu : t = u
    · subst hu
      rw [hWorks.member] at hMember'
      cases hMember'
      obtain ⟨hNext, hNow⟩ := hStill.passage hWorks.passage
      refine ⟨k', mode', if_pos rfl, hWorks.passage.identity.1.trans hId, hNext, ?_⟩
      rcases hAxes with hSame | hGone
      · exact hNow.imp_left fun hKeeps => hKeeps.trans hSame
      · exact .inr (hWorks.passage.leaves hGone)
    · exact ⟨f', m', (if_neg hu).trans hMember', hId, hStill, hAxes⟩
  · exact ⟨rfl, f, m, hMember, rfl, hProducing, .inl rfl⟩

/-- Over the whole run, a factory called no compiler, left all caches as they were, and sent no
pipeline; it is in no state that generates and does not go on to one; and if it has come to its
end, the end is a failure that has a cause. -/
structure Run.Doomed (r : Run compiler first p) (i : Nat) (g : FactoryId) (h : Hub) : Prop where
  idle : ∀ s ∈ r.stints i g, s.Idle
  made : r.made i g = []
  state : ∀ t f m, h.pool.member? t = some (f, m) → f.id = g →
    f.state.listens = true ∧ ∀ s, m = .resting s → s.listens = true
  told : ∀ t f m failure, h.pool.member? t = some (f, m) → f.id = g →
    f.point = .reporting failure → ∃ cause, failure = some cause ∧ r.Causes i g cause
  ended : ∀ report failure cache, Event.ended g report failure cache ∈ r.sent i →
    ∃ cause, failure = some cause ∧ r.Causes i g cause

/-- Whatever happens next, registering with a factory is refused as late and changes nothing; its
inbox stays as it is, and so do its axes until its task is told that it has come to its end. -/
def Settled (compiler : Compiler κ) (p : Plant κ) (i : Nat) (t : TaskId) (f : Factory) (h : Hub) :
    Prop :=
  ∀ q, Nonempty (Run compiler p q) → q.Has i fun h' =>
    h'.office.inbox f.id = h.office.inbox f.id ∧
    (∀ c, (h'.entry? f.id).isSome = true →
      h'.add f.id c = (h', some (.lateRegistration c.name))) ∧
    ∃ f' m', h'.pool.member? t = some (f', m') ∧ f'.id = f.id ∧
      (f'.axes = f.axes ∨ m' = .leaving ∨ m' = .left)

/-- In every run, a factory of which a characteristic was refused as a duplicate, whenever that
was, never generates anything, and can only come to its end with a failure: with the first
duplicate, unless it was asked to abort or stumbled first. A factory that has entered the state in
which it generates takes no characteristics any more. -/
theorem duplicate_dooms (r : Run compiler (founded limit k settings) p)
    (hHub : p.hub? i = some h) (g : FactoryId) :
    (∀ name, ForgeError.duplicateRegistration name ∈ r.refusals i g →
      (∃ e, r.duplicate? i g = some e) ∧ r.Doomed i g h) ∧
    ∀ t f m, h.pool.member? t = some (f, m) → f.id = g → f.state.listens = false →
      p.Settled compiler i t f h := by
  have hStanding := r.standing hHub g
  constructor
  · intro name hMem
    have hSome : ∃ e, r.duplicate? i g = some e :=
      Option.isSome_iff_exists.mp (List.find?_isSome.mpr ⟨_, hMem, rfl⟩)
    refine ⟨hSome, ?_⟩
    cases hStanding with
    | gathering hGathering hIdle hMade hEndings =>
      refine ⟨hIdle, hMade, ?_, ?_, ?_⟩
      · intro t f m hMember hId
        exact ⟨(hGathering t f m hMember hId).state, (hGathering t f m hMember hId).next⟩
      · intro t f m failure hMember hId hPoint
        exact (hGathering t f m hMember hId).told failure hPoint
      · intro report failure cache hEnded
        exact hEndings (report, failure) (Factory.mem_endingsIn.mpr ⟨cache, hEnded⟩)
    | producing hSealed t f m hMember hId hProducing =>
      -- A sealed inbox holds no failure, so nothing was refused as a duplicate.
      obtain ⟨e, hSome⟩ := hSome
      rw [← r.failed_inbox hHub, hSealed.sound] at hSome
      cases hSome
  · rintro t f m hMember rfl hState q ⟨s⟩
    cases hStanding with
    | gathering hGathering hIdle hMade hEndings =>
      rw [(hGathering t f m hMember rfl).state] at hState
      cases hState
    | producing hSealed u f' m' hMember' hId hProducing =>
      obtain rfl := (r.orderly i h hHub).distinct u t f' f m' m hMember' hMember hId
      rw [hMember] at hMember'
      cases hMember'
      obtain ⟨h', hAfter, hInbox, f', m', hLater, hSame, _, hAxes⟩ :=
        s.producing_lasts ⟨r.orderly, r.booked⟩ hHub hMember hSealed hProducing
      refine ⟨h', hAfter, hInbox, fun c hKnown => ?_, f', m', hLater, hSame, hAxes⟩
      exact Hub.add_sealed (hInbox.symm ▸ hSealed) hKnown c

end Runs

def samples : Characteristic := .ofFill "samples" ⟨2, 4, by decide⟩ (Standard.fillConstant 1 0)

/-- A run in which one factory generates and another one gets a duplicate while it gathers. -/
def doomedRun : (p : Plant Device) × Run Device.compiler (founded none {} [{}]) p :=
  Run.start.along
    ([.own 0 .createSlot,
      .own 0 (.createFactory "lit" "main" 0), .own 0 (.register 0 samples),
      .own 0 (.closeInbox 0), .own 0 (.start 0)] ++ List.replicate 12 (.work 0 0) ++
    [.own 0 (.createFactory "twice" "main" 0), .own 0 (.register 1 samples), .own 0 (.start 1),
      .work 0 1, .work 0 1, .work 0 1, .own 0 (.register 1 samples)] ++
    List.replicate 7 (.work 0 1))

theorem duplicate_dooms_twice :
    ∃ h, doomedRun.1.hub? 0 = some h ∧
      ForgeError.duplicateRegistration "samples" ∈ doomedRun.2.refusals 0 1 ∧
      doomedRun.2.Doomed 0 1 h ∧
      (∃ report cache, Event.ended 1 report (some (.duplicateRegistration "samples")) cache ∈
        doomedRun.2.sent 0) ∧
      ∃ f m, h.pool.member? 0 = some (f, m) ∧ f.state = .generate ∧ f.axes.length = 1 ∧
        doomedRun.1.Settled Device.compiler 0 0 f h := by
  have hGenerates : ((doomedRun.1.hub? 0).bind fun h => (h.pool.member? 0).map fun x =>
      (x.1.id, x.1.state, x.1.axes.length)) = some (0, .generate, 1) := by decide +kernel
  have hRefused : ForgeError.duplicateRegistration "samples" ∈ doomedRun.2.refusals 0 1 := by
    decide +kernel
  have hEnded : Event.ended 1 ⟨[.start, .setUp], 0, 0, 0⟩
      (some (.duplicateRegistration "samples")) (some 0) ∈ doomedRun.2.sent 0 := by
    decide +kernel
  obtain ⟨h, hHub, hMember⟩ := Option.bind_eq_some_iff.mp hGenerates
  obtain ⟨⟨f, m⟩, hMember, hSame⟩ := Option.map_eq_some_iff.mp hMember
  obtain ⟨hId, hState, hAxes⟩ : f.id = 0 ∧ f.state = .generate ∧ f.axes.length = 1 := by
    simpa using hSame
  have hSettled := (duplicate_dooms doomedRun.2 hHub 0).2 0 f m hMember hId (by rw [hState]; rfl)
  exact ⟨h, hHub, hRefused, ((duplicate_dooms doomedRun.2 hHub 1).1 "samples" hRefused).2,
    ⟨_, _, hEnded⟩, f, m, hMember, hState, hAxes, hSettled⟩

end Plant

end PipelineForge
