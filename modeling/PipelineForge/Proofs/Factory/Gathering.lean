import PipelineForge.Proofs.Factory.Inboxes

/-!
# Factories that gather their axes

Until a factory goes on to generate, it looks at its inbox in every state, and touches no compiler
and no cache but for getting its own. When it goes on, its inbox is sealed: the registration is
closed, nothing waits in it, and it holds no failure. A sealed inbox stays as it is. What a factory
generates, and in which order, makes no difference here.
-/

namespace PipelineForge

def ForgeError.isDuplicate : ForgeError → Bool
  | duplicateRegistration _ => true
  | _ => false

namespace Factory

open Tasks (Mode Outcome Reply)

/-- Nothing that is posted to the inbox changes it any more. -/
structure Inbox.Sealed (i : Inbox) : Prop where
  closed : i.closed = true
  empty : i.pending = []
  sound : i.failed = none

namespace Inbox

variable {i : Inbox}

theorem Sealed.register (h : i.Sealed) (c : Characteristic) : i.register c = (i, .late) := by
  rw [Inbox.register, if_pos h.closed]

theorem Sealed.takeAll (h : i.Sealed) : i.takeAll.1 = i := by
  rw [Inbox.takeAll, ← h.empty]

theorem Sealed.accept (h : i.Sealed) (post : Post) : i.accept post = i := by
  cases post with
  | register c => exact congrArg Prod.fst (h.register c)
  | close =>
    change i.close = i
    rw [Inbox.close, ← h.closed]

theorem Sealed.acceptAll (h : i.Sealed) (posts : List Post) : posts.foldl Inbox.accept i = i := by
  induction posts with
  | nil => rfl
  | cons post posts ih => rw [List.foldl_cons, h.accept, ih]

theorem failed_register (i : Inbox) (c : Characteristic) :
    (i.register c).1.failed =
      i.failed.or (((i.register c).2.refusal c.name).toList.find? ForgeError.isDuplicate) := by
  rw [Inbox.register]
  split
  · exact (Option.or_none).symm
  split
  · rfl
  · exact (Option.or_none).symm

end Inbox

/-- Whether nothing is looked up, compiled, stored or sent at a point, unless a state begins there
that generates. -/
def Point.isQuiet : Point → Bool
  | .ordering _ | .compiling _ _ | .storing _ _ | .discarding _ _ | .handingOff _ => false
  | _ => true

variable {κ : Type} {compiler : Compiler κ} {hub : Nat} {w w' : Floor κ} {f f' : Factory}
  {mode mode' : Mode State} {reply : Reply State}

/-- What ends a factory with an error while it gathers, its inbox apart: it does not get its cache,
or a characteristic fails or breaks while it is set up and the inbox shows no failure. -/
inductive Stumbles (w : Floor κ) (f : Factory) : ForgeError → Prop where
  | unacquired (e : ForgeError) (hPoint : f.point = .acquiring)
      (hAcquire : w.registry.acquire f.cacheName = .error e) : Stumbles w f e
  | unequipped (e : ForgeError) (hPoint : f.point = .entering) (hState : f.state = .setUp)
      (hUnseen : (w.office.inbox f.id).failed = none)
      (hSetup : (settingUp w f).2.2 = some (.error e)) : Stumbles w f e
  | broken (x : Fault) (hPoint : f.point = .entering) (hState : f.state = .setUp)
      (hUnseen : (w.office.inbox f.id).failed = none)
      (hSetup : (settingUp w f).2.2 = some (.fault x)) : Stumbles w f .aborted

/-- A factory that has not gone on to generate. If it comes to an end, the end is a failure that
has a cause. -/
structure Gathering (Caused : ForgeError → Prop) (f : Factory) (mode : Mode State) : Prop where
  state : f.state.listens = true
  next : ∀ s, mode = .resting s → s.listens = true
  quiet : f.point.isQuiet = true
  working : mode = .working → f.point = .entering ∨ f.point = .acquiring
  error : ∀ e, f.error = some e → Caused e
  ended : ∀ outcome, mode = .ended outcome → ∃ e, f.failureOf outcome = some e ∧ Caused e
  told : ∀ failure, f.point = .reporting failure → ∃ e, failure = some e ∧ Caused e

/-- A factory that has gone on to generate, and does not go back. -/
structure Producing (f : Factory) (mode : Mode State) : Prop where
  next : ∀ s, mode = .resting s → s.listens = false
  state : mode = .working → f.state.listens = false
  point : mode = .working → f.point ≠ .acquiring

theorem Gathering.mono {Caused More : ForgeError → Prop} (h : Gathering Caused f mode)
    (hMore : ∀ e, Caused e → More e) : Gathering More f mode := by
  constructor
  · exact h.state
  · exact h.next
  · exact h.quiet
  · exact h.working
  · exact fun e hError => hMore e (h.error e hError)
  · intro outcome hMode
    obtain ⟨e, hFailure, hCaused⟩ := h.ended outcome hMode
    exact ⟨e, hFailure, hMore e hCaused⟩
  · intro failure hPoint
    obtain ⟨e, hFailure, hCaused⟩ := h.told failure hPoint
    exact ⟨e, hFailure, hMore e hCaused⟩

theorem producing_ended (f : Factory) (outcome : Outcome) : Producing f (.ended outcome) :=
  ⟨nofun, nofun, nofun⟩

section Gathering

variable {Caused : ForgeError → Prop}

theorem gathering_start (hState : f.state = .start) (hPoint : f.point = .resting)
    (hError : f.error = none) : Gathering Caused f (.resting .start) := by
  constructor
  · rw [hState]
    rfl
  · rintro s ⟨⟩
    rfl
  · rw [hPoint]
    rfl
  · exact nofun
  · rw [hError]
    exact nofun
  · exact nofun
  · rw [hPoint]
    exact nofun

theorem failureOf_aborted (hError : ∀ e, f.error = some e → Caused e)
    (hAborted : f.error = none → Caused .aborted) :
    ∃ e, f.failureOf .aborted = some e ∧ Caused e := by
  rw [failureOf]
  cases hSome : f.error with
  | none => exact ⟨.aborted, rfl, hAborted hSome⟩
  | some e => exact ⟨e, rfl, hError e hSome⟩

theorem Gathering.failing (h : Gathering Caused f mode) {e : ForgeError} (hCaused : Caused e)
    (hState : f'.state = f.state) (hPoint : f'.point = .resting) (hError : f'.error = some e) :
    Gathering Caused f' (.ended .aborted) := by
  constructor
  · rw [hState]
    exact h.state
  · exact nofun
  · rw [hPoint]
    rfl
  · exact nofun
  · rw [hError]
    rintro _ ⟨⟩
    exact hCaused
  · rintro _ ⟨⟩
    exact ⟨e, by rw [failureOf, hError]; rfl, hCaused⟩
  · rw [hPoint]
    exact nofun

theorem Gathering.rested (h : Gathering Caused f mode) {s : State} (hNext : s.listens = true)
    (hId : f'.state = f.state) (hPoint : f'.point = .resting) (hError : f'.error = f.error) :
    Gathering Caused f' (.resting s) := by
  constructor
  · rw [hId]
    exact h.state
  · rintro _ ⟨⟩
    exact hNext
  · rw [hPoint]
    rfl
  · exact nofun
  · rw [hError]
    exact h.error
  · exact nofun
  · rw [hPoint]
    exact nofun

theorem Gathering.faulted (h : Gathering Caused f .working) (hState : f'.state = f.state)
    (hPoint : f'.point = f.point) (hError : f'.error = f.error) (hCaused : Caused .aborted) :
    Gathering Caused f' (.ended .aborted) := by
  constructor
  · rw [hState]
    exact h.state
  · exact nofun
  · rw [hPoint]
    exact h.quiet
  · exact nofun
  · rw [hError]
    exact h.error
  · rintro _ ⟨⟩
    exact failureOf_aborted (hError ▸ h.error) fun _ => hCaused
  · rw [hPoint]
    exact h.told

/-- A turn of a factory that gathers. If the inbox shows no failure to it, the factory gathers on,
or the inbox is sealed. -/
theorem Turn.gathering (h : Turn compiler hub w f w' f' reply)
    (hGathering : Gathering Caused f .working)
    (hUnseen : f.point = .entering → (w.office.inbox f.id).failed = none)
    (hStumbles : ∀ e, Stumbles w f e → Caused e) :
    Gathering Caused f' reply.mode ∨
      w' = w ∧ (w.office.inbox f.id).Sealed ∧ Producing f' reply.mode := by
  have hListens {s : State} (hState : f.state = s) : s.listens = true := hState ▸ hGathering.state
  have hQuiet {point : Point} (hPoint : f.point = point) : point.isQuiet = true :=
    hPoint ▸ hGathering.quiet
  have hWorks {point : Point} (hPoint : f.point = point) :
      point = .entering ∨ point = .acquiring := hPoint ▸ hGathering.working rfl
  cases h with
  | doomed e hPoint hState hFailed =>
    rw [hUnseen hPoint] at hFailed
    cases hFailed
  | started hPoint hState =>
    refine .inl ⟨hGathering.state, ?_, rfl, fun _ => .inr rfl, hGathering.error, ?_, ?_⟩
    · rintro s ⟨⟩
    · rintro outcome ⟨⟩
    · rintro failure ⟨⟩
  | equipped | again | waiting | acquired => exact .inl (hGathering.rested rfl rfl rfl rfl)
  | unequipped e hPoint hState hSetup =>
    have hCaused := hStumbles e (.unequipped e hPoint hState (hUnseen hPoint) hSetup)
    exact .inl (hGathering.failing hCaused rfl rfl rfl)
  | broken x hPoint hState hSetup =>
    exact .inl (hGathering.faulted rfl rfl rfl
      (hStumbles _ (.broken x hPoint hState (hUnseen hPoint) hSetup)))
  | tooWide _ hPoint _ _ hPending hClosed | tooMany _ hPoint _ _ hPending hClosed =>
    exact .inr ⟨rfl, ⟨hClosed, hPending, hUnseen hPoint⟩, producing_ended _ _⟩
  | planned packing hPoint hState hPending hClosed hPacking hCount =>
    refine .inr ⟨rfl, ⟨hClosed, hPending, hUnseen hPoint⟩, ?_, ?_, ?_⟩
    · rintro s ⟨⟩
      rfl
    · rintro ⟨⟩
    · rintro ⟨⟩
  | unacquired e hPoint hAcquire =>
    exact .inl (hGathering.failing (hStumbles e (.unacquired e hPoint hAcquire)) rfl rfl rfl)
  | unplanned _ hState | exhausted _ _ hState | unfilled _ _ _ hState | misfilled _ _ hState
  | evicted _ _ hState | hit _ _ _ _ _ _ hState | missed _ _ _ _ _ hState | finished _ hState =>
    cases hListens hState
  | ordered _ _ _ hPoint | built _ _ _ _ _ hPoint | refused _ _ _ _ _ hPoint
  | crashed _ _ _ _ _ hPoint | unstored _ _ hPoint | stored _ _ _ _ hPoint
  | outrun _ _ _ _ _ hPoint | discarded _ _ hPoint | sent _ hPoint | unsent _ hPoint =>
    cases hQuiet hPoint
  | idle hPoint =>
    rcases hPoint with hPoint | ⟨failure, hPoint⟩ | hPoint
    · rcases hWorks hPoint with hSame | hSame <;> cases hSame
    · rcases hWorks hPoint with hSame | hSame <;> cases hSame
    · rcases hWorks hPoint with hSame | hSame <;> cases hSame

theorem work_doomed {e : ForgeError} (hPoint : f.point = .entering)
    (hState : f.state.listens = true) (hFailed : (w.office.inbox f.id).failed = some e) :
    work compiler hub w f = fail w f e := by
  have hUnless (next : Inbox → Piece κ) : unlessFailed w f next = fail w f e := by
    simp only [unlessFailed, hFailed]
  simp only [work, hPoint]
  rw [begin]
  split
  · exact hUnless _
  · exact hUnless _
  · exact hUnless _
  · next hGenerate =>
    rw [hGenerate] at hState
    cases hState
  · next hDone =>
    rw [hDone] at hState
    cases hState

theorem Gathering.work (h : Gathering Caused f .working) {lines : List Log.Line}
    (hWork : work compiler hub w f = (w', f', lines, reply)) (hHeld : reply ≠ .held)
    (hFailed : ∀ e, (w.office.inbox f.id).failed = some e → Caused e)
    (hStumbles : ∀ e, Stumbles w f e → Caused e) :
    Gathering Caused f' reply.mode ∨
      w' = w ∧ (w.office.inbox f.id).Sealed ∧ Producing f' reply.mode := by
  by_cases hUnseen : f.point = .entering → (w.office.inbox f.id).failed = none
  · exact (work_cases hWork hHeld).gathering h hUnseen hStumbles
  · obtain ⟨hPoint, hSome⟩ := Classical.not_imp.mp hUnseen
    obtain ⟨e, hSome⟩ := Option.ne_none_iff_exists'.mp hSome
    rw [work_doomed hPoint h.state hSome] at hWork
    cases hWork
    exact .inl (h.failing (hFailed e hSome) rfl rfl rfl)

/-- What a factory that gathers does between the pieces of its work. -/
theorem Gathering.passage (h : Gathering Caused f mode)
    (hPassage : Passage compiler hub w f mode w' f' mode') (hMode : mode ≠ .working)
    (hStopped : ∀ s outcome, mode = .resting s → mode' = .ended outcome → Caused .aborted) :
    Gathering Caused f' mode' := by
  cases hPassage with
  | still => exact h
  | turned hTurn => exact absurd rfl hMode
  | entered s =>
    refine ⟨h.next s rfl, ?_, rfl, fun _ => .inl rfl, h.error, ?_, ?_⟩
    · rintro s ⟨⟩
    · rintro outcome ⟨⟩
    · rintro failure ⟨⟩
  | stopped s =>
    refine ⟨h.state, ?_, h.quiet, ?_, h.error, ?_, h.told⟩
    · rintro s ⟨⟩
    · rintro ⟨⟩
    · rintro outcome ⟨⟩
      exact failureOf_aborted h.error fun _ => hStopped s .aborted rfl rfl
  | told outcome =>
    refine ⟨h.state, ?_, rfl, ?_, ?_, ?_, ?_⟩
    · rintro s ⟨⟩
    · rintro ⟨⟩
    · rintro e ⟨⟩
    · rintro outcome ⟨⟩
    · rintro failure ⟨⟩
      exact h.ended outcome rfl
  | reported failure hPoint =>
    refine ⟨h.state, ?_, rfl, ?_, h.error, ?_, ?_⟩
    · rintro s ⟨⟩
    · rintro ⟨⟩
    · rintro outcome ⟨⟩
    · rintro failure ⟨⟩
  | signedOff hPoint =>
    refine ⟨h.state, ?_, rfl, ?_, h.error, ?_, ?_⟩
    · rintro s ⟨⟩
    · rintro ⟨⟩
    · rintro outcome ⟨⟩
    · rintro failure ⟨⟩

/-- A factory that gathers calls no compiler and touches the registry only to get its cache. -/
theorem Gathering.spares (h : Gathering Caused f mode)
    (hPassage : Passage compiler hub w f mode w' f' mode') : w'.compiler = w.compiler ∧
      (w'.registry = w.registry ∨
        ∃ id, w.registry.acquire f.cacheName = .ok (w'.registry, id)) := by
  have hListens {s : State} (hState : f.state = s) : s.listens = true := hState ▸ h.state
  have hQuiet {point : Point} (hPoint : f.point = point) : point.isQuiet = true :=
    hPoint ▸ h.quiet
  cases hPassage with
  | turned hTurn =>
    cases hTurn with
    | acquired registry id hPoint hAcquire => exact ⟨rfl, .inr ⟨id, hAcquire⟩⟩
    | hit _ _ _ _ _ _ hState | missed _ _ _ _ _ hState => cases hListens hState
    | ordered _ _ _ hPoint | built _ _ _ _ _ hPoint | refused _ _ _ _ _ hPoint
    | crashed _ _ _ _ _ hPoint | stored _ _ _ _ hPoint | outrun _ _ _ _ _ hPoint
    | discarded _ _ hPoint => cases hQuiet hPoint
    | _ => exact ⟨rfl, .inl rfl⟩
  | _ => exact ⟨rfl, .inl rfl⟩

theorem Gathering.sentIn (h : Gathering Caused f mode)
    (hPassage : Passage compiler hub w f mode w' f' mode') : sentIn w w' = [] ∨
      ∃ e, Caused e ∧ sentIn w w' = [.ended f.id f.report (some e) f.cache] := by
  rcases hPassage.sentIn_cases with hNone | ⟨p, hPoint, _, _⟩ | ⟨failure, hPoint, _, _, _, hSent⟩
  · exact .inl hNone
  · have hQuiet := h.quiet
    rw [hPoint] at hQuiet
    cases hQuiet
  · obtain ⟨e, rfl, hCaused⟩ := h.told failure hPoint
    exact .inr ⟨e, hCaused, hSent⟩

end Gathering

section Producing

/-- A turn of a factory that has gone on to generate. -/
theorem Turn.producing (h : Turn compiler hub w f w' f' reply) (hProducing : Producing f .working) :
    Producing f' reply.mode ∧ f'.axes = f.axes := by
  have hDeaf {s : State} (hState : f.state = s) : s.listens = false :=
    hState ▸ hProducing.state rfl
  have hRests {g : Factory} {s : State} (hNext : s.listens = false) :
      Producing g (.resting s) := by
    refine ⟨?_, ?_, ?_⟩
    · rintro s ⟨⟩
      exact hNext
    · rintro ⟨⟩
    · rintro ⟨⟩
  have hGoesOn {point : Point} (hOther : point ≠ .acquiring) {g : Factory}
      (hState : g.state = f.state) (hPoint : g.point = point) : Producing g .working := by
    refine ⟨?_, fun _ => hState ▸ hProducing.state rfl, fun _ => hPoint ▸ hOther⟩
    rintro s ⟨⟩
  cases h with
  | doomed e hPoint hState hFailed =>
    rw [hProducing.state rfl] at hState
    cases hState
  | started _ hState | equipped _ hState | unequipped _ _ hState | broken _ _ hState
  | again _ hState | waiting _ hState | tooWide _ _ hState | tooMany _ _ hState
  | planned _ _ hState =>
    cases hDeaf hState
  | unacquired _ hPoint | acquired _ _ hPoint => exact absurd hPoint (hProducing.point rfl)
  | unplanned | exhausted | sent => exact ⟨hRests rfl, rfl⟩
  | hit | missed | ordered | built | stored | outrun | discarded =>
    refine ⟨hGoesOn ?_ rfl rfl, rfl⟩
    rintro ⟨⟩
  | _ => exact ⟨producing_ended _ _, rfl⟩

/-- A factory that has gone on to generate keeps its axes until it is told that it has come to
its end. -/
theorem Producing.passage (h : Producing f mode)
    (hPassage : Passage compiler hub w f mode w' f' mode') : Producing f' mode' ∧
      (f'.axes = f.axes ∨ mode' = .leaving ∨ mode' = .left) := by
  have hGone {g : Factory} {m : Mode State} (hMode : m = .leaving ∨ m = .left) :
      Producing g m := by
    rcases hMode with rfl | rfl
    · exact ⟨nofun, nofun, nofun⟩
    · exact ⟨nofun, nofun, nofun⟩
  cases hPassage with
  | still => exact ⟨h, .inl rfl⟩
  | entered s =>
    refine ⟨⟨?_, fun _ => h.next s rfl, fun _ => ?_⟩, .inl rfl⟩
    · rintro s ⟨⟩
    · rintro ⟨⟩
  | stopped s => exact ⟨producing_ended _ _, .inl rfl⟩
  | turned hTurn =>
    obtain ⟨hProducing, hAxes⟩ := hTurn.producing h
    exact ⟨hProducing, .inl hAxes⟩
  | told outcome => exact ⟨hGone (.inl rfl), .inr (.inl rfl)⟩
  | reported failure hPoint => exact ⟨hGone (.inl rfl), .inl rfl⟩
  | signedOff hPoint => exact ⟨hGone (.inr rfl), .inl rfl⟩

end Producing

theorem Passage.leaves (h : Passage compiler hub w f mode w' f' mode')
    (hMode : mode = .leaving ∨ mode = .left) : mode' = .leaving ∨ mode' = .left := by
  cases h with
  | still => exact hMode
  | reported failure hPoint => exact .inl rfl
  | signedOff hPoint => exact .inr rfl
  | _ => rcases hMode with hMode | hMode <;> cases hMode

theorem Passage.sealed (h : Passage compiler hub w f mode w' f' mode') {g : FactoryId}
    (hSealed : (w.office.inbox g).Sealed) : w'.office.inbox g = w.office.inbox g := by
  rcases h.inbox_cases g with hSame | hEmptied
  · exact hSame
  · exact hEmptied.trans hSealed.takeAll

end Factory

end PipelineForge
