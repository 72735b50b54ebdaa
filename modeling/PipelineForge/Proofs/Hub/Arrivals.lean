import PipelineForge.Proofs.Factory.Adherence
import PipelineForge.Proofs.Hub.Partings
import PipelineForge.Proofs.Hub.Vigilance
import PipelineForge.Proofs.Tasks.Requests

/-!
# Arrivals of axes

What a factory builds does not depend on when its axes arrive. In every run in which a factory is
sent some axes with different names and then the end of the registration, it runs the course of
these axes, wherever its start stands between the calls and however the workers come in. That a
factory ends at all is not said here.
-/

namespace PipelineForge

open Axis (Packing tuples)
open Factory (Adheres Deed Event Floor Inbox Post Proceeds Report Setting State Turn combinations
  course endingsIn endingsIn_append postings sentIn setups)
open Tasks (Mode Reply TaskId)

namespace Factory

theorem Passage.setting {κ : Type} {compiler : Compiler κ} {hub : Nat} {w w' : Floor κ}
    {f f' : Factory} {mode mode' : Mode State} (h : Passage compiler hub w f mode w' f' mode') :
    f'.setting = f.setting := by
  cases h with
  | turned hTurn => cases hTurn <;> rfl
  | _ => rfl

theorem Fresh.adheres {key : FactoryId} {f : Factory} (hFresh : f.Fresh key) {inbox : Inbox}
    {posts : List Post} (hTook : inbox.Took [] posts) (cs : List Characteristic) :
    Adheres f.setting cs posts f inbox [] [] (.resting .start) := by
  rw [hFresh]
  exact ⟨rfl, rfl, rfl, rfl, rfl, rfl, hTook⟩

end Factory

namespace Hub

variable {h h' : Hub} {setting : Setting} {cs : List Characteristic} {f : FactoryId}
  {posts : List Post} {done : List Deed} {endings : List (Report × Option ForgeError)}

/-- A factory of the hub keeps to its course, and has done nothing as long as it is not started. -/
structure Staged (h : Hub) (setting : Setting) (cs : List Characteristic) (f : FactoryId)
    (posts : List Post) (done : List Deed) (endings : List (Report × Option ForgeError)) :
    Prop where
  unasked : h.pool.Unasked (·.id = f)
  started : ∀ t g m, h.pool.member? t = some (g, m) → g.id = f → g.setting = setting →
    Adheres setting cs posts g (h.office.inbox f) done endings m
  unstarted : (∀ t g m, h.pool.member? t = some (g, m) → g.id ≠ f) →
    done = [] ∧ endings = [] ∧ (h.office.inbox f).Took [] posts

theorem staged_initial (settings : HubSettings) (setting : Setting) (cs : List Characteristic)
    (f : FactoryId) : ({ settings } : Hub).Staged setting cs f [] [] [] := by
  constructor
  · intro t c hCell
    cases hCell
  · intro t g m hMember
    cases hMember
  · exact fun _ => ⟨rfl, rfl, Factory.took_empty⟩

/-- The operation asks a factory to abort that has been started. -/
def Op.aborts (h : Hub) (f : FactoryId) (op : Op) : Bool :=
  match op.call? h with
  | some (.abort t) => (h.pool.cell? t).any fun c => c.body.id = f
  | _ => false

theorem unasked_perform (hUnasked : h.pool.Unasked (·.id = f)) {op : Op}
    (hSpares : op.aborts h f = false) : (h.perform op).pool.Unasked (·.id = f) := by
  rcases h.perform_pool op with ⟨_, factory, hPool⟩ | hPool
  · rw [hPool]
    exact hUnasked.run factory .start
  · cases hCall : op.call? h with
    | none =>
      rw [hCall] at hPool
      rw [hPool]
      exact hUnasked
    | some request =>
      rw [hCall] at hPool
      rw [hPool]
      refine hUnasked.ask fun t c hRequest hCell hId => ?_
      have hId : c.body.id = f := hId
      simp [Op.aborts, hCall, hRequest, hCell, hId] at hSpares

section Posts

variable {more : List Post} (hUnasked : h'.pool.Unasked (·.id = f))
  (hInbox : h'.office.inbox f = more.foldl Inbox.accept (h.office.inbox f))
  (hNames : (cs.map Characteristic.name).Nodup) (hPosts : posts ++ more <+: postings cs)

include hUnasked hInbox hNames hPosts

theorem Staged.of_members (hStaged : h.Staged setting cs f posts done endings)
    (hMembers : ∀ t, h'.pool.member? t = h.pool.member? t) :
    h'.Staged setting cs f (posts ++ more) done endings := by
  refine ⟨hUnasked, ?_, ?_⟩
  · intro t g m hMember hId hSetting
    rw [hInbox]
    rw [hMembers] at hMember
    exact (hStaged.started t g m hMember hId hSetting).post hNames hPosts
  · intro hNone
    obtain ⟨hDone, hEndings, hTook⟩ := hStaged.unstarted fun t g m hMember =>
      hNone t g m ((hMembers t).trans hMember)
    rw [hInbox]
    exact ⟨hDone, hEndings, hTook.acceptAll hNames hPosts⟩

theorem Staged.start (hStaged : h.Staged setting cs f posts done endings) (hOrderly : h.Orderly)
    {key : FactoryId} {g : Factory} (hFactory : h.pending? key = some g)
    (hMembers : ∀ t : Nat, h'.pool.member? t =
      if t = h.pool.bodies.length then some (g, .resting .start) else h.pool.member? t) :
    h'.Staged setting cs f (posts ++ more) done endings := by
  have hFresh := hOrderly.fresh key g hFactory
  refine ⟨hUnasked, ?_, ?_⟩
  · intro t k m hMember hId hSetting
    rw [hInbox]
    rw [hMembers] at hMember
    split at hMember
    · cases hMember
      have hKey : key = f := by
        rw [← hId, hFresh]
      subst hKey
      -- Until now the factory was in no task, so nothing was taken out of its inbox.
      obtain ⟨rfl, rfl, hTook⟩ := hStaged.unstarted fun u k m hOther =>
        hOrderly.apart key g u k m hFactory hOther
      exact hSetting ▸ hFresh.adheres (hTook.acceptAll hNames hPosts) cs
    · exact (hStaged.started t k m hMember hId hSetting).post hNames hPosts
  · intro hNone
    obtain ⟨hDone, hEndings, hTook⟩ := hStaged.unstarted fun t k m hMember =>
      hNone t k m <| by
        rw [hMembers, if_neg (Nat.ne_of_lt (member?_lt hMember))]
        exact hMember
    rw [hInbox]
    exact ⟨hDone, hEndings, hTook.acceptAll hNames hPosts⟩

end Posts

theorem staged_perform (hStaged : h.Staged setting cs f posts done endings)
    (hOrderly : h.Orderly) (hNames : (cs.map Characteristic.name).Nodup) {op : Op}
    (hPosts : posts ++ op.posts h f <+: postings cs) (hSpares : op.aborts h f = false) :
    (h.perform op).Staged setting cs f (posts ++ op.posts h f) done endings := by
  have hInbox := perform_inbox hOrderly op f
  have hUnasked := unasked_perform hStaged.unasked hSpares
  cases perform_change hOrderly op with
  | enrolled g hFresh hAlike =>
    exact hStaged.of_members hUnasked hInbox hNames hPosts hAlike.members
  | registered g c hKnown hAlike =>
    exact hStaged.of_members hUnasked hInbox hNames hPosts hAlike.members
  | closed g hKnown hAlike =>
    exact hStaged.of_members hUnasked hInbox hNames hPosts hAlike.members
  | shed hAlike => exact hStaged.of_members hUnasked hInbox hNames hPosts hAlike.members
  | started key g hFactory hMembers =>
    exact hStaged.start hUnasked hInbox hNames hPosts hOrderly hFactory hMembers

end Hub

namespace Plant

variable {κ : Type} {compiler : Compiler κ} {first p p' : Plant κ} {i j : Nat} {h h' : Hub}

/-- The factory that a job handles a state of, and the world that it finds. -/
def atWork? (p : Plant κ) (i j : Nat) : Option (Floor κ × Factory) :=
  (p.hub? i).bind fun h =>
    (h.pool.jobs[j]?).bind fun job =>
      if job.phase = .handling then
        (h.pool.cell? job.task).map fun c => (p.floorOf h, c.body)
      else none

def deeds (p : Plant κ) (i : Nat) (f : FactoryId) : Move κ → List Deed
  | .work k j =>
    match if k = i then p.atWork? i j else none with
    | some (w, g) => if g.id = f then g.deeds w else []
    | none => []
  | _ => []

def posts (p : Plant κ) (i : Nat) (f : FactoryId) (m : Move κ) : List Post :=
  match m.op? i, p.hub? i with
  | some op, some h => op.posts h f
  | _, _ => []

/-- A move that does not ask a factory to abort and does not let it down. -/
def favours (compiler : Compiler κ) (p : Plant κ) (i : Nat) (f : FactoryId) : Move κ → Bool
  | .own k op =>
    match p.hub? i with
    | some h => k ≠ i || !op.aborts h f
    | none => true
  | .work k j =>
    match if k = i then p.atWork? i j else none with
    | some (w, g) => g.id ≠ f || g.prospers compiler i w
    | none => true
  | _ => true

namespace Run

def deeds (i : Nat) (f : FactoryId) : {p : Plant κ} → Run compiler first p → List Deed
  | _, .start => []
  | _, @next _ _ _ p _ r m _ => r.deeds i f ++ p.deeds i f m

def posts (i : Nat) (f : FactoryId) : {p : Plant κ} → Run compiler first p → List Post
  | _, .start => []
  | _, @next _ _ _ p _ r m _ => r.posts i f ++ p.posts i f m

/-- In the run, the factory is not asked to abort, and gets its cache and all pipelines. -/
def favours (i : Nat) (f : FactoryId) : {p : Plant κ} → Run compiler first p → Bool
  | _, .start => true
  | _, @next _ _ _ p _ r m _ => r.favours i f && p.favours compiler i f m

end Run

section Works

variable {w' : Floor κ} {t : TaskId} {f f' : Factory} {mode mode' : Mode State}

/-- A step is a piece of the work of the factory that is at work, or something else. -/
theorem Works.work_or_not (hWorks : Works compiler p i j p' h h' w' t f mode f' mode') :
    (p.atWork? i j = some (p.floorOf h, f) ∧ mode = .working ∧
      ∃ (lines : List Log.Line) (reply : Reply State),
        Factory.work compiler i (p.floorOf h) f = (w', f', lines, reply) ∧ reply ≠ .held ∧
          mode' = reply.mode) ∨
    p.atWork? i j = none ∧ (w' = p.floorOf h ∧ f' = f ∧ mode' = mode ∨ mode ≠ .working ∧
      (h.pool.Unasked (·.id = f.id) → ∀ s outcome, mode = .resting s →
        mode' ≠ .ended outcome)) := by
  obtain ⟨phase, c, c', next, hAdvances⟩ := hWorks.advances
  have hAfter : h'.pool.member? t = some (f', mode') := (hWorks.members t).trans (if_pos rfl)
  have hBody : c.body = f := by
    have hMember := hWorks.member
    rw [Tasks.Pool.member?_of_cell hAdvances.cell] at hMember
    exact (Prod.mk.inj (Option.some.inj hMember)).1
  rcases hAdvances.work_or_not hWorks.soundBefore (Factory.behaviour_asksNothing compiler i)
      hWorks.member hAfter with
    ⟨rfl, _, hMode, lines, reply, hWork, hHeld, hReply⟩ | ⟨hPhase, hOther⟩
  · refine .inl ⟨?_, hMode, lines, reply, hWork, hHeld, hReply⟩
    rw [atWork?, hWorks.hub, Option.bind_some, hAdvances.job, Option.bind_some, if_pos rfl,
      hAdvances.cell, Option.map_some, hBody]
  · refine .inr ⟨?_, hOther.imp_right fun ⟨hMode, hGoes⟩ => ⟨hMode, fun hUnasked => hGoes ?_⟩⟩
    · rw [atWork?, hWorks.hub, Option.bind_some, hAdvances.job, Option.bind_some, if_neg hPhase]
    · exact hUnasked t c hAdvances.cell (congrArg Factory.id hBody)

theorem Works.turn_or_not (hWorks : Works compiler p i j p' h h' w' t f mode f' mode') :
    (p.atWork? i j = some (p.floorOf h, f) ∧ mode = .working ∧ ∃ reply : Reply State,
      Turn compiler i (p.floorOf h) f w' f' reply ∧ mode' = reply.mode) ∨
    p.atWork? i j = none ∧ (w' = p.floorOf h ∧ f' = f ∧ mode' = mode ∨ mode ≠ .working ∧
      (h.pool.Unasked (·.id = f.id) → ∀ s outcome, mode = .resting s →
        mode' ≠ .ended outcome)) := by
  refine hWorks.work_or_not.imp_left ?_
  rintro ⟨hAt, hMode, lines, reply, hWork, hHeld, hReply⟩
  exact ⟨hAt, hMode, reply, Factory.work_cases hWork hHeld, hReply⟩

theorem Works.unasked (hWorks : Works compiler p i j p' h h' w' t f mode f' mode')
    {g : FactoryId} (hUnasked : h.pool.Unasked (·.id = g)) : h'.pool.Unasked (·.id = g) := by
  intro u d' hAfter hd
  obtain ⟨d, hBefore, hId⟩ := hWorks.cell? hAfter
  obtain ⟨phase, c, c', next, hAdvances⟩ := hWorks.advances
  rw [hAdvances.abortRequested hWorks.soundBefore (Factory.behaviour_asksNothing compiler i)
    hBefore hAfter]
  exact hUnasked u d hBefore (hId.symm.trans hd)

theorem Works.deeds_other (hWorks : Works compiler p i j p' h h' w' t f mode f' mode')
    {g : FactoryId} (hg : f.id ≠ g) : p.deeds i g (.work i j) = [] := by
  rcases hWorks.turn_or_not with ⟨hAt, _⟩ | ⟨hNone, _⟩
  · simp only [Plant.deeds, if_true, hAt, if_neg hg]
  · simp only [Plant.deeds, if_true, hNone]

variable {setting : Setting} {cs : List Characteristic} {posts : List Post} {done : List Deed}
  {endings : List (Report × Option ForgeError)}

/-- The factory that makes a step keeps to its course. -/
theorem Works.adheres (hWorks : Works compiler p i j p' h h' w' t f mode f' mode')
    (hKnown : f.id < h.office.inboxes.length) (hOpen : h.office.isOpen = true)
    (hUnasked : h.pool.Unasked (·.id = f.id)) (hPosts : posts <+: postings cs)
    (hFavours : p.favours compiler i f.id (.work i j) = true)
    (hAdheres : Adheres setting cs posts f (h.office.inbox f.id) done endings mode) :
    Adheres setting cs posts f' (h'.office.inbox f.id) (done ++ p.deeds i f.id (.work i j))
      (endings ++ endingsIn f.id (sentIn (p.floorOf h) w')) mode' := by
  rw [hWorks.office]
  rcases hWorks.turn_or_not with ⟨hAt, rfl, reply, hTurn, rfl⟩ | ⟨hNone, hOther⟩
  · -- A turn may send a pipeline, but it never sends the end of the factory.
    have hDeeds : p.deeds i f.id (.work i j) = f.deeds (p.floorOf h) := by
      simp only [Plant.deeds, if_true, hAt]
    have hSilent : endings ++ endingsIn f.id (sentIn (p.floorOf h) w') = endings := by
      rcases hTurn.quiet_or_sent with hQuiet | ⟨q, _, hYes, rfl, _, _⟩
      · rw [hQuiet]
        exact List.append_nil _
      · rw [Factory.sentIn_send hYes rfl]
        exact List.append_nil _
    have hProspers : f.prospers compiler i (p.floorOf h) = true := by
      simpa [Plant.favours, hAt] using hFavours
    rw [hDeeds, hSilent]
    exact hTurn.adheres hProspers hPosts hKnown hOpen hAdheres
  · have hDeeds : p.deeds i f.id (.work i j) = [] := by
      simp only [Plant.deeds, if_true, hNone]
    rw [hDeeds, List.append_nil]
    exact hWorks.passage.adheres
      (hOther.imp_right fun ⟨hMode, hGoes⟩ => ⟨hMode, hGoes hUnasked⟩) hAdheres

theorem Works.staged (hWorks : Works compiler p i j p' h h' w' t f mode f' mode')
    (hOrderly : h.Orderly) (hOpen : h.office.isOpen = true) {g : FactoryId}
    (hStaged : h.Staged setting cs g posts done endings) (hPosts : posts <+: postings cs)
    (hFavours : p.favours compiler i g (.work i j) = true) :
    h'.Staged setting cs g posts (done ++ p.deeds i g (.work i j))
      (endings ++ endingsIn g (sentIn (p.floorOf h) w')) := by
  have hSame := hWorks.passage.identity.1
  have hAfter : h'.pool.member? t = some (f', mode') := (hWorks.members t).trans (if_pos rfl)
  have hUnasked := hWorks.unasked hStaged.unasked
  by_cases hg : f.id = g
  · subst hg
    refine ⟨hUnasked, ?_, fun hNone => absurd hSame (hNone t f' mode' hAfter)⟩
    intro u k m hMember hId hSetting
    rw [hWorks.members] at hMember
    split at hMember
    · cases hMember
      rw [hWorks.passage.setting] at hSetting
      exact hWorks.adheres (hOrderly.known t f mode hWorks.member) hOpen hStaged.unasked hPosts
        hFavours (hStaged.started t f mode hWorks.member rfl hSetting)
    · next hu => exact absurd hId (hWorks.other hOrderly hu hMember)
  · have hInbox : h'.office.inbox g = h.office.inbox g := by
      rw [hWorks.office]
      exact hWorks.passage.inbox_of_ne (Ne.symm hg)
    rw [hWorks.deeds_other hg, (hWorks.passage.sentIn_other (Ne.symm hg)).2, List.append_nil,
      List.append_nil]
    refine ⟨hUnasked, ?_, ?_⟩
    · intro u k m hMember hId hSetting
      rw [hInbox]
      rw [hWorks.members] at hMember
      split at hMember
      · cases hMember
        exact absurd (hSame.symm.trans hId) hg
      · exact hStaged.started u k m hMember hId hSetting
    · intro hNone
      rw [hInbox]
      refine hStaged.unstarted fun u k m hMember => ?_
      by_cases hu : u = t
      · subst hu
        rw [hWorks.member] at hMember
        cases hMember
        exact hg
      · refine hNone u k m ?_
        rw [hWorks.members, if_neg hu]
        exact hMember

end Works

section Runs

variable {m : Move κ} {f : FactoryId}

theorem deeds_elsewhere (hElsewhere : m.Elsewhere i) : p.deeds i f m = [] := by
  cases m with
  | work k j =>
    have hk : k ≠ i := hElsewhere
    simp only [Plant.deeds, if_neg hk]
  | _ => rfl

theorem posts_aside (hSpares : m.Spares i) : p.posts i f m = [] := by
  rw [Plant.posts, Move.op?_eq_none_iff.mpr hSpares]

theorem posts_own {op : Hub.Op} (hHub : p.hub? i = some h) :
    p.posts i f (.own i op) = op.posts h f := by
  simp only [Plant.posts, Move.op?, if_true, hHub]

/-- In every run that sends a factory some axes in order and then the end of the registration, and
that favours it, the factory keeps to the course of these axes. -/
theorem Run.staged {limit : Option Nat} {k : κ} {settings : List HubSettings}
    (r : Run compiler (founded limit k settings) p) (hHub : p.hub? i = some h)
    (hOpen : h.office.isOpen = true) (setting : Setting) {cs : List Characteristic}
    (hNames : (cs.map Characteristic.name).Nodup) (hFavours : r.favours i f = true)
    (hPosts : r.posts i f <+: postings cs) :
    h.Staged setting cs f (r.posts i f) (r.deeds i f) (endingsIn f (r.sent i)) := by
  refine r.along_open_hub (P := fun r h => r.favours i f = true → r.posts i f <+: postings cs →
    h.Staged setting cs f (r.posts i f) (r.deeds i f) (endingsIn f (r.sent i))) ?_ ?_ ?_ ?_
    hHub hOpen hFavours hPosts
  · exact fun s _ _ => Hub.staged_initial s setting cs f
  · intro p p' r m hMove h hElsewhere ih hFavours hPosts
    rw [r.sent_of_elsewhere hMove hElsewhere]
    simp only [posts, deeds, posts_aside hElsewhere.spares, deeds_elsewhere hElsewhere,
      List.append_nil] at hPosts ⊢
    exact ih (Bool.and_eq_true_iff.mp hFavours).1 hPosts
  · intro p p' r op hMove h hHub hOpen hOpen' ih hFavours hPosts
    rw [r.sent_of_quiet hMove rfl]
    simp only [posts, deeds, posts_own hHub] at hPosts ⊢
    rw [show p.deeds i f (.own i op) = [] from rfl, List.append_nil]
    obtain ⟨hBefore, hNow⟩ := Bool.and_eq_true_iff.mp hFavours
    have hSpares : op.aborts h f = false := by
      simpa [Plant.favours, hHub] using hNow
    exact Hub.staged_perform (ih hBefore ((List.prefix_append _ _).trans hPosts))
      (r.orderly i h hHub) hNames hPosts hSpares
  · -- A worker posts nothing, so the posts so far are those of the run before.
    intro p p' r j hMove h h' w' t g g' mode mode' hOpen hWorks ih hFavours hPosts
    rw [r.sent_of_works hMove hWorks]
    simp only [posts, deeds, posts_aside (m := .work i j) trivial, List.append_nil] at hPosts ⊢
    obtain ⟨hBefore, hNow⟩ := Bool.and_eq_true_iff.mp hFavours
    rw [endingsIn_append]
    exact hWorks.staged (r.orderly i h hWorks.hub) hOpen (ih hBefore hPosts) hPosts hNow

/-- A run that sends a factory some axes in order and then the end of the registration, as far as
it has come, and that favours the factory. -/
structure Run.Supplies (r : Run compiler first p) (i : Nat) (f : FactoryId) (setting : Setting)
    (cs : List Characteristic) : Prop where
  isOpen : p.Has i (·.office.isOpen = true)
  setting : p.Has i fun h =>
    ∀ g ∈ h.pool.bodies, g.id = f → g.setting = setting
  posts : r.posts i f <+: postings cs
  favours : r.favours i f = true

section Supplies

variable {limit : Option Nat} {k : κ} {settings : List HubSettings}
  {r : Run compiler (founded limit k settings) p} {setting : Setting} {cs : List Characteristic}
  (hSupplies : r.Supplies i f setting cs) (hNames : (cs.map Characteristic.name).Nodup)

include hSupplies hNames

theorem Run.Supplies.staged (hHub : p.hub? i = some h) :
    h.Staged setting cs f (r.posts i f) (r.deeds i f) (endingsIn f (r.sent i)) := by
  obtain ⟨g, hSame, hOpen⟩ := hSupplies.isOpen
  obtain rfl := Option.some.inj (hSame.symm.trans hHub)
  exact r.staged hHub hOpen setting hNames hSupplies.favours hSupplies.posts

theorem Run.Supplies.adheres (hHub : p.hub? i = some h) {t : TaskId} {g : Factory}
    {mode : Mode State} (hMember : h.pool.member? t = some (g, mode)) (hId : g.id = f) :
    Adheres setting cs (r.posts i f) g (h.office.inbox f) (r.deeds i f) (endingsIn f (r.sent i))
      mode := by
  obtain ⟨h', hSame, hSetting⟩ := hSupplies.setting
  obtain rfl := Option.some.inj (hSame.symm.trans hHub)
  have hBody : g ∈ h'.pool.bodies := by
    refine List.mem_of_getElem? (i := t) ?_
    rw [Tasks.Pool.bodies_getElem?, hMember, Option.map_some]
  exact (hSupplies.staged hNames hHub).started t g mode hMember hId (hSetting g hBody hId)

omit hNames in
theorem Run.Supplies.reported (hHub : p.hub? i = some h) {t : TaskId} {g : Factory}
    (hMember : h.pool.member? t = some (g, .left)) (hId : g.id = f) :
    ∃ report failure cache, Event.ended f report failure cache ∈ r.sent i := by
  obtain ⟨h', hSame, hOpen⟩ := hSupplies.isOpen
  obtain rfl := Option.some.inj (hSame.symm.trans hHub)
  have hOne := (r.parted hHub hOpen).reported t g .left hMember (.inl rfl)
  obtain ⟨⟨report, failure⟩, hAll⟩ := List.length_eq_one_iff.mp hOne
  have hMem : (report, failure) ∈ endingsIn g.id (r.sent i) := hAll ▸ List.mem_singleton_self _
  rw [hId] at hMem
  exact ⟨report, failure, Factory.mem_endingsIn.mp hMem⟩

theorem Run.Supplies.follows :
    r.deeds i f <+: (course setting cs).deeds ∧
      ∀ report failure cache, Event.ended f report failure cache ∈ r.sent i →
        course setting cs = ⟨r.deeds i f, failure⟩ := by
  obtain ⟨h, hHub, _⟩ := hSupplies.isOpen
  -- A factory that no task drives was not started, and has done nothing.
  by_cases hNone : ∀ t g m, h.pool.member? t = some (g, m) → g.id ≠ f
  · obtain ⟨hDone, hEndings, _⟩ := (hSupplies.staged hNames hHub).unstarted hNone
    refine ⟨hDone ▸ List.nil_prefix, fun report failure cache hEnded => ?_⟩
    have hMem := Factory.mem_endingsIn.mpr ⟨cache, hEnded⟩
    rw [hEndings] at hMem
    cases hMem
  · obtain ⟨t, g, m, hMember, hId⟩ : ∃ t g m, h.pool.member? t = some (g, m) ∧ g.id = f := by
      simpa using hNone
    have hAdheres := hSupplies.adheres hNames hHub hMember hId
    exact ⟨hAdheres.isPrefix hSupplies.posts, fun report failure cache hEnded =>
      hAdheres.ended (Factory.mem_endingsIn.mpr ⟨cache, hEnded⟩)⟩

end Supplies

/-- When the axes of a factory arrive makes no difference. In any two runs, of whatever plants,
that send the same axes in order and favour the factory, it proceeds with them in the same way and
does the same as far as both have come; if both have come to their ends, they have done the same
and fail in the same way. What a factory puts to the compiler and into its cache is what it ordered
last, and it has reported its end when its task is gone. An end without trouble in the set-up comes
after all axes were set up, and if they fit into an index and the log asks for no count that goes
wrong, after all combinations or after one with a fault of a fill. -/
theorem arrivals_immaterial {κ' : Type} {compiler' : Compiler κ'} {limit limit' : Option Nat}
    {k : κ} {k' : κ'} {settings settings' : List HubSettings} {p' : Plant κ'}
    (r : Run compiler (founded limit k settings) p)
    (r' : Run compiler' (founded limit' k' settings') p') {i' : Nat} {f' : FactoryId}
    {setting : Setting} {cs : List Characteristic} (hNames : (cs.map Characteristic.name).Nodup)
    (hSupplies : r.Supplies i f setting cs) (hSupplies' : r'.Supplies i' f' setting cs) :
    Proceeds setting.context cs (r.deeds i f) ∧
    (∀ h t g, p.hub? i = some h → h.pool.member? t = some (g, .working) → g.id = f →
      g.point.Pursues (r.deeds i f)) ∧
    (∀ h t g, p.hub? i = some h → h.pool.member? t = some (g, .left) → g.id = f →
      ∃ report failure cache, Event.ended f report failure cache ∈ r.sent i) ∧
    (∀ report failure cache, Event.ended f report failure cache ∈ r.sent i →
      course setting cs = ⟨r.deeds i f, failure⟩ ∧
      ((Characteristic.setupAll setting.context cs {}).2.2 = none →
        (r.deeds i f).filterMap Deed.axis? = cs ∧
        ∀ packing, Packing.ofSpans (cs.map Characteristic.span) = .ok packing →
          setting.log.passes .debug = false ∨ ¬ packing.Full →
          let base := (Characteristic.setupAll setting.context cs {}).1
          let (made, all) := combinations packing cs base (tuples packing.spans)
          r.deeds i f = setups setting.context cs {} ++ made ∧
            failure = if all then none else some .aborted)) ∧
    (r.deeds i f <+: r'.deeds i' f' ∨ r'.deeds i' f' <+: r.deeds i f) ∧
    ∀ report failure cache report' failure' cache',
      Event.ended f report failure cache ∈ r.sent i →
      Event.ended f' report' failure' cache' ∈ r'.sent i' →
      r.deeds i f = r'.deeds i' f' ∧ failure = failure' := by
  obtain ⟨hPrefix, hEnds⟩ := hSupplies.follows hNames
  obtain ⟨hPrefix', hEnds'⟩ := hSupplies'.follows hNames
  refine ⟨Factory.proceeds_of_isPrefix hPrefix, ?_, fun h t g hHub => hSupplies.reported hHub, ?_,
    List.prefix_or_prefix_of_prefix hPrefix hPrefix', ?_⟩
  · intro h t g hHub hMember hId
    obtain ⟨_, _, hEngaged⟩ := hSupplies.adheres hNames hHub hMember hId
    exact hEngaged.pursues
  · intro report failure cache hEnded
    have hCourse := hEnds report failure cache hEnded
    refine ⟨hCourse, fun hSetup => ⟨?_, fun packing hPacking hCountable => ?_⟩⟩
    · have hAxes := Factory.axes_course hSetup
      rwa [hCourse] at hAxes
    · have hWhole := Factory.course_of_countable hSetup hPacking hCountable
      rw [hCourse] at hWhole
      exact Factory.Course.mk.inj hWhole
  · intro report failure cache report' failure' cache' hEnded hEnded'
    have hSame := (hEnds report failure cache hEnded).symm.trans
      (hEnds' report' failure' cache' hEnded')
    exact Factory.Course.mk.inj hSame

def sampleAxes : List Characteristic :=
  [.ofSetup "program" fun _ => Standard.setupProgram "program" [] 7 [],
    .ofFill "samples" ⟨1, 3, by decide⟩ (Standard.fillConstant 1 0)]

def sampleSetting : Setting := ⟨⟨"lit", {}⟩, .upTo .trace⟩

def additions (cs : List Characteristic) : List (Move Device) :=
  cs.flatMap fun c => [.own 0 (.register 0 c), .own 0 (.wake 0)]

/-- A run in which a factory is started first and gets its axes in two batches. -/
def earlyRun : (p : Plant Device) × Run Device.compiler (founded none {} [{}]) p :=
  Run.start.along
    ([.own 0 .createSlot, .own 0 (.createFactory "lit" "main" 0), .own 0 (.start 0)] ++
      List.replicate 12 (.work 0 0) ++ additions (sampleAxes.take 1) ++
      List.replicate 5 (.work 0 0) ++ additions (sampleAxes.drop 1) ++
      [.own 0 (.closeInbox 0), .own 0 (.wake 0)] ++ List.replicate 36 (.work 0 0))

def lateRun : (p : Plant Device) × Run Device.compiler (founded none {} [{}]) p :=
  Run.start.along
    ([.own 0 .createSlot, .own 0 (.createFactory "lit" "main" 0)] ++ additions sampleAxes ++
      [.own 0 (.closeInbox 0), .own 0 (.wake 0), .own 0 (.start 0)] ++
      List.replicate 42 (.work 0 0))

theorem has_of_any {P : Hub → Prop} [DecidablePred P]
    (h : (p.hub? i).any (fun h => decide (P h)) = true) : p.Has i P := by
  obtain ⟨g, hHub, hHolds⟩ := (Option.any_eq_true _ _).mp h
  exact ⟨g, hHub, of_decide_eq_true hHolds⟩

theorem arrivals_immaterial_sample :
    (sampleAxes.map Characteristic.name).Nodup ∧
    earlyRun.2.Supplies 0 0 sampleSetting sampleAxes ∧
    lateRun.2.Supplies 0 0 sampleSetting sampleAxes ∧
    earlyRun.2.deeds 0 0 = lateRun.2.deeds 0 0 ∧
    (earlyRun.2.deeds 0 0).filterMap Deed.axis? = sampleAxes ∧
    ((earlyRun.2.deeds 0 0).filterMap Deed.order?).map (·.index.raw) = [0, 1] ∧
    (course sampleSetting sampleAxes).failure = none := by
  have hNames : (sampleAxes.map Characteristic.name).Nodup := by decide
  have hEarly : earlyRun.2.Supplies 0 0 sampleSetting sampleAxes :=
    ⟨has_of_any (by decide +kernel), has_of_any (by decide +kernel),
      (show earlyRun.2.posts 0 0 = postings sampleAxes from rfl) ▸ List.prefix_rfl,
      by decide +kernel⟩
  have hLate : lateRun.2.Supplies 0 0 sampleSetting sampleAxes :=
    ⟨has_of_any (by decide +kernel), has_of_any (by decide +kernel),
      (show lateRun.2.posts 0 0 = postings sampleAxes from rfl) ▸ List.prefix_rfl,
      by decide +kernel⟩
  have hEnds (events : List Event) (hNone : none ∈ (endingsIn 0 events).map Prod.snd) :
      ∃ report cache, Event.ended 0 report none cache ∈ events := by
    obtain ⟨⟨report, failure⟩, hMem, rfl⟩ := List.mem_map.mp hNone
    obtain ⟨cache, hEnded⟩ := Factory.mem_endingsIn.mp hMem
    exact ⟨report, cache, hEnded⟩
  obtain ⟨report, cache, hEnded⟩ := hEnds (earlyRun.2.sent 0) (by decide +kernel)
  obtain ⟨report', cache', hEnded'⟩ := hEnds (lateRun.2.sent 0) (by decide +kernel)
  obtain ⟨_, _, _, hFails, _, hBoth⟩ := arrivals_immaterial earlyRun.2 lateRun.2 hNames hEarly hLate
  obtain ⟨hCourse, hAxes⟩ := hFails report none cache hEnded
  exact ⟨hNames, hEarly, hLate, (hBoth _ _ _ _ _ _ hEnded hEnded').1, (hAxes rfl).1,
    by decide +kernel, by rw [hCourse]⟩

end Runs

end Plant

end PipelineForge
