import PipelineForge.Proofs.Factory.Reckoning
import PipelineForge.Proofs.Hub.Reports

/-!
# Files of factories

The file of a factory is the factory as it stands, or as it stood when it handed in its report, also
if there was no hub any more to take it. What it did about its combinations is read off the moves of
a run as marks, and in every run its file keeps the books of its marks.
-/

namespace PipelineForge

open Factory (Books Event Mark Turn endingsIn markOf sentIn)
open Tasks (Mode TaskId)

namespace Factory

def isPast (f : Factory) : Mode State → Bool
  | .left => true
  | .leaving =>
    match f.point with
    | .reporting _ => false
    | _ => true
  | _ => false

theorem isPast_iff (f : Factory) (mode : Mode State) : f.isPast mode = true ↔ f.Reported mode := by
  cases mode with
  | left => simp [isPast, Reported]
  | leaving =>
    rw [isPast]
    split
    next failure hPoint => simp [Reported, hPoint]
    next hPoint => simpa [Reported] using fun failure => hPoint failure
  | _ => simp [isPast, Reported]

theorem Fresh.balances {key : FactoryId} {f : Factory} (hFresh : f.Fresh key) :
    f.Balances [] (.resting .start) := by
  rw [hFresh]
  exact ⟨⟨rfl, rfl, rfl, rfl, rfl, rfl⟩, rfl, fun _ => rfl⟩

end Factory

/-- The started factory of an identity, if it has not handed in its report. -/
def Hub.onDuty? (h : Hub) (g : FactoryId) : Option Factory :=
  (List.range h.pool.bodies.length).findSome? fun t =>
    (h.pool.member? t).bind fun member =>
      if member.1.id = g ∧ member.1.isPast member.2 = false then some member.1 else none

namespace Hub

variable {h : Hub} {g : FactoryId} {f : Factory} {t : TaskId} {mode : Mode Factory.State}

theorem of_onDuty? (hDuty : h.onDuty? g = some f) :
    ∃ t mode, h.pool.member? t = some (f, mode) ∧ f.id = g ∧ ¬ f.Reported mode := by
  obtain ⟨t, _, hSome⟩ := List.exists_of_findSome?_eq_some hDuty
  obtain ⟨⟨k, mode⟩, hMember, hKind⟩ := Option.bind_eq_some_iff.mp hSome
  split at hKind
  next hBoth =>
    obtain rfl := Option.some.inj hKind
    refine ⟨t, mode, hMember, hBoth.1, fun hPast => ?_⟩
    exact absurd hBoth.2 (by rw [(k.isPast_iff mode).mpr hPast]; exact nofun)
  · cases hKind

theorem Orderly.onDuty?_eq (hOrderly : h.Orderly) (hMember : h.pool.member? t = some (f, mode))
    (hNot : ¬ f.Reported mode) : h.onDuty? f.id = some f := by
  have hOpen : f.isPast mode = false := by
    cases hPast : f.isPast mode with
    | false => rfl
    | true => exact absurd ((f.isPast_iff mode).mp hPast) hNot
  have hSome : (h.onDuty? f.id).isSome = true := by
    rw [onDuty?, List.findSome?_isSome_iff]
    refine ⟨t, List.mem_range.mpr (member?_lt hMember), ?_⟩
    rw [hMember, Option.bind_some, if_pos ⟨rfl, hOpen⟩]
    rfl
  obtain ⟨k, hDuty⟩ := Option.isSome_iff_exists.mp hSome
  obtain ⟨u, n, hOther, hId, _⟩ := of_onDuty? hDuty
  obtain rfl := hOrderly.distinct u t k f n mode hOther hMember hId
  rw [hMember] at hOther
  cases hOther
  exact hDuty

theorem onDuty?_eq_none (hNone : ∀ t f mode, h.pool.member? t = some (f, mode) → f.id = g →
    f.Reported mode) : h.onDuty? g = none := by
  cases hDuty : h.onDuty? g with
  | none => rfl
  | some f =>
    obtain ⟨t, mode, hMember, hId, hNot⟩ := of_onDuty? hDuty
    exact absurd (hNone t f mode hMember hId) hNot

end Hub

namespace Plant

variable {κ : Type} {compiler : Compiler κ} {first p p' : Plant κ} {i j : Nat} {h h' : Hub}
  {g : FactoryId} {m : Move κ}

/-- A mark, with the factory that left it and the cache that this factory had. -/
structure Marking where
  hub : Nat
  factory : FactoryId
  cache : Option CacheId
  mark : Mark

def marking? (compiler : Compiler κ) (p : Plant κ) : Move κ → Option Marking
  | .work i j =>
    (p.atWork? i j).bind fun (w, f) =>
      (f.mark? compiler i w).map fun mark => ⟨i, f.id, f.cache, mark⟩
  | _ => none

namespace Run

def markings : {p : Plant κ} → Run compiler first p → List Marking
  | _, .start => []
  | _, @next _ _ _ p _ r m _ => r.markings ++ (p.marking? compiler m).toList

def marks (r : Run compiler first p) (i : Nat) (g : FactoryId) : List Mark :=
  r.markings.filterMap fun x => if x.hub = i ∧ x.factory = g then some x.mark else none

def marksOn (r : Run compiler first p) (id : CacheId) : List Mark :=
  r.markings.filterMap fun x => if x.cache = some id then some x.mark else none

/-- A factory as it stands, or as it stood when it handed in its report. -/
def file? (i : Nat) (g : FactoryId) : {p : Plant κ} → Run compiler first p → Option Factory
  | _, .start => none
  | p, .next r _ _ => ((p.hub? i).bind (·.onDuty? g)).or (r.file? i g)

end Run

theorem Works.marked {w' : Factory.Floor κ} {t : TaskId} {f f' : Factory}
    {mode mode' : Mode Factory.State}
    (hWorks : Works compiler p i j p' h h' w' t f mode f' mode') :
    (mode = .working ∧ ∃ reply, Turn compiler i (p.floorOf h) f w' f' reply ∧ mode' = reply.mode ∧
      p.marking? compiler (.work i j) =
        (markOf f.point f'.point reply).map (⟨i, f.id, f.cache, ·⟩)) ∨
    p.marking? compiler (.work i j) = none ∧
      (w' = p.floorOf h ∧ f' = f ∧ mode' = mode ∨ mode ≠ .working) := by
  rcases hWorks.work_or_not with ⟨hAt, hMode, lines, reply, hWork, hHeld, hReply⟩ | ⟨hNone, hOther⟩
  · refine .inl ⟨hMode, reply, Factory.work_cases hWork hHeld, hReply, ?_⟩
    simp only [marking?, hAt, Option.bind_some, Factory.mark?, hWork]
  · refine .inr ⟨?_, hOther.imp_right And.left⟩
    rw [marking?, hNone, Option.bind_none]

theorem Works.eq_of_id {w' : Factory.Floor κ} {t : TaskId} {f f' : Factory}
    {mode mode' : Mode Factory.State}
    (hWorks : Works compiler p i j p' h h' w' t f mode f' mode') (hOrderly : h.Orderly)
    {u : TaskId} {k : Factory} {n : Mode Factory.State}
    (hMember : h'.pool.member? u = some (k, n)) (hId : k.id = f.id) : k = f' ∧ n = mode' := by
  rw [hWorks.members] at hMember
  split at hMember
  next =>
    cases hMember
    exact ⟨rfl, rfl⟩
  next hOther => exact absurd hId (hWorks.other hOrderly hOther hMember)

theorem Stir.hub? (hOrderly : p.Orderly) (hMove : p.move compiler m = some p')
    (hHub : p.hub? i = some h) (hStir : Stir compiler p m p' i h h') : p'.hub? i = some h' := by
  obtain ⟨h'', hAfter, hStir'⟩ := stir_of_move hOrderly hMove hHub
  cases hStir with
  | spared hSame hElsewhere =>
    cases hStir' with
    | spared hSame' _ => rw [hAfter, hSame, hSame']
    | owned op hm =>
      subst hm
      exact absurd rfl hElsewhere
    | worked k w' t f f' mode mode' hm =>
      subst hm
      exact absurd rfl hElsewhere
  | owned op hm hOpen hPerform =>
    subst hm
    obtain ⟨g, hOwner, _, rfl⟩ := move_own hMove
    obtain rfl := Option.some.inj (hHub.symm.trans hOwner)
    rw [hub?_setHub p hHub, if_pos rfl, hPerform]
  | worked k w' t f f' mode mode' hm hWorks => rw [hWorks.hub?, if_pos rfl]

namespace Run

variable {r : Run compiler first p}

/-- A move that is no step of the worker of a factory, as this factory sees it. -/
structure Aside (r : Run compiler first p) (hMove : p.move compiler m = some p') (i : Nat)
    (g : FactoryId) (h h' : Hub) : Prop where
  idle : ∀ k j w f, m = .work k j → p.atWork? k j = some (w, f) → ¬ (k = i ∧ f.id = g)
  sent : ∀ report failure cache, Event.ended g report failure cache ∈ (r.next m hMove).sent i →
    Event.ended g report failure cache ∈ r.sent i
  members : ∀ t f n, h'.pool.member? t = some (f, n) → f.id = g →
    h.pool.member? t = some (f, n) ∨ f.Fresh g ∧ n = .resting .start ∧
      ∀ u k o, h.pool.member? u = some (k, o) → k.id ≠ g
  lasts : ∀ t f n, h.pool.member? t = some (f, n) → f.id = g → h'.pool.member? t = some (f, n)

theorem Aside.marking? {hMove : p.move compiler m = some p'} (hAside : r.Aside hMove i g h h')
    {x : Marking} (hx : x ∈ p.marking? compiler m) : ¬ (x.hub = i ∧ x.factory = g) := by
  cases m with
  | work k j =>
    obtain ⟨⟨w, f⟩, hAt, hMark⟩ := Option.bind_eq_some_iff.mp hx
    obtain ⟨mark, _, rfl⟩ := Option.map_eq_some_iff.mp hMark
    exact hAside.idle k j w f rfl hAt
  | _ => cases hx

theorem marks_next (r : Run compiler first p) (hMove : p.move compiler m = some p') (i : Nat)
    (g : FactoryId) : (r.next m hMove).marks i g = r.marks i g ++
      ((p.marking? compiler m).toList.filterMap fun x =>
        if x.hub = i ∧ x.factory = g then some x.mark else none) := by
  rw [marks, markings, List.filterMap_append, marks]

theorem file?_next (r : Run compiler first p) (hMove : p.move compiler m = some p')
    (hHub : p'.hub? i = some h') (g : FactoryId) :
    (r.next m hMove).file? i g = (h'.onDuty? g).or (r.file? i g) := by
  rw [file?, hHub, Option.bind_some]

/-- What the file of a factory says. A factory that has not been started has none. -/
structure Filed (r : Run compiler first p) (i : Nat) (g : FactoryId) (h : Hub) : Prop where
  members : ∀ t f mode, h.pool.member? t = some (f, mode) → f.id = g → ¬ f.Reported mode →
    r.file? i g = some f ∧ f.Balances (r.marks i g) mode
  past : ∀ t f mode, h.pool.member? t = some (f, mode) → f.id = g → f.Reported mode →
    ∃ k, r.file? i g = some k ∧ Books (r.marks i g) k false false
  unstarted : (∀ t f mode, h.pool.member? t = some (f, mode) → f.id ≠ g) → r.file? i g = none
  labels : ∀ x ∈ r.markings, x.hub = i → x.factory = g →
    ∃ k, r.file? i g = some k ∧ x.cache = k.cache
  ended : ∀ report failure cache, Event.ended g report failure cache ∈ r.sent i →
    (∀ t f mode, h.pool.member? t = some (f, mode) → f.id = g → f.Reported mode) ∧
      ∃ k, r.file? i g = some k ∧ k.report = report ∧ k.cache = cache

theorem mem_marks {mark : Mark} (hMem : mark ∈ r.marks i g) :
    ∃ x ∈ r.markings, x.hub = i ∧ x.factory = g ∧ x.mark = mark := by
  obtain ⟨x, hx, hSome⟩ := List.mem_filterMap.mp hMem
  split at hSome
  next hOwn => exact ⟨x, hx, hOwn.1, hOwn.2, Option.some.inj hSome⟩
  next => cases hSome

theorem mark_mem_marks (r : Run compiler first p) {x : Marking} (hx : x ∈ r.markings)
    (hHub : x.hub = i) (hFactory : x.factory = g) : x.mark ∈ r.marks i g :=
  List.mem_filterMap.mpr ⟨x, hx, if_pos ⟨hHub, hFactory⟩⟩

theorem Filed.marks_of_none (hFiled : r.Filed i g h) (hNone : r.file? i g = none) :
    r.marks i g = [] := by
  refine List.eq_nil_iff_forall_not_mem.mpr fun mark hMem => ?_
  obtain ⟨x, hx, hHub, hFactory, _⟩ := mem_marks hMem
  obtain ⟨k, hFile, _⟩ := hFiled.labels x hx hHub hFactory
  rw [hNone] at hFile
  cases hFile

section Steps

variable {limit : Option Nat} {k : κ} {settings : List HubSettings}
  {r : Run compiler (founded limit k settings) p}

theorem Filed.file?_of_members (hFiled : r.Filed i g h) (hMove : p.move compiler m = some p')
    (hAfter : p'.hub? i = some h')
    (hMembers : ∀ t f n, h'.pool.member? t = some (f, n) → f.id = g →
      h.pool.member? t = some (f, n)) : (r.next m hMove).file? i g = r.file? i g := by
  rw [r.file?_next hMove hAfter]
  cases hDuty : h'.onDuty? g with
  | none => rfl
  | some f =>
    obtain ⟨t, mode, hMember, hId, hNot⟩ := Hub.of_onDuty? hDuty
    exact (hFiled.members t f mode (hMembers t f mode hMember hId) hId hNot).1.symm

/-- A move that is no step of the factory's worker leaves its file as it is, or opens it. -/
theorem Filed.aside (hFiled : r.Filed i g h) (hMove : p.move compiler m = some p')
    (hAfter : p'.hub? i = some h') (hAside : r.Aside hMove i g h h') :
    (r.next m hMove).Filed i g h' := by
  have hOrderly := orderly_move hMove r.orderly i h' hAfter
  have hSameMarks : (r.next m hMove).marks i g = r.marks i g := by
    rw [r.marks_next hMove, List.filterMap_eq_nil_iff.mpr, List.append_nil]
    exact fun x hx => if_neg (hAside.marking? (Option.mem_toList.mp hx))
  -- A factory can only be new if it had no file.
  have hOld {k : Factory} (hFile : r.file? i g = some k) {t : TaskId} {f : Factory}
      {n : Mode Factory.State} (hMember : h'.pool.member? t = some (f, n)) (hId : f.id = g) :
      h.pool.member? t = some (f, n) := by
    refine (hAside.members t f n hMember hId).resolve_right fun ⟨_, _, hNone⟩ => ?_
    rw [hFiled.unstarted hNone] at hFile
    cases hFile
  have hSameFile {k : Factory} (hFile : r.file? i g = some k) :
      (r.next m hMove).file? i g = some k := by
    rw [hFiled.file?_of_members hMove hAfter fun t f n hMember hId => hOld hFile hMember hId, hFile]
  constructor
  · rintro t f mode hMember rfl hNot
    rw [r.file?_next hMove hAfter, hOrderly.onDuty?_eq hMember hNot, Option.some_or, hSameMarks]
    refine ⟨rfl, ?_⟩
    rcases hAside.members t f mode hMember rfl with hBefore | ⟨hFresh, rfl, hNone⟩
    · exact (hFiled.members t f mode hBefore rfl hNot).2
    · rw [hFiled.marks_of_none (hFiled.unstarted hNone)]
      exact hFresh.balances
  · intro t f mode hMember hId hPast
    rcases hAside.members t f mode hMember hId with hBefore | ⟨_, rfl, _⟩
    · obtain ⟨k, hFile, hBooks⟩ := hFiled.past t f mode hBefore hId hPast
      exact ⟨k, hSameFile hFile, hSameMarks ▸ hBooks⟩
    · simp [Factory.Reported] at hPast
  · intro hNone
    have hDuty : h'.onDuty? g = none :=
      Hub.onDuty?_eq_none fun t f mode hMember hId => absurd hId (hNone t f mode hMember)
    rw [r.file?_next hMove hAfter, hDuty, Option.none_or]
    exact hFiled.unstarted fun t f n hMember hId =>
      hNone t f n (hAside.lasts t f n hMember hId) hId
  · intro x hx hHub hFactory
    rcases List.mem_append.mp hx with hBefore | hNew
    · obtain ⟨k, hFile, hCache⟩ := hFiled.labels x hBefore hHub hFactory
      exact ⟨k, hSameFile hFile, hCache⟩
    · exact absurd ⟨hHub, hFactory⟩ (hAside.marking? (Option.mem_toList.mp hNew))
  · intro report failure cache hEnded
    obtain ⟨hPast, k, hFile, hSame⟩ :=
      hFiled.ended report failure cache (hAside.sent report failure cache hEnded)
    exact ⟨fun t f mode hMember hId => hPast t f mode (hOld hFile hMember hId) hId,
      k, hSameFile hFile, hSame⟩

end Steps

end Run

section Runs

variable {limit : Option Nat} {k : κ} {settings : List HubSettings} {w' : Factory.Floor κ}
  {t : TaskId} {f f' : Factory} {mode mode' : Mode Factory.State}

/-- A step of its worker keeps the books of a factory with the mark that it leaves. -/
theorem Works.balances (r : Run compiler (founded limit k settings) p)
    (hMove : p.move compiler (.work i j) = some p')
    (hWorks : Works compiler p i j p' h h' w' t f mode f' mode') (hFiled : r.Filed i f.id h)
    (hNot : ¬ f'.Reported mode') :
    f'.Balances ((r.next (.work i j) hMove).marks i f.id) mode' := by
  obtain ⟨_, hBalances⟩ :=
    hFiled.members t f mode hWorks.member rfl (hWorks.passage.not_reported hNot)
  have hTracks := (r.tracked hWorks.hub).members t f mode hWorks.member
  rw [r.marks_next hMove]
  rcases hWorks.marked with ⟨rfl, reply, hTurn, rfl, hMarking⟩ | ⟨hMarking, hSame | hMode⟩
  · have hNext := hTurn.balances hBalances hTracks.2.2 hTracks.2.1.cache
    rw [hMarking]
    cases hMark : markOf f.point f'.point reply with
    | none => rwa [hMark] at hNext
    | some mark => simpa [hMark] using hNext
  · obtain ⟨_, rfl, rfl⟩ := hSame
    rw [hMarking, Option.toList_none, List.filterMap_nil, List.append_nil]
    exact hBalances
  · rw [hMarking, Option.toList_none, List.filterMap_nil, List.append_nil]
    exact hWorks.passage.balances hMode hNot hBalances

/-- Nothing is left on a cache before the factory has acquired it. -/
theorem Works.labels (r : Run compiler (founded limit k settings) p)
    (hMove : p.move compiler (.work i j) = some p')
    (hWorks : Works compiler p i j p' h h' w' t f mode f' mode') (hFiled : r.Filed i f.id h)
    (hNot : ¬ f'.Reported mode') {x : Marking} (hx : x ∈ (r.next (.work i j) hMove).markings)
    (hHub : x.hub = i) (hFactory : x.factory = f.id) : x.cache = f'.cache := by
  obtain ⟨hFile, hBalances⟩ :=
    hFiled.members t f mode hWorks.member rfl (hWorks.passage.not_reported hNot)
  have hTracks := (r.tracked hWorks.hub).members t f mode hWorks.member
  have hCache := hWorks.passage.cache_or_start hNot
  rcases List.mem_append.mp hx with hOld | hNew
  · obtain ⟨k, hSame, hLabel⟩ := hFiled.labels x hOld hHub hFactory
    obtain rfl := Option.some.inj (hFile.symm.trans hSame)
    rcases hCache with hKept | ⟨rfl, hPoint⟩
    · exact hLabel.trans hKept.symm
    · have hStart : f.state = .start := by
        have hAt := hTracks.2.2
        rwa [hPoint] at hAt
      have hMark := r.mark_mem_marks hOld hHub hFactory
      rw [hBalances.2.2 hStart] at hMark
      cases hMark
  · rcases hWorks.marked with ⟨rfl, reply, hTurn, rfl, hMarking⟩ | ⟨hMarking, _⟩
    · rw [hMarking, Option.mem_toList, Option.map_eq_some_iff] at hNew
      obtain ⟨mark, hMark, rfl⟩ := hNew
      refine (hCache.resolve_right fun ⟨_, hPoint⟩ => ?_).symm
      rw [hPoint] at hMark
      cases hMark
    · rw [hMarking] at hNew
      cases hNew

theorem Works.past (r : Run compiler (founded limit k settings) p)
    (hMove : p.move compiler (.work i j) = some p')
    (hWorks : Works compiler p i j p' h h' w' t f mode f' mode') (hFiled : r.Filed i f.id h)
    (hPast : f'.Reported mode') :
    (r.next (.work i j) hMove).file? i f.id = r.file? i f.id ∧
      (r.next (.work i j) hMove).markings = r.markings ∧
      ∃ k, r.file? i f.id = some k ∧ Books (r.marks i f.id) k false false := by
  have hOrderly := r.orderly i h hWorks.hub
  have hAfter : p'.hub? i = some h' := by rw [hWorks.hub?, if_pos rfl]
  have hMode : mode ≠ .working := by
    rintro rfl
    have hNot : ¬ f.Reported .working := by simp [Factory.Reported]
    cases hWorks.passage.reports_now hNot hPast
  refine ⟨?_, ?_, ?_⟩
  · have hDuty : h'.onDuty? f.id = none := by
      refine Hub.onDuty?_eq_none fun u k n hMember hId => ?_
      obtain ⟨rfl, rfl⟩ := hWorks.eq_of_id hOrderly hMember hId
      exact hPast
    rw [r.file?_next hMove hAfter, hDuty, Option.none_or]
  · have hMarking := (hWorks.marked.resolve_left fun hTurned => hMode hTurned.1).1
    rw [Run.markings, hMarking, Option.toList_none, List.append_nil]
  · by_cases hBefore : f.Reported mode
    · exact hFiled.past t f mode hWorks.member rfl hBefore
    · obtain rfl := hWorks.passage.reports_now hBefore hPast
      obtain ⟨hFile, hBooks⟩ := hFiled.members t f .leaving hWorks.member rfl hBefore
      exact ⟨f, hFile, hBooks⟩

theorem Works.filed_own (r : Run compiler (founded limit k settings) p)
    (hMove : p.move compiler (.work i j) = some p')
    (hWorks : Works compiler p i j p' h h' w' t f mode f' mode') (hFiled : r.Filed i f.id h) :
    (r.next (.work i j) hMove).Filed i f.id h' := by
  have hOrderly := r.orderly i h hWorks.hub
  have hAfter : p'.hub? i = some h' := by rw [hWorks.hub?, if_pos rfl]
  have hMember' : h'.pool.member? t = some (f', mode') := (hWorks.members t).trans (if_pos rfl)
  have hId' := hWorks.passage.identity.1
  have hOpen (hNot : ¬ f'.Reported mode') :
      (r.next (.work i j) hMove).file? i f.id = some f' := by
    rw [r.file?_next hMove hAfter, ← hId',
      (hWorks.orderly hOrderly).onDuty?_eq hMember' hNot, Option.some_or]
  constructor
  · intro u k n hMember hId hNot
    obtain ⟨rfl, rfl⟩ := hWorks.eq_of_id hOrderly hMember hId
    exact ⟨hOpen hNot, hWorks.balances r hMove hFiled hNot⟩
  · intro u k n hMember hId hPast
    obtain ⟨rfl, rfl⟩ := hWorks.eq_of_id hOrderly hMember hId
    obtain ⟨hFile, hMarkings, k, hSome, hBooks⟩ := hWorks.past r hMove hFiled hPast
    exact ⟨k, hFile.trans hSome, by rwa [Run.marks, hMarkings]⟩
  · exact fun hNone => absurd hId' (hNone t f' mode' hMember')
  · intro x hx hHub hFactory
    by_cases hPast : f'.Reported mode'
    · obtain ⟨hFile, hMarkings, _⟩ := hWorks.past r hMove hFiled hPast
      rw [hFile]
      exact hFiled.labels x (hMarkings ▸ hx) hHub hFactory
    · exact ⟨f', hOpen hPast, hWorks.labels r hMove hFiled hPast hx hHub hFactory⟩
  · intro report failure cache hEnded
    have hSure : f'.Reported mode' ∧
        ∃ k, r.file? i f.id = some k ∧ k.report = report ∧ k.cache = cache := by
      rw [r.sent_of_works hMove hWorks] at hEnded
      rcases List.mem_append.mp hEnded with hOld | hNew
      · obtain ⟨hPast, hKept⟩ := hFiled.ended report failure cache hOld
        refine ⟨?_, hKept⟩
        by_contra hNot
        exact hWorks.passage.not_reported hNot (hPast t f mode hWorks.member rfl)
      · rcases hWorks.passage.sentIn_cases with hSent | ⟨q, _, _, hSent⟩ |
          ⟨failure', hPoint, rfl, rfl, rfl, hSent⟩
        · rw [hSent] at hNew
          cases hNew
        · rw [hSent] at hNew
          cases List.mem_singleton.mp hNew
        · rw [hSent] at hNew
          cases List.mem_singleton.mp hNew
          have hNot : ¬ f.Reported .leaving := by simp [Factory.Reported, hPoint]
          exact ⟨f.reported_reported, f,
            (hFiled.members t f .leaving hWorks.member rfl hNot).1, rfl, rfl⟩
    obtain ⟨hPast, k, hSome, hSame⟩ := hSure
    refine ⟨fun u k n hMember hId => ?_, k, ?_, hSame⟩
    · obtain ⟨rfl, rfl⟩ := hWorks.eq_of_id hOrderly hMember hId
      exact hPast
    · exact (hWorks.past r hMove hFiled hPast).1.trans hSome

theorem Works.aside (r : Run compiler (founded limit k settings) p)
    (hMove : p.move compiler (.work i j) = some p')
    (hWorks : Works compiler p i j p' h h' w' t f mode f' mode') (hg : f.id ≠ g) :
    r.Aside hMove i g h h' := by
  constructor
  · rintro _ _ w k ⟨rfl, rfl⟩ hAt ⟨_, hId⟩
    rcases hWorks.work_or_not with ⟨hSame, _⟩ | ⟨hNone, _⟩
    · obtain ⟨_, rfl⟩ := Prod.mk.inj (Option.some.inj (hSame.symm.trans hAt))
      exact hg hId
    · rw [hNone] at hAt
      cases hAt
  · intro report failure cache hEnded
    rw [r.sent_of_works hMove hWorks] at hEnded
    refine (List.mem_append.mp hEnded).resolve_right fun hNew => ?_
    exact hg (hWorks.passage.of_ended hNew).1.symm
  · intro u k n hMember hId
    rw [hWorks.members] at hMember
    split at hMember
    next =>
      cases hMember
      exact absurd (hWorks.passage.identity.1.symm.trans hId) hg
    next => exact .inl hMember
  · intro u k n hMember hId
    rw [hWorks.members, if_neg, hMember]
    rintro rfl
    rw [hWorks.member] at hMember
    cases hMember
    exact hg hId

/-- Every move is a step of the worker of a factory, or leaves the factory aside. -/
theorem Run.aside_or_works (r : Run compiler (founded limit k settings) p)
    (hMove : p.move compiler m = some p') (hHub : p.hub? i = some h)
    (hStir : Stir compiler p m p' i h h') (g : FactoryId) :
    r.Aside hMove i g h h' ∨ ∃ j w' t f f' mode mode', m = .work i j ∧ f.id = g ∧
      Works compiler p i j p' h h' w' t f mode f' mode' := by
  cases hStir with
  | spared hSame hElsewhere =>
    subst hSame
    have hSent := r.sent_of_elsewhere hMove hElsewhere
    refine .inl ⟨?_, ?_, fun _ _ _ hMember _ => .inl hMember, fun _ _ _ hMember _ => hMember⟩
    · rintro k j w f rfl _ ⟨hk, _⟩
      exact hElsewhere hk
    · exact fun report failure cache hEnded => hSent ▸ hEnded
  | owned op hm hOpen hPerform =>
    subst hm hPerform
    have hOrderly := r.orderly i h hHub
    have hSent := r.sent_of_quiet hMove rfl i
    refine .inl ⟨?_, ?_, ?_, ?_⟩
    · intro k j w f hWork
      cases hWork
    · exact fun report failure cache hEnded => hSent ▸ hEnded
    · rintro t f n hMember rfl
      refine (Hub.member_perform hOrderly op hMember).imp_right ?_
      exact fun ⟨hNew, hMode⟩ => ⟨hOrderly.fresh f.id f hNew, hMode,
        fun u k o hOld => hOrderly.apart f.id f u k o hNew hOld⟩
    · exact fun t f n hMember _ => Hub.member_lasts hOrderly op hMember
  | worked j w' t f f' mode mode' hm hWorks =>
    subst hm
    by_cases hg : f.id = g
    · exact .inr ⟨j, w', t, f, f', mode, mode', rfl, hg, hWorks⟩
    · exact .inl (hWorks.aside r hMove hg)

/-- Every factory has a file, and it keeps the books. -/
theorem Run.filed (r : Run compiler (founded limit k settings) p) (hHub : p.hub? i = some h)
    (g : FactoryId) : r.Filed i g h := by
  refine r.along_hub (P := fun r h => r.Filed i g h) ?_ ?_ hHub
  · intro s
    constructor
    · intro t f mode hMember
      cases hMember
    · intro t f mode hMember
      cases hMember
    · exact fun _ => rfl
    · exact List.forall_mem_nil _
    · intro report failure cache hEnded
      cases hEnded
  · intro p p' r m hMove h h' hHub hStir ih
    have hAfter := hStir.hub? r.orderly hMove hHub
    rcases r.aside_or_works hMove hHub hStir g with
      hAside | ⟨j, w', t, f, f', mode, mode', rfl, rfl, hWorks⟩
    · exact ih.aside hMove hAfter hAside
    · exact hWorks.filed_own r hMove ih

end Runs

end Plant

end PipelineForge
