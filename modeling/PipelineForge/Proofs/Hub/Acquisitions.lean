import PipelineForge.Proofs.Hub.Files

/-!
# Acquisitions of caches

A factory asks the registry for its cache once at most, by the name that it was created with, and
hands in with its end what it got, however it ends. Whether somebody takes the end, and what is
stored in the cache, makes no difference here.
-/

namespace PipelineForge

open Factory (Event Turn sentIn)
open Tasks (Mode Reply TaskId)

/-- What a factory asked the registry for, and got. -/
structure Acquisition where
  name : String
  /-- Absent if the registry refused. -/
  cache : Option CacheId
deriving DecidableEq

namespace Factory

variable {κ : Type} {compiler : Compiler κ} {hub : Nat} {w w' : Floor κ} {f f' : Factory}
  {mode mode' : Mode State} {reply : Reply State} {asked : List Acquisition}

def acquisition? (w : Floor κ) (f : Factory) : Option Acquisition :=
  match f.point with
  | .acquiring => some ⟨f.cacheName, (w.registry.acquire f.cacheName).toOption.map Prod.snd⟩
  | _ => none

theorem Turn.acquires (h : Turn compiler hub w f w' f' reply) :
    f.acquisition? w = none ∧ f'.cache = f.cache ∨
      ∃ cache, f.point = .acquiring ∧ f.acquisition? w = some ⟨f.cacheName, cache⟩ ∧
        f'.cache = cache.or f.cache ∧ reply.mode ≠ .working := by
  cases h with
  | acquired registry id hPoint hAcquire =>
    refine .inr ⟨some id, hPoint, ?_, rfl, nofun⟩
    simp [acquisition?, hPoint, hAcquire, Except.toOption]
  | unacquired e hPoint hAcquire =>
    refine .inr ⟨none, hPoint, ?_, rfl, nofun⟩
    simp [acquisition?, hPoint, hAcquire, Except.toOption]
  | idle hPoint =>
    refine .inl ⟨?_, rfl⟩
    rcases hPoint with hPoint | ⟨failure, hPoint⟩ | hPoint <;> simp [acquisition?, hPoint]
  | _ => exact .inl ⟨by simp [acquisition?, *], rfl⟩

theorem Turn.onward (h : Turn compiler hub w f w' f' reply) :
    reply.mode ≠ .resting .start ∧ (reply.mode = .working → f'.state = f.state) := by
  cases h <;> exact ⟨nofun, fun _ => rfl⟩

theorem Passage.cacheName (h : Passage compiler hub w f mode w' f' mode') :
    f'.cacheName = f.cacheName := by
  cases h with
  | turned hTurn => cases hTurn <;> rfl
  | _ => rfl

/-- The factory has what it asked for, and has not asked yet before it has started. -/
def Provided (asked : List Acquisition) (f : Factory) (mode : Mode State) : Prop :=
  f.cache = asked.head?.bind Acquisition.cache ∧
    match mode with
    | .resting s => s = .start → asked = []
    | .working => f.state = .start → asked = []
    | _ => True

theorem Fresh.provided {key : FactoryId} (hFresh : f.Fresh key) :
    f.Provided [] (.resting .start) := by
  rw [hFresh]
  exact ⟨rfl, fun _ => rfl⟩

theorem Turn.provided (h : Turn compiler hub w f w' f' reply)
    (hProvided : f.Provided asked .working) (hAt : f.point.At f.state) :
    f'.Provided (asked ++ (f.acquisition? w).toList) reply.mode ∧
      (asked ++ (f.acquisition? w).toList).length ≤ max asked.length 1 := by
  obtain ⟨hCache, hStart⟩ := hProvided
  obtain ⟨hOnward, hStays⟩ := h.onward
  rcases h.acquires with ⟨hNone, hSame⟩ | ⟨cache, hPoint, hSome, hGot, hMode⟩
  · rw [hNone, Option.toList_none, List.append_nil]
    refine ⟨⟨hSame.trans hCache, ?_⟩, le_max_left _ _⟩
    cases hMode : reply.mode with
    | resting s =>
      rintro rfl
      exact absurd hMode hOnward
    | working => exact fun hState => hStart ((hStays hMode).symm.trans hState)
    | _ => trivial
  · have hYoung : asked = [] := hStart (by rwa [hPoint] at hAt)
    rw [hYoung] at hCache ⊢
    rw [hSome]
    refine ⟨⟨?_, ?_⟩, le_rfl⟩
    · rw [hGot, hCache]
      exact Option.or_none
    · cases hReply : reply.mode with
      | resting s =>
        rintro rfl
        exact absurd hReply hOnward
      | working => exact absurd hReply hMode
      | _ => trivial

theorem Passage.provided (h : Passage compiler hub w f mode w' f' mode') (hMode : mode ≠ .working)
    (hNot : ¬ f'.Reported mode') (hProvided : f.Provided asked mode) :
    f'.Provided asked mode' := by
  cases h with
  | still => exact hProvided
  | entered s => exact hProvided
  | stopped s => exact ⟨hProvided.1, trivial⟩
  | turned hTurn => exact absurd rfl hMode
  | told outcome => exact ⟨hProvided.1, trivial⟩
  | reported failure hPoint => exact absurd f.reported_reported hNot
  | signedOff hPoint => exact absurd (.inl rfl) hNot

end Factory

namespace Hub

def Op.cacheNameOf? (h : Hub) (g : FactoryId) : Op → Option String
  | .createFactory name cacheName slot =>
    match h.createFactory name cacheName slot with
    | .ok (_, f) => if f = g then some cacheName else none
    | .error _ => none
  | _ => none

variable {h : Hub} {g : FactoryId}

theorem key_createFactory {h' : Hub} {name cacheName : String} {slot : SlotId} {f : FactoryId}
    (hCreate : h.createFactory name cacheName slot = .ok (h', f)) : f = h.entries.nextKey := by
  rw [createFactory] at hCreate
  split at hCreate
  next => cases hCreate
  next =>
    cases hCreate
    exact Shelf.key_add _ _

theorem Op.eq_nextKey {op : Op} {name : String} (hName : op.cacheNameOf? h g = some name) :
    g = h.entries.nextKey := by
  cases op with
  | createFactory name cacheName slot =>
    rw [cacheNameOf?] at hName
    split at hName
    next f hCreate =>
      split at hName
      next hSame => exact hSame ▸ key_createFactory hCreate
      next => cases hName
    next => cases hName
  | _ => cases hName

theorem cacheNameOf?_newcomer {name cacheName : String} {slot : SlotId}
    (hSlot : (h.slot? slot).isNone = false) :
    (Op.createFactory name cacheName slot).cacheNameOf? h h.entries.nextKey = some cacheName := by
  simp [Op.cacheNameOf?, createFactory, hSlot, enroll, Shelf.key_add]

end Hub

namespace Plant

variable {κ : Type} {compiler : Compiler κ} {first p p' : Plant κ} {i j : Nat} {h h' : Hub}
  {g : FactoryId} {m : Move κ}

def acquisition? (p : Plant κ) (i : Nat) (g : FactoryId) : Move κ → Option Acquisition
  | .work k j =>
    (p.atWork? k j).bind fun (w, f) => if k = i ∧ f.id = g then f.acquisition? w else none
  | _ => none

def cacheNameOf? (p : Plant κ) (i : Nat) (g : FactoryId) (m : Move κ) : Option String :=
  match m.op? i, p.hub? i with
  | some op, some h => op.cacheNameOf? h g
  | _, _ => none

namespace Run

def acquisitions (i : Nat) (g : FactoryId) :
    {p : Plant κ} → Run compiler first p → List Acquisition
  | _, .start => []
  | _, @next _ _ _ p _ r m _ => r.acquisitions i g ++ (p.acquisition? i g m).toList

def cacheName? (i : Nat) (g : FactoryId) : {p : Plant κ} → Run compiler first p → Option String
  | _, .start => none
  | _, @next _ _ _ p _ r m _ => (p.cacheNameOf? i g m).or (r.cacheName? i g)

theorem cacheName?_aside (r : Run compiler first p) (hMove : p.move compiler m = some p')
    (hSpares : m.Spares i) (g : FactoryId) :
    (r.next m hMove).cacheName? i g = r.cacheName? i g := by
  simp only [cacheName?, Plant.cacheNameOf?, Move.op?_eq_none_iff.mpr hSpares, Option.none_or]

variable {limit : Option Nat} {k : κ} {settings : List HubSettings}

/-- A factory goes by the name of its cache for good. -/
theorem cacheName?_staff (r : Run compiler (founded limit k settings) p)
    (hHub : p.hub? i = some h) {f : Factory} (hStaff : h.Staff f) :
    r.cacheName? i f.id = some f.cacheName := by
  refine r.along_hub (P := fun r h => ∀ f, h.Staff f → r.cacheName? i f.id = some f.cacheName)
    ?_ ?_ hHub f hStaff
  · rintro s f (⟨key, hPending⟩ | ⟨t, mode, hMember⟩)
    · cases hPending
    · cases hMember
  · intro p p' r m hMove h h' hHub hStir ih f hStaff
    cases hStir with
    | spared hSame hElsewhere =>
      rw [r.cacheName?_aside hMove hElsewhere.spares]
      exact ih f (hSame ▸ hStaff)
    | worked j w' t k k' mode mode' hm hWorks =>
      subst hm
      rw [r.cacheName?_aside (m := .work i j) hMove trivial]
      rcases hWorks.staff hStaff with rfl | ⟨hOld, _⟩
      · rw [hWorks.passage.identity.1, hWorks.passage.cacheName]
        exact ih k (.inr ⟨t, mode, hWorks.member⟩)
      · exact ih f hOld
    | owned op hm hOpen hPerform =>
      subst hm hPerform
      have hOrderly := r.orderly i h hHub
      have hNext : (r.next (.own i op) hMove).cacheName? i f.id =
          (op.cacheNameOf? h f.id).or (r.cacheName? i f.id) := by
        simp only [cacheName?, Plant.cacheNameOf?, Move.op?, if_true, hHub]
      rw [hNext]
      rcases Hub.staff_perform hOrderly op hStaff with
        hOld | ⟨name, cacheName, slot, rfl, hSlot, rfl⟩
      · cases hName : op.cacheNameOf? h f.id with
        | none => rw [Option.none_or, ih f hOld]
        | some name =>
          -- The number of a new factory is one that no factory had.
          refine absurd (Hub.Op.eq_nextKey hName) (Nat.ne_of_lt ?_)
          rcases hOld with ⟨key, hPending⟩ | ⟨t, mode, hMember⟩
          · rw [hOrderly.fresh key f hPending, hOrderly.keyed hOpen]
            exact hOrderly.pending?_lt hOpen hPending
          · rw [hOrderly.keyed hOpen]
            exact hOrderly.known t f mode hMember
      · rw [show (h.newcomer name cacheName slot).id = h.entries.nextKey from rfl,
          Hub.cacheNameOf?_newcomer hSlot, Option.some_or]
        rfl

end Run

theorem Run.Aside.acquisition? {r : Run compiler first p} {hMove : p.move compiler m = some p'}
    (hAside : r.Aside hMove i g h h') : p.acquisition? i g m = none := by
  cases m with
  | work k j =>
    rw [Plant.acquisition?]
    cases hAt : p.atWork? k j with
    | none => rfl
    | some x =>
      obtain ⟨w, f⟩ := x
      exact if_neg (hAside.idle k j w f rfl hAt)
  | _ => rfl

theorem Works.acquires {w' : Factory.Floor κ} {t : TaskId} {f f' : Factory}
    {mode mode' : Mode Factory.State}
    (hWorks : Works compiler p i j p' h h' w' t f mode f' mode') :
    (mode = .working ∧ ∃ reply, Turn compiler i (p.floorOf h) f w' f' reply ∧ mode' = reply.mode ∧
      p.acquisition? i f.id (.work i j) = f.acquisition? (p.floorOf h)) ∨
    p.acquisition? i f.id (.work i j) = none ∧
      (w' = p.floorOf h ∧ f' = f ∧ mode' = mode ∨ mode ≠ .working) := by
  rcases hWorks.turn_or_not with ⟨hAt, hMode, reply, hTurn, hReply⟩ | ⟨hNone, hOther⟩
  · refine .inl ⟨hMode, reply, hTurn, hReply, ?_⟩
    rw [acquisition?, hAt, Option.bind_some]
    exact if_pos ⟨rfl, rfl⟩
  · refine .inr ⟨?_, hOther.imp_right And.left⟩
    rw [acquisition?, hNone, Option.bind_none]

namespace Run

/-- A factory has asked for its cache once at most, has what it got, and has handed it in with its
end. -/
structure Equipped (r : Run compiler first p) (i : Nat) (g : FactoryId) (h : Hub) : Prop where
  members : ∀ t f mode, h.pool.member? t = some (f, mode) → f.id = g → ¬ f.Reported mode →
    f.Provided (r.acquisitions i g) mode
  unstarted : (∀ t f mode, h.pool.member? t = some (f, mode) → f.id ≠ g) →
    r.acquisitions i g = []
  once : (r.acquisitions i g).length ≤ 1
  named : ∀ t f mode, h.pool.member? t = some (f, mode) → f.id = g →
    ∀ a ∈ r.acquisitions i g, a.name = f.cacheName
  ended : ∀ report failure cache, Event.ended g report failure cache ∈ r.sent i →
    cache = (r.acquisitions i g).head?.bind Acquisition.cache

theorem Equipped.aside {r : Run compiler first p} (hEquipped : r.Equipped i g h)
    (hMove : p.move compiler m = some p') (hAside : r.Aside hMove i g h h') :
    (r.next m hMove).Equipped i g h' := by
  have hSame : (r.next m hMove).acquisitions i g = r.acquisitions i g := by
    rw [acquisitions, hAside.acquisition?, Option.toList_none, List.append_nil]
  constructor
  · intro t f mode hMember hId hNot
    rw [hSame]
    rcases hAside.members t f mode hMember hId with hOld | ⟨hFresh, rfl, hNone⟩
    · exact hEquipped.members t f mode hOld hId hNot
    · rw [hEquipped.unstarted hNone]
      exact hFresh.provided
  · intro hNone
    rw [hSame]
    exact hEquipped.unstarted fun t f n hMember hId =>
      hNone t f n (hAside.lasts t f n hMember hId) hId
  · rw [hSame]
    exact hEquipped.once
  · intro t f mode hMember hId
    rw [hSame]
    rcases hAside.members t f mode hMember hId with hOld | ⟨_, _, hNone⟩
    · exact hEquipped.named t f mode hOld hId
    · rw [hEquipped.unstarted hNone]
      exact List.forall_mem_nil _
  · intro report failure cache hEnded
    rw [hSame]
    exact hEquipped.ended report failure cache (hAside.sent report failure cache hEnded)

end Run

section Runs

variable {limit : Option Nat} {k : κ} {settings : List HubSettings} {w' : Factory.Floor κ}
  {t : TaskId} {f f' : Factory} {mode mode' : Mode Factory.State}

theorem Works.acquisition?_of_reported
    (hWorks : Works compiler p i j p' h h' w' t f mode f' mode') (hPast : f'.Reported mode') :
    p.acquisition? i f.id (.work i j) = none := by
  rcases hWorks.acquires with ⟨_, reply, _, rfl, _⟩ | ⟨hNone, _⟩
  · exact absurd hPast (Factory.not_reported_reply f' reply)
  · exact hNone

theorem Works.equipped (r : Run compiler (founded limit k settings) p)
    (hMove : p.move compiler (.work i j) = some p')
    (hWorks : Works compiler p i j p' h h' w' t f mode f' mode')
    (hEquipped : r.Equipped i f.id h) : (r.next (.work i j) hMove).Equipped i f.id h' := by
  have hOrderly := r.orderly i h hWorks.hub
  have hMember' : h'.pool.member? t = some (f', mode') := (hWorks.members t).trans (if_pos rfl)
  have hNext : (r.next (.work i j) hMove).acquisitions i f.id =
      r.acquisitions i f.id ++ (p.acquisition? i f.id (.work i j)).toList := rfl
  have hAt := (r.tracked hWorks.hub).members t f mode hWorks.member
  have hKeeps (hNot : ¬ f'.Reported mode') :
      f'.Provided ((r.next (.work i j) hMove).acquisitions i f.id) mode' ∧
        ((r.next (.work i j) hMove).acquisitions i f.id).length ≤
          max (r.acquisitions i f.id).length 1 := by
    have hProvided := hEquipped.members t f mode hWorks.member rfl
      (hWorks.passage.not_reported hNot)
    rw [hNext]
    rcases hWorks.acquires with ⟨rfl, reply, hTurn, rfl, hSame⟩ | ⟨hNone, hOther⟩
    · rw [hSame]
      exact hTurn.provided hProvided hAt.2.2
    · rw [hNone, Option.toList_none, List.append_nil]
      refine ⟨?_, le_max_left _ _⟩
      rcases hOther with ⟨_, rfl, rfl⟩ | hMode
      · exact hProvided
      · exact hWorks.passage.provided hMode hNot hProvided
  have hRests (hPast : f'.Reported mode') :
      (r.next (.work i j) hMove).acquisitions i f.id = r.acquisitions i f.id := by
    rw [hNext, hWorks.acquisition?_of_reported hPast, Option.toList_none, List.append_nil]
  constructor
  · intro u l n hMember hId hNot
    obtain ⟨rfl, rfl⟩ := hWorks.eq_of_id hOrderly hMember hId
    exact (hKeeps hNot).1
  · exact fun hNone => absurd hWorks.passage.identity.1 (hNone t f' mode' hMember')
  · by_cases hPast : f'.Reported mode'
    · rw [hRests hPast]
      exact hEquipped.once
    · exact (hKeeps hPast).2.trans (max_le hEquipped.once le_rfl)
  · intro u l n hMember hId a hMem
    obtain ⟨rfl, rfl⟩ := hWorks.eq_of_id hOrderly hMember hId
    rw [hWorks.passage.cacheName]
    rcases List.mem_append.mp (hNext ▸ hMem) with hOld | hNew
    · exact hEquipped.named t f mode hWorks.member rfl a hOld
    · rcases hWorks.acquires with ⟨_, reply, hTurn, _, hSame⟩ | ⟨hNone, _⟩
      · rcases hTurn.acquires with ⟨hNone, _⟩ | ⟨cache, _, hSome, _⟩
        · rw [hSame, hNone] at hNew
          cases hNew
        · rw [hSame, hSome] at hNew
          obtain rfl := List.mem_singleton.mp hNew
          rfl
      · rw [hNone] at hNew
        cases hNew
  · intro report failure cache hEnded
    rw [r.sent_of_works hMove hWorks] at hEnded
    rcases List.mem_append.mp hEnded with hOld | hNew
    · -- The factory had reported before.
      have hPast := ((r.filed hWorks.hub f.id).ended report failure cache hOld).1 t f mode
        hWorks.member rfl
      rw [hRests (Classical.not_not.mp fun hNot => hWorks.passage.not_reported hNot hPast)]
      exact hEquipped.ended report failure cache hOld
    · rcases hWorks.passage.sentIn_cases with hSent | ⟨q, _, _, hSent⟩ |
        ⟨failure', hPoint, rfl, rfl, rfl, hSent⟩
      · rw [hSent] at hNew
        cases hNew
      · rw [hSent] at hNew
        cases List.mem_singleton.mp hNew
      · rw [hSent] at hNew
        cases List.mem_singleton.mp hNew
        rw [hRests f.reported_reported]
        exact (hEquipped.members t f .leaving hWorks.member rfl
          (by simp [Factory.Reported, hPoint])).1

theorem Run.equipped (r : Run compiler (founded limit k settings) p) (hHub : p.hub? i = some h)
    (g : FactoryId) : r.Equipped i g h := by
  refine r.along_hub (P := fun r h => r.Equipped i g h) ?_ ?_ hHub
  · intro s
    constructor
    · intro t f mode hMember
      cases hMember
    · exact fun _ => rfl
    · exact Nat.zero_le 1
    · intro t f mode hMember
      cases hMember
    · intro report failure cache hEnded
      cases hEnded
  · intro p p' r m hMove h h' hHub hStir ih
    rcases r.aside_or_works hMove hHub hStir g with
      hAside | ⟨j, w', t, f, f', mode, mode', rfl, rfl, hWorks⟩
    · exact ih.aside hMove hAside
    · exact hWorks.equipped r hMove ih

/-- A factory asked for its cache by the name that it was created with. -/
theorem Run.named_acquisition (r : Run compiler (founded limit k settings) p)
    (hHub : p.hub? i = some h) {a : Acquisition} (ha : a ∈ r.acquisitions i g) :
    r.cacheName? i g = some a.name := by
  have hEquipped := r.equipped hHub g
  by_contra hOther
  rw [hEquipped.unstarted] at ha
  · cases ha
  · rintro t f mode hMember rfl
    refine hOther ?_
    rw [hEquipped.named t f mode hMember rfl a ha]
    exact r.cacheName?_staff hHub (.inr ⟨t, mode, hMember⟩)

end Runs

end Plant

end PipelineForge
