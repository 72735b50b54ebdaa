import Mathlib.Data.List.Find
import PipelineForge.Proofs.Factory.Holdings
import PipelineForge.Proofs.Hub.Acquisitions

/-!
# Custody of caches

The cache that a factory hands in with its end is kept by its hub until somebody asks for it, and
given to the first one who does. A factory that is removed before its end is taken takes the claim
on its cache with it. What is stored in the caches stays there all the time.
-/

namespace PipelineForge

open Factory (Event Report endingsIn)

/-- A call that asks for the cache of a factory. -/
structure Claim where
  /-- The call removed the factory. -/
  removing : Bool
  /-- The end of the factory had been taken. -/
  late : Bool
  answer : Option CacheId
deriving DecidableEq

namespace Claim

/-- After this call nobody gets the cache any more. -/
def settles (c : Claim) : Bool := c.late || c.removing

/-- How the calls for a cache are answered when this is what was handed in and taken. -/
structure Settled (claims : List Claim) (gift : Option CacheId) : Prop where
  early : ∀ c ∈ claims, c.late = false → c.answer = none
  order : claims.Pairwise fun c d =>
    (c.settles = true → d.answer = none) ∧ (c.late = true → d.late = true)
  first : ∀ c, claims.find? settles = some c → c.late = true → c.answer = gift

variable {claims : List Claim} {gift : Option CacheId} {c : Claim}

theorem settled_nil (gift : Option CacheId) : Settled [] gift :=
  ⟨List.forall_mem_nil _, .nil, nofun⟩

theorem Settled.snoc (h : Settled claims gift) (hEarly : c.late = false → gift = none)
    (hOrder : ∀ d ∈ claims, d.late = true → c.late = true)
    (hAnswer : c.answer = if claims.any settles then none else gift) :
    Settled (claims ++ [c]) gift := by
  have hNone {d : Claim} (hd : d ∈ claims) (hSettles : d.settles = true) : c.answer = none := by
    rw [hAnswer, if_pos (List.any_eq_true.mpr ⟨d, hd, hSettles⟩)]
  constructor
  · intro d hd hLate
    rcases List.mem_append.mp hd with hOld | hNew
    · exact h.early d hOld hLate
    · obtain rfl := List.mem_singleton.mp hNew
      rw [hAnswer, hEarly hLate, ite_self]
  · refine List.pairwise_append.mpr ⟨h.order, List.pairwise_singleton _ _, fun d hd e he => ?_⟩
    obtain rfl := List.mem_singleton.mp he
    exact ⟨hNone hd, hOrder d hd⟩
  · intro d hFind hLate
    rw [List.find?_append] at hFind
    cases hOld : claims.find? settles with
    | some e =>
      rw [hOld, Option.some_or] at hFind
      exact h.first d (hOld.trans hFind) hLate
    | none =>
      rw [hOld, Option.none_or] at hFind
      obtain rfl := List.mem_singleton.mp (List.mem_of_find?_eq_some hFind)
      rw [hAnswer, if_neg]
      simpa using hOld

theorem Settled.of_early (h : Settled claims gift) (hEarly : ∀ c ∈ claims, c.late = false)
    (gift' : Option CacheId) : Settled claims gift' := by
  refine ⟨h.early, h.order, fun c hFind hLate => ?_⟩
  rw [hEarly c (List.mem_of_find?_eq_some hFind)] at hLate
  cases hLate

theorem Settled.countP_le_one (h : Settled claims gift) :
    claims.countP (·.answer.isSome) ≤ 1 := by
  obtain ⟨hEarly, hOrder, hFirst⟩ := h
  clear hFirst
  induction claims with
  | nil => exact Nat.zero_le 1
  | cons c claims ih =>
    obtain ⟨hFirst, hRest⟩ := List.pairwise_cons.mp hOrder
    rw [List.countP_cons]
    by_cases hSettles : c.settles = true
    · have hNone : claims.countP (·.answer.isSome) = 0 := by
        refine List.countP_eq_zero.mpr fun d hd => ?_
        rw [(hFirst d hd).1 hSettles]
        exact nofun
      rw [hNone]
      split <;> omega
    · have hLate : c.late = false := by
        cases hCase : c.late with
        | false => rfl
        | true => simp [settles, hCase] at hSettles
      rw [if_neg]
      · exact ih (fun d hd => hEarly d (List.mem_cons_of_mem _ hd)) hRest
      · simp [hEarly c List.mem_cons_self hLate]

theorem Settled.lost (h : Settled claims gift) (hc : c ∈ claims) (hRemoving : c.removing = true)
    (hLate : c.late = false) {d : Claim} (hd : d ∈ claims) : d.answer = none := by
  obtain ⟨front, back, rfl⟩ := List.append_of_mem hc
  obtain ⟨_, hBack, hFront⟩ := List.pairwise_append.mp h.order
  rcases List.mem_append.mp hd with hBefore | hAfter
  · refine h.early d hd ?_
    cases hCase : d.late with
    | false => rfl
    | true =>
      rw [(hFront d hBefore c List.mem_cons_self).2 hCase] at hLate
      cases hLate
  · rcases List.mem_cons.mp hAfter with rfl | hAfter
    · exact h.early d hd hLate
    · refine ((List.pairwise_cons.mp hBack).1 d hAfter).1 ?_
      rw [settles, hRemoving, Bool.or_true]

theorem Settled.first_late (h : Settled claims gift)
    (hKept : ∀ c ∈ claims, c.removing = true → c.late = true)
    (hFind : claims.find? Claim.late = some c) : c.answer = gift := by
  refine h.first c ?_ (List.find?_some hFind)
  rw [← hFind]
  refine List.find?_congr fun d hd => ?_
  cases hCase : d.removing with
  | false => rw [settles, hCase, Bool.or_false]
  | true => rw [settles, hKept d hd hCase, Bool.true_or]

end Claim

namespace Hub

def Op.claim? (h : Hub) (g : FactoryId) (late : Bool) : Op → Option Claim
  | .detach f => if f = g then some ⟨false, late, (h.detach g).2⟩ else none
  | .remove f => if f = g then some ⟨(h.entry? g).isSome, late, (h.remove g).2⟩ else none
  | _ => none

def handedIn (g : FactoryId) (events : List Event) : List (Option CacheId) :=
  events.filterMap fun
    | .ended f _ _ cache => if f = g then some cache else none
    | .made .. => none

theorem handedIn_append (g : FactoryId) (events more : List Event) :
    handedIn g (events ++ more) = handedIn g events ++ handedIn g more := List.filterMap_append

theorem length_handedIn (g : FactoryId) (events : List Event) :
    (handedIn g events).length = (endingsIn g events).length := by
  induction events with
  | nil => rfl
  | cons e events ih =>
    cases e with
    | made f s p => exact ih
    | ended f report failure cache =>
      by_cases hf : f = g
      · simpa [handedIn, endingsIn, hf] using ih
      · simpa [handedIn, endingsIn, hf] using ih

theorem mem_handedIn {g : FactoryId} {events : List Event} {cache : Option CacheId}
    (hMem : cache ∈ handedIn g events) :
    ∃ report failure, Event.ended g report failure cache ∈ events := by
  obtain ⟨e, he, hSome⟩ := List.mem_filterMap.mp hMem
  cases e with
  | made f s p => cases hSome
  | ended f report failure cache' =>
    obtain ⟨rfl, hSame⟩ := Option.ite_none_right_eq_some.mp hSome
    cases hSame
    exact ⟨report, failure, he⟩

/-- Where the hub keeps the cache of a factory; the factory has no drawer once it is removed. -/
def drawer? (h : Hub) (g : FactoryId) : Option (Option CacheId) := (h.entry? g).map Entry.cache

/-- What an operation does to the drawer of a factory. -/
inductive Handover (h : Hub) (op : Op) (h' : Hub) (g : FactoryId) : Prop where
  | kept (hDrawer : h'.drawer? g = h.drawer? g)
      (hNext : g < h'.entries.nextKey ↔ g < h.entries.nextKey)
      (hClaim : ∀ late, op.claim? h g late = none) (hTaken : handedIn g (op.entry h).taken = [])
  | enrolled (hNew : g = h.entries.nextKey) (hDrawer : h'.drawer? g = some none)
      (hNext : g < h'.entries.nextKey) (hClaim : ∀ late, op.claim? h g late = none)
      (hTaken : handedIn g (op.entry h).taken = [])
  | received (report : Report) (failure : Option ForgeError) (cache : Option CacheId)
      (events : List Event) (hEvents : h.office.events = .ended g report failure cache :: events)
      (hDrawer : h'.drawer? g = (h.drawer? g).map fun _ => cache)
      (hNext : h'.entries.nextKey = h.entries.nextKey)
      (hClaim : ∀ late, op.claim? h g late = none)
      (hTaken : handedIn g (op.entry h).taken = [cache])
  | claimed (removing : Bool) (hRemoving : removing = true → (h.drawer? g).isSome = true)
      (hDrawer : h'.drawer? g = if removing then none else (h.drawer? g).map fun _ => none)
      (hNext : h'.entries.nextKey = h.entries.nextKey)
      (hClaim : ∀ late, op.claim? h g late = some ⟨removing, late, (h.drawer? g).join⟩)
      (hTaken : handedIn g (op.entry h).taken = [])
  | closed (hClosed : h'.office.isOpen = false) (hClaim : ∀ late, op.claim? h g late = none)
      (hTaken : handedIn g (op.entry h).taken = [])

variable {h h' : Hub} {g : FactoryId}

theorem drawer?_of_entry {e : Entry} (hEntry : h.entry? g = some e) :
    h.drawer? g = some e.cache := congrArg (Option.map Entry.cache) hEntry

theorem Handover.of_entries {op : Op} (hEntries : h'.entries = h.entries)
    (hClaim : ∀ late, op.claim? h g late = none) (hTaken : handedIn g (op.entry h).taken = []) :
    Handover h op h' g := by
  refine .kept ?_ (by rw [hEntries]) hClaim hTaken
  rw [drawer?, Hub.entry?, hEntries]
  rfl

theorem drawer?_setEntry (h : Hub) (f : FactoryId) (e : Entry) (g : FactoryId) :
    Hub.drawer? (h.setEntry f e) g =
      if g = f then (h.drawer? f).map fun _ => e.cache else h.drawer? g := by
  rw [drawer?, Hub.entry?_setEntry]
  split
  · rw [drawer?, Option.map_map, Option.map_map]
    rfl
  · rfl

theorem handover_start (h : Hub) (f g : FactoryId) :
    Handover h (.start f) (h.perform (.start f)) g := by
  rcases h.perform_start_cases f with hSame | ⟨e, factory, line, hEntry, hFactory, hStart⟩
  · exact .of_entries (congrArg entries hSame) (fun _ => rfl) rfl
  · rw [hStart]
    refine .kept ?_ Iff.rfl (fun _ => rfl) rfl
    refine (drawer?_setEntry { h with pool := (h.pool.run factory .start).1 } f _ g).trans ?_
    split
    next hg =>
      subst hg
      exact (congrArg (Option.map fun _ => e.cache) (drawer?_of_entry hEntry)).trans
        (drawer?_of_entry hEntry).symm
    next => rfl

theorem handover_dismiss (h : Hub) (f g : FactoryId) :
    Handover h (.dismiss f) (h.perform (.dismiss f)) g := by
  cases hEntry : h.entry? f with
  | none =>
    rw [perform_dismiss_none hEntry]
    exact .of_entries rfl (fun _ => rfl) rfl
  | some e =>
    refine .kept ?_ ?_ (fun _ => rfl) rfl
    · rw [drawer?, entry?_dismiss hEntry]
      split
      next hBoth => rw [hBoth.1, drawer?_of_entry hEntry, Option.map_some]
      next => rfl
    · rw [entries_dismiss hEntry]
      split <;> exact Iff.rfl

theorem handover_take (h : Hub) (g : FactoryId) : Handover h .take (h.perform .take) g := by
  cases hEvents : h.office.events with
  | nil =>
    rw [perform_take_nil hEvents]
    refine .of_entries rfl (fun _ => rfl) ?_
    simp [Op.entry, hEvents, handedIn]
  | cons e events =>
    have hTaken : (Op.take.entry h).taken = [e] := congrArg Chronicle.taken (entry_take hEvents)
    rw [perform_take_cons hEvents]
    cases e with
    | made f s p =>
      refine .of_entries ?_ (fun _ => rfl) (by rw [hTaken]; rfl)
      rw [applyEvent, deliver]
      split
      · rfl
      · split <;> rfl
    | ended f report failure cache =>
      have hDrawer : Hub.drawer? (applyEvent { h with office := { h.office with events } } {}
          (.ended f report failure cache)).1 g =
          if g = f then (h.drawer? g).map fun _ => cache else h.drawer? g := by
        simp only [applyEvent, conclude]
        split
        next hNone =>
          have hNone : h.drawer? f = none := congrArg (Option.map Entry.cache) hNone
          split
          next hg =>
            rw [hg, hNone]
            exact hNone
          next => rfl
        next =>
          rw [drawer?_setEntry]
          split
          next hg => rw [hg]; rfl
          next => rfl
      have hNext : (applyEvent { h with office := { h.office with events } } {}
          (.ended f report failure cache)).1.entries.nextKey = h.entries.nextKey := by
        simp only [applyEvent, conclude]
        split <;> rfl
      by_cases hg : g = f
      · subst hg
        rw [if_pos rfl] at hDrawer
        refine .received report failure cache events hEvents hDrawer hNext (fun _ => rfl) ?_
        simp [hTaken, handedIn]
      · rw [if_neg hg] at hDrawer
        refine .kept hDrawer (by rw [hNext]) (fun _ => rfl) ?_
        simp [hTaken, handedIn, Ne.symm hg]

theorem handover_detach (h : Hub) (f g : FactoryId) :
    Handover h (.detach f) (h.perform (.detach f)) g := by
  have hNext : (h.perform (.detach f)).entries.nextKey = h.entries.nextKey := by
    rw [perform, detach]
    split <;> rfl
  have hDrawer : (h.perform (.detach f)).drawer? g =
      if g = f then (h.drawer? f).map fun _ => none else h.drawer? g := by
    rw [perform, detach]
    split
    next hNone =>
      split
      next hg => rw [hg, drawer?, hNone]; rfl
      next => rfl
    next => exact drawer?_setEntry h f _ g
  by_cases hg : g = f
  · subst hg
    rw [if_pos rfl] at hDrawer
    refine .claimed false (absurd · Bool.false_ne_true) hDrawer hNext (fun late => ?_) rfl
    have hAnswer : (h.detach g).2 = (h.drawer? g).join := by
      rw [detach, drawer?]
      cases h.entry? g <;> rfl
    rw [Op.claim?, if_pos rfl, hAnswer]
  · rw [if_neg hg] at hDrawer
    exact .kept hDrawer (by rw [hNext]) (fun _ => if_neg (Ne.symm hg)) rfl

theorem handover_remove (hOrderly : h.Orderly) (f g : FactoryId) :
    Handover h (.remove f) (h.perform (.remove f)) g := by
  by_cases hg : g = f
  · subst hg
    refine .claimed (h.entry? g).isSome (fun hSome => ?_) ?_ ?_ (fun late => ?_) rfl
    · rw [drawer?, Option.isSome_map]
      exact hSome
    · cases hEntry : h.entry? g with
      | none =>
        rw [perform_remove_none hEntry, drawer?, hEntry]
        rfl
      | some e =>
        rw [drawer?, entry?_remove hOrderly.shelf hEntry, if_pos rfl]
        rfl
    · cases hEntry : h.entry? g with
      | none => rw [perform_remove_none hEntry]
      | some e => rw [entries_remove hEntry, Shelf.nextKey_remove]
    · have hAnswer : (h.remove g).2 = (h.drawer? g).join := by
        rw [remove, drawer?]
        cases h.entry? g <;> rfl
      rw [Op.claim?, if_pos rfl, hAnswer]
  · have hClaim (late : Bool) : (Op.remove f).claim? h g late = none := if_neg (Ne.symm hg)
    cases hEntry : h.entry? f with
    | none =>
      rw [perform_remove_none hEntry]
      exact .of_entries rfl hClaim rfl
    | some e =>
      refine .kept ?_ ?_ hClaim rfl
      · rw [drawer?, entry?_remove hOrderly.shelf hEntry, if_neg hg]
        rfl
      · rw [entries_remove hEntry, Shelf.nextKey_remove]

theorem handover_createFactory (hOrderly : h.Orderly) (name cacheName : String) (slot : SlotId)
    (g : FactoryId) : Handover h (.createFactory name cacheName slot)
      (h.perform (.createFactory name cacheName slot)) g := by
  rw [perform_createFactory]
  split
  · exact .of_entries rfl (fun _ => rfl) rfl
  · have hEntry := entry?_withNewcomer hOrderly name cacheName slot g
    have hNext : (h.withNewcomer name cacheName slot).entries.nextKey = h.entries.nextKey + 1 :=
      Shelf.nextKey_add _ _
    by_cases hg : g = h.entries.nextKey
    · rw [if_pos hg] at hEntry
      refine .enrolled hg (drawer?_of_entry hEntry) ?_ (fun _ => rfl) rfl
      rw [hNext, hg]
      exact Nat.lt_succ_self _
    · rw [if_neg hg] at hEntry
      refine .kept (congrArg (Option.map Entry.cache) hEntry) ?_ (fun _ => rfl) rfl
      rw [hNext]
      exact ⟨fun hLt => Nat.lt_of_le_of_ne (Nat.le_of_lt_succ hLt) hg, Nat.lt_succ_of_lt⟩

theorem perform_handover (hOrderly : h.Orderly) (op : Op) (g : FactoryId) :
    Handover h op (h.perform op) g := by
  cases op with
  | createSlot => exact .of_entries rfl (fun _ => rfl) rfl
  | removeSlot s => exact .of_entries rfl (fun _ => rfl) rfl
  | createFactory name cacheName slot => exact handover_createFactory hOrderly name cacheName slot g
  | register f c =>
    refine .of_entries ?_ (fun _ => rfl) rfl
    rw [perform, register]
    split <;> rfl
  | closeInbox f =>
    refine .of_entries ?_ (fun _ => rfl) rfl
    rw [perform]
    split <;> rfl
  | wake f =>
    refine .of_entries ?_ (fun _ => rfl) rfl
    rw [perform, wake]
    split <;> rfl
  | start f => exact handover_start h f g
  | take => exact handover_take h g
  | detach f => exact handover_detach h f g
  | remove f => exact handover_remove hOrderly f g
  | dismiss f => exact handover_dismiss h f g
  | markShutDown => exact .of_entries rfl (fun _ => rfl) rfl
  | close => exact .closed rfl (fun _ => rfl) rfl

/-- The calls for the cache of a factory were answered as it was handed in and taken, and only
then late. -/
structure Answered (g : FactoryId) (claims : List Claim) (taken : List Event) : Prop where
  settled : Claim.Settled claims (handedIn g taken).head?.join
  late : ∀ c ∈ claims, c.late = true → handedIn g taken ≠ []

/-- The drawer of a factory stays until the factory is removed, and keeps what was handed in until
the first call for it. -/
structure Custody (h : Hub) (g : FactoryId) (claims : List Claim) (taken : List Event) : Prop where
  unborn : ¬ g < h.entries.nextKey → ∀ c ∈ claims, c.removing = false
  removed : g < h.entries.nextKey → (h.drawer? g = none ↔ ∃ c ∈ claims, c.removing = true)
  held : (h.drawer? g).join =
    if claims.any Claim.settles then none else (handedIn g taken).head?.join

theorem custody_initial (settings : HubSettings) (g : FactoryId) :
    ({ settings } : Hub).Custody g [] [] :=
  ⟨fun _ => List.forall_mem_nil _, fun hLt => absurd hLt (Nat.not_lt_zero g), rfl⟩

section Perform

variable {claims : List Claim} {taken : List Event} {op : Op}

theorem Answered.perform (hAnswered : Answered g claims taken) (hCustody : h.Custody g claims taken)
    (hHandover : Handover h op h' g)
    (hFirst : ∀ report failure cache, Event.ended g report failure cache ∈ h.office.events →
      handedIn g taken = []) :
    Answered g (claims ++ (op.claim? h g (!(handedIn g taken).isEmpty)).toList)
      (taken ++ (op.entry h).taken) := by
  obtain ⟨hSettled, hLate⟩ := hAnswered
  have hSame (hClaim : ∀ late, op.claim? h g late = none)
      (hTaken : handedIn g (op.entry h).taken = []) :
      Answered g (claims ++ (op.claim? h g (!(handedIn g taken).isEmpty)).toList)
        (taken ++ (op.entry h).taken) := by
    rw [hClaim, Option.toList_none, List.append_nil]
    constructor
    · rw [handedIn_append, hTaken, List.append_nil]
      exact hSettled
    · rw [handedIn_append, hTaken, List.append_nil]
      exact hLate
  cases hHandover with
  | kept hDrawer hNext hClaim hTaken => exact hSame hClaim hTaken
  | enrolled hNew hDrawer hNext hClaim hTaken => exact hSame hClaim hTaken
  | closed hClosed hClaim hTaken => exact hSame hClaim hTaken
  | received report failure cache events hEvents hDrawer hNext hClaim hTaken =>
    have hNone := hFirst report failure cache (hEvents ▸ List.mem_cons_self)
    have hEarly (c : Claim) (hc : c ∈ claims) : c.late = false :=
      Bool.eq_false_iff.mpr fun hYes => hLate c hc hYes hNone
    rw [hClaim, Option.toList_none, List.append_nil]
    refine ⟨hSettled.of_early hEarly _, fun c hc hYes => ?_⟩
    rw [hEarly c hc] at hYes
    cases hYes
  | claimed removing hRemoving hDrawer hNext hClaim hTaken =>
    rw [hClaim, Option.toList_some]
    constructor
    · rw [handedIn_append, hTaken, List.append_nil]
      refine hSettled.snoc ?_ ?_ hCustody.held
      · intro hEarly
        rw [Bool.not_eq_false', List.isEmpty_iff] at hEarly
        rw [hEarly]
        rfl
      · intro d hd hYes
        rw [Bool.not_eq_true', List.isEmpty_eq_false_iff]
        exact hLate d hd hYes
    · intro c hc hYes
      rw [handedIn_append, hTaken, List.append_nil]
      rcases List.mem_append.mp hc with hOld | hNew
      · exact hLate c hOld hYes
      · obtain rfl := List.mem_singleton.mp hNew
        simpa using hYes

theorem Custody.perform (hCustody : h.Custody g claims taken) (hAnswered : Answered g claims taken)
    (hOrderly : h.Orderly) (hHandover : Handover h op h' g) (hOpen : h'.office.isOpen = true)
    (hFirst : ∀ report failure cache, Event.ended g report failure cache ∈ h.office.events →
      g < h.entries.nextKey ∧ handedIn g taken = []) :
    h'.Custody g (claims ++ (op.claim? h g (!(handedIn g taken).isEmpty)).toList)
      (taken ++ (op.entry h).taken) := by
  obtain ⟨hUnborn, hRemoved, hHeld⟩ := hCustody
  cases hHandover with
  | kept hDrawer hNext hClaim hTaken =>
    rw [hClaim, Option.toList_none, List.append_nil]
    constructor
    · rw [hNext]
      exact hUnborn
    · rw [hNext, hDrawer]
      exact hRemoved
    · rw [hDrawer, handedIn_append, hTaken, List.append_nil]
      exact hHeld
  | enrolled hNew hDrawer hNext hClaim hTaken =>
    rw [hClaim, Option.toList_none, List.append_nil]
    have hNone : h.drawer? g = none := by
      rw [drawer?, Hub.entry?, hNew, hOrderly.shelf.get?_nextKey]
      rfl
    constructor
    · exact fun hNot => absurd hNext hNot
    · intro _
      rw [hDrawer]
      refine iff_of_false (Option.some_ne_none _) ?_
      rintro ⟨c, hc, hYes⟩
      rw [hUnborn (by rw [hNew]; exact Nat.lt_irrefl _) c hc] at hYes
      cases hYes
    · rw [hDrawer, handedIn_append, hTaken, List.append_nil, ← hHeld, hNone]
      rfl
  | received report failure cache events hEvents hDrawer hNext hClaim hTaken =>
    obtain ⟨hKnown, hNone⟩ := hFirst report failure cache (hEvents ▸ List.mem_cons_self)
    have hRemoved := hRemoved hKnown
    rw [hClaim, Option.toList_none, List.append_nil]
    constructor
    · exact fun hNot => absurd (hNext ▸ hKnown) hNot
    · intro _
      rw [hDrawer, Option.map_eq_none_iff]
      exact hRemoved
    · rw [hDrawer, handedIn_append, hNone, hTaken]
      cases hBefore : h.drawer? g with
      | none =>
        -- The factory was removed, and what it handed in is dropped.
        obtain ⟨c, hc, hYes⟩ := hRemoved.mp hBefore
        rw [if_pos (List.any_eq_true.mpr ⟨c, hc, by rw [Claim.settles, hYes, Bool.or_true]⟩)]
        rfl
      | some before =>
        rw [if_neg]
        · rfl
        · rw [List.any_eq_true]
          rintro ⟨c, hc, hSettles⟩
          rcases (Bool.or_eq_true _ _).mp hSettles with hYes | hYes
          · exact hAnswered.late c hc hYes hNone
          · rw [hRemoved.mpr ⟨c, hc, hYes⟩] at hBefore
            cases hBefore
  | claimed removing hRemoving hDrawer hNext hClaim hTaken =>
    rw [hClaim, Option.toList_some]
    constructor
    · intro hNot c hc
      rcases List.mem_append.mp hc with hOld | hNew
      · exact hUnborn (hNext ▸ hNot) c hOld
      · obtain rfl := List.mem_singleton.mp hNew
        refine Bool.eq_false_iff.mpr fun hYes => hNot ?_
        obtain ⟨cache, hSome⟩ := Option.isSome_iff_exists.mp (hRemoving hYes)
        obtain ⟨e, hEntry, _⟩ := Option.map_eq_some_iff.mp hSome
        exact hNext ▸ hOrderly.entry?_lt hEntry
    · intro hLt
      have hRemoved := hRemoved (hNext ▸ hLt)
      rw [hDrawer]
      cases removing with
      | true => simp
      | false => simp [hRemoved]
    · have hNone : (if removing then none else (h.drawer? g).map fun _ => none).join =
          (none : Option CacheId) := by
        cases removing with
        | true => rfl
        | false => cases h.drawer? g <;> rfl
      rw [hDrawer, hNone, handedIn_append, hTaken, List.append_nil]
      cases handedIn g taken with
      | nil => exact (ite_self none).symm
      | cons cache more => simp [Claim.settles]
  | closed hClosed =>
    rw [hClosed] at hOpen
    cases hOpen

end Perform

theorem Parted.first_ended {sent : List Event} {c : Chronicle} (hParted : h.Parted sent)
    (hDelivered : h.Delivered c sent) (hOrderly : h.Orderly) (hOpen : h.office.isOpen = true)
    {report : Report} {failure : Option ForgeError} {cache : Option CacheId}
    (hEnded : Event.ended g report failure cache ∈ h.office.events) :
    g < h.entries.nextKey ∧ handedIn g c.taken = [] := by
  have hAwaited := endingsIn_ne_nil ⟨report, failure, cache, hEnded⟩
  constructor
  · have hSent : endingsIn g sent ≠ [] :=
      hDelivered.endings g ▸ List.append_ne_nil_of_right_ne_nil _ hAwaited
    obtain ⟨t, f, mode, hMember, rfl, _⟩ := hParted.member_of_endings hSent
    rw [hOrderly.keyed hOpen]
    exact hOrderly.known t f mode hMember
  · have hOnce := hParted.length_endings g
    rw [hDelivered.endings g, List.length_append] at hOnce
    have hMore := List.length_pos_iff.mpr hAwaited
    refine List.length_eq_zero_iff.mp ?_
    rw [length_handedIn]
    omega

end Hub

namespace Plant

variable {κ : Type} {compiler : Compiler κ} {first p p' q : Plant κ} {i : Nat} {h h' : Hub}
  {g : FactoryId} {m : Move κ}

def claim? (p : Plant κ) (i : Nat) (g : FactoryId) (late : Bool) (m : Move κ) : Option Claim :=
  match m.op? i, p.hub? i with
  | some op, some h => op.claim? h g late
  | _, _ => none

def Run.claims (i : Nat) (g : FactoryId) : {p : Plant κ} → Run compiler first p → List Claim
  | _, .start => []
  | _, @next _ _ _ p _ r m _ => r.claims i g ++
      (p.claim? i g (!(Hub.handedIn g (r.chronicle i).taken).isEmpty) m).toList

theorem Run.claims_aside (r : Run compiler first p) (hMove : p.move compiler m = some p')
    (hSpares : m.Spares i) (g : FactoryId) :
    (r.next m hMove).claims i g = r.claims i g := by
  simp only [claims, claim?, Move.op?_eq_none_iff.mpr hSpares, Option.toList_none, List.append_nil]

section Runs

variable {limit : Option Nat} {k : κ} {settings : List HubSettings}

theorem Run.custody (r : Run compiler (founded limit k settings) p) (hHub : p.hub? i = some h)
    (g : FactoryId) : Hub.Answered g (r.claims i g) (r.chronicle i).taken ∧
      (h.office.isOpen = true → h.Custody g (r.claims i g) (r.chronicle i).taken) := by
  refine r.along_hub (P := fun r h => Hub.Answered g (r.claims i g) (r.chronicle i).taken ∧
    (h.office.isOpen = true → h.Custody g (r.claims i g) (r.chronicle i).taken)) ?_ ?_ hHub
  · exact fun s => ⟨⟨Claim.settled_nil _, List.forall_mem_nil _⟩,
      fun _ => Hub.custody_initial s g⟩
  · intro p p' r m hMove h h' hHub hStir ih
    cases hStir with
    | spared hSame hElsewhere =>
      rw [r.claims_aside hMove hElsewhere.spares, r.chronicle_aside hMove hElsewhere.spares, hSame]
      exact ih
    | worked j w' t f f' mode mode' hm hWorks =>
      subst hm
      rw [r.claims_aside (m := .work i j) hMove trivial,
        r.chronicle_aside (m := .work i j) hMove trivial]
      refine ih.imp_right fun hCustody hOpen => ?_
      have hBefore := hCustody (by rw [hWorks.office, hWorks.passage.isOpen] at hOpen; exact hOpen)
      have hDrawer : h'.drawer? g = h.drawer? g := by
        rw [Hub.drawer?, Hub.entry?, hWorks.entries]
        rfl
      exact ⟨hWorks.entries ▸ hBefore.unborn, hWorks.entries ▸ hDrawer ▸ hBefore.removed,
        hDrawer ▸ hBefore.held⟩
    | owned op hm hOpen hPerform =>
      subst hm hPerform
      obtain ⟨hAnswered, hCustody⟩ := ih
      have hOrderly := r.orderly i h hHub
      have hHandover := Hub.perform_handover hOrderly op g
      have hFirst (report : Report) (failure : Option ForgeError) (cache : Option CacheId)
          (hEnded : Event.ended g report failure cache ∈ h.office.events) :=
        (r.parted hHub hOpen).first_ended (r.delivered hHub hOpen) hOrderly hOpen hEnded
      have hClaims : (r.next (.own i op) hMove).claims i g = r.claims i g ++
          (op.claim? h g (!(Hub.handedIn g (r.chronicle i).taken).isEmpty)).toList := by
        simp only [Run.claims, claim?, Move.op?, if_true, hHub]
      rw [hClaims, r.chronicle_own hHub hMove]
      refine ⟨hAnswered.perform (hCustody hOpen) hHandover fun report failure cache hEnded =>
        (hFirst report failure cache hEnded).2, fun hOpen' => ?_⟩
      exact (hCustody hOpen).perform hAnswered hOrderly hHandover hOpen' hFirst

/-- What is stored stays stored unless somebody destroys the caches. -/
theorem Run.extends (hCaches : compiler.LeavesCaches)
    (r : Run compiler (founded limit k settings) p) (s : Run compiler p q)
    (hKept : ∀ l, .destroy l ∉ s.moves) : p.registry.Extends q.registry := by
  induction s with
  | start => exact .refl _
  | @next q q' s m hMove ih =>
    have hBefore := ih fun l hMem => hKept l (List.mem_append_left _ hMem)
    refine hBefore.trans ?_
    cases m with
    | own j op =>
      obtain ⟨h, _, _, rfl⟩ := move_own hMove
      exact .refl _
    | work j l =>
      obtain ⟨h, h', w', t, f, mode, f', mode', hWorks⟩ :=
        step_works (r.trans s).orderly.sound hMove
      rw [hWorks.after]
      exact hWorks.passage.extends hCaches
    | compiler c =>
      cases hMove
      exact .refl _
    | destroy l => exact absurd (List.mem_append_right _ (List.mem_singleton_self _)) (hKept l)

/-- The first call for the cache of a factory after its end was taken is answered with what the
factory handed in. -/
theorem Run.first_late (r : Run compiler (founded limit k settings) p) (hHub : p.hub? i = some h)
    {c : Claim} (hKept : ∀ d ∈ r.claims i g, d.removing = true → d.late = true)
    (hFind : (r.claims i g).find? Claim.late = some c) :
    ∃ report failure, Event.ended g report failure c.answer ∈ (r.chronicle i).taken := by
  have hAnswered := (r.custody hHub g).1
  have hAnswer := hAnswered.settled.first_late hKept hFind
  cases hTaken : Hub.handedIn g (r.chronicle i).taken with
  | nil =>
    exact absurd hTaken
      (hAnswered.late c (List.mem_of_find?_eq_some hFind) (List.find?_some hFind))
  | cons cache more =>
    obtain rfl : c.answer = cache := by
      rw [hAnswer, hTaken]
      rfl
    exact Hub.mem_handedIn (hTaken ▸ List.mem_cons_self)

/-- A factory gave back what it got from the registry by the name that it was created with. -/
theorem Run.handed_in_iff (r : Run compiler (founded limit k settings) p)
    (hHub : p.hub? i = some h) {report : Report} {failure : Option ForgeError}
    {cache : Option CacheId} (hEnded : Event.ended g report failure cache ∈ r.sent i)
    (id : CacheId) : cache = some id ↔
      ∃ name, r.cacheName? i g = some name ∧ r.acquisitions i g = [⟨name, some id⟩] := by
  have hEquipped := r.equipped hHub g
  rw [hEquipped.ended report failure cache hEnded]
  constructor
  · intro hSome
    obtain ⟨a, hHead, hCache⟩ := Option.bind_eq_some_iff.mp hSome
    obtain ⟨more, hMore⟩ := List.head?_eq_some_iff.mp hHead
    have hOnce := hEquipped.once
    rw [hMore, List.length_cons] at hOnce
    obtain rfl := List.length_eq_zero_iff.mp (Nat.le_zero.mp (Nat.le_of_succ_le_succ hOnce))
    refine ⟨a.name, r.named_acquisition hHub (hMore ▸ List.mem_singleton_self a), ?_⟩
    rw [hMore, ← hCache]
  · rintro ⟨name, _, hOne⟩
    rw [hOne]
    rfl

/-- A hub hands out the cache of a factory once at most. A call for it gets nothing before the end
of the factory is taken; the first one afterwards gets what the factory handed in, which is the
cache that it got from the registry by its name, if it got one, however it ended. If the factory
was removed before, no call ever gets its cache. The calls leave the caches as they are, and what
is stored in a cache stays there until somebody destroys the caches. -/
theorem cache_handed_out_once (r : Run compiler (founded limit k settings) p)
    (hHub : p.hub? i = some h) (g : FactoryId) :
    (r.claims i g).countP (·.answer.isSome) ≤ 1 ∧
    (∀ c ∈ r.claims i g, c.late = false → c.answer = none) ∧
    ((∀ c ∈ r.claims i g, c.removing = true → c.late = true) →
      ∀ c, (r.claims i g).find? Claim.late = some c →
        (∃ report failure, Event.ended g report failure c.answer ∈ (r.chronicle i).taken) ∧
        ∀ id, c.answer = some id ↔
          ∃ name, r.cacheName? i g = some name ∧ r.acquisitions i g = [⟨name, some id⟩]) ∧
    (∀ c ∈ r.claims i g, c.removing = true → c.late = false →
      ∀ d ∈ r.claims i g, d.answer = none) ∧
    (r.acquisitions i g).length ≤ 1 ∧
    (∀ op q, p.move compiler (.own i op) = some q → q.registry = p.registry) ∧
    (compiler.LeavesCaches → ∀ {q : Plant κ} (s : Run compiler p q), (∀ l, .destroy l ∉ s.moves) →
      p.registry.Extends q.registry) := by
  have hSettled := (r.custody hHub g).1.settled
  refine ⟨hSettled.countP_le_one, hSettled.early, fun hKept c hFind => ?_,
    fun c hc hRemoving hLate d hd => hSettled.lost hc hRemoving hLate hd,
    (r.equipped hHub g).once, fun op q hMove => ?_, fun hCaches q s => r.extends hCaches s⟩
  · obtain ⟨report, failure, hTaken⟩ := r.first_late hHub hKept hFind
    exact ⟨⟨report, failure, hTaken⟩,
      r.handed_in_iff hHub ((r.taken_prefix hHub).subset hTaken)⟩
  · obtain ⟨_, _, _, rfl⟩ := move_own hMove
    rfl

/-- A run with a limit of one cache. The first factory gets it, the second one asks for another one,
and the third one is removed while it works with the first one's. -/
def keepingRun : (p : Plant Device) × Run Device.compiler (founded (some 1) {} [{}]) p :=
  Run.start.along <| List.flatten
    [[.own 0 .createSlot,
      .own 0 (.createFactory "lit" "main" 0),
      .own 0 (.createFactory "dim" "side" 0),
      .own 0 (.createFactory "cut" "main" 0),
      .own 0 (.closeInbox 0),
      .own 0 (.start 0),
      .own 0 (.detach 0)],
    List.replicate 21 (.work 0 0),
    [.own 0 (.start 1)],
    List.replicate 10 (.work 0 0),
    [.own 0 (.start 2)],
    List.replicate 8 (.work 0 0),
    [.own 0 (.remove 2)],
    List.replicate 6 (.work 0 0),
    List.replicate 3 (.own 0 .take),
    [.own 0 (.detach 0), .own 0 (.remove 0), .own 0 (.detach 1), .own 0 (.detach 2)]]

theorem cache_handed_out_once_kept :
    keepingRun.2.claims 0 0 = [⟨false, false, none⟩, ⟨false, true, some 0⟩, ⟨true, true, none⟩] ∧
    keepingRun.2.acquisitions 0 0 = [⟨"main", some 0⟩] ∧
    (∃ report failure, Event.ended 0 report failure (some 0) ∈ (keepingRun.2.chronicle 0).taken) ∧
    keepingRun.2.claims 0 1 = [⟨false, true, none⟩] ∧
    (∃ report failure, Event.ended 1 report failure none ∈ (keepingRun.2.chronicle 0).taken) ∧
    keepingRun.2.acquisitions 0 2 = [⟨"main", some 0⟩] ∧
    ∀ d ∈ keepingRun.2.claims 0 2, d.answer = none := by
  have hFacts : (keepingRun.1.hub? 0).isSome = true ∧
      keepingRun.2.claims 0 0 =
        [⟨false, false, none⟩, ⟨false, true, some 0⟩, ⟨true, true, none⟩] ∧
      keepingRun.2.cacheName? 0 0 = some "main" ∧
      keepingRun.2.claims 0 1 = [⟨false, true, none⟩] ∧
      keepingRun.2.claims 0 2 = [⟨true, false, none⟩, ⟨false, true, none⟩] ∧
      keepingRun.2.acquisitions 0 2 = [⟨"main", some 0⟩] := by decide +kernel
  obtain ⟨hSome, hLit, hName, hDim, hCut, hAsked⟩ := hFacts
  obtain ⟨h, hHub⟩ := Option.isSome_iff_exists.mp hSome
  obtain ⟨_, _, hFirst, _⟩ := cache_handed_out_once keepingRun.2 hHub 0
  obtain ⟨hEnded, hGot⟩ := hFirst (by rw [hLit]; decide) ⟨false, true, some 0⟩ (by rw [hLit]; rfl)
  obtain ⟨name, hSame, hMain⟩ := (hGot 0).mp rfl
  obtain rfl : "main" = name := Option.some.inj (hName.symm.trans hSame)
  obtain ⟨_, _, hSecond, _⟩ := cache_handed_out_once keepingRun.2 hHub 1
  obtain ⟨hRefused, _⟩ := hSecond (by rw [hDim]; decide) ⟨false, true, none⟩ (by rw [hDim]; rfl)
  obtain ⟨_, _, _, hLost, _⟩ := cache_handed_out_once keepingRun.2 hHub 2
  have hRemoved : ⟨true, false, none⟩ ∈ keepingRun.2.claims 0 2 := by
    rw [hCut]
    exact List.mem_cons_self
  exact ⟨hLit, hMain, hEnded, hDim, hRefused, hAsked, hLost _ hRemoved rfl rfl⟩

end Runs

end Plant

end PipelineForge
