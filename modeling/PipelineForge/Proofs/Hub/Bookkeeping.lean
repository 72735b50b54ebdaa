import PipelineForge.Proofs.Hub.Exits

/-!
# Bookkeeping of hubs

In every run the book of an open hub matches the factories that are there. What was booked and what
was released is read off the book before and after each move: every factory is booked once, when it
is created, and released once, when it is given up unstarted or has left.
-/

namespace PipelineForge

open Factory (State)
open Tasks (Mode TaskId)

theorem filter_notMem_self {α : Type} [DecidableEq α] {l m : List α} (hSub : l ⊆ m) :
    l.filter (· ∉ m) = [] := by
  refine List.filter_eq_nil_iff.mpr fun x hx => ?_
  rw [decide_eq_true_eq, not_not]
  exact hSub hx

theorem filter_notMem_middle {α : Type} [DecidableEq α] {front back : List α} {a : α}
    (hNodup : (front ++ a :: back).Nodup) :
    (front ++ a :: back).filter (· ∉ front ++ back) = [a] := by
  rw [List.nodup_middle, List.nodup_cons] at hNodup
  rw [List.filter_append, List.filter_cons, if_pos (decide_eq_true hNodup.1),
    filter_notMem_self (List.subset_append_left _ _),
    filter_notMem_self (List.subset_append_right _ _)]
  rfl

namespace Hub

def bookedKeys (h : Hub) : List FactoryId := h.office.bookings.shelf.keys

variable {h h' : Hub} {f : Factory}

/-- The book and the factories that are there are the same list, up to the order. -/
structure Matches (h : Hub) : Prop where
  distinct : (h.live.map Factory.id).Nodup
  booked : h.office.bookings.shelf.entries.Perm (h.live.map fun f => (f.id, f.name))
  count : h.runningCount = h.live.length
  idle : h.runningCount = 0 ↔ ∀ f, ¬ h.Live f

theorem Attended.matches (hAttended : h.Attended) (hOrderly : h.Orderly) : h.Matches := by
  have hDistinct : (h.live.map Factory.id).Nodup :=
    hOrderly.nodup_live.map_on fun f hF g hG hSame => hOrderly.live_unique hF hG hSame
  have hBooked : h.office.bookings.shelf.entries.Perm (h.live.map fun f => (f.id, f.name)) := by
    refine (List.perm_ext_iff_of_nodup (.of_map _ hAttended.shelf.distinct) ?_).mpr ?_
    · refine .of_map Prod.fst ?_
      rw [List.map_map]
      exact hDistinct
    · rintro ⟨k, name⟩
      rw [hAttended.shelf.mem_entries_iff, hAttended.booked, List.mem_map]
      simp only [hOrderly.mem_live, Prod.mk.injEq]
  have hCount : h.runningCount = h.live.length :=
    hBooked.length_eq.trans (List.length_map _)
  refine ⟨hDistinct, hBooked, hCount, ?_⟩
  rw [hCount, List.length_eq_zero_iff, List.eq_nil_iff_forall_not_mem]
  simp only [hOrderly.mem_live]

/-- What the calls that create factories and give them up do to the book. -/
structure Books (h : Hub) : Prop where
  refused : ∀ name cacheName slot e, h.createFactory name cacheName slot = .error e →
    e = .unknownSlot ∧ h.perform (.createFactory name cacheName slot) = h
  created : ∀ name cacheName slot h' g, h.createFactory name cacheName slot = .ok (h', g) →
    h' = h.perform (.createFactory name cacheName slot) ∧ g ∉ h.bookedKeys ∧
      h'.office.bookings.shelf.entries.Perm ((g, name) :: h.office.bookings.shelf.entries)
  given : ∀ f op, h.pending? f.id = some f → op = .remove f.id ∨ op = .dismiss f.id →
    h.office.bookings.shelf.entries.Perm
      ((f.id, f.name) :: (h.perform op).office.bookings.shelf.entries)

theorem Attended.perm_release (hAttended : h.Attended) (hF : h.Live f) :
    h.office.bookings.shelf.entries.Perm
      ((f.id, f.name) :: (h.office.bookings.release ⟨f.id⟩).shelf.entries) :=
  hAttended.shelf.perm_remove ((hAttended.booked f.id f.name).mpr ⟨f, hF, rfl, rfl⟩)

theorem Attended.books (hAttended : h.Attended) (hOrderly : h.Orderly) : h.Books := by
  constructor
  · intro name cacheName slot e hError
    rw [createFactory] at hError
    split at hError
    · next hSlot =>
      cases hError
      exact ⟨rfl, by rw [perform_createFactory, if_pos hSlot]⟩
    · cases hError
  · intro name cacheName slot h' g hOk
    rw [createFactory] at hOk
    split at hOk
    · cases hOk
    next hSlot =>
    have hHub : (h.withNewcomer name cacheName slot, h.entries.nextKey) = (h', g) :=
      (congrArg (_, ·) (h.entries.key_add _).symm).trans (Except.ok.inj hOk)
    obtain ⟨rfl, rfl⟩ := Prod.mk.inj hHub
    rw [← hAttended.next]
    refine ⟨by rw [perform_createFactory, if_neg hSlot], ?_, hAttended.shelf.perm_add name⟩
    exact Shelf.get?_eq_none_iff.mp hAttended.shelf.get?_nextKey
  · rintro f op hPending hOp
    have hTicket := hAttended.unstarted hOrderly f.id f hPending
    obtain ⟨e, hEntry, hFactory⟩ := pending?_eq_some hPending
    have hOffice : (h.perform op).office = h.office.release f.ticket := by
      rcases hOp with rfl | rfl
      · rw [office_remove hEntry, hFactory, Option.bind_some]
      · rw [office_dismiss hEntry, hFactory, Option.bind_some]
    rw [hOffice, hTicket]
    exact hAttended.perm_release (.inl ⟨f.id, hPending⟩)

/-- What a move does to the book: nothing, or it adds the next factory, or it takes out one. -/
inductive Rebooks (h h' : Hub) : Prop where
  | kept (hKeys : h'.bookedKeys = h.bookedKeys) (hNext : h'.entries.nextKey = h.entries.nextKey)
  | enrolled (front back : List FactoryId) (hBefore : h.bookedKeys = front ++ back)
      (hAfter : h'.bookedKeys = front ++ h.entries.nextKey :: back)
      (hNext : h'.entries.nextKey = h.entries.nextKey + 1)
  | released (front back : List FactoryId) (g : FactoryId)
      (hBefore : h.bookedKeys = front ++ g :: back) (hAfter : h'.bookedKeys = front ++ back)
      (hNext : h'.entries.nextKey = h.entries.nextKey)

theorem Attended.rebooks_enroll (hAttended : h.Attended) (name cacheName : String)
    (slot : SlotId) : Rebooks h (h.withNewcomer name cacheName slot) := by
  obtain ⟨front, back, hOld, hNew⟩ := hAttended.shelf.entries_add name
  refine .enrolled (front.map Prod.fst) (back.map Prod.fst) ?_ ?_ (Shelf.nextKey_add _ _)
  · rw [bookedKeys, Shelf.keys, hOld, List.map_append]
  · refine (congrArg (List.map Prod.fst) hNew).trans ?_
    rw [List.map_append, List.map_cons, hAttended.next]

theorem Attended.rebooks_release (hAttended : h.Attended) (hF : h.Live f)
    (hBookings : h'.office.bookings = h.office.bookings.release ⟨f.id⟩)
    (hNext : h'.entries.nextKey = h.entries.nextKey) : Rebooks h h' := by
  obtain ⟨front, back, name, hOld, hNew⟩ := Shelf.split_remove
    (Shelf.mem_keys_iff.mpr ⟨_, (hAttended.booked f.id f.name).mpr ⟨f, hF, rfl, rfl⟩⟩)
  refine .released (front.map Prod.fst) (back.map Prod.fst) f.id ?_ ?_ hNext
  · rw [bookedKeys, Shelf.keys, hOld, List.map_append, List.map_cons]
  · rw [bookedKeys, hBookings]
    exact (congrArg (List.map Prod.fst) hNew).trans List.map_append

theorem Attended.rebooks_perform (hAttended : h.Attended) (hOrderly : h.Orderly) (op : Op)
    (hOpen : (h.perform op).office.isOpen = true) : Rebooks h (h.perform op) := by
  cases perform_muster hOrderly (hAttended.unstarted hOrderly) op hOpen with
  | kept hLive hBookings hNext => exact .kept (by rw [bookedKeys, hBookings, bookedKeys]) hNext
  | enrolled name cacheName slot hOp hSlot hHub =>
    rw [hHub]
    exact hAttended.rebooks_enroll name cacheName slot
  | given f hOp hPending hLive hBookings hNext =>
    exact hAttended.rebooks_release (.inl ⟨f.id, hPending⟩) hBookings hNext

theorem Orderly.not_live_of_left (hOrderly : h.Orderly) {t : TaskId}
    (hMember : h.pool.member? t = some (f, .left)) {g : Factory} (hSame : g.id = f.id) :
    ¬ h.Live g := by
  rintro (⟨key, hPending⟩ | ⟨u, m, hOther, hMode⟩)
  · obtain rfl : g.id = key := by rw [hOrderly.fresh key g hPending]
    exact hOrderly.apart g.id g t f .left hPending hMember hSame.symm
  · obtain rfl := hOrderly.distinct u t g f m .left hOther hMember hSame
    obtain ⟨-, rfl⟩ := Prod.mk.inj (Option.some.inj (hOther.symm.trans hMember))
    exact hMode rfl

theorem Attended.mem_bookedKeys (hAttended : h.Attended) {g : FactoryId} :
    g ∈ h.bookedKeys ↔ ∃ f, h.Live f ∧ f.id = g := by
  rw [bookedKeys, Shelf.mem_keys_iff]
  constructor
  · rintro ⟨name, hSome⟩
    obtain ⟨f, hF, hId, _⟩ := (hAttended.booked g name).mp hSome
    exact ⟨f, hF, hId⟩
  · rintro ⟨f, hF, hId⟩
    exact ⟨f.name, (hAttended.booked g f.name).mpr ⟨f, hF, hId, rfl⟩⟩

end Hub

namespace Plant

variable {κ : Type} {compiler : Compiler κ} {first p p' : Plant κ} {i j : Nat} {h h' : Hub}

def bookedKeys (p : Plant κ) (i : Nat) : List FactoryId :=
  ((p.hub? i).map Hub.bookedKeys).getD []

theorem bookedKeys_of_hub (hHub : p.hub? i = some h) : p.bookedKeys i = h.bookedKeys := by
  rw [bookedKeys, hHub]
  rfl

theorem Works.rebooks {w' : Factory.Floor κ} {t : TaskId} {f f' : Factory}
    {mode mode' : Mode State} (hWorks : Works compiler p i j p' h h' w' t f mode f' mode')
    (hAttended : h.Attended) : h.Rebooks h' := by
  have hNext : h'.entries.nextKey = h.entries.nextKey := by rw [hWorks.entries]
  have hKept (hBookings : w'.office.bookings = h.office.bookings) : h.Rebooks h' :=
    .kept (by rw [Hub.bookedKeys, hWorks.office, hBookings, Hub.bookedKeys]) hNext
  rcases hWorks.passage.bookings_cases with ⟨_, _, hBookings⟩ | ⟨_, _, _, hBookings⟩ |
    ⟨hMode, _, hBookings⟩
  · exact hKept hBookings
  · exact hKept hBookings
  · have hF : h.Live f := .inr ⟨t, mode, hWorks.member, hMode⟩
    refine hAttended.rebooks_release hF ?_ hNext
    rw [hWorks.office, hBookings, hAttended.ticket f hF]
    rfl

namespace Run

def enrolled (i : Nat) : {p : Plant κ} → Run compiler first p → List FactoryId
  | _, .start => []
  | q, @next _ _ _ p _ r _ _ => r.enrolled i ++ (q.bookedKeys i).filter (· ∉ p.bookedKeys i)

def released (i : Nat) : {p : Plant κ} → Run compiler first p → List FactoryId
  | _, .start => []
  | q, @next _ _ _ p _ r _ _ => r.released i ++ (p.bookedKeys i).filter (· ∉ q.bookedKeys i)

/-- Every factory was booked when it was created, and is booked still or was released once. -/
structure Balanced (r : Run compiler first p) (i : Nat) (h : Hub) : Prop where
  enrolled : r.enrolled i = List.range h.entries.nextKey
  released : (r.released i ++ h.bookedKeys).Perm (r.enrolled i)

section Next

variable {m : Move κ}

theorem enrolled_next (r : Run compiler first p) (hMove : p.move compiler m = some p')
    (hHub : p.hub? i = some h) (hAfter : p'.hub? i = some h') :
    (r.next m hMove).enrolled i = r.enrolled i ++ h'.bookedKeys.filter (· ∉ h.bookedKeys) := by
  rw [enrolled, bookedKeys_of_hub hHub, bookedKeys_of_hub hAfter]

theorem released_next (r : Run compiler first p) (hMove : p.move compiler m = some p')
    (hHub : p.hub? i = some h) (hAfter : p'.hub? i = some h') :
    (r.next m hMove).released i = r.released i ++ h.bookedKeys.filter (· ∉ h'.bookedKeys) := by
  rw [released, bookedKeys_of_hub hHub, bookedKeys_of_hub hAfter]

theorem Balanced.rebooks {r : Run compiler first p} (hBalanced : r.Balanced i h)
    (hMove : p.move compiler m = some p') (hHub : p.hub? i = some h)
    (hAfter : p'.hub? i = some h') (hRebooks : h.Rebooks h') (hBefore : h.bookedKeys.Nodup)
    (hNodup : h'.bookedKeys.Nodup) : (r.next m hMove).Balanced i h' := by
  obtain ⟨hEnrolled, hReleased⟩ := hBalanced
  have hSub (front : List FactoryId) (g : FactoryId) (back : List FactoryId) :
      front ++ back ⊆ front ++ g :: back :=
    ((List.sublist_cons_self g back).append_left front).subset
  have hEnrolled' := r.enrolled_next hMove hHub hAfter
  have hReleased' := r.released_next hMove hHub hAfter
  cases hRebooks with
  | kept hKeys hNext =>
    rw [hKeys, filter_notMem_self (List.Subset.refl _), List.append_nil] at hEnrolled' hReleased'
    constructor
    · rw [hEnrolled', hNext, hEnrolled]
    · rw [hEnrolled', hReleased', hKeys]
      exact hReleased
  | enrolled front back hOld hNew hNext =>
    rw [hOld, hNew, filter_notMem_middle (hNew ▸ hNodup)] at hEnrolled'
    rw [hOld, hNew, filter_notMem_self (hSub front _ back), List.append_nil] at hReleased'
    constructor
    · rw [hEnrolled', hEnrolled, hNext, List.range_succ]
    · rw [hEnrolled', hReleased', hNew, ← List.append_assoc]
      rw [hOld, ← List.append_assoc] at hReleased
      exact List.perm_middle.trans
        ((hReleased.cons h.entries.nextKey).trans (List.perm_append_singleton _ _).symm)
  | released front back g hOld hNew hNext =>
    rw [hOld, hNew, filter_notMem_self (hSub front g back), List.append_nil] at hEnrolled'
    rw [hOld, hNew, filter_notMem_middle (hOld ▸ hBefore)] at hReleased'
    constructor
    · rw [hEnrolled', hEnrolled, hNext]
    · rw [hEnrolled', hReleased', hNew, List.append_assoc]
      rw [hOld] at hReleased
      have hMiddle : (g :: (front ++ back)).Perm (front ++ g :: back) := List.perm_middle.symm
      exact (hMiddle.append_left (r.released i)).trans hReleased

end Next

end Run

section Founded

variable {limit : Option Nat} {k : κ} {settings : List HubSettings}

theorem Run.balanced (r : Run compiler (founded limit k settings) p) (hHub : p.hub? i = some h)
    (hOpen : h.office.isOpen = true) : r.Balanced i h := by
  revert hOpen
  refine r.along_hub (i := i) (P := fun {p} r h => p.hub? i = some h → h.office.isOpen = true →
    r.Balanced i h) ?_ ?_ hHub hHub
  · intro s hHub hOpen
    exact ⟨rfl, List.Perm.refl []⟩
  · intro p p' r m hMove h h' hHub hStir ih hAfter hOpen'
    have hAttended' := (r.next m hMove).attended hAfter hOpen'
    cases hStir with
    | spared hSame hElsewhere =>
      subst hSame
      exact (ih hHub hOpen').rebooks hMove hHub hAfter (.kept rfl rfl) hAttended'.shelf.distinct
        hAttended'.shelf.distinct
    | owned op hm hOpen hPerform =>
      subst hPerform
      have hAttended := r.attended hHub hOpen
      exact (ih hHub hOpen).rebooks hMove hHub hAfter
        (hAttended.rebooks_perform (r.orderly i h hHub) op hOpen') hAttended.shelf.distinct
        hAttended'.shelf.distinct
    | worked j w' t f f' mode mode' hm hWorks =>
      have hOpen : h.office.isOpen = true := by
        rw [hWorks.office, hWorks.passage.isOpen] at hOpen'
        exact hOpen'
      have hAttended := r.attended hHub hOpen
      exact (ih hHub hOpen).rebooks hMove hHub hAfter (hWorks.rebooks hAttended)
        hAttended.shelf.distinct hAttended'.shelf.distinct

/-- The booking of a task's factory was released once if the task has left, and not before. -/
theorem Run.count_released (r : Run compiler (founded limit k settings) p)
    (hHub : p.hub? i = some h) (hOpen : h.office.isOpen = true) {t : TaskId} {f : Factory}
    {m : Mode State} (hMember : h.pool.member? t = some (f, m)) :
    (r.released i).count f.id = if m.isPresent then 0 else 1 := by
  have hOrderly := r.orderly i h hHub
  have hAttended := r.attended hHub hOpen
  have hBalanced := r.balanced hHub hOpen
  have hKnown : f.id < h.entries.nextKey := by
    rw [hOrderly.keyed hOpen]
    exact hOrderly.known t f m hMember
  have hOnce : (List.range h.entries.nextKey).count f.id = 1 :=
    List.count_eq_one_of_mem List.nodup_range (List.mem_range.mpr hKnown)
  have hSum := hBalanced.released.count_eq f.id
  rw [hBalanced.enrolled, hOnce, List.count_append] at hSum
  split
  · next hMode =>
    have hLive : h.Live f := .inr ⟨t, m, hMember, Mode.isPresent_iff.mp hMode⟩
    have hBooked : h.bookedKeys.count f.id = 1 :=
      List.count_eq_one_of_mem hAttended.shelf.distinct
        (hAttended.mem_bookedKeys.mpr ⟨f, hLive, rfl⟩)
    omega
  · next hMode =>
    obtain rfl : m = .left := Classical.not_not.mp (mt Mode.isPresent_iff.mpr hMode)
    have hBooked : h.bookedKeys.count f.id = 0 := by
      refine List.count_eq_zero.mpr fun hMem => ?_
      obtain ⟨g, hG, hSame⟩ := hAttended.mem_bookedKeys.mp hMem
      exact hOrderly.not_live_of_left hMember hSame hG
    omega

/-- Steps of workers that end with the exit of a task, and what they leave in the book. -/
structure Run.Exits (r : Run compiler first p) (i : Nat) (t : TaskId) (g : FactoryId)
    {q : Plant κ} (s : Run compiler p q) : Prop where
  own : ∃ j n, n ≤ 4 ∧ s.moves = List.replicate n (.work i j)
  left : ∃ h f, q.hub? i = some h ∧ h.pool.member? t = some (f, .left) ∧ f.id = g ∧
    g ∉ h.bookedKeys
  released : ((r.trans s).released i).count g = 1

theorem Run.exists_exits (r : Run compiler (founded limit k settings) p)
    (hHub : p.hub? i = some h) (hOpen : h.office.isOpen = true) {t : TaskId} {f : Factory}
    {m : Mode State} (hMember : h.pool.member? t = some (f, m))
    (hMode : (∃ outcome, m = .ended outcome) ∨ m = .leaving) :
    ∃ q, ∃ s : Run compiler p q, r.Exits i t f.id s := by
  obtain ⟨j, phase, c, n, hJob, hCell, rfl, hExits, hn⟩ :=
    Tasks.Pool.exists_exit hMember hMode
  obtain ⟨q, s, h', c', hMoves, hAfter, hJob', hCell', hId⟩ :=
    Run.exists_exit compiler hHub hJob hCell hExits
  have hQuiet : s.ops i = [] := by
    rw [Run.ops, hMoves]
    exact List.filterMap_eq_nil_iff.mpr fun m hMem => by rw [List.eq_of_mem_replicate hMem]; rfl
  have hOpen' : h'.office.isOpen = true := by
    obtain ⟨g, hSame, hStill⟩ := s.closing_isOpen
      (hQuiet ▸ List.forall_mem_nil _) ⟨r.orderly, r.booked⟩ ⟨h, hHub, hOpen⟩
    obtain rfl := Option.some.inj (hSame.symm.trans hAfter)
    exact hStill
  have hOrderly' := (r.trans s).orderly i h' hAfter
  have hLeft : h'.pool.member? t = some (c'.body, .left) := by
    rw [Tasks.Pool.member?_of_cell hCell',
      Tasks.Pool.drivers_of_job hJob' rfl (hOrderly'.pool.alone t)]
    rfl
  refine ⟨q, s, ⟨j, n + 1, by omega, hMoves⟩, ⟨h', c'.body, hAfter, hLeft, hId, ?_⟩, ?_⟩
  · intro hMem
    obtain ⟨g, hG, hSame⟩ := ((r.trans s).attended hAfter hOpen').mem_bookedKeys.mp hMem
    exact hOrderly'.not_live_of_left hLeft (hSame.trans hId.symm) hG
  · rw [← hId, (r.trans s).count_released hAfter hOpen' hLeft]
    rfl

/-- Between any two moves the book of an open hub lists each factory that is unstarted or whose
task has not left once, and nothing else, so the hub is idle if there is none. Creating a factory
books it, creating one for an unknown slot books nothing, and giving up an unstarted one releases
it there and then. Over the whole run every factory is booked once, and released once when it is
not there any more. A task that has come to any end has not been lost with its booking: its own
job goes on until it is released, whatever else there is. -/
theorem bookings_match_live (r : Run compiler (founded limit k settings) p)
    (hHub : p.hub? i = some h) (hOpen : h.office.isOpen = true) :
    h.Matches ∧ h.Books ∧ r.Balanced i h ∧
    (∀ t f m, h.pool.member? t = some (f, m) →
      m ≠ .lost ∧ (r.released i).count f.id = if m.isPresent then 0 else 1) ∧
    ∀ t f m, h.pool.member? t = some (f, m) → ((∃ outcome, m = .ended outcome) ∨ m = .leaving) →
      ∃ q, ∃ s : Run compiler p q, r.Exits i t f.id s := by
  have hAttended := r.attended hHub hOpen
  have hOrderly := r.orderly i h hHub
  refine ⟨hAttended.matches hOrderly, hAttended.books hOrderly, r.balanced hHub hOpen, ?_, ?_⟩
  · intro t f m hMember
    exact ⟨hAttended.survives t f m hMember, r.count_released hHub hOpen hMember⟩
  · exact fun t f m hMember hMode => r.exists_exits hHub hOpen hMember hMode

end Founded

/-- A run in which one factory has left, one is aborted and has not left, one was given up before
its start, and one is not started. -/
def staffedRun : (p : Plant Device) × Run Device.compiler (founded none {} [{}]) p :=
  pairRun.2.along
    [.own 0 (.createFactory "dim" "main" 0), .own 0 (.createFactory "dark" "main" 0),
      .own 0 (.start 1), .own 0 (.createFactory "gray" "main" 0), .own 0 (.remove 2),
      .own 0 (.remove 1), .work 0 0, .work 0 0]

theorem bookings_match_live_staffed :
    ∃ h, staffedRun.1.hub? 0 = some h ∧ h.office.isOpen = true ∧
      h.live.map Factory.id = [3, 1] ∧ h.runningCount = 2 ∧ staffedRun.2.released 0 = [0, 2] ∧
      h.office.bookings.shelf.entries.Perm [(3, "gray"), (1, "dim")] ∧
      ∃ q, ∃ s : Run Device.compiler staffedRun.1 q, staffedRun.2.Exits 0 1 1 s := by
  have hKnown : (staffedRun.1.hub? 0).map (fun h => (h.office.isOpen,
      h.live.map fun f => (f.id, f.name))) = some (true, [(3, "gray"), (1, "dim")]) := by
    decide +kernel
  have hEnded : (staffedRun.1.hub? 0).bind (fun h => (h.pool.member? 1).map fun x =>
      (x.1.id, match x.2 with | .ended _ => true | _ => false)) = some (1, true) := by
    decide +kernel
  obtain ⟨h, hHub, hBoth⟩ := Option.map_eq_some_iff.mp hKnown
  obtain ⟨hOpen, hNames⟩ := Prod.mk.inj hBoth
  obtain ⟨hMatches, _, _, _, hExits⟩ := bookings_match_live staffedRun.2 hHub hOpen
  rw [hHub, Option.bind_some] at hEnded
  obtain ⟨⟨f, m⟩, hMember, hMode⟩ := Option.map_eq_some_iff.mp hEnded
  obtain ⟨hId, hMode⟩ := Prod.mk.inj hMode
  have hIds : h.live.map Factory.id = [3, 1] := by
    have hFirst := congrArg (List.map Prod.fst) hNames
    rwa [List.map_map] at hFirst
  have hCount : h.live.length = 2 := by rw [← List.length_map Factory.id, hIds]; rfl
  refine ⟨h, hHub, hOpen, hIds, hMatches.count.trans hCount, by decide +kernel,
    hNames ▸ hMatches.booked, ?_⟩
  cases m with
  | ended outcome =>
    obtain ⟨q, s, hExit⟩ := hExits 1 f (.ended outcome) hMember (.inl ⟨outcome, rfl⟩)
    exact ⟨q, s, hId ▸ hExit⟩
  | _ => cases hMode

end Plant

end PipelineForge
