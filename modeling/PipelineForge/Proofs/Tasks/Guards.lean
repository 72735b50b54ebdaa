import Mathlib.Data.List.Induction
import PipelineForge.Proofs.Tasks.Bookings
import PipelineForge.Tasks.Guards

/-!
# Guards on duty

A guard is on duty from the visit that gives it out to the first one that lets it go, which is read
off the visits alone. The entries of a book are those of its guards on duty, one for each, and an
entry stays in its place until its own guard is let go. A wait for a book tells whether no guard of
the book is on duty when the wait ends. When a waiting thread is woken makes no difference here.
-/

namespace PipelineForge.Tasks

namespace Bookings

variable {b : Bookings}

def name? (b : Bookings) (t : Ticket) : Option String := b.shelf.get? t.key

theorem name?_add (hValid : b.shelf.Valid) (name : String) (t : Ticket) :
    (b.add name).1.name? t = if t = (b.add name).2 then some name else b.name? t := by
  rw [ticket_add]
  refine (hValid.get?_add name t.key).trans ?_
  cases t
  simp only [Ticket.mk.injEq]
  rfl

theorem name?_release (hValid : b.shelf.Valid) (t u : Ticket) :
    (b.release t).name? u = if u = t then none else b.name? u := by
  refine (hValid.get?_remove t.key u.key).trans ?_
  cases t
  cases u
  simp only [Ticket.mk.injEq]
  rfl

theorem names_add (hValid : b.shelf.Valid) (name : String) :
    (b.add name).1.names.Perm (name :: b.names) :=
  (hValid.perm_add name).map Prod.snd

theorem names_release (hValid : b.shelf.Valid) {t : Ticket} {name : String}
    (hName : b.name? t = some name) : b.names.Perm (name :: (b.release t).names) :=
  (hValid.perm_remove hName).map Prod.snd

theorem answer?_eq_some {late idle : Bool} (h : b.answer? late = some idle) :
    idle = b.isIdle ∧ (idle = false → late = true) := by
  rw [answer?] at h
  split at h
  next hEnds =>
    obtain rfl := Option.some.inj h
    exact ⟨rfl, fun hBusy => by simpa [hBusy] using hEnds⟩
  next => cases h

theorem answer?_late (b : Bookings) : b.answer? true = some b.isIdle := by simp [answer?]

theorem size_eq (b : Bookings) : b.size = b.names.length := (List.length_map _).symm

end Bookings

namespace Visit

def gives : Visit → Bool
  | .add _ _ => true
  | _ => false

def lets (g : Nat) : Visit → Bool
  | .add _ _ => false
  | .drop h => h = g
  | .release h => h = g

theorem gives_or_lets (v : Visit) : (∃ i name, v = .add i name) ∨ ∃ g, v.lets g = true := by
  cases v with
  | add i name => exact .inl ⟨i, name, rfl⟩
  | drop g => exact .inr ⟨g, decide_eq_true rfl⟩
  | release g => exact .inr ⟨g, decide_eq_true rfl⟩

theorem gives_of_lets {v : Visit} {g : Nat} (hLets : v.lets g = true) : v.gives = false := by
  cases v with
  | add i name => cases hLets
  | drop h => rfl
  | release h => rfl

end Visit

/-- A guard that is on duty, with its book and the name of its task. -/
structure Duty where
  guard : Nat
  book : Nat
  name : String
deriving DecidableEq

/-- The guards that visits give out, counted from a number on, and do not let go afterwards. -/
def duties : Nat → List Visit → List Duty
  | _, [] => []
  | n, .add i name :: visits =>
    if visits.any (Visit.lets n) then duties (n + 1) visits
    else ⟨n, i, name⟩ :: duties (n + 1) visits
  | n, _ :: visits => duties n visits

theorem duties_concat (n : Nat) (visits : List Visit) (v : Visit) :
    duties n (visits ++ [v]) =
      (duties n visits).filter (fun l => ¬ v.lets l.guard) ++
        duties (n + visits.countP Visit.gives) [v] := by
  induction visits generalizing n with
  | nil => rfl
  | cons u visits ih =>
    cases u with
    | add i name =>
      have hCount : n + (visits.countP Visit.gives + 1) = n + 1 + visits.countP Visit.gives := by
        omega
      rw [List.cons_append, duties, duties, ih, List.any_append, List.countP_cons_of_pos rfl,
        hCount]
      by_cases hLater : visits.any (Visit.lets n) = true
      · simp [hLater]
      · by_cases hLast : v.lets n = true <;> simp [hLater, hLast]
    | drop g => simp [duties, ih, Visit.gives]
    | release g => simp [duties, ih, Visit.gives]

/-- The guards that were given out and not let go afterwards. -/
def onDuty (visits : List Visit) : List Duty := duties 0 visits

def onDutyAt (i : Nat) (visits : List Visit) : List Duty := (onDuty visits).filter (·.book = i)

theorem onDuty_add (visits : List Visit) (i : Nat) (name : String) :
    onDuty (visits ++ [.add i name]) =
      onDuty visits ++ [⟨visits.countP Visit.gives, i, name⟩] := by
  simp [onDuty, duties_concat, duties, Visit.lets]

theorem onDuty_letGo (visits : List Visit) {v : Visit} {g : Nat} (hLets : v.lets g = true) :
    onDuty (visits ++ [v]) = (onDuty visits).filter (·.guard ≠ g) := by
  cases v with
  | add i name => cases hLets
  | drop h =>
    obtain rfl : h = g := of_decide_eq_true hLets
    simp [onDuty, duties_concat, duties, Visit.lets, eq_comm]
  | release h =>
    obtain rfl : h = g := of_decide_eq_true hLets
    simp [onDuty, duties_concat, duties, Visit.lets, eq_comm]

namespace Desk

variable {d : Desk} {g i : Nat} {t : Ticket}

def Bears (d : Desk) (g i : Nat) (t : Ticket) : Prop := d.guards[g]? = some ⟨i, some t⟩

theorem Bears.lt_length (h : d.Bears g i t) : g < d.guards.length :=
  (List.getElem?_eq_some_iff.mp h).1

theorem Bears.unique {j : Nat} {u : Ticket} (h : d.Bears g i t) (h' : d.Bears g j u) :
    i = j ∧ t = u := by
  rw [Bears, h] at h'
  cases h'
  exact ⟨rfl, rfl⟩

theorem letGo_of_bears (h : d.Bears g i t) :
    d.letGo g =
      { d.putBook i ((d.books i).release t) with guards := d.guards.set g ⟨i, none⟩ } := by
  rw [letGo, h]

theorem letGo_of_not_bears (h : ∀ i t, ¬ d.Bears g i t) : d.letGo g = d := by
  rw [letGo]
  split
  next i t hGuard => exact absurd hGuard (h i t)
  next => rfl

theorem letGo_cases (d : Desk) (g : Nat) :
    (∃ i t, d.Bears g i t) ∨ (∀ i t, ¬ d.Bears g i t) ∧ d.letGo g = d := by
  by_cases hBears : ∃ i t, d.Bears g i t
  · exact .inl hBears
  · have hNone (i : Nat) (t : Ticket) : ¬ d.Bears g i t := fun h => hBears ⟨i, t, h⟩
    exact .inr ⟨hNone, letGo_of_not_bears hNone⟩

theorem bears_add (d : Desk) (i : Nat) (name : String) (h j : Nat) (u : Ticket) :
    (d.add i name).1.Bears h j u ↔
      h = d.guards.length ∧ j = i ∧ u = ((d.books i).add name).2 ∨ d.Bears h j u := by
  change (d.guards ++ [⟨i, some ((d.books i).add name).2⟩])[h]? = some ⟨j, some u⟩ ↔ _
  rcases Nat.lt_trichotomy h d.guards.length with hOld | rfl | hNone
  · rw [List.getElem?_append_left hOld, or_iff_right fun hNew => Nat.ne_of_lt hOld hNew.1, Bears]
  · have hNot : ¬ d.Bears d.guards.length j u := fun hBears => Nat.lt_irrefl _ hBears.lt_length
    rw [List.getElem?_concat_length, or_iff_left hNot]
    simp [eq_comm]
  · have hNot : ¬ d.Bears h j u := fun hBears => Nat.lt_asymm hNone hBears.lt_length
    rw [or_iff_left hNot, List.getElem?_eq_none (by rwa [List.length_append])]
    simp [Nat.ne_of_gt hNone]

theorem bears_letGo (d : Desk) (g h j : Nat) (u : Ticket) :
    (d.letGo g).Bears h j u ↔ h ≠ g ∧ d.Bears h j u := by
  rcases d.letGo_cases g with ⟨i, t, hBears⟩ | ⟨hNone, hSame⟩
  · rw [letGo_of_bears hBears, Bears, Bears]
    by_cases hGuard : h = g
    · rw [hGuard, List.getElem?_set_self hBears.lt_length]
      simp
    · rw [List.getElem?_set_ne (Ne.symm hGuard), and_iff_right hGuard]
  · rw [hSame, iff_and_self]
    rintro hBears rfl
    exact hNone j u hBears

theorem letGo_letGo (d : Desk) (g : Nat) : (d.letGo g).letGo g = d.letGo g :=
  letGo_of_not_bears fun _ _ hBears => ((bears_letGo d g g _ _).mp hBears).1 rfl

theorem serve_of_lets (d : Desk) {v : Visit} (hLets : v.lets g = true) :
    d.serve v = d.letGo g := by
  cases v with
  | add i name => cases hLets
  | drop h =>
    obtain rfl : h = g := of_decide_eq_true hLets
    rfl
  | release h =>
    obtain rfl : h = g := of_decide_eq_true hLets
    exact letGo_letGo d h

theorem books_add (d : Desk) (i : Nat) (name : String) (j : Nat) :
    (d.add i name).1.books j = if j = i then ((d.books i).add name).1 else d.books j := rfl

theorem books_letGo (h : d.Bears g i t) (j : Nat) :
    (d.letGo g).books j = if j = i then (d.books i).release t else d.books j := by
  rw [letGo_of_bears h]
  rfl

/-- The books are those of the guards on duty. -/
structure Sound (duties : List Duty) (d : Desk) : Prop where
  valid : ∀ i, (d.books i).shelf.Valid
  distinct : (duties.map Duty.guard).Nodup
  held : ∀ i t, (d.books i).Holds t ↔ ∃ g, d.Bears g i t
  own : ∀ g h i t, d.Bears g i t → d.Bears h i t → g = h
  known : ∀ g i name, ⟨g, i, name⟩ ∈ duties ↔ ∃ t, d.Bears g i t ∧ (d.books i).name? t = some name
  names : ∀ i, (d.books i).names.Perm ((duties.filter (·.book = i)).map Duty.name)

theorem sound_empty : ({} : Desk).Sound [] where
  valid _ := Shelf.valid_empty
  distinct := List.nodup_nil
  held _ _ := ⟨nofun, nofun⟩
  own := nofun
  known _ _ _ := ⟨nofun, nofun⟩
  names _ := .refl []

namespace Sound

variable {duties : List Duty}

theorem exists_name (hSound : d.Sound duties) (h : d.Bears g i t) :
    ∃ name, (d.books i).name? t = some name ∧ ⟨g, i, name⟩ ∈ duties := by
  obtain ⟨name, hName⟩ := Bookings.holds_iff.mp ((hSound.held i t).mpr ⟨g, h⟩)
  exact ⟨name, hName, (hSound.known g i name).mpr ⟨t, h, hName⟩⟩

theorem lt_length (hSound : d.Sound duties) {l : Duty} (hMem : l ∈ duties) :
    l.guard < d.guards.length := by
  obtain ⟨t, hBears, _⟩ := (hSound.known l.guard l.book l.name).mp hMem
  exact hBears.lt_length

theorem name?_add (hSound : d.Sound duties) (h : d.Bears g i t) (j : Nat) (name : String) :
    ((d.add j name).1.books i).name? t = (d.books i).name? t := by
  rw [books_add]
  split
  next hBook =>
    subst hBook
    have hOld : t ≠ ((d.books i).add name).2 := by
      rintro rfl
      exact Bookings.not_holds_new (hSound.valid i) name ((hSound.held i _).mpr ⟨g, h⟩)
    rw [Bookings.name?_add (hSound.valid i), if_neg hOld]
  next => rfl

theorem name?_letGo (hSound : d.Sound duties) (h : d.Bears g i t) {other : Nat}
    (hOther : g ≠ other) : ((d.letGo other).books i).name? t = (d.books i).name? t := by
  rcases d.letGo_cases other with ⟨j, u, hBears⟩ | ⟨_, hSame⟩
  · rw [books_letGo hBears]
    split
    next hBook =>
      subst hBook
      have hApart : t ≠ u := by
        rintro rfl
        exact hOther (hSound.own g other i t h hBears)
      rw [Bookings.name?_release (hSound.valid i), if_neg hApart]
    next => rfl
  · rw [hSame]

theorem add (hSound : d.Sound duties) (i : Nat) (name : String) :
    (d.add i name).1.Sound (duties ++ [⟨d.guards.length, i, name⟩]) where
  valid j := by
    rw [books_add]
    split
    next => exact (hSound.valid i).add name
    next => exact hSound.valid j
  distinct := by
    rw [List.map_append]
    refine List.nodup_append_comm.mp (List.nodup_cons.mpr ⟨fun hMem => ?_, hSound.distinct⟩)
    obtain ⟨l, hl, hGuard⟩ := List.mem_map.mp hMem
    exact Nat.ne_of_lt (hSound.lt_length hl) hGuard
  held j u := by
    rw [books_add]
    simp only [bears_add, exists_or, ← hSound.held j u, exists_eq_left]
    by_cases hBook : j = i
    · subst hBook
      simp [Bookings.holds_add (hSound.valid j)]
    · simp [hBook]
  own g h j u hg hh := by
    have hNew (k : Nat) (hBears : d.Bears k i ((d.books i).add name).2) : False :=
      Bookings.not_holds_new (hSound.valid i) name ((hSound.held i _).mpr ⟨k, hBears⟩)
    rcases (bears_add ..).mp hg with ⟨rfl, rfl, rfl⟩ | hOld
    · rcases (bears_add ..).mp hh with ⟨rfl, _⟩ | hOld
      · rfl
      · exact (hNew h hOld).elim
    · rcases (bears_add ..).mp hh with ⟨rfl, rfl, rfl⟩ | hOld'
      · exact (hNew g hOld).elim
      · exact hSound.own g h j u hOld hOld'
  known h j other := by
    have hNew : ((d.add i name).1.books i).name? ((d.books i).add name).2 = some name := by
      rw [books_add, if_pos rfl, Bookings.name?_add (hSound.valid i), if_pos rfl]
    rw [List.mem_append, List.mem_singleton, hSound.known, Duty.mk.injEq]
    constructor
    · rintro (⟨u, hOld, hName⟩ | ⟨rfl, rfl, rfl⟩)
      · exact ⟨u, (bears_add ..).mpr (.inr hOld), (hSound.name?_add hOld i name).trans hName⟩
      · exact ⟨_, (bears_add ..).mpr (.inl ⟨rfl, rfl, rfl⟩), hNew⟩
    · rintro ⟨u, hBears, hName⟩
      rcases (bears_add ..).mp hBears with ⟨rfl, rfl, rfl⟩ | hOld
      · exact .inr ⟨rfl, rfl, Option.some.inj (hName.symm.trans hNew)⟩
      · exact .inl ⟨u, hOld, (hSound.name?_add hOld i name).symm.trans hName⟩
  names j := by
    rw [books_add, List.filter_append, List.map_append]
    by_cases hBook : j = i
    · subst hBook
      rw [if_pos rfl, List.filter_cons_of_pos (by simp)]
      refine (Bookings.names_add (hSound.valid j) name).trans ?_
      exact ((hSound.names j).cons name).trans (List.perm_append_singleton ..).symm
    · rw [if_neg hBook, List.filter_cons_of_neg (by simpa using Ne.symm hBook)]
      simpa using hSound.names j

theorem letGo_held (hSound : d.Sound duties) (h : d.Bears g i t) (j : Nat) (u : Ticket) :
    ((d.letGo g).books j).Holds u ↔ ∃ h, (d.letGo g).Bears h j u := by
  simp only [books_letGo h, bears_letGo]
  by_cases hBook : j = i
  · subst hBook
    rw [if_pos rfl, Bookings.holds_release (hSound.valid j), hSound.held]
    constructor
    · rintro ⟨hOther, k, hk⟩
      refine ⟨k, ?_, hk⟩
      rintro rfl
      exact hOther (hk.unique h).2
    · rintro ⟨k, hOther, hk⟩
      refine ⟨?_, k, hk⟩
      rintro rfl
      exact hOther (hSound.own k g j u hk h)
  · rw [if_neg hBook, hSound.held]
    refine exists_congr fun k => (and_iff_right_of_imp fun hk => ?_).symm
    rintro rfl
    exact hBook (hk.unique h).1

theorem letGo_names (hSound : d.Sound duties) (h : d.Bears g i t) (j : Nat) :
    ((d.letGo g).books j).names.Perm
      (((duties.filter (·.guard ≠ g)).filter (·.book = j)).map Duty.name) := by
  obtain ⟨name, hName, hMem⟩ := hSound.exists_name h
  have hDuties := (perm_filter_ne hSound.distinct hMem).filter (·.book = j)
  rw [books_letGo h]
  by_cases hBook : j = i
  · subst hBook
    rw [List.filter_cons_of_pos (by simp)] at hDuties
    rw [if_pos rfl]
    have hBooked := (Bookings.names_release (hSound.valid j) hName).symm
    exact ((hBooked.trans (hSound.names j)).trans (hDuties.map Duty.name)).cons_inv
  · rw [List.filter_cons_of_neg (by simpa using Ne.symm hBook)] at hDuties
    rw [if_neg hBook]
    exact (hSound.names j).trans (hDuties.map Duty.name)

theorem letGo (hSound : d.Sound duties) (g : Nat) :
    (d.letGo g).Sound (duties.filter (·.guard ≠ g)) := by
  rcases d.letGo_cases g with ⟨i, t, hBears⟩ | ⟨hNone, hSame⟩
  · constructor
    · intro j
      rw [books_letGo hBears]
      split
      next => exact (hSound.valid i).remove t.key
      next => exact hSound.valid j
    · exact hSound.distinct.sublist (List.filter_sublist.map _)
    · exact hSound.letGo_held hBears
    · intro k h j u hk hh
      exact hSound.own k h j u ((bears_letGo ..).mp hk).2 ((bears_letGo ..).mp hh).2
    · intro h j name
      simp only [List.mem_filter, hSound.known, bears_letGo, decide_eq_true_eq]
      constructor
      · rintro ⟨⟨u, hu, hName⟩, hOther⟩
        exact ⟨u, ⟨hOther, hu⟩, (hSound.name?_letGo hu hOther).trans hName⟩
      · rintro ⟨u, ⟨hOther, hu⟩, hName⟩
        exact ⟨⟨u, hu, (hSound.name?_letGo hu hOther).symm.trans hName⟩, hOther⟩
    · exact hSound.letGo_names hBears
  · have hAll : duties.filter (·.guard ≠ g) = duties := by
      rw [List.filter_eq_self]
      intro l hMem
      obtain ⟨t, ht, _⟩ := (hSound.known l.guard l.book l.name).mp hMem
      have hOther : l.guard ≠ g := fun hGuard => hNone l.book t (hGuard ▸ ht)
      simpa using hOther
    rw [hSame, hAll]
    exact hSound

end Sound

theorem after_append (visits later : List Visit) :
    after (visits ++ later) = (after visits).serveAll later := List.foldl_append

theorem after_concat (visits : List Visit) (v : Visit) :
    after (visits ++ [v]) = (after visits).serve v := after_append visits [v]

theorem length_guards_letGo (d : Desk) (g : Nat) :
    (d.letGo g).guards.length = d.guards.length := by
  rw [letGo]
  split
  next => exact List.length_set
  next => rfl

theorem length_guards_after (visits : List Visit) :
    (after visits).guards.length = visits.countP Visit.gives := by
  induction visits using List.reverseRecOn with
  | nil => rfl
  | append_singleton visits v ih =>
    rw [after_concat, List.countP_append, ← ih]
    rcases v.gives_or_lets with ⟨i, name, rfl⟩ | ⟨g, hLets⟩
    · exact List.length_append
    · rw [serve_of_lets _ hLets, length_guards_letGo,
        List.countP_cons_of_neg (by simp [Visit.gives_of_lets hLets])]
      rfl

theorem sound_after (visits : List Visit) : (after visits).Sound (onDuty visits) := by
  induction visits using List.reverseRecOn with
  | nil => exact sound_empty
  | append_singleton visits v ih =>
    rw [after_concat]
    rcases v.gives_or_lets with ⟨i, name, rfl⟩ | ⟨g, hLets⟩
    · rw [onDuty_add, ← length_guards_after]
      exact ih.add i name
    · rw [serve_of_lets _ hLets, onDuty_letGo visits hLets]
      exact ih.letGo g

def place? (d : Desk) (g : Nat) : Option Nat :=
  match d.guards[g]? with
  | some ⟨i, some t⟩ => (d.books i).shelf.placeOf? t.key
  | _ => none

theorem place?_of_bears (h : d.Bears g i t) :
    d.place? g = (d.books i).shelf.placeOf? t.key := by
  rw [place?, h]

namespace Sound

variable {duties : List Duty}

theorem exists_entry (hSound : d.Sound duties) {l : Duty} (hMem : l ∈ duties) :
    ∃ t place, d.Bears l.guard l.book t ∧ d.place? l.guard = some place ∧
      (d.books l.book).shelf.places[place]? = some (some (t.key, l.name)) := by
  obtain ⟨t, hBears, hName⟩ := (hSound.known l.guard l.book l.name).mp hMem
  obtain ⟨place, hPlace, hEntry⟩ := (hSound.valid l.book).exists_place hName
  exact ⟨t, place, hBears, (place?_of_bears hBears).trans hPlace, hEntry⟩

theorem place?_add (hSound : d.Sound duties) {l : Duty} (hMem : l ∈ duties) (i : Nat)
    (name : String) : (d.add i name).1.place? l.guard = d.place? l.guard := by
  obtain ⟨t, place, hBears, hPlace, _⟩ := hSound.exists_entry hMem
  have hAt := (place?_of_bears hBears).symm.trans hPlace
  rw [hPlace, place?_of_bears ((bears_add ..).mpr (.inr hBears)), books_add]
  split
  next hBook => exact (hSound.valid i).placeOf?_add name (hBook ▸ hAt)
  next => exact hAt

theorem place?_letGo (hSound : d.Sound duties) {l : Duty} (hMem : l ∈ duties)
    (hOther : l.guard ≠ g) : (d.letGo g).place? l.guard = d.place? l.guard := by
  obtain ⟨t, place, hBears, hPlace, _⟩ := hSound.exists_entry hMem
  have hAt := (place?_of_bears hBears).symm.trans hPlace
  rcases d.letGo_cases g with ⟨i, u, hGiven⟩ | ⟨_, hSame⟩
  · rw [hPlace, place?_of_bears ((bears_letGo ..).mpr ⟨hOther, hBears⟩), books_letGo hGiven]
    split
    next hBook =>
      subst hBook
      have hKey : t.key ≠ u.key := by
        intro hSame
        obtain rfl : t = u := congrArg Ticket.mk hSame
        exact hOther (hSound.own l.guard g l.book t hBears hGiven)
      exact (hSound.valid l.book).placeOf?_remove hKey hAt
    next => exact hAt
  · rw [hSame]

theorem eq_of_place? (hSound : d.Sound duties) {l m : Duty} (hl : l ∈ duties) (hm : m ∈ duties)
    (hBook : l.book = m.book) (hSame : d.place? l.guard = d.place? m.guard) : l = m := by
  obtain ⟨t, place, hBears, hPlace, hEntry⟩ := hSound.exists_entry hl
  obtain ⟨u, place', hBears', hPlace', hEntry'⟩ := hSound.exists_entry hm
  obtain rfl : place = place' := Option.some.inj (hPlace.symm.trans (hSame.trans hPlace'))
  rw [hBook] at hBears hEntry
  have hEntries := Option.some.inj (Option.some.inj (hEntry.symm.trans hEntry'))
  obtain rfl : t = u := congrArg Ticket.mk (congrArg Prod.fst hEntries)
  have hGuard := hSound.own l.guard m.guard m.book t hBears hBears'
  exact List.inj_on_of_nodup_map hSound.distinct hl hm hGuard

theorem places_letGo (hSound : d.Sound duties) {l : Duty} (hMem : l ∈ duties) {place : Nat}
    (hPlace : d.place? l.guard = some place) :
    ((d.letGo l.guard).books l.book).shelf.places =
      (d.books l.book).shelf.places.set place none := by
  obtain ⟨t, _, hBears, _⟩ := hSound.exists_entry hMem
  rw [place?_of_bears hBears] at hPlace
  rw [books_letGo hBears, if_pos rfl]
  exact Shelf.places_remove hPlace

theorem letGo_eq (hSound : d.Sound duties) (hNone : ∀ l ∈ duties, l.guard ≠ g) :
    d.letGo g = d := by
  refine letGo_of_not_bears fun i t hBears => ?_
  obtain ⟨name, _, hMem⟩ := hSound.exists_name hBears
  exact hNone _ hMem rfl

theorem books_letGo_of_ne (hSound : d.Sound duties)
    (hOther : ∀ l ∈ duties, l.guard = g → l.book ≠ i) : (d.letGo g).books i = d.books i := by
  rcases d.letGo_cases g with ⟨j, t, hBears⟩ | ⟨_, hSame⟩
  · obtain ⟨name, _, hMem⟩ := hSound.exists_name hBears
    rw [books_letGo hBears, if_neg (hOther _ hMem rfl).symm]
  · rw [hSame]

end Sound

theorem place?_serve {visits : List Visit} {v : Visit} {l : Duty} (hBefore : l ∈ onDuty visits)
    (hAfter : l ∈ onDuty (visits ++ [v])) :
    (after (visits ++ [v])).place? l.guard = (after visits).place? l.guard := by
  have hSound := sound_after visits
  rw [after_concat]
  rcases v.gives_or_lets with ⟨i, name, rfl⟩ | ⟨g, hLets⟩
  · exact hSound.place?_add hBefore i name
  · rw [onDuty_letGo visits hLets, List.mem_filter] at hAfter
    rw [serve_of_lets _ hLets]
    exact hSound.place?_letGo hBefore (of_decide_eq_true hAfter.2)

theorem mem_onDuty_of_concat {visits : List Visit} {v : Visit} {l : Duty}
    (hGiven : l.guard < visits.countP Visit.gives) (hAfter : l ∈ onDuty (visits ++ [v])) :
    l ∈ onDuty visits := by
  rcases v.gives_or_lets with ⟨i, name, rfl⟩ | ⟨g, hLets⟩
  · rw [onDuty_add, List.mem_append, List.mem_singleton] at hAfter
    rcases hAfter with hMem | rfl
    · exact hMem
    · exact absurd hGiven (Nat.lt_irrefl _)
  · rw [onDuty_letGo visits hLets] at hAfter
    exact List.mem_of_mem_filter hAfter

theorem place?_serveAll {visits : List Visit} {l : Duty} (hBefore : l ∈ onDuty visits)
    (later : List Visit) (hAfter : l ∈ onDuty (visits ++ later)) :
    (after (visits ++ later)).place? l.guard = (after visits).place? l.guard := by
  have hGiven : l.guard < visits.countP Visit.gives :=
    length_guards_after visits ▸ (sound_after visits).lt_length hBefore
  induction later using List.reverseRecOn with
  | nil => rw [List.append_nil]
  | append_singleton later v ih =>
    rw [← List.append_assoc] at hAfter ⊢
    have hCount : l.guard < (visits ++ later).countP Visit.gives := by
      rw [List.countP_append]
      exact Nat.lt_add_right _ hGiven
    have hThen := mem_onDuty_of_concat hCount hAfter
    rw [place?_serve hThen hAfter, ih hThen]

theorem wait_eq_some {looks : List Look} {d' : Desk} {idle : Bool}
    (h : d.wait i looks = (d', some idle)) :
    idle = (d'.books i).isIdle ∧
      (∃ k ≤ looks.length, d' = d.serveAll ((looks.take k).flatMap Look.meanwhile)) ∧
      (idle = false → ∃ look ∈ looks, look.late = true) := by
  induction looks generalizing d with
  | nil => cases h
  | cons look looks ih =>
    rw [wait] at h
    split at h
    next seen hSeen =>
      obtain ⟨rfl, hIdle⟩ := Prod.mk.inj h
      obtain rfl := Option.some.inj hIdle
      obtain ⟨hBook, hLate⟩ := Bookings.answer?_eq_some hSeen
      refine ⟨hBook, ⟨1, Nat.succ_le_succ (Nat.zero_le _), by simp⟩, fun hBusy => ?_⟩
      exact ⟨look, List.mem_cons_self, hLate hBusy⟩
    next =>
      obtain ⟨hBook, ⟨k, hk, rfl⟩, hLate⟩ := ih h
      refine ⟨hBook, ⟨k + 1, Nat.succ_le_succ hk, ?_⟩, fun hBusy => ?_⟩
      · rw [List.take_succ_cons, List.flatMap_cons, serveAll, serveAll, serveAll, List.foldl_append]
      · obtain ⟨later, hMem, hTime⟩ := hLate hBusy
        exact ⟨later, List.mem_cons_of_mem _ hMem, hTime⟩

theorem wait_ends (d : Desk) (i : Nat) {looks : List Look} (h : ∃ look ∈ looks, look.late = true) :
    ∃ d' idle, d.wait i looks = (d', some idle) := by
  obtain ⟨last, hMem, hLate⟩ := h
  induction looks generalizing d with
  | nil => cases hMem
  | cons look looks ih =>
    rw [wait]
    split
    next seen _ => exact ⟨_, seen, rfl⟩
    next hNone =>
      rcases List.mem_cons.mp hMem with rfl | hMem
      · rw [hLate, Bookings.answer?_late] at hNone
        cases hNone
      · exact ih _ hMem

/-- If one guard is let go while a wait goes on, the wait need not look more than twice. -/
theorem wait_eq_idleWithin (h : d.Bears g i t) (millis releasedAt : Nat) :
    (d.wait i [{}, ⟨if releasedAt ≤ millis then [.drop g] else [], true⟩]).2 =
      some ((d.books i).idleWithin millis t releasedAt) := by
  have hFirst : d.serveAll ({} : Look).meanwhile = d := rfl
  rw [wait, wait, hFirst, Bookings.answer?_late, Bookings.idleWithin]
  cases hIdle : (d.books i).isIdle with
  | true => simp [Bookings.answer?, hIdle]
  | false =>
    have hOn : (d.books i).answer? false = none := by simp [Bookings.answer?, hIdle]
    rw [hOn]
    by_cases hInTime : releasedAt ≤ millis
    · have hBook : (d.letGo g).books i = (d.books i).release t := by rw [books_letGo h, if_pos rfl]
      simp [hInTime, serveAll, serve, hBook]
    · simp [hInTime, serveAll, hIdle]

theorem size_eq_length_onDutyAt (visits : List Visit) (i : Nat) :
    ((after visits).books i).size = (onDutyAt i visits).length := by
  rw [Bookings.size_eq, ((sound_after visits).names i).length_eq, List.length_map]
  rfl

/-- What the books of a desk tell about its guards, and what visits and waits do from then on. -/
structure Accurate (visits : List Visit) (d : Desk) : Prop where
  size : ∀ i, (d.books i).size = (onDutyAt i visits).length
  /-- A name is listed as often as there are guards on duty for it. -/
  names : ∀ i, (d.books i).names.Perm ((onDutyAt i visits).map Duty.name)
  placed : ∀ l ∈ onDuty visits, ∃ place key, d.place? l.guard = some place ∧
    (d.books l.book).shelf.places[place]? = some (some (key, l.name))
  apart : ∀ l ∈ onDuty visits, ∀ m ∈ onDuty visits, l.book = m.book →
    d.place? l.guard = d.place? m.guard → l = m
  stays : ∀ l ∈ onDuty visits, ∀ later, l ∈ onDuty (visits ++ later) →
    (d.serveAll later).place? l.guard = d.place? l.guard
  removes : ∀ l ∈ onDuty visits, ∀ v, v.lets l.guard = true → ∀ place,
    d.place? l.guard = some place →
      ((d.serve v).books l.book).shelf.places = (d.books l.book).shelf.places.set place none
  /-- A guard that was let go is not in charge of any entry, whoever has its place now. -/
  once : ∀ g, (∀ l ∈ onDuty visits, l.guard ≠ g) → ∀ v, v.lets g = true → d.serve v = d
  others : ∀ v i, (∀ name, v ≠ .add i name) →
    (∀ l ∈ onDutyAt i visits, v.lets l.guard = false) → (d.serve v).books i = d.books i
  answers : ∀ i looks d' idle, d.wait i looks = (d', some idle) →
    (idle = true ↔ (d'.books i).size = 0) ∧
    (∃ k ≤ looks.length, d' = d.serveAll ((looks.take k).flatMap Look.meanwhile) ∧
      (idle = true ↔ onDutyAt i (visits ++ (looks.take k).flatMap Look.meanwhile) = [])) ∧
    (idle = false → ∃ look ∈ looks, look.late = true)
  ends : ∀ i looks, (∃ look ∈ looks, look.late = true) →
    ∃ d' idle, d.wait i looks = (d', some idle)

/-- Whatever was asked of a desk, its books list its guards on duty and nothing else. -/
theorem lists_guards_on_duty (visits : List Visit) : (after visits).Accurate visits where
  size := size_eq_length_onDutyAt visits
  names := (sound_after visits).names
  placed l hMem := by
    obtain ⟨t, place, _, hPlace, hEntry⟩ := (sound_after visits).exists_entry hMem
    exact ⟨place, t.key, hPlace, hEntry⟩
  apart _ hl _ hm := (sound_after visits).eq_of_place? hl hm
  stays l hMem later hLater := after_append visits later ▸ place?_serveAll hMem later hLater
  removes l hMem v hLets place hPlace := by
    rw [serve_of_lets _ hLets]
    exact (sound_after visits).places_letGo hMem hPlace
  once g hNone v hLets := by
    rw [serve_of_lets _ hLets]
    exact (sound_after visits).letGo_eq hNone
  others v i hAdd hOther := by
    rcases v.gives_or_lets with ⟨j, name, rfl⟩ | ⟨g, hLets⟩
    · exact if_neg fun hBook : i = j => hAdd name (hBook ▸ rfl)
    · rw [serve_of_lets _ hLets]
      refine (sound_after visits).books_letGo_of_ne fun l hMem hGuard hBook => ?_
      have hKept := hOther l (List.mem_filter.mpr ⟨hMem, decide_eq_true hBook⟩)
      rw [hGuard, hLets] at hKept
      cases hKept
  answers i looks d' idle hWait := by
    obtain ⟨rfl, ⟨k, hk, rfl⟩, hLate⟩ := wait_eq_some hWait
    refine ⟨Bookings.isIdle_iff_size, ⟨k, hk, rfl, ?_⟩, hLate⟩
    rw [Bookings.isIdle_iff_size, ← after_append, size_eq_length_onDutyAt, List.length_eq_zero_iff]
  ends i looks hLate := wait_ends _ i hLate

/-- The first guard is released, and its place goes to the third one, which is for another task of
the same name. -/
def reusing : List Visit := [.add 0 "a", .add 0 "b", .release 0, .add 0 "a", .add 1 "c"]

theorem lists_guards_on_duty_reusing :
    ((after reusing).books 0).names.Perm ["b", "a"] ∧
    (after reusing).place? 2 = some 0 ∧
    (after reusing).serve (.drop 0) = after reusing ∧
    ((after reusing).serve (.drop 2)).books 1 = (after reusing).books 1 ∧
    ((after reusing).serveAll [.drop 1, .add 0 "d"]).place? 2 = some 0 ∧
    ∃ d', (after reusing).wait 1 [{}, ⟨[.drop 3], false⟩] = (d', some true) ∧
      (d'.books 1).size = 0 := by
  have hAccurate := lists_guards_on_duty reusing
  have hPlace : (after reusing).place? 2 = some 0 := by decide
  have hWait : ((after reusing).wait 1 [{}, ⟨[.drop 3], false⟩]).2 = some true := by decide
  obtain ⟨hEmpty, _⟩ := hAccurate.answers 1 _ _ _ (Prod.ext rfl hWait)
  refine ⟨hAccurate.names 0, hPlace, hAccurate.once 0 (by decide) _ rfl,
    hAccurate.others _ 1 nofun (by decide), ?_, _, Prod.ext rfl hWait, hEmpty.mp rfl⟩
  rw [← hPlace]
  exact hAccurate.stays ⟨2, 0, "a"⟩ (by decide) [.drop 1, .add 0 "d"] (by decide)

end Desk

end PipelineForge.Tasks
