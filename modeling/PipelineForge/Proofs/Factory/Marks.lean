import Mathlib.Data.List.Basic
import PipelineForge.Proofs.Factory.Farewells
import PipelineForge.Proofs.Factory.Reports

/-!
# Marks of factories

What a factory does about a combination leaves marks: a lookup was a hit or a miss, and a pipeline
that was missed gets stored, destroyed or fails. The counters of its report are counts of marks, and
between two combinations nothing is owed: what was looked up was handed off, unless the last
combination came to nothing.
-/

namespace PipelineForge.Factory

open Tasks (Mode Reply)

inductive Mark where
  | hit
  | miss
  /-- The fresh pipeline was put into the cache. -/
  | stored
  /-- The fresh pipeline was destroyed, as its key was stored meanwhile. -/
  | destroyed
  /-- The compilation was refused or faulted. -/
  | failed
  | handedOff
  /-- There was no hub any more to take the pipeline. -/
  | undelivered
deriving DecidableEq

/-- The mark that a piece of work leaves which takes a factory from one point to another. -/
def markOf (before after : Point) (reply : Reply State) : Option Mark :=
  match before, after, reply with
  | .entering, .handingOff _, _ => some .hit
  | .entering, .ordering _, _ => some .miss
  | .compiling .., _, .step _ => some .failed
  | .compiling .., _, .fault _ => some .failed
  | .storing .., .handingOff _, _ => some .stored
  | .discarding .., _, _ => some .destroyed
  | .handingOff _, _, .step (.yield _) => some .handedOff
  | .handingOff _, _, .step .abort => some .undelivered
  | _, _, _ => none

def mark? {κ : Type} (compiler : Compiler κ) (hub : Nat) (w : Floor κ) (f : Factory) :
    Option Mark :=
  let piece := work compiler hub w f
  markOf f.point piece.2.1.point piece.2.2.2

def Mark.isVoid : Mark → Bool
  | failed | undelivered => true
  | _ => false

def voided (marks : List Mark) : Nat := if marks.getLast?.any Mark.isVoid then 1 else 0

def Point.isFresh : Point → Bool
  | ordering _ | compiling .. | storing .. | discarding .. => true
  | _ => false

def Point.isOwing : Point → Bool
  | handingOff _ => true
  | point => point.isFresh

/-- What the counters of a factory count, and what is still open. -/
structure Books (marks : List Mark) (f : Factory) (owing fresh : Bool) : Prop where
  hits : f.report.hits = marks.count .hit
  misses : f.report.misses = marks.count .miss
  pipelines : f.report.pipelines = marks.count .handedOff
  lookups : marks.count .hit + marks.count .miss =
    marks.count .handedOff + marks.countP Mark.isVoid + owing.toNat
  compiled : marks.count .miss =
    marks.count .stored + marks.count .destroyed + marks.count .failed + fresh.toNat
  ended : marks.countP Mark.isVoid = voided marks

/-- The books by the mode of the task. Before it has acquired its cache a factory has left no
mark. -/
def Balances (marks : List Mark) (f : Factory) : Mode State → Prop
  | .resting s => Books marks f false false ∧ voided marks = 0 ∧ (s = .start → marks = [])
  | .working => Books marks f f.point.isOwing f.point.isFresh ∧ voided marks = 0 ∧
      (f.state = .start → marks = [])
  | _ => Books marks f false false

@[simp] theorem voided_append (marks : List Mark) (m : Mark) :
    voided (marks ++ [m]) = m.isVoid.toNat := by
  rw [voided, List.getLast?_concat]
  cases m <;> rfl

section Books

variable {marks : List Mark} {f f' : Factory} {owing fresh : Bool}

theorem Books.congr (h : Books marks f owing fresh) (hHits : f'.report.hits = f.report.hits)
    (hMisses : f'.report.misses = f.report.misses)
    (hPipelines : f'.report.pipelines = f.report.pipelines) : Books marks f' owing fresh :=
  ⟨hHits.trans h.hits, hMisses.trans h.misses, hPipelines.trans h.pipelines, h.lookups, h.compiled,
    h.ended⟩

theorem Books.append (h : Books marks f owing fresh) (hOpen : voided marks = 0) {m : Mark}
    (hHits : f'.report.hits = f.report.hits + [m].count .hit)
    (hMisses : f'.report.misses = f.report.misses + [m].count .miss)
    (hPipelines : f'.report.pipelines = f.report.pipelines + [m].count .handedOff)
    {owing' fresh' : Bool}
    (hLookups : owing.toNat + [m].count .hit + [m].count .miss =
      [m].count .handedOff + m.isVoid.toNat + owing'.toNat)
    (hCompiled : fresh.toNat + [m].count .miss =
      [m].count .stored + [m].count .destroyed + [m].count .failed + fresh'.toNat) :
    Books (marks ++ [m]) f' owing' fresh' := by
  have hVoid : [m].countP Mark.isVoid = m.isVoid.toNat := by cases m <;> rfl
  have hNone : marks.countP Mark.isVoid = 0 := h.ended.trans hOpen
  have hHits' := h.hits
  have hMisses' := h.misses
  have hPipelines' := h.pipelines
  have hLookups' := h.lookups
  have hCompiled' := h.compiled
  constructor
  · rw [List.count_append]
    omega
  · rw [List.count_append]
    omega
  · rw [List.count_append]
    omega
  · simp only [List.count_append, List.countP_append]
    omega
  · simp only [List.count_append]
    omega
  · rw [List.countP_append, voided_append]
    omega

theorem Books.unmarked (h : Books marks f owing fresh)
    (hReport : f'.report = f.report) : Books (marks ++ []) f' owing fresh := by
  rw [List.append_nil]
  exact h.congr (by rw [hReport]) (by rw [hReport]) (by rw [hReport])

end Books

theorem reported_reported (f : Factory) : f.reported.Reported .leaving := by
  refine .inr ⟨rfl, fun failure hPoint => ?_⟩
  cases hPoint

theorem isOwing_of_at {point : Point} {s : State} (hAt : point.At s) (hOther : s ≠ .generate) :
    point.isOwing = false := by
  cases point with
  | ordering o => exact absurd hAt hOther
  | compiling ticket o => exact absurd hAt hOther
  | storing key p => exact absurd hAt hOther
  | discarding own kept => exact absurd hAt hOther
  | handingOff p => exact absurd hAt hOther
  | _ => rfl

theorem Books.idle {marks : List Mark} {f : Factory}
    (h : Books marks f f.point.isOwing f.point.isFresh) (hPoint : f.point.isOwing = false) :
    Books marks f false false := by
  have hFresh : f.point.isFresh = false := by
    cases hCase : f.point <;> rw [hCase] at hPoint <;> first | rfl | cases hPoint
  rwa [hPoint, hFresh] at h

theorem Balances.books {marks : List Mark} {f : Factory} {mode : Mode State}
    (h : f.Balances marks mode) (hPoint : mode = .working → f.point.isOwing = false) :
    Books marks f false false := by
  cases mode with
  | resting s => exact h.1
  | working => exact h.1.idle (hPoint rfl)
  | _ => exact h

section Passages

variable {κ : Type} {compiler : Compiler κ} {hub : Nat} {w w' : Floor κ} {f f' : Factory}
  {mode mode' : Mode State} {reply : Reply State} {marks : List Mark}

theorem Turn.balances_more (h : Turn compiler hub w f w' f' .more)
    (hBalances : f.Balances marks .working) (hAt : f.point.At f.state) :
    f'.Balances (marks ++ (markOf f.point f'.point .more).toList) .working := by
  obtain ⟨hBooks, hOpen, hYoung⟩ := hBalances
  have hPast (hState : f.state = .generate) {ms : List Mark} (hStart : f.state = .start) :
      ms = [] := nomatch hState.symm.trans hStart
  cases h with
  | started hPoint | ordered _ _ _ hPoint | built _ _ _ _ _ hPoint | outrun _ _ _ _ _ hPoint =>
    rw [hPoint] at hBooks ⊢
    refine ⟨hBooks.unmarked rfl, ?_, ?_⟩
    · rwa [← List.append_nil marks] at hOpen
    · rwa [← List.append_nil marks] at hYoung
  | hit plan o id registry p hPoint hState =>
    rw [hPoint] at hBooks ⊢
    change Books (marks ++ [.hit]) _ true false ∧ _
    exact ⟨hBooks.append hOpen rfl rfl rfl rfl rfl, voided_append _ _, hPast hState⟩
  | missed plan o id registry hPoint hState =>
    rw [hPoint] at hBooks ⊢
    change Books (marks ++ [.miss]) _ true true ∧ _
    exact ⟨hBooks.append hOpen rfl rfl rfl rfl rfl, voided_append _ _, hPast hState⟩
  | stored key p id registry hPoint =>
    rw [hPoint] at hBooks hAt ⊢
    change Books (marks ++ [.stored]) _ true false ∧ _
    exact ⟨hBooks.append hOpen rfl rfl rfl rfl rfl, voided_append _ _, hPast hAt⟩
  | discarded own kept hPoint =>
    rw [hPoint] at hBooks hAt ⊢
    change Books (marks ++ [.destroyed]) _ true false ∧ _
    exact ⟨hBooks.append hOpen rfl rfl rfl rfl rfl, voided_append _ _, hPast hAt⟩

theorem Turn.books_of_abort (h : Turn compiler hub w f w' f' (.step .abort))
    (hBalances : f.Balances marks .working) (hAt : f.point.At f.state)
    (hCache : f.state = .start ∨ f.cache ≠ none) :
    Books (marks ++ (markOf f.point f'.point (.step .abort)).toList) f' false false := by
  obtain ⟨hBooks, hOpen, _⟩ := hBalances
  cases h with
  | doomed _ hPoint | unequipped _ hPoint | tooWide _ hPoint | unfilled _ _ hPoint
  | evicted _ hPoint | unacquired _ hPoint =>
    rw [hPoint] at hBooks ⊢
    exact hBooks.unmarked rfl
  | refused ticket o k registry causes hPoint =>
    rw [hPoint] at hBooks ⊢
    change Books (marks ++ [.failed]) _ false false
    exact hBooks.append hOpen rfl rfl rfl rfl rfl
  | unstored key p hPoint hNone =>
    rw [hPoint] at hAt
    refine absurd hNone (hCache.resolve_left fun hStart => ?_)
    cases hAt.symm.trans hStart
  | unsent p hPoint =>
    rw [hPoint] at hBooks ⊢
    change Books (marks ++ [.undelivered]) _ false false
    exact hBooks.append hOpen rfl rfl rfl rfl rfl
  | idle hPoint => cases hAt.isBusy.symm.trans (Point.isBusy_eq_false hPoint)

/-- A turn keeps the books with the mark that it leaves. -/
theorem Turn.balances (h : Turn compiler hub w f w' f' reply)
    (hBalances : f.Balances marks .working) (hAt : f.point.At f.state)
    (hCache : f.state = .start ∨ f.cache ≠ none) :
    f'.Balances (marks ++ (markOf f.point f'.point reply).toList) reply.mode := by
  cases h.effect hAt.isBusy with
  | goesOn hTurn => exact hTurn.balances_more hBalances hAt
  | fails e hTurn => exact hTurn.books_of_abort hBalances hAt hCache
  | proceeds s hTurn =>
    obtain ⟨hBooks, hOpen, _⟩ := hBalances
    cases hTurn with
    | equipped hPoint | again hPoint | planned _ hPoint | unplanned hPoint | exhausted _ hPoint
    | acquired _ _ hPoint =>
      rw [hPoint] at hBooks ⊢
      refine ⟨hBooks.unmarked rfl, ?_, nofun⟩
      rwa [← List.append_nil marks] at hOpen
  | waits hPoint =>
    obtain ⟨hBooks, hOpen, _⟩ := hBalances
    rw [hPoint] at hBooks ⊢
    refine ⟨hBooks.unmarked rfl, ?_, nofun⟩
    rwa [← List.append_nil marks] at hOpen
  | sends p hPoint =>
    obtain ⟨hBooks, hOpen, _⟩ := hBalances
    rw [hPoint] at hBooks ⊢
    change Books (marks ++ [.handedOff]) _ false false ∧ _
    exact ⟨hBooks.append hOpen rfl rfl rfl rfl rfl, voided_append _ _, nofun⟩
  | finishes hPoint =>
    have hBooks := hBalances.1
    rw [hPoint] at hBooks ⊢
    exact hBooks.unmarked rfl
  | faults text hTurn =>
    obtain ⟨hBooks, hOpen, _⟩ := hBalances
    cases hTurn with
    | broken _ hPoint =>
      rw [hPoint] at hBooks
      rw [Factory.equipped, hPoint]
      exact hBooks.unmarked rfl
    | tooMany _ hPoint | misfilled _ hPoint =>
      rw [hPoint] at hBooks ⊢
      exact hBooks.unmarked rfl
    | crashed ticket o k registry _ hPoint =>
      rw [hPoint] at hBooks ⊢
      change Books (marks ++ [.failed]) _ false false
      exact hBooks.append hOpen rfl rfl rfl rfl rfl

theorem Passage.balances (h : Passage compiler hub w f mode w' f' mode') (hMode : mode ≠ .working)
    (hNot : ¬ f'.Reported mode') (hBalances : f.Balances marks mode) :
    f'.Balances marks mode' := by
  cases h with
  | still => exact hBalances
  | entered s =>
    obtain ⟨hBooks, hOpen, hYoung⟩ := hBalances
    refine ⟨hBooks.congr ?_ ?_ ?_, hOpen, hYoung⟩
    · simp only [enter, Report.visit]
      split <;> rfl
    · simp only [enter, Report.visit]
      split <;> rfl
    · simp only [enter, Report.visit]
      split <;> rfl
  | stopped s => exact hBalances.1
  | turned hTurn => exact absurd rfl hMode
  | told outcome => exact Books.congr hBalances rfl rfl rfl
  | reported failure hPoint => exact absurd f.reported_reported hNot
  | signedOff hPoint => exact absurd (.inl rfl) hNot

theorem Passage.not_reported (h : Passage compiler hub w f mode w' f' mode')
    (hNot : ¬ f'.Reported mode') : ¬ f.Reported mode := by
  cases h with
  | still => exact hNot
  | signedOff hPoint => exact absurd (.inl rfl) hNot
  | reported failure hPoint => exact absurd f.reported_reported hNot
  | _ => simp [Reported]

theorem Passage.reports_now (h : Passage compiler hub w f mode w' f' mode')
    (hBefore : ¬ f.Reported mode) (hAfter : f'.Reported mode') : mode = .leaving := by
  cases h with
  | still => exact absurd hAfter hBefore
  | turned hTurn => exact absurd hAfter (not_reported_reply _ _)
  | entered s => simp [Reported] at hAfter
  | stopped s => simp [Reported] at hAfter
  | told outcome => simp [Reported, leave] at hAfter
  | reported failure hPoint => rfl
  | signedOff hPoint => rfl

/-- A factory keeps its cache from its start until it reports its end. -/
theorem Passage.cache_or_start (h : Passage compiler hub w f mode w' f' mode')
    (hNot : ¬ f'.Reported mode') :
    f'.cache = f.cache ∨ mode = .working ∧ f.point = .acquiring := by
  cases h with
  | turned hTurn =>
    cases hTurn with
    | acquired registry id hPoint hAcquire => exact .inr ⟨rfl, hPoint⟩
    | _ => exact .inl rfl
  | reported failure hPoint => exact absurd f.reported_reported hNot
  | _ => exact .inl rfl

end Passages

end PipelineForge.Factory
