import PipelineForge.Tasks.Control

/-!
# Flags of control blocks

A sound control block waits only while nothing could wake it, and waits whenever it is neither
scheduled nor finished. Each critical section keeps this, and its effect on the pending bits is
told bit by bit. Which sections come in which order is not the subject here.
-/

namespace PipelineForge.Tasks

def HasBit (bits : UInt32) (k : Nat) : Prop := bits.toBitVec.getLsbD k = true

instance (bits : UInt32) (k : Nat) : Decidable (HasBit bits k) :=
  inferInstanceAs (Decidable (_ = true))

theorem hasBit_and {a b : UInt32} {k : Nat} : HasBit (a &&& b) k ↔ HasBit a k ∧ HasBit b k := by
  simp [HasBit]

theorem hasBit_or {a b : UInt32} {k : Nat} : HasBit (a ||| b) k ↔ HasBit a k ∨ HasBit b k := by
  simp [HasBit]

theorem lt_of_hasBit {a : UInt32} {k : Nat} (h : HasBit a k) : k < 32 := by
  apply Decidable.byContradiction
  intro hk
  rw [HasBit, BitVec.getLsbD_of_ge _ _ (by omega)] at h
  cases h

theorem hasBit_and_not {a b : UInt32} {k : Nat} :
    HasBit (a &&& ~~~b) k ↔ HasBit a k ∧ ¬ HasBit b k := by
  by_cases hk : k < 32
  · simp [HasBit, hk]
  · constructor
    · intro h
      exact absurd (lt_of_hasBit h) hk
    · rintro ⟨ha, _⟩
      exact absurd (lt_of_hasBit ha) hk

theorem ne_zero_iff_hasBit {a : UInt32} : a ≠ 0 ↔ ∃ k, HasBit a k := by
  constructor
  · intro h
    apply Classical.byContradiction
    intro hNo
    apply h
    apply UInt32.toBitVec_inj.mp
    apply BitVec.eq_of_getLsbD_eq
    intro k _
    have hk : ¬ HasBit a k := fun hBit => hNo ⟨k, hBit⟩
    simpa [HasBit] using hk
  · rintro ⟨k, hk⟩ rfl
    simp [HasBit] at hk

theorem and_ne_zero_iff {a b : UInt32} : a &&& b ≠ 0 ↔ ∃ k, HasBit a k ∧ HasBit b k := by
  simp only [ne_zero_iff_hasBit, hasBit_and]

namespace Control

/-- A task that waits is at rest, nothing that it waits for is pending, and only an end or a wait
leaves a task without a job. -/
structure Sound (c : Control) : Prop where
  resting : ∀ condition, c.waiting = some condition →
    c.scheduled = false ∧ c.finished = false ∧ c.abortRequested = false ∧
      c.pending &&& condition = 0
  waits : c.scheduled = false → c.finished = false → c.waiting.isSome

theorem launched_sound : launched.Sound := by
  constructor
  · intro condition h
    cases h
  · intro h
    cases h

theorem Sound.waiting_eq_none {c : Control} (h : c.Sound) (hScheduled : c.scheduled = true) :
    c.waiting = none := by
  cases hWaiting : c.waiting with
  | none => rfl
  | some condition =>
    have hIdle := (h.resting condition hWaiting).1
    rw [hScheduled] at hIdle
    cases hIdle

theorem wokenBy_eq_some {c : Control} {bits condition : UInt32} :
    c.wokenBy bits = some condition ↔
      c.scheduled = false ∧ c.waiting = some condition ∧ condition &&& bits ≠ 0 := by
  rw [wokenBy]
  split
  · next h => simp [h]
  · next h => simp [h, Option.filter_eq_some_iff]

theorem signal_of_finished {c : Control} (bits : UInt32) (h : c.finished = true) :
    c.signal bits = (c, false) := by
  rw [signal, if_pos h]

theorem signal_of_woken {c : Control} {bits condition : UInt32} (hFinished : c.finished = false)
    (h : c.wokenBy bits = some condition) :
    c.signal bits = ({ c with
      pending := (c.pending ||| bits) &&& ~~~condition
      waiting := none
      scheduled := true }, true) := by
  have hWoken : ({ c with pending := c.pending ||| bits } : Control).wokenBy bits =
      some condition := h
  rw [signal, if_neg (by simp [hFinished])]
  simp only [hWoken]

theorem signal_of_not_woken {c : Control} {bits : UInt32} (hFinished : c.finished = false)
    (h : c.wokenBy bits = none) :
    c.signal bits = ({ c with pending := c.pending ||| bits }, false) := by
  have hWoken : ({ c with pending := c.pending ||| bits } : Control).wokenBy bits = none := h
  rw [signal, if_neg (by simp [hFinished])]
  simp only [hWoken]

theorem signal_sound {c : Control} (bits : UInt32) (h : c.Sound) : (c.signal bits).1.Sound := by
  cases hFinished : c.finished with
  | true =>
    rw [signal_of_finished bits hFinished]
    exact h
  | false =>
    cases hWoken : c.wokenBy bits with
    | some condition =>
      rw [signal_of_woken hFinished hWoken]
      constructor
      · intro other hOther
        cases hOther
      · intro hScheduled
        cases hScheduled
    | none =>
      rw [signal_of_not_woken hFinished hWoken]
      refine ⟨?_, h.waits⟩
      intro condition hWaiting
      obtain ⟨hScheduled, _, hAbort, hPending⟩ := h.resting condition hWaiting
      refine ⟨hScheduled, hFinished, hAbort, ?_⟩
      have hMiss : ¬ (condition &&& bits ≠ 0) := by
        intro hMeet
        rw [wokenBy_eq_some.mpr ⟨hScheduled, hWaiting, hMeet⟩] at hWoken
        cases hWoken
      apply Decidable.byContradiction
      intro hMeet
      obtain ⟨k, hk, hCondition⟩ := and_ne_zero_iff.mp hMeet
      rcases hasBit_or.mp hk with hk | hk
      · exact and_ne_zero_iff.mpr ⟨k, hk, hCondition⟩ hPending
      · exact hMiss (and_ne_zero_iff.mpr ⟨k, hCondition, hk⟩)

theorem abort_of_ignored {c : Control} (h : c.finished = true ∨ c.abortRequested = true) :
    c.abort = (c, false) := by
  rw [abort, if_pos (by simpa using h)]

theorem abort_of_scheduled {c : Control} (hFinished : c.finished = false)
    (hAbort : c.abortRequested = false) (hScheduled : c.scheduled = true) :
    c.abort = ({ c with abortRequested := true }, false) := by
  simp [abort, hFinished, hAbort, hScheduled]

theorem abort_of_resting {c : Control} (hFinished : c.finished = false)
    (hAbort : c.abortRequested = false) (hScheduled : c.scheduled = false) :
    c.abort = ({ c with abortRequested := true, waiting := none, scheduled := true }, true) := by
  simp [abort, hFinished, hAbort, hScheduled]

theorem abort_sound {c : Control} (h : c.Sound) : c.abort.1.Sound := by
  by_cases hIgnored : c.finished = true ∨ c.abortRequested = true
  · rw [abort_of_ignored hIgnored]
    exact h
  · obtain ⟨hFinished, hAbort⟩ : c.finished = false ∧ c.abortRequested = false := by
      simpa using hIgnored
    cases hScheduled : c.scheduled with
    | true =>
      rw [abort_of_scheduled hFinished hAbort hScheduled]
      constructor
      · intro condition hWaiting
        rw [h.waiting_eq_none hScheduled] at hWaiting
        cases hWaiting
      · intro hIdle
        rw [hScheduled] at hIdle
        cases hIdle
    | false =>
      rw [abort_of_resting hFinished hAbort hScheduled]
      constructor
      · intro condition hWaiting
        cases hWaiting
      · intro hIdle
        cases hIdle

theorem await_of_pending {c : Control} {condition : UInt32} (h : c.pending &&& condition ≠ 0) :
    c.await condition = ({ c with pending := c.pending &&& ~~~condition }, true) := by
  rw [await, if_pos h]

theorem await_of_abort {c : Control} {condition : UInt32} (h : c.pending &&& condition = 0)
    (hAbort : c.abortRequested = true) : c.await condition = (c, true) := by
  simp [await, h, hAbort]

theorem await_of_nothing {c : Control} {condition : UInt32} (h : c.pending &&& condition = 0)
    (hAbort : c.abortRequested = false) :
    c.await condition = ({ c with waiting := some condition, scheduled := false }, false) := by
  simp [await, h, hAbort]

theorem await_suspends_iff {c : Control} {condition : UInt32} :
    (c.await condition).2 = false ↔ c.pending &&& condition = 0 ∧ c.abortRequested = false := by
  by_cases hPending : c.pending &&& condition = 0
  · cases hAbort : c.abortRequested with
    | true => simp [await_of_abort hPending hAbort]
    | false => simp [await_of_nothing hPending hAbort, hPending]
  · simp [await_of_pending hPending, hPending]

theorem await_waiting {c : Control} {condition : UInt32} (hPasses : (c.await condition).2 = true)
    (hWaiting : c.waiting = none) : (c.await condition).1.waiting = none := by
  by_cases hPending : c.pending &&& condition = 0
  · cases hAbort : c.abortRequested with
    | true =>
      rw [await_of_abort hPending hAbort]
      exact hWaiting
    | false => simp [await_of_nothing hPending hAbort] at hPasses
  · rw [await_of_pending hPending]
    exact hWaiting

theorem await_sound {c : Control} (condition : UInt32) (h : c.Sound)
    (hScheduled : c.scheduled = true) (hFinished : c.finished = false) :
    (c.await condition).1.Sound := by
  have hWaiting := h.waiting_eq_none hScheduled
  by_cases hPending : c.pending &&& condition = 0
  · cases hAbort : c.abortRequested with
    | true =>
      rw [await_of_abort hPending hAbort]
      exact h
    | false =>
      rw [await_of_nothing hPending hAbort]
      constructor
      · rintro other ⟨⟩
        exact ⟨rfl, hFinished, hAbort, hPending⟩
      · intro _ _
        rfl
  · rw [await_of_pending hPending]
    constructor
    · intro other hOther
      simp only [hWaiting] at hOther
      cases hOther
    · intro hIdle
      rw [show ({ c with pending := c.pending &&& ~~~condition } : Control).scheduled = true
        from hScheduled] at hIdle
      cases hIdle

theorem complete_sound (c : Control) : c.complete.Sound := by
  constructor
  · intro condition h
    cases h
  · intro _ h
    cases h

end Control

end PipelineForge.Tasks
