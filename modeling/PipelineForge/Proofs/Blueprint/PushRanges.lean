import PipelineForge.Blueprint.Edit

/-!
# Push constant ranges of a blueprint

However a blueprint is built, its push constant ranges are in ascending order of their stage sets,
share no stages, and end within the 32-bit numbers. So looking for a range that is in the way of a
new one never overflows, and a new range comes to stand among those that are left as if all had
been sorted. What the other edits do is not looked at.
-/

namespace PipelineForge

namespace PushRange

/-- Two ranges clash if they share a stage but neither the offset nor the end. -/
def Clashes (r s : PushRange) : Prop := r.Shares s ∧ r.offset ≠ s.offset ∧ r.stop ≠ s.stop

instance (r s : PushRange) : Decidable (r.Clashes s) := inferInstanceAs (Decidable (_ ∧ _ ∧ _))

theorem shares_comm {r s : PushRange} : r.Shares s ↔ s.Shares r := by
  rw [Shares, Shares, UInt32.and_comm]

theorem stopWord_of_bounded {r : PushRange} (h : r.Bounded) :
    r.stopWord = .ok (r.offset + r.size) := if_pos h

theorem stopWord_of_not_bounded {r : PushRange} (h : ¬ r.Bounded) :
    r.stopWord = .error .sumOverflow := if_neg h

theorem toNat_stopWord {r : PushRange} (h : r.Bounded) : (r.offset + r.size).toNat = r.stop := by
  rw [UInt32.toNat_add]
  exact Nat.mod_eq_of_lt h

theorem stopWord_inj {r s : PushRange} (hr : r.Bounded) (hs : s.Bounded) :
    r.offset + r.size = s.offset + s.size ↔ r.stop = s.stop := by
  rw [← UInt32.toNat_inj, toNat_stopWord hr, toNat_stopWord hs]

variable {r : PushRange} {rs : List PushRange}

section Bounded

variable (hr : r.Bounded)
include hr

theorem blocks_eq {old : PushRange} (hOld : old.Bounded) :
    old.blocks r (r.offset + r.size) = .ok (decide (old.Clashes r)) := by
  rw [blocks]
  split
  · next hBoth =>
    rw [stopWord_of_bounded hOld]
    simp [Except.map, Clashes, hBoth, stopWord_inj hOld hr]
  · next hNot =>
    rw [decide_eq_false fun hClash : old.Clashes r => hNot ⟨hClash.1, hClash.2.1⟩]

/-- No addition overflows while bounded ranges are looked through. -/
theorem firstBlocking_eq (hAll : ∀ old ∈ rs, old.Bounded) :
    r.firstBlocking (r.offset + r.size) rs = .ok (rs.find? (·.Clashes r)) := by
  induction rs with
  | nil => rfl
  | cons old rest ih =>
    obtain ⟨hOld, hRest⟩ := List.forall_mem_cons.mp hAll
    rw [firstBlocking, blocks_eq hr hOld, List.find?_cons]
    cases decide (old.Clashes r) with
    | true => rfl
    | false => exact ih hRest

theorem insert_of_clash (hAll : ∀ old ∈ rs, old.Bounded) {old : PushRange}
    (hFirst : rs.find? (·.Clashes r) = some old) : r.insert rs = .error (.error old) := by
  simp only [insert, stopWord_of_bounded hr, firstBlocking_eq hr hAll, hFirst]

theorem insert_of_no_clash (hAll : ∀ old ∈ rs, old.Bounded)
    (hNone : rs.find? (·.Clashes r) = none) :
    r.insert rs = .ok (r.place (rs.filter (¬ ·.Shares r))) := by
  simp only [insert, stopWord_of_bounded hr, firstBlocking_eq hr hAll, hNone]

end Bounded

theorem insert_of_not_bounded (hr : ¬ r.Bounded) : r.insert rs = .error (.fault .sumOverflow) := by
  simp only [insert, stopWord_of_not_bounded hr]

/-- What holds of the ranges of every blueprint. -/
structure Ordered (rs : List PushRange) : Prop where
  sorted : rs.Pairwise fun r s => r.stages ≤ s.stages
  apart : rs.Pairwise fun r s => ¬ r.Shares s
  bounded : ∀ r ∈ rs, r.Bounded

theorem ordered_nil : Ordered [] := ⟨.nil, .nil, nofun⟩

theorem Ordered.filter (h : Ordered rs) (p : PushRange → Bool) : Ordered (rs.filter p) :=
  ⟨h.sorted.filter p, h.apart.filter p, fun s hs => h.bounded s (List.mem_filter.mp hs).1⟩

theorem place_eq (r : PushRange) (hSorted : rs.Pairwise fun r s => r.stages ≤ s.stages) :
    ∃ front back, front ++ back = rs ∧ r.place rs = front ++ r :: back ∧
      (∀ s ∈ front, s.stages < r.stages) ∧ ∀ s ∈ back, r.stages ≤ s.stages := by
  refine ⟨_, _, List.takeWhile_append_dropWhile, rfl, ?_, ?_⟩
  · intro s hs
    simpa using List.all_eq_true.mp List.all_takeWhile s hs
  · -- The first range that is left has no smaller stage set, and so have those behind it.
    intro s hs
    have hRest := hSorted.sublist (List.dropWhile_sublist (·.stages < r.stages))
    cases hBack : rs.dropWhile (·.stages < r.stages) with
    | nil =>
      rw [hBack] at hs
      cases hs
    | cons first rest =>
      have hFirst : ¬ first.stages < r.stages := by
        have hHead := List.head?_dropWhile_not (·.stages < r.stages) rs
        rw [hBack] at hHead
        simpa using hHead
      rw [hBack] at hs hRest
      rcases List.mem_cons.mp hs with rfl | hs
      · exact UInt32.not_lt.mp hFirst
      · exact UInt32.le_trans (UInt32.not_lt.mp hFirst) ((List.pairwise_cons.mp hRest).1 s hs)

theorem Ordered.place (h : Ordered rs) (hr : r.Bounded) (hApart : ∀ s ∈ rs, ¬ s.Shares r) :
    Ordered (r.place rs) := by
  obtain ⟨front, back, rfl, hPlace, hFront, hBack⟩ := place_eq r h.sorted
  rw [hPlace]
  obtain ⟨hSortedFront, hSortedBack, hSorted⟩ := List.pairwise_append.mp h.sorted
  obtain ⟨hApartFront, hApartBack, hBetween⟩ := List.pairwise_append.mp h.apart
  constructor
  · refine List.pairwise_append.mpr ⟨hSortedFront, List.pairwise_cons.mpr ⟨hBack, hSortedBack⟩, ?_⟩
    intro s hs t ht
    rcases List.mem_cons.mp ht with rfl | ht
    · exact UInt32.le_of_lt (hFront s hs)
    · exact hSorted s hs t ht
  · refine List.pairwise_append.mpr ⟨hApartFront, List.pairwise_cons.mpr ⟨?_, hApartBack⟩, ?_⟩
    · intro s hs hShares
      exact hApart s (List.mem_append_right _ hs) (shares_comm.mp hShares)
    · intro s hs t ht
      rcases List.mem_cons.mp ht with rfl | ht
      · exact hApart s (List.mem_append_left _ hs)
      · exact hBetween s hs t ht
  · intro s hs
    rcases List.mem_append.mp hs with hs | hs
    · exact h.bounded s (List.mem_append_left _ hs)
    · rcases List.mem_cons.mp hs with rfl | hs
      · exact hr
      · exact h.bounded s (List.mem_append_right _ hs)

theorem Ordered.insert (h : Ordered rs) {rs' : List PushRange} (hInsert : r.insert rs = .ok rs') :
    Ordered rs' := by
  by_cases hr : r.Bounded
  · cases hFirst : rs.find? (·.Clashes r) with
    | some old =>
      rw [insert_of_clash hr h.bounded hFirst] at hInsert
      cases hInsert
    | none =>
      rw [insert_of_no_clash hr h.bounded hFirst] at hInsert
      cases hInsert
      apply (h.filter _).place hr
      intro s hs
      simpa using (List.mem_filter.mp hs).2
  · rw [insert_of_not_bounded hr] at hInsert
    cases hInsert

end PushRange

namespace Blueprint

open PushRange (Ordered)

variable {b b' : Blueprint}

theorem ordered_insertPush (h : Ordered b.pushRanges) {r : PushRange}
    (hInsert : b.insertPush r = .ok b') : Ordered b'.pushRanges := by
  rw [insertPush] at hInsert
  split at hInsert
  · next hRanges =>
    cases hInsert
    exact h.insert hRanges
  · cases hInsert
  · cases hInsert

theorem eq_of_insertPush {r : PushRange} (h : b.insertPush r = .ok b') :
    ∃ ranges, b' = { b with pushRanges := ranges } := by
  rw [insertPush] at h
  split at h
  · next ranges _ =>
    cases h
    exact ⟨ranges, rfl⟩
  · cases h
  · cases h

theorem eq_of_setAttachmentBlend {attachment : UInt64} {state : BlendState}
    (h : b.setAttachmentBlend attachment state = .ok b') :
    ∃ states, b' = { b with blendStates := states } := by
  simp only [setAttachmentBlend] at h
  split at h
  · cases h
  split at h
  · cases h
  · cases h
    exact ⟨_, rfl⟩

theorem eq_of_attachmentBlend {attachment : UInt64} {state : BlendState}
    (h : b.apply (.attachmentBlend attachment state) = .ok b') :
    ∃ states, b' = { b with blendStates := states } := by
  rw [apply] at h
  cases hBlend : b.setAttachmentBlend attachment state with
  | error x =>
    rw [hBlend] at h
    cases h
  | ok b'' =>
    rw [hBlend] at h
    cases h
    exact eq_of_setAttachmentBlend hBlend

theorem ordered_apply (h : Ordered b.pushRanges) {e : Edit} (hApply : b.apply e = .ok b') :
    Ordered b'.pushRanges := by
  cases e with
  | push r => exact ordered_insertPush h hApply
  | attachmentBlend attachment state =>
    obtain ⟨_, rfl⟩ := eq_of_attachmentBlend hApply
    exact h
  | _ =>
    cases hApply
    exact h

/-- The blueprint after an edit was tried, be it that the edit was made or that it failed. -/
def attempt (b : Blueprint) (e : Edit) : Blueprint :=
  match b.apply e with
  | .ok b' => b'
  | .error _ => b

/-- The default blueprint after some edits were tried one after the other. -/
def built (es : List Edit) : Blueprint := es.foldl attempt {}

/-- What the default blueprint has and every edit keeps, all blueprints have. -/
theorem built_induction {P : Blueprint → Prop} (hDefault : P {})
    (hEdit : ∀ b e b', P b → b.apply e = .ok b' → P b') (es : List Edit) : P (built es) := by
  have hAll (b : Blueprint) (h : P b) : P (es.foldl attempt b) := by
    induction es generalizing b with
    | nil => exact h
    | cons e es ih =>
      apply ih
      rw [attempt]
      split
      · next hApply => exact hEdit b e _ h hApply
      · exact h
  exact hAll {} hDefault

theorem ordered_built (es : List Edit) : Ordered (built es).pushRanges :=
  built_induction (P := fun b => Ordered b.pushRanges) PushRange.ordered_nil
    (fun _ _ _ h hApply => ordered_apply h hApply) es

/-- A range that ends within the 32-bit numbers is refused, with the first range of the list that
clashes with it, or takes the place of those it shares a stage with, before the first one whose
stage set is no smaller; any other range is a fault. Neither refusal nor fault changes anything,
and after any edits the ranges are in order, apart from each other and bounded. -/
theorem push_follows_policy (es : List Edit) (r : PushRange) :
    (r.Bounded →
      match (built es).pushRanges.find? (·.Clashes r) with
      | some old =>
        (built es).apply (.push r) = .error (.error (.pushConflict old r)) ∧
          built (es ++ [.push r]) = built es
      | none =>
        ∃ front back, front ++ back = (built es).pushRanges.filter (¬ ·.Shares r) ∧
          (∀ s ∈ front, s.stages < r.stages) ∧ (∀ s ∈ back, r.stages ≤ s.stages) ∧
          (built es).apply (.push r) =
            .ok { built es with pushRanges := front ++ r :: back }) ∧
    (¬ r.Bounded →
      (built es).apply (.push r) = .error (.fault .sumOverflow) ∧
        built (es ++ [.push r]) = built es) ∧
    Ordered (built es).pushRanges := by
  have hOrdered := ordered_built es
  -- An edit that fails leaves the blueprint as it was.
  have hSame {t : Trouble ForgeError} (hFails : (built es).apply (.push r) = .error t) :
      built (es ++ [.push r]) = built es := by
    rw [built, List.foldl_append, ← built, List.foldl_cons, List.foldl_nil, attempt, hFails]
  refine ⟨?_, ?_, hOrdered⟩
  · intro hBounded
    split
    · next old hFirst =>
      have hFails : (built es).apply (.push r) = .error (.error (.pushConflict old r)) := by
        rw [apply, insertPush, PushRange.insert_of_clash hBounded hOrdered.bounded hFirst]
      exact ⟨hFails, hSame hFails⟩
    · next hNone =>
      obtain ⟨front, back, hSplit, hPlace, hFront, hBack⟩ :=
        PushRange.place_eq r (hOrdered.filter (¬ ·.Shares r)).sorted
      refine ⟨front, back, hSplit, hFront, hBack, ?_⟩
      rw [apply, insertPush, PushRange.insert_of_no_clash hBounded hOrdered.bounded hNone]
      simp only [hPlace]
  · intro hUnbounded
    have hFails : (built es).apply (.push r) = .error (.fault .sumOverflow) := by
      rw [apply, insertPush, PushRange.insert_of_not_bounded hUnbounded]
    exact ⟨hFails, hSame hFails⟩

/-- Two ranges of no stages and two that a third one can meet at different ends. The third edit is
a fault and the fourth one is refused. -/
def mixed : List Edit :=
  [.push ⟨16, 64, 16⟩, .push ⟨1, 0, 16⟩, .push ⟨1, 0xffffffff, 1⟩, .push ⟨17, 4, 8⟩,
    .push ⟨0, 5, 5⟩, .push ⟨0, 6, 6⟩]

example : (built mixed).pushRanges = [⟨0, 6, 6⟩, ⟨0, 5, 5⟩, ⟨1, 0, 16⟩, ⟨16, 64, 16⟩] := by decide

/-- A range that shares its offset with one range and its end with another one replaces both. -/
theorem push_follows_policy_mixed :
    (⟨17, 0, 80⟩ : PushRange).Bounded ∧ (⟨17, 4, 8⟩ : PushRange).Bounded ∧
    ¬ (⟨2, 0xffffffff, 1⟩ : PushRange).Bounded ∧
    (∃ front back, front ++ back = [⟨0, 6, 6⟩, ⟨0, 5, 5⟩] ∧
      (built mixed).apply (.push ⟨17, 0, 80⟩) =
        .ok { built mixed with pushRanges := front ++ ⟨17, 0, 80⟩ :: back }) ∧
    (built mixed).apply (.push ⟨17, 4, 8⟩) =
      .error (.error (.pushConflict ⟨1, 0, 16⟩ ⟨17, 4, 8⟩)) ∧
    (built mixed).apply (.push ⟨2, 0xffffffff, 1⟩) = .error (.fault .sumOverflow) := by
  have hMeets : (⟨17, 0, 80⟩ : PushRange).Bounded := by decide
  have hClashes : (⟨17, 4, 8⟩ : PushRange).Bounded := by decide
  have hTooLong : ¬ (⟨2, 0xffffffff, 1⟩ : PushRange).Bounded := by decide
  have hNone : (built mixed).pushRanges.find? (·.Clashes ⟨17, 0, 80⟩) = none := by decide
  have hFirst : (built mixed).pushRanges.find? (·.Clashes ⟨17, 4, 8⟩) = some ⟨1, 0, 16⟩ := by decide
  have hLeft : (built mixed).pushRanges.filter (¬ ·.Shares ⟨17, 0, 80⟩) =
      [⟨0, 6, 6⟩, ⟨0, 5, 5⟩] := by decide
  have hTaken := (push_follows_policy mixed ⟨17, 0, 80⟩).1 hMeets
  have hRefused := (push_follows_policy mixed ⟨17, 4, 8⟩).1 hClashes
  have hFault := (push_follows_policy mixed ⟨2, 0xffffffff, 1⟩).2.1 hTooLong
  rw [hNone] at hTaken
  rw [hFirst] at hRefused
  obtain ⟨front, back, hSplit, _, _, hApply⟩ := hTaken
  exact ⟨hMeets, hClashes, hTooLong, ⟨front, back, hSplit.trans hLeft, hApply⟩, hRefused.1,
    hFault.1⟩

end Blueprint

end PipelineForge
