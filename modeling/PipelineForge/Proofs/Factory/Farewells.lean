import PipelineForge.Proofs.Factory.Progress

/-!
# Farewells of factories

A factory sends its end once, before it releases its booking, and nothing after it. What it made
and how it ended are not looked at.
-/

namespace PipelineForge.Factory

open Tasks (Mode Reply)

def Reported (f : Factory) (mode : Mode State) : Prop :=
  mode = .left ∨ mode = .leaving ∧ ∀ failure, f.point ≠ .reporting failure

theorem not_reported_reply (f : Factory) (reply : Reply State) : ¬ f.Reported reply.mode := by
  rintro (hLeft | ⟨hLeaving, _⟩)
  · cases reply with
    | step s => cases s <;> cases hLeft
    | _ => cases hLeft
  · exact mode_ne_leaving reply hLeaving

section Passages

variable {κ : Type} {compiler : Compiler κ} {hub : Nat} {w w' : Floor κ} {f f' : Factory}
  {mode mode' : Mode State}

theorem Passage.books (h : Passage compiler hub w f mode w' f' mode') (hMode : mode' ≠ .left) :
    mode ≠ .left ∧ f'.ticket = f.ticket := by
  cases h with
  | still => exact ⟨hMode, rfl⟩
  | entered s => exact ⟨nofun, rfl⟩
  | stopped s => exact ⟨nofun, rfl⟩
  | turned hTurn => exact ⟨nofun, hTurn.identity.2.2⟩
  | told outcome => exact ⟨nofun, rfl⟩
  | reported failure hPoint => exact ⟨nofun, rfl⟩
  | signedOff hPoint => exact absurd rfl hMode

theorem Passage.of_left (h : Passage compiler hub w f .left w' f' mode') :
    w' = w ∧ f' = f ∧ mode' = .left := by
  cases h with
  | still => exact ⟨rfl, rfl, rfl⟩

/-- A passage sends the end of the factory exactly if it takes the factory past its report. -/
theorem Passage.reported_or_same (h : Passage compiler hub w f mode w' f' mode')
    (hOpen : w.office.isOpen = true) :
    (f'.Reported mode' ↔ f.Reported mode) ∧ endingsIn f.id (sentIn w w') = [] ∨
      ¬ f.Reported mode ∧ f'.Reported mode' ∧ (endingsIn f.id (sentIn w w')).length = 1 := by
  have hQuiet (hEvents : w'.office.events = w.office.events) :
      endingsIn f.id (sentIn w w') = [] := by
    rw [sentIn_of_events hEvents]
    rfl
  cases h with
  | still => exact .inl ⟨Iff.rfl, hQuiet rfl⟩
  | entered s => exact .inl ⟨by simp [Reported], hQuiet rfl⟩
  | stopped s => exact .inl ⟨by simp [Reported], hQuiet rfl⟩
  | turned hTurn =>
    refine .inl ⟨iff_of_false (not_reported_reply _ _) (by simp [Reported]), ?_⟩
    rcases hTurn.quiet_or_sent with hNone | ⟨p, _, _, rfl, _, _⟩
    · rw [hNone]
      rfl
    · rw [sentIn_send hOpen rfl]
      rfl
  | told outcome => exact .inl ⟨by simp [Reported, leave], hQuiet rfl⟩
  | reported failure hPoint =>
    refine .inr ⟨by simp [Reported, hPoint], .inr ⟨rfl, nofun⟩, ?_⟩
    rw [sentIn_send hOpen rfl]
    simp [endingsIn]
  | signedOff hPoint =>
    exact .inl ⟨iff_of_true (.inl rfl) (.inr ⟨rfl, hPoint⟩), hQuiet (Office.events_release _ _)⟩

theorem Passage.made_slot (h : Passage compiler hub w f mode w' f' mode') {g : FactoryId}
    {s : SlotId} {p : Pipeline} (hMade : Event.made g s p ∈ sentIn w w') : s = f.slot := by
  rcases h.sentIn_cases with hSent | ⟨q, _, _, hSent⟩ | ⟨failure, _, _, _, _, hSent⟩
  · rw [hSent] at hMade
    cases hMade
  · rw [hSent] at hMade
    cases List.mem_singleton.mp hMade
    rfl
  · rw [hSent] at hMade
    cases List.mem_singleton.mp hMade

theorem Passage.of_ended (h : Passage compiler hub w f mode w' f' mode') {g : FactoryId}
    {report : Report} {failure : Option ForgeError} {cache : Option CacheId}
    (hEnded : Event.ended g report failure cache ∈ sentIn w w') :
    g = f.id ∧ report = f.report ∧ ¬ f.Reported mode := by
  rcases h.sentIn_cases with hSent | ⟨p, _, _, hSent⟩ | ⟨failure', hPoint, rfl, _, _, hSent⟩
  · rw [hSent] at hEnded
    cases hEnded
  · rw [hSent] at hEnded
    cases List.mem_singleton.mp hEnded
  · rw [hSent] at hEnded
    cases List.mem_singleton.mp hEnded
    exact ⟨rfl, rfl, by simp [Reported, hPoint]⟩

theorem Passage.sentIn_of_closed (h : Passage compiler hub w f mode w' f' mode')
    (hClosed : w.office.isOpen = false) : sentIn w w' = [] := by
  cases h with
  | turned hTurn =>
    rcases hTurn.quiet_or_sent with hNone | ⟨p, _, hOpen, _⟩
    · exact hNone
    · rw [hClosed] at hOpen
      cases hOpen
  | reported failure hPoint => exact sentIn_closed hClosed rfl
  | signedOff hPoint => exact sentIn_of_events (Office.events_release _ _)
  | _ => exact sentIn_of_events rfl

/-- Until its end is sent, a factory counts the pipelines that it sends. -/
theorem Passage.counts (h : Passage compiler hub w f mode w' f' mode')
    (hNot : ¬ f'.Reported mode') :
    f'.report.pipelines = f.report.pipelines + (madeIn f.id (sentIn w w')).length := by
  have hQuiet (hEvents : w'.office.events = w.office.events) :
      madeIn f.id (sentIn w w') = [] := by
    rw [sentIn_of_events hEvents]
    rfl
  cases h with
  | still => rw [hQuiet rfl, List.length_nil, Nat.add_zero]
  | entered s =>
    rw [hQuiet rfl, List.length_nil, Nat.add_zero]
    simp only [enter, Report.visit]
    split <;> rfl
  | stopped s => rw [hQuiet rfl, List.length_nil, Nat.add_zero]
  | turned hTurn =>
    cases hTurn with
    | sent p hPoint hOpen =>
      rw [sentIn_send hOpen rfl]
      simp [madeIn, delivered]
    | _ => rw [hQuiet rfl, List.length_nil]; rfl
  | told outcome => rw [hQuiet rfl, List.length_nil, Nat.add_zero]; rfl
  | reported failure hPoint =>
    refine absurd (.inr ⟨rfl, ?_⟩) hNot
    rintro failure ⟨⟩
  | signedOff hPoint => simp [Reported] at hNot

end Passages

end PipelineForge.Factory
