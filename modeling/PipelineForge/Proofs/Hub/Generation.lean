import PipelineForge.Proofs.Axis.Products
import PipelineForge.Proofs.Characteristic.Fills
import PipelineForge.Proofs.Factory.Generation
import PipelineForge.Proofs.Hub.Reports

/-!
# Generation in a hub

In every run, a factory that generates has a plan, gets an order or a fault of a fill for every
combination of it, and never an index that it had before. As long as its hub is there it can only
fail by an abort that it was asked for, by a compilation that comes to nothing, or by a fill, and
the fills of the library fault only for want of memory. How long a compilation takes is left open.
-/

namespace PipelineForge

open Axis
open Factory (Event Floor Miscompiles Passage State sentIn)
open Tasks (Mode TaskId)

namespace Plant

variable {κ : Type} {compiler : Compiler κ} {first p p' : Plant κ} {i j : Nat} {h h' : Hub}
  {g : FactoryId} {m : Move κ}

def Stint.pieces (s : Stint κ) : Nat := if s.atWork then s.worker.state.pieces else 0

namespace Run

def pieces (r : Run compiler first p) (i : Nat) (g : FactoryId) : Nat :=
  ((r.stints i g).map Stint.pieces).sum

/-- What a factory can fail with that generates, its fills apart: an abort that it was asked for, or
a compilation that came to nothing. -/
def Mishap (r : Run compiler first p) (i : Nat) (g : FactoryId) (e : ForgeError) : Prop :=
  r.asksAbort i g = true ∧ e = .aborted ∨
    ∃ s ∈ r.stints i g, s.atWork = true ∧ Miscompiles compiler i s.before s.worker e

def Misfilled (r : Run compiler first p) (i : Nat) (g : FactoryId) (x : Fault) : Prop :=
  ∃ s ∈ r.stints i g, s.atWork = true ∧ s.worker.Misfills x

def Fails (r : Run compiler first p) (i : Nat) (g : FactoryId) (e : ForgeError) : Prop :=
  r.Mishap i g e ∨ (∃ x, r.Misfilled i g x) ∧ e = .aborted

theorem Fails.next {r : Run compiler first p} {e : ForgeError} (hFails : r.Fails i g e)
    (hMove : p.move compiler m = some p') : (r.next m hMove).Fails i g e := by
  rcases hFails with (⟨hAsked, rfl⟩ | ⟨s, hMem, hFault⟩) | ⟨⟨x, s, hMem, hFault⟩, rfl⟩
  · refine .inl (.inl ⟨?_, rfl⟩)
    rw [asksAbort, hAsked, Bool.true_or]
  · exact .inl (.inr ⟨s, List.mem_append_left _ hMem, hFault⟩)
  · exact .inr ⟨⟨x, s, List.mem_append_left _ hMem, hFault⟩, rfl⟩

/-- What is sure of a factory of a hub in a run. -/
structure Warrants (r : Run compiler first p) (i : Nat) (g : FactoryId) (h : Hub) : Prop where
  members : ∀ t f m, h.pool.member? t = some (f, m) → f.id = g →
    f.Assured (fun e => r.Fails i g e ∨ h.office.isOpen = false) (r.admitted i g) (r.pieces i g) m
  unstarted : (∀ t f m, h.pool.member? t = some (f, m) → f.id ≠ g) → r.stints i g = []
  axes : ∀ s ∈ r.stints i g, s.atWork = true → s.worker.axes ⊆ r.admitted i g
  ended : ∀ report failure cache, Event.ended g report failure cache ∈ r.sent i →
    report.Settles (r.Fails i g) failure

theorem admitted_next_subset (r : Run compiler first p) (i : Nat) (g : FactoryId)
    (hMove : p.move compiler m = some p') :
    r.admitted i g ⊆ (r.next m hMove).admitted i g := List.subset_append_left _ _

/-- A move that is no step of the factory's worker leaves sure what is sure of it. -/
theorem Warrants.aside {r : Run compiler first p} (hWarrants : r.Warrants i g h)
    (hMove : p.move compiler m = some p') (hStints : p.stints i g m p' = [])
    (hSent : ∀ report failure cache, Event.ended g report failure cache ∈ (r.next m hMove).sent i →
      Event.ended g report failure cache ∈ r.sent i)
    (hOpen : h.office.isOpen = false → h'.office.isOpen = false)
    (hMembers : ∀ t f n, h'.pool.member? t = some (f, n) → f.id = g →
      h.pool.member? t = some (f, n) ∨ f.Fresh g ∧ n = .resting .start ∧
        ∀ u k o, h.pool.member? u = some (k, o) → k.id ≠ g)
    (hLasts : ∀ t f n, h.pool.member? t = some (f, n) → f.id = g →
      h'.pool.member? t = some (f, n)) :
    (r.next m hMove).Warrants i g h' := by
  have hSame : (r.next m hMove).stints i g = r.stints i g := by
    rw [stints, hStints, List.append_nil]
  have hPieces : (r.next m hMove).pieces i g = r.pieces i g := by
    rw [pieces, hSame, pieces]
  constructor
  · intro t f n hMember hId
    rw [hPieces]
    rcases hMembers t f n hMember hId with hOld | ⟨hFresh, rfl, hNone⟩
    · refine (hWarrants.members t f n hOld hId).mono (fun e hCaused => ?_)
        (r.admitted_next_subset i g hMove)
      exact hCaused.imp (·.next hMove) hOpen
    · rw [pieces, hWarrants.unstarted hNone]
      refine Factory.assured_start (congrArg Factory.axes hFresh) ?_
      exact ⟨congrArg Factory.generated hFresh, congrArg (·.report.lookups) hFresh,
        congrArg (·.report.pipelines) hFresh⟩
  · intro hNone
    rw [hSame]
    exact hWarrants.unstarted fun t f n hMember hId => hNone t f n (hLasts t f n hMember hId) hId
  · rw [hSame]
    exact fun s hMem hAt => List.Subset.trans (hWarrants.axes s hMem hAt)
      (r.admitted_next_subset i g hMove)
  · intro report failure cache hEnded
    exact (hWarrants.ended report failure cache (hSent report failure cache hEnded)).mono
      fun e hFails => hFails.next hMove

end Run

section Runs

variable {limit : Option Nat} {k : κ} {settings : List HubSettings} {w' : Floor κ} {t : TaskId}
  {f f' : Factory} {mode mode' : Mode State}

theorem Works.assured (r : Run compiler (founded limit k settings) p)
    (hMove : p.move compiler (.work i j) = some p')
    (hWorks : Works compiler p i j p' h h' w' t f mode f' mode')
    (hWarrants : r.Warrants i f.id h) :
    f'.Assured (fun e => (r.next (.work i j) hMove).Fails i f.id e ∨ h'.office.isOpen = false)
      ((r.next (.work i j) hMove).admitted i f.id) ((r.next (.work i j) hMove).pieces i f.id)
      mode' := by
  have hTracked := r.tracked hWorks.hub
  have hTracks := hTracked.members t f mode hWorks.member
  have hSubset := r.admitted_next_subset i f.id hMove
  have hOpen : h'.office.isOpen = h.office.isOpen := by
    rw [hWorks.office]
    exact hWorks.passage.isOpen
  have hLater : f.Assured
      (fun e => (r.next (.work i j) hMove).Fails i f.id e ∨ h'.office.isOpen = false)
      ((r.next (.work i j) hMove).admitted i f.id) (r.pieces i f.id) mode := by
    refine (hWarrants.members t f mode hWorks.member rfl).mono (fun e hCaused => ?_) hSubset
    exact hCaused.imp (·.next hMove) fun hShut => hOpen.trans hShut
  let stint : Stint κ := ⟨p.floorOf h, f, (p.atWork? i j).isSome, w'⟩
  have hStints : (r.next (.work i j) hMove).stints i f.id = r.stints i f.id ++ [stint] := by
    rw [Run.stints, hWorks.stints, if_pos rfl]
  have hLast : stint ∈ (r.next (.work i j) hMove).stints i f.id := by
    rw [hStints]
    exact List.mem_append_right _ (List.mem_singleton_self _)
  have hPieces : (r.next (.work i j) hMove).pieces i f.id = r.pieces i f.id + stint.pieces := by
    rw [Run.pieces, hStints, List.map_append, List.sum_append, List.map_singleton,
      List.sum_singleton, ← Run.pieces]
  rcases hWorks.turn_or_not with ⟨hAt, rfl, reply, hTurn, rfl⟩ | ⟨hNone, hOther⟩
  · have hAtWork : stint.atWork = true := by
      change (p.atWork? i j).isSome = true
      rw [hAt]
      rfl
    rw [hPieces, Stint.pieces, if_pos hAtWork]
    refine hTurn.assured hLater hTracks (List.Subset.trans (hTracked.waiting f.id) hSubset) ?_ ?_ ?_
    · exact fun e hFault => .inl (.inl (.inr ⟨stint, hLast, hAtWork, hFault⟩))
    · exact fun x hFault => .inl (.inr ⟨⟨x, stint, hLast, hAtWork, hFault⟩, rfl⟩)
    · exact fun hShut => .inr (hOpen.trans hShut)
  · have hIdle : stint.pieces = 0 := by
      rw [Stint.pieces, show stint.atWork = (p.atWork? i j).isSome from rfl, hNone]
      rfl
    rw [hPieces, hIdle]
    rcases hOther with ⟨rfl, rfl, rfl⟩ | ⟨hMode, hGoes⟩
    · exact hLater
    · refine hWorks.passage.assured hLater hTracks hMode fun s outcome hRests hEnded => ?_
      cases hAsked : r.asksAbort i f.id with
      | true => exact .inl (Run.Fails.next (.inl (.inl ⟨hAsked, rfl⟩)) hMove)
      | false => exact absurd hEnded (hGoes (r.unasked hWorks.hub hAsked) s outcome hRests)

/-- What a factory sends at its end was sure, as there was a hub to take it. -/
theorem Works.settles (r : Run compiler (founded limit k settings) p)
    (hWorks : Works compiler p i j p' h h' w' t f mode f' mode')
    (hWarrants : r.Warrants i f.id h) {report : Factory.Report} {failure : Option ForgeError}
    {cache : Option CacheId}
    (hEnded : Event.ended f.id report failure cache ∈ sentIn (p.floorOf h) w') :
    report.Settles (r.Fails i f.id) failure := by
  have hOpen : h.office.isOpen = true := by
    by_contra hShut
    rw [hWorks.passage.sentIn_of_closed (Bool.not_eq_true _ ▸ hShut)] at hEnded
    cases hEnded
  have hSettles :=
    (hWorks.passage.settles (hWarrants.members t f mode hWorks.member rfl) hEnded).2
  refine hSettles.mono fun e hCaused => hCaused.resolve_right ?_
  rw [hOpen]
  exact nofun

theorem Works.axes_stint {r : Run compiler first p}
    (hWorks : Works compiler p i j p' h h' w' t f mode f' mode')
    (hWarrants : r.Warrants i f.id h) : ∀ s ∈ p.stints i f.id (.work i j) p', s.atWork = true →
      s.worker.axes ⊆ r.admitted i f.id := by
  intro s hMem hAtWork
  rw [hWorks.stints, if_pos rfl] at hMem
  obtain rfl := List.mem_singleton.mp hMem
  have hAssured := hWarrants.members t f mode hWorks.member rfl
  rcases hWorks.turn_or_not with ⟨_, rfl, _⟩ | ⟨hNone, _⟩
  · exact hAssured.1
  · rw [hNone] at hAtWork
    cases hAtWork

theorem Works.warrants (r : Run compiler (founded limit k settings) p)
    (hMove : p.move compiler (.work i j) = some p')
    (hWorks : Works compiler p i j p' h h' w' t f mode f' mode')
    (hWarrants : r.Warrants i g h) : (r.next (.work i j) hMove).Warrants i g h' := by
  have hOrderly := r.orderly i h hWorks.hub
  by_cases hg : f.id = g
  · subst hg
    constructor
    · intro u k n hMember hId
      rw [hWorks.members] at hMember
      split at hMember
      · cases hMember
        exact hWorks.assured r hMove hWarrants
      · next hu => exact absurd hId (hWorks.other hOrderly hu hMember)
    · intro hNone
      have hAfter : h'.pool.member? t = some (f', mode') := (hWorks.members t).trans (if_pos rfl)
      exact absurd hWorks.passage.identity.1 (hNone t f' mode' hAfter)
    · intro s hMem hAt
      refine List.Subset.trans ?_ (r.admitted_next_subset i f.id hMove)
      rcases List.mem_append.mp hMem with hOld | hNew
      · exact hWarrants.axes s hOld hAt
      · exact hWorks.axes_stint hWarrants s hNew hAt
    · intro report failure cache hEnded
      rw [r.sent_of_works hMove hWorks] at hEnded
      have hSettles : report.Settles (r.Fails i f.id) failure := by
        rcases List.mem_append.mp hEnded with hOld | hNew
        · exact hWarrants.ended report failure cache hOld
        · exact hWorks.settles r hWarrants hNew
      exact hSettles.mono fun e hFails => hFails.next hMove
  · refine hWarrants.aside hMove ?_ ?_ ?_ ?_ ?_
    · rw [hWorks.stints, if_neg hg]
    · intro report failure cache hEnded
      rw [r.sent_of_works hMove hWorks] at hEnded
      refine (List.mem_append.mp hEnded).resolve_right fun hNew => ?_
      have hEnding := Factory.mem_endingsIn.mpr ⟨cache, hNew⟩
      rw [(hWorks.passage.sentIn_other (Ne.symm hg)).2] at hEnding
      cases hEnding
    · rw [hWorks.office]
      exact fun hShut => hWorks.passage.isOpen.trans hShut
    · intro u k n hMember hId
      rw [hWorks.members] at hMember
      split at hMember
      · cases hMember
        exact absurd (hWorks.passage.identity.1.symm.trans hId) hg
      · exact .inl hMember
    · intro u k n hMember hId
      rw [hWorks.members, if_neg, hMember]
      rintro rfl
      rw [hWorks.member] at hMember
      cases hMember
      exact hg hId

theorem Run.warrants (r : Run compiler (founded limit k settings) p) (hHub : p.hub? i = some h)
    (g : FactoryId) : r.Warrants i g h := by
  refine r.along_hub (P := fun r h => r.Warrants i g h) ?_ ?_ hHub
  · intro s
    refine ⟨?_, fun _ => rfl, List.forall_mem_nil _, ?_⟩
    · intro t f m hMember
      cases hMember
    · intro report failure cache hEnded
      cases hEnded
  · intro p p' r m hMove h h' hHub hStir ih
    cases hStir with
    | spared hSame hElsewhere =>
      subst hSame
      have hSent := r.sent_of_elsewhere hMove hElsewhere
      refine ih.aside hMove (stints_elsewhere hElsewhere) ?_ id ?_ fun _ _ _ hMember _ => hMember
      · exact fun report failure cache hEnded => hSent ▸ hEnded
      · exact fun t f n hMember _ => .inl hMember
    | owned op hm hOpen hPerform =>
      subst hm hPerform
      have hOrderly := r.orderly i h hHub
      have hSent := r.sent_of_quiet hMove rfl i
      refine ih.aside hMove rfl ?_ ?_ ?_ ?_
      · exact fun report failure cache hEnded => hSent ▸ hEnded
      · rw [hOpen]
        exact nofun
      · rintro t f n hMember rfl
        refine (Hub.member_perform hOrderly op hMember).imp_right ?_
        exact fun ⟨hNew, hMode⟩ => ⟨hOrderly.fresh f.id f hNew, hMode,
          fun u k o hOld => hOrderly.apart f.id f u k o hNew hOld⟩
      · exact fun t f n hMember _ => Hub.member_lasts hOrderly op hMember
    | worked j w' t f f' mode mode' hm hWorks =>
      subst hm
      exact hWorks.warrants r hMove ih

/-- A factory that has come to generate ends, as long as its hub is there to be told, only after it
is done or with one of the causes. -/
structure Run.EndsBy (r : Run compiler first p) (i : Nat) (g : FactoryId) (h : Hub)
    (Caused : ForgeError → Prop) : Prop where
  ended : ∀ t f outcome, h.pool.member? t = some (f, .ended outcome) → f.id = g →
    h.office.isOpen = true → f.report.Settles Caused (f.failureOf outcome)
  told : ∀ report failure cache, Event.ended g report failure cache ∈ r.sent i →
    report.Settles Caused failure

theorem Run.endsBy (r : Run compiler (founded limit k settings) p) (hHub : p.hub? i = some h)
    (g : FactoryId) : r.EndsBy i g h (r.Fails i g) := by
  have hWarrants := r.warrants hHub g
  refine ⟨fun t f outcome hMember hId hOpen => ?_, hWarrants.ended⟩
  have hSettles : f.report.Settles _ (f.failureOf outcome) := hWarrants.members t f _ hMember hId
  refine hSettles.mono fun e hCaused => hCaused.resolve_right ?_
  rw [hOpen]
  exact nofun

theorem Run.EndsBy.mono {r : Run compiler first p} {Caused More : ForgeError → Prop}
    (hEnds : r.EndsBy i g h Caused) (hMore : ∀ e, Caused e → More e) : r.EndsBy i g h More := by
  constructor
  · exact fun t f outcome hMember hId hOpen =>
      (hEnds.ended t f outcome hMember hId hOpen).mono hMore
  · exact fun report failure cache hEnded => (hEnds.told report failure cache hEnded).mono hMore

/-- The fills of the library fault only where there is not enough memory. -/
theorem Run.Warrants.misfills {r : Run compiler first p} (hWarrants : r.Warrants i g h)
    (hProvided : ∀ c ∈ r.admitted i g, c.Provided) {x : Fault} (hFault : r.Misfilled i g x) :
    x = .capacityOverflow := by
  obtain ⟨s, hMem, hAt, hFault⟩ := hFault
  obtain ⟨c, hAxis, v, hValue, given, hFill⟩ := hFault.fill
  exact (hProvided c (hWarrants.axes s hMem hAt hAxis)).fill_fault hValue hFill

/-- In every run, whatever its characteristics do, a factory that generates never fills in a value
outside of its span and never comes to an index twice; it makes at most six pieces of work of each
combination and waits for nothing but the compiler. It looks up no more than it has combinations, at
most 2⁶⁴, and has sent what it looked up but for the one in hand. While its hub is there, it fails
to be done only by an abort that it was asked for, by a compilation that came to nothing, or by a
fault of a fill. With characteristics of the library, a fill faults only for want of memory, so if
there was enough of it, the causes that are left are the abort and the compilation. -/
theorem generation_cannot_fail (r : Run compiler (founded limit k settings) p)
    (hHub : p.hub? i = some h) (g : FactoryId) :
    (∀ t f, h.pool.member? t = some (f, .working) → f.id = g → f.state = .generate →
      ∃ plan, f.plan = some plan ∧ (∀ e, Factory.orderOf f plan ≠ .error (.error e)) ∧
        (f.point = .entering → ∀ w : Floor κ, f.Begins w) ∧
        r.pieces i g ≤ 6 * (tuples plan.packing.spans).length ∧
        f.report.pipelines + min 1 f.point.toGo = f.report.lookups ∧
        f.report.lookups ≤ (tuples plan.packing.spans).length ∧
        (tuples plan.packing.spans).length ≤ 2 ^ 64 ∧
        ∀ w : Floor κ, (Factory.work compiler i w f).2.2.2 = .held →
          ∃ ticket o, f.point = .compiling ticket o ∧ compiler.holds w.compiler i ticket = true) ∧
    r.EndsBy i g h (r.Fails i g) ∧
    ((∀ c ∈ r.admitted i g, c.Provided) →
      (∀ t f x, h.pool.member? t = some (f, .working) → f.id = g → f.Misfills x →
        x = .capacityOverflow) ∧
      (¬ r.Misfilled i g .capacityOverflow → r.EndsBy i g h (r.Mishap i g))) := by
  have hWarrants := r.warrants hHub g
  have hEnds := r.endsBy hHub g
  refine ⟨?_, hEnds, fun hProvided => ⟨?_, fun hRoom => ?_⟩⟩
  · intro t f hMember hId hState
    obtain ⟨_, hPaced⟩ := hWarrants.members t f .working hMember hId
    rw [hState] at hPaced
    obtain ⟨plan, hEnumerates⟩ := hPaced
    refine ⟨plan, hEnumerates.planned, hEnumerates.orderOf_ne_error, fun hPoint w => ?_, ?_,
      hEnumerates.sent, ?_, ?_, fun w => Factory.holds_of_held hState⟩
    · rw [hPoint] at hEnumerates
      exact hEnumerates.begins hPoint hState w
    · have hBound := hEnumerates.paced
      omega
    · have hLooked := hEnumerates.looked
      omega
    · rw [length_tuples]
      exact plan.packing.prod_sizes_le_two_pow
  · intro t f x hMember hId hFault
    obtain ⟨hAxes, _⟩ := hWarrants.members t f .working hMember hId
    obtain ⟨c, hAxis, v, hValue, given, hFill⟩ := hFault.fill
    exact (hProvided c (hAxes hAxis)).fill_fault hValue hFill
  · refine hEnds.mono fun e hFails => hFails.resolve_right ?_
    rintro ⟨⟨x, hFault⟩, _⟩
    obtain rfl := hWarrants.misfills hProvided hFault
    exact hRoom hFault

end Runs

def program : Characteristic := .ofSetup "program" fun _ => Standard.setupProgram "program" [] 7 []

def blends : Characteristic :=
  .ofFill "blend-mode-0" ⟨0, 2, by decide⟩ (Standard.fillBlend 0 [.solid, .additive])

theorem provided_program : program.Provided := ⟨.shaderProgram "program" [] 7 [], rfl, trivial⟩

theorem provided_blends : blends.Provided :=
  ⟨.blendMode 0 [.solid, .additive], rfl, show (0 : UInt64).toNat + 1 < UInt64.size by decide⟩

/-- A run up to the second combination, for which the device has no memory. -/
def blendRun :
    (p : Plant Device) × Run Device.compiler (founded none { results := [(2, -2)] } [{}]) p :=
  Run.start.along
    ([.own 0 .createSlot, .own 0 (.createFactory "lit" "main" 0), .own 0 (.register 0 program),
      .own 0 (.register 0 blends), .own 0 (.closeInbox 0), .own 0 (.start 0)] ++
      List.replicate 22 (.work 0 0))

def refusedRun :
    (p : Plant Device) × Run Device.compiler (founded none { results := [(2, -2)] } [{}]) p :=
  blendRun.2.along (List.replicate 7 (.work 0 0))

/-- The second pipeline is refused, and nothing but that ends the factory. -/
theorem generation_cannot_fail_refused :
    (∃ h f plan, blendRun.1.hub? 0 = some h ∧ h.pool.member? 0 = some (f, .working) ∧
      f.plan = some plan ∧ (∀ w : Floor Device, f.Begins w) ∧
      (∀ x, f.Misfills x → x = .capacityOverflow) ∧ blendRun.2.pieces 0 0 = 5 ∧
      5 ≤ 6 * (tuples plan.packing.spans).length) ∧
    ∃ report reason cache,
      Event.ended 0 report (some (.creationFailed ⟨1⟩ reason)) cache ∈ refusedRun.2.sent 0 ∧
      refusedRun.2.asksAbort 0 0 = false ∧ ∃ s ∈ refusedRun.2.stints 0 0, s.atWork = true ∧
        Miscompiles Device.compiler 0 s.before s.worker (.creationFailed ⟨1⟩ reason) := by
  have hWorks : ((blendRun.1.hub? 0).bind fun h => (h.pool.member? 0).map fun (f, m) =>
      (f.id, f.state, f.point, match m with | .working => true | _ => false)) =
        some (0, .generate, .entering, true) := by decide +kernel
  have hPieces : blendRun.2.pieces 0 0 = 5 := by decide +kernel
  have hFills : (refusedRun.2.stints 0 0).all (fun s => match s.worker.plan with
      | some plan => (Factory.orderOf s.worker plan).isOk
      | none => true) = true := by decide +kernel
  have hEnded : Event.ended 0 ⟨[.start, .setUp, .settled, .generate], 1, 0, 2⟩
      (some (.creationFailed ⟨1⟩ ("vkCreateGraphicsPipelines failed for pipeline #1: " ++
        "A device memory allocation has failed"))) (some 0) ∈ refusedRun.2.sent 0 := by
    decide +kernel
  have hAsked : refusedRun.2.asksAbort 0 0 = false := by decide +kernel
  have hAdmitted : blendRun.2.admitted 0 0 = [program, blends] := by rfl
  have hAllAdmitted : refusedRun.2.admitted 0 0 = [program, blends] := by rfl
  have hProvided : ∀ c ∈ [program, blends], c.Provided :=
    List.forall_mem_cons.mpr ⟨provided_program, List.forall_mem_singleton.mpr provided_blends⟩
  constructor
  · obtain ⟨h, hHub, hMember⟩ := Option.bind_eq_some_iff.mp hWorks
    obtain ⟨⟨f, m⟩, hMember, hSame⟩ := Option.map_eq_some_iff.mp hMember
    obtain ⟨hId, hRest⟩ := Prod.mk.inj hSame
    obtain ⟨hState, hRest⟩ := Prod.mk.inj hRest
    obtain ⟨hPoint, hMode⟩ := Prod.mk.inj hRest
    obtain rfl : m = .working := by
      cases m with
      | working => rfl
      | _ => cases hMode
    obtain ⟨hGenerates, _, hLibrary⟩ := generation_cannot_fail blendRun.2 hHub 0
    obtain ⟨plan, hPlan, _, hBegins, hBound, _⟩ := hGenerates 0 f hMember hId hState
    rw [hPieces] at hBound
    exact ⟨h, f, plan, hHub, hMember, hPlan, hBegins hPoint,
      fun x => (hLibrary (hAdmitted ▸ hProvided)).1 0 f x hMember hId, hPieces, hBound⟩
  · have hRoom : ¬ refusedRun.2.Misfilled 0 0 .capacityOverflow := by
      rintro ⟨s, hMem, _, _, _, plan, hPlan, _, hOrder⟩
      have hFill := List.all_eq_true.mp hFills s hMem
      simp only [hPlan, hOrder] at hFill
      cases hFill
    have hSome : (refusedRun.1.hub? 0).isSome = true := by decide +kernel
    obtain ⟨h, hHub⟩ := Option.isSome_iff_exists.mp hSome
    obtain ⟨_, _, hLibrary⟩ := generation_cannot_fail refusedRun.2 hHub 0
    have hEnds := (hLibrary (hAllAdmitted ▸ hProvided)).2 hRoom
    refine ⟨_, _, _, hEnded, hAsked, ?_⟩
    rcases hEnds.told _ _ _ hEnded (by decide) with ⟨_, hDone⟩ | ⟨e, hFailure, hMishap⟩
    · cases hDone
    · cases hFailure
      rcases hMishap with ⟨hYes, _⟩ | hRefused
      · rw [hAsked] at hYes
        cases hYes
      · exact hRefused

end Plant

end PipelineForge
