import PipelineForge.Characteristic.Standard
import PipelineForge.Proofs.Factory.Gathering

/-!
# Trails of factories

The states that a factory reports are a first part of a word: it starts, sets up and settles in
one or more rounds, generates, and is done. A report fits a failure if the word breaks off where the
failure stops a factory. That the reports of factories do fit is not shown here.
-/

namespace PipelineForge

open Axis

/-- Whether an error is one that the set-up of a characteristic fails with. -/
def ForgeError.isSetup : ForgeError → Bool
  | setupFailed _ _ | pushConflict _ _ => true
  | _ => false

/-- The states in which an error of its own stops a factory. -/
def ForgeError.stops : ForgeError → List Factory.State
  | cacheUnavailable _ _ => [.start]
  | setupFailed _ _ | pushConflict _ _ => [.setUp]
  | indexTooWide _ => [.settled]
  | creationFailed _ _ => [.generate]
  | duplicateRegistration _ => [.start, .setUp, .settled]
  | _ => []

/-- The set-up of the characteristic fails only with errors that are about setting up. -/
def Characteristic.Candid (c : Characteristic) : Prop :=
  ∀ context b e, (c.setup context b).2 = some (.error e) → e.isSetup = true

section Candid

theorem Blueprint.isSetup_of_apply {b : Blueprint} {edit : Edit} {e : ForgeError}
    (h : b.apply edit = .error (.error e)) : e.isSetup = true := by
  cases edit with
  | attachmentBlend attachment state =>
    rw [apply] at h
    cases hBlend : b.setAttachmentBlend attachment state with
    | ok b' =>
      rw [hBlend] at h
      cases h
    | error x =>
      rw [hBlend] at h
      cases h
  | push range =>
    rw [apply, insertPush] at h
    split at h
    · cases h
    · cases h
      rfl
    · cases h
  | _ => cases h

theorem Blueprint.isSetup_of_applyAll {b : Blueprint} {edits : List Edit} {e : ForgeError}
    (h : (b.applyAll edits).2 = some (.error e)) : e.isSetup = true := by
  induction edits generalizing b with
  | nil => cases h
  | cons edit edits ih =>
    rw [applyAll] at h
    split at h
    · exact ih h
    · next hApply =>
      cases h
      exact isSetup_of_apply hApply

theorem Characteristic.candid_ofFill (name : String) (span : Span)
    (fill : Int32 → Blueprint → Blueprint × Option Fault) : (ofFill name span fill).Candid := by
  intro context b e hSetup
  cases hSetup

/-- The characteristics that come with the library are candid. -/
theorem Standard.candid_of_build {s : Standard} {c : Characteristic} (h : s.build = .ok c) :
    c.Candid := by
  have hMapped {name : String} {fill : Int32 → Blueprint → Blueprint × Option Fault}
      {places : Except Fault Span}
      (hMap : (places.map fun span => Characteristic.ofFill name span fill) = .ok c) :
      c.Candid := by
    cases places with
    | error x => cases hMap
    | ok span =>
      cases hMap
      exact Characteristic.candid_ofFill name span fill
  cases s with
  | shaderProgram name stages layout push =>
    cases h
    intro context b e hSetup
    simp only [Characteristic.ofSetup, setupProgram] at hSetup
    split at hSetup
    · cases hSetup
      rfl
    · exact Blueprint.isSetup_of_applyAll hSetup
  | frameAttachments colors depth =>
    cases h
    intro context b e hSetup
    simp only [Characteristic.ofSetup, setupAttachments] at hSetup
    split at hSetup
    · exact Blueprint.isSetup_of_applyAll hSetup
    · cases hSetup
  | topology values =>
    cases values with
    | nil => cases h
    | cons value values => exact hMapped h
  | blendMode attachment modes =>
    cases modes with
    | nil => cases h
    | cons mode modes => exact hMapped h
  | constant name stage id span =>
    cases h
    exact Characteristic.candid_ofFill _ _ _

end Candid

theorem Registry.acquire_eq_error {r : Registry} {name : String} {e : ForgeError}
    (h : r.acquire name = .error e) : ∃ reason, e = .cacheUnavailable name reason := by
  rw [acquire] at h
  split at h
  · cases h
  split at h
  · split at h
    · cases h
      exact ⟨_, rfl⟩
    · cases h
  · cases h

namespace Factory

section Words

namespace State

def rounds (n : Nat) : List State := (List.replicate n [.setUp, .settled]).flatten

/-- What a factory reports that is done after one round and some more. -/
def word (n : Nat) : List State := .start :: rounds (n + 1) ++ [.generate, .done]

/-- The word up to a state, the set-up being that after some rounds. -/
def trail (n : Nat) : State → List State
  | .start => [.start]
  | .setUp => .start :: rounds n ++ [.setUp]
  | .settled => .start :: rounds (n + 1)
  | .generate => .start :: rounds (n + 1) ++ [.generate]
  | .done => word n

/-- The state that another one follows in a word. -/
inductive Leads : State → State → Prop where
  | acquired : Leads .start .setUp
  | equipped : Leads .setUp .settled
  | again : Leads .settled .setUp
  | planned : Leads .settled .generate
  | exhausted : Leads .generate .done

theorem rounds_succ (n : Nat) : rounds (n + 1) = rounds n ++ [.setUp, .settled] := by
  rw [rounds, List.replicate_succ', List.flatten_append]
  rfl

theorem trail_isPrefix (n : Nat) (s : State) : trail n s <+: word n := by
  rw [word]
  cases s with
  | start => exact List.prefix_append [State.start] _
  | setUp =>
    rw [rounds_succ, trail]
    exact ⟨[.settled, .generate, .done], by simp⟩
  | settled => exact List.prefix_append _ _
  | generate =>
    rw [trail]
    exact ⟨[.done], by simp⟩
  | done => exact List.prefix_rfl

theorem getLast?_trail (n : Nat) (s : State) : (trail n s).getLast? = some s := by
  cases s with
  | start => rfl
  | settled =>
    rw [trail, rounds_succ, ← List.cons_append, List.getLast?_append]
    rfl
  | done =>
    rw [trail, word, List.getLast?_append]
    rfl
  | _ =>
    rw [trail, List.getLast?_append]
    rfl

theorem generate_mem_trail {s : State} (h : s.listens = false) (n : Nat) :
    State.generate ∈ trail n s := by
  cases s with
  | generate => simp [trail]
  | done => simp [trail, word]
  | _ => cases h

theorem generate_notMem_trail {s : State} (h : s.listens = true) (n : Nat) :
    State.generate ∉ trail n s := by
  cases s with
  | generate => cases h
  | done => cases h
  | _ => simp [trail, rounds]

theorem Leads.trail_append {s s' : State} (h : s.Leads s') (n : Nat) :
    ∃ m, trail n s ++ [s'] = trail m s' := by
  cases h with
  | acquired => exact ⟨0, rfl⟩
  | equipped => exact ⟨n, by simp [trail, rounds_succ]⟩
  | again => exact ⟨n + 1, by simp [trail]⟩
  | planned => exact ⟨n, by simp [trail]⟩
  | exhausted => exact ⟨n, by simp [trail, word]⟩

theorem Leads.ne_done {s s' : State} (h : s.Leads s') : s ≠ .done := by
  rintro rfl
  cases h

end State

/-- The states of a factory that is in a state. -/
def Trail (states : List State) (s : State) : Prop := ∃ n, states = State.trail n s

/-- The states of a factory that goes on to a state, or comes back to it. -/
inductive Bound (states : List State) : State → Prop where
  | first (hNone : states = []) : Bound states .start
  | stays {s : State} (hTrail : Trail states s) (hBusy : s ≠ .done) : Bound states s
  | moves {s s' : State} (hTrail : Trail states s) (hLeads : s.Leads s') : Bound states s'

variable {states : List State} {s : State}

theorem Trail.getLast? (h : Trail states s) : states.getLast? = some s := by
  obtain ⟨n, rfl⟩ := h
  exact State.getLast?_trail n s

theorem Trail.isPrefix (h : Trail states s) : ∃ n, states <+: State.word n := by
  obtain ⟨n, rfl⟩ := h
  exact ⟨n, State.trail_isPrefix n s⟩

theorem Trail.generate_mem (h : Trail states s) (hDeaf : s.listens = false) :
    State.generate ∈ states := by
  obtain ⟨n, rfl⟩ := h
  exact State.generate_mem_trail hDeaf n

theorem Trail.generate_notMem (h : Trail states s) (hListens : s.listens = true) :
    State.generate ∉ states := by
  obtain ⟨n, rfl⟩ := h
  exact State.generate_notMem_trail hListens n

theorem Bound.isPrefix (h : Bound states s) : ∃ n, states <+: State.word n := by
  cases h with
  | first hNone => exact ⟨0, hNone ▸ List.nil_prefix⟩
  | stays hTrail hBusy => exact hTrail.isPrefix
  | moves hTrail hLeads => exact hTrail.isPrefix

theorem Bound.getLast?_ne (h : Bound states s) : states.getLast? ≠ some .done := by
  have hBefore {last : State} (hTrail : Trail states last) (hBusy : last ≠ .done) :
      states.getLast? ≠ some .done := by
    rw [hTrail.getLast?]
    exact fun hSame => hBusy (Option.some.inj hSame)
  cases h with
  | first hNone =>
    rw [hNone]
    exact nofun
  | stays hTrail hBusy => exact hBefore hTrail hBusy
  | moves hTrail hLeads => exact hBefore hTrail hLeads.ne_done

theorem Bound.visit {r : Report} (h : Bound r.states s) : Trail (r.visit s).states s := by
  rw [Report.visit]
  cases h with
  | first hNone =>
    rw [hNone, if_neg nofun]
    exact ⟨0, rfl⟩
  | stays hTrail hBusy =>
    rw [if_pos hTrail.getLast?]
    exact hTrail
  | @moves last _ hTrail hLeads =>
    have hNew : r.states.getLast? ≠ some s := by
      rw [hTrail.getLast?]
      rintro ⟨⟩
      cases hLeads
    obtain ⟨n, hStates⟩ := hTrail
    obtain ⟨m, hMore⟩ := hLeads.trail_append n
    rw [if_neg hNew]
    exact ⟨m, by rw [← hMore, ← hStates]⟩

theorem Report.visit_subset (r : Report) (s : State) : r.states ⊆ (r.visit s).states := by
  rw [visit]
  split
  · exact List.Subset.refl _
  · exact List.subset_append_left _ _

@[simp] theorem Report.pipelines_visit (r : Report) (s : State) :
    (r.visit s).pipelines = r.pipelines := by
  rw [visit]
  split <;> rfl

end Words

section Reports

/-- An error of a factory's own and the state in which it stops the factory. The axes are those that
were registered with the factory, and the doom is the failure that its inbox shows. -/
inductive Halts (axes : List Characteristic) (doom : Option ForgeError) :
    ForgeError → State → Prop where
  | unacquired (registry : Registry) (cache : String) (e : ForgeError)
      (hAcquire : registry.acquire cache = .error e) : Halts axes doom e .start
  | unequipped (c : Characteristic) (context : Context) (given : Blueprint) (e : ForgeError)
      (hMem : c ∈ axes) (hSetup : (c.setup context given).2 = some (.error e)) :
      Halts axes doom e .setUp
  | tooWide (bits : Nat) : Halts axes doom (.indexTooWide bits) .settled
  | refused (index : CompositeIndex) (reason : String) :
      Halts axes doom (.creationFailed index reason) .generate
  | doomed (e : ForgeError) (s : State) (hDoom : doom = some e) (hState : s.listens = true) :
      Halts axes doom e s

/-- A report that fits how its factory ended. -/
structure Report.Accords (axes : List Characteristic) (doom : Option ForgeError) (r : Report)
    (failure : Option ForgeError) : Prop where
  word : ∃ n, r.states <+: State.word n
  success : failure = none ↔ r.states.getLast? = some .done
  halted : ∀ e, failure = some e →
    e = .aborted ∨ ∃ s, r.states.getLast? = some s ∧ Halts axes doom e s
  idle : State.generate ∉ r.states → r.pipelines = 0

variable {axes more : List Characteristic} {doom doom' : Option ForgeError} {r : Report}
  {e : ForgeError} {s : State}

theorem Halts.mono (h : Halts axes doom e s) (hAxes : axes ⊆ more)
    (hDoom : ∀ e, doom = some e → doom' = some e) : Halts more doom' e s := by
  cases h with
  | unacquired registry cache _ hAcquire => exact .unacquired registry cache e hAcquire
  | unequipped c context given _ hMem hSetup =>
    exact .unequipped c context given e (hAxes hMem) hSetup
  | tooWide bits => exact .tooWide bits
  | refused index reason => exact .refused index reason
  | doomed _ _ hFailed hState => exact .doomed e s (hDoom e hFailed) hState

/-- With characteristics that are candid about their errors, the error alone tells the states. -/
theorem Halts.mem_stops (h : Halts axes doom e s) (hCandid : ∀ c ∈ axes, c.Candid)
    (hDoom : ∀ e, doom = some e → e.isDuplicate = true) : s ∈ e.stops := by
  cases h with
  | unacquired registry cache _ hAcquire =>
    obtain ⟨reason, rfl⟩ := Registry.acquire_eq_error hAcquire
    exact List.mem_singleton_self _
  | unequipped c context given _ hMem hSetup =>
    have hOwn := hCandid c hMem context given e hSetup
    cases e with
    | setupFailed name reason => exact List.mem_singleton_self _
    | pushConflict old new => exact List.mem_singleton_self _
    | _ => cases hOwn
  | tooWide bits => exact List.mem_singleton_self _
  | refused index reason => exact List.mem_singleton_self _
  | doomed _ _ hFailed hState =>
    have hDuplicate := hDoom e hFailed
    cases e with
    | duplicateRegistration name =>
      cases s with
      | generate => cases hState
      | done => cases hState
      | _ => simp [ForgeError.stops]
    | _ => cases hDuplicate

theorem Report.Accords.mono {failure : Option ForgeError} (h : r.Accords axes doom failure)
    (hAxes : axes ⊆ more) (hDoom : ∀ e, doom = some e → doom' = some e) :
    r.Accords more doom' failure := by
  refine ⟨h.word, h.success, fun e hFailure => ?_, h.idle⟩
  refine (h.halted e hFailure).imp_right ?_
  exact fun ⟨s, hLast, hHalts⟩ => ⟨s, hLast, hHalts.mono hAxes hDoom⟩

/-- A failure fits a report in any state but the last one, if it is an abort or stops a factory in
that state. -/
theorem Trail.accords (h : Trail r.states s) (hBusy : s ≠ .done)
    (hIdle : State.generate ∉ r.states → r.pipelines = 0)
    (hCause : e = .aborted ∨ Halts axes doom e s) : r.Accords axes doom (some e) := by
  refine ⟨h.isPrefix, ?_, ?_, hIdle⟩
  · rw [h.getLast?]
    exact iff_of_false nofun fun hSame => hBusy (Option.some.inj hSame)
  · rintro _ ⟨⟩
    exact hCause.imp_right fun hHalts => ⟨s, h.getLast?, hHalts⟩

theorem Trail.accords_done (h : Trail r.states .done)
    (hIdle : State.generate ∉ r.states → r.pipelines = 0) : r.Accords axes doom none :=
  ⟨h.isPrefix, iff_of_true rfl h.getLast?, nofun, hIdle⟩

theorem Bound.accords (h : Bound r.states s)
    (hIdle : State.generate ∉ r.states → r.pipelines = 0) :
    r.Accords axes doom (some .aborted) := by
  refine ⟨h.isPrefix, iff_of_false nofun h.getLast?_ne, ?_, hIdle⟩
  rintro _ ⟨⟩
  exact .inl rfl

end Reports

end Factory

end PipelineForge
