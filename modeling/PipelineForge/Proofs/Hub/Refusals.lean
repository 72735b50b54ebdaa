import PipelineForge.Proofs.Hub.Deliveries
import PipelineForge.Proofs.Factory.Gathering

/-!
# Refused calls

A hub refuses calls for slots and factories that it does not have, for factories that were started
or given up, and for inboxes that are closed. Such a call leaves the hub as it was, also where it
changed something before it was refused, so a run with refused calls is the run without them. The
refusal of a duplicate is different, as it dooms the factory, and is left out.
-/

namespace PipelineForge

namespace Factory

theorem Inbox.register_of_closed {i : Inbox} (hClosed : i.closed = true) (c : Characteristic) :
    i.register c = (i, .late) := if_pos hClosed

end Factory

namespace Hub

/-- A call of a hub's owner that the hub may refuse. -/
inductive Petition where
  | createFactory (name cacheName : String) (slot : SlotId)
  | add (f : FactoryId) (c : Characteristic)
  | start (f : FactoryId)
  | generate (f : FactoryId)

namespace Petition

/-- The hub after a call, and what the call was refused with. -/
def answer (h : Hub) : Petition → Hub × Option ForgeError
  | .createFactory name cacheName slot =>
    match h.createFactory name cacheName slot with
    | .ok (h', _) => (h', none)
    | .error e => (h, some e)
  | .add f c => h.add f c
  | .start f =>
    match h.start f with
    | .ok h' => (h', none)
    | .error e => (h, some e)
  | .generate f =>
    match h.generate f with
    | .ok h' => (h', none)
    | .error e => (h, some e)

/-- A call piece by piece. What a piece changed stays changed if a later one refuses the call. -/
def attempt (h : Hub) : Petition → Hub × Option ForgeError
  | .createFactory name cacheName slot =>
    if (h.slot? slot).isNone then (h, some .unknownSlot)
    else
      let (bookings, ticket) := h.office.bookings.add name
      let h := { h with office := { h.office with bookings } }
      ((h.enroll name cacheName slot (some ticket)).1, none)
  | .add f c =>
    match h.entry? f with
    | none => (h, some .unknownFactory)
    | some _ =>
      -- The inbox is put back whatever it answered.
      let (inbox, admission) := (h.office.inbox f).register c
      let h := { h with office := h.office.setInbox f inbox }
      (if admission.wakes then h.wake f else h, admission.refusal c.name)
  | .start f =>
    match h.entry? f with
    | none => (h, some .unknownFactory)
    | some e =>
      -- The factory is taken out of its entry before it is seen whether there was one.
      let h := h.setEntry f { e with pending := none }
      match e.pending with
      | none => (h, some (.alreadyStarted e.name))
      | some factory =>
        let h := h.write ⟨.info, s!"pipeline hub: start factory `{e.name}`"⟩
        (h.launch f { e with pending := none } factory, none)
  | .generate f =>
    match h.entry? f with
    | none => (h, some .unknownFactory)
    | some _ => ((h.closeInbox f).wake f, none)

/-- Why a call is refused. -/
inductive Grounds (h : Hub) : Petition → ForgeError → Prop where
  | noSlot {name cacheName : String} {slot : SlotId} (hNone : h.slot? slot = none) :
    Grounds h (.createFactory name cacheName slot) .unknownSlot
  | addToNone {f : FactoryId} {c : Characteristic} (hNone : h.entry? f = none) :
    Grounds h (.add f c) .unknownFactory
  | late {f : FactoryId} {c : Characteristic} {e : Entry} (hEntry : h.entry? f = some e)
    (hClosed : (h.office.inbox f).closed = true) :
    Grounds h (.add f c) (.lateRegistration c.name)
  | duplicate {f : FactoryId} {c : Characteristic} {e : Entry} (hEntry : h.entry? f = some e)
    (hOpen : (h.office.inbox f).closed = false) (hKnown : c.name ∈ (h.office.inbox f).names) :
    Grounds h (.add f c) (.duplicateRegistration c.name)
  | startNone {f : FactoryId} (hNone : h.entry? f = none) : Grounds h (.start f) .unknownFactory
  | gone {f : FactoryId} {e : Entry} (hEntry : h.entry? f = some e) (hGone : e.pending = none) :
    Grounds h (.start f) (.alreadyStarted e.name)
  | generateNone {f : FactoryId} (hNone : h.entry? f = none) :
    Grounds h (.generate f) .unknownFactory

variable {h : Hub} {c : Petition} {e : ForgeError}

theorem attempt_start (hValid : h.entries.Valid) (f : FactoryId) :
    attempt h (.start f) = answer h (.start f) := by
  rw [attempt, answer, Hub.start]
  cases hEntry : h.entry? f with
  | none => rfl
  | some e =>
    obtain ⟨name, pending, task, status, cache⟩ := e
    cases pending with
    | none =>
      have hSame : h.setEntry f ⟨name, none, task, status, cache⟩ = h := by
        rw [setEntry, hValid.set_self hEntry]
      simp only [hSame]
    | some factory =>
      simp only [launch, write, setEntry, Shelf.set_set]

theorem attempt_add (h : Hub) (f : FactoryId) (c : Characteristic) :
    attempt h (.add f c) = h.add f c := by
  rw [attempt, Hub.add, register]
  cases hEntry : h.entry? f with
  | none => rfl
  | some entry => cases hWakes : ((h.office.inbox f).register c).2.wakes <;> simp [hWakes]

/-- Taking and putting back makes no difference, so the pieces of a call are what the hub does. -/
theorem attempt_eq_answer (hValid : h.entries.Valid) (c : Petition) : attempt h c = answer h c := by
  cases c with
  | createFactory name cacheName slot =>
    rw [attempt, answer, Hub.createFactory]
    by_cases hSlot : (h.slot? slot).isNone = true
    · rw [if_pos hSlot, if_pos hSlot]
    · rw [if_neg hSlot, if_neg hSlot]
  | add f c => exact attempt_add h f c
  | start f => exact attempt_start hValid f
  | generate f =>
    rw [attempt, answer, Hub.generate]
    cases hEntry : h.entry? f <;> rfl

theorem add_of_entry {f : FactoryId} {entry : Entry} (hEntry : h.entry? f = some entry)
    (c : Characteristic) : (h.add f c).2 = ((h.office.inbox f).register c).2.refusal c.name := by
  rw [← congrArg Prod.snd (attempt_add h f c), attempt, hEntry]

theorem grounds_of_refused (hRefused : (c.answer h).2 = some e) : c.Grounds h e := by
  cases c with
  | createFactory name cacheName slot =>
    by_cases hSlot : (h.slot? slot).isNone = true
    · simp only [answer, Hub.createFactory, hSlot, if_true] at hRefused
      cases hRefused
      exact .noSlot (Option.isNone_iff_eq_none.mp hSlot)
    · simp [answer, Hub.createFactory, hSlot] at hRefused
  | add f c =>
    cases hEntry : h.entry? f with
    | none =>
      simp only [answer, Hub.add, register, hEntry] at hRefused
      cases hRefused
      exact .addToNone hEntry
    | some entry =>
      rw [answer, add_of_entry hEntry, Factory.Inbox.register] at hRefused
      cases hClosed : (h.office.inbox f).closed with
      | true =>
        rw [if_pos hClosed] at hRefused
        cases hRefused
        exact .late hEntry hClosed
      | false =>
        rw [if_neg (Bool.not_eq_true _ ▸ hClosed)] at hRefused
        split at hRefused
        · next hKnown =>
          cases hRefused
          exact .duplicate hEntry hClosed hKnown
        · cases hRefused
  | start f =>
    cases hEntry : h.entry? f with
    | none =>
      simp only [answer, Hub.start, hEntry] at hRefused
      cases hRefused
      exact .startNone hEntry
    | some entry =>
      cases hPending : entry.pending with
      | none =>
        simp only [answer, Hub.start, hEntry, hPending] at hRefused
        cases hRefused
        exact .gone hEntry hPending
      | some factory =>
        simp only [answer, Hub.start, hEntry, hPending] at hRefused
        cases hRefused
  | generate f =>
    cases hEntry : h.entry? f with
    | none =>
      simp only [answer, Hub.generate, hEntry] at hRefused
      cases hRefused
      exact .generateNone hEntry
    | some entry =>
      simp only [answer, Hub.generate, hEntry] at hRefused
      cases hRefused

theorem register_of_grounds {f : FactoryId} {c : Characteristic}
    (hGrounds : (add f c).Grounds h e) (hOther : e.isDuplicate = false) :
    h.register f c = (h, some e, false) := by
  cases hGrounds with
  | addToNone hNone => simp only [register, hNone]
  | late hEntry hClosed =>
    simp only [register, hEntry, Factory.Inbox.register_of_closed hClosed,
      Factory.Office.setInbox_inbox]
    rfl
  | duplicate hEntry hOpen hKnown => cases hOther

/-- Whatever a call is refused for, it is refused without a trace, unless it doomed the factory. -/
theorem answer_of_grounds (hGrounds : c.Grounds h e) (hOther : e.isDuplicate = false) :
    c.answer h = (h, some e) := by
  cases c with
  | createFactory name cacheName slot =>
    cases hGrounds with
    | noSlot hNone => simp [answer, Hub.createFactory, hNone]
  | add f c => rw [answer, Hub.add, register_of_grounds hGrounds hOther]
  | start f =>
    cases hGrounds with
    | startNone hNone => simp only [answer, Hub.start, hNone]
    | gone hEntry hGone => simp only [answer, Hub.start, hEntry, hGone]
  | generate f =>
    cases hGrounds with
    | generateNone hNone => simp only [answer, Hub.generate, hNone]

end Petition

def Op.begins? : Op → Option Petition
  | .createFactory name cacheName slot => some (.createFactory name cacheName slot)
  | .register f c => some (.add f c)
  | .start f => some (.start f)
  | .closeInbox f => some (.generate f)
  | _ => none

/-- What the call that an operation begins is refused with, unless as a duplicate. -/
def Op.rebuff? (h : Hub) (op : Op) : Option ForgeError :=
  (op.begins?.bind fun c => (c.answer h).2).filter (!·.isDuplicate)

section Rebuffed

variable {h : Hub} {op : Op} {e : ForgeError}

theorem Op.grounds_of_rebuff (hRebuff : op.rebuff? h = some e) :
    ∃ c, op.begins? = some c ∧ c.Grounds h e ∧ e.isDuplicate = false := by
  obtain ⟨hRefused, hOther⟩ := Option.filter_eq_some_iff.mp hRebuff
  obtain ⟨c, hCall, hRefused⟩ := Option.bind_eq_some_iff.mp hRefused
  exact ⟨c, hCall, Petition.grounds_of_refused hRefused, by simpa using hOther⟩

theorem perform_of_rebuff (hRebuff : op.rebuff? h = some e) :
    h.perform op = h ∧ (∀ f, op.admits h f = []) ∧ op.entry h = {} := by
  obtain ⟨c, hCall, hGrounds, hOther⟩ := Op.grounds_of_rebuff hRebuff
  cases op with
  | createFactory name cacheName slot =>
    cases hCall
    cases hGrounds with
    | noSlot hNone => exact ⟨by simp [perform_createFactory, hNone], fun _ => rfl, rfl⟩
  | register f c =>
    cases hCall
    have hRegister := Petition.register_of_grounds hGrounds hOther
    exact ⟨by rw [perform, hRegister], fun g => by simp [Op.admits, hRegister], rfl⟩
  | start f =>
    cases hCall
    refine ⟨?_, fun _ => rfl, rfl⟩
    cases hGrounds with
    | startNone hNone => simp only [perform, start, hNone]
    | gone hEntry hGone => simp only [perform, start, hEntry, hGone]
  | closeInbox f =>
    cases hCall
    cases hGrounds with
    | generateNone hNone => exact ⟨by simp [perform, hNone], fun _ => rfl, rfl⟩
  | _ => cases hCall

end Rebuffed

end Hub

namespace Plant

variable {κ : Type} {compiler : Compiler κ} {first p q : Plant κ}

def rebuffs (p : Plant κ) : Move κ → Bool
  | .own i op => ((p.hub? i).bind op.rebuff?).isSome
  | _ => false

/-- The moves of a run without those that began a refused call. -/
def Run.heeded : {p : Plant κ} → Run compiler first p → List (Move κ)
  | _, .start => []
  | _, @next _ _ _ p _ r m _ => r.heeded ++ if p.rebuffs m then [] else [m]

theorem move_of_rebuffs {m : Move κ} (hRebuffs : p.rebuffs m = true)
    (hMove : p.move compiler m = some q) :
    q = p ∧ p.dispatched m q = [] ∧ (∀ i f, p.admitted i f m = []) ∧ ∀ i, p.entry i m = {} := by
  cases m with
  | own i op =>
    obtain ⟨h, hHub, hOpen, rfl⟩ := move_own hMove
    obtain ⟨e, hRebuff⟩ := Option.isSome_iff_exists.mp hRebuffs
    rw [hHub, Option.bind_some] at hRebuff
    obtain ⟨hSame, hAdmits, hEntry⟩ := Hub.perform_of_rebuff hRebuff
    refine ⟨by rw [hSame, setHub_self hHub], rfl, fun j f => ?_, fun j => ?_⟩
    · simp only [admitted, hHub, hAdmits, ite_self]
    · by_cases hj : i = j
      · subst hj
        rw [entry_own hHub, hEntry]
      · exact entry_of_spares hj
  | _ => cases hRebuffs

namespace Run

/-- Two runs on whose ways the same was sent, put into inboxes and done to the slots. -/
structure Alike (t r : Run compiler first p) : Prop where
  dispatches : t.dispatches = r.dispatches
  admitted : ∀ i f, t.admitted i f = r.admitted i f
  chronicle : ∀ i, t.chronicle i = r.chronicle i

/-- A run comes to the same plant in the same way if no refused call is made. -/
theorem exists_heeded (r : Run compiler first p) :
    ∃ t : Run compiler first p, t.moves = r.heeded ∧ t.heeded = t.moves ∧ t.Alike r := by
  induction r with
  | start => exact ⟨.start, rfl, rfl, rfl, fun _ _ => rfl, fun _ => rfl⟩
  | @next p q r m hMove ih =>
    obtain ⟨t, hMoves, hHeeded, hSent, hAdmitted, hChronicle⟩ := ih
    cases hRebuffs : p.rebuffs m with
    | true =>
      obtain ⟨rfl, hNone, hAdmits, hEntry⟩ := move_of_rebuffs hRebuffs hMove
      refine ⟨t, ?_, hHeeded, ?_, fun i f => ?_, fun i => ?_⟩
      · rw [heeded, hRebuffs, if_pos rfl, List.append_nil, hMoves]
      · rw [dispatches, hNone, List.append_nil, hSent]
      · rw [Run.admitted, hAdmits, List.append_nil, hAdmitted]
      · rw [chronicle, hEntry, Hub.Chronicle.append_nil, hChronicle]
    | false =>
      refine ⟨t.next m hMove, ?_, ?_, ?_, fun i f => ?_, fun i => ?_⟩
      · rw [moves, heeded, hRebuffs, if_neg Bool.false_ne_true, hMoves]
      · rw [heeded, moves, hRebuffs, if_neg Bool.false_ne_true, hHeeded]
      · rw [dispatches, dispatches, hSent]
      · rw [Run.admitted, Run.admitted, hAdmitted]
      · rw [chronicle, chronicle, hChronicle]

end Run

/-- A call that is refused, other than as a duplicate, was made for a slot or a factory that the hub
does not have, for a factory that was started or given up, or for a closed inbox. The hub is the
same after it, with all that the pieces of the call changed, and so is the plant. However the run
goes on, no call that is refused makes a difference to where it comes and to what is sent, put into
inboxes and done to the slots. -/
theorem refused_calls_change_nothing {limit : Option Nat} {k : κ} {settings : List HubSettings}
    (r : Run compiler (founded limit k settings) p) {i : Nat} {h : Hub} (hHub : p.hub? i = some h)
    (c : Hub.Petition) {e : ForgeError} (hRefused : (c.answer h).2 = some e)
    (hOther : e.isDuplicate = false) :
    c.Grounds h e ∧ c.answer h = (h, some e) ∧ c.attempt h = (h, some e) ∧
    p.setHub i (c.attempt h).1 = p ∧
    (∀ op, op.begins? = some c → p.rebuffs (.own i op) = true) ∧
    ∀ {q : Plant κ} (s : Run compiler p q),
      ∃ t : Run compiler p q, t.moves = s.heeded ∧ t.heeded = t.moves ∧ t.Alike s := by
  have hGrounds := Hub.Petition.grounds_of_refused hRefused
  have hAnswer := Hub.Petition.answer_of_grounds hGrounds hOther
  have hAttempt := (Hub.Petition.attempt_eq_answer (r.orderly i h hHub).shelf c).trans hAnswer
  refine ⟨hGrounds, hAnswer, hAttempt, ?_, fun op hCall => ?_, fun s => s.exists_heeded⟩
  · rw [hAttempt, setHub_self hHub]
  · simp [rebuffs, hHub, Hub.Op.rebuff?, hCall, hRefused, hOther]

/-- A run in which the first factory is started and its inbox is closed, the second one is given up
unstarted, and the slot of both is removed. -/
def settledRun : (p : Plant Device) × Run Device.compiler (founded none {} [{}]) p :=
  Run.start.along
    ([.own 0 .createSlot,
      .own 0 (.createFactory "lit" "main" 0),
      .own 0 (.createFactory "spare" "main" 0),
      .own 0 (.start 0),
      .own 0 (.closeInbox 0),
      .own 0 (.wake 0),
      .own 0 (.dismiss 1),
      .own 0 (.removeSlot 0)] ++ List.replicate 5 (.work 0 0))

/-- The run goes on with refused calls between the steps of the first factory. -/
def rebuffedRun : (q : Plant Device) × Run Device.compiler settledRun.1 q :=
  Run.start.along
    [.own 0 (.start 1), .work 0 0, .own 0 (.createFactory "late" "main" 0), .work 0 0,
      .own 0 (.register 0 (.ofSetup "late" fun _ b => (b, none))), .own 0 (.closeInbox 2),
      .own 0 .take]

theorem refused_calls_change_nothing_settled :
    ∃ h, settledRun.1.hub? 0 = some h ∧
      Hub.Petition.attempt h (.start 0) = (h, some (.alreadyStarted "lit")) ∧
      Hub.Petition.attempt h (.start 1) = (h, some (.alreadyStarted "spare")) ∧
      Hub.Petition.attempt h (.createFactory "late" "main" 0) = (h, some .unknownSlot) ∧
      Hub.Petition.attempt h (.add 0 (.ofSetup "late" fun _ b => (b, none))) =
        (h, some (.lateRegistration "late")) ∧
      Hub.Petition.attempt h (.generate 2) = (h, some .unknownFactory) ∧
      rebuffedRun.2.moves.length = 7 ∧
      ∃ t : Run Device.compiler settledRun.1 rebuffedRun.1, t.moves.length = 3 ∧
        t.Alike rebuffedRun.2 := by
  have hAnswers : ((settledRun.1.hub? 0).map fun h =>
      [(Hub.Petition.answer h (.start 0)).2, (Hub.Petition.answer h (.start 1)).2,
        (Hub.Petition.answer h (.createFactory "late" "main" 0)).2,
        (Hub.Petition.answer h (.add 0 (.ofSetup "late" fun _ b => (b, none)))).2,
        (Hub.Petition.answer h (.generate 2)).2]) =
      some [some (.alreadyStarted "lit"), some (.alreadyStarted "spare"), some .unknownSlot,
        some (.lateRegistration "late"), some .unknownFactory] := by decide +kernel
  have hMoves : rebuffedRun.2.moves.length = 7 := by decide +kernel
  have hHeeded : rebuffedRun.2.heeded.length = 3 := by decide +kernel
  obtain ⟨h, hHub, hList⟩ := Option.map_eq_some_iff.mp hAnswers
  simp only [List.cons.injEq, and_true] at hList
  obtain ⟨hStart, hGivenUp, hSlot, hLate, hGenerate⟩ := hList
  obtain ⟨_, _, hSame, _⟩ := refused_calls_change_nothing settledRun.2 hHub _ hStart rfl
  obtain ⟨_, _, hSame', _⟩ := refused_calls_change_nothing settledRun.2 hHub _ hGivenUp rfl
  obtain ⟨_, _, hNoSlot, _⟩ := refused_calls_change_nothing settledRun.2 hHub _ hSlot rfl
  obtain ⟨_, _, hTooLate, _⟩ := refused_calls_change_nothing settledRun.2 hHub _ hLate rfl
  obtain ⟨_, _, hNobody, _, _, hGoesOn⟩ :=
    refused_calls_change_nothing settledRun.2 hHub _ hGenerate rfl
  obtain ⟨t, hT, _, hAlike⟩ := hGoesOn rebuffedRun.2
  exact ⟨h, hHub, hSame, hSame', hNoSlot, hTooLate, hNobody, hMoves, t, hT ▸ hHeeded, hAlike⟩

end Plant

end PipelineForge
