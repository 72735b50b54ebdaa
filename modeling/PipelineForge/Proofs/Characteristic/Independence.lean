import PipelineForge.Factory.Work
import PipelineForge.Proofs.Blueprint.Constants
import PipelineForge.Proofs.Characteristic.Fills

/-!
# Independence of fills

Each axis of the library fills in one thing: the topology, the blend state of one attachment, or
one constant. Fills of different things can be made in every order, and what comes out is told by
what was selected for each thing, and by the blueprint that they began with where nothing was. If
the list of blend states would outgrow the memory, every order ends with that fault.
-/

namespace PipelineForge

open Axis

/-- What an axis selects with a value. -/
inductive Selection where
  | topology (chosen : Int32)
  | blend (attachment : UInt64) (state : BlendState)
  | constant (key : ConstantKey) (word : UInt32)

/-- What an axis fills in. -/
inductive Target where
  | topology
  | attachment (number : UInt64)
  | constant (key : ConstantKey)
deriving DecidableEq

namespace Selection

def target : Selection → Target
  | topology _ => .topology
  | blend attachment _ => .attachment attachment
  | constant key _ => .constant key

def topology? : Selection → Option Int32
  | topology chosen => some chosen
  | _ => none

def word? (key : ConstantKey) : Selection → Option UInt32
  | constant k word => if k = key then some word else none
  | _ => none

def state? (place : Nat) : Selection → Option BlendState
  | blend attachment state => if attachment.toNat = place then some state else none
  | _ => none

/-- How many blend states it takes. -/
def reach : Selection → Nat
  | blend attachment _ => attachment.toNat + 1
  | _ => 0

/-- The blend states are there, or a list of so many of them can be had. -/
def Fits (base : Blueprint) (s : Selection) : Prop :=
  s.reach ≤ base.blendStates.length ∨
    Blueprint.isAddressable s.reach Blueprint.blendSize = true

instance (base : Blueprint) (s : Selection) : Decidable (s.Fits base) :=
  inferInstanceAs (Decidable (_ ∨ _))

def write (s : Selection) (b : Blueprint) : Except Fault Blueprint :=
  match s with
  | topology chosen => .ok { b with topology := chosen }
  | blend attachment state => b.setAttachmentBlend attachment state
  | constant key word => .ok { b with constants := b.constants.insert key word }

end Selection

/-- What was there stays if a fill faults. -/
def Blueprint.kept (b : Blueprint) : Except Fault Blueprint → Blueprint × Option Fault
  | .ok b' => (b', none)
  | .error fault => (b, some fault)

namespace Standard

/-- Whether it is a choice or a range of values. -/
def Ranged : Standard → Prop
  | topology _ | blendMode .. | constant .. => True
  | _ => False

/-- A choice selects the element of its list, a range the word with the bits of the value. -/
def selection? (s : Standard) (v : Int32) : Option Selection :=
  match s with
  | topology values => values[v.toInt.toNat]?.map .topology
  | blendMode attachment modes => modes[v.toInt.toNat]?.map fun mode => .blend attachment mode.state
  | constant _ stage id _ => some (.constant ⟨stage, id⟩ (UInt32.ofInt v.toInt))
  | _ => none

end Standard

/-- An axis of the library that has something to fill in, with one of its values. -/
structure Pick where
  standard : Standard
  axis : Characteristic
  value : Int32
  built : standard.build = .ok axis
  ranged : standard.Ranged
  numbered : standard.Numbered
  inside : value ∈ axis.span

theorem findSome?_perm {α β : Type} {l l' : List α} {f : α → Option β} (hPerm : l.Perm l')
    (hOne : ∀ a ∈ l, ∀ b ∈ l, (f a).isSome → (f b).isSome → a = b) :
    l.findSome? f = l'.findSome? f := by
  have hFind {l : List α} (hOne : ∀ a ∈ l, ∀ b ∈ l, (f a).isSome → (f b).isSome → a = b) (y : β) :
      l.findSome? f = some y ↔ ∃ a ∈ l, f a = some y := by
    refine ⟨List.exists_of_findSome?_eq_some, fun ⟨a, ha, hSome⟩ => ?_⟩
    have hFound : (l.findSome? f).isSome :=
      List.findSome?_isSome_iff.mpr ⟨a, ha, by rw [hSome]; rfl⟩
    obtain ⟨z, hz⟩ := Option.isSome_iff_exists.mp hFound
    obtain ⟨b, hb, hOther⟩ := List.exists_of_findSome?_eq_some hz
    obtain rfl := hOne a ha b hb (by rw [hSome]; rfl) (by rw [hOther]; rfl)
    rw [hz, ← hOther, hSome]
  refine Option.ext fun y => ?_
  rw [hFind hOne, hFind fun a ha b hb => hOne a (hPerm.mem_iff.mpr ha) b (hPerm.mem_iff.mpr hb)]
  simp only [hPerm.mem_iff]

theorem toUInt32_eq_ofInt (v : Int32) : v.toUInt32 = UInt32.ofInt v.toInt := by
  have hValue : v.toInt = Int.bmod v.toUInt32.toNat (2 ^ 32) := v.toBitVec.toInt_eq_toNat_bmod
  have hBound := v.toUInt32.toNat_lt
  refine UInt32.toNat_inj.mp ?_
  have hMod : Int.bmod v.toUInt32.toNat (2 ^ 32) % (2 ^ 32 : Nat) =
      v.toUInt32.toNat % (2 ^ 32 : Nat) := Int.bmod_emod
  rw [UInt32.ofInt, UInt32.toNat_ofNat', hValue]
  omega

namespace Pick

theorem fills (x : Pick) : ∃ s, x.standard.selection? x.value = some s ∧
    s.reach < UInt64.size ∧ x.axis.singleton = false ∧
      ∀ b, x.axis.fill x.value b = b.kept (s.write b) := by
  obtain ⟨standard, axis, v, hBuilt, hRanged, hNumbered, hMem⟩ := x
  have hNone : 0 < UInt64.size := by decide
  cases standard with
  | shaderProgram name stages layout push => exact hRanged.elim
  | frameAttachments colors depth => exact hRanged.elim
  | topology values =>
    cases values with
    | nil => cases hBuilt
    | cons value values =>
      obtain ⟨hSpan, hFill, hMany⟩ := Characteristic.of_places hBuilt
      obtain ⟨chosen, hItem, hSelect⟩ := Standard.select_of_mem hSpan hMem
      refine ⟨.topology chosen, ?_, hNone, hMany, fun b => ?_⟩
      · simp only [Standard.selection?, hItem, Option.map_some]
      · rw [hFill, Standard.fillTopology, hSelect]
        rfl
  | blendMode attachment modes =>
    cases modes with
    | nil => cases hBuilt
    | cons mode modes =>
      obtain ⟨hSpan, hFill, hMany⟩ := Characteristic.of_places hBuilt
      obtain ⟨chosen, hItem, hSelect⟩ := Standard.select_of_mem hSpan hMem
      refine ⟨.blend attachment chosen.state, ?_, hNumbered, hMany, fun b => ?_⟩
      · simp only [Standard.selection?, hItem, Option.map_some]
      · simp only [hFill, Standard.fillBlend, hSelect, Selection.write]
        cases b.setAttachmentBlend attachment chosen.state with
        | ok b' => rfl
        | error fault => rfl
  | constant name stage id span =>
    cases hBuilt
    refine ⟨_, rfl, hNone, rfl, fun b => ?_⟩
    change Standard.fillConstant stage id v b = _
    rw [Standard.fillConstant, toUInt32_eq_ofInt]
    rfl

theorem selects (x : Pick) : (x.standard.selection? x.value).isSome = true := by
  obtain ⟨s, hSome, _⟩ := x.fills
  rw [hSome]
  rfl

def selection (x : Pick) : Selection := (x.standard.selection? x.value).get x.selects

def target (x : Pick) : Target := x.selection.target

theorem writes (x : Pick) : x.selection.reach < UInt64.size ∧ x.axis.singleton = false ∧
    ∀ b, x.axis.fill x.value b = b.kept (x.selection.write b) := by
  obtain ⟨s, hSome, hWrites⟩ := x.fills
  have hSame : x.selection = s := Option.get_of_eq_some _ hSome
  rwa [hSame]

end Pick

namespace Blueprint

theorem length_putBlend (place : Nat) (state : BlendState) (states : List BlendState) :
    (putBlend place state states).length = max (place + 1) states.length := by
  rw [putBlend, List.length_set, List.length_append, List.length_replicate]
  omega

theorem getD_putBlend (place : Nat) (state : BlendState) (states : List BlendState) (k : Nat) :
    (putBlend place state states).getD k .off =
      if place = k then state else states.getD k .off := by
  have hLength : (states ++ List.replicate (place + 1 - states.length) BlendState.off).length =
      max (place + 1) states.length := by
    rw [List.length_append, List.length_replicate]
    omega
  rw [putBlend, List.getD_eq_getElem?_getD, List.getElem?_set]
  split
  next hSame =>
    subst hSame
    rw [if_pos (by omega), Option.getD_some]
  next hOther =>
    rw [List.getD_eq_getElem?_getD, List.getElem?_append]
    split
    · rfl
    next hNew =>
      rw [List.getElem?_eq_none (Nat.le_of_not_lt hNew), List.getElem?_replicate]
      split <;> rfl

/-- What the blueprint is after the selections, the last of which stands first. -/
structure Filled (base : Blueprint) (chosen : List Selection) (b : Blueprint) : Prop where
  topology : b.topology = (chosen.findSome? Selection.topology?).getD base.topology
  constants : ∀ key, b.constants.find? key =
    (chosen.findSome? (Selection.word? key)).or (base.constants.find? key)
  length : b.blendStates.length =
    (chosen.map Selection.reach).foldr max base.blendStates.length
  states : ∀ place, b.blendStates.getD place .off =
    (chosen.findSome? (Selection.state? place)).getD (base.blendStates.getD place .off)
  rest : b = { base with
    topology := b.topology
    constants := b.constants
    blendStates := b.blendStates }

variable {base b b' : Blueprint} {chosen more : List Selection} {s : Selection}

theorem filled_nil (base : Blueprint) : base.Filled [] base :=
  ⟨rfl, fun _ => rfl, rfl, fun _ => rfl, rfl⟩

/-- There is one blueprint only that it describes. -/
theorem Filled.unique (h : base.Filled chosen b) (h' : base.Filled chosen b') : b = b' := by
  have hTopology : b.topology = b'.topology := h.topology.trans h'.topology.symm
  have hConstants : b.constants = b'.constants :=
    ConstantTable.eq_of_find? fun key => (h.constants key).trans (h'.constants key).symm
  have hLength : b.blendStates.length = b'.blendStates.length := h.length.trans h'.length.symm
  have hStates : b.blendStates = b'.blendStates := by
    refine List.ext_getElem hLength fun place hPlace hPlace' => ?_
    rw [List.getElem_eq_getD BlendState.off, List.getElem_eq_getD BlendState.off, h.states,
      h'.states]
  rw [h.rest, h'.rest, hTopology, hConstants, hStates]

theorem Filled.length_le_iff (h : base.Filled chosen b) (n : Nat) : b.blendStates.length ≤ n ↔
    base.blendStates.length ≤ n ∧ ∀ s ∈ chosen, s.reach ≤ n := by
  have hMax (chosen : List Selection) :
      (chosen.map Selection.reach).foldr max base.blendStates.length ≤ n ↔
        base.blendStates.length ≤ n ∧ ∀ s ∈ chosen, s.reach ≤ n := by
    induction chosen with
    | nil => simp
    | cons s chosen ih =>
      rw [List.map_cons, List.foldr_cons, Nat.max_le, ih, List.forall_mem_cons]
      exact and_left_comm
  rw [h.length, hMax]

theorem setAttachmentBlend_of_room {attachment : UInt64} (state : BlendState)
    (hRoom : attachment.toNat < b.blendStates.length ∨
      isAddressable (attachment.toNat + 1) blendSize = true) :
    b.setAttachmentBlend attachment state =
      .ok { b with blendStates := putBlend attachment.toNat state b.blendStates } := by
  have hSize (hAddressable : isAddressable (attachment.toNat + 1) blendSize = true) :
      attachment.toNat + 1 ≠ UInt64.size := by
    rw [isAddressable, blendSize, decide_eq_true_eq] at hAddressable
    change attachment.toNat + 1 ≠ 18446744073709551616
    omega
  simp only [setAttachmentBlend]
  rw [if_neg, if_neg]
  · rintro ⟨hGrows, hNot⟩
    exact hNot (hRoom.resolve_left (Nat.not_lt.mpr hGrows))
  · rintro ⟨hGrows, hLast⟩
    exact hSize (hRoom.resolve_left (Nat.not_lt.mpr hGrows)) hLast

theorem setAttachmentBlend_of_no_room {attachment : UInt64} (state : BlendState)
    (hNumber : attachment.toNat + 1 < UInt64.size)
    (hGrows : b.blendStates.length ≤ attachment.toNat)
    (hNot : ¬ isAddressable (attachment.toNat + 1) blendSize = true) :
    b.setAttachmentBlend attachment state = .error .capacityOverflow := by
  simp only [setAttachmentBlend]
  rw [if_neg fun hBoth => Nat.ne_of_lt hNumber hBoth.2, if_pos ⟨hGrows, hNot⟩]

/-- A selection that there is room for is written over what was there. -/
theorem Filled.write (h : base.Filled chosen b) (hFits : s.Fits base) :
    ∃ b', s.write b = .ok b' ∧ base.Filled (s :: chosen) b' := by
  cases s with
  | topology v =>
    refine ⟨_, rfl, rfl, h.constants, h.length, h.states, ?_⟩
    rw [h.rest]
  | constant key word =>
    refine ⟨_, rfl, h.topology, fun k => ?_, h.length, h.states, ?_⟩
    · rw [ConstantTable.find?_insert, List.findSome?_cons, Selection.word?]
      by_cases hk : k = key
      · rw [if_pos hk, if_pos hk.symm, Option.some_or]
      · rw [if_neg hk, if_neg (Ne.symm hk)]
        exact h.constants k
    · rw [h.rest]
  | blend attachment state =>
    have hOld := ((h.length_le_iff _).mp (Nat.le_refl _)).1
    have hRoom : attachment.toNat < b.blendStates.length ∨
        isAddressable (attachment.toNat + 1) blendSize = true :=
      hFits.imp_left fun hReach => Nat.lt_of_lt_of_le hReach hOld
    refine ⟨_, setAttachmentBlend_of_room state hRoom, h.topology, h.constants, ?_,
      fun place => ?_, ?_⟩
    · rw [length_putBlend, h.length, List.map_cons, List.foldr_cons]
      rfl
    · rw [getD_putBlend, List.findSome?_cons, Selection.state?]
      by_cases hSame : attachment.toNat = place
      · rw [if_pos hSame, if_pos hSame, Option.getD_some]
      · rw [if_neg hSame, if_neg hSame]
        exact h.states place
    · rw [h.rest]

theorem isAddressable_of_le {n m size : Nat} (h : isAddressable m size = true) (hLe : n ≤ m) :
    isAddressable n size = true := by
  rw [isAddressable, decide_eq_true_eq] at h ⊢
  exact Nat.lt_of_le_of_lt (Nat.mul_le_mul_right size hLe) h

/-- Without room for it in the beginning, a selection never finds any. -/
theorem Filled.write_fault (h : base.Filled chosen b) (hDone : ∀ t ∈ chosen, t.Fits base)
    (hNot : ¬ s.Fits base) (hNumber : s.reach < UInt64.size) :
    s.write b = .error .capacityOverflow := by
  obtain ⟨hShort, hLarge⟩ := not_or.mp hNot
  cases s with
  | topology v => exact absurd (Nat.zero_le _) hShort
  | constant key word => exact absurd (Nat.zero_le _) hShort
  | blend attachment state =>
    have hGrows : b.blendStates.length ≤ attachment.toNat := by
      refine (h.length_le_iff _).mpr ⟨Nat.le_of_not_lt hShort, fun t ht => ?_⟩
      by_contra hReach
      rcases hDone t ht with hOld | hRoom
      · exact hShort (Nat.lt_of_lt_of_le (Nat.lt_of_not_le hReach) hOld)
      · exact hLarge (isAddressable_of_le hRoom (Nat.lt_of_not_le hReach))
    exact setAttachmentBlend_of_no_room state hNumber hGrows hLarge

/-- The order in which different things were selected does not matter. -/
theorem Filled.perm (h : base.Filled chosen b) (hPerm : chosen.Perm more)
    (hApart : (chosen.map Selection.target).Nodup) : base.Filled more b := by
  have hSame {α : Type} {f : Selection → Option α} (target : Target)
      (hTarget : ∀ s, (f s).isSome → s.target = target) :
      more.findSome? f = chosen.findSome? f := by
    refine (findSome?_perm hPerm fun s hs t ht hFirst hSecond => ?_).symm
    exact List.inj_on_of_nodup_map hApart hs ht ((hTarget s hFirst).trans (hTarget t hSecond).symm)
  constructor
  · rw [hSame .topology]
    · exact h.topology
    · intro s hSome
      cases s <;> first | rfl | cases hSome
  · intro key
    rw [hSame (.constant key)]
    · exact h.constants key
    · intro s hSome
      cases s with
      | constant k word =>
        rw [Selection.word?] at hSome
        split at hSome
        next hKey => rw [Selection.target, hKey]
        next => cases hSome
      | _ => cases hSome
  · rw [h.length]
    refine (hPerm.map Selection.reach).foldr_eq' (fun n _ m _ k => ?_) _
    exact Nat.max_left_comm m n k
  · intro place
    rw [h.states, hSame (.attachment (UInt64.ofNat place))]
    intro s hSome
    cases s with
    | blend attachment state =>
      rw [Selection.state?] at hSome
      split at hSome
      next hPlace => rw [Selection.target, ← hPlace, UInt64.ofNat_toNat]
      next => cases hSome
    | _ => cases hSome
  · exact h.rest

end Blueprint

namespace Factory

variable {base b : Blueprint} {chosen : List Selection} {order : List Pick}

theorem fillAll_cons (x : Pick) (order : List Pick) (i : CompositeIndex) (b : Blueprint) :
    ∃ j, fillAll ((x :: order).map Pick.axis) ((x :: order).map Pick.value) i b =
      match x.selection.write b with
      | .ok b' => fillAll (order.map Pick.axis) (order.map Pick.value) j b'
      | .error fault => .error (.fault fault) := by
  obtain ⟨_, hMany, hFill⟩ := x.writes
  refine ⟨i.push x.axis.span.width (UInt64.ofNat (x.axis.span.offset x.value)), ?_⟩
  simp only [List.map_cons, fillAll, i.extend_of_mem x.inside, hMany, hFill]
  cases x.selection.write b <;> rfl

theorem fillAll_picks (h : base.Filled chosen b) (hFits : ∀ x ∈ order, x.selection.Fits base)
    (i : CompositeIndex) : ∃ j b',
      fillAll (order.map Pick.axis) (order.map Pick.value) i b = .ok (j, b') ∧
        base.Filled ((order.map Pick.selection).reverse ++ chosen) b' := by
  induction order generalizing chosen b i with
  | nil => exact ⟨i, b, rfl, h⟩
  | cons x order ih =>
    obtain ⟨hRoom, hRest⟩ := List.forall_mem_cons.mp hFits
    obtain ⟨b', hWrite, hNext⟩ := h.write hRoom
    obtain ⟨j, hStep⟩ := fillAll_cons x order i b
    obtain ⟨k, b'', hFill, hFilled⟩ := ih hNext hRest j
    refine ⟨k, b'', ?_, ?_⟩
    · rw [hStep, hWrite]
      exact hFill
    · rw [List.map_cons, List.reverse_cons, List.append_assoc]
      exact hFilled

theorem fillAll_picks_fault (h : base.Filled chosen b) (hDone : ∀ s ∈ chosen, s.Fits base)
    (hStop : ∃ x ∈ order, ¬ x.selection.Fits base) (i : CompositeIndex) :
    fillAll (order.map Pick.axis) (order.map Pick.value) i b =
      .error (.fault .capacityOverflow) := by
  induction order generalizing chosen b i with
  | nil =>
    obtain ⟨x, hx, _⟩ := hStop
    cases hx
  | cons x order ih =>
    obtain ⟨j, hStep⟩ := fillAll_cons x order i b
    rw [hStep]
    by_cases hRoom : x.selection.Fits base
    · obtain ⟨b', hWrite, hNext⟩ := h.write hRoom
      have hLater : ∃ y ∈ order, ¬ y.selection.Fits base := by
        obtain ⟨y, hy, hNot⟩ := hStop
        refine ⟨y, (List.mem_cons.mp hy).resolve_left fun hSame => ?_, hNot⟩
        exact hNot (hSame ▸ hRoom)
      rw [hWrite]
      exact ih hNext (List.forall_mem_cons.mpr ⟨hRoom, hDone⟩) hLater j
    · rw [h.write_fault hDone hRoom x.writes.1]

/-- Axes of the library with different things to fill in have one value each. If there is room for
all blend states that they need, the factory's pass through them gives one blueprint in every order,
and it is told by what was selected and by the base. Otherwise every order ends with the fault that
a list outgrew the memory. Room is what can be addressed, whatever is free of it. -/
theorem fills_independent (base : Blueprint) (picks : List Pick)
    (hApart : (picks.map Pick.target).Nodup) :
    ((∀ x ∈ picks, x.selection.Fits base) →
      ∃ b, (∀ b', base.Filled (picks.map Pick.selection) b' ↔ b' = b) ∧
        ∀ order : List Pick, order.Perm picks → ∀ i, ∃ j,
          fillAll (order.map Pick.axis) (order.map Pick.value) i base = .ok (j, b)) ∧
    ((∃ x ∈ picks, ¬ x.selection.Fits base) → ∀ order : List Pick, order.Perm picks → ∀ i,
      fillAll (order.map Pick.axis) (order.map Pick.value) i base =
        .error (.fault .capacityOverflow)) := by
  have hNil := Blueprint.filled_nil base
  constructor
  · intro hFits
    have hRun {order : List Pick} (hPerm : order.Perm picks) (i : CompositeIndex) : ∃ j b,
        fillAll (order.map Pick.axis) (order.map Pick.value) i base = .ok (j, b) ∧
          base.Filled (picks.map Pick.selection) b := by
      obtain ⟨j, b, hFill, hFilled⟩ :=
        fillAll_picks hNil (fun x hx => hFits x (hPerm.mem_iff.mp hx)) i
      rw [List.append_nil] at hFilled
      have hSame := (List.reverse_perm (order.map Pick.selection)).trans (hPerm.map Pick.selection)
      refine ⟨j, b, hFill, hFilled.perm hSame ((hSame.map Selection.target).nodup_iff.mpr ?_)⟩
      rw [List.map_map]
      exact hApart
    obtain ⟨_, b, _, hFilled⟩ := hRun (List.Perm.refl picks) .zero
    refine ⟨b, fun b' => ⟨fun hOther => hOther.unique hFilled, fun hSame => hSame ▸ hFilled⟩,
      fun order hPerm i => ?_⟩
    obtain ⟨j, b', hFill, hOther⟩ := hRun hPerm i
    exact ⟨j, hOther.unique hFilled ▸ hFill⟩
  · intro hStop order hPerm i
    obtain ⟨x, hx, hNot⟩ := hStop
    exact fillAll_picks_fault hNil (List.forall_mem_nil _) ⟨x, hPerm.mem_iff.mpr hx, hNot⟩ i

theorem zero_lt_two : (0 : Int32) < 2 := by decide

def strips : Pick where
  standard := .topology [3, 4]
  axis := .ofFill "topology" ⟨0, 2, zero_lt_two⟩ (Standard.fillTopology [3, 4])
  value := 1
  built := rfl
  ranged := trivial
  numbered := trivial
  inside := by decide

def glow : Pick where
  standard := .blendMode 2 [.solid, .additive]
  axis := .ofFill "blend-mode-2" ⟨0, 2, zero_lt_two⟩ (Standard.fillBlend 2 [.solid, .additive])
  value := 1
  built := rfl
  ranged := trivial
  numbered := show (2 : UInt64).toNat + 1 < UInt64.size by decide
  inside := by decide

def debt : Pick where
  standard := .constant "debt" 16 7 ⟨-3, 0, by decide⟩
  axis := .ofFill "debt" ⟨-3, 0, by decide⟩ (Standard.fillConstant 16 7)
  value := -1
  built := rfl
  ranged := trivial
  numbered := trivial
  inside := by decide

/-- A blend state so far out that the list of all before it cannot be had. -/
def distant : Pick where
  standard := .blendMode 4611686018427387904 [.solid]
  axis := .ofFill s!"blend-mode-{(4611686018427387904 : UInt64).toNat}" .single
    (Standard.fillBlend 4611686018427387904 [.solid])
  value := 0
  built := rfl
  ranged := trivial
  numbered := show (4611686018427387904 : UInt64).toNat + 1 < UInt64.size by decide
  inside := by decide

def misty : Blueprint := { blendStates := [BlendMode.alpha.state], layout := 7 }

/-- A base with one blend state gets two more, of which one is off, and a base without any cannot
get as many as are needed. -/
theorem fills_independent_mixed :
    (∀ order : List Pick, order.Perm [strips, glow, debt] → ∀ i, ∃ j,
      fillAll (order.map Pick.axis) (order.map Pick.value) i misty =
        .ok (j, { misty with
          topology := 4
          blendStates := [BlendMode.alpha.state, .off, BlendMode.additive.state]
          constants := .insert .empty ⟨16, 7⟩ 4294967295 })) ∧
    ∀ order : List Pick, order.Perm [strips, distant, debt] → ∀ i,
      fillAll (order.map Pick.axis) (order.map Pick.value) i {} =
        .error (.fault .capacityOverflow) := by
  constructor
  · have hApart : ([strips, glow, debt].map Pick.target).Nodup := by decide
    have hFits : ∀ x ∈ [strips, glow, debt], x.selection.Fits misty := by decide
    obtain ⟨b, _, hOrders⟩ := (fills_independent _ _ hApart).1 hFits
    obtain ⟨j, hOne⟩ := hOrders _ (List.Perm.refl _) .zero
    obtain rfl := congrArg Prod.snd (Except.ok.inj hOne)
    exact hOrders
  · have hApart : ([strips, distant, debt].map Pick.target).Nodup := by decide
    have hStop : ∃ x ∈ [strips, distant, debt], ¬ x.selection.Fits {} := by decide
    exact (fills_independent _ _ hApart).2 hStop

/-- Not all fills can be made. -/
theorem fills_distant : ¬ ∀ (base : Blueprint) (picks : List Pick),
    (picks.map Pick.target).Nodup → ∃ b, base.Filled (picks.map Pick.selection) b ∧
      ∀ order : List Pick, order.Perm picks → ∀ i, ∃ j,
        fillAll (order.map Pick.axis) (order.map Pick.value) i base = .ok (j, b) := by
  intro hClaim
  obtain ⟨b, _, hOrders⟩ := hClaim {} [distant] (List.nodup_singleton _)
  obtain ⟨j, hOk⟩ := hOrders [distant] (List.Perm.refl _) .zero
  have hStop : ∃ x ∈ [distant], ¬ x.selection.Fits {} := by decide
  rw [fillAll_picks_fault (Blueprint.filled_nil {}) (List.forall_mem_nil _) hStop] at hOk
  cases hOk

end Factory

end PipelineForge
