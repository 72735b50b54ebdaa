import Mathlib.Data.Nat.Digits.Defs
import PipelineForge.Device.Basic
import PipelineForge.Proofs.Blueprint.LastWrites
import PipelineForge.Proofs.Blueprint.Reading
import PipelineForge.Proofs.Lists

/-!
# Calls for blueprints

A call tells a device all of a blueprint but its push constant ranges and the constants of stages
that it does not have. Each stage has a block with its own constants: the numbers in ascending
order, and the values in the bytes at four times their places. Offsets and counts are 32-bit
numbers: the first 2³⁰ constants of a stage are found at the offsets of their entries, and the
offsets start from zero again behind them; a stage with all 2³² constants is taken for one without
any.
-/

namespace PipelineForge

namespace SpecBlock

/-- The number that four bytes of the data stand for, the lowest byte first. -/
def wordAt (block : SpecBlock) (offset : Nat) : Nat :=
  Nat.ofDigits 256 (((block.data.drop offset).take 4).map UInt8.toNat)

/-- A block with one entry for each constant, in this order, and the values in its data. The first
2³⁰ entries have the offsets of their values. -/
structure Holds (block : SpecBlock) (cs : List (UInt32 × UInt32)) : Prop where
  entries_length : block.entries.length = cs.length
  data_length : block.data.length = 4 * cs.length
  entry : ∀ i id value, cs[i]? = some (id, value) →
    ∃ e, block.entries[i]? = some e ∧ e.id = id ∧ e.size = 4 ∧
      (i < 2 ^ 30 → e.offset.toNat = 4 * i ∧ block.wordAt e.offset.toNat = value.toNat) ∧
      e.offset.toNat = 4 * (i % 2 ^ 30) ∧ block.wordAt (4 * i) = value.toNat

theorem ofDigits_littleEndianBytes (w : UInt32) :
    Nat.ofDigits 256 ((Blueprint.littleEndianBytes w).map UInt8.toNat) = w.toNat := by
  have hw := w.toNat_lt
  simp only [Blueprint.littleEndianBytes, List.map_cons, List.map_nil, Nat.ofDigits_cons,
    Nat.ofDigits_nil, UInt32.toNat_toUInt8, UInt32.toNat_shiftRight, UInt32.reduceToNat,
    Nat.reduceMod, Nat.shiftRight_eq_div_pow]
  omega

theorem data_ofConstants (cs : List (UInt32 × UInt32)) :
    (ofConstants cs).data = cs.flatMap fun c => Blueprint.littleEndianBytes c.2 := rfl

theorem length_littleEndianBytes (w : UInt32) : (Blueprint.littleEndianBytes w).length = 4 := rfl

theorem length_data (cs : List (UInt32 × UInt32)) :
    (ofConstants cs).data.length = 4 * cs.length := by
  simp only [data_ofConstants, List.length_flatMap, length_littleEndianBytes, List.map_const',
    List.sum_replicate_nat]
  exact Nat.mul_comm _ _

theorem wordAt_ofConstants {cs : List (UInt32 × UInt32)} {i : Nat} {c : UInt32 × UInt32}
    (h : cs[i]? = some c) : (ofConstants cs).wordAt (4 * i) = c.2.toNat := by
  rw [wordAt, data_ofConstants, slice_flatMap (fun c _ => length_littleEndianBytes c.2) h,
    ofDigits_littleEndianBytes]

theorem toNat_offset (i : Nat) : (UInt32.ofNat (4 * i)).toNat = 4 * (i % 2 ^ 30) := by
  rw [UInt32.toNat_ofNat']
  omega

theorem holds_ofConstants (cs : List (UInt32 × UInt32)) : (ofConstants cs).Holds cs := by
  refine ⟨List.length_mapIdx, length_data cs, fun i id value hi => ?_⟩
  refine ⟨⟨id, UInt32.ofNat (4 * i), 4⟩, ?_, rfl, rfl, fun hFits => ?_, toNat_offset i,
    wordAt_ofConstants hi⟩
  · rw [ofConstants, List.getElem?_mapIdx, hi]
    rfl
  · rw [toNat_offset, Nat.mod_eq_of_lt hFits]
    exact ⟨rfl, wordAt_ofConstants hi⟩

theorem ofConstants_injective : Function.Injective ofConstants := by
  intro cs ds hSame
  have hcs := holds_ofConstants cs
  rw [hSame] at hcs
  have hds := holds_ofConstants ds
  apply List.ext_getElem (hcs.entries_length.symm.trans hds.entries_length)
  intro i hi hi'
  obtain ⟨e, he, hId, _, _, _, hValue⟩ := hcs.entry i _ _ (List.getElem?_eq_getElem hi)
  obtain ⟨e', he', hId', _, _, _, hValue'⟩ := hds.entry i _ _ (List.getElem?_eq_getElem hi')
  obtain rfl := Option.some.inj (he.symm.trans he')
  exact Prod.ext (hId.symm.trans hId') (UInt32.toNat_inj.mp (hValue.symm.trans hValue'))

end SpecBlock

/-- Each stage of the call stands for the stage of the blueprint at the same place. Its block holds
the constants of this stage; with fewer than 2³² of them there is no block exactly if there are no
constants. -/
structure DeviceCall.Translates (call : DeviceCall) (b : Blueprint) : Prop where
  stages : call.stages.map (fun c => ⟨c.stage, c.shader, c.entry⟩) = b.stages
  constants : ∀ c ∈ call.stages, ∃ cs, b.constants.Lists c.stage cs ∧
    (cs.length < 2 ^ 32 → (c.spec = none ↔ cs = [])) ∧
    ∀ block, c.spec = some block → block.Holds cs

/-- No stage has a number of constants that reaches the bound. -/
def Blueprint.ConstantsBelow (b : Blueprint) (bound : Nat) : Prop :=
  ∀ s ∈ b.stages, (b.constants.ofStage s.stage).length < bound

instance (b : Blueprint) (bound : Nat) : Decidable (b.ConstantsBelow bound) :=
  inferInstanceAs (Decidable (∀ s ∈ b.stages, (b.constants.ofStage s.stage).length < bound))

/-- All parts are the same but the push constant ranges and the constants of other stages. -/
structure Blueprint.AgreesInCall (a b : Blueprint) : Prop where
  rest : { a with constants := b.constants, pushRanges := b.pushRanges } = b
  constants : ∀ s ∈ b.stages, ∀ id value,
    (⟨s.stage, id⟩, value) ∈ a.constants.entries ↔ (⟨s.stage, id⟩, value) ∈ b.constants.entries

namespace StageCall

theorem ofNat_length_eq_zero {cs : List (UInt32 × UInt32)} (h : cs.length < 2 ^ 32) :
    UInt32.ofNat cs.length = 0 ↔ cs = [] := by
  rw [← UInt32.toNat_inj, UInt32.toNat_ofNat_of_lt' h]
  exact List.length_eq_zero_iff

theorem ofStage_spec (t : ConstantTable) (s : ShaderStage) :
    ((t.ofStage s.stage).length < 2 ^ 32 →
      ((ofStage t s).spec = none ↔ t.ofStage s.stage = [])) ∧
    ∀ block, (ofStage t s).spec = some block → block.Holds (t.ofStage s.stage) := by
  simp only [ofStage]
  split
  next hNone => exact ⟨fun hFew => iff_of_true rfl ((ofNat_length_eq_zero hFew).mp hNone), nofun⟩
  next hSome =>
    refine ⟨fun hFew => iff_of_false nofun fun hNil => ?_, ?_⟩
    · exact hSome ((ofNat_length_eq_zero hFew).mpr hNil)
    · rintro _ ⟨⟩
      exact SpecBlock.holds_ofConstants _

theorem constants_eq {t u : ConstantTable} {s : ShaderStage}
    (ht : (t.ofStage s.stage).length < 2 ^ 32) (hu : (u.ofStage s.stage).length < 2 ^ 32)
    (h : ofStage t s = ofStage u s) : t.ofStage s.stage = u.ofStage s.stage := by
  have hSpec := congrArg spec h
  simp only [ofStage, ofNat_length_eq_zero ht, ofNat_length_eq_zero hu] at hSpec
  split at hSpec <;> split at hSpec
  next hNil hNil' => rw [hNil, hNil']
  next => cases hSpec
  next => cases hSpec
  next => exact SpecBlock.ofConstants_injective (Option.some.inj hSpec)

end StageCall

namespace DeviceCall

variable {driverCache : UInt64} {a b : Blueprint}

theorem translates_ofBlueprint (driverCache : UInt64) (b : Blueprint) :
    (ofBlueprint driverCache b).Translates b := by
  constructor
  · rw [ofBlueprint, List.map_map]
    exact List.map_id b.stages
  · intro c hc
    obtain ⟨s, _, rfl⟩ := List.mem_map.mp hc
    exact ⟨b.constants.ofStage s.stage, b.constants.lists_ofStage s.stage,
      StageCall.ofStage_spec b.constants s⟩

theorem agreesInCall (ha : a.ConstantsBelow (2 ^ 32)) (hb : b.ConstantsBelow (2 ^ 32))
    (h : ofBlueprint driverCache a = ofBlueprint driverCache b) : a.AgreesInCall b := by
  have hStages : a.stages = b.stages := by
    rw [← (translates_ofBlueprint driverCache a).stages, h,
      (translates_ofBlueprint driverCache b).stages]
  have hCalls : a.stages.map (StageCall.ofStage a.constants) =
      b.stages.map (StageCall.ofStage b.constants) := congrArg stages h
  rw [hStages] at hCalls
  constructor
  · cases a
    cases b
    simp only [ofBlueprint, mk.injEq, Blueprint.mk.injEq] at h hStages ⊢
    simp only [hStages, h, true_and]
  · intro s hs id value
    have hConstants := StageCall.constants_eq (ha s (hStages ▸ hs)) (hb s hs)
      (List.map_inj_left.mp hCalls s hs)
    rw [← (a.constants.lists_ofStage s.stage).mem, hConstants,
      (b.constants.lists_ofStage s.stage).mem]

end DeviceCall

namespace Blueprint

theorem nodup_built (es : List Edit) : ((built es).stages.map ShaderStage.stage).Nodup := by
  rw [stages_built]
  exact nodup_putStages _

end Blueprint

namespace Driver

variable {δ : Type} {driver : Driver δ} {d : δ} {b : Blueprint} {index : Axis.CompositeIndex}

theorem compile_of_no_layout (h : b.layout = 0) :
    driver.compile d b index = (d, .error ["pipeline layout is not set"]) := if_pos h

theorem compile_of_layout (h : b.layout ≠ 0) :
    (driver.compile d b index).1 = (driver.create d (.ofBlueprint driver.cache b)).1 ∧
    ((driver.create d (.ofBlueprint driver.cache b)).2.1 ≠ 0 →
      ∃ causes, (driver.compile d b index).2 = .error causes) ∧
    ((driver.create d (.ofBlueprint driver.cache b)).2.1 = 0 →
      (driver.compile d b index).2 =
        .ok ⟨(driver.create d (.ofBlueprint driver.cache b)).2.2, b.layout, index⟩) := by
  simp only [compile, if_neg h]
  split
  · next hSuccess => exact ⟨rfl, fun hFails => absurd hSuccess hFails, fun _ => rfl⟩
  · next hFails => exact ⟨rfl, fun _ => ⟨_, rfl⟩, fun hSuccess => absurd hSuccess hFails⟩

/-- Two stages with shaders, the second of which has two constants, and a constant of a third
stage. -/
def shaded : List Edit :=
  [.stage ⟨1, 11, "main"⟩, .constant 16 7 0x01020304, .stage ⟨16, 12, "paint"⟩, .constant 16 2 5,
    .constant 32 0 9, .layout 77]

example : (DeviceCall.ofBlueprint 0 (.built shaded)).stages.map StageCall.spec =
    [none, some ⟨[⟨2, 0, 4⟩, ⟨7, 4, 4⟩], [5, 0, 0, 0, 4, 3, 2, 1]⟩] := by decide

def bare : Blueprint := { stages := [⟨1, 11, "main"⟩], layout := 77 }

/-- Edits that make the bare blueprint and give its stage constants that have their numbers as
values. -/
def numbered (n : Nat) : List Edit :=
  [.stage ⟨1, 11, "main"⟩, .layout 77] ++
    (List.range n).map fun k => .constant 1 (UInt32.ofNat k) (UInt32.ofNat k)

def numbers (n : Nat) : List (UInt32 × UInt32) :=
  (List.range n).map fun k => (UInt32.ofNat k, UInt32.ofNat k)

theorem foldl_attempt_constants {es : List Edit} (h : ∀ e ∈ es, e.setting?.isSome) (b : Blueprint) :
    es.foldl Blueprint.attempt b =
      { b with constants := (es.foldl Blueprint.attempt b).constants } := by
  induction es generalizing b with
  | nil => rfl
  | cons e es ih =>
    obtain ⟨he, hes⟩ := List.forall_mem_cons.mp h
    cases e with
    | constant stage id value => exact ih hes _
    | _ => cases he

theorem built_numbered (n : Nat) :
    Blueprint.built (numbered n) =
      { bare with constants := (Blueprint.built (numbered n)).constants } := by
  rw [Blueprint.built, numbered, List.foldl_append]
  exact foldl_attempt_constants (by simp [Edit.setting?]) bare

theorem settingsOf_numbered (n : Nat) : Blueprint.settingsOf 1 (numbered n) = numbers n := by
  simp [Blueprint.settingsOf, Blueprint.settings, numbered, numbers, Edit.setting?,
    List.filterMap_cons, List.filterMap_map, List.filter_map, Function.comp_def]

theorem ascending_numbers {n : Nat} (hn : n ≤ 2 ^ 32) :
    (numbers n).Pairwise fun c d => c.1 < d.1 := by
  rw [numbers, List.pairwise_map]
  refine List.pairwise_lt_range.imp_of_mem fun {k l} hk hl hLess => ?_
  have hk := List.mem_range.mp hk
  have hl := List.mem_range.mp hl
  rw [UInt32.lt_iff_toNat_lt, UInt32.toNat_ofNat_of_lt' (hk.trans_le hn),
    UInt32.toNat_ofNat_of_lt' (hl.trans_le hn)]
  exact hLess

theorem ofStage_numbered {n : Nat} (hn : n ≤ 2 ^ 32) :
    (Blueprint.built (numbered n)).constants.ofStage 1 = numbers n := by
  have hAscending := ascending_numbers hn
  have hDistinct : ((numbers n).map Prod.fst).Nodup :=
    List.pairwise_map.mpr (hAscending.imp UInt32.ne_of_lt)
  refine ConstantTable.eq_of_ascending (ConstantTable.lists_ofStage _ 1).ascending hAscending ?_
  rintro ⟨id, value⟩
  rw [Blueprint.mem_constants_built, settingsOf_numbered, getLast?_filter_fst hDistinct]

theorem ofBlueprint_numbered {n : Nat} (hn : n ≤ 2 ^ 32) :
    DeviceCall.ofBlueprint 0 (.built (numbered n)) =
      { DeviceCall.ofBlueprint 0 bare with
        stages := [⟨1, 11, "main",
          if UInt32.ofNat n = 0 then none else some (.ofConstants (numbers n))⟩] } := by
  have hLength : (numbers n).length = n := by rw [numbers, List.length_map, List.length_range]
  have hConstants := ofStage_numbered hn
  rw [built_numbered]
  simp only [DeviceCall.ofBlueprint, bare, List.map_cons, List.map_nil, StageCall.ofStage,
    hConstants, hLength]

theorem getElem?_numbers {n i : Nat} (hi : i < n) :
    (numbers n)[i]? = some (UInt32.ofNat i, UInt32.ofNat i) := by
  rw [numbers, List.getElem?_map, List.getElem?_range hi, Option.map_some]

end Driver

end PipelineForge
