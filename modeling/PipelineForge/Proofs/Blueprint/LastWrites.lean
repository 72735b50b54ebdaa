import Mathlib.Data.List.Induction
import PipelineForge.Proofs.Blueprint.Constants
import PipelineForge.Proofs.Blueprint.PushRanges

/-!
# What stages keep

The shaders and the constants of a blueprint are those that its edits give, put one after the
other. Of the shaders of one stage the last one is kept, in the place of the first one; of the
values of one constant the last one is kept, and the constants of a stage are one interval of the
table of all constants. Why an edit fails is not looked at.
-/

namespace PipelineForge

theorem getLast?_filter_concat {α : Type} (p : α → Bool) (l : List α) (a : α) :
    ((l ++ [a]).filter p).getLast? = if p a then some a else (l.filter p).getLast? := by
  rw [List.filter_append]
  by_cases ha : p a
  · rw [if_pos ha, List.filter_cons_of_pos ha, List.filter_nil, List.getLast?_concat]
  · rw [if_neg ha, List.filter_cons_of_neg ha, List.filter_nil, List.append_nil]

theorem eraseDups_concat {α : Type} [DecidableEq α] (l : List α) (a : α) :
    (l ++ [a]).eraseDups = if a ∈ l then l.eraseDups else l.eraseDups ++ [a] := by
  rw [List.eraseDups_append]
  by_cases ha : a ∈ l
  · rw [if_pos ha]
    simp [List.removeAll, ha]
  · rw [if_neg ha]
    simp [List.removeAll, ha, List.eraseDups_cons]

namespace ConstantTable

/-- The part of a table from one key to another one, both of which belong to it. -/
def between (t : ConstantTable) (low high : ConstantKey) : List (ConstantKey × UInt32) :=
  t.entries.filter fun e => ¬ e.1.Before low ∧ ¬ high.Before e.1

/-- The interval ends at the limits of the constant numbers, so that it leaves out no constant of
the stage and has none of another one, be the stage the first or the last of all. -/
theorem ofStage_eq_between (t : ConstantTable) (stage : UInt32) :
    t.ofStage stage = (t.between ⟨stage, 0⟩ ⟨stage, 0xffffffff⟩).map fun e => (e.1.id, e.2) := by
  refine congrArg (List.map _) (List.filter_congr fun e _ => decide_eq_decide.mpr ?_)
  have hId := e.1.id.toNat_lt
  simp only [ConstantKey.Before, UInt32.lt_iff_toNat_lt, ← UInt32.toNat_inj, UInt32.toNat_zero,
    UInt32.reduceToNat]
  omega

def insertAll (cs : List (ConstantKey × UInt32)) : ConstantTable :=
  cs.foldl (fun t c => t.insert c.1 c.2) empty

theorem find?_insertAll (cs : List (ConstantKey × UInt32)) (key : ConstantKey) :
    (insertAll cs).find? key = (cs.filter (·.1 = key)).getLast?.map Prod.snd := by
  induction cs using List.reverseRecOn with
  | nil => rfl
  | append_singleton cs c ih =>
    rw [getLast?_filter_concat, insertAll, List.foldl_concat, find?_insert, ← insertAll, ih]
    by_cases hSame : c.1 = key
    · rw [if_pos hSame.symm, if_pos (decide_eq_true hSame), Option.map_some]
    · rw [if_neg (Ne.symm hSame), if_neg (by simpa using hSame)]

end ConstantTable

namespace Blueprint

theorem map_stage_putStage (s : ShaderStage) (ts : List ShaderStage) :
    (putStage s ts).map ShaderStage.stage =
      if s.stage ∈ ts.map ShaderStage.stage then ts.map ShaderStage.stage
      else ts.map ShaderStage.stage ++ [s.stage] := by
  induction ts with
  | nil => rfl
  | cons t ts ih =>
    rw [putStage, List.map_cons]
    split
    next hSame => rw [List.map_cons, hSame, if_pos List.mem_cons_self]
    next hOther =>
      rw [List.map_cons, ih]
      by_cases hMem : s.stage ∈ ts.map ShaderStage.stage
      · rw [if_pos hMem, if_pos (List.mem_cons_of_mem _ hMem)]
      · have hNew : s.stage ∉ t.stage :: ts.map ShaderStage.stage :=
          List.not_mem_cons_of_ne_of_not_mem (Ne.symm hOther) hMem
        rw [if_neg hMem, if_neg hNew, List.cons_append]

theorem find?_putStage (s : ShaderStage) (ts : List ShaderStage) (stage : UInt32) :
    (putStage s ts).find? (·.stage = stage) =
      if s.stage = stage then some s else ts.find? (·.stage = stage) := by
  have hCons (t : ShaderStage) (ts : List ShaderStage) :
      (t :: ts).find? (·.stage = stage) =
        if t.stage = stage then some t else ts.find? (·.stage = stage) := by
    rw [List.find?_cons]
    by_cases hSame : t.stage = stage <;> simp [hSame]
  induction ts with
  | nil => rw [putStage, hCons]
  | cons t ts ih =>
    rw [putStage]
    split
    next hSame =>
      rw [hCons, hCons, hSame]
      split <;> rfl
    next hOther =>
      rw [hCons, hCons, ih]
      by_cases ht : t.stage = stage
      · rw [if_pos ht, if_neg fun hs => hOther (ht.trans hs.symm), if_pos ht]
      · rw [if_neg ht, if_neg ht]

def putStages (ss : List ShaderStage) : List ShaderStage :=
  ss.foldl (fun ts s => putStage s ts) []

theorem putStages_concat (ss : List ShaderStage) (s : ShaderStage) :
    putStages (ss ++ [s]) = putStage s (putStages ss) := List.foldl_concat ..

theorem map_stage_putStages (ss : List ShaderStage) :
    (putStages ss).map ShaderStage.stage = (ss.map ShaderStage.stage).eraseDups := by
  induction ss using List.reverseRecOn with
  | nil => rfl
  | append_singleton ss s ih =>
    rw [putStages_concat, map_stage_putStage, ih, List.map_append, List.map_singleton,
      eraseDups_concat]
    simp only [List.mem_eraseDups]

theorem find?_putStages (ss : List ShaderStage) (stage : UInt32) :
    (putStages ss).find? (·.stage = stage) = (ss.filter (·.stage = stage)).getLast? := by
  induction ss using List.reverseRecOn with
  | nil => rfl
  | append_singleton ss s ih =>
    rw [putStages_concat, find?_putStage, ih, getLast?_filter_concat]
    simp only [decide_eq_true_eq]

theorem nodup_putStages (ss : List ShaderStage) :
    ((putStages ss).map ShaderStage.stage).Nodup := by
  induction ss using List.reverseRecOn with
  | nil => exact .nil
  | append_singleton ss s ih =>
    rw [putStages_concat, map_stage_putStage]
    split
    · exact ih
    next hNew => exact List.concat_eq_append ▸ ih.concat hNew

end Blueprint

namespace Edit

def shader? : Edit → Option ShaderStage
  | .stage s => some s
  | _ => none

def setting? : Edit → Option (ConstantKey × UInt32)
  | .constant s id value => some (⟨s, id⟩, value)
  | _ => none

end Edit

namespace Blueprint

def shaders (es : List Edit) : List ShaderStage := es.filterMap Edit.shader?

def settings (es : List Edit) : List (ConstantKey × UInt32) := es.filterMap Edit.setting?

def settingsOf (stage : UInt32) (es : List Edit) : List (UInt32 × UInt32) :=
  ((settings es).filter (·.1.stage = stage)).map fun c => (c.1.id, c.2)

/-- An edit touches the shaders and the constants only if it gives one, and then it cannot fail. -/
theorem attempt_shader_setting (b : Blueprint) (e : Edit) :
    (b.attempt e).stages = e.shader?.elim b.stages (putStage · b.stages) ∧
      (b.attempt e).constants =
        e.setting?.elim b.constants fun c => b.constants.insert c.1 c.2 := by
  rw [attempt]
  cases e with
  | push r =>
    split
    next hApply =>
      obtain ⟨_, rfl⟩ := eq_of_insertPush hApply
      exact ⟨rfl, rfl⟩
    · exact ⟨rfl, rfl⟩
  | attachmentBlend attachment state =>
    split
    next hApply =>
      obtain ⟨_, rfl⟩ := eq_of_attachmentBlend hApply
      exact ⟨rfl, rfl⟩
    · exact ⟨rfl, rfl⟩
  | _ => exact ⟨rfl, rfl⟩

theorem built_concat (es : List Edit) (e : Edit) : built (es ++ [e]) = (built es).attempt e :=
  List.foldl_concat ..

theorem stages_built (es : List Edit) : (built es).stages = putStages (shaders es) := by
  induction es using List.reverseRecOn with
  | nil => rfl
  | append_singleton es e ih =>
    rw [built_concat, (attempt_shader_setting _ e).1, ih, shaders, shaders, List.filterMap_append]
    cases he : e.shader? with
    | none => simp [he]
    | some s => simp [he, putStages_concat]

theorem constants_built (es : List Edit) :
    (built es).constants = ConstantTable.insertAll (settings es) := by
  induction es using List.reverseRecOn with
  | nil => rfl
  | append_singleton es e ih =>
    rw [built_concat, (attempt_shader_setting _ e).2, ih, settings, settings,
      List.filterMap_append]
    cases he : e.setting? with
    | none => simp [he]
    | some c => simp [he, ConstantTable.insertAll]

theorem find?_constants_built (es : List Edit) (stage id : UInt32) :
    (built es).constants.find? ⟨stage, id⟩ =
      ((settingsOf stage es).filter (·.1 = id)).getLast?.map Prod.snd := by
  have hFilter : (settingsOf stage es).filter (·.1 = id) =
      ((settings es).filter (·.1 = ⟨stage, id⟩)).map fun c => (c.1.id, c.2) := by
    rw [settingsOf, List.filter_map, List.filter_filter]
    refine congrArg (List.map _) (List.filter_congr fun c _ => ?_)
    obtain ⟨⟨_, _⟩, _⟩ := c
    simp [Bool.and_comm]
  rw [constants_built, ConstantTable.find?_insertAll, hFilter, List.getLast?_map, Option.map_map]
  rfl

theorem mem_stages_built (es : List Edit) (s : ShaderStage) :
    s ∈ (built es).stages ↔ ((shaders es).filter (·.stage = s.stage)).getLast? = some s := by
  rw [stages_built, ← find?_putStages]
  refine ⟨fun hMem => ?_, List.mem_of_find?_eq_some⟩
  obtain ⟨t, hFind⟩ : ∃ t, (putStages (shaders es)).find? (·.stage = s.stage) = some t :=
    Option.isSome_iff_exists.mp (List.find?_isSome.mpr ⟨s, hMem, decide_eq_true rfl⟩)
  have hStage := List.find?_some hFind
  have hSame : t = s := List.inj_on_of_nodup_map (nodup_putStages _)
    (List.mem_of_find?_eq_some hFind) hMem (of_decide_eq_true hStage)
  exact hSame ▸ hFind

/-- A constant of a stage is the last one that was set for the stage under its number. -/
theorem mem_constants_built (es : List Edit) (stage id value : UInt32) :
    (id, value) ∈ (built es).constants.ofStage stage ↔
      ((settingsOf stage es).filter (·.1 = id)).getLast? = some (id, value) := by
  rw [(ConstantTable.lists_ofStage _ stage).mem, ConstantTable.mem_entries_iff,
    find?_constants_built, Option.map_eq_some_iff]
  constructor
  · rintro ⟨⟨id', _⟩, hLast, rfl⟩
    have hId := of_decide_eq_true (List.mem_filter.mp (List.mem_of_getLast? hLast)).2
    exact hId ▸ hLast
  · exact fun hLast => ⟨_, hLast, rfl⟩

/-- Whatever edits were tried, the blueprint has every stage that was given a shader once, in the
order of the first shaders and with its last shader. The constants of a stage are an interval of the
table of all constants; they are those that were set for this very stage, in strictly ascending
order and each with its last value. Neither the stages nor the constants of one stage depend on
anything else that was edited. -/
theorem built_keeps_last_writes (es : List Edit) :
    (built es).stages.map ShaderStage.stage = ((shaders es).map ShaderStage.stage).eraseDups ∧
    ((built es).stages.map ShaderStage.stage).Nodup ∧
    (∀ s, s ∈ (built es).stages ↔
      ((shaders es).filter (·.stage = s.stage)).getLast? = some s) ∧
    (∀ es', shaders es' = shaders es → (built es').stages = (built es).stages) ∧
    ∀ stage,
      (built es).constants.ofStage stage =
        ((built es).constants.between ⟨stage, 0⟩ ⟨stage, 0xffffffff⟩).map
          (fun e => (e.1.id, e.2)) ∧
      ((built es).constants.ofStage stage).Pairwise (fun c d => c.1 < d.1) ∧
      (∀ id value, (id, value) ∈ (built es).constants.ofStage stage ↔
        ((settingsOf stage es).filter (·.1 = id)).getLast? = some (id, value)) ∧
      ∀ es', settingsOf stage es' = settingsOf stage es →
        (built es').constants.ofStage stage = (built es).constants.ofStage stage := by
  refine ⟨?_, ?_, mem_stages_built es, ?_, fun stage => ⟨ConstantTable.ofStage_eq_between _ stage,
    (ConstantTable.lists_ofStage _ stage).ascending, mem_constants_built es stage, ?_⟩⟩
  · rw [stages_built, map_stage_putStages]
  · rw [stages_built]
    exact nodup_putStages _
  · intro es' hSame
    rw [stages_built, stages_built, hSame]
  · intro es' hSame
    refine ConstantTable.ofStage_congr fun id => ?_
    rw [find?_constants_built, find?_constants_built, hSame]

/-- Shaders and constants that are replaced, with constants of the first and of the last stage
number, of a set of two stages and of its parts. -/
def overwritten : List Edit :=
  [.stage ⟨17, 11, "main"⟩, .constant 0 7 1, .stage ⟨16, 12, "main"⟩, .constant 0xffffffff 0 2,
    .constant 17 3 3, .constant 0 0xffffffff 4, .stage ⟨17, 13, "again"⟩, .constant 16 3 5,
    .constant 0 7 6, .push ⟨1, 0xffffffff, 1⟩, .constant 17 3 7]

example : (built overwritten).stages = [⟨17, 13, "again"⟩, ⟨16, 12, "main"⟩] ∧
    (built overwritten).constants.ofStage 0 = [(7, 6), (0xffffffff, 4)] ∧
    (built overwritten).constants.ofStage 0xffffffff = [(0, 2)] := by decide

/-- The shaders alone make the same stages, and what is set for one stage alone makes its
constants. -/
theorem built_keeps_last_writes_overwritten :
    ⟨17, 13, "again"⟩ ∈ (built overwritten).stages ∧
    (3, 7) ∈ (built overwritten).constants.ofStage 17 ∧
    (built [.stage ⟨17, 11, "main"⟩, .stage ⟨16, 12, "main"⟩, .stage ⟨17, 13, "again"⟩]).stages =
      (built overwritten).stages ∧
    (built [.constant 17 3 3, .constant 17 3 7]).constants.ofStage 17 =
      (built overwritten).constants.ofStage 17 := by
  obtain ⟨_, _, hLast, hStages, hConstants⟩ := built_keeps_last_writes overwritten
  obtain ⟨_, _, hValue, hOnly⟩ := hConstants 17
  exact ⟨(hLast _).mpr (by decide), (hValue 3 7).mpr (by decide), hStages _ (by decide),
    hOnly _ (by decide)⟩

end Blueprint

end PipelineForge
