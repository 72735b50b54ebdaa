import Mathlib.Data.List.Nodup
import PipelineForge.Blueprint.Constants
import PipelineForge.Proofs.Lists

/-!
# Reading tables of constants

A table of constants is looked up by stage and number. An insertion is seen under its own key
only, a table is nothing more than what is found in it, and the constants of one stage are all that
is found under its keys.
-/

namespace PipelineForge

theorem ConstantKey.before_irrefl (k : ConstantKey) : ¬ k.Before k := by
  rintro (hStage | ⟨_, hId⟩)
  · exact UInt32.lt_irrefl _ hStage
  · exact UInt32.lt_irrefl _ hId

namespace ConstantTable

variable {t u : ConstantTable} {key k : ConstantKey} {value : UInt32}

def find? (t : ConstantTable) (key : ConstantKey) : Option UInt32 := t.entries.lookup key

theorem lookup_put (es : List (ConstantKey × UInt32)) (key : ConstantKey) (value : UInt32)
    (k : ConstantKey) :
    (put key value es).lookup k = if k = key then some value else es.lookup k := by
  have hCons (e : ConstantKey × UInt32) (es : List (ConstantKey × UInt32)) :
      (e :: es).lookup k = if k = e.1 then some e.2 else es.lookup k := by
    rw [List.lookup_cons]
    split
    next hSame => rw [if_pos (beq_iff_eq.mp hSame)]
    next hOther => rw [if_neg (beq_eq_false_iff_ne.mp hOther)]
  induction es with
  | nil => rw [put, hCons]
  | cons e es ih =>
    rw [put]
    split
    next hSame =>
      rw [hCons, hCons, hSame]
      split <;> rfl
    next hOther =>
      split
      · rw [hCons]
      · rw [hCons, ih, hCons]
        by_cases hk : k = e.1
        · rw [if_pos hk, if_neg fun hKey => hOther (hKey.symm.trans hk), if_pos hk]
        · rw [if_neg hk, if_neg hk]

@[simp] theorem find?_insert (t : ConstantTable) (key : ConstantKey) (value : UInt32)
    (k : ConstantKey) :
    (t.insert key value).find? k = if k = key then some value else t.find? k :=
  lookup_put t.entries key value k

theorem nodup_keys (t : ConstantTable) : (t.entries.map Prod.fst).Nodup := by
  refine List.pairwise_map.mpr (t.ascending.imp fun {a b} hBefore hSame => ?_)
  exact b.1.before_irrefl (hSame ▸ hBefore)

theorem mem_entries_iff : (key, value) ∈ t.entries ↔ t.find? key = some value := by
  refine ⟨lookup_of_mem t.nodup_keys, fun hFind => ?_⟩
  obtain ⟨front, back, hEntries, _⟩ := List.lookup_eq_some_iff.mp hFind
  rw [hEntries]
  exact List.mem_append_right _ List.mem_cons_self

theorem eq_of_find? (h : ∀ key, t.find? key = u.find? key) : t = u := by
  have hPerm : t.entries.Perm u.entries := by
    have hNodup (t : ConstantTable) : t.entries.Nodup := List.Nodup.of_map _ t.nodup_keys
    refine (List.perm_ext_iff_of_nodup (hNodup t) (hNodup u)).mpr fun e => ?_
    rw [mem_entries_iff, mem_entries_iff, h]
  have hEntries : t.entries = u.entries := by
    refine hPerm.eq_of_pairwise (fun a b _ _ hab hba => ?_) t.ascending u.ascending
    exact absurd (ConstantKey.before_trans hab hba) a.1.before_irrefl
  obtain ⟨es, hes⟩ := t
  obtain ⟨fs, hfs⟩ := u
  obtain rfl : es = fs := hEntries
  rfl

/-- All constants of one stage of a table, in ascending order of their numbers. -/
structure Lists (t : ConstantTable) (stage : UInt32) (cs : List (UInt32 × UInt32)) :
    Prop where
  mem : ∀ id value, (id, value) ∈ cs ↔ (⟨stage, id⟩, value) ∈ t.entries
  ascending : cs.Pairwise fun c c' => c.1 < c'.1

theorem lists_ofStage (t : ConstantTable) (stage : UInt32) :
    t.Lists stage (t.ofStage stage) := by
  constructor
  · intro id value
    simp only [ofStage, List.mem_map, List.mem_filter, decide_eq_true_eq, Prod.mk.injEq]
    constructor
    · rintro ⟨⟨⟨_, _⟩, _⟩, ⟨hMem, rfl⟩, rfl, rfl⟩
      exact hMem
    · intro hMem
      exact ⟨_, ⟨hMem, rfl⟩, rfl, rfl⟩
  · rw [ofStage, List.pairwise_map]
    apply (t.ascending.filter _).imp_of_mem
    intro c c' hc hc' hBefore
    have hStage := of_decide_eq_true (List.mem_filter.mp hc).2
    have hStage' := of_decide_eq_true (List.mem_filter.mp hc').2
    rcases hBefore with hLess | ⟨_, hLess⟩
    · rw [hStage, hStage'] at hLess
      exact absurd hLess (UInt32.lt_irrefl stage)
    · exact hLess

theorem eq_of_ascending {cs ds : List (UInt32 × UInt32)}
    (hcs : cs.Pairwise fun c c' => c.1 < c'.1) (hds : ds.Pairwise fun d d' => d.1 < d'.1)
    (hMem : ∀ c, c ∈ cs ↔ c ∈ ds) : cs = ds := by
  have hNodup {cs : List (UInt32 × UInt32)} (h : cs.Pairwise fun c c' => c.1 < c'.1) : cs.Nodup :=
    h.imp fun hLess => ne_of_apply_ne Prod.fst (UInt32.ne_of_lt hLess)
  have hPerm : cs.Perm ds :=
    (List.perm_ext_iff_of_nodup (hNodup hcs) (hNodup hds)).mpr hMem
  refine hPerm.eq_of_pairwise (fun a b _ _ hab hba => ?_) hcs hds
  exact absurd (UInt32.lt_trans hab hba) (UInt32.lt_irrefl a.1)

theorem ofStage_congr {stage : UInt32} (h : ∀ id, t.find? ⟨stage, id⟩ = u.find? ⟨stage, id⟩) :
    t.ofStage stage = u.ofStage stage := by
  have ht := t.lists_ofStage stage
  have hu := u.lists_ofStage stage
  refine eq_of_ascending ht.ascending hu.ascending fun ⟨id, value⟩ => ?_
  rw [ht.mem, hu.mem, mem_entries_iff, mem_entries_iff, h]

end ConstantTable

end PipelineForge
