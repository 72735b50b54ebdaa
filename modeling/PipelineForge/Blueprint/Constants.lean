/-!
# Specialization constants

The constants of all shader stages are one table, keyed by stage and constant number and kept
in ascending order of the keys, so that the constants of one stage stand together in ascending
order of their numbers.
-/

namespace PipelineForge

structure ConstantKey where
  stage : UInt32
  id : UInt32
deriving DecidableEq

/-- Stage first, then constant number. -/
def ConstantKey.Before (a b : ConstantKey) : Prop :=
  a.stage < b.stage ∨ a.stage = b.stage ∧ a.id < b.id

instance (a b : ConstantKey) : Decidable (a.Before b) := inferInstanceAs (Decidable (_ ∨ _))

namespace ConstantKey

theorem before_trans {a b c : ConstantKey} (hab : a.Before b) (hbc : b.Before c) :
    a.Before c := by
  rcases hab with hab | ⟨hab, hab'⟩ <;> rcases hbc with hbc | ⟨hbc, hbc'⟩
  · exact .inl (UInt32.lt_trans hab hbc)
  · exact .inl (hbc ▸ hab)
  · exact .inl (hab ▸ hbc)
  · exact .inr ⟨hab.trans hbc, UInt32.lt_trans hab' hbc'⟩

theorem before_of_not_before {a b : ConstantKey} (h : ¬ a.Before b) (hne : a ≠ b) :
    b.Before a := by
  rcases Nat.lt_trichotomy a.stage.toNat b.stage.toNat with hs | hs | hs
  · exact absurd (.inl hs) h
  · have hstage : a.stage = b.stage := UInt32.toNat_inj.mp hs
    rcases Nat.lt_trichotomy a.id.toNat b.id.toNat with hi | hi | hi
    · exact absurd (.inr ⟨hstage, hi⟩) h
    · obtain ⟨stage, id⟩ := a
      obtain ⟨stage', id'⟩ := b
      exact absurd (by simp_all [UInt32.toNat_inj]) hne
    · exact .inr ⟨hstage.symm, hi⟩
  · exact .inl hs

end ConstantKey

structure ConstantTable where
  entries : List (ConstantKey × UInt32)
  ascending : entries.Pairwise fun a b => a.1.Before b.1
deriving DecidableEq

namespace ConstantTable

def empty : ConstantTable := ⟨[], .nil⟩

def put (key : ConstantKey) (value : UInt32) :
    List (ConstantKey × UInt32) → List (ConstantKey × UInt32)
  | [] => [(key, value)]
  | e :: es =>
    if key = e.1 then (key, value) :: es
    else if key.Before e.1 then (key, value) :: e :: es
    else e :: put key value es

theorem mem_put {key : ConstantKey} {value : UInt32} {es : List (ConstantKey × UInt32)}
    {x : ConstantKey × UInt32} (h : x ∈ put key value es) : x = (key, value) ∨ x ∈ es := by
  induction es with
  | nil => exact .inl (by simpa [put] using h)
  | cons e es ih =>
    rw [put] at h
    split at h
    · rcases List.mem_cons.mp h with h | h
      · exact .inl h
      · exact .inr (List.mem_cons_of_mem _ h)
    · split at h
      · exact List.mem_cons.mp h
      · rcases List.mem_cons.mp h with h | h
        · exact .inr (h ▸ List.mem_cons_self)
        · rcases ih h with h | h
          · exact .inl h
          · exact .inr (List.mem_cons_of_mem _ h)

theorem put_ascending {key : ConstantKey} {value : UInt32} {es : List (ConstantKey × UInt32)}
    (h : es.Pairwise fun a b => a.1.Before b.1) :
    (put key value es).Pairwise fun a b => a.1.Before b.1 := by
  induction es with
  | nil => exact List.pairwise_singleton _ _
  | cons e es ih =>
    obtain ⟨hfirst, hrest⟩ := List.pairwise_cons.mp h
    rw [put]
    split
    · next heq => exact List.pairwise_cons.mpr ⟨fun x hx => heq ▸ hfirst x hx, hrest⟩
    · next hne =>
      split
      · next hbefore =>
        refine List.pairwise_cons.mpr ⟨fun x hx => ?_, h⟩
        rcases List.mem_cons.mp hx with rfl | hx
        · exact hbefore
        · exact ConstantKey.before_trans hbefore (hfirst x hx)
      · next hbefore =>
        refine List.pairwise_cons.mpr ⟨fun x hx => ?_, ih hrest⟩
        rcases mem_put hx with rfl | hx
        · exact ConstantKey.before_of_not_before hbefore hne
        · exact hfirst x hx

def insert (t : ConstantTable) (key : ConstantKey) (value : UInt32) : ConstantTable :=
  ⟨put key value t.entries, put_ascending t.ascending⟩

def ofStage (t : ConstantTable) (stage : UInt32) : List (UInt32 × UInt32) :=
  (t.entries.filter (·.1.stage = stage)).map fun (key, value) => (key.id, value)

end ConstantTable

end PipelineForge
