import Mathlib.Data.List.Nodup

/-!
# Places of lists

A list is taken apart around one of its places, so that what is done to the place is seen in the
whole list. Nothing here is about pipelines.
-/

namespace PipelineForge

theorem exists_split {α : Type} {l : List α} {i : Nat} {a : α} (h : l[i]? = some a) :
    ∃ front back, l = front ++ a :: back ∧ front.length = i := by
  obtain ⟨hi, ha⟩ := List.getElem?_eq_some_iff.mp h
  refine ⟨l.take i, l.drop (i + 1), ?_, List.length_take_of_le (Nat.le_of_lt hi)⟩
  rw [← ha, List.getElem_cons_drop, List.take_append_drop]

theorem set_split {α : Type} (front back : List α) (a b : α) :
    (front ++ a :: back).set front.length b = front ++ b :: back := by
  rw [List.set_append_right _ _ (Nat.le_refl _), Nat.sub_self, List.set_cons_zero]

theorem eraseIdx_split {α : Type} (front back : List α) (a : α) :
    (front ++ a :: back).eraseIdx front.length = front ++ back := by
  rw [List.eraseIdx_append_of_length_le (Nat.le_refl _), Nat.sub_self, List.eraseIdx_cons_zero]

theorem count_flatMap_set {α β : Type} [DecidableEq β] {l : List α} {i : Nat} {a : α}
    (h : l[i]? = some a) (b : α) (g : α → List β) (x : β) :
    ((l.set i b).flatMap g).count x + (g a).count x = (l.flatMap g).count x + (g b).count x := by
  obtain ⟨front, back, rfl, rfl⟩ := exists_split h
  simp only [set_split, List.flatMap_append, List.flatMap_cons, List.count_append]
  omega

theorem flatMap_range_getElem? {α β : Type} (l : List α) (g : α → List β) :
    ((List.range l.length).flatMap fun i => (l[i]?.map g).getD []) = l.flatMap g := by
  induction l with
  | nil => rfl
  | cons a l ih =>
    rw [List.length_cons, List.range_succ_eq_map, List.flatMap_cons, List.flatMap_map,
      List.flatMap_cons, ← ih]
    rfl

/-- A place of a list that is joined from parts of one length lies in the part that the division by
the length names. -/
theorem getElem?_flatMap_of_length {α β : Type} {l : List α} {f : α → List β} {n : Nat}
    (hn : 0 < n) (hLength : ∀ a ∈ l, (f a).length = n) (k : Nat) :
    (l.flatMap f)[k]? = l[k / n]?.bind fun a => (f a)[k % n]? := by
  induction l generalizing k with
  | nil => rfl
  | cons a l ih =>
    obtain ⟨ha, hl⟩ := List.forall_mem_cons.mp hLength
    rw [List.flatMap_cons]
    by_cases hk : k < n
    · rw [List.getElem?_append_left (ha.symm ▸ hk), Nat.div_eq_of_lt hk, Nat.mod_eq_of_lt hk]
      rfl
    · have hk : n ≤ k := Nat.le_of_not_lt hk
      rw [List.getElem?_append_right (ha.symm ▸ hk), ha, ih hl, Nat.div_eq_sub_div hn hk,
        List.getElem?_cons_succ, ← Nat.mod_eq_sub_mod hk]

theorem slice_flatMap {α β : Type} {l : List α} {f : α → List β} {n : Nat}
    (hLength : ∀ a ∈ l, (f a).length = n) {i : Nat} {a : α} (hi : l[i]? = some a) :
    ((l.flatMap f).drop (n * i)).take n = f a := by
  induction l generalizing i with
  | nil => cases hi
  | cons b l ih =>
    obtain ⟨hb, hl⟩ := List.forall_mem_cons.mp hLength
    rw [List.flatMap_cons]
    cases i with
    | zero =>
      obtain rfl := Option.some.inj hi
      rw [Nat.mul_zero, List.drop_zero, List.take_left' hb]
    | succ i =>
      rw [Nat.mul_succ, Nat.add_comm, ← List.drop_drop, List.drop_left' hb]
      exact ih hl hi

theorem eq_of_countP_le_one {α : Type} {l : List α} {kind : α → Bool} (h : l.countP kind ≤ 1)
    {i j : Nat} {a b : α} (hi : l[i]? = some a) (hj : l[j]? = some b) (ha : kind a = true)
    (hb : kind b = true) : i = j := by
  induction l generalizing i j with
  | nil => cases hi
  | cons c l ih =>
    have hPos {k : Nat} {d : α} (hk : l[k]? = some d) (hd : kind d = true) : 0 < l.countP kind :=
      List.countP_pos_iff.mpr ⟨d, List.mem_of_getElem? hk, hd⟩
    rw [List.countP_cons] at h
    cases i with
    | zero =>
      cases j with
      | zero => rfl
      | succ j =>
        obtain rfl := Option.some.inj hi
        have hRest := hPos hj hb
        rw [if_pos ha] at h
        omega
    | succ i =>
      cases j with
      | zero =>
        obtain rfl := Option.some.inj hj
        have hRest := hPos hi ha
        rw [if_pos hb] at h
        omega
      | succ j =>
        have hRest : l.countP kind ≤ 1 := by omega
        rw [ih hRest hi hj]

theorem getElem?_of_isPrefix {α : Type} {l m : List α} {k : Nat} {a : α} (h : l <+: m)
    (hk : l[k]? = some a) : m[k]? = some a := by
  obtain ⟨rest, rfl⟩ := h
  rw [List.getElem?_append_left (List.getElem?_eq_some_iff.mp hk).1, hk]

theorem lookup_eq_none {α β : Type} [BEq α] [LawfulBEq α] {l : List (α × β)} {a : α} :
    l.lookup a = none ↔ a ∉ l.map Prod.fst := by
  simp only [List.lookup_eq_none_iff, bne_iff_ne, List.mem_map, not_exists, not_and]
  exact forall₂_congr fun _ _ => ne_comm

theorem lookup_of_mem {α β : Type} [BEq α] [LawfulBEq α] {l : List (α × β)}
    (hDistinct : (l.map Prod.fst).Nodup) {a : α} {b : β} (hMem : (a, b) ∈ l) :
    l.lookup a = some b := by
  obtain ⟨front, back, rfl⟩ := List.append_of_mem hMem
  rw [List.map_append, List.map_cons, List.nodup_append] at hDistinct
  obtain ⟨_, _, hApart⟩ := hDistinct
  refine List.lookup_eq_some_iff.mpr ⟨front, back, rfl, fun e he => bne_iff_ne.mpr ?_⟩
  exact (hApart e.1 (List.mem_map_of_mem he) a List.mem_cons_self).symm

theorem getLast?_filter_fst {α β : Type} [DecidableEq α] {l : List (α × β)}
    (hDistinct : (l.map Prod.fst).Nodup) (a : α) (b : β) :
    (l.filter (·.1 = a)).getLast? = some (a, b) ↔ (a, b) ∈ l := by
  constructor
  · exact fun hLast => (List.mem_filter.mp (List.mem_of_getLast? hLast)).1
  · intro hMem
    have hKept : (a, b) ∈ l.filter (·.1 = a) :=
      List.mem_filter.mpr ⟨hMem, decide_eq_true rfl⟩
    have hLast := List.getLast?_eq_some_getLast (List.ne_nil_of_mem hKept)
    obtain ⟨hMem', hKey⟩ := List.mem_filter.mp (List.mem_of_getLast? hLast)
    rw [hLast, List.inj_on_of_nodup_map hDistinct hMem' hMem (of_decide_eq_true hKey)]

/-- Where the elements of a list are told apart by what they are mapped to, one of them can be taken
out of it. -/
theorem perm_filter_ne {α β : Type} [DecidableEq β] {f : α → β} {l : List α}
    (hDistinct : (l.map f).Nodup) {a : α} (hMem : a ∈ l) :
    l.Perm (a :: l.filter (f · ≠ f a)) := by
  obtain ⟨front, back, rfl⟩ := List.append_of_mem hMem
  rw [List.map_append, List.map_cons, List.nodup_middle, List.nodup_cons, ← List.map_append]
    at hDistinct
  have hOthers : ∀ b ∈ front ++ back, decide (f b ≠ f a) = true := by
    intro b hb
    rw [decide_eq_true_eq]
    intro hSame
    exact hDistinct.1 (hSame ▸ List.mem_map_of_mem hb)
  have hFilter : (front ++ a :: back).filter (f · ≠ f a) = front ++ back := by
    rw [List.filter_append, List.filter_cons_of_neg (by simp), ← List.filter_append]
    exact List.filter_eq_self.mpr hOthers
  rw [hFilter]
  exact List.perm_middle

end PipelineForge
