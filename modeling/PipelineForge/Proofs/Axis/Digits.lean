import Mathlib.Algebra.BigOperators.Group.List.Basic
import Mathlib.Algebra.Order.BigOperators.Group.List

/-!
# Mixed radices

A number has one digit for each radix of a list, the last one least significant. Below the product
of the radices it is determined by its digits, and above it they repeat. Which radices the axes of
a pipeline have is not the subject here.
-/

namespace PipelineForge.Axis

def digits : List Nat → Nat → List Nat
  | [], _ => []
  | r :: rs, n => n / rs.prod % r :: digits rs n

def compose : List Nat → List Nat → Nat
  | _ :: rs, d :: ds => d * rs.prod + compose rs ds
  | _, _ => 0

theorem length_digits (rs : List Nat) (n : Nat) : (digits rs n).length = rs.length := by
  induction rs with
  | nil => rfl
  | cons r rs ih => rw [digits, List.length_cons, ih, List.length_cons]

theorem digits_add_mul_prod (rs : List Nat) (n m : Nat) :
    digits rs (n + m * rs.prod) = digits rs n := by
  induction rs generalizing m with
  | nil => rfl
  | cons r rs ih =>
    rw [List.prod_cons, ← Nat.mul_assoc, digits, digits, ih]
    by_cases hProd : rs.prod = 0
    · simp [hProd]
    · rw [Nat.add_mul_div_right _ _ (Nat.pos_of_ne_zero hProd), Nat.add_mul_mod_self_right]

theorem digits_mod (rs : List Nat) (n : Nat) : digits rs (n % rs.prod) = digits rs n := by
  have hSplit : n % rs.prod + n / rs.prod * rs.prod = n := by
    rw [Nat.mul_comm]
    exact Nat.mod_add_div n rs.prod
  rw [← digits_add_mul_prod rs (n % rs.prod) (n / rs.prod), hSplit]

theorem digits_lt {rs : List Nat} (hPos : ∀ r ∈ rs, 0 < r) (n : Nat) :
    List.Forall₂ (· < ·) (digits rs n) rs := by
  induction rs with
  | nil => exact .nil
  | cons r rs ih =>
    obtain ⟨hr, hrs⟩ := List.forall_mem_cons.mp hPos
    exact .cons (Nat.mod_lt _ hr) (ih hrs)

theorem compose_lt {rs ds : List Nat} (h : List.Forall₂ (· < ·) ds rs) :
    compose rs ds < rs.prod := by
  induction h with
  | nil => exact Nat.one_pos
  | @cons d r ds rs hd _ ih =>
    calc d * rs.prod + compose rs ds < d * rs.prod + rs.prod := Nat.add_lt_add_left ih _
      _ = (d + 1) * rs.prod := (Nat.succ_mul d rs.prod).symm
      _ ≤ r * rs.prod := Nat.mul_le_mul_right _ hd
      _ = (r :: rs).prod := List.prod_cons.symm

theorem compose_digits (rs : List Nat) (n : Nat) : compose rs (digits rs n) = n % rs.prod := by
  induction rs with
  | nil => exact (Nat.mod_one n).symm
  | cons r rs ih =>
    rw [digits, compose, ih, List.prod_cons, Nat.mul_comm r, Nat.mod_mul, Nat.add_comm,
      Nat.mul_comm rs.prod]

theorem mul_add_lt_mul_add_iff {n d e r s : Nat} (hr : r < n) (hs : s < n) :
    d * n + r < e * n + s ↔ d < e ∨ d = e ∧ r < s := by
  rcases Nat.lt_trichotomy d e with hLess | rfl | hMore
  · have hNext : (d + 1) * n ≤ e * n := Nat.mul_le_mul_right n hLess
    rw [Nat.succ_mul] at hNext
    simp only [hLess, true_or, iff_true]
    omega
  · simp only [Nat.lt_irrefl, false_or, true_and, Nat.add_lt_add_iff_left]
  · have hNext : (e + 1) * n ≤ d * n := Nat.mul_le_mul_right n hMore
    rw [Nat.succ_mul] at hNext
    simp only [Nat.not_lt_of_lt hMore, Nat.ne_of_gt hMore, false_or, false_and, iff_false]
    omega

theorem compose_lt_compose_iff {rs ds es : List Nat} (hd : List.Forall₂ (· < ·) ds rs)
    (he : List.Forall₂ (· < ·) es rs) : compose rs ds < compose rs es ↔ ds < es := by
  induction hd generalizing es with
  | nil =>
    cases he
    simp [compose]
  | @cons d r ds rs _ hds ih =>
    cases he with
    | @cons e _ es _ _ hes =>
      rw [compose, compose, mul_add_lt_mul_add_iff (compose_lt hds) (compose_lt hes), ih hes,
        List.cons_lt_cons_iff]

theorem compose_le_compose {rs qs : List Nat} (h : List.Forall₂ (· ≤ ·) rs qs) (ds : List Nat) :
    compose rs ds ≤ compose qs ds := by
  induction h generalizing ds with
  | nil => exact Nat.le_refl _
  | @cons r q rs qs _ hRest ih =>
    cases ds with
    | nil => exact Nat.le_refl _
    | cons d ds =>
      have hProd : rs.prod ≤ qs.prod := List.Forall₂.prod_le_prod' hRest
      exact Nat.add_le_add (Nat.mul_le_mul_left d hProd) (ih ds)

theorem compose_of_tail_eq {rs qs : List Nat} (hLength : rs.length = qs.length)
    (hTail : rs.tail = qs.tail) (ds : List Nat) : compose rs ds = compose qs ds := by
  cases rs with
  | nil => rw [List.length_eq_zero_iff.mp hLength.symm]
  | cons r rs =>
    cases qs with
    | nil => cases hLength
    | cons q qs =>
      obtain rfl : rs = qs := hTail
      cases ds with
      | nil => rfl
      | cons d ds => rfl

theorem compose_digits_zero (rs qs : List Nat) : compose rs (digits qs 0) = 0 := by
  induction rs generalizing qs with
  | nil => rfl
  | cons r rs ih =>
    cases qs with
    | nil => rfl
    | cons q qs => rw [digits, compose, ih, Nat.zero_div, Nat.zero_mod, Nat.zero_mul]

theorem digits_compose {rs ds : List Nat} (h : List.Forall₂ (· < ·) ds rs) :
    digits rs (compose rs ds) = ds := by
  induction h with
  | nil => rfl
  | @cons d r ds rs hd hds ih =>
    have hRest := compose_lt hds
    rw [compose, digits, Nat.add_comm, digits_add_mul_prod, ih,
      Nat.add_mul_div_right _ _ (Nat.zero_lt_of_lt hRest), Nat.div_eq_of_lt hRest, Nat.zero_add,
      Nat.mod_eq_of_lt hd]

end PipelineForge.Axis
