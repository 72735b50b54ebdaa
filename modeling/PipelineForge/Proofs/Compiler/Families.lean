import Mathlib.Logic.Function.Basic
import PipelineForge.Proofs.Compiler.Conduct

/-!
# Families of compilers

In a family every hub has a compiler of its own: an order of one hub is seen by the compiler of this
hub and by no other. A private compiler neither looks at the caches nor touches them, so that its
answers depend on nothing but what it was told before.
-/

namespace PipelineForge

namespace Compiler

/-- The answers do not depend on the caches, and leave them alone. -/
structure Private {κ : Type} (compiler : Compiler κ) : Prop where
  leaves : compiler.LeavesCaches
  ignores : ∀ k r r' hub ticket o,
    (compiler.answer k r hub ticket o).1 = (compiler.answer k r' hub ticket o).1 ∧
      (compiler.answer k r hub ticket o).2.2 = (compiler.answer k r' hub ticket o).2.2

variable {κ : Nat → Type}

def family (parts : (i : Nat) → Compiler (κ i)) : Compiler ((i : Nat) → κ i) where
  accept := fun k i o =>
    let (part, ticket) := (parts i).accept (k i) i o
    (Function.update k i part, ticket)
  holds := fun k i ticket => (parts i).holds (k i) i ticket
  answer := fun k registry i ticket o =>
    let (part, registry', verdict) := (parts i).answer (k i) registry i ticket o
    (Function.update k i part, registry', verdict)
  destroy := fun k i p => Function.update k i ((parts i).destroy (k i) i p)

variable {parts : (i : Nat) → Compiler (κ i)}

theorem family_leavesCaches (hParts : ∀ i, (parts i).Private) : (family parts).LeavesCaches :=
  fun k registry i ticket o => (hParts i).leaves (k i) registry i ticket o

section Orders

variable {i j : Nat} {k k' : (i : Nat) → κ i}

theorem family_accept_of_ne (hOther : j ≠ i) (o : CompileOrder) :
    ((family parts).accept k i o).1 j = k j := Function.update_of_ne hOther _ k

theorem family_answer_of_ne (hOther : j ≠ i) (r : Registry) (ticket : Nat) (o : CompileOrder) :
    ((family parts).answer k r i ticket o).1 j = k j := Function.update_of_ne hOther _ k

theorem family_destroy_of_ne (hOther : j ≠ i) (p : Pipeline) :
    (family parts).destroy k i p j = k j := Function.update_of_ne hOther _ k

variable (parts) in
theorem family_accept_congr (hPart : k i = k' i) (o : CompileOrder) :
    ((family parts).accept k i o).1 i = ((family parts).accept k' i o).1 i ∧
      ((family parts).accept k i o).2 = ((family parts).accept k' i o).2 := by
  simp [family, hPart]

variable (parts) in
theorem family_holds_congr (hPart : k i = k' i) (ticket : Nat) :
    (family parts).holds k i ticket = (family parts).holds k' i ticket := by
  simp [family, hPart]

theorem family_answer_congr (hPrivate : (parts i).Private) (hPart : k i = k' i)
    (r r' : Registry) (ticket : Nat) (o : CompileOrder) :
    ((family parts).answer k r i ticket o).1 i = ((family parts).answer k' r' i ticket o).1 i ∧
      ((family parts).answer k r i ticket o).2.2 =
        ((family parts).answer k' r' i ticket o).2.2 := by
  simpa [family, hPart] using hPrivate.ignores (k' i) r r' i ticket o

variable (parts) in
theorem family_destroy_congr (hPart : k i = k' i) (p : Pipeline) :
    (family parts).destroy k i p i = (family parts).destroy k' i p i := by simp [family, hPart]

end Orders

end Compiler

theorem Device.isPrivate : Device.compiler.Private := by
  refine ⟨Device.leavesCaches, fun d r r' hub ticket o => ?_⟩
  simp only [Device.compiler]
  split
  · exact ⟨rfl, rfl⟩
  · exact ⟨rfl, rfl⟩

end PipelineForge
