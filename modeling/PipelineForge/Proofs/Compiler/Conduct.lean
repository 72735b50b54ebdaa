import PipelineForge.Compiler.Instances

/-!
# The conduct of compilers

What can be asked of a compiler: that its pipelines carry the index that was ordered, and that it
touches no cache. A device does both. An audited compiler does what the compiler does and keeps a
ledger of what it returned and of what it was told to destroy.
-/

namespace PipelineForge

namespace Compiler

variable {κ : Type}

/-- Pipelines carry the index that was ordered. -/
def KeepsIndex (compiler : Compiler κ) : Prop :=
  ∀ k registry hub ticket o k' registry' p,
    compiler.answer k registry hub ticket o = (k', registry', .made p) → p.index = o.index

/-- Compiling touches no cache. -/
def LeavesCaches (compiler : Compiler κ) : Prop :=
  ∀ k registry hub ticket o, (compiler.answer k registry hub ticket o).2.1 = registry

theorem LeavesCaches.eq {compiler : Compiler κ} (h : compiler.LeavesCaches) {k k' : κ}
    {registry registry' : Registry} {hub ticket : Nat} {o : CompileOrder} {verdict : Verdict}
    (hAnswer : compiler.answer k registry hub ticket o = (k', registry', verdict)) :
    registry' = registry := by
  rw [← h k registry hub ticket o, hAnswer]

end Compiler

/-- What a compiler returned and what it was told to destroy, the oldest first. -/
structure Ledger where
  made : List Pipeline := []
  destroyed : List Pipeline := []

def Verdict.pipelines : Verdict → List Pipeline
  | made p => [p]
  | _ => []

namespace Compiler

variable {κ : Type}

def audited (compiler : Compiler κ) : Compiler (κ × Ledger) where
  accept := fun (k, ledger) hub o =>
    let (k', ticket) := compiler.accept k hub o
    ((k', ledger), ticket)
  holds := fun (k, _) => compiler.holds k
  answer := fun (k, ledger) registry hub ticket o =>
    let (k', registry', verdict) := compiler.answer k registry hub ticket o
    ((k', { ledger with made := ledger.made ++ verdict.pipelines }), registry', verdict)
  destroy := fun (k, ledger) hub p =>
    (compiler.destroy k hub p, { ledger with destroyed := ledger.destroyed ++ [p] })

variable {compiler : Compiler κ}

theorem audited_leavesCaches (h : compiler.LeavesCaches) : compiler.audited.LeavesCaches :=
  fun k registry hub ticket o => h k.1 registry hub ticket o

theorem audited_accept {k k' : κ × Ledger} {hub ticket : Nat} {o : CompileOrder}
    (h : compiler.audited.accept k hub o = (k', ticket)) : k'.2 = k.2 := by
  cases h
  rfl

theorem audited_answer {k k' : κ × Ledger} {registry registry' : Registry} {hub ticket : Nat}
    {o : CompileOrder} {verdict : Verdict}
    (h : compiler.audited.answer k registry hub ticket o = (k', registry', verdict)) :
    k'.2.made = k.2.made ++ verdict.pipelines ∧ k'.2.destroyed = k.2.destroyed := by
  cases h
  exact ⟨rfl, rfl⟩

theorem audited_answer_none {k k' : κ × Ledger} {registry registry' : Registry} {hub ticket : Nat}
    {o : CompileOrder} {verdict : Verdict}
    (h : compiler.audited.answer k registry hub ticket o = (k', registry', verdict))
    (hNone : verdict.pipelines = []) : k'.2 = k.2 := by
  cases h
  simp [hNone]

theorem audited_destroyAll (k : κ × Ledger) (hub : Nat) (ps : List Pipeline) :
    (ps.foldl (fun k p => compiler.audited.destroy k hub p) k).2 =
      { k.2 with destroyed := k.2.destroyed ++ ps } := by
  induction ps generalizing k with
  | nil => simp
  | cons p ps ih =>
    rw [List.foldl_cons, ih]
    simp [audited]

end Compiler

namespace Device

theorem compile_eq_ok {d d' : Device} {b : Blueprint} {index : Axis.CompositeIndex}
    {p : Pipeline} (h : d.compile b index = (d', .ok p)) : p.index = index := by
  simp only [Device.compile, Driver.compile] at h
  split at h
  · cases h
  split at h
  · cases h
    rfl
  · cases h

theorem keepsIndex : Device.compiler.KeepsIndex := by
  intro k registry hub ticket o k' registry' p hAnswer
  simp only [Device.compiler] at hAnswer
  split at hAnswer
  · next d q hCompile =>
    cases hAnswer
    exact Device.compile_eq_ok hCompile
  · cases hAnswer

theorem leavesCaches : Device.compiler.LeavesCaches := by
  intro k registry hub ticket o
  simp only [Device.compiler]
  split <;> rfl

end Device

end PipelineForge
