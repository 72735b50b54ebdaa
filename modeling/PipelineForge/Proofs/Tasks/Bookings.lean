import PipelineForge.Proofs.Shelf
import PipelineForge.Tasks.Bookings

/-!
# Books

A book holds a ticket from the booking until the release, and no two bookings share a ticket. The
names that are booked make no difference here.
-/

namespace PipelineForge.Tasks.Bookings

variable {b : Bookings}

theorem holds_iff {t : Ticket} : b.Holds t ↔ ∃ name, b.shelf.get? t.key = some name :=
  Shelf.mem_keys_iff

theorem ticket_add (b : Bookings) (name : String) : (b.add name).2 = ⟨b.shelf.nextKey⟩ :=
  congrArg Ticket.mk (b.shelf.key_add name)

theorem holds_add (hValid : b.shelf.Valid) (name : String) (t : Ticket) :
    (b.add name).1.Holds t ↔ t = (b.add name).2 ∨ b.Holds t := by
  have hTicket : t = ⟨b.shelf.nextKey⟩ ↔ t.key = b.shelf.nextKey := by
    cases t
    exact Ticket.mk.injEq _ _ ▸ Iff.rfl
  rw [ticket_add, hTicket, holds_iff, holds_iff]
  change (∃ _, (b.shelf.add name).1.get? t.key = _) ↔ _
  rw [hValid.get?_add]
  split
  · next hKey => exact ⟨fun _ => .inl hKey, fun _ => ⟨name, rfl⟩⟩
  · next hKey => exact ⟨.inr, fun h => h.resolve_left hKey⟩

theorem not_holds_new (hValid : b.shelf.Valid) (name : String) : ¬ b.Holds (b.add name).2 := by
  rw [ticket_add, holds_iff, hValid.get?_nextKey]
  exact nofun

theorem holds_release (hValid : b.shelf.Valid) (t u : Ticket) :
    (b.release t).Holds u ↔ u ≠ t ∧ b.Holds u := by
  have hTicket : u ≠ t ↔ u.key ≠ t.key := by
    cases t
    cases u
    exact not_congr (Ticket.mk.injEq _ _ ▸ Iff.rfl)
  rw [hTicket, holds_iff, holds_iff]
  change (∃ _, (b.shelf.remove t.key).get? u.key = _) ↔ _
  rw [hValid.get?_remove]
  split
  · next hKey => exact ⟨nofun, fun h => absurd hKey h.1⟩
  · next hKey => exact ⟨fun h => ⟨hKey, h⟩, fun h => h.2⟩

theorem isIdle_iff : b.isIdle = true ↔ ∀ t, ¬ b.Holds t := by
  rw [isIdle, Shelf.isEmpty, List.isEmpty_iff]
  constructor
  · intro hEmpty t hHolds
    rw [Holds, Shelf.keys, hEmpty] at hHolds
    cases hHolds
  · intro hNone
    apply List.eq_nil_iff_forall_not_mem.mpr
    intro entry hMem
    exact hNone ⟨entry.1⟩ (List.mem_map_of_mem hMem)

theorem isIdle_iff_size : b.isIdle = true ↔ b.size = 0 := by
  rw [isIdle, Shelf.isEmpty, List.isEmpty_iff, size, Shelf.size, List.length_eq_zero_iff]

end PipelineForge.Tasks.Bookings
