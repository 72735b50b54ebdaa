import PipelineForge.Characteristic.Basic

/-!
# Inboxes

The inbox of a factory takes the characteristics that are registered with it until the
registration is closed. A second characteristic of the same name is refused and leaves the
factory doomed: the first such refusal stays in the inbox as the factory's failure.
-/

namespace PipelineForge.Factory

structure Inbox where
  /-- Registered and not yet taken out, in the order of registration. -/
  pending : List Characteristic := []
  /-- All names ever registered. -/
  names : List String := []
  closed : Bool := false
  failed : Option ForgeError := none

namespace Inbox

inductive Admission where
  | added
  | late
  | duplicate
deriving DecidableEq

/-- What the caller of a registration is answered. -/
def Admission.refusal (name : String) : Admission → Option ForgeError
  | added => none
  | late => some (.lateRegistration name)
  | duplicate => some (.duplicateRegistration name)

def Admission.wakes : Admission → Bool
  | late => false
  | _ => true

def register (i : Inbox) (c : Characteristic) : Inbox × Admission :=
  if i.closed then (i, .late)
  else if c.name ∈ i.names then
    ({ i with failed := i.failed.or (some (.duplicateRegistration c.name)) }, .duplicate)
  else
    ({ i with pending := i.pending ++ [c], names := i.names ++ [c.name] }, .added)

def close (i : Inbox) : Inbox := { i with closed := true }

def takeAll (i : Inbox) : Inbox × List Characteristic := ({ i with pending := [] }, i.pending)

end Inbox

end PipelineForge.Factory
