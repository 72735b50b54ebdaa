import PipelineForge.Device.Call
import PipelineForge.Device.Result
import PipelineForge.Pipeline

/-!
# Devices

Compiling goes through a driver, which answers a call with a result code and a handle. A device
numbers its calls from one and answers each with a result code that was laid down for that number;
the default code is success. It remembers the calls and the handles that it was told to destroy.
-/

namespace PipelineForge

/-- The driver cache that goes with each call, and how the device answers a call: with a result
code, and with the handle that holds if the code is success. -/
structure Driver (δ : Type) where
  cache : UInt64
  create : δ → DeviceCall → δ × Int32 × UInt64

/-- Compiles a blueprint with one call. A blueprint without a layout is refused before the
device hears of it. A refusal is a chain of causes, the outermost first. -/
def Driver.compile {δ : Type} (driver : Driver δ) (d : δ) (b : Blueprint)
    (index : Axis.CompositeIndex) : δ × Except (List String) Pipeline :=
  if b.layout = 0 then (d, .error ["pipeline layout is not set"])
  else
    let (d', code, handle) := driver.create d (.ofBlueprint driver.cache b)
    if code = 0 then (d', .ok ⟨handle, b.layout, index⟩)
    else
      (d', .error
        [s!"vkCreateGraphicsPipelines failed for pipeline {index.text}", resultText code])

structure Device where
  driverCache : UInt64 := 0
  /-- Result codes by call number. -/
  results : List (Nat × Int32) := []
  /-- All calls so far, the oldest first. -/
  calls : List DeviceCall := []
  /-- All destroyed handles so far, the oldest first. -/
  destroyed : List UInt64 := []
deriving DecidableEq

namespace Device

def handleOf (call : Nat) : UInt64 := UInt64.ofNat (1000 + call)

def resultOf (d : Device) (call : Nat) : Int32 := (d.results.lookup call).getD 0

def create (d : Device) (c : DeviceCall) : Device × Int32 × UInt64 :=
  let call := d.calls.length + 1
  ({ d with calls := d.calls ++ [c] }, d.resultOf call, handleOf call)

def driver (d : Device) : Driver Device := ⟨d.driverCache, create⟩

def compile (d : Device) (b : Blueprint) (index : Axis.CompositeIndex) :
    Device × Except (List String) Pipeline :=
  d.driver.compile d b index

def destroy (d : Device) (handle : UInt64) : Device :=
  { d with destroyed := d.destroyed ++ [handle] }

end Device

end PipelineForge
