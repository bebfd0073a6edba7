import GpuPlugin.Device
import GpuPlugin.Nvml.Library

/-!
# Nvml/Enumeration — listing the accelerators of a node

The list is made in the library's order.  One failing call is enough to have no list at all; which
one is told is the first in the order count, then position by position handle, name, memory, minor
number.
-/

namespace GpuPlugin.Nvml

/-- Bytes in one MiB. -/
def bytesPerMib : Nat := 1024 * 1024

/-- Initialise the library. -/
def Library.init (lib : Library) : Except Error Unit :=
  attempting .init (answer lib.initFault ())

/-- The device at a position. -/
def Library.deviceAt (lib : Library) (index : Nat) : Except Error Device := do
  let gpu ← attempting (.getDevice index) (lib.gpuAt index)
  let uuid ← calling (answer gpu.uuidFault gpu.uuid)
  let bytes ← calling (answer gpu.memoryFault gpu.memoryBytes)
  let minor ← calling (answer gpu.minorFault gpu.minor)
  return ⟨uuid, toString index, bytes / bytesPerMib, [s!"/dev/nvidia{minor}"], .healthy⟩

/-- **The devices of the node**, all of them or none. -/
def Library.devices (lib : Library) : Except Error (List Device) := do
  let count ← attempting .count (answer lib.countFault lib.count)
  (List.range count).mapM lib.deviceAt

end GpuPlugin.Nvml
