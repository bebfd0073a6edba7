import GpuPlugin.Explanation

/-!
# Nvml/Library — what the driver's management library answers

A library is given by what it says about itself and about each accelerator, any call of which may
fail with a fault.  Accelerators are looked up by position or by their unique name.
-/

namespace GpuPlugin.Nvml

/-- Why a call of the library fails. -/
inductive Fault where
  | uninitialized
  | invalidArgument
  | notSupported
  | noPermission
  | notFound
  | insufficientPower
  | driverNotLoaded
  | timeout
  | interruptIssue
  | libraryNotFound
  | functionNotFound
  | corruptedInfoRom
  | gpuLost
  | resetRequired
  | operatingSystem
  | versionMismatch
  | inUse
  | insufficientMemory
  | noData
  | eccNotSupported
  | unknown
  deriving DecidableEq, Repr

namespace Fault

/-- The fault that a return code stands for; zero is success. -/
def ofCode : Nat → Option Fault
  | 0 => none
  | 1 => some .uninitialized
  | 2 => some .invalidArgument
  | 3 => some .notSupported
  | 4 => some .noPermission
  | 6 => some .notFound
  | 8 => some .insufficientPower
  | 9 => some .driverNotLoaded
  | 10 => some .timeout
  | 11 => some .interruptIssue
  | 12 => some .libraryNotFound
  | 13 => some .functionNotFound
  | 14 => some .corruptedInfoRom
  | 15 => some .gpuLost
  | 16 => some .resetRequired
  | 17 => some .operatingSystem
  | 18 => some .versionMismatch
  | 19 => some .inUse
  | 20 => some .insufficientMemory
  | 21 => some .noData
  | 22 => some .eccNotSupported
  | _ => some .unknown

def message : Fault → String
  | .uninitialized => "NVML was not first initialized with `Nvml::init()`"
  | .invalidArgument => "a supplied argument was invalid"
  | .notSupported => "the requested operation is not available on the target device"
  | .noPermission => "the current user does not have permission to perform this operation"
  | .notFound => "a query to find an object was unsuccessful"
  | .insufficientPower => "device's external power cables are not properly attached"
  | .driverNotLoaded => "NVIDIA driver is not loaded"
  | .timeout => "the provided timeout was reached"
  | .interruptIssue => "NVIDIA kernel detected an interrupt issue with a device"
  | .libraryNotFound => "a shared library couldn't be found or loaded"
  | .functionNotFound => "a function couldn't be found in a shared library"
  | .corruptedInfoRom => "the infoROM is corrupted"
  | .gpuLost => "device fell off the bus or has otherwise become inacessible"
  | .resetRequired => "device requires a reset before it can be used again"
  | .operatingSystem => "device control has been blocked by the operating system/cgroups"
  | .versionMismatch => "RM detects a driver/library version mismatch"
  | .inUse => "operation cannot be performed because the GPU is currently in use"
  | .insufficientMemory => "insufficient memory"
  | .noData => "no data"
  | .eccNotSupported =>
    "the requested vgpu operation is not available on the target device because ECC is enabled"
  | .unknown => "an internal driver error occured"

end Fault

/-- The answer of a call that fails with the given fault, if there is one. -/
def answer (fault : Option Fault) {α : Type} (value : α) : Except Fault α :=
  match fault with
  | some f => .error f
  | none => .ok value

/-- A set of kinds of events, as bits. -/
abbrev EventMask := Nat

/-- Whether a mask has the bit of critical errors. -/
def isCriticalMask (mask : EventMask) : Bool := mask.testBit 3

/-- What the library says about one accelerator. -/
structure Gpu where
  uuid : String
  memoryBytes : Nat := 0
  minor : Nat := 0
  /-- The kinds of events the accelerator can report. -/
  eventTypes : EventMask := 8
  handleFault : Option Fault := none
  uuidFault : Option Fault := none
  memoryFault : Option Fault := none
  minorFault : Option Fault := none
  lookupFault : Option Fault := none
  eventTypesFault : Option Fault := none
  watchFault : Option Fault := none
  deriving DecidableEq, Repr

/-- **A management library**, by its answers. -/
structure Library where
  initFault : Option Fault := none
  countFault : Option Fault := none
  eventSetFault : Option Fault := none
  /-- How many accelerators the library claims to have. -/
  count : Nat
  gpus : List Gpu
  deriving DecidableEq, Repr

namespace Library

/-- The accelerator at a position. -/
def gpuAt (lib : Library) (index : Nat) : Except Fault Gpu :=
  match lib.gpus[index]? with
  | some g => answer g.handleFault g
  | none => .error .invalidArgument

/-- The first accelerator with a unique name. -/
def gpuNamed (lib : Library) (uuid : String) : Except Fault Gpu :=
  match lib.gpus.find? (·.uuid == uuid) with
  | some g => answer g.lookupFault g
  | none => .error .notFound

end Library

/-- What was being done when a call failed. -/
inductive Attempt where
  | init
  | count
  | getDevice (index : Nat)
  | queryEvents (id : String)
  | watch (id : String)
  deriving DecidableEq, Repr

def Attempt.message : Attempt → String
  | .init => "failed to initialize NVML"
  | .count => "failed to count devices"
  | .getDevice index => s!"failed to get device {index}"
  | .queryEvents id => s!"failed to query events of {id}"
  | .watch id => s!"failed to watch {id}"

/-- A failed call, and the attempt it belongs to where one is named. -/
structure Error where
  attempt : Option Attempt
  fault : Fault
  deriving DecidableEq, Repr

def Error.explanation (e : Error) : Explanation :=
  match e.attempt with
  | some a => [a.message, e.fault.message]
  | none => [e.fault.message]

/-- A call made as part of an attempt. -/
def attempting (a : Attempt) {α : Type} : Except Fault α → Except Error α
  | .ok v => .ok v
  | .error f => .error ⟨some a, f⟩

/-- A call made on its own. -/
def calling {α : Type} : Except Fault α → Except Error α
  | .ok v => .ok v
  | .error f => .error ⟨none, f⟩

end GpuPlugin.Nvml
