import GpuPlugin.Text.Blank
import GpuPlugin.Text.Numeral

/-!
# Nvml/Checks — which critical errors are overlooked

Some errors are the fault of a program and say nothing about the device.  The user can add to them,
or switch all checks off, with a comma-separated list; entries that mean nothing are passed over.
-/

namespace GpuPlugin.Nvml

/-- The variable that holds the user's list. -/
def checksVariable : String := "DP_DISABLE_HEALTHCHECKS"

/-- The numbers of the errors that programs cause: graphics engine exception, memory page fault,
stopped processing, preemptive cleanup and video processor exception. -/
def applicationXids : List Nat := [13, 31, 43, 45, 68]

/-- The number of a critical error, where the driver gives one. -/
inductive Xid where
  | number (n : Nat)
  | unknown
  deriving DecidableEq, Repr

/-- The number that stands for an error without a number. -/
def Xid.ofNumber (n : Nat) : Xid := if n = 999 then .unknown else .number n

/-- What one entry of the user's list says. -/
inductive ChecksEntry where
  | disableAll
  | skip (xid : Nat)
  | nothing
  deriving DecidableEq, Repr

/-- An entry is read without the white space around it and without regard to ASCII case. -/
def ChecksEntry.read (cs : List Char) : ChecksEntry :=
  let word := (Text.trimBlank cs).map Char.toLower
  if word = ['a', 'l', 'l'] ∨ word = ['x', 'i', 'd', 's'] then .disableAll
  else
    match Text.word64? word with
    | some xid => .skip xid
    | none => .nothing

def ChecksEntry.xid? : ChecksEntry → Option Nat
  | .skip xid => some xid
  | _ => none

/-- **The settings of the health check.** -/
structure Checks where
  disabled : Bool
  /-- The numbers that do not count, in any order and perhaps repeated. -/
  skipped : List Nat
  deriving DecidableEq, Repr

namespace Checks

def ofEntries (entries : List ChecksEntry) : Checks :=
  ⟨entries.contains .disableAll, applicationXids ++ entries.filterMap ChecksEntry.xid?⟩

/-- The settings that a value of the variable asks for; without a value there are no entries. -/
def read (value : Option String) : Checks :=
  ofEntries (((value.getD "").toList.splitOn ',').map ChecksEntry.read)

/-- Whether an error number does not count. -/
def skips (c : Checks) (xid : Nat) : Bool := c.skipped.contains xid

/-- Whether an error makes a device unhealthy; one without a number always does. -/
def isCritical (c : Checks) : Xid → Bool
  | .number n => !c.skips n
  | .unknown => true

/-- The numbers that do not count, each once and in order. -/
def skippedInOrder (c : Checks) : List Nat :=
  c.skipped.eraseDups.mergeSort (fun a b => decide (a ≤ b))

end Checks

end GpuPlugin.Nvml
