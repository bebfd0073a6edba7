import GpuPlugin.Device

/-!
# Policy — choosing among devices that are not split

A policy picks whole devices, always including the required ones.
-/

namespace GpuPlugin

/-- The ways of choosing devices. -/
inductive Policy where
  /-- Required devices first, then available ones in their order. -/
  | simple
  deriving DecidableEq, Repr

/-- **The devices a policy picks**: each id once, and no more of them than `size` or than the list
of the required ones is long.

The room that is reserved for `size` devices beforehand is not modelled.  There is never enough of
it for more than `2 ^ 63 / 88` devices: such a size fails before anything is picked, and has an
answer here. -/
def Policy.choose : Policy → List Device → List Device → Nat → List Device
  | .simple, available, required, size =>
    ((required ++ available).eraseDupsBy (·.id == ·.id)).take (max size required.length)

end GpuPlugin
