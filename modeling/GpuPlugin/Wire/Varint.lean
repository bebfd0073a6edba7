/-!
# Wire/Varint — numbers in groups of seven bits

A number is written as its base-128 digits, the lowest first, each in one byte whose top bit says
that another byte follows.  Reading takes at most ten bytes and nothing above 64 bits.
-/

namespace GpuPlugin.Wire

/-- A message or a part of one, as it is sent. -/
abbrev Bytes := List UInt8

namespace Varint

/-- **The bytes of a number.** -/
def write (n : Nat) : Bytes :=
  if n < 128 then [UInt8.ofNat n]
  else UInt8.ofNat (n % 128 + 128) :: write (n / 128)
termination_by n

/-- Read a number whose first `k` bytes are read already; the rest of the input is kept. -/
def readFrom (k : Nat) : Bytes → Option (Nat × Bytes)
  | [] => none
  | b :: bs =>
    if b < 128 then
      if k = 9 ∧ 2 ≤ b then none else some (b.toNat, bs)
    else if 9 ≤ k then none
    else
      match readFrom (k + 1) bs with
      | some (high, rest) => some (b.toNat - 128 + 128 * high, rest)
      | none => none

/-- **Read a number** from the front of the input. -/
def read : Bytes → Option (Nat × Bytes) := readFrom 0

theorem length_readFrom {k n : Nat} {bs rest : Bytes} (h : readFrom k bs = some (n, rest)) :
    rest.length < bs.length := by
  induction bs generalizing k n with
  | nil => simp [readFrom] at h
  | cons b bs ih =>
    simp only [readFrom] at h
    split at h
    · split at h
      · cases h
      · simp only [Option.some.injEq, Prod.mk.injEq] at h
        simp [← h.2]
    · split at h
      · cases h
      · split at h
        next hr =>
          simp only [Option.some.injEq, Prod.mk.injEq] at h
          have := ih (h.2 ▸ hr)
          simp only [List.length_cons]
          omega
        · cases h

theorem length_read {n : Nat} {bs rest : Bytes} (h : read bs = some (n, rest)) :
    rest.length < bs.length :=
  length_readFrom h

end Varint

end GpuPlugin.Wire
