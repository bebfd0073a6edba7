/-!
# Text/Utf8 — texts as octets, and where octets fail to be a text

A character takes up a leading octet and up to three more.  Octets are read from the front; the
first sequence that is no character is a fault, which tells the octet it starts at and how many of
its octets could still have begun a character.
-/

namespace GpuPlugin.Text

abbrev Octets := List UInt8

/-- The octets of a text. -/
def octetsOf (s : String) : Octets := s.toUTF8.data.toList

/-- Where octets cease to be a text. -/
structure Utf8Fault where
  /-- How many octets before the fault make up a text. -/
  index : Nat
  /-- How many octets are out of place; none are if more were to come. -/
  length : Option Nat
  deriving DecidableEq, Repr

def Utf8Fault.message (f : Utf8Fault) : String :=
  match f.length with
  | some n => s!"invalid utf-8 sequence of {n} bytes from index {f.index}"
  | none => s!"incomplete utf-8 byte sequence from index {f.index}"

/-- A character that is being read: the index of its first octet, the bits read so far, how many
octets are still to come, and the bounds of the next one. -/
structure Begun where
  start : Nat
  bits : Nat
  missing : Nat
  low : UInt8 := 0x80
  high : UInt8 := 0xbf
  deriving DecidableEq, Repr

/-- The character that an octet begins.  The second octet is bounded so that every character has one
spelling, surrogates have none, and no number is too large. -/
def Begun.ofLead? (start : Nat) (lead : UInt8) : Option Begun :=
  let n := lead.toNat
  if lead < 0x80 then some ⟨start, n, 0, 0x80, 0xbf⟩
  else if lead < 0xc2 then none
  else if lead < 0xe0 then some ⟨start, n - 0xc0, 1, 0x80, 0xbf⟩
  else if lead < 0xf0 then
    some ⟨start, n - 0xe0, 2, if lead = 0xe0 then 0xa0 else 0x80,
      if lead = 0xed then 0x9f else 0xbf⟩
  else if lead < 0xf5 then
    some ⟨start, n - 0xf0, 3, if lead = 0xf0 then 0x90 else 0x80,
      if lead = 0xf4 then 0x8f else 0xbf⟩
  else none

/-- The characters that octets spell, from the octet of index `i` on, when one may have been begun.
-/
def decodeFrom : Nat → Option Begun → Octets → Except Utf8Fault (List Char)
  | _, none, [] => .ok []
  | _, some p, [] => .error ⟨p.start, none⟩
  | i, none, b :: rest =>
    match Begun.ofLead? i b with
    | none => .error ⟨i, some 1⟩
    | some p =>
      if p.missing = 0 then (decodeFrom (i + 1) none rest).map (Char.ofNat p.bits :: ·)
      else decodeFrom (i + 1) (some p) rest
  | i, some p, b :: rest =>
    if p.low ≤ b ∧ b ≤ p.high then
      let bits := 64 * p.bits + (b.toNat - 0x80)
      if p.missing = 1 then (decodeFrom (i + 1) none rest).map (Char.ofNat bits :: ·)
      else decodeFrom (i + 1) (some ⟨p.start, bits, p.missing - 1, 0x80, 0xbf⟩) rest
    else .error ⟨p.start, some (i - p.start)⟩

/-- **The text that octets spell**, or where they fail to be one. -/
def decode (octets : Octets) : Except Utf8Fault String :=
  (decodeFrom 0 none octets).map String.ofList

/-- The text that octets spell, if they do. -/
def textOf? (octets : Octets) : Option String := (decode octets).toOption

end GpuPlugin.Text
