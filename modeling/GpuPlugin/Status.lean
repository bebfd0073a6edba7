import GpuPlugin.Text.Percent

/-!
# Status — how a refused call is told to its caller

A call that is refused ends with a code and a message.  The message travels as a header, in which
some octets are spelled by percent signs, and the caller undoes all such spellings.  A percent sign
itself is sent as it is: a message with one may reach the caller as another message, and one whose
octets are then no text is lost together with the code.  A caller takes no more headers than
`headerLimit` allows; with a message that is longer the call fails as a whole.
-/

namespace GpuPlugin

/-- The kind of status that a refused call ends with. -/
inductive StatusCode where
  | invalidArgument
  | unimplemented
  | internal
  | unknown
  deriving DecidableEq, Repr

/-- **The status of a refused call.** -/
structure Status where
  code : StatusCode
  message : String
  deriving DecidableEq, Repr

namespace Status

/-- The octets that are spelled in a header. -/
def isSpecial (b : UInt8) : Bool :=
  b < 0x20 || 0x7f ≤ b || (Text.octetsOf " \"#<>?\x60\x7b\x7d").contains b

/-- The message as a header carries it. -/
def header (s : Status) : Text.Octets := Text.escape isSpecial (Text.octetsOf s.message)

/-- The size that the headers of an answer have to stay below. -/
def headerLimit : Nat := 16384

/-- The size of all headers of a refusal with an empty message: the octets of each name and value,
and 32 more for each header. -/
def headersWithoutMessage : Nat := 255

/-- What a caller makes of a code and a header. -/
def received (code : StatusCode) (header : Text.Octets) : Status :=
  if headersWithoutMessage + header.length < headerLimit then
    match Text.decode (Text.unescape header) with
    | .ok message => ⟨code, message⟩
    | .error fault => ⟨.unknown, "Error deserializing status message header: " ++ fault.message⟩
  else ⟨.internal, "h2 protocol error: http2 error"⟩

/-- **The status as the caller sees it.** -/
def delivered (s : Status) : Status := received s.code s.header

end Status

end GpuPlugin
