import GpuPlugin.Proofs.Wire.Kinds

/-!
# Proofs/Wire/Exchange — what the plugin and the kubelet understand of each other

A message is understood as it was meant (`RoundTrips`), and two programs that know different
versions of the interface still understand each other (`Compatible`): a message that is sent in
parts is merged, and a field that one of them does not know is passed over by it.

A machine counts the bytes that it holds in words, and the length of a block is written as a word.  So
the encodings that are spoken of are no longer than a word can say.
-/

namespace GpuPlugin.Wire

/-- **A property of all kinds of messages that the plugin and the kubelet exchange.** -/
structure Exchanged (P : (M : Type) → [Codec M] → [Message M] → Prop) : Prop where
  registerRequest : P RegisterRequest
  options : P Options
  empty : P EmptyMessage
  deviceList : P DeviceList
  preStartRequest : P PreStartRequest
  allocateRequest : P AllocateRequest
  allocateResponse : P AllocateResponse
  preferredRequest : P PreferredRequest
  preferredResponse : P PreferredResponse

/-- What holds of all kinds of messages with rules holds of those that are exchanged. -/
theorem Exchanged.of_forall {P : (M : Type) → [Codec M] → [Message M] → Prop}
    (h : ∀ (M : Type) [Codec M] [Message M], P M) : Exchanged P where
  registerRequest := h RegisterRequest
  options := h Options
  empty := h EmptyMessage
  deviceList := h DeviceList
  preStartRequest := h PreStartRequest
  allocateRequest := h AllocateRequest
  allocateResponse := h AllocateResponse
  preferredRequest := h PreferredRequest
  preferredResponse := h PreferredResponse

section Message

variable (M : Type) [Codec M] [Message M]

/-! ## Round trips -/

/-- **A message is understood as it was meant**, in whatever order the entries of its maps are
sent. -/
structure RoundTrips : Prop where
  /-- What is written is one of the encodings of the message. -/
  encodes_encode : ∀ m : M, Encodes m (encode m)
  /-- An encoding is decoded, and as the message that it encodes. -/
  decode_eq_some : ∀ (m : M) (bs : Bytes), Encodes m bs → bs.length < UInt64.size →
    decode bs = some m
  /-- Different messages have no encoding in common. -/
  injective : ∀ (m m' : M) (bs : Bytes), Encodes m bs → Encodes m' bs → bs.length < UInt64.size →
    m = m'

variable {M} in
theorem decode_of_encodes {m : M} {bs : Bytes} (h : Encodes m bs)
    (hlength : bs.length < UInt64.size) : decode bs = some m :=
  (decodeOnto_of_encodes h hlength).trans (congrArg some (merge_blank m))

theorem roundTrips : RoundTrips M where
  encodes_encode := encodes_encode
  decode_eq_some _ _ h hlength := decode_of_encodes h hlength
  injective m m' bs h h' hlength := by
    have hm := decode_of_encodes h hlength
    rw [decode_of_encodes h' hlength] at hm
    exact (Option.some.inj hm).symm

/-! ## Parts and unknown fields -/

/-- **Other versions of the interface are understood.** -/
structure Compatible : Prop where
  /-- Two encodings one after the other are decoded as the merged message. -/
  decode_append : ∀ (m m' : M) (bs bs' : Bytes), Encodes m bs → Encodes m' bs' →
    bs.length < UInt64.size → bs'.length < UInt64.size →
    decode (bs ++ bs') = some (merge m m')
  /-- Unknown fields can be put in around every field of an encoding. -/
  padded_self : ∀ (m : M) (bs : Bytes), Encodes m bs → Padded M bs bs
  /-- An encoding with unknown fields in it is decoded as the message that was encoded. -/
  decode_eq_some_of_padded : ∀ (m : M) (bs bs' : Bytes), Encodes m bs → Padded M bs bs' →
    bs'.length < UInt64.size → decode bs' = some m
  /-- Unknown fields make no difference in anything else either. -/
  decode_eq_of_padded : ∀ bs bs' : Bytes, Padded M bs bs' → bs'.length < UInt64.size →
    decode (M := M) bs' = decode bs

variable {M} in
theorem length_lt_of_padded {bs bs' : Bytes} (h : Padded M bs bs')
    (hlength : bs'.length < UInt64.size) : bs.length < UInt64.size :=
  Nat.lt_of_le_of_lt (Layout.Rules.length_le_of_padded h) hlength

theorem compatible : Compatible M where
  decode_append m m' bs bs' h h' hlength hlength' := by
    rw [decode, decodeOnto_append_of_encodes h hlength, merge_blank]
    exact decodeOnto_of_encodes h' hlength'
  padded_self _ _ h := Layout.Rules.Encodes.padded Codec.sound h
  decode_eq_some_of_padded m bs bs' h hpadded hlength := by
    rw [decode, decodeOnto_of_padded hpadded hlength]
    exact decode_of_encodes h (length_lt_of_padded hpadded hlength)
  decode_eq_of_padded _ _ h hlength := decodeOnto_of_padded h hlength

end Message

/-- **What is exchanged is understood as it was meant.** -/
theorem exchanged_roundTrips : Exchanged @RoundTrips := .of_forall fun M => roundTrips M

example : encode (AllocateRequest.mk [⟨[]⟩, ⟨[""]⟩]) = [10, 0, 10, 2, 10, 0] := by cbv

example : encode (RegisterRequest.mk "" "" "" none) = [] := by cbv

example : encode (RegisterRequest.mk "" "" "" (some ⟨false, false⟩)) = [34, 0] := by cbv

/-- **What is exchanged is understood between different versions.** -/
theorem exchanged_compatible : Exchanged @Compatible := .of_forall fun M => compatible M

example (a b : RegisterRequest) : merge a b = {
    version := if b.version = "" then a.version else b.version
    endpoint := if b.endpoint = "" then a.endpoint else b.endpoint
    resourceName := if b.resourceName = "" then a.resourceName else b.resourceName
    options := mergeOptional a.options b.options } := rfl

example (a b : ContainerAllocateResponse) : merge a b = {
    envs := a.envs.union b.envs
    mounts := a.mounts ++ b.mounts
    devices := a.devices ++ b.devices
    annotations := a.annotations.union b.annotations
    cdiDevices := a.cdiDevices ++ b.cdiDevices } := rfl

end GpuPlugin.Wire
