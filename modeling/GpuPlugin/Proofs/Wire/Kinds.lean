import GpuPlugin.Proofs.Labels.Union
import GpuPlugin.Proofs.Traversal
import GpuPlugin.Proofs.Wire.Layout
import GpuPlugin.Wire.Messages

/-!
# Proofs/Wire/Kinds — the rules of each kind of field

A value that is not sent when it is blank is replaced by one that is sent later, lists are put
together, maps are laid over each other, and a message that may be missing is merged with one that
is sent later.  A text or a number is sent in one way only, a message as whatever its own rules
allow, and the entries of a map in any order.
-/

namespace GpuPlugin.Wire

/-! ## Payloads -/

theorem text?_textBytes (s : String) : (Payload.block (textBytes s)).text? = some s := by
  rw [Payload.text?, textBytes, Array.toArray_toList, String.fromUTF8?, dif_pos s.isValidUTF8]
  rfl

theorem isPlain_ofInt (n : Int) : (Payload.ofInt n).IsPlain := by
  have hpos : (0 : Int) < UInt64.size := by decide
  have hlt := Int.emod_lt_of_pos n hpos
  have hnonneg := Int.emod_nonneg n hpos.ne'
  rw [Payload.ofInt, Payload.IsPlain]
  omega

/-- A whole number is the residue of what it is sent as. -/
theorem int64?_ofInt (n : Int64) : (Payload.ofInt n.toInt).int64? = some n := by
  have hnonneg : 0 ≤ n.toInt % UInt64.size := Int.emod_nonneg _ (by decide)
  refine congrArg some (Int64.toInt_inj.mp ?_)
  rw [Int64.toInt_ofNat', Int.toNat_of_nonneg hnonneg]
  exact (Int.emod_bmod n.toInt UInt64.size).trans n.toInt_bmod

theorem int32?_ofInt (n : Int32) : (Payload.ofInt n.toInt).int32? = some n := by
  have hnonneg : 0 ≤ n.toInt % UInt64.size := Int.emod_nonneg _ (by decide)
  refine congrArg some (Int32.toInt_inj.mp ?_)
  rw [Int32.toInt_ofNat', Int.toNat_of_nonneg hnonneg, ← Int.emod_bmod,
    Int.emod_emod_of_dvd _ (by decide), Int.emod_bmod]
  exact n.toInt_bmod

theorem isPlain_truth (b : Bool) : (Payload.varint b.toNat).IsPlain :=
  Nat.lt_of_le_of_lt b.toNat_le (by decide)

/-! ## Messages -/

/-- A kind of message **has rules** if its layout has. -/
class Message (M : Type) [Codec M] where
  rules : (Layout.of M).Rules

theorem decodeOnto_nil {M : Type} [Codec M] {depth : Nat} (u : M) :
    decodeOnto depth u [] = some u := by
  rw [decodeOnto, Layout.decodeOnto, readFields]
  exact congrArg some (Codec.build_split u)

section Message

variable {M : Type} [Codec M] [Message M] {m u : M} {bs bs' : Bytes} {depth : Nat}

/-- **Bytes that a message is encoded as**, the entries of its maps in any order. -/
def Encodes (m : M) (bs : Bytes) : Prop := Message.rules.Encodes (Codec.split m) bs

/-- **Bytes with unknown fields put in**, for a kind of message. -/
def Padded (M : Type) [Codec M] [Message M] (bs bs' : Bytes) : Prop :=
  (Message.rules (M := M)).Padded bs bs'

/-- **One message merged into another**, field by field. -/
def merge (m m' : M) : M := Codec.build (Message.rules.join (Codec.split m) (Codec.split m'))

/-- One message merged into another if both are there, or else the one that is there. -/
def mergeOptional : Option M → Option M → Option M
  | o, none => o
  | none, some m => some m
  | some m, some m' => some (merge m m')

theorem encodes_encode (m : M) : Encodes m (encode m) :=
  ⟨_, Layout.Rules.sends_fields _ _, rfl⟩

theorem merge_blank (m : M) : merge blank m = m := by
  rw [merge, blank, Codec.split_build, Layout.Rules.join_blank, Codec.build_split]

theorem decodeOnto_append_of_encodes (h : Encodes m bs) (hlength : bs.length < UInt64.size)
    (rest : Bytes) : decodeOnto depth u (bs ++ rest) = decodeOnto depth (merge u m) rest := by
  rw [decodeOnto, decodeOnto, merge, Codec.split_build,
    Layout.Rules.Encodes.decodeOnto_append Codec.sound h hlength]

/-- **Decoding what a message is encoded as merges the message** into the one there is. -/
theorem decodeOnto_of_encodes (h : Encodes m bs) (hlength : bs.length < UInt64.size) :
    decodeOnto depth u bs = some (merge u m) := by
  rw [← List.append_nil bs, decodeOnto_append_of_encodes h hlength, decodeOnto_nil]

theorem decodeOnto_of_padded (h : Padded M bs bs') (hlength : bs'.length < UInt64.size) :
    decodeOnto depth u bs' = decodeOnto depth u bs := by
  rw [decodeOnto, decodeOnto, Layout.Rules.decodeOnto_of_padded Codec.sound h hlength]

theorem mergeInto_of_encodes (h : Encodes m bs) (hfits : (Payload.block bs).Fits) :
    (Payload.block bs).mergeInto depth u = some (merge u m) :=
  decodeOnto_of_encodes h (length_lt_of_fits hfits)

theorem mergeInto_of_padded (h : Padded M bs bs') (hfits : (Payload.block bs').Fits) :
    (Payload.block bs').mergeInto depth u = (Payload.block bs).mergeInto depth u :=
  decodeOnto_of_padded h (length_lt_of_fits hfits)

end Message

/-! ## Elements -/

/-- **The rules of a kind of value.** -/
class Element.Rules {V : Type} (e : Element V) where
  /-- The payloads that a value may be sent as. -/
  Sends : V → Payload → Prop
  /-- The second payload is the first one with unknown fields put into it, if it is a message. -/
  Pads : Payload → Payload → Prop
  sends_payload : ∀ v, Sends v (e.payload v)
  pads_self : ∀ {v p}, Sends v p → Pads p p
  isPlain : ∀ {p q}, Pads p q → p.IsPlain ∧ q.IsPlain
  shape_eq : ∀ {p q}, Pads p q → q.shape = p.shape
  length_le : ∀ {p q}, Pads p q → p.bytes.length ≤ q.bytes.length
  read_eq_some : ∀ depth {v p}, Sends v p → p.Fits → e.read depth p = some v
  read_eq : ∀ depth {p q}, Pads p q → q.Fits → e.read depth q = e.read depth p

namespace Element

variable {V : Type} {e : Element V}

/-- The rules of values that are sent in one way only and hold no fields. -/
@[reducible] def Rules.exact (hplain : ∀ v, (e.payload v).IsPlain)
    (hread : ∀ depth v, e.read depth (e.payload v) = some v) : e.Rules where
  Sends v p := p = e.payload v
  Pads p q := p.IsPlain ∧ q = p
  sends_payload _ := rfl
  pads_self := by
    rintro v p rfl
    exact ⟨hplain v, rfl⟩
  isPlain := by
    rintro p q ⟨hp, rfl⟩
    exact ⟨hp, hp⟩
  shape_eq := by
    rintro p q ⟨-, rfl⟩
    rfl
  length_le := by
    rintro p q ⟨-, rfl⟩
    exact Nat.le_refl _
  read_eq_some := by
    rintro depth v p rfl -
    exact hread depth v
  read_eq := by
    rintro depth p q ⟨-, rfl⟩ -
    rfl

instance : Element.text.Rules := .exact (fun _ => trivial) fun _ s => text?_textBytes s

instance : Element.truth.Rules := .exact isPlain_truth fun _ b => by rcases b <;> rfl

instance : Element.int32.Rules := .exact (fun n => isPlain_ofInt n.toInt) fun _ n => int32?_ofInt n

instance : Element.int64.Rules := .exact (fun n => isPlain_ofInt n.toInt) fun _ n => int64?_ofInt n

/-- A message is sent as a block of what it is encoded as. -/
instance {M : Type} [Codec M] [Message M] : (Element.message M).Rules where
  Sends m p := ∃ bs, Encodes m bs ∧ p = .block bs
  Pads p q := ∃ bs bs', Padded M bs bs' ∧ p = .block bs ∧ q = .block bs'
  sends_payload m := ⟨_, encodes_encode m, rfl⟩
  pads_self := by
    rintro m p ⟨bs, hencodes, rfl⟩
    exact ⟨bs, bs, Layout.Rules.Encodes.padded Codec.sound hencodes, rfl, rfl⟩
  isPlain := by
    rintro p q ⟨bs, bs', -, rfl, rfl⟩
    exact ⟨trivial, trivial⟩
  shape_eq := by
    rintro p q ⟨bs, bs', -, rfl, rfl⟩
    rfl
  length_le := by
    rintro p q ⟨bs, bs', hpadded, rfl, rfl⟩
    exact length_bytes_block_le (Layout.Rules.length_le_of_padded hpadded)
  read_eq_some := by
    rintro depth m p ⟨bs, hencodes, rfl⟩ hfits
    exact (mergeInto_of_encodes hencodes hfits).trans (congrArg some (merge_blank m))
  read_eq := by
    rintro depth p q ⟨bs, bs', hpadded, rfl, rfl⟩ hfits
    exact mergeInto_of_padded hpadded hfits

end Element

/-! ## Kinds of fields -/

namespace Kind

variable {V W : Type} {k : Kind V} {e : Element W}

/-- **A field that is sent as values of an element**: which values these may be, and how one of them
is put into the value there is. -/
structure Carries (k : Kind V) (e : Element W) [he : e.Rules] where
  /-- What becomes of a value when another one is sent after it. -/
  join : V → V → V
  /-- The values of the element that a value may be sent as, in the order in which they are sent. -/
  Lists : V → List W → Prop
  /-- Put one more value of the element into a value. -/
  put : V → W → V
  join_blank : ∀ v, join k.blank v = v
  exists_lists : ∀ v, ∃ ws, Lists v ws ∧ k.payloads v = ws.map e.payload
  foldl_put : ∀ u {v ws}, Lists v ws → ws.foldl put u = join u v
  isBlock : ∀ {p q}, he.Pads p q → k.isBlock = true →
    (∃ content, p = .block content) ∧ ∃ content, q = .block content
  take_of_sends : ∀ depth u {w p}, he.Sends w p → p.Fits → k.take depth u p = some (put u w)
  take_eq : ∀ depth u {p q}, he.Pads p q → q.Fits → k.take depth u q = k.take depth u p

namespace Carries

variable [he : e.Rules] {depth : Nat} {u : V} {ws : List W} {ps : List Payload}

/-- Values that were sent are put in one after another. -/
theorem foldlM_take (c : k.Carries e) (h : List.Forall₂ he.Sends ws ps)
    (hfits : ∀ p ∈ ps, p.Fits) : ps.foldlM (k.take depth) u = some (ws.foldl c.put u) := by
  induction h generalizing u with
  | nil => rfl
  | cons hsends _ ih =>
    obtain ⟨hfit, hfits⟩ := List.forall_mem_cons.mp hfits
    rw [List.foldlM_cons, c.take_of_sends depth u hsends hfit]
    exact ih hfits

/-- **The rules of a field that carries values of an element.** -/
@[reducible] def rules (c : k.Carries e) : k.Rules where
  join := c.join
  Sends v ps := ∃ ws, c.Lists v ws ∧ List.Forall₂ he.Sends ws ps
  Pads := he.Pads
  join_blank := c.join_blank
  sends_payloads v := by
    obtain ⟨ws, hlists, hpayloads⟩ := c.exists_lists v
    rw [hpayloads]
    refine ⟨ws, hlists, List.forall₂_map_right_iff.mpr ?_⟩
    exact List.forall₂_same.mpr fun w _ => he.sends_payload w
  pads_self := by
    rintro v ps p ⟨ws, -, hsends⟩ hp
    obtain ⟨w, -, hw⟩ := Traversal.exists_mem_of_forall₂ hsends hp
    exact he.pads_self hw
  accepts hpads :=
    ⟨⟨(he.isPlain hpads).1, fun htrue => (c.isBlock hpads htrue).1⟩,
      ⟨(he.isPlain hpads).2, fun htrue => (c.isBlock hpads htrue).2⟩⟩
  shape_eq := he.shape_eq
  length_le := he.length_le
  foldlM_take := by
    rintro depth u v ps ⟨ws, hlists, hsends⟩ hfits
    rw [c.foldlM_take hsends hfits, c.foldl_put u hlists]
  take_eq := c.take_eq

end Carries

/-- **The last value counts**, unless it is blank. -/
def Carries.single (e : Element V) [he : e.Rules] [DecidableEq V] (blank : V) :
    (single e blank).Carries e where
  join u v := if v = blank then u else v
  Lists v ws := ws = if v = blank then [] else [v]
  put _ w := w
  join_blank v := by
    split_ifs with hv
    · exact hv.symm
    · rfl
  exists_lists v := by
    refine ⟨_, rfl, ?_⟩
    change (if v = blank then [] else [e.payload v]) = _
    split_ifs <;> rfl
  foldl_put := by
    rintro u v ws rfl
    split_ifs <;> rfl
  isBlock := nofun
  take_of_sends depth _ := he.read_eq_some depth
  take_eq depth _ := he.read_eq depth

/-- **Values are put after those there are.** -/
def Carries.repeated (e : Element V) [he : e.Rules] : (repeated e).Carries e where
  join u v := u ++ v
  Lists v ws := ws = v
  put u w := u ++ [w]
  join_blank := List.nil_append
  exists_lists v := ⟨v, rfl, rfl⟩
  foldl_put := by
    rintro u v ws rfl
    rw [List.foldl_append_eq_append, ← List.flatMap_def, List.flatMap_singleton']
  isBlock := nofun
  take_of_sends depth u _ _ hsends hfits :=
    congrArg (Option.map (u ++ [·])) (he.read_eq_some depth hsends hfits)
  take_eq depth u _ _ hpads hfits :=
    congrArg (Option.map (u ++ [·])) (he.read_eq depth hpads hfits)

/-- **A message that is there is merged with one that is sent.** -/
def Carries.optional (M : Type) [Codec M] [Message M] : (optional M).Carries (.message M) where
  join := mergeOptional
  Lists o ms := ms = o.toList
  put o m := some (merge (o.getD Wire.blank) m)
  join_blank o := by rcases o <;> rfl
  exists_lists o := ⟨_, rfl, rfl⟩
  foldl_put := by
    rintro o (_ | m) ms rfl
    · rfl
    · rcases o with _ | m'
      · exact congrArg some (merge_blank m)
      · rfl
  isBlock := nofun
  take_of_sends := by
    rintro depth o m p ⟨bs, hencodes, rfl⟩ hfits
    exact congrArg (Option.map some) (mergeInto_of_encodes hencodes hfits)
  take_eq := by
    rintro depth o p q ⟨bs, bs', hpadded, rfl, rfl⟩ hfits
    exact congrArg (Option.map some) (mergeInto_of_padded hpadded hfits)

instance {e : Element V} [e.Rules] [DecidableEq V] (blank : V) : (single e blank).Rules :=
  (Carries.single e blank).rules

instance {e : Element V} [e.Rules] : (repeated e).Rules := (Carries.repeated e).rules

instance {M : Type} [Codec M] [Message M] : (optional M).Rules := (Carries.optional M).rules

instance : text.Rules := inferInstanceAs (single _ _).Rules
instance : truth.Rules := inferInstanceAs (single _ _).Rules
instance : int32.Rules := inferInstanceAs (single _ _).Rules
instance : int64.Rules := inferInstanceAs (single _ _).Rules
instance : texts.Rules := inferInstanceAs (repeated _).Rules
instance {M : Type} [Codec M] [Message M] : (messages M).Rules := inferInstanceAs (repeated _).Rules

end Kind

/-- The rules of a layout with one more field before it. -/
@[reducible] def Layout.Rules.more {V F : Type} {number : Nat} {k : Kind V} {l : Layout F}
    [own : k.Rules] (rest : l.Rules) : (Layout.field number k l).Rules :=
  .field number own rest

/-! ## Maps -/

instance : Message LabelEntry := ⟨.more <| .more .nil⟩

theorem insertAll_map (es : List LabelEntry) (m : Labels) :
    m.insertAll (es.map fun e => (e.name, e.text)) = es.foldl (fun m e => m.insert e.name e.text) m :=
  List.foldl_map

theorem map_labelEntries (m : Labels) :
    (labelEntries m).map (fun e => (e.name, e.text)) = m.entries := by
  rw [labelEntries, List.map_map]
  exact List.map_id _

/-- **Entries are put in in any order**, over those there are. -/
def Kind.Carries.labels : Kind.labels.Carries (.message LabelEntry) where
  join := Labels.union
  Lists m es := es.Perm (labelEntries m)
  put m e := m.insert e.name e.text
  join_blank := Labels.empty_union
  exists_lists m := ⟨_, .refl _, rfl⟩
  foldl_put := by
    intro u m es hperm
    have hentries := hperm.map fun e => (e.name, e.text)
    rw [map_labelEntries] at hentries
    rw [← insertAll_map, Labels.insertAll_of_perm hentries]
  isBlock := by
    rintro p q ⟨bs, bs', -, rfl, rfl⟩ -
    exact ⟨⟨bs, rfl⟩, ⟨bs', rfl⟩⟩
  take_of_sends depth m _ _ hsends hfits :=
    congrArg (Option.map fun e : LabelEntry => m.insert e.name e.text)
      (Element.Rules.read_eq_some depth hsends hfits)
  take_eq depth m _ _ hpads hfits :=
    congrArg (Option.map fun e : LabelEntry => m.insert e.name e.text)
      (Element.Rules.read_eq depth hpads hfits)

instance : Kind.labels.Rules := Kind.Carries.labels.rules

/-! ## The kubelet's messages -/

instance : Message Options := ⟨.more <| .more .nil⟩
instance : Message RegisterRequest := ⟨.more <| .more <| .more <| .more .nil⟩
instance : Message EmptyMessage := ⟨.nil⟩
instance : Message NumaNode := ⟨.more .nil⟩
instance : Message Topology := ⟨.more .nil⟩
instance : Message AdvertisedDevice := ⟨.more <| .more <| .more .nil⟩
instance : Message DeviceList := ⟨.more .nil⟩
instance : Message PreStartRequest := ⟨.more .nil⟩
instance : Message ContainerPreferredRequest := ⟨.more <| .more <| .more .nil⟩
instance : Message PreferredRequest := ⟨.more .nil⟩
instance : Message ContainerPreferredResponse := ⟨.more .nil⟩
instance : Message PreferredResponse := ⟨.more .nil⟩
instance : Message ContainerAllocateRequest := ⟨.more .nil⟩
instance : Message AllocateRequest := ⟨.more .nil⟩
instance : Message Mount := ⟨.more <| .more <| .more .nil⟩
instance : Message DeviceSpec := ⟨.more <| .more <| .more .nil⟩
instance : Message CdiDevice := ⟨.more .nil⟩
instance : Message ContainerAllocateResponse := ⟨.more <| .more <| .more <| .more <| .more .nil⟩
instance : Message AllocateResponse := ⟨.more .nil⟩

end GpuPlugin.Wire
