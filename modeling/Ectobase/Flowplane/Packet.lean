import Mathlib.Data.List.Basic

namespace Ectobase.Flowplane

abbrev Pkt := List UInt8

def ipprotoIcmp : UInt8 := 1
def ipprotoTcp : UInt8 := 6
def ipprotoUdp : UInt8 := 17
def ipprotoIcmpv6 : UInt8 := 58

variable (pkt : Pkt) (n off ipOff : Nat)

def Pkt.readArray : Option (Vector UInt8 n) :=
  if h : off + n <= pkt.length then
    some (Vector.ofFn fun i => pkt[off + i.val])
  else none

lemma Pkt.readArray_eq_none : pkt.readArray n off = none ↔ pkt.length < off + n := by
  unfold Pkt.readArray
  split <;> simp <;> omega

lemma Pkt.readArray_isSome : (pkt.readArray n off).isSome ↔ off + n <= pkt.length := by
  unfold Pkt.readArray
  split <;> simp <;> omega

def Pkt.readU8 : Option UInt8 := (pkt.readArray 1 off).map fun bytes => bytes[0]

def fromBeBytes (hi lo : UInt8) : UInt16 := (hi.toUInt16 <<< 8) ||| lo.toUInt16

def Pkt.readU16Be : Option UInt16 :=
  (pkt.readArray 2 off).map fun bytes => fromBeBytes bytes[0] bytes[1]

def Pkt.writeArray {n : Nat} (pkt : Pkt) (off : Nat) (src : Vector UInt8 n) : Option Pkt :=
  if off + n <= pkt.length then some (pkt.take off ++ src.toList ++ pkt.drop (off + n)) else none

abbrev ihl (hdr : Vector UInt8 20) : UInt8 := hdr[0] &&& 0x0f

abbrev l4Proto (hdr : Vector UInt8 20) : UInt8 := hdr[9]

-- The 13 bits `l4_ports` reads; nonzero on every fragment but the first.
def fragmentOffset (hdr : Vector UInt8 20) : UInt16 := fromBeBytes (hdr[6] &&& 0x1f) hdr[7]

-- none when out of bounds, for an L4 without ports, or for a later fragment.
def l4Ports : Option (UInt8 × UInt16 × UInt16) := do
  let hdr <- pkt.readArray 20 ipOff
  if fragmentOffset hdr ≠ 0 then none
  else
    let ihl := (hdr[0] &&& 0x0f).toNat * 4
    let proto := hdr[9]
    let l4 := ipOff + ihl
    if proto = ipprotoTcp \/ proto = ipprotoUdp then
      let sp <- pkt.readU16Be l4
      let dp <- pkt.readU16Be (l4 + 2)
      some (proto, sp, dp)
    else if proto = ipprotoIcmp then
      let id <- pkt.readU16Be (l4 + 4)
      some (proto, id, id)
    else none

def icmpTypeCode : UInt16 × UInt16 := match pkt.readArray 20 ipOff with
  | none => (0, 0)
  | some hdr =>
    if hdr[0] &&& 0x0f ≠ 5 \/ hdr[9] ≠ ipprotoIcmp then (0, 0)
    else
      match pkt.readArray 2 (ipOff + 20) with
      | some b => (b[0].toUInt16, b[1].toUInt16)
      | none => (0, 0)

lemma icmpTypeCode_bytes : ∃ t c : UInt8, icmpTypeCode pkt ipOff = (t.toUInt16, c.toUInt16) := by
  unfold icmpTypeCode
  split
  · exact ⟨0, 0, rfl⟩
  next hdr _ =>
    split
    · exact ⟨0, 0, rfl⟩
    · split
      next b _ => exact ⟨b[0], b[1], rfl⟩
      · exact ⟨0, 0, rfl⟩

def l4PortsV6 : Option (UInt8 × UInt16 × UInt16) := do
  let nexthdr <- pkt.readU8 (ipOff + 6)
  let l4 := ipOff + 40
  if nexthdr = ipprotoTcp \/ nexthdr = ipprotoUdp then
    let sp <- pkt.readU16Be l4
    let dp <- pkt.readU16Be (l4 + 2)
    some (nexthdr, sp, dp)
  else if nexthdr = 58 then
    let id <- pkt.readU16Be (l4 + 4)
    some (nexthdr, id, id)
  else none

def icmpTypeCodeV6 : UInt16 × UInt16 := if pkt.readU8 (ipOff + 6) ≠ some 58 then (0xffff, 0xffff)
  else
    let l4 := ipOff + 40
    let t := ((pkt.readU8 l4).map UInt8.toUInt16).getD 0xffff
    let c := ((pkt.readU8 (l4 + 1)).map UInt8.toUInt16).getD 0xffff
    (t, c)

def ByteOrSentinel (v : UInt16) : Prop := v = 0xffff \/ ∃ b : UInt8, v = b.toUInt16

lemma icmpTypeCodeV6_bytes : ByteOrSentinel (icmpTypeCodeV6 pkt ipOff).1 /\ ByteOrSentinel (icmpTypeCodeV6 pkt ipOff).2 := by
  have read (off : Nat) : ByteOrSentinel (((pkt.readU8 off).map UInt8.toUInt16).getD 0xffff) := by
    cases pkt.readU8 off with
    | none => exact .inl rfl
    | some b => exact .inr ⟨b, rfl⟩
  unfold icmpTypeCodeV6
  split
  · exact ⟨.inl rfl, .inl rfl⟩
  · exact ⟨read _, read _⟩

end Ectobase.Flowplane
