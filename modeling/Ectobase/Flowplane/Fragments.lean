import Ectobase.Flowplane.Lb
import Ectobase.Flowplane.PacketBytes
import Ectobase.Flowplane.SnatRuns

namespace Ectobase.Flowplane

def BareIcmp (hdr : Vector UInt8 20) : Prop := ihl hdr = 5 /\ l4Proto hdr = ipprotoIcmp

instance (hdr : Vector UInt8 20) : Decidable (BareIcmp hdr) :=
  inferInstanceAs (Decidable (ihl hdr = 5 /\ l4Proto hdr = ipprotoIcmp))

structure TreatedAlike (p q : Pkt) (ipOff : Nat) : Prop where
  verdict : ∀ (maps : FwMaps) (ifindex : UInt32) (dir : UInt8),
    fwClassify p maps ipOff ifindex dir = fwClassify q maps ipOff ifindex dir
  key : ∀ vni, ctKey p ipOff vni = ctKey q ipOff vni
  choice : ∀ (maps : Maps) (vni : UInt32),
    lbSelectForward p maps ipOff vni = lbSelectForward q maps ipOff vni
  relayed : ∀ (maps : Maps) (vni : UInt32),
    lbSelectForwardIcmpError p maps ipOff vni = lbSelectForwardIcmpError q maps ipOff vni

section

variable {p : Pkt} {ipOff : Nat} {hdr : Vector UInt8 20} (header : p.readArray 20 ipOff = some hdr)

include header

lemma readU8_header (i : Nat) (bound : i < 20) : p.readU8 (ipOff + i) = some hdr[i] := by
  rw [readU8_eq]
  exact readArray_byte p ipOff header i bound

lemma l4Ports_fragment (fragment : fragmentOffset hdr ≠ 0) : l4Ports p ipOff = none := by
  simp only [l4Ports, header, Option.bind_eq_bind, Option.bind_some]
  exact if_pos fragment

lemma protoPorts_fragment (fragment : fragmentOffset hdr ≠ 0) : protoPorts p ipOff = (l4Proto hdr, 0, 0) := by
  have proto := readU8_header header 9 (by omega)
  rw [protoPorts, l4Ports_fragment header fragment, proto]
  rfl

lemma icmpTypeCode_not_bare (other : ¬ BareIcmp hdr) : icmpTypeCode p ipOff = (0, 0) := by
  have skipped : ihl hdr ≠ 5 \/ l4Proto hdr ≠ ipprotoIcmp := Classical.not_and_iff_not_or_not.mp other
  simp only [icmpTypeCode, header]
  exact if_pos skipped

lemma lbSelectForwardIcmpError_not_bare (other : ¬ BareIcmp hdr) (maps : Maps) (vni : UInt32) :
  lbSelectForwardIcmpError p maps ipOff vni = none := by
  have first := readU8_header header 0 (by omega)
  have proto := readU8_header header 9 (by omega)
  have skipped : ihl hdr ≠ 5 \/ l4Proto hdr ≠ 1 := Classical.not_and_iff_not_or_not.mp other
  rw [Nat.add_zero] at first
  simp only [lbSelectForwardIcmpError, first, proto, Option.bind_eq_bind, Option.bind_some]
  exact if_pos skipped

end

lemma treatedAlike_of_not_bare {p q : Pkt} {ipOff : Nat} {hdr : Vector UInt8 20}
  (header : p.readArray 20 ipOff = some hdr) (header' : q.readArray 20 ipOff = some hdr)
  (fragment : fragmentOffset hdr ≠ 0) (other : ¬ BareIcmp hdr) : TreatedAlike p q ipOff where
  verdict maps ifindex dir := by
    have peer : ∀ at_, at_ + 4 <= 20 -> p.readArray 4 (ipOff + at_) = q.readArray 4 (ipOff + at_) := by
      intro at_ inside
      rw [readArray_within header 4 at_ inside, readArray_within header' 4 at_ inside]
    have peerOff : (if dir = fwDirEgress then 16 else 12) + 4 <= 20 := by
      split <;> omega
    simp only [fwClassify, protoPorts_fragment header fragment, protoPorts_fragment header' fragment,
      icmpTypeCode_not_bare header other, icmpTypeCode_not_bare header' other, peer _ peerOff]
  key vni := by
    simp only [ctKey, l4Ports_fragment header fragment, l4Ports_fragment header' fragment,
      readArray_within header 4 12 (by omega), readArray_within header' 4 12 (by omega),
      readArray_within header 4 16 (by omega), readArray_within header' 4 16 (by omega),
      readU8_header header 9 (by omega), readU8_header header' 9 (by omega)]
  choice maps vni := by
    simp only [lbSelectForward, l4Ports_fragment header fragment, l4Ports_fragment header' fragment,
      readArray_within header 4 12 (by omega), readArray_within header' 4 12 (by omega),
      readArray_within header 4 16 (by omega), readArray_within header' 4 16 (by omega)]
  relayed maps vni := by
    rw [lbSelectForwardIcmpError_not_bare header other, lbSelectForwardIcmpError_not_bare header' other]

def pingOnly : FwMaps where
  fwBind _ := some ⟨1, 1⟩
  fwClass4 _ _ := none
  fwPolicy4 _ key :=
    if key.proto = ipprotoIcmp /\ key.port = (8, 0) then some (fwPrecedence 0 true) else none

def headed (hdr : Vector UInt8 20) (ipOff : Nat) (payload : List UInt8) : Pkt :=
  List.replicate ipOff 0 ++ hdr.toList ++ payload

variable (hdr : Vector UInt8 20) (ipOff : Nat)

lemma readArray_headed (payload : List UInt8) : (headed hdr ipOff payload).readArray 20 ipOff = some hdr := by
  rw [readArray_eq_some]
  refine ⟨by simp [headed], ?_⟩
  simp [headed]

lemma readArray_headed_payload (t c : UInt8) : (headed hdr ipOff [t, c]).readArray 2 (ipOff + 20) = some #v[t, c] := by
  rw [readArray_eq_some]
  refine ⟨by simp [headed], ?_⟩
  have front : (List.replicate ipOff (0 : UInt8) ++ hdr.toList).length = ipOff + 20 := by simp
  rw [headed, <- front, List.drop_left]
  rfl

lemma fwClassify_pingOnly {hdr : Vector UInt8 20} (fragment : fragmentOffset hdr ≠ 0)
  (bare : BareIcmp hdr) (ipOff : Nat) (t c : UInt8) :
  fwClassify (headed hdr ipOff [t, c]) pingOnly ipOff 0 fwDirIngress
    = if (t, c) = (8, 0) then fwActionAccept else fwActionDrop := by
  have header := readArray_headed hdr ipOff [t, c]
  -- the two bytes behind the header are taken for type and code, whatever the fragment offset
  have message : icmpTypeCode (headed hdr ipOff [t, c]) ipOff = (t.toUInt16, c.toUInt16) := by
    have reads : ¬ (ihl hdr ≠ 5 \/ l4Proto hdr ≠ ipprotoIcmp) := by
      simp [bare.1, bare.2]
    simp only [icmpTypeCode, header, if_neg reads, readArray_headed_payload]
    rfl
  have suffix : fwPolSuffix ipprotoIcmp 0 (t.toUInt16, c.toUInt16) ipprotoIcmp = (t, c) := by
    simp [fwPolSuffix]
  have bound : ¬ (FwBind.scope ⟨1, 1⟩ fwDirIngress) = fwScopeNone := by decide
  have ingress : ¬ fwDirIngress = fwDirEgress := by decide
  simp only [fwClassify, pingOnly, bound, ingress, if_false, protoPorts_fragment header fragment,
    readArray_within header 4 12 (by omega), message, bare.2, suffix, true_and]
  by_cases ping : (t, c) = (8, 0)
  · simp only [ping, if_true]
    decide
  · simp only [ping, if_false]
    decide

theorem fragments_treated_alike_iff (hdr : Vector UInt8 20) (ipOff : Nat) (fragment : fragmentOffset hdr ≠ 0) :
  (∀ p q : Pkt, p.readArray 20 ipOff = some hdr -> q.readArray 20 ipOff = some hdr ->
    TreatedAlike p q ipOff) ↔ ¬ BareIcmp hdr := by
  constructor
  · intro alike bare
    have same := (alike (headed hdr ipOff [8, 0]) (headed hdr ipOff [0, 0])
      (readArray_headed hdr ipOff _) (readArray_headed hdr ipOff _)).verdict pingOnly 0 fwDirIngress
    rw [fwClassify_pingOnly fragment bare, fwClassify_pingOnly fragment bare] at same
    exact absurd same (by decide)
  · intro other p q header header'
    exact treatedAlike_of_not_bare header header' fragment other

def lastFragment (proto : UInt8) : Vector UInt8 20 :=
  #v[0x45, 0, 0, 24, 0, 1, 0, 185, 64, proto, 0, 0, 10, 0, 0, 1, 10, 0, 0, 2]

theorem udp_fragments_treated_alike : fragmentOffset (lastFragment ipprotoUdp) ≠ 0 /\ ∀ p q : Pkt,
    p.readArray 20 14 = some (lastFragment ipprotoUdp) ->
    q.readArray 20 14 = some (lastFragment ipprotoUdp) -> TreatedAlike p q 14 :=
  ⟨by decide, (fragments_treated_alike_iff (lastFragment ipprotoUdp) 14 (by decide)).mpr (by decide)⟩

-- The payload of an ICMP fragment passes for an echo request.
theorem icmp_fragment_passes_as_ping : fragmentOffset (lastFragment ipprotoIcmp) ≠ 0 /\
  (headed (lastFragment ipprotoIcmp) 14 [8, 0]).readArray 20 14 = some (lastFragment ipprotoIcmp) /\
  (headed (lastFragment ipprotoIcmp) 14 [0, 0]).readArray 20 14 = some (lastFragment ipprotoIcmp) /\
  fwClassify (headed (lastFragment ipprotoIcmp) 14 [8, 0]) pingOnly 14 0 fwDirIngress = fwActionAccept /\
  fwClassify (headed (lastFragment ipprotoIcmp) 14 [0, 0]) pingOnly 14 0 fwDirIngress = fwActionDrop := by
  refine ⟨by decide, readArray_headed _ _ _, readArray_headed _ _ _, ?_, ?_⟩
  · exact fwClassify_pingOnly (by decide) (by decide) 14 8 0
  · exact fwClassify_pingOnly (by decide) (by decide) 14 0 0

end Ectobase.Flowplane
