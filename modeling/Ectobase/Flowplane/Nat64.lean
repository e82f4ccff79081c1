import Ectobase.Flowplane.GuestTx

namespace Ectobase.Flowplane

open Shared

def icmpv6EchoRequest : UInt8 := 128
def icmpEchoRequest : UInt8 := 8
def icmpv6EchoReply : UInt8 := 129

def nat64Pfx : Vector UInt8 12 := #v[0x00, 0x64, 0xff, 0x9b, 0, 0, 0, 0, 0, 0, 0, 0]

def isNat64Addr (addr : Vector UInt8 16) : Bool := addr.toList.take 12 == nat64Pfx.toList

def nat64Embed (ipv4 : Vector UInt8 4) : Vector UInt8 16 :=
  copyAt (copyAt (Vector.replicate 16 0) 0 nat64Pfx) 12 ipv4

-- RFC 1071 sums in the 32-bit accumulator of `csum.rs`.

variable (sum : UInt32) (pkt : Pkt) (l4 : Nat)

def addBe16 (hi lo : UInt8) : UInt32 := sum + (fromBeBytes hi lo).toUInt32

def addWords (sum : UInt32) : List UInt8 -> UInt32
  | hi :: lo :: rest => addWords (addBe16 sum hi lo) rest
  | _ => sum

def halves : UInt32 := (sum &&& (0xffff : UInt32)) + (sum >>> 16)

def csumFold : UInt16 := ~~~(halves (halves sum)).toUInt16

def ipv4HdrChecksum (hdr : Vector UInt8 20) : UInt16 := csumFold (addWords 0 hdr.toList)

def icmpv4EchoChecksum (hdr : Vector UInt8 8) : UInt16 := csumFold (addWords 0 hdr.toList)

def pseudoV4 (src dst : Vector UInt8 4) (proto : UInt8) (l4Len : UInt16) : UInt32 :=
  halves (halves (addWords 0 (src.toList ++ dst.toList ++ [0, proto] ++ (be16 l4Len).toList)))

def pseudoV6 (src dst : Vector UInt8 16) (proto : UInt8) (l4Len : UInt16) : UInt32 :=
  halves (halves (addWords 0 (src.toList ++ dst.toList ++ [0, 0] ++ (be16 l4Len).toList ++ [0, proto])))

def icmpv6EchoChecksum (src dst : Vector UInt8 16) (hdr : Vector UInt8 8) : UInt16 :=
  csumFold (addWords 0 (src.toList ++ dst.toList ++ [0, 8] ++ [0, ipprotoIcmpv6] ++ hdr.toList))

def tcpUdpV6ToV4 (cksum : UInt16) (src6 dst6 : Vector UInt8 16) (src4 dst4 : Vector UInt8 4)
  (proto : UInt8) (l4Len oldSport newSport : UInt16) : UInt16 :=
  let sum := (~~~cksum).toUInt32 + (~~~(pseudoV6 src6 dst6 proto l4Len)).toUInt16.toUInt32
    + pseudoV4 src4 dst4 proto l4Len + (~~~oldSport).toUInt32 + newSport.toUInt32
  csumFold sum

def tcpUdpV4ToV6 (cksum : UInt16) (src4 dst4 : Vector UInt8 4) (src6 dst6 : Vector UInt8 16)
  (proto : UInt8) (l4Len : UInt16) : UInt16 :=
  let sum := (~~~cksum).toUInt32 + (~~~(pseudoV4 src4 dst4 proto l4Len)).toUInt16.toUInt32
    + pseudoV6 src6 dst6 proto l4Len
  csumFold sum

-- Egress.

structure Nat64Xlate where
  natIpv4 : Vector UInt8 4
  ipv4Dst : Vector UInt8 4
  natPort : UInt16
  l4ProtoV4 : UInt8
  sport : UInt16
  l4Len : UInt16
  hopLimit : UInt8
  ip6Src : Vector UInt8 16
  ip6Dst : Vector UInt8 16
  oldL4Cksum : UInt16
  ethDst : Vector UInt8 6
  ethSrc : Vector UInt8 6

def nat64L4 (nh : UInt8) : Option (UInt8 × UInt16 × UInt16 × UInt16) := if nh = ipprotoIcmpv6 then do
  let icmpType <- pkt.readU8 l4
  let id <- pkt.readU16Be (l4 + 4)
  let cksum <- pkt.readU16Be (l4 + 2)
  if icmpType ≠ icmpv6EchoRequest then none else some (ipprotoIcmp, id, id, cksum)
  else if nh = ipprotoTcp then do
    let sp <- pkt.readU16Be l4
    let dp <- pkt.readU16Be (l4 + 2)
    let ck <- pkt.readU16Be (l4 + 16)
    some (ipprotoTcp, sp, dp, ck)
  else if nh = ipprotoUdp then do
    let sp <- pkt.readU16Be l4
    let dp <- pkt.readU16Be (l4 + 2)
    let ck <- pkt.readU16Be (l4 + 6)
    some (ipprotoUdp, sp, dp, ck)
  else none

def nat64RevEntry (key : CtKey) (now : UInt64) : CtEntry :=
  ⟨now, key.srcIp, key.srcPort, ctRewriteDst ||| ctFSrcNat ||| ctFNat64, 0, 0, 0⟩

def nat64FwdEntry (nat : NatValue) (chosen : UInt16) (now : UInt64) : CtEntry :=
  ⟨now, nat.natIpv4, chosen, ctRewriteSrc ||| ctFSrcNat ||| ctFNat64, 0, 0, 0⟩

def nat64Allocate (ct : Conntrack) (nat : NatValue) (fwdKey : CtKey) (range : UInt16)
  (now : UInt64) : Option (UInt16 × Conntrack) :=
  let fresh : Option (UInt16 × Conntrack) :=
    let start := (hash5 fwdKey.srcIp fwdKey.dstIp fwdKey.srcPort fwdKey.dstPort fwdKey.proto
      % range.toUInt32).toUInt16
    (probe ct fwdKey.vni nat fwdKey.proto start range probeLimit 0).map fun chosen =>
      let rev := revKey fwdKey.vni nat.natIpv4 chosen fwdKey.proto
      (chosen, (ct.insert rev (nat64RevEntry fwdKey now)).insert fwdKey (nat64FwdEntry nat chosen now))
  match ct.lookup fwdKey with
  | some v => if v.flags &&& ctFSrcNat ≠ 0 then some (v.xlatePort, ct) else fresh
  | none => fresh

structure Nat64Flow where
  binding : NatValue
  ip6Src : Vector UInt8 16
  ip6Dst : Vector UInt8 16
  l4Len : UInt16
  l4ProtoV4 : UInt8
  sport : UInt16
  dport : UInt16
  cksum : UInt16

def payloadPresent (ip6Off : Nat) (plen : UInt16) : Bool :=
  plen.toNat == 0 || (pkt.readU8 (ip6Off + ipv6Len + plen.toNat - 1)).isSome

def nat64Flow (nat : NatConfig) (ip6Off : Nat) (vni : UInt32) (guestIpv4 : Vector UInt8 4) : Option Nat64Flow := do
  let ip6Dst <- pkt.readArray 16 (ip6Off + 24)
  let binding <- nat.lookup ⟨vni, guestIpv4⟩
  let ip6Src <- pkt.readArray 16 (ip6Off + 8)
  let nh <- pkt.readU8 (ip6Off + 6)
  let plen <- pkt.readU16Be (ip6Off + 4)
  let (proto, sport, dport, cksum) <- nat64L4 pkt (ip6Off + ipv6Len) nh
  if isNat64Addr ip6Dst = false \/ binding.portMax - binding.portMin = 0 \/
      payloadPresent pkt ip6Off plen = false then none
  else some ⟨binding, ip6Src, ip6Dst, plen, proto, sport, dport, cksum⟩

def Nat64Flow.key (f : Nat64Flow) (vni : UInt32) (guestIpv4 : Vector UInt8 4) : CtKey :=
  ⟨vni, guestIpv4, addrAt f.ip6Dst 12, f.sport, f.dport, f.l4ProtoV4⟩

def nat64EgressParse (nat : NatConfig) (ct : Conntrack) (ip6Off : Nat) (vni : UInt32)
  (guestIpv4 : Vector UInt8 4) (now : UInt64) : Option Nat64Xlate × Conntrack :=
  match nat64Flow pkt nat ip6Off vni guestIpv4 with
  | none => (none, ct)
  | some f =>
    match nat64Allocate ct f.binding (f.key vni guestIpv4)
        (f.binding.portMax - f.binding.portMin) now with
    -- out of ports: nothing is written
    | none => (none, ct)
    | some (natPort, ct) =>
      match pkt.readU8 (ip6Off + 7), pkt.readArray 6 (ip6Off - ethLen),
          pkt.readArray 6 (ip6Off - ethLen + 6) with
      | some hopLimit, some ethDst, some ethSrc =>
        (some ⟨f.binding.natIpv4, addrAt f.ip6Dst 12, natPort, f.l4ProtoV4, f.sport, f.l4Len,
          hopLimit, f.ip6Src, f.ip6Dst, f.cksum, ethDst, ethSrc⟩, ct)
      | _, _, _ => (none, ct)

def ethHeader (dst src : Vector UInt8 6) (ethertype : UInt16) : Vector UInt8 14 :=
  copyAt (copyAt (copyAt (Vector.replicate 14 0) 0 dst) 6 src) 12 (be16 ethertype)

def ipv4Header (totalLen : UInt16) (ttl proto : UInt8) (src dst : Vector UInt8 4) : Vector UInt8 20 :=
  let len := toBeBytes totalLen
  let hdr := copyAt (Vector.replicate 20 0) 0 #v[0x45, 0, len.1, len.2, 0, 0, 0, 0, ttl, proto]
  let hdr := copyAt (copyAt hdr 12 src) 16 dst
  copyAt hdr 10 (be16 (ipv4HdrChecksum hdr))

def egressIcmp (x : Nat64Xlate) (h : Vector UInt8 8) : Vector UInt8 8 := let id := toBeBytes x.natPort
  let icmp4 := copyAt h 0 #v[icmpEchoRequest, 0, 0, 0, id.1, id.2]
  copyAt icmp4 2 (be16 (icmpv4EchoChecksum icmp4))

def nat64EgressL4 (x : Nat64Xlate) : Option Pkt :=
  let newCk := tcpUdpV6ToV4 x.oldL4Cksum x.ip6Src x.ip6Dst x.natIpv4 x.ipv4Dst x.l4ProtoV4 x.l4Len
    x.sport x.natPort
  if x.l4ProtoV4 = ipprotoIcmp then
    match pkt.readArray 8 l4 with
    | none => none
    | some h => pkt.writeArray l4 (egressIcmp x h)
  else if x.l4ProtoV4 = ipprotoTcp then
    match pkt.readArray 18 l4 with
    | none => none
    | some h => pkt.writeArray l4 (copyAt (copyAt h 0 (be16 x.natPort)) 16 (be16 newCk))
  else if x.l4ProtoV4 = ipprotoUdp then
    match pkt.readArray 8 l4 with
    | none => none
    | some h => pkt.writeArray l4 (copyAt (copyAt h 0 (be16 x.natPort)) 6 (be16 newCk))
  else none

def nat64EgressWrite (ip4Off : Nat) (writeEth : Bool) (x : Nat64Xlate) : Option Pkt := do
  let pkt <- if writeEth then pkt.writeArray (ip4Off - ethLen) (ethHeader x.ethDst x.ethSrc ethPIp)
    else some pkt
  let totalLen := 20 + x.l4Len
  let pkt <- pkt.writeArray ip4Off (ipv4Header totalLen x.hopLimit x.l4ProtoV4 x.natIpv4 x.ipv4Dst)
  nat64EgressL4 pkt (ip4Off + 20) x

def shrinkHead (delta : Nat) : Option Pkt := if delta > pkt.length then none else some (pkt.drop delta)

def growHead (delta : Nat) : Pkt := List.replicate delta 0 ++ pkt

structure GuestTxNat64In where
  port : PortMeta
  node : Local

structure GuestTxNat64Out where
  action : Action
  tunnel : Option TunnelEncap
  deriving DecidableEq

def processGuestTxNat64 (maps : Maps) (s : Flows) (pkt : Pkt) (inp : GuestTxNat64In) : GuestTxNat64Out × Pkt × Flows :=
  match nat64EgressParse pkt maps.nat s.conntrack ethLen inp.port.vni inp.port.guestIpv4 0 with
  | (none, ct) => (⟨.pass, none⟩, pkt, { s with conntrack := ct })
  | (some xlate, ct) =>
    let s := { s with conntrack := ct }
    match (shrinkHead pkt 20).bind fun pkt => nat64EgressWrite pkt ethLen true xlate with
    | none => (⟨.drop, none⟩, pkt, s)
    | some pkt =>
      match maps.route4 inp.port.vni xlate.ipv4Dst with
      | none => (⟨.pass, none⟩, pkt, s)
      | some route => (⟨.redirect inp.node.uplinkIfindex, some (tunnelEncap route)⟩, pkt, s)

-- Ingress.

structure Nat64InXlate where
  l4Proto : UInt8
  ttl : UInt8
  innerSrcV4 : Vector UInt8 4
  innerDstV4 : Vector UInt8 4
  l4Len : UInt16
  oldL4Cksum : UInt16
  ipv6Src : Vector UInt8 16
  guestIpv6 : Vector UInt8 16
  guestMac : Vector UInt8 6
  origSport : UInt16

def l4CksumOff (proto : UInt8) : Option Nat := if proto = ipprotoTcp then some 16
  else if proto = ipprotoUdp then some 6
  else if proto = ipprotoIcmp then some 2
  else none

def nat64IngressParse (innerOff : Nat) (guestIpv6 : Vector UInt8 16)
  (guestMac : Vector UInt8 6) (origSport : UInt16) : Option Nat64InXlate := do
  let inner <- pkt.readArray 20 innerOff
  let cksumOff <- l4CksumOff (l4Proto inner)
  let cksum <- pkt.readU16Be (innerOff + 20 + cksumOff)
  let innerTotalLen := wordAt inner 2
  if ihl inner ≠ 5 \/ innerTotalLen < 20 \/ guestIpv6 = Vector.replicate 16 0 then none
  else
    some ⟨l4Proto inner, inner[8], addrAt inner 12, addrAt inner 16, innerTotalLen - 20, cksum,
      nat64Embed (addrAt inner 12), guestIpv6, guestMac, origSport⟩

def ipv6Header (l4Len : UInt16) (nexthdr hopLimit : UInt8) (src dst : Vector UInt8 16) : Vector UInt8 40 :=
  let len := toBeBytes l4Len
  let hdr : Vector UInt8 40 := copyAt (Vector.replicate 40 0) 0 #v[0x60, 0, 0, 0, len.1, len.2, nexthdr, hopLimit]
  copyAt (copyAt hdr 8 src) 24 dst

def ingressIcmp (x : Nat64InXlate) (h : Vector UInt8 8) : Vector UInt8 8 :=
  let id := toBeBytes x.origSport
  let icmp6 := copyAt h 0 #v[icmpv6EchoReply, 0, 0, 0, id.1, id.2]
  copyAt icmp6 2 (be16 (icmpv6EchoChecksum x.ipv6Src x.guestIpv6 icmp6))

def nat64IngressL4 (x : Nat64InXlate) : Option Pkt :=
  let newCk := tcpUdpV4ToV6 x.oldL4Cksum x.innerSrcV4 x.innerDstV4 x.ipv6Src x.guestIpv6 x.l4Proto x.l4Len
  if x.l4Proto = ipprotoIcmp then
    match pkt.readArray 8 l4 with
    | none => none
    | some h => pkt.writeArray l4 (ingressIcmp x h)
  else if x.l4Proto = ipprotoTcp then
    match pkt.readArray 18 l4 with
    | none => none
    | some h => pkt.writeArray l4 (copyAt h 16 (be16 newCk))
  else if x.l4Proto = ipprotoUdp then
    match pkt.readArray 8 l4 with
    | none => none
    | some h => pkt.writeArray l4 (copyAt h 6 (be16 newCk))
  else none

def nat64IngressWrite (ip6Off : Nat) (mac : Vector UInt8 6) (x : Nat64InXlate) : Option Pkt := do
  let pkt <- pkt.writeArray (ip6Off - ethLen) (ethHeader x.guestMac mac ethPIpv6)
  let nexthdr := if x.l4Proto = ipprotoIcmp then ipprotoIcmpv6 else x.l4Proto
  let pkt <- pkt.writeArray ip6Off (ipv6Header x.l4Len nexthdr x.ttl x.ipv6Src x.guestIpv6)
  nat64IngressL4 pkt (ip6Off + ipv6Len) x

structure UplinkNat64IngressIn where
  tapIfindex : UInt32
  guestMac : Vector UInt8 6
  guestIpv6 : Vector UInt8 16
  rev : CtEntry

def processUplinkNat64Ingress (inp : UplinkNat64IngressIn) : Action × Pkt :=
  match ctApply pkt ethLen inp.rev with
  | none => (.drop, pkt)
  | some pkt =>
    match nat64IngressParse pkt ethLen inp.guestIpv6 inp.guestMac inp.rev.xlatePort with
    | none => (.pass, pkt)
    | some xlate =>
      match nat64IngressWrite (growHead pkt 20) ethLen gwMac xlate with
      | none => (.drop, growHead pkt 20)
      | some pkt => (.redirect inp.tapIfindex, pkt)

end Ectobase.Flowplane
