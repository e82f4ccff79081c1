import Ectobase.Flowplane.CtApply
import Ectobase.Flowplane.Lb

namespace Ectobase.Flowplane

open Shared

def revKey6 (vni : UInt32) (natIp : Vector UInt8 16) (port : UInt16) (proto : UInt8) : CtKey6 :=
  ⟨vni, Vector.replicate 16 0, natIp, 0, port, proto⟩

def probe6 (ct : NatCt6) (vni : UInt32) (nat : NatValue6) (proto : UInt8) (start range : UInt16) :
  Nat -> UInt16 -> Option UInt16
  | 0, _ => none
  | left + 1, i =>
    let cand := nat.portMin + (start + i) % range
    if ct.lookup (revKey6 vni nat.natIpv6 cand proto) = none then some cand
    else probe6 ct vni nat proto start range left (i + 1)

def snat6PickPort (ct : NatCt6) (fwd : CtKey6) (nat : NatValue6) (now : UInt64) : Option (UInt16 × NatCt6) :=
  let fresh : Option (UInt16 × NatCt6) :=
    let range := nat.portMax - nat.portMin
    if range = 0 then none
    else
      let start := (hashV6 fwd.srcIp fwd.dstIp fwd.srcPort fwd.dstPort fwd.proto % range.toUInt32).toUInt16
      (probe6 ct fwd.vni nat fwd.proto start range probeLimit 0).map fun cand =>
        let rev : CtEntry6 := ⟨now, fwd.srcIp, fwd.srcPort, ctRewriteDst ||| ctFSrcNat, 0⟩
        let ent : CtEntry6 := ⟨now, nat.natIpv6, cand, ctRewriteSrc ||| ctFSrcNat, 0⟩
        (cand, (ct.insert (revKey6 fwd.vni nat.natIpv6 cand fwd.proto) rev).insert fwd ent)
  match ct.lookup fwd with
  | some v => if v.flags &&& ctFSrcNat ≠ 0 then some (v.xlatePort, ct) else fresh
  | none => fresh

variable (pkt : Pkt) (ipOff : Nat)

def snat6ApplyRewrite (fwd : CtKey6) (nat : NatValue6) (natPort : UInt16) : Pkt :=
  match pkt.writeArray (ipOff + 8) nat.natIpv6 with
  | none => pkt
  | some pkt =>
    let l4 := ipOff + 40
    let folded (c : UInt16) := csumReplace2 (csumReplace16 c fwd.srcIp nat.natIpv6) fwd.srcPort natPort
    if fwd.proto = ipprotoTcp then
      match pkt.readU16Be (l4 + 16) with
      | none => pkt
      | some c =>
        let pkt := (pkt.writeArray (l4 + 16) (be16 (folded c))).getD pkt
        (pkt.writeArray l4 (be16 natPort)).getD pkt
    else if fwd.proto = ipprotoUdp then
      match pkt.readArray 8 l4 with
      | none => pkt
      | some h =>
        let c0 := wordAt h 6
        let h := if c0 ≠ 0 then copyAt h 6 (be16 (folded c0)) else h
        (pkt.writeArray l4 (copyAt h 0 (be16 natPort))).getD pkt
    else if fwd.proto = ipprotoIcmpv6 then
      match pkt.readArray 8 l4 with
      | none => pkt
      | some h =>
        -- the ICMPv6 checksum covers the pseudo-header, so the address is folded in as well
        let h := copyAt h 2 (be16 (folded (wordAt h 2)))
        (pkt.writeArray l4 (copyAt h 4 (be16 natPort))).getD pkt
    else pkt

def snatEgress6 (pkt : Pkt) (nat : Map NatKey6 NatValue6) (ct : NatCt6) (ipOff : Nat) (vni : UInt32)
  (isExternal : Bool) (now : UInt64) : SnatOutcome × Pkt × NatCt6 :=
  if isExternal = false then (.continue, pkt, ct)
  else
    match pkt.readArray 16 (ipOff + 8) with
    | none => (.continue, pkt, ct)
    | some src =>
      match nat.lookup ⟨vni, src⟩ with
      | none => (.continue, pkt, ct)
      | some binding =>
        if binding.portMax - binding.portMin = 0 then (.continue, pkt, ct)
        else
          match l4PortsV6 pkt ipOff with
          | none => (.continue, pkt, ct)
          | some (proto, sport, dport) =>
            match pkt.readArray 16 (ipOff + 24) with
            | none => (.continue, pkt, ct)
            | some dst =>
              let fwdKey : CtKey6 := ⟨vni, src, dst, sport, dport, proto⟩
              match snat6PickPort ct fwdKey binding now with
              | none => (.exhausted, pkt, ct)
              | some (natPort, ct) =>
                (.continue, snat6ApplyRewrite pkt ipOff fwdKey binding natPort, ct)

def natReturnRewrite6 (e : CtEntry6) : Pkt :=
  match pkt.readArray 16 (ipOff + 24) with
  | none => pkt
  | some oldDst =>
    let proto := (pkt.readU8 (ipOff + 6)).getD 0
    match pkt.writeArray (ipOff + 24) e.xlateIp6 with
    | none => pkt
    | some pkt =>
      let l4 := ipOff + 40
      let folded (c old : UInt16) := csumReplace2 (csumReplace16 c oldDst e.xlateIp6) old e.xlatePort
      if proto = ipprotoTcp then
        match pkt.readArray 18 l4 with
        | none => pkt
        | some h =>
          let c2 := folded (wordAt h 16) (wordAt h 2)
          (pkt.writeArray l4 (copyAt (copyAt h 16 (be16 c2)) 2 (be16 e.xlatePort))).getD pkt
      else if proto = ipprotoUdp then
        match pkt.readArray 8 l4 with
        | none => pkt
        | some h =>
          let c0 := wordAt h 6
          let h' := if c0 ≠ 0 then copyAt h 6 (be16 (folded c0 (wordAt h 2))) else h
          (pkt.writeArray l4 (copyAt h' 2 (be16 e.xlatePort))).getD pkt
      else if proto = ipprotoIcmpv6 then
        match pkt.readArray 8 l4 with
        | none => pkt
        | some h =>
          let c2 := folded (wordAt h 2) (wordAt h 4)
          (pkt.writeArray l4 (copyAt (copyAt h 2 (be16 c2)) 4 (be16 e.xlatePort))).getD pkt
      else pkt

-- ICMP errors about translated flows.

def isIcmpErrorType (t : UInt8) : Bool := t == 3 || t == 11 || t == 12
def isIcmpv6ErrorType (t : UInt8) : Bool := t == 1 || t == 2 || t == 3 || t == 4

def natIcmpErrorOrigin : Option (Vector UInt8 4 × UInt16 × UInt8) := do
  let verIhl <- pkt.readU8 ipOff
  let proto <- pkt.readU8 (ipOff + 9)
  let icmpOff := ipOff + 20
  if verIhl &&& 0x0f ≠ 5 \/ proto ≠ ipprotoIcmp then none
  else
    let icmpType <- pkt.readU8 icmpOff
    let q := icmpOff + 8
    if isIcmpErrorType icmpType = false then none
    else
      let quotedVerIhl <- pkt.readU8 q
      let quotedProto <- pkt.readU8 (q + 9)
      if quotedVerIhl &&& 0x0f ≠ 5 \/ (quotedProto ≠ ipprotoTcp /\ quotedProto ≠ ipprotoUdp) then none
      else
        let quotedSrc <- pkt.readArray 4 (q + 12)
        let quotedSport <- pkt.readU16Be (q + 20)
        some (quotedSrc, quotedSport, quotedProto)

-- Both copies of the address, the quoted checksums, and the ICMP checksum over all of it.
def rewriteQuote (w : Vector UInt8 36) (quotedProto : UInt8) (newIp : Vector UInt8 4) (newPort : UInt16) : Vector UInt8 36 :=
  let oldSrc := addrAt w 20
  let oldSport := wordAt w 28
  let qNewC := csumReplace4 (wordAt w 18) oldSrc newIp
  let icmpC := csumReplace2 (wordAt w 2) (wordAt w 18) qNewC
  let icmpC := csumReplace2 (csumReplace4 icmpC oldSrc newIp) oldSport newPort
  let uOld := wordAt w 34
  let uNew := csumReplace2 (csumReplace4 uOld oldSrc newIp) oldSport newPort
  let udp := quotedProto = ipprotoUdp /\ uOld ≠ 0
  let icmpC := if udp then csumReplace2 icmpC uOld uNew else icmpC
  let w := if udp then copyAt w 34 (be16 uNew) else w
  copyAt (copyAt (copyAt (copyAt w 2 (be16 icmpC)) 18 (be16 qNewC)) 20 newIp) 28 (be16 newPort)

def natIcmpErrorReturnRewrite (e : CtEntry) : Option Pkt := do
  let (_, _, quotedProto) <- natIcmpErrorOrigin pkt ipOff
  let outer <- pkt.readArray 20 ipOff
  let pkt <- pkt.writeArray ipOff (rewriteHeader outer 16 e.xlateIp)
  let w <- pkt.readArray 36 (ipOff + 20)
  pkt.writeArray (ipOff + 20) (rewriteQuote w quotedProto e.xlateIp e.xlatePort)

def natIcmpErrorOrigin6 : Option (Vector UInt8 16 × UInt16 × UInt8) := do
  let nexthdr <- pkt.readU8 (ipOff + 6)
  let icmpOff := ipOff + 40
  if nexthdr ≠ ipprotoIcmpv6 then none
  else
    let icmpType <- pkt.readU8 icmpOff
    let q := icmpOff + 8
    if isIcmpv6ErrorType icmpType = false then none
    else
      let quotedNextHdr <- pkt.readU8 (q + 6)
      if quotedNextHdr ≠ ipprotoTcp /\ quotedNextHdr ≠ ipprotoUdp then none
      else
        let quotedSrc <- pkt.readArray 16 (q + 8)
        let quotedSport <- pkt.readU16Be (q + 40)
        some (quotedSrc, quotedSport, quotedNextHdr)

def rewriteQuotedUdp6 (q : Nat) (icmpC : UInt16) (oldSrc newIp : Vector UInt8 16)
  (oldSport newPort : UInt16) : UInt16 × Pkt :=
  match pkt.readU16Be (q + 46) with
  | none => (icmpC, pkt)
  | some uOld =>
    if uOld = 0 then (icmpC, pkt)
    else
      let uNew := csumReplace2 (csumReplace16 uOld oldSrc newIp) oldSport newPort
      (csumReplace2 icmpC uOld uNew, (pkt.writeArray (q + 46) (be16 uNew)).getD pkt)

-- What it reads lies before the quoted port, so no read fails half way.
def natIcmpErrorReturnRewrite6 (e : CtEntry6) : Pkt :=
  let icmpOff := ipOff + 40
  let q := icmpOff + 8
  match natIcmpErrorOrigin6 pkt ipOff, pkt.readU16Be (icmpOff + 2), pkt.readU16Be (q + 40),
      pkt.readArray 16 (q + 8), pkt.readArray 16 (ipOff + 24) with
  | some (_, _, quotedNextHdr), some icmpC, some oldSport, some oldSrc, some oldDst =>
    let (icmpC, pkt) :=
      if quotedNextHdr = ipprotoUdp then
        rewriteQuotedUdp6 pkt q icmpC oldSrc e.xlateIp6 oldSport e.xlatePort
      else (icmpC, pkt)
    let icmpC := csumReplace16 icmpC oldSrc e.xlateIp6
    let pkt := (pkt.writeArray (q + 8) e.xlateIp6).getD pkt
    let icmpC := csumReplace2 icmpC oldSport e.xlatePort
    let pkt := (pkt.writeArray (q + 40) (be16 e.xlatePort)).getD pkt
    -- the outer destination is part of the pseudo-header the ICMPv6 checksum covers
    let icmpC := csumReplace16 icmpC oldDst e.xlateIp6
    let pkt := (pkt.writeArray (ipOff + 24) e.xlateIp6).getD pkt
    (pkt.writeArray (icmpOff + 2) (be16 icmpC)).getD pkt
  | _, _, _, _, _ => pkt

end Ectobase.Flowplane
