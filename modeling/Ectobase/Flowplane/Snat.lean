import Ectobase.Flowplane.Conntrack
import Ectobase.Flowplane.Ports

namespace Ectobase.Flowplane

open Shared

structure NatKey where
  vni : UInt32
  ipv4 : Vector UInt8 4
  deriving DecidableEq, Repr

structure NatValue where
  natIpv4 : Vector UInt8 4
  portMin : UInt16
  portMax : UInt16
  deriving DecidableEq, Repr

abbrev NatConfig := Map NatKey NatValue

def foldStep (sum : UInt32) : UInt32 :=
  if sum >>> 16 ≠ 0 then (sum &&& (0xffff : UInt32)) + (sum >>> 16) else sum

def fold (sum : UInt32) : UInt16 := (foldStep (foldStep sum)).toUInt16

def csumReplace4 (check : UInt16) (old new : Vector UInt8 4) : UInt16 :=
  let sum := (~~~check).toUInt32 + (~~~(fromBeBytes old[0] old[1])).toUInt32
    + (~~~(fromBeBytes old[2] old[3])).toUInt32 + (fromBeBytes new[0] new[1]).toUInt32
    + (fromBeBytes new[2] new[3]).toUInt32
  ~~~(fold sum)

def csumReplace2 (check old new : UInt16) : UInt16 :=
  let o := toBeBytes old
  let n := toBeBytes new
  csumReplace4 check #v[o.1, o.2, 0, 0] #v[n.1, n.2, 0, 0]

def fnvOffset : UInt32 := 2166136261
def fnvPrime : UInt32 := 16777619

def fnvStep (h : UInt32) (b : UInt8) : UInt32 := (h ^^^ b.toUInt32) * fnvPrime

def fnvU16 (h : UInt32) (v : UInt16) : UInt32 := fnvStep (fnvStep h v.toUInt8) (v >>> 8).toUInt8

def hash5 (src dst : Vector UInt8 4) (sport dport : UInt16) (proto : UInt8) : UInt32 :=
  let h := src.toList.foldl fnvStep fnvOffset
  let h := dst.toList.foldl fnvStep h
  fnvStep (fnvU16 (fnvU16 h sport) dport) proto

inductive SnatOutcome where
  | continue
  | exhausted
  | untranslatable
  deriving DecidableEq, Repr

def probeLimit : Nat := 64

def revKey (vni : UInt32) (natIp : Vector UInt8 4) (port : UInt16) (proto : UInt8) : CtKey :=
  ⟨vni, Vector.replicate 4 0, natIp, 0, port, proto⟩

def probe (ct : Conntrack) (vni : UInt32) (nat : NatValue) (proto : UInt8) (start range : UInt16) :
  Nat -> UInt16 -> Option UInt16
  | 0, _ => none
  | left + 1, i =>
    let cand := nat.portMin + (start + i) % range
    if ct.lookup (revKey vni nat.natIpv4 cand proto) = none then some cand
    else probe ct vni nat proto start range left (i + 1)

def revEntry (key : CtKey) (now : UInt64) : CtEntry :=
  ⟨now, key.srcIp, key.srcPort, ctRewriteDst ||| ctFSrcNat, 0, 0, 0⟩

def fwdEntry (nat : NatValue) (chosen : UInt16) (now : UInt64) (epoch : UInt32) : CtEntry :=
  ⟨now, nat.natIpv4, chosen, ctRewriteSrc ||| ctFSrcNat, 0, 0, epoch⟩

def allocate (ct : Conntrack) (nat : NatValue) (fwdKey : CtKey) (range : UInt16) (now : UInt64)
  (epoch : UInt32) : Option (UInt16 × Conntrack) :=
  let fresh : Option (UInt16 × Conntrack) :=
    let start := (hash5 fwdKey.srcIp fwdKey.dstIp fwdKey.srcPort fwdKey.dstPort fwdKey.proto
      % range.toUInt32).toUInt16
    (probe ct fwdKey.vni nat fwdKey.proto start range probeLimit 0).map fun chosen =>
      let rev := revKey fwdKey.vni nat.natIpv4 chosen fwdKey.proto
      (chosen, (ct.insert rev (revEntry fwdKey now)).insert fwdKey (fwdEntry nat chosen now epoch))
  match ct.lookup fwdKey with
  | some v => if v.flags &&& ctFSrcNat ≠ 0 then some (v.xlatePort, ct) else fresh
  | none => fresh

def rewriteL4 (pkt : Pkt) (l4 : Nat) (proto : UInt8) (src natIp : Vector UInt8 4) (sport natPort : UInt16) : Pkt :=
  let port := toBeBytes natPort
  if proto = ipprotoTcp then
    match pkt.readArray 18 l4 with
    | none => pkt
    | some h =>
      let c1 := csumReplace4 (fromBeBytes h[16] h[17]) src natIp
      let c2 := toBeBytes (csumReplace2 c1 sport natPort)
      (pkt.writeArray l4 ((((h.set 16 c2.1).set 17 c2.2).set 0 port.1).set 1 port.2)).getD pkt
  else if proto = ipprotoUdp then
    match pkt.readArray 8 l4 with
    | none => pkt
    | some h =>
      let c0 := fromBeBytes h[6] h[7]
      -- a zero UDP checksum stays zero
      let h := if c0 ≠ 0 then
          let c2 := toBeBytes (csumReplace2 (csumReplace4 c0 src natIp) sport natPort)
          (h.set 6 c2.1).set 7 c2.2
        else h
      (pkt.writeArray l4 ((h.set 0 port.1).set 1 port.2)).getD pkt
  else if proto = ipprotoIcmp then
    match pkt.readArray 8 l4 with
    | none => pkt
    | some h =>
      let c1 := toBeBytes (csumReplace2 (fromBeBytes h[2] h[3]) sport natPort)
      (pkt.writeArray l4 ((((h.set 2 c1.1).set 3 c1.2).set 4 port.1).set 5 port.2)).getD pkt
  else pkt

abbrev srcAddr (hdr : Vector UInt8 20) : Vector UInt8 4 := #v[hdr[12], hdr[13], hdr[14], hdr[15]]

abbrev dstAddr (hdr : Vector UInt8 20) : Vector UInt8 4 := #v[hdr[16], hdr[17], hdr[18], hdr[19]]

def rewriteSource (pkt : Pkt) (ipOff : Nat) (hdr : Vector UInt8 20) (natIp : Vector UInt8 4)
  (proto : UInt8) (sport natPort : UInt16) : Pkt :=
  let src := srcAddr hdr
  match pkt.writeArray (ipOff + 12) natIp with
  | none => pkt
  | some pkt =>
    let pkt := match pkt.readU16Be (ipOff + 10) with
      | some ipc =>
        let new := toBeBytes (csumReplace4 ipc src natIp)
        (pkt.writeArray (ipOff + 10) #v[new.1, new.2]).getD pkt
      | none => pkt
    rewriteL4 pkt (ipOff + (ihl hdr).toNat * 4) proto src natIp sport natPort

def snatEgress (pkt : Pkt) (nat : NatConfig) (ct : Conntrack) (ipOff : Nat) (vni : UInt32)
  (isExternal : Bool) (now : UInt64) (epoch : UInt32) : SnatOutcome × Pkt × Conntrack :=
  if isExternal = false then (.continue, pkt, ct)
  else
    match pkt.readArray 20 ipOff with
    | none => (.continue, pkt, ct)
    | some hdr =>
      let src := srcAddr hdr
      let dst := dstAddr hdr
      match nat.lookup ⟨vni, src⟩ with
      | none => (.continue, pkt, ct)
      | some binding =>
        let range := binding.portMax - binding.portMin
        if range = 0 then (.continue, pkt, ct)
        else
          match l4Ports pkt ipOff with
          | none => (.untranslatable, pkt, ct)
          | some (proto, sport, dport) =>
            let fwdKey : CtKey := ⟨vni, src, dst, sport, dport, proto⟩
            match allocate ct binding fwdKey range now epoch with
            | none => (.exhausted, pkt, ct)
            | some (natPort, ct) =>
              let pkt := rewriteSource pkt ipOff hdr binding.natIpv4 proto sport natPort
              (.continue, pkt, ct)

end Ectobase.Flowplane
