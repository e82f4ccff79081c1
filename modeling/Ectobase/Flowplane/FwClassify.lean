import Ectobase.Flowplane.FwClass
import Ectobase.Flowplane.Packet
import Ectobase.Shared.LongestPrefix

namespace Ectobase.Flowplane

open Shared

-- The maps the evaluator reads; a deployment supplies them.
structure FwMaps where
  fwBind : UInt32 -> Option FwBind
  fwClass4 : UInt64 -> Vector UInt8 4 -> Option UInt32
  fwPolicy4 : UInt64 -> FwPolKey -> Option Nat

def fwProbeVerdict (specific any : Option Nat) : UInt8 := let best := match specific, any with
  | some a, some b => some (if b < a then a else b)
  | a, none => a
  | none, b => b
  match best with
  | some p => if fwPrecedenceAllows p then fwActionAccept else fwActionDrop
  | none => fwActionDrop

def fwPolSuffix (proto : UInt8) (dport : UInt16) (icmp : UInt16 × UInt16) (icmpProto : UInt8) : UInt8 × UInt8 :=
  if proto = icmpProto then (icmp.1.toUInt8, icmp.2.toUInt8)
  else if proto = ipprotoTcp \/ proto = ipprotoUdp then toBeBytes dport
  else (0, 0)

variable {n : Nat} (icmpProto : UInt8) (pkt : Pkt) (ipOff : Nat)

def protoPorts : UInt8 × UInt16 × UInt16 :=
  (l4Ports pkt ipOff).getD ((pkt.readU8 (ipOff + 9)).getD 0, 0, 0)

def fwClassify (pkt : Pkt) (maps : FwMaps) (ipOff : Nat) (ifindex : UInt32) (dir : UInt8) : UInt8 :=
  match maps.fwBind ifindex with
  | none => fwActionDrop
  | some bind =>
    let scope := bind.scope dir
    if scope = fwScopeNone then fwActionDrop
    else
      let peerOff := if dir = fwDirEgress then 16 else 12
      match pkt.readArray 4 (ipOff + peerOff) with
      | none => fwActionDrop
      | some peer =>
        let (proto, _, dport) := protoPorts pkt ipOff
        let port := fwPolSuffix proto dport (icmpTypeCode pkt ipOff) ipprotoIcmp
        let specific := match maps.fwClass4 scope peer with
          | some c =>
            if c ≠ fwClassAny then
              maps.fwPolicy4 scope { cls := c, proto, port }
            else none
          | none => none
        let any := maps.fwPolicy4 scope { cls := fwClassAny, proto, port }
        fwProbeVerdict specific any

-- The IPv6 half of the maps the evaluator reads.
structure FwMaps6 where
  fwBind : UInt32 -> Option FwBind
  fwClass6 : UInt64 -> Vector UInt8 16 -> Option UInt32
  fwPolicy6 : UInt64 -> FwPolKey -> Option Nat

def protoPorts6 : UInt8 × UInt16 × UInt16 :=
  (l4PortsV6 pkt ipOff).getD ((pkt.readU8 (ipOff + 6)).getD 0, 0, 0)

def fwClassify6 (pkt : Pkt) (maps : FwMaps6) (ipOff : Nat) (ifindex : UInt32) (dir : UInt8) : UInt8 :=
  match maps.fwBind ifindex with
  | none => fwActionDrop
  | some bind =>
    let scope := bind.scope dir
    if scope = fwScopeNone then fwActionDrop
    else
      let peerOff := if dir = fwDirEgress then 24 else 8
      match pkt.readArray 16 (ipOff + peerOff) with
      | none => fwActionDrop
      | some peer =>
        let (proto, _, dport) := protoPorts6 pkt ipOff
        let port := fwPolSuffix proto dport (icmpTypeCodeV6 pkt ipOff) ipprotoIcmpv6
        let specific := match maps.fwClass6 scope peer with
          | some c =>
            if c ≠ fwClassAny then
              maps.fwPolicy6 scope { cls := c, proto, port }
            else none
          | none => none
        let any := maps.fwPolicy6 scope { cls := fwClassAny, proto, port }
        fwProbeVerdict specific any

structure PacketSelectors (n : Nat) where
  src : Vector UInt8 n
  dst : Vector UInt8 n
  proto : UInt8
  sport : UInt16
  dport : UInt16
  icmpType : UInt16
  icmpCode : UInt16
  deriving DecidableEq, Repr

def maskedEq (addr rule mask : Vector UInt8 n) : Bool :=
  (List.finRange n).all fun i => addr.get i &&& mask.get i == rule.get i &&& mask.get i

-- Ports are matched for TCP/UDP only, type and code for ICMP only.
def l4Matches (r : Rule n) (s : PacketSelectors n) : Bool := if s.proto = 6 \/ s.proto = 17 then
  decide (r.srcPortMin <= s.sport) && decide (s.sport <= r.srcPortMax) &&
    decide (r.dstPortMin <= s.dport) && decide (s.dport <= r.dstPortMax)
  else if s.proto = icmpProto then
    (r.icmpType == 0xffff || s.icmpType == r.icmpType) && (r.icmpCode == 0xffff || s.icmpCode == r.icmpCode)
  else true

def ruleMatches (r : Rule n) (s : PacketSelectors n) : Bool := if r.enabled = 0 then false
  else if r.proto ≠ 0 /\ r.proto ≠ s.proto then false
  else if (maskedEq s.src r.srcIp r.srcMask && maskedEq s.dst r.dstIp r.dstMask) = false then false
  else l4Matches icmpProto r s

def fwRuleMatches (r : FwRule) (s : PacketSelectors 4) : Bool := ruleMatches 1 r s

def selectors (src dst : Vector UInt8 4) : PacketSelectors 4 :=
  let (proto, sport, dport) := protoPorts pkt ipOff
  let (icmpType, icmpCode) := icmpTypeCode pkt ipOff
  { src := src
    dst := dst
    proto := proto
    sport := sport
    dport := dport
    icmpType := icmpType
    icmpCode }

def firstMatch (rules : List FwRule) (dir : UInt8) : UInt8 :=
  match pkt.readArray 4 (ipOff + 12), pkt.readArray 4 (ipOff + 16) with
  | some src, some dst =>
    let sel := selectors pkt ipOff src dst
    match rules.find? fun r => r.direction == dir && fwRuleMatches r sel with
    | some r => r.action
    | none => fwActionDrop
  | _, _ => fwActionDrop

def fwRule6Matches (r : FwRule6) (s : PacketSelectors 16) : Bool := ruleMatches 58 r s

def selectors6 (src dst : Vector UInt8 16) : PacketSelectors 16 :=
  let (proto, sport, dport) := protoPorts6 pkt ipOff
  let (icmpType, icmpCode) := icmpTypeCodeV6 pkt ipOff
  { src := src
    dst := dst
    proto := proto
    sport := sport
    dport := dport
    icmpType := icmpType
    icmpCode }

def firstMatch6 (rules : List FwRule6) (dir : UInt8) : UInt8 :=
  match pkt.readArray 16 (ipOff + 8), pkt.readArray 16 (ipOff + 24) with
  | some src, some dst =>
    let sel := selectors6 pkt ipOff src dst
    match rules.find? fun r => r.direction == dir && fwRule6Matches r sel with
    | some r => r.action
    | none => fwActionDrop
  | _, _ => fwActionDrop

def prefixMatch (a b : List UInt8) (len : Nat) : Bool := let full := len / 8
  if a.take full ≠ b.take full then false
  else
    let rem := len % 8
    rem == 0 || a.getD full 0 &&& maskByte rem == b.getD full 0 &&& maskByte rem

def classLpm (classes : List (Vector UInt8 n × Nat × UInt32)) (addr : Vector UInt8 n) : Option UInt32 :=
  (maxByKey (fun entry => entry.2.1)
    (classes.filter fun entry => prefixMatch entry.1.toList addr.toList entry.2.1)).map fun entry => entry.2.2

def policyLpm (entries : List (Nat × FwPolKey × Nat)) (key : FwPolKey) : Option Nat :=
  (maxByKey (fun entry => entry.1)
    (entries.filter fun entry => prefixMatch entry.2.1.bytes key.bytes entry.1)).map fun entry => entry.2.2

end Ectobase.Flowplane
