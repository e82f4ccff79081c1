import Ectobase.Flowplane.Conntrack6
import Ectobase.Flowplane.FwClassify
import Ectobase.Flowplane.Routes
import Ectobase.Flowplane.Snat

namespace Ectobase.Flowplane

open Shared

def ethLen : Nat := 14
def ipv6Len : Nat := 40
def ethPIp : UInt16 := 0x0800
def ethPIpv6 : UInt16 := 0x86DD
def gwMac : Vector UInt8 6 := #v[0x02, 0x00, 0x00, 0x00, 0x00, 0x01]
def geneveOverhead : UInt64 := 56
def underlayLocalDeliver : UInt32 := 0xffffffff

inductive Action where
  | pass
  | drop
  | redirect (ifindex : UInt32)
  | redirectPeer (ifindex : UInt32)
  | passToStack
  deriving DecidableEq, Repr

structure Local where
  uplinkIfindex : UInt32
  uplinkMac : Vector UInt8 6
  underlayIpv6 : Octets 16

structure UnderlayValue where
  tapIfindex : UInt32

structure IfaceValue where
  tapIfindex : UInt32
  isLocal : UInt32
  guestMac : Vector UInt8 6
  peerCapable : UInt8

structure PortMeta where
  vni : UInt32
  guestIpv4 : Vector UInt8 4
  guestIpv6 : Vector UInt8 16
  l3 : UInt8

structure LbKey where
  vni : UInt32
  ipv4 : Vector UInt8 4
  port : UInt16
  proto : UInt8

structure LbKey6 where
  vni : UInt32
  ipv6 : Vector UInt8 16
  port : UInt16
  proto : UInt8

structure LbValue where
  tableId : UInt32
  size : UInt32

structure MaglevKey where
  tableId : UInt32
  slot : UInt32

structure LbBackend where
  nodeVtep : Octets 16
  overlayIp : Vector UInt8 16
  vni : UInt32

structure DsrLbIp where
  lbIp : Vector UInt8 16

structure NatKey6 where
  vni : UInt32
  ipv6 : Vector UInt8 16
  deriving DecidableEq, Repr

structure NatValue6 where
  natIpv6 : Vector UInt8 16
  portMin : UInt16
  portMax : UInt16
  deriving DecidableEq, Repr

structure CtEntry6 where
  lastSeen : UInt64
  xlateIp6 : Vector UInt8 16
  xlatePort : UInt16
  flags : UInt8
  tcpState : UInt8
  deriving DecidableEq, Repr

abbrev NatCt6 := Map CtKey6 CtEntry6

structure MeterState where
  totalBps : UInt64
  totalLastNs : UInt64
  publicBps : UInt64
  publicBurst : UInt64
  publicTokens : UInt64
  publicLastNs : UInt64
  ingressBps : UInt64
  ingressBurst : UInt64
  ingressTokens : UInt64
  ingressLastNs : UInt64

structure Maps where
  localNode : Option Local
  underlay : Octets 16 -> Option UnderlayValue
  route4 : UInt32 -> Vector UInt8 4 -> Option RouteValue
  route6 : UInt32 -> Vector UInt8 16 -> Option RouteValue
  ifaces : UInt32 -> Vector UInt8 4 -> Option IfaceValue
  ifaces6 : UInt32 -> Vector UInt8 16 -> Option IfaceValue
  portMeta : UInt32 -> Option PortMeta
  nat : NatConfig
  nat6 : Map NatKey6 NatValue6
  isNatIp : UInt32 -> Vector UInt8 4 -> Bool
  isNatIp6 : UInt32 -> Vector UInt8 16 -> Bool
  natOwner : Vector UInt8 4 -> UInt16 -> Option NatOwner
  natOwner6 : Vector UInt8 16 -> UInt16 -> Option NatOwner
  lb : LbKey -> Option LbValue
  lb6 : LbKey6 -> Option LbValue
  maglev : MaglevKey -> Option LbBackend
  floatingIp : UInt32 -> Vector UInt8 4 -> Option (Vector UInt8 4)
  dsr : CtKey -> Option DsrLbIp
  dsr6 : CtKey6 -> Option DsrLbIp

structure Flows where
  conntrack : Conntrack
  conntrack6 : Conntrack6
  natCt6 : NatCt6
  meter : Map UInt32 MeterState

structure FwPolicies where
  fwBind : UInt32 -> Option FwBind
  fwClass4 : UInt64 -> Vector UInt8 4 -> Option UInt32
  fwPolicy4 : UInt64 -> FwPolKey -> Option Nat
  fwClass6 : UInt64 -> Vector UInt8 16 -> Option UInt32
  fwPolicy6 : UInt64 -> FwPolKey -> Option Nat

def FwPolicies.v4 (t : FwPolicies) : FwMaps := ⟨t.fwBind, t.fwClass4, t.fwPolicy4⟩
def FwPolicies.v6 (t : FwPolicies) : FwMaps6 := ⟨t.fwBind, t.fwClass6, t.fwPolicy6⟩

-- The control plane may write between any two of these reads.
structure FwReads where
  epoch : UInt32
  first : FwPolicies
  second : FwPolicies

def FwPolicies.steady (t : FwPolicies) (epoch : UInt32) : FwReads := ⟨epoch, t, t⟩

-- The destination of the decision "send through the tunnel".
structure TunnelEncap where
  vni : UInt32
  remote : Octets 16
  deriving DecidableEq

def tunnelEncap (route : RouteValue) : TunnelEncap := ⟨route.nexthopVni, route.nexthopIpv6⟩

def reforward (vni : UInt32) (backend : Octets 16) : TunnelEncap := ⟨vni, backend⟩

def neighborNatOwner (maps : Maps) (vni : UInt32) (dst : Vector UInt8 4) (dport : UInt16) : Option (Octets 16) :=
  ((maps.natOwner dst dport).filter fun o => o.vni == vni).map fun o => o.underlay

def neighborNatOwner6 (maps : Maps) (vni : UInt32) (dst : Vector UInt8 16) (dport : UInt16) : Option (Octets 16) :=
  ((maps.natOwner6 dst dport).filter fun o => o.vni == vni).map fun o => o.underlay

-- Rate metering.

def saturatingAdd (a b : UInt64) : UInt64 := if a + b < a then 0xffffffffffffffff else a + b

def saturatingMul (a b : UInt64) : UInt64 :=
  if a.toNat * b.toNat < 2 ^ 64 then a * b else 0xffffffffffffffff

def take (bps burst tokens lastNs now len : UInt64) : Bool × UInt64 := if bps = 0 then (true, tokens)
  else
    let elapsed := saturatingSub now lastNs
    let capped := if elapsed > 1000000000 then 1000000000 else elapsed
    let refill := capped / 1000000000 * bps + capped % 1000000000 * bps / 1000000000
    let filled := saturatingAdd tokens refill
    let t := if filled > burst then burst else filled
    if t ≥ len then (true, t - len) else (false, t)

def edtDeparture (rateBps wireLen tLast now : UInt64) : UInt64 × UInt64 :=
  if rateBps = 0 then (now, now)
  else
    let delay := saturatingMul wireLen 1000000000 / rateBps
    let tSched := if tLast > now then tLast else now
    (tSched, saturatingAdd tSched delay)

def edtEgress (meter : Map UInt32 MeterState) (ifindex : UInt32) (wireLen now : UInt64) :
  Option UInt64 × Map UInt32 MeterState :=
  match meter.lookup ifindex with
  | none => (none, meter)
  | some m =>
    if m.totalBps = 0 then (none, meter)
    else
      let (tstamp, tLast) := edtDeparture m.totalBps wireLen m.totalLastNs now
      (some tstamp, meter.insert ifindex { m with totalLastNs := tLast })

def publicPass (meter : Map UInt32 MeterState) (ifindex : UInt32) (len : UInt64) (isExternal : Bool)
  (now : UInt64) : Bool × Map UInt32 MeterState :=
  if isExternal = false then (true, meter)
  else
    match meter.lookup ifindex with
    | none => (true, meter)
    | some m =>
      if m.publicBps = 0 then (true, meter)
      else
        let (pass, tok) := take m.publicBps m.publicBurst m.publicTokens m.publicLastNs now len
        (pass, meter.insert ifindex { m with publicTokens := tok, publicLastNs := now })

def ingressPass (meter : Map UInt32 MeterState) (ifindex : UInt32) (len now : UInt64) : Bool × Map UInt32 MeterState :=
  match meter.lookup ifindex with
  | none => (true, meter)
  | some m =>
    if m.ingressBps = 0 then (true, meter)
    else
      let (pass, tok) := take m.ingressBps m.ingressBurst m.ingressTokens m.ingressLastNs now len
      (pass, meter.insert ifindex { m with ingressTokens := tok, ingressLastNs := now })

lemma publicPass_unmetered (ifindex : UInt32) (len : UInt64) (isExternal : Bool) (now : UInt64) :
  publicPass ∅ ifindex len isExternal now = (true, ∅) := by
  unfold publicPass
  split <;> simp

end Ectobase.Flowplane
