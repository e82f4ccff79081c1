import Ectobase.Flowplane.Nat64

namespace Ectobase.Flowplane

open Shared

structure UplinkIn where
  vni : UInt32
  node : Local
  now : UInt64

structure UplinkOut where
  action : Action
  tunnel : Option TunnelEncap
  deriving DecidableEq

def UplinkOut.dropped : UplinkOut := ⟨.drop, none⟩

inductive UplinkTarget where
  | tap (tapIfindex : UInt32) (guestMac : Vector UInt8 6) (peerCapable : Bool)
  | edgeLocalDeliver
  | drop

variable (maps : Maps) (fw : FwReads) (s : Flows) (pkt : Pkt) (inp : UplinkIn)

def uplinkTarget (iface : Option IfaceValue) (node : Local) : UplinkTarget :=
  match iface.filter fun iv => iv.isLocal != 0 with
  | some iv => .tap iv.tapIfindex iv.guestMac (iv.peerCapable != 0)
  | none =>
    if (maps.underlay node.underlayIpv6).any fun u => u.tapIfindex == underlayLocalDeliver then
      .edgeLocalDeliver
    else .drop

def resolveUplinkTarget (vni : UInt32) (dst : Vector UInt8 4) (node : Local) : UplinkTarget :=
  uplinkTarget maps (maps.ifaces vni dst) node

def resolveUplinkTarget6 (vni : UInt32) (dst : Vector UInt8 16) (node : Local) : UplinkTarget :=
  uplinkTarget maps (maps.ifaces6 vni dst) node

def rewriteEth (dstMac : Vector UInt8 6) (ethertype : UInt16) : Option Pkt := do
  let pkt <- pkt.writeArray 0 dstMac
  let pkt <- pkt.writeArray 6 gwMac
  pkt.writeArray 12 (be16 ethertype)

def decapAndRewrite (tapIfindex : UInt32) (guestMac : Vector UInt8 6)
  (ethertype : UInt16) (l3 peerCapable : Bool) : Action × Pkt :=
  let dstMac := if l3 then Vector.replicate 6 0 else guestMac
  match rewriteEth pkt dstMac ethertype with
  | none => (.drop, pkt)
  | some pkt => (if peerCapable then .redirectPeer tapIfindex else .redirect tapIfindex, pkt)

def edgeLocalDeliver (uplinkMac : Vector UInt8 6) (ethertype : UInt16) : Action × Pkt :=
  match rewriteEth pkt uplinkMac ethertype with
  | none => (.drop, pkt)
  | some pkt => (.passToStack, pkt)

def resolveNat64GuestIpv6 (tapIfindex : UInt32) : Vector UInt8 16 :=
  ((maps.portMeta tapIfindex).map fun m => m.guestIpv6).getD (Vector.replicate 16 0)

def resolveDeliveryL3 (tapIfindex : UInt32) : Bool :=
  ((maps.portMeta tapIfindex).map fun m => m.l3 != 0).getD false

def dnatL4 (l4 : Nat) (proto : UInt8) (old new : Vector UInt8 4) : Pkt := if proto = ipprotoTcp then
  match pkt.readArray 18 l4 with
  | none => pkt
  | some h => (pkt.writeArray l4 (copyAt h 16 (be16 (csumReplace4 (wordAt h 16) old new)))).getD pkt
  else if proto = ipprotoUdp then
    match pkt.readArray 8 l4 with
    | none => pkt
    | some h =>
      let c0 := wordAt h 6
      let h := if c0 ≠ 0 then copyAt h 6 (be16 (csumReplace4 c0 old new)) else h
      (pkt.writeArray l4 h).getD pkt
  else pkt

def floatingIpDnatRewrite (ipOff : Nat) (old new : Vector UInt8 4) : Pkt :=
  match pkt.writeArray (ipOff + 16) new with
  | none => pkt
  | some pkt =>
    let pkt := match pkt.readU16Be (ipOff + 10) with
      | some ipc => (pkt.writeArray (ipOff + 10) (be16 (csumReplace4 ipc old new))).getD pkt
      | none => pkt
    match pkt.readU8 ipOff, pkt.readU8 (ipOff + 9) with
    | some verIhl, some proto => dnatL4 pkt (ipOff + (verIhl &&& 0x0f).toNat * 4) proto old new
    | _, _ => pkt

def uplinkIngressFirewall (fw : FwReads) (ct : Conntrack) (pkt : Pkt) (innerOff : Nat)
  (vni tap : UInt32) : Option UInt32 × Conntrack :=
  match ctKey pkt innerOff vni with
  | none => (none, ct)
  | some key =>
    let hit := ct.lookup key
    if (hit.all fun e => ctHitRecheck pkt innerOff e fw.epoch) = true /\
        fwClassify pkt fw.first.v4 innerOff tap fwDirIngress = fwActionDrop then
      (none, if hit.isSome then ctForgetDefault ct pkt innerOff vni else ct)
    else (some fw.epoch, ct)

def uplinkIngressFirewall6 (fw : FwReads) (ct : Conntrack6) (pkt : Pkt) (innerOff : Nat)
  (vni tap : UInt32) : Option UInt32 × Conntrack6 :=
  match ctKey6 pkt innerOff vni with
  | none => (none, ct)
  | some key =>
    let hit := ct.lookup key
    if (hit.all fun e => ctHitRecheck6 pkt innerOff e fw.epoch) = true /\
        fwClassify6 pkt fw.first.v6 innerOff tap fwDirIngress = fwActionDrop then
      (none, if hit.isSome then ctForgetDefault6 ct pkt innerOff vni else ct)
    else (some fw.epoch, ct)

inductive UplinkRoute where
  | tap (tapIfindex : UInt32) (guestMac : Vector UInt8 6) (isLb peerCapable : Bool)
  | relay (tunnel : TunnelEncap)
  | edge
  | drop

def lbRoute (be : LbBackend) (iface : Option IfaceValue) (node : Local) : UplinkRoute :=
  if be.nodeVtep = node.underlayIpv6 then
    match iface.filter fun iv => iv.isLocal != 0 with
    | some iv => .tap iv.tapIfindex iv.guestMac true (iv.peerCapable != 0)
    | none => .drop
  else .relay (reforward be.vni be.nodeVtep)

def UplinkTarget.route : UplinkTarget -> UplinkRoute
  | .tap tapIfindex guestMac peerCapable => .tap tapIfindex guestMac false peerCapable
  | .edgeLocalDeliver => .edge
  | .drop => .drop

-- A floating address is rewritten, a NAT address of another node relayed.
def baseRoute : UplinkRoute × Pkt := match pkt.readArray 4 (ethLen + 16) with
  | none => (.drop, pkt)
  | some dst =>
    match maps.floatingIp inp.vni dst with
    | some g =>
      ((resolveUplinkTarget maps inp.vni g inp.node).route, floatingIpDnatRewrite pkt ethLen dst g)
    | none =>
      match (l4Ports pkt ethLen).bind fun ports => neighborNatOwner maps inp.vni dst ports.2.2 with
      | some owner => (.relay (reforward inp.vni owner), pkt)
      | none => ((resolveUplinkTarget maps inp.vni dst inp.node).route, pkt)

def uplinkRoute : Bool × UplinkRoute × Pkt :=
  let icmpRelay := lbSelectForwardIcmpError pkt maps ethLen inp.vni
  match icmpRelay.or (lbSelectForward pkt maps ethLen inp.vni) with
  | some be => (icmpRelay.isSome, lbRoute be (maps.ifaces be.vni (addrAt be.overlayIp 0)) inp.node, pkt)
  | none => (false, baseRoute maps pkt inp)

def deliverUplink (tap : UInt32) (guestMac : Vector UInt8 6) (peerCapable : Bool) : UplinkOut × Pkt × Flows :=
  let (action, pkt) := decapAndRewrite pkt tap guestMac ethPIp (resolveDeliveryL3 maps tap) peerCapable
  if action = .drop then (⟨action, none⟩, pkt, s)
  else
    let (pass, meter) := ingressPass s.meter tap pkt.length.toUInt64 inp.now
    (⟨if pass then action else .drop, none⟩, pkt, { s with meter })

def admitUplink (isIcmpRelay : Bool) (tap : UInt32) (guestMac : Vector UInt8 6) (isLb peerCapable : Bool) :
  UplinkOut × Pkt × Flows :=
  let (admitted, ct) := if isIcmpRelay then (some fw.epoch, s.conntrack)
    else uplinkIngressFirewall fw s.conntrack pkt ethLen inp.vni tap
  match admitted with
  | none => (.dropped, pkt, { s with conntrack := ct })
  | some epoch =>
    -- a load-balanced flow is not tracked
    let ct := if isLb then ct else trackFlow ct pkt ethLen inp.vni inp.now epoch
    deliverUplink maps { s with conntrack := ct } pkt inp tap guestMac peerCapable

def processUplink : UplinkOut × Pkt × Flows := match uplinkRoute maps pkt inp with
  | (_, .drop, pkt) => (.dropped, pkt, s)
  | (_, .relay tunnel, pkt) => (⟨.redirect inp.node.uplinkIfindex, some tunnel⟩, pkt, s)
  | (_, .edge, pkt) =>
    let (action, pkt) := edgeLocalDeliver pkt inp.node.uplinkMac ethPIp
    (⟨action, none⟩, pkt, s)
  | (isIcmpRelay, .tap tap guestMac isLb peerCapable, pkt) =>
    admitUplink maps fw s pkt inp isIcmpRelay tap guestMac isLb peerCapable

def natReturnKey6 (vni : UInt32) : Option (CtKey6 × Bool) := match ctKey6 pkt ethLen vni with
  | none => none
  | some key =>
    if maps.isNatIp6 vni key.dstIp = false then none
    else
      let key : CtKey6 := { key with srcIp := Vector.replicate 16 0, srcPort := 0 }
      -- only a quote of this very address says which flow the error is about
      match (natIcmpErrorOrigin6 pkt ethLen).filter fun q => q.1 == key.dstIp with
      | some (_, quotedSport, quotedProto) =>
        some ({ key with dstPort := quotedSport, proto := quotedProto }, true)
      | none => some (key, false)

def natReturnDnat6 (maps : Maps) (ct : NatCt6) (pkt : Pkt) (vni : UInt32) : Option Pkt :=
  match natReturnKey6 maps pkt vni with
  | none => none
  | some (key, isIcmpError) =>
    match (ct.lookup key).filter fun e => e.flags &&& ctRewriteDst != 0 with
    | none => none
    | some e =>
      some (if isIcmpError then natIcmpErrorReturnRewrite6 pkt ethLen e
        else natReturnRewrite6 pkt ethLen e)

def baseRoute6 : UplinkRoute := match pkt.readArray 16 (ethLen + 24) with
  | none => .drop
  | some dst =>
    match (l4PortsV6 pkt ethLen).bind fun ports => neighborNatOwner6 maps inp.vni dst ports.2.2 with
    | some owner => .relay (reforward inp.vni owner)
    | none => (resolveUplinkTarget6 maps inp.vni dst inp.node).route

def uplinkRoute6 : Bool × UplinkRoute :=
  let icmpRelay := lbSelectForwardIcmpErrorV6 pkt maps ethLen inp.vni
  match icmpRelay.or (lbSelectForwardV6 pkt maps ethLen inp.vni) with
  | some be => (icmpRelay.isSome, lbRoute be (maps.ifaces6 be.vni be.overlayIp) inp.node)
  | none => (false, baseRoute6 maps pkt inp)

def admitUplink6 (exempt isNatReturn : Bool) (tap : UInt32) (guestMac : Vector UInt8 6)
  (isLb peerCapable : Bool) : UplinkOut × Pkt × Flows :=
  let (admitted, ct) := if exempt then (some fw.epoch, s.conntrack6)
    else uplinkIngressFirewall6 fw s.conntrack6 pkt ethLen inp.vni tap
  match admitted with
  | none => (.dropped, pkt, { s with conntrack6 := ct })
  | some epoch =>
    let ct := if isLb || isNatReturn then ct else trackFlow6 ct pkt ethLen inp.vni inp.now epoch
    let (action, pkt) :=
      decapAndRewrite pkt tap guestMac ethPIpv6 (resolveDeliveryL3 maps tap) peerCapable
    (⟨action, none⟩, pkt, { s with conntrack6 := ct })

def processUplinkV6 : UplinkOut × Pkt × Flows := let nat := natReturnDnat6 maps s.natCt6 pkt inp.vni
  let pkt := nat.getD pkt
  match uplinkRoute6 maps pkt inp with
  | (_, .drop) => (.dropped, pkt, s)
  | (_, .relay tunnel) => (⟨.redirect inp.node.uplinkIfindex, some tunnel⟩, pkt, s)
  | (_, .edge) =>
    let (action, pkt) := edgeLocalDeliver pkt inp.node.uplinkMac ethPIpv6
    (⟨action, none⟩, pkt, s)
  | (isIcmpRelay, .tap tap guestMac isLb peerCapable) =>
    admitUplink6 maps fw s pkt inp (nat.isSome || isIcmpRelay) nat.isSome tap guestMac isLb peerCapable

-- Peer-independent when the destination is a NAT address; and whether it is an ICMP error.
def natReturnKey (innerOff : Nat) (vni : UInt32) : Option (CtKey × Bool) :=
  match ctKey pkt innerOff vni with
  | none => none
  | some key =>
    if maps.isNatIp vni key.dstIp = false then some (key, false)
    else
      let key : CtKey := { key with srcIp := Vector.replicate 4 0, srcPort := 0 }
      match (natIcmpErrorOrigin pkt innerOff).filter fun q => q.1 == key.dstIp with
      | some (_, quotedSport, quotedProto) =>
        some ({ key with dstPort := quotedSport, proto := quotedProto }, true)
      | none => some (key, false)

def natReturnApply (maps : Maps) (ct : Conntrack) (pkt : Pkt) (vni : UInt32) : Option (Vector UInt8 4 × Pkt) :=
  match natReturnKey maps pkt ethLen vni with
  | none => none
  | some (key, isIcmpError) =>
    match (ct.lookup key).filter fun e => e.flags &&& ctRewriteDst != 0 with
    | none => none
    | some e =>
      (if isIcmpError then natIcmpErrorReturnRewrite pkt ethLen e else ctApply pkt ethLen e).map fun pkt => (e.xlateIp, pkt)

def processUplinkNatReturn (maps : Maps) (ct : Conntrack) (pkt : Pkt) (vni : UInt32) (node : Local) : Action × Pkt :=
  match natReturnApply maps ct pkt vni with
  | none => (.drop, pkt)
  | some (dst, pkt) =>
    match resolveUplinkTarget maps vni dst node with
    | .tap tapIfindex guestMac peerCapable =>
      decapAndRewrite pkt tapIfindex guestMac ethPIp (resolveDeliveryL3 maps tapIfindex) peerCapable
    | .edgeLocalDeliver => (.drop, pkt)
    | .drop => (.drop, pkt)

def natReturnEntry (maps : Maps) (ct : Conntrack) (pkt : Pkt) (vni : UInt32) : Option (CtKey × CtEntry) :=
  if (lbSelectForward pkt maps ethLen vni).isSome then none
  else
    match natReturnKey maps pkt ethLen vni with
    | none => none
    | some (key, _) =>
      ((ct.lookup key).filter fun e => e.flags &&& ctRewriteDst != 0).map fun e => (key, e)

def returnNat64 (key : CtKey) (e : CtEntry) : UplinkOut × Pkt × Flows :=
  let r := refreshed pkt ethLen e inp.now fw.epoch
  let s := { s with conntrack := s.conntrack.insert key r }
  match resolveUplinkTarget maps inp.vni r.xlateIp inp.node with
  | .tap tapIfindex guestMac _ =>
    let (action, pkt) := processUplinkNat64Ingress pkt
      ⟨tapIfindex, guestMac, resolveNat64GuestIpv6 maps tapIfindex, r⟩
    (⟨action, none⟩, pkt, s)
  | .edgeLocalDeliver => (.dropped, pkt, s)
  | .drop => (.dropped, pkt, s)

def processUplinkRx : UplinkOut × Pkt × Flows := match natReturnEntry maps s.conntrack pkt inp.vni with
  | none => processUplink maps fw s pkt inp
  | some (key, e) =>
    if e.flags &&& ctFNat64 ≠ 0 then returnNat64 maps fw s pkt inp key e
    else
      let (action, pkt) := processUplinkNatReturn maps s.conntrack pkt inp.vni inp.node
      (⟨action, none⟩, pkt, s)

end Ectobase.Flowplane
