import Ectobase.Flowplane.Snat6

namespace Ectobase.Flowplane

open Shared

structure GuestTxIn where
  port : PortMeta
  srcIfindex : UInt32
  now : UInt64

structure GuestTxOut where
  action : Action
  edtTstamp : Option UInt64
  tunnel : Option TunnelEncap
  deriving DecidableEq

def GuestTxOut.dropped : GuestTxOut := ⟨.drop, none, none⟩
def GuestTxOut.passed : GuestTxOut := ⟨.pass, none, none⟩

inductive Deliver where
  | pass
  | tap (tapIfindex : UInt32) (guestMac : Vector UInt8 6)
  | encap (tunnel : TunnelEncap) (uplinkIfindex : UInt32)

variable (maps : Maps) (fw : FwReads) (s : Flows) (pkt : Pkt) (inp : GuestTxIn)

def deliverTo (iface : Option IfaceValue) (route : RouteValue) : Deliver :=
  match iface.filter fun iv => iv.isLocal != 0 with
  | some iv => .tap iv.tapIfindex iv.guestMac
  | none =>
    match maps.localNode with
    | none => .pass
    | some here => .encap (tunnelEncap route) here.uplinkIfindex

def rewriteMacs (guestMac : Vector UInt8 6) : Pkt := let pkt := (pkt.writeArray 0 guestMac).getD pkt
  (pkt.writeArray 6 gwMac).getD pkt

def wireLen : UInt64 := pkt.length.toUInt64 + geneveOverhead

-- none drops the frame; one that met the firewall here also meets the destination's.
def sourceCheck (fw : FwReads) (ct : Conntrack) (pkt : Pkt) (inp : GuestTxIn) : Option Bool × Conntrack :=
  match ctKey pkt ethLen inp.port.vni with
  | none => (none, ct)
  | some key =>
    let hit := ct.lookup key
    if hit.all fun e => ctHitRecheck pkt ethLen e fw.epoch then
      if fwClassify pkt fw.first.v4 ethLen inp.srcIfindex fwDirEgress = fwActionDrop then
        (none, if hit.isSome then ctForgetDefault ct pkt ethLen inp.port.vni else ct)
      else
        -- still allowed: the entry is stamped now, step 5 stamps the translated key
        (some true, hit.elim ct fun e => ct.insert key { e with policyEpoch := fw.epoch })
    else (some false, ct)

def dsrEntry (d : DsrLbIp) : CtEntry := ⟨0, addrAt d.lbIp 0, 0, ctRewriteSrc, 0, 0, 0⟩

def dsrReverse (vni : UInt32) : Option (Bool × Pkt) := match (ctKey pkt ethLen vni).bind maps.dsr with
  | none => some (false, pkt)
  | some d => (ctApply pkt ethLen (dsrEntry d)).map fun pkt => (true, pkt)

def deliverGuest (checkDest : Bool) (dst : Vector UInt8 4) (route : RouteValue) : GuestTxOut × Pkt × Flows :=
  match deliverTo maps (maps.ifaces inp.port.vni dst) route with
  | .tap tapIfindex guestMac =>
    if checkDest = true /\
        fwClassify pkt fw.second.v4 ethLen tapIfindex fwDirIngress = fwActionDrop then
      (.dropped, pkt, { s with conntrack := ctForgetDefault s.conntrack pkt ethLen inp.port.vni })
    else (⟨.redirect tapIfindex, none, none⟩, rewriteMacs pkt guestMac, s)
  | .encap tunnel uplinkIfindex =>
    let (tstamp, meter) := edtEgress s.meter inp.srcIfindex (wireLen pkt) inp.now
    (⟨.redirect uplinkIfindex, tstamp, some tunnel⟩, pkt, { s with meter })
  | .pass => (.passed, pkt, s)

def forwardGuest (checkDest isDsr : Bool) (dst : Vector UInt8 4) (route : RouteValue) : GuestTxOut × Pkt × Flows :=
  let isExt : Bool := route.isExternal != 0
  let snat := if isDsr then (.continue, pkt, s.conntrack)
    else snatEgress pkt maps.nat s.conntrack ethLen inp.port.vni isExt inp.now fw.epoch
  if snat.1 ≠ .continue then (.dropped, snat.2.1, { s with conntrack := snat.2.2 })
  else
    let ct := trackFlow snat.2.2 snat.2.1 ethLen inp.port.vni inp.now fw.epoch
    let (pass, meter) := publicPass s.meter inp.srcIfindex (wireLen snat.2.1) isExt inp.now
    let s := { s with conntrack := ct, meter }
    if pass = false then (.dropped, snat.2.1, s)
    else deliverGuest maps fw s snat.2.1 inp checkDest dst route

def routeGuest (checkDest : Bool) : GuestTxOut × Pkt × Flows :=
  match dsrReverse maps pkt inp.port.vni with
  | none => (.dropped, pkt, s)
  | some (isDsr, pkt) =>
    match pkt.readArray 4 (ethLen + 16) with
    | none => (.dropped, pkt, s)
    | some dst =>
      match maps.route4 inp.port.vni dst with
      | none => (.passed, pkt, s)
      | some route => forwardGuest maps fw s pkt inp checkDest isDsr dst route

def processGuestTx : GuestTxOut × Pkt × Flows := match sourceCheck fw s.conntrack pkt inp with
  | (none, ct) => (.dropped, pkt, { s with conntrack := ct })
  | (some checkDest, ct) => routeGuest maps fw { s with conntrack := ct } pkt inp checkDest

inductive EgressCt6 where
  | established
  | recheck
  | miss
  | unkeyable
  deriving DecidableEq, Repr

-- Unlike its IPv4 sibling it stamps a hit before the firewall has looked at it.
def egressCt6 (ct : Conntrack6) (pkt : Pkt) (ipOff : Nat) (vni : UInt32) (now : UInt64)
  (epoch : UInt32) : EgressCt6 × Conntrack6 :=
  match ctKey6 pkt ipOff vni with
  | none => (.unkeyable, ct)
  | some key =>
    match ct.lookup key with
    | none => (.miss, ct)
    | some e =>
      (if ctHitRecheck6 pkt ipOff e epoch then .recheck else .established, ctRefresh6 ct pkt ipOff key e now epoch)

def egressFwCt6 (fw : FwReads) (ct : Conntrack6) (pkt : Pkt) (ipOff : Nat) (ifindex vni : UInt32)
  (now : UInt64) : Option Bool × Conntrack6 :=
  let refused := fwClassify6 pkt fw.first.v6 ipOff ifindex fwDirEgress = fwActionDrop
  match egressCt6 ct pkt ipOff vni now fw.epoch with
  | (.established, ct) => (some false, ct)
  | (.unkeyable, ct) => (none, ct)
  | (.miss, ct) =>
    if refused then (none, ct)
    else (some true, ctCreateDefault6 ct pkt ipOff vni now fw.epoch)
  | (.recheck, ct) =>
    if refused then (none, ctForgetDefault6 ct pkt ipOff vni) else (some true, ct)

def dsrReverse6 (vni : UInt32) : Bool × Pkt :=
  match (ctKey6 pkt ethLen vni).bind maps.dsr6, pkt.readArray 16 (ethLen + 8) with
  | some d, some src =>
    let nexthdr := (pkt.readU8 (ethLen + 6)).getD 0
    (true, (rewriteV6Addr pkt ethLen (ethLen + 8) nexthdr src d.lbIp).getD pkt)
  | _, _ => (false, pkt)

def isExternal6 (vni : UInt32) : Bool :=
  (((pkt.readArray 16 (ethLen + 24)).bind (maps.route6 vni)).map fun r => r.isExternal != 0).getD false

def routeDecision6 (vni : UInt32) : Deliver := match pkt.readArray 16 (ethLen + 24) with
  | none => .pass
  | some dst =>
    match maps.route6 vni dst with
    | none => .pass
    | some route => deliverTo maps (maps.ifaces6 vni dst) route

def deliverGuest6 (checkDest : Bool) : GuestTxOut × Pkt × Flows :=
  match routeDecision6 maps pkt inp.port.vni with
  | .tap tapIfindex guestMac =>
    if checkDest = true /\
        fwClassify6 pkt fw.second.v6 ethLen tapIfindex fwDirIngress = fwActionDrop then
      (.dropped, pkt, { s with conntrack6 := ctForgetDefault6 s.conntrack6 pkt ethLen inp.port.vni })
    else (⟨.redirect tapIfindex, none, none⟩, rewriteMacs pkt guestMac, s)
  | .encap tunnel uplinkIfindex =>
    let (tstamp, meter) := edtEgress s.meter inp.srcIfindex (wireLen pkt) inp.now
    (⟨.redirect uplinkIfindex, tstamp, some tunnel⟩, pkt, { s with meter })
  | .pass => (.passed, pkt, s)

def forwardGuest6 (checkDest : Bool) : GuestTxOut × Pkt × Flows :=
  let dsr := dsrReverse6 maps pkt inp.port.vni
  let snat := if dsr.1 then (.continue, dsr.2, s.natCt6)
    else snatEgress6 dsr.2 maps.nat6 s.natCt6 ethLen inp.port.vni (isExternal6 maps dsr.2 inp.port.vni) inp.now
  if snat.1 ≠ .continue then (.dropped, snat.2.1, { s with natCt6 := snat.2.2 })
  else deliverGuest6 maps fw { s with natCt6 := snat.2.2 } snat.2.1 inp checkDest

def processGuestTxV6 : GuestTxOut × Pkt × Flows :=
  match egressFwCt6 fw s.conntrack6 pkt ethLen inp.srcIfindex inp.port.vni inp.now with
  | (none, ct) => (.dropped, pkt, { s with conntrack6 := ct })
  | (some checkDest, ct) => forwardGuest6 maps fw { s with conntrack6 := ct } pkt inp checkDest

end Ectobase.Flowplane
