import Ectobase.Flowplane.Packet
import Ectobase.Shared.Maps

namespace Ectobase.Flowplane

open Shared

structure CtKey where
  vni : UInt32
  srcIp : Vector UInt8 4
  dstIp : Vector UInt8 4
  srcPort : UInt16
  dstPort : UInt16
  proto : UInt8
  deriving DecidableEq, Repr

structure CtEntry where
  lastSeen : UInt64
  xlateIp : Vector UInt8 4
  xlatePort : UInt16
  flags : UInt8
  tcpState : UInt8
  fwallAction : UInt8
  policyEpoch : UInt32
  deriving DecidableEq, Repr

def ctRewriteSrc : UInt8 := 0x01
def ctRewriteDst : UInt8 := 0x02
def ctFSrcNat : UInt8 := 0x04
def ctFDefault : UInt8 := 0x10
def ctFNat64 : UInt8 := 0x40
def ctFReply : UInt8 := 0x80

def tcpNewSyn : UInt8 := 1
def tcpNewSynack : UInt8 := 2
def tcpEstablished : UInt8 := 3
def tcpFinwait : UInt8 := 4
def tcpRstFin : UInt8 := 5

abbrev Conntrack := Map CtKey CtEntry

def defaultTimeoutNs : UInt64 := 30 * 1000000000
def tcpEstablishedTimeoutNs : UInt64 := 24 * 60 * 60 * 1000000000

def timeoutNs (e : CtEntry) : UInt64 :=
  if e.tcpState = tcpEstablished then tcpEstablishedTimeoutNs else defaultTimeoutNs

def saturatingSub (a b : UInt64) : UInt64 := if b <= a then a - b else 0

def ctIsExpired (e : CtEntry) (now : UInt64) : Bool := timeoutNs e < saturatingSub now e.lastSeen

variable (ct : Conntrack) (pkt : Pkt) (ipOff : Nat) (key : CtKey) (vni : UInt32)

def ctKey : Option CtKey := do
  let src <- pkt.readArray 4 (ipOff + 12)
  let dst <- pkt.readArray 4 (ipOff + 16)
  -- an L4 without ports keys as (protocol, 0, 0)
  let (proto, sport, dport) := (l4Ports pkt ipOff).getD ((pkt.readU8 (ipOff + 9)).getD 0, 0, 0)
  some ⟨vni, src, dst, sport, dport, proto⟩

def tcpFin : UInt8 := 0x01
def tcpSyn : UInt8 := 0x02
def tcpRst : UInt8 := 0x04
def tcpAck : UInt8 := 0x10

def tcpAdvance (state flags : UInt8) : UInt8 := if flags &&& tcpRst ≠ 0 then tcpRstFin
  else if flags &&& tcpFin ≠ 0 then tcpFinwait
  else if flags &&& tcpSyn ≠ 0 then
    if flags &&& tcpAck ≠ 0 then tcpNewSynack else tcpNewSyn
  else if flags &&& tcpAck ≠ 0 /\ (state = tcpNewSynack \/ state = tcpNewSyn \/ state = tcpEstablished) then tcpEstablished
  else state

def invertKey (k : CtKey) : CtKey := ⟨k.vni, k.dstIp, k.srcIp, k.dstPort, k.srcPort, k.proto⟩

def tcpFlags : Option UInt8 := do
  let hdr <- pkt.readArray 20 ipOff
  if l4Proto hdr ≠ ipprotoTcp then none
  else if ihl hdr ≠ 5 then none
  else pkt.readU8 (ipOff + 20 + 13)

def refreshed (e : CtEntry) (now : UInt64) (epoch : UInt32) : CtEntry :=
  let tcpState := match tcpFlags pkt ipOff with
    | some fl => tcpAdvance e.tcpState fl
    | none => e.tcpState
  { e with lastSeen := now, policyEpoch := epoch, tcpState }

def ctRefresh (e : CtEntry) (now : UInt64) (epoch : UInt32) : Conntrack :=
  ct.insert key (refreshed pkt ipOff e now epoch)

def defaultEntry (now : UInt64) (epoch : UInt32) : CtEntry :=
  let tcp := ((tcpFlags pkt ipOff).map (tcpAdvance 0)).getD 0
  ⟨now, Vector.replicate 4 0, 0, ctFDefault, tcp, 0, epoch⟩

def ctCreateDefault (now : UInt64) (epoch : UInt32) : Conntrack := match ctKey pkt ipOff vni with
  | none => ct
  | some key =>
    let e := defaultEntry pkt ipOff now epoch
    let ct := ct.insert key e
    let rev := invertKey key
    -- a NAT reverse entry must not be overwritten
    if ct.lookup rev = none then ct.insert rev { e with flags := ctFDefault ||| ctFReply } else ct

def ctNeedsRecheck (e : CtEntry) (epoch : UInt32) (flags : Option UInt8) : Bool :=
  let bareSyn := flags.any fun f => f &&& (tcpSyn ||| tcpAck) == tcpSyn
  let reply := e.flags &&& (ctFReply ||| ctRewriteDst) != 0
  bareSyn || (!reply && e.policyEpoch != epoch)

def ctHitRecheck (e : CtEntry) (epoch : UInt32) : Bool := ctNeedsRecheck e epoch (tcpFlags pkt ipOff)

def ctForgetDefault : Conntrack := match ctKey pkt ipOff vni with
  | none => ct
  | some key =>
    let ct := ct.erase key
    let rev := invertKey key
    if (ct.lookup rev).any fun e => e.flags == ctFDefault ||| ctFReply then ct.erase rev else ct

def trackFlow (now : UInt64) (epoch : UInt32) : Conntrack := match ctKey pkt ipOff vni with
  | none => ct
  | some key =>
    match ct.lookup key with
    | none => ctCreateDefault ct pkt ipOff vni now epoch
    | some e => ctRefresh ct pkt ipOff key e now epoch

-- ct_touch on the guest's own egress key, ct_refresh on the zeroed key of a NAT return.
def touch (now : UInt64) (epoch : UInt32) : Conntrack := match ct.lookup key with
  | none => ct
  | some e => ctRefresh ct pkt ipOff key e now epoch

def sweepEntry (now : UInt64) : Conntrack := match ct.lookup key with
  | none => ct
  | some e => if ctIsExpired e now then ct.erase key else ct

end Ectobase.Flowplane
