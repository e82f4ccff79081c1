import Ectobase.Flowplane.PacketBytes
import Ectobase.Flowplane.Snat

namespace Ectobase.Flowplane

open Shared

def addrAt {n : Nat} (window : Vector UInt8 n) (rel : Nat) : Vector UInt8 4 :=
  Vector.ofFn fun i => window[rel + i.val]?.getD 0

def foldPort (check old xlatePort : UInt16) : UInt16 :=
  if xlatePort ≠ 0 then csumReplace2 check old xlatePort else check

def putPort {n : Nat} (window : Vector UInt8 n) (rel : Nat) (xlatePort : UInt16) : Vector UInt8 n :=
  if xlatePort ≠ 0 then copyAt window rel (be16 xlatePort) else window

def ctApplyL4 (pkt : Pkt) (l4 : Nat) (proto : UInt8) (portRel : Nat)
  (oldAddr newAddr : Vector UInt8 4) (xlatePort : UInt16) : Pkt :=
  if proto = ipprotoTcp then
    match pkt.readArray 18 l4 with
    | none => pkt
    | some h =>
      let c1 := csumReplace4 (wordAt h 16) oldAddr newAddr
      let c2 := foldPort c1 (wordAt h portRel) xlatePort
      (pkt.writeArray l4 (putPort (copyAt h 16 (be16 c2)) portRel xlatePort)).getD pkt
  else if proto = ipprotoUdp then
    match pkt.readArray 8 l4 with
    | none => pkt
    | some h =>
      let c0 := wordAt h 6
      -- a zero UDP checksum stays zero
      let h' := if c0 ≠ 0 then
          copyAt h 6 (be16 (foldPort (csumReplace4 c0 oldAddr newAddr) (wordAt h portRel) xlatePort))
        else h
      (pkt.writeArray l4 (putPort h' portRel xlatePort)).getD pkt
  else if proto = ipprotoIcmp /\ xlatePort ≠ 0 then
    match pkt.readArray 8 l4 with
    | none => pkt
    | some h =>
      let c1 := csumReplace2 (wordAt h 2) (wordAt h 4) xlatePort
      (pkt.writeArray l4 (copyAt (copyAt h 2 (be16 c1)) 4 (be16 xlatePort))).getD pkt
  else pkt

def rewriteHeader (ip : Vector UInt8 20) (rel : Nat) (newAddr : Vector UInt8 4) : Vector UInt8 20 :=
  let check := csumReplace4 (wordAt ip 10) (addrAt ip rel) newAddr
  copyAt (copyAt ip 10 (be16 check)) rel newAddr

def ctApply (pkt : Pkt) (ipOff : Nat) (e : CtEntry) : Option Pkt :=
  if e.flags &&& (ctRewriteSrc ||| ctRewriteDst) = 0 then some pkt
  else
    match pkt.readArray 20 ipOff with
    | none => none
    | some ip =>
      -- the L4 offset is a constant: headers with options are refused
      if ihl ip ≠ 5 then none
      else
        let addrRel := if e.flags &&& ctRewriteSrc ≠ 0 then 12 else 16
        let portRel := if e.flags &&& ctRewriteSrc ≠ 0 then 0 else 2
        (pkt.writeArray ipOff (rewriteHeader ip addrRel e.xlateIp)).map fun pkt =>
          ctApplyL4 pkt (ipOff + 20) (l4Proto ip) portRel (addrAt ip addrRel) e.xlateIp e.xlatePort

def csumReplace16 (check : UInt16) (old new : Vector UInt8 16) : UInt16 :=
  let c := csumReplace4 check (addrAt old 0) (addrAt new 0)
  let c := csumReplace4 c (addrAt old 4) (addrAt new 4)
  let c := csumReplace4 c (addrAt old 8) (addrAt new 8)
  csumReplace4 c (addrAt old 12) (addrAt new 12)

def rewriteV6Addr (pkt : Pkt) (ipOff addrOff : Nat) (nexthdr : UInt8) (old new : Vector UInt8 16) : Option Pkt :=
  (pkt.writeArray addrOff new).map fun pkt =>
    let l4 := ipOff + 40
    if nexthdr = ipprotoTcp then
      match pkt.readArray 18 l4 with
      | none => pkt
      | some h =>
        let c1 := csumReplace16 (wordAt h 16) old new
        (pkt.writeArray l4 (copyAt h 16 (be16 c1))).getD pkt
    else if nexthdr = ipprotoUdp then
      match pkt.readArray 8 l4 with
      | none => pkt
      | some h =>
        let c0 := wordAt h 6
        let h := if c0 ≠ 0 then copyAt h 6 (be16 (csumReplace16 c0 old new)) else h
        (pkt.writeArray l4 h).getD pkt
    else pkt

end Ectobase.Flowplane
