import Ectobase.Flowplane.Maps

namespace Ectobase.Flowplane

variable (pkt : Pkt) (maps : Maps) (ipOff : Nat) (vni : UInt32)

def maglevBackend (lb : LbValue) (hash : UInt32) : Option LbBackend :=
  if lb.size = 0 then none else maps.maglev ⟨lb.tableId, hash % lb.size⟩

def lbSelectForward : Option LbBackend := do
  let dst <- pkt.readArray 4 (ipOff + 16)
  let src <- pkt.readArray 4 (ipOff + 12)
  let (proto, sport, dport) <- l4Ports pkt ipOff
  let lookupPort := if proto = 1 then 0 else dport
  let lb <- maps.lb ⟨vni, dst, lookupPort, proto⟩
  maglevBackend maps lb (hash5 src dst sport dport proto)

def foldAddrs (h : UInt32) (src dst : List UInt8) : UInt32 :=
  (src.zip dst).foldl (fun h bytes => fnvStep (fnvStep h bytes.1) bytes.2) h

def hashV6 (src dst : Vector UInt8 16) (sport dport : UInt16) (proto : UInt8) : UInt32 :=
  fnvStep (fnvU16 (fnvU16 (foldAddrs fnvOffset src.toList dst.toList) sport) dport) proto

def hashV6At (soff doff : Nat) (sport dport : UInt16) (proto : UInt8) : Option UInt32 := do
  let src <- pkt.readArray 16 soff
  let dst <- pkt.readArray 16 doff
  some (hashV6 src dst sport dport proto)

def lbSelectForwardV6 : Option LbBackend := do
  let nexthdr <- pkt.readU8 (ipOff + 6)
  if nexthdr ≠ 6 /\ nexthdr ≠ 17 then none
  else
    let dst6 <- pkt.readArray 16 (ipOff + 24)
    let sport <- pkt.readU16Be (ipOff + 40)
    let dport <- pkt.readU16Be (ipOff + 42)
    let lb <- maps.lb6 ⟨vni, dst6, dport, nexthdr⟩
    if lb.size = 0 then none
    else
      let hash <- hashV6At pkt (ipOff + 8) (ipOff + 24) sport dport nexthdr
      maps.maglev ⟨lb.tableId, hash % lb.size⟩

def lbSelectForwardIcmpError : Option LbBackend := do
  let verIhl <- pkt.readU8 ipOff
  let proto <- pkt.readU8 (ipOff + 9)
  let icmpOff := ipOff + 20
  if verIhl &&& 0x0f ≠ 5 \/ proto ≠ 1 then none
  else
    let icmpType <- pkt.readU8 icmpOff
    let innerIpOff := icmpOff + 8
    if icmpType ≠ 3 /\ icmpType ≠ 11 /\ icmpType ≠ 12 then none
    else
      let innerVerIhl <- pkt.readU8 innerIpOff
      let innerProto <- pkt.readU8 (innerIpOff + 9)
      if innerVerIhl &&& 0x0f ≠ 5 \/ (innerProto ≠ 6 /\ innerProto ≠ 17) then none
      else
        let innerSrc <- pkt.readArray 4 (innerIpOff + 12)
        let innerDst <- pkt.readArray 4 (innerIpOff + 16)
        let innerSport <- pkt.readU16Be (innerIpOff + 20)
        let innerDport <- pkt.readU16Be (innerIpOff + 22)
        let lb <- maps.lb ⟨vni, innerSrc, innerSport, innerProto⟩
        -- the tuple is swapped: the hash of the client's packet to the LB address
        maglevBackend maps lb (hash5 innerDst innerSrc innerDport innerSport innerProto)

def lbSelectForwardIcmpErrorV6 : Option LbBackend := do
  let nexthdr <- pkt.readU8 (ipOff + 6)
  let icmpOff := ipOff + 40
  if nexthdr ≠ 58 then none
  else
    let icmpType <- pkt.readU8 icmpOff
    let innerIpOff := icmpOff + 8
    if icmpType ≠ 1 /\ icmpType ≠ 2 /\ icmpType ≠ 3 /\ icmpType ≠ 4 then none
    else
      let innerNexthdr <- pkt.readU8 (innerIpOff + 6)
      if innerNexthdr ≠ 6 /\ innerNexthdr ≠ 17 then none
      else
        let innerSrc <- pkt.readArray 16 (innerIpOff + 8)
        let innerSport <- pkt.readU16Be (innerIpOff + 40)
        let innerDport <- pkt.readU16Be (innerIpOff + 42)
        let lb <- maps.lb6 ⟨vni, innerSrc, innerSport, innerNexthdr⟩
        if lb.size = 0 then none
        else
          let hash <- hashV6At pkt (innerIpOff + 24) (innerIpOff + 8) innerDport innerSport innerNexthdr
          maps.maglev ⟨lb.tableId, hash % lb.size⟩

end Ectobase.Flowplane
