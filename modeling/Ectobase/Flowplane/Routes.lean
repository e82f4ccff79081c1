import Ectobase.Flowplane.NatOwner
import Ectobase.Shared.BitPrefix
import Ectobase.Shared.KeyedList
import Ectobase.Shared.Maps

namespace Ectobase.Flowplane

open Shared

structure RouteValue where
  nexthopVni : UInt32
  nexthopIpv6 : Octets 16
  isExternal : UInt8
  deriving DecidableEq

def routeValue (nexthopIpv6 : Octets 16) (nexthopVni : UInt32) (isExternal : Bool) : RouteValue :=
  ⟨nexthopVni, nexthopIpv6, isExternal.toUInt8⟩

structure RouteKey (A : Type) where
  vni : UInt32
  addr : A
  prefixLen : UInt32
  deriving DecidableEq

def Octets.zero (n : Nat) : Octets n := ⟨Vector.replicate n 0⟩

def Octets.masked {n : Nat} (a : Octets n) (len : Nat) : Octets n :=
  ⟨Vector.ofFn fun i => a.bytes.get i &&& maskByte (bitsInByte len i)⟩

-- `hostLen` is 32 in the IPv4 functions of the source and 128 in their IPv6 siblings. The kernel's
-- map is an LPM trie: what a key has beyond its length is not compared.
def RouteKey.trie {n : Nat} (hostLen : UInt32) (k : RouteKey (Octets n)) : RouteKey (Octets n) :=
  let len := if k.prefixLen <= hostLen then k.prefixLen else hostLen
  ⟨k.vni, k.addr.masked len.toNat, len⟩

structure RouteTable (n : Nat) where
  routes : Map (RouteKey (Octets n)) RouteValue
  routesShadow : List (RouteKey (Octets n) × RouteValue)
  selfRoutes : Finset (UInt32 × Octets n)

namespace RouteTable

variable {n : Nat}

def empty : RouteTable n := ⟨∅, [], ∅⟩

def routeUpsert (hostLen : UInt32) (s : RouteTable n) (k : RouteKey (Octets n)) (val : RouteValue) : RouteTable n :=
  { s with routes := s.routes.insert (k.trie hostLen) val }

def routeRemove (hostLen : UInt32) (s : RouteTable n) (k : RouteKey (Octets n)) : RouteTable n :=
  { s with routes := s.routes.erase (k.trie hostLen) }

def selfRouteHolds (hostLen : UInt32) (s : RouteTable n) (k : RouteKey (Octets n)) : Bool :=
  k.prefixLen == hostLen && decide ((k.vni, k.addr) ∈ s.selfRoutes)

def replaceRoute (hostLen : UInt32) (s : RouteTable n) (k : RouteKey (Octets n)) (nexthopIpv6 : Octets 16)
  (nexthopVni : UInt32) (isExternal : Bool) : RouteTable n :=
  let val := routeValue nexthopIpv6 nexthopVni isExternal
  let s := if s.selfRouteHolds hostLen k then s else s.routeUpsert hostLen k val
  { s with routesShadow := putKey k val s.routesShadow }

def createRoute (hostLen : UInt32) (s : RouteTable n) (k : RouteKey (Octets n)) (nexthopIpv6 : Octets 16)
  (nexthopVni : UInt32) (isExternal : Bool) : Except String Unit × RouteTable n :=
  if (s.routesShadow.lookup k).isSome then (.error "ROUTE_EXISTS: route already exists", s)
  else (.ok (), s.replaceRoute hostLen k nexthopIpv6 nexthopVni isExternal)

def deleteRoute (hostLen : UInt32) (s : RouteTable n) (k : RouteKey (Octets n)) : Bool × RouteTable n :=
  if (s.routesShadow.lookup k).isSome then
    let s := if s.selfRouteHolds hostLen k then s else s.routeRemove hostLen k
    (true, { s with routesShadow := dropKey k s.routesShadow })
  else (false, s)

def addSelfRoute (hostLen : UInt32) (unset : Octets n) (s : RouteTable n) (vni : UInt32) (addr : Octets n)
  (underlayIpv6 : Octets 16) : RouteTable n :=
  if addr = unset then s
  else
    let s := s.routeUpsert hostLen ⟨vni, addr, hostLen⟩ ⟨vni, underlayIpv6, 0⟩
    { s with selfRoutes := Insert.insert (vni, addr) s.selfRoutes }

def dropSelfRoute (hostLen : UInt32) (unset : Octets n) (s : RouteTable n) (vni : UInt32) (addr : Octets n) : RouteTable n :=
  if addr = unset then s
  else
    let k : RouteKey (Octets n) := ⟨vni, addr, hostLen⟩
    let s := { s with selfRoutes := s.selfRoutes.erase (vni, addr) }
    match s.routesShadow.lookup k with
    | some mesh => s.routeUpsert hostLen k mesh
    | none => s.routeRemove hostLen k

end RouteTable

structure Routes where
  v4 : RouteTable 4
  v6 : RouteTable 16

namespace Routes

def empty : Routes := ⟨RouteTable.empty, RouteTable.empty⟩

structure IfaceParams where
  vni : UInt32
  ipv4 : Octets 4
  ipv6 : Octets 16
  underlayIpv6 : Octets 16

def programInterface (s : Routes) (params : IfaceParams) : Routes :=
  { v4 := s.v4.addSelfRoute 32 (Octets.zero 4) params.vni params.ipv4 params.underlayIpv6
    v6 := s.v6.addSelfRoute 128 (Octets.zero 16) params.vni params.ipv6 params.underlayIpv6 }

def removeSelfRoutes (s : Routes) (vni : UInt32) (ipv4 : Octets 4) (ipv6 : Octets 16) : Routes :=
  { v4 := s.v4.dropSelfRoute 32 (Octets.zero 4) vni ipv4
    v6 := s.v6.dropSelfRoute 128 (Octets.zero 16) vni ipv6 }

end Routes

end Ectobase.Flowplane
