import Mathlib.Data.List.Basic

namespace Ectobase.Mesh

structure RouteKey where
  vni : UInt32
  pfx : String
  deriving DecidableEq, Repr

structure NatBlock where
  vni : UInt32
  sourceIP : String
  natIP : String
  portMin : UInt32
  portMax : UInt32
  ownerUnderlay : String
  deriving DecidableEq, Repr

structure LbPort where
  port : UInt32
  proto : UInt32
  deriving DecidableEq, Repr

inductive PublicKind where
  | unspecified
  | edgeUnderlay
  | natIp
  | lbIp
  | floatingIp
  deriving DecidableEq, Repr

structure PublicRecord where
  kind : PublicKind
  pfx : String
  ownerUnderlay : String
  vni : UInt32
  portMin : UInt32
  portMax : UInt32
  overlayIP : String
  ports : List LbPort
  deriving DecidableEq, Repr

inductive RouteOp where
  | add
  | withdraw
  deriving DecidableEq, Repr

-- Updates of the global tables travel apart from routes: to every sink of the global feed.
inductive GlobalMsg where
  | natUpdate (block : NatBlock) (op : RouteOp)
  | publicUpdate (record : PublicRecord) (op : RouteOp)
  | endOfGlobal (recordCount : UInt32)
  deriving DecidableEq, Repr

inductive ServerMsg where
  | routeUpdate (key : RouteKey) (nexthops : List String) (op : RouteOp) (external : Bool)
  | endOfRib (vni : UInt32) (recordCount : UInt32)
  | global (msg : GlobalMsg)
  deriving DecidableEq, Repr

inductive ClientMsg where
  | hello (nodeID : String)
  | subscribe (vni : UInt32)
  | unsubscribe (vni : UInt32)
  | announce (vni : UInt32) (pfx nexthopUnderlay : String) (extraNexthops : List String)
      (external : Bool)
  | withdraw (vni : UInt32) (pfx : String)
  | announceNat (block : NatBlock)
  | withdrawNat (natIP : String) (portMin portMax : UInt32)
  | announcePublic (record : PublicRecord)
  | withdrawPublic (record : PublicRecord)
  | keepAlive
  deriving DecidableEq, Repr

end Ectobase.Mesh
