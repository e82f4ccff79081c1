import Ectobase.Mesh.Rib

namespace Ectobase.Mesh

open Shared

structure UnderlayGuard where
  allowed : List (List UInt8)
  enforce : Bool
  deriving DecidableEq, Repr

def UnderlayGuard.permitsIP (g : UnderlayGuard) (ip : Option (List UInt8)) : Bool := if g.enforce then
  match ip with
  | none => false
  | some ip => g.allowed.any fun a => ipEqual a ip
  else true

def UnderlayGuard.permits (g : UnderlayGuard) (underlay : String) : Bool :=
  g.permitsIP (parseIP underlay)

def hostAddr (pfx : String) : Option (List UInt8) := match parsePrefix pfx with
  | none => none
  | some (addr, bits) => if bits = (if addr.isV4 then 32 else 128) then some addr.as16 else none

structure Session where
  sink : Sink
  token : Nat
  guard : UnderlayGuard

def Session.permitsPublic (s : Session) (rec : PublicRecord) : Bool :=
  s.guard.permits rec.ownerUnderlay && (decide (rec.kind ≠ .edgeUnderlay) || s.guard.permitsIP (hostAddr rec.pfx))

def Session.op (s : Session) : ClientMsg -> Option RibOp
  | .subscribe vni => some (.subscribe vni s.sink)
  | .unsubscribe vni => some (.unsubscribe vni s.sink.id)
  | .announce vni pfx nexthop extra external =>
    let nexthops := nexthop :: extra
    -- One nexthop outside the certificate rejects the whole announce.
    if nexthops.all s.guard.permits then
      some (.announce s.sink.id vni pfx nexthops external)
    else none
  | .withdraw vni pfx => some (.withdraw s.sink.id vni pfx)
  | .announceNat b =>
    if s.guard.permits b.ownerUnderlay then some (.announceNat s.sink.id b) else none
  | .withdrawNat natIP portMin portMax =>
    some (.withdrawNat s.sink.id natIP portMin portMax s.guard.permits)
  | .announcePublic rec =>
    if s.permitsPublic rec then some (.announcePublic s.sink.id rec) else none
  | .withdrawPublic rec => some (.withdrawPublic s.sink.id rec s.guard.permits)
  | .keepAlive | .hello _ => none

def RIB.perform (r : RIB) : Option RibOp -> RIB
  | none => r
  | some op => r.step op

end Ectobase.Mesh
