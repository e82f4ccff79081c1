import Ectobase.Mesh.RouteBus
import Ectobase.Shared.NetPrefix
import Ectobase.Shared.OwnedTable
import Mathlib.Data.String.Basic

namespace Ectobase.Mesh

open Shared List Function

-- A session's outbound path: two sinks of one node id are told apart by their session.
structure Sink where
  id : String
  session : Nat
  deriving DecidableEq, Repr

structure RouteEntry where
  origins : Map String (List String)
  external : Bool
  deriving DecidableEq

structure NatKey where
  natIP : String
  portMin : UInt32
  deriving DecidableEq, Repr

structure PublicKey where
  kind : PublicKind
  pfx : String
  owner : String
  overlay : String
  deriving DecidableEq, Repr

def NatBlock.key (b : NatBlock) : NatKey :=
  { natIP := b.natIP, portMin := b.portMin }

variable (r : RIB) (origin : String) (vni : UInt32) (rec : PublicRecord) (k : RouteKey)

def PublicRecord.key : PublicKey :=
  { kind := rec.kind, pfx := rec.pfx, owner := rec.ownerUnderlay, overlay := rec.overlayIP }

abbrev FenceKey := List UInt8 × List UInt8

structure RIB where
  routes : Map RouteKey RouteEntry
  byOrigin : Map String (Finset RouteKey)
  -- An inner map left empty is deleted, so only what it holds matters.
  subscribers : UInt32 -> String -> Option Sink
  nat : Map NatKey NatBlock
  natByOrigin : Map String (Finset NatKey)
  natOrigin : Map NatKey String
  pub : Map PublicKey PublicRecord
  publicByOrigin : Map String (Finset PublicKey)
  publicOrigin : Map PublicKey String
  sinks : String -> Option Sink
  globalSnap : Option (List GlobalMsg)
  fenced : Map FenceKey IPNet
  origins : Map String Nat
  nextToken : Nat

def newRIB : RIB where
  routes := ∅
  byOrigin := ∅
  subscribers _ _ := none
  nat := ∅
  natByOrigin := ∅
  natOrigin := ∅
  pub := ∅
  publicByOrigin := ∅
  publicOrigin := ∅
  sinks _ := none
  globalSnap := none
  fenced := ∅
  origins := ∅
  nextToken := 0

abbrev Sent := Sink -> List ServerMsg

def silent : Sent := fun _ => []

def Sent.then (a b : Sent) : Sent := fun s => a s ++ b s

def sendSnapshot (s : Sink) (msgs : List ServerMsg) : Sent :=
  fun other => if other = s then msgs else []

def forEach {K : Type} (body : RIB -> K -> RIB × Sent) : RIB -> List K -> RIB × Sent
  | r, [] => (r, silent)
  | r, k :: ks =>
    let first := body r k
    let rest := forEach body first.1 ks
    (rest.1, first.2.then rest.2)

def mergeNexthops (origins : Map String (List String)) : List String :=
  sorted (origins.keys.biUnion fun origin => ((origins.lookup origin).getD []).toFinset)

def nexthopFenced (nh : String) (fenced : Map FenceKey IPNet) : Bool :=
  match parseIP nh with
  | none => false
  | some ip => fenced.any fun _ net => net.contains ip

def RIB.advertised (e : RouteEntry) : List String :=
  let merged := mergeNexthops e.origins
  if r.fenced = ∅ then merged else merged.filter fun nh => !nexthopFenced nh r.fenced

def RIB.entry : RouteEntry :=
  (r.routes.lookup k).getD { origins := ∅, external := false }

def RIB.fanout (nexthops : List String) (op : RouteOp) (skip : String -> Bool) (external : Bool) : Sent := fun s =>
  if r.subscribers k.vni s.id = some s /\ skip s.id = false then
    [.routeUpdate k nexthops op external]
  else []

def RIB.fanoutChange (before after : List String) (skip : String -> Bool) (external : Bool) : Sent :=
  if before = after then silent
  else if after = [] then r.fanout k [] .withdraw skip external
  else r.fanout k after .add skip external

def RIB.snapshotRecords : List ServerMsg :=
  (sorted ((r.routes.keys.filter fun k => k.vni = vni).image fun k => k.pfx)).flatMap fun pfx =>
    let e := r.entry { vni, pfx }
    let nhs := r.advertised e
    if nhs = [] then [] else [.routeUpdate { vni, pfx } nhs .add e.external]

def RIB.subscribe (s : Sink) : RIB × Sent :=
  if r.subscribers vni s.id = some s then (r, silent)
  else
    let records := r.snapshotRecords vni
    let r' := { r with
      subscribers := update r.subscribers vni
        (update (r.subscribers vni) s.id (some s)) }
    (r', sendSnapshot s (records ++ [.endOfRib vni records.length.toUInt32]))

def RIB.unsubscribe (sinkID : String) : RIB :=
  { r with
    subscribers := update r.subscribers vni
      (update (r.subscribers vni) sinkID none) }

def RIB.announce (pfx : String) (nexthops : List String) (external : Bool) : RIB × Sent :=
  let k : RouteKey := { vni, pfx }
  let before := r.advertised (r.entry k)
  let e : RouteEntry :=
    { origins := (r.entry k).origins.insert origin nexthops, external }
  let r' := { r with
    routes := r.routes.insert k e
    byOrigin := r.byOrigin.insert origin (insert k ((r.byOrigin.lookup origin).getD ∅)) }
  (r', r'.fanoutChange k before (r'.advertised e) (fun id => id == origin) external)

def RIB.removeOrigin (e : RouteEntry) : RIB :=
  { r with
    routes :=
      if e.origins.erase origin = ∅ then r.routes.erase k
      else r.routes.insert k { e with origins := e.origins.erase origin } }

def RIB.withdrawRouteOrigin : RIB × Sent :=
  match r.routes.lookup k with
  | none => (r, silent)
  | some e =>
    if (e.origins.lookup origin).isNone then (r, silent)
    else
      let before := r.advertised e
      let e' := { e with origins := e.origins.erase origin }
      let r' := r.removeOrigin origin k e
      (r', r'.fanoutChange k before (r'.advertised e') (fun _ => false) e.external)

def RIB.withdraw (pfx : String) : RIB × Sent :=
  let k : RouteKey := { vni, pfx }
  { r with byOrigin := disown r.byOrigin origin k }.withdrawRouteOrigin origin k

def natFanout (b : NatBlock) (op : RouteOp) : Sent := fun s =>
  if r.sinks s.id = some s then [.global (.natUpdate b op)] else []

def publicFanout (op : RouteOp) : Sent := fun s =>
  if r.sinks s.id = some s then [.global (.publicUpdate rec op)] else []

def RIB.announceNat (b : NatBlock) : RIB × Sent :=
  let k := b.key
  let r' := { r with
    nat := r.nat.insert k b
    natOrigin := r.natOrigin.insert k origin
    natByOrigin := takeOver r.natOrigin r.natByOrigin origin k
    globalSnap := none }
  (r', natFanout r' b .add)

inductive WithdrawOutcome where
  | applied
  | absent
  | refused
  deriving DecidableEq, Repr

def RIB.withdrawNat (natIP : String) (portMin _portMax : UInt32) (permit : String -> Bool) : RIB × Sent × WithdrawOutcome :=
  let k : NatKey := { natIP, portMin }
  match r.nat.lookup k with
  | none => (r, silent, .absent)
  | some b =>
    if r.natOrigin.lookup k ≠ some origin \/ permit b.ownerUnderlay = false then
      (r, silent, .refused)
    else
      let r' := { r with
        nat := r.nat.erase k
        natOrigin := r.natOrigin.erase k
        natByOrigin := disown r.natByOrigin origin k
        globalSnap := none }
      (r', natFanout r' b .withdraw, .applied)

def dropNatKey (origin : String) (r : RIB) (k : NatKey) : RIB × Sent :=
  if r.natOrigin.lookup k ≠ some origin then (r, silent)
  else
    match r.nat.lookup k with
    | none => (r, silent)
    | some b =>
      let r' := { r with
        nat := r.nat.erase k
        natOrigin := r.natOrigin.erase k
        globalSnap := none }
      (r', natFanout r' b .withdraw)

def RIB.dropOriginNat (order : List NatKey) : RIB × Sent :=
  forEach (dropNatKey origin) { r with natByOrigin := r.natByOrigin.erase origin } order

def RIB.announcePublic : RIB × Sent :=
  let k := rec.key
  let r' := { r with
    pub := r.pub.insert k rec
    publicOrigin := r.publicOrigin.insert k origin
    publicByOrigin := takeOver r.publicOrigin r.publicByOrigin origin k
    globalSnap := none }
  (r', publicFanout r' rec .add)

def RIB.withdrawPublic (permit : String -> Bool) : RIB × Sent × WithdrawOutcome :=
  let k := rec.key
  match r.pub.lookup k with
  | none => (r, silent, .absent)
  | some stored =>
    if r.publicOrigin.lookup k ≠ some origin \/ permit stored.ownerUnderlay = false then
      (r, silent, .refused)
    else
      let r' := { r with
        pub := r.pub.erase k
        publicOrigin := r.publicOrigin.erase k
        publicByOrigin := disown r.publicByOrigin origin k
        globalSnap := none }
      (r', publicFanout r' stored .withdraw, .applied)

def dropPublicKey (origin : String) (r : RIB) (k : PublicKey) : RIB × Sent :=
  if r.publicOrigin.lookup k ≠ some origin then (r, silent)
  else
    match r.pub.lookup k with
    | none => (r, silent)
    | some rec =>
      let r' := { r with
        pub := r.pub.erase k
        publicOrigin := r.publicOrigin.erase k
        globalSnap := none }
      (r', publicFanout r' rec .withdraw)

def RIB.dropOriginPublic (order : List PublicKey) : RIB × Sent :=
  forEach (dropPublicKey origin) { r with publicByOrigin := r.publicByOrigin.erase origin } order

structure DropOrder where
  routes : List RouteKey
  nat : List NatKey
  pub : List PublicKey

def DropOrder.Enumerates (order : DropOrder) (r : RIB) (origin : String) : Prop :=
  Shared.Enumerates order.routes ((r.byOrigin.lookup origin).getD ∅) /\
    Shared.Enumerates order.nat ((r.natByOrigin.lookup origin).getD ∅) /\
    Shared.Enumerates order.pub ((r.publicByOrigin.lookup origin).getD ∅)

instance DropOrder.Enumerates.decidable (order : DropOrder) : Decidable (order.Enumerates r origin) :=
  inferInstanceAs (Decidable (_ /\ _ /\ _))

def RIB.dropOriginRoutes (order : List RouteKey) : RIB × Sent :=
  forEach (fun r k => r.withdrawRouteOrigin origin k) { r with byOrigin := r.byOrigin.erase origin } order

def RIB.dropSubscriptions : RIB :=
  { r with subscribers := fun vni id => if id = origin then none else r.subscribers vni id }

def RIB.dropOriginLocked (order : DropOrder) : RIB × Sent :=
  let routes := r.dropOriginRoutes origin order.routes
  let nat := (routes.1.dropSubscriptions origin).dropOriginNat origin order.nat
  let pub := nat.1.dropOriginPublic origin order.pub
  (pub.1, routes.2.then (nat.2.then pub.2))

def RIB.deleteSink (nodeID : String) : RIB :=
  { r with sinks := update r.sinks nodeID none }

def RIB.claimOrigin (nodeID : String) (order : DropOrder) : RIB × Sent :=
  let token := r.nextToken + 1
  let r' := { r with origins := r.origins.insert nodeID token, nextToken := token }
  if (r.origins.lookup nodeID).isSome then
    (r'.deleteSink nodeID).dropOriginLocked nodeID order
  else (r', silent)

def RIB.releaseOrigin (nodeID : String) (token : Nat) (order : DropOrder) : RIB × Sent :=
  if r.origins.lookup nodeID ≠ some token then (r, silent)
  else
    let r' := { r with origins := r.origins.erase nodeID }
    (r'.deleteSink nodeID).dropOriginLocked nodeID order

structure SnapshotOrder where
  nat : List NatKey
  pub : List PublicKey

def SnapshotOrder.Enumerates (order : SnapshotOrder) (r : RIB) : Prop :=
  Shared.Enumerates order.nat r.nat.keys /\ Shared.Enumerates order.pub r.pub.keys

instance SnapshotOrder.Enumerates.decidable (order : SnapshotOrder) : Decidable (order.Enumerates r) :=
  inferInstanceAs (Decidable (_ /\ _))

def RIB.buildSnapshot (order : SnapshotOrder) : List GlobalMsg :=
  let nat := order.nat.filterMap fun k => (r.nat.lookup k).map fun b => .natUpdate b .add
  let pub := order.pub.filterMap fun k => (r.pub.lookup k).map fun rec => .publicUpdate rec .add
  nat ++ pub ++ [.endOfGlobal (nat.length + pub.length).toUInt32]

def RIB.globalSnapshot (order : SnapshotOrder) : List GlobalMsg :=
  match r.globalSnap with
  | some snap => snap
  | none => r.buildSnapshot order

def RIB.registerSink (s : Sink) (order : SnapshotOrder) : RIB × Sent :=
  let snap := r.globalSnapshot order
  ({ r with
      sinks := update r.sinks s.id (some s)
      globalSnap := some snap },
    sendSnapshot s (snap.map .global))

def fenceKey (pfx : String) : Option (FenceKey × IPNet) := do
  let net <- parseCIDR pfx
  let key <- networkNumberAndMask net
  pure (key, net)

def originsOf (e : RouteEntry) (id : String) : Bool :=
  (e.origins.lookup id).isSome

def RIB.refilter (fenced : Map FenceKey IPNet) (order : List RouteKey) : RIB × Sent :=
  let r' := { r with fenced }
  (r', fun s => order.flatMap fun k =>
    let e := r.entry k
    r'.fanoutChange k (r.advertised e) (r'.advertised e) (originsOf e) e.external s)

def RIB.setFence (pfx : String) (order : List RouteKey) : RIB × Sent :=
  match fenceKey pfx with
  | none => (r, silent)
  | some (key, net) =>
    if (r.fenced.lookup key).isSome then (r, silent)
    else r.refilter (r.fenced.insert key net) order

def RIB.clearFence (pfx : String) (order : List RouteKey) : RIB × Sent :=
  match fenceKey pfx with
  | none => (r, silent)
  | some (key, _) =>
    if (r.fenced.lookup key).isNone then (r, silent)
    else r.refilter (r.fenced.erase key) order

structure RouteHolding where
  key : RouteKey
  origin : String
  nexthop : String
  deriving DecidableEq, Repr

def nexthopWithin (nh : String) (net : IPNet) : Bool :=
  match parseIP nh with
  | none => false
  | some ip => net.contains ip

def RIB.holdersWithin (asked : RouteKey) (net : IPNet) : List RouteHolding :=
  let origins := (r.entry k).origins
  (sorted origins.keys).flatMap fun id =>
    let nhs := ((origins.lookup id).getD []).insertionSort (· <= ·)
    (nhs.filter fun nh => nexthopWithin nh net).map fun nh =>
      { key := asked, origin := id, nexthop := nh }

def spellings : List RouteKey :=
  match NetPrefix.parse k.pfx with
  | none => [k]
  | some p => if p.text = k.pfx then [k] else [k, { k with pfx := p.text }]

lemma mem_spellings_self : k ∈ spellings k := by
  unfold spellings
  split
  · exact mem_singleton_self k
  · split
    · exact mem_singleton_self k
    · exact mem_cons_self

def RIB.announcedFrom (within : String) (keys : List RouteKey) : Option (List RouteHolding) :=
  (parseCIDR within).map fun net =>
    keys.eraseDups.flatMap fun asked =>
      (((spellings asked).map fun k => r.holdersWithin k asked net).find? (· ≠ [])).getD []

lemma RIB.not_within_of_announcedFrom {r : RIB} {within : String} {keys : List RouteKey}
  (nothing : r.announcedFrom within keys = some []) {net : IPNet}
  (parsed : parseCIDR within = some net) {asked k : RouteKey} (listed : asked ∈ keys)
  (spelled : k ∈ spellings asked) {origin nh : String} {nhs : List String}
  (stored : (r.entry k).origins.lookup origin = some nhs) (member : nh ∈ nhs) :
  nexthopWithin nh net = false := by
  rw [announcedFrom, parsed, Option.map_some, Option.some_inj, flatMap_eq_nil_iff] at nothing
  have silent := nothing asked (mem_eraseDups.mpr listed)
  have none_held : r.holdersWithin k asked net = [] := by
    cases found : ((spellings asked).map fun k => r.holdersWithin k asked net).find? (· ≠ []) with
    | none => simpa using find?_eq_none.mp found _ (mem_map_of_mem spelled)
    | some holdings =>
      rw [found, Option.getD_some] at silent
      exact absurd silent (by simpa using find?_some found)
  by_contra inside
  have key_listed : origin ∈ sorted (r.entry k).origins.keys := by
    rw [mem_sorted, Finmap.mem_keys, <- Finmap.lookup_isSome, stored]
    rfl
  have held := (flatMap_eq_nil_iff.mp none_held) origin key_listed
  rw [map_eq_nil_iff, filter_eq_nil_iff, stored] at held
  exact held nh ((mem_insertionSort (· <= ·)).mpr member) (by simpa using inside)

inductive RibOp where
  | subscribe (vni : UInt32) (s : Sink)
  | unsubscribe (vni : UInt32) (sinkID : String)
  | announce (origin : String) (vni : UInt32) (pfx : String) (nexthops : List String)
      (external : Bool)
  | withdraw (origin : String) (vni : UInt32) (pfx : String)
  | setFence (pfx : String) (order : List RouteKey)
  | clearFence (pfx : String) (order : List RouteKey)
  | claimOrigin (nodeID : String) (order : DropOrder)
  | releaseOrigin (nodeID : String) (token : Nat) (order : DropOrder)
  | registerSink (s : Sink) (order : SnapshotOrder)
  | announceNat (origin : String) (block : NatBlock)
  | withdrawNat (origin natIP : String) (portMin portMax : UInt32) (permit : String -> Bool)
  | announcePublic (origin : String) (record : PublicRecord)
  | withdrawPublic (origin : String) (record : PublicRecord) (permit : String -> Bool)

def RibOp.Possible : RibOp -> Prop
  | .setFence _ order | .clearFence _ order => Enumerates order r.routes.keys
  | .claimOrigin nodeID order | .releaseOrigin nodeID _ order => order.Enumerates r nodeID
  | .registerSink _ order => order.Enumerates r
  | _ => True

instance RibOp.Possible.decidable : ∀ op, Decidable (RibOp.Possible r op)
  | .setFence _ _ | .clearFence _ _ => inferInstanceAs (Decidable (Enumerates _ _))
  | .claimOrigin _ _ | .releaseOrigin _ _ _ => inferInstanceAs (Decidable (DropOrder.Enumerates _ _ _))
  | .registerSink _ _ => inferInstanceAs (Decidable (SnapshotOrder.Enumerates _ _))
  | .subscribe _ _ | .unsubscribe _ _ | .announce _ _ _ _ _ | .withdraw _ _ _ | .announceNat _ _
  | .withdrawNat _ _ _ _ _ | .announcePublic _ _ | .withdrawPublic _ _ _ => isTrue trivial

def RIB.apply : RibOp -> RIB × Sent
  | .subscribe vni s => r.subscribe vni s
  | .unsubscribe vni sinkID => (r.unsubscribe vni sinkID, silent)
  | .announce origin vni pfx nexthops external => r.announce origin vni pfx nexthops external
  | .withdraw origin vni pfx => r.withdraw origin vni pfx
  | .setFence pfx order => r.setFence pfx order
  | .clearFence pfx order => r.clearFence pfx order
  | .claimOrigin nodeID order => r.claimOrigin nodeID order
  | .releaseOrigin nodeID token order => r.releaseOrigin nodeID token order
  | .registerSink s order => r.registerSink s order
  | .announceNat origin block => r.announceNat origin block
  | .withdrawNat origin natIP portMin portMax permit =>
    let out := r.withdrawNat origin natIP portMin portMax permit
    (out.1, out.2.1)
  | .announcePublic origin record => r.announcePublic origin record
  | .withdrawPublic origin record permit =>
    let out := r.withdrawPublic origin record permit
    (out.1, out.2.1)

def RIB.step (op : RibOp) : RIB :=
  (r.apply op).1

def RIB.received (s : Sink) : RIB -> List RibOp -> List ServerMsg
  | _, [] => []
  | r, op :: ops => (r.apply op).2 s ++ RIB.received s (r.step op) ops

end Ectobase.Mesh
