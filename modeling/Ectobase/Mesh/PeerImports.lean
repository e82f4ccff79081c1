import Ectobase.Shared.Maps
import Ectobase.Shared.NetBits
import Mathlib.Data.String.Basic

namespace Ectobase.Mesh

open Shared List

structure PeerImport where
  peerVNI : UInt32
  importPrefixes : List String

structure ImportNIC where
  vni : Int32
  overlayIPs : List String
  peerImports : List (Int32 × List String)

def importEntries (localSet : List (UInt32 × String)) (nics : List ImportNIC) : List (UInt32 × UInt32 × List String) :=
  (nics.filter fun c =>
    (c.overlayIPs.any fun ip => (c.vni.toUInt32, ip) ∈ localSet) && c.vni ≠ 0).flatMap fun c =>
      (c.peerImports.filter (·.1 ≠ 0)).map fun pi => (c.vni.toUInt32, pi.1.toUInt32, pi.2)

def importPeers (entries : List (UInt32 × UInt32 × List String)) (vni : UInt32) : Finset UInt32 :=
  ((entries.filter (·.1 = vni)).map (·.2.1)).toFinset

def peerImport (entries : List (UInt32 × UInt32 × List String)) (vni peer : UInt32) : PeerImport :=
  ⟨peer, sorted ((entries.filter fun e => e.1 = vni /\ e.2.1 = peer).flatMap (·.2.2)).toFinset⟩

-- A VNI's peers are the keys of a map, which Go walks in an order of its own.
def desiredPeeringImports (localSet : List (UInt32 × String)) (nics : List ImportNIC) (vni : UInt32)
  (order : List UInt32) : List PeerImport :=
  order.map (peerImport (importEntries localSet nics) vni)

def routeAddr (pfx : String) : Option (List UInt8) :=
  match parseCIDR pfx with
  | some _ => ((splitAtChar '/' pfx.toList).head?.bind parseAddr).map Addr.as16
  | none => parseIP pfx

def prefixInCIDRs (pfx : String) (cidrs : List String) : Bool :=
  (routeAddr pfx).any fun addr => cidrs.any fun c => (parseCIDR c).any (·.contains addr)

inductive RouteOrigin where
  | unset
  | own
  | peer
  | learnedDefault
  deriving DecidableEq

structure DpRoute where
  nexthop : String
  external : Bool
  deliveryVNI : UInt32
  origin : RouteOrigin
  deriving DecidableEq

structure OwnRoute where
  nexthops : List String
  external : Bool

structure LearnedRoutes where
  learnedOwn : UInt32 × String -> Option OwnRoute
  learnedPublic : String -> Option String
  egressVNIs : List UInt32
  localHosts : UInt32 × String -> Bool
  ownUnderlays : String -> Bool

namespace LearnedRoutes

variable (b : LearnedRoutes) (vni : UInt32) (pfx : String) (imports : List PeerImport)

def nexthopFor (nexthops : List String) : Option String :=
  if b.localHosts (vni, pfx) then
    -- The first that is not of this node.
    (nexthops.find? fun nh => !b.ownUnderlays nh).filter (· ≠ "")
  else nexthops.head?

def importNexthop (im : PeerImport) : Option String :=
  (b.learnedOwn (im.peerVNI, pfx)).bind fun r =>
    if prefixInCIDRs pfx im.importPrefixes then b.nexthopFor vni pfx r.nexthops else none

def desiredRoute : Option DpRoute :=
  match b.learnedOwn (vni, pfx) with
  | some r => (b.nexthopFor vni pfx r.nexthops).map (⟨·, r.external, vni, .own⟩)
  | none =>
    (imports.findSome? fun im =>
      (b.importNexthop vni pfx im).map (⟨·, false, im.peerVNI, .peer⟩)).or
    (if vni ∈ b.egressVNIs then (b.learnedPublic pfx).map (⟨·, true, 0, .learnedDefault⟩) else none)

-- The new entry and whether the dataplane was called. A failed call leaves the key unknown.
def syncKey (entry : Option DpRoute) (force answered : Bool) : Option DpRoute × Bool :=
  let want := b.desiredRoute vni pfx imports
  if entry = want /\ !force then (entry, false)
  else (if answered then want else some ⟨"", false, 0, .unset⟩, true)

lemma syncKey_answered (entry : Option DpRoute) (force : Bool) :
  (b.syncKey vni pfx imports entry force true).1 = b.desiredRoute vni pfx imports := by
  simp only [syncKey]
  split
  next same => exact same.1
  · rfl

end LearnedRoutes

lemma findSome?_unique {α β : Type} {f : α -> Option β} {l l' : List α} (perm : l ~ l')
  (unique : ∀ x ∈ l, ∀ y ∈ l, (f x).isSome -> (f y).isSome -> x = y) :
  l.findSome? f = l'.findSome? f := by
  induction perm with
  | nil => rfl
  | cons a _ ih =>
    simp only [findSome?_cons]
    rw [ih fun x h y h' => unique x (mem_cons_of_mem a h) y (mem_cons_of_mem a h')]
  | swap a c l =>
    have same := unique a (by simp) c (by simp)
    cases fa : f a <;> cases fc : f c <;> simp_all
  | trans first _ ih ih' =>
    rw [ih unique, ih' fun x h y h' => unique x (first.mem_iff.mpr h) y (first.mem_iff.mpr h')]

lemma enumerates_front {x : UInt32} {s : Finset UInt32} (inside : x ∈ s) : Enumerates (x :: (s.erase x).toList) s := by
  refine ⟨nodup_cons.mpr ⟨by simp, Finset.nodup_toList _⟩, fun k => ?_⟩
  by_cases same : k = x <;> simp [same, inside]

theorem desiredRoute_order_independent (b : LearnedRoutes) (vni : UInt32) (pfx : String)
  (localSet : List (UInt32 × String)) (nics : List ImportNIC) :
  (∀ nics' order order', nics' ~ nics -> Enumerates order (importPeers (importEntries localSet nics) vni) ->
    Enumerates order' (importPeers (importEntries localSet nics') vni) ->
    let imports := desiredPeeringImports localSet nics vni order
    let imports' := desiredPeeringImports localSet nics' vni order'
    b.desiredRoute vni pfx imports' = b.desiredRoute vni pfx imports /\ ∀ entry force answered, (b.syncKey vni pfx imports'
        (b.syncKey vni pfx imports entry force true).1 false answered).2 = false) ↔
  (b.learnedOwn (vni, pfx)).isSome \/
    let entries := importEntries localSet nics
    ∀ x ∈ importPeers entries vni, ∀ y ∈ importPeers entries vni,
      (b.importNexthop vni pfx (peerImport entries vni x)).isSome ->
      (b.importNexthop vni pfx (peerImport entries vni y)).isSome -> x = y := by
  constructor
  · intro same
    refine or_iff_not_imp_left.mpr fun none x inside y inside' usable usable' => ?_
    have equal := (same nics _ _ (.refl _) (enumerates_front inside) (enumerates_front inside')).1
    obtain ⟨nh, first⟩ := Option.isSome_iff_exists.mp usable
    obtain ⟨nh', first'⟩ := Option.isSome_iff_exists.mp usable'
    rw [Option.not_isSome_iff_eq_none] at none
    simp only [LearnedRoutes.desiredRoute, none, desiredPeeringImports, map_cons, findSome?_cons, first,
      first', Option.map_some, Option.some_or, Option.some.injEq, DpRoute.mk.injEq] at equal
    exact equal.2.2.1.symm
  · intro decided nics' order order' perm walk walk' imports imports'
    have entries : importEntries localSet nics' ~ importEntries localSet nics :=
      (perm.filter _).flatMap_right _
    have import_ : peerImport (importEntries localSet nics') vni = peerImport (importEntries localSet nics) vni := by
      funext peer
      rw [peerImport, toFinset_eq_of_perm _ _ ((entries.filter _).flatMap_right _)]
      rfl
    rw [importPeers, toFinset_eq_of_perm _ _ ((entries.filter _).map _)] at walk'
    have equal : b.desiredRoute vni pfx imports' = b.desiredRoute vni pfx imports := by
      simp only [LearnedRoutes.desiredRoute]
      cases own : b.learnedOwn (vni, pfx) with
      | some r => rfl
      | none =>
        simp only [own, Option.isSome_none, Bool.false_eq_true, false_or] at decided
        simp only [imports, imports', desiredPeeringImports, import_, findSome?_map]
        rw [findSome?_unique ((perm_ext_iff_of_nodup walk'.1 walk.1).mpr fun k =>
          (walk'.2 k).trans (walk.2 k).symm)]
        intro x inside y inside' usable usable'
        rw [Function.comp_apply, Option.isSome_map] at usable usable'
        exact decided x ((walk'.2 x).mp inside) y ((walk'.2 y).mp inside') usable usable'
    refine ⟨equal, fun entry force answered => ?_⟩
    rw [b.syncKey_answered, LearnedRoutes.syncKey, if_pos ⟨equal.symm, rfl⟩]

theorem peer_order_flips_route :
  let b : LearnedRoutes := ⟨fun k =>
    if k = (20, "10.1.0.5/32") then some ⟨["fd00::a"], false⟩
    else if k = (30, "10.1.0.5/32") then some ⟨["fd00::b"], false⟩ else none,
    fun _ => none, [], fun _ => false, fun _ => false⟩
  let nics : List ImportNIC := [⟨10, ["10.0.0.2"], [(20, ["10.1.0.0/24"]), (30, ["10.1.0.0/24"])]⟩]
  let imports := desiredPeeringImports [(10, "10.0.0.2")] nics 10
  importPeers (importEntries [(10, "10.0.0.2")] nics) 10 = {20, 30} /\
  b.desiredRoute 10 "10.1.0.5/32" (imports [20, 30]) = some ⟨"fd00::a", false, 20, .peer⟩ /\
  b.syncKey 10 "10.1.0.5/32" (imports [30, 20]) (some ⟨"fd00::a", false, 20, .peer⟩) false true =
    (some ⟨"fd00::b", false, 30, .peer⟩, true) := by
  decide +kernel

structure VPCPeering where
  vpc : String × String
  peerVPC : String × String
  exposedPrefixes : List String
  ready : Bool

structure PeeredNIC where
  vpc : String × String
  vni : Int32
  allocatedIPs : List String

section

variable (vpcVNI : String × String -> Int32) (peerings : List VPCPeering)

-- Of several peerings back the last one counts.
def peeringBack (p : VPCPeering) : Option VPCPeering :=
  peerings.reverse.find? fun q => q.vpc = p.peerVPC /\ q.peerVPC = p.vpc

def resolvePeerImports : List ((String × String) × Int32 × List String) :=
  (peerings.filter fun p => p.ready && vpcVNI p.peerVPC ≠ 0).map fun p =>
    (p.vpc, vpcVNI p.peerVPC, ((peeringBack peerings p).map (·.exposedPrefixes)).getD [])

def compilePeerImports (nic : PeeredNIC) : ImportNIC where
  vni := nic.vni
  overlayIPs := nic.allocatedIPs
  peerImports := ((resolvePeerImports vpcVNI peerings).filter (·.1 = nic.vpc)).map (·.2)

-- What the VPCs of the VNI peer expose to the VPCs that this node's NICs have in the VNI.
def exposed (nics : List PeeredNIC) (vni peer : UInt32) : List String :=
  (peerings.filter fun q => (vpcVNI q.vpc).toUInt32 = peer /\
    nics.any fun nic => nic.vni.toUInt32 = vni /\ q.peerVPC = nic.vpc).flatMap (·.exposedPrefixes)

variable (nics : List PeeredNIC) (localSet : List (UInt32 × String)) (b : LearnedRoutes) (vni : UInt32) (pfx : String)

def nodeEntries : List (UInt32 × UInt32 × List String) :=
  importEntries localSet (nics.map (compilePeerImports vpcVNI peerings))

def Confined : Prop :=
  ∀ order, Enumerates order (importPeers (nodeEntries vpcVNI peerings nics localSet) vni) -> ∀ route,
    b.desiredRoute vni pfx (desiredPeeringImports localSet (nics.map (compilePeerImports vpcVNI peerings)) vni order)
      = some route -> route.deliveryVNI ≠ vni -> route.deliveryVNI ≠ 0 ->
    ∀ ip, (parseCIDR pfx).any (·.contains ip) ->
      ∃ c ∈ exposed vpcVNI peerings nics vni route.deliveryVNI, (parseCIDR c).any (·.contains ip)

-- One of the prefixes is around the route, or several tile it. No IPv6 address is in the IPv4-mapped block.
def Tiles (cidrs : List String) : Prop := ∀ w ∈ readNetwork pfx,
  tiled ((if w.v4 then [] else [mappedBits]) ++ ((cidrs.filterMap readNetwork).filter (·.v4 = w.v4)).map Network.bits)
    (8 * w.width - w.bits.length) w.bits = true

def Imported (peer : UInt32) (c : String) : Prop :=
  ∃ nic ∈ nics, nic.vni.toUInt32 = vni /\ nic.vni ≠ 0 /\ (∃ ip ∈ nic.allocatedIPs, (vni, ip) ∈ localSet) /\
    ∃ p ∈ peerings, p.ready /\ p.vpc = nic.vpc /\ vpcVNI p.peerVPC ≠ 0 /\ (vpcVNI p.peerVPC).toUInt32 = peer /\
      ∃ q ∈ peeringBack peerings p, c ∈ q.exposedPrefixes

lemma mem_peerImports {nic : PeeredNIC} {im : Int32 × List String} :
  im ∈ (compilePeerImports vpcVNI peerings nic).peerImports ↔
    ∃ p ∈ peerings, p.ready /\ p.vpc = nic.vpc /\ im.1 ≠ 0 /\ vpcVNI p.peerVPC = im.1 /\
      ((peeringBack peerings p).map (·.exposedPrefixes)).getD [] = im.2 := by
  simp only [compilePeerImports, resolvePeerImports, mem_map, mem_filter, Bool.and_eq_true, decide_eq_true_eq]
  constructor
  · rintro ⟨_, ⟨⟨p, ⟨among, ready, peered⟩, rfl⟩, mine⟩, rfl⟩
    exact ⟨p, among, ready, mine, peered, rfl, rfl⟩
  · rintro ⟨p, among, ready, mine, peered, at_, exposed⟩
    exact ⟨_, ⟨⟨p, ⟨among, ready, at_ ▸ peered⟩, rfl⟩, mine⟩, Prod.ext at_ exposed⟩

lemma mem_nodeEntries {e : UInt32 × UInt32 × List String} : e ∈ nodeEntries vpcVNI peerings nics localSet ↔
    ∃ nic ∈ nics, nic.vni.toUInt32 = e.1 /\ nic.vni ≠ 0 /\ (∃ ip ∈ nic.allocatedIPs, (e.1, ip) ∈ localSet) /\
      ∃ p ∈ peerings, p.ready /\ p.vpc = nic.vpc /\ vpcVNI p.peerVPC ≠ 0 /\ (vpcVNI p.peerVPC).toUInt32 = e.2.1 /\
        ((peeringBack peerings p).map (·.exposedPrefixes)).getD [] = e.2.2 := by
  simp only [nodeEntries, importEntries, mem_flatMap, mem_filter, mem_map, Bool.and_eq_true, List.any_eq_true, decide_eq_true_eq]
  constructor
  · rintro ⟨_, ⟨⟨nic, inside, rfl⟩, attached, set⟩, im, ⟨compiled, -⟩, rfl⟩
    obtain ⟨p, among, ready, mine, peered, at_, exposed⟩ := mem_peerImports _ _ |>.mp compiled
    exact ⟨nic, inside, rfl, set, attached, p, among, ready, mine, at_ ▸ peered, congrArg _ at_, exposed⟩
  · rintro ⟨nic, inside, own, set, attached, p, among, ready, mine, peered, at_, exposed⟩
    exact ⟨_, ⟨⟨nic, inside, rfl⟩, own ▸ attached, set⟩, (vpcVNI p.peerVPC, e.2.2),
      ⟨(mem_peerImports _ _).mpr ⟨p, among, ready, mine, peered, rfl, exposed⟩, peered⟩, Prod.ext own (Prod.ext at_ rfl)⟩

lemma mem_import_iff {peer : UInt32} {c : String} :
  c ∈ (peerImport (nodeEntries vpcVNI peerings nics localSet) vni peer).importPrefixes ↔
    Imported vpcVNI peerings nics localSet vni peer c := by
  simp only [peerImport, mem_sorted, mem_toFinset, mem_flatMap, mem_filter, mem_nodeEntries, decide_eq_true_eq]
  constructor
  · rintro ⟨e, ⟨⟨nic, inside, own, set, attached, p, among, ready, mine, peered, at_, exposed⟩, rfl, rfl⟩, listed⟩
    rw [← exposed] at listed
    cases back : peeringBack peerings p with
    | none => simp [back] at listed
    | some q =>
      exact ⟨nic, inside, own, set, attached, p, among, ready, mine, peered, at_, q, back, by simpa [back] using listed⟩
  · rintro ⟨nic, inside, own, set, attached, p, among, ready, mine, peered, at_, q, back, listed⟩
    exact ⟨(vni, peer, q.exposedPrefixes), ⟨⟨nic, inside, own, set, attached, p, among, ready, mine, peered, at_,
      by rw [back]; rfl⟩, rfl, rfl⟩, listed⟩

lemma covered_iff_tiles (cidrs : List String) : (∀ ip, (parseCIDR pfx).any (·.contains ip) ->
    ∃ c ∈ cidrs, (parseCIDR c).any (·.contains ip)) ↔ Tiles pfx cidrs := by
  have named (s : String) (ip : List UInt8) : (parseCIDR s).any (·.contains ip) = true ↔ ∃ w ∈ readNetwork s, w.holds ip := by
    rcases parseCIDR_network s with ⟨unread, unnamed⟩ | ⟨net, key, w, read, named, number, keyed⟩
    · simp [unread, unnamed]
    · simp [read, named, keyed.contains_iff number]
  have among (ip : List UInt8) : (∃ c ∈ cidrs, ∃ w ∈ readNetwork c, w.holds ip) ↔
      ∃ w ∈ cidrs.filterMap readNetwork, w.holds ip := by
    simp only [mem_filterMap, Option.mem_def]
    tauto
  unfold Tiles
  simp only [named, among]
  rcases parseCIDR_network pfx with ⟨-, unnamed⟩ | ⟨net, key, w, -, named, -, keyed⟩
  · simp [unnamed]
  · simp only [named, Option.mem_def, Option.some.injEq, forall_eq', exists_eq_left', covered_iff w keyed.short]

lemma importNexthop_isSome (im : PeerImport) : (b.importNexthop vni pfx im).isSome ↔
    ∃ r, b.learnedOwn (im.peerVNI, pfx) = some r /\ (b.nexthopFor vni pfx r.nexthops).isSome /\
      prefixInCIDRs pfx im.importPrefixes = true := by
  rw [LearnedRoutes.importNexthop]
  cases b.learnedOwn (im.peerVNI, pfx) with
  | none => simp
  | some r => by_cases named : prefixInCIDRs pfx im.importPrefixes = true <;> simp [named]

lemma importNexthop_iff {peer : UInt32} :
  (b.importNexthop vni pfx (peerImport (nodeEntries vpcVNI peerings nics localSet) vni peer)).isSome ↔
    ∃ r, b.learnedOwn (peer, pfx) = some r /\ (b.nexthopFor vni pfx r.nexthops).isSome /\
      ∃ host ∈ routeAddr pfx, ∃ c, Imported vpcVNI peerings nics localSet vni peer c /\
        (parseCIDR c).any (·.contains host) := by
  simp only [importNexthop_isSome, prefixInCIDRs, Option.any_eq_true, List.any_eq_true, mem_import_iff, Option.mem_def]
  rfl

lemma importNexthop_peered {peer : UInt32}
  (usable : (b.importNexthop vni pfx (peerImport (nodeEntries vpcVNI peerings nics localSet) vni peer)).isSome) :
  peer ∈ importPeers (nodeEntries vpcVNI peerings nics localSet) vni /\ peer ≠ 0 := by
  obtain ⟨-, -, -, -, -, c, imported, -⟩ := (importNexthop_iff ..).mp usable
  constructor
  · rw [← mem_import_iff, peerImport, mem_sorted, mem_toFinset, mem_flatMap] at imported
    obtain ⟨e, inside, -⟩ := imported
    simp only [mem_filter, decide_eq_true_eq] at inside
    simp only [importPeers, mem_toFinset, mem_map, mem_filter, decide_eq_true_eq]
    exact ⟨e, ⟨inside.1, inside.2.1⟩, inside.2.2⟩
  · obtain ⟨-, -, -, -, -, p, -, -, -, peered, rfl, -⟩ := imported
    exact fun zero => peered (by simpa using congrArg UInt32.toInt32 zero)

theorem peer_routes_confined : Confined vpcVNI peerings nics localSet b vni pfx ↔
    (b.learnedOwn (vni, pfx)).isSome \/ ∀ peer ≠ vni, (∃ r, b.learnedOwn (peer, pfx) = some r /\
      (b.nexthopFor vni pfx r.nexthops).isSome /\
      ∃ host ∈ routeAddr pfx, ∃ c, Imported vpcVNI peerings nics localSet vni peer c /\
        (parseCIDR c).any (·.contains host)) -> Tiles pfx (exposed vpcVNI peerings nics vni peer) := by
  simp only [← importNexthop_iff, Confined, covered_iff_tiles]
  constructor
  · intro confined
    refine or_iff_not_imp_left.mpr fun none peer other usable => ?_
    have ⟨inside, peered⟩ := importNexthop_peered _ _ _ _ _ _ _ usable
    obtain ⟨nh, first⟩ := Option.isSome_iff_exists.mp usable
    rw [Option.not_isSome_iff_eq_none] at none
    -- The walk that has this peer first.
    refine confined _ (enumerates_front inside) ⟨nh, false, peer, .peer⟩ ?_ other peered
    rw [nodeEntries] at first
    simp only [LearnedRoutes.desiredRoute, none, desiredPeeringImports, map_cons, findSome?_cons, first,
      Option.map_some, Option.some_or]
    rfl
  · intro tiles order walk route chosen other peered
    simp only [LearnedRoutes.desiredRoute] at chosen
    cases own : b.learnedOwn (vni, pfx) with
    | some r =>
      simp only [own, Option.map_eq_some_iff] at chosen
      obtain ⟨nh, -, rfl⟩ := chosen
      exact absurd rfl other
    | none =>
      simp only [own, Option.or_eq_some_iff] at chosen
      rcases chosen with first | ⟨-, learned⟩
      · obtain ⟨im, walked, usable⟩ := exists_of_findSome?_eq_some first
        obtain ⟨peer, -, rfl⟩ := mem_map.mp walked
        obtain ⟨nh, found, rfl⟩ := Option.map_eq_some_iff.mp usable
        simp only [own, Option.isSome_none, Bool.false_eq_true, false_or] at tiles
        exact tiles peer other (Option.isSome_of_eq_some found)
      · split at learned
        · obtain ⟨nh, -, rfl⟩ := Option.map_eq_some_iff.mp learned
          exact absurd rfl peered
        · cases learned

end

def netVNI (vpc : String × String) : Int32 := if vpc = ("b", "net") then 20 else 10

def exposing : List VPCPeering :=
  [⟨("a", "net"), ("b", "net"), [], true⟩, ⟨("b", "net"), ("a", "net"), ["10.1.0.0/24"], true⟩]

def peerRoute (pfx : String) : LearnedRoutes :=
  ⟨fun k => if k = (20, pfx) then some ⟨["fd00::a"], false⟩ else none, fun _ => none, [], fun _ => false, fun _ => false⟩

-- The peer exposes a /24 and announces the /16 around it.
theorem short_peer_route :
  let imports := desiredPeeringImports [(10, "10.0.0.2")]
    ([⟨("a", "net"), 10, ["10.0.0.2"]⟩].map (compilePeerImports netVNI exposing)) 10 [20]
  (peerRoute "10.1.0.0/16").desiredRoute 10 "10.1.0.0/16" imports = some ⟨"fd00::a", false, 20, .peer⟩ /\
    (parseCIDR "10.1.0.0/16").any (·.contains [10, 1, 9, 9]) /\
    ∀ q ∈ exposing, ∀ c ∈ q.exposedPrefixes, ¬ (parseCIDR c).any (·.contains [10, 1, 9, 9]) := by
  decide +kernel

end Ectobase.Mesh
