import Ectobase.Mesh.Rib

namespace Ectobase.Mesh

open Shared

structure Route where
  vni : UInt32
  pfx : String
  nexthop : String
  external : Bool
  deliveryVNI : UInt32
  deriving DecidableEq, Repr

structure DesiredState where
  subs : List UInt32
  routes : List Route
  nats : List NatBlock
  pubs : List PublicRecord

structure NatRef where
  natIP : String
  portMin : UInt32
  portMax : UInt32
  deriving DecidableEq, Repr

structure BusDelta where
  subscribe : List UInt32
  unsubscribe : List UInt32
  announceR : List Route
  withdrawR : List RouteKey
  announceN : List NatBlock
  withdrawN : List NatRef
  announceP : List PublicRecord
  withdrawP : List PublicRecord

def routeKey (r : Route) : RouteKey := { vni := r.vni, pfx := r.pfx }

def natKey (n : NatBlock) : NatRef := { natIP := n.natIP, portMin := n.portMin, portMax := n.portMax }

def PublicKind.number : PublicKind -> Nat
  | .unspecified => 0
  | .edgeUnderlay => 1
  | .natIp => 2
  | .lbIp => 3
  | .floatingIp => 4

def pubKey (p : PublicRecord) : String :=
  toString p.kind.number ++ "|" ++ p.pfx ++ "|" ++ p.ownerUnderlay ++ "|" ++ p.overlayIP

def keyed {K V : Type} [DecidableEq K] (key : V -> K) (vs : List V) : Map K V :=
  vs.foldl (fun m v => m.insert (key v) v) ∅

def changed {K V : Type} [DecidableEq K] [DecidableEq V] (key : V -> K) (prev : Map K V) (next : List V) : List V :=
  next.filter fun v => decide (prev.lookup (key v) ≠ some v)

structure DiffOrder where
  nextSubs : List UInt32
  prevSubs : List UInt32
  routes : List RouteKey
  nats : List NatRef
  pubs : List String

def DiffOrder.Enumerates (order : DiffOrder) (applied next : DesiredState) : Prop :=
  Shared.Enumerates order.nextSubs next.subs.toFinset /\ Shared.Enumerates order.prevSubs applied.subs.toFinset /\
    Shared.Enumerates order.routes (keyed routeKey applied.routes).keys /\
    Shared.Enumerates order.nats (keyed natKey applied.nats).keys /\
    Shared.Enumerates order.pubs (keyed pubKey applied.pubs).keys

def diffDesired (order : DiffOrder) (applied next : DesiredState) : BusDelta :=
  let prevR := keyed routeKey applied.routes
  let nextR := keyed routeKey next.routes
  let prevN := keyed natKey applied.nats
  let nextN := keyed natKey next.nats
  let prevP := keyed pubKey applied.pubs
  let nextP := keyed pubKey next.pubs
  { subscribe := order.nextSubs.filter fun v => decide (v ∉ applied.subs)
    unsubscribe := order.prevSubs.filter fun v => decide (v ∉ next.subs)
    announceR := changed routeKey prevR next.routes
    withdrawR := order.routes.filter fun k => (nextR.lookup k).isNone
    announceN := changed natKey prevN next.nats
    withdrawN := order.nats.filter fun k => (nextN.lookup k).isNone
    announceP := changed pubKey prevP next.pubs
    withdrawP := (order.pubs.filter fun k => (nextP.lookup k).isNone).filterMap prevP.lookup }

def sendDelta (d : BusDelta) : List ClientMsg := d.subscribe.map .subscribe ++
  d.announceR.map (fun r => .announce r.vni r.pfx r.nexthop [] r.external) ++
  d.announceN.map .announceNat ++
  d.announceP.map .announcePublic ++
  d.withdrawR.map (fun k => .withdraw k.vni k.pfx) ++
  d.withdrawN.map (fun k => .withdrawNat k.natIP k.portMin k.portMax) ++
  d.withdrawP.map .withdrawPublic ++
  d.unsubscribe.map .unsubscribe

structure DesiredState.UniqueKeys (d : DesiredState) : Prop where
  routes : ∀ a ∈ d.routes, ∀ b ∈ d.routes, routeKey a = routeKey b -> a = b
  nats : ∀ a ∈ d.nats, ∀ b ∈ d.nats, natKey a = natKey b -> a = b
  pubs : ∀ a ∈ d.pubs, ∀ b ∈ d.pubs, pubKey a = pubKey b -> a = b

section

variable {K V : Type} [DecidableEq K] {key : V -> K}

lemma keyed_lookup_cases (key : V -> K) (vs : List V) (k : K) : ((keyed key vs).lookup k = none /\ ∀ v ∈ vs, key v ≠ k) \/
    ∃ v ∈ vs, key v = k /\ (keyed key vs).lookup k = some v := by
  have scan (vs : List V) (m : Map K V) :
    ((vs.foldl (fun m v => m.insert (key v) v) m).lookup k = m.lookup k /\ ∀ v ∈ vs, key v ≠ k) \/
      ∃ v ∈ vs, key v = k /\ (vs.foldl (fun m v => m.insert (key v) v) m).lookup k = some v := by
    induction vs generalizing m with
    | nil => exact .inl ⟨rfl, by simp⟩
    | cons v vs ih =>
      rcases ih (m.insert (key v) v) with ⟨same, absent⟩ | ⟨u, mem, here, last⟩
      · by_cases own : key v = k
        · refine .inr ⟨v, by simp, own, same.trans ?_⟩
          rw [<- own, Finmap.lookup_insert]
        · refine .inl ⟨same.trans (Finmap.lookup_insert_of_ne _ (Ne.symm own)), ?_⟩
          simpa [own] using absent
      · exact .inr ⟨u, List.mem_cons_of_mem _ mem, here, last⟩
  exact scan vs ∅

lemma keyed_lookup_isNone (vs : List V) (k : K) : (keyed key vs).lookup k = none ↔ ∀ v ∈ vs, key v ≠ k := by
  rcases keyed_lookup_cases key vs k with ⟨none, absent⟩ | ⟨v, mem, here, found⟩
  · exact iff_of_true none absent
  · exact iff_of_false (by simp [found]) fun absent => absent v mem here

variable {vs : List V} (unique : ∀ a ∈ vs, ∀ b ∈ vs, key a = key b -> a = b)
include unique

lemma keyed_lookup (k : K) (v : V) : (keyed key vs).lookup k = some v ↔ v ∈ vs /\ key v = k := by
  rcases keyed_lookup_cases key vs k with ⟨none, absent⟩ | ⟨u, mem, here, found⟩
  · exact iff_of_false (by simp [none]) fun held => absent v held.1 held.2
  · rw [found]
    constructor
    · intro same
      cases same
      exact ⟨mem, here⟩
    · intro held
      rw [unique u mem v held.1 (here.trans held.2.symm)]

lemma mem_changed [DecidableEq V] (next : List V) (v : V) : v ∈ changed key (keyed key vs) next ↔ v ∈ next /\ v ∉ vs := by
  simp [changed, keyed_lookup unique]

omit unique in
lemma mem_withdrawn (next : List V) (order : List K) (visits : Enumerates order (keyed key vs).keys) (k : K) :
  k ∈ order.filter (fun k => ((keyed key next).lookup k).isNone) ↔ ∃ a ∈ vs, key a = k /\ ∀ n ∈ next, key n ≠ key a := by
  rw [List.mem_filter, visits.2, mem_keys_iff_lookup, Option.isNone_iff_eq_none, keyed_lookup_isNone]
  constructor
  · intro ⟨⟨v, found⟩, absent⟩
    rcases keyed_lookup_cases key vs k with ⟨none, _⟩ | ⟨u, mem, here, _⟩
    · rw [none] at found
      cases found
    · exact ⟨u, mem, here, fun n wanted => here ▸ absent n wanted⟩
  · intro ⟨a, mem, here, absent⟩
    subst here
    refine ⟨?_, absent⟩
    rcases keyed_lookup_cases key vs (key a) with ⟨_, none⟩ | ⟨u, _, _, found⟩
    · exact absurd rfl (none a mem)
    · exact ⟨u, found⟩

end

end Ectobase.Mesh
