import Ectobase.Flowplane.Routes

namespace Ectobase.Flowplane

open Shared Function

variable {A : Type} [DecidableEq A]

-- What one family's routes are for: the routes the mesh has added and not withdrawn, and the
-- self-routes of the interfaces that were programmed and whose keys were not given up since.
structure RouteView (A : Type) where
  mesh : RouteKey A -> Option RouteValue
  live : UInt32 × A -> Option RouteValue

namespace RouteView

def empty : RouteView A := ⟨fun _ => none, fun _ => none⟩

def selfRoute (hostLen : UInt32) (v : RouteView A) (k : RouteKey A) : Option RouteValue :=
  if k.prefixLen = hostLen then v.live (k.vni, k.addr) else none

def entry (hostLen : UInt32) (v : RouteView A) (k : RouteKey A) : Option RouteValue :=
  (v.selfRoute hostLen k).or (v.mesh k)

def announce (v : RouteView A) (k : RouteKey A) (val : RouteValue) : RouteView A :=
  { v with mesh := update v.mesh k (some val) }

def announceNew (v : RouteView A) (k : RouteKey A) (val : RouteValue) : RouteView A :=
  if (v.mesh k).isSome then v else v.announce k val

def withdraw (v : RouteView A) (k : RouteKey A) : RouteView A :=
  { v with mesh := update v.mesh k none }

def attach (unset : A) (v : RouteView A) (vni : UInt32) (addr : A) (underlay : Octets 16) : RouteView A :=
  if addr = unset then v
  else { v with live := update v.live (vni, addr) (some ⟨vni, underlay, 0⟩) }

def detach (unset : A) (v : RouteView A) (vni : UInt32) (addr : A) : RouteView A :=
  if addr = unset then v else { v with live := update v.live (vni, addr) none }

lemma entry_live (hostLen : UInt32) (v : RouteView A) (vni : UInt32) (addr : A) (self : Option RouteValue) (k : RouteKey A) :
  entry hostLen { v with live := update v.live (vni, addr) self } k =
    if k = ⟨vni, addr, hostLen⟩ then self.or (v.mesh k) else v.entry hostLen k := by
  obtain ⟨kvni, kaddr, klen⟩ := k
  by_cases host : klen = hostLen
  · by_cases here : (kvni, kaddr) = (vni, addr)
    · obtain ⟨rfl, rfl⟩ := Prod.mk.inj here
      simp [entry, selfRoute, host]
    · have other : ¬ (kvni = vni /\ kaddr = addr) := by simpa using here
      simp [entry, selfRoute, host, other]
  · simp [entry, selfRoute, host]

end RouteView

lemma RouteKey.trie_host {n : Nat} {hostLen : UInt32} (full : hostLen.toNat = 8 * n) (vni : UInt32) (addr : Octets n) :
  (⟨vni, addr, hostLen⟩ : RouteKey (Octets n)).trie hostLen = ⟨vni, addr, hostLen⟩ := by
  have whole (i : Fin n) : bitsInByte (8 * n) i = 8 := by
    unfold bitsInByte
    omega
  have bytes : Vector.ofFn addr.bytes.get = addr.bytes := Vector.ext fun i bound => by rw [Vector.getElem_ofFn]; rfl
  simp only [RouteKey.trie, Octets.masked, UInt32.le_refl, if_true, full, whole, and_maskByte_eight, bytes]

-- The code's three stores show the view: the shadow lists the mesh routes, the held set has the
-- keys of the live interfaces, and the kernel has the self-route before the mesh route.
structure RouteTable.Shows {n : Nat} (hostLen : UInt32) (s : RouteTable n) (v : RouteView (Octets n)) : Prop where
  nodup : (s.routesShadow.map Prod.fst).Nodup
  form : ∀ k, (v.mesh k).isSome -> k.trie hostLen = k
  listed : ∀ k, s.routesShadow.lookup k = v.mesh k
  held : ∀ p, p ∈ s.selfRoutes ↔ (v.live p).isSome
  kernel : ∀ k, s.routes.lookup k = v.entry hostLen k

namespace RouteTable.Shows

variable {n : Nat} {hostLen : UInt32} {s : RouteTable n} {v : RouteView (Octets n)} {k : RouteKey (Octets n)}

lemma empty : (RouteTable.empty : RouteTable n).Shows hostLen RouteView.empty where
  nodup := List.nodup_nil
  form _ listed := nomatch listed
  listed _ := rfl
  held p := by simp [RouteTable.empty, RouteView.empty]
  kernel k := by simp [RouteTable.empty, RouteView.entry, RouteView.selfRoute, RouteView.empty]

lemma selfRouteHolds_eq (shows : s.Shows hostLen v) (k : RouteKey (Octets n)) :
  s.selfRouteHolds hostLen k = (v.selfRoute hostLen k).isSome := by
  by_cases host : k.prefixLen = hostLen
  · simp [selfRouteHolds, RouteView.selfRoute, host, shows.held]
  · simp [selfRouteHolds, RouteView.selfRoute, host]

lemma kernel_mesh (shows : s.Shows hostLen v) (k : RouteKey (Octets n)) (val : Option RouteValue)
  {routes : Map (RouteKey (Octets n)) RouteValue}
  (written : ∀ k', routes.lookup k' =
    if k' = k /\ v.selfRoute hostLen k = none then val else s.routes.lookup k') (k' : RouteKey (Octets n)) :
  routes.lookup k' = RouteView.entry hostLen { v with mesh := update v.mesh k val } k' := by
  rw [written, shows.kernel]
  by_cases here : k' = k
  · subst here
    cases holds : v.selfRoute hostLen k' with
    | none =>
      have free : RouteView.selfRoute hostLen { v with mesh := update v.mesh k' val } k' = none := holds
      simp [RouteView.entry, free]
    | some self =>
      have held : RouteView.selfRoute hostLen { v with mesh := update v.mesh k' val } k' = some self := holds
      simp [RouteView.entry, holds, held]
  · simp [RouteView.entry, RouteView.selfRoute, here]

lemma replaceRoute (shows : s.Shows hostLen v) (form : k.trie hostLen = k) (nexthop : Octets 16) (vni : UInt32) (external : Bool) :
  (s.replaceRoute hostLen k nexthop vni external).Shows hostLen (v.announce k (routeValue nexthop vni external)) := by
  simp only [RouteTable.replaceRoute, shows.selfRouteHolds_eq]
  refine ⟨?_, fun k' listed => ?_, fun k' => ?_, ?_, shows.kernel_mesh k _ fun k' => ?_⟩
  · split <;> exact nodup_keys_putKey _ _ shows.nodup
  · by_cases here : k' = k
    · rw [here, form]
    · exact shows.form k' (by simpa [RouteView.announce, update_apply, here] using listed)
  · split <;> simp only [routeUpsert, lookup_putKey, RouteView.announce, update_apply, shows.listed]
  · split <;> exact shows.held
  · cases v.selfRoute hostLen k with
    | none => simp [routeUpsert, form, lookup_insert_ite]
    | some self => simp

lemma createRoute (shows : s.Shows hostLen v) (form : k.trie hostLen = k) (nexthop : Octets 16) (vni : UInt32) (external : Bool) :
  (s.createRoute hostLen k nexthop vni external).2.Shows hostLen (v.announceNew k (routeValue nexthop vni external)) := by
  unfold RouteTable.createRoute RouteView.announceNew
  rw [shows.listed]
  split
  · exact shows
  · exact shows.replaceRoute form nexthop vni external

lemma deleteRoute (shows : s.Shows hostLen v) (k : RouteKey (Octets n)) :
  (s.deleteRoute hostLen k).2.Shows hostLen (v.withdraw k) := by
  simp only [RouteTable.deleteRoute, shows.listed, shows.selfRouteHolds_eq]
  split
  next listed =>
    refine ⟨?_, fun k' listed => ?_, fun k' => ?_, ?_, shows.kernel_mesh k _ fun k' => ?_⟩
    · split <;> exact nodup_keys_dropKey k shows.nodup
    · by_cases here : k' = k
      · simp [RouteView.withdraw, here] at listed
      · exact shows.form k' (by simpa [RouteView.withdraw, update_apply, here] using listed)
    · split <;> simp only [routeRemove, lookup_dropKey k k' shows.nodup, RouteView.withdraw, update_apply, shows.listed]
    · split <;> exact shows.held
    · cases v.selfRoute hostLen k with
      | none => simp [routeRemove, shows.form k listed, lookup_erase_ite]
      | some self => simp
  next unlisted =>
    -- a withdraw of what is not listed changes neither side
    have absent : v.mesh k = none := by simpa using unlisted
    have same : v.withdraw k = v := by
      simp [RouteView.withdraw, <- absent]
    rw [same]
    exact shows

lemma addSelfRoute (shows : s.Shows hostLen v) (full : hostLen.toNat = 8 * n) (unset : Octets n) (vni : UInt32)
  (addr : Octets n) (underlay : Octets 16) :
  (s.addSelfRoute hostLen unset vni addr underlay).Shows hostLen (v.attach unset vni addr underlay) := by
  unfold RouteTable.addSelfRoute RouteView.attach
  split
  · exact shows
  · exact
      { nodup := shows.nodup
        form := shows.form
        listed := shows.listed
        held := fun p => by
          by_cases here : p = (vni, addr) <;> simp [routeUpsert, here, shows.held]
        kernel := fun k => by
          simp only [routeUpsert, RouteKey.trie_host full]
          rw [lookup_insert_ite, shows.kernel, RouteView.entry_live]
          rfl }

lemma dropSelfRoute_eq (shows : s.Shows hostLen v) {unset addr : Octets n} (set : addr ≠ unset) (vni : UInt32) :
  ∃ routes, s.dropSelfRoute hostLen unset vni addr = ⟨routes, s.routesShadow, s.selfRoutes.erase (vni, addr)⟩ /\
    (hostLen.toNat = 8 * n -> ∀ k, routes.lookup k =
      if k = ⟨vni, addr, hostLen⟩ then v.mesh k else s.routes.lookup k) := by
  simp only [RouteTable.dropSelfRoute, if_neg set, shows.listed]
  cases listed : v.mesh ⟨vni, addr, hostLen⟩ with
  | none =>
    refine ⟨_, rfl, fun full k => ?_⟩
    rw [RouteKey.trie_host full, lookup_erase_ite]
    split
    next here => rw [here, listed]
    · rfl
  | some mesh =>
    refine ⟨_, rfl, fun full k => ?_⟩
    rw [RouteKey.trie_host full, lookup_insert_ite]
    split
    next here => rw [here, listed]
    · rfl

lemma dropSelfRoute (shows : s.Shows hostLen v) (full : hostLen.toNat = 8 * n) (unset : Octets n) (vni : UInt32) (addr : Octets n) :
  (s.dropSelfRoute hostLen unset vni addr).Shows hostLen (v.detach unset vni addr) := by
  by_cases set : addr = unset
  · simp only [RouteTable.dropSelfRoute, RouteView.detach, if_pos set]
    exact shows
  · obtain ⟨routes, dropped, kernel⟩ := shows.dropSelfRoute_eq set vni
    rw [dropped, RouteView.detach, if_neg set]
    exact
      { nodup := shows.nodup
        form := shows.form
        listed := shows.listed
        held := fun p => by
          by_cases here : p = (vni, addr) <;> simp [here, shows.held]
        kernel := fun k => by
          rw [kernel full, shows.kernel, RouteView.entry_live]
          rfl }

end RouteTable.Shows

structure RoutesView where
  v4 : RouteView (Octets 4)
  v6 : RouteView (Octets 16)

inductive RouteOp where
  | replaceRoute (k : RouteKey (Octets 4)) (nexthop : Octets 16) (vni : UInt32) (external : Bool)
  | replaceRoute6 (k : RouteKey (Octets 16)) (nexthop : Octets 16) (vni : UInt32) (external : Bool)
  | createRoute (k : RouteKey (Octets 4)) (nexthop : Octets 16) (vni : UInt32) (external : Bool)
  | createRoute6 (k : RouteKey (Octets 16)) (nexthop : Octets 16) (vni : UInt32) (external : Bool)
  | deleteRoute (k : RouteKey (Octets 4))
  | deleteRoute6 (k : RouteKey (Octets 16))
  | programInterface (params : Routes.IfaceParams)
  | removeSelfRoutes (vni : UInt32) (ipv4 : Octets 4) (ipv6 : Octets 16)

-- A mesh route is added in network form: no bit set beyond the length, and no length beyond a host's.
def RouteOp.InForm : RouteOp -> Prop
  | .replaceRoute k _ _ _ | .createRoute k _ _ _ => k.trie 32 = k
  | .replaceRoute6 k _ _ _ | .createRoute6 k _ _ _ => k.trie 128 = k
  | _ => True

instance (op : RouteOp) : Decidable op.InForm := by
  cases op <;> simp only [RouteOp.InForm] <;> infer_instance

def Routes.step (s : Routes) : RouteOp -> Routes
  | .replaceRoute k nexthop vni external =>
    { s with v4 := s.v4.replaceRoute 32 k nexthop vni external }
  | .replaceRoute6 k nexthop vni external =>
    { s with v6 := s.v6.replaceRoute 128 k nexthop vni external }
  | .createRoute k nexthop vni external =>
    { s with v4 := (s.v4.createRoute 32 k nexthop vni external).2 }
  | .createRoute6 k nexthop vni external =>
    { s with v6 := (s.v6.createRoute 128 k nexthop vni external).2 }
  | .deleteRoute k => { s with v4 := (s.v4.deleteRoute 32 k).2 }
  | .deleteRoute6 k => { s with v6 := (s.v6.deleteRoute 128 k).2 }
  | .programInterface params => s.programInterface params
  | .removeSelfRoutes vni ipv4 ipv6 => s.removeSelfRoutes vni ipv4 ipv6

def RoutesView.empty : RoutesView := ⟨RouteView.empty, RouteView.empty⟩

def RoutesView.step (v : RoutesView) : RouteOp -> RoutesView
  | .replaceRoute k nexthop vni external =>
    { v with v4 := v.v4.announce k (routeValue nexthop vni external) }
  | .replaceRoute6 k nexthop vni external =>
    { v with v6 := v.v6.announce k (routeValue nexthop vni external) }
  | .createRoute k nexthop vni external =>
    { v with v4 := v.v4.announceNew k (routeValue nexthop vni external) }
  | .createRoute6 k nexthop vni external =>
    { v with v6 := v.v6.announceNew k (routeValue nexthop vni external) }
  | .deleteRoute k => { v with v4 := v.v4.withdraw k }
  | .deleteRoute6 k => { v with v6 := v.v6.withdraw k }
  | .programInterface params =>
    { v4 := v.v4.attach (Octets.zero 4) params.vni params.ipv4 params.underlayIpv6
      v6 := v.v6.attach (Octets.zero 16) params.vni params.ipv6 params.underlayIpv6 }
  | .removeSelfRoutes vni ipv4 ipv6 =>
    { v4 := v.v4.detach (Octets.zero 4) vni ipv4
      v6 := v.v6.detach (Octets.zero 16) vni ipv6 }

structure Routes.Shows (s : Routes) (v : RoutesView) : Prop where
  v4 : s.v4.Shows 32 v.v4
  v6 : s.v6.Shows 128 v.v6

lemma Routes.Shows.step {s : Routes} {v : RoutesView} (shows : s.Shows v) {op : RouteOp} (form : op.InForm) :
  (s.step op).Shows (v.step op) := by
  cases op with
  | replaceRoute k nexthop vni external =>
    exact ⟨shows.v4.replaceRoute form nexthop vni external, shows.v6⟩
  | replaceRoute6 k nexthop vni external =>
    exact ⟨shows.v4, shows.v6.replaceRoute form nexthop vni external⟩
  | createRoute k nexthop vni external =>
    exact ⟨shows.v4.createRoute form nexthop vni external, shows.v6⟩
  | createRoute6 k nexthop vni external =>
    exact ⟨shows.v4, shows.v6.createRoute form nexthop vni external⟩
  | deleteRoute k => exact ⟨shows.v4.deleteRoute k, shows.v6⟩
  | deleteRoute6 k => exact ⟨shows.v4, shows.v6.deleteRoute k⟩
  | programInterface params =>
    exact ⟨shows.v4.addSelfRoute rfl _ _ _ _, shows.v6.addSelfRoute rfl _ _ _ _⟩
  | removeSelfRoutes vni ipv4 ipv6 =>
    exact ⟨shows.v4.dropSelfRoute rfl _ _ _, shows.v6.dropSelfRoute rfl _ _ _⟩

lemma run_shows {s : Routes} {v : RoutesView} (shows : s.Shows v) {ops : List RouteOp} (form : ∀ op ∈ ops, op.InForm) :
  (ops.foldl Routes.step s).Shows (ops.foldl RoutesView.step v) := by
  induction ops generalizing s v with
  | nil => exact shows
  | cons op ops ih =>
    rw [List.forall_mem_cons] at form
    exact ih (shows.step form.1) form.2

structure RouteTable.Arbitrated {n : Nat} (hostLen : UInt32) (unset : Octets n) (s : RouteTable n)
  (v : RouteView (Octets n)) : Prop where
  entry : ∀ k, k.trie hostLen = k -> s.routes.lookup k = (v.selfRoute hostLen k).or (s.routesShadow.lookup k)
  listed : ∀ k, s.routesShadow.lookup k = v.mesh k
  quiet : ∀ k, (v.selfRoute hostLen k).isSome ->
    (∀ nexthop vni external,
      (s.replaceRoute hostLen k nexthop vni external).routes = s.routes /\
      (s.createRoute hostLen k nexthop vni external).2.routes = s.routes) /\
    (s.deleteRoute hostLen k).2.routes = s.routes
  restored : ∀ vni addr, addr ≠ unset ->
    (s.dropSelfRoute hostLen unset vni addr).routes.lookup ⟨vni, addr, hostLen⟩ =
      v.mesh ⟨vni, addr, hostLen⟩

lemma RouteTable.Shows.arbitrated {n : Nat} {hostLen : UInt32} {s : RouteTable n} {v : RouteView (Octets n)}
  (shows : s.Shows hostLen v) (full : hostLen.toNat = 8 * n) (unset : Octets n) : s.Arbitrated hostLen unset v where
  entry k _ := by rw [shows.kernel, RouteView.entry, shows.listed]
  listed := shows.listed
  quiet k held := by
    have holds : s.selfRouteHolds hostLen k = true := by rw [shows.selfRouteHolds_eq, held]
    refine ⟨fun nexthop vni external => ⟨?_, ?_⟩, ?_⟩
    · simp [RouteTable.replaceRoute, holds]
    · unfold RouteTable.createRoute
      split
      · rfl
      · simp [RouteTable.replaceRoute, holds]
    · unfold RouteTable.deleteRoute
      split
      · simp
      · rfl
  restored vni addr set := by
    obtain ⟨routes, dropped, kernel⟩ := shows.dropSelfRoute_eq set vni
    rw [dropped, kernel full, if_pos rfl]

theorem held_routes_arbitrated {ops : List RouteOp} (form : ∀ op ∈ ops, op.InForm) :
  (ops.foldl Routes.step Routes.empty).v4.Arbitrated 32 (Octets.zero 4)
      (ops.foldl RoutesView.step RoutesView.empty).v4 /\
    (ops.foldl Routes.step Routes.empty).v6.Arbitrated 128 (Octets.zero 16)
      (ops.foldl RoutesView.step RoutesView.empty).v6 := by
  have start : Routes.empty.Shows RoutesView.empty :=
    ⟨RouteTable.Shows.empty, RouteTable.Shows.empty⟩
  have shows := run_shows start form
  exact ⟨shows.v4.arbitrated rfl _, shows.v6.arbitrated rfl _⟩

def tenNet (last : UInt8) (len : UInt32) : RouteKey (Octets 4) := ⟨7, ⟨#v[10, 1, 0, last]⟩, len⟩

def viaNode (node : UInt8) : Octets 16 := ⟨Vector.replicate 16 node⟩

-- A VM moves here while its old host route is still announced, the network's route is replaced, and
-- the VM leaves again.
def movedHere : List RouteOp :=
  [.replaceRoute (tenNet 5 32) (viaNode 1) 7 false, .programInterface ⟨7, ⟨#v[10, 1, 0, 5]⟩, Octets.zero 16, viaNode 9⟩,
    .createRoute (tenNet 0 24) (viaNode 1) 7 false, .replaceRoute (tenNet 0 24) (viaNode 2) 7 true,
    .replaceRoute (tenNet 5 32) (viaNode 2) 7 false, .removeSelfRoutes 7 ⟨#v[10, 1, 0, 5]⟩ (Octets.zero 16)]

theorem moved_here_arbitrated :
  ((movedHere.take 5).foldl Routes.step Routes.empty).v4.routes.lookup (tenNet 5 32) = some ⟨7, viaNode 9, 0⟩ /\
    (movedHere.foldl Routes.step Routes.empty).v4.routes.lookup (tenNet 5 32) = some (routeValue (viaNode 2) 7 false) := by
  have while_held := (@held_routes_arbitrated (movedHere.take 5) (by decide +kernel)).1.entry (tenNet 5 32)
  have after := (@held_routes_arbitrated movedHere (by decide +kernel)).1.entry (tenNet 5 32)
  rw [while_held (by decide +kernel), after (by decide +kernel)]
  decide +kernel

-- Two spellings of one network are two routes in the shadow and one entry of the trie.
theorem respelled_withdraw_unroutes :
  let left := [.replaceRoute (tenNet 5 24) (viaNode 1) 7 false, .replaceRoute (tenNet 9 24) (viaNode 2) 7 false,
    .deleteRoute (tenNet 5 24)].foldl Routes.step Routes.empty
  left.v4.routesShadow.lookup (tenNet 9 24) = some (routeValue (viaNode 2) 7 false) /\
    left.v4.selfRoutes = ∅ /\ left.v4.routes.lookup ((tenNet 9 24).trie 32) = none := by
  decide +kernel

end Ectobase.Flowplane
