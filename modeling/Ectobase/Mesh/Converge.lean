import Ectobase.Mesh.Desired
import Ectobase.Mesh.Holdings
import Ectobase.Shared.KeyedDiff

namespace Ectobase.Mesh

open Shared List Function RIB

def routeValue (r : Route) : List String × Bool := ([r.nexthop], r.external)

def NatRef.key (k : NatRef) : NatKey := { natIP := k.natIP, portMin := k.portMin }

structure Holdings.Mirrors (h : Holdings) (d : DesiredState) : Prop where
  routes : Shared.Mirrors routeKey routeValue h.routes d.routes
  nat : Shared.Mirrors NatBlock.key id h.nat d.nats
  pub : Shared.Mirrors PublicRecord.key id h.pub d.pubs

structure Session.PermitsOwners (s : Session) (d : DesiredState) : Prop where
  routes : ∀ r ∈ d.routes, s.guard.permits r.nexthop = true
  nats : ∀ b ∈ d.nats, s.guard.permits b.ownerUnderlay = true
  pubs : ∀ p ∈ d.pubs, s.guard.permits p.ownerUnderlay = true

section

-- Each phase of a delta touches one part of the holdings.

variable (s : Session) (h : Holdings)

variable {K V : Type} (vnis : List UInt32) (ps : List PublicRecord)

lemma receive_subscribes : ∃ subs, (vnis.map ClientMsg.subscribe).foldl (Holdings.receive s) h = { h with subs } := by
  induction vnis generalizing h with
  | nil => exact ⟨h.subs, rfl⟩
  | cons vni vnis ih => exact ih _

lemma receive_unsubscribes : ∃ subs, (vnis.map ClientMsg.unsubscribe).foldl (Holdings.receive s) h = { h with subs } := by
  induction vnis generalizing h with
  | nil => exact ⟨h.subs, rfl⟩
  | cons vni vnis ih => exact ih _

lemma receive_announces (rs : List Route) (permitted : ∀ r ∈ rs, s.guard.permits r.nexthop = true) :
  (rs.map fun r => ClientMsg.announce r.vni r.pfx r.nexthop [] r.external).foldl (Holdings.receive s) h =
    { h with routes := upsert routeKey routeValue h.routes rs } := by
  induction rs generalizing h with
  | nil => rfl
  | cons r rs ih =>
    have first : h.receive s (.announce r.vni r.pfx r.nexthop [] r.external) =
      { h with routes := update h.routes (routeKey r) (some (routeValue r)) } := by
      simp [Holdings.receive, permitted r (by simp), routeKey, routeValue]
    rw [map_cons, foldl_cons, first, ih _ fun r' member => permitted r' (mem_cons_of_mem _ member)]
    rfl

lemma receive_announceNats (bs : List NatBlock) (permitted : ∀ b ∈ bs, s.guard.permits b.ownerUnderlay = true) :
  (bs.map ClientMsg.announceNat).foldl (Holdings.receive s) h = { h with nat := upsert NatBlock.key id h.nat bs } := by
  induction bs generalizing h with
  | nil => rfl
  | cons b bs ih =>
    have first : h.receive s (.announceNat b) = { h with nat := update h.nat b.key (some b) } := by
      simp [Holdings.receive, permitted b (by simp)]
    rw [map_cons, foldl_cons, first, ih _ fun b' member => permitted b' (mem_cons_of_mem _ member)]
    rfl

lemma receive_announcePublics : (ps.map ClientMsg.announcePublic).foldl (Holdings.receive s) h =
    { h with pub := upsert PublicRecord.key id h.pub (ps.filter s.permitsPublic) } := by
  induction ps generalizing h with
  | nil => rfl
  | cons p ps ih =>
    rw [map_cons, foldl_cons, ih]
    cases permitted : s.permitsPublic p with
    | true =>
      rw [filter_cons_of_pos permitted]
      simp only [Holdings.receive, permitted, if_true]
      rfl
    | false => simp [Holdings.receive, permitted]

lemma receive_withdraws (ks : List RouteKey) : (ks.map fun k => ClientMsg.withdraw k.vni k.pfx).foldl (Holdings.receive s) h =
    { h with routes := discard h.routes ks } := by
  induction ks generalizing h with
  | nil => rfl
  | cons k ks ih =>
    rw [map_cons, foldl_cons, ih]
    rfl

lemma giveUp_eq_update [DecidableEq K] (held : K -> Option V) (k : K) (may : V -> Bool)
  (allowed : ∀ k v, held k = some v -> may v = true) :
  giveUp held k may = update held k none := by
  unfold giveUp
  cases own : held k with
  | none =>
    have same := update_eq_self k held
    rw [own] at same
    exact same.symm
  | some v => simp [allowed k v own]

lemma update_none_allowed [DecidableEq K] {held : K -> Option V} {may : V -> Bool}
  (gone : K) (allowed : ∀ k v, held k = some v -> may v = true) (k : K) (v : V)
  (kept : update held gone none k = some v) : may v = true := by
  by_cases own : k = gone
  · simp [own] at kept
  · exact allowed k v (by simpa [own] using kept)

lemma receive_withdrawNats (ks : List NatRef) (allowed : ∀ k b, h.nat k = some b -> s.guard.permits b.ownerUnderlay = true) :
  (ks.map fun k => ClientMsg.withdrawNat k.natIP k.portMin k.portMax).foldl (Holdings.receive s) h =
    { h with nat := discard h.nat (ks.map NatRef.key) } := by
  induction ks generalizing h with
  | nil => rfl
  | cons k ks ih =>
    have first : h.receive s (.withdrawNat k.natIP k.portMin k.portMax) = { h with nat := update h.nat k.key none } := by
      simp [Holdings.receive, giveUp_eq_update _ _ _ allowed, NatRef.key]
    rw [map_cons, foldl_cons, first, ih _ (update_none_allowed k.key allowed)]
    rfl

lemma receive_withdrawPublics (allowed : ∀ k p, h.pub k = some p -> s.guard.permits p.ownerUnderlay = true) :
  (ps.map ClientMsg.withdrawPublic).foldl (Holdings.receive s) h =
    { h with pub := discard h.pub (ps.map PublicRecord.key) } := by
  induction ps generalizing h with
  | nil => rfl
  | cons p ps ih =>
    have first : h.receive s (.withdrawPublic p) = { h with pub := update h.pub p.key none } := by
      simp [Holdings.receive, giveUp_eq_update _ _ _ allowed]
    rw [map_cons, foldl_cons, first, ih _ (update_none_allowed p.key allowed)]
    rfl

lemma sendDelta_holdings (d : BusDelta) (routes : ∀ r ∈ d.announceR, s.guard.permits r.nexthop = true)
  (nats : ∀ b ∈ d.announceN, s.guard.permits b.ownerUnderlay = true)
  (natStored : ∀ k b, h.nat k = some b -> s.guard.permits b.ownerUnderlay = true)
  (pubStored : ∀ k p, h.pub k = some p -> s.guard.permits p.ownerUnderlay = true) :
  ∃ subs, (sendDelta d).foldl (Holdings.receive s) h =
    { routes := discard (upsert routeKey routeValue h.routes d.announceR) d.withdrawR
      nat := discard (upsert NatBlock.key id h.nat d.announceN) (d.withdrawN.map NatRef.key)
      pub := discard (upsert PublicRecord.key id h.pub (d.announceP.filter s.permitsPublic))
        (d.withdrawP.map PublicRecord.key)
      subs } := by
  have permitted : ∀ p ∈ d.announceP.filter s.permitsPublic, s.guard.permits p.ownerUnderlay = true := by
    intro p mem
    have permitted := (mem_filter.mp mem).2
    rw [Session.permitsPublic, Bool.and_eq_true] at permitted
    exact permitted.1
  obtain ⟨subs, subscribed⟩ := receive_subscribes s h d.subscribe
  simp only [sendDelta, foldl_append]
  -- When the withdraws arrive, the store holds what it held and what was just announced.
  rw [subscribed, receive_announces s _ d.announceR routes, receive_announceNats s _ _ nats,
    receive_announcePublics, receive_withdraws, receive_withdrawNats s _ _ (upsert_all natStored nats),
    receive_withdrawPublics s _ _ (upsert_all pubStored permitted)]
  exact receive_unsubscribes s _ d.unsubscribe

end

section

variable {applied next : DesiredState}

lemma natKeysAgree_iff : KeysAgree natKey NatBlock.key id (fun _ => true) applied.nats next.nats ↔
    ∀ a ∈ applied.nats ++ next.nats, ∀ n ∈ next.nats,
      a.natIP = n.natIP -> a.portMin = n.portMin -> a.portMax = n.portMax := by
  constructor
  · intro agree a member n wanted ip low
    have same := agree.name_of_key a member n wanted (by simp [NatBlock.key, ip, low])
    exact congrArg NatRef.portMax same
  · intro ranges
    refine ⟨?_, ?_, fun n _ => .inl rfl⟩
    · intro a member n wanted same
      have ip : a.natIP = n.natIP := congrArg NatKey.natIP same
      have low : a.portMin = n.portMin := congrArg NatKey.portMin same
      simp [natKey, ip, low, ranges a member n wanted ip low]
    · intro a _ n _ same
      have ip : a.natIP = n.natIP := congrArg NatRef.natIP same
      have low : a.portMin = n.portMin := congrArg NatRef.portMin same
      simp [NatBlock.key, ip, low]

lemma pubKey_of_key {p q : PublicRecord} (same : p.key = q.key) : pubKey p = pubKey q := by
  have kind : p.kind = q.kind := congrArg PublicKey.kind same
  have pfx : p.pfx = q.pfx := congrArg PublicKey.pfx same
  have owner : p.ownerUnderlay = q.ownerUnderlay := congrArg PublicKey.owner same
  have overlay : p.overlayIP = q.overlayIP := congrArg PublicKey.overlay same
  rw [pubKey, pubKey, kind, pfx, owner, overlay]

lemma pubKeysAgree_iff (s : Session) : KeysAgree pubKey PublicRecord.key id s.permitsPublic applied.pubs next.pubs ↔
    (∀ a ∈ applied.pubs, ∀ p ∈ next.pubs, pubKey a = pubKey p -> a.key = p.key) /\
      ∀ p ∈ next.pubs, p ∈ applied.pubs \/ s.permitsPublic p = true := by
  constructor
  · intro agree
    refine ⟨agree.key_of_name, fun p wanted => ?_⟩
    rcases agree.allowed p wanted with permitted | ⟨a, old, _, same⟩
    · exact .inr permitted
    · have one : a = p := same
      exact .inl (one ▸ old)
  · intro ⟨keys, allowed⟩
    refine ⟨fun a _ p _ same => pubKey_of_key same, keys, fun p wanted => ?_⟩
    rcases allowed p wanted with old | permitted
    · exact .inr ⟨p, old, rfl, rfl⟩
    · exact .inl permitted

end

section

variable {applied next : DesiredState} {order : DiffOrder} (visits : order.Enumerates applied next)
include visits

lemma mem_withdrawN (k : NatKey) : k ∈ (diffDesired order applied next).withdrawN.map NatRef.key ↔
    ∃ a ∈ applied.nats, a.key = k /\ ∀ n ∈ next.nats, natKey n ≠ natKey a := by
  have refs := mem_withdrawn next.nats order.nats visits.2.2.2.1
  rw [mem_map]
  constructor
  · intro ⟨ref, member, here⟩
    obtain ⟨a, old, named, absent⟩ := (refs ref).mp member
    subst named
    exact ⟨a, old, here, absent⟩
  · intro ⟨a, old, here, absent⟩
    exact ⟨natKey a, (refs _).mpr ⟨a, old, rfl, absent⟩, here⟩

lemma mem_withdrawP (unique : applied.UniqueKeys) (k : PublicKey) :
  k ∈ (diffDesired order applied next).withdrawP.map PublicRecord.key ↔
    ∃ a ∈ applied.pubs, a.key = k /\ ∀ n ∈ next.pubs, pubKey n ≠ pubKey a := by
  have names := mem_withdrawn next.pubs order.pubs visits.2.2.2.2
  rw [mem_map]
  constructor
  · intro ⟨a, member, here⟩
    obtain ⟨name, gone, found⟩ := mem_filterMap.mp member
    obtain ⟨old, named⟩ := (keyed_lookup unique.pubs name a).mp found
    obtain ⟨_, _, same, absent⟩ := (names name).mp gone
    exact ⟨a, old, here, named ▸ same ▸ absent⟩
  · intro ⟨a, old, here, absent⟩
    exact ⟨a, mem_filterMap.mpr ⟨pubKey a, (names _).mpr ⟨a, old, rfl, absent⟩,
      (keyed_lookup unique.pubs _ _).mpr ⟨old, rfl⟩⟩, here⟩

variable {h : Holdings} (appliedUnique : applied.UniqueKeys) (nextUnique : next.UniqueKeys) (mirrors : h.Mirrors applied)
include appliedUnique nextUnique mirrors

lemma routes_converge : Mirrors routeKey routeValue
    (discard (upsert routeKey routeValue h.routes (diffDesired order applied next).announceR)
      (diffDesired order applied next).withdrawR) next.routes := by
  have announces (v : Route) : v ∈ (diffDesired order applied next).announceR ↔
    v ∈ next.routes /\ v ∉ applied.routes /\ (fun _ => true) v = true :=
    (mem_changed appliedUnique.routes next.routes v).trans (by simp)
  exact converges_of_keysAgree appliedUnique.routes nextUnique.routes mirrors.routes announces
    (mem_withdrawn next.routes order.routes visits.2.2.1)
    ⟨fun _ _ _ _ same => same, fun _ _ _ _ same => same, fun _ _ => .inl rfl⟩

lemma nats_converge_iff : Mirrors NatBlock.key id
      (discard (upsert NatBlock.key id h.nat (diffDesired order applied next).announceN)
        ((diffDesired order applied next).withdrawN.map NatRef.key)) next.nats ↔
    ∀ a ∈ applied.nats ++ next.nats, ∀ n ∈ next.nats,
      a.natIP = n.natIP -> a.portMin = n.portMin -> a.portMax = n.portMax := by
  have announces (v : NatBlock) : v ∈ (diffDesired order applied next).announceN ↔
    v ∈ next.nats /\ v ∉ applied.nats /\ (fun _ => true) v = true :=
    (mem_changed appliedUnique.nats next.nats v).trans (by simp)
  have factors (v w : NatBlock) (same : natKey v = natKey w) : v.key = w.key := by
    simp only [natKey, NatRef.mk.injEq] at same
    simp [NatBlock.key, same]
  rw [<- natKeysAgree_iff]
  exact converges_iff_keysAgree appliedUnique.nats nextUnique.nats mirrors.nat announces
    (mem_withdrawN visits) (.inl factors) (fun v w _ same => congrArg natKey same)

lemma pubs_converge_iff (s : Session) : Mirrors PublicRecord.key id (discard (upsert PublicRecord.key id h.pub
          ((diffDesired order applied next).announceP.filter s.permitsPublic))
        ((diffDesired order applied next).withdrawP.map PublicRecord.key)) next.pubs ↔
    (∀ a ∈ applied.pubs, ∀ p ∈ next.pubs, pubKey a = pubKey p -> a.key = p.key) /\
      ∀ p ∈ next.pubs, p ∈ applied.pubs \/ s.permitsPublic p = true := by
  have announces (v : PublicRecord) : v ∈ (diffDesired order applied next).announceP.filter s.permitsPublic ↔
      v ∈ next.pubs /\ v ∉ applied.pubs /\ s.permitsPublic v = true := by
    rw [mem_filter, diffDesired, mem_changed appliedUnique.pubs, and_assoc]
  rw [<- pubKeysAgree_iff]
  exact converges_iff_keysAgree appliedUnique.pubs nextUnique.pubs mirrors.pub announces
    (mem_withdrawP visits appliedUnique) (.inr fun v w => pubKey_of_key)
    (fun v w _ same => congrArg pubKey same)

end

theorem sendDelta_converges_iff (s : Session) (r : RIB) (applied next : DesiredState)
  (order : DiffOrder) (visits : order.Enumerates applied next)
  (appliedUnique : applied.UniqueKeys) (nextUnique : next.UniqueKeys)
  (mirrors : (r.holdings s.sink.id).Mirrors applied) (appliedOwners : s.PermitsOwners applied)
  (nextOwners : s.PermitsOwners next) :
  (((sendDelta (diffDesired order applied next)).foldl (fun r msg => r.perform (s.op msg)) r
      ).holdings s.sink.id).Mirrors next ↔
    (∀ a ∈ applied.nats ++ next.nats, ∀ n ∈ next.nats, a.natIP = n.natIP -> a.portMin = n.portMin -> a.portMax = n.portMax) /\
      (∀ a ∈ applied.pubs, ∀ p ∈ next.pubs, pubKey a = pubKey p -> a.key = p.key) /\
      ∀ p ∈ next.pubs, p ∈ applied.pubs \/ s.permitsPublic p = true := by
  obtain ⟨subs, final⟩ := sendDelta_holdings s (r.holdings s.sink.id) (diffDesired order applied next)
    (fun rt member => nextOwners.routes rt ((mem_changed appliedUnique.routes next.routes rt).mp member).1)
    (fun b member => nextOwners.nats b ((mem_changed appliedUnique.nats next.nats b).mp member).1)
    (fun k b held => by
      obtain ⟨a, old, _, same⟩ := (mirrors.nat k b).mp held
      exact same ▸ appliedOwners.nats a old)
    (fun k p held => by
      obtain ⟨a, old, _, same⟩ := (mirrors.pub k p).mp held
      exact same ▸ appliedOwners.pubs a old)
  have routes := routes_converge visits appliedUnique nextUnique mirrors
  have nats := nats_converge_iff visits appliedUnique nextUnique mirrors
  have pubs := pubs_converge_iff visits appliedUnique nextUnique mirrors s
  rw [holdings_received, final]
  constructor
  · intro converged
    exact ⟨nats.mp converged.nat, pubs.mp converged.pub⟩
  · intro ⟨ranges, keys⟩
    exact ⟨routes, nats.mpr ranges, pubs.mpr keys⟩

lemma newRIB_holdings (id : String) : newRIB.holdings id = Holdings.none := by
  apply Holdings.ext <;> funext k <;> simp [holdings, Holdings.none, newRIB, announced, entry, natTable,
      publicTable, OwnedTable.heldBy, OwnedTable.slot]

lemma announceNat_mirrors (s : Session) (b : NatBlock) (permitted : s.guard.permits b.ownerUnderlay = true) :
  ((newRIB.perform (s.op (.announceNat b))).holdings s.sink.id).Mirrors
    { subs := [], routes := [], nats := [b], pubs := [] } := by
  rw [holdings_receive, newRIB_holdings]
  simp only [Holdings.receive, permitted, if_true]
  refine ⟨by simp [Mirrors, Holdings.none], fun k w => ?_, by simp [Mirrors, Holdings.none]⟩
  by_cases own : k = b.key
  · simp [own]
  · simp [own, Ne.symm own, Holdings.none]

theorem range_change_loses_block :
  let guard : UnderlayGuard := { allowed := [], enforce := false }
  let s : Session := { sink := { id := "n1", session := 1 }, token := 1, guard }
  let old : NatBlock :=
    { vni := 5, sourceIP := "10.0.0.1", natIP := "192.0.2.1", portMin := 1024, portMax := 2048,
      ownerUnderlay := "fd00::1" }
  let new : NatBlock := { old with portMax := 4096 }
  let applied : DesiredState := { subs := [], routes := [], nats := [old], pubs := [] }
  let next : DesiredState := { subs := [], routes := [], nats := [new], pubs := [] }
  let order : DiffOrder :=
    { nextSubs := [], prevSubs := [], routes := [], nats := [natKey old], pubs := [] }
  let r := newRIB.perform (s.op (.announceNat old))
  let final := (sendDelta (diffDesired order applied next)).foldl (fun r msg => r.perform (s.op msg)) r
  (r.holdings "n1").Mirrors applied /\ applied.UniqueKeys /\ next.UniqueKeys /\
    s.PermitsOwners applied /\ s.PermitsOwners next /\
    (final.holdings "n1").nat new.key = none /\ ¬ (final.holdings "n1").Mirrors next := by
  intro guard s old new applied next order r final
  have lost : (final.holdings "n1").nat new.key = none := by decide +kernel
  refine ⟨announceNat_mirrors s old rfl, ⟨by simp [applied], by simp [applied], by simp [applied]⟩,
    ⟨by simp [next], by simp [next], by simp [next]⟩,
    ⟨by simp [applied], fun _ _ => rfl, by simp [applied]⟩,
    ⟨by simp [next], fun _ _ => rfl, by simp [next]⟩, lost, fun mirrors => ?_⟩
  have kept := (mirrors.nat new.key new).mpr ⟨new, by simp [next], rfl, rfl⟩
  rw [lost] at kept
  cases kept

theorem moved_block_converges :
  let guard : UnderlayGuard := { allowed := [], enforce := false }
  let s : Session := { sink := { id := "n1", session := 1 }, token := 1, guard }
  let old : NatBlock :=
    { vni := 5, sourceIP := "10.0.0.1", natIP := "192.0.2.1", portMin := 1024, portMax := 2048,
      ownerUnderlay := "fd00::1" }
  let new : NatBlock := { old with portMin := 2048, portMax := 4096 }
  let applied : DesiredState := { subs := [], routes := [], nats := [old], pubs := [] }
  let next : DesiredState := { subs := [], routes := [], nats := [new], pubs := [] }
  let order : DiffOrder :=
    { nextSubs := [], prevSubs := [], routes := [], nats := [natKey old], pubs := [] }
  (((sendDelta (diffDesired order applied next)).foldl (fun r msg => r.perform (s.op msg))
      (newRIB.perform (s.op (.announceNat old)))).holdings "n1").Mirrors next := by
  intro guard s old new applied next order
  have visits : order.Enumerates applied next := by
    have keys : (keyed natKey [old]).keys = {natKey old} := by decide +kernel
    refine ⟨⟨nodup_nil, by simp [order, next]⟩, ⟨nodup_nil, by simp [order, applied]⟩,
      ⟨nodup_nil, by simp [order, applied, keyed]⟩,
      ⟨by simp [order], fun k => ?_⟩, ⟨nodup_nil, by simp [order, applied, keyed]⟩⟩
    rw [show applied.nats = [old] from rfl, keys]
    simp [order]
  refine (sendDelta_converges_iff s (newRIB.perform (s.op (.announceNat old))) applied next order
    visits ⟨by simp [applied], by simp [applied], by simp [applied]⟩
    ⟨by simp [next], by simp [next], by simp [next]⟩ (announceNat_mirrors s old rfl)
    ⟨by simp [applied], fun _ _ => rfl, by simp [applied]⟩
    ⟨by simp [next], fun _ _ => rfl, by simp [next]⟩).mpr ⟨?_, by simp [applied], by simp [next]⟩
  simp [applied, next, old, new]

end Ectobase.Mesh
