import Ectobase.Mesh.Holdings

namespace Ectobase.Mesh

open Shared List

inductive Turn where
  | stale (msg : ClientMsg)
  | staleEnd (order : DropOrder)
  | register (order : SnapshotOrder)
  | current (msg : ClientMsg)

def Turn.op (first second : Session) : Turn -> Option RibOp
  | .stale msg => first.op msg
  | .staleEnd order => some (.releaseOrigin first.sink.id first.token order)
  | .register order => some (.registerSink second.sink order)
  | .current msg => second.op msg

def RIB.turn (first second : Session) (r : RIB) (t : Turn) : RIB :=
  r.perform (t.op first second)

def Holdings.turn (second : Session) (h : Holdings) : Turn -> Holdings
  | .current msg => h.receive second msg
  | _ => h

structure SameTables (r r' : RIB) : Prop where
  routes : r'.routes = r.routes
  nat : r'.nat = r.nat
  natOrigin : r'.natOrigin = r.natOrigin
  pub : r'.pub = r.pub
  publicOrigin : r'.publicOrigin = r.publicOrigin
  subscribers : r'.subscribers = r.subscribers

variable (s : Session) (r : RIB)

def Harmless : ClientMsg -> Prop
  | .subscribe vni => r.subscribers vni s.sink.id = some s.sink
  | .unsubscribe vni => r.subscribers vni s.sink.id = none
  | .announce vni pfx nexthop extra external =>
    (nexthop :: extra).all s.guard.permits = false \/
      r.announced s.sink.id { vni, pfx } = some (nexthop :: extra) /\ (r.entry { vni, pfx }).external = external
  | .withdraw vni pfx => r.announced s.sink.id { vni, pfx } = none
  | .announceNat b =>
    s.guard.permits b.ownerUnderlay = false \/ r.natTable.heldBy s.sink.id b.key = some b
  | .withdrawNat natIP portMin _ =>
    ∀ b, r.natTable.heldBy s.sink.id { natIP, portMin } = some b -> s.guard.permits b.ownerUnderlay = false
  | .announcePublic rec =>
    s.permitsPublic rec = false \/ r.publicTable.heldBy s.sink.id rec.key = some rec
  | .withdrawPublic rec =>
    ∀ stored, r.publicTable.heldBy s.sink.id rec.key = some stored -> s.guard.permits stored.ownerUnderlay = false
  | .keepAlive | .hello _ => True

lemma SameTables.refl : SameTables r r :=
  ⟨rfl, rfl, rfl, rfl, rfl, rfl⟩

lemma SameTables.withNat_iff (t : OwnedTable NatKey NatBlock String) (snap : Option (List GlobalMsg)) :
  SameTables r (r.withNat t snap) ↔ ∀ k, t.slot k = r.natTable.slot k := by
  rw [OwnedTable.slots_eq_iff]
  exact ⟨fun same => ⟨same.nat, same.natOrigin⟩, fun ⟨items, owner⟩ => ⟨rfl, items, owner, rfl, rfl, rfl⟩⟩

lemma SameTables.withPublic_iff (t : OwnedTable PublicKey PublicRecord String) (snap : Option (List GlobalMsg)) :
  SameTables r (r.withPublic t snap) ↔ ∀ k, t.slot k = r.publicTable.slot k := by
  rw [OwnedTable.slots_eq_iff]
  exact ⟨fun same => ⟨same.pub, same.publicOrigin⟩, fun ⟨items, owner⟩ => ⟨rfl, rfl, rfl, items, owner, rfl⟩⟩

variable (msg : ClientMsg) (origin : String) (vni : UInt32) (pfx : String)

lemma announce_sameTables_iff (nexthops : List String) (external : Bool) :
  SameTables r (r.announce origin vni pfx nexthops external).1 ↔
    r.announced origin { vni, pfx } = some nexthops /\ (r.entry { vni, pfx }).external = external := by
  have routes : SameTables r (r.announce origin vni pfx nexthops external).1 ↔ r.routes.insert { vni, pfx }
      { origins := (r.entry { vni, pfx }).origins.insert origin nexthops
        external } = r.routes :=
    ⟨fun same => same.routes, fun same => ⟨same, rfl, rfl, rfl, rfl, rfl⟩⟩
  rw [routes, insert_eq_self_iff]
  unfold RIB.announced RIB.entry
  cases stored : r.routes.lookup { vni, pfx } with
  | none => simp
  | some e =>
    rw [Option.some.injEq, Option.getD_some, <- insert_eq_self_iff]
    constructor
    · intro same
      exact ⟨(congrArg RouteEntry.origins same).symm, congrArg RouteEntry.external same⟩
    · intro ⟨origins, same⟩
      rw [origins, <- same]

lemma withdraw_sameTables_iff : SameTables r (r.withdraw origin vni pfx).1 ↔ r.announced origin { vni, pfx } = none := by
  constructor
  · intro same
    have after := withdraw_announced r origin vni pfx origin { vni, pfx }
    rw [if_pos ⟨rfl, rfl⟩, RIB.announced, RIB.entry, same.routes] at after
    exact after
  · intro absent
    rcases withdrawRouteOrigin_cases { r with byOrigin := disown r.byOrigin origin { vni, pfx } } origin
      { vni, pfx } with ⟨idle, _⟩ | ⟨e, found, held, _⟩
    · rw [RIB.withdraw, idle]
      exact ⟨rfl, rfl, rfl, rfl, rfl, rfl⟩
    · dsimp only at found
      rw [RIB.announced, RIB.entry, found, Option.getD_some] at absent
      rw [absent] at held
      cases held

lemma sameTables_iff_harmless : SameTables r (r.perform (s.op msg)) ↔ Harmless s r msg := by
  cases msg with
  | hello | keepAlive => exact iff_of_true (SameTables.refl r) trivial
  | subscribe vni | unsubscribe vni =>
    simp only [Session.op, RIB.perform, RIB.step, RIB.apply, subscribe_frame, RIB.unsubscribe, Harmless]
    constructor
    · intro same
      have here := congrFun (congrFun same.subscribers vni) s.sink.id
      simpa using here.symm
    · intro same
      exact ⟨rfl, rfl, rfl, rfl, rfl, by simp only [<- same, Function.update_eq_self]⟩
  | announce vni pfx nexthop extra external =>
    simp only [Session.op, Harmless]
    cases permitted : (nexthop :: extra).all s.guard.permits with
    | false => exact iff_of_true (SameTables.refl r) (.inl rfl)
    | true =>
      simp only [if_true, Bool.true_eq_false, false_or]
      exact announce_sameTables_iff r s.sink.id vni pfx (nexthop :: extra) external
  | withdraw vni pfx => exact withdraw_sameTables_iff r s.sink.id vni pfx
  | announceNat b =>
    simp only [Session.op, Harmless]
    cases permitted : s.guard.permits b.ownerUnderlay with
    | false => exact iff_of_true (SameTables.refl r) (.inl rfl)
    | true =>
      simp only [if_true, Bool.true_eq_false, false_or]
      exact (SameTables.withNat_iff r _ none).trans (r.natTable.announce_slots_iff s.sink.id b.key b)
  | withdrawNat natIP portMin portMax =>
    obtain ⟨snap, eq⟩ := withdrawNat_eq r s.sink.id natIP portMin portMax s.guard.permits
    simp only [Session.op, RIB.perform, RIB.step, RIB.apply, eq, SameTables.withNat_iff]
    exact r.natTable.withdraw_slots_iff _ _ _
  | announcePublic rec =>
    simp only [Session.op, Harmless]
    cases permitted : s.permitsPublic rec with
    | false => exact iff_of_true (SameTables.refl r) (.inl rfl)
    | true =>
      simp only [if_true, Bool.true_eq_false, false_or]
      exact (SameTables.withPublic_iff r _ none).trans (r.publicTable.announce_slots_iff s.sink.id rec.key rec)
  | withdrawPublic rec =>
    obtain ⟨snap, eq⟩ := withdrawPublic_eq r s.sink.id rec s.guard.permits
    simp only [Session.op, RIB.perform, RIB.step, RIB.apply, eq, SameTables.withPublic_iff]
    exact r.publicTable.withdraw_slots_iff _ _ _

lemma SameTables.holdings {r r' : RIB} (same : SameTables r r') (id : String) : r'.holdings id = r.holdings id := by
  have entry (k : RouteKey) : r'.entry k = r.entry k := by rw [RIB.entry, RIB.entry, same.routes]
  have nat (k : NatKey) : r'.natTable.slot k = r.natTable.slot k := by
    simp only [OwnedTable.slot, RIB.natTable, same.nat, same.natOrigin]
  have pub (k : PublicKey) : r'.publicTable.slot k = r.publicTable.slot k := by
    simp only [OwnedTable.slot, RIB.publicTable, same.pub, same.publicOrigin]
  apply Holdings.ext
  · funext k
    simp only [RIB.holdings, RIB.announced, entry]
  · funext k
    simp only [RIB.holdings, OwnedTable.heldBy, nat]
  · funext k
    simp only [RIB.holdings, OwnedTable.heldBy, pub]
  · simp only [RIB.holdings, same.subscribers]

lemma op_origins : (r.perform (s.op msg)).origins = r.origins /\ (r.perform (s.op msg)).nextToken = r.nextToken := by
  cases same : s.op msg with
  | none => exact ⟨rfl, rfl⟩
  | some op => exact step_origins r (op_unclaimed same)

lemma dropOriginLocked_holdings (indexed : r.Indexed) (id : String) (order : DropOrder)
  (visits : order.Enumerates r id) (origins : Map String Nat) (nextToken : Nat) :
  let left := ((RIB.deleteSink { r with origins, nextToken } id).dropOriginLocked id order).1
  left.holdings id = Holdings.none /\ left.sinks id = none /\ left.origins = origins := by
  obtain ⟨routes, natSnap, snap, eq, announced⟩ :=
    dropOriginLocked_eq (RIB.deleteSink { r with origins, nextToken } id) id order
  rw [eq]
  refine ⟨Holdings.ext (funext fun k => ?_) (funext fun k => ?_) (funext fun k => ?_)
    (funext fun vni => if_pos rfl), Function.update_self .., rfl⟩
  · have silent : ({ r with routes } : RIB).announced id k = none := by
      refine (announced id k).trans ?_
      split
      · rfl
      next missed =>
        -- A key the loop does not visit is not listed for the node, so it announced nothing there.
        have unlisted : k ∉ listed r.byOrigin id := fun member =>
          missed ⟨(visits.1.2 k).mpr member, rfl⟩
        rw [indexed.routes, Option.not_isSome_iff_eq_none] at unlisted
        exact unlisted
    exact congrArg (Option.map _) silent
  · exact (indexed.nat.heldBy_dropOwner id id order.nat visits.2.1.2 k).trans (if_pos rfl)
  · exact (indexed.pub.heldBy_dropOwner id id order.pub visits.2.2.2 k).trans (if_pos rfl)

lemma claimOrigin_current (id : String) (order : DropOrder) : let claimed := (r.claimOrigin id order).1
  claimed.nextToken = r.nextToken + 1 /\ claimed.origins = r.origins.insert id (r.nextToken + 1) := by
  simp only [RIB.claimOrigin]
  split
  · obtain ⟨routes, natSnap, snap, eq, -⟩ := dropOriginLocked_eq (RIB.deleteSink
      { r with origins := r.origins.insert id (r.nextToken + 1), nextToken := r.nextToken + 1 } id) id order
    rw [eq]
    exact ⟨rfl, rfl⟩
  · exact ⟨rfl, rfl⟩

lemma claimOrigin_holdings (indexed : r.Indexed) (id : String) (order : DropOrder)
  (visits : order.Enumerates r id) (live : (r.origins.lookup id).isSome) :
  let claimed := (r.claimOrigin id order).1
  claimed.holdings id = Holdings.none /\ claimed.sinks id = none /\ claimed.origins.lookup id = some (r.nextToken + 1) := by
  simp only [RIB.claimOrigin, if_pos live]
  obtain ⟨empty, sink, origins⟩ := dropOriginLocked_holdings r indexed id order visits
    (r.origins.insert id (r.nextToken + 1)) (r.nextToken + 1)
  exact ⟨empty, sink, (congrArg (Finmap.lookup id) origins).trans (Finmap.lookup_insert _)⟩

section

variable {first second : Session}

def Turn.Stale : Turn -> Prop
  | .stale _ | .staleEnd _ => True
  | _ => False

def Turn.Harmless (first : Session) (r : RIB) : Turn -> Prop
  | .stale msg => Mesh.Harmless first r msg
  | _ => True

variable {r : RIB} {t : Turn}

lemma turn_sameTables (superseded : r.origins.lookup first.sink.id ≠ some first.token)
  (harmless : t.Harmless first r) (stale : t.Stale) :
  SameTables r (r.turn first second t) := by
  cases t with
  | stale msg => exact (sameTables_iff_harmless first r msg).mpr harmless
  | staleEnd order =>
    simp only [RIB.turn, Turn.op, RIB.perform, RIB.step, RIB.apply, RIB.releaseOrigin, if_pos superseded]
    exact SameTables.refl r
  | register | current => cases stale

lemma turn_origins (t : Turn) (superseded : r.origins.lookup first.sink.id ≠ some first.token) :
  (r.turn first second t).origins = r.origins := by
  cases t with
  | stale msg => exact (op_origins first r msg).1
  | staleEnd order =>
    simp only [RIB.turn, Turn.op, RIB.perform, RIB.step, RIB.apply, RIB.releaseOrigin, if_pos superseded]
  | register order => rfl
  | current msg => exact (op_origins second r msg).1

lemma turn_holdings (superseded : r.origins.lookup first.sink.id ≠ some first.token) (harmless : t.Harmless first r) :
  (r.turn first second t).holdings second.sink.id = (r.holdings second.sink.id).turn second t := by
  cases t with
  | stale | staleEnd => exact (turn_sameTables superseded harmless trivial).holdings _
  | register order => rfl
  | current msg => exact holdings_receive second r msg

lemma turns_holdings {turns : List Turn} (superseded : r.origins.lookup first.sink.id ≠ some first.token)
  (harmless : Along (RIB.turn first second) (fun r t => t.Harmless first r) r turns) :
  (turns.foldl (RIB.turn first second) r).holdings second.sink.id =
      turns.foldl (Holdings.turn second) (r.holdings second.sink.id) /\
    Along (RIB.turn first second) (fun r t => t.Stale -> SameTables r (r.turn first second t)) r turns := by
  induction turns generalizing r with
  | nil => exact ⟨rfl, trivial⟩
  | cons t turns ih =>
    have kept : (r.turn first second t).origins.lookup first.sink.id ≠ some first.token := by
      rw [turn_origins t superseded]
      exact superseded
    obtain ⟨final, rest⟩ := ih kept harmless.2
    rw [turn_holdings superseded harmless.1] at final
    exact ⟨final, turn_sameTables superseded harmless.1, rest⟩

end

theorem superseded_session_inert (history : List RibOp)
  (possible : Along RIB.step (fun r op => op.Possible r) newRIB history) (first second : Session)
  (node : first.sink.id = second.sink.id)
  (live : (history.foldl RIB.step newRIB).origins.lookup second.sink.id = some first.token)
  (order : DropOrder)
  (visits : order.Enumerates (history.foldl RIB.step newRIB) second.sink.id) (turns : List Turn)
  (harmless : Along (RIB.turn first second) (fun r t => t.Harmless first r)
    ((history.foldl RIB.step newRIB).step (.claimOrigin second.sink.id order)) turns) :
  let claimed := (history.foldl RIB.step newRIB).step (.claimOrigin second.sink.id order)
  (turns.foldl (RIB.turn first second) claimed).holdings second.sink.id = turns.foldl (Holdings.turn second) Holdings.none /\
    Along (RIB.turn first second) (fun r t => t.Stale -> SameTables r (r.turn first second t)) claimed turns := by
  have indexed := run_indexed history possible
  have fresh := indexed.tokens _ _ live
  obtain ⟨empty, _, token⟩ :=
    claimOrigin_holdings _ indexed second.sink.id order visits (by rw [live]; rfl)
  rw [<- empty]
  apply turns_holdings _ harmless
  -- The first session's token is older than the one the claim hands out.
  rw [node]
  intro same
  have tokens := Option.mem_unique token same
  omega

theorem superseded_session_interferes :
  let guard : UnderlayGuard := { allowed := [], enforce := false }
  let first : Session := { sink := { id := "n1", session := 1 }, token := 1, guard }
  let second : Session := { sink := { id := "n1", session := 2 }, token := 2, guard }
  let empty : DropOrder := { routes := [], nat := [], pub := [] }
  let b : NatBlock :=
    { vni := 5, sourceIP := "10.0.0.1", natIP := "192.0.2.1", portMin := 1024, portMax := 2048,
      ownerUnderlay := "fd00::1" }
  let k : RouteKey := { vni := 5, pfx := "10.0.0.1/32" }
  let turns := [Turn.current (.announceNat b), .stale (.withdrawNat "192.0.2.1" 1024 2048),
    .stale (.announce 5 "10.0.0.1/32" "fd00::1" [] false)]
  let claimed := (newRIB.step (.claimOrigin "n1" empty)).step (.claimOrigin "n1" empty)
  let final := turns.foldl (RIB.turn first second) claimed
  let held := turns.foldl (Holdings.turn second) Holdings.none
  (newRIB.step (.claimOrigin "n1" empty)).origins.lookup "n1" = some first.token /\
    claimed.origins.lookup "n1" = some second.token /\
    held.routes k = none /\ (final.holdings "n1").routes k = some (["fd00::1"], false) /\
    held.nat b.key = some b /\ (final.holdings "n1").nat b.key = none := by
  decide +kernel

theorem superseded_session_inert_after_release :
  let guard : UnderlayGuard := { allowed := [], enforce := true }
  let first : Session := { sink := { id := "n1", session := 1 }, token := 1, guard }
  let second : Session :=
    { sink := { id := "n1", session := 2 }, token := 2, guard := { guard with enforce := false } }
  let empty : DropOrder := { routes := [], nat := [], pub := [] }
  let claimed := (newRIB.step (.claimOrigin "n1" empty)).step (.claimOrigin "n1" empty)
  let turns := [Turn.stale (.announce 5 "10.0.0.1/32" "fd00::1" [] false), .current (.subscribe 5),
    .staleEnd empty]
  (turns.foldl (RIB.turn first second) claimed).subscribers 5 "n1" = some second.sink := by
  intro guard first second empty claimed turns
  have visits : empty.Enumerates (newRIB.step (.claimOrigin "n1" empty)) "n1" :=
    ⟨⟨nodup_nil, by simp [empty, newRIB, RIB.step, RIB.apply, RIB.claimOrigin]⟩,
      ⟨nodup_nil, by simp [empty, newRIB, RIB.step, RIB.apply, RIB.claimOrigin]⟩,
      ⟨nodup_nil, by simp [empty, newRIB, RIB.step, RIB.apply, RIB.claimOrigin]⟩⟩
  have run := superseded_session_inert [.claimOrigin "n1" empty]
    ⟨⟨⟨nodup_nil, by simp [empty, newRIB]⟩, ⟨nodup_nil, by simp [empty, newRIB]⟩,
      ⟨nodup_nil, by simp [empty, newRIB]⟩⟩, trivial⟩
    first second rfl (by decide +kernel) empty visits turns
    ⟨.inl (by decide +kernel), trivial, trivial, trivial⟩
  exact congrFun (congrArg Holdings.subs run.1) 5

end Ectobase.Mesh
