import Ectobase.Mesh.RibIndex

namespace Ectobase.Mesh

open Shared List Function RIB

-- A NAT block and a public record travel on one feed, each under the key of its own table.

inductive GlobalRecord where
  | nat (b : NatBlock)
  | pub (record : PublicRecord)
  deriving DecidableEq

inductive GlobalKey where
  | nat (k : NatKey)
  | pub (k : PublicKey)
  deriving DecidableEq

def GlobalRecord.key : GlobalRecord -> GlobalKey
  | .nat b => .nat b.key
  | .pub record => .pub record.key

def GlobalRecord.msg (way : RouteOp) : GlobalRecord -> GlobalMsg
  | .nat b => .natUpdate b way
  | .pub record => .publicUpdate record way

abbrev Feed := GlobalKey -> Option GlobalRecord

def RIB.global (r : RIB) : Feed
  | .nat k => (r.nat.lookup k).map .nat
  | .pub k => (r.pub.lookup k).map .pub

def Feed.put (t : Feed) (g : GlobalRecord) : RouteOp -> Feed
  | .add => update t g.key (some g)
  | .withdraw => update t g.key none

def Feed.take (t : Feed) : ServerMsg -> Feed
  | .global (.natUpdate b way) => t.put (.nat b) way
  | .global (.publicUpdate record way) => t.put (.pub record) way
  | _ => t

def Feed.Keyed (t : Feed) : Prop :=
  ∀ k g, t k = some g -> g.key = k

def RibOp.replays : RibOp -> Bool
  | .registerSink .. => true
  | _ => false

def RibOp.publishes : RibOp -> Option GlobalRecord
  | .announceNat _ b => some (.nat b)
  | .announcePublic _ record => some (.pub record)
  | _ => none

-- It withdraws a record that is there, and replaces one only where op announces it.
def RibOp.Tells (op : RibOp) (r : RIB) (t : Feed) (msg : ServerMsg) : Prop :=
  ∀ g : GlobalRecord, (msg = .global (g.msg .withdraw) -> t g.key = some g) /\ (msg = .global (g.msg .add) ->
      op.replays = true /\ (∀ old, t g.key = some old -> old = g) \/ t = r.global /\ op.publishes = some g)

structure RIB.FeedReady (r : RIB) : Prop where
  keyed : r.global.Keyed
  fresh : ∀ snap, r.globalSnap = some snap -> ∃ order : SnapshotOrder,
    order.Enumerates r /\ snap = r.buildSnapshot order

lemma msg_inj {g g' : GlobalRecord} {way way' : RouteOp} : g.msg way = g'.msg way' ↔ g = g' /\ way = way' := by
  cases g <;> cases g' <;> simp [GlobalRecord.msg]

lemma take_msg (t : Feed) (g : GlobalRecord) (way : RouteOp) : t.take (.global (g.msg way)) = t.put g way := by
  cases g <;> rfl

lemma Feed.Keyed.put {t : Feed} (keyed : t.Keyed) (g : GlobalRecord) (way : RouteOp) : (t.put g way).Keyed := by
  intro k g' held
  cases way <;> simp only [Feed.put, update_apply] at held <;> split at held
  next own => rw [own, Option.some.inj held]
  · exact keyed k g' held
  · cases held
  · exact keyed k g' held

lemma global_nat {r r' : RIB} (k : NatKey) (v : Option NatBlock)
  (nat : ∀ k', r'.nat.lookup k' = if k' = k then v else r.nat.lookup k') (pub : r'.pub = r.pub) :
  r'.global = update r.global (.nat k) (v.map .nat) := by
  funext key
  cases key with
  | nat k' =>
    rw [RIB.global, nat, update_apply]
    by_cases own : k' = k <;> simp [own, RIB.global]
  | pub k' => simp [RIB.global, pub]

lemma global_pub {r r' : RIB} (k : PublicKey) (v : Option PublicRecord)
  (pub : ∀ k', r'.pub.lookup k' = if k' = k then v else r.pub.lookup k') (nat : r'.nat = r.nat) :
  r'.global = update r.global (.pub k) (v.map .pub) := by
  funext key
  cases key with
  | nat k' => simp [RIB.global, nat]
  | pub k' =>
    rw [RIB.global, pub, update_apply]
    by_cases own : k' = k <;> simp [own, RIB.global]

lemma global_congr {r r' : RIB} (nat : r'.nat = r.nat) (pub : r'.pub = r.pub) : r'.global = r.global := by
  funext key
  cases key <;> simp [RIB.global, nat, pub]

lemma newRIB_feedReady : newRIB.FeedReady :=
  ⟨fun k g held => by cases k <;> simp [newRIB, RIB.global] at held, by simp [newRIB]⟩

lemma RIB.FeedReady.same {r r' : RIB} (ready : r.FeedReady) (nat : r'.nat = r.nat)
  (pub : r'.pub = r.pub) (snap : r'.globalSnap = r.globalSnap) : r'.FeedReady := by
  constructor
  · rw [global_congr nat pub]
    exact ready.keyed
  · intro cached held
    rw [snap] at held
    obtain ⟨order, visits, built⟩ := ready.fresh cached held
    refine ⟨order, ?_, ?_⟩
    · rw [SnapshotOrder.Enumerates, nat, pub]
      exact visits
    · simp only [buildSnapshot, nat, pub]
      exact built

section

variable (s : Sink) (op : RibOp) (r0 : RIB)

def Feeds (r r' : RIB) (sent : Sent) : Prop :=
  r.FeedReady -> r'.FeedReady /\ r'.sinks = r.sinks /\ (r.sinks s.id = some s ->
    Along Feed.take (op.Tells r0) r.global (sent s) /\ (sent s).foldl Feed.take r.global = r'.global)

variable {s op r0} {r r1 r' : RIB} {a b : Sent}

lemma take_routes (t : Feed) (msgs : List ServerMsg) (routes : ∀ msg ∈ msgs, ∀ g, msg ≠ .global g) :
  Along Feed.take (op.Tells r0) t msgs /\ msgs.foldl Feed.take t = t := by
  induction msgs with
  | nil => exact ⟨trivial, rfl⟩
  | cons msg msgs ih =>
    have same : t.take msg = t := by
      unfold Feed.take
      split
      · exact absurd rfl (routes _ mem_cons_self _)
      · exact absurd rfl (routes _ mem_cons_self _)
      · rfl
    rw [foldl_cons, Along, same]
    obtain ⟨along, kept⟩ := ih fun later member => routes later (mem_cons_of_mem _ member)
    exact ⟨⟨fun g => ⟨fun said => absurd said (routes msg mem_cons_self _),
      fun said => absurd said (routes msg mem_cons_self _)⟩, along⟩, kept⟩

lemma Feeds.quiet (nat : r'.nat = r.nat) (pub : r'.pub = r.pub)
  (snap : r'.globalSnap = r.globalSnap) (sinks : r'.sinks = r.sinks)
  (routes : ∀ msg ∈ a s, ∀ g, msg ≠ .global g) : Feeds s op r0 r r' a := by
  refine fun ready => ⟨ready.same nat pub snap, sinks, fun _ => ?_⟩
  rw [global_congr nat pub]
  exact take_routes r.global (a s) routes

lemma Feeds.still (nat : r'.nat = r.nat) (pub : r'.pub = r.pub)
  (snap : r'.globalSnap = r.globalSnap) (sinks : r'.sinks = r.sinks) :
  Feeds s op r0 r r' silent :=
  .quiet nat pub snap sinks (by simp [silent])

lemma Feeds.trans (first : Feeds s op r0 r r1 a) (second : Feeds s op r0 r1 r' b) : Feeds s op r0 r r' (a.then b) := by
  intro ready
  obtain ⟨ready1, sinks1, told1⟩ := first ready
  obtain ⟨ready', sinks', told'⟩ := second ready1
  refine ⟨ready', sinks'.trans sinks1, fun registered => ?_⟩
  obtain ⟨along1, fold1⟩ := told1 registered
  obtain ⟨along', fold'⟩ := told' (sinks1 ▸ registered)
  rw [Sent.then, foldl_append, fold1]
  exact ⟨along1.append (fold1 ▸ along'), fold'⟩

lemma Feeds.after (feeds : Feeds s op r0 r1 r' a) (nat : r1.nat = r.nat) (pub : r1.pub = r.pub)
  (snap : r1.globalSnap = r.globalSnap) (sinks : r1.sinks = r.sinks) : Feeds s op r0 r r' a :=
  (Feeds.still nat pub snap sinks).trans feeds

lemma Feeds.forEach {K : Type} {body : RIB -> K -> RIB × Sent}
  (pass : ∀ r k, Feeds s op r0 r (body r k).1 (body r k).2) (r : RIB) (keys : List K) :
  Feeds s op r0 r (Mesh.forEach body r keys).1 (Mesh.forEach body r keys).2 := by
  induction keys generalizing r with
  | nil => exact .still rfl rfl rfl rfl
  | cons k keys ih => exact (pass r k).trans (ih _)

lemma Feeds.put (g : GlobalRecord) (way : RouteOp) (global : r.FeedReady -> r'.global = r.global.put g way)
  (tells : r.FeedReady -> op.Tells r0 r.global (.global (g.msg way)))
  (snap : r'.globalSnap = none) (sinks : r'.sinks = r.sinks) :
  Feeds s op r0 r r' (fun s => if r'.sinks s.id = some s then [.global (g.msg way)] else []) := by
  intro ready
  refine ⟨⟨?_, by simp [snap]⟩, sinks, fun registered => ?_⟩
  · rw [global ready]
    exact ready.keyed.put g way
  · dsimp only
    rw [if_pos (sinks ▸ registered), foldl_cons, foldl_nil, take_msg, global ready]
    exact ⟨⟨tells ready, trivial⟩, rfl⟩

lemma Feeds.withdrawn {k : GlobalKey} {g : GlobalRecord} (stored : r.global k = some g)
  (global : r'.global = update r.global k none) (snap : r'.globalSnap = none)
  (sinks : r'.sinks = r.sinks) :
  Feeds s op r0 r r' (fun s => if r'.sinks s.id = some s then [.global (g.msg .withdraw)] else []) := by
  refine .put g .withdraw (fun ready => ?_) (fun ready g' => ⟨fun said => ?_, fun said => ?_⟩) snap sinks
  · rw [global, Feed.put, ready.keyed k g stored]
  · obtain ⟨rfl, _⟩ := msg_inj.mp (ServerMsg.global.inj said)
    rw [ready.keyed k g stored, stored]
  · cases (msg_inj.mp (ServerMsg.global.inj said)).2

lemma Feeds.announced {g : GlobalRecord} (publishes : op.publishes = some g)
  (global : r'.global = update r.global g.key (some g)) (snap : r'.globalSnap = none)
  (sinks : r'.sinks = r.sinks) :
  Feeds s op r r r' (fun s => if r'.sinks s.id = some s then [.global (g.msg .add)] else []) := by
  refine .put g .add (fun _ => global) (fun _ g' => ⟨fun said => ?_, fun said => ?_⟩) snap sinks
  · cases (msg_inj.mp (ServerMsg.global.inj said)).2
  · obtain ⟨rfl, _⟩ := msg_inj.mp (ServerMsg.global.inj said)
    exact .inr ⟨rfl, publishes⟩

end

section

variable {s : Sink} {op : RibOp} {r0 : RIB} (r : RIB) (origin : String) (k : RouteKey)

lemma fanoutChange_routes (before after : List String) (skip : String -> Bool) (external : Bool) :
  ∀ msg ∈ r.fanoutChange k before after skip external s, ∀ g, msg ≠ .global g := by
  have fanout (nexthops : List String) (way : RouteOp) :
    ∀ msg ∈ r.fanout k nexthops way skip external s, ∀ g, msg ≠ .global g := by
    rintro msg member g rfl
    simp [fanout] at member
  unfold fanoutChange
  split
  · simp [silent]
  · split
    · exact fanout [] .withdraw
    · exact fanout after .add

lemma withdrawRouteOrigin_feeds : Feeds s op r0 r (r.withdrawRouteOrigin origin k).1 (r.withdrawRouteOrigin origin k).2 := by
  rcases withdrawRouteOrigin_cases r origin k with ⟨idle, _⟩ | ⟨e, _, _, body⟩
  · rw [idle]
    exact .still rfl rfl rfl rfl
  · rw [body]
    exact .quiet rfl rfl rfl rfl (fanoutChange_routes _ k _ _ _ _)

variable {r} in
lemma RIB.Retires.feeds {out : RIB × Sent} (retires : r.Retires out) : Feeds s op r0 r out.1 out.2 := by
  cases retires with
  | still => exact .still rfl rfl rfl rfl
  | @nat k b t stored erased =>
    refine .withdrawn (g := .nat b) (k := .nat k) (by rw [RIB.global, stored]; rfl) ?_ rfl rfl
    exact global_nat k none (fun k' => by rw [withNat, erased, lookup_erase_ite]) rfl
  | @pub k record t stored erased =>
    refine .withdrawn (g := .pub record) (k := .pub k) (by rw [RIB.global, stored]; rfl) ?_ rfl rfl
    exact global_pub k none (fun k' => by rw [withPublic, erased, lookup_erase_ite]) rfl

lemma dropOriginLocked_feeds (order : DropOrder) :
  Feeds s op r0 r (r.dropOriginLocked origin order).1 (r.dropOriginLocked origin order).2 := by
  have routes : Feeds s op r0 r _ _ :=
    (Feeds.forEach (fun r k => withdrawRouteOrigin_feeds r origin k)
      { r with byOrigin := r.byOrigin.erase origin } order.routes).after rfl rfl rfl rfl
  have nat (r : RIB) : Feeds s op r0 r _ _ :=
    (Feeds.forEach (fun r k => (dropNatKey_retires r origin k).feeds)
      { r.dropSubscriptions origin with
        natByOrigin := r.natByOrigin.erase origin } order.nat).after rfl rfl rfl rfl
  have pub (r : RIB) : Feeds s op r0 r _ _ :=
    (Feeds.forEach (fun r k => (dropPublicKey_retires r origin k).feeds)
      { r with publicByOrigin := r.publicByOrigin.erase origin } order.pub).after rfl rfl rfl rfl
  exact routes.trans ((nat _).trans (pub _))

lemma subscribe_feeds (vni : UInt32) (peer : Sink) : Feeds s op r0 r (r.subscribe vni peer).1 (r.subscribe vni peer).2 := by
  unfold subscribe
  split
  · exact .still rfl rfl rfl rfl
  · refine .quiet rfl rfl rfl rfl ?_
    rintro msg member g rfl
    dsimp only [sendSnapshot] at member
    split at member
    · simp only [snapshotRecords, mem_append, mem_flatMap, mem_singleton, reduceCtorEq, or_false] at member
      obtain ⟨pfx, _, record⟩ := member
      split at record <;> simp at record
    · cases member

lemma refilter_feeds (fenced : Map FenceKey IPNet) (order : List RouteKey) :
  Feeds s op r0 r (r.refilter fenced order).1 (r.refilter fenced order).2 := by
  refine .quiet rfl rfl rfl rfl fun msg member => ?_
  obtain ⟨k, _, told⟩ := mem_flatMap.mp member
  exact fanoutChange_routes _ k _ _ _ _ msg told

variable {r} in
lemma RIB.Refences.feeds {order : List RouteKey} {out : RIB × Sent} (refences : r.Refences order out) :
  Feeds s op r0 r out.1 out.2 := by
  rcases refences with rfl | ⟨fenced, rfl⟩
  · exact .still rfl rfl rfl rfl
  · exact refilter_feeds r fenced order

end

section

variable {r : RIB} (ready : r.FeedReady) (order : SnapshotOrder) (possible : order.Enumerates r)

def SnapshotOrder.keys (order : SnapshotOrder) : List GlobalKey :=
  order.nat.map .nat ++ order.pub.map .pub

lemma mem_keys {order : SnapshotOrder} (possible : order.Enumerates r) (k : GlobalKey) :
  k ∈ order.keys ↔ (r.global k).isSome := by
  cases k with
  | nat k => simp [SnapshotOrder.keys, RIB.global, possible.1.2 k, Finmap.lookup_isSome, Finmap.mem_keys]
  | pub k => simp [SnapshotOrder.keys, RIB.global, possible.2.2 k, Finmap.lookup_isSome, Finmap.mem_keys]

lemma buildSnapshot_eq : r.buildSnapshot order = (order.keys.filterMap r.global).map (GlobalRecord.msg .add) ++
    [.endOfGlobal (order.keys.filterMap r.global).length.toUInt32] := by
  have nat : (order.nat.map GlobalKey.nat).filterMap r.global = (order.nat.filterMap fun k => r.nat.lookup k).map .nat := by
    rw [filterMap_map, map_filterMap]
    rfl
  have pub : (order.pub.map GlobalKey.pub).filterMap r.global = (order.pub.filterMap fun k => r.pub.lookup k).map .pub := by
    rw [filterMap_map, map_filterMap]
    rfl
  rw [SnapshotOrder.keys, filterMap_append, nat, pub]
  simp [buildSnapshot, <- map_filterMap, GlobalRecord.msg, Function.comp_def]

include ready

lemma replay_global {op : RibOp} (replays : op.replays = true) (r0 : RIB) (keys : List GlobalKey) (t : Feed)
  (within : ∀ k g, t k = some g -> r.global k = some g) :
  Along Feed.take (op.Tells r0) t ((keys.filterMap r.global).map fun g => .global (g.msg .add)) /\
    ((keys.filterMap r.global).map fun g => ServerMsg.global (g.msg .add)).foldl Feed.take t =
      fun k => if k ∈ keys then r.global k else t k := by
  induction keys generalizing t with
  | nil => exact ⟨trivial, by simp⟩
  | cons key keys ih =>
    cases stored : r.global key with
    | none =>
      obtain ⟨along, fold⟩ := ih t within
      rw [filterMap_cons, stored]
      refine ⟨along, fold.trans (funext fun k => ?_)⟩
      by_cases own : k = key
      · subst own
        have absent : t k = none := Option.eq_none_iff_forall_ne_some.mpr fun g held => by
          rw [within k g held] at stored
          cases stored
        simp [absent, stored]
      · simp [own]
    | some g =>
      have own := ready.keyed key g stored
      obtain ⟨along, fold⟩ := ih (update t key (some g)) (by
        intro k g' held
        rw [update_apply] at held
        split at held
        next same => rw [same, stored, held]
        · exact within k g' held)
      rw [filterMap_cons, stored]
      simp only [map_cons, foldl_cons, Along, take_msg, Feed.put, own]
      refine ⟨⟨fun g' => ⟨fun said => ?_, fun said => .inl ⟨replays, fun old held => ?_⟩⟩, along⟩,
        fold.trans (funext fun k => ?_)⟩
      · cases (msg_inj.mp (ServerMsg.global.inj said)).2
      · obtain ⟨rfl, _⟩ := msg_inj.mp (ServerMsg.global.inj said)
        have same := within _ old held
        rw [own, stored] at same
        exact (Option.some.inj same).symm
      · by_cases same : k = key
        · simp [same, stored]
        · simp [same]

include possible

lemma globalSnapshot_fresh : ∃ order' : SnapshotOrder, order'.Enumerates r /\
  r.globalSnapshot order = r.buildSnapshot order' := by
  unfold globalSnapshot
  split
  next snap cached => exact ready.fresh snap cached
  · exact ⟨order, possible, rfl⟩

lemma snapshot_global (op : RibOp) (replays : op.replays = true) (r0 : RIB) (t : Feed)
  (within : ∀ k g, t k = some g -> r.global k = some g) :
  Along Feed.take (op.Tells r0) t ((r.globalSnapshot order).map .global) /\
    ((r.globalSnapshot order).map ServerMsg.global).foldl Feed.take t = r.global := by
  obtain ⟨order', visits, built⟩ := globalSnapshot_fresh ready order possible
  obtain ⟨along, fold⟩ := replay_global ready replays r0 order'.keys t within
  rw [built, buildSnapshot_eq, map_append, map_map, foldl_append]
  refine ⟨along.append ⟨fun g => ?_, trivial⟩, fold.trans (funext fun k => ?_)⟩
  · cases g <;> simp [GlobalRecord.msg]
  · split
    · rfl
    next absent =>
      have none : r.global k = none := by simpa [mem_keys visits] using absent
      rw [none]
      exact Option.eq_none_iff_forall_ne_some.mpr fun g held => by
        rw [within k g held] at none
        cases none

lemma globalSnapshot_exact : ∃ records : List GlobalRecord,
  r.globalSnapshot order = records.map (GlobalRecord.msg .add) ++ [.endOfGlobal records.length.toUInt32] /\
    records.Nodup /\ ∀ g, g ∈ records ↔ r.global g.key = some g := by
  obtain ⟨order', visits, built⟩ := globalSnapshot_fresh ready order possible
  refine ⟨order'.keys.filterMap r.global, built.trans (buildSnapshot_eq order'), ?_, fun g => ?_⟩
  · refine Nodup.filterMap (fun k k' g held held' => ?_) ?_
    · exact (ready.keyed k g held).symm.trans (ready.keyed k' g held')
    · refine nodup_append.mpr ⟨visits.1.1.map fun _ _ => GlobalKey.nat.inj,
        visits.2.1.map fun _ _ => GlobalKey.pub.inj, fun k member k' member' same => ?_⟩
      obtain ⟨_, _, rfl⟩ := mem_map.mp member
      obtain ⟨_, _, rfl⟩ := mem_map.mp member'
      cases same
  · rw [mem_filterMap]
    constructor
    · rintro ⟨k, _, held⟩
      rw [ready.keyed k g held, held]
    · intro held
      exact ⟨g.key, (mem_keys visits _).mpr (by rw [held]; rfl), held⟩

end

section

variable {s : Sink} {r : RIB}

lemma apply_feeds (op : RibOp) (ready : r.FeedReady) (possible : op.Possible r) :
  (r.step op).FeedReady /\ ((r.step op).sinks s.id = some s -> Along Feed.take (op.Tells r) r.global ((r.apply op).2 s) /\
      ((r.apply op).2 s).foldl Feed.take r.global = (r.step op).global) := by
  -- The teardown of an id starts from a table without that id's sink.
  have fed {r' : RIB} (feeds : Feeds s op r r' (r.apply op).1 (r.apply op).2) (nat : r'.nat = r.nat)
    (pub : r'.pub = r.pub) (snap : r'.globalSnap = r.globalSnap) :
    (r.step op).FeedReady /\ ((r.step op).sinks s.id = some s -> Along Feed.take (op.Tells r) r.global ((r.apply op).2 s) /\
        ((r.apply op).2 s).foldl Feed.take r.global = (r.step op).global) := by
    obtain ⟨after, sinks, told⟩ := feeds (ready.same nat pub snap)
    rw [<- global_congr nat pub]
    exact ⟨after, fun kept => told (sinks ▸ kept)⟩
  cases op with
  | subscribe vni peer => exact fed (subscribe_feeds r vni peer) rfl rfl rfl
  | unsubscribe vni sinkID => exact fed (.still rfl rfl rfl rfl) rfl rfl rfl
  | announce origin vni pfx nexthops external =>
    exact fed (.quiet rfl rfl rfl rfl (fanoutChange_routes _ _ _ _ _ _)) rfl rfl rfl
  | withdraw origin vni pfx =>
    exact fed (withdrawRouteOrigin_feeds
      { r with byOrigin := disown r.byOrigin origin { vni, pfx } } origin { vni, pfx }) rfl rfl rfl
  | setFence pfx order => exact fed (setFence_refences r pfx order).feeds rfl rfl rfl
  | clearFence pfx order => exact fed (clearFence_refences r pfx order).feeds rfl rfl rfl
  | claimOrigin nodeID order =>
    simp only [step, apply, claimOrigin] at fed ⊢
    split at fed
    next live =>
      rw [if_pos live]
      exact fed (dropOriginLocked_feeds _ nodeID order) rfl rfl rfl
    next fresh =>
      rw [if_neg fresh]
      exact fed (.still rfl rfl rfl rfl) rfl rfl rfl
  | releaseOrigin nodeID token order =>
    simp only [step, apply, releaseOrigin] at fed ⊢
    split at fed
    next stale =>
      rw [if_pos stale]
      exact fed (.still rfl rfl rfl rfl) rfl rfl rfl
    next live =>
      rw [if_neg live]
      exact fed (dropOriginLocked_feeds _ nodeID order) rfl rfl rfl
  | registerSink peer order =>
    refine ⟨⟨ready.keyed, fun snap held => ?_⟩, fun _ => ?_⟩
    · obtain ⟨order', visits, built⟩ := globalSnapshot_fresh ready order possible
      exact ⟨order', visits, (Option.some.inj held).symm.trans built⟩
    · simp only [apply, registerSink, sendSnapshot]
      split
      · exact snapshot_global ready order possible _ rfl r r.global fun _ _ held => held
      · exact ⟨trivial, rfl⟩
  | announceNat origin b =>
    exact fed (.announced (g := .nat b) rfl
      (global_nat b.key (some b) (fun _ => lookup_insert_ite _ _ _ _) rfl) rfl rfl) rfl rfl rfl
  | withdrawNat origin natIP portMin portMax permit =>
    exact fed (withdrawNat_retires r origin natIP portMin portMax permit).feeds rfl rfl rfl
  | announcePublic origin record =>
    exact fed (.announced (g := .pub record) rfl
      (global_pub record.key (some record) (fun _ => lookup_insert_ite _ _ _ _) rfl) rfl rfl) rfl rfl rfl
  | withdrawPublic origin record permit =>
    exact fed (withdrawPublic_retires r origin record permit).feeds rfl rfl rfl

lemma step_feedReady (r : RIB) (op : RibOp) (ready : r.FeedReady) (possible : op.Possible r) : (r.step op).FeedReady :=
  (apply_feeds (s := { id := "", session := 0 }) op ready possible).1

lemma run_feedReady (ops : List RibOp) (possible : Along step (fun r op => op.Possible r) newRIB ops) :
  (ops.foldl step newRIB).FeedReady :=
  possible.invariant step_feedReady newRIB_feedReady

lemma received_feeds {P : RIB -> RibOp -> Prop} {Q : Feed -> ServerMsg -> Prop}
  (reads : ∀ r op t msg, r.FeedReady -> P r op -> op.Tells r t msg -> Q t msg) {ops : List RibOp}
  (ready : r.FeedReady)
  (along : Along step (fun r op => op.Possible r /\ P r op /\ (r.step op).sinks s.id = some s) r ops) :
  Along Feed.take Q r.global (received s r ops) /\
    (received s r ops).foldl Feed.take r.global = (ops.foldl step r).global := by
  induction ops generalizing r with
  | nil => exact ⟨trivial, rfl⟩
  | cons op ops ih =>
    obtain ⟨⟨possible, held, kept⟩, rest⟩ := along
    obtain ⟨ready', told⟩ := apply_feeds (s := s) op ready possible
    obtain ⟨along, fold⟩ := told kept
    obtain ⟨along', fold'⟩ := ih ready' rest
    rw [received, foldl_append, fold]
    exact ⟨(along.mono fun t msg => reads r op t msg ready held).append (fold ▸ along'), fold'⟩

lemma registered_feeds {P : RIB -> RibOp -> Prop} {Q : Feed -> ServerMsg -> Prop}
  (reads : ∀ r op t msg, r.FeedReady -> P r op -> op.Tells r t msg -> Q t msg)
  {order : SnapshotOrder} {ops : List RibOp} (ready : r.FeedReady) (replay : order.Enumerates r)
  (allowed : P r (.registerSink s order))
  (along : Along step (fun r op => op.Possible r /\ P r op /\ (r.step op).sinks s.id = some s)
    (r.step (.registerSink s order)) ops) :
  Along Feed.take Q (fun _ => none) (received s r (.registerSink s order :: ops)) /\
    (received s r (.registerSink s order :: ops)).foldl Feed.take (fun _ => none) =
      (ops.foldl step (r.step (.registerSink s order))).global := by
  obtain ⟨shown, replayed⟩ := snapshot_global ready order replay (.registerSink s order) rfl r (fun _ => none) (by simp)
  obtain ⟨told, fold⟩ := received_feeds reads (step_feedReady _ (.registerSink s order) ready replay) along
  have first : (r.apply (.registerSink s order)).2 s = (r.globalSnapshot order).map .global := by
    simp [apply, registerSink, sendSnapshot]
  rw [received, first, foldl_append, replayed]
  refine ⟨(shown.mono fun t msg => reads r _ t msg ready allowed).append ?_, fold⟩
  rw [replayed]
  exact told

end

theorem feed_eq_tables (history : List RibOp) (possible : Along step (fun r op => op.Possible r) newRIB history) (s : Sink)
  (order : SnapshotOrder) (replay : order.Enumerates (history.foldl step newRIB))
  (ops : List RibOp)
  (along : Along step (fun r op => op.Possible r /\ (r.step op).sinks s.id = some s)
    ((history.foldl step newRIB).step (.registerSink s order)) ops) :
  let start := history.foldl step newRIB
  let final := ops.foldl step (start.step (.registerSink s order))
  (received s start (.registerSink s order :: ops)).foldl Feed.take (fun _ => none) = final.global /\
    ∃ records : List GlobalRecord, start.globalSnapshot order =
        records.map (GlobalRecord.msg .add) ++ [.endOfGlobal records.length.toUInt32] /\
      records.Nodup /\ ∀ g, g ∈ records ↔ start.global g.key = some g := by
  intro start final
  have ready := run_feedReady history possible
  refine ⟨?_, globalSnapshot_exact ready order replay⟩
  exact (registered_feeds (P := fun _ _ => True) (Q := fun _ _ => True) (fun _ _ _ _ _ _ _ => trivial) ready replay trivial
    (along.mono fun r op held => ⟨held.1, trivial, held.2⟩)).2

-- Two nodes announce before the sink registers; then one moves its block to another guest, a third
-- announces and the second withdraws.
def natBlock (last : String) (portMin portMax : UInt32) (owner : String) : NatBlock :=
  ⟨5, "10.0.0." ++ last, "192.0.2.1", portMin, portMax, owner⟩

def beforeSink : List RibOp :=
  [.announceNat "n1" (natBlock "1" 1024 2048 "fd00::1"), .announceNat "n2" (natBlock "2" 2048 4096 "fd00::2")]

def sinkOrder : SnapshotOrder :=
  ⟨[(natBlock "1" 1024 2048 "fd00::1").key, (natBlock "2" 2048 4096 "fd00::2").key], []⟩

def afterSink : List RibOp :=
  [.announceNat "n1" (natBlock "9" 1024 2048 "fd00::1"), .announceNat "n3" (natBlock "3" 4096 8192 "fd00::3"),
    .withdrawNat "n2" "192.0.2.1" 2048 4096 (fun _ => true)]

theorem feed_after_announce :
  let s : Sink := { id := "e1", session := 1 }
  let feed := (received s (beforeSink.foldl step newRIB) (.registerSink s sinkOrder :: afterSink)).foldl Feed.take
    (fun _ => none)
  feed (.nat (natBlock "1" 1024 2048 "fd00::1").key) = some (.nat (natBlock "9" 1024 2048 "fd00::1")) /\
    feed (.nat (natBlock "2" 2048 4096 "fd00::2").key) = none /\
    feed (.nat (natBlock "3" 4096 8192 "fd00::3").key) = some (.nat (natBlock "3" 4096 8192 "fd00::3")) := by
  intro s feed
  have folded := (feed_eq_tables beforeSink (by decide +kernel) s sinkOrder (by decide +kernel) afterSink
    (by decide +kernel)).1
  refine ⟨(congrFun folded _).trans ?_, (congrFun folded _).trans ?_, (congrFun folded _).trans ?_⟩ <;> decide +kernel

end Ectobase.Mesh
