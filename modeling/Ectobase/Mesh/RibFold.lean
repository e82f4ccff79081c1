import Ectobase.Mesh.Rib
import Ectobase.Shared.Runs

namespace Ectobase.Mesh

open Shared Option RIB

def foldMsg (k : RouteKey) (view : Option (List String)) : ServerMsg -> Option (List String)
  | .routeUpdate key nexthops op _ =>
    if key = k then
      match op with
      | .add => some nexthops
      | .withdraw => none
    else view
  | _ => view

def foldView (k : RouteKey) (view : Option (List String)) (msgs : List ServerMsg) : Option (List String) :=
  msgs.foldl (foldMsg k) view

def viewOf (nexthops : List String) : Option (List String) :=
  if nexthops = [] then none else some nexthops

def RIB.view (r : RIB) (k : RouteKey) : Option (List String) :=
  viewOf (r.advertised (r.entry k))

variable {A : Type} (payload : List String -> Bool -> A)

-- A part of the last update, while it is not withdrawn.
def readMsg (k : RouteKey) (view : Option A) : ServerMsg -> Option A
  | .routeUpdate key nexthops op external =>
    if key = k then
      match op with
      | .add => some (payload nexthops external)
      | .withdraw => none
    else view
  | _ => view

def readView (k : RouteKey) (view : Option A) (msgs : List ServerMsg) : Option A :=
  msgs.foldl (readMsg payload k) view

def shown (nexthops : List String) (external : Bool) : Option A :=
  if nexthops = [] then none else some (payload nexthops external)

def RIB.shows (r : RIB) (k : RouteKey) : Option A :=
  shown payload (r.advertised (r.entry k)) (r.entry k).external

variable {payload}

variable (r : RIB) (k : RouteKey) (view : Option A)

@[simp] lemma readView_nil : readView payload k view [] = view := rfl

lemma readView_append (xs ys : List ServerMsg) :
  readView payload k view (xs ++ ys) = readView payload k (readView payload k view xs) ys :=
  List.foldl_append

lemma readView_flatMap {K : Type} [DecidableEq K] (k : RouteKey) (own : K) (msgs : K -> List ServerMsg)
  (others : ∀ key, key ≠ own -> ∀ view, readView payload k view (msgs key) = view)
  (keys : List K) (nodup : keys.Nodup) (view : Option A) :
  readView payload k view (keys.flatMap msgs) = if own ∈ keys then readView payload k view (msgs own) else view := by
  induction keys generalizing view with
  | nil => simp
  | cons key keys ih =>
    rw [List.nodup_cons] at nodup
    rw [List.flatMap_cons, readView_append, ih nodup.2]
    by_cases same : key = own
    · subst same
      simp [nodup.1]
    · rw [others key same]
      simp [Ne.symm same]

lemma fanout_other (key k : RouteKey) (nexthops : List String) (op : RouteOp)
  (skip : String -> Bool) (external : Bool) (s : Sink) (other : key ≠ k)
  (view : Option A) :
  readView payload k view (r.fanout key nexthops op skip external s) = view := by
  unfold fanout
  split <;> simp [readView, readMsg, other]

lemma fanoutChange_other (key k : RouteKey) (before after : List String)
  (skip : String -> Bool) (external : Bool) (s : Sink) (other : key ≠ k)
  (view : Option A) :
  readView payload k view (r.fanoutChange key before after skip external s) = view := by
  unfold fanoutChange
  split
  · rfl
  · split <;> exact fanout_other r key k _ _ skip external s other view

lemma fanoutChange_reads (before after : List String) {external : Bool} (skip : String -> Bool)
  (s : Sink) (subscribed : r.subscribers k.vni s.id = some s) (told : skip s.id = false) :
  readView payload k view (r.fanoutChange k before after skip external s) =
    if before = after then view else shown payload after external := by
  unfold fanoutChange
  by_cases same : before = after
  · rw [if_pos same, if_pos same]
    rfl
  · rw [if_neg same, if_neg same]
    by_cases empty : after = []
    · rw [if_pos empty]
      simp [fanout, empty, subscribed, told, readView, readMsg, shown]
    · rw [if_neg empty]
      simp [fanout, empty, subscribed, told, readView, readMsg, shown]

variable (payload) in
-- The messages bring any reader up to date, or there is no news and none of them is about k.
def Tells (before after : Option A) (msgs : List ServerMsg) : Prop :=
  (∀ view, readView payload k view msgs = after) \/ after = before /\ ∀ view, readView payload k view msgs = view

lemma Tells.trans {k : RouteKey} {before mid after : Option A} {msgs later : List ServerMsg}
  (first : Tells payload k before mid msgs) (second : Tells payload k mid after later) :
  Tells payload k before after (msgs ++ later) := by
  rcases second with all | ⟨rfl, mute⟩
  · exact .inl fun view => by rw [readView_append, all]
  · simpa only [Tells, readView_append, mute] using first

lemma fanoutChange_tells (before after : List String) {old external : Bool}
  (skip : String -> Bool) (s : Sink) (subscribed : r.subscribers k.vni s.id = some s)
  (told : skip s.id = false)
  (kept : before = after -> shown payload before old = shown payload after external) :
  Tells payload k (shown payload before old) (shown payload after external)
    (r.fanoutChange k before after skip external s) := by
  simp only [Tells, fanoutChange_reads r k _ before after skip s subscribed told]
  by_cases same : before = after
  · exact .inr ⟨(kept same).symm, fun view => if_pos same⟩
  · exact .inl fun view => if_neg same

section

variable (k : RouteKey) (s : Sink)

structure Follows (r : RIB) : Prop where
  subscribed : r.subscribers k.vni s.id = some s
  foreign : (r.entry k).origins.lookup s.id = none

variable (payload) in
def Relays (r r' : RIB) (sent : Sent) : Prop :=
  Follows k s r -> (r'.entry k).origins.lookup s.id = none /\
    Tells payload k (r.shows payload k) (r'.shows payload k) (sent s)

variable {k s}

lemma Relays.quiet {r r' : RIB} {sent : Sent} (entry : r'.entry k = r.entry k)
  (fenced : r'.fenced = r.fenced) (said : ∀ view, readView payload k view (sent s) = view) :
  Relays payload k s r r' sent := by
  intro follows
  refine ⟨entry ▸ follows.foreign, .inr ⟨?_, said⟩⟩
  simp only [shows, advertised, entry, fenced]

lemma Relays.trans {r r1 r2 : RIB} {a b : Sent} (first : Relays payload k s r r1 a)
  (subscribers : r1.subscribers = r.subscribers) (second : Relays payload k s r1 r2 b) :
  Relays payload k s r r2 (a.then b) := by
  intro follows
  obtain ⟨foreign, told⟩ := first follows
  obtain ⟨foreign', told'⟩ := second ⟨subscribers ▸ follows.subscribed, foreign⟩
  exact ⟨foreign', told.trans told'⟩

lemma Relays.forEach {K : Type} {body : RIB -> K -> RIB × Sent}
  (pass : ∀ r key, Relays payload k s r (body r key).1 (body r key).2)
  (subscribers : ∀ r key, (body r key).1.subscribers = r.subscribers) (r : RIB)
  (keys : List K) :
  Relays payload k s r (forEach body r keys).1 (forEach body r keys).2 := by
  induction keys generalizing r with
  | nil => exact Relays.quiet rfl rfl (fun _ => rfl)
  | cons key keys ih => exact (pass r key).trans (subscribers r key) (ih _)

end

lemma RIB.entry_insert (r r' : RIB) (key k : RouteKey) (e : RouteEntry) (routes : r'.routes = r.routes.insert key e) :
  r'.entry k = if k = key then e else r.entry k := by
  unfold entry
  rw [routes, lookup_insert_ite]
  split <;> rfl

@[simp] lemma mergeNexthops_empty : mergeNexthops ∅ = [] := by
  simp [mergeNexthops]

variable (payload) in
def RibOp.Kept (k : RouteKey) (r : RIB) : RibOp -> Prop
  | .announce origin vni pfx nexthops external => k = { vni, pfx } ->
    let after := r.advertised { origins := (r.entry k).origins.insert origin nexthops, external }
    r.advertised (r.entry k) = after -> shown payload after (r.entry k).external = shown payload after external
  | _ => True

variable (r : RIB) (origin : String) (key : RouteKey) (k : RouteKey) (e : RouteEntry) (s : Sink)

lemma announce_relays (r : RIB) (origin : String) (vni : UInt32) (pfx : String) (nexthops : List String) (external : Bool)
  (foreign : origin ≠ s.id \/ k ≠ { vni, pfx })
  (kept : (RibOp.announce origin vni pfx nexthops external).Kept payload k r) :
  Relays payload k s r (r.announce origin vni pfx nexthops external).1 (r.announce origin vni pfx nexthops external).2 := by
  by_cases own : k = { vni, pfx }
  · have other : origin ≠ s.id := foreign.resolve_right (fun ne => ne own)
    intro follows
    have kept := kept own
    subst own
    have entry := entry_insert r (r.announce origin vni pfx nexthops external).1 { vni, pfx } { vni, pfx } _ rfl
    rw [if_pos rfl] at entry
    constructor
    · rw [entry, lookup_insert_ite, if_neg (Ne.symm other)]
      exact follows.foreign
    · rw [shows, shows, entry]
      exact fanoutChange_tells _ _ _ _ _ s follows.subscribed (by simpa using Ne.symm other)
        fun same => same ▸ kept same
  · apply Relays.quiet
    · rw [entry_insert r _ { vni, pfx } k _ rfl, if_neg own]
    · rfl
    · intro view
      exact fanoutChange_other _ _ k _ _ _ _ s (Ne.symm own) view

lemma withdrawRouteOrigin_cases : (r.withdrawRouteOrigin origin key = (r, silent) /\
      (r.entry key).origins.lookup origin = none) \/
    ∃ e, r.routes.lookup key = some e /\ (e.origins.lookup origin).isSome /\
      r.withdrawRouteOrigin origin key = (r.removeOrigin origin key e,
          (r.removeOrigin origin key e).fanoutChange key (r.advertised e) ((r.removeOrigin origin key e).advertised
              { e with origins := e.origins.erase origin }) (fun _ => false) e.external) := by
  unfold withdrawRouteOrigin entry
  cases found : r.routes.lookup key with
  | none => exact .inl ⟨rfl, Finmap.lookup_empty origin⟩
  | some e =>
    cases held : e.origins.lookup origin with
    | none => exact .inl (by simp [held])
    | some nexthops => exact .inr ⟨e, rfl, by simp [held], by simp [held]⟩

lemma removeOrigin_entry_ne (key k : RouteKey) (e : RouteEntry)
  (other : k ≠ key) : (r.removeOrigin origin key e).entry k = r.entry k := by
  unfold entry removeOrigin
  split
  · rw [lookup_erase_ite, if_neg other]
  · rw [lookup_insert_ite, if_neg other]

lemma removeOrigin_origins : ((r.removeOrigin origin key e).entry key).origins = e.origins.erase origin := by
  unfold entry removeOrigin
  split
  next last => rw [lookup_erase_ite, if_pos rfl, getD_none, last]
  · rw [lookup_insert_ite, if_pos rfl, getD_some]

lemma withdrawRouteOrigin_subscribers : (r.withdrawRouteOrigin origin key).1.subscribers = r.subscribers := by
  rcases withdrawRouteOrigin_cases r origin key with ⟨idle, _⟩ | ⟨e, _, _, body⟩
  · rw [idle]
  · rw [body]
    rfl

lemma removeOrigin_shows : (r.removeOrigin origin k e).shows payload k =
    shown payload (r.advertised { e with origins := e.origins.erase origin }) e.external := by
  unfold shows entry removeOrigin
  split
  next last =>
    rw [lookup_erase_ite, if_pos rfl, getD_none]
    simp [advertised, last, shown]
  · rw [lookup_insert_ite, if_pos rfl, getD_some]; rfl

lemma withdrawRouteOrigin_relays (r : RIB) (origin : String) (key : RouteKey) :
  Relays payload k s r (r.withdrawRouteOrigin origin key).1 (r.withdrawRouteOrigin origin key).2 := by
  rcases withdrawRouteOrigin_cases r origin key with ⟨idle, _⟩ | ⟨e, found, _, body⟩
  · rw [idle]
    exact Relays.quiet rfl rfl fun _ => rfl
  · rw [body]
    by_cases own : k = key
    · subst own
      have before : r.entry k = e := by rw [entry, found, getD_some]
      intro follows
      constructor
      · rw [removeOrigin_origins, lookup_erase_ite, <- before]
        split
        · rfl
        · exact follows.foreign
      · rw [removeOrigin_shows, shows, before]
        exact fanoutChange_tells _ k _ _ _ s follows.subscribed rfl fun same => same ▸ rfl
    · apply Relays.quiet
      · exact removeOrigin_entry_ne r origin key k e own
      · rfl
      · exact fanoutChange_other _ key k _ _ _ _ s (Ne.symm own)

lemma withdraw_relays (r : RIB) (origin : String) (vni : UInt32) (pfx : String) :
  Relays payload k s r (r.withdraw origin vni pfx).1 (r.withdraw origin vni pfx).2 := by
  intro follows
  exact withdrawRouteOrigin_relays k s { r with byOrigin := disown r.byOrigin origin { vni, pfx } } origin _
    ⟨follows.subscribed, follows.foreign⟩

section

variable {k : RouteKey} {s : Sink}

variable (payload) in
structure Mute (k : RouteKey) (s : Sink) (r r' : RIB) (sent : Sent) : Prop where
  routes : r'.routes = r.routes
  fenced : r'.fenced = r.fenced
  said : ∀ view, readView payload k view (sent s) = view

lemma Mute.relays {r r' : RIB} {sent : Sent} (h : Mute payload k s r r' sent) : Relays payload k s r r' sent :=
  Relays.quiet (by rw [entry, entry, h.routes]) h.fenced h.said

variable {r r1 r2 : RIB} {a b : Sent}

lemma Mute.trans (first : Mute payload k s r r1 a)
  (second : Mute payload k s r1 r2 b) : Mute payload k s r r2 (a.then b) where
  routes := second.routes.trans first.routes
  fenced := second.fenced.trans first.fenced
  said view := by rw [Sent.then, readView_append, first.said, second.said]

lemma Mute.forEach {K : Type} {body : RIB -> K -> RIB × Sent}
  (pass : ∀ r key, Mute payload k s r (body r key).1 (body r key).2) (r : RIB) (keys : List K) :
  Mute payload k s r (forEach body r keys).1 (forEach body r keys).2 := by
  induction keys generalizing r with
  | nil => exact ⟨rfl, rfl, fun _ => rfl⟩
  | cons key keys ih => exact (pass r key).trans (ih _)

lemma Relays.then_mute (first : Relays payload k s r r1 a)
  (second : Mute payload k s r1 r2 b) : Relays payload k s r r2 (a.then b) := by
  intro follows
  obtain ⟨foreign, told⟩ := first follows
  have entry : r2.entry k = r1.entry k := by rw [entry, entry, second.routes]
  refine ⟨entry ▸ foreign, told.trans (.inr ⟨?_, second.said⟩)⟩
  simp only [shows, advertised, entry, second.fenced]

end

-- The NAT and the public table are two instances of a table of owned keys, and each operation on
-- them replaces the one table and the cached replay.

def RIB.natTable (r : RIB) : OwnedTable NatKey NatBlock String where
  items := r.nat
  owner := r.natOrigin
  owned := r.natByOrigin

def RIB.publicTable (r : RIB) : OwnedTable PublicKey PublicRecord String where
  items := r.pub
  owner := r.publicOrigin
  owned := r.publicByOrigin

def RIB.withNat (r : RIB) (t : OwnedTable NatKey NatBlock String) (snap : Option (List GlobalMsg)) : RIB :=
  { r with nat := t.items, natOrigin := t.owner, natByOrigin := t.owned, globalSnap := snap }

def RIB.withPublic (r : RIB) (t : OwnedTable PublicKey PublicRecord String) (snap : Option (List GlobalMsg)) : RIB :=
  { r with pub := t.items, publicOrigin := t.owner, publicByOrigin := t.owned, globalSnap := snap }

section

-- The global tables share neither keys nor messages with the routes.

variable (k : RouteKey) (s : Sink) (r : RIB) (origin : String)

variable (b : NatBlock) (order : DropOrder) (rec : PublicRecord) (op : RouteOp) (view : Option A)

lemma readView_natFanout : readView payload k view (natFanout r b op s) = view := by
  unfold natFanout
  split <;> rfl

lemma readView_publicFanout : readView payload k view (publicFanout r rec op s) = view := by
  unfold publicFanout
  split <;> rfl

-- Taking a record off a global table: there is none to take, or it goes and every sink is told.
inductive RIB.Retires (r : RIB) : RIB × Sent -> Prop
  | still : r.Retires (r, silent)
  | nat {k : NatKey} {b : NatBlock} (t : OwnedTable NatKey NatBlock String) (stored : r.nat.lookup k = some b)
    (erased : t.items = r.nat.erase k) : r.Retires (r.withNat t none, natFanout (r.withNat t none) b .withdraw)
  | pub {k : PublicKey} {rec : PublicRecord} (t : OwnedTable PublicKey PublicRecord String)
    (stored : r.pub.lookup k = some rec) (erased : t.items = r.pub.erase k) :
    r.Retires (r.withPublic t none, publicFanout (r.withPublic t none) rec .withdraw)

lemma dropNatKey_retires (key : NatKey) : r.Retires (dropNatKey origin r key) := by
  unfold dropNatKey
  split
  · exact .still
  · split
    · exact .still
    next stored => exact .nat ⟨_, _, _⟩ stored rfl

lemma dropPublicKey_retires (key : PublicKey) : r.Retires (dropPublicKey origin r key) := by
  unfold dropPublicKey
  split
  · exact .still
  · split
    · exact .still
    next stored => exact .pub ⟨_, _, _⟩ stored rfl

lemma withdrawNat_retires (natIP : String) (portMin portMax : UInt32) (permit : String -> Bool) :
  let out := r.withdrawNat origin natIP portMin portMax permit
  r.Retires (out.1, out.2.1) := by
  simp only [withdrawNat]
  split
  · exact .still
  next stored =>
    split
    · exact .still
    · exact .nat ⟨_, _, _⟩ stored rfl

lemma withdrawPublic_retires (permit : String -> Bool) :
  let out := r.withdrawPublic origin rec permit
  r.Retires (out.1, out.2.1) := by
  simp only [withdrawPublic]
  split
  · exact .still
  next stored =>
    split
    · exact .still
    · exact .pub ⟨_, _, _⟩ stored rfl

variable {r} in
lemma RIB.Retires.mute {out : RIB × Sent} (retires : r.Retires out) : Mute payload k s r out.1 out.2 := by
  cases retires with
  | still => exact ⟨rfl, rfl, fun _ => rfl⟩
  | nat => exact ⟨rfl, rfl, readView_natFanout k s _ _ _⟩
  | pub => exact ⟨rfl, rfl, readView_publicFanout k s _ _ _⟩

lemma dropOriginNat_mute (order : List NatKey) :
  Mute payload k s r (r.dropOriginNat origin order).1 (r.dropOriginNat origin order).2 := by
  have loop : Mute payload k s _ _ _ := Mute.forEach (fun r key => (dropNatKey_retires r origin key).mute k s)
    { r with natByOrigin := r.natByOrigin.erase origin } order
  exact ⟨loop.routes, loop.fenced, loop.said⟩

lemma dropOriginPublic_mute (order : List PublicKey) :
  Mute payload k s r (r.dropOriginPublic origin order).1 (r.dropOriginPublic origin order).2 := by
  have loop : Mute payload k s _ _ _ := Mute.forEach (fun r key => (dropPublicKey_retires r origin key).mute k s)
    { r with publicByOrigin := r.publicByOrigin.erase origin } order
  exact ⟨loop.routes, loop.fenced, loop.said⟩

lemma dropOriginRoutes_relays (order : List RouteKey) :
  Relays payload k s r (r.dropOriginRoutes origin order).1 (r.dropOriginRoutes origin order).2 := by
  have loop : Relays payload k s _ _ _ := Relays.forEach (fun r key => withdrawRouteOrigin_relays k s r origin key)
    (fun r key => withdrawRouteOrigin_subscribers r origin key)
    { r with byOrigin := r.byOrigin.erase origin } order
  exact fun follows => loop ⟨follows.subscribed, follows.foreign⟩

lemma dropOriginLocked_relays :
  Relays payload k s r (r.dropOriginLocked origin order).1 (r.dropOriginLocked origin order).2 := by
  -- The subscriptions go only after the routes, so the first loop still reaches the sink.
  have routes : Relays payload k s _ _ _ := dropOriginRoutes_relays k s r origin order.routes
  have tables : Mute payload k s _ _ _ := (dropOriginNat_mute k s
    ((r.dropOriginRoutes origin order.routes).1.dropSubscriptions origin) origin order.nat).trans
      (dropOriginPublic_mute k s _ origin order.pub)
  exact routes.then_mute ⟨tables.routes, tables.fenced, tables.said⟩

lemma claimOrigin_relays : Relays payload k s r (r.claimOrigin origin order).1 (r.claimOrigin origin order).2 := by
  simp only [claimOrigin]
  split
  · intro follows
    exact dropOriginLocked_relays k s _ origin order ⟨follows.subscribed, follows.foreign⟩
  · exact Relays.quiet rfl rfl fun _ => rfl

lemma releaseOrigin_relays (token : Nat) (order : DropOrder) :
  Relays payload k s r (r.releaseOrigin origin token order).1 (r.releaseOrigin origin token order).2 := by
  simp only [releaseOrigin]
  split
  · exact Relays.quiet rfl rfl fun _ => rfl
  · intro follows
    exact dropOriginLocked_relays k s _ origin order ⟨follows.subscribed, follows.foreign⟩

lemma announceNat_mute : Mute payload k s r (r.announceNat origin b).1 (r.announceNat origin b).2 :=
  ⟨rfl, rfl, readView_natFanout k s _ _ _⟩

lemma announcePublic_mute : Mute payload k s r (r.announcePublic origin rec).1 (r.announcePublic origin rec).2 :=
  ⟨rfl, rfl, readView_publicFanout k s _ _ _⟩

lemma registerSink_mute (peer : Sink) (order : SnapshotOrder) :
  Mute payload k s r (r.registerSink peer order).1 (r.registerSink peer order).2 := by
  have replay (msgs : List GlobalMsg) (view : Option A) : readView payload k view (msgs.map .global) = view := by
    induction msgs with
    | nil => rfl
    | cons msg msgs ih => exact ih
  refine ⟨rfl, rfl, fun view => ?_⟩
  simp only [registerSink, sendSnapshot]
  split
  · exact replay _ view
  · rfl

end

variable (k : RouteKey) (s : Sink) (r : RIB) (vni : UInt32) (pfx : String) (order : List RouteKey)

lemma refilter_relays (fenced : Map FenceKey IPNet) (order : List RouteKey) (visits : Enumerates order r.routes.keys) :
  Relays payload k s r (r.refilter fenced order).1 (r.refilter fenced order).2 := by
  intro follows
  refine ⟨follows.foreign, ?_⟩
  simp only [refilter, Tells]
  simp only [readView_flatMap k k _ (fun key other view =>
    fanoutChange_other _ key k _ _ _ _ s other view) order visits.1]
  rw [shows, shows]
  split
  · exact fanoutChange_tells _ k _ _ _ s follows.subscribed (by
      rw [originsOf, follows.foreign]
      rfl) fun same => same ▸ rfl
  next absent =>
    have missing : r.routes.lookup k = none := by
      rw [visits.2, mem_keys_iff_lookup] at absent
      exact eq_none_iff_forall_ne_some.mpr fun e found => absent ⟨e, found⟩
    exact .inr ⟨by simp [entry, missing, advertised, shown], fun _ => rfl⟩

-- A fence operation leaves everything as it is, or filters the whole table anew.
def RIB.Refences (order : List RouteKey) (out : RIB × Sent) : Prop :=
  out = (r, silent) \/ ∃ fenced, out = r.refilter fenced order

lemma setFence_refences : r.Refences order (r.setFence pfx order) := by
  unfold setFence
  split
  · exact .inl rfl
  · split
    · exact .inl rfl
    · exact .inr ⟨_, rfl⟩

lemma clearFence_refences : r.Refences order (r.clearFence pfx order) := by
  unfold clearFence
  split
  · exact .inl rfl
  · split
    · exact .inl rfl
    · exact .inr ⟨_, rfl⟩

variable {r order} in
lemma RIB.Refences.relays {out : RIB × Sent} (refences : r.Refences order out) (visits : Enumerates order r.routes.keys) :
  Relays payload k s r out.1 out.2 := by
  rcases refences with rfl | ⟨fenced, rfl⟩
  · exact Relays.quiet rfl rfl fun _ => rfl
  · exact refilter_relays k s r fenced order visits

lemma snapshotRecords_read (view : Option A) : readView payload k view (r.snapshotRecords vni) =
    if vni = k.vni /\ r.shows payload k ≠ none then r.shows payload k else view := by
  unfold snapshotRecords
  rw [readView_flatMap k k.pfx _ _ _ (sorted_nodup _)]
  · by_cases own : vni = k.vni
    · subst own
      have listed : k.pfx ∈ sorted ((r.routes.keys.filter fun key => key.vni = k.vni).image
        fun key => key.pfx) ↔ k ∈ r.routes.keys := by
        rw [mem_sorted, Finset.mem_image]
        constructor
        · rintro ⟨key, member, pfx⟩
          obtain ⟨present, vni⟩ := Finset.mem_filter.mp member
          have same : key = k := by
            cases key
            cases k
            simp_all
          exact same ▸ present
        · intro present
          exact ⟨k, Finset.mem_filter.mpr ⟨present, rfl⟩, rfl⟩
      by_cases advertised : r.advertised (r.entry k) = []
      · simp [shows, shown, advertised]
      · have present : k ∈ r.routes.keys := by
          rw [mem_keys_iff_lookup]
          by_contra absent
          have missing : r.routes.lookup k = none :=
            eq_none_iff_forall_ne_some.mpr fun e found => absent ⟨e, found⟩
          exact advertised (by simp [RIB.entry, missing, RIB.advertised])
        rw [if_pos (listed.mpr present)]
        simp [shows, shown, advertised, readView, readMsg]
    · rw [if_neg (show ¬ (vni = k.vni /\ r.shows payload k ≠ none) from fun both => own both.1)]
      split
      · dsimp only
        split
        · rfl
        · have other : ({ vni, pfx := k.pfx } : RouteKey) ≠ k :=
            fun same => own (congrArg RouteKey.vni same)
          simp [readView, readMsg, other]
      · rfl
  · intro pfx other view
    dsimp only
    split
    · rfl
    · have foreign : ({ vni, pfx } : RouteKey) ≠ k :=
        fun same => other (congrArg RouteKey.pfx same)
      simp [readView, readMsg, foreign]

lemma subscribe_snapshot (s : Sink) (fresh : r.subscribers k.vni s.id ≠ some s) :
  readView payload k none ((r.subscribe k.vni s).2 s) = r.shows payload k := by
  simp only [subscribe, if_neg fresh, sendSnapshot, if_true]
  rw [readView_append, snapshotRecords_read]
  by_cases absent : r.shows payload k = none
  · simp [absent, readView, readMsg]
  · simp [absent, readView, readMsg]

lemma subscribe_relays (peer : Sink) : Relays payload k s r (r.subscribe vni peer).1 (r.subscribe vni peer).2 := by
  unfold subscribe
  split
  · exact Relays.quiet rfl rfl fun _ => rfl
  next fresh =>
    intro follows
    refine ⟨follows.foreign, .inr ⟨rfl, fun view => ?_⟩⟩
    change readView payload k view (sendSnapshot peer _ s) = view
    unfold sendSnapshot
    split
    next same =>
      subst same
      have other : vni ≠ k.vni := by
        rintro rfl
        exact fresh follows.subscribed
      rw [readView_append, snapshotRecords_read, if_neg (fun both => other both.1)]
      rfl
    · rfl

def RibOp.AnnouncesAs (id : String) (k : RouteKey) : RibOp -> Prop
  | .announce origin vni pfx _ _ => origin = id /\ k = { vni, pfx }
  | _ => False

instance RibOp.AnnouncesAs.decidable (id : String) (k : RouteKey) : ∀ op : RibOp, Decidable (op.AnnouncesAs id k)
  | .announce _ _ _ _ _ => inferInstanceAs (Decidable (_ = _ /\ _ = _))
  | .subscribe _ _ | .unsubscribe _ _ | .withdraw _ _ _ | .setFence _ _ | .clearFence _ _ | .claimOrigin _ _
  | .releaseOrigin _ _ _ | .registerSink _ _ | .announceNat _ _ | .withdrawNat _ _ _ _ _ | .announcePublic _ _
  | .withdrawPublic _ _ _ => isFalse not_false

lemma apply_relays (op : RibOp) (possible : op.Possible r) (foreign : ¬ op.AnnouncesAs s.id k) (kept : op.Kept payload k r) :
  Relays payload k s r (r.apply op).1 (r.apply op).2 := by
  cases op with
  | subscribe vni peer => exact subscribe_relays k s r vni peer
  | unsubscribe vni sinkID => exact Relays.quiet rfl rfl fun _ => rfl
  | announce origin vni pfx nexthops external =>
    refine announce_relays k s r origin vni pfx nexthops external ?_ kept
    simpa [RibOp.AnnouncesAs, <- not_and_or] using foreign
  | withdraw origin vni pfx => exact withdraw_relays k s r origin vni pfx
  | setFence pfx order => exact (setFence_refences r pfx order).relays k s possible
  | clearFence pfx order => exact (clearFence_refences r pfx order).relays k s possible
  | claimOrigin nodeID order => exact claimOrigin_relays k s r nodeID order
  | releaseOrigin nodeID token order => exact releaseOrigin_relays k s r nodeID token order
  | registerSink peer order => exact (registerSink_mute k s r peer order).relays
  | announceNat origin block => exact (announceNat_mute k s r origin block).relays
  | withdrawNat origin natIP portMin portMax permit =>
    exact ((withdrawNat_retires r origin natIP portMin portMax permit).mute k s).relays
  | announcePublic origin record => exact (announcePublic_mute k s r origin record).relays
  | withdrawPublic origin record permit =>
    exact ((withdrawPublic_retires r origin record permit).mute k s).relays

variable (payload) in
abbrev Unmoved (r : RIB) (op : RibOp) : Prop := (r.step op).shows payload k = r.shows payload k

lemma shows_unmoved {k : RouteKey} {r : RIB} {ops : List RibOp} (still : Along step (Unmoved payload k) r ops) :
  (ops.foldl step r).shows payload k = r.shows payload k := by
  induction ops generalizing r with
  | nil => rfl
  | cons op ops ih => exact (ih still.2).trans still.1

lemma Tells.run {k : RouteKey} {r : RIB} {ops : List RibOp} {before view now : Option A} {msgs : List ServerMsg}
  (told : Tells payload k before (r.shows payload k) msgs) (later : now = (ops.foldl step r).shows payload k \/
    Along step (Unmoved payload k) r ops /\ now = readView payload k view msgs) :
  now = (ops.foldl step r).shows payload k \/
    (r.shows payload k = before /\ Along step (Unmoved payload k) r ops) /\ now = view := by
  rcases later with told' | ⟨still, rfl⟩
  · exact .inl told'
  · rcases told with all | ⟨same, mute⟩
    · exact .inl ((all view).trans (shows_unmoved still).symm)
    · exact .inr ⟨⟨same, still⟩, mute view⟩

lemma received_tells (ops : List RibOp) (foreign : (r.entry k).origins.lookup s.id = none)
  (along : Along step (fun r op => (r.subscribers k.vni s.id = some s /\ op.Possible r /\
    ¬ op.AnnouncesAs s.id k) /\ op.Kept payload k r) r ops) (view : Option A) :
  readView payload k view (received s r ops) = (ops.foldl step r).shows payload k \/
    Along step (Unmoved payload k) r ops /\ readView payload k view (received s r ops) = view := by
  induction ops generalizing r view with
  | nil => exact .inr ⟨trivial, rfl⟩
  | cons op ops ih =>
    obtain ⟨⟨⟨subscribed, possible, silent⟩, kept⟩, rest⟩ := along
    obtain ⟨foreign', told⟩ := apply_relays k s r op possible silent kept ⟨subscribed, foreign⟩
    rw [received, readView_append]
    exact told.run (ih _ foreign' rest _)

lemma received_relays (ops : List RibOp) (foreign : (r.entry k).origins.lookup s.id = none)
  (along : Along step (fun r op => (r.subscribers k.vni s.id = some s /\ op.Possible r /\
    ¬ op.AnnouncesAs s.id k) /\ op.Kept payload k r) r ops) :
  readView payload k (r.shows payload k) (received s r ops) = (ops.foldl step r).shows payload k := by
  rcases received_tells k s r ops foreign along (r.shows payload k) with told | ⟨still, kept⟩
  · exact told
  · exact kept.trans (shows_unmoved still).symm

lemma subscriber_reads (k : RouteKey) (s : Sink) (fresh : r.subscribers k.vni s.id ≠ some s)
  (foreign : (r.entry k).origins.lookup s.id = none) (ops : List RibOp)
  (along : Along step (fun r op => (r.subscribers k.vni s.id = some s /\ op.Possible r /\
    ¬ op.AnnouncesAs s.id k) /\ op.Kept payload k r) (r.step (.subscribe k.vni s)) ops) :
  readView payload k none (received s r (.subscribe k.vni s :: ops)) =
    (ops.foldl step (r.step (.subscribe k.vni s))).shows payload k := by
  have entry : (r.step (.subscribe k.vni s)).entry k = r.entry k := by
    simp [step, apply, subscribe, fresh, RIB.entry]
  have view : r.shows payload k = (r.step (.subscribe k.vni s)).shows payload k := by
    simp [step, apply, subscribe, fresh, shows, RIB.entry, advertised]
  rw [received, readView_append]
  change readView payload k (readView payload k none ((r.subscribe k.vni s).2 s)) _ = _
  rw [subscribe_snapshot k r s fresh, view]
  exact received_relays k s _ ops (entry ▸ foreign) along

theorem subscriber_view_eq_advertised (r : RIB) (k : RouteKey) (s : Sink) (fresh : r.subscribers k.vni s.id ≠ some s)
  (foreign : (r.entry k).origins.lookup s.id = none) (ops : List RibOp)
  (along : Along step (fun r op => r.subscribers k.vni s.id = some s /\ op.Possible r /\
    ¬ op.AnnouncesAs s.id k) (r.step (.subscribe k.vni s)) ops) :
  foldView k none (received s r (.subscribe k.vni s :: ops)) = (ops.foldl step (r.step (.subscribe k.vni s))).view k := by
  refine subscriber_reads r k s fresh foreign ops (along.mono fun r op met => ⟨met, ?_⟩)
  cases op <;> simp [RibOp.Kept, shown]

theorem origin_view_stale_after_fence :
  let s : Sink := { id := "n1", session := 1 }
  let k : RouteKey := { vni := 5, pfx := "10.0.0.1/32" }
  let r := newRIB.step (.announce "n1" 5 "10.0.0.1/32" ["fd00::1"] false)
  let fence := RibOp.setFence "fd00::/64" [k]
  Along step (fun r op => r.subscribers k.vni s.id = some s /\ op.Possible r /\
      ¬ op.AnnouncesAs s.id k) (r.step (.subscribe 5 s)) [fence] /\
    foldView k none (received s r [.subscribe 5 s, fence]) = some ["fd00::1"] /\
    ((r.step (.subscribe 5 s)).step fence).view k = none := by
  refine ⟨⟨⟨by decide +kernel, ⟨by simp, fun key => ?_⟩, by simp [RibOp.AnnouncesAs]⟩, trivial⟩,
    by decide +kernel, by decide +kernel⟩
  have keys : ((newRIB.step (.announce "n1" 5 "10.0.0.1/32" ["fd00::1"] false)).step
    (.subscribe 5 { id := "n1", session := 1 })).routes.keys = {{ vni := 5, pfx := "10.0.0.1/32" }} := by
    decide +kernel
  rw [keys]
  simp

theorem subscriber_view_after_withdraw :
  let s : Sink := { id := "n2", session := 2 }
  let k : RouteKey := { vni := 5, pfx := "10.0.0.1/32" }
  let r := newRIB.step (.announce "n1" 5 "10.0.0.1/32" ["fd00::1"] false)
  foldView k none (received s r [.subscribe 5 s, .withdraw "n1" 5 "10.0.0.1/32"]) = none := by
  have view := subscriber_view_eq_advertised (newRIB.step (.announce "n1" 5 "10.0.0.1/32" ["fd00::1"] false))
    { vni := 5, pfx := "10.0.0.1/32" } { id := "n2", session := 2 } (by decide +kernel)
    (by decide +kernel) [.withdraw "n1" 5 "10.0.0.1/32"]
    ⟨⟨by decide +kernel, trivial, by simp [RibOp.AnnouncesAs]⟩, trivial⟩
  refine view.trans ?_
  decide +kernel

def externalFlag (_ : List String) (external : Bool) : Bool := external

theorem follower_flag_eq_snapshot (r : RIB) (k : RouteKey) (s : Sink) (fresh : r.subscribers k.vni s.id ≠ some s)
  (foreign : (r.entry k).origins.lookup s.id = none) (ops : List RibOp)
  (along : Along step (fun r op => (r.subscribers k.vni s.id = some s /\ op.Possible r /\
    ¬ op.AnnouncesAs s.id k) /\ op.Kept externalFlag k r) (r.step (.subscribe k.vni s)) ops)
  (peer : Sink) (unknown : (ops.foldl step (r.step (.subscribe k.vni s))).subscribers k.vni peer.id ≠ some peer) :
  readView externalFlag k none (received s r (.subscribe k.vni s :: ops)) = readView externalFlag k none
      (((ops.foldl step (r.step (.subscribe k.vni s))).subscribe k.vni peer).2 peer) := by
  rw [subscriber_reads r k s fresh foreign ops along, subscribe_snapshot k _ peer unknown]

theorem follower_flag_after_withdraw :
  let s : Sink := { id := "n3", session := 3 }
  let k : RouteKey := { vni := 5, pfx := "10.0.0.1/32" }
  let r := newRIB.step (.announce "n1" 5 "10.0.0.1/32" ["fd00::1"] false)
  let ops : List RibOp :=
    [.announce "n2" 5 "10.0.0.1/32" ["fd00::2"] true, .withdraw "n1" 5 "10.0.0.1/32"]
  readView externalFlag k none (received s r (.subscribe 5 s :: ops)) = some true := by
  have flag := follower_flag_eq_snapshot (newRIB.step (.announce "n1" 5 "10.0.0.1/32" ["fd00::1"] false))
    { vni := 5, pfx := "10.0.0.1/32" } { id := "n3", session := 3 } (by decide +kernel)
    (by decide +kernel)
    [.announce "n2" 5 "10.0.0.1/32" ["fd00::2"] true, .withdraw "n1" 5 "10.0.0.1/32"]
    ⟨⟨⟨by decide +kernel, trivial, by simp [RibOp.AnnouncesAs]⟩, fun _ => by decide +kernel⟩,
      ⟨⟨by decide +kernel, trivial, by simp [RibOp.AnnouncesAs]⟩, trivial⟩, trivial⟩
    { id := "n4", session := 4 } (by decide +kernel)
  refine flag.trans ?_
  decide +kernel

theorem follower_flag_stale_after_reannounce :
  let s : Sink := { id := "n3", session := 3 }
  let peer : Sink := { id := "n4", session := 4 }
  let k : RouteKey := { vni := 5, pfx := "10.0.0.1/32" }
  let r := newRIB.step (.announce "n1" 5 "10.0.0.1/32" ["fd00::1"] false)
  let again := RibOp.announce "n1" 5 "10.0.0.1/32" ["fd00::1"] true
  Along step (fun r op => r.subscribers k.vni s.id = some s /\ op.Possible r /\
      ¬ op.AnnouncesAs s.id k) (r.step (.subscribe 5 s)) [again] /\
    readView externalFlag k none (received s r [.subscribe 5 s, again]) = some false /\
    readView externalFlag k none ((((r.step (.subscribe 5 s)).step again).subscribe 5 peer).2 peer) = some true := by
  refine ⟨⟨⟨by decide +kernel, trivial, by simp [RibOp.AnnouncesAs]⟩, trivial⟩, by decide +kernel, by decide +kernel⟩

lemma received_append (s : Sink) (r : RIB) (ops later : List RibOp) :
  received s r (ops ++ later) = received s r ops ++ received s (ops.foldl step r) later := by
  induction ops generalizing r with
  | nil => rfl
  | cons op ops ih => simp only [List.cons_append, received, ih, List.append_assoc, List.foldl_cons]

lemma leave_tells (r : RIB) (s : Sink) (k : RouteKey) (subscribed : r.subscribers k.vni s.id = some s)
  (origin : ((r.entry k).origins.lookup s.id).isSome) :
  let leave := RibOp.withdraw s.id k.vni k.pfx
  ((r.step leave).entry k).origins.lookup s.id = none /\
    Tells payload k (r.shows payload k) ((r.step leave).shows payload k) ((r.apply leave).2 s) := by
  rcases withdrawRouteOrigin_cases { r with byOrigin := disown r.byOrigin s.id k } s.id k with
    ⟨_, absent⟩ | ⟨e, found, _, body⟩
  · rw [show (r.entry k).origins.lookup s.id = none from absent] at origin
    cases origin
  have before : r.entry k = e := by rw [entry, show r.routes.lookup k = some e from found, getD_some]
  simp only [step, apply, withdraw, body]
  constructor
  · rw [removeOrigin_origins, lookup_erase_ite, if_pos rfl]
  · rw [removeOrigin_shows, shows, before]
    exact fanoutChange_tells _ k _ _ _ s subscribed rfl fun same => same ▸ rfl

-- A withdraw that leaves the advertised nexthops as they are is told to nobody, so a former origin
-- keeps what it held until they change.
theorem former_origin_catches_up (history : List RibOp) (s : Sink) (k : RouteKey) (ops : List RibOp)
  (subscribed : (history.foldl step newRIB).subscribers k.vni s.id = some s)
  (origin : (((history.foldl step newRIB).entry k).origins.lookup s.id).isSome)
  (along : Along step (fun r op => r.subscribers k.vni s.id = some s /\ op.Possible r /\ ¬ op.AnnouncesAs s.id k)
    ((history.foldl step newRIB).step (.withdraw s.id k.vni k.pfx)) ops) :
  let r := history.foldl step newRIB
  let since := .withdraw s.id k.vni k.pfx :: ops
  let held := foldView k none (received s newRIB (history ++ since))
  held = (since.foldl step r).view k \/
    Along step (fun r op => (r.step op).view k = r.view k) r since /\
      held = foldView k none (received s newRIB history) := by
  intro r since held
  obtain ⟨foreign, told⟩ := @leave_tells _ (fun nexthops _ => nexthops) r s k subscribed origin
  have later := @received_tells _ (fun nexthops _ => nexthops) k s _ ops foreign (along.mono fun r op met =>
    ⟨met, by cases op <;> simp [RibOp.Kept, shown]⟩)
  have split : held = readView (fun nexthops _ => nexthops) k (foldView k none (received s newRIB history))
      (received s r since) := by
    simp only [held, received_append]
    exact List.foldl_append
  rw [received, readView_append] at split
  exact told.run (split ▸ later _)

theorem former_origin_keeps_fenced_nexthop :
  let s : Sink := { id := "n1", session := 1 }
  let k : RouteKey := { vni := 5, pfx := "10.0.0.1/32" }
  let ops : List RibOp := [.subscribe 5 s, .announce "n1" 5 k.pfx ["fd00::1"] false,
    .announce "n2" 5 k.pfx ["fd01::1"] false, .setFence "fd00::/64" [k], .withdraw "n1" 5 k.pfx]
  foldView k none (received s newRIB ops) = some ["fd00::1", "fd01::1"] /\
    (ops.foldl step newRIB).view k = some ["fd01::1"] := by
  decide +kernel

theorem former_origin_caught_up :
  let s : Sink := { id := "n1", session := 1 }
  let k : RouteKey := { vni := 5, pfx := "10.0.0.1/32" }
  let history : List RibOp := [.subscribe 5 s, .announce "n1" 5 k.pfx ["fd00::1"] false,
    .announce "n2" 5 k.pfx ["fd01::1"] false, .setFence "fd00::/64" [k]]
  let since : List RibOp := [.withdraw "n1" 5 k.pfx, .announce "n3" 5 k.pfx ["fd02::1"] false, .clearFence "fd00::/64" [k]]
  foldView k none (received s newRIB history) = some ["fd00::1", "fd01::1"] /\
    foldView k none (received s newRIB (history ++ since)) = some ["fd01::1", "fd02::1"] := by
  intro s k history since
  refine ⟨by decide +kernel, ?_⟩
  rcases former_origin_catches_up history s k (since.drop 1) (by decide +kernel) (by decide +kernel)
    (by decide +kernel) with caught | ⟨still, -⟩
  · refine caught.trans ?_
    decide +kernel
  · exact absurd still (by decide +kernel)

end Ectobase.Mesh
