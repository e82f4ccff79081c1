import Ectobase.Mesh.AnnounceAuthz
import Ectobase.Mesh.Supersede

namespace Ectobase.Mesh

open Shared RIB

inductive Stored where
  | nexthop (origin : String) (k : RouteKey) (nh : String)
  | nat (b : NatBlock)
  | pub (rec : PublicRecord)

namespace Stored

def owner : Stored -> String
  | .nexthop _ _ nh => nh
  | .nat b => b.ownerUnderlay
  | .pub rec => rec.ownerUnderlay

def In (r : RIB) : Stored -> Prop
  | .nexthop origin k nh => ∃ nexthops, r.announced origin k = some nexthops /\ nh ∈ nexthops
  | .nat b => r.nat.lookup b.key = some b
  | .pub rec => r.pub.lookup rec.key = some rec

instance (r : RIB) (item : Stored) : Decidable (item.In r) :=
  match item with
  | .nexthop origin k nh =>
    decidable_of_iff (nh ∈ (r.announced origin k).getD []) <| by
      cases announced : r.announced origin k <;> simp [Stored.In, announced]
  | .nat b => inferInstanceAs (Decidable (r.nat.lookup b.key = some b))
  | .pub rec => inferInstanceAs (Decidable (r.pub.lookup rec.key = some rec))

def Under (r : RIB) (id : String) : Stored -> Prop
  | .nexthop origin _ _ => origin = id
  | .nat b => r.natOrigin.lookup b.key = some id
  | .pub rec => r.publicOrigin.lookup rec.key = some id

def NexthopAt (origin : String) (k : RouteKey) : Stored -> Prop
  | .nexthop o k' _ => o = origin /\ k' = k
  | _ => False

def NatAt (k : NatKey) : Stored -> Prop
  | .nat b => b.key = k
  | _ => False

end Stored

def RibOp.MayRemove (r : RIB) (item : Stored) : RibOp -> Prop
  | .announce origin vni pfx _ _ => item.NexthopAt origin { vni, pfx }
  | .withdraw origin vni pfx => item.NexthopAt origin { vni, pfx }
  | .claimOrigin id _ => item.Under r id
  | .releaseOrigin id _ _ => item.Under r id
  | .announceNat _ b => item.NatAt b.key
  | .withdrawNat _ _ _ _ permit => permit item.owner = true
  | .announcePublic _ rec => item.owner = rec.ownerUnderlay
  | .withdrawPublic _ _ permit => permit item.owner = true
  | _ => False

def Stored.place : Stored -> Place
  | .nexthop origin k _ => .route origin k
  | .nat b => .nat b.key
  | .pub rec => .pub rec.key

def Stored.PartOf : Stored -> Content -> Prop
  | .nexthop _ _ nh, .route nexthops => nh ∈ nexthops
  | .nat b, .nat stored => stored = b
  | .pub rec, .pub stored => stored = rec
  | _, _ => False

def Stored.Held (r : RIB) (id : String) (item : Stored) : Prop :=
  ∃ content, r.slot item.place = (some id, some content) /\ item.PartOf content

section

variable {r : RIB} {item : Stored} {id : String} {op : RibOp} {content : Content}

lemma Stored.in_iff : item.In r ↔ ∃ content, (r.slot item.place).2 = some content /\ item.PartOf content := by
  cases item <;> simp [Stored.In, Stored.place, RIB.slot, Stored.PartOf, natTable, publicTable, OwnedTable.slot]

lemma Stored.under_iff : item.Under r id ↔ (r.slot item.place).1 = some id := by
  cases item <;> simp [Stored.Under, Stored.place, RIB.slot, natTable, publicTable, OwnedTable.slot]

lemma Stored.held_of_in (under : item.Under r id) (here : item.In r) : item.Held r id := by
  obtain ⟨content, stored, part⟩ := Stored.in_iff.mp here
  exact ⟨content, Prod.ext (Stored.under_iff.mp under) stored, part⟩

lemma Stored.PartOf.owner_mem (part : item.PartOf content) : item.owner ∈ content.owners := by
  cases item <;> cases content <;> simp_all [Stored.PartOf, Stored.owner, Content.owners]

lemma Stored.PartOf.covers {g : UnderlayGuard} (part : item.PartOf content) (covered : content.CoveredBy g) :
  g.Covers item.owner := by
  cases item <;> cases content <;> simp_all [Stored.PartOf, Stored.owner, Content.CoveredBy, UnderlayGuard.CoversPublic]

lemma mayRemove_of_written {o : String} (written : op.writes item.place = some (o, content)) : op.MayRemove r item := by
  cases op with
  | announce =>
    cases item with
    | nexthop => exact And.comm.mp (Option.ite_none_right_eq_some.mp written).1
    | nat | pub => cases written
  | announceNat =>
    cases item with
    | nat => exact (Option.ite_none_right_eq_some.mp written).1
    | nexthop | pub => cases written
  | announcePublic =>
    cases item with
    -- The owner is part of the key, so whoever announces over the record speaks for its owner.
    | pub => exact (PublicKey.mk.inj (Option.ite_none_right_eq_some.mp written).1).2.2.1
    | nexthop | nat => cases written
  | _ => cases item <;> cases written

lemma mayRemove_of_gone (held : item.In r) (gone : ¬ item.In (r.step op)) : op.MayRemove r item := by
  obtain ⟨content, stored, part⟩ := Stored.in_iff.mp held
  have slot := step_slot r item.place op
  cases written : op.writes item.place with
  | some => exact mayRemove_of_written written
  | none =>
    rw [written] at slot
    rcases slot with same | ⟨-, clears⟩
    · exact absurd (Stored.in_iff.mpr ⟨content, same ▸ stored, part⟩) gone
    cases op with
    | withdraw =>
      cases item with
      | nexthop => exact ⟨(Place.route.inj clears).1, (Place.route.inj clears).2⟩
      | nat | pub => cases clears
    | claimOrigin | releaseOrigin => exact Stored.under_iff.mpr clears
    | withdrawNat | withdrawPublic => exact clears content stored _ part.owner_mem
    | _ => exact clears.elim

lemma held_before (held : item.Held (r.step op) id) :
  item.Held r id \/ ∃ content, op.writes item.place = some (id, content) /\ item.PartOf content := by
  obtain ⟨content, stored, part⟩ := held
  have slot := step_slot r item.place op
  cases written : op.writes item.place with
  | some here =>
    rw [written] at slot
    obtain ⟨same, now⟩ := Prod.mk.inj (slot.symm.trans stored)
    exact .inr ⟨here.2, by rw [<- Option.some.inj same], Option.some.inj now ▸ part⟩
  | none =>
    rw [written] at slot
    rcases slot with same | ⟨cleared, -⟩
    · exact .inl ⟨content, same ▸ stored, part⟩
    · rw [stored] at cleared
      cases cleared

end

section

def Hub.Current (h : Hub) (s : Session) : Prop := h.rib.origins.lookup s.sink.id = some s.token

def Hub.undisputed (h : Hub) : HubEvent -> Bool
  | .receive conn _ _ =>
    match h.streams conn with
    | some { guard := _, state := .running s } => h.rib.origins.lookup s.sink.id = some s.token
    | _ => true
  | _ => true

-- No session speaks once another one has declared its node id, and the loops visit what they have to.
structure Hub.Admits (h : Hub) (e : HubEvent) : Prop where
  authenticated : e.Authenticated
  possible : ∀ op ∈ h.op e, op.Possible h.rib
  undisputed : h.undisputed e = true

instance (e : HubEvent) : Decidable e.Authenticated :=
  match e with
  | .connect _ guard => inferInstanceAs (Decidable (guard.enforce = true))
  | .receive _ _ _ | .register _ _ | .disconnect _ _ | .setFence _ _ | .clearFence _ _ => isTrue trivial

instance (h : Hub) (e : HubEvent) : Decidable (h.Admits e) :=
  decidable_of_iff (_ /\ _ /\ _) ⟨fun ⟨authenticated, possible, undisputed⟩ => ⟨authenticated, possible, undisputed⟩,
    fun admits => ⟨admits.authenticated, admits.possible, admits.undisputed⟩⟩

structure Hub.Settled (h : Hub) : Prop extends h.Guarded where
  indexed : h.rib.Indexed
  token : ∀ {conn guard s}, h.Runs conn guard s -> s.token <= h.rib.nextToken
  single : ∀ {conn conn' guard guard' s s'}, h.Runs conn guard s -> h.Runs conn' guard' s' -> s.token = s'.token -> conn = conn'
  claimed : ∀ {item id}, Stored.Held h.rib id item -> (h.rib.origins.lookup id).isSome
  covered : ∀ {conn guard s item}, h.Runs conn guard s -> h.Current s -> Stored.Held h.rib s.sink.id item ->
    guard.Covers item.owner

variable {h h' : Hub} {item : Stored} {conn : Nat} {guard : UnderlayGuard} {s : Session}

lemma Hub.start_settled : Hub.start.Settled where
  enforced _ _ found := by cases found
  own _ _ _ found := by cases found
  indexed := newRIB_indexed
  token found := by cases found
  single found := by cases found
  claimed {item id} held := by
    obtain ⟨content, stored, -⟩ := held
    cases item <;> simp [Stored.place, RIB.slot, Hub.start, newRIB, announced, entry, natTable, publicTable, OwnedTable.slot] at stored
  covered found := by cases found

lemma Hub.Settled.keep (settled : h.Settled) (guarded : h'.Guarded) (runs : ∀ conn guard s, h'.Runs conn guard s -> h.Runs conn guard s)
  (indexed : h'.rib.Indexed) (origins : h'.rib.origins = h.rib.origins) (next : h'.rib.nextToken = h.rib.nextToken)
  (held : ∀ item id, Stored.Held h'.rib id item -> Stored.Held h.rib id item \/
    ∃ conn guard s, h.Runs conn guard s /\ h.Current s /\ s.sink.id = id /\ guard.Covers item.owner) : h'.Settled where
  toGuarded := guarded
  indexed := indexed
  token found := next ▸ settled.token (runs _ _ _ found)
  single found found' := settled.single (runs _ _ _ found) (runs _ _ _ found')
  claimed {item id} here := by
    rw [origins]
    rcases held item id here with before | ⟨-, -, s, -, current, rfl, -⟩
    · exact settled.claimed before
    · exact Option.isSome_of_eq_some current
  covered {conn guard s item} found current here := by
    have current : h.Current s := by rwa [Hub.Current, origins] at current
    rcases held item _ here with before | ⟨conn', guard', s', found', current', same, covers⟩
    · exact settled.covered (runs _ _ _ found) current before
    · -- The token of a node id is that of one session.
      have token : s'.token = s.token := by
        rw [Hub.Current, same] at current'
        exact Option.mem_unique current' current
      obtain rfl := settled.single found' (runs _ _ _ found) token
      have stream := Option.mem_unique found' (runs _ _ _ found)
      exact (Stream.mk.inj stream).1 ▸ covers

lemma unheld_of_empty {r : RIB} {id : String} (empty : r.holdings id = Holdings.none) : ¬ item.Held r id := by
  rintro ⟨content, stored, -⟩
  cases item with
  | nexthop origin k nh =>
    obtain ⟨rfl, announced⟩ : origin = id /\ (r.announced origin k).map Content.route = some content := by
      simpa [Stored.place, RIB.slot] using stored
    have none := congrFun (congrArg Holdings.routes empty) k
    simp only [holdings, Holdings.none, Option.map_eq_none_iff] at none
    simp [none] at announced
  | nat b =>
    have none : r.natTable.heldBy id b.key = none := congrFun (congrArg Holdings.nat empty) b.key
    simp only [Stored.place, RIB.slot, Prod.ext_iff, Prod.map_fst, Prod.map_snd, id_eq, Option.map_eq_some_iff] at stored
    obtain ⟨owner, v, found, -⟩ := stored
    simp [OwnedTable.heldBy, owner, found] at none
  | pub rec =>
    have none : r.publicTable.heldBy id rec.key = none := congrFun (congrArg Holdings.pub empty) rec.key
    simp only [Stored.place, RIB.slot, Prod.ext_iff, Prod.map_fst, Prod.map_snd, id_eq, Option.map_eq_some_iff] at stored
    obtain ⟨owner, v, found, -⟩ := stored
    simp [OwnedTable.heldBy, owner, found] at none

lemma runs_turn {state : StreamState} (turned : h'.streams = Function.update h.streams conn (some { guard, state }))
  {conn' : Nat} {guard' : UnderlayGuard} {s' : Session} (runs : h'.Runs conn' guard' s') :
  conn' = conn /\ guard' = guard /\ state = .running s' \/ h.Runs conn' guard' s' := by
  rw [Hub.Runs, turned, Function.update_apply] at runs
  split at runs
  next here =>
    obtain ⟨rfl, rfl⟩ := Stream.mk.inj (Option.some.inj runs)
    exact .inl ⟨here, rfl, rfl⟩
  · exact .inr runs

lemma Hub.Settled.hello (settled : h.Settled) (guarded : h'.Guarded) {nodeID : String} {claim : DropOrder}
  (turned : h'.streams = Function.update h.streams conn (some { guard, state := .running (h.session conn guard nodeID) }))
  (rib : h'.rib = h.rib.step (.claimOrigin nodeID claim)) (visits : claim.Enumerates h.rib nodeID) : h'.Settled := by
  obtain ⟨next, origins⟩ := claimOrigin_current h.rib nodeID claim
  have before {item : Stored} {id : String} (held : item.Held h'.rib id) : item.Held h.rib id := by
    rw [rib] at held
    refine (held_before held).resolve_right ?_
    rintro ⟨content, written, -⟩
    cases item <;> cases written
  -- What was stored under the node id is gone, and without a session there was nothing.
  have unheld {item : Stored} (held : item.Held h'.rib nodeID) : False := by
    have claimed := settled.claimed (before held)
    rw [rib] at held
    exact unheld_of_empty (claimOrigin_holdings h.rib settled.indexed nodeID claim visits claimed).1 held
  have lookup (id : String) : h'.rib.origins.lookup id = if id = nodeID then some (h.rib.nextToken + 1) else h.rib.origins.lookup id := by
    rw [rib, RIB.step, apply, origins, lookup_insert_ite]
  have next : h'.rib.nextToken = h.rib.nextToken + 1 := by rw [rib]; exact next
  have older {conn' : Nat} {guard' : UnderlayGuard} {s' : Session} (runs : h.Runs conn' guard' s') :
      s'.token ≠ h.rib.nextToken + 1 := by
    have := settled.token runs
    omega
  refine ⟨guarded, rib ▸ step_indexed h.rib _ settled.indexed visits, fun runs => ?_, fun runs runs' same => ?_, fun held => ?_,
    fun runs current held => ?_⟩
  · rcases runs_turn turned runs with ⟨-, -, same⟩ | runs
    · cases same
      exact next.ge
    · exact (settled.token runs).trans ((Nat.le_succ _).trans next.ge)
  · rcases runs_turn turned runs with ⟨at_, -, here⟩ | before <;> rcases runs_turn turned runs' with ⟨at', -, here'⟩ | before'
    · rw [at_, at']
    · exact absurd (same.symm.trans (congrArg Session.token (StreamState.running.inj here)).symm) (older before')
    · exact absurd (same.trans (congrArg Session.token (StreamState.running.inj here')).symm) (older before)
    · exact settled.single before before' same
  · rw [lookup]
    split
    · rfl
    · exact settled.claimed (before held)
  · rw [Hub.Current, lookup] at current
    split at current
    next own => exact absurd (own ▸ held) unheld
    · rcases runs_turn turned runs with ⟨-, -, same⟩ | runs
      · cases same
        exact absurd held unheld
      · exact settled.covered runs current (before held)

lemma release_current {r : RIB} {id : String} {token : Nat} (indexed : r.Indexed) {visit : DropOrder} (visits : visit.Enumerates r id)
  (current : r.origins.lookup id = some token) : let left := r.step (.releaseOrigin id token visit)
  left.holdings id = Holdings.none /\ left.origins = r.origins.erase id /\ left.nextToken = r.nextToken := by
  simp only [step, apply, releaseOrigin, if_neg (not_not_intro current)]
  obtain ⟨empty, -, origins⟩ := dropOriginLocked_holdings r indexed id visit visits (r.origins.erase id) r.nextToken
  obtain ⟨routes, natSnap, snap, eq, -⟩ :=
    dropOriginLocked_eq (RIB.deleteSink { r with origins := r.origins.erase id } id) id visit
  exact ⟨empty, origins, by rw [eq]; rfl⟩

section

variable (settled : h.Settled) (guarded : h'.Guarded) (fewer : ∀ conn guard s, h'.Runs conn guard s -> h.Runs conn guard s)

include settled guarded fewer

lemma Hub.Settled.release {visit : DropOrder} (visits : visit.Enumerates h.rib s.sink.id)
  (rib : h'.rib = h.rib.step (.releaseOrigin s.sink.id s.token visit)) : h'.Settled := by
  by_cases current : h.Current s
  · obtain ⟨empty, origins, next⟩ := release_current settled.indexed visits current
    rw [<- rib] at empty origins next
    have before {item : Stored} {id : String} (held : item.Held h'.rib id) : item.Held h.rib id := by
      rw [rib] at held
      refine (held_before held).resolve_right ?_
      rintro ⟨content, written, -⟩
      cases item <;> cases written
    refine ⟨guarded, rib ▸ step_indexed h.rib _ settled.indexed visits, fun runs => ?_, fun runs runs' =>
      settled.single (fewer _ _ _ runs) (fewer _ _ _ runs'), fun {item id} held => ?_, fun runs current' held => ?_⟩
    · exact (settled.token (fewer _ _ _ runs)).trans next.ge
    · rw [origins, lookup_erase_ite]
      split
      next own => exact absurd (own ▸ held) (unheld_of_empty empty)
      · exact settled.claimed (before held)
    · rw [Hub.Current, origins, lookup_erase_ite] at current'
      split at current'
      · cases current'
      · exact settled.covered (fewer _ _ _ runs) current' (before held)
  · have same : h'.rib = h.rib := by
      simp only [rib, RIB.step, apply, releaseOrigin, if_pos (show h.rib.origins.lookup s.sink.id ≠ some s.token from current)]
    exact settled.keep guarded fewer (same ▸ settled.indexed) (by rw [same]) (by rw [same]) fun _ _ held => .inl (same ▸ held)

lemma Hub.Settled.perform {e : HubEvent} (admits : h.Admits e) (rib : h'.rib = h.rib.perform (h.op e))
  (unclaimed : ∀ op ∈ h.op e, op.claims = false) : h'.Settled := by
  cases performed : h.op e with
  | none =>
    have same : h'.rib = h.rib := by rw [rib, performed]; rfl
    exact settled.keep guarded fewer (same ▸ settled.indexed) (by rw [same]) (by rw [same]) fun _ _ held => .inl (same ▸ held)
  | some op =>
    have same : h'.rib = h.rib.step op := by rw [rib, performed]; rfl
    obtain ⟨origins, next⟩ := step_origins h.rib (unclaimed op performed)
    refine settled.keep guarded fewer (same ▸ step_indexed h.rib op settled.indexed (admits.possible op performed))
      (by rw [same, origins]) (by rw [same, next]) fun item id held => ?_
    refine (held_before (same ▸ held)).imp_right ?_
    rintro ⟨content, written, part⟩
    obtain ⟨guard, s, runs, rfl, covered, msg, claim, received⟩ := op_covers settled.toGuarded performed written
    have current := admits.undisputed
    have found : h.streams e.conn = some { guard, state := .running s } := runs
    rw [received] at current
    simp only [Hub.undisputed, found, decide_eq_true_eq] at current
    exact ⟨e.conn, guard, s, runs, current, rfl, part.covers covered⟩

end

lemma step_settled (settled : h.Settled) {e : HubEvent} (admits : h.Admits e) : (h.step e).Settled := by
  have guarded := step_guarded settled.toGuarded admits.authenticated
  obtain ⟨rib, -, turns⟩ := step_parts h e
  have possible := admits.possible
  generalize after : (h.step e).streams = streams at turns
  have fewer {conn : Nat} {guard : UnderlayGuard} {state : StreamState} (idle : ∀ s, state ≠ .running s)
      (turned : (h.step e).streams = Function.update h.streams conn (some { guard, state }))
      (conn' : Nat) (guard' : UnderlayGuard) (s : Session) (runs : (h.step e).Runs conn' guard' s) : h.Runs conn' guard' s :=
    (runs_turn turned runs).resolve_left fun here => idle s here.2.2
  cases turns with
  | same unclaimed => exact settled.perform guarded (fun _ _ _ runs => by rwa [Hub.Runs, after] at runs) admits rib unclaimed
  | opens => exact settled.perform guarded (fewer (fun _ same => by cases same) after) admits rib (fun _ none => by cases none)
  | ends found released =>
    have fewer := fewer (fun _ same => by cases same) after
    cases performed : h.op e with
    | none => exact settled.perform guarded fewer admits rib (by simp [performed])
    | some op =>
      obtain ⟨s, visit, rfl⟩ := released op performed
      rw [performed] at rib
      exact settled.release guarded fewer (possible _ performed) rib
  | @hello conn guard nodeID claim found named =>
    have performed : h.op (.receive conn (.hello nodeID) claim) = some (.claimOrigin nodeID claim) := by
      simp only [Hub.op, found, if_neg named]
    rw [performed] at rib
    exact settled.hello guarded after rib (possible _ performed)

-- Who may have an item taken away, beside a session whose certificate names its owner: a session that declares
-- the node id it is stored under, and one that announces the same NAT block. What ends with a session is its own.
def Hub.Entitled (h : Hub) (item : Stored) : HubEvent -> Prop
  | .receive conn msg _ =>
    ∃ stream, h.streams conn = some stream /\ (stream.guard.Covers item.owner \/ match stream.state, msg with
        | .waiting, .hello id => item.Under h.rib id
        | .running _, .announceNat b => item.NatAt b.key
        | _, _ => False)
  | .disconnect conn _ =>
    ∃ guard s, h.Runs conn guard s /\ h.Current s /\ item.Under h.rib s.sink.id /\ guard.Covers item.owner
  | _ => False

lemma entitled_of_gone (settled : h.Settled) (held : item.In h.rib) {e : HubEvent} (admits : h.Admits e)
  (gone : ¬ item.In (h.step e).rib) : h.Entitled item e := by
  rw [(step_parts h e).1] at gone
  cases performed : h.op e with
  | none =>
    rw [performed] at gone
    exact absurd held gone
  | some op =>
  rw [performed] at gone
  have removes : op.MayRemove h.rib item := mayRemove_of_gone held gone
  cases e with
  | connect => cases performed
  | setFence | clearFence =>
    cases performed
    exact removes.elim
  | register conn replay =>
    rcases found : h.streams conn with - | ⟨guard, - | s | -⟩ <;> simp only [Hub.op, found, reduceCtorEq] at performed
    cases performed
    exact removes.elim
  | disconnect conn visit =>
    rcases found : h.streams conn with - | ⟨guard, - | s | -⟩ <;> simp only [Hub.op, found, reduceCtorEq] at performed
    cases performed
    have current : h.Current s := by
      by_contra stale
      refine gone ?_
      simp only [RIB.perform, RIB.step, apply, releaseOrigin,
        if_pos (show h.rib.origins.lookup s.sink.id ≠ some s.token from stale)]
      exact held
    exact ⟨guard, s, found, current, removes, settled.covered found current (Stored.held_of_in removes held)⟩
  | receive conn msg claim =>
    have undisputed := admits.undisputed
    rcases found : h.streams conn with - | ⟨guard, - | s | -⟩ <;> simp only [Hub.op, found, reduceCtorEq] at performed
    · cases msg with
      | hello nodeID =>
        obtain ⟨-, same⟩ := Option.ite_none_left_eq_some.mp performed
        cases same
        exact ⟨_, found, .inr removes⟩
      | _ => cases performed
    · simp only [Hub.undisputed, found, decide_eq_true_eq] at undisputed
      have own := settled.own conn guard s found
      have covers {underlay : String} (permitted : s.guard.permits underlay = true) : guard.Covers underlay :=
        own ▸ (permits_iff (own ▸ settled.enforced conn _ found)).mp permitted
      have mine {k : RouteKey} (here : item.NexthopAt s.sink.id k) : guard.Covers item.owner := by
        cases item with
        | nexthop origin key nh =>
          obtain ⟨rfl, rfl⟩ := here
          exact settled.covered found undisputed (Stored.held_of_in rfl held)
        | nat | pub => exact here.elim
      refine ⟨_, found, ?_⟩
      cases msg with
      | hello | keepAlive => cases performed
      | subscribe | unsubscribe =>
        cases performed
        exact removes.elim
      | withdraw =>
        cases performed
        exact .inl (mine removes)
      | withdrawNat | withdrawPublic =>
        cases performed
        exact .inl (covers removes)
      | announce =>
        obtain ⟨-, same⟩ := Option.ite_none_right_eq_some.mp performed
        cases same
        exact .inl (mine removes)
      | announceNat =>
        obtain ⟨-, same⟩ := Option.ite_none_right_eq_some.mp performed
        cases same
        exact .inr removes
      | announcePublic rec =>
        obtain ⟨permitted, same⟩ := Option.ite_none_right_eq_some.mp performed
        cases same
        have owner : item.owner = rec.ownerUnderlay := removes
        rw [owner]
        simp only [Session.permitsPublic, Bool.and_eq_true] at permitted
        exact .inl (covers permitted.1)

end

-- Whatever mutually authenticated sessions send, in whatever order, as long as none of them speaks for a node id
-- that another one has declared since: what is stored goes away only through someone entitled to it.
theorem removals_entitled {events : List HubEvent} (admitted : Along Hub.step Hub.Admits Hub.start events)
  (e : HubEvent) (admits : (events.foldl Hub.step Hub.start).Admits e) (item : Stored)
  (held : item.In (events.foldl Hub.step Hub.start).rib)
  (gone : ¬ item.In ((events.foldl Hub.step Hub.start).step e).rib) :
  (events.foldl Hub.step Hub.start).Entitled item e := by
  have keep (h : Hub) (e : HubEvent) (settled : h.Settled) (admits : h.Admits e) : (h.step e).Settled :=
    step_settled settled admits
  have settled : (events.foldl Hub.step Hub.start).Settled := Along.invariant keep Hub.start_settled admitted
  exact entitled_of_gone settled held admits gone

def sharedRoute : Stored := .nexthop "node" { vni := 7, pfx := "10.0.0.0/24" } "fd00::1"

def sharedBlock (owner : String) : NatBlock where
  vni := 7
  sourceIP := "10.0.0.5"
  natIP := "192.0.2.1"
  portMin := 1024
  portMax := 2048
  ownerUnderlay := owner

def sharedNode : List HubEvent := [.connect 0 (certificate 1), .receive 0 (.hello "node") noOrder,
  .connect 1 (certificate 2), .receive 1 (.hello "edge") noOrder, .connect 2 (certificate 3),
  .receive 0 (.announce 7 "10.0.0.0/24" "fd00::1" [] false) noOrder,
  .receive 0 (.announceNat (sharedBlock "fd00::1")) noOrder]

def sharedOrder : DropOrder where
  routes := [{ vni := 7, pfx := "10.0.0.0/24" }]
  nat := [{ natIP := "192.0.2.1", portMin := 1024 }]
  pub := []

-- A third session's Hello removes the route of the first one's address, and the second session takes its block.
theorem foreign_removals :
  let hub := sharedNode.foldl Hub.step Hub.start
  let hello : HubEvent := .receive 2 (.hello "node") sharedOrder
  let takeover : HubEvent := .receive 1 (.announceNat (sharedBlock "fd00::2")) noOrder
  (Along Hub.step Hub.Admits Hub.start sharedNode /\ hub.Admits hello /\ hub.Admits takeover) /\
    (¬ (certificate 2).Covers "fd00::1" /\ ¬ (certificate 3).Covers "fd00::1") /\
    (sharedRoute.In hub.rib /\ ¬ sharedRoute.In (hub.step hello).rib) /\
    (Stored.nat (sharedBlock "fd00::1")).In hub.rib /\ ¬ (Stored.nat (sharedBlock "fd00::1")).In (hub.step takeover).rib := by
  refine ⟨by decide +kernel, ⟨?_, ?_⟩, by decide +kernel⟩
  · rw [<- permits_iff rfl]
    decide +kernel
  · rw [<- permits_iff rfl]
    decide +kernel

theorem shared_route_entitled : let hub := sharedNode.foldl Hub.step Hub.start
  let leave : HubEvent := .disconnect 0 sharedOrder
  sharedRoute.In hub.rib /\ ¬ sharedRoute.In (hub.step leave).rib /\ hub.Entitled sharedRoute leave := by
  intro hub leave
  have held : sharedRoute.In hub.rib := by decide +kernel
  have gone : ¬ sharedRoute.In (hub.step leave).rib := by decide +kernel
  exact ⟨held, gone, removals_entitled (by decide +kernel) leave (by decide +kernel) sharedRoute held gone⟩

end Ectobase.Mesh
