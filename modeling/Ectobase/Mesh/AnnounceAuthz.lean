import Ectobase.Mesh.Holdings

namespace Ectobase.Mesh

open Shared Function RIB

inductive StreamState where
  | waiting
  | running (s : Session)
  | ended

structure Stream where
  guard : UnderlayGuard
  state : StreamState

structure Announcers where
  route : String -> RouteKey -> Option Nat
  nat : NatKey -> Option Nat
  pub : PublicKey -> Option Nat

-- The announcers are kept for reasoning only: nothing reads them.
structure Hub where
  rib : RIB
  streams : Nat -> Option Stream
  announcers : Announcers

def Hub.start : Hub where
  rib := newRIB
  streams _ := none
  announcers := { route := fun _ _ => none, nat := fun _ => none, pub := fun _ => none }

-- claim, replay, visit and order are the orders in which the table's loops run.
inductive HubEvent where
  | connect (conn : Nat) (guard : UnderlayGuard)
  | receive (conn : Nat) (msg : ClientMsg) (claim : DropOrder)
  -- A session that did not opt out of the global feed registers for it after its Hello.
  | register (conn : Nat) (replay : SnapshotOrder)
  | disconnect (conn : Nat) (visit : DropOrder)
  | setFence (pfx : String) (order : List RouteKey)
  | clearFence (pfx : String) (order : List RouteKey)

def Announcers.note (a : Announcers) (conn : Nat) : Option RibOp -> Announcers
  | some (.announce origin vni pfx _ _) =>
    { a with
      route := fun o k =>
        if k = { vni, pfx } /\ o = origin then some conn else a.route o k }
  | some (.announceNat _ b) => { a with nat := update a.nat b.key (some conn) }
  | some (.announcePublic _ rec) => { a with pub := update a.pub rec.key (some conn) }
  | _ => a

namespace Hub

def setState (h : Hub) (conn : Nat) (stream : Stream) : Hub :=
  { h with streams := update h.streams conn (some stream) }

def hello (h : Hub) (conn : Nat) (guard : UnderlayGuard) (msg : ClientMsg) (claim : DropOrder) :
  Hub :=
  match msg with
  | .hello nodeID =>
    if nodeID = "" then h.setState conn { guard, state := .ended }
    else
      let s : Session :=
        { sink := { id := nodeID, session := conn }, token := h.rib.nextToken + 1, guard }
      { h.setState conn { guard, state := .running s } with
        rib := h.rib.step (.claimOrigin nodeID claim) }
  | _ => h.setState conn { guard, state := .ended }

def step (h : Hub) : HubEvent -> Hub
  | .connect conn guard =>
    match h.streams conn with
    | none => h.setState conn { guard, state := .waiting }
    | some _ => h
  | .receive conn msg claim =>
    match h.streams conn with
    | some { guard, state := .waiting } => h.hello conn guard msg claim
    | some { guard := _, state := .running s } =>
      { h with
        rib := h.rib.perform (s.op msg)
        announcers := h.announcers.note conn (s.op msg) }
    | _ => h
  | .register conn replay =>
    match h.streams conn with
    | some { guard := _, state := .running s } =>
      { h with rib := h.rib.step (.registerSink s.sink replay) }
    | _ => h
  | .disconnect conn visit =>
    match h.streams conn with
    | some { guard, state := .running s } =>
      { h.setState conn { guard, state := .ended } with
        rib := h.rib.step (.releaseOrigin s.sink.id s.token visit) }
    | some { guard, state := _ } => h.setState conn { guard, state := .ended }
    | none => h
  | .setFence pfx order => { h with rib := h.rib.step (.setFence pfx order) }
  | .clearFence pfx order => { h with rib := h.rib.step (.clearFence pfx order) }

end Hub

def UnderlayGuard.Names (g : UnderlayGuard) (ip : List UInt8) : Prop :=
  ∃ san ∈ g.allowed, ipEqual san ip = true

def UnderlayGuard.Covers (g : UnderlayGuard) (underlay : String) : Prop :=
  ∃ ip, parseIP underlay = some ip /\ g.Names ip

def UnderlayGuard.CoversPublic (g : UnderlayGuard) (rec : PublicRecord) : Prop :=
  g.Covers rec.ownerUnderlay /\ (rec.kind = .edgeUnderlay -> ∃ addr, hostAddr rec.pfx = some addr /\ g.Names addr)

def Hub.Certified (h : Hub) (announcer : Option Nat) (P : UnderlayGuard -> Prop) : Prop :=
  ∃ conn stream, announcer = some conn /\ h.streams conn = some stream /\ P stream.guard

structure Hub.Authorised (h : Hub) : Prop where
  routes : ∀ origin k nexthops, (h.rib.entry k).origins.lookup origin = some nexthops ->
    h.Certified (h.announcers.route origin k) fun g => ∀ nh ∈ nexthops, g.Covers nh
  nat : ∀ k b, h.rib.nat.lookup k = some b ->
    h.Certified (h.announcers.nat k) fun g => g.Covers b.ownerUnderlay
  pub : ∀ k rec, h.rib.pub.lookup k = some rec ->
    h.Certified (h.announcers.pub k) fun g => g.CoversPublic rec

def HubEvent.Authenticated : HubEvent -> Prop
  | .connect _ guard => guard.enforce = true
  | _ => True

section

variable {g : UnderlayGuard}

lemma permitsIP_iff (enforced : g.enforce = true) {ip : Option (List UInt8)} :
  g.permitsIP ip = true ↔ ∃ addr, ip = some addr /\ g.Names addr := by
  cases ip with
  | none => simp [UnderlayGuard.permitsIP, enforced]
  | some ip => simp [UnderlayGuard.permitsIP, enforced, UnderlayGuard.Names]

lemma permits_iff (enforced : g.enforce = true) {underlay : String} : g.permits underlay = true ↔ g.Covers underlay :=
  permitsIP_iff enforced

lemma permitsPublic_covers {s : Session} (enforced : s.guard.enforce = true) {rec : PublicRecord}
  (permitted : s.permitsPublic rec = true) : s.guard.CoversPublic rec := by
  simp only [Session.permitsPublic, Bool.and_eq_true, Bool.or_eq_true, decide_eq_true_eq] at permitted
  refine ⟨(permits_iff enforced).mp permitted.1, fun edge => ?_⟩
  exact (permitsIP_iff enforced).mp (permitted.2.resolve_left fun other => other edge)

end

-- The places of the tables, and what stands there.
inductive Place where
  | route (origin : String) (k : RouteKey)
  | nat (k : NatKey)
  | pub (k : PublicKey)

inductive Content where
  | route (nexthops : List String)
  | nat (b : NatBlock)
  | pub (rec : PublicRecord)

def Content.owners : Content -> List String
  | .route nexthops => nexthops
  | .nat b => [b.ownerUnderlay]
  | .pub rec => [rec.ownerUnderlay]

def Content.CoveredBy (g : UnderlayGuard) : Content -> Prop
  | .route nexthops => ∀ nh ∈ nexthops, g.Covers nh
  | .nat b => g.Covers b.ownerUnderlay
  | .pub rec => g.CoversPublic rec

def RIB.slot (r : RIB) : Place -> Option String × Option Content
  | .route o k => (some o, (r.announced o k).map .route)
  | .nat k => (r.natTable.slot k).map id (Option.map .nat)
  | .pub k => (r.publicTable.slot k).map id (Option.map .pub)

def RibOp.writes : RibOp -> Place -> Option (String × Content)
  | .announce origin vni pfx nexthops _, .route o k =>
    if k = { vni, pfx } /\ o = origin then some (origin, .route nexthops) else none
  | .announceNat origin b, .nat k => if k = b.key then some (origin, .nat b) else none
  | .announcePublic origin rec, .pub k => if k = rec.key then some (origin, .pub rec) else none
  | _, _ => none

def RibOp.Clears (r : RIB) (c : Place) : RibOp -> Prop
  | .withdraw origin vni pfx => c = .route origin { vni, pfx }
  | .claimOrigin id _ | .releaseOrigin id _ _ => (r.slot c).1 = some id
  | .withdrawNat _ _ _ _ permit | .withdrawPublic _ _ permit =>
    ∀ content ∈ (r.slot c).2, ∀ owner ∈ content.owners, permit owner = true
  | _ => False

section

variable (r : RIB) (c : Place)

lemma content_of_slot {V : Type} {f : V -> Content} {before after : Option String × Option V} {P : Prop}
  (slots : after = before \/ after = (none, none) /\ P) :
  after.map id (Option.map f) = before.map id (Option.map f) \/ (after.map id (Option.map f)).2 = none /\ P := by
  rcases slots with rfl | ⟨rfl, why⟩
  · exact .inl rfl
  · exact .inr ⟨rfl, why⟩

lemma dropOriginLocked_slot (origin : String) (order : DropOrder) :
  (r.dropOriginLocked origin order).1.slot c = r.slot c \/
    ((r.dropOriginLocked origin order).1.slot c).2 = none /\ (r.slot c).1 = some origin := by
  obtain ⟨routes, natSnap, snap, eq, announced⟩ := dropOriginLocked_eq r origin order
  rw [eq]
  cases c with
  | route o k =>
    have after : (({ r with routes } : RIB).announced o k).map Content.route = _ := congrArg _ (announced o k)
    split at after
    next own => exact .inr ⟨after, congrArg some own.2⟩
    · exact .inl (congrArg (Prod.mk (some o)) after)
  | nat k => exact content_of_slot (r.natTable.slot_dropOwner origin order.nat k)
  | pub k => exact content_of_slot (r.publicTable.slot_dropOwner origin order.pub k)

-- What one operation does to a place: it writes it, leaves it alone, or clears it.
lemma step_slot (op : RibOp) : match op.writes c with
    | some (o, content) => (r.step op).slot c = (some o, some content)
    | none => (r.step op).slot c = r.slot c \/ ((r.step op).slot c).2 = none /\ op.Clears r c := by
  have attends := apply_attends r op
  unfold step
  cases op with
  | subscribe | unsubscribe | registerSink | setFence | clearFence =>
    obtain ⟨_, _, _, _, frame⟩ := attends rfl
    rw [frame]
    cases c <;> exact .inl rfl
  | announce origin vni pfx nexthops external =>
    cases c with
    | nat | pub => exact .inl rfl
    | route o k =>
      simp only [RibOp.writes, RIB.slot, apply, announce_announced]
      by_cases own : k = { vni, pfx } /\ o = origin
      · simp [own]
      · simp [if_neg own]
  | withdraw origin vni pfx =>
    have announced := withdraw_announced r origin vni pfx
    obtain ⟨routes, frame⟩ := withdraw_frame r origin vni pfx
    simp only [apply]
    cases c with
    | nat | pub =>
      rw [frame]
      exact .inl rfl
    | route o k =>
      simp only [RibOp.writes, RIB.slot, announced]
      split
      next own => exact .inr ⟨rfl, by rw [own.1, own.2]; rfl⟩
      · exact .inl rfl
  | claimOrigin id order =>
    have unwritten : (RibOp.claimOrigin id order).writes c = none := by cases c <;> rfl
    have left (r' : RIB) (same : r'.slot c = r.slot c) := same ▸ dropOriginLocked_slot r' c id order
    rw [unwritten]
    simp only [apply, claimOrigin]
    split
    · exact left _ (by cases c <;> rfl)
    · exact .inl (by cases c <;> rfl)
  | releaseOrigin id token order =>
    have unwritten : (RibOp.releaseOrigin id token order).writes c = none := by cases c <;> rfl
    have left (r' : RIB) (same : r'.slot c = r.slot c) := same ▸ dropOriginLocked_slot r' c id order
    rw [unwritten]
    simp only [apply, releaseOrigin]
    split
    · exact .inl rfl
    · exact left _ (by cases c <;> rfl)
  | announceNat origin b =>
    cases c with
    | route | pub => exact .inl rfl
    | nat k =>
      have after : (r.natTable.announce origin b.key b).slot k = _ := r.natTable.slot_announce origin b.key k b
      simp only [RibOp.writes]
      split_ifs at after ⊢
      · exact congrArg (Prod.map id (Option.map Content.nat)) after
      · exact .inl (congrArg (Prod.map id (Option.map Content.nat)) after)
  | announcePublic origin rec =>
    cases c with
    | route | nat => exact .inl rfl
    | pub k =>
      have after : (r.publicTable.announce origin rec.key rec).slot k = _ := r.publicTable.slot_announce origin rec.key k rec
      simp only [RibOp.writes]
      split_ifs at after ⊢
      · exact congrArg (Prod.map id (Option.map Content.pub)) after
      · exact .inl (congrArg (Prod.map id (Option.map Content.pub)) after)
  | withdrawNat origin natIP portMin portMax permit =>
    obtain ⟨snap, eq⟩ := withdrawNat_eq r origin natIP portMin portMax permit
    simp only [apply, eq]
    cases c with
    | route | pub => exact .inl rfl
    | nat k =>
      refine (content_of_slot (r.natTable.slot_withdraw origin { natIP, portMin } k _)).imp_right (And.imp_right fun allowed => ?_)
      simpa [RibOp.Clears, RIB.slot, Content.owners] using allowed
  | withdrawPublic origin rec permit =>
    obtain ⟨snap, eq⟩ := withdrawPublic_eq r origin rec permit
    simp only [apply, eq]
    cases c with
    | route | nat => exact .inl rfl
    | pub k =>
      refine (content_of_slot (r.publicTable.slot_withdraw origin rec.key k _)).imp_right (And.imp_right fun allowed => ?_)
      simpa [RibOp.Clears, RIB.slot, Content.owners] using allowed

end

section

variable {h : Hub} {c : Place} {o : String} {content : Content}

-- What an event does to the table.
def Hub.op (h : Hub) : HubEvent -> Option RibOp
  | .connect _ _ => none
  | .receive conn msg claim =>
    match h.streams conn with
    | some { guard := _, state := .waiting } =>
      match msg with
      | .hello nodeID => if nodeID = "" then none else some (.claimOrigin nodeID claim)
      | _ => none
    | some { guard := _, state := .running s } => s.op msg
    | _ => none
  | .register conn replay =>
    match h.streams conn with
    | some { guard := _, state := .running s } => some (.registerSink s.sink replay)
    | _ => none
  | .disconnect conn visit =>
    match h.streams conn with
    | some { guard := _, state := .running s } => some (.releaseOrigin s.sink.id s.token visit)
    | _ => none
  | .setFence pfx order => some (.setFence pfx order)
  | .clearFence pfx order => some (.clearFence pfx order)

def HubEvent.conn : HubEvent -> Nat
  | .connect conn _ | .receive conn _ _ | .register conn _ | .disconnect conn _ => conn
  | _ => 0

def Hub.Runs (h : Hub) (conn : Nat) (guard : UnderlayGuard) (s : Session) : Prop :=
  h.streams conn = some { guard, state := .running s }

def Hub.session (h : Hub) (conn : Nat) (guard : UnderlayGuard) (nodeID : String) : Session :=
  { sink := { id := nodeID, session := conn }, token := h.rib.nextToken + 1, guard }

-- What an event does to the streams: none changes, or one opens, ends or says its Hello.
inductive Hub.Turns (h : Hub) : HubEvent -> (Nat -> Option Stream) -> Prop
  | same {e : HubEvent} (unclaimed : ∀ op ∈ h.op e, op.claims = false) : Turns h e h.streams
  | opens {conn : Nat} {guard : UnderlayGuard} (free : h.streams conn = none) :
    Turns h (.connect conn guard) (update h.streams conn (some { guard, state := .waiting }))
  | ends {e : HubEvent} {conn : Nat} {guard : UnderlayGuard} {state : StreamState}
    (found : h.streams conn = some { guard, state })
    (released : ∀ op ∈ h.op e, ∃ (s : Session) (visit : DropOrder), op = .releaseOrigin s.sink.id s.token visit) :
    Turns h e (update h.streams conn (some { guard, state := .ended }))
  | hello {conn : Nat} {guard : UnderlayGuard} {nodeID : String} {claim : DropOrder}
    (found : h.streams conn = some { guard, state := .waiting }) (named : nodeID ≠ "") :
    Turns h (.receive conn (.hello nodeID) claim)
      (update h.streams conn (some { guard, state := .running (h.session conn guard nodeID) }))

lemma step_parts (h : Hub) (e : HubEvent) : (h.step e).rib = h.rib.perform (h.op e) /\
    (h.step e).announcers = h.announcers.note e.conn (h.op e) /\ h.Turns e (h.step e).streams := by
  have idle {e : HubEvent} (still : h.op e = none) : h.Turns e h.streams := .same (by simp only [still]; exact nofun)
  have ended {e : HubEvent} {conn : Nat} {guard : UnderlayGuard} {state : StreamState} (still : h.op e = none)
    (found : h.streams conn = some { guard, state }) : h.Turns e (update h.streams conn (some { guard, state := .ended })) :=
    .ends found (by simp only [still]; exact nofun)
  cases e with
  | setFence | clearFence => exact ⟨rfl, rfl, .same fun op same => by cases same; rfl⟩
  | connect conn guard =>
    cases found : h.streams conn with
    | none =>
      simp only [Hub.step, found]
      exact ⟨rfl, rfl, .opens found⟩
    | some =>
      simp only [Hub.step, found]
      exact ⟨rfl, rfl, idle rfl⟩
  | receive conn msg claim =>
    rcases found : h.streams conn with - | ⟨guard, - | s | -⟩ <;> simp only [Hub.step, Hub.op, found]
    · exact ⟨rfl, rfl, idle (by simp only [Hub.op, found])⟩
    · cases msg with
      | hello nodeID =>
        by_cases blank : nodeID = ""
        · simp only [Hub.hello, if_pos blank]
          exact ⟨rfl, rfl, ended (by simp only [Hub.op, found, if_pos blank]) found⟩
        · simp only [Hub.hello, if_neg blank]
          exact ⟨rfl, rfl, .hello found blank⟩
      | _ => exact ⟨rfl, rfl, ended (by simp only [Hub.op, found]) found⟩
    · exact ⟨by trivial, by trivial, .same fun op sent => op_unclaimed (by simpa only [Hub.op, found] using sent)⟩
    · exact ⟨rfl, rfl, idle (by simp only [Hub.op, found])⟩
  | register conn replay =>
    rcases found : h.streams conn with - | ⟨guard, - | s | -⟩ <;> simp only [Hub.step, Hub.op, found]
    case some.running =>
      refine ⟨rfl, rfl, .same fun op same => ?_⟩
      simp only [Hub.op, found] at same
      cases same
      rfl
    all_goals exact ⟨rfl, rfl, idle (by simp only [Hub.op, found])⟩
  | disconnect conn visit =>
    rcases found : h.streams conn with - | ⟨guard, - | s | -⟩ <;> simp only [Hub.step, Hub.op, found]
    case some.running =>
      refine ⟨rfl, rfl, .ends found fun op same => ?_⟩
      simp only [Hub.op, found] at same
      cases same
      exact ⟨s, visit, rfl⟩
    case none => exact ⟨rfl, rfl, idle (by simp only [Hub.op, found])⟩
    all_goals exact ⟨rfl, rfl, ended (by simp only [Hub.op, found]) found⟩

structure Hub.Guarded (h : Hub) : Prop where
  enforced : ∀ conn stream, h.streams conn = some stream -> stream.guard.enforce = true
  own : ∀ conn guard s, h.streams conn = some { guard, state := .running s } -> s.guard = guard

lemma Hub.Guarded.turn {h' : Hub} (guarded : h.Guarded) {conn : Nat} {guard : UnderlayGuard} {state : StreamState}
  (turned : h'.streams = update h.streams conn (some { guard, state })) (enforced : guard.enforce = true)
  (own : ∀ s, state = .running s -> s.guard = guard) : h'.Guarded := by
  constructor
  · intro c st found
    rw [turned, update_apply] at found
    split at found
    · obtain rfl := Option.some.inj found
      exact enforced
    · exact guarded.enforced c st found
  · intro c guard s found
    rw [turned, update_apply] at found
    split at found
    · obtain ⟨rfl, rfl⟩ := Stream.mk.inj (Option.some.inj found)
      exact own s rfl
    · exact guarded.own c guard s found

lemma step_guarded (guarded : h.Guarded) {e : HubEvent} (authenticated : e.Authenticated) : (h.step e).Guarded := by
  have turns := (step_parts h e).2.2
  generalize after : (h.step e).streams = streams at turns
  cases turns with
  | same => exact ⟨after ▸ guarded.enforced, after ▸ guarded.own⟩
  | opens => exact guarded.turn after authenticated nofun
  | ends found => exact guarded.turn after (guarded.enforced _ _ found) nofun
  | hello found => exact guarded.turn after (guarded.enforced _ _ found) fun s same => StreamState.running.inj same ▸ rfl

lemma step_keeps {conn : Nat} {stream : Stream} (e : HubEvent) (there : h.streams conn = some stream) :
  ∃ stream', (h.step e).streams conn = some stream' /\ stream'.guard = stream.guard := by
  have turns := (step_parts h e).2.2
  generalize (h.step e).streams = streams at turns
  cases turns with
  | same => exact ⟨stream, there, rfl⟩
  | @opens opened guard free =>
    have other : conn ≠ opened := fun same => by rw [same, free] at there; cases there
    exact ⟨stream, by rw [update_of_ne other, there], rfl⟩
  | @ends _ ended guard state found | @hello ended guard _ _ found _ =>
    by_cases here : conn = ended
    · subst here
      obtain rfl := Option.mem_unique found there
      exact ⟨_, update_self .., rfl⟩
    · exact ⟨stream, by rw [update_of_ne here, there], rfl⟩

def Announcers.of (a : Announcers) : Place -> Option Nat
  | .route o k => a.route o k
  | .nat k => a.nat k
  | .pub k => a.pub k

lemma of_note (a : Announcers) (conn : Nat) (op : RibOp) (c : Place) :
  (a.note conn (some op)).of c = if (op.writes c).isSome then some conn else a.of c := by
  cases op <;> cases c <;> simp only [Announcers.note, Announcers.of, RibOp.writes, update_apply] <;> split_ifs <;> simp_all

lemma authorised_iff : h.Authorised ↔
    ∀ c content, (h.rib.slot c).2 = some content -> h.Certified (h.announcers.of c) fun g => content.CoveredBy g := by
  constructor
  · intro authorised c content stored
    cases c with
    | route o k =>
      obtain ⟨nexthops, found, rfl⟩ := Option.map_eq_some_iff.mp stored
      exact authorised.routes o k nexthops found
    | nat k =>
      obtain ⟨b, found, rfl⟩ := Option.map_eq_some_iff.mp stored
      exact authorised.nat k b found
    | pub k =>
      obtain ⟨rec, found, rfl⟩ := Option.map_eq_some_iff.mp stored
      exact authorised.pub k rec found
  · intro all
    exact ⟨fun o k nexthops found => all (.route o k) (.route nexthops) (congrArg (Option.map Content.route) found),
      fun k b found => all (.nat k) (.nat b) (congrArg (Option.map Content.nat) found),
      fun k rec found => all (.pub k) (.pub rec) (congrArg (Option.map Content.pub) found)⟩

lemma session_covers {s : Session} (enforced : s.guard.enforce = true) {msg : ClientMsg} {op : RibOp} (sent : s.op msg = some op)
  (written : op.writes c = some (o, content)) : o = s.sink.id /\ content.CoveredBy s.guard := by
  have covers {underlay : String} (permitted : s.guard.permits underlay = true) : s.guard.Covers underlay :=
    (permits_iff enforced).mp permitted
  cases msg with
  | hello | keepAlive => cases sent
  | subscribe | unsubscribe | withdraw | withdrawNat | withdrawPublic =>
    cases sent
    cases c <;> cases written
  | announce vni pfx nexthop extra external =>
    obtain ⟨permitted, same⟩ := Option.ite_none_right_eq_some.mp sent
    cases same
    cases c with
    | nat | pub => cases written
    | route =>
      obtain ⟨-, same⟩ := Option.ite_none_right_eq_some.mp written
      cases same
      exact ⟨rfl, fun nh member => covers (List.all_eq_true.mp permitted nh member)⟩
  | announceNat b =>
    obtain ⟨permitted, same⟩ := Option.ite_none_right_eq_some.mp sent
    cases same
    cases c with
    | route | pub => cases written
    | nat =>
      obtain ⟨-, same⟩ := Option.ite_none_right_eq_some.mp written
      cases same
      exact ⟨rfl, covers permitted⟩
  | announcePublic rec =>
    obtain ⟨permitted, same⟩ := Option.ite_none_right_eq_some.mp sent
    cases same
    cases c with
    | route | nat => cases written
    | pub =>
      obtain ⟨-, same⟩ := Option.ite_none_right_eq_some.mp written
      cases same
      exact ⟨rfl, permitsPublic_covers enforced permitted⟩

-- Only a running session writes, under its own id, and only what its certificate names.
lemma op_covers (guarded : h.Guarded) {e : HubEvent} {op : RibOp} (performed : h.op e = some op)
  (written : op.writes c = some (o, content)) : ∃ guard s, h.Runs e.conn guard s /\ o = s.sink.id /\ content.CoveredBy guard /\
    ∃ msg claim, e = .receive e.conn msg claim := by
  cases e with
  | connect => cases performed
  | setFence | clearFence =>
    cases performed
    cases c <;> cases written
  | register conn | disconnect conn =>
    rcases found : h.streams conn with - | ⟨guard, - | s | -⟩ <;> simp only [Hub.op, found, reduceCtorEq] at performed
    cases performed
    cases c <;> cases written
  | receive conn msg claim =>
    rcases found : h.streams conn with - | ⟨guard, - | s | -⟩ <;> simp only [Hub.op, found, reduceCtorEq] at performed
    · cases msg with
      | hello nodeID =>
        obtain ⟨-, same⟩ := Option.ite_none_left_eq_some.mp performed
        cases same
        cases c <;> cases written
      | _ => cases performed
    · have own := guarded.own conn guard s found
      obtain ⟨mine, covered⟩ := session_covers (own ▸ guarded.enforced conn _ found) performed written
      exact ⟨guard, s, found, mine, own ▸ covered, msg, claim, rfl⟩

lemma step_authorised (guarded : h.Guarded) (authorised : h.Authorised) (e : HubEvent) : (h.step e).Authorised := by
  obtain ⟨rib, noted, -⟩ := step_parts h e
  have certified {announcer : Option Nat} {P : UnderlayGuard -> Prop} (before : h.Certified announcer P) :
    (h.step e).Certified announcer P := by
    obtain ⟨conn, stream, rfl, found, holds⟩ := before
    obtain ⟨stream', found', same⟩ := step_keeps e found
    exact ⟨conn, stream', rfl, found', same ▸ holds⟩
  rw [authorised_iff] at authorised ⊢
  intro c content stored
  rw [rib] at stored
  rw [noted]
  cases performed : h.op e with
  | none =>
    rw [performed] at stored
    exact certified (authorised c content stored)
  | some op =>
    rw [performed] at stored
    have slot := step_slot h.rib c op
    rw [of_note]
    cases written : op.writes c with
    | none =>
      rw [written] at slot
      rcases slot with same | ⟨cleared, -⟩
      · exact certified (authorised c content (same ▸ stored))
      · exact absurd (cleared.symm.trans stored) nofun
    | some here =>
      rw [written] at slot
      obtain ⟨guard, s, runs, -, covered, -⟩ := op_covers guarded performed written
      have same : here.2 = content := Option.some.inj ((congrArg Prod.snd slot).symm.trans stored)
      exact certified ⟨e.conn, _, rfl, runs, same ▸ covered⟩

lemma start_authorised : Hub.start.Authorised where
  routes origin k nexthops stored := by
    simp [Hub.start, newRIB, entry] at stored
  nat k b stored := by simp [Hub.start, newRIB] at stored
  pub k rec stored := by simp [Hub.start, newRIB] at stored

end

theorem announcements_authorised {events : List HubEvent} (authenticated : ∀ e ∈ events, e.Authenticated) :
  (events.foldl Hub.step Hub.start).Authorised := by
  have run (h : Hub) (guarded : h.Guarded) (authorised : h.Authorised) : (events.foldl Hub.step h).Authorised := by
    induction events generalizing h with
    | nil => exact authorised
    | cons e rest ih =>
      rw [List.forall_mem_cons] at authenticated
      exact ih authenticated.2 (h.step e) (step_guarded guarded authenticated.1) (step_authorised guarded authorised e)
  exact run Hub.start ⟨nofun, nofun⟩ start_authorised

def certificate (last : UInt8) : UnderlayGuard where
  allowed := [[0xfd, 0, 0, 0, 0, 0, 0, 0, 0, 0, 0, 0, 0, 0, 0, last]]
  enforce := true

def noOrder : DropOrder where
  routes := []
  nat := []
  pub := []

def contendedId : List HubEvent :=
  let block : NatBlock :=
    { vni := 7, sourceIP := "10.0.0.5", natIP := "192.0.2.1", portMin := 1024, portMax := 2048,
      ownerUnderlay := "fd00::1" }
  let edge : PublicRecord :=
    { kind := .edgeUnderlay, pfx := "fd00::1/128", ownerUnderlay := "fd00::2", vni := 0,
      portMin := 0, portMax := 0, overlayIP := "", ports := [] }
  [.connect 0 (certificate 1), .receive 0 (.hello "node") noOrder,
    .connect 1 (certificate 2), .receive 1 (.hello "node") noOrder,
    .receive 0 (.announce 7 "10.0.0.0/24" "fd00::2" [] false) noOrder,
    .receive 1 (.announce 7 "10.0.0.0/24" "fd00::2" [] false) noOrder,
    .receive 0 (.announceNat block) noOrder,
    .receive 1 (.announcePublic edge) noOrder]

theorem contended_id_authorised : let hub := contendedId.foldl Hub.step Hub.start
  (hub.rib.entry { vni := 7, pfx := "10.0.0.0/24" }).origins.lookup "node" = some ["fd00::2"] /\
    hub.announcers.route "node" { vni := 7, pfx := "10.0.0.0/24" } = some 1 /\
    (hub.rib.nat.lookup { natIP := "192.0.2.1", portMin := 1024 }).isSome /\
    hub.announcers.nat { natIP := "192.0.2.1", portMin := 1024 } = some 0 /\
    hub.rib.pub.keys = ∅ /\ hub.Authorised := by
  refine ⟨by decide +kernel, by decide +kernel, by decide +kernel, by decide +kernel,
    by decide +kernel, announcements_authorised ?_⟩
  simp [contendedId, HubEvent.Authenticated, certificate]

end Ectobase.Mesh
