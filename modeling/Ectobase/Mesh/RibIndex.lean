import Ectobase.Mesh.RibFold

namespace Ectobase.Mesh

open Shared RIB OwnedTable

section

variable (r : RIB) (origin : String)

lemma withdrawNat_eq (natIP : String) (portMin portMax : UInt32) (permit : String -> Bool) :
  ∃ snap, (r.withdrawNat origin natIP portMin portMax permit).1 =
    r.withNat (r.natTable.withdraw origin { natIP, portMin } fun b => permit b.ownerUnderlay) snap := by
  unfold withdrawNat OwnedTable.withdraw natTable
  cases stored : r.nat.lookup { natIP, portMin } with
  | none => exact ⟨r.globalSnap, by simp [stored, withNat]⟩
  | some b =>
    by_cases mine : r.natOrigin.lookup { natIP, portMin } = some origin /\ permit b.ownerUnderlay = true
    · exact ⟨none, by simp [stored, mine, withNat, remove]⟩
    · refine ⟨r.globalSnap, ?_⟩
      cases owner : r.natOrigin.lookup { natIP, portMin } <;> cases allowed : permit b.ownerUnderlay <;> simp_all [withNat]

lemma withdrawPublic_eq (rec : PublicRecord) (permit : String -> Bool) : ∃ snap, (r.withdrawPublic origin rec permit).1 =
    r.withPublic (r.publicTable.withdraw origin rec.key fun stored => permit stored.ownerUnderlay)
      snap := by
  unfold withdrawPublic OwnedTable.withdraw publicTable
  cases stored : r.pub.lookup rec.key with
  | none => exact ⟨r.globalSnap, by simp [stored, withPublic]⟩
  | some b =>
    by_cases mine : r.publicOrigin.lookup rec.key = some origin /\ permit b.ownerUnderlay = true
    · exact ⟨none, by simp [stored, mine, withPublic, remove]⟩
    · refine ⟨r.globalSnap, ?_⟩
      cases owner : r.publicOrigin.lookup rec.key <;> cases allowed : permit b.ownerUnderlay <;> simp_all [withPublic]

lemma dropNatKey_eq (k : NatKey) : ∃ snap, (dropNatKey origin r k).1 = r.withNat (r.natTable.dropKey origin k) snap := by
  unfold dropNatKey OwnedTable.dropKey natTable
  by_cases owner : r.natOrigin.lookup k = some origin
  · cases stored : r.nat.lookup k with
    | none => exact ⟨r.globalSnap, by simp [owner, withNat]⟩
    | some b => exact ⟨none, by simp [owner, withNat]⟩
  · exact ⟨r.globalSnap, by simp [owner, withNat]⟩

lemma dropPublicKey_eq (k : PublicKey) :
  ∃ snap, (dropPublicKey origin r k).1 = r.withPublic (r.publicTable.dropKey origin k) snap := by
  unfold dropPublicKey OwnedTable.dropKey publicTable
  by_cases owner : r.publicOrigin.lookup k = some origin
  · cases stored : r.pub.lookup k with
    | none => exact ⟨r.globalSnap, by simp [owner, withPublic]⟩
    | some b => exact ⟨none, by simp [owner, withPublic]⟩
  · exact ⟨r.globalSnap, by simp [owner, withPublic]⟩

lemma dropOriginNat_eq (order : List NatKey) : ∃ snap, (r.dropOriginNat origin order).1 =
    r.withNat (r.natTable.dropOwner origin order) snap := by
  have loop (r : RIB) : ∃ snap, (forEach (dropNatKey origin) r order).1 =
    r.withNat (order.foldl (dropKey origin) r.natTable) snap := by
    induction order generalizing r with
    | nil => exact ⟨r.globalSnap, rfl⟩
    | cons k order ih =>
      obtain ⟨_, first⟩ := dropNatKey_eq r origin k
      obtain ⟨snap, rest⟩ := ih (dropNatKey origin r k).1
      refine ⟨snap, ?_⟩
      rw [forEach, rest, first]
      rfl
  obtain ⟨snap, all⟩ := loop { r with natByOrigin := r.natByOrigin.erase origin }
  exact ⟨snap, all⟩

lemma dropOriginPublic_eq (order : List PublicKey) : ∃ snap, (r.dropOriginPublic origin order).1 =
    r.withPublic (r.publicTable.dropOwner origin order) snap := by
  have loop (r : RIB) : ∃ snap, (forEach (dropPublicKey origin) r order).1 =
    r.withPublic (order.foldl (dropKey origin) r.publicTable) snap := by
    induction order generalizing r with
    | nil => exact ⟨r.globalSnap, rfl⟩
    | cons k order ih =>
      obtain ⟨_, first⟩ := dropPublicKey_eq r origin k
      obtain ⟨snap, rest⟩ := ih (dropPublicKey origin r k).1
      refine ⟨snap, ?_⟩
      rw [forEach, rest, first]
      rfl
  obtain ⟨snap, all⟩ := loop { r with publicByOrigin := r.publicByOrigin.erase origin }
  exact ⟨snap, all⟩

end

def RIB.announced (r : RIB) (origin : String) (k : RouteKey) : Option (List String) :=
  (r.entry k).origins.lookup origin

section

variable (r : RIB) (origin : String)

variable (vni : UInt32) (pfx : String) (o : String) (k : RouteKey)

lemma announce_announced (nexthops : List String) (external : Bool) (o : String) (k : RouteKey) :
  (r.announce origin vni pfx nexthops external).1.announced o k =
    if k = { vni, pfx } /\ o = origin then some nexthops else r.announced o k := by
  unfold announced
  rw [entry_insert r _ { vni, pfx } k _ rfl]
  by_cases own : k = { vni, pfx }
  · subst own
    simp [lookup_insert_ite]
  · simp [own]

lemma withdrawRouteOrigin_frame : (r.withdrawRouteOrigin origin k).1 =
    { r with routes := (r.withdrawRouteOrigin origin k).1.routes } := by
  rcases withdrawRouteOrigin_cases r origin k with ⟨idle, _⟩ | ⟨e, _, _, body⟩
  · rw [idle]
  · rw [body]
    rfl

lemma withdrawRouteOrigin_announced (key : RouteKey) (o : String) (k : RouteKey) :
  (r.withdrawRouteOrigin origin key).1.announced o k = if k = key /\ o = origin then none else r.announced o k := by
  rcases withdrawRouteOrigin_cases r origin key with ⟨idle, absent⟩ | ⟨e, found, _, body⟩
  · rw [idle]
    split
    next same => rw [same.1, same.2, announced, absent]
    · rfl
  · rw [body]
    by_cases own : k = key
    · subst own
      have before : r.entry k = e := by rw [entry, found, Option.getD_some]
      simp [announced, removeOrigin_origins, lookup_erase_ite, before]
    · simp [announced, removeOrigin_entry_ne r origin key k e own, own]

lemma withdraw_announced : (r.withdraw origin vni pfx).1.announced o k =
    if k = { vni, pfx } /\ o = origin then none else r.announced o k :=
  withdrawRouteOrigin_announced { r with byOrigin := disown r.byOrigin origin _ } origin _ o k

lemma withdraw_entry_ne (other : k ≠ { vni, pfx }) : (r.withdraw origin vni pfx).1.entry k = r.entry k := by
  rcases withdrawRouteOrigin_cases { r with byOrigin := disown r.byOrigin origin _ } origin
    { vni, pfx } with ⟨idle, _⟩ | ⟨e, _, _, body⟩
  · rw [RIB.withdraw, idle]
    rfl
  · rw [RIB.withdraw, body]
    exact removeOrigin_entry_ne _ origin _ k e other

lemma withdraw_frame : ∃ routes, (r.withdraw origin vni pfx).1 = { r with
    byOrigin := disown r.byOrigin origin { vni, pfx }
    routes } :=
  ⟨_, withdrawRouteOrigin_frame { r with byOrigin := disown r.byOrigin origin _ } origin _⟩

lemma dropOriginRoutes_eq (order : List RouteKey) : ∃ routes, (r.dropOriginRoutes origin order).1 =
      { r with byOrigin := r.byOrigin.erase origin, routes } /\
    ∀ o k, ({ r with routes } : RIB).announced o k = if k ∈ order /\ o = origin then none else r.announced o k := by
  have loop (r : RIB) : ∃ routes, (forEach (fun r k => r.withdrawRouteOrigin origin k) r order).1 = { r with routes } /\
    ∀ o k, ({ r with routes } : RIB).announced o k = if k ∈ order /\ o = origin then none else r.announced o k := by
    induction order generalizing r with
    | nil => exact ⟨r.routes, rfl, by simp⟩
    | cons key order ih =>
      obtain ⟨routes, rest, after⟩ := ih (r.withdrawRouteOrigin origin key).1
      have frame := withdrawRouteOrigin_frame r origin key
      refine ⟨routes, ?_, ?_⟩
      · rw [forEach, rest, frame]
      · intro o k
        rw [frame] at after
        refine (after o k).trans ?_
        rw [<- frame, withdrawRouteOrigin_announced]
        by_cases own : o = origin
        · by_cases same : k = key <;> simp [own, same]
        · simp [own]
  exact loop { r with byOrigin := r.byOrigin.erase origin }

lemma dropOriginLocked_eq (order : DropOrder) : ∃ routes natSnap snap,
    (r.dropOriginLocked origin order).1 = ((({ r with byOrigin := r.byOrigin.erase origin, routes } :
        RIB).dropSubscriptions origin).withNat (r.natTable.dropOwner origin order.nat)
          natSnap).withPublic (r.publicTable.dropOwner origin order.pub) snap /\
    ∀ o k, ({ r with routes } : RIB).announced o k = if k ∈ order.routes /\ o = origin then none else r.announced o k := by
  obtain ⟨routes, loop, announced⟩ := dropOriginRoutes_eq r origin order.routes
  obtain ⟨natSnap, nat⟩ := dropOriginNat_eq (({ r with byOrigin := r.byOrigin.erase origin, routes } :
    RIB).dropSubscriptions origin) origin order.nat
  obtain ⟨snap, pub⟩ := dropOriginPublic_eq _ origin order.pub
  refine ⟨routes, natSnap, snap, ?_, announced⟩
  simp only [dropOriginLocked, loop, nat]
  exact pub

end

structure RIB.Indexed (r : RIB) : Prop where
  routes : ∀ o k, k ∈ listed r.byOrigin o ↔ (r.announced o k).isSome
  nat : r.natTable.Indexed
  pub : r.publicTable.Indexed
  tokens : ∀ id token, r.origins.lookup id = some token -> token <= r.nextToken

lemma newRIB_indexed : newRIB.Indexed where
  routes o k := by simp [listed, newRIB, announced, entry]
  nat := ⟨by simp [slot, natTable, newRIB], by simp [slot, natTable, newRIB, listed]⟩
  pub := ⟨by simp [slot, publicTable, newRIB], by simp [slot, publicTable, newRIB, listed]⟩
  tokens id token := by simp [newRIB]

section

variable {r : RIB} (indexed : r.Indexed) (origin : String)
include indexed

variable (vni : UInt32) (pfx : String) (order : DropOrder)

lemma RIB.Indexed.announce (nexthops : List String)
  (external : Bool) : (r.announce origin vni pfx nexthops external).1.Indexed where
  routes o k := by
    rw [announce_announced]
    simp only [RIB.announce, listed_insert]
    have before := indexed.routes o k
    by_cases own : o = origin
    · subst own
      rw [if_pos rfl, Finset.mem_insert]
      unfold listed at before
      rw [before]
      by_cases same : k = { vni, pfx } <;> simp [same]
    · simpa [own] using before
  nat := indexed.nat
  pub := indexed.pub
  tokens := indexed.tokens

lemma RIB.Indexed.withdraw : (r.withdraw origin vni pfx).1.Indexed := by
  have announced := withdraw_announced r origin vni pfx
  obtain ⟨routes, frame⟩ := withdraw_frame r origin vni pfx
  rw [frame] at announced ⊢
  refine ⟨fun o k => ?_, indexed.nat, indexed.pub, indexed.tokens⟩
  rw [announced, mem_listed_disown, indexed.routes]
  by_cases own : o = origin /\ k = { vni, pfx }
  · simp [own]
  · rw [if_neg (fun both => own both.symm)]
    exact and_iff_left own

lemma RIB.Indexed.dropOriginLocked (visits : order.Enumerates r origin) : (r.dropOriginLocked origin order).1.Indexed := by
  obtain ⟨routes, natSnap, snap, eq, announced⟩ := dropOriginLocked_eq r origin order
  rw [eq]
  refine ⟨fun o k => ?_, indexed.nat.dropOwner origin order.nat visits.2.1.2,
    indexed.pub.dropOwner origin order.pub visits.2.2.2, indexed.tokens⟩
  refine Iff.trans ?_ (Eq.to_iff (congrArg (fun v => v.isSome = true) (announced o k))).symm
  change k ∈ listed (r.byOrigin.erase origin) o ↔ _
  rw [listed_erase]
  by_cases own : o = origin
  · subst own
    have visited : k ∈ order.routes ↔ (r.announced o k).isSome :=
      (visits.1.2 k).trans (indexed.routes o k)
    cases held : r.announced o k <;> simp_all
  · simp [own, indexed.routes]

lemma RIB.Indexed.deleteSink : (r.deleteSink origin).Indexed :=
  ⟨indexed.routes, indexed.nat, indexed.pub, indexed.tokens⟩

lemma RIB.Indexed.claimOrigin (visits : order.Enumerates r origin) : (r.claimOrigin origin order).1.Indexed := by
  have claimed : ({ r with
      origins := r.origins.insert origin (r.nextToken + 1)
      nextToken := r.nextToken + 1 } : RIB).Indexed := by
    refine ⟨indexed.routes, indexed.nat, indexed.pub, fun id token held => ?_⟩
    rw [lookup_insert_ite] at held
    split at held
    · exact (Option.some.inj held).ge
    · exact (indexed.tokens id token held).trans (Nat.le_succ _)
  simp only [RIB.claimOrigin]
  split
  · exact (claimed.deleteSink origin).dropOriginLocked origin order visits
  · exact claimed

lemma RIB.Indexed.releaseOrigin (token : Nat) (order : DropOrder)
  (visits : order.Enumerates r origin) : (r.releaseOrigin origin token order).1.Indexed := by
  have released : ({ r with origins := r.origins.erase origin } : RIB).Indexed := by
    refine ⟨indexed.routes, indexed.nat, indexed.pub, fun id token held => ?_⟩
    rw [lookup_erase_ite] at held
    split at held
    · cases held
    · exact indexed.tokens id token held
  simp only [RIB.releaseOrigin]
  split
  · exact indexed
  · exact (released.deleteSink origin).dropOriginLocked origin order visits

end

variable (r : RIB)

lemma refilter_frame (fenced : Map FenceKey IPNet) (order : List RouteKey) :
  (r.refilter fenced order).1 = { r with fenced } := rfl

variable {r} in
lemma RIB.Refences.frame {order : List RouteKey} {out : RIB × Sent} (refences : r.Refences order out) :
  ∃ fenced, out.1 = { r with fenced } := by
  rcases refences with rfl | ⟨fenced, rfl⟩
  · exact ⟨r.fenced, rfl⟩
  · exact ⟨fenced, rfl⟩

lemma subscribe_frame (vni : UInt32) (s : Sink) : (r.subscribe vni s).1 = { r with
    subscribers := Function.update r.subscribers vni
      (Function.update (r.subscribers vni) s.id (some s)) } := by
  unfold subscribe
  split
  next again => rw [<- again, Function.update_eq_self, Function.update_eq_self]
  · rfl

def RibOp.attends : RibOp -> Bool
  | .subscribe .. | .unsubscribe .. | .registerSink .. | .setFence .. | .clearFence .. => true
  | _ => false

-- Who listens, what is fenced and what is kept for replay touch no record.
lemma apply_attends (op : RibOp) (attends : op.attends = true) : ∃ subscribers sinks globalSnap fenced,
  (r.apply op).1 = { r with subscribers, sinks, globalSnap, fenced } := by
  cases op <;> try cases attends
  case subscribe vni s => exact ⟨_, _, _, _, subscribe_frame r vni s⟩
  case setFence pfx order => exact ⟨_, _, _, (setFence_refences r pfx order).frame⟩
  case clearFence pfx order => exact ⟨_, _, _, (clearFence_refences r pfx order).frame⟩
  all_goals exact ⟨_, _, _, _, rfl⟩

def RibOp.claims : RibOp -> Bool
  | .claimOrigin .. | .releaseOrigin .. => true
  | _ => false

lemma step_origins {op : RibOp} (unclaimed : op.claims = false) :
  (r.step op).origins = r.origins /\ (r.step op).nextToken = r.nextToken := by
  have attends := apply_attends r op
  unfold step
  cases op with
  | claimOrigin | releaseOrigin => cases unclaimed
  | announce | announceNat | announcePublic => exact ⟨rfl, rfl⟩
  | subscribe | unsubscribe | registerSink | setFence | clearFence =>
    obtain ⟨_, _, _, _, frame⟩ := attends rfl
    rw [frame]
    exact ⟨rfl, rfl⟩
  | withdraw origin vni pfx =>
    obtain ⟨routes, frame⟩ := withdraw_frame r origin vni pfx
    rw [apply, frame]
    exact ⟨rfl, rfl⟩
  | withdrawNat origin natIP portMin portMax permit =>
    obtain ⟨snap, eq⟩ := withdrawNat_eq r origin natIP portMin portMax permit
    simp only [apply, eq, withNat, and_self]
  | withdrawPublic origin rec permit =>
    obtain ⟨snap, eq⟩ := withdrawPublic_eq r origin rec permit
    simp only [apply, eq, withPublic, and_self]

lemma step_indexed (op : RibOp) (indexed : r.Indexed) (possible : op.Possible r) : (r.step op).Indexed := by
  have attends := apply_attends r op
  unfold step
  cases op with
  | subscribe | unsubscribe | registerSink | setFence | clearFence =>
    obtain ⟨_, _, _, _, frame⟩ := attends rfl
    rw [frame]
    exact ⟨indexed.routes, indexed.nat, indexed.pub, indexed.tokens⟩
  | announce origin vni pfx nexthops external =>
    exact indexed.announce origin vni pfx nexthops external
  | withdraw origin vni pfx => exact indexed.withdraw origin vni pfx
  | claimOrigin nodeID order => exact indexed.claimOrigin nodeID order possible
  | releaseOrigin nodeID token order => exact indexed.releaseOrigin nodeID token order possible
  | announceNat origin b =>
    exact ⟨indexed.routes, indexed.nat.announce origin b.key b, indexed.pub, indexed.tokens⟩
  | withdrawNat origin natIP portMin portMax permit =>
    obtain ⟨snap, frame⟩ := withdrawNat_eq r origin natIP portMin portMax permit
    simp only [apply, frame]
    exact ⟨indexed.routes, indexed.nat.withdraw origin _ _, indexed.pub, indexed.tokens⟩
  | announcePublic origin rec =>
    exact ⟨indexed.routes, indexed.nat, indexed.pub.announce origin rec.key rec, indexed.tokens⟩
  | withdrawPublic origin rec permit =>
    obtain ⟨snap, frame⟩ := withdrawPublic_eq r origin rec permit
    simp only [apply, frame]
    exact ⟨indexed.routes, indexed.nat, indexed.pub.withdraw origin _ _, indexed.tokens⟩

lemma run_indexed (ops : List RibOp) (possible : Along step (fun r op => op.Possible r) newRIB ops) :
  (ops.foldl step newRIB).Indexed :=
  possible.invariant step_indexed newRIB_indexed

end Ectobase.Mesh
