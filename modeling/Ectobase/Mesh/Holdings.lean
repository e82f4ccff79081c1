import Ectobase.Mesh.RibIndex
import Ectobase.Mesh.Session

namespace Ectobase.Mesh

open Shared Function RIB

@[ext] structure Holdings where
  routes : RouteKey -> Option (List String × Bool)
  nat : NatKey -> Option NatBlock
  pub : PublicKey -> Option PublicRecord
  subs : UInt32 -> Option Sink

def Holdings.none : Holdings where
  routes _ := .none
  nat _ := .none
  pub _ := .none
  subs _ := .none

def RIB.holdings (r : RIB) (id : String) : Holdings where
  routes k := (r.announced id k).map fun nexthops => (nexthops, (r.entry k).external)
  nat := r.natTable.heldBy id
  pub := r.publicTable.heldBy id
  subs vni := r.subscribers vni id

def giveUp {K V : Type} [DecidableEq K] (held : K -> Option V) (k : K) (may : V -> Bool) : K -> Option V :=
  match held k with
  | none => held
  | some v => if may v then update held k none else held

def Holdings.receive (s : Session) (h : Holdings) : ClientMsg -> Holdings
  | .subscribe vni => { h with subs := update h.subs vni (some s.sink) }
  | .unsubscribe vni => { h with subs := update h.subs vni .none }
  | .announce vni pfx nexthop extra external =>
    let k : RouteKey := { vni, pfx }
    if (nexthop :: extra).all s.guard.permits then
      { h with routes := update h.routes k (some (nexthop :: extra, external)) }
    else h
  | .withdraw vni pfx =>
    { h with routes := update h.routes { vni, pfx } .none }
  | .announceNat b =>
    if s.guard.permits b.ownerUnderlay then
      { h with nat := update h.nat b.key (some b) }
    else h
  | .withdrawNat natIP portMin _ =>
    let k : NatKey := { natIP, portMin }
    { h with nat := giveUp h.nat k (fun b => s.guard.permits b.ownerUnderlay) }
  | .announcePublic rec =>
    if s.permitsPublic rec then { h with pub := update h.pub rec.key (some rec) } else h
  | .withdrawPublic rec =>
    { h with pub := giveUp h.pub rec.key (fun stored => s.guard.permits stored.ownerUnderlay) }
  | .keepAlive | .hello _ => h

lemma heldBy_withdraw {K V : Type} [DecidableEq K] (t : OwnedTable K V String) (o : String)
  (k : K) (may : V -> Bool) : (t.withdraw o k may).heldBy o = giveUp (t.heldBy o) k may := by
  funext k'
  unfold giveUp
  rcases t.withdraw_cases o k may with ⟨idle, barred⟩ | ⟨v, slot, allowed, removed⟩
  · rw [idle]
    cases own : t.heldBy o k with
    | none => rfl
    | some v => simp [barred v own]
  · have own : t.heldBy o k = some v := by simp [OwnedTable.heldBy, slot]
    simp only [removed, OwnedTable.heldBy_remove, own, allowed, if_true, update_apply]

section

variable (s : Session) (r : RIB)

lemma holdings_announce (vni : UInt32) (pfx : String) (nexthops : List String) (external : Bool) :
  ((r.announce s.sink.id vni pfx nexthops external).1.holdings s.sink.id).routes =
    update (r.holdings s.sink.id).routes { vni, pfx } (some (nexthops, external)) := by
  funext k
  simp only [holdings, announce_announced, update_apply]
  rw [entry_insert r _ { vni, pfx } k _ rfl]
  by_cases own : k = { vni, pfx } <;> simp [own]

lemma holdings_withdraw (vni : UInt32) (pfx : String) : ((r.withdraw s.sink.id vni pfx).1.holdings s.sink.id).routes =
    update (r.holdings s.sink.id).routes { vni, pfx } none := by
  funext k
  simp only [holdings, withdraw_announced, update_apply]
  by_cases own : k = { vni, pfx }
  · simp [own]
  · simp [own, withdraw_entry_ne r s.sink.id vni pfx k own]

lemma heldBy_announce_update {K V : Type} [DecidableEq K] (t : OwnedTable K V String) (o : String) (k : K) (v : V) :
  (t.announce o k v).heldBy o = update (t.heldBy o) k (some v) := by
  funext k'
  simp [OwnedTable.heldBy_announce, update_apply]

lemma holdings_receive (msg : ClientMsg) :
  (r.perform (s.op msg)).holdings s.sink.id = (r.holdings s.sink.id).receive s msg := by
  cases msg with
  | hello | keepAlive => rfl
  | subscribe vni =>
    simp only [Session.op, perform, step, apply, subscribe_frame]
    refine Holdings.ext rfl rfl rfl ?_
    funext other
    by_cases same : other = vni <;> simp [holdings, Holdings.receive, same]
  | unsubscribe vni =>
    refine Holdings.ext rfl rfl rfl ?_
    funext other
    by_cases same : other = vni <;> simp [Session.op, perform, step, apply, unsubscribe, holdings, Holdings.receive, same]
  | announce vni pfx nexthop extra external =>
    simp only [Session.op, Holdings.receive]
    cases permitted : (nexthop :: extra).all s.guard.permits with
    | false => rfl
    | true =>
      exact Holdings.ext (holdings_announce s r vni pfx (nexthop :: extra) external) rfl rfl rfl
  | withdraw vni pfx =>
    have routes := holdings_withdraw s r vni pfx
    obtain ⟨_, frame⟩ := withdraw_frame r s.sink.id vni pfx
    simp only [Session.op, perform, step, apply]
    rw [frame] at routes ⊢
    exact Holdings.ext routes rfl rfl rfl
  | announceNat b =>
    simp only [Session.op, Holdings.receive]
    cases permitted : s.guard.permits b.ownerUnderlay with
    | false => rfl
    | true =>
      exact Holdings.ext rfl (heldBy_announce_update r.natTable s.sink.id b.key b) rfl rfl
  | withdrawNat natIP portMin portMax =>
    obtain ⟨snap, eq⟩ := withdrawNat_eq r s.sink.id natIP portMin portMax s.guard.permits
    simp only [Session.op, perform, step, apply, eq]
    exact Holdings.ext rfl (heldBy_withdraw r.natTable s.sink.id _ _) rfl rfl
  | announcePublic rec =>
    simp only [Session.op, Holdings.receive]
    cases permitted : s.permitsPublic rec with
    | false => rfl
    | true =>
      exact Holdings.ext rfl rfl (heldBy_announce_update r.publicTable s.sink.id rec.key rec) rfl
  | withdrawPublic rec =>
    obtain ⟨snap, eq⟩ := withdrawPublic_eq r s.sink.id rec s.guard.permits
    simp only [Session.op, perform, step, apply, eq]
    exact Holdings.ext rfl rfl (heldBy_withdraw r.publicTable s.sink.id _ _) rfl

variable {s} {msg : ClientMsg}

lemma op_unclaimed {op : RibOp} (sent : op ∈ s.op msg) : op.claims = false := by
  cases msg with
  | hello | keepAlive => cases sent
  | subscribe | unsubscribe | withdraw | withdrawNat | withdrawPublic => cases sent; rfl
  | announce | announceNat | announcePublic =>
    obtain ⟨-, same⟩ := Option.ite_none_right_eq_some.mp sent
    cases same
    rfl

variable (s)

lemma holdings_received (msgs : List ClientMsg) : (msgs.foldl (fun r msg => r.perform (s.op msg)) r).holdings s.sink.id =
    msgs.foldl (Holdings.receive s) (r.holdings s.sink.id) := by
  induction msgs generalizing r with
  | nil => rfl
  | cons msg msgs ih => rw [List.foldl_cons, List.foldl_cons, ih, holdings_receive]

end

end Ectobase.Mesh
