import Ectobase.Flowplane.FwHandlers
import Ectobase.Flowplane.Maps
import Ectobase.Shared.Runs
import Ectobase.Shared.Store

namespace Ectobase.Flowplane

open Shared Store Option

structure IfaceMeta where
  id : List UInt8
  vni : UInt32
  ipv4 : Vector UInt8 4
  ipv6 : Vector UInt8 16
  underlay : Vector UInt8 16
  deriving DecidableEq

structure NatBinding (A : Type) where
  natIp : A
  portMin : UInt16
  portMax : UInt16
  deriving DecidableEq

structure NatFamily (A K E : Type) where
  addr : IfaceMeta -> A
  vni : K -> UInt32
  srcIp : K -> A
  dstIp : K -> A
  dstPort : K -> UInt16
  flags : E -> UInt8

def natFamily4 : NatFamily (Vector UInt8 4) CtKey CtEntry :=
  ⟨IfaceMeta.ipv4, CtKey.vni, CtKey.srcIp, CtKey.dstIp, CtKey.dstPort, CtEntry.flags⟩

def natFamily6 : NatFamily (Vector UInt8 16) CtKey6 CtEntry6 :=
  ⟨IfaceMeta.ipv6, CtKey6.vni, CtKey6.srcIp, CtKey6.dstIp, CtKey6.dstPort, CtEntry6.flags⟩

structure NatTable (A K E : Type) where
  nat : UInt32 × A -> Option (NatBinding A)
  natIps : UInt32 × A -> Bool
  ct : K -> Option E

structure NatFaults where
  remove : Bool
  upsert : Option String

def noFaults : NatFaults := ⟨false, none⟩

abbrev Ifaces := Store IfaceMeta.id

section

variable {A K E : Type} [DecidableEq A] (fam : NatFamily A K E)

def NatBinding.overlaps (b v : NatBinding A) : Bool :=
  v.natIp = b.natIp && b.portMin < v.portMax && b.portMax > v.portMin

def NatFamily.flushes (vni : UInt32) (gip : A) (v : NatBinding A) (k : K) (e : E) : Bool :=
  fam.vni k = vni && (fam.srcIp k = gip && (fam.flags e &&& ctRewriteSrc != 0 || fam.flags e &&& ctFSrcNat != 0) ||
      fam.dstIp k = v.natIp && v.portMin <= fam.dstPort k && fam.dstPort k < v.portMax && fam.flags e &&& ctRewriteDst != 0)

def ctFlushForGuest (ct : K -> Option E) (vni : UInt32) (gip : A) (v : NatBinding A) : K -> Option E :=
  fun k => (ct k).filter fun e => !fam.flushes vni gip v k e

def createNat (ifaces : Ifaces) (lbs : List (Vector UInt8 16)) (faults : NatFaults)
  (t : NatTable A K E) (id : List UInt8) (b : NatBinding A)
  (preferredUl : Option (Vector UInt8 16)) : Except String (Vector UInt8 16 × NatTable A K E) :=
  match ifaces.find id with
  | none => .error "NO_VM: unknown interface"
  | some r =>
    if (t.nat (r.vni, fam.addr r)).isSome then
      .error "SNAT_EXISTS: NAT already configured for this interface"
    else if ifaces.items.any fun o =>
        o.vni = r.vni && (t.nat (r.vni, fam.addr o)).any b.overlaps then
      .error "SNAT_EXISTS: overlapping NAT port range"
    else if preferredUl.any fun ul => (ifaces.items.any (·.underlay = ul)) || lbs.contains ul then
      .error "VNF_INSERT: preferred underlay collision"
    else
      match faults.upsert with
      | some cause => .error cause
      | none =>
        .ok (preferredUl.getD r.underlay,
          { t with
            nat := Function.update t.nat (r.vni, fam.addr r) (some b)
            natIps := Function.update t.natIps (r.vni, b.natIp) true })

def deleteNat (ifaces : Ifaces) (faults : NatFaults) (t : NatTable A K E) (id : List UInt8) :
  Except String (Bool × NatTable A K E) :=
  match ifaces.find id with
  | none => .error "NO_VM: unknown interface"
  | some r =>
    match t.nat (r.vni, fam.addr r) with
    | none => .ok (false, t)
    | some v =>
      let nat := if faults.remove then t.nat
        else Function.update t.nat (r.vni, fam.addr r) none
      let stillUsed := ifaces.items.any fun o =>
        o.id ≠ id && o.vni = r.vni && (nat (o.vni, fam.addr o)).any (·.natIp = v.natIp)
      .ok (true,
        { nat
          natIps := if stillUsed then t.natIps
            else Function.update t.natIps (r.vni, v.natIp) false
          ct := ctFlushForGuest fam t.ct r.vni (fam.addr r) v })

def rebind (ifaces : Ifaces) (lbs : List (Vector UInt8 16)) (faults : NatFaults)
  (t : NatTable A K E) (id : List UInt8) (b : NatBinding A) : Except String Unit × NatTable A K E :=
  match deleteNat fam ifaces faults t id with
  | .error e => (.error e, t)
  | .ok (_, t') =>
    match createNat fam ifaces lbs faults t' id b none with
    | .error e => (.error e, t')
    | .ok (_, t'') => (.ok (), t'')

def NatTable.Same (t t' : NatTable A K E) : Prop := t'.nat = t.nat /\ t'.ct = t.ct

-- Another interface's block overlaps b, the write fails, or the flows of a kept binding go.
def Loses (ifaces : Ifaces) (faults : NatFaults) (t : NatTable A K E) (vni : UInt32) (gip : A) (b : NatBinding A) : Prop :=
  ∃ v, t.nat (vni, gip) = some v /\ ((faults.remove = false /\ (faults.upsert.isSome \/
        ∃ o ∈ ifaces.items, o.vni = vni /\ fam.addr o ≠ gip /\ (t.nat (vni, fam.addr o)).any b.overlaps)) \/
      ((faults.remove = true \/ v = b) /\ ∃ k e, t.ct k = some e /\ fam.flushes vni gip v k e))

lemma ctFlushForGuest_eq_iff (ct : K -> Option E) (vni : UInt32) (gip : A) (v : NatBinding A) :
  ctFlushForGuest fam ct vni gip v = ct ↔ ¬ ∃ k e, ct k = some e /\ fam.flushes vni gip v k e := by
  unfold ctFlushForGuest
  constructor
  · rintro same ⟨k, e, tracked, flushed⟩
    have kept := congrFun same k
    simp [tracked, flushed] at kept
  · intro kept
    funext k
    cases tracked : ct k with
    | none => rfl
    | some e =>
      have stays : fam.flushes vni gip v k e = false :=
        Bool.eq_false_iff.mpr fun flushed => kept ⟨k, e, tracked, flushed⟩
      simp [stays]

variable {fam} {ifaces : Ifaces} {lbs : List (Vector UInt8 16)} {faults : NatFaults}
  {t : NatTable A K E} {r : IfaceMeta} {b v : NatBinding A}

variable {id : List UInt8} {preferredUl : Option (Vector UInt8 16)}

lemma createNat_ok {ul : Vector UInt8 16} {t' : NatTable A K E}
  (created : createNat fam ifaces lbs faults t id b preferredUl = .ok (ul, t')) :
  ∃ r ∈ ifaces.items, r.id = id /\ t.nat (r.vni, fam.addr r) = none /\ t' =
    { t with
      nat := Function.update t.nat (r.vni, fam.addr r) (some b)
      natIps := Function.update t.natIps (r.vni, b.natIp) true } := by
  unfold createNat at created
  cases found : ifaces.find id with
  | none => simp [found] at created
  | some r =>
    simp only [found] at created
    split_ifs at created with bound
    cases fault : faults.upsert with
    | some cause => simp [fault] at created
    | none =>
      simp only [fault, Except.ok.injEq, Prod.mk.injEq] at created
      obtain ⟨-, rfl⟩ := created
      exact ⟨r, mem_of_find found, find_key found, by simpa using bound, rfl⟩

lemma createNat_free (lbs : List (Vector UInt8 16)) (faults : NatFaults) (b : NatBinding A)
  (here : r ∈ ifaces.items) (free : t.nat (r.vni, fam.addr r) = none) :
  (∃ e, createNat fam ifaces lbs faults t r.id b none = .error e) ↔ faults.upsert.isSome \/
      ∃ o ∈ ifaces.items, o.vni = r.vni /\ (t.nat (r.vni, fam.addr o)).any b.overlaps := by
  unfold createNat
  rw [find_of_mem here]
  simp only [free, isSome_none, Bool.false_eq_true, if_false, any_none]
  split
  next taken =>
    simp only [List.any_eq_true, Bool.and_eq_true, decide_eq_true_eq] at taken
    exact ⟨fun _ => .inr taken, fun _ => ⟨_, rfl⟩⟩
  next clear =>
    simp only [List.any_eq_true, Bool.and_eq_true, decide_eq_true_eq] at clear
    cases faults.upsert <;> simp [clear]

lemma deleteNat_bound (faults : NatFaults) (here : r ∈ ifaces.items) (bound : t.nat (r.vni, fam.addr r) = some v) :
  ∃ t', deleteNat fam ifaces faults t r.id = .ok (true, t') /\
    t'.nat = (if faults.remove then t.nat else Function.update t.nat (r.vni, fam.addr r) none) /\
    t'.ct = ctFlushForGuest fam t.ct r.vni (fam.addr r) v := by
  unfold deleteNat
  simp only [find_of_mem here, bound]
  exact ⟨_, rfl, rfl, rfl⟩

lemma rebind_eq {t' : NatTable A K E} {found : Bool} (deleted : deleteNat fam ifaces faults t r.id = .ok (found, t')) :
  rebind fam ifaces lbs faults t r.id b = match createNat fam ifaces lbs faults t' r.id b none with
    | .error e => (.error e, t')
    | .ok (_, t'') => (.ok (), t'') := by
  unfold rebind
  rw [deleted]

lemma rebind_keeps_iff (here : r ∈ ifaces.items) : ((t.nat (r.vni, fam.addr r) = some b \/
        ∃ e, (rebind fam ifaces lbs faults t r.id b).1 = .error e) ->
      t.Same (rebind fam ifaces lbs faults t r.id b).2) ↔
    ¬ Loses fam ifaces faults t r.vni (fam.addr r) b := by
  cases bound : t.nat (r.vni, fam.addr r) with
  | none =>
    have deleted : deleteNat fam ifaces faults t r.id = .ok (false, t) := by
      simp [deleteNat, find_of_mem here, bound]
    rw [rebind_eq deleted]
    cases createNat fam ifaces lbs faults t r.id b none <;> simp [Loses, bound, NatTable.Same]
  | some v =>
    obtain ⟨t', deleted, nat, flushed⟩ := deleteNat_bound faults here bound
    rw [rebind_eq deleted]
    have flows := ctFlushForGuest_eq_iff fam t.ct r.vni (fam.addr r) v
    cases removed : faults.remove with
    | true =>
      -- The binding outlives the failed removal, and its own create is refused.
      rw [if_pos removed] at nat
      simp [createNat, find_of_mem here, nat, bound, Loses, removed, NatTable.Same, flushed, flows]
    | false =>
      rw [removed, if_neg Bool.false_ne_true] at nat
      have free : t'.nat (r.vni, fam.addr r) = none := by rw [nat, Function.update_self]
      have overlap (o : IfaceMeta) : (t'.nat (r.vni, fam.addr o)).any b.overlaps ↔
        fam.addr o ≠ fam.addr r /\ (t.nat (r.vni, fam.addr o)).any b.overlaps := by
        by_cases same : fam.addr o = fam.addr r <;> simp [nat, same]
      have refused := createNat_free lbs faults b here free
      simp only [overlap] at refused
      cases created : createNat fam ifaces lbs faults t' r.id b none with
      | error e =>
        have lost : ¬ t.Same t' := by
          intro same
          rw [same.1, bound] at free
          cases free
        have loses := refused.mp ⟨e, created⟩
        simp only [Except.error.injEq, exists_eq', or_true, forall_const, lost, false_iff, not_not]
        exact ⟨v, bound, .inl ⟨removed, loses⟩⟩
      | ok made =>
        obtain ⟨ul, t''⟩ := made
        obtain ⟨o, listed, named, -, rfl⟩ := createNat_ok created
        obtain rfl : r = o := some.inj (by rw [<- find_of_mem here, <- named, find_of_mem listed])
        have clear : ¬ (faults.upsert.isSome \/ ∃ o ∈ ifaces.items, o.vni = r.vni /\
          fam.addr o ≠ fam.addr r /\ (t.nat (r.vni, fam.addr o)).any b.overlaps) := by
          rw [<- refused, created]
          simp
        have same (kept : v = b) : Function.update t'.nat (r.vni, fam.addr r) (some b) = t.nat := by
          rw [nat, Function.update_idem, <- kept, <- bound, Function.update_eq_self]
        have loses : Loses fam ifaces faults t r.vni (fam.addr r) b ↔
          v = b /\ ∃ k e, t.ct k = some e /\ fam.flushes r.vni (fam.addr r) v k e := by
          simp only [Loses, bound, some.injEq, exists_eq_left', removed, true_and,
            or_iff_right clear, Bool.false_eq_true, false_or]
        simp only [loses, not_and, <- flows, some.injEq, reduceCtorEq, exists_false, or_false, NatTable.Same, flushed]
        exact ⟨fun held kept => (held kept).2, fun held kept => ⟨same kept, held kept⟩⟩

lemma rebind_done (here : r ∈ ifaces.items) (done : (rebind fam ifaces lbs noFaults t r.id b).1 = .ok ()) :
  (rebind fam ifaces lbs noFaults t r.id b).2.nat = Function.update t.nat (r.vni, fam.addr r) (some b) := by
  obtain ⟨found, t', deleted, nat⟩ : ∃ found t', deleteNat fam ifaces noFaults t r.id = .ok (found, t') /\
    t'.nat = Function.update t.nat (r.vni, fam.addr r) none := by
    cases bound : t.nat (r.vni, fam.addr r) with
    | none =>
      refine ⟨false, t, by simp [deleteNat, find_of_mem here, bound], ?_⟩
      rw [<- bound, Function.update_eq_self]
    | some v =>
      obtain ⟨t', deleted, nat, -⟩ := deleteNat_bound noFaults here bound
      exact ⟨true, t', deleted, nat⟩
  rw [rebind_eq deleted] at done ⊢
  cases created : createNat fam ifaces lbs noFaults t' r.id b none with
  | error e => simp [created] at done
  | ok made =>
    obtain ⟨o, listed, named, -, written⟩ := createNat_ok created
    obtain rfl : r = o := some.inj (by rw [<- find_of_mem here, <- named, find_of_mem listed])
    simp only [written, nat, Function.update_idem]

def NatTable.Matched (fam : NatFamily A K E) (ifaces : Ifaces) (t : NatTable A K E) : Prop :=
  (∀ vni ip, t.natIps (vni, ip) ↔ ∃ a b, t.nat (vni, a) = some b /\ b.natIp = ip) /\
    ∀ vni a b, t.nat (vni, a) = some b -> ∃ r ∈ ifaces.items, r.vni = vni /\ fam.addr r = a

lemma createNat_matched {made : Vector UInt8 16 × NatTable A K E} (matched : t.Matched fam ifaces)
  (created : createNat fam ifaces lbs faults t id b preferredUl = .ok made) :
  made.2.Matched fam ifaces := by
  obtain ⟨ul, t'⟩ := made
  obtain ⟨r, listed, -, free, rfl⟩ := createNat_ok created
  constructor
  · intro vni ip
    have before := matched.1 vni ip
    constructor
    · intro marked
      by_cases own : (vni, ip) = (r.vni, b.natIp)
      · simp only [Prod.mk.injEq] at own
        exact ⟨fam.addr r, b, by simp [own.1], own.2.symm⟩
      · simp only [Function.update_of_ne own] at marked
        obtain ⟨a, c, bound, uses⟩ := before.mp marked
        have other : (vni, a) ≠ (r.vni, fam.addr r) := by
          intro same
          rw [same, free] at bound
          cases bound
        exact ⟨a, c, by simp only [Function.update_of_ne other, bound], uses⟩
    · rintro ⟨a, c, bound, rfl⟩
      by_cases own : (vni, c.natIp) = (r.vni, b.natIp)
      · simp [own]
      simp only [Function.update_of_ne own]
      have other : (vni, a) ≠ (r.vni, fam.addr r) := by
        intro same
        simp only [same, Function.update_self, some.injEq] at bound
        simp only [Prod.mk.injEq] at same
        exact own (by rw [same.1, bound])
      simp only [Function.update_of_ne other] at bound
      exact before.mpr ⟨a, c, bound, rfl⟩
  · intro vni a c bound
    by_cases own : (vni, a) = (r.vni, fam.addr r)
    · simp only [Prod.mk.injEq] at own
      exact ⟨r, listed, own.1.symm, own.2.symm⟩
    · simp only [Function.update_of_ne own] at bound
      exact matched.2 vni a c bound

lemma deleteNat_matched {gone : Bool × NatTable A K E}
  (matched : t.Matched fam ifaces) (deleted : deleteNat fam ifaces noFaults t id = .ok gone) :
  gone.2.Matched fam ifaces := by
  unfold deleteNat at deleted
  cases found : ifaces.find id with
  | none => simp [found] at deleted
  | some r =>
    cases held : t.nat (r.vni, fam.addr r) with
    | none =>
      simp only [found, held, Except.ok.injEq] at deleted
      rwa [<- deleted]
    | some v =>
      simp only [found, held, noFaults, Bool.false_eq_true, ↓reduceIte, Except.ok.injEq] at deleted
      subst deleted
      have left {vni : UInt32} {a : A} {c : NatBinding A}
        (bound : Function.update t.nat (r.vni, fam.addr r) none (vni, a) = some c) :
        (vni, a) ≠ (r.vni, fam.addr r) /\ t.nat (vni, a) = some c := by
        rw [Function.update_apply] at bound
        split_ifs at bound with own
        exact ⟨own, bound⟩
      refine ⟨fun vni ip => ?_, fun vni a c bound => matched.2 vni a c (left bound).2⟩
      dsimp only
      by_cases own : (vni, ip) = (r.vni, v.natIp)
      · obtain ⟨rfl, rfl⟩ := Prod.mk.injEq .. ▸ own
        have marked : t.natIps (r.vni, v.natIp) := (matched.1 _ _).mpr ⟨_, v, held, rfl⟩
        split
        next used =>
          simp only [List.any_eq_true, Bool.and_eq_true, decide_eq_true_eq, any_eq_true] at used
          obtain ⟨o, -, ⟨-, vni⟩, c, bound, uses⟩ := used
          rw [vni] at bound
          exact iff_of_true marked ⟨_, c, bound, by simpa using uses⟩
        next unused =>
          simp only [Function.update_self, Bool.false_eq_true, false_iff]
          rintro ⟨a, c, bound, uses⟩
          obtain ⟨other, before⟩ := left bound
          obtain ⟨o, listed, vni, rfl⟩ := matched.2 _ a c before
          -- The owner is another interface, so the scan over the others met its binding.
          have apart : o.id ≠ id := by
            intro same
            have := find_of_mem listed
            rw [same, found] at this
            cases this
            exact other rfl
          simp only [Bool.not_eq_true, List.any_eq_false, Bool.and_eq_true, decide_eq_true_eq,
            not_and, any_eq_true, not_exists] at unused
          exact unused o listed ⟨by simpa using apart, vni⟩ c (by rw [vni]; exact bound) uses
      · have same (c : Prop) [Decidable c] : (if c then t.natIps
          else Function.update t.natIps (r.vni, v.natIp) false) (vni, ip) = t.natIps (vni, ip) := by
          split
          · rfl
          · rw [Function.update_of_ne own]
        rw [same, matched.1 vni ip]
        constructor
        · rintro ⟨a, c, bound, uses⟩
          refine ⟨a, c, ?_, uses⟩
          rw [Function.update_of_ne, bound]
          intro at'
          rw [at', held] at bound
          cases bound
          simp only [Prod.mk.injEq] at at'
          exact own (by rw [at'.1, uses])
        · rintro ⟨a, c, bound, uses⟩
          exact ⟨a, c, (left bound).2, uses⟩

end

structure NatState where
  ifaces : Ifaces
  lbUnderlays : List (Vector UInt8 16)
  v4 : NatTable (Vector UInt8 4) CtKey CtEntry
  v6 : NatTable (Vector UInt8 16) CtKey6 CtEntry6

structure AddNatSourceRequest where
  vni : UInt32
  sourceIp : String
  natIp : String
  portMin : UInt32
  portMax : UInt32
  deriving DecidableEq

inductive NatSource where
  | v4 (source : Vector UInt8 4) (b : NatBinding (Vector UInt8 4))
  | v6 (source : Vector UInt8 16) (b : NatBinding (Vector UInt8 16))
  deriving DecidableEq

def readIpAddr (s : String) : Except ServiceError Addr := match parseAddr s.toList with
  | some a => .ok a
  | none => .error (.invalid "invalid IP address syntax")

def Addr.octets (n : Nat) (a : Addr) : Vector UInt8 n := .ofFn fun i => a.as16.getD (16 - n + i) 0

def readNatSource (req : AddNatSourceRequest) : Except ServiceError NatSource := do
  let source <- readIpAddr req.sourceIp
  let nat <- readIpAddr req.natIp
  let ports <- natSourcePorts req.portMin req.portMax
  match source.isV4, nat.isV4 with
  | true, true => .ok (.v4 (Addr.octets 4 source) ⟨Addr.octets 4 nat, ports.1, ports.2⟩)
  | false, false => .ok (.v6 (Addr.octets 16 source) ⟨Addr.octets 16 nat, ports.1, ports.2⟩)
  | _, _ => .error (.invalid "source_ip and nat_ip must be the same address family")

section

variable {A K E : Type} [DecidableEq A] (fam : NatFamily A K E)

def findIfaceByVniIp (ifaces : Ifaces) (vni : UInt32) (a : A) : Option IfaceMeta :=
  ifaces.items.find? fun r => r.vni = vni && fam.addr r = a

variable {fam} in
lemma findIfaceByVniIp_some {ifaces : Ifaces} {vni : UInt32} {a : A} {r : IfaceMeta}
  (found : findIfaceByVniIp fam ifaces vni a = some r) : r ∈ ifaces.items /\ r.vni = vni /\ fam.addr r = a :=
  ⟨List.mem_of_find?_eq_some found, by simpa using List.find?_some found⟩

def addSource (s : NatState) (faults : NatFaults) (t : NatTable A K E) (vni : UInt32) (source : A)
  (b : NatBinding A) (shown : String) : Except ServiceError Unit × NatTable A K E :=
  match findIfaceByVniIp fam s.ifaces vni source with
  | none => (.error (.notFound s!"NO_VM: no local interface for vni={vni} ip={shown}"), t)
  | some r =>
    let done := rebind fam s.ifaces s.lbUnderlays faults t r.id b
    (done.1.mapError .internal, done.2)

lemma addSource_keeps_iff (shown : String) {s : NatState} {faults : NatFaults} {t : NatTable A K E}
  {vni : UInt32} {source : A} {b : NatBinding A} :
  ((t.nat (vni, source) = some b \/ ∃ e, (addSource fam s faults t vni source b shown).1 = .error e) ->
      t.Same (addSource fam s faults t vni source b shown).2) ↔
    ¬ ((findIfaceByVniIp fam s.ifaces vni source).isSome /\ Loses fam s.ifaces faults t vni source b) := by
  unfold addSource
  cases found : findIfaceByVniIp fam s.ifaces vni source with
  | none => simp [NatTable.Same]
  | some r =>
    obtain ⟨listed, rfl, rfl⟩ := findIfaceByVniIp_some found
    have failed (res : Except String Unit) : (∃ e, res.mapError ServiceError.internal = .error e) ↔ ∃ e, res = .error e := by
      cases res <;> simp [Except.mapError]
    simp only [failed, isSome_some, true_and]
    exact rebind_keeps_iff listed

end

def addNatSource (display : NatSource -> String) (faults : NatFaults) (s : NatState)
  (req : AddNatSourceRequest) : Except ServiceError Unit × NatState :=
  match readNatSource req with
  | .error e => (.error e, s)
  | .ok (.v4 a b) =>
    let done := addSource natFamily4 s faults s.v4 req.vni a b (display (.v4 a b))
    (done.1, { s with v4 := done.2 })
  | .ok (.v6 a b) =>
    let done := addSource natFamily6 s faults s.v6 req.vni a b (display (.v6 a b))
    (done.1, { s with v6 := done.2 })

def InForce (s : NatState) (req : AddNatSourceRequest) : Prop := match readNatSource req with
  | .error _ => False
  | .ok (.v4 a b) => s.v4.nat (req.vni, a) = some b
  | .ok (.v6 a b) => s.v6.nat (req.vni, a) = some b

instance (s : NatState) (req : AddNatSourceRequest) : Decidable (InForce s req) := by
  unfold InForce
  split <;> infer_instance

def LosesSource (faults : NatFaults) (s : NatState) (req : AddNatSourceRequest) : Prop :=
  match readNatSource req with
  | .error _ => False
  | .ok (.v4 a b) => (findIfaceByVniIp natFamily4 s.ifaces req.vni a).isSome /\
      Loses natFamily4 s.ifaces faults s.v4 req.vni a b
  | .ok (.v6 a b) => (findIfaceByVniIp natFamily6 s.ifaces req.vni a).isSome /\
      Loses natFamily6 s.ifaces faults s.v6 req.vni a b

theorem addNatSource_keeps_iff (display : NatSource -> String) (faults : NatFaults) (s : NatState)
  (req : AddNatSourceRequest) :
  ((InForce s req \/ ∃ e, (addNatSource display faults s req).1 = .error e) ->
      s.v4.Same (addNatSource display faults s req).2.v4 /\ s.v6.Same (addNatSource display faults s req).2.v6) ↔
    ¬ LosesSource faults s req := by
  unfold InForce addNatSource LosesSource
  rcases readNatSource req with e | ⟨a, b⟩ | ⟨a, b⟩
  · simp [NatTable.Same]
  · rw [<- addSource_keeps_iff natFamily4 (display (.v4 a b))]
    simp only [NatTable.Same, and_self, and_true]
  · rw [<- addSource_keeps_iff natFamily6 (display (.v6 a b))]
    simp only [NatTable.Same, and_self, true_and]

def boundGuest : NatState where
  ifaces := empty.put ⟨[1], 5, #v[10, 0, 0, 2], .replicate 16 0, .replicate 16 1⟩
  lbUnderlays := []
  v4 :=
    { nat := fun key => if key = (5, #v[10, 0, 0, 2]) then
        some ⟨#v[203, 0, 113, 9], 1024, 2048⟩ else none
      natIps := fun key => key = (5, #v[203, 0, 113, 9])
      ct := fun key =>
        if key = ⟨5, #v[10, 0, 0, 2], #v[192, 0, 2, 7], 40000, 443, 6⟩ then
          some ⟨0, #v[203, 0, 113, 9], 1030, ctRewriteSrc, 0, 0, 0⟩
        else none }
  v6 := ⟨fun _ => none, fun _ => false, fun _ => none⟩

theorem resend_drops_flow :
  let req : AddNatSourceRequest := ⟨5, "10.0.0.2", "203.0.113.9", 1024, 2048⟩
  let flow : CtKey := ⟨5, #v[10, 0, 0, 2], #v[192, 0, 2, 7], 40000, 443, 6⟩
  InForce boundGuest req /\ boundGuest.v4.ct flow ≠ none /\
    (addNatSource (fun _ => "") noFaults boundGuest req).2.v4.ct flow = none := by
  decide +kernel

inductive BindingOp where
  | attach (r : IfaceMeta)
  | create4 (id : List UInt8) (b : NatBinding (Vector UInt8 4)) (preferredUl : Option (Vector UInt8 16))
  | create6 (id : List UInt8) (b : NatBinding (Vector UInt8 16)) (preferredUl : Option (Vector UInt8 16))
  | delete4 (id : List UInt8)
  | delete6 (id : List UInt8)
  | detach (id : List UInt8) (keepsVni : Bool)
  | purge (vni : UInt32) (ipv4 : Vector UInt8 4)

namespace NatState

def purgeVni (s : NatState) (vni : UInt32) (ipv4 : Vector UInt8 4) : NatState :=
  { s with v4 := { s.v4 with nat := Function.update s.v4.nat (vni, ipv4) none } }

def detachInterface (s : NatState) (id : List UInt8) (keepsVni : Bool) : NatState :=
  match s.ifaces.find id with
  | none => s
  | some r =>
    let left := { s with ifaces := s.ifaces.remove id }
    if left.ifaces.items.any (·.vni = r.vni) || keepsVni then left else left.purgeVni r.vni r.ipv4

def step (s : NatState) : BindingOp -> NatState
  | .attach r => if (s.ifaces.find r.id).isSome then s else { s with ifaces := s.ifaces.put r }
  | .create4 id b ul =>
    { s with v4 := ((createNat natFamily4 s.ifaces s.lbUnderlays noFaults s.v4 id b ul).toOption.map
        Prod.snd).getD s.v4 }
  | .create6 id b ul =>
    { s with v6 := ((createNat natFamily6 s.ifaces s.lbUnderlays noFaults s.v6 id b ul).toOption.map
        Prod.snd).getD s.v6 }
  | .delete4 id =>
    { s with v4 := ((deleteNat natFamily4 s.ifaces noFaults s.v4 id).toOption.map Prod.snd).getD s.v4 }
  | .delete6 id =>
    { s with v6 := ((deleteNat natFamily6 s.ifaces noFaults s.v6 id).toOption.map Prod.snd).getD s.v6 }
  | .detach id keepsVni => s.detachInterface id keepsVni
  | .purge vni ipv4 => s.purgeVni vni ipv4

def Matched (s : NatState) : Prop := s.v4.Matched natFamily4 s.ifaces /\ s.v6.Matched natFamily6 s.ifaces

def Unbound (s : NatState) : BindingOp -> Prop
  | .detach id _ => ∀ r, s.ifaces.find id = some r -> s.v4.nat (r.vni, r.ipv4) = none /\ s.v6.nat (r.vni, r.ipv6) = none
  | .purge vni ipv4 => s.v4.nat (vni, ipv4) = none
  | _ => True

lemma purgeVni_unbound {s : NatState} {vni : UInt32} {ipv4 : Vector UInt8 4}
  (unbound : s.v4.nat (vni, ipv4) = none) : s.purgeVni vni ipv4 = s := by
  unfold purgeVni
  rw [<- unbound, Function.update_eq_self]

lemma keeps_matched {A K E : Type} {fam : NatFamily A K E} {ifaces ifaces' : Ifaces}
  {t : NatTable A K E} (matched : t.Matched fam ifaces)
  (stays : ∀ r ∈ ifaces.items, ∀ b, t.nat (r.vni, fam.addr r) = some b -> r ∈ ifaces'.items) :
  t.Matched fam ifaces' := by
  refine ⟨matched.1, fun vni a b bound => ?_⟩
  obtain ⟨r, listed, rfl, rfl⟩ := matched.2 vni a b bound
  exact ⟨r, stays r listed b bound, rfl, rfl⟩

lemma getD_matched {A K E α : Type} {fam : NatFamily A K E} {ifaces : Ifaces} {t : NatTable A K E}
  {res : Except String (α × NatTable A K E)} (matched : t.Matched fam ifaces)
  (done : ∀ out, res = .ok out -> out.2.Matched fam ifaces) :
  ((res.toOption.map Prod.snd).getD t).Matched fam ifaces := by
  cases res with
  | error => exact matched
  | ok out => exact done out rfl

lemma step_matched {s : NatState} {op : BindingOp} (matched : s.Matched) (unbound : s.Unbound op) : (s.step op).Matched := by
  obtain ⟨m4, m6⟩ := matched
  cases op with
  | attach r =>
    simp only [step]
    split
    · exact ⟨m4, m6⟩
    next absent =>
      have stays (o : IfaceMeta) (listed : o ∈ s.ifaces.items) : o ∈ (s.ifaces.put r).items := by
        have apart : o.id ≠ r.id := by
          intro same
          rw [<- same, find_of_mem listed] at absent
          exact absent rfl
        exact mem_put.mpr (.inr ⟨listed, apart⟩)
      exact ⟨keeps_matched m4 fun o listed _ _ => stays o listed, keeps_matched m6 fun o listed _ _ => stays o listed⟩
  | create4 id b ul => exact ⟨getD_matched m4 fun _ => createNat_matched m4, m6⟩
  | create6 id b ul => exact ⟨m4, getD_matched m6 fun _ => createNat_matched m6⟩
  | delete4 id => exact ⟨getD_matched m4 fun _ => deleteNat_matched m4, m6⟩
  | delete6 id => exact ⟨m4, getD_matched m6 fun _ => deleteNat_matched m6⟩
  | purge vni ipv4 =>
    rw [step, purgeVni_unbound unbound]
    exact ⟨m4, m6⟩
  | detach id keepsVni =>
    simp only [step, detachInterface]
    cases found : s.ifaces.find id with
    | none => exact ⟨m4, m6⟩
    | some r =>
      obtain ⟨free4, free6⟩ := unbound r found
      have stays {o : IfaceMeta} (listed : o ∈ s.ifaces.items) (other : o ≠ r) : o ∈ (s.ifaces.remove id).items := by
        refine mem_remove.mpr ⟨listed, fun same => other ?_⟩
        exact some.inj (by rw [<- find_of_mem listed, same, found])
      have left : NatState.Matched { s with ifaces := s.ifaces.remove id } := by
        constructor
        · refine keeps_matched m4 fun o listed b bound => stays listed ?_
          rintro rfl
          exact some_ne_none b (bound.symm.trans free4)
        · refine keeps_matched m6 fun o listed b bound => stays listed ?_
          rintro rfl
          exact some_ne_none b (bound.symm.trans free6)
      dsimp only
      split
      · exact left
      · rw [purgeVni_unbound (by exact free4)]
        exact left

theorem markers_match_bindings (ops : List BindingOp) (s : NatState) (start : s.Matched)
  (unbound : Along step Unbound s ops) : (ops.foldl step s).Matched :=
  unbound.invariant (fun _ _ => step_matched) start

def fresh : NatState :=
  ⟨.empty, [], ⟨fun _ => none, fun _ => false, fun _ => none⟩, ⟨fun _ => none, fun _ => false, fun _ => none⟩⟩

lemma fresh_matched : fresh.Matched := by
  simp [Matched, NatTable.Matched, fresh]

def guest : IfaceMeta := ⟨[1], 5, #v[10, 0, 0, 2], .replicate 16 2, .replicate 16 1⟩

def bindGuest : List BindingOp := [.attach guest, .create6 [1] ⟨.replicate 16 9, 1024, 2048⟩ none]

theorem deleted_before_detach_matched :
  ((bindGuest ++ [BindingOp.delete6 [1], .detach [1] false]).foldl step fresh).Matched := by
  refine markers_match_bindings _ fresh fresh_matched ⟨trivial, trivial, trivial, fun r found => ?_, trivial⟩
  obtain rfl : guest = r := some.inj (.trans (by decide +kernel) found)
  decide +kernel

theorem binding_outlives_guest : let s := (bindGuest ++ [BindingOp.detach [1] false]).foldl step fresh
  s.ifaces.items = [] /\ s.v6.nat (5, .replicate 16 2) = some ⟨.replicate 16 9, 1024, 2048⟩ := by
  decide +kernel

end NatState

end Ectobase.Flowplane
