import Ectobase.Flowplane.Uplink

namespace Ectobase.Flowplane

open Shared

def SameFrom (off : Nat) (p q : Pkt) : Prop := ∀ n k, off <= k -> p.readArray n k = q.readArray n k

section

variable {p q : Pkt} {ipOff : Nat} (same : SameFrom ipOff p q)

include same

lemma readU8_congr (k : Nat) (after : ipOff <= k) : p.readU8 k = q.readU8 k := by
  rw [Pkt.readU8, Pkt.readU8, same 1 k after]

lemma readU16Be_congr (k : Nat) (after : ipOff <= k) : p.readU16Be k = q.readU16Be k := by
  rw [Pkt.readU16Be, Pkt.readU16Be, same 2 k after]

lemma l4Ports_congr : l4Ports p ipOff = l4Ports q ipOff := by
  have word (k : Nat) : p.readU16Be (ipOff + k) = q.readU16Be (ipOff + k) :=
    readU16Be_congr same _ (Nat.le_add_right _ _)
  simp only [l4Ports, same 20 ipOff (le_refl _), Nat.add_assoc, word]

lemma l4PortsV6_congr : l4PortsV6 p ipOff = l4PortsV6 q ipOff := by
  have word (k : Nat) : p.readU16Be (ipOff + k) = q.readU16Be (ipOff + k) :=
    readU16Be_congr same _ (Nat.le_add_right _ _)
  simp only [l4PortsV6, readU8_congr same (ipOff + 6) (Nat.le_add_right _ _), Nat.add_assoc, word]

lemma fwClassify_congr (maps : FwMaps) (ifindex : UInt32) (dir : UInt8) :
  fwClassify p maps ipOff ifindex dir = fwClassify q maps ipOff ifindex dir := by
  have array (n k : Nat) : p.readArray n (ipOff + k) = q.readArray n (ipOff + k) :=
    same n _ (Nat.le_add_right _ _)
  have icmp : icmpTypeCode p ipOff = icmpTypeCode q ipOff := by
    simp only [icmpTypeCode, same 20 ipOff (le_refl _), array]
  have ports : protoPorts p ipOff = protoPorts q ipOff := by
    simp only [protoPorts, l4Ports_congr same, readU8_congr same (ipOff + 9) (Nat.le_add_right _ _)]
  simp only [fwClassify, array, icmp, ports]

lemma fwClassify6_congr (maps : FwMaps6) (ifindex : UInt32) (dir : UInt8) :
  fwClassify6 p maps ipOff ifindex dir = fwClassify6 q maps ipOff ifindex dir := by
  have array (n k : Nat) : p.readArray n (ipOff + k) = q.readArray n (ipOff + k) :=
    same n _ (Nat.le_add_right _ _)
  have byte (k : Nat) : p.readU8 (ipOff + k) = q.readU8 (ipOff + k) :=
    readU8_congr same _ (Nat.le_add_right _ _)
  have icmp : icmpTypeCodeV6 p ipOff = icmpTypeCodeV6 q ipOff := by
    simp only [icmpTypeCodeV6, byte, Nat.add_assoc]
  have ports : protoPorts6 p ipOff = protoPorts6 q ipOff := by
    simp only [protoPorts6, l4PortsV6_congr same, byte]
  simp only [fwClassify6, array, icmp, ports]

end

lemma SameFrom.refl (off : Nat) (p : Pkt) : SameFrom off p p := fun _ _ _ => rfl

lemma SameFrom.trans {off : Nat} {p q r : Pkt} (first : SameFrom off p q) (second : SameFrom off q r) : SameFrom off p r :=
  fun n k after => (first n k after).trans (second n k after)

variable {n off start : Nat} {p q : Pkt}

lemma sameFrom_writeArray {src : Vector UInt8 n}
  (written : p.writeArray start src = some q) (before : start + n <= off) : SameFrom off q p := by
  obtain ⟨within, rfl⟩ := (writeArray_eq_some p start src q).mp written
  intro k from_ after
  exact readArray_splice_apart p start src within k from_ (.inr (by omega))

lemma sameFrom_getD (p : Pkt) (src : Vector UInt8 n) (before : start + n <= off) :
  SameFrom off ((p.writeArray start src).getD p) p := by
  cases written : p.writeArray start src with
  | none => exact SameFrom.refl off p
  | some q => exact sameFrom_writeArray written before

lemma sameFrom_rewriteMacs (p : Pkt) (mac : Vector UInt8 6) : SameFrom ethLen (rewriteMacs p mac) p := by
  exact (sameFrom_getD _ gwMac (by decide)).trans (sameFrom_getD p mac (by decide))

lemma sameFrom_rewriteEth {mac : Vector UInt8 6} {ethertype : UInt16}
  (written : rewriteEth p mac ethertype = some q) : SameFrom ethLen q p := by
  simp only [rewriteEth, Option.bind_eq_bind, Option.bind_eq_some_iff] at written
  obtain ⟨first, dst, second, src, kind⟩ := written
  exact (sameFrom_writeArray kind (by decide)).trans
    ((sameFrom_writeArray src (by decide)).trans (sameFrom_writeArray dst (by decide)))

lemma fwProbeVerdict_cases (specific any : Option Nat) :
  fwProbeVerdict specific any = fwActionAccept \/ fwProbeVerdict specific any = fwActionDrop := by
  unfold fwProbeVerdict
  dsimp only
  split
  · split <;> simp
  · exact .inr rfl

variable (maps : Maps) (fw : FwReads) (ct : Conntrack6) (s : Flows) (pkt : Pkt) (inp : GuestTxIn) (checkDest : Bool)

lemma fwClassify_cases (maps : FwMaps) (ipOff : Nat) (ifindex : UInt32) (dir : UInt8) :
  fwClassify pkt maps ipOff ifindex dir = fwActionAccept \/ fwClassify pkt maps ipOff ifindex dir = fwActionDrop := by
  unfold fwClassify
  split
  · exact .inr rfl
  · dsimp only
    split
    · exact .inr rfl
    · split
      · exact .inr rfl
      · exact fwProbeVerdict_cases _ _

lemma fwClassify6_cases (maps : FwMaps6) (ipOff : Nat) (ifindex : UInt32) (dir : UInt8) :
  fwClassify6 pkt maps ipOff ifindex dir = fwActionAccept \/ fwClassify6 pkt maps ipOff ifindex dir = fwActionDrop := by
  unfold fwClassify6
  split
  · exact .inr rfl
  · dsimp only
    split
    · exact .inr rfl
    · split
      · exact .inr rfl
      · exact fwProbeVerdict_cases _ _

def Gate {K R : Type} [DecidableEq K] (key : Option K) (ct : Map K CtEntry) (action : UInt8)
  (recheck : CtEntry -> Bool) (result unkeyed : R) (refused accepted : K -> R)
  (settled : K -> CtEntry -> R) : Prop :=
  (key = none /\ result = unkeyed) \/ ∃ k, key = some k /\
    ((action = fwActionDrop /\ (∀ e, ct.lookup k = some e -> recheck e = true) /\ result = refused k) \/
      (action = fwActionAccept /\ (∀ e, ct.lookup k = some e -> recheck e = true) /\ result = accepted k) \/
      ∃ e, ct.lookup k = some e /\ recheck e = false /\ result = settled k e)

lemma gate {K R : Type} [DecidableEq K] {key : Option K} {ct : Map K CtEntry} {action : UInt8}
  {recheck : CtEntry -> Bool} {result unkeyed : R} {refused accepted : K -> R}
  {settled : K -> CtEntry -> R} (decided : action = fwActionAccept \/ action = fwActionDrop)
  (none : key = none -> result = unkeyed)
  (refuse : ∀ k, key = some k -> (ct.lookup k).all recheck = true -> action = fwActionDrop -> result = refused k)
  (accept : ∀ k, key = some k -> (ct.lookup k).all recheck = true -> action = fwActionAccept -> result = accepted k)
  (settle : ∀ k e, key = some k -> ct.lookup k = some e -> recheck e = false -> result = settled k e) :
  Gate key ct action recheck result unkeyed refused accepted settled := by
  cases keyed : key with
  | none => exact .inl ⟨rfl, none keyed⟩
  | some k =>
    refine .inr ⟨k, rfl, ?_⟩
    by_cases due : ∀ e, ct.lookup k = some e -> recheck e = true
    · have all : (ct.lookup k).all recheck = true := by
        cases held : ct.lookup k with
        | none => rfl
        | some e => exact due e held
      rcases decided with accepted | refused
      · exact .inr (.inl ⟨accepted, due, accept k keyed all accepted⟩)
      · exact .inl ⟨refused, due, refuse k keyed all refused⟩
    · simp only [not_forall] at due
      obtain ⟨e, held, fresh⟩ := due
      have fresh := Bool.eq_false_iff.mpr fresh
      exact .inr (.inr ⟨e, held, fresh, settle k e keyed held fresh⟩)

lemma accept_ne_drop : ¬ fwActionAccept = fwActionDrop := by decide

lemma sourceCheck_cases (fw : FwReads) (ct : Conntrack) (pkt : Pkt) (inp : GuestTxIn) :
  Gate (ctKey pkt ethLen inp.port.vni) ct (fwClassify pkt fw.first.v4 ethLen inp.srcIfindex fwDirEgress)
    (ctHitRecheck pkt ethLen · fw.epoch) (sourceCheck fw ct pkt inp) (none, ct)
    (fun key => (none, if (ct.lookup key).isSome then forgetFlow invertKey ct key else ct))
    (fun key => (some true, (ct.lookup key).elim ct fun e => ct.insert key { e with policyEpoch := fw.epoch }))
    fun _ _ => (some false, ct) := by
  refine gate (fwClassify_cases _ _ _ _ _) ?_ ?_ ?_ ?_
  · intro unkeyed
    simp [sourceCheck, unkeyed]
  · intro key keyed due refused
    simp only [sourceCheck, keyed, due, refused, if_true, ctForgetDefault_eq ct pkt ethLen _ keyed]
  · intro key keyed due accepted
    simp only [sourceCheck, keyed, due, accepted, accept_ne_drop, if_true, if_false]
  · intro key e keyed held settled
    simp [sourceCheck, keyed, held, settled]

lemma snatEgress_stopped {pkt : Pkt} {nat : NatConfig} {ct : Conntrack} {ipOff : Nat}
  {vni : UInt32} {isExternal : Bool} {now : UInt64} {epoch : UInt32}
  (stopped : (snatEgress pkt nat ct ipOff vni isExternal now epoch).1 ≠ .continue) :
  (snatEgress pkt nat ct ipOff vni isExternal now epoch).2 = (pkt, ct) := by
  unfold snatEgress at stopped ⊢
  split
  · rfl
  · split
    · rfl
    · dsimp only at stopped ⊢
      split
      · rfl
      · split
        · rfl
        · split
          · rfl
          · split
            · rfl
            · simp_all

structure Translation (maps : Maps) (fw : FwReads) (ct : Conntrack) (pkt : Pkt) (inp : GuestTxIn) where
  isDsr : Bool
  afterDsr : Pkt
  dst : Vector UInt8 4
  route : RouteValue
  out : Pkt
  table : Conntrack
  dsr : dsrReverse maps pkt inp.port.vni = some (isDsr, afterDsr)
  read : afterDsr.readArray 4 (ethLen + 16) = some dst
  routed : maps.route4 inp.port.vni dst = some route
  snat : (if isDsr then (.continue, afterDsr, ct) else
    snatEgress afterDsr maps.nat ct ethLen inp.port.vni (route.isExternal != 0) inp.now fw.epoch)
      = (.continue, out, table)

def Translation.tracked {maps : Maps} {fw : FwReads} {s : Flows} {pkt : Pkt} {inp : GuestTxIn}
  (t : Translation maps fw s.conntrack pkt inp) (meter : Map UInt32 MeterState) : Flows :=
  { s with
    conntrack := trackFlow t.table t.out ethLen inp.port.vni inp.now fw.epoch
    meter }

lemma routeGuest_cases : (∃ p, routeGuest maps fw s pkt inp checkDest = (.dropped, p, s)) \/
    (∃ isDsr p dst, dsrReverse maps pkt inp.port.vni = some (isDsr, p) /\
      p.readArray 4 (ethLen + 16) = some dst /\ maps.route4 inp.port.vni dst = none /\
      routeGuest maps fw s pkt inp checkDest = (.passed, p, s)) \/
    (∃ (t : Translation maps fw s.conntrack pkt inp) (meter : Map UInt32 MeterState), t.route.isExternal ≠ 0 /\
      routeGuest maps fw s pkt inp checkDest = (.dropped, t.out, t.tracked meter)) \/
    ∃ (t : Translation maps fw s.conntrack pkt inp) (meter : Map UInt32 MeterState), routeGuest maps fw s pkt inp checkDest
        = deliverGuest maps fw (t.tracked meter) t.out inp checkDest t.dst t.route := by
  unfold routeGuest
  split
  · exact .inl ⟨pkt, rfl⟩
  next isDsr p dsr =>
    split
    · exact .inl ⟨p, rfl⟩
    next dst read =>
      split
      next unrouted => exact .inr (.inl ⟨isDsr, p, dst, dsr, read, unrouted, rfl⟩)
      next route routed =>
        unfold forwardGuest
        dsimp only
        generalize snatted : (if isDsr = true then (SnatOutcome.continue, p, s.conntrack) else
          snatEgress p maps.nat s.conntrack ethLen inp.port.vni (route.isExternal != 0) inp.now fw.epoch) = result
        obtain ⟨outcome, out, table⟩ := result
        split
        next stopped =>
          -- only the NAT stops a frame, and then it has changed nothing
          have plain : isDsr = false := by
            cases isDsr with
            | true =>
              cases snatted
              exact absurd rfl stopped
            | false => rfl
          subst plain
          have kept := congrArg Prod.snd snatted
          have unchanged := snatEgress_stopped (congrArg Prod.fst snatted ▸ stopped)
          rw [if_neg Bool.false_ne_true, unchanged] at kept
          cases kept
          exact .inl ⟨p, rfl⟩
        next continued =>
          have outcome : outcome = .continue := not_not.mp continued
          subst outcome
          let t : Translation maps fw s.conntrack pkt inp :=
            ⟨isDsr, p, dst, route, out, table, dsr, read, routed, snatted⟩
          split
          next exhausted =>
            refine .inr (.inr (.inl ⟨t, _, ?_, rfl⟩))
            intro internal
            have internal : route.isExternal = 0 := internal
            simp [publicPass, internal] at exhausted
          · exact .inr (.inr (.inr ⟨t, _, rfl⟩))

lemma deliverTo_cases (iface : Option IfaceValue) (route : RouteValue) :
  (∃ iv, iface = some iv /\ iv.isLocal ≠ 0 /\ deliverTo maps iface route = .tap iv.tapIfindex iv.guestMac) \/
    ((∀ iv, iface = some iv -> iv.isLocal = 0) /\ (deliverTo maps iface route = .pass \/ ∃ here, maps.localNode = some here /\
          deliverTo maps iface route = .encap (tunnelEncap route) here.uplinkIfindex)) := by
  unfold deliverTo
  split
  next iv found =>
    obtain ⟨held, isLocal⟩ := Option.filter_eq_some_iff.mp found
    exact .inl ⟨iv, held, by simpa using isLocal, rfl⟩
  next missing =>
    refine .inr ⟨?_, ?_⟩
    · intro iv held
      have kept := Option.filter_eq_none_iff.mp missing iv held
      simpa using kept
    · split
      · exact .inl rfl
      next here found => exact .inr ⟨here, found, rfl⟩

lemma deliverGuest_cases (dst : Vector UInt8 4) (route : RouteValue) :
  (∃ iv, maps.ifaces inp.port.vni dst = some iv /\ iv.isLocal ≠ 0 /\ ((checkDest = true /\
        fwClassify pkt fw.second.v4 ethLen iv.tapIfindex fwDirIngress = fwActionDrop /\
        deliverGuest maps fw s pkt inp checkDest dst route = (.dropped, pkt,
          { s with conntrack := ctForgetDefault s.conntrack pkt ethLen inp.port.vni })) \/
      ((checkDest = true -> fwClassify pkt fw.second.v4 ethLen iv.tapIfindex fwDirIngress = fwActionAccept) /\
        deliverGuest maps fw s pkt inp checkDest dst route
          = (⟨.redirect iv.tapIfindex, none, none⟩, rewriteMacs pkt iv.guestMac, s)))) \/
    ((∀ iv, maps.ifaces inp.port.vni dst = some iv -> iv.isLocal = 0) /\
      (deliverGuest maps fw s pkt inp checkDest dst route = (.passed, pkt, s) \/
        ∃ ifindex tstamp tunnel meter, deliverGuest maps fw s pkt inp checkDest dst route
          = (⟨.redirect ifindex, tstamp, some tunnel⟩, pkt, { s with meter }))) := by
  unfold deliverGuest
  rcases deliverTo_cases maps (maps.ifaces inp.port.vni dst) route with
    ⟨iv, held, isLocal, tap⟩ | ⟨remote, pass | ⟨here, _, encap⟩⟩
  · refine .inl ⟨iv, held, isLocal, ?_⟩
    rw [tap]
    dsimp only
    split
    next refused => exact .inl ⟨refused.1, refused.2, rfl⟩
    next admitted =>
      refine .inr ⟨fun checked => ?_, rfl⟩
      exact (fwClassify_cases _ _ _ _ _).resolve_right fun refused => admitted ⟨checked, refused⟩
  · rw [pass]
    exact .inr ⟨remote, .inl rfl⟩
  · rw [encap]
    exact .inr ⟨remote, .inr ⟨_, _, _, _, rfl⟩⟩

-- The IPv6 path. Its firewall stage tracks the frame as it arrives, before any translation.

variable (ipOff : Nat) (vni : UInt32)

lemma ctForgetDefault6_eq {key : CtKey6} (keyed : ctKey6 pkt ipOff vni = some key) :
  ctForgetDefault6 ct pkt ipOff vni = forgetFlow invertKey6 ct key := by
  rw [ctForgetDefault6, keyed]

lemma ctCreateDefault6_eq (now : UInt64) (epoch : UInt32) {key : CtKey6} (keyed : ctKey6 pkt ipOff vni = some key) :
  ctCreateDefault6 ct pkt ipOff vni now epoch
    = seedFlow invertKey6 ct key (defaultEntryBy (tcpFlagsV6 pkt ipOff) now epoch) := by
  rw [ctCreateDefault6, keyed]

lemma egressFwCt6_cases (ifindex vni : UInt32) (now : UInt64) :
  Gate (ctKey6 pkt ipOff vni) ct (fwClassify6 pkt fw.first.v6 ipOff ifindex fwDirEgress)
    (ctHitRecheck6 pkt ipOff · fw.epoch) (egressFwCt6 fw ct pkt ipOff ifindex vni now) (none, ct)
    (fun key => (none, (ct.lookup key).elim ct fun e =>
      forgetFlow invertKey6 (ctRefresh6 ct pkt ipOff key e now fw.epoch) key))
    (fun key => (some true, (ct.lookup key).elim
      (seedFlow invertKey6 ct key (defaultEntryBy (tcpFlagsV6 pkt ipOff) now fw.epoch))
      fun e => ctRefresh6 ct pkt ipOff key e now fw.epoch))
    fun key e => (some false, ctRefresh6 ct pkt ipOff key e now fw.epoch) := by
  refine gate (fwClassify6_cases _ _ _ _ _) ?_ ?_ ?_ ?_
  · intro unkeyed
    simp [egressFwCt6, egressCt6, unkeyed]
  · intro key keyed due refused
    cases held : ct.lookup key with
    | none => simp [egressFwCt6, egressCt6, keyed, held, refused]
    | some e =>
      have due : ctHitRecheck6 pkt ipOff e fw.epoch = true := by simpa [held] using due
      simp [egressFwCt6, egressCt6, keyed, held, due, refused, ctForgetDefault6_eq _ _ _ _ keyed]
  · intro key keyed due accepted
    cases held : ct.lookup key with
    | none =>
      simp [egressFwCt6, egressCt6, keyed, held, accepted, accept_ne_drop, ctCreateDefault6_eq _ _ _ _ _ _ keyed]
    | some e =>
      have due : ctHitRecheck6 pkt ipOff e fw.epoch = true := by simpa [held] using due
      simp [egressFwCt6, egressCt6, keyed, held, due, accepted, accept_ne_drop]
  · intro key e keyed held settled
    simp [egressFwCt6, egressCt6, keyed, held, settled]

structure Translation6 (maps : Maps) (nct : NatCt6) (pkt : Pkt) (inp : GuestTxIn) where
  isDsr : Bool
  afterDsr : Pkt
  out : Pkt
  table : NatCt6
  dsr : dsrReverse6 maps pkt inp.port.vni = (isDsr, afterDsr)
  snat : (if isDsr then (.continue, afterDsr, nct) else
    snatEgress6 afterDsr maps.nat6 nct ethLen inp.port.vni (isExternal6 maps afterDsr inp.port.vni)
      inp.now) = (.continue, out, table)

lemma forwardGuest6_cases : (∃ p nct, forwardGuest6 maps fw s pkt inp checkDest = (.dropped, p, { s with natCt6 := nct })) \/
    ∃ t : Translation6 maps s.natCt6 pkt inp, forwardGuest6 maps fw s pkt inp checkDest
      = deliverGuest6 maps fw { s with natCt6 := t.table } t.out inp checkDest := by
  unfold forwardGuest6
  rcases dsr : dsrReverse6 maps pkt inp.port.vni with ⟨isDsr, afterDsr⟩
  dsimp only
  generalize snatted : (if isDsr = true then (SnatOutcome.continue, afterDsr, s.natCt6) else
    snatEgress6 afterDsr maps.nat6 s.natCt6 ethLen inp.port.vni (isExternal6 maps afterDsr inp.port.vni) inp.now) = result
  obtain ⟨outcome, out, table⟩ := result
  split
  · exact .inl ⟨out, table, rfl⟩
  next continued =>
    have outcome : outcome = .continue := not_not.mp continued
    subst outcome
    exact .inr ⟨⟨isDsr, afterDsr, out, table, dsr, snatted⟩, rfl⟩

lemma deliverGuest6_cases : (∃ dst iv, pkt.readArray 16 (ethLen + 24) = some dst /\
    maps.ifaces6 inp.port.vni dst = some iv /\ iv.isLocal ≠ 0 /\
    ((checkDest = true /\ fwClassify6 pkt fw.second.v6 ethLen iv.tapIfindex fwDirIngress = fwActionDrop /\
        deliverGuest6 maps fw s pkt inp checkDest = (.dropped, pkt,
          { s with conntrack6 := ctForgetDefault6 s.conntrack6 pkt ethLen inp.port.vni })) \/
      ((checkDest = true -> fwClassify6 pkt fw.second.v6 ethLen iv.tapIfindex fwDirIngress = fwActionAccept) /\
        deliverGuest6 maps fw s pkt inp checkDest
          = (⟨.redirect iv.tapIfindex, none, none⟩, rewriteMacs pkt iv.guestMac, s)))) \/
    deliverGuest6 maps fw s pkt inp checkDest = (.passed, pkt, s) \/
    ∃ ifindex tstamp tunnel meter, deliverGuest6 maps fw s pkt inp checkDest
      = (⟨.redirect ifindex, tstamp, some tunnel⟩, pkt, { s with meter }) := by
  unfold deliverGuest6 routeDecision6
  cases read : pkt.readArray 16 (ethLen + 24) with
  | none => exact .inr (.inl rfl)
  | some dst =>
    cases routed : maps.route6 inp.port.vni dst with
    | none =>
      simp only [routed]
      exact .inr (.inl trivial)
    | some route =>
      simp only [routed]
      rcases deliverTo_cases maps (maps.ifaces6 inp.port.vni dst) route with
        ⟨iv, held, isLocal, tap⟩ | ⟨_, pass | ⟨here, _, encap⟩⟩
      · refine .inl ⟨dst, iv, rfl, held, isLocal, ?_⟩
        rw [tap]
        dsimp only
        split
        next refused => exact .inl ⟨refused.1, refused.2, rfl⟩
        next admitted =>
          refine .inr ⟨fun checked => ?_, rfl⟩
          exact (fwClassify6_cases _ _ _ _ _).resolve_right fun refused => admitted ⟨checked, refused⟩
      · rw [pass]
        exact .inr (.inl rfl)
      · rw [encap]
        exact .inr (.inr ⟨_, _, _, _, rfl⟩)

end Ectobase.Flowplane
