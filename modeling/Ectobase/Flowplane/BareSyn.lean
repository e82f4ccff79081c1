import Ectobase.Flowplane.UplinkSteps

namespace Ectobase.Flowplane

open Shared Option FwPolicies Maps

def isBareSyn (flags : UInt8) : Prop := flags &&& (tcpSyn ||| tcpAck) = tcpSyn

instance (flags : UInt8) : Decidable (isBareSyn flags) :=
  inferInstanceAs (Decidable (flags &&& (tcpSyn ||| tcpAck) = tcpSyn))

def BareSyn (pkt : Pkt) : Prop :=
  ∃ hdr flags, pkt.readArray 20 ethLen = some hdr /\ l4Proto hdr = ipprotoTcp /\
    5 <= (ihl hdr).toNat /\ fragmentOffset hdr = 0 /\
    pkt.readU8 (ethLen + (ihl hdr).toNat * 4 + 13) = some flags /\ isBareSyn flags

-- Past extension headers with a length of their own and the header of a first fragment.
def tcpHeaderOff (pkt : Pkt) : Nat -> UInt8 -> Nat -> Option Nat
  | 0, _, _ => none
  | left + 1, nexthdr, off =>
    if nexthdr = ipprotoTcp then some off
    else if nexthdr = 0 \/ nexthdr = 43 \/ nexthdr = 60 then do
      let next <- pkt.readU8 off
      let len <- pkt.readU8 (off + 1)
      tcpHeaderOff pkt left next (off + (len.toNat + 1) * 8)
    else if nexthdr = 44 then do
      let next <- pkt.readU8 off
      let fragment <- pkt.readU16Be (off + 2)
      if fragment >>> 3 ≠ 0 then none else tcpHeaderOff pkt left next (off + 8)
    else none

def BareSyn6 (pkt : Pkt) : Prop := ∃ nexthdr off flags, pkt.readU8 (ethLen + 6) = some nexthdr /\
  tcpHeaderOff pkt pkt.length nexthdr (ethLen + 40) = some off /\
  pkt.readU8 (off + 13) = some flags /\ isBareSyn flags

def PlainHeader (pkt : Pkt) : Prop := ∃ hdr, pkt.readArray 20 ethLen = some hdr /\ ihl hdr = 5

def PlainHeader6 (pkt : Pkt) : Prop := pkt.readU8 (ethLen + 6) = some ipprotoTcp

def Unevaluated {K : Type} [DecidableEq K] (ct : Map K CtEntry) (key : Option K) (epoch : UInt32) : Prop :=
  ∀ k e, key = some k -> ct.lookup k = some e -> e.flags &&& (ctFReply ||| ctRewriteDst) = 0 /\ e.policyEpoch ≠ epoch

def GuestGated (maps : Maps) (fw : FwPolicies) (epoch : UInt32) (s : Flows) (pkt : Pkt) (inp : GuestTxIn) : Prop :=
  let r := processGuestTx maps (fw.steady epoch) s pkt inp
  r.1.action ≠ .drop -> fwClassify pkt fw.v4 ethLen inp.srcIfindex fwDirEgress = fwActionAccept /\
      ∀ tap, r.1.action = .redirect tap -> r.1.tunnel = none ->
        fwClassify r.2.1 fw.v4 ethLen tap fwDirIngress = fwActionAccept

def GuestGated6 (maps : Maps) (fw : FwPolicies) (epoch : UInt32) (s : Flows) (pkt : Pkt) (inp : GuestTxIn) : Prop :=
  let r := processGuestTxV6 maps (fw.steady epoch) s pkt inp
  r.1.action ≠ .drop -> fwClassify6 pkt fw.v6 ethLen inp.srcIfindex fwDirEgress = fwActionAccept /\
      ∀ tap, r.1.action = .redirect tap -> r.1.tunnel = none ->
        fwClassify6 r.2.1 fw.v6 ethLen tap fwDirIngress = fwActionAccept

def UplinkGated (maps : Maps) (fw : FwPolicies) (epoch : UInt32) (s : Flows) (pkt : Pkt) (inp : UplinkIn) : Prop :=
  let r := processUplink maps (fw.steady epoch) s pkt inp
  ∀ tap, r.1.action = .redirect tap \/ r.1.action = .redirectPeer tap -> r.1.tunnel = none ->
    fwClassify r.2.1 fw.v4 ethLen tap fwDirIngress = fwActionAccept

def UplinkGated6 (maps : Maps) (fw : FwPolicies) (epoch : UInt32) (s : Flows) (pkt : Pkt) (inp : UplinkIn) : Prop :=
  let r := processUplinkV6 maps (fw.steady epoch) s pkt inp
  ∀ tap, r.1.action = .redirect tap \/ r.1.action = .redirectPeer tap -> r.1.tunnel = none ->
    fwClassify6 r.2.1 fw.v6 ethLen tap fwDirIngress = fwActionAccept

variable {pkt : Pkt} {e : CtEntry} {ipOff : Nat} {vni : UInt32}

lemma tcpFlags_plain (syn : BareSyn pkt) (plain : PlainHeader pkt) :
  ∃ flags, tcpFlags pkt ethLen = some flags /\ isBareSyn flags := by
  obtain ⟨hdr, flags, header, tcp, _, _, read, bare⟩ := syn
  obtain ⟨hdr', header', short⟩ := plain
  rw [header] at header'
  cases header'
  refine ⟨flags, ?_, bare⟩
  have five : (ihl hdr).toNat * 4 = 20 := by rw [short]; rfl
  rw [five] at read
  simp [tcpFlags, header, tcp, short, read]

lemma tcpFlags_options (options : ¬ PlainHeader pkt) : tcpFlags pkt ethLen = none := by
  cases header : pkt.readArray 20 ethLen with
  | none => simp [tcpFlags, header]
  | some hdr =>
    have long : ¬ ihl hdr = 5 := fun short => options ⟨hdr, header, short⟩
    simp [tcpFlags, header, long]

variable {epoch : UInt32} {key : CtKey} {p : Pkt} {maps : Maps} {nct : NatCt6}

lemma needsRecheck_of_met {flags : Option UInt8} (met : (∃ f, flags = some f /\ isBareSyn f) \/
    (e.flags &&& (ctFReply ||| ctRewriteDst) = 0 /\ e.policyEpoch ≠ epoch)) :
  ctNeedsRecheck e epoch flags = true := by
  rcases met with ⟨f, rfl, bare⟩ | ⟨forward, stale⟩
  · have seen : (f &&& (tcpSyn ||| tcpAck) == tcpSyn) = true := beq_iff_eq.mpr bare
    simp [ctNeedsRecheck, seen]
  · simp [ctNeedsRecheck, forward, stale]

lemma needsRecheck_none : ctNeedsRecheck e epoch none = true ↔
    e.flags &&& (ctFReply ||| ctRewriteDst) = 0 /\ e.policyEpoch ≠ epoch := by
  simp [ctNeedsRecheck]

lemma evaluated_of_not {K : Type} [DecidableEq K] {ct : Map K CtEntry} {key : Option K}
  (evaluated : ¬ Unevaluated ct key epoch) :
  ∃ k e, key = some k /\ ct.lookup k = some e /\ ctNeedsRecheck e epoch none = false := by
  simp only [Unevaluated, not_forall] at evaluated
  obtain ⟨k, e, keyed, held, fresh⟩ := evaluated
  exact ⟨k, e, keyed, held, Bool.eq_false_iff.mpr fun due => fresh (needsRecheck_none.mp due)⟩

def Maps.blank : Maps where
  localNode := none
  underlay _ := none
  route4 _ _ := none
  route6 _ _ := none
  ifaces _ _ := none
  ifaces6 _ _ := none
  portMeta _ := none
  nat := ∅
  nat6 := ∅
  isNatIp _ _ := false
  isNatIp6 _ _ := false
  natOwner _ _ := none
  natOwner6 _ _ := none
  lb _ := none
  lb6 _ := none
  maglev _ := none
  floatingIp _ _ := none
  dsr _ := none
  dsr6 _ := none

def FwPolicies.closed : FwPolicies where
  fwBind _ := none
  fwClass4 _ _ := none
  fwPolicy4 _ _ := none
  fwClass6 _ _ := none
  fwPolicy6 _ _ := none

lemma fwClassify_closed (pkt : Pkt) (ipOff : Nat) (ifindex : UInt32) (dir : UInt8) :
  fwClassify pkt closed.v4 ipOff ifindex dir = fwActionDrop := rfl

lemma fwClassify6_closed (pkt : Pkt) (ipOff : Nat) (ifindex : UInt32) (dir : UInt8) :
  fwClassify6 pkt closed.v6 ipOff ifindex dir = fwActionDrop := rfl

lemma readDst_of_ctKey (keyed : ctKey pkt ipOff vni = some key) : pkt.readArray 4 (ipOff + 16) = some key.dstIp := by
  simp only [ctKey, bind_eq_bind, bind_eq_some_iff] at keyed
  obtain ⟨src, _, dst, read, same⟩ := keyed
  cases same
  exact read

lemma readDst_of_ctKey6 {key : CtKey6} (keyed : ctKey6 pkt ipOff vni = some key) :
  pkt.readArray 16 (ipOff + 24) = some key.dstIp := by
  simp only [ctKey6, bind_eq_bind, bind_eq_some_iff] at keyed
  obtain ⟨src, _, dst, read, same⟩ := keyed
  cases same
  exact read

def Maps.tunnelled : Maps := { blank with
  localNode := some ⟨1, Vector.replicate 6 0, Octets.zero 16⟩
  route4 := fun _ _ => some ⟨0, Octets.zero 16, 0⟩
  route6 := fun _ _ => some ⟨0, Octets.zero 16, 0⟩ }

lemma processGuestTx_unchecked (fw : FwReads) (s : Flows) {inp : GuestTxIn}
  (keyed : ctKey pkt ethLen inp.port.vni = some key) (held : s.conntrack.lookup key = some e)
  (settled : ctHitRecheck pkt ethLen e fw.epoch = false) :
  (processGuestTx tunnelled fw s pkt inp).1.action = .redirect 1 := by
  have passed : sourceCheck fw s.conntrack pkt inp = (some false, s.conntrack) := by
    simp [sourceCheck, keyed, held, settled]
  have plain : dsrReverse tunnelled pkt inp.port.vni = some (false, pkt) := by
    simp [dsrReverse, keyed, tunnelled, blank]
  simp only [processGuestTx, passed, routeGuest, plain, readDst_of_ctKey keyed]
  simp [forwardGuest, snatEgress, publicPass, deliverGuest, deliverTo, tunnelled, blank]

lemma guestGated_iff (pkt : Pkt) (inp : GuestTxIn) (epoch : UInt32) (ct : Conntrack) (syn : BareSyn pkt) :
  (∀ maps fw s, s.conntrack = ct -> GuestGated maps fw epoch s pkt inp) ↔
    PlainHeader pkt \/ Unevaluated ct (ctKey pkt ethLen inp.port.vni) epoch := by
  constructor
  · intro gated
    by_contra unmet
    obtain ⟨options, evaluated⟩ := not_or.mp unmet
    obtain ⟨key, e, keyed, held, settled⟩ := evaluated_of_not evaluated
    have skipped : ctHitRecheck pkt ethLen e epoch = false := by
      rw [ctHitRecheck, tcpFlags_options options]
      exact settled
    have sent := processGuestTx_unchecked (closed.steady epoch) ⟨ct, ∅, ∅, ∅⟩ keyed held skipped
    have accepted := gated tunnelled closed ⟨ct, ∅, ∅, ∅⟩ rfl (by simp only [sent]; decide)
    rw [fwClassify_closed] at accepted
    exact absurd accepted.1 (by decide)
  · intro met maps fw s here forwarded
    subst here
    unfold processGuestTx at forwarded ⊢
    rcases sourceCheck_cases (fw.steady epoch) s.conntrack pkt inp with
      ⟨_, dropped⟩ | ⟨key, keyed, ⟨_, _, dropped⟩ | ⟨accepted, _, passed⟩ | ⟨e, held, settled, _⟩⟩
    · rw [dropped] at forwarded
      exact absurd rfl forwarded
    · rw [dropped] at forwarded
      exact absurd rfl forwarded
    · rw [passed] at forwarded ⊢
      dsimp only at forwarded ⊢
      refine ⟨accepted, fun tap delivered direct => ?_⟩
      rcases routeGuest_cases maps (fw.steady epoch) _ pkt inp true with
        ⟨p, dropped⟩ | ⟨_, p, _, _, _, _, pass⟩ | ⟨t, meter, _, dropped⟩ | ⟨t, meter, tail⟩
      · rw [dropped] at forwarded
        exact absurd rfl forwarded
      · rw [pass] at delivered
        cases delivered
      · rw [dropped] at forwarded
        exact absurd rfl forwarded
      · rw [tail] at forwarded delivered direct ⊢
        rcases deliverGuest_cases maps (fw.steady epoch) (t.tracked meter) t.out inp true t.dst t.route with
          ⟨iv, _, _, ⟨_, _, dropped⟩ | ⟨admitted, sent⟩⟩ | ⟨_, pass | ⟨_, _, tunnel, _, encap⟩⟩
        · rw [dropped] at forwarded
          exact absurd rfl forwarded
        · rw [sent] at delivered ⊢
          cases delivered
          rw [fwClassify_congr (sameFrom_rewriteMacs t.out iv.guestMac)]
          exact admitted rfl
        · rw [pass] at delivered
          cases delivered
        · rw [encap] at direct
          cases direct
    · -- a hit that skips the firewall is neither stale nor a SYN the recheck sees
      have due : ctHitRecheck pkt ethLen e epoch = true := by
        apply needsRecheck_of_met
        rcases met with plain | stale
        · exact .inl (tcpFlags_plain syn plain)
        · exact .inr (stale key e keyed held)
      exact absurd (settled.symm.trans due) Bool.false_ne_true

lemma tcpFlagsV6_plain (syn : BareSyn6 pkt) (plain : PlainHeader6 pkt) :
  ∃ flags, tcpFlagsV6 pkt ethLen = some flags /\ isBareSyn flags := by
  obtain ⟨nexthdr, off, flags, next, walked, read, bare⟩ := syn
  have tcp : nexthdr = ipprotoTcp := mem_unique next plain
  subst tcp
  have here : off = ethLen + 40 := by
    cases length : pkt.length with
    | zero => simp [length, tcpHeaderOff] at walked
    | succ left => simpa [length, tcpHeaderOff] using walked.symm
  subst here
  exact ⟨flags, by simp [tcpFlagsV6, next, read], bare⟩

lemma tcpFlagsV6_extended (extended : ¬ PlainHeader6 pkt) : tcpFlagsV6 pkt ethLen = none :=
  if_pos extended

lemma hitRecheck6_of_met (syn : BareSyn6 pkt) {ct : Conntrack6} {key : CtKey6}
  (met : PlainHeader6 pkt \/ Unevaluated ct (ctKey6 pkt ethLen vni) epoch) (keyed : ctKey6 pkt ethLen vni = some key)
  (held : ct.lookup key = some e) : ctHitRecheck6 pkt ethLen e epoch = true := by
  apply needsRecheck_of_met
  rcases met with plain | stale
  · exact .inl (tcpFlagsV6_plain syn plain)
  · exact .inr (stale key e keyed held)

lemma processGuestTxV6_unchecked (fw : FwReads) (s : Flows) {inp : GuestTxIn} {key : CtKey6}
  (keyed : ctKey6 pkt ethLen inp.port.vni = some key) (held : s.conntrack6.lookup key = some e)
  (settled : ctHitRecheck6 pkt ethLen e fw.epoch = false) :
  (processGuestTxV6 tunnelled fw s pkt inp).1.action = .redirect 1 := by
  have passed : egressFwCt6 fw s.conntrack6 pkt ethLen inp.srcIfindex inp.port.vni inp.now
    = (some false, ctRefresh6 s.conntrack6 pkt ethLen key e inp.now fw.epoch) := by
    simp [egressFwCt6, egressCt6, keyed, held, settled]
  have plain : dsrReverse6 tunnelled pkt inp.port.vni = (false, pkt) := by
    simp [dsrReverse6, keyed, tunnelled, blank]
  have internal : isExternal6 tunnelled pkt inp.port.vni = false := by
    simp [isExternal6, readDst_of_ctKey6 keyed, tunnelled, blank]
  simp only [processGuestTxV6, passed, forwardGuest6, plain, internal, snatEgress6]
  simp [deliverGuest6, routeDecision6, readDst_of_ctKey6 keyed, deliverTo, tunnelled, blank]

lemma guestGated6_iff (pkt : Pkt) (inp : GuestTxIn) (epoch : UInt32) (ct : Conntrack6) (syn : BareSyn6 pkt) :
  (∀ maps fw s, s.conntrack6 = ct -> GuestGated6 maps fw epoch s pkt inp) ↔
    PlainHeader6 pkt \/ Unevaluated ct (ctKey6 pkt ethLen inp.port.vni) epoch := by
  constructor
  · intro gated
    by_contra unmet
    obtain ⟨extended, evaluated⟩ := not_or.mp unmet
    obtain ⟨key, e, keyed, held, settled⟩ := evaluated_of_not evaluated
    have skipped : ctHitRecheck6 pkt ethLen e epoch = false := by
      rw [ctHitRecheck6, tcpFlagsV6_extended extended]
      exact settled
    have sent := processGuestTxV6_unchecked (closed.steady epoch) ⟨∅, ct, ∅, ∅⟩ keyed held skipped
    have accepted := gated tunnelled closed ⟨∅, ct, ∅, ∅⟩ rfl (by simp only [sent]; decide)
    rw [fwClassify6_closed] at accepted
    exact absurd accepted.1 (by decide)
  · intro met maps fw s here forwarded
    subst here
    unfold processGuestTxV6 at forwarded ⊢
    rcases egressFwCt6_cases (fw.steady epoch) s.conntrack6 pkt ethLen inp.srcIfindex inp.port.vni inp.now with
      ⟨_, dropped⟩ | ⟨key, keyed, ⟨_, _, dropped⟩ | ⟨accepted, _, passed⟩ | ⟨e, held, settled, _⟩⟩
    · rw [dropped] at forwarded
      exact absurd rfl forwarded
    · rw [dropped] at forwarded
      exact absurd rfl forwarded
    · rw [passed] at forwarded ⊢
      dsimp only at forwarded ⊢
      refine ⟨accepted, fun tap delivered direct => ?_⟩
      rcases forwardGuest6_cases maps (fw.steady epoch) _ pkt inp true with ⟨p, _, dropped⟩ | ⟨t, tail⟩
      · rw [dropped] at forwarded
        exact absurd rfl forwarded
      · rw [tail] at forwarded delivered direct ⊢
        rcases deliverGuest6_cases maps (fw.steady epoch) _ t.out inp true with
          ⟨_, iv, _, _, _, ⟨_, _, dropped⟩ | ⟨admitted, sent⟩⟩ | pass | ⟨_, _, tunnel, _, encap⟩
        · rw [dropped] at forwarded
          exact absurd rfl forwarded
        · rw [sent] at delivered ⊢
          cases delivered
          rw [fwClassify6_congr (sameFrom_rewriteMacs t.out iv.guestMac)]
          exact admitted rfl
        · rw [pass] at delivered
          cases delivered
        · rw [encap] at direct
          cases direct
    · exact absurd (settled.symm.trans (hitRecheck6_of_met syn met keyed held)) Bool.false_ne_true

-- The uplink. A packet to a floating address meets the firewall under the guest's address.

lemma length_dnatL4 (pkt : Pkt) (l4 : Nat) (proto : UInt8) (old new : Vector UInt8 4) :
  (dnatL4 pkt l4 proto old new).length = pkt.length := by
  unfold dnatL4
  split
  · split <;> simp [length_writeArray_getD]
  · split
    · split <;> simp [length_writeArray_getD]
    · rfl

lemma dnatL4_byte (pkt : Pkt) (l4 : Nat) (old new : Vector UInt8 4) (i : Nat) (before : i < l4 + 16) :
  (dnatL4 pkt l4 ipprotoTcp old new)[i]? = pkt[i]? := by
  unfold dnatL4
  rw [if_pos rfl]
  split
  · rfl
  next h read =>
    have within := readArray_le pkt l4 read
    rw [writeArray_of_within pkt l4 _ within, getD_some,
      splice_copyAt pkt l4 read _ (by decide), getElem?_splice pkt _ _ (by omega), if_neg (by omega)]

lemma floatingIpDnatRewrite_eq {hdr : Vector UInt8 20}
  (header : pkt.readArray 20 ipOff = some hdr) (old new : Vector UInt8 4) :
  ∃ check : Vector UInt8 2, floatingIpDnatRewrite pkt ipOff old new
    = dnatL4 (splice (splice pkt (ipOff + 16) new) (ipOff + 10) check)
        (ipOff + (ihl hdr).toNat * 4) (l4Proto hdr) old new := by
  have fits := readArray_le pkt ipOff header
  have addr : ipOff + 16 + 4 <= pkt.length := by omega
  have first := length_splice pkt (ipOff + 16) new addr
  have second (check : Vector UInt8 2) := length_splice (splice pkt (ipOff + 16) new) (ipOff + 10) check (by omega)
  obtain ⟨word, found⟩ := readArray_of_within (n := 2) (splice pkt (ipOff + 16) new) (ipOff + 10) (by omega)
  obtain ⟨check, here⟩ : ∃ check, be16 (csumReplace4 (fromBeBytes word[0] word[1]) old new) = check :=
    ⟨_, rfl⟩
  -- the bytes that say where the L4 header is are not written
  have byte (k : Nat) (before : k < 10) :
    (splice (splice pkt (ipOff + 16) new) (ipOff + 10) check).readU8 (ipOff + k) = some hdr[k] := by
    rw [readU8_eq, getElem?_splice _ _ check (by omega), if_neg (by omega),
      getElem?_splice pkt _ new addr, if_neg (by omega), readArray_byte pkt ipOff header k (by omega)]
  have start : (splice (splice pkt (ipOff + 16) new) (ipOff + 10) check).readU8 ipOff = some hdr[0] :=
    byte 0 (by decide)
  refine ⟨check, ?_⟩
  simp only [floatingIpDnatRewrite, writeArray_of_within pkt _ new addr, Pkt.readU16Be, found,
    map_some, here, writeArray_of_within (splice pkt (ipOff + 16) new) (ipOff + 10) check (by omega),
    getD_some, start, byte 9 (by decide)]

lemma tcpFlags_bytes {q : Pkt} (length : p.length = q.length) (start : p[ipOff]? = q[ipOff]?)
  (proto : p[ipOff + 9]? = q[ipOff + 9]?) (flags : p[ipOff + 33]? = q[ipOff + 33]?) :
  tcpFlags p ipOff = tcpFlags q ipOff := by
  unfold tcpFlags
  rw [readU8_eq, readU8_eq, show ipOff + 20 + 13 = ipOff + 33 from rfl, flags]
  cases header : q.readArray 20 ipOff with
  | none =>
    have short := (Pkt.readArray_eq_none q 20 ipOff).mp header
    rw [(Pkt.readArray_eq_none p 20 ipOff).mpr (by omega)]
  | some hdr =>
    obtain ⟨hdr', header'⟩ := readArray_of_within (n := 20) p ipOff (by have := readArray_le q ipOff header; omega)
    have first : hdr'[0] = hdr[0] := by
      have here := readArray_byte p ipOff header' 0 (by decide)
      have there := readArray_byte q ipOff header 0 (by decide)
      rw [Nat.add_zero] at here there
      exact mem_unique here (start.trans there)
    have ninth : l4Proto hdr' = l4Proto hdr := by
      have here := readArray_byte p ipOff header' 9 (by decide)
      have there := readArray_byte q ipOff header 9 (by decide)
      exact mem_unique here (proto.trans there)
    simp [header', ihl, first, ninth]

lemma tcpFlags_floating (syn : BareSyn pkt) (old new : Vector UInt8 4) :
  tcpFlags (floatingIpDnatRewrite pkt ethLen old new) ethLen = tcpFlags pkt ethLen := by
  obtain ⟨hdr, flags, header, tcp, long, _, _, _⟩ := syn
  have fits := readArray_le pkt ethLen header
  obtain ⟨check, rewritten⟩ := floatingIpDnatRewrite_eq header old new
  rw [tcp] at rewritten
  have addr : ethLen + 16 + 4 <= pkt.length := by omega
  have first := length_splice pkt (ethLen + 16) new addr
  have second := length_splice (splice pkt (ethLen + 16) new) (ethLen + 10) check (by omega)
  have byte (i : Nat) (outside : i < ethLen + 10 \/ i = ethLen + 33) :
    (floatingIpDnatRewrite pkt ethLen old new)[i]? = pkt[i]? := by
    rw [rewritten, dnatL4_byte _ _ _ _ _ (by omega), getElem?_splice _ _ check (by omega),
      if_neg (by omega), getElem?_splice pkt _ new addr, if_neg (by omega)]
  apply tcpFlags_bytes
  · rw [rewritten, length_dnatL4, second, first]
  · exact byte _ (.inl (by omega))
  · exact byte _ (.inl (by omega))
  · exact byte _ (.inr rfl)

def UnevaluatedUplink (ct : Conntrack) (pkt : Pkt) (vni epoch : UInt32) : Prop :=
  Unevaluated ct (ctKey pkt ethLen vni) epoch /\ ∀ dst g, pkt.readArray 4 (ethLen + 16) = some dst ->
      Unevaluated ct (ctKey (floatingIpDnatRewrite pkt ethLen dst g) ethLen vni) epoch

def Maps.delivering (floating : Option (Vector UInt8 4)) : Maps := { blank with
  ifaces := fun _ _ => some ⟨7, 1, Vector.replicate 6 0, 0⟩
  ifaces6 := fun _ _ => some ⟨7, 1, Vector.replicate 6 0, 0⟩
  floatingIp := fun _ _ => floating }

lemma lbSelectForwardIcmpError_tcp (syn : BareSyn pkt) (maps : Maps) (vni : UInt32) :
  lbSelectForwardIcmpError pkt maps ethLen vni = none := by
  obtain ⟨hdr, _, header, tcp, _⟩ := syn
  have proto : pkt.readU8 (ethLen + 9) = some ipprotoTcp := by
    rw [readU8_eq, readArray_byte pkt ethLen header 9 (by decide)]
    exact congrArg some tcp
  have other : ¬ ipprotoTcp = 1 := by decide
  cases start : pkt.readU8 ethLen with
  | none => simp [lbSelectForwardIcmpError, start]
  | some verIhl => simp [lbSelectForwardIcmpError, start, proto, other]

lemma processUplink_unchecked (fw : FwReads) (ct : Conntrack) {inp : UplinkIn}
  {floating : Option (Vector UInt8 4)} (syn : BareSyn pkt)
  (handed : baseRoute (delivering floating) pkt inp = (.tap 7 (Vector.replicate 6 0) false
    false, p)) (keyed : ctKey p ethLen inp.vni = some key) (held : ct.lookup key = some e)
  (settled : ctHitRecheck p ethLen e fw.epoch = false) :
  (processUplink (delivering floating) fw ⟨ct, ∅, ∅, ∅⟩ pkt inp).1 = ⟨.redirect 7, none⟩ := by
  have routed : uplinkRoute (delivering floating) pkt inp = (false, .tap 7 (Vector.replicate 6 0) false false, p) := by
    have unbalanced : lbSelectForward pkt (delivering floating) ethLen inp.vni = none := by
      simp [lbSelectForward, delivering, blank]
    simp [uplinkRoute, lbSelectForwardIcmpError_tcp syn, unbalanced, handed]
  have admitted : uplinkIngressFirewall fw ct p ethLen inp.vni 7 = (some fw.epoch, ct) := by
    simp [uplinkIngressFirewall, keyed, held, settled]
  have header : 14 <= p.length := by
    have read := readArray_le p _ (readDst_of_ctKey keyed)
    omega
  have sent := decapAndRewrite_of_header header 7 (Vector.replicate 6 0) ethPIp (resolveDeliveryL3 (delivering floating) 7)
  simp [processUplink, routed, admitUplink, admitted, deliverUplink, sent, ingressPass]

lemma target_delivering (floating : Option (Vector UInt8 4)) (vni : UInt32) (dst : Vector UInt8 4)
  (node : Local) : (resolveUplinkTarget (delivering floating) vni dst node).route
    = .tap 7 (Vector.replicate 6 0) false false := rfl

lemma uplinkGated_iff (pkt : Pkt) (inp : UplinkIn) (epoch : UInt32) (ct : Conntrack) (syn : BareSyn pkt) :
  (∀ maps fw s, s.conntrack = ct -> UplinkGated maps fw epoch s pkt inp) ↔
    PlainHeader pkt \/ UnevaluatedUplink ct pkt inp.vni epoch := by
  constructor
  · intro gated
    by_contra unmet
    obtain ⟨options, evaluated⟩ := not_or.mp unmet
    -- a node that delivers the packet the settled entry belongs to
    obtain ⟨floating, p, key, e, handed, unseen, keyed, held, settled⟩ :
      ∃ floating p key e, baseRoute (delivering floating) pkt inp
          = (.tap 7 (Vector.replicate 6 0) false false, p) /\ tcpFlags p ethLen = none /\
        ctKey p ethLen inp.vni = some key /\ ct.lookup key = some e /\
        ctNeedsRecheck e epoch none = false := by
      have unseen := tcpFlags_options options
      rcases not_and_or.mp evaluated with plain | rewritten
      · obtain ⟨key, e, keyed, held, settled⟩ := evaluated_of_not plain
        refine ⟨none, pkt, key, e, ?_, unseen, keyed, held, settled⟩
        have here : (delivering none).floatingIp inp.vni key.dstIp = none := rfl
        have unowned : ((l4Ports pkt ethLen).bind fun ports =>
            neighborNatOwner (delivering none) inp.vni key.dstIp ports.2.2) = none := by
          cases l4Ports pkt ethLen <;> rfl
        simp only [baseRoute, readDst_of_ctKey keyed, here, unowned, target_delivering]
      · simp only [not_forall] at rewritten
        obtain ⟨dst, g, read, rewritten⟩ := rewritten
        obtain ⟨key, e, keyed, held, settled⟩ := evaluated_of_not rewritten
        refine ⟨some g, _, key, e, ?_, by rw [tcpFlags_floating syn, unseen], keyed, held, settled⟩
        have here : (delivering (some g)).floatingIp inp.vni dst = some g := rfl
        simp only [baseRoute, read, here, target_delivering]
    have skipped : ctHitRecheck p ethLen e epoch = false := by
      rw [ctHitRecheck, unseen]
      exact settled
    have sent := processUplink_unchecked (closed.steady epoch) ct syn handed keyed held skipped
    have accepted := gated (delivering floating) closed ⟨ct, ∅, ∅, ∅⟩ rfl 7 (.inl (by rw [sent])) (by rw [sent])
    rw [fwClassify_closed] at accepted
    exact absurd accepted (by decide)
  · intro met maps fw s here tap delivered direct
    subst here
    rcases processUplink_cases maps (fw.steady epoch) s pkt inp with
      ⟨out, p, result, away⟩ | ⟨isIcmpRelay, tap', guestMac, isLb, peerCapable, p, routed, result⟩
    · rw [result] at delivered direct
      exact absurd delivered (not_or.mpr (away direct tap))
    · obtain ⟨relayed, handed⟩ := uplinkRoute_cases routed
      have firewalled : isIcmpRelay = false := by
        refine Bool.eq_false_iff.mpr fun relay => ?_
        have error := relayed relay
        rw [lbSelectForwardIcmpError_tcp syn] at error
        cases error
      have due (key : CtKey) (e : CtEntry) (keyed : ctKey p ethLen inp.vni = some key)
        (held : s.conntrack.lookup key = some e) : ctHitRecheck p ethLen e epoch = true := by
        have flags : tcpFlags p ethLen = tcpFlags pkt ethLen := by
          rcases handed with rfl | ⟨_, dst, g, _, _, rfl⟩
          · rfl
          · exact tcpFlags_floating syn dst g
        apply needsRecheck_of_met
        rw [flags]
        rcases met with plain | stale
        · exact .inl (tcpFlags_plain syn plain)
        · rcases handed with rfl | ⟨_, dst, g, read, _, rfl⟩
          · exact .inr (stale.1 key e keyed held)
          · exact .inr (stale.2 dst g read key e keyed held)
      rw [result] at delivered ⊢
      rcases admitUplink_cases maps (fw.steady epoch) s p inp isIcmpRelay tap' guestMac isLb
        peerCapable with ⟨_, _, _, dropped⟩ | ⟨checked, action, q, meter, same, sent, admitted⟩
      · simp [dropped, UplinkOut.dropped] at delivered
      · rw [admitted] at delivered ⊢
        have here : tap' = tap := by
          rcases sent with rfl | rfl
          · simp at delivered
          · cases peerCapable <;> simpa using delivered
        rw [<- here, fwClassify_congr same]
        rcases uplinkIngressFirewall_cases (fw.steady epoch) s.conntrack p inp.vni tap' with
          ⟨_, dropped⟩ | ⟨key, keyed, ⟨_, _, dropped⟩ | ⟨accepted, _⟩ | ⟨e, held, settled, _⟩⟩
        · rw [checked firewalled] at dropped
          cases dropped
        · rw [checked firewalled] at dropped
          cases dropped
        · exact accepted
        · exact absurd (settled.symm.trans (due key e keyed held)) Bool.false_ne_true

-- Taken for the return of a NAT66 flow.
def NatReturn6 (maps : Maps) (nct : NatCt6) (pkt : Pkt) (vni : UInt32) : Prop :=
  ∃ key isIcmpError e, natReturnKey6 maps pkt vni = some (key, isIcmpError) /\
    nct.lookup key = some e /\ e.flags &&& ctRewriteDst ≠ 0

lemma natReturnDnat6_eq_none : natReturnDnat6 maps nct pkt vni = none ↔ ¬ NatReturn6 maps nct pkt vni := by
  unfold natReturnDnat6
  split
  next unkeyed => simp [NatReturn6, unkeyed]
  next key isIcmpError keyed =>
    cases held : nct.lookup key with
    | none => simp [NatReturn6, keyed, held]
    | some e =>
      by_cases rewrites : e.flags &&& ctRewriteDst = 0
      · simp [NatReturn6, keyed, held, rewrites, filter_some]
      · simp [NatReturn6, keyed, held, rewrites, filter_some]

lemma lbSelectForwardIcmpErrorV6_tcp (syn : BareSyn6 pkt) (maps : Maps) (vni : UInt32) :
  lbSelectForwardIcmpErrorV6 pkt maps ethLen vni = none := by
  obtain ⟨nexthdr, off, _, next, walked, _⟩ := syn
  have other : nexthdr ≠ 58 := by
    rintro rfl
    cases length : pkt.length <;> simp [length, tcpHeaderOff, ipprotoTcp] at walked
  simp [lbSelectForwardIcmpErrorV6, next, other]

lemma length_natReturnRewrite6 (pkt : Pkt) (ipOff : Nat) (e : CtEntry6) :
  (natReturnRewrite6 pkt ipOff e).length = pkt.length := by
  unfold natReturnRewrite6
  split
  · rfl
  · dsimp only
    split
    · rfl
    next q written =>
      obtain ⟨within, rfl⟩ := (writeArray_eq_some pkt _ _ q).mp written
      rw [<- length_splice pkt (ipOff + 24) e.xlateIp6 within]
      split
      · split <;> simp [length_writeArray_getD]
      · split
        · split <;> simp [length_writeArray_getD]
        · split
          · split <;> simp [length_writeArray_getD]
          · rfl

lemma length_natReturnDnat6 (syn : BareSyn6 pkt) (maps : Maps) (nct : NatCt6) (vni : UInt32) :
  ((natReturnDnat6 maps nct pkt vni).getD pkt).length = pkt.length := by
  obtain ⟨nexthdr, off, _, next, walked, _⟩ := syn
  have other : nexthdr ≠ ipprotoIcmpv6 := by
    rintro rfl
    cases length : pkt.length <;> simp [length, tcpHeaderOff, ipprotoTcp, ipprotoIcmpv6] at walked
  have own : natIcmpErrorOrigin6 pkt ethLen = none := by
    simp [natIcmpErrorOrigin6, next, other]
  unfold natReturnDnat6
  split
  · rfl
  next key isIcmpError keyed =>
    have plain : isIcmpError = false := by
      unfold natReturnKey6 at keyed
      split at keyed
      · cases keyed
      · split at keyed
        · cases keyed
        · simpa [own] using (congrArg (Option.map Prod.snd) keyed).symm
    split
    · rfl
    next e _ =>
      rw [plain]
      exact length_natReturnRewrite6 pkt ethLen e

def Maps.delivering6 (natIps : UInt32 -> Vector UInt8 16 -> Bool) : Maps :=
  { delivering none with isNatIp6 := natIps }

lemma uplinkRoute6_delivering (natIps : UInt32 -> Vector UInt8 16 -> Bool)
  (long : ethLen + 40 <= pkt.length) (inp : UplinkIn) :
  uplinkRoute6 (delivering6 natIps) pkt inp = (false, .tap 7 (Vector.replicate 6 0) false false) := by
  obtain ⟨dst, read⟩ := readArray_of_within (n := 16) pkt (ethLen + 24) (by omega)
  have relayed : lbSelectForwardIcmpErrorV6 pkt (delivering6 natIps) ethLen inp.vni = none := by
    simp [lbSelectForwardIcmpErrorV6, delivering6, delivering, blank]
  have unbalanced : lbSelectForwardV6 pkt (delivering6 natIps) ethLen inp.vni = none := by
    simp [lbSelectForwardV6, delivering6, delivering, blank]
  have unowned : ((l4PortsV6 pkt ethLen).bind fun ports =>
      neighborNatOwner6 (delivering6 natIps) inp.vni dst ports.2.2) = none := by
    cases l4PortsV6 pkt ethLen <;> rfl
  have target : (resolveUplinkTarget6 (delivering6 natIps) inp.vni dst inp.node).route
    = .tap 7 (Vector.replicate 6 0) false false := rfl
  simp only [uplinkRoute6, relayed, unbalanced, none_or, baseRoute6, read, unowned, target]

lemma processUplinkV6_delivering (fw : FwReads) (s : Flows) {inp : UplinkIn}
  (natIps : UInt32 -> Vector UInt8 16 -> Bool) (long : ethLen + 40 <= ((natReturnDnat6
    (delivering6 natIps) s.natCt6 pkt inp.vni).getD pkt).length)
  (unchecked : natReturnDnat6 (delivering6 natIps) s.natCt6 pkt inp.vni = none ->
    uplinkIngressFirewall6 fw s.conntrack6 pkt ethLen inp.vni 7 = (some fw.epoch, s.conntrack6)) :
  (processUplinkV6 (delivering6 natIps) fw s pkt inp).1 = ⟨.redirect 7, none⟩ := by
  simp only [processUplinkV6, uplinkRoute6_delivering natIps long]
  have header : 14 <= ((natReturnDnat6 (delivering6 natIps) s.natCt6 pkt inp.vni).getD pkt).length := by
    have fixed : ethLen = 14 := rfl
    omega
  have sent := decapAndRewrite_of_header header 7 (Vector.replicate 6 0) ethPIpv6 (resolveDeliveryL3 (delivering6 natIps) 7)
  cases nat : natReturnDnat6 (delivering6 natIps) s.natCt6 pkt inp.vni with
  | none =>
    rw [nat] at sent
    simp only [getD_none] at sent
    simp [admitUplink6, unchecked nat, sent]
  | some p =>
    rw [nat] at sent
    simp only [getD_some] at sent
    simp [admitUplink6, sent]

lemma natReturnDnat6_congr (maps node : Maps) (same : maps.isNatIp6 = node.isNatIp6) (nct : NatCt6)
  (pkt : Pkt) (vni : UInt32) : natReturnDnat6 maps nct pkt vni = natReturnDnat6 node nct pkt vni := by
  simp only [natReturnDnat6, natReturnKey6, same]

lemma length_of_natReturn6 (returned : NatReturn6 maps nct pkt vni) : ethLen + 40 <= pkt.length := by
  obtain ⟨_, _, _, keyed, _⟩ := returned
  unfold natReturnKey6 at keyed
  split at keyed
  · cases keyed
  next key found =>
    have read := readArray_le pkt _ (readDst_of_ctKey6 found)
    omega

lemma uplinkGated6_iff (pkt : Pkt) (inp : UplinkIn) (epoch : UInt32) (ct : Conntrack6) (nct : NatCt6)
  (node : Maps) (syn : BareSyn6 pkt) :
  (∀ maps fw s, maps.isNatIp6 = node.isNatIp6 -> s.conntrack6 = ct -> s.natCt6 = nct ->
    UplinkGated6 maps fw epoch s pkt inp) ↔
    ¬ NatReturn6 node nct pkt inp.vni /\ (PlainHeader6 pkt \/ Unevaluated ct (ctKey6 pkt ethLen inp.vni) epoch) := by
  constructor
  · intro gated
    have refused (sent : (processUplinkV6 (delivering6 node.isNatIp6) (closed.steady epoch)
      ⟨∅, ct, nct, ∅⟩ pkt inp).1 = ⟨.redirect 7, none⟩) : False := by
      have accepted := gated (delivering6 node.isNatIp6) closed ⟨∅, ct, nct, ∅⟩ rfl rfl rfl 7
        (.inl (by rw [sent])) (by rw [sent])
      rw [fwClassify6_closed] at accepted
      exact absurd accepted (by decide)
    have same := natReturnDnat6_congr (delivering6 node.isNatIp6) node rfl nct pkt inp.vni
    by_contra unmet
    rcases not_and_or.mp unmet with returned | open_
    · have returned := not_not.mp returned
      refine refused (processUplinkV6_delivering _ _ _ ?_ fun none => ?_)
      · rw [length_natReturnDnat6 syn]
        exact length_of_natReturn6 returned
      · rw [same] at none
        exact absurd returned (natReturnDnat6_eq_none.mp none)
    · obtain ⟨extended, evaluated⟩ := not_or.mp open_
      obtain ⟨key, e, keyed, held, settled⟩ := evaluated_of_not evaluated
      refine refused (processUplinkV6_delivering _ _ _ ?_ fun _ => ?_)
      · have read := readArray_le pkt _ (readDst_of_ctKey6 keyed)
        rw [length_natReturnDnat6 syn]
        omega
      · have skipped : ctHitRecheck6 pkt ethLen e epoch = false := by
          rw [ctHitRecheck6, tcpFlagsV6_extended extended]
          exact settled
        simp [uplinkIngressFirewall6, keyed, held, steady, skipped]
  · intro met maps fw s natIps here nats tap delivered direct
    subst here nats
    have plain : natReturnDnat6 maps s.natCt6 pkt inp.vni = none := by
      rw [natReturnDnat6_congr maps node natIps]
      exact natReturnDnat6_eq_none.mpr met.1
    have cases6 := processUplinkV6_cases maps (fw.steady epoch) s pkt inp
    simp only [plain, getD_none, isSome_none, Bool.false_or] at cases6
    rcases cases6 with
      ⟨out, p, result, away⟩ | ⟨isIcmpRelay, tap', guestMac, isLb, peerCapable, routed, result⟩
    · rw [result] at delivered direct
      exact absurd delivered (not_or.mpr (away direct tap))
    · have firewalled : isIcmpRelay = false := by
        simp only [uplinkRoute6, lbSelectForwardIcmpErrorV6_tcp syn, isSome_none] at routed
        split at routed <;> exact (congrArg Prod.fst routed).symm
      rw [result] at delivered ⊢
      rcases admitUplink6_cases maps (fw.steady epoch) s pkt inp isIcmpRelay false tap' guestMac isLb
        peerCapable with ⟨_, _, _, dropped⟩ | ⟨checked, action, q, _, same, sent, admitted⟩
      · simp [dropped, UplinkOut.dropped] at delivered
      · rw [admitted] at delivered ⊢
        have here : tap' = tap := by
          rcases sent with rfl | rfl
          · simp at delivered
          · cases peerCapable <;> simpa using delivered
        rw [<- here, fwClassify6_congr same]
        rcases uplinkIngressFirewall6_cases (fw.steady epoch) s.conntrack6 pkt inp.vni tap' with
          ⟨_, dropped⟩ | ⟨key, keyed, ⟨_, _, dropped⟩ | ⟨accepted, _⟩ | ⟨e, held, settled, _⟩⟩
        · rw [checked firewalled] at dropped
          cases dropped
        · rw [checked firewalled] at dropped
          cases dropped
        · exact accepted
        · exact absurd (settled.symm.trans (hitRecheck6_of_met syn met.2 keyed held)) Bool.false_ne_true

theorem bareSyn_gated_iff (pkt : Pkt) (epoch : UInt32) : (∀ inp ct, BareSyn pkt ->
    ((∀ maps fw s, s.conntrack = ct -> GuestGated maps fw epoch s pkt inp) ↔
      PlainHeader pkt \/ Unevaluated ct (ctKey pkt ethLen inp.port.vni) epoch)) /\
  (∀ inp ct, BareSyn6 pkt -> ((∀ maps fw s, s.conntrack6 = ct -> GuestGated6 maps fw epoch s pkt inp) ↔
      PlainHeader6 pkt \/ Unevaluated ct (ctKey6 pkt ethLen inp.port.vni) epoch)) /\
  (∀ inp ct, BareSyn pkt -> ((∀ maps fw s, s.conntrack = ct -> UplinkGated maps fw epoch s pkt inp) ↔
      PlainHeader pkt \/ UnevaluatedUplink ct pkt inp.vni epoch)) /\
  (∀ inp ct nct node, BareSyn6 pkt -> ((∀ maps fw s, maps.isNatIp6 = node.isNatIp6 -> s.conntrack6 = ct -> s.natCt6 = nct ->
        UplinkGated6 maps fw epoch s pkt inp) ↔
      ¬ NatReturn6 node nct pkt inp.vni /\ (PlainHeader6 pkt \/ Unevaluated ct (ctKey6 pkt ethLen inp.vni) epoch))) :=
  ⟨fun inp ct => guestGated_iff pkt inp epoch ct, fun inp ct => guestGated6_iff pkt inp epoch ct,
    fun inp ct => uplinkGated_iff pkt inp epoch ct,
    fun inp ct nct node => uplinkGated6_iff pkt inp epoch ct nct node⟩

def synFrame (ihl : UInt8) (options : List UInt8) : Pkt := List.replicate 12 0 ++ [8, 0] ++
  [0x40 ||| ihl, 0, 0, 40 + options.length.toUInt8, 0, 0, 0, 0, 64, 6, 0, 0, 10, 0, 7, 1, 10, 0, 8, 2] ++ options ++
  [4, 210, 0, 80, 0, 0, 0, 1, 0, 0, 0, 0, 0x50, 0x02, 0, 0, 0, 0, 0, 0]

def synGuest : GuestTxIn := ⟨⟨7, #v[10, 0, 7, 1], Vector.replicate 16 0, 0⟩, 3, 0⟩

lemma bareSyn_plain : BareSyn (synFrame 5 []) :=
  ⟨_, _, rfl, by decide, by decide, by decide, rfl, by decide⟩

-- The connection the SYN would join is tracked and its policies are of the current epoch.
def synKey : CtKey := ⟨7, #v[10, 0, 7, 1], #v[10, 0, 8, 2], 1234, 80, 6⟩

def synEntry : CtEntry := ⟨0, Vector.replicate 4 0, 0, ctFDefault, tcpEstablished, 0, 1⟩

def synTracked : Conntrack := (∅ : Conntrack).insert synKey synEntry

theorem bareSyn_gated_plain : BareSyn (synFrame 5 []) /\
  ctKey (synFrame 5 []) ethLen synGuest.port.vni = some synKey /\ synTracked.lookup synKey = some synEntry /\
  ∀ maps fw s, s.conntrack = synTracked -> GuestGated maps fw 1 s (synFrame 5 []) synGuest :=
  ⟨bareSyn_plain, by decide, Finmap.lookup_insert _,
    ((bareSyn_gated_iff _ _).1 _ _ bareSyn_plain).mpr (.inl ⟨_, rfl, by decide⟩)⟩

theorem bareSyn_options_ungated : ¬ ∀ maps fw epoch s pkt inp, BareSyn pkt -> GuestGated maps fw epoch s pkt inp := by
  intro gated
  have syn : BareSyn (synFrame 6 [1, 1, 1, 0]) :=
    ⟨_, _, rfl, by decide, by decide, by decide, rfl, by decide⟩
  have keyed : ctKey (synFrame 6 [1, 1, 1, 0]) ethLen synGuest.port.vni = some synKey := by decide
  have sent := processGuestTx_unchecked (closed.steady 1) ⟨synTracked, ∅, ∅, ∅⟩ keyed (e := synEntry)
    (Finmap.lookup_insert _) (by decide)
  have accepted := gated tunnelled closed 1 ⟨synTracked, ∅, ∅, ∅⟩ _ synGuest syn (by rw [sent]; decide)
  exact absurd accepted.1 (by decide)

end Ectobase.Flowplane
