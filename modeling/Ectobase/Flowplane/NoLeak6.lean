import Ectobase.Flowplane.NoLeak

namespace Ectobase.Flowplane

open Shared Option FwPolicies

variable {pkt : Pkt} {dst natIp : Vector UInt8 16} {maps : Maps} {inp : GuestTxIn}

lemma snatEgress6_cases {ipOff : Nat} {src : Vector UInt8 16}
  (readSrc : pkt.readArray 16 (ipOff + 8) = some src)
  (readDst : pkt.readArray 16 (ipOff + 24) = some dst) (nat : Map NatKey6 NatValue6) (ct : NatCt6)
  (vni : UInt32) (now : UInt64) :
  (((∀ b, nat.lookup ⟨vni, src⟩ = some b -> b.portMax - b.portMin = 0) \/ l4PortsV6 pkt ipOff = none) /\
    snatEgress6 pkt nat ct ipOff vni true now = (.continue, pkt, ct)) \/
    ∃ b proto sport dport, nat.lookup ⟨vni, src⟩ = some b /\ b.portMax - b.portMin ≠ 0 /\
      l4PortsV6 pkt ipOff = some (proto, sport, dport) /\
      ((snat6PickPort ct ⟨vni, src, dst, sport, dport, proto⟩ b now = none /\
          snatEgress6 pkt nat ct ipOff vni true now = (.exhausted, pkt, ct)) \/
        ∃ natPort ct', snat6PickPort ct ⟨vni, src, dst, sport, dport, proto⟩ b now = some (natPort, ct') /\
          snatEgress6 pkt nat ct ipOff vni true now
            = (.continue, snat6ApplyRewrite pkt ipOff ⟨vni, src, dst, sport, dport, proto⟩ b natPort,
                ct')) := by
  have external : ¬ true = false := by decide
  simp only [snatEgress6, if_neg external, readSrc, readDst]
  cases bound : nat.lookup ⟨vni, src⟩ with
  | none => simp
  | some b =>
    by_cases empty : b.portMax - b.portMin = 0
    · simp [empty]
    · simp only [if_neg empty]
      cases ports : l4PortsV6 pkt ipOff with
      | none => simp
      | some found =>
        obtain ⟨proto, sport, dport⟩ := found
        refine .inr ⟨b, proto, sport, dport, rfl, empty, rfl, ?_⟩
        dsimp only
        cases picked : snat6PickPort ct ⟨vni, src, dst, sport, dport, proto⟩ b now with
        | none => exact .inl ⟨rfl, rfl⟩
        | some result => exact .inr ⟨result.1, result.2, rfl, rfl⟩

variable {ct : NatCt6} {p : Pkt} {vni : UInt32} {proto : UInt8} {route : RouteValue}

lemma probe6_free {nat : NatValue6} {start range port i : UInt16} {left : Nat}
  (found : probe6 ct vni nat proto start range left i = some port) :
  ct.lookup (revKey6 vni nat.natIpv6 port proto) = none /\ ∃ place, port = nat.portMin + place % range := by
  induction left generalizing i with
  | zero => simp [probe6] at found
  | succ left ih =>
    simp only [probe6] at found
    split at found
    next absent =>
      cases found
      exact ⟨absent, _, rfl⟩
    · exact ih found

section Picks

variable {ct' : NatCt6} {fwd : CtKey6} {nat : NatValue6} {now : UInt64} {port : UInt16}
  (picked : snat6PickPort ct fwd nat now = some (port, ct'))

include picked

lemma snat6PickPort_cases :
  (∃ v, ct.lookup fwd = some v /\ v.flags &&& ctFSrcNat ≠ 0 /\ port = v.xlatePort /\ ct' = ct) \/
    (ct.lookup (revKey6 fwd.vni nat.natIpv6 port fwd.proto) = none /\
      ∃ place, port = nat.portMin + place % (nat.portMax - nat.portMin)) /\
    ct' = (ct.insert (revKey6 fwd.vni nat.natIpv6 port fwd.proto)
      ⟨now, fwd.srcIp, fwd.srcPort, ctRewriteDst ||| ctFSrcNat, 0⟩).insert fwd
        ⟨now, nat.natIpv6, port, ctRewriteSrc ||| ctFSrcNat, 0⟩ := by
  simp only [snat6PickPort] at picked
  repeat' split at picked
  next v held tracked =>
    cases picked
    exact .inl ⟨v, held, tracked, rfl, rfl⟩
  any_goals cases picked
  all_goals
    obtain ⟨cand, probed, same⟩ := map_eq_some_iff.mp picked
    cases same
    exact .inr ⟨probe6_free probed, rfl⟩

lemma snat6PickPort_pins :
  ∃ e, ct'.lookup fwd = some e /\ e.flags &&& ctFSrcNat ≠ 0 /\ e.xlatePort = port := by
  have natted : (ctRewriteSrc ||| ctFSrcNat) &&& ctFSrcNat ≠ 0 := by decide
  rcases snat6PickPort_cases picked with ⟨v, held, tracked, rfl, rfl⟩ | ⟨_, rfl⟩
  · exact ⟨v, held, tracked, rfl⟩
  · exact ⟨_, Finmap.lookup_insert _, natted, rfl⟩

end Picks

def carriedPort6 (pkt : Pkt) : Option UInt16 := (l4PortsV6 pkt ethLen).map fun ports => ports.2.1

def TranslatedBy6 (pkt out : Pkt) (vni : UInt32) (natIp : Vector UInt8 16) (ct : NatCt6) : Prop :=
  out.readArray 16 (ethLen + 8) = some natIp /\
    ∃ key e, ctKey6 pkt ethLen vni = some key /\ ct.lookup key = some e /\ e.flags &&& ctFSrcNat ≠ 0 /\
      carriedPort6 out = some e.xlatePort

def MayLeave6 (maps : Maps) (pkt out : Pkt) (vni : UInt32) (natIp : Vector UInt8 16) (ct : NatCt6) :
  Prop :=
  TranslatedBy6 pkt out vni natIp ct \/
    ∃ key d, ctKey6 pkt ethLen vni = some key /\ maps.dsr6 key = some d /\
      out.readArray 16 (ethLen + 8) = some d.lbIp

def NoLeak6 (maps : Maps) (fw : FwReads) (s : Flows) (pkt : Pkt) (inp : GuestTxIn)
  (natIp : Vector UInt8 16) : Prop :=
  let r := processGuestTxV6 maps fw s pkt inp
  r.1.action = .drop \/ MayLeave6 maps pkt r.2.1 inp.port.vni natIp r.2.2.natCt6

def SnatCovers6 (maps : Maps) (pkt : Pkt) (vni : UInt32) (natIp : Vector UInt8 16) : Prop :=
  (∃ key, ctKey6 pkt ethLen vni = some key /\ (maps.dsr6 key).isSome) \/
    ∃ src b proto sport dport, pkt.readArray 16 (ethLen + 8) = some src /\
      maps.nat6.lookup ⟨vni, src⟩ = some b /\ b.portMax - b.portMin ≠ 0 /\ b.natIpv6 = natIp /\
      l4PortsV6 pkt ethLen = some (proto, sport, dport) /\
      ethLen + 40 + l4Window proto <= pkt.length

lemma readArray_rewriteV6Addr {ipOff addrOff : Nat} {nexthdr : UInt8} {old new : Vector UInt8 16}
  (behind : addrOff + 16 <= ipOff + 40)
  (written : rewriteV6Addr pkt ipOff addrOff nexthdr old new = some p) :
  p.readArray 16 addrOff = some new := by
  obtain ⟨q, first, rfl⟩ := map_eq_some_iff.mp written
  obtain ⟨within, rfl⟩ := (writeArray_eq_some pkt addrOff new q).mp first
  rw [<- readArray_splice_same pkt addrOff new within]
  dsimp only
  split
  · split <;> simp only [readArray_getD_before _ _ _ 16 addrOff behind]
  · split
    · split <;> simp only [readArray_getD_before _ _ _ 16 addrOff behind]
    · rfl

lemma dsrReverse6_source (reversed : dsrReverse6 maps pkt vni = (true, p)) :
  ∃ key d, ctKey6 pkt ethLen vni = some key /\ maps.dsr6 key = some d /\
    p.readArray 16 (ethLen + 8) = some d.lbIp := by
  unfold dsrReverse6 at reversed
  split at reversed
  next d src noted read =>
    obtain ⟨key, keyed, found⟩ := bind_eq_some_iff.mp noted
    refine ⟨key, d, keyed, found, ?_⟩
    have within := readArray_le pkt _ read
    have written : pkt.writeArray (ethLen + 8) d.lbIp = some (splice pkt (ethLen + 8) d.lbIp) :=
      writeArray_of_within pkt _ d.lbIp within
    have whole (nexthdr : UInt8) :
        ∃ q, rewriteV6Addr pkt ethLen (ethLen + 8) nexthdr src d.lbIp = some q := by
      simp [rewriteV6Addr, written]
    obtain ⟨q, rewritten⟩ := whole ((pkt.readU8 (ethLen + 6)).getD 0)
    cases reversed
    rw [rewritten, getD_some]
    exact readArray_rewriteV6Addr (by omega) rewritten
  · cases reversed

lemma dsrReverse6_plain (readDst : pkt.readArray 16 (ethLen + 24) = some dst)
  (reversed : dsrReverse6 maps pkt vni = (false, p)) :
  p = pkt /\ ∀ key, ctKey6 pkt ethLen vni = some key -> maps.dsr6 key = none := by
  have within := readArray_le pkt _ readDst
  obtain ⟨src, read⟩ := readArray_of_within (n := 16) pkt (ethLen + 8) (by omega)
  unfold dsrReverse6 at reversed
  split at reversed
  · cases reversed
  next other =>
    cases reversed
    refine ⟨rfl, fun key keyed => ?_⟩
    cases noted : maps.dsr6 key with
    | none => rfl
    | some d => exact absurd read (other d src (by rw [keyed]; exact noted))

lemma snat6ApplyRewrite_reads (vni : UInt32) (src dst : Vector UInt8 16) {sport dport : UInt16}
  (ports : l4PortsV6 pkt ethLen = some (proto, sport, dport))
  (window : ethLen + 40 + l4Window proto <= pkt.length) (b : NatValue6) (natPort : UInt16) :
  (snat6ApplyRewrite pkt ethLen ⟨vni, src, dst, sport, dport, proto⟩ b natPort).readArray 16 (ethLen + 8)
      = some b.natIpv6 /\
    carriedPort6 (snat6ApplyRewrite pkt ethLen ⟨vni, src, dst, sport, dport, proto⟩ b natPort)
      = some natPort := by
  obtain ⟨next, has, _, _⟩ := l4PortsV6_eq_some.mp ports
  have fits := checkRel_fits proto
  have long : ethLen + 40 <= pkt.length := by omega
  have addr : ethLen + 8 + 16 <= pkt.length := by omega
  have length := length_splice_addr long 8 (by decide) b.natIpv6
  obtain ⟨check, readCheck⟩ := readU16Be_of_within pkt (ethLen + 40 + checkRel proto) (by omega)
  rw [snat6ApplyRewrite_eq long ⟨vni, src, dst, sport, dport, proto⟩ has window readCheck]
  generalize natCheck6 proto check src b.natIpv6 sport natPort = check'
  rw [<- length] at window
  have before (k start : Nat) (lies : start + k <= ethLen + 40) :=
    readArray_patchL4_before window (.inl rfl : (0 : Nat) = 0 \/ _) check' natPort k start lies
  refine ⟨?_, ?_⟩
  · rw [before 16 (ethLen + 8) (by omega), readArray_splice_same pkt _ b.natIpv6 addr]
  · have longer := length_patchL4 window (.inl rfl : (0 : Nat) = 0 \/ _) check' natPort
    obtain ⟨dport', readDp⟩ := readU16Be_of_within
      (patchL4 (splice pkt (ethLen + 8) b.natIpv6) (ethLen + 40) proto 0 check' natPort)
      (ethLen + 40 + portRel proto 2)
      (by have := portRel_fits proto (.inr rfl : (2 : Nat) = 0 \/ 2 = 2); omega)
    have parsed : l4PortsV6 (patchL4 (splice pkt (ethLen + 8) b.natIpv6) (ethLen + 40) proto 0 check' natPort)
        ethLen = some (proto, natPort, dport') := by
      refine l4PortsV6_eq_some.mpr ⟨?_, has, readU16Be_patchL4_port window (.inl rfl) check' natPort, readDp⟩
      rw [Pkt.readU8, before 1 (ethLen + 6) (by omega),
        readArray_splice_apart pkt _ b.natIpv6 addr 1 (ethLen + 6) (.inl (by omega))]
      exact next
    rw [carriedPort6, parsed]
    rfl

lemma mayLeave6_congr {out out' : Pkt} (same : SameFrom ethLen out' out)
  (leaves : MayLeave6 maps pkt out vni natIp ct) :
  MayLeave6 maps pkt out' vni natIp ct := by
  unfold MayLeave6 TranslatedBy6 carriedPort6 at *
  rw [same 16 (ethLen + 8) (Nat.le_add_right _ _), l4PortsV6_congr same]
  exact leaves

lemma translation6_mayLeave (read : pkt.readArray 16 (ethLen + 24) = some dst)
  (routed : maps.route6 inp.port.vni dst = some route) (external : route.isExternal ≠ 0)
  (covers : SnatCovers6 maps pkt inp.port.vni natIp) (t : Translation6 maps ct pkt inp) :
  MayLeave6 maps pkt t.out inp.port.vni natIp t.table := by
  have reversed := t.dsr
  have translated := t.snat
  cases isDsr : t.isDsr with
  | true =>
    rw [isDsr] at reversed translated
    have out : t.afterDsr = t.out := congrArg (fun r => r.2.1) translated
    rw [<- out]
    exact .inr (dsrReverse6_source reversed)
  | false =>
    rw [isDsr] at reversed translated
    obtain ⟨same, unbalanced⟩ := dsrReverse6_plain read reversed
    have leaving : isExternal6 maps pkt inp.port.vni = true := by
      simpa [isExternal6, read, routed] using external
    rw [if_neg Bool.false_ne_true, same, leaving] at translated
    rcases covers with ⟨key, keyed, noted⟩ | ⟨src, b, proto, sport, dport, readSrc, bound, some_, rfl, ports,
      window⟩
    · rw [unbalanced key keyed] at noted
      cases noted
    · rcases snatEgress6_cases readSrc read maps.nat6 ct inp.port.vni inp.now with
        ⟨empty | none, _⟩ | ⟨b', proto', sport', dport', bound', _, ports', ⟨_, result⟩ |
          ⟨natPort, ct', picked, result⟩⟩
      · exact absurd (empty b bound) some_
      · rw [ports] at none
        cases none
      · rw [result] at translated
        cases translated
      · rw [bound] at bound'
        rw [ports] at ports'
        cases bound'
        cases ports'
        have out : snat6ApplyRewrite pkt ethLen ⟨inp.port.vni, src, dst, sport, dport, proto⟩ b natPort = t.out := by
          rw [result] at translated
          exact congrArg (fun r => r.2.1) translated
        have table : ct' = t.table := by
          rw [result] at translated
          exact congrArg (fun r => r.2.2) translated
        obtain ⟨source, port⟩ := snat6ApplyRewrite_reads inp.port.vni src dst ports window b natPort
        rw [out] at source port
        obtain ⟨e, held, natted, pinned⟩ := snat6PickPort_pins picked
        rw [table] at held
        have keyed : ctKey6 pkt ethLen inp.port.vni
            = some ⟨inp.port.vni, src, dst, sport, dport, proto⟩ := by
          simp [ctKey6, readSrc, read, ports]
        exact .inl ⟨source, _, e, keyed, held, natted, by rw [port, pinned]⟩

lemma noLeak6_of_covers (read : pkt.readArray 16 (ethLen + 24) = some dst)
  (routed : maps.route6 inp.port.vni dst = some route) (external : route.isExternal ≠ 0)
  (covers : SnatCovers6 maps pkt inp.port.vni natIp) (fw : FwReads) (s : Flows) :
  NoLeak6 maps fw s pkt inp natIp := by
  unfold NoLeak6 processGuestTxV6
  rcases checked : egressFwCt6 fw s.conntrack6 pkt ethLen inp.srcIfindex inp.port.vni inp.now with
    ⟨_ | checkDest, ct⟩
  · exact .inl rfl
  · dsimp only
    rcases forwardGuest6_cases maps fw { s with conntrack6 := ct } pkt inp checkDest with
      ⟨p, nct, dropped⟩ | ⟨t, tail⟩
    · rw [dropped]
      exact .inl rfl
    · have leaves := translation6_mayLeave read routed external covers t
      rw [tail]
      rcases deliverGuest6_cases maps fw { s with conntrack6 := ct, natCt6 := t.table } t.out inp checkDest with
        ⟨_, iv, _, _, _, ⟨_, _, dropped⟩ | ⟨_, sent⟩⟩ | passed | ⟨_, _, _, _, encap⟩
      · rw [dropped]
        exact .inl rfl
      · rw [sent]
        exact .inr (mayLeave6_congr (sameFrom_rewriteMacs t.out iv.guestMac) leaves)
      · rw [passed]
        exact .inr leaves
      · rw [encap]
        exact .inr leaves

lemma fwClassify6_open (long : ethLen + 40 <= pkt.length) (ifindex : UInt32) (dir : UInt8) :
  fwClassify6 pkt FwPolicies.open.v6 ethLen ifindex dir = fwActionAccept := by
  obtain ⟨src, readSrc⟩ := readArray_of_within (n := 16) pkt (ethLen + 8) (by omega)
  obtain ⟨dst, readDst⟩ := readArray_of_within (n := 16) pkt (ethLen + 24) (by omega)
  have scope : ¬ (FwBind.scope ⟨1, 1⟩ dir) = fwScopeNone := by
    simp only [FwBind.scope, ite_self]
    decide
  have verdict : fwProbeVerdict none (some (fwPrecedence 0 true)) = fwActionAccept := by decide
  by_cases egress : dir = fwDirEgress
  · subst egress
    simp [fwClassify6, FwPolicies.v6, FwPolicies.open, scope, readDst, verdict]
  · simp [fwClassify6, FwPolicies.v6, FwPolicies.open, scope, egress, readSrc, verdict]

lemma processGuestTxV6_open {out : Pkt} {key : CtKey6} {nct nct' : NatCt6}
  (long : ethLen + 40 <= pkt.length) (keyed : ctKey6 pkt ethLen inp.port.vni = some key)
  (unbalanced : maps.dsr6 key = none) (longOut : ethLen + 40 <= out.length)
  (translated : snatEgress6 pkt maps.nat6 nct ethLen inp.port.vni (isExternal6 maps pkt
    inp.port.vni) inp.now = (.continue, out, nct')) :
  ∃ o p ct meter, processGuestTxV6 maps (open.steady 0) ⟨∅, ∅, nct, ∅⟩ pkt inp
      = (o, p, ⟨∅, ct, nct', meter⟩) /\ o.action ≠ .drop /\ SameFrom ethLen p out := by
  have plain : dsrReverse6 maps pkt inp.port.vni = (false, pkt) := by
    simp [dsrReverse6, keyed, unbalanced]
  obtain ⟨checkDest, ct, checked⟩ : ∃ checkDest ct, egressFwCt6 (open.steady 0) ∅ pkt ethLen
      inp.srcIfindex inp.port.vni inp.now = (some checkDest, ct) := by
    rcases egressFwCt6_cases (open.steady 0) ∅ pkt ethLen inp.srcIfindex inp.port.vni inp.now with
      ⟨unkeyed, _⟩ | ⟨_, _, ⟨refused, _, _⟩ | ⟨_, _, passed⟩ | ⟨_, _, _, passed⟩⟩
    · rw [keyed] at unkeyed
      cases unkeyed
    · exact absurd ((fwClassify6_open long inp.srcIfindex fwDirEgress).symm.trans refused) (by decide)
    · exact ⟨_, _, passed⟩
    · exact ⟨_, _, passed⟩
  simp only [processGuestTxV6, checked, forwardGuest6, plain, Bool.false_eq_true, if_false, translated]
  rcases deliverGuest6_cases maps (open.steady 0) ⟨∅, ct, nct', ∅⟩ out inp checkDest with
    ⟨_, iv, _, _, _, ⟨_, refused, _⟩ | ⟨_, sent⟩⟩ | passed | ⟨_, _, _, meter, encap⟩
  · exact absurd ((fwClassify6_open longOut iv.tapIfindex fwDirIngress).symm.trans refused) (by decide)
  · exact ⟨_, _, ct, ∅, by simpa using sent, by simp, sameFrom_rewriteMacs out iv.guestMac⟩
  · exact ⟨_, _, ct, ∅, by simpa using passed, by simp [GuestTxOut.passed], SameFrom.refl _ _⟩
  · exact ⟨_, _, ct, meter, by simpa using encap, by simp, SameFrom.refl _ _⟩

lemma snat6ApplyRewrite_cut (vni : UInt32) (src dst : Vector UInt8 16) {sport dport : UInt16}
  (long : ethLen + 40 <= pkt.length) (ports : l4PortsV6 pkt ethLen = some (proto, sport, dport))
  (cut : pkt.length < ethLen + 40 + l4Window proto) (b : NatValue6) (natPort : UInt16) :
  carriedPort6 (snat6ApplyRewrite pkt ethLen ⟨vni, src, dst, sport, dport, proto⟩ b natPort)
    = some sport := by
  obtain ⟨next, has, readSp, readDp⟩ := l4PortsV6_eq_some.mp ports
  have addr : ethLen + 8 + 16 <= pkt.length := by omega
  rw [snat6ApplyRewrite_short long ⟨vni, src, dst, sport, dport, proto⟩ has cut]
  have parsed : l4PortsV6 (splice pkt (ethLen + 8) b.natIpv6) ethLen = some (proto, sport, dport) := by
    refine l4PortsV6_eq_some.mpr ⟨?_, has, ?_, ?_⟩
    · rw [Pkt.readU8, readArray_splice_apart pkt _ b.natIpv6 addr 1 (ethLen + 6) (.inl (by omega))]
      exact next
    · rw [readU16Be_splice_apart pkt b.natIpv6 addr _ (.inr (by omega)), readSp]
    · rw [readU16Be_splice_apart pkt b.natIpv6 addr _ (.inr (by omega)), readDp]
  rw [carriedPort6, parsed]
  rfl

lemma length_snat6ApplyRewrite (vni : UInt32) (src dst : Vector UInt8 16) (sport dport : UInt16)
  (has : HasPorts6 proto) (long : ethLen + 40 <= pkt.length) (b : NatValue6) (natPort : UInt16) :
  (snat6ApplyRewrite pkt ethLen ⟨vni, src, dst, sport, dport, proto⟩ b natPort).length = pkt.length := by
  have length := length_splice_addr long 8 (by decide) b.natIpv6
  by_cases window : ethLen + 40 + l4Window proto <= pkt.length
  · obtain ⟨check, readCheck⟩ := readU16Be_of_within pkt (ethLen + 40 + checkRel proto)
      (by have := checkRel_fits proto; omega)
    rw [snat6ApplyRewrite_eq long ⟨vni, src, dst, sport, dport, proto⟩ has window readCheck,
      length_patchL4 (by rw [length]; exact window) (.inl rfl), length]
  · rw [snat6ApplyRewrite_short long ⟨vni, src, dst, sport, dport, proto⟩ has (by dsimp only; omega), length]

lemma covers6_of_noLeak (read : pkt.readArray 16 (ethLen + 24) = some dst)
  (routed : maps.route6 inp.port.vni dst = some route) (external : route.isExternal ≠ 0)
  (sealed : ∀ fw s, NoLeak6 maps fw s pkt inp natIp) :
  SnatCovers6 maps pkt inp.port.vni natIp := by
  have long : ethLen + 40 <= pkt.length := by
    have within := readArray_le pkt _ read
    omega
  obtain ⟨src, readSrc⟩ := readArray_of_within (n := 16) pkt (ethLen + 8) (by omega)
  have leaving : isExternal6 maps pkt inp.port.vni = true := by
    simpa [isExternal6, read, routed] using external
  by_contra uncovered
  obtain ⟨balanced, unbound⟩ := not_or.mp uncovered
  obtain ⟨key, keyed⟩ : ∃ key, ctKey6 pkt ethLen inp.port.vni = some key := by
    simp [ctKey6, readSrc, read]
  have unbalanced : maps.dsr6 key = none := by
    cases noted : maps.dsr6 key with
    | none => rfl
    | some d => exact absurd ⟨key, keyed, by rw [noted]; rfl⟩ balanced
  have seen {nct nct' : NatCt6} {out : Pkt} (longOut : ethLen + 40 <= out.length)
      (translated : snatEgress6 pkt maps.nat6 nct ethLen inp.port.vni true inp.now = (.continue, out, nct')) :
      TranslatedBy6 pkt out inp.port.vni natIp nct' := by
    obtain ⟨o, p, ct, meter, result, sent, same⟩ := processGuestTxV6_open long keyed unbalanced longOut
      (by rw [leaving]; exact translated)
    have outcome := sealed (open.steady 0) ⟨∅, ∅, nct, ∅⟩
    unfold NoLeak6 at outcome
    rw [result] at outcome
    rcases outcome with dropped | leaves
    · exact absurd dropped sent
    · have same' : SameFrom ethLen out p := fun n k after => (same n k after).symm
      rcases mayLeave6_congr same' leaves with translated | ⟨key', d, keyed', noted, _⟩
      · exact translated
      · rw [keyed] at keyed'
        cases keyed'
        rw [unbalanced] at noted
        cases noted
  -- a packet of a source without ports, or without ports of its own, leaves the table empty
  rcases snatEgress6_cases readSrc read maps.nat6 ∅ inp.port.vni inp.now with
    ⟨_, result⟩ | ⟨b, proto, sport, dport, bound, some_, ports, _⟩
  · obtain ⟨_, _, _, _, held, _⟩ := seen long result
    simp at held
  · obtain ⟨_, has, _, _⟩ := l4PortsV6_eq_some.mp ports
    let e : CtEntry6 := ⟨0, Vector.replicate 16 0, sport + 1, ctRewriteSrc ||| ctFSrcNat, 0⟩
    let fwd : CtKey6 := ⟨inp.port.vni, src, dst, sport, dport, proto⟩
    have natted : e.flags &&& ctFSrcNat ≠ 0 :=
      (by decide : (ctRewriteSrc ||| ctFSrcNat) &&& ctFSrcNat ≠ 0)
    have tracked : ((∅ : NatCt6).insert fwd e).lookup fwd = some e := Finmap.lookup_insert _
    have picked : snat6PickPort ((∅ : NatCt6).insert fwd e) fwd b inp.now
        = some (sport + 1, (∅ : NatCt6).insert fwd e) := by
      simp [snat6PickPort, natted, e]
    have translated : snatEgress6 pkt maps.nat6 ((∅ : NatCt6).insert fwd e) ethLen inp.port.vni true inp.now
        = (.continue, snat6ApplyRewrite pkt ethLen fwd b (sport + 1), (∅ : NatCt6).insert fwd e) := by
      simp [snatEgress6, readSrc, read, bound, some_, ports, picked, fwd]
    obtain ⟨source, key', e', keyed', held, _, carried⟩ := seen
      (by rw [length_snat6ApplyRewrite inp.port.vni src dst sport dport has long]; exact long) translated
    have same : key' = fwd := by
      have tuple : ctKey6 pkt ethLen inp.port.vni = some fwd := by
        simp [ctKey6, readSrc, read, ports, fwd]
      exact mem_unique keyed' tuple
    subst same
    rw [tracked] at held
    cases held
    by_cases window : ethLen + 40 + l4Window proto <= pkt.length
    · rw [(snat6ApplyRewrite_reads inp.port.vni src dst ports window b (sport + 1)).1] at source
      exact unbound ⟨src, b, proto, sport, dport, readSrc, bound, some_, some.inj source, ports, window⟩
    · rw [snat6ApplyRewrite_cut inp.port.vni src dst long ports (by omega)] at carried
      have value := congrArg UInt16.toNat (some.inj carried)
      have bound := sport.toNat_lt
      rw [UInt16.toNat_add] at value
      simp at value
      omega

end Ectobase.Flowplane
