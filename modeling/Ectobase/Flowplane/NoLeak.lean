import Ectobase.Flowplane.BareSyn
import Ectobase.Flowplane.CtSteps

namespace Ectobase.Flowplane

open Shared Option FwPolicies

def wholeHeader (pkt : Pkt) : Bool := (pkt.readU8 ethLen).any fun b => 5 <= (b &&& 0x0f).toNat

def carriedPort (pkt : Pkt) : Option UInt16 :=
  if wholeHeader pkt then (l4Ports pkt ethLen).map fun ports => ports.2.1 else none

def TranslatedBy (pkt out : Pkt) (vni : UInt32) (natIp : Vector UInt8 4) (ct : Conntrack) : Prop :=
  out.readArray 4 (ethLen + 12) = some natIp /\
    ∃ key e, ctKey pkt ethLen vni = some key /\ ct.lookup key = some e /\ e.flags &&& ctFSrcNat ≠ 0 /\
      carriedPort out = some e.xlatePort

def NoLeak (maps : Maps) (fw : FwReads) (s : Flows) (pkt : Pkt) (inp : GuestTxIn) (natIp : Vector UInt8 4) : Prop :=
  let r := processGuestTx maps fw s pkt inp
  r.1.action = .drop \/ TranslatedBy pkt r.2.1 inp.port.vni natIp r.2.2.conntrack \/
    ∃ key d, ctKey pkt ethLen inp.port.vni = some key /\ maps.dsr key = some d /\
      r.2.1.readArray 4 (ethLen + 12) = some (addrAt d.lbIp 0)

-- A packet without ports is dropped.
def SnatCovers (maps : Maps) (pkt : Pkt) (vni : UInt32) (natIp : Vector UInt8 4) : Prop :=
  (∃ key, ctKey pkt ethLen vni = some key /\ (maps.dsr key).isSome) \/
    ∃ hdr b, pkt.readArray 20 ethLen = some hdr /\ maps.nat.lookup ⟨vni, addrAt hdr 12⟩ = some b /\
      b.portMax - b.portMin ≠ 0 /\
      ∀ proto sport dport, l4Ports pkt ethLen = some (proto, sport, dport) ->
        b.natIpv4 = natIp /\ wholeHeader pkt /\ l4Start ethLen hdr + l4Window proto <= pkt.length

def FwPolicies.open : FwPolicies where
  fwBind _ := some ⟨1, 1⟩
  fwClass4 _ _ := none
  fwPolicy4 _ _ := some (fwPrecedence 0 true)
  fwClass6 _ _ := none
  fwPolicy6 _ _ := some (fwPrecedence 0 true)

variable {pkt : Pkt} {maps : Maps} {vni : UInt32} {hdr : Vector UInt8 20}
  {natIp dst : Vector UInt8 4} {inp : GuestTxIn} {route : RouteValue}

lemma fwClassify_open (long : ethLen + 20 <= pkt.length) (ifindex : UInt32) (dir : UInt8) :
  fwClassify pkt FwPolicies.open.v4 ethLen ifindex dir = fwActionAccept := by
  obtain ⟨src, readSrc⟩ := readArray_of_within (n := 4) pkt (ethLen + 12) (by omega)
  obtain ⟨dst, readDst⟩ := readArray_of_within (n := 4) pkt (ethLen + 16) (by omega)
  have scope : ¬ (FwBind.scope ⟨1, 1⟩ dir) = fwScopeNone := by
    simp only [FwBind.scope, ite_self]
    decide
  have verdict : fwProbeVerdict none (some (fwPrecedence 0 true)) = fwActionAccept := by decide
  by_cases egress : dir = fwDirEgress
  · subst egress
    simp [fwClassify, FwPolicies.v4, FwPolicies.open, scope, readDst, verdict]
  · simp [fwClassify, FwPolicies.v4, FwPolicies.open, scope, egress, readSrc, verdict]

variable {p : Pkt} {proto : UInt8} {sport : UInt16} {key : CtKey}

lemma ctApply_source {e : CtEntry} (applied : ctApply pkt ethLen e = some p) (source : e.flags &&& ctRewriteSrc ≠ 0) :
  p.readArray 4 (ethLen + 12) = some e.xlateIp /\ p.readArray 4 (ethLen + 16) = pkt.readArray 4 (ethLen + 16) := by
  have rewrites : ¬ e.flags &&& (ctRewriteSrc ||| ctRewriteDst) = 0 := by
    intro none
    apply source
    rw [show ctRewriteSrc = (ctRewriteSrc ||| ctRewriteDst) &&& ctRewriteSrc from rfl, <- UInt8.and_assoc,
      none, UInt8.zero_and]
  cases header : pkt.readArray 20 ethLen with
  | none => simp [ctApply, rewrites, header] at applied
  | some hdr =>
    by_cases short : ihl hdr = 5
    · have within := readArray_le pkt ethLen header
      rw [ctApply_eq header short (.inl ⟨source, rfl, rfl⟩)] at applied
      cases applied
      rw [readArray_ctApplyL4_before _ _ _ _ _ _ _ 4 _ (by omega),
        readArray_ctApplyL4_before _ _ _ _ _ _ _ 4 _ (by omega),
        readArray_patchHeader_addr header 12 (by decide), patchHeader,
        readArray_splice_apart _ _ _ (by rw [length_splice pkt _ _ (by omega)]; omega) _ _ (.inr (by omega)),
        readArray_splice_apart pkt _ _ (by omega) _ _ (.inr (by omega))]
      exact ⟨rfl, rfl⟩
    · simp [ctApply, rewrites, header, short] at applied

lemma dsrReverse_source (reversed : dsrReverse maps pkt vni = some (true, p)) :
  ∃ key d, ctKey pkt ethLen vni = some key /\ maps.dsr key = some d /\ p.readArray 4 (ethLen + 12) = some (addrAt d.lbIp 0) /\
    p.readArray 4 (ethLen + 16) = pkt.readArray 4 (ethLen + 16) := by
  unfold dsrReverse at reversed
  split at reversed
  · cases reversed
  next d noted =>
    obtain ⟨key, keyed, found⟩ := bind_eq_some_iff.mp noted
    obtain ⟨q, applied, same⟩ := map_eq_some_iff.mp reversed
    cases same
    exact ⟨key, d, keyed, found, ctApply_source applied (show ctRewriteSrc &&& ctRewriteSrc ≠ 0 by decide)⟩

lemma dsrReverse_plain (reversed : dsrReverse maps pkt vni = some (false, p)) :
  p = pkt /\ ∀ key, ctKey pkt ethLen vni = some key -> maps.dsr key = none := by
  unfold dsrReverse at reversed
  split at reversed
  next missing =>
    cases reversed
    refine ⟨rfl, fun key keyed => ?_⟩
    rw [keyed] at missing
    exact missing
  · obtain ⟨_, _, same⟩ := map_eq_some_iff.mp reversed
    cases same

lemma wholeHeader_eq (header : pkt.readArray 20 ethLen = some hdr) : wholeHeader pkt = true ↔ 5 <= (ihl hdr).toNat := by
  have byte : pkt.readU8 ethLen = some hdr[0] := by
    rw [readU8_eq]
    exact readArray_byte pkt ethLen header 0 (by decide)
  simp [wholeHeader, byte]

variable (ct : Conntrack) {dport : UInt16}

lemma rewriteSource_reads (header : pkt.readArray 20 ethLen = some hdr)
  (ports : l4Ports pkt ethLen = some (proto, sport, dport)) (whole : wholeHeader pkt)
  (window : l4Start ethLen hdr + l4Window proto <= pkt.length) (natIp : Vector UInt8 4)
  (natPort : UInt16) :
  (rewriteSource pkt ethLen hdr natIp proto sport natPort).readArray 4 (ethLen + 12) = some natIp /\
    carriedPort (rewriteSource pkt ethLen hdr natIp proto sport natPort) = some natPort := by
  obtain ⟨_, _, _, _, has, _, _⟩ := l4Ports_eq_some.mp ports
  have words := (wholeHeader_eq header).mp whole
  have length := length_patchHeader header 12 (by decide)
    (csumReplace4 (wordAt hdr 10) (addrAt hdr 12) natIp) natIp
  rw [rewriteSource_eq header]
  change (rewriteL4 _ (l4Start ethLen hdr) _ _ _ _ _).readArray _ _ = _ /\
    carriedPort (rewriteL4 _ (l4Start ethLen hdr) _ _ _ _ _) = _
  obtain ⟨check, readCheck⟩ := readU16Be_of_within
    (patchHeader pkt ethLen 12 (csumReplace4 (wordAt hdr 10) (addrAt hdr 12) natIp) natIp)
    (l4Start ethLen hdr + checkRel proto) (by have := checkRel_fits proto; omega)
  rw [rewriteL4_eq has (by omega) readCheck]
  obtain ⟨header', source, _, _, ports', pinned, _⟩ := translated_reads header ports words window (.inl rfl)
    (.inl rfl) (csumReplace4 (wordAt hdr 10) (addrAt hdr 12) natIp)
    (natCheck proto check (addrAt hdr 12) natIp sport natPort) natPort natIp
  refine ⟨source, ?_⟩
  have whole' : wholeHeader (patchL4 (patchHeader pkt ethLen 12
    (csumReplace4 (wordAt hdr 10) (addrAt hdr 12) natIp) natIp) (l4Start ethLen hdr) proto 0
    (natCheck proto check (addrAt hdr 12) natIp sport natPort) natPort) = true := by
    rw [wholeHeader_eq header', (patchedHeader_kept hdr (.inl rfl) _ _).1]
    exact words
  rw [carriedPort, if_pos whole', ports', map_some, pinned rfl]

def MayLeave (maps : Maps) (pkt out : Pkt) (vni : UInt32) (natIp : Vector UInt8 4) (ct : Conntrack) :
  Prop :=
  TranslatedBy pkt out vni natIp ct \/ ∃ key d, ctKey pkt ethLen vni = some key /\ maps.dsr key = some d /\
      out.readArray 4 (ethLen + 12) = some (addrAt d.lbIp 0)

lemma carriedPort_congr {q : Pkt} (same : SameFrom ethLen p q) : carriedPort p = carriedPort q := by
  have header : wholeHeader p = wholeHeader q := by
    rw [wholeHeader, wholeHeader, readU8_congr same ethLen (le_refl _)]
  rw [carriedPort, carriedPort, header, l4Ports_congr same]

lemma mayLeave_congr {out out' : Pkt} {ct : Conntrack} (same : SameFrom ethLen out' out)
  (leaves : MayLeave maps pkt out vni natIp ct) :
  MayLeave maps pkt out' vni natIp ct := by
  unfold MayLeave TranslatedBy at *
  rw [same 4 (ethLen + 12) (Nat.le_add_right _ _), carriedPort_congr same]
  exact leaves

lemma translation_mayLeave {fw : FwReads} {s : Flows} (read : pkt.readArray 4 (ethLen + 16) = some dst)
  (routed : maps.route4 inp.port.vni dst = some route) (external : route.isExternal ≠ 0)
  (covers : SnatCovers maps pkt inp.port.vni natIp) (t : Translation maps fw s.conntrack pkt inp)
  (meter : Map UInt32 MeterState) :
  MayLeave maps pkt t.out inp.port.vni natIp (t.tracked meter).conntrack := by
  have reversed := t.dsr
  have translated := t.snat
  cases isDsr : t.isDsr with
  | true =>
    rw [isDsr] at reversed translated
    have out : t.afterDsr = t.out := congrArg (fun r => r.2.1) translated
    rw [<- out]
    obtain ⟨key, d, keyed, noted, source, _⟩ := dsrReverse_source reversed
    exact .inr ⟨key, d, keyed, noted, source⟩
  | false =>
    rw [isDsr] at reversed translated
    obtain ⟨same, unbalanced⟩ := dsrReverse_plain reversed
    have dst' := t.read
    rw [same, read] at dst'
    cases dst'
    have route' := t.routed
    rw [routed] at route'
    cases route'
    have leaving : (t.route.isExternal != 0) = true := by simpa using external
    rw [if_neg Bool.false_ne_true, same, leaving] at translated
    rcases covers with ⟨key, keyed, noted⟩ | ⟨hdr, b, header, bound, some_, fits⟩
    · rw [unbalanced key keyed] at noted
      cases noted
    · rcases snatEgress_cases header maps.nat s.conntrack inp.port.vni inp.now fw.epoch with
        ⟨empty, _⟩ | ⟨b', bound', _, ⟨_, result⟩ | ⟨proto, sport, dport, ports, ⟨_, result⟩ |
          ⟨natPort, ct', allocated, result⟩⟩⟩
      · exact absurd (empty b bound) some_
      · rw [result] at translated
        cases translated
      · rw [result] at translated
        cases translated
      · rw [bound] at bound'
        cases bound'
        have out : rewriteSource pkt ethLen hdr b.natIpv4 proto sport natPort = t.out := by
          rw [result] at translated
          exact congrArg (fun r => r.2.1) translated
        have table : ct' = t.table := by
          rw [result] at translated
          exact congrArg (fun r => r.2.2) translated
        obtain ⟨rfl, whole, window⟩ := fits proto sport dport ports
        obtain ⟨source, port⟩ := rewriteSource_reads header ports whole window b.natIpv4 natPort
        rw [out] at source port
        obtain ⟨e, held, natted, pinned⟩ := allocate_pins allocated
        rw [table] at held
        obtain ⟨e', held', kept⟩ := keeps_trackFlow t.table t.out ethLen inp.port.vni inp.now fw.epoch _ e held
        have flags : e'.flags = e.flags := congrArg (fun x => x.1) kept
        have port' : e'.xlatePort = e.xlatePort := congrArg (fun x => x.2.2) kept
        have keyed := ctKey_of_header header ports inp.port.vni
        rw [addrAt_source, addrAt_dest] at keyed
        exact .inl ⟨source, _, e', keyed, held', by rw [flags]; exact natted, by rw [port, port', pinned]⟩

lemma noLeak_of_covers (read : pkt.readArray 4 (ethLen + 16) = some dst)
  (routed : maps.route4 inp.port.vni dst = some route) (external : route.isExternal ≠ 0)
  (covers : SnatCovers maps pkt inp.port.vni natIp) (fw : FwReads) (s : Flows) :
  NoLeak maps fw s pkt inp natIp := by
  have routeLeaves (t : Flows) (checkDest : Bool) : (routeGuest maps fw t pkt inp checkDest).1.action = .drop \/
      MayLeave maps pkt (routeGuest maps fw t pkt inp checkDest).2.1 inp.port.vni natIp
        (routeGuest maps fw t pkt inp checkDest).2.2.conntrack := by
    rcases routeGuest_cases maps fw t pkt inp checkDest with
      ⟨p, dropped⟩ | ⟨isDsr, p, dst', reversed, read', unrouted, passed⟩ | ⟨x, meter, _, dropped⟩ | ⟨x, meter, tail⟩
    · rw [dropped]
      exact .inl rfl
    · cases isDsr with
      | true =>
        rw [passed]
        obtain ⟨key, d, keyed, noted, source, _⟩ := dsrReverse_source reversed
        exact .inr (.inr ⟨key, d, keyed, noted, source⟩)
      | false =>
        rw [(dsrReverse_plain reversed).1, read] at read'
        cases read'
        rw [routed] at unrouted
        cases unrouted
    · rw [dropped]
      exact .inl rfl
    · have leaves := translation_mayLeave read routed external covers x meter
      rw [tail]
      rcases deliverGuest_cases maps fw (x.tracked meter) x.out inp checkDest x.dst x.route with
        ⟨iv, _, _, ⟨_, _, dropped⟩ | ⟨_, sent⟩⟩ | ⟨_, passed | ⟨_, _, _, _, encap⟩⟩
      · rw [dropped]
        exact .inl rfl
      · rw [sent]
        exact .inr (mayLeave_congr (sameFrom_rewriteMacs x.out iv.guestMac) leaves)
      · rw [passed]
        exact .inr leaves
      · rw [encap]
        exact .inr leaves
  unfold NoLeak processGuestTx
  rcases checked : sourceCheck fw s.conntrack pkt inp with ⟨_ | checkDest, ct⟩
  · exact .inl rfl
  · exact routeLeaves { s with conntrack := ct } checkDest

-- The other direction: open policies and no meter drop nothing, so what is not covered is seen outside.

lemma sourceCheck_open (long : ethLen + 20 <= pkt.length) (keyed : ctKey pkt ethLen inp.port.vni = some key) :
  ∃ checkDest T, sourceCheck (open.steady 0) ct pkt inp = (some checkDest, T) /\
    (T = ct \/ ∃ e, ct.lookup key = some e /\ T = ct.insert key { e with policyEpoch := 0 }) := by
  rcases sourceCheck_cases (open.steady 0) ct pkt inp with
    ⟨unkeyed, _⟩ | ⟨key', keyed', ⟨refused, _, _⟩ | ⟨_, _, passed⟩ | ⟨e, _, _, passed⟩⟩
  · rw [keyed] at unkeyed
    cases unkeyed
  · exact absurd ((fwClassify_open long inp.srcIfindex fwDirEgress).symm.trans refused) (by decide)
  · rw [keyed] at keyed'
    cases keyed'
    refine ⟨true, _, passed, ?_⟩
    cases held : ct.lookup key with
    | none => exact .inl rfl
    | some e => exact .inr ⟨e, rfl, rfl⟩
  · exact ⟨false, ct, passed, .inl rfl⟩

lemma processGuestTx_open (long : ethLen + 20 <= pkt.length)
  (keyed : ctKey pkt ethLen inp.port.vni = some key) (unbalanced : maps.dsr key = none)
  (read : pkt.readArray 4 (ethLen + 16) = some dst)
  (routed : maps.route4 inp.port.vni dst = some route) :
  ∃ T, (T = ct \/ ∃ e, ct.lookup key = some e /\ T = ct.insert key { e with policyEpoch := 0 }) /\
    ∀ out ct', ethLen + 20 <= out.length -> snatEgress pkt maps.nat T ethLen inp.port.vni (route.isExternal != 0) inp.now 0
          = (.continue, out, ct') ->
      ∃ o p meter, processGuestTx maps (open.steady 0) ⟨ct, ∅, ∅, ∅⟩ pkt inp
          = (o, p, ⟨trackFlow ct' out ethLen inp.port.vni inp.now 0, ∅, ∅, meter⟩) /\
        o.action ≠ .drop /\ SameFrom ethLen p out := by
  obtain ⟨checkDest, T, checked, table⟩ := sourceCheck_open ct long keyed
  refine ⟨T, table, fun out ct' longOut translated => ?_⟩
  have plain : dsrReverse maps pkt inp.port.vni = some (false, pkt) := by
    simp [dsrReverse, keyed, unbalanced]
  have epoch : (open.steady 0).epoch = 0 := rfl
  simp only [processGuestTx, checked, routeGuest, plain, read, routed, forwardGuest, epoch,
    Bool.false_eq_true, if_false, translated, publicPass_unmetered]
  rcases deliverGuest_cases maps (open.steady 0)
      ⟨trackFlow ct' out ethLen inp.port.vni inp.now 0, ∅, ∅, ∅⟩ out inp checkDest dst route with
    ⟨iv, _, _, ⟨_, refused, _⟩ | ⟨_, sent⟩⟩ | ⟨_, passed | ⟨_, _, _, meter, encap⟩⟩
  · exact absurd ((fwClassify_open longOut iv.tapIfindex fwDirIngress).symm.trans refused) (by decide)
  · exact ⟨_, _, ∅, by simpa using sent, by simp, sameFrom_rewriteMacs out iv.guestMac⟩
  · exact ⟨_, _, ∅, by simpa using passed, by simp [GuestTxOut.passed], SameFrom.refl _ _⟩
  · exact ⟨_, _, meter, by simpa using encap, by simp, SameFrom.refl _ _⟩

lemma default_not_natted {ct : Conntrack} {now : UInt64} {epoch : UInt32} {e : CtEntry}
  (empty : ct = ∅) (held : (trackFlow ct pkt ethLen vni now epoch).lookup key = some e) :
  e.flags &&& ctFSrcNat = 0 := by
  subst empty
  rcases trackFlow_cases ∅ pkt ethLen vni now epoch with
    ⟨_, same⟩ | ⟨key', _, ⟨_, seeded⟩ | ⟨e', held', _⟩⟩
  · rw [same, Finmap.lookup_empty] at held
    cases held
  · rw [seeded, lookup_seedFlow] at held
    split at held
    · cases held
      exact (by decide : (ctFDefault ||| ctFReply) &&& ctFSrcNat = 0)
    · split at held
      · cases held
        exact (by decide : ctFDefault &&& ctFSrcNat = 0)
      · simp at held
  · simp at held'

lemma rewriteSource_unwhole (header : pkt.readArray 20 ethLen = some hdr) (has : HasPorts proto)
  (cut : wholeHeader pkt = false) (natIp : Vector UInt8 4) :
  wholeHeader (rewriteSource pkt ethLen hdr natIp proto sport 0) = false := by
  have words : ¬ 5 <= (ihl hdr).toNat := by
    rw [<- wholeHeader_eq header, cut]
    decide
  rw [rewriteSource_eq header]
  change wholeHeader (rewriteL4 _ (l4Start ethLen hdr) _ _ _ _ _) = _
  have header1 := header_patchHeader header 12 (by decide)
    (csumReplace4 (wordAt hdr 10) (addrAt hdr 12) natIp) natIp
  generalize patchHeader pkt ethLen 12 _ natIp = p at *
  have byte : p[ethLen]? = some hdr[0] := by
    have first := readArray_byte p ethLen header1 0 (by decide)
    rw [copyAt_outside _ _ _ 0 (by decide) (by decide),
      copyAt_outside _ _ _ 0 (by decide) (by decide)] at first
    exact first
  have start : ethLen <= l4Start ethLen hdr := Nat.le_add_right _ _
  by_cases window : l4Start ethLen hdr + l4Window proto <= p.length
  · obtain ⟨check, readCheck⟩ := readU16Be_of_within p (l4Start ethLen hdr + checkRel proto)
      (by have := checkRel_fits proto; omega)
    rw [rewriteL4_eq has window readCheck]
    have one := checkRel_fits proto
    have two := portRel_fits proto (.inl rfl : (0 : Nat) = 0 \/ 0 = 2)
    have behind : 2 <= checkRel proto := by
      unfold checkRel
      split
      · decide
      · split <;> decide
    rw [wholeHeader, readU8_eq, patchL4, getElem?_splice _ _ _ (by rw [length_splice p _ _ (by omega)]; omega)]
    split
    next inside =>
      have zero : (be16 0)[ethLen - (l4Start ethLen hdr + portRel proto 0)]? = some 0 := by
        have here : ethLen - (l4Start ethLen hdr + portRel proto 0) = 0 := by omega
        rw [here]
        rfl
      rw [zero]
      rfl
    · rw [getElem?_splice p _ _ (by omega), if_neg (by omega), byte]
      simpa using words
  · rw [rewriteL4_short has (by omega), wholeHeader, readU8_eq, byte]
    simpa using words

lemma rewriteSource_short (header : pkt.readArray 20 ethLen = some hdr)
  (ports : l4Ports pkt ethLen = some (proto, sport, dport)) (whole : wholeHeader pkt)
  (cut : pkt.length < l4Start ethLen hdr + l4Window proto) (natIp : Vector UInt8 4)
  (natPort : UInt16) :
  carriedPort (rewriteSource pkt ethLen hdr natIp proto sport natPort) = some sport := by
  obtain ⟨hdr', header', first, rfl, has, readSp, readDp⟩ := l4Ports_eq_some.mp ports
  rw [header] at header'
  cases header'
  have words := (wholeHeader_eq header).mp whole
  have behind : ethLen + 20 <= l4Start ethLen hdr := by
    unfold l4Start
    omega
  have within := readArray_le pkt ethLen header
  rw [rewriteSource_eq header]
  change carriedPort (rewriteL4 _ (l4Start ethLen hdr) _ _ _ _ _) = _
  rw [rewriteL4_short has (by rw [length_patchHeader header 12 (by decide)]; exact cut)]
  have header1 := header_patchHeader header 12 (by decide)
    (csumReplace4 (wordAt hdr 10) (addrAt hdr 12) natIp) natIp
  have kept := patchedHeader_kept hdr (.inl rfl : 12 = 12 \/ _) (csumReplace4 (wordAt hdr 10) (addrAt hdr 12) natIp) natIp
  have word (off : Nat) (after : ethLen + 20 <= off) :
    (patchHeader pkt ethLen 12 (csumReplace4 (wordAt hdr 10) (addrAt hdr 12) natIp) natIp).readU16Be off
      = pkt.readU16Be off := by
    rw [patchHeader, readU16Be_splice_apart _ natIp (by rw [length_splice pkt _ _ (by omega)]; omega) _
      (.inr (by omega)), readU16Be_splice_apart pkt _ (by omega) _ (.inr (by omega))]
  generalize patchHeader pkt ethLen 12 _ natIp = p at *
  generalize copyAt (copyAt hdr 10 _) 12 natIp = hdr1 at *
  have start : l4Start ethLen hdr1 = l4Start ethLen hdr := by
    rw [l4Start, l4Start, kept.1]
  have parsed : l4Ports p ethLen = some (l4Proto hdr, sport, dport) := by
    refine l4Ports_eq_some.mpr ⟨hdr1, header1, kept.2.2.trans first, kept.2.1, has, ?_, ?_⟩
    · rw [start, word _ (by omega)]
      exact readSp
    · rw [start, word _ (by omega)]
      exact readDp
  have header2 : wholeHeader p = true := by
    rw [wholeHeader_eq header1, kept.1]
    exact words
  rw [carriedPort, if_pos header2, parsed]
  rfl

lemma covers_of_noLeak (read : pkt.readArray 4 (ethLen + 16) = some dst)
  (routed : maps.route4 inp.port.vni dst = some route) (external : route.isExternal ≠ 0)
  (sealed : ∀ fw s, NoLeak maps fw s pkt inp natIp) : SnatCovers maps pkt inp.port.vni natIp := by
  have long : ethLen + 20 <= pkt.length := by
    have within := readArray_le pkt _ read
    omega
  obtain ⟨hdr, header⟩ := readArray_of_within (n := 20) pkt ethLen long
  obtain ⟨src, readSrc⟩ := readArray_of_within (n := 4) pkt (ethLen + 12) (by omega)
  have leaving : (route.isExternal != 0) = true := by simpa using external
  by_contra uncovered
  obtain ⟨balanced, unbound⟩ := not_or.mp uncovered
  obtain ⟨key, keyed⟩ : ∃ key, ctKey pkt ethLen inp.port.vni = some key := by
    simp [ctKey, readSrc, read]
  have unbalanced : maps.dsr key = none := by
    cases noted : maps.dsr key with
    | none => rfl
    | some d => exact absurd ⟨key, keyed, by rw [noted]; rfl⟩ balanced
  -- what is outside is not dropped and not load-balanced, so it has to be translated
  have seen (ct : Conntrack) {o : GuestTxOut} {p : Pkt} {ct' : Conntrack} {meter : Map UInt32 MeterState}
    (result : processGuestTx maps (open.steady 0) ⟨ct, ∅, ∅, ∅⟩ pkt inp
      = (o, p, ⟨ct', ∅, ∅, meter⟩)) (sent : o.action ≠ .drop) :
    TranslatedBy pkt p inp.port.vni natIp ct' := by
    have outcome := sealed (open.steady 0) ⟨ct, ∅, ∅, ∅⟩
    unfold NoLeak at outcome
    rw [result] at outcome
    rcases outcome with dropped | translated | ⟨key', d, keyed', noted, _⟩
    · exact absurd dropped sent
    · exact translated
    · rw [keyed] at keyed'
      cases keyed'
      rw [unbalanced] at noted
      cases noted
  by_cases empty : ∀ b, maps.nat.lookup ⟨inp.port.vni, addrAt hdr 12⟩ = some b -> b.portMax - b.portMin = 0
  · -- no ports for this source: the frame goes out as it is
    obtain ⟨T, table, forwards⟩ := processGuestTx_open ∅ long keyed unbalanced read routed
    have blank : T = ∅ := by
      rcases table with same | ⟨e, held, _⟩
      · exact same
      · simp at held
    subst blank
    have translated : snatEgress pkt maps.nat ∅ ethLen inp.port.vni (route.isExternal != 0) inp.now 0
      = (.continue, pkt, ∅) := by
      rw [leaving]
      rcases snatEgress_cases header maps.nat ∅ inp.port.vni inp.now 0 with ⟨_, result⟩ | ⟨b, bound, some_, _⟩
      · exact result
      · exact absurd (empty b bound) some_
    obtain ⟨o, p, meter, result, sent, _⟩ := forwards pkt ∅ long translated
    obtain ⟨_, key', e, _, held, natted, _⟩ := seen ∅ result sent
    exact natted (default_not_natted rfl held)
  · simp only [not_forall] at empty
    obtain ⟨b, bound, some_⟩ := empty
    -- a flow that is tracked under a port no packet of it carries
    have unfit : ¬ ∀ proto sport dport, l4Ports pkt ethLen = some (proto, sport, dport) ->
      b.natIpv4 = natIp /\ wholeHeader pkt /\ l4Start ethLen hdr + l4Window proto <= pkt.length :=
      fun fits => unbound ⟨hdr, b, header, bound, some_, fits⟩
    simp only [not_forall] at unfit
    obtain ⟨proto, sport, dport, ports, unfit⟩ := unfit
    have tuple := ctKey_of_header header ports inp.port.vni
    rw [addrAt_source, addrAt_dest, keyed] at tuple
    cases tuple
    let port : UInt16 := if wholeHeader pkt then sport + 1 else 0
    let e : CtEntry := ⟨0, Vector.replicate 4 0, port, ctRewriteSrc ||| ctFSrcNat, 0, 0, 0⟩
    let fwd : CtKey := ⟨inp.port.vni, addrAt hdr 12, addrAt hdr 16, sport, dport, proto⟩
    obtain ⟨T, table, forwards⟩ := processGuestTx_open ((∅ : Conntrack).insert fwd e) long keyed unbalanced read routed
    have tracked : T.lookup fwd = some e := by
      rcases table with rfl | ⟨e', held, rfl⟩
      · exact Finmap.lookup_insert _
      · rw [Finmap.lookup_insert] at held
        cases held
        exact Finmap.lookup_insert _
    have natted : e.flags &&& ctFSrcNat ≠ 0 :=
      (by decide : (ctRewriteSrc ||| ctFSrcNat) &&& ctFSrcNat ≠ 0)
    have allocated : allocate T b fwd (b.portMax - b.portMin) inp.now 0 = some (port, T) := by
      simp [allocate, tracked, natted, e]
    have translated : snatEgress pkt maps.nat T ethLen inp.port.vni (route.isExternal != 0) inp.now 0
      = (.continue, rewriteSource pkt ethLen hdr b.natIpv4 proto sport port, T) := by
      simp only [snatEgress, leaving, Bool.true_eq_false, if_false, header, ports]
      rw [addrAt_source, addrAt_dest, bound]
      simp only [if_neg some_]
      rw [allocated]
    obtain ⟨o, p, meter, result, sent, same⟩ := forwards _ T (by rw [length_rewriteSource header]; exact long) translated
    obtain ⟨source, key', e', keyed', held', _, carried⟩ := seen _ result sent
    rw [keyed] at keyed'
    cases keyed'
    obtain ⟨e'', held'', kept⟩ := keeps_trackFlow T (rewriteSource pkt ethLen hdr b.natIpv4 proto sport port)
      ethLen inp.port.vni inp.now 0 fwd e tracked
    rw [held'] at held''
    cases held''
    have pinned : e'.xlatePort = port := congrArg (fun x => x.2.2) kept
    rw [carriedPort_congr same, pinned] at carried
    rw [same 4 (ethLen + 12) (Nat.le_add_right _ _)] at source
    obtain ⟨_, _, _, _, has, _⟩ := l4Ports_eq_some.mp ports
    cases whole : wholeHeader pkt with
    | false =>
      have cut : port = 0 := by simp [port, whole]
      rw [cut] at carried
      rw [carriedPort, rewriteSource_unwhole header has whole] at carried
      simp at carried
    | true =>
      have other : port = sport + 1 := by simp [port, whole]
      by_cases window : l4Start ethLen hdr + l4Window proto <= pkt.length
      · rw [(rewriteSource_reads header ports whole window b.natIpv4 port).1] at source
        exact unfit ⟨some.inj source, whole, window⟩
      · rw [rewriteSource_short header ports whole (by omega), other] at carried
        have same := some.inj carried
        have value := congrArg UInt16.toNat same
        have bound := sport.toNat_lt
        rw [UInt16.toNat_add] at value
        simp at value
        omega

end Ectobase.Flowplane
