import Ectobase.Flowplane.FwCompiled

namespace Ectobase.Flowplane

open Shared Option Except
open List hiding Vector

variable {n : Nat}

@[simp] lemma get_ofFn (f : Fin n -> UInt8) (i : Fin n) : (Vector.ofFn f).get i = f i :=
  Vector.getElem_ofFn i.isLt

lemma prefixLen_mask (mask : Vector UInt8 n) (len : Nat) (found : prefixLen mask = some len)
  (i : Fin n) : mask.get i = maskByte (bitsInByte len i) := by
  simp only [prefixLen] at found
  split at found
  next canonical =>
    rw [some.injEq] at found
    subst found
    simpa using all_eq_true.mp canonical i (mem_finRange i)
  · simp at found

lemma getD_toList (v : Vector UInt8 n) (i : Fin n) : v.toList.getD i 0 = v.get i := by
  simp [getD_eq_getElem?_getD]
  rfl

variable (addr rule mask : Vector UInt8 n)

lemma maskedEq_iff (len : Nat) (contiguous : ∀ i : Fin n, mask.get i = maskByte (bitsInByte len i)) :
  maskedEq addr rule mask = true ↔ BitsAgree (masked rule len).toList addr.toList len := by
  rw [bitsAgree_iff_masked]
  have own (i : Fin n) : (masked rule len).toList.getD i 0 = rule.get i &&& mask.get i := by
    rw [getD_toList, contiguous i]
    simp [masked]
  constructor
  · intro equal i
    by_cases inside : i < n
    · have byte := all_eq_true.mp equal ⟨i, inside⟩ (mem_finRange _)
      have value := own ⟨i, inside⟩
      have address := getD_toList addr ⟨i, inside⟩
      rw [contiguous ⟨i, inside⟩] at byte value
      rw [value, address, UInt8.and_assoc, UInt8.and_self]
      exact (beq_iff_eq.mp byte).symm
    · simp [getD_eq_getElem?_getD, inside]
  · intro bytes
    apply all_eq_true.mpr
    intro i _
    have byte := bytes i
    rw [own i, getD_toList, contiguous i, UInt8.and_assoc, UInt8.and_self] at byte
    rw [contiguous i]
    exact beq_iff_eq.mpr byte.symm

lemma maskedEq_zero (zero : mask.toList.any (· != 0) = false) : maskedEq addr rule mask = true := by
  apply all_eq_true.mpr
  intro i _
  have byte : mask.get i = 0 := by
    have all := any_eq_false.mp zero (mask.get i) (Vector.mem_toList_iff.mpr (Vector.getElem_mem i.isLt))
    simpa using all
  simp [byte]

lemma bitsAgree_cons (a b : UInt8) (as bs : List UInt8) (m : Nat) :
  BitsAgree (a :: as) (b :: bs) (8 + m) ↔ a = b /\ BitsAgree as bs m := by
  have split := bitsAgree_append (a := [a]) (b := as) (c := [b]) (d := bs) rfl m
  simpa using split

lemma bitsAgree_zero (a b : List UInt8) : BitsAgree a b 0 := by
  intro i bound
  omega

lemma toUInt16_eq_iff (byte : UInt8) (word : UInt16) (small : ¬ 255 < word) : byte.toUInt16 = word ↔ byte = word.toUInt8 := by
  rw [<- UInt16.toNat_inj, <- UInt8.toNat_inj]
  rw [UInt16.lt_iff_toNat_lt] at small
  have low : ¬ 255 < word.toNat := small
  have size := byte.toNat_lt
  simp
  omega

lemma ruleMatches_iff (icmpProto : UInt8) (r : Rule n) (s : PacketSelectors n) :
  ruleMatches icmpProto r s = true ↔ r.enabled ≠ 0 /\ (r.proto = 0 \/ r.proto = s.proto) /\
      maskedEq s.src r.srcIp r.srcMask = true /\ maskedEq s.dst r.dstIp r.dstMask = true /\
      l4Matches icmpProto r s = true := by
  unfold ruleMatches
  by_cases enabled : r.enabled = 0
  · simp [enabled]
  by_cases proto : r.proto ≠ 0 /\ r.proto ≠ s.proto
  · simp [enabled, proto]
  have pass : r.proto = 0 \/ r.proto = s.proto := by tauto
  rw [if_neg enabled, if_neg proto]
  cases maskedEq s.src r.srcIp r.srcMask <;> cases maskedEq s.dst r.dstIp r.dstMask <;> simp [enabled, pass]

def polSuffix (icmpProto : UInt8) (s : PacketSelectors n) : UInt8 × UInt8 :=
  fwPolSuffix s.proto s.dport (s.icmpType, s.icmpCode) icmpProto

lemma suffixHits_wild (p : Parsed n) (wild : p.proto = 0) (proto : UInt8)
  (port : UInt8 × UInt8) : SuffixHits p proto port := by
  refine ⟨(32, 0, 0), ?_, bitsAgree_zero _ _⟩
  simp [suffixes, wild, fwPolPrefixClass]

section

variable (p : Parsed n) (named : p.proto ≠ 0) (proto : UInt8) (port : UInt8 × UInt8)

include named

lemma suffixHits_any (sel : p.sel = .any) : SuffixHits p proto port ↔ p.proto = proto := by
  have only : suffixes p = [(40, 0, 0)] := by simp [suffixes, named, sel, fwPolPrefixProto]
  simp only [SuffixHits, only, mem_singleton, exists_eq_left]
  rw [show 40 - 32 = 8 + 0 from rfl, bitsAgree_cons]
  exact and_iff_left (bitsAgree_zero _ _)

lemma suffixHits_type (t : UInt8) (sel : p.sel = .icmp t none) : SuffixHits p proto port ↔ p.proto = proto /\ t = port.1 := by
  have only : suffixes p = [(48, t, 0)] := by simp [suffixes, named, sel, fwPolPrefixProto]
  simp only [SuffixHits, only, mem_singleton, exists_eq_left]
  rw [show 48 - 32 = 8 + (8 + 0) from rfl, bitsAgree_cons, bitsAgree_cons]
  exact and_congr_right fun _ => and_iff_left (bitsAgree_zero _ _)

lemma suffixHits_code (t c : UInt8) (sel : p.sel = .icmp t (some c)) :
  SuffixHits p proto port ↔ p.proto = proto /\ t = port.1 /\ c = port.2 := by
  have only : suffixes p = [(56, t, c)] := by simp [suffixes, named, sel, fwPolPrefixProto]
  simp only [SuffixHits, only, mem_singleton, exists_eq_left]
  rw [show 56 - 32 = 8 + (8 + (8 + 0)) from rfl, bitsAgree_cons, bitsAgree_cons, bitsAgree_cons]
  exact and_congr_right fun _ => and_congr_right fun _ => and_iff_left (bitsAgree_zero _ _)

lemma suffixHits_ports (lo hi : UInt16) (sel : p.sel = .ports lo hi) :
  SuffixHits p proto port ↔ p.proto = proto /\ ∃ pair ∈ portPrefixes lo hi,
    BitsAgree [(toBeBytes pair.1).1, (toBeBytes pair.1).2] [port.1, port.2] pair.2 := by
  have all : suffixes p = (portPrefixes lo hi).map fun v => (40 + v.2, toBeBytes v.1) := by
    simp [suffixes, named, sel, fwPolPrefixProto]
  have split (pair : UInt16 × Nat) : BitsAgree [p.proto, (toBeBytes pair.1).1, (toBeBytes pair.1).2] [proto, port.1, port.2]
        (40 + pair.2 - 32) ↔
      p.proto = proto /\ BitsAgree [(toBeBytes pair.1).1, (toBeBytes pair.1).2] [port.1, port.2] pair.2 := by
    rw [show 40 + pair.2 - 32 = 8 + pair.2 by omega, bitsAgree_cons]
  simp only [SuffixHits, all, List.mem_map, exists_exists_and_eq_and, split]
  constructor
  · rintro ⟨pair, member, same, agree⟩
    exact ⟨same, pair, member, agree⟩
  · rintro ⟨same, pair, member, agree⟩
    exact ⟨pair, member, same, agree⟩

lemma suffixHits_range (lo hi dport : UInt16) (sel : p.sel = .ports lo hi) :
  SuffixHits p proto (toBeBytes dport) ↔ p.proto = proto /\ lo <= dport /\ dport <= hi := by
  rw [suffixHits_ports p named proto _ lo hi sel, <- portPrefixes_cover]
  refine and_congr_right fun _ => exists_congr fun pair => and_congr_right fun member => ?_
  exact (portPrefixes_aligned lo hi pair member).bitsAgree_iff dport

lemma suffixHits_proto (hit : SuffixHits p proto port) : p.proto = proto := by
  cases sel : p.sel with
  | any => exact (suffixHits_any p named proto port sel).mp hit
  | ports lo hi => exact ((suffixHits_ports p named proto port lo hi sel).mp hit).1
  | icmp t code =>
    cases code with
    | none => exact ((suffixHits_type p named proto port t sel).mp hit).1
    | some c => exact ((suffixHits_code p named proto port t c sel).mp hit).1

end

section

variable (icmpProto : UInt8) (r : Rule n) (s : PacketSelectors n)

lemma polSuffix_ports (icmpTcp : icmpProto ≠ 6) (icmpUdp : icmpProto ≠ 17)
  (ports : s.proto = 6 \/ s.proto = 17) : polSuffix icmpProto s = toBeBytes s.dport := by
  have notIcmp : s.proto ≠ icmpProto := by
    rcases ports with tcp | udp
    · rw [tcp]; exact icmpTcp.symm
    · rw [udp]; exact icmpUdp.symm
  rw [polSuffix, fwPolSuffix, if_neg notIcmp]
  exact if_pos ports

lemma polSuffix_icmp (icmp : s.proto = icmpProto) : polSuffix icmpProto s = (s.icmpType.toUInt8, s.icmpCode.toUInt8) := by
  rw [polSuffix, fwPolSuffix, if_pos icmp]

lemma u16_le_max (x : UInt16) : x <= 65535 := by
  rw [UInt16.le_iff_toNat_le]
  have bound := x.toNat_lt
  simp
  omega

lemma l4Matches_ports (ports : s.proto = 6 \/ s.proto = 17) (sports : (view r).sports = (0, 65535)) :
  l4Matches icmpProto r s = true ↔ r.dstPortMin <= s.dport /\ s.dport <= r.dstPortMax := by
  obtain ⟨low, high⟩ := Prod.mk.inj sports
  simp [l4Matches, ports, low, high, u16_le_max]

lemma l4Matches_icmp (icmpTcp : icmpProto ≠ 6) (icmpUdp : icmpProto ≠ 17) (icmp : s.proto = icmpProto) :
  l4Matches icmpProto r s = true ↔ (r.icmpType = 0xffff \/ s.icmpType = r.icmpType) /\
    (r.icmpCode = 0xffff \/ s.icmpCode = r.icmpCode) := by
  simp [l4Matches, icmp, icmpTcp, icmpUdp]

lemma l4Matches_other (ports : ¬ (s.proto = 6 \/ s.proto = 17)) (icmp : s.proto ≠ icmpProto) :
  l4Matches icmpProto r s = true := by
  simp [l4Matches, ports, icmp]

lemma l4Matches_wild (sports : (view r).sports = (0, 65535))
  (dports : (view r).dports = (0, 65535)) (icmp : (view r).icmp = (0xffff, 0xffff)) :
  l4Matches icmpProto r s = true := by
  obtain ⟨srcLow, srcHigh⟩ := Prod.mk.inj sports
  obtain ⟨dstLow, dstHigh⟩ := Prod.mk.inj dports
  obtain ⟨icmpType, icmpCode⟩ := Prod.mk.inj icmp
  simp [l4Matches, srcLow, srcHigh, dstLow, dstHigh, icmpType, icmpCode, u16_le_max]

section

variable (p : Parsed n) (proto : p.proto = r.proto)
  (parsed : parseSelector (view r) icmpProto = .ok (some p.sel)) (same : r.proto = s.proto)

include proto parsed same

lemma parseSelector_ports (icmpTcp : icmpProto ≠ 6) (icmpUdp : icmpProto ≠ 17)
  (sports : (view r).sports = (0, 65535)) (ports : r.proto = 6 \/ r.proto = 17) :
  SuffixHits p s.proto (polSuffix icmpProto s) ↔ l4Matches icmpProto r s = true := by
  have named : p.proto ≠ 0 := by
    rw [proto]
    rcases ports with tcp | udp
    · rw [tcp]; decide
    · rw [udp]; decide
  have packet : s.proto = 6 \/ s.proto = 17 := same ▸ ports
  have matched : p.proto = s.proto := proto.trans same
  rw [l4Matches_ports icmpProto r s packet sports]
  unfold parseSelector at parsed
  rw [if_pos (show (view r).proto = 6 \/ (view r).proto = 17 from ports)] at parsed
  split at parsed
  · simp at parsed
  · split at parsed
    next whole =>
      obtain ⟨low, high⟩ := Prod.mk.inj whole
      rw [ok.injEq, some.injEq] at parsed
      rw [suffixHits_any p named _ _ parsed.symm]
      simp [matched, low, high, u16_le_max]
    · rw [ok.injEq, some.injEq] at parsed
      rw [polSuffix_ports icmpProto s icmpTcp icmpUdp packet, suffixHits_range p named _ _ _ _ parsed.symm]
      exact and_iff_right matched

lemma parseSelector_icmp (icmpTcp : icmpProto ≠ 6) (icmpUdp : icmpProto ≠ 17)
  (icmpAny : icmpProto ≠ 0) (icmp : r.proto = icmpProto)
  (bytes : ∃ t c : UInt8, s.icmpType = t.toUInt16 /\ s.icmpCode = c.toUInt16) :
  SuffixHits p s.proto (polSuffix icmpProto s) ↔ l4Matches icmpProto r s = true := by
  obtain ⟨t, c, hType, hCode⟩ := bytes
  have named : p.proto ≠ 0 := by rw [proto, icmp]; exact icmpAny
  have matched : p.proto = s.proto := proto.trans same
  have notPorts : ¬ ((view r).proto = 6 \/ (view r).proto = 17) := by
    rw [show (view r).proto = icmpProto from icmp]
    tauto
  rw [l4Matches_icmp icmpProto r s icmpTcp icmpUdp (same ▸ icmp),
    polSuffix_icmp icmpProto s (same ▸ icmp), hType, hCode, UInt8.toUInt8_toUInt16,
    UInt8.toUInt8_toUInt16]
  simp only [parseSelector, if_neg notPorts, if_pos (show (view r).proto = icmpProto from icmp)]
    at parsed
  change (if r.icmpType = 0xffff /\ r.icmpCode = 0xffff then _ else
    if r.icmpType = 0xffff then _ else if 255 < r.icmpType then _ else
    if r.icmpCode = 0xffff then _ else if 255 < r.icmpCode then _ else _) = _ at parsed
  split at parsed
  next whole =>
    rw [ok.injEq, some.injEq] at parsed
    rw [suffixHits_any p named _ _ parsed.symm]
    simp [matched, whole]
  next notWhole =>
    split at parsed
    · simp at parsed
    next typed =>
      split at parsed
      · simp at parsed
      next smallType =>
        rw [toUInt16_eq_iff t _ smallType]
        split at parsed
        next anyCode =>
          rw [ok.injEq, some.injEq] at parsed
          rw [suffixHits_type p named _ _ _ parsed.symm]
          simp [view, matched, typed, anyCode, eq_comm]
        next coded =>
          split at parsed
          · simp at parsed
          next smallCode =>
            rw [ok.injEq, some.injEq] at parsed
            rw [toUInt16_eq_iff c _ smallCode, suffixHits_code p named _ _ _ _ parsed.symm]
            simp [view, matched, typed, coded, eq_comm]

lemma parseSelector_other (named : r.proto ≠ 0) (notPorts : ¬ (r.proto = 6 \/ r.proto = 17)) (notIcmp : r.proto ≠ icmpProto) :
  SuffixHits p s.proto (polSuffix icmpProto s) ↔ l4Matches icmpProto r s = true := by
  rw [l4Matches_other icmpProto r s (same ▸ notPorts) (same ▸ notIcmp)]
  unfold parseSelector at parsed
  rw [if_neg (show ¬ ((view r).proto = 6 \/ (view r).proto = 17) from notPorts),
    if_neg (show (view r).proto ≠ icmpProto from notIcmp),
    if_neg (fun wild => named wild.1), ok.injEq, some.injEq] at parsed
  rw [suffixHits_any p (by rwa [proto]) _ _ parsed.symm]
  exact iff_of_true (proto.trans same) rfl

end

lemma parseSelector_wild (icmpAny : icmpProto ≠ 0) (sel : Selector)
  (parsed : parseSelector (view r) icmpProto = .ok (some sel)) (wild : r.proto = 0) :
  (view r).dports = (0, 65535) /\ (view r).icmp = (0xffff, 0xffff) := by
  unfold parseSelector at parsed
  have proto : (view r).proto = 0 := wild
  rw [if_neg (by rw [proto]; decide), if_neg (by rw [proto]; exact icmpAny.symm)] at parsed
  split at parsed
  · simp at parsed
  next free => tauto

lemma parseSelector_hits (icmpTcp : icmpProto ≠ 6) (icmpUdp : icmpProto ≠ 17)
  (icmpAny : icmpProto ≠ 0) (sports : (view r).sports = (0, 65535))
  (bytes : s.proto = icmpProto -> ∃ t c : UInt8, s.icmpType = t.toUInt16 /\ s.icmpCode = c.toUInt16)
  (p : Parsed n) (proto : p.proto = r.proto)
  (parsed : parseSelector (view r) icmpProto = .ok (some p.sel)) :
  SuffixHits p s.proto (polSuffix icmpProto s) ↔ (r.proto = 0 \/ r.proto = s.proto) /\ l4Matches icmpProto r s = true := by
  by_cases wild : r.proto = 0
  · obtain ⟨dports, icmp⟩ := parseSelector_wild icmpProto r icmpAny p.sel parsed wild
    simp [wild, suffixHits_wild p (proto.trans wild), l4Matches_wild icmpProto r s sports dports icmp]
  by_cases same : r.proto = s.proto
  · rw [and_iff_right (.inr same)]
    by_cases ports : r.proto = 6 \/ r.proto = 17
    · exact parseSelector_ports icmpProto r s p proto parsed same icmpTcp icmpUdp sports ports
    by_cases icmp : r.proto = icmpProto
    · exact parseSelector_icmp icmpProto r s p proto parsed same icmpTcp icmpUdp icmpAny icmp (bytes (same ▸ icmp))
    · exact parseSelector_other icmpProto r s p proto parsed same wild ports icmp
  · have miss : ¬ SuffixHits p s.proto (polSuffix icmpProto s) := by
      intro hit
      exact same (proto ▸ suffixHits_proto p (by rwa [proto]) _ _ hit)
    simp [wild, same, miss]

end

def peerOf (dir : UInt8) (s : PacketSelectors n) : Vector UInt8 n :=
  if dir = fwDirEgress then s.dst else s.src

def CanMatch (r : Rule n) : Prop :=
  r.enabled ≠ 0 /\ ¬ ((r.proto = 6 \/ r.proto = 17) /\ r.dstPortMax < r.dstPortMin)

instance (r : Rule n) : Decidable (CanMatch r) :=
  inferInstanceAs (Decidable (_ /\ _))

lemma canMatch_of_ruleMatches (icmpProto : UInt8) (r : Rule n) (s : PacketSelectors n)
  (hit : ruleMatches icmpProto r s = true) : CanMatch r := by
  obtain ⟨enabled, proto, _, _, l4⟩ := (ruleMatches_iff icmpProto r s).mp hit
  refine ⟨enabled, ?_⟩
  rintro ⟨ports, empty⟩
  have packet : s.proto = 6 \/ s.proto = 17 := by
    rcases proto with wild | same
    · rw [wild] at ports
      exact absurd ports (by decide)
    · rwa [<- same]
  simp only [l4Matches, if_pos packet, Bool.and_eq_true, decide_eq_true_eq] at l4
  have low := UInt16.le_iff_toNat_le.mp l4.1.2
  have high := UInt16.le_iff_toNat_le.mp l4.2
  rw [UInt16.lt_iff_toNat_lt] at empty
  omega

section

variable (icmpProto dir : UInt8) (r : Rule n)

lemma parseSelector_none (parsed : parseSelector (view r) icmpProto = .ok none) :
  (r.proto = 6 \/ r.proto = 17) /\ r.dstPortMax < r.dstPortMin := by
  unfold parseSelector at parsed
  split at parsed
  next ports =>
    split at parsed
    next empty => exact ⟨ports, empty⟩
    · split at parsed <;> simp at parsed
  · split at parsed
    · dsimp only at parsed
      repeat' split at parsed
      all_goals simp at parsed
    · split at parsed <;> simp at parsed

lemma parseSelector_some (sel : Selector) (parsed : parseSelector (view r) icmpProto = .ok (some sel)) :
  ¬ ((r.proto = 6 \/ r.proto = 17) /\ r.dstPortMax < r.dstPortMin) := by
  rintro ⟨ports, empty⟩
  unfold parseSelector at parsed
  rw [if_pos (show (view r).proto = 6 \/ (view r).proto = 17 from ports),
    if_pos (show (view r).dports.2 < (view r).dports.1 from empty)] at parsed
  simp at parsed

structure ParsedFrom (peer peerMask localMask : Vector UInt8 n) (p : Parsed n) : Prop where
  sports : (view r).sports = (0, 65535)
  proto : p.proto = r.proto
  allow : p.allow = (r.action == fwActionAccept)
  sel : parseSelector (view r) icmpProto = .ok (some p.sel)
  ownSide : localMask.toList.any (· != 0) = false
  len : prefixLen peerMask = some p.len
  peer : p.peer = masked peer p.len

lemma parsePeer_ok (peer peerMask localMask : Vector UInt8 n) (o : Option (Parsed n))
  (ok : parsePeer (view r) icmpProto peer peerMask localMask = .ok o) :
  match o with
  | none => (r.proto = 6 \/ r.proto = 17) /\ r.dstPortMax < r.dstPortMin
  | some p => ParsedFrom icmpProto r peer peerMask localMask p := by
  unfold parsePeer at ok
  split at ok
  · simp at ok
  next free =>
    split at ok
    · simp at ok
    next sports =>
      split at ok
      · simp at ok
      next len found =>
        cases parsed : parseSelector (view r) icmpProto with
        | error e => simp [parsed, Except.map] at ok
        | ok sel =>
          cases sel with
          | none =>
            simp only [parsed, Except.map, map_none, Except.ok.injEq] at ok
            subst ok
            exact parseSelector_none icmpProto r parsed
          | some sel =>
            simp only [parsed, Except.map, map_some, Except.ok.injEq] at ok
            subst ok
            exact ⟨by simpa using sports, rfl, rfl, parsed, by simpa using free, found, rfl⟩

lemma ParsedFrom.hits {peer peerMask localMask : Vector UInt8 n} {p : Parsed n}
  {icmpProto : UInt8} {r : Rule n} (h : ParsedFrom icmpProto r peer peerMask localMask p)
  (addr own ownRule : Vector UInt8 n) :
  maskedEq own ownRule localMask = true /\
    (maskedEq addr peer peerMask = true ↔ BitsAgree p.peer.toList addr.toList p.len) := by
  refine ⟨maskedEq_zero own ownRule localMask h.ownSide, ?_⟩
  rw [h.peer, maskedEq_iff addr peer peerMask p.len (prefixLen_mask peerMask p.len h.len)]

lemma parse_ok (icmpTcp : icmpProto ≠ 6) (icmpUdp : icmpProto ≠ 17) (icmpAny : icmpProto ≠ 0)
  (o : Option (Parsed n)) (ok : parse (view r) dir icmpProto = .ok o) :
  match o with
  | none => ¬ CanMatch r
  | some p => CanMatch r /\ p.allow = (r.action == fwActionAccept) /\ ∀ s : PacketSelectors n,
        (s.proto = icmpProto -> ∃ t c : UInt8, s.icmpType = t.toUInt16 /\ s.icmpCode = c.toUInt16) ->
        (ruleMatches icmpProto r s = true ↔ RuleHits p (peerOf dir s) s.proto (polSuffix icmpProto s)) := by
  unfold parse at ok
  split at ok
  next disabled =>
    rw [Except.ok.injEq] at ok
    subst ok
    have off : r.enabled = 0 := by simpa [view] using disabled
    exact fun live => live.1 off
  next on =>
    have enabled : r.enabled ≠ 0 := by simpa [view] using on
    obtain ⟨peer, mask, own, ok, sides⟩ : ∃ peer mask own, parsePeer (view r) icmpProto peer mask own = .ok o /\
        ∀ p, ParsedFrom icmpProto r peer mask own p -> ∀ s : PacketSelectors n, (maskedEq s.src r.srcIp r.srcMask = true /\
          maskedEq s.dst r.dstIp r.dstMask = true ↔ BitsAgree p.peer.toList (peerOf dir s).toList p.len) := by
      by_cases egress : dir = fwDirEgress
      · rw [if_pos egress] at ok
        refine ⟨_, _, _, ok, fun p from_ s => ?_⟩
        obtain ⟨own, peer⟩ := from_.hits s.dst s.src r.srcIp
        rw [peerOf, if_pos egress, <- peer]
        exact and_iff_right own
      · rw [if_neg egress] at ok
        refine ⟨_, _, _, ok, fun p from_ s => ?_⟩
        obtain ⟨own, peer⟩ := from_.hits s.src s.dst r.dstIp
        rw [peerOf, if_neg egress, <- peer]
        exact and_iff_left own
    have result := parsePeer_ok icmpProto r _ _ _ o ok
    cases o with
    | none => exact fun live => live.2 result
    | some p =>
      refine ⟨⟨enabled, parseSelector_some icmpProto r p.sel result.sel⟩, result.allow, fun s bytes => ?_⟩
      rw [ruleMatches_iff, RuleHits, <- sides p result s,
        parseSelector_hits icmpProto r s icmpTcp icmpUdp icmpAny result.sports bytes p result.proto result.sel]
      exact ⟨fun ⟨_, proto, src, dst, l4⟩ => ⟨⟨src, dst⟩, proto, l4⟩,
        fun ⟨⟨src, dst⟩, proto, l4⟩ => ⟨enabled, proto, src, dst, l4⟩⟩

end

end Ectobase.Flowplane
