import Ectobase.Flowplane.FwParse
import Ectobase.Mesh.FirewallSemantics
import Ectobase.Mesh.FwReconcile
import Ectobase.Shared.CidrRange

namespace Ectobase.Flowplane

open Shared Mesh Option
open List hiding Vector

variable {n : Nat} {cidr : String} {p : NetPrefix}

lemma beBytes_allOnes {len : Nat} (bound : len <= 8 * n) (i : Fin n) :
  (prefixMask n len).get i = maskByte (bitsInByte len i) := by
  apply byte_ext
  intro k small
  rw [maskByte_getMsbD _ _ (bitsInByte_le len i) small]
  have place : i.val < n := i.isLt
  simp only [prefixMask, beBytes, get_ofFn]
  split
  next zero =>
    subst zero
    simp [bitsInByte, BitVec.getMsbD]
  next some =>
    simp only [BitVec.getMsbD, BitVec.getLsbD_extractLsb', BitVec.getLsbD_shiftLeft, BitVec.getLsbD_allOnes]
    rw [Bool.eq_iff_iff]
    simp only [Bool.and_eq_true, decide_eq_true_eq, Bool.not_eq_true', decide_eq_false_iff_not]
    unfold bitsInByte
    omega

lemma octets_getD (bytes : List UInt8) (i : Fin n) : (octets n bytes).get i = bytes.getD i 0 := by
  simp [octets]

lemma maskedEq_prefixMask {len : Nat} (bound : len <= 8 * n) (addr : Vector UInt8 n) (bytes : List UInt8) :
  maskedEq addr (octets n bytes) (prefixMask n len) = decide (BitsAgree bytes addr.toList len) := by
  rw [Bool.eq_iff_iff, decide_eq_true_eq, bitsAgree_iff_masked]
  constructor
  · intro equal i
    by_cases inside : i < n
    · have byte := all_eq_true.mp equal ⟨i, inside⟩ (mem_finRange _)
      rw [beq_iff_eq, octets_getD, beBytes_allOnes bound ⟨i, inside⟩, <- getD_toList addr ⟨i, inside⟩] at byte
      exact byte.symm
    · -- Past the address the prefix has no bits.
      have none : bitsInByte len i = 0 := by
        unfold bitsInByte
        omega
      rw [none, and_maskByte_zero, and_maskByte_zero]
  · intro bytes_
    apply all_eq_true.mpr
    intro i _
    rw [beq_iff_eq, octets_getD, beBytes_allOnes bound i, <- getD_toList addr i]
    exact (bytes_ i).symm

lemma maskedEq_any (addr : Vector UInt8 n) : maskedEq addr (Vector.replicate n 0) (Vector.replicate n 0) = true :=
  maskedEq_zero addr _ _ (by simp)

lemma parseFwCidr_of_parse (read : NetPrefix.parse cidr = some p) : cidr ≠ "" /\ parseFwCidr cidr = .ok
    (if p.addr.isV4 then .v4 (octets 4 p.addr.bytes) (prefixMask 4 p.bits)
    else .v6 (octets 16 p.addr.bytes) (prefixMask 16 p.bits)) := by
  obtain ⟨⟨a, n⟩, pair, rfl⟩ := map_eq_some_iff.mp read
  obtain ⟨addr, digits, two, addrRead, written, decimal, bound⟩ := parsePrefix_split pair
  have named : cidr ≠ "" := by
    rintro rfl
    simp [splitAtChar] at two
  refine ⟨named, ?_⟩
  have number : parseU32 digits = .ok n := by
    have small : n < 2 ^ 32 := by
      split at bound <;> omega
    cases digits with
    | nil => exact absurd rfl written
    | cons d rest =>
      have plain : d ≠ '+' := by
        rintro rfl
        exact absurd (parseDecimal_digits decimal mem_cons_self) (by decide)
      have unsigned : stripPlus (d :: rest) = d :: rest := by
        unfold stripPlus
        split
        next same =>
          cases same
          exact absurd rfl plain
        · rfl
      simp only [parseU32]
      rw [if_neg written, unsigned, if_neg written, decimal]
      exact if_pos small
  have split : splitOnce '/' cidr.toList = (addr, some digits) := by
    simp [splitOnce, two]
  have lenOf (family : String) (whole : Nat) (within : n <= whole) : cidrLen family whole cidr (some digits) = .ok n := by
    simp [cidrLen, number, bind, Except.bind, Nat.not_lt.mpr within, pure, Except.pure]
  simp only [parseFwCidr, if_neg named, split]
  unfold parseAddr at addrRead
  split at addrRead
  · cases addrRead
  · split at addrRead
    · obtain ⟨v4, fields, rfl⟩ := map_eq_some_iff.mp addrRead
      simp only [ipv4Addr, fields, map_some, lenOf "v4" 32 bound]
      rfl
    next found =>
      obtain ⟨v6, groups, rfl⟩ := map_eq_some_iff.mp addrRead
      have colon : ':' ∈ addr := mem_of_find?_eq_some found
      have other : parseIPv4Fields addr = none := by
        cases fields : parseIPv4Fields addr with
        | none => rfl
        | some v4 =>
          rcases parseIPv4Fields_chars fields colon with dot | digit
          · cases dot
          · exact absurd digit (by decide)
      simp only [ipv4Addr, ipv6Addr, other, groups, map_none, map_some, lenOf "v6" 128 bound]
      rfl
    · cases addrRead

def headerAddr {n : Nat} (bytes : Vector UInt8 n) : Addr :=
  if n = 4 then { isV4 := true, as16 := mappedHead ++ bytes.toList }
  else { isV4 := false, as16 := bytes.toList }

def peerOfDir {n : Nat} (dir : Direction) (s : PacketSelectors n) : Vector UInt8 n := match dir with
  | .ingress => s.src
  | .egress => s.dst

def dirByte : Direction -> UInt8
  | .ingress => fwDirIngress
  | .egress => fwDirEgress

def wordMatches (sel : Option Int) (v : UInt16) : Bool := match sel with
  | none => true
  | some x => decide (x = v.toNat)

def CompiledFwRule.names {n : Nat} (icmpProto : UInt8) (dir : Direction) (cr : CompiledFwRule)
  (s : PacketSelectors n) : Bool :=
  let port : Bool := decide (cr.port = 0) || if cr.endPort = 0 then decide (cr.port = s.dport.toNat)
    else decide (cr.port <= s.dport.toNat /\ s.dport.toNat <= cr.endPort)
  inCIDR cr.cidr (headerAddr (peerOfDir dir s)) && if cr.proto = "" then true
    else if cr.proto = "TCP" then decide (s.proto = 6) && port
    else if cr.proto = "UDP" then decide (s.proto = 17) && port
    else if cr.proto = "ICMP" then
      decide (s.proto = icmpProto) && wordMatches cr.icmpType s.icmpType && wordMatches cr.icmpCode s.icmpCode
    else false

structure Lowers {n : Nat} (icmpProto : UInt8) (dir : Direction) (cr : CompiledFwRule)
  (r : Rule n) : Prop where
  direction : r.direction = dirByte dir
  action : r.action = if cr.action = "Allow" then fwActionAccept else fwActionDrop
  packets : ∀ s : PacketSelectors n, ruleMatches icmpProto r s = CompiledFwRule.names icmpProto dir cr s

structure CompiledFwRule.Regular (cr : CompiledFwRule) : Prop where
  cidr : ∃ p, NetPrefix.parse cr.cidr = some p
  proto : cr.proto ∈ ["", "TCP", "UDP", "ICMP"]
  port : 0 <= cr.port /\ cr.port <= 65535 /\ (cr.port ≠ 0 -> cr.proto = "TCP" \/ cr.proto = "UDP")
  endPort : cr.endPort ≠ 0 -> cr.port ≠ 0 /\ cr.port < cr.endPort /\ cr.endPort <= 65535
  icmpType : ∀ t ∈ cr.icmpType, 0 <= t /\ t <= 255 /\ cr.proto = "ICMP"
  icmpCode : ∀ c ∈ cr.icmpCode, 0 <= c /\ c <= 255 /\ cr.icmpType ≠ none

section

variable {cr : CompiledFwRule}

lemma toNat_ofInt {x : Int} (low : 0 <= x) (high : x < 2 ^ 32) : ((UInt32.ofInt x).toNat : Int) = x := by
  rw [UInt32.ofInt, UInt32.toNat_ofNat']
  omega

def selWord (sel : Option Int) : UInt16 := match sel with
  | none => 0xffff
  | some x => UInt16.ofNat x.toNat

lemma wordMatches_eq {sel : Option Int} (octet : ∀ x ∈ sel, 0 <= x /\ x <= 255) (v : UInt16) :
  (selWord sel == 0xffff || v == selWord sel) = wordMatches sel v := by
  cases sel with
  | none => rfl
  | some x =>
    obtain ⟨low, high⟩ := octet x rfl
    have value : (UInt16.ofNat x.toNat).toNat = x.toNat := by
      rw [UInt16.toNat_ofNat']
      omega
    have set : (UInt16.ofNat x.toNat == 0xffff) = false := by
      rw [beq_eq_false_iff_ne, ne_eq, <- UInt16.toNat_inj, value]
      simp
      omega
    simp only [selWord, wordMatches, set, Bool.false_or]
    rw [Bool.eq_iff_iff, beq_iff_eq, decide_eq_true_eq, <- UInt16.toNat_inj, value]
    omega

lemma icmpOctet_eq {x : Int} (what : String) (octet : 0 <= x /\ x <= 255) :
  icmpOctet what (UInt32.ofInt x) = .ok (selWord (some x)) := by
  have value := toNat_ofInt octet.1 (by omega)
  rw [icmpOctet, if_pos (by omega)]
  congr 1
  rw [selWord, <- UInt16.toNat_inj, UInt32.toNat_toUInt16, UInt16.toNat_ofNat']
  omega

variable (id : String) (dir : Direction)

def specOf (cr : CompiledFwRule) : FwRuleSpec :=
  FwRuleWithID.spec { id, rule := compiledToFw cr (dir == .egress) }

lemma parseIcmpSelectors_compiled (regular : CompiledFwRule.Regular cr) :
  parseIcmpSelectors (specOf id dir cr) = .ok (selWord cr.icmpType, selWord cr.icmpCode) := by
  have typeEq : (specOf id dir cr).icmpType = cr.icmpType.map UInt32.ofInt := rfl
  have codeEq : (specOf id dir cr).icmpCode = cr.icmpCode.map UInt32.ofInt := rfl
  unfold parseIcmpSelectors
  cases type : cr.icmpType with
  | none =>
    have code : cr.icmpCode = none := by
      cases set : cr.icmpCode with
      | none => rfl
      | some c => exact absurd type (regular.icmpCode c set).2.2
    rw [type] at typeEq
    rw [code] at codeEq ⊢
    rw [if_pos ⟨typeEq, codeEq⟩]
    rfl
  | some t =>
    obtain ⟨low, high, icmp⟩ := regular.icmpType t type
    have proto : (specOf id dir cr).proto = 58 \/ (specOf id dir cr).proto = 1 := by
      have named : (specOf id dir cr).proto = protoNum "ICMP" (decide (':' ∈ cr.cidr.toList)) := by
        rw [<- icmp]
        rfl
      rw [named]
      cases decide (':' ∈ cr.cidr.toList) <;> decide
    rw [type] at typeEq
    rw [if_neg (by simp [typeEq]), if_neg (by tauto), typeEq]
    simp only [map_some, icmpOctet_eq "type" ⟨low, high⟩, bind, Except.bind]
    cases code : cr.icmpCode with
    | none =>
      rw [code] at codeEq
      rw [codeEq]
      rfl
    | some c =>
      have octet := regular.icmpCode c code
      rw [code] at codeEq
      rw [codeEq]
      simp only [map_some, icmpOctet_eq "code" ⟨octet.1, octet.2.1⟩]
      rfl

def lastPort (cr : CompiledFwRule) : Int := if cr.endPort > cr.port then cr.endPort else cr.port

def portWords (cr : CompiledFwRule) : UInt16 × UInt16 := if cr.port = 0 then (0, 65535)
  else (UInt16.ofNat cr.port.toNat, UInt16.ofNat (lastPort cr).toNat)

lemma dstPorts_compiled (regular : CompiledFwRule.Regular cr) : dstPorts (specOf id dir cr) = .ok (portWords cr) := by
  obtain ⟨low, high, -⟩ := regular.port
  have range := regular.endPort
  have min : ((specOf id dir cr).dstPortMin.toNat : Int) = cr.port := toNat_ofInt low (by omega)
  have bound : cr.port <= lastPort cr /\ lastPort cr <= 65535 /\ (cr.port = 0 -> lastPort cr = 0) := by
    unfold lastPort
    split <;> omega
  have max : ((specOf id dir cr).dstPortMax.toNat : Int) = lastPort cr :=
    toNat_ofInt (by omega) (by omega)
  have words : ((portWords cr).1.toNat : Int) = cr.port /\
    ((portWords cr).2.toNat : Int) = if cr.port = 0 then 65535 else lastPort cr := by
    unfold portWords
    split
    next any =>
      rw [any]
      exact ⟨rfl, rfl⟩
    · rw [UInt16.toNat_ofNat', UInt16.toNat_ofNat']
      omega
  have first : portU16 (specOf id dir cr).dstPortMin = .ok (portWords cr).1 := by
    rw [portU16_ok]
    omega
  have last : portU16 (if (specOf id dir cr).dstPortMax = 0 then 65535
    else (specOf id dir cr).dstPortMax) = .ok (portWords cr).2 := by
    have zero : (specOf id dir cr).dstPortMax = 0 ↔ cr.port = 0 := by
      rw [<- UInt32.toNat_inj, UInt32.toNat_zero]
      omega
    rw [portU16_ok]
    by_cases any : cr.port = 0
    · rw [if_pos (zero.mpr any)]
      rw [if_pos any] at words
      have all : (65535 : UInt32).toNat = 65535 := rfl
      omega
    · rw [if_neg (any ∘ zero.mp)]
      rw [if_neg any] at words
      omega
  have order : ¬ (portWords cr).2 < (portWords cr).1 := by
    rw [UInt16.lt_iff_toNat_lt]
    have := words.2
    split at this <;> omega
  simp only [dstPorts, first, last, bind, Except.bind, if_neg order]
  rfl

def loweredRule (n : Nat) (dir : Direction) (cr : CompiledFwRule) (p : NetPrefix) : Rule n :=
  let peer := (octets n p.addr.bytes, prefixMask n p.bits)
  let any := (Vector.replicate n 0, Vector.replicate n 0)
  fwRuleOf (if dir = .egress then any else peer) (if dir = .egress then peer else any)
    (portWords cr) (selWord cr.icmpType, selWord cr.icmpCode)
    (protoNum cr.proto !p.addr.isV4).toUInt8 (cr.action == "Allow") (dir == .egress)

lemma parseFwRule_compiled (regular : CompiledFwRule.Regular cr) (read : NetPrefix.parse cr.cidr = some p) :
  parseFwRule (specOf id dir cr) =
    .ok (if p.addr.isV4 then .v4 (loweredRule 4 dir cr p) else .v6 (loweredRule 16 dir cr p)) := by
  obtain ⟨named, parsed⟩ := parseFwCidr_of_parse read
  have family : decide (':' ∈ cr.cidr.toList) = !p.addr.isV4 := by
    rw [Bool.eq_iff_iff, decide_eq_true_eq, colon_mem_prefix read]
    cases p.addr.isV4 <;> simp
  have proto : protoU8 (specOf id dir cr).proto = .ok (protoNum cr.proto !p.addr.isV4).toUInt8 := by
    have same : (specOf id dir cr).proto = protoNum cr.proto !p.addr.isV4 := by
      rw [<- family]
      rfl
    rw [same, protoU8, if_pos]
    unfold protoNum
    split_ifs <;> decide
  have ports := dstPorts_compiled id dir regular
  have icmp := parseIcmpSelectors_compiled id dir regular
  have empty : parseFwCidr "" = .ok (.v4 (Vector.replicate 4 0) (Vector.replicate 4 0)) := rfl
  have src : (specOf id dir cr).srcCidr = if dir = .ingress then cr.cidr else "" := by cases dir <;> rfl
  have dst : (specOf id dir cr).dstCidr = if dir = .ingress then "" else cr.cidr := by cases dir <;> rfl
  unfold parseFwRule loweredRule
  rw [src, dst, proto, ports, icmp]
  cases dir
  all_goals
    simp only [reduceCtorEq, if_true, if_false, parsed, empty, invalid, Except.mapError, bind, Except.bind]
    rw [if_neg (by simp)]
    cases p.addr.isV4 <;> rfl

lemma inCIDR_headerAddr (read : NetPrefix.parse cidr = some p)
  (family : p.addr.isV4 = decide (n = 4)) (bound : p.bits <= 8 * n) (addr : Vector UInt8 n) :
  maskedEq addr (octets n p.addr.bytes) (prefixMask n p.bits) = inCIDR cidr (headerAddr addr) := by
  have own : (headerAddr addr).isV4 = decide (n = 4) /\ (headerAddr addr).bytes = addr.toList := by
    unfold headerAddr Addr.bytes
    split
    next four => simp [four, mappedHead]
    next other => simp [other]
  rw [maskedEq_prefixMask bound, inCIDR, read, map_some, getD_some, NetPrefix.contains,
    own.1, own.2, family, beq_self_eq_true, Bool.true_and]

lemma ports_match (regular : CompiledFwRule.Regular cr) (dport : UInt16) :
  (decide ((portWords cr).1 <= dport) && decide (dport <= (portWords cr).2)) = (decide (cr.port = 0) ||
      if cr.endPort = 0 then decide (cr.port = dport.toNat)
      else decide (cr.port <= dport.toNat /\ dport.toNat <= cr.endPort)) := by
  obtain ⟨low, high, -⟩ := regular.port
  have range := regular.endPort
  have top := dport.toNat_lt
  unfold portWords
  split
  next any => simp [any, u16_le_max]
  next set =>
    rw [Bool.eq_iff_iff]
    simp only [Bool.and_eq_true, Bool.or_eq_true, decide_eq_true_eq, UInt16.le_iff_toNat_le,
      UInt16.toNat_ofNat', set, false_or, lastPort]
    split <;> split <;> simp only [decide_eq_true_eq] <;> omega

def icmpOf (n : Nat) : UInt8 := if n = 4 then 1 else 58

lemma l4Matches_lowered (regular : CompiledFwRule.Regular cr) (s : PacketSelectors n) :
  l4Matches (icmpOf n) (loweredRule n dir cr p) s = if s.proto = 6 \/ s.proto = 17 then
      (decide (cr.port = 0) || if cr.endPort = 0 then decide (cr.port = s.dport.toNat)
        else decide (cr.port <= s.dport.toNat /\ s.dport.toNat <= cr.endPort))
    else if s.proto = icmpOf n then
      wordMatches cr.icmpType s.icmpType && wordMatches cr.icmpCode s.icmpCode
    else true := by
  have type := wordMatches_eq (fun t set => ⟨(regular.icmpType t set).1, (regular.icmpType t set).2.1⟩) s.icmpType
  have code := wordMatches_eq (fun c set => ⟨(regular.icmpCode c set).1, (regular.icmpCode c set).2.1⟩) s.icmpCode
  have zero : (0 : UInt16) <= s.sport := by
    rw [UInt16.le_iff_toNat_le, UInt16.toNat_zero]
    exact Nat.zero_le _
  rw [<- ports_match regular, <- type, <- code]
  simp [l4Matches, loweredRule, fwRuleOf, u16_le_max, zero]

lemma loweredRule_lowers (regular : CompiledFwRule.Regular cr)
  (read : NetPrefix.parse cr.cidr = some p) (family : p.addr.isV4 = decide (n = 4))
  (bound : p.bits <= 8 * n) : Lowers (icmpOf n) dir cr (loweredRule n dir cr p) := by
  refine ⟨?_, ?_, fun s => ?_⟩
  · cases dir <;> rfl
  · by_cases allow : cr.action = "Allow" <;> simp [loweredRule, fwRuleOf, allow]
  · have peer := fun addr => inCIDR_headerAddr read family bound addr
    have peers : (maskedEq s.src (loweredRule n dir cr p).srcIp (loweredRule n dir cr p).srcMask = true /\
      maskedEq s.dst (loweredRule n dir cr p).dstIp (loweredRule n dir cr p).dstMask = true) ↔
      inCIDR cr.cidr (headerAddr (peerOfDir dir s)) = true := by
      cases dir <;> simp [loweredRule, fwRuleOf, peerOfDir, maskedEq_any, peer]
    have enabled : (loweredRule n dir cr p).enabled ≠ 0 := by
      show (1 : UInt8) ≠ 0
      decide
    have protoEq : (loweredRule n dir cr p).proto = (protoNum cr.proto (decide (n ≠ 4))).toUInt8 := by
      rw [show (decide (n ≠ 4)) = !p.addr.isV4 by rw [family]; simp]
      rfl
    rw [Bool.eq_iff_iff, ruleMatches_iff, <- and_assoc (a := maskedEq _ _ _ = true), peers, l4Matches_lowered dir regular]
    simp only [enabled, ne_eq, not_false_eq_true, true_and, CompiledFwRule.names, Bool.and_eq_true]
    rw [and_left_comm]
    refine and_congr_right fun _ => ?_
    -- One case for each protocol a rule can name.
    obtain named | named | named | named : cr.proto = "" \/ cr.proto = "TCP" \/ cr.proto = "UDP" \/
      cr.proto = "ICMP" := by simpa using regular.proto
    · have port : cr.port = 0 := by
        by_contra set
        have needs := regular.port.2.2 set
        simp [named] at needs
      have type : cr.icmpType = none := by
        cases set : cr.icmpType with
        | none => rfl
        | some t =>
          have needs := (regular.icmpType t set).2.2
          simp [named] at needs
      have code : cr.icmpCode = none := by
        cases set : cr.icmpCode with
        | none => rfl
        | some c => exact absurd type (regular.icmpCode c set).2.2
      have any : (loweredRule n dir cr p).proto = 0 := by
        rw [protoEq, named]
        rfl
      simp [any, named, port, type, code, wordMatches]
    · have tcp : (loweredRule n dir cr p).proto = 6 := by
        rw [protoEq, named]
        rfl
      rw [tcp]
      by_cases same : s.proto = 6
      · simp [same, named]
      · simp [same, Ne.symm same, named]
    · have udp : (loweredRule n dir cr p).proto = 17 := by
        rw [protoEq, named]
        rfl
      rw [udp]
      by_cases same : s.proto = 17
      · simp [same, named]
      · simp [same, Ne.symm same, named]
    · have icmp : (loweredRule n dir cr p).proto = icmpOf n := by
        rw [protoEq, named]
        unfold icmpOf
        by_cases four : n = 4 <;> simp [four] <;> decide
      have own : icmpOf n ≠ 0 /\ icmpOf n ≠ 6 /\ icmpOf n ≠ 17 := by
        unfold icmpOf
        split <;> decide
      rw [icmp]
      by_cases same : s.proto = icmpOf n
      · simp [same, named, own]
      · simp [same, Ne.symm same, named, own]

end

section

structure TaggedRule where
  id : String
  dir : Direction
  cr : CompiledFwRule

def taggedRules (fw : CompiledFirewall) : List TaggedRule :=
  (fw.ingress.zipIdx.map fun (cr, idx) => ⟨"fw-in-" ++ toString idx, .ingress, cr⟩) ++
    fw.egress.zipIdx.map fun (cr, idx) => ⟨"fw-eg-" ++ toString idx, .egress, cr⟩

lemma firewallRules_eq (fw : CompiledFirewall) : (firewallRules fw).map FwRuleWithID.spec =
    (taggedRules fw).map fun t => specOf t.id t.dir t.cr := by
  simp only [firewallRules, taggedRules, List.map_append, List.map_map]
  rfl

lemma taggedRules_dir (fw : CompiledFirewall) (dir : Direction) :
  ((taggedRules fw).filter (·.dir == dir)).map TaggedRule.cr = fw.rules dir := by
  have fst (rules : List CompiledFwRule) : rules.zipIdx.map Prod.fst = rules := zipIdx_map_fst 0 rules
  cases dir <;> simp [taggedRules, List.filter_map, Function.comp_def, CompiledFirewall.rules, fst]

lemma CompiledFwRule.v6_of_parse {cr : CompiledFwRule} (read : NetPrefix.parse cr.cidr = some p) : cr.v6 = !p.addr.isV4 := by
  simp [Mesh.CompiledFwRule.v6, read]

lemma bits_le (read : NetPrefix.parse cidr = some p) : p.bits <= if p.addr.isV4 then 32 else 128 := by
  obtain ⟨⟨a, n⟩, pair, rfl⟩ := map_eq_some_iff.mp read
  obtain ⟨-, -, -, -, -, -, bound⟩ := parsePrefix_split pair
  exact bound

def ListLowers {n : Nat} (rules : List (List UInt8 × Rule n)) (dir : Direction) (compiled : List CompiledFwRule) : Prop :=
  List.Forall₂ (Lowers (icmpOf n) dir) compiled ((rules.map Prod.snd).filter fun r => r.direction == dirByte dir)

lemma ListLowers.cons {rules : List (List UInt8 × Rule n)} {dir d : Direction}
  {compiled : List CompiledFwRule} (rest : ListLowers rules dir compiled) {cr : CompiledFwRule}
  {r : Rule n} (lowers : Lowers (icmpOf n) d cr r) (id : List UInt8) :
  ListLowers ((id, r) :: rules) dir (if d == dir then cr :: compiled else compiled) := by
  have apart : (r.direction == dirByte dir) = (d == dir) := by
    rw [lowers.direction]
    cases d <;> cases dir <;> rfl
  unfold ListLowers
  simp only [map_cons, filter_cons, apart]
  by_cases same : d = dir
  · subst same
    simpa using ⟨lowers, rest⟩
  · rw [if_neg (by simpa using same), if_neg (by simpa using same)]
    exact rest

def lowered (n : Nat) (t : TaggedRule) : Option (List UInt8 × Rule n) :=
  ((NetPrefix.parse t.cr.cidr).filter (·.addr.isV4 = decide (n = 4))).map fun p =>
    (t.id.toUTF8.toList, loweredRule n t.dir t.cr p)

lemma lowered_eq {t : TaggedRule} (read : NetPrefix.parse t.cr.cidr = some p) : lowered n t =
    if p.addr.isV4 = decide (n = 4) then some (t.id.toUTF8.toList, loweredRule n t.dir t.cr p)
    else none := by
  by_cases family : p.addr.isV4 = decide (n = 4) <;> simp [lowered, read, Option.filter, family]

variable {tagged : List TaggedRule} (regular : ∀ t ∈ tagged, CompiledFwRule.Regular t.cr)

include regular

lemma splitFamilies_lowered : splitFamilies (tagged.map fun t => specOf t.id t.dir t.cr) =
  .ok (tagged.filterMap (lowered 4), tagged.filterMap (lowered 16)) := by
  induction tagged with
  | nil => rfl
  | cons t rest ih =>
    obtain ⟨own, later⟩ := forall_mem_cons.mp regular
    obtain ⟨p, read⟩ := own.cidr
    have parsed := parseFwRule_compiled t.id t.dir own read
    have ruleId : (specOf t.id t.dir t.cr).ruleId = t.id := rfl
    simp only [map_cons, splitFamilies, parsed, ih later, ruleId, bind, Except.bind, filterMap_cons, lowered_eq read]
    cases p.addr.isV4 <;> rfl

lemma lowered_lowers (n : Nat) (fits : ∀ t ∈ tagged, ∀ p, NetPrefix.parse t.cr.cidr = some p ->
  p.addr.isV4 = decide (n = 4) -> p.bits <= 8 * n) (dir : Direction) :
  ListLowers (tagged.filterMap (lowered n)) dir
    (((tagged.filter (·.dir == dir)).map TaggedRule.cr).filter fun cr => !cr.v6 = decide (n = 4)) := by
  induction tagged with
  | nil => exact List.Forall₂.nil
  | cons t rest ih =>
    obtain ⟨own, later⟩ := forall_mem_cons.mp regular
    obtain ⟨ownFits, laterFits⟩ := forall_mem_cons.mp fits
    have lists := ih later laterFits
    obtain ⟨p, read⟩ := own.cidr
    have v6 := CompiledFwRule.v6_of_parse read
    rw [filterMap_cons, lowered_eq read]
    by_cases family : p.addr.isV4 = decide (n = 4)
    · have cons := lists.cons (loweredRule_lowers t.dir own read family (ownFits p read family)) t.id.toUTF8.toList
      by_cases same : t.dir = dir <;> simpa [filter_cons, same, family, v6] using cons
    · by_cases same : t.dir = dir <;> simpa [filter_cons, same, family, v6] using lists

end

section

lemma regular_of_validate {r : FirewallPolicyRule} {path : String}
  (valid : validateFirewallRule r path = []) {rank : FwRank} :
  CompiledFwRule.Regular (fwEntry r rank p).rule := by
  have admitted := admitted_of_validate valid
  simp only [validateFirewallRule, append_eq_nil_iff] at valid
  obtain ⟨⟨⟨⟨-, port⟩, -⟩, icmpType⟩, icmpCode⟩ := valid.1
  have ok : protoOK r = true := decide_eq_true admitted.proto
  constructor
  case cidr => exact admitted.cidr
  case proto => exact admitted.proto
  case port =>
    refine ⟨admitted.port.1, admitted.port.2, fun set => ?_⟩
    unfold validatePort at port
    split at port
    · cases port
    · split at port
      · cases port
      next named =>
        show r.proto = "TCP" \/ r.proto = "UDP"
        have set : r.port ≠ 0 := set
        tauto
  case endPort =>
    intro set
    have set : (if r.port = 0 then none else r.endPort.filter (r.port < ·)).getD 0 ≠ 0 := set
    show r.port ≠ 0 /\ r.port < (if r.port = 0 then none else r.endPort.filter (r.port < ·)).getD 0 /\
      (if r.port = 0 then none else r.endPort.filter (r.port < ·)).getD 0 <= 65535
    split at set
    · exact absurd rfl set
    next some =>
      rw [if_neg some]
      cases last : r.endPort with
      | none =>
        rw [last] at set
        exact absurd rfl set
      | some e =>
        have bound := (admitted.endPort e last).2.2
        rw [last] at set
        by_cases above : r.port < e
        · simpa [Option.filter, above, some] using bound
        · simp [Option.filter, above] at set
  case icmpType =>
    intro t set
    have set : r.icmpType = some t := set
    simp only [validateICMPType, set] at icmpType
    split_ifs at icmpType with range other
    refine ⟨by omega, by omega, ?_⟩
    show r.proto = "ICMP"
    by_contra named
    exact other ⟨ok, named⟩
  case icmpCode =>
    intro c set
    have set : (if r.icmpType = none then none else r.icmpCode) = some c := set
    split at set
    · cases set
    next typed =>
      simp only [validateICMPCode, set] at icmpCode
      split_ifs at icmpCode with range
      exact ⟨by omega, by omega, typed⟩

variable {Selector Labels : Type} (selectors : LabelSelectors Selector Labels) (nicLabels : Labels)

lemma regular_of_compiled {policies : List (FirewallPolicy Selector)}
  (valid : ∀ pol ∈ policies, pol.validate selectors = []) {defaultPolicy : Option String}
  {fw : CompiledFirewall}
  (compiled : compileFirewall selectors nicLabels policies defaultPolicy = .ok fw)
  (dir : Direction) : ∀ cr ∈ fw.rules dir, CompiledFwRule.Regular cr := by
  intro cr listed
  rw [compileFirewall_rules selectors nicLabels valid compiled, FwSet.rules_eq, List.mem_map] at listed
  obtain ⟨e, member, rfl⟩ := listed
  have entry := (mem_survivors FwEntry.covers_trans).mp (mem_byRank.mp member)
  obtain ⟨x, origin, read⟩ := mem_entriesOf.mp entry.1
  obtain ⟨p, -, rfl⟩ := map_eq_some_iff.mp read
  -- A rule of some policy, or one of the two implicit ones.
  rcases mem_append.mp origin with own | implicit
  · obtain ⟨pol, policy, -, i, indexed, -⟩ := (mem_rankedRules selectors nicLabels).mp own
    have valid := valid pol policy
    simp only [FirewallPolicy.validate, append_eq_nil_iff, flatMap_eq_nil_iff] at valid
    cases dir with
    | ingress => exact regular_of_validate (valid.1.2 (x.2, i) indexed)
    | egress => exact regular_of_validate (valid.2 (x.2, i) indexed)
  · unfold implicitRules at implicit
    split at implicit
    · rcases mem_pair.mp implicit with rfl | rfl
      · exact @regular_of_validate _ _ "" (by decide +kernel) _
      · exact @regular_of_validate _ _ "" (by decide +kernel) _
    · cases implicit

theorem lowering_preserves (policies : List (FirewallPolicy Selector))
  (valid : ∀ pol ∈ policies, pol.validate selectors = []) (defaultPolicy : Option String)
  (fw : CompiledFirewall)
  (compiled : compileFirewall selectors nicLabels policies defaultPolicy = .ok fw) :
  (∀ dir, ∀ cr ∈ fw.rules dir, ∀ id, ∃ parsed,
      parseFwRule (FwRuleWithID.spec ⟨id, compiledToFw cr (dir == .egress)⟩) = .ok parsed) /\
    ∃ v4 v6, splitFamilies ((firewallRules fw).map FwRuleWithID.spec) = .ok (v4, v6) /\
      ∀ dir, ListLowers v4 dir ((fw.rules dir).filter fun cr => !cr.v6) /\
        ListLowers v6 dir ((fw.rules dir).filter fun cr => cr.v6) := by
  have regular := regular_of_compiled selectors nicLabels valid compiled
  constructor
  · intro dir cr listed id
    obtain ⟨p, read⟩ := (regular dir cr listed).cidr
    exact ⟨_, parseFwRule_compiled id dir (regular dir cr listed) read⟩
  · have all : ∀ t ∈ taggedRules fw, CompiledFwRule.Regular t.cr := by
      intro t listed
      refine regular t.dir t.cr ?_
      rw [<- taggedRules_dir]
      exact mem_map_of_mem (mem_filter.mpr ⟨listed, beq_self_eq_true t.dir⟩)
    have split := splitFamilies_lowered all
    rw [<- firewallRules_eq] at split
    refine ⟨_, _, split, fun dir => ?_⟩
    rw [<- taggedRules_dir]
    have v4 := lowered_lowers all 4 (fun t _ p read four => by simpa [four] using bits_le read) dir
    have v6 := lowered_lowers all 16 (fun t _ p read six => by simpa [six] using bits_le read) dir
    exact ⟨by simpa using v4, by simpa using v6⟩

end

def unnamedPing : FirewallPolicyRule := { Mesh.allowAll "10.0.0.0/8" with icmpType := some 8 }

def unadmittedPolicies : List (FirewallPolicy String) :=
  [{ ns := "tenant", name := "ping", interfaceSelector := some "web", priority := none,
     ingress := [unnamedPing], egress := [] }]

theorem unadmitted_rule_rejected : ∃ fw, compileFirewall byLabel ["web"] unadmittedPolicies none = .ok fw /\
    ∃ cr ∈ fw.ingress, parseFwRule (FwRuleWithID.spec ⟨"fw-in-0", compiledToFw cr false⟩) =
      .error (.invalid "ICMP type/code on a proto 0 rule (needs 1 or 58)") := by
  refine ⟨_, rfl, _, mem_cons_self, ?_⟩
  decide +kernel

theorem webFirewall_lowered : ∃ v4 v6, splitFamilies ((firewallRules webFirewall).map FwRuleWithID.spec) = .ok (v4, v6) /\
    ∀ dir, ListLowers v4 dir ((webFirewall.rules dir).filter fun cr => !cr.v6) /\
      ListLowers v6 dir ((webFirewall.rules dir).filter fun cr => cr.v6) :=
  (lowering_preserves byLabel ["web"] webPolicies (by decide +kernel) none webFirewall rfl).2

end Ectobase.Flowplane
